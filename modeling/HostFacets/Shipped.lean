import HostFacets.FileTree

/-!
The settings and the schema that the service comes with, under the paths where it looks for them.
-/

namespace HostFacets.Shipped

def lines (ls : List String) : String := String.join (ls.map (· ++ "\n"))

def settings : String := lines [
  "port: 4000",
  "log_level: info",
  "schema_path: config/host_schema.yaml",
  "",
  "elasticsearch:",
  "  url: \"http://localhost:9200\"",
  "  index: \"xjoin.inventory.hosts\"",
  "  timeout_secs: 30"]

def schemaPath : String := "config/host_schema.yaml"

def schema : String := lines [
  "fields:",
  "  - name: id",
  "    type: uuid",
  "  - name: account",
  "    type: string",
  "  - name: org_id",
  "    type: string",
  "  - name: display_name",
  "    type: string",
  "  - name: ansible_host",
  "    type: string",
  "  - name: fqdn",
  "    type: string",
  "  - name: insights_id",
  "    type: uuid",
  "  - name: created_on",
  "    type: timestamp",
  "  - name: modified_on",
  "    type: timestamp",
  "  - name: stale_timestamp",
  "    type: timestamp",
  "  - name: reporter",
  "    type: string",
  "",
  "  - name: tags",
  "    type: nested",
  "    fields:",
  "      - name: namespace",
  "        type: string",
  "      - name: key",
  "        type: string",
  "      - name: value",
  "        type: string",
  "",
  "  - name: system_profile_facts",
  "    type: object",
  "    fields:",
  "      - name: arch",
  "        type: string",
  "      - name: os_kernel_version",
  "        type: string",
  "      - name: infrastructure_type",
  "        type: string",
  "      - name: number_of_cpus",
  "        type: integer",
  "      - name: cores_per_socket",
  "        type: integer",
  "      - name: system_memory_bytes",
  "        type: integer",
  "      - name: sap_system",
  "        type: boolean",
  "      - name: operating_system",
  "        type: object",
  "        fields:",
  "          - name: name",
  "            type: string",
  "          - name: major",
  "            type: integer",
  "          - name: minor",
  "            type: integer"]

/-- The folder in which the service runs. -/
def files : FileTree :=
  .folder [("config",
    .folder [("gateway.yaml", .file settings), ("host_schema.yaml", .file schema)])]

end HostFacets.Shipped
