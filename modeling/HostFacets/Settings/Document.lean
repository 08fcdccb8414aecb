import HostFacets.Settings
import HostFacets.Yaml.Value

/-!
Settings written in YAML. The engine's address and index have to be given, all else has a default.
-/

namespace HostFacets.Settings

open Yaml (Node)

def engineOfNode? : Node → Option EngineSettings :=
  Yaml.record [
    Yaml.field "url" true Node.text? fun url e => { e with url },
    Yaml.field "username" false Node.text? fun username e => { e with username },
    Yaml.field "password" false Node.text? fun password e => { e with password },
    Yaml.field "index" true Node.text? fun index e => { e with index },
    Yaml.field "timeout_secs" false (Node.natBelow? UInt64.size) fun timeoutSecs e =>
      { e with timeoutSecs }] { url := "", index := "" }

def ofNode? : Node → Option Settings :=
  Yaml.record [
    Yaml.field "port" false (Node.natBelow? portBound) fun port s => { s with port },
    Yaml.field "log_level" false Node.text? fun logLevel s => { s with logLevel },
    Yaml.field "schema_path" false Node.text? fun schemaPath s => { s with schemaPath },
    Yaml.field "elasticsearch" true engineOfNode? fun engine s => { s with engine }]
    { engine := { url := "", index := "" } }

def ofText? (text : String) : Option Settings := (Yaml.Node.ofText? text).bind ofNode?

end HostFacets.Settings
