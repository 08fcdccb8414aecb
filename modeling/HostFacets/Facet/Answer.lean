import HostFacets.Facet.Listing

/-!
Pages of records as JSON: the records under `data`, and under `meta` their number and that of all
buckets.
-/

namespace HostFacets

def optionalText : Option String → Json
  | some s => .str s
  | none => .null

def Tag.toJson (tag : Tag) : Json :=
  .obj [("key", .str tag.key), ("namespace", optionalText tag.ns),
    ("value", optionalText tag.value)]

def OperatingSystem.toJson (os : OperatingSystem) : Json :=
  .obj [("major", .str os.major), ("minor", .str os.minor), ("name", .str os.name)]

namespace Facet

def tagRecord (record : Counted Tag) : Json :=
  .obj [("count", .int record.count), ("tag", record.value.toJson)]

def osRecord (record : Counted OperatingSystem) : Json :=
  .obj [("count", .int record.count), ("operating_system", record.value.toJson)]

def Page.toJson (render : ρ → Json) (page : Page ρ) : Json :=
  .obj [("data", .arr (page.records.map render)),
    ("meta", .obj [("count", .int page.records.length), ("total", .int page.total)])]

end Facet

end HostFacets
