import HostFacets.Text.Cut

/-!
Operating systems and the keys that the engine's script joins for them,
`name||||major||||minor`.
-/

namespace HostFacets

structure OperatingSystem where
  name : String
  major : String
  minor : String
deriving DecidableEq, Repr

namespace OperatingSystem

def delimiter : String := "||||"

/-- The first segment of a text and what follows its delimiter. A text without a delimiter is one
segment. -/
def segment (text : List Char) : List Char × List Char :=
  (Text.cut? delimiter.toList text).getD (text, [])

/-- The first three segments of a key; missing ones are empty. The empty key stands for hosts
without complete operating system facts. -/
def ofKey? (raw : String) : Option OperatingSystem :=
  if raw.isEmpty then none
  else
    let (name, rest) := segment raw.toList
    let (major, rest) := segment rest
    let (minor, _) := segment rest
    some ⟨String.ofList name, String.ofList major, String.ofList minor⟩

end OperatingSystem

end HostFacets
