import HostFacets.Filter.Compile
import HostFacets.OperatingSystem
import HostFacets.Search.Dialogue
import HostFacets.Tag
import HostFacets.Window

/-!
Facets: distinct values of the matching hosts, each with the number of hosts that have it.

A facet says which aggregation finds its values, by what names they can be ordered, and how a bucket
is read back. Host tags are indexed under one keyword. Operating systems are not, so a script joins
name, major and minor version for hosts that report all three.
-/

namespace HostFacets

structure Facet (ρ : Type) where
  kind : String
  criterion? : String → Option SortField
  aggregation : Search.Aggregation
  /-- The record of a bucket, or none for a bucket that stands for no value. -/
  decode : Search.Bucket → Except UncutKey (Option ρ)

/-- A value and the number of hosts that have it. -/
structure Counted (α : Type) where
  value : α
  count : Nat
deriving DecidableEq, Repr

/-- The caller's restriction of the tags themselves. -/
structure TagSearch where
  eq : Option String
  regex : Option String
deriving DecidableEq, Repr

namespace Facet

def nonEmpty? (s : Option String) : Option String := s.bind Text.nonEmpty?

/-! ### Tags -/

/-- The keyword that holds each tag as `namespace/key=value`. -/
def tagField : String := "host.tags_search"

/-- An exact tag wins over a pattern. -/
def tagFilter (search : Option TagSearch) : Option Search.KeyFilter := do
  let search ← search
  match nonEmpty? search.eq with
  | some key => some (.exact [key])
  | none => (nonEmpty? search.regex).map .pattern

def tagCriterion? : String → Option SortField
  | "count" => some .count
  | "tag" => some .key
  | _ => none

def decodeTag (bucket : Search.Bucket) : Except UncutKey (Option (Counted Tag)) :=
  (Tag.ofKey bucket.key).map fun tag => some ⟨tag, bucket.docCount⟩

def tags (search : Option TagSearch) : Facet (Counted Tag) where
  kind := "tags"
  criterion? := tagCriterion?
  aggregation := { keys := .field tagField, only := tagFilter search }
  decode := decodeTag

/-! ### Operating systems -/

def osField (part : String) : String := "host.system_profile_facts.operating_system." ++ part

/-- The script's expression for a field of the document. -/
def osDoc (part : String) : String := "doc['" ++ osField part ++ "']"

def osScript : String :=
  let present (part : String) := osDoc part ++ ".size()!=0"
  let value (part : String) := osDoc part ++ ".value"
  let join := " + '" ++ OperatingSystem.delimiter ++ "' + "
  "if(" ++ present "name" ++ " && " ++ present "major" ++ " && " ++ present "minor" ++
    ")\x7breturn " ++ value "name" ++ join ++ value "major" ++ join ++ value "minor" ++ ";\x7d"

def osCriterion? : String → Option SortField
  | "count" => some .count
  | "operating_system" => some .key
  | _ => none

def decodeOs (bucket : Search.Bucket) : Except UncutKey (Option (Counted OperatingSystem)) :=
  .ok ((OperatingSystem.ofKey? bucket.key).map fun os => ⟨os, bucket.docCount⟩)

def operatingSystems : Facet (Counted OperatingSystem) where
  kind := "operating_systems"
  criterion? := osCriterion?
  aggregation := { keys := .script osScript }
  decode := decodeOs

end Facet

end HostFacets
