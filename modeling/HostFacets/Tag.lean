import HostFacets.Text.Cut

/-!
Tags and the keys under which they are indexed, `namespace/key=value`.

A namespace has no slash. A key is taken to have no equals sign; one that has is cut at its first,
and the rest is read as part of the value.
-/

namespace HostFacets

/-- An empty namespace or value is an absent one. -/
structure Tag where
  ns : Option String
  key : String
  value : Option String
deriving DecidableEq, Repr

/-- A text that does not hold the delimiter it should be cut at. -/
structure UncutKey where
  text : String
  delimiter : Char
deriving DecidableEq, Repr

/-- Cuts a text at the first `delimiter`. -/
def cutFirst (delimiter : Char) (text : String) : Except UncutKey (String × String) :=
  match Text.cut? [delimiter] text.toList with
  | some (before, after) => .ok (String.ofList before, String.ofList after)
  | none => .error ⟨text, delimiter⟩

namespace Tag

def ofKey (raw : String) : Except UncutKey Tag := do
  let (ns, rest) ← cutFirst '/' raw
  let (key, value) ← cutFirst '=' rest
  return { ns := Text.nonEmpty? ns, key, value := Text.nonEmpty? value }

/-- The key under which a tag is indexed. -/
def toKey (tag : Tag) : String :=
  tag.ns.getD "" ++ "/" ++ tag.key ++ "=" ++ tag.value.getD ""

end Tag

end HostFacets
