import HostFacets.Yaml.Node

/-!
Nodes read as texts, lists, numbers and records.

A text is any scalar, however it is written. A number has to be plain, or a literal block tagged as
a number: decimal digits without a leading zero, or digits after `0x`, `0o` or `0b`, and before them
perhaps a plus sign.
-/

namespace HostFacets.Yaml

namespace Node

def text? : Node → Option String
  | .scalar _ _ text => some text
  | .sequence _ | .mapping _ | .loop => none

/-- Nothing at all is an empty list. -/
def list? : Node → Option (List Node)
  | .sequence items => some items
  | .scalar .plain _ "" => some []
  | .scalar _ _ _ | .mapping _ | .loop => none

def number? (text : List Char) : Option Nat :=
  let unsigned := match text with
    | '+' :: rest => rest
    | text => text
  match unsigned with
  | '0' :: 'x' :: rest => Text.natOfDigits? 16 rest
  | '0' :: 'o' :: rest => Text.natOfDigits? 8 rest
  | '0' :: 'b' :: rest => Text.natOfDigits? 2 rest
  | ['0'] => some 0
  | '0' :: _ => none
  | digits => Text.natOfDigits? 10 digits

/-- A number below `bound`. -/
def natBelow? (bound : Nat) : Node → Option Nat
  | .scalar .plain _ text | .scalar .literal (some "tag:yaml.org,2002:int") text =>
    (number? text.toList).filter (· < bound)
  | .scalar _ _ _ | .sequence _ | .mapping _ | .loop => none

/-- A text that names one of several cases. A tag may give the name, with or without its mark, if
nothing comes after it. -/
def name? : Node → Option String
  | .scalar _ none text => some text
  | .scalar style (some tag) text =>
    if text.isEmpty || (style == .plain && ["~", "null", "Null", "NULL"].contains text) then
      some (String.ofList (match tag.toList with
        | '!' :: name => name
        | name => name))
    else none
  | .sequence _ | .mapping _ | .loop => none

end Node

/-! ### Records -/

/-- A field of a record of type `σ`: its name, and how its value changes a record. -/
structure RecordField (σ : Type) where
  name : String
  required : Bool
  read : Node → Option (σ → σ)

def field (name : String) (required : Bool) (read : Node → Option α) (set : α → σ → σ) :
    RecordField σ :=
  ⟨name, required, fun node => (read node).map set⟩

/-- The entries of a record; a field may not come twice, other entries are passed over. -/
def recordEntries (fields : List (RecordField σ)) (seen : List String) (record : σ) :
    List (Node × Node) → Option (List String × σ)
  | [] => some (seen, record)
  | (key, value) :: rest => do
    let name ← key.text?
    match fields.find? (·.name == name) with
    | none => recordEntries fields seen record rest
    | some field =>
      if seen.contains name then none
      else recordEntries fields (name :: seen) ((← field.read value) record) rest

def record (fields : List (RecordField σ)) (blank : σ) : Node → Option σ
  | .mapping entries => do
    let (seen, record) ← recordEntries fields [] blank entries
    if fields.all fun field => !field.required || seen.contains field.name then some record
    else none
  | .scalar _ _ _ | .sequence _ | .loop => none

end HostFacets.Yaml
