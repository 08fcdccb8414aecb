import HostFacets.Json.Draft

/-!
Reading drafts as values of a given shape.

A reader meets the faults of a text in the order in which they stand there: a text that is no JSON
where it is looked at, or a value of another shape than is asked for. `depth` is the number of
containers that may still be opened; a deeper text counts as one that is no JSON.
-/

namespace HostFacets.Json

inductive Fault where
  /-- The text is not JSON. -/
  | malformed
  /-- The text is JSON of another shape. -/
  | mismatch
deriving DecidableEq, Repr

/-- Containers may lie this deep in each other. -/
def maxDepth : Nat := 127

abbrev Reader (α : Type) := (depth : Nat) → Draft → Except Fault α

namespace Draft

/-- The fault of finding this draft where a value of another kind is due. A scalar is read to its
end first, a container only up to its first bracket. -/
def unexpected : Draft → Fault
  | .null | .bool _ | .array _ _ | .object _ _ => .mismatch
  | .number text => if text.value?.isSome then .mismatch else .malformed
  | .string s => if s.decode?.isSome then .mismatch else .malformed
  | .broken => .malformed

mutual

/-- The text is JSON, whatever its numbers, its escapes and its depth. -/
def isWhole : Draft → Bool
  | .array items closed => closed && areWhole items
  | .object members closed => closed && membersAreWhole members
  | .broken => false
  | _ => true

def areWhole : List Draft → Bool
  | [] => true
  | d :: rest => d.isWhole && areWhole rest

def membersAreWhole : List (Spelling × Draft) → Bool
  | [] => true
  | (_, d) :: rest => d.isWhole && membersAreWhole rest

end

mutual

/-- The JSON value of a draft. -/
def value? (depth : Nat) : Draft → Option Json
  | .null => some .null
  | .bool b => some (.bool b)
  | .number text => text.value?
  | .string s => s.text?.map .str
  | .array items closed =>
    match depth, closed with
    | depth + 1, true => (values? depth items).map .arr
    | _, _ => none
  | .object members closed =>
    match depth, closed with
    | depth + 1, true => (entries? depth members).map fun entries => .obj (Members.ofList entries)
    | _, _ => none
  | .broken => none

def values? (depth : Nat) : List Draft → Option (List Json)
  | [] => some []
  | d :: rest => do return (← d.value? depth) :: (← values? depth rest)

def entries? (depth : Nat) : List (Spelling × Draft) → Option (List (String × Json))
  | [] => some []
  | (name, d) :: rest => do return (← name.text?, ← d.value? depth) :: (← entries? depth rest)

end

end Draft

namespace Reader

/-! ### Values -/

def value : Reader Json := fun depth draft =>
  match draft.value? depth with
  | some v => .ok v
  | none => .error .malformed

/-- The members of an object of any kind. -/
def members : Reader Members := fun depth draft =>
  match draft with
  | .object _ _ =>
    match draft.value? depth with
    | some (.obj members) => .ok members
    | _ => .error .malformed
  | draft => .error draft.unexpected

def text : Reader String := fun _ draft =>
  match draft with
  | .string s =>
    match s.text? with
    | some t => .ok t
    | none => .error .malformed
  | draft => .error draft.unexpected

/-- An integer that satisfies `accepts`. -/
def integer (accepts : Int → Bool) : Reader Int := fun _ draft =>
  match draft with
  | .number t =>
    match t.value? with
    | some (.int n) => if accepts n then .ok n else .error .mismatch
    | some _ => .error .mismatch
    | none => .error .malformed
  | draft => .error draft.unexpected

def int64 : Reader Int := integer isInt64

def nat64 : Reader Nat := fun depth draft => (integer isNat64 depth draft).map Int.toNat

/-- A value that may be null. -/
def optional (reader : Reader α) : Reader (Option α) := fun depth draft =>
  match draft with
  | .null => .ok none
  | draft => (reader depth draft).map some

def list (reader : Reader α) : Reader (List α) := fun depth draft =>
  match draft with
  | .array items closed =>
    match depth with
    | 0 => .error .malformed
    | depth + 1 => do
      let values ← items.mapM (reader depth)
      if closed then .ok values else .error .malformed
  | draft => .error draft.unexpected

/-! ### Records -/

/-- Whether a field has to be written. A record may also be written as the list of its fields: there
only `defaulted` fields may be left out, at the end. -/
inductive Presence where
  | required | optional | defaulted
deriving DecidableEq, Repr

/-- A field of a record of type `σ`: its name, and how its value changes a record. -/
structure RecordField (σ : Type) where
  name : String
  presence : Presence
  read : Reader (σ → σ)

/-- A field whose value `set` puts into the record. -/
def field (name : String) (presence : Presence) (reader : Reader α) (set : α → σ → σ) :
    RecordField σ :=
  ⟨name, presence, fun depth draft => (reader depth draft).map set⟩

/-- The members of a record in the order of the text. A field may not come twice; other members are
passed over. -/
def recordMembers (fields : List (RecordField σ)) (depth : Nat) (seen : List String) (record : σ) :
    List (Spelling × Draft) → Except Fault (List String × σ)
  | [] => .ok (seen, record)
  | (name, draft) :: rest =>
    match name.text? with
    | none => .error .malformed
    | some name =>
      match fields.find? (·.name == name) with
      | none =>
        if draft.isWhole then recordMembers fields depth seen record rest else .error .malformed
      | some field =>
        if seen.contains name then .error .mismatch
        else match field.read depth draft with
          | .ok set => recordMembers fields depth (name :: seen) (set record) rest
          | .error fault => .error fault

/-- The fields of a record written as a list. -/
def recordItems (depth : Nat) (closed : Bool) (record : σ) :
    List (RecordField σ) → List Draft → Except Fault σ
  | [], [] => if closed then .ok record else .error .malformed
  | [], _ :: _ => .error .malformed
  | field :: fields, [] =>
    if !closed then .error .malformed
    else if (field :: fields).all (·.presence == .defaulted) then .ok record
    else .error .mismatch
  | field :: fields, draft :: rest =>
    match field.read depth draft with
    | .ok set => recordItems depth closed (set record) fields rest
    | .error fault => .error fault

/-- A record written as an object. -/
def recordObject (fields : List (RecordField σ)) (blank : σ) : Reader σ := fun depth draft =>
  match draft with
  | .object members closed =>
    match depth with
    | 0 => .error .malformed
    | depth + 1 => do
      let (seen, record) ← recordMembers fields depth [] blank members
      if !closed then .error .malformed
      else if fields.any fun field => field.presence == .required && !seen.contains field.name then
        .error .mismatch
      else .ok record
  | draft => .error draft.unexpected

/-- A record written as an object or as the list of its fields. -/
def record (fields : List (RecordField σ)) (blank : σ) : Reader σ := fun depth draft =>
  match draft with
  | .array items closed =>
    match depth with
    | 0 => .error .malformed
    | depth + 1 => recordItems depth closed blank fields items
  | draft => recordObject fields blank depth draft

/-- The first alternative that fits. The whole value has to be JSON before either is tried. -/
def either (first second : Reader α) : Reader α := fun depth draft =>
  match draft.value? depth with
  | none => .error .malformed
  | some _ =>
    match first depth draft with
    | .ok a => .ok a
    | .error _ =>
      match second depth draft with
      | .ok a => .ok a
      | .error _ => .error .mismatch

/-! ### Texts -/

/-- Reads the first value of a text; what follows it is not looked at. -/
def first (reader : Reader α) (text : String) : Except Fault α :=
  reader maxDepth (Draft.ofText text).1

/-- Reads a text that holds one value and nothing else. -/
def whole (reader : Reader α) (text : String) : Except Fault α := do
  let (draft, alone) := Draft.ofText text
  let value ← reader maxDepth draft
  if alone then .ok value else .error .malformed

end Reader

/-- The value of a JSON text. -/
def parse? (text : String) : Option Json := (Reader.value.whole text).toOption

end HostFacets.Json
