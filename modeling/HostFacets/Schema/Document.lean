import HostFacets.Schema
import HostFacets.Yaml.Value

/-!
Schemas written in YAML: a list of `fields`, each with a `name`, a `type` and perhaps its own
`fields`, down to a fixed depth.
-/

namespace HostFacets.Schema

open Yaml (Node)

/-- Lists and records nest at most 128 deep. The schema and its list are two of them, each
definition with its list of children two more. -/
def maxLevels : Nat := 63

/-- The definitions of a list. -/
def listOfNode? (read : Node → Option FieldDef) (node : Node) : Option (List FieldDef) := do
  (← node.list?).mapM read

/-- A definition with at most so many levels: itself, its children and so on. -/
def fieldOfNode? : (levels : Nat) → Node → Option FieldDef
  | 0 => fun _ => none
  | levels + 1 =>
    Yaml.record [
      Yaml.field "name" true Node.text? fun name f => { f with name },
      Yaml.field "type" true (·.name?.bind FieldType.ofName?) fun type f => { f with type },
      Yaml.field "fields" false (listOfNode? (fieldOfNode? levels)) fun fields f =>
        { f with fields }] { name := "", type := .object, fields := [] }

def ofNode? : Node → Option Schema :=
  Yaml.record [
    Yaml.field "fields" true (listOfNode? (fieldOfNode? maxLevels)) fun fields _ => ⟨fields⟩] ⟨[]⟩

/-- Why a document gives no schema. -/
inductive DocumentFault where
  | unreadable
  | invalid (fault : Fault)
deriving DecidableEq, Repr

def ofNode (node : Node) : Except DocumentFault Schema :=
  match ofNode? node with
  | none => .error .unreadable
  | some schema =>
    match schema.validate with
    | .ok () => .ok schema
    | .error fault => .error (.invalid fault)

def ofText (text : String) : Except DocumentFault Schema :=
  match Yaml.Node.ofText? text with
  | none => .error .unreadable
  | some node => ofNode node

end HostFacets.Schema
