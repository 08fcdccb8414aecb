import HostFacets.Filter.Operator

/-!
Host filters and their compilation to constraints.

A filter tree is an object whose names are schema fields or the combinators `AND`, `OR` and `NOT`.
A scalar field takes an object of operators. An `object` field takes a filter tree for the fields
below its path, a `nested` field one whose constraints have to hold of one nested document. The
members of a tree are visited in their order, so the first fault of that walk is the one reported.
-/

namespace HostFacets

/-- A filter tree that has not been checked against a schema. -/
structure Filter where
  members : Json.Members
deriving Repr

namespace Filter

inductive ShapeFault where
  | noObject (got : Json)
  | noList (got : Json)
deriving DecidableEq, Repr

def ShapeFault.message : ShapeFault → String
  | .noObject got => "expected an object, got " ++ got.print
  | .noList got => "expected a list, got " ++ got.print

inductive Error where
  | unknownField (path : String)
  | unsupportedOperator (field operator : String)
  | invalidValue (field : String) (fault : ValueFault)
  | malformed (path : String) (fault : ShapeFault)
deriving DecidableEq, Repr

def Error.message (reasons : Reasons) : Error → String
  | .unknownField path => "unknown filter field: " ++ path
  | .unsupportedOperator field operator =>
    "unsupported operator '" ++ operator ++ "' for field " ++ field
  | .invalidValue field fault => "invalid value for " ++ field ++ ": " ++ fault.message reasons
  | .malformed path fault => "malformed filter at " ++ path ++ ": " ++ fault.message

def ofJson : Json → Except Error Filter
  | .obj members => .ok ⟨members⟩
  | value => .error (.malformed "hostFilter" (.noObject value))

inductive Combinator where
  | all | any | not
deriving DecidableEq, Repr

def Combinator.ofName? : String → Option Combinator
  | "AND" => some .all
  | "OR" => some .any
  | "NOT" => some .not
  | _ => none

/-- The fields visible at one level of a tree, and the path they live under. -/
structure Scope where
  path : String
  fields : List FieldDef
deriving Repr

namespace Scope

def fieldPath (scope : Scope) (name : String) : String := joinPath scope.path name

def child (scope : Scope) (field : FieldDef) : Scope := ⟨scope.fieldPath field.name, field.fields⟩

end Scope

/-- The constraints that the operators of one field set. -/
def compileOperators (field : String) (type : FieldType) (operators : Json.Members) :
    Except Error (List Constraint) :=
  match operators.mapM fun (name, value) => Condition.ofOperator type name value with
  | .ok conditions => .ok (constraints field conditions)
  | .error (.unsupported operator) => .error (.unsupportedOperator field operator)
  | .error (.invalid fault) => .error (.invalidValue field fault)

/-- One constraint for each arm of an `AND`. -/
def conjunction (arms : List (List Constraint)) : List Constraint := arms.map .all

/-- An `OR` without arms places no restriction. -/
def disjunction (arms : List (List Constraint)) : List Constraint :=
  if arms.isEmpty then [] else [.any (arms.map .all)]

def negation (inner : List Constraint) : List Constraint := [.noneOf [.all inner]]

/-- The fault of a field whose value is no object. -/
def misplaced (scope : Scope) (name : String) (node : Json) : Except Error (List Constraint) :=
  match findField scope.fields name with
  | none => .error (.unknownField (scope.fieldPath name))
  | some _ => .error (.malformed (scope.fieldPath name) (.noObject node))

mutual

def compileTree (scope : Scope) : List (String × Json) → Except Error (List Constraint)
  | [] => .ok []
  | (name, node) :: rest =>
    match compileEntry scope name node with
    | .ok first => (compileTree scope rest).map (first ++ ·)
    | .error e => .error e

def compileEntry (scope : Scope) (name : String) : Json → Except Error (List Constraint)
  | .arr arms =>
    match Combinator.ofName? name with
    | some .all => (compileArms scope name arms).map conjunction
    | some .any => (compileArms scope name arms).map disjunction
    | some .not => .error (.malformed (scope.fieldPath name) (.noObject (.arr arms)))
    | none => misplaced scope name (.arr arms)
  | .obj members =>
    match Combinator.ofName? name with
    | some .not => (compileTree scope members).map negation
    | some _ => .error (.malformed (scope.fieldPath name) (.noList (.obj members)))
    | none =>
      match findField scope.fields name with
      | none => .error (.unknownField (scope.fieldPath name))
      | some field =>
        match field.type with
        | .object => compileTree (scope.child field) members
        | .nested =>
          (compileTree (scope.child field) members).map fun inner =>
            [.nested (scope.fieldPath name) inner]
        | type => compileOperators (scope.fieldPath name) type members
  | node =>
    match Combinator.ofName? name with
    | some .not => .error (.malformed (scope.fieldPath name) (.noObject node))
    | some _ => .error (.malformed (scope.fieldPath name) (.noList node))
    | none => misplaced scope name node

def compileArms (scope : Scope) (name : String) :
    List Json → Except Error (List (List Constraint))
  | [] => .ok []
  | .obj members :: rest =>
    match compileTree scope members with
    | .ok arm => (compileArms scope name rest).map (arm :: ·)
    | .error e => .error e
  | arm :: _ => .error (.malformed (scope.fieldPath name) (.noObject arm))

end

/-- The constraints of a filter whose fields are addressed under the path `root`. A missing filter
has none. -/
def compile (root : List String) (schema : Schema) (filter : Option Filter) :
    Except Error (List Constraint) :=
  match filter with
  | none => .ok []
  | some filter => compileTree ⟨".".intercalate root, schema.fields⟩ filter.members

end Filter

end HostFacets
