/-!
The host fields that can be filtered on, and how their values are typed.

A schema is a forest of field definitions. In a valid one exactly the containers have children;
`validate` reports the first definition, parents before children, for which this fails.
-/

namespace HostFacets

inductive ScalarType where
  | string | integer | float | boolean | timestamp | uuid
deriving DecidableEq, Repr

/-- The children of an `object` are addressed by a dotted path on the same document, those of a
`nested` field lie in documents of their own. -/
inductive FieldType where
  | scalar (type : ScalarType)
  | object
  | nested
deriving DecidableEq, Repr

structure FieldDef where
  name : String
  type : FieldType
  fields : List FieldDef
deriving Repr

structure Schema where
  fields : List FieldDef
deriving Repr

def ScalarType.name : ScalarType → String
  | .string => "string"
  | .integer => "integer"
  | .float => "float"
  | .boolean => "boolean"
  | .timestamp => "timestamp"
  | .uuid => "uuid"

namespace FieldType

def name : FieldType → String
  | .scalar type => type.name
  | .object => "object"
  | .nested => "nested"

def all : List FieldType :=
  [.scalar .string, .scalar .integer, .scalar .float, .scalar .boolean, .scalar .timestamp,
    .scalar .uuid, .object, .nested]

def ofName? (name : String) : Option FieldType := all.find? (·.name == name)

def isContainer : FieldType → Bool
  | .scalar _ => false
  | .object | .nested => true

end FieldType

/-- A name below a path. An empty path adds nothing to the name. -/
def joinPath (path name : String) : String :=
  if path.isEmpty then name else path ++ "." ++ name

/-- The first definition of that name. -/
def findField (fields : List FieldDef) (name : String) : Option FieldDef :=
  fields.find? (·.name == name)

namespace FieldDef

def child? (field : FieldDef) (name : String) : Option FieldDef := findField field.fields name

end FieldDef

namespace Schema

def field? (schema : Schema) (name : String) : Option FieldDef := findField schema.fields name

inductive Fault where
  | emptyContainer (path : String)
  | scalarWithChildren (path : String)
deriving DecidableEq, Repr

def Fault.message : Fault → String
  | .emptyContainer path => s!"schema field {path} has no child fields"
  | .scalarWithChildren path => s!"schema field {path} is a scalar but declares child fields"

/-- The fault of one definition, whatever its children are like. -/
def ownFault? (type : FieldType) (fields : List FieldDef) (path : String) : Option Fault :=
  if type.isContainer && fields.isEmpty then some (.emptyContainer path)
  else if !type.isContainer && !fields.isEmpty then some (.scalarWithChildren path)
  else none

mutual

def checkField (parent : String) : FieldDef → Except Fault Unit
  | ⟨name, type, fields⟩ =>
    match ownFault? type fields (joinPath parent name) with
    | some fault => .error fault
    | none => checkFields (joinPath parent name) fields

def checkFields (parent : String) : List FieldDef → Except Fault Unit
  | [] => .ok ()
  | field :: rest =>
    match checkField parent field with
    | .ok () => checkFields parent rest
    | .error fault => .error fault

end

def validate (schema : Schema) : Except Fault Unit := checkFields "" schema.fields

end Schema

end HostFacets
