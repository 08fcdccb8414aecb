import HostFacets.Json

/-!
Conditions on a host document, as the search engine understands them.

A constraint is one entry of a query's filter list. `toQuery` writes it in the engine's query
language; clauses of a `bool` that are empty are left out, and a `should` clause always asks for one
match, since next to a filter it would otherwise be optional.
-/

namespace HostFacets

/-- The bounds of a range. A bound that is set may still be null. -/
structure Bounds where
  gt : Option Json
  gte : Option Json
  lt : Option Json
  lte : Option Json
deriving Repr

namespace Bounds

def empty : Bounds := ⟨none, none, none, none⟩

def isEmpty (b : Bounds) : Bool :=
  b.gt.isNone && b.gte.isNone && b.lt.isNone && b.lte.isNone

end Bounds

inductive Constraint where
  | term (field : String) (value : Json)
  | wildcard (field pattern : String) (caseInsensitive : Bool)
  | range (field : String) (bounds : Bounds)
  | present (field : String)
  | bool (filter should mustNot : List Constraint)
  | nested (path : String) (constraints : List Constraint)
deriving Repr

namespace Constraint

def all (constraints : List Constraint) : Constraint := .bool constraints [] []

def any (constraints : List Constraint) : Constraint := .bool [] constraints []

def noneOf (constraints : List Constraint) : Constraint := .bool [] [] constraints

/-- The field has no value. -/
def missing (field : String) : Constraint := noneOf [.present field]

/-! ### Query language -/

/-- A member that is left out where there is no value. -/
def optionalMember (name : String) : Option Json → Json.Members
  | some value => [(name, value)]
  | none => []

/-- A list member that is left out where the list is empty. -/
def listMember (name : String) (items : List Json) : Json.Members :=
  if items.isEmpty then [] else [(name, .arr items)]

def boundsQuery (b : Bounds) : Json :=
  .obj (optionalMember "gt" b.gt ++ optionalMember "gte" b.gte ++
    optionalMember "lt" b.lt ++ optionalMember "lte" b.lte)

/-- The clauses of a `bool` query, given as rendered lists. -/
def boolQuery (filter should mustNot : List Json) : Json :=
  .obj [("bool", .obj (listMember "filter" filter ++
    (if should.isEmpty then [] else [("minimum_should_match", .int 1)]) ++
    listMember "must_not" mustNot ++ listMember "should" should))]

mutual

def toQuery : Constraint → Json
  | .term field value => .obj [("term", .obj [(field, value)])]
  | .wildcard field pattern caseInsensitive =>
    .obj [("wildcard", .obj [(field, .obj
      ((if caseInsensitive then [("case_insensitive", .bool true)] else []) ++
        [("value", .str pattern)]))])]
  | .range field bounds => .obj [("range", .obj [(field, boundsQuery bounds)])]
  | .present field => .obj [("exists", .obj [("field", .str field)])]
  | .bool filter should mustNot =>
    boolQuery (toQueries filter) (toQueries should) (toQueries mustNot)
  | .nested path constraints =>
    .obj [("nested", .obj [("path", .str path),
      ("query", .obj [("bool", .obj [("filter", .arr (toQueries constraints))])])])]

def toQueries : List Constraint → List Json
  | [] => []
  | c :: rest => c.toQuery :: toQueries rest

end

end Constraint

end HostFacets
