import HostFacets.Json

/-!
The order in which the engine returns buckets.

A caller names a criterion, a direction, or both. The bucket key is always the last criterion: it
tells all buckets apart, so pages cut from different responses line up.
-/

namespace HostFacets

/-- What buckets are compared by: the number of their documents, or their keys. -/
inductive SortField where
  | count | key
deriving DecidableEq, Repr

inductive Direction where
  | ascending | descending
deriving DecidableEq, Repr

structure OrderClause where
  field : SortField
  direction : Direction
deriving DecidableEq, Repr

def SortField.name : SortField → String
  | .count => "_count"
  | .key => "_key"

def Direction.name : Direction → String
  | .ascending => "ASC"
  | .descending => "DESC"

/-- `asc` or `desc` in any case of ASCII letters. -/
def Direction.ofName? (name : String) : Option Direction :=
  let lower := name.toList.map Char.toLower
  if lower = ['a', 's', 'c'] then some .ascending
  else if lower = ['d', 'e', 's', 'c'] then some .descending
  else none

def OrderClause.toJson (clause : OrderClause) : Json :=
  .obj [(clause.field.name, .str clause.direction.name)]

namespace Order

/-- Why the order arguments are refused. -/
inductive Fault where
  | unknownCriterion (name : String)
  | unknownDirection (name : String)
deriving DecidableEq, Repr

def Fault.message : Fault → String
  | .unknownCriterion name => "invalid order_by parameter: " ++ name
  | .unknownDirection name => "invalid order_how parameter: " ++ name

/-- Looks up an argument; an empty one counts as missing. -/
def lookup (find : String → Option α) (fault : String → Fault) :
    Option String → Except Fault (Option α)
  | none => .ok none
  | some "" => .ok none
  | some name =>
    match find name with
    | some a => .ok (some a)
    | none => .error (fault name)

/-- The caller's own clause. A criterion alone is ascending, a direction alone is for the count. -/
def requested : Option SortField → Option Direction → List OrderClause
  | some field, some direction => [⟨field, direction⟩]
  | some field, none => [⟨field, .ascending⟩]
  | none, some direction => [⟨.count, direction⟩]
  | none, none => []

/-- Ties are broken by the key. -/
def tieBreak : OrderClause := ⟨.key, .ascending⟩

/-- The clauses of a pair of arguments, for the criteria named by `criterion?`. A fault of the
criterion comes first. -/
def ofArguments (criterion? : String → Option SortField) (orderBy orderHow : Option String) :
    Except Fault (List OrderClause) := do
  let field ← lookup criterion? .unknownCriterion orderBy
  let direction ← lookup Direction.ofName? .unknownDirection orderHow
  return requested field direction ++ [tieBreak]

end Order

end HostFacets
