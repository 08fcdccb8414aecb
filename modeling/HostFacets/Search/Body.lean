import HostFacets.Constraint
import HostFacets.Order

/-!
Bodies of search requests: one filtered query, and at most one aggregation of terms.
-/

namespace HostFacets.Search

/-- Where an aggregation reads its bucket keys from. -/
inductive KeySource where
  | field (path : String)
  | script (source : String)
deriving DecidableEq, Repr

/-- Which bucket keys an aggregation returns: those listed, or those that a regular expression
matches. -/
inductive KeyFilter where
  | exact (keys : List String)
  | pattern (regex : String)
deriving DecidableEq, Repr

/-- The number of buckets that stands for all distinct values. -/
def bucketCap : Nat := 10000

structure Aggregation where
  keys : KeySource
  size : Nat := bucketCap
  showCountError : Bool := true
  order : List OrderClause := []
  only : Option KeyFilter := none
deriving DecidableEq, Repr

structure Body where
  aggregation : Option Aggregation
  filter : List Constraint
  sourceFields : List String := []
  size : Nat := 0
  first : Option Nat := none
  trackTotalHits : Option Bool := none
deriving Repr

/-! ### Query language -/

def KeyFilter.toJson : KeyFilter → Json
  | .exact keys => .arr (keys.map .str)
  | .pattern regex => .str regex

def Aggregation.toJson (a : Aggregation) : Json :=
  .obj (
    (match a.keys with | .field path => [("field", .str path)] | .script _ => []) ++
    Constraint.optionalMember "include" (a.only.map KeyFilter.toJson) ++
    Constraint.listMember "order" (a.order.map OrderClause.toJson) ++
    (match a.keys with | .field _ => [] | .script source => [("script", .str source)]) ++
    [("show_term_doc_count_error", .bool a.showCountError), ("size", .int a.size)])

namespace Body

/-- The aggregation is requested, and read back, under the name `terms`. -/
def toJson (body : Body) : Json :=
  .obj (
    [("_source", .arr (body.sourceFields.map .str))] ++
    Constraint.optionalMember "aggs"
      (body.aggregation.map fun a => .obj [("terms", .obj [("terms", a.toJson)])]) ++
    Constraint.optionalMember "from" (body.first.map fun n => .int n) ++
    [("query", .obj [("bool", .obj [("filter", .arr (Constraint.toQueries body.filter))])]),
      ("size", .int body.size)] ++
    Constraint.optionalMember "track_total_hits" (body.trackTotalHits.map .bool))

/-- Asks for buckets only, without any document. -/
def ofAggregation (filter : List Constraint) (aggregation : Aggregation) : Body :=
  { aggregation := some aggregation, filter }

/-- Asks for the number of documents that the same filter matches. -/
def countOnly (body : Body) : Body :=
  { aggregation := none, filter := body.filter, first := some 0, trackTotalHits := some true }

@[simp] theorem filter_ofAggregation (filter : List Constraint) (a : Aggregation) :
    (ofAggregation filter a).filter = filter := rfl

@[simp] theorem filter_countOnly (body : Body) : body.countOnly.filter = body.filter := rfl

theorem get?_query_toJson (body : Body) : body.toJson.get? "query" =
    some (.obj [("bool", .obj [("filter", .arr (Constraint.toQueries body.filter))])]) := by
  obtain ⟨aggregation, filter, sourceFields, size, first, trackTotalHits⟩ := body
  cases aggregation <;> cases first <;> rfl

end Body

end HostFacets.Search
