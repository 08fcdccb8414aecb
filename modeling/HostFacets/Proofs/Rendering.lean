import HostFacets.Proofs.DraftValue
import HostFacets.Proofs.Operators
import HostFacets.Search.Body

/-!
What rendered queries say of a document.

`QueryHolds` evaluates a query as JSON, by the rules of the engine's query language and without a
look at the constraint it was rendered from. The two readings agree for every constraint. An engine
may ask for any number of `should` clauses where a query does not say how many have to hold.
-/

namespace HostFacets

/-! ### The query language -/

section Evaluation

variable {δ : Type u} (I : Interpretation δ) (unstated : Json.Members → Nat)

/-- How many clauses of `should` have to hold. -/
def requiredMatches (clauses : Json.Members) : Nat :=
  match clauses.get? "minimum_should_match" with
  | some (.int n) => n.toNat
  | _ => unstated clauses

/-- A wildcard distinguishes upper and lower case unless it says otherwise. -/
def ignoresCase (options : Json.Members) : Bool :=
  match options.get? "case_insensitive" with
  | some (.bool flag) => flag
  | _ => false

/-- A query about one field. -/
def FieldQueryHolds (kind : String) (body : Json.Members) (d : δ) : Prop :=
  match kind, body with
  | "term", [(field, value)] => I.term field value d
  | "wildcard", [(field, .obj options)] =>
    ∃ pattern, Json.Members.get? options "value" = some (.str pattern) ∧
      I.wildcard field pattern (ignoresCase options) d
  | "range", [(field, .obj bounds)] =>
    ∀ side value, Json.Members.get? bounds (Filter.Side.name side) = some value →
      I.bound field side value d
  | "exists", [("field", .str field)] => I.present field d
  | _, _ => False

mutual

/-- A query holds of a document. -/
def QueryHolds : Json → δ → Prop
  | .obj [(kind, .obj body)], d =>
    if kind = "bool" then ClausesHold (requiredMatches unstated body) body d
    else if kind = "nested" then
      ∃ path, Json.Members.get? body "path" = some (.str path) ∧
        ∃ e, I.nested path d e ∧ InnerHolds body e
    else FieldQueryHolds I kind body d
  | _, _ => False

/-- All clauses of a `bool` hold, where `need` of those under `should` are asked for. -/
def ClausesHold (need : Nat) : List (String × Json) → δ → Prop
  | [], _ => True
  | (name, clause) :: rest, d => ClauseHolds need name clause d ∧ ClausesHold need rest d

def ClauseHolds (need : Nat) (name : String) : Json → δ → Prop
  | .arr queries, d =>
    if name = "filter" then EveryQueryHolds queries d
    else if name = "must_not" then ¬ AtLeastHold 1 queries d
    else if name = "should" then AtLeastHold need queries d
    else False
  -- the number of clauses that have to hold is read together with `should`
  | .int _, _ => name = "minimum_should_match"
  | _, _ => False

/-- The query among the members of a `nested` holds. -/
def InnerHolds : List (String × Json) → δ → Prop
  | [], _ => False
  | (name, query) :: rest, d => if name = "query" then QueryHolds query d else InnerHolds rest d

def EveryQueryHolds : List Json → δ → Prop
  | [], _ => True
  | query :: rest, d => QueryHolds query d ∧ EveryQueryHolds rest d

/-- At least so many of the queries hold. -/
def AtLeastHold : Nat → List Json → δ → Prop
  | 0, _, _ => True
  | _ + 1, [], _ => False
  | n + 1, query :: rest, d => QueryHolds query d ∧ AtLeastHold n rest d ∨ AtLeastHold (n + 1) rest d

end

/-! ### Single queries -/

variable {I unstated} {d : δ}

lemma queryHolds_field {kind : String} (hbool : kind ≠ "bool") (hnested : kind ≠ "nested")
    (body : Json.Members) :
    QueryHolds I unstated (.obj [(kind, .obj body)]) d ↔ FieldQueryHolds I kind body d := by
  rw [QueryHolds, if_neg hbool, if_neg hnested]

lemma get?_boundsQuery (b : Bounds) (side : Filter.Side) :
    (Constraint.boundsQuery b).get? side.name = b.get side := by
  obtain ⟨gt, gte, lt, lte⟩ := b
  cases side <;> cases gt <;> cases gte <;> cases lt <;> cases lte <;> rfl

/-! ### Compound queries -/

section Clauses

variable {need : Nat}

lemma clausesHold_append (clauses clauses' : Json.Members) :
    ClausesHold I unstated need (clauses ++ clauses') d ↔
      ClausesHold I unstated need clauses d ∧ ClausesHold I unstated need clauses' d := by
  induction clauses with
  | nil => simp [ClausesHold]
  | cons clause rest ih =>
    obtain ⟨name, clause⟩ := clause
    simp [ClausesHold, ih, and_assoc]

lemma clausesHold_singleton (name : String) (clause : Json) :
    ClausesHold I unstated need [(name, clause)] d ↔ ClauseHolds I unstated need name clause d := by
  simp [ClausesHold]

/-- A clause that is left out where it is empty restricts nothing there. -/
lemma clausesHold_listMember (name : String) (queries : List Json) :
    ClausesHold I unstated need (Constraint.listMember name queries) d ↔
      queries = [] ∨ ClauseHolds I unstated need name (.arr queries) d := by
  cases queries with
  | nil => simp [Constraint.listMember, ClausesHold]
  | cons query rest => simp [Constraint.listMember, clausesHold_singleton]

end Clauses

/-- The clauses of a rendered `bool`: one match is asked for exactly where there is a `should`. -/
lemma queryHolds_boolQuery (filter should mustNot : List Json) :
    QueryHolds I unstated (Constraint.boolQuery filter should mustNot) d ↔
      EveryQueryHolds I unstated filter d ∧
        (should = [] ∨ AtLeastHold I unstated 1 should d) ∧ ¬ AtLeastHold I unstated 1 mustNot d := by
  have hneed : should ≠ [] → requiredMatches unstated (Constraint.listMember "filter" filter ++
      (if should.isEmpty then [] else [("minimum_should_match", .int 1)]) ++
      Constraint.listMember "must_not" mustNot ++ Constraint.listMember "should" should) = 1 := by
    intro hne
    cases filter <;> simp [requiredMatches, Constraint.listMember, hne]
  rw [Constraint.boolQuery, QueryHolds, if_pos rfl]
  generalize requiredMatches unstated _ = need at hneed ⊢
  have hnumber : ClausesHold I unstated need
      (if should.isEmpty then [] else [("minimum_should_match", .int 1)]) d := by
    cases should <;> simp [ClausesHold, ClauseHolds]
  have hfilter : filter = [] ∨ EveryQueryHolds I unstated filter d ↔
      EveryQueryHolds I unstated filter d := by
    cases filter <;> simp [EveryQueryHolds]
  have hmustNot : mustNot = [] ∨ ¬ AtLeastHold I unstated 1 mustNot d ↔
      ¬ AtLeastHold I unstated 1 mustNot d := by
    cases mustNot <;> simp [AtLeastHold]
  have hshould : should = [] ∨ AtLeastHold I unstated need should d ↔
      should = [] ∨ AtLeastHold I unstated 1 should d := by
    by_cases hne : should = []
    · simp [hne]
    · rw [hneed hne]
  simp only [clausesHold_append, clausesHold_listMember, hnumber, and_true]
  simp [ClauseHolds, hfilter, hmustNot, hshould, and_comm, and_left_comm]

/-- A query that only filters. -/
lemma queryHolds_filterQuery (queries : List Json) :
    QueryHolds I unstated (.obj [("bool", .obj [("filter", .arr queries)])]) d ↔
      EveryQueryHolds I unstated queries d := by
  rw [QueryHolds, if_pos rfl, clausesHold_singleton, ClauseHolds, if_pos rfl]

/-! ### Constraints keep their meaning -/

-- By induction on the constraint. The document stays arbitrary, since a nested query changes it.
mutual

lemma queryHolds_toQuery : ∀ (c : Constraint) (d : δ),
    QueryHolds I unstated c.toQuery d ↔ c.Holds I d
  | .term field value, d => by
    rw [Constraint.toQuery, queryHolds_field (by decide) (by decide)]
    rfl
  | .wildcard field pattern caseInsensitive, d => by
    rw [Constraint.toQuery, queryHolds_field (by decide) (by decide)]
    cases caseInsensitive <;> simp [FieldQueryHolds, Constraint.Holds, ignoresCase]
  | .range field bounds, d => by
    rw [Constraint.toQuery, queryHolds_field (by decide) (by decide), Constraint.Holds]
    change (∀ side value, (Constraint.boundsQuery bounds).get? side.name = some value →
      I.bound field side value d) ↔ _
    simp only [get?_boundsQuery]
  | .present field, d => by
    rw [Constraint.toQuery, queryHolds_field (by decide) (by decide)]
    rfl
  | .bool filter should mustNot, d => by
    have hnil : Constraint.toQueries should = [] ↔ should = [] := by
      cases should <;> simp [Constraint.toQueries]
    rw [Constraint.toQuery, queryHolds_boolQuery, Constraint.Holds, everyQueryHolds_toQueries filter,
      atLeastHold_one_toQueries should, atLeastHold_one_toQueries mustNot, hnil]
  | .nested path constraints, d => by
    rw [Constraint.toQuery, QueryHolds, if_neg (by decide), if_pos rfl, Constraint.Holds]
    simp [InnerHolds, queryHolds_filterQuery, everyQueryHolds_toQueries constraints]

lemma everyQueryHolds_toQueries : ∀ (cs : List Constraint) (d : δ),
    EveryQueryHolds I unstated (Constraint.toQueries cs) d ↔ AllHold I cs d
  | [], d => by simp [Constraint.toQueries, EveryQueryHolds]
  | c :: rest, d => by
    rw [Constraint.toQueries, EveryQueryHolds, AllHold, queryHolds_toQuery c,
      everyQueryHolds_toQueries rest]

lemma atLeastHold_one_toQueries : ∀ (cs : List Constraint) (d : δ),
    AtLeastHold I unstated 1 (Constraint.toQueries cs) d ↔ SomeHolds I cs d
  | [], d => by simp [Constraint.toQueries, AtLeastHold, SomeHolds]
  | c :: rest, d => by
    rw [Constraint.toQueries, AtLeastHold, SomeHolds, queryHolds_toQuery c,
      atLeastHold_one_toQueries rest, AtLeastHold, and_true]

end

variable (I unstated)

/-- **Rendering keeps the meaning of constraints**, for every interpretation and document: a rendered
constraint is evaluated to what the constraint says, and the query of a rendered request to the
conjunction of its filter. -/
theorem toQuery_preserves_meaning (c : Constraint) (body : Search.Body) (d : δ) :
    (QueryHolds I unstated c.toQuery d ↔ c.Holds I d) ∧
      ∃ query, body.toJson.get? "query" = some query ∧
        (QueryHolds I unstated query d ↔ AllHold I body.filter d) := by
  refine ⟨queryHolds_toQuery c d, _, body.get?_query_toJson, ?_⟩
  rw [queryHolds_filterQuery, everyQueryHolds_toQueries]

end Evaluation

end HostFacets
