import HostFacets.Proofs.Outcome
import HostFacets.Search.Body

/-!
Rendering loses nothing.

Every rendered object has members of fixed, distinct names, some of which may be left out. So the
value of each name, or its absence, can be told from the object, and no two requests render alike.
-/

namespace HostFacets

/-! ### Objects of one member -/

namespace Json

lemma str_injective : Function.Injective str := fun _ _ => str.inj

lemma bool_injective : Function.Injective bool := fun _ _ => bool.inj

lemma natInt_injective : Function.Injective fun n : ℕ => int n :=
  fun _ _ h => Int.natCast_inj.1 (int.inj h)

lemma obj_singleton_inj {name name' : String} {value value' : Json} :
    obj [(name, value)] = obj [(name', value')] ↔ name = name' ∧ value = value' := by
  rw [obj.injEq, List.singleton_inj, Prod.mk.injEq]

end Json

/-! ### Members that may be left out -/

namespace Json.Members

/-- The members that have a value. -/
def ofOptional (entries : List (String × Option Json)) : Members :=
  entries.flatMap fun entry => Constraint.optionalMember entry.1 entry.2

lemma ofOptional_cons (name : String) (value : Option Json) (rest : List (String × Option Json)) :
    ofOptional ((name, value) :: rest) =
      Constraint.optionalMember name value ++ ofOptional rest := rfl

/-- A member in front can be told from members of other names. -/
lemma optionalMember_append_inj {name : String} {value value' : Option Json}
    {rest rest' : Members} (hfresh : name ∉ rest.map Prod.fst) (hfresh' : name ∉ rest'.map Prod.fst)
    (h : Constraint.optionalMember name value ++ rest =
      Constraint.optionalMember name value' ++ rest') : value = value' ∧ rest = rest' := by
  cases value with
  | none =>
    cases value' with
    | none => exact ⟨rfl, h⟩
    | some v' =>
      obtain rfl : rest = (name, v') :: rest' := h
      exact absurd List.mem_cons_self hfresh
  | some v =>
    cases value' with
    | none =>
      obtain rfl : (name, v) :: rest = rest' := h
      exact absurd List.mem_cons_self hfresh'
    | some v' =>
      obtain ⟨hmember, hrest⟩ := List.cons.inj h
      exact ⟨congrArg some (Prod.mk.inj hmember).2, hrest⟩

lemma fst_ofOptional_subset (entries : List (String × Option Json)) :
    (ofOptional entries).map Prod.fst ⊆ entries.map Prod.fst := by
  induction entries with
  | nil => exact List.Subset.refl _
  | cons entry rest ih =>
    obtain ⟨name, value⟩ := entry
    rw [ofOptional_cons, List.map_cons]
    cases value with
    | none => exact List.subset_cons_of_subset name ih
    | some v => exact List.cons_subset_cons name ih

/-- Which members are left out, and the values of the others, can be told from the object. -/
lemma eq_of_ofOptional_eq {entries entries' : List (String × Option Json)}
    (h : ofOptional entries = ofOptional entries')
    (hnames : entries.map Prod.fst = entries'.map Prod.fst)
    (hnodup : (entries.map Prod.fst).Nodup) : entries = entries' := by
  induction entries generalizing entries' with
  | nil => exact (List.map_eq_nil_iff.1 hnames.symm).symm
  | cons entry rest ih =>
    obtain ⟨name, value⟩ := entry
    obtain ⟨⟨name', value'⟩, rest', rfl, hname, hrest⟩ := List.map_eq_cons_iff.1 hnames.symm
    obtain rfl : name' = name := hname
    obtain ⟨hfresh, hnodup⟩ := List.nodup_cons.1 hnodup
    have hfresh' : name' ∉ rest'.map Prod.fst := by rw [hrest]; exact hfresh
    obtain ⟨rfl, hmembers⟩ := optionalMember_append_inj
      (fun hmem => hfresh (fst_ofOptional_subset rest hmem))
      (fun hmem => hfresh' (fst_ofOptional_subset rest' hmem)) h
    rw [ih hmembers hrest.symm hnodup]

end Json.Members

/-! ### Constraints -/

namespace Constraint

/-- A list that is left out where it is empty. -/
def nonEmptyList (items : List Json) : Option Json :=
  if items.isEmpty then none else some (.arr items)

lemma nonEmptyList_inj {items items' : List Json} :
    nonEmptyList items = nonEmptyList items' ↔ items = items' := by
  cases items <;> cases items' <;> simp [nonEmptyList]

lemma listMember_eq (name : String) (items : List Json) :
    listMember name items = optionalMember name (nonEmptyList items) := by
  cases items <;> rfl

lemma boundsQuery_eq (b : Bounds) : boundsQuery b = .obj (Json.Members.ofOptional
    [("gt", b.gt), ("gte", b.gte), ("lt", b.lt), ("lte", b.lte)]) := by
  simp [boundsQuery, Json.Members.ofOptional]

lemma boolQuery_eq (filter should mustNot : List Json) : boolQuery filter should mustNot =
    .obj [("bool", .obj (Json.Members.ofOptional [("filter", nonEmptyList filter),
      ("minimum_should_match", if should.isEmpty then none else some (.int 1)),
      ("must_not", nonEmptyList mustNot), ("should", nonEmptyList should)]))] := by
  cases should <;>
    simp [boolQuery, Json.Members.ofOptional, listMember_eq, optionalMember]

lemma eq_of_boundsQuery_eq {b b' : Bounds} (h : boundsQuery b = boundsQuery b') : b = b' := by
  rw [boundsQuery_eq, boundsQuery_eq, Json.obj.injEq] at h
  have hentries := Json.Members.eq_of_ofOptional_eq h rfl (by simp)
  obtain ⟨gt, gte, lt, lte⟩ := b
  obtain ⟨gt', gte', lt', lte'⟩ := b'
  simpa only [List.cons.injEq, Prod.mk.injEq, true_and, and_true, Bounds.mk.injEq] using hentries

/-- The clause that counts matches adds nothing to the `should` beside it. -/
lemma eq_of_boolQuery_eq {filter should mustNot filter' should' mustNot' : List Json}
    (h : boolQuery filter should mustNot = boolQuery filter' should' mustNot') :
    filter = filter' ∧ should = should' ∧ mustNot = mustNot' := by
  rw [boolQuery_eq, boolQuery_eq, Json.obj_singleton_inj, Json.obj.injEq] at h
  have hentries := Json.Members.eq_of_ofOptional_eq h.2 rfl (by simp)
  simp only [List.cons.injEq, Prod.mk.injEq, true_and, and_true, nonEmptyList_inj] at hentries
  obtain ⟨hfilter, -, hmustNot, hshould⟩ := hentries
  exact ⟨hfilter, hshould, hmustNot⟩

-- By induction on the constraint. The name of the outer member tells the kinds apart.
mutual

lemma eq_of_toQuery_eq : ∀ c c' : Constraint, c.toQuery = c'.toQuery → c = c'
  | .term field value, c', h => by
    cases c' with
    | term field' value' => simpa [toQuery] using h
    | _ => simp [toQuery, boolQuery] at h
  | .wildcard field pattern caseInsensitive, c', h => by
    cases c' with
    | wildcard field' pattern' caseInsensitive' =>
      cases caseInsensitive <;> cases caseInsensitive' <;> simp_all [toQuery]
    | _ => simp [toQuery, boolQuery] at h
  | .range field bounds, c', h => by
    cases c' with
    | range field' bounds' =>
      simp only [toQuery, Json.obj_singleton_inj, true_and] at h
      rw [h.1, eq_of_boundsQuery_eq h.2]
    | _ => simp [toQuery, boolQuery] at h
  | .present field, c', h => by
    cases c' with
    | present field' => simpa [toQuery] using h
    | _ => simp [toQuery, boolQuery] at h
  | .bool filter should mustNot, c', h => by
    cases c' with
    | bool filter' should' mustNot' =>
      rw [toQuery, toQuery] at h
      obtain ⟨hfilter, hshould, hmustNot⟩ := eq_of_boolQuery_eq h
      rw [eq_of_toQueries_eq filter filter' hfilter, eq_of_toQueries_eq should should' hshould,
        eq_of_toQueries_eq mustNot mustNot' hmustNot]
    | _ => simp [toQuery, boolQuery] at h
  | .nested path constraints, c', h => by
    cases c' with
    | nested path' constraints' =>
      simp only [toQuery, Json.obj.injEq, Json.arr.injEq, Json.str.injEq, List.cons.injEq,
        Prod.mk.injEq, true_and, and_true] at h
      rw [h.1, eq_of_toQueries_eq constraints constraints' h.2]
    | _ => simp [toQuery, boolQuery] at h

lemma eq_of_toQueries_eq : ∀ cs cs' : List Constraint, toQueries cs = toQueries cs' → cs = cs'
  | [], [], _ => rfl
  | [], _ :: _, h => by simp [toQueries] at h
  | _ :: _, [], h => by simp [toQueries] at h
  | c :: rest, c' :: rest', h => by
    rw [toQueries, toQueries, List.cons.injEq] at h
    rw [eq_of_toQuery_eq c c' h.1, eq_of_toQueries_eq rest rest' h.2]

end

end Constraint

/-! ### Requests -/

lemma SortField.name_injective : Function.Injective SortField.name := by
  intro field field' h
  cases field <;> cases field' <;> first | rfl | exact absurd h (by decide)

lemma Direction.name_injective : Function.Injective Direction.name := by
  intro direction direction' h
  cases direction <;> cases direction' <;> first | rfl | exact absurd h (by decide)

lemma OrderClause.toJson_injective : Function.Injective OrderClause.toJson := by
  intro clause clause' h
  obtain ⟨hname, hstr⟩ := Json.obj_singleton_inj.1 h
  have hfield : clause.field = clause'.field := SortField.name_injective hname
  have hdirection : clause.direction = clause'.direction :=
    Direction.name_injective (Json.str.inj hstr)
  cases clause
  cases clause'
  congr

namespace Search

/-- A list of keys is no pattern. -/
lemma KeyFilter.toJson_injective : Function.Injective KeyFilter.toJson := by
  intro only only' h
  cases only with
  | exact keys =>
    cases only' with
    | exact keys' => rw [List.map_injective_iff.2 Json.str_injective (Json.arr.inj h)]
    | pattern regex' => cases h
  | pattern regex =>
    cases only' with
    | exact keys' => cases h
    | pattern regex' => rw [Json.str.inj h]

namespace KeySource

def field? : KeySource → Option Json
  | .field path => some (.str path)
  | .script _ => none

def script? : KeySource → Option Json
  | .field _ => none
  | .script source => some (.str source)

lemma eq_of_members_eq {keys keys' : KeySource} (hfield : keys.field? = keys'.field?)
    (hscript : keys.script? = keys'.script?) : keys = keys' := by
  cases keys <;> cases keys' <;> simp_all [field?, script?]

end KeySource

lemma Aggregation.toJson_eq (a : Aggregation) : a.toJson = .obj (Json.Members.ofOptional
    [("field", a.keys.field?), ("include", a.only.map KeyFilter.toJson),
      ("order", Constraint.nonEmptyList (a.order.map OrderClause.toJson)),
      ("script", a.keys.script?), ("show_term_doc_count_error", some (.bool a.showCountError)),
      ("size", some (.int a.size))]) := by
  cases hkeys : a.keys <;>
    simp [toJson, Json.Members.ofOptional, Constraint.listMember_eq, Constraint.optionalMember,
      KeySource.field?, KeySource.script?, hkeys]

lemma Aggregation.toJson_injective : Function.Injective Aggregation.toJson := by
  intro a a' h
  rw [toJson_eq, toJson_eq, Json.obj.injEq] at h
  have hentries := Json.Members.eq_of_ofOptional_eq h rfl (by simp)
  obtain ⟨keys, size, showCountError, order, only⟩ := a
  obtain ⟨keys', size', showCountError', order', only'⟩ := a'
  simp only [List.cons.injEq, Prod.mk.injEq, true_and, and_true, Constraint.nonEmptyList_inj,
    Option.some.injEq, Json.bool.injEq, Json.int.injEq, Int.natCast_inj] at hentries
  obtain ⟨hfield, honly, horder, hscript, rfl, rfl⟩ := hentries
  rw [KeySource.eq_of_members_eq hfield hscript,
    Option.map_injective KeyFilter.toJson_injective honly,
    List.map_injective_iff.2 OrderClause.toJson_injective horder]

lemma Body.toJson_eq (body : Body) : body.toJson = .obj (Json.Members.ofOptional
    [("_source", some (.arr (body.sourceFields.map .str))),
      ("aggs", body.aggregation.map fun a => .obj [("terms", .obj [("terms", a.toJson)])]),
      ("from", body.first.map fun n : ℕ => .int n),
      ("query", some (.obj [("bool",
        .obj [("filter", .arr (Constraint.toQueries body.filter))])])),
      ("size", some (.int body.size)), ("track_total_hits", body.trackTotalHits.map .bool)]) := by
  cases hfirst : body.first <;>
    simp [toJson, Json.Members.ofOptional, Constraint.optionalMember, hfirst]

lemma Body.toJson_injective : Function.Injective Body.toJson := by
  intro body body' h
  have hterms : Function.Injective fun a : Aggregation =>
      Json.obj [("terms", .obj [("terms", a.toJson)])] := by
    intro a a' h
    obtain ⟨-, h⟩ := Json.obj_singleton_inj.1 h
    exact Aggregation.toJson_injective (Json.obj_singleton_inj.1 h).2
  rw [toJson_eq, toJson_eq, Json.obj.injEq] at h
  have hentries := Json.Members.eq_of_ofOptional_eq h rfl (by simp)
  obtain ⟨aggregation, filter, sourceFields, size, first, trackTotalHits⟩ := body
  obtain ⟨aggregation', filter', sourceFields', size', first', trackTotalHits'⟩ := body'
  simp only [List.cons.injEq, Prod.mk.injEq, true_and, and_true, Option.some.injEq,
    Json.arr.injEq, Json.obj.injEq, Json.int.injEq, Int.natCast_inj] at hentries
  obtain ⟨hsource, haggregation, hfirst, hfilter, rfl, htrack⟩ := hentries
  rw [List.map_injective_iff.2 Json.str_injective hsource, Option.map_injective hterms haggregation,
    Option.map_injective Json.natInt_injective hfirst, Constraint.eq_of_toQueries_eq _ _ hfilter,
    Option.map_injective Json.bool_injective htrack]

end Search

/-- **Rendering loses nothing**: different requests render to different values, and different
constraints to different queries. -/
theorem rendering_lossless (body body' : Search.Body) (c c' : Constraint) :
    (body.toJson = body'.toJson ↔ body = body') ∧ (c.toQuery = c'.toQuery ↔ c = c') := by
  have hquery : Function.Injective Constraint.toQuery := Constraint.eq_of_toQuery_eq
  exact ⟨Search.Body.toJson_injective.eq_iff, hquery.eq_iff⟩

end HostFacets
