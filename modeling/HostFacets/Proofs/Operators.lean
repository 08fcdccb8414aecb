import HostFacets.Filter.Compile
import HostFacets.Proofs.Interpretation
import HostFacets.Proofs.Outcome

/-!
What the operators of a scalar field set.

An operator with its value sets one condition, and `Sets` says which, for every operator, type and
value. Of the bounds on one side the last counts, so where no two of them differ the range of a
field has exactly the bounds that its operators set.
-/

namespace HostFacets.Filter

/-- The operator that bounds a side. -/
def Side.name : Side → String
  | .gt => "gt"
  | .gte => "gte"
  | .lt => "lt"
  | .lte => "lte"

lemma Side.ofName?_eq_some_iff {operator : String} {side : Side} :
    ofName? operator = some side ↔ operator = side.name := by
  constructor
  · intro h
    unfold ofName? at h
    split at h <;> cases h <;> rfl
  · rintro rfl
    cases side <;> rfl

/-! ### One operator -/

/-- An operator with its value sets a condition on a field of the type. -/
inductive Sets (type : ScalarType) : String → Json → Condition → Prop where
  | isNull : Sets type "is" .null .missing
  | isBoolean {value v : Json} (ht : type = .boolean)
    (hv : typedValue (.scalar type) value = .ok v) : Sets type "is" value (.term v)
  | eq {value v : Json} (hv : typedValue (.scalar type) value = .ok v) :
    Sets type "eq" value (.term v)
  | pattern {p : String} (ht : type = .string) : Sets type "matches" (.str p) (.wildcard p false)
  | patternLc {p : String} (ht : type = .string) :
    Sets type "matches_lc" (.str p) (.wildcard p true)
  | bound {side : Side} {value v : Json} (ht : isOrdered (.scalar type))
    (hv : typedValue (.scalar type) value = .ok v) : Sets type side.name value (.bound side v)

lemma Sets.eq_name_of_bound {type : ScalarType} {operator : String} {value v : Json} {side : Side}
    (h : Sets type operator value (.bound side v)) :
    operator = side.name ∧ typedValue (.scalar type) value = .ok v := by
  cases h with
  | bound ht hv => exact ⟨rfl, hv⟩

lemma typedValue_null (type : ScalarType) (v : Json) : typedValue (.scalar type) .null ≠ .ok v := by
  cases type <;> simp [typedValue]

lemma typed_map_ok_iff {type : ScalarType} {value : Json} {f : Json → Condition} {c : Condition} :
    (typed (.scalar type) value).map f = .ok c ↔
      ∃ v, typedValue (.scalar type) value = .ok v ∧ f v = c := by
  simp [typed]

lemma wildcard_ok_iff {type : ScalarType} {operator : String} {value : Json}
    {caseInsensitive : Bool} {c : Condition} :
    Condition.ofOperator.wildcard (.scalar type) operator value caseInsensitive = .ok c ↔
      type = .string ∧ ∃ p, value = .str p ∧ c = .wildcard p caseInsensitive := by
  unfold Condition.ofOperator.wildcard
  by_cases ht : type = .string
  · cases value <;> simp [ht, eq_comm]
  · simp [ht]

lemma sets_of_ofOperator {type : ScalarType} {operator : String} {value : Json} {c : Condition}
    (h : Condition.ofOperator (.scalar type) operator value = .ok c) :
    Sets type operator value c := by
  unfold Condition.ofOperator at h
  split at h
  · split at h
    · cases h
      exact .isNull
    · split at h
      · next ht =>
        obtain ⟨v, hv, rfl⟩ := typed_map_ok_iff.1 h
        exact .isBoolean (FieldType.scalar.inj ht) hv
      · cases h
  · obtain ⟨v, hv, rfl⟩ := typed_map_ok_iff.1 h
    exact .eq hv
  · obtain ⟨ht, p, rfl, rfl⟩ := wildcard_ok_iff.1 h
    exact .pattern ht
  · obtain ⟨ht, p, rfl, rfl⟩ := wildcard_ok_iff.1 h
    exact .patternLc ht
  · split at h
    · next side hside =>
      split at h
      · next ht =>
        obtain ⟨v, hv, rfl⟩ := typed_map_ok_iff.1 h
        rw [Side.ofName?_eq_some_iff.1 hside]
        exact .bound ht hv
      · cases h
    · cases h

lemma ofOperator_of_sets {type : ScalarType} {operator : String} {value : Json} {c : Condition}
    (h : Sets type operator value c) :
    Condition.ofOperator (.scalar type) operator value = .ok c := by
  cases h with
  | isNull => rfl
  | @isBoolean value v ht hv =>
    have hnull : value ≠ .null := fun hn => typedValue_null type v (hn ▸ hv)
    unfold Condition.ofOperator
    split
    · split
      · exact absurd rfl hnull
      · rw [if_pos (congrArg FieldType.scalar ht), typed_map_ok_iff]
        exact ⟨v, hv, rfl⟩
    all_goals contradiction
  | @eq value v hv => exact typed_map_ok_iff.2 ⟨v, hv, rfl⟩
  | pattern ht => exact wildcard_ok_iff.2 ⟨ht, _, rfl, rfl⟩
  | patternLc ht => exact wildcard_ok_iff.2 ⟨ht, _, rfl, rfl⟩
  | @bound side value v ht hv =>
    cases side <;> simp [Condition.ofOperator, Side.name, Side.ofName?, ht, typed, hv]

/-- **Operators**: what an operator sets is what `Sets` says. -/
theorem ofOperator_ok_iff {type : ScalarType} {operator : String} {value : Json} {c : Condition} :
    Condition.ofOperator (.scalar type) operator value = .ok c ↔ Sets type operator value c :=
  ⟨sets_of_ofOperator, ofOperator_of_sets⟩

/-! ### The bounds of one field -/

/-- No side has two different bounds. -/
def BoundsAgree (conditions : List Condition) : Prop :=
  ∀ side v w, .bound side v ∈ conditions → .bound side w ∈ conditions → v = w

/-- Where the bounds on a side agree, the last one is any of them. -/
lemma get_foldl_addBound {conditions : List Condition} (hagree : BoundsAgree conditions)
    (bounds : Bounds) (side : Side) (v : Json) :
    (conditions.foldl Condition.addBound bounds).get side = some v ↔
      .bound side v ∈ conditions ∨
        (∀ w, .bound side w ∉ conditions) ∧ bounds.get side = some v := by
  induction conditions generalizing bounds with
  | nil => simp
  | cons c rest ih =>
    have hrest : BoundsAgree rest := fun s x y hx hy =>
      hagree s x y (List.mem_cons_of_mem _ hx) (List.mem_cons_of_mem _ hy)
    rw [List.foldl_cons, ih hrest]
    by_cases hc : ∃ w, c = .bound side w
    · -- a bound on this side, which a later one can only repeat
      obtain ⟨w, rfl⟩ := hc
      have hw : ∀ x, .bound side x ∈ rest → x = w := fun x hx =>
        hagree side x w (List.mem_cons_of_mem _ hx) List.mem_cons_self
      simp only [Condition.addBound, Bounds.get_set, if_pos, Option.some.injEq, List.mem_cons,
        Condition.bound.injEq, true_and]
      constructor
      · rintro (h | ⟨-, rfl⟩)
        · exact Or.inl (Or.inr h)
        · exact Or.inl (Or.inl rfl)
      · rintro ((rfl | h) | ⟨h, -⟩)
        · by_cases hx : ∃ x, .bound side x ∈ rest
          · obtain ⟨x, hx⟩ := hx
            exact Or.inl (hw x hx ▸ hx)
          · exact Or.inr ⟨fun x h => hx ⟨x, h⟩, rfl⟩
        · exact Or.inl h
        · exact absurd (Or.inl rfl) (h w)
    · -- anything else leaves this side as it was
      have hne : ∀ w, .bound side w ≠ c := fun w h => hc ⟨w, h.symm⟩
      have hget : (c.addBound bounds).get side = bounds.get side := by
        cases c with
        | bound other w =>
          rw [Condition.addBound, Bounds.get_set, if_neg]
          rintro rfl
          exact hne w rfl
        | missing => rfl
        | term w => rfl
        | wildcard pattern caseInsensitive => rfl
      simp only [hget, List.mem_cons, hne, false_or]

/-! ### The operators of one field -/

/-- The operators of a field set these conditions, one each. -/
abbrev AllSet (type : ScalarType) (operators : Json.Members) (conditions : List Condition) : Prop :=
  List.Forall₂ (fun entry c => Sets type entry.1 entry.2 c) operators conditions

/-- The fault of an operator, told of the field at a path. -/
def OperatorFault.error (path : String) : OperatorFault → Error
  | .unsupported operator => .unsupportedOperator path operator
  | .invalid fault => .invalidValue path fault

/-- The operators of a field are compiled one by one, up to the first that fails. -/
lemma compileOperators_eq (path : String) (type : FieldType) (operators : Json.Members) :
    compileOperators path type operators =
      ((operators.mapM fun entry => Condition.ofOperator type entry.1 entry.2).mapError
        (·.error path)).map (constraints path) := by
  unfold compileOperators
  split
  · next h => rw [h]; rfl
  · next h => rw [h]; rfl
  · next h => rw [h]; rfl

lemma compileOperators_ok_iff {path : String} {type : ScalarType} {operators : Json.Members}
    {cs : List Constraint} :
    compileOperators path (.scalar type) operators = .ok cs ↔
      ∃ conditions, AllSet type operators conditions ∧ constraints path conditions = cs := by
  simp only [compileOperators_eq, map_ok_iff, mapError_ok_iff, mapM_ok_iff, ofOperator_ok_iff]

/-- Operators of different names set no two bounds on one side. -/
lemma AllSet.boundsAgree {type : ScalarType} {operators : Json.Members}
    {conditions : List Condition} (h : AllSet type operators conditions)
    (hnodup : (operators.map Prod.fst).Nodup) : BoundsAgree conditions := by
  intro side v w hv hw
  obtain ⟨entry, hentry, hset⟩ := exists_left_of_forall₂ h _ hv
  obtain ⟨entry', hentry', hset'⟩ := exists_left_of_forall₂ h _ hw
  obtain ⟨hname, hv⟩ := hset.eq_name_of_bound
  obtain ⟨hname', hw⟩ := hset'.eq_name_of_bound
  have heq := List.inj_on_of_nodup_map hnodup hentry hentry' (hname.trans hname'.symm)
  rw [heq, hw] at hv
  exact (Except.ok.inj hv).symm

end HostFacets.Filter
