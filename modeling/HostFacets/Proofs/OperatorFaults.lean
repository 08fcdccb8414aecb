import HostFacets.Proofs.Grammar

/-!
Why an operator sets nothing.

`Rejects` has one rule for each fault of an operator with its value, as `Sets` has one for each
condition. An operator that sets no condition is rejected for exactly one of these faults.
-/

namespace HostFacets.Filter

variable {type : ScalarType} {value : Json}

/-! ### Values -/

/-- Why a value is none of the scalar type. A text in the place of a timestamp or a UUID is looked
into. -/
inductive Misfits (type : ScalarType) (value : Json) : ValueFault → Prop where
  | timestamp {s : String} (ht : type = .timestamp) (hvalue : value = .str s)
    (h : ¬ Timestamp.isValid s) : Misfits type value (.noTimestamp s)
  | uuid {s : String} (ht : type = .uuid) (hvalue : value = .str s)
    (h : Uuid.ofString? s = none) : Misfits type value (.noUuid s)
  | other (h : ¬ HasType type value)
    (htext : type = .timestamp ∨ type = .uuid → ∀ s, value ≠ .str s) :
    Misfits type value (.wrongType type value)

lemma typedValue_error_of_not_hasType (h : ¬ HasType type value) :
    ∃ fault, typedValue (.scalar type) value = .error fault := by
  cases hvalue : typedValue (.scalar type) value with
  | ok v => exact absurd (hasType_of_typedValue hvalue) h
  | error fault => exact ⟨fault, rfl⟩

lemma misfits_of_typedValue {fault : ValueFault}
    (h : typedValue (.scalar type) value = .error fault) : Misfits type value fault := by
  have hnone : ¬ HasType type value := fun hv => by
    obtain ⟨v, hok⟩ := typedValue_of_hasType hv
    cases h.symm.trans hok
  simp only [typedValue] at h
  split at h
  · cases h
  · split at h
    · cases h
    · cases h
      exact .other hnone (by simp)
  · cases h
  · cases h
  · cases h
  · split at h
    · cases h
    · next hs =>
      cases h
      exact .timestamp rfl rfl hs
  · split at h
    · cases h
    · next hs =>
      cases h
      exact .uuid rfl rfl hs
  · next htimestamp huuid =>
    cases h
    refine .other hnone ?_
    rintro (rfl | rfl) s rfl
    · exact htimestamp s rfl rfl
    · exact huuid s rfl rfl

lemma Misfits.eq_of_misfits {fault fault' : ValueFault} (h : Misfits type value fault)
    (h' : Misfits type value fault') : fault = fault' := by
  cases h <;> cases h' <;> simp_all

lemma Misfits.not_hasType {fault : ValueFault} (h : Misfits type value fault) :
    ¬ HasType type value := by
  intro hv
  cases h with
  | timestamp ht hvalue h => cases hv <;> simp_all
  | uuid ht hvalue h => cases hv <;> simp_all
  | other h _ => exact h hv

lemma typedValue_error_iff {fault : ValueFault} :
    typedValue (.scalar type) value = .error fault ↔ Misfits type value fault := by
  refine ⟨misfits_of_typedValue, fun h => ?_⟩
  obtain ⟨fault', hfault⟩ := typedValue_error_of_not_hasType h.not_hasType
  rw [hfault, (misfits_of_typedValue hfault).eq_of_misfits h]

/-! ### Operators -/

/-- A scalar type has the operator, with one value or another. -/
inductive Supports (type : ScalarType) : String → Prop where
  | any {operator : String} (hop : operator ∈ ["is", "eq"]) : Supports type operator
  | pattern {operator : String} (hop : operator ∈ ["matches", "matches_lc"])
    (ht : type = .string) : Supports type operator
  | bound {operator : String} (hop : operator ∈ ["gt", "gte", "lt", "lte"])
    (ht : type ∈ [.integer, .float, .timestamp]) : Supports type operator

/-- Why an operator with its value sets nothing on a field of the type. -/
inductive Rejects (type : ScalarType) : String → Json → OperatorFault → Prop where
  | unsupported {operator : String} {value : Json} (h : ¬ Supports type operator) :
    Rejects type operator value (.unsupported operator)
  | onlyNull {value : Json} (ht : type ≠ .boolean) (hvalue : value ≠ .null) :
    Rejects type "is" value (.invalid .onlyNull)
  | isBoolean {value : Json} {fault : ValueFault} (ht : type = .boolean) (hvalue : value ≠ .null)
    (h : Misfits type value fault) : Rejects type "is" value (.invalid fault)
  | eq {value : Json} {fault : ValueFault} (h : Misfits type value fault) :
    Rejects type "eq" value (.invalid fault)
  | pattern {operator : String} {value : Json} (hop : operator ∈ ["matches", "matches_lc"])
    (ht : type = .string) (hvalue : ∀ p, value ≠ .str p) :
    Rejects type operator value (.invalid (.noPattern value))
  | bound {operator : String} {value : Json} {fault : ValueFault}
    (hop : operator ∈ ["gt", "gte", "lt", "lte"]) (ht : type ∈ [.integer, .float, .timestamp])
    (h : Misfits type value fault) : Rejects type operator value (.invalid fault)

lemma typed_map_error_iff {f : Json → Condition} {fault : OperatorFault} :
    (typed (.scalar type) value).map f = .error fault ↔
      ∃ inner, Misfits type value inner ∧ .invalid inner = fault := by
  simp [typed, typedValue_error_iff]

lemma wildcard_error_iff {operator : String} {caseInsensitive : Bool} {fault : OperatorFault} :
    Condition.ofOperator.wildcard (.scalar type) operator value caseInsensitive = .error fault ↔
      type = .string ∧ (∀ p, value ≠ .str p) ∧ fault = .invalid (.noPattern value) ∨
        type ≠ .string ∧ fault = .unsupported operator := by
  unfold Condition.ofOperator.wildcard
  by_cases ht : type = .string
  · cases value <;> simp [ht, eq_comm]
  · simp [ht, eq_comm]

lemma Side.notMem_of_ofName?_eq_none {operator : String} (h : ofName? operator = none) :
    operator ∉ ["gt", "gte", "lt", "lte"] := by
  rintro hop
  obtain ⟨side, hside⟩ := Side.name_mem_iff.1 hop
  cases h.symm.trans (Side.ofName?_eq_some_iff.2 hside)

lemma rejects_of_ofOperator {operator : String} {fault : OperatorFault}
    (h : Condition.ofOperator (.scalar type) operator value = .error fault) :
    Rejects type operator value fault := by
  unfold Condition.ofOperator at h
  split at h
  · split at h
    · cases h
    · next hvalue =>
      split at h
      · next ht =>
        obtain ⟨inner, hinner, rfl⟩ := typed_map_error_iff.1 h
        exact .isBoolean (FieldType.scalar.inj ht) hvalue hinner
      · next ht =>
        cases h
        exact .onlyNull (mt (congrArg FieldType.scalar) ht) hvalue
  · obtain ⟨inner, hinner, rfl⟩ := typed_map_error_iff.1 h
    exact .eq hinner
  · rcases wildcard_error_iff.1 h with ⟨ht, hvalue, rfl⟩ | ⟨ht, rfl⟩
    · exact .pattern (by simp) ht hvalue
    · refine .unsupported fun h => ?_
      cases h <;> simp_all
  · rcases wildcard_error_iff.1 h with ⟨ht, hvalue, rfl⟩ | ⟨ht, rfl⟩
    · exact .pattern (by simp) ht hvalue
    · refine .unsupported fun h => ?_
      cases h <;> simp_all
  · split at h
    · next side hside =>
      have hop := Side.name_mem_iff.2 ⟨side, Side.ofName?_eq_some_iff.1 hside⟩
      split at h
      · next ht =>
        obtain ⟨inner, hinner, rfl⟩ := typed_map_error_iff.1 h
        exact .bound hop (isOrdered_iff.1 ht) hinner
      · next ht =>
        cases h
        refine .unsupported fun h => ?_
        cases h <;> simp_all [isOrdered_iff]
    · next hside =>
      cases h
      have hop := Side.notMem_of_ofName?_eq_none hside
      refine .unsupported fun h => ?_
      cases h <;> simp_all

lemma ofOperator_is (hvalue : value ≠ .null) :
    Condition.ofOperator (.scalar type) "is" value =
      if type = .boolean then (typed (.scalar type) value).map .term
      else .error (.invalid .onlyNull) := by
  unfold Condition.ofOperator
  cases value with
  | null => exact absurd rfl hvalue
  | bool _ | int _ | float _ | str _ | arr _ | obj _ => simp only [FieldType.scalar.injEq]

lemma ofOperator_bound (side : Side) :
    Condition.ofOperator (.scalar type) side.name value =
      if isOrdered (.scalar type) then (typed (.scalar type) value).map (.bound side)
      else .error (.unsupported side.name) := by
  cases side <;> rfl

lemma ofOperator_of_rejects {operator : String} {fault : OperatorFault}
    (h : Rejects type operator value fault) :
    Condition.ofOperator (.scalar type) operator value = .error fault := by
  cases h with
  | unsupported h =>
    unfold Condition.ofOperator
    split
    · exact absurd (.any (by simp)) h
    · exact absurd (.any (by simp)) h
    · exact wildcard_error_iff.2 (.inr ⟨fun ht => h (.pattern (by simp) ht), rfl⟩)
    · exact wildcard_error_iff.2 (.inr ⟨fun ht => h (.pattern (by simp) ht), rfl⟩)
    · split
      · next side hside =>
        have hop := Side.name_mem_iff.2 ⟨side, Side.ofName?_eq_some_iff.1 hside⟩
        rw [if_neg fun ht => h (.bound hop (isOrdered_iff.1 ht))]
      · rfl
  | onlyNull ht hvalue => rw [ofOperator_is hvalue, if_neg ht]
  | isBoolean ht hvalue h =>
    rw [ofOperator_is hvalue, if_pos ht]
    exact typed_map_error_iff.2 ⟨_, h, rfl⟩
  | eq h => exact typed_map_error_iff.2 ⟨_, h, rfl⟩
  | pattern hop ht hvalue =>
    simp only [List.mem_cons, List.not_mem_nil, or_false] at hop
    rcases hop with rfl | rfl <;> exact wildcard_error_iff.2 (.inl ⟨ht, hvalue, rfl⟩)
  | bound hop ht h =>
    obtain ⟨side, rfl⟩ := Side.name_mem_iff.1 hop
    rw [ofOperator_bound, if_pos (isOrdered_iff.2 ht)]
    exact typed_map_error_iff.2 ⟨_, h, rfl⟩

/-- **Rejected operators**: an operator fails with what `Rejects` says. -/
theorem ofOperator_error_iff {operator : String} {fault : OperatorFault} :
    Condition.ofOperator (.scalar type) operator value = .error fault ↔
      Rejects type operator value fault :=
  ⟨rejects_of_ofOperator, ofOperator_of_rejects⟩

lemma Rejects.eq_of_rejects {operator : String} {fault fault' : OperatorFault}
    (h : Rejects type operator value fault) (h' : Rejects type operator value fault') :
    fault = fault' :=
  Except.error.inj ((ofOperator_of_rejects h).symm.trans (ofOperator_of_rejects h'))

end HostFacets.Filter
