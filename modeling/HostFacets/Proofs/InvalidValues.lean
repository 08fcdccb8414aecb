import HostFacets.Proofs.OperatorFaults

/-!
Which filters compile, and where their invalid values come from.

Whatever value a filter is refused for was given to an operator on a field of a scalar type. So no
value is ever checked against a container, although the check has a fault of its own for that.
-/

namespace HostFacets.Filter

variable {path : String} {fault : ValueFault}

/-! ### Containers -/

/-- The check of a value blames a container exactly if it is given one. -/
lemma typedValue_error_container_iff {type : FieldType} {value : Json} :
    typedValue type value = .error .container ↔ type.isContainer := by
  cases type with
  | scalar type =>
    have hfit : ¬ Misfits type value .container := nofun
    simp [typedValue_error_iff, hfit, FieldType.isContainer]
  | object | nested => exact iff_of_true rfl rfl

/-- An operator on a field of a scalar type refuses a value for this fault. -/
def Refusal (fault : ValueFault) : Prop :=
  ∃ type operator value, Rejects type operator value (.invalid fault)

lemma Refusal.ne_container (h : Refusal fault) : fault ≠ .container := by
  rintro rfl
  obtain ⟨type, operator, value, hrejects⟩ := h
  have hscalar : typedValue (.scalar type) value ≠ .error .container := fun h =>
    absurd (typedValue_error_container_iff.1 h) (by simp [FieldType.isContainer])
  cases hrejects with
  | isBoolean _ _ h | eq h | bound _ _ h => exact hscalar (typedValue_error_iff.2 h)

/-- Only the fault of containers reads like this, whatever the reasons of the others are. -/
lemma ValueFault.message_eq_containers_iff {reasons : Reasons} :
    fault.message reasons = "containers do not take scalar values" ↔ fault = .container := by
  refine ⟨fun h => ?_, fun h => h ▸ rfl⟩
  have hhead : (fault.message reasons).toList.head? = some 'c' := by rw [h]; rfl
  cases fault with
  | container => rfl
  | wrongType expected got =>
    change ("expected " ++ kind expected ++ ", got " ++ got.print).toList.head? = _ at hhead
    simp at hhead
  | noTimestamp text =>
    change (Text.quoted text ++ " is not an RFC 3339 timestamp: " ++
      reasons.noTimestamp text).toList.head? = _ at hhead
    simp [Text.quoted] at hhead
  | noUuid text =>
    change (Text.quoted text ++ " is not a UUID: " ++
      reasons.noUuid text).toList.head? = _ at hhead
    simp [Text.quoted] at hhead
  | noPattern got =>
    change ("expected a pattern string, got " ++ got.print).toList.head? = _ at hhead
    simp at hhead
  | onlyNull =>
    change ("'is' only accepts null for this field").toList.head? = _ at hhead
    simp at hhead

/-! ### Where invalid values come from -/

lemma refusal_of_compileOperators {field : String} {type : ScalarType} {operators : Json.Members}
    (h : compileOperators field (.scalar type) operators = .error (.invalidValue path fault)) :
    Refusal fault := by
  rw [compileOperators_eq, map_error_iff, mapError_error_iff] at h
  obtain ⟨operatorFault, hmap, hfault⟩ := h
  obtain ⟨⟨operator, value⟩, -, hoperator⟩ := exists_of_mapM_error hmap
  cases operatorFault with
  | unsupported => cases hfault
  | invalid =>
    cases hfault
    exact ⟨type, operator, value, ofOperator_error_iff.1 hoperator⟩

lemma misplaced_ne_invalidValue {scope : Scope} {name : String} {node : Json} :
    misplaced scope name node ≠ .error (.invalidValue path fault) := by
  unfold misplaced
  split <;> simp

-- By induction on the tree, for every scope: a container changes it.
mutual

lemma refusal_of_compileTree : ∀ (members : List (String × Json)) (scope : Scope),
    compileTree scope members = .error (.invalidValue path fault) → Refusal fault
  | [], scope, h => by simp [compileTree] at h
  | (name, node) :: rest, scope, h => by
    rw [compileTree_cons] at h
    rcases bind_error_iff.1 h with hfirst | ⟨first, -, hrest⟩
    · exact refusal_of_compileEntry node scope name hfirst
    · exact refusal_of_compileTree rest scope (map_error_iff.1 hrest)

lemma refusal_of_compileEntry : ∀ (node : Json) (scope : Scope) (name : String),
    compileEntry scope name node = .error (.invalidValue path fault) → Refusal fault
  | .arr arms, scope, name, h => by
    simp only [compileEntry] at h
    split at h
    · exact refusal_of_compileArms arms scope name (map_error_iff.1 h)
    · exact refusal_of_compileArms arms scope name (map_error_iff.1 h)
    · cases h
    · exact absurd h misplaced_ne_invalidValue
  | .obj members, scope, name, h => by
    simp only [compileEntry] at h
    split at h
    · exact refusal_of_compileTree members scope (map_error_iff.1 h)
    · cases h
    · split at h
      · cases h
      · next field _ =>
        cases htype : field.type with
        | scalar type =>
          simp only [htype] at h
          exact refusal_of_compileOperators h
        | object =>
          simp only [htype] at h
          exact refusal_of_compileTree members (scope.child field) h
        | nested =>
          simp only [htype] at h
          exact refusal_of_compileTree members (scope.child field) (map_error_iff.1 h)
  | .null, scope, name, h | .bool _, scope, name, h | .int _, scope, name, h
  | .float _, scope, name, h | .str _, scope, name, h => by
    simp only [compileEntry] at h
    split at h
    · cases h
    · cases h
    · exact absurd h misplaced_ne_invalidValue

lemma refusal_of_compileArms : ∀ (arms : List Json) (scope : Scope) (name : String),
    compileArms scope name arms = .error (.invalidValue path fault) → Refusal fault
  | [], scope, name, h => by simp [compileArms] at h
  | .obj members :: rest, scope, name, h => by
    rw [compileArms_cons_obj] at h
    rcases bind_error_iff.1 h with hfirst | ⟨arm, -, hrest⟩
    · exact refusal_of_compileTree members scope hfirst
    · exact refusal_of_compileArms rest scope name (map_error_iff.1 hrest)
  | .null :: rest, scope, name, h | .bool _ :: rest, scope, name, h
  | .int _ :: rest, scope, name, h | .float _ :: rest, scope, name, h
  | .str _ :: rest, scope, name, h | .arr _ :: rest, scope, name, h => by
    simp [compileArms] at h

end

/-- **A filter compiles exactly if it is well-formed** for the fields of the schema, whatever path
they live under. The check of values has a fault for containers and returns it whenever it is given
one, but no filter is ever refused with it. -/
theorem compile_ok_iff_wellFormed (root : List String) (schema : Schema) (filter : Filter) :
    ((∃ constraints, compile root schema (some filter) = .ok constraints) ↔
      WellFormed schema.fields (.obj filter.members)) ∧
    (∀ type value, typedValue type value = .error .container ↔ type.isContainer) ∧
    ¬ ∃ path fault reasons, compile root schema (some filter) = .error (.invalidValue path fault) ∧
      fault.message reasons = "containers do not take scalar values" := by
  refine ⟨(compileTree_isOk_iff filter.members _).trans wellFormed_obj_iff.symm,
    fun _ _ => typedValue_error_container_iff, ?_⟩
  rintro ⟨path, fault, reasons, hcompile, hmessage⟩
  have hrefusal := refusal_of_compileTree filter.members _ hcompile
  exact hrefusal.ne_container (ValueFault.message_eq_containers_iff.1 hmessage)

end HostFacets.Filter
