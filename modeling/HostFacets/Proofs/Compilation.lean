import HostFacets.Filter.Compile
import HostFacets.Proofs.Outcome

/-!
What the parts of a filter tree compile to.

`EntryCompiles` has one rule for each kind of entry: a combinator with its arms, or a field with its
operators or its inner tree. An entry that is compiled falls under exactly one of them.
-/

namespace HostFacets.Filter

/-- The name of a combinator in a filter tree. -/
def Combinator.name : Combinator → String
  | .all => "AND"
  | .any => "OR"
  | .not => "NOT"

lemma Combinator.ofName?_eq_some_iff {name : String} {combinator : Combinator} :
    ofName? name = some combinator ↔ name = combinator.name := by
  constructor
  · intro h
    unfold ofName? at h
    split at h <;> cases h <;> rfl
  · rintro rfl
    cases combinator <;> rfl

lemma Combinator.ofName?_eq_none_iff {name : String} :
    ofName? name = none ↔ name ≠ "AND" ∧ name ≠ "OR" ∧ name ≠ "NOT" := by
  unfold ofName?
  split <;> simp_all

/-- A look-up finds a definition of that name. -/
lemma name_of_findField {fields : List FieldDef} {name : String} {field : FieldDef}
    (h : findField fields name = some field) : field.name = name := by
  simpa using List.find?_some h

/-- The ways in which an entry compiles to constraints. -/
inductive EntryCompiles (scope : Scope) : String → Json → List Constraint → Prop where
  | all {arms : List Json} {inner : List (List Constraint)}
    (h : compileArms scope "AND" arms = .ok inner) :
    EntryCompiles scope "AND" (.arr arms) (conjunction inner)
  | any {arms : List Json} {inner : List (List Constraint)}
    (h : compileArms scope "OR" arms = .ok inner) :
    EntryCompiles scope "OR" (.arr arms) (disjunction inner)
  | not {members : List (String × Json)} {inner : List Constraint}
    (h : compileTree scope members = .ok inner) :
    EntryCompiles scope "NOT" (.obj members) (negation inner)
  | scalar {name : String} {field : FieldDef} {type : ScalarType}
    {members : List (String × Json)} {cs : List Constraint}
    (hname : Combinator.ofName? name = none) (hfield : findField scope.fields name = some field)
    (htype : field.type = .scalar type)
    (h : compileOperators (scope.fieldPath name) (.scalar type) members = .ok cs) :
    EntryCompiles scope name (.obj members) cs
  | object {name : String} {field : FieldDef} {members : List (String × Json)}
    {cs : List Constraint}
    (hname : Combinator.ofName? name = none) (hfield : findField scope.fields name = some field)
    (htype : field.type = .object) (h : compileTree (scope.child field) members = .ok cs) :
    EntryCompiles scope name (.obj members) cs
  | nested {name : String} {field : FieldDef} {members : List (String × Json)}
    {inner : List Constraint}
    (hname : Combinator.ofName? name = none) (hfield : findField scope.fields name = some field)
    (htype : field.type = .nested) (h : compileTree (scope.child field) members = .ok inner) :
    EntryCompiles scope name (.obj members) [.nested (scope.fieldPath name) inner]

variable {scope : Scope} {name : String}

lemma misplaced_ne_ok {node : Json} {cs : List Constraint} :
    misplaced scope name node ≠ .ok cs := by
  unfold misplaced
  split <;> simp

lemma entryCompiles_of_compileEntry {node : Json} {cs : List Constraint}
    (h : compileEntry scope name node = .ok cs) : EntryCompiles scope name node cs := by
  cases node with
  | arr arms =>
    simp only [compileEntry] at h
    split at h
    · next hname =>
      obtain rfl := Combinator.ofName?_eq_some_iff.1 hname
      obtain ⟨inner, hinner, rfl⟩ := map_ok_iff.1 h
      exact .all hinner
    · next hname =>
      obtain rfl := Combinator.ofName?_eq_some_iff.1 hname
      obtain ⟨inner, hinner, rfl⟩ := map_ok_iff.1 h
      exact .any hinner
    · cases h
    · exact absurd h misplaced_ne_ok
  | obj members =>
    simp only [compileEntry] at h
    split at h
    · next hname =>
      obtain rfl := Combinator.ofName?_eq_some_iff.1 hname
      obtain ⟨inner, hinner, rfl⟩ := map_ok_iff.1 h
      exact .not hinner
    · cases h
    · next hname =>
      split at h
      · cases h
      · next field hfield =>
        cases htype : field.type with
        | scalar type =>
          simp only [htype] at h
          exact .scalar hname hfield htype h
        | object =>
          simp only [htype] at h
          exact .object hname hfield htype h
        | nested =>
          simp only [htype] at h
          obtain ⟨inner, hinner, rfl⟩ := map_ok_iff.1 h
          exact .nested hname hfield htype hinner
  | null | bool _ | int _ | float _ | str _ =>
    simp only [compileEntry] at h
    split at h
    · cases h
    · cases h
    · exact absurd h misplaced_ne_ok

lemma compileEntry_of_entryCompiles {node : Json} {cs : List Constraint}
    (h : EntryCompiles scope name node cs) : compileEntry scope name node = .ok cs := by
  cases h with
  | all h => simpa [compileEntry, Combinator.ofName?] using ⟨_, h, rfl⟩
  | any h => simpa [compileEntry, Combinator.ofName?] using ⟨_, h, rfl⟩
  | not h => simpa [compileEntry, Combinator.ofName?] using ⟨_, h, rfl⟩
  | scalar hname hfield htype h => simpa [compileEntry, hname, hfield, htype] using h
  | object hname hfield htype h => simpa [compileEntry, hname, hfield, htype] using h
  | nested hname hfield htype h => simp [compileEntry, hname, hfield, htype, h]

/-- **Entries**: an entry compiles in one of the listed ways. -/
theorem compileEntry_ok_iff {node : Json} {cs : List Constraint} :
    compileEntry scope name node = .ok cs ↔ EntryCompiles scope name node cs :=
  ⟨entryCompiles_of_compileEntry, compileEntry_of_entryCompiles⟩

/-- A tree compiles entry by entry, up to the first that fails. -/
lemma compileTree_cons {node : Json} {rest : List (String × Json)} :
    compileTree scope ((name, node) :: rest) = compileEntry scope name node >>= fun first =>
      (compileTree scope rest).map (first ++ ·) := by
  rw [compileTree]
  cases compileEntry scope name node <;> rfl

lemma compileArms_cons_obj {members : List (String × Json)} {rest : List Json} :
    compileArms scope name (.obj members :: rest) = compileTree scope members >>= fun arm =>
      (compileArms scope name rest).map (arm :: ·) := by
  rw [compileArms]
  cases compileTree scope members <;> rfl

/-- A tree compiles entry by entry. -/
lemma compileTree_cons_ok_iff {node : Json} {rest : List (String × Json)} {cs : List Constraint} :
    compileTree scope ((name, node) :: rest) = .ok cs ↔
      ∃ first more, compileEntry scope name node = .ok first ∧
        compileTree scope rest = .ok more ∧ first ++ more = cs := by
  simp only [compileTree]
  split
  · next first h => simp [h]
  · next e h => simp [h]

/-- An arm is a tree of its own. -/
lemma compileArms_cons_ok_iff {arm : Json} {rest : List Json} {inner : List (List Constraint)} :
    compileArms scope name (arm :: rest) = .ok inner ↔
      ∃ members first more, arm = .obj members ∧ compileTree scope members = .ok first ∧
        compileArms scope name rest = .ok more ∧ first :: more = inner := by
  cases arm with
  | obj members =>
    simp only [compileArms]
    split
    · next first h => simp [h]
    · next e h => simp [h]
  | null | bool _ | int _ | float _ | str _ | arr _ => simp [compileArms]

end HostFacets.Filter
