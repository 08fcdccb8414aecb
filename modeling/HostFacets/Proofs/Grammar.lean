import HostFacets.Proofs.Compilation
import HostFacets.Proofs.NormalForm
import HostFacets.Proofs.Operators

/-!
The grammar of host filters.

`WellFormed` says which trees a list of fields admits: one rule for each kind of entry, operator and
value, without the constraints they compile to. A tree compiles exactly if it is well-formed.
-/

namespace HostFacets.Filter

/-! ### Values -/

/-- A JSON value is one of a scalar type. -/
inductive HasType : ScalarType → Json → Prop where
  | string (s : String) : HasType .string (.str s)
  | integer {n : Int} (hmin : -2 ^ 63 ≤ n) (hmax : n < 2 ^ 63) : HasType .integer (.int n)
  | whole (n : Int) : HasType .float (.int n)
  | float (x : Binary64) : HasType .float (.float x)
  | boolean (b : Bool) : HasType .boolean (.bool b)
  | timestamp {s : String} (h : Timestamp.isValid s) : HasType .timestamp (.str s)
  | uuid {s : String} (h : (Uuid.ofString? s).isSome) : HasType .uuid (.str s)

lemma hasType_of_typedValue {type : ScalarType} {value v : Json}
    (h : typedValue (.scalar type) value = .ok v) : HasType type value := by
  cases typedValue_ok_iff.1 h with
  | string s => exact .string s
  | integer hmin hmax => exact .integer hmin hmax
  | whole n => exact .whole n
  | float x => exact .float x
  | boolean b => exact .boolean b
  | timestamp hs => exact .timestamp hs
  | uuid hid _ => exact .uuid (by rw [hid]; rfl)

lemma typedValue_of_hasType {type : ScalarType} {value : Json} (h : HasType type value) :
    ∃ v, typedValue (.scalar type) value = .ok v := by
  simp only [typedValue_ok_iff]
  cases h with
  | string s => exact ⟨_, .string s⟩
  | integer hmin hmax => exact ⟨_, .integer hmin hmax⟩
  | whole n => exact ⟨_, .whole n⟩
  | float x => exact ⟨_, .float x⟩
  | boolean b => exact ⟨_, .boolean b⟩
  | timestamp hs => exact ⟨_, .timestamp hs⟩
  | uuid hs =>
    obtain ⟨id, hid⟩ := Option.isSome_iff_exists.1 hs
    exact ⟨_, .uuid hid id.isHyphenated_hyphenated⟩

/-! ### Operators -/

/-- An operator with its value is admitted on a field of the type. -/
inductive OperatorWellFormed (type : ScalarType) : String → Json → Prop where
  | isNull : OperatorWellFormed type "is" .null
  | isBoolean (ht : type = .boolean) (b : Bool) : OperatorWellFormed type "is" (.bool b)
  | eq {value : Json} (h : HasType type value) : OperatorWellFormed type "eq" value
  | pattern {operator : String} (hop : operator ∈ ["matches", "matches_lc"])
    (ht : type = .string) (p : String) : OperatorWellFormed type operator (.str p)
  | bound {operator : String} {value : Json} (hop : operator ∈ ["gt", "gte", "lt", "lte"])
    (ht : type ∈ [.integer, .float, .timestamp]) (h : HasType type value) :
    OperatorWellFormed type operator value

lemma isOrdered_iff {type : ScalarType} :
    isOrdered (.scalar type) ↔ type ∈ [.integer, .float, .timestamp] := by
  cases type <;> simp [isOrdered]

lemma Side.name_mem_iff {operator : String} :
    operator ∈ ["gt", "gte", "lt", "lte"] ↔ ∃ side : Side, operator = side.name := by
  constructor
  · intro h
    simp only [List.mem_cons, List.not_mem_nil, or_false] at h
    rcases h with rfl | rfl | rfl | rfl
    · exact ⟨.gt, rfl⟩
    · exact ⟨.gte, rfl⟩
    · exact ⟨.lt, rfl⟩
    · exact ⟨.lte, rfl⟩
  · rintro ⟨side, rfl⟩
    cases side <;> simp [Side.name]

lemma wellFormed_of_sets {type : ScalarType} {operator : String} {value : Json} {c : Condition}
    (h : Sets type operator value c) : OperatorWellFormed type operator value := by
  cases h with
  | isNull => exact .isNull
  | isBoolean ht hv =>
    subst ht
    cases hasType_of_typedValue hv with
    | boolean b => exact .isBoolean rfl b
  | eq hv => exact .eq (hasType_of_typedValue hv)
  | pattern ht => exact .pattern (by simp) ht _
  | patternLc ht => exact .pattern (by simp) ht _
  | bound ht hv =>
    exact .bound (Side.name_mem_iff.2 ⟨_, rfl⟩) (isOrdered_iff.1 ht) (hasType_of_typedValue hv)

lemma sets_of_wellFormed {type : ScalarType} {operator : String} {value : Json}
    (h : OperatorWellFormed type operator value) : ∃ c, Sets type operator value c := by
  cases h with
  | isNull => exact ⟨_, .isNull⟩
  | isBoolean ht b =>
    subst ht
    exact ⟨_, .isBoolean rfl rfl⟩
  | eq h =>
    obtain ⟨v, hv⟩ := typedValue_of_hasType h
    exact ⟨_, .eq hv⟩
  | pattern hop ht p =>
    simp only [List.mem_cons, List.not_mem_nil, or_false] at hop
    rcases hop with rfl | rfl
    · exact ⟨_, .pattern ht⟩
    · exact ⟨_, .patternLc ht⟩
  | bound hop ht h =>
    obtain ⟨side, rfl⟩ := Side.name_mem_iff.1 hop
    obtain ⟨v, hv⟩ := typedValue_of_hasType h
    exact ⟨_, .bound (isOrdered_iff.2 ht) hv⟩

lemma exists_sets_iff {type : ScalarType} {operator : String} {value : Json} :
    (∃ c, Sets type operator value c) ↔ OperatorWellFormed type operator value :=
  ⟨fun ⟨_, h⟩ => wellFormed_of_sets h, sets_of_wellFormed⟩

/-- The operators of a field compile exactly if each of them is admitted. -/
lemma compileOperators_isOk_iff {path : String} {type : ScalarType} {operators : Json.Members} :
    (∃ cs, compileOperators path (.scalar type) operators = .ok cs) ↔
      ∀ entry ∈ operators, OperatorWellFormed type entry.1 entry.2 := by
  simp only [compileOperators_ok_iff, ← exists_sets_iff, ← exists_forall₂_iff]
  constructor
  · rintro ⟨-, conditions, hset, -⟩
    exact ⟨conditions, hset⟩
  · rintro ⟨conditions, hset⟩
    exact ⟨_, conditions, hset, rfl⟩

/-! ### Trees -/

def reserved : List String := ["AND", "OR", "NOT"]

mutual

/-- A JSON value is a filter tree for these fields. -/
inductive WellFormed : List FieldDef → Json → Prop where
  | tree {fields : List FieldDef} {members : List (String × Json)}
    (h : ∀ entry ∈ members, EntryWellFormed fields entry.1 entry.2) :
    WellFormed fields (.obj members)

/-- A name with its value is an entry of a filter tree for these fields. -/
inductive EntryWellFormed : List FieldDef → String → Json → Prop where
  | arms {fields : List FieldDef} {name : String} {arms : List Json}
    (hname : name = "AND" ∨ name = "OR") (h : ∀ arm ∈ arms, WellFormed fields arm) :
    EntryWellFormed fields name (.arr arms)
  | not {fields : List FieldDef} {inner : Json} (h : WellFormed fields inner) :
    EntryWellFormed fields "NOT" inner
  | container {fields : List FieldDef} {name : String} {field : FieldDef} {inner : Json}
    (hname : name ∉ reserved) (hfield : findField fields name = some field)
    (htype : field.type = .object ∨ field.type = .nested) (h : WellFormed field.fields inner) :
    EntryWellFormed fields name inner
  | scalar {fields : List FieldDef} {name : String} {field : FieldDef} {type : ScalarType}
    {operators : List (String × Json)} (hname : name ∉ reserved)
    (hfield : findField fields name = some field) (htype : field.type = .scalar type)
    (h : ∀ entry ∈ operators, OperatorWellFormed type entry.1 entry.2) :
    EntryWellFormed fields name (.obj operators)

end

lemma wellFormed_obj_iff {fields : List FieldDef} {members : List (String × Json)} :
    WellFormed fields (.obj members) ↔
      ∀ entry ∈ members, EntryWellFormed fields entry.1 entry.2 := by
  constructor
  · intro h
    cases h with
    | tree h => exact h
  · exact .tree

lemma not_mem_reserved_iff {name : String} :
    name ∉ reserved ↔ Combinator.ofName? name = none := by
  simp [reserved, Combinator.ofName?_eq_none_iff]

-- By induction on the tree, for every scope: a container changes it.
mutual

lemma compileTree_isOk_iff : ∀ (members : List (String × Json)) (scope : Scope),
    (∃ cs, compileTree scope members = .ok cs) ↔
      ∀ entry ∈ members, EntryWellFormed scope.fields entry.1 entry.2
  | [], scope => by simp [compileTree]
  | (name, node) :: rest, scope => by
    rw [List.forall_mem_cons, ← compileEntry_isOk_iff node scope name,
      ← compileTree_isOk_iff rest scope]
    simp only [compileTree_cons_ok_iff]
    constructor
    · rintro ⟨-, first, more, hfirst, hmore, -⟩
      exact ⟨⟨first, hfirst⟩, more, hmore⟩
    · rintro ⟨⟨first, hfirst⟩, more, hmore⟩
      exact ⟨_, first, more, hfirst, hmore, rfl⟩

lemma compileEntry_isOk_iff : ∀ (node : Json) (scope : Scope) (name : String),
    (∃ cs, compileEntry scope name node = .ok cs) ↔ EntryWellFormed scope.fields name node
  | .arr arms, scope, name => by
    simp only [compileEntry_ok_iff]
    constructor
    · rintro ⟨cs, h⟩
      cases h with
      | all h => exact .arms (.inl rfl) ((compileArms_isOk_iff arms scope _).1 ⟨_, h⟩)
      | any h => exact .arms (.inr rfl) ((compileArms_isOk_iff arms scope _).1 ⟨_, h⟩)
    · intro h
      cases h with
      | arms hname h =>
        obtain ⟨inner, hinner⟩ := (compileArms_isOk_iff arms scope name).2 h
        rcases hname with rfl | rfl
        · exact ⟨_, .all hinner⟩
        · exact ⟨_, .any hinner⟩
      | not h => cases h
      | container _ _ _ h => cases h
  | .obj members, scope, name => by
    simp only [compileEntry_ok_iff]
    constructor
    · rintro ⟨cs, h⟩
      cases h with
      | not h => exact .not (.tree ((compileTree_isOk_iff members scope).1 ⟨_, h⟩))
      | scalar hname hfield htype h =>
        exact .scalar (not_mem_reserved_iff.2 hname) hfield htype
          (compileOperators_isOk_iff.1 ⟨_, h⟩)
      | @object _ field _ _ hname hfield htype h =>
        exact .container (not_mem_reserved_iff.2 hname) hfield (.inl htype)
          (.tree ((compileTree_isOk_iff members (scope.child field)).1 ⟨_, h⟩))
      | @nested _ field _ _ hname hfield htype h =>
        exact .container (not_mem_reserved_iff.2 hname) hfield (.inr htype)
          (.tree ((compileTree_isOk_iff members (scope.child field)).1 ⟨_, h⟩))
    · intro h
      cases h with
      | not h =>
        obtain ⟨cs, hcs⟩ := (compileTree_isOk_iff members scope).2 (wellFormed_obj_iff.1 h)
        exact ⟨_, .not hcs⟩
      | @container _ _ field _ hname hfield htype h =>
        obtain ⟨cs, hcs⟩ :=
          (compileTree_isOk_iff members (scope.child field)).2 (wellFormed_obj_iff.1 h)
        rcases htype with htype | htype
        · exact ⟨_, .object (not_mem_reserved_iff.1 hname) hfield htype hcs⟩
        · exact ⟨_, .nested (not_mem_reserved_iff.1 hname) hfield htype hcs⟩
      | scalar hname hfield htype h =>
        obtain ⟨cs, hcs⟩ := (@compileOperators_isOk_iff (scope.fieldPath name) _ _).2 h
        exact ⟨_, .scalar (not_mem_reserved_iff.1 hname) hfield htype hcs⟩
  | .null, scope, name | .bool _, scope, name | .int _, scope, name | .float _, scope, name
  | .str _, scope, name => by
    simp only [compileEntry_ok_iff]
    constructor
    · rintro ⟨cs, h⟩
      cases h
    · intro h
      cases h with
      | not h => cases h
      | container _ _ _ h => cases h

lemma compileArms_isOk_iff : ∀ (arms : List Json) (scope : Scope) (name : String),
    (∃ inner, compileArms scope name arms = .ok inner) ↔ ∀ arm ∈ arms, WellFormed scope.fields arm
  | [], scope, name => by simp [compileArms]
  | arm :: rest, scope, name => by
    rw [List.forall_mem_cons, ← compileArms_isOk_iff rest scope name]
    simp only [compileArms_cons_ok_iff]
    cases arm with
    | obj members =>
      rw [wellFormed_obj_iff, ← compileTree_isOk_iff members scope]
      constructor
      · rintro ⟨-, _, first, more, ⟨⟩, hfirst, hmore, -⟩
        exact ⟨⟨first, hfirst⟩, more, hmore⟩
      · rintro ⟨⟨first, hfirst⟩, more, hmore⟩
        exact ⟨_, members, first, more, rfl, hfirst, hmore, rfl⟩
    | null | bool _ | int _ | float _ | str _ | arr _ =>
      constructor
      · rintro ⟨-, _, _, _, ⟨⟩, -⟩
      · rintro ⟨⟨⟩, -⟩

end

end HostFacets.Filter
