import HostFacets.Proofs.Grammar
import HostFacets.Proofs.OperatorObjects

/-!
The values in compiled filters.

Every value is in the normal form of its field's type, and checking it again changes nothing. The
bounds that an object of operators sets make up one range, and an object without bounds has none.
-/

namespace HostFacets

/-- The constraint bounds a field. -/
def Constraint.isRange : Constraint → Bool
  | .range _ _ => true
  | .term _ _ | .wildcard _ _ _ | .present _ | .bool _ _ _ | .nested _ _ => false

namespace Filter

open Constraint (atomsOf)

/-- A value that is given for a field of the type passes as `v`, which is its normal form and passes
as it is. -/
structure Normalized (type : ScalarType) (given v : Json) : Prop where
  checked : typedValue (.scalar type) given = .ok v
  form : NormalForm type given v
  fixed : typedValue (.scalar type) v = .ok v

lemma normalized_of_typedValue {type : ScalarType} {given v : Json}
    (h : typedValue (.scalar type) given = .ok v) : Normalized type given v := by
  have hform := typedValue_ok_iff.1 h
  exact ⟨h, hform, typedValue_ok_iff.2 hform.fixed⟩

/-! ### What the operators of one field give -/

/-- One of the operators has a value whose normal form is `v`. -/
def FieldOperators.Gives (o : FieldOperators) (operators : List String) (v : Json) : Prop :=
  ∃ operator ∈ operators, ∃ given, (operator, given) ∈ o.members ∧ Normalized o.type given v

section Operator

variable {type : ScalarType} {operator : String} {value v : Json} {c c' : Condition}

lemma Sets.unique (h : Sets type operator value c) (h' : Sets type operator value c') : c = c' :=
  Except.ok.inj ((ofOperator_ok_iff.2 h).symm.trans (ofOperator_ok_iff.2 h'))

lemma Sets.eq_boolean_of_is (h : Sets type "is" value c)
    (hv : typedValue (.scalar type) value = .ok v) :
    type = .boolean := by
  rw [← ofOperator_ok_iff] at h
  by_contra ht
  cases value with
  | null => exact typedValue_null type v hv
  | bool _ | int _ | float _ | str _ | arr _ | obj _ => simp [Condition.ofOperator, ht] at h

lemma Sets.isOrdered_of_side {side : Side} (h : Sets type side.name value c) :
    isOrdered (.scalar type) := by
  rw [← ofOperator_ok_iff] at h
  by_contra ht
  cases side <;> simp [Condition.ofOperator, Side.name, Side.ofName?, ht] at h

end Operator

lemma AllSet.mem_iff {type : ScalarType} {operators : Json.Members} {conditions : List Condition}
    (h : AllSet type operators conditions) {c : Condition} :
    c ∈ conditions ↔ ∃ entry ∈ operators, Sets type entry.1 entry.2 c := by
  constructor
  · exact exists_left_of_forall₂ h c
  · rintro ⟨entry, hentry, hc⟩
    obtain ⟨c', hmem, hc'⟩ := exists_right_of_forall₂ h entry hentry
    rwa [hc.unique hc']

section Operators

variable {o : FieldOperators} {conditions : List Condition}

lemma mem_term_iff (h : AllSet o.type o.members conditions) {v : Json} :
    .term v ∈ conditions ↔ o.Gives ["eq", "is"] v := by
  rw [h.mem_iff]
  constructor
  · rintro ⟨⟨operator, given⟩, hentry, hset⟩
    cases hset with
    | isBoolean ht hv => exact ⟨"is", by simp, given, hentry, normalized_of_typedValue hv⟩
    | eq hv => exact ⟨"eq", by simp, given, hentry, normalized_of_typedValue hv⟩
  · rintro ⟨operator, hop, given, hentry, hv⟩
    obtain ⟨c, -, hset⟩ := exists_right_of_forall₂ h _ hentry
    simp only [List.mem_cons, List.not_mem_nil, or_false] at hop
    rcases hop with rfl | rfl
    · exact ⟨_, hentry, .eq hv.checked⟩
    · exact ⟨_, hentry, .isBoolean (hset.eq_boolean_of_is hv.checked) hv.checked⟩

lemma mem_wildcard_iff (h : AllSet o.type o.members conditions) {p : String}
    {caseInsensitive : Bool} :
    .wildcard p caseInsensitive ∈ conditions ↔
      o.type = .string ∧
        ((if caseInsensitive then "matches_lc" else "matches"), .str p) ∈ o.members := by
  rw [h.mem_iff]
  constructor
  · rintro ⟨⟨operator, given⟩, hentry, hset⟩
    cases hset with
    | pattern ht => exact ⟨ht, hentry⟩
    | patternLc ht => exact ⟨ht, hentry⟩
  · rintro ⟨ht, hentry⟩
    refine ⟨_, hentry, ?_⟩
    cases caseInsensitive with
    | false => exact .pattern ht
    | true => exact .patternLc ht

lemma mem_bound_iff (h : AllSet o.type o.members conditions) {side : Side} {v : Json} :
    .bound side v ∈ conditions ↔ isOrdered (.scalar o.type) ∧ o.Gives [side.name] v := by
  rw [h.mem_iff]
  constructor
  · rintro ⟨⟨operator, given⟩, hentry, hset⟩
    cases hset with
    | bound ht hv =>
      exact ⟨ht, side.name, List.mem_singleton_self _, given, hentry, normalized_of_typedValue hv⟩
  · rintro ⟨ht, operator, hop, given, hentry, hv⟩
    obtain rfl := List.mem_singleton.1 hop
    exact ⟨_, hentry, .bound ht hv.checked⟩

/-- Bounds are only given where the type is ordered. -/
lemma isOrdered_of_gives (h : AllSet o.type o.members conditions) {side : Side} {v : Json}
    (hgives : o.Gives [side.name] v) : isOrdered (.scalar o.type) := by
  obtain ⟨operator, hop, given, hentry, -⟩ := hgives
  obtain rfl := List.mem_singleton.1 hop
  obtain ⟨c, -, hset⟩ := exists_right_of_forall₂ h _ hentry
  exact hset.isOrdered_of_side

/-- The gathered bounds are those that the operators give. -/
lemma get_bounds_iff (h : AllSet o.type o.members conditions)
    (hnodup : (o.members.map Prod.fst).Nodup) {side : Side} {v : Json} :
    (conditions.foldl Condition.addBound .empty).get side = some v ↔ o.Gives [side.name] v := by
  rw [get_foldl_addBound (h.boundsAgree hnodup), mem_bound_iff h]
  simpa using isOrdered_of_gives h

end Operators

/-! ### The conditions of one operator object -/

/-- The atomic condition of a condition that is no bound. -/
def Condition.atom? (field : String) : Condition → Option Constraint
  | .missing => some (.present field)
  | .term value => some (.term field value)
  | .wildcard pattern caseInsensitive => some (.wildcard field pattern caseInsensitive)
  | .bound _ _ => none

lemma atomsOf_constraints (field : String) (conditions : List Condition) :
    atomsOf (constraints field conditions) =
      conditions.filterMap (Condition.atom? field) ++
        (if (conditions.foldl Condition.addBound .empty).isEmpty then []
          else [.range field (conditions.foldl Condition.addBound .empty)]) := by
  have hrest : atomsOf (conditions.filterMap (Condition.constraint? field)) =
      conditions.filterMap (Condition.atom? field) := by
    induction conditions with
    | nil => rfl
    | cons c rest ih =>
      cases c with
      | missing => simp [Condition.constraint?, Condition.atom?, Constraint.missing,
          Constraint.atoms, ih]
      | term _ | wildcard _ _ => simp [Condition.constraint?, Condition.atom?, Constraint.atoms, ih]
      | bound _ _ => simpa [Condition.constraint?, Condition.atom?, List.filterMap_cons] using ih
  rw [constraints, Constraint.atomsOf_append, hrest]
  split <;> simp [Constraint.atoms]

lemma mem_gathered_iff {field : String} {bounds : Bounds} {c : Constraint} :
    c ∈ (if bounds.isEmpty then [] else [Constraint.range field bounds]) ↔
      c = .range field bounds ∧ ∃ side v, bounds.get side = some v := by
  have hempty : bounds.isEmpty ↔ ¬ ∃ side v, bounds.get side = some v := by
    simp only [Bounds.isEmpty_iff, Option.eq_none_iff_forall_ne_some, ne_eq, not_exists]
  split
  · next h => simp [hempty.1 h]
  · next h => simp [not_not.1 (mt hempty.2 h)]

lemma mem_atoms_iff {field : String} {conditions : List Condition} {c : Constraint} :
    c ∈ conditions.filterMap (Condition.atom? field) ↔
      (c = .present field ∧ .missing ∈ conditions) ∨
      (∃ v, c = .term field v ∧ .term v ∈ conditions) ∨
      ∃ p caseInsensitive, c = .wildcard field p caseInsensitive ∧
        .wildcard p caseInsensitive ∈ conditions := by
  rw [List.mem_filterMap]
  constructor
  · rintro ⟨condition, hmem, hc⟩
    cases condition with
    | missing => exact .inl ⟨(Option.some.inj hc).symm, hmem⟩
    | term v => exact .inr (.inl ⟨v, (Option.some.inj hc).symm, hmem⟩)
    | wildcard p ci => exact .inr (.inr ⟨p, ci, (Option.some.inj hc).symm, hmem⟩)
    | bound _ _ => cases hc
  · rintro (⟨rfl, hmem⟩ | ⟨v, rfl, hmem⟩ | ⟨p, ci, rfl, hmem⟩)
    · exact ⟨_, hmem, rfl⟩
    · exact ⟨_, hmem, rfl⟩
    · exact ⟨_, hmem, rfl⟩

/-- The atomic conditions of an operator object are about its field, and hold what it gives. -/
structure Native (o : FieldOperators) (atoms : List Constraint) : Prop where
  term : ∀ field v, .term field v ∈ atoms ↔ field = o.path ∧ o.Gives ["eq", "is"] v
  wildcard : ∀ field p caseInsensitive, .wildcard field p caseInsensitive ∈ atoms ↔
    field = o.path ∧ o.type = .string ∧
      ((if caseInsensitive then "matches_lc" else "matches"), .str p) ∈ o.members
  range : ∀ field (bounds : Bounds), .range field bounds ∈ atoms →
    field = o.path ∧ o.type ∈ [.integer, .float, .timestamp] ∧
      (∃ side v, bounds.get side = some v) ∧
      ∀ side v, bounds.get side = some v ↔ o.Gives [side.name] v
  ranged : ∀ (side : Side) v, o.Gives [side.name] v → ∃ bounds, .range o.path bounds ∈ atoms
  atMostOne : atoms.countP Constraint.isRange ≤ 1

lemma native_of_compileOperators {o : FieldOperators} {cs : List Constraint}
    (hnodup : (o.members.map Prod.fst).Nodup)
    (h : compileOperators o.path (.scalar o.type) o.members = .ok cs) : Native o (atomsOf cs) := by
  obtain ⟨conditions, hset, rfl⟩ := compileOperators_ok_iff.1 h
  rw [atomsOf_constraints]
  have hget := @get_bounds_iff o conditions hset hnodup
  generalize conditions.foldl Condition.addBound .empty = bounds at hget ⊢
  refine ⟨fun field v => ?term, fun field p ci => ?wildcard, fun field b hb => ?range,
    fun side v hv => ?ranged, ?atMostOne⟩
  case term =>
    simp only [List.mem_append, mem_atoms_iff, mem_gathered_iff, mem_term_iff hset]
    simp
  case wildcard =>
    simp only [List.mem_append, mem_atoms_iff, mem_gathered_iff, mem_wildcard_iff hset]
    cases ci <;> simp
  case range =>
    simp only [List.mem_append, mem_atoms_iff, mem_gathered_iff] at hb
    obtain ⟨rfl, rfl, side, v, hv⟩ : field = o.path ∧ b = bounds ∧
        ∃ side v, bounds.get side = some v := by simpa [and_assoc] using hb
    have htype := isOrdered_of_gives hset (hget.1 hv)
    exact ⟨rfl, isOrdered_iff.1 htype, ⟨side, v, hv⟩, fun _ _ => hget⟩
  case ranged =>
    exact ⟨bounds, List.mem_append_right _ (mem_gathered_iff.2 ⟨rfl, side, v, hget.2 hv⟩)⟩
  case atMostOne =>
    have hatoms : (conditions.filterMap (Condition.atom? o.path)).countP
        Constraint.isRange = 0 := by
      refine List.countP_eq_zero.2 fun c hc => ?_
      rcases mem_atoms_iff.1 hc with ⟨rfl, -⟩ | ⟨v, rfl, -⟩ | ⟨p, ci, rfl, -⟩ <;>
        exact Bool.false_ne_true
    rw [List.countP_append, hatoms, Nat.zero_add]
    refine List.countP_le_length.trans ?_
    split <;> simp

/-- **Values in compiled filters** are native to the types of their fields. The atomic conditions of
a compiled filter are those of its operator objects, each of which stands at a scalar field of the
schema. -/
theorem compile_values_native {root : List String} {schema : Schema} {filter : Option Filter}
    {constraints : List Constraint}
    (hcanonical : ∀ tree ∈ filter, (Json.obj tree.members).Canonical)
    (h : compile root schema filter = .ok constraints) :
    ∃ groups, atomsOf constraints = groups.flatten ∧
      List.Forall₂ (fun o atoms => Native o atoms ∧
        ∃ chain, Chain schema.fields chain o.type ∧
          o.path = dottedPath (".".intercalate root) chain)
        (operatorObjects root schema filter) groups := by
  obtain ⟨⟨groups, hgroups, hatoms⟩, hdeclared⟩ := operatorObjects_of_compile hcanonical h
  refine ⟨groups.map atomsOf, by rw [hatoms, Constraint.atomsOf_flatten], ?_⟩
  rw [List.forall₂_map_right_iff]
  refine ((List.forall₂_and_left _ _).2 ⟨hdeclared, hgroups⟩).imp fun o group ⟨hdecl, hops⟩ => ?_
  exact ⟨native_of_compileOperators hdecl.nodup hops, hdecl.chain⟩

/-! ### A filter whose values change in form -/

def loadSchema : Schema :=
  ⟨[⟨"facts", .object, [⟨"load", .scalar .float, []⟩]⟩, ⟨"id", .scalar .uuid, []⟩,
    ⟨"scans", .nested, [⟨"at", .scalar .timestamp, []⟩]⟩]⟩

/-- Hosts without a late scan, other than the one, or with a load from 1 up to 4. -/
def loadFilter : Filter :=
  ⟨[("NOT", .obj [("scans", .obj [("at", .obj [("gt", .str "2024-01-01T00:00:00Z")])])]),
    ("OR", .arr [.obj [("facts", .obj [("load", .obj [("gte", .int 1), ("lt", .int 4)])])],
      .obj [("id", .obj [("eq", .str "{550E8400-E29B-41D4-A716-446655440000}")])]])]⟩

def loadConstraints : List Constraint :=
  [.noneOf [.all [.nested "scans"
      [.range "scans.at" ⟨some (.str "2024-01-01T00:00:00Z"), none, none, none⟩]]],
    .any [.all [.range "facts.load" ⟨none, some (.float (Binary64.ofInt 1)),
        some (.float (Binary64.ofInt 4)), none⟩],
      .all [.term "id" (.str "550e8400-e29b-41d4-a716-446655440000")]]]

theorem compile_values_native_load :
    (∀ tree ∈ some loadFilter, (Json.obj tree.members).Canonical) ∧
      compile [] loadSchema (some loadFilter) = .ok loadConstraints ∧
      ∃ groups, atomsOf loadConstraints = groups.flatten ∧
        List.Forall₂ (fun o atoms => Native o atoms ∧
          ∃ chain, Chain loadSchema.fields chain o.type ∧
            o.path = dottedPath (".".intercalate []) chain)
          (operatorObjects [] loadSchema (some loadFilter)) groups := by
  have hcanonical : ∀ tree ∈ some loadFilter, (Json.obj tree.members).Canonical := by
    rintro tree ⟨⟩
    decide
  have hcompile : compile [] loadSchema (some loadFilter) = .ok loadConstraints := rfl
  exact ⟨hcanonical, hcompile, compile_values_native hcanonical hcompile⟩

end Filter

end HostFacets
