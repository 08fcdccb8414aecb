import HostFacets.Proofs.Canonical
import HostFacets.Proofs.Compilation
import HostFacets.Proofs.Operators

/-!
The meaning of host filters, and that compilation keeps it.

A filter tree is read on its own, without the constraints it compiles to: entries, arms and
operators are combined as the tree spells them, and only the atomic conditions are left to the
interpretation. An entry that the schema gives no meaning holds of no document.
-/

namespace HostFacets.Filter

section

variable {δ : Type u} (I : Interpretation δ)

/-! ### Operators -/

/-- A condition on the value of an operator, in the normal form of the field's type. -/
def OnTyped (type : ScalarType) (value : Json) (condition : Json → δ → Prop) (d : δ) : Prop :=
  ∃ v, typedValue (.scalar type) value = .ok v ∧ condition v d

/-- A condition on the value of an operator that takes a pattern. -/
def OnPattern (value : Json) (condition : String → δ → Prop) (d : δ) : Prop :=
  ∃ p, value = .str p ∧ condition p d

/-- What an operator with its value says of the scalar field at `path`. -/
def OperatorHolds (type : ScalarType) (path operator : String) (value : Json) (d : δ) : Prop :=
  match operator with
  | "is" => if value = .null then ¬ I.present path d else OnTyped type value (I.term path) d
  | "eq" => OnTyped type value (I.term path) d
  | "matches" => OnPattern value (fun p => I.wildcard path p false) d
  | "matches_lc" => OnPattern value (fun p => I.wildcard path p true) d
  | "gt" => OnTyped type value (I.bound path .gt) d
  | "gte" => OnTyped type value (I.bound path .gte) d
  | "lt" => OnTyped type value (I.bound path .lt) d
  | "lte" => OnTyped type value (I.bound path .lte) d
  | _ => False

/-- All operators of one field hold. -/
def OperatorsHold (type : ScalarType) (path : String) (operators : Json.Members) (d : δ) : Prop :=
  ∀ entry ∈ operators, OperatorHolds I type path entry.1 entry.2 d

/-! ### Trees -/

mutual

/-- The conjunction of the entries of a tree, for the fields below `path`. -/
def TreeHolds (path : String) (fields : List FieldDef) : List (String × Json) → δ → Prop
  | [], _ => True
  | (name, node) :: rest, d => EntryHolds path fields name node d ∧ TreeHolds path fields rest d

def EntryHolds (path : String) (fields : List FieldDef) (name : String) : Json → δ → Prop
  | .arr arms, d =>
    if name = "AND" then EveryArmHolds path fields arms d
    else if name = "OR" then arms = [] ∨ SomeArmHolds path fields arms d
    else False
  | .obj members, d =>
    if name = "NOT" then ¬ TreeHolds path fields members d
    else match findField fields name with
      | none => False
      | some field =>
        match field.type with
        | .scalar type => OperatorsHold I type (joinPath path name) members d
        | .object => TreeHolds (joinPath path name) field.fields members d
        | .nested =>
          -- one document satisfies the whole tree, not one for each of its entries
          ∃ e, I.nested (joinPath path name) d e ∧
            TreeHolds (joinPath path name) field.fields members e
  | _, _ => False

def EveryArmHolds (path : String) (fields : List FieldDef) : List Json → δ → Prop
  | [], _ => True
  | .obj members :: rest, d => TreeHolds path fields members d ∧ EveryArmHolds path fields rest d
  | _ :: _, _ => False

def SomeArmHolds (path : String) (fields : List FieldDef) : List Json → δ → Prop
  | [], _ => False
  | .obj members :: rest, d => TreeHolds path fields members d ∨ SomeArmHolds path fields rest d
  | _ :: rest, d => SomeArmHolds path fields rest d

end

/-- The meaning of a filter whose fields are addressed under the path `root`. A missing filter
holds of every document. -/
def Holds (root : List String) (schema : Schema) : Option Filter → δ → Prop
  | none, _ => True
  | some filter, d => TreeHolds I (".".intercalate root) schema.fields filter.members d

/-! ### Operators keep their meaning -/

/-- What a condition on the field at `path` says. -/
def Condition.Holds (path : String) : Condition → δ → Prop
  | .missing, d => ¬ I.present path d
  | .term value, d => I.term path value d
  | .wildcard p caseInsensitive, d => I.wildcard path p caseInsensitive d
  | .bound side value, d => I.bound path side value d

lemma onTyped_iff {type : ScalarType} {value v : Json} {condition : Json → δ → Prop} {d : δ}
    (h : typedValue (.scalar type) value = .ok v) :
    OnTyped type value condition d ↔ condition v d := by
  simp [OnTyped, h]

lemma holds_of_sets {type : ScalarType} {operator : String} {value : Json} {c : Condition}
    (h : Sets type operator value c) (path : String) (d : δ) :
    c.Holds I path d ↔ OperatorHolds I type path operator value d := by
  cases h with
  | isNull => simp [OperatorHolds, Condition.Holds]
  | @isBoolean value v ht hv =>
    have hnull : value ≠ .null := fun hn => typedValue_null type v (hn ▸ hv)
    rw [OperatorHolds, if_neg hnull, onTyped_iff hv, Condition.Holds]
  | eq hv => simp [OperatorHolds, onTyped_iff hv, Condition.Holds]
  | pattern ht => simp [OperatorHolds, OnPattern, Condition.Holds]
  | patternLc ht => simp [OperatorHolds, OnPattern, Condition.Holds]
  | @bound side value v ht hv =>
    cases side <;> simp [OperatorHolds, Side.name, onTyped_iff hv, Condition.Holds]

lemma holds_of_allSet {type : ScalarType} {operators : Json.Members} {conditions : List Condition}
    (h : AllSet type operators conditions) (path : String) (d : δ) :
    (∀ c ∈ conditions, c.Holds I path d) ↔ OperatorsHold I type path operators d := by
  unfold OperatorsHold
  induction h with
  | nil => simp
  | cons hset _ ih => simp only [List.forall_mem_cons, holds_of_sets I hset, ih]

/-- The constraints of the conditions on a field are their conjunction. -/
lemma allHold_constraints {conditions : List Condition} (hagree : BoundsAgree conditions)
    (path : String) (d : δ) :
    AllHold I (constraints path conditions) d ↔ ∀ c ∈ conditions, c.Holds I path d := by
  have hrange : ∀ bounds : Bounds,
      AllHold I (if bounds.isEmpty then [] else [.range path bounds]) d ↔
        ∀ side v, bounds.get side = some v → I.bound path side v d := by
    intro bounds
    split
    · next h => simp [(Bounds.isEmpty_iff bounds).1 h]
    · simp [Constraint.Holds]
  have hget : ∀ side v, (conditions.foldl Condition.addBound .empty).get side = some v ↔
      .bound side v ∈ conditions := by
    simp [get_foldl_addBound hagree]
  rw [constraints, allHold_append, hrange, allHold_iff]
  simp only [hget, List.mem_filterMap]
  constructor
  · rintro ⟨hothers, hbounds⟩ c hc
    cases c with
    | missing => exact (Constraint.holds_missing I path d).1 (hothers _ ⟨_, hc, rfl⟩)
    | term v => exact hothers (.term path v) ⟨_, hc, rfl⟩
    | wildcard p caseInsensitive =>
      exact hothers (.wildcard path p caseInsensitive) ⟨_, hc, rfl⟩
    | bound side v => exact hbounds side v hc
  · intro h
    refine ⟨?_, fun side v hv => h _ hv⟩
    rintro k ⟨c, hc, hk⟩
    have hholds := h c hc
    cases c <;> cases hk
    · exact (Constraint.holds_missing I path d).2 hholds
    · exact hholds
    · exact hholds

lemma compileOperators_holds {type : ScalarType} {path : String} {operators : Json.Members}
    {constraints : List Constraint}
    (h : compileOperators path (.scalar type) operators = .ok constraints)
    (hnodup : (operators.map Prod.fst).Nodup) (d : δ) :
    AllHold I constraints d ↔ OperatorsHold I type path operators d := by
  obtain ⟨conditions, hset, rfl⟩ := compileOperators_ok_iff.1 h
  rw [allHold_constraints I (hset.boundsAgree hnodup), holds_of_allSet I hset]

/-! ### Trees keep their meaning -/

lemma allHold_disjunction (inner : List (List Constraint)) (d : δ) :
    AllHold I (disjunction inner) d ↔ inner = [] ∨ ∃ arm ∈ inner, AllHold I arm d := by
  cases inner with
  | nil => simp [disjunction]
  | cons arm rest => simp [disjunction, someHolds_iff, SomeHolds]

-- By induction on the tree. The document stays arbitrary, since a nested field changes it; a `NOT`
-- needs both directions of the inner tree, and an `OR` needs to know whether it has arms at all.
mutual

lemma compileTree_holds : ∀ {members : List (String × Json)} {scope : Scope}
    {constraints : List Constraint}, Json.MembersCanonical members →
    compileTree scope members = .ok constraints → ∀ d,
    (AllHold I constraints d ↔ TreeHolds I scope.path scope.fields members d)
  | [], _, _, _, h, d => by
    cases h
    simp [TreeHolds]
  | (name, node) :: rest, scope, _, hc, h, d => by
    obtain ⟨first, more, hfirst, hmore, rfl⟩ := compileTree_cons_ok_iff.1 h
    rw [allHold_append, TreeHolds, compileEntry_holds hc.1 hfirst d, compileTree_holds hc.2 hmore d]

lemma compileEntry_holds : ∀ {node : Json} {scope : Scope} {name : String}
    {constraints : List Constraint}, node.Canonical →
    compileEntry scope name node = .ok constraints → ∀ d,
    (AllHold I constraints d ↔ EntryHolds I scope.path scope.fields name node d)
  | .arr arms, scope, name, _, hc, hentry, d => by
    cases compileEntry_ok_iff.1 hentry with
    | @all _ inner harms =>
      obtain ⟨-, hevery, -⟩ := compileArms_holds hc harms d
      rw [EntryHolds, if_pos rfl, ← hevery, allHold_iff, conjunction]
      simp only [List.forall_mem_map, Constraint.holds_all]
    | @any _ inner harms =>
      obtain ⟨hnil, -, hsome⟩ := compileArms_holds hc harms d
      rw [EntryHolds, if_neg (by decide), if_pos rfl, ← hnil, ← hsome, allHold_disjunction]
  | .obj members, scope, name, _, hc, hentry, d => by
    cases compileEntry_ok_iff.1 hentry with
    | @not _ inner htree =>
      have ih := compileTree_holds hc.2 htree d
      rw [EntryHolds, if_pos rfl, ← ih]
      simp [negation, SomeHolds]
    | scalar hname hfield htype hops =>
      have hnot := (Combinator.ofName?_eq_none_iff.1 hname).2.2
      simp only [EntryHolds, if_neg hnot, hfield, htype]
      exact compileOperators_holds I hops hc.1.nodup d
    | object hname hfield htype htree =>
      have hnot := (Combinator.ofName?_eq_none_iff.1 hname).2.2
      simp only [EntryHolds, if_neg hnot, hfield, htype]
      obtain rfl := name_of_findField hfield
      exact compileTree_holds hc.2 htree d
    | @nested _ field _ inner hname hfield htype htree =>
      have hnot := (Combinator.ofName?_eq_none_iff.1 hname).2.2
      simp only [EntryHolds, if_neg hnot, hfield, htype, allHold_singleton, Constraint.Holds]
      obtain rfl := name_of_findField hfield
      have ih := fun e => compileTree_holds hc.2 htree e
      simp only [ih, Scope.child, Scope.fieldPath]
  | .null, _, _, _, _, h, _ | .bool _, _, _, _, _, h, _ | .int _, _, _, _, _, h, _
  | .float _, _, _, _, _, h, _ | .str _, _, _, _, _, h, _ => nomatch compileEntry_ok_iff.1 h

lemma compileArms_holds : ∀ {arms : List Json} {scope : Scope} {name : String}
    {inner : List (List Constraint)}, Json.ItemsCanonical arms →
    compileArms scope name arms = .ok inner → ∀ d,
    (inner = [] ↔ arms = []) ∧
      ((∀ arm ∈ inner, AllHold I arm d) ↔ EveryArmHolds I scope.path scope.fields arms d) ∧
      ((∃ arm ∈ inner, AllHold I arm d) ↔ SomeArmHolds I scope.path scope.fields arms d)
  | [], _, _, _, _, h, d => by
    cases h
    simp [EveryArmHolds, SomeArmHolds]
  | arm :: rest, scope, name, _, hc, h, d => by
    obtain ⟨members, first, more, rfl, hfirst, hmore, rfl⟩ := compileArms_cons_ok_iff.1 h
    have harm := compileTree_holds hc.1.2 hfirst d
    obtain ⟨-, hevery, hsome⟩ := compileArms_holds hc.2 hmore d
    simp only [List.cons_ne_nil, List.forall_mem_cons, List.exists_mem_cons_iff, harm, hevery,
      hsome, EveryArmHolds, SomeArmHolds, and_self]

end

/-- **Compilation keeps the meaning of a filter**, for every interpretation and document. A
filter is canonical, as all filters are that are read from a text. -/
theorem compile_preserves_meaning {root : List String} {schema : Schema} {filter : Option Filter}
    {constraints : List Constraint}
    (hcanonical : ∀ tree ∈ filter, (Json.obj tree.members).Canonical)
    (h : compile root schema filter = .ok constraints) (d : δ) :
    AllHold I constraints d ↔ Holds I root schema filter d := by
  cases filter with
  | none =>
    cases h
    simp [Holds]
  | some tree => exact compileTree_holds I (hcanonical tree rfl).2 h d

end

/-! ### A filter with combinators in and around a nested field -/

open Interpretation (listed)

def sampleSchema : Schema :=
  ⟨[⟨"name", .scalar .string, []⟩, ⟨"facts", .object, [⟨"cpus", .scalar .integer, []⟩]⟩,
    ⟨"tags", .nested, [⟨"key", .scalar .string, []⟩]⟩]⟩

/-- Two to eight processors and no tag `a`; the arms of the `OR` exclude nothing. -/
def sampleFilter : Filter :=
  ⟨[("NOT", .obj [("tags", .obj [("key", .obj [("eq", .str "a")])])]),
    ("OR", .arr [.obj [("name", .obj [("is", .null)])], .obj []]),
    ("facts", .obj [("cpus", .obj [("gte", .int 2), ("lt", .int 9)])])]⟩

def sampleConstraints : List Constraint :=
  [.noneOf [.all [.nested "host.tags" [.term "host.tags.key" (.str "a")]]],
    .any [.all [.missing "host.name"], .all []],
    .range "host.facts.cpus" ⟨none, some (.int 2), some (.int 9), none⟩]

theorem compile_preserves_meaning_sample :
    (∀ tree ∈ some sampleFilter, (Json.obj tree.members).Canonical) ∧
      compile ["host"] sampleSchema (some sampleFilter) = .ok sampleConstraints ∧
      (AllHold listed sampleConstraints [("host.facts.cpus", .int 4)] ↔
        Holds listed ["host"] sampleSchema (some sampleFilter) [("host.facts.cpus", .int 4)]) := by
  have hcanonical : ∀ tree ∈ some sampleFilter, (Json.obj tree.members).Canonical := by
    rintro tree ⟨⟩
    decide
  have hcompile : compile ["host"] sampleSchema (some sampleFilter) = .ok sampleConstraints := rfl
  exact ⟨hcanonical, hcompile, compile_preserves_meaning listed hcanonical hcompile _⟩

end HostFacets.Filter
