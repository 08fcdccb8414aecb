import HostFacets.Proofs.Canonical
import HostFacets.Proofs.Paths

/-!
The operator objects of a filter tree, and the conditions that come of them.

Combinators and containers arrange conditions but add none and drop none: the atomic conditions of a
compiled filter are, in their order, those that its operator objects compile to on their own.
-/

namespace HostFacets

/-! ### Atomic conditions -/

namespace Constraint

mutual

/-- The atomic conditions of a constraint, clause by clause. -/
def atoms : Constraint → List Constraint
  | .bool filter should mustNot => atomsOf filter ++ atomsOf should ++ atomsOf mustNot
  | .nested _ constraints => atomsOf constraints
  | atom => [atom]

def atomsOf : List Constraint → List Constraint
  | [] => []
  | c :: rest => c.atoms ++ atomsOf rest

end

@[simp] lemma atomsOf_nil : atomsOf [] = [] := rfl

@[simp] lemma atomsOf_cons (c : Constraint) (rest : List Constraint) :
    atomsOf (c :: rest) = c.atoms ++ atomsOf rest := rfl

@[simp] lemma atomsOf_append (cs cs' : List Constraint) :
    atomsOf (cs ++ cs') = atomsOf cs ++ atomsOf cs' := by
  induction cs with
  | nil => rfl
  | cons c rest ih => simp [ih]

@[simp] lemma atoms_all (cs : List Constraint) : (all cs).atoms = atomsOf cs := by
  simp [all, atoms]

@[simp] lemma atoms_any (cs : List Constraint) : (any cs).atoms = atomsOf cs := by
  simp [any, atoms]

@[simp] lemma atoms_noneOf (cs : List Constraint) : (noneOf cs).atoms = atomsOf cs := by
  simp [noneOf, atoms]

@[simp] lemma atoms_nested (path : String) (cs : List Constraint) :
    (nested path cs).atoms = atomsOf cs := rfl

lemma atomsOf_flatten (groups : List (List Constraint)) :
    atomsOf groups.flatten = (groups.map atomsOf).flatten := by
  induction groups with
  | nil => rfl
  | cons cs rest ih => simp [ih]

lemma atomsOf_map_all (arms : List (List Constraint)) :
    atomsOf (arms.map .all) = atomsOf arms.flatten := by
  induction arms with
  | nil => rfl
  | cons arm rest ih => simp [ih]

end Constraint

namespace Filter

open Constraint (atomsOf atomsOf_map_all)

/-! ### Operator objects -/

/-- An object of operators with the scalar field that it is about. -/
structure FieldOperators where
  path : String
  type : ScalarType
  members : Json.Members

mutual

/-- The operator objects of a tree, in the order in which they are visited. -/
def treeOperators (scope : Scope) : List (String × Json) → List FieldOperators
  | [] => []
  | (name, node) :: rest => entryOperators scope name node ++ treeOperators scope rest

def entryOperators (scope : Scope) (name : String) : Json → List FieldOperators
  | .arr arms => armsOperators scope arms
  | .obj members =>
    if name = "NOT" then treeOperators scope members
    else match findField scope.fields name with
      | none => []
      | some field =>
        match field.type with
        | .scalar type => [⟨scope.fieldPath name, type, members⟩]
        | .object | .nested => treeOperators (scope.child field) members
  | _ => []

def armsOperators (scope : Scope) : List Json → List FieldOperators
  | [] => []
  | .obj members :: rest => treeOperators scope members ++ armsOperators scope rest
  | _ :: rest => armsOperators scope rest

end

/-- The operator objects of a filter whose fields are addressed under the path `root`. -/
def operatorObjects (root : List String) (schema : Schema) : Option Filter → List FieldOperators
  | none => []
  | some filter => treeOperators ⟨".".intercalate root, schema.fields⟩ filter.members

/-! ### Where operator objects stand -/

/-- An operator object stands at a scalar field of the schema and has no operator twice. -/
structure FieldOperators.Declared (base : String) (fields : List FieldDef) (o : FieldOperators) :
    Prop where
  chain : ∃ chain, Chain fields chain o.type ∧ o.path = dottedPath base chain
  nodup : (o.members.map Prod.fst).Nodup

lemma FieldOperators.Declared.of_child {scope : Scope} {field : FieldDef} {o : FieldOperators}
    (h : o.Declared (scope.child field).path field.fields)
    (hfield : findField scope.fields field.name = some field)
    (htype : field.type = .object ∨ field.type = .nested) : o.Declared scope.path scope.fields := by
  obtain ⟨⟨chain, hchain, hpath⟩, hnodup⟩ := h
  refine ⟨⟨field :: chain, .container hfield htype hchain, ?_⟩, hnodup⟩
  rw [hpath, Scope.child, Scope.fieldPath, dottedPath_joinPath]

-- By induction on the tree, for every scope: a container extends the chain.
mutual

lemma declared_of_mem_treeOperators : ∀ {members : List (String × Json)} {scope : Scope},
    Json.MembersCanonical members → ∀ o ∈ treeOperators scope members,
    o.Declared scope.path scope.fields
  | [], _, _, o, ho => by cases ho
  | (name, node) :: rest, scope, hc, o, ho => by
    rcases List.mem_append.1 ho with ho | ho
    · exact declared_of_mem_entryOperators hc.1 o ho
    · exact declared_of_mem_treeOperators hc.2 o ho

lemma declared_of_mem_entryOperators : ∀ {node : Json} {scope : Scope} {name : String},
    node.Canonical → ∀ o ∈ entryOperators scope name node, o.Declared scope.path scope.fields
  | .arr arms, scope, _, hc, o, ho => declared_of_mem_armsOperators hc o ho
  | .obj members, scope, name, hc, o, ho => by
    simp only [entryOperators] at ho
    split at ho
    · exact declared_of_mem_treeOperators hc.2 o ho
    · split at ho
      · cases ho
      · next field hfield =>
        obtain rfl := name_of_findField hfield
        split at ho
        · next type htype =>
          obtain rfl := List.mem_singleton.1 ho
          refine ⟨⟨[field], .scalar hfield htype, ?_⟩, hc.1.nodup⟩
          rw [dottedPath_singleton, Scope.fieldPath]
        · next htype => exact (declared_of_mem_treeOperators hc.2 o ho).of_child hfield (.inl htype)
        · next htype => exact (declared_of_mem_treeOperators hc.2 o ho).of_child hfield (.inr htype)
  | .null, _, _, _, _, ho | .bool _, _, _, _, _, ho | .int _, _, _, _, _, ho
  | .float _, _, _, _, _, ho | .str _, _, _, _, _, ho => by cases ho

lemma declared_of_mem_armsOperators : ∀ {arms : List Json} {scope : Scope},
    Json.ItemsCanonical arms → ∀ o ∈ armsOperators scope arms, o.Declared scope.path scope.fields
  | [], _, _, o, ho => by cases ho
  | .obj members :: rest, scope, hc, o, ho => by
    rcases List.mem_append.1 ho with ho | ho
    · exact declared_of_mem_treeOperators hc.1.2 o ho
    · exact declared_of_mem_armsOperators hc.2 o ho
  | .null :: rest, _, hc, o, ho | .bool _ :: rest, _, hc, o, ho | .int _ :: rest, _, hc, o, ho
  | .float _ :: rest, _, hc, o, ho | .str _ :: rest, _, hc, o, ho
  | .arr _ :: rest, _, hc, o, ho => declared_of_mem_armsOperators hc.2 o ho

end

/-! ### What operator objects compile to -/

/-- Constraints have exactly the atomic conditions that these operator objects compile to. -/
def ComeFrom (operators : List FieldOperators) (cs : List Constraint) : Prop :=
  ∃ groups, List.Forall₂
    (fun o group => compileOperators o.path (.scalar o.type) o.members = .ok group)
    operators groups ∧ atomsOf cs = atomsOf groups.flatten

namespace ComeFrom

variable {operators operators' : List FieldOperators} {cs cs' : List Constraint}

lemma nil : ComeFrom [] [] := ⟨[], .nil, rfl⟩

lemma singleton {o : FieldOperators}
    (h : compileOperators o.path (.scalar o.type) o.members = .ok cs) :
    ComeFrom [o] cs :=
  ⟨[cs], .cons h .nil, by simp⟩

lemma append (h : ComeFrom operators cs) (h' : ComeFrom operators' cs') :
    ComeFrom (operators ++ operators') (cs ++ cs') := by
  obtain ⟨groups, hgroups, hatoms⟩ := h
  obtain ⟨groups', hgroups', hatoms'⟩ := h'
  exact ⟨groups ++ groups', List.rel_append hgroups hgroups', by simp [hatoms, hatoms']⟩

lemma congr (h : ComeFrom operators cs) (hatoms : atomsOf cs' = atomsOf cs) :
    ComeFrom operators cs' := by
  obtain ⟨groups, hgroups, heq⟩ := h
  exact ⟨groups, hgroups, hatoms.trans heq⟩

end ComeFrom

lemma atomsOf_disjunction (arms : List (List Constraint)) :
    atomsOf (disjunction arms) = atomsOf arms.flatten := by
  cases arms with
  | nil => rfl
  | cons arm rest => simp [disjunction, ← atomsOf_map_all]

-- By induction on the tree, for every scope. The constraints of arms are compared as one list.
mutual

lemma comeFrom_of_compileTree : ∀ {members : List (String × Json)} {scope : Scope}
    {cs : List Constraint}, compileTree scope members = .ok cs →
    ComeFrom (treeOperators scope members) cs
  | [], _, _, h => by
    cases h
    exact .nil
  | (name, node) :: rest, scope, _, h => by
    obtain ⟨first, more, hfirst, hmore, rfl⟩ := compileTree_cons_ok_iff.1 h
    exact (comeFrom_of_compileEntry hfirst).append (comeFrom_of_compileTree hmore)

lemma comeFrom_of_compileEntry : ∀ {node : Json} {scope : Scope} {name : String}
    {cs : List Constraint}, compileEntry scope name node = .ok cs →
    ComeFrom (entryOperators scope name node) cs
  | .arr arms, scope, _, _, h => by
    cases compileEntry_ok_iff.1 h with
    | all harms => exact (comeFrom_of_compileArms harms).congr (atomsOf_map_all _)
    | any harms => exact (comeFrom_of_compileArms harms).congr (atomsOf_disjunction _)
  | .obj members, scope, name, _, h => by
    cases compileEntry_ok_iff.1 h with
    | not htree =>
      rw [entryOperators, if_pos rfl]
      exact (comeFrom_of_compileTree htree).congr (by simp [negation])
    | scalar hname hfield htype hops =>
      have hnot := (Combinator.ofName?_eq_none_iff.1 hname).2.2
      simp only [entryOperators, if_neg hnot, hfield, htype]
      exact .singleton hops
    | object hname hfield htype htree =>
      have hnot := (Combinator.ofName?_eq_none_iff.1 hname).2.2
      simp only [entryOperators, if_neg hnot, hfield, htype]
      exact comeFrom_of_compileTree htree
    | nested hname hfield htype htree =>
      have hnot := (Combinator.ofName?_eq_none_iff.1 hname).2.2
      simp only [entryOperators, if_neg hnot, hfield, htype]
      exact (comeFrom_of_compileTree htree).congr (by simp)
  | .null, _, _, _, h | .bool _, _, _, _, h | .int _, _, _, _, h
  | .float _, _, _, _, h | .str _, _, _, _, h => nomatch compileEntry_ok_iff.1 h

lemma comeFrom_of_compileArms : ∀ {arms : List Json} {scope : Scope} {name : String}
    {inner : List (List Constraint)}, compileArms scope name arms = .ok inner →
    ComeFrom (armsOperators scope arms) inner.flatten
  | [], _, _, _, h => by
    cases h
    exact .nil
  | arm :: rest, scope, _, _, h => by
    obtain ⟨members, first, more, rfl, hfirst, hmore, rfl⟩ := compileArms_cons_ok_iff.1 h
    exact (comeFrom_of_compileTree hfirst).append (comeFrom_of_compileArms hmore)

end

/-- Conditions come from operator objects: the atomic conditions of a compiled filter are those
of its operator objects, in their order, and every operator object stands at a scalar field of the
schema. -/
lemma operatorObjects_of_compile {root : List String} {schema : Schema} {filter : Option Filter}
    {cs : List Constraint} (hcanonical : ∀ tree ∈ filter, (Json.obj tree.members).Canonical)
    (h : compile root schema filter = .ok cs) :
    ComeFrom (operatorObjects root schema filter) cs ∧
      ∀ o ∈ operatorObjects root schema filter,
        o.Declared (".".intercalate root) schema.fields := by
  cases filter with
  | none =>
    cases h
    exact ⟨.nil, by simp [operatorObjects]⟩
  | some tree =>
    exact ⟨comeFrom_of_compileTree h, declared_of_mem_treeOperators (hcanonical tree rfl).2⟩

end Filter

end HostFacets
