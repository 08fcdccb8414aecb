import HostFacets.Proofs.Paths

/-!
Filters compiled under two roots.

The path that the fields of a filter live under has no say in what the filter means. Under two roots
it compiles, or fails, in the same way, and the results differ in nothing but the start of their
paths. This is kept by every step of the compilation, since a path only ever grows at its end.
-/

namespace HostFacets

/-- Two computations end in the same way, with related results or related errors. -/
inductive SameEnding {ε ε' : Type u} {α β : Type v} (R : α → β → Prop) (F : ε → ε' → Prop) :
    Except ε α → Except ε' β → Prop where
  | ok {a : α} {b : β} (h : R a b) : SameEnding R F (.ok a) (.ok b)
  | error {e : ε} {e' : ε'} (h : F e e') : SameEnding R F (.error e) (.error e')

namespace SameEnding

variable {ε : Type u} {α β α' β' : Type v} {R : α → β → Prop} {R' : α' → β' → Prop}
  {F : ε → ε → Prop} {x : Except ε α} {y : Except ε β}

lemma map (h : SameEnding R F x y) {f : α → α'} {g : β → β'}
    (hfg : ∀ a b, R a b → R' (f a) (g b)) : SameEnding R' F (x.map f) (y.map g) := by
  cases h with
  | ok h => exact .ok (hfg _ _ h)
  | error h => exact .error h

lemma bind (h : SameEnding R F x y) {f : α → Except ε α'} {g : β → Except ε β'}
    (hfg : ∀ a b, R a b → SameEnding R' F (f a) (g b)) : SameEnding R' F (x >>= f) (y >>= g) := by
  cases h with
  | ok h => exact hfg _ _ h
  | error h => exact .error h

end SameEnding

namespace Filter

/-! ### The same place under another root -/

/-- The same path below `p` and below `q`. -/
inductive Relocated (p q : String) : String → String → Prop where
  | mk (x : String) : Relocated p q (p ++ "." ++ x) (q ++ "." ++ x)

/-- The same constraint with every field and every nested path below `q` instead of `p`. -/
inductive Rerooted (p q : String) : Constraint → Constraint → Prop where
  | term {field field' : String} {value : Json} (h : Relocated p q field field') :
    Rerooted p q (.term field value) (.term field' value)
  | wildcard {field field' pattern : String} {caseInsensitive : Bool}
    (h : Relocated p q field field') :
    Rerooted p q (.wildcard field pattern caseInsensitive)
      (.wildcard field' pattern caseInsensitive)
  | range {field field' : String} {bounds : Bounds} (h : Relocated p q field field') :
    Rerooted p q (.range field bounds) (.range field' bounds)
  | present {field field' : String} (h : Relocated p q field field') :
    Rerooted p q (.present field) (.present field')
  | bool {filter filter' should should' mustNot mustNot' : List Constraint}
    (hfilter : List.Forall₂ (Rerooted p q) filter filter')
    (hshould : List.Forall₂ (Rerooted p q) should should')
    (hmustNot : List.Forall₂ (Rerooted p q) mustNot mustNot') :
    Rerooted p q (.bool filter should mustNot) (.bool filter' should' mustNot')
  | nested {path path' : String} {constraints constraints' : List Constraint}
    (h : Relocated p q path path') (hinner : List.Forall₂ (Rerooted p q) constraints constraints') :
    Rerooted p q (.nested path constraints) (.nested path' constraints')

/-- The same error with a path below `q` instead of `p`. -/
inductive ErrorRerooted (p q : String) : Error → Error → Prop where
  | unknownField {path path' : String} (h : Relocated p q path path') :
    ErrorRerooted p q (.unknownField path) (.unknownField path')
  | unsupportedOperator {field field' operator : String} (h : Relocated p q field field') :
    ErrorRerooted p q (.unsupportedOperator field operator) (.unsupportedOperator field' operator)
  | invalidValue {field field' : String} {fault : ValueFault} (h : Relocated p q field field') :
    ErrorRerooted p q (.invalidValue field fault) (.invalidValue field' fault)
  | malformed {path path' : String} {fault : ShapeFault} (h : Relocated p q path path') :
    ErrorRerooted p q (.malformed path fault) (.malformed path' fault)

/-- The same fields to be seen at the two roots, which are not empty, or at the same place below
them. -/
inductive Aligned (p q : String) : Scope → Scope → Prop where
  | root (hp : p ≠ "") (hq : q ≠ "") (fields : List FieldDef) : Aligned p q ⟨p, fields⟩ ⟨q, fields⟩
  | below {path path' : String} (fields : List FieldDef) (h : Relocated p q path path') :
    Aligned p q ⟨path, fields⟩ ⟨path', fields⟩

variable {p q : String} {scope scope' : Scope}

lemma Aligned.fields_eq (h : Aligned p q scope scope') : scope'.fields = scope.fields := by
  cases h <;> rfl

/-- A name that is added to two places leads to the same place again. -/
lemma Aligned.fieldPath (h : Aligned p q scope scope') (name : String) :
    Relocated p q (scope.fieldPath name) (scope'.fieldPath name) := by
  have hjoin : ∀ path, path ≠ "" → joinPath path name = path ++ "." ++ name := fun path hne =>
    if_neg fun hempty => hne (String.isEmpty_iff.1 hempty)
  cases h with
  | root hp hq fields =>
    simp only [Scope.fieldPath, hjoin p hp, hjoin q hq]
    exact .mk name
  | below fields h =>
    obtain ⟨x⟩ := h
    have hne : ∀ root : String, root ++ "." ++ x ≠ "" := by
      intro root hempty
      simpa using congrArg String.toList hempty
    simp only [Scope.fieldPath, hjoin _ (hne p), hjoin _ (hne q)]
    simpa [String.append_assoc] using Relocated.mk (p := p) (q := q) (x ++ "." ++ name)

lemma Aligned.child (h : Aligned p q scope scope') (field : FieldDef) :
    Aligned p q (scope.child field) (scope'.child field) :=
  .below field.fields (h.fieldPath field.name)

/-! ### Steps of the compilation -/

/-- The same list of constraints below `q` instead of `p`. -/
abbrev AllRerooted (p q : String) : List Constraint → List Constraint → Prop :=
  List.Forall₂ (Rerooted p q)

lemma rerooted_all {cs cs' : List Constraint} (h : AllRerooted p q cs cs') :
    Rerooted p q (.all cs) (.all cs') := .bool h .nil .nil

lemma rerooted_negation {cs cs' : List Constraint} (h : AllRerooted p q cs cs') :
    AllRerooted p q (negation cs) (negation cs') :=
  .cons (.bool .nil .nil (.cons (rerooted_all h) .nil)) .nil

lemma rerooted_conjunction {arms arms' : List (List Constraint)}
    (h : List.Forall₂ (AllRerooted p q) arms arms') :
    AllRerooted p q (conjunction arms) (conjunction arms') :=
  List.forall₂_map_left_iff.2 (List.forall₂_map_right_iff.2 (h.imp fun _ _ => rerooted_all))

lemma rerooted_disjunction {arms arms' : List (List Constraint)}
    (h : List.Forall₂ (AllRerooted p q) arms arms') :
    AllRerooted p q (disjunction arms) (disjunction arms') := by
  have hany : AllRerooted p q [.any (arms.map .all)] [.any (arms'.map .all)] :=
    .cons (.bool .nil (rerooted_conjunction h) .nil) .nil
  cases h with
  | nil => exact .nil
  | cons => exact hany

lemma rerooted_constraints {field field' : String} (h : Relocated p q field field')
    (conditions : List Condition) :
    AllRerooted p q (constraints field conditions) (constraints field' conditions) := by
  have hset : AllRerooted p q (conditions.filterMap (Condition.constraint? field))
      (conditions.filterMap (Condition.constraint? field')) := by
    induction conditions with
    | nil => exact .nil
    | cons c rest ih =>
      cases c with
      | missing => exact .cons (.bool .nil .nil (.cons (.present h) .nil)) ih
      | term value => exact .cons (.term h) ih
      | wildcard pattern caseInsensitive => exact .cons (.wildcard h) ih
      | bound side value => exact ih
  refine List.rel_append hset ?_
  split
  · exact .nil
  · exact .cons (.range h) .nil

lemma rerooted_compileOperators {field field' : String} (h : Relocated p q field field')
    (type : FieldType) (operators : Json.Members) :
    SameEnding (AllRerooted p q) (ErrorRerooted p q) (compileOperators field type operators)
      (compileOperators field' type operators) := by
  unfold compileOperators
  split
  · exact .ok (rerooted_constraints h _)
  · exact .error (.unsupportedOperator h)
  · exact .error (.invalidValue h)

/-! ### Trees -/

lemma rerooted_misplaced (h : Aligned p q scope scope') (name : String) (node : Json) :
    SameEnding (AllRerooted p q) (ErrorRerooted p q) (misplaced scope name node)
      (misplaced scope' name node) := by
  have hpath := h.fieldPath name
  simp only [misplaced, h.fields_eq]
  split
  · exact .error (.unknownField hpath)
  · exact .error (.malformed hpath)

-- By induction on the tree, for every two aligned scopes: a container moves both of them.
mutual

lemma rerooted_compileTree : ∀ (members : List (String × Json)) {scope scope' : Scope},
    Aligned p q scope scope' →
    SameEnding (AllRerooted p q) (ErrorRerooted p q) (compileTree scope members)
      (compileTree scope' members)
  | [], _, _, _ => by
    simp only [compileTree]
    exact .ok .nil
  | (name, node) :: rest, _, _, h => by
    simp only [compileTree_cons]
    refine (rerooted_compileEntry node h name).bind fun first first' hfirst => ?_
    exact (rerooted_compileTree rest h).map fun _ _ hrest => List.rel_append hfirst hrest

lemma rerooted_compileEntry : ∀ (node : Json) {scope scope' : Scope}, Aligned p q scope scope' →
    ∀ name : String, SameEnding (AllRerooted p q) (ErrorRerooted p q) (compileEntry scope name node)
      (compileEntry scope' name node)
  | .arr arms, _, _, h, name => by
    simp only [compileEntry]
    split
    · exact (rerooted_compileArms arms h name).map fun _ _ => rerooted_conjunction
    · exact (rerooted_compileArms arms h name).map fun _ _ => rerooted_disjunction
    · exact .error (.malformed (h.fieldPath name))
    · exact rerooted_misplaced h name _
  | .obj members, _, _, h, name => by
    have hpath := h.fieldPath name
    simp only [compileEntry, h.fields_eq]
    split
    · exact (rerooted_compileTree members h).map fun _ _ => rerooted_negation
    · exact .error (.malformed hpath)
    · split
      · exact .error (.unknownField hpath)
      · next field _ =>
        have htree := rerooted_compileTree members (h.child field)
        split
        · exact htree
        · exact htree.map fun _ _ hinner => .cons (.nested hpath hinner) .nil
        · exact rerooted_compileOperators hpath _ members
  | .null, _, _, h, name | .bool _, _, _, h, name | .int _, _, _, h, name
  | .float _, _, _, h, name | .str _, _, _, h, name => by
    have hpath := h.fieldPath name
    simp only [compileEntry]
    split
    · exact .error (.malformed hpath)
    · exact .error (.malformed hpath)
    · exact rerooted_misplaced h name _

lemma rerooted_compileArms : ∀ (arms : List Json) {scope scope' : Scope},
    Aligned p q scope scope' → ∀ name : String,
    SameEnding (List.Forall₂ (AllRerooted p q)) (ErrorRerooted p q) (compileArms scope name arms)
      (compileArms scope' name arms)
  | [], _, _, _, _ => by
    simp only [compileArms]
    exact .ok .nil
  | .obj members :: rest, _, _, h, name => by
    simp only [compileArms_cons_obj]
    refine (rerooted_compileTree members h).bind fun arm arm' harm => ?_
    exact (rerooted_compileArms rest h name).map fun _ _ hrest => .cons harm hrest
  | .null :: _, _, _, h, name | .bool _ :: _, _, _, h, name | .int _ :: _, _, _, h, name
  | .float _ :: _, _, _, h, name | .str _ :: _, _, _, h, name | .arr _ :: _, _, _, h, name => by
    simp only [compileArms]
    exact .error (.malformed (h.fieldPath name))

end

/-- **The root of a filter only re-roots paths**: under two roots that are not empty a filter
compiles to the same constraints, or fails with the same error, except that every path below the one
root is the same path below the other. -/
theorem compile_rerooted {root root' : List String} (hroot : ".".intercalate root ≠ "")
    (hroot' : ".".intercalate root' ≠ "") (schema : Schema) (filter : Option Filter) :
    SameEnding (AllRerooted (".".intercalate root) (".".intercalate root'))
      (ErrorRerooted (".".intercalate root) (".".intercalate root')) (compile root schema filter)
      (compile root' schema filter) := by
  cases filter with
  | none => exact .ok .nil
  | some tree => exact rerooted_compileTree tree.members (.root hroot hroot' schema.fields)

/-- A filter with nested queries in each other, below a short root and a long one. -/
theorem compile_rerooted_disk :
    ".".intercalate ["host"] ≠ "" ∧ ".".intercalate ["inventory", "hosts"] ≠ "" ∧
      SameEnding (AllRerooted "host" "inventory.hosts") (ErrorRerooted "host" "inventory.hosts")
        (.ok [diskConstraint]) (compile ["inventory", "hosts"] diskSchema (some diskFilter)) := by
  have hroot : ".".intercalate ["host"] ≠ "" := by decide
  have hroot' : ".".intercalate ["inventory", "hosts"] ≠ "" := by decide
  exact ⟨hroot, hroot', compile_rerooted hroot hroot' diskSchema (some diskFilter)⟩

end Filter

end HostFacets
