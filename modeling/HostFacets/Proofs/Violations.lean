import HostFacets.Proofs.ByteOrder
import HostFacets.Proofs.Canonical
import HostFacets.Proofs.FirstFault
import HostFacets.Proofs.OperatorFaults
import HostFacets.Proofs.Paths

/-!
What is wrong with a filter, and which of it is reported.

`Violation` says of every place in a filter tree what is wrong there, whatever is wrong elsewhere.
A tree is walked depth first, its members in the order of the bytes of their names and its arms from
left to right; the error is that of the first violation on this walk.
-/

namespace HostFacets.Filter

/-! ### The walk -/

/-- A step into a JSON value. -/
inductive Step where
  | member (name : String)
  | item (index : Nat)

/-- The walk goes through members by the bytes of their names and through items from the left. -/
inductive Step.Before : Step → Step → Prop where
  | member {name other : String} (h : Text.bytes name < Text.bytes other) :
    Before (.member name) (.member other)
  | item {i j : Nat} (h : i < j) : Before (.item i) (.item j)

instance : Std.Asymm Step.Before where
  asymm := by
    rintro _ _ (h | h) (h' | h')
    · exact List.lt_asymm h h'
    · exact Nat.lt_asymm h h'

/-! ### Violations -/

/-- What is wrong with an entry itself, at the steps into its value. The names of the fields above
it, after the root, make up the path with its own name. -/
inductive EntryFault (above : List String) (fields : List FieldDef) :
    String → Json → List Step → Error → Prop where
  | noList {name : String} {value : Json} (hname : name = "AND" ∨ name = "OR")
    (hvalue : ∀ arms, value ≠ .arr arms) :
    EntryFault above fields name value [] (.malformed (dotted (above ++ [name])) (.noList value))
  | arm {name : String} {arms : List Json} {i : Nat} {arm : Json}
    (hname : name = "AND" ∨ name = "OR") (harm : arms[i]? = some arm)
    (hvalue : ∀ members, arm ≠ .obj members) :
    EntryFault above fields name (.arr arms) [.item i]
      (.malformed (dotted (above ++ [name])) (.noObject arm))
  | negation {value : Json} (hvalue : ∀ members, value ≠ .obj members) :
    EntryFault above fields "NOT" value []
      (.malformed (dotted (above ++ ["NOT"])) (.noObject value))
  | unknown {name : String} {value : Json} (hname : name ∉ reserved)
    (hfield : findField fields name = none) :
    EntryFault above fields name value [] (.unknownField (dotted (above ++ [name])))
  | field {name : String} {value : Json} {field : FieldDef} (hname : name ∉ reserved)
    (hfield : findField fields name = some field) (hvalue : ∀ members, value ≠ .obj members) :
    EntryFault above fields name value [] (.malformed (dotted (above ++ [name])) (.noObject value))
  | operator {name operator : String} {field : FieldDef} {type : ScalarType}
    {operators : Json.Members} {value : Json} {fault : OperatorFault} (hname : name ∉ reserved)
    (hfield : findField fields name = some field) (htype : field.type = .scalar type)
    (hmem : (operator, value) ∈ operators) (h : Rejects type operator value fault) :
    EntryFault above fields name (.obj operators) [.member operator]
      (fault.error (dotted (above ++ [name])))

/-- The trees in the value of an entry: the steps to each of them, the names that it adds to the
path, and its fields. Combinators add no names. -/
inductive Enters (fields : List FieldDef) :
    String → Json → List Step → List String → List FieldDef → Json.Members → Prop where
  | arm {name : String} {arms : List Json} {i : Nat} {members : Json.Members}
    (hname : name = "AND" ∨ name = "OR") (harm : arms[i]? = some (.obj members)) :
    Enters fields name (.arr arms) [.item i] [] fields members
  | negation {members : Json.Members} : Enters fields "NOT" (.obj members) [] [] fields members
  | container {name : String} {field : FieldDef} {members : Json.Members} (hname : name ∉ reserved)
    (hfield : findField fields name = some field)
    (htype : field.type = .object ∨ field.type = .nested) :
    Enters fields name (.obj members) [] [name] field.fields members

/-- What is wrong anywhere in a tree, at the steps that lead there. -/
inductive Violation : List String → List FieldDef → Json.Members → List Step → Error → Prop where
  | entry {above : List String} {fields : List FieldDef} {members : Json.Members} {name : String}
    {value : Json} {address : List Step} {e : Error} (hmem : (name, value) ∈ members)
    (h : EntryFault above fields name value address e) :
    Violation above fields members (.member name :: address) e
  | inner {above names : List String} {fields fields' : List FieldDef}
    {members members' : Json.Members} {name : String} {value : Json} {steps address : List Step}
    {e : Error} (hmem : (name, value) ∈ members)
    (henters : Enters fields name value steps names fields' members')
    (h : Violation (above ++ names) fields' members' address e) :
    Violation above fields members (.member name :: (steps ++ address)) e

section

variable {above : List String} {fields : List FieldDef} {name : String} {value : Json}
  {members : Json.Members} {arms : List Json} {field : FieldDef} {type : ScalarType}
  {address : List Step} {e : Error}

/-! ### Violations of one entry -/

/-- What is wrong in the value of an entry, at the steps from there. -/
inductive InEntry (above : List String) (fields : List FieldDef) (name : String) (value : Json) :
    List Step → Error → Prop where
  | own {address : List Step} {e : Error} (h : EntryFault above fields name value address e) :
    InEntry above fields name value address e
  | inner {names : List String} {fields' : List FieldDef} {members : Json.Members}
    {steps address : List Step} {e : Error}
    (henters : Enters fields name value steps names fields' members)
    (h : Violation (above ++ names) fields' members address e) :
    InEntry above fields name value (steps ++ address) e

/-- What is wrong in an arm of a combinator. -/
inductive InArm (above : List String) (fields : List FieldDef) (name : String) :
    Json → List Step → Error → Prop where
  | shape {arm : Json} (hvalue : ∀ members, arm ≠ .obj members) :
    InArm above fields name arm [] (.malformed (dotted (above ++ [name])) (.noObject arm))
  | inner {members : Json.Members} {address : List Step} {e : Error}
    (h : Violation above fields members address e) :
    InArm above fields name (.obj members) address e

/-- What is wrong with an operator of the field at a path. -/
def InOperator (path : String) (type : ScalarType) (operator : String) (value : Json)
    (address : List Step) (e : Error) : Prop :=
  ∃ fault, (address = [] ∧ Rejects type operator value fault) ∧ fault.error path = e

lemma Violation.ne_nil (h : Violation above fields members address e) : address ≠ [] := by
  cases h <;> simp

lemma mem_reserved_of_arms (hname : name = "AND" ∨ name = "OR") : name ∈ reserved := by
  rcases hname with rfl | rfl <;> decide

lemma mem_reserved_not : "NOT" ∈ reserved := by decide

lemma arms_of_ofName? {combinator : Combinator} (hname : Combinator.ofName? name = some combinator)
    (hnot : combinator ≠ .not) : name = "AND" ∨ name = "OR" := by
  cases combinator with
  | all => exact .inl (Combinator.ofName?_eq_some_iff.1 hname)
  | any => exact .inr (Combinator.ofName?_eq_some_iff.1 hname)
  | not => exact absurd rfl hnot

/-- The violations of a tree are those of its entries. -/
lemma violation_iff : Violation above fields members address e ↔
    InItems (fun entry => .member entry.1) (fun entry => InEntry above fields entry.1 entry.2)
      members address e := by
  constructor
  · intro h
    cases h with
    | entry hmem h => exact .mk hmem (InEntry.own h)
    | inner hmem henters h => exact .mk hmem (InEntry.inner henters h)
  · rintro ⟨hmem, h⟩
    cases h with
    | own h => exact .entry hmem h
    | inner henters h => exact .inner hmem henters h

lemma inEntry_arms_iff (hname : name = "AND" ∨ name = "OR") :
    InEntry above fields name (.arr arms) address e ↔
      InItems (fun arm => .item arm.2) (fun arm => InArm above fields name arm.1) arms.zipIdx
        address e := by
  constructor
  · rintro (h | ⟨henters, h⟩)
    · cases h with
      | noList _ hvalue => exact absurd rfl (hvalue arms)
      | arm _ harm hvalue => exact .mk (List.mk_mem_zipIdx_iff_getElem?.2 harm) (InArm.shape hvalue)
      | negation => simp at hname
      | unknown hfree | field hfree => exact absurd (mem_reserved_of_arms hname) hfree
    · cases henters with
      | arm _ harm =>
        rw [List.append_nil] at h
        exact .mk (List.mk_mem_zipIdx_iff_getElem?.2 harm) (InArm.inner h)
  · rintro @⟨⟨arm, i⟩, _, _, hmem, h⟩
    have harm := List.mk_mem_zipIdx_iff_getElem?.1 hmem
    cases h with
    | shape hvalue => exact .own (.arm hname harm hvalue)
    | inner h => exact .inner (.arm hname harm) (by rwa [List.append_nil])

lemma inArm_obj_iff :
    InArm above fields name (.obj members) address e ↔
      Violation above fields members address e := by
  refine ⟨fun h => ?_, .inner⟩
  cases h with
  | shape hvalue => exact absurd rfl (hvalue members)
  | inner h => exact h

lemma inEntry_not_iff :
    InEntry above fields "NOT" (.obj members) address e ↔
      Violation above fields members address e := by
  constructor
  · rintro (h | ⟨henters, h⟩)
    · cases h with
      | noList hname => simp at hname
      | negation hvalue => exact absurd rfl (hvalue members)
      | unknown hfree | field hfree | operator hfree => exact absurd mem_reserved_not hfree
    · cases henters with
      | negation => rwa [List.append_nil] at h
      | container hfree => exact absurd mem_reserved_not hfree
  · intro h
    exact .inner .negation (by rwa [List.append_nil])

lemma inEntry_container_iff (hname : name ∉ reserved) (hfield : findField fields name = some field)
    (htype : field.type = .object ∨ field.type = .nested) :
    InEntry above fields name (.obj members) address e ↔
      Violation (above ++ [name]) field.fields members address e := by
  constructor
  · rintro (h | ⟨henters, h⟩)
    · cases h with
      | noList harms => exact absurd (mem_reserved_of_arms harms) hname
      | negation => exact absurd mem_reserved_not hname
      | unknown _ hnone => cases hnone.symm.trans hfield
      | field _ _ hvalue => exact absurd rfl (hvalue members)
      | operator _ hfield' htype' =>
        cases hfield.symm.trans hfield'
        simp [htype'] at htype
    · cases henters with
      | negation => exact absurd mem_reserved_not hname
      | container _ hfield' =>
        cases hfield.symm.trans hfield'
        exact h
  · exact .inner (.container hname hfield htype)

lemma inEntry_scalar_iff (hname : name ∉ reserved) (hfield : findField fields name = some field)
    (htype : field.type = .scalar type) :
    InEntry above fields name (.obj members) address e ↔
      InItems (fun entry => .member entry.1)
        (fun entry => InOperator (dotted (above ++ [name])) type entry.1 entry.2) members
        address e := by
  constructor
  · rintro (h | ⟨henters, h⟩)
    · cases h with
      | noList harms => exact absurd (mem_reserved_of_arms harms) hname
      | negation => exact absurd mem_reserved_not hname
      | unknown _ hnone => cases hnone.symm.trans hfield
      | field _ _ hvalue => exact absurd rfl (hvalue members)
      | operator _ hfield' htype' hmem h =>
        cases hfield.symm.trans hfield'
        cases htype.symm.trans htype'
        exact .mk hmem ⟨_, ⟨rfl, h⟩, rfl⟩
    · cases henters with
      | negation => exact absurd mem_reserved_not hname
      | container _ hfield' htype' =>
        cases hfield.symm.trans hfield'
        simp [htype] at htype'
  · rintro ⟨hmem, fault, ⟨rfl, h⟩, rfl⟩
    exact .own (.operator hname hfield htype hmem h)

/-- An entry has at most one fault of its own at its root. -/
lemma EntryFault.eq_of_root {e' : Error} (h : EntryFault above fields name value [] e)
    (h' : EntryFault above fields name value [] e') : e' = e := by
  have hnot : name = "NOT" → ¬ (name = "AND" ∨ name = "OR") := by rintro rfl; decide
  have hreserved : name = "AND" ∨ name = "OR" → name ∈ reserved := mem_reserved_of_arms
  cases h <;> cases h' <;> simp_all [reserved]

lemma inEntry_nil_iff :
    InEntry above fields name value [] e ↔ EntryFault above fields name value [] e := by
  refine ⟨fun h => ?_, .own⟩
  generalize ha : ([] : List Step) = a at h
  cases h with
  | own h => exact h
  | inner henters h => exact absurd (List.append_eq_nil_iff.1 ha.symm).2 h.ne_nil

/-! ### What the compiler reports -/

lemma fieldPath_dotted :
    (Scope.mk (dotted above) fields).fieldPath name = dotted (above ++ [name]) :=
  joinPath_dotted above name

lemma child_dotted : (Scope.mk (dotted above) fields).child field =
    ⟨dotted (above ++ [field.name]), field.fields⟩ := by
  rw [Scope.child, fieldPath_dotted]

/-- The order of members is that of the walk. -/
lemma before_of_ordered (h : Json.Members.Ordered members) :
    members.Pairwise fun entry other => Step.Before (.member entry.1) (.member other.1) :=
  (List.pairwise_map.1 h).imp fun hlt => .member (Text.bytes_lt_iff.2 hlt)

lemma reports_compileOperators (path : String) (type : ScalarType)
    (h : Json.Members.Ordered members) :
    Reports Step.Before (InItems (fun entry => .member entry.1)
      (fun entry => InOperator path type entry.1 entry.2) members)
      (compileOperators path (.scalar type) members) := by
  rw [compileOperators_eq]
  refine ((Reports.mapM (fun entry _ => ?_) (before_of_ordered h)).mapError _).map _ |>.congr
    fun _ _ => InItems.map_iff
  exact .leaf fun _ => ofOperator_error_iff

lemma reports_of_entryFault (h : EntryFault above fields name value [] e) :
    Reports Step.Before (InEntry above fields name value)
      (.error e : Except Error (List Constraint)) :=
  .root (.own h) fun _ h' => h.eq_of_root (inEntry_nil_iff.1 h')

lemma reports_misplaced (hname : name ∉ reserved) (hvalue : ∀ members, value ≠ .obj members) :
    Reports Step.Before (InEntry above fields name value)
      (misplaced ⟨dotted above, fields⟩ name value) := by
  rw [misplaced, fieldPath_dotted]
  cases hfield : findField fields name with
  | none => exact reports_of_entryFault (.unknown hname hfield)
  | some field => exact reports_of_entryFault (.field hname hfield hvalue)

lemma reports_shape (hvalue : ∀ members, value ≠ .obj members) :
    Reports Step.Before (InArm above fields name value)
      (.error (.malformed (dotted (above ++ [name])) (.noObject value)) :
        Except Error (List Constraint)) := by
  refine .root (.shape hvalue) fun e' h => ?_
  cases h with
  | shape => rfl
  | inner => exact absurd rfl (hvalue _)

-- By induction on the tree, for every list of names above it and every list of fields.
mutual

lemma reports_compileTree : ∀ (members : List (String × Json)) (above : List String)
    (fields : List FieldDef), (Json.obj members).Canonical →
    Reports Step.Before (Violation above fields members)
      (compileTree ⟨dotted above, fields⟩ members)
  | [], _, _, _ => (Reports.nil []).congr fun _ _ => violation_iff.symm
  | (name, node) :: rest, above, fields, h => by
    obtain ⟨hordered, hnode, hrest⟩ := h
    have hbefore := (List.pairwise_cons.1 (before_of_ordered hordered)).1
    have hentry := reports_compileEntry node above fields name hnode
    have hrest := reports_compileTree rest above fields ⟨(List.pairwise_cons.1 hordered).2, hrest⟩
    rw [compileTree_cons]
    suffices hitems : Reports Step.Before (InItems (fun entry => .member entry.1)
        (fun entry => InEntry above fields entry.1 entry.2) ((name, node) :: rest)) _ from
      hitems.congr fun _ _ => violation_iff.symm
    exact .cons hentry (fun _ _ => (hrest.congr fun _ _ => violation_iff).map _) hbefore

lemma reports_compileEntry : ∀ (node : Json) (above : List String) (fields : List FieldDef)
    (name : String), node.Canonical →
    Reports Step.Before (InEntry above fields name node)
      (compileEntry ⟨dotted above, fields⟩ name node)
  | .arr arms, above, fields, name, h => by
    simp only [compileEntry, fieldPath_dotted]
    split
    · next hname =>
      obtain rfl := Combinator.ofName?_eq_some_iff.1 hname
      have harms := reports_compileArms arms above fields Combinator.all.name 0 h
      exact (harms.congr fun _ _ => (inEntry_arms_iff (.inl rfl)).symm).map _
    · next hname =>
      obtain rfl := Combinator.ofName?_eq_some_iff.1 hname
      have harms := reports_compileArms arms above fields Combinator.any.name 0 h
      exact (harms.congr fun _ _ => (inEntry_arms_iff (.inr rfl)).symm).map _
    · next hname =>
      obtain rfl := Combinator.ofName?_eq_some_iff.1 hname
      exact reports_of_entryFault (.negation (by simp))
    · next hname => exact reports_misplaced (not_mem_reserved_iff.2 hname) (by simp)
  | .obj members, above, fields, name, h => by
    simp only [compileEntry, fieldPath_dotted, child_dotted]
    split
    · next hname =>
      obtain rfl := Combinator.ofName?_eq_some_iff.1 hname
      have htree := reports_compileTree members above fields h
      exact (htree.congr fun _ _ => inEntry_not_iff.symm).map _
    · next combinator hnot hname =>
      exact reports_of_entryFault (.noList (arms_of_ofName? hname hnot) (by simp))
    · next hname =>
      have hfree := not_mem_reserved_iff.2 hname
      split
      · next hfield => exact reports_of_entryFault (.unknown hfree hfield)
      · next field hfield =>
        obtain rfl := name_of_findField hfield
        cases htype : field.type with
        | scalar type =>
          exact (reports_compileOperators _ type h.1).congr fun _ _ =>
            (inEntry_scalar_iff hfree hfield htype).symm
        | object =>
          exact (reports_compileTree members _ _ h).congr fun _ _ =>
            (inEntry_container_iff hfree hfield (.inl htype)).symm
        | nested =>
          exact ((reports_compileTree members _ _ h).congr fun _ _ =>
            (inEntry_container_iff hfree hfield (.inr htype)).symm).map _
  | .null, above, fields, name, h | .bool _, above, fields, name, h | .int _, above, fields, name, h
  | .float _, above, fields, name, h | .str _, above, fields, name, h => by
    simp only [compileEntry, fieldPath_dotted]
    split
    · next hname =>
      obtain rfl := Combinator.ofName?_eq_some_iff.1 hname
      exact reports_of_entryFault (.negation (by simp))
    · next combinator hnot hname =>
      exact reports_of_entryFault (.noList (arms_of_ofName? hname hnot) (by simp))
    · next hname => exact reports_misplaced (not_mem_reserved_iff.2 hname) (by simp)

lemma reports_compileArms : ∀ (arms : List Json) (above : List String) (fields : List FieldDef)
    (name : String) (start : Nat), Json.ItemsCanonical arms →
    Reports Step.Before (InItems (fun arm => .item arm.2) (fun arm => InArm above fields name arm.1)
      (arms.zipIdx start)) (compileArms ⟨dotted above, fields⟩ name arms)
  | [], _, _, _, _, _ => .nil []
  | .obj members :: rest, above, fields, name, start, h => by
    have htree := reports_compileTree members above fields h.1
    rw [compileArms_cons_obj, List.zipIdx_cons]
    exact .cons (htree.congr fun _ _ => inArm_obj_iff.symm)
      (fun _ _ => (reports_compileArms rest above fields name (start + 1) h.2).map _)
      fun _ hmem => .item (List.le_snd_of_mem_zipIdx hmem)
  | .null :: rest, above, fields, name, start, h | .bool _ :: rest, above, fields, name, start, h
  | .int _ :: rest, above, fields, name, start, h | .float _ :: rest, above, fields, name, start, h
  | .str _ :: rest, above, fields, name, start, h
  | .arr _ :: rest, above, fields, name, start, h => by
    simp only [compileArms, fieldPath_dotted, List.zipIdx_cons]
    exact .cons_error (reports_shape (by simp)) fun _ hmem =>
      .item (List.le_snd_of_mem_zipIdx hmem)

end

end

end HostFacets.Filter
