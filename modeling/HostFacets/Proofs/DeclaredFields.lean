import HostFacets.Proofs.Grammar
import HostFacets.Proofs.Paths
import HostFacets.Schema.Document

/-!
Which declared fields can be filtered on.

A schema may declare a field under the name of a combinator, or two siblings under one name. A
filter that spells the names down to such a field is read as something else, or checked against the
first sibling. Every other declared field can be filtered on.
-/

namespace HostFacets

/-! ### Accepted schemas -/

namespace Schema

lemma checkField_ok_iff {parent : String} {field : FieldDef} :
    checkField parent field = .ok () ↔
      ownFault? field.type field.fields (joinPath parent field.name) = none ∧
        checkFields (joinPath parent field.name) field.fields = .ok () := by
  cases field with
  | mk name type fields =>
    rw [checkField]
    cases ownFault? type fields (joinPath parent name) <;> simp

lemma checkFields_ok_iff {parent : String} {fields : List FieldDef} :
    checkFields parent fields = .ok () ↔ ∀ field ∈ fields, checkField parent field = .ok () := by
  induction fields with
  | nil => simp [checkFields]
  | cons field rest ih =>
    rw [checkFields, List.forall_mem_cons, ← ih]
    cases checkField parent field <;> simp

/-- What has children is a container. -/
lemma isContainer_of_ownFault? {type : FieldType} {fields : List FieldDef} {path : String}
    (h : ownFault? type fields path = none) (hne : fields ≠ []) :
    type = .object ∨ type = .nested := by
  cases type with
  | scalar type => simp [ownFault?, FieldType.isContainer, hne] at h
  | object => exact .inl rfl
  | nested => exact .inr rfl

lemma validate_of_ofText {text : String} {schema : Schema} (h : ofText text = .ok schema) :
    schema.validate = .ok () := by
  unfold ofText at h
  split at h
  · cases h
  · unfold ofNode at h
    split at h
    · cases h
    · split at h
      · next hvalid =>
        cases h
        exact hvalid
      · cases h

end Schema

namespace Filter

/-! ### Fields and the filters that spell them -/

/-- A chain of definitions from a list of fields down to a scalar of a type, wherever each of them
stands among its siblings. -/
inductive Declared : List FieldDef → List FieldDef → ScalarType → Prop where
  | scalar {fields : List FieldDef} {field : FieldDef} {type : ScalarType} (hfield : field ∈ fields)
    (htype : field.type = .scalar type) : Declared fields [field] type
  | child {fields : List FieldDef} {field : FieldDef} {rest : List FieldDef} {type : ScalarType}
    (hfield : field ∈ fields) (h : Declared field.fields rest type) :
    Declared fields (field :: rest) type

/-- No name belongs to a combinator, and no two siblings have the same. -/
inductive WellNamed : List FieldDef → Prop where
  | mk {fields : List FieldDef} (hfree : ∀ f ∈ fields, f.name ∉ reserved)
    (hnodup : (fields.map (·.name)).Nodup) (h : ∀ f ∈ fields, WellNamed f.fields) :
    WellNamed fields

/-- The filter that asks for a value at the end of a chain of names. -/
def spelled : List String → Json → Json.Members
  | [], v => [("eq", v)]
  | name :: rest, v => [(name, .obj (spelled rest v))]

/-- A constraint inside of nested queries, the outermost first. -/
def enclosed (paths : List String) (c : Constraint) : Constraint :=
  paths.foldr (fun path c => .nested path [c]) c

/-- Constraints inside of nested queries, the outermost first. -/
def enclosedAll (paths : List String) (cs : List Constraint) : List Constraint :=
  paths.foldr (fun path inner => [.nested path inner]) cs

lemma enclosedAll_singleton (paths : List String) (c : Constraint) :
    enclosedAll paths [c] = [enclosed paths c] := by
  induction paths with
  | nil => rfl
  | cons path rest ih =>
    change [Constraint.nested path (enclosedAll rest [c])] = _
    rw [ih]
    rfl

lemma enclosed_term_inj {paths paths' : List String} {path path' : String} {w w' : Json} :
    enclosed paths (.term path w) = enclosed paths' (.term path' w') ↔
      paths = paths' ∧ path = path' ∧ w = w' := by
  induction paths generalizing paths' with
  | nil => cases paths' <;> simp [enclosed]
  | cons first rest ih =>
    cases paths' with
    | nil => simp [enclosed]
    | cons first' rest' =>
      simp only [enclosed, List.foldr_cons, Constraint.nested.injEq, List.cons.injEq, and_true]
      rw [and_assoc]
      exact and_congr_right fun _ => ih

/-- An enclosed term is no boolean combination. -/
lemma enclosed_term_ne_bool {paths : List String} {path : String} {w : Json}
    {filter should mustNot : List Constraint} :
    enclosed paths (.term path w) ≠ .bool filter should mustNot := by
  cases paths <;> simp [enclosed]

lemma enclosed_term_eq_nested_iff {paths : List String} {path outer : String} {w : Json}
    {inner : List Constraint} :
    enclosed paths (.term path w) = .nested outer inner ↔
      ∃ rest, paths = outer :: rest ∧ inner = [enclosed rest (.term path w)] := by
  cases paths with
  | nil => simp [enclosed]
  | cons first rest => simp [enclosed, eq_comm, and_comm]

/-! ### What they compile to -/

section

variable {base name path : String} {fields chain : List FieldDef} {type : ScalarType}
  {v w : Json} {scope : Scope} {cs : List Constraint}

lemma compileOperators_eq_ok_iff :
    compileOperators path (.scalar type) [("eq", v)] = .ok cs ↔
      ∃ w, NormalForm type v w ∧ [.term path w] = cs := by
  have heq : ∀ c, Sets type "eq" v c ↔ ∃ w, NormalForm type v w ∧ .term w = c := fun c => by
    rw [← ofOperator_ok_iff]
    simp only [← typedValue_ok_iff]
    exact typed_map_ok_iff
  rw [compileOperators_ok_iff]
  constructor
  · rintro ⟨conditions, hset, rfl⟩
    obtain ⟨c, rest, hc, hrest, rfl⟩ := List.forall₂_cons_left_iff.1 hset
    cases hrest
    obtain ⟨w, hw, rfl⟩ := (heq c).1 hc
    exact ⟨w, hw, rfl⟩
  · rintro ⟨w, hw, rfl⟩
    exact ⟨[.term w], .cons ((heq _).2 ⟨w, hw, rfl⟩) .nil, rfl⟩

/-- No operator takes an object. -/
lemma not_sets_obj {members : Json.Members} {c : Condition} :
    ¬ Sets type name (.obj members) c := by
  have hobj : ∀ w, typedValue (.scalar type) (.obj members) ≠ .ok w := fun w hw => by
    cases typedValue_ok_iff.1 hw
  intro h
  cases h with
  | isBoolean _ hv | eq hv | bound _ hv => exact hobj _ hv

lemma NormalForm.ne_obj (h : NormalForm type v w) (members : Json.Members) : v ≠ .obj members := by
  rintro rfl
  cases h

lemma compileTree_singleton {node : Json} :
    compileTree scope [(name, node)] = compileEntry scope name node := by
  simp only [compileTree]
  cases compileEntry scope name node <;> simp [Except.map]

/-- The operator of a field is no field. -/
lemma compileTree_eq_ne_ok (hv : ∀ members, v ≠ .obj members) :
    compileTree scope [("eq", v)] ≠ .ok cs := by
  rw [compileTree_singleton, ne_eq, compileEntry_ok_iff]
  generalize hname : "eq" = name
  intro h
  cases h with
  | all | any => exact absurd hname (by decide)
  | not | scalar | object | nested => exact hv _ rfl

/-- These names lead to a scalar: none belongs to a combinator, and the first definitions of the
names form a chain, with these nested paths and this path, to a type that `v` has a normal form
in. -/
inductive Leads (base : String) (fields : List FieldDef) (names paths : List String)
    (path : String) (v w : Json) : Prop where
  | mk {found : List FieldDef} {type : ScalarType} (hfree : ∀ name ∈ names, name ∉ reserved)
    (hchain : Chain fields found type) (hnames : found.map (·.name) = names)
    (hpaths : nestedPaths base found = paths) (hpath : dottedPath base found = path)
    (hnormal : NormalForm type v w)

lemma Leads.cons {field : FieldDef} {names paths : List String}
    (h : Leads (joinPath base field.name) field.fields names paths path v w)
    (hname : Combinator.ofName? field.name = none)
    (hfield : findField fields field.name = some field)
    (htype : field.type = .object ∨ field.type = .nested) :
    Leads base fields (field.name :: names)
      ((if field.type = .nested then [joinPath base field.name] else []) ++ paths) path v w := by
  obtain ⟨hfree, hchain, hnames, hpaths, hpath, hnormal⟩ := h
  rw [dottedPath_joinPath] at hpath
  exact ⟨List.forall_mem_cons.2 ⟨not_mem_reserved_iff.2 hname, hfree⟩,
    .container hfield htype hchain, by rw [List.map_cons, hnames],
    by rw [nestedPaths, dottedPath_singleton, hpaths], hpath, hnormal⟩

/-- A spelled filter that compiles to a term in nested queries leads there. -/
lemma leads_of_compileTree {names paths : List String} (hv : ∀ members, v ≠ .obj members)
    (h : compileTree ⟨base, fields⟩ (spelled names v) = .ok [enclosed paths (.term path w)]) :
    Leads base fields names paths path v w := by
  induction names generalizing base fields paths with
  | nil => exact absurd h (compileTree_eq_ne_ok hv)
  | cons name rest ih =>
    rw [spelled, compileTree_singleton, compileEntry_ok_iff] at h
    generalize hcs : [enclosed paths (.term path w)] = cs at h
    -- a reserved name could only be a negation, and no term in nested queries is one
    cases h with
    | not h =>
      simp only [negation, List.cons.injEq, and_true] at hcs
      exact absurd hcs enclosed_term_ne_bool
    | @scalar _ field type _ _ hname hfield htype h =>
      obtain rfl := name_of_findField hfield
      cases rest with
      | nil =>
        obtain ⟨w', hw, rfl⟩ := compileOperators_eq_ok_iff.1 h
        have hterm : enclosed paths (.term path w) = enclosed [] (.term _ w') :=
          (List.cons.inj hcs).1
        obtain ⟨rfl, rfl, rfl⟩ := enclosed_term_inj.1 hterm
        exact ⟨by simpa [not_mem_reserved_iff] using hname, .scalar hfield htype, rfl,
          by simp [nestedPaths, htype], dottedPath_singleton _ _, hw⟩
      | cons next rest =>
        obtain ⟨conditions, hset, -⟩ := compileOperators_ok_iff.1 h
        obtain ⟨c, _, hc, -, -⟩ := List.forall₂_cons_left_iff.1 hset
        exact absurd hc not_sets_obj
    | object hname hfield htype h =>
      obtain rfl := name_of_findField hfield
      rw [← hcs] at h
      simpa [htype] using (ih h).cons hname hfield (.inl htype)
    | nested hname hfield htype h =>
      obtain rfl := name_of_findField hfield
      obtain ⟨rest', rfl, rfl⟩ := enclosed_term_eq_nested_iff.1 (List.cons.inj hcs).1
      simpa [htype, Scope.fieldPath] using (ih h).cons hname hfield (.inr htype)

/-- A spelled filter comes to the operators of the field at the end of its chain. -/
lemma compileTree_spelled (h : Chain fields chain type) (hfree : ∀ f ∈ chain, f.name ∉ reserved) :
    compileTree ⟨base, fields⟩ (spelled (chain.map (·.name)) v) =
      (compileOperators (dottedPath base chain) (.scalar type) [("eq", v)]).map
        (enclosedAll (nestedPaths base chain)) := by
  induction h generalizing base with
  | @scalar fields field type hfield htype =>
    have hname := not_mem_reserved_iff.1 (hfree field List.mem_cons_self)
    have hpaths : nestedPaths base [field] = [] := by simp [nestedPaths, htype]
    have hid : enclosedAll [] = id := rfl
    rw [List.map_singleton, spelled, compileTree_singleton, dottedPath_singleton, hpaths, hid,
      Except.map_id]
    simp only [compileEntry, hname, hfield, htype, spelled, Scope.fieldPath, id]
  | @container fields field rest type hfield htype _ ih =>
    obtain ⟨hname, hfree⟩ := List.forall_mem_cons.1 hfree
    rw [not_mem_reserved_iff] at hname
    have hrest : compileTree (Scope.child ⟨base, fields⟩ field) (spelled (rest.map (·.name)) v) =
        (compileOperators (dottedPath base (field :: rest)) (.scalar type) [("eq", v)]).map
          (enclosedAll (nestedPaths (joinPath base field.name) rest)) := by
      rw [← dottedPath_joinPath]
      exact ih hfree
    rw [List.map_cons, spelled, compileTree_singleton, nestedPaths, dottedPath_singleton]
    rcases htype with htype | htype
    · have hkind : field.type ≠ .nested := by simp [htype]
      rw [if_neg hkind, List.nil_append]
      simp only [compileEntry, hname, hfield, htype, hrest]
    · rw [if_pos htype, List.singleton_append]
      simp only [compileEntry, hname, hfield, htype, hrest]
      cases compileOperators (dottedPath base (field :: rest)) (.scalar type) [("eq", v)] <;> rfl

lemma compileTree_of_chain (hv : NormalForm type v w) (h : Chain fields chain type)
    (hfree : ∀ f ∈ chain, f.name ∉ reserved) :
    compileTree ⟨base, fields⟩ (spelled (chain.map (·.name)) v) =
      .ok [enclosed (nestedPaths base chain) (.term (dottedPath base chain) w)] := by
  have hterm : compileOperators (dottedPath base chain) (.scalar type) [("eq", v)] =
      .ok [.term (dottedPath base chain) w] := compileOperators_eq_ok_iff.2 ⟨w, hv, rfl⟩
  rw [compileTree_spelled h hfree, hterm, ← enclosedAll_singleton]
  rfl

/-! ### Declared fields -/

/-- Among definitions of distinct names each is the first of its name. -/
lemma findField_of_mem {field : FieldDef} (hnodup : (fields.map (·.name)).Nodup)
    (h : field ∈ fields) : findField fields field.name = some field := by
  induction fields with
  | nil => cases h
  | cons first rest ih =>
    obtain ⟨hfirst, hnodup⟩ := List.nodup_cons.1 hnodup
    rcases List.mem_cons.1 h with rfl | h
    · simp [findField]
    · have hne : first.name ≠ field.name := fun he =>
        hfirst (List.mem_map.2 ⟨field, h, he.symm⟩)
      simpa [findField, hne] using ih hnodup h

lemma Declared.ne_nil (h : Declared fields chain type) : fields ≠ [] := by
  cases h with
  | scalar hfield | child hfield _ => exact List.ne_nil_of_mem hfield

/-- In an accepted forest without reserved and repeated names, what is declared is found. -/
lemma chain_of_declared {parent : String} (h : Declared fields chain type)
    (hvalid : Schema.checkFields parent fields = .ok ()) (hnamed : WellNamed fields) :
    Chain fields chain type ∧ ∀ f ∈ chain, f.name ∉ reserved := by
  induction h generalizing parent with
  | @scalar fields field type hfield htype =>
    obtain ⟨hfree, hnodup, -⟩ := hnamed
    exact ⟨.scalar (findField_of_mem hnodup hfield) htype,
      List.forall_mem_singleton.2 (hfree field hfield)⟩
  | @child fields field rest type hfield h ih =>
    obtain ⟨hfree, hnodup, hchildren⟩ := hnamed
    obtain ⟨hown, hvalid⟩ :=
      Schema.checkField_ok_iff.1 (Schema.checkFields_ok_iff.1 hvalid field hfield)
    obtain ⟨hchain, hrest⟩ := ih hvalid (hchildren field hfield)
    have htype := Schema.isContainer_of_ownFault? hown h.ne_nil
    exact ⟨.container (findField_of_mem hnodup hfield) htype hchain,
      List.forall_mem_cons.2 ⟨hfree field hfield, hrest⟩⟩

/-- **Declared fields that can be filtered on**: the filter that spells the way to a field compiles
to a term on it exactly if no name on the way belongs to a combinator and the first definitions of
these names lead through the same nested documents to a type with the same normal form. This is so
for every declared field if no name is reserved and siblings have distinct names. -/
theorem compile_spelled_iff {text : String} {schema : Schema}
    (hschema : Schema.ofText text = .ok schema) (hd : Declared schema.fields chain type)
    (hv : NormalForm type v w) (root : List String) :
    let base := ".".intercalate root
    let compiled := compile root schema (some ⟨spelled (chain.map (·.name)) v⟩)
    let expected := [enclosed (nestedPaths base chain) (.term (dottedPath base chain) w)]
    (compiled = .ok expected ↔ (∀ f ∈ chain, f.name ∉ reserved) ∧
      ∃ found type', Chain schema.fields found type' ∧
        found.map (·.name) = chain.map (·.name) ∧
        nestedPaths base found = nestedPaths base chain ∧ NormalForm type' v w) ∧
    (WellNamed schema.fields → compiled = .ok expected) := by
  intro base compiled expected
  refine ⟨⟨?found, ?compiles⟩, fun hnamed => ?named⟩
  case found =>
    intro h
    obtain ⟨hfree, hchain, hnames, hpaths, -, hnormal⟩ := leads_of_compileTree hv.ne_obj h
    exact ⟨fun f hf => hfree _ (List.mem_map_of_mem hf), _, _, hchain, hnames, hpaths, hnormal⟩
  case compiles =>
    rintro ⟨hfree, found, type', hchain, hnames, hpaths, hnormal⟩
    have hpath : dottedPath base found = dottedPath base chain := by
      rw [dottedPath, dottedPath, hnames]
    have hfree' : ∀ f ∈ found, f.name ∉ reserved := by
      intro f hf
      have hname : f.name ∈ chain.map (·.name) := hnames ▸ List.mem_map_of_mem hf
      obtain ⟨g, hg, hgf⟩ := List.mem_map.1 hname
      exact hgf ▸ hfree g hg
    have hcompiled : compile root schema (some ⟨spelled (found.map (·.name)) v⟩) =
        .ok [enclosed (nestedPaths base found) (.term (dottedPath base found) w)] :=
      compileTree_of_chain hnormal hchain hfree'
    rwa [hnames, hpaths, hpath] at hcompiled
  case named =>
    obtain ⟨hchain, hfree⟩ := chain_of_declared hd (Schema.validate_of_ofText hschema) hnamed
    exact compileTree_of_chain hv hchain hfree

end

/-! ### A schema with two fields of one name -/

def twinText : String :=
  "fields:\n- name: x\n  type: integer\n- name: x\n  type: string\n" ++
    "- name: disks\n  type: nested\n  fields:\n  - name: size\n    type: integer\n"

def numberField : FieldDef := ⟨"x", .scalar .integer, []⟩

def textField : FieldDef := ⟨"x", .scalar .string, []⟩

def sizeField : FieldDef := ⟨"size", .scalar .integer, []⟩

def disksField : FieldDef := ⟨"disks", .nested, [sizeField]⟩

def twinSchema : Schema := ⟨[numberField, textField, disksField]⟩

section

open Yaml (Token Node)

def entryTokens (name value : String) : List Token :=
  [.key, .scalar .plain name, .colon, .scalar .plain value]

def fieldsTokens (definitions : List Token) : List Token :=
  [.key, .scalar .plain "fields", .colon] ++ definitions

def definitionTokens (name type : String) (children : List Token) : List Token :=
  [.dash, .beginEntries] ++ entryTokens "name" name ++ entryTokens "type" type ++ children ++
    [.endBlock]

def twinTokens : List Token :=
  [.beginEntries] ++
    fieldsTokens (definitionTokens "x" "integer" [] ++ definitionTokens "x" "string" [] ++
      definitionTokens "disks" "nested" (fieldsTokens (definitionTokens "size" "integer" []))) ++
    [.endBlock]

lemma ofText_twinText : Schema.ofText twinText = .ok twinSchema := by
  have htokens : Token.ofText? twinText = some twinTokens := by decide +kernel
  rw [Schema.ofText, Node.ofText?, htokens]
  conv_lhs => cbv
  rfl

end

/-- A field in a nested document, which no other hides. -/
theorem compile_spelled_iff_size :
    Schema.ofText twinText = .ok twinSchema ∧
      Declared twinSchema.fields [disksField, sizeField] .integer ∧
      NormalForm .integer (.int 64) (.int 64) ∧
      compile ["host"] twinSchema (some ⟨spelled ["disks", "size"] (.int 64)⟩) =
        .ok [.nested "host.disks" [.term "host.disks.size" (.int 64)]] := by
  have hd : Declared twinSchema.fields [disksField, sizeField] .integer :=
    .child (by simp [twinSchema]) (.scalar (by simp [disksField]) rfl)
  have hchain : Chain twinSchema.fields [disksField, sizeField] .integer :=
    .container rfl (.inr rfl) (.scalar rfl rfl)
  have hv : NormalForm .integer (.int 64) (.int 64) := .integer (by decide) (by decide)
  have hfree : ∀ f ∈ [disksField, sizeField], f.name ∉ reserved := by decide
  exact ⟨ofText_twinText, hd, hv, (compile_spelled_iff ofText_twinText hd hv ["host"]).1.2
    ⟨hfree, _, _, hchain, rfl, rfl, hv⟩⟩

/-- A value of the second field is checked against the first. -/
theorem not_compile_spelled_twin :
    Schema.ofText twinText = .ok twinSchema ∧ Declared twinSchema.fields [textField] .string ∧
      NormalForm .string (.str "a") (.str "a") ∧
      compile ["host"] twinSchema (some ⟨spelled ["x"] (.str "a")⟩) =
        .error (.invalidValue "host.x" (.wrongType .integer (.str "a"))) ∧
      compile ["host"] twinSchema (some ⟨spelled ["x"] (.str "a")⟩) ≠
        .ok [.term "host.x" (.str "a")] := by
  have hd : Declared twinSchema.fields [textField] .string := .scalar (by simp [twinSchema]) rfl
  have hcompiled : compile ["host"] twinSchema (some ⟨spelled ["x"] (.str "a")⟩) =
      .error (.invalidValue "host.x" (.wrongType .integer (.str "a"))) := rfl
  exact ⟨ofText_twinText, hd, .string "a", hcompiled, by simp [hcompiled]⟩

end Filter

end HostFacets
