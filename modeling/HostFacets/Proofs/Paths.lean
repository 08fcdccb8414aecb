import HostFacets.Proofs.Compilation
import HostFacets.Proofs.Operators

/-!
Which fields a compiled filter addresses.

Every atomic condition in the constraints of a filter is about a scalar field of the schema, at the
end of a chain of containers. It stands inside the nested queries of that chain and inside no
others, however the combinators of the filter are nested.
-/

namespace HostFacets

/-! ### Dotted paths -/

/-- Names joined with dots. Empty names at the start add nothing. -/
def dotted (names : List String) : String := ".".intercalate (names.dropWhile (·.isEmpty))

@[simp] lemma dotted_singleton (name : String) : dotted [name] = name := by
  by_cases hname : name.isEmpty
  · simp [dotted, String.isEmpty_iff.1 hname]
  · simp [dotted, hname]

lemma dotted_joinPath (base name : String) (rest : List String) :
    dotted (joinPath base name :: rest) = dotted (base :: name :: rest) := by
  unfold joinPath
  split
  · next hbase => simp [dotted, hbase]
  · next hbase =>
    have hdot : (base ++ "." ++ name).isEmpty = false := by simp
    simp only [dotted, List.dropWhile_cons, hdot, hbase]
    simp [String.intercalate_cons_append, String.append_assoc]

lemma dotted_cons (base : String) (names : List String) :
    dotted (base :: names) = names.foldl joinPath base := by
  induction names generalizing base with
  | nil => exact dotted_singleton base
  | cons name rest ih => rw [← dotted_joinPath, ih, List.foldl_cons]

lemma joinPath_dotted (names : List String) (name : String) :
    joinPath (dotted names) name = dotted (names ++ [name]) := by
  cases names with
  | nil => exact (dotted_singleton name).symm
  | cons base rest => simp [dotted_cons]

/-! ### Parts of constraints -/

namespace Constraint

/-- The field that an atomic condition is about. -/
def field? : Constraint → Option String
  | .term field _ | .wildcard field _ _ | .range field _ | .present field => some field
  | .bool _ _ _ | .nested _ _ => none

/-- A part of a constraint, with the paths of the nested queries around it, outermost first. -/
inductive Within (part : Constraint) : List String → Constraint → Prop where
  | here : Within part [] part
  | clause {filter should mustNot : List Constraint} {c : Constraint} {stack : List String}
    (hc : c ∈ filter ++ should ++ mustNot) (h : Within part stack c) :
    Within part stack (.bool filter should mustNot)
  | nested {path : String} {constraints : List Constraint} {c : Constraint} {stack : List String}
    (hc : c ∈ constraints) (h : Within part stack c) :
    Within part (path :: stack) (.nested path constraints)

/-- A part of one of several constraints. -/
def WithinSome (part : Constraint) (stack : List String) (constraints : List Constraint) : Prop :=
  ∃ c ∈ constraints, part.Within stack c

variable {leaf : Constraint} {path : String} {stack : List String}

lemma withinSome_append {cs cs' : List Constraint} :
    leaf.WithinSome stack (cs ++ cs') ↔ leaf.WithinSome stack cs ∨ leaf.WithinSome stack cs' := by
  simp only [WithinSome, List.mem_append, or_and_right, exists_or]

/-- An atomic condition within a `bool` lies in one of its clauses. -/
lemma within_bool_iff (hleaf : leaf.field? = some path) {filter should mustNot : List Constraint} :
    leaf.Within stack (.bool filter should mustNot) ↔
      leaf.WithinSome stack (filter ++ should ++ mustNot) := by
  constructor
  · intro h
    cases h with
    | here => cases hleaf
    | clause hc h => exact ⟨_, hc, h⟩
  · rintro ⟨c, hc, h⟩
    exact .clause hc h

/-- An atomic condition within a nested query has its path outermost. -/
lemma within_nested_iff (hleaf : leaf.field? = some path) {outer : String}
    {cs : List Constraint} :
    leaf.Within stack (.nested outer cs) ↔
      ∃ rest, stack = outer :: rest ∧ leaf.WithinSome rest cs := by
  constructor
  · intro h
    cases h with
    | here => cases hleaf
    | nested hc h => exact ⟨_, rfl, _, hc, h⟩
  · rintro ⟨rest, rfl, c, hc, h⟩
    exact .nested hc h

lemma within_all_iff (hleaf : leaf.field? = some path) {cs : List Constraint} :
    leaf.Within stack (all cs) ↔ leaf.WithinSome stack cs := by
  simp [all, within_bool_iff hleaf]

/-- An atomic condition about a field is within no other atomic condition. -/
lemma eq_of_within {c : Constraint} {other : String} (hc : c.field? = some other)
    (h : leaf.Within stack c) : leaf = c ∧ stack = [] := by
  cases h with
  | here => exact ⟨rfl, rfl⟩
  | clause _ _ => cases hc
  | nested _ _ => cases hc

end Constraint

namespace Filter

open Constraint (WithinSome within_bool_iff within_nested_iff within_all_iff withinSome_append
  eq_of_within)

/-! ### Chains of definitions -/

/-- A chain of definitions from a list of fields to a scalar of a type: each one is the first of its
name among the fields of the one before, and all but the last are containers. -/
inductive Chain : List FieldDef → List FieldDef → ScalarType → Prop where
  | scalar {fields : List FieldDef} {field : FieldDef} {type : ScalarType}
    (hfield : findField fields field.name = some field) (htype : field.type = .scalar type) :
    Chain fields [field] type
  | container {fields : List FieldDef} {field : FieldDef} {rest : List FieldDef}
    {type : ScalarType} (hfield : findField fields field.name = some field)
    (htype : field.type = .object ∨ field.type = .nested) (h : Chain field.fields rest type) :
    Chain fields (field :: rest) type

/-- The dotted path of a chain below `base`. Empty names at its start add nothing. -/
def dottedPath (base : String) (chain : List FieldDef) : String :=
  ".".intercalate ((base :: chain.map (·.name)).dropWhile (·.isEmpty))

/-- The dotted paths of the nested definitions on a chain, outermost first. -/
def nestedPaths (base : String) : List FieldDef → List String
  | [] => []
  | field :: rest =>
    let path := dottedPath base [field]
    (if field.type = .nested then [path] else []) ++ nestedPaths path rest

lemma dottedPath_joinPath (base : String) (field : FieldDef) (rest : List FieldDef) :
    dottedPath (joinPath base field.name) rest = dottedPath base (field :: rest) :=
  dotted_joinPath base field.name (rest.map FieldDef.name)

@[simp] lemma dottedPath_nil (base : String) : dottedPath base [] = base := dotted_singleton base

lemma dottedPath_singleton (base : String) (field : FieldDef) :
    dottedPath base [field] = joinPath base field.name := by
  rw [← dottedPath_joinPath, dottedPath_nil]

/-! ### Where conditions come from -/

/-- An atomic condition comes from the operators of a scalar field, inside the nested queries of the
chain that leads to it. -/
inductive Origin (base : String) (fields : List FieldDef) (leaf : Constraint)
    (stack : List String) : Prop where
  | mk {chain : List FieldDef} {type : ScalarType} {operators : Json.Members}
    {cs : List Constraint} (hchain : Chain fields chain type)
    (hstack : stack = nestedPaths base chain)
    (hops : compileOperators (dottedPath base chain) (.scalar type) operators = .ok cs)
    (hleaf : leaf.WithinSome [] cs)

variable {leaf : Constraint} {path : String} {stack : List String}

/-- The conditions that the operators of a field set are about this field, and none is nested. -/
lemma field_of_compileOperators {field : String} {type : ScalarType} {operators : Json.Members}
    {cs : List Constraint} (h : compileOperators field (.scalar type) operators = .ok cs)
    (hleaf : leaf.field? = some path) (hw : leaf.WithinSome stack cs) :
    path = field ∧ stack = [] := by
  obtain ⟨conditions, -, rfl⟩ := compileOperators_ok_iff.1 h
  obtain ⟨c, hc, hw⟩ := hw
  suffices hat : ∃ atom : Constraint, atom.field? = some field ∧ leaf.Within stack atom by
    obtain ⟨atom, hatom, hw⟩ := hat
    obtain ⟨rfl, rfl⟩ := eq_of_within hatom hw
    exact ⟨Option.some.inj (hleaf.symm.trans hatom), rfl⟩
  rw [constraints, List.mem_append, List.mem_filterMap] at hc
  rcases hc with ⟨condition, -, hcondition⟩ | hc
  · cases condition with
    | missing =>
      cases hcondition
      obtain ⟨d, hd, hw⟩ := (within_bool_iff hleaf).1 hw
      obtain rfl : d = .present field := by simpa using hd
      exact ⟨_, rfl, hw⟩
    | term value | wildcard pattern caseInsensitive =>
      cases hcondition
      exact ⟨_, rfl, hw⟩
    | bound side value => cases hcondition
  · split at hc
    · cases hc
    · obtain rfl := List.mem_singleton.1 hc
      exact ⟨_, rfl, hw⟩

namespace Origin

variable {scope : Scope} {field : FieldDef}

lemma of_object (h : Origin (scope.child field).path field.fields leaf stack)
    (hfield : findField scope.fields field.name = some field) (htype : field.type = .object) :
    Origin scope.path scope.fields leaf stack := by
  obtain ⟨hchain, hstack, hops, hleaf⟩ := h
  rw [Scope.child, Scope.fieldPath] at hstack hops
  rw [dottedPath_joinPath] at hops
  refine ⟨.container hfield (.inl htype) hchain, ?_, hops, hleaf⟩
  simp [nestedPaths, htype, dottedPath_singleton, hstack]

lemma of_nested (h : Origin (scope.child field).path field.fields leaf stack)
    (hfield : findField scope.fields field.name = some field) (htype : field.type = .nested) :
    Origin scope.path scope.fields leaf (scope.fieldPath field.name :: stack) := by
  obtain ⟨hchain, hstack, hops, hleaf⟩ := h
  rw [Scope.child, Scope.fieldPath] at hstack hops
  rw [dottedPath_joinPath] at hops
  refine ⟨.container hfield (.inr htype) hchain, ?_, hops, hleaf⟩
  simp [nestedPaths, htype, dottedPath_singleton, hstack, Scope.fieldPath]

end Origin

-- By induction on the tree, for every scope and every stack: a container extends the path, and a
-- nested one takes the outermost path from the stack.
mutual

lemma origin_of_compileTree (hleaf : leaf.field? = some path) :
    ∀ {members : List (String × Json)} {scope : Scope} {stack : List String}
      {cs : List Constraint}, compileTree scope members = .ok cs → leaf.WithinSome stack cs →
      Origin scope.path scope.fields leaf stack
  | [], _, _, _, h, hw => by
    cases h
    obtain ⟨c, hc, -⟩ := hw
    cases hc
  | (name, node) :: rest, scope, _, _, h, hw => by
    obtain ⟨first, more, hfirst, hmore, rfl⟩ := compileTree_cons_ok_iff.1 h
    rcases withinSome_append.1 hw with hw | hw
    · exact origin_of_compileEntry hleaf hfirst hw
    · exact origin_of_compileTree hleaf hmore hw

lemma origin_of_compileEntry (hleaf : leaf.field? = some path) :
    ∀ {node : Json} {scope : Scope} {name : String} {stack : List String}
      {cs : List Constraint}, compileEntry scope name node = .ok cs → leaf.WithinSome stack cs →
      Origin scope.path scope.fields leaf stack
  | .arr arms, scope, name, _, _, hentry, hw => by
    cases compileEntry_ok_iff.1 hentry with
    | all harms => exact origin_of_compileArms hleaf harms hw
    | @any _ inner harms =>
      refine origin_of_compileArms hleaf harms ?_
      obtain ⟨c, hc, hw⟩ := hw
      unfold disjunction at hc
      split at hc
      · cases hc
      · obtain rfl := List.mem_singleton.1 hc
        simpa [Constraint.any] using (within_bool_iff hleaf).1 hw
  | .obj members, scope, name, _, _, hentry, hw => by
    cases compileEntry_ok_iff.1 hentry with
    | not htree =>
      refine origin_of_compileTree hleaf htree ?_
      obtain ⟨c, hc, hw⟩ := hw
      obtain rfl := List.mem_singleton.1 hc
      obtain ⟨d, hd, hw⟩ := (within_bool_iff hleaf).1 hw
      obtain rfl : d = .all _ := by simpa using hd
      exact (within_all_iff hleaf).1 hw
    | @scalar _ field _ _ _ hname hfield htype hops =>
      obtain rfl := name_of_findField hfield
      obtain ⟨-, rfl⟩ := field_of_compileOperators hops hleaf hw
      have hfield' : dottedPath scope.path [field] = scope.fieldPath field.name :=
        dottedPath_singleton _ _
      refine ⟨.scalar hfield htype, ?_, hfield' ▸ hops, hw⟩
      simp [nestedPaths, htype]
    | object hname hfield htype htree =>
      obtain rfl := name_of_findField hfield
      exact (origin_of_compileTree hleaf htree hw).of_object hfield htype
    | nested hname hfield htype htree =>
      obtain rfl := name_of_findField hfield
      obtain ⟨c, hc, hin⟩ := hw
      obtain rfl := List.mem_singleton.1 hc
      obtain ⟨rest, rfl, hw⟩ := (within_nested_iff hleaf).1 hin
      exact (origin_of_compileTree hleaf htree hw).of_nested hfield htype
  | .null, _, _, _, _, h, _ | .bool _, _, _, _, _, h, _ | .int _, _, _, _, _, h, _
  | .float _, _, _, _, _, h, _ | .str _, _, _, _, _, h, _ => nomatch compileEntry_ok_iff.1 h

lemma origin_of_compileArms (hleaf : leaf.field? = some path) :
    ∀ {arms : List Json} {scope : Scope} {name : String} {stack : List String}
      {inner : List (List Constraint)}, compileArms scope name arms = .ok inner →
      leaf.WithinSome stack (inner.map .all) → Origin scope.path scope.fields leaf stack
  | [], _, _, _, _, h, hw => by
    cases h
    obtain ⟨c, hc, -⟩ := hw
    cases hc
  | arm :: rest, scope, name, _, _, h, hw => by
    obtain ⟨members, first, more, rfl, hfirst, hmore, rfl⟩ := compileArms_cons_ok_iff.1 h
    obtain ⟨c, hc, hw⟩ := hw
    rcases List.mem_cons.1 hc with rfl | hc
    · exact origin_of_compileTree hleaf hfirst ((within_all_iff hleaf).1 hw)
    · exact origin_of_compileArms hleaf hmore ⟨c, hc, hw⟩

end

/-- **Conditions address the schema**: every atomic condition anywhere in a compiled filter is about
the field at the end of a chain of definitions, and the nested queries around it are those of the
nested definitions on this chain. -/
theorem compile_addresses_schema {root : List String} {schema : Schema} {filter : Option Filter}
    {constraints : List Constraint} (h : compile root schema filter = .ok constraints)
    {c : Constraint} (hc : c ∈ constraints) (hw : leaf.Within stack c)
    (hleaf : leaf.field? = some path) :
    ∃ chain type, Chain schema.fields chain type ∧
      path = dottedPath (".".intercalate root) chain ∧
      stack = nestedPaths (".".intercalate root) chain := by
  cases filter with
  | none =>
    cases h
    cases hc
  | some tree =>
    obtain ⟨hchain, hstack, hops, hw⟩ := origin_of_compileTree hleaf h ⟨c, hc, hw⟩
    exact ⟨_, _, hchain, (field_of_compileOperators hops hleaf hw).1, hstack⟩

/-! ### A filter that reaches through two nested fields -/

def diskSchema : Schema :=
  ⟨[⟨"facts", .object, [⟨"disks", .nested, [⟨"label", .scalar .string, []⟩,
    ⟨"parts", .nested, [⟨"size", .scalar .integer, []⟩]⟩]⟩]⟩]⟩

/-- Hosts with a labelled disk that has no large part. -/
def diskFilter : Filter :=
  ⟨[("facts", .obj [("disks", .obj [("NOT", .obj [("OR", .arr [
    .obj [("label", .obj [("is", .null)])],
    .obj [("parts", .obj [("size", .obj [("gte", .int 64)])])]])])])])]⟩

def largePart : Constraint :=
  .range "host.facts.disks.parts.size" ⟨none, some (.int 64), none, none⟩

def diskConstraint : Constraint :=
  .nested "host.facts.disks" [.noneOf [.all [.any [.all [.missing "host.facts.disks.label"],
    .all [.nested "host.facts.disks.parts" [largePart]]]]]]

theorem compile_addresses_schema_disk :
    compile ["host"] diskSchema (some diskFilter) = .ok [diskConstraint] ∧
      largePart.Within ["host.facts.disks", "host.facts.disks.parts"] diskConstraint ∧
      ∃ chain type, Chain diskSchema.fields chain type ∧
        "host.facts.disks.parts.size" = dottedPath (".".intercalate ["host"]) chain ∧
        ["host.facts.disks", "host.facts.disks.parts"] =
          nestedPaths (".".intercalate ["host"]) chain := by
  have hcompile : compile ["host"] diskSchema (some diskFilter) = .ok [diskConstraint] := rfl
  have hw : largePart.Within ["host.facts.disks", "host.facts.disks.parts"] diskConstraint := by
    have harm : largePart.Within ["host.facts.disks.parts"]
        (.all [.nested "host.facts.disks.parts" [largePart]]) :=
      .clause (List.mem_singleton_self _) (.nested (List.mem_singleton_self _) .here)
    refine .nested (List.mem_singleton_self _) (.clause (List.mem_singleton_self _) ?_)
    exact .clause (List.mem_singleton_self _)
      (.clause (List.mem_cons_of_mem _ (List.mem_singleton_self _)) harm)
  exact ⟨hcompile, hw, compile_addresses_schema hcompile (List.mem_singleton_self _) hw rfl⟩

end Filter

end HostFacets
