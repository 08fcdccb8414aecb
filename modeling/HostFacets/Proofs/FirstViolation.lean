import HostFacets.Proofs.Violations

/-!
The error of a filter is that of its first violation, whatever comes later.

`AgreeUpTo` says that two trees are the same up to a place in them. A violation at this place that
is the first of one tree is the first of the other.
-/

namespace HostFacets.Filter

/-! ### What comes later -/

/-- The error is about a name and not about the value under it. -/
inductive Error.AboutName : Error → Prop where
  | field (path : String) : AboutName (.unknownField path)
  | operator (path operator : String) : AboutName (.unsupportedOperator path operator)

/-- Two values agree up to the place of an error. The members and items after those on the way there
may differ, and so may the value at the place itself if the error is about its name. -/
inductive AgreeUpTo (e : Error) : List Step → Json → Json → Prop where
  | here {v v' : Json} (h : v = v' ∨ e.AboutName) : AgreeUpTo e [] v v'
  | member {name : String} {v v' : Json} {before later later' : Json.Members} {address : List Step}
    (h : AgreeUpTo e address v v') :
    AgreeUpTo e (.member name :: address) (.obj (before ++ (name, v) :: later))
      (.obj (before ++ (name, v') :: later'))
  | item {v v' : Json} {before later later' : List Json} {address : List Step}
    (h : AgreeUpTo e address v v') :
    AgreeUpTo e (.item before.length :: address) (.arr (before ++ v :: later))
      (.arr (before ++ v' :: later'))

/-- What is first wrong with a value, in whatever part it plays, is so with another value too. -/
structure Keeps (e : Error) (address : List Step) (v v' : Json) : Prop where
  tree : ∀ above fields members members', v = .obj members → v' = .obj members' →
    IsFirst Step.Before (Violation above fields members) address e →
    IsFirst Step.Before (Violation above fields members') address e
  entry : ∀ above fields name, IsFirst Step.Before (InEntry above fields name v) address e →
    IsFirst Step.Before (InEntry above fields name v') address e
  arm : ∀ above fields name, IsFirst Step.Before (InArm above fields name v) address e →
    IsFirst Step.Before (InArm above fields name v') address e
  operator : ∀ path type operator,
    IsFirst Step.Before (InOperator path type operator v) address e →
    IsFirst Step.Before (InOperator path type operator v') address e

variable {e : Error} {v v' : Json} {address : List Step} {above : List String}
  {fields : List FieldDef} {name : String} {members : Json.Members} {arms : List Json}

lemma Keeps.refl : Keeps e address v v := by
  refine ⟨?_, fun _ _ _ h => h, fun _ _ _ h => h, fun _ _ _ h => h⟩
  rintro above fields members _ rfl ⟨⟩ h
  exact h

/-! ### The place of the error -/

lemma isFirst_unknown {path : String}
    (h : IsFirst Step.Before (InEntry above fields name v) [] (.unknownField path)) :
    IsFirst Step.Before (InEntry above fields name v') [] (.unknownField path) := by
  cases inEntry_nil_iff.1 h.fault with
  | unknown hname hfield =>
    have hfault : EntryFault above fields name v' [] _ := .unknown hname hfield
    exact .root (.own hfault) fun _ h' => hfault.eq_of_root (inEntry_nil_iff.1 h')

lemma isFirst_unsupported {path path' operator operator' : String} {type : ScalarType}
    (h : IsFirst Step.Before (InOperator path type operator v) []
      (.unsupportedOperator path' operator')) :
    IsFirst Step.Before (InOperator path type operator v') []
      (.unsupportedOperator path' operator') := by
  obtain ⟨fault, ⟨-, hrejects⟩, hfault⟩ := h.fault
  cases hrejects with
  | unsupported hnot =>
    refine .root ⟨_, ⟨rfl, .unsupported hnot⟩, hfault⟩ ?_
    rintro _ ⟨fault', ⟨-, hrejects⟩, rfl⟩
    rw [hrejects.eq_of_rejects (.unsupported hnot), hfault]
  | onlyNull | isBoolean | eq | pattern | bound => cases hfault

lemma keeps_aboutName (h : e.AboutName) : Keeps e [] v v' := by
  refine ⟨fun _ _ _ _ _ _ h => absurd rfl h.fault.ne_nil, ?_, ?_, ?_⟩
  · intro above fields name hfirst
    cases h with
    | field path => exact isFirst_unknown hfirst
    | operator path operator => cases inEntry_nil_iff.1 hfirst.fault
  · intro above fields name hfirst
    have hfault := hfirst.fault
    cases h <;> cases hfault with
    | inner h => exact absurd rfl h.ne_nil
  · intro path type operator hfirst
    cases h with
    | field path =>
      obtain ⟨fault, -, hfault⟩ := hfirst.fault
      cases fault <;> cases hfault
    | operator path operator => exact isFirst_unsupported hfirst

/-! ### On the way to the error -/

lemma InEntry.of_obj (h : InEntry above fields name (.obj members) address e)
    (hne : address ≠ []) :
    name = "NOT" ∨ ∃ field, name ∉ reserved ∧ findField fields name = some field := by
  cases h with
  | own h =>
    cases h with
    | noList | unknown | field | negation => exact absurd rfl hne
    | operator hname hfield => exact .inr ⟨_, hname, hfield⟩
  | inner henters =>
    cases henters with
    | negation => exact .inl rfl
    | container hname hfield => exact .inr ⟨_, hname, hfield⟩

lemma InEntry.of_arr (h : InEntry above fields name (.arr arms) address e) (hne : address ≠ []) :
    name = "AND" ∨ name = "OR" := by
  cases h with
  | own h =>
    cases h with
    | noList | unknown | field | negation => exact absurd rfl hne
    | arm hname => exact hname
  | inner henters =>
    cases henters with
    | arm hname => exact hname

section

variable {before later later' : Json.Members}

/-- In ordered members nothing but the entry on the way counts, whatever their faults may be. -/
lemma isFirst_members {F : String → Json → List Step → Error → Prop}
    (h : IsFirst Step.Before (InItems (fun entry => .member entry.1)
      (fun entry => F entry.1 entry.2) (before ++ (name, v) :: later)) (.member name :: address) e)
    (hordered : Json.Members.Ordered (before ++ (name, v) :: later))
    (hordered' : Json.Members.Ordered (before ++ (name, v') :: later'))
    (hentry : IsFirst Step.Before (F name v) address e →
      IsFirst Step.Before (F name v') address e) :
    IsFirst Step.Before (InItems (fun entry => .member entry.1) (fun entry => F entry.1 entry.2)
      (before ++ (name, v') :: later')) (.member name :: address) e := by
  obtain ⟨hnone, hfirst⟩ := (isFirst_inItems_iff (before_of_ordered hordered)).1 h
  exact (isFirst_inItems_iff (before_of_ordered hordered')).2 ⟨hnone, hentry hfirst⟩

lemma keeps_member (hkeeps : Keeps e address v v')
    (hordered : Json.Members.Ordered (before ++ (name, v) :: later))
    (hordered' : Json.Members.Ordered (before ++ (name, v') :: later')) :
    Keeps e (.member name :: address) (.obj (before ++ (name, v) :: later))
      (.obj (before ++ (name, v') :: later')) := by
  have htree : ∀ above fields,
      IsFirst Step.Before (Violation above fields (before ++ (name, v) :: later))
        (.member name :: address) e →
      IsFirst Step.Before (Violation above fields (before ++ (name, v') :: later'))
        (.member name :: address) e := by
    intro above fields h
    have hitems := isFirst_members (h.congr fun _ _ => violation_iff) hordered hordered'
      (hkeeps.entry above fields name)
    exact hitems.congr fun _ _ => violation_iff.symm
  refine ⟨?_, ?_, ?_, ?_⟩
  · rintro above fields _ _ ⟨⟩ ⟨⟩ h
    exact htree above fields h
  · intro above fields name' h
    rcases h.fault.of_obj (by simp) with rfl | ⟨field, hname, hfield⟩
    · have hnot := htree above fields (h.congr fun _ _ => inEntry_not_iff)
      exact hnot.congr fun _ _ => inEntry_not_iff.symm
    · have hcontainer (htype : field.type = .object ∨ field.type = .nested) :=
        htree _ _ (h.congr fun _ _ => inEntry_container_iff hname hfield htype)
      cases htype : field.type with
      | scalar type =>
        have hitems := isFirst_members
          (h.congr fun _ _ => inEntry_scalar_iff hname hfield htype) hordered hordered'
          (hkeeps.operator _ type name)
        exact hitems.congr fun _ _ => (inEntry_scalar_iff hname hfield htype).symm
      | object =>
        exact (hcontainer (.inl htype)).congr fun _ _ =>
          (inEntry_container_iff hname hfield (.inl htype)).symm
      | nested =>
        exact (hcontainer (.inr htype)).congr fun _ _ =>
          (inEntry_container_iff hname hfield (.inr htype)).symm
  · intro above fields name' h
    exact (htree above fields (h.congr fun _ _ => inArm_obj_iff)).congr fun _ _ =>
      inArm_obj_iff.symm
  · rintro path type operator h
    obtain ⟨fault, ⟨⟨⟩, -⟩, -⟩ := h.fault

end

section

variable {before later later' : List Json}

lemma before_of_zipIdx (arms : List Json) :
    arms.zipIdx.Pairwise fun arm other => Step.Before (.item arm.2) (.item other.2) := by
  have hlt : (arms.zipIdx.map Prod.snd).Pairwise (· < ·) := by
    rw [List.zipIdx_map_snd]
    exact List.pairwise_lt_range'
  exact (List.pairwise_map.1 hlt).imp .item

lemma zipIdx_append_cons :
    (before ++ v :: later).zipIdx =
      before.zipIdx ++ (v, before.length) :: later.zipIdx (before.length + 1) := by
  rw [List.zipIdx_append, List.zipIdx_cons, Nat.zero_add]

lemma keeps_item (hkeeps : Keeps e address v v') :
    Keeps e (.item before.length :: address) (.arr (before ++ v :: later))
      (.arr (before ++ v' :: later')) := by
  have hlt := before_of_zipIdx (before ++ v :: later)
  have hlt' := before_of_zipIdx (before ++ v' :: later')
  rw [zipIdx_append_cons] at hlt hlt'
  refine ⟨?_, ?_, ?_, ?_⟩
  · rintro above fields members members' ⟨⟩
  · intro above fields name h
    have hname := h.fault.of_arr (by simp)
    have hitems := h.congr fun _ _ => inEntry_arms_iff hname
    rw [zipIdx_append_cons] at hitems
    obtain ⟨hnone, hfirst⟩ := (isFirst_inItems_iff hlt).1 hitems
    have hitems' := (isFirst_inItems_iff hlt').2 ⟨hnone, hkeeps.arm above fields name hfirst⟩
    rw [← zipIdx_append_cons] at hitems'
    exact hitems'.congr fun _ _ => (inEntry_arms_iff hname).symm
  · intro above fields name h
    cases h.fault
  · rintro path type operator h
    obtain ⟨fault, ⟨⟨⟩, -⟩, -⟩ := h.fault

end

/-! ### The error -/

lemma canonical_of_append_cons {before later : Json.Members}
    (h : Json.MembersCanonical (before ++ (name, v) :: later)) : v.Canonical := by
  induction before with
  | nil => exact h.1
  | cons entry rest ih => exact ih h.2

lemma canonical_of_items_append_cons {before later : List Json}
    (h : Json.ItemsCanonical (before ++ v :: later)) : v.Canonical := by
  induction before with
  | nil => exact h.1
  | cons item rest ih => exact ih h.2

lemma keeps_of_agreeUpTo (h : AgreeUpTo e address v v') (hv : v.Canonical) (hv' : v'.Canonical) :
    Keeps e address v v' := by
  induction h with
  | here h =>
    rcases h with rfl | h
    · exact .refl
    · exact keeps_aboutName h
  | member _ ih =>
    exact keeps_member (ih (canonical_of_append_cons hv.2) (canonical_of_append_cons hv'.2)) hv.1
      hv'.1
  | item _ ih =>
    exact keeps_item (ih (canonical_of_items_append_cons hv) (canonical_of_items_append_cons hv'))

lemma compile_error_iff {root : List String} {schema : Schema} {filter : Filter}
    (hcanonical : (Json.obj filter.members).Canonical) :
    compile root schema (some filter) = .error e ↔ ∃ address, IsFirst Step.Before
      (Violation [".".intercalate root] schema.fields filter.members) address e := by
  rw [← (reports_compileTree filter.members _ _ hcanonical).error_iff, dotted_singleton, compile]

/-- **The first violation is reported**: the error of a filter is that of its first violation. It
stays the same whatever is put in the place of what comes after. -/
theorem compile_reports_first_violation {root : List String} {schema : Schema} {filter : Filter}
    (hcanonical : (Json.obj filter.members).Canonical) (e : Error) :
    let Violates := Violation [".".intercalate root] schema.fields filter.members
    (compile root schema (some filter) = .error e ↔
      ∃ address, IsFirst Step.Before Violates address e) ∧
    ∀ address, IsFirst Step.Before Violates address e → ∀ other : Filter,
      (Json.obj other.members).Canonical →
      AgreeUpTo e address (.obj filter.members) (.obj other.members) →
      compile root schema (some other) = .error e := by
  refine ⟨compile_error_iff hcanonical, fun address hfirst other hother hagree => ?_⟩
  have hkeeps := keeps_of_agreeUpTo hagree hcanonical hother
  exact (compile_error_iff hother).2 ⟨address, hkeeps.tree _ _ _ _ rfl rfl hfirst⟩

/-! ### A filter with several violations -/

def labelArm : Json.Members :=
  [("facts", .obj [("disks", .obj [("label", .obj [("eq", .str "a")])])])]

/-- The second arm has an unknown field, and what follows is wrong as well. -/
def faultyFilter : Filter :=
  ⟨[("OR", .arr [.obj labelArm, .obj [("facts", .obj [("speed", .int 1)])], .null]),
    ("facts", .int 5)]⟩

/-- The same up to the unknown field, and different in all that follows. -/
def otherFilter : Filter :=
  ⟨[("OR", .arr [.obj labelArm, .obj [("facts", .obj [("speed", .null), ("tags", .null)])]]),
    ("kernel", .obj [])]⟩

def faultyAddress : List Step := [.member "OR", .item 1, .member "facts", .member "speed"]

/-- What is first wrong with the first entry is first wrong with the tree. -/
lemma isFirst_cons {later : Json.Members} (hordered : Json.Members.Ordered ((name, v) :: later))
    (h : IsFirst Step.Before (InEntry above fields name v) address e) :
    IsFirst Step.Before (Violation above fields ((name, v) :: later)) (.member name :: address)
      e := by
  have hordered : Json.Members.Ordered ([] ++ (name, v) :: later) := hordered
  have hitems := (isFirst_inItems_iff (F := fun entry => InEntry above fields entry.1 entry.2)
    (before_of_ordered hordered)).2 ⟨by simp, h⟩
  exact hitems.congr fun _ _ => violation_iff.symm

lemma isFirst_speed : IsFirst Step.Before
    (Violation ["host"] diskSchema.fields [("facts", .obj [("speed", .int 1)])])
    [.member "facts", .member "speed"] (.unknownField "host.facts.speed") := by
  let facts : FieldDef := diskSchema.fields[0]
  have hfacts : findField diskSchema.fields "facts" = some facts := rfl
  have hfault : EntryFault ["host", "facts"] facts.fields "speed" (.int 1) []
      (.unknownField "host.facts.speed") := .unknown (by decide) rfl
  have hentry : IsFirst Step.Before (InEntry ["host", "facts"] facts.fields "speed" (.int 1)) []
      (.unknownField "host.facts.speed") :=
    .root (.own hfault) fun _ h => hfault.eq_of_root (inEntry_nil_iff.1 h)
  have htree : IsFirst Step.Before
      (Violation (["host"] ++ ["facts"]) facts.fields [("speed", .int 1)])
      [.member "speed"] (.unknownField "host.facts.speed") := isFirst_cons (by decide) hentry
  refine isFirst_cons (by decide) (htree.congr fun _ _ => ?_)
  exact (inEntry_container_iff (by decide) hfacts (.inl rfl)).symm

lemma isFirst_faultyAddress : IsFirst Step.Before
    (Violation [".".intercalate ["host"]] diskSchema.fields faultyFilter.members) faultyAddress
    (.unknownField "host.facts.speed") := by
  let speedArm : Json := .obj [("facts", .obj [("speed", .int 1)])]
  have hlabel : ∀ address e, ¬ Violation ["host"] diskSchema.fields labelArm address e :=
    (reports_compileTree labelArm ["host"] diskSchema.fields (by decide)).ok_iff.1 ⟨_, rfl⟩
  have hspeed : IsFirst Step.Before (InArm ["host"] diskSchema.fields "OR" speedArm)
      [.member "facts", .member "speed"] (.unknownField "host.facts.speed") :=
    isFirst_speed.congr fun _ _ => inArm_obj_iff.symm
  have hlt : ([(Json.obj labelArm, 0)] ++ (speedArm, 1) :: [(Json.null, 2)]).Pairwise
      fun (arm other : Json × Nat) => Step.Before (.item arm.2) (.item other.2) :=
    before_of_zipIdx [.obj labelArm, speedArm, .null]
  have harms : IsFirst Step.Before (InItems (fun arm => .item arm.2)
      (fun arm => InArm ["host"] diskSchema.fields "OR" arm.1)
      [.obj labelArm, speedArm, .null].zipIdx)
      [.item 1, .member "facts", .member "speed"] (.unknownField "host.facts.speed") :=
    (isFirst_inItems_iff hlt).2 ⟨by simpa [inArm_obj_iff] using hlabel, hspeed⟩
  have hroot : ".".intercalate ["host"] = "host" := rfl
  rw [hroot]
  exact isFirst_cons (by decide) (harms.congr fun _ _ => (inEntry_arms_iff (.inr rfl)).symm)

lemma agreeUpTo_faultyAddress : AgreeUpTo (.unknownField "host.facts.speed") faultyAddress
    (.obj faultyFilter.members) (.obj otherFilter.members) := by
  have hspeed : AgreeUpTo (.unknownField "host.facts.speed") [] (.int 1) .null :=
    .here (.inr (.field _))
  have hfacts := @AgreeUpTo.member _ "speed" _ _ [] [] [("tags", .null)] _ hspeed
  have harm := @AgreeUpTo.item _ _ _ [.obj labelArm] [.null] [] _
    (@AgreeUpTo.member _ "facts" _ _ [] [] [] _ hfacts)
  exact @AgreeUpTo.member _ "OR" _ _ [] [("facts", .int 5)] [("kernel", .obj [])] _ harm

theorem compile_reports_first_violation_speed :
    (Json.obj faultyFilter.members).Canonical ∧ (Json.obj otherFilter.members).Canonical ∧
      compile ["host"] diskSchema (some faultyFilter) =
        .error (.unknownField "host.facts.speed") ∧
      compile ["host"] diskSchema (some otherFilter) =
        .error (.unknownField "host.facts.speed") := by
  have hcanonical : (Json.obj faultyFilter.members).Canonical := by decide
  have hother : (Json.obj otherFilter.members).Canonical := by decide
  obtain ⟨herror, hstays⟩ := compile_reports_first_violation hcanonical _
  exact ⟨hcanonical, hother, herror.2 ⟨_, isFirst_faultyAddress⟩,
    hstays _ isFirst_faultyAddress otherFilter hother agreeUpTo_faultyAddress⟩

end HostFacets.Filter
