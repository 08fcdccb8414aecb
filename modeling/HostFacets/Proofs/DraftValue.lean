import HostFacets.Json.Reader
import HostFacets.Proofs.Outcome

/-!
Drafts that spell a JSON value.

`Spells` relates a draft to its value, one rule for each shape. In a draft without repeated names
the members of the value are exactly those that are spelled.
-/

namespace HostFacets.Json

/-! ### Integers of 64 bits -/

lemma isInt64_iff {n : Int} : isInt64 n ↔ -2 ^ 63 ≤ n ∧ n < 2 ^ 63 := by
  have hmin : Int64.minValue.toInt = -2 ^ 63 := by decide
  have hmax : Int64.maxValue.toInt = 2 ^ 63 - 1 := by decide
  simp only [isInt64, Bool.and_eq_true, decide_eq_true_eq, hmin, hmax]
  omega

lemma isNat64_iff {n : Int} : isNat64 n ↔ 0 ≤ n ∧ n < 2 ^ 64 := by
  have hsize : (UInt64.size : Int) = 2 ^ 64 := by decide
  simp only [isNat64, Bool.and_eq_true, decide_eq_true_eq, hsize]

/-! ### Look-ups in objects -/

namespace Members

@[simp] lemma get?_nil (x : String) : get? [] x = none := rfl

@[simp] lemma get?_cons (name : String) (value : Json) (rest : Members) (x : String) :
    get? ((name, value) :: rest) x = if x = name then some value else get? rest x := by
  by_cases hx : x = name
  · simp [get?, hx]
  · have hne : (x == name) = false := beq_eq_false_iff_ne.2 hx
    simp [get?, List.lookup_cons, hx, hne]

lemma get?_insert (members : Members) (name : String) (value : Json) (x : String) :
    (members.insert name value).get? x = if x = name then some value else members.get? x := by
  induction members with
  | nil => simp [insert]
  | cons entry rest ih =>
    obtain ⟨other, old⟩ := entry
    simp only [insert]
    split
    · rw [get?_cons]
    · split
      · next heq =>
        subst heq
        by_cases hx : x = name <;> simp [hx]
      · next hne =>
        rw [get?_cons, get?_cons, ih]
        by_cases hx : x = other
        · simp [hx, Ne.symm hne]
        · simp [hx]

/-- Of entries with distinct names each one is a member. -/
lemma get?_ofList {entries : List (String × Json)} (h : (entries.map Prod.fst).Nodup)
    {name : String} {value : Json} :
    (ofList entries).get? name = some value ↔ (name, value) ∈ entries := by
  suffices hs : ∀ members : Members,
      Members.get? (entries.foldl (fun m e => Members.insert e.1 e.2 m) members) name = some value ↔
        (name, value) ∈ entries ∨
          name ∉ entries.map Prod.fst ∧ members.get? name = some value by
    rw [ofList, hs]
    simp
  induction entries with
  | nil => simp
  | cons entry rest ih =>
    obtain ⟨other, old⟩ := entry
    obtain ⟨hnot, hrest⟩ := List.nodup_cons.1 h
    intro members
    rw [List.foldl_cons, ih hrest, get?_insert]
    by_cases hx : name = other
    · subst hx
      have hmem : ∀ v, (name, v) ∉ rest := fun v hv => hnot (List.mem_map.2 ⟨_, hv, rfl⟩)
      simp [hmem, eq_comm]
    · simp [hx]

end Members

/-! ### Values of drafts -/

/-- The members of an object as they are spelled, with their values. -/
abbrev EntriesSpelled (depth : Nat) (members : List (Spelling × Draft))
    (entries : List (String × Json)) : Prop :=
  List.Forall₂ (fun m e => m.1.text? = some e.1 ∧ m.2.value? depth = some e.2) members entries

namespace Draft

lemma entriesSpelled_of_entries? {depth : Nat} {members : List (Spelling × Draft)}
    {entries : List (String × Json)} (h : entries? depth members = some entries) :
    EntriesSpelled depth members entries := by
  induction members generalizing entries with
  | nil =>
    cases h
    exact .nil
  | cons m rest ih =>
    obtain ⟨name, draft⟩ := m
    simp only [entries?, Option.bind_eq_bind, Option.bind_eq_some_iff] at h
    obtain ⟨n, hn, v, hv, es, hes, h⟩ := h
    cases h
    exact .cons ⟨hn, hv⟩ (ih hes)

lemma forall₂_of_values? {depth : Nat} {items : List Draft} {values : List Json}
    (h : values? depth items = some values) :
    List.Forall₂ (fun d v => d.value? depth = some v) items values := by
  induction items generalizing values with
  | nil =>
    cases h
    exact .nil
  | cons d rest ih =>
    simp only [values?, Option.bind_eq_bind, Option.bind_eq_some_iff] at h
    obtain ⟨v, hv, vs, hvs, h⟩ := h
    cases h
    exact .cons hv (ih hvs)

/-- A draft spells a value that is nested no deeper than `depth`. -/
inductive Spells : Nat → Draft → Json → Prop where
  | null {depth : Nat} : Spells depth .null .null
  | bool {depth : Nat} (b : Bool) : Spells depth (.bool b) (.bool b)
  | int {depth : Nat} {text : NumberText} {n : Int} (h : text.value? = some (.int n)) :
    Spells depth (.number text) (.int n)
  | float {depth : Nat} {text : NumberText} {x : Binary64} (h : text.value? = some (.float x)) :
    Spells depth (.number text) (.float x)
  | string {depth : Nat} {s : Spelling} {t : String} (h : s.text? = some t) :
    Spells depth (.string s) (.str t)
  | array {depth : Nat} {items : List Draft} {values : List Json}
    (h : List.Forall₂ (fun d v => d.value? depth = some v) items values) :
    Spells (depth + 1) (.array items true) (.arr values)
  | object {depth : Nat} {members : List (Spelling × Draft)} {entries : List (String × Json)}
    (h : EntriesSpelled depth members entries) :
    Spells (depth + 1) (.object members true) (.obj (Members.ofList entries))

lemma spells_of_value? {depth : Nat} {draft : Draft} {value : Json}
    (h : draft.value? depth = some value) : Spells depth draft value := by
  cases draft with
  | null =>
    cases h
    exact .null
  | bool b =>
    cases h
    exact .bool b
  | number text =>
    have hvalue : text.value? = some value := h
    have hcases := hvalue
    unfold NumberText.value? at hcases
    split at hcases
    · cases hcases
      exact .int hvalue
    · obtain ⟨x, -, rfl⟩ := Option.map_eq_some_iff.1 hcases
      exact .float hvalue
  | string s =>
    obtain ⟨t, ht, rfl⟩ := Option.map_eq_some_iff.1 h
    exact .string ht
  | array items closed =>
    simp only [Draft.value?] at h
    split at h
    · obtain ⟨values, hvalues, rfl⟩ := Option.map_eq_some_iff.1 h
      exact .array (forall₂_of_values? hvalues)
    · cases h
  | object members closed =>
    simp only [Draft.value?] at h
    split at h
    · obtain ⟨entries, hentries, rfl⟩ := Option.map_eq_some_iff.1 h
      exact .object (entriesSpelled_of_entries? hentries)
    · cases h
  | broken => cases h

-- By induction on the draft: a value has no part that is cut off.
mutual

lemma isWhole_of_value? : ∀ {draft : Draft} {depth : Nat} {value : Json},
    draft.value? depth = some value → draft.isWhole
  | .null, _, _, _ | .bool _, _, _, _ | .number _, _, _, _ | .string _, _, _, _ => rfl
  | .array items closed, depth, value, h => by
    cases spells_of_value? h with
    | array hitems => exact areWhole_of_forall₂ hitems
  | .object members closed, depth, value, h => by
    cases spells_of_value? h with
    | object hmembers => exact membersAreWhole_of_entriesSpelled hmembers
  | .broken, _, _, h => by cases h

lemma areWhole_of_forall₂ : ∀ {items : List Draft} {depth : Nat} {values : List Json},
    List.Forall₂ (fun d v => d.value? depth = some v) items values → areWhole items
  | [], _, _, _ => rfl
  | d :: rest, depth, values, h => by
    cases h with
    | cons hd hrest => simp [areWhole, isWhole_of_value? hd, areWhole_of_forall₂ hrest]

lemma membersAreWhole_of_entriesSpelled : ∀ {members : List (Spelling × Draft)} {depth : Nat}
    {entries : List (String × Json)}, EntriesSpelled depth members entries →
    membersAreWhole members
  | [], _, _, _ => rfl
  | (name, d) :: rest, depth, entries, h => by
    cases h with
    | cons hd hrest =>
      simp [membersAreWhole, isWhole_of_value? hd.2, membersAreWhole_of_entriesSpelled hrest]

end

/-! ### Drafts without repeated names -/

mutual

/-- No object of the draft has two members of one name. -/
def isUnrepeated : Draft → Bool
  | .array items _ => areUnrepeated items
  | .object members _ =>
    decide (members.map fun m => m.1.text?).Nodup && membersAreUnrepeated members
  | .null | .bool _ | .number _ | .string _ | .broken => true

def areUnrepeated : List Draft → Bool
  | [] => true
  | d :: rest => d.isUnrepeated && areUnrepeated rest

def membersAreUnrepeated : List (Spelling × Draft) → Bool
  | [] => true
  | (_, d) :: rest => d.isUnrepeated && membersAreUnrepeated rest

end

lemma areUnrepeated_iff {items : List Draft} :
    areUnrepeated items ↔ ∀ d ∈ items, d.isUnrepeated := by
  induction items with
  | nil => simp [areUnrepeated]
  | cons d rest ih => simp [areUnrepeated, ih]

lemma membersAreUnrepeated_iff {members : List (Spelling × Draft)} :
    membersAreUnrepeated members ↔ ∀ m ∈ members, m.2.isUnrepeated := by
  induction members with
  | nil => simp [membersAreUnrepeated]
  | cons m rest ih => simp [membersAreUnrepeated, ih]

/-! ### What a draft denotes -/

/-- A draft denotes the value it spells, if it repeats no name. -/
structure Denotes (depth : Nat) (draft : Draft) (value : Json) : Prop where
  spelled : draft.value? depth = some value
  unrepeated : draft.isUnrepeated

/-- A draft is written under a name in an object. -/
def IsMember (members : List (Spelling × Draft)) (name : String) (d : Draft) : Prop :=
  ∃ s, (s, d) ∈ members ∧ s.text? = some name

lemma isMember_cons_iff {s : Spelling} {d x : Draft} {rest : List (Spelling × Draft)}
    {name : String} :
    IsMember ((s, d) :: rest) name x ↔ x = d ∧ s.text? = some name ∨ IsMember rest name x := by
  simp only [IsMember, List.mem_cons, Prod.mk.injEq]
  constructor
  · rintro ⟨t, ⟨rfl, rfl⟩ | h, ht⟩
    · exact .inl ⟨rfl, ht⟩
    · exact .inr ⟨t, h, ht⟩
  · rintro (⟨rfl, hs⟩ | ⟨t, h, ht⟩)
    · exact ⟨s, .inl ⟨rfl, rfl⟩, hs⟩
    · exact ⟨t, .inr h, ht⟩

/-- Members denote an object: each denotes a value under a name of its own. -/
structure ObjectDenotes (depth : Nat) (members : List (Spelling × Draft)) (object : Members) :
    Prop where
  nodup : (members.map fun m => m.1.text?).Nodup
  denoted : ∀ m ∈ members, ∃ name v, m.1.text? = some name ∧ Denotes depth m.2 v
  get?_iff : ∀ name v,
    object.get? name = some v ↔ ∃ d, IsMember members name d ∧ Denotes depth d v

namespace ObjectDenotes

variable {depth : Nat} {members : List (Spelling × Draft)} {object : Members} {name : String}
  {d : Draft}

lemma denotes_of_isMember (h : ObjectDenotes depth members object)
    (hd : IsMember members name d) : ∃ v, Denotes depth d v := by
  obtain ⟨s, hm, -⟩ := hd
  obtain ⟨-, v, -, hv⟩ := h.denoted _ hm
  exact ⟨v, hv⟩

/-- There is only one member of a name. -/
lemma forall_isMember_iff (h : ObjectDenotes depth members object) (hd : IsMember members name d)
    {P : Draft → Prop} : (∀ x, IsMember members name x → P x) ↔ P d := by
  refine ⟨fun hP => hP d hd, fun hP x hx => ?_⟩
  obtain ⟨s, hm, hs⟩ := hd
  obtain ⟨t, hm', ht⟩ := hx
  cases List.inj_on_of_nodup_map h.nodup hm hm' (hs.trans ht.symm)
  exact hP

end ObjectDenotes

/-- Members that a record with these names can take: each name can be read, what is written under
another name is JSON, and none of the names comes twice. -/
structure Legible (names : List String) (members : List (Spelling × Draft)) : Prop where
  named : ∀ m ∈ members, ∃ name, m.1.text? = some name ∧ (name ∉ names → m.2.isWhole)
  once : members.Pairwise fun m m' =>
    ∀ name ∈ names, m.1.text? = some name → m'.1.text? ≠ some name

lemma ObjectDenotes.legible {depth : Nat} {members : List (Spelling × Draft)} {object : Members}
    (h : ObjectDenotes depth members object) (names : List String) : Legible names members where
  named m hm := by
    obtain ⟨name, v, hname, hv⟩ := h.denoted m hm
    exact ⟨name, hname, fun _ => isWhole_of_value? hv.spelled⟩
  once := (List.pairwise_map.1 h.nodup).imp fun hne _ _ hm hm' => hne (hm.trans hm'.symm)

lemma objectDenotes_of_entriesSpelled {depth : Nat} {members : List (Spelling × Draft)}
    {entries : List (String × Json)} (h : EntriesSpelled depth members entries)
    (hnodup : (members.map fun m => m.1.text?).Nodup) (hmembers : membersAreUnrepeated members) :
    ObjectDenotes depth members (Members.ofList entries) := by
  have hunrepeated := membersAreUnrepeated_iff.1 hmembers
  have hnames : members.map (fun m => m.1.text?) = entries.map (fun e => some e.1) := by
    clear hnodup hmembers hunrepeated
    induction h with
    | nil => rfl
    | cons hm _ ih => rw [List.map_cons, List.map_cons, hm.1, ih]
  have hentries : (entries.map Prod.fst).Nodup := by
    rw [hnames] at hnodup
    refine List.Nodup.of_map some ?_
    simpa [Function.comp_def] using hnodup
  refine ⟨hnodup, fun m hm => ?_, fun name v => ?_⟩
  · obtain ⟨e, -, hname, hvalue⟩ := exists_right_of_forall₂ h m hm
    exact ⟨e.1, e.2, hname, hvalue, hunrepeated m hm⟩
  · rw [Members.get?_ofList hentries]
    constructor
    · intro he
      obtain ⟨⟨s, d⟩, hm, hs, hd⟩ := exists_left_of_forall₂ h _ he
      exact ⟨d, ⟨s, hm, hs⟩, hd, hunrepeated _ hm⟩
    · rintro ⟨d, ⟨s, hm, hs⟩, hd⟩
      obtain ⟨⟨n, w⟩, he, hn, hw⟩ := exists_right_of_forall₂ h _ hm
      cases hs.symm.trans hn
      cases hd.spelled.symm.trans hw
      exact he

variable {depth : Nat} {draft : Draft}

lemma Denotes.isWhole {value : Json} (h : Denotes depth draft value) : draft.isWhole :=
  isWhole_of_value? h.spelled

/-- What denotes an array is an array. -/
lemma Denotes.array {values : List Json} (h : Denotes depth draft (.arr values)) :
    ∃ inner items, depth = inner + 1 ∧ draft = .array items true ∧
      List.Forall₂ (Denotes inner) items values := by
  obtain ⟨hspelled, hunrepeated⟩ := h
  cases spells_of_value? hspelled with
  | @array inner items _ hitems =>
    have hboth := (List.forall₂_and_left items values).2 ⟨areUnrepeated_iff.1 hunrepeated, hitems⟩
    exact ⟨inner, items, rfl, rfl, hboth.imp fun _ _ h => ⟨h.2, h.1⟩⟩

/-- What denotes an object is an object. -/
lemma Denotes.object {object : Members} (h : Denotes depth draft (.obj object)) :
    ∃ inner members, depth = inner + 1 ∧ draft = .object members true ∧
      ObjectDenotes inner members object := by
  obtain ⟨hspelled, hunrepeated⟩ := h
  cases spells_of_value? hspelled with
  | @object inner members _ hentries =>
    obtain ⟨hnodup, hmembers⟩ := Bool.and_eq_true_iff.1 hunrepeated
    have hnodup := of_decide_eq_true hnodup
    exact ⟨inner, members, rfl, rfl, objectDenotes_of_entriesSpelled hentries hnodup hmembers⟩

end Draft

end HostFacets.Json
