import HostFacets.Proofs.RecordReading

/-!
The parts of a record.

A record is written as an object, or as the list of its fields. Either way a field is read from the
part that is written for it, and a field that is left out keeps the content of the blank record. An
object may hold the parts in any order and other members between them.
-/

namespace HostFacets.Json

namespace Draft

/-- What is written for the field of this name, in an object or at its place in a list. -/
inductive Part (names : List String) (name : String) : Draft → Draft → Prop where
  | member {members : List (Spelling × Draft)} {closed : Bool} {x : Draft}
    (h : IsMember members name x) : Part names name (.object members closed) x
  | item {items : List Draft} {closed : Bool} {x : Draft} (h : (name, x) ∈ names.zip items) :
    Part names name (.array items closed) x

/-- An object or a list, with its end. -/
inductive IsRecord : Draft → Prop where
  | object (members : List (Spelling × Draft)) : IsRecord (.object members true)
  | list (items : List Draft) : IsRecord (.array items true)

/-- A record with these fields that can be read: an object that is legible, or a list with no more
items than there are fields. -/
inductive Readable (names : List String) : Draft → Prop where
  | object {members : List (Spelling × Draft)} (h : Legible names members) :
    Readable names (.object members true)
  | list {items : List Draft} (h : items.length ≤ names.length) : Readable names (.array items true)

/-- Something is written for a field, and whatever is written for it has a property. -/
structure Gives (names : List String) (name : String) (P : Draft → Prop) (d : Draft) : Prop where
  present : ∃ x, Part names name d x
  all : ∀ x, Part names name d x → P x

/-- A record that leaves a field out. -/
structure LeavesOut (names : List String) (name : String) (d : Draft) : Prop where
  record : d.IsRecord
  absent : ∀ x, ¬ Part names name d x

/-- A value is written for a field, or the field is left out and the value is the default. -/
def GivenOr {α : Type} (names : List String) (name : String) (Writes : Draft → α → Prop)
    (default : α) (d : Draft) (a : α) : Prop :=
  Gives names name (Writes · a) d ∨ LeavesOut names name d ∧ a = default

variable {names : List String} {name : String} {d x : Draft} {P Q : Draft → Prop}

lemma Gives.imp (h : Gives names name P d) (hPQ : ∀ x, P x → Q x) : Gives names name Q d :=
  ⟨h.present, fun x hx => hPQ x (h.all x hx)⟩

lemma Readable.isRecord (h : Readable names d) : d.IsRecord := by
  cases h with
  | object => exact .object _
  | list => exact .list _

lemma part_object_iff {members : List (Spelling × Draft)} {closed : Bool} :
    Part names name (.object members closed) x ↔ IsMember members name x := by
  constructor
  · intro h
    cases h with
    | member h => exact h
  · exact .member

lemma part_array_iff {items : List Draft} {closed : Bool} :
    Part names name (.array items closed) x ↔ (name, x) ∈ names.zip items := by
  constructor
  · intro h
    cases h with
    | item h => exact h
  · exact .item

/-- Only one part is written for a field. -/
lemma Readable.part_unique (h : Readable names d) (hnames : names.Nodup) (hname : name ∈ names)
    {y : Draft} (hx : Part names name d x) (hy : Part names name d y) : x = y := by
  cases h with
  | @object members hlegible =>
    obtain ⟨s, hs, hsname⟩ := part_object_iff.1 hx
    obtain ⟨s', hs', hsname'⟩ := part_object_iff.1 hy
    obtain ⟨i, hi, hix⟩ := List.getElem_of_mem hs
    obtain ⟨j, hj, hjy⟩ := List.getElem_of_mem hs'
    have honce := List.pairwise_iff_getElem.1 hlegible.once
    rcases Nat.lt_trichotomy i j with hlt | rfl | hlt
    · exact absurd (hjy ▸ hsname') (honce i j hi hj hlt name hname (hix ▸ hsname))
    · exact (Prod.mk.inj (hix.symm.trans hjy)).2
    · exact absurd (hix ▸ hsname) (honce j i hj hi hlt name hname (hjy ▸ hsname'))
  | list hlength =>
    obtain ⟨i, hi, hix⟩ := List.getElem_of_mem (part_array_iff.1 hx)
    obtain ⟨j, hj, hjy⟩ := List.getElem_of_mem (part_array_iff.1 hy)
    simp only [List.getElem_zip, Prod.mk.injEq] at hix hjy
    obtain rfl := (hnames.getElem_inj_iff).1 (hix.1.trans hjy.1.symm)
    exact hix.2.symm.trans hjy.2

end Draft

open Draft

namespace Reader

variable {σ α : Type} {fields : List (RecordField σ)} {depth : Nat} {blank r : σ} {d : Draft}

/-! ### Records written as lists -/

/-- The items of a list, read one after another into the fields of a record. -/
inductive ItemsRead (depth : Nat) : List (RecordField σ) → σ → List Draft → σ → Prop where
  | rest {fields : List (RecordField σ)} {r : σ} (h : ∀ f ∈ fields, f.presence = .defaulted) :
    ItemsRead depth fields r [] r
  | take {field : RecordField σ} {fields : List (RecordField σ)} {r r' : σ} {d : Draft}
    {items : List Draft} {set : σ → σ} (hread : field.read depth d = .ok set)
    (h : ItemsRead depth fields (set r) items r') :
    ItemsRead depth (field :: fields) r (d :: items) r'

lemma itemsRead_of_recordItems {closed : Bool} {items : List Draft} {r' : σ}
    (h : recordItems depth closed r fields items = .ok r') :
    closed ∧ ItemsRead depth fields r items r' := by
  induction fields generalizing items r with
  | nil =>
    cases items with
    | nil =>
      simp only [recordItems] at h
      split at h
      · next hclosed =>
        cases h
        exact ⟨hclosed, .rest (by simp)⟩
      · cases h
    | cons d rest => cases h
  | cons field fields ih =>
    cases items with
    | nil =>
      simp only [recordItems] at h
      split at h
      · cases h
      · next hclosed =>
        split at h
        · next hdefaulted =>
          cases h
          exact ⟨by simpa using hclosed, .rest (by simpa using hdefaulted)⟩
        · cases h
    | cons d rest =>
      simp only [recordItems] at h
      split at h
      · next set hread =>
        obtain ⟨hclosed, hrest⟩ := ih h
        exact ⟨hclosed, .take hread hrest⟩
      · cases h

/-- The part of a record that one field sets holds what the item of this field reads as, or what it
held before where there is no such item. -/
lemma ItemsRead.get_eq {name : String} {reader : Reader α} {get : σ → α} {items : List Draft}
    {r' : σ} (h : ItemsRead depth fields r items r') (hnames : (fields.map (·.name)).Nodup)
    (hown : ∀ f ∈ fields, f.name = name → ∀ depth d set, f.read depth d = .ok set →
      ∀ r, reader depth d = .ok (get (set r)))
    (hframe : ∀ f ∈ fields, f.name ≠ name → Keeps f get) :
    (∀ x, (name, x) ∈ (fields.map (·.name)).zip items → reader depth x = .ok (get r')) ∧
      ((∀ x, (name, x) ∉ (fields.map (·.name)).zip items) → get r' = get r) := by
  induction h with
  | rest => simp
  | @take field fields r r' d items set hread h ih =>
    obtain ⟨hunique, hnames⟩ := List.nodup_cons.1 hnames
    obtain ⟨hownField, hown⟩ := List.forall_mem_cons.1 hown
    obtain ⟨hframeField, hframe⟩ := List.forall_mem_cons.1 hframe
    obtain ⟨hitem, hno⟩ := ih hnames hown hframe
    simp only [List.map_cons, List.zip_cons_cons, List.mem_cons, Prod.mk.injEq]
    by_cases hname : field.name = name
    · subst hname
      have habsent : ∀ x, (field.name, x) ∉ (fields.map (·.name)).zip items := fun x hx =>
        hunique (List.of_mem_zip hx).1
      have hget : reader depth d = .ok (get r') := by
        rw [hno habsent]
        exact hownField rfl _ _ _ hread r
      simp [habsent, hget]
    · have hkeep : get (set r) = get r := hframeField hname _ _ _ hread r
      simp only [Ne.symm hname, false_and, false_or]
      exact ⟨hitem, fun habsent => (hno habsent).trans hkeep⟩

lemma ItemsRead.exists_item {items : List Draft} {r' : σ} (h : ItemsRead depth fields r items r')
    {f : RecordField σ} (hf : f ∈ fields) (hpresence : f.presence ≠ .defaulted) :
    ∃ x, (f.name, x) ∈ (fields.map (·.name)).zip items := by
  induction h with
  | rest hdefaulted => exact absurd (hdefaulted f hf) hpresence
  | @take field fields _ _ d _ _ _ _ ih =>
    rcases List.mem_cons.1 hf with rfl | hf
    · exact ⟨d, by simp⟩
    · obtain ⟨x, hx⟩ := ih hf
      exact ⟨x, by simp [hx]⟩

lemma ItemsRead.length_le {items : List Draft} {r' : σ} (h : ItemsRead depth fields r items r') :
    items.length ≤ fields.length := by
  induction h with
  | rest => simp
  | take _ _ ih => simpa using ih

lemma recordItems_of_itemsRead {items : List Draft} {r' : σ}
    (h : ItemsRead depth fields r items r') : recordItems depth true r fields items = .ok r' := by
  induction h with
  | @rest fields _ hdefaulted =>
    cases fields with
    | nil => rfl
    | cons => simpa [recordItems] using hdefaulted
  | take hread _ ih => simp [recordItems, hread, ih]

/-- Items are read one after another, if each one is read into its field and only fields that may
be left out are. -/
lemma exists_itemsRead {items : List Draft} (hlength : items.length ≤ fields.length)
    (hnames : (fields.map (·.name)).Nodup)
    (hread : ∀ f ∈ fields, ∀ x, (f.name, x) ∈ (fields.map (·.name)).zip items →
      ∃ set, f.read depth x = .ok set)
    (hpresent : ∀ f ∈ fields, f.presence ≠ .defaulted →
      ∃ x, (f.name, x) ∈ (fields.map (·.name)).zip items) (r : σ) :
    ∃ r', ItemsRead depth fields r items r' := by
  induction items generalizing fields r with
  | nil =>
    have hdefaulted : ∀ f ∈ fields, f.presence = .defaulted := by simpa using hpresent
    exact ⟨r, .rest hdefaulted⟩
  | cons d rest ih =>
    cases fields with
    | nil => simp at hlength
    | cons field fields =>
      obtain ⟨hunique, hnames⟩ := List.nodup_cons.1 hnames
      have hzip : ∀ f ∈ fields, ∀ x, (f.name, x) ∈ (fields.map (·.name)).zip rest ↔
          (f.name, x) ∈ ((field :: fields).map (·.name)).zip (d :: rest) := by
        intro f hf x
        have hne : f.name ≠ field.name := fun he => hunique (List.mem_map.2 ⟨f, hf, he⟩)
        simp [hne]
      obtain ⟨set, hset⟩ := hread field List.mem_cons_self d (by simp)
      obtain ⟨r', hr'⟩ := ih (by simpa using hlength) hnames
        (fun f hf x hx => hread f (List.mem_cons_of_mem _ hf) x ((hzip f hf x).1 hx))
        (fun f hf hp => (hpresent f (List.mem_cons_of_mem _ hf) hp).imp fun x => (hzip f hf x).2)
        (set r)
      exact ⟨r', .take hset hr'⟩

/-! ### Records of either form -/

/-- A record is read from the members of a closed object or from the items of a closed list. -/
inductive RecordRead (fields : List (RecordField σ)) (depth : Nat) (blank : σ) : Draft → σ → Prop
  | object {members : List (Spelling × Draft)} {seen : List String} {r : σ}
    (h : MembersRead fields depth [] blank members seen r)
    (hrequired : ∀ f ∈ fields, f.presence = .required → f.name ∈ seen) :
    RecordRead fields depth blank (.object members true) r
  | list {items : List Draft} {r : σ} (h : ItemsRead depth fields blank items r) :
    RecordRead fields depth blank (.array items true) r

lemma recordRead_of_recordObject (h : recordObject fields blank depth d = .ok r) :
    ∃ inner members, depth = inner + 1 ∧ d = .object members true ∧
      RecordRead fields inner blank d r := by
  unfold recordObject at h
  split at h
  · next members closed =>
    split at h
    · cases h
    · next inner =>
      obtain ⟨⟨seen, r'⟩, hmembers, h⟩ := bind_ok_iff.1 h
      simp only at h
      split at h
      · cases h
      · next hclosed =>
        split at h
        · cases h
        · next hrequired =>
          cases h
          obtain rfl : closed = true := by simpa using hclosed
          exact ⟨inner, members, rfl, rfl,
            .object (recordMembers_ok_iff.1 hmembers) (by simpa using hrequired)⟩
  · cases h

lemma recordRead_of_record (h : record fields blank depth d = .ok r) :
    ∃ inner, depth = inner + 1 ∧ RecordRead fields inner blank d r := by
  unfold record at h
  split at h
  · split at h
    · cases h
    · next inner =>
      obtain ⟨hclosed, hitems⟩ := itemsRead_of_recordItems h
      cases hclosed
      exact ⟨inner, rfl, .list hitems⟩
  · obtain ⟨inner, -, hdepth, -, hread⟩ := recordRead_of_recordObject h
    exact ⟨inner, hdepth, hread⟩

/-- A record that can be read is read, if each part is and only fields that may be left out are. -/
theorem exists_record_of_readable (h : Readable (fields.map (·.name)) d)
    (hnames : (fields.map (·.name)).Nodup)
    (hread : ∀ f ∈ fields, ∀ x, Part (fields.map (·.name)) f.name d x →
      ∃ set, f.read depth x = .ok set)
    (hpresent : ∀ f ∈ fields, f.presence ≠ .defaulted → ∃ x, Part (fields.map (·.name)) f.name d x) :
    ∃ r, record fields blank (depth + 1) d = .ok r := by
  cases h with
  | object hlegible =>
    simp only [part_object_iff] at hread hpresent
    exact (exists_recordObject_iff hlegible hnames).2 fun f hf =>
      ⟨hread f hf, fun hp => hpresent f hf (by simp [hp])⟩
  | list hlength =>
    simp only [part_array_iff] at hread hpresent
    rw [List.length_map] at hlength
    obtain ⟨r, hr⟩ := exists_itemsRead hlength hnames hread hpresent blank
    exact ⟨r, recordItems_of_itemsRead hr⟩

/-- A record that is written as an object. -/
lemma recordObject_iff_record :
    recordObject fields blank depth d = .ok r ↔
      (∃ members, d = .object members true) ∧ record fields blank depth d = .ok r := by
  constructor
  · intro h
    obtain ⟨-, members, -, rfl, -⟩ := recordRead_of_recordObject h
    exact ⟨⟨members, rfl⟩, h⟩
  · rintro ⟨⟨members, rfl⟩, h⟩
    exact h

namespace RecordRead

variable {name : String} {reader : Reader α} {get : σ → α}

lemma readable (h : RecordRead fields depth blank d r) : Readable (fields.map (·.name)) d := by
  cases h with
  | object h => exact .object h.legible
  | list h => exact .list (by simpa using h.length_le)

lemma isRecord (h : RecordRead fields depth blank d r) : d.IsRecord :=
  h.readable.isRecord

/-- **The content of a slot** is read from what is written for its field, or blank where the record
leaves the field out. -/
theorem slot (h : RecordRead fields depth blank d r) (hslot : Slot fields name reader get)
    (hnames : (fields.map (·.name)).Nodup) :
    Gives (fields.map (·.name)) name (fun x => reader depth x = .ok (get r)) d ∨
      LeavesOut (fields.map (·.name)) name d ∧ get r = get blank := by
  by_cases hpart : ∃ x, Part (fields.map (·.name)) name d x
  · refine .inl ⟨hpart, fun x hx => ?_⟩
    cases h with
    | object h => exact h.read_of_isMember hslot (part_object_iff.1 hx)
    | list h => exact (h.get_eq hnames hslot.own hslot.frame).1 x (part_array_iff.1 hx)
  · rw [not_exists] at hpart
    refine .inr ⟨⟨h.isRecord, hpart⟩, ?_⟩
    cases h with
    | object h => exact h.get_of_absent hslot fun x hx => hpart x (.member hx)
    | list h => exact (h.get_eq hnames hslot.own hslot.frame).2 fun x hx => hpart x (.item hx)

lemma slot_of_part (h : RecordRead fields depth blank d r) (hslot : Slot fields name reader get)
    (hnames : (fields.map (·.name)).Nodup) {x : Draft} (hx : Part (fields.map (·.name)) name d x) :
    reader depth x = .ok (get r) := by
  rcases h.slot hslot hnames with hgives | ⟨hout, -⟩
  · exact hgives.all x hx
  · exact absurd hx (hout.absent x)

/-- A required field is not left out. -/
lemma slot_of_required (h : RecordRead fields depth blank d r) (hslot : Slot fields name reader get)
    (hnames : (fields.map (·.name)).Nodup)
    (hrequired : ∃ f ∈ fields, f.name = name ∧ f.presence = .required) :
    Gives (fields.map (·.name)) name (fun x => reader depth x = .ok (get r)) d := by
  refine (h.slot hslot hnames).resolve_right fun ⟨hout, _⟩ => ?_
  obtain ⟨f, hf, rfl, hpresence⟩ := hrequired
  cases h with
  | object h hseen =>
    have hmem := (h.mem_seen_iff ⟨f, hf, rfl⟩).1 (hseen f hf hpresence)
    obtain ⟨x, hx⟩ := hmem.resolve_left List.not_mem_nil
    exact hout.absent x (.member hx)
  | list h =>
    obtain ⟨x, hx⟩ := h.exists_item hf (by simp [hpresence])
    exact hout.absent x (.item hx)

/-- What a slot holds is what is given for its field. -/
lemma givenOr (h : RecordRead fields depth blank d r) (hslot : Slot fields name reader get)
    (hnames : (fields.map (·.name)).Nodup) {Writes : Draft → α → Prop}
    (hwrites : ∀ x a, reader depth x = .ok a → Writes x a) :
    GivenOr (fields.map (·.name)) name Writes (get blank) d (get r) :=
  (h.slot hslot hnames).imp (·.imp fun x => hwrites x _) id

lemma get_eq_of_givenOr (h : RecordRead fields depth blank d r)
    (hslot : Slot fields name reader get) (hnames : (fields.map (·.name)).Nodup)
    {Writes : Draft → α → Prop} {a : α}
    (hgiven : GivenOr (fields.map (·.name)) name Writes (get blank) d a)
    (hread : ∀ x, Part (fields.map (·.name)) name d x → Writes x a → reader depth x = .ok a) :
    get r = a := by
  rcases hgiven with hgives | ⟨hout, rfl⟩
  · obtain ⟨x, hx⟩ := hgives.present
    exact Except.ok.inj ((h.slot_of_part hslot hnames hx).symm.trans (hread x hx (hgives.all x hx)))
  · rcases h.slot hslot hnames with hgives | ⟨-, hget⟩
    · obtain ⟨x, hx⟩ := hgives.present
      exact absurd hx (hout.absent x)
    · exact hget

end RecordRead

end Reader

/-! ### Objects that hold given parts -/

namespace Draft

/-- The members under these names, in their order. -/
def knownMembers (names : List String) (members : List (Spelling × Draft)) :
    List (String × Draft) :=
  members.filterMap fun m =>
    m.1.text?.bind fun name => if name ∈ names then some (name, m.2) else none

/-- An object that holds these parts under the names, in any order, and any other members. -/
inductive ObjectWith (names : List String) (parts : List (String × Draft)) : Draft → Prop where
  | mk {members : List (Spelling × Draft)} (h : (knownMembers names members).Perm parts) :
    ObjectWith names parts (.object members true)

variable {names : List String} {parts : List (String × Draft)} {name : String} {d x : Draft}
  {depth : Nat} {members : List (Spelling × Draft)}

lemma mem_knownMembers_iff :
    (name, x) ∈ knownMembers names members ↔ name ∈ names ∧ IsMember members name x := by
  simp only [knownMembers, List.mem_filterMap, Option.bind_eq_some_iff]
  constructor
  · rintro ⟨⟨s, d⟩, hm, n, hn, h⟩
    split at h
    · next hmem =>
      cases h
      exact ⟨hmem, s, hm, hn⟩
    · cases h
  · rintro ⟨hmem, s, hm, hs⟩
    exact ⟨(s, x), hm, name, hs, by rw [if_pos hmem]⟩

lemma ObjectWith.part_iff (h : d.ObjectWith names parts) (hname : name ∈ names) :
    Part names name d x ↔ (name, x) ∈ parts := by
  obtain ⟨hperm⟩ := h
  rw [part_object_iff, ← hperm.mem_iff, mem_knownMembers_iff]
  exact (and_iff_right hname).symm

/-- What is in an object has a value, one level further down. -/
lemma isSome_value?_member {closed : Bool}
    (h : ((Draft.object members closed).value? (depth + 1)).isSome) :
    ∀ m ∈ members, (∃ name, m.1.text? = some name) ∧ (m.2.value? depth).isSome := by
  obtain ⟨v, hv⟩ := Option.isSome_iff_exists.1 h
  cases spells_of_value? hv with
  | object hentries =>
    intro m hm
    obtain ⟨e, -, hname, hvalue⟩ := exists_right_of_forall₂ hentries m hm
    exact ⟨⟨_, hname⟩, Option.isSome_iff_exists.2 ⟨_, hvalue⟩⟩

lemma isSome_value?_item {items : List Draft} {closed : Bool}
    (h : ((Draft.array items closed).value? (depth + 1)).isSome) :
    ∀ x ∈ items, (x.value? depth).isSome := by
  obtain ⟨v, hv⟩ := Option.isSome_iff_exists.1 h
  cases spells_of_value? hv with
  | array hitems =>
    intro x hx
    obtain ⟨w, -, hw⟩ := exists_right_of_forall₂ hitems x hx
    exact Option.isSome_iff_exists.2 ⟨w, hw⟩

/-- A record that has a value lies above the limit. -/
lemma IsRecord.exists_depth (h : d.IsRecord) (hvalue : (d.value? depth).isSome) :
    ∃ inner, depth = inner + 1 := by
  cases depth with
  | zero => cases h <;> simp [value?] at hvalue
  | succ inner => exact ⟨inner, rfl⟩

/-- What is written for a field has a value, one level further down. -/
lemma isSome_value?_part (hvalue : (d.value? (depth + 1)).isSome) (hx : Part names name d x) :
    (x.value? depth).isSome := by
  cases hx with
  | member h =>
    obtain ⟨s, hs, -⟩ := h
    exact (isSome_value?_member hvalue _ hs).2
  | item h => exact isSome_value?_item hvalue x (List.of_mem_zip h).2

lemma ObjectWith.isSome_value? (h : d.ObjectWith names parts)
    (hvalue : (d.value? (depth + 1)).isSome) {part : String × Draft} (hpart : part ∈ parts) :
    (part.2.value? depth).isSome := by
  obtain ⟨hperm⟩ := h
  obtain ⟨-, s, hm, -⟩ := mem_knownMembers_iff.1 (hperm.mem_iff.2 hpart)
  exact (isSome_value?_member hvalue _ hm).2

/-- An object that holds parts of distinct names is legible. -/
lemma legible_of_perm (hperm : (knownMembers names members).Perm parts)
    (hvalue : ((Draft.object members true).value? (depth + 1)).isSome)
    (hparts : (parts.map Prod.fst).Nodup) : Legible names members where
  named m hm := by
    obtain ⟨⟨name, hname⟩, hv⟩ := isSome_value?_member hvalue m hm
    obtain ⟨v, hv⟩ := Option.isSome_iff_exists.1 hv
    exact ⟨name, hname, fun _ => isWhole_of_value? hv⟩
  once := by
    have hnodup : ((knownMembers names members).map Prod.fst).Nodup :=
      (hperm.map Prod.fst).nodup_iff.2 hparts
    rw [List.Nodup, List.pairwise_map, knownMembers, List.pairwise_filterMap] at hnodup
    refine hnodup.imp fun {m m'} hne name hmem hm hm' => ?_
    exact hne (name, m.2) (by simp [hm, hmem]) (name, m'.2) (by simp [hm', hmem]) rfl

end Draft

namespace Reader

variable {σ α : Type} {fields : List (RecordField σ)} {depth : Nat} {blank r : σ} {d x : Draft}
  {parts : List (String × Draft)}

/-- **An object that holds parts is read**, if each part is and no required one is missing. -/
theorem exists_recordRead_of_objectWith (h : d.ObjectWith (fields.map (·.name)) parts)
    (hvalue : (d.value? (depth + 1)).isSome) (hnames : (fields.map (·.name)).Nodup)
    (hnodup : (parts.map Prod.fst).Nodup)
    (hread : ∀ f ∈ fields, ∀ x, (f.name, x) ∈ parts → ∃ set, f.read depth x = .ok set)
    (hrequired : ∀ f ∈ fields, f.presence = .required → ∃ x, (f.name, x) ∈ parts) :
    ∃ r, recordObject fields blank (depth + 1) d = .ok r ∧ RecordRead fields depth blank d r := by
  have hpart : ∀ f ∈ fields, ∀ x,
      Part (fields.map (·.name)) f.name d x ↔ (f.name, x) ∈ parts := fun f hf x =>
    h.part_iff (List.mem_map_of_mem hf)
  cases h with
  | @mk members hperm =>
  simp only [part_object_iff] at hpart
  have hparts : ∀ f ∈ fields,
      (∀ x, IsMember members f.name x → ∃ set, f.read depth x = .ok set) ∧
      (f.presence = .required → ∃ x, IsMember members f.name x) := by
    intro f hf
    refine ⟨fun x hx => hread f hf x ((hpart f hf x).1 hx), fun hpresence => ?_⟩
    obtain ⟨x, hx⟩ := hrequired f hf hpresence
    exact ⟨x, (hpart f hf x).2 hx⟩
  obtain ⟨r, hr⟩ : ∃ r, recordObject fields blank (depth + 1) _ = .ok r :=
    (exists_recordObject_iff (legible_of_perm hperm hvalue hnodup) hnames).2 hparts
  obtain ⟨inner, -, hdepth, -, hr'⟩ := recordRead_of_recordObject hr
  cases hdepth
  exact ⟨r, hr, hr'⟩

namespace RecordRead

variable {name : String} {reader : Reader α} {get : σ → α}

lemma slot_of_mem (h : RecordRead fields depth blank d r) (hslot : Slot fields name reader get)
    (hnames : (fields.map (·.name)).Nodup) (hd : d.ObjectWith (fields.map (·.name)) parts)
    (hx : (name, x) ∈ parts) : reader depth x = .ok (get r) := by
  obtain ⟨f, hf, rfl⟩ := hslot.known
  exact h.slot_of_part hslot hnames ((hd.part_iff (List.mem_map_of_mem hf)).2 hx)

lemma slot_of_notMem (h : RecordRead fields depth blank d r) (hslot : Slot fields name reader get)
    (hnames : (fields.map (·.name)).Nodup) (hd : d.ObjectWith (fields.map (·.name)) parts)
    (hx : ∀ x, (name, x) ∉ parts) : get r = get blank := by
  obtain ⟨f, hf, rfl⟩ := hslot.known
  rcases h.slot hslot hnames with hgives | ⟨-, hget⟩
  · obtain ⟨x, hpart⟩ := hgives.present
    exact absurd ((hd.part_iff (List.mem_map_of_mem hf)).1 hpart) (hx x)
  · exact hget

end RecordRead

/-! ### Readings at any depth -/

/-- This is read from a draft that lies within the limits, however deep it lies. -/
def Reads (reader : Reader α) (x : Draft) (a : α) : Prop :=
  ∀ depth, (x.value? depth).isSome → reader depth x = .ok a

variable {names : List String}

/-- What is an object is not read as a list. -/
lemma record_of_objectWith (fields : List (RecordField σ)) (blank : σ)
    (h : d.ObjectWith names parts) :
    record fields blank depth d = recordObject fields blank depth d := by
  cases h
  rfl

lemma ne_null_of_objectWith (h : d.ObjectWith names parts) : d ≠ .null := by
  rintro rfl
  cases h

lemma exists_depth_of_objectWith (h : d.ObjectWith names parts)
    (hvalue : (d.value? depth).isSome) : ∃ inner, depth = inner + 1 := by
  cases h
  exact (IsRecord.object _).exists_depth hvalue

namespace Reads

variable {reader first second : Reader α} {a : α}

lemma optional (h : Reads reader x a) (hne : x ≠ .null) :
    Reads (Reader.optional reader) x (some a) := fun depth hvalue =>
  optional_ok_iff.2 (.inr ⟨hne, a, h depth hvalue, rfl⟩)

lemma list {items : List Draft} {values : List α} (h : List.Forall₂ (Reads reader) items values) :
    Reads (Reader.list reader) (.array items true) values := by
  intro depth hvalue
  cases depth with
  | zero => simp [value?] at hvalue
  | succ depth =>
    have hitems := isSome_value?_item hvalue
    clear hvalue
    refine list_ok_iff.2 ?_
    induction h with
    | nil => exact .nil
    | cons hread _ ih =>
      obtain ⟨hitem, hitems⟩ := List.forall_mem_cons.1 hitems
      exact .cons (hread depth hitem) (ih hitems)

lemma either_first (h : Reads first x a) : Reads (either first second) x a := by
  intro depth hvalue
  obtain ⟨v, hv⟩ := Option.isSome_iff_exists.1 hvalue
  simp only [either, hv, h depth hvalue]

lemma either_second (hfirst : ∀ depth b, first depth x ≠ .ok b) (h : Reads second x a) :
    Reads (either first second) x a := by
  intro depth hvalue
  obtain ⟨v, hv⟩ := Option.isSome_iff_exists.1 hvalue
  simp only [either, hv, h depth hvalue]
  split
  · next b hb => exact absurd hb (hfirst depth b)
  · rfl

/-- An object that holds the part for the only field of a record. -/
lemma recordObject_single {name : String} {presence : Presence} {put : α → σ → σ} {blank : σ}
    (hput : ∀ a r, put a r = put a blank) (hx : Reads reader x a)
    (h : d.ObjectWith [name] [(name, x)]) :
    Reads (recordObject [field name presence reader put] blank) d (put a blank) := by
  intro depth hvalue
  obtain ⟨depth, rfl⟩ := exists_depth_of_objectWith h hvalue
  have hread := hx depth (h.isSome_value? hvalue (List.mem_singleton.2 rfl))
  have hslot : Slot [field name presence reader put] name
      (fun depth d => (reader depth d).map fun a => put a blank) id := .head_map hput (by simp)
  obtain ⟨r, hr, hrecord⟩ := @exists_recordRead_of_objectWith _
    [field name presence reader put] depth blank _ _ h hvalue (by simp) (by simp)
    (by simpa [field] using ⟨a, hread⟩) (by simp [field])
  have hg := hrecord.slot_of_mem hslot (by simp) h (List.mem_singleton.2 rfl)
  rw [hread] at hg
  cases hg
  exact hr

lemma record_single {name : String} {presence : Presence} {put : α → σ → σ} {blank : σ}
    (hput : ∀ a r, put a r = put a blank) (hx : Reads reader x a)
    (h : d.ObjectWith [name] [(name, x)]) :
    Reads (record [field name presence reader put] blank) d (put a blank) := fun depth hvalue =>
  (record_of_objectWith _ blank h).trans (recordObject_single hput hx h depth hvalue)

end Reads

end Reader

end HostFacets.Json
