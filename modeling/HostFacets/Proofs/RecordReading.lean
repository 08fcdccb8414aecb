import HostFacets.Proofs.DraftValue

/-!
What a record takes from an object.

Members of unknown names are passed over, the others are read one after another, each name once. A
slot is a part of the record that one field sets and all others leave alone: in the end it holds
what the member of that name reads as, or what it held before.
-/

namespace HostFacets.Json

open Draft

namespace Reader

variable {σ α : Type} {fields : List (RecordField σ)} {depth : Nat}

/-! ### One member after another -/

/-- The members of an object, read from left to right into a record. -/
inductive MembersRead (fields : List (RecordField σ)) (depth : Nat) :
    List String → σ → List (Spelling × Draft) → List String → σ → Prop where
  | done {seen : List String} {r : σ} : MembersRead fields depth seen r [] seen r
  | skip {seen seen' : List String} {r r' : σ} {s : Spelling} {d : Draft}
    {rest : List (Spelling × Draft)} {name : String} (hname : s.text? = some name)
    (hfield : fields.find? (·.name == name) = none) (hwhole : d.isWhole)
    (h : MembersRead fields depth seen r rest seen' r') :
    MembersRead fields depth seen r ((s, d) :: rest) seen' r'
  | take {seen seen' : List String} {r r' : σ} {s : Spelling} {d : Draft}
    {rest : List (Spelling × Draft)} {name : String} {field : RecordField σ} {set : σ → σ}
    (hname : s.text? = some name) (hfield : fields.find? (·.name == name) = some field)
    (hunseen : name ∉ seen) (hread : field.read depth d = .ok set)
    (h : MembersRead fields depth (name :: seen) (set r) rest seen' r') :
    MembersRead fields depth seen r ((s, d) :: rest) seen' r'

lemma recordMembers_ok_iff {seen seen' : List String} {r r' : σ}
    {members : List (Spelling × Draft)} :
    recordMembers fields depth seen r members = .ok (seen', r') ↔
      MembersRead fields depth seen r members seen' r' := by
  constructor
  · intro h
    induction members generalizing seen r with
    | nil =>
      cases h
      exact .done
    | cons m rest ih =>
      obtain ⟨s, d⟩ := m
      simp only [recordMembers] at h
      split at h
      · cases h
      · next name hname =>
        split at h
        · next hfield =>
          split at h
          · next hwhole => exact .skip hname hfield hwhole (ih h)
          · cases h
        · next field hfield =>
          split at h
          · cases h
          · next hunseen =>
            split at h
            · next set hread => exact .take hname hfield (by simpa using hunseen) hread (ih h)
            · cases h
  · intro h
    induction h with
    | done => rfl
    | skip hname hfield hwhole _ ih => simp [recordMembers, hname, hfield, hwhole, ih]
    | take hname hfield hunseen hread _ ih =>
      simp [recordMembers, hname, hfield, hunseen, hread, ih]

/-- A record is read from a closed object that has all required members. -/
lemma recordObject_ok_iff {blank r : σ} {members : List (Spelling × Draft)} :
    recordObject fields blank (depth + 1) (.object members true) = .ok r ↔
      ∃ seen, MembersRead fields depth [] blank members seen r ∧
        ∀ f ∈ fields, f.presence = .required → f.name ∈ seen := by
  simp only [recordObject, bind_ok_iff, ← recordMembers_ok_iff]
  constructor
  · rintro ⟨⟨seen, r'⟩, hmembers, h⟩
    simp only [Bool.not_true, Bool.false_eq_true, if_false] at h
    split at h
    · cases h
    · next hrequired =>
      cases h
      exact ⟨seen, hmembers, by simpa using hrequired⟩
  · rintro ⟨seen, hmembers, hrequired⟩
    refine ⟨(seen, r), hmembers, ?_⟩
    simpa using hrequired

/-! ### Slots -/

/-- Reading this field leaves a part of the record as it was. -/
def Keeps (f : RecordField σ) (get : σ → α) : Prop :=
  ∀ depth d set, f.read depth d = .ok set → ∀ r, get (set r) = get r

/-- A part of the record that the field of this name sets, and no other. -/
structure Slot (fields : List (RecordField σ)) (name : String) (reader : Reader α) (get : σ → α) :
    Prop where
  known : ∃ f ∈ fields, f.name = name
  own : ∀ f ∈ fields, f.name = name → ∀ depth d set, f.read depth d = .ok set →
    ∀ r, reader depth d = .ok (get (set r))
  frame : ∀ f ∈ fields, f.name ≠ name → Keeps f get

lemma keeps_field {β : Type} {name : String} {presence : Presence} {reader : Reader β}
    {set : β → σ → σ} {get : σ → α} (h : ∀ b r, get (set b r) = get r) :
    Keeps (field name presence reader set) get := by
  intro depth d g hg
  obtain ⟨b, -, rfl⟩ := map_ok_iff.1 hg
  exact h b

namespace Slot

variable {name : String} {presence : Presence} {reader : Reader α} {set : α → σ → σ} {get : σ → α}

/-- A field at the head of the list, of whose value `g` is kept. -/
lemma head_map {β : Type} {read : Reader β} {g : β → α} {put : β → σ → σ}
    (hput : ∀ b r, get (put b r) = g b) (hrest : ∀ f ∈ fields, f.name ≠ name ∧ Keeps f get) :
    Slot (field name presence read put :: fields) name (fun depth d => (read depth d).map g)
      get where
  known := ⟨_, List.mem_cons_self, rfl⟩
  own := by
    refine List.forall_mem_cons.2 ⟨fun _ depth d set hset r => ?_, fun f hf hname => ?_⟩
    · obtain ⟨b, hb, rfl⟩ := map_ok_iff.1 hset
      rw [hput]
      exact map_ok_iff.2 ⟨b, hb, rfl⟩
    · exact absurd hname (hrest f hf).1
  frame := List.forall_mem_cons.2 ⟨fun hne => absurd rfl hne, fun f hf _ => (hrest f hf).2⟩

lemma head (hset : ∀ a r, get (set a r) = a) (hrest : ∀ f ∈ fields, f.name ≠ name ∧ Keeps f get) :
    Slot (field name presence reader set :: fields) name reader get := by
  simpa [Except.map_id] using @head_map _ _ fields name presence get _ reader id set hset hrest

lemma tail {f : RecordField σ} (hname : f.name ≠ name) (hkeeps : Keeps f get)
    (h : Slot fields name reader get) : Slot (f :: fields) name reader get where
  known := by
    obtain ⟨g, hg, hgname⟩ := h.known
    exact ⟨g, List.mem_cons_of_mem _ hg, hgname⟩
  own := List.forall_mem_cons.2 ⟨fun h => absurd h hname, h.own⟩
  frame := List.forall_mem_cons.2 ⟨fun _ => hkeeps, h.frame⟩

end Slot

lemma name_of_find? {name : String} {f : RecordField σ}
    (h : fields.find? (·.name == name) = some f) : f ∈ fields ∧ f.name = name :=
  ⟨List.mem_of_find?_eq_some h, by simpa using List.find?_some h⟩

lemma notMem_names_of_find? {name : String} (h : fields.find? (·.name == name) = none) :
    name ∉ fields.map (·.name) := by
  intro hmem
  obtain ⟨f, hf, rfl⟩ := List.mem_map.1 hmem
  simpa using List.find?_eq_none.1 h f hf

/-- A member that is passed over is none of the known ones. -/
lemma isMember_skip_iff {s : Spelling} {d x : Draft} {rest : List (Spelling × Draft)}
    {skipped name : String} (hskipped : s.text? = some skipped)
    (hfield : fields.find? (·.name == skipped) = none) (hknown : ∃ f ∈ fields, f.name = name) :
    IsMember ((s, d) :: rest) name x ↔ IsMember rest name x := by
  rw [isMember_cons_iff, or_iff_right]
  rintro ⟨-, hs⟩
  obtain ⟨f, hf, rfl⟩ := hknown
  cases hskipped.symm.trans hs
  exact notMem_names_of_find? hfield (List.mem_map_of_mem hf)

namespace MembersRead

variable {seen seen' : List String} {r r' : σ} {members : List (Spelling × Draft)} {name : String}

/-- A field that has been read does not come again. -/
lemma not_isMember_of_mem (h : MembersRead fields depth seen r members seen' r')
    (hknown : ∃ f ∈ fields, f.name = name) (hseen : name ∈ seen) (d : Draft) :
    ¬ IsMember members name d := by
  induction h with
  | done => simp [IsMember]
  | skip hname hfield _ _ ih =>
    rw [isMember_skip_iff hname hfield hknown]
    exact ih hseen
  | take hname _ hunseen _ _ ih =>
    rw [isMember_cons_iff]
    rintro (⟨-, hs⟩ | hd)
    · cases hname.symm.trans hs
      exact hunseen hseen
    · exact ih (List.mem_cons_of_mem _ hseen) hd

/-- A slot keeps its content where its field is left out. -/
lemma get_of_absent {reader : Reader α} {get : σ → α} (hslot : Slot fields name reader get)
    (h : MembersRead fields depth seen r members seen' r')
    (habsent : ∀ d, ¬ IsMember members name d) : get r' = get r := by
  induction h with
  | done => rfl
  | skip _ _ _ _ ih => exact ih fun d hd => habsent d (isMember_cons_iff.2 (.inr hd))
  | take hname hfield _ hread _ ih =>
    obtain ⟨hf, rfl⟩ := name_of_find? hfield
    rw [ih fun d hd => habsent d (isMember_cons_iff.2 (.inr hd))]
    refine hslot.frame _ hf ?_ _ _ _ hread _
    rintro rfl
    exact habsent _ (isMember_cons_iff.2 (.inl ⟨rfl, hname⟩))

/-- A slot holds in the end what its member reads as. -/
lemma read_of_isMember {reader : Reader α} {get : σ → α} (hslot : Slot fields name reader get)
    (h : MembersRead fields depth seen r members seen' r') {d : Draft}
    (hd : IsMember members name d) : reader depth d = .ok (get r') := by
  induction h with
  | done => simp [IsMember] at hd
  | skip hname hfield _ _ ih =>
    exact ih ((isMember_skip_iff hname hfield hslot.known).1 hd)
  | take hname hfield _ hread h ih =>
    rcases isMember_cons_iff.1 hd with ⟨rfl, hs⟩ | hd
    · -- it is read here, and not set again
      cases hname.symm.trans hs
      obtain ⟨hf, hfname⟩ := name_of_find? hfield
      have hrest := h.not_isMember_of_mem hslot.known List.mem_cons_self
      rw [h.get_of_absent hslot hrest]
      exact hslot.own _ hf hfname _ _ _ hread _
    · exact ih hd

/-- The fields that have been read are those that were before and the members. -/
lemma mem_seen_iff (h : MembersRead fields depth seen r members seen' r')
    (hknown : ∃ f ∈ fields, f.name = name) :
    name ∈ seen' ↔ name ∈ seen ∨ ∃ d, IsMember members name d := by
  induction h with
  | done => simp [IsMember]
  | skip hname hfield _ _ ih =>
    simp only [ih, isMember_skip_iff hname hfield hknown]
  | @take _ _ _ _ _ d _ _ _ _ hname _ _ _ _ ih =>
    rw [ih, List.mem_cons]
    constructor
    · rintro ((rfl | hseen) | ⟨x, hx⟩)
      · exact .inr ⟨d, isMember_cons_iff.2 (.inl ⟨rfl, hname⟩)⟩
      · exact .inl hseen
      · exact .inr ⟨x, isMember_cons_iff.2 (.inr hx)⟩
    · rintro (hseen | ⟨x, hx⟩)
      · exact .inl (.inr hseen)
      · rcases isMember_cons_iff.1 hx with ⟨-, hs⟩ | hx
        · cases hname.symm.trans hs
          exact .inl (.inl rfl)
        · exact .inr ⟨x, hx⟩

lemma exists_read_of_isMember (h : MembersRead fields depth seen r members seen' r')
    (hnames : (fields.map (·.name)).Nodup) {f : RecordField σ} (hf : f ∈ fields) {d : Draft}
    (hd : IsMember members f.name d) : ∃ set, f.read depth d = .ok set := by
  induction h with
  | done => simp [IsMember] at hd
  | skip hname hfield _ _ ih =>
    exact ih ((isMember_skip_iff hname hfield ⟨f, hf, rfl⟩).1 hd)
  | take hname hfield _ hread _ ih =>
    rcases isMember_cons_iff.1 hd with ⟨rfl, hs⟩ | hd
    · cases hname.symm.trans hs
      obtain ⟨hg, hgname⟩ := name_of_find? hfield
      cases List.inj_on_of_nodup_map hnames hf hg hgname.symm
      exact ⟨_, hread⟩
    · exact ih hd

/-- What is read is legible. -/
lemma legible (h : MembersRead fields depth seen r members seen' r') :
    Legible (fields.map (·.name)) members := by
  induction h with
  | done => exact ⟨by simp, .nil⟩
  | @skip _ _ _ _ _ _ _ name hname hfield hwhole _ ih =>
    refine ⟨List.forall_mem_cons.2 ⟨⟨name, hname, fun _ => hwhole⟩, ih.named⟩,
      .cons (fun _ _ n hn hs => ?_) ih.once⟩
    cases hname.symm.trans hs
    exact absurd hn (notMem_names_of_find? hfield)
  | take hname hfield _ _ h ih =>
    obtain ⟨hf, rfl⟩ := name_of_find? hfield
    refine ⟨List.forall_mem_cons.2 ⟨⟨_, hname, fun hn => ?_⟩, ih.named⟩,
      .cons (fun m hm n _ hs hs' => ?_) ih.once⟩
    · exact absurd (List.mem_map_of_mem hf) hn
    · cases hname.symm.trans hs
      exact h.not_isMember_of_mem ⟨_, hf, rfl⟩ List.mem_cons_self _ ⟨_, hm, hs'⟩

end MembersRead

/-- Legible members are read, if each known one is. -/
lemma exists_membersRead {members : List (Spelling × Draft)}
    (hlegible : Legible (fields.map (·.name)) members)
    (hread : ∀ f ∈ fields, ∀ d, IsMember members f.name d → ∃ set, f.read depth d = .ok set)
    {seen : List String} (hunseen : ∀ name ∈ seen, ∀ d, ¬ IsMember members name d) (r : σ) :
    ∃ seen' r', MembersRead fields depth seen r members seen' r' := by
  induction members generalizing seen r with
  | nil => exact ⟨seen, r, .done⟩
  | cons m rest ih =>
    obtain ⟨s, d⟩ := m
    obtain ⟨hnamed, honce⟩ := hlegible
    obtain ⟨⟨name, hname, hother⟩, hnamed⟩ := List.forall_mem_cons.1 hnamed
    obtain ⟨hfirst, honce⟩ := List.pairwise_cons.1 honce
    have hrest : ∀ {n x}, IsMember rest n x → IsMember ((s, d) :: rest) n x := fun h =>
      isMember_cons_iff.2 (.inr h)
    have hhead : IsMember ((s, d) :: rest) name d := isMember_cons_iff.2 (.inl ⟨rfl, hname⟩)
    have ih := @ih ⟨hnamed, honce⟩ fun f hf x hx => hread f hf x (hrest hx)
    cases hfield : fields.find? (·.name == name) with
    | none =>
      obtain ⟨seen', r', h⟩ := @ih seen (fun n hn x hx => hunseen n hn x (hrest hx)) r
      exact ⟨seen', r', .skip hname hfield (hother (notMem_names_of_find? hfield)) h⟩
    | some f =>
      obtain ⟨hf, rfl⟩ := name_of_find? hfield
      obtain ⟨set, hset⟩ := hread f hf d hhead
      have hunseen' : ∀ n ∈ f.name :: seen, ∀ x, ¬ IsMember rest n x := by
        refine List.forall_mem_cons.2 ⟨?_, fun n hn x hx => hunseen n hn x (hrest hx)⟩
        rintro x ⟨t, ht, htname⟩
        exact hfirst (t, x) ht f.name (List.mem_map_of_mem hf) hname htname
      obtain ⟨seen', r', h⟩ := ih hunseen' (set r)
      exact ⟨seen', r', .take hname hfield (fun hn => hunseen _ hn d hhead) hset h⟩

/-! ### Objects as records -/

variable {members : List (Spelling × Draft)} {blank r : σ}

/-- **An object is read as a record exactly if every known member is read and no required one is
missing.** -/
theorem exists_recordObject_iff (hlegible : Legible (fields.map (·.name)) members)
    (hnames : (fields.map (·.name)).Nodup) :
    (∃ r, recordObject fields blank (depth + 1) (.object members true) = .ok r) ↔
      ∀ f ∈ fields, (∀ d, IsMember members f.name d → ∃ set, f.read depth d = .ok set) ∧
        (f.presence = .required → ∃ d, IsMember members f.name d) := by
  simp only [recordObject_ok_iff]
  constructor
  · rintro ⟨r, seen, h, hrequired⟩ f hf
    refine ⟨fun d hd => h.exists_read_of_isMember hnames hf hd, fun hp => ?_⟩
    have hseen := (h.mem_seen_iff ⟨f, hf, rfl⟩).1 (hrequired f hf hp)
    exact hseen.resolve_left List.not_mem_nil
  · intro h
    have hunseen : ∀ name ∈ ([] : List String), ∀ d, ¬ IsMember members name d := by simp
    obtain ⟨seen, r, hread⟩ := exists_membersRead hlegible (fun f hf => (h f hf).1) hunseen blank
    refine ⟨r, seen, hread, fun f hf hp => ?_⟩
    exact (hread.mem_seen_iff ⟨f, hf, rfl⟩).2 (.inr ((h f hf).2 hp))

/-- The slot of a member holds what the member reads as. -/
lemma read_slot {name : String} {reader : Reader α} {get : σ → α}
    (hslot : Slot fields name reader get)
    (h : recordObject fields blank (depth + 1) (.object members true) = .ok r) {d : Draft}
    (hd : IsMember members name d) : reader depth d = .ok (get r) := by
  obtain ⟨seen, hread, -⟩ := recordObject_ok_iff.1 h
  exact hread.read_of_isMember hslot hd

/-! ### Other values -/

/-- Only a string is read as a text. -/
lemma text_ok_iff {d : Draft} {v : Json} (h : Denotes depth d v) {s : String} :
    text depth d = .ok s ↔ v = .str s := by
  cases spells_of_value? h.spelled with
  | string hs => simp [text, hs]
  | _ => simp [text]

lemma list_ok_iff {reader : Reader α} {items : List Draft} {values : List α} :
    list reader (depth + 1) (.array items true) = .ok values ↔
      List.Forall₂ (fun d a => reader depth d = .ok a) items values := by
  simp [list, bind_ok_iff, mapM_ok_iff]

/-- A value that may be null is null, or read as it stands. -/
lemma optional_ok_iff {reader : Reader α} {d : Draft} {o : Option α} :
    optional reader depth d = .ok o ↔
      d = .null ∧ o = none ∨ d ≠ .null ∧ ∃ a, reader depth d = .ok a ∧ o = some a := by
  unfold optional
  split
  · simp [eq_comm]
  · next hnull =>
    have hne : d ≠ .null := hnull
    rw [map_ok_iff]
    simp [hne, eq_comm]

lemma exists_of_optional {reader : Reader α} {d : Draft} {o : Option α}
    (h : optional reader depth d = .ok o) (hne : d ≠ .null) :
    ∃ a, reader depth d = .ok a ∧ o = some a :=
  ((optional_ok_iff.1 h).resolve_left fun hnull => hne hnull.1).2

/-- A list is read from a closed array, item by item. -/
lemma array_of_list {reader : Reader α} {d : Draft} {values : List α}
    (h : list reader depth d = .ok values) :
    ∃ inner items, depth = inner + 1 ∧ d = .array items true ∧
      List.Forall₂ (fun d a => reader inner d = .ok a) items values := by
  unfold list at h
  split at h
  · next items closed =>
    split at h
    · cases h
    · next inner =>
      obtain ⟨values', hvalues, h⟩ := bind_ok_iff.1 h
      split at h
      · next hclosed =>
        cases h
        cases hclosed
        exact ⟨inner, items, rfl, rfl, mapM_ok_iff.1 hvalues⟩
      · cases h
  · cases h

lemma exists_of_list {reader : Reader α} {items : List Draft} {closed : Bool} {values : List α}
    (h : list reader depth (.array items closed) = .ok values) :
    ∃ inner, depth = inner + 1 ∧ List.Forall₂ (fun d a => reader inner d = .ok a) items values := by
  obtain ⟨inner, items', hdepth, hitems, hread⟩ := array_of_list h
  cases hitems
  exact ⟨inner, hdepth, hread⟩

/-- A value is read by the first alternative, or by the second if the first does not fit. -/
lemma either_iff {first second : Reader α} {d : Draft} {a : α} :
    either first second depth d = .ok a ↔ (d.value? depth).isSome ∧
      (first depth d = .ok a ∨ (∀ b, first depth d ≠ .ok b) ∧ second depth d = .ok a) := by
  unfold either
  cases d.value? depth with
  | none => simp
  | some v =>
    cases first depth d with
    | ok b => simp
    | error _ => cases second depth d <;> simp

/-- What is read is read by one of the alternatives. -/
lemma either_ok {first second : Reader α} {d : Draft} {a : α}
    (h : either first second depth d = .ok a) : first depth d = .ok a ∨ second depth d = .ok a := by
  unfold either at h
  split at h
  · cases h
  · split at h
    · next hfirst =>
      cases h
      exact .inl hfirst
    · split at h
      · next hsecond =>
        cases h
        exact .inr hsecond
      · cases h

/-- The first alternative is taken where the second does not fit. -/
lemma either_ok_iff {first second : Reader α} {d : Draft} {v : Json} (h : Denotes depth d v)
    (hsecond : ∀ a, second depth d ≠ .ok a) {a : α} :
    either first second depth d = .ok a ↔ first depth d = .ok a := by
  simp only [either, h.spelled]
  cases hf : first depth d with
  | ok b => simp
  | error _ =>
    cases hs : second depth d with
    | ok b => exact absurd hs (hsecond b)
    | error _ => simp

/-! ### Texts -/

lemma whole_ok_iff {reader : Reader α} {t : String} {a : α} :
    whole reader t = .ok a ↔
      reader maxDepth (Draft.ofText t).1 = .ok a ∧ (Draft.ofText t).2 := by
  simp only [whole, bind_ok_iff]
  constructor
  · rintro ⟨b, hb, h⟩
    split at h
    · next halone =>
      cases h
      exact ⟨hb, halone⟩
    · cases h
  · rintro ⟨ha, halone⟩
    exact ⟨a, ha, by rw [if_pos halone]⟩

end Reader

lemma parse?_eq_some_iff {t : String} {v : Json} :
    parse? t = some v ↔ (Draft.ofText t).1.value? maxDepth = some v ∧ (Draft.ofText t).2 := by
  have hvalue : ∀ d : Draft, Reader.value maxDepth d = .ok v ↔ d.value? maxDepth = some v := by
    intro d
    simp only [Reader.value]
    split <;> simp [*]
  rw [← hvalue, ← Reader.whole_ok_iff, parse?]
  cases Reader.value.whole t <;> simp [Except.toOption]

end HostFacets.Json
