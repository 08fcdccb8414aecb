import HostFacets.Proofs.Overflow
import HostFacets.Proofs.ResponseParts

/-!
The forms of a refusal.

The text of a refusal is an envelope around an object, an envelope around a string, or neither; in
the last case the whole text is the reason. Root causes come from an object alone, every one of them
and in their order, so no wording of a reason is mistaken for an overflow.
-/

namespace HostFacets.Search

open Json Json.Draft Json.Reader

/-! ### What is written -/

def causeNames : List String := ["type", "reason"]

def errorNames : List String := ["root_cause", "reason"]

/-- A root cause is written: its type and its reason are texts, or left out and empty. -/
structure CauseWritten (x : Draft) (c : RootCause) : Prop where
  readable : Readable causeNames x
  kind : GivenOr causeNames "type" WritesText "" x c.kind
  reason : GivenOr causeNames "reason" WritesText "" x c.reason

/-- A list of root causes is written, one element for each. -/
inductive CausesWritten : Draft → List RootCause → Prop where
  | mk {items : List Draft} {causes : List RootCause}
    (h : List.Forall₂ CauseWritten items causes) : CausesWritten (.array items true) causes

/-- An error is written as an object: its root causes are a list and its reason is a text, or they
are left out and empty. -/
structure ErrorWritten (x : Draft) (f : Failure) : Prop where
  object : ∃ members, x = .object members true
  readable : Readable errorNames x
  rootCauses : GivenOr errorNames "root_cause" CausesWritten [] x f.rootCauses
  reason : GivenOr errorNames "reason" WritesText "" x f.reason

/-- A text is an envelope and nothing else: what is written in it for the error is JSON, no deeper
than the limit, and satisfies `P`. -/
structure Envelope (P : Draft → Prop) (t : String) : Prop where
  alone : (Draft.ofText t).2
  readable : Readable ["error"] (Draft.ofText t).1
  error : ∃ x, Part ["error"] "error" (Draft.ofText t).1 x ∧ (x.value? (maxDepth - 1)).isSome ∧ P x

/-- The text holds this error as an object. -/
def HoldsObject (t : String) (f : Failure) : Prop := Envelope (ErrorWritten · f) t

/-- The text holds an error that is this string. -/
def HoldsString (t s : String) : Prop := Envelope (WritesText · s) t

/-- What a text tells of a refusal, in the form that it has. -/
inductive Tells (t : String) : Failure → Prop where
  | object {f : Failure} (h : HoldsObject t f) : Tells t f
  | string {s : String} (h : HoldsString t s) : Tells t ⟨s, []⟩
  | verbatim (hobject : ∀ f, ¬ HoldsObject t f) (hstring : ∀ s, ¬ HoldsString t s) :
    Tells t ⟨t, []⟩

section

variable {depth : Nat} {x : Draft}

/-- An object is no string. -/
lemma not_writesText_of_errorWritten {f : Failure} (h : ErrorWritten x f) (s : String) :
    ¬ WritesText x s := by
  obtain ⟨members, rfl⟩ := h.object
  intro hs
  cases hs

/-! ### Root causes -/

def causeFields : List (RecordField RootCause) :=
  [field "type" .defaulted text fun kind c => { c with kind },
    field "reason" .defaulted text fun reason c => { c with reason }]

lemma slot_kind : Slot causeFields "type" text RootCause.kind :=
  .head (fun _ _ => rfl) (by simp [field, Keeps])

lemma slot_causeReason : Slot causeFields "reason" text RootCause.reason :=
  .tail (by simp [field]) (keeps_field fun _ _ => rfl) (.head (fun _ _ => rfl) (by simp))

lemma nodup_causeFields : (causeFields.map (·.name)).Nodup := by decide

lemma causeWritten_of_rootCause {c : RootCause} (h : rootCause depth x = .ok c) :
    CauseWritten x c := by
  obtain ⟨inner, -, hread⟩ := recordRead_of_record h
  exact ⟨hread.readable,
    hread.givenOr slot_kind nodup_causeFields fun _ _ => text_iff_writes.1,
    hread.givenOr slot_causeReason nodup_causeFields fun _ _ => text_iff_writes.1⟩

/-- What is given for a field in a readable way is read, if it is written. -/
lemma exists_read_of_givenOr {α : Type} {reader : Reader α} {names : List String} {name : String}
    {Writes : Draft → α → Prop} {default a : α} (depth : Nat)
    (h : GivenOr names name Writes default x a)
    (hread : ∀ y, Part names name x y → Writes y a → reader depth y = .ok a) :
    ∀ y, Part names name x y → ∃ a, reader depth y = .ok a := by
  intro y hy
  rcases h with hgives | ⟨hout, -⟩
  · exact ⟨a, hread y hy (hgives.all y hy)⟩
  · exact absurd hy (hout.absent y)

lemma rootCause_of_causeWritten {c : RootCause} (hvalue : (x.value? depth).isSome)
    (h : CauseWritten x c) : rootCause depth x = .ok c := by
  obtain ⟨inner, rfl⟩ := h.readable.isRecord.exists_depth hvalue
  have hkind := exists_read_of_givenOr inner h.kind fun _ _ => text_iff_writes.2
  have hreason := exists_read_of_givenOr inner h.reason fun _ _ => text_iff_writes.2
  obtain ⟨c', hc'⟩ : ∃ c', rootCause (inner + 1) x = .ok c' := by
    refine exists_record_of_readable h.readable nodup_causeFields ?_ (by simp [field])
    simpa [causeFields, field] using ⟨hkind, hreason⟩
  obtain ⟨_, hdepth, hread⟩ := recordRead_of_record hc'
  have hkind : c'.kind = c.kind :=
    hread.get_eq_of_givenOr slot_kind nodup_causeFields h.kind fun _ _ => text_iff_writes.2
  have hreason : c'.reason = c.reason :=
    hread.get_eq_of_givenOr slot_causeReason nodup_causeFields h.reason fun _ _ => text_iff_writes.2
  rw [hc']
  cases c
  cases c'
  simp_all

/-! ### Errors -/

def errorFields : List (RecordField Failure) :=
  [field "root_cause" .defaulted (list rootCause) fun rootCauses f => { f with rootCauses },
    field "reason" .defaulted text fun reason f => { f with reason }]

lemma slot_rootCauses : Slot errorFields "root_cause" (list rootCause) Failure.rootCauses :=
  .head (fun _ _ => rfl) (by simp [field, Keeps])

lemma slot_reason : Slot errorFields "reason" text Failure.reason :=
  .tail (by simp [field]) (keeps_field fun _ _ => rfl) (.head (fun _ _ => rfl) (by simp))

lemma nodup_errorFields : (errorFields.map (·.name)).Nodup := by decide

lemma causesWritten_of_list {causes : List RootCause} (h : list rootCause depth x = .ok causes) :
    CausesWritten x causes := by
  obtain ⟨inner, items, rfl, rfl, hread⟩ := array_of_list h
  exact .mk (hread.imp fun _ _ => causeWritten_of_rootCause)

lemma list_of_causesWritten {causes : List RootCause} (hvalue : (x.value? depth).isSome)
    (h : CausesWritten x causes) : list rootCause depth x = .ok causes := by
  obtain ⟨hitems⟩ := h
  obtain ⟨inner, rfl⟩ := (IsRecord.list _).exists_depth hvalue
  have hboth := (List.forall₂_and_left _ _).2 ⟨isSome_value?_item hvalue, hitems⟩
  exact list_ok_iff.2 (hboth.imp fun _ _ h => rootCause_of_causeWritten h.1 h.2)

/-- **Errors**: an object is read as an error exactly if it writes that error. -/
theorem structuredFailure_ok_iff {f : Failure} (hvalue : (x.value? depth).isSome) :
    structuredFailure depth x = .ok f ↔ ErrorWritten x f := by
  have hread : structuredFailure depth x = .ok f ↔
      (∃ members, x = .object members true) ∧ record errorFields ⟨"", []⟩ depth x = .ok f :=
    recordObject_iff_record
  rw [hread]
  constructor
  · rintro ⟨hobject, h⟩
    obtain ⟨inner, -, h⟩ := recordRead_of_record h
    exact ⟨hobject, h.readable,
      h.givenOr slot_rootCauses nodup_errorFields fun _ _ => causesWritten_of_list,
      h.givenOr slot_reason nodup_errorFields fun _ _ => text_iff_writes.1⟩
  · intro h
    refine ⟨h.object, ?_⟩
    obtain ⟨inner, rfl⟩ := h.readable.isRecord.exists_depth hvalue
    have hcausesRead : ∀ y, Part errorNames "root_cause" x y → CausesWritten y f.rootCauses →
        list rootCause inner y = .ok f.rootCauses := fun y hy =>
      list_of_causesWritten (isSome_value?_part hvalue hy)
    have hcauses := exists_read_of_givenOr inner h.rootCauses hcausesRead
    have hreason := exists_read_of_givenOr inner h.reason fun _ _ => text_iff_writes.2
    obtain ⟨f', hf'⟩ : ∃ f', record errorFields ⟨"", []⟩ (inner + 1) x = .ok f' := by
      refine exists_record_of_readable h.readable nodup_errorFields ?_
        (by simp [errorFields, field])
      simpa [errorFields, field] using ⟨hcauses, hreason⟩
    obtain ⟨_, hdepth, hread⟩ := recordRead_of_record hf'
    cases hdepth
    have hcauses : f'.rootCauses = f.rootCauses :=
      hread.get_eq_of_givenOr slot_rootCauses nodup_errorFields h.rootCauses hcausesRead
    have hreason : f'.reason = f.reason :=
      hread.get_eq_of_givenOr slot_reason nodup_errorFields h.reason fun _ _ => text_iff_writes.2
    rw [hf']
    cases f
    cases f'
    simp_all

end

/-! ### Envelopes -/

lemma Envelope.imp {P Q : Draft → Prop} {t : String} (h : Envelope P t) (hPQ : ∀ x, P x → Q x) :
    Envelope Q t :=
  ⟨h.alone, h.readable, h.error.imp fun x hx => ⟨hx.1, hx.2.1, hPQ x hx.2.2⟩⟩

/-- An error is read from an object or a string that writes it. -/
lemma error_ok_iff {depth : Nat} {x : Draft} {f : Failure} :
    either structuredFailure plainFailure depth x = .ok f ↔
      (x.value? depth).isSome ∧ (ErrorWritten x f ∨ WritesText x f.reason ∧ f.rootCauses = []) := by
  have hplain : plainFailure depth x = .ok f ↔ WritesText x f.reason ∧ f.rootCauses = [] := by
    simp only [plainFailure, map_ok_iff, text_iff_writes]
    constructor
    · rintro ⟨s, hs, rfl⟩
      exact ⟨hs, rfl⟩
    · rintro ⟨hs, hcauses⟩
      exact ⟨f.reason, hs, by rw [← hcauses]⟩
  rw [either_iff]
  refine and_congr_right fun hvalue => ?_
  simp only [structuredFailure_ok_iff hvalue, hplain]
  refine or_congr_right ⟨And.right, fun h => ⟨fun g hg => ?_, h⟩⟩
  exact not_writesText_of_errorWritten ((structuredFailure_ok_iff hvalue).1 hg) _ h.1

lemma whole_envelope_ok_iff {t : String} {f : Failure} :
    envelope.whole t = .ok f ↔
      Envelope (fun x => ErrorWritten x f ∨ WritesText x f.reason ∧ f.rootCauses = []) t := by
  have hslot : Slot [field "error" .required (either structuredFailure plainFailure)
      fun f (_ : Failure) => f] "error" (either structuredFailure plainFailure) id :=
    .head (fun _ _ => rfl) (by simp)
  have hnames : ∀ x y, Readable ["error"] (Draft.ofText t).1 →
      Part ["error"] "error" (Draft.ofText t).1 x → Part ["error"] "error" (Draft.ofText t).1 y →
      x = y := fun _ _ h => h.part_unique (by simp) (by simp)
  rw [whole_ok_iff]
  constructor
  · rintro ⟨h, halone⟩
    obtain ⟨inner, hinner, hread⟩ := recordRead_of_record h
    have herror := hread.slot_of_required hslot (by simp) (by simp [field])
    obtain ⟨x, hx⟩ := herror.present
    obtain rfl : inner = maxDepth - 1 := by omega
    exact ⟨halone, hread.readable, x, hx, error_ok_iff.1 (herror.all x hx)⟩
  · rintro ⟨halone, hreadable, x, hx, herror⟩
    have hx' := error_ok_iff.2 herror
    obtain ⟨g, hg⟩ : ∃ g, envelope maxDepth (Draft.ofText t).1 = .ok g := by
      refine @exists_record_of_readable _ _ (maxDepth - 1) _ _ hreadable (by simp) ?_ ?_
      · simp only [field, List.forall_mem_singleton, map_ok_iff]
        intro y hy
        obtain rfl := hnames x y hreadable hx hy
        exact ⟨_, f, hx', rfl⟩
      · simpa [field] using ⟨x, hx⟩
    obtain ⟨inner, hinner, hread⟩ := recordRead_of_record hg
    obtain rfl : inner = maxDepth - 1 := by omega
    have hgf : g = f := Except.ok.inj ((hread.slot_of_part hslot (by simp) hx).symm.trans hx')
    exact ⟨hgf ▸ hg, halone⟩

/-! ### Refusals -/

section

variable {t : String}

lemma whole_envelope_of_object {f : Failure} (h : HoldsObject t f) : envelope.whole t = .ok f :=
  whole_envelope_ok_iff.2 (h.imp fun _ => .inl)

lemma whole_envelope_of_string {s : String} (h : HoldsString t s) :
    envelope.whole t = .ok ⟨s, []⟩ :=
  whole_envelope_ok_iff.2 (h.imp fun _ hs => .inr ⟨hs, rfl⟩)

/-- An envelope that is read holds an object or a string. -/
lemma holds_of_whole_envelope {f : Failure} (h : envelope.whole t = .ok f) :
    HoldsObject t f ∨ HoldsString t f.reason ∧ f.rootCauses = [] := by
  obtain ⟨halone, hreadable, x, hx, hvalue, hobject | ⟨hstring, hcauses⟩⟩ :=
    whole_envelope_ok_iff.1 h
  · exact .inl ⟨halone, hreadable, x, hx, hvalue, hobject⟩
  · exact .inr ⟨⟨halone, hreadable, x, hx, hvalue, hstring⟩, hcauses⟩

lemma not_holdsString_of_holdsObject {f : Failure} (h : HoldsObject t f) (s : String) :
    ¬ HoldsString t s := by
  rintro ⟨-, -, y, hy, -, hstring⟩
  obtain ⟨-, hreadable, x, hx, -, hobject⟩ := h
  obtain rfl := hreadable.part_unique (by simp) (by simp) hx hy
  exact not_writesText_of_errorWritten hobject s hstring

lemma ofText_of_whole_envelope {status : Nat} {f : Failure} (h : envelope.whole t = .ok f) :
    Error.ofText status t = .rejected status f.reason f.rootCauses := by
  simp only [Error.ofText, h]

lemma ofText_of_tells {status : Nat} {f : Failure} (h : Tells t f) :
    Error.ofText status t = .rejected status f.reason f.rootCauses := by
  cases h with
  | object h => exact ofText_of_whole_envelope (whole_envelope_of_object h)
  | string h => exact ofText_of_whole_envelope (whole_envelope_of_string h)
  | verbatim hobject hstring =>
    unfold Error.ofText
    split
    · next f hf =>
      rcases holds_of_whole_envelope hf with h | ⟨h, -⟩
      · exact absurd h (hobject f)
      · exact absurd h (hstring f.reason)
    · rfl

lemma exists_tells (t : String) : ∃ f, Tells t f := by
  by_cases hobject : ∃ f, HoldsObject t f
  · obtain ⟨f, hf⟩ := hobject
    exact ⟨f, .object hf⟩
  · by_cases hstring : ∃ s, HoldsString t s
    · obtain ⟨s, hs⟩ := hstring
      exact ⟨⟨s, []⟩, .string hs⟩
    · exact ⟨⟨t, []⟩, .verbatim (not_exists.1 hobject) (not_exists.1 hstring)⟩

end

/-- **A refusal is read in the one form that it has.** Its text holds an error that is an object, or
one that is a string, or it is itself the reason; never is it two of these, and what comes out is
what it tells, with its status. It is an overflow exactly if it holds an object with a root cause
whose reason says so, so neither a string nor the reason of the whole makes it one. -/
theorem ofText_tells (status : Nat) (t : String) :
    (∃ f, Tells t f) ∧
    (∀ f, Tells t f → Error.ofText status t = .rejected status f.reason f.rootCauses) ∧
    (∀ f s, HoldsObject t f → ¬ HoldsString t s) ∧
    ((Error.ofText status t).isWindowOverflow ↔
      ∃ f, HoldsObject t f ∧ ∃ c ∈ f.rootCauses, TellsOverflow c.reason) := by
  refine ⟨exists_tells t, fun _ => ofText_of_tells,
    fun _ s h => not_holdsString_of_holdsObject h s, ?_⟩
  rw [isWindowOverflow_ofText_iff]
  constructor
  · rintro ⟨f, hf, c, hc, htells⟩
    rcases holds_of_whole_envelope hf with h | ⟨-, hcauses⟩
    · exact ⟨f, h, c, hc, htells⟩
    · rw [hcauses] at hc
      cases hc
  · rintro ⟨f, hf, c, hc, htells⟩
    exact ⟨f, whole_envelope_of_object hf, c, hc, htells⟩

/-- The phrase in the reason of the whole is no overflow. -/
example : (Error.ofText 400 r#"{"error":{"reason":"Result window is too large"}}"#) =
    .rejected 400 "Result window is too large" [] := by cbv

end HostFacets.Search
