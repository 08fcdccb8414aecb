import HostFacets.Search.Response
import HostFacets.Proofs.RecordReading

/-!
When a refusal is recognised as one for lying beyond the result window.

The envelope of a refusal is read as a whole. One text in it that is null, or anything else but a
string, is enough for the envelope to be taken for no envelope at all: its root causes are lost, and
the overflow they tell of with them.
-/

namespace HostFacets.Search

open Json Json.Draft Json.Reader

/-! ### Texts in objects -/

/-- The member of this name is a string, if there is one. -/
def TextMember (object : Members) (name : String) : Prop :=
  ∀ v, object.get? name = some v → ∃ s, v = .str s

lemma exists_text_iff {depth : Nat} {members : List (Spelling × Draft)} {object : Members}
    (h : ObjectDenotes depth members object) {name : String} :
    (∀ d, IsMember members name d → ∃ s, text depth d = .ok s) ↔ TextMember object name := by
  constructor
  · intro htext v hv
    obtain ⟨d, hd, hdv⟩ := (h.get?_iff name v).1 hv
    obtain ⟨s, hs⟩ := htext d hd
    exact ⟨s, (text_ok_iff hdv).1 hs⟩
  · intro htext d hd
    obtain ⟨v, hdv⟩ := h.denotes_of_isMember hd
    obtain ⟨s, rfl⟩ := htext v ((h.get?_iff name v).2 ⟨d, hd, hdv⟩)
    exact ⟨s, (text_ok_iff hdv).2 rfl⟩

/-! ### Root causes -/

section

variable {depth : Nat} {d : Draft} {cause failure : Members} {causes : List Members}

/-- A root cause is read exactly if its type and its reason are texts or left out. -/
lemma exists_rootCause_iff (h : Denotes depth d (.obj cause)) :
    (∃ c, rootCause depth d = .ok c) ↔ TextMember cause "type" ∧ TextMember cause "reason" := by
  obtain ⟨inner, members, rfl, rfl, hobject⟩ := h.object
  simp only [rootCause, record]
  rw [exists_recordObject_iff (hobject.legible _) (by simp [field])]
  simp [field, ← exists_text_iff hobject]

/-- The reason of a root cause is kept. -/
lemma reason_of_rootCause (h : Denotes depth d (.obj cause)) {c : RootCause}
    (hc : rootCause depth d = .ok c) {reason : String}
    (hreason : cause.get? "reason" = some (.str reason)) : c.reason = reason := by
  obtain ⟨inner, members, rfl, rfl, hobject⟩ := h.object
  obtain ⟨x, hx, hdenotes⟩ := (hobject.get?_iff _ _).1 hreason
  have hslot : text inner x = .ok c.reason := by
    refine read_slot ?_ hc hx
    exact .tail (by simp [field]) (keeps_field fun _ _ => rfl) (.head (fun _ _ => rfl) (by simp))
  simpa [eq_comm] using (text_ok_iff hdenotes).1 hslot

/-! ### Envelopes -/

variable (h : Denotes depth d (.obj failure))
  (hcauses : failure.get? "root_cause" = some (.arr (causes.map .obj)))

include h hcauses

/-- An error with root causes is read exactly if its reason is a text or left out and each of its
root causes is read. -/
lemma exists_structuredFailure_iff :
    (∃ f, structuredFailure depth d = .ok f) ↔
      (∀ cause ∈ causes, TextMember cause "type" ∧ TextMember cause "reason") ∧
        TextMember failure "reason" := by
  obtain ⟨inner, members, rfl, rfl, hobject⟩ := h.object
  obtain ⟨x, hx, hdenotes⟩ := (hobject.get?_iff _ _).1 hcauses
  obtain ⟨innermost, items, rfl, rfl, hitems⟩ := hdenotes.array
  have hread : (∃ cs, list rootCause (innermost + 1) (.array items true) = .ok cs) ↔
      ∀ cause ∈ causes, TextMember cause "type" ∧ TextMember cause "reason" := by
    simp only [list_ok_iff, exists_forall₂_iff]
    exact forall_mem_iff_of_forall₂ (List.forall₂_map_right_iff.1 hitems) fun _ _ =>
      exists_rootCause_iff
  simp only [structuredFailure]
  rw [exists_recordObject_iff (hobject.legible _) (by simp [field])]
  simp [field, ← exists_text_iff hobject, hobject.forall_isMember_iff hx, hread]

/-- No root cause of an error is lost. -/
lemma exists_of_structuredFailure {f : Failure} (hf : structuredFailure depth d = .ok f)
    {cause : Members} (hcause : cause ∈ causes) {reason : String}
    (hreason : cause.get? "reason" = some (.str reason)) :
    ∃ c ∈ f.rootCauses, c.reason = reason := by
  obtain ⟨inner, members, rfl, rfl, hobject⟩ := h.object
  obtain ⟨x, hx, hdenotes⟩ := (hobject.get?_iff _ _).1 hcauses
  obtain ⟨innermost, items, rfl, rfl, hitems⟩ := hdenotes.array
  have hread : list rootCause (innermost + 1) (.array items true) = .ok f.rootCauses := by
    refine read_slot ?_ hf hx
    exact .head (fun _ _ => rfl)
      (List.forall_mem_singleton.2 ⟨by simp [field], keeps_field fun _ _ => rfl⟩)
  obtain ⟨item, hitem, hdenoted⟩ :=
    exists_left_of_forall₂ (List.forall₂_map_right_iff.1 hitems) cause hcause
  obtain ⟨c, hc, hitemc⟩ := exists_right_of_forall₂ (list_ok_iff.1 hread) item hitem
  exact ⟨c, hc, reason_of_rootCause hdenoted hitemc hreason⟩

end

/-- The envelope of an error that is an object is read as that error, and in no other way. -/
lemma envelope_ok_iff {depth : Nat} {d : Draft} {value : Json} {failure : Members}
    (h : Denotes depth d value) (herror : value.get? "error" = some (.obj failure)) :
    ∃ inner x, Denotes inner x (.obj failure) ∧
      ∀ f, envelope depth d = .ok f ↔ structuredFailure inner x = .ok f := by
  obtain ⟨object, rfl⟩ : ∃ object, value = .obj object := by
    cases value with
    | obj object => exact ⟨object, rfl⟩
    | _ => cases herror
  obtain ⟨inner, members, rfl, rfl, hobject⟩ := h.object
  obtain ⟨x, hx, hdenotes⟩ := (hobject.get?_iff _ _).1 herror
  -- an object is no plain text
  have hplain : ∀ f, plainFailure inner x ≠ .ok f := by
    intro f hf
    obtain ⟨s, hs, -⟩ := map_ok_iff.1 hf
    cases (text_ok_iff hdenotes).1 hs
  have hslot : ∀ f, envelope (inner + 1) (.object members true) = .ok f →
      structuredFailure inner x = .ok f := by
    intro f hf
    rw [← either_ok_iff hdenotes hplain]
    exact read_slot (.head (fun _ _ => rfl) (by simp)) hf hx
  refine ⟨inner, x, hdenotes, fun f => ⟨hslot f, fun hf => ?_⟩⟩
  have hread : ∃ g, envelope (inner + 1) (.object members true) = .ok g := by
    simp only [envelope, record]
    rw [exists_recordObject_iff (hobject.legible _) (by simp [field])]
    simpa [field, hobject.forall_isMember_iff hx, either_ok_iff hdenotes hplain, hf] using ⟨x, hx⟩
  obtain ⟨g, hg⟩ := hread
  cases hf.symm.trans (hslot g hg)
  exact hg

/-! ### Refusals -/

/-- A reason that tells of a page beyond the result window. -/
def TellsOverflow (reason : String) : Prop :=
  Error.windowPhrase.toList <:+: reason.toList

lemma isWindowOverflow_ofText_iff {status : Nat} {t : String} :
    (Error.ofText status t).isWindowOverflow ↔
      ∃ f, envelope.whole t = .ok f ∧ ∃ c ∈ f.rootCauses, TellsOverflow c.reason := by
  have hcut : ∀ reason : String, TellsOverflow reason ↔
      (Text.cut? Error.windowPhrase.toList reason.toList).isSome := by
    intro reason
    rw [TellsOverflow, ← not_iff_not, ← Text.cut?_eq_none_iff]
    simp
  simp only [hcut, Error.ofText]
  cases envelope.whole t <;> simp [Error.isWindowOverflow, Error.rootCauses]

/-- A value that holds an error with root causes, one of which tells of an overflow. -/
structure OverflowEnvelope (value : Json) (failure : Members) (causes : List Members) : Prop where
  error : value.get? "error" = some (.obj failure)
  rootCauses : failure.get? "root_cause" = some (.arr (causes.map .obj))
  overflow : ∃ cause ∈ causes, ∃ reason,
    cause.get? "reason" = some (.str reason) ∧ TellsOverflow reason

/-- **A refusal that tells of an overflow in a root cause is recognised as one exactly if its reason
and the type and the reason of every root cause are texts or left out.** What else is written in it
does not matter. -/
theorem isWindowOverflow_iff_textMembers {status : Nat} {t : String} {value : Json}
    {failure : Members} {causes : List Members} (hvalue : parse? t = some value)
    (hunrepeated : (Draft.ofText t).1.isUnrepeated)
    (henvelope : OverflowEnvelope value failure causes) :
    (Error.ofText status t).isWindowOverflow ↔
      TextMember failure "reason" ∧
        ∀ cause ∈ causes, TextMember cause "type" ∧ TextMember cause "reason" := by
  obtain ⟨hspelled, halone⟩ := parse?_eq_some_iff.1 hvalue
  obtain ⟨inner, x, hdenotes, henv⟩ := envelope_ok_iff ⟨hspelled, hunrepeated⟩ henvelope.error
  have hread := exists_structuredFailure_iff hdenotes henvelope.rootCauses
  simp only [isWindowOverflow_ofText_iff, whole_ok_iff, halone, and_true, henv]
  rw [and_comm, ← hread]
  constructor
  · rintro ⟨f, hf, -⟩
    exact ⟨f, hf⟩
  · rintro ⟨f, hf⟩
    obtain ⟨cause, hcause, reason, hreason, htells⟩ := henvelope.overflow
    obtain ⟨c, hc, rfl⟩ :=
      exists_of_structuredFailure hdenotes henvelope.rootCauses hf hcause hreason
    exact ⟨f, hf, c, hc, htells⟩

/-! ### A reason that is left out, and one that is null -/

def windowCause : Members := [("reason", .str Error.windowPhrase)]

/-- A refusal without a reason of its own. -/
def bareRefusal : String :=
  r#"{"error":{"root_cause":[{"reason":"Result window is too large"}]},"status":400}"#

def bareFailure : Members := [("root_cause", .arr [.obj windowCause])]

/-- The same refusal with a reason that is null. -/
def nullRefusal : String :=
  r#"{"error":{"root_cause":[{"reason":"Result window is too large"}],"reason":null},"status":400}"#

def nullFailure : Members := ("reason", .null) :: bareFailure

def refusal (failure : Members) : Json := .obj [("error", .obj failure), ("status", .int 400)]

lemma overflowEnvelope_refusal {failure : Members}
    (h : failure.get? "root_cause" = some (.arr [.obj windowCause])) :
    OverflowEnvelope (refusal failure) failure [windowCause] where
  error := rfl
  rootCauses := h
  overflow := ⟨windowCause, List.mem_singleton_self _, Error.windowPhrase, rfl, List.infix_rfl⟩

lemma textMember_windowCause (name : String) : TextMember windowCause name := by
  intro v hv
  simp only [windowCause, Members.get?_cons, Members.get?_nil] at hv
  split at hv
  · cases hv
    exact ⟨_, rfl⟩
  · cases hv

theorem isWindowOverflow_of_bareRefusal :
    parse? bareRefusal = some (refusal bareFailure) ∧ (Draft.ofText bareRefusal).1.isUnrepeated ∧
      OverflowEnvelope (refusal bareFailure) bareFailure [windowCause] ∧
      (Error.ofText 400 bareRefusal).isWindowOverflow := by
  have hvalue : parse? bareRefusal = some (refusal bareFailure) := by cbv
  have hunrepeated : (Draft.ofText bareRefusal).1.isUnrepeated := by cbv
  have henvelope := @overflowEnvelope_refusal bareFailure rfl
  have hreason : TextMember bareFailure "reason" := by simp [TextMember, bareFailure]
  have hcauses : ∀ cause ∈ [windowCause],
      TextMember cause "type" ∧ TextMember cause "reason" := by simp [textMember_windowCause]
  exact ⟨hvalue, hunrepeated, henvelope,
    (isWindowOverflow_iff_textMembers hvalue hunrepeated henvelope).2 ⟨hreason, hcauses⟩⟩

/-- One reason that is null hides an overflow. -/
theorem not_isWindowOverflow_of_nullRefusal :
    parse? nullRefusal = some (refusal nullFailure) ∧ (Draft.ofText nullRefusal).1.isUnrepeated ∧
      OverflowEnvelope (refusal nullFailure) nullFailure [windowCause] ∧
      nullFailure.get? "reason" = some .null ∧
      (∀ cause ∈ [windowCause], TextMember cause "type" ∧ TextMember cause "reason") ∧
      ¬ (Error.ofText 400 nullRefusal).isWindowOverflow := by
  have hmissed : (Error.ofText 400 nullRefusal).isWindowOverflow = false := by cbv
  exact ⟨by cbv, by cbv, overflowEnvelope_refusal rfl, rfl, by simp [textMember_windowCause],
    Bool.eq_false_iff.1 hmissed⟩

end HostFacets.Search
