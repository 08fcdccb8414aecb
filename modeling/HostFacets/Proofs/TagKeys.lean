import HostFacets.Proofs.Outcome
import HostFacets.Tag

/-!
Keys of tags, joined and read back.

A key is cut at its first slash, and what follows at its first equals sign. These are the cuts where
a key was joined as long as its namespace has no slash and its key no equals sign, and every key
that can be cut twice was joined from such parts.
-/

namespace HostFacets

/-! ### One cut -/

section

variable {delimiter : Char} {text before after : String}

lemma cutFirst_ok_iff :
    cutFirst delimiter text = .ok (before, after) ↔
      text = before ++ String.singleton delimiter ++ after ∧ delimiter ∉ before.toList := by
  have hcut : Text.cut? [delimiter] text.toList = some (before.toList, after.toList) ↔
      text = before ++ String.singleton delimiter ++ after ∧ delimiter ∉ before.toList := by
    rw [Text.cut?_eq_some_iff (List.cons_ne_nil delimiter []), ← String.toList_inj]
    simp [List.singleton_infix_iff]
  rw [← hcut, cutFirst]
  split
  · next b a hparts =>
    rw [hparts]
    simp [← String.toList_inj]
  · next hnone => simp [hnone]

lemma cutFirst_error_iff {fault : UncutKey} :
    cutFirst delimiter text = .error fault ↔
      delimiter ∉ text.toList ∧ fault = ⟨text, delimiter⟩ := by
  have hcut : Text.cut? [delimiter] text.toList = none ↔ delimiter ∉ text.toList := by
    rw [Text.cut?_eq_none_iff, List.singleton_infix_iff]
  rw [← hcut, cutFirst]
  split
  · next b a hparts => simp [hparts]
  · next hnone => simp [hnone, eq_comm]

end

/-! ### Two cuts -/

namespace Text

@[simp] lemma getD_nonEmpty? (s : String) : (nonEmpty? s).getD "" = s := by
  unfold nonEmpty?
  split
  · next h => simp [String.isEmpty_iff.1 h]
  · rfl

lemma nonEmpty?_eq (s : String) : nonEmpty? s = if s = "" then none else some s := by
  simp [nonEmpty?]

end Text

namespace Tag

variable {raw : String} {tag : Tag}

/-- A key is read as a tag where the parts of the tag were joined to it. -/
lemma ofKey_ok_iff :
    ofKey raw = .ok tag ↔
      ∃ ns value, raw = ns ++ "/" ++ tag.key ++ "=" ++ value ∧ '/' ∉ ns.toList ∧
        '=' ∉ tag.key.toList ∧ tag = ⟨Text.nonEmpty? ns, tag.key, Text.nonEmpty? value⟩ := by
  constructor
  · intro h
    obtain ⟨⟨ns, rest⟩, hns, h⟩ := bind_ok_iff.1 h
    obtain ⟨⟨key, value⟩, hkey, h⟩ := bind_ok_iff.1 h
    cases h
    obtain ⟨rfl, hslash⟩ := cutFirst_ok_iff.1 hns
    obtain ⟨rfl, hequals⟩ := cutFirst_ok_iff.1 hkey
    refine ⟨ns, value, ?_, hslash, hequals, rfl⟩
    simp [String.append_assoc]
  · rintro ⟨ns, value, hraw, hslash, hequals, htag⟩
    have hfirst : cutFirst '/' raw = .ok (ns, tag.key ++ "=" ++ value) :=
      cutFirst_ok_iff.2 ⟨by simp [hraw, String.append_assoc], hslash⟩
    have hsecond : cutFirst '=' (tag.key ++ "=" ++ value) = .ok (tag.key, value) :=
      cutFirst_ok_iff.2 ⟨rfl, hequals⟩
    rw [htag]
    exact bind_ok_iff.2 ⟨_, hfirst, bind_ok_iff.2 ⟨_, hsecond, rfl⟩⟩

/-- A key fails at the first of the two cuts for which there is no delimiter. -/
lemma ofKey_error_iff {fault : UncutKey} :
    ofKey raw = .error fault ↔
      '/' ∉ raw.toList ∧ fault = ⟨raw, '/'⟩ ∨
        ∃ ns rest, raw = ns ++ "/" ++ rest ∧ '/' ∉ ns.toList ∧ '=' ∉ rest.toList ∧
          fault = ⟨rest, '='⟩ := by
  have hrest : ∀ ns rest, (cutFirst '=' rest >>= fun parts =>
      pure ⟨Text.nonEmpty? ns, parts.1, Text.nonEmpty? parts.2⟩ : Except UncutKey Tag) =
        .error fault ↔ '=' ∉ rest.toList ∧ fault = ⟨rest, '='⟩ := by
    intro ns rest
    rw [bind_error_iff, cutFirst_error_iff]
    simp [pure, Except.pure]
  constructor
  · intro h
    rcases bind_error_iff.1 h with hslash | ⟨⟨ns, rest⟩, hns, h⟩
    · exact .inl (cutFirst_error_iff.1 hslash)
    · obtain ⟨hraw, hslash⟩ := cutFirst_ok_iff.1 hns
      exact .inr ⟨ns, rest, hraw, hslash, (hrest ns rest).1 h⟩
  · rintro (hslash | ⟨ns, rest, hraw, hslash, hequals⟩)
    · exact bind_error_iff.2 (.inl (cutFirst_error_iff.2 hslash))
    · have hns : cutFirst '/' raw = .ok (ns, rest) := cutFirst_ok_iff.2 ⟨hraw, hslash⟩
      exact bind_error_iff.2 (.inr ⟨_, hns, (hrest ns rest).2 hequals⟩)

/-- **Reading a key undoes joining it**: the parts of every joined key are read back if the
namespace has no slash and the key no equals sign, and an empty namespace or value is an absent one.
What is read joins to the key again, so different keys are different tags. No other key is read, and
the fault names the text that could not be cut. -/
theorem ofKey_inverts_joining :
    (∀ ns key value : String, '/' ∉ ns.toList → '=' ∉ key.toList →
      ∃ tag, ofKey (ns ++ "/" ++ key ++ "=" ++ value) = .ok tag ∧ tag.key = key ∧
        tag.ns = (if ns = "" then none else some ns) ∧
        tag.value = if value = "" then none else some value) ∧
    (∀ raw tag, ofKey raw = .ok tag →
      tag.ns.getD "" ++ "/" ++ tag.key ++ "=" ++ tag.value.getD "" = raw ∧
        '/' ∉ (tag.ns.getD "").toList ∧ '=' ∉ tag.key.toList) ∧
    (∀ raw raw' tag, ofKey raw = .ok tag → ofKey raw' = .ok tag → raw = raw') ∧
    ∀ raw fault, ofKey raw = .error fault ↔
      '/' ∉ raw.toList ∧ fault = ⟨raw, '/'⟩ ∨
        ∃ ns rest, raw = ns ++ "/" ++ rest ∧ '/' ∉ ns.toList ∧ '=' ∉ rest.toList ∧
          fault = ⟨rest, '='⟩ := by
  have hjoin : ∀ raw tag, ofKey raw = .ok tag →
      tag.toKey = raw ∧ '/' ∉ (tag.ns.getD "").toList ∧ '=' ∉ tag.key.toList := by
    intro raw tag h
    obtain ⟨ns, value, hraw, hslash, hequals, htag⟩ := ofKey_ok_iff.1 h
    have hns : tag.ns.getD "" = ns := by rw [htag, Text.getD_nonEmpty?]
    have hvalue : tag.value.getD "" = value := by rw [htag, Text.getD_nonEmpty?]
    rw [toKey, hns, hvalue]
    exact ⟨hraw.symm, hslash, hequals⟩
  refine ⟨?joined, hjoin, ?distinct, fun raw fault => ofKey_error_iff⟩
  case joined =>
    intro ns key value hslash hequals
    refine ⟨⟨Text.nonEmpty? ns, key, Text.nonEmpty? value⟩, ?_, rfl, Text.nonEmpty?_eq ns,
      Text.nonEmpty?_eq value⟩
    exact ofKey_ok_iff.2 ⟨ns, value, rfl, hslash, hequals, rfl⟩
  case distinct =>
    intro raw raw' tag h h'
    rw [← (hjoin raw tag h).1, ← (hjoin raw' tag h').1]

/-- Both delimiters also occur where they do not cut. -/
theorem ofKey_inverts_joining_mixed :
    '/' ∉ "a=b".toList ∧ '=' ∉ "c/d".toList ∧
      ∃ tag, ofKey ("a=b" ++ "/" ++ "c/d" ++ "=" ++ "e=f/") = .ok tag ∧ tag.key = "c/d" ∧
        tag.ns = some "a=b" ∧ tag.value = some "e=f/" := by
  have hslash : '/' ∉ "a=b".toList := by decide
  have hequals : '=' ∉ "c/d".toList := by decide
  obtain ⟨tag, hread, hkey, hns, hvalue⟩ :=
    ofKey_inverts_joining.1 "a=b" "c/d" "e=f/" hslash hequals
  exact ⟨hslash, hequals, tag, hread, hkey, hns, hvalue⟩

end Tag

end HostFacets
