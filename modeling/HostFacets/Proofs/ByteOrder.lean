import Mathlib

/-!
The order of texts is that of their UTF-8 bytes.

Of two characters the one with the smaller number has the smaller encoding, and they differ before
either of them ends, so that it does not matter what follows.
-/

namespace HostFacets.Text

/-- The UTF-8 bytes of a text. -/
def bytes (s : String) : List UInt8 := s.toUTF8.data.toList

lemma bytes_eq_flatMap (s : String) : bytes s = s.toList.flatMap String.utf8EncodeChar := by
  rw [bytes, String.toUTF8_eq_toByteArray, ← String.utf8Encode_toList, List.utf8Encode,
    List.toList_data_toByteArray]

lemma cons_lt_cons_iff_toNat {a b : UInt8} {l l' : List UInt8} :
    a :: l < b :: l' ↔ a.toNat < b.toNat ∨ a.toNat = b.toNat ∧ l < l' := by
  rw [List.cons_lt_cons_iff, UInt8.lt_iff_toNat_lt, UInt8.toNat_inj]

lemma toNat_lt (c : Char) : c.val.toNat < 1114112 := by
  rcases c.valid with h | ⟨-, h⟩
  · exact h.trans (by decide)
  · exact h

/-- A smaller character has a smaller encoding, whatever follows. -/
lemma encoding_lt {c d : Char} (h : c < d) (l l' : List UInt8) :
    String.utf8EncodeChar c ++ l < String.utf8EncodeChar d ++ l' := by
  have hlt : c.val.toNat < d.val.toNat := h
  have hmax := toNat_lt d
  have hmax' := toNat_lt c
  -- the bytes of a character are the digits of its number to the base 64
  have hdigits : ∀ n : Nat, n / 4096 = n / 64 / 64 ∧ n / 262144 = n / 64 / 64 / 64 := by omega
  unfold String.utf8EncodeChar
  dsimp only
  split_ifs <;>
    simp only [List.cons_append, List.nil_append, cons_lt_cons_iff_toNat, UInt8.toNat_ofNat',
      hdigits] <;>
    simp (disch := omega) only [Nat.mod_eq_of_lt] <;>
    omega

lemma bytes_lt_of_lt {s t : String} (h : s < t) : bytes s < bytes t := by
  rw [bytes_eq_flatMap, bytes_eq_flatMap]
  have hlex : List.Lex (· < ·) s.toList t.toList := String.lt_iff_toList_lt.1 h
  generalize s.toList = l, t.toList = l' at hlex
  induction hlex with
  | @nil c l =>
    obtain ⟨b, rest, hbytes⟩ := List.exists_cons_of_ne_nil (String.utf8EncodeChar_ne_nil (c := c))
    simp [hbytes]
  | rel hlt => exact encoding_lt hlt _ _
  | cons _ ih => exact List.append_left_lt ih

/-- **The order of texts** is that of their bytes. -/
theorem bytes_lt_iff {s t : String} : bytes s < bytes t ↔ s < t := by
  refine ⟨fun h => ?_, bytes_lt_of_lt⟩
  by_contra hnot
  rcases Std.le_iff_lt_or_eq.1 (Std.not_lt.1 hnot) with hlt | heq
  · exact List.lt_asymm h (bytes_lt_of_lt hlt)
  · exact List.lt_irrefl _ (heq ▸ h)

end HostFacets.Text
