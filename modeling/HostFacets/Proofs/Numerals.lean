import HostFacets.Text.Digit
import Mathlib

/-!
Which characters are digits, and the numbers that digits spell.

Hexadecimal digits are read in either case. A text of decimal digits is read as the number that it
spells in base ten, and no other text is read.
-/

namespace HostFacets.Text

/-! ### Characters -/

lemma exists_ofNat_of_range {c : Char} {first count : ℕ} (hfirst : first ≤ c.toNat)
    (hlast : c.toNat < first + count) : ∃ k : Fin count, Char.ofNat (first + k) = c :=
  ⟨⟨c.toNat - first, by omega⟩, by rw [Nat.add_sub_cancel' hfirst, Char.ofNat_toNat]⟩

/-- A hexadecimal digit may be written in either case. -/
lemma hexDigit?_eq_some_iff {c : Char} {d : Fin 16} :
    hexDigit? c = some d ↔ c.toLower = hexChar d := by
  constructor
  · intro h
    unfold hexDigit? at h
    split at h <;> cases h <;> rfl
  · intro h
    by_cases hupper : 'A'.toNat ≤ c.toNat ∧ c.toNat ≤ 'Z'.toNat
    · have hlast : c.toNat < 'A'.toNat + 26 := Nat.lt_succ_of_le hupper.2
      obtain ⟨k, rfl⟩ := exists_ofNat_of_range hupper.1 hlast
      decide +revert
    · have hlower : c.toLower = c := dif_neg hupper
      rw [← hlower, h, hexDigit?_hexChar]

/-- The decimal digits are those in the range of ASCII. -/
lemma digit?_ten_eq_some_iff {c : Char} {d : ℕ} :
    digit? 10 c = some d ↔ c.isDigit ∧ d = c.toNat - '0'.toNat := by
  constructor
  · intro h
    obtain ⟨hex, hc, h⟩ := Option.bind_eq_some_iff.1 h
    obtain ⟨hlt, hd⟩ := Option.ite_none_right_eq_some.1 h
    obtain rfl := Option.some.inj hd
    unfold hexDigit? at hc
    split at hc <;> cases hc <;> first | exact ⟨rfl, rfl⟩ | exact absurd hlt (by decide)
  · rintro ⟨hc, rfl⟩
    rw [Char.isDigit_iff_toNat] at hc
    have hlast : c.toNat < '0'.toNat + 10 := Nat.lt_succ_of_le hc.2
    obtain ⟨k, rfl⟩ := exists_ofNat_of_range hc.1 hlast
    decide +revert

/-! ### Decimal numbers -/

lemma appendDigits?_ten_eq_some_iff {cs : List Char} {n m : ℕ} :
    appendDigits? 10 n cs = some m ↔ (∀ c ∈ cs, c.isDigit) ∧ m = Nat.ofDigitChars 10 cs n := by
  induction cs generalizing n with
  | nil =>
    simp only [appendDigits?, Nat.ofDigitChars_nil, List.not_mem_nil, false_implies, implies_true,
      true_and, Option.some.injEq]
    exact eq_comm
  | cons c rest ih =>
    rw [appendDigits?, Option.bind_eq_some_iff, List.forall_mem_cons, Nat.ofDigitChars_cons,
      Nat.mul_comm 10 n]
    simp only [digit?_ten_eq_some_iff, ih]
    constructor
    · rintro ⟨d, ⟨hc, rfl⟩, hrest, rfl⟩
      exact ⟨⟨hc, hrest⟩, rfl⟩
    · rintro ⟨⟨hc, hrest⟩, rfl⟩
      exact ⟨_, ⟨hc, rfl⟩, hrest, rfl⟩

/-- One or more decimal digits, with any zeros in front, are read as the number that they spell. -/
theorem natOfDigits?_ten_eq_some_iff {cs : List Char} {n : ℕ} :
    natOfDigits? 10 cs = some n ↔
      cs ≠ [] ∧ (∀ c ∈ cs, c.isDigit) ∧ n = Nat.ofDigitChars 10 cs 0 := by
  cases cs with
  | nil => simp [natOfDigits?]
  | cons c rest => simp [natOfDigits?, appendDigits?_ten_eq_some_iff]

end HostFacets.Text
