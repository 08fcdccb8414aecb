/-!
Digits: hexadecimal ones, written in lower case and read in either, and numbers in a given base.
-/

namespace HostFacets.Text

def hexDigit? : Char → Option (Fin 16)
  | '0' => some 0 | '1' => some 1 | '2' => some 2 | '3' => some 3 | '4' => some 4
  | '5' => some 5 | '6' => some 6 | '7' => some 7 | '8' => some 8 | '9' => some 9
  | 'a' | 'A' => some 10 | 'b' | 'B' => some 11 | 'c' | 'C' => some 12
  | 'd' | 'D' => some 13 | 'e' | 'E' => some 14 | 'f' | 'F' => some 15
  | _ => none

def hexChar (d : Fin 16) : Char :=
  ['0', '1', '2', '3', '4', '5', '6', '7', '8', '9', 'a', 'b', 'c', 'd', 'e', 'f'][d]

@[simp] theorem hexDigit?_hexChar (d : Fin 16) : hexDigit? (hexChar d) = some d := by
  decide +revert

/-- The two digits of a byte. -/
def byteDigits (byte : UInt8) : List (Fin 16) :=
  [⟨byte.toNat / 16, by have := byte.toNat_lt; omega⟩,
    ⟨byte.toNat % 16, Nat.mod_lt _ (by decide)⟩]

/-- The value of a digit in a base of at most 16. -/
def digit? (base : Nat) (c : Char) : Option Nat :=
  (hexDigit? c).bind fun d => if d.val < base then some d.val else none

/-- Appends digits to a number. -/
def appendDigits? (base : Nat) (n : Nat) : List Char → Option Nat
  | [] => some n
  | c :: rest => (digit? base c).bind fun d => appendDigits? base (n * base + d) rest

/-- The number that one or more digits spell. -/
def natOfDigits? (base : Nat) : List Char → Option Nat
  | [] => none
  | digits => appendDigits? base 0 digits

end HostFacets.Text
