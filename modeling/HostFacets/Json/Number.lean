import HostFacets.Json

/-!
Numbers as they are written in JSON text, and the values they stand for.

A number without fraction and exponent that fits 64 bits is an integer. Every other number is a
float: its digits are collected while they fit 64 bits, the digits left over count as powers of
ten, and one decimal scaling follows. The result may differ from the nearest float in its last
place, and a number beyond the largest float has no value.
-/

namespace HostFacets.Json

/-- The parts of a number; `exponent` holds its sign and its digits. -/
structure NumberText where
  negative : Bool
  whole : List Char
  fraction : List Char
  exponent : Option (Bool × List Char)
deriving DecidableEq, Repr

namespace NumberText

def digit (c : Char) : Nat := c.toNat - '0'.toNat

/-- Appends digits to `n` while the result stays below `bound`; the digits that are left over. -/
def collect (bound : Nat) (n : Nat) : List Char → Nat × List Char
  | [] => (n, [])
  | c :: rest =>
    if n * 10 + digit c < bound then collect bound (n * 10 + digit c) rest else (n, c :: rest)

/-- Exponents of more than 31 bits are out of any range. -/
def exponentBound : Nat := 1 <<< 31

/-- The float value; `none` beyond the largest finite number. -/
def float? (t : NumberText) : Option Binary64 :=
  let (n, excess) := collect UInt64.size 0 t.whole
  let (n, left) := collect UInt64.size n t.fraction
  let scale : Int := (excess.length : Int) - (t.fraction.length - left.length : Nat)
  match t.exponent with
  | none => Binary64.ofDecimal? t.negative n scale
  | some (down, digits) =>
    match collect exponentBound 0 digits with
    | (e, []) => Binary64.ofDecimal? t.negative n (if down then scale - e else scale + e)
    | (_, _ :: _) => if n == 0 || down then some (Binary64.zero t.negative) else none

/-- The integer value, where the text is that of an integer of 64 bits. There is no `-0`. -/
def int? (t : NumberText) : Option Int :=
  if t.fraction.isEmpty && t.exponent.isNone then
    match collect UInt64.size 0 t.whole with
    | (n, []) =>
      if !t.negative then some n
      else if 0 < n && isInt64 (-n) then some (-n)
      else none
    | (_, _ :: _) => none
  else none

def value? (t : NumberText) : Option Json :=
  match t.int? with
  | some n => some (.int n)
  | none => t.float?.map .float

end NumberText

end HostFacets.Json
