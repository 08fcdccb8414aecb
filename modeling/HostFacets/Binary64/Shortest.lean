import HostFacets.Binary64

/-!
The shortest decimal that reads back as a given binary64 number.

The reals that round to a number form an interval around it. On each decimal grid, coarse ones
first, only the two grid points next to the number can be the nearest in that interval; the first
grid with such a point gives the fewest digits, and the nearer of its two points the digits.
-/

namespace HostFacets.Binary64

/-- `digits * 10 ^ scale`. -/
structure Decimal where
  digits : Nat
  scale : Int
deriving DecidableEq, Repr

/-- The exponent of the first digit of `significand * 2 ^ exponent`: the power of two gives it up to
one, since `30103 / 100000` is close enough to the logarithm of two for all binary64 exponents. -/
def leadingExponent (x : Binary64) : Int :=
  let e : Int := (x.significand.log2 + x.exponent) * 30103 / 100000
  let next := e + 1
  if tenTo next.toNat <<< (-x.exponent).toNat ≤
      x.significand <<< x.exponent.toNat * tenTo (-next).toNat then next else e

/-- Four times the number and the ends of its rounding interval, in units of a quarter of the last
binary place. Below a power of two the numbers lie twice as dense. -/
def quarters (x : Binary64) : Nat × Nat × Nat :=
  let v := 4 * x.significand
  let below := if 2 * x.significand == significandBound && x.exponent > minExponent then 1 else 2
  (v - below, v, v + 2)

/-- The grid point of `10 ^ scale` nearest to the number among those that read back as it. -/
def nearestOnGrid (x : Binary64) (scale : Int) : Option Nat :=
  let (lo, v, hi) := x.quarters
  let e := x.exponent - 2
  let a := tenTo (-scale).toNat <<< e.toNat
  let b := tenTo scale.toNat <<< (-e).toNat
  let inside (c : Nat) : Bool :=
    if x.significand % 2 == 0 then lo * a ≤ c * b && c * b ≤ hi * a
    else lo * a < c * b && c * b < hi * a
  let c := v * a / b
  let down := v * a - c * b
  let up := (c + 1) * b - v * a
  match inside c && c != 0, inside (c + 1) with
  | true, true => if down < up || (down == up && c % 2 == 0) then some c else some (c + 1)
  | true, false => some c
  | false, true => some (c + 1)
  | false, false => none

/-- Grids from `n` digits to `n + more` digits, the first with a hit. -/
def firstGrid (x : Binary64) (leading : Int) (n : Nat) : Nat → Decimal
  | 0 => ⟨((nearestOnGrid x (leading + 1 - n)).getD 0), leading + 1 - n⟩
  | more + 1 =>
    let scale := leading + 1 - n
    match nearestOnGrid x scale with
    | some c => ⟨c, scale⟩
    | none => firstGrid x leading (n + 1) more

/-- Seventeen digits always suffice. -/
def shortest (x : Binary64) : Decimal := firstGrid x x.leadingExponent 1 16

end HostFacets.Binary64
