/-!
Finite binary64 numbers and their arithmetic.

A number is a sign, a significand below `2 ^ 53` and a power of two. Every operation is the exact
operation on naturals followed by one rounding to the nearest number, ties to the even significand,
so no step depends on how a machine computes.
-/

namespace HostFacets

structure Binary64 where
  negative : Bool
  significand : Nat
  exponent : Int
deriving DecidableEq, Repr

namespace Binary64

def precision : Nat := 53

/-- Significands lie below this bound, those of normal numbers in the upper half. -/
def significandBound : Nat := 1 <<< precision

def minExponent : Int := -1074

def maxExponent : Int := 971

def zero (negative : Bool) : Binary64 := ⟨negative, 0, minExponent⟩

def isZero (x : Binary64) : Bool := x.significand == 0

def neg (x : Binary64) : Binary64 := { x with negative := !x.negative }

/-- The quotient rounded to a natural, a half going to the even neighbour. -/
def divRoundEven (num den : Nat) : Nat :=
  let q := num / den
  let r := num % den
  if 2 * r > den || (2 * r == den && q % 2 == 1) then q + 1 else q

/-- `num / den` divided by `2 ^ e`, again as a ratio. -/
def descale (num den : Nat) (e : Int) : Nat × Nat :=
  (num <<< (-e).toNat, den <<< e.toNat)

/-- The exponent at which `num / den` has a significand of full precision, or the least exponent. -/
def exponentFor (num den : Nat) : Int :=
  let e : Int := (num.log2 : Int) - den.log2 - precision
  let (n, d) := descale num den e
  max (if n / d < significandBound then e else e + 1) minExponent

/-- The number nearest to `± num / den`, or `none` above the largest finite one. -/
def ofRatio? (negative : Bool) (num den : Nat) : Option Binary64 :=
  if num == 0 then some (zero negative) else
  let e := exponentFor num den
  let (n, d) := descale num den e
  let m := divRoundEven n d
  let (m, e) := if m == significandBound then (m / 2, e + 1) else (m, e)
  if e > maxExponent then none else some ⟨negative, m, e⟩

/-- Naturals of 64 bits never overflow, so the default is not reached for them. -/
def ofNat (n : Nat) : Binary64 := (ofRatio? false n 1).getD (zero false)

def ofInt (n : Int) : Binary64 :=
  if n < 0 then (ofNat n.natAbs).neg else ofNat n.natAbs

def mul? (x y : Binary64) : Option Binary64 :=
  let e := x.exponent + y.exponent
  ofRatio? (x.negative != y.negative)
    ((x.significand * y.significand) <<< e.toNat) (1 <<< (-e).toNat)

/-- Division by a nonzero number. -/
def div? (x y : Binary64) : Option Binary64 :=
  let e := x.exponent - y.exponent
  ofRatio? (x.negative != y.negative)
    (x.significand <<< e.toNat) (y.significand <<< (-e).toNat)

/-! ### Decimal scaling -/

def tenTo (k : Nat) : Nat := Nat.pow 10 k

/-- The number nearest to `10 ^ k`, for `k` up to 308. -/
def powerOfTen (k : Nat) : Binary64 := ofNat (tenTo k)

/-- `10 ^ 308` is the largest power of ten that is a finite number. -/
def maxDecimalShift : Nat := 308

/-- Division by `10 ^ k` in steps of at most `10 ^ 308`, each one rounded. -/
def shiftDown (x : Binary64) (k : Nat) : Option Binary64 :=
  if k ≤ maxDecimalShift then x.div? (powerOfTen k)
  else if x.isZero then some x
  else (x.div? (powerOfTen maxDecimalShift)).bind (shiftDown · (k - maxDecimalShift))
termination_by k
decreasing_by simp [maxDecimalShift] at *; omega

/-- Multiplication by `10 ^ k`, or `none` where the result is not finite. -/
def shiftUp (x : Binary64) (k : Nat) : Option Binary64 :=
  if k ≤ maxDecimalShift then x.mul? (powerOfTen k)
  else if x.isZero then some x
  else none

/-- `significand * 10 ^ exponent` computed from the rounded significand. -/
def ofDecimal? (negative : Bool) (significand : Nat) (exponent : Int) : Option Binary64 :=
  let magnitude :=
    if exponent < 0 then (ofNat significand).shiftDown exponent.natAbs
    else (ofNat significand).shiftUp exponent.natAbs
  magnitude.map fun x => { x with negative }

end Binary64

end HostFacets
