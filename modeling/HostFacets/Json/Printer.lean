import HostFacets.Json
import HostFacets.Binary64.Shortest
import HostFacets.Text.Digit

/-!
Compact JSON text: no blanks, the members of an object as they stand.

A float has the fewest digits that read back as it. They are written positionally, with a fraction,
for exponents from `-5` to `15`, otherwise with a signed exponent.
-/

namespace HostFacets.Json

namespace FloatText

/-- Exponents of the first digit that are written positionally. -/
def isPositional (leading : Int) : Bool := -5 ≤ leading && leading < 16

def trimZeros (digits : List Char) : List Char :=
  match (digits.reverse.dropWhile (· == '0')).reverse with
  | [] => ['0']
  | trimmed => trimmed

def zeros (n : Nat) : List Char := List.replicate n '0'

/-- Digits with the point after the one of exponent zero, at least one digit on either side. -/
def positional (digits : List Char) (leading : Int) : List Char :=
  if leading < 0 then '0' :: '.' :: zeros (leading.natAbs - 1) ++ digits
  else
    let n := leading.toNat + 1
    let whole := digits.take n ++ zeros (n - digits.length)
    let fraction := digits.drop n
    whole ++ '.' :: (if fraction.isEmpty then ['0'] else fraction)

/-- One digit before the point, and no point after a single digit. -/
def scientific (digits : List Char) (leading : Int) : List Char :=
  let mantissa := match digits with
    | [] => []
    | [d] => [d]
    | d :: rest => d :: '.' :: rest
  mantissa ++ 'e' :: (if leading < 0 then '-' else '+') :: Nat.toDigits 10 leading.natAbs

def magnitude (x : Binary64) : List Char :=
  if x.isZero then ['0', '.', '0'] else
  let decimal := x.shortest
  let digits := Nat.toDigits 10 decimal.digits
  let leading := decimal.scale + digits.length - 1
  let digits := trimZeros digits
  if isPositional leading then positional digits leading else scientific digits leading

def render (x : Binary64) : List Char :=
  if x.negative then '-' :: magnitude x else magnitude x

end FloatText

def intText (n : Int) : List Char :=
  if n < 0 then '-' :: Nat.toDigits 10 n.natAbs else Nat.toDigits 10 n.natAbs

/-- Only quotes, backslashes and control characters are escaped. -/
def escape (c : Char) : List Char :=
  match c with
  | '"' => ['\\', '"']
  | '\\' => ['\\', '\\']
  | '\x08' => ['\\', 'b']
  | '\x0c' => ['\\', 'f']
  | '\n' => ['\\', 'n']
  | '\r' => ['\\', 'r']
  | '\t' => ['\\', 't']
  | c =>
    if c.toNat < 0x20 then
      '\\' :: 'u' :: '0' :: '0' :: (Text.byteDigits c.toUInt8).map Text.hexChar
    else [c]

def stringText (s : String) : List Char := '"' :: s.toList.flatMap escape ++ ['"']

mutual

def chars : Json → List Char
  | .null => ['n', 'u', 'l', 'l']
  | .bool true => ['t', 'r', 'u', 'e']
  | .bool false => ['f', 'a', 'l', 's', 'e']
  | .int n => intText n
  | .float x => FloatText.render x
  | .str s => stringText s
  | .arr items => '[' :: itemChars items ++ [']']
  | .obj members => '{' :: memberChars members ++ ['}']

def itemChars : List Json → List Char
  | [] => []
  | [v] => chars v
  | v :: w :: rest => chars v ++ ',' :: itemChars (w :: rest)

def memberChars : List (String × Json) → List Char
  | [] => []
  | [(name, v)] => stringText name ++ ':' :: chars v
  | (name, v) :: entry :: rest =>
    stringText name ++ ':' :: chars v ++ ',' :: memberChars (entry :: rest)

end

/-- The compact text of a value. -/
def print (value : Json) : String := String.ofList value.chars

end HostFacets.Json
