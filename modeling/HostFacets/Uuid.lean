import HostFacets.Text.Digit

/-!
UUIDs, 128-bit identities with several spellings: 32 digits, digits hyphenated 8-4-4-4-12, and the
hyphenated form in braces or after `urn:uuid:`. They are written hyphenated in lower case.
-/

namespace HostFacets

/-- The digits of the 128-bit value, the most significant first. -/
structure Uuid where
  digits : List (Fin 16)
  length_digits : digits.length = 32
deriving DecidableEq, Repr

namespace Uuid

def groups : List Nat := [8, 4, 4, 4, 12]

/-- Removes the hyphens between groups of the given lengths. -/
def joinGroups? : List Nat → List Char → Option (List Char)
  | [], _ => none
  | [n], cs => if cs.length = n then some cs else none
  | n :: rest, cs =>
    match cs.drop n with
    | '-' :: tail => (joinGroups? rest tail).map (cs.take n ++ ·)
    | _ => none

/-- Puts hyphens between groups of the given lengths. -/
def splitGroups : List Nat → List Char → List Char
  | [], cs | [_], cs => cs
  | n :: rest, cs => cs.take n ++ '-' :: splitGroups rest (cs.drop n)

def ofDigits? (cs : List Char) : Option Uuid := do
  let digits ← cs.mapM Text.hexDigit?
  if h : digits.length = 32 then some ⟨digits, h⟩ else none

def urn : List Char := ['u', 'r', 'n', ':', 'u', 'u', 'i', 'd', ':']

/-- The hyphenated form inside braces or after the name of the URN, in any case. -/
def unwrap (cs : List Char) : List Char :=
  if cs.head? = some '{' ∧ cs.getLast? = some '}' then cs.tail.dropLast
  else if (cs.take urn.length).map Char.toLower = urn then cs.drop urn.length
  else cs

def ofString? (s : String) : Option Uuid :=
  let cs := s.toList
  if cs.length = 32 then ofDigits? cs
  else (joinGroups? groups (unwrap cs)).bind ofDigits?

def hyphenated (u : Uuid) : String :=
  String.ofList (splitGroups groups (u.digits.map Text.hexChar))

end Uuid

end HostFacets
