import HostFacets.Text.Digit

/-!
Timestamps in the internet date and time format.

A date, one of `T`, `t` and a space, a time of day with an optional fraction of any length, and an
offset from universal time. Years have four digits, days are those of the Gregorian calendar, a
second may be a leap second, and an offset lies within a day.
-/

namespace HostFacets.Timestamp

/-- A reader of a part of a timestamp: what it reads, and the rest. -/
abbrev Part (α : Type) := List Char → Option (α × List Char)

def digit : Part Nat
  | c :: rest => (Text.digit? 10 c).map fun d => (d, rest)
  | [] => none

/-- A number of exactly `n` digits. -/
def number : Nat → Nat → Part Nat
  | 0, acc, cs => some (acc, cs)
  | n + 1, acc, cs =>
    match digit cs with
    | some (d, rest) => number n (acc * 10 + d) rest
    | none => none

/-- A number of exactly `n` digits from `least` to `most`. -/
def within (n least most : Nat) : Part Nat := fun cs =>
  match number n 0 cs with
  | some (v, rest) => if least ≤ v ∧ v ≤ most then some (v, rest) else none
  | none => none

/-- One of the characters `options`. -/
def oneOf (options : List Char) : Part Char
  | c :: rest => if options.contains c then some (c, rest) else none
  | [] => none

def isLeapYear (year : Nat) : Bool :=
  year % 4 == 0 && (year % 100 != 0 || year % 400 == 0)

def daysInMonth (year month : Nat) : Nat :=
  if month == 2 then (if isLeapYear year then 29 else 28)
  else if month == 4 || month == 6 || month == 9 || month == 11 then 30
  else 31

def date : Part Unit := fun cs => do
  let (year, cs) ← number 4 0 cs
  let (_, cs) ← oneOf ['-'] cs
  let (month, cs) ← within 2 1 12 cs
  let (_, cs) ← oneOf ['-'] cs
  let (_, cs) ← within 2 1 (daysInMonth year month) cs
  return ((), cs)

/-- A point and at least one digit, or nothing. -/
def fraction : Part Unit
  | '.' :: rest => do
    let (_, rest) ← digit rest
    return ((), rest.dropWhile fun c => (Text.digit? 10 c).isSome)
  | cs => some ((), cs)

def timeOfDay : Part Unit := fun cs => do
  let (_, cs) ← within 2 0 23 cs
  let (_, cs) ← oneOf [':'] cs
  let (_, cs) ← within 2 0 59 cs
  let (_, cs) ← oneOf [':'] cs
  let (_, cs) ← within 2 0 60 cs
  fraction cs

/-- `Z` in either case, or hours and minutes after a sign; the sign may be a true minus. -/
def offset : Part Unit := fun cs =>
  match oneOf ['Z', 'z'] cs with
  | some (_, rest) => some ((), rest)
  | none => do
    let (_, cs) ← oneOf ['+', '-', '−'] cs
    let (_, cs) ← within 2 0 23 cs
    let (_, cs) ← oneOf [':'] cs
    let (_, cs) ← within 2 0 59 cs
    return ((), cs)

/-- The text is a timestamp and nothing else. -/
def isValid (s : String) : Bool :=
  let rest := do
    let (_, cs) ← date s.toList
    let (_, cs) ← oneOf ['T', 't', ' '] cs
    let (_, cs) ← timeOfDay cs
    let (_, cs) ← offset cs
    return cs
  rest == some []

end HostFacets.Timestamp
