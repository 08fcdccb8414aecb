/-!
The page of a list that a caller asks for.

The engine returns all buckets in one response, so a page is cut from that list: the elements at the
positions from its offset on, as many as its limit allows. The same page can be cut with the
arithmetic of machine words, where sums do not grow without bound and a range that is not within the
list is refused.
-/

namespace HostFacets

structure Window where
  limit : Nat
  offset : Nat
deriving DecidableEq, Repr

namespace Window

def defaultLimit : Nat := 10

def defaultOffset : Nat := 0

def maxLimit : Nat := 100

/-- Why a pair of limit and offset is refused. -/
inductive Fault where
  | negativeLimit (limit : Int)
  | limitTooLarge (limit : Int)
  | negativeOffset (offset : Int)
deriving DecidableEq, Repr

def Fault.message : Fault → String
  | .negativeLimit n => s!"limit: value must be 0 or greater (was {n})"
  | .limitTooLarge n => s!"limit: value must be {maxLimit} or less (was {n})"
  | .negativeOffset n => s!"offset: value must be 0 or greater (was {n})"

def checkLimit : Option Int → Except Fault Unit
  | none => .ok ()
  | some n =>
    if n < 0 then .error (.negativeLimit n)
    else if n > maxLimit then .error (.limitTooLarge n)
    else .ok ()

def checkOffset : Option Int → Except Fault Unit
  | none => .ok ()
  | some n => if n < 0 then .error (.negativeOffset n) else .ok ()

/-- A natural, or the default for what is missing or negative. -/
def natOr (default : Nat) : Option Int → Nat
  | some n => if 0 ≤ n then n.toNat else default
  | none => default

/-- The window of unchecked arguments. -/
def normalize (limit offset : Option Int) : Window :=
  ⟨natOr defaultLimit limit, natOr defaultOffset offset⟩

/-- The window of checked arguments; a fault of the limit comes first. -/
def ofArguments (limit offset : Option Int) : Except Fault Window := do
  checkLimit limit
  checkOffset offset
  return normalize limit offset

def cut (window : Window) (items : List α) : List α :=
  (items.drop window.offset).take window.limit

theorem length_cut_le (window : Window) (items : List α) :
    (window.cut items).length ≤ window.limit :=
  List.length_take_le _ _

/-! ### Machine words -/

/-- The sum of two words, or the largest word if the sum is none. -/
def saturatingAdd (a b : UInt64) : UInt64 := .ofNatClamp (a.toNat + b.toNat)

/-- The items from one position up to another one; none if that is no range within the list. -/
def range? (items : List α) (start stop : UInt64) : Option (List α) :=
  if start ≤ stop ∧ stop.toNat ≤ items.length then
    some ((items.take stop.toNat).drop start.toNat)
  else none

/-- The page of a list whose length is a word. -/
def slice? (limit offset : UInt64) (items : List α) : Option (List α) :=
  let length := UInt64.ofNat items.length
  if length ≤ offset then some []
  else range? items offset (min (saturatingAdd offset limit) length)

end Window

end HostFacets
