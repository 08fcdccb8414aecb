import HostFacets.Text.Digit
import HostFacets.Yaml.Character

/-!
What the characters of a scalar stand for.

Words on one line keep the blanks between them. A line feed between two words is a space, each
further break stays a break, and blanks around breaks do not count. A block keeps its lines, or
folds those that do not start with a blank.

All texts are gathered in reverse.
-/

namespace HostFacets.Yaml

inductive Style where
  | plain | quoted | literal | folded
deriving DecidableEq, Repr

/-! ### Words -/

/-- What separates two words: blanks on a line, or line breaks. `joined` is set after an escaped
break, which adds nothing. -/
structure Gap where
  blanks : List Char := []
  breaks : List Char := []
  joined : Bool := false
deriving Repr

namespace Gap

def isBroken (g : Gap) : Bool := g.joined || !g.breaks.isEmpty

def isEmpty (g : Gap) : Bool := g.blanks.isEmpty && !g.isBroken

def add (c : Char) (g : Gap) : Gap :=
  if isBreak c then { g with breaks := c :: g.breaks }
  else if g.isBroken then g
  else { g with blanks := c :: g.blanks }

/-- The characters a gap stands for. -/
def fold (g : Gap) : List Char :=
  if g.joined then g.breaks.reverse
  else match g.breaks.reverse with
    | [] => g.blanks.reverse
    | ['\n'] => [' ']
    | '\n' :: more => more
    | breaks => breaks

end Gap

/-- The words of a scalar so far, and the gap after the last of them. -/
structure Words where
  text : List Char := []
  gap : Gap := {}
deriving Repr

namespace Words

/-- The text with the gap at its end. -/
def settled (w : Words) : List Char := w.gap.fold.reverse ++ w.text

def put (c : Char) (w : Words) : Words := { text := c :: w.settled }

def separate (c : Char) (w : Words) : Words := { w with gap := w.gap.add c }

end Words

/-! ### Plain scalars -/

/-- A plain scalar can start here. -/
def startsPlain (flow : Bool) : List Char → Bool
  | [] => false
  | c :: rest =>
    (!isIndicator c && !atGap (c :: rest)) || (c == '-' && !isBlank (rest.headD 'x')) ||
      (!flow && (c == '?' || c == ':') && !atGap rest)

/-- Inside brackets a colon may not stand directly before these. -/
def isColonClash (rest : List Char) : Bool :=
  match rest with
  | c :: _ => isFlowIndicator c || c == '?'
  | [] => false

/-- A plain scalar ends here. -/
def endsPlain (flow : Bool) : List Char → Bool
  | [] => true
  | c :: rest => (c == ':' && atGap rest) || (flow && isFlowIndicator c)

/-! ### Escapes -/

/-- The character a one-letter escape stands for. -/
def escaped? : Char → Option Char
  | '0' => some '\x00' | 'a' => some '\x07' | 'b' => some '\x08' | 't' => some '\t'
  | '\t' => some '\t' | 'n' => some '\n' | 'v' => some '\x0b' | 'f' => some '\x0c'
  | 'r' => some '\r' | 'e' => some '\x1b' | ' ' => some ' ' | '"' => some '"'
  | '/' => some '/' | '\\' => some '\\' | 'N' => some '\u0085' | '_' => some '\u00a0'
  | 'L' => some '\u2028' | 'P' => some '\u2029'
  | _ => none

/-- The number of digits after an escape that gives a code point. -/
def escapeWidth? : Char → Option Nat
  | 'x' => some 2
  | 'u' => some 4
  | 'U' => some 8
  | _ => none

def codePoint? (width : Nat) (cs : List Char) : Option Char := do
  let digits := cs.take width
  let n ← Text.natOfDigits? 16 digits
  if digits.length == width && n.isValidChar then some (Char.ofNat n) else none

/-- The character that an escape stands for, and how many characters follow the backslash. -/
def escape? : List Char → Option (Char × Nat)
  | [] => none
  | c :: rest =>
    match escapeWidth? c with
    | some width => (codePoint? width rest).map (·, width + 1)
    | none => (escaped? c).map (·, 1)

/-! ### Blocks -/

/-- How the line breaks at the end of a block are kept: all, none, or one. -/
inductive Chomp where
  | keep | strip | clip
deriving DecidableEq, Repr

/-- The lines of a block so far. `lead` is the break after the last line, `trailing` holds those of
the empty lines after it. The indentation is that of the first line unless the block gives its
`width`; it is at least `least`. -/
structure Block where
  style : Style
  chomp : Chomp
  least : Nat
  width : Option Nat
  deepest : Nat := 0
  text : List Char := []
  lead : Option Char := none
  trailing : List Char := []
  startsBlank : Bool := false
deriving Repr

def chomp? : List Char → Option Chomp
  | '+' :: _ => some .keep
  | '-' :: _ => some .strip
  | _ => none

def width? : List Char → Option Nat
  | c :: _ => if c.isDigit then some (c.toNat - '0'.toNat) else none
  | [] => none

/-- The chomping and the width of a block, in either order, and the number of characters they take
with the rest of their line. The width is counted from `indent`. -/
def blockHeader? (style : Style) (indent : Option Nat) (cs : List Char) : Option (Block × Nat) := do
  let (chomp, width) := match chomp? cs with
    | some chomp => (some chomp, width? (cs.drop 1))
    | none =>
      match width? cs with
      | some width => (chomp? (cs.drop 1), some width)
      | none => (none, none)
  let length := (if chomp.isSome then 1 else 0) + (if width.isSome then 1 else 0)
  if width == some 0 then none
  let line ← restOfLine? (cs.drop length)
  return ({
    style, chomp := chomp.getD .clip
    least := (indent.map (· + 1)).getD 1
    width := width.map (· + indent.getD 0) }, length + line)

namespace Block

/-- This column is in the margin. All are until the width is known. -/
def isMargin (column : Nat) (b : Block) : Bool := b.width.all (column < ·)

/-- The margin reaches to this column. -/
def reach (column : Nat) (b : Block) : Block := { b with deepest := max b.deepest column }

def fixWidth (b : Block) : Block := { b with width := some (b.width.getD (max b.deepest b.least)) }

/-- The first character of a line. -/
def startLine (c : Char) (b : Block) : Block :=
  let folds := b.style == .folded && b.lead == some '\n' && !b.startsBlank && !isBlank c
  let joint :=
    if folds then (if b.trailing.isEmpty then [' '] else [])
    else b.lead.toList
  { b with
    text := c :: (b.trailing ++ joint ++ b.text)
    lead := none, trailing := [], startsBlank := isBlank c }

def settled (b : Block) : List Char :=
  match b.chomp with
  | .strip => b.text
  | .clip => b.lead.toList ++ b.text
  | .keep => b.trailing ++ b.lead.toList ++ b.text

end Block

end HostFacets.Yaml
