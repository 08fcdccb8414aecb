import HostFacets.Yaml.Scalar
import HostFacets.Yaml.Tag

/-!
The tokens of a YAML text, as a one-pass scan.

Blocks are told apart by the columns at which they start: an entry further right opens a block, one
further left closes it. Inside brackets columns do not matter. That a node is a key shows only at
its colon, so the place where it started is remembered, and the tokens that belong before it are
inserted there. A key and its colon stand on one line, at most 1024 bytes apart.
-/

namespace HostFacets.Yaml

inductive Token where
  | directive (d : Directive)
  | documentStart | documentEnd
  | beginItems | beginEntries | endBlock
  | leftBracket | rightBracket | leftBrace | rightBrace
  | dash | comma | key | colon
  | anchor (name : String)
  | alias (name : String)
  | tag (t : Tag)
  | scalar (style : Style) (text : String)
deriving DecidableEq, Repr

namespace Token

/-- A place where a key may have started. It is `required` where a block can only go on with a key;
`before` counts the tokens before it. -/
structure KeyStart where
  line : Nat
  column : Nat
  offset : Nat
  before : Nat
  required : Bool
deriving Repr

def maxKeyLength : Nat := 1024

/-- What the scan stands in. `skipped` leaves out that many characters more, which have been read
already. -/
inductive Inside where
  | gap | comment
  | plain (words : Words)
  | single (words : Words)
  | double (words : Words)
  | margin (block : Block)
  | line (block : Block)
  | skipped (more : Nat) (next : Inside)
deriving Repr

def skip : Nat → Inside → Inside
  | 0, next => next
  | n + 1, next => .skipped n next

/-- The state of a scan: its place, of which lines and columns count from zero and `offset` counts
bytes; the tokens so far, in reverse; the columns of the open blocks, innermost first; whether a key
may start here, and where one may have started, in the innermost brackets and around them. -/
structure Scan where
  line : Nat := 0
  column : Nat := 0
  offset : Nat := 0
  tokens : List Token := []
  count : Nat := 0
  levels : List Nat := []
  keyAllowed : Bool := true
  keyStart : Option KeyStart := none
  outerKeys : List (Option KeyStart) := []
  inside : Inside := .gap
deriving Repr

namespace Scan

/-- The scan is inside brackets. -/
def flow (s : Scan) : Bool := !s.outerKeys.isEmpty

/-- This column is further right than the innermost block. -/
def isIndented (column : Nat) (s : Scan) : Bool := s.levels.head?.all (· < column)

def emit (t : Token) (s : Scan) : Scan := { s with tokens := t :: s.tokens, count := s.count + 1 }

def enter (inside : Inside) (s : Scan) : Scan := { s with inside }

def allowKey (allowed : Bool) (s : Scan) : Scan := { s with keyAllowed := allowed }

def advance (c : Char) (s : Scan) : Scan :=
  let s := { s with offset := s.offset + c.utf8Size }
  if isBreak c then { s with line := s.line + 1, column := 0 }
  else { s with column := s.column + 1 }

/-! ### Blocks -/

/-- Closes the blocks that start at this column or further right. -/
def close (column : Nat) (s : Scan) : Scan :=
  if s.flow then s
  else
    let closed := (s.levels.takeWhile (column ≤ ·)).length
    { s with
      tokens := List.replicate closed .endBlock ++ s.tokens
      count := s.count + closed
      levels := s.levels.drop closed }

/-- Opens a block here unless the innermost one goes on. -/
def openBlock (begin : Token) (s : Scan) : Scan :=
  if s.isIndented s.column then { s.emit begin with levels := s.column :: s.levels } else s

/-- Outside of brackets the marks of entries stand where keys may stand. -/
def startEntry? (begin : Token) (s : Scan) : Option Scan :=
  if s.flow then some s else if s.keyAllowed then some (s.openBlock begin) else none

/-! ### Keys -/

/-- What may have been a key is none. -/
def dropKey? (s : Scan) : Option Scan :=
  if s.keyStart.any (·.required) then none else some { s with keyStart := none }

/-- A key may start here. -/
def saveKey? (s : Scan) : Option Scan := do
  if !s.keyAllowed then return s
  let s ← s.dropKey?
  return { s with
    keyStart := some {
      line := s.line, column := s.column, offset := s.offset, before := s.count
      required := !s.flow && s.levels.head? == some s.column } }

/-- A key that started there can no longer end here. -/
def isStale (s : Scan) (k : KeyStart) : Bool :=
  k.line < s.line || k.offset + maxKeyLength < s.offset

def dropStaleKeys? (s : Scan) : Option Scan :=
  let isStale (k : Option KeyStart) := k.any s.isStale
  let isLost (k : Option KeyStart) := k.any fun k => k.required && s.isStale k
  let renew (k : Option KeyStart) := if isStale k then none else k
  if isLost s.keyStart || s.outerKeys.any isLost then none
  else some { s with keyStart := renew s.keyStart, outerKeys := s.outerKeys.map renew }

/-- Marks a key where it started, and the block that it opens. -/
def insertKey (k : KeyStart) (s : Scan) : Scan :=
  let opens := !s.flow && s.isIndented k.column
  let marks := if opens then [.key, .beginEntries] else [.key]
  let later := s.count - k.before
  { s with
    tokens := s.tokens.take later ++ marks ++ s.tokens.drop later
    count := s.count + marks.length
    levels := if opens then k.column :: s.levels else s.levels
    keyStart := none }

def colon? (s : Scan) : Option Scan := do
  match s.keyStart with
  | some k => return ((s.insertKey k).allowKey false).emit .colon
  | none => return ((← s.startEntry? .beginEntries).allowKey !s.flow).emit .colon

/-! ### Tokens -/

def openFlow? (t : Token) (s : Scan) : Option Scan := do
  let s ← s.saveKey?
  return { s.emit t with
    keyStart := none, outerKeys := s.keyStart :: s.outerKeys, keyAllowed := true }

def closeFlow? (t : Token) (s : Scan) : Option Scan := do
  let s ← s.dropKey?
  let s := (s.emit t).allowKey false
  match s.outerKeys with
  | [] => return s
  | keyStart :: outerKeys => return { s with keyStart, outerKeys }

/-- A node begins that may be a key. -/
def startNode? (inside : Inside) (s : Scan) : Option Scan := do
  return ((← s.saveKey?).allowKey false).enter inside

/-- A name may end here. -/
def endsName : List Char → Bool
  | c :: rest => atGap (c :: rest) || ['?', ':', ',', ']', '}', '%', '@', '\x60'].contains c
  | [] => true

/-- A name after its mark. -/
def name? (t : String → Token) (rest : List Char) (s : Scan) : Option Scan := do
  let name := rest.takeWhile isNameChar
  let after := rest.drop name.length
  if name.isEmpty || !endsName after then none
  return (← s.startNode? (skip name.length .gap)).emit (t (String.ofList name))

def tag? (rest : List Char) (s : Scan) : Option Scan := do
  let (t, after) ← Tag.ofChars? rest
  if !atGap after && !(s.flow && after.head? == some ',') then none
  return (← s.startNode? (skip (rest.length - after.length) .gap)).emit (.tag t)

def block? (style : Style) (rest : List Char) (s : Scan) : Option Scan := do
  let (block, length) ← blockHeader? style s.levels.head? rest
  return ((← s.dropKey?).allowKey true).enter (skip length (.margin block))

def directive? (rest : List Char) (s : Scan) : Option Scan := do
  let (d, after) ← Directive.ofChars? rest
  let line ← restOfLine? after
  let s ← (s.close 0).dropKey?
  return ((s.emit (.directive d)).allowKey false).enter
    (skip (rest.length - after.length + line) .gap)

def documentMark? (t : Token) (s : Scan) : Option Scan := do
  return (((← (s.close 0).dropKey?).emit t).allowKey false).enter (skip 2 .gap)

/-- The token that starts with this character. -/
def start? (c : Char) (rest : List Char) (s : Scan) : Option Scan := do
  let s ← s.dropStaleKeys?
  let s := s.close (s.column + 1)
  if s.column == 0 && c == '%' then s.directive? rest
  else if s.column == 0 && atMarker '-' (c :: rest) then s.documentMark? .documentStart
  else if s.column == 0 && atMarker '.' (c :: rest) then s.documentMark? .documentEnd
  else match c with
    | '[' => s.openFlow? .leftBracket
    | '{' => s.openFlow? .leftBrace
    | ']' => s.closeFlow? .rightBracket
    | '}' => s.closeFlow? .rightBrace
    | ',' => return ((← s.dropKey?).allowKey true).emit .comma
    | '*' => s.name? .alias rest
    | '&' => s.name? .anchor rest
    | '!' => s.tag? rest
    | '\x27' => s.startNode? (.single {})
    | '"' => s.startNode? (.double {})
    | _ =>
      if c == '-' && atGap rest then
        return ((← (← s.startEntry? .beginItems).dropKey?).allowKey true).emit .dash
      else if c == '?' && (s.flow || atGap rest) then
        return ((← (← s.startEntry? .beginEntries).dropKey?).allowKey !s.flow).emit .key
      else if c == ':' && (s.flow || atGap rest) then s.colon?
      else if c == '|' && !s.flow then s.block? .literal rest
      else if c == '>' && !s.flow then s.block? .folded rest
      else if startsPlain s.flow (c :: rest) then s.startNode? (.plain { text := [c] })
      else none

/-- Between tokens. Tabs do not stand where a key may start, and a line may start with a byte order
mark. -/
def gap? (c : Char) (rest : List Char) (s : Scan) : Option Scan :=
  if (c == '\ufeff' && s.column == 0) || c == ' ' || (c == '\t' && (s.flow || !s.keyAllowed)) then
    some s
  else if c == '#' then some (s.enter .comment)
  else if isBreak c then some (s.allowKey (s.keyAllowed || !s.flow))
  else s.start? c rest

def comment? (c : Char) (rest : List Char) (s : Scan) : Option Scan :=
  if isBreak c then (s.enter .gap).gap? c rest else some s

/-! ### Scalars -/

/-- The text of a scalar in reverse. -/
def emitScalar (style : Style) (text : List Char) (s : Scan) : Scan :=
  (s.emit (.scalar style (String.ofList text.reverse))).enter .gap

def endPlain (w : Words) (s : Scan) : Scan :=
  (s.emitScalar .plain w.text).allowKey (s.keyAllowed || w.gap.isBroken)

/-- Outside of brackets each line of a plain scalar is indented, and tabs do not indent. -/
def plain? (w : Words) (c : Char) (rest : List Char) (s : Scan) : Option Scan :=
  let outside := w.gap.isBroken && !s.isIndented s.column
  if c == '\t' && outside then none
  else if isBlank c || isBreak c then some (s.enter (.plain (w.separate c)))
  else if (outside && !s.flow) || (s.column == 0 && atDocumentMarker (c :: rest)) ||
      (c == '#' && !w.gap.isEmpty) then
    (s.endPlain w).gap? c rest
  else if s.flow && c == ':' && isColonClash rest then none
  else if endsPlain s.flow (c :: rest) then (s.endPlain w).gap? c rest
  else some (s.enter (.plain (w.put c)))

/-- A doubled quote inside single quotes is a quote. -/
def single? (w : Words) (c : Char) (rest : List Char) (s : Scan) : Option Scan :=
  if s.column == 0 && atDocumentMarker (c :: rest) then none
  else if c == '\x27' then
    if rest.head? == some '\x27' then some (s.enter (skip 1 (.single (w.put c))))
    else some (s.emitScalar .quoted w.settled)
  else if isBlank c || isBreak c then some (s.enter (.single (w.separate c)))
  else some (s.enter (.single (w.put c)))

def double? (w : Words) (c : Char) (rest : List Char) (s : Scan) : Option Scan :=
  if s.column == 0 && atDocumentMarker (c :: rest) then none
  else if c == '"' then some (s.emitScalar .quoted w.settled)
  else if isBlank c || isBreak c then some (s.enter (.double (w.separate c)))
  else if c != '\\' then some (s.enter (.double (w.put c)))
  else if rest.head?.any isBreak then
    some (s.enter (skip 1 (.double { text := w.settled, gap := { joined := true } })))
  else (escape? rest).map fun (d, length) => s.enter (skip length (.double (w.put d)))

def endBlockScalar (b : Block) (s : Scan) : Scan := s.emitScalar b.style b.settled

/-- Before the first character of a block's line. -/
def margin? (b : Block) (c : Char) (rest : List Char) (s : Scan) : Option Scan :=
  if c == ' ' && b.isMargin s.column then some (s.enter (.margin (b.reach (s.column + 1))))
  else if c == '\t' && b.isMargin s.column then none
  else if isBreak c then some (s.enter (.margin { b with trailing := c :: b.trailing }))
  else
    let b := b.fixWidth
    if b.width == some s.column then some (s.enter (.line (b.startLine c)))
    else (s.endBlockScalar b).gap? c rest

/-- In a line of a block. -/
def content (b : Block) (c : Char) (s : Scan) : Scan :=
  if isBreak c then s.enter (.margin { b with lead := some c })
  else s.enter (.line { b with text := c :: b.text })

/-! ### The scan -/

def step? (c : Char) (rest : List Char) (s : Scan) : Option Scan := do
  let next ← match s.inside with
    | .gap => s.gap? c rest
    | .comment => s.comment? c rest
    | .plain w => s.plain? w c rest
    | .single w => s.single? w c rest
    | .double w => s.double? w c rest
    | .margin b => s.margin? b c rest
    | .line b => some (s.content b c)
    | .skipped more next => some (s.enter (skip more next))
  return next.advance c

def run? (s : Scan) : List Char → Option Scan
  | [] => some s
  | c :: rest => do (← s.step? c rest).run? rest

/-- Ends a scalar at the end of the text. Quotes have to be closed. -/
def endScalar? (s : Scan) : Option Scan :=
  match s.inside with
  | .gap | .comment => some s
  | .plain w => some (s.endPlain w)
  | .margin b | .line b => some (s.endBlockScalar b)
  | .single _ | .double _ | .skipped _ _ => none

def finish? (s : Scan) : Option (List Token) := do
  let s ← (← s.endScalar?).dropStaleKeys?
  return (← (s.close 0).dropKey?).tokens.reverse

end Scan

/-- The tokens of a text. -/
def ofText? (text : String) : Option (List Token) := do
  let cs := text.toList
  if !cs.all isAllowed then none
  (← Scan.run? {} (normalizeBreaks cs)).finish?

end Token

end HostFacets.Yaml
