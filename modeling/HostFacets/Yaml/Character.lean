/-!
Characters of YAML texts, and the marks between documents.

A normalized text has line feeds for its line breaks, and the two separators of Unicode, which are
line breaks too.
-/

namespace HostFacets.Yaml

def isBlank (c : Char) : Bool := c == ' ' || c == '\t'

def isBreak (c : Char) : Bool := c == '\n' || c == '\u2028' || c == '\u2029'

/-- Characters of names: of anchors, of directives and between the marks of a tag's handle. -/
def isNameChar (c : Char) : Bool := c.isAlphanum || c == '_' || c == '-'

def isFlowIndicator (c : Char) : Bool := [',', '[', ']', '{', '}'].contains c

def isIndicator (c : Char) : Bool :=
  isFlowIndicator c || ['-', '?', ':', '#', '&', '*', '!', '|', '>', '\x27', '"', '%', '@',
    '\x60'].contains c

/-- The text is at its end, at a blank or at a line break. -/
def atGap : List Char → Bool
  | [] => true
  | c :: _ => isBlank c || isBreak c

/-- Three times the same mark; at the start of a line it starts or ends a document. -/
def atMarker (mark : Char) : List Char → Bool
  | a :: b :: c :: rest => a == mark && b == mark && c == mark && atGap rest
  | _ => false

def atDocumentMarker (cs : List Char) : Bool := atMarker '-' cs || atMarker '.' cs

/-- The number of characters up to the next line, if they are blanks and a comment. -/
def restOfLine? (cs : List Char) : Option Nat :=
  let line := cs.takeWhile fun c => !isBreak c
  match line.dropWhile isBlank with
  | [] | '#' :: _ => some (min (line.length + 1) cs.length)
  | _ => none

/-- Characters that a text may hold. -/
def isAllowed (c : Char) : Bool :=
  c == '\t' || c == '\n' || c == '\r' || (0x20 ≤ c.toNat && c.toNat ≤ 0x7E) || c.toNat == 0x85 ||
    (0xA0 ≤ c.toNat && c.toNat ≤ 0xFFFD) || 0x10000 ≤ c.toNat

/-- All line breaks as line feeds, but for the separators. -/
def normalizeBreaks : List Char → List Char
  | '\r' :: '\n' :: rest => '\n' :: normalizeBreaks rest
  | c :: rest => (if c == '\r' || c.toNat == 0x85 then '\n' else c) :: normalizeBreaks rest
  | [] => []

end HostFacets.Yaml
