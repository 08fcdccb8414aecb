import HostFacets.Json.Number
import HostFacets.Text.Digit

/-!
The tokens of JSON text, by a one-pass scan.

The scan remembers only what it is inside of: a gap between tokens, a word, a number, a string or
an escape. Where no token can go on it writes `junk` once and skips the rest.
-/

namespace HostFacets.Json

/-- A character of a string, or the code unit of a `\u` escape. -/
inductive Piece where
  | char (c : Char)
  | unit (code : Nat)
deriving DecidableEq, Repr

/-- A string as it is spelled. -/
abbrev Spelling := List Piece

inductive Token where
  | openArray | closeArray | openObject | closeObject | comma | colon
  | null
  | bool (value : Bool)
  | number (text : NumberText)
  | string (spelling : Spelling)
  | junk
deriving DecidableEq, Repr

namespace Token

/-- The part of a number that is being read. -/
inductive NumberPart where
  | minus | zero | whole | point | fraction | mark | sign | exponent
deriving DecidableEq, Repr

/-- A number may end after these parts only. -/
def NumberPart.final : NumberPart → Bool
  | .zero | .whole | .fraction | .exponent => true
  | .minus | .point | .mark | .sign => false

inductive Inside where
  | gap
  | word (token : Token) (rest : List Char)
  | number (part : NumberPart) (text : NumberText)
  | string (pieces : Spelling)
  | escape (pieces : Spelling)
  | hex (pieces : Spelling) (left : Nat) (code : Nat)
  | lost
deriving Repr

def isBlank (c : Char) : Bool := c == ' ' || c == '\n' || c == '\t' || c == '\r'

/-- The character a one-letter escape stands for. -/
def escaped? : Char → Option Char
  | '"' => some '"'
  | '\\' => some '\\'
  | '/' => some '/'
  | 'b' => some '\x08'
  | 'f' => some '\x0c'
  | 'n' => some '\n'
  | 'r' => some '\r'
  | 't' => some '\t'
  | _ => none

/-- The start of a token. -/
def start (c : Char) : Inside × List Token :=
  match c with
  | '[' => (.gap, [.openArray])
  | ']' => (.gap, [.closeArray])
  | '{' => (.gap, [.openObject])
  | '}' => (.gap, [.closeObject])
  | ',' => (.gap, [.comma])
  | ':' => (.gap, [.colon])
  | '"' => (.string [], [])
  | 'n' => (.word .null ['u', 'l', 'l'], [])
  | 't' => (.word (.bool true) ['r', 'u', 'e'], [])
  | 'f' => (.word (.bool false) ['a', 'l', 's', 'e'], [])
  | '-' => (.number .minus ⟨true, [], [], none⟩, [])
  | '0' => (.number .zero ⟨false, ['0'], [], none⟩, [])
  | c =>
    if isBlank c then (.gap, [])
    else if c.isDigit then (.number .whole ⟨false, [c], [], none⟩, [])
    else (.lost, [.junk])

/-- The next part of a number and its text with `c` added, where the number can go on with `c`. -/
def extend? (part : NumberPart) (text : NumberText) (c : Char) : Option (NumberPart × NumberText) :=
  let point := if c == '.' then some (.point, text) else none
  let mark :=
    if c == 'e' || c == 'E' then some (.mark, { text with exponent := some (false, []) }) else none
  let withWhole (part : NumberPart) := some (part, { text with whole := text.whole ++ [c] })
  let withFraction := some (NumberPart.fraction, { text with fraction := text.fraction ++ [c] })
  let withExponent :=
    let (down, digits) := text.exponent.getD (false, [])
    some (NumberPart.exponent, { text with exponent := some (down, digits ++ [c]) })
  match part with
  | .minus => if c == '0' then withWhole .zero else if c.isDigit then withWhole .whole else none
  | .zero => point.or mark
  | .whole => if c.isDigit then withWhole .whole else point.or mark
  | .point => if c.isDigit then withFraction else none
  | .fraction => if c.isDigit then withFraction else mark
  | .mark =>
    if c == '+' then some (.sign, text)
    else if c == '-' then some (.sign, { text with exponent := some (true, []) })
    else if c.isDigit then withExponent else none
  | .sign | .exponent => if c.isDigit then withExponent else none

/-- The end of a number before `c`, which then starts a token of its own. A digit cannot: it
follows a leading zero. -/
def endNumber (part : NumberPart) (text : NumberText) (c : Char) : Inside × List Token :=
  if part.final && !c.isDigit then
    let (inside, tokens) := start c
    (inside, .number text :: tokens)
  else (.lost, [.junk])

def step (inside : Inside) (c : Char) : Inside × List Token :=
  match inside with
  | .gap => start c
  | .word token rest =>
    match rest with
    | d :: rest =>
      if c != d then (.lost, [.junk])
      else if rest.isEmpty then (.gap, [token])
      else (.word token rest, [])
    | [] => (.lost, [.junk])
  | .number part text =>
    match extend? part text c with
    | some (part, text) => (.number part text, [])
    | none => endNumber part text c
  | .string pieces =>
    if c == '"' then (.gap, [.string pieces.reverse])
    else if c == '\\' then (.escape pieces, [])
    else if c.toNat < 0x20 then (.lost, [.junk])
    else (.string (.char c :: pieces), [])
  | .escape pieces =>
    if c == 'u' then (.hex pieces 4 0, [])
    else match escaped? c with
      | some d => (.string (.char d :: pieces), [])
      | none => (.lost, [.junk])
  | .hex pieces left code =>
    match Text.hexDigit? c with
    | some d =>
      let code := code * 16 + d
      if left ≤ 1 then (.string (.unit code :: pieces), []) else (.hex pieces (left - 1) code, [])
    | none => (.lost, [.junk])
  | .lost => (.lost, [])

/-- The last token, where the text ends. -/
def finish : Inside → List Token
  | .gap | .lost => []
  | .number part text => if part.final then [.number text] else [.junk]
  | .word _ _ | .string _ | .escape _ | .hex _ _ _ => [.junk]

def scan (inside : Inside) : List Char → List Token
  | [] => finish inside
  | c :: rest => (step inside c).2 ++ scan (step inside c).1 rest

def ofText (text : String) : List Token := scan .gap text.toList

end Token

/-- The text a spelling stands for. A code unit of a surrogate pair has to come with its partner. -/
def Spelling.decode? : Spelling → Option (List Char)
  | [] => some []
  | .char c :: rest => (decode? rest).map (c :: ·)
  | .unit hi :: rest =>
    if hi < 0xD800 || 0xE000 ≤ hi then (decode? rest).map (Char.ofNat hi :: ·)
    else match rest with
      | .unit lo :: rest =>
        if hi < 0xDC00 && 0xDC00 ≤ lo && lo < 0xE000 then
          (decode? rest).map (Char.ofNat (0x10000 + (hi - 0xD800) * 0x400 + (lo - 0xDC00)) :: ·)
        else none
      | _ => none

def Spelling.text? (s : Spelling) : Option String := s.decode?.map String.ofList

end HostFacets.Json
