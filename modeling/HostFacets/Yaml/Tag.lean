import HostFacets.Text.Digit
import HostFacets.Yaml.Character

/-!
Tags, and the directives before a document.

A tag is written in full, `!<text>`, or as a handle and a suffix: `!suffix`, `!!suffix`,
`!handle!suffix`. What a handle stands for is declared by a directive, `!` and `!!` are known
without one. Each reader gives what it read and the characters after it.
-/

namespace HostFacets.Yaml

/-- A tag as it is written. One without a handle is complete. -/
structure Tag where
  handle : String
  suffix : String
deriving DecidableEq, Repr

inductive Directive where
  | version (major minor : Nat)
  | handle (name text : String)
deriving DecidableEq, Repr

def isTagChar (complete : Bool) (c : Char) : Bool :=
  isNameChar c ||
    [';', '/', '?', ':', '@', '&', '=', '+', '$', '.', '%', '!', '~', '*', '\x27', '(',
      ')'].contains c ||
    (complete && [',', '[', ']'].contains c)

/-- Resolves escapes `%HH`, each an octet of a character in UTF-8. `left` octets are missing of the
character that is being read. -/
def unescape? (left value : Nat) : List Char → Option (List Char)
  | [] => if left = 0 then some [] else none
  | '%' :: high :: low :: rest => do
    let octet := 16 * (← Text.hexDigit? high).val + (← Text.hexDigit? low).val
    if left = 0 then
      if octet < 0x80 then return Char.ofNat octet :: (← unescape? 0 0 rest)
      else if octet / 0x20 = 6 then unescape? 1 (octet % 0x20) rest
      else if octet / 0x10 = 14 then unescape? 2 (octet % 0x10) rest
      else if octet / 8 = 30 then unescape? 3 (octet % 8) rest
      else none
    else if octet / 0x40 ≠ 2 then none
    else
      let value := value * 0x40 + octet % 0x40
      if left ≠ 1 then unescape? (left - 1) value rest
      else if value.isValidChar then return Char.ofNat value :: (← unescape? 0 0 rest)
      else none
  | c :: rest => if left = 0 && c != '%' then (unescape? 0 0 rest).map (c :: ·) else none

def tagText? (complete : Bool) (cs : List Char) : Option (String × List Char) := do
  let text ← unescape? 0 0 (cs.takeWhile (isTagChar complete))
  return (String.ofList text, cs.dropWhile (isTagChar complete))

/-- A handle with its mark at the end, after its first mark. -/
def handle? (cs : List Char) : Option (String × List Char) :=
  match cs.dropWhile isNameChar with
  | '!' :: rest => some ("!" ++ String.ofList (cs.takeWhile isNameChar) ++ "!", rest)
  | _ => none

namespace Tag

/-- A tag after its first mark. A mark alone is a complete tag. -/
def ofChars? (cs : List Char) : Option (Tag × List Char) :=
  match cs with
  | '<' :: rest => do
    match ← tagText? true rest with
    | (suffix, '>' :: rest) => if suffix.isEmpty then none else some (⟨"", suffix⟩, rest)
    | _ => none
  | _ => do
    match handle? cs with
    | some (handle, rest) =>
      let (suffix, rest) ← tagText? false rest
      if suffix.isEmpty then none else some (⟨handle, suffix⟩, rest)
    | none =>
      let (suffix, rest) ← tagText? false cs
      some (if suffix.isEmpty then ⟨"", "!"⟩ else ⟨"!", suffix⟩, rest)

/-- The text of a tag, if its handle is known. -/
def resolve? (handles : List (String × String)) (tag : Tag) : Option String :=
  if tag.handle.isEmpty then some tag.suffix
  else (handles.lookup tag.handle).map (· ++ tag.suffix)

end Tag

namespace Directive

/-- A number of at most nine digits. -/
def number? (cs : List Char) : Option (Nat × List Char) := do
  let digits := cs.takeWhile Char.isDigit
  if 9 < digits.length then none
  return (← Text.natOfDigits? 10 digits, cs.drop digits.length)

def version? (cs : List Char) : Option (Directive × List Char) := do
  let (major, rest) ← number? (cs.dropWhile isBlank)
  match rest with
  | '.' :: rest =>
    let (minor, rest) ← number? rest
    return (version major minor, rest)
  | _ => none

def declaration? (cs : List Char) : Option (Directive × List Char) :=
  match cs.dropWhile isBlank with
  | '!' :: rest => do
    let (name, rest) := (handle? rest).getD ("!", rest)
    if !isBlank (rest.headD 'x') then none
    let (text, rest) ← tagText? true (rest.dropWhile isBlank)
    if text.isEmpty || !atGap rest then none
    return (handle name text, rest)
  | _ => none

/-- A directive after its percent sign. -/
def ofChars? (cs : List Char) : Option (Directive × List Char) :=
  let rest := cs.dropWhile isNameChar
  if !atGap rest then none
  else match String.ofList (cs.takeWhile isNameChar) with
    | "YAML" => version? rest
    | "TAG" => declaration? rest
    | _ => none

/-- The handles that a document's directives declare, and those known without. A handle is declared
once, and the version given once; it is 1.1 or 1.2. -/
def handles? (directives : List Directive) : Option (List (String × String)) :=
  let declared := directives.filterMap fun
    | handle name text => some (name, text)
    | version _ _ => none
  let versions := directives.filterMap fun
    | version major minor => some (major, minor)
    | handle _ _ => none
  if (declared.map (·.1)).Nodup && [[], [(1, 1)], [(1, 2)]].contains versions then
    some (declared ++ [("!", "!"), ("!!", "tag:yaml.org,2002:")])
  else none

end Directive

end HostFacets.Yaml
