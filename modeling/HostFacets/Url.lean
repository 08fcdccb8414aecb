import HostFacets.Text.Cut
import HostFacets.Text.Digit

/-!
The path of a web address.

Dot segments are resolved, backslashes count as slashes, and characters that a path cannot hold are
written as percent codes of their bytes.
-/

namespace HostFacets.Url

def isSlash (c : Char) : Bool := c == '/' || c == '\\'

def isDropped (c : Char) : Bool := c == '\t' || c == '\n' || c == '\r'

/-- Characters that stand for themselves in a path. -/
def isPathChar (c : Char) : Bool :=
  0x20 < c.toNat && c.toNat < 0x7F && !(['"', '#', '<', '>', '?', '\x60', '{', '}'].contains c)

/-- A byte as two digits in upper case. -/
def percentCode (byte : UInt8) : List Char :=
  '%' :: (Text.byteDigits byte).map fun d => (Text.hexChar d).toUpper

def encodeChar (c : Char) : List Char :=
  if isPathChar c then [c] else (String.singleton c).toUTF8.toList.flatMap percentCode

/-- Dots may be written as percent codes. -/
def plainDots (segment : List Char) : List Char :=
  match segment with
  | '%' :: '2' :: 'e' :: rest | '%' :: '2' :: 'E' :: rest => '.' :: plainDots rest
  | c :: rest => c :: plainDots rest
  | [] => []

def isSingleDot (segment : List Char) : Bool := plainDots segment == ['.']

def isDoubleDot (segment : List Char) : Bool := plainDots segment == ['.', '.']

/-- The segments without dot segments; `done` holds those before in reverse. A dot segment at the
end leaves an empty one. -/
def resolve (done : List (List Char)) : List (List Char) → List (List Char)
  | [] => done.reverse
  | segment :: rest =>
    if isDoubleDot segment then
      resolve (if rest.isEmpty then [] :: done.drop 1 else done.drop 1) rest
    else if isSingleDot segment then resolve (if rest.isEmpty then [] :: done else done) rest
    else resolve (segment :: done) rest

/-- The path of an absolute address, as it is sent. -/
def path (address : String) : String :=
  let cs := address.toList.filter (!isDropped ·)
  let afterScheme := ((cs.dropWhile (· != ':')).drop 1).dropWhile isSlash
  let afterHost := afterScheme.dropWhile fun c => !isSlash c && c != '?' && c != '#'
  let path := afterHost.takeWhile fun c => c != '?' && c != '#'
  let resolved := resolve [] (Text.split isSlash (path.drop 1))
  String.ofList (resolved.flatMap fun segment => '/' :: segment.flatMap encodeChar)

end HostFacets.Url
