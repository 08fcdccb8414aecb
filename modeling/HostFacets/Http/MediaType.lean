/-!
Media types of request bodies, `type/subtype+suffix; name=value`.

Names are tokens and compared without regard to case. The subtype ends at the last plus sign. A
parameter's value is a token or quoted, and a quoted value ends at the first quote after its first
character; parameters are checked for their form and otherwise ignored.
-/

namespace HostFacets.Http

structure MediaType where
  type : String
  subtype : String
  suffix : Option String
deriving DecidableEq, Repr

namespace MediaType

def isTokenChar (c : Char) : Bool :=
  c.isAlphanum ||
    ['!', '#', '$', '%', '&', '\x27', '*', '+', '-', '.', '^', '_', '\x60', '|', '~'].contains c

def isQuotable (c : Char) : Bool := 31 < c.toNat && c.toNat != 127

/-- The place reached in a list of parameters. -/
inductive Place where
  | gap | name | valueStart | value | quoteStart | quoted | afterQuote
deriving DecidableEq, Repr

namespace Place

def step? : Place → Char → Option Place
  | .gap, c => if c == ' ' then some .gap else if isTokenChar c then some .name else none
  | .name, c => if isTokenChar c then some .name else if c == '=' then some .valueStart else none
  | .valueStart, c =>
    if c == '"' then some .quoteStart else if isTokenChar c then some .value else none
  | .value, c => if isTokenChar c then some .value else if c == ';' then some .gap else none
  | .quoteStart, c => if isQuotable c then some .quoted else none
  | .quoted, c =>
    if c == '"' then some .afterQuote else if isQuotable c then some .quoted else none
  | .afterQuote, c => if c == ';' then some .gap else if c == ' ' then some .afterQuote else none

/-- A list of parameters may end here. A value may be empty only at the very end. -/
def isFinal : Place → Bool
  | .gap | .valueStart | .value | .afterQuote => true
  | .name | .quoteStart | .quoted => false

end Place

/-- The text after the first semicolon is a list of parameters, possibly an empty one. -/
def areParameters (text : List Char) : Bool :=
  match text.foldlM Place.step? .gap with
  | some place => place.isFinal
  | none => false

def lower (text : List Char) : String := String.ofList (text.map Char.toLower)

/-- The subtype and the suffix after the last plus sign; one at the very start is part of the
subtype. -/
def splitSuffix (text : List Char) : List Char × Option (List Char) :=
  let suffix := (text.reverse.takeWhile (· != '+')).reverse
  if suffix.length + 1 < text.length then
    (text.take (text.length - suffix.length - 1), some suffix)
  else (text, none)

def ofChars? (text : List Char) : Option MediaType :=
  let type := text.takeWhile (· != '/')
  match text.dropWhile (· != '/') with
  | [] => none
  | _ :: rest =>
    let name := rest.takeWhile (· != ';')
    let parameters := rest.dropWhile (· != ';')
    let (subtype, suffix) := splitSuffix name
    if type.isEmpty || !type.all isTokenChar || !name.all isTokenChar then none
    else if !parameters.isEmpty && (name.isEmpty || !areParameters parameters.tail) then none
    else some ⟨lower type, lower subtype, suffix.map lower⟩

/-- JSON, or a format that is written in JSON. -/
def isJson (m : MediaType) : Bool :=
  m.type == "application" && (m.subtype == "json" || m.suffix == some "json")

end MediaType

end HostFacets.Http
