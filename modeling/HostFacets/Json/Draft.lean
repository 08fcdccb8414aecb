import HostFacets.Json.Token

/-!
What a text spells, up to the place where it stops being JSON.

A draft keeps spellings, repeated names and the order of the members, so that whoever reads it can
tell which of several faults comes first in the text. The tokens are put together by a machine with
a stack of the containers that are still open.
-/

namespace HostFacets.Json

inductive Draft where
  | null
  | bool (value : Bool)
  | number (text : NumberText)
  | string (spelling : Spelling)
  | array (items : List Draft) (closed : Bool)
  | object (members : List (Spelling × Draft)) (closed : Bool)
  | broken
deriving Repr, Inhabited

namespace Draft

/-- A container that is still open, its contents so far in reverse. -/
inductive Frame where
  | array (items : List Draft)
  | member (members : List (Spelling × Draft)) (name : Spelling)

/-- What has to come next, below the open containers. -/
inductive Stage where
  | value (stack : List Frame)
  | item (done : List Draft) (stack : List Frame)
  | itemOrClose (stack : List Frame)
  | afterItem (done : List Draft) (stack : List Frame)
  | label (done : List (Spelling × Draft)) (stack : List Frame)
  | labelOrClose (stack : List Frame)
  | colon (done : List (Spelling × Draft)) (name : Spelling) (stack : List Frame)
  | afterMember (done : List (Spelling × Draft)) (stack : List Frame)
  | complete (draft : Draft)

/-- A finished value in its place. -/
def settle (draft : Draft) : List Frame → Stage
  | [] => .complete draft
  | .array done :: stack => .afterItem (draft :: done) stack
  | .member done name :: stack => .afterMember ((name, draft) :: done) stack

/-- All open containers left unclosed around a draft. -/
def abandon (draft : Draft) : List Frame → Draft
  | [] => draft
  | .array done :: stack => abandon (.array (draft :: done).reverse false) stack
  | .member done name :: stack => abandon (.object ((name, draft) :: done).reverse false) stack

/-- The draft of a text that stops being JSON at this stage. -/
def Stage.cut : Stage → Draft
  | .value stack => abandon .broken stack
  | .item done stack => abandon .broken (.array done :: stack)
  | .itemOrClose stack => abandon (.array [] false) stack
  | .afterItem done stack => abandon (.array done.reverse false) stack
  | .label done stack => abandon (.object done.reverse false) stack
  | .labelOrClose stack => abandon (.object [] false) stack
  | .colon done name stack => abandon .broken (.member done name :: stack)
  | .afterMember done stack => abandon (.object done.reverse false) stack
  | .complete draft => draft

/-- The first token of a value. -/
def begin? (token : Token) (stack : List Frame) : Option Stage :=
  match token with
  | .null => some (settle .null stack)
  | .bool b => some (settle (.bool b) stack)
  | .number t => some (settle (.number t) stack)
  | .string s => some (settle (.string s) stack)
  | .openArray => some (.itemOrClose stack)
  | .openObject => some (.labelOrClose stack)
  | _ => none

def Stage.step? (stage : Stage) (token : Token) : Option Stage :=
  match stage with
  | .value stack => begin? token stack
  | .item done stack => begin? token (.array done :: stack)
  | .itemOrClose stack =>
    match token with
    | .closeArray => some (settle (.array [] true) stack)
    | _ => begin? token (.array [] :: stack)
  | .afterItem done stack =>
    match token with
    | .comma => some (.item done stack)
    | .closeArray => some (settle (.array done.reverse true) stack)
    | _ => none
  | .label done stack =>
    match token with
    | .string name => some (.colon done name stack)
    | _ => none
  | .labelOrClose stack =>
    match token with
    | .string name => some (.colon [] name stack)
    | .closeObject => some (settle (.object [] true) stack)
    | _ => none
  | .colon done name stack =>
    match token with
    | .colon => some (.value (.member done name :: stack))
    | _ => none
  | .afterMember done stack =>
    match token with
    | .comma => some (.label done stack)
    | .closeObject => some (settle (.object done.reverse true) stack)
    | _ => none
  | .complete _ => none

/-- Runs the machine to the end of the first value; the tokens after it. -/
def Stage.run (stage : Stage) : List Token → Draft × List Token
  | [] => (stage.cut, [])
  | token :: rest =>
    match stage with
    | .complete draft => (draft, token :: rest)
    | stage =>
      match stage.step? token with
      | some next => next.run rest
      | none => (stage.cut, token :: rest)

/-- The first value of a text, and whether only blanks follow it. -/
def ofText (text : String) : Draft × Bool :=
  let (draft, rest) := (Stage.value []).run (Token.ofText text)
  (draft, rest.isEmpty)

end Draft

end HostFacets.Json
