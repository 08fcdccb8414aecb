import HostFacets.Yaml.Token

/-!
YAML documents: scalars, sequences and mappings.

A scalar is kept as its text with the way in which it was written, since readers of numbers and of
empty values ask for it. An alias stands for the node with its anchor that began last. Nodes are put
together from tokens by a machine with a stack of the collections that are still open.

Any number of aliases may be followed. The usual guard against documents that grow too large, which
gives up after a hundred aliases for each event of a document, is left out.
-/

namespace HostFacets.Yaml

inductive Node where
  | scalar (style : Style) (tag : Option String) (text : String)
  | sequence (items : List Node)
  | mapping (entries : List (Node × Node))
  /-- An alias within the node that it stands for. Reading it would never end. -/
  | loop
deriving Repr, Inhabited

namespace Node

/-- Nothing at all where a node is due. -/
def empty : Node := .scalar .plain none ""

/-- What stands before a node. Anchors count from the first one of the document. -/
structure Properties where
  anchor : Option Nat := none
  tag : Option String := none
deriving Repr

def Properties.isEmpty (p : Properties) : Bool := p.anchor.isNone && p.tag.isNone

/-- A collection that is still open, with its anchor and with its contents so far in reverse. It
says where a finished node goes; one that goes to `flowEntries` is a key without a value. A sequence
below a key that is indented no further is `bare`: no token opens or closes it. -/
inductive Frame where
  | items (anchor : Option Nat) (done : List Node)
  | bareItems (anchor : Option Nat) (done : List Node)
  | key (anchor : Option Nat) (done : List (Node × Node))
  | value (anchor : Option Nat) (done : List (Node × Node)) (key : Node)
  | flowItems (anchor : Option Nat) (done : List Node)
  | pairKey
  | pairValue (key : Node)
  | flowEntries (anchor : Option Nat) (done : List (Node × Node))
  | flowKey (anchor : Option Nat) (done : List (Node × Node))
  | flowValue (anchor : Option Nat) (done : List (Node × Node)) (key : Node)
deriving Repr

/-- What has to come next, below the open collections: a node, an item or entry in brackets, or the
mark after a node. -/
inductive Stage where
  | node (properties : Properties) (stack : List Frame)
  | part (stack : List Frame)
  | mark (stack : List Frame)
  | complete (node : Node)
deriving Repr

/-- A finished node in its place. -/
def settle (node : Node) : List Frame → Stage
  | [] => .complete node
  | .items a done :: stack => .mark (.items a (node :: done) :: stack)
  | .bareItems a done :: stack => .mark (.bareItems a (node :: done) :: stack)
  | .key a done :: stack => .mark (.value a done node :: stack)
  | .value a done key :: stack => .mark (.key a ((key, node) :: done) :: stack)
  | .flowItems a done :: stack => .mark (.flowItems a (node :: done) :: stack)
  | .pairKey :: stack => .mark (.pairValue node :: stack)
  | .pairValue key :: stack => settle (.mapping [(key, node)]) stack
  | .flowEntries a done :: stack => .mark (.flowEntries a ((node, empty) :: done) :: stack)
  | .flowKey a done :: stack => .mark (.flowValue a done node :: stack)
  | .flowValue a done key :: stack => .mark (.flowEntries a ((key, node) :: done) :: stack)

/-- The state of the machine: what tag handles stand for, the names of anchors, latest first, the
finished nodes that have anchors, and what comes next. -/
structure Build where
  handles : List (String × String)
  anchors : List (String × Nat) := []
  anchored : List (Nat × Node) := []
  stage : Stage := .node {} []
deriving Repr

namespace Build

def goOn (stage : Stage) (b : Build) : Build := { b with stage }

/-- A finished node that may have an anchor. -/
def put (anchor : Option Nat) (node : Node) (stack : List Frame) (b : Build) : Build :=
  { b with
    anchored := (anchor.map (·, node)).toList ++ b.anchored
    stage := settle node stack }

/-- The node that an alias stands for. -/
def aliased? (name : String) (b : Build) : Option Node :=
  (b.anchors.lookup name).map fun anchor => (b.anchored.lookup anchor).getD .loop

/-- A scalar; the tag that is a mark alone says nothing. -/
def putScalar (p : Properties) (style : Style) (text : String) (stack : List Frame) (b : Build) :
    Build :=
  b.put p.anchor (.scalar style (p.tag.filter (· != "!")) text) stack

/-! ### After a node -/

def afterEntry? (a : Option Nat) (done : List (Node × Node)) (stack : List Frame) (t : Token)
    (b : Build) : Option Build :=
  match t with
  | .key => some (b.goOn (.node {} (.key a done :: stack)))
  | .endBlock => some (b.put a (.mapping done.reverse) stack)
  | _ => none

def afterKey? (a : Option Nat) (done : List (Node × Node)) (key : Node) (stack : List Frame)
    (t : Token) (b : Build) : Option Build :=
  match t with
  | .colon => some (b.goOn (.node {} (.value a done key :: stack)))
  | t => b.afterEntry? a ((key, empty) :: done) stack t

def afterFlowItem? (a : Option Nat) (done : List Node) (stack : List Frame) (t : Token)
    (b : Build) : Option Build :=
  match t with
  | .comma => some (b.goOn (.part (.flowItems a done :: stack)))
  | .rightBracket => some (b.put a (.sequence done.reverse) stack)
  | _ => none

def afterFlowEntry? (a : Option Nat) (done : List (Node × Node)) (stack : List Frame) (t : Token)
    (b : Build) : Option Build :=
  match t with
  | .comma => some (b.goOn (.part (.flowEntries a done :: stack)))
  | .rightBrace => some (b.put a (.mapping done.reverse) stack)
  | _ => none

/-- The mark after a node. A value may be missing, which shows at the mark after it. -/
def mark? (stack : List Frame) (t : Token) (b : Build) : Option Build :=
  match stack with
  | .items a done :: stack =>
    match t with
    | .dash => some (b.goOn (.node {} (.items a done :: stack)))
    | .endBlock => some (b.put a (.sequence done.reverse) stack)
    | _ => none
  | .bareItems a done :: stack =>
    match t with
    | .dash => some (b.goOn (.node {} (.bareItems a done :: stack)))
    | t =>
      let b := b.put a (.sequence done.reverse) stack
      match b.stage with
      | .mark (.key a done :: stack) => b.afterEntry? a done stack t
      | .mark (.value a done key :: stack) => b.afterKey? a done key stack t
      | _ => none
  | .key a done :: stack => b.afterEntry? a done stack t
  | .value a done key :: stack => b.afterKey? a done key stack t
  | .flowItems a done :: stack => b.afterFlowItem? a done stack t
  | .pairValue key :: .flowItems a done :: stack =>
    match t with
    | .colon => some (b.goOn (.node {} (.pairValue key :: .flowItems a done :: stack)))
    | t => b.afterFlowItem? a (.mapping [(key, empty)] :: done) stack t
  | .flowEntries a done :: stack => b.afterFlowEntry? a done stack t
  | .flowValue a done key :: stack =>
    match t with
    | .colon => some (b.goOn (.node {} (.flowValue a done key :: stack)))
    | t => b.afterFlowEntry? a ((key, empty) :: done) stack t
  | _ => none

/-! ### At a node -/

/-- A node may be missing before this token. -/
def mayMiss (stack : List Frame) (t : Token) : Bool :=
  match stack with
  | .items _ _ :: _ => [.dash, .endBlock].contains t
  | .bareItems _ _ :: _ => [.dash, .key, .colon, .endBlock].contains t
  | .key _ _ :: _ | .value _ _ _ :: _ => [.key, .colon, .endBlock].contains t
  | .pairKey :: _ => [.colon, .comma, .rightBracket].contains t
  | .pairValue _ :: _ => [.comma, .rightBracket].contains t
  | .flowKey _ _ :: _ => [.colon, .comma, .rightBrace].contains t
  | .flowValue _ _ _ :: _ => [.comma, .rightBrace].contains t
  | .flowItems _ _ :: _ | .flowEntries _ _ :: _ | [] => false

/-- A token that starts no node stands where one is due. Properties alone are an empty scalar. The
token after a missing key of a pair is passed over. -/
def missing? (p : Properties) (stack : List Frame) (t : Token) (b : Build) : Option Build :=
  if p.isEmpty && !mayMiss stack t then none
  else
    let b := b.putScalar p .plain "" stack
    match stack, b.stage with
    | .pairKey :: _, .mark stack => if p.isEmpty then some b else b.mark? stack t
    | _, .mark stack => b.mark? stack t
    | _, _ => none

def node? (p : Properties) (stack : List Frame) (t : Token) (b : Build) : Option Build :=
  match t with
  | .anchor name =>
    if p.anchor.isNone then
      let anchor := b.anchors.length
      some { b with
        anchors := (name, anchor) :: b.anchors
        stage := .node { p with anchor := some anchor } stack }
    else b.missing? p stack t
  | .tag tag =>
    if p.tag.isNone then
      (tag.resolve? b.handles).map fun text => b.goOn (.node { p with tag := some text } stack)
    else b.missing? p stack t
  | .alias name =>
    if p.isEmpty then (b.aliased? name).map fun node => b.put none node stack
    else b.missing? p stack t
  | .scalar style text => some (b.putScalar p style text stack)
  | .beginItems => some (b.goOn (.mark (.items p.anchor [] :: stack)))
  | .beginEntries => some (b.goOn (.mark (.key p.anchor [] :: stack)))
  | .leftBracket => some (b.goOn (.part (.flowItems p.anchor [] :: stack)))
  | .leftBrace => some (b.goOn (.part (.flowEntries p.anchor [] :: stack)))
  | .dash =>
    match stack with
    | .key _ _ :: _ | .value _ _ _ :: _ =>
      some (b.goOn (.node {} (.bareItems p.anchor [] :: stack)))
    | _ => b.missing? p stack t
  | _ => b.missing? p stack t

/-- An item or an entry in brackets, or the bracket at the end. -/
def part? (stack : List Frame) (t : Token) (b : Build) : Option Build :=
  match stack, t with
  | .flowItems a done :: stack, .rightBracket => some (b.put a (.sequence done.reverse) stack)
  | .flowItems _ _ :: _, .key => some (b.goOn (.node {} (.pairKey :: stack)))
  | .flowEntries a done :: stack, .rightBrace => some (b.put a (.mapping done.reverse) stack)
  | .flowEntries a done :: stack, .key => some (b.goOn (.node {} (.flowKey a done :: stack)))
  | _, _ => b.node? {} stack t

def step? (b : Build) (t : Token) : Option Build :=
  match b.stage with
  | .node p stack => b.node? p stack t
  | .part stack => b.part? stack t
  | .mark stack => b.mark? stack t
  | .complete _ => none

/-- The node of a document. It may be missing after a marker. -/
def finish? (marked : Bool) (b : Build) : Option Node :=
  match b.stage with
  | .complete node => some node
  | .node p [] => if marked || !p.isEmpty then some (.scalar .plain none "") else none
  | _ => none

end Build

/-! ### Documents -/

/-- The node of a single document, after its marker if it has one. -/
def ofBody? (handles : List (String × String)) (marked : Bool) (ts : List Token) : Option Node := do
  let isBody (t : Token) := t != .documentEnd
  if !(ts.dropWhile isBody).all (· == .documentEnd) then none
  (← (ts.takeWhile isBody).foldlM Build.step? { handles }).finish? marked

/-- The node of the only document of these tokens. Directives need a marker after them. -/
def ofTokens? (ts : List Token) : Option Node := do
  let directives := (ts.takeWhile fun | .directive _ => true | _ => false).filterMap fun
    | .directive d => some d
    | _ => none
  let handles ← Directive.handles? directives
  match ts.drop directives.length with
  | .documentStart :: ts => ofBody? handles true ts
  | ts => if directives.isEmpty then ofBody? handles false ts else none

/-- The node of a text that holds exactly one document. -/
def ofText? (text : String) : Option Node := (Token.ofText? text).bind ofTokens?

end Node

end HostFacets.Yaml
