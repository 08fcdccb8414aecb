import HostFacets.Facet.Answer
import HostFacets.Facet.Arguments
import HostFacets.Http.MediaType

/-!
The listings as an HTTP service.

`POST /api/v1/hosts/tags` and `POST /api/v1/hosts/operating-systems` take the arguments of a listing
as a JSON body; the header `x-org-id` restricts them to one organization. `GET /health` answers that
the service is up. What is no listing is refused by path, then method, then media type, then body.

A body is a text of any length here. Bodies that are not UTF-8, and those of more than 2 MB, which
the HTTP server refuses with status 413 before they are read, are left out. So are the texts of
refusals, which are the server's own, and the transport itself.
-/

namespace HostFacets.Http

open Search (Dialogue)

/-- A header value is any string of bytes. -/
structure Header where
  name : String
  value : List UInt8
deriving DecidableEq, Repr

structure Request where
  method : String
  target : String
  headers : List Header
  body : String
deriving DecidableEq, Repr

structure Response where
  status : Nat
  body : Option Json
deriving DecidableEq, Repr

/-- Header names have no case; of several headers with one name the first counts. -/
def header? (name : String) (headers : List Header) : Option (List UInt8) :=
  (headers.find? fun h => h.name.toLower == name).map (·.value)

/-- Printable ASCII, spaces and tabs. -/
def isVisible (byte : UInt8) : Bool := byte == 9 || (32 ≤ byte && byte < 127)

/-- The text of a header value without any other byte. -/
def visibleText? (value : List UInt8) : Option String :=
  if value.all isVisible then some (String.ofList (value.map fun byte => Char.ofNat byte.toNat))
  else none

/-! ### Scope -/

def orgHeader : String := "x-org-id"

/-- The constraints on the caller's organization. -/
def scope (headers : List Header) : List Constraint :=
  match (header? orgHeader headers).bind visibleText? with
  | none | some "" => []
  | some org => [Facet.orgScope org]

/-! ### Routes -/

inductive Route where
  | tags | operatingSystems | health
deriving DecidableEq, Repr

/-- The path of a request target: without its query, and without scheme and host. -/
def path (target : String) : String :=
  let cs := target.toList.takeWhile fun c => c != '?' && c != '#'
  String.ofList <|
    if cs.head? == some '/' then cs
    else match Text.cut? [':', '/', '/'] cs with
      | some (_, rest) => rest.dropWhile (· != '/')
      | none => cs

def Route.ofPath? : String → Option Route
  | "/api/v1/hosts/tags" => some .tags
  | "/api/v1/hosts/operating-systems" => some .operatingSystems
  | "/health" => some .health
  | _ => none

def acceptsBody (headers : List Header) : Bool :=
  match (header? "content-type" headers).bind visibleText? with
  | none => false
  | some text => ((MediaType.ofChars? text.toList).map MediaType.isJson).getD false

/-! ### Answers -/

def refusal (status : Nat) : Response := ⟨status, none⟩

def faultStatus : Json.Fault → Nat
  | .malformed => 400
  | .mismatch => 422

/-- An error is shown by its message alone. -/
def respond (reasons : Filter.Reasons) (render : ρ → Json) :
    Except Facet.Error (Facet.Page ρ) → Response
  | .ok page => ⟨200, some (page.toJson render)⟩
  | .error e => ⟨e.status, some (.obj [("error", .str (e.message reasons))])⟩

/-- Runs a listing on the body of a `POST` request. -/
def listing (reasons : Filter.Reasons) (request : Request) (arguments : Json.Reader α)
    (render : ρ → Json) (list : α → Dialogue (Except Facet.Error (Facet.Page ρ))) :
    Dialogue Response :=
  if request.method != "POST" then .done (refusal 405)
  else if !acceptsBody request.headers then .done (refusal 415)
  else match arguments.first request.body with
    | .error fault => .done (refusal (faultStatus fault))
    | .ok a => (list a).map (respond reasons render)

def health (method : String) : Response :=
  if method == "GET" then ⟨200, some (.obj [("status", .str "ok")])⟩
  else if method == "HEAD" then ⟨200, none⟩
  else refusal 405

def serve (reasons : Filter.Reasons) (catalog : Facet.Catalog) (request : Request) :
    Dialogue Response :=
  match Route.ofPath? (path request.target) with
  | none => .done (refusal 404)
  | some .health => .done (health request.method)
  | some .tags =>
    listing reasons request Facet.tagArguments Facet.tagRecord
      (Facet.listTags catalog (scope request.headers))
  | some .operatingSystems =>
    listing reasons request Facet.osArguments Facet.osRecord
      (Facet.listOperatingSystems catalog (scope request.headers))

end HostFacets.Http
