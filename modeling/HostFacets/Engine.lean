import HostFacets.Search.Dialogue
import HostFacets.Settings
import HostFacets.Text.Base64
import HostFacets.Url

/-!
Search requests as HTTP messages to the engine, and its answers as replies. How messages travel,
and what goes wrong on the way, is left out.
-/

namespace HostFacets.Engine

open Search

/-- The HTTP message of a search request; all messages are JSON. -/
structure Message where
  method : String
  target : String
  contentType : String
  authorization : Option String
  body : Json
deriving Repr

/-- Slashes at the end of the engine's address do not count. -/
def trimSlashes (url : String) : String :=
  String.ofList (url.toList.reverse.dropWhile (· == '/')).reverse

def searchUrl (url index : String) : String := trimSlashes url ++ "/" ++ index ++ "/_search"

def authorization (user password : String) : String :=
  "Basic " ++ String.ofList (Text.base64 (user ++ ":" ++ password).toUTF8.toList)

def message (settings : EngineSettings) (request : Request) : Message where
  method := "POST"
  target := Url.path (searchUrl settings.url request.index)
  contentType := "application/json"
  authorization := settings.credentials?.map fun (user, password) => authorization user password
  body := request.body.toJson

/-- Answers with these statuses have no text. -/
def isBodiless (status : Nat) : Bool := status == 204 || status == 304

/-- The reply of an answer. A byte order mark at the start of its text does not count. -/
def reply (reason : String → String) (status : Nat) (text : String) : Reply :=
  let text := if isBodiless status then [] else text.toList
  let text := match text with
    | '\ufeff' :: rest => rest
    | text => text
  Reply.ofText reason status (String.ofList text)

end HostFacets.Engine
