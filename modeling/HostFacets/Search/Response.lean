import HostFacets.Json.Reader
import HostFacets.Text.Cut

/-!
What the search engine answers: buckets and a total, or an error.

The total is a number, or in newer engines an object that holds it. An error has an envelope whose
`error` is an object with root causes, or a plain string; any other text is taken as the reason.
-/

namespace HostFacets.Search

open Json Json.Reader

structure Bucket where
  key : String
  docCount : Nat
  countError : Int := 0
deriving DecidableEq, Repr

structure Response where
  buckets : List Bucket
  hitsTotal : Nat
deriving DecidableEq, Repr

structure RootCause where
  kind : String
  reason : String
deriving DecidableEq, Repr

inductive Error where
  /-- The engine could not be reached. -/
  | transport (cause : String)
  /-- The engine refused the request. -/
  | rejected (status : Nat) (reason : String) (rootCauses : List RootCause)
  /-- The engine answered something else than a search response. -/
  | unexpected (detail : String)
deriving DecidableEq, Repr

abbrev Reply := Except Error Response

namespace Error

def message : Error → String
  | .transport cause => "search transport failed: " ++ cause
  | .rejected status reason _ => s!"search rejected with status {status}: {reason}"
  | .unexpected detail => "unexpected search response: " ++ detail

def rootCauses : Error → List RootCause
  | .rejected _ _ causes => causes
  | .transport _ | .unexpected _ => []

/-- How the engine words a page beyond its result window. -/
def windowPhrase : String := "Result window is too large"

/-- The engine refused the page because it lies beyond the result window. -/
def isWindowOverflow (e : Error) : Bool :=
  e.rootCauses.any fun cause => (Text.cut? windowPhrase.toList cause.reason.toList).isSome

end Error

/-! ### Responses -/

def bucketFields : List (RecordField Bucket) :=
  [field "key" .required text fun key b => { b with key },
    field "doc_count" .required nat64 fun docCount b => { b with docCount },
    field "doc_count_error_upper_bound" .defaulted int64 fun countError b => { b with countError }]

def bucket : Reader Bucket := record bucketFields ⟨"", 0, 0⟩

def total : Reader Nat :=
  either nat64 (recordObject [field "value" .required nat64 fun n _ => n] 0)

/-- The total of a `hits` object; none where it is null or left out. -/
def hits : Reader (Option Nat) :=
  record [field "total" .defaulted (optional total) fun n _ => n] none

def terms : Reader (List Bucket) :=
  record [field "buckets" .defaulted (list bucket) fun buckets _ => buckets] []

def aggregations : Reader (List Bucket) :=
  record [field "terms" .defaulted (optional terms) fun buckets _ => buckets.getD []] []

def responseFields : List (RecordField Response) :=
  [field "hits" .defaulted (optional hits) fun n r => { r with hitsTotal := (n.join).getD 0 },
    field "aggregations" .defaulted (optional aggregations) fun buckets r =>
      { r with buckets := buckets.getD [] }]

def response : Reader Response := record responseFields ⟨[], 0⟩

/-- Reads the text of a successful answer. Of a text that is none, `reason` says why, in the words
of the library that reads it. -/
def Response.ofText (reason : String → String) (text : String) : Reply :=
  match response.whole text with
  | .ok r => .ok r
  | .error _ => .error (.unexpected (reason text))

/-! ### Errors -/

def rootCause : Reader RootCause :=
  record [field "type" .defaulted text fun kind c => { c with kind },
    field "reason" .defaulted text fun reason c => { c with reason }] ⟨"", ""⟩

/-- The reason and the root causes of an error. -/
structure Failure where
  reason : String
  rootCauses : List RootCause
deriving DecidableEq, Repr

def structuredFailure : Reader Failure :=
  recordObject [
    field "root_cause" .defaulted (list rootCause) fun rootCauses f => { f with rootCauses },
    field "reason" .defaulted text fun reason f => { f with reason }] ⟨"", []⟩

def plainFailure : Reader Failure := fun depth draft =>
  (text depth draft).map fun reason => ⟨reason, []⟩

def envelope : Reader Failure :=
  record [field "error" .required (either structuredFailure plainFailure) fun f _ => f] ⟨"", []⟩

/-- Reads the text of a refusal. -/
def Error.ofText (status : Nat) (text : String) : Error :=
  match envelope.whole text with
  | .ok f => .rejected status f.reason f.rootCauses
  | .error _ => .rejected status text []

/-- Reads the text of an answer with its status; only `2xx` is success. -/
def Reply.ofText (reason : String → String) (status : Nat) (text : String) : Reply :=
  if 200 ≤ status && status < 300 then Response.ofText reason text
  else .error (.ofText status text)

end HostFacets.Search
