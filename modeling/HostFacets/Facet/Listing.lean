import HostFacets.Facet.Error

/-!
Listing a page of a facet.

The arguments are settled first: page, order, filter. Then the engine is asked for all buckets, and
the page is cut from them. The engine refuses windows past its limit even where the page would be
empty; a second request then counts the matching hosts, and an offset beyond them means an empty
page.
-/

namespace HostFacets.Facet

structure Query where
  limit : Option Int := none
  offset : Option Int := none
  orderBy : Option String := none
  orderHow : Option String := none
  hostFilter : Option Filter := none
  /-- Constraints on the caller's account, which come before the host filter. -/
  scope : List Constraint := []

/-- A page of records, and the number of buckets it was cut from. -/
structure Page (ρ : Type) where
  records : List ρ
  total : Nat
deriving DecidableEq, Repr

/-- The index that is searched, and the fields its hosts have. -/
structure Catalog where
  index : String
  schema : Schema
deriving Repr

/-- Host fields lie under this path of the index. -/
def hostPath : List String := ["host"]

def orgField : String := "host.org_id"

/-- Only hosts of one organization. -/
def orgScope (org : String) : Constraint := .term orgField (.str org)

/-- What the arguments of a query ask of the engine. -/
structure Plan where
  window : Window
  order : List OrderClause
  filter : List Constraint

def plan (schema : Schema) (criterion? : String → Option SortField) (query : Query) :
    Except ArgumentFault Plan := do
  let window ← (Window.ofArguments query.limit query.offset).mapError .window
  let order ← (Order.ofArguments criterion? query.orderBy query.orderHow).mapError .order
  let filter ← (Filter.compile hostPath schema query.hostFilter).mapError .filter
  return { window, order, filter := query.scope ++ filter }

/-- The records of buckets in their order; the first bucket that cannot be read is the fault. -/
def decodeAll (facet : Facet ρ) : List Search.Bucket → Except UncutKey (List ρ)
  | [] => .ok []
  | bucket :: rest =>
    match facet.decode bucket with
    | .ok record => (decodeAll facet rest).map (record.toList ++ ·)
    | .error key => .error key

/-- The page cut from a response. -/
def page (facet : Facet ρ) (window : Window) (response : Search.Response) :
    Except Error (Page ρ) :=
  match decodeAll facet (window.cut response.buckets) with
  | .ok records => .ok ⟨records, response.buckets.length⟩
  | .error key => .error (.malformedKey key)

/-- What the count of matching hosts says about a page that the engine refused. -/
def recover (window : Window) (cause : Search.Error) : Search.Reply → Except Error (Page ρ)
  | .error e => .error (.backend e)
  | .ok count =>
    if window.offset ≤ count.hitsTotal then
      .error (.windowExceeded window.offset count.hitsTotal cause)
    else .ok ⟨[], 0⟩

def body (facet : Facet ρ) (plan : Plan) : Search.Body :=
  .ofAggregation plan.filter { facet.aggregation with order := plan.order }

open Search (Dialogue) in
def list (facet : Facet ρ) (catalog : Catalog) (query : Query) :
    Dialogue (Except Error (Page ρ)) :=
  match plan catalog.schema facet.criterion? query with
  | .error fault => .done (.error (.invalidArgument fault))
  | .ok plan =>
    let body := facet.body plan
    .ask ⟨catalog.index, body⟩ fun
      | .ok response => .done (facet.page plan.window response)
      | .error cause =>
        if cause.isWindowOverflow then
          .ask ⟨catalog.index, body.countOnly⟩ fun reply => .done (recover plan.window cause reply)
        else .done (.error (.backend cause))

end HostFacets.Facet
