import HostFacets.Http
import HostFacets.Proofs.Exchange
import HostFacets.Proofs.Interpretation

/-!
No request leaves the scope of its caller.

All requests of a call carry one filter: the constraints of the scope, then those of the host
filter. Over HTTP the scope is that of the organization header, as far as the header can be read as
text: a header with any other byte counts as missing.
-/

namespace HostFacets

/-! ### The filter that is sent -/

namespace Search.Body

/-- The list of constraints in the query of a rendered body. -/
def sentFilter? (body : Body) : Option Json :=
  ((body.toJson.get? "query").bind (·.get? "bool")).bind (·.get? "filter")

lemma sentFilter?_eq (body : Body) :
    body.sentFilter? = some (.arr (Constraint.toQueries body.filter)) := by
  rw [sentFilter?, get?_query_toJson]
  rfl

end Search.Body

/-! ### Calls -/

namespace Facet

open Search (Request Reply)

/-- Requests are confined to a scope: they go to the one index, and their filter is the scope
followed by the compiled host filter. -/
structure Confined (catalog : Catalog) (scope : List Constraint) (hostFilter : Option Filter)
    (sent : List Request) : Prop where
  index : ∀ r ∈ sent, r.index = catalog.index
  filter : ∀ r ∈ sent, ∃ compiled,
    Filter.compile hostPath catalog.schema hostFilter = .ok compiled ∧
      r.body.filter = scope ++ compiled

/-- A call of one of the listings, with its arguments. -/
inductive Call where
  | tags (arguments : TagArguments)
  | operatingSystems (query : Query)

def Call.hostFilter : Call → Option Filter
  | .tags arguments => arguments.query.hostFilter
  | .operatingSystems query => query.hostFilter

section

variable {catalog : Catalog} {scope : List Constraint} {hostFilter : Option Filter}
  {sent : List Request}

lemma confined_nil : Confined catalog scope hostFilter [] := ⟨by simp, by simp⟩

namespace Confined

variable {δ : Type u} (I : Interpretation δ)

lemma holds_of_matches (h : Confined catalog scope hostFilter sent) {r : Request} (hr : r ∈ sent)
    {d : δ} (hd : AllHold I r.body.filter d) {c : Constraint} (hc : c ∈ scope) : c.Holds I d := by
  obtain ⟨compiled, -, hfilter⟩ := h.filter r hr
  rw [hfilter, allHold_append] at hd
  exact (allHold_iff I).1 hd.1 c hc

lemma filter_eq (h : Confined catalog scope hostFilter sent) {r r' : Request} (hr : r ∈ sent)
    (hr' : r' ∈ sent) : r.body.filter = r'.body.filter := by
  obtain ⟨compiled, hcompiled, hfilter⟩ := h.filter r hr
  obtain ⟨compiled', hcompiled', hfilter'⟩ := h.filter r' hr'
  rw [hcompiled] at hcompiled'
  cases hcompiled'
  rw [hfilter, hfilter']

end Confined

end

section

variable {σ : Type u} (engine : σ → Request → Reply × σ) (state : σ) (catalog : Catalog)

/-- The requests of a call within a scope. -/
def Call.sent (scope : List Constraint) : Call → List Request
  | .tags arguments => (listTags catalog scope arguments).requests engine state
  | .operatingSystems query => (listOperatingSystems catalog scope query).requests engine state

/-- A listing of any facet is confined to the scope of its query. -/
lemma confined_list {ρ : Type} (facet : Facet ρ) (query : Query) :
    Confined catalog query.scope query.hostFilter
      ((facet.list catalog query).requests engine state) := by
  cases h : plan catalog.schema facet.criterion? query with
  | error fault =>
    rw [list_of_fault h]
    exact confined_nil
  | ok p =>
    obtain ⟨-, -, compiled, hcompiled, hfilter⟩ := plan_ok_iff.1 h
    have hex := exchange_of_plan engine h state
    constructor
    · intro r hr
      rcases hex.eq_of_mem_sent hr with rfl | rfl <;> rfl
    · intro r hr
      refine ⟨compiled, hcompiled, ?_⟩
      rcases hex.eq_of_mem_sent hr with rfl | rfl <;> exact hfilter

lemma confined_call (scope : List Constraint) (call : Call) :
    Confined catalog scope call.hostFilter (call.sent engine state catalog scope) := by
  cases call with
  | tags arguments =>
    exact confined_list engine state catalog (Facet.tags arguments.search)
      { arguments.query with scope }
  | operatingSystems query =>
    exact confined_list engine state catalog Facet.operatingSystems { query with scope }

/-- **No request leaves its scope**: whatever the arguments and the engine, all requests of a call
go to the index with the scope and then the host filter. So every document that one of them matches
lies in the scope, and all of them match the same documents. -/
theorem call_within_scope (scope : List Constraint) (call : Call) {δ : Type v}
    (I : Interpretation δ) :
    let sent := call.sent engine state catalog scope
    (∀ r ∈ sent, r.index = catalog.index ∧ ∃ compiled,
      Filter.compile hostPath catalog.schema call.hostFilter = .ok compiled ∧
        r.body.filter = scope ++ compiled ∧
        r.body.sentFilter? = some (.arr (Constraint.toQueries (scope ++ compiled)))) ∧
    (∀ r ∈ sent, ∀ d, AllHold I r.body.filter d → ∀ c ∈ scope, c.Holds I d) ∧
    ∀ r ∈ sent, ∀ r' ∈ sent, ∀ d, AllHold I r.body.filter d ↔ AllHold I r'.body.filter d := by
  intro sent
  have h : Confined catalog scope call.hostFilter sent :=
    confined_call engine state catalog scope call
  refine ⟨fun r hr => ⟨h.index r hr, ?_⟩, fun r hr d hd c hc => h.holds_of_matches I hr hd hc, ?_⟩
  · obtain ⟨compiled, hcompiled, hfilter⟩ := h.filter r hr
    exact ⟨compiled, hcompiled, hfilter, by rw [r.body.sentFilter?_eq, hfilter]⟩
  · intro r hr r' hr' d
    rw [h.filter_eq hr hr']

end

/-! ### A call that counts hosts -/

/-- A catalog with one field. -/
def namedCatalog : Catalog := ⟨"hosts", ⟨[⟨"name", .scalar .string, []⟩]⟩⟩

/-- Hosts without a name or named `web`, past the window of the engine. -/
def namedCall : Call :=
  .operatingSystems
    { offset := some 1000
      hostFilter := some ⟨[("OR", .arr [.obj [("name", .obj [("is", .null)])],
        .obj [("name", .obj [("eq", .str "web")])]])]⟩ }

def namedConstraints : List Constraint :=
  [.any [.all [.missing "host.name"], .all [.term "host.name" (.str "web")]]]

def namedCount : Request :=
  operatingSystems.countRequest "hosts"
    ⟨⟨10, 1000⟩, [Order.tieBreak], [orgScope "42"] ++ namedConstraints⟩

theorem call_within_scope_count :
    namedCount ∈ namedCall.sent (refusing 5) () namedCatalog [orgScope "42"] ∧
      (∃ compiled, Filter.compile hostPath namedCatalog.schema namedCall.hostFilter =
          .ok compiled ∧
        namedCount.body.filter = [orgScope "42"] ++ compiled) ∧
      ∀ d, AllHold Interpretation.listed namedCount.body.filter d →
        (orgScope "42").Holds Interpretation.listed d := by
  have hmem : namedCount ∈ namedCall.sent (refusing 5) () namedCatalog [orgScope "42"] :=
    List.mem_cons_of_mem _ List.mem_cons_self
  obtain ⟨hfilter, hwithin, -⟩ := call_within_scope (refusing 5) () namedCatalog [orgScope "42"]
    namedCall Interpretation.listed
  obtain ⟨-, compiled, hcompiled, hfilter, -⟩ := hfilter namedCount hmem
  exact ⟨hmem, ⟨compiled, hcompiled, hfilter⟩,
    fun d hd => hwithin namedCount hmem d hd _ List.mem_cons_self⟩

end Facet

/-! ### The organization header -/

namespace Http

open Facet
open Search (Reply)

/-- The values of all headers that name the organization. -/
def orgValues (headers : List Header) : List (List UInt8) :=
  (headers.filter (·.name.toLower == orgHeader)).map (·.value)

/-- The text of a header value, one character for each byte. -/
def headerText (value : List UInt8) : String :=
  String.ofList (value.map fun byte => Char.ofNat byte.toNat)

lemma header?_org (headers : List Header) :
    header? orgHeader headers = (orgValues headers).head? := by
  simp [header?, orgValues, List.head?_filter]

/-- One non-empty header is the scope where all its bytes are visible, and no scope otherwise. -/
lemma scope_of_orgValues {headers : List Header} {value : List UInt8}
    (h : orgValues headers = [value]) (hne : value ≠ []) :
    scope headers = if value.all isVisible then [orgScope (headerText value)] else [] := by
  rw [scope, header?_org, h]
  by_cases hvisible : value.all isVisible
  · have htext : headerText value ≠ "" := by
      simpa [headerText, String.ext_iff] using hne
    simp only [List.head?_cons, Option.bind_some, visibleText?, if_pos hvisible]
    split
    · next heq => cases heq
    · next heq => exact absurd (Option.some.inj heq) htext
    · next org _ heq => rw [← Option.some.inj heq, headerText]
  · simp [visibleText?, hvisible]

/-- The host filter in the body of a request for a listing. -/
def bodyFilter (request : Request) : Option Filter :=
  match Route.ofPath? (path request.target) with
  | some .tags => (tagArguments.first request.body).toOption.bind (·.query.hostFilter)
  | some .operatingSystems => (osArguments.first request.body).toOption.bind (·.hostFilter)
  | some .health | none => none

section

variable {σ : Type u} (engine : σ → Search.Request → Reply × σ) (state : σ)

/-- A route is confined to a scope if the listing behind it is, for all arguments. -/
lemma confined_listing {α ρ : Type} {reasons : Filter.Reasons} {catalog : Catalog}
    {scope : List Constraint} {request : Request} {arguments : Json.Reader α} {render : ρ → Json}
    {list : α → Search.Dialogue (Except Facet.Error (Page ρ))} {hostFilter : α → Option Filter}
    (h : ∀ a, Confined catalog scope (hostFilter a) ((list a).requests engine state)) :
    Confined catalog scope ((arguments.first request.body).toOption.bind hostFilter)
      ((listing reasons request arguments render list).requests engine state) := by
  unfold listing
  split
  · exact confined_nil
  split
  · exact confined_nil
  split
  · exact confined_nil
  · next a ha =>
    rw [Search.Dialogue.requests_map, ha]
    exact h a

/-- The requests that one HTTP request causes are confined to the scope of its headers. -/
lemma confined_serve (reasons : Filter.Reasons) (catalog : Catalog) (request : Request) :
    Confined catalog (scope request.headers) (bodyFilter request)
      ((serve reasons catalog request).requests engine state) := by
  have hcall := confined_call engine state catalog (scope request.headers)
  unfold serve bodyFilter
  rcases Route.ofPath? (path request.target) with _ | (_ | _ | _)
  · exact confined_nil
  · exact confined_listing engine state fun arguments => hcall (.tags arguments)
  · exact confined_listing engine state fun query => hcall (.operatingSystems query)
  · exact confined_nil

/-- **The organization header scopes exactly where it is visible.** With one non-empty header, all
requests to the engine begin with its constraint if every byte of it is visible; if some byte is
not, their filter is the host filter alone. -/
theorem serve_scoped_of_visible {reasons : Filter.Reasons} {catalog : Catalog}
    {request : Request} {value : List UInt8}
    (h : orgValues request.headers = [value]) (hne : value ≠ []) :
    ∀ r ∈ (serve reasons catalog request).requests engine state, ∃ compiled,
      Filter.compile hostPath catalog.schema (bodyFilter request) = .ok compiled ∧
        r.body.filter =
          (if value.all isVisible then [orgScope (headerText value)] else []) ++ compiled := by
  intro r hr
  obtain ⟨compiled, hcompiled, hfilter⟩ :=
    (confined_serve engine state reasons catalog request).filter r hr
  rw [scope_of_orgValues h hne] at hfilter
  exact ⟨compiled, hcompiled, hfilter⟩

end

/-! ### A header that is visible, and one that is not -/

/-- A request for operating systems on behalf of an organization. -/
def onBehalfOf (org : List UInt8) : Request :=
  ⟨"POST", "/api/v1/hosts/operating-systems",
    [⟨"content-type", "application/json".toUTF8.toList⟩, ⟨"X-Org-Id", org⟩],
    "\x7b\"limit\": 5\x7d"⟩

lemma orgValues_onBehalfOf (org : List UInt8) : orgValues (onBehalfOf org).headers = [org] := by
  cbv

lemma serve_onBehalfOf (reasons : Filter.Reasons) (catalog : Catalog) (org : List UInt8) :
    serve reasons catalog (onBehalfOf org) =
      (listOperatingSystems catalog (scope (onBehalfOf org).headers) { limit := some 5 }).map
        (respond reasons osRecord) := by
  have hroute : Route.ofPath? (path (onBehalfOf org).target) = some .operatingSystems := by cbv
  have haccept : acceptsBody (onBehalfOf org).headers = true := by cbv
  have hbody : osArguments.first (onBehalfOf org).body = .ok { limit := some 5 } := by cbv
  have hmethod : (onBehalfOf org).method = "POST" := rfl
  simp only [serve, hroute, listing, haccept, hbody, hmethod]
  rfl

/-- What is said of texts that are no timestamps or UUIDs. -/
def briefReasons : Filter.Reasons :=
  ⟨fun _ => "input contains invalid characters", fun _ => "invalid character"⟩

/-- What an organization asks of an engine with no hosts that refuses every window. -/
def firstRequest (scope : List Constraint) : Search.Request :=
  operatingSystems.bucketRequest bareCatalog.index ⟨⟨5, 0⟩, [Order.tieBreak], scope ++ []⟩

lemma firstRequest_mem (org : List UInt8) :
    firstRequest (scope (onBehalfOf org).headers) ∈
      (serve briefReasons bareCatalog (onBehalfOf org)).requests (refusing 0) () := by
  rw [serve_onBehalfOf, Search.Dialogue.requests_map]
  exact List.mem_cons_self

theorem serve_scoped_of_visible_digits :
    orgValues (onBehalfOf [52, 50]).headers = [[52, 50]] ∧ ([52, 50] : List UInt8) ≠ [] ∧
      firstRequest (scope (onBehalfOf [52, 50]).headers) ∈
        (serve briefReasons bareCatalog (onBehalfOf [52, 50])).requests (refusing 0) () ∧
      ∃ compiled,
        Filter.compile hostPath bareCatalog.schema (bodyFilter (onBehalfOf [52, 50])) =
            .ok compiled ∧
          (firstRequest (scope (onBehalfOf [52, 50]).headers)).body.filter =
            [orgScope "42"] ++ compiled :=
  ⟨orgValues_onBehalfOf _, by decide, firstRequest_mem _,
    serve_scoped_of_visible (refusing 0) () (orgValues_onBehalfOf _) (by decide) _
      (firstRequest_mem _)⟩

/-- A header that is not ASCII is present and not empty, and no constraint comes of it. -/
theorem serve_unscoped_of_accent :
    orgValues (onBehalfOf [0xC3, 0xA9]).headers = [[0xC3, 0xA9]] ∧
      ∃ r ∈ (serve briefReasons bareCatalog (onBehalfOf [0xC3, 0xA9])).requests (refusing 0) (),
        r.body.filter = [] := by
  have hscope : scope (onBehalfOf [0xC3, 0xA9]).headers = [] :=
    scope_of_orgValues (orgValues_onBehalfOf _) (by decide)
  refine ⟨orgValues_onBehalfOf _, _, firstRequest_mem _, ?_⟩
  rw [hscope]
  rfl

end Http

end HostFacets
