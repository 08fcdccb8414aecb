import HostFacets.Proofs.Pages

/-!
How a request for a listing ends.

There are five endings. Each has its status and its number of requests to the engine, and the two
tell it from the others. Only a page has data; every other ending shows the message of its error.
-/

namespace HostFacets

/-! ### Replies of a dialogue -/

namespace Search.Dialogue

variable {α β : Type} {σ : Type u} (engine : σ → Request → Reply × σ)

/-- The replies that come back, in their order. -/
def replies (state : σ) : Dialogue α → List Reply
  | .done _ => []
  | .ask request next =>
    (engine state request).1 ::
      (next (engine state request).1).replies (engine state request).2

@[simp] lemma replies_done (state : σ) (a : α) : (done a).replies engine state = [] := rfl

@[simp] lemma replies_ask (state : σ) (request : Request) (next : Reply → Dialogue α) :
    (ask request next).replies engine state = (engine state request).1 ::
      (next (engine state request).1).replies engine (engine state request).2 := rfl

@[simp] lemma replies_map (state : σ) (f : α → β) (d : Dialogue α) :
    (d.map f).replies engine state = d.replies engine state := by
  induction d generalizing state with
  | done a => rfl
  | ask request next ih => simp [map, ih]

/-- Every request has its reply. -/
lemma length_replies (state : σ) (d : Dialogue α) :
    (d.replies engine state).length = (d.requests engine state).length := by
  induction d generalizing state with
  | done a => rfl
  | ask request next ih => simp [ih]

end Search.Dialogue

namespace Facet

/-- The replies are those to the requests of the plan, as many as are sent. -/
lemma replies_of_plan {ρ : Type} {facet : Facet ρ} {catalog : Catalog} {query : Query} {p : Plan}
    {σ : Type u} (engine : σ → Search.Request → Search.Reply × σ)
    (h : plan catalog.schema facet.criterion? query = .ok p) (state : σ) :
    let first := engine state (facet.bucketRequest catalog.index p)
    let second := engine first.2 (facet.countRequest catalog.index p)
    (facet.list catalog query).replies engine state =
      [first.1, second.1].take ((facet.list catalog query).requests engine state).length := by
  intro first second
  rw [list_of_plan h, Search.Dialogue.replies_ask, Search.Dialogue.requests_ask]
  cases (engine state (facet.bucketRequest catalog.index p)).1 with
  | ok response => simp [follow]
  | error e => by_cases ho : e.isWindowOverflow <;> simp [first, second, follow, ho]

/-! ### Pages that cannot be read -/

lemma exists_decode_error {ρ : Type} {facet : Facet ρ} {buckets : List Search.Bucket}
    {key : UncutKey} (h : decodeAll facet buckets = .error key) :
    ∃ b ∈ buckets, facet.decode b = .error key := by
  induction buckets with
  | nil => cases h
  | cons b rest ih =>
    simp only [decodeAll] at h
    split at h
    · next record hb =>
      cases hrest : decodeAll facet rest with
      | ok records => simp [hrest, Except.map] at h
      | error key' =>
        simp only [hrest, Except.map, Except.error.injEq] at h
        obtain ⟨b', hmem, hb'⟩ := ih (h ▸ hrest)
        exact ⟨b', List.mem_cons_of_mem _ hmem, hb'⟩
    · next key' hb =>
      cases h
      exact ⟨b, List.mem_cons_self, hb⟩

/-- Only the key of a tag makes reading fail. -/
lemma Call.exists_tag_of_decode_error {call : Call} {b : Search.Bucket} {key : UncutKey}
    (h : call.facet.decode b = .error key) :
    ∃ arguments, call = .tags arguments ∧ Tag.ofKey b.key = .error key := by
  have hunread : ¬ ∃ row, call.Reads b row := by
    rintro ⟨row, hrow⟩
    cases h.symm.trans (decode_of_reads hrow)
  obtain ⟨arguments, key', hcall, hkey, hdecode⟩ := fault_of_not_reads hunread
  cases h.symm.trans hdecode
  exact ⟨arguments, hcall, hkey⟩

def Call.render : (call : Call) → call.Record → Json
  | .tags _ => tagRecord
  | .operatingSystems _ => osRecord

end Facet

namespace Http

open Facet
open Search (Reply)

/-! ### Requests for listings -/

/-- A body that is sent as JSON. -/
structure PostsJson (request : Request) : Prop where
  method : request.method = "POST"
  accepted : acceptsBody request.headers

/-- A request for a listing, with its arguments in the body. -/
inductive Asks (request : Request) : Call → Prop where
  | tags {arguments : TagArguments} (hpost : PostsJson request)
    (hroute : Route.ofPath? (path request.target) = some .tags)
    (hbody : tagArguments.first request.body = .ok arguments) : Asks request (.tags arguments)
  | operatingSystems {query : Query} (hpost : PostsJson request)
    (hroute : Route.ofPath? (path request.target) = some .operatingSystems)
    (hbody : osArguments.first request.body = .ok query) : Asks request (.operatingSystems query)

lemma listing_of_postsJson {α ρ : Type} {reasons : Filter.Reasons} {request : Request}
    {arguments : Json.Reader α} {a : α} (hpost : PostsJson request)
    (hbody : arguments.first request.body = .ok a) (render : ρ → Json)
    (list : α → Search.Dialogue (Except Facet.Error (Page ρ))) :
    listing reasons request arguments render list = (list a).map (respond reasons render) := by
  obtain ⟨hmethod, haccepted⟩ := hpost
  simp [listing, hmethod, haccepted, hbody]

lemma serve_of_asks {request : Request} {call : Call} (h : Asks request call)
    (reasons : Filter.Reasons) (catalog : Catalog) :
    serve reasons catalog request =
      (call.facet.list catalog { call.query with scope := scope request.headers }).map
        (respond reasons call.render) := by
  cases h with
  | tags hpost hroute hbody =>
    rw [serve, hroute]
    exact listing_of_postsJson hpost hbody _ _
  | operatingSystems hpost hroute hbody =>
    rw [serve, hroute]
    exact listing_of_postsJson hpost hbody _ _

/-! ### Endings -/

inductive Ending where
  /-- A page, which may be empty because it is past the matching hosts. -/
  | shown
  | badArgument
  /-- The engine refuses the window, although the page begins within the matching hosts. -/
  | exceeded
  /-- The engine fails to answer a request for another reason. -/
  | failed
  | malformed

/-- An answer with data. -/
def pageResponse (data : List Json) (total : Nat) : Response :=
  ⟨200, some (.obj [("data", .arr data),
    ("meta", .obj [("count", .int data.length), ("total", .int total)])])⟩

/-- An answer with nothing but the message of an error. -/
def errorResponse (reasons : Filter.Reasons) (status : Nat) (e : Facet.Error) : Response :=
  ⟨status, some (.obj [("error", .str (e.message reasons))])⟩

lemma respond_ok {ρ : Type} (reasons : Filter.Reasons) (render : ρ → Json) (page : Page ρ) :
    respond reasons render (.ok page) = pageResponse (page.records.map render) page.total := by
  simp [respond, Page.toJson, pageResponse]

/-- What a call ends with after these replies of the engine. -/
inductive Ends (reasons : Filter.Reasons) (catalog : Catalog) (scope : List Constraint)
    (call : Call) :
    Ending → List Reply → Response → Prop where
  | shown {p : Plan} {response : Search.Response} {page : Page call.Record}
    (hplan : call.plan catalog scope = .ok p)
    (hpage : call.facet.page p.window response = .ok page) :
    Ends reasons catalog scope call .shown [.ok response]
      (pageResponse (page.records.map call.render) page.total)
  | pastEnd {p : Plan} {e : Search.Error} {count : Search.Response}
    (hplan : call.plan catalog scope = .ok p) (ho : e.isWindowOverflow)
    (hlt : count.hitsTotal < p.window.offset) :
    Ends reasons catalog scope call .shown [.error e, .ok count] (pageResponse [] 0)
  | badArgument {fault : ArgumentFault} (hplan : call.plan catalog scope = .error fault) :
    Ends reasons catalog scope call .badArgument []
      (errorResponse reasons 400 (.invalidArgument fault))
  | exceeded {p : Plan} {e : Search.Error} {count : Search.Response}
    (hplan : call.plan catalog scope = .ok p) (ho : e.isWindowOverflow)
    (hle : p.window.offset ≤ count.hitsTotal) :
    Ends reasons catalog scope call .exceeded [.error e, .ok count]
      (errorResponse reasons 400 (.windowExceeded p.window.offset count.hitsTotal e))
  | refused {p : Plan} {e : Search.Error} (hplan : call.plan catalog scope = .ok p)
    (hno : ¬ e.isWindowOverflow) :
    Ends reasons catalog scope call .failed [.error e] (errorResponse reasons 502 (.backend e))
  | uncounted {p : Plan} {e e' : Search.Error} (hplan : call.plan catalog scope = .ok p)
    (ho : e.isWindowOverflow) :
    Ends reasons catalog scope call .failed [.error e, .error e']
      (errorResponse reasons 502 (.backend e'))
  | malformed {p : Plan} {response : Search.Response} {arguments : TagArguments}
    {b : Search.Bucket} {key : UncutKey} (hplan : call.plan catalog scope = .ok p)
    (hcall : call = .tags arguments) (hb : b ∈ p.window.select response.buckets)
    (hkey : Tag.ofKey b.key = .error key) :
    Ends reasons catalog scope call .malformed [.ok response]
      (errorResponse reasons 500 (.malformedKey key))

/-- The ending that has this number of requests and this status. -/
def Ending.of? : Nat → Nat → Option Ending
  | 0, 400 => some .badArgument
  | 2, 400 => some .exceeded
  | 1, 500 => some .malformed
  | 1, 502 | 2, 502 => some .failed
  | 1, 200 | 2, 200 => some .shown
  | _, _ => none

namespace Ends

variable {reasons : Filter.Reasons} {catalog : Catalog} {scope : List Constraint} {call : Call}
  {ending ending' : Ending} {replies : List Reply} {response : Response}

/-- The number of requests and the status tell how a call ended. -/
lemma of?_eq (h : Ends reasons catalog scope call ending replies response) :
    Ending.of? replies.length response.status = some ending := by
  cases h <;> rfl

lemma unique (h : Ends reasons catalog scope call ending replies response)
    (h' : Ends reasons catalog scope call ending' replies response) : ending = ending' :=
  Option.some.inj (h.of?_eq.symm.trans h'.of?_eq)

lemma body_of_ne (h : Ends reasons catalog scope call ending replies response)
    (hne : response.status ≠ 200) :
    ∃ e : Facet.Error, response = errorResponse reasons e.status e := by
  cases h with
  | shown | pastEnd => exact absurd rfl hne
  | badArgument => exact ⟨.invalidArgument _, rfl⟩
  | exceeded => exact ⟨.windowExceeded _ _ _, rfl⟩
  | refused | uncounted => exact ⟨.backend _, rfl⟩
  | malformed => exact ⟨.malformedKey _, rfl⟩

lemma exists_tags_of_status (h : Ends reasons catalog scope call ending replies response)
    (hstatus : response.status = 500) : ∃ arguments, call = .tags arguments := by
  cases h with
  | malformed _ hcall => exact ⟨_, hcall⟩
  | _ => cases hstatus

end Ends

section

variable {σ : Type u} (engine : σ → Search.Request → Reply × σ) {reasons : Filter.Reasons}
  {catalog : Catalog} {scope : List Constraint} {call : Call} {p : Plan}

/-- A page is shown, or it holds a bucket that cannot be read. -/
lemma exists_ends_of_response (hplan : call.plan catalog scope = .ok p)
    (response : Search.Response) :
    ∃ ending, Ends reasons catalog scope call ending [.ok response]
      (respond reasons call.render (call.facet.page p.window response)) := by
  cases hread : decodeAll call.facet (p.window.select response.buckets) with
  | ok records =>
    have hpage := page_of_decodeAll hread
    rw [hpage, respond_ok]
    exact ⟨.shown, .shown hplan hpage⟩
  | error key =>
    rw [page_of_decodeAll_error hread]
    obtain ⟨b, hb, hdecode⟩ := exists_decode_error hread
    obtain ⟨arguments, hcall, hkey⟩ := Call.exists_tag_of_decode_error hdecode
    exact ⟨.malformed, .malformed hplan hcall hb hkey⟩

/-- Every course of an exchange is one of the ways to end. -/
lemma exists_ends_of_exchange {index : String} {first second : Reply} {sent : List Search.Request}
    {answer : Except Facet.Error (Page call.Record)} (hplan : call.plan catalog scope = .ok p)
    (h : Exchange call.facet index p first second sent answer) :
    ∃ ending, Ends reasons catalog scope call ending ([first, second].take sent.length)
      (respond reasons call.render answer) := by
  cases h with
  | served h =>
    subst h
    exact exists_ends_of_response hplan _
  | refused h hno =>
    subst h
    exact ⟨.failed, .refused hplan hno⟩
  | uncounted h ho h' =>
    subst h h'
    exact ⟨.failed, .uncounted hplan ho⟩
  | exceeded h ho h' hle =>
    subst h h'
    exact ⟨.exceeded, .exceeded hplan ho hle⟩
  | pastEnd h ho h' hlt =>
    subst h h'
    exact ⟨.shown, .pastEnd hplan ho hlt⟩

lemma exists_ends_of_list (reasons : Filter.Reasons) (catalog : Catalog) (scope : List Constraint)
    (call : Call) (state : σ) :
    let d := call.facet.list catalog { call.query with scope }
    ∃ ending, Ends reasons catalog scope call ending (d.replies engine state)
      (respond reasons call.render (d.answer engine state)) := by
  intro d
  cases hplan : call.plan catalog scope with
  | error fault =>
    have hd : d = .done (.error (.invalidArgument fault)) := list_of_fault hplan
    rw [hd]
    exact ⟨.badArgument, .badArgument hplan⟩
  | ok p =>
    have hreplies := Facet.replies_of_plan engine hplan state
    rw [hreplies]
    exact exists_ends_of_exchange hplan (exchange_of_plan engine hplan state)

/-- **The endings of a request for a listing**, whatever its headers, its arguments and the replies
of the engine. There is exactly one; without a page the body is the message of the error, and a
listing of operating systems never ends with a malformed key. -/
theorem serve_ends {request : Request} (h : Asks request call) (state : σ) :
    let d := serve reasons catalog request
    let replies := d.replies engine state
    let response := d.answer engine state
    (d.requests engine state).length = replies.length ∧
    (∃! ending, Ends reasons catalog (Http.scope request.headers) call ending replies response) ∧
    (response.status ≠ 200 → ∃ e : Facet.Error, response = errorResponse reasons e.status e) ∧
    (∀ query, call = .operatingSystems query → response.status ≠ 500) := by
  intro d replies response
  have hd : d = _ := serve_of_asks h reasons catalog
  have hends : ∃ ending,
      Ends reasons catalog (Http.scope request.headers) call ending replies response := by
    have hlist := exists_ends_of_list engine reasons catalog (Http.scope request.headers) call state
    simpa [replies, response, hd] using hlist
  obtain ⟨ending, hending⟩ := hends
  refine ⟨(d.length_replies engine state).symm, ⟨ending, hending, fun _ h => h.unique hending⟩,
    hending.body_of_ne, ?_⟩
  rintro query rfl hstatus
  obtain ⟨arguments, hcall⟩ := hending.exists_tags_of_status hstatus
  cases hcall

end

/-! ### A page that an engine without hosts refuses -/

lemma asks_onBehalfOf (org : List UInt8) :
    Asks (onBehalfOf org) (.operatingSystems { limit := some 5 }) :=
  .operatingSystems ⟨rfl, by cbv⟩ (by cbv) (by cbv)

theorem serve_ends_onBehalfOf :
    let request := onBehalfOf [52, 50]
    let d := serve briefReasons bareCatalog request
    Asks request (.operatingSystems { limit := some 5 }) ∧
      (d.replies (refusing 0) ()).length = 2 ∧
      (∃! ending, Ends briefReasons bareCatalog (scope request.headers)
        (.operatingSystems { limit := some 5 }) ending (d.replies (refusing 0) ())
        (d.answer (refusing 0) ())) ∧
      (d.answer (refusing 0) ()).status ≠ 500 := by
  intro request d
  have hasks : Asks request (.operatingSystems { limit := some 5 }) := asks_onBehalfOf _
  obtain ⟨hlength, hends, -, hnever⟩ :=
    @serve_ends _ (refusing 0) briefReasons bareCatalog _ _ hasks ()
  have htwo : (d.requests (refusing 0) ()).length = 2 := by
    rw [show d = _ from serve_onBehalfOf briefReasons bareCatalog _, Search.Dialogue.requests_map]
    rfl
  exact ⟨hasks, hlength.symm.trans htwo, hends, hnever _ rfl⟩

end Http

end HostFacets
