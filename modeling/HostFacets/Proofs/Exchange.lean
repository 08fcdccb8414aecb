import HostFacets.Facet.Listing
import HostFacets.Proofs.Outcome

/-!
What a listing exchanges with the search engine.

A listing whose arguments are refused sends nothing. Every other listing sends one request for
buckets, and one more that counts hosts if the first is refused for its window. `Exchange` lists
the courses this can take: the replies, the requests, and the answer. The engine is arbitrary, and
may reply differently to the same request.
-/

namespace HostFacets

/-! ### Requests and answers of a dialogue -/

namespace Search.Dialogue

variable {α β : Type} {σ : Type u} (engine : σ → Request → Reply × σ) (state : σ)

def answer (d : Dialogue α) : α := (d.run engine state).1

/-- The requests that are sent, in their order. -/
def requests (d : Dialogue α) : List Request := (d.run engine state).2.1

@[simp] lemma answer_done (a : α) : (done a).answer engine state = a := rfl

@[simp] lemma requests_done (a : α) : (done a).requests engine state = [] := rfl

@[simp] lemma answer_ask (request : Request) (next : Reply → Dialogue α) :
    (ask request next).answer engine state =
      (next (engine state request).1).answer engine (engine state request).2 := rfl

@[simp] lemma requests_ask (request : Request) (next : Reply → Dialogue α) :
    (ask request next).requests engine state =
      request :: (next (engine state request).1).requests engine (engine state request).2 := rfl

@[simp] lemma answer_map (f : α → β) (d : Dialogue α) :
    (d.map f).answer engine state = f (d.answer engine state) := by
  simp [answer]

@[simp] lemma requests_map (f : α → β) (d : Dialogue α) :
    (d.map f).requests engine state = d.requests engine state := by
  simp [requests]

end Search.Dialogue

/-! ### The plan of a listing -/

namespace Window

lemma checkLimit_ok_iff {limit : Option Int} :
    checkLimit limit = .ok () ↔ ∀ n ∈ limit, 0 ≤ n ∧ n ≤ 100 := by
  cases limit with
  | none => simp [checkLimit]
  | some n =>
    have hmax : ((maxLimit : ℕ) : Int) = 100 := rfl
    simp only [checkLimit, hmax, Option.mem_some_iff, forall_eq']
    split_ifs with hneg hlarge
    · exact ⟨nofun, fun h => absurd hneg (not_lt.2 h.1)⟩
    · exact ⟨nofun, fun h => absurd hlarge (not_lt.2 h.2)⟩
    · exact ⟨fun _ => ⟨not_lt.1 hneg, not_lt.1 hlarge⟩, fun _ => rfl⟩

lemma checkOffset_ok_iff {offset : Option Int} :
    checkOffset offset = .ok () ↔ ∀ n ∈ offset, 0 ≤ n := by
  cases offset with
  | none => simp [checkOffset]
  | some n => simp [checkOffset]

/-- What is not negative is taken as it is. -/
lemma natOr_eq_getD {given : Option Int} (h : ∀ n ∈ given, 0 ≤ n) (default : ℕ) :
    (natOr default given : Int) = given.getD default := by
  cases given with
  | none => rfl
  | some n =>
    have hn : 0 ≤ n := h n rfl
    simp only [natOr, if_pos hn, Option.getD_some]
    omega

/-- A window has the given numbers, or the defaults for what is not given. -/
lemma ofArguments_ok_iff {limit offset : Option Int} {window : Window} :
    ofArguments limit offset = .ok window ↔
      (∀ n ∈ limit, 0 ≤ n ∧ n ≤ 100) ∧ (∀ n ∈ offset, 0 ≤ n) ∧
        (window.limit : Int) = limit.getD 10 ∧ (window.offset : Int) = offset.getD 0 := by
  constructor
  · intro h
    obtain ⟨_, hlimit, h⟩ := bind_ok_iff.1 h
    obtain ⟨_, hoffset, h⟩ := bind_ok_iff.1 h
    cases h
    rw [checkLimit_ok_iff] at hlimit
    rw [checkOffset_ok_iff] at hoffset
    exact ⟨hlimit, hoffset, natOr_eq_getD (fun n hn => (hlimit n hn).1) _, natOr_eq_getD hoffset _⟩
  · rintro ⟨hlimit, hoffset, hl, ho⟩
    have hl' := natOr_eq_getD (fun n hn => (hlimit n hn).1) defaultLimit
    have ho' := natOr_eq_getD hoffset defaultOffset
    have hwindow : normalize limit offset = window := by
      cases window
      simp only [normalize, mk.injEq, defaultLimit, defaultOffset, Nat.cast_ofNat,
        Nat.cast_zero] at *
      omega
    rw [ofArguments, checkLimit_ok_iff.2 hlimit, checkOffset_ok_iff.2 hoffset, hwindow]
    rfl

lemma offset_of_ofArguments {limit offset : Option Int} {window : Window}
    (h : ofArguments limit offset = .ok window) : (window.offset : Int) = offset.getD 0 :=
  (ofArguments_ok_iff.1 h).2.2.2

end Window

namespace Facet

open Search (Request Reply)

/-- A plan is the window, the order and the filter of the arguments, the caller's constraints
before those of the host filter. -/
lemma plan_ok_iff {schema : Schema} {criterion? : String → Option SortField} {query : Query}
    {p : Plan} :
    plan schema criterion? query = .ok p ↔
      Window.ofArguments query.limit query.offset = .ok p.window ∧
      Order.ofArguments criterion? query.orderBy query.orderHow = .ok p.order ∧
      ∃ compiled, Filter.compile hostPath schema query.hostFilter = .ok compiled ∧
        p.filter = query.scope ++ compiled := by
  unfold plan
  constructor
  · intro h
    obtain ⟨window, hwindow, h⟩ := bind_ok_iff.1 h
    obtain ⟨order, horder, h⟩ := bind_ok_iff.1 h
    obtain ⟨compiled, hcompiled, h⟩ := bind_ok_iff.1 h
    cases h
    exact ⟨mapError_ok_iff.1 hwindow, mapError_ok_iff.1 horder, compiled,
      mapError_ok_iff.1 hcompiled, rfl⟩
  · rintro ⟨hwindow, horder, compiled, hcompiled, hfilter⟩
    refine bind_ok_iff.2 ⟨p.window, mapError_ok_iff.2 hwindow, ?_⟩
    refine bind_ok_iff.2 ⟨p.order, mapError_ok_iff.2 horder, ?_⟩
    refine bind_ok_iff.2 ⟨compiled, mapError_ok_iff.2 hcompiled, ?_⟩
    rw [← hfilter]
    rfl

/-! ### The courses of an exchange -/

variable {ρ : Type} (facet : Facet ρ)

/-- The request for the buckets of a plan. -/
def bucketRequest (index : String) (plan : Plan) : Request := ⟨index, facet.body plan⟩

/-- The request for the number of matching hosts. -/
def countRequest (index : String) (plan : Plan) : Request := ⟨index, (facet.body plan).countOnly⟩

/-- What is sent and answered when the engine has these replies to the two requests of a plan. -/
inductive Exchange (index : String) (plan : Plan) (first second : Reply) :
    List Request → Except Error (Page ρ) → Prop where
  | served {response : Search.Response} (h : first = .ok response) :
    Exchange index plan first second [facet.bucketRequest index plan]
      (facet.page plan.window response)
  | refused {e : Search.Error} (h : first = .error e) (ho : ¬ e.isWindowOverflow) :
    Exchange index plan first second [facet.bucketRequest index plan] (.error (.backend e))
  | uncounted {e e' : Search.Error} (h : first = .error e) (ho : e.isWindowOverflow)
    (h' : second = .error e') :
    Exchange index plan first second
      [facet.bucketRequest index plan, facet.countRequest index plan] (.error (.backend e'))
  | exceeded {e : Search.Error} {count : Search.Response} (h : first = .error e)
    (ho : e.isWindowOverflow) (h' : second = .ok count)
    (hle : plan.window.offset ≤ count.hitsTotal) :
    Exchange index plan first second
      [facet.bucketRequest index plan, facet.countRequest index plan]
      (.error (.windowExceeded plan.window.offset count.hitsTotal e))
  | pastEnd {e : Search.Error} {count : Search.Response} (h : first = .error e)
    (ho : e.isWindowOverflow) (h' : second = .ok count)
    (hlt : count.hitsTotal < plan.window.offset) :
    Exchange index plan first second
      [facet.bucketRequest index plan, facet.countRequest index plan] (.ok ⟨[], 0⟩)

namespace Exchange

variable {facet} {index : String} {plan : Plan} {first second : Reply} {sent : List Request}
  {answer : Except Error (Page ρ)}

/-- A second request follows exactly an overflow, and it is the last. -/
lemma sent_eq (h : Exchange facet index plan first second sent answer) :
    sent = [facet.bucketRequest index plan] ∧ ¬ (∃ e, first = .error e ∧ e.isWindowOverflow) ∨
      sent = [facet.bucketRequest index plan, facet.countRequest index plan] ∧
        ∃ e, first = .error e ∧ e.isWindowOverflow := by
  cases h with
  | served h => simp [h]
  | refused h ho => simp [h, ho]
  | uncounted h ho _ => simp [h, ho]
  | exceeded h ho _ _ => simp [h, ho]
  | pastEnd h ho _ _ => simp [h, ho]

lemma eq_of_mem_sent (h : Exchange facet index plan first second sent answer) {r : Request}
    (hr : r ∈ sent) : r = facet.bucketRequest index plan ∨ r = facet.countRequest index plan := by
  rcases h.sent_eq with ⟨hsent, -⟩ | ⟨hsent, -⟩
  · rw [hsent, List.mem_singleton] at hr
    exact Or.inl hr
  · rw [hsent, List.mem_pair] at hr
    exact hr

lemma answer_of_response (h : Exchange facet index plan first second sent answer)
    {response : Search.Response} (hfirst : first = .ok response) :
    answer = facet.page plan.window response := by
  subst hfirst
  cases h with
  | served h => cases h; rfl
  | _ h => cases h

lemma answer_of_refusal (h : Exchange facet index plan first second sent answer)
    {e : Search.Error} (hfirst : first = .error e) (hno : ¬ e.isWindowOverflow) :
    answer = .error (.backend e) := by
  subst hfirst
  cases h with
  | served h => cases h
  | refused h _ => cases h; rfl
  | uncounted h ho _ | exceeded h ho _ _ | pastEnd h ho _ _ => cases h; exact absurd ho hno

lemma answer_of_overflow (h : Exchange facet index plan first second sent answer)
    {e : Search.Error} (hfirst : first = .error e) (ho : e.isWindowOverflow) :
    answer = recover plan.window e second := by
  subst hfirst
  cases h with
  | served h => cases h
  | refused h hno => cases h; exact absurd ho hno
  | uncounted h _ h' => cases h; rw [h', recover]
  | exceeded h _ h' hle => cases h; rw [h', recover, if_pos hle]
  | pastEnd h _ h' hlt => cases h; rw [h', recover, if_neg (by omega)]

end Exchange

/-- How a listing goes on after the first reply. -/
def follow (index : String) (plan : Plan) : Reply → Search.Dialogue (Except Error (Page ρ))
  | .ok response => .done (facet.page plan.window response)
  | .error e =>
    if e.isWindowOverflow then
      .ask (facet.countRequest index plan) fun reply => .done (recover plan.window e reply)
    else .done (.error (.backend e))

section Listing

variable {facet} {catalog : Catalog} {query : Query} {σ : Type u}
  (engine : σ → Request → Reply × σ)

lemma list_of_fault {fault : ArgumentFault}
    (h : plan catalog.schema facet.criterion? query = .error fault) :
    facet.list catalog query = .done (.error (.invalidArgument fault)) := by
  simp only [list, h]

lemma list_of_plan {p : Plan} (h : plan catalog.schema facet.criterion? query = .ok p) :
    facet.list catalog query =
      .ask (facet.bucketRequest catalog.index p) (facet.follow catalog.index p) := by
  simp only [list, h]
  rfl

lemma exchange_of_follow (index : String) (p : Plan) (reply : Reply) (state : σ) :
    Exchange facet index p reply (engine state (facet.countRequest index p)).1
      (facet.bucketRequest index p :: (facet.follow index p reply).requests engine state)
      ((facet.follow index p reply).answer engine state) := by
  cases reply with
  | ok response => exact .served rfl
  | error e =>
    by_cases ho : e.isWindowOverflow
    · simp only [follow, if_pos ho, Search.Dialogue.requests_ask, Search.Dialogue.answer_ask,
        Search.Dialogue.requests_done, Search.Dialogue.answer_done]
      rcases hcount : (engine state (facet.countRequest index p)).1 with e' | count
      · exact .uncounted rfl ho rfl
      · by_cases hle : p.window.offset ≤ count.hitsTotal
        · simp only [recover, if_pos hle]
          exact .exceeded rfl ho rfl hle
        · simp only [recover, if_neg hle]
          exact .pastEnd rfl ho rfl (by omega)
    · simp only [follow, if_neg ho, Search.Dialogue.requests_done, Search.Dialogue.answer_done]
      exact .refused rfl ho

/-- **The exchange of a listing** whose arguments are accepted takes one of the listed courses. -/
theorem exchange_of_plan {p : Plan} (h : plan catalog.schema facet.criterion? query = .ok p)
    (state : σ) :
    let first := engine state (facet.bucketRequest catalog.index p)
    let second := engine first.2 (facet.countRequest catalog.index p)
    Exchange facet catalog.index p first.1 second.1
      ((facet.list catalog query).requests engine state)
      ((facet.list catalog query).answer engine state) := by
  rw [list_of_plan h]
  exact exchange_of_follow engine catalog.index p _ _

/-- **The protocol of a listing**, for every facet, all arguments that are accepted and all replies.
There is a second request exactly after an overflow, it only counts what the first one matches,
and the answer is settled by the two replies. -/
theorem listing_protocol {p : Plan} (h : plan catalog.schema facet.criterion? query = .ok p)
    (state : σ) :
    let request : Request := ⟨catalog.index, facet.body p⟩
    let count : Request :=
      ⟨catalog.index,
        { aggregation := none, filter := request.body.filter, sourceFields := [], size := 0,
          first := some 0, trackTotalHits := some true }⟩
    let first := engine state request
    let second := engine first.2 count
    let sent := (facet.list catalog query).requests engine state
    let answer := (facet.list catalog query).answer engine state
    (p.window.offset : Int) = query.offset.getD 0 ∧
    count.body = request.body.countOnly ∧
    (sent = [request] ∨ sent = [request, count]) ∧
    (sent = [request, count] ↔ ∃ e, first.1 = .error e ∧ e.isWindowOverflow) ∧
    (∀ response, first.1 = .ok response → answer = facet.page p.window response) ∧
    (∀ e, first.1 = .error e → ¬ e.isWindowOverflow → answer = .error (.backend e)) ∧
    (∀ e, first.1 = .error e → e.isWindowOverflow →
      (∀ e', second.1 = .error e' → answer = .error (.backend e')) ∧
      (∀ counted, second.1 = .ok counted → p.window.offset ≤ counted.hitsTotal →
        answer = .error (.windowExceeded p.window.offset counted.hitsTotal e)) ∧
      (∀ counted, second.1 = .ok counted → counted.hitsTotal < p.window.offset →
        answer = .ok ⟨[], 0⟩ ∧ p.window.offset ≠ 0)) := by
  intro request count first second sent answer
  have hex : Exchange facet catalog.index p first.1 second.1 sent answer :=
    exchange_of_plan engine h state
  have hwindow := (plan_ok_iff.1 h).1
  refine ⟨Window.offset_of_ofArguments hwindow, rfl, ?sent, ?iff, fun _ => hex.answer_of_response,
    fun _ => hex.answer_of_refusal, ?overflow⟩
  case sent => exact hex.sent_eq.imp And.left And.left
  case iff =>
    rcases hex.sent_eq with ⟨hsent, hno⟩ | ⟨hsent, ho⟩
    · simp [hsent, hno]
    · exact iff_of_true hsent ho
  case overflow =>
    intro e hfirst ho
    rw [hex.answer_of_overflow hfirst ho]
    refine ⟨?_, ?_, ?_⟩
    · intro e' hsecond
      rw [hsecond, recover]
    · intro counted hsecond hle
      rw [hsecond, recover, if_pos hle]
    · intro counted hsecond hlt
      rw [hsecond, recover, if_neg (by omega)]
      exact ⟨rfl, by omega⟩

end Listing

/-! ### An engine that refuses windows -/

def windowRefusal : Search.Error :=
  .rejected 400 "all shards failed"
    [⟨"illegal_argument_exception", "Result window is too large: [10010]"⟩]

/-- An engine that refuses every window and counts `hits` hosts. -/
def refusing (hits : Nat) : Unit → Request → Reply × Unit := fun _ request =>
  (if request.body.aggregation.isSome then .error windowRefusal else .ok ⟨[], hits⟩, ())

/-- A catalog without fields to filter on. -/
def bareCatalog : Catalog := ⟨"hosts", ⟨[]⟩⟩

theorem listing_protocol_past_end :
    plan bareCatalog.schema operatingSystems.criterion? { offset := some 1000 } =
        .ok ⟨⟨10, 1000⟩, [Order.tieBreak], []⟩ ∧
      (operatingSystems.list bareCatalog { offset := some 1000 }).answer (refusing 5) () =
        .ok ⟨[], 0⟩ := by
  have hplan : plan bareCatalog.schema operatingSystems.criterion? { offset := some 1000 } =
      .ok ⟨⟨10, 1000⟩, [Order.tieBreak], []⟩ := rfl
  obtain ⟨-, -, -, -, -, -, hoverflow⟩ := listing_protocol (refusing 5) hplan ()
  obtain ⟨-, -, hpast⟩ := hoverflow windowRefusal rfl rfl
  exact ⟨hplan, (hpast ⟨[], 5⟩ rfl (by decide)).1⟩

end Facet

end HostFacets
