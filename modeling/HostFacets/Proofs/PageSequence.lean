import HostFacets.Proofs.BucketOrder
import HostFacets.Proofs.Pages

/-!
Pages that follow each other.

The request for buckets does not depend on the window, and its clauses tell all keys apart. So every
response that is arranged by them has the same buckets at the same positions, and pages of one size
that are cut from different responses list every record once.
-/

namespace HostFacets

/-! ### Windows that follow each other -/

namespace Window

/-- Windows of one size from the start on hold the first items. -/
lemma flatMap_cut (limit pages : ℕ) (items : List α) :
    ((List.range pages).flatMap fun k => (⟨limit, k * limit⟩ : Window).cut items) =
      items.take (pages * limit) := by
  induction pages with
  | zero => simp
  | succ pages ih =>
    rw [List.range_succ, List.flatMap_append, ih, Nat.succ_mul, List.take_add]
    simp [cut]

lemma forall₂_cut {R : α → β → Prop} {items : List α} {items' : List β}
    (h : List.Forall₂ R items items') (window : Window) :
    List.Forall₂ R (window.cut items) (window.cut items') :=
  List.forall₂_take _ (List.forall₂_drop _ h)

lemma ofArguments_of_le {limit : ℕ} (h : limit ≤ maxLimit) (offset : ℕ) :
    ofArguments (some limit) (some offset) = .ok ⟨limit, offset⟩ := by
  have hlimit : (limit : Int) ≤ 100 := by exact_mod_cast h
  simp [ofArguments_ok_iff, hlimit]

end Window

/-! ### The order that a call asks for -/

/-- The names of directions, in any case of letters. -/
inductive Direction.Named : String → Direction → Prop
  | ascending {how : String} (h : how.toList.map Char.toLower = "asc".toList) :
    Named how .ascending
  | descending {how : String} (h : how.toList.map Char.toLower = "desc".toList) :
    Named how .descending

lemma Direction.named_of_ofName? {how : String} {direction : Direction}
    (h : ofName? how = some direction) : Named how direction := by
  unfold ofName? at h
  simp only at h
  split at h
  · next hasc =>
    cases h
    exact .ascending hasc
  · split at h
    · next hdesc =>
      cases h
      exact .descending hdesc
    · cases h

namespace Facet

open Search (Request Reply Bucket)

namespace Call

/-- The names of criteria in the calls of a kind. -/
inductive Named : Call → String → SortField → Prop
  | count (call : Call) : Named call "count" .count
  | tag (arguments : TagArguments) : Named (.tags arguments) "tag" .key
  | system (query : Query) : Named (.operatingSystems query) "operating_system" .key

lemma named_of_criterion? {call : Call} {name : String} {field : SortField}
    (h : call.facet.criterion? name = some field) : call.Named name field := by
  cases call with
  | tags arguments =>
    change tagCriterion? name = some field at h
    unfold tagCriterion? at h
    split at h
    · cases h
      exact .count _
    · cases h
      exact .tag _
    · cases h
  | operatingSystems query =>
    change osCriterion? name = some field at h
    unfold osCriterion? at h
    split at h
    · cases h
      exact .count _
    · cases h
      exact .system _
    · cases h

/-- The clauses that a call asks for. An empty argument counts as missing. -/
inductive Asks (call : Call) : List OrderClause → Prop
  | nothing (hby : nonEmpty? call.query.orderBy = none)
    (hhow : nonEmpty? call.query.orderHow = none) : Asks call []
  | criterion {name : String} {field : SortField}
    (hby : nonEmpty? call.query.orderBy = some name) (hname : call.Named name field)
    (hhow : nonEmpty? call.query.orderHow = none) : Asks call [⟨field, .ascending⟩]
  | direction {how : String} {direction : Direction}
    (hby : nonEmpty? call.query.orderBy = none)
    (hhow : nonEmpty? call.query.orderHow = some how) (hdirection : direction.Named how) :
    Asks call [⟨.count, direction⟩]
  | both {name how : String} {field : SortField} {direction : Direction}
    (hby : nonEmpty? call.query.orderBy = some name) (hname : call.Named name field)
    (hhow : nonEmpty? call.query.orderHow = some how) (hdirection : direction.Named how) :
    Asks call [⟨field, direction⟩]

end Call

lemma exists_of_lookup {α : Type} {find : String → Option α} {fault : String → Order.Fault}
    {argument : Option String} {found : Option α}
    (h : Order.lookup find fault argument = .ok found) :
    nonEmpty? argument = none ∧ found = none ∨
      ∃ name a, nonEmpty? argument = some name ∧ find name = some a ∧ found = some a := by
  unfold Order.lookup at h
  split at h
  · cases h
    exact .inl ⟨rfl, rfl⟩
  · cases h
    exact .inl ⟨rfl, rfl⟩
  · next name hne =>
    split at h
    · next a ha =>
      cases h
      refine .inr ⟨name, a, ?_, ha, rfl⟩
      have hname : ¬ name.isEmpty := by simpa using hne
      simp only [nonEmpty?, Option.bind_some, Text.nonEmpty?, if_neg hname]
    · cases h

/-- The clauses of accepted arguments are those the call asks for, and then the key. -/
lemma asks_of_ofArguments {call : Call} {order : List OrderClause}
    (h : Order.ofArguments call.facet.criterion? call.query.orderBy call.query.orderHow =
      .ok order) :
    ∃ requested, call.Asks requested ∧ order = requested ++ [⟨.key, .ascending⟩] := by
  obtain ⟨field?, hfield, h⟩ := bind_ok_iff.1 h
  obtain ⟨direction?, hdirection, h⟩ := bind_ok_iff.1 h
  cases h
  refine ⟨_, ?_, rfl⟩
  rcases exists_of_lookup hfield with ⟨hby, rfl⟩ | ⟨name, field, hby, hname, rfl⟩
  · rcases exists_of_lookup hdirection with ⟨hhow, rfl⟩ | ⟨how, direction, hhow, hspelled, rfl⟩
    · exact .nothing hby hhow
    · exact .direction hby hhow (Direction.named_of_ofName? hspelled)
  · have hname := Call.named_of_criterion? hname
    rcases exists_of_lookup hdirection with ⟨hhow, rfl⟩ | ⟨how, direction, hhow, hspelled, rfl⟩
    · exact .criterion hby hname hhow
    · exact .both hby hname hhow (Direction.named_of_ofName? hspelled)

/-! ### Calls with other windows -/

/-- The window has no influence on the rest of a plan. -/
lemma plan_window_iff {schema : Schema} {criterion? : String → Option SortField} {query : Query}
    {p p' : Plan} {limit offset : Option Int} (hplan : plan schema criterion? query = .ok p) :
    plan schema criterion? { query with limit, offset } = .ok p' ↔
      ∃ window, Window.ofArguments limit offset = .ok window ∧ p' = { p with window } := by
  obtain ⟨-, horder, compiled, hcompiled, hfilter⟩ := plan_ok_iff.1 hplan
  rw [plan_ok_iff]
  constructor
  · rintro ⟨hwindow', horder', compiled', hcompiled', hfilter'⟩
    obtain ⟨window', order', filter'⟩ := p'
    refine ⟨window', hwindow', ?_⟩
    have horders := Except.ok.inj (horder'.symm.trans horder)
    obtain rfl := Except.ok.inj (hcompiled'.symm.trans hcompiled)
    have hfilters := hfilter'.trans hfilter.symm
    simp only at horders hfilters
    rw [horders, hfilters]
  · rintro ⟨window, hwindow, rfl⟩
    exact ⟨hwindow, horder, compiled, hcompiled, hfilter⟩

namespace Call

/-- The call with another limit and offset. -/
def withWindow (limit offset : Option Int) : Call → Call
  | .tags arguments => .tags { arguments with query := { arguments.query with limit, offset } }
  | .operatingSystems query => .operatingSystems { query with limit, offset }

section

variable {σ : Type u} (engine : σ → Request → Reply × σ) (state : σ) (catalog : Catalog)
  (scope : List Constraint) (limit offset : Option Int)

/-- The answer to a call with another limit and offset. -/
def windowAnswer : (call : Call) → Except Error (Page call.Record)
  | .tags arguments =>
    ((Call.tags arguments).withWindow limit offset).answer engine state catalog scope
  | .operatingSystems query =>
    ((Call.operatingSystems query).withWindow limit offset).answer engine state catalog scope

variable {catalog scope limit offset} {call : Call} {p : Plan} {window : Window}

lemma plan_withWindow_iff (hplan : call.plan catalog scope = .ok p) {p' : Plan} :
    (call.withWindow limit offset).plan catalog scope = .ok p' ↔
      ∃ window, Window.ofArguments limit offset = .ok window ∧ p' = { p with window } := by
  cases call <;> exact plan_window_iff hplan

lemma bucketRequest_withWindow (window : Window) :
    (call.withWindow limit offset).facet.bucketRequest catalog.index { p with window } =
      call.facet.bucketRequest catalog.index p := by
  cases call <;> rfl

lemma head?_sent (hplan : call.plan catalog scope = .ok p) :
    (call.sent engine state catalog scope).head? =
      some (call.facet.bucketRequest catalog.index p) := by
  rcases (exchange engine state hplan).sent_eq with ⟨hsent, -⟩ | ⟨hsent, -⟩
  · rw [hsent, List.head?_cons]
  · rw [hsent, List.head?_cons]

lemma windowAnswer_of_response (hplan : call.plan catalog scope = .ok p)
    (hwindow : Window.ofArguments limit offset = .ok window) {response : Search.Response}
    (hreply : (engine state (call.facet.bucketRequest catalog.index p)).1 = .ok response) :
    call.windowAnswer engine state catalog scope limit offset =
      call.facet.page window response := by
  have hplan' := (plan_withWindow_iff hplan).2 ⟨window, hwindow, rfl⟩
  cases call <;> exact (sent_and_answer_of_response engine state hplan' hreply).2

end

end Call

/-! ### Arranged responses -/

/-- The engine answers a request with these buckets, arranged by the clauses of the request. -/
structure Serves {σ : Type u} (engine : σ → Request → Reply × σ) (state : σ) (request : Request)
    (buckets : List Bucket) (response : Search.Response) : Prop where
  reply : (engine state request).1 = .ok response
  perm : response.buckets.Perm buckets
  arranged : ∀ aggregation ∈ request.body.aggregation,
    Order.Arranged aggregation.order response.buckets

section

variable {σ : Type u} {catalog : Catalog} {scope : List Constraint} {call : Call} {p : Plan}

/-- A page depends on nothing but the buckets of the response. -/
lemma page_eq_of_buckets_eq {ρ : Type} (facet : Facet ρ) (window : Window)
    {response response' : Search.Response} (h : response.buckets = response'.buckets) :
    facet.page window response = facet.page window response' := by
  rw [page, page, h]

lemma page_of_reads {sorted : List Bucket} {rows : List (Option call.Record)}
    (hrows : List.Forall₂ call.Reads sorted rows) (window : Window) {response : Search.Response}
    (hbuckets : response.buckets = sorted) :
    call.facet.page window response = .ok ⟨(window.cut rows).reduceOption, sorted.length⟩ := by
  have hreads := (Window.forall₂_cut hrows window).imp fun _ _ => Call.decode_of_reads
  rw [page, hbuckets, decodeAll_of_forall₂ hreads]

/-- Windows that cover all buckets list the records of all buckets. -/
lemma flatMap_records {α : Type} {limit count : ℕ} {rows : List (Option α)}
    (hcover : rows.length ≤ count * limit) :
    ((List.range count).flatMap fun k =>
      ((⟨limit, k * limit⟩ : Window).cut rows).reduceOption) = rows.reduceOption := by
  have hrecords := List.filterMap_flatMap (l := List.range count) (f := id)
    (g := fun k => (⟨limit, k * limit⟩ : Window).cut rows)
  rw [Window.flatMap_cut, List.take_of_length_le hcover] at hrecords
  exact hrecords.symm

/-- **Pages line up**: calls that differ in their windows send one request, which orders buckets with
different keys strictly, by what the caller asks for and then by the key. Two responses to it that
are arranged have the same pages. Pages of one size that cover all buckets, each cut from its own
response, list the records of all buckets in their order, each once. -/
theorem pages_line_up (hplan : call.plan catalog scope = .ok p) :
    ∃ request clauses,
      request.body.aggregation.map Search.Aggregation.order = some clauses ∧
      (∃ requested, call.Asks requested ∧ clauses = requested ++ [⟨.key, .ascending⟩]) ∧
      Order.SeparatesKeys clauses ∧
      (∀ limit offset window, Window.ofArguments limit offset = .ok window →
        ∀ (engine : σ → Request → Reply × σ) state,
          ((call.withWindow limit offset).sent engine state catalog scope).head? = some request) ∧
      ∀ buckets : List Bucket, (buckets.map Bucket.key).Nodup →
        (∀ limit offset window, Window.ofArguments limit offset = .ok window →
          ∀ (engine engine' : σ → Request → Reply × σ) state state' response response',
            Serves engine state request buckets response →
            Serves engine' state' request buckets response' →
            call.windowAnswer engine state catalog scope limit offset =
              call.windowAnswer engine' state' catalog scope limit offset) ∧
        ((∀ b ∈ buckets, ∃ row, call.Reads b row) →
          ∀ limit count : ℕ, limit ≤ 100 → buckets.length ≤ count * limit →
          ∀ (engine : ℕ → σ → Request → Reply × σ) (state : ℕ → σ)
            (response : ℕ → Search.Response),
            (∀ k < count, Serves (engine k) (state k) request buckets (response k)) →
            ∃ sorted rows pages, sorted.Perm buckets ∧ Order.Arranged clauses sorted ∧
              List.Forall₂ call.Reads sorted rows ∧
              List.Forall₂ (fun (k : ℕ) page =>
                call.windowAnswer (engine k) (state k) catalog scope (some limit)
                  (some ((k * limit : ℕ) : Int)) = .ok page) (List.range count) pages ∧
              pages.flatMap Page.records = rows.reduceOption) := by
  obtain ⟨requested, hasks, horder⟩ := asks_of_ofArguments (plan_ok_iff.1 hplan).2.1
  have hkey : (⟨.key, .ascending⟩ : OrderClause) ∈ p.order := by simp [horder]
  have hkeys := Order.separatesKeys_of_key_mem hkey
  refine ⟨call.facet.bucketRequest catalog.index p, p.order, rfl, ⟨requested, hasks, horder⟩, hkeys,
    fun limit offset window hwindow engine state => ?request, fun buckets hnodup => ?pages⟩
  case request =>
    have hplan' := (Call.plan_withWindow_iff hplan).2 ⟨window, hwindow, rfl⟩
    rw [Call.head?_sent engine state hplan', Call.bucketRequest_withWindow]
  case pages =>
    -- all responses have the buckets of the one arrangement
    obtain ⟨sorted, hperm, harranged⟩ := Order.exists_arranged p.order buckets
    have hserved : ∀ {engine : σ → Request → Reply × σ} {state response},
        Serves engine state (call.facet.bucketRequest catalog.index p) buckets response →
        response.buckets = sorted := by
      intro engine state response h
      have hnodup' := (h.perm.map Bucket.key).nodup_iff.2 hnodup
      exact Order.eq_of_arranged hkeys (h.perm.trans hperm.symm) hnodup' (h.arranged _ rfl) harranged
    refine ⟨?same, ?sequence⟩
    case same =>
      intro limit offset window hwindow engine engine' state state' response response' h h'
      rw [Call.windowAnswer_of_response engine state hplan hwindow h.reply,
        Call.windowAnswer_of_response engine' state' hplan hwindow h'.reply]
      exact page_eq_of_buckets_eq _ _ ((hserved h).trans (hserved h').symm)
    case sequence =>
      intro hreads limit count hlimit hcover engine state response hengine
      obtain ⟨rows, hrows⟩ := exists_forall₂_iff.2 fun b hb => hreads b (hperm.mem_iff.1 hb)
      refine ⟨sorted, rows, (List.range count).map fun k =>
        ⟨((⟨limit, k * limit⟩ : Window).cut rows).reduceOption, sorted.length⟩,
        hperm, harranged, hrows, ?_, ?_⟩
      · rw [List.forall₂_map_right_iff, List.forall₂_same]
        intro k hk
        have hserves := hengine k (List.mem_range.1 hk)
        rw [Call.windowAnswer_of_response (engine k) (state k) hplan
          (Window.ofArguments_of_le hlimit _) hserves.reply]
        exact page_of_reads hrows _ (hserved hserves)
      · have hlength : rows.length ≤ count * limit := by
          rw [← hrows.length_eq, hperm.length_eq]
          exact hcover
        rw [List.flatMap_map]
        exact flatMap_records hlength

end

/-! ### Two pages of tags, with a tie on the border between them -/

def tiedCall : Call := .tags ⟨{ orderBy := some "count", orderHow := some "Desc" }, none⟩

def tiedPlan : Plan := ⟨⟨10, 0⟩, [⟨.count, .descending⟩, Order.tieBreak], []⟩

def tiedBuckets : List Bucket := [⟨"x/y=z", 5, 0⟩, ⟨"a/b=c", 2, 0⟩, ⟨"a/b=d", 2, 0⟩]

theorem pages_line_up_tie :
    tiedCall.plan bareCatalog [] = .ok tiedPlan ∧
      ∃ sorted rows pages, sorted.Perm tiedBuckets ∧ Order.Arranged tiedPlan.order sorted ∧
        List.Forall₂ tiedCall.Reads sorted rows ∧
        List.Forall₂ (fun (k : ℕ) page =>
          tiedCall.windowAnswer (answering ⟨tiedBuckets, k⟩) () bareCatalog [] (some (2 : ℕ))
            (some ((k * 2 : ℕ) : Int)) = .ok page) (List.range 2) pages ∧
        pages.flatMap Page.records = rows.reduceOption := by
  have hplan : tiedCall.plan bareCatalog [] = .ok tiedPlan := rfl
  obtain ⟨request, clauses, hclauses, -, -, hsent, hpages⟩ := pages_line_up hplan
  obtain rfl : tiedCall.facet.bucketRequest bareCatalog.index tiedPlan = request :=
    Option.some.inj (hsent none none ⟨10, 0⟩ rfl (answering ⟨tiedBuckets, 0⟩) ())
  obtain rfl := Option.some.inj hclauses
  have harranged : Order.Arranged tiedPlan.order tiedBuckets := by decide
  have hserves : ∀ k, Serves (answering ⟨tiedBuckets, k⟩) ()
      (tiedCall.facet.bucketRequest bareCatalog.index tiedPlan) tiedBuckets ⟨tiedBuckets, k⟩ := by
    refine fun k => ⟨rfl, .rfl, ?_⟩
    rintro aggregation ⟨⟩
    exact harranged
  have hreads : ∀ b ∈ tiedBuckets, ∃ row, tiedCall.Reads b row := by
    have hz : Tag.ofKey "x/y=z" = .ok ⟨some "x", "y", some "z"⟩ := by cbv
    have hc : Tag.ofKey "a/b=c" = .ok ⟨some "a", "b", some "c"⟩ := by cbv
    have hd : Tag.ofKey "a/b=d" = .ok ⟨some "a", "b", some "d"⟩ := by cbv
    simp only [tiedBuckets, List.forall_mem_cons]
    exact ⟨⟨_, .tag hz⟩, ⟨_, .tag hc⟩, ⟨_, .tag hd⟩, List.forall_mem_nil _⟩
  obtain ⟨-, hsequence⟩ := hpages tiedBuckets (by decide)
  exact ⟨hplan, hsequence hreads 2 2 (by decide) (by decide) _ _ _ fun k _ => hserves k⟩

end Facet

end HostFacets
