import HostFacets.Proofs.Scoping

/-!
The page of a listing is the window of the engine's buckets.

A page has one record for each bucket at the positions of the window, in their order, except for
buckets that stand for no value. It fails at the first of these buckets that cannot be read. Nothing
else of the response has an influence, apart from the number of buckets, which is the total.
-/

namespace HostFacets

/-! ### Windows by positions -/

namespace Window

/-- The items at the positions from the offset on, as many positions as the limit says. -/
def select (window : Window) (items : List α) : List α :=
  (List.range' window.offset window.limit).filterMap fun i => items[i]?

lemma cut_eq_select (window : Window) (items : List α) :
    window.cut items = window.select items := by
  obtain ⟨limit, offset⟩ := window
  simp only [cut, select]
  induction limit generalizing offset with
  | zero => simp
  | succ n ih =>
    rw [List.range'_succ, List.filterMap_cons]
    by_cases h : offset < items.length
    · rw [List.getElem?_eq_getElem h, List.drop_eq_getElem_cons h, List.take_succ_cons, ih]
    · -- past the end of the list there is nothing to take
      have hdrop : items.drop offset = [] := List.drop_eq_nil_of_le (by omega)
      have hnext : items.drop (offset + 1) = [] := List.drop_eq_nil_of_le (by omega)
      rw [List.getElem?_eq_none (Nat.le_of_not_lt h), hdrop, ← ih, hnext, List.take_nil,
        List.take_nil]

lemma length_select_le (window : Window) (items : List α) :
    (window.select items).length ≤ window.limit := by
  rw [← cut_eq_select]
  exact window.length_cut_le items

/-- A window only depends on the items at its positions. -/
lemma map_select_congr {window : Window} {items items' : List α} {f : α → β}
    (h : ∀ i, window.offset ≤ i → i < window.offset + window.limit →
      items[i]?.map f = items'[i]?.map f) :
    (window.select items).map f = (window.select items').map f := by
  simp only [select, List.map_filterMap]
  refine List.filterMap_congr fun i hi => ?_
  obtain ⟨hle, hlt⟩ := List.mem_range'_1.1 hi
  exact h i hle hlt

lemma limit_of_ofArguments {limit offset : Option Int} {window : Window}
    (h : ofArguments limit offset = .ok window) : (window.limit : Int) = limit.getD 10 :=
  (ofArguments_ok_iff.1 h).2.2.1

end Window

namespace Facet

open Search (Request Reply Bucket)

/-! ### Reading buckets -/

section Reading

variable {ρ : Type} {facet : Facet ρ} {buckets : List Bucket}

/-- Reading succeeds where every bucket can be read; what stands for no value is left out. -/
lemma decodeAll_of_forall₂ {rows : List (Option ρ)}
    (h : List.Forall₂ (fun b row => facet.decode b = .ok row) buckets rows) :
    decodeAll facet buckets = .ok rows.reduceOption := by
  induction h with
  | nil => rfl
  | @cons b row rest rows hrow _ ih =>
    simp only [decodeAll, hrow, ih, Except.map]
    cases row <;> simp

/-- Reading fails at the first bucket that cannot be read. -/
lemma decodeAll_of_first {before after : List Bucket} {b : Bucket} {key : UncutKey}
    (hbefore : ∀ x ∈ before, ∃ row, facet.decode x = .ok row) (hb : facet.decode b = .error key) :
    decodeAll facet (before ++ b :: after) = .error key := by
  induction before with
  | nil => simp [decodeAll, hb]
  | cons x rest ih =>
    obtain ⟨⟨row, hrow⟩, hrest⟩ := List.forall_mem_cons.1 hbefore
    simp [decodeAll, hrow, ih hrest, Except.map]

/-- A decoder that looks at nothing but the key and the count of a bucket. -/
def ReadsKeyAndCount (facet : Facet ρ) : Prop :=
  ∀ b b' : Bucket, (b.key, b.docCount) = (b'.key, b'.docCount) → facet.decode b = facet.decode b'

lemma decodeAll_congr (hfacet : facet.ReadsKeyAndCount) {buckets' : List Bucket}
    (h : buckets.map (fun b => (b.key, b.docCount)) = buckets'.map fun b => (b.key, b.docCount)) :
    decodeAll facet buckets = decodeAll facet buckets' := by
  induction buckets generalizing buckets' with
  | nil =>
    cases buckets' with
    | nil => rfl
    | cons _ _ => cases h
  | cons b rest ih =>
    cases buckets' with
    | nil => cases h
    | cons b' rest' =>
      obtain ⟨hb, hrest⟩ := List.cons.inj h
      rw [decodeAll, decodeAll, hfacet b b' hb, ih hrest]

lemma page_of_decodeAll {window : Window} {response : Search.Response} {records : List ρ}
    (h : decodeAll facet (window.select response.buckets) = .ok records) :
    facet.page window response = .ok ⟨records, response.buckets.length⟩ := by
  rw [page, Window.cut_eq_select, h]

lemma page_of_decodeAll_error {window : Window} {response : Search.Response} {key : UncutKey}
    (h : decodeAll facet (window.select response.buckets) = .error key) :
    facet.page window response = .error (.malformedKey key) := by
  rw [page, Window.cut_eq_select, h]

/-- Pages agree if the buckets in the window agree in key and count and the totals are the same. -/
lemma page_congr (hfacet : facet.ReadsKeyAndCount) {window : Window}
    {response response' : Search.Response}
    (hlength : response.buckets.length = response'.buckets.length)
    (h : ∀ i, window.offset ≤ i → i < window.offset + window.limit →
      response.buckets[i]?.map (fun b => (b.key, b.docCount)) =
        response'.buckets[i]?.map fun b => (b.key, b.docCount)) :
    facet.page window response = facet.page window response' := by
  have hread := decodeAll_congr hfacet (Window.map_select_congr h)
  rw [page, page, Window.cut_eq_select, Window.cut_eq_select, hread, hlength]

end Reading

/-! ### The kinds of calls -/

namespace Call

/-- The records that a call lists. -/
abbrev Record : Call → Type
  | .tags _ => Counted Tag
  | .operatingSystems _ => Counted OperatingSystem

def facet : (call : Call) → Facet call.Record
  | .tags arguments => Facet.tags arguments.search
  | .operatingSystems _ => Facet.operatingSystems

def query : Call → Query
  | .tags arguments => arguments.query
  | .operatingSystems query => query

/-- A bucket is read as a record with its own count, or left out. -/
inductive Reads : (call : Call) → Bucket → Option call.Record → Prop where
  | tag {arguments : TagArguments} {b : Bucket} {tag : Tag} (h : Tag.ofKey b.key = .ok tag) :
    Reads (.tags arguments) b (some ⟨tag, b.docCount⟩)
  | system {query : Query} {b : Bucket} {os : OperatingSystem} (hkey : b.key ≠ "")
    (h : OperatingSystem.ofKey? b.key = some os) :
    Reads (.operatingSystems query) b (some ⟨os, b.docCount⟩)
  | noSystem {query : Query} {b : Bucket} (hkey : b.key = "") :
    Reads (.operatingSystems query) b none

section

variable {call : Call} {b : Bucket}

lemma decode_of_reads {row : Option call.Record} (h : call.Reads b row) :
    call.facet.decode b = .ok row := by
  cases h with
  | tag h => simp [facet, Facet.tags, decodeTag, h, Except.map]
  | system _ h => simp [facet, Facet.operatingSystems, decodeOs, h]
  | noSystem hkey =>
    simp [facet, Facet.operatingSystems, decodeOs, OperatingSystem.ofKey?, hkey]

/-- Every bucket can be read as an operating system or stands for none. -/
lemma reads_operatingSystem (query : Query) (b : Bucket) :
    ∃ row, (Call.operatingSystems query).Reads b row := by
  by_cases hkey : b.key = ""
  · exact ⟨none, .noSystem hkey⟩
  · have hos : ∃ os, OperatingSystem.ofKey? b.key = some os := by
      simp [OperatingSystem.ofKey?, hkey]
    obtain ⟨os, hos⟩ := hos
    exact ⟨some ⟨os, b.docCount⟩, .system hkey hos⟩

/-- What cannot be read is the key of a tag. -/
lemma fault_of_not_reads (h : ¬ ∃ row, call.Reads b row) :
    ∃ arguments key, call = .tags arguments ∧ Tag.ofKey b.key = .error key ∧
      call.facet.decode b = .error key := by
  cases call with
  | tags arguments =>
    cases htag : Tag.ofKey b.key with
    | ok tag => exact absurd ⟨_, .tag htag⟩ h
    | error key =>
      exact ⟨arguments, key, rfl, rfl, by simp [facet, Facet.tags, decodeTag, htag, Except.map]⟩
  | operatingSystems query => exact absurd (reads_operatingSystem query b) h

lemma readsKeyAndCount (call : Call) : call.facet.ReadsKeyAndCount := by
  intro b b' h
  obtain ⟨hkey, hcount⟩ := Prod.mk.inj h
  cases call with
  | tags arguments => simp only [facet, Facet.tags, decodeTag, hkey, hcount]
  | operatingSystems query => simp only [facet, Facet.operatingSystems, decodeOs, hkey, hcount]

end

section

variable {σ : Type u} (engine : σ → Request → Reply × σ) (state : σ) (catalog : Catalog)
  (scope : List Constraint)

/-- The answer to a call within a scope. -/
def answer : (call : Call) → Except Error (Page call.Record)
  | .tags arguments => (listTags catalog scope arguments).answer engine state
  | .operatingSystems query => (listOperatingSystems catalog scope query).answer engine state

/-- The plan of a call, if its arguments are accepted. -/
def plan (call : Call) : Except ArgumentFault Plan :=
  Facet.plan catalog.schema call.facet.criterion? { call.query with scope }

lemma sent_eq (call : Call) : call.sent engine state catalog scope =
    (call.facet.list catalog { call.query with scope }).requests engine state := by
  cases call <;> rfl

lemma answer_eq (call : Call) : call.answer engine state catalog scope =
    (call.facet.list catalog { call.query with scope }).answer engine state := by
  cases call <;> rfl

variable {catalog scope} {call : Call} {p : Plan} {response : Search.Response}

lemma exchange (hplan : call.plan catalog scope = .ok p) :
    let first := engine state (call.facet.bucketRequest catalog.index p)
    let second := engine first.2 (call.facet.countRequest catalog.index p)
    Exchange call.facet catalog.index p first.1 second.1 (call.sent engine state catalog scope)
      (call.answer engine state catalog scope) := by
  have hplan' : Facet.plan catalog.schema call.facet.criterion? { call.query with scope } = .ok p :=
    hplan
  rw [sent_eq, answer_eq]
  exact exchange_of_plan engine hplan' state

/-- A call whose first request is answered sends no other, and cuts its page from the response. -/
lemma sent_and_answer_of_response (hplan : call.plan catalog scope = .ok p)
    (hreply : (engine state (call.facet.bucketRequest catalog.index p)).1 = .ok response) :
    call.sent engine state catalog scope = [call.facet.bucketRequest catalog.index p] ∧
      call.answer engine state catalog scope = call.facet.page p.window response := by
  have hex := exchange engine state hplan
  refine ⟨?_, hex.answer_of_response hreply⟩
  rcases hex.sent_eq with ⟨hsent, -⟩ | ⟨-, e, he, -⟩
  · exact hsent
  · cases hreply.symm.trans he

end

end Call

/-- The number of records that is shown under `meta` in a rendered page. -/
def Page.metaCount? {ρ : Type} (render : ρ → Json) (page : Page ρ) : Option Json :=
  ((page.toJson render).get? "meta").bind (·.get? "count")

section

variable {σ : Type u} {σ' : Type v} (engine : σ → Request → Reply × σ) (state : σ)
  (engine' : σ' → Request → Reply × σ') (state' : σ') {catalog : Catalog} {scope : List Constraint}
  {call : Call} {p : Plan} {response response' : Search.Response}

/-- **A page is the window of the buckets**: a call whose first request is answered sends no other,
and lists the records of the buckets at the positions of its window; it fails at the first of these
that cannot be read, which only tags do. A response that differs elsewhere has the same answer. -/
theorem answer_is_window (hplan : call.plan catalog scope = .ok p)
    (hreply : (engine state (call.facet.bucketRequest catalog.index p)).1 = .ok response) :
    let shown := p.window.select response.buckets
    let answer := call.answer engine state catalog scope
    (p.window.limit : Int) = call.query.limit.getD 10 ∧
    (p.window.offset : Int) = call.query.offset.getD 0 ∧
    call.sent engine state catalog scope = [call.facet.bucketRequest catalog.index p] ∧
    ((∀ b ∈ shown, ∃ row, call.Reads b row) →
      ∃ rows page, List.Forall₂ call.Reads shown rows ∧ answer = .ok page ∧
        page.records = rows.reduceOption ∧ page.records.length ≤ p.window.limit ∧
        (∀ render, page.metaCount? render = some (.int page.records.length)) ∧
        page.total = response.buckets.length) ∧
    (∀ before b after, shown = before ++ b :: after → (∀ x ∈ before, ∃ row, call.Reads x row) →
      (¬ ∃ row, call.Reads b row) →
      ∃ arguments key, call = .tags arguments ∧ Tag.ofKey b.key = .error key ∧
        answer = .error (.malformedKey key)) ∧
    ((engine' state' (call.facet.bucketRequest catalog.index p)).1 = .ok response' →
      response'.buckets.length = response.buckets.length →
      (∀ i, p.window.offset ≤ i → i < p.window.offset + p.window.limit →
        response'.buckets[i]?.map (fun b => (b.key, b.docCount)) =
          response.buckets[i]?.map fun b => (b.key, b.docCount)) →
      call.answer engine' state' catalog scope = answer) := by
  intro shown answer
  have hwindow := (plan_ok_iff.1 hplan).1
  obtain ⟨hsent, hanswer⟩ := Call.sent_and_answer_of_response engine state hplan hreply
  refine ⟨Window.limit_of_ofArguments hwindow, Window.offset_of_ofArguments hwindow, hsent,
    ?page, ?malformed, ?same⟩
  case page =>
    intro hreads
    obtain ⟨rows, hrows⟩ := exists_forall₂_iff.2 hreads
    refine ⟨rows, ⟨rows.reduceOption, response.buckets.length⟩, hrows, ?_, rfl, ?_, fun _ => rfl,
      rfl⟩
    · have hdecode := decodeAll_of_forall₂ (hrows.imp fun _ _ => Call.decode_of_reads)
      exact hanswer.trans (page_of_decodeAll hdecode)
    · calc rows.reduceOption.length ≤ rows.length := List.reduceOption_length_le rows
        _ = shown.length := hrows.length_eq.symm
        _ ≤ p.window.limit := p.window.length_select_le response.buckets
  case malformed =>
    intro before b after hshown hbefore hb
    obtain ⟨arguments, key, hcall, hkey, hdecode⟩ := Call.fault_of_not_reads hb
    refine ⟨arguments, key, hcall, hkey, ?_⟩
    have hfirst : decodeAll call.facet (before ++ b :: after) = .error key := decodeAll_of_first
      (fun x hx => (hbefore x hx).imp fun _ => Call.decode_of_reads) hdecode
    rw [← hshown] at hfirst
    exact hanswer.trans (page_of_decodeAll_error hfirst)
  case same =>
    intro hreply' hlength hagree
    obtain ⟨-, hanswer'⟩ := Call.sent_and_answer_of_response engine' state' hplan hreply'
    have hpage := page_congr call.readsKeyAndCount hlength hagree
    exact hanswer'.trans (hpage.trans hanswer.symm)

end

/-! ### A page with an unreadable bucket outside of its window -/

/-- An engine that answers every request with one response. -/
def answering (response : Search.Response) : Unit → Request → Reply × Unit :=
  fun _ _ => (.ok response, ())

/-- Two tags from the second position on. -/
def secondPage : Call := .tags ⟨{ limit := some 2, offset := some 1 }, none⟩

def tagBuckets : List Bucket := [⟨"nokey", 9, 0⟩, ⟨"ns/a=b", 7, 0⟩, ⟨"/k=", 5, 3⟩, ⟨"x/y=z", 2, 0⟩]

theorem answer_is_window_secondPage :
    let answer := secondPage.answer (answering ⟨tagBuckets, 40⟩) () bareCatalog [orgScope "42"]
    secondPage.plan bareCatalog [orgScope "42"] =
        .ok ⟨⟨2, 1⟩, [Order.tieBreak], [orgScope "42"] ++ []⟩ ∧
      (∃ rows page, List.Forall₂ secondPage.Reads [⟨"ns/a=b", 7, 0⟩, ⟨"/k=", 5, 3⟩] rows ∧
        answer = .ok page ∧ page.records = rows.reduceOption ∧ page.total = 4) ∧
      secondPage.answer (answering ⟨[⟨"q", 1, 1⟩, ⟨"ns/a=b", 7, 4⟩, ⟨"/k=", 5, 0⟩, ⟨"r", 1, 1⟩], 0⟩)
        () bareCatalog [orgScope "42"] = answer := by
  intro answer
  have hplan : secondPage.plan bareCatalog [orgScope "42"] =
      .ok ⟨⟨2, 1⟩, [Order.tieBreak], [orgScope "42"] ++ []⟩ := rfl
  obtain ⟨-, -, -, hpage, -, hsame⟩ := answer_is_window (answering ⟨tagBuckets, 40⟩) ()
    (answering ⟨[⟨"q", 1, 1⟩, ⟨"ns/a=b", 7, 4⟩, ⟨"/k=", 5, 0⟩, ⟨"r", 1, 1⟩], 0⟩) () hplan rfl
  have hreads : ∀ b ∈ [(⟨"ns/a=b", 7, 0⟩ : Bucket), ⟨"/k=", 5, 3⟩],
      ∃ row, secondPage.Reads b row := by
    have hfirst : Tag.ofKey "ns/a=b" = .ok ⟨some "ns", "a", some "b"⟩ := by cbv
    have hsecond : Tag.ofKey "/k=" = .ok ⟨none, "k", none⟩ := by cbv
    intro b hb
    rcases List.mem_pair.1 hb with rfl | rfl
    · exact ⟨_, .tag hfirst⟩
    · exact ⟨_, .tag hsecond⟩
  refine ⟨hplan, ?_, hsame rfl rfl ?_⟩
  · obtain ⟨rows, page, hrows, hok, hrecords, -, -, htotal⟩ := hpage hreads
    exact ⟨rows, page, hrows, hok, hrecords, htotal⟩
  · intro i hle hlt
    have hi : i = 1 ∨ i = 2 := by
      change 1 ≤ i at hle
      change i < 1 + 2 at hlt
      omega
    rcases hi with rfl | rfl <;> rfl

end Facet

end HostFacets
