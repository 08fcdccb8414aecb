import HostFacets.Proofs.RecordParts
import HostFacets.Search.Response

/-!
What a response says, part by part.

A response is read as a whole or refused. Each bucket that is read has a key and a count that are
written for it, and there is one for every element of the list; the total is the number that is
written, and zero only where it is null or left out.
-/

namespace HostFacets.Search

open Json Json.Draft Json.Reader

/-! ### Texts and integers -/

/-- A draft spells this text. -/
def WritesText (x : Draft) (s : String) : Prop := Spells 0 x (.str s)

/-- A draft spells this natural of 64 bits. -/
def WritesNat64 (x : Draft) (n : Nat) : Prop := Spells 0 x (.int n) ∧ n < 2 ^ 64

/-- A draft spells this integer of 64 bits. -/
def WritesInt64 (x : Draft) (n : Int) : Prop := Spells 0 x (.int n) ∧ -2 ^ 63 ≤ n ∧ n < 2 ^ 63

section

variable {depth : Nat} {x : Draft}

lemma text_iff_writes {s : String} : text depth x = .ok s ↔ WritesText x s := by
  constructor
  · intro h
    cases x with
    | string spelling =>
      simp only [text] at h
      split at h
      · next hs =>
        cases h
        exact .string hs
      · cases h
    | _ => cases h
  · rintro ⟨hs⟩
    simp [text, *]

lemma integer_iff_spells {accepts : Int → Bool} {n : Int} :
    integer accepts depth x = .ok n ↔ Spells 0 x (.int n) ∧ accepts n := by
  constructor
  · intro h
    cases x with
    | number written =>
      simp only [integer] at h
      split at h
      · next hn =>
        split at h
        · next haccepts =>
          cases h
          exact ⟨.int hn, haccepts⟩
        · cases h
      · cases h
      · cases h
    | _ => cases h
  · rintro ⟨⟨hn⟩, haccepts⟩
    simp [integer, *]

lemma int64_iff_writes {n : Int} : int64 depth x = .ok n ↔ WritesInt64 x n := by
  rw [int64, integer_iff_spells, isInt64_iff, WritesInt64]

lemma nat64_iff_writes {n : Nat} : nat64 depth x = .ok n ↔ WritesNat64 x n := by
  simp only [nat64, map_ok_iff, integer_iff_spells, isNat64_iff, WritesNat64]
  constructor
  · rintro ⟨i, ⟨hi, hmin, hmax⟩, rfl⟩
    rw [Int.toNat_of_nonneg hmin]
    exact ⟨hi, by omega⟩
  · rintro ⟨hn, hmax⟩
    exact ⟨n, ⟨hn, by omega, by omega⟩, by simp⟩

end

/-! ### Buckets -/

def bucketNames : List String := ["key", "doc_count", "doc_count_error_upper_bound"]

lemma slot_key : Slot bucketFields "key" text Bucket.key :=
  .head (fun _ _ => rfl) (by simp [field, Keeps])

lemma slot_docCount : Slot bucketFields "doc_count" nat64 Bucket.docCount :=
  .tail (by simp [field]) (keeps_field fun _ _ => rfl)
    (.head (fun _ _ => rfl) (by simp [field, Keeps]))

lemma slot_countError :
    Slot bucketFields "doc_count_error_upper_bound" int64 Bucket.countError :=
  .tail (by simp [field]) (keeps_field fun _ _ => rfl)
    (.tail (by simp [field]) (keeps_field fun _ _ => rfl) (.head (fun _ _ => rfl) (by simp)))

lemma nodup_bucketFields : (bucketFields.map (·.name)).Nodup := by decide

/-- What is written is a bucket: its key, its count, and its error bound or none. -/
structure BucketGiven (x : Draft) (b : Bucket) : Prop where
  key : Gives bucketNames "key" (WritesText · b.key) x
  docCount : Gives bucketNames "doc_count" (WritesNat64 · b.docCount) x
  countError : Gives bucketNames "doc_count_error_upper_bound" (WritesInt64 · b.countError) x ∨
    LeavesOut bucketNames "doc_count_error_upper_bound" x ∧ b.countError = 0

lemma bucketGiven_of_bucket {depth : Nat} {x : Draft} {b : Bucket} (h : bucket depth x = .ok b) :
    BucketGiven x b := by
  obtain ⟨inner, -, hread⟩ := recordRead_of_record h
  constructor
  · exact (hread.slot_of_required slot_key nodup_bucketFields (by simp [bucketFields, field])).imp
      fun _ => text_iff_writes.1
  · exact (hread.slot_of_required slot_docCount nodup_bucketFields
      (by simp [bucketFields, field])).imp fun _ => nat64_iff_writes.1
  · exact (hread.slot slot_countError nodup_bucketFields).imp
      (·.imp fun _ => int64_iff_writes.1) id

/-! ### Totals -/

/-- What is written is a total: a natural, or an object that holds one. -/
inductive TotalGiven : Draft → Nat → Prop where
  | number {x : Draft} {n : Nat} (h : WritesNat64 x n) : TotalGiven x n
  | object {members : List (Spelling × Draft)} {n : Nat}
    (h : Gives ["value"] "value" (WritesNat64 · n) (.object members true)) :
    TotalGiven (.object members true) n

lemma totalGiven_of_total {depth : Nat} {x : Draft} {n : Nat} (h : total depth x = .ok n) :
    TotalGiven x n := by
  rcases either_ok h with hnumber | hobject
  · exact .number (nat64_iff_writes.1 hnumber)
  · obtain ⟨inner, members, -, rfl, hread⟩ := recordRead_of_recordObject hobject
    exact .object ((hread.slot_of_required (.head (fun _ _ => rfl) (by simp)) (by simp)
      (by simp [field])).imp fun _ => nat64_iff_writes.1)

/-- What `hits` says of the total, which is zero where it is null or left out. -/
inductive HitsGiven : Draft → Nat → Prop where
  | null : HitsGiven .null 0
  | noTotal {x : Draft} (h : LeavesOut ["total"] "total" x) : HitsGiven x 0
  | nullTotal {x : Draft} (h : Gives ["total"] "total" (· = .null) x) : HitsGiven x 0
  | total {x : Draft} {n : Nat} (h : Gives ["total"] "total" (TotalGiven · n) x) : HitsGiven x n

lemma hitsGiven_of_hits {depth : Nat} {x : Draft} {o : Option Nat} (h : hits depth x = .ok o) :
    HitsGiven x (o.getD 0) := by
  obtain ⟨inner, -, hread⟩ := recordRead_of_record h
  have hslot := hread.slot (.head (fun _ _ => rfl) (by simp) : Slot _ "total" _ id) (by simp)
  rcases hslot with hgives | ⟨hout, ho⟩
  · cases o with
    | none =>
      refine .nullTotal (hgives.imp fun y hy => ?_)
      rcases optional_ok_iff.1 hy with ⟨hnull, -⟩ | ⟨-, n, -, hn⟩
      · exact hnull
      · cases hn
    | some n =>
      refine .total (hgives.imp fun y hy => ?_)
      rcases optional_ok_iff.1 hy with ⟨-, hn⟩ | ⟨-, m, hm, hn⟩
      · cases hn
      · cases hn
        exact totalGiven_of_total hm
  · obtain rfl : o = none := ho
    exact .noTotal hout

/-! ### Responses -/

def responseNames : List String := ["hits", "aggregations"]

lemma slot_hitsTotal : Slot responseFields "hits"
    (fun depth d => (optional hits depth d).map fun n => n.join.getD 0) Response.hitsTotal :=
  .head_map (fun _ _ => rfl) (by simp [field, Keeps])

lemma slot_buckets : Slot responseFields "aggregations"
    (fun depth d => (optional aggregations depth d).map fun buckets => buckets.getD [])
    Response.buckets :=
  .tail (by simp [field]) (keeps_field fun _ _ => rfl) (.head_map (fun _ _ => rfl) (by simp))

lemma slot_terms : Slot
    [field "terms" .defaulted (optional terms) fun buckets (_ : List Bucket) => buckets.getD []]
    "terms" (fun depth d => (optional terms depth d).map fun buckets => buckets.getD []) id :=
  .head_map (fun _ _ => rfl) (by simp)

lemma slot_termsBuckets : Slot
    [field "buckets" .defaulted (list bucket) fun buckets (_ : List Bucket) => buckets]
    "buckets" (list bucket) id :=
  .head (fun _ _ => rfl) (by simp)

lemma nodup_responseFields : (responseFields.map (·.name)).Nodup := by decide

/-- A response has this total, which is zero where its hits are null or left out. -/
inductive CarriesTotal : Draft → Nat → Prop where
  | noHits {d : Draft} (h : LeavesOut responseNames "hits" d) : CarriesTotal d 0
  | hits {d : Draft} {n : Nat} (h : Gives responseNames "hits" (HitsGiven · n) d) :
    CarriesTotal d n

/-- A response has these elements in the list of its buckets. -/
inductive CarriesBuckets : Draft → List Draft → Prop where
  | mk {d aggs terms : Draft} {items : List Draft} {closed : Bool}
    (haggs : Part responseNames "aggregations" d aggs) (hterms : Part ["terms"] "terms" aggs terms)
    (hbuckets : Part ["buckets"] "buckets" terms (.array items closed)) : CarriesBuckets d items

section

variable {depth : Nat} {d : Draft} {r : Response}

lemma carriesTotal_of_response (h : response depth d = .ok r) : CarriesTotal d r.hitsTotal := by
  obtain ⟨inner, -, hread⟩ := recordRead_of_record h
  rcases hread.slot slot_hitsTotal nodup_responseFields with hgives | ⟨hout, hzero⟩
  · refine .hits (hgives.imp fun x hx => ?_)
    obtain ⟨o, ho, hn⟩ := map_ok_iff.1 hx
    rw [← hn]
    rcases optional_ok_iff.1 ho with ⟨rfl, rfl⟩ | ⟨-, n, hhits, rfl⟩
    · exact .null
    · exact hitsGiven_of_hits hhits
  · rw [hzero]
    exact .noHits hout

/-- What has parts is not null. -/
lemma ne_null_of_part {names : List String} {name : String} {x : Draft}
    (h : Part names name d x) : d ≠ .null := by
  rintro rfl
  cases h

/-- There is a bucket for every element, in the same order. -/
lemma forall₂_of_carriesBuckets (h : response depth d = .ok r) {items : List Draft}
    (hitems : CarriesBuckets d items) : List.Forall₂ BucketGiven items r.buckets := by
  obtain ⟨haggs, hterms, hbuckets⟩ := hitems
  -- neither the aggregations nor the terms are null, since each holds a part of its own
  obtain ⟨depth₁, -, hresponse⟩ := recordRead_of_record h
  obtain ⟨o, ho, hr⟩ :=
    map_ok_iff.1 (hresponse.slot_of_part slot_buckets nodup_responseFields haggs)
  obtain ⟨inAggs, haggsRead, rfl⟩ := exists_of_optional ho (ne_null_of_part hterms)
  obtain ⟨depth₂, -, haggsRead⟩ := recordRead_of_record haggsRead
  obtain ⟨o, ho, hb⟩ := map_ok_iff.1 (haggsRead.slot_of_part slot_terms (by simp) hterms)
  obtain ⟨inTerms, htermsRead, rfl⟩ := exists_of_optional ho (ne_null_of_part hbuckets)
  obtain ⟨depth₃, -, htermsRead⟩ := recordRead_of_record htermsRead
  obtain ⟨depth₄, -, hlist⟩ :=
    exists_of_list (htermsRead.slot_of_part slot_termsBuckets (by simp) hbuckets)
  have hsame : inTerms = r.buckets := hb.trans hr
  exact hsame ▸ hlist.imp fun _ _ => bucketGiven_of_bucket

end

/-! ### Refusals -/

/-- An element that is no bucket: its key is no text, its count or its error bound no integer of
64 bits. Only the error bound may be left out. -/
inductive Defective (x : Draft) : Prop where
  | key (h : ∀ k s, Part bucketNames "key" x k → ¬ WritesText k s)
  | docCount (h : ∀ c n, Part bucketNames "doc_count" x c → ¬ WritesNat64 c n)
  | countError {e : Draft} (he : Part bucketNames "doc_count_error_upper_bound" x e)
    (h : ∀ n, ¬ WritesInt64 e n)

/-- What is written for the total of a response. -/
inductive TotalPart : Draft → Draft → Prop where
  | mk {d hits x : Draft} (hhits : Part responseNames "hits" d hits)
    (hx : Part ["total"] "total" hits x) : TotalPart d x

lemma not_defective {x : Draft} {b : Bucket} (h : BucketGiven x b) : ¬ Defective x := by
  rintro (hno | hno | ⟨he, hno⟩)
  · obtain ⟨k, hk⟩ := h.key.present
    exact hno k b.key hk (h.key.all k hk)
  · obtain ⟨c, hc⟩ := h.docCount.present
    exact hno c b.docCount hc (h.docCount.all c hc)
  · rcases h.countError with hgives | ⟨hout, -⟩
    · exact hno b.countError (hgives.all _ he)
    · exact hout.absent _ he

/-- A total that is written and not null is the total of the response. -/
lemma totalGiven_of_totalPart {d x : Draft} {n : Nat} (h : CarriesTotal d n) (hx : TotalPart d x)
    (hne : x ≠ .null) : TotalGiven x n := by
  obtain ⟨hhits, hx⟩ := hx
  rcases h with hout | hgives
  · exact absurd hhits (hout.absent _)
  · cases hgives.all _ hhits with
    | null => cases hx
    | noTotal hout => exact absurd hx (hout.absent _)
    | nullTotal hnull => exact absurd (hnull.all _ hx) hne
    | total htotal => exact htotal.all _ hx

lemma ofText_ok_iff {reason : String → String} {t : String} {r : Response} :
    Response.ofText reason t = .ok r ↔
      response maxDepth (Draft.ofText t).1 = .ok r ∧ (Draft.ofText t).2 := by
  rw [← whole_ok_iff, Response.ofText]
  cases response.whole t <;> simp

/-- The text is no response, for this reason. -/
def IsRefused (reason : String → String) (t : String) : Prop :=
  Response.ofText reason t = .error (.unexpected (reason t))

lemma ofText_ok_or_refused (reason : String → String) (t : String) :
    (∃ r, Response.ofText reason t = .ok r) ∨ IsRefused reason t := by
  rw [IsRefused, Response.ofText]
  cases response.whole t <;> simp

/-- **Reading a response is all or nothing**: it is refused, or it has one bucket for every element
of the list, in order and with what is written there, and the total that is written. One defective
element is enough for a refusal, and so is a total that is neither null nor a natural of 64 bits nor
an object with one. -/
theorem ofText_all_or_nothing (reason : String → String) (t : String) :
    (IsRefused reason t ∨ ∃ r, Response.ofText reason t = .ok r ∧
      CarriesTotal (Draft.ofText t).1 r.hitsTotal ∧
      ∀ items, CarriesBuckets (Draft.ofText t).1 items →
        List.Forall₂ BucketGiven items r.buckets) ∧
    (∀ items, CarriesBuckets (Draft.ofText t).1 items → (∃ item ∈ items, Defective item) →
      IsRefused reason t) ∧
    (∀ x, TotalPart (Draft.ofText t).1 x → x ≠ .null → (∀ n, ¬ TotalGiven x n) →
      IsRefused reason t) := by
  have hread : ∀ r, Response.ofText reason t = .ok r →
      CarriesTotal (Draft.ofText t).1 r.hitsTotal ∧
        ∀ items, CarriesBuckets (Draft.ofText t).1 items →
          List.Forall₂ BucketGiven items r.buckets := by
    intro r hr
    have hresponse := (ofText_ok_iff.1 hr).1
    exact ⟨carriesTotal_of_response hresponse, fun _ => forall₂_of_carriesBuckets hresponse⟩
  refine ⟨?whole, fun items hitems ⟨item, hitem, hdefective⟩ => ?bucket,
    fun x hx hne hunread => ?total⟩
  case whole =>
    rcases ofText_ok_or_refused reason t with ⟨r, hr⟩ | hrefused
    · exact .inr ⟨r, hr, hread r hr⟩
    · exact .inl hrefused
  case bucket =>
    refine (ofText_ok_or_refused reason t).resolve_left fun ⟨r, hr⟩ => ?_
    obtain ⟨b, -, hb⟩ := exists_right_of_forall₂ ((hread r hr).2 items hitems) item hitem
    exact not_defective hb hdefective
  case total =>
    refine (ofText_ok_or_refused reason t).resolve_left fun ⟨r, hr⟩ => ?_
    exact hunread r.hitsTotal (totalGiven_of_totalPart (hread r hr).1 hx hne)

/-! ### A bucket without a count, and a bare total without buckets -/

def plain (s : String) : Spelling := s.toList.map .char

def digits (s : String) : Draft := .number ⟨false, s.toList, [], none⟩

def uncountedText : String :=
  r#"{"aggregations":{"terms":{"buckets":[{"key":"a","doc_count":1},{"key":"b"}]}}}"#

def countedBucket : Draft :=
  .object [(plain "key", .string (plain "a")), (plain "doc_count", digits "1")] true

def uncountedBucket : Draft := .object [(plain "key", .string (plain "b"))] true

def uncountedTerms : Draft :=
  .object [(plain "buckets", .array [countedBucket, uncountedBucket] true)] true

lemma defective_uncountedBucket : Defective uncountedBucket := by
  refine .docCount fun c n hc => ?_
  obtain ⟨s, hs, hname⟩ := part_object_iff.1 hc
  cases List.mem_singleton.1 hs
  exact absurd hname (by decide)

/-- What is said of the text with that bucket. -/
def missingCount (_ : String) : String := "missing field `doc_count` at line 1 column 74"

def bareTotalText : String := r#"{"hits": {"total": 42, "hits": []}}"#

theorem ofText_uncountedText :
    (CarriesBuckets (Draft.ofText uncountedText).1 [countedBucket, uncountedBucket] ∧
      IsRefused missingCount uncountedText) ∧
    Response.ofText missingCount bareTotalText = .ok ⟨[], 42⟩ ∧
      CarriesTotal (Draft.ofText bareTotalText).1 42 := by
  have hdraft : (Draft.ofText uncountedText).1 =
      .object [(plain "aggregations", .object [(plain "terms", uncountedTerms)] true)] true := by
    conv_lhs => cbv
    rfl
  have hbuckets :
      CarriesBuckets (Draft.ofText uncountedText).1 [countedBucket, uncountedBucket] := by
    rw [hdraft]
    exact .mk (.member ⟨_, List.mem_cons_self, rfl⟩) (.member ⟨_, List.mem_cons_self, rfl⟩)
      (.member ⟨_, List.mem_cons_self, rfl⟩)
  have hitem : ∃ item ∈ [countedBucket, uncountedBucket], Defective item :=
    ⟨uncountedBucket, by simp, defective_uncountedBucket⟩
  have hread : Response.ofText missingCount bareTotalText = .ok ⟨[], 42⟩ := by cbv
  refine ⟨⟨hbuckets, (ofText_all_or_nothing _ uncountedText).2.1 _ hbuckets hitem⟩, hread, ?_⟩
  rcases (ofText_all_or_nothing missingCount bareTotalText).1 with hrefused | ⟨r, hr, htotal, -⟩
  · cases hread.symm.trans hrefused
  · cases hread.symm.trans hr
    exact htotal

end HostFacets.Search
