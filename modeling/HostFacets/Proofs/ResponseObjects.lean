import HostFacets.Proofs.ResponseParts

/-!
Responses as the engine writes them.

A response is an object with a total in its hits and a list of buckets in its aggregations. The
total is a number or an object that holds one, an error bound of zero may be left out, and any of
these objects may have other members in any place. Reading gives back what was written.
-/

namespace HostFacets.Search

open Json Json.Draft Json.Reader

/-! ### Objects that write responses -/

/-- How an error bound is written; only zero may be left out. -/
inductive BoundWritten : Option Draft → Int → Prop where
  | leftOut : BoundWritten none 0
  | written {x : Draft} {n : Int} (h : WritesInt64 x n) : BoundWritten (some x) n

/-- What the object of a bucket holds. -/
def bucketParts (key count : Draft) (bound : Option Draft) : List (String × Draft) :=
  ("key", key) :: ("doc_count", count) ::
    (bound.map fun x => ("doc_count_error_upper_bound", x)).toList

/-- An object that writes a bucket. -/
inductive BucketObject : Draft → Bucket → Prop where
  | mk {x : Draft} {b : Bucket} {key count : Draft} {bound : Option Draft}
    (hkey : WritesText key b.key) (hcount : WritesNat64 count b.docCount)
    (hbound : BoundWritten bound b.countError)
    (h : x.ObjectWith bucketNames (bucketParts key count bound)) : BucketObject x b

/-- A total, as a number or as an object that holds it. -/
inductive TotalWritten : Draft → Nat → Prop where
  | number {x : Draft} {n : Nat} (h : WritesNat64 x n) : TotalWritten x n
  | object {x value : Draft} {n : Nat} (hvalue : WritesNat64 value n)
    (h : x.ObjectWith ["value"] [("value", value)]) : TotalWritten x n

/-- An object that writes a response. -/
inductive ResponseObject : Draft → Response → Prop where
  | mk {d : Draft} {r : Response} {hits total aggs terms : Draft} {items : List Draft}
    (htotal : TotalWritten total r.hitsTotal)
    (hhits : hits.ObjectWith ["total"] [("total", total)])
    (hitems : List.Forall₂ BucketObject items r.buckets)
    (hterms : terms.ObjectWith ["buckets"] [("buckets", .array items true)])
    (haggs : aggs.ObjectWith ["terms"] [("terms", terms)])
    (h : d.ObjectWith responseNames [("hits", hits), ("aggregations", aggs)]) : ResponseObject d r

/-! ### Buckets -/

lemma mem_bucketParts_iff {key count e : Draft} {bound : Option Draft} :
    ("doc_count_error_upper_bound", e) ∈ bucketParts key count bound ↔ bound = some e := by
  cases bound <;> simp [bucketParts, eq_comm]

lemma BoundWritten.read {depth : Nat} {e : Draft} {n : Int} (h : BoundWritten (some e) n) :
    int64 depth e = .ok n := by
  cases h with
  | written h => exact int64_iff_writes.2 h

lemma BoundWritten.zero {n : Int} (h : BoundWritten none n) : n = 0 := by
  cases h
  rfl

/-- What is read from the object of a bucket is that bucket. -/
lemma eq_of_recordRead {depth : Nat} {x key count : Draft} {bound : Option Draft} {b r : Bucket}
    (hread : RecordRead bucketFields depth ⟨"", 0, 0⟩ x r) (hkey : WritesText key b.key)
    (hcount : WritesNat64 count b.docCount) (hbound : BoundWritten bound b.countError)
    (h : x.ObjectWith bucketNames (bucketParts key count bound)) : r = b := by
  have hkeyRead : text depth key = .ok r.key :=
    hread.slot_of_mem slot_key nodup_bucketFields h (by simp [bucketParts])
  have hcountRead : nat64 depth count = .ok r.docCount :=
    hread.slot_of_mem slot_docCount nodup_bucketFields h (by simp [bucketParts])
  have hkeyEq : r.key = b.key := Except.ok.inj (hkeyRead.symm.trans (text_iff_writes.2 hkey))
  have hcountEq : r.docCount = b.docCount :=
    Except.ok.inj (hcountRead.symm.trans (nat64_iff_writes.2 hcount))
  have hboundEq : r.countError = b.countError := by
    cases bound with
    | none =>
      rw [hbound.zero]
      exact hread.slot_of_notMem slot_countError nodup_bucketFields h (by simp [bucketParts])
    | some e =>
      have he := hread.slot_of_mem slot_countError nodup_bucketFields h (mem_bucketParts_iff.2 rfl)
      exact Except.ok.inj (he.symm.trans hbound.read)
  cases r
  cases b
  simp_all

lemma reads_bucket {x : Draft} {b : Bucket} (h : BucketObject x b) : Reads bucket x b := by
  intro depth hvalue
  cases h with
  | @mk key count bound hkey hcount hbound h =>
    obtain ⟨depth, rfl⟩ := exists_depth_of_objectWith h hvalue
    have hparts : ∀ f ∈ bucketFields, ∀ e, (f.name, e) ∈ bucketParts key count bound →
        ∃ set, f.read depth e = .ok set := by
      simp only [bucketFields, field, List.forall_mem_cons, mem_bucketParts_iff]
      refine ⟨by simp [bucketParts, text_iff_writes.2 hkey],
        by simp [bucketParts, nat64_iff_writes.2 hcount], ?_, by simp⟩
      rintro e rfl
      exact ⟨_, map_ok_iff.2 ⟨_, hbound.read, rfl⟩⟩
    obtain ⟨r, hr, hread⟩ := @exists_recordRead_of_objectWith _ bucketFields depth ⟨"", 0, 0⟩ _ _ h
      hvalue nodup_bucketFields (by cases bound <;> simp [bucketParts]) hparts
      (by simp [bucketFields, bucketParts, field])
    rw [bucket, record_of_objectWith _ _ h, hr, eq_of_recordRead hread hkey hcount hbound h]

/-! ### Responses -/

lemma reads_nat64 {x : Draft} {n : Nat} (h : WritesNat64 x n) : Reads nat64 x n := fun _ _ =>
  nat64_iff_writes.2 h

lemma ne_null_of_totalWritten {x : Draft} {n : Nat} (h : TotalWritten x n) : x ≠ .null := by
  cases h with
  | number h =>
    rintro rfl
    cases h.1
  | object _ h => exact ne_null_of_objectWith h

lemma reads_total {x : Draft} {n : Nat} (h : TotalWritten x n) : Reads total x n := by
  cases h with
  | number h => exact .either_first (reads_nat64 h)
  | object hvalue h =>
    -- the number comes first among the alternatives, so it must not fit an object
    have hnumber : ∀ depth m, nat64 depth x ≠ .ok m := by
      intro depth m hm
      cases h
      cases (nat64_iff_writes.1 hm).1
    exact .either_second hnumber (.recordObject_single (fun _ _ => rfl) (reads_nat64 hvalue) h)

lemma reads_response {d : Draft} {r : Response} (h : ResponseObject d r) : Reads response d r := by
  intro depth hvalue
  cases h with
  | @mk hits total aggs terms items htotal hhits hitems hterms haggs h =>
    obtain ⟨depth, rfl⟩ := exists_depth_of_objectWith h hvalue
    have hhitsRead : Reads Search.hits hits (some r.hitsTotal) :=
      .record_single (fun _ _ => rfl)
        ((reads_total htotal).optional (ne_null_of_totalWritten htotal)) hhits
    have hlist : Reads (Reader.list bucket) (.array items true) r.buckets :=
      .list (hitems.imp fun _ _ => reads_bucket)
    have htermsRead : Reads Search.terms terms r.buckets :=
      .record_single (fun _ _ => rfl) hlist hterms
    have haggsRead : Reads aggregations aggs r.buckets :=
      .record_single (fun _ _ => rfl) (htermsRead.optional (ne_null_of_objectWith hterms)) haggs
    have hhitsPart : ("hits", hits) ∈ [("hits", hits), ("aggregations", aggs)] :=
      List.mem_cons_self
    have haggsPart : ("aggregations", aggs) ∈ [("hits", hits), ("aggregations", aggs)] :=
      List.mem_cons_of_mem _ List.mem_cons_self
    have hhitsSome := hhitsRead.optional (ne_null_of_objectWith hhits) depth
      (h.isSome_value? hvalue hhitsPart)
    have haggsSome := haggsRead.optional (ne_null_of_objectWith haggs) depth
      (h.isSome_value? hvalue haggsPart)
    obtain ⟨r', hr', hread⟩ := @exists_recordRead_of_objectWith _ responseFields depth ⟨[], 0⟩ _ _ h
      hvalue nodup_responseFields (by simp)
      (by simp [responseFields, field, hhitsSome, haggsSome]) (by simp [responseFields, field])
    have htotalRead := hread.slot_of_mem slot_hitsTotal nodup_responseFields h hhitsPart
    have hbucketsRead := hread.slot_of_mem slot_buckets nodup_responseFields h haggsPart
    rw [hhitsSome] at htotalRead
    rw [haggsSome] at hbucketsRead
    have hrr : r' = r := by
      cases r
      cases r'
      simp_all [Except.map]
    rw [response, record_of_objectWith _ _ h, hr', hrr]

/-- **Reading a response undoes writing it.** From the text of an object that writes a response,
with the total in either form, error bounds of zero written or not and other members anywhere, the
response is read back as it is. -/
theorem ofText_of_responseObject (reason : String → String) {t : String} {r : Response}
    (hparse : (parse? t).isSome) (h : ResponseObject (Draft.ofText t).1 r) :
    Response.ofText reason t = .ok r := by
  obtain ⟨v, hv⟩ := Option.isSome_iff_exists.1 hparse
  obtain ⟨hvalue, halone⟩ := parse?_eq_some_iff.1 hv
  exact ofText_ok_iff.2 ⟨reads_response h _ (Option.isSome_iff_exists.2 ⟨v, hvalue⟩), halone⟩

/-! ### A total as an object, a bucket without a bound, and another member in each object -/

def annotatedText : String :=
  r#"{"x":0,"hits":{"total":{"x":0,"value":2},"x":0},"aggregations":{"terms":{"buckets":[{"doc_count":2,"key":"k","x":0}],"x":0},"x":0}}"#

def annotatedTotal : Draft := .object [(plain "x", digits "0"), (plain "value", digits "2")] true

def annotatedHits : Draft := .object [(plain "total", annotatedTotal), (plain "x", digits "0")] true

def annotatedBucket : Draft :=
  .object [(plain "doc_count", digits "2"), (plain "key", .string (plain "k")),
    (plain "x", digits "0")] true

def annotatedTerms : Draft :=
  .object [(plain "buckets", .array [annotatedBucket] true), (plain "x", digits "0")] true

def annotatedAggregations : Draft :=
  .object [(plain "terms", annotatedTerms), (plain "x", digits "0")] true

def annotated : Draft :=
  .object [(plain "x", digits "0"), (plain "hits", annotatedHits),
    (plain "aggregations", annotatedAggregations)] true

lemma writesNat64_two : WritesNat64 (digits "2") 2 := ⟨.int (by cbv), by decide⟩

lemma bucketObject_annotatedBucket : BucketObject annotatedBucket ⟨"k", 2, 0⟩ := by
  have hkey : WritesText (.string (plain "k")) "k" := .string (by cbv)
  have hknown : annotatedBucket.ObjectWith bucketNames
      (bucketParts (.string (plain "k")) (digits "2") none) :=
    .mk (.swap _ _ [])
  exact .mk hkey writesNat64_two .leftOut hknown

lemma responseObject_annotated : ResponseObject annotated ⟨[⟨"k", 2, 0⟩], 2⟩ := by
  have htotal : annotatedTotal.ObjectWith ["value"] [("value", digits "2")] := .mk (.of_eq rfl)
  have hhits : annotatedHits.ObjectWith ["total"] [("total", annotatedTotal)] := .mk (.of_eq rfl)
  have hterms : annotatedTerms.ObjectWith ["buckets"]
      [("buckets", .array [annotatedBucket] true)] := .mk (.of_eq rfl)
  have haggs : annotatedAggregations.ObjectWith ["terms"] [("terms", annotatedTerms)] :=
    .mk (.of_eq rfl)
  have hresponse : annotated.ObjectWith responseNames
      [("hits", annotatedHits), ("aggregations", annotatedAggregations)] := .mk (.of_eq rfl)
  exact .mk (.object writesNat64_two htotal) hhits (.cons bucketObject_annotatedBucket .nil)
    hterms haggs hresponse

theorem ofText_of_annotatedText :
    (parse? annotatedText).isSome ∧
      ResponseObject (Draft.ofText annotatedText).1 ⟨[⟨"k", 2, 0⟩], 2⟩ ∧
      Response.ofText missingCount annotatedText = .ok ⟨[⟨"k", 2, 0⟩], 2⟩ := by
  have hparse : (parse? annotatedText).isSome := by cbv
  have hdraft : (Draft.ofText annotatedText).1 = annotated := by
    conv_lhs => cbv
    rfl
  have hobject : ResponseObject (Draft.ofText annotatedText).1 ⟨[⟨"k", 2, 0⟩], 2⟩ := by
    rw [hdraft]
    exact responseObject_annotated
  exact ⟨hparse, hobject, ofText_of_responseObject missingCount hparse hobject⟩

end HostFacets.Search
