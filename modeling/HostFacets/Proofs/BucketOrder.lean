import HostFacets.Order
import HostFacets.Search.Response
import Mathlib

/-!
The order of buckets.

Clauses compare buckets lexicographically, the first clause first. Where the key is among them no
two buckets with different keys are tied, so there is one arrangement of buckets whose keys are all
different.
-/

namespace HostFacets

open Search (Bucket)

/-! ### Comparing buckets -/

def SortField.compare : SortField → Bucket → Bucket → Ordering
  | .count => compareOn Bucket.docCount
  | .key => compareOn Bucket.key

def OrderClause.compare (clause : OrderClause) : Bucket → Bucket → Ordering :=
  match clause.direction with
  | .ascending => clause.field.compare
  | .descending => fun a b => clause.field.compare b a

namespace Order

/-- Later clauses decide where the earlier ones see a tie. -/
def compare : List OrderClause → Bucket → Bucket → Ordering
  | [] => fun _ _ => .eq
  | clause :: rest => compareLex clause.compare (compare rest)

/-- The clauses put `a` before `b`. -/
def Precedes (clauses : List OrderClause) (a b : Bucket) : Prop :=
  compare clauses a b = .lt

/-- No bucket precedes one that stands before it. -/
def Arranged (clauses : List OrderClause) (buckets : List Bucket) : Prop :=
  buckets.Pairwise fun a b => (compare clauses a b).isLE

instance (clauses : List OrderClause) (buckets : List Bucket) :
    Decidable (Arranged clauses buckets) :=
  inferInstanceAs (Decidable (buckets.Pairwise _))

instance (field : SortField) : Std.TransCmp field.compare := by
  cases field
  · exact inferInstanceAs (Std.TransCmp (compareOn Bucket.docCount))
  · exact inferInstanceAs (Std.TransCmp (compareOn Bucket.key))

instance (clause : OrderClause) : Std.TransCmp clause.compare := by
  obtain ⟨field, direction⟩ := clause
  cases direction
  · exact inferInstanceAs (Std.TransCmp field.compare)
  · exact inferInstanceAs (Std.TransCmp fun a b => field.compare b a)

instance (clauses : List OrderClause) : Std.TransCmp (compare clauses) := by
  induction clauses with
  | nil => exact { eq_swap := rfl, isLE_trans := fun _ _ => rfl }
  | cons clause rest _ => exact inferInstanceAs (Std.TransCmp (compareLex _ _))

lemma isLE_compare_iff {clauses : List OrderClause} {a b : Bucket} :
    (compare clauses a b).isLE ↔ ¬ Precedes clauses b a := by
  rw [Precedes, ← Std.OrientedCmp.gt_iff_lt]
  cases compare clauses a b <;> simp

/-! ### Clauses that tell keys apart -/

/-- Clauses order all buckets with different keys strictly. -/
structure SeparatesKeys (clauses : List OrderClause) : Prop where
  total : ∀ a b, a.key ≠ b.key → Precedes clauses a b ∨ Precedes clauses b a
  asymm : ∀ a b, Precedes clauses a b → ¬ Precedes clauses b a
  trans : ∀ a b c, Precedes clauses a b → Precedes clauses b c → Precedes clauses a c

/-- Under a clause for the key only buckets with one key are tied. -/
lemma key_eq_of_compare {clauses : List OrderClause} {direction : Direction}
    (hmem : ⟨.key, direction⟩ ∈ clauses) {a b : Bucket} (h : compare clauses a b = .eq) :
    a.key = b.key := by
  induction clauses with
  | nil => cases hmem
  | cons clause rest ih =>
    obtain ⟨hclause, hrest⟩ := compareLex_eq_eq.1 h
    rcases List.mem_cons.1 hmem with rfl | hmem
    · cases direction with
      | ascending => exact Std.LawfulEqOrd.eq_of_compare hclause
      | descending => exact (Std.LawfulEqOrd.eq_of_compare hclause).symm
    · exact ih hmem hrest

lemma separatesKeys_of_key_mem {clauses : List OrderClause} {direction : Direction}
    (hmem : ⟨.key, direction⟩ ∈ clauses) : SeparatesKeys clauses where
  total a b hne := by
    cases h : compare clauses a b with
    | lt => exact .inl h
    | eq => exact absurd (key_eq_of_compare hmem h) hne
    | gt => exact .inr (Std.OrientedCmp.gt_iff_lt.1 h)
  asymm _ _ := Std.OrientedCmp.not_lt_of_lt
  trans _ _ _ := Std.TransCmp.lt_trans

/-! ### Arrangements -/

lemma exists_arranged (clauses : List OrderClause) (buckets : List Bucket) :
    ∃ sorted : List Bucket, sorted.Perm buckets ∧ Arranged clauses sorted := by
  have htotal : ∀ a b, (compare clauses a b).isLE || (compare clauses b a).isLE := by
    intro a b
    cases h : compare clauses a b with
    | lt | eq => rfl
    | gt => simp [Std.OrientedCmp.gt_iff_lt.1 h]
  exact ⟨_, List.mergeSort_perm buckets _,
    List.pairwise_mergeSort (fun _ _ _ => Std.TransCmp.isLE_trans) htotal buckets⟩

/-- **One arrangement**: the same buckets with different keys are arranged in one way only. -/
theorem eq_of_arranged {clauses : List OrderClause} (hkeys : SeparatesKeys clauses)
    {buckets buckets' : List Bucket} (hperm : buckets.Perm buckets')
    (hnodup : (buckets.map Bucket.key).Nodup) (h : Arranged clauses buckets)
    (h' : Arranged clauses buckets') : buckets = buckets' := by
  refine List.Perm.eq_of_pairwise (fun a b ha hb hab hba => ?_) h h' hperm
  refine List.inj_on_of_nodup_map hnodup ha (hperm.mem_iff.2 hb) ?_
  by_contra hne
  rcases hkeys.total a b hne with hlt | hlt
  · exact isLE_compare_iff.1 hba hlt
  · exact isLE_compare_iff.1 hab hlt

end Order

end HostFacets
