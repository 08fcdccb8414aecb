import HostFacets.Proofs.PageSequence

/-!
Windows in machine words.

Cutting a page with 64-bit words gives the page that the window has by exact arithmetic: a sum that
is too large for a word reaches past the end of every list, and the range that is cut out always
lies within the list. Windows of accepted arguments fit into words, and pages of one size make up a
list.
-/

namespace HostFacets.Window

/-! ### One page -/

/-- Arguments within bounds are accepted, and only those. -/
lemma exists_ofArguments_iff {limit offset : Option Int} :
    (∃ window, ofArguments limit offset = .ok window) ↔
      (∀ n ∈ limit, 0 ≤ n ∧ n ≤ 100) ∧ ∀ n ∈ offset, 0 ≤ n := by
  simp only [ofArguments_ok_iff]
  constructor
  · rintro ⟨_, hlimit, hoffset, -, -⟩
    exact ⟨hlimit, hoffset⟩
  · rintro ⟨hlimit, hoffset⟩
    exact ⟨normalize limit offset, hlimit, hoffset,
      natOr_eq_getD (fun n hn => (hlimit n hn).1) _, natOr_eq_getD hoffset _⟩

lemma toNat_saturatingAdd (a b : UInt64) :
    (saturatingAdd a b).toNat = min (a.toNat + b.toNat) (UInt64.size - 1) := by
  unfold saturatingAdd UInt64.ofNatClamp
  split
  · next h =>
    rw [UInt64.toNat_ofNatLT]
    omega
  · next h =>
    rw [UInt64.toNat_ofNatLT]
    omega

/-- A signed word that is not negative fits into a word, and so do the defaults. -/
lemma lt_size_of_getD {given : Option Int64} {n : ℕ} {default : Int}
    (hdefault : default < UInt64.size) (h : (n : Int) = (given.map Int64.toInt).getD default) :
    n < UInt64.size := by
  cases given with
  | none =>
    rw [Option.map_none, Option.getD_none] at h
    omega
  | some m =>
    have hmax := m.toInt_lt
    have hsize : UInt64.size = 2 ^ 64 := rfl
    rw [Option.map_some, Option.getD_some] at h
    omega

section

variable {α : Type u} {items : List α} (hitems : items.length < UInt64.size)

include hitems

lemma slice?_eq_cut (limit offset : UInt64) :
    slice? limit offset items = some ((⟨limit.toNat, offset.toNat⟩ : Window).cut items) := by
  have hlength : (UInt64.ofNat items.length).toNat = items.length :=
    UInt64.toNat_ofNat_of_lt hitems
  simp only [slice?]
  split
  · next hpast =>
    rw [UInt64.le_iff_toNat_le, hlength] at hpast
    rw [cut, List.drop_eq_nil_of_le hpast, List.take_nil]
  · next hwithin =>
    rw [UInt64.le_iff_toNat_le, hlength, not_le] at hwithin
    -- where the sum saturates, the length is what bounds the page
    have hstop : (min (saturatingAdd offset limit) (.ofNat items.length)).toNat =
        min (offset.toNat + limit.toNat) items.length := by
      rw [UInt64.toNat_min, toNat_saturatingAdd, hlength]
      omega
    have hrange : offset ≤ min (saturatingAdd offset limit) (.ofNat items.length) ∧
        (min (saturatingAdd offset limit) (.ofNat items.length)).toNat ≤ items.length := by
      rw [UInt64.le_iff_toNat_le, hstop]
      omega
    have hclamped : items.take (min (offset.toNat + limit.toNat) items.length) =
        items.take (offset.toNat + limit.toNat) := by
      rw [List.take_eq_take_iff, min_assoc, min_self]
    rw [range?, if_pos hrange, hstop, hclamped, List.drop_take, Nat.add_sub_cancel_left, cut]

/-- The numbers of an accepted window are words. -/
lemma slice?_of_ofArguments {limit offset : Option Int64} {window : Window}
    (h : ofArguments (limit.map Int64.toInt) (offset.map Int64.toInt) = .ok window) :
    slice? (.ofNat window.limit) (.ofNat window.offset) items = some (window.cut items) := by
  obtain ⟨-, -, hl, ho⟩ := ofArguments_ok_iff.1 h
  have hlimit : (UInt64.ofNat window.limit).toNat = window.limit :=
    UInt64.toNat_ofNat_of_lt (lt_size_of_getD (by decide) hl)
  have hoffset : (UInt64.ofNat window.offset).toNat = window.offset :=
    UInt64.toNat_ofNat_of_lt (lt_size_of_getD (by decide) ho)
  rw [slice?_eq_cut hitems, hlimit, hoffset]

end

/-! ### All pages of one size -/

lemma exists_count {limit : ℕ} (h : 0 < limit) (length : ℕ) :
    ∃ count, ∀ k, k < count ↔ k * limit < length := by
  refine ⟨length ⌈/⌉ limit, fun k => ?_⟩
  rw [← not_le, ceilDiv_le_iff_le_mul h, not_le, Nat.mul_comm]

/-- **Pages in words**: for every list whose length is a word and all words for limit and offset,
the items at the positions of the window are cut out, and none past the end. Arguments are accepted
exactly if they are within bounds, and then count as given. The pages of one size that begin within
a list make it up. -/
theorem paging_in_words {α : Type u} (items : List α) (hitems : items.length < UInt64.size) :
    (∀ limit offset : UInt64,
      slice? limit offset items = some ((⟨limit.toNat, offset.toNat⟩ : Window).select items) ∧
      (items.length ≤ offset.toNat → slice? limit offset items = some [])) ∧
    (∀ limit offset : Option Int64,
      ((∃ window, ofArguments (limit.map Int64.toInt) (offset.map Int64.toInt) = .ok window) ↔
        (∀ n ∈ limit, 0 ≤ n.toInt ∧ n.toInt ≤ 100) ∧ ∀ n ∈ offset, 0 ≤ n.toInt) ∧
      ∀ window, ofArguments (limit.map Int64.toInt) (offset.map Int64.toInt) = .ok window →
        (window.limit : Int) = (limit.map Int64.toInt).getD 10 ∧
        (window.offset : Int) = (offset.map Int64.toInt).getD 0 ∧
        slice? (.ofNat window.limit) (.ofNat window.offset) items = some (window.cut items)) ∧
    ∀ limit : UInt64, limit ≠ 0 → ∃ count pages,
      (∀ k, k < count ↔ k * limit.toNat < items.length) ∧
      List.Forall₂ (fun k page => slice? limit (.ofNat (k * limit.toNat)) items = some page)
        (List.range count) pages ∧
      pages.flatten = items := by
  refine ⟨fun limit offset => ⟨?positions, ?past⟩,
    fun limit offset => ⟨?accepted, fun window h => ?cut⟩, fun limit hlimit => ?pages⟩
  case positions => rw [slice?_eq_cut hitems, cut_eq_select]
  case past =>
    intro hpast
    rw [slice?_eq_cut hitems, cut, List.drop_eq_nil_of_le hpast, List.take_nil]
  case accepted =>
    rw [exists_ofArguments_iff]
    simp only [Option.mem_map, forall_exists_index, and_imp, forall_apply_eq_imp_iff₂]
  case cut =>
    obtain ⟨-, -, hl, ho⟩ := ofArguments_ok_iff.1 h
    exact ⟨hl, ho, slice?_of_ofArguments hitems h⟩
  case pages =>
    have hpositive : 0 < limit.toNat :=
      Nat.pos_of_ne_zero fun h => hlimit (UInt64.toNat_inj.1 h)
    obtain ⟨count, hcount⟩ := exists_count hpositive items.length
    refine ⟨count, (List.range count).map fun k =>
      (⟨limit.toNat, k * limit.toNat⟩ : Window).cut items, hcount, ?_, ?_⟩
    · rw [List.forall₂_map_right_iff, List.forall₂_same]
      intro k hk
      have hoffset : (UInt64.ofNat (k * limit.toNat)).toNat = k * limit.toNat :=
        UInt64.toNat_ofNat_of_lt (((hcount k).1 (List.mem_range.1 hk)).trans hitems)
      rw [slice?_eq_cut hitems, hoffset]
    · have hcover : items.length ≤ count * limit.toNat :=
        not_lt.1 fun h => lt_irrefl count ((hcount count).2 h)
      rw [← List.flatMap_def, flatMap_cut, List.take_of_length_le hcover]

/-- A limit that takes the sum past the largest word, and the largest offset. -/
theorem paging_in_words_saturated :
    [4, 5, 6].length < UInt64.size ∧
      saturatingAdd 1 0xFFFFFFFFFFFFFFFF = 0xFFFFFFFFFFFFFFFF ∧
      slice? 0xFFFFFFFFFFFFFFFF 1 [4, 5, 6] = some [5, 6] ∧
      (∃ window, ofArguments (some 100) (some 0x7FFFFFFFFFFFFFFF) = .ok window) ∧
      slice? 100 0x7FFFFFFFFFFFFFFF [4, 5, 6] = some [] := by
  have hitems : [4, 5, 6].length < UInt64.size := by decide
  obtain ⟨hpositions, hwindows, -⟩ := paging_in_words [4, 5, 6] hitems
  have hpage := (hpositions 0xFFFFFFFFFFFFFFFF 1).1
  rw [← cut_eq_select] at hpage
  have hwindow := (hwindows (some 100) (some Int64.maxValue)).1.2
    ⟨by rintro _ ⟨⟩; decide, by rintro _ ⟨⟩; decide⟩
  have hpast : 3 ≤ (0x7FFFFFFFFFFFFFFF : UInt64).toNat := by decide
  exact ⟨hitems, rfl, hpage, hwindow, (hpositions 100 0x7FFFFFFFFFFFFFFF).2 hpast⟩

end HostFacets.Window
