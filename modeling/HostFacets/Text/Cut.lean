/-!
Cutting a text at the first occurrence of a delimiter, or at every mark. The parts before and after
a delimiter make up the text with it. A text cannot be cut exactly if the delimiter does not occur
in it, and no occurrence begins before a cut.
-/

namespace HostFacets.Text

/-- The parts before and after the first occurrence of `delimiter`. -/
def cut? (delimiter : List Char) : List Char → Option (List Char × List Char)
  | [] => if delimiter.isEmpty then some ([], []) else none
  | c :: rest =>
    if delimiter.isPrefixOf (c :: rest) then some ([], (c :: rest).drop delimiter.length)
    else (cut? delimiter rest).map fun parts => (c :: parts.1, parts.2)

/-! ### Cutting loses nothing and finds every occurrence -/

theorem eq_append_of_cut? {delimiter text before after : List Char}
    (h : cut? delimiter text = some (before, after)) : text = before ++ delimiter ++ after := by
  induction text generalizing before with
  | nil =>
    simp only [cut?] at h
    split at h
    · simp_all
    · cases h
  | cons c rest ih =>
    simp only [cut?] at h
    split at h
    · next hp =>
      cases h
      obtain ⟨t, ht⟩ := List.isPrefixOf_iff_prefix.1 hp
      simp [← ht]
    · obtain ⟨⟨a, b⟩, hab, heq⟩ := Option.map_eq_some_iff.1 h
      cases heq
      simp [ih hab]

theorem cut?_eq_none_iff {delimiter text : List Char} :
    cut? delimiter text = none ↔ ¬ delimiter <:+: text := by
  induction text with
  | nil => cases delimiter <;> simp [cut?]
  | cons c rest ih =>
    simp only [cut?]
    split
    · next hp => simp [List.infix_cons_iff, List.isPrefixOf_iff_prefix.1 hp]
    · next hp =>
      simp only [Option.map_eq_none_iff, ih, List.infix_cons_iff, not_or]
      exact ⟨fun h => ⟨fun k => hp (List.isPrefixOf_iff_prefix.2 k), h⟩, fun h => h.2⟩

/-! ### The cut is at the first occurrence -/

/-- An occurrence that begins before another one ends before its last character. -/
theorem prefix_append_iff {delimiter before after : List Char} (hne : before ≠ []) :
    delimiter <+: before ++ delimiter ++ after ↔ delimiter <+: before ++ delimiter.dropLast := by
  have hbegins : before ++ delimiter.dropLast <+: before ++ delimiter ++ after := by
    rw [List.append_assoc, List.prefix_append_right_inj]
    exact (List.dropLast_prefix delimiter).trans (List.prefix_append delimiter after)
  refine ⟨fun h => List.prefix_of_prefix_length_le h hbegins ?_, fun h => h.trans hbegins⟩
  have := List.length_pos_iff.2 hne
  rw [List.length_append, List.length_dropLast]
  omega

theorem cut?_append {delimiter before after : List Char} (hne : delimiter ≠ [])
    (hfirst : ¬ delimiter <:+: before ++ delimiter.dropLast) :
    cut? delimiter (before ++ delimiter ++ after) = some (before, after) := by
  induction before with
  | nil =>
    obtain ⟨c, rest, rfl⟩ := List.exists_cons_of_ne_nil hne
    have hstart : (c :: rest).isPrefixOf (c :: (rest ++ after)) :=
      List.isPrefixOf_iff_prefix.2 (List.prefix_append _ _)
    rw [List.nil_append, List.cons_append, cut?, if_pos hstart]
    simp
  | cons c rest ih =>
    rw [List.cons_append, List.infix_cons_iff, not_or] at hfirst
    have hstart : ¬ delimiter.isPrefixOf (c :: (rest ++ delimiter ++ after)) := by
      rw [List.isPrefixOf_iff_prefix]
      exact fun h => hfirst.1 ((prefix_append_iff (List.cons_ne_nil c rest)).1 h)
    rw [List.cons_append, List.cons_append, cut?, if_neg hstart, ih hfirst.2]
    rfl

theorem not_infix_of_cut? {delimiter text before after : List Char} (hne : delimiter ≠ [])
    (h : cut? delimiter text = some (before, after)) :
    ¬ delimiter <:+: before ++ delimiter.dropLast := by
  induction text generalizing before with
  | nil => simp [cut?, hne] at h
  | cons c rest ih =>
    simp only [cut?] at h
    split at h
    · cases h
      intro hoccurs
      have hlength := hoccurs.length_le
      have := List.length_pos_iff.2 hne
      rw [List.nil_append, List.length_dropLast] at hlength
      omega
    · next hstart =>
      obtain ⟨⟨rest', after'⟩, hcut, heq⟩ := Option.map_eq_some_iff.1 h
      cases heq
      rw [eq_append_of_cut? hcut, List.isPrefixOf_iff_prefix] at hstart
      rw [List.cons_append, List.infix_cons_iff]
      rintro (hbegins | hoccurs)
      · exact hstart ((prefix_append_iff (List.cons_ne_nil c rest')).2 hbegins)
      · exact ih hcut hoccurs

/-- No occurrence begins before the cut, also none that overlaps the one that is cut out. -/
theorem cut?_eq_some_iff {delimiter text before after : List Char} (hne : delimiter ≠ []) :
    cut? delimiter text = some (before, after) ↔
      text = before ++ delimiter ++ after ∧ ¬ delimiter <:+: before ++ delimiter.dropLast := by
  constructor
  · intro h
    exact ⟨eq_append_of_cut? h, not_infix_of_cut? hne h⟩
  · rintro ⟨rfl, hfirst⟩
    exact cut?_append hne hfirst

/-! ### Cutting at every mark -/

/-- The parts between the characters that are marks. -/
def split (isMark : Char → Bool) : List Char → List (List Char)
  | [] => [[]]
  | c :: rest =>
    if isMark c then [] :: split isMark rest
    else match split isMark rest with
      | [] => [[c]]
      | part :: more => (c :: part) :: more

/-! ### Empty texts -/

/-- A text as an option, where an empty text counts as none. -/
def nonEmpty? (s : String) : Option String := if s.isEmpty then none else some s

end HostFacets.Text
