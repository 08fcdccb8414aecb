import HostFacets.Proofs.Numerals
import HostFacets.Uuid

/-!
The spellings of a UUID.

`Spells` has one rule for each form in which digits may be written, and a text is read as a UUID
exactly if it spells its digits by one of them. Hyphenating and joining groups of digits are inverse
to each other, so the canonical spelling, hyphenated and in lower case, is read back as the UUID.
-/

namespace HostFacets.Uuid

/-! ### Groups of digits -/

/-- Hyphens between groups that have the given lengths and make up the digits. -/
lemma exists_parts_splitGroups {lengths : List ℕ} (hne : lengths ≠ []) {cs : List Char}
    (hlength : cs.length = lengths.sum) :
    ∃ parts : List (List Char), parts.map List.length = lengths ∧ parts.flatten = cs ∧
      splitGroups lengths cs = ['-'].intercalate parts := by
  induction lengths generalizing cs with
  | nil => exact absurd rfl hne
  | cons n rest ih =>
    cases rest with
    | nil => exact ⟨[cs], by simpa using hlength, by simp, by simp [splitGroups]⟩
    | cons m more =>
      rw [List.sum_cons] at hlength
      have hdrop : (cs.drop n).length = (m :: more).sum := by simp [hlength]
      obtain ⟨parts, hlengths, hflatten, hsplit⟩ := ih (by simp) hdrop
      refine ⟨cs.take n :: parts, ?_, ?_, ?_⟩
      · rw [List.map_cons, hlengths, List.length_take_of_le (by omega)]
      · rw [List.flatten_cons, hflatten, List.take_append_drop]
      · cases parts with
        | nil => cases hlengths
        | cons part others => simp [splitGroups, hsplit, List.intercalate_cons_cons]

/-- A hyphen stands between any two groups that follow each other. -/
lemma length_intercalate (first : List Char) (more : List (List Char)) :
    (['-'].intercalate (first :: more)).length =
      (first :: more).flatten.length + more.length := by
  induction more generalizing first with
  | nil => simp
  | cons next more ih =>
    simp only [List.intercalate_cons_cons, List.length_append, ih, List.flatten_cons,
      List.length_cons, List.length_nil]
    omega

/-- Joining removes the hyphens between groups of these lengths. -/
lemma joinGroups?_intercalate {parts : List (List Char)} (hne : parts ≠ []) :
    joinGroups? (parts.map List.length) (['-'].intercalate parts) = some parts.flatten := by
  induction parts with
  | nil => exact absurd rfl hne
  | cons part rest ih =>
    cases rest with
    | nil => simp [joinGroups?]
    | cons next more =>
      have hafter : (['-'].intercalate (part :: next :: more)).drop part.length =
          '-' :: ['-'].intercalate (next :: more) := by
        simp [List.intercalate_cons_cons]
      have hbefore : (['-'].intercalate (part :: next :: more)).take part.length = part := by
        simp [List.intercalate_cons_cons]
      have hrest : joinGroups? (next.length :: more.map List.length)
          (['-'].intercalate (next :: more)) = some (next :: more).flatten := ih (by simp)
      rw [List.map_cons, List.map_cons, joinGroups?, hafter]
      · simp only [hrest, hbefore, Option.map_some, List.flatten_cons]
      · simp

/-- The parts that are joined have hyphens between them. -/
lemma exists_parts_of_joinGroups? {lengths : List ℕ} (hne : lengths ≠ []) {cs digits : List Char}
    (h : joinGroups? lengths cs = some digits) :
    ∃ parts : List (List Char), parts.map List.length = lengths ∧ parts.flatten = digits ∧
      cs = ['-'].intercalate parts := by
  induction lengths generalizing cs digits with
  | nil => exact absurd rfl hne
  | cons n rest ih =>
    cases rest with
    | nil =>
      obtain ⟨hlength, rfl⟩ : cs.length = n ∧ cs = digits := by simpa [joinGroups?] using h
      exact ⟨[cs], by simpa using hlength, by simp, by simp⟩
    | cons m more =>
      rw [joinGroups?] at h
      · split at h
        · next tail hdrop =>
          obtain ⟨joined, hjoined, rfl⟩ := Option.map_eq_some_iff.1 h
          obtain ⟨parts, hlengths, rfl, rfl⟩ := ih (by simp) hjoined
          have hlong : n < cs.length := by
            have := congrArg List.length hdrop
            rw [List.length_drop, List.length_cons] at this
            omega
          refine ⟨cs.take n :: parts, ?_, rfl, ?_⟩
          · rw [List.map_cons, hlengths, List.length_take_of_le (by omega)]
          · cases parts with
            | nil => cases hlengths
            | cons next others =>
              rw [List.intercalate_cons_cons, List.append_assoc, List.singleton_append, ← hdrop,
                List.take_append_drop]
        · cases h
      · simp

/-! ### Spellings -/

/-- Hexadecimal digits, each in either case. -/
abbrev SpellDigits (cs : List Char) (digits : List (Fin 16)) : Prop :=
  List.Forall₂ (fun c d => c.toLower = Text.hexChar d) cs digits

/-- Digits with hyphens between groups of 8, 4, 4, 4 and 12 of them. -/
def SpellGroups (cs : List Char) (digits : List (Fin 16)) : Prop :=
  ∃ parts : List (List Char), parts.map List.length = [8, 4, 4, 4, 12] ∧
    SpellDigits parts.flatten digits ∧ cs = ['-'].intercalate parts

/-- The spellings of a UUID by its digits: plain, in groups, in groups inside of braces, and in
groups after the name of the URN. -/
inductive Spells (digits : List (Fin 16)) : List Char → Prop where
  | plain {cs : List Char} (hlength : cs.length = 32) (h : SpellDigits cs digits) : Spells digits cs
  | hyphenated {cs : List Char} (h : SpellGroups cs digits) : Spells digits cs
  | braced {cs : List Char} (h : SpellGroups cs digits) : Spells digits ('{' :: (cs ++ ['}']))
  | urn {name cs : List Char} (hname : name.map Char.toLower = "urn:uuid:".toList)
    (h : SpellGroups cs digits) : Spells digits (name ++ cs)

lemma SpellGroups.length_eq {cs : List Char} {digits : List (Fin 16)} (h : SpellGroups cs digits) :
    cs.length = 36 ∧ digits.length = 32 := by
  obtain ⟨parts, hlengths, hdigits, rfl⟩ := h
  have hflat : parts.flatten.length = 32 := by rw [List.length_flatten, hlengths]; rfl
  have hcount : parts.length = 5 := by simpa using congrArg List.length hlengths
  cases parts with
  | nil => cases hcount
  | cons first more =>
    rw [length_intercalate, hflat]
    rw [List.length_cons] at hcount
    exact ⟨by omega, hdigits.length_eq.symm.trans hflat⟩

/-- Groups begin with a digit. -/
lemma SpellGroups.exists_cons {cs : List Char} {digits : List (Fin 16)}
    (h : SpellGroups cs digits) : ∃ c rest d, cs = c :: rest ∧ c.toLower = Text.hexChar d := by
  obtain ⟨parts, hlengths, hdigits, rfl⟩ := h
  obtain ⟨first, more, rfl, hfirst, hmore⟩ := List.map_eq_cons_iff.1 hlengths
  obtain ⟨c, rest, rfl⟩ := List.exists_cons_of_length_eq_add_one hfirst
  obtain ⟨d, _, hd, -, -⟩ := List.forall₂_cons_left_iff.1 hdigits
  cases more with
  | nil => cases hmore
  | cons next others => exact ⟨c, _, d, by rw [List.intercalate_cons_cons]; rfl, hd⟩

/-! ### What is read -/

lemma mapM_hexDigit?_eq_some_iff {cs : List Char} {digits : List (Fin 16)} :
    cs.mapM Text.hexDigit? = some digits ↔ SpellDigits cs digits := by
  induction cs generalizing digits with
  | nil => simp [eq_comm]
  | cons c rest ih =>
    simp only [List.mapM_cons, Option.pure_def, Option.bind_eq_bind, Option.bind_eq_some_iff,
      Text.hexDigit?_eq_some_iff, ih, List.forall₂_cons_left_iff, Option.some.injEq]
    constructor
    · rintro ⟨d, hd, ds, hds, rfl⟩
      exact ⟨d, ds, hd, hds, rfl⟩
    · rintro ⟨d, ds, hd, hds, rfl⟩
      exact ⟨d, hd, ds, hds, rfl⟩

lemma ofDigits?_eq_some_iff {cs : List Char} {u : Uuid} :
    ofDigits? cs = some u ↔ SpellDigits cs u.digits := by
  rw [← mapM_hexDigit?_eq_some_iff, ofDigits?]
  constructor
  · intro h
    obtain ⟨digits, hread, h⟩ := Option.bind_eq_some_iff.1 h
    split at h
    · cases h
      exact hread
    · cases h
  · intro hread
    rw [hread]
    exact dif_pos u.length_digits

lemma joinGroups?_bind_eq_some_iff {cs : List Char} {u : Uuid} :
    (joinGroups? groups cs).bind ofDigits? = some u ↔ SpellGroups cs u.digits := by
  rw [Option.bind_eq_some_iff]
  constructor
  · rintro ⟨joined, hjoined, hread⟩
    obtain ⟨parts, hlengths, rfl, rfl⟩ := exists_parts_of_joinGroups? (by decide) hjoined
    exact ⟨parts, hlengths, ofDigits?_eq_some_iff.1 hread, rfl⟩
  · rintro ⟨parts, hlengths, hdigits, rfl⟩
    have hne : parts ≠ [] := by
      rintro rfl
      cases hlengths
    have hjoined := joinGroups?_intercalate hne
    rw [hlengths] at hjoined
    exact ⟨_, hjoined, ofDigits?_eq_some_iff.2 hdigits⟩

section

variable {cs : List Char} {digits : List (Fin 16)}

lemma unwrap_of_spellGroups (h : SpellGroups cs digits) : unwrap cs = cs := by
  obtain ⟨c, rest, d, rfl, hd⟩ := h.exists_cons
  have hdigits : ∀ d, Text.hexChar d ≠ '{' ∧ Text.hexChar d ≠ 'u' := by decide
  have hbrace : c ≠ '{' := by
    rintro rfl
    exact (hdigits d).1 hd.symm
  have hname : c.toLower ≠ 'u' := fun hu => (hdigits d).2 (hd.symm.trans hu)
  simp [unwrap, urn, hbrace, hname]

lemma unwrap_braced : unwrap ('{' :: (cs ++ ['}'])) = cs := by
  have hlast : ('{' :: (cs ++ ['}'])).getLast? = some '}' := by
    rw [← List.cons_append]
    exact List.getLast?_concat
  rw [unwrap, if_pos ⟨rfl, hlast⟩, List.tail_cons, List.dropLast_concat]

lemma unwrap_urn {name : List Char} (hname : name.map Char.toLower = urn) :
    unwrap (name ++ cs) = cs := by
  have hlength : urn.length = name.length := by rw [← hname, List.length_map]
  have hbrace : ¬ ((name ++ cs).head? = some '{' ∧ (name ++ cs).getLast? = some '}') := by
    cases name with
    | nil => cases hname
    | cons c rest =>
      rintro ⟨hhead, -⟩
      obtain rfl : c = '{' := by simpa using hhead
      exact absurd (List.cons.inj hname).1 (by decide)
  rw [unwrap, if_neg hbrace, hlength, List.take_left, if_pos hname, List.drop_left]

lemma spells_of_unwrap (h : SpellGroups (unwrap cs) digits) : Spells digits cs := by
  unfold unwrap at h
  split at h
  · next hbraces =>
    obtain ⟨rest, rfl⟩ := List.head?_eq_some_iff.1 hbraces.1
    obtain ⟨front, hfront⟩ := List.getLast?_eq_some_iff.1 hbraces.2
    cases front with
    | nil => cases hfront
    | cons first inner =>
      rw [List.cons_append] at hfront
      obtain ⟨-, rfl⟩ := List.cons.inj hfront
      rw [List.tail_cons, List.dropLast_concat] at h
      exact .braced h
  · split at h
    · next hname =>
      rw [← List.take_append_drop urn.length cs]
      exact .urn hname h
    · exact .hyphenated h

end

/-- **Reading**: a text is read as a UUID exactly if it spells its digits. -/
theorem ofString?_eq_some_iff {s : String} {u : Uuid} :
    ofString? s = some u ↔ Spells u.digits s.toList := by
  rw [ofString?]
  constructor
  · intro h
    split at h
    · next hlength => exact .plain hlength (ofDigits?_eq_some_iff.1 h)
    · exact spells_of_unwrap (joinGroups?_bind_eq_some_iff.1 h)
  · intro h
    generalize s.toList = cs at h
    cases h with
    | plain hlength h =>
      rw [if_pos hlength]
      exact ofDigits?_eq_some_iff.2 h
    | hyphenated h =>
      have hlength : cs.length ≠ 32 := by have := h.length_eq; omega
      rw [if_neg hlength, unwrap_of_spellGroups h]
      exact joinGroups?_bind_eq_some_iff.2 h
    | @braced cs h =>
      have hlength : ('{' :: (cs ++ ['}'])).length ≠ 32 := by
        have := h.length_eq
        simp
        omega
      rw [if_neg hlength, unwrap_braced]
      exact joinGroups?_bind_eq_some_iff.2 h
    | @urn name cs hname h =>
      have hlength : (name ++ cs).length ≠ 32 := by
        have := h.length_eq
        rw [List.length_append]
        omega
      rw [if_neg hlength, unwrap_urn hname]
      exact joinGroups?_bind_eq_some_iff.2 h

/-! ### The canonical spelling -/

/-- Five groups of digits in lower case, with hyphens between them. -/
def IsHyphenated (s : String) : Prop :=
  ∃ parts : List (List Char), parts.map List.length = [8, 4, 4, 4, 12] ∧
    (∀ part ∈ parts, ∀ c ∈ part, c ∈ "0123456789abcdef".toList) ∧
    s.toList = ['-'].intercalate parts

lemma hexChar_mem (d : Fin 16) : Text.hexChar d ∈ "0123456789abcdef".toList := by
  decide +revert

lemma toLower_hexChar (d : Fin 16) : (Text.hexChar d).toLower = Text.hexChar d := by
  decide +revert

lemma exists_parts_hyphenated (u : Uuid) :
    ∃ parts : List (List Char), parts.map List.length = groups ∧
      parts.flatten = u.digits.map Text.hexChar ∧
      u.hyphenated.toList = ['-'].intercalate parts := by
  have hlength : (u.digits.map Text.hexChar).length = groups.sum := by
    rw [List.length_map, u.length_digits]
    rfl
  rw [hyphenated, String.toList_ofList]
  exact exists_parts_splitGroups (by decide) hlength

lemma isHyphenated_hyphenated (u : Uuid) : IsHyphenated u.hyphenated := by
  obtain ⟨parts, hlengths, hflatten, hspelled⟩ := u.exists_parts_hyphenated
  refine ⟨parts, hlengths, fun part hpart c hc => ?_, hspelled⟩
  have hdigit : c ∈ u.digits.map Text.hexChar := hflatten ▸ List.mem_flatten_of_mem hpart hc
  obtain ⟨d, -, rfl⟩ := List.mem_map.1 hdigit
  exact hexChar_mem d

/-- **Canonical spelling**: it is read back as the UUID that it spells. -/
theorem ofString?_hyphenated (u : Uuid) : ofString? u.hyphenated = some u := by
  obtain ⟨parts, hlengths, hflatten, hspelled⟩ := u.exists_parts_hyphenated
  have hdigits : SpellDigits parts.flatten u.digits := by
    rw [hflatten, SpellDigits, List.forall₂_map_left_iff, List.forall₂_same]
    exact fun d _ => toLower_hexChar d
  exact ofString?_eq_some_iff.2 (.hyphenated ⟨parts, hlengths, hdigits, hspelled⟩)

end HostFacets.Uuid
