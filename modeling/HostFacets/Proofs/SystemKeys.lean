import HostFacets.OperatingSystem
import HostFacets.Proofs.Outcome

/-!
Keys of operating systems, joined and read back.

The delimiter is a run of one character, so an occurrence may begin in the pipes at the end of a
segment and be cut out too early. A part that is followed by the delimiter is read back exactly
where it neither holds the delimiter nor ends with a pipe; the last part may end with pipes.
-/

namespace HostFacets

namespace Text

/-- A run of one character that overlaps the end of a text begins there with that character. -/
lemma run_infix_append_iff (c : Char) (n : ℕ) (text : List Char) :
    List.replicate (n + 1) c <:+: text ++ List.replicate n c ↔
      List.replicate (n + 1) c <:+: text ∨ [c] <:+ text := by
  constructor
  · rintro ⟨before, after, h⟩
    rcases List.append_eq_append_iff.1 h with ⟨inner, htext, -⟩ | ⟨tail, hrun, htail⟩
    · exact .inl ⟨before, inner, htext.symm⟩
    · have hlength := congrArg List.length htail
      rw [List.length_append, List.length_replicate] at hlength
      rcases List.append_eq_append_iff.1 hrun with ⟨head, htext, hhead⟩ | ⟨gap, -, hgap⟩
      · -- the occurrence has a head in the text, since its tail is too short for all of it
        obtain ⟨hsum, hhead, -⟩ := List.append_eq_replicate_iff.1 hhead.symm
        obtain ⟨k, hk⟩ := Nat.exists_eq_add_one.2 (show 0 < head.length by omega)
        rw [hk, List.replicate_succ'] at hhead
        right
        rw [htext, hhead, ← List.append_assoc]
        exact List.suffix_append _ _
      · have := congrArg List.length hgap
        rw [List.length_append, List.length_replicate] at this
        omega
  · rintro (hoccurs | ⟨init, rfl⟩)
    · exact hoccurs.trans (List.prefix_append _ _).isInfix
    · refine ⟨init, [], ?_⟩
      rw [List.append_nil, List.append_assoc, List.replicate_succ, List.singleton_append]

end Text

namespace OperatingSystem

/-! ### One segment -/

/-- A part without the delimiter. -/
def Whole (part : String) : Prop := ¬ delimiter.toList <:+: part.toList

/-- A part in which no delimiter begins, even if the delimiter follows. -/
def Separable (part : String) : Prop := Whole part ∧ ¬ ['|'] <:+ part.toList

lemma separable_iff {part : String} :
    Separable part ↔ ¬ delimiter.toList <:+: part.toList ++ delimiter.toList.dropLast := by
  have hdelimiter : delimiter.toList = List.replicate 4 '|' := rfl
  have hdropLast : delimiter.toList.dropLast = List.replicate 3 '|' := rfl
  rw [Separable, Whole, hdropLast, hdelimiter, Text.run_infix_append_iff, not_or]

/-- A segment ends at the first delimiter or, where there is none, with the text. -/
lemma segment_eq_iff {text rest : List Char} {part : String} :
    segment text = (part.toList, rest) ↔
      Separable part ∧ text = part.toList ++ delimiter.toList ++ rest ∨
        Whole part ∧ text = part.toList ∧ rest = [] := by
  have hne : delimiter.toList ≠ [] := by decide
  rw [segment, Option.getD_eq_iff, Text.cut?_eq_some_iff hne, Text.cut?_eq_none_iff, separable_iff,
    Prod.mk.injEq]
  refine or_congr and_comm ⟨?_, ?_⟩
  · rintro ⟨hwhole, rfl, rfl⟩
    exact ⟨hwhole, rfl, rfl⟩
  · rintro ⟨hwhole, rfl, rfl⟩
    exact ⟨hwhole, rfl, rfl⟩

lemma Whole.of_segment {text rest : List Char} {part : String}
    (h : segment text = (part.toList, rest)) : Whole part := by
  rcases segment_eq_iff.1 h with ⟨hpart, -⟩ | ⟨hpart, -⟩
  · exact hpart.1
  · exact hpart

/-- The part in front of a delimiter is read back where no delimiter begins in it. -/
lemma segment_append_iff {part : String} {rest rest' : List Char} :
    segment (part.toList ++ delimiter.toList ++ rest) = (part.toList, rest') ↔
      Separable part ∧ rest' = rest := by
  rw [segment_eq_iff]
  constructor
  · rintro (⟨hpart, h⟩ | ⟨-, h, -⟩)
    · exact ⟨hpart, (List.append_cancel_left h).symm⟩
    · have := congrArg List.length h
      have hlength : delimiter.toList.length = 4 := rfl
      simp only [List.length_append, hlength] at this
      omega
  · rintro ⟨hpart, rfl⟩
    exact .inl ⟨hpart, rfl⟩

/-! ### Three segments -/

variable {raw : String} {os : OperatingSystem}

lemma ofKey?_eq_none_iff : ofKey? raw = none ↔ raw = "" := by
  simp [ofKey?]

lemma ofKey?_eq_some_iff :
    ofKey? raw = some os ↔
      raw ≠ "" ∧ ∃ afterName afterMajor afterMinor,
        segment raw.toList = (os.name.toList, afterName) ∧
        segment afterName = (os.major.toList, afterMajor) ∧
        segment afterMajor = (os.minor.toList, afterMinor) := by
  obtain ⟨name, major, minor⟩ := os
  unfold ofKey?
  split
  · next hempty => simp [String.isEmpty_iff.1 hempty]
  · next hempty =>
    have hne : raw ≠ "" := fun h => hempty (String.isEmpty_iff.2 h)
    simp only [Option.some.injEq, OperatingSystem.mk.injEq, hne, ne_eq, not_false_eq_true, true_and]
    constructor
    · rintro ⟨rfl, rfl, rfl⟩
      simp only [String.toList_ofList]
      exact ⟨_, _, _, rfl, rfl, rfl⟩
    · rintro ⟨afterName, afterMajor, afterMinor, hname, hmajor, hminor⟩
      simp only [hname, hmajor, hminor, String.ofList_toList, and_self]

/-- The parts of an operating system as one key. -/
def joined (os : OperatingSystem) : String :=
  os.name ++ delimiter ++ os.major ++ delimiter ++ os.minor

lemma ofKey?_joined_iff (os : OperatingSystem) :
    ofKey? os.joined = some os ↔ Separable os.name ∧ Separable os.major ∧ Whole os.minor := by
  have hjoined : os.joined.toList = os.name.toList ++ delimiter.toList ++
      (os.major.toList ++ delimiter.toList ++ os.minor.toList) := by
    simp [joined, String.toList_append]
  have hne : os.joined ≠ "" := by simp [joined, delimiter]
  rw [ofKey?_eq_some_iff, hjoined]
  constructor
  · rintro ⟨-, afterName, afterMajor, afterMinor, hfirst, hsecond, hthird⟩
    obtain ⟨hname, rfl⟩ := segment_append_iff.1 hfirst
    obtain ⟨hmajor, rfl⟩ := segment_append_iff.1 hsecond
    exact ⟨hname, hmajor, .of_segment hthird⟩
  · rintro ⟨hname, hmajor, hminor⟩
    exact ⟨hne, _, _, [], segment_append_iff.2 ⟨hname, rfl⟩, segment_append_iff.2 ⟨hmajor, rfl⟩,
      segment_eq_iff.2 (.inr ⟨hminor, rfl, rfl⟩)⟩

/-! ### The layout of a key -/

/-- The ways in which a key may hold the parts of an operating system, each longer than the ones
before it. -/
inductive Layout where
  | name | nameMajor | full | overlong

namespace Layout

/-- What a key of this layout looks like. Parts that it does not reach are empty. -/
def Fits (raw : String) (os : OperatingSystem) : Layout → Prop
  | name => raw = os.name ∧ os.major = "" ∧ os.minor = ""
  | nameMajor => raw = os.name ++ delimiter ++ os.major ∧ os.minor = ""
  | full => raw = os.joined
  | overlong => ∃ rest, raw = os.joined ++ delimiter ++ rest

variable {layout layout' : Layout}

lemma Fits.length_raw (h : layout.Fits raw os) :
    match layout with
    | name => raw.length = os.name.length ∧ os.major.length = 0 ∧ os.minor.length = 0
    | nameMajor => raw.length = os.name.length + 4 + os.major.length ∧ os.minor.length = 0
    | full => raw.length = os.name.length + 4 + os.major.length + 4 + os.minor.length
    | overlong => os.name.length + 4 + os.major.length + 4 + os.minor.length + 4 ≤ raw.length := by
  have hdelimiter : delimiter.length = 4 := rfl
  cases layout with
  | name =>
    obtain ⟨rfl, hmajor, hminor⟩ := h
    simp [hmajor, hminor]
  | nameMajor =>
    obtain ⟨rfl, hminor⟩ := h
    simp [hminor, hdelimiter]
  | full =>
    obtain rfl : raw = os.joined := h
    simp [joined, hdelimiter]
  | overlong =>
    obtain ⟨rest, rfl⟩ := h
    simp [joined, hdelimiter]

/-- A key has one layout, since each of them makes it longer than the one before. -/
lemma Fits.unique (h : layout.Fits raw os) (h' : layout'.Fits raw os) : layout = layout' := by
  have hlength := h.length_raw
  have hlength' := h'.length_raw
  cases layout <;> cases layout' <;> first | rfl | (simp only at hlength hlength'; omega)

end Layout

lemma exists_fits (h : ofKey? raw = some os) : ∃ layout : Layout, layout.Fits raw os := by
  obtain ⟨-, afterName, afterMajor, afterMinor, hname, hmajor, hminor⟩ := ofKey?_eq_some_iff.1 h
  have hempty : ∀ {part : String} {rest : List Char}, segment [] = (part.toList, rest) →
      part = "" ∧ rest = [] := by
    intro part rest h
    have hsegment : segment [] = ([], []) := rfl
    rw [hsegment, Prod.mk.injEq] at h
    exact ⟨String.toList_eq_nil_iff.1 h.1.symm, h.2.symm⟩
  rcases segment_eq_iff.1 hname with ⟨-, hraw⟩ | ⟨-, hraw, rfl⟩
  · rcases segment_eq_iff.1 hmajor with ⟨-, rfl⟩ | ⟨-, rfl, rfl⟩
    · rcases segment_eq_iff.1 hminor with ⟨-, rfl⟩ | ⟨-, rfl, rfl⟩
      · refine ⟨.overlong, String.ofList afterMinor, ?_⟩
        rw [← String.toList_inj, hraw]
        simp [joined, String.toList_append]
      · refine ⟨.full, ?_⟩
        rw [Layout.Fits, ← String.toList_inj, hraw]
        simp [joined, String.toList_append]
    · refine ⟨.nameMajor, ?_, (hempty hminor).1⟩
      rw [← String.toList_inj, hraw]
      simp [String.toList_append]
  · obtain ⟨hmajorEmpty, rfl⟩ := hempty hmajor
    exact ⟨.name, String.toList_inj.1 hraw, hmajorEmpty, (hempty hminor).1⟩

/-- **Reading a key finds its segments**: joined parts are read back exactly if neither name nor
major version holds the delimiter or ends with a pipe, and the minor version does not hold it. Only
the empty key stands for no operating system. What is read from any other key holds no delimiter,
and the key is made up of it in exactly one of four ways. -/
theorem ofKey?_reads_segments :
    (∀ name major minor : String,
      ofKey? (name ++ delimiter ++ major ++ delimiter ++ minor) = some ⟨name, major, minor⟩ ↔
        (¬ delimiter.toList <:+: name.toList ∧ ¬ ['|'] <:+ name.toList) ∧
        (¬ delimiter.toList <:+: major.toList ∧ ¬ ['|'] <:+ major.toList) ∧
        ¬ delimiter.toList <:+: minor.toList) ∧
    (∀ raw, ofKey? raw = none ↔ raw = "") ∧
    ∀ raw os, ofKey? raw = some os →
      ¬ delimiter.toList <:+: os.name.toList ∧ ¬ delimiter.toList <:+: os.major.toList ∧
      ¬ delimiter.toList <:+: os.minor.toList ∧ ∃! layout : Layout, layout.Fits raw os := by
  refine ⟨fun name major minor => ofKey?_joined_iff ⟨name, major, minor⟩,
    fun raw => ofKey?_eq_none_iff, ?_⟩
  intro raw os h
  obtain ⟨-, afterName, afterMajor, afterMinor, hname, hmajor, hminor⟩ := ofKey?_eq_some_iff.1 h
  obtain ⟨layout, hlayout⟩ := exists_fits h
  exact ⟨Whole.of_segment hname, Whole.of_segment hmajor, Whole.of_segment hminor, layout, hlayout,
    fun layout' hlayout' => hlayout'.unique hlayout⟩

/-- Of five pipes the first four are the delimiter, and a fourth segment is left out. -/
theorem ofKey?_reads_segments_pipes :
    ofKey? "RHEL|||||8||||4||||x" = some ⟨"RHEL", "|8", "4"⟩ ∧
      ¬ delimiter.toList <:+: "|8".toList ∧
      ∃! layout : Layout, layout.Fits "RHEL|||||8||||4||||x" ⟨"RHEL", "|8", "4"⟩ := by
  have hread : ofKey? "RHEL|||||8||||4||||x" = some ⟨"RHEL", "|8", "4"⟩ := rfl
  obtain ⟨-, hmajor, -, hlayout⟩ := ofKey?_reads_segments.2.2 _ _ hread
  exact ⟨hread, hmajor, hlayout⟩

end OperatingSystem

end HostFacets
