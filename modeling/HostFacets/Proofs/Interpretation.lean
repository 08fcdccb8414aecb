import HostFacets.Filter.Operator
import Mathlib

/-!
What constraints say of a document.

An interpretation fixes the meaning of the atomic conditions and which documents are nested in
another. A list of constraints is read as their conjunction. The clauses of a `bool` are read
together: all of `filter`, one of `should` unless that clause is empty, none of `mustNot`.
-/

namespace HostFacets

/-- The meaning of the atomic conditions on documents of type `δ`. -/
structure Interpretation (δ : Type u) where
  term : String → Json → δ → Prop
  wildcard : String → String → Bool → δ → Prop
  bound : String → Filter.Side → Json → δ → Prop
  present : String → δ → Prop
  /-- `nested path d e` says that `e` is one of the documents nested in `d` at `path`. -/
  nested : String → δ → δ → Prop

/-- Documents that list their values by path; each value is also a document nested at any path. -/
def Interpretation.listed : Interpretation (List (String × Json)) where
  term field value d := (field, value) ∈ d
  wildcard _ _ _ _ := False
  bound field side value d := ∃ n m, (field, .int n) ∈ d ∧ value = .int m ∧
    match side with
    | .gt => m < n
    | .gte => m ≤ n
    | .lt => n < m
    | .lte => n ≤ m
  present field d := ∃ value, (field, value) ∈ d
  nested _ d e := ∃ entry ∈ d, e = [entry]

/-! ### The bounds of a range -/

namespace Bounds

/-- The bound that is set on one side. -/
def get (b : Bounds) : Filter.Side → Option Json
  | .gt => b.gt
  | .gte => b.gte
  | .lt => b.lt
  | .lte => b.lte

@[simp] lemma get_empty (side : Filter.Side) : empty.get side = none := by cases side <;> rfl

@[simp] lemma get_set (b : Bounds) (side other : Filter.Side) (value : Json) :
    (side.set value b).get other = if side = other then some value else b.get other := by
  cases side <;> cases other <;> rfl

lemma isEmpty_iff (b : Bounds) : b.isEmpty ↔ ∀ side, b.get side = none := by
  constructor
  · intro h side
    simp only [isEmpty, Bool.and_eq_true, Option.isNone_iff_eq_none] at h
    obtain ⟨⟨⟨h1, h2⟩, h3⟩, h4⟩ := h
    cases side <;> assumption
  · intro h
    have h1 := h .gt
    have h2 := h .gte
    have h3 := h .lt
    have h4 := h .lte
    simp only [get] at h1 h2 h3 h4
    simp [isEmpty, h1, h2, h3, h4]

end Bounds

/-! ### The meaning of constraints -/

section Meaning

variable {δ : Type u} (I : Interpretation δ)

mutual

/-- The meaning of one constraint. -/
def Constraint.Holds : Constraint → δ → Prop
  | .term field value, d => I.term field value d
  | .wildcard field pattern caseInsensitive, d => I.wildcard field pattern caseInsensitive d
  | .range field bounds, d =>
    ∀ side value, bounds.get side = some value → I.bound field side value d
  | .present field, d => I.present field d
  | .bool filter should mustNot, d =>
    AllHold filter d ∧ (should = [] ∨ SomeHolds should d) ∧ ¬ SomeHolds mustNot d
  | .nested path constraints, d => ∃ e, I.nested path d e ∧ AllHold constraints e

/-- The conjunction of a list of constraints. -/
def AllHold : List Constraint → δ → Prop
  | [], _ => True
  | c :: rest, d => c.Holds d ∧ AllHold rest d

def SomeHolds : List Constraint → δ → Prop
  | [], _ => False
  | c :: rest, d => c.Holds d ∨ SomeHolds rest d

end

lemma allHold_iff {constraints : List Constraint} {d : δ} :
    AllHold I constraints d ↔ ∀ c ∈ constraints, c.Holds I d := by
  induction constraints with
  | nil => simp [AllHold]
  | cons c rest ih => simp [AllHold, ih]

lemma someHolds_iff {constraints : List Constraint} {d : δ} :
    SomeHolds I constraints d ↔ ∃ c ∈ constraints, c.Holds I d := by
  induction constraints with
  | nil => simp [SomeHolds]
  | cons c rest ih => simp [SomeHolds, ih]

@[simp] lemma allHold_nil (d : δ) : AllHold I [] d := trivial

@[simp] lemma allHold_append (cs cs' : List Constraint) (d : δ) :
    AllHold I (cs ++ cs') d ↔ AllHold I cs d ∧ AllHold I cs' d := by
  simp only [allHold_iff, List.forall_mem_append]

@[simp] lemma allHold_singleton (c : Constraint) (d : δ) : AllHold I [c] d ↔ c.Holds I d := by
  simp [AllHold]

namespace Constraint

@[simp] lemma holds_all (cs : List Constraint) (d : δ) : (all cs).Holds I d ↔ AllHold I cs d := by
  simp [all, Holds, SomeHolds]

@[simp] lemma holds_any (cs : List Constraint) (d : δ) :
    (any cs).Holds I d ↔ cs = [] ∨ SomeHolds I cs d := by
  simp [any, Holds, AllHold, SomeHolds]

@[simp] lemma holds_noneOf (cs : List Constraint) (d : δ) :
    (noneOf cs).Holds I d ↔ ¬ SomeHolds I cs d := by
  simp [noneOf, Holds, AllHold]

@[simp] lemma holds_missing (field : String) (d : δ) :
    (missing field).Holds I d ↔ ¬ I.present field d := by
  simp [missing, SomeHolds, Holds]

end Constraint

end Meaning

end HostFacets
