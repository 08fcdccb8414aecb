import HostFacets.Proofs.Outcome

/-!
The first fault in a tree.

Faults stand at addresses, which are the steps to take from the root. Their order is the one in
which a walk meets them: a place comes before all that lies below it, and of two branches the one
whose step is smaller comes first. A check reports a set of faults if it fails with the first of
them, and succeeds if there are none; that is kept by each way to put checks together.
-/

namespace HostFacets

variable {σ β ε ε' α α' : Type} {lt : σ → σ → Prop}

/-- A fault that comes before all others. -/
structure IsFirst (lt : σ → σ → Prop) (Fault : List σ → ε → Prop) (address : List σ) (e : ε) :
    Prop where
  fault : Fault address e
  first : ∀ other e', Fault other e' → other = address ∧ e' = e ∨ List.Lex lt address other

/-- A check fails with the first fault, and succeeds where there is none. -/
inductive Reports (lt : σ → σ → Prop) (Fault : List σ → ε → Prop) : Except ε α → Prop where
  | ok {a : α} (h : ∀ address e, ¬ Fault address e) : Reports lt Fault (.ok a)
  | error {address : List σ} {e : ε} (h : IsFirst lt Fault address e) : Reports lt Fault (.error e)

/-- Faults below one item of a list. -/
inductive InItems (step : β → σ) (Fault : β → List σ → ε → Prop) (items : List β) :
    List σ → ε → Prop where
  | mk {item : β} {address : List σ} {e : ε} (hitem : item ∈ items) (h : Fault item address e) :
    InItems step Fault items (step item :: address) e

namespace IsFirst

variable {Fault Fault' : List σ → ε → Prop} {address : List σ} {e : ε}

lemma congr (h : IsFirst lt Fault address e) (hiff : ∀ a e, Fault a e ↔ Fault' a e) :
    IsFirst lt Fault' address e := by
  obtain rfl : Fault = Fault' := funext fun a => funext fun e => propext (hiff a e)
  exact h

/-- A fault at the root comes before all others. -/
lemma root (h : Fault [] e) (hunique : ∀ e', Fault [] e' → e' = e) : IsFirst lt Fault [] e := by
  refine ⟨h, fun other e' he' => ?_⟩
  cases other with
  | nil => exact .inl ⟨rfl, hunique e' he'⟩
  | cons step rest => exact .inr .nil

end IsFirst

namespace InItems

variable {step : β → σ} {F : β → List σ → ε → Prop} {items : List β}

lemma cons_iff {s : σ} {address : List σ} {e : ε} :
    InItems step F items (s :: address) e ↔ ∃ item ∈ items, step item = s ∧ F item address e := by
  constructor
  · rintro ⟨hitem, h⟩
    exact ⟨_, hitem, rfl, h⟩
  · rintro ⟨item, hitem, rfl, h⟩
    exact .mk hitem h

lemma map_iff {f : ε → ε'} {address : List σ} {e' : ε'} :
    (∃ e, InItems step F items address e ∧ f e = e') ↔
      InItems step (fun item a e' => ∃ e, F item a e ∧ f e = e') items address e' := by
  constructor
  · rintro ⟨e, ⟨hitem, h⟩, rfl⟩
    exact .mk hitem ⟨e, h, rfl⟩
  · rintro ⟨hitem, e, h, rfl⟩
    exact ⟨e, .mk hitem h, rfl⟩

end InItems

/-- **A fault of one item** is the first in a list exactly if it is the first of this item and the
items before have none. -/
theorem isFirst_inItems_iff [Std.Asymm lt] {step : β → σ} {F : β → List σ → ε → Prop}
    {before later : List β} {item : β} {address : List σ} {e : ε}
    (hlt : (before ++ item :: later).Pairwise fun x y => lt (step x) (step y)) :
    IsFirst lt (InItems step F (before ++ item :: later)) (step item :: address) e ↔
      (∀ other ∈ before, ∀ a e', ¬ F other a e') ∧ IsFirst lt (F item) address e := by
  obtain ⟨-, hitem, hbefore⟩ := List.pairwise_append.1 hlt
  have hbefore : ∀ other ∈ before, lt (step other) (step item) := fun other h =>
    hbefore other h item List.mem_cons_self
  have hlater : ∀ other ∈ later, lt (step item) (step other) := (List.pairwise_cons.1 hitem).1
  have hirrefl : ∀ x, ¬ lt x x := fun x h => Std.Asymm.asymm _ _ h h
  constructor
  · intro h
    refine ⟨fun other hother a e' hfault => ?_, ?_, fun a e' hfault => ?_⟩
    · rcases h.first _ _ (.mk (List.mem_append_left _ hother) hfault) with ⟨heq, -⟩ | hlex
      · exact hirrefl _ ((List.cons.inj heq).1 ▸ hbefore other hother)
      · rcases List.cons_lex_cons_iff.1 hlex with hrel | ⟨heq, -⟩
        · exact Std.Asymm.asymm _ _ (hbefore other hother) hrel
        · exact hirrefl _ (heq ▸ hbefore other hother)
    · obtain ⟨other, hmem, hstep, hfault⟩ := InItems.cons_iff.1 h.fault
      rcases List.mem_append.1 hmem with hmem | hmem
      · exact absurd (hstep ▸ hbefore other hmem) (hirrefl _)
      · rcases List.mem_cons.1 hmem with rfl | hmem
        · exact hfault
        · exact absurd (hstep ▸ hlater other hmem) (hirrefl _)
    · rcases h.first _ _ (.mk (List.mem_append_right _ List.mem_cons_self) hfault) with
        ⟨heq, he⟩ | hlex
      · exact .inl ⟨(List.cons.inj heq).2, he⟩
      · rcases List.cons_lex_cons_iff.1 hlex with hrel | ⟨-, hlex⟩
        · exact absurd hrel (hirrefl _)
        · exact .inr hlex
  · rintro ⟨hnone, h⟩
    refine ⟨.mk (List.mem_append_right _ List.mem_cons_self) h.fault, ?_⟩
    rintro _ e' ⟨hmem, hfault⟩
    rcases List.mem_append.1 hmem with hmem | hmem
    · exact absurd hfault (hnone _ hmem _ _)
    · rcases List.mem_cons.1 hmem with rfl | hmem
      · rcases h.first _ _ hfault with ⟨rfl, rfl⟩ | hlex
        · exact .inl ⟨rfl, rfl⟩
        · exact .inr (.cons hlex)
      · exact .inr (.rel (hlater _ hmem))

namespace Reports

variable {Fault Fault' : List σ → ε → Prop} {x : Except ε α}

lemma congr (h : Reports lt Fault x) (hiff : ∀ address e, Fault address e ↔ Fault' address e) :
    Reports lt Fault' x := by
  obtain rfl : Fault = Fault' := funext fun address => funext fun e => propext (hiff address e)
  exact h

lemma map (h : Reports lt Fault x) (f : α → α') : Reports lt Fault (x.map f) := by
  cases h with
  | ok h => exact .ok h
  | error h => exact .error h

lemma mapError (h : Reports lt Fault x) (f : ε → ε') :
    Reports lt (fun address e' => ∃ e, Fault address e ∧ f e = e') (x.mapError f) := by
  cases h with
  | ok h => exact .ok fun address e' ⟨e, he, _⟩ => h address e he
  | error h =>
    refine .error ⟨⟨_, h.fault, rfl⟩, ?_⟩
    rintro other _ ⟨e, he, rfl⟩
    exact (h.first other e he).imp_left fun ⟨hother, he⟩ => ⟨hother, he ▸ rfl⟩

/-- A check of one place, whose fault is that of the place itself. -/
lemma leaf {P : ε → Prop} (h : ∀ e, x = .error e ↔ P e) :
    Reports lt (fun address e => address = [] ∧ P e) x := by
  cases x with
  | ok a =>
    refine .ok ?_
    rintro _ e ⟨-, he⟩
    cases (h e).2 he
  | error e =>
    refine .error ⟨⟨rfl, (h e).1 rfl⟩, ?_⟩
    rintro _ e' ⟨rfl, he'⟩
    exact .inl ⟨rfl, (Except.error.inj ((h e').2 he')).symm⟩

/-- A fault at the root comes before all others. -/
lemma root {e : ε} (h : Fault [] e) (hunique : ∀ e', Fault [] e' → e' = e) :
    Reports lt Fault (.error e : Except ε α) :=
  .error (.root h hunique)

lemma nil {step : β → σ} {F : β → List σ → ε → Prop} (a : α) :
    Reports lt (InItems step F []) (.ok a : Except ε α) := by
  refine .ok ?_
  rintro _ _ ⟨hitem, -⟩
  cases hitem

/-- **A list of items**, checked one after another in the order of their steps. -/
theorem cons {step : β → σ} {F : β → List σ → ε → Prop} {item : β} {rest : List β}
    {f : α → Except ε α'} (hitem : Reports lt (F item) x)
    (hrest : ∀ a, x = .ok a → Reports lt (InItems step F rest) (f a))
    (hlt : ∀ other ∈ rest, lt (step item) (step other)) :
    Reports lt (InItems step F (item :: rest)) (x >>= f) := by
  cases hitem with
  | @ok a hnone =>
    have hshift : ∀ address e, InItems step F rest address e ↔
        InItems step F (item :: rest) address e := by
      intro address e
      constructor
      · rintro ⟨hmem, h⟩
        exact .mk (List.mem_cons_of_mem _ hmem) h
      · rintro ⟨hmem, h⟩
        rcases List.mem_cons.1 hmem with rfl | hmem
        · exact absurd h (hnone _ _)
        · exact .mk hmem h
    exact (hrest a rfl).congr hshift
  | @error address e h =>
    refine .error ⟨.mk List.mem_cons_self h.fault, ?_⟩
    rintro _ e' ⟨hmem, he'⟩
    rcases List.mem_cons.1 hmem with rfl | hmem
    · rcases h.first _ _ he' with ⟨rfl, rfl⟩ | hlex
      · exact .inl ⟨rfl, rfl⟩
      · exact .inr (.cons hlex)
    · exact .inr (.rel (hlt _ hmem))

/-- A list fails with the fault of its first item. -/
lemma cons_error {step : β → σ} {F : β → List σ → ε → Prop} {item : β} {rest : List β} {e : ε}
    (hitem : Reports lt (F item) (.error e : Except ε α))
    (hlt : ∀ other ∈ rest, lt (step item) (step other)) :
    Reports lt (InItems step F (item :: rest)) (.error e : Except ε α') :=
  cons (f := fun _ => .error e) hitem (fun _ h => nomatch h) hlt

/-- Items that are checked one by one. -/
lemma mapM {step : β → σ} {F : β → List σ → ε → Prop} {f : β → Except ε α} {items : List β}
    (hf : ∀ item ∈ items, Reports lt (F item) (f item))
    (hlt : items.Pairwise fun item other => lt (step item) (step other)) :
    Reports lt (InItems step F items) (items.mapM f) := by
  induction items with
  | nil => exact .nil []
  | cons item rest ih =>
    obtain ⟨hitem, hf⟩ := List.forall_mem_cons.1 hf
    obtain ⟨hfirst, hlt⟩ := List.pairwise_cons.1 hlt
    rw [List.mapM_cons]
    exact .cons hitem (fun _ _ => (ih hf hlt).map _) hfirst

/-- The error of a check is the first fault, and the first fault is its error. -/
lemma error_iff [Std.Asymm lt] (h : Reports lt Fault x) {e : ε} :
    x = .error e ↔ ∃ address, IsFirst lt Fault address e := by
  constructor
  · rintro rfl
    cases h with
    | error h => exact ⟨_, h⟩
  · rintro ⟨address, hfirst⟩
    cases h with
    | ok hnone => exact absurd hfirst.fault (hnone _ _)
    | error h =>
      rcases h.first _ _ hfirst.fault with ⟨-, rfl⟩ | hlex
      · rfl
      · rcases hfirst.first _ _ h.fault with ⟨-, rfl⟩ | hlex'
        · rfl
        · exact absurd hlex' (Std.Asymm.asymm _ _ hlex)

lemma ok_iff (h : Reports lt Fault x) : (∃ a, x = .ok a) ↔ ∀ address e, ¬ Fault address e := by
  cases h with
  | ok hnone => simpa using hnone
  | error h =>
    simp only [reduceCtorEq, exists_false, false_iff, not_forall, not_not]
    exact ⟨_, _, h.fault⟩

end Reports

end HostFacets
