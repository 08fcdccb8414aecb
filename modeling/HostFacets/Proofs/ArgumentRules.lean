import HostFacets.Proofs.Pages

/-!
Arguments are settled before any request.

There are six rules on the arguments of a call, in a fixed order. A check settles a list of rules if
it fails exactly where one of them is broken, with the text of the first; two checks in a row settle
the rules of both. A call is refused by these checks and by nothing else, and it sends no request
exactly then.
-/

namespace HostFacets

/-! ### Rules in an order -/

section

variable {ρ : Type} (Broken : ρ → String → Prop)

/-- The first of the rules that is broken, with a text that says why. -/
inductive FirstBroken : List ρ → String → Prop
  | here {rule : ρ} {rest : List ρ} {text : String} (h : Broken rule text) :
    FirstBroken (rule :: rest) text
  | later {rule : ρ} {rest : List ρ} {text : String} (hkept : ∀ t, ¬ Broken rule t)
    (h : FirstBroken rest text) : FirstBroken (rule :: rest) text

variable {Broken} {rule : ρ} {rules rules' : List ρ} {text : String}

@[simp] lemma not_firstBroken_nil : ¬ FirstBroken Broken [] text := nofun

lemma firstBroken_cons_iff :
    FirstBroken Broken (rule :: rules) text ↔
      Broken rule text ∨ (∀ t, ¬ Broken rule t) ∧ FirstBroken Broken rules text := by
  constructor
  · rintro (h | ⟨hkept, h⟩)
    · exact .inl h
    · exact .inr ⟨hkept, h⟩
  · rintro (h | ⟨hkept, h⟩)
    · exact .here h
    · exact .later hkept h

lemma firstBroken_append_iff :
    FirstBroken Broken (rules ++ rules') text ↔
      FirstBroken Broken rules text ∨
        (∀ rule ∈ rules, ∀ t, ¬ Broken rule t) ∧ FirstBroken Broken rules' text := by
  induction rules with
  | nil => simp
  | cons rule rest ih =>
    rw [List.cons_append, firstBroken_cons_iff, firstBroken_cons_iff, ih, List.forall_mem_cons]
    tauto

lemma exists_firstBroken_iff :
    (∃ text, FirstBroken Broken rules text) ↔ ∃ rule ∈ rules, ∃ text, Broken rule text := by
  induction rules with
  | nil => simp
  | cons rule rest ih =>
    simp only [firstBroken_cons_iff, List.exists_mem_cons_iff, exists_or, exists_and_left, ← ih]
    by_cases h : ∃ t, Broken rule t
    · simp [h]
    · simp [not_exists.1 h]

end

/-! ### Checks that settle rules -/

section

variable {ρ ε ε' α β : Type} (Broken : ρ → String → Prop) (message : ε → String)

/-- The check fails exactly where one of the rules is broken, and with the text of the first. -/
def Settles (rules : List ρ) (check : Except ε α) : Prop :=
  ∀ text, (∃ fault, check = .error fault ∧ message fault = text) ↔ FirstBroken Broken rules text

variable {Broken message} {rules rules' : List ρ} {check : Except ε α}

lemma Settles.error_iff (h : Settles Broken message rules check) :
    (∃ fault, check = .error fault) ↔ ∃ rule ∈ rules, ∃ text, Broken rule text := by
  rw [← exists_firstBroken_iff]
  constructor
  · rintro ⟨fault, hfault⟩
    exact ⟨message fault, (h _).1 ⟨fault, hfault, rfl⟩⟩
  · rintro ⟨text, hfirst⟩
    obtain ⟨fault, hfault, -⟩ := (h text).2 hfirst
    exact ⟨fault, hfault⟩

lemma Settles.ok_iff (h : Settles Broken message rules check) :
    (∃ a, check = .ok a) ↔ ∀ rule ∈ rules, ∀ text, ¬ Broken rule text := by
  have hbroken := not_congr h.error_iff
  simp only [not_exists, not_and] at hbroken
  rw [← hbroken]
  cases check <;> simp

lemma settles_ok (a : α) : Settles Broken message [] (.ok a : Except ε α) := by
  intro text
  simp

/-- Rules that nothing can break need no check. -/
lemma settles_of_kept (a : α) (hkept : ∀ rule ∈ rules, ∀ text, ¬ Broken rule text) :
    Settles Broken message rules (.ok a : Except ε α) := by
  have hnone : ¬ ∃ text, FirstBroken Broken rules text := by
    rw [exists_firstBroken_iff]
    rintro ⟨rule, hmem, text, hbroken⟩
    exact hkept rule hmem text hbroken
  intro text
  simp only [reduceCtorEq, false_and, exists_false, false_iff]
  exact fun h => hnone ⟨text, h⟩

/-- A refusal in front of a check settles one more rule. -/
lemma Settles.unless {rule : ρ} {bad : Prop} [Decidable bad] {fault : ε}
    (h : Settles Broken message rules check)
    (hrule : ∀ text, Broken rule text ↔ bad ∧ text = message fault) :
    Settles Broken message (rule :: rules) (if bad then .error fault else check) := by
  intro text
  rw [firstBroken_cons_iff, ← h text]
  by_cases hbad : bad
  · simp [hrule, hbad, eq_comm]
  · simp [hrule, hbad]

lemma settles_singleton {rule : ρ}
    (h : ∀ text, (∃ fault, check = .error fault ∧ message fault = text) ↔ Broken rule text) :
    Settles Broken message [rule] check := by
  intro text
  rw [h, firstBroken_cons_iff]
  simp

/-- Two checks in a row settle the rules of both. -/
lemma Settles.bind {next : α → Except ε β} (h : Settles Broken message rules check)
    (hnext : ∀ a, check = .ok a → Settles Broken message rules' (next a)) :
    Settles Broken message (rules ++ rules') (check >>= next) := by
  intro text
  rw [firstBroken_append_iff, ← h text, ← h.ok_iff]
  cases hcheck : check with
  | error e => simp [bind_error_iff]
  | ok a =>
    rw [← hnext a hcheck text]
    simp [bind_error_iff]

lemma Settles.mapError {message' : ε' → String} {f : ε → ε'}
    (h : Settles Broken message rules check) (hf : ∀ fault, message' (f fault) = message fault) :
    Settles Broken message' rules (check.mapError f) := by
  intro text
  rw [← h text]
  simp [hf]

end

/-! ### The texts of refusals -/

namespace Window.Fault

lemma message_negativeLimit (n : Int) :
    (negativeLimit n).message = s!"limit: value must be 0 or greater (was {n})" := rfl

lemma message_limitTooLarge (n : Int) :
    (limitTooLarge n).message = s!"limit: value must be 100 or less (was {n})" := by
  have hmessage : (limitTooLarge n).message =
      s!"limit: value must be {maxLimit} or less (was {n})" := rfl
  have hmax : s!"limit: value must be {maxLimit} or less (was " =
      "limit: value must be 100 or less (was " := by decide
  rw [hmessage]
  exact congrArg (· ++ toString n ++ ")") hmax

lemma message_negativeOffset (n : Int) :
    (negativeOffset n).message = s!"offset: value must be 0 or greater (was {n})" := rfl

end Window.Fault

namespace Facet

open Search (Request Reply)

/-! ### The rules on the arguments of a call -/

inductive ArgumentRule where
  | limitNotNegative | limitNotTooLarge | offsetNotNegative | criterionKnown | directionKnown
  | filterCompiles
deriving DecidableEq

/-- The order in which the rules are checked. -/
def ArgumentRule.inOrder : List ArgumentRule :=
  [.limitNotNegative, .limitNotTooLarge, .offsetNotNegative, .criterionKnown, .directionKnown,
    .filterCompiles]

namespace Call

/-- The names by which the records of a call can be ordered. -/
def criteria : Call → List String
  | .tags _ => ["count", "tag"]
  | .operatingSystems _ => ["count", "operating_system"]

/-- A call breaks a rule, with the text of the refusal. An empty name counts as missing. -/
def Breaks (call : Call) (reasons : Filter.Reasons) (schema : Schema) : ArgumentRule → String → Prop
  | .limitNotNegative, text => ∃ n, call.query.limit = some n ∧ n < 0 ∧
    text = s!"limit: value must be 0 or greater (was {n})"
  | .limitNotTooLarge, text => ∃ n, call.query.limit = some n ∧ 100 < n ∧
    text = s!"limit: value must be 100 or less (was {n})"
  | .offsetNotNegative, text => ∃ n, call.query.offset = some n ∧ n < 0 ∧
    text = s!"offset: value must be 0 or greater (was {n})"
  | .criterionKnown, text => ∃ name, call.query.orderBy = some name ∧ name ≠ "" ∧
    name ∉ call.criteria ∧ text = "invalid order_by parameter: " ++ name
  | .directionKnown, text => ∃ how, call.query.orderHow = some how ∧ how ≠ "" ∧
    how.toList.map Char.toLower ∉ ["asc".toList, "desc".toList] ∧
    text = "invalid order_how parameter: " ++ how
  | .filterCompiles, text => ∃ e,
    Filter.compile hostPath schema call.query.hostFilter = .error e ∧ text = e.message reasons

section

variable (call : Call) (reasons : Filter.Reasons) (schema : Schema)

lemma settles_checkLimit : Settles (call.Breaks reasons schema) Window.Fault.message
    [.limitNotNegative, .limitNotTooLarge] (Window.checkLimit call.query.limit) := by
  cases hlimit : call.query.limit with
  | none =>
    refine settles_of_kept () ?_
    simp [Breaks, hlimit]
  | some n =>
    refine ((settles_ok ()).unless fun text => ?_).unless fun text => ?_
    · simp [Breaks, hlimit, Window.Fault.message_limitTooLarge, Window.maxLimit]
    · simp [Breaks, hlimit, Window.Fault.message_negativeLimit]

lemma settles_checkOffset : Settles (call.Breaks reasons schema) Window.Fault.message
    [.offsetNotNegative] (Window.checkOffset call.query.offset) := by
  cases hoffset : call.query.offset with
  | none =>
    refine settles_of_kept () ?_
    simp [Breaks, hoffset]
  | some n =>
    refine (settles_ok ()).unless fun text => ?_
    simp [Breaks, hoffset, Window.Fault.message_negativeOffset]

lemma settles_lookup {α : Type} {find : String → Option α} {fault : String → Order.Fault}
    {argument : Option String} {rule : ArgumentRule}
    (hrule : ∀ text, call.Breaks reasons schema rule text ↔
      ∃ name, argument = some name ∧ name ≠ "" ∧
        find name = none ∧ text = (fault name).message) :
    Settles (call.Breaks reasons schema) Order.Fault.message [rule]
      (Order.lookup find fault argument) := by
  refine settles_singleton fun text => ?_
  rw [hrule]
  unfold Order.lookup
  split
  · simp
  · simp
  · next name hne =>
    have hne : name ≠ "" := by simpa using hne
    split
    · next a ha => simp [ha]
    · next hnone => simp [hnone, hne, eq_comm]

lemma criterion?_eq_none_iff {name : String} :
    call.facet.criterion? name = none ↔ name ∉ call.criteria := by
  cases call with
  | tags arguments =>
    change tagCriterion? name = none ↔ _
    unfold tagCriterion?
    split <;> simp_all [criteria]
  | operatingSystems query =>
    change osCriterion? name = none ↔ _
    unfold osCriterion?
    split <;> simp_all [criteria]

lemma ofName?_eq_none_iff {how : String} : Direction.ofName? how = none ↔
    how.toList.map Char.toLower ∉ ["asc".toList, "desc".toList] := by
  unfold Direction.ofName?
  simp only
  split
  · next hasc => simp [hasc]
  · next hasc =>
    split
    · next hdesc => simp [hdesc]
    · next hdesc => simp [hasc, hdesc]

lemma settles_window : Settles (call.Breaks reasons schema) Window.Fault.message
    [.limitNotNegative, .limitNotTooLarge, .offsetNotNegative]
    (Window.ofArguments call.query.limit call.query.offset) :=
  (call.settles_checkLimit reasons schema).bind fun _ _ =>
    (call.settles_checkOffset reasons schema).bind fun _ _ => settles_ok _

lemma settles_order : Settles (call.Breaks reasons schema) Order.Fault.message
    [.criterionKnown, .directionKnown]
    (Order.ofArguments call.facet.criterion? call.query.orderBy call.query.orderHow) := by
  refine (call.settles_lookup reasons schema fun text => ?_).bind fun _ _ =>
    (call.settles_lookup reasons schema fun text => ?_).bind fun _ _ => settles_ok _
  · simp only [criterion?_eq_none_iff]
    rfl
  · simp only [ofName?_eq_none_iff]
    rfl

lemma settles_compile : Settles (call.Breaks reasons schema) (Filter.Error.message reasons)
    [.filterCompiles] (Filter.compile hostPath schema call.query.hostFilter) := by
  refine settles_singleton fun text => ?_
  simp [Breaks, eq_comm]

/-- The plan of a call settles all rules in their order. -/
lemma settles_plan (catalog : Catalog) (scope : List Constraint) :
    Settles (call.Breaks reasons catalog.schema) (ArgumentFault.message reasons)
      ArgumentRule.inOrder (call.plan catalog scope) := by
  have hwindow : Settles (call.Breaks reasons catalog.schema) (ArgumentFault.message reasons)
      [.limitNotNegative, .limitNotTooLarge, .offsetNotNegative]
      ((Window.ofArguments call.query.limit call.query.offset).mapError .window) :=
    (call.settles_window reasons catalog.schema).mapError fun _ => rfl
  have horder : Settles (call.Breaks reasons catalog.schema) (ArgumentFault.message reasons)
      [.criterionKnown, .directionKnown]
      ((Order.ofArguments call.facet.criterion? call.query.orderBy call.query.orderHow).mapError
        .order) :=
    (call.settles_order reasons catalog.schema).mapError fun _ => rfl
  have hfilter : Settles (call.Breaks reasons catalog.schema) (ArgumentFault.message reasons)
      [.filterCompiles]
      ((Filter.compile hostPath catalog.schema call.query.hostFilter).mapError .filter) :=
    (call.settles_compile reasons catalog.schema).mapError fun _ => rfl
  exact hwindow.bind fun _ _ => horder.bind fun _ _ => hfilter.bind fun _ _ => settles_ok _

end

end Call

/-! ### Refusals and requests -/

section

variable {ρ : Type} {facet : Facet ρ} {fault : ArgumentFault}

lemma page_ne_invalidArgument (window : Window) (response : Search.Response) :
    facet.page window response ≠ .error (.invalidArgument fault) := by
  unfold page
  split
  · nofun
  · nofun

namespace Exchange

variable {index : String} {plan : Plan} {first second : Reply} {sent : List Request}
  {answer : Except Error (Page ρ)}

lemma sent_ne_nil (h : Exchange facet index plan first second sent answer) : sent ≠ [] := by
  rcases h.sent_eq with ⟨hsent, -⟩ | ⟨hsent, -⟩
  · simp [hsent]
  · simp [hsent]

/-- Nothing that the engine replies refuses the arguments. -/
lemma answer_ne_invalidArgument (h : Exchange facet index plan first second sent answer) :
    answer ≠ .error (.invalidArgument fault) := by
  cases h with
  | served => exact page_ne_invalidArgument plan.window _
  | refused => nofun
  | uncounted => nofun
  | exceeded => nofun
  | pastEnd => nofun

end Exchange

end

namespace Call

variable {σ : Type u} (engine : σ → Request → Reply × σ) (state : σ) (catalog : Catalog)
  (scope : List Constraint) (call : Call)

/-- A call without a plan is finished at once. -/
lemma list_of_fault {fault : ArgumentFault} (h : call.plan catalog scope = .error fault) :
    call.facet.list catalog { call.query with scope } = .done (.error (.invalidArgument fault)) :=
  Facet.list_of_fault h

lemma answer_eq_invalidArgument_iff {fault : ArgumentFault} :
    call.answer engine state catalog scope = .error (.invalidArgument fault) ↔
      call.plan catalog scope = .error fault := by
  cases hplan : call.plan catalog scope with
  | error fault' =>
    rw [answer_eq, list_of_fault catalog scope call hplan]
    simp
  | ok p => simp [(exchange engine state hplan).answer_ne_invalidArgument]

lemma sent_eq_nil_iff :
    call.sent engine state catalog scope = [] ↔
      ∃ fault, call.plan catalog scope = .error fault := by
  cases hplan : call.plan catalog scope with
  | error fault' =>
    rw [sent_eq, list_of_fault catalog scope call hplan]
    simp
  | ok p => simp [(exchange engine state hplan).sent_ne_nil]

/-- **Arguments are settled before any request**: whatever the engine replies, a call is refused for
its arguments if and only if it sends nothing, and this is so exactly where it breaks a rule. The
refusal has the text of the first rule, in their order, that is broken. -/
theorem refused_iff_rule_broken (reasons : Filter.Reasons) :
    let answer := call.answer engine state catalog scope
    let sent := call.sent engine state catalog scope
    ((∃ fault, answer = .error (.invalidArgument fault)) ↔ sent = []) ∧
    (sent = [] ↔ ∃ rule text, call.Breaks reasons catalog.schema rule text) ∧
    ∀ text, (∃ fault, answer = .error (.invalidArgument fault) ∧ fault.message reasons = text) ↔
      FirstBroken (call.Breaks reasons catalog.schema) ArgumentRule.inOrder text := by
  intro answer sent
  have hplan := call.settles_plan reasons catalog scope
  have hmem : ∀ rule, rule ∈ ArgumentRule.inOrder := by
    intro rule
    cases rule <;> decide
  refine ⟨?nothing, ?broken, fun text => ?first⟩
  case nothing =>
    simp only [answer, sent, answer_eq_invalidArgument_iff, sent_eq_nil_iff]
  case broken =>
    simp only [sent, sent_eq_nil_iff, hplan.error_iff, hmem, true_and]
  case first =>
    simp only [answer, answer_eq_invalidArgument_iff]
    exact hplan text

end Call

end Facet

end HostFacets
