import HostFacets.Proofs.Numerals
import HostFacets.Proofs.Outcome
import HostFacets.Settings

/-!
Settings under overlays from environments.

`Overlaid` says of each setting what it is after an overlay: what its variable gives, or what it
was. Only the text for the port can be refused. An overlay on top of another one is a single
overlay, in which the later environment comes first.
-/

namespace HostFacets.Settings

/-! ### The port -/

/-- Decimal digits, perhaps after a plus sign, that spell a port. -/
def SpellsPort (text : String) (port : ℕ) : Prop :=
  ∃ digits : List Char, (text.toList = digits ∨ text.toList = '+' :: digits) ∧ digits ≠ [] ∧
    (∀ c ∈ digits, c.isDigit) ∧ port = Nat.ofDigitChars 10 digits 0 ∧ port ≤ 65535

lemma port?_eq_some_iff {text : String} {port : ℕ} :
    port? text = some port ↔ SpellsPort text port := by
  have hread : ∀ digits : List Char,
      (Text.natOfDigits? 10 digits).filter (· < portBound) = some port ↔ digits ≠ [] ∧
        (∀ c ∈ digits, c.isDigit) ∧ port = Nat.ofDigitChars 10 digits 0 ∧ port ≤ 65535 := by
    intro digits
    have hbound : port < portBound ↔ port ≤ 65535 := Nat.lt_succ_iff
    rw [Option.filter_eq_some_iff, Text.natOfDigits?_ten_eq_some_iff, decide_eq_true_iff, hbound,
      and_assoc, and_assoc]
  simp only [port?, SpellsPort]
  split
  · next rest htext =>
    rw [hread]
    constructor
    · intro h
      exact ⟨rest, .inr htext, h⟩
    · rintro ⟨digits, hsigned | hsigned, hne, hdigits, hport⟩
      · -- a plus sign is no digit
        have hsign : '+' ∈ digits := by simp [← hsigned, htext]
        exact absurd (hdigits _ hsign) (by decide)
      · obtain rfl : digits = rest := by simpa [htext] using hsigned.symm
        exact ⟨hne, hdigits, hport⟩
  · next hunsigned =>
    rw [hread]
    constructor
    · intro h
      exact ⟨text.toList, .inl rfl, h⟩
    · rintro ⟨digits, rfl | hsigned, h⟩
      · exact h
      · exact absurd hsigned (hunsigned digits)

lemma SpellsPort.unique {text : String} {port port' : ℕ} (h : SpellsPort text port)
    (h' : SpellsPort text port') : port = port' := by
  have hread := port?_eq_some_iff.2 h
  rw [port?_eq_some_iff.2 h'] at hread
  exact (Option.some.inj hread).symm

/-! ### One setting -/

/-- A setting after an overlay is read from the text that is given for it, or is what it was. -/
inductive Overrides {α : Type} (reads : String → α → Prop) : Option String → α → α → Prop
  | given {text : String} {old new : α} (h : reads text new) :
    Overrides reads (some text) old new
  | kept (old : α) : Overrides reads none old old

lemma overrides_eq_iff {given : Option String} {old new : String} :
    Overrides Eq given old new ↔ given.getD old = new := by
  constructor
  · intro h
    cases h with
    | given h => exact h
    | kept => rfl
  · intro h
    cases given with
    | some text => exact .given h
    | none => exact h ▸ .kept old

/-- What is given later counts, and else what was given before. -/
lemma Overrides.trans_iff {α : Type} {reads : String → α → Prop}
    (hunique : ∀ text a b, reads text a → reads text b → a = b) {first second : Option String}
    {old mid new : α} (h : Overrides reads first old mid) :
    Overrides reads second mid new ↔ Overrides reads (second.or first) old new := by
  cases second with
  | some text =>
    rw [Option.some_or]
    constructor <;> rintro ⟨hnew⟩ <;> exact .given hnew
  | none =>
    rw [Option.none_or]
    constructor
    · rintro ⟨⟩
      exact h
    · intro hnew
      cases h with
      | given hmid =>
        obtain ⟨hnew⟩ := hnew
        exact hunique _ _ _ hmid hnew ▸ .kept mid
      | kept =>
        cases hnew
        exact .kept _

section

variable {environment : String → Option String} {text : String} {old new : ℕ} {fault : Fault}

lemma portOverride_of_unset (h : environment "PORT" = none) :
    portOverride environment old = .ok old := by
  rw [portOverride, h]

lemma portOverride_of_spellsPort (h : environment "PORT" = some text) (hnew : SpellsPort text new) :
    portOverride environment old = .ok new := by
  rw [portOverride, h]
  simp only [port?_eq_some_iff.2 hnew]

lemma portOverride_of_not_spellsPort (h : environment "PORT" = some text)
    (hbad : ∀ port, ¬ SpellsPort text port) :
    portOverride environment old = .error (.invalidPort text) := by
  have hread : port? text = none := by
    rw [Option.eq_none_iff_forall_ne_some]
    exact fun port hport => hbad port (port?_eq_some_iff.1 hport)
  rw [portOverride, h]
  simp only [hread]

lemma portOverride_ok_iff : portOverride environment old = .ok new ↔
    Overrides SpellsPort (environment "PORT") old new := by
  constructor
  · intro h
    cases hport : environment "PORT" with
    | none =>
      rw [portOverride_of_unset hport] at h
      cases h
      exact .kept _
    | some text =>
      by_cases hspells : ∃ port, SpellsPort text port
      · obtain ⟨port, hspells⟩ := hspells
        rw [portOverride_of_spellsPort hport hspells] at h
        cases h
        exact .given hspells
      · rw [portOverride_of_not_spellsPort hport (not_exists.1 hspells)] at h
        cases h
  · intro h
    generalize hport : environment "PORT" = given at h
    cases h with
    | given hnew => exact portOverride_of_spellsPort hport hnew
    | kept => exact portOverride_of_unset hport

lemma portOverride_error_iff : portOverride environment old = .error fault ↔
    ∃ text, environment "PORT" = some text ∧ (∀ port, ¬ SpellsPort text port) ∧
      fault = .invalidPort text := by
  constructor
  · intro h
    cases hport : environment "PORT" with
    | none =>
      rw [portOverride_of_unset hport] at h
      cases h
    | some text =>
      have hbad : ∀ port, ¬ SpellsPort text port := fun port hspells => by
        rw [portOverride_of_spellsPort hport hspells] at h
        cases h
      rw [portOverride_of_not_spellsPort hport hbad] at h
      cases h
      exact ⟨text, rfl, hbad, rfl⟩
  · rintro ⟨text, hport, hbad, rfl⟩
    exact portOverride_of_not_spellsPort hport hbad

end

/-! ### All settings -/

/-- The variables that settings are read from. -/
def variableNames : List String :=
  ["ELASTICSEARCH_URL", "ELASTICSEARCH_USERNAME", "ELASTICSEARCH_PASSWORD", "ELASTICSEARCH_INDEX",
    "PORT", "LOG_LEVEL"]

/-- The settings after an overlay. -/
structure Overlaid (environment : String → Option String) (s s' : Settings) : Prop where
  url : Overrides Eq (environment "ELASTICSEARCH_URL") s.engine.url s'.engine.url
  username : Overrides Eq (environment "ELASTICSEARCH_USERNAME") s.engine.username
    s'.engine.username
  password : Overrides Eq (environment "ELASTICSEARCH_PASSWORD") s.engine.password
    s'.engine.password
  index : Overrides Eq (environment "ELASTICSEARCH_INDEX") s.engine.index s'.engine.index
  port : Overrides SpellsPort (environment "PORT") s.port s'.port
  logLevel : Overrides Eq (environment "LOG_LEVEL") s.logLevel s'.logLevel
  schemaPath : s'.schemaPath = s.schemaPath
  timeoutSecs : s'.engine.timeoutSecs = s.engine.timeoutSecs

section

variable {s s' mid : Settings} {environment later : String → Option String} {fault : Fault}

lemma overlay_ok_iff : s.overlay environment = .ok s' ↔ Overlaid environment s s' := by
  unfold overlay
  rw [bind_ok_iff]
  simp only [portOverride_ok_iff]
  constructor
  · rintro ⟨port, hport, ⟨⟩⟩
    exact ⟨overrides_eq_iff.2 rfl, overrides_eq_iff.2 rfl, overrides_eq_iff.2 rfl,
      overrides_eq_iff.2 rfl, hport, overrides_eq_iff.2 rfl, rfl, rfl⟩
  · intro h
    refine ⟨s'.port, h.port, ?_⟩
    rw [overrides_eq_iff.1 h.url, overrides_eq_iff.1 h.username, overrides_eq_iff.1 h.password,
      overrides_eq_iff.1 h.index, overrides_eq_iff.1 h.logLevel, ← h.schemaPath, ← h.timeoutSecs]
    rfl

lemma overlay_error_iff : s.overlay environment = .error fault ↔ ∃ text,
    environment "PORT" = some text ∧ (∀ port, ¬ SpellsPort text port) ∧
      fault = .invalidPort text := by
  unfold overlay
  rw [bind_error_iff, portOverride_error_iff]
  constructor
  · rintro (h | ⟨port, -, ⟨⟩⟩)
    exact h
  · exact .inl

/-- Looks up in one environment, and where nothing is set, in another. -/
def preferring (later earlier : String → Option String) (name : String) : Option String :=
  (later name).or (earlier name)

lemma Overlaid.trans_iff (h : Overlaid environment s mid) :
    Overlaid later mid s' ↔ Overlaid (preferring later environment) s s' := by
  have htext : ∀ text a b : String, text = a → text = b → a = b := by
    rintro text a b rfl rfl
    rfl
  have hport : ∀ text a b, SpellsPort text a → SpellsPort text b → a = b :=
    fun _ _ _ => SpellsPort.unique
  constructor
  · intro h'
    exact {
      url := (h.url.trans_iff htext).1 h'.url
      username := (h.username.trans_iff htext).1 h'.username
      password := (h.password.trans_iff htext).1 h'.password
      index := (h.index.trans_iff htext).1 h'.index
      port := (h.port.trans_iff hport).1 h'.port
      logLevel := (h.logLevel.trans_iff htext).1 h'.logLevel
      schemaPath := h'.schemaPath.trans h.schemaPath
      timeoutSecs := h'.timeoutSecs.trans h.timeoutSecs }
  · intro h'
    exact {
      url := (h.url.trans_iff htext).2 h'.url
      username := (h.username.trans_iff htext).2 h'.username
      password := (h.password.trans_iff htext).2 h'.password
      index := (h.index.trans_iff htext).2 h'.index
      port := (h.port.trans_iff hport).2 h'.port
      logLevel := (h.logLevel.trans_iff htext).2 h'.logLevel
      schemaPath := h'.schemaPath.trans h.schemaPath.symm
      timeoutSecs := h'.timeoutSecs.trans h.timeoutSecs.symm }

/-- Nothing but the variables of settings is looked up. -/
lemma overlay_congr (h : ∀ name ∈ variableNames, later name = environment name) :
    s.overlay later = s.overlay environment := by
  simp only [variableNames, List.forall_mem_cons] at h
  obtain ⟨hurl, husername, hpassword, hindex, hport, hlevel, -⟩ := h
  simp only [overlay, portOverride, hurl, husername, hpassword, hindex, hport, hlevel]

lemma overlay_overlay
    (hport : ∀ text, environment "PORT" = some text → ∃ port, SpellsPort text port) :
    (s.overlay environment >>= fun mid => mid.overlay later) =
      s.overlay (preferring later environment) := by
  cases hfirst : s.overlay environment with
  | error fault =>
    obtain ⟨text, htext, hbad, -⟩ := overlay_error_iff.1 hfirst
    obtain ⟨port, hspells⟩ := hport text htext
    exact absurd hspells (hbad port)
  | ok mid =>
    change mid.overlay later = _
    cases hsecond : mid.overlay later with
    | error fault =>
      obtain ⟨text, htext, hfault⟩ := overlay_error_iff.1 hsecond
      have hpreferred : preferring later environment "PORT" = some text := by
        rw [preferring, htext, Option.some_or]
      exact (overlay_error_iff.2 ⟨text, hpreferred, hfault⟩).symm
    | ok s' =>
      have hoverlaid := (overlay_ok_iff.1 hfirst).trans_iff.1 (overlay_ok_iff.1 hsecond)
      exact (overlay_ok_iff.2 hoverlaid).symm

lemma overlay_self (h : s.overlay environment = .ok s') : s'.overlay environment = .ok s' := by
  have hself : preferring environment environment = environment :=
    funext fun name => Option.or_self
  rw [overlay_ok_iff, (overlay_ok_iff.1 h).trans_iff, hself, ← overlay_ok_iff]
  exact h

lemma isSome_credentials?_iff {e : EngineSettings} :
    e.credentials?.isSome ↔ e.username ≠ "" ∧ e.password ≠ "" := by
  have hempty : (e.username.isEmpty || e.password.isEmpty) = true ↔
      ¬ (e.username ≠ "" ∧ e.password ≠ "") := by
    rw [Bool.or_eq_true, String.isEmpty_iff, String.isEmpty_iff]
    tauto
  rw [EngineSettings.credentials?, Option.isSome_ite', hempty, not_not]

end

/-- **Overlays**: an overlay fails exactly if the text for the port spells none. Else each setting
is what its variable gives, even where that is empty, or what it was, and no other variable counts.
An overlay on top of another one is a single overlay in which the later environment comes first. -/
theorem overlay_lawful (s : Settings) (environment : String → Option String) :
    (∀ fault, s.overlay environment = .error fault ↔ ∃ text, environment "PORT" = some text ∧
      (∀ port, ¬ SpellsPort text port) ∧ fault = .invalidPort text) ∧
    (∀ s', s.overlay environment = .ok s' ↔ Overlaid environment s s') ∧
    (∀ other, (∀ name ∈ variableNames, other name = environment name) →
      s.overlay other = s.overlay environment) ∧
    (∀ later, (∀ text, environment "PORT" = some text → ∃ port, SpellsPort text port) →
      (s.overlay environment >>= fun s' => s'.overlay later) =
        s.overlay (preferring later environment)) ∧
    ∀ s', s.overlay environment = .ok s' → s'.overlay environment = .ok s' ∧
      (s'.engine.credentials?.isSome ↔ s'.engine.username ≠ "" ∧ s'.engine.password ≠ "") := by
  refine ⟨fun fault => overlay_error_iff, fun s' => overlay_ok_iff, fun other => overlay_congr,
    fun later => overlay_overlay, fun s' h => ?_⟩
  exact ⟨overlay_self h, isSome_credentials?_iff⟩

/-! ### A port with a sign, and then a level -/

def bareSettings : Settings := { engine := { url := "http://search:9200", index := "hosts" } }

/-- The environment in which one variable is set. -/
def setting (name text : String) (asked : String) : Option String :=
  if asked = name then some text else none

lemma spellsPort_signed : SpellsPort "+0080" 80 :=
  ⟨['0', '0', '8', '0'], .inr (by decide), by simp, by simp, rfl, by decide⟩

theorem overlay_lawful_signed :
    SpellsPort "+0080" 80 ∧
      (bareSettings.overlay (setting "PORT" "+0080") >>= fun s' =>
        s'.overlay (setting "LOG_LEVEL" "")) =
          .ok { bareSettings with port := 80, logLevel := "" } := by
  have hport : ∀ text, setting "PORT" "+0080" "PORT" = some text →
      ∃ port, SpellsPort text port := by
    rintro text ⟨⟩
    exact ⟨80, spellsPort_signed⟩
  obtain ⟨-, -, -, hlater, -⟩ := overlay_lawful bareSettings (setting "PORT" "+0080")
  refine ⟨spellsPort_signed, (hlater _ hport).trans ?_⟩
  decide

end HostFacets.Settings
