import HostFacets.Proofs.DeclaredFields

/-!
Filters for UUIDs.

A text denotes the 128-bit value that its digits spell. Filters that ask a field for two texts come
to the same constraint exactly if the texts denote the same value, whatever their spellings are. The
constraint holds the canonical spelling, which comes to itself.
-/

namespace HostFacets

namespace Uuid

/-! ### Values -/

/-- The number that digits spell, the most significant first. -/
def number (digits : List (Fin 16)) : BitVec 128 :=
  .ofNat 128 (Nat.ofDigits 16 (digits.map Fin.val).reverse)

lemma digit_lt (digits : List (Fin 16)) : ∀ d ∈ (digits.map Fin.val).reverse, d < 16 := by
  intro d hd
  rw [List.mem_reverse] at hd
  obtain ⟨digit, -, rfl⟩ := List.mem_map.1 hd
  exact digit.isLt

/-- The digits of a UUID make up 128 bits, so none is lost. -/
lemma toNat_number {digits : List (Fin 16)} (h : digits.length = 32) :
    (number digits).toNat = Nat.ofDigits 16 (digits.map Fin.val).reverse := by
  have hlt := Nat.ofDigits_lt_base_pow_length (by decide) (digit_lt digits)
  rw [List.length_reverse, List.length_map, h] at hlt
  rw [number, BitVec.toNat_ofNat]
  exact Nat.mod_eq_of_lt hlt

lemma eq_of_number_eq {digits digits' : List (Fin 16)} (h : digits.length = 32)
    (h' : digits'.length = 32) (hnumber : number digits = number digits') : digits = digits' := by
  have hvalue := congrArg BitVec.toNat hnumber
  rw [toNat_number h, toNat_number h'] at hvalue
  have hreverse := Nat.ofDigits_inj_of_len_eq (by decide) (by simp [h, h']) (digit_lt digits)
    (digit_lt digits') hvalue
  exact List.map_injective_iff.2 Fin.val_injective (List.reverse_injective hreverse)

lemma Spells.length_digits {digits : List (Fin 16)} {cs : List Char} (h : Spells digits cs) :
    digits.length = 32 := by
  cases h with
  | plain hlength h => exact h.length_eq.symm.trans hlength
  | hyphenated h | braced h | urn _ h => exact h.length_eq.2

/-- A text spells a 128-bit value. -/
def Denotes (text : String) (value : BitVec 128) : Prop :=
  ∃ digits, Spells digits text.toList ∧ number digits = value

lemma denotes_iff {text : String} {value : BitVec 128} :
    Denotes text value ↔ ∃ u, ofString? text = some u ∧ number u.digits = value := by
  constructor
  · rintro ⟨digits, hspells, hvalue⟩
    exact ⟨⟨digits, hspells.length_digits⟩, ofString?_eq_some_iff.2 hspells, hvalue⟩
  · rintro ⟨u, hread, hvalue⟩
    exact ⟨u.digits, ofString?_eq_some_iff.1 hread, hvalue⟩

/-- Only one spelling of a UUID is canonical. -/
lemma hyphenated_inj {u v : Uuid} : u.hyphenated = v.hyphenated ↔ u = v := by
  constructor
  · intro h
    have hu := u.ofString?_hyphenated
    rw [h, v.ofString?_hyphenated] at hu
    exact (Option.some.inj hu).symm
  · rintro rfl
    rfl

lemma number_inj {u v : Uuid} : number u.digits = number v.digits ↔ u = v := by
  constructor
  · intro h
    have hdigits := eq_of_number_eq u.length_digits v.length_digits h
    cases u
    cases v
    cases hdigits
    rfl
  · rintro rfl
    rfl

end Uuid

namespace Filter

/-! ### Requests for UUIDs -/

/-- Requests take texts for the values that they denote: the constraint that a text comes to is the
term for the canonical spelling of its value. -/
structure ByValue (asks : String → Except Error (List Constraint))
    (term : String → List Constraint) : Prop where
  accepted : ∀ text, (∃ cs, asks text = .ok cs) ↔ ∃ value, Uuid.Denotes text value
  canonical : ∀ text value, Uuid.Denotes text value → ∃ canonical, Uuid.IsHyphenated canonical ∧
    Uuid.Denotes canonical value ∧ asks text = .ok (term canonical) ∧
    asks canonical = .ok (term canonical)
  identity : ∀ a b value value', Uuid.Denotes a value → Uuid.Denotes b value' →
    (asks a = asks b ↔ value = value')

lemma byValue_of_ofString? {asks : String → Except Error (List Constraint)}
    {term : String → List Constraint} (hterm : Function.Injective term)
    (hread : ∀ text cs, asks text = .ok cs → ∃ u, Uuid.ofString? text = some u)
    (hasks : ∀ text u, Uuid.ofString? text = some u → asks text = .ok (term u.hyphenated)) :
    ByValue asks term := by
  refine ⟨fun text => ⟨?denotes, ?accepted⟩, ?canonical, ?identity⟩
  case denotes =>
    rintro ⟨cs, hcs⟩
    obtain ⟨u, hu⟩ := hread text cs hcs
    exact ⟨_, Uuid.denotes_iff.2 ⟨u, hu, rfl⟩⟩
  case accepted =>
    rintro ⟨value, hvalue⟩
    obtain ⟨u, hu, -⟩ := Uuid.denotes_iff.1 hvalue
    exact ⟨_, hasks text u hu⟩
  case canonical =>
    intro text value hvalue
    obtain ⟨u, hu, hnumber⟩ := Uuid.denotes_iff.1 hvalue
    have hself := u.ofString?_hyphenated
    exact ⟨u.hyphenated, u.isHyphenated_hyphenated, Uuid.denotes_iff.2 ⟨u, hself, hnumber⟩,
      hasks text u hu, hasks _ u hself⟩
  case identity =>
    intro a b value value' ha hb
    obtain ⟨u, hu, rfl⟩ := Uuid.denotes_iff.1 ha
    obtain ⟨v, hv, rfl⟩ := Uuid.denotes_iff.1 hb
    rw [hasks a u hu, hasks b v hv, Uuid.number_inj, ← Uuid.hyphenated_inj, Except.ok.injEq,
      hterm.eq_iff]

lemma exists_ofString?_of_normalForm {text : String} {w : Json}
    (h : NormalForm .uuid (.str text) w) : ∃ u, Uuid.ofString? text = some u := by
  cases h with
  | uuid hread _ => exact ⟨_, hread⟩

/-- **Filters for UUIDs**: operators that ask for a text compile exactly if the text denotes a
value, and come to a term for the canonical spelling of that value. Two texts come to one constraint
exactly if they denote one value. The same holds of filters that spell the way down to a field. -/
theorem compile_uuid_by_value :
    (∀ path, ByValue (fun text => compileOperators path (.scalar .uuid) [("eq", .str text)])
      fun text => [.term path (.str text)]) ∧
    ∀ (schema : Schema) (chain : List FieldDef) (root : List String),
      Chain schema.fields chain .uuid → (∀ f ∈ chain, f.name ∉ reserved) →
      ByValue
        (fun text => compile root schema (some ⟨spelled (chain.map (·.name)) (.str text)⟩))
        fun text => [enclosed (nestedPaths (".".intercalate root) chain)
          (.term (dottedPath (".".intercalate root) chain) (.str text))] := by
  have hnormal : ∀ text u, Uuid.ofString? text = some u →
      NormalForm .uuid (.str text) (.str u.hyphenated) :=
    fun _ u hread => .uuid hread u.isHyphenated_hyphenated
  refine ⟨fun path => byValue_of_ofString? ?_ ?_ ?_, fun schema chain root hchain hfree =>
    byValue_of_ofString? ?_ ?_ ?_⟩
  · intro a b h
    simpa using h
  · intro text cs hcs
    obtain ⟨w, hw, -⟩ := compileOperators_eq_ok_iff.1 hcs
    exact exists_ofString?_of_normalForm hw
  · exact fun text u hread => compileOperators_eq_ok_iff.2 ⟨_, hnormal text u hread, rfl⟩
  · intro a b h
    simpa [enclosed_term_inj] using h
  · intro text cs hcs
    rw [compile, compileTree_spelled hchain hfree, map_ok_iff] at hcs
    obtain ⟨_, hcs, -⟩ := hcs
    obtain ⟨w, hw, -⟩ := compileOperators_eq_ok_iff.1 hcs
    exact exists_ofString?_of_normalForm hw
  · exact fun text u hread => compileTree_of_chain (hnormal text u hread) hchain hfree

/-! ### Two spellings of one UUID, in nested documents -/

def volumeField : FieldDef := ⟨"volume", .scalar .uuid, []⟩

def mountsField : FieldDef := ⟨"mounts", .nested, [volumeField]⟩

/-- What the field of a volume is asked for. -/
def askedVolume (text : String) : Except Error (List Constraint) :=
  compile ["host"] ⟨[mountsField]⟩ (some ⟨spelled ["mounts", "volume"] (.str text)⟩)

theorem compile_uuid_by_value_volume :
    Chain [mountsField] [mountsField, volumeField] .uuid ∧
      (∀ f ∈ [mountsField, volumeField], f.name ∉ reserved) ∧
      Uuid.Denotes "{6B2E0D5E-3A4C-4E7B-9F8B-2C1D3E4F5A6B}"
        0x6b2e0d5e3a4c4e7b9f8b2c1d3e4f5a6b#128 ∧
      Uuid.Denotes "6b2e0d5e3a4c4e7b9F8b2c1d3e4f5a6b" 0x6b2e0d5e3a4c4e7b9f8b2c1d3e4f5a6b#128 ∧
      askedVolume "{6B2E0D5E-3A4C-4E7B-9F8B-2C1D3E4F5A6B}" =
        askedVolume "6b2e0d5e3a4c4e7b9F8b2c1d3e4f5a6b" ∧
      askedVolume "{6B2E0D5E-3A4C-4E7B-9F8B-2C1D3E4F5A6B}" =
        .ok [.nested "host.mounts"
          [.term "host.mounts.volume" (.str "6b2e0d5e-3a4c-4e7b-9f8b-2c1d3e4f5a6b")]] := by
  have hchain : Chain [mountsField] [mountsField, volumeField] .uuid :=
    .container rfl (.inr rfl) (.scalar rfl rfl)
  have hfree : ∀ f ∈ [mountsField, volumeField], f.name ∉ reserved := by decide
  have hbraced : Uuid.Denotes "{6B2E0D5E-3A4C-4E7B-9F8B-2C1D3E4F5A6B}"
      0x6b2e0d5e3a4c4e7b9f8b2c1d3e4f5a6b#128 :=
    Uuid.denotes_iff.2 (Option.map_eq_some_iff.1 (by cbv))
  have hplain : Uuid.Denotes "6b2e0d5e3a4c4e7b9F8b2c1d3e4f5a6b"
      0x6b2e0d5e3a4c4e7b9f8b2c1d3e4f5a6b#128 :=
    Uuid.denotes_iff.2 (Option.map_eq_some_iff.1 (by cbv))
  have hfield := compile_uuid_by_value.2 ⟨[mountsField]⟩ _ ["host"] hchain hfree
  exact ⟨hchain, hfree, hbraced, hplain, (hfield.identity _ _ _ _ hbraced hplain).2 rfl, by cbv⟩

end Filter

end HostFacets
