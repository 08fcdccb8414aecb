import HostFacets.Configuration
import HostFacets.Proofs.DeclaredFields
import HostFacets.Proofs.FirstFault

/-!
Which schemas are accepted, and what is wrong with the others.

A definition is fit if it is a container with children or a scalar without. A schema is accepted if
this is so at every depth, and otherwise refused for the first unfit definition in preorder.
-/

namespace HostFacets.Schema

/-! ### Definitions and their faults -/

/-- A definition at a position in a forest, with the names on the way to it. -/
inductive Placed : List FieldDef → List Nat → List String → FieldDef → Prop where
  | top {fields : List FieldDef} {i : Nat} {field : FieldDef} (h : fields[i]? = some field) :
    Placed fields [i] [field.name] field
  | child {fields : List FieldDef} {i : Nat} {parent field : FieldDef} {position : List Nat}
    {names : List String} (hparent : fields[i]? = some parent)
    (h : Placed parent.fields position names field) :
    Placed fields (i :: position) (parent.name :: names) field

/-- Containers have children, all other definitions have none. -/
inductive Fit (field : FieldDef) : Prop where
  | container (htype : field.type = .object ∨ field.type = .nested) (h : field.fields ≠ [])
  | scalar {type : ScalarType} (htype : field.type = .scalar type) (h : field.fields = [])

/-- What is wrong with an unfit definition at a path. -/
inductive Blamed (field : FieldDef) (path : String) : Fault → Prop where
  | empty (htype : field.type = .object ∨ field.type = .nested) (h : field.fields = []) :
    Blamed field path (.emptyContainer path)
  | children {type : ScalarType} (htype : field.type = .scalar type) (h : field.fields ≠ []) :
    Blamed field path (.scalarWithChildren path)

/-- An unfit definition at a position of a forest that stands below a path. -/
def Offends (parent : String) (fields : List FieldDef) (position : List Nat) (fault : Fault) :
    Prop :=
  ∃ names field, Placed fields position names field ∧
    Blamed field (dotted (parent :: names)) fault

variable {field : FieldDef} {fields : List FieldDef} {parent path : String} {fault : Fault}
  {position : List Nat}

lemma blamed_iff :
    Blamed field path fault ↔ ownFault? field.type field.fields path = some fault := by
  constructor
  · rintro (⟨htype | htype, h⟩ | ⟨htype, h⟩) <;>
      simp [ownFault?, FieldType.isContainer, htype, h]
  · cases htype : field.type <;> by_cases h : field.fields = [] <;>
      simp [ownFault?, FieldType.isContainer, h] <;> rintro rfl
    · exact .children htype h
    · exact .empty (.inl htype) h
    · exact .empty (.inr htype) h

lemma fit_iff (path : String) : Fit field ↔ ownFault? field.type field.fields path = none := by
  constructor
  · rintro (⟨htype | htype, h⟩ | ⟨htype, h⟩) <;>
      simp [ownFault?, FieldType.isContainer, htype, h]
  · cases htype : field.type <;> by_cases h : field.fields = [] <;>
      simp [ownFault?, FieldType.isContainer, h]
    · exact .scalar htype h
    · exact .container (.inl htype) h
    · exact .container (.inr htype) h

/-- The faults of one definition of a forest: its own, and those of the forest below it. -/
inductive OffendsAt (parent : String) (field : FieldDef) : List Nat → Fault → Prop where
  | own {fault : Fault} (h : Blamed field (joinPath parent field.name) fault) :
    OffendsAt parent field [] fault
  | within {position : List Nat} {fault : Fault}
    (h : Offends (joinPath parent field.name) field.fields position fault) :
    OffendsAt parent field position fault

lemma Offends.ne_nil (h : Offends parent fields position fault) : position ≠ [] := by
  obtain ⟨names, field, hplaced, -⟩ := h
  cases hplaced <;> simp

/-- The faults of a forest are those of its definitions. -/
lemma offends_iff : Offends parent fields position fault ↔
    InItems Prod.snd (fun item => OffendsAt parent item.1) fields.zipIdx position fault := by
  constructor
  · rintro ⟨names, field, hplaced, hblamed⟩
    cases hplaced with
    | top h =>
      rw [← dotted_joinPath, dotted_singleton] at hblamed
      exact .mk (List.mk_mem_zipIdx_iff_getElem?.2 h) (OffendsAt.own hblamed)
    | child hparent h =>
      rw [← dotted_joinPath] at hblamed
      exact .mk (List.mk_mem_zipIdx_iff_getElem?.2 hparent) (OffendsAt.within ⟨_, _, h, hblamed⟩)
  · rintro ⟨hitem, h⟩
    have hfield := List.mem_zipIdx_iff_getElem?.1 hitem
    cases h with
    | own h => exact ⟨_, _, .top hfield, by rwa [← dotted_joinPath, dotted_singleton]⟩
    | within h =>
      obtain ⟨names, field, hplaced, hblamed⟩ := h
      exact ⟨_, _, .child hfield hplaced, by rwa [← dotted_joinPath]⟩

/-! ### The check -/

/-- A definition that is blamed comes before all that stands below it. -/
lemma reports_own (h : Blamed field (joinPath parent field.name) fault) :
    Reports (· < ·) (OffendsAt parent field) (.error fault : Except Fault Unit) := by
  refine .root (.own h) fun fault' hfault' => ?_
  cases hfault' with
  | own h' => exact Option.some.inj ((blamed_iff.1 h').symm.trans (blamed_iff.1 h))
  | within h' => exact absurd rfl h'.ne_nil

/-- The faults of a fit definition are those of the forest below it. -/
lemma Fit.offendsAt_iff (h : Fit field) :
    OffendsAt parent field position fault ↔
      Offends (joinPath parent field.name) field.fields position fault := by
  refine ⟨?_, .within⟩
  rintro (hblamed | hwithin)
  · cases ((fit_iff _).1 h).symm.trans (blamed_iff.1 hblamed)
  · exact hwithin

-- By induction on the forest, for every path that it may stand below and every number that its
-- positions may start from.
mutual

lemma reports_checkField : ∀ (parent : String) (field : FieldDef),
    Reports (· < ·) (OffendsAt parent field) (checkField parent field)
  | parent, ⟨name, type, fields⟩ => by
    rw [checkField]
    cases hown : ownFault? type fields (joinPath parent name) with
    | some fault => exact reports_own (blamed_iff.2 hown)
    | none =>
      have hfit : Fit ⟨name, type, fields⟩ := (fit_iff _).2 hown
      refine (reports_checkFields (joinPath parent name) fields 0).congr fun position fault => ?_
      rw [hfit.offendsAt_iff, offends_iff]

lemma reports_checkFields : ∀ (parent : String) (fields : List FieldDef) (start : Nat),
    Reports (· < ·) (InItems Prod.snd (fun item => OffendsAt parent item.1) (fields.zipIdx start))
      (checkFields parent fields)
  | _, [], _ => .nil ()
  | parent, field :: rest, start => by
    have hbind : checkFields parent (field :: rest) =
        checkField parent field >>= fun _ => checkFields parent rest := by
      rw [checkFields]
      cases checkField parent field <;> rfl
    rw [hbind, List.zipIdx_cons]
    refine .cons (reports_checkField parent field)
      (fun _ _ => reports_checkFields parent rest (start + 1)) fun item hitem => ?_
    exact List.le_snd_of_mem_zipIdx hitem

end

lemma reports_validate (schema : Schema) :
    Reports (· < ·) (Offends "" schema.fields) schema.validate :=
  (reports_checkFields "" schema.fields 0).congr fun _ _ => offends_iff.symm

/-! ### Schemas in texts -/

/-- A text spells a forest of definitions, whether they are fit or not. -/
def Parses (text : String) (schema : Schema) : Prop :=
  (Yaml.Node.ofText? text).bind ofNode? = some schema

lemma schemaOfText_of_parses {text : String} {schema : Schema} (h : Parses text schema) :
    Configuration.schemaOfText text =
      (schema.validate.mapError .invalidSchema).map fun _ => schema := by
  obtain ⟨node, htext, hnode⟩ := Option.bind_eq_some_iff.1 h
  simp only [Configuration.schemaOfText, ofText, htext, ofNode, hnode]
  cases schema.validate <;> rfl

lemma all_fit_iff {schema : Schema} :
    (∀ position names field, Placed schema.fields position names field → Fit field) ↔
      ∀ position fault, ¬ Offends "" schema.fields position fault := by
  constructor
  · rintro h position fault ⟨names, field, hplaced, hblamed⟩
    cases ((fit_iff _).1 (h position names field hplaced)).symm.trans (blamed_iff.1 hblamed)
  · intro h position names field hplaced
    have hnone : ownFault? field.type field.fields (dotted ("" :: names)) = none :=
      Option.eq_none_iff_forall_ne_some.2 fun fault hfault =>
        h position fault ⟨names, field, hplaced, blamed_iff.2 hfault⟩
    exact (fit_iff _).2 hnone

/-- **Schemas are checked at every depth**: a text of definitions is accepted, as what it spells,
exactly if all of them are fit. Otherwise it is refused with the fault of the first unfit definition
in preorder, under its dotted path. -/
theorem schemaOfText_checks {text : String} {schema : Schema} (h : Parses text schema) :
    (∀ accepted, Configuration.schemaOfText text = .ok accepted ↔ accepted = schema ∧
      ∀ position names field, Placed schema.fields position names field → Fit field) ∧
    ∀ e, Configuration.schemaOfText text = .error e ↔ ∃ position fault,
      IsFirst (· < ·) (Offends "" schema.fields) position fault ∧ e = .invalidSchema fault := by
  have hreports := reports_validate schema
  rw [schemaOfText_of_parses h, all_fit_iff, ← hreports.ok_iff]
  constructor
  · intro accepted
    simp only [map_ok_iff, mapError_ok_iff, exists_and_right]
    exact and_comm.trans (and_congr_left' eq_comm)
  · intro e
    simp only [map_error_iff, mapError_error_iff, hreports.error_iff]
    constructor
    · rintro ⟨fault, ⟨position, hfirst⟩, rfl⟩
      exact ⟨position, fault, hfirst, rfl⟩
    · rintro ⟨position, fault, hfirst, rfl⟩
      exact ⟨fault, ⟨position, hfirst⟩, rfl⟩

/-! ### A text with three unfit definitions -/

def unfitText : String :=
  "fields:\n- name: x\n  type: string\n- name: \"\"\n  type: object\n  fields:\n" ++
    "  - name: y\n    type: uuid\n    fields:\n    - name: z\n      type: nested\n" ++
      "- name: w\n  type: object\n"

def unfitSchema : Schema :=
  ⟨[⟨"x", .scalar .string, []⟩,
    ⟨"", .object, [⟨"y", .scalar .uuid, [⟨"z", .nested, []⟩]⟩]⟩, ⟨"w", .object, []⟩]⟩

section

open Yaml (Token)
open HostFacets.Filter (entryTokens fieldsTokens definitionTokens)

def unfitTokens : List Token :=
  let z := definitionTokens "z" "nested" []
  let y := definitionTokens "y" "uuid" (fieldsTokens z)
  [.beginEntries] ++ fieldsTokens (definitionTokens "x" "string" [] ++
    ([.dash, .beginEntries, .key, .scalar .plain "name", .colon, .scalar .quoted ""] ++
      entryTokens "type" "object" ++ fieldsTokens y ++ [.endBlock]) ++
    definitionTokens "w" "object" []) ++ [.endBlock]

lemma parses_unfitText : Parses unfitText unfitSchema := by
  have htokens : Token.ofText? unfitText = some unfitTokens := by decide +kernel
  rw [Parses, Yaml.Node.ofText?, htokens]
  conv_lhs => cbv
  rfl

end

/-- The first of three unfit definitions is a scalar below an empty name. -/
theorem schemaOfText_checks_unfit :
    Parses unfitText unfitSchema ∧
      Configuration.schemaOfText unfitText = .error (.invalidSchema (.scalarWithChildren "y")) ∧
      ∃ position fault, IsFirst (· < ·) (Offends "" unfitSchema.fields) position fault ∧
        Configuration.Error.invalidSchema (.scalarWithChildren "y") = .invalidSchema fault := by
  have herror : Configuration.schemaOfText unfitText =
      .error (.invalidSchema (.scalarWithChildren "y")) := by
    rw [schemaOfText_of_parses parses_unfitText]
    rfl
  exact ⟨parses_unfitText, herror, ((schemaOfText_checks parses_unfitText).2 _).1 herror⟩

end HostFacets.Schema
