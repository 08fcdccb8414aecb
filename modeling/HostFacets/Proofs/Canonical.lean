import HostFacets.Facet.Arguments
import HostFacets.Proofs.DraftValue

/-!
Canonical JSON values: every object in them has its members in increasing order, each name once.

All values that are read from a text are canonical, whatever the order and the repetitions in which
their members are written.
-/

namespace HostFacets

namespace Json

mutual

def Canonical : Json → Prop
  | .arr items => ItemsCanonical items
  | .obj members => Members.Ordered members ∧ MembersCanonical members
  | .null | .bool _ | .int _ | .float _ | .str _ => True

def ItemsCanonical : List Json → Prop
  | [] => True
  | item :: rest => item.Canonical ∧ ItemsCanonical rest

def MembersCanonical : List (String × Json) → Prop
  | [] => True
  | (_, value) :: rest => value.Canonical ∧ MembersCanonical rest

end

instance (members : Members) : Decidable members.Ordered :=
  inferInstanceAs (Decidable ((members.map Prod.fst).Pairwise (· < ·)))

mutual

def decCanonical : (value : Json) → Decidable value.Canonical
  | .arr items => decItemsCanonical items
  | .obj members => @instDecidableAnd _ _ inferInstance (decMembersCanonical members)
  | .null | .bool _ | .int _ | .float _ | .str _ => isTrue trivial

def decItemsCanonical : (items : List Json) → Decidable (ItemsCanonical items)
  | [] => isTrue trivial
  | item :: rest => @instDecidableAnd _ _ (decCanonical item) (decItemsCanonical rest)

def decMembersCanonical : (members : List (String × Json)) → Decidable (MembersCanonical members)
  | [] => isTrue trivial
  | (_, value) :: rest => @instDecidableAnd _ _ (decCanonical value) (decMembersCanonical rest)

end

instance (value : Json) : Decidable value.Canonical := decCanonical value

lemma Members.Ordered.nodup {members : Members} (h : members.Ordered) :
    (members.map Prod.fst).Nodup := by
  refine List.Pairwise.imp ?_ h
  rintro name other hlt rfl
  exact String.lt_irrefl name hlt

/-! ### Building objects -/

lemma MembersCanonical.insert {members : Members} {value : Json} (hm : MembersCanonical members)
    (hv : value.Canonical) (name : String) : MembersCanonical (members.insert name value) := by
  induction members with
  | nil => exact ⟨hv, trivial⟩
  | cons entry rest ih =>
    obtain ⟨other, old⟩ := entry
    obtain ⟨hold, hrest⟩ := hm
    simp only [Members.insert]
    split
    · exact ⟨hv, hold, hrest⟩
    · split
      · exact ⟨hv, hrest⟩
      · exact ⟨hold, ih hrest⟩

lemma membersCanonical_ofList {entries : List (String × Json)} (h : MembersCanonical entries) :
    MembersCanonical (Members.ofList entries) := by
  suffices hs : ∀ members : Members, MembersCanonical members →
      MembersCanonical (entries.foldl (fun m e => Members.insert e.1 e.2 m) members) from
    hs [] trivial
  induction entries with
  | nil => exact fun _ hm => hm
  | cons entry rest ih =>
    obtain ⟨hv, hrest⟩ := h
    exact fun members hm => ih hrest _ (hm.insert hv entry.1)

lemma canonical_obj_ofList {entries : List (String × Json)} (h : MembersCanonical entries) :
    (Json.obj (Members.ofList entries)).Canonical :=
  ⟨Members.ordered_ofList entries, membersCanonical_ofList h⟩

/-! ### Reading -/

-- By induction on the draft, following what it spells.
mutual

lemma canonical_of_value? : ∀ {draft : Draft} {depth : Nat} {value : Json},
    draft.value? depth = some value → value.Canonical
  | .null, _, _, h | .bool _, _, _, h | .number _, _, _, h | .string _, _, _, h => by
    cases Draft.spells_of_value? h <;> trivial
  | .array _ _, _, _, h => by
    cases Draft.spells_of_value? h with
    | array hitems => exact itemsCanonical_of_forall₂ hitems
  | .object _ _, _, _, h => by
    cases Draft.spells_of_value? h with
    | object hentries => exact canonical_obj_ofList (membersCanonical_of_entriesSpelled hentries)
  | .broken, _, _, h => by cases h

lemma itemsCanonical_of_forall₂ : ∀ {drafts : List Draft} {depth : Nat} {values : List Json},
    List.Forall₂ (fun d v => d.value? depth = some v) drafts values → ItemsCanonical values
  | [], _, _, h => by
    cases h
    trivial
  | _ :: _, _, _, h => by
    cases h with
    | cons hd hrest => exact ⟨canonical_of_value? hd, itemsCanonical_of_forall₂ hrest⟩

lemma membersCanonical_of_entriesSpelled : ∀ {members : List (Spelling × Draft)} {depth : Nat}
    {entries : List (String × Json)}, EntriesSpelled depth members entries →
    MembersCanonical entries
  | [], _, _, h => by
    cases h
    trivial
  | _ :: _, _, _, h => by
    cases h with
    | cons hd hrest =>
      exact ⟨canonical_of_value? hd.2, membersCanonical_of_entriesSpelled hrest⟩

end

lemma canonical_of_members {depth : Nat} {draft : Draft} {members : Members}
    (h : Reader.members depth draft = .ok members) : (Json.obj members).Canonical := by
  unfold Reader.members at h
  split at h
  · split at h
    · next hv =>
      cases h
      exact canonical_of_value? hv
    · cases h
  · cases h

end Json

/-- **Filters are canonical**: whatever the text of the arguments. -/
theorem Facet.canonical_of_hostFilter {depth : Nat} {draft : Json.Draft} {filter : Filter}
    (h : Facet.hostFilter depth draft = .ok filter) : (Json.obj filter.members).Canonical := by
  obtain ⟨members, hm, rfl⟩ := map_ok_iff.1 h
  exact Json.canonical_of_members hm

end HostFacets
