import HostFacets.Binary64

/-!
JSON values. An object is a list of members; every object that is read or rendered here has its
members in increasing order of their names, each name once.
-/

namespace HostFacets

inductive Json where
  | null
  | bool (value : Bool)
  | int (value : Int)
  | float (value : Binary64)
  | str (value : String)
  | arr (items : List Json)
  | obj (members : List (String × Json))
deriving Repr, Inhabited

namespace Json

abbrev Members := List (String × Json)

/-- Adds a member at its place in the order, replacing one of the same name. -/
def Members.insert (name : String) (value : Json) : Members → Members
  | [] => [(name, value)]
  | (other, old) :: rest =>
    if name < other then (name, value) :: (other, old) :: rest
    else if name = other then (name, value) :: rest
    else (other, old) :: insert name value rest

/-- The members in order; of several with one name the last counts. -/
def Members.ofList (entries : List (String × Json)) : Members :=
  entries.foldl (fun members entry => members.insert entry.1 entry.2) []

/-- Member names strictly increase. -/
def Members.Ordered (members : Members) : Prop :=
  (members.map Prod.fst).Pairwise (· < ·)

def Members.get? (members : Members) (name : String) : Option Json :=
  members.lookup name

def get? (value : Json) (name : String) : Option Json :=
  match value with
  | .obj members => Members.get? members name
  | _ => none

/-- Integers of 64 bits, signed or not, are kept as integers; all other numbers are floats. -/
def isInt64 (n : Int) : Bool := Int64.minValue.toInt ≤ n && n ≤ Int64.maxValue.toInt

def isNat64 (n : Int) : Bool := 0 ≤ n && n < UInt64.size

/-! ### The order of members -/

namespace Members

/-- Adding a member adds its name and no other. -/
theorem fst_insert (name : String) (value : Json) (members : Members) (x : String)
    (h : x ∈ (members.insert name value).map Prod.fst) : x = name ∨ x ∈ members.map Prod.fst := by
  induction members with
  | nil => simpa [insert] using h
  | cons entry rest ih =>
    obtain ⟨other, old⟩ := entry
    simp only [insert] at h
    split at h
    · simpa using h
    · split at h
      · simp at h ⊢; rcases h with h | h <;> simp [h]
      · simp at h ⊢
        rcases h with h | h
        · simp [h]
        · have := ih (by simpa using h)
          simp at this
          rcases this with h | h <;> simp [h]

theorem Ordered.insert {members : Members} (h : members.Ordered) (name : String) (value : Json) :
    (members.insert name value).Ordered := by
  induction members with
  | nil => simp [Members.insert, Ordered]
  | cons entry rest ih =>
    obtain ⟨other, old⟩ := entry
    have hrest : Ordered rest := (List.pairwise_cons.1 h).2
    have hother := (List.pairwise_cons.1 h).1
    simp only [Members.insert]
    split
    · next hlt =>
      refine List.pairwise_cons.2 ⟨fun x hx => ?_, h⟩
      rcases List.mem_cons.1 hx with rfl | hx
      · exact hlt
      · exact String.lt_trans hlt (hother x hx)
    · split
      · next heq => subst heq; exact h
      · next hle hne =>
        refine List.pairwise_cons.2 ⟨fun x hx => ?_, ih hrest⟩
        rcases fst_insert name value rest x hx with rfl | hx
        · exact Std.lt_of_le_of_ne hle fun e => hne e.symm
        · exact hother x hx

theorem ordered_ofList (entries : List (String × Json)) : Ordered (ofList entries) := by
  suffices h : ∀ (members : Members), Ordered members →
      Ordered (entries.foldl (fun m e => insert e.1 e.2 m) members) from h [] List.Pairwise.nil
  induction entries with
  | nil => exact fun _ h => h
  | cons entry rest ih => exact fun members h => ih _ (h.insert _ _)

end Members

end Json

end HostFacets
