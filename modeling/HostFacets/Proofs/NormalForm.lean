import HostFacets.Filter.Value
import HostFacets.Proofs.DraftValue
import HostFacets.Proofs.UuidSpelling

/-!
The normal forms of values in host filters.

`NormalForm` has one rule for each kind of value that passes the check against a scalar type, and
says what comes out. A normal form is its own normal form.
-/

namespace HostFacets.Filter

/-- The normal form of a value of a scalar type. Only whole numbers in the place of floats and
spellings of UUIDs change. -/
inductive NormalForm : ScalarType → Json → Json → Prop where
  | string (s : String) : NormalForm .string (.str s) (.str s)
  | integer {n : Int} (hmin : -2 ^ 63 ≤ n) (hmax : n < 2 ^ 63) :
    NormalForm .integer (.int n) (.int n)
  | whole (n : Int) : NormalForm .float (.int n) (.float (Binary64.ofInt n))
  | float (x : Binary64) : NormalForm .float (.float x) (.float x)
  | boolean (b : Bool) : NormalForm .boolean (.bool b) (.bool b)
  | timestamp {s : String} (h : Timestamp.isValid s) : NormalForm .timestamp (.str s) (.str s)
  | uuid {s : String} {id : Uuid} (h : Uuid.ofString? s = some id)
    (hform : Uuid.IsHyphenated id.hyphenated) : NormalForm .uuid (.str s) (.str id.hyphenated)

lemma normalForm_of_typedValue {type : ScalarType} {given v : Json}
    (h : typedValue (.scalar type) given = .ok v) : NormalForm type given v := by
  simp only [typedValue] at h
  split at h
  · cases h
    exact .string _
  · split at h
    · next hn =>
      cases h
      exact .integer (Json.isInt64_iff.1 hn).1 (Json.isInt64_iff.1 hn).2
    · cases h
  · cases h
    exact .whole _
  · cases h
    exact .float _
  · cases h
    exact .boolean _
  · split at h
    · next hs =>
      cases h
      exact .timestamp hs
    · cases h
  · split at h
    · next id hid =>
      cases h
      exact .uuid hid id.isHyphenated_hyphenated
    · cases h
  · cases h

lemma typedValue_of_normalForm {type : ScalarType} {given v : Json}
    (h : NormalForm type given v) : typedValue (.scalar type) given = .ok v := by
  cases h with
  | string s => rfl
  | integer hmin hmax => exact if_pos (Json.isInt64_iff.2 ⟨hmin, hmax⟩)
  | whole n => rfl
  | float x => rfl
  | boolean b => rfl
  | timestamp hs => exact if_pos hs
  | uuid hid _ => simp only [typedValue, hid]

/-- **Values**: a value passes the check exactly if it has a normal form, which is what comes out. -/
theorem typedValue_ok_iff {type : ScalarType} {given v : Json} :
    typedValue (.scalar type) given = .ok v ↔ NormalForm type given v :=
  ⟨normalForm_of_typedValue, typedValue_of_normalForm⟩

lemma NormalForm.fixed {type : ScalarType} {given v : Json} (h : NormalForm type given v) :
    NormalForm type v v := by
  cases h with
  | string s => exact .string s
  | integer hmin hmax => exact .integer hmin hmax
  | whole n => exact .float _
  | float x => exact .float x
  | boolean b => exact .boolean b
  | timestamp hs => exact .timestamp hs
  | @uuid _ id _ hform => exact .uuid id.ofString?_hyphenated hform

end HostFacets.Filter
