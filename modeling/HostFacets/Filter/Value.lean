import HostFacets.Json.Equality
import HostFacets.Json.Printer
import HostFacets.Schema
import HostFacets.Text.Quoted
import HostFacets.Timestamp
import HostFacets.Uuid

/-!
Values in host filters, checked against the type of their field.

A checked value is in normal form: integers are numbers of any type's range, floats are floats,
UUIDs are spelled in the one canonical way, all else stays as it was written. Containers take no
values.

Why a text is no timestamp or no UUID is up to the libraries that read them: their words are given
by `Reasons`.
-/

namespace HostFacets.Filter

inductive ValueFault where
  | wrongType (expected : ScalarType) (got : Json)
  | noTimestamp (text : String)
  | noUuid (text : String)
  | noPattern (got : Json)
  | onlyNull
  | container
deriving DecidableEq, Repr

/-- What readers of timestamps and of UUIDs say of the texts that they refuse. -/
structure Reasons where
  noTimestamp : String → String
  noUuid : String → String

namespace ValueFault

/-- A value of the type, with its article. -/
def kind : ScalarType → String
  | .string => "a string"
  | .integer => "an integer"
  | .float => "a number"
  | .boolean => "a boolean"
  | .timestamp => "an RFC 3339 timestamp"
  | .uuid => "a UUID"

def message (reasons : Reasons) : ValueFault → String
  | .wrongType expected got => "expected " ++ kind expected ++ ", got " ++ got.print
  | .noTimestamp text =>
    Text.quoted text ++ " is not an RFC 3339 timestamp: " ++ reasons.noTimestamp text
  | .noUuid text => Text.quoted text ++ " is not a UUID: " ++ reasons.noUuid text
  | .noPattern got => "expected a pattern string, got " ++ got.print
  | .onlyNull => "'is' only accepts null for this field"
  | .container => "containers do not take scalar values"

end ValueFault

/-- The value of a field of this type in normal form. -/
def typedValue (type : FieldType) (value : Json) : Except ValueFault Json :=
  match type with
  | .scalar type =>
    match type, value with
    | .string, .str s => .ok (.str s)
    | .integer, .int n => if Json.isInt64 n then .ok (.int n) else .error (.wrongType type value)
    | .float, .int n => .ok (.float (Binary64.ofInt n))
    | .float, .float x => .ok (.float x)
    | .boolean, .bool b => .ok (.bool b)
    | .timestamp, .str s => if Timestamp.isValid s then .ok (.str s) else .error (.noTimestamp s)
    | .uuid, .str s =>
      match Uuid.ofString? s with
      | some id => .ok (.str id.hyphenated)
      | none => .error (.noUuid s)
    | type, value => .error (.wrongType type value)
  | .object | .nested => .error .container

end HostFacets.Filter
