import HostFacets.Constraint
import HostFacets.Filter.Value

/-!
Operators on fields.

Each operator sets one condition on its field. The bounds among the conditions are gathered into
one range, which follows the other constraints.
-/

namespace HostFacets.Filter

inductive Side where
  | gt | gte | lt | lte
deriving DecidableEq, Repr

namespace Side

def ofName? : String → Option Side
  | "gt" => some .gt
  | "gte" => some .gte
  | "lt" => some .lt
  | "lte" => some .lte
  | _ => none

def set (side : Side) (value : Json) (bounds : Bounds) : Bounds :=
  match side with
  | .gt => { bounds with gt := some value }
  | .gte => { bounds with gte := some value }
  | .lt => { bounds with lt := some value }
  | .lte => { bounds with lte := some value }

end Side

/-- What one operator says of its field. -/
inductive Condition where
  | missing
  | term (value : Json)
  | wildcard (pattern : String) (caseInsensitive : Bool)
  | bound (side : Side) (value : Json)
deriving DecidableEq, Repr

inductive OperatorFault where
  | unsupported (operator : String)
  | invalid (fault : ValueFault)
deriving DecidableEq, Repr

/-- Values of these types have bounds. -/
def isOrdered : FieldType → Bool
  | .scalar .integer | .scalar .float | .scalar .timestamp => true
  | .scalar .string | .scalar .boolean | .scalar .uuid | .object | .nested => false

def typed (type : FieldType) (value : Json) : Except OperatorFault Json :=
  (typedValue type value).mapError .invalid

/-- The condition that an operator with its value sets on a field of this type. -/
def Condition.ofOperator (type : FieldType) (operator : String) (value : Json) :
    Except OperatorFault Condition :=
  match operator with
  | "is" =>
    match value with
    | .null => .ok .missing
    | value =>
      if type = .scalar .boolean then (typed type value).map .term
      else .error (.invalid .onlyNull)
  | "eq" => (typed type value).map .term
  | "matches" => wildcard false
  | "matches_lc" => wildcard true
  | operator =>
    match Side.ofName? operator with
    | some side =>
      if isOrdered type then (typed type value).map (.bound side)
      else .error (.unsupported operator)
    | none => .error (.unsupported operator)
where
  wildcard (caseInsensitive : Bool) : Except OperatorFault Condition :=
    if type = .scalar .string then
      match value with
      | .str pattern => .ok (.wildcard pattern caseInsensitive)
      | value => .error (.invalid (.noPattern value))
    else .error (.unsupported operator)

/-- The constraint of a condition that is no bound. -/
def Condition.constraint? (field : String) : Condition → Option Constraint
  | .missing => some (.missing field)
  | .term value => some (.term field value)
  | .wildcard pattern caseInsensitive => some (.wildcard field pattern caseInsensitive)
  | .bound _ _ => none

def Condition.addBound (bounds : Bounds) : Condition → Bounds
  | .bound side value => side.set value bounds
  | .missing | .term _ | .wildcard _ _ => bounds

/-- The constraints of the conditions on one field. -/
def constraints (field : String) (conditions : List Condition) : List Constraint :=
  let bounds := conditions.foldl Condition.addBound .empty
  conditions.filterMap (Condition.constraint? field) ++
    (if bounds.isEmpty then [] else [.range field bounds])

end HostFacets.Filter
