import HostFacets.Facet
import HostFacets.Text.Quoted

/-!
Why a facet cannot be listed.

Faults of the arguments are found before any request is sent. The others come from what the engine
answered.
-/

namespace HostFacets.Facet

inductive ArgumentFault where
  | window (fault : Window.Fault)
  | order (fault : Order.Fault)
  | filter (error : Filter.Error)
deriving DecidableEq, Repr

inductive Error where
  | invalidArgument (fault : ArgumentFault)
  | malformedKey (key : UncutKey)
  /-- The engine refused the page, although it begins within the matching hosts. -/
  | windowExceeded (offset hits : Nat) (cause : Search.Error)
  | backend (cause : Search.Error)
deriving DecidableEq, Repr

def ArgumentFault.message (reasons : Filter.Reasons) : ArgumentFault → String
  | .window fault => fault.message
  | .order fault => fault.message
  | .filter error => error.message reasons

namespace Error

def message (reasons : Filter.Reasons) : Error → String
  | .invalidArgument fault => "invalid argument: " ++ fault.message reasons
  | .malformedKey key =>
    "malformed bucket key: cannot split " ++ Text.quoted key.text ++ " using '" ++
      String.singleton key.delimiter ++ "'"
  | .windowExceeded offset hits _ =>
    s!"request window exceeded: offset {offset} is within {hits} matching hosts"
  | .backend cause => "search backend error: " ++ cause.message

/-- The HTTP status of an answer with this error. -/
def status : Error → Nat
  | .invalidArgument _ => 400
  | .malformedKey _ => 500
  | .windowExceeded _ _ _ => 400
  | .backend _ => 502

/-- The engine's error behind this one. -/
def cause? : Error → Option Search.Error
  | .invalidArgument _ | .malformedKey _ => none
  | .windowExceeded _ _ cause | .backend cause => some cause

end Error

end HostFacets.Facet
