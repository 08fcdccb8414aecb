import HostFacets.FileTree
import HostFacets.Schema.Document
import HostFacets.Settings.Document

/-!
Loading settings and schemas from files and from texts. What the service does with them at its start
(logging, the search client, the port that it listens on) is left out.
-/

namespace HostFacets.Configuration

inductive Error where
  | unreadFile (path : String) (fault : FileTree.Fault)
  /-- The text is not YAML, or has another shape than is asked for. -/
  | unreadable (text : String)
  | invalidPort (fault : Settings.Fault)
  | invalidSchema (fault : Schema.Fault)
deriving DecidableEq, Repr

/-- The message of an error; `reason` is what the YAML reader says of the texts that it refuses. -/
def Error.message (reason : String → String) : Error → String
  | .unreadFile path fault => s!"failed to read {path}: {fault.message}"
  | .unreadable text => "failed to parse configuration: " ++ reason text
  | .invalidPort fault => "invalid configuration: " ++ fault.message
  | .invalidSchema fault => "invalid configuration: " ++ fault.message

/-- The variables that are set. -/
abbrev Environment := String → Option String

def readFile (files : FileTree) (path : String) : Except Error String :=
  (files.read path).mapError (.unreadFile path)

def settingsOfText (environment : Environment) (text : String) : Except Error Settings :=
  match Settings.ofText? text with
  | none => .error (.unreadable text)
  | some settings => (settings.overlay environment).mapError .invalidPort

def loadSettings (files : FileTree) (environment : Environment) (path : String) :
    Except Error Settings := do
  settingsOfText environment (← readFile files path)

def schemaOfText (text : String) : Except Error Schema :=
  match Schema.ofText text with
  | .ok schema => .ok schema
  | .error .unreadable => .error (.unreadable text)
  | .error (.invalid fault) => .error (.invalidSchema fault)

def loadSchema (files : FileTree) (path : String) : Except Error Schema := do
  schemaOfText (← readFile files path)

end HostFacets.Configuration
