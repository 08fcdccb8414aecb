import HostFacets.Text.Digit
import HostFacets.Text.Quoted

/-!
The settings of the service, and their overrides from the environment.

`overlay` replaces the settings that variables are set for, so that secrets can stay out of files.
An empty variable counts as set. Only the port can be refused.
-/

namespace HostFacets

/-- How the search engine is reached. -/
structure EngineSettings where
  url : String
  username : String := ""
  password : String := ""
  index : String
  timeoutSecs : Nat := 30
deriving DecidableEq, Repr

structure Settings where
  port : Nat := 4000
  logLevel : String := "info"
  schemaPath : String := "config/host_schema.yaml"
  engine : EngineSettings
deriving DecidableEq, Repr

/-- A user and a password, only where both are set. -/
def EngineSettings.credentials? (e : EngineSettings) : Option (String × String) :=
  if e.username.isEmpty || e.password.isEmpty then none else some (e.username, e.password)

namespace Settings

/-- Ports lie below this bound. -/
def portBound : Nat := 65536

inductive Fault where
  | invalidPort (text : String)
deriving DecidableEq, Repr

def Fault.message : Fault → String
  | .invalidPort text => "PORT must be a port number, got " ++ Text.quoted text

/-- A port number: decimal digits, perhaps after a plus sign. -/
def port? (text : String) : Option Nat :=
  let digits := match text.toList with
    | '+' :: rest => rest
    | cs => cs
  (Text.natOfDigits? 10 digits).filter (· < portBound)

def portOverride (lookup : String → Option String) (old : Nat) : Except Fault Nat :=
  match lookup "PORT" with
  | none => .ok old
  | some text =>
    match port? text with
    | some port => .ok port
    | none => .error (.invalidPort text)

def overlay (s : Settings) (lookup : String → Option String) : Except Fault Settings := do
  let port ← portOverride lookup s.port
  return { s with
    port
    logLevel := (lookup "LOG_LEVEL").getD s.logLevel
    engine := { s.engine with
      url := (lookup "ELASTICSEARCH_URL").getD s.engine.url
      username := (lookup "ELASTICSEARCH_USERNAME").getD s.engine.username
      password := (lookup "ELASTICSEARCH_PASSWORD").getD s.engine.password
      index := (lookup "ELASTICSEARCH_INDEX").getD s.engine.index } }

end Settings

end HostFacets
