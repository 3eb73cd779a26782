import TypedClient.Document.Value
import TypedClient.Text.Digits
import TypedClient.Text.Split

namespace TypedClient

inductive VersionError
  | missing
  | unreadable (version : String)
  | unsupported (version : String)
  deriving DecidableEq

def VersionError.message : VersionError → String
  | .missing => "Missing or invalid 'openapi' version field"
  | .unreadable version => "Unable to parse OpenAPI version: " ++ version
  | .unsupported version => s!"Unsupported OpenAPI version {version}; only v3+ is supported"

namespace Version

def declared (document : Value) : Except VersionError String :=
  match (document.get? "openapi").bind Value.text? with
  | none => .error .missing
  | some version => if Text.isBlankText version then .error .missing else .ok (Text.strip version)

def major (version : String) : String := (Text.split '.' version).headD ""

def ensureSupported (version : String) : Except VersionError Unit :=
  match Text.readInt (major version) with
  | none => .error (.unreadable version)
  | some n => if n < 3 then .error (.unsupported version) else .ok ()

def supported (document : Value) : Except VersionError String := do
  let version ← declared document
  ensureSupported version
  return version

end Version

end TypedClient
