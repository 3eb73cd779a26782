import TypedClient.Conformance
import TypedClient.Target.Imported.Creation
import TypedClient.Verify

/-!
What the program does not do itself but leaves to the language and to libraries.
-/

namespace TypedClient

open Target

structure Platform where
  /-- Whether a hole of a formatted text may hold a backslash, as from version 3.12 on. -/
  holdsBackslash : Bool
  conforms : Value → Bool
  models : ModelLibrary
  /-- What the verification of a module comes to in which a name is code. -/
  runCode : Module → Path → Nat → Options → Spec → Except VerifyError Report

namespace Platform

/-- The libraries, told from documents and syntax. Code is not run here: a name that is code is
taken for one that cannot be read. -/
def standard : Platform where
  holdsBackslash := true
  conforms := Value.conforms
  models := .standard
  runCode := Module.examine .standard

end Platform

/-- Imports a module from a file and checks it against a document; `number` counts imports. -/
def Target.Module.verify (platform : Platform) (m : Module) (path : Path) (number : Nat)
    (options : Options) (spec : Spec) : Except VerifyError Report :=
  if !path.hasSuffix ".py" then .error (.unimportable path)
  else if m.hasCode then platform.runCode m path number options spec
  else m.examine platform.models path number options spec

end TypedClient
