import TypedClient.Target.Class
import TypedClient.Target.Fault
import TypedClient.Target.Imported

namespace TypedClient.Target

abbrev Shape := List (String × Bool)

def ModelState.shape (s : ModelState) : Shape := s.fields.map fun f => (f.sourceName, f.isRequired)

structure ModelLibrary where
  /-- Makes a model of a class, given what its body binds, and binds it. -/
  create : Imported → Class → List (String × Object) → Outcome Imported
  /-- Tries to complete a model, and tells why it cannot be. -/
  complete : Imported → Nat → ModelState → Imported × Option Fault
  /-- What a complete model says of itself as a document. -/
  describe : ModelState → Outcome Shape

end TypedClient.Target
