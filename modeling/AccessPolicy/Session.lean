import AccessPolicy.Document.Load

/-!
# Sessions

A session keeps an engine, which can be replaced at any time, and the call it is asked about. An
engine that cannot be loaded leaves the old one in place.
-/

namespace AccessPolicy

/-- The current engine, if one was loaded, and the current call. -/
structure Session where
  engine : Option Engine := none
  call : Call := {}

namespace Session

/-- The decision of the current engine on the current call. -/
def decision? (session : Session) : Option Decision :=
  session.engine.map fun engine => engine.evaluate session.call.request

/-- Loads an engine from JSON text. It takes the place of the current one if it can be loaded. -/
def load (session : Session) (text : String) : Session × Except LoadError Engine :=
  match Engine.load .json text with
  | .ok engine => ({ session with engine := some engine }, .ok engine)
  | .error e => (session, .error e)

/-- Changes the current call. -/
def modifyCall (session : Session) (f : Call → Call) : Session :=
  { session with call := f session.call }

end Session

end AccessPolicy
