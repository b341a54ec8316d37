import AccessPolicy.Document.OfJson
import AccessPolicy.Document.OfYaml

/-!
# Loading engines

An engine is loaded from a text in one of two formats: the text is read as a document, and the
document is turned into an engine.
-/

namespace AccessPolicy

/-- The formats of documents. -/
inductive Format where
  | json
  | yaml
deriving DecidableEq, Repr

/-- Why a text is not a document. -/
inductive Unreadable where
  | json (fault : Json.Fault)
  | yaml

/-- Why no engine can be loaded. -/
inductive LoadError where
  /-- The text is not a document. -/
  | unreadable (cause : Unreadable)
  /-- The document is refused. -/
  | refused (error : Error)

/-- Reads a document. -/
def Document.ofText (format : Format) (text : String) : Except Unreadable Document :=
  match format with
  | .json => (Document.ofJsonText text).mapError .json
  | .yaml => match Document.ofYamlText text with
    | some document => .ok document
    | none => .error .yaml

/-- Loads an engine. -/
def Engine.load (format : Format) (text : String) : Except LoadError Engine := do
  let document ← (Document.ofText format text).mapError .unreadable
  document.compile.mapError .refused

end AccessPolicy
