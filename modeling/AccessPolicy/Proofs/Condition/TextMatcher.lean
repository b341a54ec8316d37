import AccessPolicy.Condition.TextMatcher
import AccessPolicy.Proofs.Text.Fold

/-!
# Literals regardless of case

A test that ignores case keeps its literal in folded form and folds each text that it is given. This
module shows what such tests accept, told by the folded forms of literal and text alone. Since a
folded text is its own folded form, it makes no difference whether a literal is folded once more;
and since a text is folded part by part, a literal is found at the ends of a text as it would be
without folding.

Main results:

* `accepts_test_iff` — a test accepts a text where the literal, folded, lies in the folded text;
* `Comparison.Relates.fold` — folding keeps how a literal lies in a text;
* `caseless_laws` — the laws of the tests that ignore case.
-/

namespace AccessPolicy.TextMatcher

/-- The parts of a text that a literal can be compared with. -/
inductive Comparison where
  | whole
  | front
  | back

namespace Comparison

/-- The test that compares a part of a text with a literal. -/
def test : Comparison → String → Bool → TextMatcher
  | .whole => equalTo
  | .front => startingWith
  | .back => endingWith

/-- How a literal has to lie in a text. -/
def Relates : Comparison → List Char → List Char → Prop
  | .whole, value, text => value = text
  | .front, value, text => value <+: text
  | .back, value, text => value <:+ text

/-- Folding keeps how a literal lies in a text. -/
theorem Relates.fold {comparison : Comparison} {value text : List Char}
    (h : comparison.Relates value text) :
    comparison.Relates (Text.foldChars value) (Text.foldChars text) := by
  cases comparison with
  | whole =>
    obtain rfl : value = text := h
    rfl
  | front =>
    obtain ⟨rest, rfl⟩ : value <+: text := h
    show _ <+: _
    rw [Text.foldChars_append]
    exact List.prefix_append _ _
  | back =>
    obtain ⟨rest, rfl⟩ : value <:+ text := h
    show _ <:+ _
    rw [Text.foldChars_append]
    exact List.suffix_append _ _

end Comparison

/-- The literal that a test keeps. -/
def literal? : TextMatcher → Option String
  | .exact value _ => some value
  | .startsWith value _ => some value
  | .endsWith value _ => some value
  | .contains value => some value
  | .pattern _ => none

/-- A test accepts a text where the literal lies in it as asked for, both folded if case is ignored.
-/
theorem accepts_test_iff (comparison : Comparison) (value text : String) (ignoreCase : Bool) :
    (comparison.test value ignoreCase).accepts text = true ↔
      comparison.Relates (foldIf ignoreCase value).toList (foldIf ignoreCase text).toList := by
  cases comparison with
  | whole =>
    show (foldIf ignoreCase text == foldIf ignoreCase value) = true ↔ _ = _
    rw [beq_iff_eq, String.toList_inj, eq_comm]
  | front => exact List.isPrefixOf_iff_prefix
  | back => exact List.isSuffixOf_iff_suffix

theorem accepts_caseless_iff (comparison : Comparison) (value text : String) :
    (comparison.test value true).accepts text = true ↔
      comparison.Relates (Text.fold value).toList (Text.fold text).toList :=
  accepts_test_iff comparison value text true

/-- What a test accepts in its own case it accepts in any case. -/
theorem accepts_caseless {comparison : Comparison} {value text : String}
    (h : (comparison.test value false).accepts text = true) :
    (comparison.test value true).accepts text = true := by
  have hrelates : comparison.Relates value.toList text.toList :=
    (accepts_test_iff comparison value text false).mp h
  rw [accepts_caseless_iff, Text.toList_fold, Text.toList_fold]
  exact hrelates.fold

/-- A literal lies in every text that is made with it. -/
theorem accepts_caseless_of_relates (comparison : Comparison) {value text : String}
    (h : comparison.Relates value.toList text.toList) :
    (comparison.test value true).accepts text = true :=
  accepts_caseless ((accepts_test_iff comparison value text false).mpr h)

/-- A test can be built again from the literal it keeps. -/
theorem test_literal (comparison : Comparison) (value : String) :
    ∃ kept, (comparison.test value true).literal? = some kept ∧
      comparison.test kept true = comparison.test value true := by
  refine ⟨Text.fold value, ?_, ?_⟩
  · cases comparison <;> rfl
  · -- the literal is folded for a second time here
    have hfold : foldIf true (Text.fold value) = foldIf true value := Text.fold_fold value
    cases comparison with
    | whole => exact congrArg (TextMatcher.exact · true) hfold
    | front => exact congrArg (TextMatcher.startsWith · true) hfold
    | back => exact congrArg (TextMatcher.endsWith · true) hfold

/-- The laws of the tests that ignore case, for a literal, a text and anything that may stand beside
the literal. -/
structure CaselessLaws (value text other : String) : Prop where
  /-- Each character is put in lower case on its own, and a final sigma becomes a plain one. -/
  toList_fold : (Text.fold text).toList =
    text.toList.flatMap fun c => (Unicode.lower c).map Text.plainSigma
  equalTo_iff : (equalTo value true).accepts text = true ↔ Text.fold value = Text.fold text
  startingWith_iff : (startingWith value true).accepts text = true ↔
    (Text.fold value).toList <+: (Text.fold text).toList
  endingWith_iff : (endingWith value true).accepts text = true ↔
    (Text.fold value).toList <:+ (Text.fold text).toList
  /-- Literal and text can change places. -/
  symm : (equalTo value true).accepts text = (equalTo text true).accepts value
  /-- Nothing but the folded forms counts. -/
  congr : ∀ (comparison : Comparison) (value' text' : String),
    Text.fold value' = Text.fold value → Text.fold text' = Text.fold text →
      (comparison.test value' true).accepts text' = (comparison.test value true).accepts text
  itself : (equalTo value true).accepts value = true
  front : (startingWith value true).accepts (value ++ other) = true
  back : (endingWith value true).accepts (other ++ value) = true
  /-- A test that ignores case accepts no less than its twin. -/
  widens : ∀ comparison : Comparison, (comparison.test value false).accepts text = true →
    (comparison.test value true).accepts text = true
  fold_fold : Text.fold (Text.fold text) = Text.fold text
  /-- A test built from the literal that it keeps is the same test. -/
  rebuilt : ∀ comparison : Comparison,
    ∃ kept, (comparison.test value true).literal? = some kept ∧
      comparison.test kept true = comparison.test value true

/-- All literals keep to the laws. -/
theorem caseless_laws (value text other : String) : CaselessLaws value text other where
  toList_fold := by
    rw [Text.toList_fold, Text.foldChars, List.map_flatMap]
  equalTo_iff := by
    rw [← String.toList_inj]
    exact accepts_caseless_iff .whole value text
  startingWith_iff := accepts_caseless_iff .front value text
  endingWith_iff := accepts_caseless_iff .back value text
  symm := by
    rw [Bool.eq_iff_iff]
    -- equality of the folded forms can be read from either side
    have hvalue := accepts_caseless_iff .whole value text
    have htext := accepts_caseless_iff .whole text value
    exact hvalue.trans (eq_comm.trans htext.symm)
  congr := by
    intro comparison value' text' hvalue htext
    rw [Bool.eq_iff_iff, accepts_caseless_iff, accepts_caseless_iff, hvalue, htext]
  itself := accepts_caseless_of_relates .whole rfl
  front := by
    apply accepts_caseless_of_relates .front
    show _ <+: _
    rw [String.toList_append]
    exact List.prefix_append _ _
  back := by
    apply accepts_caseless_of_relates .back
    show _ <:+ _
    rw [String.toList_append]
    exact List.suffix_append _ _
  widens := fun _ => accepts_caseless
  fold_fold := Text.fold_fold text
  rebuilt := fun comparison => test_literal comparison value

/-- A sigma may stand at the end of a word or not. -/
example : (equalTo "ΟΔΟΣ" true).accepts "οδος" = true ∧
    (equalTo "οδος" true).accepts "ΟΔΟΣ" = true := by
  decide +kernel

end AccessPolicy.TextMatcher
