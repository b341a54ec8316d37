import AccessPolicy.Condition.Trace
import AccessPolicy.Proofs.NetworkText
import AccessPolicy.Proofs.Text.Quoted

/-!
# Descriptions of tests can be told apart

A trace tells of a test of an attribute by a description. This module shows that the description
says everything about the test: whoever reads the same description twice has met the same test, and
so the same texts pass. A description of a test of a text starts with a name and ends with the flag,
with a literal in quotes between them, which is taken out whatever it holds; a description of a
network has no quotes.

Main results:

* `TextMatcher.toList_description` — the three parts of the description of a test of a text;
* `TextMatcher.description_injective`, `ValueMatcher.description_injective` — tests are told apart
  by their descriptions;
* `Condition.trace_tells_test` — what a trace tells of a test.
-/

namespace AccessPolicy

/-! ## Tests of a text -/

/-- A pattern is found by the text that it is matched as. -/
theorem FullPattern.eq_of_anchored_eq {p q : FullPattern}
    (h : Pattern.anchored p.source = Pattern.anchored q.source) : p = q := by
  obtain ⟨source, pattern, hpattern⟩ := p
  obtain ⟨source', pattern', hpattern'⟩ := q
  obtain rfl : source = source' := by simpa [Pattern.anchored] using h
  obtain rfl := Option.some.inj (hpattern.symm.trans hpattern')
  rfl

namespace TextMatcher

/-- What stands in front of the literal: the name of the test. -/
def heading : TextMatcher → String
  | .exact .. => "Exact \x7b value: "
  | .startsWith .. => "Prefix \x7b value: "
  | .endsWith .. => "Suffix \x7b value: "
  | .contains _ => "Contains \x7b value: "
  | .pattern _ => "SafeRegex(Regex("

/-- The text that is compared with, or the pattern as it is matched. -/
def literal : TextMatcher → String
  | .exact value _ => value
  | .startsWith value _ => value
  | .endsWith value _ => value
  | .contains value => value
  | .pattern p => Pattern.anchored p.source

/-- How the description of a test that can ignore case ends. -/
def flagEnding : Bool → String
  | true => ", ignore_case: true \x7d"
  | false => ", ignore_case: false \x7d"

theorem flagEnding_eq (ignoreCase : Bool) :
    flagEnding ignoreCase = ", ignore_case: " ++ (Text.bool ignoreCase ++ " \x7d") := by
  cases ignoreCase <;> rfl

theorem flagEnding_injective {b c : Bool} (h : flagEnding b = flagEnding c) : b = c := by
  cases b <;> cases c <;> simp [flagEnding] at h ⊢

/-- What stands behind the literal: the flag, where there is one. -/
def ending : TextMatcher → String
  | .exact _ ignoreCase => flagEnding ignoreCase
  | .startsWith _ ignoreCase => flagEnding ignoreCase
  | .endsWith _ ignoreCase => flagEnding ignoreCase
  | .contains _ => " \x7d"
  | .pattern _ => "))"

theorem toList_description (matcher : TextMatcher) :
    matcher.description.toList = matcher.heading.toList ++
      ((Text.quoted matcher.literal).toList ++ matcher.ending.toList) := by
  cases matcher <;> simp [description, heading, literal, ending, flagEnding_eq, literalDescription,
    Text.record, Text.tagged, FullPattern.description]

/-- The first quote is the one in front of the literal. -/
theorem takeWhile_description (matcher : TextMatcher) :
    matcher.description.toList.takeWhile (· ≠ '"') = matcher.heading.toList := by
  have hheading : ∀ c ∈ matcher.heading.toList, decide (c ≠ '"') = true := by
    cases matcher <;> simp [heading]
  rw [toList_description, List.takeWhile_append_of_pos hheading]
  simp [Text.quoted]

theorem eq_of_parts_eq {matcher other : TextMatcher} (hheading : other.heading = matcher.heading)
    (hliteral : other.literal = matcher.literal) (hending : other.ending = matcher.ending) :
    other = matcher := by
  cases matcher <;> cases other
  case exact.exact value flag value' flag' | startsWith.startsWith value flag value' flag' |
      endsWith.endsWith value flag value' flag' =>
    obtain rfl : value' = value := hliteral
    obtain rfl : flag' = flag := flagEnding_injective hending
    rfl
  case contains.contains => exact congrArg contains hliteral
  case pattern.pattern => exact congrArg pattern (FullPattern.eq_of_anchored_eq hliteral)
  -- tests of different names
  all_goals simp [heading] at hheading

theorem description_injective {matcher other : TextMatcher}
    (h : other.description = matcher.description) : other = matcher := by
  have hheading : other.heading = matcher.heading := by
    rw [← String.toList_inj, ← takeWhile_description, ← takeWhile_description, h]
  have hlists := congrArg String.toList h
  rw [toList_description, toList_description, hheading, List.append_cancel_left_eq] at hlists
  obtain ⟨hliteral, hending⟩ := Text.quoted_append_inj hlists
  exact eq_of_parts_eq hheading hliteral (String.toList_inj.mp hending)

end TextMatcher

/-! ## Tests of a value -/

namespace ValueMatcher

/-- A test of a text and a network are told apart by the first character. -/
theorem description_injective {test other : ValueMatcher}
    (h : other.description = test.description) : other = test := by
  have hlists := congrArg String.toList h
  cases test with
  | text matcher =>
    cases other with
    | text matcher' =>
      have hinner : matcher'.description = matcher.description := by
        rw [← String.toList_inj]
        simpa [description, Text.tagged] using hlists
      rw [TextMatcher.description_injective hinner]
    | network => simp [description, Text.tagged] at hlists
  | network n =>
    cases other with
    | text => simp [description, Text.tagged] at hlists
    | network n' =>
      have hinner : n'.description = n.description := by
        rw [← String.toList_inj]
        simpa [description, Text.tagged] using hlists
      rw [Network.description_injective hinner]

end ValueMatcher

/-! ## Traces -/

namespace Condition

/-- What a trace tells of the test of an attribute, if it is the trace of one. -/
def Trace.test? : Trace → Option String
  | .attr _ _ _ matcher => some matcher
  | _ => none

/-- A trace tells which test was made. Whatever attributes are tested and whatever the requests are,
the traces of two conditions tell of their tests in the same words if and only if the tests are the
same; and so the same texts pass. -/
theorem trace_tells_test (first second : AttributeMatcher) (request other : Request) :
    (∃ text, ((Condition.attr first).trace request).test? = some text) ∧
    (((Condition.attr first).trace request).test? = ((Condition.attr second).trace other).test? ↔
      first.test = second.test) ∧
    (((Condition.attr first).trace request).test? = ((Condition.attr second).trace other).test? →
      ∀ value, first.test.accepts value = second.test.accepts value) := by
  have htext (matcher : AttributeMatcher) (request : Request) :
      ((Condition.attr matcher).trace request).test? = some matcher.test.description := by
    rw [trace, Trace.test?]
  have hsame : ((Condition.attr first).trace request).test? =
      ((Condition.attr second).trace other).test? ↔ first.test = second.test := by
    rw [htext, htext, Option.some_inj]
    exact ⟨ValueMatcher.description_injective, congrArg ValueMatcher.description⟩
  refine ⟨⟨_, htext first request⟩, hsame, fun h value => ?_⟩
  rw [hsame.mp h]

/-- A literal cannot end its own quotes to pass for a test that ignores case. -/
example :
    (ValueMatcher.text (.exact "a\", ignore_case: true \x7d" false)).description =
      "String(Exact \x7b value: \"a\\\", ignore_case: true \x7d\", ignore_case: false \x7d)" := by
  decide +kernel

end Condition

end AccessPolicy
