import AccessPolicy.Condition.HeaderMatcher
import AccessPolicy.Proofs.Headers
import AccessPolicy.Proofs.Text.Integer

/-!
# Tests of headers

What a test of a header sees of the headers that a call was given, and what it decides. A test looks
for its name in any case and sees all values that were given under it. A header that is absent fails
every test of its value, also an inverted one, so inverting such a test is not its negation unless
the header is there.

Main results:

* `acceptsValue_invert_iff` — when asking for the opposite is the negation;
* `decides_by_values` — what a test sees and decides;
* `range_accepts_spelled` — which values a range passes.
-/

namespace AccessPolicy

/-- The request of a call that is given some headers one after the other, and no others. -/
def Call.requestWith (call : Call) (headers : List (String × String)) : Request :=
  ({ call with headers := [] }.withHeaders headers).request

theorem IntRange.contains_iff (range : IntRange) (n : Int) :
    range.contains n = true ↔ range.first ≤ n ∧ n ≤ range.last := by
  rw [IntRange.contains, Bool.and_eq_true, decide_eq_true_eq, decide_eq_true_eq]

namespace HeaderMatcher

/-! ## Presence and value -/

/-- A test of the value fails where the header is absent. -/
theorem acceptsValue_none {matcher : HeaderMatcher}
    (h : ∀ expected, matcher.test ≠ .present expected) : matcher.acceptsValue none = false := by
  obtain ⟨name, test, inverted⟩ := matcher
  cases test with
  | present expected => exact absurd rfl (h expected)
  | _ => rfl

theorem acceptsValue_some {matcher : HeaderMatcher}
    (h : ∀ expected, matcher.test ≠ .present expected) (value : String) :
    matcher.acceptsValue (some value) = (matcher.test.accepts value != matcher.inverted) := by
  obtain ⟨name, test, inverted⟩ := matcher
  cases test with
  | present expected => exact absurd rfl (h expected)
  | _ => rfl

theorem acceptsValue_present {matcher : HeaderMatcher} {expected : Bool}
    (h : matcher.test = .present expected) (value : Option String) :
    matcher.acceptsValue value = ((value.isSome == expected) != matcher.inverted) := by
  obtain ⟨name, test, inverted⟩ := matcher
  obtain rfl : test = .present expected := h
  rfl

/-- The test that asks for the opposite. -/
def invert (matcher : HeaderMatcher) : HeaderMatcher :=
  { matcher with inverted := !matcher.inverted }

/-- Asking for the opposite is the negation unless absence stands in the way. -/
theorem acceptsValue_invert_iff (matcher : HeaderMatcher) (value : Option String) :
    matcher.invert.acceptsValue value = !matcher.acceptsValue value ↔
      value.isSome ∨ ∃ expected, matcher.test = .present expected := by
  by_cases hpresent : ∃ expected, matcher.test = .present expected
  · obtain ⟨expected, htest⟩ := hpresent
    have hinvert : matcher.invert.test = .present expected := htest
    rw [acceptsValue_present htest, acceptsValue_present hinvert]
    simp [invert, htest]
  · have htest : ∀ expected, matcher.test ≠ .present expected := not_exists.mp hpresent
    have hinvert : ∀ expected, matcher.invert.test ≠ .present expected := htest
    cases value with
    | none =>
      -- both tests fail
      rw [acceptsValue_none htest, acceptsValue_none hinvert]
      simp [hpresent]
    | some value =>
      rw [acceptsValue_some htest, acceptsValue_some hinvert]
      simp [invert]

/-- The case of its name makes no difference to a test. -/
theorem ofName_congr {name other : String} (h : Text.SameName name other) (test : HeaderTest)
    (inverted : Bool) : ofName name test inverted = ofName other test inverted := by
  rw [ofName, ofName, (Text.lowerAscii_eq_iff name other).mpr h]

theorem header_requestWith (call : Call) (headers : List (String × String)) (name : String)
    (test : HeaderTest) (inverted : Bool) :
    (call.requestWith headers).header (ofName name test inverted).name =
      Call.joined (Call.valuesUnder name headers) :=
  Call.header?_withHeaders rfl headers name

/-- What the test of a name sees of some headers in a request, and what it decides. -/
structure DecidesByValues (headers : List (String × String)) (name : String)
    (matcher : HeaderMatcher) (request : Request) : Prop where
  absent_iff : request.header matcher.name = none ↔
    ∀ header ∈ headers, ¬ Text.SameName header.1 name
  /-- All values that were given under the name are seen, in order. -/
  value_eq : (∃ header ∈ headers, Text.SameName header.1 name) →
    request.header matcher.name = some (",".intercalate (Call.valuesUnder name headers))
  presence : ∀ expected, matcher.test = .present expected →
    matcher.accepts request =
      (((request.header matcher.name).isSome == expected) != matcher.inverted)
  /-- Absence is not inverted. -/
  absent : (∀ expected, matcher.test ≠ .present expected) →
    request.header matcher.name = none → matcher.accepts request = false
  value : (∀ expected, matcher.test ≠ .present expected) → ∀ text,
    request.header matcher.name = some text →
      matcher.accepts request = (matcher.test.accepts text != matcher.inverted)
  invert_iff : matcher.invert.accepts request = !matcher.accepts request ↔
    (request.header matcher.name).isSome ∨ ∃ expected, matcher.test = .present expected

/-- A test sees the values that were given under its name and decides by them. Neither the case of
its name nor that of the names of the headers makes a difference to the test or to the request. -/
theorem decides_by_values (call : Call) (headers : List (String × String)) (name : String)
    (test : HeaderTest) (inverted : Bool) :
    DecidesByValues headers name (ofName name test inverted) (call.requestWith headers) ∧
      ∀ (other : String) (others : List (String × String)), Text.SameName other name →
        List.Forall₂ (fun header given => Text.SameName header.1 given.1 ∧ header.2 = given.2)
          others headers →
        ofName other test inverted = ofName name test inverted ∧
          call.requestWith others = call.requestWith headers := by
  have hseen := header_requestWith call headers name test inverted
  have hnone := Call.joined_valuesUnder_eq_none_iff name headers
  refine ⟨⟨?_, ?_, ?_, ?_, ?_, ?_⟩, ?_⟩
  · rw [hseen, hnone]
  · rintro ⟨header, hmem, hname⟩
    -- a value was given under the name, so there is something to join
    have hsome : Call.joined (Call.valuesUnder name headers) ≠ none := fun h =>
      hnone.mp h header hmem hname
    rw [hseen]
    exact Call.joined_of_ne_none hsome
  · intro expected htest
    exact acceptsValue_present htest _
  · intro htest habsent
    rw [accepts, habsent]
    exact acceptsValue_none htest
  · intro htest text hvalue
    rw [accepts, hvalue]
    exact acceptsValue_some htest text
  · exact acceptsValue_invert_iff _ _
  · -- both names are kept in lower case, so nothing is left of the difference
    intro other others hname hothers
    refine ⟨ofName_congr hname test inverted, ?_⟩
    rw [Call.requestWith, Call.requestWith, Call.withHeaders_congr hothers]

/-- A value that was given twice in different case is seen as one, and an inverted test of a header
that is absent fails as its twin does. -/
example :
    let request := Call.requestWith {} [("X-Role", "reader"), ("a", "b"), ("x-rOLE", "writer")]
    (ofName "X-ROLE" (.exact "reader,writer") false).accepts request = true ∧
      (ofName "x-other" (.exact "reader") false).accepts request = false ∧
      (ofName "x-other" (.exact "reader") true).accepts request = false := by
  decide +kernel

/-! ## Ranges -/

/-- The integer of 64 bits that a text spells lies in a range. -/
def LiesIn (range : IntRange) (text : String) : Prop :=
  ∃ n, Text.SpellsInteger text.toList n ∧ (-2 ^ 63 ≤ n ∧ n ≤ 2 ^ 63 - 1) ∧
    range.first ≤ n ∧ n ≤ range.last

theorem accepts_range_iff (range : IntRange) (text : String) :
    (HeaderTest.range range).accepts text = true ↔ LiesIn range text := by
  rw [HeaderTest.accepts, Option.any_eq_true, LiesIn]
  refine exists_congr fun n => ?_
  rw [Text.int64?_eq_some_iff, IntRange.contains_iff, and_assoc]

theorem accepts_range_toString_iff (range : IntRange) (n : Int64) :
    (HeaderTest.range range).accepts (toString n) = true ↔
      range.first ≤ n.toInt ∧ n.toInt ≤ range.last := by
  have hfits : -2 ^ 63 ≤ n.toInt ∧ n.toInt ≤ 2 ^ 63 - 1 := by
    have hlt := n.toInt_lt
    have hle := n.le_toInt
    omega
  have hread : Text.int64? (toString n) = some n.toInt := Text.int64?_repr hfits
  rw [HeaderTest.accepts, hread, Option.any_some, IntRange.contains_iff]

/-- A range passes the values that spell an integer of 64 bits in it, and inverted it passes all
other values. The usual text of an integer of 64 bits is passed as the integer lies in the range.
Values are read without bounds and compared with 64 bits at the end, which is the same as a check of
every step on the way. -/
theorem range_accepts_spelled (name : String) (range : IntRange) (text : String) :
    ((ofName name (.range range) false).acceptsValue (some text) = true ↔ LiesIn range text) ∧
      ((ofName name (.range range) true).acceptsValue (some text) = true ↔ ¬ LiesIn range text) ∧
      (∀ n : Int64, (ofName name (.range range) false).acceptsValue (some (toString n)) = true ↔
        range.first ≤ n.toInt ∧ n.toInt ≤ range.last) ∧
      Text.int64Checked? text = Text.int64? text := by
  have hplain (value : String) : (ofName name (.range range) false).acceptsValue (some value) =
      (HeaderTest.range range).accepts value := by
    rw [acceptsValue_some (by simp [ofName])]
    exact Bool.bne_false _
  have hinverted : (ofName name (.range range) true).acceptsValue (some text) =
      !(HeaderTest.range range).accepts text := by
    rw [acceptsValue_some (by simp [ofName])]
    exact Bool.bne_true _
  refine ⟨?_, ?_, ?_, Text.int64Checked?_eq text⟩
  · rw [hplain, accepts_range_iff]
  · rw [hinverted, Bool.not_eq_true', Bool.eq_false_iff, Ne, accepts_range_iff]
  · intro n
    rw [hplain, accepts_range_toString_iff]

/-- Zeros in front do not count, and one more than the largest integer does not wrap around. -/
example :
    let range : IntRange := ⟨Text.minInt64, 7, by decide⟩
    let test := ofName "x-retries" (.range range) false
    test.acceptsValue (some "+00000000000000000000007") = true ∧
      test.acceptsValue (some "-9223372036854775808") = true ∧
      test.acceptsValue (some "9223372036854775808") = false ∧
      test.acceptsValue (some "-") = false := by
  decide +kernel

end HeaderMatcher

end AccessPolicy
