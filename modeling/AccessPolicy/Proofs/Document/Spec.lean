import AccessPolicy.Document.Spec
import AccessPolicy.Proofs.Condition.HeaderMatcher
import AccessPolicy.Proofs.Except
import AccessPolicy.Proofs.Network
import AccessPolicy.Proofs.Pattern.Anchors
import Mathlib.Tactic.MkIffOfInductiveProp

/-!
# What specifications ask for

Says directly when a request meets the specification of a test, and shows that a specification that
compiles turns into a test that passes in just these cases.

Main results: `accepts_compile`, for texts, for headers and for networks.
-/

namespace AccessPolicy

/-! ## The direct reading -/

/-- A value meets a pattern that has a match that covers it. -/
def MeetsPattern (source value : String) : Prop :=
  ∃ q, Pattern.ofText? source = some q ∧ q.Covers value.toList

/-- A value meets the test of a text that a specification sets. -/
@[mk_iff]
inductive TextSpec.Meets (spec : TextSpec) (value : String) : Prop where
  | exact (text : String) (set : spec.exact = some text)
    (meets : TextMatcher.foldIf spec.ignoreCase value = TextMatcher.foldIf spec.ignoreCase text)
  | startsWith (text : String) (set : spec.startsWith = some text)
    (meets : (TextMatcher.foldIf spec.ignoreCase text).toList <+:
      (TextMatcher.foldIf spec.ignoreCase value).toList)
  | endsWith (text : String) (set : spec.endsWith = some text)
    (meets : (TextMatcher.foldIf spec.ignoreCase text).toList <:+
      (TextMatcher.foldIf spec.ignoreCase value).toList)
  /-- Case counts here in any case. -/
  | contains (text : String) (set : spec.contains = some text)
    (meets : text.toList <:+: value.toList)
  /-- Case counts here unless the pattern itself says otherwise. -/
  | pattern (source : String) (set : spec.pattern = some source)
    (meets : MeetsPattern source value)

/-- A value meets the test of a value that a specification of a header sets. -/
@[mk_iff]
inductive HeaderSpec.ValueMeets (spec : HeaderSpec) (value : String) : Prop where
  | exact (text : String) (set : spec.exact = some text) (meets : value = text)
  | pattern (source : String) (set : spec.pattern = some source)
    (meets : MeetsPattern source value)
  | range (range : RangeSpec) (set : spec.range = some range) (n : Int)
    (value_eq : Text.int64? value = some n) (meets : range.first ≤ n ∧ n ≤ range.last)
  | startsWith (text : String) (set : spec.startsWith = some text)
    (meets : text.toList <+: value.toList)
  | endsWith (text : String) (set : spec.endsWith = some text)
    (meets : text.toList <:+ value.toList)

/-- A request meets a specification of a header: the header's presence is as asked for, or its value
is, and it must then be there; an inverted specification asks for the opposite. -/
def HeaderSpec.Meets (request : Request) (spec : HeaderSpec) : Prop :=
  let value := request.header (Text.lowerAscii spec.name)
  match spec.present with
  | some expected => (value.isSome = expected) ↔ spec.inverted = false
  | none => ∃ text, value = some text ∧ (spec.ValueMeets text ↔ spec.inverted = false)

/-- A text meets a specification of a network if it spells an address of the network. -/
def NetworkSpec.Meets (spec : NetworkSpec) (text : String) : Prop :=
  ∃ base address, Address.ofText? spec.address = some base ∧
    Address.ofText? text = some address ∧ address.Within base spec.length

/-! ## Specifications that set one test -/

theorem length_setNames (fields : List (String × Bool)) :
    (setNames fields).length = fields.countP Prod.snd := by
  induction fields with
  | nil => rfl
  | cons field rest ih =>
    obtain ⟨name, set⟩ := field
    cases set <;> simpa [setNames] using ih

theorem occursIn_iff (part text : List Char) :
    Text.occursIn part text = true ↔ part <:+: text := by
  induction text with
  | nil => simp [Text.occursIn]
  | cons c rest ih => simp [Text.occursIn, ih, List.infix_cons_iff]

/-- What was compiled from a pattern matches the values that meet the pattern. -/
theorem isMatch_iff_meetsPattern {source : String} {p : FullPattern}
    (h : FullPattern.ofSource source = .ok p) (value : String) :
    p.isMatch value = true ↔ MeetsPattern source value := by
  obtain ⟨q, hq, hiff⟩ := FullPattern.isMatch_iff_covers h
  rw [hiff value, MeetsPattern, hq]
  simp

namespace TextSpec

/-- A specification that sets one test, and the test it turns into. -/
inductive Compiled : TextSpec → TextMatcher → Prop where
  | exact (text : String) (ignoreCase : Bool) :
    Compiled { exact := some text, ignoreCase } (.equalTo text ignoreCase)
  | startsWith (text : String) (ignoreCase : Bool) :
    Compiled { startsWith := some text, ignoreCase } (.startingWith text ignoreCase)
  | endsWith (text : String) (ignoreCase : Bool) :
    Compiled { endsWith := some text, ignoreCase } (.endingWith text ignoreCase)
  | contains (text : String) (ignoreCase : Bool) :
    Compiled { contains := some text, ignoreCase } (.contains text)
  | pattern (source : String) (ignoreCase : Bool) (p : FullPattern)
    (compiled : FullPattern.ofSource source = .ok p) :
    Compiled { pattern := some source, ignoreCase } (.pattern p)

theorem compiled_of_compile {spec : TextSpec} {matcher : TextMatcher}
    (h : spec.compile = .ok matcher) : Compiled spec matcher := by
  obtain ⟨exact, startsWith, endsWith, contains, pattern, ignoreCase⟩ := spec
  unfold compile at h
  simp only [length_setNames] at h
  split at h
  · simp [bind_eq_ok] at h
  · next hone =>
    -- the first test that is set is the only one
    rcases exact with _ | text
    rotate_left
    · obtain ⟨rfl, rfl, rfl, rfl⟩ : startsWith = none ∧ endsWith = none ∧ contains = none ∧
          pattern = none := by simpa [tests] using hone
      obtain ⟨-, -, h⟩ := bind_eq_ok.mp h
      obtain rfl := Except.ok.inj h
      exact .exact text ignoreCase
    rcases startsWith with _ | text
    rotate_left
    · obtain ⟨rfl, rfl, rfl⟩ : endsWith = none ∧ contains = none ∧ pattern = none := by
        simpa [tests] using hone
      obtain ⟨-, -, h⟩ := bind_eq_ok.mp h
      obtain rfl := Except.ok.inj h
      exact .startsWith text ignoreCase
    rcases endsWith with _ | text
    rotate_left
    · obtain ⟨rfl, rfl⟩ : contains = none ∧ pattern = none := by simpa [tests] using hone
      obtain ⟨-, -, h⟩ := bind_eq_ok.mp h
      obtain rfl := Except.ok.inj h
      exact .endsWith text ignoreCase
    rcases contains with _ | text
    rotate_left
    · obtain rfl : pattern = none := by simpa [tests] using hone
      obtain ⟨-, -, h⟩ := bind_eq_ok.mp h
      obtain rfl := Except.ok.inj h
      exact .contains text ignoreCase
    rcases pattern with _ | source
    · simp at h
    · obtain ⟨p, hp, rfl⟩ := map_eq_ok.mp h
      exact .pattern source ignoreCase p hp

theorem accepts_compile {spec : TextSpec} {matcher : TextMatcher} (h : spec.compile = .ok matcher)
    (value : String) : matcher.accepts value = true ↔ spec.Meets value := by
  cases compiled_of_compile h with
  | exact text ignoreCase => simp [meets_iff, TextMatcher.equalTo, TextMatcher.accepts]
  | startsWith text ignoreCase => simp [meets_iff, TextMatcher.startingWith, TextMatcher.accepts]
  | endsWith text ignoreCase => simp [meets_iff, TextMatcher.endingWith, TextMatcher.accepts]
  | contains text ignoreCase => simp [meets_iff, TextMatcher.accepts, occursIn_iff]
  | pattern source ignoreCase p hp =>
    simp [meets_iff, TextMatcher.accepts, isMatch_iff_meetsPattern hp]

end TextSpec

namespace HeaderSpec

/-- A specification that sets one test, and what it asks of the header. -/
inductive Asks (name : String) (inverted : Bool) : HeaderSpec → HeaderTest → Prop where
  | exact (text : String) : Asks name inverted { name, exact := some text, inverted } (.exact text)
  | pattern (source : String) (p : FullPattern) (compiled : FullPattern.ofSource source = .ok p) :
    Asks name inverted { name, pattern := some source, inverted } (.pattern p)
  | range (range : RangeSpec) (first_le_last : range.first ≤ range.last) :
    Asks name inverted { name, range := some range, inverted }
      (.range ⟨range.first, range.last, first_le_last⟩)
  | present (expected : Bool) :
    Asks name inverted { name, present := some expected, inverted } (.present expected)
  | startsWith (text : String) :
    Asks name inverted { name, startsWith := some text, inverted } (.startsWith text)
  | endsWith (text : String) :
    Asks name inverted { name, endsWith := some text, inverted } (.endsWith text)

theorem asks_of_test {spec : HeaderSpec} {test : HeaderTest} (h : spec.test = .ok test) :
    Asks spec.name spec.inverted spec test := by
  obtain ⟨name, exact, pattern, range, present, startsWith, endsWith, inverted⟩ := spec
  unfold HeaderSpec.test at h
  simp only [length_setNames] at h
  split at h
  · simp [bind_eq_ok] at h
  · next hone =>
    -- the first test that is set is the only one
    rcases exact with _ | text
    rotate_left
    · obtain ⟨rfl, rfl, rfl, rfl, rfl⟩ : pattern = none ∧ range = none ∧ present = none ∧
          startsWith = none ∧ endsWith = none := by simpa [tests] using hone
      obtain ⟨-, -, h⟩ := bind_eq_ok.mp h
      obtain rfl := Except.ok.inj h
      exact .exact text
    rcases pattern with _ | source
    rotate_left
    · obtain ⟨rfl, rfl, rfl, rfl⟩ : range = none ∧ present = none ∧ startsWith = none ∧
          endsWith = none := by simpa [tests] using hone
      obtain ⟨p, hp, h⟩ := bind_eq_ok.mp h
      obtain rfl := Except.ok.inj h
      exact .pattern source p hp
    rcases range with _ | range
    rotate_left
    · obtain ⟨rfl, rfl, rfl⟩ : present = none ∧ startsWith = none ∧ endsWith = none := by
        simpa [tests] using hone
      obtain ⟨bounds, hbounds, h⟩ := bind_eq_ok.mp h
      obtain rfl := Except.ok.inj h
      unfold IntRange.ofBounds at hbounds
      split at hbounds
      · next hle =>
        obtain rfl := Except.ok.inj hbounds
        exact .range range hle
      · simp at hbounds
    rcases present with _ | expected
    rotate_left
    · obtain ⟨rfl, rfl⟩ : startsWith = none ∧ endsWith = none := by simpa [tests] using hone
      obtain rfl := Except.ok.inj h
      exact .present expected
    rcases startsWith with _ | text
    rotate_left
    · obtain rfl : endsWith = none := by simpa [tests] using hone
      obtain ⟨-, -, h⟩ := bind_eq_ok.mp h
      obtain rfl := Except.ok.inj h
      exact .startsWith text
    rcases endsWith with _ | text
    · simp at h
    · obtain ⟨-, -, h⟩ := bind_eq_ok.mp h
      obtain rfl := Except.ok.inj h
      exact .endsWith text

theorem asks_present_iff {name : String} {inverted : Bool} {spec : HeaderSpec} {test : HeaderTest}
    (h : Asks name inverted spec test) (expected : Bool) :
    test = .present expected ↔ spec.present = some expected := by
  cases h <;> simp

/-- A test of the value passes the values that meet the specification. -/
theorem accepts_asks {name : String} {inverted : Bool} {spec : HeaderSpec} {test : HeaderTest}
    (h : Asks name inverted spec test) (hpresent : spec.present = none) (value : String) :
    test.accepts value = true ↔ spec.ValueMeets value := by
  cases h with
  | exact text => simp [valueMeets_iff, HeaderTest.accepts, eq_comm (a := value)]
  | pattern source p hp => simp [valueMeets_iff, HeaderTest.accepts, isMatch_iff_meetsPattern hp]
  | range range hle =>
    cases hvalue : Text.int64? value with
    | none => simp [valueMeets_iff, HeaderTest.accepts, hvalue]
    | some n => simp [valueMeets_iff, HeaderTest.accepts, hvalue, IntRange.contains]
  | present expected => simp at hpresent
  | startsWith text => simp [valueMeets_iff, HeaderTest.accepts]
  | endsWith text => simp [valueMeets_iff, HeaderTest.accepts]

theorem accepts_compile {spec : HeaderSpec} {matcher : HeaderMatcher}
    (h : spec.compile = .ok matcher) (request : Request) :
    matcher.accepts request = true ↔ spec.Meets request := by
  obtain ⟨test, htest, h⟩ := bind_eq_ok.mp h
  obtain rfl := Except.ok.inj h
  have hasks := asks_of_test htest
  rw [HeaderMatcher.accepts, Meets]
  rcases hpresent : spec.present with _ | expected
  · have htests : ∀ expected, test ≠ .present expected := by
      intro expected htest
      rw [asks_present_iff hasks, hpresent] at htest
      simp at htest
    simp only [HeaderMatcher.ofName]
    -- a test of the value needs the header to be there, inverted or not
    rcases request.header (Text.lowerAscii spec.name) with _ | value
    · rw [HeaderMatcher.acceptsValue_none htests]
      simp
    · rw [HeaderMatcher.acceptsValue_some htests]
      have hvalue := accepts_asks hasks hpresent value
      cases spec.inverted <;> simp [← hvalue]
  · obtain rfl := (asks_present_iff hasks expected).mpr hpresent
    cases spec.inverted <;> simp [HeaderMatcher.ofName, HeaderMatcher.acceptsValue]

end HeaderSpec

namespace NetworkSpec

theorem matchesText_compile {spec : NetworkSpec} {network : Network}
    (h : spec.compile = .ok network) (text : String) :
    network.matchesText text = true ↔ spec.Meets text := by
  unfold compile Network.ofText at h
  split at h
  · simp at h
  · next base hbase =>
    split at h
    · obtain rfl := Except.ok.inj h
      simp [Network.matchesText, Option.any_eq_true, Network.contains_iff, Meets, hbase]
    · simp at h

end NetworkSpec

end AccessPolicy
