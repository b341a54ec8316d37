import AccessPolicy.Proofs.Document.Spec

/-!
# The test that a specification sets

A specification has a field for each kind of test and has to set exactly one of them. The tests
that it sets are listed here in the order of the fields, whatever the fields hold, and the list
alone tells what becomes of the specification. An empty list and a list of several are refused as
such before anything that a field holds is looked at, and the only test of a list is built if what
it holds is acceptable.

Main results:

* `TextSpec.compile_eq_settle`, `HeaderSpec.compile_eq_settle` — compiling settles on a choice;
* `settlesOn_settle` — what becomes of a list of choices;
* `TextSpec.ofSpec_compile`, `HeaderSpec.ofSpec_compile` — which errors a specification can cause;
* `compile_settles` — what becomes of a specification.
-/

namespace AccessPolicy

/-! ## Settling on the only choice -/

/-- An error that tells of what a test holds, not of how many tests are set. -/
def Error.OfContent : Error → Prop
  | .patternTooLong .. | .invalidPattern .. | .invalidRange .. => True
  | _ => False

/-- An error that tells of a specification: of how many tests are set, or of what a test holds. -/
def Error.OfSpec : Error → Prop
  | .noTest .. | .manyTests .. => True
  | e => e.OfContent

theorem Error.OfContent.ofSpec {e : Error} (h : e.OfContent) : e.OfSpec := by
  cases e with
  | noTest | manyTests => trivial
  | _ => exact h

section Settle

variable {α β γ : Type}

/-- Builds the only choice there is; none and several are refused. -/
def settle (kind : SpecKind) (expected : List String) (name : α → String)
    (build : α → Except Error β) : List α → Except Error β
  | [] => .error (.noTest kind expected)
  | [choice] => build choice
  | choices => .error (.manyTests kind (choices.map name))

/-- What becomes of a specification that makes some choices: it is refused for making none or
several just when it does, its only choice is taken just if it is acceptable, and what is made of it
is what the specification means. -/
structure SettlesOn (kind : SpecKind) (expected : List String) (name : α → String)
    (Acceptable : α → Prop) (Means : β → Prop) (choices : List α) (result : Except Error β) :
    Prop where
  noTest_iff : ∀ otherKind names, result = .error (.noTest otherKind names) ↔
    choices = [] ∧ otherKind = kind ∧ names = expected
  /-- All choices are told of, in order. -/
  manyTests_iff : ∀ otherKind names, result = .error (.manyTests otherKind names) ↔
    2 ≤ choices.length ∧ otherKind = kind ∧ names = choices.map name
  exists_ok_iff : ∀ choice, choices = [choice] → ((∃ test, result = .ok test) ↔ Acceptable choice)
  means : ∀ test, result = .ok test → Means test

variable {kind : SpecKind} {expected : List String} {name : α → String}
  {build : α → Except Error β}

/-- The choices are counted before the first of them is built. -/
theorem settle_eq (choices : List α) :
    settle kind expected name build choices =
      if 1 < choices.length then .error (.manyTests kind (choices.map name))
      else
        match choices with
        | [] => .error (.noTest kind expected)
        | choice :: _ => build choice := by
  match choices with
  | [] => rfl
  | [_] => rfl
  | _ :: _ :: _ => rfl

theorem failsWith_settle {P : Error → Prop} (hnone : P (.noTest kind expected))
    (hmany : ∀ names, P (.manyTests kind names)) (hbuild : ∀ choice, FailsWith P (build choice))
    (choices : List α) : FailsWith P (settle kind expected name build choices) := by
  match choices with
  | [] => exact failsWith_error hnone
  | [choice] => exact hbuild choice
  | _ :: _ :: _ => exact failsWith_error (hmany _)

theorem settlesOn_settle {Acceptable : α → Prop} {Means : β → Prop} {choices : List α}
    (hcontent : ∀ choice, FailsWith Error.OfContent (build choice))
    (hok : ∀ choice, (∃ test, build choice = .ok test) ↔ Acceptable choice)
    (hmeans : ∀ test, settle kind expected name build choices = .ok test → Means test) :
    SettlesOn kind expected name Acceptable Means choices
      (settle kind expected name build choices) := by
  -- what a choice is refused for is its content, so it is neither of the other two errors
  have hother : ∀ (choice : α) (e : Error), ¬ e.OfContent → build choice ≠ .error e := by
    intro choice e he h
    exact he (hcontent choice e h)
  refine ⟨?_, ?_, ?_, hmeans⟩
  · intro otherKind names
    match choices with
    | [] => simp [settle, eq_comm]
    | [choice] =>
      have hne := hother choice (.noTest otherKind names) id
      simp [settle, hne]
    | _ :: _ :: _ => simp [settle]
  · intro otherKind names
    match choices with
    | [] => simp [settle]
    | [choice] =>
      have hne := hother choice (.manyTests otherKind names) id
      simp [settle, hne]
    | _ :: _ :: _ => simp [settle, eq_comm]
  · rintro choice rfl
    exact hok choice

/-- A field counts as set just when it adds a choice. -/
theorem setNames_cons (name : α → String) (choose : γ → α) {field : String}
    (hname : ∀ content, name (choose content) = field) (value : Option γ)
    (rest : List (String × Bool)) :
    setNames ((field, value.isSome) :: rest) =
      (value.map choose).toList.map name ++ setNames rest := by
  cases value with
  | none => rfl
  | some content => simp [setNames, hname content]

end Settle

/-! ## What literals and ranges are refused for -/

theorem checkLiteral_eq_ok_iff (value : String) :
    checkLiteral value = .ok () ↔ value.utf8ByteSize ≤ maxLiteralLength := by
  unfold checkLiteral
  split
  · next h => simp [Nat.not_le.mpr h]
  · next h => simp [Nat.not_lt.mp h]

theorem failsWith_checkLiteral (value : String) :
    FailsWith Error.OfContent (checkLiteral value) := by
  unfold checkLiteral
  split
  · exact failsWith_error trivial
  · exact failsWith_ok ()

/-- A literal is checked, and then a test is made from it. -/
theorem failsWith_literal {α : Type} (value : String) (a : α) :
    FailsWith Error.OfContent (checkLiteral value >>= fun _ => pure a) :=
  (failsWith_checkLiteral value).bind fun _ => failsWith_ok a

theorem exists_literal_eq_ok_iff {α : Type} (value : String) (a : α) :
    (∃ test, (checkLiteral value >>= fun _ => pure a) = .ok test) ↔
      value.utf8ByteSize ≤ maxLiteralLength := by
  rw [exists_bind_pure_eq_ok, ← checkLiteral_eq_ok_iff]
  exact ⟨fun ⟨_, h⟩ => h, fun h => ⟨(), h⟩⟩

theorem FullPattern.failsWith_ofSource (source : String) :
    FailsWith Error.OfContent (ofSource source) := by
  unfold ofSource
  split
  · exact failsWith_error trivial
  split
  · exact failsWith_error trivial
  split
  · exact failsWith_ok _
  · exact failsWith_error trivial

theorem IntRange.failsWith_ofBounds (first last : Int) :
    FailsWith Error.OfContent (ofBounds first last) := by
  unfold ofBounds
  split
  · exact failsWith_ok _
  · exact failsWith_error trivial

theorem IntRange.exists_ofBounds_eq_ok_iff (first last : Int) :
    (∃ range, ofBounds first last = .ok range) ↔ first ≤ last := by
  unfold ofBounds
  split
  · next h => simp [h]
  · next h => simp [h]

/-! ## Tests of a text -/

namespace TextSpec

/-- A test that a specification can set, and what its field holds. -/
inductive Choice where
  | exact (text : String)
  | startsWith (text : String)
  | endsWith (text : String)
  | contains (text : String)
  | pattern (source : String)

/-- The tests that a specification sets, in the order of its fields. -/
def choices (spec : TextSpec) : List Choice :=
  (spec.exact.map .exact).toList ++ ((spec.startsWith.map .startsWith).toList ++
    ((spec.endsWith.map .endsWith).toList ++ ((spec.contains.map .contains).toList ++
      (spec.pattern.map .pattern).toList)))

namespace Choice

/-- The name of the field. -/
def name : Choice → String
  | .exact _ => "exact"
  | .startsWith _ => "prefix"
  | .endsWith _ => "suffix"
  | .contains _ => "contains"
  | .pattern _ => "safe_regex"

/-- Literals must not be too long, and patterns must make sense. -/
def Acceptable : Choice → Prop
  | .exact text | .startsWith text | .endsWith text | .contains text =>
    text.utf8ByteSize ≤ maxLiteralLength
  | .pattern source => ∃ p, FullPattern.ofSource source = .ok p

def build (ignoreCase : Bool) : Choice → Except Error TextMatcher
  | .exact text => do
    checkLiteral text
    return .equalTo text ignoreCase
  | .startsWith text => do
    checkLiteral text
    return .startingWith text ignoreCase
  | .endsWith text => do
    checkLiteral text
    return .endingWith text ignoreCase
  | .contains text => do
    checkLiteral text
    return .contains text
  | .pattern source => TextMatcher.ofPattern source

theorem failsWith_build (ignoreCase : Bool) (choice : Choice) :
    FailsWith Error.OfContent (choice.build ignoreCase) := by
  cases choice with
  | exact text | startsWith text | endsWith text | contains text => exact failsWith_literal text _
  | pattern source => exact (FullPattern.failsWith_ofSource source).map

theorem exists_build_eq_ok_iff (ignoreCase : Bool) (choice : Choice) :
    (∃ matcher, choice.build ignoreCase = .ok matcher) ↔ choice.Acceptable := by
  cases choice with
  | exact text | startsWith text | endsWith text | contains text =>
    exact exists_literal_eq_ok_iff text _
  | pattern source => exact exists_map_eq_ok

end Choice

theorem setNames_tests (spec : TextSpec) :
    setNames spec.tests = spec.choices.map Choice.name := by
  rw [tests, choices, setNames_cons Choice.name Choice.exact fun _ => rfl,
    setNames_cons Choice.name Choice.startsWith fun _ => rfl,
    setNames_cons Choice.name Choice.endsWith fun _ => rfl,
    setNames_cons Choice.name Choice.contains fun _ => rfl,
    setNames_cons Choice.name Choice.pattern fun _ => rfl]
  simp [setNames]

/-- The field that is looked at first is the first one that is set. -/
theorem compile_eq_settle (spec : TextSpec) :
    spec.compile = settle .text (spec.tests.map Prod.fst) Choice.name
      (Choice.build spec.ignoreCase) spec.choices := by
  rw [settle_eq]
  unfold compile
  simp only [setNames_tests, List.length_map]
  by_cases hmany : 1 < spec.choices.length
  · rw [if_pos hmany, if_pos hmany]
    rfl
  · rw [if_neg hmany, if_neg hmany]
    -- field by field: if it is set it is the head of the list, and else it adds nothing to the list
    obtain ⟨exact, startsWith, endsWith, contains, pattern, ignoreCase⟩ := spec
    rcases exact with _ | text
    rotate_left
    · rfl
    rcases startsWith with _ | text
    rotate_left
    · rfl
    rcases endsWith with _ | text
    rotate_left
    · rfl
    rcases contains with _ | text
    rotate_left
    · rfl
    cases pattern <;> rfl

theorem ofSpec_compile (spec : TextSpec) : FailsWith Error.OfSpec spec.compile := by
  rw [compile_eq_settle]
  refine failsWith_settle trivial (fun _ => trivial) (fun choice => ?_) _
  exact (choice.failsWith_build _).mono fun _ => Error.OfContent.ofSpec

end TextSpec

/-! ## Tests of a header -/

namespace HeaderSpec

/-- A test that a specification can set, and what its field holds. -/
inductive Choice where
  | exact (text : String)
  | pattern (source : String)
  | range (bounds : RangeSpec)
  | present (expected : Bool)
  | startsWith (text : String)
  | endsWith (text : String)

/-- The tests that a specification sets, in the order of its fields. -/
def choices (spec : HeaderSpec) : List Choice :=
  (spec.exact.map .exact).toList ++ ((spec.pattern.map .pattern).toList ++
    ((spec.range.map .range).toList ++ ((spec.present.map .present).toList ++
      ((spec.startsWith.map .startsWith).toList ++ (spec.endsWith.map .endsWith).toList))))

namespace Choice

/-- The name of the field. -/
def name : Choice → String
  | .exact _ => "exact_match"
  | .pattern _ => "safe_regex_match"
  | .range _ => "range_match"
  | .present _ => "present_match"
  | .startsWith _ => "prefix_match"
  | .endsWith _ => "suffix_match"

/-- Literals must not be too long, patterns must make sense, and ranges must not be empty. -/
def Acceptable : Choice → Prop
  | .exact text | .startsWith text | .endsWith text => text.utf8ByteSize ≤ maxLiteralLength
  | .pattern source => ∃ p, FullPattern.ofSource source = .ok p
  | .range bounds => bounds.first ≤ bounds.last
  | .present _ => True

def test : Choice → Except Error HeaderTest
  | .exact text => do
    checkLiteral text
    return .exact text
  | .pattern source => return .pattern (← FullPattern.ofSource source)
  | .range bounds => return .range (← IntRange.ofBounds bounds.first bounds.last)
  | .present expected => return .present expected
  | .startsWith text => do
    checkLiteral text
    return .startsWith text
  | .endsWith text => do
    checkLiteral text
    return .endsWith text

def build (header : String) (inverted : Bool) (choice : Choice) : Except Error HeaderMatcher := do
  return .ofName header (← choice.test) inverted

theorem failsWith_build (header : String) (inverted : Bool) (choice : Choice) :
    FailsWith Error.OfContent (choice.build header inverted) := by
  refine FailsWith.bind ?_ fun _ => failsWith_ok _
  cases choice with
  | exact text | startsWith text | endsWith text => exact failsWith_literal text _
  | pattern source => exact (FullPattern.failsWith_ofSource source).bind fun _ => failsWith_ok _
  | range bounds => exact (IntRange.failsWith_ofBounds _ _).bind fun _ => failsWith_ok _
  | present expected => exact failsWith_ok _

theorem exists_build_eq_ok_iff (header : String) (inverted : Bool) (choice : Choice) :
    (∃ matcher, choice.build header inverted = .ok matcher) ↔ choice.Acceptable := by
  rw [build, exists_bind_pure_eq_ok]
  cases choice with
  | exact text | startsWith text | endsWith text => exact exists_literal_eq_ok_iff text _
  | pattern source => exact exists_bind_pure_eq_ok
  | range bounds => exact exists_bind_pure_eq_ok.trans (IntRange.exists_ofBounds_eq_ok_iff _ _)
  | present expected => exact iff_of_true ⟨_, rfl⟩ trivial

end Choice

theorem setNames_tests (spec : HeaderSpec) :
    setNames spec.tests = spec.choices.map Choice.name := by
  rw [tests, choices, setNames_cons Choice.name Choice.exact fun _ => rfl,
    setNames_cons Choice.name Choice.pattern fun _ => rfl,
    setNames_cons Choice.name Choice.range fun _ => rfl,
    setNames_cons Choice.name Choice.present fun _ => rfl,
    setNames_cons Choice.name Choice.startsWith fun _ => rfl,
    setNames_cons Choice.name Choice.endsWith fun _ => rfl]
  simp [setNames]

theorem test_eq_settle (spec : HeaderSpec) :
    spec.test = settle .header (spec.tests.map Prod.fst) Choice.name Choice.test spec.choices := by
  rw [settle_eq]
  unfold test
  simp only [setNames_tests, List.length_map]
  by_cases hmany : 1 < spec.choices.length
  · rw [if_pos hmany, if_pos hmany]
    rfl
  · rw [if_neg hmany, if_neg hmany]
    -- as for texts, with the fields in another order
    obtain ⟨name, exact, pattern, range, present, startsWith, endsWith, inverted⟩ := spec
    rcases exact with _ | text
    rotate_left
    · rfl
    rcases pattern with _ | source
    rotate_left
    · rfl
    rcases range with _ | range
    rotate_left
    · rfl
    rcases present with _ | expected
    rotate_left
    · rfl
    rcases startsWith with _ | text
    rotate_left
    · rfl
    cases endsWith <;> rfl

theorem compile_eq_settle (spec : HeaderSpec) :
    spec.compile = settle .header (spec.tests.map Prod.fst) Choice.name
      (Choice.build spec.name spec.inverted) spec.choices := by
  rw [compile, test_eq_settle]
  -- the name and the flag are added to the only choice, and errors are handed on
  match spec.choices with
  | [] => rfl
  | [_] => rfl
  | _ :: _ :: _ => rfl

theorem ofSpec_compile (spec : HeaderSpec) : FailsWith Error.OfSpec spec.compile := by
  rw [compile_eq_settle]
  refine failsWith_settle trivial (fun _ => trivial) (fun choice => ?_) _
  exact (choice.failsWith_build _ _).mono fun _ => Error.OfContent.ofSpec

/-- A test means what the specification of a header says: it looks for the name in lower case, and
passes the requests that meet the specification, whatever value they have under that name and also
if they have none. -/
structure Means (spec : HeaderSpec) (matcher : HeaderMatcher) : Prop where
  name_eq : matcher.name = Text.lowerAscii spec.name
  accepts_iff : ∀ request, matcher.accepts request = true ↔ spec.Meets request

theorem means_of_compile {spec : HeaderSpec} {matcher : HeaderMatcher}
    (h : spec.compile = .ok matcher) : spec.Means matcher := by
  refine ⟨?_, accepts_compile h⟩
  obtain ⟨test, -, h⟩ := bind_eq_ok.mp h
  obtain rfl := Except.ok.inj h
  rfl

end HeaderSpec

/-- A specification that sets no test or several is refused just for that, and then all tests that
it sets are named, in the order of its fields and whatever they hold. One that sets a single test
turns into a test just if what the field holds is acceptable, and the values and requests that pass
are those that meet the specification. -/
theorem compile_settles (text : TextSpec) (header : HeaderSpec) :
    SettlesOn .text (text.tests.map Prod.fst) TextSpec.Choice.name TextSpec.Choice.Acceptable
        (fun matcher => ∀ value, matcher.accepts value = true ↔ text.Meets value)
        text.choices text.compile ∧
      SettlesOn .header (header.tests.map Prod.fst) HeaderSpec.Choice.name
        HeaderSpec.Choice.Acceptable header.Means header.choices header.compile := by
  constructor
  · rw [text.compile_eq_settle]
    refine settlesOn_settle (TextSpec.Choice.failsWith_build _)
      (TextSpec.Choice.exists_build_eq_ok_iff _) fun matcher h => ?_
    rw [← text.compile_eq_settle] at h
    exact TextSpec.accepts_compile h
  · rw [header.compile_eq_settle]
    refine settlesOn_settle (HeaderSpec.Choice.failsWith_build _ _)
      (HeaderSpec.Choice.exists_build_eq_ok_iff _ _) fun matcher h => ?_
    rw [← header.compile_eq_settle] at h
    exact HeaderSpec.means_of_compile h

/-- Several tests are refused for their number, though the range is empty and the pattern makes no
sense. -/
example :
    let spec : HeaderSpec :=
      { name := "x-id", pattern := some "(", range := some ⟨2, 1⟩, endsWith := some "" }
    spec.compile =
      .error (.manyTests .header ["safe_regex_match", "range_match", "suffix_match"]) := by
  rfl

end AccessPolicy
