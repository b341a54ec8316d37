import AccessPolicy.Condition.HeaderMatcher
import AccessPolicy.Proofs.Pattern.Locality
import AccessPolicy.Proofs.Pattern.Spans

/-!
# Patterns cannot escape their anchors

A pattern of a configuration is spliced between `\A(?:` and `)\z`. This module shows that nothing in
the pattern can get at what stands around it. One step of the reader goes the same way whether or
not one more group is open around everything, so inside the splice the pattern is read as it is on
its own; what it can do at its end is take in the closing with a comment, and then the splice is
refused.

Main results:

* `inside_step` — one step of the reader, with one more group open and the closing behind the text;
* `run_inside` — the same for a whole run;
* `isMatch_iff_covers`, `anchors_hold` — a compiled pattern matches a value if and only if the
  pattern as it was written has a match that covers the value.
-/

namespace AccessPolicy.Pattern

/-- The expression of a pattern that is tied to both ends of the value. -/
def Expr.tied (e : Expr) : Expr :=
  .sequence [.assertion .textStart, .group false {} e, .assertion .textEnd]

/-! ## Reading inside a group -/

namespace Reading

/-- The reading with one more group open around everything. -/
def inside (frame : GroupFrame) (r : Reading) : Reading :=
  { r with frames := r.frames ++ [frame] }

variable (frame : GroupFrame)

theorem inside_startGroup (r : Reading) (start : GroupStart) :
    (r.inside frame).startGroup start = (r.startGroup start).map (inside frame) := by
  rcases start with (_ | name) | change | change
  · rfl
  · simp only [startGroup]
    split <;> split
    · rfl
    · next hin hout => exact absurd hin hout
    · next hout hin => exact absurd hin hout
    · rfl
  · rfl
  · rfl

theorem inside_closeGroup {r r' : Reading} (h : r.closeGroup = some r') :
    (r.inside frame).closeGroup = some (r'.inside frame) := by
  unfold closeGroup at h
  split at h
  · simp at h
  · next inner frames hframes =>
    obtain rfl := Option.some.inj h
    simp only [closeGroup, inside, hframes, List.cons_append]
    rfl

theorem inside_repeatLast (r : Reading) (min : Nat) (max : Option Nat) :
    (r.inside frame).repeatLast min max = (r.repeatLast min max).map (inside frame) := by
  simp only [repeatLast, inside]
  split <;> rfl

theorem inside_take {r r' : Reading} {mark : Mark} (h : r.take mark = some r') :
    (r.inside frame).take mark = some (r'.inside frame) := by
  cases mark with
  | start start => rw [take, inside_startGroup, ← take, h, Option.map_some]
  | close => exact inside_closeGroup frame h
  | bar =>
    obtain rfl := Option.some.inj h
    rfl
  | copies min max => rw [take, inside_repeatLast, ← take, h, Option.map_some]
  | item e =>
    obtain rfl := Option.some.inj h
    rfl

/-- One step goes the same way with the closing behind the text, and inside a group as well. -/
theorem inside_step {r r₁ : Reading} {text text' rest : List Char} (h : Extends text text')
    (hstep : r.step text = some (r₁, rest)) :
    ∃ rest', r.step text' = some (r₁, rest') ∧
      (r.inside frame).step text' = some (r₁.inside frame, rest') ∧ Extends rest rest' := by
  obtain ⟨⟨mark, left⟩, hread, hmark⟩ := Option.bind_eq_some_iff.mp hstep
  obtain ⟨r₂, htake, heq⟩ := Option.bind_eq_some_iff.mp hmark
  obtain ⟨rfl, rfl⟩ := Prod.mk.inj (Option.some.inj heq)
  obtain ⟨left', hread', hleft⟩ := sameReading_readMark r.verbose h mark left hread
  refine ⟨left', ?_, ?_, hleft⟩
  · rw [step, hread', Option.bind_eq_bind, Option.bind_some]
    dsimp only
    rw [htake]
    rfl
  · rw [step, show (r.inside frame).verbose = r.verbose from rfl, hread', Option.bind_eq_bind,
      Option.bind_some]
    dsimp only
    rw [inside_take frame htake]
    rfl

theorem run_step (r : Reading) {r₁ : Reading} {n : Nat} {text left rest : List Char} {c : Char}
    (htext : skipBlank r.verbose text = c :: rest) (hstep : r.step (c :: rest) = some (r₁, left)) :
    Reading.run (n + 1) r text = Reading.run n r₁ left := by
  rw [Reading.run, htext]
  dsimp only
  rw [hstep]
  rfl

theorem run_end (r : Reading) {n : Nat} {text : List Char} (htext : skipBlank r.verbose text = []) :
    Reading.run (n + 1) r text = if r.frames.isEmpty then some r.body else none := by
  rw [Reading.run, htext]

/-- The group that is open around a pattern tied to both ends of the value. -/
def outermost : GroupFrame := ⟨[.assertion .textStart], [], false, {}, false⟩

/-- Once the pattern itself is read, what follows closes the outermost group. -/
theorem run_closing {r : Reading} {n : Nat} {text : List Char} (hframes : r.frames = [])
    (htext : skipBlank r.verbose text = closing) :
    Reading.run (n + 3) (r.inside outermost) text = some r.body.tied := by
  -- the reading behind the closing parenthesis
  let closed : Reading :=
    { r with
      frames := [], branches := []
      items := [.group false {} r.body, .assertion .textStart], verbose := false }
  have hclose : (r.inside outermost).step closing = some (closed, ['\\', 'z']) := by
    simp only [step, closing, readMark, take, closeGroup, inside, hframes]
    rfl
  have htie : closed.step ['\\', 'z'] = some (closed.push (.assertion .textEnd), []) := rfl
  rw [run_step (r.inside outermost) htext hclose, run_step closed (by rfl) htie,
    run_end (closed.push (.assertion .textEnd)) (by rfl)]
  rfl

/-- Inside the outermost group a pattern is read as it is on its own, and then closed, or else a
comment at its end takes in the closing. In the first case the closing is one parenthesis too many
where no group is open; in the second the group stays open, and nothing else has changed. -/
theorem run_inside (fuel : Nat) (r : Reading) {text text' : List Char} {e : Expr}
    (h : Extends text text') (hrun : Reading.run fuel r text = some e) :
    (∀ n, fuel + 3 ≤ n → Reading.run n r text' = none ∧
      Reading.run n (r.inside outermost) text' = some e.tied) ∨
    (∀ n, fuel + 3 ≤ n → Reading.run n r text' = some e ∧
      Reading.run n (r.inside outermost) text' = none) := by
  induction fuel generalizing r text text' with
  | zero => simp [Reading.run] at hrun
  | succ fuel ih =>
    have hskip := h.skipBlank r.verbose
    rcases htext : skipBlank r.verbose text with _ | ⟨c, rest⟩
    · -- the pattern is read to its end, and the closing is next or was taken in by a comment
      rw [run_end r htext] at hrun
      rw [htext] at hskip
      obtain ⟨hframes, hbody⟩ : r.frames = [] ∧ r.body = e := by simpa using hrun
      subst hbody
      rcases hskip.nil with htext' | htext'
      · left
        intro n hn
        obtain ⟨m, rfl⟩ : ∃ m, n = m + 3 := ⟨n - 3, by omega⟩
        refine ⟨?_, run_closing hframes htext'⟩
        rw [Reading.run, htext']
        simp [closing, step, readMark, take, closeGroup, hframes]
      · right
        intro n hn
        obtain ⟨m, rfl⟩ : ∃ m, n = m + 1 := ⟨n - 1, by omega⟩
        rw [run_end r htext', run_end (r.inside outermost) htext']
        simp [inside, hframes]
    · rw [htext] at hskip
      obtain ⟨rest', htext', -⟩ := hskip.cons
      rw [htext'] at hskip
      rcases hstep : r.step (c :: rest) with _ | ⟨r₁, left⟩
      · rw [Reading.run, htext] at hrun
        simp [hstep] at hrun
      · obtain ⟨left', hstep', hinside, hleft⟩ := inside_step outermost hskip hstep
        rw [run_step r htext hstep] at hrun
        -- both runs take the same step, whichever way they end
        have hboth : ∀ n, Reading.run (n + 1) r text' = Reading.run n r₁ left' ∧
            Reading.run (n + 1) (r.inside outermost) text' =
              Reading.run n (r₁.inside outermost) left' := fun n =>
          ⟨run_step r htext' hstep', run_step (r.inside outermost) htext' hinside⟩
        refine (ih r₁ hleft hrun).imp (fun hall n hn => ?_) fun hall n hn => ?_
        all_goals
          obtain ⟨m, rfl⟩ : ∃ m, n = m + 1 := ⟨n - 1, by omega⟩
          rw [(hboth m).1, (hboth m).2]
          exact hall m (by omega)

end Reading

/-! ## The expression of a tied pattern -/

/-- Behind the opening, a tied pattern is read inside the outermost group. -/
theorem run_opening (n : Nat) (text : List Char) :
    Reading.run (n + 2) {} ('\\' :: 'A' :: '(' :: '?' :: ':' :: text) =
      Reading.run n (Reading.inside Reading.outermost {}) text := by
  rfl

/-- Where a text and its tied form both spell expressions, the second is the first as one group,
between the start and the end of the value. -/
theorem ofText?_anchored {source : String} {e tied : Expr}
    (h : Expr.ofText? source.toList = some e)
    (htied : Expr.ofText? (anchored source).toList = some tied) : tied = e.tied := by
  have htext : (anchored source).toList =
      '\\' :: 'A' :: '(' :: '?' :: ':' :: (source.toList ++ closing) := by
    simp [anchored, closing]
  rw [htext] at htied
  obtain ⟨hrun, -⟩ := Option.filter_eq_some_iff.mp h
  obtain ⟨hrun', -⟩ := Option.filter_eq_some_iff.mp htied
  have hfuel : ('\\' :: 'A' :: '(' :: '?' :: ':' :: (source.toList ++ closing)).length + 1 =
      (source.toList.length + 7) + 2 := by
    simp [closing]
  rw [hfuel, run_opening] at hrun'
  rcases Reading.run_inside _ {} (.append source.toList) hrun with hall | hall
  · rw [(hall _ (by omega)).2] at hrun'
    exact (Option.some.inj hrun').symm
  · rw [(hall _ (by omega)).2] at hrun'
    simp at hrun'

/-! ## What a tied pattern matches -/

/-- A pattern that is tied to both ends of the value. -/
def tied (q : Pattern) : Pattern :=
  .seq (.look .textStart) (.seq q (.look .textEnd))

/-- The flags that a pattern switches do not reach the ties. -/
theorem meaning?_tied (e : Expr) :
    e.tied.meaning? {} = (e.meaning? {}).map fun (q, _) => (q.tied, {}) := by
  have hflags : Flags.apply {} {} = {} := rfl
  simp only [Expr.tied, Expr.meaning?, Expr.meanings?, Option.bind_eq_bind, Option.bind_some,
    hflags]
  cases e.meaning? {} <;> rfl

/-- A tied pattern matches a text somewhere if and only if the pattern itself has a match that
covers the text. -/
theorem isMatch_tied (q : Pattern) (text : List Char) :
    q.tied.isMatch text = true ↔ q.Covers text := by
  rw [isMatch_iff, Covers]
  constructor
  · -- the ties leave no choice of where the match starts and ends
    rintro ⟨i, _, hi, _, ⟨rfl, -, hstart⟩, k, hq, rfl, -, hend⟩
    have hzero : i = 0 := by
      cases i with
      | zero => rfl
      | succ i => simp [Look.holds, charBefore] at hstart; omega
    have hlast : k = text.length := by
      have hbounds := spans_bounds text q i k hq
      simp [Look.holds] at hend
      omega
    rwa [hzero, hlast] at hq
  · intro hq
    have hstart : Spans text (.look .textStart) 0 0 := ⟨rfl, Nat.zero_le _, rfl⟩
    have hend : Spans text (.look .textEnd) text.length text.length :=
      ⟨rfl, le_rfl, by simp [Look.holds]⟩
    exact ⟨0, text.length, Nat.zero_le _, 0, hstart, text.length, hq, hend⟩

/-- Where a text and its tied form both spell patterns, the second is the first, tied. -/
theorem pattern_anchored {source : String} {q p : Pattern} (h : ofText? source = some q)
    (htied : ofText? (anchored source) = some p) : p = q.tied := by
  obtain ⟨e, he, h⟩ := Option.bind_eq_some_iff.mp h
  obtain ⟨⟨q', flags⟩, hq, h⟩ := Option.bind_eq_some_iff.mp h
  obtain ⟨-, h⟩ := Option.ite_none_right_eq_some.mp h
  obtain rfl := Option.some.inj h
  obtain ⟨e', he', htied⟩ := Option.bind_eq_some_iff.mp htied
  obtain ⟨⟨p', flags'⟩, hp, htied⟩ := Option.bind_eq_some_iff.mp htied
  obtain ⟨-, htied⟩ := Option.ite_none_right_eq_some.mp htied
  obtain rfl := Option.some.inj htied
  obtain rfl := ofText?_anchored he he'
  rw [meaning?_tied, hq, Option.map_some] at hp
  exact (Prod.mk.inj (Option.some.inj hp)).1.symm

end Pattern

namespace FullPattern

open Pattern

/-- What is behind a compiled pattern. -/
theorem ofSource_eq_ok {source : String} {p : FullPattern} (h : ofSource source = .ok p) :
    p.source = source ∧ ∃ q, ofText? source = some q ∧ p.pattern = q.tied := by
  unfold ofSource at h
  split_ifs at h with hlong hbare
  split at h
  · next pattern hpattern =>
    obtain rfl := Except.ok.inj h
    rcases hq : ofText? source with _ | q
    · simp [hq] at hbare
    · exact ⟨rfl, q, rfl, pattern_anchored hq hpattern⟩
  · simp at h

/-- A compiled pattern matches a value if and only if the pattern as it was written has a match that
covers the value. -/
theorem isMatch_iff_covers {source : String} {p : FullPattern} (h : ofSource source = .ok p) :
    ∃ q, ofText? source = some q ∧
      ∀ value, p.isMatch value = true ↔ q.Covers value.toList := by
  obtain ⟨-, q, hq, hp⟩ := ofSource_eq_ok h
  refine ⟨q, hq, fun value => ?_⟩
  rw [isMatch, hp, isMatch_tied]

/-- A pattern cannot escape its anchors. Tied to both ends of the value, it is read as one group in
between; and what was compiled matches a value, as a test of a text or of a header, if and only if
the pattern as it was written has a match that covers the value. -/
theorem anchors_hold (source : String) :
    (∀ e tied, Expr.ofText? source.toList = some e →
      Expr.ofText? (anchored source).toList = some tied →
      tied = .sequence [.assertion .textStart, .group false {} e, .assertion .textEnd]) ∧
    ∀ p, ofSource source = .ok p →
      ∃ q m, ofText? source = some q ∧ TextMatcher.ofPattern source = .ok m ∧ ∀ value,
        (p.isMatch value = true ↔ q.Covers value.toList) ∧
        (m.accepts value = true ↔ q.Covers value.toList) ∧
        ∀ name inverted,
          (HeaderMatcher.ofName name (.pattern p) inverted).acceptsValue (some value) = true ↔
            (q.Covers value.toList ↔ inverted = false) := by
  constructor
  · intro e tied he htied
    exact ofText?_anchored he htied
  · intro p hp
    obtain ⟨q, hq, hiff⟩ := isMatch_iff_covers hp
    have hmatcher : TextMatcher.ofPattern source = .ok (.pattern p) := by
      rw [TextMatcher.ofPattern, hp]
      rfl
    refine ⟨q, .pattern p, hq, hmatcher, fun value => ⟨hiff value, hiff value, ?_⟩⟩
    intro name inverted
    rw [← hiff value]
    cases inverted <;> simp [HeaderMatcher.ofName, HeaderMatcher.acceptsValue, HeaderTest.accepts]

/-- A parenthesis in a comment closes no group, and no branch leaves the anchors behind. -/
theorem anchors_hold_comment :
    Expr.ofText? (anchored "(?x)a|b#)\n").toList =
      some (.sequence [.assertion .textStart,
        .group false {} (.alternatives
          [.sequence [.flags ⟨[.verbose], []⟩, .literal ⟨'a', false⟩], .literal ⟨'b', false⟩]),
        .assertion .textEnd]) ∧
    ∃ p, ofSource "(?x)a|b#)\n" = .ok p ∧ p.isMatch "b" = true ∧ p.isMatch "ab" = false := by
  obtain ⟨htree, hmatch⟩ := anchors_hold "(?x)a|b#)\n"
  constructor
  · have hbare : Expr.ofText? "(?x)a|b#)\n".toList = some (.alternatives
        [.sequence [.flags ⟨[.verbose], []⟩, .literal ⟨'a', false⟩], .literal ⟨'b', false⟩]) := by
      rfl
    obtain ⟨tied, htied⟩ : ∃ tied, Expr.ofText? (anchored "(?x)a|b#)\n").toList = some tied :=
      Option.isSome_iff_exists.mp (by decide +kernel)
    rw [htied, htree _ tied hbare htied]
  · have hok : (ofSource "(?x)a|b#)\n").isOk = true := by decide +kernel
    have hb : ((ofText? "(?x)a|b#)\n").all (·.Covers "b".toList)) = true := by decide +kernel
    have hab : ((ofText? "(?x)a|b#)\n").any (·.Covers "ab".toList)) = false := by decide +kernel
    rcases hp : ofSource "(?x)a|b#)\n" with error | p
    · simp [hp, Except.isOk, Except.toBool] at hok
    · obtain ⟨q, _, hq, -, hiff⟩ := hmatch p hp
      rw [hq, Option.all_some, decide_eq_true_eq] at hb
      rw [hq, Option.any_some, decide_eq_false_iff_not] at hab
      refine ⟨p, rfl, (hiff "b").1.mpr hb, Bool.eq_false_iff.mpr fun h => hab ((hiff "ab").1.mp h)⟩

end FullPattern

end AccessPolicy
