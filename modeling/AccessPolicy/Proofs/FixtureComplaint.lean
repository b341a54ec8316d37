import AccessPolicy.Proofs.Document.Spec
import AccessPolicy.Proofs.Engine.Decision
import AccessPolicy.Proofs.Fixture

/-!
# What a fixture complains of

A fixture is met in one of two ways: its document is compiled and the engine decides on every case
as expected, or a part of a message is expected and the document is refused with a message that has
this part. This module shows that a fixture complains of nothing if and only if it is met, whatever
is known of the reasons in messages, and that a complaint about a decision is about the first case
that is decided otherwise than expected.

Main results:

* `Case.passed_run_iff` — when the result of a case counts as passed;
* `Fixture.complaintGiven_of_ok`, `Fixture.complaintGiven_of_error` — what is complained of, by what
  becomes of the document;
* `Fixture.complaintGiven_settles` — what a complaint, or none, says about the fixture.
-/

namespace AccessPolicy

/-- Whether an engine decides on a case as it is expected to. -/
structure Case.Met (engine : Engine) (case_ : Case) : Prop where
  verdict : (engine.evaluate case_.spec.call.request).verdict = case_.expected.verdict
  /-- A policy that is given is the one that decides. -/
  policy : ∀ name, case_.expected.policy = some name →
    (engine.evaluate case_.spec.call.request).policy = some name
  /-- Where no policy is given none matches. -/
  no_policy : case_.expected.policy = none →
    ∀ policy ∈ engine.policies, policy.holds case_.spec.call.request = false

namespace Engine

/-- A decision names no policy just if none matches. -/
theorem policy_evaluate_eq_none_iff (engine : Engine) (request : Request) :
    (engine.evaluate request).policy = none ↔
      ∀ policy ∈ engine.policies, policy.holds request = false := by
  rw [policy_evaluate, Option.map_eq_none_iff, List.find?_eq_none]
  simp only [Bool.not_eq_true]

end Engine

theorem Case.passed_run_iff (engine : Engine) (case_ : Case) :
    (case_.run engine).passed = true ↔ case_.Met engine := by
  rw [(case_.answeredBy_run engine).passed]
  have hactual : (case_.run engine).actual = engine.evaluate case_.spec.call.request := rfl
  rw [hactual]
  constructor
  · rintro ⟨hverdict, hpolicy⟩
    refine ⟨hverdict, fun name hname => hpolicy.trans hname, fun hnone => ?_⟩
    exact (engine.policy_evaluate_eq_none_iff _).mp (hpolicy.trans hnone)
  · intro h
    refine ⟨h.verdict, ?_⟩
    cases hexpected : case_.expected.policy with
    | none => exact (engine.policy_evaluate_eq_none_iff _).mpr (h.no_policy hexpected)
    | some name => exact h.policy name hexpected

namespace Fixture

/-- Whether what a fixture expects comes true. -/
inductive Met (reason : String → Option String) (fixture : Fixture) : Prop where
  /-- The document is compiled, and all cases are met. -/
  | decides {engine : Engine} (hexpected : fixture.expectedError = none)
    (hcompile : fixture.document.compile = .ok engine)
    (hcases : ∀ case_ ∈ fixture.cases, case_.Met engine)
  /-- The document is refused with the expected part in the message. The cases do not count. -/
  | refuses {e : Error} {expected : String} (hexpected : fixture.expectedError = some expected)
    (hcompile : fixture.document.compile = .error e)
    (hpart : expected.toList <:+: (e.messageWith reason).toList)

/-- Whether a result is that of the first case that is not met. -/
inductive FirstUnmet (fixture : Fixture) : CaseResult → Prop where
  | intro {engine : Engine} {case_ : Case} {before behind : List Case}
    (hexpected : fixture.expectedError = none)
    (hcompile : fixture.document.compile = .ok engine)
    (hcases : fixture.cases = before ++ case_ :: behind)
    (hbefore : ∀ earlier ∈ before, earlier.Met engine) (hunmet : ¬ case_.Met engine) :
    FirstUnmet fixture
      ⟨case_.name, case_.expected, engine.evaluate case_.spec.call.request⟩

/-! ## By what becomes of the document -/

variable {reason : String → Option String} {fixture : Fixture}

theorem complaintGiven_of_ok {engine : Engine} (h : fixture.document.compile = .ok engine) :
    fixture.complaintGiven reason = match fixture.expectedError with
      | none => ((fixture.cases.find? fun case_ => !(case_.run engine).passed).map
          (Case.run engine)).map .wrongDecision
      | some expected => some (.noError expected) := by
  rw [complaintGiven, run_of_compile h]
  cases fixture.expectedError with
  | none => simp only [List.find?_map, Function.comp_def]
  | some expected => rfl

theorem complaintGiven_of_error {e : Error} (h : fixture.document.compile = .error e) :
    fixture.complaintGiven reason = match fixture.expectedError with
      | none => some (.refused e)
      | some expected =>
        if Text.occursIn expected.toList (e.messageWith reason).toList then none
        else some (.wrongError e expected) := by
  have hrun : fixture.run = .error e := by
    rw [run, h]
    rfl
  rw [complaintGiven, hrun]
  cases fixture.expectedError <;> rfl

theorem met_iff_of_ok {engine : Engine} (h : fixture.document.compile = .ok engine) :
    fixture.Met reason ↔
      fixture.expectedError = none ∧ ∀ case_ ∈ fixture.cases, case_.Met engine := by
  constructor
  · rintro (⟨hexpected, hcompile, hcases⟩ | ⟨-, hcompile, -⟩)
    · obtain rfl := Except.ok.inj (h.symm.trans hcompile)
      exact ⟨hexpected, hcases⟩
    · simp [h] at hcompile
  · rintro ⟨hexpected, hcases⟩
    exact .decides hexpected h hcases

theorem met_iff_of_error {e : Error} (h : fixture.document.compile = .error e) :
    fixture.Met reason ↔ ∃ expected, fixture.expectedError = some expected ∧
      expected.toList <:+: (e.messageWith reason).toList := by
  constructor
  · rintro (⟨-, hcompile, -⟩ | ⟨hexpected, hcompile, hpart⟩)
    · simp [h] at hcompile
    · obtain rfl := Except.error.inj (h.symm.trans hcompile)
      exact ⟨_, hexpected, hpart⟩
  · rintro ⟨expected, hexpected, hpart⟩
    exact .refuses hexpected h hpart

/-! ## Complaints and expectations -/

theorem complaintGiven_eq_none_iff :
    fixture.complaintGiven reason = none ↔ fixture.Met reason := by
  cases hcompile : fixture.document.compile with
  | ok engine =>
    rw [complaintGiven_of_ok hcompile, met_iff_of_ok hcompile]
    cases fixture.expectedError with
    | none => simp [List.find?_eq_none, Case.passed_run_iff]
    | some expected => simp
  | error e =>
    rw [complaintGiven_of_error hcompile, met_iff_of_error hcompile]
    cases fixture.expectedError with
    | none => simp
    | some expected => simp [occursIn_iff]

theorem complaintGiven_eq_wrongDecision_iff {result : CaseResult} :
    fixture.complaintGiven reason = some (.wrongDecision result) ↔ fixture.FirstUnmet result := by
  constructor
  · intro h
    cases hcompile : fixture.document.compile with
    | ok engine =>
      rw [complaintGiven_of_ok hcompile] at h
      cases hexpected : fixture.expectedError with
      | none =>
        rw [hexpected] at h
        simp only [Option.map_eq_some_iff, Complaint.wrongDecision.injEq, exists_eq_right] at h
        obtain ⟨case_, hfind, rfl⟩ := h
        obtain ⟨hunmet, before, behind, hcases, hbefore⟩ :=
          List.find?_eq_some_iff_append.mp hfind
        refine .intro hexpected hcompile hcases (fun earlier hearlier => ?_) fun hmet => ?_
        · have hpassed := hbefore earlier hearlier
          rw [Bool.not_not] at hpassed
          exact (Case.passed_run_iff engine earlier).mp hpassed
        · rw [(Case.passed_run_iff engine case_).mpr hmet] at hunmet
          exact Bool.noConfusion hunmet
      | some expected => simp [hexpected] at h
    | error e =>
      rw [complaintGiven_of_error hcompile] at h
      split at h
      · simp at h
      · split at h <;> simp at h
  · rintro @⟨engine, case_, before, behind, hexpected, hcompile, hcases, hbefore, hunmet⟩
    rw [complaintGiven_of_ok hcompile, hexpected]
    have hfind : (fixture.cases.find? fun case_ => !(case_.run engine).passed) = some case_ := by
      refine List.find?_eq_some_iff_append.mpr ⟨?_, before, behind, hcases, fun earlier h => ?_⟩
      · rw [Bool.not_eq_true', Bool.eq_false_iff, Ne, Case.passed_run_iff]
        exact hunmet
      · rw [Bool.not_not, Case.passed_run_iff]
        exact hbefore earlier h
    simp only [hfind]
    rfl

/-- A fixture complains neither too much nor too little. It complains of nothing just if it is met:
either no error is expected, the document is compiled, and every case is decided as expected, or an
error is expected, and the document is refused with a message that has the expected part in it,
whatever the cases are. Where it complains of a decision it is that on the first case that is not
met, and if there is such a case it does complain of it. -/
theorem complaintGiven_settles (reason : String → Option String) (fixture : Fixture) :
    (fixture.complaintGiven reason = none ↔ fixture.Met reason) ∧
    ∀ result, fixture.complaintGiven reason = some (.wrongDecision result) ↔
      fixture.FirstUnmet result :=
  ⟨complaintGiven_eq_none_iff, fun _ => complaintGiven_eq_wrongDecision_iff⟩

end Fixture

end AccessPolicy
