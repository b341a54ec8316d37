/-!
# Results that may be errors

What it takes for a computation in several steps to succeed, and what makes it fail. A computation
that stops at the first thing that is wrong can be compared with a list of all that is wrong: it
reports the head of the list (`Reports`), and such lists are joined as the steps are (`Reports.bind`).
-/

namespace AccessPolicy

variable {ε α β γ : Type}

theorem bind_eq_ok {x : Except ε α} {f : α → Except ε β} {b : β} :
    (x >>= f) = .ok b ↔ ∃ a, x = .ok a ∧ f a = .ok b := by
  cases x with
  | error e => simp [bind, Except.bind]
  | ok a => simp [bind, Except.bind]

theorem bind_eq_error {x : Except ε α} {f : α → Except ε β} {e : ε} :
    (x >>= f) = .error e ↔ x = .error e ∨ ∃ a, x = .ok a ∧ f a = .error e := by
  cases x with
  | error e => simp [bind, Except.bind]
  | ok a => simp [bind, Except.bind]

/-- A check passes and is followed by success. -/
theorem check_bind_eq_ok {check : Except ε Unit} {x : Except ε α} {a : α} :
    (check >>= fun _ => x) = .ok a ↔ check = .ok () ∧ x = .ok a := by
  rw [bind_eq_ok]
  constructor
  · rintro ⟨⟨⟩, hcheck, hx⟩
    exact ⟨hcheck, hx⟩
  · rintro ⟨hcheck, hx⟩
    exact ⟨(), hcheck, hx⟩

/-- A check fails, or it passes and what follows fails. -/
theorem check_bind_eq_error {check : Except ε Unit} {x : Except ε α} {e : ε} :
    (check >>= fun _ => x) = .error e ↔ check = .error e ∨ check = .ok () ∧ x = .error e := by
  rw [bind_eq_error]
  refine or_congr_right ?_
  constructor
  · rintro ⟨⟨⟩, hcheck, hx⟩
    exact ⟨hcheck, hx⟩
  · rintro ⟨hcheck, hx⟩
    exact ⟨(), hcheck, hx⟩

/-- Where a computation succeeds, so does its first step. -/
theorem exists_of_bind_eq_ok {x : Except ε α} {f : α → Except ε β} {b : β}
    (h : (x >>= f) = .ok b) : ∃ a, x = .ok a := by
  obtain ⟨a, ha, -⟩ := bind_eq_ok.mp h
  exact ⟨a, ha⟩

/-- A last step that cannot fail is taken with what was computed before. -/
theorem bind_pure_of_eq_ok {x : Except ε α} {a : α} (h : x = .ok a) (f : α → β) :
    (x >>= fun a => pure (f a)) = .ok (f a) := by
  rw [h]
  rfl

/-- A computation whose last step cannot fail succeeds where its first step does. -/
theorem exists_bind_pure_eq_ok {x : Except ε α} {f : α → β} :
    (∃ b, (x >>= fun a => pure (f a)) = .ok b) ↔ ∃ a, x = .ok a := by
  cases x with
  | error e => simp [bind, Except.bind]
  | ok a => simp [bind, Except.bind, pure, Except.pure]

/-- A computation in two steps, of which neither depends on the other, succeeds where both do. -/
theorem exists_bind_bind_pure_eq_ok {x : Except ε α} {y : Except ε β} {f : α → β → γ} :
    (∃ c, (x >>= fun a => y >>= fun b => pure (f a b)) = .ok c) ↔
      (∃ a, x = .ok a) ∧ ∃ b, y = .ok b := by
  cases x with
  | error e => simp [bind, Except.bind]
  | ok a => cases y <;> simp [bind, Except.bind, pure, Except.pure]

@[simp]
theorem throw_ne_ok {e : ε} {a : α} : (throw e : Except ε α) ≠ .ok a := by
  simp [throw, throwThe, MonadExceptOf.throw]

theorem map_eq_ok {x : Except ε α} {f : α → β} {b : β} :
    x.map f = .ok b ↔ ∃ a, x = .ok a ∧ f a = b := by
  cases x with
  | error e => simp [Except.map]
  | ok a => simp [Except.map]

theorem exists_map_eq_ok {x : Except ε α} {f : α → β} :
    (∃ b, x.map f = .ok b) ↔ ∃ a, x = .ok a := by
  cases x with
  | error e => simp [Except.map]
  | ok a => simp [Except.map]

/-! ## The kind of an error -/

/-- A computation fails with errors of one kind alone. -/
def FailsWith (P : ε → Prop) (x : Except ε α) : Prop :=
  ∀ e, x = .error e → P e

section FailsWith

variable {P : ε → Prop}

theorem failsWith_ok (a : α) : FailsWith P (.ok a : Except ε α) := by
  intro e h
  cases h

theorem failsWith_error {e : ε} (h : P e) : FailsWith P (.error e : Except ε α) := by
  rintro _ ⟨rfl⟩
  exact h

theorem FailsWith.mono {Q : ε → Prop} {x : Except ε α} (hx : FailsWith P x)
    (hPQ : ∀ e, P e → Q e) : FailsWith Q x :=
  fun e h => hPQ e (hx e h)

theorem FailsWith.bind {x : Except ε α} {f : α → Except ε β} (hx : FailsWith P x)
    (hf : ∀ a, FailsWith P (f a)) : FailsWith P (x >>= f) := by
  intro e h
  rcases bind_eq_error.mp h with h | ⟨a, -, h⟩
  · exact hx e h
  · exact hf a e h

theorem FailsWith.map {x : Except ε α} {f : α → β} (hx : FailsWith P x) :
    FailsWith P (x.map f) := by
  cases x with
  | error e => exact failsWith_error (hx e rfl)
  | ok a => exact failsWith_ok (f a)

end FailsWith

/-! ## Reporting the first fault -/

/-- A computation reports the first of some faults, and succeeds if there is none. -/
def Reports (x : Except ε α) (faults : List ε) : Prop :=
  ∀ e, x = .error e ↔ faults.head? = some e

/-- The error of a computation that fails. -/
def faultsOf : Except ε α → List ε
  | .error e => [e]
  | .ok _ => []

theorem reports_faultsOf (x : Except ε α) : Reports x (faultsOf x) := by
  intro e
  cases x with
  | error e => simp [faultsOf]
  | ok a => simp [faultsOf]

theorem mem_faultsOf {x : Except ε α} {e : ε} : e ∈ faultsOf x ↔ x = .error e := by
  cases x with
  | error e => simp [faultsOf, eq_comm]
  | ok a => simp [faultsOf]

theorem FailsWith.of_mem {P : ε → Prop} {x : Except ε α} (h : FailsWith P x) :
    ∀ e ∈ faultsOf x, P e :=
  fun e he => h e (mem_faultsOf.mp he)

theorem reports_ok (a : α) : Reports (.ok a : Except ε α) [] := reports_faultsOf (.ok a)

theorem Reports.mem {x : Except ε α} {faults : List ε} {e : ε} (h : Reports x faults)
    (hx : x = .error e) : e ∈ faults :=
  List.mem_of_mem_head? ((h e).mp hx)

/-- A computation succeeds where there is nothing to report. -/
theorem Reports.exists_ok_iff {x : Except ε α} {faults : List ε} (h : Reports x faults) :
    (∃ a, x = .ok a) ↔ faults = [] := by
  constructor
  · rintro ⟨a, rfl⟩
    cases faults with
    | nil => rfl
    | cons e rest => exact absurd ((h e).mpr rfl) (by simp)
  · rintro rfl
    cases x with
    | error e => exact absurd ((h e).mp rfl) (by simp)
    | ok a => exact ⟨a, rfl⟩

/-- What comes later is reported only if there is nothing to report before it. -/
theorem Reports.bind {x : Except ε α} {f : α → Except ε β} {faults more : List ε}
    (hx : Reports x faults) (hf : ∀ a, x = .ok a → Reports (f a) more) :
    Reports (x >>= f) (faults ++ more) := by
  intro e
  cases x with
  | error first =>
    -- the first step has something to report, so what comes later does not count
    have hfirst : faults.head? = some first := (hx first).mp rfl
    rw [List.head?_append, hfirst, Option.some_or]
    show Except.error first = Except.error e ↔ some first = some e
    simp
  | ok a =>
    obtain rfl : faults = [] := hx.exists_ok_iff.mp ⟨a, rfl⟩
    exact hf a rfl e

/-- A last step that cannot fail has nothing to report. -/
theorem Reports.bind_pure {x : Except ε α} {f : α → β} {faults : List ε} (hx : Reports x faults) :
    Reports (x >>= fun a => pure (f a)) faults := by
  have h := hx.bind fun a _ => reports_ok (f a)
  rwa [List.append_nil] at h

end AccessPolicy
