import ClientGen.Recovery.Run

/-!
# Runs that are alike

Two runs, on states of their own, are compared up to what is taken to be of no account: in the errors of the primary
way, in the reports made of them and in the counters. A `Likeness` says what that is, and that nothing which a run does
to counters and reports brings it to light. Runs of attempts that are alike are then alike themselves.
-/

namespace ClientGen

variable {σ τ α : Type}

/-- Two results are the same value or errors that are related, and the states beside them are related. -/
inductive EndAlike (E : EmitError → EmitError → Prop) (R : σ → τ → Prop) :
    Except EmitError α × σ → Except EmitError α × τ → Prop where
  | ok (a : α) {s : σ} {t : τ} : R s t → EndAlike E R (.ok a, s) (.ok a, t)
  | error {e e' : EmitError} {s : σ} {t : τ} : E e e' → R s t → EndAlike E R (.error e, s) (.error e', t)

/-- From related states, two attempts end alike. -/
def Attempt.Alike (E : EmitError → EmitError → Prop) (R : σ → τ → Prop) (a : Attempt σ α) (b : Attempt τ α) : Prop :=
  ∀ ⦃s t⦄, R s t → EndAlike E R (a s) (b t)

/-- However often it is retried, an attempt ends like one that is alike, after as many tries. -/
theorem Attempt.Alike.retry {E : EmitError → EmitError → Prop} {R : σ → τ → Prop} {a : Attempt σ α} {b : Attempt τ α}
    (h : a.Alike E R b) (n count : Nat) : Attempt.Alike E R (retry a n count) (retry b n count) := by
  intro s t hst
  induction n generalizing count s t with
  | zero =>
    have hends := h hst
    unfold ClientGen.retry
    generalize a s = x, b t = y at hends
    cases hends with
    | ok v hstate => exact .ok (v, count) hstate
    | error he hstate => exact .error he hstate
  | succ n ih =>
    have hends := h hst
    unfold ClientGen.retry
    generalize a s = x, b t = y at hends
    cases hends with
    | ok v hstate => exact .ok (v, count) hstate
    | error _ hstate => exact ih (count + 1) hstate

/-- What is of no account when runs are compared. -/
structure Likeness where
  errors : EmitError → EmitError → Prop
  reports : Option FailureReport → Option FailureReport → Prop
  counters : Counters → Counters → Prop
  no_report : reports none none
  report : ∀ (context : String) (attempts : Nat) {e e' : EmitError}, errors e e' →
    reports (some (.ofError context attempts e)) (some (.ofError context attempts e'))
  errorCount : ∀ {c c' : Counters}, counters c c' → ∀ context, c.errorCount context = c'.errorCount context
  state : ∀ {c c' : Counters}, counters c c' → ∀ context, c.state context = c'.state context
  enter : ∀ {c c' : Counters}, counters c c' → ∀ context s, counters (c.enter context s) (c'.enter context s)
  succeed : ∀ {c c' : Counters}, counters c c' → ∀ context, counters (c.succeed context) (c'.succeed context)
  fail : ∀ {c c' : Counters} {e e' : EmitError}, counters c c' → errors e e' → ∀ context,
    counters (c.fail context (.ofMessage e.message)) (c'.fail context (.ofMessage e'.message))

/-- Two outcomes differ in their reports at most, or both are the same error. -/
inductive Likeness.Outcomes (L : Likeness) :
    Except BuildError (Outcome α) → Except BuildError (Outcome α) → Prop where
  | ok {failure failure' : Option FailureReport} (value : α) (via : Via) (attempts : Nat) (state : RecoveryState) :
    L.reports failure failure' →
      L.Outcomes (.ok ⟨value, via, attempts, state, failure⟩) (.ok ⟨value, via, attempts, state, failure'⟩)
  | error (e : BuildError) : L.Outcomes (.error e) (.error e)

/-- What two runs come to is alike. -/
structure Likeness.Runs (L : Likeness) (R : σ → τ → Prop) (x : Except BuildError (Outcome α) × Counters × σ)
    (y : Except BuildError (Outcome α) × Counters × τ) : Prop where
  outcomes : L.Outcomes x.1 y.1
  counters : L.counters x.2.1 y.2.1
  states : R x.2.2 y.2.2

/-- Nothing is of no account. -/
def Likeness.equal : Likeness where
  errors := Eq
  reports := Eq
  counters := Eq
  no_report := rfl
  report context attempts _ _ h := congrArg (fun e => some (FailureReport.ofError context attempts e)) h
  errorCount h context := congrArg (Counters.errorCount · context) h
  state h context := congrArg (Counters.state · context) h
  enter h context s := congrArg (Counters.enter · context s) h
  succeed h context := congrArg (Counters.succeed · context) h
  fail h he context := by rw [h, he]

theorem Likeness.Runs.eq {R : σ → τ → Prop} {x : Except BuildError (Outcome α) × Counters × σ}
    {y : Except BuildError (Outcome α) × Counters × τ} (h : Likeness.equal.Runs R x y) :
    x.1 = y.1 ∧ x.2.1 = y.2.1 ∧ R x.2.2 y.2.2 := by
  refine ⟨?_, h.counters, h.states⟩
  have houtcomes := h.outcomes
  generalize x.1 = r, y.1 = r' at houtcomes
  cases houtcomes with
  | ok value via attempts state hreport =>
    obtain rfl := hreport
    rfl
  | error e => rfl

namespace Recovery

variable {L : Likeness} {R : σ → τ → Prop} {context : String} {primary baseline : Attempt σ α}
  {primary' baseline' : Attempt τ α} {c c' : Counters} {s : σ} {t : τ}

theorem withoutPrimary_alike (hbaseline : baseline.Alike Eq R baseline') (hc : L.counters c c') (hst : R s t) :
    L.Runs R (withoutPrimary context baseline c s) (withoutPrimary context baseline' c' t) := by
  have hends := hbaseline hst
  unfold withoutPrimary
  generalize baseline s = x, baseline' t = y at hends
  cases hends with
  | ok a hstate =>
    rw [L.state hc]
    exact ⟨.ok a _ _ _ L.no_report, hc, hstate⟩
  | error he hstate =>
    subst he
    exact ⟨.error _, hc, hstate⟩

theorem fallBack_alike (attempts : Nat) {failure failure' : Option FailureReport} (hfailure : L.reports failure failure')
    (hbaseline : baseline.Alike Eq R baseline') (hc : L.counters c c') (hst : R s t) :
    L.Runs R (fallBack context attempts failure baseline c s) (fallBack context attempts failure' baseline' c' t) := by
  have hends := hbaseline hst
  unfold fallBack
  generalize baseline s = x, baseline' t = y at hends
  cases hends with
  | ok a hstate => exact ⟨.ok a _ _ _ hfailure, L.enter (L.enter hc _ _) _ _, hstate⟩
  | error he hstate =>
    subst he
    exact ⟨.error _, L.enter hc _ _, hstate⟩

theorem withPrimary_alike (policy : RetryPolicy) (hprimary : primary.Alike L.errors R primary')
    (hbaseline : baseline.Alike Eq R baseline') (hc : L.counters c c') (hst : R s t) :
    L.Runs R (withPrimary policy context primary baseline c s) (withPrimary policy context primary' baseline' c' t) := by
  have hends := hprimary.retry (policy.attempts - 1) 1 hst
  unfold withPrimary
  generalize retry primary (policy.attempts - 1) 1 s = x, retry primary' (policy.attempts - 1) 1 t = y at hends
  cases hends with
  | ok r hstate => exact ⟨.ok _ _ _ _ L.no_report, L.succeed hc _, hstate⟩
  | error he hstate =>
    have hreport := L.report context policy.attempts he
    dsimp only [FailureReport.ofError] at hreport ⊢
    exact fallBack_alike policy.attempts hreport hbaseline (L.fail hc he context) hstate

/-- Runs of attempts that are alike are alike: nothing that a run decides depends on what is of no account. -/
theorem run_alike (policy : RetryPolicy) (context : String) (enabled : Bool)
    (hprimary : primary.Alike L.errors R primary') (hbaseline : baseline.Alike Eq R baseline') (hc : L.counters c c')
    (hst : R s t) :
    L.Runs R (run policy context enabled primary baseline c s) (run policy context enabled primary' baseline' c' t) := by
  unfold run
  rw [L.errorCount hc]
  cases enabled with
  | false => exact withoutPrimary_alike hbaseline hc hst
  | true =>
    by_cases hreached : policy.fallbackThreshold ≤ c'.errorCount context
    · simp only [Bool.not_true, Bool.false_eq_true, if_false, if_pos hreached]
      exact fallBack_alike 0 L.no_report hbaseline hc hst
    · simp only [Bool.not_true, Bool.false_eq_true, if_false, if_neg hreached]
      exact withPrimary_alike policy hprimary hbaseline (L.enter hc _ _) hst

end Recovery

end ClientGen
