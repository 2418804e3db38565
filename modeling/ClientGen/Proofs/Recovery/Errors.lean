import ClientGen.Proofs.Recovery.Calls
import ClientGen.Proofs.Recovery.History

/-!
# Errors decide nothing

Two sequences of calls go over the same contexts with the same switches. Their baselines behave alike, and their
primary ways succeed at the same tries with the same values, but the errors in between have nothing in common. All that
can be seen of the two sequences is the same, except what the reports of failures say and the categories that are put
on record.
-/

namespace ClientGen

variable {σ τ α : Type}

/-- A report without what the error said and the category it was put in. -/
def FailureReport.bare (r : FailureReport) : FailureReport := { r with message := "", category := .unknown }

def Outcome.bare (o : Outcome α) : Outcome α := { o with failure := o.failure.map FailureReport.bare }

/-- What an error of the primary way says is of no account, and no more are the categories on record. -/
def Likeness.blind : Likeness where
  errors _ _ := True
  reports r r' := r.map FailureReport.bare = r'.map FailureReport.bare
  counters c c' := c.errors = c'.errors ∧ c.states = c'.states
  no_report := rfl
  report _ _ _ _ _ := rfl
  errorCount h context := by rw [Counters.errorCount, Counters.errorCount, h.1]
  state h context := by rw [Counters.state, Counters.state, h.2]
  enter h context s := ⟨h.1, congrArg (Dict.insert · context s) h.2⟩
  succeed h context := ⟨congrArg (Dict.insert · context 0) h.1, congrArg (Dict.insert · context RecoveryState.succeeded) h.2⟩
  fail h _ context := ⟨congrArg (Dict.update · context fun n => n.getD 0 + 1) h.1,
    congrArg (Dict.insert · context RecoveryState.failed) h.2⟩

theorem Likeness.Outcomes.bare_eq {r r' : Except BuildError (Outcome α)} (h : Likeness.blind.Outcomes r r') :
    r.map Outcome.bare = r'.map Outcome.bare := by
  cases h with
  | @ok failure failure' value via attempts state hreport =>
    have hbare : failure.map FailureReport.bare = failure'.map FailureReport.bare := hreport
    simp only [Except.map, Outcome.bare, hbare]
  | error e => rfl

/-- Attempts that are alike are so with their calls written down, of which the ways are the same. -/
theorem Attempt.Alike.logged {E : EmitError → EmitError → Prop} {R : σ → τ → Prop} {a : Attempt σ α}
    {b : Attempt τ α} (h : a.Alike E R b) (via : Via) :
    (a.logged via).Alike E (fun x y => R x.1 y.1 ∧ x.2.map Prod.fst = y.2.map Prod.fst) (b.logged via) := by
  rintro ⟨s, log⟩ ⟨t, log'⟩ ⟨hst, hlog⟩
  have hends := h hst
  rw [Attempt.logged_eq, Attempt.logged_eq]
  generalize a s = x, b t = y at hends ⊢
  have hlog' : ∀ r r' : Except EmitError α,
      (log ++ [(via, r)]).map Prod.fst = (log' ++ [(via, r')]).map Prod.fst := by
    intro r r'
    rw [List.map_append, List.map_append, hlog]
    rfl
  cases hends with
  | ok v hstate => exact .ok v (And.intro hstate (hlog' _ _))
  | error he hstate => exact .error he (And.intro hstate (hlog' _ _))

namespace Recovery

variable {policy : RetryPolicy} {R : σ → τ → Prop} {c c' : Counters} {s : σ} {t : τ}

/-- All that can be seen of a call: for a run, what it returns, which ways it calls in which order, and how often every
context has failed and where it stands afterwards. -/
inductive Observation : Type 1 where
  | reset
  | run (α : Type) (result : Except BuildError (Outcome α)) (calls : List Via) (errors : Dict String Nat)
    (states : Dict String RecoveryState)

def observe (policy : RetryPolicy) (st : Counters × σ) : Call σ → Observation
  | .reset => .reset
  | .run context enabled primary baseline =>
    let done := run policy context enabled primary baseline st.1 st.2
    let watched := run policy context enabled (primary.logged .declarative) (baseline.logged .baseline) st.1 (st.2, [])
    .run _ (done.1.map Outcome.bare) (watched.2.2.2.map Prod.fst) done.2.1.errors done.2.1.states

def observations (policy : RetryPolicy) (st : Counters × σ) : List (Call σ) → List Observation
  | [] => []
  | call :: rest => observe policy st call :: observations policy (perform policy st call) rest

/-- Two calls differ at most in what the errors of their primary ways say. -/
inductive Call.Alike (R : σ → τ → Prop) : Call σ → Call τ → Prop where
  | reset : Call.Alike R .reset .reset
  | run {α : Type} (context : String) (enabled : Bool) {primary baseline : Attempt σ α}
    {primary' baseline' : Attempt τ α} : primary.Alike (fun _ _ => True) R primary' → baseline.Alike Eq R baseline' →
      Call.Alike R (.run context enabled primary baseline) (.run context enabled primary' baseline')

/-- One call looks the same whatever the errors of its primary way say, and leaves nothing behind that would show in
later ones. -/
theorem observe_eq (policy : RetryPolicy) {call : Call σ} {call' : Call τ} (h : call.Alike R call')
    (hc : Likeness.blind.counters c c') (hst : R s t) :
    observe policy (c, s) call = observe policy (c', t) call' ∧
      Likeness.blind.counters (perform policy (c, s) call).1 (perform policy (c', t) call').1 ∧
      R (perform policy (c, s) call).2 (perform policy (c', t) call').2 := by
  cases h with
  | reset => exact ⟨rfl, ⟨rfl, rfl⟩, hst⟩
  | @run α context enabled primary baseline primary' baseline' hprimary hbaseline =>
    have hruns := run_alike policy context enabled (L := .blind) hprimary hbaseline hc hst
    have hcalls := (run_alike policy context enabled (L := .blind) (hprimary.logged .declarative)
      (hbaseline.logged .baseline) hc (s := (s, [])) (t := (t, [])) ⟨hst, rfl⟩).states.2
    refine ⟨?_, hruns.counters, hruns.states⟩
    simp only [observe]
    rw [hruns.outcomes.bare_eq, hcalls, hruns.counters.1, hruns.counters.2]

/-- Sequences of calls look the same whatever the errors of their primary ways say and whatever categories were on
record before. -/
theorem observations_eq (policy : RetryPolicy) {calls : List (Call σ)} {calls' : List (Call τ)}
    (hcalls : List.Forall₂ (Call.Alike R) calls calls') (herrors : c.errors = c'.errors) (hstates : c.states = c'.states)
    (hst : R s t) : observations policy (c, s) calls = observations policy (c', t) calls' := by
  have hc : Likeness.blind.counters c c' := ⟨herrors, hstates⟩
  clear herrors hstates
  induction hcalls generalizing c c' s t with
  | nil => rfl
  | cons hcall _ ih =>
    obtain ⟨hobserve, hc', hst'⟩ := observe_eq policy hcall hc hst
    rw [observations, observations, hobserve, ih hst' hc']

/-- A run whose primary way fails with one error over and over. -/
def failingWith (e : EmitError) (context : String) : Call Nat :=
  .run context true (fun calls => (.error e, calls + 1)) fun calls => (.ok (), calls)

theorem failingWith_alike (e e' : EmitError) (context : String) :
    (failingWith e context).Alike Eq (failingWith e' context) := by
  refine .run context true ?_ ?_
  · rintro s _ rfl
    exact .error trivial rfl
  · rintro s _ rfl
    exact .ok () rfl

/-- Two errors of different categories: the third run of a context is passed over either way. -/
theorem observations_eq_categories :
    let calls (e : EmitError) := ["a", "b", "a", "a"].map (failingWith e)
    observations ⟨1, 2, 0⟩ (.empty, 0) (calls (.render "x")) =
        observations ⟨1, 2, 0⟩ (.empty, 0) (calls (.missingModule "x")) ∧
      (performAll ⟨1, 2, 0⟩ (.empty, 0) (calls (.render "x"))).1.categories.get? "a" = some .renderFailure ∧
      (performAll ⟨1, 2, 0⟩ (.empty, 0) (calls (.missingModule "x"))).1.categories.get? "a" =
        some .moduleResolution := by
  intro calls
  have halike (context : String) : (failingWith (.render "x") context).Alike Eq
      (failingWith (.missingModule "x") context) := failingWith_alike _ _ context
  have hcalls : List.Forall₂ (Call.Alike Eq) (calls (.render "x")) (calls (.missingModule "x")) :=
    .cons (halike "a") (.cons (halike "b") (.cons (halike "a") (.cons (halike "a") .nil)))
  exact ⟨observations_eq ⟨1, 2, 0⟩ hcalls rfl rfl rfl, by decide, by decide⟩

end Recovery

end ClientGen
