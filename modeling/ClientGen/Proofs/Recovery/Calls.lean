import ClientGen.Proofs.Recovery.Likeness
import ClientGen.Proofs.Recovery.Run
import ClientGen.Recovery.Script
import Mathlib.Logic.Function.Iterate

/-!
# One run, call by call

A run is watched: each call of either way is written down in order, with how it ended. From what the calls would give
one after the other, with nothing in between, it follows which of them a run makes, what it returns and what it leaves
in the counters.
-/

namespace ClientGen

variable {σ α : Type}

/-- Calls in order, and how each of them ended. -/
abbrev CallLog (α : Type) := List (Via × Except EmitError α)

namespace Attempt

/-- The state after a number of calls. -/
def after (a : Attempt σ α) (s : σ) (n : Nat) : σ := (fun s => (a s).2)^[n] s

/-- How a call ends that has `n` others before it. -/
def call (a : Attempt σ α) (s : σ) (n : Nat) : Except EmitError α := (a (a.after s n)).1

/-- Of the calls one after the other, counted from one, the first to succeed is number `k`. -/
def FirstSuccess (a : Attempt σ α) (s : σ) (k : Nat) : Prop :=
  ∃ n, k = n + 1 ∧ (a.call s n).isOk = true ∧ ∀ j < n, (a.call s j).isOk = false

/-- The first `n` calls, as they are written down. -/
def calls (via : Via) (a : Attempt σ α) (s : σ) (n : Nat) : CallLog α :=
  (List.range n).map fun j => (via, a.call s j)

/-- An attempt beside a log, to which it adds its calls. -/
def logged (via : Via) (a : Attempt σ α) : Attempt (σ × CallLog α) α := fun (s, log) =>
  ((a s).1, (a s).2, log ++ [(via, (a s).1)])

variable {a : Attempt σ α} {s : σ} {k : Nat}

theorem after_succ (a : Attempt σ α) (s : σ) (n : Nat) : a.after s (n + 1) = a.after (a s).2 n := rfl

theorem FirstSuccess.pos (h : a.FirstSuccess s k) : 0 < k := by
  obtain ⟨n, rfl, _⟩ := h
  exact Nat.succ_pos n

/-- Two calls cannot both be the first to succeed. -/
theorem FirstSuccess.unique {k' : Nat} (h : a.FirstSuccess s k) (h' : a.FirstSuccess s k') : k = k' := by
  obtain ⟨n, rfl, hn, hbefore⟩ := h
  obtain ⟨n', rfl, hn', hbefore'⟩ := h'
  rcases Nat.lt_trichotomy n n' with hlt | rfl | hlt
  · exact absurd hn (by simp [hbefore' n hlt])
  · rfl
  · exact absurd hn' (by simp [hbefore n' hlt])

theorem forall_not_firstSuccess_iff {m : Nat} :
    (∀ k ≤ m, ¬ a.FirstSuccess s k) ↔ ∀ j < m, (a.call s j).isOk = false := by
  constructor
  · intro h j
    induction j using Nat.strongRecOn with
    | _ j ih =>
      intro hj
      by_contra hok
      exact h (j + 1) hj ⟨j, rfl, by simpa using hok, fun i hi => ih i hi (Nat.lt_trans hi hj)⟩
  · rintro h k hk ⟨n, rfl, hn, _⟩
    exact absurd hn (by simp [h n hk])

/-! ## Retries -/

/-- As long as the first success is within reach, retries end with it. -/
theorem retry_of_firstSuccess {n : Nat} (h : a.FirstSuccess s k) (hk : k ≤ n + 1) (count : Nat) :
    ∃ v, a.call s (k - 1) = .ok v ∧ retry a n count s = (.ok (v, count + k - 1), a.after s k) := by
  obtain ⟨i, rfl, hok, hbefore⟩ := h
  induction i generalizing n count s with
  | zero =>
    rcases ha : a s with ⟨e | v, s'⟩
    · simp [call, after, ha, Except.isOk, Except.toBool] at hok
    · refine ⟨v, by simp [call, after, ha], ?_⟩
      cases n <;> simp [retry, after, ha]
  | succ i ih =>
    obtain ⟨n, rfl⟩ : ∃ n', n = n' + 1 := ⟨n - 1, by omega⟩
    rcases ha : a s with ⟨e | v, s'⟩
    · have hlater : ∀ j < i, (a.call (a s).2 j).isOk = false := fun j hj => hbefore (j + 1) (Nat.succ_lt_succ hj)
      obtain ⟨v, hv, hretry⟩ := ih (s := (a s).2) (count + 1) (Nat.le_of_succ_le_succ hk) hok hlater
      refine ⟨v, hv, ?_⟩
      rw [ha] at hretry
      simp only [retry, ha, hretry, after_succ]
      rw [show count + 1 + (i + 1) - 1 = count + (i + 1 + 1) - 1 by omega]
    · have hfirst := hbefore 0 (Nat.succ_pos i)
      simp [call, after, ha, Except.isOk, Except.toBool] at hfirst

/-- Where no call succeeds that retries would make, they make them all and end with the last error. -/
theorem retry_of_no_success {n : Nat} (h : ∀ j ≤ n, (a.call s j).isOk = false) (count : Nat) :
    ∃ e, retry a n count s = (.error e, a.after s (n + 1)) := by
  induction n generalizing count s with
  | zero =>
    rcases ha : a s with ⟨e | v, s'⟩
    · exact ⟨e, by simp [retry, after, ha]⟩
    · have hfirst := h 0 (Nat.le_refl 0)
      simp [call, after, ha, Except.isOk, Except.toBool] at hfirst
  | succ n ih =>
    rcases ha : a s with ⟨e | v, s'⟩
    · obtain ⟨e', hretry⟩ := ih (s := (a s).2) (fun j hj => h (j + 1) (Nat.succ_le_succ hj)) (count + 1)
      refine ⟨e', ?_⟩
      rw [ha] at hretry
      simp only [retry, ha, hretry, after_succ]
    · have hfirst := h 0 (Nat.zero_le _)
      simp [call, after, ha, Except.isOk, Except.toBool] at hfirst

/-! ## Calls written down -/

theorem logged_eq (via : Via) (a : Attempt σ α) (s : σ) (log : CallLog α) :
    a.logged via (s, log) = ((a s).1, (a s).2, log ++ [(via, (a s).1)]) := rfl

theorem after_logged (via : Via) (a : Attempt σ α) (s : σ) (log : CallLog α) (n : Nat) :
    (a.logged via).after (s, log) n = (a.after s n, log ++ a.calls via s n) := by
  induction n with
  | zero => simp [after, calls]
  | succ n ih =>
    have hlogged : (a.logged via).after (s, log) (n + 1) = ((a.logged via) ((a.logged via).after (s, log) n)).2 :=
      Function.iterate_succ_apply' _ _ _
    have hafter : a.after s (n + 1) = (a (a.after s n)).2 := Function.iterate_succ_apply' _ _ _
    rw [hlogged, ih, hafter, logged_eq]
    simp [calls, call, List.range_succ]

theorem call_logged (via : Via) (a : Attempt σ α) (s : σ) (log : CallLog α) (n : Nat) :
    (a.logged via).call (s, log) n = a.call s n := by
  rw [call, after_logged]
  rfl

theorem firstSuccess_logged (via : Via) (log : CallLog α) :
    (a.logged via).FirstSuccess (s, log) k ↔ a.FirstSuccess s k := by
  simp only [FirstSuccess, call_logged]

/-- Writing calls down changes nothing about them. -/
theorem logged_alike (via : Via) (a : Attempt σ α) : a.Alike Eq (fun s t => s = t.1) (a.logged via) := by
  rintro s ⟨t, log⟩ rfl
  rcases ha : a s with ⟨e | v, s'⟩ <;> rw [logged_eq, ha]
  · exact .error rfl rfl
  · exact .ok v rfl

theorem getLast?_calls (via : Via) (a : Attempt σ α) (s : σ) (hk : 0 < k) :
    (a.calls via s k).getLast? = some (via, a.call s (k - 1)) := by
  obtain ⟨n, rfl⟩ : ∃ n, k = n + 1 := ⟨k - 1, by omega⟩
  simp [calls, List.range_succ]

end Attempt

/-! ## What a run comes to -/

/-- Counters that are the same for all contexts but one. -/
structure Counters.SameBut (context : String) (c c' : Counters) : Prop where
  errorCount : ∀ context' ≠ context, c'.errorCount context' = c.errorCount context'
  state : ∀ context' ≠ context, c'.state context' = c.state context'
  category : ∀ context' ≠ context, c'.categories.get? context' = c.categories.get? context'

namespace Counters.SameBut

variable {context : String} {c c' c'' : Counters}

theorem refl (context : String) (c : Counters) : c.SameBut context c :=
  ⟨fun _ _ => rfl, fun _ _ => rfl, fun _ _ => rfl⟩

theorem trans (h : c.SameBut context c') (h' : c'.SameBut context c'') : c.SameBut context c'' where
  errorCount context' hne := (h'.errorCount context' hne).trans (h.errorCount context' hne)
  state context' hne := (h'.state context' hne).trans (h.state context' hne)
  category context' hne := (h'.category context' hne).trans (h.category context' hne)

theorem enter (context : String) (c : Counters) (s : RecoveryState) : c.SameBut context (c.enter context s) where
  errorCount _ _ := rfl
  state context' hne := by rw [state_enter, if_neg hne]
  category _ _ := rfl

theorem succeed (context : String) (c : Counters) : c.SameBut context (c.succeed context) where
  errorCount context' hne := by rw [errorCount_succeed, if_neg hne]
  state context' hne := by rw [state_succeed, if_neg hne]
  category _ _ := rfl

theorem fail (context : String) (c : Counters) (category : FailureCategory) :
    c.SameBut context (c.fail context category) where
  errorCount context' hne := by rw [errorCount_fail, if_neg hne]
  state context' hne := by rw [state_fail, if_neg hne]
  category context' hne := by
    show (c.categories.insert context category).get? context' = _
    rw [Dict.get?_insert, if_neg hne]

end Counters.SameBut

namespace Recovery

variable {policy : RetryPolicy} {context : String} {enabled : Bool} {primary baseline : Attempt σ α} {c : Counters}
  {s : σ} {k : Nat}

/-- How many calls of the primary way a run allows. -/
def allowed (policy : RetryPolicy) (context : String) (enabled : Bool) (c : Counters) : Nat :=
  if Tries policy context enabled c then policy.attempts else 0

/-- The state in which a run leaves its context, if it is not switched off. -/
def endState : Except BuildError (Outcome α) → RecoveryState
  | .ok o => match o.via with
    | .declarative => .succeeded
    | .baseline => .succeededViaBaseline
  | .error _ => .fallingBack

/-- A run ends after `n` calls of the primary way, and returns how its last call ended. -/
structure Concludes (context : String) (n : Nat) (last : Via × Except EmitError α) (s' : σ)
    (done : Except BuildError (Outcome α) × Counters × σ) : Prop where
  state : done.2.2 = s'
  outcome : ∀ o, done.1 = .ok o →
    last = (o.via, .ok o.value) ∧ o.attempts = n ∧ o.state = done.2.1.state context
  error : ∀ e, done.1 = .error e ↔ ∃ e', last = (.baseline, .error e') ∧ e = .baseline context e'

theorem concludes_withoutPrimary (context : String) (baseline : Attempt σ α) (c : Counters) (s : σ) :
    Concludes context 0 (.baseline, (baseline s).1) (baseline s).2 (withoutPrimary context baseline c s) := by
  unfold withoutPrimary
  rcases baseline s with ⟨e | a, s'⟩
  · exact ⟨rfl, by simp, by simp [eq_comm]⟩
  · exact ⟨rfl, by rintro _ ⟨⟩; exact ⟨rfl, rfl, rfl⟩, by simp⟩

theorem concludes_fallBack (context : String) (n : Nat) (failure : Option FailureReport) (baseline : Attempt σ α)
    (c : Counters) (s : σ) :
    Concludes context n (.baseline, (baseline s).1) (baseline s).2 (fallBack context n failure baseline c s) := by
  unfold fallBack
  rcases baseline s with ⟨e | a, s'⟩
  · exact ⟨rfl, by simp, by simp [eq_comm]⟩
  · exact ⟨rfl, by rintro _ ⟨⟩; exact ⟨rfl, rfl, by simp [Counters.state_enter]⟩, by simp⟩

theorem concludes_of_firstSuccess (h : primary.FirstSuccess s k) (hk : k ≤ allowed policy context enabled c)
    (baseline : Attempt σ α) :
    Concludes context k (.declarative, primary.call s (k - 1)) (primary.after s k)
      (run policy context enabled primary baseline c s) := by
  have hpos := h.pos
  unfold allowed at hk
  by_cases htries : Tries policy context enabled c
  · rw [if_pos htries, ← attempts_sub_one] at hk
    obtain ⟨v, hv, hretry⟩ := Attempt.retry_of_firstSuccess h hk 1
    rw [run_of_tries htries, withPrimary, hretry, hv]
    refine ⟨rfl, ?_, by simp⟩
    rintro _ ⟨⟩
    exact ⟨rfl, by simp, by simp [Counters.state_succeed]⟩
  · rw [if_neg htries] at hk
    omega

theorem concludes_of_no_success (h : ∀ k ≤ allowed policy context enabled c, ¬ primary.FirstSuccess s k)
    (baseline : Attempt σ α) :
    Concludes context (allowed policy context enabled c)
      (.baseline, (baseline (primary.after s (allowed policy context enabled c))).1)
      (baseline (primary.after s (allowed policy context enabled c))).2
      (run policy context enabled primary baseline c s) := by
  unfold allowed at h ⊢
  by_cases htries : Tries policy context enabled c
  · rw [if_pos htries] at h ⊢
    have hfails : ∀ j ≤ policy.attempts - 1, (primary.call s j).isOk = false := fun j hj =>
      Attempt.forall_not_firstSuccess_iff.1 h j (by have := attempts_sub_one policy; omega)
    obtain ⟨e, hretry⟩ := Attempt.retry_of_no_success hfails 1
    rw [run_of_tries htries, withPrimary, hretry, attempts_sub_one]
    exact concludes_fallBack context _ _ baseline _ _
  · rw [if_neg htries]
    rcases not_tries_iff.1 htries with rfl | ⟨rfl, hcount⟩
    · exact concludes_withoutPrimary context baseline c s
    · rw [run_of_reached hcount]
      exact concludes_fallBack context 0 none baseline c s

/-! ## What a run leaves in the counters -/

theorem state_fallBack (attempts : Nat) (failure : Option FailureReport) (c : Counters) (s : σ) :
    (fallBack context attempts failure baseline c s).2.1.state context =
      endState (fallBack context attempts failure baseline c s).1 := by
  unfold fallBack
  rcases baseline s with ⟨e | a, s'⟩ <;> simp [Counters.state_enter, endState]

/-- A run that is not switched off leaves its context in the state that its result calls for. -/
theorem state_run (policy : RetryPolicy) (context : String) (primary baseline : Attempt σ α) (c : Counters) (s : σ) :
    (run policy context true primary baseline c s).2.1.state context =
      endState (run policy context true primary baseline c s).1 := by
  by_cases htries : Tries policy context true c
  · rw [run_of_tries htries]
    unfold withPrimary
    rcases retry primary (policy.attempts - 1) 1 s with ⟨e | ⟨a, attempts⟩, s'⟩
    · exact state_fallBack _ _ _ _
    · simp [Counters.state_succeed, endState]
  · obtain ⟨_, hcount⟩ := (not_tries_iff.1 htries).resolve_left (by simp)
    rw [run_of_reached hcount]
    exact state_fallBack _ _ _ _

theorem sameBut_fallBack (attempts : Nat) (failure : Option FailureReport) (c : Counters) (s : σ) :
    c.SameBut context (fallBack context attempts failure baseline c s).2.1 := by
  unfold fallBack
  rcases baseline s with ⟨e | a, s'⟩
  · exact .enter context c .fallingBack
  · exact (Counters.SameBut.enter context c .fallingBack).trans (.enter context _ .succeededViaBaseline)

theorem sameBut_withPrimary (c : Counters) (s : σ) :
    c.SameBut context (withPrimary policy context primary baseline c s).2.1 := by
  unfold withPrimary
  rcases retry primary (policy.attempts - 1) 1 s with ⟨e | r, s'⟩
  · exact (Counters.SameBut.fail context c _).trans (sameBut_fallBack _ _ _ _)
  · exact .succeed context c

/-- A run leaves the other contexts alone. -/
theorem sameBut_run (policy : RetryPolicy) (context : String) (enabled : Bool) (primary baseline : Attempt σ α)
    (c : Counters) (s : σ) : c.SameBut context (run policy context enabled primary baseline c s).2.1 := by
  by_cases htries : Tries policy context enabled c
  · rw [run_of_tries htries]
    exact (Counters.SameBut.enter context c .attempting).trans (sameBut_withPrimary _ _)
  · rcases not_tries_iff.1 htries with rfl | ⟨rfl, hcount⟩
    · rw [run_of_disabled, counters_withoutPrimary]
      exact .refl context c
    · rw [run_of_reached hcount]
      exact sameBut_fallBack _ _ _ _

/-! ## The account of a run -/

/-- The calls that are written down of a run: those of the primary way up to the first success, or as many as the run
allows and then one of the baseline. -/
theorem run_logged (policy : RetryPolicy) (context : String) (enabled : Bool) (primary baseline : Attempt σ α)
    (c : Counters) (s : σ) :
    let done := run policy context enabled primary baseline c s
    ∃ log, run policy context enabled (primary.logged .declarative) (baseline.logged .baseline) c (s, []) =
        (done.1, done.2.1, done.2.2, log) ∧
      (∀ k ≤ allowed policy context enabled c, primary.FirstSuccess s k → log = primary.calls .declarative s k) ∧
      ((∀ k ≤ allowed policy context enabled c, ¬ primary.FirstSuccess s k) →
        log = primary.calls .declarative s (allowed policy context enabled c) ++
          [(.baseline, (baseline (primary.after s (allowed policy context enabled c))).1)]) := by
  intro done
  obtain ⟨hresult, hcounters, hstate⟩ := (run_alike policy context enabled (primary.logged_alike .declarative)
    (baseline.logged_alike .baseline) (L := .equal) (c := c) (s := s) (t := (s, [])) rfl rfl).eq
  generalize hwatched : run policy context enabled (primary.logged .declarative) (baseline.logged .baseline) c (s, []) =
    watched at hresult hcounters hstate
  obtain ⟨result, counters, state, log⟩ := watched
  refine ⟨log, ?_, fun k hk hfirst => ?_, fun hnone => ?_⟩
  · rw [hresult, hcounters, hstate]
  · have hends := (concludes_of_firstSuccess ((Attempt.firstSuccess_logged .declarative []).2 hfirst) hk
      (baseline.logged .baseline)).state
    rw [hwatched, Attempt.after_logged] at hends
    exact congrArg Prod.snd hends
  · have hends := (concludes_of_no_success
      (fun k hk hfirst => hnone k hk ((Attempt.firstSuccess_logged .declarative []).1 hfirst))
      (baseline.logged .baseline)).state
    rw [hwatched, Attempt.after_logged] at hends
    exact congrArg Prod.snd hends

theorem allowed_of_tries (h : Tries policy context enabled c) :
    allowed policy context enabled c = max 1 policy.maxAttempts := by
  rw [allowed, if_pos h, RetryPolicy.attempts, Nat.max_comm]

/-- What one run does, whatever the counters hold. The primary way is called up to its first success, but not more
often than the policy says, and not at all if it is switched off or has reached the threshold; the baseline is called
once, and only after no success. What comes back is how the last call ended, and no error but the baseline's. The
state of the context says so, and the other contexts stay as they are. -/
theorem run_account (policy : RetryPolicy) (context : String) (enabled : Bool) (primary baseline : Attempt σ α)
    (c : Counters) (s : σ) :
    let m := max 1 policy.maxAttempts
    let done := run policy context enabled primary baseline c s
    ∃ (n : Nat) (log : CallLog α),
      run policy context enabled (primary.logged .declarative) (baseline.logged .baseline) c (s, []) =
        (done.1, done.2.1, done.2.2, log) ∧
      (enabled = false ∨ policy.fallbackThreshold ≤ c.errorCount context → n = 0) ∧
      (enabled = true ∧ c.errorCount context < policy.fallbackThreshold →
        (∀ k, primary.FirstSuccess s k → n = min k m) ∧ ((∀ k ≤ m, ¬ primary.FirstSuccess s k) → n = m)) ∧
      ((∃ k ≤ n, primary.FirstSuccess s k) → log = primary.calls .declarative s n) ∧
      ((∀ k ≤ n, ¬ primary.FirstSuccess s k) →
        log = primary.calls .declarative s n ++ [(.baseline, (baseline (primary.after s n)).1)]) ∧
      (∀ o, done.1 = .ok o →
        log.getLast? = some (o.via, .ok o.value) ∧ o.attempts = n ∧ o.state = done.2.1.state context) ∧
      (∀ e, done.1 = .error e ↔ ∃ e', log.getLast? = some (.baseline, .error e') ∧ e = .baseline context e') ∧
      (enabled = true → done.2.1.state context = endState done.1) ∧
      (enabled = false → done.2.1 = c) ∧
      c.SameBut context done.2.1 := by
  intro m done
  obtain ⟨log, hwatched, hsuccess, hnone⟩ := run_logged policy context enabled primary baseline c s
  have hm : Tries policy context enabled c → allowed policy context enabled c = m := allowed_of_tries
  have hzero : ¬ Tries policy context enabled c → allowed policy context enabled c = 0 := fun h => if_neg h
  have hstate : enabled = true → done.2.1.state context = endState done.1 := by
    rintro rfl
    exact state_run policy context primary baseline c s
  have hdisabled : enabled = false → done.2.1 = c := by
    rintro rfl
    exact counters_withoutPrimary c s
  have hskipped : enabled = false ∨ policy.fallbackThreshold ≤ c.errorCount context →
      ¬ Tries policy context enabled c := by
    rintro (rfl | hcount) ⟨henabled, hlt⟩
    · cases henabled
    · omega
  have hsame := sameBut_run policy context enabled primary baseline c s
  by_cases h : ∃ k ≤ allowed policy context enabled c, primary.FirstSuccess s k
  · obtain ⟨k, hk, hfirst⟩ := h
    have hends := concludes_of_firstSuccess hfirst hk baseline
    have hlog := hsuccess k hk hfirst
    have hlast := Attempt.getLast?_calls .declarative primary s hfirst.pos
    refine ⟨k, log, hwatched, fun hskip => ?_, fun htries => ⟨fun k' hfirst' => ?_, fun hfails => ?_⟩,
      fun _ => hlog, fun hno => absurd hfirst (hno k (Nat.le_refl k)), fun o ho => ?_, fun e => ?_, hstate, hdisabled,
      hsame⟩
    · rw [hzero (hskipped hskip)] at hk
      exact Nat.le_zero.1 hk
    · rw [hm htries] at hk
      rw [hfirst'.unique hfirst, Nat.min_eq_left hk]
    · rw [hm htries] at hk
      exact absurd hfirst (hfails k hk)
    · obtain ⟨hcall, hrest⟩ := hends.outcome o ho
      exact ⟨by rw [hlog, hlast, hcall], hrest⟩
    · rw [hends.error e, hlog, hlast]
      simp
  · have hno : ∀ k ≤ allowed policy context enabled c, ¬ primary.FirstSuccess s k := fun k hk hfirst =>
      h ⟨k, hk, hfirst⟩
    have hends := concludes_of_no_success hno baseline
    have hlog := hnone hno
    refine ⟨allowed policy context enabled c, log, hwatched, fun hskip => hzero (hskipped hskip),
      fun htries => ⟨fun k hfirst => ?_, fun _ => hm htries⟩, fun hyes => absurd hyes h, fun _ => hlog, fun o ho => ?_,
      fun e => ?_, hstate, hdisabled, hsame⟩
    · have hlt : m < k := Nat.lt_of_not_le fun hle => hno k (hm htries ▸ hle) hfirst
      rw [hm htries, Nat.min_eq_right (Nat.le_of_lt hlt)]
    · obtain ⟨hcall, hrest⟩ := hends.outcome o ho
      exact ⟨by rw [hlog, List.getLast?_concat, hcall], hrest⟩
    · rw [hends.error e, hlog, List.getLast?_concat]
      simp

/-- Both ways are down: two tries, then the baseline, whose error is the one that comes back. -/
theorem run_account_outage :
    let baseline : Attempt Nat Unit := fun calls => (.error (.template "boom"), calls)
    let done := run ⟨2, 5, 0⟩ "a" true (scripted () [.error (.other "down")]) baseline .empty 0
    done.1 = .error (.baseline "a" (.template "boom")) ∧ done.2.1.state "a" = .fallingBack := by
  intro baseline done
  obtain ⟨n, log, hwatched, _, _, _, _, _, herror, hstate, _⟩ :=
    run_account ⟨2, 5, 0⟩ "a" true (scripted () [.error (.other "down")]) baseline .empty 0
  have hlog : [(Via.declarative, .error (.other "down")), (.declarative, .error (.other "down")),
      (.baseline, .error (.template "boom"))] = log := congrArg (fun r => r.2.2.2) hwatched
  have hresult : done.1 = .error (.baseline "a" (.template "boom")) :=
    (herror _).2 ⟨.template "boom", by rw [← hlog]; rfl, rfl⟩
  exact ⟨hresult, (hstate rfl).trans (by rw [hresult]; rfl)⟩

end Recovery

end ClientGen
