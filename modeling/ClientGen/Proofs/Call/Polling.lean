import ClientGen.Call.Invoke
import Mathlib.Data.List.Forall2
import Mathlib.Data.List.Infix

/-!
# The course of polling

On a script a long-running call sends its own request and then one bare request for each response that says that the
operation is still running, to the place that was announced last. With any transport a poller that has begun knows
where to ask until it is done, so that it never fails for want of a place.
-/

namespace ClientGen.Call.Poller

variable {op : Plan.Operation} {args : Arguments}

/-! ## Places -/

/-- Where a response says to ask next: the header `operation-location` goes before `location`. -/
inductive Announces (r : Response) (url : String) : Prop
  | operationLocation (h : r.header? "operation-location" = some url)
  | location (hnone : r.header? "operation-location" = none) (h : r.header? "location" = some url)

theorem announced?_eq_some_iff {r : Response} {url : String} : announced? r = some url ↔ Announces r url := by
  unfold announced?
  constructor
  · intro h
    cases hfirst : r.header? "operation-location" with
    | none => exact .location hfirst (by simpa [hfirst] using h)
    | some other => exact .operationLocation (by simpa [hfirst] using h)
  · rintro (h | ⟨hnone, h⟩)
    · simp [h]
    · simp [hnone, h]

theorem announced?_eq_none_iff {r : Response} : announced? r = none ↔ ∀ url, ¬ Announces r url := by
  simp [Option.eq_none_iff_forall_ne_some, announced?_eq_some_iff]

/-- The place that is announced last in responses. -/
def Latest (responses : List Response) (url : String) : Prop :=
  ∃ before r after, responses = before ++ r :: after ∧ Announces r url ∧ ∀ s ∈ after, ∀ url, ¬ Announces s url

/-- One place for each response: the one announced last, up to that response. -/
def Places (responses : List Response) (urls : List String) : Prop :=
  List.Forall₂ Latest responses.inits.tail urls

/-- The place after a response: the one that it announces, or else the one before it. -/
def placeAfter (url : String) (r : Response) : String := (announced? r).getD url

/-- The place that is announced last, computed. -/
def latest? (responses : List Response) : Option String := (responses.filterMap announced?).getLast?

theorem latest?_concat (responses : List Response) (r : Response) :
    latest? (responses ++ [r]) = (announced? r <|> latest? responses) := by
  unfold latest?
  rw [List.filterMap_append]
  cases hr : announced? r with
  | none => simp [hr]
  | some url => simp [hr]

theorem latest?_eq_some_of_latest {responses : List Response} {url : String} (h : Latest responses url) :
    latest? responses = some url := by
  obtain ⟨before, r, after, rfl, hr, hafter⟩ := h
  induction after using List.reverseRecOn with
  | nil =>
    rw [latest?_concat, announced?_eq_some_iff.2 hr]
    rfl
  | append_singleton after s ih =>
    rw [List.forall_mem_append] at hafter
    have hs : announced? s = none := announced?_eq_none_iff.2 (hafter.2 s List.mem_cons_self)
    rw [← List.cons_append, ← List.append_assoc, latest?_concat, hs, ih hafter.1]
    rfl

theorem map_latest?_of_places {responses : List Response} {urls : List String} (h : Places responses urls) :
    responses.inits.tail.map latest? = urls.map some := by
  have hall : List.Forall₂ (fun seen url => latest? seen = some url) responses.inits.tail urls :=
    List.Forall₂.imp (fun _ _ hl => latest?_eq_some_of_latest hl) h
  rw [← List.forall₂_eq_eq_eq, List.forall₂_map_left_iff, List.forall₂_map_right_iff]
  exact hall

theorem latest_singleton {r : Response} {url : String} (h : Announces r url) : Latest [r] url :=
  ⟨[], r, [], rfl, h, by simp⟩

theorem Latest.concat {responses : List Response} {url : String} (h : Latest responses url) (r : Response) :
    Latest (responses ++ [r]) (placeAfter url r) := by
  obtain ⟨before, s, after, rfl, hs, hafter⟩ := h
  unfold placeAfter
  cases hr : announced? r with
  | some url' => exact ⟨before ++ s :: after, r, [], by simp, announced?_eq_some_iff.1 hr, by simp⟩
  | none =>
    refine ⟨before, s, after ++ [r], by simp, hs, ?_⟩
    rw [List.forall_mem_append]
    exact ⟨hafter, by simpa using announced?_eq_none_iff.1 hr⟩

/-- The places where a poller asks that knows one, given the responses by which it learns of others. -/
def placesFrom (url : String) : List Response → List String
  | [] => [url]
  | r :: rest => url :: placesFrom (placeAfter url r) rest

theorem latest_placesFrom {seen : List Response} {url : String} (h : Latest seen url) (responses : List Response) :
    List.Forall₂ Latest (responses.inits.map (seen ++ ·)) (placesFrom url responses) := by
  induction responses generalizing seen url with
  | nil => simpa [placesFrom] using h
  | cons r rest ih =>
    have hrest := ih (h.concat r)
    simp only [List.inits_cons, List.map_cons, List.append_nil, List.map_map, placesFrom]
    refine .cons h ?_
    simpa [Function.comp_def] using hrest

theorem places_placesFrom {first : Response} {url : String} (h : Announces first url) (rest : List Response) :
    Places (first :: rest) (placesFrom url rest) := by
  have hall := latest_placesFrom (latest_singleton h) rest
  simpa [Places] using hall

/-! ## One response -/

theorem receive_of_accepted {r : Response} (hr : r.status = acceptedStatus) (url : String) (polls : Nat) :
    receive op r ⟨some url, none, polls⟩ = .ok ⟨some (placeAfter url r), none, polls⟩ := by
  unfold receive placeAfter
  rw [if_pos hr]
  cases announced? r <;> rfl

theorem receive_of_settled {r : Response} (hr : r.status ≠ acceptedStatus) (p : Poller) :
    receive op r p = (deserialize op r).map fun j => { p with result := some j } := by
  unfold receive
  rw [if_neg hr]
  cases deserialize op r <;> rfl

theorem receive_of_announcing {r : Response} {url : String} (hr : r.status = acceptedStatus) (h : Announces r url) :
    receive op r ⟨none, none, 0⟩ = .ok ⟨some url, none, 0⟩ := by
  unfold receive
  rw [if_pos hr, announced?_eq_some_iff.2 h]
  rfl

theorem receive_of_silent {r : Response} (hr : r.status = acceptedStatus) (h : ∀ url, ¬ Announces r url) :
    receive op r ⟨none, none, 0⟩ = .error .missingPollingLocation := by
  unfold receive
  rw [if_pos hr, announced?_eq_none_iff.2 h]
  rfl

/-! ## Beginning on a script -/

section Begin

variable {request' : Request} {requests : List Request}

theorem begin_of_nil (h : request op args = .ok request') :
    begin Script.send op args ⟨[], requests⟩ =
      (.error (.transportExhausted request'.method request'.url), ⟨[], requests ++ [request']⟩) := by
  simp only [begin, h, Script.send_nil]

theorem begin_of_cons (h : request op args = .ok request') (response : Response) (rest : List Response) :
    begin Script.send op args ⟨response :: rest, requests⟩ =
      (receive op response ⟨none, none, 0⟩, ⟨rest, requests ++ [request']⟩) := by
  simp only [begin, h, Script.send_cons]

end Begin

/-! ## Asking on a script -/

section Finish

variable {τ : Type} {t : FiniteTransport τ} {p p' : Poller} {state state' : τ}

theorem finish_of_done {j : Json} (hp : p.result = some j) : finish t op p state = (.ok j, state) := by
  rw [finish]
  split
  · next hresult =>
    cases hp.symm.trans hresult
    rfl
  · next hresult => cases hp.symm.trans hresult

theorem finish_of_poll_ok (hp : p.result = none) (h : poll t.send op p state = (.ok (), p', state')) :
    finish t op p state = finish t op p' state' := by
  rw [finish]
  split
  · next hresult => cases hp.symm.trans hresult
  · split
    · next hpoll => cases h.symm.trans hpoll
    · next hpoll =>
      cases h.symm.trans hpoll
      rfl

theorem finish_of_poll_error {e : CallError} (hp : p.result = none)
    (h : poll t.send op p state = (.error e, p', state')) : finish t op p state = (.error e, state') := by
  rw [finish]
  split
  · next hresult => cases hp.symm.trans hresult
  · split
    · next hpoll =>
      cases h.symm.trans hpoll
      rfl
    · next hpoll => cases h.symm.trans hpoll

end Finish

section Script

variable (url : String) (polls : Nat) (requests : List Request)

theorem finish_of_nil :
    finish Script.transport op ⟨some url, none, polls⟩ ⟨[], requests⟩ =
      (.error (.transportExhausted .get url), ⟨[], requests ++ [.follow url]⟩) :=
  finish_of_poll_error rfl rfl

theorem poll_of_receive_ok {r : Response} {p : Poller} (h : receive op r ⟨some url, none, polls + 1⟩ = .ok p)
    (rest : List Response) : poll Script.send op ⟨some url, none, polls⟩ ⟨r :: rest, requests⟩ =
      (.ok (), p, ⟨rest, requests ++ [.follow url]⟩) := by
  simp [poll, isDone, Script.send_cons, h]

theorem poll_of_receive_error {r : Response} {e : CallError}
    (h : receive op r ⟨some url, none, polls + 1⟩ = .error e) (rest : List Response) :
    poll Script.send op ⟨some url, none, polls⟩ ⟨r :: rest, requests⟩ =
      (.error e, ⟨some url, none, polls + 1⟩, ⟨rest, requests ++ [.follow url]⟩) := by
  simp [poll, isDone, Script.send_cons, h]

theorem finish_of_accepted {r : Response} (hr : r.status = acceptedStatus) (rest : List Response) :
    finish Script.transport op ⟨some url, none, polls⟩ ⟨r :: rest, requests⟩ =
      finish Script.transport op ⟨some (placeAfter url r), none, polls + 1⟩ ⟨rest, requests ++ [.follow url]⟩ :=
  finish_of_poll_ok rfl (poll_of_receive_ok url polls requests (receive_of_accepted hr url (polls + 1)) rest)

theorem finish_of_settled {r : Response} (hr : r.status ≠ acceptedStatus) (rest : List Response) :
    finish Script.transport op ⟨some url, none, polls⟩ ⟨r :: rest, requests⟩ =
      (deserialize op r, ⟨rest, requests ++ [.follow url]⟩) := by
  have hreceive : receive op r ⟨some url, none, polls + 1⟩ =
      (deserialize op r).map fun j => ⟨some url, some j, polls + 1⟩ := receive_of_settled hr _
  cases hresult : deserialize op r with
  | error e =>
    rw [hresult] at hreceive
    exact finish_of_poll_error rfl (poll_of_receive_error url polls requests hreceive rest)
  | ok j =>
    rw [hresult] at hreceive
    exact (finish_of_poll_ok rfl (poll_of_receive_ok url polls requests hreceive rest)).trans (finish_of_done rfl)

variable {url polls requests} {accepted : List Response} (haccepted : ∀ r ∈ accepted, r.status = acceptedStatus)
include haccepted

/-- Up to the response that settles it, a poller asks at the places that it learns of. -/
theorem finish_append {last : Response} (hlast : last.status ≠ acceptedStatus) (rest : List Response) :
    finish Script.transport op ⟨some url, none, polls⟩ ⟨accepted ++ last :: rest, requests⟩ =
      (deserialize op last, ⟨rest, requests ++ (placesFrom url accepted).map .follow⟩) := by
  induction accepted generalizing url polls requests with
  | nil => exact finish_of_settled url polls requests hlast rest
  | cons r accepted ih =>
    rw [List.forall_mem_cons] at haccepted
    rw [List.cons_append, finish_of_accepted url polls requests haccepted.1, ih haccepted.2, placesFrom]
    simp

/-- Without such a response the script comes to an end. -/
theorem finish_all :
    ∃ urls latest, placesFrom url accepted = urls ++ [latest] ∧
      finish Script.transport op ⟨some url, none, polls⟩ ⟨accepted, requests⟩ =
        (.error (.transportExhausted .get latest), ⟨[], requests ++ (urls ++ [latest]).map .follow⟩) := by
  induction accepted generalizing url polls requests with
  | nil => exact ⟨[], url, rfl, finish_of_nil url polls requests⟩
  | cons r accepted ih =>
    rw [List.forall_mem_cons] at haccepted
    obtain ⟨urls, latest, hplaces, hfinish⟩ :=
      @ih (placeAfter url r) (polls + 1) (requests ++ [.follow url]) haccepted.2
    refine ⟨url :: urls, latest, by rw [placesFrom, hplaces, List.cons_append], ?_⟩
    rw [finish_of_accepted url polls requests haccepted.1, hfinish]
    simp

end Script

theorem untilDone_of_begin {τ : Type} {t : FiniteTransport τ} {p : Poller} {state state' : τ}
    (h : begin t.send op args state = (.ok p, state')) : untilDone t op args state = finish t op p state' := by
  simp only [untilDone, h]

/-! ## With any transport -/

/-- A poller is done, or it knows where to ask. -/
def Placed (p : Poller) : Prop := p.isDone = true ∨ ∃ url, p.url = some url

theorem deserialize_ne_missingPollingLocation (op : Plan.Operation) (r : Response) :
    deserialize op r ≠ .error .missingPollingLocation := by
  unfold deserialize extract
  split
  · split <;> simp
  · simp

/-- Whatever a poller receives without a failure leaves it done or with a place. -/
theorem placed_of_receive {r : Response} {p q : Poller} (h : receive op r p = .ok q) : Placed q := by
  by_cases hr : r.status = acceptedStatus
  · unfold receive at h
    rw [if_pos hr] at h
    split at h
    · next url _ =>
      cases h
      exact .inr ⟨url, rfl⟩
    · cases h
  · rw [receive_of_settled hr] at h
    cases hresult : deserialize op r with
    | error e => simp [hresult, Except.map] at h
    | ok j =>
      rw [hresult] at h
      cases h
      exact .inl rfl

/-- A poller with a place does not miss one when it receives a response. -/
theorem receive_ne_missingPollingLocation {p : Poller} {url : String} (hurl : p.url = some url) (r : Response) :
    receive op r p ≠ .error .missingPollingLocation := by
  by_cases hr : r.status = acceptedStatus
  · unfold receive
    rw [if_pos hr, hurl]
    cases announced? r <;> simp
  · rw [receive_of_settled hr]
    have hne := deserialize_ne_missingPollingLocation op r
    cases hresult : deserialize op r with
    | error e => simpa [Except.map, hresult] using hne
    | ok j => simp [Except.map]

section Transport

variable {τ : Type} {t : Transport τ} {p q : Poller} {state state' : τ}

theorem poll_of_done (hp : p.isDone = true) : poll t op p state = (.ok (), p, state) := by
  rw [poll, if_pos hp]

/-- A poller that is not done sends one request, to its place. -/
theorem poll_of_place {url : String} (hp : p.isDone = false) (hurl : p.url = some url) :
    poll t op p state = match t (.follow url) state with
      | (.error e, state) => (.error e, p, state)
      | (.ok response, state) => match receive op response { p with polls := p.polls + 1 } with
        | .error e => (.error e, { p with polls := p.polls + 1 }, state)
        | .ok p => (.ok (), p, state) := by
  unfold poll
  rw [hp, hurl]
  rfl

theorem placed_of_begin (h : begin t op args state = (.ok p, state')) : Placed p := by
  unfold begin at h
  split at h
  · simp at h
  · split at h
    · simp at h
    · exact placed_of_receive (Prod.ext_iff.1 h).1

/-- Asking once leaves a poller done or with a place, also when it fails. -/
theorem Placed.poll (hp : Placed p) (t : Transport τ) (state : τ) : Placed (poll t op p state).2.1 := by
  cases hd : p.isDone with
  | true =>
    rw [poll_of_done hd]
    exact hp
  | false =>
    obtain ⟨url, hurl⟩ : ∃ url, p.url = some url := hp.resolve_left (by simp [hd])
    rw [poll_of_place hd hurl]
    split
    · exact hp
    · split
      · exact .inr ⟨url, hurl⟩
      · next hreceive => exact placed_of_receive hreceive

/-- Only the transport can say that there is no place. -/
theorem Placed.of_poll_missing (hp : Placed p)
    (h : Poller.poll t op p state = (.error .missingPollingLocation, q, state')) :
    ∃ url, p.url = some url ∧ t (.follow url) state = (.error .missingPollingLocation, state') := by
  cases hd : p.isDone with
  | true =>
    rw [poll_of_done hd] at h
    cases h
  | false =>
    obtain ⟨url, hurl⟩ : ∃ url, p.url = some url := hp.resolve_left (by simp [hd])
    refine ⟨url, hurl, ?_⟩
    rw [poll_of_place hd hurl] at h
    split at h
    · next hsend =>
      cases h
      exact hsend
    · split at h
      · next hreceive =>
        cases h
        have hplaced : ({ p with polls := p.polls + 1 } : Poller).url = some url := hurl
        exact absurd hreceive (receive_ne_missingPollingLocation hplaced _)
      · cases h

/-- Asking so many times, whatever comes of it. -/
def ask (t : Transport τ) (op : Plan.Operation) : Nat → Poller → τ → Poller × τ
  | 0, p, state => (p, state)
  | n + 1, p, state => ask t op n (Poller.poll t op p state).2.1 (Poller.poll t op p state).2.2

theorem Placed.ask (hp : Placed p) (t : Transport τ) (n : Nat) (state : τ) : Placed (ask t op n p state).1 := by
  induction n generalizing p state with
  | zero => exact hp
  | succ n ih => exact ih (hp.poll t state) _

end Transport

/-- Asking until the end misses a place only where the transport says so. -/
theorem Placed.of_finish_missing {τ : Type} {t : FiniteTransport τ} {p : Poller} {state state' : τ} (hp : Placed p)
    (h : finish t op p state = (.error .missingPollingLocation, state')) :
    ∃ url state₁, t.send (.follow url) state₁ = (.error .missingPollingLocation, state') := by
  fun_induction finish t op p state with
  | case1 => cases h
  | case2 p state _ e q state₁ hpoll =>
    cases h
    obtain ⟨url, _, hsend⟩ := hp.of_poll_missing hpoll
    exact ⟨url, state, hsend⟩
  | case3 p state _ q state₁ hpoll ih =>
    have hq : Placed (Poller.poll t.send op p state).2.1 := hp.poll t.send state
    rw [hpoll] at hq
    exact ih hq h

theorem Script.send_ne_missingPollingLocation (r : Request) (script script' : Script) :
    Script.send r script ≠ (.error .missingPollingLocation, script') := by
  obtain ⟨responses, requests⟩ := script
  cases responses <;> simp [Script.send_nil, Script.send_cons]

/-- However a poller came about, asking it once does nothing when it is done, and misses a place only where the
transport says so. -/
structure Guided {τ : Type} (t : Transport τ) (op : Plan.Operation) (p : Poller) (state : τ) : Prop where
  placed : p.isDone = true ∨ ∃ url, p.url = some url
  done : p.isDone = true → poll t op p state = (.ok (), p, state)
  missing : ∀ q state', poll t op p state = (.error .missingPollingLocation, q, state') →
    ∃ url, p.url = some url ∧ t (.follow url) state = (.error .missingPollingLocation, state')

theorem Placed.guided {τ : Type} {p : Poller} (hp : Placed p) (t : Transport τ) (op : Plan.Operation) (state : τ) :
    Guided t op p state :=
  ⟨hp, poll_of_done, fun _ _ h => hp.of_poll_missing h⟩

/-! ## A call from its start -/

section Call

variable {request' : Request} {requests : List Request} {accepted : List Response}
  (h : request op args = .ok request') (haccepted : ∀ r ∈ accepted, r.status = acceptedStatus)
  (hfirst : ∀ first ∈ accepted.head?, ∃ url, Announces first url)
include h haccepted hfirst

theorem untilDone_append {last : Response} (hlast : last.status ≠ acceptedStatus) (rest : List Response) :
    ∃ urls, Places accepted urls ∧
      untilDone Script.transport op args ⟨accepted ++ last :: rest, requests⟩ =
        (deserialize op last, ⟨rest, requests ++ request' :: urls.map .follow⟩) := by
  cases accepted with
  | nil =>
    refine ⟨[], .nil, ?_⟩
    have hbegin := @begin_of_cons op args request' requests h last rest
    rw [receive_of_settled hlast] at hbegin
    unfold untilDone
    cases hresult : deserialize op last with
    | error e =>
      rw [hresult] at hbegin
      simp only [List.nil_append, Script.transport, hbegin, Except.map, List.map_nil]
    | ok j =>
      rw [hresult] at hbegin
      simp only [List.nil_append, Script.transport, hbegin, Except.map, List.map_nil]
      exact finish_of_done rfl
  | cons first accepted =>
    obtain ⟨url, hurl⟩ := hfirst first rfl
    rw [List.forall_mem_cons] at haccepted
    have hbegin := @begin_of_cons op args request' requests h first (accepted ++ last :: rest)
    rw [receive_of_announcing haccepted.1 hurl] at hbegin
    refine ⟨placesFrom url accepted, places_placesFrom hurl accepted, ?_⟩
    rw [List.cons_append, untilDone_of_begin hbegin, finish_append haccepted.2 hlast]
    simp

theorem untilDone_all (hne : accepted ≠ []) :
    ∃ urls url, Places accepted (urls ++ [url]) ∧
      untilDone Script.transport op args ⟨accepted, requests⟩ =
        (.error (.transportExhausted .get url), ⟨[], requests ++ request' :: (urls ++ [url]).map .follow⟩) := by
  cases accepted with
  | nil => exact absurd rfl hne
  | cons first accepted =>
    obtain ⟨url, hurl⟩ := hfirst first rfl
    rw [List.forall_mem_cons] at haccepted
    have hbegin := @begin_of_cons op args request' requests h first accepted
    rw [receive_of_announcing haccepted.1 hurl] at hbegin
    obtain ⟨urls, latest, hplaces, hfinish⟩ :=
      @finish_all op url 0 (requests ++ [request']) accepted haccepted.2
    refine ⟨urls, latest, hplaces ▸ places_placesFrom hurl accepted, ?_⟩
    rw [untilDone_of_begin hbegin, hfinish]
    simp

end Call

/-- What a long-running call does on a script. Where the request cannot be built nothing is sent; where the first
response is missing, or announces no place, there is one request. Otherwise one request follows for each response that
says that the operation is still running, to the place announced last, and the first other response gives the result;
without one the script is exhausted. With any transport, a poller that has begun never misses a place by itself. -/
theorem polling_spec (op : Plan.Operation) (args : Arguments) (script : Script) :
    (∀ e, request op args = .error e → begin Script.send op args script = (.error e, script)) ∧
    (∀ r, request op args = .ok r →
      (script.responses = [] → begin Script.send op args script =
        (.error (.transportExhausted r.method r.url), ⟨[], script.requests ++ [r]⟩)) ∧
      (∀ first rest, script.responses = first :: rest → first.status = acceptedStatus →
        (∀ url, ¬ Announces first url) →
        begin Script.send op args script = (.error .missingPollingLocation, ⟨rest, script.requests ++ [r]⟩)) ∧
      ∀ accepted, (∀ a ∈ accepted, a.status = acceptedStatus) →
        (∀ first ∈ accepted.head?, ∃ url, Announces first url) →
        (∀ last rest, script.responses = accepted ++ last :: rest → last.status ≠ acceptedStatus →
          ∃ urls, Places accepted urls ∧ untilDone Script.transport op args script =
            (deserialize op last, ⟨rest, script.requests ++ r :: urls.map .follow⟩)) ∧
        (script.responses = accepted → accepted ≠ [] →
          ∃ urls url, Places accepted (urls ++ [url]) ∧ untilDone Script.transport op args script =
            (.error (.transportExhausted .get url), ⟨[], script.requests ++ r :: (urls ++ [url]).map .follow⟩))) ∧
    (∀ p script', begin Script.send op args script = (.ok p, script') → ∀ n,
      let (q, script'') := ask Script.send op n p script'
      (poll Script.send op q script'').1 ≠ .error .missingPollingLocation) ∧
    (∀ (τ : Type) (t : Transport τ) (state state' : τ) p, begin t op args state = (.ok p, state') → ∀ n,
      let (q, state'') := ask t op n p state'
      Guided t op q state'') ∧
    ∀ (τ : Type) (t : FiniteTransport τ) (state state' state'' : τ) p, begin t.send op args state = (.ok p, state') →
      finish t op p state' = (.error .missingPollingLocation, state'') →
      ∃ url state₁, t.send (.follow url) state₁ = (.error .missingPollingLocation, state'') := by
  obtain ⟨responses, requests⟩ := script
  refine ⟨fun e he => ?_, fun r hr => ⟨?_, ?_, ?_⟩, ?_, ?_, ?_⟩
  · simp only [begin, he]
  · rintro rfl
    exact begin_of_nil hr
  · rintro first rest rfl hstatus hsilent
    rw [begin_of_cons hr, receive_of_silent hstatus hsilent]
  · intro accepted haccepted hfirst
    constructor
    · rintro last rest rfl hlast
      exact untilDone_append hr haccepted hfirst hlast rest
    · rintro rfl hne
      exact untilDone_all hr haccepted hfirst hne
  · intro p script' hbegin n hmissing
    have hplaced : Placed (ask Script.send op n p script').1 := (placed_of_begin hbegin).ask Script.send n script'
    obtain ⟨url, _, hsend⟩ := hplaced.of_poll_missing (Prod.ext hmissing rfl)
    exact Script.send_ne_missingPollingLocation _ _ _ hsend
  · intro τ t state state' p hbegin n
    exact ((placed_of_begin hbegin).ask t n state').guided t op _
  · intro τ t state state' state'' p hbegin hfinish
    exact (placed_of_begin hbegin).of_finish_missing hfinish

def makeThing : Plan.Operation :=
  Plan.plannedOperation "makeThing" "/things" none
    { name := "makeThing", method := .post, description := none, response := ⟨"Thing", []⟩, parameters := []
      longRunning := some ⟨none, some ".result"⟩, paging := none } []

def runningThings : List Response :=
  [(Response.plain 202 .null).withHeader "Operation-Location" "/jobs/1",
   .plain 202 .null,
   ((Response.plain 202 .null).withHeader "location" "/jobs/2").withHeader "operation-location" "/jobs/3",
   (Response.plain 202 .null).withHeader "Location" "/jobs/4"]

def madeThing : Response := .plain 200 (.object [("result", .int 7)])

theorem accepted_runningThings : ∀ r ∈ runningThings, r.status = acceptedStatus := by
  simp [runningThings, Response.plain, Response.withHeader, acceptedStatus]

theorem polling_spec_things :
    (∃ r, request makeThing .empty = .ok r ∧
      untilDone Script.transport makeThing .empty (.ofResponses (runningThings ++ [madeThing, madeThing])) =
        (.ok (.int 7), ⟨[madeThing], r :: ["/jobs/1", "/jobs/1", "/jobs/3", "/jobs/4"].map .follow⟩)) ∧
    begin Script.send makeThing .empty (.ofResponses [.plain 202 .null]) =
      (.error .missingPollingLocation, ⟨[], (request makeThing .empty).toOption.toList⟩) ∧
    (untilDone Script.transport makeThing .empty (.ofResponses runningThings)).1 =
      .error (.transportExhausted .get "/jobs/4") ∧
    ∃ p script, begin Script.send makeThing .empty (.ofResponses runningThings) = (.ok p, script) ∧
      let (q, script) := ask Script.send makeThing 9 p script
      Guided Script.send makeThing q script := by
  obtain ⟨r, hr⟩ : ∃ r, request makeThing .empty = .ok r := ⟨_, rfl⟩
  have hfirst : ∀ first ∈ runningThings.head?, ∃ url, Announces first url := by
    rintro first ⟨⟩
    exact ⟨"/jobs/1", .operationLocation (by decide)⟩
  have hplaces : ∀ urls, Places runningThings urls → urls = ["/jobs/1", "/jobs/1", "/jobs/3", "/jobs/4"] := by
    intro urls hurls
    have hlatest : runningThings.inits.tail.map latest? = ["/jobs/1", "/jobs/1", "/jobs/3", "/jobs/4"].map some := by
      decide
    exact List.map_injective_iff.2 (fun _ _ => Option.some.inj) ((map_latest?_of_places hurls).symm.trans hlatest)
  refine ⟨⟨r, hr, ?_⟩, ?_, ?_, ?_⟩
  · obtain ⟨_, hok, _⟩ := polling_spec makeThing .empty (.ofResponses (runningThings ++ [madeThing, madeThing]))
    obtain ⟨_, _, hrun⟩ := hok r hr
    obtain ⟨urls, hurls, hcall⟩ :=
      (hrun runningThings accepted_runningThings hfirst).1 madeThing [madeThing] rfl (by decide)
    rw [hcall, hplaces urls hurls]
    rfl
  · obtain ⟨_, hok, _⟩ := polling_spec makeThing .empty (.ofResponses [.plain 202 .null])
    obtain ⟨_, hsilent, _⟩ := hok r hr
    have hnone : announced? (.plain 202 .null) = none := rfl
    rw [hsilent (.plain 202 .null) [] rfl rfl (announced?_eq_none_iff.1 hnone), hr]
    rfl
  · obtain ⟨_, hok, _⟩ := polling_spec makeThing .empty (.ofResponses runningThings)
    obtain ⟨_, _, hrun⟩ := hok r hr
    obtain ⟨urls, url, hurls, hcall⟩ :=
      (hrun runningThings accepted_runningThings hfirst).2 rfl (by simp [runningThings])
    have hlast := congrArg List.getLast? (hplaces _ hurls)
    rw [List.getLast?_concat] at hlast
    cases hlast
    rw [hcall]
    rfl
  · obtain ⟨_, _, _, hguided, _⟩ := polling_spec makeThing .empty (.ofResponses runningThings)
    exact ⟨_, _, rfl, hguided Script Script.send (.ofResponses runningThings) _ _ rfl 9⟩

end ClientGen.Call.Poller
