import ClientGen.Call.Invoke

/-!
# The course of an iteration

What an iteration over pages does on a script is written down beforehand: the requests that it sends, the items that it
gives and the failure that it may end in, in order. An iteration that is driven some number of times has then done the
beginning of this, up to the item or failure given last, and no more.
-/

namespace ClientGen.Call

/-- Something that happens while pages are iterated. -/
inductive Event where
  | sent (request : Request)
  | given (item : Json)
  | failed (error : CallError)

namespace Event

def request? : Event → Option Request
  | .sent r => some r
  | _ => none

/-- What is handed out, an item or a failure. -/
def result? : Event → Option (Except CallError Json)
  | .sent _ => none
  | .given item => some (.ok item)
  | .failed e => some (.error e)

end Event

def Event.ofResult : Except CallError Json → Event
  | .ok item => .given item
  | .error e => .failed e

/-- The requests among events, in order. -/
def requestsOf (events : List Event) : List Request := events.filterMap Event.request?

/-- What is handed out in events, in order. -/
def resultsOf (events : List Event) : List (Except CallError Json) := events.filterMap Event.result?

/-- Events up to the `n`-th thing handed out; all of them if there are fewer. -/
def upTo : Nat → List Event → List Event
  | 0, _ => []
  | _ + 1, [] => []
  | n + 1, .sent r :: rest => .sent r :: upTo (n + 1) rest
  | n + 1, .given item :: rest => .given item :: upTo n rest
  | n + 1, .failed e :: rest => .failed e :: upTo n rest

namespace Pages

/-- The link that a page gives: what its field for links holds, if this is a text with something in it. -/
def link? (op : Plan.Operation) (page : Json) : Option String :=
  ((op.paging.bind Plan.Paging.nextLinkField).bind fun field => (page.get? field).bind Json.string?).filter (· ≠ "")

/-- The items of a response and the link in it. -/
def read (op : Plan.Operation) (r : Response) : Except CallError (List Json × Option String) := do
  let page ← deserialize op r
  .ok (← itemsOf op page, link? op page)

/-- A response that ends an iteration, with the failure that it makes: its status is not expected, nothing is where the
result should be, or the page there has no items. -/
inductive Rejected (op : Plan.Operation) (r : Response) : CallError → Prop where
  | status (h : toString r.status ∉ op.expectedStatuses) :
    Rejected op r (.unexpectedStatus r.status op.expectedStatuses r.body)
  | result (h : toString r.status ∈ op.expectedStatuses) (hbody : follow? (resultPath op) r.body = none) :
    Rejected op r (.missingResultPath (Text.joined "." (resultPath op)))
  | items {page : Json} (h : toString r.status ∈ op.expectedStatuses)
    (hbody : follow? (resultPath op) r.body = some page) (hitems : (page.get? (itemField op)).bind Json.array? = none) :
    Rejected op r (.missingPageItems (itemField op))

/-- What happens from a request on, given the responses to come. -/
def course (op : Plan.Operation) : Except CallError Request → List Response → List Event
  | .error e, _ => [.failed e]
  | .ok request, [] => [.sent request, .failed (.transportExhausted request.method request.url)]
  | .ok request, response :: rest =>
    .sent request :: match read op response with
      | .error e => [.failed e]
      | .ok (items, link) => items.map .given ++ match link with
        | some url => course op (.ok (.follow url)) rest
        | none => []

/-- What is still to happen. -/
def ahead (op : Plan.Operation) (args : Arguments) (s : Pages) (responses : List Response) : List Event :=
  s.items.map .given ++
    match request? op args s.cursor with
    | some request => course op request responses
    | none => []

variable {op : Plan.Operation} {args : Arguments}

theorem read_of_page {r : Response} {page : Json} {items : List Json} (h : toString r.status ∈ op.expectedStatuses)
    (hbody : follow? (resultPath op) r.body = some page)
    (hitems : (page.get? (itemField op)).bind Json.array? = some items) : read op r = .ok (items, link? op page) := by
  have hpage : deserialize op r = .ok page := by
    rw [deserialize, if_pos (List.contains_iff_mem.2 h), extract, hbody]
  have hlist : itemsOf op page = .ok items := by rw [itemsOf, hitems]
  simp [read, hpage, hlist, bind, Except.bind]

theorem read_of_rejected {r : Response} {e : CallError} (h : Rejected op r e) : read op r = .error e := by
  cases h with
  | status h =>
    rw [read, deserialize, if_neg (mt List.contains_iff_mem.1 h)]
    rfl
  | result h hbody =>
    rw [read, deserialize, if_pos (List.contains_iff_mem.2 h), extract, hbody]
    rfl
  | items h hbody hitems =>
    rw [read, deserialize, if_pos (List.contains_iff_mem.2 h), extract, hbody]
    simp [itemsOf, hitems, bind, Except.bind]

/-- Where a link leads. -/
def cursorOf : Option String → PageCursor
  | some url => .link url
  | none => .done

theorem nextOf_eq (op : Plan.Operation) (page : Json) : nextOf op page = cursorOf (link? op page) := by
  unfold nextOf link?
  cases (op.paging.bind Plan.Paging.nextLinkField).bind fun field => (page.get? field).bind Json.string? with
  | none => rfl
  | some url =>
    by_cases h : url = ""
    · simp [h, Option.filter_some, cursorOf]
    · simp [h, Option.filter_some, cursorOf]

/-- After a response the pages hold its items and go on from its link, or are at an end. -/
theorem receive_eq (op : Plan.Operation) (count : Nat) (r : Response) :
    ∃ count', receive op count r = match read op r with
      | .error e => (.error e, ⟨.done, [], count'⟩)
      | .ok (items, link) => (.ok (), ⟨cursorOf link, items, count'⟩) := by
  unfold receive read
  cases deserialize op r with
  | error e => exact ⟨count, rfl⟩
  | ok page =>
    refine ⟨count + 1, ?_⟩
    cases hitems : itemsOf op page with
    | error e => simp [bind, Except.bind, hitems]
    | ok items => simp [bind, Except.bind, hitems, nextOf_eq]

/-! ## One step -/

section Step

variable {cursor : PageCursor} {count : Nat} {request : Request} {requests : List Request}

theorem next_of_item {τ : Type} (t : FiniteTransport τ) (item : Json) (items : List Json) (state : τ) :
    next t op args ⟨cursor, item :: items, count⟩ state = (some (.ok item), ⟨cursor, items, count⟩, state) := by
  rw [next]

theorem next_of_end {τ : Type} (t : FiniteTransport τ) (h : request? op args cursor = none) (state : τ) :
    next t op args ⟨cursor, [], count⟩ state = (none, ⟨cursor, [], count⟩, state) := by
  rw [next]
  simp only [h]

theorem next_of_fault {τ : Type} (t : FiniteTransport τ) {e : CallError}
    (h : request? op args cursor = some (.error e)) (state : τ) :
    next t op args ⟨cursor, [], count⟩ state = (some (.error e), ⟨.done, [], count⟩, state) := by
  rw [next]
  simp only [h]

theorem next_of_exhausted (h : request? op args cursor = some (.ok request)) :
    next Script.transport op args ⟨cursor, [], count⟩ ⟨[], requests⟩ =
      (some (.error (.transportExhausted request.method request.url)), ⟨.done, [], count⟩,
        ⟨[], requests ++ [request]⟩) := by
  rw [next]
  simp only [h]
  rfl

theorem next_of_unreadable (count : Nat) (requests : List Request) (rest : List Response)
    (h : request? op args cursor = some (.ok request)) {response : Response} {e : CallError}
    (hread : read op response = .error e) :
    ∃ count', next Script.transport op args ⟨cursor, [], count⟩ ⟨response :: rest, requests⟩ =
      (some (.error e), ⟨.done, [], count'⟩, ⟨rest, requests ++ [request]⟩) := by
  obtain ⟨count', hreceive⟩ := receive_eq op count response
  rw [hread] at hreceive
  refine ⟨count', ?_⟩
  have hsend := Script.send_cons request response rest requests
  rw [next]
  simp only [h]
  split
  · next hfail => cases hsend.symm.trans hfail
  · next hanswer =>
    cases hsend.symm.trans hanswer
    rw [hreceive]

theorem next_of_read (count : Nat) (requests : List Request) (rest : List Response)
    (h : request? op args cursor = some (.ok request)) {response : Response} {items : List Json} {link : Option String}
    (hread : read op response = .ok (items, link)) :
    ∃ count', next Script.transport op args ⟨cursor, [], count⟩ ⟨response :: rest, requests⟩ =
      next Script.transport op args ⟨cursorOf link, items, count'⟩ ⟨rest, requests ++ [request]⟩ := by
  obtain ⟨count', hreceive⟩ := receive_eq op count response
  rw [hread] at hreceive
  refine ⟨count', ?_⟩
  have hsend := Script.send_cons request response rest requests
  rw [next]
  simp only [h]
  split
  · next hfail => cases hsend.symm.trans hfail
  · next hanswer =>
    cases hsend.symm.trans hanswer
    rw [hreceive]

end Step

theorem ahead_done (count : Nat) (responses : List Response) : ahead op args ⟨.done, [], count⟩ responses = [] := rfl

theorem ahead_of_request {cursor : PageCursor} {request : Except CallError Request}
    (h : request? op args cursor = some request) (count : Nat) (responses : List Response) :
    ahead op args ⟨cursor, [], count⟩ responses = course op request responses := by
  simp [ahead, h]

theorem ahead_cursorOf (link : Option String) (items : List Json) (count : Nat) (responses : List Response) :
    ahead op args ⟨cursorOf link, items, count⟩ responses = items.map .given ++ match link with
      | some url => course op (.ok (.follow url)) responses
      | none => [] := by
  cases link <;> rfl

/-- What a step does on a script. It hands out one thing at most, after the requests that it sends; the rest is still
to happen, and there is a rest only after an item. -/
def Advances (op : Plan.Operation) (args : Arguments) (s : Pages) (responses : List Response)
    (requests : List Request) : Prop :=
  ∃ result s' responses' sent,
    next Script.transport op args s ⟨responses, requests⟩ = (result, s', ⟨responses', requests ++ sent⟩) ∧
    ahead op args s responses = sent.map .sent ++ (result.map Event.ofResult).toList ++ ahead op args s' responses' ∧
    ((∀ item, result ≠ some (.ok item)) → ahead op args s' responses' = [])

/-- A step that sends nothing. -/
theorem advances_of_unsent {s s' : Pages} {result : Option (Except CallError Json)} {responses : List Response}
    {requests : List Request}
    (hnext : next Script.transport op args s ⟨responses, requests⟩ = (result, s', ⟨responses, requests⟩))
    (hahead : ahead op args s responses = (result.map Event.ofResult).toList ++ ahead op args s' responses)
    (hend : (∀ item, result ≠ some (.ok item)) → ahead op args s' responses = []) :
    Advances op args s responses requests := by
  refine ⟨result, s', responses, [], ?_, hahead, hend⟩
  rw [hnext, List.append_nil]

/-- Either a step needs no response, or it has to send a request first. -/
theorem advances_or_requests (s : Pages) (responses : List Response) (requests : List Request) :
    Advances op args s responses requests ∨
      ∃ cursor count request, s = ⟨cursor, [], count⟩ ∧ request? op args cursor = some (.ok request) := by
  obtain ⟨cursor, items, count⟩ := s
  cases items with
  | cons item items =>
    exact Or.inl (advances_of_unsent (next_of_item _ item items _) rfl fun h => absurd rfl (h item))
  | nil =>
    cases hrequest : request? op args cursor with
    | none =>
      have hnothing : ahead op args ⟨cursor, [], count⟩ responses = [] := by simp [ahead, hrequest]
      refine Or.inl (advances_of_unsent (next_of_end _ hrequest _) ?_ fun _ => hnothing)
      rw [hnothing]
      rfl
    | some request =>
      cases request with
      | ok request => exact Or.inr ⟨cursor, count, request, rfl, hrequest⟩
      | error e =>
        refine Or.inl (advances_of_unsent (next_of_fault _ hrequest _) ?_ fun _ => rfl)
        rw [ahead_of_request hrequest]
        cases responses <;> rfl

/-- Every step takes what is to happen next. A step that finds a page without items goes on with the page after it. -/
theorem advances (s : Pages) (responses : List Response) (requests : List Request) :
    Advances op args s responses requests := by
  induction responses generalizing s requests with
  | nil =>
    rcases advances_or_requests s [] requests with h | ⟨cursor, count, request, rfl, hrequest⟩
    · exact h
    · refine ⟨_, _, _, [request], next_of_exhausted hrequest, ?_, fun _ => rfl⟩
      rw [ahead_of_request hrequest]
      rfl
  | cons response rest ih =>
    rcases advances_or_requests s (response :: rest) requests with h | ⟨cursor, count, request, rfl, hrequest⟩
    · exact h
    · unfold Advances
      rw [ahead_of_request hrequest]
      cases hread : read op response with
      | error e =>
        obtain ⟨count', hnext⟩ := next_of_unreadable count requests rest hrequest hread
        refine ⟨_, _, _, [request], hnext, ?_, fun _ => rfl⟩
        simp [course, hread, Event.ofResult, ahead_done]
      | ok page =>
        obtain ⟨items, link⟩ := page
        obtain ⟨count', hnext⟩ := next_of_read count requests rest hrequest hread
        obtain ⟨result, s', responses', sent, hrest, hahead, hend⟩ :=
          ih ⟨cursorOf link, items, count'⟩ (requests ++ [request])
        refine ⟨result, s', responses', request :: sent, ?_, ?_, hend⟩
        · rw [hnext, hrest, List.append_assoc, List.singleton_append]
        · rw [ahead_cursorOf] at hahead
          simp only [course, hread, hahead]
          rfl

/-! ## Many steps -/

/-- Steps one after the other, with what each of them handed out. -/
def pull {τ : Type} (t : FiniteTransport τ) (op : Plan.Operation) (args : Arguments) :
    Nat → Pages → τ → List (Option (Except CallError Json)) × Pages × τ
  | 0, s, state => ([], s, state)
  | n + 1, s, state =>
    let (result, s, state) := next t op args s state
    let (results, s, state) := pull t op args n s state
    (result :: results, s, state)

theorem upTo_sent_append (n : Nat) (sent : List Request) (events : List Event) :
    upTo (n + 1) (sent.map .sent ++ events) = sent.map .sent ++ upTo (n + 1) events := by
  induction sent with
  | nil => rfl
  | cons r sent ih =>
    rw [List.map_cons, List.cons_append, upTo, ih]
    rfl

theorem upTo_ofResult_cons (n : Nat) (result : Except CallError Json) (events : List Event) :
    upTo (n + 1) (Event.ofResult result :: events) = Event.ofResult result :: upTo n events := by
  cases result <;> rfl

theorem resultsOf_sent_append (sent : List Request) (events : List Event) :
    resultsOf (sent.map .sent ++ events) = resultsOf events := by
  simp [resultsOf, List.filterMap_append, Event.result?]

theorem requestsOf_sent_append (sent : List Request) (events : List Event) :
    requestsOf (sent.map .sent ++ events) = sent ++ requestsOf events := by
  simp [requestsOf, List.filterMap_append, Event.request?, Function.comp_def]

theorem resultsOf_ofResult_cons (result : Except CallError Json) (events : List Event) :
    resultsOf (Event.ofResult result :: events) = result :: resultsOf events := by
  cases result <;> rfl

theorem requestsOf_ofResult_cons (result : Except CallError Json) (events : List Event) :
    requestsOf (Event.ofResult result :: events) = requestsOf events := by
  cases result <;> rfl

/-- After `n` steps the first `n` things are handed out, and the requests up to the last of them are sent. -/
theorem pull_spec (n : Nat) (s : Pages) (responses : List Response) (requests : List Request) :
    (pull Script.transport op args n s ⟨responses, requests⟩).1 =
        (List.range n).map (fun i => (resultsOf (ahead op args s responses))[i]?) ∧
      (pull Script.transport op args n s ⟨responses, requests⟩).2.2.requests =
        requests ++ requestsOf (upTo n (ahead op args s responses)) := by
  induction n generalizing s responses requests with
  | zero => simp [pull, upTo, requestsOf]
  | succ n ih =>
    obtain ⟨result, s', responses', sent, hnext, hahead, hend⟩ := @advances op args s responses requests
    obtain ⟨hresults, hrequests⟩ := ih s' responses' (requests ++ sent)
    simp only [pull, hnext, hresults, hrequests, hahead, List.append_assoc, resultsOf_sent_append, upTo_sent_append,
      requestsOf_sent_append, List.range_succ_eq_map, List.map_cons, List.map_map]
    cases result with
    | none =>
      rw [hend (by simp)]
      refine ⟨?_, ?_⟩
      · simp [resultsOf, Function.comp_def]
      · cases n <;> rfl
    | some result =>
      have hcons : (Option.map Event.ofResult (some result)).toList ++ ahead op args s' responses' =
          Event.ofResult result :: ahead op args s' responses' := rfl
      rw [hcons, upTo_ofResult_cons, requestsOf_ofResult_cons, resultsOf_ofResult_cons]
      exact ⟨rfl, rfl⟩

/-! ## All steps -/

section Collect

variable {τ : Type} {t : FiniteTransport τ} {s s' : Pages} {state state' : τ}

theorem collect_of_none (h : next t op args s state = (none, s', state')) :
    collect t op args s state = (.ok [], state') := by
  rw [collect]
  split
  · next hnext =>
    cases h.symm.trans hnext
    rfl
  · next hnext => cases h.symm.trans hnext
  · next hnext => cases h.symm.trans hnext

theorem collect_of_error {e : CallError} (h : next t op args s state = (some (.error e), s', state')) :
    collect t op args s state = (.error e, state') := by
  rw [collect]
  split
  · next hnext => cases h.symm.trans hnext
  · next hnext =>
    cases h.symm.trans hnext
    rfl
  · next hnext => cases h.symm.trans hnext

theorem collect_of_item {item : Json} (h : next t op args s state = (some (.ok item), s', state')) :
    collect t op args s state =
      ((collect t op args s' state').1.map (item :: ·), (collect t op args s' state').2) := by
  rw [collect]
  split
  · next hnext => cases h.symm.trans hnext
  · next hnext => cases h.symm.trans hnext
  · next hnext =>
    cases h.symm.trans hnext
    rfl

end Collect

/-- All items are handed out, or the failure that they end in; all requests are sent. -/
theorem collect_spec (s : Pages) (responses : List Response) (requests : List Request) :
    (collect Script.transport op args s ⟨responses, requests⟩).1 = (resultsOf (ahead op args s responses)).mapM id ∧
      (collect Script.transport op args s ⟨responses, requests⟩).2.requests =
        requests ++ requestsOf (ahead op args s responses) := by
  generalize hresults : resultsOf (ahead op args s responses) = results
  induction results generalizing s responses requests with
  | nil =>
    obtain ⟨result, s', responses', sent, hnext, hahead, hend⟩ := @advances op args s responses requests
    rw [hahead, List.append_assoc, resultsOf_sent_append] at hresults
    cases result with
    | none =>
      rw [collect_of_none hnext, hahead, hend (by simp), List.append_assoc, requestsOf_sent_append]
      simp [requestsOf, pure, Except.pure]
    | some result => cases (resultsOf_ofResult_cons result _).symm.trans hresults
  | cons first results ih =>
    obtain ⟨result, s', responses', sent, hnext, hahead, hend⟩ := @advances op args s responses requests
    rw [hahead, List.append_assoc, resultsOf_sent_append] at hresults
    cases result with
    | none =>
      rw [hend (by simp)] at hresults
      cases hresults
    | some result =>
      have hcons := (resultsOf_ofResult_cons result _).symm.trans hresults
      have hsent : requestsOf (ahead op args s responses) = sent ++ requestsOf (ahead op args s' responses') := by
        rw [hahead, List.append_assoc, requestsOf_sent_append]
        exact congrArg (sent ++ ·) (requestsOf_ofResult_cons result _)
      rw [List.cons.injEq] at hcons
      obtain ⟨rfl, hrest⟩ := hcons
      cases result with
      | error e =>
        rw [collect_of_error hnext, hsent, hend (by simp), List.mapM_cons]
        exact ⟨rfl, by simp [requestsOf]⟩
      | ok item =>
        obtain ⟨hitems, hrequests⟩ := ih s' responses' (requests ++ sent) hrest
        rw [collect_of_item hnext, hitems, hrequests, hsent, List.append_assoc, List.mapM_cons]
        refine ⟨?_, rfl⟩
        cases results.mapM id <;> rfl

/-! ## The shape of a course -/

theorem requestsOf_given_append (items : List Json) (events : List Event) :
    requestsOf (items.map .given ++ events) = requestsOf events := by
  simp [requestsOf, List.filterMap_append, Event.request?]

theorem resultsOf_given_append (items : List Json) (events : List Event) :
    resultsOf (items.map .given ++ events) = items.map .ok ++ resultsOf events := by
  simp [resultsOf, List.filterMap_append, Event.result?, Function.comp_def]

/-- The requests and the results in a course. The request of the call comes first, then bare ones for links; a script
answers as many as it has responses, and one more may be left without an answer. The results are items, and after them
at most one failure. -/
structure Shaped (request : Except CallError Request) (bound : Nat) (events : List Event) : Prop where
  requests : ∃ links : List String, requestsOf events = request.toOption.toList ++ links.map .follow
  bounded : (requestsOf events).length ≤ bound
  results : ∃ (items : List Json) (fault : Option CallError),
    resultsOf events = items.map .ok ++ (fault.map .error).toList

theorem Shaped.page {r r' : Request} {url : String} {bound : Nat} {events : List Event} (items : List Json)
    (hurl : r' = .follow url) (h : Shaped (.ok r') bound events) :
    Shaped (.ok r) (bound + 1) (.sent r :: (items.map .given ++ events)) := by
  obtain ⟨⟨links, hlinks⟩, hbound, items', fault, hresults⟩ := h
  have hrequests : requestsOf (.sent r :: (items.map .given ++ events)) = r :: requestsOf events :=
    congrArg (List.cons r) (requestsOf_given_append items events)
  refine ⟨⟨url :: links, ?_⟩, ?_, items ++ items', fault, ?_⟩
  · rw [hrequests, hlinks, hurl]
    rfl
  · rw [hrequests, List.length_cons]
    omega
  · change resultsOf (items.map .given ++ events) = _
    rw [resultsOf_given_append, hresults, List.map_append, List.append_assoc]

theorem shaped_course (op : Plan.Operation) (request : Except CallError Request) (responses : List Response) :
    Shaped request (responses.length + 1) (course op request responses) := by
  induction responses generalizing request with
  | nil =>
    cases request with
    | error e => exact ⟨⟨[], rfl⟩, Nat.zero_le _, [], some e, rfl⟩
    | ok r => exact ⟨⟨[], rfl⟩, Nat.le_refl _, [], some _, rfl⟩
  | cons response rest ih =>
    cases request with
    | error e => exact ⟨⟨[], rfl⟩, Nat.zero_le _, [], some e, rfl⟩
    | ok r =>
      rw [course]
      cases read op response with
      | error e => exact ⟨⟨[], rfl⟩, Nat.succ_le_succ (Nat.zero_le _), [], some e, rfl⟩
      | ok page =>
        obtain ⟨items, link⟩ := page
        cases link with
        | none =>
          refine ⟨⟨[], congrArg (List.cons r) (requestsOf_given_append items [])⟩, ?_, items, none, ?_⟩
          · change (r :: requestsOf (items.map .given ++ [])).length ≤ _
            rw [requestsOf_given_append]
            exact Nat.succ_le_succ (Nat.zero_le _)
          · exact resultsOf_given_append items []
        | some url => exact (ih (.ok (.follow url))).page items rfl

theorem upTo_isPrefix (n : Nat) (events : List Event) : upTo n events <+: events := by
  induction events generalizing n with
  | nil => cases n <;> exact List.prefix_rfl
  | cons e rest ih =>
    cases n with
    | zero => exact List.nil_prefix
    | succ n =>
      cases e with
      | sent r => exact (List.prefix_cons_inj _).2 (ih (n + 1))
      | given item => exact (List.prefix_cons_inj _).2 (ih n)
      | failed e => exact (List.prefix_cons_inj _).2 (ih n)

/-- Items before a failure are lost to whoever wants all of them. -/
theorem mapM_results (items : List Json) (fault : Option CallError) :
    (items.map Except.ok ++ (fault.map Except.error).toList).mapM id =
      match fault with
      | some e => (.error e : Except CallError (List Json))
      | none => .ok items := by
  induction items with
  | nil => cases fault <;> rfl
  | cons item items ih =>
    rw [List.map_cons, List.cons_append, List.mapM_cons, ih]
    cases fault <;> rfl

theorem invoke_of_paging (t : FiniteTransport Script) (h : op.kind = .paging) (state : Script) :
    invoke t op args state = ((collect t op args start state).1.map .array, (collect t op args start state).2) := by
  rw [invoke, h]

theorem course_of_page {request : Request} {r : Response} {page : Json} {items : List Json}
    (h : toString r.status ∈ op.expectedStatuses) (hbody : follow? (resultPath op) r.body = some page)
    (hitems : (page.get? (itemField op)).bind Json.array? = some items) (rest : List Response) :
    course op (.ok request) (r :: rest) = .sent request :: (items.map .given ++ match link? op page with
      | some url => course op (.ok (.follow url)) rest
      | none => []) := by
  rw [course, read_of_page h hbody hitems]

theorem course_of_rejected {request : Request} {r : Response} {e : CallError} (h : Rejected op r e)
    (rest : List Response) : course op (.ok request) (r :: rest) = [.sent request, .failed e] := by
  rw [course, read_of_rejected h]

/-- An iteration over the pages of any operation on a script, driven any number of times, does the beginning of one
course of events; a call of a paging operation does all of it. In the course a page that can be read gives its items and
goes on along its link, and a response that is rejected gives a failure and nothing more. -/
theorem iteration_spec (op : Plan.Operation) (args : Arguments) (script : Script) :
    let events := course op (request op args) script.responses
    Shaped (request op args) (script.responses.length + 1) events ∧
    (∀ request r page items rest, toString r.status ∈ op.expectedStatuses →
      follow? (resultPath op) r.body = some page → (page.get? (itemField op)).bind Json.array? = some items →
      course op (.ok request) (r :: rest) = .sent request :: (items.map .given ++ match link? op page with
        | some url => course op (.ok (.follow url)) rest
        | none => [])) ∧
    (∀ request r e rest, Rejected op r e → course op (.ok request) (r :: rest) = [.sent request, .failed e]) ∧
    (∀ n, let done := pull Script.transport op args n start script
      done.1 = (List.range n).map (fun i => (resultsOf events)[i]?) ∧
        done.2.2.requests = script.requests ++ requestsOf (upTo n events) ∧
        (requestsOf (upTo n events)).length ≤ script.responses.length + 1) ∧
    ∃ (items : List Json) (fault : Option CallError),
      resultsOf events = items.map .ok ++ (fault.map .error).toList ∧
      (op.kind = .paging → let done := invoke Script.transport op args script
        (done.1 = match fault with
          | some e => .error e
          | none => .ok (.array items)) ∧ done.2.requests = script.requests ++ requestsOf events) := by
  intro events
  have hshaped : Shaped (request op args) (script.responses.length + 1) events := shaped_course op _ script.responses
  have hahead : ahead op args start script.responses = events := rfl
  refine ⟨hshaped, fun _ _ _ _ rest h hbody hitems => course_of_page h hbody hitems rest,
    fun _ _ _ rest h => course_of_rejected h rest, fun n => ?_, ?_⟩
  · obtain ⟨hresults, hrequests⟩ := @pull_spec op args n start script.responses script.requests
    have hprefix := (upTo_isPrefix n events).filterMap Event.request?
    exact ⟨hresults, hrequests, Nat.le_trans hprefix.length_le hshaped.bounded⟩
  · obtain ⟨items, fault, hresults⟩ := hshaped.results
    obtain ⟨hitems, hrequests⟩ := @collect_spec op args start script.responses script.requests
    refine ⟨items, fault, hresults, fun hkind => ?_⟩
    rw [hahead, hresults, mapM_results] at hitems
    rw [invoke_of_paging _ hkind]
    refine ⟨?_, hrequests⟩
    rw [hitems]
    cases fault <;> rfl

def listThings : Plan.Operation :=
  Plan.plannedOperation "listThings" "/things" none
    { name := "listThings", method := .get, description := none, response := ⟨"Thing", []⟩, parameters := []
      longRunning := none, paging := some .default } []

/-- Three pages, the second one without items. -/
def threePages : Script := .ofResponses
  [.plain 200 (.object [("value", .array [.int 1, .int 2]), ("nextLink", .string "/more")]),
   .plain 200 (.object [("value", .array []), ("nextLink", .string "/rest")]),
   .plain 200 (.object [("value", .array [.int 3])])]

/-- A page, and behind its link a response with a status that is not expected. -/
def refused : Script := .ofResponses
  [.plain 200 (.object [("value", .array [.int 1, .int 2]), ("nextLink", .string "/more")]), .plain 500 .null,
   .plain 200 (.object [("value", .array [.int 3])])]

/-- Three pages give their items in turn. A response that is rejected gives one failure, and no request comes after it;
so does a page without an array of items. -/
theorem iteration_spec_things :
    ((pull Script.transport listThings .empty 4 start threePages).1 =
        [some (.ok (.int 1)), some (.ok (.int 2)), some (.ok (.int 3)), none] ∧
      (pull Script.transport listThings .empty 2 start threePages).2.2.requests.map Request.url = ["/things"] ∧
      (pull Script.transport listThings .empty 3 start threePages).2.2.requests.map Request.url =
        ["/things", "/more", "/rest"]) ∧
    ((pull Script.transport listThings .empty 4 start refused).1 =
        [some (.ok (.int 1)), some (.ok (.int 2)), some (.error (.unexpectedStatus 500 ["200"] .null)), none] ∧
      (pull Script.transport listThings .empty 4 start refused).2.2.requests.map Request.url = ["/things", "/more"]) ∧
    ∀ request rest, course listThings (.ok request) (.plain 200 (.object [("value", .null)]) :: rest) =
      [.sent request, .failed (.missingPageItems "value")] := by
  obtain ⟨_, _, hrejected, hpull, _⟩ := iteration_spec listThings .empty threePages
  obtain ⟨_, _, _, hpull', _⟩ := iteration_spec listThings .empty refused
  refine ⟨?_, ?_, fun request rest => ?_⟩
  · obtain ⟨hresults, _⟩ := hpull 4
    obtain ⟨_, htwo, _⟩ := hpull 2
    obtain ⟨_, hthree, _⟩ := hpull 3
    rw [hresults, htwo, hthree]
    exact ⟨rfl, rfl, rfl⟩
  · obtain ⟨hresults, hrequests, _⟩ := hpull' 4
    rw [hresults, hrequests]
    exact ⟨rfl, rfl⟩
  · exact hrejected request _ _ rest (.items (List.mem_singleton.2 rfl) rfl rfl)

end Pages

end ClientGen.Call
