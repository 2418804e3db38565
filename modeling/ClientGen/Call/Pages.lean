import ClientGen.Call.Arguments
import ClientGen.Call.Transport

/-!
# Items page by page

The items of a paging operation come one at a time. A page is requested when all items of the page before it are
given out; the link in a page leads to the next one. After the last page or a failure there is nothing more.
-/

namespace ClientGen.Call

inductive PageCursor where
  | first
  | link (url : String)
  | done
  deriving DecidableEq, Repr

structure Pages where
  cursor : PageCursor
  items : List Json
  count : Nat

namespace Pages

def start : Pages := ⟨.first, [], 0⟩

def request? (op : Plan.Operation) (args : Arguments) : PageCursor → Option (Except CallError Request)
  | .first => some (request op args)
  | .link url => some (.ok (.follow url))
  | .done => none

def itemField (op : Plan.Operation) : String :=
  match op.paging with
  | some p => p.itemField
  | none => "value"

def itemsOf (op : Plan.Operation) (page : Json) : Except CallError (List Json) :=
  match (page.get? (itemField op)).bind Json.array? with
  | some items => .ok items
  | none => .error (.missingPageItems (itemField op))

def nextOf (op : Plan.Operation) (page : Json) : PageCursor :=
  match (op.paging.bind Plan.Paging.nextLinkField).bind fun field => (page.get? field).bind Json.string? with
  | some url => if url = "" then .done else .link url
  | none => .done

/-- The pages after a response. A page that is expected but has no items still counts. -/
def receive (op : Plan.Operation) (count : Nat) (r : Response) : Except CallError Unit × Pages :=
  match deserialize op r with
  | .error e => (.error e, ⟨.done, [], count⟩)
  | .ok page => match itemsOf op page with
    | .error e => (.error e, ⟨.done, [], count + 1⟩)
    | .ok items => (.ok (), ⟨nextOf op page, items, count + 1⟩)

variable {τ : Type}

/-- The next item or failure, or the end; pages without items are passed over. -/
def next (t : FiniteTransport τ) (op : Plan.Operation) (args : Arguments) (s : Pages) (state : τ) :
    Option (Except CallError Json) × Pages × τ :=
  match s.items with
  | item :: rest => (some (.ok item), { s with items := rest }, state)
  | [] => match request? op args s.cursor with
    | none => (none, s, state)
    | some (.error e) => (some (.error e), { s with cursor := .done }, state)
    | some (.ok request) => match _ : t.send request state with
      | (.error e, state) => (some (.error e), { s with cursor := .done }, state)
      | (.ok response, state) => match receive op s.count response with
        | (.error e, s) => (some (.error e), s, state)
        | (.ok (), s) => next t op args s state
termination_by t.remaining state
decreasing_by exact t.remaining_lt ‹_›

/-- An item uses up what is at hand or what the transport has. -/
theorem next_decreases {t : FiniteTransport τ} {op : Plan.Operation} {args : Arguments} {s s' : Pages}
    {state state' : τ} {item : Json} (h : next t op args s state = (some (.ok item), s', state')) :
    t.remaining state' < t.remaining state ∨ state' = state ∧ s'.items.length < s.items.length := by
  fun_induction next t op args s state with
  | case1 s state item' rest hs =>
    simp only [Prod.mk.injEq] at h
    right
    simp [← h.2.1, ← h.2.2, hs]
  | case6 s state hs request hr response state₁ hsend s₁ hreceive ih =>
    left
    have hlt := t.remaining_lt hsend
    rcases ih h with hlt' | ⟨heq, _⟩
    · exact Nat.lt_trans hlt' hlt
    · exact heq ▸ hlt
  | _ => simp at h

def collect (t : FiniteTransport τ) (op : Plan.Operation) (args : Arguments) (s : Pages) (state : τ) :
    Except CallError (List Json) × τ :=
  match _ : next t op args s state with
  | (none, _, state) => (.ok [], state)
  | (some (.error e), _, state) => (.error e, state)
  | (some (.ok item), s, state) =>
    let (others, state) := collect t op args s state
    (others.map (item :: ·), state)
termination_by (t.remaining state, s.items.length)
decreasing_by
  rcases next_decreases ‹_› with hlt | ⟨heq, hlt⟩
  · exact .left _ _ hlt
  · exact heq ▸ .right _ hlt

end Pages

end ClientGen.Call
