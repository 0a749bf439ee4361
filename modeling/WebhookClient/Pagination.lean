import WebhookClient.Call.Basic
import WebhookClient.Records.Page

/-!
# Walking through pages

A list is walked through by fetching its first page and then, by the iterator of each page, the
next one, until a page is done, leads nowhere, or cannot be fetched. The items of all pages are
collected in order.

A service may lead on forever, so a walk is given how many pages it may fetch; one that has not
ended by then has no result.
-/

set_option autoImplicit false

namespace WebhookClient

/-- A walk: what was fetched, by iterator, and the items of all pages or the failure that ended
the walk; `none` if it has not ended. -/
structure Walk (σ α : Type) where
  asked : List (Option String)
  result : Option (Except Failure (List α))
  state : σ

namespace Walk

variable {σ α : Type}

/-- The iterator that a page leads on by. -/
def next? (page : Page α) : Option String := if page.done then none else page.iterator

/-- Walks on from an iterator; fetching a page may change a state. -/
def go (fetch : σ → Option String → Except Failure (Page α) × σ) :
    Nat → σ → Option String → List α → Walk σ α
  | 0, s, _, _ => ⟨[], none, s⟩
  | fuel + 1, s, iterator, items =>
    match fetch s iterator with
    | (.error e, s) => ⟨[iterator], some (.error e), s⟩
    | (.ok page, s) =>
      match next? page with
      | none => ⟨[iterator], some (.ok (items ++ page.data)), s⟩
      | some next =>
        let w := go fetch fuel s (some next) (items ++ page.data)
        { w with asked := iterator :: w.asked }

/-- Walks through a list from its first page, fetching at most `fuel` pages. -/
def start (fetch : σ → Option String → Except Failure (Page α) × σ) (fuel : Nat) (s : σ) :
    Walk σ α :=
  go fetch fuel s none []

end Walk

/-! ## Walks of a client -/

/-- The calls that a walk has made. -/
structure Calls (α : Type) where
  made : List (Call (Page α))
  /-- How many attempts they took. -/
  attempts : Nat
  now : Nat

/-- The circumstances of a walk: the replies to all its attempts, in order, and the numbers of its
calls. -/
structure WalkCircumstances where
  reply : Nat → Reply
  startedAt : Nat
  deadline : Option Nat
  requestId : Nat → Nat

namespace Client

variable {α : Type} [Json.Wire α]

/-- Fetches a page: the call that asks for it comes after those made before. -/
def fetchPage (c : Client) (request : Option String → Request) (s : WalkCircumstances)
    (calls : Calls α) (iterator : Option String) : Except Failure (Page α) × Calls α :=
  let made : Call (Page α) := c.call (request iterator)
    { reply := fun n => s.reply (calls.attempts + n)
      startedAt := calls.now
      deadline := s.deadline
      requestId := s.requestId calls.made.length }
  (made.result,
    ⟨calls.made ++ [made], calls.attempts + made.attempts.length, made.finishedAt⟩)

/-- Walks through a list by calls, at most `fuel` of them; `request` asks for a page. -/
def walk (c : Client) (request : Option String → Request) (s : WalkCircumstances) (fuel : Nat) :
    Walk (Calls α) α :=
  Walk.start (c.fetchPage request s) fuel ⟨[], 0, s.startedAt⟩

end Client

end WebhookClient
