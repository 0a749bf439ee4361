import Mathlib
import WebhookClient.Pagination

/-!
# Walks collect every item once

However pages are fetched, a walk asks for the first page and then for each page by the iterator
of the page before. It ends with the first result that does not lead on: a failure, a page that is
done, or a page without an iterator. Nothing is fetched after that, and the items are those of all
pages, in order. Main statement: `start_of_answers`.
-/

set_option autoImplicit false

namespace WebhookClient

namespace Walk

variable {σ α : Type}

/-! ## What is fetched -/

/-- A result that a walk does not go on after. -/
def IsLast : Except Failure (Page α) → Prop
  | .error _ => True
  | .ok page => page.done = true ∨ page.iterator = none

/-- The iterator that came with a result. -/
def iteratorOf : Except Failure (Page α) → Option String
  | .error _ => none
  | .ok page => page.iterator

/-- The items that came with a result. -/
def itemsOf : Except Failure (Page α) → List α
  | .error _ => []
  | .ok page => page.data

/-- What a walk asks for after so many results: nothing first, then the iterator of the last one. -/
def cursor (results : Nat → Except Failure (Page α)) : Nat → Option String
  | 0 => none
  | i + 1 => iteratorOf (results i)

/-- The items of the first results. -/
def collected (results : Nat → Except Failure (Page α)) (n : Nat) : List α :=
  (List.range n).flatMap fun i => itemsOf (results i)

/-- The iterators that the first results are asked for by. -/
def cursors (results : Nat → Except Failure (Page α)) (n : Nat) : List (Option String) :=
  (List.range n).map (cursor results)

/-- The results and states that come of fetching on and on from a state, each time by the
iterator of the page just received. -/
structure Answers (fetch : σ → Option String → Except Failure (Page α) × σ) (s : σ)
    (results : Nat → Except Failure (Page α)) (states : Nat → σ) : Prop where
  first : states 0 = s
  answer : ∀ i, fetch (states i) (cursor results i) = (results i, states (i + 1))

/-- The state and the iterator before each fetch. -/
def turn (fetch : σ → Option String → Except Failure (Page α) × σ) (s : σ) :
    Nat → σ × Option String
  | 0 => (s, none)
  | i + 1 =>
    let (result, s') := fetch (turn fetch s i).1 (turn fetch s i).2
    (s', iteratorOf result)

theorem exists_answers (fetch : σ → Option String → Except Failure (Page α) × σ) (s : σ) :
    ∃ results states, Answers fetch s results states := by
  refine ⟨fun i => (fetch (turn fetch s i).1 (turn fetch s i).2).1,
    fun i => (turn fetch s i).1, rfl, fun i => ?_⟩
  cases i with
  | zero => rfl
  | succ i => rfl

theorem collected_succ (results : Nat → Except Failure (Page α)) (n : Nat) :
    collected results (n + 1) = collected results n ++ itemsOf (results n) := by
  simp [collected, List.range_succ]

theorem cursors_succ (results : Nat → Except Failure (Page α)) (n : Nat) :
    cursors results (n + 1) = cursors results n ++ [cursor results n] := by
  simp [cursors, List.range_succ]

theorem length_cursors (results : Nat → Except Failure (Page α)) (n : Nat) :
    (cursors results n).length = n := by
  simp [cursors]

/-! ## A fetch and the walk after it -/

theorem next?_eq_none_iff (page : Page α) :
    next? page = none ↔ page.done = true ∨ page.iterator = none := by
  unfold next?
  split_ifs with hdone
  · simp [hdone]
  · simp [hdone]

variable {fetch : σ → Option String → Except Failure (Page α) × σ} {s s' : σ}
  {iterator : Option String} {result : Except Failure (Page α)}

theorem go_succ_of_isLast (h : fetch s iterator = (result, s')) (hlast : IsLast result)
    (fuel : Nat) (items : List α) :
    go fetch (fuel + 1) s iterator items =
      ⟨[iterator], some (result.map fun _ => items ++ itemsOf result), s'⟩ := by
  rw [go, h]
  cases result with
  | error e => rfl
  | ok page =>
    dsimp only
    rw [(next?_eq_none_iff page).2 hlast]
    rfl

theorem go_succ_of_not_isLast (h : fetch s iterator = (result, s')) (hon : ¬ IsLast result)
    (fuel : Nat) (items : List α) :
    go fetch (fuel + 1) s iterator items =
      let w := go fetch fuel s' (iteratorOf result) (items ++ itemsOf result)
      { w with asked := iterator :: w.asked } := by
  rw [go, h]
  cases result with
  | error e => exact absurd trivial hon
  | ok page =>
    obtain ⟨hdone, hiterator⟩ := not_or.1 hon
    obtain ⟨next, hnext⟩ := Option.ne_none_iff_exists'.1 hiterator
    have hleads : next? page = some next := by rw [next?, if_neg hdone, hnext]
    have hof : iteratorOf (Except.ok page : Except Failure (Page α)) = some next := hnext
    dsimp only
    rw [hleads, hof]
    rfl

/-! ## Walks -/

variable {results : Nat → Except Failure (Page α)} {states : Nat → σ}

/-- As long as the results lead on, a walk is what was asked for so far and the walk from there,
with the items so far. -/
theorem start_add (h : Answers fetch s results states) (n m : Nat)
    (hon : ∀ i < n, ¬ IsLast (results i)) :
    start fetch (n + m) s =
      let w := go fetch m (states n) (cursor results n) (collected results n)
      { w with asked := cursors results n ++ w.asked } := by
  induction n generalizing m with
  | zero =>
    rw [h.first, Nat.zero_add]
    rfl
  | succ n ih =>
    rw [Nat.add_assoc, Nat.add_comm 1 m, ih (m + 1) fun i hi => hon i (Nat.lt_succ_of_lt hi),
      go_succ_of_not_isLast (h.answer n) (hon n (Nat.lt_succ_self n)), collected_succ,
      cursors_succ]
    simp only [List.append_assoc, List.singleton_append]
    rfl

theorem start_of_isLeast (h : Answers fetch s results states) {k : Nat}
    (hk : IsLeast {i | IsLast (results i)} k) {fuel : Nat} (hfuel : k < fuel) :
    start fetch fuel s =
      ⟨cursors results (k + 1), some ((results k).map fun _ => collected results (k + 1)),
        states (k + 1)⟩ := by
  obtain ⟨m, rfl⟩ := Nat.exists_eq_add_of_lt hfuel
  have hon : ∀ i < k, ¬ IsLast (results i) := fun i hi hlast => Nat.not_le_of_gt hi (hk.2 hlast)
  rw [Nat.add_assoc, start_add h k (m + 1) hon, go_succ_of_isLast (h.answer k) hk.1,
    collected_succ, cursors_succ]

theorem start_of_forall_not_isLast (h : Answers fetch s results states) {fuel : Nat}
    (hon : ∀ i < fuel, ¬ IsLast (results i)) :
    start fetch fuel s = ⟨cursors results fuel, none, states fuel⟩ := by
  have hstart := start_add h fuel 0 hon
  rw [Nat.add_zero] at hstart
  rw [hstart]
  simp only [go, List.append_nil]

/-- However pages are fetched, a walk asks by the iterators of the pages received, in turn, up to
the first result that does not lead on. It makes one fetch for each of the results up to that one,
and its result is the failure, or the items of all pages. As long as all results lead on, it
fetches as many as it may. -/
theorem start_of_answers (fetch : σ → Option String → Except Failure (Page α) × σ) (s : σ) :
    (∃ results states, Answers fetch s results states) ∧
      ∀ results states, Answers fetch s results states →
        (∀ k, IsLeast {i | IsLast (results i)} k → ∀ fuel, k < fuel →
          start fetch fuel s =
              ⟨cursors results (k + 1),
                some ((results k).map fun _ => collected results (k + 1)), states (k + 1)⟩ ∧
            (start fetch fuel s).asked.length = k + 1) ∧
        ∀ fuel, (∀ i < fuel, ¬ IsLast (results i)) →
          start fetch fuel s = ⟨cursors results fuel, none, states fuel⟩ := by
  refine ⟨exists_answers fetch s, fun results states h => ⟨fun k hk fuel hfuel => ?_, ?_⟩⟩
  · rw [start_of_isLeast h hk hfuel]
    exact ⟨rfl, length_cursors results (k + 1)⟩
  · exact fun fuel hon => start_of_forall_not_isLast h hon

/-- A page that is done ends a walk, whatever iterator it has. -/
example :
    start (fun (n : Nat) _ => (.ok ⟨[n], n = 2, some "next", none⟩, n + 1)) 9 0 =
      ⟨[none, some "next", some "next"], some (.ok [0, 1, 2]), 3⟩ :=
  rfl

end Walk

end WebhookClient
