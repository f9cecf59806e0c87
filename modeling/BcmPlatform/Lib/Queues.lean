import Mathlib.Data.List.Basic
import Mathlib.Data.List.Nodup

/-! Queues. Those of distinct names, as a linked list keeps them: the name behind and the name before a given one, and
    insertion behind a given one; each is computed where the queue is split at that name. And run lengths: what is known of
    each element of a queue, written once for all neighbours it was queued with, and shortened from the front as the queue is. -/

namespace BcmPlatform.Lib.Queue
variable {α : Type} [DecidableEq α]

/-- The name behind `a`. -/
def next (q : List α) (a : α) : Option α := (q.dropWhile (· ≠ a)).tail.head?

/-- The name before `a`. -/
def prev (q : List α) (a : α) : Option α := next q.reverse a

/-- The queue with `b` behind `a`. -/
def insertAfter (a b : α) : List α → List α
  | [] => []
  | x :: q => if x = a then x :: b :: q else x :: insertAfter a b q

variable {a b : α} {before after : List α}

theorem next_of_split (ha : a ∉ before) : next (before ++ a :: after) a = after.head? := by
  have hbefore : ∀ x ∈ before, decide (x ≠ a) = true := fun x hx => decide_eq_true fun hxa => ha (hxa ▸ hx)
  rw [next, List.dropWhile_append_of_pos hbefore]
  simp

theorem prev_of_split (ha : a ∉ after) : prev (before ++ a :: after) a = before.getLast? := by
  have hsplit : (before ++ a :: after).reverse = after.reverse ++ a :: before.reverse := by simp
  rw [prev, hsplit, next_of_split (by simpa using ha), List.head?_reverse]

theorem insertAfter_of_split (ha : a ∉ before) :
    insertAfter a b (before ++ a :: after) = before ++ a :: b :: after := by
  induction before with
  | nil => simp [insertAfter]
  | cons x before ih =>
    obtain ⟨hax, ha⟩ := not_or.mp (List.mem_cons.not.mp ha)
    rw [List.cons_append, insertAfter, if_neg (Ne.symm hax), ih ha, List.cons_append]

theorem erase_of_split (ha : a ∉ before) : (before ++ a :: after).erase a = before ++ after := by
  rw [List.erase_append_right _ ha, List.erase_cons_head]

end BcmPlatform.Lib.Queue

/-! ### Run lengths -/

namespace BcmPlatform.Lib
variable {τ : Type}

/-- A value and the number of neighbours that have it. -/
structure Run (τ : Type) where
  value : τ
  length : Nat
  deriving DecidableEq, Repr

/-- What the run lengths say, element by element. -/
def spread (runs : List (Run τ)) : List τ := runs.flatMap fun run => List.replicate run.length run.value

/-- The run lengths behind the first elements. -/
def dropRuns : Nat → List (Run τ) → List (Run τ)
  | 0, runs => runs
  | _ + 1, [] => []
  | n + 1, run :: runs =>
    if n + 1 < run.length then { run with length := run.length - (n + 1) } :: runs else dropRuns (n + 1 - run.length) runs

@[simp] theorem spread_nil : spread ([] : List (Run τ)) = [] := rfl

@[simp] theorem spread_cons (run : Run τ) (runs : List (Run τ)) :
    spread (run :: runs) = List.replicate run.length run.value ++ spread runs := List.flatMap_cons

theorem spread_append (runs runs' : List (Run τ)) : spread (runs ++ runs') = spread runs ++ spread runs' :=
  List.flatMap_append

@[simp] theorem dropRuns_zero (runs : List (Run τ)) : dropRuns 0 runs = runs := by cases runs <;> rfl

theorem spread_dropRuns (n : Nat) (runs : List (Run τ)) : spread (dropRuns n runs) = (spread runs).drop n := by
  fun_induction dropRuns n runs with
  | case1 => rfl
  | case2 => rw [spread_nil, List.drop_nil]
  | case3 n run runs hlt =>
    rw [spread_cons, spread_cons, List.drop_append_of_le_length (by rw [List.length_replicate]; exact Nat.le_of_lt hlt),
      List.drop_replicate]
  | case4 n run runs hlt ih =>
    have hle : (List.replicate run.length run.value).length ≤ n + 1 := by rw [List.length_replicate]; exact Nat.le_of_not_lt hlt
    rw [ih, spread_cons, List.drop_append, List.drop_eq_nil_of_le hle, List.nil_append, List.length_replicate]

theorem dropRuns_dropRuns (m n : Nat) (runs : List (Run τ)) : dropRuns m (dropRuns n runs) = dropRuns (n + m) runs := by
  fun_induction dropRuns n runs with
  | case1 => rw [Nat.zero_add]
  | case2 n =>
    cases m with
    | zero => rw [dropRuns_zero, dropRuns]
    | succ m => rw [dropRuns, ← Nat.add_assoc, dropRuns]
  | case3 n run runs hlt =>
    cases m with
    | zero => rw [dropRuns_zero, Nat.add_zero, dropRuns, if_pos hlt]
    | succ m =>
      rw [dropRuns, ← Nat.add_assoc, dropRuns]
      by_cases hmore : n + 1 + m + 1 < run.length
      · rw [if_pos hmore, if_pos (by dsimp only; omega)]
        congr 2
        dsimp only
        omega
      · rw [if_neg hmore, if_neg (by dsimp only; omega)]
        congr 1
        dsimp only
        omega
  | case4 n run runs hlt ih =>
    rw [ih, show n + 1 + m = n + m + 1 by omega, dropRuns, if_neg (by omega)]
    congr 1
    omega

theorem value_mem_of_mem_dropRuns {n : Nat} {runs : List (Run τ)} {run : Run τ} (h : run ∈ dropRuns n runs) :
    ∃ run' ∈ runs, run'.value = run.value := by
  fun_induction dropRuns n runs with
  | case1 => exact ⟨_, h, rfl⟩
  | case2 => cases h
  | case3 n first runs hlt =>
    rcases List.mem_cons.mp h with rfl | h
    · exact ⟨first, List.mem_cons_self, rfl⟩
    · exact ⟨run, List.mem_cons_of_mem _ h, rfl⟩
  | case4 n run runs hlt ih =>
    obtain ⟨run', hmem, heq⟩ := ih h
    exact ⟨run', List.mem_cons_of_mem _ hmem, heq⟩

theorem pos_of_mem_dropRuns {n : Nat} {runs : List (Run τ)} (hpos : ∀ run ∈ runs, 0 < run.length) :
    ∀ run ∈ dropRuns n runs, 0 < run.length := by
  fun_induction dropRuns n runs with
  | case1 => exact hpos
  | case2 => exact by simp
  | case3 n run runs hlt =>
    intro run h
    rcases List.mem_cons.mp h with rfl | h
    · exact Nat.sub_pos_of_lt hlt
    · exact hpos run (List.mem_cons_of_mem _ h)
  | case4 n run runs hlt ih => exact ih fun run h => hpos run (List.mem_cons_of_mem _ h)

theorem head?_spread {runs : List (Run τ)} (hpos : ∀ run ∈ runs, 0 < run.length) :
    (spread runs).head? = runs.head?.map (·.value) := by
  cases runs with
  | nil => rfl
  | cons run runs =>
    obtain ⟨n, hn⟩ := Nat.exists_eq_add_of_lt (hpos run List.mem_cons_self)
    rw [Nat.zero_add] at hn
    rw [spread_cons, hn, List.replicate_succ]
    rfl

end BcmPlatform.Lib
