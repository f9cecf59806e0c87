import Mathlib.Data.Option.Basic
import Mathlib.Logic.Function.Iterate
import Mathlib.Logic.Relation

/-! Loops whose body either goes on with a new state or ends with a result: the run with a bound on its iterations, and the
    states that it passes. Runs of a transition system whose step function says which actions are possible, and the invariant
    rule: what holds at the start and is kept by every step that meets a condition holds after every run of such steps. Runs
    that do not end, and what happens in them at last. -/

namespace BcmPlatform.Lib
variable {σ ρ : Type} {step : σ → σ ⊕ ρ} {s s' : σ} {r r' : ρ} {fuel : Nat}

/-- The result of a loop, when it comes within `fuel` iterations. -/
def runLoop (step : σ → σ ⊕ ρ) : Nat → σ → Option ρ
  | 0, _ => none
  | fuel + 1, s => match step s with
    | .inl s' => runLoop step fuel s'
    | .inr r => some r

/-- A loop passes from a state to another one. -/
def Passes (step : σ → σ ⊕ ρ) : σ → σ → Prop := Relation.ReflTransGen fun s s' => step s = .inl s'

theorem runLoop_of_inl (h : step s = .inl s') : runLoop step (fuel + 1) s = runLoop step fuel s' := by
  rw [runLoop, h]

theorem runLoop_of_inr (h : step s = .inr r) : runLoop step (fuel + 1) s = some r := by
  rw [runLoop, h]

theorem exists_runLoop_iff : (∃ fuel, runLoop step fuel s = some r) ↔ ∃ s', Passes step s s' ∧ step s' = .inr r := by
  constructor
  · rintro ⟨fuel, hrun⟩
    induction fuel generalizing s with
    | zero => cases hrun
    | succ fuel ih =>
      cases hstep : step s with
      | inl s' =>
        rw [runLoop_of_inl hstep] at hrun
        obtain ⟨s'', hpasses, hend⟩ := ih hrun
        exact ⟨s'', .head hstep hpasses, hend⟩
      | inr r' =>
        rw [runLoop_of_inr hstep] at hrun
        cases hrun
        exact ⟨s, .refl, hstep⟩
  · rintro ⟨s', hpasses, hend⟩
    induction hpasses using Relation.ReflTransGen.head_induction_on with
    | refl => exact ⟨1, runLoop_of_inr hend⟩
    | head hstep _ ih =>
      obtain ⟨fuel, hrun⟩ := ih
      exact ⟨fuel + 1, by rw [runLoop_of_inl hstep, hrun]⟩

theorem Passes.last_unique {t : σ} (h : Passes step s s') (hend : step s' = .inr r) (h' : Passes step s t)
    (hend' : step t = .inr r') : s' = t := by
  induction h using Relation.ReflTransGen.head_induction_on with
  | refl =>
    cases h'.cases_head with
    | inl heq => exact heq
    | inr h =>
      obtain ⟨u, hu, -⟩ := h
      rw [hend] at hu
      cases hu
  | @head a b hab hbs ih =>
    cases h'.cases_head with
    | inl heq =>
      subst heq
      rw [hend'] at hab
      cases hab
    | inr h =>
      obtain ⟨u, hu, hut⟩ := h
      rw [hab] at hu
      cases hu
      exact ih hut

end BcmPlatform.Lib

/-! ### Transition systems -/

namespace BcmPlatform.Lib
variable {σ α : Type}

/-- The state after a list of actions, each of which passes a check. -/
def runChecked (step : σ → α → Option σ) (check : σ → α → Bool) : σ → List α → Option σ
  | s, [] => some s
  | s, a :: rest => if check s a then (step s a).bind fun s => runChecked step check s rest else none

/-- The states reached from `s₀` by steps that meet `ok`. -/
inductive Reaches (step : σ → α → Option σ) (ok : σ → α → Prop) (s₀ : σ) : σ → Prop where
  | init : Reaches step ok s₀ s₀
  | step {s s' : σ} {a : α} : Reaches step ok s₀ s → ok s a → step s a = some s' → Reaches step ok s₀ s'

namespace Reaches
variable {step : σ → α → Option σ} {ok : σ → α → Prop} {s₀ s : σ}

theorem invariant {P : σ → Prop} (hinit : P s₀)
    (hstep : ∀ s a s', P s → ok s a → step s a = some s' → P s') (h : Reaches step ok s₀ s) : P s := by
  induction h with
  | init => exact hinit
  | step _ hok hs ih => exact hstep _ _ _ ih hok hs

theorem mono {ok' : σ → α → Prop} (hok : ∀ s a, ok s a → ok' s a) (h : Reaches step ok s₀ s) :
    Reaches step ok' s₀ s := by
  induction h with
  | init => exact .init
  | step _ ha hs ih => exact ih.step (hok _ _ ha) hs

theorem trans {s' : σ} (h : Reaches step ok s₀ s) (h' : Reaches step ok s s') : Reaches step ok s₀ s' := by
  induction h' with
  | init => exact h
  | step _ ha hs ih => exact ih.step ha hs

theorem of_runChecked {check : σ → α → Bool} : ∀ (actions : List α) {s s' : σ},
    Reaches step (fun s a => check s a = true) s₀ s → runChecked step check s actions = some s' →
    Reaches step (fun s a => check s a = true) s₀ s'
  | [], s, s', h, hrun => by
    cases hrun
    exact h
  | a :: rest, s, s', h, hrun => by
    simp only [runChecked] at hrun
    split at hrun
    · next hcheck =>
      obtain ⟨s₁, hs₁, hrest⟩ := Option.bind_eq_some_iff.mp hrun
      exact of_runChecked rest (h.step hcheck hs₁) hrest
    · cases hrun

theorem exists_of_run (step : σ → α → Option σ) (check : σ → α → Bool) (s₀ : σ) (actions : List α) (p : σ → Bool)
    (h : (runChecked step check s₀ actions).any p = true) :
    ∃ s, Reaches step (fun s a => check s a = true) s₀ s ∧ p s = true := by
  obtain ⟨s, hrun, hp⟩ := (Option.any_eq_true _ _).mp h
  exact ⟨s, of_runChecked actions .init hrun, hp⟩

end Reaches

/-- A run that does not end. -/
structure EndlessRun (step : σ → α → Option σ) (ok : σ → α → Prop) where
  state : Nat → σ
  action : Nat → α
  ok : ∀ i, ok (state i) (action i)
  step : ∀ i, step (state i) (action i) = some (state (i + 1))

namespace EndlessRun
variable {step : σ → α → Option σ} {ok : σ → α → Prop} {s₀ : σ} (run : EndlessRun step ok)

theorem reaches (h : Reaches step ok s₀ (run.state 0)) : ∀ i, Reaches step ok s₀ (run.state i)
  | 0 => h
  | i + 1 => (reaches h i).step (run.ok i) (run.step i)

theorem exists_last {P : σ → Prop} {i : Nat} (hi : P (run.state i)) (hend : ¬ ∀ j, i ≤ j → P (run.state j)) :
    ∃ j, i ≤ j ∧ P (run.state j) ∧ ¬ P (run.state (j + 1)) := by
  by_contra hnone
  refine hend fun j hj => ?_
  induction hj with
  | refl => exact hi
  | @step j hj ih =>
    by_contra hnext
    exact hnone ⟨j, hj, ih, hnext⟩

theorem absurd_of_measure (measure : σ → Nat)
    (hless : ∀ i, ∃ j, i < j ∧ measure (run.state j) < measure (run.state i)) : False := by
  have hnone : ∀ n i, measure (run.state i) ≠ n := by
    intro n
    induction n using Nat.strongRecOn with
    | ind n ih =>
      rintro i rfl
      obtain ⟨j, -, hj⟩ := hless i
      exact ih _ hj j rfl
  exact hnone _ 0 rfl

theorem exists_of_invariant (P : σ → Prop) (next : σ → α) (hinit : P s₀)
    (hnext : ∀ s, P s → ok s (next s) ∧ ∃ s', step s (next s) = some s' ∧ P s') :
    ∃ run : EndlessRun step ok, run.state 0 = s₀ ∧ ∀ i, P (run.state i) ∧ run.action i = next (run.state i) := by
  let state (i : Nat) : σ := (fun s => (step s (next s)).getD s)^[i] s₀
  have hsucc (i : Nat) : state (i + 1) = (step (state i) (next (state i))).getD (state i) := Function.iterate_succ_apply' ..
  have hstep {s : σ} (h : P s) : step s (next s) = some ((step s (next s)).getD s) ∧ P ((step s (next s)).getD s) := by
    obtain ⟨-, s', hs', h'⟩ := hnext s h
    rw [hs']
    exact ⟨rfl, h'⟩
  have hstate (i : Nat) : P (state i) := by
    induction i with
    | zero => exact hinit
    | succ i ih =>
      rw [hsucc]
      exact (hstep ih).2
  let run : EndlessRun step ok :=
    { state, action := fun i => next (state i), ok := fun i => (hnext _ (hstate i)).1
      step := fun i => by
        rw [hsucc]
        exact (hstep (hstate i)).1 }
  exact ⟨run, rfl, fun i => ⟨hstate i, rfl⟩⟩

end EndlessRun
end BcmPlatform.Lib
