import Mathlib.Data.List.Basic

/-! Folds over lists: flags that elements set, fields that elements overwrite, and fields that are kept. -/

namespace BcmPlatform.Lib
variable {σ γ β : Type} {step : σ → γ → σ} {cs : List γ}

theorem foldl_flag {flag : σ → Bool} {sets : γ → Bool} (h : ∀ s, ∀ c ∈ cs, flag (step s c) = (flag s || sets c)) (s : σ) :
    flag (cs.foldl step s) = (flag s || cs.any sets) := by
  induction cs generalizing s with
  | nil => rw [List.foldl_nil, List.any_nil, Bool.or_false]
  | cons c cs ih =>
    rw [List.foldl_cons, ih fun s c hc => h s c (List.mem_cons_of_mem _ hc), h s c List.mem_cons_self, List.any_cons,
      Bool.or_assoc]

theorem foldl_field {v : σ → β} {g : γ → Option β} (h : ∀ s, ∀ c ∈ cs, v (step s c) = (g c).getD (v s))
    {x : β} (hsame : ∀ c ∈ cs, ∀ y, g c = some y → y = x) {s : σ} (hx : v s = x ∨ ∃ c ∈ cs, g c = some x) :
    v (cs.foldl step s) = x := by
  induction cs generalizing s with
  | nil =>
    obtain hs | ⟨c, hc, -⟩ := hx
    · exact hs
    · exact absurd hc List.not_mem_nil
  | cons c cs ih =>
    have hstep := h s c List.mem_cons_self
    rw [List.foldl_cons]
    refine ih (fun s c hc => h s c (List.mem_cons_of_mem _ hc)) (fun c hc => hsame c (List.mem_cons_of_mem _ hc)) ?_
    cases hsets : g c with
    | some y =>
      rw [hsets, hsame c List.mem_cons_self y hsets] at hstep
      exact .inl hstep
    | none =>
      rw [hsets] at hstep
      obtain hs | ⟨c', hc', hx⟩ := hx
      · exact .inl (hstep.trans hs)
      · rcases List.mem_cons.mp hc' with rfl | hc'
        · rw [hsets] at hx
          cases hx
        · exact .inr ⟨c', hc', hx⟩

theorem foldl_findSome {v : σ → β} {g : γ → Option β}
    (h : ∀ s, ∀ c ∈ cs, v (step s c) = (g c).getD (v s))
    (hsame : ∀ c ∈ cs, ∀ c' ∈ cs, ∀ y y', g c = some y → g c' = some y' → y = y') {x : β}
    (hx : cs.findSome? g = some x) (s : σ) : v (cs.foldl step s) = x := by
  obtain ⟨c, hc, hx⟩ := List.exists_of_findSome?_eq_some hx
  exact foldl_field h (fun c' hc' y hy => hsame c' hc' c hc y x hy hx) (.inr ⟨c, hc, hx⟩)

theorem foldl_last {v : σ → β} {g : γ → Option β} (h : ∀ s, ∀ c ∈ cs, v (step s c) = (g c).getD (v s)) (s : σ) :
    v (cs.foldl step s) = (cs.filterMap g).getLast?.getD (v s) := by
  induction cs generalizing s with
  | nil => rfl
  | cons c cs ih =>
    rw [List.foldl_cons, ih fun s c hc => h s c (List.mem_cons_of_mem _ hc), h s c List.mem_cons_self]
    cases hc : g c with
    | none => rw [List.filterMap_cons_none hc, Option.getD_none]
    | some x => rw [List.filterMap_cons_some hc, List.getLast?_cons, Option.getD_some, Option.getD_some]

theorem foldl_kept {v : σ → β} (h : ∀ s, ∀ c ∈ cs, v (step s c) = v s) (s : σ) :
    v (cs.foldl step s) = v s := by
  induction cs generalizing s with
  | nil => rfl
  | cons c cs ih =>
    rw [List.foldl_cons, ih fun s c hc => h s c (List.mem_cons_of_mem _ hc), h s c List.mem_cons_self]

theorem findSome_flatMap {δ : Type} (f : γ → List δ) (g : δ → Option β) (cs : List γ) :
    (cs.flatMap f).findSome? g = cs.findSome? fun c => (f c).findSome? g := by
  induction cs with
  | nil => rfl
  | cons c cs ih =>
    rw [List.flatMap_cons, List.findSome?_append, ih, List.findSome?_cons]
    cases (f c).findSome? g <;> rfl

end BcmPlatform.Lib
