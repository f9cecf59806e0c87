import Mathlib.Data.List.Nodup
import Mathlib.Data.List.Perm.Subperm

/-! Taking the first elements with a property out of a list: what goes, what stays, and in which order. -/

namespace BcmPlatform.Lib
variable {α : Type} (p : α → Bool)

/-- The list without the first `k` elements that satisfy `p`. -/
def dropFirst : Nat → List α → List α
  | 0, l => l
  | _, [] => []
  | k + 1, x :: l => if p x then dropFirst k l else x :: dropFirst (k + 1) l

variable {p} {k : Nat} {l : List α} {x : α}

@[simp] theorem dropFirst_zero (l : List α) : dropFirst p 0 l = l := by cases l <;> rfl

@[simp] theorem dropFirst_nil (k : Nat) : dropFirst p k [] = [] := by cases k <;> rfl

theorem dropFirst_cons_of_pos (hx : p x = true) : dropFirst p (k + 1) (x :: l) = dropFirst p k l := by
  simp [dropFirst, hx]

theorem dropFirst_cons_of_neg (hx : p x = false) : dropFirst p k (x :: l) = x :: dropFirst p k l := by
  cases k <;> simp [dropFirst, hx]

theorem dropFirst_sublist : ∀ (k : Nat) (l : List α), (dropFirst p k l).Sublist l
  | 0, l => by rw [dropFirst_zero]
  | _, [] => by rw [dropFirst_nil]
  | k + 1, x :: l => by
    cases hx : p x with
    | true =>
      rw [dropFirst_cons_of_pos hx]
      exact (dropFirst_sublist k l).cons x
    | false =>
      rw [dropFirst_cons_of_neg hx]
      exact (dropFirst_sublist (k + 1) l).cons_cons x

theorem dropFirst_perm : ∀ (k : Nat) (l : List α), ((l.filter p).take k ++ dropFirst p k l).Perm l
  | 0, l => by simp
  | _, [] => by simp
  | k + 1, x :: l => by
    cases hx : p x with
    | true =>
      rw [dropFirst_cons_of_pos hx, List.filter_cons_of_pos hx, List.take_succ_cons, List.cons_append]
      exact (dropFirst_perm k l).cons x
    | false =>
      rw [dropFirst_cons_of_neg hx, List.filter_cons_of_neg (by simp [hx])]
      exact List.perm_middle.trans ((dropFirst_perm (k + 1) l).cons x)

theorem mem_dropFirst_iff [DecidableEq α] (hnodup : l.Nodup) :
    x ∈ dropFirst p k l ↔ x ∈ l ∧ x ∉ (l.filter p).take k := by
  have hperm := dropFirst_perm (p := p) k l
  have hdisjoint := (List.nodup_append.mp (hperm.nodup_iff.mpr hnodup)).2.2
  constructor
  · intro hx
    exact ⟨(dropFirst_sublist k l).subset hx, fun hout => hdisjoint x hout x hx rfl⟩
  · rintro ⟨hx, hout⟩
    exact (List.mem_append.mp (hperm.mem_iff.mpr hx)).resolve_left hout

theorem dropFirst_eq_self (h : (l.filter p).take k = []) : dropFirst p k l = l := by
  have hlen := (dropFirst_perm (p := p) k l).length_eq
  rw [h, List.nil_append] at hlen
  exact (dropFirst_sublist k l).eq_of_length hlen

theorem length_le_filter_add [DecidableEq α] {out : List α} (hnodup : l.Nodup) :
    l.length ≤ (l.filter (· ∉ out)).length + out.length := by
  have hsub : (l.filter (· ∈ out)).length ≤ out.length := by
    refine (hnodup.filter _).length_le_of_subset ?_
    intro x hx
    exact of_decide_eq_true (List.mem_filter.mp hx).2
  have hsplit := List.length_eq_length_filter_add (l := l) (fun x => decide (x ∈ out))
  have hnot : (l.filter fun x => !decide (x ∈ out)) = l.filter (· ∉ out) := by simp
  rw [hnot] at hsplit
  omega

/-! ### The first element with a key -/

section Key
variable {β : Type} [DecidableEq β] (key : α → β) (b c : β)

theorem filter_eraseP_same : ∀ l : List α, (l.eraseP (key · = b)).filter (key · = b) = (l.filter (key · = b)).tail
  | [] => rfl
  | x :: l => by
    by_cases hx : key x = b
    · simp [hx]
    · simp [hx, filter_eraseP_same l]

theorem filter_eraseP_of_ne (hbc : c ≠ b) : ∀ l : List α, (l.eraseP (key · = b)).filter (key · = c) = l.filter (key · = c)
  | [] => rfl
  | x :: l => by
    by_cases hx : key x = b
    · have hxc : key x ≠ c := fun hxc => hbc (hxc.symm.trans hx)
      simp [hx, hbc.symm]
    · simp [hx, List.filter_cons, filter_eraseP_of_ne hbc l]

/-- Lists that have the same elements under each key, in the same order, still do when the first element with a key goes. -/
theorem filter_eraseP_congr {key : α → β} {l l' : List α} (h : ∀ c, l.filter (key · = c) = l'.filter (key · = c)) (b c : β) :
    (l.eraseP (key · = b)).filter (key · = c) = (l'.eraseP (key · = b)).filter (key · = c) := by
  by_cases hbc : c = b
  · rw [hbc, filter_eraseP_same, filter_eraseP_same, h b]
  · rw [filter_eraseP_of_ne key b c hbc, filter_eraseP_of_ne key b c hbc, h c]

end Key
end BcmPlatform.Lib
