import Mathlib.Algebra.BigOperators.Group.List.Basic
import Mathlib.Algebra.GroupWithZero.Nat
import Mathlib.Data.List.Basic
import Mathlib.Data.List.TakeWhile

/-! Lists cut into segments: up to the last element with a property, and past the first ones with a property that no later
    element has; into pieces of a fixed size, the last one possibly shorter; and an amount trimmed from the front of a
    sequence of parts. -/

namespace BcmPlatform.Lib
variable {α : Type} {p : α → Bool} {l : List α}

/-- The elements up to the last one that satisfies `p`; none if there is none. -/
def upToLast (p : α → Bool) (l : List α) : List α := (l.reverse.dropWhile fun x => !p x).reverse

theorem exists_eq_upToLast_append (p : α → Bool) (l : List α) :
    ∃ rest, l = upToLast p l ++ rest ∧ ∀ x ∈ rest, p x = false := by
  refine ⟨(l.reverse.takeWhile fun x => !p x).reverse, ?_, fun x hx => ?_⟩
  · rw [upToLast, ← List.reverse_append, List.takeWhile_append_dropWhile, List.reverse_reverse]
  · have hp := List.mem_takeWhile_imp (List.mem_reverse.mp hx)
    simpa using hp

theorem getLast?_upToLast {x : α} (h : (upToLast p l).getLast? = some x) : p x = true := by
  rw [upToLast, List.getLast?_reverse] at h
  have hhead := List.head?_dropWhile_not (fun x => !p x) l.reverse
  rw [h] at hhead
  simpa using hhead

/-! ### Properties that only first elements have -/

theorem dropWhile_eq_filter (h : l.Pairwise fun x y => p y = true → p x = true) :
    l.dropWhile p = l.filter fun x => !p x := by
  induction l with
  | nil => rfl
  | cons a l ih =>
    obtain ⟨ha, hl⟩ := List.pairwise_cons.mp h
    by_cases hp : p a = true
    · rw [List.dropWhile_cons_of_pos hp, ih hl, List.filter_cons_of_neg (by simp [hp])]
    · have hrest : ∀ x ∈ l, (!p x) = true := fun x hx => by
        have hx' : ¬ p x = true := fun hpx => hp (ha x hx hpx)
        simpa using hx'
      rw [List.dropWhile_cons_of_neg hp, List.filter_cons_of_pos (by simpa using hp), List.filter_eq_self.mpr hrest]

theorem takeWhile_eq_filter (h : l.Pairwise fun x y => p y = true → p x = true) : l.takeWhile p = l.filter p := by
  induction l with
  | nil => rfl
  | cons a l ih =>
    obtain ⟨ha, hl⟩ := List.pairwise_cons.mp h
    by_cases hp : p a = true
    · rw [List.takeWhile_cons_of_pos hp, ih hl, List.filter_cons_of_pos hp]
    · have hrest : ∀ x ∈ l, ¬ p x = true := fun x hx hpx => hp (ha x hx hpx)
      rw [List.takeWhile_cons_of_neg hp, List.filter_cons_of_neg hp, List.filter_eq_nil_iff.mpr hrest]

theorem filter_prefix_iff : l.filter p <+: l ↔ l.Pairwise fun x y => p y = true → p x = true := by
  refine ⟨fun h => ?_, fun h => takeWhile_eq_filter h ▸ List.takeWhile_prefix p⟩
  induction l with
  | nil => exact .nil
  | cons a l ih =>
    by_cases hp : p a = true
    · rw [List.filter_cons_of_pos hp, List.cons_prefix_cons] at h
      exact (ih h.2).cons fun _ _ _ => hp
    · rw [List.filter_cons_of_neg hp] at h
      have hnone : l.filter p = [] := by
        cases hl : l.filter p with
        | nil => rfl
        | cons b rest =>
          rw [hl, List.cons_prefix_cons] at h
          have hb : b ∈ l.filter p := hl ▸ List.mem_cons_self
          exact absurd (h.1 ▸ (List.mem_filter.mp hb).2) hp
      have hrest := List.filter_eq_nil_iff.mp hnone
      exact .cons (fun x hx hpx => absurd hpx (hrest x hx))
        (List.pairwise_of_forall_mem_list fun x _ y hy hpy => absurd hpy (hrest y hy))

theorem filter_append_filter_not (h : l.Pairwise fun x y => p y = true → p x = true) :
    l.filter p ++ (l.filter fun x => !p x) = l := by
  rw [← dropWhile_eq_filter h, ← takeWhile_eq_filter h, List.takeWhile_append_dropWhile]

theorem map_injOn {β : Type} {f : α → β} (hinj : ∀ x ∈ l, ∀ y ∈ l, f x = f y → x = y) {l₁ : List α} : ∀ {l₂ : List α},
    l₁ ⊆ l → l₂ ⊆ l → l₁.map f = l₂.map f → l₁ = l₂ := by
  induction l₁ with
  | nil =>
    intro l₂ _ _ h
    exact (List.map_eq_nil_iff.mp h.symm).symm
  | cons x l₁ ih =>
    intro l₂ h₁ h₂ h
    cases l₂ with
    | nil => cases h
    | cons y l₂ =>
      obtain ⟨hhead, htail⟩ := List.cons.inj h
      obtain ⟨hx, h₁⟩ := List.cons_subset.mp h₁
      obtain ⟨hy, h₂⟩ := List.cons_subset.mp h₂
      rw [hinj x hx y hy hhead, ih h₁ h₂ htail]

end BcmPlatform.Lib

/-! ### Pieces of a fixed size -/

namespace BcmPlatform.Lib
variable {α : Type}

/-- The pieces of `l` of size `n`, at most `fuel` of them. -/
def chunks (n : Nat) : Nat → List α → List (List α)
  | 0, _ => []
  | fuel + 1, l => if l.isEmpty then [] else l.take n :: chunks n fuel (l.drop n)

/-- The number of pieces of size `n` that `len` elements take. -/
def chunkCount (n len : Nat) : Nat := (len + (n - 1)) / n

theorem chunkCount_zero {n : Nat} (hn : 0 < n) : chunkCount n 0 = 0 := by
  unfold chunkCount
  exact Nat.div_eq_of_lt (by omega)

theorem chunkCount_of_pos {n len : Nat} (hn : 0 < n) (hlen : 0 < len) :
    chunkCount n len = chunkCount n (len - n) + 1 := by
  unfold chunkCount
  by_cases h : len ≤ n
  · have h0 : len - n = 0 := by omega
    rw [h0, Nat.div_eq_of_lt (show 0 + (n - 1) < n by omega)]
    exact Nat.div_eq_of_lt_le (by omega) (by omega)
  · rw [show len + (n - 1) = (len - n + (n - 1)) + n by omega, Nat.add_div_right _ hn]

theorem chunkCount_le_iff {n len k : Nat} (hn : 0 < n) : chunkCount n len ≤ k ↔ len ≤ n * k := by
  unfold chunkCount
  rw [Nat.div_le_iff_le_mul_add_pred hn]
  constructor <;> intro h <;> omega

theorem flatten_chunks {n : Nat} (hn : 0 < n) : ∀ (fuel : Nat) (l : List α), l.length ≤ fuel →
    (chunks n fuel l).flatten = l
  | 0, l, h => by
    have : l = [] := List.length_eq_zero_iff.mp (Nat.le_zero.mp h)
    simp [this, chunks]
  | fuel + 1, [], _ => by simp [chunks]
  | fuel + 1, x :: l, h => by
    have ih := flatten_chunks hn fuel ((x :: l).drop n) (by
      rw [List.length_drop]
      simp only [List.length_cons] at h ⊢
      omega)
    simp only [chunks, List.isEmpty_cons, Bool.false_eq_true, if_false, List.flatten_cons, ih]
    exact List.take_append_drop n (x :: l)

theorem length_of_mem_chunks {n : Nat} (hn : 0 < n) : ∀ (fuel : Nat) (l : List α), ∀ c ∈ chunks n fuel l,
    0 < c.length ∧ c.length ≤ n
  | 0, _, c, hc => by simp [chunks] at hc
  | fuel + 1, [], c, hc => by simp [chunks] at hc
  | fuel + 1, x :: l, c, hc => by
    simp only [chunks, List.isEmpty_cons, Bool.false_eq_true, if_false, List.mem_cons] at hc
    rcases hc with rfl | hc
    · simp only [List.length_take, List.length_cons]
      omega
    · exact length_of_mem_chunks hn fuel _ c hc

end BcmPlatform.Lib

/-! ### Trims -/

namespace BcmPlatform.Lib

/-- What each part of a sequence loses when `amount` is trimmed from its front. -/
def trims : Nat → List Nat → List Nat
  | _, [] => []
  | amount, part :: rest => min amount part :: trims (amount - part) rest

@[simp] theorem length_trims (amount : Nat) (parts : List Nat) : (trims amount parts).length = parts.length := by
  induction parts generalizing amount with
  | nil => rfl
  | cons part rest ih => simp [trims, ih]

theorem trims_append (amount : Nat) (parts parts' : List Nat) :
    trims amount (parts ++ parts') = trims amount parts ++ trims (amount - parts.sum) parts' := by
  induction parts generalizing amount with
  | nil => simp [trims]
  | cons part rest ih => simp only [List.cons_append, trims, ih, List.sum_cons, Nat.sub_sub]

theorem sum_trims (amount : Nat) (parts : List Nat) : (trims amount parts).sum = min amount parts.sum := by
  induction parts generalizing amount with
  | nil => simp [trims]
  | cons part rest ih =>
    simp only [trims, List.sum_cons, ih]
    omega

theorem trims_eq_self {amount : Nat} {parts : List Nat} (h : parts.sum ≤ amount) : trims amount parts = parts := by
  induction parts generalizing amount with
  | nil => rfl
  | cons part rest ih =>
    rw [List.sum_cons] at h
    rw [trims, Nat.min_eq_right (by omega), ih (by omega)]

end BcmPlatform.Lib
