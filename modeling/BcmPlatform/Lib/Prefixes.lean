import Mathlib.Algebra.GroupWithZero.Nat
import Mathlib.Data.List.Basic

/-! Prefixes of a list: what a loop takes that goes through a queue as long as the next element can be paid from a budget,
    or up to the first element it looks for. -/

namespace BcmPlatform.Lib
variable {α : Type} (need : α → Nat)

/-- The elements that are paid one after the other, up to the first one that cannot be. -/
def affordable : Nat → List α → List α
  | _, [] => []
  | budget, a :: l => if need a ≤ budget then a :: affordable (budget - need a) l else []

variable {need} {budget : Nat} {l : List α}

theorem affordable_isPrefix : ∀ (budget : Nat) (l : List α), affordable need budget l <+: l
  | _, [] => List.prefix_rfl
  | budget, a :: l => by
    rw [affordable]
    split
    · exact List.prefix_cons_inj a |>.mpr (affordable_isPrefix _ l)
    · exact List.nil_prefix

theorem prefix_affordable {l' : List α} (hpre : l' <+: l) (hsum : (l'.map need).sum ≤ budget) :
    l' <+: affordable need budget l := by
  induction l generalizing budget l' with
  | nil => exact hpre
  | cons a l ih =>
    cases l' with
    | nil => exact List.nil_prefix
    | cons b l' =>
      obtain ⟨rfl, htail⟩ := List.cons_prefix_cons.mp hpre
      simp only [List.map_cons, List.sum_cons] at hsum
      have hb : need b ≤ budget := by omega
      rw [affordable, if_pos hb]
      exact List.cons_prefix_cons.mpr ⟨rfl, ih htail (by omega)⟩

theorem length_affordable_le_one_iff :
    (affordable need budget l).length ≤ 1 ↔ ∀ a b rest, l = a :: b :: rest → budget < need a + need b := by
  constructor
  · rintro h a b rest rfl
    by_contra hbudget
    have hsum : ([a, b].map need).sum ≤ budget := by
      simp only [List.map_cons, List.map_nil, List.sum_cons, List.sum_nil]
      omega
    have hpair : [a, b] <+: a :: b :: rest := ⟨rest, rfl⟩
    exact absurd (Nat.le_trans (prefix_affordable hpair hsum).length_le h) (Nat.not_succ_le_self 1)
  · intro h
    rcases l with _ | ⟨a, _ | ⟨b, rest⟩⟩
    · exact Nat.zero_le _
    · exact (affordable_isPrefix budget [a]).length_le
    · have hbudget := h a b rest rfl
      rw [affordable]
      split
      · rw [affordable, if_neg (by omega)]
        exact Nat.le_refl _
      · exact Nat.zero_le _

/-! ### Up to the first -/

section UpToFirst
variable (p : α → Bool) {a : α} {l : List α}

/-- The elements up to and including the first one that satisfies `p`, and none if there is none. -/
def upToFirst (l : List α) : List α := if l.any p then l.take (l.findIdx p + 1) else []

theorem upToFirst_isPrefix (l : List α) : upToFirst p l <+: l := by
  rw [upToFirst]
  split
  · exact List.take_prefix _ l
  · exact List.nil_prefix

variable {p}

theorem getLast?_upToFirst_of_pos (h : p a = true) : (upToFirst p (a :: l)).getLast? = some a := by
  simp [upToFirst, List.findIdx_cons, h]

theorem getLast?_upToFirst_of_neg (h : p a = false) : (upToFirst p (a :: l)).getLast? = (upToFirst p l).getLast? := by
  by_cases hany : l.any p = true
  · have hne : l.take (l.findIdx p + 1) ≠ [] := by
      rintro hnil
      have hl : l = [] := by simpa using hnil
      simp [hl] at hany
    simp only [upToFirst, List.any_cons, h, hany, Bool.false_or, if_true, List.findIdx_cons, cond_false, List.take_succ_cons]
    rw [List.getLast?_cons_of_ne_nil hne]
  · simp [upToFirst, h, hany]

end UpToFirst

theorem getLast?_cons_or (a : α) (l : List α) (o : Option α) : (a :: l).getLast?.or o = l.getLast?.or (some a) := by
  rw [List.getLast?_cons, Option.some_or, Option.or_some]

theorem idxOf_getLast_of_isPrefix [DecidableEq α] {a : α} {l l' : List α} (hnodup : l.Nodup) (hpre : l' <+: l)
    (hlast : l'.getLast? = some a) : l.idxOf a + 1 = l'.length := by
  obtain ⟨before, rfl⟩ := List.getLast?_eq_some_iff.mp hlast
  obtain ⟨rest, rfl⟩ := hpre
  have ha : a ∉ before := by
    rw [List.append_assoc] at hnodup
    exact fun hmem => (List.nodup_append.mp hnodup).2.2 a hmem a (by simp) rfl
  rw [List.append_assoc, List.idxOf_append_of_notMem ha]
  simp

end BcmPlatform.Lib
