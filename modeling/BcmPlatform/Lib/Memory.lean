import Mathlib.Data.List.Basic
import Mathlib.Logic.Nontrivial.Basic

/-! Byte stores. A store is a function from addresses; a write replaces a block of consecutive cells and a read returns one.
    Reads see the last write that covers them and no write next to them. A fill gives some cells one value, whatever was
    there. -/

namespace BcmPlatform.Lib

/-- A store with one cell for each address. -/
abbrev Memory (α : Type) := Nat → α

namespace Memory
variable {α : Type}

/-- The cells from `off` on are replaced by `bs`. -/
def write (m : Memory α) (off : Nat) (bs : List α) : Memory α := fun i =>
  if i < off then m i else (bs[i - off]?).getD (m i)

/-- The `len` cells from `off` on. -/
def read (m : Memory α) (off len : Nat) : List α := (List.range len).map fun i => m (off + i)

@[simp] theorem length_read (m : Memory α) (off len : Nat) : (m.read off len).length = len := by
  simp [read]

theorem read_zero (m : Memory α) (off : Nat) : m.read off 0 = [] := rfl

theorem read_add (m : Memory α) (off a b : Nat) : m.read off (a + b) = m.read off a ++ m.read (off + a) b := by
  simp [read, List.range_add, Nat.add_assoc]

theorem read_congr {m m' : Memory α} {off len : Nat} (h : ∀ i, off ≤ i → i < off + len → m i = m' i) :
    m.read off len = m'.read off len := by
  apply List.map_congr_left
  intro i hi
  exact h _ (Nat.le_add_right _ _) (by have := List.mem_range.mp hi; omega)

theorem read_write_same (m : Memory α) (off : Nat) (bs : List α) : (m.write off bs).read off bs.length = bs := by
  apply List.ext_getElem
  · simp
  · intro i h₁ h₂
    have hi : i < bs.length := by simpa using h₁
    have hlt : ¬ off + i < off := by omega
    simp [read, write, hi, hlt]

theorem read_write_below (m : Memory α) {off off' len : Nat} (bs : List α) (h : off' + len ≤ off) :
    (m.write off bs).read off' len = m.read off' len := by
  apply read_congr
  intro i _ hi
  have : i < off := by omega
  simp [write, this]

theorem read_write_above (m : Memory α) {off off' len : Nat} (bs : List α) (h : off + bs.length ≤ off') :
    (m.write off bs).read off' len = m.read off' len := by
  apply read_congr
  intro i hi _
  have hlt : ¬ i < off := by omega
  have hnone : bs[i - off]? = none := List.getElem?_eq_none (by omega)
  simp [write, hlt, hnone]

theorem read_write_middle {m : Memory α} {off : Nat} {a b b' c : List α} (hb : b'.length = b.length)
    (h : m.read off (a.length + b.length + c.length) = a ++ b ++ c) :
    (m.write (off + a.length) b').read off (a.length + b.length + c.length) = a ++ b' ++ c := by
  rw [read_add, read_add] at h ⊢
  obtain ⟨hab, hc⟩ := List.append_inj h (by simp)
  obtain ⟨ha, -⟩ := List.append_inj hab (by simp)
  have hmid : (m.write (off + a.length) b').read (off + a.length) b.length = b' := by rw [← hb, read_write_same]
  rw [read_write_below _ _ (Nat.le_refl _), ha, hmid, read_write_above _ _ (by rw [hb]; omega), hc]

end Memory
end BcmPlatform.Lib

/-! ### Fills -/

namespace BcmPlatform.Lib
namespace Memory
variable {α : Type} {s t : Nat → Prop} {x : α}

/-- The cells of `s` get the value `x`. -/
def fill (s : Nat → Prop) [DecidablePred s] (x : α) (m : Memory α) : Memory α := fun i => if s i then x else m i

/-- Whatever the store was, the cells of `t` have the value `x` behind `f`. -/
def Fills (f : Memory α → Memory α) (t : Nat → Prop) (x : α) : Prop := ∀ m i, t i → f m i = x

theorem Fills.agree {f : Memory α → Memory α} (h : Fills f t x) (m m' : Memory α) {i : Nat} (hi : t i) : f m i = f m' i :=
  (h m i hi).trans (h m' i hi).symm

theorem fills_fill_iff [Nontrivial α] [DecidablePred s] : Fills (fill s x) t x ↔ ∀ i, t i → s i := by
  constructor
  · intro h i hi
    by_contra hs
    obtain ⟨y, hy⟩ := exists_ne x
    have hx := h (fun _ => y) i hi
    rw [fill, if_neg hs] at hx
    exact hy hx
  · intro h m i hi
    rw [fill, if_pos (h i hi)]

theorem fills_id_iff [Nontrivial α] : Fills id t x ↔ ∀ i, ¬ t i := by
  constructor
  · intro h i hi
    obtain ⟨y, hy⟩ := exists_ne x
    exact hy (h (fun _ => y) i hi)
  · intro h m i hi
    exact absurd hi (h i)

end Memory

/-! ### Rectangles -/

/-- Whether a cell is one of `rows` rows of `width` cells, which begin `pitch` cells apart. -/
def InRect (base pitch width rows i : Nat) : Prop := ∃ r, r < rows ∧ base + r * pitch ≤ i ∧ i < base + r * pitch + width

instance (base pitch width rows : Nat) : DecidablePred (InRect base pitch width rows) := fun i =>
  inferInstanceAs (Decidable (∃ r, r < rows ∧ base + r * pitch ≤ i ∧ i < base + r * pitch + width))

variable {base pitch width rows n : Nat}

theorem inRect_empty_iff : (∀ i, ¬ InRect base pitch width rows i) ↔ width = 0 ∨ rows = 0 := by
  constructor
  · intro h
    by_contra hne
    obtain ⟨hwidth, hrows⟩ := not_or.mp hne
    exact h base ⟨0, by omega, by omega, by omega⟩
  · rintro h i ⟨r, hr, hlow, hhigh⟩
    omega

theorem inRect_lt_iff :
    (∀ i, InRect base pitch width rows i → i < n) ↔ width = 0 ∨ rows = 0 ∨ base + (rows - 1) * pitch + width ≤ n := by
  constructor
  · intro h
    by_contra hne
    obtain ⟨hwidth, hne⟩ := not_or.mp hne
    obtain ⟨hrows, hend⟩ := not_or.mp hne
    have hlast := h (base + (rows - 1) * pitch + (width - 1)) ⟨rows - 1, by omega, by omega, by omega⟩
    omega
  · rintro h i ⟨r, hr, hlow, hhigh⟩
    have hle : r * pitch ≤ (rows - 1) * pitch := Nat.mul_le_mul_right pitch (by omega)
    omega

end BcmPlatform.Lib
