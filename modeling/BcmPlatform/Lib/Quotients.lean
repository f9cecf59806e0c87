import Mathlib.Algebra.BigOperators.Group.List.Basic
import Mathlib.Algebra.GroupWithZero.Nat

/-! A quantity that is counted in whole units piece by piece, where only the remainder of each piece by a modulus is seen:
    what is lost against the units of the whole quantity. -/

namespace BcmPlatform.Lib

/-- The whole units in the pieces, each seen modulo `modulus`. -/
def pieceUnits (modulus unit : Nat) (pieces : List Nat) : Nat := (pieces.map (· % modulus / unit)).sum

/-- The units of the whole quantity that no piece has. -/
def lostUnits (modulus unit : Nat) (pieces : List Nat) : Nat := pieces.sum / unit - pieceUnits modulus unit pieces

/-- No piece wraps, and the remainders of the pieces do not make up another unit. -/
def Lossless (modulus unit : Nat) (pieces : List Nat) : Prop :=
  (∀ d ∈ pieces, d < modulus) ∧ (pieces.map (· % unit)).sum < unit

section
variable {modulus unit : Nat}

theorem pieceUnits_append (l l' : List Nat) :
    pieceUnits modulus unit (l ++ l') = pieceUnits modulus unit l + pieceUnits modulus unit l' := by
  rw [pieceUnits, List.map_append, List.sum_append]
  rfl

theorem pieceUnits_cons (d : Nat) (l : List Nat) :
    pieceUnits modulus unit (d :: l) = d % modulus / unit + pieceUnits modulus unit l := by
  rw [pieceUnits, List.map_cons, List.sum_cons]
  rfl

theorem pieceUnits_singleton (d : Nat) : pieceUnits modulus unit [d] = d % modulus / unit := by
  rw [pieceUnits, List.map_singleton, List.sum_singleton]

theorem sum_div_add_sum_mod (unit : Nat) (pieces : List Nat) :
    pieces.sum = unit * (pieces.map (· / unit)).sum + (pieces.map (· % unit)).sum := by
  induction pieces with
  | nil => rfl
  | cons d pieces ih =>
    have hd := Nat.div_add_mod d unit
    rw [List.sum_cons, List.map_cons, List.map_cons, List.sum_cons, List.sum_cons, Nat.mul_add]
    omega

theorem sum_div_eq (hunit : 0 < unit) (pieces : List Nat) :
    pieces.sum / unit = (pieces.map (· / unit)).sum + (pieces.map (· % unit)).sum / unit := by
  have h := sum_div_add_sum_mod unit pieces
  rw [h, Nat.mul_add_div hunit]

theorem mod_div_le (modulus unit d : Nat) : d % modulus / unit ≤ d / unit := Nat.div_le_div_right (Nat.mod_le d modulus)

theorem mod_div_eq_iff (hunit : 0 < unit) (hle : unit ≤ modulus) (d : Nat) : d % modulus / unit = d / unit ↔ d < modulus := by
  constructor
  · intro h
    by_contra hge
    have hsub : d % modulus + modulus ≤ d := by
      have hd := Nat.div_add_mod d modulus
      have hq : 1 ≤ d / modulus := Nat.div_pos (Nat.not_lt.mp hge) (Nat.lt_of_lt_of_le hunit hle)
      have := Nat.mul_le_mul_left modulus hq
      omega
    have hunits : (d % modulus + unit) / unit ≤ d / unit := Nat.div_le_div_right (by omega)
    rw [Nat.add_div_right _ hunit] at hunits
    omega
  · intro h
    rw [Nat.mod_eq_of_lt h]

theorem pieceUnits_le_sum_map (modulus unit : Nat) (pieces : List Nat) : pieceUnits modulus unit pieces ≤ (pieces.map (· / unit)).sum := by
  induction pieces with
  | nil => exact Nat.le_refl 0
  | cons d pieces ih =>
    rw [pieceUnits_cons, List.map_cons, List.sum_cons]
    exact Nat.add_le_add (mod_div_le modulus unit d) ih

theorem pieceUnits_eq_sum_map_iff (hunit : 0 < unit) (hle : unit ≤ modulus) (pieces : List Nat) :
    pieceUnits modulus unit pieces = (pieces.map (· / unit)).sum ↔ ∀ d ∈ pieces, d < modulus := by
  induction pieces with
  | nil => exact ⟨fun _ _ h => absurd h List.not_mem_nil, fun _ => rfl⟩
  | cons d pieces ih =>
    have hd := mod_div_le modulus unit d
    have hrest := pieceUnits_le_sum_map modulus unit pieces
    rw [List.forall_mem_cons, ← mod_div_eq_iff hunit hle d, ← ih, pieceUnits_cons, List.map_cons, List.sum_cons]
    constructor
    · intro h
      exact ⟨by omega, by omega⟩
    · rintro ⟨hd, hrest⟩
      rw [hd, hrest]

theorem pieceUnits_le (hunit : 0 < unit) (pieces : List Nat) : pieceUnits modulus unit pieces ≤ pieces.sum / unit := by
  rw [sum_div_eq hunit]
  exact Nat.le_trans (pieceUnits_le_sum_map modulus unit pieces) (Nat.le_add_right _ _)

theorem pieceUnits_add_lostUnits (hunit : 0 < unit) (pieces : List Nat) :
    pieceUnits modulus unit pieces + lostUnits modulus unit pieces = pieces.sum / unit :=
  Nat.add_sub_cancel' (pieceUnits_le hunit pieces)

theorem lostUnits_eq_zero_iff (hunit : 0 < unit) (hle : unit ≤ modulus) (pieces : List Nat) :
    lostUnits modulus unit pieces = 0 ↔ Lossless modulus unit pieces := by
  have hsum := sum_div_eq hunit pieces
  have hpieces := pieceUnits_le_sum_map modulus unit pieces
  rw [Lossless, ← pieceUnits_eq_sum_map_iff hunit hle, lostUnits, hsum, Nat.sub_eq_zero_iff_le]
  constructor
  · intro h
    refine ⟨Nat.le_antisymm hpieces (Nat.le_trans (Nat.le_add_right _ _) h), ?_⟩
    by_contra hge
    have := Nat.div_pos (Nat.not_lt.mp hge) hunit
    omega
  · rintro ⟨heq, hlt⟩
    exact Nat.le_of_eq (by rw [Nat.div_eq_of_lt hlt, heq, Nat.add_zero])

end
end BcmPlatform.Lib
