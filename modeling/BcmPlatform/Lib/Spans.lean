import Mathlib.Algebra.Order.Field.Basic
import Mathlib.Algebra.Order.Field.Rat
import Mathlib.Algebra.Order.Ring.Abs
import Mathlib.Tactic.FieldSimp
import Mathlib.Tactic.Linarith
import Mathlib.Tactic.Ring

/-! Spans of pixels, and pictures that are scaled from one span to another. A place of the destination is an edge between two
    pixels; the place of the source that is shown there is a rational number. -/

namespace BcmPlatform.Lib

@[ext]
structure Span where
  start : Int
  size : Nat
  deriving DecidableEq, Repr

namespace Span
variable {a b c n : ℚ}

def stop (s : Span) : Int := s.start + s.size

/-- The part of the span on a surface that begins at `0`. -/
def visible (surface : Nat) (s : Span) : Span where
  start := max s.start 0
  size := (min s.stop surface - max s.start 0).toNat

/-- One span is in the other. -/
def Within (s t : Span) : Prop := t.start ≤ s.start ∧ s.stop ≤ t.stop

instance (s t : Span) : Decidable (s.Within t) := inferInstanceAs (Decidable (_ ∧ _))

/-- The place of `src` that is shown at the place `t` of `out`, when `src` is scaled to `out`. -/
def scaleAt (src out : Span) (t : Int) : ℚ := src.start + (t - out.start) * src.size / out.size

theorem abs_affine_le (h0 : |a| ≤ c) (hn : |a + n * b| ≤ c) {t : ℚ} (ht0 : 0 ≤ t) (htn : t ≤ n) : |a + t * b| ≤ c := by
  rw [abs_le] at h0 hn ⊢
  rcases le_total 0 b with hb | hb
  · have hlow : 0 ≤ t * b := mul_nonneg ht0 hb
    have hhigh : t * b ≤ n * b := mul_le_mul_of_nonneg_right htn hb
    constructor <;> linarith
  · have hlow : t * b ≤ 0 := mul_nonpos_of_nonneg_of_nonpos ht0 hb
    have hhigh : n * b ≤ t * b := mul_le_mul_of_nonpos_right htn hb
    constructor <;> linarith

/-- The two sources are shown in the same places of `shown`, up to a pixel. -/
def SamePicture (shown : Span) (src out src' out' : Span) : Prop :=
  ∀ t, shown.start ≤ t → t ≤ shown.stop → |src.scaleAt out t - src'.scaleAt out' t| ≤ 1

theorem samePicture_iff (shown src out src' out' : Span) : SamePicture shown src out src' out' ↔
    |src.scaleAt out shown.start - src'.scaleAt out' shown.start| ≤ 1 ∧
      |src.scaleAt out shown.stop - src'.scaleAt out' shown.stop| ≤ 1 := by
  have hsize : shown.start ≤ shown.stop := Int.le_add_of_nonneg_right (Int.natCast_nonneg _)
  refine ⟨fun h => ⟨h _ (Int.le_refl _) hsize, h _ hsize (Int.le_refl _)⟩, fun ⟨hstart, hstop⟩ t hlow hhigh => ?_⟩
  -- The distance of the two places is affine in `t`.
  have haffine : ∀ u : Int, src.scaleAt out u - src'.scaleAt out' u =
      (src.scaleAt out shown.start - src'.scaleAt out' shown.start) +
        ((u - shown.start : Int) : ℚ) * ((src.size : ℚ) / out.size - (src'.size : ℚ) / out'.size) := by
    intro u
    simp only [scaleAt]
    push_cast
    ring
  rw [haffine] at hstop ⊢
  refine abs_affine_le hstart hstop ?_ ?_
  · exact_mod_cast Int.sub_nonneg_of_le hlow
  · exact_mod_cast Int.sub_le_sub_right hhigh _

theorem abs_sub_scale_le_one {cut size out : ℚ} (hout : 0 < out) (hcut : 0 ≤ cut) :
    |cut - cut * size / out| ≤ 1 ↔ cut * |size - out| ≤ out := by
  have heq : cut - cut * size / out = -(cut * (size - out)) / out := by
    field_simp
    ring
  rw [heq, abs_div, abs_neg, abs_mul, abs_of_nonneg hcut, abs_of_pos hout, div_le_one hout]

end Span
end BcmPlatform.Lib
