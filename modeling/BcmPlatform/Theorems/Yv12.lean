import Mathlib.Algebra.GroupWithZero.Nat
import Mathlib.Order.CompletePartialOrder
import Mathlib.Order.Interval.Set.Basic
import Mathlib.Order.Interval.Set.Disjoint
import BcmPlatform.Bomx.Yv12

/-! Where the planes of a YV12 buffer are. The decoder and gralloc put Cb behind Cr; the encoder takes the size of Cr for the
    offset of Cb in the buffer, which is inside Y. -/

namespace BcmPlatform.Bomx

/-! ### Rounding up -/

theorem and_mask {x k : Nat} (hx : x < u32) (hk : k ≤ 32) : x &&& (u32 - 2 ^ k) = x / 2 ^ k * 2 ^ k := by
  have hpow : 2 ^ k - 1 < 2 ^ 32 := by
    have := Nat.pow_le_pow_right (show 0 < 2 by decide) hk
    have := Nat.two_pow_pos k
    omega
  have hmask : u32 - 2 ^ k = 2 ^ 32 - (2 ^ k - 1 + 1) := by
    have := Nat.two_pow_pos k
    simp only [u32]
    omega
  apply Nat.eq_of_testBit_eq
  intro i
  rw [hmask, Nat.testBit_and, Nat.testBit_two_pow_sub_succ hpow, Nat.testBit_two_pow_sub_one, Nat.mul_comm,
    Nat.testBit_two_pow_mul, Nat.testBit_div_two_pow]
  by_cases hik : i < k
  · simp [hik]
  · by_cases hi : i < 32
    · simp [hik, hi, show k ≤ i by omega]
    · have hle : 2 ^ 32 ≤ 2 ^ i := Nat.pow_le_pow_right (show 0 < 2 by decide) (Nat.le_of_not_lt hi)
      have hfalse : x.testBit i = false := Nat.testBit_lt_two_pow (Nat.lt_of_lt_of_le hx hle)
      simp [hfalse, show k ≤ i by omega]

theorem maskUp_two_pow (x : Nat) {k : Nat} (hk : k ≤ 32) :
    maskUp x (2 ^ k) = (x + (2 ^ k - 1)) % u32 / 2 ^ k * 2 ^ k :=
  and_mask (Nat.mod_lt _ (by decide)) hk

theorem maskUp_sixteen (x : Nat) : maskUp x 16 = (x + 15) % u32 / 16 * 16 := maskUp_two_pow x (show 4 ≤ 32 by decide)

theorem dvd_maskUp (x : Nat) {k : Nat} (hk : k ≤ 32) : 2 ^ k ∣ maskUp x (2 ^ k) := by
  rw [maskUp_two_pow x hk]
  exact Nat.dvd_mul_left _ _

theorem maskUp_le_of_dvd {x m k : Nat} (hk : k ≤ 32) (hdvd : 2 ^ k ∣ m) (hx : x ≤ m) : maskUp x (2 ^ k) ≤ m := by
  obtain ⟨c, rfl⟩ := hdvd
  have hpos := Nat.two_pow_pos k
  rw [maskUp_two_pow x hk, Nat.mul_comm (2 ^ k)]
  refine Nat.mul_le_mul_right _ (Nat.lt_succ_iff.mp (Nat.div_lt_of_lt_mul ?_))
  have hmod := Nat.mod_le (x + (2 ^ k - 1)) u32
  rw [Nat.mul_succ]
  omega

/-! ### The bytes of a plane -/

/-- The bytes that the rows of a plane take in the buffer. -/
def YuvPlane.bytes (p : YuvPlane) : Set Nat := Set.Ico p.offset (p.offset + p.rowInc * p.rows)

theorem YuvPlane.bytes_eq_empty {p : YuvPlane} (h : p.rowInc * p.rows = 0) : p.bytes = ∅ := by
  rw [bytes, h, Nat.add_zero, Set.Ico_self]

/-- The planes do not overlap. -/
structure Yv12Planes.Separate (l : Yv12Planes) : Prop where
  y_cr : Disjoint l.y.bytes l.cr.bytes
  y_cb : Disjoint l.y.bytes l.cb.bytes
  cr_cb : Disjoint l.cr.bytes l.cb.bytes

theorem Yv12Planes.separate_of_empty {l : Yv12Planes} (hcr : l.cr.bytes = ∅) (hcb : l.cb.bytes = ∅) : l.Separate :=
  ⟨hcr ▸ Set.disjoint_empty _, hcb ▸ Set.disjoint_empty _, hcb ▸ Set.disjoint_empty _⟩

/-- Planes of the same bytes. -/
structure Yv12Planes.SameBytes (l l' : Yv12Planes) : Prop where
  y : l.y.bytes = l'.y.bytes
  cr : l.cr.bytes = l'.cr.bytes
  cb : l.cb.bytes = l'.cb.bytes

/-- `ExtractGrallocBuffer` agrees with the rest: its planes do not overlap, and in a YV12 buffer of gralloc they are those
    of the decoder, which `DescribeColorFormat` reports. -/
structure Yv12Agrees (handle : GrallocBuffer) : Prop where
  separate : (extractGrallocBuffer handle).Separate
  decoder : handle = grallocYv12 handle.width handle.height →
    (extractGrallocBuffer handle).SameBytes (destripeToYv12 handle)
  described : handle = grallocYv12 handle.width handle.height →
    describeYv12 handle.stride handle.height = (extractGrallocBuffer handle).info

/-! ### Y and Cb -/

theorem signedHalf_of_lt {stride : Nat} (h : stride < 2147483648) : signedHalf stride = stride / 2 := if_pos h

theorem cstride_le {width k : Nat} (hk : k ≤ 32) (hlt : maskUp width (2 ^ k) < 2147483648) :
    maskUp (signedHalf (maskUp width (2 ^ k))) (2 ^ k) ≤ maskUp width (2 ^ k) := by
  rw [signedHalf_of_lt hlt]
  exact maskUp_le_of_dvd hk (dvd_maskUp width hk) (Nat.div_le_self _ 2)

theorem cbOffset_lt {width height k : Nat} (hk : k ≤ 32) (hheight : 2 ≤ height)
    (hchroma : 0 < maskUp (signedHalf (maskUp width (2 ^ k))) (2 ^ k)) :
    height / 2 * maskUp (signedHalf (maskUp width (2 ^ k))) (2 ^ k) % u32 < maskUp width (2 ^ k) * height := by
  by_cases hlt : maskUp width (2 ^ k) < 2147483648
  · have hle := cstride_le hk hlt
    have hmod := Nat.mod_le (height / 2 * maskUp (signedHalf (maskUp width (2 ^ k))) (2 ^ k)) u32
    have hrows : height / 2 * maskUp (signedHalf (maskUp width (2 ^ k))) (2 ^ k) ≤ height / 2 * maskUp width (2 ^ k) :=
      Nat.mul_le_mul_left _ hle
    have hhalf : height / 2 * maskUp width (2 ^ k) < height * maskUp width (2 ^ k) :=
      Nat.mul_lt_mul_of_pos_right (by omega) (Nat.lt_of_lt_of_le hchroma hle)
    rw [Nat.mul_comm (maskUp width (2 ^ k)) height]
    omega
  · have hmod : height / 2 * maskUp (signedHalf (maskUp width (2 ^ k))) (2 ^ k) % u32 < u32 := Nat.mod_lt _ (by decide)
    have hmul : 2147483648 * 2 ≤ maskUp width (2 ^ k) * height := Nat.mul_le_mul (Nat.le_of_not_lt hlt) hheight
    simp only [u32] at hmod ⊢
    omega

theorem extractGrallocBuffer_separate_iff {handle : GrallocBuffer} {k : Nat} (hk : k ≤ 32)
    (halignment : handle.alignment = 2 ^ k) : (extractGrallocBuffer handle).Separate ↔
      maskUp (signedHalf (maskUp handle.width (2 ^ k))) (2 ^ k) = 0 ∨ handle.height < 2 := by
  constructor
  · intro h
    by_contra hchroma
    obtain ⟨hne, hheight⟩ := not_or.mp hchroma
    have hpos := Nat.pos_of_ne_zero hne
    have hlt := cbOffset_lt hk (Nat.le_of_not_lt hheight) hpos
    have hrows : 0 < handle.height / 2 := Nat.div_pos (Nat.le_of_not_lt hheight) (by decide)
    have hy : (extractGrallocBuffer handle).cb.offset ∈ (extractGrallocBuffer handle).y.bytes := by
      simpa [YuvPlane.bytes, extractGrallocBuffer, halignment] using hlt
    have hcb : (extractGrallocBuffer handle).cb.offset ∈ (extractGrallocBuffer handle).cb.bytes := by
      refine ⟨Nat.le_refl _, Nat.lt_add_of_pos_right (Nat.mul_pos ?_ hrows)⟩
      simpa only [extractGrallocBuffer, halignment] using hpos
    exact Set.disjoint_left.mp h.y_cb hy hcb
  · intro hchroma
    have hempty : maskUp (signedHalf (maskUp handle.width (2 ^ k))) (2 ^ k) * (handle.height / 2) = 0 := by
      rcases hchroma with hzero | hheight
      · rw [hzero, Nat.zero_mul]
      · rw [Nat.div_eq_of_lt hheight, Nat.mul_zero]
    refine Yv12Planes.separate_of_empty (YuvPlane.bytes_eq_empty ?_) (YuvPlane.bytes_eq_empty ?_) <;>
      simpa only [extractGrallocBuffer, halignment] using hempty

/-! ### When there is no chroma -/

theorem maskUp_eq_zero_iff {x k : Nat} (hk : k ≤ 31) (hx : x < u32) :
    maskUp x (2 ^ k) = 0 ↔ x = 0 ∨ u32 < x + 2 ^ k := by
  have hpos := Nat.two_pow_pos k
  have hle : 2 ^ k ≤ 2 ^ 31 := Nat.pow_le_pow_right (by decide) hk
  rw [maskUp_two_pow x (by omega), Nat.mul_eq_zero, or_iff_left hpos.ne', Nat.div_eq_zero_iff, or_iff_right hpos.ne']
  by_cases hwrap : x + (2 ^ k - 1) < u32
  · rw [Nat.mod_eq_of_lt hwrap]
    omega
  · rw [Nat.mod_eq_sub_mod (Nat.le_of_not_lt hwrap), Nat.mod_eq_of_lt (by simp only [u32] at *; omega)]
    simp only [u32] at *
    omega

theorem maskUp_bounds {x k : Nat} (hk : k ≤ 31) (hx : x + 2 ^ k ≤ u32) :
    x ≤ maskUp x (2 ^ k) ∧ maskUp x (2 ^ k) < x + 2 ^ k := by
  have hpos := Nat.two_pow_pos k
  rw [maskUp_two_pow x (by omega), Nat.mod_eq_of_lt (by omega)]
  have hdiv := Nat.div_add_mod' (x + (2 ^ k - 1)) (2 ^ k)
  have hmod := Nat.mod_lt (x + (2 ^ k - 1)) hpos
  omega

theorem dvd_u32 {k : Nat} (hk : k ≤ 32) : 2 ^ k ∣ u32 := Nat.pow_dvd_pow 2 hk

theorem maskUp_signedHalf_eq_zero_iff {stride k : Nat} (hk : k ≤ 30) (hdvd : 2 ^ k ∣ stride) (hstride : stride < u32) :
    maskUp (signedHalf stride) (2 ^ k) = 0 ↔ stride = 0 ∨ u32 ≤ stride + 2 ^ k ∨ 2 ^ k = 1 ∧ stride = 1 := by
  have hpos := Nat.two_pow_pos k
  have hle : 2 ^ k ≤ 2 ^ 30 := Nat.pow_le_pow_right (by decide) hk
  have hone : stride = 1 → 2 ^ k = 1 := fun h => Nat.dvd_one.mp (h ▸ hdvd)
  have hlast : u32 < stride + 2 ^ k + 2 ^ k → u32 ≤ stride + 2 ^ k := fun h =>
    Nat.le_of_lt_add_of_dvd h (dvd_u32 (by omega)) (Nat.dvd_add hdvd (Nat.dvd_refl _))
  have hhalf : signedHalf stride < u32 := by
    simp only [signedHalf, u32] at *
    split <;> omega
  rw [maskUp_eq_zero_iff (by omega) hhalf]
  simp only [signedHalf, u32] at *
  split <;> omega

/-- There are no chroma rows for no width, for negative widths above twice the negated alignment, and for one pixel that is
    not aligned. -/
theorem cstride_eq_zero_iff {width k : Nat} (hk : k ≤ 30) (hwidth : width < u32) :
    maskUp (signedHalf (maskUp width (2 ^ k))) (2 ^ k) = 0 ↔
      width = 0 ∨ u32 < width + 2 * 2 ^ k ∨ 2 ^ k = 1 ∧ width = 1 := by
  have hpos := Nat.two_pow_pos k
  have hdvd := dvd_maskUp width (show k ≤ 32 by omega)
  by_cases hwrap : width + 2 ^ k ≤ u32
  · obtain ⟨hge, hlt⟩ := maskUp_bounds (show k ≤ 31 by omega) hwrap
    have hstride : maskUp width (2 ^ k) < u32 := by omega
    have hlast : u32 < maskUp width (2 ^ k) + 2 ^ k + 2 ^ k → u32 ≤ maskUp width (2 ^ k) + 2 ^ k := fun h =>
      Nat.le_of_lt_add_of_dvd h (dvd_u32 (by omega)) (Nat.dvd_add hdvd (Nat.dvd_refl _))
    have hone : width = 1 → 2 ^ k = 1 → maskUp width (2 ^ k) = 1 := by omega
    have hzero := maskUp_eq_zero_iff (show k ≤ 31 by omega) hwidth
    rw [maskUp_signedHalf_eq_zero_iff hk hdvd hstride, hzero]
    omega
  · have hzero := (maskUp_eq_zero_iff (show k ≤ 31 by omega) hwidth).mpr (Or.inr (Nat.lt_of_not_le hwrap))
    rw [hzero, maskUp_signedHalf_eq_zero_iff hk (Nat.dvd_zero _) (by decide)]
    omega

/-! ### The buffers of gralloc -/

theorem maskUp_of_dvd {x : Nat} (hdvd : 16 ∣ x) (hx : x < u32) : maskUp x 16 = x := by
  rw [maskUp_sixteen]
  simp only [u32] at *
  omega

theorem maskUp_signedHalf_eq_iff {stride : Nat} (hdvd : 16 ∣ stride) (hstride : stride < u32) :
    maskUp (stride / 2) 16 = maskUp (signedHalf stride) 16 ↔ stride < 2147483648 := by
  rw [maskUp_sixteen, maskUp_sixteen]
  simp only [signedHalf, u32] at *
  split <;> omega

theorem grallocStride (width : Nat) : 16 ∣ maskUp width 16 ∧ maskUp width 16 < u32 := by
  rw [maskUp_sixteen]
  simp only [u32]
  omega

theorem describeYv12_eq_iff {width height : Nat}
    (hchroma : maskUp (signedHalf (maskUp width 16)) 16 = 0 ∨ height < 2) :
    describeYv12 (maskUp width 16) height = (extractGrallocBuffer (grallocYv12 width height)).info ↔
      maskUp width 16 = 0 ∨ height = 0 ∧ maskUp width 16 < 2147483648 := by
  obtain ⟨hdvd, hstride⟩ := grallocStride width
  have hhalf := maskUp_signedHalf_eq_iff hdvd hstride
  have hzero : maskUp (signedHalf (maskUp width 16)) 16 = 0 ↔ _ :=
    maskUp_signedHalf_eq_zero_iff (k := 4) (by decide) hdvd hstride
  have hle : maskUp width 16 < 2147483648 → maskUp (maskUp width 16 / 2) 16 ≤ maskUp width 16 := fun h =>
    maskUp_le_of_dvd (k := 4) (by decide) hdvd (Nat.div_le_self _ 2)
  simp only [describeYv12, Yv12Planes.info, YuvPlane.info, extractGrallocBuffer, grallocYv12, maskUp_of_dvd hdvd hstride,
    Prod.mk.injEq, PlaneInfo.mk.injEq, true_and]
  generalize maskUp width 16 = stride at *
  rcases hchroma with hchroma | hheight
  · rw [hhalf, hchroma]
    simp only [u32] at *
    constructor
    · rintro ⟨hsmall, -⟩
      omega
    · rintro (rfl | ⟨rfl, hsmall⟩)
      · rw [show maskUp (0 / 2) 16 = 0 by decide]
        simp
      · simp
        omega
  · obtain rfl | rfl : height = 0 ∨ height = 1 := by omega
    · rw [hhalf]
      simp
      omega
    · rw [hhalf]
      simp only [u32] at *
      omega

theorem sameBytes_of_empty {width height : Nat} (h : maskUp width 16 = 0 ∨ height = 0) :
    (extractGrallocBuffer (grallocYv12 width height)).SameBytes (destripeToYv12 (grallocYv12 width height)) := by
  rcases h with hstride | rfl
  · have hcstride : maskUp (signedHalf 0) 16 = 0 ∧ maskUp (0 / 2) 16 = 0 := by decide
    constructor <;>
      simp only [YuvPlane.bytes, extractGrallocBuffer, destripeToYv12, grallocYv12, hstride, hcstride, Nat.mul_zero,
        Nat.zero_mul, Nat.zero_mod, Nat.add_zero]
  · constructor <;> simp [YuvPlane.bytes, extractGrallocBuffer, destripeToYv12, grallocYv12]

/-- The encoder finds the planes of a buffer where they are only if it has no chroma: then they do not overlap, and in a
    buffer of gralloc they are those of the decoder and of the description if there is no height or no width either. -/
theorem extractGrallocBuffer_agrees_iff {handle : GrallocBuffer} {k : Nat} (hk : k ≤ 30)
    (halignment : handle.alignment = 2 ^ k) (hwidth : handle.width < u32) : Yv12Agrees handle ↔
      (handle.height < 2 ∨ handle.width = 0 ∨ u32 < handle.width + 2 * handle.alignment ∨
        handle.alignment = 1 ∧ handle.width = 1) ∧
      (handle = grallocYv12 handle.width handle.height →
        handle.width = 0 ∨ u32 < handle.width + 16 ∨ handle.height = 0 ∧ handle.width + 16 ≤ 2147483648) := by
  have hseparate := extractGrallocBuffer_separate_iff (show k ≤ 32 by omega) halignment
  have hcstride := cstride_eq_zero_iff hk hwidth
  rw [← halignment] at hseparate hcstride
  have hzero : maskUp handle.width 16 = 0 ↔ handle.width = 0 ∨ u32 < handle.width + 16 :=
    maskUp_eq_zero_iff (k := 4) (by decide) hwidth
  have hsmall : handle.width + 16 ≤ u32 → (maskUp handle.width 16 < 2147483648 ↔ handle.width + 16 ≤ 2147483648) := by
    intro hlt
    rw [maskUp_sixteen, Nat.mod_eq_of_lt (by omega)]
    omega
  have hdescribed : handle = grallocYv12 handle.width handle.height → (extractGrallocBuffer handle).Separate →
      (describeYv12 handle.stride handle.height = (extractGrallocBuffer handle).info ↔
        maskUp handle.width 16 = 0 ∨ handle.height = 0 ∧ maskUp handle.width 16 < 2147483648) := by
    intro hgralloc hsep
    have halign : handle.alignment = 16 := congrArg GrallocBuffer.alignment hgralloc
    have hstride : handle.stride = maskUp handle.width 16 := congrArg GrallocBuffer.stride hgralloc
    have hiff := describeYv12_eq_iff (halign ▸ hseparate.mp hsep)
    rw [← hgralloc] at hiff
    rwa [hstride]
  constructor
  · intro h
    have hchroma := hseparate.mp h.separate
    refine ⟨by omega, fun hgralloc => ?_⟩
    have hempty := (hdescribed hgralloc h.separate).mp (h.described hgralloc)
    omega
  · rintro ⟨hchroma, hgralloc⟩
    have hsep := hseparate.mpr (by omega)
    have hempty : handle = grallocYv12 handle.width handle.height →
        maskUp handle.width 16 = 0 ∨ handle.height = 0 ∧ maskUp handle.width 16 < 2147483648 := by
      intro heq
      have hwhen := hgralloc heq
      omega
    refine ⟨hsep, fun heq => ?_, fun heq => (hdescribed heq hsep).mpr (hempty heq)⟩
    rw [heq]
    exact sameBytes_of_empty ((hempty heq).imp_right And.left)

/-- The Cb of a picture of 32 × 32 is looked for in byte 256, and Y has 1024. -/
theorem extractGrallocBuffer_not_agrees :
    (extractGrallocBuffer (grallocYv12 32 32)).cb = { offset := 256, rowInc := 16, width := 16, rows := 16 } ∧
      (destripeToYv12 (grallocYv12 32 32)).cb = { offset := 1280, rowInc := 16, width := 16, rows := 16 } ∧
      ¬ Yv12Agrees (grallocYv12 32 32) := by
  refine ⟨by decide, by decide, fun h => ?_⟩
  have hchroma := (extractGrallocBuffer_separate_iff (k := 4) (by decide) rfl).mp h.separate
  revert hchroma
  decide

theorem extractGrallocBuffer_agrees_empty : Yv12Agrees (grallocYv12 32 0) :=
  (extractGrallocBuffer_agrees_iff (k := 4) (by decide) rfl (by decide)).mpr (by decide)

/-! ### The places that add the size of the first chroma plane -/

theorem Yv12Planes.separate_of_consecutive (first second third : YuvPlane)
    (hsecond : first.offset + first.rowInc * first.rows ≤ second.offset)
    (hthird : second.offset + second.rowInc * second.rows ≤ third.offset) :
    Disjoint first.bytes second.bytes ∧ Disjoint first.bytes third.bytes ∧ Disjoint second.bytes third.bytes := by
  have hle : first.offset + first.rowInc * first.rows ≤ third.offset :=
    (hsecond.trans (Nat.le_add_right _ _)).trans hthird
  refine ⟨?_, ?_, ?_⟩ <;> rw [YuvPlane.bytes, YuvPlane.bytes, Set.Ico_disjoint_Ico] <;>
    exact (min_le_left _ _).trans (le_trans (by assumption) (le_max_right _ _))

end BcmPlatform.Bomx
