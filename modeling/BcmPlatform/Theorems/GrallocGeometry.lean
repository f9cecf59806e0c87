import BcmPlatform.Theorems.GrallocAlloc
import BcmPlatform.Theorems.Yv12

/-! The size of an allocated gralloc buffer: the dimensions for which the planes have room in what is allocated. -/

namespace BcmPlatform.Gralloc
open Lib Bomx

/-! ### Sizes without a bound -/

/-- The next multiple of 16. -/
def up16 (x : Int) : Int := x + 15 - (x + 15) % 16

/-- The stride of the chroma planes of a YUV format. -/
def chromaStride (w : Int) : Int := up16 ((up16 w).tdiv 2)

/-- The bytes of a YUV format: of the luma plane, and of the two chroma planes. -/
def yuvSize (w h : Int) : Int := up16 w * h + 2 * (h.tdiv 2 * chromaStride w)

/-- The sizes have room in an `int`. -/
def SizeFits (format : PixelFormat) (w h : Int) : Prop :=
  if format.isYuv then w + 15 < 2147483648 ∧ IntFits (yuvSize w h)
  else IntFits (w * ((getNexusPixelFormat format).getD 0 : Nat)) ∧ IntFits (w * ((getNexusPixelFormat format).getD 0 : Nat) * h)

instance (format : PixelFormat) (w h : Int) : Decidable (SizeFits format w h) :=
  inferInstanceAs (Decidable (if format.isYuv = true then w + 15 < 2147483648 ∧ IntFits (yuvSize w h) else
    IntFits (w * ((getNexusPixelFormat format).getD 0 : Nat)) ∧ IntFits (w * ((getNexusPixelFormat format).getD 0 : Nat) * h)))

section
variable {w h : Int}

theorem up16_bounds (x : Int) : x ≤ up16 x ∧ up16 x ≤ x + 15 := by
  rw [up16]
  omega

theorem half_bounds (x : Int) :
    (0 ≤ x → x.tdiv 2 = x / 2) ∧ (x ≤ 0 → x ≤ 2 * x.tdiv 2 ∧ 2 * x.tdiv 2 ≤ x + 1 ∧ x.tdiv 2 ≤ 0) := by
  refine ⟨fun hx => Int.tdiv_eq_ediv_of_nonneg hx, fun hx => ?_⟩
  have hneg : x.tdiv 2 = -((-x) / 2) := by
    rw [← Int.tdiv_eq_ediv_of_nonneg (Int.neg_nonneg_of_nonpos hx), Int.neg_tdiv, Int.neg_neg]
  omega

theorem up16_nonneg (hw : 0 ≤ w) : 0 ≤ up16 w := Int.le_trans hw (up16_bounds w).1

theorem chromaStride_nonneg (hw : 0 ≤ up16 w) : 0 ≤ chromaStride w :=
  up16_nonneg (Int.tdiv_nonneg hw (by decide))

theorem chromaStride_nonpos (hw : up16 w ≤ 0) : chromaStride w ≤ 0 := by
  have hhalf := (half_bounds (up16 w)).2 hw
  rw [chromaStride]
  by_cases hzero : up16 w = 0
  · rw [hzero]
    decide
  · -- the stride is a multiple of 16, and half of it is below 0
    have hdvd : up16 w % 16 = 0 := by
      rw [up16]
      omega
    rw [up16]
    omega

theorem yuvSize_parts (w h : Int) :
    0 ≤ up16 w * h ∧ 0 ≤ h.tdiv 2 * chromaStride w ∨ up16 w * h ≤ 0 ∧ h.tdiv 2 * chromaStride w ≤ 0 := by
  rcases Int.le_total 0 (up16 w) with hs | hs <;> rcases Int.le_total 0 h with hh | hh
  · have hhalf : 0 ≤ h.tdiv 2 := Int.tdiv_nonneg hh (by decide)
    exact Or.inl ⟨Int.mul_nonneg hs hh, Int.mul_nonneg hhalf (chromaStride_nonneg hs)⟩
  · have hhalf := ((half_bounds h).2 hh).2.2
    exact Or.inr ⟨Int.mul_nonpos_of_nonneg_of_nonpos hs hh, Int.mul_nonpos_of_nonpos_of_nonneg hhalf (chromaStride_nonneg hs)⟩
  · have hhalf : 0 ≤ h.tdiv 2 := Int.tdiv_nonneg hh (by decide)
    exact Or.inr ⟨Int.mul_nonpos_of_nonpos_of_nonneg hs hh, Int.mul_nonpos_of_nonneg_of_nonpos hhalf (chromaStride_nonpos hs)⟩
  · have hhalf := ((half_bounds h).2 hh).2.2
    exact Or.inl ⟨Int.mul_nonneg_of_nonpos_of_nonpos hs hh, Int.mul_nonneg_of_nonpos_of_nonpos hhalf (chromaStride_nonpos hs)⟩

/-! ### What is computed -/

theorem alignUp_tracks {c : IntCalc} {x : Int} {room : Prop} (hc : c.Tracks x room) :
    (alignUp c 16).Tracks (up16 x) ((room ∧ True) ∧ IntFits (x + 15)) :=
  (hc.add (.coe 15)).alignDown 16

theorem yuvData_tracks (hw : IntFits w) (hh : IntFits h) {format : PixelFormat} (hyuv : format.isYuv = true) (bpp : Int) :
    (getBufferDataFromFormat 1 w h bpp format).stride.Tracks (up16 w) (w + 15 < 2147483648) ∧
    (getBufferDataFromFormat 1 w h bpp format).size.Tracks (yuvSize w h) (w + 15 < 2147483648 ∧ IntFits (yuvSize w h)) := by
  have hdata : getBufferDataFromFormat 1 w h bpp format = getBufferDataFromFormat 1 w h bpp .yv12 := by
    cases format <;> first | rfl | cases hyuv
  have hstride : (alignUp (w : IntCalc) 16).Tracks (up16 w) (w + 15 < 2147483648) := by
    refine (alignUp_tracks (.coe w)).congr ?_
    have := hw.1
    simp only [true_and, IntFits]
    omega
  have hsize := (hstride.mul (.coe h)).add ((IntCalc.Tracks.coe 2).mul
    (((IntCalc.Tracks.coe h).div (.coe 2)).mul (alignUp_tracks (hstride.div (.coe 2)))))
  rw [hdata]
  refine ⟨hstride, hsize.congr ⟨fun hroom => ⟨hroom.1.1.1.1, hroom.2⟩, fun hroom => ?_⟩⟩
  have hparts := yuvSize_parts w h
  have hbounds := up16_bounds w
  have hhalf := half_bounds h
  have hhalfStride := half_bounds (up16 w)
  have := hw.1
  have := hh.1
  have := hh.2
  have htotal := hroom.2
  simp only [yuvSize, chromaStride, IntFits] at hparts htotal
  refine ⟨⟨⟨⟨hroom.1, trivial⟩, ?_⟩,
    ⟨trivial, ⟨⟨⟨trivial, trivial⟩, ?_⟩, ⟨⟨⟨hroom.1, trivial⟩, ?_⟩, trivial⟩, ?_⟩, ?_⟩, ?_⟩, hroom.2⟩
  all_goals
    simp only [IntFits]
    omega

theorem rgbData_tracks (hw : IntFits w) {format : PixelFormat} (hyuv : format.isYuv = false) {bpp : Nat}
    (hbpp : getNexusPixelFormat format = some bpp) :
    (getBufferDataFromFormat 1 w h bpp format).stride.Tracks w (IntFits (w * bpp)) ∧
    (getBufferDataFromFormat 1 w h bpp format).size.Tracks (w * bpp * h) (IntFits (w * bpp) ∧ IntFits (w * bpp * h)) := by
  have hdata : getBufferDataFromFormat 1 w h bpp format = getBufferDataFromFormat 1 w h bpp .rgba8888 := by
    cases format <;> first | rfl | exact absurd hyuv (by decide) | cases hbpp
  have hpos : (bpp : Int) ≠ 0 := by
    cases format <;> cases hbpp <;> decide
  have hpitch : (alignUp ((w : IntCalc) * ((bpp : Int) : IntCalc)) 1).Tracks (w * bpp) (IntFits (w * bpp)) := by
    have htracks := (((IntCalc.Tracks.coe w).mul (.coe (bpp : Int))).add (.coe (1 - 1))).alignDown 1
    rw [show w * (bpp : Int) + (1 - 1) - (w * bpp + (1 - 1)) % 1 = w * bpp by omega] at htracks
    refine htracks.congr ?_
    rw [show w * (bpp : Int) + (1 - 1) = w * bpp by omega]
    exact ⟨fun h => h.2, fun h => ⟨⟨⟨⟨trivial, trivial⟩, h⟩, trivial⟩, h⟩⟩
  have hstride := hpitch.div (.coe (bpp : Int))
  rw [Int.mul_tdiv_cancel w hpos] at hstride
  rw [hdata]
  exact ⟨hstride.congr ⟨fun h => h.1.1, fun h => ⟨⟨h, trivial⟩, hw⟩⟩,
    (hpitch.mul (.coe h)).congr ⟨fun h => ⟨h.1.1, h.2⟩, fun h => ⟨⟨h.1, trivial⟩, h.2⟩⟩⟩

end

theorem fits_toInt (x : Int32) : IntFits x.toInt := by
  have hlow := x.le_toInt
  have hhigh := x.toInt_lt
  rw [IntFits]
  omega

section
variable {w h : Int32} {format : PixelFormat} {usage : Usage} {bpp : Nat}

theorem exact_iff (hbpp : getNexusPixelFormat format = some bpp) :
    ((bufferData w h format bpp).stride.exact && (bufferData w h format bpp).size.exact) = true ↔
      SizeFits format w.toInt h.toInt := by
  rw [Bool.and_eq_true, SizeFits, bufferData]
  cases hyuv : format.isYuv with
  | true =>
    obtain ⟨hstride, hsize⟩ := yuvData_tracks (fits_toInt w) (fits_toInt h) hyuv bpp
    rw [hstride.exact, hsize.exact, if_pos rfl]
    exact and_iff_right_of_imp fun hroom => hroom.1
  | false =>
    obtain ⟨hstride, hsize⟩ := rgbData_tracks (h := h.toInt) (fits_toInt w) hyuv hbpp
    rw [hstride.exact, hsize.exact, hbpp, if_neg (by decide)]
    exact and_iff_right_of_imp fun hroom => hroom.1

/-! ### Planes and memory -/

/-- The plane has the samples, and its rows do not overlap. -/
def Covers (p : YuvPlane) (width rows : Nat) : Prop := width ≤ p.width ∧ p.width ≤ p.rowInc ∧ rows ≤ p.rows

/-- The planes do not overlap, have all samples of the picture, and end in what is allocated. -/
structure PlanesFit (c : Container) (l : Yv12Planes) : Prop where
  separate : l.Separate
  y : Covers l.y c.width c.height
  cr : Covers l.cr ((c.width + 1) / 2) ((c.height + 1) / 2)
  cb : Covers l.cb ((c.width + 1) / 2) ((c.height + 1) / 2)
  inside : ∀ p ∈ [l.y, l.cr, l.cb], p.offset + p.rowInc * p.rows ≤ c.allocSize

/-- What is addressed of a buffer lies in the `requested` bytes of its plane. -/
structure PlaneFits (requested : Nat) (b : Buffer) : Prop where
  positive : 0 < requested
  flush : b.container.allocSize ≤ requested
  bzero : b.container.size ≤ requested
  rgb : b.container.format.isYuv = false → b.container.stride * b.container.height ≤ b.container.allocSize
  same : b.container.format.isYuv = true →
    (lockYcbcrPlanes b.container b.alignment).info = (destripeSurfaces b.container b.alignment).info
  lock : b.container.format.isYuv = true → PlanesFit b.container (lockYcbcrPlanes b.container b.alignment)
  destripe : b.container.format.isYuv = true → PlanesFit b.container (destripeSurfaces b.container b.alignment)

/-- No computation overflows, and if a plane is allocated, its size is positive and it has room for the picture. -/
structure GeometryFits (o : AllocOutcome) (b : Buffer) : Prop where
  exact : o.exact = true
  positive : o.requested.isSome → 0 < o.size
  plane : ∀ requested, o.requested = some requested → PlaneFits requested b

/-- The sizes have room in an `int`; and if a plane is allocated, the width and the height are positive, and even for a YUV
    format. -/
def DimensionsFit (format : PixelFormat) (usage : Usage) (w h : Int) : Prop :=
  SizeFits format w h ∧
    (fmtSet format usage w h ≠ FmtSet.none → 0 < w ∧ 0 < h ∧ (format.isYuv = true → w % 2 = 0 ∧ h % 2 = 0))

instance (format : PixelFormat) (usage : Usage) (w h : Int) : Decidable (DimensionsFit format usage w h) :=
  inferInstanceAs (Decidable (_ ∧ _))

theorem unsigned_of_nonneg {x : Int} (hpos : 0 ≤ x) (hfits : IntFits x) : (unsigned x : Int) = x := by
  have := hfits.2
  rw [unsigned, u32]
  omega

theorem unsigned_mod (x : Int) : (unsigned x : Int) = x % 4294967296 := by
  rw [unsigned, u32]
  omega

theorem unsigned_mul (x : Int) (n : Nat) : ((unsigned x * n % u32 : Nat) : Int) = x * n % 4294967296 := by
  rw [Int.natCast_emod, Int.natCast_mul, unsigned_mod]
  show x % 4294967296 * n % 4294967296 = _
  rw [Int.mul_emod, Int.emod_emod, ← Int.mul_emod]

theorem unsigned_natCast {n : Nat} (hn : n < 2147483648) : unsigned n = n := by
  rw [unsigned, u32]
  omega

theorem unsigned_lt (x : Int) : unsigned x < u32 := by
  rw [unsigned, u32]
  omega

/-! ### RGB formats -/

theorem rgbContainer_eq (hyuv : format.isYuv = false) (hbpp : getNexusPixelFormat format = some bpp) :
    allocatedContainer w h format usage bpp =
      { format, bpp, width := unsigned w.toInt, height := unsigned h.toInt, physAddr := true
        size := unsigned (bufferData w h format bpp).size.value
        allocSize := unsigned h.toInt * (unsigned w.toInt * bpp % u32) % u32, stride := unsigned w.toInt * bpp % u32 } := by
  cases format <;> first | rfl | exact absurd hyuv (by decide) | cases hbpp

theorem bpp_bounds (hbpp : getNexusPixelFormat format = some bpp) : 2 ≤ bpp ∧ bpp ≤ 4 := by
  cases format <;> cases hbpp <;> decide

theorem rgb_fits_iff (hyuv : format.isYuv = false) (hbpp : getNexusPixelFormat format = some bpp)
    (hroom : SizeFits format w.toInt h.toInt) {b : Buffer} (hb : b.container = allocatedContainer w h format usage bpp) :
    0 < (bufferData w h format bpp).size.value ∧ PlaneFits b.container.allocSize b ↔ 0 < w.toInt ∧ 0 < h.toInt := by
  rw [SizeFits, hyuv, hbpp, if_neg (by decide)] at hroom
  have hsize : (bufferData w h format bpp).size.value = w.toInt * bpp * h.toInt :=
    (rgbData_tracks (fits_toInt w) hyuv hbpp).2.value hroom
  obtain ⟨hpitch, htotal⟩ := hroom
  simp only [Option.getD_some] at hpitch htotal
  obtain ⟨htwo, hfour⟩ := bpp_bounds hbpp
  rw [rgbContainer_eq hyuv hbpp] at hb
  constructor
  · rintro ⟨hpos, hfits⟩
    have hrgb := hfits.rgb (by rw [hb]; exact hyuv)
    rw [hb] at hrgb
    dsimp only at hrgb
    have hstride := unsigned_mul w.toInt bpp
    have hheight := unsigned_mod h.toInt
    rw [hsize] at hpos
    by_contra hneg
    -- both are negative: read as unsigned, the stride and the height are large
    have hp : w.toInt * bpp < 0 ∧ h.toInt < 0 := by
      have hbpp : (0 : Int) < bpp := by omega
      by_cases hw : 0 < w.toInt
      · have hp := Int.mul_pos hw hbpp
        have hh : h.toInt ≤ 0 := Int.not_lt.mp fun hh => hneg ⟨hw, hh⟩
        exact absurd hpos (Int.not_lt.mpr (Int.mul_nonpos_of_nonneg_of_nonpos (Int.le_of_lt hp) hh))
      · have hp : w.toInt * bpp ≤ 0 := Int.mul_nonpos_of_nonpos_of_nonneg (Int.not_lt.mp hw) (Int.le_of_lt hbpp)
        refine ⟨Int.lt_iff_le_and_ne.mpr ⟨hp, fun hzero => ?_⟩, Int.not_le.mp fun hh => ?_⟩
        · rw [hzero, Int.zero_mul] at hpos
          exact absurd hpos (by decide)
        · exact absurd hpos (Int.not_lt.mpr (Int.mul_nonpos_of_nonpos_of_nonneg hp hh))
    have hlarge : 2147483648 ≤ unsigned w.toInt * bpp % u32 ∧ 2147483648 ≤ unsigned h.toInt := by
      have := hpitch.1
      have := (fits_toInt h).1
      omega
    have hproduct := Nat.mul_le_mul hlarge.1 hlarge.2
    have hlt : unsigned h.toInt * (unsigned w.toInt * bpp % u32) % u32 < u32 := Nat.mod_lt _ (by decide)
    rw [u32] at hlt hrgb hproduct
    omega
  · rintro ⟨hw, hh⟩
    have hp : 0 < w.toInt * bpp := Int.mul_pos hw (by omega)
    have hpos : 0 < w.toInt * bpp * h.toInt := Int.mul_pos hp hh
    have hstride : ((unsigned w.toInt * bpp % u32 : Nat) : Int) = w.toInt * bpp := by
      rw [unsigned_mul]
      have := hpitch.2
      omega
    have halloc : ((unsigned h.toInt * (unsigned w.toInt * bpp % u32) % u32 : Nat) : Int) = w.toInt * bpp * h.toInt := by
      rw [unsigned_mul, hstride, Int.mul_comm]
      have := htotal.2
      omega
    have hsizeNat : ((unsigned (bufferData w h format bpp).size.value : Nat) : Int) = w.toInt * bpp * h.toInt := by
      rw [hsize, unsigned_of_nonneg (Int.le_of_lt hpos) htotal]
    have hheight : (unsigned h.toInt : Int) = h.toInt := unsigned_of_nonneg (Int.le_of_lt hh) (fits_toInt h)
    have hnot : b.container.format.isYuv ≠ true := by
      rw [hb, hyuv]
      decide
    refine ⟨hsize ▸ hpos, ?_, Nat.le_refl _, ?_, fun _ => ?_, fun h => absurd h hnot, fun h => absurd h hnot,
      fun h => absurd h hnot⟩ <;> rw [hb]
    · refine Int.ofNat_lt.mp ?_
      rw [halloc]
      exact hpos
    · exact Int.ofNat_le.mp (by rw [hsizeNat, halloc])
    · refine Int.ofNat_le.mp ?_
      rw [halloc, Int.natCast_mul, hstride, hheight]

/-! ### YUV formats -/

theorem yuvContainer_eq (hyuv : format.isYuv = true) (hset : fmtSet format usage w.toInt h.toInt ≠ FmtSet.none) :
    allocatedContainer w h format usage bpp =
      { format, bpp, width := unsigned w.toInt, height := unsigned h.toInt, physAddr := true
        size := unsigned (bufferData w h format bpp).size.value
        allocSize := unsigned (bufferData w h format bpp).size.value
        stride := unsigned (bufferData w h format bpp).stride.value } := by
  rw [allocatedContainer]
  cases hfmt : fmtSet format usage w.toInt h.toInt with
  | none => exact absurd hfmt hset
  | standard =>
    rw [fmtSet, hyuv] at hfmt
    simp only [Bool.not_true, Bool.false_eq_true, if_false] at hfmt
    split at hfmt
    · cases hfmt
    · split at hfmt <;> cases hfmt
  | yv12 => rfl

theorem yuv_alignment (hyuv : format.isYuv = true) : (bufferData w h format bpp).alignment.toNat = 16 := by
  cases format <;> first | rfl | cases hyuv

theorem yuvSize_natCast (x y : Nat) :
    up16 x = ((x + 15) / 16 * 16 : Nat) ∧ chromaStride x = (((x + 15) / 16 * 16 / 2 + 15) / 16 * 16 : Nat) ∧
      yuvSize x y = ((x + 15) / 16 * 16 * y + 2 * (y / 2 * (((x + 15) / 16 * 16 / 2 + 15) / 16 * 16)) : Nat) := by
  have hstride : up16 x = ((x + 15) / 16 * 16 : Nat) := by
    rw [up16]
    omega
  have hchroma : chromaStride x = (((x + 15) / 16 * 16 / 2 + 15) / 16 * 16 : Nat) := by
    rw [chromaStride, hstride, up16, Int.tdiv_eq_ediv_of_nonneg (Int.natCast_nonneg _)]
    omega
  refine ⟨hstride, hchroma, ?_⟩
  rw [yuvSize, hstride, hchroma, Int.tdiv_eq_ediv_of_nonneg (Int.natCast_nonneg _)]
  push_cast
  rfl

theorem lockYcbcrPlanes_eq {c : Container} (hwidth : c.width % 2 = 0) (hheight : c.height % 2 = 0) (alignment : Nat) :
    lockYcbcrPlanes c alignment = destripeSurfaces c alignment := by
  have hhalfWidth : (c.width + 1) / 2 = c.width / 2 := by omega
  have hhalfHeight : (c.height + 1) / 2 = c.height / 2 := by omega
  simp only [lockYcbcrPlanes, destripeSurfaces, hhalfWidth, hhalfHeight]

theorem destripeSurfaces_fit {c : Container} (hwidth : c.width % 2 = 0) (hheight : c.height % 2 = 0)
    (hstride : c.width ≤ c.stride) (hhalf : c.stride / 2 ≤ cstride c 16)
    (halloc : c.stride * c.height + 2 * (c.height / 2 * cstride c 16) ≤ c.allocSize) (hlt : c.allocSize < u32) :
    PlanesFit c (destripeSurfaces c 16) := by
  have hy : c.stride * c.height % u32 = c.stride * c.height := Nat.mod_eq_of_lt (by omega)
  have hcb : (c.stride * c.height + c.height / 2 * cstride c 16) % u32 = c.stride * c.height + c.height / 2 * cstride c 16 :=
    Nat.mod_eq_of_lt (by omega)
  have hcommute : cstride c 16 * (c.height / 2) = c.height / 2 * cstride c 16 := Nat.mul_comm _ _
  have hsurfaces : destripeSurfaces c 16 =
      { y := { offset := 0, rowInc := c.stride, width := c.width, rows := c.height }
        cr := { offset := c.stride * c.height, rowInc := cstride c 16, width := c.width / 2, rows := c.height / 2 }
        cb := { offset := c.stride * c.height + c.height / 2 * cstride c 16, rowInc := cstride c 16, width := c.width / 2
                rows := c.height / 2 } } := by
    simp only [destripeSurfaces, hy, hcb]
  rw [hsurfaces]
  have hcovers (offset : Nat) : Covers { offset, rowInc := cstride c 16, width := c.width / 2, rows := c.height / 2 }
      ((c.width + 1) / 2) ((c.height + 1) / 2) := by
    simp only [Covers]
    omega
  obtain ⟨hycr, hycb, hcrcb⟩ := Yv12Planes.separate_of_consecutive
    { offset := 0, rowInc := c.stride, width := c.width, rows := c.height }
    { offset := c.stride * c.height, rowInc := cstride c 16, width := c.width / 2, rows := c.height / 2 }
    { offset := c.stride * c.height + c.height / 2 * cstride c 16, rowInc := cstride c 16, width := c.width / 2
      rows := c.height / 2 } (by simp only; omega) (by simp only; omega)
  refine ⟨⟨hycr, hycb, hcrcb⟩, ⟨Nat.le_refl _, hstride, Nat.le_refl _⟩, hcovers _, hcovers _, ?_⟩
  intro p hp
  simp only [List.mem_cons, List.not_mem_nil, or_false] at hp
  rcases hp with rfl | rfl | rfl <;> simp only <;> omega

theorem yuvSize_pos {w h : Int} (hpos : 0 < yuvSize w h) : 0 < up16 w ∧ 0 < h ∨ up16 w < 0 ∧ h < 0 := by
  rw [yuvSize] at hpos
  rcases Int.lt_trichotomy (up16 w) 0 with hs | hs | hs
  · refine Or.inr ⟨hs, Int.not_le.mp fun hh => absurd hpos (Int.not_lt.mpr ?_)⟩
    have hluma := Int.mul_nonpos_of_nonpos_of_nonneg (Int.le_of_lt hs) hh
    have hchroma := Int.mul_nonpos_of_nonneg_of_nonpos (Int.tdiv_nonneg hh (show (0 : Int) ≤ 2 by decide))
      (chromaStride_nonpos (Int.le_of_lt hs))
    omega
  · rw [chromaStride, hs, Int.zero_mul, Int.zero_tdiv, show up16 0 = 0 by decide, Int.mul_zero] at hpos
    exact absurd hpos (by decide)
  · refine Or.inl ⟨hs, Int.not_le.mp fun hh => absurd hpos (Int.not_lt.mpr ?_)⟩
    have hluma := Int.mul_nonpos_of_nonneg_of_nonpos (Int.le_of_lt hs) hh
    have hchroma := Int.mul_nonpos_of_nonpos_of_nonneg ((half_bounds h).2 hh).2.2 (chromaStride_nonneg (Int.le_of_lt hs))
    omega

theorem yuv_fits_iff (hyuv : format.isYuv = true) (hset : fmtSet format usage w.toInt h.toInt ≠ FmtSet.none)
    (hroom : SizeFits format w.toInt h.toInt) {b : Buffer} (hb : b.container = allocatedContainer w h format usage bpp)
    (halign : b.alignment = 16) :
    0 < (bufferData w h format bpp).size.value ∧ PlaneFits b.container.allocSize b ↔
      0 < w.toInt ∧ 0 < h.toInt ∧ w.toInt % 2 = 0 ∧ h.toInt % 2 = 0 := by
  rw [SizeFits, hyuv, if_pos rfl] at hroom
  obtain ⟨hwidth, htotal⟩ := hroom
  obtain ⟨hstrideTracks, hsizeTracks⟩ := yuvData_tracks (fits_toInt w) (fits_toInt h) hyuv bpp
  have hsize : (bufferData w h format bpp).size.value = yuvSize w.toInt h.toInt := hsizeTracks.value ⟨hwidth, htotal⟩
  have hstride : (bufferData w h format bpp).stride.value = up16 w.toInt := hstrideTracks.value hwidth
  rw [yuvContainer_eq hyuv hset, hsize, hstride] at hb
  rw [hsize]
  have hcontainer : b.container.format.isYuv = true := by rw [hb]; exact hyuv
  have hbounds := up16_bounds w.toInt
  have hfitsW := fits_toInt w
  have hfitsH := fits_toInt h
  rw [IntFits] at hfitsW hfitsH
  constructor
  · rintro ⟨hpos, hfits⟩
    -- the surfaces have all samples of the chroma planes
    have hcovers := (hfits.destripe hcontainer).cr
    have hinside := (hfits.lock hcontainer).inside (lockYcbcrPlanes b.container b.alignment).y (List.mem_cons_self ..)
    simp only [Covers, destripeSurfaces, lockYcbcrPlanes, hb] at hcovers hinside
    have hmodWidth := unsigned_mod w.toInt
    have hmodHeight := unsigned_mod h.toInt
    rcases yuvSize_pos hpos with ⟨hs, hh⟩ | ⟨hs, hh⟩
    · have hw : 0 < w.toInt := by
        rw [up16] at hs
        omega
      exact ⟨hw, hh, by omega, by omega⟩
    · -- read as unsigned, the stride and the height are large
      have hlarge : 2147483648 ≤ unsigned (up16 w.toInt) ∧ 2147483648 ≤ unsigned h.toInt := by
        have hmodStride := unsigned_mod (up16 w.toInt)
        omega
      have hproduct := Nat.mul_le_mul hlarge.1 hlarge.2
      have hlt := unsigned_lt (yuvSize w.toInt h.toInt)
      rw [u32] at hlt
      omega
  · rintro ⟨hw, hh, hevenW, hevenH⟩
    obtain ⟨x, hx⟩ := Int.eq_ofNat_of_zero_le (Int.le_of_lt hw)
    obtain ⟨y, hy⟩ := Int.eq_ofNat_of_zero_le (Int.le_of_lt hh)
    obtain ⟨hup, hchroma, hyuvSize⟩ := yuvSize_natCast x y
    rw [hx, up16] at hbounds
    rw [hx] at hw hevenW hfitsW hwidth
    rw [hy] at hh hevenH hfitsH
    rw [hx, hy, hyuvSize] at htotal hb ⊢
    rw [hup, unsigned_natCast (by omega), unsigned_natCast (by omega), unsigned_natCast (Int.ofNat_lt.mp htotal.2),
      unsigned_natCast (by omega)] at hb
    generalize hC : ((x + 15) / 16 * 16 / 2 + 15) / 16 * 16 = C at hb htotal ⊢
    generalize hS : (x + 15) / 16 * 16 = S at hb htotal hC ⊢
    have hwidths : b.container.width = x ∧ b.container.height = y ∧ b.container.stride = S := by
      rw [hb]
      exact ⟨rfl, rfl, rfl⟩
    obtain ⟨hwidthNat, hheightNat, hstrideNat⟩ := hwidths
    have halloc : b.container.allocSize = S * y + 2 * (y / 2 * C) := by rw [hb]
    have hcstride : cstride b.container 16 = C := by
      rw [cstride, hstrideNat, maskUp_sixteen, u32]
      omega
    have hpos : 0 < S * y := Nat.mul_pos (by omega) (by omega)
    have hlt : S * y + 2 * (y / 2 * C) < u32 := Nat.lt_trans (Int.ofNat_lt.mp htotal.2) (by decide)
    have hsurfaces : PlanesFit b.container (destripeSurfaces b.container b.alignment) := by
      rw [halign]
      refine destripeSurfaces_fit (by omega) (by omega) (by omega) (by omega) ?_ (by omega)
      rw [hcstride, hstrideNat, hheightNat, halloc]
    have hsame : lockYcbcrPlanes b.container b.alignment = destripeSurfaces b.container b.alignment :=
      lockYcbcrPlanes_eq (by omega) (by omega) _
    refine ⟨by omega, by omega, Nat.le_refl _, Nat.le_of_eq (by rw [hb]), fun hrgb => ?_, fun _ => by rw [hsame],
      fun _ => ?_, fun _ => hsurfaces⟩
    · rw [hcontainer] at hrgb
      cases hrgb
    · rw [hsame]
      exact hsurfaces

/-- If a plane is allocated, it has room for the picture exactly for positive dimensions, which are even for a YUV format. -/
theorem plane_fits_iff (hbpp : getNexusPixelFormat format = some bpp)
    (hset : fmtSet format usage w.toInt h.toInt ≠ FmtSet.none) (hroom : SizeFits format w.toInt h.toInt) {b : Buffer}
    (hb : b.container = allocatedContainer w h format usage bpp)
    (halign : b.alignment = (bufferData w h format bpp).alignment.toNat) :
    0 < (bufferData w h format bpp).size.value ∧ PlaneFits b.container.allocSize b ↔
      0 < w.toInt ∧ 0 < h.toInt ∧ (format.isYuv = true → w.toInt % 2 = 0 ∧ h.toInt % 2 = 0) := by
  cases hyuv : format.isYuv with
  | false =>
    rw [rgb_fits_iff hyuv hbpp hroom hb]
    simp
  | true =>
    rw [yuv_fits_iff hyuv hset hroom hb (halign.trans (yuv_alignment hyuv))]
    simp

/-- What an allocation gives has the geometry of its picture exactly if the sizes have room in an `int` and, if there is a plane,
    the dimensions are positive, and even for a YUV format. -/
theorem geometryFits_iff {m : Module} {a : AllocAnswers} {b : Buffer}
    (hok : (allocBuffer m a w h format usage).result = .ok b) :
    GeometryFits (allocBuffer m a w h format usage) b ↔ DimensionsFit format usage w.toInt h.toInt := by
  obtain ⟨bpp, halloc⟩ := allocated_of_ok hok
  have hb : b.container = allocatedContainer w h format usage bpp := by rw [halloc.buffer]
  have halign : b.alignment = (bufferData w h format bpp).alignment.toNat := by rw [halloc.buffer]
  have hexact := exact_iff (w := w) (h := h) halloc.supported
  by_cases hset : fmtSet format usage w.toInt h.toInt = FmtSet.none
  · have hrequested := halloc.requested.trans (if_pos hset)
    constructor
    · intro hfits
      exact ⟨hexact.mp (halloc.exact ▸ hfits.exact), fun hplane => absurd hset hplane⟩
    · rintro ⟨hroom, -⟩
      refine ⟨halloc.exact.trans (hexact.mpr hroom), fun hsome => ?_, fun requested hsome => ?_⟩ <;> rw [hrequested] at hsome <;>
        cases hsome
  · have hrequested := halloc.requested.trans (if_neg hset)
    constructor
    · intro hfits
      have hroom := hexact.mp (halloc.exact ▸ hfits.exact)
      have hpos := hfits.positive (by rw [hrequested]; rfl)
      rw [halloc.size] at hpos
      exact ⟨hroom, fun _ => (plane_fits_iff halloc.supported hset hroom hb halign).mp ⟨hpos, hfits.plane _ hrequested⟩⟩
    · rintro ⟨hroom, hplane⟩
      obtain ⟨hpos, hfits⟩ := (plane_fits_iff halloc.supported hset hroom hb halign).mpr (hplane hset)
      refine ⟨halloc.exact.trans (hexact.mpr hroom), fun _ => ?_, fun requested hsome => ?_⟩
      · rw [halloc.size]
        exact hpos
      · rw [hrequested] at hsome
        obtain rfl := Option.some.inj hsome
        exact hfits

/-- A video buffer that the CPU reads, of 1920 x 1080. -/
theorem fullHd_geometryFits :
    ∃ b, (allocBuffer {} {} 1920 1080 .yv12 { private0 := true, swReadOften := true }).result = .ok b ∧
      GeometryFits (allocBuffer {} {} 1920 1080 .yv12 { private0 := true, swReadOften := true }) b :=
  ⟨_, rfl, (geometryFits_iff rfl).mpr (by decide)⟩

/-- For 32769 x 32769 pixels of 4 bytes, 262148 bytes are allocated. -/
theorem largeRgba_not_geometryFits :
    ∃ b, (allocBuffer {} {} 32769 32769 .rgba8888 {}).result = .ok b ∧ b.container.allocSize = 262148 ∧
      ¬ GeometryFits (allocBuffer {} {} 32769 32769 .rgba8888 {}) b :=
  ⟨_, rfl, by decide, fun hfits => absurd hfits.exact (by decide)⟩

end
end BcmPlatform.Gralloc
