import BcmPlatform.Hwc.Clip

/-! The part of a layer that is composed goes where it belongs. The part of the source is the one that belongs there only if
    the layer is not scaled, or nothing much is cut off: the source is cut by the pixels that the destination loses. -/

namespace BcmPlatform.Hwc
open Lib

/-! ### What is cut -/

/-- The pixels that a span loses at the low edge of the surface. -/
def lowCut (position : Span) : Int := max 0 (-position.start)

/-- The pixels that it loses at the high edge. -/
def highCut (surface : Nat) (position : Span) : Int := max 0 (position.stop - surface)

theorem lowCut_of_nonneg {s : Span} (h : 0 ≤ s.start) : lowCut s = 0 := max_eq_left (Int.neg_nonpos_of_nonneg h)

theorem lowCut_of_nonpos {s : Span} (h : s.start ≤ 0) : lowCut s = -s.start := max_eq_right (Int.neg_nonneg_of_nonpos h)

theorem highCut_lowCut (surface : Nat) (s : Span) :
    highCut surface ⟨max s.start 0, s.size - (lowCut s).toNat⟩ = highCut surface s := by
  simp only [highCut, Span.stop]
  rcases Int.le_total 0 s.start with h | h
  · rw [lowCut_of_nonneg h, max_eq_left h]
    rfl
  · rw [lowCut_of_nonpos h, max_eq_right h]
    omega

theorem visible_size (surface : Nat) (s : Span) :
    (s.visible surface).size = s.size - (lowCut s).toNat - (highCut surface s).toNat := by
  simp only [Span.visible, highCut, Span.stop]
  rcases Int.le_total 0 s.start with h | h
  · rw [lowCut_of_nonneg h, max_eq_left h]
    omega
  · rw [lowCut_of_nonpos h, max_eq_right h]
    omega

theorem cut_lt {adj : Int} {size : Nat} (hadj : 0 ≤ adj) (hsize : size < 2 ^ 16) : cut adj size < 2 ^ 16 := by
  unfold cut
  split <;> omega

theorem cut_eq {adj : Int} {size : Nat} (hadj : 0 ≤ adj) : cut adj size = size - adj.toNat := by
  unfold cut
  split <;> omega

theorem store_size {start : Int} {size : Nat} (hsize : size < 2 ^ 16) : (NexusSpan.store start size).size = size :=
  Nat.mod_eq_of_lt hsize

theorem store_start {start : Int} {size : Nat} (hlow : -2 ^ 15 ≤ start) (hhigh : start < 2 ^ 15) :
    (NexusSpan.store start size).start = start :=
  Int.bmod_eq_of_le (by omega) (by omega)

variable (surface : Nat) (clipRect position : NexusSpan)

theorem clipLow_eq : (clipLow clipRect position).2.start = max position.start 0 ∧
    (clipLow clipRect position).2.size = position.size - (lowCut position.toSpan).toNat ∧
    (clipLow clipRect position).1.start = (clipRect.start + lowCut position.toSpan).bmod (2 ^ 16) ∧
    (clipLow clipRect position).1.size = clipRect.size - (lowCut position.toSpan).toNat := by
  have hclip : clipRect.start.bmod (2 ^ 16) = clipRect.start :=
    @store_start clipRect.start 0 clipRect.start_ge clipRect.start_lt
  have hsize := position.size_lt
  have hcsize := clipRect.size_lt
  unfold clipLow
  split
  · next hneg =>
    rw [lowCut_of_nonpos (Int.le_of_lt hneg)]
    have hadj : 0 ≤ -position.start := by omega
    refine ⟨?_, ?_, rfl, ?_⟩
    · rw [store_start (by omega) (by omega)]
      omega
    · rw [store_size (cut_lt hadj hsize), cut_eq hadj]
    · rw [store_size (cut_lt hadj hcsize), cut_eq hadj]
  · next hpos =>
    rw [lowCut_of_nonneg (Int.not_lt.mp hpos), Int.add_zero, hclip]
    exact ⟨(max_eq_left (Int.not_lt.mp hpos)).symm, rfl, rfl, rfl⟩

theorem clipHigh_eq (srcAdj outAdj : NexusSpan) :
    (clipHigh surface srcAdj outAdj).2.start = outAdj.start ∧
    (clipHigh surface srcAdj outAdj).2.size = outAdj.size - (highCut surface outAdj.toSpan).toNat ∧
    (clipHigh surface srcAdj outAdj).1.start = srcAdj.start ∧
    (clipHigh surface srcAdj outAdj).1.size = srcAdj.size - (highCut surface outAdj.toSpan).toNat := by
  have hsize := outAdj.size_lt
  have hssize := srcAdj.size_lt
  unfold clipHigh
  split
  · next hout =>
    have hcut : highCut surface outAdj.toSpan = outAdj.start + outAdj.size - surface := by
      unfold highCut Span.stop
      omega
    rw [hcut]
    have hadj : 0 ≤ outAdj.start + outAdj.size - (surface : Int) := by omega
    refine ⟨store_start outAdj.start_ge outAdj.start_lt, ?_, store_start srcAdj.start_ge srcAdj.start_lt, ?_⟩
    · rw [store_size (cut_lt hadj hsize), cut_eq hadj]
    · rw [store_size (cut_lt hadj hssize), cut_eq hadj]
  · next hin =>
    have hcut : highCut surface outAdj.toSpan = 0 := by
      unfold highCut Span.stop
      omega
    rw [hcut]
    exact ⟨rfl, rfl, rfl, rfl⟩

theorem clipAxis_eq : (clipAxis surface clipRect position).2.toSpan = position.visible surface ∧
    (clipAxis surface clipRect position).1.start = (clipRect.start + lowCut position.toSpan).bmod (2 ^ 16) ∧
    (clipAxis surface clipRect position).1.size =
      clipRect.size - (lowCut position.toSpan + highCut surface position.toSpan).toNat := by
  obtain ⟨hstart, hsize, hsrc, hsrcSize⟩ := clipLow_eq clipRect position
  obtain ⟨hstart', hsize', hsrc', hsrcSize'⟩ :=
    clipHigh_eq surface (clipLow clipRect position).1 (clipLow clipRect position).2
  have hlow : (clipLow clipRect position).2.toSpan = ⟨max position.start 0, position.size - (lowCut position.toSpan).toNat⟩ :=
    Span.ext_iff.mpr ⟨hstart, hsize⟩
  have hhigh : highCut surface (clipLow clipRect position).2.toSpan = highCut surface position.toSpan := by
    rw [hlow, highCut_lowCut]
  refine ⟨Span.ext_iff.mpr ⟨?_, ?_⟩, by rw [clipAxis, hsrc', hsrc], ?_⟩
  · rw [clipAxis, hstart', hstart]
    rfl
  · rw [clipAxis, hsize', hsize, hhigh, visible_size]
  · have hlowCut : 0 ≤ lowCut position.toSpan := le_max_left ..
    have hhighCut : 0 ≤ highCut surface position.toSpan := le_max_left ..
    rw [clipAxis, hsrcSize', hsrcSize, hhigh, Int.toNat_add hlowCut hhighCut, Nat.sub_sub]

/-! ### One axis -/

/-- The clipped axis shows the visible part, from inside of `clipRect`, where it was. -/
structure AxisKept (srcAdj outAdj : Span) : Prop where
  visible : outAdj = position.visible surface
  inside : srcAdj.Within clipRect.toSpan
  inPlace : Span.SamePicture outAdj srcAdj outAdj clipRect.toSpan position.toSpan

/-- The source has more pixels than are cut off, does not move out of 16 bits, and is not scaled by more than a pixel for
    the pixels that are cut off at one edge. -/
def AxisFits : Prop :=
  lowCut position.toSpan + highCut surface position.toSpan < clipRect.size ∧
  clipRect.start + lowCut position.toSpan < 2 ^ 15 ∧
  lowCut position.toSpan * |(clipRect.size : Int) - position.size| ≤ position.size ∧
  highCut surface position.toSpan * |(clipRect.size : Int) - position.size| ≤ position.size

theorem scaleAt_ends (hvisible : 0 < (position.visible surface).size) :
    clipRect.scaleAt position.toSpan (position.visible surface).start =
      clipRect.start + lowCut position.toSpan * clipRect.size / position.size ∧
    clipRect.scaleAt position.toSpan (position.visible surface).stop =
      clipRect.start + (position.size - highCut surface position.toSpan) * clipRect.size / position.size := by
  have hstart : (position.visible surface).start - position.start = lowCut position.toSpan := by
    simp only [Span.visible, lowCut]
    omega
  have hstop : (position.visible surface).stop - position.start = position.size - highCut surface position.toSpan := by
    simp only [Span.visible, Span.stop, highCut] at hvisible ⊢
    omega
  simp only [Span.scaleAt]
  constructor
  · rw [← Int.cast_sub, hstart]
  · rw [← Int.cast_sub, hstop]
    push_cast
    rfl

theorem bmod_of_ge {x : Int} (hlow : 2 ^ 15 ≤ x) (hhigh : x < 2 ^ 16) : x.bmod (2 ^ 16) = x - 2 ^ 16 := by
  rw [Int.bmod_def]
  split <;> omega

theorem axisKept_iff (hvisible : 0 < (position.visible surface).size)
    (hsrc : 0 < (clipAxis surface clipRect position).1.size) :
    AxisKept surface clipRect position (clipAxis surface clipRect position).1.toSpan
      (clipAxis surface clipRect position).2.toSpan ↔ AxisFits surface clipRect position := by
  obtain ⟨hout, hstart, hsize⟩ := clipAxis_eq surface clipRect position
  obtain ⟨hatStart, hatStop⟩ := scaleAt_ends surface clipRect position hvisible
  set low := lowCut position.toSpan
  set high := highCut surface position.toSpan
  set src := (clipAxis surface clipRect position).1.toSpan
  have hlow : 0 ≤ low := le_max_left ..
  have hhigh : 0 ≤ high := le_max_left ..
  have hposition : 0 < position.size := by
    simp only [Span.visible, Span.stop] at hvisible
    omega
  have hleft : low + high < clipRect.size := by omega
  have hsrcSize : (src.size : Int) = clipRect.size - low - high := by omega
  -- The source of the clipped axis does not move if the two ends stay where they were.
  have hpicture (hnowrap : src.start = clipRect.start + low) :
      Span.SamePicture (position.visible surface) src (position.visible surface) clipRect.toSpan position.toSpan ↔
        low * |(clipRect.size : Int) - position.size| ≤ position.size ∧
          high * |(clipRect.size : Int) - position.size| ≤ position.size := by
    have hsrcStart : src.scaleAt (position.visible surface) (position.visible surface).start = clipRect.start + low := by
      simp [Span.scaleAt, hnowrap]
    have hsrcStop : src.scaleAt (position.visible surface) (position.visible surface).stop =
        clipRect.start + clipRect.size - high := by
      have hne : ((position.visible surface).size : ℚ) ≠ 0 := by exact_mod_cast Nat.ne_of_gt hvisible
      have hcast : (src.size : ℚ) = clipRect.size - low - high := by exact_mod_cast hsrcSize
      simp only [Span.scaleAt, Span.stop, hnowrap]
      push_cast
      rw [add_sub_cancel_left, mul_div_assoc, mul_div_cancel₀ _ hne, hcast]
      ring
    have hpos : (0 : ℚ) < position.size := by exact_mod_cast hposition
    rw [Span.samePicture_iff, hatStart, hatStop, hsrcStart, hsrcStop]
    have hends : |(clipRect.start : ℚ) + low - (clipRect.start + low * clipRect.size / position.size)| =
        |low - low * clipRect.size / (position.size : ℚ)| := by
      congr 1
      ring
    have hends' : |(clipRect.start : ℚ) + clipRect.size - high -
          (clipRect.start + (position.size - high) * clipRect.size / position.size)| =
        |high - high * clipRect.size / (position.size : ℚ)| := by
      rw [← abs_neg]
      congr 1
      field_simp
      ring
    rw [hends, hends', Span.abs_sub_scale_le_one hpos (by exact_mod_cast hlow),
      Span.abs_sub_scale_le_one hpos (by exact_mod_cast hhigh)]
    norm_cast
  have hstartGe := clipRect.start_ge
  have hstartLt := clipRect.start_lt
  have hlowLe : low ≤ 2 ^ 15 := max_le (by decide) (by have := position.start_ge; omega)
  rw [hout]
  constructor
  · rintro ⟨-, ⟨hinside, -⟩, hplace⟩
    have hnowrap : clipRect.start + low < 2 ^ 15 := by
      by_contra hge
      rw [hstart, bmod_of_ge (by omega) (by omega)] at hinside
      omega
    have hsrcStart : src.start = clipRect.start + low := hstart.trans (Int.bmod_eq_of_le (by omega) (by omega))
    exact ⟨hleft, hnowrap, (hpicture hsrcStart).mp hplace⟩
  · rintro ⟨-, hnowrap, hscale⟩
    have hsrcStart : src.start = clipRect.start + low := hstart.trans (Int.bmod_eq_of_le (by omega) (by omega))
    refine ⟨rfl, ⟨?_, ?_⟩, (hpicture hsrcStart).mpr hscale⟩
    · omega
    · simp only [Span.stop]
      omega

/-- The picture of a layer of YV12, which is scaled as a whole, is where it was. -/
def Yv12Fits (container : Nat) : Prop :=
  |clipRect.start * position.size + lowCut position.toSpan * clipRect.size| ≤ position.size ∧
  |(container - clipRect.start) * position.size - (position.size - highCut surface position.toSpan) * clipRect.size| ≤
    position.size

theorem yv12_samePicture_iff (container : Nat) (hvisible : 0 < (position.visible surface).size) :
    Span.SamePicture (position.visible surface) (yv12Source container) (position.visible surface) clipRect.toSpan
      position.toSpan ↔ Yv12Fits surface clipRect position container := by
  obtain ⟨hatStart, hatStop⟩ := scaleAt_ends surface clipRect position hvisible
  have hposition : (0 : ℚ) < position.size := by
    have : 0 < position.size := by
      simp only [Span.visible, Span.stop] at hvisible
      omega
    exact_mod_cast this
  have hne : ((position.visible surface).size : ℚ) ≠ 0 := by exact_mod_cast Nat.ne_of_gt hvisible
  have hplaneStart : (yv12Source container).scaleAt (position.visible surface) (position.visible surface).start = 0 := by
    simp [Span.scaleAt, yv12Source]
  have hplaneStop :
      (yv12Source container).scaleAt (position.visible surface) (position.visible surface).stop = container := by
    simp only [Span.scaleAt, Span.stop, yv12Source]
    push_cast
    rw [add_sub_cancel_left, mul_div_cancel_left₀ _ hne, zero_add]
  rw [Span.samePicture_iff, hatStart, hatStop, hplaneStart, hplaneStop, Yv12Fits]
  set low := lowCut position.toSpan
  set high := highCut surface position.toSpan
  have hends : (0 : ℚ) - (clipRect.start + low * clipRect.size / position.size) =
      -((clipRect.start * position.size + low * clipRect.size) / position.size) := by
    field_simp
    ring
  have hends' : (container : ℚ) - (clipRect.start + (position.size - high) * clipRect.size / position.size) =
      ((container - clipRect.start) * position.size - (position.size - high) * clipRect.size) / position.size := by
    field_simp
    ring
  rw [hends, hends', abs_neg, abs_div, abs_div, abs_of_pos hposition, div_le_one hposition, div_le_one hposition]
  norm_cast

/-! ### A layer -/

/-- Nothing of the layer is on the surface, or it has no source. -/
def Hidden (width height : Nat) (clipRect position : NexusRect) : Prop :=
  (position.horizontal.visible width).size = 0 ∨ (position.vertical.visible height).size = 0 ∨
    clipRect.horizontal.size = 0 ∨ clipRect.vertical.size = 0

/-- The layer is skipped if and only if it is hidden; else both of its axes are kept, and a layer of YV12 shows the same. -/
def PictureKept (width height : Nat) (clipRect position : NexusRect) (yv12 : Option (Nat × Nat)) : Prop :=
  match clipLayer width height clipRect position with
  | none => Hidden width height clipRect position
  | some l => ¬ Hidden width height clipRect position ∧
    AxisKept width clipRect.horizontal position.horizontal l.srcAdj.horizontal.toSpan l.outAdj.horizontal.toSpan ∧
    AxisKept height clipRect.vertical position.vertical l.srcAdj.vertical.toSpan l.outAdj.vertical.toSpan ∧
    ∀ container ∈ yv12,
      Span.SamePicture l.outAdj.horizontal.toSpan (yv12Source container.1) l.outAdj.horizontal.toSpan
        clipRect.horizontal.toSpan position.horizontal.toSpan ∧
      Span.SamePicture l.outAdj.vertical.toSpan (yv12Source container.2) l.outAdj.vertical.toSpan
        clipRect.vertical.toSpan position.vertical.toSpan

/-- For every layer: its picture is kept if and only if it is hidden, or both axes fit, and for YV12 the whole picture fits
    as well. -/
theorem pictureKept_iff (width height : Nat) (clipRect position : NexusRect) (yv12 : Option (Nat × Nat)) :
    PictureKept width height clipRect position yv12 ↔
      Hidden width height clipRect position ∨
      AxisFits width clipRect.horizontal position.horizontal ∧ AxisFits height clipRect.vertical position.vertical ∧
      ∀ container ∈ yv12, Yv12Fits width clipRect.horizontal position.horizontal container.1 ∧
        Yv12Fits height clipRect.vertical position.vertical container.2 := by
  obtain ⟨houtX, -, hsizeX⟩ := clipAxis_eq width clipRect.horizontal position.horizontal
  obtain ⟨houtY, -, hsizeY⟩ := clipAxis_eq height clipRect.vertical position.vertical
  have hkeptX := axisKept_iff width clipRect.horizontal position.horizontal
  have hkeptY := axisKept_iff height clipRect.vertical position.vertical
  have houtSizeX := congrArg Span.size houtX
  have houtSizeY := congrArg Span.size houtY
  unfold PictureKept clipLayer
  simp only [Bool.and_eq_true, decide_eq_true_eq]
  split
  · next hskip =>
    split at hskip
    · cases hskip
    · next hempty =>
      refine ⟨.inl, fun h => h.elim id fun ⟨hfitsX, hfitsY, _⟩ => ?_⟩
      -- With pixels left in both sources an output is empty.
      have hsrcX := hfitsX.1
      have hsrcY := hfitsY.1
      unfold Hidden
      omega
  · next l hsome =>
    split at hsome <;> cases hsome
    next hsizes =>
    obtain ⟨⟨⟨hvisX, hvisY⟩, hsrcX⟩, hsrcY⟩ := hsizes
    have hshown : ¬ Hidden width height clipRect position := by
      unfold Hidden
      omega
    have hplane (container : Nat × Nat) :
        Span.SamePicture (clipAxis width clipRect.horizontal position.horizontal).2.toSpan (yv12Source container.1)
            (clipAxis width clipRect.horizontal position.horizontal).2.toSpan clipRect.horizontal.toSpan
            position.horizontal.toSpan ∧
          Span.SamePicture (clipAxis height clipRect.vertical position.vertical).2.toSpan (yv12Source container.2)
            (clipAxis height clipRect.vertical position.vertical).2.toSpan clipRect.vertical.toSpan
            position.vertical.toSpan ↔
        Yv12Fits width clipRect.horizontal position.horizontal container.1 ∧
          Yv12Fits height clipRect.vertical position.vertical container.2 := by
      rw [houtX, houtY, yv12_samePicture_iff _ _ _ _ (houtSizeX ▸ hvisX), yv12_samePicture_iff _ _ _ _ (houtSizeY ▸ hvisY)]
    simp only [hplane, hkeptX (houtSizeX ▸ hvisX) hsrcX, hkeptY (houtSizeY ▸ hvisY) hsrcY, hshown, not_false_eq_true,
      true_and, false_or]

/-- A layer that is shown at half of its width and is half to the left of the surface: 100 pixels are cut off the source,
    and 200 would have to be. -/
theorem picture_moves_when_scaled : ¬ PictureKept 1920 1080
    { horizontal := .store 0 400, vertical := .store 0 100 } { horizontal := .store (-100) 200, vertical := .store 0 100 }
    none := by
  intro h
  have hclip : clipLayer 1920 1080 { horizontal := .store 0 400, vertical := .store 0 100 }
      { horizontal := .store (-100) 200, vertical := .store 0 100 } = some
        { srcAdj := { horizontal := .store 100 300, vertical := .store 0 100 }
          outAdj := { horizontal := .store 0 100, vertical := .store 0 100 } } := by decide
  unfold PictureKept at h
  rw [hclip] at h
  have hplace := h.2.1.inPlace 0 (by decide) (by decide)
  norm_num [Span.scaleAt, NexusSpan.store, Int.bmod_def] at hplace

end BcmPlatform.Hwc
