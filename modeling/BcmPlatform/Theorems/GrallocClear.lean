import BcmPlatform.Theorems.GrallocAlloc
import BcmPlatform.Theorems.GrallocGeometry

/-! What a new gralloc buffer has of the earlier contents of its memory: nothing exactly if the plane is locked and the engine or
    the CPU clears all of the picture. -/

namespace BcmPlatform.Gralloc
open Lib Bomx

/-! ### The bytes of the picture -/

/-- The planes of the picture. -/
def Buffer.planes (b : Buffer) : List YuvPlane :=
  let c := b.container
  if c.format.isYuv then
    let l := lockYcbcrPlanes c b.alignment
    [l.y, l.cr, l.cb]
  else [{ offset := 0, rowInc := c.stride, width := c.width * c.bpp, rows := c.height }]

/-- Whether a byte belongs to a pixel or a sample. -/
def InPicture (b : Buffer) (i : Nat) : Prop := ∃ p ∈ b.planes, InRect p.offset p.rowInc p.width p.rows i

/-- Nothing of the earlier contents is left in the picture, and the counts of the blocks are as before the clearing. -/
structure LeavesNothing (m : Module) (a : AllocAnswers) (o : AllocOutcome) (b : Buffer) : Prop where
  zero : Memory.Fills o.memory (InPicture b) 0
  same : ∀ before before' i, InPicture b i → o.memory before i = o.memory before' i
  balanced : Balanced (bzero m b.container a.bzero).calls

/-- The CPU clears all of a picture. -/
def CpuClears (format : PixelFormat) (w h : Nat) : Prop :=
  if format.isYuv then h % 2 = 0 ∧ yuvSize w h < 4294967296 else w * ((getNexusPixelFormat format).getD 0) * h < 4294967296

/-- The picture is empty, or it is cleared by the engine or the CPU; a YUV picture is not if there is an engine. -/
def PictureClears (m : Module) (e : EngineAnswers) (format : PixelFormat) (w h : Nat) : Prop :=
  (w = 0 ∨ h = 0) ∨
    if m.hasGraphics ∧ (format.isYuv = true ∨ e.completes = true) then format.isYuv = false else CpuClears format w h

/-- The locks succeed and the picture is cleared, or they fail, without a count that is left raised, and the picture is empty. -/
def Clears (m : Module) (a : BzeroAnswers) (format : PixelFormat) (w h : Nat) : Prop :=
  a.Locked ∧ PictureClears m a.engine format w h ∨ a.Unlocked ∧ (w = 0 ∨ h = 0)

theorem inPicture_empty_iff {b : Buffer} (hbpp : 0 < b.container.bpp) :
    (∀ i, ¬ InPicture b i) ↔ b.container.width = 0 ∨ b.container.height = 0 := by
  have hplanes : (∀ i, ¬ InPicture b i) ↔ ∀ p ∈ b.planes, p.width = 0 ∨ p.rows = 0 := by
    simp only [InPicture, not_exists, not_and]
    rw [forall_comm]
    exact forall_congr' fun p => by rw [forall_comm]; exact forall_congr' fun _ => inRect_empty_iff
  rw [hplanes, Buffer.planes]
  cases hyuv : b.container.format.isYuv with
  | true =>
    simp only [lockYcbcrPlanes, if_true, List.forall_mem_cons, List.not_mem_nil, false_imp_iff, implies_true, and_true]
    omega
  | false =>
    simp only [Bool.false_eq_true, if_false, List.forall_mem_singleton, Nat.mul_eq_zero]
    omega

theorem inPicture_lt_iff {b : Buffer} {n : Nat} :
    (∀ i, InPicture b i → i < n) ↔
      ∀ p ∈ b.planes, p.width = 0 ∨ p.rows = 0 ∨ p.offset + (p.rows - 1) * p.rowInc + p.width ≤ n := by
  constructor
  · intro h p hp
    exact inRect_lt_iff.mp fun i hi => h i ⟨p, hp, hi⟩
  · rintro h i ⟨p, hp, hi⟩
    exact inRect_lt_iff.mpr (h p hp) i hi

/-! ### The bytes that the CPU clears -/

theorem rgbEnd_iff {p h : Nat} (hh : 0 < h) :
    (h - 1) * (p % u32) + p ≤ p * h % u32 ↔ p * h < u32 := by
  have hlt : p * h % u32 < u32 := Nat.mod_lt _ (by decide)
  have hle : p ≤ p * h := Nat.le_mul_of_pos_right p hh
  constructor
  · intro h'
    rw [Nat.mod_eq_of_lt (show p < u32 by omega), Nat.sub_one_mul, Nat.mul_comm h] at h'
    omega
  · intro h'
    rw [Nat.mod_eq_of_lt (show p < u32 by omega), Nat.mod_eq_of_lt h', Nat.sub_one_mul, Nat.mul_comm h]
    omega

/-- The stride of the luma plane. -/
def lumaStride (w : Nat) : Nat := (w + 15) % u32 / 16 * 16

/-- The stride of the chroma planes. -/
def halfStride (w : Nat) : Nat := (lumaStride w / 2 + 15) / 16 * 16

/-- The CPU clears a YUV picture exactly if its height is even and its planes are fewer than 4 GiB. `q` is the number of chroma
    rows in both planes as it is computed. -/
theorem yuvEnd_iff {w h q n : Nat} (hw : 0 < w) (hh : 0 < h) (hn : n = (lumaStride w * h + q * halfStride w) % u32)
    (hq : h % 2 = 0 ∨ h < 2147483648 → q = 2 * (h / 2)) :
    ((h - 1) * lumaStride w + w ≤ n ∧ lumaStride w * h % u32 + ((h + 1) / 2 - 1) * halfStride w + (w + 1) / 2 ≤ n ∧
      (lumaStride w * h % u32 + h / 2 * halfStride w) % u32 + ((h + 1) / 2 - 1) * halfStride w + (w + 1) / 2 ≤ n) ↔
      h % 2 = 0 ∧ w + 15 < u32 ∧ lumaStride w * h + q * halfStride w < u32 := by
  have hlt : n < u32 := hn ▸ Nat.mod_lt _ (by decide)
  have hstride : w + 15 < u32 → w ≤ lumaStride w ∧ lumaStride w ≤ w + 15 := fun h => by
    rw [lumaStride, Nat.mod_eq_of_lt h]
    omega
  have hdvd : 16 ∣ lumaStride w ∧ 16 ∣ halfStride w := ⟨Nat.dvd_mul_left _ _, Nat.dvd_mul_left _ _⟩
  have hhalf : lumaStride w / 2 ≤ halfStride w ∧ halfStride w ≤ lumaStride w := by
    rw [halfStride, lumaStride]
    omega
  have hrow : (h - 1) * lumaStride w + lumaStride w = lumaStride w * h := by
    rw [← Nat.succ_mul, Nat.mul_comm, Nat.succ_eq_add_one, Nat.sub_add_cancel hh]
  constructor
  · rintro ⟨hluma, -, hchroma⟩
    -- a stride of 0 has no room for the width
    have hpos : 16 ≤ lumaStride w := by
      by_contra hzero
      have hluma0 : lumaStride w = 0 := by
        rw [lumaStride] at hzero ⊢
        omega
      have hhalf0 : halfStride w = 0 := by omega
      rw [hluma0, hhalf0, Nat.zero_mul, Nat.mul_zero, Nat.add_zero, Nat.zero_mod] at hn
      omega
    have hw' : w + 15 < u32 := by
      rw [lumaStride] at hpos
      rw [u32] at *
      omega
    have hfew : (h - 1) * 16 ≤ (h - 1) * lumaStride w := Nat.mul_le_mul_left _ hpos
    have hq' := hq (Or.inr (by rw [u32] at hlt; omega))
    -- the size is a multiple of 16, as the luma plane is, and has room for that
    have hle : q * halfStride w ≤ lumaStride w * h := by
      rw [Nat.mul_comm (lumaStride w)]
      exact Nat.mul_le_mul (by omega) hhalf.2
    have hplaneDvd : 16 ∣ lumaStride w * h := Nat.dvd_mul_right_of_dvd hdvd.1 _
    have hnDvd : 16 ∣ n := by
      rw [hn, Nat.dvd_mod_iff (by decide)]
      exact Nat.dvd_add hplaneDvd (Nat.dvd_mul_left_of_dvd hdvd.2 _)
    have hplane : lumaStride w * h ≤ n := by
      have := (hstride hw').2
      omega
    have htotal : lumaStride w * h + q * halfStride w < u32 := by
      by_contra hwrap
      rw [Nat.mod_eq_sub_mod (Nat.not_lt.mp hwrap), Nat.mod_eq_of_lt (by omega)] at hn
      omega
    rw [Nat.mod_eq_of_lt htotal, hq'] at hn
    refine ⟨?_, hw', htotal⟩
    by_contra hodd
    have hrows : (h + 1) / 2 - 1 = h / 2 := by omega
    have hdouble : 2 * (h / 2) * halfStride w = h / 2 * halfStride w + h / 2 * halfStride w := by
      rw [Nat.mul_assoc, Nat.two_mul]
    rw [hrows, Nat.mod_eq_of_lt (show lumaStride w * h < u32 by omega), Nat.mod_eq_of_lt (by omega)] at hchroma
    omega
  · rintro ⟨heven, hw', htotal⟩
    obtain ⟨hlow, hhigh⟩ := hstride hw'
    have hrows : ((h + 1) / 2 - 1) * halfStride w + halfStride w = h / 2 * halfStride w := by
      rw [← Nat.succ_mul]
      congr 1
      omega
    have hdouble : q * halfStride w = h / 2 * halfStride w + h / 2 * halfStride w := by
      rw [hq (Or.inl heven), Nat.mul_assoc, Nat.two_mul]
    rw [Nat.mod_eq_of_lt htotal] at hn
    rw [Nat.mod_eq_of_lt (show lumaStride w * h < u32 by omega), Nat.mod_eq_of_lt (by omega)]
    omega

section
variable {w h : Int32} {format : PixelFormat} {usage : Usage} {bpp : Nat}

theorem yuvStride_value (w h : Int32) (bpp : Nat) (hyuv : format.isYuv = true) :
    unsigned (bufferData w h format bpp).stride.value = lumaStride (unsigned w.toInt) ∧
      IntFits (bufferData w h format bpp).stride.value ∧ (bufferData w h format bpp).stride.value % 16 = 0 := by
  have hstride : (bufferData w h format bpp).stride = (IntCalc.cut (w.toInt + 15) true).alignDown 16 := by
    cases format <;> first | rfl | cases hyuv
  have hmod := IntCalc.cut_emod (w.toInt + 15) true
  have hfits := IntCalc.cut_fits (w.toInt + 15) true
  rw [hstride, IntCalc.alignDown, lumaStride, unsigned, unsigned, u32]
  dsimp only
  generalize (IntCalc.cut (w.toInt + 15) true).value = v at *
  rw [IntFits] at hfits ⊢
  omega

theorem yuvSize_value (w h : Int32) (bpp : Nat) (hyuv : format.isYuv = true) :
    ∃ q : Nat, unsigned (bufferData w h format bpp).size.value =
        (lumaStride (unsigned w.toInt) * unsigned h.toInt + q * halfStride (unsigned w.toInt)) % u32 ∧
      (unsigned h.toInt % 2 = 0 ∨ unsigned h.toInt < 2147483648 → q = 2 * (unsigned h.toInt / 2)) := by
  have hstride : (bufferData w h format bpp).stride = alignUp (w.toInt : IntCalc) 16 := by
    cases format <;> first | rfl | cases hyuv
  obtain ⟨hvalue, hfits, hdvd⟩ := yuvStride_value w h bpp hyuv
  have hsize : (bufferData w h format bpp).size =
      (bufferData w h format bpp).stride * (h.toInt : IntCalc) + ((2 : Int) : IntCalc) *
        ((h.toInt : IntCalc) / ((2 : Int) : IntCalc) *
          alignUp ((bufferData w h format bpp).stride / ((2 : Int) : IntCalc)) 16) := by
    cases format <;> first | rfl | cases hyuv
  generalize hst : (bufferData w h format bpp).stride = stride at *
  have hheight := fits_toInt h
  have hrows := half_bounds h.toInt
  have hhalf := half_bounds stride.value
  have hmodStride := unsigned_mod stride.value
  have hmodHeight := unsigned_mod h.toInt
  rw [IntFits] at hfits hheight
  rw [hvalue] at hmodStride
  have hrowsValue : ((h.toInt : IntCalc) / ((2 : Int) : IntCalc)).value = h.toInt.tdiv 2 :=
    IntCalc.cut_of_fits (by rw [IntFits]; dsimp only; omega) _
  have hhalfValue : (stride / ((2 : Int) : IntCalc)).value = stride.value.tdiv 2 :=
    IntCalc.cut_of_fits (by rw [IntFits]; dsimp only; omega) _
  -- the stride of the chroma planes may be off by half of 2 ^ 32, which the 2 makes up for
  have hchroma : 2 * (alignUp (stride / ((2 : Int) : IntCalc)) 16).value ≡ 2 * (halfStride (unsigned w.toInt) : Int)
      [ZMOD 4294967296] := by
    have hsum : (stride / ((2 : Int) : IntCalc) + ((16 - 1 : Int) : IntCalc)).value = stride.value.tdiv 2 + 15 := by
      rw [← hhalfValue]
      exact IntCalc.cut_of_fits (by rw [hhalfValue, IntFits]; dsimp only; omega) _
    rw [alignUp, IntCalc.alignDown, hsum, halfStride, Int.ModEq]
    dsimp only
    omega
  have hq : (((2 * h.toInt.tdiv 2) % 4294967296).toNat : Int) = 2 * h.toInt.tdiv 2 % 4294967296 :=
    Int.toNat_of_nonneg (Int.emod_nonneg _ (by decide))
  refine ⟨((2 * h.toInt.tdiv 2) % 4294967296).toNat, Int.ofNat_inj.mp ?_, fun h => by omega⟩
  have hvalues : (bufferData w h format bpp).size.value ≡
      stride.value * h.toInt + 2 * (h.toInt.tdiv 2 * (alignUp (stride / ((2 : Int) : IntCalc)) 16).value) [ZMOD 4294967296] := by
    rw [hsize, ← hrowsValue]
    exact (IntCalc.add_modEq _ _).trans ((IntCalc.mul_modEq _ _).add
      ((IntCalc.mul_modEq _ _).trans ((IntCalc.mul_modEq _ _).mul_left 2)))
  have hchromaRows : h.toInt.tdiv 2 * (2 * (alignUp (stride / ((2 : Int) : IntCalc)) 16).value) ≡
      (((2 * h.toInt.tdiv 2) % 4294967296).toNat : Int) * halfStride (unsigned w.toInt) [ZMOD 4294967296] := by
    refine (hchroma.mul_left _).trans ?_
    rw [hq, ← Int.mul_assoc, Int.mul_comm (h.toInt.tdiv 2) 2]
    exact (Int.mod_modEq _ _).symm.mul_right _
  have hluma : stride.value * h.toInt ≡ lumaStride (unsigned w.toInt) * (unsigned h.toInt : Int) [ZMOD 4294967296] := by
    rw [hmodStride, hmodHeight]
    exact ((Int.mod_modEq _ _).mul (Int.mod_modEq _ _)).symm
  rw [Int.mul_left_comm] at hvalues
  rw [unsigned_mod]
  push_cast
  exact hvalues.trans (hluma.add hchromaRows)

theorem rgbSize_value (hyuv : format.isYuv = false) (hbpp : getNexusPixelFormat format = some bpp) :
    unsigned (bufferData w h format bpp).size.value = unsigned w.toInt * bpp * unsigned h.toInt % u32 := by
  have hsize : (bufferData w h format bpp).size =
      alignUp ((w.toInt : IntCalc) * ((bpp : Int) : IntCalc)) 1 * (h.toInt : IntCalc) := by
    cases format <;> first | rfl | exact absurd hyuv (by decide) | cases hbpp
  have hpitch : (alignUp ((w.toInt : IntCalc) * ((bpp : Int) : IntCalc)) 1).value ≡ w.toInt * bpp [ZMOD 4294967296] := by
    rw [alignUp, IntCalc.alignDown]
    dsimp only
    rw [Int.emod_one, Int.sub_zero]
    refine (IntCalc.add_modEq _ _).trans ?_
    rw [show ((1 - 1 : Int) : IntCalc).value = 0 from rfl, Int.add_zero]
    exact IntCalc.mul_modEq _ _
  refine Int.ofNat_inj.mp ?_
  rw [unsigned_mod, hsize]
  push_cast
  rw [unsigned_mod, unsigned_mod]
  exact ((IntCalc.mul_modEq _ _).trans (hpitch.mul_right _)).trans
    (((Int.mod_modEq _ _).mul_right _).mul (Int.mod_modEq _ _)).symm

theorem yuvSize_lt_iff {x y q : Nat} (hy : 0 < y) (hq : q = 2 * (y / 2)) :
    yuvSize x y < 4294967296 ↔ x + 15 < u32 ∧ lumaStride x * y + q * halfStride x < u32 := by
  rw [(yuvSize_natCast x y).2.2, ← Nat.mul_assoc, ← hq]
  by_cases hx : x + 15 < u32
  · rw [and_iff_right hx, halfStride, lumaStride, Nat.mod_eq_of_lt hx]
    exact Int.ofNat_lt
  · refine iff_of_false (fun h => ?_) fun h => hx h.1
    have hlarge : u32 ≤ (x + 15) / 16 * 16 := by
      rw [u32] at *
      omega
    have hle := Nat.le_mul_of_pos_right ((x + 15) / 16 * 16) hy
    have hlt := Int.ofNat_lt.mp h
    rw [u32] at hlarge
    omega

theorem allocatedContainer_picture (w h : Int32) (format : PixelFormat) (usage : Usage) (bpp : Nat) :
    (allocatedContainer w h format usage bpp).format = format ∧ (allocatedContainer w h format usage bpp).bpp = bpp ∧
      (allocatedContainer w h format usage bpp).width = unsigned w.toInt ∧
      (allocatedContainer w h format usage bpp).height = unsigned h.toInt := by
  rw [allocatedContainer]
  cases fmtSet format usage w.toInt h.toInt <;> exact ⟨rfl, rfl, rfl, rfl⟩

/-- The CPU clears all of the picture of an allocated buffer if it is empty, or fewer than 4 GiB, and for a YUV format of an even
    height. -/
theorem cpu_clears_iff (hbpp : getNexusPixelFormat format = some bpp)
    (hset : fmtSet format usage w.toInt h.toInt ≠ FmtSet.none) {b : Buffer}
    (hb : b.container = allocatedContainer w h format usage bpp)
    (halign : b.alignment = (bufferData w h format bpp).alignment.toNat) :
    (∀ i, InPicture b i → i < b.container.size) ↔
      (unsigned w.toInt = 0 ∨ unsigned h.toInt = 0) ∨ CpuClears format (unsigned w.toInt) (unsigned h.toInt) := by
  obtain ⟨hformat, hbppEq, hwidth, hheight⟩ := hb ▸ allocatedContainer_picture w h format usage bpp
  have hbppPos := (bpp_bounds hbpp).1
  have hempty := inPicture_empty_iff (b := b) (by omega)
  rw [hwidth, hheight] at hempty
  by_cases hzero : unsigned w.toInt = 0 ∨ unsigned h.toInt = 0
  · exact iff_of_true (fun i hi => absurd hi (hempty.mpr hzero i)) (Or.inl hzero)
  · rw [or_iff_right hzero, inPicture_lt_iff, Buffer.planes, CpuClears]
    obtain ⟨hw, hh⟩ := not_or.mp hzero
    cases hyuv : format.isYuv with
    | false =>
      rw [hformat, hyuv]
      simp only [Bool.false_eq_true, if_false, List.forall_mem_singleton, hbpp, Option.getD_some, hwidth, hheight, hbppEq,
        Nat.zero_add]
      rw [hb, rgbContainer_eq hyuv hbpp]
      dsimp only
      rw [rgbSize_value hyuv hbpp, or_iff_right (Nat.mul_ne_zero hw (by omega)), or_iff_right hh]
      exact rgbEnd_iff (Nat.pos_of_ne_zero hh)
    | true =>
      obtain ⟨q, hsize, hq⟩ := yuvSize_value w h bpp hyuv
      have hstride : b.container.stride = lumaStride (unsigned w.toInt) := by
        rw [hb, yuvContainer_eq hyuv hset]
        exact (yuvStride_value w h bpp hyuv).1
      have hcstride : cstride b.container b.alignment = halfStride (unsigned w.toInt) := by
        rw [cstride, hstride, halign, yuv_alignment hyuv, maskUp_sixteen, halfStride, Nat.mod_eq_of_lt]
        rw [lumaStride, u32]
        omega
      have hwidths : (unsigned w.toInt + 1) / 2 ≠ 0 ∧ (unsigned h.toInt + 1) / 2 ≠ 0 := by omega
      have hsize' : b.container.size = unsigned (bufferData w h format bpp).size.value := by
        rw [hb, yuvContainer_eq hyuv hset]
      rw [hformat, hyuv]
      simp only [if_true, List.forall_mem_cons, List.not_mem_nil, false_imp_iff, implies_true, and_true, lockYcbcrPlanes,
        hwidth, hheight, hstride, hcstride, hw, hh, hwidths, false_or, Nat.zero_add]
      rw [hsize', yuvEnd_iff (Nat.pos_of_ne_zero hw) (Nat.pos_of_ne_zero hh) hsize hq]
      refine and_congr_right fun heven => (yuvSize_lt_iff (Nat.pos_of_ne_zero hh) (hq (Or.inl heven))).symm

/-! ### A new buffer -/

instance nontrivialByte : Nontrivial (BitVec 8) := ⟨0, 1, by decide⟩

theorem bzero_fills_iff {m : Module} {a : BzeroAnswers} (hlocked : a.Locked) (hbpp : getNexusPixelFormat format = some bpp)
    (hset : fmtSet format usage w.toInt h.toInt ≠ FmtSet.none) {b : Buffer}
    (hb : b.container = allocatedContainer w h format usage bpp)
    (halign : b.alignment = (bufferData w h format bpp).alignment.toNat) :
    Memory.Fills (bzero m b.container a).memory (InPicture b) 0 ↔
      PictureClears m a.engine format (unsigned w.toInt) (unsigned h.toInt) := by
  obtain ⟨hformat, hbppEq, hwidth, hheight⟩ := hb ▸ allocatedContainer_picture w h format usage bpp
  have hbppPos := (bpp_bounds hbpp).1
  have hempty := inPicture_empty_iff (b := b) (by omega)
  rw [hwidth, hheight] at hempty
  have hdone : (!(m.hasGraphics && (format.isYuv || a.engine.completes))) = true ↔
      ¬ (m.hasGraphics = true ∧ (format.isYuv = true ∨ a.engine.completes = true)) := by
    rw [Bool.not_eq_true', ← Bool.not_eq_true, Bool.and_eq_true, Bool.or_eq_true]
  rw [bzero_of_locked hlocked, PictureClears]
  dsimp only
  rw [hformat, if_congr hdone rfl rfl]
  by_cases hengine : m.hasGraphics = true ∧ (format.isYuv = true ∨ a.engine.completes = true)
  · rw [if_pos hengine, if_neg (not_not.mpr hengine)]
    cases hyuv : format.isYuv with
    | true =>
      rw [if_pos rfl, Memory.fills_id_iff, hempty]
      simp
    | false =>
      -- the fill is for the rectangle of the picture
      rw [if_neg (by decide), fillBlit, Memory.fills_fill_iff]
      refine iff_of_true (fun i hi => ?_) (Or.inr rfl)
      obtain ⟨p, hp, hi⟩ := hi
      rw [Buffer.planes, hformat, hyuv] at hp
      obtain rfl := List.mem_singleton.mp hp
      exact hi
  · rw [if_neg hengine, if_pos hengine, cpuBzero, Memory.fills_fill_iff]
    exact cpu_clears_iff hbpp hset hb halign

/-- A new buffer with a plane has nothing of the earlier contents of its memory exactly if its picture is cleared. -/
theorem leavesNothing_iff {m : Module} {a : AllocAnswers} {b : Buffer}
    (hok : (allocBuffer m a w h format usage).result = .ok b) (hplane : b.container.physAddr = true) :
    LeavesNothing m a (allocBuffer m a w h format usage) b ↔
      Clears m a.bzero format (unsigned w.toInt) (unsigned h.toInt) := by
  obtain ⟨bpp, halloc⟩ := allocated_of_ok hok
  have hb : b.container = allocatedContainer w h format usage bpp := by rw [halloc.buffer]
  have halign : b.alignment = (bufferData w h format bpp).alignment.toNat := by rw [halloc.buffer]
  have hset : fmtSet format usage w.toInt h.toInt ≠ FmtSet.none := by
    rw [hb] at hplane
    exact of_decide_eq_true hplane
  have hmemory : (allocBuffer m a w h format usage).memory = (bzero m b.container a.bzero).memory := by
    rw [halloc.memory, cleared, if_pos hplane]
  have hparts : LeavesNothing m a (allocBuffer m a w h format usage) b ↔
      Memory.Fills (bzero m b.container a.bzero).memory (InPicture b) 0 ∧ Balanced (bzero m b.container a.bzero).calls := by
    rw [← hmemory]
    exact ⟨fun h => ⟨h.zero, h.balanced⟩, fun h => ⟨h.1, fun before before' _ hi => h.1.agree before before' hi, h.2⟩⟩
  rw [hparts, bzero_balanced_iff, Clears]
  by_cases hlocked : a.bzero.Locked
  · have hnot : ¬ a.bzero.Unlocked := fun h => by
      rw [BzeroAnswers.Unlocked, hlocked.1] at h
      cases h.1
    rw [bzero_fills_iff hlocked halloc.supported hset hb halign]
    simp [hlocked, hnot]
  · obtain ⟨-, hbppEq, hwidth, hheight⟩ := hb ▸ allocatedContainer_picture w h format usage bpp
    have hbppPos := (bpp_bounds halloc.supported).1
    rw [bzero_of_not_locked hlocked, Memory.fills_id_iff, inPicture_empty_iff (by omega), hwidth, hheight]
    simp [hlocked, and_comm]

/-- A small RGB buffer that the engine clears. -/
theorem smallRgba_leavesNothing :
    ∃ b, (allocBuffer {} {} 4 4 .rgba8888 {}).result = .ok b ∧ LeavesNothing {} {} (allocBuffer {} {} 4 4 .rgba8888 {}) b := by
  refine ⟨_, rfl, (leavesNothing_iff rfl rfl).mpr (Or.inl ⟨⟨rfl, rfl, rfl⟩, Or.inr ?_⟩)⟩
  rw [if_pos ⟨rfl, Or.inr rfl⟩]
  rfl

/-- With an engine, nothing of a YUV buffer is cleared. -/
theorem smallYv12_not_leavesNothing :
    ∃ b, (allocBuffer {} {} 16 2 .yv12 {}).result = .ok b ∧ b.container.physAddr = true ∧
      ¬ LeavesNothing {} {} (allocBuffer {} {} 16 2 .yv12 {}) b :=
  ⟨_, rfl, rfl, fun h => absurd (h.same (fun _ => 0) (fun _ => 1) 0
    ⟨{ offset := 0, rowInc := 16, width := 16, rows := 2 }, by decide, by decide⟩) (by decide)⟩

end
end BcmPlatform.Gralloc
