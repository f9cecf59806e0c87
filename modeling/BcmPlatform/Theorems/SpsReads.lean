import BcmPlatform.Hevc.ParameterSets
import Mathlib.Data.List.Flatten

/-! What the parts of `ParseHEVCSPS` read of the syntax that they are for. -/

namespace BcmPlatform.Hevc
open Lib Parse

variable {σ : Type} {r : BitReader σ} {rest : σ → List Bool}

/-- The info with the fields of a table merged into it. -/
def HevcNalInfo.mergeTable (info : HevcNalInfo) (p : ProfileTierLevel) : HevcNalInfo :=
  info.merge p.profileSpace.toNat p.tierFlag.toNat p.profileIdc.toNat p.profileCompatibilityFlags.toNat
    (p.constraintFlags.extractLsb' 16 32).toNat (p.constraintFlags.extractLsb' 0 16).toNat p.levelIdc.toNat

def HevcNalInfo.withPicture (info : HevcNalInfo) (p : Sps) : HevcNalInfo :=
  { info with
    chromaFormat := p.chromaFormatIdc.val
    picWidthInLumaSamples := toInt32 p.picWidthInLumaSamples.val
    picHeightInLumaSamples := toInt32 p.picHeightInLumaSamples.val
    bitDepthLumaMinus8 := p.bitDepthLumaMinus8.val % 256
    bitDepthChromaMinus8 := p.bitDepthChromaMinus8.val % 256 }

section Parts
variable (h : r.Laws rest)
include h

theorem reads_ues (cs : List (HevcElement × Ue)) :
    Reads rest (skipUEs r (cs.map (·.1))) (cs.map fun c => .ue c.1 c.2) () := reads_skipUEs h cs

theorem reads_bits (cs : List (HevcElement × (n : Nat) × BitVec n)) :
    Reads rest (skipBits r (cs.map fun c => (c.1, c.2.1))) (cs.map fun c => .u c.1 c.2.2) () := reads_skipBits h cs

theorem reads_parseSe {element : HevcElement} (v : Se) :
    Reads rest (parseSe r element) [.se element v] (seValue v.codeNum) := by
  refine (reads_se h v).bind ?_
  exact Reads.pure _

theorem reads_skipSe {element : HevcElement} (v : Se) : Reads rest (do let _ ← parseSe r element) [.se element v] () :=
  (reads_parseSe h v).bind (Reads.pure ())

/-! ### Scaling lists -/

theorem reads_scalingList (i : Nat) (l : ScalingList) : Reads rest (scalingList r i) (l.elements i) () := by
  cases l with
  | predicted matrixIdDelta =>
    refine (reads_flag h false).bind ?_
    exact reads_ues h [(.scalingListPredMatrixIdDelta, matrixIdDelta)]
  | coded dcCoefMinus8 deltaCoef =>
    rw [ScalingList.elements, List.append_assoc]
    refine (reads_flag h true).bind ?_
    refine Reads.bind (a := ()) ?_ ?_
    · simpa using reads_ifSet (decide (1 < i)) fun _ => reads_skipSe h dcCoefMinus8
    · rw [List.range_eq_range']
      exact reads_loop 0 fun j _ _ => reads_skipSe h (deltaCoef j)

theorem reads_scalingLists (lists : Nat → Nat → ScalingList) :
    Reads rest (skipScalingListData r) (scalingListElements lists) () := by
  rw [scalingListElements, List.range_eq_range']
  refine reads_loop 0 fun sizeId _ _ => ?_
  have hloop : Reads rest (loop (fun _ => scalingList r sizeId) 0 (if sizeId = 3 then 2 else 6))
      ((List.range' 0 (if sizeId = 3 then 2 else 6)).flatMap
        fun j => (lists sizeId (j * if sizeId = 3 then 3 else 1)).elements sizeId) () :=
    reads_loop 0 fun j _ _ => reads_scalingList h sizeId _
  refine hloop.congr ?_ rfl
  by_cases hsize : sizeId = 3
  · simp only [hsize, if_true]
    rfl
  · simp only [hsize, if_false]
    rfl

/-! ### HRD parameters -/

theorem reads_cpb (subPic : Bool) (c : Cpb) : Reads rest (cpb r subPic.toNat) (c.elements subPic) () := by
  rw [Cpb.elements, List.append_assoc]
  refine (reads_ues h [(.bitRateValueMinus1, c.bitRateValueMinus1), (.cpbSizeValueMinus1, c.cpbSizeValueMinus1)]).bind ?_
  refine Reads.bind (a := ()) ?_ (reads_bits h [(.cbrFlag, ⟨1, c.cbrFlag⟩)])
  cases subPic with
  | false => exact Reads.pure ()
  | true =>
    exact reads_ues h [(.cpbSizeDuValueMinus1, c.cpbSizeDuValueMinus1), (.bitRateDuValueMinus1, c.bitRateDuValueMinus1)]

theorem reads_cpbs (flag subPic : Bool) (count : Nat) (c : Nat → Cpb) :
    Reads rest (ifSet (flag.toNat ≠ 0) (loop (fun _ => cpb r subPic.toNat) 0 count))
      (if flag then (List.range count).flatMap (fun i => (c i).elements subPic) else []) () := by
  cases flag with
  | false => exact Reads.pure ()
  | true =>
    rw [List.range_eq_range']
    exact reads_loop 0 fun i _ _ => reads_cpb h subPic (c i)

theorem reads_hrdSubLayer (nal vcl subPic : Bool) {l : HrdSubLayer} (hgeneral : l.fixedPicRateGeneralFlag = false) :
    Reads rest (hrdSubLayer r nal.toNat vcl.toNat subPic.toNat) (l.elements nal vcl subPic) () := by
  have hwithin : l.withinCvs = l.fixedPicRateWithinCvsFlag := by rw [HrdSubLayer.withinCvs, hgeneral, Bool.false_or]
  rw [HrdSubLayer.elements, hgeneral, hwithin]
  simp only [List.append_assoc]
  refine (reads_flag h false).bind ?_
  refine (reads_flag h l.fixedPicRateWithinCvsFlag).bind ?_
  refine Reads.bind (a := l.lowDelay.toNat) ?_ ?_
  · rw [HrdSubLayer.lowDelay, hwithin]
    cases l.fixedPicRateWithinCvsFlag with
    | false => exact reads_flag h l.lowDelayHrdFlag
    | true => exact (reads_ues h [(.elementalDurationInTcMinus1, l.elementalDurationInTcMinus1)]).bind (Reads.pure 0)
  refine Reads.bind (a := l.cpbCnt - 1) ?_ ?_
  · rw [HrdSubLayer.cpbCnt]
    cases l.lowDelay with
    | false => exact reads_ue h l.cpbCntMinus1
    | true => exact Reads.pure 0
  have hcount : l.cpbCnt - 1 + 1 = l.cpbCnt := by
    rw [HrdSubLayer.cpbCnt]
    split <;> rfl
  rw [hcount]
  exact (reads_cpbs h nal subPic l.cpbCnt l.nal).bind (reads_cpbs h vcl subPic l.cpbCnt l.vcl)

theorem strays_hrdSubLayer (nal vcl subPic : Bool) {l : HrdSubLayer} (hgeneral : l.fixedPicRateGeneralFlag = true) :
    Strays rest (hrdSubLayer r nal.toNat vcl.toNat subPic.toNat) (l.elements nal vcl subPic) := by
  have hwithin : l.withinCvs = true := by rw [HrdSubLayer.withinCvs, hgeneral, Bool.true_or]
  rw [HrdSubLayer.elements, hgeneral, hwithin]
  simp only [List.append_assoc]
  refine (reads_flag h true).strays_bind ?_
  refine (Reads.pure 0).strays_bind ?_
  refine (first_getBits r HevcElement.lowDelayHrdFlag 1).bind.strays (.inl ?_)
  exact Ne.symm HevcElement.noConfusion

theorem reads_hrdFlags (p : Hrd) :
    Reads rest (hrdFlags r true)
      ([.flag .nalHrdParametersPresentFlag p.nal, .flag .vclHrdParametersPresentFlag p.vcl] ++
        (if p.nal || p.vcl then p.commonElements else []))
      (p.nal.toNat, p.vcl.toNat, p.subPicPresent.toNat) := by
  refine (reads_flag h p.nal).bind ((reads_flag h p.vcl).bind ?_)
  have hset : (p.nal.toNat ≠ 0 ∨ p.vcl.toNat ≠ 0) ↔ (p.nal || p.vcl) = true := by
    cases p.nal <;> cases p.vcl <;> decide
  rw [Hrd.subPicPresent]
  cases hflags : p.nal || p.vcl with
  | false =>
    rw [hflags] at hset
    rw [if_neg (mt hset.mp Bool.false_ne_true)]
    exact Reads.pure _
  | true =>
    rw [hflags] at hset
    rw [if_pos (hset.mpr rfl)]
    have htail := (reads_bits h [(.initialCpbRemovalDelayLengthMinus1, ⟨5, p.initialCpbRemovalDelayLengthMinus1⟩),
      (.auCpbRemovalDelayLengthMinus1, ⟨5, p.auCpbRemovalDelayLengthMinus1⟩),
      (.dpbOutputDelayLengthMinus1, ⟨5, p.dpbOutputDelayLengthMinus1⟩)])
    have hscale := reads_bits h [(.bitRateScale, ⟨4, p.bitRateScale⟩), (.cpbSizeScale, ⟨4, p.cpbSizeScale⟩)]
    simp only [if_true, Hrd.commonElements, List.append_assoc]
    cases hsub : p.subPic with
    | none =>
      refine (reads_flag h false).bind ((Reads.pure ()).bind (hscale.bind ((Reads.pure ()).bind ?_)))
      exact htail.bind (Reads.pure _)
    | some q =>
      have hsubPic := reads_bits h [(.tickDivisorMinus2, ⟨8, q.tickDivisorMinus2⟩),
        (.duCpbRemovalDelayIncrementLengthMinus1, ⟨5, q.duCpbRemovalDelayIncrementLengthMinus1⟩),
        (.subPicCpbParamsInPicTimingSeiFlag, ⟨1, q.cpbParamsInPicTimingSeiFlag⟩),
        (.dpbOutputDelayDuLengthMinus1, ⟨5, q.dpbOutputDelayDuLengthMinus1⟩)]
      refine (reads_flag h true).bind (hsubPic.bind (hscale.bind ?_))
      exact (reads_bits h [(.cpbSizeDuScale, ⟨4, q.cpbSizeDuScale⟩)]).bind (htail.bind (Reads.pure _))

theorem reads_hrdParameters {max : Nat} {p : Hrd} (hgeneral : ∀ i ≤ max, (p.subLayers i).fixedPicRateGeneralFlag = false) :
    Reads rest (skipHrdParameters r true max) (p.elements max) () := by
  refine (reads_hrdFlags h p).bind ?_
  rw [List.range_eq_range']
  exact reads_loop 0 fun i _ hi => reads_hrdSubLayer h p.nal p.vcl p.subPicPresent (hgeneral i (by omega))

theorem strays_hrdParameters {max : Nat} {p : Hrd} (hgeneral : ∃ i ≤ max, (p.subLayers i).fixedPicRateGeneralFlag = true) :
    Strays rest (skipHrdParameters r true max) (p.elements max) := by
  obtain ⟨i, hi, hgeneral⟩ := hgeneral
  refine (reads_hrdFlags h p).strays_bind ?_
  rw [List.range_eq_range']
  refine strays_loop (fun i => (p.subLayers i).fixedPicRateGeneralFlag = false)
    (fun j => reads_hrdSubLayer h p.nal p.vcl p.subPicPresent)
    (fun j hj => strays_hrdSubLayer h p.nal p.vcl p.subPicPresent (eq_true_of_ne_false hj)) 0 ⟨i, Nat.zero_le i, by omega, ?_⟩
  rw [hgeneral]
  exact Bool.false_ne_true.symm

/-! ### Profile, tier and level -/

theorem reads_subLayer (l : SubLayer) :
    Reads rest (subLayer r l.profile.isSome.toNat l.level.isSome.toNat)
      (l.profile.elim [] SubLayerProfile.elements ++ l.level.elim [] fun v => [.u .subLayerLevelIdc v]) () := by
  refine Reads.bind (a := ()) ?_ ?_
  · cases l.profile with
    | none => exact Reads.pure ()
    | some p =>
      refine (reads_bits h [(.subLayerProfileSpace, ⟨2, p.space⟩), (.subLayerTierFlag, ⟨1, p.tierFlag⟩),
        (.subLayerProfileIdc, ⟨5, p.idc⟩)]).bind ?_
      refine (reads_bits h [(.subLayerProfileCompatibilityFlags, ⟨32, p.compatibilityFlags⟩)]).bind ?_
      refine (reads_bits h [(.subLayerProgressiveSourceFlag, ⟨1, p.progressiveSourceFlag⟩),
        (.subLayerInterlacedSourceFlag, ⟨1, p.interlacedSourceFlag⟩),
        (.subLayerNonPackedConstraintFlag, ⟨1, p.nonPackedConstraintFlag⟩),
        (.subLayerFrameOnlyConstraintFlag, ⟨1, p.frameOnlyConstraintFlag⟩)]).bind ?_
      exact reads_bits h [(.subLayerReservedZero44bits, ⟨44, p.reservedZero44bits⟩)]
  · cases l.level with
    | none => exact Reads.pure ()
    | some v => exact reads_bits h [(.subLayerLevelIdc, ⟨8, v⟩)]

theorem reads_generalInfo (info : HevcNalInfo) (p : ProfileTierLevel) (max : Nat) :
    Reads rest (parseGeneralInfo r info max) (p.elements max) (info.mergeTable p) := by
  rw [ProfileTierLevel.elements, List.append_assoc, List.append_assoc, List.range_eq_range']
  refine (reads_u h p.profileSpace (by decide)).bind ((reads_flag h p.tierFlag).bind ?_)
  refine (reads_u h p.profileIdc (by decide)).bind ((reads_u h p.profileCompatibilityFlags (by decide)).bind ?_)
  refine (reads_u h (p.constraintFlags.extractLsb' 16 32) (by decide)).bind ?_
  refine (reads_u h (p.constraintFlags.extractLsb' 0 16) (by decide)).bind ((reads_u h p.levelIdc (by decide)).bind ?_)
  let present (i : Nat) : Nat × Nat := ((p.subLayers i).profile.isSome.toNat, (p.subLayers i).level.isSome.toNat)
  refine Reads.bind (a := (List.range' 0 max).map present) ?_ ?_
  · refine reads_collect 0 fun i _ _ => ?_
    refine (reads_flag h (p.subLayers i).profile.isSome).bind ((reads_flag h (p.subLayers i).level.isSome).bind ?_)
    exact Reads.pure _
  refine Reads.bind (a := ()) ?_ (Reads.map (a := ()) ?_ fun _ => info.mergeTable p)
  · have hreserved : Reads rest (loop (fun _ => skipBits r [(HevcElement.reservedZero2bits, 2)]) max (8 - max))
        ((List.range' max (8 - max)).flatMap fun i => [.u .reservedZero2bits (p.reservedZero2bits i)]) () :=
      reads_loop max fun i _ _ => reads_bits h [(.reservedZero2bits, ⟨2, p.reservedZero2bits i⟩)]
    simpa using reads_ifSet (decide (0 < max)) fun _ => hreserved
  · refine reads_loop 0 fun i _ hi => ?_
    have hpresent : ((List.range' 0 max).map present).getD i (0, 0) = present i := by
      rw [List.getD_eq_getElem?_getD, List.getElem?_map, List.getElem?_range' (by omega), Nat.zero_add, Nat.one_mul]
      rfl
    rw [hpresent]
    exact reads_subLayer h (p.subLayers i)

/-! ### The SPS up to its sets of reference pictures -/

theorem reads_window {flag left right top bottom : HevcElement} (o : Option Window) :
    Reads rest (ifFlag r flag (skipUEs r [left, right, top, bottom]))
      (optional flag o fun w => [.ue left w.left, .ue right w.right, .ue top w.top, .ue bottom w.bottom]) () :=
  reads_ifFlag h fun w _ => reads_ues h [(left, w.left), (right, w.right), (top, w.top), (bottom, w.bottom)]

theorem reads_spsPicture (info : HevcNalInfo) (p : Sps) :
    Reads rest (spsPicture r info) p.pictureElements (info.withPicture p) := by
  rw [Sps.pictureElements]
  refine (reads_ues h [(.spsSeqParameterSetId, p.seqParameterSetId)]).bind ((reads_ue h p.chromaFormatIdc).bind ?_)
  refine Reads.bind (a := ()) ?_ ?_
  · simpa using reads_ifSet (decide (p.chromaFormatIdc.val = 3)) fun _ =>
      reads_bits h [(.separateColourPlaneFlag, ⟨1, p.separateColourPlaneFlag⟩)]
  refine (reads_ue h p.picWidthInLumaSamples).bind ((reads_ue h p.picHeightInLumaSamples).bind ?_)
  refine (reads_window h p.conformanceWindow).bind ?_
  refine (reads_ue h p.bitDepthLumaMinus8).bind ((reads_ue h p.bitDepthChromaMinus8).bind ?_)
  exact Reads.pure _

theorem reads_spsCoding (p : Sps) : Reads rest (spsCoding r p.maxSubLayersMinus1.val) p.codingElements () := by
  rw [Sps.codingElements, Sps.orderingElements]
  refine (reads_ues h [(.log2MaxPicOrderCntLsbMinus4, p.log2MaxPicOrderCntLsbMinus4)]).bind ?_
  refine (reads_flag h p.subLayerOrderingInfoPresentFlag).bind ?_
  have hfirst : (if p.subLayerOrderingInfoPresentFlag.toNat ≠ 0 then 0 else p.maxSubLayersMinus1.val) =
      if p.subLayerOrderingInfoPresentFlag then 0 else p.maxSubLayersMinus1.val := by
    cases p.subLayerOrderingInfoPresentFlag <;> rfl
  rw [hfirst]
  refine Reads.bind (a := ()) (reads_loop _ fun i _ _ => ?_) ?_
  · exact reads_ues h [(.spsMaxDecPicBufferingMinus1, (p.orderingInfo i).maxDecPicBufferingMinus1),
      (.spsMaxNumReorderPics, (p.orderingInfo i).maxNumReorderPics),
      (.spsMaxLatencyIncreasePlus1, (p.orderingInfo i).maxLatencyIncreasePlus1)]
  refine (reads_ues h [(.log2MinLumaCodingBlockSizeMinus3, p.log2MinLumaCodingBlockSizeMinus3),
    (.log2DiffMaxMinLumaCodingBlockSize, p.log2DiffMaxMinLumaCodingBlockSize),
    (.log2MinLumaTransformBlockSizeMinus2, p.log2MinLumaTransformBlockSizeMinus2),
    (.log2DiffMaxMinLumaTransformBlockSize, p.log2DiffMaxMinLumaTransformBlockSize),
    (.maxTransformHierarchyDepthInter, p.maxTransformHierarchyDepthInter),
    (.maxTransformHierarchyDepthIntra, p.maxTransformHierarchyDepthIntra)]).bind ?_
  refine Reads.bind (a := ()) ?_ ?_
  · exact reads_ifFlag h fun data _ => reads_ifFlag h fun lists _ => reads_scalingLists h lists
  refine (reads_bits h [(.ampEnabledFlag, ⟨1, p.ampEnabledFlag⟩)]).bind ?_
  refine (reads_bits h [(.sampleAdaptiveOffsetEnabledFlag, ⟨1, p.sampleAdaptiveOffsetEnabledFlag⟩)]).bind ?_
  refine reads_ifFlag h fun q _ => ?_
  refine (reads_bits h [(.pcmSampleBitDepthLumaMinus1, ⟨4, q.sampleBitDepthLumaMinus1⟩)]).bind ?_
  refine (reads_bits h [(.pcmSampleBitDepthChromaMinus1, ⟨4, q.sampleBitDepthChromaMinus1⟩)]).bind ?_
  refine (reads_ues h [(.log2MinPcmLumaCodingBlockSizeMinus3, q.log2MinLumaCodingBlockSizeMinus3),
    (.log2DiffMaxMinPcmLumaCodingBlockSize, q.log2DiffMaxMinLumaCodingBlockSize)]).bind ?_
  exact reads_bits h [(.pcmLoopFilterDisabledFlag, ⟨1, q.loopFilterDisabledFlag⟩)]

end Parts
end BcmPlatform.Hevc
