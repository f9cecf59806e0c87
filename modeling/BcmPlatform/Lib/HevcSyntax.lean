import BcmPlatform.Lib.BitSyntax
import BcmPlatform.Lib.Bytes

/-! The syntax of the parameter sets of H.265: their elements, in the order in which they are written; and the decoder
    configuration record of the MP4 file format, as a reader takes it apart. -/

namespace BcmPlatform.Lib

/-- The syntax elements. An element that is written many times has one name. -/
inductive HevcElement where
  -- parameter sets
  | vpsVideoParameterSetId | vpsReservedThree2bits | vpsMaxLayersMinus1 | vpsMaxSubLayersMinus1 | vpsTemporalIdNestingFlag
  | vpsReserved0xffff16bits
  | spsVideoParameterSetId | spsMaxSubLayersMinus1 | spsTemporalIdNestingFlag | spsSeqParameterSetId | chromaFormatIdc
  | separateColourPlaneFlag | picWidthInLumaSamples | picHeightInLumaSamples | conformanceWindowFlag | confWinLeftOffset
  | confWinRightOffset | confWinTopOffset | confWinBottomOffset | bitDepthLumaMinus8 | bitDepthChromaMinus8
  | log2MaxPicOrderCntLsbMinus4 | spsSubLayerOrderingInfoPresentFlag | spsMaxDecPicBufferingMinus1 | spsMaxNumReorderPics
  | spsMaxLatencyIncreasePlus1 | log2MinLumaCodingBlockSizeMinus3 | log2DiffMaxMinLumaCodingBlockSize
  | log2MinLumaTransformBlockSizeMinus2 | log2DiffMaxMinLumaTransformBlockSize | maxTransformHierarchyDepthInter
  | maxTransformHierarchyDepthIntra | scalingListEnabledFlag | spsScalingListDataPresentFlag | ampEnabledFlag
  | sampleAdaptiveOffsetEnabledFlag | pcmEnabledFlag | pcmSampleBitDepthLumaMinus1 | pcmSampleBitDepthChromaMinus1
  | log2MinPcmLumaCodingBlockSizeMinus3 | log2DiffMaxMinPcmLumaCodingBlockSize | pcmLoopFilterDisabledFlag
  | numShortTermRefPicSets | longTermRefPicsPresentFlag | numLongTermRefPicsSps | ltRefPicPocLsbSps | usedByCurrPicLtSpsFlag
  | spsTemporalMvpEnabledFlag | strongIntraSmoothingEnabledFlag | vuiParametersPresentFlag
  | ppsPicParameterSetId | ppsSeqParameterSetId | dependentSliceSegmentsEnabledFlag | outputFlagPresentFlag
  | numExtraSliceHeaderBits | signDataHidingEnabledFlag | cabacInitPresentFlag | numRefIdxL0DefaultActiveMinus1
  | numRefIdxL1DefaultActiveMinus1 | initQpMinus26 | constrainedIntraPredFlag | transformSkipEnabledFlag | cuQpDeltaEnabledFlag
  | diffCuQpDeltaDepth | ppsCbQpOffset | ppsCrQpOffset | ppsSliceChromaQpOffsetsPresentFlag | weightedPredFlag
  | weightedBipredFlag | transquantBypassEnabledFlag | tilesEnabledFlag | entropyCodingSyncEnabledFlag
  -- profile_tier_level
  | generalProfileSpace | generalTierFlag | generalProfileIdc | generalProfileCompatibilityFlags
  | generalConstraintFlagsFirst32bits | generalConstraintFlagsLast16bits | generalLevelIdc
  | subLayerProfilePresentFlag | subLayerLevelPresentFlag | reservedZero2bits | subLayerProfileSpace | subLayerTierFlag
  | subLayerProfileIdc | subLayerProfileCompatibilityFlags | subLayerProgressiveSourceFlag | subLayerInterlacedSourceFlag
  | subLayerNonPackedConstraintFlag | subLayerFrameOnlyConstraintFlag | subLayerReservedZero44bits | subLayerLevelIdc
  -- scaling_list_data
  | scalingListPredModeFlag | scalingListPredMatrixIdDelta | scalingListDcCoefMinus8 | scalingListDeltaCoef
  -- st_ref_pic_set
  | interRefPicSetPredictionFlag | deltaRpsSign | absDeltaRpsMinus1 | usedByCurrPicFlag | useDeltaFlag | numNegativePics
  | numPositivePics | deltaPocS0Minus1 | usedByCurrPicS0Flag | deltaPocS1Minus1 | usedByCurrPicS1Flag
  -- vui_parameters
  | aspectRatioInfoPresentFlag | aspectRatioIdc | sarWidth | sarHeight | overscanInfoPresentFlag | overscanAppropriateFlag
  | videoSignalTypePresentFlag | videoFormat | videoFullRangeFlag | colourDescriptionPresentFlag | colourPrimaries
  | transferCharacteristics | matrixCoeffs | chromaLocInfoPresentFlag | chromaSampleLocTypeTopField
  | chromaSampleLocTypeBottomField | neutralChromaIndicationFlag | fieldSeqFlag | frameFieldInfoPresentFlag
  | defaultDisplayWindowFlag | defDispWinLeftOffset | defDispWinRightOffset | defDispWinTopOffset | defDispWinBottomOffset
  | vuiTimingInfoPresentFlag | vuiNumUnitsInTick | vuiTimeScale | vuiPocProportionalToTimingFlag
  | vuiNumTicksPocDiffOneMinus1 | vuiHrdParametersPresentFlag | bitstreamRestrictionFlag | tilesFixedStructureFlag
  | motionVectorsOverPicBoundariesFlag | restrictedRefPicListsFlag | minSpatialSegmentationIdc | maxBytesPerPicDenom
  | maxBitsPerMinCuDenom | log2MaxMvLengthHorizontal | log2MaxMvLengthVertical
  -- hrd_parameters
  | nalHrdParametersPresentFlag | vclHrdParametersPresentFlag | subPicHrdParamsPresentFlag | tickDivisorMinus2
  | duCpbRemovalDelayIncrementLengthMinus1 | subPicCpbParamsInPicTimingSeiFlag | dpbOutputDelayDuLengthMinus1 | bitRateScale
  | cpbSizeScale | cpbSizeDuScale | initialCpbRemovalDelayLengthMinus1 | auCpbRemovalDelayLengthMinus1
  | dpbOutputDelayLengthMinus1 | fixedPicRateGeneralFlag | fixedPicRateWithinCvsFlag | elementalDurationInTcMinus1
  | lowDelayHrdFlag | cpbCntMinus1 | bitRateValueMinus1 | cpbSizeValueMinus1 | cpbSizeDuValueMinus1 | bitRateDuValueMinus1
  | cbrFlag
  deriving DecidableEq, Repr

abbrev HevcCoded : Type := Coded HevcElement

/-! ### profile_tier_level -/

structure SubLayerProfile where
  space : BitVec 2 := 0
  tierFlag : BitVec 1 := 0
  idc : BitVec 5 := 0
  compatibilityFlags : BitVec 32 := 0
  progressiveSourceFlag : BitVec 1 := 0
  interlacedSourceFlag : BitVec 1 := 0
  nonPackedConstraintFlag : BitVec 1 := 0
  frameOnlyConstraintFlag : BitVec 1 := 0
  reservedZero44bits : BitVec 44 := 0

def SubLayerProfile.elements (p : SubLayerProfile) : List HevcCoded :=
  [.u .subLayerProfileSpace p.space, .u .subLayerTierFlag p.tierFlag, .u .subLayerProfileIdc p.idc,
    .u .subLayerProfileCompatibilityFlags p.compatibilityFlags, .u .subLayerProgressiveSourceFlag p.progressiveSourceFlag,
    .u .subLayerInterlacedSourceFlag p.interlacedSourceFlag, .u .subLayerNonPackedConstraintFlag p.nonPackedConstraintFlag,
    .u .subLayerFrameOnlyConstraintFlag p.frameOnlyConstraintFlag, .u .subLayerReservedZero44bits p.reservedZero44bits]

structure SubLayer where
  profile : Option SubLayerProfile := none
  level : Option (BitVec 8) := none

/-- The 48 bits of the constraint flags are one field here. -/
structure ProfileTierLevel where
  profileSpace : BitVec 2 := 0
  tierFlag : Bool := false
  profileIdc : BitVec 5 := 0
  profileCompatibilityFlags : BitVec 32 := 0
  constraintFlags : BitVec 48 := 0
  levelIdc : BitVec 8 := 0
  reservedZero2bits : Nat → BitVec 2 := fun _ => 0
  subLayers : Nat → SubLayer := fun _ => {}

def ProfileTierLevel.elements (p : ProfileTierLevel) (maxSubLayersMinus1 : Nat) : List HevcCoded :=
  ([.u .generalProfileSpace p.profileSpace, .flag .generalTierFlag p.tierFlag, .u .generalProfileIdc p.profileIdc,
    .u .generalProfileCompatibilityFlags p.profileCompatibilityFlags,
    .u .generalConstraintFlagsFirst32bits (p.constraintFlags.extractLsb' 16 32),
    .u .generalConstraintFlagsLast16bits (p.constraintFlags.extractLsb' 0 16), .u .generalLevelIdc p.levelIdc]
      : List HevcCoded) ++
  ((List.range maxSubLayersMinus1).flatMap (fun i =>
    [.flag .subLayerProfilePresentFlag (p.subLayers i).profile.isSome,
      .flag .subLayerLevelPresentFlag (p.subLayers i).level.isSome]) : List HevcCoded) ++
  (if 0 < maxSubLayersMinus1 then
    (List.range' maxSubLayersMinus1 (8 - maxSubLayersMinus1)).flatMap fun i => [.u .reservedZero2bits (p.reservedZero2bits i)]
    else [] : List HevcCoded) ++
  (List.range maxSubLayersMinus1).flatMap fun i =>
    (p.subLayers i).profile.elim [] SubLayerProfile.elements ++ (p.subLayers i).level.elim [] fun v => [.u .subLayerLevelIdc v]

/-! ### scaling_list_data -/

inductive ScalingList where
  | predicted (matrixIdDelta : Ue)
  | coded (dcCoefMinus8 : Se) (deltaCoef : Nat → Se)

def ScalingList.elements (sizeId : Nat) : ScalingList → List HevcCoded
  | predicted matrixIdDelta => [.flag .scalingListPredModeFlag false, .ue .scalingListPredMatrixIdDelta matrixIdDelta]
  | coded dcCoefMinus8 deltaCoef =>
    [.flag .scalingListPredModeFlag true] ++
    (if 1 < sizeId then [.se .scalingListDcCoefMinus8 dcCoefMinus8] else []) ++
    (List.range (min 64 (1 <<< (4 + sizeId <<< 1)))).flatMap fun i => [.se .scalingListDeltaCoef (deltaCoef i)]

/-- `lists sizeId matrixId`; the largest size has every third matrix. -/
def scalingListElements (lists : Nat → Nat → ScalingList) : List HevcCoded :=
  (List.range 4).flatMap fun sizeId => (List.range' 0 (if sizeId = 3 then 2 else 6) (if sizeId = 3 then 3 else 1)).flatMap
    fun matrixId => (lists sizeId matrixId).elements sizeId

/-! ### st_ref_pic_set -/

/-- A set of short-term reference pictures, coded by itself or from the set before it. -/
inductive ShortTermRefPicSet where
  | explicit (numNegativePics numPositivePics : Ue) (s0 s1 : Nat → Ue × Bool)
  | inter (deltaRpsSign : Bool) (absDeltaRpsMinus1 : Ue) (usedByCurrPicFlag useDeltaFlag : Nat → Bool)

namespace ShortTermRefPicSet

def isInter : ShortTermRefPicSet → Bool
  | explicit .. => false
  | inter .. => true

/-- The differences of a list of pictures, each of which is coded from the one before it. -/
def pocs (sign : Int) (s : Nat → Ue × Bool) (count : Nat) : List Int :=
  (List.range count).map fun i => sign * ((List.range (i + 1)).map fun j => ((s j).1.val : Int) + 1).sum

/-- `DeltaPocS0` and `DeltaPocS1` of a set, with those of the set before it. -/
def deltaPocs (ref : List Int × List Int) : ShortTermRefPicSet → List Int × List Int
  | explicit numNegativePics numPositivePics s0 s1 => (pocs (-1) s0 numNegativePics.val, pocs 1 s1 numPositivePics.val)
  | inter deltaRpsSign absDeltaRpsMinus1 usedByCurrPicFlag useDeltaFlag =>
    let deltaRps : Int := (if deltaRpsSign then -1 else 1) * (absDeltaRpsMinus1.val + 1)
    let use (j : Nat) : Bool := usedByCurrPicFlag j || useDeltaFlag j
    let moved (l : List Int) (j : Nat) : List (Int × Bool) := l.zipIdx.map fun d => (d.1 + deltaRps, use (j + d.2))
    let s0 := moved ref.1 0
    let s1 := moved ref.2 ref.1.length
    let last := [(deltaRps, use (ref.1.length + ref.2.length))]
    (((s1.reverse ++ last ++ s0).filter fun d => d.1 < 0 && d.2).map (·.1),
      ((s0.reverse ++ last ++ s1).filter fun d => 0 < d.1 && d.2).map (·.1))

/-- The elements of the set with index `idx`; `numDeltaPocs` is that of the set before it. -/
def elements (idx numDeltaPocs : Nat) (set : ShortTermRefPicSet) : List HevcCoded :=
  (if idx = 0 then [] else [.flag .interRefPicSetPredictionFlag set.isInter]) ++
  match set with
  | explicit numNegativePics numPositivePics s0 s1 =>
    [.ue .numNegativePics numNegativePics, .ue .numPositivePics numPositivePics] ++
    (List.range numNegativePics.val).flatMap (fun i =>
      [.ue .deltaPocS0Minus1 (s0 i).1, .flag .usedByCurrPicS0Flag (s0 i).2]) ++
    (List.range numPositivePics.val).flatMap fun i => [.ue .deltaPocS1Minus1 (s1 i).1, .flag .usedByCurrPicS1Flag (s1 i).2]
  | inter deltaRpsSign absDeltaRpsMinus1 usedByCurrPicFlag useDeltaFlag =>
    [.flag .deltaRpsSign deltaRpsSign, .ue .absDeltaRpsMinus1 absDeltaRpsMinus1] ++
    (List.range (numDeltaPocs + 1)).flatMap fun j =>
      .flag .usedByCurrPicFlag (usedByCurrPicFlag j) ::
        if usedByCurrPicFlag j then [] else [.flag .useDeltaFlag (useDeltaFlag j)]

/-- The elements of the sets from index `idx` on, after a set `ref`. -/
def setsElements (idx : Nat) (ref : List Int × List Int) : List ShortTermRefPicSet → List HevcCoded
  | [] => []
  | set :: sets =>
    set.elements idx (ref.1.length + ref.2.length) ++ setsElements (idx + 1) (set.deltaPocs ref) sets

end ShortTermRefPicSet

/-! ### hrd_parameters -/

structure SubPicHrd where
  tickDivisorMinus2 : BitVec 8 := 0
  duCpbRemovalDelayIncrementLengthMinus1 : BitVec 5 := 0
  cpbParamsInPicTimingSeiFlag : BitVec 1 := 0
  dpbOutputDelayDuLengthMinus1 : BitVec 5 := 0
  cpbSizeDuScale : BitVec 4 := 0

structure Cpb where
  bitRateValueMinus1 : Ue
  cpbSizeValueMinus1 : Ue
  cpbSizeDuValueMinus1 : Ue
  bitRateDuValueMinus1 : Ue
  cbrFlag : BitVec 1

def Cpb.elements (subPic : Bool) (c : Cpb) : List HevcCoded :=
  ([.ue .bitRateValueMinus1 c.bitRateValueMinus1, .ue .cpbSizeValueMinus1 c.cpbSizeValueMinus1] : List HevcCoded) ++
  (if subPic then [.ue .cpbSizeDuValueMinus1 c.cpbSizeDuValueMinus1, .ue .bitRateDuValueMinus1 c.bitRateDuValueMinus1]
    else [] : List HevcCoded) ++
  ([.u .cbrFlag c.cbrFlag] : List HevcCoded)

structure HrdSubLayer where
  fixedPicRateGeneralFlag : Bool
  fixedPicRateWithinCvsFlag : Bool
  elementalDurationInTcMinus1 : Ue
  lowDelayHrdFlag : Bool
  cpbCntMinus1 : Ue
  nal : Nat → Cpb
  vcl : Nat → Cpb

namespace HrdSubLayer

/-- The flag is inferred to be set where the picture rate is fixed in general. -/
def withinCvs (l : HrdSubLayer) : Bool := l.fixedPicRateGeneralFlag || l.fixedPicRateWithinCvsFlag

def lowDelay (l : HrdSubLayer) : Bool := !l.withinCvs && l.lowDelayHrdFlag

def cpbCnt (l : HrdSubLayer) : Nat := if l.lowDelay then 1 else l.cpbCntMinus1.val + 1

def elements (nal vcl subPic : Bool) (l : HrdSubLayer) : List HevcCoded :=
  ([.flag .fixedPicRateGeneralFlag l.fixedPicRateGeneralFlag] : List HevcCoded) ++
  (if l.fixedPicRateGeneralFlag then [] else [.flag .fixedPicRateWithinCvsFlag l.fixedPicRateWithinCvsFlag] : List HevcCoded) ++
  (if l.withinCvs then [.ue .elementalDurationInTcMinus1 l.elementalDurationInTcMinus1]
    else [.flag .lowDelayHrdFlag l.lowDelayHrdFlag] : List HevcCoded) ++
  (if l.lowDelay then [] else [.ue .cpbCntMinus1 l.cpbCntMinus1] : List HevcCoded) ++
  (if nal then (List.range l.cpbCnt).flatMap (fun i => (l.nal i).elements subPic) else [] : List HevcCoded) ++
  (if vcl then (List.range l.cpbCnt).flatMap (fun i => (l.vcl i).elements subPic) else [] : List HevcCoded)

end HrdSubLayer

structure Hrd where
  nal : Bool
  vcl : Bool
  subPic : Option SubPicHrd
  bitRateScale : BitVec 4 := 0
  cpbSizeScale : BitVec 4 := 0
  initialCpbRemovalDelayLengthMinus1 : BitVec 5 := 0
  auCpbRemovalDelayLengthMinus1 : BitVec 5 := 0
  dpbOutputDelayLengthMinus1 : BitVec 5 := 0
  subLayers : Nat → HrdSubLayer

namespace Hrd

/-- There are sub-picture parameters only with those of the NAL or the VCL. -/
def subPicPresent (h : Hrd) : Bool := (h.nal || h.vcl) && h.subPic.isSome

/-- What all sub-layers have in common. -/
def commonElements (h : Hrd) : List HevcCoded :=
  (optional .subPicHrdParamsPresentFlag h.subPic (fun p =>
    [.u .tickDivisorMinus2 p.tickDivisorMinus2,
      .u .duCpbRemovalDelayIncrementLengthMinus1 p.duCpbRemovalDelayIncrementLengthMinus1,
      .u .subPicCpbParamsInPicTimingSeiFlag p.cpbParamsInPicTimingSeiFlag,
      .u .dpbOutputDelayDuLengthMinus1 p.dpbOutputDelayDuLengthMinus1]) : List HevcCoded) ++
  ([.u .bitRateScale h.bitRateScale, .u .cpbSizeScale h.cpbSizeScale] : List HevcCoded) ++
  (h.subPic.elim [] (fun p => [.u .cpbSizeDuScale p.cpbSizeDuScale]) : List HevcCoded) ++
  ([.u .initialCpbRemovalDelayLengthMinus1 h.initialCpbRemovalDelayLengthMinus1,
    .u .auCpbRemovalDelayLengthMinus1 h.auCpbRemovalDelayLengthMinus1,
    .u .dpbOutputDelayLengthMinus1 h.dpbOutputDelayLengthMinus1] : List HevcCoded)

def elements (maxSubLayersMinus1 : Nat) (h : Hrd) : List HevcCoded :=
  ([.flag .nalHrdParametersPresentFlag h.nal, .flag .vclHrdParametersPresentFlag h.vcl] : List HevcCoded) ++
  (if h.nal || h.vcl then h.commonElements else [] : List HevcCoded) ++
  (List.range (maxSubLayersMinus1 + 1)).flatMap fun i => (h.subLayers i).elements h.nal h.vcl h.subPicPresent

end Hrd

/-! ### vui_parameters -/

/-- Four offsets. -/
structure Window where
  left : Ue
  right : Ue
  top : Ue
  bottom : Ue

structure VideoSignal where
  videoFormat : BitVec 3
  videoFullRangeFlag : BitVec 1
  /-- The primaries, the transfer characteristics and the matrix. -/
  colour : Option (BitVec 8 × BitVec 8 × BitVec 8)

structure VuiTiming where
  numUnitsInTick : BitVec 32
  timeScale : BitVec 32
  numTicksPocDiffOneMinus1 : Option Ue
  hrd : Option Hrd

structure BitstreamRestriction where
  tilesFixedStructureFlag : BitVec 1
  motionVectorsOverPicBoundariesFlag : BitVec 1
  restrictedRefPicListsFlag : BitVec 1
  minSpatialSegmentationIdc : Ue
  maxBytesPerPicDenom : Ue
  maxBitsPerMinCuDenom : Ue
  log2MaxMvLengthHorizontal : Ue
  log2MaxMvLengthVertical : Ue

structure Vui where
  /-- The index, with the width and the height of a sample for index 255. -/
  aspectRatio : Option (BitVec 8 × BitVec 16 × BitVec 16) := none
  overscanAppropriateFlag : Option (BitVec 1) := none
  videoSignal : Option VideoSignal := none
  chromaLoc : Option (Ue × Ue) := none
  neutralChromaIndicationFlag : BitVec 1 := 0
  fieldSeqFlag : BitVec 1 := 0
  frameFieldInfoPresentFlag : BitVec 1 := 0
  defaultDisplayWindow : Option Window := none
  timing : Option VuiTiming := none
  bitstreamRestriction : Option BitstreamRestriction := none

namespace Vui

def aspectRatioElements (v : Vui) : List HevcCoded :=
  optional .aspectRatioInfoPresentFlag v.aspectRatio fun a =>
    .u .aspectRatioIdc a.1 :: if a.1 = 255 then [.u .sarWidth a.2.1, .u .sarHeight a.2.2] else []

def videoSignalElements (v : Vui) : List HevcCoded :=
  optional .videoSignalTypePresentFlag v.videoSignal fun p =>
    [.u .videoFormat p.videoFormat, .u .videoFullRangeFlag p.videoFullRangeFlag] ++
      optional .colourDescriptionPresentFlag p.colour fun c =>
        [.u .colourPrimaries c.1, .u .transferCharacteristics c.2.1, .u .matrixCoeffs c.2.2]

def timingElements (maxSubLayersMinus1 : Nat) (v : Vui) : List HevcCoded :=
  optional .vuiTimingInfoPresentFlag v.timing fun t =>
    [.u .vuiNumUnitsInTick t.numUnitsInTick, .u .vuiTimeScale t.timeScale] ++
      optional .vuiPocProportionalToTimingFlag t.numTicksPocDiffOneMinus1 (fun n => [.ue .vuiNumTicksPocDiffOneMinus1 n]) ++
      optional .vuiHrdParametersPresentFlag t.hrd (Hrd.elements maxSubLayersMinus1)

def restrictionElements (v : Vui) : List HevcCoded :=
  optional .bitstreamRestrictionFlag v.bitstreamRestriction fun b =>
    [.u .tilesFixedStructureFlag b.tilesFixedStructureFlag,
      .u .motionVectorsOverPicBoundariesFlag b.motionVectorsOverPicBoundariesFlag,
      .u .restrictedRefPicListsFlag b.restrictedRefPicListsFlag, .ue .minSpatialSegmentationIdc b.minSpatialSegmentationIdc,
      .ue .maxBytesPerPicDenom b.maxBytesPerPicDenom, .ue .maxBitsPerMinCuDenom b.maxBitsPerMinCuDenom,
      .ue .log2MaxMvLengthHorizontal b.log2MaxMvLengthHorizontal, .ue .log2MaxMvLengthVertical b.log2MaxMvLengthVertical]

def elements (maxSubLayersMinus1 : Nat) (v : Vui) : List HevcCoded :=
  v.aspectRatioElements ++
  ((optional .overscanInfoPresentFlag v.overscanAppropriateFlag (fun b => [.u .overscanAppropriateFlag b]) : List HevcCoded) ++
  (v.videoSignalElements ++
  ((optional .chromaLocInfoPresentFlag v.chromaLoc (fun c =>
    [.ue .chromaSampleLocTypeTopField c.1, .ue .chromaSampleLocTypeBottomField c.2]) : List HevcCoded) ++
  (([.u .neutralChromaIndicationFlag v.neutralChromaIndicationFlag, .u .fieldSeqFlag v.fieldSeqFlag,
    .u .frameFieldInfoPresentFlag v.frameFieldInfoPresentFlag] : List HevcCoded) ++
  ((optional .defaultDisplayWindowFlag v.defaultDisplayWindow (fun w =>
    [.ue .defDispWinLeftOffset w.left, .ue .defDispWinRightOffset w.right, .ue .defDispWinTopOffset w.top,
      .ue .defDispWinBottomOffset w.bottom]) : List HevcCoded) ++
  (v.timingElements maxSubLayersMinus1 ++ v.restrictionElements))))))

end Vui

/-! ### seq_parameter_set_rbsp -/

structure OrderingInfo where
  maxDecPicBufferingMinus1 : Ue
  maxNumReorderPics : Ue
  maxLatencyIncreasePlus1 : Ue

structure Pcm where
  sampleBitDepthLumaMinus1 : BitVec 4
  sampleBitDepthChromaMinus1 : BitVec 4
  log2MinLumaCodingBlockSizeMinus3 : Ue
  log2DiffMaxMinLumaCodingBlockSize : Ue
  loopFilterDisabledFlag : BitVec 1

/-- A sequence parameter set up to its VUI. -/
structure Sps where
  videoParameterSetId : BitVec 4
  maxSubLayersMinus1 : Fin 7
  temporalIdNestingFlag : Bool
  profileTierLevel : ProfileTierLevel
  seqParameterSetId : Ue
  chromaFormatIdc : Ue
  separateColourPlaneFlag : BitVec 1
  picWidthInLumaSamples : Ue
  picHeightInLumaSamples : Ue
  conformanceWindow : Option Window
  bitDepthLumaMinus8 : Ue
  bitDepthChromaMinus8 : Ue
  log2MaxPicOrderCntLsbMinus4 : Ue
  subLayerOrderingInfoPresentFlag : Bool
  orderingInfo : Nat → OrderingInfo
  log2MinLumaCodingBlockSizeMinus3 : Ue
  log2DiffMaxMinLumaCodingBlockSize : Ue
  log2MinLumaTransformBlockSizeMinus2 : Ue
  log2DiffMaxMinLumaTransformBlockSize : Ue
  maxTransformHierarchyDepthInter : Ue
  maxTransformHierarchyDepthIntra : Ue
  /-- With a flag for the lists, and with lists. -/
  scalingLists : Option (Option (Nat → Nat → ScalingList))
  ampEnabledFlag : BitVec 1
  sampleAdaptiveOffsetEnabledFlag : BitVec 1
  pcm : Option Pcm
  shortTermRefPicSets : List ShortTermRefPicSet
  shortTerm_le : shortTermRefPicSets.length ≤ 64
  /-- There is no set before the first one. -/
  first_explicit : ∀ set, shortTermRefPicSets.head? = some set → set.isInter = false
  longTermRefPics : Option (Ue × (Nat → Nat × BitVec 1))
  temporalMvpEnabledFlag : BitVec 1
  strongIntraSmoothingEnabledFlag : BitVec 1
  vui : Option Vui

namespace Sps

def orderingElements (p : Sps) : List HevcCoded :=
  let first := if p.subLayerOrderingInfoPresentFlag then 0 else p.maxSubLayersMinus1.val
  .flag .spsSubLayerOrderingInfoPresentFlag p.subLayerOrderingInfoPresentFlag ::
  (List.range' first (p.maxSubLayersMinus1.val + 1 - first)).flatMap fun i =>
    [.ue .spsMaxDecPicBufferingMinus1 (p.orderingInfo i).maxDecPicBufferingMinus1,
      .ue .spsMaxNumReorderPics (p.orderingInfo i).maxNumReorderPics,
      .ue .spsMaxLatencyIncreasePlus1 (p.orderingInfo i).maxLatencyIncreasePlus1]

def pcmElements (p : Sps) : List HevcCoded :=
  optional .pcmEnabledFlag p.pcm fun q =>
    [.u .pcmSampleBitDepthLumaMinus1 q.sampleBitDepthLumaMinus1, .u .pcmSampleBitDepthChromaMinus1 q.sampleBitDepthChromaMinus1,
      .ue .log2MinPcmLumaCodingBlockSizeMinus3 q.log2MinLumaCodingBlockSizeMinus3,
      .ue .log2DiffMaxMinPcmLumaCodingBlockSize q.log2DiffMaxMinLumaCodingBlockSize,
      .u .pcmLoopFilterDisabledFlag q.loopFilterDisabledFlag]

/-- The elements from the id to the depths. -/
def pictureElements (p : Sps) : List HevcCoded :=
  ([.ue .spsSeqParameterSetId p.seqParameterSetId, .ue .chromaFormatIdc p.chromaFormatIdc] : List HevcCoded) ++
  ((if p.chromaFormatIdc.val = 3 then [.u .separateColourPlaneFlag p.separateColourPlaneFlag] else [] : List HevcCoded) ++
  (([.ue .picWidthInLumaSamples p.picWidthInLumaSamples, .ue .picHeightInLumaSamples p.picHeightInLumaSamples]
    : List HevcCoded) ++
  ((optional .conformanceWindowFlag p.conformanceWindow (fun w =>
    [.ue .confWinLeftOffset w.left, .ue .confWinRightOffset w.right, .ue .confWinTopOffset w.top,
      .ue .confWinBottomOffset w.bottom]) : List HevcCoded) ++
  ([.ue .bitDepthLumaMinus8 p.bitDepthLumaMinus8, .ue .bitDepthChromaMinus8 p.bitDepthChromaMinus8] : List HevcCoded))))

/-- The elements up to the depths. -/
def headElements (p : Sps) : List HevcCoded :=
  ([.u .spsVideoParameterSetId p.videoParameterSetId, .u .spsMaxSubLayersMinus1 (BitVec.ofNat 3 p.maxSubLayersMinus1.val),
    .flag .spsTemporalIdNestingFlag p.temporalIdNestingFlag] : List HevcCoded) ++
  (p.profileTierLevel.elements p.maxSubLayersMinus1.val ++ p.pictureElements)

/-- The elements from the depths to the sets of reference pictures. -/
def codingElements (p : Sps) : List HevcCoded :=
  ([.ue .log2MaxPicOrderCntLsbMinus4 p.log2MaxPicOrderCntLsbMinus4] : List HevcCoded) ++
  (p.orderingElements ++
  (([.ue .log2MinLumaCodingBlockSizeMinus3 p.log2MinLumaCodingBlockSizeMinus3,
    .ue .log2DiffMaxMinLumaCodingBlockSize p.log2DiffMaxMinLumaCodingBlockSize,
    .ue .log2MinLumaTransformBlockSizeMinus2 p.log2MinLumaTransformBlockSizeMinus2,
    .ue .log2DiffMaxMinLumaTransformBlockSize p.log2DiffMaxMinLumaTransformBlockSize,
    .ue .maxTransformHierarchyDepthInter p.maxTransformHierarchyDepthInter,
    .ue .maxTransformHierarchyDepthIntra p.maxTransformHierarchyDepthIntra] : List HevcCoded) ++
  ((optional .scalingListEnabledFlag p.scalingLists (fun data =>
    optional .spsScalingListDataPresentFlag data scalingListElements) : List HevcCoded) ++
  (([.u .ampEnabledFlag p.ampEnabledFlag, .u .sampleAdaptiveOffsetEnabledFlag p.sampleAdaptiveOffsetEnabledFlag]
    : List HevcCoded) ++
  p.pcmElements))))

theorem numShortTermRefPicSets_lt (p : Sps) : p.shortTermRefPicSets.length + 1 < 2 ^ 32 :=
  Nat.lt_of_le_of_lt (Nat.succ_le_succ p.shortTerm_le) (by decide)

def shortTermElements (p : Sps) : List HevcCoded :=
  .ue .numShortTermRefPicSets ⟨p.shortTermRefPicSets.length, p.numShortTermRefPicSets_lt⟩ ::
    ShortTermRefPicSet.setsElements 0 ([], []) p.shortTermRefPicSets

def longTermElements (p : Sps) : List HevcCoded :=
  optional .longTermRefPicsPresentFlag p.longTermRefPics fun l =>
    .ue .numLongTermRefPicsSps l.1 ::
    (List.range l.1.val).flatMap fun i =>
      [⟨.ltRefPicPocLsbSps, .u (p.log2MaxPicOrderCntLsbMinus4.val + 4), (l.2 i).1⟩, .u .usedByCurrPicLtSpsFlag (l.2 i).2]

def vuiElements (p : Sps) : List HevcCoded :=
  ([.u .spsTemporalMvpEnabledFlag p.temporalMvpEnabledFlag,
    .u .strongIntraSmoothingEnabledFlag p.strongIntraSmoothingEnabledFlag] : List HevcCoded) ++
  (optional .vuiParametersPresentFlag p.vui (Vui.elements p.maxSubLayersMinus1.val) : List HevcCoded)

def elements (p : Sps) : List HevcCoded :=
  p.headElements ++ (p.codingElements ++ (p.shortTermElements ++ (p.longTermElements ++ p.vuiElements)))

end Sps
/-! ### video_parameter_set_rbsp -/

/-- A video parameter set up to its profile, tier and level. -/
structure Vps where
  videoParameterSetId : BitVec 4
  reservedThree2bits : BitVec 2
  maxLayersMinus1 : BitVec 6
  maxSubLayersMinus1 : Fin 7
  temporalIdNestingFlag : BitVec 1
  reserved0xffff16bits : BitVec 16
  profileTierLevel : ProfileTierLevel

def Vps.elements (p : Vps) : List HevcCoded :=
  ([.u .vpsVideoParameterSetId p.videoParameterSetId, .u .vpsReservedThree2bits p.reservedThree2bits,
    .u .vpsMaxLayersMinus1 p.maxLayersMinus1, .u .vpsMaxSubLayersMinus1 (BitVec.ofNat 3 p.maxSubLayersMinus1.val),
    .u .vpsTemporalIdNestingFlag p.temporalIdNestingFlag, .u .vpsReserved0xffff16bits p.reserved0xffff16bits] : List HevcCoded) ++
  p.profileTierLevel.elements p.maxSubLayersMinus1.val

/-! ### pic_parameter_set_rbsp -/

/-- A picture parameter set up to the flags for parallel decoding. -/
structure Pps where
  picParameterSetId : Ue
  seqParameterSetId : Ue
  dependentSliceSegmentsEnabledFlag : BitVec 1
  outputFlagPresentFlag : BitVec 1
  numExtraSliceHeaderBits : BitVec 3
  signDataHidingEnabledFlag : BitVec 1
  cabacInitPresentFlag : BitVec 1
  numRefIdxL0DefaultActiveMinus1 : Ue
  numRefIdxL1DefaultActiveMinus1 : Ue
  initQpMinus26 : Se
  constrainedIntraPredFlag : BitVec 1
  transformSkipEnabledFlag : BitVec 1
  diffCuQpDeltaDepth : Option Ue
  cbQpOffset : Se
  crQpOffset : Se
  sliceChromaQpOffsetsPresentFlag : BitVec 1
  weightedPredFlag : BitVec 1
  weightedBipredFlag : BitVec 1
  transquantBypassEnabledFlag : BitVec 1
  tilesEnabledFlag : Bool
  entropyCodingSyncEnabledFlag : Bool

/-- The elements in front of `init_qp_minus26`. -/
def Pps.headElements (p : Pps) : List HevcCoded :=
  [.ue .ppsPicParameterSetId p.picParameterSetId, .ue .ppsSeqParameterSetId p.seqParameterSetId,
    .u .dependentSliceSegmentsEnabledFlag p.dependentSliceSegmentsEnabledFlag,
    .u .outputFlagPresentFlag p.outputFlagPresentFlag, .u .numExtraSliceHeaderBits p.numExtraSliceHeaderBits,
    .u .signDataHidingEnabledFlag p.signDataHidingEnabledFlag, .u .cabacInitPresentFlag p.cabacInitPresentFlag,
    .ue .numRefIdxL0DefaultActiveMinus1 p.numRefIdxL0DefaultActiveMinus1,
    .ue .numRefIdxL1DefaultActiveMinus1 p.numRefIdxL1DefaultActiveMinus1]

/-- The elements behind it. -/
def Pps.tailElements (p : Pps) : List HevcCoded :=
  ([.u .constrainedIntraPredFlag p.constrainedIntraPredFlag, .u .transformSkipEnabledFlag p.transformSkipEnabledFlag]
    : List HevcCoded) ++
  ((optional .cuQpDeltaEnabledFlag p.diffCuQpDeltaDepth (fun d => [.ue .diffCuQpDeltaDepth d]) : List HevcCoded) ++
  ([.se .ppsCbQpOffset p.cbQpOffset, .se .ppsCrQpOffset p.crQpOffset,
    .u .ppsSliceChromaQpOffsetsPresentFlag p.sliceChromaQpOffsetsPresentFlag, .u .weightedPredFlag p.weightedPredFlag,
    .u .weightedBipredFlag p.weightedBipredFlag, .u .transquantBypassEnabledFlag p.transquantBypassEnabledFlag,
    .flag .tilesEnabledFlag p.tilesEnabledFlag, .flag .entropyCodingSyncEnabledFlag p.entropyCodingSyncEnabledFlag]
      : List HevcCoded))

def Pps.elements (p : Pps) : List HevcCoded :=
  p.headElements ++ (.se .initQpMinus26 p.initQpMinus26 :: p.tailElements)

end BcmPlatform.Lib

/-! ### The decoder configuration record -/

namespace BcmPlatform.Lib

/-- The NAL units of one type. -/
structure NalArray where
  arrayCompleteness : Nat
  nalUnitType : Nat
  nalUnits : List (List UInt8)
  deriving DecidableEq, Repr

structure HevcConfig where
  configurationVersion : Nat
  generalProfileSpace : Nat
  generalTierFlag : Nat
  generalProfileIdc : Nat
  generalProfileCompatibilityFlags : Nat
  generalConstraintIndicatorFlags : Nat
  generalLevelIdc : Nat
  minSpatialSegmentationIdc : Nat
  parallelismType : Nat
  chromaFormat : Nat
  bitDepthLumaMinus8 : Nat
  bitDepthChromaMinus8 : Nat
  avgFrameRate : Nat
  constantFrameRate : Nat
  numTemporalLayers : Nat
  temporalIdNested : Nat
  lengthSizeMinusOne : Nat
  arrays : List NalArray
  deriving DecidableEq, Repr

namespace HevcConfig

/-- NAL units, each behind its length, and the bytes behind them. -/
def decodeNalUnits : Nat → List UInt8 → Option (List (List UInt8) × List UInt8)
  | 0, l => some ([], l)
  | count + 1, a :: b :: l =>
    if beValue [a, b] ≤ l.length then
      (decodeNalUnits count (l.drop (beValue [a, b]))).map fun p => (l.take (beValue [a, b]) :: p.1, p.2)
    else none
  | _ + 1, _ => none

def decodeArrays : Nat → List UInt8 → Option (List NalArray × List UInt8)
  | 0, l => some ([], l)
  | count + 1, t :: a :: b :: l =>
    (decodeNalUnits (beValue [a, b]) l).bind fun p => (decodeArrays count p.2).map fun q =>
      ({ arrayCompleteness := bitField 7 7 t.toNat, nalUnitType := bitField 5 0 t.toNat, nalUnits := p.1 } :: q.1, q.2)
  | _ + 1, _ => none

/-- The record, which has no bytes behind it. -/
def decode (record : List UInt8) : Option HevcConfig :=
  if record.length < 23 then none
  else
    let byte (i : Nat) : Nat := (record.getD i 0).toNat
    let number (i k : Nat) : Nat := beValue ((record.drop i).take k)
    (decodeArrays (byte 22) (record.drop 23)).bind fun p =>
      if p.2 = [] then some {
        configurationVersion := byte 0
        generalProfileSpace := bitField 7 6 (byte 1)
        generalTierFlag := bitField 5 5 (byte 1)
        generalProfileIdc := bitField 4 0 (byte 1)
        generalProfileCompatibilityFlags := number 2 4
        generalConstraintIndicatorFlags := number 6 6
        generalLevelIdc := byte 12
        minSpatialSegmentationIdc := bitField 11 0 (number 13 2)
        parallelismType := bitField 1 0 (byte 15)
        chromaFormat := bitField 1 0 (byte 16)
        bitDepthLumaMinus8 := bitField 2 0 (byte 17)
        bitDepthChromaMinus8 := bitField 2 0 (byte 18)
        avgFrameRate := number 19 2
        constantFrameRate := bitField 7 6 (byte 21)
        numTemporalLayers := bitField 5 3 (byte 21)
        temporalIdNested := bitField 2 2 (byte 21)
        lengthSizeMinusOne := bitField 1 0 (byte 21)
        arrays := p.1 }
      else none

/-- The bytes of an array with one NAL unit. -/
def arrayBytes (nalUnitType : Nat) (nal : List UInt8) : List UInt8 :=
  UInt8.ofNat nalUnitType :: beBytes 2 1 ++ (beBytes 2 nal.length ++ nal)

theorem decodeArrays_arrayBytes {nalUnitType count : Nat} {nal : List UInt8} (htype : nalUnitType < 64)
    (hlength : nal.length < 65536) (l : List UInt8) :
    decodeArrays (count + 1) (arrayBytes nalUnitType nal ++ l) = (decodeArrays count l).map fun q =>
      ({ arrayCompleteness := 0, nalUnitType, nalUnits := [nal] } :: q.1, q.2) := by
  have hone : beValue (beBytes 2 1) = 1 := beValue_beBytes (by decide)
  have hnal : beValue (beBytes 2 nal.length) = nal.length := beValue_beBytes hlength
  have hpair (v : Nat) : beBytes 2 v = [UInt8.ofNat (v / 256), UInt8.ofNat v] := rfl
  have hunits : decodeNalUnits 1 (beBytes 2 nal.length ++ (nal ++ l)) = some ([nal], l) := by
    rw [hpair] at hnal ⊢
    rw [List.cons_append, List.cons_append, List.nil_append, decodeNalUnits, hnal, if_pos (by rw [List.length_append]; omega),
      List.drop_left' rfl, List.take_left' rfl]
    rfl
  have htoNat : (UInt8.ofNat nalUnitType).toNat = nalUnitType := by
    rw [UInt8.toNat_ofNat']
    exact Nat.mod_eq_of_lt (Nat.lt_trans htype (by decide))
  rw [hpair] at hone
  rw [arrayBytes, hpair 1]
  simp only [List.cons_append, List.nil_append, List.append_assoc]
  have hcompleteness : bitField 7 7 nalUnitType = 0 := by
    rw [bitField, Nat.div_eq_of_lt (Nat.lt_trans htype (by decide))]
    rfl
  have hfield : bitField 5 0 nalUnitType = nalUnitType := by
    rw [bitField, Nat.pow_zero, Nat.div_one]
    exact Nat.mod_eq_of_lt htype
  rw [decodeArrays, hone, hunits, Option.bind_some, htoNat, hcompleteness, hfield]

end HevcConfig
end BcmPlatform.Lib
