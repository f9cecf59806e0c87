import BcmPlatform.Bomx.Omx
import BcmPlatform.Hevc.Rbsp
import BcmPlatform.Lib.HevcSyntax

/-! The parsers of the HEVC parameter sets. `ABitReader` with `parseUE` is a parameter; each call names the syntax elements
    that it is for. -/

namespace BcmPlatform.Hevc
open Lib Parse

def maxSubLayers : Nat := 7

def maxShortTermRpsCount : Nat := 64

def maxSpatialSegmentation : Nat := 4096

/-- `hevc_nal_info` -/
structure HevcNalInfo where
  generalProfileSpace : Nat := 0
  generalTierFlag : Nat := 0
  generalProfileIdc : Nat := 0
  generalProfileCompatibilityFlags : Nat := 0
  generalConstraintIndicatorFlags : Nat := 0
  generalLevelIdc : Nat := 0
  minSpatialSegmentationIdc : Nat := 0
  parallelismType : Nat := 0
  chromaFormat : Nat := 0
  picWidthInLumaSamples : Int := 0
  picHeightInLumaSamples : Int := 0
  bitDepthLumaMinus8 : Nat := 0
  bitDepthChromaMinus8 : Nat := 0
  avgFrameRate : Nat := 0
  constantFrameRate : Nat := 0
  numTemporalLayers : Nat := 0
  temporalIdNestingFlag : Nat := 0
  deriving DecidableEq, Repr

/-- The conversion of an `unsigned` to `int32_t`. -/
def toInt32 (v : Nat) : Int := if v < 2147483648 then v else v - 4294967296

variable {σ : Type} (r : BitReader σ)

/-- What is read of the parameter sets. -/
abbrev HevcParse (σ α : Type) : Type := Parse HevcElement σ α

/-- What `parseSE` returns for a code. -/
def seValue (codeNum : Nat) : Int :=
  if codeNum % 2 = 1 then ((codeNum + 1) % Bomx.u32 / 2 : Nat) else -((codeNum / 2 : Nat) : Int)

def parseSe (element : HevcElement) : HevcParse σ Int := do
  let codeNum ← expGolomb r .se element
  return seValue codeNum

/-! ### Parts of the SPS -/

def scalingList (i : Nat) : HevcParse σ Unit := do
  let mode ← getBits r .scalingListPredModeFlag 1
  if mode = 0 then skipUEs r [.scalingListPredMatrixIdDelta]
  else do
    ifSet (i > 1) (do
      let _ ← parseSe r .scalingListDcCoefMinus8)
    loop (fun _ => do
      let _ ← parseSe r .scalingListDeltaCoef) 0 (min 64 (1 <<< (4 + i <<< 1)))

def skipScalingListData : HevcParse σ Unit := loop (fun i => loop (fun _ => scalingList r i) 0 (if i = 3 then 2 else 6)) 0 4

/-- The part of `SkipHRDParameters` in front of its loop: the three flags. -/
def hrdFlags (cprmsPresentFlag : Bool) : HevcParse σ (Nat × Nat × Nat) :=
  if cprmsPresentFlag then do
    let nal ← getBits r .nalHrdParametersPresentFlag 1
    let vcl ← getBits r .vclHrdParametersPresentFlag 1
    if nal ≠ 0 ∨ vcl ≠ 0 then do
      let subPic ← getBits r .subPicHrdParamsPresentFlag 1
      ifSet (subPic ≠ 0) (skipBits r [(.tickDivisorMinus2, 8), (.duCpbRemovalDelayIncrementLengthMinus1, 5),
        (.subPicCpbParamsInPicTimingSeiFlag, 1), (.dpbOutputDelayDuLengthMinus1, 5)])
      skipBits r [(.bitRateScale, 4), (.cpbSizeScale, 4)]
      ifSet (subPic ≠ 0) (skipBits r [(.cpbSizeDuScale, 4)])
      skipBits r [(.initialCpbRemovalDelayLengthMinus1, 5), (.auCpbRemovalDelayLengthMinus1, 5),
        (.dpbOutputDelayLengthMinus1, 5)]
      return (nal, vcl, subPic)
    else return (nal, vcl, 0)
  else return (0, 0, 0)

def cpb (subPic : Nat) : HevcParse σ Unit := do
  skipUEs r [.bitRateValueMinus1, .cpbSizeValueMinus1]
  ifSet (subPic ≠ 0) (skipUEs r [.cpbSizeDuValueMinus1, .bitRateDuValueMinus1])
  skipBits r [(.cbrFlag, 1)]

/-- An iteration of the loop over the sub-layers. `fixed_pic_rate_within_cvs_flag` is 0 where it is not read. -/
def hrdSubLayer (nal vcl subPic : Nat) : HevcParse σ Unit := do
  let general ← getBits r .fixedPicRateGeneralFlag 1
  let within ← (if general = 0 then getBits r .fixedPicRateWithinCvsFlag 1 else pure 0 : HevcParse σ Nat)
  let lowDelay ← (if within ≠ 0 then do
      skipUEs r [.elementalDurationInTcMinus1]
      return 0
    else getBits r .lowDelayHrdFlag 1 : HevcParse σ Nat)
  let cpbCntMinus1 ← (if lowDelay = 0 then parseUE r .cpbCntMinus1 else pure 0 : HevcParse σ Nat)
  ifSet (nal ≠ 0) (loop (fun _ => cpb r subPic) 0 (cpbCntMinus1 + 1))
  ifSet (vcl ≠ 0) (loop (fun _ => cpb r subPic) 0 (cpbCntMinus1 + 1))

def skipHrdParameters (cprmsPresentFlag : Bool) (maxSubLayersMinus1 : Nat) : HevcParse σ Unit := do
  let (nal, vcl, subPic) ← hrdFlags r cprmsPresentFlag
  loop (fun _ => hrdSubLayer r nal vcl subPic) 0 (maxSubLayersMinus1 + 1)

/-- How the fields of `ParseGeneralInfo` are merged into the info. The first 32 bits of the constraint flags are shifted
    within an `unsigned`. -/
def HevcNalInfo.merge (info : HevcNalInfo) (profileSpace tierFlag profileIdc compatibilityFlags first last levelIdc : Nat) :
    HevcNalInfo :=
  { info with
    generalProfileSpace := profileSpace
    generalLevelIdc := if info.generalTierFlag < tierFlag then levelIdc else max info.generalLevelIdc levelIdc
    generalTierFlag := max info.generalTierFlag tierFlag
    generalProfileIdc := max info.generalProfileIdc profileIdc
    generalProfileCompatibilityFlags := info.generalProfileCompatibilityFlags &&& compatibilityFlags
    generalConstraintIndicatorFlags :=
      info.generalConstraintIndicatorFlags &&& ((first <<< 16) % Bomx.u32 ||| (last &&& 0xFFFF)) }

def subLayer (profilePresentFlag levelPresentFlag : Nat) : HevcParse σ Unit := do
  ifSet (profilePresentFlag ≠ 0) (do
    skipBits r [(.subLayerProfileSpace, 2), (.subLayerTierFlag, 1), (.subLayerProfileIdc, 5)]
    skipBits r [(.subLayerProfileCompatibilityFlags, 32)]
    skipBits r [(.subLayerProgressiveSourceFlag, 1), (.subLayerInterlacedSourceFlag, 1), (.subLayerNonPackedConstraintFlag, 1),
      (.subLayerFrameOnlyConstraintFlag, 1)]
    skipBits r [(.subLayerReservedZero44bits, 44)])
  ifSet (levelPresentFlag ≠ 0) (skipBits r [(.subLayerLevelIdc, 8)])

def parseGeneralInfo (info : HevcNalInfo) (maxSubLayersMinus1 : Nat) : HevcParse σ HevcNalInfo := do
  let profileSpace ← getBits r .generalProfileSpace 2
  let tierFlag ← getBits r .generalTierFlag 1
  let profileIdc ← getBits r .generalProfileIdc 5
  let compatibilityFlags ← getBits r .generalProfileCompatibilityFlags 32
  let first ← getBits r .generalConstraintFlagsFirst32bits 32
  let last ← getBits r .generalConstraintFlagsLast16bits 16
  let levelIdc ← getBits r .generalLevelIdc 8
  let present ← collect (fun _ => do
    let profile ← getBits r .subLayerProfilePresentFlag 1
    let level ← getBits r .subLayerLevelPresentFlag 1
    return (profile, level)) 0 maxSubLayersMinus1
  ifSet (maxSubLayersMinus1 > 0) (loop (fun _ => skipBits r [(.reservedZero2bits, 2)]) maxSubLayersMinus1 (8 - maxSubLayersMinus1))
  loop (fun i => subLayer r (present.getD i (0, 0)).1 (present.getD i (0, 0)).2) 0 maxSubLayersMinus1
  return info.merge profileSpace tierFlag profileIdc compatibilityFlags first last levelIdc

/-- `ParseSPSRps`: what it returns, and `num_delta_pocs`. -/
def parseSpsRps (rpsIdx numRps : Nat) (numDeltaPocs : Nat → Nat) : HevcParse σ (Nat × (Nat → Nat)) := do
  let inter ← (if rpsIdx ≠ 0 then getBits r .interRefPicSetPredictionFlag 1 else pure 0 : HevcParse σ Nat)
  if inter ≠ 0 then
    if rpsIdx ≥ numRps then return (1, numDeltaPocs)
    else do
      let _ ← getBits r .deltaRpsSign 1
      skipUEs r [.absDeltaRpsMinus1]
      let used ← collect (fun _ => do
        let used ← getBits r .usedByCurrPicFlag 1
        let use ← (if used = 0 then getBits r .useDeltaFlag 1 else pure 0 : HevcParse σ Nat)
        return decide (used ≠ 0 ∨ use ≠ 0)) 0 (numDeltaPocs (rpsIdx - 1))
      return (0, Function.update numDeltaPocs rpsIdx (used.count true))
  else do
    let numNegativePics ← parseUE r .numNegativePics
    let numPositivePics ← parseUE r .numPositivePics
    loop (fun _ => do
      skipUEs r [.deltaPocS0Minus1]
      let _ ← getBits r .usedByCurrPicS0Flag 1) 0 numNegativePics
    loop (fun _ => do
      skipUEs r [.deltaPocS1Minus1]
      let _ ← getBits r .usedByCurrPicS1Flag 1) 0 numPositivePics
    return (0, Function.update numDeltaPocs rpsIdx ((numNegativePics + numPositivePics) % Bomx.u32))

/-- The loop over the sets, from `i` on: whether it ends with an error. -/
def parseSets (numRps : Nat) : Nat → Nat → (Nat → Nat) → HevcParse σ Nat
  | _, 0, _ => pure 0
  | i, count + 1, numDeltaPocs => do
    let (error, numDeltaPocs) ← parseSpsRps r i numRps numDeltaPocs
    if error ≠ 0 then return error else parseSets numRps (i + 1) count numDeltaPocs

/-- The loop over the long-term reference pictures, which reads the number again in each test. A test takes a bit or more, so
    that there are no more tests than bits. -/
def longTermLoop : Nat → Nat → HevcParse σ Unit
  | 0, _ => fail
  | fuel + 1, i => do
    let num ← parseUE r .numLongTermRefPicsSps
    if i < num then do
      skipUEs r [.ltRefPicPocLsbSps]
      skipBits r [(.usedByCurrPicLtSpsFlag, 1)]
      longTermLoop fuel (i + 1)
    else return ()

def longTermRefPics : HevcParse σ Unit := fun s => longTermLoop r (r.numBitsLeft s + 1) 0 s

/-! ### VUI -/

def vuiTiming (maxSubLayersMinus1 : Nat) : HevcParse σ Unit := ifFlag r .vuiTimingInfoPresentFlag do
  skipBits r [(.vuiNumUnitsInTick, 32)]
  skipBits r [(.vuiTimeScale, 32)]
  ifFlag r .vuiPocProportionalToTimingFlag (skipUEs r [.vuiNumTicksPocDiffOneMinus1])
  ifFlag r .vuiHrdParametersPresentFlag (skipHrdParameters r true maxSubLayersMinus1)

def vuiRestriction (info : HevcNalInfo) : HevcParse σ HevcNalInfo := do
  let flag ← getBits r .bitstreamRestrictionFlag 1
  if flag ≠ 0 then do
    skipBits r [(.tilesFixedStructureFlag, 1), (.motionVectorsOverPicBoundariesFlag, 1), (.restrictedRefPicListsFlag, 1)]
    let minSpatialSegmentationIdc ← parseUE r .minSpatialSegmentationIdc
    skipUEs r [.maxBytesPerPicDenom, .maxBitsPerMinCuDenom, .log2MaxMvLengthHorizontal, .log2MaxMvLengthVertical]
    return { info with minSpatialSegmentationIdc := min info.minSpatialSegmentationIdc minSpatialSegmentationIdc }
  else return info

def vuiParameters (maxSubLayersMinus1 : Nat) (info : HevcNalInfo) : HevcParse σ HevcNalInfo := do
  let flag ← getBits r .vuiParametersPresentFlag 1
  if flag ≠ 0 then do
    ifFlag r .aspectRatioInfoPresentFlag (do
      let aspectRatioIdc ← getBits r .aspectRatioIdc 8
      ifSet (aspectRatioIdc = 255) (skipBits r [(.sarWidth, 16), (.sarHeight, 16)]))
    ifFlag r .overscanInfoPresentFlag (skipBits r [(.overscanAppropriateFlag, 1)])
    ifFlag r .videoSignalTypePresentFlag (do
      skipBits r [(.videoFormat, 3), (.videoFullRangeFlag, 1)]
      ifFlag r .colourDescriptionPresentFlag
        (skipBits r [(.colourPrimaries, 8), (.transferCharacteristics, 8), (.matrixCoeffs, 8)]))
    ifFlag r .chromaLocInfoPresentFlag (skipUEs r [.chromaSampleLocTypeTopField, .chromaSampleLocTypeBottomField])
    skipBits r [(.neutralChromaIndicationFlag, 1), (.fieldSeqFlag, 1), (.frameFieldInfoPresentFlag, 1)]
    ifFlag r .defaultDisplayWindowFlag
      (skipUEs r [.defDispWinLeftOffset, .defDispWinRightOffset, .defDispWinTopOffset, .defDispWinBottomOffset])
    vuiTiming r maxSubLayersMinus1
    vuiRestriction r info
  else return info

/-! ### The parameter sets -/

/-- From the id of the SPS to the depths. -/
def spsPicture (info : HevcNalInfo) : HevcParse σ HevcNalInfo := do
  skipUEs r [.spsSeqParameterSetId]
  let chromaFormat ← parseUE r .chromaFormatIdc
  ifSet (chromaFormat = 3) (skipBits r [(.separateColourPlaneFlag, 1)])
  let width ← parseUE r .picWidthInLumaSamples
  let height ← parseUE r .picHeightInLumaSamples
  ifFlag r .conformanceWindowFlag
    (skipUEs r [.confWinLeftOffset, .confWinRightOffset, .confWinTopOffset, .confWinBottomOffset])
  let luma ← parseUE r .bitDepthLumaMinus8
  let chroma ← parseUE r .bitDepthChromaMinus8
  return { info with
    chromaFormat
    picWidthInLumaSamples := toInt32 width
    picHeightInLumaSamples := toInt32 height
    bitDepthLumaMinus8 := luma % 256
    bitDepthChromaMinus8 := chroma % 256 }

/-- From the depths to the sets of reference pictures. -/
def spsCoding (maxSubLayersMinus1 : Nat) : HevcParse σ Unit := do
  skipUEs r [.log2MaxPicOrderCntLsbMinus4]
  let ordering ← getBits r .spsSubLayerOrderingInfoPresentFlag 1
  let first := if ordering ≠ 0 then 0 else maxSubLayersMinus1
  loop (fun _ => skipUEs r [.spsMaxDecPicBufferingMinus1, .spsMaxNumReorderPics, .spsMaxLatencyIncreasePlus1])
    first (maxSubLayersMinus1 + 1 - first)
  skipUEs r [.log2MinLumaCodingBlockSizeMinus3, .log2DiffMaxMinLumaCodingBlockSize, .log2MinLumaTransformBlockSizeMinus2,
    .log2DiffMaxMinLumaTransformBlockSize, .maxTransformHierarchyDepthInter, .maxTransformHierarchyDepthIntra]
  ifFlag r .scalingListEnabledFlag (ifFlag r .spsScalingListDataPresentFlag (skipScalingListData r))
  skipBits r [(.ampEnabledFlag, 1)]
  skipBits r [(.sampleAdaptiveOffsetEnabledFlag, 1)]
  ifFlag r .pcmEnabledFlag (do
    skipBits r [(.pcmSampleBitDepthLumaMinus1, 4)]
    skipBits r [(.pcmSampleBitDepthChromaMinus1, 4)]
    skipUEs r [.log2MinPcmLumaCodingBlockSizeMinus3, .log2DiffMaxMinPcmLumaCodingBlockSize]
    skipBits r [(.pcmLoopFilterDisabledFlag, 1)])

/-- From the sets of reference pictures on. -/
def spsReferences (maxSubLayersMinus1 : Nat) (info : HevcNalInfo) : HevcParse σ HevcNalInfo := do
  let num ← parseUE r .numShortTermRefPicSets
  if num > maxShortTermRpsCount then return info
  else do
    -- num_delta_pocs is not initialised; an entry is read only after it was written
    let error ← parseSets r num 0 num fun _ => 0
    if error ≠ 0 then return info
    else do
      ifFlag r .longTermRefPicsPresentFlag (longTermRefPics r)
      skipBits r [(.spsTemporalMvpEnabledFlag, 1), (.strongIntraSmoothingEnabledFlag, 1)]
      vuiParameters r maxSubLayersMinus1 info

/-- `ParseHEVCSPS` behind the extraction of the payload. -/
def parseSpsRbsp (info : HevcNalInfo) : HevcParse σ HevcNalInfo := do
  skipBits r [(.spsVideoParameterSetId, 4)]
  let maxSubLayersMinus1 ← getBits r .spsMaxSubLayersMinus1 3
  let nesting ← getBits r .spsTemporalIdNestingFlag 1
  let info := { info with
    numTemporalLayers := max info.numTemporalLayers (maxSubLayersMinus1 + 1), temporalIdNestingFlag := nesting }
  if maxSubLayersMinus1 + 1 > maxSubLayers then return info
  else do
    let info ← parseGeneralInfo r info maxSubLayersMinus1
    let info ← spsPicture r info
    spsCoding r maxSubLayersMinus1
    spsReferences r maxSubLayersMinus1 info

/-- `ParseHEVCVPS` behind the extraction of the payload. -/
def parseVpsRbsp (info : HevcNalInfo) : HevcParse σ HevcNalInfo := do
  skipBits r [(.vpsVideoParameterSetId, 4), (.vpsReservedThree2bits, 2), (.vpsMaxLayersMinus1, 6)]
  let maxSubLayersMinus1 ← getBits r .vpsMaxSubLayersMinus1 3
  let info := { info with numTemporalLayers := max info.numTemporalLayers (info.numTemporalLayers + 1) % 256 }
  skipBits r [(.vpsTemporalIdNestingFlag, 1), (.vpsReserved0xffff16bits, 16)]
  if maxSubLayersMinus1 + 1 > maxSubLayers then return info
  else parseGeneralInfo r info maxSubLayersMinus1

/-- `ParseHEVCPPS` behind the extraction of the payload. -/
def parsePpsRbsp (info : HevcNalInfo) : HevcParse σ HevcNalInfo := do
  skipUEs r [.ppsPicParameterSetId, .ppsSeqParameterSetId]
  skipBits r [(.dependentSliceSegmentsEnabledFlag, 1), (.outputFlagPresentFlag, 1), (.numExtraSliceHeaderBits, 3),
    (.signDataHidingEnabledFlag, 1), (.cabacInitPresentFlag, 1)]
  skipUEs r [.numRefIdxL0DefaultActiveMinus1, .numRefIdxL1DefaultActiveMinus1, .initQpMinus26]
  skipBits r [(.constrainedIntraPredFlag, 1), (.transformSkipEnabledFlag, 1)]
  ifFlag r .cuQpDeltaEnabledFlag (skipUEs r [.diffCuQpDeltaDepth])
  let _ ← parseSe r .ppsCbQpOffset
  let _ ← parseSe r .ppsCrQpOffset
  skipBits r [(.ppsSliceChromaQpOffsetsPresentFlag, 1), (.weightedPredFlag, 1), (.weightedBipredFlag, 1),
    (.transquantBypassEnabledFlag, 1)]
  let tilesEnabledFlag ← getBits r .tilesEnabledFlag 1
  let entropyCodingSyncEnabledFlag ← getBits r .entropyCodingSyncEnabledFlag 1
  return { info with
    parallelismType :=
      if tilesEnabledFlag ≠ 0 ∧ entropyCodingSyncEnabledFlag ≠ 0 then 0
      else if entropyCodingSyncEnabledFlag ≠ 0 then 3
      else if tilesEnabledFlag ≠ 0 then 2
      else 1 }

/-- The bytes of a buffer after the writes of the extraction. -/
def stored (memory : List UInt8) (writes : List (UInt8 × Nat)) : List UInt8 := writes.foldl (fun m w => m.set w.2 w.1) memory

/-- A parser on the payload of a NAL unit. `memory` is what the new buffer for the payload holds; a unit without a header
    asks for a buffer of almost 2^64 bytes, which there is not. -/
def parseNal (parse : HevcParse σ HevcNalInfo) (memory nal : List UInt8) : List (Read HevcElement) × Option HevcNalInfo :=
  if nal.length < 2 then ([], none)
  else
    let result := parse (r.ofBytes (stored memory (extractHevcRbsp (nal.drop 2)).writes))
    (result.1, result.2.map (·.1))

def parseHevcVps (memory nal : List UInt8) (info : HevcNalInfo) : List (Read HevcElement) × Option HevcNalInfo :=
  parseNal r (parseVpsRbsp r info) memory nal

def parseHevcSps (memory nal : List UInt8) (info : HevcNalInfo) : List (Read HevcElement) × Option HevcNalInfo :=
  parseNal r (parseSpsRbsp r info) memory nal

def parseHevcPps (memory nal : List UInt8) (info : HevcNalInfo) : List (Read HevcElement) × Option HevcNalInfo :=
  parseNal r (parsePpsRbsp r info) memory nal

end BcmPlatform.Hevc
