import BcmPlatform.Hevc.NalUnits
import BcmPlatform.Hevc.ParameterSets

/-! `MakeHEVCCodecSpecificData`: the decoder configuration record that is made of the parameter sets of an access unit. -/

namespace BcmPlatform.Hevc
open Lib

def kHevcNalUnitVps : Nat := 0x20

def kHevcNalUnitSps : Nat := 0x21

def kHevcNalUnitPps : Nat := 0x22

/-- How the function ends without a return: in a read outside of the data, in a check, or where the bit reader gives up. -/
inductive CsdStop where
  | outside (index : Int)
  | check
  | reader
  deriving DecidableEq, Repr

/-- What new buffers hold: the first one, the second one and the third one, for each size. -/
structure Memory where
  bytes : Nat → Nat → List UInt8
  length_bytes : ∀ k n, (bytes k n).length = n

/-- What is put into the meta data: the bytes that are written to the record, with the size of its buffer, and the sizes of
    the picture. -/
structure CodecSpecificData where
  csdSize : Nat
  csd : List UInt8
  width : Int
  height : Int
  deriving DecidableEq, Repr

/-- `*out++ = v` -/
def outByte (v : Nat) : UInt8 := UInt8.ofNat v

/-- The 23 bytes in front of the arrays. -/
def csdHeader (info : HevcNalInfo) (numOfArray : Nat) : List UInt8 :=
  [outByte 0x01,
    outByte (info.generalProfileSpace <<< 6 ||| info.generalTierFlag <<< 5 ||| info.generalProfileIdc),
    outByte (info.generalProfileCompatibilityFlags >>> 24 &&& 0xff),
    outByte (info.generalProfileCompatibilityFlags >>> 16 &&& 0xff),
    outByte (info.generalProfileCompatibilityFlags >>> 8 &&& 0xff),
    outByte (info.generalProfileCompatibilityFlags &&& 0xff),
    outByte (info.generalConstraintIndicatorFlags >>> 40 &&& 0xff),
    outByte (info.generalConstraintIndicatorFlags >>> 32 &&& 0xff),
    outByte (info.generalConstraintIndicatorFlags >>> 24 &&& 0xff),
    outByte (info.generalConstraintIndicatorFlags >>> 16 &&& 0xff),
    outByte (info.generalConstraintIndicatorFlags >>> 8 &&& 0xff),
    outByte (info.generalConstraintIndicatorFlags &&& 0xff),
    outByte info.generalLevelIdc,
    outByte (0xf <<< 4 ||| (info.minSpatialSegmentationIdc >>> 8 &&& 0x0f)),
    outByte (info.minSpatialSegmentationIdc &&& 0xff),
    outByte (0x3f <<< 2 ||| (info.parallelismType &&& 0x03)),
    outByte (0x3f <<< 2 ||| (info.chromaFormat &&& 0x03)),
    outByte (0x1f <<< 3 ||| (info.bitDepthLumaMinus8 &&& 0x07)),
    outByte (0x1f <<< 3 ||| (info.bitDepthChromaMinus8 &&& 0x07)),
    outByte (info.avgFrameRate >>> 8),
    outByte (info.avgFrameRate &&& 0xff),
    outByte (info.constantFrameRate <<< 6 ||| info.numTemporalLayers <<< 3 ||| info.temporalIdNestingFlag <<< 2 ||| 3),
    outByte numOfArray]

/-- The array of a parameter set. -/
def csdArray (nalType : Nat) (nal : List UInt8) : List UInt8 :=
  [outByte (0x3F &&& nalType), outByte (0x01 >>> 8), outByte (0x01 &&& 0xff), outByte (nal.length >>> 8),
    outByte (nal.length &&& 0xff)] ++ nal

/-- The size of an array in the sum for the buffer. -/
def csdArraySize (nal : List UInt8) : Nat := 1 + 2 * 1 + 2 + nal.length

/-- The info before the parameter sets are parsed. -/
def HevcNalInfo.start : HevcNalInfo :=
  { minSpatialSegmentationIdc := maxSpatialSegmentation + 1
    generalProfileCompatibilityFlags := 0xFFFFFFFF
    generalConstraintIndicatorFlags := 0xFFFFFFFFFFFF }

/-- What is changed in the info after the parameter sets were parsed. -/
def HevcNalInfo.finish (info : HevcNalInfo) : HevcNalInfo :=
  let idc := if info.minSpatialSegmentationIdc > maxSpatialSegmentation then 0 else info.minSpatialSegmentationIdc
  { info with
    minSpatialSegmentationIdc := idc
    parallelismType := if idc = 0 then 0 else info.parallelismType
    avgFrameRate := 0
    constantFrameRate := 0 }

variable {σ : Type} (r : BitReader σ)

def findParamSet (nalType : Nat) (data : List UInt8) : Except CsdStop (Option (List UInt8)) :=
  match findNalHevc nalType data with
  | .ok nal => .ok nal
  | .error (.outside index) => .error (.outside index)
  | .error .eagain => .ok none

/-- A parser that may stop in the bit reader. -/
def parsed (result : List (Read HevcElement) × Option HevcNalInfo) : Except CsdStop HevcNalInfo :=
  match result.2 with
  | some info => .ok info
  | none => .error .reader

/-- The record of an info and its parameter sets. -/
def writeCsd (info : HevcNalInfo) (videoParamSet : Option (List UInt8)) (seqParamSet picParamSet : List UInt8) :
    CodecSpecificData where
  csdSize := 1 + 22 + videoParamSet.elim 0 csdArraySize + csdArraySize seqParamSet + csdArraySize picParamSet
  csd := csdHeader info (videoParamSet.elim 0 (fun _ => 1) + 1 + 1) ++
    (videoParamSet.elim [] (csdArray kHevcNalUnitVps) ++
      (csdArray kHevcNalUnitSps seqParamSet ++ csdArray kHevcNalUnitPps picParamSet))
  width := info.picWidthInLumaSamples
  height := info.picHeightInLumaSamples

def makeHevcCodecSpecificData (memory : Memory) (data : List UInt8) : Except CsdStop (Option CodecSpecificData) := do
  let videoParamSet ← findParamSet kHevcNalUnitVps data
  let seqParamSet ← findParamSet kHevcNalUnitSps data
  match seqParamSet with
  | none => return none
  | some seqParamSet =>
    let picParamSet ← findParamSet kHevcNalUnitPps data
    match picParamSet with
    | none => throw .check
    | some picParamSet =>
      let info ← match videoParamSet with
        | none => pure .start
        | some videoParamSet => parsed (parseHevcVps r (memory.bytes 0 (videoParamSet.length - 2)) videoParamSet .start)
      let info ← parsed (parseHevcSps r (memory.bytes 1 (seqParamSet.length - 2)) seqParamSet info)
      let info ← parsed (parseHevcPps r (memory.bytes 2 (picParamSet.length - 2)) picParamSet info)
      return some (writeCsd info.finish videoParamSet seqParamSet picParamSet)

end BcmPlatform.Hevc
