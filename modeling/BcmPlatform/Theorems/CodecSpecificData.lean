import BcmPlatform.Hevc.CodecSpecificData
import BcmPlatform.Lib.HevcSyntax
import BcmPlatform.Theorems.NalStreams
import BcmPlatform.Theorems.ParameterSets

/-! `MakeHEVCCodecSpecificData`: the record that is written for an access unit, and what a reader of the record finds in it. -/

namespace BcmPlatform.Hevc
open Lib

/-! ### The parameter sets of an access unit -/

/-- The first unit of a type. -/
def firstUnit (nalType : Nat) (units : List (StartCode × NalUnit)) : Option (List UInt8) :=
  (units.map (·.2.bytes)).find? fun u => u.head?.map nalUnitType = some nalType

theorem keptUnits_append (units : List (StartCode × NalUnit)) :
    ∃ dropped : List (List UInt8), units.map (·.2.bytes) = keptUnits units ++ dropped ∧ ∀ u ∈ dropped, u.length = 1 := by
  induction units with
  | nil => exact ⟨[], rfl, fun u hu => absurd hu List.not_mem_nil⟩
  | cons p rest ih =>
    rw [keptUnits, List.map_cons]
    by_cases hnil : leftOver rest = []
    · rw [if_pos hnil]
      refine ⟨rest.map (·.2.bytes), rfl, fun u hu => ?_⟩
      cases rest with
      | nil => cases hu
      | cons q rest =>
        obtain ⟨hone, rfl⟩ := (leftOver_eq_nil q rest).mp hnil
        rw [List.mem_singleton.mp hu]
        exact hone
    · obtain ⟨dropped, hsplit, hone⟩ := ih
      rw [if_neg hnil]
      exact ⟨dropped, by rw [hsplit]; rfl, hone⟩

theorem findParamSet_byteStream {nalType : Nat} {units : List (StartCode × NalUnit)} {o : Option (List UInt8)}
    (hfirst : firstUnit nalType units = o) (hlength : ∀ u, o = some u → 2 ≤ u.length) :
    findParamSet nalType (byteStream units) = .ok o := by
  have hkept : findNalHevc nalType (byteStream units) =
      .ok ((keptUnits units).find? fun u => u.head?.map nalUnitType = some nalType) := by
    cases units with
    | nil => exact findNalHevc_nil nalType
    | cons p rest => rw [byteStream_cons, findNalHevc_byteStream]
  obtain ⟨dropped, hsplit, hone⟩ := keptUnits_append units
  rw [firstUnit, hsplit, List.find?_append] at hfirst
  rw [findParamSet, hkept]
  cases hfind : (keptUnits units).find? fun u => u.head?.map nalUnitType = some nalType with
  | some u =>
    rw [hfind, Option.some_or] at hfirst
    rw [← hfirst]
  | none =>
    rw [hfind, Option.none_or] at hfirst
    cases o with
    | none => rfl
    | some u =>
      have hshort := hone u (List.mem_of_find?_eq_some hfirst)
      have hlong := hlength u rfl
      omega

/-- An access unit with parameter sets: the first units of their types. -/
structure AccessUnit where
  units : List (StartCode × NalUnit)
  vps : Option ((v : Vps) × NalOf v.elements)
  sps : Sps
  spsNal : NalOf sps.elements
  pps : Pps
  ppsNal : NalOf pps.elements
  vps_first : firstUnit kHevcNalUnitVps units = vps.map (·.2.bytes)
  sps_first : firstUnit kHevcNalUnitSps units = some spsNal.bytes
  pps_first : firstUnit kHevcNalUnitPps units = some ppsNal.bytes
  vps_lt : ∀ v ∈ vps, v.2.bytes.length < 65536
  sps_lt : spsNal.bytes.length < 65536
  pps_lt : ppsNal.bytes.length < 65536

theorem NalOf.two_le {cs : List HevcCoded} (n : NalOf cs) : 2 ≤ n.bytes.length := Nat.le_add_left 2 _

namespace AccessUnit
variable (u : AccessUnit)

def data : List UInt8 := byteStream u.units

/-- The info in front of the SPS. -/
def start : HevcNalInfo := u.vps.elim .start fun v => HevcNalInfo.start.withVps v.1

def vpsBytes : Option (List UInt8) := u.vps.map (·.2.bytes)

variable {σ : Type} (r : BitReader σ) {rest : σ → List Bool} (memory : Memory)

/-- The parser comes to the end of the SPS. -/
def SpsEnds : Prop :=
  (parseHevcSps r (memory.bytes 1 (u.spsNal.bytes.length - 2)) u.spsNal.bytes u.start).2.isSome

/-- The info that is written. -/
def written (minSpatialSegmentationIdc parallelismType : Nat) : HevcNalInfo :=
  ({ u.start.withSpsHead u.sps with minSpatialSegmentationIdc, parallelismType } : HevcNalInfo).finish

variable {r memory}

theorem spsEnds_of_readable (h : r.Laws rest) (hp : Readable u.sps) : u.SpsEnds r memory :=
  isSome_parseHevcSps h u.start hp u.spsNal (memory.length_bytes _ _)

theorem makeHevcCodecSpecificData_eq (h : r.Laws rest) : makeHevcCodecSpecificData r memory u.data = (do
    let info ← parsed (parseHevcSps r (memory.bytes 1 (u.spsNal.bytes.length - 2)) u.spsNal.bytes u.start)
    let info ← parsed (parseHevcPps r (memory.bytes 2 (u.ppsNal.bytes.length - 2)) u.ppsNal.bytes info)
    return some (writeCsd info.finish u.vpsBytes u.spsNal.bytes u.ppsNal.bytes)) := by
  have hvps : findParamSet kHevcNalUnitVps u.data = .ok u.vpsBytes := by
    refine findParamSet_byteStream u.vps_first fun b hb => ?_
    obtain ⟨v, -, rfl⟩ := Option.map_eq_some_iff.mp hb
    exact v.2.two_le
  have hsps : findParamSet kHevcNalUnitSps u.data = .ok (some u.spsNal.bytes) :=
    findParamSet_byteStream u.sps_first fun b hb => Option.some.inj hb ▸ u.spsNal.two_le
  have hpps : findParamSet kHevcNalUnitPps u.data = .ok (some u.ppsNal.bytes) :=
    findParamSet_byteStream u.pps_first fun b hb => Option.some.inj hb ▸ u.ppsNal.two_le
  simp only [makeHevcCodecSpecificData, hvps, hsps, hpps, bind, Except.bind]
  rw [vpsBytes, start]
  cases u.vps with
  | none => rfl
  | some v =>
    have hparse := parseHevcVps_eq h .start v.2 (memory.length_bytes 0 _)
    simp only [Option.map_some, parsed, hparse, Option.elim_some]

theorem make_of_not_spsEnds (h : r.Laws rest) (hends : ¬ u.SpsEnds r memory) :
    makeHevcCodecSpecificData r memory u.data = .error .reader := by
  rw [u.makeHevcCodecSpecificData_eq h, parsed, Option.not_isSome_iff_eq_none.mp hends]
  rfl

theorem make_of_spsEnds (h : r.Laws rest) (hends : u.SpsEnds r memory) :
    ∃ minSpatialSegmentationIdc parallelismType, makeHevcCodecSpecificData r memory u.data = .ok (some (writeCsd
      (u.written minSpatialSegmentationIdc parallelismType) u.vpsBytes u.spsNal.bytes u.ppsNal.bytes)) := by
  obtain ⟨info, hsps⟩ := Option.isSome_iff_exists.mp hends
  obtain ⟨idc, rfl⟩ := parseHevcSps_of_some h u.start u.spsNal (memory.length_bytes 1 _) hsps
  obtain ⟨parallelismType, hpps⟩ := parseHevcPps_eq h { u.start.withSpsHead u.sps with minSpatialSegmentationIdc := idc }
    u.ppsNal (memory.length_bytes 2 _)
  refine ⟨idc, parallelismType, ?_⟩
  rw [u.makeHevcCodecSpecificData_eq h, parsed, hsps]
  change (parsed _ >>= _) = _
  rw [parsed, hpps]
  rfl

end AccessUnit

/-! ### What is found in the record -/

/-- The fields fit their places in the record. -/
structure HevcNalInfo.Fits (info : HevcNalInfo) : Prop where
  profileSpace : info.generalProfileSpace < 4
  tierFlag : info.generalTierFlag < 2
  profileIdc : info.generalProfileIdc < 32
  compatibility : info.generalProfileCompatibilityFlags < 2 ^ 32
  constraint : info.generalConstraintIndicatorFlags < 2 ^ 48
  level : info.generalLevelIdc < 256
  constantFrameRate : info.constantFrameRate < 4
  layers : info.numTemporalLayers < 8
  nesting : info.temporalIdNestingFlag < 2

/-- What a reader finds in the record of an info. -/
def HevcNalInfo.config (info : HevcNalInfo) (arrays : List NalArray) : HevcConfig where
  configurationVersion := 1
  generalProfileSpace := info.generalProfileSpace
  generalTierFlag := info.generalTierFlag
  generalProfileIdc := info.generalProfileIdc
  generalProfileCompatibilityFlags := info.generalProfileCompatibilityFlags
  generalConstraintIndicatorFlags := info.generalConstraintIndicatorFlags
  generalLevelIdc := info.generalLevelIdc
  minSpatialSegmentationIdc := info.minSpatialSegmentationIdc % 4096
  parallelismType := info.parallelismType % 4
  chromaFormat := info.chromaFormat % 4
  bitDepthLumaMinus8 := info.bitDepthLumaMinus8 % 8
  bitDepthChromaMinus8 := info.bitDepthChromaMinus8 % 8
  avgFrameRate := info.avgFrameRate % 65536
  constantFrameRate := info.constantFrameRate
  numTemporalLayers := info.numTemporalLayers
  temporalIdNested := info.temporalIdNestingFlag
  lengthSizeMinusOne := 3
  arrays := arrays

/-- An array with one unit. -/
def singleton (nalUnitType : Nat) (nal : List UInt8) : NalArray := { arrayCompleteness := 0, nalUnitType, nalUnits := [nal] }

theorem outByte_and (v : Nat) : outByte (v &&& 0xff) = UInt8.ofNat v := by
  refine UInt8.toNat_inj.mp ?_
  rw [outByte, UInt8.toNat_ofNat', UInt8.toNat_ofNat', show (0xff : Nat) = 2 ^ 8 - 1 from rfl, Nat.and_two_pow_sub_one_eq_mod]
  exact Nat.mod_mod _ _

theorem toNat_outByte {v : Nat} (hv : v < 256) : (outByte v).toNat = v := by
  rw [outByte, UInt8.toNat_ofNat']
  exact Nat.mod_eq_of_lt hv

theorem outByte_shift (v k : Nat) : outByte (v >>> k &&& 0xff) = UInt8.ofNat (v / 2 ^ k) := by
  rw [outByte_and, Nat.shiftRight_eq_div_pow]

theorem shift_or_shift (a b j k : Nat) : a <<< (j + k) ||| b <<< k = (a <<< j ||| b) <<< k := by
  rw [Nat.shiftLeft_or_distrib, Nat.shiftLeft_add]

theorem csdArray_eq {nalType : Nat} (htype : nalType < 64) (nal : List UInt8) :
    csdArray nalType nal = HevcConfig.arrayBytes nalType nal := by
  have hand : 0x3F &&& nalType = nalType := by
    rw [Nat.and_comm, show (0x3F : Nat) = 2 ^ 6 - 1 from rfl, Nat.and_two_pow_sub_one_eq_mod]
    exact Nat.mod_eq_of_lt htype
  have hhigh : outByte (nal.length >>> 8) = UInt8.ofNat (nal.length / 256) :=
    congrArg UInt8.ofNat (Nat.shiftRight_eq_div_pow nal.length 8)
  rw [csdArray, hand, outByte_and nal.length, hhigh]
  rfl

theorem length_csdArray (nalType : Nat) (nal : List UInt8) : (csdArray nalType nal).length = csdArraySize nal := by
  rw [csdArray, List.length_append]
  rfl

theorem beValue_four {v : Nat} (hv : v < 2 ^ 32) : beValue [outByte (v >>> 24 &&& 0xff), outByte (v >>> 16 &&& 0xff),
    outByte (v >>> 8 &&& 0xff), outByte (v &&& 0xff)] = v := by
  have hbytes : [outByte (v >>> 24 &&& 0xff), outByte (v >>> 16 &&& 0xff), outByte (v >>> 8 &&& 0xff), outByte (v &&& 0xff)] =
      beBytes 4 v := by
    rw [outByte_shift, outByte_shift, outByte_shift, outByte_and]
    simp only [beBytes, Nat.div_div_eq_div_mul]
    rfl
  rw [hbytes, beValue_beBytes (k := 4) hv]

theorem beValue_six {v : Nat} (hv : v < 2 ^ 48) : beValue [outByte (v >>> 40 &&& 0xff), outByte (v >>> 32 &&& 0xff),
    outByte (v >>> 24 &&& 0xff), outByte (v >>> 16 &&& 0xff), outByte (v >>> 8 &&& 0xff), outByte (v &&& 0xff)] = v := by
  have hbytes : [outByte (v >>> 40 &&& 0xff), outByte (v >>> 32 &&& 0xff), outByte (v >>> 24 &&& 0xff),
      outByte (v >>> 16 &&& 0xff), outByte (v >>> 8 &&& 0xff), outByte (v &&& 0xff)] = beBytes 6 v := by
    rw [outByte_shift, outByte_shift, outByte_shift, outByte_shift, outByte_shift, outByte_and]
    simp only [beBytes, Nat.div_div_eq_div_mul]
    rfl
  rw [hbytes, beValue_beBytes (k := 6) hv]

theorem beValue_two (a b : UInt8) : beValue [a, b] = a.toNat * 256 + b.toNat := by
  rw [beValue, List.foldl_cons, List.foldl_cons, List.foldl_nil, Nat.zero_mul, Nat.zero_add]

theorem bitField_low (hi k v : Nat) (hhi : (hi + 1) * 2 ^ (k + 1) ≤ 256) :
    bitField k 0 (outByte (hi <<< (k + 1) ||| (v &&& (2 ^ (k + 1) - 1)))).toNat = v % 2 ^ (k + 1) := by
  have hlt : v % 2 ^ (k + 1) < 2 ^ (k + 1) := Nat.mod_lt _ (Nat.two_pow_pos _)
  rw [Nat.and_two_pow_sub_one_eq_mod, shiftLeft_or_eq_add hlt, toNat_outByte (by rw [Nat.succ_mul] at hhi; omega), bitField,
    Nat.pow_zero, Nat.div_one, Nat.sub_zero, Nat.mul_add_mod_self_right, Nat.mod_mod]

theorem profileByte_eq {info : HevcNalInfo} (hfits : info.Fits) :
    info.generalProfileSpace <<< 6 ||| info.generalTierFlag <<< 5 ||| info.generalProfileIdc =
      info.generalProfileSpace * 64 + info.generalTierFlag * 32 + info.generalProfileIdc := by
  obtain ⟨-, htier, hidc, -⟩ := hfits
  rw [shift_or_shift _ _ 1 5, shiftLeft_or_eq_add (k := 5) hidc, shiftLeft_or_eq_add (k := 1) htier]
  omega

theorem layersByte_eq {info : HevcNalInfo} (hfits : info.Fits) :
    info.constantFrameRate <<< 6 ||| info.numTemporalLayers <<< 3 ||| info.temporalIdNestingFlag <<< 2 ||| 3 =
      info.constantFrameRate * 64 + info.numTemporalLayers * 8 + info.temporalIdNestingFlag * 4 + 3 := by
  obtain ⟨-, -, -, -, -, -, -, hlayers, hnesting⟩ := hfits
  rw [shift_or_shift _ _ 3 3, shift_or_shift _ _ 1 2, shiftLeft_or_eq_add (k := 2) (by decide),
    shiftLeft_or_eq_add (k := 1) hnesting, shiftLeft_or_eq_add (k := 3) hlayers]
  omega

theorem decode_csdHeader {info : HevcNalInfo} (hfits : info.Fits) {count : Nat} (hcount : count < 256) {body : List UInt8}
    {arrays : List NalArray} (harrays : HevcConfig.decodeArrays count body = some (arrays, [])) :
    HevcConfig.decode (csdHeader info count ++ body) = some (info.config arrays) := by
  have hlength : ¬ (csdHeader info count ++ body).length < 23 := Nat.not_lt.mpr (by
    rw [List.length_append]
    exact Nat.le_add_right 23 _)
  have hdrop : (csdHeader info count ++ body).drop 23 = body := rfl
  have hbyte : ((csdHeader info count ++ body).getD 22 0).toNat = count := toNat_outByte hcount
  rw [HevcConfig.decode, if_neg hlength]
  simp only [hdrop, hbyte, harrays, Option.bind_some, if_true]
  have hprofile : ((csdHeader info count ++ body).getD 1 0).toNat =
      info.generalProfileSpace * 64 + info.generalTierFlag * 32 + info.generalProfileIdc := by
    obtain ⟨hspace, htier, hidc, -⟩ := id hfits
    change (outByte _).toNat = _
    rw [profileByte_eq hfits, toNat_outByte (by omega)]
  have hlayers : ((csdHeader info count ++ body).getD 21 0).toNat =
      info.constantFrameRate * 64 + info.numTemporalLayers * 8 + info.temporalIdNestingFlag * 4 + 3 := by
    obtain ⟨-, -, -, -, -, -, hrate, hlayers, hnesting⟩ := id hfits
    change (outByte _).toNat = _
    rw [layersByte_eq hfits, toNat_outByte (by omega)]
  have hsegmentation : bitField 11 0 (beValue (((csdHeader info count ++ body).drop 13).take 2)) =
      info.minSpatialSegmentationIdc % 4096 := by
    have hbytes : ((csdHeader info count ++ body).drop 13).take 2 =
        [outByte (0xf <<< 4 ||| (info.minSpatialSegmentationIdc >>> 8 &&& 0x0f)),
          outByte (info.minSpatialSegmentationIdc &&& 0xff)] := rfl
    have hlt : info.minSpatialSegmentationIdc / 2 ^ 8 % 2 ^ 4 < 2 ^ 4 := Nat.mod_lt _ (by decide)
    rw [hbytes, show (0x0f : Nat) = 2 ^ 4 - 1 from rfl, Nat.and_two_pow_sub_one_eq_mod, Nat.shiftRight_eq_div_pow,
      shiftLeft_or_eq_add hlt, beValue_two, toNat_outByte (by omega), outByte_and, UInt8.toNat_ofNat', bitField]
    omega
  have hframeRate : beValue (((csdHeader info count ++ body).drop 19).take 2) = info.avgFrameRate % 65536 := by
    have hbytes : ((csdHeader info count ++ body).drop 19).take 2 =
        [outByte (info.avgFrameRate >>> 8), outByte (info.avgFrameRate &&& 0xff)] := rfl
    rw [hbytes, beValue_two, outByte_and, outByte, UInt8.toNat_ofNat', UInt8.toNat_ofNat', Nat.shiftRight_eq_div_pow]
    omega
  obtain ⟨hspace, htier, hidc, hcompatibility, hconstraint, hlevel, hrate, hlayer, hnesting⟩ := hfits
  rw [HevcNalInfo.config, Option.some.injEq, HevcConfig.mk.injEq, hprofile, hlayers, hsegmentation, hframeRate]
  refine ⟨rfl, ?_, ?_, ?_, beValue_four hcompatibility, beValue_six hconstraint, toNat_outByte hlevel, rfl,
    bitField_low 0x3f 1 _ (by decide), bitField_low 0x3f 1 _ (by decide), bitField_low 0x1f 2 _ (by decide),
    bitField_low 0x1f 2 _ (by decide), rfl, ?_, ?_, ?_, ?_, rfl⟩ <;>
    · rw [bitField]
      omega

/-! ### The record of an access unit -/

theorem constraintFlags_eq (c : BitVec 48) :
    ((c.extractLsb' 16 32).toNat <<< 16) % Bomx.u32 ||| ((c.extractLsb' 0 16).toNat &&& 0xFFFF) = c.toNat % 2 ^ 32 := by
  have hlast : (c.extractLsb' 0 16).toNat &&& 0xFFFF = c.toNat % 2 ^ 16 := by
    rw [show (0xFFFF : Nat) = 2 ^ 16 - 1 from rfl, Nat.and_two_pow_sub_one_eq_mod, BitVec.extractLsb'_toNat, Nat.shiftRight_zero,
      Nat.mod_mod]
  have hfirst : ((c.extractLsb' 16 32).toNat <<< 16) % Bomx.u32 = (c.toNat / 2 ^ 16 % 2 ^ 16) <<< 16 := by
    rw [BitVec.extractLsb'_toNat, Nat.shiftRight_eq_div_pow, Nat.shiftLeft_eq, Nat.shiftLeft_eq, Bomx.u32]
    omega
  rw [hfirst, hlast, shiftLeft_or_eq_add (Nat.mod_lt _ (by decide))]
  omega

namespace AccessUnit
variable (u : AccessUnit)

/-- A field of the VPS and the SPS: what is coded in both of them, or in the SPS alone. -/
def coded {α : Type} (field : ProfileTierLevel → α) (both : α → α → α) : α :=
  u.vps.elim (field u.sps.profileTierLevel) fun v => both (field v.1.profileTierLevel) (field u.sps.profileTierLevel)

/-- The larger number of sub-layers. -/
def subLayers : Nat := u.vps.elim (u.sps.maxSubLayersMinus1.val + 1) fun v =>
  max (v.1.maxSubLayersMinus1.val + 1) (u.sps.maxSubLayersMinus1.val + 1)

/-- What a reader finds in a record is what is coded in the access unit. -/
structure Recorded (csd : CodecSpecificData) (config : HevcConfig) : Prop where
  decoded : HevcConfig.decode csd.csd = some config
  size : csd.csdSize = csd.csd.length
  arrays : config.arrays = (u.vpsBytes.map (singleton kHevcNalUnitVps)).toList ++
    [singleton kHevcNalUnitSps u.spsNal.bytes, singleton kHevcNalUnitPps u.ppsNal.bytes]
  compatibility : config.generalProfileCompatibilityFlags = (u.coded (·.profileCompatibilityFlags) (· &&& ·)).toNat
  constraint : config.generalConstraintIndicatorFlags = (u.coded (·.constraintFlags) (· &&& ·)).toNat
  tier : config.generalTierFlag = u.coded (·.tierFlag.toNat) max
  level : config.generalLevelIdc = u.coded (·.levelIdc.toNat) max
  profile : config.generalProfileIdc = u.coded (·.profileIdc.toNat) max
  layers : config.numTemporalLayers = u.subLayers

/-- No field is lost: the SPS has as many sub-layers as the VPS, none of the first 16 constraint flags is set in both, and an
    SPS of the higher tier has the higher level too. -/
structure Mergeable : Prop where
  layers : ∀ v ∈ u.vps, v.1.maxSubLayersMinus1.val ≤ u.sps.maxSubLayersMinus1.val
  constraint : (u.coded (·.constraintFlags) (· &&& ·)).toNat < 2 ^ 32
  level : ∀ v ∈ u.vps, v.1.profileTierLevel.tierFlag = false → u.sps.profileTierLevel.tierFlag = true →
    v.1.profileTierLevel.levelIdc.toNat ≤ u.sps.profileTierLevel.levelIdc.toNat

/-- What the two tables leave in the info. -/
structure Merged (info : HevcNalInfo) : Prop where
  compatibility : info.generalProfileCompatibilityFlags = (u.coded (·.profileCompatibilityFlags) (· &&& ·)).toNat
  constraint : info.generalConstraintIndicatorFlags = (u.coded (·.constraintFlags) (· &&& ·)).toNat % 2 ^ 32
  tier : info.generalTierFlag = u.coded (·.tierFlag.toNat) max
  level : info.generalLevelIdc = u.coded (·.levelIdc.toNat) max ↔
    ∀ v ∈ u.vps, v.1.profileTierLevel.tierFlag = false → u.sps.profileTierLevel.tierFlag = true →
      v.1.profileTierLevel.levelIdc.toNat ≤ u.sps.profileTierLevel.levelIdc.toNat
  profile : info.generalProfileIdc = u.coded (·.profileIdc.toNat) max
  layers : info.numTemporalLayers = u.sps.maxSubLayersMinus1.val + 1

end AccessUnit

theorem ones_and (n : Nat) (c : BitVec n) : 2 ^ n - 1 &&& c.toNat = c.toNat := by
  rw [Nat.and_comm, Nat.and_two_pow_sub_one_eq_mod, Nat.mod_eq_of_lt c.isLt]

theorem mergeTable_start (layers nesting : Nat) (p : ProfileTierLevel) :
    ({ HevcNalInfo.start with numTemporalLayers := layers, temporalIdNestingFlag := nesting } : HevcNalInfo).mergeTable p =
      { HevcNalInfo.start with
        numTemporalLayers := layers
        temporalIdNestingFlag := nesting
        generalProfileSpace := p.profileSpace.toNat
        generalTierFlag := p.tierFlag.toNat
        generalProfileIdc := p.profileIdc.toNat
        generalProfileCompatibilityFlags := p.profileCompatibilityFlags.toNat
        generalConstraintIndicatorFlags := p.constraintFlags.toNat % 2 ^ 32
        generalLevelIdc := p.levelIdc.toNat } := by
  have hones : 0xFFFFFFFFFFFF &&& p.constraintFlags.toNat % 2 ^ 32 = p.constraintFlags.toNat % 2 ^ 32 := by
    rw [show (0xFFFFFFFFFFFF : Nat) = 2 ^ 48 - 1 from rfl, Nat.and_comm, Nat.and_two_pow_sub_one_eq_mod]
    omega
  rw [HevcNalInfo.mergeTable, HevcNalInfo.merge, constraintFlags_eq]
  simp only [HevcNalInfo.start, hones, ite_self, Nat.zero_max, ones_and 32, show (0xFFFFFFFF : Nat) = 2 ^ 32 - 1 from rfl]

namespace AccessUnit
variable (u : AccessUnit)

theorem start_of_some {v : (v : Vps) × NalOf v.elements} (hv : u.vps = some v) :
    u.start = { HevcNalInfo.start with
      numTemporalLayers := 1
      generalProfileSpace := v.1.profileTierLevel.profileSpace.toNat
      generalTierFlag := v.1.profileTierLevel.tierFlag.toNat
      generalProfileIdc := v.1.profileTierLevel.profileIdc.toNat
      generalProfileCompatibilityFlags := v.1.profileTierLevel.profileCompatibilityFlags.toNat
      generalConstraintIndicatorFlags := v.1.profileTierLevel.constraintFlags.toNat % 2 ^ 32
      generalLevelIdc := v.1.profileTierLevel.levelIdc.toNat } := by
  rw [start, hv]
  exact mergeTable_start 1 0 v.1.profileTierLevel

theorem coded_lt {field : ProfileTierLevel → Nat} {bound : Nat} (hfield : ∀ p, field p < bound) :
    u.coded field max < bound := by
  rw [coded]
  cases u.vps with
  | none => exact hfield _
  | some v => exact max_lt (hfield _) (hfield _)

theorem level_merge_iff (p q : ProfileTierLevel) :
    (if p.tierFlag.toNat < q.tierFlag.toNat then q.levelIdc.toNat else max p.levelIdc.toNat q.levelIdc.toNat) =
      max p.levelIdc.toNat q.levelIdc.toNat ↔
    (p.tierFlag = false → q.tierFlag = true → p.levelIdc.toNat ≤ q.levelIdc.toNat) := by
  have hlt : p.tierFlag.toNat < q.tierFlag.toNat ↔ p.tierFlag = false ∧ q.tierFlag = true := by
    cases p.tierFlag <;> cases q.tierFlag <;> decide
  by_cases htier : p.tierFlag.toNat < q.tierFlag.toNat
  · obtain ⟨hp, hq⟩ := hlt.mp htier
    rw [if_pos htier]
    exact ⟨fun h _ _ => by omega, fun h => (max_eq_right (h hp hq)).symm⟩
  · rw [if_neg htier]
    exact ⟨fun _ hp hq => absurd (hlt.mpr ⟨hp, hq⟩) htier, fun _ => rfl⟩

variable (idc parallelismType : Nat)

theorem written_constraint : (u.written idc parallelismType).generalConstraintIndicatorFlags =
    u.start.generalConstraintIndicatorFlags &&& u.sps.profileTierLevel.constraintFlags.toNat % 2 ^ 32 := by
  rw [← constraintFlags_eq]
  rfl

theorem written_level : (u.written idc parallelismType).generalLevelIdc =
    if u.start.generalTierFlag < u.sps.profileTierLevel.tierFlag.toNat then u.sps.profileTierLevel.levelIdc.toNat
    else max u.start.generalLevelIdc u.sps.profileTierLevel.levelIdc.toNat := rfl

theorem merged : u.Merged (u.written idc parallelismType) := by
  have hcompatibility : (u.written idc parallelismType).generalProfileCompatibilityFlags =
      u.start.generalProfileCompatibilityFlags &&& u.sps.profileTierLevel.profileCompatibilityFlags.toNat := rfl
  have hconstraint := u.written_constraint idc parallelismType
  have htier : (u.written idc parallelismType).generalTierFlag =
      max u.start.generalTierFlag u.sps.profileTierLevel.tierFlag.toNat := rfl
  have hlevel := u.written_level idc parallelismType
  have hprofile : (u.written idc parallelismType).generalProfileIdc =
      max u.start.generalProfileIdc u.sps.profileTierLevel.profileIdc.toNat := rfl
  have hlayers : (u.written idc parallelismType).numTemporalLayers =
      max u.start.numTemporalLayers (u.sps.maxSubLayersMinus1.val + 1) := rfl
  generalize u.written idc parallelismType = info at *
  cases hv : u.vps with
  | none =>
    have hstart : u.start = .start := by rw [start, hv]; rfl
    rw [hstart] at hcompatibility hconstraint htier hlevel hprofile hlayers
    have hones : HevcNalInfo.start.generalConstraintIndicatorFlags = 2 ^ 48 - 1 := rfl
    constructor
    · rw [hcompatibility, coded, hv]
      exact ones_and 32 _
    · rw [hconstraint, coded, hv, hones, Nat.and_comm, Nat.and_two_pow_sub_one_eq_mod]
      change _ = u.sps.profileTierLevel.constraintFlags.toNat % 2 ^ 32
      omega
    · rw [htier, coded, hv]
      exact Nat.zero_max _
    · rw [hlevel, coded, hv]
      refine ⟨fun _ v hmem => absurd hmem (Option.not_mem_none v), fun _ => ?_⟩
      rw [show HevcNalInfo.start.generalLevelIdc = 0 from rfl, Nat.zero_max, ite_id]
      rfl
    · rw [hprofile, coded, hv]
      exact Nat.zero_max _
    · rw [hlayers]
      exact Nat.zero_max _
  | some v =>
    rw [u.start_of_some hv] at hcompatibility hconstraint htier hlevel hprofile hlayers
    constructor
    · rw [hcompatibility, coded, hv]
      exact (BitVec.toNat_and _ _).symm
    · rw [hconstraint, coded, hv]
      change _ = (_ &&& _ : BitVec 48).toNat % _
      rw [BitVec.toNat_and, Nat.and_mod_two_pow]
    · rw [htier, coded, hv]
      rfl
    · rw [hlevel, coded, hv]
      refine (level_merge_iff v.1.profileTierLevel u.sps.profileTierLevel).trans ⟨fun h w hw => ?_, fun h => h v rfl⟩
      obtain rfl := Option.mem_some_iff.mp hw
      exact h
    · rw [hprofile, coded, hv]
      rfl
    · rw [hlayers]
      exact max_eq_right (Nat.le_add_left 1 _)

theorem fits : (u.written idc parallelismType).Fits := by
  have hmerged := u.merged idc parallelismType
  have hmax := u.sps.maxSubLayersMinus1.isLt
  have hlevel := u.sps.profileTierLevel.levelIdc.isLt
  have hstart : u.start.generalLevelIdc < 256 := by
    cases hv : u.vps with
    | none => rw [start, hv]; decide
    | some v => rw [u.start_of_some hv]; exact BitVec.isLt _
  constructor
  · exact BitVec.isLt u.sps.profileTierLevel.profileSpace
  · rw [hmerged.tier]
    exact u.coded_lt fun p => Bool.toNat_lt _
  · rw [hmerged.profile]
    exact u.coded_lt fun p => BitVec.isLt _
  · rw [hmerged.compatibility]
    exact BitVec.isLt _
  · rw [hmerged.constraint]
    exact Nat.lt_trans (Nat.mod_lt _ (by decide)) (by decide)
  · rw [written_level]
    split_ifs
    · exact hlevel
    · exact max_lt hstart hlevel
  · exact Nat.zero_lt_succ 3
  · rw [hmerged.layers]
    omega
  · exact Bool.toNat_lt _

theorem subLayers_eq_iff : u.sps.maxSubLayersMinus1.val + 1 = u.subLayers ↔
    ∀ v ∈ u.vps, v.1.maxSubLayersMinus1.val ≤ u.sps.maxSubLayersMinus1.val := by
  rw [subLayers]
  cases u.vps with
  | none => exact ⟨fun _ v hv => absurd hv (Option.not_mem_none v), fun _ => rfl⟩
  | some v =>
    rw [Option.elim_some]
    refine ⟨fun h w hw => ?_, fun h => ?_⟩
    · obtain rfl := Option.mem_some_iff.mp hw
      omega
    · have := h v rfl
      omega

theorem decodeArrays_paramSets : HevcConfig.decodeArrays (u.vpsBytes.elim 0 (fun _ => 1) + 1 + 1)
    (u.vpsBytes.elim [] (csdArray kHevcNalUnitVps) ++
      (csdArray kHevcNalUnitSps u.spsNal.bytes ++ csdArray kHevcNalUnitPps u.ppsNal.bytes)) =
    some ((u.vpsBytes.map (singleton kHevcNalUnitVps)).toList ++
      [singleton kHevcNalUnitSps u.spsNal.bytes, singleton kHevcNalUnitPps u.ppsNal.bytes], []) := by
  have hboth : HevcConfig.decodeArrays 2 (csdArray kHevcNalUnitSps u.spsNal.bytes ++ csdArray kHevcNalUnitPps u.ppsNal.bytes) =
      some ([singleton kHevcNalUnitSps u.spsNal.bytes, singleton kHevcNalUnitPps u.ppsNal.bytes], []) := by
    have hpps : HevcConfig.decodeArrays (0 + 1) (HevcConfig.arrayBytes kHevcNalUnitPps u.ppsNal.bytes ++ []) = _ :=
      HevcConfig.decodeArrays_arrayBytes (by decide) u.pps_lt []
    rw [List.append_nil] at hpps
    rw [csdArray_eq (by decide), csdArray_eq (by decide), HevcConfig.decodeArrays_arrayBytes (by decide) u.sps_lt, hpps]
    rfl
  rw [vpsBytes]
  cases hv : u.vps with
  | none => exact hboth
  | some v =>
    simp only [Option.map_some, Option.elim_some]
    rw [csdArray_eq (by decide), HevcConfig.decodeArrays_arrayBytes (by decide) (u.vps_lt v hv), hboth]
    rfl

theorem recorded_iff :
    (∃ config, u.Recorded (writeCsd (u.written idc parallelismType) u.vpsBytes u.spsNal.bytes u.ppsNal.bytes) config) ↔
      u.Mergeable := by
  have hmerged := u.merged idc parallelismType
  have hcount : u.vpsBytes.elim 0 (fun _ => 1) + 1 + 1 < 256 := by
    cases u.vpsBytes with
    | none => decide
    | some b =>
      rw [Option.elim_some]
      decide
  have hdecode := decode_csdHeader (u.fits idc parallelismType) hcount u.decodeArrays_paramSets
  constructor
  · rintro ⟨config, hrecorded⟩
    obtain rfl := Option.some.inj (hdecode.symm.trans hrecorded.decoded)
    refine ⟨?_, ?_, ?_⟩
    · rw [← subLayers_eq_iff, ← hrecorded.layers]
      exact hmerged.layers.symm
    · have hconstraint := hmerged.constraint.symm.trans hrecorded.constraint
      omega
    · exact hmerged.level.mp hrecorded.level
  · intro hmergeable
    refine ⟨_, hdecode, ?_, rfl, hmerged.compatibility, ?_, hmerged.tier, hmerged.level.mpr hmergeable.level, hmerged.profile, ?_⟩
    · have hheader (count : Nat) : (csdHeader (u.written idc parallelismType) count).length = 23 := rfl
      have hvps : (u.vpsBytes.elim [] (csdArray kHevcNalUnitVps)).length = u.vpsBytes.elim 0 csdArraySize := by
        cases u.vpsBytes with
        | none => rfl
        | some b => exact length_csdArray _ b
      simp only [writeCsd, List.length_append, length_csdArray, hheader, hvps]
      omega
    · exact hmerged.constraint.trans (Nat.mod_eq_of_lt hmergeable.constraint)
    · exact hmerged.layers.trans (u.subLayers_eq_iff.mpr hmergeable.layers)

theorem mergeable_of_recorded {σ : Type} {r : BitReader σ} {rest : σ → List Bool} (h : r.Laws rest) {memory : Memory}
    {csd : CodecSpecificData} {config : HevcConfig} (hmake : makeHevcCodecSpecificData r memory u.data = .ok (some csd))
    (hrecorded : u.Recorded csd config) : u.SpsEnds r memory ∧ u.Mergeable := by
  by_cases hends : u.SpsEnds r memory
  · obtain ⟨idc, parallelismType, hwritten⟩ := u.make_of_spsEnds h hends
    obtain rfl := Option.some.inj (Except.ok.inj (hwritten.symm.trans hmake))
    exact ⟨hends, (u.recorded_iff idc parallelismType).mp ⟨config, hrecorded⟩⟩
  · rw [u.make_of_not_spsEnds h hends] at hmake
    cases hmake

end AccessUnit

/-- A record is written that holds what is coded in the access unit exactly where the parser comes to the end of the SPS and no
    field is lost. -/
theorem makeHevcCodecSpecificData_iff {σ : Type} {r : BitReader σ} {rest : σ → List Bool} (h : r.Laws rest) (memory : Memory)
    (u : AccessUnit) : (∃ csd config, makeHevcCodecSpecificData r memory u.data = .ok (some csd) ∧ u.Recorded csd config) ↔
      u.SpsEnds r memory ∧ u.Mergeable := by
  constructor
  · rintro ⟨csd, config, hmake, hrecorded⟩
    exact u.mergeable_of_recorded h hmake hrecorded
  · rintro ⟨hends, hmergeable⟩
    obtain ⟨idc, parallelismType, hmake⟩ := u.make_of_spsEnds h hends
    obtain ⟨config, hrecorded⟩ := (u.recorded_iff idc parallelismType).mpr hmergeable
    exact ⟨_, config, hmake, hrecorded⟩

/-! ### Examples -/

/-- A VPS of the profile of `plainSps`, without constraint flags. -/
def plainVps : Vps where
  videoParameterSetId := 0
  reservedThree2bits := 3
  maxLayersMinus1 := 0
  maxSubLayersMinus1 := subLayers 0
  temporalIdNestingFlag := 1
  reserved0xffff16bits := 0xffff
  profileTierLevel := { profileIdc := 1, profileCompatibilityFlags := 0x60000000, levelIdc := 120 }

def plainVpsNal : NalOf plainVps.elements where
  header := 0x4001
  rbsp := [12, 1, 255, 255, 1, 96, 0, 0, 0, 0, 0, 0, 0, 0, 0, 120, 128]
  trailing := [true, false, false, false, false, false, false, false]
  bits_eq := by decide +kernel

/-- The same with two sub-layers. -/
def layeredVps : Vps := { plainVps with maxSubLayersMinus1 := subLayers 1 }

def layeredVpsNal : NalOf layeredVps.elements where
  header := 0x4001
  rbsp := [12, 3, 255, 255, 1, 96, 0, 0, 0, 0, 0, 0, 0, 0, 0, 120, 0, 0, 128]
  trailing := [true, false, false, false, false, false, false, false]
  bits_eq := by decide +kernel

def plainPps : Pps where
  picParameterSetId := codeOf 0
  seqParameterSetId := codeOf 0
  dependentSliceSegmentsEnabledFlag := 0
  outputFlagPresentFlag := 0
  numExtraSliceHeaderBits := 0
  signDataHidingEnabledFlag := 0
  cabacInitPresentFlag := 0
  numRefIdxL0DefaultActiveMinus1 := codeOf 0
  numRefIdxL1DefaultActiveMinus1 := codeOf 0
  initQpMinus26 := ⟨0, by decide⟩
  constrainedIntraPredFlag := 0
  transformSkipEnabledFlag := 0
  diffCuQpDeltaDepth := none
  cbQpOffset := ⟨0, by decide⟩
  crQpOffset := ⟨0, by decide⟩
  sliceChromaQpOffsetsPresentFlag := 0
  weightedPredFlag := 0
  weightedBipredFlag := 0
  transquantBypassEnabledFlag := 0
  tilesEnabledFlag := false
  entropyCodingSyncEnabledFlag := false

def plainPpsNal : NalOf plainPps.elements where
  header := 0x4401
  rbsp := [192, 113, 129]
  trailing := [true]
  bits_eq := by decide +kernel

def vpsUnit : NalUnit := ⟨plainVpsNal.bytes, by decide, by decide +kernel, by decide +kernel, by decide +kernel⟩

def layeredVpsUnit : NalUnit := ⟨layeredVpsNal.bytes, by decide, by decide +kernel, by decide +kernel, by decide +kernel⟩

def spsUnit : NalUnit := ⟨plainNal.bytes, by decide, by decide +kernel, by decide +kernel, by decide +kernel⟩

def ppsUnit : NalUnit := ⟨plainPpsNal.bytes, by decide, by decide +kernel, by decide +kernel, by decide +kernel⟩

/-- The three parameter sets. -/
def plainUnit : AccessUnit where
  units := [(.long, vpsUnit), (.long, spsUnit), (.long, ppsUnit)]
  vps := some ⟨plainVps, plainVpsNal⟩
  sps := plainSps
  spsNal := plainNal
  pps := plainPps
  ppsNal := plainPpsNal
  vps_first := by decide +kernel
  sps_first := by decide +kernel
  pps_first := by decide +kernel
  vps_lt := fun v hv => by cases hv; decide +kernel
  sps_lt := by decide +kernel
  pps_lt := by decide +kernel

/-- New buffers hold zeros. -/
def zeroMemory : Memory := ⟨fun _ n => List.replicate n 0, fun _ _ => List.length_replicate⟩

theorem makeHevcCodecSpecificData_iff_plain : ∃ csd config,
    makeHevcCodecSpecificData listReader zeroMemory plainUnit.data = .ok (some csd) ∧ plainUnit.Recorded csd config := by
  refine (makeHevcCodecSpecificData_iff listReader_laws zeroMemory plainUnit).mpr
    ⟨plainUnit.spsEnds_of_readable listReader_laws readable_plainSps, ?_, by decide, ?_⟩
  · rintro v ⟨⟩
    exact Nat.le_refl 0
  · rintro v ⟨⟩
    exact fun _ _ => Nat.le_refl 120

/-- Without the VPS. -/
def loneUnit : AccessUnit := { plainUnit with
  units := [(.long, spsUnit), (.long, ppsUnit)]
  vps := none
  vps_first := by decide +kernel
  sps_first := by decide +kernel
  pps_first := by decide +kernel
  vps_lt := fun v hv => absurd hv (Option.not_mem_none v) }

/-- With two sub-layers in the VPS. -/
def layeredUnit : AccessUnit := { plainUnit with
  units := [(.long, layeredVpsUnit), (.long, spsUnit), (.long, ppsUnit)]
  vps := some ⟨layeredVps, layeredVpsNal⟩
  vps_first := by decide +kernel
  sps_first := by decide +kernel
  pps_first := by decide +kernel
  vps_lt := fun v hv => by cases hv; decide +kernel }

/-- Constraint flags of the SPS are lost in the first record, and a sub-layer of the VPS in the second one. -/
theorem makeHevcCodecSpecificData_loses :
    (∀ csd config, makeHevcCodecSpecificData listReader zeroMemory loneUnit.data = .ok (some csd) →
      ¬ loneUnit.Recorded csd config) ∧
    ∀ csd config, makeHevcCodecSpecificData listReader zeroMemory layeredUnit.data = .ok (some csd) →
      ¬ layeredUnit.Recorded csd config := by
  constructor <;> intro csd config hmake hrecorded
  · obtain ⟨-, hmergeable⟩ := loneUnit.mergeable_of_recorded listReader_laws hmake hrecorded
    exact absurd hmergeable.constraint (by decide)
  · obtain ⟨-, hmergeable⟩ := layeredUnit.mergeable_of_recorded listReader_laws hmake hrecorded
    exact absurd (hmergeable.layers _ rfl) (by decide)

end BcmPlatform.Hevc
