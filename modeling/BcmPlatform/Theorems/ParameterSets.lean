import BcmPlatform.Theorems.Rbsp
import BcmPlatform.Theorems.SpsReferences

/-! `ParseHEVCSPS` on the payload of an SPS: it reads each element where the syntax has it exactly when no set of reference
    pictures is inter-predicted, no long-term picture is listed and no picture rate is fixed in general. What the parsers of
    the three parameter sets leave in the info. -/

namespace BcmPlatform.Hevc
open Lib Parse

variable {σ : Type} {r : BitReader σ} {rest : σ → List Bool} {p : Sps} {info : HevcNalInfo}

/-! ### The payload of a NAL unit -/

theorem stored_zipIdx (l memory : List UInt8) (hle : l.length ≤ memory.length) :
    stored memory l.zipIdx = l ++ memory.drop l.length := by
  have hfrom (k : Nat) : ∀ memory : List UInt8, k + l.length ≤ memory.length →
      (l.zipIdx k).foldl (fun m w => m.set w.2 w.1) memory = memory.take k ++ l ++ memory.drop (k + l.length) := by
    induction l generalizing k with
    | nil =>
      intro memory _
      rw [List.zipIdx_nil, List.foldl_nil, List.append_nil, List.length_nil, Nat.add_zero, List.take_append_drop]
    | cons b l ih =>
      intro memory hlen
      rw [List.length_cons] at hlen
      have hlt : k < memory.length := by omega
      rw [List.zipIdx_cons, List.foldl_cons, ih (by simp at hle; omega) (k + 1) _ (by rw [List.length_set]; omega)]
      have htake : (memory.set k b).take (k + 1) = memory.take k ++ [b] := by
        rw [List.take_succ_eq_append_getElem (by rwa [List.length_set]), List.getElem_set_self, List.take_set_of_le (Nat.le_refl k)]
      have hdrop : (memory.set k b).drop (k + 1 + l.length) = memory.drop (k + 1 + l.length) :=
        List.drop_set_of_lt (by omega)
      rw [htake, hdrop, List.append_assoc, List.append_assoc, List.singleton_append, List.length_cons]
      simp only [List.append_assoc, List.cons_append, Nat.add_right_comm, Nat.add_assoc]
  have := hfrom 0 memory (by omega)
  rwa [List.take_zero, List.nil_append, Nat.zero_add] at this

/-- A NAL unit with a payload, which begins with elements. -/
structure NalOf (cs : List HevcCoded) where
  header : BitVec 16
  rbsp : List UInt8
  trailing : List Bool
  bits_eq : bitsOf rbsp = codedBits cs ++ trailing

namespace NalOf
variable {cs : List HevcCoded}

def bytes (n : NalOf cs) : List UInt8 :=
  UInt8.ofNat (n.header.toNat / 256) :: UInt8.ofNat n.header.toNat :: insertEmulation n.rbsp

/-- The bits behind the elements in a buffer of the size of the payload with its emulation prevention bytes. -/
def after (n : NalOf cs) : Nat := 8 * (insertEmulation n.rbsp).length - (codedBits cs).length

theorem parseNal_eq (n : NalOf cs) (parse : HevcParse σ HevcNalInfo) {memory : List UInt8}
    (hmemory : memory.length = (insertEmulation n.rbsp).length) (h : r.Laws rest) :
    ∃ s tail, rest s = codedBits cs ++ tail ∧ tail.length = n.after ∧
      parseNal r parse memory n.bytes = ((parse s).1, (parse s).2.map (·.1)) := by
  have hle : n.rbsp.length ≤ memory.length := by
    rw [hmemory]
    exact length_le_length_insertEmulation n.rbsp
  obtain ⟨hwrites, -⟩ := RbspCopy.extract_spec (insertEmulation n.rbsp)
  rw [removeEmulation_insertEmulation] at hwrites
  have hstored : stored memory (extractHevcRbsp (insertEmulation n.rbsp)).writes = n.rbsp ++ memory.drop n.rbsp.length := by
    rw [hwrites, stored_zipIdx _ _ hle]
  have hbits : bitsOf (n.rbsp ++ memory.drop n.rbsp.length) =
      codedBits cs ++ (n.trailing ++ bitsOf (memory.drop n.rbsp.length)) := by
    rw [bitsOf, List.flatMap_append, ← List.append_assoc, ← n.bits_eq]
    rfl
  refine ⟨_, _, (h.ofBytes _).trans hbits, ?_, ?_⟩
  · have hlength := congrArg List.length hbits
    rw [length_bitsOf, List.length_append, List.length_append, List.length_drop] at hlength
    rw [after, ← hmemory]
    omega
  · have hheader : ¬ n.bytes.length < 2 := Nat.not_lt.mpr (Nat.le_add_left 2 _)
    rw [← hstored, parseNal, if_neg hheader]
    rfl

end NalOf

/-! ### The payload of an SPS -/

/-- What the code reads as the syntax has it. -/
structure Readable (p : Sps) : Prop where
  sets : ∀ set ∈ p.shortTermRefPicSets, set.isInter = false
  longTerm : ∀ l, p.longTermRefPics = some l → l.1.val = 0
  rates : ∀ v, p.vui = some v → VariableRates p.maxSubLayersMinus1.val v

/-- The info after an SPS. -/
def HevcNalInfo.withSps (info : HevcNalInfo) (p : Sps) : HevcNalInfo :=
  (({ info with
      numTemporalLayers := max info.numTemporalLayers (p.maxSubLayersMinus1.val + 1)
      temporalIdNestingFlag := p.temporalIdNestingFlag.toNat }.mergeTable p.profileTierLevel).withPicture p).withSegmentation
    (p.vui.bind (·.bitstreamRestriction))

section Sps
variable (h : r.Laws rest)
include h

theorem reads_spsReferences (hp : Readable p) (info : HevcNalInfo) :
    Reads rest (spsReferences r p.maxSubLayersMinus1.val info) (p.shortTermElements ++ (p.longTermElements ++ p.vuiElements))
      (info.withSegmentation (p.vui.bind (·.bitstreamRestriction))) := by
  refine (reads_ue h _).bind ?_
  have hle : ¬ p.shortTermRefPicSets.length > maxShortTermRpsCount := Nat.not_lt.mpr p.shortTerm_le
  rw [if_neg hle]
  refine (reads_sets h hp.sets).bind ?_
  rw [if_neg (not_not.mpr rfl)]
  refine (reads_ifFlag h fun l hl => reads_longTerm h _ (hp.longTerm l hl)).bind ?_
  refine (reads_bits h [(.spsTemporalMvpEnabledFlag, ⟨1, p.temporalMvpEnabledFlag⟩),
    (.strongIntraSmoothingEnabledFlag, ⟨1, p.strongIntraSmoothingEnabledFlag⟩)]).bind ?_
  exact reads_vui h hp.rates info

theorem strays_spsReferences (hp : ¬ Readable p) (info : HevcNalInfo) :
    Strays rest (spsReferences r p.maxSubLayersMinus1.val info)
      (p.shortTermElements ++ (p.longTermElements ++ p.vuiElements)) := by
  refine (reads_ue h _).strays_bind ?_
  have hle : ¬ p.shortTermRefPicSets.length > maxShortTermRpsCount := Nat.not_lt.mpr p.shortTerm_le
  rw [if_neg hle]
  by_cases hsets : ∀ set ∈ p.shortTermRefPicSets, set.isInter = false
  · refine (reads_sets h hsets).strays_bind ?_
    rw [if_neg (not_not.mpr rfl)]
    by_cases hlong : ∀ l, p.longTermRefPics = some l → l.1.val = 0
    · refine (reads_ifFlag h fun l hl => reads_longTerm h _ (hlong l hl)).strays_bind ?_
      refine (reads_bits h [(.spsTemporalMvpEnabledFlag, ⟨1, p.temporalMvpEnabledFlag⟩),
        (.strongIntraSmoothingEnabledFlag, ⟨1, p.strongIntraSmoothingEnabledFlag⟩)]).strays_bind ?_
      have hrates : ¬ ∀ v, p.vui = some v → VariableRates p.maxSubLayersMinus1.val v := fun hrates => hp ⟨hsets, hlong, hrates⟩
      simp only [not_forall] at hrates
      obtain ⟨v, hv, hrates⟩ := hrates
      rw [hv]
      exact strays_vui h hrates info
    · simp only [not_forall] at hlong
      obtain ⟨l, hl, hsome⟩ := hlong
      rw [Sps.longTermElements, hl]
      exact (strays_ifFlag h (strays_longTerm h _ hsome)).bind.append
  · simp only [not_forall] at hsets
    obtain ⟨set, hset, hinter⟩ := hsets
    refine Strays.append (strays_sets h ?_ ⟨set, hset, eq_true_of_ne_false hinter⟩ (Nat.zero_add _) (fun _ => p.first_explicit)
      fun hpos => absurd hpos (Nat.lt_irrefl 0))
    rw [if_neg (not_not.mpr rfl)]
    exact (first_getBits r HevcElement.longTermRefPicsPresentFlag 1).bind.bind

theorem reads_maxSubLayers (p : Sps) :
    Reads rest (getBits r HevcElement.spsMaxSubLayersMinus1 3)
      [.u .spsMaxSubLayersMinus1 (BitVec.ofNat 3 p.maxSubLayersMinus1.val)] p.maxSubLayersMinus1.val := by
  refine (reads_u h (BitVec.ofNat 3 p.maxSubLayersMinus1.val) (by decide)).congr rfl ?_
  rw [BitVec.toNat_ofNat]
  exact Nat.mod_eq_of_lt (Nat.lt_trans p.maxSubLayersMinus1.isLt (by decide))

theorem reads_spsRbsp (hp : Readable p) (info : HevcNalInfo) :
    Reads rest (parseSpsRbsp r info) p.elements (info.withSps p) := by
  have hmax : ¬ p.maxSubLayersMinus1.val + 1 > maxSubLayers := Nat.not_lt.mpr p.maxSubLayersMinus1.isLt
  rw [Sps.elements, Sps.headElements, List.append_assoc, List.append_assoc]
  refine (reads_bits h [(.spsVideoParameterSetId, ⟨4, p.videoParameterSetId⟩)]).bind ?_
  refine (reads_maxSubLayers h p).bind ((reads_flag h p.temporalIdNestingFlag).bind ?_)
  rw [if_neg hmax]
  refine (reads_generalInfo h _ p.profileTierLevel _).bind ?_
  exact (reads_spsPicture h _ p).bind ((reads_spsCoding h p).bind (reads_spsReferences h hp _))

theorem strays_spsRbsp (hp : ¬ Readable p) (info : HevcNalInfo) : Strays rest (parseSpsRbsp r info) p.elements := by
  have hmax : ¬ p.maxSubLayersMinus1.val + 1 > maxSubLayers := Nat.not_lt.mpr p.maxSubLayersMinus1.isLt
  rw [Sps.elements, Sps.headElements, List.append_assoc, List.append_assoc]
  refine (reads_bits h [(.spsVideoParameterSetId, ⟨4, p.videoParameterSetId⟩)]).strays_bind ?_
  refine (reads_maxSubLayers h p).strays_bind ((reads_flag h p.temporalIdNestingFlag).strays_bind ?_)
  rw [if_neg hmax]
  refine (reads_generalInfo h _ p.profileTierLevel _).strays_bind ?_
  exact (reads_spsPicture h _ p).strays_bind ((reads_spsCoding h p).strays_bind (strays_spsReferences h hp _))

end Sps

/-! ### The NAL unit of an SPS -/

/-- Every element is read where the syntax has it, and the values that are used are those that are coded. -/
structure SpsRead (r : BitReader σ) (n : NalOf p.elements) (memory : List UInt8) (info : HevcNalInfo) : Prop where
  reads : (parseHevcSps r memory n.bytes info).1 = readsOf n.after p.elements
  values : ∃ info', (parseHevcSps r memory n.bytes info).2 = some info' ∧
    info'.chromaFormat = p.chromaFormatIdc.val ∧
    info'.picWidthInLumaSamples = p.picWidthInLumaSamples.val ∧
    info'.picHeightInLumaSamples = p.picHeightInLumaSamples.val ∧
    info'.bitDepthLumaMinus8 = p.bitDepthLumaMinus8.val ∧
    info'.bitDepthChromaMinus8 = p.bitDepthChromaMinus8.val ∧
    ∀ b, p.vui.bind (·.bitstreamRestriction) = some b → info'.minSpatialSegmentationIdc = b.minSpatialSegmentationIdc.val

/-- The elements are read, and the values fit the fields of the info. -/
structure SpsSupported (p : Sps) (info : HevcNalInfo) : Prop where
  readable : Readable p
  width : p.picWidthInLumaSamples.val < 2147483648
  height : p.picHeightInLumaSamples.val < 2147483648
  luma : p.bitDepthLumaMinus8.val < 256
  chroma : p.bitDepthChromaMinus8.val < 256
  segmentation : ∀ b, p.vui.bind (·.bitstreamRestriction) = some b →
    b.minSpatialSegmentationIdc.val ≤ info.minSpatialSegmentationIdc

theorem toInt32_eq_iff {v : Nat} : toInt32 v = v ↔ v < 2147483648 := by
  unfold toInt32
  split <;> omega

theorem mod_256_eq_iff {v : Nat} : v % 256 = v ↔ v < 256 := by omega

theorem withSps_values_iff (hp : Readable p) (info : HevcNalInfo) :
    ((info.withSps p).chromaFormat = p.chromaFormatIdc.val ∧
      (info.withSps p).picWidthInLumaSamples = p.picWidthInLumaSamples.val ∧
      (info.withSps p).picHeightInLumaSamples = p.picHeightInLumaSamples.val ∧
      (info.withSps p).bitDepthLumaMinus8 = p.bitDepthLumaMinus8.val ∧
      (info.withSps p).bitDepthChromaMinus8 = p.bitDepthChromaMinus8.val ∧
      ∀ b, p.vui.bind (·.bitstreamRestriction) = some b →
        (info.withSps p).minSpatialSegmentationIdc = b.minSpatialSegmentationIdc.val) ↔ SpsSupported p info := by
  have hpicture : (info.withSps p).chromaFormat = p.chromaFormatIdc.val ∧
      (info.withSps p).picWidthInLumaSamples = toInt32 p.picWidthInLumaSamples.val ∧
      (info.withSps p).picHeightInLumaSamples = toInt32 p.picHeightInLumaSamples.val ∧
      (info.withSps p).bitDepthLumaMinus8 = p.bitDepthLumaMinus8.val % 256 ∧
      (info.withSps p).bitDepthChromaMinus8 = p.bitDepthChromaMinus8.val % 256 := by
    unfold HevcNalInfo.withSps HevcNalInfo.withSegmentation
    split <;> exact ⟨rfl, rfl, rfl, rfl, rfl⟩
  have hsegmentation (b : BitstreamRestriction) (hb : p.vui.bind (·.bitstreamRestriction) = some b) :
      (info.withSps p).minSpatialSegmentationIdc = min info.minSpatialSegmentationIdc b.minSpatialSegmentationIdc.val := by
    rw [HevcNalInfo.withSps, hb]
    rfl
  obtain ⟨hformat, hwidth, hheight, hluma, hchroma⟩ := hpicture
  rw [hwidth, hheight, hluma, hchroma, toInt32_eq_iff, toInt32_eq_iff, mod_256_eq_iff, mod_256_eq_iff]
  constructor
  · rintro ⟨-, hwidth, hheight, hluma, hchroma, hmin⟩
    exact ⟨hp, hwidth, hheight, hluma, hchroma, fun b hb => by
      have := hmin b hb
      rw [hsegmentation b hb] at this
      omega⟩
  · rintro ⟨-, hwidth, hheight, hluma, hchroma, hmin⟩
    exact ⟨hformat, hwidth, hheight, hluma, hchroma, fun b hb => by
      rw [hsegmentation b hb, Nat.min_eq_right (hmin b hb)]⟩

theorem not_spsRead (h : r.Laws rest) (hp : ¬ Readable p) (n : NalOf p.elements) {memory : List UInt8}
    (hmemory : memory.length = (insertEmulation n.rbsp).length) : ¬ SpsRead r n memory info := by
  intro hread
  obtain ⟨s, tail, hs, htail, hparse⟩ := n.parseNal_eq (parseSpsRbsp r info) hmemory h
  have hreads := hread.reads
  rw [parseHevcSps, hparse] at hreads
  refine strays_spsRbsp h hp info s tail hs [] ?_
  rw [hreads, List.append_nil, htail]

/-- An SPS is read as it is written exactly where the code supports it. -/
theorem parseHevcSps_iff {r : BitReader σ} {rest : σ → List Bool} (h : r.Laws rest) (p : Sps) (n : NalOf p.elements)
    (memory : List UInt8) (hmemory : memory.length = (insertEmulation n.rbsp).length) (info : HevcNalInfo) :
    SpsRead r n memory info ↔ SpsSupported p info := by
  by_cases hp : Readable p
  · obtain ⟨s, tail, hs, htail, hparse⟩ := n.parseNal_eq (parseSpsRbsp r info) hmemory h
    obtain ⟨s', hread, -⟩ := reads_spsRbsp h hp info s tail hs
    have hparse : parseHevcSps r memory n.bytes info = _ := hparse
    rw [hread, htail] at hparse
    rw [← withSps_values_iff hp info]
    constructor
    · rintro ⟨-, info', hinfo, hvalues⟩
      rw [hparse] at hinfo
      obtain rfl : info.withSps p = info' := Option.some.inj hinfo
      exact hvalues
    · exact fun hvalues => ⟨by rw [hparse], _, by rw [hparse]; rfl, hvalues⟩
  · exact ⟨fun hread => absurd hread (not_spsRead h hp n hmemory), fun hsupported => absurd hsupported.readable hp⟩

/-! ### Examples -/

def code (v : Fin 65536) : Ue := ⟨v.val, by omega⟩

/-- The same of a number. -/
def codeOf (v : Nat) : Ue := code (Fin.ofNat 65536 v)

def subLayers (v : Nat) : Fin 7 := Fin.ofNat 7 v

/-- 1920 by 1080, with one layer and one set of reference pictures. -/
def plainSps : Sps where
  videoParameterSetId := 0
  maxSubLayersMinus1 := 0
  temporalIdNestingFlag := true
  profileTierLevel :=
    { profileIdc := 1, profileCompatibilityFlags := 0x60000000, constraintFlags := 0x900000000000, levelIdc := 120 }
  seqParameterSetId := code 0
  chromaFormatIdc := code 1
  separateColourPlaneFlag := 0
  picWidthInLumaSamples := code 1920
  picHeightInLumaSamples := code 1080
  conformanceWindow := none
  bitDepthLumaMinus8 := code 0
  bitDepthChromaMinus8 := code 0
  log2MaxPicOrderCntLsbMinus4 := code 4
  subLayerOrderingInfoPresentFlag := true
  orderingInfo := fun _ => ⟨code 1, code 0, code 0⟩
  log2MinLumaCodingBlockSizeMinus3 := code 0
  log2DiffMaxMinLumaCodingBlockSize := code 3
  log2MinLumaTransformBlockSizeMinus2 := code 0
  log2DiffMaxMinLumaTransformBlockSize := code 3
  maxTransformHierarchyDepthInter := code 0
  maxTransformHierarchyDepthIntra := code 0
  scalingLists := none
  ampEnabledFlag := 1
  sampleAdaptiveOffsetEnabledFlag := 1
  pcm := none
  shortTermRefPicSets := [.explicit (code 1) (code 0) (fun _ => (code 0, true)) fun _ => (code 0, true)]
  shortTerm_le := by decide
  first_explicit := fun set hset => by cases hset; rfl
  longTermRefPics := none
  temporalMvpEnabledFlag := 1
  strongIntraSmoothingEnabledFlag := 1
  vui := none

def plainNal : NalOf plainSps.elements where
  header := 0x4201
  rbsp := [1, 1, 96, 0, 0, 0, 144, 0, 0, 0, 0, 0, 120, 160, 3, 192, 128, 16, 229, 150, 185, 36, 217, 46, 200]
  trailing := [false, true, false, false, false]
  bits_eq := by decide +kernel

theorem readable_plainSps : Readable plainSps := by
  refine ⟨fun set hset => ?_, ?_, ?_⟩
  · obtain rfl := List.mem_singleton.mp hset
    rfl
  · rintro l ⟨⟩
  · rintro v ⟨⟩

theorem parseHevcSps_iff_plain : SpsRead listReader plainNal (List.replicate (insertEmulation plainNal.rbsp).length 0)
    { minSpatialSegmentationIdc := 4097 } := by
  refine (parseHevcSps_iff listReader_laws plainSps plainNal _ List.length_replicate _).mpr
    ⟨readable_plainSps, by decide, by decide, by decide, by decide, ?_⟩
  rintro b ⟨⟩

/-- The second set is predicted from the first one. -/
def interSps : Sps := { plainSps with
  shortTermRefPicSets := plainSps.shortTermRefPicSets ++ [.inter false (code 0) (fun _ => true) fun _ => true]
  shortTerm_le := by decide
  first_explicit := fun set hset => by cases hset; rfl }

def interNal : NalOf interSps.elements where
  header := 0x4201
  rbsp := [1, 1, 96, 0, 0, 0, 144, 0, 0, 0, 0, 0, 120, 160, 3, 192, 128, 16, 229, 150, 185, 36, 217, 175, 118, 64]
  trailing := [false, true, false, false, false, false, false, false]
  bits_eq := by decide +kernel

/-- One long-term picture is listed. -/
def longTermSps : Sps := { plainSps with longTermRefPics := some (code 1, fun _ => (0, 1)) }

def longTermNal : NalOf longTermSps.elements where
  header := 0x4201
  rbsp := [1, 1, 96, 0, 0, 0, 144, 0, 0, 0, 0, 0, 120, 160, 3, 192, 128, 16, 229, 150, 185, 36, 217, 47, 64, 28, 128]
  trailing := [false, true, false, false, false, false, false, false, false]
  bits_eq := by decide +kernel

def fixedRate : HrdSubLayer where
  fixedPicRateGeneralFlag := true
  fixedPicRateWithinCvsFlag := true
  elementalDurationInTcMinus1 := code 0
  lowDelayHrdFlag := false
  cpbCntMinus1 := code 0
  nal := fun _ => ⟨code 0, code 0, code 0, code 0, 0⟩
  vcl := fun _ => ⟨code 0, code 0, code 0, code 0, 0⟩

/-- The picture rate is fixed. -/
def fixedRateSps : Sps :=
  let hrd : Hrd := { nal := false, vcl := false, subPic := none, subLayers := fun _ => fixedRate }
  let timing : VuiTiming := { numUnitsInTick := 1001, timeScale := 60000, numTicksPocDiffOneMinus1 := none, hrd := some hrd }
  { plainSps with vui := some { timing := some timing } }

def fixedRateNal : NalOf fixedRateSps.elements where
  header := 0x4201
  rbsp := [1, 1, 96, 0, 0, 0, 144, 0, 0, 0, 0, 0, 120, 160, 3, 192, 128, 16, 229, 150, 185, 36, 217, 46, 224, 16, 0, 0, 62, 144,
    0, 14, 166, 4, 228]
  trailing := [false, true, false, false]
  bits_eq := by decide +kernel

/-- None of the three is read as it is written. -/
theorem parseHevcSps_misread :
    ¬ SpsRead listReader interNal (List.replicate (insertEmulation interNal.rbsp).length 0)
      { minSpatialSegmentationIdc := 4097 } ∧
    ¬ SpsRead listReader longTermNal (List.replicate (insertEmulation longTermNal.rbsp).length 0)
      { minSpatialSegmentationIdc := 4097 } ∧
    ¬ SpsRead listReader fixedRateNal (List.replicate (insertEmulation fixedRateNal.rbsp).length 0)
      { minSpatialSegmentationIdc := 4097 } := by
  refine ⟨not_spsRead listReader_laws (fun hp => ?_) _ List.length_replicate,
    not_spsRead listReader_laws (fun hp => ?_) _ List.length_replicate,
    not_spsRead listReader_laws (fun hp => ?_) _ List.length_replicate⟩
  · exact absurd (hp.sets _ (List.mem_append_right _ (List.mem_singleton.mpr rfl))) Bool.true_eq_false.mp
  · exact absurd (hp.longTerm _ rfl) (by decide)
  · exact absurd (hp.rates _ rfl _ rfl 0 (Nat.zero_le _)) Bool.true_eq_false.mp

end BcmPlatform.Hevc

/-! ### What is left in the info -/

namespace BcmPlatform.Hevc
open Lib Parse

variable {σ : Type} {r : BitReader σ} {rest : σ → List Bool}

/-- The info after a VPS. -/
def HevcNalInfo.withVps (info : HevcNalInfo) (v : Vps) : HevcNalInfo :=
  { info with numTemporalLayers := max info.numTemporalLayers (info.numTemporalLayers + 1) % 256 }.mergeTable v.profileTierLevel

/-- The info after an SPS, but for the least size of a segment, which stands behind all that is misread. -/
def HevcNalInfo.withSpsHead (info : HevcNalInfo) (p : Sps) : HevcNalInfo :=
  ({ info with
      numTemporalLayers := max info.numTemporalLayers (p.maxSubLayersMinus1.val + 1)
      temporalIdNestingFlag := p.temporalIdNestingFlag.toNat }.mergeTable p.profileTierLevel).withPicture p

/-- Two infos that differ in the least size of a segment only. -/
def HevcNalInfo.Resegmented (info info' : HevcNalInfo) : Prop := ∃ idc, info' = { info with minSpatialSegmentationIdc := idc }

theorem HevcNalInfo.Resegmented.refl (info : HevcNalInfo) : info.Resegmented info := ⟨_, rfl⟩

section Parts
variable (h : r.Laws rest)
include h

theorem reads_vpsRbsp (info : HevcNalInfo) (v : Vps) : Reads rest (parseVpsRbsp r info) v.elements (info.withVps v) := by
  have hmax : ¬ v.maxSubLayersMinus1.val + 1 > maxSubLayers := Nat.not_lt.mpr v.maxSubLayersMinus1.isLt
  have hlayers : Reads rest (getBits r HevcElement.vpsMaxSubLayersMinus1 3)
      [.u .vpsMaxSubLayersMinus1 (BitVec.ofNat 3 v.maxSubLayersMinus1.val)] v.maxSubLayersMinus1.val := by
    refine (reads_u h (BitVec.ofNat 3 v.maxSubLayersMinus1.val) (by decide)).congr rfl ?_
    rw [BitVec.toNat_ofNat]
    exact Nat.mod_eq_of_lt (Nat.lt_trans v.maxSubLayersMinus1.isLt (by decide))
  rw [Vps.elements]
  refine (reads_bits h [(.vpsVideoParameterSetId, ⟨4, v.videoParameterSetId⟩),
    (.vpsReservedThree2bits, ⟨2, v.reservedThree2bits⟩), (.vpsMaxLayersMinus1, ⟨6, v.maxLayersMinus1⟩)]).bind ?_
  refine hlayers.bind ((reads_bits h [(.vpsTemporalIdNestingFlag, ⟨1, v.temporalIdNestingFlag⟩),
    (.vpsReserved0xffff16bits, ⟨16, v.reserved0xffff16bits⟩)]).bind ?_)
  rw [if_neg hmax]
  exact reads_generalInfo h _ v.profileTierLevel _

/-- The elements of a PPS, with the signed one that is read as if it were unsigned. -/
def ppsElementsRead (q : Pps) : List HevcCoded :=
  q.headElements ++ (.ue .initQpMinus26 ⟨q.initQpMinus26.codeNum, q.initQpMinus26.codeNum_lt⟩ :: q.tailElements)

omit h in
theorem codedBits_ppsElementsRead (q : Pps) : codedBits (ppsElementsRead q) = codedBits q.elements := by
  rw [ppsElementsRead, Pps.elements, codedBits_append, codedBits_append]
  rfl

theorem reads_ppsRbsp (info : HevcNalInfo) (q : Pps) :
    ∃ parallelismType, Reads rest (parsePpsRbsp r info) (ppsElementsRead q) { info with parallelismType } := by
  refine ⟨if q.tilesEnabledFlag.toNat ≠ 0 ∧ q.entropyCodingSyncEnabledFlag.toNat ≠ 0 then 0
    else if q.entropyCodingSyncEnabledFlag.toNat ≠ 0 then 3 else if q.tilesEnabledFlag.toNat ≠ 0 then 2 else 1,
    ?_⟩
  rw [ppsElementsRead]
  refine (reads_ues h [(.ppsPicParameterSetId, q.picParameterSetId), (.ppsSeqParameterSetId, q.seqParameterSetId)]).bind ?_
  refine (reads_bits h [(.dependentSliceSegmentsEnabledFlag, ⟨1, q.dependentSliceSegmentsEnabledFlag⟩),
    (.outputFlagPresentFlag, ⟨1, q.outputFlagPresentFlag⟩), (.numExtraSliceHeaderBits, ⟨3, q.numExtraSliceHeaderBits⟩),
    (.signDataHidingEnabledFlag, ⟨1, q.signDataHidingEnabledFlag⟩), (.cabacInitPresentFlag, ⟨1, q.cabacInitPresentFlag⟩)]).bind ?_
  refine (reads_ues h [(.numRefIdxL0DefaultActiveMinus1, q.numRefIdxL0DefaultActiveMinus1),
    (.numRefIdxL1DefaultActiveMinus1, q.numRefIdxL1DefaultActiveMinus1),
    (.initQpMinus26, ⟨q.initQpMinus26.codeNum, q.initQpMinus26.codeNum_lt⟩)]).bind ?_
  refine (reads_bits h [(.constrainedIntraPredFlag, ⟨1, q.constrainedIntraPredFlag⟩),
    (.transformSkipEnabledFlag, ⟨1, q.transformSkipEnabledFlag⟩)]).bind ?_
  refine (reads_ifFlag h fun d _ => reads_ues h [(.diffCuQpDeltaDepth, d)]).bind ?_
  refine (reads_parseSe h q.cbQpOffset).bind ((reads_parseSe h q.crQpOffset).bind ?_)
  refine (reads_bits h [(.ppsSliceChromaQpOffsetsPresentFlag, ⟨1, q.sliceChromaQpOffsetsPresentFlag⟩),
    (.weightedPredFlag, ⟨1, q.weightedPredFlag⟩), (.weightedBipredFlag, ⟨1, q.weightedBipredFlag⟩),
    (.transquantBypassEnabledFlag, ⟨1, q.transquantBypassEnabledFlag⟩)]).bind ?_
  refine (reads_flag h q.tilesEnabledFlag).bind ((reads_flag h q.entropyCodingSyncEnabledFlag).bind ?_)
  exact Reads.pure _

end Parts

/-! ### The SPS behind its depths, whatever is read there -/

theorem yields_vuiRestriction (info : HevcNalInfo) : Yields rest (vuiRestriction r info) [] info.Resegmented := by
  refine yields_bind fun flag => ?_
  split_ifs
  · exact yields_bind fun _ => yields_bind fun idc => yields_bind fun _ => yields_pure ⟨_, rfl⟩
  · exact yields_pure (.refl info)

theorem yields_vuiParameters (max : Nat) (info : HevcNalInfo) :
    Yields rest (vuiParameters r max info) [] info.Resegmented := by
  refine yields_bind fun flag => ?_
  split_ifs
  · refine yields_bind fun _ => yields_bind fun _ => yields_bind fun _ => yields_bind fun _ => ?_
    exact yields_bind fun _ => yields_bind fun _ => yields_bind fun _ => yields_vuiRestriction info
  · exact yields_pure (.refl info)

theorem yields_spsReferences (max : Nat) (info : HevcNalInfo) :
    Yields rest (spsReferences r max info) [] info.Resegmented := by
  refine yields_bind fun num => ?_
  split_ifs
  · exact yields_pure (.refl info)
  · refine yields_bind fun error => ?_
    split_ifs
    · exact yields_pure (.refl info)
    · exact yields_bind fun _ => yields_bind fun _ => yields_vuiParameters max info

theorem yields_spsRbsp (h : r.Laws rest) (info : HevcNalInfo) (p : Sps) :
    Yields rest (parseSpsRbsp r info) p.elements (info.withSpsHead p).Resegmented := by
  have hmax : ¬ p.maxSubLayersMinus1.val + 1 > maxSubLayers := Nat.not_lt.mpr p.maxSubLayersMinus1.isLt
  rw [Sps.elements, Sps.headElements, List.append_assoc, List.append_assoc]
  refine (reads_bits h [(.spsVideoParameterSetId, ⟨4, p.videoParameterSetId⟩)]).yields_bind ?_
  refine (reads_maxSubLayers h p).yields_bind ((reads_flag h p.temporalIdNestingFlag).yields_bind ?_)
  rw [if_neg hmax]
  refine (reads_generalInfo h _ p.profileTierLevel _).yields_bind ?_
  refine (reads_spsPicture h _ p).yields_bind ((reads_spsCoding h p).yields_bind ?_)
  exact (yields_spsReferences _ _).anywhere

/-! ### The NAL units -/

section Nals
variable {memory : List UInt8} (h : r.Laws rest) (info : HevcNalInfo)
include h

theorem parseHevcVps_eq {v : Vps} (n : NalOf v.elements) (hmemory : memory.length = n.bytes.length - 2) :
    (parseHevcVps r memory n.bytes info).2 = some (info.withVps v) := by
  obtain ⟨s, tail, hs, -, hparse⟩ := n.parseNal_eq (parseVpsRbsp r info) hmemory h
  obtain ⟨s', hread, -⟩ := reads_vpsRbsp h info v s tail hs
  rw [parseHevcVps, hparse, hread]
  rfl

theorem parseHevcPps_eq {q : Pps} (n : NalOf q.elements) (hmemory : memory.length = n.bytes.length - 2) :
    ∃ parallelismType, (parseHevcPps r memory n.bytes info).2 = some { info with parallelismType } := by
  obtain ⟨s, tail, hs, -, hparse⟩ := n.parseNal_eq (parsePpsRbsp r info) hmemory h
  obtain ⟨parallelismType, hreads⟩ := reads_ppsRbsp h info q
  obtain ⟨s', hread, -⟩ := hreads s tail (by rw [hs, codedBits_ppsElementsRead])
  refine ⟨parallelismType, ?_⟩
  rw [parseHevcPps, hparse, hread]
  rfl

theorem parseHevcSps_of_some {p : Sps} (n : NalOf p.elements) (hmemory : memory.length = n.bytes.length - 2)
    {info' : HevcNalInfo} (hsome : (parseHevcSps r memory n.bytes info).2 = some info') :
    (info.withSpsHead p).Resegmented info' := by
  obtain ⟨s, tail, hs, -, hparse⟩ := n.parseNal_eq (parseSpsRbsp r info) hmemory h
  rw [parseHevcSps, hparse] at hsome
  obtain ⟨⟨info', s'⟩, hresult, rfl⟩ := Option.map_eq_some_iff.mp hsome
  exact yields_spsRbsp h info p s tail hs _ info' s' (Prod.ext rfl hresult)

theorem isSome_parseHevcSps {p : Sps} (hp : Readable p) (n : NalOf p.elements) (hmemory : memory.length = n.bytes.length - 2) :
    (parseHevcSps r memory n.bytes info).2.isSome := by
  obtain ⟨s, tail, hs, -, hparse⟩ := n.parseNal_eq (parseSpsRbsp r info) hmemory h
  obtain ⟨s', hread, -⟩ := reads_spsRbsp h hp info s tail hs
  rw [parseHevcSps, hparse, hread]
  rfl

end Nals
end BcmPlatform.Hevc
