import BcmPlatform.Bomx.AacParser
import BcmPlatform.Theorems.Timestamps

/-! An AudioSpecificConfig that is parsed and written as an ADTS header. The parser is followed through the bits of the
    config: each part leaves the bits behind it. -/

namespace BcmPlatform.Bomx
open Lib

section Reader
variable {σ : Type} {b : Batom σ} {rest : σ → List Bool} {s bs : σ} {n v : Nat} {l tail : List Bool} {x : Bool}

/-! ### Reads -/

theorem Batom.Laws.read_bits (h : b.Laws rest) (hs : rest s = toBits n v ++ tail) (hv : v < 2 ^ n) :
    (b.bits s n).1 = v ∧ rest (b.bits s n).2 = tail := by
  have hlen : n ≤ (rest s).length := by rw [hs, List.length_append, length_toBits]; exact Nat.le_add_right _ _
  obtain ⟨hvalue, hrest⟩ := h.bits s n hlen
  rw [hs, List.take_left' (length_toBits n v), bitsValue_toBits hv] at hvalue
  rw [hs, List.drop_left' (length_toBits n v)] at hrest
  exact ⟨hvalue, hrest⟩

theorem Batom.Laws.read_bit (h : b.Laws rest) (hs : rest s = x :: tail) : (b.bit s).1 = x.toNat ∧ rest (b.bit s).2 = tail := by
  obtain ⟨hvalue, hrest⟩ := h.bit s (by rw [hs]; exact Nat.succ_le_succ (Nat.zero_le _))
  rw [hs] at hvalue hrest
  exact ⟨by simpa using hvalue, hrest⟩

theorem Batom.Laws.skip_bits (h : b.Laws rest) (hs : rest s = l ++ tail) (hl : l.length = n) : rest (b.dropBits s n) = tail := by
  rw [h.dropBits s n (by rw [hs, List.length_append]; omega), hs, List.drop_left' hl]

theorem Batom.Laws.eof_ne (h : b.Laws rest) (n : Nat) : b.eof ≠ n := by
  have hneg := h.eof_neg
  omega

/-! ### The parts of a config -/

theorem skip_extension (h : b.Laws rest) {profile : Nat} (e : GaExtension)
    (hs : rest bs = GaSpecificConfig.extensionBits profile e ++ tail) :
    rest (b.bit (if profile = 22 then b.dropBits bs 16
      else if profile = 17 ∨ profile = 19 ∨ profile = 20 ∨ profile = 23 then b.dropBits bs 3 else bs)).2 = tail := by
  unfold GaSpecificConfig.extensionBits at hs
  by_cases h22 : profile = 22
  · rw [if_pos h22, List.append_assoc] at hs
    rw [if_pos h22]
    exact (h.read_bit (h.skip_bits hs (by simp))).2
  · have hmem : (profile ∈ [17, 19, 20, 23]) ↔ (profile = 17 ∨ profile = 19 ∨ profile = 20 ∨ profile = 23) := by simp
    rw [if_neg h22, List.append_assoc] at hs
    rw [if_neg h22]
    by_cases hflags : profile = 17 ∨ profile = 19 ∨ profile = 20 ∨ profile = 23
    · rw [if_pos (hmem.mpr hflags)] at hs
      rw [if_pos hflags]
      exact (h.read_bit (h.skip_bits hs (by simp))).2
    · rw [if_neg (hmem.not.mpr hflags)] at hs
      rw [if_neg hflags]
      exact (h.read_bit hs).2

theorem skipGaSpecificConfig_rest (h : b.Laws rest) {profile : Nat} (hmem : profile ∈ [1, 2, 3, 4, 17, 19, 22, 23])
    (g : GaSpecificConfig) (hs : rest bs = g.bits profile ++ tail) : rest (skipGaSpecificConfig b profile bs) = tail := by
  have hprofile : profile ≠ 6 ∧ profile ≠ 20 := by
    constructor <;> rintro rfl <;> simp at hmem
  have hin : profile ∈ [1, 2, 3, 4, 6, 7, 17, 19, 20, 21, 22, 23] := by
    simp only [List.mem_cons, List.not_mem_nil, or_false] at hmem ⊢
    omega
  simp only [GaSpecificConfig.bits, hprofile.1, hprofile.2, or_self, if_false, List.append_nil, List.append_assoc,
    List.singleton_append] at hs
  obtain ⟨-, hfl⟩ := h.read_bit hs
  simp only [skipGaSpecificConfig, hin, if_true, hprofile.1, hprofile.2, or_self, if_false]
  -- the delay, if there is one
  obtain ⟨bs', hbs', hext⟩ : ∃ bs', (if (b.bit (b.bit bs).2).1 ≠ 0 then b.dropBits (b.bit (b.bit bs).2).2 14
      else (b.bit (b.bit bs).2).2) = bs' ∧ rest bs' = g.extension.isSome ::
        (g.extension.elim [] (GaSpecificConfig.extensionBits profile) ++ tail) := by
    refine ⟨_, rfl, ?_⟩
    cases hdelay : g.coreCoderDelay with
    | none =>
      rw [hdelay] at hfl
      obtain ⟨hflag, hrest⟩ := h.read_bit hfl
      rw [hflag]
      exact hrest
    | some delay =>
      rw [hdelay] at hfl
      obtain ⟨hflag, hrest⟩ := h.read_bit hfl
      rw [hflag]
      exact h.skip_bits hrest (length_toBits 14 delay)
  rw [hbs']
  obtain ⟨hflag, hrest⟩ := h.read_bit hext
  rw [hflag]
  cases hextension : g.extension with
  | none =>
    rw [hextension] at hrest
    exact hrest
  | some e =>
    rw [hextension] at hrest
    simpa [hprofile.2] using skip_extension h e hrest

theorem skipEpConfig_rest (h : b.Laws rest) {a : AudioSpecificConfig} (hmem : a.objectType ∈ [1, 2, 3, 4, 17, 19, 22, 23])
    (hep : a.epConfig < 2) (hs : rest bs = a.epBits ++ tail) : rest (skipEpConfig b a.objectType bs) = tail := by
  simp only [List.mem_cons, List.not_mem_nil, or_false] at hmem
  by_cases h17 : 17 ≤ a.objectType
  · have hin : a.objectType ∈ [17, 19, 20, 21, 22, 23, 24, 25, 26, 27] := by
      simp only [List.mem_cons, List.not_mem_nil, or_false]
      omega
    have hbits : a.epBits = toBits 2 a.epConfig := by
      rw [AudioSpecificConfig.epBits, if_pos h17, if_neg (by omega), if_neg (by omega), List.append_nil, List.append_nil]
    rw [hbits] at hs
    obtain ⟨hvalue, hrest⟩ := h.read_bits hs (by omega)
    have hnot : ¬ ((b.bits bs 2).1 = 2 ∨ (b.bits bs 2).1 = 3) := by omega
    rw [skipEpConfig, if_pos hin]
    simp only [hnot, if_false]
    exact hrest
  · have hout : a.objectType ∉ [17, 19, 20, 21, 22, 23, 24, 25, 26, 27] := by
      simp only [List.mem_cons, List.not_mem_nil, or_false]
      omega
    rw [AudioSpecificConfig.epBits, if_neg h17, List.nil_append] at hs
    rw [skipEpConfig, if_neg hout]
    exact hs

theorem parseSyncExtension_none (h : b.Laws rest) (info : AacAscInfo) (hno : AudioSpecificConfig.NoSbrExtension (rest bs)) :
    parseSyncExtension b bs info = (true, info) := by
  by_cases hsync : (b.bits bs 11).1 = 0x2b7
  · have hlen : 11 ≤ (rest bs).length := by
      by_contra hshort
      rw [h.bits_eof bs 11 (by omega)] at hsync
      exact h.eof_ne _ hsync
    obtain ⟨hvalue, hrest⟩ := h.bits bs 11 hlen
    have htype : (b.bits (b.bits bs 11).2 5).1 ≠ 5 := by
      by_cases hshort : (rest (b.bits bs 11).2).length < 5
      · rw [h.bits_eof _ 5 hshort]
        exact h.eof_ne 5
      · obtain ⟨htype, -⟩ := h.bits (b.bits bs 11).2 5 (by omega)
        rw [htype, hrest]
        rw [hrest, List.length_drop] at hshort
        rcases hno with hno | hno | hno
        · omega
        · rw [hvalue] at hsync
          exact absurd (by exact_mod_cast hsync) hno
        · exact_mod_cast hno
    simp only [parseSyncExtension, hsync, htype, if_true, if_false]
  · simp only [parseSyncExtension, hsync, if_false]

theorem parseSyncExtension_backward (h : b.Laws rest) (info : AacAscInfo) (rate : Option SamplingRate)
    (hrate : ∀ r, rate = some r → r.index < 16)
    (hs : rest bs = toBits 11 0x2b7 ++ (toBits 5 5 ++ rate.isSome :: (rate.elim [] SamplingRate.bits ++ tail))) :
    parseSyncExtension b bs info = rate.elim (true, info) fun r =>
      (decide (r.index ≠ 15), { info with profile := 5, samplingFrequencyIndex := r.index }) := by
  obtain ⟨hsync, hrest₁⟩ := h.read_bits hs (by decide)
  obtain ⟨htype, hrest₂⟩ := h.read_bits hrest₁ (by decide)
  obtain ⟨hflag, hrest₃⟩ := h.read_bit hrest₂
  have hsync' : (b.bits bs 11).1 = 0x2b7 := hsync
  have htype' : (b.bits (b.bits bs 11).2 5).1 = 5 := htype
  simp only [parseSyncExtension, hsync', htype', if_true]
  cases rate with
  | none =>
    rw [if_neg (by rw [hflag]; decide)]
    rfl
  | some r =>
    have hindex := hrate r rfl
    simp only [Option.elim_some, SamplingRate.bits, List.append_assoc] at hrest₃
    obtain ⟨hvalue, -⟩ := h.read_bits hrest₃ (by omega)
    have hu8 : toU8 (b.bits (b.bit (b.bits (b.bits bs 11).2 5).2).2 4).1 = r.index := by
      rw [hvalue, toU8]
      omega
    rw [if_pos (by rw [hflag]; simp), hu8]
    rfl

/-! ### The config -/

theorem parseAsc_core (h : b.Laws rest) {data : List UInt8} (info : AacAscInfo) {objectType index channels : Nat}
    (htype : objectType < 32) (hnot : objectType ≠ 5) (hindex : index < 15) (hchannels : channels < 16)
    (hdata : bitsOf data = toBits 5 objectType ++ (toBits 4 index ++ (toBits 4 channels ++ tail))) :
    ∃ bs, rest bs = tail ∧ parseAsc b data info =
      let r := parseSyncExtension b (skipEpConfig b objectType (skipGaSpecificConfig b objectType bs))
        { info with profile := objectType, samplingFrequencyIndex := index, channelConfiguration := channels }
      if r.1 then (true, convertAscToAdts r.2) else basicParse b data r.2 := by
  obtain ⟨hv₁, h₁⟩ := h.read_bits ((h.init data).trans hdata) htype
  obtain ⟨hv₂, h₂⟩ := h.read_bits h₁ (by omega)
  obtain ⟨hv₃, h₃⟩ := h.read_bits h₂ hchannels
  have hu₁ : toU8 objectType = objectType := by unfold toU8; omega
  have hu₂ : toU8 index = index := by unfold toU8; omega
  have hu₃ : toU8 channels = channels := by unfold toU8; omega
  refine ⟨_, h₃, ?_⟩
  simp only [parseAsc, hv₁, hv₂, hv₃, hu₁, hu₂, hu₃, hindex.ne, hnot, if_false]

theorem parseAsc_explicit (h : b.Laws rest) {data : List UInt8} (info : AacAscInfo) {index channels : Nat}
    {rate : SamplingRate} (hindex : index < 15) (hchannels : channels < 16) (hrate : rate.index < 16)
    (hdata : bitsOf data = toBits 5 5 ++ (toBits 4 index ++ (toBits 4 channels ++ (rate.bits ++ tail)))) :
    parseAsc b data info =
      if rate.index = 15 then
        basicParse b data { info with profile := 5, samplingFrequencyIndex := rate.index, channelConfiguration := channels }
      else
        (true, convertAscToAdts
          { info with profile := 5, samplingFrequencyIndex := rate.index, channelConfiguration := channels }) := by
  obtain ⟨hv₁, h₁⟩ := h.read_bits ((h.init data).trans hdata) (by decide)
  obtain ⟨hv₂, h₂⟩ := h.read_bits h₁ (by omega)
  obtain ⟨hv₃, h₃⟩ := h.read_bits h₂ hchannels
  rw [SamplingRate.bits, List.append_assoc] at h₃
  obtain ⟨hv₄, -⟩ := h.read_bits h₃ (by omega)
  have hu₁ : toU8 (5 : Nat) = 5 := rfl
  have hu₂ : toU8 index = index := by unfold toU8; omega
  have hu₃ : toU8 channels = channels := by unfold toU8; omega
  have hu₄ : toU8 rate.index = rate.index := by unfold toU8; omega
  simp only [parseAsc, hv₁, hv₂, hv₃, hv₄, hu₁, hu₂, hu₃, hu₄, hindex.ne, if_false, if_true]

theorem basicParse_eq (h : b.Laws rest) {data : List UInt8} (info : AacAscInfo) {objectType index channels : Nat}
    (htype : objectType < 32) (hindex : index < 15) (hchannels : channels < 16)
    (hdata : bitsOf data = toBits 5 objectType ++ (toBits 4 index ++ (toBits 4 channels ++ tail))) :
    basicParse b data info = (true, convertAscToAdts
      { info with profile := objectType, samplingFrequencyIndex := index, channelConfiguration := channels }) := by
  have hlen : 16 ≤ (bitsOf data).length := by
    -- 13 bits of whole bytes
    have hbytes := length_bitsOf data
    have hbits := congrArg List.length hdata
    simp only [List.length_append, length_toBits] at hbits
    omega
  obtain ⟨low, hlow, htake⟩ : ∃ low, low < 8 ∧
      bitsValue ((bitsOf data).take 16) = objectType * 2 ^ 11 + index * 2 ^ 7 + channels * 2 ^ 3 + low := by
    have hpre : (bitsOf data).take 16 = toBits 5 objectType ++ (toBits 4 index ++ (toBits 4 channels ++ tail.take 3)) := by
      rw [hdata]
      simp [List.take_append, List.take_of_length_le]
    have htail : (tail.take 3).length = 3 := by
      have hbits := congrArg List.length hpre
      rw [List.length_take, Nat.min_eq_left hlen] at hbits
      simp only [List.length_append, length_toBits] at hbits
      omega
    obtain ⟨x, y, z, hxyz⟩ := List.length_eq_three.mp htail
    refine ⟨x.toNat * 4 + y.toNat * 2 + z.toNat, ?_, ?_⟩
    · have hx := x.toNat_lt
      have hy := y.toNat_lt
      have hz := z.toNat_lt
      omega
    · rw [hpre, hxyz]
      simp only [bitsValue, List.foldl_append, foldl_toBits, List.foldl_cons, List.foldl_nil]
      rw [Nat.mod_eq_of_lt (show objectType < 2 ^ 5 from htype), Nat.mod_eq_of_lt (show index < 2 ^ 4 by omega),
        Nat.mod_eq_of_lt (show channels < 2 ^ 4 from hchannels)]
      omega
  have hvalue := h.uint16Be data hlen
  rw [htake] at hvalue
  have hne : b.uint16Be data ≠ b.eof := by
    rw [hvalue]
    exact (h.eof_ne _).symm
  have hprofile : getBits (objectType * 2 ^ 11 + index * 2 ^ 7 + channels * 2 ^ 3 + low) 15 11 = objectType := by
    rw [getBits_eq]
    omega
  have hindex' : getBits (objectType * 2 ^ 11 + index * 2 ^ 7 + channels * 2 ^ 3 + low) 10 7 = index := by
    rw [getBits_eq]
    omega
  have hchannels' : getBits (objectType * 2 ^ 11 + index * 2 ^ 7 + channels * 2 ^ 3 + low) 6 3 = channels := by
    rw [getBits_eq]
    omega
  rw [basicParse, if_neg hne, hvalue]
  simp only [Int.toNat_natCast, hprofile, hindex', hchannels', hindex.ne, if_false]

end Reader

/-! ### The header -/

theorem adtsFields_value {p i c f v : Nat} (hp : p < 4) (hi : i < 16) (hc : c < 8) (hf : f < 8192)
    (hv : v = (((((255 * 256 + 241) * 256 + (p * 64 + i * 4 + c / 4)) * 256 + (c % 4 * 64 + f / 2048)) * 256 +
      f / 8 % 256) * 256 + (f % 8 * 32 + 31)) * 256 + 252) :
    v / 2 ^ 44 % 2 ^ 12 = 4095 ∧ v / 2 ^ 40 % 2 ^ 1 = 1 ∧ v / 2 ^ 38 % 2 ^ 2 = p ∧ v / 2 ^ 34 % 2 ^ 4 = i ∧
      v / 2 ^ 30 % 2 ^ 3 = c ∧ v / 2 ^ 13 % 2 ^ 13 = f ∧ v / 2 ^ 0 % 2 ^ 2 = 0 := by
  refine ⟨by omega, by omega, by omega, by omega, by omega, by omega, by omega⟩

theorem adtsHeader_toNat {frameLength : Nat} {info : AscInfo} (hlen : frameLength + adtsHeaderLen < 8192)
    (hchannels : info.channelConfiguration < 8) :
    (adtsHeader frameLength info).map UInt8.toNat =
      [255, 241, info.profile % 4 * 64 + info.samplingFrequencyIndex % 16 * 4 + info.channelConfiguration / 4,
        info.channelConfiguration % 4 * 64 + (frameLength + adtsHeaderLen) / 2048, (frameLength + adtsHeaderLen) / 8 % 256,
        (frameLength + adtsHeaderLen) % 8 * 32 + 31, 252] := by
  have hp : info.profile % 4 < 4 := Nat.mod_lt _ (by decide)
  have hi : info.samplingFrequencyIndex % 16 < 16 := Nat.mod_lt _ (by decide)
  have hhigh : (frameLength + adtsHeaderLen) / 2048 % 4 = (frameLength + adtsHeaderLen) / 2048 := Nat.mod_eq_of_lt (by omega)
  have hbit : info.channelConfiguration / 4 % 2 = info.channelConfiguration / 4 := Nat.mod_eq_of_lt (by omega)
  have h₂ : info.profile % 4 * 64 + info.samplingFrequencyIndex % 16 * 4 + info.channelConfiguration / 4 < 2 ^ 8 := by omega
  have h₃ : info.channelConfiguration % 4 * 64 + (frameLength + adtsHeaderLen) / 2048 < 2 ^ 8 := by omega
  have h₄ : (frameLength + adtsHeaderLen) / 8 % 256 < 2 ^ 8 := Nat.mod_lt _ (by decide)
  have h₅ : (frameLength + adtsHeaderLen) % 8 * 32 + 31 < 2 ^ 8 := by omega
  simp only [adtsHeader, List.map_cons, List.map_nil, UInt8.toNat_ofNat', hhigh, hbit, Nat.mod_eq_of_lt h₂,
    Nat.mod_eq_of_lt h₃, Nat.mod_eq_of_lt h₄, Nat.mod_eq_of_lt h₅]
  rfl

theorem readAdtsHeader_adtsHeader {frameLength : Nat} {info : AscInfo} (hlen : frameLength + adtsHeaderLen < 8192)
    (hchannels : info.channelConfiguration < 8) :
    readAdtsHeader (adtsHeader frameLength info) =
      { syncword := 4095
        protectionAbsent := 1
        profile := info.profile % 4
        samplingFrequencyIndex := info.samplingFrequencyIndex % 16
        channelConfiguration := info.channelConfiguration
        frameLength := frameLength + adtsHeaderLen
        numberOfRawDataBlocks := 0 } := by
  have hvalue : beValue (adtsHeader frameLength info) =
      ((adtsHeader frameLength info).map UInt8.toNat).foldl (fun v b => v * 256 + b) 0 := by
    rw [List.foldl_map]
    rfl
  rw [adtsHeader_toNat hlen hchannels] at hvalue
  simp only [List.foldl_cons, List.foldl_nil, Nat.zero_mul, Nat.zero_add] at hvalue
  obtain ⟨h₁, h₂, h₃, h₄, h₅, h₆, h₇⟩ :=
    adtsFields_value (Nat.mod_lt _ (by decide)) (Nat.mod_lt _ (by decide)) hchannels hlen hvalue
  simp only [readAdtsHeader, AdtsHeader.mk.injEq]
  exact ⟨h₁, h₂, h₃, h₄, h₅, h₆, h₇⟩

/-! ### Profiles and rates -/

theorem halved_index : ∀ e s : Fin 15, SamplingRate.table.getD e 0 = 2 * SamplingRate.table.getD s 0 →
    SamplingRate.table.getD e 0 ≠ 0 → findSampleRate (samplingFrequencyFromIndex e / 2) adtsSampleRate 0 = (true, s.val) := by
  decide

theorem convertAscToAdts_sbr {info : AacAscInfo} {s : Nat} (hprofile : info.profile = 5)
    (hindex : info.samplingFrequencyIndex < 15) (hs : s < 15)
    (hdual : SamplingRate.table.getD info.samplingFrequencyIndex 0 = 2 * SamplingRate.table.getD s 0)
    (hknown : SamplingRate.table.getD info.samplingFrequencyIndex 0 ≠ 0) :
    convertAscToAdts info = { info with profile := 1, samplingFrequencyIndex := s, sbrPresent := true } := by
  have hfound := halved_index ⟨_, hindex⟩ ⟨s, hs⟩ hdual hknown
  simp only [convertAscToAdts, hprofile, decide_true, if_true, setSamplingFrequencyIndex, hfound]
  rfl

theorem convertAscToAdts_plain {info : AacAscInfo} (hprofile : info.profile ≠ 5) :
    convertAscToAdts info = { info with profile := adtsProfile info.profile, sbrPresent := false } := by
  simp only [convertAscToAdts, hprofile, decide_false, if_false]

theorem convertAscToAdts_channels (info : AacAscInfo) :
    (convertAscToAdts info).channelConfiguration = info.channelConfiguration := by
  unfold convertAscToAdts setSamplingFrequencyIndex
  simp only
  repeat' split
  all_goals rfl

theorem parseSyncExtension_channels {σ : Type} (b : Batom σ) (bs : σ) (info : AacAscInfo) :
    (parseSyncExtension b bs info).2.channelConfiguration = info.channelConfiguration := by
  unfold parseSyncExtension
  simp only
  repeat' split
  all_goals rfl

/-! ### Configs -/

/-- What the parser does not get wrong: the layer number, which it reads with 13 bits in place of 3, is not there, nor is an
    error protection config, and the SBR extension, if there is one, has twice the rate of the core. -/
def Supported (a : AudioSpecificConfig) : Prop :=
  a.objectType ≠ 6 ∧ a.objectType ≠ 20 ∧ a.epConfig < 2 ∧ ∀ rate, a.sbrRate = some rate →
    SamplingRate.table.getD rate.index 0 ≠ 0 ∧
    SamplingRate.table.getD rate.index 0 = 2 * SamplingRate.table.getD a.samplingFrequencyIndex 0

section Configs
variable {σ : Type} {b : Batom σ} {rest : σ → List Bool} {a : AudioSpecificConfig} {data : List UInt8}

theorem Valid.objectType_lt (ha : a.Valid) : a.objectType < 32 ∧ a.objectType ≠ 5 := by
  have hmem := ha.objectType
  simp only [List.mem_cons, List.not_mem_nil, or_false] at hmem
  omega

theorem parseAsc_channels (h : b.Laws rest) (ha : a.Valid) (hdata : bitsOf data = a.bits) (info : AacAscInfo) :
    ∃ info', parseAsc b data info = (true, info') ∧ info'.channelConfiguration = a.channelConfiguration := by
  obtain ⟨htype, hnot⟩ := Valid.objectType_lt ha
  have hchannels : a.channelConfiguration < 16 := by
    have := ha.channelConfiguration
    omega
  have hcore : ∀ {tail : List Bool}, bitsOf data = toBits 5 a.objectType ++
      (toBits 4 a.samplingFrequencyIndex ++ (toBits 4 a.channelConfiguration ++ tail)) →
      ∃ info', parseAsc b data info = (true, info') ∧ info'.channelConfiguration = a.channelConfiguration := by
    intro tail hbits
    obtain ⟨bs, -, hparse⟩ := parseAsc_core h info htype hnot ha.samplingFrequencyIndex hchannels hbits
    rw [hparse]
    simp only
    split
    · exact ⟨_, rfl, by rw [convertAscToAdts_channels, parseSyncExtension_channels]⟩
    · rw [basicParse_eq h _ htype ha.samplingFrequencyIndex hchannels hbits]
      exact ⟨_, rfl, by rw [convertAscToAdts_channels]⟩
  unfold AudioSpecificConfig.bits at hdata
  cases hsbr : a.sbr with
  | none =>
    simp only [hsbr, List.append_assoc] at hdata
    exact hcore hdata
  | backward rate =>
    simp only [hsbr, List.append_assoc] at hdata
    exact hcore hdata
  | explicit rate =>
    simp only [hsbr, List.append_assoc] at hdata
    have hrate := ha.rate rate (by rw [AudioSpecificConfig.sbrRate, hsbr])
    rw [parseAsc_explicit h info ha.samplingFrequencyIndex hchannels hrate hdata]
    split
    · rw [basicParse_eq h _ (by decide) ha.samplingFrequencyIndex hchannels hdata]
      exact ⟨_, rfl, by rw [convertAscToAdts_channels]⟩
    · exact ⟨_, rfl, by rw [convertAscToAdts_channels]⟩

theorem parseAsc_supported (h : b.Laws rest) (ha : a.Valid) (hsupported : Supported a) (hdata : bitsOf data = a.bits)
    (info : AacAscInfo) :
    parseAsc b data info = (true,
      { profile := if a.sbrPresent then 1 else adtsProfile a.objectType
        samplingFrequencyIndex := a.samplingFrequencyIndex
        channelConfiguration := a.channelConfiguration
        sbrPresent := a.sbrPresent }) := by
  obtain ⟨h6, h20, hep, hdual⟩ := hsupported
  obtain ⟨htype, hnot⟩ := Valid.objectType_lt ha
  have hchannels : a.channelConfiguration < 16 := by
    have := ha.channelConfiguration
    omega
  have hmem : a.objectType ∈ [1, 2, 3, 4, 17, 19, 22, 23] := by
    have hmem := ha.objectType
    simp only [List.mem_cons, List.not_mem_nil, or_false] at hmem ⊢
    omega
  have hknown : ∀ rate, a.sbrRate = some rate → rate.index < 15 := by
    intro rate hrate
    by_contra hlarge
    refine (hdual rate hrate).1 ?_
    rw [List.getD_eq_default]
    exact Nat.le_trans (by decide) (Nat.le_of_not_lt hlarge)
  -- behind the core there is what follows its config
  have hcore : ∀ {tail : List Bool}, bitsOf data = toBits 5 a.objectType ++ (toBits 4 a.samplingFrequencyIndex ++
      (toBits 4 a.channelConfiguration ++ (a.ga.bits a.objectType ++ (a.epBits ++ tail)))) →
      ∃ bs, rest bs = tail ∧ parseAsc b data info =
        let r := parseSyncExtension b bs { info with
          profile := a.objectType, samplingFrequencyIndex := a.samplingFrequencyIndex
          channelConfiguration := a.channelConfiguration }
        if r.1 then (true, convertAscToAdts r.2) else basicParse b data r.2 := by
    intro tail hbits
    obtain ⟨bs, hbs, hparse⟩ := parseAsc_core h info htype hnot ha.samplingFrequencyIndex hchannels hbits
    exact ⟨_, skipEpConfig_rest h hmem hep (skipGaSpecificConfig_rest h hmem a.ga hbs), hparse⟩
  unfold AudioSpecificConfig.bits AudioSpecificConfig.specificBits at hdata
  unfold AudioSpecificConfig.sbrPresent
  cases hsbr : a.sbr with
  | none =>
    simp only [hsbr, List.append_assoc] at hdata
    obtain ⟨bs, hbs, hparse⟩ := hcore hdata
    rw [hparse, parseSyncExtension_none h _ (hbs ▸ ha.trailing hsbr)]
    simp only [if_true]
    rw [convertAscToAdts_plain (by exact hnot)]
    rfl
  | backward rate =>
    have hbits : bitsOf data = toBits 5 a.objectType ++ (toBits 4 a.samplingFrequencyIndex ++
        (toBits 4 a.channelConfiguration ++ (a.ga.bits a.objectType ++ (a.epBits ++ (toBits 11 0x2b7 ++ (toBits 5 5 ++
        rate.isSome :: (rate.elim [] SamplingRate.bits ++ a.trailing))))))) := by
      cases rate <;> simpa [hsbr] using hdata
    obtain ⟨bs, hbs, hparse⟩ := hcore hbits
    rw [hparse, parseSyncExtension_backward h _ rate
      (fun r hr => ha.rate r (by rw [AudioSpecificConfig.sbrRate, hsbr]; exact hr)) hbs]
    cases rate with
    | none =>
      simp only [Option.elim_none, if_true]
      rw [convertAscToAdts_plain (by exact hnot)]
      rfl
    | some r =>
      have hrate : a.sbrRate = some r := by rw [AudioSpecificConfig.sbrRate, hsbr]
      have hindex := hknown r hrate
      simp only [Option.elim_some, hindex.ne, ne_eq, not_false_eq_true, decide_true, if_true]
      rw [convertAscToAdts_sbr rfl hindex ha.samplingFrequencyIndex (hdual r hrate).2 (hdual r hrate).1]
  | explicit rate =>
    simp only [hsbr, List.append_assoc] at hdata
    have hrate : a.sbrRate = some rate := by rw [AudioSpecificConfig.sbrRate, hsbr]
    have hindex := hknown rate hrate
    rw [parseAsc_explicit h info ha.samplingFrequencyIndex hchannels (by omega) hdata, if_neg hindex.ne,
      convertAscToAdts_sbr rfl hindex ha.samplingFrequencyIndex (hdual rate hrate).2 (hdual rate hrate).1]
    rfl

end Configs

/-! ### A reader of bits -/

/-- A reader whose cursor is the list of the bits that were not read yet. -/
def bitListBatom : Batom (List Bool) where
  init := bitsOf
  bits l n := if n ≤ l.length then (bitsValue (l.take n), l.drop n) else (-1, l)
  bit l := if 1 ≤ l.length then (bitsValue (l.take 1), l.drop 1) else (-1, l)
  dropBits l n := l.drop n
  drop l := l.drop 1
  uint16Be data := if 16 ≤ (bitsOf data).length then bitsValue ((bitsOf data).take 16) else -1
  eof := -1

theorem bitListBatom_laws : bitListBatom.Laws id where
  eof_neg := by decide
  init _ := rfl
  bits l n hlen := by
    change n ≤ l.length at hlen
    simp [bitListBatom, hlen]
  bits_eof l n hlen := by
    change l.length < n at hlen
    simp [bitListBatom, Nat.not_le.mpr hlen]
  bit l hlen := by
    change 1 ≤ l.length at hlen
    simp [bitListBatom, hlen]
  dropBits _ _ _ := rfl
  drop _ _ := rfl
  uint16Be data hlen := if_pos hlen

/-- LC at 22050 Hz in stereo, with an SBR extension at 44100 Hz behind it. -/
def heAac : AudioSpecificConfig where
  objectType := 2
  samplingFrequencyIndex := 7
  channelConfiguration := 2
  sbr := .backward (some { index := 4 })
  trailing := [false, false, false]

/-- Error resilient LC at 44100 Hz in stereo. -/
def erAacLc : AudioSpecificConfig where
  objectType := 17
  samplingFrequencyIndex := 4
  channelConfiguration := 2
  ga := { extension := some {} }
  trailing := [false, false]

end BcmPlatform.Bomx
