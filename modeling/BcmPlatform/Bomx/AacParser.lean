import BcmPlatform.Lib.AacConfig
import BcmPlatform.Bomx.AudioDecoder

/-! `bomx_aac_parser`: an AudioSpecificConfig is parsed, and an ADTS header is written for each frame. The bit reader of
    batom is a parameter. -/

namespace BcmPlatform.Bomx
open Lib

/-- The operations of batom that the parser uses, on a cursor at bits of a buffer. A read returns the value, or `BATOM_EOF`. -/
structure Batom (σ : Type) where
  init : List UInt8 → σ
  bits : σ → Nat → Int × σ
  bit : σ → Int × σ
  dropBits : σ → Nat → σ
  drop : σ → σ
  /-- `batom_cursor_uint16_be` at the start of the buffer. -/
  uint16Be : List UInt8 → Int
  eof : Int

/-- What the parser relies on: a read returns the next bits, most significant first, and `BATOM_EOF`, which is negative, when
    there are fewer. `rest` are the bits that were not read yet. -/
structure Batom.Laws {σ : Type} (b : Batom σ) (rest : σ → List Bool) : Prop where
  eof_neg : b.eof < 0
  init : ∀ data, rest (b.init data) = bitsOf data
  bits : ∀ s n, n ≤ (rest s).length → (b.bits s n).1 = bitsValue ((rest s).take n) ∧ rest (b.bits s n).2 = (rest s).drop n
  bits_eof : ∀ s n, (rest s).length < n → (b.bits s n).1 = b.eof
  bit : ∀ s, 1 ≤ (rest s).length → (b.bit s).1 = bitsValue ((rest s).take 1) ∧ rest (b.bit s).2 = (rest s).drop 1
  dropBits : ∀ s n, n ≤ (rest s).length → rest (b.dropBits s n) = (rest s).drop n
  drop : ∀ s, 1 ≤ (rest s).length → rest (b.drop s) = (rest s).drop 1
  uint16Be : ∀ data, 16 ≤ (bitsOf data).length → b.uint16Be data = bitsValue ((bitsOf data).take 16)

/-- `BOMX_AAC_ASCInfo` with its `sbrPresent`. -/
structure AacAscInfo extends AscInfo where
  sbrPresent : Bool := false
  deriving DecidableEq, Repr

/-- The conversion to `uint8_t`. -/
def toU8 (v : Int) : Nat := (v % 256).toNat

/-! ### Sampling rates -/

/-- `b_aac_adts_sample_rate` -/
def adtsSampleRate : List Nat := [96000, 88200, 64000, 48000, 44100, 32000, 24000, 22050, 16000, 12000, 11025, 8000]

/-- The loop of `BOMX_AAC_SetSamplingFrequencyIndex`: whether it found the frequency, and where it stopped. -/
def findSampleRate (samplingFrequency : Nat) : List Nat → Nat → Bool × Nat
  | [], i => (false, i)
  | rate :: rest, i =>
    if rate = samplingFrequency then (true, i)
    else if rate < samplingFrequency then (false, i)
    else findSampleRate samplingFrequency rest (i + 1)

/-- `BOMX_AAC_SetSamplingFrequencyIndex`; the index stays as it is for an unknown frequency. -/
def setSamplingFrequencyIndex (samplingFrequency : Nat) (info : AacAscInfo) : AacAscInfo :=
  let rate (i : Nat) := adtsSampleRate.getD i 0
  match findSampleRate samplingFrequency adtsSampleRate 0 with
  | (true, i) => { info with samplingFrequencyIndex := i }
  | (false, i) =>
    -- the closest rate, within half a percent
    let i :=
      if i = adtsSampleRate.length ∨ (i > 0 ∧ samplingFrequency - rate i > rate (i - 1) - samplingFrequency) then i - 1 else i
    if samplingFrequency > 0 then
      let dif := rate i * 1000 / samplingFrequency
      if dif ≥ 995 ∧ dif ≤ 1005 then { info with samplingFrequencyIndex := i } else info
    else info

/-- `BOMX_AAC_GetSamplingFrequencyFromIndex` -/
def samplingFrequencyFromIndex (index : Nat) : Nat := adtsSampleRate.getD index 0

/-- The profile of `BOMX_AAC_ConvertAscToAdts`. -/
def adtsProfile : Nat → Nat
  | 1 => 0
  | 2 | 5 => 1
  | 3 => 2
  | 4 => 3
  | _ => 1

/-- `BOMX_AAC_ConvertAscToAdts` -/
def convertAscToAdts (info : AacAscInfo) : AacAscInfo :=
  let sbrPresent := info.profile = 5
  let info := { info with sbrPresent, profile := adtsProfile info.profile }
  if sbrPresent then setSamplingFrequencyIndex (samplingFrequencyFromIndex info.samplingFrequencyIndex / 2) info else info

/-! ### Parsing -/

section Parse
variable {σ : Type} (b : Batom σ)

/-- The first switch of `BOMX_AAC_ParseASC`. -/
def skipGaSpecificConfig (profile : Nat) (bs : σ) : σ :=
  if profile ∈ [1, 2, 3, 4, 6, 7, 17, 19, 20, 21, 22, 23] then
    let flFlag := b.bit bs
    let delayFlag := b.bit flFlag.2
    let bs := if delayFlag.1 ≠ 0 then b.dropBits delayFlag.2 14 else delayFlag.2
    let extFlag := b.bit bs
    let bs := if profile = 6 ∨ profile = 20 then b.dropBits extFlag.2 13 else extFlag.2
    if extFlag.1 ≠ 0 then
      let bs :=
        if profile = 22 then b.dropBits bs 16
        else if profile = 17 ∨ profile = 19 ∨ profile = 20 ∨ profile = 23 then b.dropBits bs 3
        else bs
      (b.bit bs).2
    else bs
  else bs

/-- The second switch. -/
def skipEpConfig (profile : Nat) (bs : σ) : σ :=
  if profile ∈ [17, 19, 20, 21, 22, 23, 24, 25, 26, 27] then
    let temp := b.bits bs 2
    if temp.1 = 2 ∨ temp.1 = 3 then b.drop temp.2 else temp.2
  else bs

/-- The search for the SBR extension; false for `goto basic_parse`. -/
def parseSyncExtension (bs : σ) (info : AacAscInfo) : Bool × AacAscInfo :=
  let sync := b.bits bs 11
  if sync.1 = 0x2b7 then
    let objectType := b.bits sync.2 5
    if objectType.1 = 5 then
      let sbr := b.bit objectType.2
      if sbr.1 ≠ 0 then
        let info := { info with profile := 5, samplingFrequencyIndex := toU8 (b.bits sbr.2 4).1 }
        (info.samplingFrequencyIndex ≠ 15, info)
      else (true, info)
    else (true, info)
  else (true, info)

/-- The label `basic_parse`. -/
def basicParse (data : List UInt8) (info : AacAscInfo) : Bool × AacAscInfo :=
  let byte := b.uint16Be data
  if byte = b.eof then (false, info)
  else
    let byte := byte.toNat
    let info := { info with profile := getBits byte 15 11, samplingFrequencyIndex := getBits byte 10 7 }
    if info.samplingFrequencyIndex = 15 then (false, info)
    else (true, convertAscToAdts { info with channelConfiguration := getBits byte 6 3 })

/-- `BOMX_AAC_ParseASC` -/
def parseAsc (data : List UInt8) (info : AacAscInfo) : Bool × AacAscInfo :=
  let profile := b.bits (b.init data) 5
  let samplingFrequencyIndex := b.bits profile.2 4
  let info := { info with profile := toU8 profile.1, samplingFrequencyIndex := toU8 samplingFrequencyIndex.1 }
  if info.samplingFrequencyIndex = 15 then basicParse b data info
  else
    let channelConfiguration := b.bits samplingFrequencyIndex.2 4
    let info := { info with channelConfiguration := toU8 channelConfiguration.1 }
    if info.profile = 5 then
      let extension := b.bits channelConfiguration.2 4
      let info := { info with samplingFrequencyIndex := toU8 extension.1 }
      if info.samplingFrequencyIndex = 15 then basicParse b data info
      else (true, convertAscToAdts info)
    else
      let bs := skipEpConfig b info.profile (skipGaSpecificConfig b info.profile channelConfiguration.2)
      let r := parseSyncExtension b bs info
      if r.1 then (true, convertAscToAdts r.2) else basicParse b data r.2

end Parse

/-- `BOMX_AAC_SetupAdtsHeader`; nothing if there is no room. -/
def setupAdtsHeader (maxLength frameLength : Nat) (info : AacAscInfo) : Option (List UInt8) :=
  if maxLength < adtsHeaderLen then none else some (adtsHeader frameLength info.toAscInfo)

end BcmPlatform.Bomx
