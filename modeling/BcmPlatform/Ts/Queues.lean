import BcmPlatform.Hevc.CodecSpecificData
import BcmPlatform.Lib.Queues

/-! `ElementaryStreamQueue`: the payload of the packets of an elementary stream, with the time of each packet, and how access
    units are cut out of it. -/

namespace BcmPlatform.Ts
open Lib Hevc

/-! ### Buffers -/

/-- `ABuffer`: the memory of a buffer, and what of it is in its range. -/
structure ABuffer where
  capacity : Nat
  data : List UInt8
  length_le : data.length ≤ capacity
  deriving Repr

namespace ABuffer

def size (b : ABuffer) : Nat := b.data.length

/-- `setRange(0, 0)` -/
def clear (b : ABuffer) : ABuffer := { b with data := [], length_le := Nat.zero_le _ }

/-- The range is moved to the front from an offset on. -/
def drop (b : ABuffer) (n : Nat) : ABuffer :=
  { b with data := b.data.drop n, length_le := Nat.le_trans (by rw [List.length_drop]; exact Nat.sub_le _ _) b.length_le }

/-- `(n + align - 1) & ~(align - 1)` -/
def roundUp (align n : Nat) : Nat := (n + (align - 1)) / align * align

theorem le_roundUp {align : Nat} (h : 0 < align) (n : Nat) : n ≤ roundUp align n := by
  have hmod := Nat.div_add_mod (n + (align - 1)) align
  have hlt := Nat.mod_lt (n + (align - 1)) h
  rw [roundUp, Nat.mul_comm]
  omega

/-- Bytes are written behind those of a buffer with room for them, else behind a copy of them in a new one. -/
def append (b : ABuffer) (bytes : List UInt8) (newCapacity : Nat) (h : b.size + bytes.length ≤ newCapacity) : ABuffer :=
  if hfits : b.size + bytes.length ≤ b.capacity then
    { b with data := b.data ++ bytes, length_le := by rw [List.length_append]; exact hfits }
  else
    { capacity := newCapacity, data := b.data ++ bytes, length_le := by rw [List.length_append]; exact h }

@[simp] theorem data_clear (b : ABuffer) : b.clear.data = [] := rfl

@[simp] theorem data_drop (b : ABuffer) (n : Nat) : (b.drop n).data = b.data.drop n := rfl

@[simp] theorem data_append (b : ABuffer) (bytes : List UInt8) (newCapacity : Nat) (h) :
    (b.append bytes newCapacity h).data = b.data ++ bytes := by
  unfold append
  split <;> rfl

end ABuffer

/-- `NULL`, or a buffer; `NULL` holds no bytes and has no room. -/
def noBuffer : ABuffer := { capacity := 0, data := [], length_le := Nat.le_refl 0 }

/-! ### Queues -/

inductive Mode where
  | h264
  | aac
  | ac3
  | mpegAudio
  | mpegVideo
  | mpeg4Video
  | pcmAudio
  | metadata
  | h265
  deriving DecidableEq, Repr

inductive Status where
  | ok
  | malformed
  | badValue
  deriving DecidableEq, Repr

structure NalPosition where
  nalOffset : Nat
  nalSize : Nat
  deriving DecidableEq, Repr

structure AccessUnit where
  data : List UInt8
  timeUs : Int
  isSync : Bool := false
  sei : List NalPosition := []
  deriving DecidableEq, Repr

/-- The meta data of a format, by what they are made of. `φ` are those that the framework makes. -/
inductive Format (φ : Type) where
  | framework (metaData : φ)
  | hevc (csd : CodecSpecificData)
  | raw (channelCount sampleRate : Nat)
  | ac3 (channelCount sampleRate : Nat)
  | mpegAudio (samplingRate numChannels : Int)
  | mpeg2Video (width height : Int) (esds : List UInt8)
  | mpeg4Video (width height : Int) (esds : List UInt8)
  | timedId3
  | empty
  deriving DecidableEq, Repr

structure MpegAudioFrame where
  frameSize : Nat
  samplingRate : Int
  numChannels : Int

/-- A search for NAL units: a unit is in front of the data that are left. -/
structure NalSplitter where
  next : List UInt8 → Except NalStop NextNal
  length_rest_lt : ∀ {data n}, next data = .ok n → n.rest.length < data.length
  suffix : ∀ {data n}, next data = .ok n → n.rest <:+ data
  nalSize_nonneg : ∀ {data n}, next data = .ok n → 0 ≤ n.nalSize
  le_length : ∀ {data n}, next data = .ok n → n.nalStart + n.nalSize.toNat + n.rest.length ≤ data.length

/-- What the queue calls that is part of the framework. -/
structure Framework (σ φ : Type) where
  reader : BitReader σ
  memory : Memory
  getNextNalUnit : NalSplitter
  makeAvcCodecSpecificData : List UInt8 → Option φ
  makeAacCodecSpecificData : Nat → Nat → Nat → Option φ
  getMpegAudioFrameSize : Nat → Option MpegAudioFrame
  extractDimensionsFromVolHeader : List UInt8 → Option (Int × Int)

/-- A range of the buffer with the time of the packet that it came from: `mTimestampUs` and `mLength`. -/
abbrev RangeInfo := Run Int

structure ElementaryStreamQueue (φ : Type) where
  mMode : Mode
  alignedData : Bool
  mEOSReached : Bool
  mBuffer : ABuffer
  mRangeInfos : List RangeInfo
  mFormat : Option (Format φ)

variable {σ φ : Type}

namespace ElementaryStreamQueue

def new (mode : Mode) (alignedData : Bool) : ElementaryStreamQueue φ :=
  { mMode := mode, alignedData, mEOSReached := false, mBuffer := noBuffer, mRangeInfos := [], mFormat := none }

def clear (q : ElementaryStreamQueue φ) (clearFormat : Bool) : ElementaryStreamQueue φ :=
  { q with
    mBuffer := q.mBuffer.clear
    mRangeInfos := []
    mFormat := if clearFormat then none else q.mFormat
    mEOSReached := false }

/-- The time of the first range, or -1, and the queue without the ranges of the first `size` bytes. -/
def fetchTimestamp (q : ElementaryStreamQueue φ) (size : Nat) : Int × ElementaryStreamQueue φ :=
  (if size = 0 then -1 else q.mRangeInfos.head?.elim (-1) (·.value), { q with mRangeInfos := dropRuns size q.mRangeInfos })

/-- The first `n` bytes are moved out of the buffer. -/
def moveOut (q : ElementaryStreamQueue φ) (n : Nat) : ElementaryStreamQueue φ := { q with mBuffer := q.mBuffer.drop n }

end ElementaryStreamQueue

/-! ### Headers -/

/-- A header as it is read: the reader gives up, or the header is refused, or it is what is returned. -/
abbrev HeaderReader (σ α : Type) := ExceptT Unit (StateT σ Option) α

namespace HeaderReader
variable (r : BitReader σ)

def getBits (n : Nat) : HeaderReader σ Nat := ExceptT.lift (r.getBits n : StateT σ Option Nat)

def skipBits (n : Nat) : HeaderReader σ Unit := ExceptT.lift (fun s => (r.skipBits n s).map ((), ·) : StateT σ Option Unit)

def numBitsLeft : HeaderReader σ Nat := ExceptT.lift (fun s => some (r.numBitsLeft s, s) : StateT σ Option Nat)

/-- The header is refused unless a condition holds. -/
def require (condition : Bool) : HeaderReader σ Unit := if condition then pure () else throw ()

/-- The header of bytes; `some none` where it is refused. -/
def parse {α : Type} (p : HeaderReader σ α) (bytes : List UInt8) : Option (Option α) :=
  (p.run.run (r.ofBytes bytes)).map fun result => result.1.toOption
section Gives
variable {r : BitReader σ} {rest : σ → List Bool} {α β : Type} {s s' : σ}

/-- The header goes on with a value. -/
def Gives (p : HeaderReader σ α) (s : σ) (a : α) (s' : σ) : Prop := p.run.run s = some (.ok a, s')

theorem Gives.bind {p : HeaderReader σ α} {f : α → HeaderReader σ β} {a : α} {b : β} {s₁ : σ} (hp : Gives p s a s₁)
    (hf : Gives (f a) s₁ b s') : Gives (p >>= f) s b s' := by
  rw [Gives, ExceptT.run_bind, StateT.run_bind, hp]
  exact hf

theorem gives_pure (a : α) : Gives (pure a : HeaderReader σ α) s a s := rfl

theorem gives_require {condition : Bool} (h : condition = true) : Gives (require condition : HeaderReader σ Unit) s () s := by
  rw [h]
  rfl

theorem gives_getBits (h : r.Laws rest) {k m v : Nat} {tail : List Bool} (hk : k ≤ 32)
    (hs : rest s = toBits (k + m) v ++ tail) :
    ∃ s', Gives (getBits r k) s (v / 2 ^ m % 2 ^ k) s' ∧ rest s' = toBits m v ++ tail := by
  rw [toBits_add, List.append_assoc] at hs
  obtain ⟨s', hs', hrest⟩ := h.getBits s k hk (by rw [hs, List.length_append, length_toBits]; exact Nat.le_add_right _ _)
  rw [hs, List.take_left' (length_toBits _ _), ← toBits_mod, bitsValue_toBits (Nat.mod_lt _ (Nat.two_pow_pos k))] at hs'
  rw [hs, List.drop_left' (length_toBits _ _)] at hrest
  refine ⟨s', ?_, hrest⟩
  change (r.getBits k s).bind (fun q => some (Except.ok q.1, q.2)) = _
  rw [hs']
  rfl

theorem gives_field (h : r.Laws rest) {k n : Nat} {tail : List Bool} (hk : k ≤ 32) (hn : n < 2 ^ k)
    (hs : rest s = toBits k n ++ tail) : ∃ s', Gives (getBits r k) s n s' ∧ rest s' = tail := by
  obtain ⟨s', hgives, hrest⟩ := gives_getBits (k := k) (m := 0) h hk hs
  rw [Nat.pow_zero, Nat.div_one, Nat.mod_eq_of_lt hn] at hgives
  exact ⟨s', hgives, hrest⟩

theorem gives_skipBits (h : r.Laws rest) {k m v : Nat} {tail : List Bool} (hs : rest s = toBits (k + m) v ++ tail) :
    ∃ s', Gives (skipBits r k) s () s' ∧ rest s' = toBits m v ++ tail := by
  rw [toBits_add, List.append_assoc] at hs
  obtain ⟨s', hs', hrest⟩ := h.skipBits s k (by rw [hs, List.length_append, length_toBits]; exact Nat.le_add_right _ _)
  rw [hs, List.drop_left' (length_toBits _ _)] at hrest
  refine ⟨s', ?_, hrest⟩
  change ((r.skipBits k s).map ((), ·)).bind (fun q => some (Except.ok q.1, q.2)) = _
  rw [hs']
  rfl

theorem gives_numBitsLeft (h : r.Laws rest) : Gives (numBitsLeft r) s (rest s).length s := by
  rw [Gives, ← h.numBitsLeft]
  rfl

end Gives
end HeaderReader

section Headers
open HeaderReader
variable (r : BitReader σ)

structure Ac3SyncFrame where
  payloadSize : Nat
  channelCount : Nat
  samplingRate : Nat
  deriving DecidableEq, Repr

namespace Ac3

def channelCountTable : List Nat := [2, 1, 2, 3, 3, 4, 4, 5]

def samplingRateTable : List Nat := [48000, 44100, 32000]

def frameSizeTable : List (List Nat) :=
  [[64, 69, 96], [80, 87, 120], [96, 104, 144], [112, 121, 168], [128, 139, 192], [160, 174, 240], [192, 208, 288],
    [224, 243, 336], [256, 278, 384], [320, 348, 480], [384, 417, 576], [448, 487, 672], [512, 557, 768], [640, 696, 960],
    [768, 835, 1152], [896, 975, 1344], [1024, 1114, 1536], [1152, 1253, 1728], [1280, 1393, 1920]]

def payloadSize (fscod frmsizecod : Nat) : Nat :=
  (((frameSizeTable.getD (frmsizecod >>> 1) []).getD fscod 0) + if fscod = 1 then frmsizecod &&& 1 else 0) <<< 1

/-- A field of two bits that is there under a condition. -/
def mixLevel (present : Bool) : HeaderReader σ Unit :=
  if present then do
    require (2 ≤ (← numBitsLeft r))
    let _ ← getBits r 2
  else pure ()

end Ac3

open Ac3 in
def ac3SyncFrame : HeaderReader σ Ac3SyncFrame := do
  require (16 ≤ (← numBitsLeft r))
  require ((← getBits r 16) == 0x0B77)
  require (16 + 2 + 6 + 5 + 3 + 3 ≤ (← numBitsLeft r))
  skipBits r 16
  let fscod ← getBits r 2
  require (fscod != 3)
  let frmsizecod ← getBits r 6
  require (frmsizecod ≤ 37)
  let bsid ← getBits r 5
  require (bsid ≤ 8)
  let _bsmod ← getBits r 3
  let acmod ← getBits r 3
  mixLevel r (0 < acmod &&& 1 && acmod != 1)
  mixLevel r (0 < acmod &&& 4)
  mixLevel r (acmod == 2)
  require (1 ≤ (← numBitsLeft r))
  let lfeon ← getBits r 1
  return {
    payloadSize := payloadSize fscod frmsizecod
    channelCount := channelCountTable.getD acmod 0 + lfeon
    samplingRate := samplingRateTable.getD fscod 0 }

/-- `parseAC3SyncFrame`; it returns 0 where the frame is refused. -/
def parseAc3SyncFrame (bytes : List UInt8) : Option (Option Ac3SyncFrame) := (ac3SyncFrame r).parse r bytes

end Headers

/-- `ptr[i]`, below the size that was checked. -/
def byte (bytes : List UInt8) (i : Nat) : Nat := (bytes.getD i 0).toNat

/-- The frame length of a header, or `none` where it is not seemingly valid. -/
def isSeeminglyValidAdtsHeader (bytes : List UInt8) : Option Nat :=
  if bytes.length < 7 then none
  else if byte bytes 0 ≠ 0xff ∨ byte bytes 1 >>> 4 ≠ 0x0f then none
  else
    let layer := (byte bytes 1 >>> 1) &&& 3
    if layer ≠ 0 then none
    else
      let id := (byte bytes 1 >>> 3) &&& 1
      let profileObjectType := byte bytes 2 >>> 6
      if id = 1 ∧ profileObjectType = 3 then none
      else
        let frameLengthInHeader := ((byte bytes 3 &&& 3) <<< 11) + (byte bytes 4 <<< 3) + ((byte bytes 5 >>> 5) &&& 7)
        if frameLengthInHeader > bytes.length then none else some frameLengthInHeader

def isSeeminglyValidMpegAudioHeader (bytes : List UInt8) : Bool :=
  if bytes.length < 3 then false
  else if byte bytes 0 ≠ 0xff ∨ byte bytes 1 >>> 5 ≠ 0x07 then false
  else if (byte bytes 1 >>> 3) &&& 3 = 1 then false
  else if (byte bytes 1 >>> 1) &&& 3 = 0 then false
  else if byte bytes 2 >>> 4 = 0x0f then false
  else (byte bytes 2 >>> 2) &&& 3 ≠ 3

/-! ### Access units of audio -/

/-- What a call returns, `NULL` as `none`, and the queue after it. There is nothing where a check fails, the reader gives up,
    bytes outside of the buffer are read, or the call does not return. -/
abbrev Dequeued (φ : Type) := Option (Option AccessUnit × ElementaryStreamQueue φ)

/-- `ntohs` for each sample. -/
def swapSamples : List UInt8 → List UInt8
  | a :: b :: samples => b :: a :: swapSamples samples
  | samples => samples

namespace ElementaryStreamQueue
variable (fw : Framework σ φ) (q : ElementaryStreamQueue φ)

/-- `if (mFormat == NULL) mFormat = format` -/
def withFormat (format : Option (Format φ)) : ElementaryStreamQueue φ := { q with mFormat := q.mFormat.or format }

/-- An access unit of the first `n` bytes, which are moved out of the buffer when they have a time. -/
def takeUnit (n : Nat) (data : List UInt8) : Dequeued φ :=
  let fetched := q.fetchTimestamp n
  if fetched.1 < 0 then some (none, fetched.2)
  else some (some { data, timeUs := fetched.1, isSync := true }, fetched.2.moveOut n)

/-- The first sync frame from a position on. -/
def ac3SyncStart (r : BitReader σ) (bytes : List UInt8) (syncStartPos : Nat) : Option (Option (Nat × Ac3SyncFrame)) :=
  if syncStartPos + 2 ≥ bytes.length then some none
  else
    match parseAc3SyncFrame r (bytes.drop syncStartPos) with
    | none => none
    | some none => ac3SyncStart r bytes (syncStartPos + 1)
    | some (some frame) =>
      if 0 < frame.payloadSize then some (some (syncStartPos, frame)) else ac3SyncStart r bytes (syncStartPos + 1)
termination_by bytes.length - syncStartPos

def dequeueAccessUnitAc3 : Dequeued φ :=
  match ac3SyncStart fw.reader q.mBuffer.data 0 with
  | none => none
  | some none => some (none, q)
  | some (some (syncStartPos, frame)) =>
    if q.mBuffer.size < syncStartPos + frame.payloadSize then some (none, q)
    else
      (q.withFormat (some (.ac3 frame.channelCount frame.samplingRate))).takeUnit (syncStartPos + frame.payloadSize)
        (q.mBuffer.data.take (syncStartPos + frame.payloadSize))

open HeaderReader in
/-- The number of AUs of a PCM packet. -/
def pcmHeader (r : BitReader σ) : HeaderReader σ Nat := do
  require ((← getBits r 8) == 0xa0)
  let numAUs ← getBits r 8
  skipBits r 8
  let _quantizationWordLength ← getBits r 2
  let audioSamplingFrequency ← getBits r 3
  let numChannels ← getBits r 3
  require (audioSamplingFrequency == 2)
  require (numChannels == 1)
  return numAUs

def kFramesPerAU : Nat := 80

def dequeueAccessUnitPcmAudio : Dequeued φ :=
  if q.mBuffer.size < 4 then some (none, q)
  else
    match (pcmHeader fw.reader).parse fw.reader (q.mBuffer.data.take 4) with
    | none => none
    | some none => some (none, q)
    | some (some numAUs) =>
      let q := q.withFormat (some (.raw 2 48000))
      let frameSize := 2 * 2
      let payloadSize := numAUs * frameSize * kFramesPerAU
      if q.mBuffer.size < 4 + payloadSize then some (none, q)
      else q.takeUnit (payloadSize + 4) (swapSamples ((q.mBuffer.data.drop 4).take payloadSize))

structure AacConfig where
  profile : Nat
  samplingFreqIndex : Nat
  channelConfiguration : Nat
  deriving DecidableEq, Repr

open HeaderReader in
/-- `adts_fixed_header`; the configuration is only looked at as long as there is no format. -/
def adtsFixedHeader (r : BitReader σ) (noFormat : Bool) : HeaderReader σ (Option AacConfig) := do
  require ((← getBits r 12) == 0xfff)
  skipBits r 3
  let _protectionAbsent ← getBits r 1
  if noFormat then do
    let profile ← getBits r 2
    require (profile != 3)
    let samplingFreqIndex ← getBits r 4
    let _privateBit ← getBits r 1
    let channelConfiguration ← getBits r 3
    require (channelConfiguration != 0)
    skipBits r 2
    return some { profile, samplingFreqIndex, channelConfiguration }
  else do
    skipBits r 12
    return none

open HeaderReader in
/-- `adts_variable_header`: the length of a frame with one block. -/
def adtsVariableHeader (r : BitReader σ) : HeaderReader σ Nat := do
  skipBits r 2
  let aacFrameLength ← getBits r 13
  skipBits r 11
  let numberOfRawDataBlocksInFrame ← getBits r 2
  require (numberOfRawDataBlocksInFrame == 0)
  return aacFrameLength

/-- The format after a fixed header. -/
def aacFormat (format : Option (Format φ)) : Option AacConfig → Option (Option (Format φ))
  | none => some format
  | some config =>
    (fw.makeAacCodecSpecificData config.profile config.samplingFreqIndex config.channelConfiguration).map
      fun metaData => some (.framework metaData)

/-- The loop over the frames that begin in the first `length` bytes: the offset behind the last one of them, unless the call
    returns `NULL`, and the format. A frame of length 0 is read again and again. -/
def aacFrames (data : List UInt8) (length : Nat) (format : Option (Format φ)) (offset : Nat) :
    Option (Option Nat × Option (Format φ)) :=
  if offset < length then
    if offset + 7 > data.length then some (none, format)
    else
      match (adtsFixedHeader fw.reader format.isNone).run.run (fw.reader.ofBytes (data.drop offset)) with
      | none => none
      | some (.error _, _) => some (none, format)
      | some (.ok config, s) =>
        match aacFormat fw format config with
        | none => none
        | some format =>
          match (adtsVariableHeader fw.reader).run.run s with
          | none => none
          | some (.error _, _) => some (none, format)
          | some (.ok aacFrameLength, _) =>
            if offset + aacFrameLength > data.length then some (none, format)
            else if aacFrameLength = 0 then none
            else aacFrames data length format (offset + aacFrameLength)
  else some (some offset, format)
termination_by length - offset

def dequeueAccessUnitAac : Dequeued φ :=
  if q.mBuffer.size = 0 then some (none, q)
  else
    match q.mRangeInfos with
    | [] => some (none, q)
    | info :: _ =>
      if q.mBuffer.size < info.length then some (none, q)
      else if info.value < 0 then some (none, q)
      else
        match aacFrames fw q.mBuffer.data info.length q.mFormat 0 with
        | none => none
        | some (none, format) => some (none, { q with mFormat := format })
        | some (some offset, format) =>
          let fetched := { q with mFormat := format }.fetchTimestamp offset
          some (some { data := q.mBuffer.data.take offset, timeUs := fetched.1, isSync := true }, fetched.2.moveOut offset)

def dequeueAccessUnitMpegAudio : Dequeued φ :=
  if q.mBuffer.size < 4 then some (none, q)
  else
    let header := beValue (q.mBuffer.data.take 4)
    match fw.getMpegAudioFrameSize header with
    | none => some (none, q)
    | some frame =>
      if q.mBuffer.size < frame.frameSize then some (none, q)
      else
        let layer := 4 - ((header >>> 17) &&& 3)
        let fetched := (q.moveOut frame.frameSize).fetchTimestamp frame.frameSize
        if fetched.1 < 0 then some (none, fetched.2)
        else if q.mFormat.isNone ∧ layer = 4 then some (none, fetched.2.withFormat (some .empty))
        else
          some (some { data := q.mBuffer.data.take frame.frameSize, timeUs := fetched.1, isSync := true },
            fetched.2.withFormat (some (.mpegAudio frame.samplingRate frame.numChannels)))

def dequeueAccessUnitMetadata : Dequeued φ :=
  if q.mBuffer.size = 0 then some (none, q)
  else
    let fetched := q.fetchTimestamp q.mBuffer.size
    some (some { data := q.mBuffer.data, timeUs := fetched.1 },
      ({ fetched.2 with mBuffer := q.mBuffer.clear }).withFormat (some .timedId3))

end ElementaryStreamQueue

/-! ### Access units of NAL units -/

theorem findStartCode_false {data : List UInt8} {offset o : Nat} (h : findStartCode data false offset = .ok o) :
    offset ≤ o ∧ CodeEnds data o := by
  refine (findStartCode_ok h).resolve_right ?_
  rintro rfl
  fun_induction findStartCode data false offset with
  | case1 offset hskip ih => exact ih h
  | case2 hfollows => cases hfollows
  | case3 => cases h
  | case4 => cases h
  | case5 offset hskip hend b hprev _ hb ih => exact ih h
  | case6 => cases h
  | case7 offset hskip hend b hprev _ hb b' hprev' hb' ih => exact ih h
  | case8 offset hskip hend b hprev =>
    have hlt := (byteAt_ok hprev).1
    cases h
    omega

theorem trimZeros_ok {data : List UInt8} {startOffset n o : Nat} (h : trimZeros data startOffset n = .ok o) :
    o ≤ n ∧ (startOffset ≤ n → startOffset ≤ o) := by
  fun_induction trimZeros data startOffset n with
  | case1 => cases h; exact ⟨Nat.le_refl 0, id⟩
  | case2 => cases h
  | case3 n hlt hzero ih => exact ⟨Nat.le_succ_of_le (ih h).1, fun _ => (ih h).2 (by omega)⟩
  | case4 => cases h; exact ⟨Nat.le_refl _, id⟩
  | case5 => cases h; exact ⟨Nat.le_refl _, id⟩

theorem getNextNalUnitHevc_place {data : List UInt8} {n : NextNal} (h : getNextNalUnitHevc data false = .ok n) :
    n.rest <:+ data ∧ 0 ≤ n.nalSize ∧ n.nalStart + n.nalSize.toNat + n.rest.length ≤ data.length := by
  obtain ⟨-, first, offset, endOffset, hfirst, hoffset, hend, rfl⟩ := getNextNalUnitHevc_ok h
  obtain ⟨-, -, -, -, hone⟩ := findStartCode_false hfirst
  obtain ⟨hle, htwo, hzero₂, hzero₁, hget⟩ := findStartCode_false hoffset
  obtain ⟨hendle, hstart⟩ := trimZeros_ok hend
  have hlt := (List.getElem?_eq_some_iff.mp hget).1
  have hne₁ : offset - 1 ≠ first := by
    intro heq
    rw [heq, hone] at hzero₁
    cases hzero₁
  have hne₂ : offset - 2 ≠ first := by
    intro heq
    rw [heq, hone] at hzero₂
    cases hzero₂
  have hstart := hstart (by omega)
  dsimp only
  refine ⟨?_, by omega, ?_⟩
  · split
    · exact List.drop_suffix _ _
    · exact List.nil_suffix
  · split
    · rw [List.length_drop]
      omega
    · rw [List.length_nil]
      omega

/-- `getNextNALUnitHEVC` without a start code behind the last unit. -/
def hevcSplitter : NalSplitter where
  next data := getNextNalUnitHevc data false
  length_rest_lt := length_rest_lt
  suffix h := (getNextNalUnitHevc_place h).1
  nalSize_nonneg h := (getNextNalUnitHevc_place h).2.1
  le_length h := (getNextNalUnitHevc_place h).2.2

/-- What a NAL unit is to the search for an access unit. -/
structure NalRole where
  slice : Bool := false
  idr : Bool := false
  sei : Bool := false
  flush : Bool := false
  deriving DecidableEq, Repr

/-- The local variables of the search. -/
structure NalScan where
  nals : List NalPosition := []
  foundSlice : Bool := false
  foundIdr : Bool := false
  seiCount : Nat := 0
  deriving DecidableEq, Repr

def NalScan.note (scan : NalScan) (role : NalRole) : NalScan :=
  { scan with
    foundSlice := scan.foundSlice || role.slice
    foundIdr := scan.foundIdr || role.idr
    seiCount := scan.seiCount + role.sei.toNat }

/-- The type of an AVC unit. -/
def avcNalType (data : List UInt8) (pos : NalPosition) : Nat := byte data pos.nalOffset &&& 0x1f

/-- A slice whose first macroblock is the first one of the picture begins a frame; an access unit delimiter and an SPS belong
    to the next frame. -/
def avcRole (r : BitReader σ) (data : List UInt8) (pos : NalPosition) (foundSlice : Bool) : Option NalRole :=
  let nalType := avcNalType data pos
  if nalType = 1 ∨ nalType = 5 then
    if foundSlice then
      (r.parseUE (r.ofBytes ((data.drop (pos.nalOffset + 1)).take pos.nalSize))).map fun firstMbInSlice =>
        { slice := true, idr := nalType = 5, flush := firstMbInSlice.1 = 0 }
    else some { slice := true, idr := nalType = 5 }
  else if (nalType = 9 ∨ nalType = 7) ∧ foundSlice then some { flush := true }
  else if nalType = 6 ∧ 0 < pos.nalSize then some { sei := true }
  else some {}

/-- Every slice begins a frame. -/
def hevcRole (data : List UInt8) (pos : NalPosition) (foundSlice : Bool) : Option NalRole :=
  let nalType := (byte data pos.nalOffset >>> 1) &&& 0x3f
  if nalType ≤ 9 ∨ (16 ≤ nalType ∧ nalType ≤ 21) then some { slice := true, flush := foundSlice }
  else if (nalType = 33 ∨ nalType = 35) ∧ foundSlice then some { flush := true }
  else some {}

/-- The loop over the NAL units of `data`, the end of `whole`, up to one that flushes: what was found before it, or `none` where
    no unit flushes. -/
def scanNals (splitter : NalSplitter) (role : NalPosition → Bool → Option NalRole) (whole data : List UInt8)
    (scan : NalScan) : Option (Option NalScan) :=
  match h : splitter.next data with
  | .error .eagain => some none
  | .error (.outside _) => none
  | .ok n =>
    have := splitter.length_rest_lt h
    if n.nalSize = 0 then scanNals splitter role whole n.rest scan
    else if n.nalSize < 0 then none
    else
      let pos := { nalOffset := whole.length - data.length + n.nalStart, nalSize := n.nalSize.toNat }
      match role pos scan.foundSlice with
      | none => none
      | some role' =>
        if role'.flush then some (some (scan.note role'))
        else scanNals splitter role whole n.rest { scan.note role' with nals := scan.nals ++ [pos] }
termination_by data.length

def startCode : List UInt8 := [0, 0, 0, 1]

/-- The units, each behind a start code, and where the SEI units are; `none` where there are more of them than were counted. -/
def copyNals (isSei : NalPosition → Bool) (data : List UInt8) (seiCount : Nat) :
    List NalPosition → Nat → Nat → Option (List UInt8 × List NalPosition)
  | [], _, _ => some ([], [])
  | pos :: nals, dstOffset, seiIndex =>
    if isSei pos ∧ seiIndex ≥ seiCount then none
    else
      (copyNals isSei data seiCount nals (dstOffset + pos.nalSize + 4) (seiIndex + (isSei pos).toNat)).map fun rest =>
        (startCode ++ (data.drop pos.nalOffset).take pos.nalSize ++ rest.1,
          if isSei pos then { nalOffset := dstOffset + 4, nalSize := pos.nalSize } :: rest.2 else rest.2)

namespace ElementaryStreamQueue
variable (fw : Framework σ φ) (q : ElementaryStreamQueue φ)

def dequeueAccessUnitH264 : Dequeued φ :=
  let data := q.mBuffer.data
  match scanNals fw.getNextNalUnit (avcRole fw.reader data) data data {} with
  | none => none
  | some none => some (none, q)
  | some (some scan) =>
    match copyNals (fun pos => avcNalType data pos = 6 ∧ 0 < pos.nalSize) data scan.seiCount scan.nals 0 0 with
    | none => some (none, q)
    | some (accessUnit, sei) =>
      match scan.nals.getLast? with
      | none => none
      | some pos =>
        let nextScan := pos.nalOffset + pos.nalSize
        let fetched := (q.moveOut nextScan).fetchTimestamp nextScan
        if fetched.1 < 0 then some (none, fetched.2)
        else
          some (some { data := accessUnit, timeUs := fetched.1, isSync := scan.foundIdr, sei },
            fetched.2.withFormat ((fw.makeAvcCodecSpecificData accessUnit).map .framework))

def dequeueAccessUnitH265 : Dequeued φ :=
  let data := q.mBuffer.data
  match scanNals hevcSplitter (hevcRole data) data data {} with
  | none => none
  | some none => some (none, q)
  | some (some scan) =>
    match copyNals (fun _ => false) data scan.seiCount scan.nals 0 0, scan.nals.getLast? with
    | some (accessUnit, _), some pos =>
      let nextScan := pos.nalOffset + pos.nalSize
      let fetched := (q.moveOut nextScan).fetchTimestamp nextScan
      if fetched.1 < 0 then none
      else if q.mFormat.isSome then some (some { data := accessUnit, timeUs := fetched.1 }, fetched.2)
      else
        match makeHevcCodecSpecificData fw.reader fw.memory accessUnit with
        | .error _ => none
        | .ok csd => some (some { data := accessUnit, timeUs := fetched.1 }, fetched.2.withFormat (csd.map .hevc))
    | _, _ => none

/-- A packet is an access unit. -/
def dequeueAlignedAccessUnit : Dequeued φ :=
  match q.mRangeInfos with
  | [] => some (none, q)
  | info :: infos =>
    let accessUnit := q.mBuffer.data.take info.length
    some (some { data := accessUnit, timeUs := info.value },
      (({ q with mRangeInfos := infos }).moveOut info.length).withFormat
        ((fw.makeAvcCodecSpecificData accessUnit).map .framework))

end ElementaryStreamQueue

/-! ### Access units of MPEG video -/

def startCodePrefix : List UInt8 := [0, 0, 1]

/-- What `EncodeSize14` writes. -/
def encodeSize14 (size : Nat) : List UInt8 :=
  if size > 0x3fff then [] else [UInt8.ofNat (0x80 ||| size >>> 7), UInt8.ofNat (size &&& 0x7f)]

/-- The bytes that are written. -/
def makeMpegVideoEsds (csd : List UInt8) : List UInt8 :=
  [0x03] ++ encodeSize14 (22 + csd.length) ++ [0x00, 0x00, 0x00, 0x04] ++ encodeSize14 (16 + csd.length) ++
    [0x40] ++ List.replicate 12 0x00 ++ [0x05] ++ encodeSize14 csd.length ++ csd

/-- The local variables of the search for a picture. -/
structure PictureScan where
  sawPictureStart : Bool := false
  pprevStartCode : Option Nat := none
  prevStartCode : Option Nat := none
  currentStartCode : Option Nat := none
  gopFound : Bool := false
  isClosedGop : Bool := false
  brokenLink : Bool := false
  deriving DecidableEq, Repr

namespace PictureScan

def next (scan : PictureScan) (code : Nat) : PictureScan :=
  { scan with pprevStartCode := scan.prevStartCode, prevStartCode := scan.currentStartCode, currentStartCode := some code }

/-- The sequence header ended, without or with an extension. -/
def afterSequenceHeader (scan : PictureScan) : Bool :=
  scan.prevStartCode = some 0xb3 && scan.currentStartCode ≠ some 0xb5 ||
    scan.pprevStartCode = some 0xb3 && scan.prevStartCode = some 0xb5

def gop (scan : PictureScan) (b : Nat) : PictureScan :=
  { scan with gopFound := true, isClosedGop := b &&& 0x40 ≠ 0, brokenLink := b &&& 0x20 ≠ 0 }

def isSync (scan : PictureScan) : Bool := scan.gopFound && (!scan.brokenLink || scan.isClosedGop)

end PictureScan

namespace ElementaryStreamQueue
variable (fw : Framework σ φ) (q : ElementaryStreamQueue φ)

/-- The first `n` bytes are thrown away, and their times. -/
def discard (n : Nat) : ElementaryStreamQueue φ := ((q.moveOut n).fetchTimestamp n).2

/-- A sequence header before the first picture: the size is taken from it. -/
def sequenceHeader (offset : Nat) : ElementaryStreamQueue φ :=
  let data := q.mBuffer.data
  let width := (byte data 4 <<< 4) ||| (byte data 5 >>> 4)
  let height := ((byte data 5 &&& 0x0f) <<< 8) ||| byte data 6
  { q.discard offset with mFormat := some (.mpeg2Video width height (makeMpegVideoEsds (data.take offset))) }

/-- Before the first sequence header everything is thrown away that comes before a sequence header. -/
def restart (code offset : Nat) : ElementaryStreamQueue φ × Nat :=
  if code = 0xb3 ∧ q.mFormat.isNone then (q.discard offset, 0) else (q, offset)

theorem size_restart (code offset : Nat) :
    (q.restart code offset).1.mBuffer.size - (q.restart code offset).2 = q.mBuffer.size - offset := by
  unfold restart
  split
  · simp [discard, moveOut, fetchTimestamp, ABuffer.size]
  · rfl

/-- The loop over the start codes of a queue from an offset on. -/
def scanMpegVideo (q : ElementaryStreamQueue φ) (scan : PictureScan) (offset : Nat) : Dequeued φ :=
  if offset + 3 < q.mBuffer.size then
    if (q.mBuffer.data.drop offset).take 3 ≠ startCodePrefix then scanMpegVideo q scan (offset + 1)
    else
      let code := byte q.mBuffer.data (offset + 3)
      have hsize := size_restart q code offset
      let q' := (q.restart code offset).1
      let offset' := (q.restart code offset).2
      let scan := scan.next code
      if scan.afterSequenceHeader ∧ q'.mFormat.isNone then
        if q'.mBuffer.size < 7 then some (none, q') else some (none, q'.sequenceHeader offset')
      else if q'.mFormat.isSome ∧ code = 0xb8 then
        if offset' + 7 < q'.mBuffer.size then
          scanMpegVideo q' (scan.gop (byte q'.mBuffer.data (offset' + 7))) (offset' + 1)
        else none
      else if q'.mFormat.isSome ∧ code = 0x00 then
        if scan.sawPictureStart then
          let fetched := (q'.moveOut offset').fetchTimestamp offset'
          if fetched.1 < 0 then some (none, fetched.2)
          else
            some (some { data := q'.mBuffer.data.take offset', timeUs := fetched.1, isSync := scan.isSync }, fetched.2)
        else scanMpegVideo q' { scan with sawPictureStart := true } (offset' + 1)
      else scanMpegVideo q' scan (offset' + 1)
  else some (none, q)
termination_by q.mBuffer.size - offset
decreasing_by all_goals grind

def dequeueAccessUnitMpegVideo : Dequeued φ := scanMpegVideo q {} 0

end ElementaryStreamQueue

/-- The size of the chunk that data begin with, up to the next start code. -/
def getNextChunkSize (data : List UInt8) : Option Nat :=
  if data.take 3 = startCodePrefix then (memmem startCodePrefix (data.drop 3)).map (3 + ·) else none

theorem getNextChunkSize_pos {data : List UInt8} {chunkSize : Nat} (h : getNextChunkSize data = some chunkSize) :
    0 < chunkSize ∧ chunkSize < data.length := by
  unfold getNextChunkSize at h
  split_ifs at h
  obtain ⟨n, hn, rfl⟩ := Option.map_eq_some_iff.mp h
  have hlt := memmem_lt hn
  rw [List.length_drop] at hlt
  omega

inductive Mpeg4State where
  | skipToVisualObjectSeqStart
  | expectVisualObjectStart
  | expectVoStart
  | expectVolStart
  | waitForVopStart
  | skipToVopStart
  deriving DecidableEq, Repr

namespace ElementaryStreamQueue
variable (fw : Framework σ φ)

/-- The loop over the chunks of a queue from an offset on. What is before the first visual object sequence is not thrown away:
    the loop looks at it again and again. -/
def scanMpeg4Video (q : ElementaryStreamQueue φ) (state : Mpeg4State) (width height : Int) (offset : Nat) : Dequeued φ :=
  match _hchunk : getNextChunkSize (q.mBuffer.data.drop offset) with
  | none => some (none, q)
  | some chunkSize =>
    let chunkType := byte q.mBuffer.data (offset + 3)
    match state with
    | .skipToVisualObjectSeqStart =>
      if chunkType = 0xb0 then scanMpeg4Video q .expectVisualObjectStart width height (offset + chunkSize)
      else if offset = 0 then none
      else scanMpeg4Video (q.discard offset) .skipToVisualObjectSeqStart width height 0
    | .expectVisualObjectStart =>
      if chunkType ≠ 0xb5 then some (none, q)
      else scanMpeg4Video q .expectVoStart width height (offset + chunkSize)
    | .expectVoStart =>
      if chunkType > 0x1f then some (none, q)
      else scanMpeg4Video q .expectVolStart width height (offset + chunkSize)
    | .expectVolStart =>
      if chunkType &&& 0xf0 ≠ 0x20 then some (none, q)
      else
        match fw.extractDimensionsFromVolHeader ((q.mBuffer.data.drop offset).take chunkSize) with
        | none => some (none, q)
        | some (width, height) => scanMpeg4Video q .waitForVopStart width height (offset + chunkSize)
    | .waitForVopStart =>
      if chunkType = 0xb3 ∨ chunkType = 0xb6 then
        let format := .mpeg4Video width height (makeMpegVideoEsds (q.mBuffer.data.take offset))
        scanMpeg4Video { q.discard offset with mFormat := some format } .skipToVopStart width height 0
      else scanMpeg4Video q .waitForVopStart width height (offset + chunkSize)
    | .skipToVopStart =>
      if chunkType = 0xb6 then
        let vopCodingType := (byte q.mBuffer.data (offset + 4) &&& 0xc0) >>> 6
        let offset := offset + chunkSize
        let fetched := (q.moveOut offset).fetchTimestamp offset
        if fetched.1 < 0 then some (none, fetched.2)
        else
          some (some { data := q.mBuffer.data.take offset, timeUs := fetched.1, isSync := vopCodingType = 0 }, fetched.2)
      else if chunkType ≠ 0xb3 then scanMpeg4Video (q.discard (offset + chunkSize)) .skipToVopStart width height 0
      else scanMpeg4Video q .skipToVopStart width height (offset + chunkSize)
termination_by (4 * (q.mBuffer.size - offset) + (if state = .waitForVopStart then 2 else 0) + if offset = 0 then 0 else 1)
decreasing_by
  all_goals
    have hpos := getNextChunkSize_pos _hchunk
    simp only [discard, moveOut, fetchTimestamp, ABuffer.size, ABuffer.data_drop, List.length_drop] at hpos ⊢
    grind

def dequeueAccessUnitMpeg4Video (q : ElementaryStreamQueue φ) : Dequeued φ :=
  scanMpeg4Video fw q (if q.mFormat.isNone then .skipToVisualObjectSeqStart else .skipToVopStart) (-1) (-1) 0

/-! ### Calls -/

def dequeueAccessUnit (q : ElementaryStreamQueue φ) : Dequeued φ :=
  if q.alignedData ∧ q.mMode = .h264 then q.dequeueAlignedAccessUnit fw
  else
    match q.mMode with
    | .h265 => q.dequeueAccessUnitH265 fw
    | .h264 => q.dequeueAccessUnitH264 fw
    | .aac => q.dequeueAccessUnitAac fw
    | .ac3 => q.dequeueAccessUnitAc3 fw
    | .mpegVideo => q.dequeueAccessUnitMpegVideo
    | .mpeg4Video => q.dequeueAccessUnitMpeg4Video fw
    | .pcmAudio => q.dequeueAccessUnitPcmAudio fw
    | .metadata => q.dequeueAccessUnitMetadata
    | .mpegAudio => q.dequeueAccessUnitMpegAudio fw

/-- Whether something that resembles a syncword is at the beginning of data. -/
def resemblesSyncword (mode : Mode) (data : List UInt8) : Option Bool :=
  match mode with
  | .h265 | .h264 | .mpegVideo | .mpeg4Video => some (startCodePrefix.isPrefixOf data)
  | .aac => some (isSeeminglyValidAdtsHeader data).isSome
  | .ac3 => (parseAc3SyncFrame fw.reader data).map fun frame => frame.any (0 < ·.payloadSize)
  | .mpegAudio => some (isSeeminglyValidMpegAudioHeader data)
  | .pcmAudio | .metadata => some true

/-- The data from the first syncword on; `some none` where there is no syncword. -/
def fromSyncword (mode : Mode) : List UInt8 → Option (Option (List UInt8))
  | [] => some none
  | b :: data =>
    match resemblesSyncword fw mode (b :: data) with
    | none => none
    | some true => some (some (b :: data))
    | some false => fromSyncword mode data

/-- The data that are appended: where the buffer is empty, those from the first syncword on. -/
def trimmed (q : ElementaryStreamQueue φ) (data : List UInt8) : Option (Option (List UInt8)) :=
  if q.mBuffer.size = 0 then
    match q.mMode with
    | .pcmAudio | .metadata => some (some data)
    | mode => fromSyncword fw mode data
  else some (some data)

def appendData (q : ElementaryStreamQueue φ) (data : List UInt8) (timeUs : Int) :
    Option (Status × ElementaryStreamQueue φ) :=
  if q.mEOSReached then some (.malformed, q)
  else
    match trimmed fw q data with
    | none => none
    | some none => some (.malformed, q)
    | some (some data) =>
      let neededSize := q.mBuffer.size + data.length
      some (.ok,
        { q with
          mBuffer := q.mBuffer.append data (ABuffer.roundUp 65536 neededSize) (ABuffer.le_roundUp (by decide) _)
          mRangeInfos := q.mRangeInfos ++ [{ value := timeUs, length := data.length }] })

/-- The access units that a caller takes until there is none, each with the format after it; `none` after more than `fuel` calls
    too. -/
def dequeueAccessUnits : Nat → ElementaryStreamQueue φ →
    Option (List (AccessUnit × Option (Format φ)) × ElementaryStreamQueue φ)
  | 0, _ => none
  | fuel + 1, q =>
    match q.dequeueAccessUnit fw with
    | none => none
    | some (none, q) => some ([], q)
    | some (some accessUnit, q) => (dequeueAccessUnits fuel q).map fun rest => ((accessUnit, q.mFormat) :: rest.1, rest.2)

def signalEOS (q : ElementaryStreamQueue φ) : Option (ElementaryStreamQueue φ) :=
  if q.mEOSReached then some q
  else if q.mMode = .mpegVideo then
    (appendData fw q [0x00, 0x00, 0x01, 0x00] 0).map fun appended => { appended.2 with mEOSReached := true }
  else some { q with mEOSReached := true }

/-- The payload of a packet goes into the queue, and access units are taken until there is none. -/
def takePayload (eosReached : Bool) (q : ElementaryStreamQueue φ) (data : List UInt8) (timeUs : Int) :
    Option (List (AccessUnit × Option (Format φ)) × ElementaryStreamQueue φ) := do
  let (err, q) ← appendData fw q data timeUs
  let q ← if eosReached then signalEOS fw q else some q
  if err = .ok then dequeueAccessUnits fw (q.mBuffer.size + 1) q else some ([], q)

end ElementaryStreamQueue

end BcmPlatform.Ts
