import BcmPlatform.Lib.Crc
import BcmPlatform.Lib.KeyedVectors
import BcmPlatform.Ts.PacketSources

/-! `ATSParser`: transport stream packets become sections and the packets of elementary streams; the sections say which streams
    there are, and the access units of each stream go to its source. -/

namespace BcmPlatform.Ts
open Lib Hevc

variable {σ φ : Type}

/-! ### Parts of the framework -/

/-- What the parser calls that is part of the framework. -/
structure TsFramework (σ φ : Type) extends Framework σ φ where
  mimeType : φ → Option String
  isIdr : List UInt8 → Bool
  before : Message (Format φ) → Message (Format φ) → Bool

def Format.mimeType (frameworkMimeType : φ → Option String) : Format φ → Option String
  | .framework metaData => frameworkMimeType metaData
  | .hevc _ => some "video/hevc"
  | .raw _ _ => some "audio/raw"
  | .ac3 _ _ => some "audio/ac3"
  | .mpegAudio _ _ => some "audio/mpeg"
  | .mpeg2Video _ _ _ => some "video/mpeg2"
  | .mpeg4Video _ _ _ => some "video/mp4v-es"
  | .timedId3 => some "application/x-id3v4"
  | .empty => none

def TsFramework.source (fw : TsFramework σ φ) : SourceFramework (Format φ) where
  mimeType := Format.mimeType fw.mimeType
  isIdr := fw.isIdr
  before := fw.before

/-- `ABitReader`: the bytes that it was made for, and how far it is. -/
structure ABitReader (σ : Type) where
  bytes : List UInt8
  state : σ

namespace ABitReader

def new (r : BitReader σ) (bytes : List UInt8) : ABitReader σ := { bytes, state := r.ofBytes bytes }

def numBitsLeft (r : BitReader σ) (br : ABitReader σ) : Nat := r.numBitsLeft br.state

/-- The bytes from the one on that holds the next bit. -/
def data (r : BitReader σ) (br : ABitReader σ) : List UInt8 :=
  br.bytes.drop (br.bytes.length - (br.numBitsLeft r + 7) / 8)

/-- What is read next; an error where it is refused. -/
def read {α : Type} (br : ABitReader σ) (p : HeaderReader σ α) : Option (Except Unit α × ABitReader σ) :=
  (p.run.run br.state).map fun result => (result.1, { br with state := result.2 })

end ABitReader

/-! ### Time stamps -/

/-- What a parser knows of time: `mFlags`, `mAbsoluteTimeAnchorUs`, `mTimeOffsetValid` and `mTimeOffsetUs`. -/
structure TimeBase where
  mFlags : Nat := 0
  mAbsoluteTimeAnchorUs : Int := -1
  mTimeOffsetValid : Bool := false
  mTimeOffsetUs : Int := 0
  deriving DecidableEq, Repr

def tsTimestampsAreAbsolute : Nat := 1
def alignedVideoData : Nat := 2

/-- What a program knows of its time stamps. -/
structure PtsState where
  mFirstPTSValid : Bool
  mFirstPTS : BitVec 64
  mLastRecoveredPTS : BitVec 64
  deriving DecidableEq, Repr

namespace PtsState

/-- The recovered time stamp; it is kept as `mLastRecoveredPTS`. -/
def recoverPTS (p : PtsState) (pts33bit : BitVec 64) : PtsState :=
  if p.mLastRecoveredPTS.slt 0#64 then { p with mLastRecoveredPTS := pts33bit }
  else
    let recovered := ((p.mLastRecoveredPTS - pts33bit + 0x100000000#64) &&& 0xfffffffe00000000#64) ||| pts33bit
    { p with mLastRecoveredPTS := if recovered.slt 0#64 then 0#64 else recovered }

def convertPTSToTimestamp (base : TimeBase) (p : PtsState) (pts33bit : BitVec 64) : Int × PtsState :=
  let p := p.recoverPTS pts33bit
  let recovered := p.mLastRecoveredPTS
  let (pts, p) :=
    if base.mFlags &&& tsTimestampsAreAbsolute ≠ 0 then (recovered, p)
    else if !p.mFirstPTSValid then (0#64, { p with mFirstPTSValid := true, mFirstPTS := recovered })
    else if recovered.ult p.mFirstPTS then (0#64, p)
    else (recovered - p.mFirstPTS, p)
  let timeUs := (pts * 100#64 / 9#64).toInt
  let timeUs := if 0 ≤ base.mAbsoluteTimeAnchorUs then timeUs + base.mAbsoluteTimeAnchorUs else timeUs
  (if base.mTimeOffsetValid then timeUs + base.mTimeOffsetUs else timeUs, p)

end PtsState

/-! ### PES packets -/

section PesHeader
open HeaderReader
variable (r : BitReader σ)

/-- What a PES packet hands over, `size` bytes of payload; without a length it is what is left. -/
structure PesPayload where
  ptsDtsFlags : Nat
  pts : Nat
  dts : Nat
  size : Nat
  bounded : Bool
  deriving DecidableEq, Repr

/-- The stream ids of packets without optional fields. -/
def plainStreamIds : List Nat := [0xbc, 0xbe, 0xbf, 0xf0, 0xf1, 0xff, 0xf2, 0xf8]

def markerBit : HeaderReader σ Unit := do require ((← getBits r 1) == 1)

/-- A time stamp in three parts, with a marker bit behind each. -/
def timeStampBits : HeaderReader σ Nat := do
  let high ← getBits r 3
  markerBit r
  let middle ← getBits r 15
  markerBit r
  let low ← getBits r 15
  markerBit r
  return (high <<< 30) ||| (middle <<< 15) ||| low

/-- The time stamps, and how many optional bytes are left. -/
def pesTimeStamps (ptsDtsFlags optionalBytesRemaining : Nat) : HeaderReader σ (Nat × Nat × Nat) :=
  if ptsDtsFlags = 2 ∨ ptsDtsFlags = 3 then do
    require (5 ≤ optionalBytesRemaining)
    require ((← getBits r 4) == ptsDtsFlags)
    let pts ← timeStampBits r
    if ptsDtsFlags = 3 then do
      require (5 ≤ optionalBytesRemaining - 5)
      require ((← getBits r 4) == 1)
      let dts ← timeStampBits r
      return (pts, dts, optionalBytesRemaining - 10)
    else return (pts, 0, optionalBytesRemaining - 5)
  else return (0, 0, optionalBytesRemaining)

def pesEscr (escrFlag optionalBytesRemaining : Nat) : HeaderReader σ Nat :=
  if escrFlag ≠ 0 then do
    require (6 ≤ optionalBytesRemaining)
    let _ ← getBits r 2
    let _escr ← timeStampBits r
    let _escrExtension ← getBits r 9
    markerBit r
    return optionalBytesRemaining - 6
  else return optionalBytesRemaining

def pesEsRate (esRateFlag optionalBytesRemaining : Nat) : HeaderReader σ Nat :=
  if esRateFlag ≠ 0 then do
    require (3 ≤ optionalBytesRemaining)
    markerBit r
    let _esRate ← getBits r 22
    markerBit r
    return optionalBytesRemaining - 3
  else return optionalBytesRemaining

/-- `parsePES`, up to the call of `onPayloadData`. -/
def pesHeader : HeaderReader σ (Option PesPayload) := do
  require ((← getBits r 24) == 1)
  let streamId ← getBits r 8
  let pesPacketLength ← getBits r 16
  if streamId ∈ plainStreamIds then do
    require (pesPacketLength != 0)
    skipBits r (pesPacketLength * 8)
    return none
  else do
    require ((← getBits r 2) == 2)
    let _scramblingControl ← getBits r 2
    let _priority ← getBits r 1
    let _dataAlignmentIndicator ← getBits r 1
    let _copyright ← getBits r 1
    let _originalOrCopy ← getBits r 1
    let ptsDtsFlags ← getBits r 2
    let escrFlag ← getBits r 1
    let esRateFlag ← getBits r 1
    let _dsmTrickModeFlag ← getBits r 1
    let _additionalCopyInfoFlag ← getBits r 1
    let _crcFlag ← getBits r 1
    let _extensionFlag ← getBits r 1
    let headerDataLength ← getBits r 8
    let (pts, dts, remaining) ← pesTimeStamps r ptsDtsFlags headerDataLength
    let remaining ← pesEscr r escrFlag remaining
    let remaining ← pesEsRate r esRateFlag remaining
    skipBits r (remaining * 8)
    if pesPacketLength ≠ 0 then do
      require (headerDataLength + 3 ≤ pesPacketLength)
      let dataLength := pesPacketLength - 3 - headerDataLength
      require (dataLength * 8 ≤ (← numBitsLeft r))
      return some { ptsDtsFlags, pts, dts, size := dataLength, bounded := true }
    else return some { ptsDtsFlags, pts, dts, size := (← numBitsLeft r) / 8, bounded := false }

/-- `parsePES`, behind the call of `onPayloadData`. -/
def pesEnd (payload : PesPayload) : HeaderReader σ Unit :=
  if payload.bounded then skipBits r (payload.size * 8) else do require ((← numBitsLeft r) % 8 == 0)

end PesHeader

/-! ### Streams -/

def streamtypeMpeg1Video : Nat := 0x01
def streamtypeMpeg2Video : Nat := 0x02
def streamtypeMpeg1Audio : Nat := 0x03
def streamtypeMpeg2Audio : Nat := 0x04
def streamtypePrivate : Nat := 0x06
def streamtypeMpeg2AudioAdts : Nat := 0x0f
def streamtypeMpeg4Video : Nat := 0x10
def streamtypeMetadata : Nat := 0x15
def streamtypeH264 : Nat := 0x1b
def streamtypeH265 : Nat := 0x24
def streamtypePcmAudio : Nat := 0x83
def streamtypeAc3 : Nat := 0x81
def streamtypeLpcmAc3 : Nat := 0x84

/-- `"HEVC"` -/
def formatIdentifierHevc : Nat := 0x48455643

/-- A sync point, set by a packet with a sync frame; `mMediaSource` is the PID of the stream whose source it is. -/
structure SyncEvent where
  mInit : Bool
  mOffset : Int
  mMediaSource : Option Nat
  mTimeUs : Int
  deriving DecidableEq, Repr

/-- The mode of the queue of a stream. -/
def queueMode (streamType : Nat) (formatId : Option Nat) : Option Mode :=
  if streamType = streamtypeH264 then some .h264
  else if streamType = streamtypeMpeg2AudioAdts then some .aac
  else if streamType = streamtypeMpeg1Audio ∨ streamType = streamtypeMpeg2Audio then some .mpegAudio
  else if streamType = streamtypeMpeg1Video ∨ streamType = streamtypeMpeg2Video then some .mpegVideo
  else if streamType = streamtypeMpeg4Video then some .mpeg4Video
  else if streamType = streamtypePcmAudio then some .pcmAudio
  else if streamType = streamtypeH265 then some .h265
  else if streamType = streamtypeLpcmAc3 ∨ streamType = streamtypeAc3 then some .ac3
  else if streamType = streamtypeMetadata then some .metadata
  else if streamType = streamtypePrivate ∧ formatId = some formatIdentifierHevc then some .h265
  else none

/-- A stream; `mExpectedContinuityCounter` and `mFormatId` are `none` for -1. -/
structure Stream (φ : Type) where
  mElementaryPID : Nat
  mStreamType : Nat
  mPCR_PID : Nat
  mFormatId : Option Nat
  mExpectedContinuityCounter : Option Nat
  mBuffer : ABuffer
  mSource : Option (AnotherPacketSource (Format φ))
  mPayloadStarted : Bool
  mEOSReached : Bool
  mPesStartOffset : Int
  mQueue : Option (ElementaryStreamQueue φ)

/-- An access unit as it is queued. -/
def AccessUnit.toPacket (a : AccessUnit) : Packet (Format φ) where
  data := a.data
  message :=
    { timeUs := some a.timeUs
      isSync := if a.isSync then some 1 else none
      sei := if a.sei.isEmpty then none else some a.sei }

/-- What a signal of a discontinuity comes with. -/
structure Extra where
  mediaTimeUs : Option Int := none
  recentMediaTimeUs : Option Int := none
  resumeAtPTS : Option Int := none
  resumeAtMediaTimeUs : Option Int := none
  timeUs : Option Int := none
  offset : Option Int := none
  deriving DecidableEq, Repr

/-- The call of a stream: the stream, the time stamps of its program, and the event of the packet. -/
structure StreamCall (φ : Type) where
  stream : Stream φ
  pts : PtsState
  event : Option SyncEvent

namespace Stream
variable (fw : TsFramework σ φ) (base : TimeBase)

def new (parserFlags elementaryPID streamType pcrPID : Nat) (formatId : Option Nat) : Stream φ :=
  let mode := queueMode streamType formatId
  { mElementaryPID := elementaryPID
    mStreamType := streamType
    mPCR_PID := pcrPID
    mFormatId := formatId
    mExpectedContinuityCounter := none
    mBuffer := if mode.isSome then { capacity := 192 * 1024, data := [], length_le := Nat.zero_le _ } else noBuffer
    mSource := none
    mPayloadStarted := false
    mEOSReached := false
    mPesStartOffset := 0
    mQueue := mode.map fun mode =>
      .new mode ((mode = .h264 ∨ mode = .h265) ∧ parserFlags &&& alignedVideoData ≠ 0) }

def isVideo (s : Stream φ) : Bool :=
  s.mStreamType = streamtypeH265 ∨ s.mStreamType = streamtypeH264 ∨ s.mStreamType = streamtypeMpeg1Video ∨
    s.mStreamType = streamtypeMpeg2Video ∨ s.mStreamType = streamtypeMpeg4Video ∨
    s.mStreamType = streamtypePrivate ∧ s.mFormatId = some formatIdentifierHevc

def isAudio (s : Stream φ) : Bool :=
  s.mStreamType = streamtypeMpeg1Audio ∨ s.mStreamType = streamtypeMpeg2Audio ∨
    s.mStreamType = streamtypeMpeg2AudioAdts ∨ s.mStreamType = streamtypeLpcmAc3 ∨ s.mStreamType = streamtypeAc3 ∨
    s.mStreamType = streamtypePcmAudio

def isMeta (s : Stream φ) : Bool := s.mStreamType = streamtypeMetadata

/-- An access unit goes to the source, which is made when there is a format; `true` where the loop goes on with the event. -/
def queueUnit (s : Stream φ) (accessUnit : AccessUnit) (format : Option (Format φ)) : Option (Stream φ × Bool) :=
  match s.mSource, format with
  | none, none => some (s, true)
  | none, some metaData =>
    if (fw.source.mimeType metaData).any (equalsIgnoringCase "video/avc") ∧ !fw.isIdr accessUnit.data then some (s, false)
    else do
      let source ← (AnotherPacketSource.new fw.source (some metaData)).toOption
      let source ← (source.queueAccessUnit accessUnit.toPacket).toOption
      return ({ s with mSource := some source }, true)
  | some _, none => some (s, true)
  | some source, some metaData => do
    let (sourceFormat, source) ← (source.getFormat fw.source).toOption
    let source ← if sourceFormat.isNone then (source.setFormat fw.source (some metaData)).toOption else some source
    let source ← (source.queueAccessUnit accessUnit.toPacket).toOption
    return ({ s with mSource := some source }, true)

/-- The loop over access units with the formats behind them; `found` says whether the event was set. -/
def queueUnits (s : Stream φ) (event : Option SyncEvent) (found : Bool) :
    List (AccessUnit × Option (Format φ)) → Option (Stream φ × Option SyncEvent)
  | [] => some (s, event)
  | (accessUnit, format) :: units =>
    match queueUnit fw s accessUnit format with
    | none => none
    | some (s, goesOn) =>
      if goesOn ∧ event.isSome ∧ !found ∧ format.isSome ∧ accessUnit.isSync then
        let event := { mInit := true, mOffset := s.mPesStartOffset, mMediaSource := s.mSource.map fun _ => s.mElementaryPID,
                       mTimeUs := accessUnit.timeUs }
        queueUnits s (some event) true units
      else queueUnits s event found units

def onPayloadData (c : StreamCall φ) (payload : PesPayload) (data : List UInt8) : Option (StreamCall φ) :=
  match c.stream.mQueue with
  | none => none
  | some queue =>
    let (timeUs, pts) :=
      if payload.ptsDtsFlags = 2 ∨ payload.ptsDtsFlags = 3 then
        c.pts.convertPTSToTimestamp base (BitVec.ofNat 64 payload.pts)
      else (0, c.pts)
    do
      let (units, queue) ← queue.takePayload fw.toFramework c.stream.mEOSReached data timeUs
      let (stream, event) ← queueUnits fw { c.stream with mQueue := some queue } c.event false units
      return { stream, pts, event }

def parsePES (c : StreamCall φ) (data : List UInt8) : Option (Status × StreamCall φ) :=
  match (ABitReader.new fw.reader data).read (pesHeader fw.reader) with
  | none => none
  | some (.error _, _) => some (.malformed, c)
  | some (.ok none, _) => some (.ok, c)
  | some (.ok (some payload), br) => do
    let c ← onPayloadData fw base c payload ((br.data fw.reader).take payload.size)
    let (result, _) ← br.read (pesEnd fw.reader payload)
    return (if result.toOption.isSome then .ok else .malformed, c)

/-- The accumulated payload is parsed, if there is any. -/
def flush (c : StreamCall φ) : Option (Status × StreamCall φ) :=
  if c.stream.mBuffer.size = 0 then some (.ok, c)
  else
    (parsePES fw base c c.stream.mBuffer.data).map fun result =>
      (result.1,
        { result.2 with stream := { result.2.stream with mBuffer := result.2.stream.mBuffer.clear } })

/-- The packet is not the one that was expected. -/
def isDiscontinuous (s : Stream φ) (continuityCounter : Nat) : Bool :=
  s.mExpectedContinuityCounter.any (· ≠ continuityCounter)

/-- The payload of a transport stream packet goes behind what was accumulated. -/
def accumulate (s : Stream φ) (data : List UInt8) : Stream φ :=
  { s with
    mBuffer := s.mBuffer.append data (ABuffer.roundUp 65536 (s.mBuffer.size + data.length))
      (ABuffer.le_roundUp (by decide) _) }

/-- `parse`, from where the continuity counter was checked on. -/
def parseCounted (c : StreamCall φ) (continuityCounter : Nat) (payloadUnitStart : Bool) (br : ABitReader σ) :
    Option (Status × StreamCall φ) := do
  let stream := { c.stream with mExpectedContinuityCounter := some ((continuityCounter + 1) &&& 0x0f) }
  let c := { c with stream }
  let c ←
    if payloadUnitStart then do
      let offset := c.event.elim 0 (·.mOffset)
      let c ← if c.stream.mPayloadStarted then (flush fw base c).map (·.2) else some c
      some { c with stream := { c.stream with mPayloadStarted := true, mPesStartOffset := offset } }
    else some c
  if !c.stream.mPayloadStarted then some (.ok, c)
  else if br.numBitsLeft fw.reader % 8 ≠ 0 then some (.badValue, c)
  else
    some (.ok,
      { c with stream := c.stream.accumulate ((br.data fw.reader).take (br.numBitsLeft fw.reader / 8)) })

def parse (c : StreamCall φ) (continuityCounter : Nat) (payloadUnitStart : Bool) (br : ABitReader σ) :
    Option (Status × StreamCall φ) :=
  if c.stream.mQueue.isNone then some (.ok, c)
  else if c.stream.isDiscontinuous continuityCounter then
    let stream :=
      { c.stream with
        mPayloadStarted := false
        mBuffer := c.stream.mBuffer.clear
        mExpectedContinuityCounter := none }
    if !payloadUnitStart then some (.ok, { c with stream })
    else parseCounted fw base { c with stream } continuityCounter payloadUnitStart br
  else parseCounted fw base c continuityCounter payloadUnitStart br

/-- The format is cleared with the discontinuity. -/
def clearsFormat (s : Stream φ) (type : Nat) : Bool :=
  if s.isAudio then type &&& discontinuityAudioFormat ≠ 0 else type &&& discontinuityVideoFormat ≠ 0

def signalDiscontinuity (s : Stream φ) (pts : PtsState) (type : Nat) (extra : Option Extra) :
    Stream φ × PtsState × Option Extra :=
  match s.mQueue with
  | none => ({ s with mExpectedContinuityCounter := none }, pts, extra)
  | some queue =>
    let resumed :=
      if type &&& discontinuityTime ≠ 0 then
        (extra.bind (·.resumeAtPTS)).map fun resumeAtPTS => pts.convertPTSToTimestamp base (BitVec.ofInt 64 resumeAtPTS)
      else none
    ({ s with
        mExpectedContinuityCounter := none
        mPayloadStarted := false
        mEOSReached := false
        mBuffer := s.mBuffer.clear
        mQueue := some (queue.clear (s.clearsFormat type))
        mSource := s.mSource.map (·.queueDiscontinuity type true) },
      resumed.elim pts (·.2),
      resumed.elim extra fun resumed => extra.map fun extra => { extra with resumeAtMediaTimeUs := some resumed.1 })

def signalEOS (s : Stream φ) (pts : PtsState) (finalResult : Int) : Option (Stream φ × PtsState) := do
  let mSource ← match s.mSource with
    | none => some none
    | some source => (source.signalEOS finalResult).toOption.map some
  let (_, c) ← flush fw base { stream := { s with mSource, mEOSReached := true }, pts, event := none }
  return (c.stream, c.pts)

end Stream

/-! ### Programs -/

structure Program (φ : Type) where
  mProgramNumber : Nat
  mProgramMapPID : Nat
  mStreams : KeyedVector Nat (Stream φ)
  pts : PtsState

structure StreamInfo where
  mType : Nat
  mPID : Nat
  mFormatId : Option Nat
  deriving DecidableEq, Repr

namespace Program
variable (fw : TsFramework σ φ) (base : TimeBase)

def new (programNumber programMapPID : Nat) (lastRecoveredPTS : BitVec 64) : Program φ where
  mProgramNumber := programNumber
  mProgramMapPID := programMapPID
  mStreams := .empty
  pts := { mFirstPTSValid := false, mFirstPTS := 0#64, mLastRecoveredPTS := lastRecoveredPTS }

/-- The payload of a transport stream packet goes to the stream with its PID; `none` where there is no such stream. -/
def parsePID (p : Program φ) (pid continuityCounter : Nat) (payloadUnitStart : Bool) (br : ABitReader σ)
    (event : Option SyncEvent) : Option (Option (Status × Option SyncEvent) × Program φ) :=
  match p.mStreams.get? pid with
  | none => some (none, p)
  | some stream =>
    (Stream.parse fw base { stream, pts := p.pts, event } continuityCounter payloadUnitStart br).map fun result =>
      (some (result.1, result.2.event), { p with mStreams := p.mStreams.add pid result.2.stream, pts := result.2.pts })

def signalDiscontinuity (p : Program φ) (type : Nat) (extra : Option Extra) : Option (Program φ × Option Extra) :=
  let pts :=
    if type &&& discontinuityTime ≠ 0 ∧ (extra.bind (·.mediaTimeUs)).isSome then { p.pts with mFirstPTSValid := false }
    else p.pts
  (p.mStreams.mapAccum
    (fun (pts, extra) stream =>
      let (stream, pts, extra) := stream.signalDiscontinuity base pts type extra
      some (stream, pts, extra))
    (pts, extra)).map fun (mStreams, pts, extra) => ({ p with mStreams, pts }, extra)

def signalEOS (p : Program φ) (finalResult : Int) : Option (Program φ) :=
  (p.mStreams.mapAccum (fun pts stream => Stream.signalEOS fw base stream pts finalResult) p.pts).map
    fun (mStreams, pts) => { p with mStreams, pts }

/-- The PIDs of each type, in their order. -/
def type2PIDs (streams : List (Nat × Nat)) : KeyedVector Nat (List Nat) :=
  streams.foldl (fun m (type, pid) => m.add type ((m.get? type).getD [] ++ [pid])) .empty

/-- Each stream gets the next PID of its type; `false` where there is none. -/
def reassign : List (Stream φ) → KeyedVector Nat (List Nat) → KeyedVector Nat (Stream φ) → Bool × KeyedVector Nat (Stream φ)
  | [], _, streams => (true, streams)
  | stream :: rest, newPIDs, streams =>
    match newPIDs.get? stream.mStreamType with
    | none => (false, streams)
    | some [] => (false, streams)
    | some (pid :: pids) =>
      reassign rest (newPIDs.add stream.mStreamType pids) (streams.add pid { stream with mElementaryPID := pid })

def switchPIDs (streams : KeyedVector Nat (Stream φ)) (infos : List StreamInfo) : Bool × KeyedVector Nat (Stream φ) :=
  if streams.size = infos.length then
    let oldType2PIDs := type2PIDs (streams.values.map fun s => (s.mStreamType, s.mElementaryPID))
    let newType2PIDs := type2PIDs (infos.map fun info => (info.mType, info.mPID))
    if oldType2PIDs.size = newType2PIDs.size ∧
        (oldType2PIDs.items.zip newType2PIDs.items).all fun (o, n) => o.1 = n.1 ∧ o.2.length = n.2.length then
      reassign streams.values newType2PIDs .empty
    else (false, streams)
  else (false, streams)

section ProgramMap
open HeaderReader
variable (r : BitReader σ)

/-- The reader gives up. -/
def giveUp {α : Type} : HeaderReader σ α := ExceptT.lift (fun _ => none : StateT σ Option α)

/-- `a - b` for numbers of `w` bits. -/
def subWrap (w a b : Nat) : Nat := (a + (2 ^ w - b % 2 ^ w)) % 2 ^ w

/-- The format identifier of the descriptors of a stream: there are `temp` bytes of them. -/
def descriptors (streamType : Nat) : Nat → Nat → Option Nat → HeaderReader σ (Option Nat)
  | 0, _, _ => giveUp
  | fuel + 1, temp, formatIdentifier =>
    if temp < 2 then return formatIdentifier
    else do
      let tag ← getBits r 8
      let descLength ← getBits r 8
      require (descLength ≤ temp)
      let temp := subWrap 32 temp (descLength + 2)
      if tag = 0x05 ∧ streamType = streamtypePrivate then do
        let formatIdentifier ← getBits r 32
        if descLength > 6 then skipBits r ((descLength - 6) * 8)
        descriptors streamType fuel temp (some formatIdentifier)
      else do
        skipBits r (descLength * 8)
        descriptors streamType fuel temp formatIdentifier

/-- The streams of a program map. -/
def streamInfos : Nat → Nat → HeaderReader σ (List StreamInfo)
  | 0, _ => giveUp
  | fuel + 1, infoBytesRemaining =>
    if infoBytesRemaining < 5 then return []
    else do
      let streamType ← getBits r 8
      let _reserved ← getBits r 3
      let elementaryPID ← getBits r 13
      let _reserved ← getBits r 4
      let esInfoLength ← getBits r 12
      let formatIdentifier ← descriptors r streamType (esInfoLength + 1) esInfoLength none
      let infos ← streamInfos fuel (subWrap 64 infoBytesRemaining (5 + esInfoLength))
      return { mType := streamType, mPID := elementaryPID, mFormatId := formatIdentifier } :: infos

/-- What is read of a program map: the PID of the clock, and the streams. -/
def programMap (fuel : Nat) : HeaderReader σ (Nat × List StreamInfo) := do
  require ((← getBits r 8) == 0x02)
  require ((← getBits r 1) == 1)
  skipBits r 1
  let _reserved ← getBits r 2
  let sectionLength ← getBits r 12
  let _programNumber ← getBits r 16
  let _reserved ← getBits r 2
  let _versionNumber ← getBits r 5
  let _currentNextIndicator ← getBits r 1
  let _sectionNumber ← getBits r 8
  let _lastSectionNumber ← getBits r 8
  let _reserved ← getBits r 3
  let pcrPID ← getBits r 13
  let _reserved ← getBits r 4
  let programInfoLength ← getBits r 12
  skipBits r (programInfoLength * 8)
  let infos ← streamInfos r fuel (subWrap 32 (subWrap 32 sectionLength 9) (programInfoLength + 4))
  let _crc ← getBits r 32
  return (pcrPID, infos)

end ProgramMap

/-- Streams are made for PIDs that have none. -/
def addStreams (parserFlags pcrPID : Nat) (streams : KeyedVector Nat (Stream φ)) (infos : List StreamInfo) :
    KeyedVector Nat (Stream φ) :=
  infos.foldl
    (fun streams info =>
      if (streams.get? info.mPID).isSome then streams
      else streams.add info.mPID (.new parserFlags info.mPID info.mType pcrPID info.mFormatId))
    streams

def parseProgramMap (p : Program φ) (br : ABitReader σ) : Option (Status × Program φ) :=
  match br.read (programMap fw.reader (br.bytes.length + 1)) with
  | none => none
  | some (.error _, _) => some (.malformed, p)
  | some (.ok (pcrPID, infos), _) =>
    let pidsChanged := infos.any fun info => (p.mStreams.get? info.mPID).any fun stream => stream.mStreamType ≠ info.mType
    if pidsChanged then
      let (success, mStreams) := switchPIDs p.mStreams infos
      if !success then some (.malformed, { p with mStreams })
      else some (.ok, { p with mStreams := addStreams base.mFlags pcrPID mStreams infos })
    else some (.ok, { p with mStreams := addStreams base.mFlags pcrPID p.mStreams infos })

/-- A section of the program map PID is a program map; `none` where it is not. -/
def parsePSISection (p : Program φ) (pid : Nat) (br : ABitReader σ) : Option (Option Status × Program φ) :=
  if pid ≠ p.mProgramMapPID then some (none, p)
  else (parseProgramMap fw base p br).map fun result => (some result.1, result.2)

end Program

/-! ### Sections -/

/-- `CRC_TABLE` -/
def crcTable : List (BitVec 32) :=
  [0x00000000, 0x04c11db7, 0x09823b6e, 0x0d4326d9, 0x130476dc, 0x17c56b6b, 0x1a864db2, 0x1e475005,
    0x2608edb8, 0x22c9f00f, 0x2f8ad6d6, 0x2b4bcb61, 0x350c9b64, 0x31cd86d3, 0x3c8ea00a, 0x384fbdbd,
    0x4c11db70, 0x48d0c6c7, 0x4593e01e, 0x4152fda9, 0x5f15adac, 0x5bd4b01b, 0x569796c2, 0x52568b75,
    0x6a1936c8, 0x6ed82b7f, 0x639b0da6, 0x675a1011, 0x791d4014, 0x7ddc5da3, 0x709f7b7a, 0x745e66cd,
    0x9823b6e0, 0x9ce2ab57, 0x91a18d8e, 0x95609039, 0x8b27c03c, 0x8fe6dd8b, 0x82a5fb52, 0x8664e6e5,
    0xbe2b5b58, 0xbaea46ef, 0xb7a96036, 0xb3687d81, 0xad2f2d84, 0xa9ee3033, 0xa4ad16ea, 0xa06c0b5d,
    0xd4326d90, 0xd0f37027, 0xddb056fe, 0xd9714b49, 0xc7361b4c, 0xc3f706fb, 0xceb42022, 0xca753d95,
    0xf23a8028, 0xf6fb9d9f, 0xfbb8bb46, 0xff79a6f1, 0xe13ef6f4, 0xe5ffeb43, 0xe8bccd9a, 0xec7dd02d,
    0x34867077, 0x30476dc0, 0x3d044b19, 0x39c556ae, 0x278206ab, 0x23431b1c, 0x2e003dc5, 0x2ac12072,
    0x128e9dcf, 0x164f8078, 0x1b0ca6a1, 0x1fcdbb16, 0x018aeb13, 0x054bf6a4, 0x0808d07d, 0x0cc9cdca,
    0x7897ab07, 0x7c56b6b0, 0x71159069, 0x75d48dde, 0x6b93dddb, 0x6f52c06c, 0x6211e6b5, 0x66d0fb02,
    0x5e9f46bf, 0x5a5e5b08, 0x571d7dd1, 0x53dc6066, 0x4d9b3063, 0x495a2dd4, 0x44190b0d, 0x40d816ba,
    0xaca5c697, 0xa864db20, 0xa527fdf9, 0xa1e6e04e, 0xbfa1b04b, 0xbb60adfc, 0xb6238b25, 0xb2e29692,
    0x8aad2b2f, 0x8e6c3698, 0x832f1041, 0x87ee0df6, 0x99a95df3, 0x9d684044, 0x902b669d, 0x94ea7b2a,
    0xe0b41de7, 0xe4750050, 0xe9362689, 0xedf73b3e, 0xf3b06b3b, 0xf771768c, 0xfa325055, 0xfef34de2,
    0xc6bcf05f, 0xc27dede8, 0xcf3ecb31, 0xcbffd686, 0xd5b88683, 0xd1799b34, 0xdc3abded, 0xd8fba05a,
    0x690ce0ee, 0x6dcdfd59, 0x608edb80, 0x644fc637, 0x7a089632, 0x7ec98b85, 0x738aad5c, 0x774bb0eb,
    0x4f040d56, 0x4bc510e1, 0x46863638, 0x42472b8f, 0x5c007b8a, 0x58c1663d, 0x558240e4, 0x51435d53,
    0x251d3b9e, 0x21dc2629, 0x2c9f00f0, 0x285e1d47, 0x36194d42, 0x32d850f5, 0x3f9b762c, 0x3b5a6b9b,
    0x0315d626, 0x07d4cb91, 0x0a97ed48, 0x0e56f0ff, 0x1011a0fa, 0x14d0bd4d, 0x19939b94, 0x1d528623,
    0xf12f560e, 0xf5ee4bb9, 0xf8ad6d60, 0xfc6c70d7, 0xe22b20d2, 0xe6ea3d65, 0xeba91bbc, 0xef68060b,
    0xd727bbb6, 0xd3e6a601, 0xdea580d8, 0xda649d6f, 0xc423cd6a, 0xc0e2d0dd, 0xcda1f604, 0xc960ebb3,
    0xbd3e8d7e, 0xb9ff90c9, 0xb4bcb610, 0xb07daba7, 0xae3afba2, 0xaafbe615, 0xa7b8c0cc, 0xa379dd7b,
    0x9b3660c6, 0x9ff77d71, 0x92b45ba8, 0x9675461f, 0x8832161a, 0x8cf30bad, 0x81b02d74, 0x857130c3,
    0x5d8a9099, 0x594b8d2e, 0x5408abf7, 0x50c9b640, 0x4e8ee645, 0x4a4ffbf2, 0x470cdd2b, 0x43cdc09c,
    0x7b827d21, 0x7f436096, 0x7200464f, 0x76c15bf8, 0x68860bfd, 0x6c47164a, 0x61043093, 0x65c52d24,
    0x119b4be9, 0x155a565e, 0x18197087, 0x1cd86d30, 0x029f3d35, 0x065e2082, 0x0b1d065b, 0x0fdc1bec,
    0x3793a651, 0x3352bbe6, 0x3e119d3f, 0x3ad08088, 0x2497d08d, 0x2056cd3a, 0x2d15ebe3, 0x29d4f654,
    0xc5a92679, 0xc1683bce, 0xcc2b1d17, 0xc8ea00a0, 0xd6ad50a5, 0xd26c4d12, 0xdf2f6bcb, 0xdbee767c,
    0xe3a1cbc1, 0xe760d676, 0xea23f0af, 0xeee2ed18, 0xf0a5bd1d, 0xf464a0aa, 0xf9278673, 0xfde69bc4,
    0x89b8fd09, 0x8d79e0be, 0x803ac667, 0x84fbdbd0, 0x9abc8bd5, 0x9e7d9662, 0x933eb0bb, 0x97ffad0c,
    0xafb010b1, 0xab710d06, 0xa6322bdf, 0xa2f33668, 0xbcb4666d, 0xb8757bda, 0xb5365d03, 0xb1f740b4]

/-- A section as it is collected; there is no buffer before the first packet. -/
structure PSISection where
  mBuffer : Option ABuffer
  mSkipBytes : Nat

namespace PSISection

def new : PSISection := { mBuffer := none, mSkipBytes := 0 }

def data (s : PSISection) : List UInt8 := s.mBuffer.elim [] (·.data)

def size (s : PSISection) : Nat := s.data.length

def isEmpty (s : PSISection) : Bool := s.size = 0

/-- The capacity that a new buffer gets. -/
def newCapacity (s : PSISection) (size : Nat) : Nat :=
  ABuffer.roundUp 1024 (s.mBuffer.elim size fun buffer => buffer.capacity + size)

theorem le_newCapacity (s : PSISection) (size : Nat) : (s.mBuffer.getD noBuffer).size + size ≤ s.newCapacity size := by
  refine Nat.le_trans ?_ (ABuffer.le_roundUp (by decide) _)
  cases h : s.mBuffer with
  | none => exact Nat.le_of_eq (Nat.zero_add size)
  | some buffer => exact Nat.add_le_add_right buffer.length_le size

def append (s : PSISection) (data : List UInt8) : PSISection :=
  { s with mBuffer := some ((s.mBuffer.getD noBuffer).append data (s.newCapacity data.length) (s.le_newCapacity _)) }

/-- The number is kept in 8 bits. -/
def setSkipBytes (s : PSISection) (skip : Nat) : PSISection := { s with mSkipBytes := skip % 256 }

def clear (s : PSISection) : PSISection := { mBuffer := s.mBuffer.map (·.clear), mSkipBytes := 0 }

/-- `U16_AT(data + 1) & 0xfff` -/
def sectionLength (s : PSISection) : Nat := (byte s.data 1 * 256 + byte s.data 2) &&& 0xfff

def isComplete (s : PSISection) : Bool := 3 ≤ s.size ∧ s.sectionLength + 3 ≤ s.size

/-- The number of bytes that the CRC is of. -/
def crcLength (s : PSISection) : Nat := Program.subWrap 32 (s.sectionLength + 4) s.mSkipBytes

/-- `none` where bytes behind the section are read that are not there. -/
def isCRCOkay (s : PSISection) : Option Bool :=
  if !s.isComplete then some false
  else if byte s.data 1 &&& 0x80 = 0 then some true
  else if s.size < s.crcLength then none
  else some (crcUpdateMsb crcTable 0xffffffff#32 (s.data.take s.crcLength) = 0#32)

end PSISection

/-! ### The parser -/

structure ATSParser (φ : Type) where
  kTSPacketSize : Nat
  base : TimeBase
  mPrograms : List (Program φ)
  mPSISections : KeyedVector Nat PSISection
  mLastRecoveredPTS : BitVec 64
  mNumTSPacketsParsed : Nat

section Tables
open HeaderReader
variable (r : BitReader σ)

/-- The programs of a program association table: their numbers, and the PIDs of their maps. -/
def associations : Nat → HeaderReader σ (List (Nat × Nat))
  | 0 => return []
  | n + 1 => do
    let programNumber ← getBits r 16
    let _reserved ← getBits r 3
    let programMapPID ← getBits r 13
    let rest ← associations n
    return if programNumber = 0 then rest else (programNumber, programMapPID) :: rest

/-- What is read of a program association table. -/
def programAssociationTable : HeaderReader σ (List (Nat × Nat)) := do
  require ((← getBits r 8) == 0x00)
  let _sectionSyntaxIndicator ← getBits r 1
  skipBits r 1
  let _reserved ← getBits r 2
  let sectionLength ← getBits r 12
  let _transportStreamId ← getBits r 16
  let _reserved ← getBits r 2
  let _versionNumber ← getBits r 5
  let _currentNextIndicator ← getBits r 1
  let _sectionNumber ← getBits r 8
  let _lastSectionNumber ← getBits r 8
  let programs ← associations r (Program.subWrap 32 sectionLength 9 / 4)
  let _crc ← getBits r 32
  return programs

/-- An adaptation field is skipped. -/
def adaptationField : HeaderReader σ Unit := do
  let adaptationFieldLength ← getBits r 8
  if 0 < adaptationFieldLength then do
    require (adaptationFieldLength * 8 ≤ (← numBitsLeft r))
    let _discontinuityIndicator ← getBits r 1
    skipBits r 2
    let pcrFlag ← getBits r 1
    if pcrFlag ≠ 0 then do
      require (52 ≤ adaptationFieldLength * 8)
      skipBits r 4
      let _pcrBase ← getBits r 32
      let _pcrBase ← getBits r 1
      skipBits r 6
      let _pcrExt ← getBits r 9
      skipBits r (adaptationFieldLength * 8 - 56)
    else skipBits r (adaptationFieldLength * 8 - 4)

/-- The header of a transport stream packet. -/
structure TsHeader where
  payloadUnitStart : Bool
  pid : Nat
  adaptationFieldControl : Nat
  continuityCounter : Nat
  deriving DecidableEq, Repr

/-- The sync byte, at the beginning or behind four bytes; it returns whether it is there. -/
def syncByte : HeaderReader σ Bool := do
  if (← getBits r 8) = 0x47 then return false
  else do
    let _ ← getBits r 24
    require ((← getBits r 8) == 0x47)
    return true

/-- A packet with an error is not read any further. -/
def tsHeader : HeaderReader σ (Option TsHeader) := do
  if (← getBits r 1) ≠ 0 then return none
  else do
    let payloadUnitStart ← getBits r 1
    let _transportPriority ← getBits r 1
    let pid ← getBits r 13
    let _scramblingControl ← getBits r 2
    let adaptationFieldControl ← getBits r 2
    let continuityCounter ← getBits r 4
    return some { payloadUnitStart := payloadUnitStart ≠ 0, pid, adaptationFieldControl, continuityCounter }

end Tables

/-- The first program that takes something, and the programs after that. -/
def firstProgram {α : Type} (take : Program φ → Option (Option α × Program φ)) :
    List (Program φ) → Option (Option α × List (Program φ))
  | [] => some (none, [])
  | program :: programs =>
    match take program with
    | none => none
    | some (some a, program) => some (some a, program :: programs)
    | some (none, program) => (firstProgram take programs).map fun rest => (rest.1, program :: rest.2)

namespace ATSParser
variable (fw : TsFramework σ φ)

def new (flags : Nat) : ATSParser φ where
  kTSPacketSize := 188
  base := { mFlags := flags }
  mPrograms := []
  mPSISections := KeyedVector.empty.add 0 .new
  mLastRecoveredPTS := -1#64
  mNumTSPacketsParsed := 0

/-- The first program with a number gets a new PID for its map. -/
def updateProgramMapPID (programNumber programMapPID : Nat) : List (Program φ) → Option (List (Program φ))
  | [] => none
  | program :: programs =>
    if program.mProgramNumber = programNumber then some ({ program with mProgramMapPID := programMapPID } :: programs)
    else (updateProgramMapPID programNumber programMapPID programs).map (program :: ·)

def associate (p : ATSParser φ) (association : Nat × Nat) : ATSParser φ :=
  { p with
    mPrograms := (updateProgramMapPID association.1 association.2 p.mPrograms).getD
      (p.mPrograms ++ [.new association.1 association.2 p.mLastRecoveredPTS])
    mPSISections :=
      if (p.mPSISections.get? association.2).isSome then p.mPSISections else p.mPSISections.add association.2 .new }

def parseProgramAssociationTable (p : ATSParser φ) (br : ABitReader σ) : Option (ATSParser φ) :=
  match br.read (programAssociationTable fw.reader) with
  | none => none
  | some (.error _, _) => some p
  | some (.ok programs, _) => some (programs.foldl associate p)

def setSection (p : ATSParser φ) (pid : Nat) (psi : PSISection) : ATSParser φ :=
  { p with mPSISections := p.mPSISections.add pid psi }

/-- A section is there, and its CRC was checked. -/
def parseSection (p : ATSParser φ) (pid : Nat) (psi : PSISection) : Option (Status × ATSParser φ) :=
  let sectionBits := ABitReader.new fw.reader psi.data
  if pid = 0 then
    (parseProgramAssociationTable fw p sectionBits).map fun p => (.ok, p.setSection pid psi.clear)
  else
    match firstProgram (fun program => program.parsePSISection fw p.base pid sectionBits) p.mPrograms with
    | none => none
    | some (none, mPrograms) => some (.ok, { p with mPrograms, mPSISections := p.mPSISections.removeItem pid })
    | some (some .ok, mPrograms) => some (.ok, { p with mPrograms }.setSection pid psi.clear)
    | some (some err, mPrograms) => some (err, { p with mPrograms })

/-- The first packet of a section has a pointer to it. -/
def startSection (psi : PSISection) (br : ABitReader σ) : Option (PSISection × ABitReader σ) :=
  let psi := if psi.isEmpty then psi else psi.clear
  let pointer : HeaderReader σ Nat := do
    let skip ← HeaderReader.getBits fw.reader 8
    HeaderReader.skipBits fw.reader (skip * 8)
    return skip
  match br.read pointer with
  | some (.ok skip, br) => some (psi.setSkipBytes (skip + 1), br)
  | _ => none

def collectSection (p : ATSParser φ) (pid : Nat) (psi : PSISection) (payloadUnitStart : Bool) (br : ABitReader σ) :
    Option (Status × ATSParser φ) := do
  let (psi, br) ← if payloadUnitStart then startSection fw psi br else some (psi, br)
  if br.numBitsLeft fw.reader % 8 ≠ 0 then some (.malformed, p.setSection pid psi)
  else
    let psi := psi.append ((br.data fw.reader).take (br.numBitsLeft fw.reader / 8))
    let p := p.setSection pid psi
    if !psi.isComplete then some (.ok, p)
    else
      let okay ← psi.isCRCOkay
      if !okay then some (.badValue, p) else parseSection fw p pid psi

def parsePID (p : ATSParser φ) (header : TsHeader) (br : ABitReader σ) (event : Option SyncEvent) :
    Option (Status × ATSParser φ × Option SyncEvent) :=
  match p.mPSISections.get? header.pid with
  | some psi => (collectSection fw p header.pid psi header.payloadUnitStart br).map fun result => (result.1, result.2, event)
  | none =>
    (firstProgram
      (fun program => program.parsePID fw p.base header.pid header.continuityCounter header.payloadUnitStart br event)
      p.mPrograms).map fun (result, mPrograms) =>
        (result.elim .ok (·.1), { p with mPrograms }, result.elim event (·.2))

def parseTS (p : ATSParser φ) (br : ABitReader σ) (event : Option SyncEvent) :
    Option (Status × ATSParser φ × Option SyncEvent) :=
  match br.read (syncByte fw.reader) with
  | none => none
  | some (.error _, _) => some (.badValue, p, event)
  | some (.ok behind, br) =>
    let p := if behind then { p with kTSPacketSize := 192 } else p
    match br.read (tsHeader fw.reader) with
    | some (.ok none, _) => some (.ok, p, event)
    | some (.ok (some header), br) => do
      let control := header.adaptationFieldControl
      let (adaptation, br) ←
        if control = 2 ∨ control = 3 then br.read (adaptationField fw.reader) else some (.ok (), br)
      let (err, p, event) ←
        match adaptation with
        | .error _ => some (.malformed, p, event)
        | .ok _ => if control = 1 ∨ control = 3 then parsePID fw p header br event else some (.ok, p, event)
      return (err, { p with mNumTSPacketsParsed := p.mNumTSPacketsParsed + 1 }, event)
    | _ => none

def feedTSPacket (p : ATSParser φ) (data : List UInt8) (event : Option SyncEvent) :
    Option (Status × ATSParser φ × Option SyncEvent) :=
  let p := if data.length = 192 ∨ data.length = 188 then { p with kTSPacketSize := data.length } else p
  if data.length ≠ p.kTSPacketSize then some (.badValue, p, event) else parseTS fw p (.new fw.reader data) event

/-- `mLastRecoveredPTS` from a time, without the anchor and the offset. -/
def lastRecoveredPTS (base : TimeBase) (recentMediaTimeUs : Int) : BitVec 64 :=
  let mediaTimeUs :=
    if 0 ≤ base.mAbsoluteTimeAnchorUs then recentMediaTimeUs - base.mAbsoluteTimeAnchorUs else recentMediaTimeUs
  let mediaTimeUs := if base.mTimeOffsetValid then mediaTimeUs - base.mTimeOffsetUs else mediaTimeUs
  BitVec.ofInt 64 ((mediaTimeUs * 9).tdiv 100)

/-- What a discontinuity in time changes of the parser. -/
def resume (p : ATSParser φ) (extra : Extra) : ATSParser φ :=
  let base := { p.base with mAbsoluteTimeAnchorUs := extra.mediaTimeUs.getD p.base.mAbsoluteTimeAnchorUs }
  { p with
    base
    mLastRecoveredPTS :=
      if base.mFlags &&& tsTimestampsAreAbsolute ≠ 0 then extra.recentMediaTimeUs.elim p.mLastRecoveredPTS (lastRecoveredPTS base)
      else p.mLastRecoveredPTS }

/-- Every program gets the signal, one after the other. -/
def signalPrograms (base : TimeBase) (type : Nat) (extra : Option Extra) :
    List (Program φ) → Option (List (Program φ) × Option Extra)
  | [] => some ([], extra)
  | program :: programs => do
    let (program, extra) ← program.signalDiscontinuity base type extra
    let (programs, extra) ← signalPrograms base type extra programs
    return (program :: programs, extra)

/-- The signal is for the streams. -/
def forwardDiscontinuity (p : ATSParser φ) (type : Nat) (extra : Option Extra) : Option (ATSParser φ × Option Extra) :=
  (signalPrograms p.base type extra p.mPrograms).map fun (mPrograms, extra) => ({ p with mPrograms }, extra)

/-- `none` where there is no message, and one is needed. -/
def signalDiscontinuity (p : ATSParser φ) (type : Nat) (extra : Option Extra) : Option (ATSParser φ × Option Extra) :=
  if type &&& discontinuityTime ≠ 0 ∧ extra.isSome then
    forwardDiscontinuity (extra.elim p p.resume) type extra
  else if type = discontinuityAbsoluteTime then
    extra.map fun message =>
      match message.timeUs with
      | none => (p, extra)
      | some timeUs =>
        if p.mPrograms.isEmpty then ({ p with base := { p.base with mAbsoluteTimeAnchorUs := timeUs } }, extra) else (p, extra)
  else if type = discontinuityTimeOffset then
    extra.map fun message =>
      match message.offset with
      | none => (p, extra)
      | some offset => ({ p with base := { p.base with mTimeOffsetValid := true, mTimeOffsetUs := offset } }, extra)
  else forwardDiscontinuity p type extra

def signalEOS (p : ATSParser φ) (finalResult : Int) : Option (ATSParser φ) :=
  if finalResult = 0 then some p
  else
    (p.mPrograms.mapM fun program : Program φ => program.signalEOS fw p.base finalResult).map fun mPrograms =>
      { p with mPrograms }

end ATSParser

end BcmPlatform.Ts
