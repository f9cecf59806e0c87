import BcmPlatform.Ts.Queues

/-! `AnotherPacketSource`: the queue between a stream and its player, of access units and discontinuities. -/

namespace BcmPlatform.Ts

/-! ### Buffers -/

/-- What the meta of a buffer has. `μ` are the meta data of a format. -/
structure Message (μ : Type) where
  discontinuity : Option Nat := none
  discontinuitySeq : Option Int := none
  timeUs : Option Int := none
  durationUs : Option Int := none
  isSync : Option Int := none
  sei : Option (List NalPosition) := none
  damaged : Option Int := none
  format : Option (Option μ) := none
  deriving DecidableEq, Repr

/-- A buffer with its meta. -/
structure Packet (μ : Type) where
  data : List UInt8
  message : Message μ
  deriving DecidableEq, Repr

/-- A buffer for a player, with what was set of its meta data. -/
structure MediaBuffer where
  data : List UInt8
  time : Int
  isSyncFrame : Option Int
  sei : Option (List NalPosition)
  deriving DecidableEq, Repr

def discontinuityNone : Nat := 0
def discontinuityTime : Nat := 1
def discontinuityAudioFormat : Nat := 2
def discontinuityVideoFormat : Nat := 4
def discontinuityAbsoluteTime : Nat := 8
def discontinuityTimeOffset : Nat := 16

/-- What the source calls that is part of the framework; `before` compares the `HLSTime` of two metas. -/
structure SourceFramework (μ : Type) where
  mimeType : μ → Option String
  isIdr : List UInt8 → Bool
  before : Message μ → Message μ → Bool

/-- `!strncasecmp(start, mime, strlen(start))` -/
def startsWithIgnoringCase (start mime : String) : Bool :=
  (start.toList.map Char.toLower).isPrefixOf (mime.toList.map Char.toLower)

/-- `!strcasecmp(s, mime)` -/
def equalsIgnoringCase (s mime : String) : Bool := s.toList.map Char.toLower == mime.toList.map Char.toLower

structure DiscontinuitySegment where
  mMaxDequeTimeUs : Int
  mMaxEnqueTimeUs : Int
  deriving DecidableEq, Repr

namespace DiscontinuitySegment

def new : DiscontinuitySegment := { mMaxDequeTimeUs := -1, mMaxEnqueTimeUs := -1 }

def clear (seg : DiscontinuitySegment) : DiscontinuitySegment := { seg with mMaxDequeTimeUs := -1, mMaxEnqueTimeUs := -1 }

def enqueue (seg : DiscontinuitySegment) (timeUs : Int) : DiscontinuitySegment where
  mMaxEnqueTimeUs := if timeUs > seg.mMaxEnqueTimeUs then timeUs else seg.mMaxEnqueTimeUs
  mMaxDequeTimeUs := if seg.mMaxDequeTimeUs = -1 then timeUs else seg.mMaxDequeTimeUs

def dequeue (seg : DiscontinuitySegment) (timeUs : Int) : DiscontinuitySegment :=
  { seg with mMaxDequeTimeUs := if timeUs > seg.mMaxDequeTimeUs then timeUs else seg.mMaxDequeTimeUs }

end DiscontinuitySegment

/-! ### The source -/

structure AnotherPacketSource (μ : Type) where
  mDiscontinuitySegments : List DiscontinuitySegment
  mIsAudio : Bool
  mIsVideo : Bool
  mEnabled : Bool
  mFormat : Option μ
  mLastQueuedTimeUs : Int
  mBuffers : List (Packet μ)
  mEOSResult : Int
  mLatestEnqueuedMeta : Option (Message μ)
  mLatestDequeuedMeta : Option (Message μ)
  deriving DecidableEq, Repr

/-- Why a call does not return: it waits for a buffer, a `CHECK` fails, or it takes a segment where there is none. -/
inductive Stop where
  | waits
  | check
  | noSegment
  deriving DecidableEq, Repr

/-- What a consumer gets: an access unit, a discontinuity, or the result at the end. -/
inductive Taken (β μ : Type) where
  | accessUnit (unit : β)
  | discontinuity (buffer : Packet μ)
  | ended (result : Int)
  deriving DecidableEq, Repr

variable {μ : Type}

/-- The buffer is a discontinuity. -/
def Packet.isDiscontinuity (b : Packet μ) : Bool := b.message.discontinuity.isSome

namespace AnotherPacketSource
variable (fw : SourceFramework μ) (s : AnotherPacketSource μ)

def setFormat (metaData : Option μ) : Except Stop (AnotherPacketSource μ) :=
  if s.mFormat.isSome then .ok s
  else
    match metaData with
    | none => .ok { s with mIsAudio := false, mIsVideo := false }
    | some metaData =>
      match fw.mimeType metaData with
      | none => .error .check
      | some mime =>
        let isAudio := startsWithIgnoringCase "audio/" mime
        let isVideo := !isAudio && startsWithIgnoringCase "video/" mime
        if isAudio || isVideo || startsWithIgnoringCase "text/" mime || startsWithIgnoringCase "application/" mime then
          .ok { s with mFormat := some metaData, mIsAudio := isAudio, mIsVideo := isVideo }
        else .error .check

/-- What the constructor sets before the format. -/
def initial : AnotherPacketSource μ :=
  { mDiscontinuitySegments := [DiscontinuitySegment.new], mIsAudio := false, mIsVideo := false, mEnabled := true,
    mFormat := none, mLastQueuedTimeUs := 0, mBuffers := [], mEOSResult := 0, mLatestEnqueuedMeta := none,
    mLatestDequeuedMeta := none }

/-- `new AnotherPacketSource(meta)` -/
def new (metaData : Option μ) : Except Stop (AnotherPacketSource μ) := initial.setFormat fw metaData

/-- The format, or that of the first access unit that has one. -/
def getFormat : Except Stop (Option μ × AnotherPacketSource μ) :=
  if s.mFormat.isSome then .ok (s.mFormat, s)
  else
    match s.mBuffers.findSome? fun b => if b.isDiscontinuity then none else b.message.format with
    | none => .ok (none, s)
    | some format => (s.setFormat fw format).map fun s => (s.mFormat, s)

def wasFormatChange (discontinuityType : Nat) : Bool :=
  if s.mIsAudio then discontinuityType &&& discontinuityAudioFormat ≠ 0
  else if s.mIsVideo then discontinuityType &&& discontinuityVideoFormat ≠ 0
  else false

/-- A discontinuity was taken from the queue. -/
def takeDiscontinuity (type : Nat) : Except Stop (AnotherPacketSource μ) :=
  match s.mDiscontinuitySegments with
  | [] => .error .noSegment
  | _ :: segments =>
    .ok { s with mFormat := if s.wasFormatChange type then none else s.mFormat, mDiscontinuitySegments := segments }

/-- An access unit was taken from the queue. -/
def noteDequeued (timeUs : Int) (message : Message μ) : Except Stop (AnotherPacketSource μ) :=
  match s.mDiscontinuitySegments with
  | [] => .error .noSegment
  | seg :: segments =>
    .ok { s with mDiscontinuitySegments := seg.dequeue timeUs :: segments, mLatestDequeuedMeta := some message }

/-- The format of an access unit that was taken. -/
def takeFormat (message : Message μ) : Except Stop (AnotherPacketSource μ) :=
  match message.format with
  | none => .ok s
  | some format => s.setFormat fw format

def dequeueAccessUnit : Except Stop (Taken (Packet μ) μ × AnotherPacketSource μ) :=
  match s.mBuffers with
  | [] => if s.mEOSResult = 0 then .error .waits else .ok (.ended s.mEOSResult, s)
  | buffer :: buffers =>
    let s := { s with mBuffers := buffers }
    match buffer.message.discontinuity with
    | some type => (s.takeDiscontinuity type).map (.discontinuity buffer, ·)
    | none =>
      match buffer.message.timeUs with
      | none => .error .check
      | some timeUs =>
        match s.noteDequeued timeUs buffer.message with
        | .error stop => .error stop
        | .ok s => (s.takeFormat fw buffer.message).map (.accessUnit buffer, ·)

def requeueAccessUnit (buffer : Packet μ) : AnotherPacketSource μ := { s with mBuffers := buffer :: s.mBuffers }

def read : Except Stop (Taken MediaBuffer μ × AnotherPacketSource μ) :=
  match s.mBuffers with
  | [] => if s.mEOSResult = 0 then .error .waits else .ok (.ended s.mEOSResult, s)
  | buffer :: buffers =>
    let s := { s with mBuffers := buffers }
    match buffer.message.discontinuity with
    | some type => (s.takeDiscontinuity type).map (.discontinuity buffer, ·)
    | none =>
      match s.takeFormat fw buffer.message with
      | .error stop => .error stop
      | .ok s =>
        match buffer.message.timeUs with
        | none => .error .check
        | some timeUs =>
          (s.noteDequeued timeUs buffer.message).map
            (.accessUnit
              { data := buffer.data, time := timeUs, isSyncFrame := buffer.message.isSync, sei := buffer.message.sei }, ·)

/-- `mLatestEnqueuedMeta` after an access unit with a time. -/
def latestEnqueued (timeUs : Int) (message : Message μ) : Option (Message μ) → Except Stop (Message μ)
  | none => .ok message
  | some latest =>
    match latest.timeUs with
    | none => .error .check
    | some latestTimeUs =>
      if timeUs > latestTimeUs then .ok { message with durationUs := some (timeUs - latestTimeUs) }
      else if latest.durationUs.isNone then .ok { latest with durationUs := some (latestTimeUs - timeUs) }
      else .ok latest

def queueAccessUnit (buffer : Packet μ) : Except Stop (AnotherPacketSource μ) :=
  if buffer.message.damaged.any (· ≠ 0) then .ok s
  else
    let s := { s with mBuffers := s.mBuffers ++ [buffer] }
    match buffer.message.discontinuity with
    | some _ =>
      .ok { s with
        mLastQueuedTimeUs := 0
        mEOSResult := 0
        mLatestEnqueuedMeta := none
        mDiscontinuitySegments := s.mDiscontinuitySegments ++ [DiscontinuitySegment.new] }
    | none =>
      match buffer.message.timeUs with
      | none => .error .check
      | some timeUs =>
        match s.mDiscontinuitySegments.getLast? with
        | none => .error .noSegment
        | some tailSeg =>
          (latestEnqueued timeUs buffer.message s.mLatestEnqueuedMeta).map fun latest =>
            { s with
              mLastQueuedTimeUs := timeUs
              mDiscontinuitySegments := s.mDiscontinuitySegments.dropLast ++ [tailSeg.enqueue timeUs]
              mLatestEnqueuedMeta := some latest }

def clear : AnotherPacketSource μ :=
  { s with
    mBuffers := []
    mEOSResult := 0
    mDiscontinuitySegments := [DiscontinuitySegment.new]
    mFormat := none
    mLatestEnqueuedMeta := none }

def queueDiscontinuity (type : Nat) (discard : Bool) : AnotherPacketSource μ :=
  let s : AnotherPacketSource μ :=
    if discard then
      { s with
        mBuffers := s.mBuffers.filter (·.isDiscontinuity)
        mDiscontinuitySegments := s.mDiscontinuitySegments.map (·.clear) }
    else s
  let s := { s with mEOSResult := 0, mLastQueuedTimeUs := 0, mLatestEnqueuedMeta := none }
  if type = discontinuityNone then s
  else
    { s with
      mDiscontinuitySegments := s.mDiscontinuitySegments ++ [DiscontinuitySegment.new]
      mBuffers := s.mBuffers ++ [{ data := [], message := { discontinuity := some type } }] }

def signalEOS (result : Int) : Except Stop (AnotherPacketSource μ) :=
  if result = 0 then .error .check else .ok { s with mEOSResult := result }

def enable (enabled : Bool) : AnotherPacketSource μ := { s with mEnabled := enabled }

/-- What `*finalResult` is where there is no buffer. -/
def finalResult : Int := if s.mEnabled then s.mEOSResult else 0

/-- Whether there is a buffer, and `*finalResult`. -/
def hasBufferAvailable : Bool × Int :=
  if s.mEnabled && !s.mBuffers.isEmpty then (true, 0) else (false, s.finalResult)

def hasDataBufferAvailable : Bool × Int :=
  if s.mEnabled && s.mBuffers.any (!·.isDiscontinuity) then (true, 0) else (false, s.finalResult)

def getAvailableBufferCount : Nat × Int :=
  if s.mEnabled && !s.mBuffers.isEmpty then (s.mBuffers.length, 0) else (0, s.finalResult)

def getBufferedDurationUs : Int :=
  (s.mDiscontinuitySegments.map fun seg => seg.mMaxEnqueTimeUs - seg.mMaxDequeTimeUs).sum

def kNearEOSMarkUs : Int := 2000000

def isFinished (duration : Int) : Bool :=
  let diff := duration - s.mLastQueuedTimeUs
  if 0 < duration ∧ diff < kNearEOSMarkUs ∧ -kNearEOSMarkUs < diff then true else s.mEOSResult ≠ 0

/-- The loop over the buffers. -/
def metaAfter (delayUs : Int) : List (Packet μ) → Int → Int → Int → Option (Message μ)
  | [], _, _, _ => none
  | b :: buffers, firstUs, lastUs, durationUs =>
    if b.isDiscontinuity then metaAfter delayUs buffers (-1) (-1) (durationUs + (lastUs - firstUs))
    else
      match b.message.timeUs with
      | none => metaAfter delayUs buffers firstUs lastUs durationUs
      | some timeUs =>
        let firstUs := if firstUs < 0 then timeUs else firstUs
        let lastUs := if lastUs < 0 ∨ timeUs > lastUs then timeUs else lastUs
        if durationUs + (lastUs - firstUs) ≥ delayUs then some b.message
        else metaAfter delayUs buffers firstUs lastUs durationUs

def getMetaAfterLastDequeued (delayUs : Int) : Option (Message μ) := metaAfter delayUs s.mBuffers (-1) (-1) 0

/-! ### Trimming -/

/-- The buffers in front of the first access unit that is not before a time, the number of discontinuities there, and the meta
    of the last access unit there. -/
def buffersBefore (stopTime : Message μ) : List (Packet μ) → Option (Message μ) →
    List (Packet μ) × Nat × Option (Message μ)
  | [], latest => ([], 0, latest)
  | b :: buffers, latest =>
    if b.isDiscontinuity then
      let kept := buffersBefore stopTime buffers latest
      (b :: kept.1, kept.2.1 + 1, kept.2.2)
    else if !fw.before b.message stopTime then ([], 0, latest)
    else
      let kept := buffersBefore stopTime buffers (some b.message)
      (b :: kept.1, kept.2)

def trimBuffersAfterMeta : Option (Message μ) → Except Stop (AnotherPacketSource μ)
  | none => .ok s
  | some stopTime =>
    if s.mBuffers.isEmpty then .ok s
    else
      let kept := buffersBefore fw stopTime s.mBuffers none
      let newLastQueuedTimeUs := (kept.2.2.bind (·.timeUs)).getD 0
      match s.mDiscontinuitySegments.drop kept.2.1 with
      | [] => .error .noSegment
      | seg :: _ =>
        .ok { s with
          mBuffers := kept.1
          mLatestEnqueuedMeta := kept.2.2
          mLastQueuedTimeUs := newLastQueuedTimeUs
          mDiscontinuitySegments := s.mDiscontinuitySegments.take kept.2.1 ++
            [if kept.2.2.isSome then { seg with mMaxEnqueTimeUs := newLastQueuedTimeUs } else seg.clear] }

/-- `format != NULL && format->findCString(kKeyMIMEType, &mime) && !strcasecmp(mime, MEDIA_MIMETYPE_VIDEO_AVC)` -/
def isAvc (format : Option μ) : Bool := (format.bind fw.mimeType).any (equalsIgnoringCase "video/avc")

/-- The loop over the buffers: those from the first one on that is after a time, the segments that are left, and the meta of that
    buffer. -/
def buffersAfter (startTime : Message μ) : List (Packet μ) → List DiscontinuitySegment → Option μ →
    Except Stop (List (Packet μ) × List DiscontinuitySegment × Option (Message μ))
  | [], segments, _ => .ok ([], segments, none)
  | b :: buffers, segments, format =>
    if b.isDiscontinuity then
      match segments with
      | [] => .error .noSegment
      | _ :: segments => buffersAfter startTime buffers segments none
    else
      let format := if format.isNone then b.message.format.join else format
      if isAvc fw format && !fw.isIdr b.data then buffersAfter startTime buffers segments format
      else if fw.before startTime b.message then .ok (b :: buffers, segments, some b.message)
      else buffersAfter startTime buffers segments format

def trimBuffersBeforeMeta (startTime : Message μ) : Except Stop (Option (Message μ) × AnotherPacketSource μ) :=
  if s.mBuffers.isEmpty then .ok (none, s)
  else
    match buffersAfter fw startTime s.mBuffers s.mDiscontinuitySegments none with
    | .error stop => .error stop
    | .ok (_, [], _) => .error .noSegment
    | .ok (buffers, seg :: segments, firstMeta) =>
      let firstTimeUs := (firstMeta.bind (·.timeUs)).getD (-1)
      .ok (firstMeta,
        { s with
          mBuffers := buffers
          mLatestDequeuedMeta := none
          mDiscontinuitySegments :=
            (if 0 ≤ firstTimeUs then { seg with mMaxDequeTimeUs := firstTimeUs } else seg.clear) :: segments })

end AnotherPacketSource

end BcmPlatform.Ts
