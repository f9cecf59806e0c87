import Mathlib.Algebra.GroupWithZero.Nat
import Mathlib.Logic.Function.Basic
import BcmPlatform.Bomx.Port
import BcmPlatform.Bomx.Tracker

/-! The output side of `BOMX_VideoEncoder`: `OutputBufferProcess` cuts the descriptors of the encoder into frames, and
    returns each of them in a buffer of the client. -/

namespace BcmPlatform.Bomx

/-- The fields of `NEXUS_VideoEncoderDescriptor` that the encoder reads, with the bytes at its offset. -/
structure EncoderDescriptor where
  frameStart : Bool := false
  eos : Bool := false
  originalPtsValid : Bool := false
  ptsValid : Bool := false
  rap : Bool := false
  originalPts : Nat := 0
  pts : Nat := 0
  dataUnitType : Nat := 0
  data : List UInt8 := []
  deriving DecidableEq, Repr

namespace EncoderDescriptor

def length (d : EncoderDescriptor) : Nat := d.data.length

def isStartOfUnit (d : EncoderDescriptor) : Bool := d.frameStart || d.eos

/-- `GET_NAL_UNIT_TYPE` -/
def nalUnitType (d : EncoderDescriptor) : Nat := d.dataUnitType % 32

end EncoderDescriptor

def nalUnitTypeSps : Nat := 7

def nalUnitTypePps : Nat := 8

/-- `OMX_BUFFERFLAG_SYNCFRAME` -/
def syncFrameFlag : Nat := 0x20

/-- `BOMX_NexusEncodedVideoFrame`; the defaults are those of `BOMX_VIDEO_ENCODER_INIT_ENC_FR`. -/
structure EncodedFrame where
  frameData : List EncoderDescriptor := []
  combinedSz : Nat := 0
  usTimeStampOriginal : Nat := 0
  usTimeStampIntepolated : Nat := 0
  clientFlags : BufferFlags := {}
  deriving DecidableEq, Repr

namespace EncodedFrame

/-- The loop that adds a descriptor to a frame. -/
def addDescriptor (f : EncodedFrame) (d : EncoderDescriptor) : EncodedFrame :=
  { combinedSz := f.combinedSz + d.length
    frameData := f.frameData ++ [d]
    usTimeStampOriginal := if d.originalPtsValid then d.originalPts else f.usTimeStampOriginal
    usTimeStampIntepolated := if d.ptsValid then d.pts else f.usTimeStampIntepolated
    clientFlags := if d.rap then { f.clientFlags with rest := f.clientFlags.rest ||| syncFrameFlag } else f.clientFlags }

/-- A frame of `RetrieveFrameFromHardware`: its descriptors, and `m_bEosReceived`. -/
def ofDescs (ds : List EncoderDescriptor) (eosReceived : Bool) : EncodedFrame :=
  let f := ds.foldl addDescriptor {}
  if eosReceived then { f with clientFlags := { f.clientFlags with eos := true } } else f

/-- The length that `OutputBufferProcess` adds up again. -/
def totalLen (f : EncodedFrame) : Nat := (f.frameData.map (·.length)).sum

def bytes (f : EncodedFrame) : List UInt8 := f.frameData.flatMap (·.data)

end EncodedFrame

/-- The two segments of `NEXUS_SimpleEncoder_GetVideoBuffer`. -/
abbrev Segments := List EncoderDescriptor × List EncoderDescriptor

namespace Segments

def all (w : Segments) : List EncoderDescriptor := w.1 ++ w.2

def advanceDesc : Segments → Segments
  | (_ :: d :: seg0, seg1) => (d :: seg0, seg1)
  | (_, seg1) => (seg1, [])

/-- A loop of `HaveCompleteFrame`: the descriptors before the next start, added to `numDesc`, and whether that start is the
    end of the stream. -/
def scan : List EncoderDescriptor → Nat → Nat × Option Bool
  | [], numDesc => (numDesc, none)
  | d :: rest, numDesc => if d.isStartOfUnit then (numDesc, some d.eos) else scan rest (numDesc + 1)

/-- `HaveCompleteFrame`: how many descriptors the first frame has, and `m_bEosReceived`. -/
def haveCompleteFrame (w : Segments) (eosReceived : Bool) : Bool × Option Nat :=
  match w.1 with
  | [] => (eosReceived, none)
  | d :: seg0 =>
    if d.isStartOfUnit then
      match scan seg0 1 with
      | (numDesc, some eos) => (eosReceived || eos, some numDesc)
      | (numDesc, none) =>
        match scan w.2 numDesc with
        | (numDesc, some eos) => (eosReceived || eos, some numDesc)
        | (_, none) => (eosReceived, none)
    else (eosReceived, none)

/-- The descriptors of a frame, and the segments behind them. -/
def takeDescs : Nat → Segments → List EncoderDescriptor × Segments
  | 0, w => ([], w)
  | numToProcess + 1, w =>
    match w.1 with
    | [] => ([], w)
    | d :: _ =>
      let p := takeDescs numToProcess w.advanceDesc
      (d :: p.1, p.2)

/-- The loop of `RetrieveFrameFromHardware`, with `headers` frame headers left: the frames that it queues, and
    `m_bEosReceived`. -/
def retrieve : Nat → Segments → Bool → Bool × List EncodedFrame
  | headers, w, eosReceived =>
    match w.1 with
    | [] => (eosReceived, [])
    | d :: _ =>
      match w.haveCompleteFrame eosReceived with
      | (eosReceived, none) => (eosReceived, [])
      | (eosReceived, some numToProcess) =>
        if d.frameStart then
          match headers with
          | 0 => (eosReceived, [])
          | headers + 1 =>
            let p := w.takeDescs numToProcess
            let r := retrieve headers p.2 eosReceived
            (r.1, EncodedFrame.ofDescs p.1 eosReceived :: r.2)
        else (eosReceived, [])

end Segments

/-- What the client got: the buffer with its header, and the descriptors whose data it holds. -/
structure OutputFrame where
  buffer : BufferId
  header : BufferHeader
  frameData : List EncoderDescriptor
  deriving DecidableEq, Repr

/-- The fields that the output side uses. `descs` are the descriptors that were not acknowledged yet, those that the
    encoder did not produce yet included. -/
structure EncoderOutput where
  codec : VideoCodec
  simpleEncoderStarted : Bool
  codecConfigDone : Bool
  eosReceived : Bool
  eosDelivered : Bool
  emptyFrListLen : Nat
  encodedFrList : List EncodedFrame
  outPort : Port
  header : BufferId → BufferHeader
  bufferTracker : BufferTracker
  xFramerate : Nat
  lastOutputFramePTS : Nat := 0
  lastOutputFrameTicks : Ticks := 0
  duplicateFrameCount : Nat := 0
  descs : List EncoderDescriptor
  delivered : List OutputFrame := []
  portSettingsChanged : Nat := 0
  nullReads : Nat := 0
  zeroDivisions : Nat := 0

namespace EncoderOutput

/-- `NEXUS_SimpleEncoder_VideoReadComplete` -/
def videoReadComplete (n : Nat) (s : EncoderOutput) : EncoderOutput := { s with descs := s.descs.drop n }

def resetEncodedFrameList (s : EncoderOutput) : EncoderOutput :=
  { s with encodedFrList := [], emptyFrListLen := s.emptyFrListLen + s.encodedFrList.length }

/-- `ReturnEncodedFrameSynchronized`: the descriptors of the codec configuration are not acknowledged. -/
def returnEncodedFrameSynchronized (f : EncodedFrame) (s : EncoderOutput) : EncoderOutput :=
  if !s.simpleEncoderStarted then s
  else
    let s := { s with emptyFrListLen := s.emptyFrListLen + 1 }
    if f.clientFlags.codecConfig then s
    else if f.frameData.length = 0 then s
    else s.videoReadComplete f.frameData.length

def notifyOutputPortSettingsChanged (s : EncoderOutput) : EncoderOutput :=
  { s with portSettingsChanged := s.portSettingsChanged + 1 }

/-- The end of `GetCodecConfig`, from the first `FRAME_START` on. -/
def queueCodecConfig (w : Segments) (s : EncoderOutput) : EncoderOutput × Bool :=
  if s.codec = .vp8 then (s, true)
  else
    let w := w.advanceDesc
    match w.1 with
    | [] => ({ s with nullReads := s.nullReads + 1 }, false)
    | sps :: _ =>
      if sps.nalUnitType ≠ nalUnitTypeSps then (s.videoReadComplete 1, false)
      else
        match w.advanceDesc.1 with
        | [] => (s, false)
        | pps :: _ =>
          if pps.nalUnitType ≠ nalUnitTypePps then (s, false)
          else
            let f : EncodedFrame :=
              { frameData := [sps, pps]
                combinedSz := sps.length + pps.length
                clientFlags := { codecConfig := true } }
            ({ s with emptyFrListLen := s.emptyFrListLen - 1, encodedFrList := s.encodedFrList ++ [f] }, true)

def getCodecConfig (w : Segments) (s : EncoderOutput) : EncoderOutput × Bool :=
  let count := (w.1.takeWhile fun d => !d.frameStart).length
  if count = w.1.length then (s.videoReadComplete count, false)
  else
    let s := if count ≠ 0 then s.videoReadComplete count else s
    s.queueCodecConfig (w.1.drop count, w.2)

/-- What `NEXUS_SimpleEncoder_GetVideoBuffer` shows: two segments at the front of the stream. -/
def getVideoBuffer (window : Option (Nat × Nat)) (s : EncoderOutput) : Option Segments :=
  window.map fun (size0, size1) => (s.descs.take size0, (s.descs.drop size0).take size1)

def retrieveFrameFromHardware (window : Option (Nat × Nat)) (s : EncoderOutput) : EncoderOutput :=
  if !s.simpleEncoderStarted then s
  else if s.encodedFrList ≠ [] then s
  else
    match s.getVideoBuffer window with
    | none => s
    | some w =>
      if w.1 = [] then s
      else if !s.codecConfigDone then
        let p := s.getCodecConfig w
        if p.2 then { p.1 with codecConfigDone := true } else p.1
      else
        let r := w.retrieve s.emptyFrListLen s.eosReceived
        { s with
          eosReceived := r.1
          emptyFrListLen := s.emptyFrListLen - r.2.length
          encodedFrList := s.encodedFrList ++ r.2 }

/-- The time stamp that a frame gets in `OutputBufferProcess`: that of its input frame, or a later one for a duplicate. -/
def stampFrame (f : EncodedFrame) (b : BufferId) (s : EncoderOutput) : EncoderOutput :=
  let setTicks (ticks : Ticks) (s : EncoderOutput) : EncoderOutput :=
    { s with header := Function.update s.header b { s.header b with nTimeStamp := ticks } }
  if f.clientFlags.codecConfig then s
  else
    let pts := f.usTimeStampOriginal % u32
    if s.bufferTracker.any (·.pts = pts) then
      let p := s.bufferTracker.remove pts
      setTicks p.2.1 { s with bufferTracker := p.1, duplicateFrameCount := 0 }
    else if f.usTimeStampOriginal = s.lastOutputFramePTS then
      let framerate := s.xFramerate / 65536
      let ptsTickOffset := 1000000 / framerate
      let count := s.duplicateFrameCount + 1
      setTicks (s.lastOutputFrameTicks + (ptsTickOffset / (count * 2) : Nat))
        { s with
          duplicateFrameCount := count
          zeroDivisions := if framerate = 0 then s.zeroDivisions + 1 else s.zeroDivisions }
    else setTicks (ptsToTick pts) s

/-- The copy of a frame to the front of a buffer. -/
def copyFrame (f : EncodedFrame) (b : BufferId) (s : EncoderOutput) : EncoderOutput :=
  let h := s.header b
  { s with header := Function.update s.header b { h with pBuffer := f.bytes ++ h.pBuffer.drop f.bytes.length } }

/-- A round of `OutputBufferProcess` in which the frame fits in the buffer. -/
def returnFrame (f : EncodedFrame) (b : BufferId) (s : EncoderOutput) : EncoderOutput :=
  let s := (s.copyFrame f b).stampFrame f b
  let s := if f.clientFlags.eos then { s with eosDelivered := true } else s
  let h := s.header b
  let s := { s with
    lastOutputFramePTS := f.usTimeStampOriginal
    lastOutputFrameTicks := h.nTimeStamp
    header := Function.update s.header b { h with nFlags := f.clientFlags, nFilledLen := f.combinedSz } }
  let s := s.returnEncodedFrameSynchronized f
  { s with
    outPort := s.outPort.bufferComplete b
    delivered := s.delivered ++ [{ buffer := b, header := s.header b, frameData := f.frameData }] }

/-- The loop of `OutputBufferProcess` over `m_EncodedFrList`. -/
def deliverFrames : List EncodedFrame → EncoderOutput → EncoderOutput
  | [], s => s
  | f :: rest, s =>
    match s.outPort.getBuffer with
    | none => s
    | some b =>
      let s := { s with encodedFrList := rest }
      if f.combinedSz ≠ f.totalLen || f.combinedSz > (s.header b).nAllocLen then
        (s.resetEncodedFrameList.returnEncodedFrameSynchronized f).notifyOutputPortSettingsChanged
      else deliverFrames rest (s.returnFrame f b)

def outputBufferProcess (window : Option (Nat × Nat)) (s : EncoderOutput) : EncoderOutput :=
  if !s.simpleEncoderStarted then s
  else if s.outPort.queueDepth = 0 then s
  else
    let s := s.retrieveFrameFromHardware window
    s.deliverFrames s.encodedFrList

/-- `FillThisBuffer`, with the `Reset` of the output buffer. -/
def fillThisBuffer (b : BufferId) (s : EncoderOutput) : EncoderOutput :=
  if b ∉ s.outPort.bufferList then s
  else
    let h := s.header b
    let s := { s with header := Function.update s.header b { h with nOffset := 0, nFilledLen := 0, nTimeStamp := 0 } }
    match s.outPort.queueBuffer b with
    | .ok outPort => { s with outPort }
    | .error _ => s

end EncoderOutput

/-- The client fills the queue, and the component's thread takes what the encoder has. -/
inductive EncoderOutputAction where
  | fillThisBuffer (b : BufferId)
  | outputBufferProcess (window : Option (Nat × Nat))
  deriving DecidableEq, Repr

namespace EncoderOutput

def step (s : EncoderOutput) : EncoderOutputAction → Option EncoderOutput
  | .fillThisBuffer b => some (s.fillThisBuffer b)
  | .outputBufferProcess window => some (s.outputBufferProcess window)

end EncoderOutput
end BcmPlatform.Bomx
