import BcmPlatform.Bomx.Input
import BcmPlatform.Bomx.Port

/-! `BOMX_AudioDecoder`: the input side of the video decoder with its own rules for frames, for the playpump and for the
    return of input buffers, and the state changes of both ports. Of the output side it has what decides when input buffers
    come back: the output port and the end of the stream. -/

namespace BcmPlatform.Bomx

/-- `B_DATA_BUFFER_SIZE` of the audio decoder -/
@[simp] def audioDataBufferSize : Nat := 8192

/-- `B_AAC_ADTS_HEADER_LEN` -/
@[simp] def adtsHeaderLen : Nat := 7

/-- `BOMX_AUDIO_CODEC_CONFIG_BUFFER_SIZE` -/
@[simp] def audioCodecConfigBufferSize : Nat := 1024

/-- `B_MAX_DESCRIPTORS_PER_BUFFER` of the audio decoder -/
def audioMaxDescriptorsPerBuffer : Nat :=
  4 + 2 * (audioDataBufferSize / (maxPesPacketLength - (pesHeaderLengthWithoutPts - pesHeaderStartBytes)))

/-- `OMX_AUDIO_CODINGTYPE`, the codecs of the audio roles. -/
inductive AudioCodec where
  | ac3
  | mp3
  | aac
  deriving DecidableEq, Repr

/-- `BOMX_AAC_ASCInfo` -/
structure AscInfo where
  samplingFrequencyIndex : Nat := 0
  channelConfiguration : Nat := 0
  profile : Nat := 0
  deriving DecidableEq, Repr

/-- `BOMX_AAC_SetupAdtsHeader` -/
def adtsHeader (frameLength : Nat) (info : AscInfo) : List UInt8 :=
  let frameLength := frameLength + adtsHeaderLen
  let channels := info.channelConfiguration
  [0xff, 0xf1,
   UInt8.ofNat (info.profile % 4 * 64 + info.samplingFrequencyIndex % 16 * 4 + channels / 4 % 2),
   UInt8.ofNat (channels % 4 * 64 + frameLength / 2048 % 4),
   UInt8.ofNat (frameLength / 8 % 256),
   UInt8.ofNat (frameLength % 8 * 32 + 0x1f), 0xfc]

/-- `BOMX_AudioDecoderState` -/
inductive AudioDecoderState where
  | stopped
  | started
  | suspended
  deriving DecidableEq, Repr

namespace InputSide

/-- The frame, with its ADTS header if it gets one. Every frame is tracked. -/
def audioEmptyFrame (codecHeader : List UInt8) (accepted : Bool) (b : BufferId) (s : InputSide) :
    InputSide × OmxError :=
  let frame := (s.buffer b).header.payload
  let t := s.tracker.add (s.buffer b).header
  let s := { s.setBuffer b { s.buffer b with pts := t.2 } with tracker := t.1 }
  let p := audioBuildInputFrame true (s.buffer b).pts codecHeader frame s.maxDescriptorsPerBuffer (s.builder b)
  let s := s.setBuilder b p.1
  match p.2 with
  | .error err => (s, err)
  | .ok descs =>
    let s := s.updateBuffer b frame.length
    match s.submit accepted b descs.length with
    | none => (s, .undefined)
    | some s => s.queueInputBuffer b

/-- `BOMX_AudioDecoder::EmptyThisBuffer` -/
def audioEmptyThisBuffer (codecHeader : List UInt8) (submit : SubmitResult) (b : BufferId) (s : InputSide) :
    InputSide × OmxError :=
  s.emptyBuffer audioCodecConfigBufferSize (audioEmptyFrame codecHeader submit.frame b) submit.eos b

/-- `BOMX_AudioDecoder::PlaypumpEvent`: buffers are complete up to the one behind the buffer that the decoder works
    on; `fifoPts` is the PTS in its status, if it is a coded one. -/
def audioPlaypumpEvent (fifoPts : Option Nat) (s : InputSide) : InputSide :=
  if s.hPlaypump && s.playpumpStarted then
    s.completeConsumed ((fifoPts.bind s.findBufferFromPts).bind s.port.getNextBuffer)
  else s

/-- `BOMX_AudioDecoder::ReturnInputBuffers` -/
def audioReturnInputBuffers (fifoPts : Option Nat) (decodeTs : Ticks) (causedByTimeout : Bool) (s : InputSide) :
    InputSide :=
  (s.audioPlaypumpEvent fifoPts).returnInputBuffers decodeTs (if causedByTimeout then .all else .timestamp)

/-- The playpump is closed. What was submitted stays counted. -/
def closePlaypump (s : InputSide) : InputSide := { s with hPlaypump := false, playpumpStarted := false, descFifo := [] }

end InputSide

/-- A decoded frame, with the output buffer that its memory block belongs to. `consumed` and `fifoPts` are the playpump's
    and the decoder's progress when input buffers are returned after it. -/
structure AudioFrame where
  buffer : Option BufferId := none
  pts : Nat := 0
  filledBytes : Nat := 0
  sampleRate : Nat := 0
  consumed : Nat := 0
  fifoPts : Option Nat := none
  deriving DecidableEq, Repr

/-- What Nexus reports during a poll: the decoded frames; whether none is left afterwards, with the decoder's progress
    then. -/
structure AudioPollResult where
  frames : List AudioFrame := []
  drained : Bool := false
  consumed : Nat := 0
  fifoPts : Option Nat := none
  deriving DecidableEq, Repr

structure AudioDecoder where
  codec : AudioCodec
  /-- `eAACStreamFormat` is `OMX_AUDIO_AACStreamFormatMP4FF`: the client's frames have no ADTS header. -/
  mp4ff : Bool
  ascInfo : AscInfo
  currentState : OmxState
  targetState : OmxState
  portWait : Option PortWait
  decoderState : AudioDecoderState
  inp : InputSide
  outPort : Port
  sampleRate : Nat
  formatChangePending : Bool
  eosReceived : Bool
  eosReady : Bool
  eosStandalone : Bool
  eosDelivered : Bool

namespace AudioDecoder

/-! ### Delivering frames -/

/-- The frame's entry in the tracker, and whether the frame is the end of the stream; an end-of-stream flag waits for
    the frame with the last time stamp. -/
def takeTracked (pts : Nat) (d : AudioDecoder) : AudioDecoder × Ticks × Bool :=
  let p := d.inp.tracker.remove pts
  let d := { d with inp := { d.inp with tracker := p.1 } }
  let last := p.1.last p.2.1
  if p.2.2.eos && !last then ({ d with eosReceived := true }, p.2.1, false)
  else if d.eosReceived && last then ({ d with eosReceived := false }, p.2.1, true)
  else (d, p.2.1, p.2.2.eos)

/-- A frame goes to the client with its output buffer, and input buffers come back. -/
def deliverFrame (f : AudioFrame) (b : BufferId) (ticks : Ticks) (d : AudioDecoder) : AudioDecoder :=
  { d with
    outPort := d.outPort.bufferComplete b
    inp := (d.inp.consume f.consumed).audioReturnInputBuffers f.fifoPts ticks false }

/-- The loop of `PollDecodedFrames`; the second result is false when the poll ends in it. -/
def deliver : List AudioFrame → AudioDecoder → AudioDecoder × Bool
  | [], d => (d, true)
  | f :: rest, d =>
    if f.sampleRate ≠ d.sampleRate ∧ 0 < f.filledBytes then
      ({ d with formatChangePending := true, sampleRate := f.sampleRate }, false)
    else
      match f.buffer with
      | none => deliver rest d
      | some b =>
        let p := d.takeTracked f.pts
        if p.2.2 then
          -- the end of the stream is deferred to a padded frame of its own
          if p.1.inp.eosPending && !p.1.eosReady then
            deliver rest ({ p.1 with eosReady := true }.deliverFrame f b p.2.1)
          else (p.1, false)
        else deliver rest (p.1.deliverFrame f b p.2.1)

/-- The end of the stream is delivered, and all complete input buffers come back. -/
def deliverEos (r : AudioPollResult) (b : BufferId) (d : AudioDecoder) : AudioDecoder :=
  { d with
    outPort := d.outPort.bufferComplete b
    inp := ({ d.inp with eosPending := false }.consume r.consumed).audioReturnInputBuffers r.fifoPts 0 true
    eosStandalone := false, eosReady := false, eosDelivered := true }

def pollDecodedFrames (r : AudioPollResult) (d : AudioDecoder) : AudioDecoder :=
  if d.formatChangePending || d.eosDelivered then d
  else if d.outPort.queueDepth > 0 then
    let p := d.deliver r.frames
    if !p.2 then p.1
    else if p.1.inp.eosPending && (p.1.eosStandalone || p.1.eosReady) && p.1.inp.port.queueDepth ≤ 1 && r.drained then
      match p.1.outPort.getBuffer with
      | some b => p.1.deliverEos r b
      | none => p.1
    else p.1
  else d

/-! ### Buffers -/

/-- `EmptyThisBuffer`, after the client has filled in the header; `asc` is what `BOMX_AAC_ParseASC` makes of config
    data. -/
def emptyThisBuffer (submit : InputSide.SubmitResult) (b : BufferId) (header : BufferHeader) (asc : AscInfo)
    (d : AudioDecoder) : AudioDecoder × OmxError :=
  let inp := d.inp.setBuffer b { d.inp.buffer b with header }
  let adts := d.codec = .aac ∧ d.mp4ff
  let p := inp.audioEmptyThisBuffer (if adts then adtsHeader header.nFilledLen d.ascInfo else []) submit b
  let d := { d with inp := p.1 }
  if !InputSide.headerAccepted header then (d, p.2)
  else if header.nFlags.codecConfig then (if adts then { d with ascInfo := asc } else d, p.2)
  else if header.nFlags.eos ∧ p.2 = .none then ({ d with eosStandalone := header.nFilledLen = 0 }, p.2)
  else (d, p.2)

/-- `FillThisBuffer`; `queued` tells whether a started decoder takes the memory block. -/
def fillThisBuffer (queued : Bool) (b : BufferId) (d : AudioDecoder) : AudioDecoder :=
  if d.decoderState = .started && !queued then d
  else { d with outPort := (d.outPort.queueBuffer b).toOption.getD d.outPort }

/-- `AddInputPortBuffer` -/
def addInputBuffer (b : BufferId) (nSizeBytes : Nat) (componentAllocated : Bool) (d : AudioDecoder) : AudioDecoder :=
  let headerBufferSize := pesHeaderLengthWithPts + (if d.codec = .aac then adtsHeaderLen else 0) +
    pesHeaderLengthWithoutPts * ((audioMaxDescriptorsPerBuffer - 4) / 2)
  { d with inp := (d.inp.addInputPortBuffer headerBufferSize b nSizeBytes componentAllocated).1 }

/-- `AddOutputPortBuffer` -/
def addOutputBuffer (b : BufferId) (componentAllocated : Bool) (d : AudioDecoder) : AudioDecoder :=
  if hnew : b ∈ d.outPort.bufferList then d
  else { d with outPort := (d.outPort.addBuffer b componentAllocated hnew).toOption.getD d.outPort }

/-! ### Commands -/

/-- What Nexus answers to a start, a suspend and the opening of the playpump. -/
structure StartResult where
  acquired : Bool := true
  decoder : Bool := true
  playpump : Bool := true
  suspend : Bool := true
  deriving DecidableEq, Repr

def clearEos (d : AudioDecoder) : AudioDecoder :=
  { d with eosReceived := false, eosReady := false, eosStandalone := false, eosDelivered := false }

/-- `StartDecoder`; the second result is false for an error. -/
def startDecoder (n : StartResult) (d : AudioDecoder) : AudioDecoder × Bool :=
  if d.decoderState ≠ .stopped ∨ !n.decoder then (d, false)
  else if !n.playpump then
    ({ d with inp := { d.inp with submittedDescriptors := 0, eosPending := false } }.clearEos, false)
  else ({ d with inp := d.inp.start, decoderState := .started }, true)

def stopDecoder (d : AudioDecoder) : AudioDecoder :=
  if d.decoderState = .started then { d with inp := d.inp.stop, decoderState := .stopped }.clearEos else d

/-- A suspended decoder is resumed before it is stopped. -/
def resumeDecoder (d : AudioDecoder) : AudioDecoder :=
  if d.decoderState = .suspended then { d with decoderState := .started } else d

/-- The start in Executing state. Without an output port the decoder is suspended at once. -/
def startInput (n : StartResult) (r : AudioPollResult) (d : AudioDecoder) : AudioDecoder × Bool :=
  let p := d.startDecoder n
  if !p.2 then p
  else if p.1.outPort.isEnabled then (p.1.pollDecodedFrames r, true)
  else if !n.suspend then (p.1.stopDecoder, false)
  else ({ p.1 with decoderState := .suspended }, true)

/-- `SetInputPortState`; the second result is false for an error. -/
def setInputPortState (newState : OmxState) (n : StartResult) (r : AudioPollResult) (d : AudioDecoder) :
    AudioDecoder × Bool :=
  if newState = .loaded then
    if d.inp.hPlaypump then
      let d := d.resumeDecoder.stopDecoder
      ({ d with inp := d.inp.closePlaypump }, true)
    else (d, true)
  else if !d.inp.hPlaypump && !n.acquired then (d, false)
  else
    let d := if d.inp.hPlaypump then d else { d with inp := d.inp.openPlaypump }
    match newState with
    | .idle => (d.resumeDecoder.stopDecoder, true)
    | .executing =>
      match d.decoderState with
      | .stopped => d.startInput n r
      | .suspended => (if d.outPort.isEnabled then d.pollDecodedFrames r else d, true)
      | .started => (d, false)
    | .pause => (d, true)
    | _ => (d, false)

/-- `ReturnPortBuffers` on the output port. -/
def returnOutputBuffers (d : AudioDecoder) : AudioDecoder :=
  { d with outPort := d.outPort.bufferQueue.foldl Port.bufferComplete d.outPort }

/-- `SetOutputPortState`; the second result is false for an error. -/
def setOutputPortState (newState : OmxState) (n : StartResult) (d : AudioDecoder) : AudioDecoder × Bool :=
  match newState with
  | .loaded | .idle =>
    let d := if newState = .loaded then { d with formatChangePending := false } else d
    if d.decoderState = .started ∧ !n.suspend then (d, false)
    else
      let d := if d.decoderState = .started then { d with decoderState := .suspended } else d
      (d.returnOutputBuffers, true)
  | _ => if d.decoderState = .started then (d, false) else (d.resumeDecoder, true)

/-- `CommandFlush` on the input port. -/
def flushInput (n n' : StartResult) (r : AudioPollResult) (d : AudioDecoder) : AudioDecoder :=
  let d := (d.setInputPortState .idle n r).1
  let d := (d.setInputPortState d.currentState n' r).1
  { d with inp := { d.inp with configBufferState := .flushed }.returnPortBuffers }

/-- `CommandFlush` on the output port. -/
def flushOutput (n : StartResult) (d : AudioDecoder) : AudioDecoder :=
  let d :=
    if d.outPort.isEnabled && d.outPort.isPopulated then
      ((d.setOutputPortState .idle n).1.setOutputPortState d.currentState n).1
    else d
  d.returnOutputBuffers

/-- The end of a state change. -/
def endStateChange (ok : Bool) (d : AudioDecoder) : AudioDecoder :=
  if ok then { d with currentState := d.targetState, portWait := none }
  else { d with targetState := d.currentState, portWait := none }

/-- To Executing or Pause: the output port first, then the input port. -/
def setRunning (newState : OmxState) (n : StartResult) (r : AudioPollResult) (d : AudioDecoder) : AudioDecoder :=
  let p := if d.outPort.isPopulated && d.outPort.isEnabled then d.setOutputPortState newState n else (d, true)
  if !p.2 then p.1.endStateChange false
  else if p.1.inp.port.isPopulated && p.1.inp.port.isEnabled then
    let q := p.1.setInputPortState newState n r
    q.1.endStateChange q.2
  else p.1.endStateChange true

/-- From Executing or Pause to Idle. Its errors are ignored. -/
def setIdle (n : StartResult) (r : AudioPollResult) (d : AudioDecoder) : AudioDecoder :=
  let d := { d with inp := d.inp.configBufferInit }
  let d := if d.inp.port.isPopulated then (d.setInputPortState .idle n r).1 else d
  let d := if d.outPort.isPopulated then (d.setOutputPortState .idle n).1 else d
  d.endStateChange true

/-- `CommandPortDisable` on the enabled input port, up to the wait. -/
def disableInput (n : StartResult) (r : AudioPollResult) (d : AudioDecoder) : AudioDecoder :=
  let d := ({ d with inp := { d.inp with port := d.inp.port.disabled } }.setInputPortState .loaded n r).1
  { d with inp := d.inp.returnPortBuffers }

/-- `CommandPortDisable` on the enabled output port, up to the wait. -/
def disableOutput (n : StartResult) (d : AudioDecoder) : AudioDecoder :=
  ({ d with outPort := d.outPort.disabled }.setOutputPortState .loaded n).1.returnOutputBuffers

/-- `CommandStateSet(OMX_StateLoaded)`, up to the first wait. -/
def setLoaded (n : StartResult) (r : AudioPollResult) (d : AudioDecoder) : AudioDecoder :=
  let inputPortEnabled := d.inp.port.isEnabled
  let outputPortEnabled := d.outPort.isEnabled
  let d := if inputPortEnabled then d.disableInput n r else d
  { d with portWait := some (.depopulateInput inputPortEnabled outputPortEnabled) }

/-- `CommandStateSet`, up to the end or the first wait. -/
def commandStateSet (newState : OmxState) (n : StartResult) (r : AudioPollResult) (d : AudioDecoder) : AudioDecoder :=
  if !stateChangeStart d.currentState d.targetState newState then d
  else
    let d := { d with targetState := newState }
    match newState with
    | .loaded => d.setLoaded n r
    | .idle =>
      if d.currentState = .loaded then { d with inp := d.inp.configBufferInit, portWait := some .populate }
      else d.setIdle n r
    | .executing | .pause => d.setRunning newState n r
    | _ => d.endStateChange false

/-- After an error from Loaded to Idle both ports are disabled and enabled again. -/
def abandonIdle (inputEnabled outputEnabled : Bool) (d : AudioDecoder) : AudioDecoder :=
  { d with
    inp := { d.inp with port := d.inp.port.disabled.reenabled inputEnabled }
    outPort := d.outPort.disabled.reenabled outputEnabled }.endStateChange false

/-- The end of the state change from Loaded to Idle, once the ports are populated. -/
def setIdleFromLoaded (n : StartResult) (r : AudioPollResult) (d : AudioDecoder) : AudioDecoder :=
  let inputEnabled := d.inp.port.isEnabled
  let outputEnabled := d.outPort.isEnabled
  let p := if d.outPort.isPopulated && d.outPort.isEnabled then d.setOutputPortState .idle n else (d, true)
  if !p.2 then p.1.abandonIdle inputEnabled outputEnabled
  else if p.1.inp.port.isPopulated && p.1.inp.port.isEnabled then
    let q := p.1.setInputPortState .idle n r
    if q.2 then q.1.endStateChange true else q.1.abandonIdle inputEnabled outputEnabled
  else p.1.endStateChange true

/-- A waiting command goes on: the ports are as it needs them, or it gives up after a timeout. -/
def resume (timeout : Bool) (n : StartResult) (r : AudioPollResult) (d : AudioDecoder) : AudioDecoder :=
  match d.portWait with
  | none => d
  | some .populate =>
    if (!d.inp.port.isEnabled || d.inp.port.isPopulated) && (!d.outPort.isEnabled || d.outPort.isPopulated) then
      d.setIdleFromLoaded n r
    else if timeout then d.endStateChange false else d
  | some (.depopulateInput inputPortEnabled outputPortEnabled) =>
    if d.inp.port.isEmpty || !inputPortEnabled then
      let d := if outputPortEnabled then d.disableOutput n else d
      { d with portWait := some (.depopulateOutput inputPortEnabled outputPortEnabled) }
    else if timeout then
      { d with inp := { d.inp with port := d.inp.port.reenabled true } }.endStateChange false
    else d
  | some (.depopulateOutput inputPortEnabled outputPortEnabled) =>
    if d.outPort.isEmpty || !outputPortEnabled then
      { d with
        inp := { d.inp with port := d.inp.port.reenabled inputPortEnabled }
        outPort := d.outPort.reenabled outputPortEnabled }.endStateChange true
    else if timeout then { d with outPort := d.outPort.reenabled true }.endStateChange false
    else d

end AudioDecoder

/-- One section under the component lock, or a step of the hardware, with what Nexus answers in it. -/
inductive AudioAction where
  | allocateInputBuffer (b : BufferId) (nSizeBytes : Nat) (componentAllocated : Bool)
  | allocateOutputBuffer (b : BufferId) (componentAllocated : Bool)
  | emptyThisBuffer (submit : InputSide.SubmitResult) (b : BufferId) (header : BufferHeader) (asc : AscInfo)
  | fillThisBuffer (queued : Bool) (b : BufferId)
  | freeInputBuffer (b : BufferId)
  | freeOutputBuffer (b : BufferId)
  | playpumpEvent (fifoPts : Option Nat)
  | inputBufferTimeout (fifoPts : Option Nat)
  | outputFrameEvent (r : AudioPollResult)
  | flushInput (n n' : AudioDecoder.StartResult) (r : AudioPollResult)
  | flushOutput (n : AudioDecoder.StartResult)
  | stateSet (newState : OmxState) (n : AudioDecoder.StartResult) (r : AudioPollResult)
  | resume (timeout : Bool) (n : AudioDecoder.StartResult) (r : AudioPollResult)
  | consume (n : Nat)
  deriving DecidableEq, Repr

namespace AudioDecoder

/-- One step; `none` when it is not possible. -/
def step (d : AudioDecoder) : AudioAction → Option AudioDecoder
  | .allocateInputBuffer b nSizeBytes componentAllocated => some (d.addInputBuffer b nSizeBytes componentAllocated)
  | .allocateOutputBuffer b componentAllocated => some (d.addOutputBuffer b componentAllocated)
  | .emptyThisBuffer submit b header asc =>
    if b ∈ d.inp.port.bufferList then some (d.emptyThisBuffer submit b header asc).1 else none
  | .fillThisBuffer queued b => if b ∈ d.outPort.bufferList then some (d.fillThisBuffer queued b) else none
  | .freeInputBuffer b => some { d with inp := (d.inp.freeBuffer b).1 }
  | .freeOutputBuffer b => some { d with outPort := (d.outPort.removeBuffer b).toOption.getD d.outPort }
  | .playpumpEvent fifoPts => some { d with inp := d.inp.audioPlaypumpEvent fifoPts }
  | .inputBufferTimeout fifoPts => some { d with inp := d.inp.audioReturnInputBuffers fifoPts 0 true }
  | .outputFrameEvent r => some (d.pollDecodedFrames r)
  | .flushInput n n' r => if d.portWait = none then some (d.flushInput n n' r) else none
  | .flushOutput n => if d.portWait = none then some (d.flushOutput n) else none
  | .stateSet newState n r => if d.portWait = none then some (d.commandStateSet newState n r) else none
  | .resume timeout n r => some (d.resume timeout n r)
  | .consume n => if d.inp.playpumpStarted then some { d with inp := d.inp.consume n } else none

/-- The decoder as the constructor leaves it. -/
def init (codec : AudioCodec) (mp4ff : Bool) (inputDef outputDef : PortDefinition) : AudioDecoder :=
  { codec, mp4ff, ascInfo := {}, currentState := .loaded, targetState := .loaded, portWait := none
    decoderState := .stopped, inp := InputSide.init audioMaxDescriptorsPerBuffer inputDef
    outPort := Port.init 1 outputDef
    sampleRate := 0, formatChangePending := false, eosReceived := false, eosReady := false
    eosStandalone := false, eosDelivered := false }

end AudioDecoder
end BcmPlatform.Bomx

/-! ### The walk of `ReturnInputBuffers`

Each round asks the port for the buffer behind the current one, and the second loop does so while it takes buffers out. `none` is a
loop that does not end in `fuel` rounds, or that leaves the queue before it meets the last buffer to return. -/

namespace BcmPlatform.Bomx.InputSide

/-- `B_MAX_INPUT_TIMEOUT_RETURN` -/
@[simp] def maxInputTimeoutReturn : Nat := 2

/-- The first loop: the last buffer to return. `timeoutCount` is raised in timeout mode only. -/
def selectReturnBuffer (decodeTs : Ticks) (mode : ReturnMode) (s : InputSide) :
    Nat → Option BufferId → Option BufferId → Nat → Option (Option BufferId)
  | 0, _, _, _ => none
  | _ + 1, none, pReturnBuffer, _ => some pReturnBuffer
  | fuel + 1, some b, pReturnBuffer, timeoutCount =>
    if !(s.buffer b).complete then some pReturnBuffer
    else if mode ≠ .timestamp ∨ pReturnBuffer = none then
      if mode = .timeout then
        if timeoutCount ≥ maxInputTimeoutReturn then some pReturnBuffer
        else selectReturnBuffer decodeTs mode s fuel (s.port.getNextBuffer b) (some b) (timeoutCount + 1)
      else selectReturnBuffer decodeTs mode s fuel (s.port.getNextBuffer b) (some b) timeoutCount
    else if (s.buffer b).header.nTimeStamp = decodeTs then some (some b)
    else selectReturnBuffer decodeTs mode s fuel (s.port.getNextBuffer b) pReturnBuffer timeoutCount

/-- The second loop: the next buffer is looked up before the current one leaves the queue. -/
def returnBuffersTo (pReturnBuffer : BufferId) : Nat → Option BufferId → InputSide → Option InputSide
  | 0, _, _ => none
  | _ + 1, none, _ => none
  | fuel + 1, some b, s =>
    if b = pReturnBuffer then some (s.returnInputPortBuffer b)
    else returnBuffersTo pReturnBuffer fuel (s.port.getNextBuffer b) (s.returnInputPortBuffer b)

/-- Both loops; `pBuffer` is where the first one starts. -/
def returnFrom (decodeTs : Ticks) (mode : ReturnMode) (pBuffer : Option BufferId) (s : InputSide) : Option InputSide :=
  match s.selectReturnBuffer decodeTs mode (s.port.queueDepth + 1) pBuffer none 0 with
  | none => none
  | some none => some s
  | some (some b) => returnBuffersTo b (s.port.queueDepth + 1) s.port.getBuffer s

/-- `BOMX_VideoDecoder::ReturnInputBuffers` -/
def returnInputBuffersWalk (decodeTs : Ticks) (mode : ReturnMode) (s : InputSide) : Option InputSide :=
  s.returnFrom decodeTs mode s.port.getBuffer

/-- `BOMX_AudioDecoder::ReturnInputBuffers`, which looks at the queue before `PlaypumpEvent`. -/
def audioReturnInputBuffersWalk (fifoPts : Option Nat) (decodeTs : Ticks) (causedByTimeout : Bool) (s : InputSide) :
    Option InputSide :=
  let pBuffer := s.port.getBuffer
  (s.audioPlaypumpEvent fifoPts).returnFrom decodeTs (if causedByTimeout then .all else .timestamp) pBuffer

end BcmPlatform.Bomx.InputSide
