import BcmPlatform.Bomx.Port
import BcmPlatform.Bomx.Input
import BcmPlatform.Bomx.Output

/-! `BOMX_VideoDecoder`, without tunnelling: delivery of decoded frames, and the functions that touch both ports. Each
    function is one section under the component lock. What Nexus answers is passed as an argument. -/

namespace BcmPlatform.Bomx

structure VideoDecoder where
  codec : VideoCodec
  outputMode : OutputMode
  adaptivePlaybackEnabled : Bool
  currentState : OmxState
  targetState : OmxState
  portWait : Option PortWait
  inp : InputSide
  out : OutputSide

/-- What Nexus reports during a poll: the number of decoded frames, and for which frames the copy into the output
    buffer succeeds. -/
structure PollResult where
  numFrames : Nat := 0
  destriped : Nat → Bool := fun _ => true

namespace VideoDecoder

/-! ### Delivering frames -/

/-- The header of the output buffer for a frame, from the tracker. An end-of-stream flag waits for the frame with the
    last time stamp. -/
def prepareHeader (f : FrameBuffer) (b : BufferId) (d : VideoDecoder) : VideoDecoder :=
  let p := d.inp.tracker.remove f.frameStatus.pts
  let ticks := p.2.1
  let flags := p.2.2
  let last := p.1.last ticks
  -- whether the flag was received before its frame, and whether this frame carries it
  let e : Bool × Bool :=
    if flags.eos && !last then (true, false)
    else if d.out.eosReceived && last then (false, true)
    else (d.out.eosReceived, flags.eos)
  let info := d.out.buffer b
  let header := { info.header with nOffset := 0, nTimeStamp := ticks, nFlags := { flags with eos := e.2 } }
  { d with
    inp := { d.inp with tracker := p.1 }
    out := { d.out.setBuffer b { info with header } with eosReceived := e.1 } }

/-- The last picture, or a frame with the end-of-stream flag, ends the stream that is pending. `none` is the fatal
    case without one. -/
def takeEos (f : FrameBuffer) (b : BufferId) (d : VideoDecoder) : Option VideoDecoder :=
  let info := d.out.buffer b
  if f.frameStatus.lastPicture || info.header.nFlags.eos then
    if d.inp.eosPending then
      let header := { info.header with nFlags := { info.header.nFlags with eos := true } }
      some { d with
        inp := { d.inp with eosPending := false }
        out := { d.out.setBuffer b { info with header } with eosDelivered := true } }
    else none
  else some d

def formatChanged (f : FrameBuffer) (d : VideoDecoder) : Bool :=
  f.frameStatus.imageWidth ≠ d.out.outputWidth || f.frameStatus.imageHeight ≠ d.out.outputHeight

/-- In metadata mode and for adaptive playback the port is reset only for larger frames. -/
def portReset (f : FrameBuffer) (d : VideoDecoder) : Bool :=
  if d.outputMode = .metadata || d.adaptivePlaybackEnabled then
    f.frameStatus.imageWidth > d.out.port.definition.nFrameWidth ||
      f.frameStatus.imageHeight > d.out.port.definition.nFrameHeight
  else true

/-- A format change that resets the port. It is deferred as long as earlier frames are not returned. -/
def resetPort (f : FrameBuffer) (d : VideoDecoder) : VideoDecoder :=
  let out := d.out
  if out.formatChangeState = .none ∧ out.lastReturnedSerial > 0 ∧ f.serial > out.lastReturnedSerial + 1 then
    { d with out := { out with formatChangeState := .waitForSerial, formatChangeSerial := f.serial } }
  else
    let portDefs := { out.port.definition with
      nFrameWidth := f.frameStatus.imageWidth, nFrameHeight := f.frameStatus.imageHeight }
    { d with out := { out with port := out.port.setDefinition portDefs, formatChangeState := .waitForPortReconfig } }

/-- The private handle that the frame gets with the output buffer. -/
def privateHandle (f : FrameBuffer) (info : OutputBuffer) : Option Nat :=
  match info.type with
  | .metadata => info.pHandle
  | .native => if f.frameStatus.lastPicture then f.pPrivateHandle else some info.nativeHandle
  | .standard => f.pPrivateHandle

/-- The frame goes to the client with output buffer `b`, and input buffers that it used come back. -/
def deliverFrame (f : FrameBuffer) (b : BufferId) (d : VideoDecoder) : VideoDecoder :=
  let info := d.out.buffer b
  let out := d.out.setNode f.id fun g =>
    { g with state := .delivered, pBufferInfo := some b, pPrivateHandle := privateHandle g info }
  let out := out.setBuffer b { info with pFrameBuffer := some f.id }
  { d with
    out := out.returnPortBuffer b
    inp := d.inp.returnInputBuffers info.header.nTimeStamp .timestamp }

/-- One round of the delivery loop, for frame `f` and the output buffer `b`. The second result tells whether the loop
    goes on. -/
def deliverRound (r : PollResult) (f : FrameBuffer) (b : BufferId) (d : VideoDecoder) : VideoDecoder × Bool :=
  let prevEosPending := d.inp.eosPending
  let prevEosDelivered := d.out.eosDelivered
  let d := d.prepareHeader f b
  let d := { d with out := d.out.alogAssert ((d.out.buffer b).pFrameBuffer = none) .bufferInfoUnlinked }
  match d.takeEos f b with
  | none => ({ d with out := d.out.alogAssert false .eosPending }, false)
  | some d =>
    if f.frameStatus.lastPicture then (d.deliverFrame f b, true)
    else if d.formatChanged f && d.portReset f then
      -- the entry goes back to the tracker, and the end-of-stream state is restored
      let d := { d with
        inp := { d.inp with
          tracker := (d.inp.tracker.add (d.out.buffer b).header).1, eosPending := prevEosPending }
        out := { d.out with eosDelivered := prevEosDelivered } }
      (d.resetPort f, false)
    else
      let d :=
        if d.formatChanged f then
          { d with out := { d.out with
              outputWidth := f.frameStatus.imageWidth, outputHeight := f.frameStatus.imageHeight } }
        else d
      (d.deliverFrame f b, r.destriped f.serial)

/-- The delivery loop of `PollDecodedFrames` over the frames that are ready. -/
def deliver (r : PollResult) : List FrameBuffer → VideoDecoder → VideoDecoder
  | [], d => d
  | f :: rest, d =>
    if d.out.eosDelivered ∨ ¬ (d.out.formatChangeState = .none ∨ d.out.formatChangeState = .processCallback) then d
    else
      match d.out.port.getBuffer with
      | none => d
      | some b =>
        let p := d.deliverRound r f b
        if p.2 then deliver r rest p.1 else p.1

def pollDecodedFrames (r : PollResult) (d : VideoDecoder) : VideoDecoder :=
  if !d.out.hSimpleVideoDecoder then d
  else
    let d := { d with out := d.out.getDecodedFrames r.numFrames }
    if d.out.port.queueDepth > 0 then
      d.deliver r (d.out.frameBufferAllocList.dropWhile fun f => !f.isReady)
    else d

def returnDecodedFrames (r : PollResult) (d : VideoDecoder) : VideoDecoder :=
  let p := d.out.returnDecodedFrames
  let d := { d with out := p.1 }
  if p.2 then d.pollDecodedFrames r else d

/-! ### Buffers and display -/

/-- `EmptyThisBuffer`, after the client has filled in the header. -/
def emptyThisBuffer (submit : InputSide.SubmitResult) (b : BufferId) (header : BufferHeader) (d : VideoDecoder) :
    VideoDecoder × OmxError :=
  let inp := d.inp.setBuffer b { d.inp.buffer b with header }
  let p := inp.emptyThisBuffer d.codec submit b
  ({ d with inp := p.1 }, p.2)

/-- `FillThisBuffer`, after the client has filled in the metadata. -/
def fillThisBuffer (r : PollResult) (b : BufferId) (grallocSource : Bool) (pHandle : Option Nat) (d : VideoDecoder) :
    VideoDecoder × OmxError :=
  let out := d.out.setBuffer b { d.out.buffer b with grallocSource, pHandle }
  let p := out.fillThisBuffer b
  let d := { d with out := p.1 }
  if p.2 = .none then (d.returnDecodedFrames r, .none) else (d, p.2)

/-- `FreeBuffer` on the output port. -/
def freeOutputBuffer (r : PollResult) (b : BufferId) (d : VideoDecoder) : VideoDecoder × OmxError :=
  let p := d.out.freeBuffer b
  let d := { d with out := p.1 }
  (if p.2.2 then d.returnDecodedFrames r else d, p.2.1)

/-- The part of `DisplayFrameEvent` under the component lock. -/
def displayFrameEvent (r : PollResult) (d : VideoDecoder) : VideoDecoder :=
  match d.out.displayTaken with
  | none => d
  | some serialNumber =>
    let p := { d.out with displayTaken := none }.displayFrameLocked serialNumber
    let d := { d with out := p.1 }
    if p.2 then d.returnDecodedFrames r else d

/-! ### Commands -/

/-- The input port's part of `CommandFlush`. -/
def flushInput (stopped : Bool) (fifoPts : Option Nat) (d : VideoDecoder) : VideoDecoder :=
  { d with inp := d.inp.commandFlush stopped fifoPts }

/-- `CommandFlush` on the input port. -/
def commandFlushInput (stopped : Bool) (fifoPts : Option Nat) (d : VideoDecoder) : VideoDecoder × OmxError :=
  if d.currentState ≠ d.targetState then (d, .incorrectStateOperation) else (d.flushInput stopped fifoPts, .none)

/-- The output port's part of `CommandFlush`. -/
def flushOutput (r : PollResult) (d : VideoDecoder) : VideoDecoder :=
  let d :=
    if d.out.port.isEnabled && d.out.port.isPopulated && d.out.hSimpleVideoDecoder then
      let d := { d with out := { d.out with outputFlushing := true }.nexusFlush }
      let d := d.returnDecodedFrames r
      { d with
        inp := { d.inp with tracker := [] }
        out := { d.out with eosDelivered := false, eosReceived := false, displayFrameAvailable := false,
                            frameSerial := 0, outputFlushing := false } }
    else d
  { d with out := d.out.returnPortBuffers }

/-- What Nexus answers when the decoder is acquired, started, or switched between running and pause. -/
structure StartResult where
  acquired : Bool := true
  trick : Bool := true
  decoder : Bool := true
  playpump : Bool := true

/-- The part of `SetInputPortState` that acquires the decoder and opens the playpump. -/
def acquire (d : VideoDecoder) : VideoDecoder :=
  { d with inp := d.inp.openPlaypump, out := { d.out with hSimpleVideoDecoder := true } }

/-- The start of a stopped decoder, and the first poll. -/
def startDecoder (n : StartResult) (r : PollResult) (d : VideoDecoder) : VideoDecoder × Bool :=
  if !n.decoder then (d, false)
  else if !n.playpump then
    ({ d with
        inp := { d.inp with submittedDescriptors := 0, eosPending := false, ptsReceived := false }
        out := { d.out.nexusStart.nexusStop with eosDelivered := false, eosReceived := false } }, false)
  else
    let d := { d with inp := d.inp.start, out := d.out.nexusStart }
    (if d.out.port.isEnabled then d.pollDecodedFrames r else d, true)

/-- `SetInputPortState`; the second result is false for an error. -/
def setInputPortState (newState : OmxState) (n : StartResult) (r : PollResult) (d : VideoDecoder) :
    VideoDecoder × Bool :=
  if newState = .loaded then
    ({ d with inp := if d.out.hSimpleVideoDecoder then d.inp.release else d.inp, out := d.out.release }, true)
  else if !d.out.hSimpleVideoDecoder && !n.acquired then (d, false)
  else
    let d := if d.out.hSimpleVideoDecoder then d else d.acquire
    match newState with
    | .idle => (if d.out.nexus.started then { d with inp := d.inp.stop, out := d.out.stop } else d, true)
    | .executing => if d.out.nexus.started then (d, n.trick) else d.startDecoder n r
    | .pause => (d, !d.out.nexus.started || n.trick)
    | _ => (d, false)

def setOutputPortState (newState : OmxState) (r : PollResult) (d : VideoDecoder) : VideoDecoder :=
  match newState with
  | .loaded => { d with out := d.out.unload }
  | .idle => { d with out := d.out.returnPortBuffers }
  | _ => if d.out.hSimpleVideoDecoder && d.out.nexus.started then d.pollDecodedFrames r else d

/-- `StateChangeStart` -/
def stateChangeAllowed (newState : OmxState) (d : VideoDecoder) : Bool :=
  stateChangeStart d.currentState d.targetState newState

/-- The end of a state change. -/
def endStateChange (ok : Bool) (d : VideoDecoder) : VideoDecoder :=
  if ok then { d with currentState := d.targetState, portWait := none }
  else { d with targetState := d.currentState, portWait := none }

/-- To Executing or Pause: the output port first, then the input port. -/
def setRunning (newState : OmxState) (n : StartResult) (r r' : PollResult) (d : VideoDecoder) : VideoDecoder :=
  let d := if d.out.port.isPopulated && d.out.port.isEnabled then d.setOutputPortState newState r else d
  if d.inp.port.isPopulated && d.inp.port.isEnabled then
    let p := d.setInputPortState newState n r'
    p.1.endStateChange p.2
  else d.endStateChange true

/-- From Executing or Pause to Idle. Its errors are ignored. -/
def setIdle (n : StartResult) (r : PollResult) (d : VideoDecoder) : VideoDecoder :=
  let d := { d with inp := d.inp.configBufferInit }
  let d := if d.inp.port.isPopulated then (d.setInputPortState .idle n r).1 else d
  let d := if d.out.port.isPopulated then d.setOutputPortState .idle r else d
  d.endStateChange true

/-- `CommandPortDisable` on the enabled input port, up to the wait. -/
def disableInput (n : StartResult) (r : PollResult) (d : VideoDecoder) : VideoDecoder :=
  let d := ({ d with inp := { d.inp with port := d.inp.port.disabled } }.setInputPortState .loaded n r).1
  { d with inp := d.inp.returnPortBuffers }

/-- `CommandPortDisable` on the enabled output port, up to the wait. -/
def disableOutput (r : PollResult) (d : VideoDecoder) : VideoDecoder :=
  let d := { d with out := { d.out with port := d.out.port.disabled } }.setOutputPortState .loaded r
  { d with out := d.out.returnPortBuffers }

/-- `CommandStateSet(OMX_StateLoaded)`, up to the first wait. -/
def setLoaded (n : StartResult) (r : PollResult) (d : VideoDecoder) : VideoDecoder :=
  let inputPortEnabled := d.inp.port.isEnabled
  let outputPortEnabled := d.out.port.isEnabled
  let d := if inputPortEnabled then d.disableInput n r else d
  { d with portWait := some (.depopulateInput inputPortEnabled outputPortEnabled) }

/-- `CommandStateSet`, up to the end or the first wait. From Loaded to Idle the ports are waited for. -/
def commandStateSet (newState : OmxState) (n : StartResult) (r r' : PollResult) (d : VideoDecoder) : VideoDecoder :=
  if !d.stateChangeAllowed newState then d
  else
    let d := { d with targetState := newState }
    match newState with
    | .loaded => d.setLoaded n r
    | .idle =>
      if d.currentState = .loaded then { d with inp := d.inp.configBufferInit, portWait := some .populate }
      else d.setIdle n r
    | .executing | .pause => d.setRunning newState n r r'
    | _ => d.endStateChange false

/-- The end of the state change from Loaded to Idle, once the ports are populated. -/
def setIdleFromLoaded (n : StartResult) (r : PollResult) (d : VideoDecoder) : VideoDecoder :=
  let inputEnabled := d.inp.port.isEnabled
  let outputEnabled := d.out.port.isEnabled
  let d := if d.out.port.isPopulated && d.out.port.isEnabled then d.setOutputPortState .idle r else d
  if d.inp.port.isPopulated && d.inp.port.isEnabled then
    let p := d.setInputPortState .idle n r
    if p.2 then p.1.endStateChange true
    else
      -- in Loaded state a disabled port gives nothing back, so only the flags of the ports change
      { p.1 with
        inp := { p.1.inp with port := p.1.inp.port.disabled.reenabled inputEnabled }
        out := { p.1.out with port := p.1.out.port.disabled.reenabled outputEnabled } }.endStateChange false
  else d.endStateChange true

/-- A waiting command goes on: the ports are as it needs them, or it gives up after a timeout. -/
def resume (timeout : Bool) (n : StartResult) (r : PollResult) (d : VideoDecoder) : VideoDecoder :=
  match d.portWait with
  | none => d
  | some .populate =>
    if (!d.inp.port.isEnabled || d.inp.port.isPopulated) && (!d.out.port.isEnabled || d.out.port.isPopulated) then
      d.setIdleFromLoaded n r
    else if timeout then d.endStateChange false else d
  | some (.depopulateInput inputPortEnabled outputPortEnabled) =>
    if d.inp.port.isEmpty || !inputPortEnabled then
      let d := if outputPortEnabled then d.disableOutput r else d
      { d with portWait := some (.depopulateOutput inputPortEnabled outputPortEnabled) }
    else if timeout then
      { d with inp := { d.inp with port := d.inp.port.reenabled true } }.endStateChange false
    else d
  | some (.depopulateOutput inputPortEnabled outputPortEnabled) =>
    if d.out.port.isEmpty || !outputPortEnabled then
      { d with
        inp := { d.inp with port := d.inp.port.reenabled inputPortEnabled }
        out := { d.out with port := d.out.port.reenabled outputPortEnabled }.clearAllocList }.endStateChange true
    else if timeout then
      { d with out := { d.out with port := d.out.port.reenabled true } }.endStateChange false
    else d

end VideoDecoder
end BcmPlatform.Bomx
