import BcmPlatform.Bomx.ConfigHistory

/-! The end of the stream in a run of the video decoder: the packets that the hardware has and has not decoded, and the
    output buffers that the client got since the output was last flushed or stopped. The steps are those of the decoder,
    with flushes of one or both ports as one command, and the commands that disable and enable the output port when its
    format changes. -/

namespace BcmPlatform.Bomx

/-- What the playpump takes: a frame with this PTS, or the end-of-stream packet. -/
inductive Packet where
  | frame (pts : Nat)
  | eos
  deriving DecidableEq, Repr

/-- The last picture is made from the end-of-stream packet. -/
def FrameStatus.packet (status : FrameStatus) : Packet := if status.lastPicture then .eos else .frame status.pts

/-- The PTS of the frames. -/
def framePts : List Packet → List Nat
  | [] => []
  | .frame pts :: rest => pts :: framePts rest
  | .eos :: rest => framePts rest

/-- What the hardware keeps when it decodes frames: each frame once and in any order, and the last picture when
    everything before the end-of-stream packet was decoded. `none` when it cannot decode them. -/
def decodePackets : List Packet → List FrameStatus → Option (List Packet)
  | packets, [] => some packets
  | packets, status :: rest =>
    if status.packet = packets.head? then decodePackets packets.tail rest
    else if status.packet ∈ packets.takeWhile (· ≠ .eos) then decodePackets (packets.erase status.packet) rest
    else none

/-- A `FillBufferDone` call: whether the buffer has the end-of-stream flag and whether it has data, and whether the
    tracker then has a frame with a larger time stamp. -/
structure FilledBuffer where
  buffer : BufferId
  eos : Bool
  data : Bool
  later : Bool
  deriving DecidableEq, Repr

/-- The decoded frames that were not delivered: those that are ready, and those that were not taken from Nexus. -/
def OutputSide.undelivered (s : OutputSide) : List FrameStatus :=
  (s.frameBufferAllocList.filter (·.isReady)).map (·.frameStatus) ++
    s.nexus.fifo.drop (s.frameBufferAllocList.filter fun f => !f.isInvalid).length

namespace InputSide

/-- The frame goes into the tracker. -/
def tracksFrame (codec : VideoCodec) (b : BufferId) (s : InputSide) : Bool :=
  let header := (s.buffer b).header
  headerAccepted header && !header.nFlags.codecConfig && header.nFilledLen > 0 &&
    !(header.nTimeStamp = 0 && s.ptsReceived && codec.allowsFragments)

/-- The frame is built and the playpump takes it. -/
def takesFrame (codec : VideoCodec) (accepted : Bool) (b : BufferId) (s : InputSide) : Bool :=
  (s.builtFrame codec b).2.2.isOk && s.hPlaypump && accepted

/-- The end-of-stream packet follows a buffer that is queued. -/
def takesEos (codec : VideoCodec) (submit : SubmitResult) (b : BufferId) (s : InputSide) : Bool :=
  let header := (s.buffer b).header
  headerAccepted header && !header.nFlags.codecConfig && header.nFlags.eos &&
    (s.emptyThisBuffer codec submit b).2 = .none

/-- What `EmptyThisBuffer` gives the hardware. A fragment is a part of the frame before it. -/
def submittedPackets (codec : VideoCodec) (submit : SubmitResult) (b : BufferId) (s : InputSide) : List Packet :=
  (if s.tracksFrame codec b && s.takesFrame codec submit.frame b then [.frame (tickToPts (s.buffer b).header.nTimeStamp)]
    else []) ++
  if s.takesEos codec submit b then [.eos] else []

end InputSide

namespace VideoDecoder

/-! ### Buffers that the client gets -/

/-- The header of buffer `b` as the client gets it, with a frame or without. -/
def filledBuffer (data : Bool) (d : VideoDecoder) (b : BufferId) : FilledBuffer :=
  let header := (d.out.buffer b).header
  { buffer := b, eos := header.nFlags.eos, data, later := !d.inp.tracker.last header.nTimeStamp }

/-- `ReturnPortBuffers` on the output port: the buffers have no data. -/
def filledQueue (d : VideoDecoder) : List FilledBuffer := d.out.port.bufferQueue.map (d.filledBuffer false)

/-- The frame is pushed back to the tracker, and the port is to be reset. -/
def pushesBack (f : FrameBuffer) (d : VideoDecoder) : Bool :=
  !f.frameStatus.lastPicture && d.formatChanged f && d.portReset f

/-- The frame and the buffer once the header is prepared and the end of the stream is taken. -/
def examine (f : FrameBuffer) (b : BufferId) (d : VideoDecoder) : Option VideoDecoder :=
  let d := d.prepareHeader f b
  { d with out := d.out.alogAssert ((d.out.buffer b).pFrameBuffer = none) .bufferInfoUnlinked }.takeEos f b

/-- The buffer of one round of the delivery loop. -/
def roundFilled (f : FrameBuffer) (b : BufferId) (d : VideoDecoder) : List FilledBuffer :=
  match d.examine f b with
  | none => []
  | some d => if d.pushesBack f then [] else [d.filledBuffer (!f.frameStatus.lastPicture) b]

/-- The buffers of the delivery loop. -/
def deliverFilled (r : PollResult) : List FrameBuffer → VideoDecoder → List FilledBuffer
  | [], _ => []
  | f :: rest, d =>
    if d.out.eosDelivered ∨ ¬ (d.out.formatChangeState = .none ∨ d.out.formatChangeState = .processCallback) then []
    else
      match d.out.port.getBuffer with
      | none => []
      | some b =>
        let p := d.deliverRound r f b
        d.roundFilled f b ++ if p.2 then deliverFilled r rest p.1 else []

/-- The buffers of `PollDecodedFrames`. -/
def pollFilled (r : PollResult) (d : VideoDecoder) : List FilledBuffer :=
  if !d.out.hSimpleVideoDecoder then []
  else
    let d := { d with out := d.out.getDecodedFrames r.numFrames }
    if d.out.port.queueDepth > 0 then
      d.deliverFilled r (d.out.frameBufferAllocList.dropWhile fun f => !f.isReady)
    else []

/-- The buffers of `ReturnDecodedFrames`. -/
def returnFilled (r : PollResult) (d : VideoDecoder) : List FilledBuffer :=
  let p := d.out.returnDecodedFrames
  if p.2 then { d with out := p.1 }.pollFilled r else []

/-- The buffers of `SetOutputPortState`. -/
def setOutputFilled (newState : OmxState) (r : PollResult) (d : VideoDecoder) : List FilledBuffer :=
  match newState with
  | .loaded | .idle => d.filledQueue
  | _ => if d.out.hSimpleVideoDecoder && d.out.nexus.started then d.pollFilled r else []

/-- The buffers of `SetInputPortState`, which polls when it starts the decoder. -/
def setInputFilled (newState : OmxState) (n : StartResult) (r : PollResult) (d : VideoDecoder) : List FilledBuffer :=
  let d := if d.out.hSimpleVideoDecoder then d else d.acquire
  if newState = .executing && !d.out.nexus.started && n.decoder && n.playpump && d.out.port.isEnabled then
    { d with inp := d.inp.start, out := d.out.nexusStart }.pollFilled r
  else []

/-- The buffers of `CommandStateSet`, up to its end or the first wait. -/
def stateSetFilled (newState : OmxState) (n : StartResult) (r r' : PollResult) (d : VideoDecoder) : List FilledBuffer :=
  if !d.stateChangeAllowed newState then []
  else
    let d := { d with targetState := newState }
    match newState with
    | .idle => if d.currentState ≠ .loaded && d.out.port.isPopulated then d.filledQueue else []
    | .executing | .pause =>
      let output := d.out.port.isPopulated && d.out.port.isEnabled
      let polled := if output then d.setOutputPortState newState r else d
      (if output then d.setOutputFilled newState r else []) ++
        if (polled.out.hSimpleVideoDecoder || n.acquired) && polled.inp.port.isPopulated && polled.inp.port.isEnabled then
          polled.setInputFilled newState n r'
        else []
    | _ => []

/-- A waiting command that goes on gives back the buffers of the output port. -/
def resumeReturns (d : VideoDecoder) : Bool :=
  match d.portWait with
  | some .populate =>
    (!d.inp.port.isEnabled || d.inp.port.isPopulated) && (!d.out.port.isEnabled || d.out.port.isPopulated) &&
      d.out.port.isPopulated && d.out.port.isEnabled
  | some (.depopulateInput inputPortEnabled outputPortEnabled) =>
    (d.inp.port.isEmpty || !inputPortEnabled) && outputPortEnabled
  | _ => false

/-- The buffers of a waiting command that goes on. -/
def resumeFilled (d : VideoDecoder) : List FilledBuffer := if d.resumeReturns then d.filledQueue else []

/-- The buffers of a step, flushes apart. -/
def stepFilled (d : VideoDecoder) : VideoAction → List FilledBuffer
  | .outputFrameEvent r => d.pollFilled r
  | .fillThisBuffer r b grallocSource pHandle =>
    let p := (d.out.setBuffer b { d.out.buffer b with grallocSource, pHandle }).fillThisBuffer b
    if p.2 = .none then { d with out := p.1 }.returnFilled r else []
  | .freeOutputBuffer r b =>
    let p := d.out.freeBuffer b
    if p.2.2 then { d with out := p.1 }.returnFilled r else []
  | .showDisplay r =>
    match d.out.displayTaken with
    | none => []
    | some serialNumber =>
      let p := { d.out with displayTaken := none }.displayFrameLocked serialNumber
      if p.2 then { d with out := p.1 }.returnFilled r else []
  | .stateSet newState n r r' => d.stateSetFilled newState n r r'
  | .resume .. => d.resumeFilled
  | _ => []

/-! ### Flushes -/

/-- `CommandFlush` flushes the playpump. -/
def flushesInput (d : VideoDecoder) : Bool := d.inp.port.isEnabled && d.inp.port.isPopulated && d.inp.hPlaypump

/-- `CommandFlush` flushes the decoder. -/
def flushesOutput (d : VideoDecoder) : Bool :=
  d.out.port.isEnabled && d.out.port.isPopulated && d.out.hSimpleVideoDecoder

/-- `CommandFlush` on the input port, on the output port, or on both. -/
def commandFlush (input output stopped : Bool) (fifoPts : Option Nat) (r : PollResult) (d : VideoDecoder) :
    VideoDecoder :=
  let d := if input then d.flushInput stopped fifoPts else d
  if output then d.flushOutput r else d

/-- What the hardware keeps in a flush when the first `passed` packets have left the playpump. -/
def flushPackets (input output stopped : Bool) (passed : Nat) (packets : List Packet) (d : VideoDecoder) :
    List Packet :=
  let packets := if input && d.flushesInput && (d.inp.playpumpStarted || stopped) then packets.take passed else packets
  if output && d.flushesOutput then packets.drop passed else packets

end VideoDecoder

/-! ### The transition system -/

/-- A port command on the output port that waits for the port to lose or to get its buffers. -/
inductive OutputWait where
  | depopulate
  | populate
  deriving DecidableEq, Repr

/-- The decoder, the port command that waits, the packets that the hardware has, and the buffers that the client got
    since the output was last flushed or stopped, the oldest first. -/
structure StreamRun where
  decoder : VideoDecoder
  outputWait : Option OutputWait
  packets : List Packet
  filled : List FilledBuffer

inductive StreamAction where
  | decoder (a : VideoAction)
  | writeFlags (b : BufferId) (flags : BufferFlags)
  | flush (input output stopped : Bool) (fifoPts : Option Nat) (passed : Nat) (r : PollResult)
  | disableOutput (r : PollResult)
  | enableOutput
  | resumeOutput (timeout : Bool) (r : PollResult)

namespace StreamRun
open VideoDecoder

/-- Flushes are steps of their own, and the state changes only while both ports are enabled. -/
def takesStep (x : StreamRun) : VideoAction → Bool
  | .flushInput .. | .flushOutput .. => false
  | .stateSet .. => x.outputWait = none && x.decoder.inp.port.isEnabled && x.decoder.out.port.isEnabled
  | _ => true

/-- The packets that the hardware has after a step that does not stop it. -/
def stepPackets (x : StreamRun) : VideoAction → Option (List Packet)
  | .emptyThisBuffer submit b header =>
    let s := x.decoder.inp.setBuffer b { x.decoder.inp.buffer b with header }
    some (x.packets ++ s.submittedPackets x.decoder.codec submit b)
  | .decode frames => decodePackets x.packets frames
  | _ => some x.packets

/-- A stopped or released decoder holds no packets, and a stop ends what the client has got. -/
def next (x : StreamRun) (d : VideoDecoder) (packets : List Packet) (filled : List FilledBuffer) : StreamRun :=
  let stopped := x.decoder.out.nexus.started && !d.out.nexus.started
  let released := x.decoder.out.hSimpleVideoDecoder && !d.out.hSimpleVideoDecoder
  { x with
    decoder := d
    packets := if stopped || released then [] else packets
    filled := if stopped then [] else x.filled ++ filled }

/-- No command is waiting. -/
def idle (x : StreamRun) : Bool := x.decoder.portWait = none && x.outputWait = none

/-- One step; `none` when it is not possible. -/
def step (x : StreamRun) : StreamAction → Option StreamRun
  | .decoder a =>
    if x.takesStep a then
      (x.decoder.step a).bind fun d => (x.stepPackets a).map fun packets => x.next d packets (x.decoder.stepFilled a)
    else none
  | .writeFlags b flags =>
    -- the client has the buffers that are not queued
    if b ∈ x.decoder.out.port.bufferQueue then none
    else
      let info := x.decoder.out.buffer b
      let out := x.decoder.out.setBuffer b { info with header := { info.header with nFlags := flags } }
      some { x with decoder := { x.decoder with out } }
  | .flush input output stopped fifoPts passed r =>
    if x.idle then
      some { x with
        decoder := x.decoder.commandFlush input output stopped fifoPts r
        packets := x.decoder.flushPackets input output stopped passed x.packets
        filled := if output then [] else x.filled }
    else none
  | .disableOutput r =>
    if x.idle then
      if x.decoder.out.port.isDisabled then some x
      else if x.decoder.currentState = .loaded then
        some { x with decoder := { x.decoder with out := { x.decoder.out with port := x.decoder.out.port.disabled } } }
      else
        some { x with
          decoder := x.decoder.disableOutput r, outputWait := some .depopulate
          filled := x.filled ++ x.decoder.filledQueue }
    else none
  | .enableOutput =>
    if x.idle then
      if x.decoder.out.port.isEnabled then some x
      else
        some { x with
          decoder := { x.decoder with out := { x.decoder.out with port := x.decoder.out.port.reenabled true } }
          outputWait := if x.decoder.currentState = .loaded then none else some .populate }
    else none
  | .resumeOutput timeout r =>
    match x.outputWait with
    | none => none
    | some .depopulate =>
      if x.decoder.out.port.isEmpty then some { x with outputWait := none }
      else if timeout then
        some { x with
          decoder := { x.decoder with out := { x.decoder.out with port := x.decoder.out.port.reenabled true } }
          outputWait := none }
      else some x
    | some .populate =>
      if x.decoder.out.port.isPopulated then
        some { x with
          decoder := x.decoder.setOutputPortState x.decoder.currentState r, outputWait := none
          filled := x.filled ++ x.decoder.setOutputFilled x.decoder.currentState r }
      else if timeout then
        some { x with
          decoder := { x.decoder with out := { x.decoder.out with port := x.decoder.out.port.disabled } }
          outputWait := none }
      else some x

/-- The decoder as the constructor leaves it. -/
def init (codec : VideoCodec) (outputMode : OutputMode) (adaptivePlaybackEnabled : Bool)
    (inputDef outputDef : PortDefinition) : StreamRun :=
  { decoder := VideoDecoder.init codec outputMode adaptivePlaybackEnabled inputDef outputDef
    outputWait := none, packets := [], filled := [] }

end StreamRun
end BcmPlatform.Bomx
