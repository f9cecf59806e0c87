import Mathlib.Logic.Function.Basic
import BcmPlatform.Bomx.AudioDecoder

/-! The output side of `BOMX_AudioDecoder` with the Nexus decoder it drives: the queue of memory blocks, the flag
    `nexusOwned` of each output buffer, and `m_decoderState`, the component's copy of the decoder's state. Commands
    are modelled up to the waits in which they give up the component lock. -/

namespace BcmPlatform.Bomx

/-- A memory block in the decoder's queue, with the number of the `QueueBuffer` call; the frame that is decoded into the
    block is known by that number. -/
structure QueuedBlock where
  ticket : Nat
  block : Nat
  deriving DecidableEq, Repr

/-- Calls that the component should not make. -/
inductive NexusFault where
  | stopSuspended
  | queueNotStarted
  deriving DecidableEq, Repr

/-- The Nexus audio decoder. -/
structure NexusAudio where
  state : AudioDecoderState := .stopped
  queue : List QueuedBlock := []
  nextTicket : Nat := 0
  faults : List NexusFault := []
  deriving DecidableEq, Repr

namespace NexusAudio

/-- `NEXUS_AudioDecoder_Start` -/
def start (n : NexusAudio) : NexusAudio := { n with state := .started }

/-- `NEXUS_AudioDecoder_Stop` -/
def stop (n : NexusAudio) : NexusAudio :=
  { n with state := .stopped, faults := if n.state = .suspended then n.faults ++ [.stopSuspended] else n.faults }

/-- `NEXUS_AudioDecoder_Suspend` -/
def suspend (n : NexusAudio) : NexusAudio := { n with state := .suspended }

/-- `NEXUS_AudioDecoder_Resume` -/
def resume (n : NexusAudio) : NexusAudio := { n with state := .started }

/-- `NEXUS_AudioDecoder_QueueBuffer` -/
def queueBuffer (block : Nat) (n : NexusAudio) : NexusAudio :=
  { n with
    queue := n.queue ++ [{ ticket := n.nextTicket, block }], nextTicket := n.nextTicket + 1
    faults := if n.state = .started then n.faults else n.faults ++ [.queueNotStarted] }

/-- `NEXUS_AudioDecoder_ConsumeDecodedFrames` -/
def consume (numFrames : Nat) (n : NexusAudio) : NexusAudio := { n with queue := n.queue.drop numFrames }

end NexusAudio

/-- What Nexus reports during a poll: the status of the first frames in its queue, or an error; whether none is left
    after they were delivered, and the progress of playpump and decoder then. -/
structure AudioReport where
  frames : Option (List AudioFrame) := some []
  drained : Bool := false
  consumed : Nat := 0
  fifoPts : Option Nat := none
  deriving DecidableEq, Repr

/-- What Nexus answers in a section of a command. In `RemoveOutputBuffers`, `getDecodedFrames` tells whether the call of
    that name succeeds, and `unreported` how many blocks at the end of the queue are missing in its report. -/
structure AudioAnswers where
  start : AudioDecoder.StartResult := {}
  accept : BufferId → Bool := fun _ => true
  getDecodedFrames : Bool := true
  unreported : Nat := 0
  report : AudioReport := {}

/-- A port command that waits for the port to get or lose its buffers. -/
inductive PortCommand where
  | enable (dir : OmxDir)
  | disable (dir : OmxDir)
  deriving DecidableEq, Repr

/-- `returned` lists the frames that went to the client, `asserts` the buffers for which `BufferComplete` was called
    outside the queue. -/
structure AudioOutput where
  d : AudioDecoder
  nexusOwned : BufferId → Bool
  hMemoryBlock : BufferId → Nat
  nexus : NexusAudio
  portCommand : Option PortCommand
  returned : List Nat
  asserts : List BufferId

namespace AudioOutput

/-- `ALOG_ASSERT(NULL != pNode)` in `BufferComplete` -/
def assertQueued (b : BufferId) (s : AudioOutput) : AudioOutput :=
  if b ∈ s.d.outPort.bufferQueue then s else { s with asserts := s.asserts ++ [b] }

def bufferComplete (b : BufferId) (s : AudioOutput) : AudioOutput :=
  { s.assertQueued b with d := { s.d with outPort := s.d.outPort.bufferComplete b } }

/-- `ReturnPortBuffers` on the output port. -/
def returnPortBuffers (s : AudioOutput) : AudioOutput := { s with d := s.d.returnOutputBuffers }

def setNexusOwned (b : BufferId) (owned : Bool) (s : AudioOutput) : AudioOutput :=
  { s with nexusOwned := Function.update s.nexusOwned b owned }

/-- `FindBuffer(FindBufferFromBlock, block)` -/
def findBuffer (block : Nat) (s : AudioOutput) : Option BufferId :=
  s.d.outPort.findBuffer fun b => s.hMemoryBlock b = block

/-! ### The decoder's queue -/

/-- A block that Nexus took. -/
def queueBlock (b : BufferId) (s : AudioOutput) : AudioOutput :=
  { s with nexus := s.nexus.queueBuffer (s.hMemoryBlock b) }.setNexusOwned b true

/-- The loop of `AddOutputBuffers`. -/
def addBlocks (accept : BufferId → Bool) : List BufferId → AudioOutput → AudioOutput
  | [], s => s
  | b :: rest, s =>
    if s.nexusOwned b then addBlocks accept rest s
    else if accept b then addBlocks accept rest (s.queueBlock b)
    else s

def addOutputBuffers (accept : BufferId → Bool) (s : AudioOutput) : AudioOutput :=
  s.addBlocks accept s.d.outPort.bufferQueue

/-- The buffer of a reported block is no longer in Nexus. -/
def clearOwned (s : AudioOutput) (q : QueuedBlock) : AudioOutput :=
  match s.findBuffer q.block with
  | some b => s.setNexusOwned b false
  | none => s

def removeOutputBuffers (a : AudioAnswers) (s : AudioOutput) : AudioOutput :=
  if !a.getDecodedFrames then s
  else
    let numFrames := min (s.nexus.queue.length - a.unreported) s.d.outPort.definition.nBufferCountActual
    let s := (s.nexus.queue.take numFrames).foldl clearOwned s
    { s with nexus := s.nexus.consume numFrames }

/-! ### Delivering frames -/

/-- The blocks that Nexus reports, with their frames and the buffers they belong to. -/
def reported (frames : List AudioFrame) (s : AudioOutput) : List (QueuedBlock × AudioFrame) :=
  ((s.nexus.queue.take s.d.outPort.definition.nBufferCountActual).zip frames).map fun p =>
    (p.1, { p.2 with buffer := s.findBuffer p.1.block })

/-- How the delivery loop ends. -/
inductive DeliverEnd where
  | all
  | formatChange
  | fatal
  deriving DecidableEq, Repr

/-- A frame goes to the client and leaves the decoder's queue. -/
def returnFrame (q : QueuedBlock) (f : AudioFrame) (b : BufferId) (ticks : Ticks) (s : AudioOutput) : AudioOutput :=
  { s.assertQueued b with
    d := s.d.deliverFrame f b ticks
    nexus := s.nexus.consume 1
    returned := s.returned ++ [q.ticket] }

/-- The loop of `PollDecodedFrames`. -/
def deliver : List (QueuedBlock × AudioFrame) → AudioOutput → AudioOutput × DeliverEnd
  | [], s => (s, .all)
  | (q, f) :: rest, s =>
    if f.sampleRate ≠ s.d.sampleRate ∧ 0 < f.filledBytes then
      ({ s with d := { s.d with formatChangePending := true, sampleRate := f.sampleRate } }, .formatChange)
    else
      match f.buffer with
      | none => deliver rest s
      | some b =>
        let p := s.d.takeTracked f.pts
        let s := s.setNexusOwned b false
        if p.2.2 then
          if p.1.inp.eosPending && !p.1.eosReady then
            deliver rest ({ s with d := { p.1 with eosReady := true } }.returnFrame q f b p.2.1)
          else ({ s with d := p.1 }, .fatal)
        else deliver rest ({ s with d := p.1 }.returnFrame q f b p.2.1)

/-- The end of the stream is delivered when it is the only thing left. -/
def endsStream (r : AudioReport) (s : AudioOutput) : Bool :=
  s.d.inp.eosPending && (s.d.eosStandalone || s.d.eosReady) && s.d.inp.port.queueDepth ≤ 1 &&
    0 < s.d.outPort.queueDepth && r.drained

/-- The end of the stream takes the first buffer in the queue, which is completed twice. -/
def deliverEos (r : AudioReport) (b : BufferId) (s : AudioOutput) : AudioOutput :=
  let s := s.bufferComplete b
  { s.assertQueued b with d := s.d.deliverEos { drained := r.drained, consumed := r.consumed, fifoPts := r.fifoPts } b }

def pollDecodedFrames (r : AudioReport) (s : AudioOutput) : AudioOutput :=
  if s.d.formatChangePending || s.d.eosDelivered then s
  else if s.d.outPort.queueDepth > 0 then
    match r.frames with
    | none => s
    | some frames =>
      let p := s.deliver (s.reported frames)
      if p.2 ≠ .all then p.1
      else if p.1.endsStream r then
        match p.1.d.outPort.getBuffer with
        | some b => p.1.deliverEos r b
        | none => p.1
      else p.1
  else s

/-! ### Buffers -/

/-- `FillThisBuffer`; `accepted` tells whether a started decoder takes the block. -/
def fillThisBuffer (accepted : Bool) (b : BufferId) (s : AudioOutput) : AudioOutput :=
  let s' := if s.d.decoderState = .started ∧ accepted then s.queueBlock b else s
  { s' with d := s.d.fillThisBuffer accepted b }

/-- `AddOutputPortBuffer`, with the memory block that is allocated for the buffer. -/
def addOutputBuffer (b : BufferId) (block : Nat) (s : AudioOutput) : AudioOutput :=
  let d := s.d.addOutputBuffer b false
  if b ∉ s.d.outPort.bufferList ∧ b ∈ d.outPort.bufferList then
    { s.setNexusOwned b false with d, hMemoryBlock := Function.update s.hMemoryBlock b block }
  else s

/-- `FreeBuffer` on the output port. -/
def freeOutputBuffer (b : BufferId) (s : AudioOutput) : AudioOutput :=
  { s with d := { s.d with outPort := (s.d.outPort.removeBuffer b).toOption.getD s.d.outPort } }

/-! ### The decoder's state -/

/-- `StartDecoder`; the second result is false for an error. -/
def startDecoder (n : AudioDecoder.StartResult) (s : AudioOutput) : AudioOutput × Bool :=
  let p := s.d.startDecoder n
  if s.d.decoderState ≠ .stopped ∨ !n.decoder then (s, false)
  else if !n.playpump then ({ s with d := p.1, nexus := s.nexus.start.stop }, false)
  else ({ s with d := p.1, nexus := s.nexus.start }, true)

def stopDecoder (s : AudioOutput) : AudioOutput :=
  if s.d.decoderState = .started then { s with d := s.d.stopDecoder, nexus := s.nexus.stop } else s

/-- A suspended decoder is resumed before it is stopped. -/
def resumeDecoder (s : AudioOutput) : AudioOutput :=
  if s.d.decoderState = .suspended then { s with d := s.d.resumeDecoder, nexus := s.nexus.resume } else s

/-- A started decoder is suspended. -/
def suspendDecoder (s : AudioOutput) : AudioOutput :=
  { s with d := { s.d with decoderState := .suspended }, nexus := s.nexus.suspend }

/-- The start in Executing state. Without an output port the decoder is suspended at once. -/
def startInput (a : AudioAnswers) (s : AudioOutput) : AudioOutput × Bool :=
  let p := s.startDecoder a.start
  if !p.2 then p
  else if p.1.d.outPort.isEnabled then ((p.1.addOutputBuffers a.accept).pollDecodedFrames a.report, true)
  else if !a.start.suspend then (p.1.stopDecoder, false)
  else (p.1.suspendDecoder, true)

/-- The branch that technically should not happen: the decoder is resumed, and `m_decoderState` stays as it is. -/
def resumeInput (a : AudioAnswers) (s : AudioOutput) : AudioOutput :=
  if s.d.outPort.isEnabled then
    ({ s with nexus := s.nexus.resume }.addOutputBuffers a.accept).pollDecodedFrames a.report
  else s

/-- `SetInputPortState`; the second result is false for an error. -/
def setInputPortState (newState : OmxState) (a : AudioAnswers) (s : AudioOutput) : AudioOutput × Bool :=
  if newState = .loaded then
    if s.d.inp.hPlaypump then
      let s := s.resumeDecoder.stopDecoder
      ({ s with d := { s.d with inp := s.d.inp.closePlaypump } }, true)
    else (s, true)
  else if !s.d.inp.hPlaypump && !a.start.acquired then (s, false)
  else
    let s := if s.d.inp.hPlaypump then s else { s with d := { s.d with inp := s.d.inp.openPlaypump } }
    match newState with
    | .idle =>
      (if s.d.decoderState = .stopped then s else s.resumeDecoder.stopDecoder.removeOutputBuffers a, true)
    | .executing =>
      match s.d.decoderState with
      | .stopped => s.startInput a
      | .suspended => (s.resumeInput a, true)
      | .started => (s, false)
    | .pause => (s, true)
    | _ => (s, false)

/-- The part of `SetOutputPortState` that takes the buffers back. -/
def releaseOutput (a : AudioAnswers) (s : AudioOutput) : AudioOutput × Bool :=
  if s.d.decoderState = .started ∧ !a.start.suspend then (s, false)
  else
    let s := if s.d.decoderState = .started then s.suspendDecoder else s
    ((s.removeOutputBuffers a).returnPortBuffers, true)

/-- `SetOutputPortState`; the second result is false for an error. -/
def setOutputPortState (newState : OmxState) (a : AudioAnswers) (s : AudioOutput) : AudioOutput × Bool :=
  match newState with
  | .loaded => { s with d := { s.d with formatChangePending := false } }.releaseOutput a
  | .idle => s.releaseOutput a
  | _ =>
    match s.d.decoderState with
    | .started => (s, false)
    | .suspended => (s.resumeDecoder.addOutputBuffers a.accept, true)
    | .stopped => (s, true)

/-! ### Commands -/

/-- `CommandFlush` on the input port. -/
def flushInput (a a' : AudioAnswers) (s : AudioOutput) : AudioOutput :=
  let s := (s.setInputPortState .idle a).1
  let s := (s.setInputPortState s.d.currentState a').1
  { s with d := { s.d with inp := { s.d.inp with configBufferState := .flushed }.returnPortBuffers } }

/-- `CommandFlush` on the output port. -/
def flushOutput (a a' : AudioAnswers) (s : AudioOutput) : AudioOutput :=
  let s :=
    if s.d.outPort.isEnabled && s.d.outPort.isPopulated then
      ((s.setOutputPortState .idle a).1.setOutputPortState s.d.currentState a').1
    else s
  s.returnPortBuffers

/-- The end of a state change. -/
def endStateChange (ok : Bool) (s : AudioOutput) : AudioOutput := { s with d := s.d.endStateChange ok }

/-- `CommandPortDisable` on the enabled input port in a state other than Loaded, up to the wait. -/
def disableInput (a : AudioAnswers) (s : AudioOutput) : AudioOutput :=
  let s := ({ s with d := { s.d with inp := { s.d.inp with port := s.d.inp.port.disabled } } }.setInputPortState .loaded a).1
  { s with d := { s.d with inp := s.d.inp.returnPortBuffers } }

/-- `CommandPortDisable` on the enabled output port in a state other than Loaded, up to the wait. -/
def disableOutput (a : AudioAnswers) (s : AudioOutput) : AudioOutput :=
  ({ s with d := { s.d with outPort := s.d.outPort.disabled } }.setOutputPortState .loaded a).1.returnPortBuffers

/-- `CommandPortDisable`, up to the wait. -/
def commandPortDisable (dir : OmxDir) (a : AudioAnswers) (s : AudioOutput) : AudioOutput :=
  match dir with
  | .input =>
    if s.d.inp.port.isDisabled then s
    else if s.d.currentState = .loaded then
      { s with d := { s.d with inp := { s.d.inp with port := s.d.inp.port.disabled } } }
    else { s.disableInput a with portCommand := some (.disable .input) }
  | .output =>
    if s.d.outPort.isDisabled then s
    else if s.d.currentState = .loaded then { s with d := { s.d with outPort := s.d.outPort.disabled } }
    else { s.disableOutput a with portCommand := some (.disable .output) }

/-- `CommandPortEnable`, up to the wait. -/
def commandPortEnable (dir : OmxDir) (s : AudioOutput) : AudioOutput :=
  let wait := if s.d.currentState = .loaded then s.portCommand else some (.enable dir)
  match dir with
  | .input =>
    if s.d.inp.port.isEnabled then s
    else { s with d := { s.d with inp := { s.d.inp with port := s.d.inp.port.reenabled true } }, portCommand := wait }
  | .output =>
    if s.d.outPort.isEnabled then s
    else { s with d := { s.d with outPort := s.d.outPort.reenabled true }, portCommand := wait }

/-- A port command goes on: the port is as it needs it, or it gives up after a timeout. -/
def resumePortCommand (timeout : Bool) (a a' : AudioAnswers) (s : AudioOutput) : AudioOutput :=
  match s.portCommand with
  | none => s
  | some (.enable .input) =>
    if s.d.inp.port.isPopulated then
      let p := { s with portCommand := none }.setInputPortState s.d.currentState a
      if p.2 then p.1 else p.1.commandPortDisable .input a'
    else if timeout then
      { s with d := { s.d with inp := { s.d.inp with port := s.d.inp.port.disabled } }, portCommand := none }
    else s
  | some (.enable .output) =>
    if s.d.outPort.isPopulated then
      let p := { s with portCommand := none }.setOutputPortState s.d.currentState a
      if p.2 then p.1 else p.1.commandPortDisable .output a'
    else if timeout then { s with d := { s.d with outPort := s.d.outPort.disabled }, portCommand := none }
    else s
  | some (.disable .input) =>
    if s.d.inp.port.isEmpty then { s with portCommand := none }
    else if timeout then
      { s with d := { s.d with inp := { s.d.inp with port := s.d.inp.port.reenabled true } }, portCommand := none }
    else s
  | some (.disable .output) =>
    if s.d.outPort.isEmpty then { s with portCommand := none }
    else if timeout then { s with d := { s.d with outPort := s.d.outPort.reenabled true }, portCommand := none }
    else s

/-- To Executing or Pause: the output port first, then the input port. -/
def setRunning (newState : OmxState) (a a' : AudioAnswers) (s : AudioOutput) : AudioOutput :=
  let p := if s.d.outPort.isPopulated && s.d.outPort.isEnabled then s.setOutputPortState newState a else (s, true)
  if !p.2 then p.1.endStateChange false
  else if p.1.d.inp.port.isPopulated && p.1.d.inp.port.isEnabled then
    let q := p.1.setInputPortState newState a'
    q.1.endStateChange q.2
  else p.1.endStateChange true

/-- From Executing or Pause to Idle. Its errors are ignored. -/
def setIdle (a a' : AudioAnswers) (s : AudioOutput) : AudioOutput :=
  let s := { s with d := { s.d with inp := s.d.inp.configBufferInit } }
  let s := if s.d.inp.port.isPopulated then (s.setInputPortState .idle a).1 else s
  let s := if s.d.outPort.isPopulated then (s.setOutputPortState .idle a').1 else s
  s.endStateChange true

/-- `CommandStateSet(OMX_StateLoaded)`, up to the first wait. -/
def setLoaded (a : AudioAnswers) (s : AudioOutput) : AudioOutput :=
  let inputPortEnabled := s.d.inp.port.isEnabled
  let outputPortEnabled := s.d.outPort.isEnabled
  let s := if inputPortEnabled then s.disableInput a else s
  { s with d := { s.d with portWait := some (.depopulateInput inputPortEnabled outputPortEnabled) } }

/-- `CommandStateSet`, up to the end or the first wait. -/
def commandStateSet (newState : OmxState) (a a' : AudioAnswers) (s : AudioOutput) : AudioOutput :=
  if !stateChangeStart s.d.currentState s.d.targetState newState then s
  else
    let s := { s with d := { s.d with targetState := newState } }
    match newState with
    | .loaded => s.setLoaded a
    | .idle =>
      if s.d.currentState = .loaded then
        { s with d := { s.d with inp := s.d.inp.configBufferInit, portWait := some .populate } }
      else s.setIdle a a'
    | .executing | .pause => s.setRunning newState a a'
    | _ => s.endStateChange false

/-- The end of the state change from Loaded to Idle, once the ports are populated. -/
def setIdleFromLoaded (a a' : AudioAnswers) (s : AudioOutput) : AudioOutput :=
  let inputEnabled := s.d.inp.port.isEnabled
  let outputEnabled := s.d.outPort.isEnabled
  let p := if s.d.outPort.isPopulated && s.d.outPort.isEnabled then s.setOutputPortState .idle a else (s, true)
  if !p.2 then { p.1 with d := p.1.d.abandonIdle inputEnabled outputEnabled }
  else if p.1.d.inp.port.isPopulated && p.1.d.inp.port.isEnabled then
    let q := p.1.setInputPortState .idle a'
    if q.2 then q.1.endStateChange true else { q.1 with d := q.1.d.abandonIdle inputEnabled outputEnabled }
  else p.1.endStateChange true

/-- A waiting state change goes on. -/
def resumeStateSet (timeout : Bool) (a a' : AudioAnswers) (s : AudioOutput) : AudioOutput :=
  match s.d.portWait with
  | none => s
  | some .populate =>
    if (!s.d.inp.port.isEnabled || s.d.inp.port.isPopulated) && (!s.d.outPort.isEnabled || s.d.outPort.isPopulated) then
      s.setIdleFromLoaded a a'
    else if timeout then s.endStateChange false else s
  | some (.depopulateInput inputPortEnabled outputPortEnabled) =>
    if s.d.inp.port.isEmpty || !inputPortEnabled then
      let s := if outputPortEnabled then s.disableOutput a else s
      { s with d := { s.d with portWait := some (.depopulateOutput inputPortEnabled outputPortEnabled) } }
    else if timeout then
      { s with d := { s.d with inp := { s.d.inp with port := s.d.inp.port.reenabled true } } }.endStateChange false
    else s
  | some (.depopulateOutput inputPortEnabled outputPortEnabled) =>
    if s.d.outPort.isEmpty || !outputPortEnabled then
      { s with d := { s.d with
          inp := { s.d.inp with port := s.d.inp.port.reenabled inputPortEnabled }
          outPort := s.d.outPort.reenabled outputPortEnabled } }.endStateChange true
    else if timeout then { s with d := { s.d with outPort := s.d.outPort.reenabled true } }.endStateChange false
    else s

end AudioOutput

/-- One section under the component lock, or a step of the hardware, with what Nexus answers in it. The steps of the input
    side are those of `AudioDecoder`. -/
inductive AudioOutputAction where
  | input (action : AudioAction)
  | allocateOutputBuffer (b : BufferId) (block : Nat)
  | fillThisBuffer (accepted : Bool) (b : BufferId)
  | freeOutputBuffer (b : BufferId)
  | outputFrameEvent (r : AudioReport)
  | addOutputBuffers (accept : BufferId → Bool)
  | removeOutputBuffers (a : AudioAnswers)
  | setInputPortState (newState : OmxState) (a : AudioAnswers)
  | setOutputPortState (newState : OmxState) (a : AudioAnswers)
  | flushInput (a a' : AudioAnswers)
  | flushOutput (a a' : AudioAnswers)
  | portEnable (dir : OmxDir)
  | portDisable (dir : OmxDir) (a : AudioAnswers)
  | stateSet (newState : OmxState) (a a' : AudioAnswers)
  | resumePortCommand (timeout : Bool) (a a' : AudioAnswers)
  | resumeStateSet (timeout : Bool) (a a' : AudioAnswers)

/-- The actions of the input side. -/
def AudioAction.isInput : AudioAction → Bool
  | .allocateInputBuffer .. | .emptyThisBuffer .. | .freeInputBuffer .. | .playpumpEvent .. | .inputBufferTimeout ..
  | .consume .. => true
  | _ => false

namespace AudioOutput

/-- No command is under way. -/
def commandReady (s : AudioOutput) : Bool := s.d.portWait = none && s.portCommand = none

/-- One step; `none` when it is not possible. A new buffer has a memory block of its own. -/
def step (s : AudioOutput) : AudioOutputAction → Option AudioOutput
  | .input action => if action.isInput then (s.d.step action).map fun d => { s with d } else none
  | .allocateOutputBuffer b block =>
    if (∀ q ∈ s.nexus.queue, q.block ≠ block) ∧ ∀ c ∈ s.d.outPort.bufferList, s.hMemoryBlock c ≠ block then
      some (s.addOutputBuffer b block)
    else none
  | .fillThisBuffer accepted b => if b ∈ s.d.outPort.bufferList then some (s.fillThisBuffer accepted b) else none
  | .freeOutputBuffer b => some (s.freeOutputBuffer b)
  | .outputFrameEvent r => some (s.pollDecodedFrames r)
  | .addOutputBuffers accept => some (s.addOutputBuffers accept)
  | .removeOutputBuffers a => some (s.removeOutputBuffers a)
  | .setInputPortState newState a => some (s.setInputPortState newState a).1
  | .setOutputPortState newState a => some (s.setOutputPortState newState a).1
  | .flushInput a a' => if s.commandReady then some (s.flushInput a a') else none
  | .flushOutput a a' => if s.commandReady then some (s.flushOutput a a') else none
  | .portEnable dir => if s.commandReady then some (s.commandPortEnable dir) else none
  | .portDisable dir a => if s.commandReady then some (s.commandPortDisable dir a) else none
  | .stateSet newState a a' => if s.commandReady then some (s.commandStateSet newState a a') else none
  | .resumePortCommand timeout a a' => some (s.resumePortCommand timeout a a')
  | .resumeStateSet timeout a a' => some (s.resumeStateSet timeout a a')

/-- The decoder as the constructor leaves it. -/
def init (codec : AudioCodec) (mp4ff : Bool) (inputDef outputDef : PortDefinition) : AudioOutput :=
  { d := AudioDecoder.init codec mp4ff inputDef outputDef
    nexusOwned := fun _ => false, hMemoryBlock := fun _ => 0, nexus := {}, portCommand := none
    returned := [], asserts := [] }

end AudioOutput
end BcmPlatform.Bomx
