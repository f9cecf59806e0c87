import BcmPlatform.Bomx.VideoDecoder

/-! The video decoder as a transition system. A step is one section under the component lock or the display mutex, or
    a step of the hardware, with the answers that Nexus gives in it. Any step can follow any other that its guard
    allows: the guards say only what the threads and the hardware cannot do. -/

namespace BcmPlatform.Bomx

inductive VideoAction where
  | allocateInputBuffer (b : BufferId) (nSizeBytes : Nat) (componentAllocated : Bool)
  | allocateOutputBuffer (b : BufferId) (nSizeBytes nativeHandle : Nat) (componentAllocated : Bool)
  | emptyThisBuffer (submit : InputSide.SubmitResult) (b : BufferId) (header : BufferHeader)
  | fillThisBuffer (r : PollResult) (b : BufferId) (grallocSource : Bool) (pHandle : Option Nat)
  | freeInputBuffer (b : BufferId)
  | freeOutputBuffer (r : PollResult) (b : BufferId)
  | playpumpEvent (fifoPts : Option Nat)
  | inputBufferTimeout
  | outputFrameEvent (r : PollResult)
  | notifyDisplay (frameId : Nat)
  | takeDisplay
  | showDisplay (r : PollResult)
  | flushInput (stopped : Bool) (fifoPts : Option Nat)
  | flushOutput (r : PollResult)
  | stateSet (newState : OmxState) (n : VideoDecoder.StartResult) (r r' : PollResult)
  | resume (timeout : Bool) (n : VideoDecoder.StartResult) (r : PollResult)
  | consume (n : Nat)
  | decode (frames : List FrameStatus)

/-- The serial numbers of frames rise from `n` on. -/
def serialsFrom (n : Nat) : List FrameStatus → Bool
  | [] => true
  | status :: rest => n ≤ status.serialNumber && serialsFrom (status.serialNumber + 1) rest

namespace VideoDecoder

/-- One step; `none` when it is not possible. Client calls name a buffer that the port has, a command is taken up
    when no other one is waiting, the display thread shows one frame after the other, a playpump that is not started
    consumes nothing and a decoder that is not started decodes nothing. -/
def step (d : VideoDecoder) : VideoAction → Option VideoDecoder
  | .allocateInputBuffer b nSizeBytes componentAllocated =>
    some { d with inp := (d.inp.addBuffer d.codec b nSizeBytes componentAllocated).1 }
  | .allocateOutputBuffer b nSizeBytes nativeHandle componentAllocated =>
    some { d with out := (d.out.addBuffer d.outputMode b nSizeBytes nativeHandle componentAllocated).1 }
  | .emptyThisBuffer submit b header =>
    if b ∈ d.inp.port.bufferList then some (d.emptyThisBuffer submit b header).1 else none
  | .fillThisBuffer r b grallocSource pHandle =>
    if b ∈ d.out.port.bufferList then some (d.fillThisBuffer r b grallocSource pHandle).1 else none
  | .freeInputBuffer b => some { d with inp := (d.inp.freeBuffer b).1 }
  | .freeOutputBuffer r b => some (d.freeOutputBuffer r b).1
  | .playpumpEvent fifoPts => some { d with inp := d.inp.playpumpEvent fifoPts }
  | .inputBufferTimeout => some { d with inp := d.inp.inputBufferTimeoutCallback }
  | .outputFrameEvent r => some (d.pollDecodedFrames r)
  | .notifyDisplay frameId => some { d with out := d.out.binderNotifyDisplay frameId }
  | .takeDisplay => if d.out.displayTaken = none then some { d with out := d.out.takeDisplayFrame } else none
  | .showDisplay r => some (d.displayFrameEvent r)
  | .flushInput stopped fifoPts => if d.portWait = none then some (d.flushInput stopped fifoPts) else none
  | .flushOutput r => if d.portWait = none then some (d.flushOutput r) else none
  | .stateSet newState n r r' => if d.portWait = none then some (d.commandStateSet newState n r r') else none
  | .resume timeout n r => some (d.resume timeout n r)
  | .consume n => if d.inp.playpumpStarted then some { d with inp := d.inp.consume n } else none
  | .decode frames =>
    if d.out.nexus.started && serialsFrom d.out.nexus.nextSerial frames then some { d with out := d.out.decode frames }
    else none

/-- The steps with their guards. -/
inductive Moves (d : VideoDecoder) : VideoAction → VideoDecoder → Prop where
  | allocateInputBuffer (b : BufferId) (nSizeBytes : Nat) (componentAllocated : Bool) :
    Moves d (.allocateInputBuffer b nSizeBytes componentAllocated)
      { d with inp := (d.inp.addBuffer d.codec b nSizeBytes componentAllocated).1 }
  | allocateOutputBuffer (b : BufferId) (nSizeBytes nativeHandle : Nat) (componentAllocated : Bool) :
    Moves d (.allocateOutputBuffer b nSizeBytes nativeHandle componentAllocated)
      { d with out := (d.out.addBuffer d.outputMode b nSizeBytes nativeHandle componentAllocated).1 }
  | emptyThisBuffer (submit : InputSide.SubmitResult) (b : BufferId) (header : BufferHeader)
      (hmem : b ∈ d.inp.port.bufferList) :
    Moves d (.emptyThisBuffer submit b header) (d.emptyThisBuffer submit b header).1
  | fillThisBuffer (r : PollResult) (b : BufferId) (grallocSource : Bool) (pHandle : Option Nat)
      (hmem : b ∈ d.out.port.bufferList) :
    Moves d (.fillThisBuffer r b grallocSource pHandle) (d.fillThisBuffer r b grallocSource pHandle).1
  | freeInputBuffer (b : BufferId) : Moves d (.freeInputBuffer b) { d with inp := (d.inp.freeBuffer b).1 }
  | freeOutputBuffer (r : PollResult) (b : BufferId) : Moves d (.freeOutputBuffer r b) (d.freeOutputBuffer r b).1
  | playpumpEvent (fifoPts : Option Nat) :
    Moves d (.playpumpEvent fifoPts) { d with inp := d.inp.playpumpEvent fifoPts }
  | inputBufferTimeout : Moves d .inputBufferTimeout { d with inp := d.inp.inputBufferTimeoutCallback }
  | outputFrameEvent (r : PollResult) : Moves d (.outputFrameEvent r) (d.pollDecodedFrames r)
  | notifyDisplay (frameId : Nat) : Moves d (.notifyDisplay frameId) { d with out := d.out.binderNotifyDisplay frameId }
  | takeDisplay (hnone : d.out.displayTaken = none) : Moves d .takeDisplay { d with out := d.out.takeDisplayFrame }
  | showDisplay (r : PollResult) : Moves d (.showDisplay r) (d.displayFrameEvent r)
  | flushInput (stopped : Bool) (fifoPts : Option Nat) (hwait : d.portWait = none) :
    Moves d (.flushInput stopped fifoPts) (d.flushInput stopped fifoPts)
  | flushOutput (r : PollResult) (hwait : d.portWait = none) : Moves d (.flushOutput r) (d.flushOutput r)
  | stateSet (newState : OmxState) (n : StartResult) (r r' : PollResult) (hwait : d.portWait = none) :
    Moves d (.stateSet newState n r r') (d.commandStateSet newState n r r')
  | resume (timeout : Bool) (n : StartResult) (r : PollResult) : Moves d (.resume timeout n r) (d.resume timeout n r)
  | consume (n : Nat) (hstarted : d.inp.playpumpStarted = true) :
    Moves d (.consume n) { d with inp := d.inp.consume n }
  | decode (frames : List FrameStatus) (hstarted : d.out.nexus.started = true)
      (hserials : serialsFrom d.out.nexus.nextSerial frames = true) :
    Moves d (.decode frames) { d with out := d.out.decode frames }

theorem moves_of_step {d d' : VideoDecoder} {a : VideoAction} (h : d.step a = some d') : Moves d a d' := by
  cases a with
  | emptyThisBuffer | fillThisBuffer | takeDisplay | flushInput | flushOutput | stateSet | consume =>
    simp only [step] at h
    split at h <;> cases h
    next hguard => constructor; exact hguard
  | decode frames =>
    simp only [step] at h
    split at h <;> cases h
    next hguard => exact .decode frames (Bool.and_eq_true_iff.mp hguard).1 (Bool.and_eq_true_iff.mp hguard).2
  | _ =>
    cases h
    constructor

/-- The decoder as the constructor leaves it. -/
def init (codec : VideoCodec) (outputMode : OutputMode) (adaptivePlaybackEnabled : Bool)
    (inputDef outputDef : PortDefinition) : VideoDecoder :=
  { codec, outputMode, adaptivePlaybackEnabled
    currentState := .loaded, targetState := .loaded, portWait := none
    inp := InputSide.init (Bomx.maxDescriptorsPerBuffer inputDef.nBufferSize) inputDef
    out :=
      { port := Port.init 1 outputDef
        buffer := fun _ => { header := { eDir := .output, nPortIndex := 1 }, type := outputMode }
        frameBufferAllocList := []
        frameBufferFreeList := (List.range maxDecodedFrames).map fun id =>
          { id, state := .invalid, frameStatus := { serialNumber := 0 }, pPrivateHandle := none, pBufferInfo := none }
        hSimpleVideoDecoder := false, nexus := {}
        formatChangeState := .none, formatChangeSerial := 0, lastReturnedSerial := 0
        outputWidth := outputDef.nFrameWidth, outputHeight := outputDef.nFrameHeight
        eosDelivered := false, eosReceived := false, displayFrameAvailable := false, frameSerial := 0
        displayTaken := none, outputFlushing := false, flushedFifo := [], asserts := [] } }

end VideoDecoder
end BcmPlatform.Bomx
