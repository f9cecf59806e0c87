import BcmPlatform.Bomx.Input
import Mathlib.Logic.Function.Basic

/-! The input side of `BOMX_VideoEncoder`: the client's buffers are converted into image surfaces, which go to the encoder and
    come back, and the frame rates that the encoder knows. The component's thread calls `InputBufferProcess` for its event:
    the loop over the queue, and the end of the stream that is tried again behind it, each with its own answers of Nexus. -/

namespace BcmPlatform.Bomx

/-! ### Frame rates -/

/-- `NEXUS_VideoFrameRate`, as far as the encoder maps to it. -/
inductive NexusFrameRate where
  | unknown
  | e10
  | e12_5
  | e14_985
  | e15
  | e19_98
  | e20
  | e23_976
  | e24
  | e25
  | e29_97
  | e30
  | e50
  | e59_94
  | e60
  deriving DecidableEq, Repr

/-- `Q16_SCALE_FACTOR` -/
def q16ScaleFactor : Nat := 65536

/-- `MapOMXFrameRateToNexus`: the rates in Q16, cut to integers. -/
def mapOmxFrameRateToNexus (omxFR : Nat) : NexusFrameRate :=
  if omxFR = 1571291 then .e23_976
  else if omxFR = 24 * q16ScaleFactor then .e24
  else if omxFR = 25 * q16ScaleFactor then .e25
  else if omxFR = 1964113 then .e29_97
  else if omxFR = 30 * q16ScaleFactor then .e30
  else if omxFR = 50 * q16ScaleFactor then .e50
  else if omxFR = 3928227 then .e59_94
  else if omxFR = 60 * q16ScaleFactor then .e60
  else if omxFR = 982056 then .e14_985
  else if omxFR = 10 * q16ScaleFactor then .e10
  else if omxFR = 15 * q16ScaleFactor then .e15
  else if omxFR = 20 * q16ScaleFactor then .e20
  else if omxFR = 819200 then .e12_5
  else if omxFR = 1309409 then .e19_98
  else .unknown

/-- The check of `SetParameter(OMX_IndexParamPortDefinition)` on the frame rate; 0 stands for an unknown one. -/
def framerateAccepted (xFramerate : Nat) : Bool :=
  !(xFramerate ≠ 0 && (mapOmxFrameRateToNexus xFramerate = .unknown || xFramerate > 30 * q16ScaleFactor ||
    xFramerate < 10 * q16ScaleFactor))

/-! ### Surfaces -/

/-- Why a surface is pushed. -/
inductive ImageSource where
  | frame (b : BufferId)
  | dummy
  | eos
  deriving DecidableEq, Repr

/-- A call of `NEXUS_VideoImageInput_PushSurface`: the surface and the settings that the encoder makes. -/
structure ImagePush where
  source : ImageSource
  hSurface : Option Nat := none
  pts : Nat := 0
  ptsValid : Bool := false
  frameRate : NexusFrameRate := .unknown
  endOfStream : Bool := false
  deriving DecidableEq, Repr

/-- What the conversion and Nexus answer, after the pushes that were made before. -/
structure ImageInputAnswers where
  convert : List ImagePush → BufferHeader → Nat → Bool := fun _ _ _ => true
  pushSurface : List ImagePush → ImagePush → Bool := fun _ _ => true
  allocateInputBuffer : List ImagePush → Bool := fun _ => true
  extractNexusBuffer : List ImagePush → Nat → Bool := fun _ _ => true

inductive EncoderInputAssert where
  | freeListLen
  | pushedListLen
  | surfacePushed
  deriving DecidableEq, Repr

/-- The fields that the input side uses; surfaces are named by their handles. `pushed` are the successful pushes and
    `returned` the `EmptyBufferDone` calls. -/
structure EncoderInput where
  currentState : OmxState
  inPort : Port
  header : BufferId → BufferHeader
  pts : BufferId → Nat
  xFramerate : Nat
  hImageInput : Bool
  imageSurfaceFreeList : List Nat
  imageSurfacePushedList : List Nat
  nImageSurfaceFreeListLen : Nat
  nImageSurfacePushedListLen : Nat
  pushDummyFrame : Bool
  pushEos : Bool
  bufferTracker : BufferTracker
  inputBufferProcessEvent : Bool
  pushed : List ImagePush
  returned : List BufferId
  asserts : List EncoderInputAssert

namespace EncoderInput

def alogAssert (cond : Bool) (a : EncoderInputAssert) (s : EncoderInput) : EncoderInput :=
  if cond then s else { s with asserts := s.asserts ++ [a] }

/-- The encoder as the constructor leaves it; the default frame rate is 15. -/
def init (inputDef : PortDefinition) : EncoderInput :=
  { currentState := .loaded
    inPort := Port.init 0 inputDef
    header := fun _ => {}
    pts := fun _ => 0
    xFramerate := 15 * q16ScaleFactor
    hImageInput := false
    imageSurfaceFreeList := [], imageSurfacePushedList := []
    nImageSurfaceFreeListLen := 0, nImageSurfacePushedListLen := 0
    pushDummyFrame := true, pushEos := false, bufferTracker := [], inputBufferProcessEvent := false
    pushed := [], returned := [], asserts := [] }

def returnPortBuffer (b : BufferId) (s : EncoderInput) : EncoderInput :=
  { s with inPort := s.inPort.bufferComplete b, returned := s.returned ++ [b] }

/-- `surfSettings.frameRate` -/
def inputFrameRate (s : EncoderInput) : NexusFrameRate :=
  if mapOmxFrameRateToNexus s.xFramerate = .unknown then .e15 else mapOmxFrameRateToNexus s.xFramerate

/-- The first free surface goes to the pushed list, once the encoder has it. -/
def surfacePushed (push : ImagePush) (hSurface : Nat) (s : EncoderInput) : EncoderInput :=
  let s := { s with imageSurfaceFreeList := s.imageSurfaceFreeList.tail, pushed := s.pushed ++ [push] }
  let s := s.alogAssert (s.nImageSurfaceFreeListLen > 0) .freeListLen
  { s with
    nImageSurfaceFreeListLen := sub32 s.nImageSurfaceFreeListLen 1
    imageSurfacePushedList := s.imageSurfacePushedList ++ [hSurface]
    nImageSurfacePushedListLen := s.nImageSurfacePushedListLen + 1 }

/-! ### Pushing -/

def framePush (b : BufferId) (hSurface : Nat) (s : EncoderInput) : ImagePush :=
  { source := .frame b, hSurface := some hSurface, pts := s.pts b, ptsValid := true, frameRate := s.inputFrameRate }

def dummyPush (hSurface : Nat) (s : EncoderInput) : ImagePush :=
  { source := .dummy, hSurface := some hSurface, pts := 0, ptsValid := true, frameRate := s.inputFrameRate }

/-- The part of `BuildInputFrame` for a buffer with data. -/
def pushFrame (n : ImageInputAnswers) (b : BufferId) (s : EncoderInput) : EncoderInput × OmxError :=
  match s.imageSurfaceFreeList with
  | [] => (s, .insufficientResources)
  | hSurface :: _ =>
    if !n.convert s.pushed (s.header b) hSurface then (s, .undefined)
    else if !n.pushSurface s.pushed (s.framePush b hSurface) then (s, .undefined)
    else ({ s.surfacePushed (s.framePush b hSurface) hSurface with pushDummyFrame := false }, .none)

def buildDummyFrame (n : ImageInputAnswers) (s : EncoderInput) : EncoderInput × OmxError :=
  if !n.allocateInputBuffer s.pushed then (s, .insufficientResources)
  else
    match s.imageSurfaceFreeList with
    | [] => (s, .insufficientResources)
    | hSurface :: _ =>
      if !n.extractNexusBuffer s.pushed hSurface then (s, .undefined)
      else if !n.pushSurface s.pushed (s.dummyPush hSurface) then (s, .undefined)
      else (s.surfacePushed (s.dummyPush hSurface) hSurface, .none)

/-- `PushInputEosFrame`; the second result is false for an error. The end of the stream has no surface. -/
def pushInputEosFrame (n : ImageInputAnswers) (s : EncoderInput) : EncoderInput × Bool :=
  let p := if s.pushDummyFrame then s.buildDummyFrame n else (s, .none)
  if p.2 ≠ .none then (p.1, false)
  else
    let push : ImagePush := { source := .eos, endOfStream := true }
    if n.pushSurface p.1.pushed push then ({ p.1 with pushed := p.1.pushed ++ [push] }, true) else (p.1, false)

/-- The end-of-stream part of `BuildInputFrame`. -/
def handleEos (n : ImageInputAnswers) (b : BufferId) (s : EncoderInput) : EncoderInput :=
  if (s.header b).nFlags.eos then
    let p := s.pushInputEosFrame n
    if p.2 then p.1 else { p.1 with pushEos := true }
  else s

/-- `BOMX_VideoEncoder::BuildInputFrame` -/
def buildInputFrame (n : ImageInputAnswers) (b : BufferId) (s : EncoderInput) : EncoderInput × OmxError :=
  let p := if (s.header b).nFilledLen > 0 then s.pushFrame n b else (s, .none)
  if p.2 ≠ .none then p else ((p.1.handleEos n b).returnPortBuffer b, .none)

/-- The loop of `InputBufferProcess`, from `pBuffer` on, in at most `fuel` rounds. `GetNextBuffer` is asked for the
    buffer behind one that may have left the queue. -/
def inputBufferLoop (n : ImageInputAnswers) : Nat → Option BufferId → EncoderInput → Option EncoderInput
  | _, none, s => some s
  | 0, some _, _ => none
  | fuel + 1, some b, s =>
    let p := s.buildInputFrame n b
    if p.2 = .none then inputBufferLoop n fuel (p.1.inPort.getNextBuffer b) p.1 else some p.1

/-- The end of `InputBufferProcess`: an end of stream that could not be pushed is tried again. -/
def retryEos (n : ImageInputAnswers) (s : EncoderInput) : EncoderInput :=
  if s.pushEos then
    let p := s.pushInputEosFrame n
    if p.2 then { p.1 with pushEos := false } else p.1
  else s

/-- `InputBufferProcess`; a queue of `n` buffers takes at most `n` rounds. -/
def inputBufferProcess (n : ImageInputAnswers) (s : EncoderInput) : Option EncoderInput :=
  if s.currentState = .pause then some s
  else (inputBufferLoop n s.inPort.queueDepth s.inPort.getBuffer s).map (retryEos n)

/-! ### Surfaces that come back -/

/-- The loop of `ImageBufferProcess`. -/
def recycleSurfaces : List Nat → EncoderInput → EncoderInput
  | [], s => s
  | hFreeSurface :: rest, s =>
    match s.imageSurfacePushedList with
    | [] => s.alogAssert false .surfacePushed
    | hSurface :: pushedList =>
      let s := s.alogAssert (hFreeSurface = hSurface) .surfacePushed
      let s := { s with imageSurfacePushedList := pushedList }
      let s := s.alogAssert (s.nImageSurfacePushedListLen > 0) .pushedListLen
      recycleSurfaces rest { s with
        nImageSurfacePushedListLen := sub32 s.nImageSurfacePushedListLen 1
        imageSurfaceFreeList := s.imageSurfaceFreeList ++ [hSurface]
        nImageSurfaceFreeListLen := s.nImageSurfaceFreeListLen + 1 }

/-- `ImageBufferProcess`, for the surfaces that `NEXUS_VideoImageInput_RecycleSurface` gives back. -/
def imageBufferProcess (hFreeSurface : List Nat) (s : EncoderInput) : EncoderInput :=
  if !s.hImageInput then s
  else
    let s := s.recycleSurfaces hFreeSurface
    if s.inPort.queueDepth > 0 || s.pushEos then { s with inputBufferProcessEvent := true } else s

/-! ### Buffers and states -/

def emptyThisBuffer (b : BufferId) (header : BufferHeader) (s : EncoderInput) : EncoderInput × OmxError :=
  let s := { s with header := Function.update s.header b header }
  if !InputSide.headerAccepted header then (s, .badParameter)
  else
    let t := s.bufferTracker.add header
    let s := { s with bufferTracker := t.1, pts := Function.update s.pts b t.2 }
    match s.inPort.queueBuffer b with
    | .ok inPort => ({ s with inPort, inputBufferProcessEvent := true }, .none)
    | .error err => (s, err)

def addBuffer (b : BufferId) (componentAllocated : Bool) (s : EncoderInput) : EncoderInput :=
  if hnew : b ∈ s.inPort.bufferList then s
  else { s with inPort := (s.inPort.addBuffer b componentAllocated hnew).toOption.getD s.inPort }

def freeBuffer (b : BufferId) (s : EncoderInput) : EncoderInput :=
  { s with inPort := (s.inPort.removeBuffer b).toOption.getD s.inPort }

/-- `VIDEO_ENCODE_IMAGEINPUT_DEPTH` -/
def imageInputDepth : Nat := 5

/-- `StartEncoder`, for the surfaces that could be created. -/
def startEncoder (hSurfaces : List Nat) (s : EncoderInput) : EncoderInput :=
  let hSurfaces := hSurfaces.take imageInputDepth
  { s with
    pushEos := false, hImageInput := true
    imageSurfaceFreeList := s.imageSurfaceFreeList ++ hSurfaces
    nImageSurfaceFreeListLen := s.nImageSurfaceFreeListLen + hSurfaces.length }

def destroyImageSurfaces (s : EncoderInput) : EncoderInput :=
  { s with
    imageSurfaceFreeList := [], nImageSurfaceFreeListLen := 0
    imageSurfacePushedList := [], nImageSurfacePushedListLen := 0 }

/-- `StopEncoder`: all buffers go back. -/
def stopEncoder (s : EncoderInput) : EncoderInput :=
  let s := s.inPort.bufferQueue.foldl (fun s b => s.returnPortBuffer b) s
  { s with bufferTracker := [] }.destroyImageSurfaces

end EncoderInput

/-- What the client, the events and the hardware do on the input side. -/
inductive EncoderInputAction where
  | addBuffer (b : BufferId) (componentAllocated : Bool)
  | freeBuffer (b : BufferId)
  | emptyThisBuffer (b : BufferId) (header : BufferHeader)
  | setState (newState : OmxState)
  | setFramerate (xFramerate : Nat)
  | startEncoder (hSurfaces : List Nat)
  | stopEncoder
  | inputBufferProcess (n : ImageInputAnswers)
  | imageBufferProcess (hFreeSurface : List Nat)

namespace EncoderInput

/-- One step. The hardware gives back what was pushed, in that order. -/
def step (s : EncoderInput) : EncoderInputAction → Option EncoderInput
  | .addBuffer b componentAllocated => some (s.addBuffer b componentAllocated)
  | .freeBuffer b => some (s.freeBuffer b)
  | .emptyThisBuffer b header => some (s.emptyThisBuffer b header).1
  | .setState newState => some { s with currentState := newState }
  | .setFramerate xFramerate => some { s with xFramerate }
  | .startEncoder hSurfaces => some (s.startEncoder hSurfaces)
  | .stopEncoder => some s.stopEncoder
  | .inputBufferProcess n => s.inputBufferProcess n
  | .imageBufferProcess hFreeSurface =>
    if hFreeSurface <+: s.imageSurfacePushedList then some (s.imageBufferProcess hFreeSurface) else none

end EncoderInput
end BcmPlatform.Bomx

/-! ### The component's thread -/

namespace BcmPlatform.Bomx

/-- What a buffer has for the encoder. -/
def BufferHeader.sources (b : BufferId) (h : BufferHeader) : List ImageSource :=
  (if h.nFilledLen > 0 then [.frame b] else []) ++ (if h.nFlags.eos then [.eos] else [])

/-- `retrying` is set between the loop of `InputBufferProcess` and its end. The last two fields are about the time since
    `StartEncoder`: what was taken from the queue, and how many pushes there were before. -/
structure EncoderRun where
  encoder : EncoderInput
  simpleEncoderStarted : Bool := false
  retrying : Bool := false
  taken : List ImageSource := []
  pushedBefore : Nat := 0

inductive EncoderRunAction where
  | inputBufferLoop (n : ImageInputAnswers)
  | retryEos (n : ImageInputAnswers)
  | setState (newState : OmxState)
  | startEncoder (hSurfaces : List Nat)
  | stopEncoder
  | other (a : EncoderInputAction)

/-- The actions that leave the encoder started and do not push. -/
def EncoderInputAction.isOther : EncoderInputAction → Bool
  | .addBuffer .. | .freeBuffer .. | .emptyThisBuffer .. | .setFramerate .. | .imageBufferProcess .. => true
  | .setState .. | .startEncoder .. | .stopEncoder | .inputBufferProcess .. => false

namespace EncoderRun

/-- What was pushed since `StartEncoder`. -/
def pushes (r : EncoderRun) : List ImageSource := (r.encoder.pushed.drop r.pushedBefore).map (·.source)

/-- `InputBufferProcess` up to the end of its loop. -/
def inputBufferLoop (n : ImageInputAnswers) (r : EncoderRun) : Option EncoderRun :=
  let s := { r.encoder with inputBufferProcessEvent := false }
  if s.currentState = .pause then some { r with encoder := s }
  else
    (EncoderInput.inputBufferLoop n s.inPort.queueDepth s.inPort.getBuffer s).map fun s' =>
      { r with
        encoder := s', retrying := true
        taken := r.taken ++ (s'.returned.drop s.returned.length).flatMap fun b => (s.header b).sources b }

/-- A started encoder that is set to Executing goes on with its input. -/
def setState (newState : OmxState) (r : EncoderRun) : EncoderRun :=
  let s := { r.encoder with currentState := newState }
  if r.simpleEncoderStarted && newState = .executing then { r with encoder := { s with inputBufferProcessEvent := true } }
  else { r with encoder := s }

def startEncoder (hSurfaces : List Nat) (r : EncoderRun) : EncoderRun :=
  { encoder := r.encoder.startEncoder hSurfaces, simpleEncoderStarted := true, pushedBefore := r.encoder.pushed.length }

/-- One step; nothing comes between the two parts of `InputBufferProcess`. -/
def step (r : EncoderRun) : EncoderRunAction → Option EncoderRun
  | .retryEos n => if r.retrying then some { r with encoder := r.encoder.retryEos n, retrying := false } else none
  | .inputBufferLoop n => if r.retrying then none else r.inputBufferLoop n
  | .setState newState => if r.retrying then none else some (r.setState newState)
  | .startEncoder hSurfaces =>
    if r.retrying || r.simpleEncoderStarted then none else some (r.startEncoder hSurfaces)
  | .stopEncoder =>
    if r.retrying then none else some { r with encoder := r.encoder.stopEncoder, simpleEncoderStarted := false }
  | .other a =>
    if r.retrying || !a.isOther then none else (r.encoder.step a).map fun s => { r with encoder := s }

end EncoderRun
end BcmPlatform.Bomx
