import BcmPlatform.Bomx.Pes
import BcmPlatform.Bomx.Port
import BcmPlatform.Bomx.Tracker
import Mathlib.Logic.Function.Basic

/-! The input side of a decoder component: the input port with its buffers, the sizes of these, the playpump with its
    descriptor FIFO, and the counters that the component keeps of both. The audio decoder has the same input side as the video
    decoder and shares most of these functions. Assertions are compiled out of release builds, so a function goes on after a
    failed one; the failure is recorded in `asserts`. -/

namespace BcmPlatform.Bomx

/-- `B_DATA_BUFFER_SIZE_DEFAULT` -/
@[simp] def dataBufferSizeDefault : Nat := 1536 * 1536

/-- `B_DATA_BUFFER_SIZE_HIGHRES` -/
@[simp] def dataBufferSizeHighres : Nat := 3 * 1024 * 1024

/-- `B_NUM_BUFFERS` -/
@[simp] def numInputBuffers : Nat := 12

/-- `BOMX_BCMV_HEADER_SIZE` -/
@[simp] def bcmvHeaderSize : Nat := 10

/-- `B_MAX_DESCRIPTORS_PER_BUFFER(buffer_size)` -/
def maxDescriptorsPerBuffer (bufferSize : Nat) : Nat :=
  4 + 1 + 2 * (bufferSize / (maxPesPacketLength - (pesHeaderLengthWithoutPts - pesHeaderStartBytes)))

/-- The size of the codec header that precedes each frame. -/
def codecHeaderSize (codec : VideoCodec) : Nat := if codec.needsBcmvHeader then bcmvHeaderSize else 0

/-- The header space that `AddInputPortBuffer` allocates with a buffer. -/
def headerBufferSize (codec : VideoCodec) (maxDescriptors : Nat) : Nat :=
  pesHeaderLengthWithPts + codecHeaderSize codec + pesHeaderLengthWithoutPts * ((maxDescriptors - 4) / 2)

/-- `VerifyInputPortBuffers`: the port with its adjusted definition, and `m_maxDescriptorsPerBuffer`. -/
def verifyInputPortBuffers (p : Port) : Except OmxError (Port × Nat) :=
  let portDef := p.definition
  let newBufferCount := dataBufferSizeHighres * numInputBuffers / portDef.nBufferSize
  if portDef.nBufferSize > dataBufferSizeHighres ∧ newBufferCount < 2 then .error .insufficientResources
  else
    let portDef :=
      if portDef.nBufferSize > dataBufferSizeHighres then { portDef with nBufferCountActual := newBufferCount }
      else portDef
    let portDef :=
      if portDef.nBufferSize < dataBufferSizeDefault then { portDef with nBufferSize := dataBufferSizeDefault }
      else portDef
    .ok (p.setDefinition portDef, maxDescriptorsPerBuffer portDef.nBufferSize)

end BcmPlatform.Bomx

/-! ### The input side -/

namespace BcmPlatform.Bomx
open Lib

/-- The assertions about the input counters. -/
inductive InputAssert where
  | submittedCoversBuffer
  | noneSubmittedAfterFlush
  | bufferAvailable
  | availableWithinTotal
  deriving DecidableEq, Repr

/-- An input buffer: its header and the component's `BOMX_VideoDecoderInputBufferInfo`. -/
structure InputBuffer where
  header : BufferHeader
  pHeader : Memory UInt8
  maxHeaderLen : Nat
  headerLen : Nat
  pts : Nat
  numDescriptors : Nat
  complete : Bool

/-- The input side. `descFifo` holds the descriptors that the playpump has not consumed, each by the buffer it
    belongs to; `returned` is the sequence of `EmptyBufferDone` calls. -/
structure InputSide where
  port : Port
  buffer : BufferId → InputBuffer
  maxDescriptorsPerBuffer : Nat
  hPlaypump : Bool
  playpumpStarted : Bool
  descFifo : List BufferId
  submittedDescriptors : Nat
  availInputBuffers : Nat
  configBuffer : List UInt8
  configBufferState : ConfigBufferState
  ptsReceived : Bool
  eosPending : Bool
  inputFlushing : Bool
  tracker : BufferTracker
  returned : List BufferId
  asserts : List InputAssert

namespace InputSide

def alogAssert (cond : Bool) (a : InputAssert) (s : InputSide) : InputSide :=
  if cond then s else { s with asserts := s.asserts ++ [a] }

def setBuffer (b : BufferId) (info : InputBuffer) (s : InputSide) : InputSide :=
  { s with buffer := Function.update s.buffer b info }

/-- The input side as the constructor leaves it. -/
def init (maxDescriptorsPerBuffer : Nat) (inputDef : PortDefinition) : InputSide :=
  { port := Port.init 0 inputDef
    buffer := fun _ =>
      { header := {}, pHeader := fun _ => 0, maxHeaderLen := 0, headerLen := 0, pts := 0, numDescriptors := 0,
        complete := false }
    maxDescriptorsPerBuffer, hPlaypump := false, playpumpStarted := false, descFifo := [], submittedDescriptors := 0
    availInputBuffers := 0, configBuffer := [], configBufferState := .accumulating, ptsReceived := false
    eosPending := false, inputFlushing := false, tracker := [], returned := [], asserts := [] }

/-! ### Counting the available buffers -/

def inputBufferNew (s : InputSide) : InputSide :=
  let s := s.alogAssert (s.availInputBuffers > 0) .bufferAvailable
  { s with availInputBuffers := sub32 s.availInputBuffers 1 }

def inputBufferReturned (s : InputSide) : InputSide :=
  let s := { s with availInputBuffers := add32 s.availInputBuffers 1 }
  s.alogAssert (s.availInputBuffers ≤ s.port.definition.nBufferCountActual) .availableWithinTotal

def inputBufferCounterReset (s : InputSide) : InputSide :=
  { s with availInputBuffers := s.port.definition.nBufferCountActual }

/-! ### Returning buffers -/

def returnPortBuffer (s : InputSide) (b : BufferId) : InputSide :=
  { s with port := s.port.bufferComplete b, returned := s.returned ++ [b] }

/-- `ReturnPortBuffers`: the head of the queue, as long as there is one. -/
def returnPortBuffers (s : InputSide) : InputSide := s.port.bufferQueue.foldl returnPortBuffer s

def returnInputPortBuffer (s : InputSide) (b : BufferId) : InputSide :=
  (s.returnPortBuffer b).inputBufferReturned

/-- `InputReturnMode` -/
inductive ReturnMode where
  | timestamp
  | timeout
  | all
  deriving DecidableEq, Repr

/-- The last buffer that `ReturnInputBuffers` returns: a scan of the queue up to the first buffer that is not
    complete. By time stamp, it is the first buffer or the first further one with that time stamp; on a timeout
    at most two buffers are returned. -/
def findReturnBuffer (buffer : BufferId → InputBuffer) (decodeTs : Ticks) (mode : ReturnMode) :
    List BufferId → Option BufferId → Nat → Option BufferId
  | [], pReturnBuffer, _ => pReturnBuffer
  | b :: rest, pReturnBuffer, timeoutCount =>
    if !(buffer b).complete then pReturnBuffer
    else if mode ≠ .timestamp ∨ pReturnBuffer = none then
      if mode = .timeout ∧ timeoutCount ≥ 2 then pReturnBuffer
      else findReturnBuffer buffer decodeTs mode rest (some b) (timeoutCount + 1)
    else if (buffer b).header.nTimeStamp = decodeTs then some b
    else findReturnBuffer buffer decodeTs mode rest pReturnBuffer timeoutCount

/-- Returns the buffers of a queue from its head up to `pReturnBuffer`. -/
def returnUpTo (pReturnBuffer : BufferId) : List BufferId → InputSide → InputSide
  | [], s => s
  | b :: rest, s =>
    if b = pReturnBuffer then s.returnInputPortBuffer b
    else returnUpTo pReturnBuffer rest (s.returnInputPortBuffer b)

def returnInputBuffers (decodeTs : Ticks) (mode : ReturnMode) (s : InputSide) : InputSide :=
  match findReturnBuffer s.buffer decodeTs mode s.port.bufferQueue none 0 with
  | none => s
  | some b => returnUpTo b s.port.bufferQueue s

def inputBufferTimeoutCallback (s : InputSide) : InputSide := s.returnInputBuffers 0 .timeout

/-! ### The playpump -/

/-- The loop of `PlaypumpEvent` over the queue. -/
def markComplete (pFifoHead : Option BufferId) : List BufferId → Nat → InputSide → InputSide
  | [], _, s => s
  | b :: rest, numComplete, s =>
    if some b = pFifoHead then s
    else if (s.buffer b).complete then markComplete pFifoHead rest numComplete s
    else if numComplete ≥ (s.buffer b).numDescriptors then
      let n := (s.buffer b).numDescriptors
      let s := s.alogAssert (s.submittedDescriptors ≥ n) .submittedCoversBuffer
      let s := { s with submittedDescriptors := sub32 s.submittedDescriptors n }
      markComplete pFifoHead rest (numComplete - n) (s.setBuffer b { s.buffer b with complete := true })
    else s

/-- What `PlaypumpEvent` does with a started playpump, once the buffer at the head of the decoder's FIFO is
    known. -/
def completeConsumed (pFifoHead : Option BufferId) (s : InputSide) : InputSide :=
  markComplete pFifoHead s.port.bufferQueue (sub32 s.submittedDescriptors s.descFifo.length) s

/-- The first buffer of the port with this PTS. -/
def findBufferFromPts (pts : Nat) (s : InputSide) : Option BufferId := 
  s.port.findBuffer fun b => (s.buffer b).pts = pts

/-- `BOMX_VideoDecoder::PlaypumpEvent`; `fifoPts` is the least recent PTS in the decoder's FIFO, if it is valid. -/
def playpumpEvent (fifoPts : Option Nat) (s : InputSide) : InputSide :=
  if s.hPlaypump && s.playpumpStarted then
    s.completeConsumed (if s.inputFlushing then none else fifoPts.bind s.findBufferFromPts)
  else s

/-- The playpump consumes `n` descriptors. -/
def consume (n : Nat) (s : InputSide) : InputSide := { s with descFifo := s.descFifo.drop n }

/-- `NEXUS_Playpump_SubmitScatterGatherDescriptor` with `n` descriptors of buffer `b` and the counting that follows
    it. It fails without a playpump, or when the playpump does not accept the descriptors. -/
def submit (accepted : Bool) (b : BufferId) (n : Nat) (s : InputSide) : Option InputSide :=
  if s.hPlaypump && accepted then
    let info := s.buffer b
    some { s with
      descFifo := s.descFifo ++ List.replicate n b
      buffer := Function.update s.buffer b { info with numDescriptors := info.numDescriptors + n }
      submittedDescriptors := s.submittedDescriptors + n }
  else none

/-! ### Codec config -/

/-- `ConfigBufferInit`, once the config buffer is allocated. -/
def configBufferInit (s : InputSide) : InputSide := { s with configBuffer := [], configBufferState := .accumulating }

/-- `ConfigBufferAppend`, for a config buffer of `size` bytes. -/
def configBufferAppend (size : Nat) (data : List UInt8) (s : InputSide) : InputSide × OmxError :=
  if s.configBuffer.length + data.length > size then (s, .overflow)
  else ({ s with configBuffer := s.configBuffer ++ data }, .none)

/-! ### Accepting a buffer -/

/-- Counts and queues a buffer. -/
def queueInputBuffer (b : BufferId) (s : InputSide) : InputSide × OmxError :=
  let s := s.inputBufferNew
  match s.port.queueBuffer b with
  | .ok port => ({ s with port }, .none)
  | .error err => (s, err)

/-- The checks on the header: an input buffer of this port whose data lies inside the buffer. -/
def headerAccepted (h : BufferHeader) : Bool :=
  h.eDir = .input && add32 h.nFilledLen h.nOffset ≤ h.nAllocLen && h.nPortIndex = 0

/-- Config data is cached and sent with the next frame. Its buffer is queued without descriptors. -/
def emptyConfig (size : Nat) (b : BufferId) (s : InputSide) : InputSide × OmxError :=
  let s := if s.configBufferState ≠ .accumulating then s.configBufferInit else s
  let p := s.configBufferAppend size (s.buffer b).header.payload
  if p.2 = .none then p.1.queueInputBuffer b else p

/-- The BCMV header of a frame; its packet length includes the header. -/
def bcmvHeader (frameLength : Nat) : List UInt8 :=
  let packetLen := frameLength + bcmvHeaderSize
  [0x42, 0x43, 0x4d, 0x56, UInt8.ofNat (packetLen / 2 ^ 24), UInt8.ofNat (packetLen / 2 ^ 16),
   UInt8.ofNat (packetLen / 2 ^ 8), UInt8.ofNat packetLen, 0, 0]

/-- The codec header that goes before a frame. -/
def codecHeader (codec : VideoCodec) (frameLength : Nat) : List UInt8 :=
  if codec.needsBcmvHeader then bcmvHeader frameLength else []

/-- The part of the state that `BuildInputFrame` works on. -/
def builder (b : BufferId) (s : InputSide) : FrameBuilder :=
  let info := s.buffer b
  { header := info.pHeader, maxHeaderLen := info.maxHeaderLen, headerLen := info.headerLen,
    configBuffer := s.configBuffer, configBufferState := s.configBufferState }

/-- Writes that part back. -/
def setBuilder (b : BufferId) (f : FrameBuilder) (s : InputSide) : InputSide :=
  { s.setBuffer b { s.buffer b with pHeader := f.header, headerLen := f.headerLen } with
    configBufferState := f.configBufferState }

/-- `UpdateBuffer`: the data was used up. -/
def updateBuffer (b : BufferId) (amountUsed : Nat) (s : InputSide) : InputSide :=
  let info := s.buffer b
  s.setBuffer b { info with header := info.header.updateBuffer amountUsed }

/-- The frame's PTS. A fragment of the previous frame is not tracked. -/
def trackFrame (codec : VideoCodec) (b : BufferId) (s : InputSide) : InputSide :=
  let info := s.buffer b
  if info.header.nTimeStamp = 0 ∧ s.ptsReceived ∧ codec.allowsFragments then s.setBuffer b { info with pts := 0 }
  else
    let p := s.tracker.add info.header
    { s.setBuffer b { info with pts := p.2 } with tracker := p.1 }

/-- Submits and queues a frame. For VP9 an end-of-chunk packet is added to the frame's descriptors. -/
def emptyFrame (codec : VideoCodec) (accepted : Bool) (b : BufferId) (s : InputSide) : InputSide × OmxError :=
  let frame := (s.buffer b).header.payload
  let s := s.trackFrame codec b
  let p := videoBuildInputFrame codec s.ptsReceived true (s.buffer b).pts (codecHeader codec frame.length) frame
    (s.maxDescriptorsPerBuffer - 1) (s.builder b)
  let s := { s.setBuilder b p.2.1 with ptsReceived := p.1 }
  match p.2.2 with
  | .error err => (s, err)
  | .ok descs =>
    let s := s.updateBuffer b frame.length
    match s.submit accepted b (descs.length + if codec = .vp9 then 1 else 0) with
    | none => (s, .undefined)
    | some s => s.queueInputBuffer b

/-- Submits the end-of-stream packet as one more descriptor of a buffer that is already queued. -/
def emptyEos (accepted : Bool) (b : BufferId) (s : InputSide) : InputSide × OmxError :=
  match s.submit accepted b 1 with
  | none => (s, .undefined)
  | some s => ({ s with eosPending := true }, .none)

/-- Whether the playpump accepts the descriptors of the frame and that of the end of stream. -/
structure SubmitResult where
  frame : Bool := true
  eos : Bool := true
  deriving DecidableEq, Repr

/-- `EmptyThisBuffer` of both decoders, for a config buffer of `size` bytes and a function that submits and queues a
    frame. -/
def emptyBuffer (size : Nat) (frame : InputSide → InputSide × OmxError) (eosAccepted : Bool) (b : BufferId)
    (s : InputSide) : InputSide × OmxError :=
  let header := (s.buffer b).header
  if !headerAccepted header then (s, .badParameter)
  else
    let s := s.setBuffer b { s.buffer b with numDescriptors := 0, complete := false }
    if header.nFlags.codecConfig then s.emptyConfig size b
    else
      let p := if header.nFilledLen > 0 then frame s else s.queueInputBuffer b
      if p.2 ≠ .none then p
      else if header.nFlags.eos then p.1.emptyEos eosAccepted b
      else p

/-- `BOMX_VideoDecoder::EmptyThisBuffer` -/
def emptyThisBuffer (codec : VideoCodec) (submit : SubmitResult) (b : BufferId) (s : InputSide) :
    InputSide × OmxError :=
  s.emptyBuffer codecConfigBufferSize (emptyFrame codec submit.frame b) submit.eos b

/-! ### Flush -/

/-- `NEXUS_Playpump_Flush` empties the FIFO of a started playpump; `stopped` tells whether it also empties that of
    a stopped one. -/
def playpumpFlush (stopped : Bool) (s : InputSide) : InputSide :=
  if s.playpumpStarted || stopped then { s with descFifo := [] } else s

/-- The input port's part of `CommandFlush`. -/
def commandFlush (stopped : Bool) (fifoPts : Option Nat) (s : InputSide) : InputSide :=
  if s.port.isEnabled && s.port.isPopulated && s.hPlaypump then
    let s := { s with inputFlushing := true }
    let s := s.playpumpFlush stopped
    let s := { s with eosPending := false, ptsReceived := false }
    let s := s.playpumpEvent fifoPts
    let s := s.alogAssert (s.submittedDescriptors = 0) .noneSubmittedAfterFlush
    let s := s.returnInputBuffers 0 .all
    { s with configBufferState := .flushed, inputFlushing := false }
  else s.returnPortBuffers

/-! ### Buffers and state changes -/

/-- `AddInputPortBuffer` of both decoders: a new buffer of `nSizeBytes` bytes, with header space. The address of a new
    buffer is never that of a buffer the port has. -/
def addInputPortBuffer (maxHeaderLen : Nat) (b : BufferId) (nSizeBytes : Nat) (componentAllocated : Bool)
    (s : InputSide) : InputSide × OmxError :=
  if hnew : b ∈ s.port.bufferList then (s, .badParameter)
  else
    match s.port.addBuffer b componentAllocated hnew with
    | .error _ => (s, .insufficientResources)
    | .ok port =>
      let info : InputBuffer :=
        { header := { eDir := .input, nAllocLen := nSizeBytes, nPortIndex := port.definition.nPortIndex }
          pHeader := fun _ => 0
          maxHeaderLen, headerLen := 0, pts := 0, numDescriptors := 0, complete := false }
      ({ s.setBuffer b info with port }, .none)

/-- `BOMX_VideoDecoder::AddInputPortBuffer` -/
def addBuffer (codec : VideoCodec) (b : BufferId) (nSizeBytes : Nat) (componentAllocated : Bool) (s : InputSide) :
    InputSide × OmxError :=
  s.addInputPortBuffer (headerBufferSize codec s.maxDescriptorsPerBuffer) b nSizeBytes componentAllocated

/-- `FreeBuffer` on the input port. -/
def freeBuffer (b : BufferId) (s : InputSide) : InputSide × OmxError :=
  match s.port.removeBuffer b with
  | .error err => (s, err)
  | .ok port => ({ s with port }, .none)

/-- The playpump is opened with the decoder. -/
def openPlaypump (s : InputSide) : InputSide :=
  { s with hPlaypump := true, playpumpStarted := false, descFifo := [],
           availInputBuffers := s.port.definition.nBufferCountActual }

/-- Idle to Executing: start. -/
def start (s : InputSide) : InputSide := { s with submittedDescriptors := 0, playpumpStarted := true }

/-- Executing or Pause to Idle: stop. A stopped playpump drops its descriptors. -/
def stop (s : InputSide) : InputSide :=
  let s := { s with playpumpStarted := false, descFifo := [], eosPending := false, ptsReceived := false, tracker := [] }
  let s := s.inputBufferCounterReset
  let s := s.returnPortBuffers
  { s with submittedDescriptors := 0 }

/-- Release of the decoder and the playpump. -/
def release (s : InputSide) : InputSide :=
  let s := { s with playpumpStarted := false, descFifo := [], submittedDescriptors := 0, eosPending := false,
                    ptsReceived := false, tracker := [] }
  { s.inputBufferCounterReset with hPlaypump := false }

end InputSide
end BcmPlatform.Bomx
