import Mathlib.Logic.Function.Basic
import BcmPlatform.Bomx.Port
import BcmPlatform.Lib.Segments

/-! The output side of the video decoder: the frames taken from the Nexus decoder, the output buffers through which
    they are delivered, and the decisions handed back to Nexus. Nexus itself is a FIFO of decoded frames. -/

namespace BcmPlatform.Bomx
open Lib

/-- `BOMX_VideoDecoderFrameBufferState` -/
inductive FrameBufferState where
  | ready
  | delivered
  | displayReady
  | dropReady
  | invalid
  deriving DecidableEq, Repr

/-- The fields of `NEXUS_VideoDecoderFrameStatus` that the component reads. -/
structure FrameStatus where
  serialNumber : Nat
  pts : Nat := 0
  lastPicture : Bool := false
  imageWidth : Nat := 0
  imageHeight : Nat := 0
  deriving DecidableEq, Repr

/-- `BOMX_VideoDecoderFrameBuffer`. The node created as the `id`-th keeps its `id` on whichever list it is. -/
structure FrameBuffer where
  id : Nat
  state : FrameBufferState
  frameStatus : FrameStatus
  pPrivateHandle : Option Nat
  pBufferInfo : Option BufferId
  deriving DecidableEq, Repr

namespace FrameBuffer

def serial (f : FrameBuffer) : Nat := f.frameStatus.serialNumber

def isInvalid (f : FrameBuffer) : Bool := f.state = .invalid

def isReady (f : FrameBuffer) : Bool := f.state = .ready

/-- The client has decided about the frame. -/
def isActionable (f : FrameBuffer) : Bool := f.state = .displayReady || f.state = .dropReady

/-- The frame was handed to the client and not decided since. -/
def isClientOwned (f : FrameBuffer) : Bool := f.state = .delivered || f.state = .invalid

end FrameBuffer

/-- `BOMX_VideoDecoderOutputBufferType` -/
inductive OutputMode where
  | standard
  | native
  | metadata
  deriving DecidableEq, Repr

/-- An output buffer: its header and the component's `BOMX_VideoDecoderOutputBufferInfo`. The metadata type and
    handle are in the client's memory; `nativeHandle` is the private handle of a native buffer. -/
structure OutputBuffer where
  header : BufferHeader
  type : OutputMode
  pFrameBuffer : Option Nat := none
  grallocSource : Bool := true
  pHandle : Option Nat := none
  nativeHandle : Nat := 0
  deriving DecidableEq, Repr

inductive FormatChangeState where
  | none
  | waitForSerial
  | processCallback
  | waitForPortReconfig
  deriving DecidableEq, Repr

/-- One entry of the settings array that is handed to `NEXUS_SimpleVideoDecoder_ReturnDecodedFrames`, with the frame
    and the state for which it was made. -/
structure ReturnEntry where
  serial : Nat
  state : FrameBufferState
  display : Bool
  deriving DecidableEq, Repr

/-- One call of `NEXUS_SimpleVideoDecoder_ReturnDecodedFrames`: the frames then in the FIFO, and for a call during a
    flush those that were in it before the flush. -/
structure ReturnCall where
  flushing : Bool
  fifo : List Nat
  flushed : List Nat
  entries : List ReturnEntry
  deriving DecidableEq, Repr

/-- The Nexus decoder: the decoded frames not yet returned, and the least serial number that was not given to a
    frame. -/
structure Nexus where
  started : Bool := false
  fifo : List FrameStatus := []
  nextSerial : Nat := 1
  calls : List ReturnCall := []
  deriving DecidableEq, Repr

/-- The assertions about frames and output buffers. -/
inductive OutputAssert where
  | frameMismatch
  | bufferInfoUnlinked
  | eosPending
  | frameDelivered
  | bufferQueued
  deriving DecidableEq, Repr

/-- The output side. `displayTaken` is the serial number that the display thread has copied and not shown yet. -/
structure OutputSide where
  port : Port
  buffer : BufferId → OutputBuffer
  frameBufferAllocList : List FrameBuffer
  frameBufferFreeList : List FrameBuffer
  hSimpleVideoDecoder : Bool
  nexus : Nexus
  formatChangeState : FormatChangeState
  formatChangeSerial : Nat
  lastReturnedSerial : Nat
  outputWidth : Nat
  outputHeight : Nat
  eosDelivered : Bool
  eosReceived : Bool
  displayFrameAvailable : Bool
  frameSerial : Nat
  displayTaken : Option Nat
  outputFlushing : Bool
  flushedFifo : List Nat
  asserts : List OutputAssert

/-- `B_MAX_DECODED_FRAMES` -/
@[simp] def maxDecodedFrames : Nat := 16

namespace OutputSide

def alogAssert (cond : Bool) (a : OutputAssert) (s : OutputSide) : OutputSide :=
  if cond then s else { s with asserts := s.asserts ++ [a] }

def setBuffer (b : BufferId) (info : OutputBuffer) (s : OutputSide) : OutputSide :=
  { s with buffer := Function.update s.buffer b info }

/-- Replaces a node of the alloc list. -/
def setNode (id : Nat) (g : FrameBuffer → FrameBuffer) (s : OutputSide) : OutputSide :=
  { s with frameBufferAllocList := s.frameBufferAllocList.map fun f => if f.id = id then g f else f }

/-- Moves a node from the alloc list to the tail of the free list. -/
def freeNode (f : FrameBuffer) (s : OutputSide) : OutputSide :=
  { s with frameBufferAllocList := s.frameBufferAllocList.filter (·.id ≠ f.id)
           frameBufferFreeList := s.frameBufferFreeList ++ [f] }

/-- A node of the alloc list by its address. -/
def node (s : OutputSide) (id : Nat) : Option FrameBuffer := s.frameBufferAllocList.find? (·.id = id)

/-- `FindFrameBuffer(pPrivateHandle)` -/
def findFrameBufferByHandle (s : OutputSide) (pPrivateHandle : Nat) : Option FrameBuffer :=
  s.frameBufferAllocList.find? (·.pPrivateHandle = some pPrivateHandle)

/-- `FindFrameBuffer(serialNumber)` -/
def findFrameBuffer (s : OutputSide) (serialNumber : Nat) : Option FrameBuffer :=
  s.frameBufferAllocList.find? (·.serial = serialNumber)

/-! ### Taking frames from Nexus -/

/-- Moves nodes from the free list to the alloc list, one for each new frame, as long as there are any. -/
def allocFrames : List FrameBuffer → List FrameStatus → List FrameBuffer × List FrameBuffer
  | f :: free, status :: rest =>
    let p := allocFrames free rest
    ({ f with frameStatus := status, state := .ready } :: p.1, p.2)
  | free, _ => ([], free)

/-- The first part of `PollDecodedFrames`: Nexus reports the first `numFrames` frames of its FIFO. Those already in
    the alloc list, past its invalid frames, are compared and skipped; the others are added. -/
def getDecodedFrames (numFrames : Nat) (s : OutputSide) : OutputSide :=
  if s.frameBufferFreeList.isEmpty then s
  else
    let reported := s.nexus.fifo.take (min numFrames maxDecodedFrames)
    let known := s.frameBufferAllocList.dropWhile (·.isInvalid)
    let same := (known.zip reported).all fun p => p.1.serial = p.2.serialNumber
    let s := s.alogAssert same .frameMismatch
    let p := allocFrames s.frameBufferFreeList (reported.drop known.length)
    { s with frameBufferAllocList := s.frameBufferAllocList ++ p.1, frameBufferFreeList := p.2 }

/-! ### Returning frames to Nexus -/

/-- The settings for a batch of frames. Only the last frame can be displayed. -/
def returnSettings : List FrameBuffer → List ReturnEntry
  | [] => []
  | [f] => [{ serial := f.serial, state := f.state, display := f.state = .displayReady }]
  | f :: rest => { serial := f.serial, state := f.state, display := false } :: returnSettings rest

/-- The frames that `ReturnDecodedFrames` returns: past the invalid ones, all up to the last one the client has
    decided about, as long as none is still ready; in a flush all up to the last valid one. -/
def returnBatch (s : OutputSide) : List FrameBuffer :=
  let pending := s.frameBufferAllocList.dropWhile (·.isInvalid)
  if s.outputFlushing then upToLast (fun f => !f.isInvalid) pending
  else upToLast (·.isActionable) (pending.takeWhile fun f => !f.isReady)

/-- A returned frame that the client still owns stays in the list and becomes invalid. -/
def invalidated (batch : List FrameBuffer) : List FrameBuffer :=
  (batch.filter (·.state = .delivered)).map fun f => { f with state := .invalid }

/-- The other returned frames go to the free list. -/
def released (batch : List FrameBuffer) : List FrameBuffer :=
  (batch.filter (·.state ≠ .delivered)).map fun f => { f with pPrivateHandle := none, pBufferInfo := none }

/-- `ReturnDecodedFrames`, up to the poll that it starts when a deferred format change is due; whether it is due is
    the second result. -/
def returnDecodedFrames (s : OutputSide) : OutputSide × Bool :=
  if !s.hSimpleVideoDecoder then (s, false)
  else
    let batch := s.returnBatch
    match batch.getLast? with
    | none => (s, false)
    | some last =>
      let done := batch.take maxDecodedFrames
      let invalid := s.frameBufferAllocList.takeWhile (·.isInvalid)
      let call : ReturnCall :=
        { flushing := s.outputFlushing, fifo := s.nexus.fifo.map (·.serialNumber), flushed := s.flushedFifo,
          entries := (returnSettings batch).take maxDecodedFrames }
      let due := s.formatChangeState = .waitForSerial && s.formatChangeSerial = last.serial + 1
      ({ s with
          frameBufferAllocList :=
            invalid ++ invalidated done ++ s.frameBufferAllocList.drop (invalid.length + done.length)
          frameBufferFreeList := s.frameBufferFreeList ++ released done
          nexus := { s.nexus with fifo := s.nexus.fifo.drop done.length, calls := s.nexus.calls ++ [call] }
          lastReturnedSerial := last.serial
          formatChangeState := if due then .processCallback else s.formatChangeState },
        due)

/-- `InvalidateDecodedFrames`: frames the client owns become invalid, the others go to the free list. -/
def invalidateDecodedFrames (s : OutputSide) : OutputSide :=
  { s with
    frameBufferAllocList :=
      (s.frameBufferAllocList.filter (·.isClientOwned)).map fun f => { f with state := .invalid }
    frameBufferFreeList := s.frameBufferFreeList ++
      (s.frameBufferAllocList.filter fun f => !f.isClientOwned).map fun f => { f with state := .invalid } }

/-! ### Output buffers -/

def returnPortBuffer (s : OutputSide) (b : BufferId) : OutputSide := { s with port := s.port.bufferComplete b }

def returnPortBuffers (s : OutputSide) : OutputSide := s.port.bufferQueue.foldl returnPortBuffer s

/-- The frame that an output buffer carries: in metadata mode it is found by the handle that the client put into
    the buffer. -/
def frameOf (b : BufferId) (s : OutputSide) : Option FrameBuffer :=
  let info := s.buffer b
  if info.type = .metadata then info.pHandle.bind s.findFrameBufferByHandle else info.pFrameBuffer.bind s.node

/-- What `FillThisBuffer` decides about the frame of the returned buffer. An invalid frame goes to the free list. A
    frame that waits to be displayed is kept as it is, any other one is dropped. -/
def fillFrame (f : FrameBuffer) (s : OutputSide) : OutputSide :=
  if f.state = .invalid then s.freeNode { f with pBufferInfo := none, pPrivateHandle := none }
  else
    let s := s.alogAssert (f.state = .delivered) .frameDelivered
    if s.displayFrameAvailable ∧ f.serial = s.frameSerial then s
    else s.setNode f.id fun f => { f with state := .dropReady, pBufferInfo := none, pPrivateHandle := none }

/-- The end of `FillThisBuffer`: the buffer is reset and queued. -/
def requeue (b : BufferId) (s : OutputSide) : OutputSide :=
  let info := s.buffer b
  let s := s.setBuffer b { info with header := { info.header with nOffset := 0, nFilledLen := 0, nTimeStamp := 0 } }
  match s.port.queueBuffer b with
  | .ok port => { s with port }
  | .error _ => s.alogAssert false .bufferQueued

/-- `FillThisBuffer`, up to the return of frames to Nexus at its end. -/
def fillThisBuffer (b : BufferId) (s : OutputSide) : OutputSide × OmxError :=
  let info := s.buffer b
  if info.header.eDir ≠ .output then (s, .badParameter)
  else if info.type = .metadata ∧ !info.grallocSource then (s, .badParameter)
  else
    let frame := s.frameOf b
    let s := s.setBuffer b { info with pFrameBuffer := none }
    let s := match frame with
      | some f => s.fillFrame f
      | none => s
    (s.requeue b, .none)

/-- What `FreeBuffer` decides about the frame of a freed buffer; the second result tells that frames are to be
    returned to Nexus. -/
def freeFrame (f : FrameBuffer) (s : OutputSide) : OutputSide × Bool :=
  let s := s.setNode f.id fun f => { f with pBufferInfo := none, pPrivateHandle := none }
  let active := s.hSimpleVideoDecoder && s.nexus.started
  if active ∧ f.state = .delivered then (s.setNode f.id fun f => { f with state := .dropReady }, true)
  else if f.state = .delivered ∨ f.state = .invalid then
    (s.freeNode { f with pBufferInfo := none, pPrivateHandle := none }, false)
  else (s, false)

/-- `FreeBuffer` on the output port, up to the return of frames to Nexus. -/
def freeBuffer (b : BufferId) (s : OutputSide) : OutputSide × OmxError × Bool :=
  match s.port.removeBuffer b with
  | .error err => (s, err, false)
  | .ok port =>
    let frame := s.frameOf b
    let s := { s with port }
    let s := s.setBuffer b { s.buffer b with pFrameBuffer := none }
    match frame with
    | some f => ((s.freeFrame f).1, .none, (s.freeFrame f).2)
    | none => (s, .none, false)

/-- `AddOutputPortBuffer`: a new buffer without a frame. -/
def addBuffer (type : OutputMode) (b : BufferId) (nSizeBytes nativeHandle : Nat) (componentAllocated : Bool)
    (s : OutputSide) : OutputSide × OmxError :=
  if hnew : b ∈ s.port.bufferList then (s, .badParameter)
  else
    match s.port.addBuffer b componentAllocated hnew with
    | .error _ => (s, .insufficientResources)
    | .ok port =>
      let info : OutputBuffer :=
        { header := { eDir := .output, nAllocLen := nSizeBytes, nPortIndex := port.definition.nPortIndex }
          type, nativeHandle }
      ({ s.setBuffer b info with port }, .none)

/-! ### Display requests -/

def binderNotifyDisplay (frameId : Nat) (s : OutputSide) : OutputSide :=
  { s with displayFrameAvailable := true, frameSerial := frameId }

/-- The part of `DisplayFrameEvent` under the display mutex. -/
def takeDisplayFrame (s : OutputSide) : OutputSide :=
  if s.displayFrameAvailable then { s with displayTaken := some s.frameSerial, displayFrameAvailable := false } else s

/-- `DisplayFrame_locked`, up to the return of frames to Nexus; the second result tells that they are to be
    returned. -/
def displayFrameLocked (serialNumber : Nat) (s : OutputSide) : OutputSide × Bool :=
  match s.findFrameBuffer serialNumber with
  | some f =>
    if f.state = .delivered then
      let s := match f.pBufferInfo with
        | some b => s.setBuffer b { s.buffer b with pFrameBuffer := none }
        | none => s
      (s.setNode f.id fun f => { f with state := .displayReady, pPrivateHandle := none, pBufferInfo := none }, true)
    else (s, false)
  | none => (s, false)

/-! ### The decoder -/

/-- Nexus decodes further frames, with serial numbers it has not used. -/
def decode (frames : List FrameStatus) (s : OutputSide) : OutputSide :=
  { s with nexus := { s.nexus with
      fifo := s.nexus.fifo ++ frames
      nextSerial := frames.foldl (fun n status => max n (status.serialNumber + 1)) s.nexus.nextSerial } }

/-- `NEXUS_SimpleVideoDecoder_Flush` -/
def nexusFlush (s : OutputSide) : OutputSide :=
  { s with nexus := { s.nexus with fifo := [] }, flushedFifo := s.nexus.fifo.map (·.serialNumber) }

/-- `NEXUS_SimpleVideoDecoder_Stop` -/
def nexusStop (s : OutputSide) : OutputSide := { s with nexus := { s.nexus with started := false, fifo := [] } }

/-- `NEXUS_SimpleVideoDecoder_Start` -/
def nexusStart (s : OutputSide) : OutputSide := { s with nexus := { s.nexus with started := true, fifo := [] } }

/-- Executing or Pause to Idle: stop. -/
def stop (s : OutputSide) : OutputSide :=
  { s.invalidateDecodedFrames.nexusStop with eosDelivered := false, eosReceived := false, displayFrameAvailable := false }

/-- Release of the decoder. -/
def release (s : OutputSide) : OutputSide :=
  let s := s.invalidateDecodedFrames
  if s.hSimpleVideoDecoder then
    { s.nexusStop with
      eosDelivered := false, eosReceived := false, displayFrameAvailable := false, hSimpleVideoDecoder := false,
      lastReturnedSerial := 0, formatChangeState := .none }
  else s

/-- `SetOutputPortState(OMX_StateLoaded)` -/
def unload (s : OutputSide) : OutputSide :=
  let s := s.returnPortBuffers
  if s.formatChangeState = .waitForPortReconfig then
    { s with outputWidth := s.port.definition.nFrameWidth, outputHeight := s.port.definition.nFrameHeight,
             formatChangeState := .none }
  else s

/-- The end of `CommandStateSet(OMX_StateLoaded)`: what is left in the alloc list goes to the free list as it is. -/
def clearAllocList (s : OutputSide) : OutputSide :=
  { s with frameBufferAllocList := [], frameBufferFreeList := s.frameBufferFreeList ++ s.frameBufferAllocList }

end OutputSide
end BcmPlatform.Bomx
