import Mathlib.Logic.Relation
import BcmPlatform.Bomx.AudioDecoder
import BcmPlatform.Bomx.ConfigHistory

/-! The bytes of the client's input buffers that the decoders read: codec config that is cached, frames that are copied
    into a hardware buffer, and frames that descriptors address where they are. -/

namespace BcmPlatform.Bomx

/-- A block of bytes of a client's buffer. -/
structure ByteRange where
  start : Nat
  length : Nat
  deriving DecidableEq, Repr

/-- Every byte of the block lies in the first `n` bytes of the buffer. -/
def ByteRange.Within (n : Nat) (r : ByteRange) : Prop := ∀ i, r.start ≤ i → i < r.start + r.length → i < n

/-- The bytes of a block; a byte behind the end of the buffer reads as 0. -/
def ByteRange.bytes (buffer : List UInt8) (r : ByteRange) : List UInt8 :=
  (List.range r.length).map fun i => buffer.getD (r.start + i) 0

namespace BufferHeader

/-- `nFilledLen` bytes at `nOffset`. -/
def filled (h : BufferHeader) : ByteRange := { start := h.nOffset, length := h.nFilledLen }

/-- `BOMX_InputBuffer::GetBuffer`; without a block it is a null pointer. -/
def getBuffer (h : BufferHeader) : Option ByteRange :=
  if add32 h.nOffset h.nFilledLen ≤ h.nAllocLen then some h.filled else none

/-- `BOMX_InputBuffer::UpdateBuffer` within its assertion. -/
def Updates (h h' : BufferHeader) : Prop := ∃ amountUsed ≤ h.nFilledLen, h' = h.updateBuffer amountUsed

end BufferHeader

/-- The client's bytes that a descriptor of a frame at `nOffset` addresses, if it is one of the payload. -/
def Descriptor.clientBytes (nOffset : Nat) (d : Descriptor) : Option ByteRange :=
  if d.region = .payload then some { start := nOffset + d.addr, length := d.length } else none

/-- What `BuildInputFrame` reads of a frame: all of it when there is a hardware buffer to copy it to, and then the
    descriptors address the copy; else what the descriptors address. -/
def frameReads (copied : Bool) (maxDescriptors : Nat) (built : Except OmxError (List Descriptor)) (h : BufferHeader) :
    List ByteRange :=
  if copied then (if maxDescriptors < 4 then [] else [h.filled])
  else
    match built with
    | .error _ => []
    | .ok descs => descs.filterMap (Descriptor.clientBytes h.nOffset)

namespace InputSide

/-- `BuildInputFrame` as the audio decoder's `EmptyThisBuffer` calls it, once the frame is tracked. -/
def audioBuiltFrame (codecHeader : List UInt8) (b : BufferId) (s : InputSide) :
    FrameBuilder × Except OmxError (List Descriptor) :=
  let t := s.tracker.add (s.buffer b).header
  audioBuildInputFrame true t.2 codecHeader (s.buffer b).header.payload s.maxDescriptorsPerBuffer (s.builder b)

/-- What `ConfigBufferAppend` copies for a config buffer of `size` bytes. -/
def configReads (size : Nat) (b : BufferId) (s : InputSide) : List ByteRange :=
  let s := if s.configBufferState ≠ .accumulating then s.configBufferInit else s
  let h := (s.buffer b).header
  if s.configBuffer.length + h.nFilledLen > size then [] else [h.filled]

/-- What `EmptyThisBuffer` of both decoders reads, given what `BuildInputFrame` reads. -/
def emptyReads (size : Nat) (frame : List ByteRange) (b : BufferId) (s : InputSide) : List ByteRange :=
  let h := (s.buffer b).header
  if !headerAccepted h then []
  else if h.nFlags.codecConfig then s.configReads size b
  else if h.nFilledLen > 0 then frame
  else []

/-- What `BOMX_VideoDecoder::EmptyThisBuffer` reads of the client's buffer. -/
def videoReads (codec : VideoCodec) (copied : Bool) (b : BufferId) (s : InputSide) : List ByteRange :=
  s.emptyReads codecConfigBufferSize
    (frameReads copied (s.maxDescriptorsPerBuffer - 1) (s.builtFrame codec b).2.2 (s.buffer b).header) b

/-- What `BOMX_AudioDecoder::EmptyThisBuffer` reads of the client's buffer. -/
def audioReads (codecHeader : List UInt8) (copied : Bool) (b : BufferId) (s : InputSide) : List ByteRange :=
  s.emptyReads audioCodecConfigBufferSize
    (frameReads copied s.maxDescriptorsPerBuffer (s.audioBuiltFrame codecHeader b).2 (s.buffer b).header) b

end InputSide

/-- All that is read of a buffer with this header lies inside it, and so does its data after any calls of
    `UpdateBuffer`. -/
structure StaysInside (h : BufferHeader) : Prop where
  video : ∀ (s : InputSide) codec copied b, (s.buffer b).header = h →
    ∀ r ∈ s.videoReads codec copied b, r.Within h.nAllocLen
  audio : ∀ (s : InputSide) codecHeader copied b, (s.buffer b).header = h →
    ∀ r ∈ s.audioReads codecHeader copied b, r.Within h.nAllocLen
  getBuffer : ∀ h', Relation.ReflTransGen BufferHeader.Updates h h' → ∀ r ∈ h'.getBuffer, r.Within h'.nAllocLen
  filled : ∀ h', Relation.ReflTransGen BufferHeader.Updates h h' → h'.nOffset + h'.nFilledLen ≤ h'.nAllocLen

end BcmPlatform.Bomx
