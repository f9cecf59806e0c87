import BcmPlatform.Bomx.Omx
import BcmPlatform.Lib.Bytes

/-! `nexus_tunnel_bout_write`: the stream has a 16-byte header before each frame, which the write replaces with a PES
    header. The caller may cut the stream anywhere, and submits again what was not counted. -/

namespace BcmPlatform.Audio
open Lib

def avSyncMarker : List UInt8 := [0x55, 0x55, 0x00, 0x01]

def hwAvSyncHdrLen : Nat := 16

/-- What the write takes from the media library, and the format of the stream: the sizes `BMEDIA_PES_HEADER_MAX_SIZE` and
    `BMEDIA_WAVEFORMATEX_BASE_SIZE`, `bmedia_frame_bcma`, the bytes of `bmedia_pes_header_init` for a length and a PTS, and
    those of `bmedia_write_waveformatex`. -/
structure TunnelFormat where
  pcmFormat : Bool
  pesHeaderMaxSize : Nat
  waveformatexBaseSize : Nat
  frameBcma : List UInt8
  pesHeaderInit : Nat → Nat → List UInt8
  waveformatex : List UInt8

/-- What the header of a PCM frame adds to its length. -/
def TunnelFormat.waveLength (m : TunnelFormat) : Nat :=
  if m.pcmFormat then m.waveformatexBaseSize + m.frameBcma.length + 4 else 0

/-- The PES header of a frame, with the BCMA length and the wave header for PCM. -/
def TunnelFormat.header (m : TunnelFormat) (frameBytes pts : Nat) : List UInt8 :=
  m.pesHeaderInit (frameBytes + m.waveLength) pts ++
    if m.pcmFormat then m.frameBcma ++ beBytes 4 frameBytes ++ m.waveformatex else []

/-- `B_MEDIA_LOAD_UINT32_BE` -/
def loadUint32Be (buffer : List UInt8) (offset : Nat) : Nat := beValue ((buffer.drop offset).take 4)

/-- The PTS for the time stamp of a header, which is in nanoseconds. -/
def headerPts (buffer : List UInt8) : Nat :=
  let timestamp := loadUint32Be buffer 8 <<< 32 ||| loadUint32Be buffer 12
  Bomx.tickToPts (timestamp / 1000 : Nat)

/-- The variables of the inner loop. -/
structure FrameLoop where
  frameBytes : Nat
  writeHeader : Bool := false
  pts : Nat := 0
  deriving DecidableEq, Repr

/-- The variables of a call. `bytes` is the length of `buffer`; `frame` while it is in the inner loop. -/
structure WriteCall where
  buffer : List UInt8
  bytesWritten : Nat := 0
  ret : Int := 0
  frame : Option FrameLoop := none
  deriving DecidableEq, Repr

/-- The caller and the playpump: how much of the stream is counted, and what was delivered. -/
structure TunnelWriter where
  counted : Nat := 0
  call : Option WriteCall := none
  delivered : List UInt8 := []
  deriving DecidableEq, Repr

/-- What the calls of one iteration of the inner loop answer. `bufferEnd` tells whether the space ends at
    `pp_buffer_end`, and `waited` whether `BKNI_WaitForEvent` succeeds. -/
structure PumpAnswer where
  getBuffer : Bool := true
  space : Nat := 0
  bufferEnd : Bool := false
  writeComplete : Int := 0
  waited : Bool := true
  deriving DecidableEq, Repr

def enosys : Int := -38

/-- What the call returns. -/
def WriteCall.returnValue (c : WriteCall) : Int := if c.bytesWritten = 0 then c.ret else c.bytesWritten

/-- One iteration of the outer loop up to its inner loop; `none` when the call returns. -/
def WriteCall.search (c : WriteCall) : Option WriteCall :=
  if c.buffer = [] then none
  else match memmem avSyncMarker c.buffer with
    | some 0 =>
      if c.buffer.length < hwAvSyncHdrLen then none
      else
        let frameBytes := loadUint32Be c.buffer 4
        some { c with
          buffer := c.buffer.drop hwAvSyncHdrLen
          frame := if frameBytes = 0 then none
            else some { frameBytes, writeHeader := true, pts := headerPts c.buffer } }
    | some n => some { c with frame := some { frameBytes := n } }
    | none => some { c with frame := some { frameBytes := c.buffer.length } }

/-- The space that the inner loop wants to have. -/
def WriteCall.spaceRequired (m : TunnelFormat) (f : FrameLoop) (c : WriteCall) : Nat :=
  max f.frameBytes c.buffer.length + if f.writeHeader then m.pesHeaderMaxSize + m.waveLength else 0

/-- One iteration of the inner loop, and what it delivers. A `break` leaves the inner loop only. -/
def WriteCall.pump (m : TunnelFormat) (a : PumpAnswer) (f : FrameLoop) (c : WriteCall) : WriteCall × List UInt8 :=
  if !a.getBuffer then ({ c with ret := enosys, frame := none }, [])
  else if c.spaceRequired m f ≤ a.space then
    let frameBytes := if f.writeHeader then min f.frameBytes c.buffer.length else f.frameBytes
    if a.writeComplete ≠ 0 then ({ c with ret := a.writeComplete, frame := none }, [])
    else ({ buffer := c.buffer.drop frameBytes
            bytesWritten := c.bytesWritten + frameBytes + if f.writeHeader then hwAvSyncHdrLen else 0
            ret := 0
            frame := none },
      (if f.writeHeader then m.header f.frameBytes f.pts else []) ++ c.buffer.take frameBytes)
  else if a.bufferEnd then
    if a.writeComplete ≠ 0 then ({ c with ret := a.writeComplete, frame := none }, []) else ({ c with ret := 0 }, [])
  else if !a.waited then ({ c with ret := enosys, frame := none }, [])
  else ({ c with ret := 0 }, [])

/-- One iteration inside the inner loop. -/
def WriteCall.inner (m : TunnelFormat) (c : WriteCall) (a : PumpAnswer) : Option WriteCall :=
  c.frame.map fun f => (c.pump m a f).1

/-- One iteration of the loops; `none` when the call returns. -/
def WriteCall.iterate (m : TunnelFormat) (c : WriteCall) (a : PumpAnswer) : Option WriteCall :=
  if c.frame.isSome then c.inner m a else c.search

/-- The steps of the caller and of the write; `ready` tells whether the output is open and not suspended. -/
inductive WriteAction where
  | call (bytes : Nat) (ready : Bool)
  | search
  | pump (a : PumpAnswer)
  deriving DecidableEq, Repr

namespace TunnelWriter

/-- The caller counts what is returned, unless it is an error. -/
def returned (returnValue : Int) (s : TunnelWriter) : TunnelWriter :=
  { s with counted := s.counted + returnValue.toNat, call := none }

/-- One step with a stream; `none` when it is not possible. -/
def step (m : TunnelFormat) (stream : List UInt8) (s : TunnelWriter) : WriteAction → Option TunnelWriter
  | .call bytes ready =>
    match s.call with
    | some _ => none
    | none =>
      some (if ready then { s with call := some { buffer := (stream.drop s.counted).take bytes } } else s.returned enosys)
  | .search =>
    match s.call with
    | some c =>
      if c.frame.isSome then none
      else some (match c.search with
        | none => s.returned c.returnValue
        | some c => { s with call := some c })
    | none => none
  | .pump a =>
    match s.call with
    | some c =>
      match c.frame with
      | some f => some { s with call := some (c.pump m a f).1, delivered := s.delivered ++ (c.pump m a f).2 }
      | none => none
    | none => none

end TunnelWriter
end BcmPlatform.Audio
