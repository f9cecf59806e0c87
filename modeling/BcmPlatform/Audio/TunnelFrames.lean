import BcmPlatform.Audio.AvSyncWrite

/-! The frame size of a compressed stream, which `nexus_tunnel_bout_write` takes from the first frame that it recognizes
    behind an A/V sync header. -/

namespace BcmPlatform.Audio
open Lib

inductive CompressedFormat where
  | ac3
  | eAc3
  | dts
  | dtsHd
  deriving DecidableEq, Repr

/-- `AC3_MAX_FRAME_SIZE` -/
def ac3MaxFrameSize : Nat := 38

/-- `AC3_MAX_SAMPLE_RATE` -/
def ac3MaxSampleRate : Nat := 3

/-- `DTS_MIN_FRAME_SIZE` -/
def dtsMinFrameSize : Nat := 95

/-- The number of 16-bit words in an AC3 frame. -/
def ddFrameSizeTable : List (List Nat) :=
  [[64, 69, 96], [64, 70, 96], [80, 87, 120], [80, 88, 120], [96, 104, 144], [96, 105, 144], [112, 121, 168],
    [112, 122, 168], [128, 139, 192], [128, 140, 192], [160, 174, 240], [160, 175, 240], [192, 208, 288], [192, 209, 288],
    [224, 243, 336], [224, 244, 336], [256, 278, 384], [256, 279, 384], [320, 348, 480], [320, 349, 480], [384, 417, 576],
    [384, 418, 576], [448, 487, 672], [448, 488, 672], [512, 557, 768], [512, 558, 768], [640, 696, 960], [640, 697, 960],
    [768, 835, 1152], [768, 836, 1152], [896, 975, 1344], [896, 976, 1344], [1024, 1114, 1536], [1024, 1115, 1536],
    [1152, 1253, 1728], [1152, 1254, 1728], [1280, 1393, 1920], [1280, 1394, 1920]]

/-- An access outside of the buffer of the write, or of the table. -/
inductive FrameFault where
  | buffer (index : Nat)
  | table (frmsizcod fscod : Nat)
  deriving DecidableEq, Repr

/-- `syncFrame[index]` -/
def frameByte (syncFrame : List UInt8) (index : Nat) : Except FrameFault Nat :=
  match syncFrame[index]? with
  | some b => .ok b.toNat
  | none => .error (.buffer index)

/-- `dd_frame_size_table[frmsizcod][fscod]` -/
def frameWords (frmsizcod fscod : Nat) : Except FrameFault Nat :=
  match ddFrameSizeTable[frmsizcod]?.bind (·[fscod]?) with
  | some words => .ok words
  | none => .error (.table frmsizcod fscod)

/-- The bytes of a sync word, compared up to the first that differs. -/
def startsWith (syncFrame : List UInt8) : List Nat → Nat → Except FrameFault Bool
  | [], _ => .ok true
  | b :: rest, index => do
    if (← frameByte syncFrame index) = b then startsWith syncFrame rest (index + 1) else return false

/-- The frame size that the write takes from what follows a header; `none` where `frameSize` stays 0. -/
def learnFrameSize (format : CompressedFormat) (syncFrame : List UInt8) : Except FrameFault (Option Nat) :=
  match format with
  | .ac3 | .eAc3 => do
    if syncFrame.length < 5 then return none
    if !(← startsWith syncFrame [0x0b, 0x77] 0) then return none
    if format = .eAc3 then
      let frmsiz := (((← frameByte syncFrame 2) &&& 0x07) <<< 8) + (← frameByte syncFrame 3)
      return some ((frmsiz + 1) * 2)
    else
      let fscod := (← frameByte syncFrame 4) >>> 6
      let frmsizcod := (← frameByte syncFrame 4) &&& 0x3f
      if fscod < ac3MaxSampleRate ∧ frmsizcod < ac3MaxFrameSize then return some ((← frameWords frmsizcod fscod) * 2)
      else return none
  | .dts | .dtsHd => do
    if syncFrame.length < 8 then return none
    if !(← startsWith syncFrame [0x7f, 0xfe, 0x80, 0x01] 0) then return none
    let fsize := (((← frameByte syncFrame 5) &&& 0x03) <<< 12) + ((← frameByte syncFrame 6) <<< 4) +
      ((← frameByte syncFrame 7) &&& 0xf0)
    return if dtsMinFrameSize ≤ fsize then some (fsize + 1) else none

/-- What follows the header that an iteration of the outer loop reads. -/
def WriteCall.syncFrame (c : WriteCall) : Option (List UInt8) :=
  if memmem avSyncMarker c.buffer = some 0 ∧ hwAvSyncHdrLen ≤ c.buffer.length then some (c.buffer.drop hwAvSyncHdrLen)
  else none

/-- The output: the frame size, and a write that is going on. Two histories: what followed the headers that were read, and
    the accesses that went wrong. -/
structure FrameLearner where
  frameSize : Nat := 0
  call : Option WriteCall := none
  syncFrames : List (List UInt8) := []
  faults : List FrameFault := []
  deriving DecidableEq, Repr

inductive LearnAction where
  /-- A write of a buffer, when the output is ready. -/
  | write (buffer : List UInt8)
  | search
  | pump (a : PumpAnswer)
  deriving DecidableEq, Repr

namespace FrameLearner

/-- A header was read: the frame size is taken from what follows, while it is 0. -/
def learn (format : CompressedFormat) (syncFrame : List UInt8) (s : FrameLearner) : FrameLearner :=
  let s := { s with syncFrames := s.syncFrames ++ [syncFrame] }
  if s.frameSize = 0 then
    match learnFrameSize format syncFrame with
    | .ok none => s
    | .ok (some frameSize) => { s with frameSize }
    | .error fault => { s with faults := s.faults ++ [fault] }
  else s

/-- One iteration of the outer loop up to its inner loop. -/
def search (format : CompressedFormat) (c : WriteCall) (s : FrameLearner) : FrameLearner :=
  let s := match c.syncFrame with
    | some syncFrame => s.learn format syncFrame
    | none => s
  { s with call := c.search }

def step (m : TunnelFormat) (format : CompressedFormat) (s : FrameLearner) : LearnAction → Option FrameLearner
  | .write buffer =>
    match s.call with
    | some _ => none
    | none => some { s with call := some { buffer } }
  | .search =>
    match s.call with
    | some c => if c.frame.isSome then none else some (s.search format c)
    | none => none
  | .pump a =>
    match s.call with
    | some c =>
      match c.frame with
      | some f => some { s with call := some (c.pump m a f).1 }
      | none => none
    | none => none

end FrameLearner
end BcmPlatform.Audio
