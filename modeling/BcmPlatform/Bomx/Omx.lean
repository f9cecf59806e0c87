import Mathlib.Data.Nat.Basic

/-! The OpenMAX IL vocabulary shared by the components: return codes, states, buffer flags, buffer headers,
    codecs and time stamps. -/

namespace BcmPlatform.Bomx

/-- `OMX_ERRORTYPE`: the values that the modelled functions return by name, and the others. `none` is `OMX_ErrorNone`. -/
inductive OmxError where
  | none
  | insufficientResources
  | undefined
  | badParameter
  | overflow
  | notImplemented
  | timeout
  | sameState
  | invalidState
  | incorrectStateTransition
  | incorrectStateOperation
  | badPortIndex
  | portsNotCompatible
  | other (code : Nat)
  deriving DecidableEq, Repr

/-- `OMX_STATETYPE`. -/
inductive OmxState where
  | loaded
  | idle
  | executing
  | pause
  | waitForResources
  | invalid
  deriving DecidableEq, Repr

/-- The bits of `nFlags` that the components read or write; `rest` holds the others, which are only copied. -/
structure BufferFlags where
  eos : Bool := false
  codecConfig : Bool := false
  rest : Nat := 0
  deriving DecidableEq, Repr

/-- `OMX_VIDEO_CODINGTYPE`, the codecs of `g_defaultRoles` and VP9. -/
inductive VideoCodec where
  | mpeg2
  | h263
  | avc
  | mpeg4
  | hevc
  | vp8
  | vp9
  deriving DecidableEq, Repr

/-- The codecs for which a frame without a time stamp is a fragment of the previous one. -/
def VideoCodec.allowsFragments : VideoCodec → Bool
  | .mpeg2 | .avc | .h263 | .mpeg4 | .hevc => true
  | .vp8 | .vp9 => false

/-- The codecs whose frames start with a BCMV header. -/
def VideoCodec.needsBcmvHeader : VideoCodec → Bool
  | .vp8 | .vp9 => true
  | _ => false

/-- Buffers are named by the address of their `BOMX_Buffer`. -/
abbrev BufferId := Nat

/-- `OMX_TICKS`, in microseconds. -/
abbrev Ticks := Int

/-- `OMX_DIRTYPE` -/
inductive OmxDir where
  | input
  | output
  deriving DecidableEq, Repr

/-- The fields of `OMX_BUFFERHEADERTYPE` that the components use, and the direction of the buffer. -/
structure BufferHeader where
  eDir : OmxDir := .input
  pBuffer : List UInt8 := []
  nAllocLen : Nat := 0
  nFilledLen : Nat := 0
  nOffset : Nat := 0
  nTimeStamp : Ticks := 0
  nFlags : BufferFlags := {}
  nPortIndex : Nat := 0
  deriving DecidableEq, Repr

/-- The `nFilledLen` bytes at `nOffset`. -/
def BufferHeader.payload (h : BufferHeader) : List UInt8 :=
  (List.range h.nFilledLen).map fun i => h.pBuffer.getD (h.nOffset + i) 0

@[simp] theorem BufferHeader.length_payload (h : BufferHeader) : h.payload.length = h.nFilledLen := by
  simp [payload]

/-- The range of `unsigned` and `OMX_U32`. -/
def u32 : Nat := 4294967296

/-- Unsigned subtraction, which wraps below zero. -/
def sub32 (a b : Nat) : Nat := if b ≤ a then a - b else a + u32 - b

/-- Unsigned addition, which wraps at the top. -/
def add32 (a b : Nat) : Nat := if a + b < u32 then a + b else a + b - u32

theorem sub32_of_le {a b : Nat} (h : b ≤ a) : sub32 a b = a - b := if_pos h

theorem add32_of_lt {a b : Nat} (h : a + b < u32) : add32 a b = a + b := if_pos h

/-- `BOMX_InputBuffer::UpdateBuffer` -/
def BufferHeader.updateBuffer (amountUsed : Nat) (h : BufferHeader) : BufferHeader :=
  { h with nOffset := add32 h.nOffset amountUsed, nFilledLen := sub32 h.nFilledLen amountUsed }

/-- `BOMX_TickToPts`: microseconds to the 45 kHz clock, cut to 32 bits. -/
def tickToPts (ticks : Ticks) : Nat :=
  if ticks ≤ 0 then 0 else (ticks.toNat / 1000 * 45) % u32

/-- `BOMX_PtsToTick`. -/
def ptsToTick (pts : Nat) : Ticks := (pts * 1000 / 45 : Nat)

end BcmPlatform.Bomx
