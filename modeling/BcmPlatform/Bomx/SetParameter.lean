import BcmPlatform.Bomx.VideoDecoder

/-! `BOMX_VideoDecoder::SetParameter` with `OMX_IndexParamPortDefinition`: the base class stores the definition, then the
    decoder looks at what is stored and adjusts it. -/

namespace BcmPlatform.Bomx

/-- `cMIMEType` is compared by address: one of the component's two strings, or another one. -/
inductive MimeType where
  | input
  | output
  | other (address : Nat)
  deriving DecidableEq, Repr

/-- `OMX_VIDEO_PORTDEFINITIONTYPE` without the frame size. `none` is a coding that the decoder does not have, and `rest`
    holds the fields that are only copied. -/
structure VideoFormat where
  cMIMEType : MimeType
  eCompressionFormat : Option VideoCodec := none
  nStride : Nat := 0
  nSliceHeight : Nat := 0
  rest : Nat := 0
  deriving DecidableEq, Repr

/-- The `OMX_PARAM_PORTDEFINITIONTYPE` of a client; the first two fields tell whether `nSize` and `nVersion` are
    right. -/
structure PortParameter where
  sizeValid : Bool := true
  versionValid : Bool := true
  definition : PortDefinition
  format : VideoFormat
  deriving DecidableEq, Repr

/-- `OMX_ErrorVersionMismatch` -/
def OmxError.versionMismatch : OmxError := .other 0x8000100F

/-- The video decoder with the fields that `SetParameter` reads or writes. `GetCodec` returns the input port's
    `eCompressionFormat`. -/
structure ParameterState where
  d : VideoDecoder
  inputFormat : VideoFormat
  outputFormat : VideoFormat
  maxDecoderWidth : Nat
  maxDecoderHeight : Nat
  /-- The number of descriptors in `m_pPlaypumpDescList`. -/
  playpumpDescList : Option Nat
  hcodec : inputFormat.eCompressionFormat = some d.codec

/-- `ComputeBufferSize` -/
def computeBufferSize (stride height : Nat) : Nat := stride * height * 3 % u32 / 2

namespace ParameterState

/-- The `SetParameter` of the base class. -/
def storeDefinition (p : PortParameter) (s : ParameterState)
    (hcodec : p.definition.nPortIndex = 0 → p.format.eCompressionFormat = some s.d.codec) : ParameterState :=
  if hindex : p.definition.nPortIndex = 0 then
    { s with
      d := { s.d with inp := { s.d.inp with port := s.d.inp.port.setDefinition p.definition } }
      inputFormat := p.format
      hcodec := hcodec hindex }
  else
    { s with
      d := { s.d with out := { s.d.out with port := s.d.out.port.setDefinition p.definition } }
      outputFormat := p.format }

/-- The check of a new frame size against the decoder's maximum, and what follows from the frame size. -/
def verifyOutputPort (s : ParameterState) : ParameterState × OmxError :=
  let portDef := s.d.out.port.definition
  let width := portDef.nFrameWidth
  let height := portDef.nFrameHeight
  if width > s.maxDecoderWidth ∨ height > s.maxDecoderHeight then (s, .badParameter)
  else
    let port := s.d.out.port.setDefinition { portDef with nBufferSize := computeBufferSize width height }
    ({ s with
      d := { s.d with out := { s.d.out with port, outputWidth := width, outputHeight := height } }
      outputFormat := { s.outputFormat with nStride := width, nSliceHeight := height } }, .none)

/-- `VerifyInputPortBuffers`, which also drops the list of descriptors. -/
def verifyInputPort (s : ParameterState) : ParameterState × OmxError :=
  match verifyInputPortBuffers s.d.inp.port with
  | .error err => (s, err)
  | .ok (port, maxDescriptorsPerBuffer) =>
    ({ s with
      d := { s.d with inp := { s.d.inp with port, maxDescriptorsPerBuffer } }
      playpumpDescList := none }, .none)

def setPortDefinition (p : PortParameter) (s : ParameterState) : ParameterState × OmxError :=
  let index := p.definition.nPortIndex
  if !p.sizeValid then (s, .badParameter)
  else if !p.versionValid then (s, .versionMismatch)
  else if index = 0 ∧ p.format.cMIMEType ≠ .input then (s, .badParameter)
  else if index = 1 ∧ p.format.cMIMEType ≠ .output then (s, .badParameter)
  else if index ≠ 0 ∧ index ≠ 1 then (s, .badPortIndex)
  else if hformat : index = 0 ∧ p.format.eCompressionFormat ≠ some s.d.codec then (s, .badParameter)
  else
    let s := s.storeDefinition p fun hindex => not_not.mp fun hne => hformat ⟨hindex, hne⟩
    if index = 1 then s.verifyOutputPort else s.verifyInputPort

end ParameterState
end BcmPlatform.Bomx
