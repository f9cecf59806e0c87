import BcmPlatform.Bomx.AudioOutput

/-! The compensation of the codec delay in `BOMX_AudioDecoder`: the first samples of a stream are trimmed from its decoded
    frames, and the buffer with the end of the stream is padded with as many samples. -/

namespace BcmPlatform.Bomx

/-- `GetCodecDelay`, with the values of the two properties. -/
def getCodecDelay (mp3Delay aacDelay : Int) : AudioCodec → Int
  | .mp3 => mp3Delay
  | .aac => aacDelay
  | .ac3 => 0

/-- `m_bitsPerSample` and `m_numPcmChannels`. Mono is decoded as stereo. -/
structure PcmFormat where
  bitsPerSample : Nat
  numPcmChannels : Nat
  hbits : 8 ≤ bitsPerSample
  hchannels : 2 ≤ numPcmChannels
  deriving DecidableEq, Repr

/-- The size of a sample of all channels. -/
def PcmFormat.sampleBytes (f : PcmFormat) : Nat := f.bitsPerSample / 8 * f.numPcmChannels

/-- The lengths in the header of an output buffer. -/
structure OutputHeader where
  nAllocLen : UInt32 := 0
  nOffset : Nat := 0
  nFilledLen : Nat := 0
  deriving DecidableEq, Repr

/-- A decoded frame of `filledBytes` bytes as it went to the client, and the sample size then. -/
structure ReturnedFrame where
  filledBytes : Nat
  sampleBytes : Nat
  nOffset : Nat
  nFilledLen : Nat
  deriving DecidableEq, Repr

/-- The output side with the fields of the compensation. `codecDelay` is what `GetCodecDelay` returns. `frames` lists the
    decoded frames that were returned since the decoder was started, and `eosHeader` is the header of the buffer with the
    end of the stream. -/
structure TrimmedOutput where
  out : AudioOutput
  codecDelay : Int
  pcm : PcmFormat
  codecDelayAdjusted : Int
  header : BufferId → OutputHeader
  frames : List ReturnedFrame
  eosHeader : Option OutputHeader

namespace TrimmedOutput
open AudioOutput

/-! ### Decoded frames -/

/-- The samples that are trimmed from a frame. A sample has at least two bytes, so the number of samples fits an
    `int`. -/
def delaySamples (filledBytes : Nat) (t : TrimmedOutput) : Int :=
  let delaySamples := t.codecDelay - t.codecDelayAdjusted
  if filledBytes > 0 ∧ delaySamples > 0 then
    let frameSamples : Int := (filledBytes / t.pcm.sampleBytes : Nat)
    if delaySamples > frameSamples then frameSamples else delaySamples
  else 0

/-- `delaySamples * (m_bitsPerSample/8) * m_numPcmChannels` -/
def sampleLength (delaySamples : Int) (t : TrimmedOutput) : Nat := delaySamples.toNat * t.pcm.sampleBytes % u32

/-- Sets the offset and the length of a frame in the header of its buffer. -/
def trimFrame (filledBytes : Nat) (b : BufferId) (t : TrimmedOutput) : TrimmedOutput :=
  let delaySamples := t.delaySamples filledBytes
  let nOffset := t.sampleLength delaySamples
  let nOffset := if nOffset > filledBytes then filledBytes else nOffset
  { t with
    codecDelayAdjusted := t.codecDelayAdjusted + delaySamples
    header := Function.update t.header b { t.header b with nOffset, nFilledLen := sub32 filledBytes nOffset } }

def returnFrame (q : QueuedBlock) (f : AudioFrame) (b : BufferId) (ticks : Ticks) (t : TrimmedOutput) : TrimmedOutput :=
  let h := t.header b
  { t with
    out := t.out.returnFrame q f b ticks
    frames := t.frames ++
      [{ filledBytes := f.filledBytes, sampleBytes := t.pcm.sampleBytes, nOffset := h.nOffset
         nFilledLen := h.nFilledLen }] }

/-- The loop of `PollDecodedFrames`. A frame is trimmed before it is known whether it is returned. -/
def deliver : List (QueuedBlock × AudioFrame) → TrimmedOutput → TrimmedOutput × DeliverEnd
  | [], t => (t, .all)
  | (q, f) :: rest, t =>
    let d := t.out.d
    if f.sampleRate ≠ d.sampleRate ∧ 0 < f.filledBytes then
      ({ t with out := { t.out with d := { d with formatChangePending := true, sampleRate := f.sampleRate } } },
        .formatChange)
    else
      match f.buffer with
      | none => deliver rest t
      | some b =>
        let p := d.takeTracked f.pts
        let out := t.out.setNexusOwned b false
        let t := t.trimFrame f.filledBytes b
        if p.2.2 then
          if p.1.inp.eosPending && !p.1.eosReady then
            deliver rest ({ t with out := { out with d := { p.1 with eosReady := true } } }.returnFrame q f b p.2.1)
          else ({ t with out := { out with d := p.1 } }, .fatal)
        else deliver rest ({ t with out := { out with d := p.1 } }.returnFrame q f b p.2.1)

/-- The end of the stream, padded with the samples that were trimmed. The zeros are written without a look at
    `nAllocLen`. -/
def deliverEos (r : AudioReport) (b : BufferId) (t : TrimmedOutput) : TrimmedOutput :=
  let nFilledLen := if t.codecDelayAdjusted > 0 then t.sampleLength t.codecDelayAdjusted else 0
  let header := { t.header b with nFilledLen }
  { t with out := t.out.deliverEos r b, header := Function.update t.header b header, eosHeader := some header }

def pollDecodedFrames (r : AudioReport) (t : TrimmedOutput) : TrimmedOutput :=
  if t.out.d.formatChangePending || t.out.d.eosDelivered then t
  else if t.out.d.outPort.queueDepth > 0 then
    match r.frames with
    | none => t
    | some frames =>
      let p := t.deliver (t.out.reported frames)
      if p.2 ≠ .all then p.1
      else if p.1.out.endsStream r then
        match p.1.out.d.outPort.getBuffer with
        | some b => p.1.deliverEos r b
        | none => p.1
      else p.1
  else t

/-! ### Other calls -/

/-- `StartDecoder` -/
def startDecoder (n : AudioDecoder.StartResult) (t : TrimmedOutput) : TrimmedOutput × Bool :=
  let p := t.out.startDecoder n
  if t.out.d.decoderState ≠ .stopped ∨ !n.decoder then ({ t with out := p.1 }, p.2)
  else ({ t with out := p.1, codecDelayAdjusted := 0, frames := [], eosHeader := none }, p.2)

/-- `FillThisBuffer`, which resets the header. -/
def fillThisBuffer (accepted : Bool) (b : BufferId) (t : TrimmedOutput) : TrimmedOutput :=
  { t with
    out := t.out.fillThisBuffer accepted b
    header := Function.update t.header b { t.header b with nOffset := 0, nFilledLen := 0 } }

/-- `AddOutputPortBuffer` with a buffer of `nSizeBytes` bytes. -/
def addOutputBuffer (b : BufferId) (block : Nat) (nSizeBytes : UInt32) (t : TrimmedOutput) : TrimmedOutput :=
  { t with
    out := t.out.addOutputBuffer b block
    header :=
      if b ∈ t.out.d.outPort.bufferList then t.header
      else Function.update t.header b { nAllocLen := nSizeBytes } }

/-- `SetParameter` with `OMX_IndexParamAudioPcm`, once Nexus took the settings. -/
def setPcm (sampleRate : Nat) (pcm : PcmFormat) (t : TrimmedOutput) : TrimmedOutput :=
  { t with out := { t.out with d := { t.out.d with sampleRate } }, pcm }

end TrimmedOutput

/-- The steps between the start of the decoder and the end of the stream; `output` is one that neither polls nor starts
    or stops the decoder. -/
inductive TrimmedAction where
  | outputFrameEvent (r : AudioReport)
  | fillThisBuffer (accepted : Bool) (b : BufferId)
  | allocateOutputBuffer (b : BufferId) (block : Nat) (nSizeBytes : UInt32)
  | setPcm (sampleRate : Nat) (pcm : PcmFormat)
  | output (a : AudioOutputAction)

/-- The actions of the output side that leave decoded frames and the decoder's start alone. -/
def AudioOutputAction.keepsDecoding : AudioOutputAction → Bool
  | .input _ | .freeOutputBuffer _ | .addOutputBuffers _ | .removeOutputBuffers _ | .setOutputPortState .. | .flushOutput ..
  | .portEnable _ => true
  | _ => false

namespace TrimmedOutput

/-- Nexus decodes whole samples, as many as fit a memory block. -/
def wholeFrames (t : TrimmedOutput) (r : AudioReport) : Bool :=
  (r.frames.getD []).all fun f => f.filledBytes % t.pcm.sampleBytes = 0 && f.filledBytes < u32

/-- One step; `none` when it is not possible. -/
def step (t : TrimmedOutput) : TrimmedAction → Option TrimmedOutput
  | .outputFrameEvent r => if t.wholeFrames r then some (t.pollDecodedFrames r) else none
  | .fillThisBuffer accepted b => if b ∈ t.out.d.outPort.bufferList then some (t.fillThisBuffer accepted b) else none
  | .allocateOutputBuffer b block nSizeBytes =>
    (t.out.step (.allocateOutputBuffer b block)).map fun _ => t.addOutputBuffer b block nSizeBytes
  | .setPcm sampleRate pcm => some (t.setPcm sampleRate pcm)
  | .output a => if a.keepsDecoding then (t.out.step a).map fun out => { t with out } else none

end TrimmedOutput
end BcmPlatform.Bomx
