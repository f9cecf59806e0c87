import BcmPlatform.Audio.TunnelFrames

/-! The positions that the outputs report, from counters of the hardware that are read through 32 bits. -/

namespace BcmPlatform.Audio
open Bomx

/-- The counters of `brcm_stream_out`; `lastCount` is `lastPlayedBytes` for the primary output. -/
structure BoutCounters where
  framesPlayed : Nat := 0
  framesPlayedTotal : Nat := 0
  lastCount : Nat := 0
  deriving DecidableEq, Repr

/-- `NEXUS_PCM_FRAMES_PER_EAC3_FRAME` -/
def nexusPcmFramesPerEac3Frame : Nat := 1536

namespace BoutCounters
variable (frameSize status : Nat) (b : BoutCounters)

/-- The frames in the bytes since the last reading. -/
def foldBytes : BoutCounters :=
  { b with framesPlayed := b.framesPlayed + sub32 status b.lastCount / frameSize, lastCount := status }

/-- The frames since the last reading. -/
def foldFrames : BoutCounters := { b with framesPlayed := b.framesPlayed + sub32 status b.lastCount, lastCount := status }

/-- The end of `nexus_bout_start` and the others. -/
def started : BoutCounters := { b with lastCount := 0, framesPlayed := 0 }

/-- The end of `nexus_bout_stop` and the others. -/
def stopped : BoutCounters :=
  { b with framesPlayedTotal := b.framesPlayedTotal + b.framesPlayed, lastCount := 0, framesPlayed := 0 }

/-! ### `brcm_audio_nexus` -/

def nexusBoutGetRenderPosition : Nat × BoutCounters :=
  let b := b.foldBytes frameSize status
  (b.framesPlayed % u32, b)

def nexusBoutGetPresentationPosition : Nat × BoutCounters :=
  let b := b.foldBytes frameSize status
  (b.framesPlayedTotal + b.framesPlayed, b)

def nexusBoutStop : BoutCounters := (b.foldBytes frameSize status).stopped

/-! ### `brcm_audio_nexus_direct` -/

/-- The counters after the status is read. -/
def directFold (playpumpMode : Bool) : BoutCounters :=
  if playpumpMode then b.foldFrames status else b.foldBytes frameSize status

def nexusDirectBoutGetRenderPosition (playpumpMode : Bool) : Nat × BoutCounters :=
  let b := b.directFold frameSize status playpumpMode
  if playpumpMode then
    let dspFrames := b.framesPlayed * nexusPcmFramesPerEac3Frame % u32
    (if b.framesPlayed ≠ 0 then (dspFrames + nexusPcmFramesPerEac3Frame / 2) % u32 else dspFrames, b)
  else (b.framesPlayed % u32, b)

def nexusDirectBoutGetPresentationPosition (playpumpMode : Bool) : Nat × BoutCounters :=
  let b := b.directFold frameSize status playpumpMode
  if playpumpMode then
    let frames := (b.framesPlayedTotal + b.framesPlayed) * nexusPcmFramesPerEac3Frame
    (if frames ≠ 0 then frames + nexusPcmFramesPerEac3Frame / 2 else frames, b)
  else (b.framesPlayedTotal + b.framesPlayed, b)

def nexusDirectBoutStop (playpumpMode : Bool) : BoutCounters := (b.directFold frameSize status playpumpMode).stopped

/-! ### `brcm_audio_nexus_tunnel` -/

/-- The samples that a decoded frame counts for. -/
def samplesPerFrame : CompressedFormat → Nat
  | .ac3 | .eAc3 => nexusPcmFramesPerEac3Frame
  | .dts | .dtsHd => 1

def nexusTunnelBoutGetRenderPosition (pcmFormat : Bool) (format : CompressedFormat) : Nat × BoutCounters :=
  if frameSize = 0 then (0, b)
  else if pcmFormat then (status / frameSize % u32, b)
  else
    let b := b.foldFrames status
    (b.framesPlayed * samplesPerFrame format % u32, b)

def nexusTunnelBoutGetPresentationPosition (pcmFormat : Bool) (format : CompressedFormat) : Nat × BoutCounters :=
  if frameSize = 0 then (b.framesPlayedTotal, b)
  else if pcmFormat then (b.framesPlayedTotal + status / frameSize, b)
  else
    let b := b.foldFrames status
    ((b.framesPlayedTotal + b.framesPlayed) * samplesPerFrame format, b)

def nexusTunnelBoutStop (pcmFormat : Bool) : BoutCounters :=
  if 0 < frameSize then
    if pcmFormat then
      { b with framesPlayedTotal := b.framesPlayedTotal + status / frameSize, lastCount := 0, framesPlayed := 0 }
    else (b.foldFrames status).stopped
  else { b with lastCount := 0, framesPlayed := 0 }

end BoutCounters

/-- The outputs, with what their positions depend on. -/
inductive PositionOutput where
  | nexus
  | direct (playpumpMode : Bool)
  | tunnel (pcmFormat : Bool) (format : CompressedFormat)
  deriving DecidableEq, Repr

namespace PositionOutput
variable (frameSize status : Nat) (b : BoutCounters)

/-- `do_bout_get_render_position` -/
def getRenderPosition : PositionOutput → Nat × BoutCounters
  | .nexus => b.nexusBoutGetRenderPosition frameSize status
  | .direct playpumpMode => b.nexusDirectBoutGetRenderPosition frameSize status playpumpMode
  | .tunnel pcmFormat format => b.nexusTunnelBoutGetRenderPosition frameSize status pcmFormat format

/-- `do_bout_get_presentation_position` -/
def getPresentationPosition : PositionOutput → Nat × BoutCounters
  | .nexus => b.nexusBoutGetPresentationPosition frameSize status
  | .direct playpumpMode => b.nexusDirectBoutGetPresentationPosition frameSize status playpumpMode
  | .tunnel pcmFormat format => b.nexusTunnelBoutGetPresentationPosition frameSize status pcmFormat format

/-- `do_bout_stop` -/
def stop : PositionOutput → BoutCounters
  | .nexus => b.nexusBoutStop frameSize status
  | .direct playpumpMode => b.nexusDirectBoutStop frameSize status playpumpMode
  | .tunnel pcmFormat _ => b.nexusTunnelBoutStop frameSize status pcmFormat

/-- A position query moves the baseline of the counter. -/
def folds : PositionOutput → Bool
  | .tunnel pcmFormat _ => !pcmFormat
  | _ => true

end PositionOutput

inductive PositionAction where
  | start
  | stop
  /-- The hardware plays on by so many bytes, or decodes so many frames. -/
  | play (n : Nat)
  | renderPosition
  | presentationPosition
  deriving DecidableEq, Repr

/-- An output and its hardware. `count` is what was played since the last start. Three histories: the counts of the finished
    sessions, and their parts between the readings that moved the baseline, with those of the current session. -/
structure PositionRun where
  bout : BoutCounters := {}
  started : Bool := false
  count : Nat := 0
  finished : List Nat := []
  parts : List Nat := []
  sessions : List (List Nat) := []
  deriving DecidableEq, Repr

namespace PositionRun
variable (o : PositionOutput) (frameSize : Nat)

/-- The counter as its 32 bits are read. -/
def status (s : PositionRun) : Nat := s.count % u32

/-- What was played since the last reading. -/
def rest (s : PositionRun) : Nat := s.count - s.parts.sum

/-- A reading moves the baseline of a session. -/
def read (s : PositionRun) : PositionRun :=
  if s.started && o.folds then { s with parts := s.parts ++ [s.rest] } else s

/-- The position that a query would get. -/
def presentationPosition (s : PositionRun) : Nat := (o.getPresentationPosition frameSize s.status s.bout).1

/-- An output is started and stopped in turn. -/
def step (s : PositionRun) : PositionAction → Option PositionRun
  | .start => if s.started then none else some { s with bout := s.bout.started, started := true, count := 0, parts := [] }
  | .stop =>
    if s.started then some { s with
      bout := o.stop frameSize s.status s.bout
      started := false
      finished := s.finished ++ [s.count]
      parts := []
      sessions := s.sessions ++ [s.parts ++ [s.rest]] }
    else none
  | .play n => if s.started then some { s with count := s.count + n } else none
  | .renderPosition => some { s.read o with bout := (o.getRenderPosition frameSize s.status s.bout).2 }
  | .presentationPosition => some { s.read o with bout := (o.getPresentationPosition frameSize s.status s.bout).2 }

end PositionRun
end BcmPlatform.Audio
