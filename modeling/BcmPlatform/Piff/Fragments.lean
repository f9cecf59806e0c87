import BcmPlatform.Piff.Boxes
import Mathlib.Logic.Function.Basic

/-! The parsers of the PIFF fragment header. -/

namespace BcmPlatform.Piff
open Bomx Lib Walk

def bmp4MovieFragment : Nat := bmp4Type 'm' 'o' 'o' 'f'

def bmp4TrackFragment : Nat := bmp4Type 't' 'r' 'a' 'f'

def bmp4TrackFragmentHeader : Nat := bmp4Type 't' 'f' 'h' 'd'

def bmp4TrackFragmentRun : Nat := bmp4Type 't' 'r' 'u' 'n'

def bpiffSamplesPoolSize : Nat := 500

def bpiffMaxEntriesPerSample : Nat := 10

def bpiffMaxSamples : Nat := 1024

/-- `bpiff_drm_mp4_box_se_sample`: an entry by the bytes of clear data and of encrypted data. -/
structure SeSample where
  iv : List UInt8 := List.replicate 16 0
  nbOfEntries : Nat := 0
  entries : Nat → Nat × Nat := fun _ => (0, 0)

/-- `bpiff_drm_mp4_se` -/
structure SamplesEnc where
  flags : Nat := 0
  sampleCount : Nat := 0
  samples : Nat → SeSample := fun _ => {}

section
variable (m : Mp4Util)

/-- `bpiff_mp4_frag_headers` -/
structure FragHeaders where
  trackId : Nat := 0
  trackType : Nat := 0
  runSampleCount : Nat := 0
  state : m.RunState
  sampleInfo : Nat → m.RunSample
  samplesEnc : SamplesEnc := {}

variable {m}

/-! ### `bpiff_parse_sample_enc_extended_box` -/

/-- The entries of a sample, from `j` on. -/
def seEntries (sample : SeSample) : Nat → Nat → BoxWalk SeSample
  | _, 0 => pure sample
  | j, count + 1 => do
    access (.slot .entries j)
    let bytesOfClearData ← get (m.uint 2)
    let bytesOfEncData ← get (m.uint 4)
    seEntries { sample with entries := Function.update sample.entries j (bytesOfClearData, bytesOfEncData) } (j + 1) count

/-- The eight bytes of an IV are copied one by one, from the end of the array on. -/
def copyIv (sample : SeSample) (bytes : List UInt8) : SeSample :=
  { sample with iv := List.replicate 8 0 ++ ((sample.iv.drop 8).take (8 - bytes.length) ++ bytes.reverse) }

/-- A sample; the flag says whether the loop goes on. -/
def seSample (flags i : Nat) (sample : SeSample) : BoxWalk (SeSample × Bool) := do
  access (.slot .samples i)
  let iv ← takeBytes 8
  let sample := copyIv sample iv
  if flags &&& 0x000002 ≠ 0 then
    let nbOfEntries ← get (m.uint 2)
    let sample := { sample with nbOfEntries }
    if bpiffMaxEntriesPerSample < nbOfEntries then return (sample, false)
    else
      let sample ← seEntries (m := m) sample 0 nbOfEntries
      return (sample, true)
  else return (sample, true)

/-- The samples from `i` on, and what is returned. -/
def seSamples : Nat → Nat → SamplesEnc → BoxWalk (Int × SamplesEnc)
  | _, 0, enc => pure (0, enc)
  | i, count + 1, enc => do
    let (sample, goesOn) ← seSample (m := m) enc.flags i (enc.samples i)
    let enc := { enc with samples := Function.update enc.samples i sample }
    if goesOn then seSamples (i + 1) count enc else return (-1, enc)

def parseSampleEncExtendedBox (frag : FragHeaders m) : BoxWalk (Int × FragHeaders m) := do
  match ← get m.parseFullbox with
  | none => return (0, frag)
  | some fullbox =>
    let sampleCount ← get (m.uint 4)
    let enc := { frag.samplesEnc with sampleCount }
    if sampleCount = 0 then return (0, { frag with samplesEnc := enc })
    else if bpiffSamplesPoolSize < sampleCount then return (-1, { frag with samplesEnc := enc })
    else do
      access (.slot .samples 0)
      let enc := { enc with flags := fullbox.flags, samples := Function.update enc.samples 0 {} }
      let (rc, enc) ← seSamples (m := m) 0 sampleCount enc
      return (rc, { frag with samplesEnc := enc })

/-! ### `bpiff_parse_traf` and `bpiff_parse_moof` -/

/-- The samples of a run, from `j` on. -/
def runSamples (tfhd : m.TrackFragmentHeader) (trun : m.TrackFragmentRunHeader) : Nat → Nat → FragHeaders m →
    BoxWalk (FragHeaders m)
  | _, 0, frag => pure frag
  | j, count + 1, frag => do
    access (.slot .sampleInfo j)
    let (sample, state) ← get (m.parseTrackFragmentRunSample tfhd trun frag.state)
    runSamples tfhd trun (j + 1) count { frag with state, sampleInfo := Function.update frag.sampleInfo j sample }

/-- The state of the loop in `bpiff_parse_traf`. -/
structure TrafState (m : Mp4Util) where
  rc : Int := -1
  tfhd : m.TrackFragmentHeader
  frag : FragHeaders m

/-- `trackType` has no value for an id that is too large. -/
def trafHeader (header : Mp4Headers) (s : TrafState m) (increment : Nat) :
    BoxWalk ((TrafState m × Nat) ⊕ (Int × FragHeaders m)) := do
  let tfhd ← get m.parseTrackFragmentHeader
  let trackId := m.trackId tfhd
  access (.trackType (trackId < bpiffMaxNbOfTracks))
  if bpiffMaxNbOfTracks ≤ trackId then stop
  else
    let trackType := (header.scheme trackId).trackType
    if trackType ≠ bmp4SampleEncryptedVideo ∧ trackType ≠ bmp4SampleEncryptedAudio then return .inr (-1, s.frag)
    else return .inl ({ s with tfhd, frag.trackId := trackId, frag.trackType := trackType }, increment)

def trafRun (s : TrafState m) (increment : Nat) : BoxWalk ((TrafState m × Nat) ⊕ (Int × FragHeaders m)) := do
  let trun ← get m.parseTrackFragmentRunHeader
  if bpiffMaxSamples < m.sampleCount trun then return .inr (s.rc, s.frag)
  else
    let frag ← runSamples s.tfhd trun 0 (m.sampleCount trun) { s.frag with runSampleCount := m.sampleCount trun }
    return .inl ({ s with frag }, increment)

def trafBody (header : Mp4Headers) (s : TrafState m) (box : Mp4Box) :
    BoxWalk ((TrafState m × Nat) ⊕ (Int × FragHeaders m)) := do
  let increment := box.headerSize + box.size
  if box.type = bmp4TrackFragmentHeader then trafHeader header s increment
  else if box.type = bmp4TrackFragmentRun then trafRun s increment
  else if box.type = bmp4Extended then
    let _ ← get m.parseBoxExtended
    let (rc, frag) ← parseSampleEncExtendedBox s.frag
    return .inl ({ s with rc, frag }, increment)
  else
    skipBox box
    return .inl (s, increment)

def parseTraf (header : Mp4Headers) (frag : FragHeaders m) (traf : Mp4Box) : BoxWalk (Int × FragHeaders m) := do
  match ← boxLoop m .traf traf.size (trafBody header) 0 { tfhd := m.stackFragmentHeader, frag } with
  | .inl s => return (s.rc, s.frag)
  | .inr result => return result

/-- An iteration over the boxes of a fragment; what the parser of a track returns is not used. -/
def moofBody (header : Mp4Headers) (frag : FragHeaders m) (box : Mp4Box) : BoxWalk ((FragHeaders m × Nat) ⊕ Empty) := do
  if box.type = bmp4TrackFragment then
    let (_, frag) ← parseTraf header frag box
    return .inl (frag, box.headerSize + box.size)
  else
    skipBox box
    return .inl (frag, box.headerSize + box.size)

def moofBoxes (header : Mp4Headers) (frag : FragHeaders m) (moof : Mp4Box) : BoxWalk (Int × FragHeaders m) := do
  match ← boxLoop m .moof moof.size (moofBody header) 0 frag with
  | .inl frag => return (0, frag)

def parseMoof (header : Mp4Headers) (frag : FragHeaders m) : BoxWalk (Int × FragHeaders m) := do
  match ← get m.parseBox.toReader with
  | none => return (-1, frag)
  | some moof => if moof.type = bmp4MovieFragment then moofBoxes header frag moof else return (-1, frag)

end
end BcmPlatform.Piff
