import BcmPlatform.Bomx.Omx
import BcmPlatform.Lib.Walks
import BcmPlatform.Piff.SeekBox

/-! The parsers of the PIFF movie header. What they call of the MP4 utilities, of the byte cursors and of the memory of the
    platform is a parameter. A read behind the end of the bytes is harmless; a write outside of a table and the use of a variable
    without a value are undefined, and nothing is said about what comes after them. -/

namespace BcmPlatform.Piff
open Bomx Lib Walk

/-- `BMP4_TYPE` -/
def bmp4Type (a b c d : Char) : Nat := ((a.toNat * 256 + b.toNat) * 256 + c.toNat) * 256 + d.toNat

def bmp4Movie : Nat := bmp4Type 'm' 'o' 'o' 'v'

def bmp4Track : Nat := bmp4Type 't' 'r' 'a' 'k'

def bmp4Trackheader : Nat := bmp4Type 't' 'k' 'h' 'd'

def bmp4Media : Nat := bmp4Type 'm' 'd' 'i' 'a'

def bmp4Mediainformation : Nat := bmp4Type 'm' 'i' 'n' 'f'

def bmp4Sampletable : Nat := bmp4Type 's' 't' 'b' 'l'

def bmp4Sampledescription : Nat := bmp4Type 's' 't' 's' 'd'

def bmp4SampleEncryptedVideo : Nat := bmp4Type 'e' 'n' 'c' 'v'

def bmp4SampleEncryptedAudio : Nat := bmp4Type 'e' 'n' 'c' 'a'

def bmp4Extended : Nat := bmp4Type 'u' 'u' 'i' 'd'

def bmp4Protectionschemeinfo : Nat := bmp4Type 's' 'i' 'n' 'f'

def bmp4Originalfmt : Nat := bmp4Type 'f' 'r' 'm' 'a'

def bmp4Schemetype : Nat := bmp4Type 's' 'c' 'h' 'm'

def bmp4Schemeinfo : Nat := bmp4Type 's' 'c' 'h' 'i'

def bmp4PiffSchemetype : Nat := bmp4Type 'p' 'i' 'f' 'f'

def bmp4CencSchemetype : Nat := bmp4Type 'c' 'e' 'n' 'c'

def bmp4CencTeBox : Nat := bmp4Type 't' 'e' 'n' 'c'

def bmp4DashPssh : Nat := bmp4Type 'p' 's' 's' 'h'

def bmp4CencAvcc : Nat := bmp4Type 'a' 'v' 'c' 'C'

def bmp4CencEsds : Nat := bmp4Type 'e' 's' 'd' 's'

def bmp4CencWfex : Nat := bmp4Type 'w' 'f' 'e' 'x'

def bmp4CencDvc1 : Nat := bmp4Type 'd' 'v' 'c' '1'

/-- The sizes of the entries for video and for audio in front of their boxes. -/
def bmp4VisualEntrySize : Nat := 78

def bmp4AudioEntrySize : Nat := 28

def aacEsdsEsHdrOffset : Nat := 35

def bpiffMaxNbOfTracks : Nat := 5

def bpiffMaxPpsSps : Nat := 256

/-- The system id of PlayReady. -/
def bmediaProtectionSystemIdentifierGuid : List UInt8 :=
  [0x9A, 0x04, 0xF0, 0x79, 0x98, 0x40, 0x42, 0x86, 0xAB, 0x92, 0xE6, 0x5B, 0xE0, 0x88, 0x5F, 0x95]

def psshExtendedType : List UInt8 :=
  [0xd0, 0x8a, 0x4f, 0x18, 0x10, 0xf3, 0x4a, 0x82, 0xb6, 0xc8, 0x32, 0xd8, 0xab, 0xa1, 0x83, 0xd3]

def trackEncExtendedType : List UInt8 :=
  [0x89, 0x74, 0xdb, 0xce, 0x7b, 0xe7, 0x4c, 0x51, 0x84, 0xf9, 0x71, 0x48, 0xf9, 0x88, 0x25, 0x54]

/-- A header that was parsed: what `bmp4_parse_box` returns, the coded size of the box and its type. -/
structure Mp4Box where
  headerSize : Nat
  size : Nat
  type : Nat
  deriving DecidableEq, Repr

structure FullBox where
  version : Nat
  flags : Nat
  deriving DecidableEq, Repr

/-- The functions of the MP4 utilities, of the cursors, of the probe for AAC and of the memory that are called, with the types
    of what is handed from one to the other; and what variables hold before something is written to them. -/
structure Mp4Util where
  parseBox : HeaderReader Mp4Box
  parseFullbox : Reader (Option FullBox)
  parseBoxExtended : Reader (Option (List UInt8))
  parseTrackheader : List UInt8 → Option Nat
  TrackFragmentHeader : Type
  TrackFragmentRunHeader : Type
  RunState : Type
  RunSample : Type
  parseTrackFragmentHeader : Reader TrackFragmentHeader
  parseTrackFragmentRunHeader : Reader TrackFragmentRunHeader
  parseTrackFragmentRunSample : TrackFragmentHeader → TrackFragmentRunHeader → RunState → Reader (RunSample × RunState)
  trackId : TrackFragmentHeader → Nat
  sampleCount : TrackFragmentRunHeader → Nat
  stackFragmentHeader : TrackFragmentHeader
  uint : Nat → Reader Nat
  probeAacInfo : List UInt8 → List UInt8
  allocate : Nat → Bool
  stackSystemId : List UInt8

/-- Which loop comes to a box. -/
inductive Place where
  | moov
  | trak
  | mdia
  | minf
  | stbl
  | stsd
  | entry
  | sinf
  | schi
  | moof
  | traf
  deriving DecidableEq, Repr

inductive Table where
  | scheme
  | sampleInfo
  | samples
  | entries
  deriving DecidableEq, Repr

/-- What could go wrong: a length that is computed for a skip or a copy, bytes that are written to the front of
    `decConfig.data`, an element of a table that is written, and a use of `trackType`. -/
inductive Access where
  | length (n : Int)
  | config (written : Nat)
  | slot (table : Table) (index : Nat)
  | trackType (isSet : Bool)
  deriving DecidableEq, Repr

/-- What is logged: a box that a loop comes to, with the bytes behind its header; the end of a track, with whether it has a
    valid scheme, and its id; an access; and the end of the parser of a box, with the bytes behind the header of the box and
    those that are left. -/
inductive BoxEvent where
  | visit (place : Place) (box : Mp4Box) (rest : List UInt8)
  | track (valid : Bool) (id : Nat)
  | access (a : Access)
  | left (box : Mp4Box) (start rest : List UInt8)
  deriving DecidableEq, Repr

abbrev BoxWalk : Type → Type := Walk BoxEvent

/-- A length as a `size_t`, of which a negative one is a huge one. -/
def sizeT (n : Int) : Nat := if 0 ≤ n then n.toNat else (n + 18446744073709551616).toNat

def access (a : Access) : BoxWalk Unit := event (.access a)

/-- `batom_cursor_skip` by a length that is computed. -/
def skipLength (n : Int) : BoxWalk Unit := do
  access (.length n)
  skip (sizeT n)

def skipBox (box : Mp4Box) : BoxWalk Unit := skipLength ((box.size : Int) - box.headerSize)

/-- `batom_cursor_copy` by a fixed number of bytes. -/
def takeBytes (n : Nat) : BoxWalk (List UInt8) := do
  let l ← peek
  skip n
  return l.take n

def visit (place : Place) (box : Mp4Box) : BoxWalk Unit := do
  let l ← peek
  event (.visit place box l)

/-- The parser of a box. -/
def parsing {α : Type} (box : Mp4Box) (p : BoxWalk α) : BoxWalk α := do
  let start ← peek
  let a ← p
  let rest ← peek
  event (.left box start rest)
  return a

section
variable (m : Mp4Util) {σ ρ : Type}

/-- What the body of a loop leads to, with the counter. -/
def countOn (i : Nat) : (σ × Nat) ⊕ ρ → (Nat × σ) ⊕ ρ
  | .inl (s, increment) => .inl ((i + increment) % u32, s)
  | .inr r => .inr r

/-- A loop over boxes, with its counter: the body says how much is added to it, or ends the loop. -/
def boxLoop (place : Place) (limit : Nat) (body : σ → Mp4Box → BoxWalk ((σ × Nat) ⊕ ρ)) (i : Nat) (s : σ) :
    BoxWalk (σ ⊕ ρ) := do
  let result ← scan m.parseBox (fun s : Nat × σ => decide (s.1 < limit)) (fun s box => do
    visit place box
    let next ← body s.2 box
    return countOn s.1 next) (i, s)
  return result.map (·.2) id

inductive EncryptionType where
  | none
  | aesCtr
  | aesCbc
  deriving DecidableEq, Repr

/-- `CONVERT_ALG_ID_TO_BPIFF_ENCR_STATE` -/
def convertAlgId (algId : Nat) : EncryptionType := if algId = 0 then .none else if algId = 1 then .aesCtr else .aesCbc

structure SchemeTypeBox where
  version : Nat := 0
  flags : Nat := 0
  schemeType : Nat := 0
  schemeVersion : Nat := 0
  deriving DecidableEq, Repr

structure TrackEncryptionBox where
  version : Nat := 0
  flags : Nat := 0
  algorithm : EncryptionType := .none
  ivSize : Nat := 0
  keyId : List UInt8 := List.replicate 16 0
  deriving DecidableEq, Repr

structure DecoderCfg where
  size : Nat := 0
  data : List UInt8 := List.replicate bpiffMaxPpsSps 0
  deriving DecidableEq, Repr

/-- `bpiff_protectionSchemeInfo` -/
structure ProtectionSchemeInfo where
  schemeType : SchemeTypeBox := {}
  originalFormat : Nat := 0
  trackEncryption : TrackEncryptionBox := {}
  decConfig : DecoderCfg := {}
  trackId : Nat := 0
  trackType : Nat := 0
  deriving DecidableEq, Repr

structure TrackInfo where
  scheme : ProtectionSchemeInfo := {}
  schemeBoxValid : Bool := false
  piff13 : Bool := false
  deriving DecidableEq, Repr

/-- `bpiff_mp4_headers` -/
structure Mp4Headers where
  psshSystemId : List UInt8 := List.replicate 16 0
  psshData : Option (List UInt8) := none
  psshDataLength : Nat := 0
  scheme : Nat → ProtectionSchemeInfo := fun _ => {}
  nbOfSchemes : Nat := 0
  piff13 : Bool := false

/-! ### `bpiff_parse_sinf` -/

/-- The scheme, and what was found. -/
structure SinfState where
  scheme : ProtectionSchemeInfo
  foundPiff : Bool := false
  foundFmt : Bool := false
  foundExtended : Bool := false
  foundCenc : Bool := false
  foundTenc : Bool := false

/-- What an iteration of the loop in `bpiff_parse_sinf` leads to: the state with what is added to the counter, or the exit. -/
abbrev SinfNext : Type := (SinfState × Nat) ⊕ (Int × SinfState)

/-- Behind the type of a scheme that is known. -/
def sinfSchemeVersion (s : SinfState) (box : Mp4Box) : BoxWalk SinfNext := do
  let schemeVersion ← get (m.uint 4)
  let s := { s with scheme.schemeType.schemeVersion := schemeVersion }
  if s.scheme.schemeType.flags &&& 0x000001 ≠ 0 then skip 1
  return .inl (s, box.headerSize + box.size)

def sinfSchemeType (s : SinfState) (box : Mp4Box) : BoxWalk SinfNext := do
  match ← get m.parseFullbox with
  | none => return .inr (-1, s)
  | some fullbox =>
    let schemeType ← get (m.uint 4)
    let s := { s with
      scheme.schemeType.version := fullbox.version
      scheme.schemeType.flags := fullbox.flags
      scheme.schemeType.schemeType := schemeType }
    if schemeType = bmp4CencSchemetype then sinfSchemeVersion m { s with foundCenc := true } box
    else if schemeType = bmp4PiffSchemetype then sinfSchemeVersion m { s with foundPiff := true } box
    else do
      skipLength ((box.size : Int) - box.headerSize - box.headerSize)
      return .inl (s, box.headerSize + box.size)

/-- The fields of a track encryption box. The size of its header is what is added to the counter, besides the size of `box`. -/
def sinfTrackEncryption (s : SinfState) (box teBox : Mp4Box) : BoxWalk SinfNext := do
  match ← get m.parseFullbox with
  | none => return .inr (-1, s)
  | some fullbox =>
    let algId ← get (m.uint 3)
    let ivSize ← get (m.uint 1)
    let keyId ← takeBytes 16
    let s := { s with
      scheme.trackEncryption.version := fullbox.version
      scheme.trackEncryption.flags := fullbox.flags
      scheme.trackEncryption.algorithm := convertAlgId algId
      scheme.trackEncryption.ivSize := ivSize
      scheme.trackEncryption.keyId := overwrite s.scheme.trackEncryption.keyId 0 keyId }
    return .inl (s, teBox.headerSize + box.size)

def sinfSchemeInfo (s : SinfState) (box : Mp4Box) : BoxWalk SinfNext := do
  match ← get m.parseBox.toReader with
  | none => return .inl (s, box.size)
  | some teBox =>
    visit .schi teBox
    if teBox.type = bmp4CencTeBox then sinfTrackEncryption m { s with foundTenc := true } box teBox
    else if teBox.type = bmp4Extended then do
      let s := { s with foundExtended := true }
      match ← get m.parseBoxExtended with
      | none => return .inr (-1, s)
      | some usertype =>
        if usertype ≠ trackEncExtendedType then return .inr (0, s) else sinfTrackEncryption m s box teBox
    else do
      skipBox teBox
      return .inl (s, teBox.headerSize + box.size)

def sinfBody (s : SinfState) (box : Mp4Box) : BoxWalk SinfNext :=
  if box.type = bmp4Originalfmt then do
    let codingName ← get (m.uint 4)
    return .inl ({ s with scheme.originalFormat := codingName, foundFmt := true }, box.headerSize + box.size)
  else if box.type = bmp4Schemetype then sinfSchemeType m s box
  else if box.type = bmp4Schemeinfo then sinfSchemeInfo m s box
  else do
    skipBox box
    return .inl (s, box.headerSize + box.size)

/-- What is found makes the scheme of the track valid. -/
def SinfState.finish (s : SinfState) (track : TrackInfo) : TrackInfo :=
  let piff := s.foundFmt && s.foundPiff && s.foundExtended
  let cenc := s.foundFmt && s.foundCenc && s.foundTenc
  { scheme := s.scheme, schemeBoxValid := track.schemeBoxValid || piff || cenc, piff13 := track.piff13 || cenc }

def parseSinf (box : Mp4Box) (track : TrackInfo) : BoxWalk (Int × TrackInfo) := do
  match ← boxLoop m .sinf box.size (sinfBody m) 0 { scheme := track.scheme } with
  | .inl s => return (0, s.finish track)
  | .inr (rc, s) => return (rc, s.finish track)

/-! ### `bpiff_parse_stsd` -/

/-- The types of the boxes that are copied to the decoder configuration. -/
def configTypes : List Nat := [bmp4CencDvc1, bmp4CencAvcc, bmp4CencWfex]

/-- A copy to `decConfig.data`, of a length that is computed. -/
def copyConfig (n : Int) (track : TrackInfo) : BoxWalk TrackInfo := do
  access (.length n)
  let l ← peek
  let written := l.take (sizeT n)
  access (.config written.length)
  if bpiffMaxPpsSps < written.length then stop
  else do
    skip (sizeT n)
    return { track with scheme.decConfig := { size := sizeT n, data := overwrite track.scheme.decConfig.data 0 written } }

/-- `decConfig` for AAC: what the probe finds in the bytes behind the header of the descriptor. -/
def aacConfig (track : TrackInfo) : BoxWalk TrackInfo := do
  let l ← peek
  let info := m.probeAacInfo (l.drop aacEsdsEsHdrOffset)
  access (.config info.length)
  if bpiffMaxPpsSps < info.length then stop
  else
    return { track with
      scheme.decConfig := { size := info.length, data := overwrite track.scheme.decConfig.data 0 info } }

/-- An iteration over the boxes of an entry, with `rc`. -/
def entryBody (s : Int × TrackInfo) (box : Mp4Box) : BoxWalk (((Int × TrackInfo) × Nat) ⊕ (Int × TrackInfo)) := do
  if box.type = bmp4Protectionschemeinfo then
    let (rc, track) ← parsing box (parseSinf m box s.2)
    if rc ≠ 0 then return .inr (rc, track)
    else if track.schemeBoxValid then return .inr (rc, track)
    else return .inl ((rc, track), box.size)
  else if box.type = bmp4CencDvc1 ∨ box.type = bmp4CencAvcc ∨ box.type = bmp4CencWfex then
    let track ← copyConfig ((box.size : Int) - box.headerSize) s.2
    return .inl ((s.1, track), box.size)
  else if box.type = bmp4CencEsds then
    let track ← aacConfig m s.2
    skipBox box
    return .inl ((s.1, track), box.size)
  else
    skipBox box
    return .inl (s, box.size)

/-- An iteration over the entries. -/
def stsdBody (s : Int × TrackInfo) (entryBox : Mp4Box) : BoxWalk (((Int × TrackInfo) × Nat) ⊕ (Int × TrackInfo)) := do
  if entryBox.type = bmp4SampleEncryptedVideo ∨ entryBox.type = bmp4SampleEncryptedAudio then
    let skipBytes := if entryBox.type = bmp4SampleEncryptedVideo then bmp4VisualEntrySize else bmp4AudioEntrySize
    skip skipBytes
    match ← boxLoop m .entry entryBox.size (entryBody m) ((skipBytes + entryBox.headerSize) % u32)
        (s.1, { s.2 with scheme.trackType := entryBox.type }) with
    | .inl s => return .inl (s, 1)
    | .inr s => return .inr s
  else
    skipBox entryBox
    return .inl (s, 1)

def parseStsd (track : TrackInfo) : BoxWalk (Int × TrackInfo) := do
  match ← get m.parseFullbox with
  | none => return (-1, track)
  | some _ =>
    let entryCount ← get (m.uint 4)
    match ← boxLoop m .stsd entryCount (stsdBody m) 0 (-1, track) with
    | .inl s => return s
    | .inr s => return s

/-! ### The containers of a track -/

/-- An iteration of a parser that looks for boxes of one type; what their parser returns ends it, where that is not 0. -/
def containerBody (type : Nat) (parse : Mp4Box → TrackInfo → BoxWalk (Int × TrackInfo)) (s : Int × TrackInfo) (box : Mp4Box) :
    BoxWalk (((Int × TrackInfo) × Nat) ⊕ (Int × TrackInfo)) := do
  if box.type = type then
    let (rc, track) ← parsing box (parse box s.2)
    if rc ≠ 0 then return .inr (rc, track)
    else return .inl ((rc, track), box.headerSize + box.size)
  else
    skipBox box
    return .inl (s, box.headerSize + box.size)

def container (place : Place) (type : Nat) (parse : Mp4Box → TrackInfo → BoxWalk (Int × TrackInfo)) (box : Mp4Box)
    (track : TrackInfo) : BoxWalk (Int × TrackInfo) := do
  match ← boxLoop m place box.size (containerBody type parse) 0 ((0 : Int), track) with
  | .inl s => return s
  | .inr s => return s

def parseStbl : Mp4Box → TrackInfo → BoxWalk (Int × TrackInfo) :=
  container m .stbl bmp4Sampledescription fun _ track => parseStsd m track

def parseMinf : Mp4Box → TrackInfo → BoxWalk (Int × TrackInfo) := container m .minf bmp4Sampletable (parseStbl m)

def parseMdia : Mp4Box → TrackInfo → BoxWalk (Int × TrackInfo) := container m .mdia bmp4Mediainformation (parseMinf m)

/-! ### `bpiff_parse_trak` -/

/-- An iteration over the boxes of a track. -/
def trakBody (track : TrackInfo) (box : Mp4Box) : BoxWalk ((TrackInfo × Nat) ⊕ Int) := do
  if box.type = bmp4Trackheader then
    let start ← peek
    skipBox box
    let rest ← peek
    match m.parseTrackheader (start.take (start.length - rest.length)) with
    | none => return .inr (-1)
    | some trackId => return .inl ({ track with scheme.trackId := trackId }, box.headerSize + box.size)
  else if box.type = bmp4Media then
    let (rc, track) ← parsing box (parseMdia m box track)
    if rc ≠ 0 then return .inr rc else return .inl (track, box.headerSize + box.size)
  else
    skipBox box
    return .inl (track, box.headerSize + box.size)

/-- What is done with a track that was read. -/
def storeTrack (header : Mp4Headers) (track : TrackInfo) : BoxWalk Mp4Headers := do
  event (.track track.schemeBoxValid track.scheme.trackId)
  let header := { header with piff13 := header.piff13 || track.piff13 }
  if track.schemeBoxValid then
    access (.slot .scheme track.scheme.trackId)
    if bpiffMaxNbOfTracks ≤ track.scheme.trackId then stop
    else
      return { header with
        scheme := Function.update header.scheme track.scheme.trackId track.scheme
        nbOfSchemes := (header.nbOfSchemes + 1) % u32 }
  else return header

def parseTrak (header : Mp4Headers) (box : Mp4Box) : BoxWalk (Int × Mp4Headers) := do
  match ← boxLoop m .trak box.size (trakBody m) 0 {} with
  | .inl track =>
    let header ← storeTrack header track
    return (0, header)
  | .inr rc => return (rc, header)

/-! ### The protection system headers, and `bpiff_parse_moov` -/

/-- The data of the PlayReady system. -/
def readPsshData (header : Mp4Headers) (systemId : List UInt8) : BoxWalk (Int × Mp4Headers) := do
  let psshDataLength ← get (m.uint 4)
  let header := { header with psshSystemId := systemId, psshDataLength }
  if ¬ m.allocate psshDataLength then return (-1, header)
  else do
    let psshData ← takeBytes psshDataLength
    return (0, { header with psshData := some psshData })

/-- The rest of a box of another system is skipped. -/
def skipPssh (header : Mp4Headers) (box : Mp4Box) : BoxWalk (Int × Mp4Headers) := do
  skipLength ((box.size : Int) - 8 - 4 - 16)
  return (0, header)

def parsePiffPssh (header : Mp4Headers) (box : Mp4Box) : BoxWalk (Int × Mp4Headers) := do
  match ← get m.parseBoxExtended with
  | none => return (-1, header)
  | some usertype =>
    match ← get m.parseFullbox with
    | none => return (-1, header)
    | some _ =>
      if usertype = psshExtendedType then
        let systemId ← takeBytes 16
        if overwrite m.stackSystemId 0 systemId = bmediaProtectionSystemIdentifierGuid then
          readPsshData m header (overwrite m.stackSystemId 0 systemId)
        else return (-1, header)
      else skipPssh header box

def parseDashPssh (header : Mp4Headers) (box : Mp4Box) : BoxWalk (Int × Mp4Headers) := do
  match ← get m.parseFullbox with
  | none => return (-1, header)
  | some _ =>
    let systemId ← takeBytes 16
    if overwrite m.stackSystemId 0 systemId = bmediaProtectionSystemIdentifierGuid then
      readPsshData m header (overwrite m.stackSystemId 0 systemId)
    else skipPssh header box

/-- An iteration over the boxes of a movie header. -/
def moovBody (header : Mp4Headers) (box : Mp4Box) : BoxWalk ((Mp4Headers × Nat) ⊕ (Int × Mp4Headers)) := do
  let next (result : Int × Mp4Headers) : (Mp4Headers × Nat) ⊕ (Int × Mp4Headers) :=
    if result.1 ≠ 0 then .inr result else .inl (result.2, box.size)
  if box.type = bmp4Extended then
    let result ← parsePiffPssh m header box
    return next result
  else if box.type = bmp4DashPssh then
    let result ← parseDashPssh m header box
    return next result
  else if box.type = bmp4Track then
    let result ← parsing box (parseTrak m header box)
    return next result
  else
    skipBox box
    return .inl (header, box.size)

/-- Behind the header of the box. -/
def moovBoxes (header : Mp4Headers) (moov : Mp4Box) : BoxWalk (Int × Mp4Headers) := do
  match ← boxLoop m .moov moov.size (moovBody m) (moov.headerSize % u32) header with
  | .inl header => return (0, header)
  | .inr result => return result

def parseMoov (header : Mp4Headers) : BoxWalk (Int × Mp4Headers) := do
  match ← get m.parseBox.toReader with
  | none => return (-1, header)
  | some moov => if moov.type = bmp4Movie then parsing moov (moovBoxes m header moov) else return (-1, header)

end

/-! ### A plain reader of boxes -/

/-- The first bytes, where there are as many. -/
def plainReader {α : Type} (n : Nat) (parse : List UInt8 → α) : Reader (Option α) where
  read l := if l.length < n then (none, []) else (some (parse (l.take n)), l.drop n)
  length_le l := by
    split_ifs
    · exact Nat.zero_le _
    · rw [List.length_drop]
      exact Nat.sub_le _ _

/-- A size of 1 stands for a size of 64 bits behind the type. -/
def plainBox (l : List UInt8) : Option Mp4Box × List UInt8 :=
  if l.length < 8 then (none, [])
  else if beValue (l.take 4) ≠ 1 then (some ⟨8, beValue (l.take 4), beValue ((l.drop 4).take 4)⟩, l.drop 8)
  else if l.length < 16 then (none, [])
  else (some ⟨16, beValue ((l.drop 8).take 8), beValue ((l.drop 4).take 4)⟩, l.drop 16)

def plainHeader : HeaderReader Mp4Box where
  read := plainBox
  length_le l := by
    unfold plainBox
    split_ifs <;> simp
  length_lt {l a} h := by
    unfold plainBox at h ⊢
    split_ifs at h ⊢
    · change (l.drop 8).length < _
      rw [List.length_drop]
      omega
    · change (l.drop 16).length < _
      rw [List.length_drop]
      omega

/-- Functions that read as much as is documented, of a fragment only the id of the track and the number of samples. -/
def plainUtil : Mp4Util where
  parseBox := plainHeader
  parseFullbox := plainReader 4 fun l => ⟨beValue (l.take 1), beValue (l.drop 1)⟩
  parseBoxExtended := plainReader 16 id
  parseTrackheader l := some (beValue ((l.drop (if beValue (l.take 1) = 1 then 20 else 12)).take 4))
  TrackFragmentHeader := Nat
  TrackFragmentRunHeader := Nat
  RunState := Unit
  RunSample := Unit
  parseTrackFragmentHeader :=
    ⟨fun l => (beValue ((l.drop 4).take 4), l.drop 8), fun l => by rw [List.length_drop]; exact Nat.sub_le _ _⟩
  parseTrackFragmentRunHeader :=
    ⟨fun l => (beValue ((l.drop 4).take 4), l.drop 8), fun l => by rw [List.length_drop]; exact Nat.sub_le _ _⟩
  parseTrackFragmentRunSample _ _ _ := ⟨fun l => (((), ()), l), fun _ => Nat.le_refl _⟩
  trackId := id
  sampleCount := id
  stackFragmentHeader := 0
  uint n := ⟨fun l => (beValue (l.take n), l.drop n), fun l => by rw [List.length_drop]; exact Nat.sub_le _ _⟩
  probeAacInfo l := l.take 2
  allocate _ := true
  stackSystemId := List.replicate 16 0

end BcmPlatform.Piff
