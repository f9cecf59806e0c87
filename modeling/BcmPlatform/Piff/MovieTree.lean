import BcmPlatform.Lib.IsoBoxes
import BcmPlatform.Piff.Boxes

/-! PIFF movie headers as trees of boxes: how a tree is written, when it is well formed, and what it says about the protection
    of its tracks. -/

namespace BcmPlatform.Piff
open Lib

/-! ### Protection scheme information -/

/-- A box of a protection scheme information box. -/
inductive SinfBox where
  | frma (wide : Bool) (format : BitVec 32)
  | schm (wide : Bool) (version : BitVec 8) (flags : BitVec 24) (schemeType schemeVersion : BitVec 32) (uri : List UInt8)
  | schi (wide : Bool) (boxes : List RawBox)
  | other (b : RawBox)

namespace SinfBox

def raw : SinfBox → RawBox
  | frma wide format => { wide, type := bmp4Originalfmt, payload := beBytes 4 format.toNat }
  | schm wide version flags schemeType schemeVersion uri =>
    { wide, type := bmp4Schemetype, payload := beBytes 1 version.toNat ++ (beBytes 3 flags.toNat ++
        (beBytes 4 schemeType.toNat ++ (beBytes 4 schemeVersion.toNat ++ uri))) }
  | schi wide boxes => { wide, type := bmp4Schemeinfo, payload := boxesBytes boxes }
  | other b => b

def format? : SinfBox → Option Nat
  | frma _ format => some format.toNat
  | _ => none

def schemeType? : SinfBox → Option Nat
  | schm _ _ _ schemeType _ _ => some schemeType.toNat
  | _ => none

/-- The boxes of the scheme. -/
def schemeBoxes : SinfBox → List RawBox
  | schi _ boxes => boxes
  | _ => []

end SinfBox

/-- The box with the key id in the CENC scheme. -/
def IsTenc (b : RawBox) : Prop := b.type = bmp4CencTeBox

/-- The box with the key id in the PIFF scheme. -/
def IsTrackEncryption (b : RawBox) : Prop := b.type = bmp4Extended ∧ b.payload.take 16 = trackEncExtendedType

instance (b : RawBox) : Decidable (IsTenc b) := inferInstanceAs (Decidable (_ = _))

instance (b : RawBox) : Decidable (IsTrackEncryption b) := inferInstanceAs (Decidable (_ ∧ _))

/-- The fields behind the type: a full box, the algorithm, the size of the IV and the key id. -/
def encryptionFields (b : RawBox) : List UInt8 := if b.type = bmp4Extended then b.payload.drop 16 else b.payload

def keyId? (b : RawBox) : Option (List UInt8) :=
  if IsTenc b ∨ IsTrackEncryption b then some (((encryptionFields b).drop 8).take 16) else none

structure Sinf where
  wide : Bool := false
  boxes : List SinfBox

namespace Sinf
variable (s : Sinf)

def raw : RawBox :=
  { wide := s.wide, type := bmp4Protectionschemeinfo, payload := boxesBytes (s.boxes.map SinfBox.raw) }

/-- All boxes of the scheme. -/
def schemeBoxes : List RawBox := s.boxes.flatMap SinfBox.schemeBoxes

def format? : Option Nat := s.boxes.findSome? SinfBox.format?

def keyId? : Option (List UInt8) := s.schemeBoxes.findSome? Piff.keyId?

/-- There is a format, and a scheme with its key id. -/
def Complete : Prop :=
  s.format?.isSome ∧
    ((∃ b ∈ s.boxes, b.schemeType? = some bmp4CencSchemetype) ∧ (∃ b ∈ s.schemeBoxes, IsTenc b) ∨
      (∃ b ∈ s.boxes, b.schemeType? = some bmp4PiffSchemetype) ∧ ∃ b ∈ s.schemeBoxes, IsTrackEncryption b)

instance : Decidable s.Complete := inferInstanceAs (Decidable (_ ∧ (_ ∧ _ ∨ _ ∧ _)))

end Sinf

/-! ### Sample entries -/

inductive EntryBox where
  | sinf (s : Sinf)
  | other (b : RawBox)

def EntryBox.raw : EntryBox → RawBox
  | sinf s => s.raw
  | other b => b

variable (m : Mp4Util)

/-- The configuration of the decoder in a box: the payload, or what the probe finds for AAC. -/
def EntryBox.config? : EntryBox → Option (List UInt8)
  | sinf _ => none
  | other b =>
    if b.type ∈ configTypes then some b.payload
    else if b.type = bmp4CencEsds then some (m.probeAacInfo (b.payload.drop aacEsdsEsHdrOffset))
    else none

/-- A sinf box that is complete. -/
def EntryBox.complete? : EntryBox → Option Sinf
  | sinf s => if s.Complete then some s else none
  | other _ => none

inductive SampleEntry where
  | encrypted (wide video : Bool) (fixed : List UInt8) (boxes : List EntryBox)
  | clear (b : RawBox)

/-- What is to be known of a protected track. -/
structure Protection where
  originalFormat : Option Nat
  keyId : Option (List UInt8)
  config : Option (List UInt8)
  deriving DecidableEq, Repr

namespace SampleEntry

def raw : SampleEntry → RawBox
  | encrypted wide video fixed boxes =>
    { wide, type := if video then bmp4SampleEncryptedVideo else bmp4SampleEncryptedAudio,
      payload := fixed ++ boxesBytes (boxes.map EntryBox.raw) }
  | clear b => b

def protection? : SampleEntry → Option Protection
  | encrypted _ _ _ boxes => (boxes.findSome? EntryBox.complete?).map fun s =>
      { originalFormat := s.format?, keyId := s.keyId?, config := boxes.findSome? (EntryBox.config? m) }
  | clear _ => none

end SampleEntry

/-! ### Tracks -/

/-- The sample descriptions, with one entry. -/
structure Stsd where
  wide : Bool := false
  version : BitVec 8 := 0
  flags : BitVec 24 := 0
  entry : SampleEntry

def Stsd.raw (s : Stsd) : RawBox :=
  { wide := s.wide, type := bmp4Sampledescription,
    payload := beBytes 1 s.version.toNat ++ (beBytes 3 s.flags.toNat ++ (beBytes 4 1 ++ s.entry.raw.bytes)) }

/-- A container: one child, and other boxes around it. -/
structure Around (α : Type) where
  wide : Bool := false
  before : List RawBox := []
  child : α
  after : List RawBox := []

namespace Around
variable {α : Type} (childRaw : α → RawBox) (a : Around α)

def boxes : List RawBox := a.before ++ childRaw a.child :: a.after

def raw (type : Nat) : RawBox := { wide := a.wide, type, payload := boxesBytes (a.boxes childRaw) }

end Around

abbrev Stbl : Type := Around Stsd

abbrev Minf : Type := Around Stbl

abbrev Mdia : Type := Around Minf

def Stbl.raw (s : Stbl) : RawBox := Around.raw Stsd.raw s bmp4Sampletable

def Minf.raw (s : Minf) : RawBox := Around.raw Stbl.raw s bmp4Mediainformation

def Mdia.raw (s : Mdia) : RawBox := Around.raw Minf.raw s bmp4Media

/-- A track header, with times of 32 or of 64 bits. -/
structure Tkhd where
  wide : Bool := false
  long : Bool := false
  flags : BitVec 24 := 0
  times : List UInt8
  id : BitVec 32
  rest : List UInt8

namespace Tkhd

def raw (t : Tkhd) : RawBox :=
  { wide := t.wide, type := bmp4Trackheader,
    payload := beBytes 1 t.long.toNat ++ (beBytes 3 t.flags.toNat ++ (t.times ++ (beBytes 4 t.id.toNat ++ t.rest))) }

/-- The fields have the sizes that they have in a track header. -/
def Sized (t : Tkhd) : Prop :=
  t.times.length = (if t.long then 16 else 8) ∧ t.rest.length = if t.long then 72 else 68

end Tkhd

/-- A track: its header and its media, in any order, with other boxes around them. -/
structure Trak where
  wide : Bool := false
  mediaFirst : Bool := false
  before : List RawBox := []
  tkhd : Tkhd
  between : List RawBox := []
  mdia : Mdia
  after : List RawBox := []

namespace Trak
variable (t : Trak)

def boxes : List RawBox :=
  if t.mediaFirst then t.before ++ t.mdia.raw :: (t.between ++ t.tkhd.raw :: t.after)
  else t.before ++ t.tkhd.raw :: (t.between ++ t.mdia.raw :: t.after)

def raw : RawBox := { wide := t.wide, type := bmp4Track, payload := boxesBytes t.boxes }

def id : Nat := t.tkhd.id.toNat

def entry : SampleEntry := t.mdia.child.child.child.entry

end Trak

/-! ### Movie headers -/

/-- The header of a protection system; the ids of keys are listed from version 1 on. -/
structure Pssh where
  version : BitVec 8 := 0
  flags : BitVec 24 := 0
  systemId : List UInt8
  kids : List (List UInt8) := []
  data : List UInt8

namespace Pssh

def payload (p : Pssh) : List UInt8 :=
  beBytes 1 p.version.toNat ++ (beBytes 3 p.flags.toNat ++ (p.systemId ++
    ((if p.version = 0 then [] else beBytes 4 p.kids.length ++ p.kids.flatten) ++ (beBytes 4 p.data.length ++ p.data))))

def IsPlayReady (p : Pssh) : Prop := p.systemId = bmediaProtectionSystemIdentifierGuid

instance (p : Pssh) : Decidable p.IsPlayReady := inferInstanceAs (Decidable (_ = _))

end Pssh

/-- A box of a movie header. The header of a protection system has a type of its own, or an extended type. -/
inductive MoovBox where
  | trak (t : Trak)
  | pssh (wide : Bool) (p : Pssh)
  | psshExtended (wide : Bool) (p : Pssh)
  | extended (wide : Bool) (usertype payload : List UInt8)
  | other (b : RawBox)

namespace MoovBox

def raw : MoovBox → RawBox
  | trak t => t.raw
  | pssh wide p => { wide, type := bmp4DashPssh, payload := p.payload }
  | psshExtended wide p => { wide, type := bmp4Extended, payload := psshExtendedType ++ p.payload }
  | extended wide usertype payload => { wide, type := bmp4Extended, payload := usertype ++ payload }
  | other b => b

def trak? : MoovBox → Option Trak
  | trak t => some t
  | _ => none

/-- The data for PlayReady. -/
def playReady? : MoovBox → Option (List UInt8)
  | pssh _ p | psshExtended _ p => if p.IsPlayReady then some p.data else none
  | _ => none

end MoovBox

structure Moov where
  wide : Bool := false
  boxes : List MoovBox

namespace Moov
variable (t : Moov)

def raw : RawBox := { wide := t.wide, type := bmp4Movie, payload := boxesBytes (t.boxes.map MoovBox.raw) }

def tracks : List Trak := t.boxes.filterMap MoovBox.trak?

/-- The data for PlayReady that come last. -/
def playReady? : Option (List UInt8) := (t.boxes.filterMap MoovBox.playReady?).getLast?

end Moov

/-! ### Well-formed trees -/

/-- Boxes that a loop skips. -/
def Skipped (types : List Nat) (boxes : List RawBox) : Prop := ∀ b ∈ boxes, b.Coded ∧ b.type ∉ types

/-- A scheme URI is there where the flag for it is set, and a box of the scheme has the fields of its type. -/
def SinfBox.WellFormed : SinfBox → Prop
  | frma _ _ => True
  | schm _ _ flags _ _ uri => (flags.toNat &&& 0x000001 = 0 ↔ uri = [])
  | schi _ boxes => ∀ b ∈ boxes, b.Coded ∧ (b.type = bmp4Extended → 16 ≤ b.payload.length) ∧
      (IsTenc b ∨ IsTrackEncryption b → 24 ≤ (encryptionFields b).length)
  | other b => b.type ∉ [bmp4Originalfmt, bmp4Schemetype, bmp4Schemeinfo]

/-- There are not two formats or two key ids. -/
structure Sinf.WellFormed (s : Sinf) : Prop where
  coded : s.raw.Coded
  boxes : ∀ b ∈ s.boxes, b.raw.Coded ∧ b.WellFormed
  formats : ∀ b ∈ s.boxes, ∀ b' ∈ s.boxes, ∀ f f', b.format? = some f → b'.format? = some f' → f = f'
  keyIds : ∀ b ∈ s.schemeBoxes, ∀ b' ∈ s.schemeBoxes, ∀ k k', Piff.keyId? b = some k → Piff.keyId? b' = some k' →
    k = k'

def EntryBox.WellFormed : EntryBox → Prop
  | sinf s => s.WellFormed
  | other b => b.Coded ∧ b.type ≠ bmp4Protectionschemeinfo ∧
      (b.type = bmp4CencEsds → aacEsdsEsHdrOffset + 2 ≤ b.payload.length)

/-- The fixed part has its size, and there are not two configurations. -/
def SampleEntry.WellFormed : SampleEntry → Prop
  | .encrypted wide video fixed boxes =>
    (SampleEntry.encrypted wide video fixed boxes).raw.Coded ∧
    fixed.length = (if video then bmp4VisualEntrySize else bmp4AudioEntrySize) ∧ (∀ b ∈ boxes, b.WellFormed) ∧
    ∀ b ∈ boxes, ∀ b' ∈ boxes, ∀ c c', b.config? m = some c → b'.config? m = some c' → c = c'
  | .clear b => b.Coded ∧ b.type ∉ [bmp4SampleEncryptedVideo, bmp4SampleEncryptedAudio]

def Stsd.WellFormed (s : Stsd) : Prop := s.raw.Coded ∧ s.entry.WellFormed m

def Stbl.WellFormed (s : Stbl) : Prop :=
  s.raw.Coded ∧ Skipped [bmp4Sampledescription] (s.before ++ s.after) ∧ s.child.WellFormed m

def Minf.WellFormed (s : Minf) : Prop :=
  s.raw.Coded ∧ Skipped [bmp4Sampletable] (s.before ++ s.after) ∧ Stbl.WellFormed m s.child

def Mdia.WellFormed (s : Mdia) : Prop :=
  s.raw.Coded ∧ Skipped [bmp4Mediainformation] (s.before ++ s.after) ∧ Minf.WellFormed m s.child

structure Trak.WellFormed (t : Trak) : Prop where
  coded : t.raw.Coded
  tkhd : t.tkhd.raw.Coded ∧ t.tkhd.Sized
  id : 1 ≤ t.id ∧ t.id ≤ 4
  mdia : Mdia.WellFormed m t.mdia
  others : Skipped [bmp4Trackheader, bmp4Media] (t.before ++ (t.between ++ t.after))

def Pssh.WellFormed (p : Pssh) : Prop := p.systemId.length = 16 ∧ p.data.length < 2 ^ 32

def MoovBox.WellFormed : MoovBox → Prop
  | trak t => t.WellFormed m
  | pssh wide p => (pssh wide p).raw.Coded ∧ p.WellFormed
  | psshExtended wide p => (psshExtended wide p).raw.Coded ∧ p.WellFormed
  | extended wide usertype payload =>
    (extended wide usertype payload).raw.Coded ∧ usertype.length = 16 ∧ usertype ≠ psshExtendedType
  | other b => b.Coded ∧ b.type ∉ [bmp4Extended, bmp4DashPssh, bmp4Track]

/-- The ids of the tracks are different. -/
structure Moov.WellFormed (t : Moov) : Prop where
  coded : t.raw.Coded
  boxes : ∀ b ∈ t.boxes, b.WellFormed m
  ids : (t.tracks.map Trak.id).Nodup

end BcmPlatform.Piff
