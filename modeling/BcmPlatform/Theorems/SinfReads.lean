import BcmPlatform.Lib.Folds
import BcmPlatform.Theorems.BoxReads

/-! `bpiff_parse_sinf` on the boxes of a tree. -/

namespace BcmPlatform.Piff
open Bomx Lib Walk

/-! ### Boxes that are read to their end -/

/-- A box of a protection scheme information box is read to its end: of a scheme URI one byte is skipped, another scheme is
    skipped as behind a header of 8 bytes, and of a scheme information box the first box is read. -/
def SinfBox.Readable : SinfBox → Prop
  | .frma _ _ | .other _ => True
  | .schm wide _ _ schemeType _ uri =>
    if schemeType.toNat = bmp4CencSchemetype ∨ schemeType.toNat = bmp4PiffSchemetype then uri.length ≤ 1 else wide = false
  | .schi _ boxes => boxes.length = 1 ∧ ∀ b ∈ boxes, (b.type = bmp4Extended → IsTrackEncryption b) ∧
      (IsTenc b ∨ IsTrackEncryption b → (encryptionFields b).length = 24)

/-- What is added to the counter: the header that was parsed last, and the size of the box. -/
def SinfBox.increment (b : SinfBox) : Nat :=
  (match b with
    | .schi _ (te :: _) => te.headerLength
    | _ => b.raw.headerLength) + b.raw.size

/-- All boxes are read to their end, and the loop ends behind the last one. -/
def Sinf.Readable (s : Sinf) : Prop :=
  (∀ b ∈ s.boxes, b.Readable) ∧ CountsTo s.raw.size (s.boxes.map SinfBox.increment)

/-! ### What is read -/

/-- What the fields of a track encryption box set. -/
def SinfState.readEncryption (s : SinfState) (l : List UInt8) : SinfState :=
  { s with scheme.trackEncryption := {
    version := beValue (l.take 1)
    flags := beValue ((l.drop 1).take 3)
    algorithm := convertAlgId (beValue ((l.drop 4).take 3))
    ivSize := beValue ((l.drop 7).take 1)
    keyId := l.drop 8 } }

def SinfState.readScheme (s : SinfState) (b : RawBox) : SinfState :=
  if IsTenc b then { s with foundTenc := true }.readEncryption (encryptionFields b)
  else if IsTrackEncryption b then { s with foundExtended := true }.readEncryption (encryptionFields b)
  else s

/-- What a box sets. -/
def SinfBox.read (s : SinfState) : SinfBox → SinfState
  | .frma _ format => { s with scheme.originalFormat := format.toNat, foundFmt := true }
  | .schm _ version flags schemeType schemeVersion _ =>
    let fields : SchemeTypeBox :=
      { version := version.toNat, flags := flags.toNat, schemeType := schemeType.toNat, schemeVersion := schemeVersion.toNat }
    if schemeType.toNat = bmp4CencSchemetype then { s with foundCenc := true, scheme.schemeType := fields }
    else if schemeType.toNat = bmp4PiffSchemetype then { s with foundPiff := true, scheme.schemeType := fields }
    else { s with scheme.schemeType := { fields with schemeVersion := s.scheme.schemeType.schemeVersion } }
  | .schi _ boxes => boxes.foldl SinfState.readScheme s
  | .other _ => s

/-- What a protection scheme information box makes of a track. -/
def Sinf.track (t : Sinf) (track : TrackInfo) : TrackInfo :=
  (t.boxes.foldl SinfBox.read { scheme := track.scheme }).finish track

/-- A key id has its 16 bytes. -/
def ProtectionSchemeInfo.KeySized (scheme : ProtectionSchemeInfo) : Prop := scheme.trackEncryption.keyId.length = 16

theorem keySized_readScheme {s : SinfState} (hs : s.scheme.KeySized) {b : RawBox}
    (hlength : IsTenc b ∨ IsTrackEncryption b → (encryptionFields b).length = 24) :
    (s.readScheme b).scheme.KeySized := by
  have hdrop (h : IsTenc b ∨ IsTrackEncryption b) : ((encryptionFields b).drop 8).length = 16 := by
    rw [List.length_drop, hlength h]
  rw [SinfState.readScheme]
  split_ifs with htenc hencryption
  · exact hdrop (.inl htenc)
  · exact hdrop (.inr hencryption)
  · exact hs

theorem keySized_read {s : SinfState} (hs : s.scheme.KeySized) {b : SinfBox} (hread : b.Readable) :
    (b.read s).scheme.KeySized := by
  cases b with
  | frma wide format => exact hs
  | schm wide version flags schemeType schemeVersion uri =>
    rw [SinfBox.read]
    dsimp only
    split_ifs <;> exact hs
  | schi wide boxes =>
    obtain ⟨hone, hboxes⟩ := hread
    obtain ⟨te, rfl⟩ := List.length_eq_one_iff.mp hone
    exact keySized_readScheme hs (hboxes te (List.mem_singleton_self te)).2
  | other b => exact hs

section Reads
variable {m : Mp4Util} (hm : m.Laws) {s : SinfState} {tail : List UInt8}
include hm

theorem covers_sinfTrackEncryption (hs : s.scheme.KeySized) {l : List UInt8} (hl : l.length = 24) (box teBox : Mp4Box) :
    Covers Exact (sinfTrackEncryption m s box teBox) l (.inl (s.readEncryption l, teBox.headerSize + box.size)) tail := by
  have hsplit (i j : Nat) : (l.drop i).take j ++ l.drop (i + j) = l.drop i := by
    rw [← List.drop_drop]
    exact List.take_append_drop j _
  have hfields : l = (l.take 1 ++ (l.drop 1).take 3) ++ ((l.drop 4).take 3 ++ ((l.drop 7).take 1 ++ l.drop 8)) := by
    rw [hsplit 7 1, hsplit 4 3, List.append_assoc, hsplit 1 3, List.take_append_drop]
  have hkeyId : (l.drop 8).length = 16 := by rw [List.length_drop, hl]
  have hread : overwrite s.scheme.trackEncryption.keyId 0 (l.drop 8) = l.drop 8 := by
    rw [overwrite_nil_place, hkeyId, List.drop_eq_nil_of_le (Nat.le_of_eq hs), List.append_nil]
  rw [SinfState.readEncryption, ← hread]
  nth_rewrite 1 [hfields]
  refine covers_bind exact_composes (covers_parseFullbox hm (by simp [hl]) (by simp [hl])) ?_
  refine covers_bind exact_composes (covers_uint hm (by simp [hl])) ?_
  refine covers_bind exact_composes (covers_uint hm (by simp [hl])) ?_
  exact covers_bind_then exact_composes (covers_takeBytes hkeyId) (covers_pure exact_composes _ _)

theorem covers_sinfSchemeVersion (box : Mp4Box) (schemeVersion : BitVec 32) {uri : List UInt8}
    (huri : s.scheme.schemeType.flags &&& 0x000001 = 0 ↔ uri = []) (hlength : uri.length ≤ 1) :
    Covers Exact (sinfSchemeVersion m s box) (beBytes 4 schemeVersion.toNat ++ uri)
      (.inl ({ s with scheme.schemeType.schemeVersion := schemeVersion.toNat }, box.headerSize + box.size)) tail := by
  refine covers_bind exact_composes (covers_number hm schemeVersion.isLt) ?_
  dsimp only
  split_ifs with hflag
  · have hone : uri.length = 1 := by
      have hne : uri ≠ [] := fun h => hflag (huri.mpr h)
      have hpos := List.length_pos_iff.mpr hne
      omega
    exact covers_bind_then exact_composes (covers_skip exact_composes hone _) (covers_pure exact_composes _ _)
  · rw [huri.mp (not_not.mp hflag)]
    exact covers_pure exact_composes _ _

theorem covers_sinfSchemeType {wide : Bool} {version : BitVec 8} {flags : BitVec 24} {schemeType schemeVersion : BitVec 32}
    {uri : List UInt8} (hwf : (SinfBox.schm wide version flags schemeType schemeVersion uri).WellFormed)
    (hread : (SinfBox.schm wide version flags schemeType schemeVersion uri).Readable) :
    Covers Exact (sinfSchemeType m s (parsed (SinfBox.schm wide version flags schemeType schemeVersion uri).raw))
      (SinfBox.schm wide version flags schemeType schemeVersion uri).raw.payload
      (.inl ((SinfBox.schm wide version flags schemeType schemeVersion uri).read s,
        (SinfBox.schm wide version flags schemeType schemeVersion uri).increment)) tail := by
  rw [SinfBox.Readable] at hread
  rw [SinfBox.raw, ← List.append_assoc (beBytes 1 _)]
  refine covers_bind exact_composes (covers_fullbox hm version flags) ?_
  refine covers_bind exact_composes (covers_number hm schemeType.isLt) ?_
  rw [SinfBox.read]
  dsimp only
  split_ifs with hcenc hpiff
  · rw [if_pos (.inl hcenc)] at hread
    exact covers_sinfSchemeVersion hm _ schemeVersion hwf hread
  · rw [if_pos (.inr hpiff)] at hread
    exact covers_sinfSchemeVersion hm _ schemeVersion hwf hread
  · rw [if_neg (not_or.mpr ⟨hcenc, hpiff⟩)] at hread
    subst hread
    refine covers_bind_then exact_composes (covers_skipLength ?_) (covers_pure exact_composes _ _)
    simp only [parsed, RawBox.size, RawBox.headerLength, List.length_append, length_beBytes, Bool.false_eq_true, if_false]
    omega

theorem covers_sinfSchemeInfo (hs : s.scheme.KeySized) {wide : Bool} {b : RawBox}
    (hcoded : b.Coded) (hextended : b.type = bmp4Extended → IsTrackEncryption b)
    (hlength : IsTenc b ∨ IsTrackEncryption b → (encryptionFields b).length = 24) :
    Covers Exact (sinfSchemeInfo m s (parsed (SinfBox.schi wide [b]).raw)) (SinfBox.schi wide [b]).raw.payload
      (.inl (s.readScheme b, (SinfBox.schi wide [b]).increment)) tail := by
  have hpayload : (SinfBox.schi wide [b]).raw.payload = b.header ++ b.payload := List.append_nil _
  rw [hpayload, SinfState.readScheme]
  refine covers_bind exact_composes (covers_header hm hcoded) ?_
  refine covers_bind_stays exact_composes (covers_visit _ _) ?_
  have hte : (parsed b).type = b.type := rfl
  have hincrement : (SinfBox.schi wide [b]).increment = (parsed b).headerSize + (parsed (SinfBox.schi wide [b]).raw).size := rfl
  rw [hte, hincrement]
  by_cases htenc : IsTenc b
  · have hfields : encryptionFields b = b.payload := if_neg (htenc ▸ by decide)
    have hlength := hlength (.inl htenc)
    rw [if_pos htenc, if_pos (show b.type = bmp4CencTeBox from htenc)]
    rw [hfields] at hlength ⊢
    exact covers_sinfTrackEncryption hm (s := { s with foundTenc := true }) hs hlength _ _
  · rw [if_neg htenc, if_neg (show ¬ b.type = bmp4CencTeBox from htenc)]
    by_cases htype : b.type = bmp4Extended
    · have hencryption := hextended htype
      have hfields : encryptionFields b = b.payload.drop 16 := if_pos htype
      have hlength := hlength (.inr hencryption)
      rw [hfields, List.length_drop] at hlength
      have husertype : (b.payload.take 16).length = 16 := by rw [List.length_take]; omega
      rw [if_pos htype, if_pos hencryption, hfields]
      nth_rewrite 1 [← List.take_append_drop 16 b.payload]
      refine covers_bind exact_composes (covers_parseBoxExtended hm husertype) ?_
      dsimp only
      rw [if_neg (not_not.mpr hencryption.2)]
      refine covers_sinfTrackEncryption hm (s := { s with foundExtended := true }) hs ?_ _ _
      rw [List.length_drop, hlength]
    · rw [if_neg htype, if_neg fun h => htype h.1]
      exact covers_bind_then exact_composes (covers_skipBox b) (covers_pure exact_composes _ _)

theorem covers_sinfBody (hs : s.scheme.KeySized) {b : SinfBox} (hwf : b.WellFormed) (hread : b.Readable) :
    Covers Exact (sinfBody m s (parsed b.raw)) b.raw.payload (.inl (b.read s, b.increment)) tail := by
  have hschm (box : Mp4Box) (h : box.type = bmp4Schemetype) : sinfBody m s box = sinfSchemeType m s box := by
    rw [sinfBody, if_neg (h ▸ by decide), if_pos h]
  have hschi (box : Mp4Box) (h : box.type = bmp4Schemeinfo) : sinfBody m s box = sinfSchemeInfo m s box := by
    rw [sinfBody, if_neg (h ▸ by decide), if_neg (h ▸ by decide), if_pos h]
  cases b with
  | frma wide format =>
    have htype : (parsed (SinfBox.frma wide format).raw).type = bmp4Originalfmt := rfl
    rw [sinfBody, if_pos htype]
    exact covers_bind_then exact_composes (covers_number hm format.isLt) (covers_pure exact_composes _ _)
  | schm wide version flags schemeType schemeVersion uri =>
    rw [hschm _ rfl]
    exact covers_sinfSchemeType hm hwf hread
  | schi wide boxes =>
    obtain ⟨hone, hboxes⟩ := hread
    obtain ⟨te, rfl⟩ := List.length_eq_one_iff.mp hone
    obtain ⟨hextended, hlength⟩ := hboxes te (List.mem_singleton_self te)
    rw [hschi _ rfl]
    exact covers_sinfSchemeInfo hm hs (hwf te (List.mem_singleton_self te)).1 hextended hlength
  | other b =>
    rw [SinfBox.WellFormed] at hwf
    simp only [List.mem_cons, List.not_mem_nil, or_false, not_or] at hwf
    obtain ⟨hfmt, hscheme, hinfo⟩ := hwf
    have htype : (parsed (SinfBox.other b).raw).type = b.type := rfl
    rw [sinfBody, htype, if_neg hfmt, if_neg hscheme, if_neg hinfo]
    exact covers_bind_then exact_composes (covers_skipBox b) (covers_pure exact_composes _ _)

theorem covers_parseSinf {t : Sinf} (hwf : t.WellFormed) (hread : t.Readable) {track : TrackInfo}
    (htrack : track.scheme.KeySized) :
    Covers Exact (parseSinf m (parsed t.raw) track) t.raw.payload (0, t.track track) tail := by
  obtain ⟨hboxes, hcounts⟩ := hread
  have hbody (s : SinfState) (hs : s.scheme.KeySized) (b : SinfBox) (hb : b ∈ t.boxes) :
      (b.read s).scheme.KeySized ∧ b.raw.Coded ∧
        ∀ tail, Covers Exact (sinfBody m s (parsed b.raw)) b.raw.payload (.inl (b.read s, b.increment)) tail :=
    ⟨keySized_read hs (hboxes b hb), (hwf.boxes b hb).1, fun _ => covers_sinfBody hm hs (hwf.boxes b hb).2 (hboxes b hb)⟩
  have hgoes : Goes (sinfBody m) { scheme := track.scheme } _ _ _ := goes_foldl hbody htrack
  exact covers_bind_then exact_composes (hgoes.covers_all hm hcounts) (covers_pure exact_composes _ _)

end Reads

/-! ### What a track is known by -/

section Track
variable {t : Sinf} {s : SinfState} {track : TrackInfo}

/-- What a box changes in the state: what is found, and the fields that describe the track. -/
structure SinfStep (s : SinfState) (b : SinfBox) (s' : SinfState) : Prop where
  foundFmt : s'.foundFmt = (s.foundFmt || b.format?.isSome)
  foundCenc : s'.foundCenc = (s.foundCenc || decide (b.schemeType? = some bmp4CencSchemetype))
  foundPiff : s'.foundPiff = (s.foundPiff || decide (b.schemeType? = some bmp4PiffSchemetype))
  foundTenc : s'.foundTenc = (s.foundTenc || b.schemeBoxes.any (decide <| IsTenc ·))
  foundExtended : s'.foundExtended = (s.foundExtended || b.schemeBoxes.any (decide <| IsTrackEncryption ·))
  originalFormat : s'.scheme.originalFormat = b.format?.getD s.scheme.originalFormat
  keyId : s'.scheme.trackEncryption.keyId = (b.schemeBoxes.findSome? Piff.keyId?).getD s.scheme.trackEncryption.keyId
  decConfig : s'.scheme.decConfig = s.scheme.decConfig
  trackId : s'.scheme.trackId = s.scheme.trackId

theorem sinfStep_refl {b : SinfBox} (hformat : b.format? = none) (htype : b.schemeType? = none) (hboxes : b.schemeBoxes = []) :
    SinfStep s b s := by
  constructor <;> simp [hformat, htype, hboxes]

theorem sinfStep_schm (wide : Bool) (version : BitVec 8) (flags : BitVec 24) (schemeType schemeVersion : BitVec 32)
    (uri : List UInt8) : SinfStep s (.schm wide version flags schemeType schemeVersion uri)
      ((SinfBox.schm wide version flags schemeType schemeVersion uri).read s) := by
  have hne : bmp4CencSchemetype ≠ bmp4PiffSchemetype := by decide
  rw [SinfBox.read]
  dsimp only
  split_ifs with hcenc hpiff
  · constructor <;> simp [SinfBox.format?, SinfBox.schemeType?, SinfBox.schemeBoxes, hcenc, hne]
  · constructor <;> simp [SinfBox.format?, SinfBox.schemeType?, SinfBox.schemeBoxes, hpiff, hne.symm]
  · constructor <;> simp [SinfBox.format?, SinfBox.schemeType?, SinfBox.schemeBoxes, hcenc, hpiff]

theorem sinfStep_schi (wide : Bool) {te : RawBox}
    (hlength : IsTenc te ∨ IsTrackEncryption te → (encryptionFields te).length = 24) :
    SinfStep s (.schi wide [te]) (s.readScheme te) := by
  have hkeyId (h : IsTenc te ∨ IsTrackEncryption te) : Piff.keyId? te = some ((encryptionFields te).drop 8) := by
    rw [Piff.keyId?, if_pos h, List.take_of_length_le (by rw [List.length_drop, hlength h])]
  rw [SinfState.readScheme]
  split_ifs with htenc hencryption
  · have hnot : ¬ IsTrackEncryption te := fun h => absurd (h.1.symm.trans htenc) (by decide)
    constructor <;> simp [SinfBox.format?, SinfBox.schemeType?, SinfBox.schemeBoxes, SinfState.readEncryption, htenc, hnot,
      hkeyId (.inl htenc)]
  · constructor <;> simp [SinfBox.format?, SinfBox.schemeType?, SinfBox.schemeBoxes, SinfState.readEncryption, htenc,
      hencryption, hkeyId (.inr hencryption)]
  · constructor <;> simp [SinfBox.format?, SinfBox.schemeType?, SinfBox.schemeBoxes, Piff.keyId?, htenc, hencryption]

theorem sinfStep_read {b : SinfBox} (hread : b.Readable) : SinfStep s b (b.read s) := by
  cases b with
  | frma wide format => constructor <;> simp [SinfBox.read, SinfBox.format?, SinfBox.schemeType?, SinfBox.schemeBoxes]
  | schm wide version flags schemeType schemeVersion uri => exact sinfStep_schm wide version flags schemeType schemeVersion uri
  | schi wide boxes =>
    obtain ⟨hone, hboxes⟩ := hread
    obtain ⟨te, rfl⟩ := List.length_eq_one_iff.mp hone
    exact sinfStep_schi wide (hboxes te (List.mem_singleton_self te)).2
  | other b => exact sinfStep_refl rfl rfl rfl

variable (hread : t.Readable)
include hread

theorem foldl_read_flag {flag : SinfState → Bool} {sets : SinfBox → Bool}
    (h : ∀ {s b s'}, SinfStep s b s' → flag s' = (flag s || sets b)) (s : SinfState) :
    flag (t.boxes.foldl SinfBox.read s) = (flag s || t.boxes.any sets) :=
  foldl_flag (fun _ b hb => h (sinfStep_read (hread.1 b hb))) s

theorem track_valid_iff : (t.track track).schemeBoxValid = true ↔ track.schemeBoxValid = true ∨ t.Complete := by
  have hfmt := foldl_read_flag hread SinfStep.foundFmt { scheme := track.scheme }
  have hcenc := foldl_read_flag hread SinfStep.foundCenc { scheme := track.scheme }
  have hpiff := foldl_read_flag hread SinfStep.foundPiff { scheme := track.scheme }
  have htenc := foldl_read_flag hread SinfStep.foundTenc { scheme := track.scheme }
  have hextended := foldl_read_flag hread SinfStep.foundExtended { scheme := track.scheme }
  rw [← List.any_flatMap] at htenc hextended
  rw [Sinf.track, SinfState.finish, Sinf.Complete, Sinf.format?, List.findSome?_isSome_iff, Sinf.schemeBoxes]
  dsimp only
  rw [hfmt, hcenc, hpiff, htenc, hextended]
  simp only [Bool.false_or, Bool.or_eq_true, Bool.and_eq_true, List.any_eq_true, decide_eq_true_eq]
  rw [or_assoc, and_assoc, and_assoc, ← and_or_left]
  exact or_congr_right (and_congr_right fun _ => or_comm)

theorem track_originalFormat (hwf : t.WellFormed) {format : Nat} (h : t.format? = some format) :
    (t.track track).scheme.originalFormat = format :=
  foldl_findSome (v := fun s : SinfState => s.scheme.originalFormat)
    (fun _ b hb => (sinfStep_read (hread.1 b hb)).originalFormat) hwf.formats h _

theorem track_keyId (hwf : t.WellFormed) {keyId : List UInt8} (h : t.keyId? = some keyId) :
    (t.track track).scheme.trackEncryption.keyId = keyId := by
  rw [Sinf.keyId?, Sinf.schemeBoxes, findSome_flatMap] at h
  refine foldl_findSome (v := fun s : SinfState => s.scheme.trackEncryption.keyId)
    (fun _ b hb => (sinfStep_read (hread.1 b hb)).keyId) (fun b hb b' hb' k k' hk hk' => ?_) h _
  obtain ⟨te, hte, hk⟩ := List.exists_of_findSome?_eq_some hk
  obtain ⟨te', hte', hk'⟩ := List.exists_of_findSome?_eq_some hk'
  exact hwf.keyIds te (List.mem_flatMap.mpr ⟨b, hb, hte⟩) te' (List.mem_flatMap.mpr ⟨b', hb', hte'⟩) k k' hk hk'

theorem track_decConfig : (t.track track).scheme.decConfig = track.scheme.decConfig :=
  foldl_kept (v := fun s : SinfState => s.scheme.decConfig) (fun _ b hb => (sinfStep_read (hread.1 b hb)).decConfig) _

theorem track_trackId : (t.track track).scheme.trackId = track.scheme.trackId :=
  foldl_kept (v := fun s : SinfState => s.scheme.trackId) (fun _ b hb => (sinfStep_read (hread.1 b hb)).trackId) _

theorem keySized_track (htrack : track.scheme.KeySized) : (t.track track).scheme.KeySized :=
  List.foldlRecOn (motive := fun s : SinfState => s.scheme.KeySized) t.boxes SinfBox.read htrack fun _ hs b hb =>
    keySized_read hs (hread.1 b hb)

end Track

end BcmPlatform.Piff
