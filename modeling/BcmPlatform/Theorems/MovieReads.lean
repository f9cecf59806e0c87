import Mathlib.Data.List.Perm.Subperm
import BcmPlatform.Theorems.SinfReads

/-! `bpiff_parse_moov` on trees of boxes: the header is read completely where no parser leaves the tree. -/

namespace BcmPlatform.Piff
open Bomx Lib Walk

/-! ### Sample entries -/

/-- A sinf box is read to its end, and a configuration fits its field. -/
def EntryBox.Readable : EntryBox → Prop
  | .sinf t => t.Readable
  | .other b => b.type ∈ configTypes → b.payload.length ≤ bpiffMaxPpsSps

/-- The boxes of an entry of a size: there is a sinf box, a sinf box that is complete is the last box, and without one the
    counter of 32 bits comes to the size of the entry. -/
structure EntryReadable (size : Nat) (boxes : List EntryBox) : Prop where
  readable : ∀ b ∈ boxes, b.Readable
  sinf : ∃ t, EntryBox.sinf t ∈ boxes
  last : ∀ init b rest, boxes = init ++ b :: rest → b.complete?.isSome → rest = []
  size : boxes.findSome? EntryBox.complete? = none → size < 2 ^ 32

/-- An entry is encrypted, and its boxes are read to their end. -/
def SampleEntry.Readable : SampleEntry → Prop
  | .encrypted wide video fixed boxes => EntryReadable (SampleEntry.encrypted wide video fixed boxes).raw.size boxes
  | .clear _ => False

variable (m : Mp4Util)

/-- What is written to the configuration of the decoder. -/
def TrackInfo.configure (track : TrackInfo) (config : List UInt8) : TrackInfo :=
  { track with
    scheme.decConfig := { size := config.length, data := overwrite track.scheme.decConfig.data 0 config } }

/-- What a box of an entry makes of `rc` and the track. -/
def EntryBox.read (s : Int × TrackInfo) : EntryBox → Int × TrackInfo
  | .sinf t => (0, t.track s.2)
  | .other b => (s.1, match (EntryBox.other b).config? m with
      | some config => s.2.configure config
      | none => s.2)

def SampleEntry.track (track : TrackInfo) : SampleEntry → TrackInfo
  | .encrypted wide video fixed boxes =>
    (boxes.foldl (EntryBox.read m)
      (-1, { track with scheme.trackType := (SampleEntry.encrypted wide video fixed boxes).raw.type })).2
  | .clear _ => track

/-- A track whose scheme is not valid so far. -/
structure TrackInfo.Open (track : TrackInfo) : Prop where
  keySized : track.scheme.KeySized
  notValid : track.schemeBoxValid = false

variable {m}

section Entry
variable (hm : m.Laws) {tail : List UInt8} {track : TrackInfo}

theorem covers_copyConfig {b : RawBox} (hfits : b.payload.length ≤ bpiffMaxPpsSps) :
    Covers Exact (copyConfig ((parsed b).size - (parsed b).headerSize) track) b.payload (track.configure b.payload) tail := by
  rw [parsed_length]
  refine covers_bind_stays exact_composes (covers_access _) ?_
  refine covers_bind_stays exact_composes (covers_peek exact_composes _) ?_
  dsimp only
  rw [sizeT_natCast, List.take_left]
  refine covers_bind_stays exact_composes (covers_access _) ?_
  rw [if_neg (Nat.not_lt.mpr hfits)]
  exact covers_bind_then exact_composes (covers_skip exact_composes rfl _) (covers_pure exact_composes _ _)

include hm

theorem covers_aacConfig {l : List UInt8} (hlength : aacEsdsEsHdrOffset + 2 ≤ l.length) :
    Covers Exact (aacConfig m track) [] (track.configure (m.probeAacInfo (l.drop aacEsdsEsHdrOffset))) (l ++ tail) := by
  have hprobe : m.probeAacInfo ((l ++ tail).drop aacEsdsEsHdrOffset) = m.probeAacInfo (l.drop aacEsdsEsHdrOffset) := by
    rw [List.drop_append_of_le_length (by omega)]
    exact hm.probeAacInfo _ tail (by rw [List.length_drop]; omega)
  refine covers_bind_stays exact_composes (covers_peek exact_composes _) ?_
  dsimp only
  rw [List.nil_append, hprobe]
  refine covers_bind_stays exact_composes (covers_access _) ?_
  rw [if_neg (Nat.not_lt.mpr (hm.aacInfo _))]
  exact covers_pure exact_composes _ _

theorem covers_entryBody (htrack : track.Open) {b : EntryBox} {rc : Int} (hwf : b.WellFormed) (hread : b.Readable)
    (hnot : b.complete? = none) :
    Covers Exact (entryBody m (rc, track) (parsed b.raw)) b.raw.payload (.inl (b.read m (rc, track), b.raw.size)) tail := by
  cases b with
  | sinf t =>
    have htype : (parsed t.raw).type = bmp4Protectionschemeinfo := rfl
    have hvalid : ¬ (t.track track).schemeBoxValid = true := by
      rw [track_valid_iff hread, htrack.notValid]
      rintro (hvalid | hcomplete)
      · cases hvalid
      · rw [EntryBox.complete?, if_pos hcomplete] at hnot
        cases hnot
    rw [EntryBox.raw, entryBody, if_pos htype]
    refine covers_bind_then exact_composes (covers_parsing (covers_parseSinf hm hwf hread htrack.keySized)) ?_
    dsimp only
    rw [if_neg (not_not.mpr rfl), if_neg hvalid]
    exact covers_pure exact_composes _ _
  | other b =>
    obtain ⟨-, hsinf, hlength⟩ := hwf
    have htype : (parsed (EntryBox.other b).raw).type = b.type := rfl
    have hconfigs : b.type = bmp4CencDvc1 ∨ b.type = bmp4CencAvcc ∨ b.type = bmp4CencWfex ↔ b.type ∈ configTypes := by
      simp [configTypes]
    rw [entryBody, htype, if_neg hsinf, EntryBox.read, EntryBox.config?]
    simp only [hconfigs]
    split_ifs with hconfig hesds
    · exact covers_bind_then exact_composes (covers_copyConfig (hread hconfig)) (covers_pure exact_composes _ _)
    · refine covers_bind_stays exact_composes (covers_aacConfig hm (hlength hesds)) ?_
      exact covers_bind_then exact_composes (covers_skipBox b) (covers_pure exact_composes _ _)
    · exact covers_bind_then exact_composes (covers_skipBox b) (covers_pure exact_composes _ _)

theorem covers_entryBody_complete (htrack : track.Open) {t : Sinf} {rc : Int} (hwf : t.WellFormed) (hread : t.Readable)
    (hcomplete : t.Complete) :
    Covers Exact (entryBody m (rc, track) (parsed t.raw)) t.raw.payload (.inr (0, t.track track)) tail := by
  have htype : (parsed t.raw).type = bmp4Protectionschemeinfo := rfl
  have hvalid : (t.track track).schemeBoxValid = true := (track_valid_iff hread).mpr (.inr hcomplete)
  rw [entryBody, if_pos htype]
  refine covers_bind_then exact_composes (covers_parsing (covers_parseSinf hm hwf hread htrack.keySized)) ?_
  dsimp only
  rw [if_neg (not_not.mpr rfl), if_pos hvalid]
  exact covers_pure exact_composes _ _

omit hm in
theorem complete?_eq_some {b : EntryBox} {t : Sinf} (h : b.complete? = some t) : b = .sinf t ∧ t.Complete := by
  cases b with
  | sinf t' =>
    rw [EntryBox.complete?] at h
    split_ifs at h with hcomplete
    obtain rfl := Option.some.inj h
    exact ⟨rfl, hcomplete⟩
  | other b => cases h

omit hm in
theorem open_read {s : Int × TrackInfo} (htrack : s.2.Open) {b : EntryBox} (hread : b.Readable) (hnot : b.complete? = none) :
    (b.read m s).2.Open := by
  cases b with
  | sinf t =>
    refine ⟨keySized_track hread htrack.keySized, Bool.eq_false_iff.mpr fun hvalid => ?_⟩
    obtain hvalid | hcomplete := (track_valid_iff hread).mp hvalid
    · rw [htrack.notValid] at hvalid
      cases hvalid
    · rw [EntryBox.complete?, if_pos hcomplete] at hnot
      cases hnot
  | other b =>
    rw [EntryBox.read]
    dsimp only
    split
    · exact ⟨htrack.keySized, htrack.notValid⟩
    · exact htrack

omit hm in
theorem open_foldl {boxes : List EntryBox} (hread : ∀ b ∈ boxes, b.Readable) (hnot : ∀ b ∈ boxes, b.complete? = none)
    {s : Int × TrackInfo} (hs : s.2.Open) : (boxes.foldl (EntryBox.read m) s).2.Open :=
  List.foldlRecOn (motive := fun s : Int × TrackInfo => s.2.Open) boxes _ hs fun _ hs b hb =>
    open_read hs (hread b hb) (hnot b hb)

omit hm in
theorem EntryReadable.split {size : Nat} {boxes : List EntryBox} {t : Sinf} (hread : EntryReadable size boxes)
    (hfind : boxes.findSome? EntryBox.complete? = some t) :
    ∃ init, boxes = init ++ [.sinf t] ∧ t.Complete ∧ ∀ b ∈ init, b.complete? = none := by
  obtain ⟨init, b, rest, hboxes, hb, hinit⟩ := List.findSome?_eq_some_iff.mp hfind
  obtain rfl : rest = [] := hread.last init b rest hboxes (by rw [hb]; rfl)
  obtain ⟨rfl, hcomplete⟩ := complete?_eq_some hb
  exact ⟨init, hboxes, hcomplete, hinit⟩

theorem goes_entryBoxes {boxes : List EntryBox} {s : Int × TrackInfo} (hwf : ∀ b ∈ boxes, b.WellFormed)
    (hread : ∀ b ∈ boxes, b.Readable) (hnot : ∀ b ∈ boxes, b.complete? = none) (hs : s.2.Open) :
    Goes (entryBody m) s (boxes.map EntryBox.raw) (boxes.map fun b => b.raw.size) (boxes.foldl (EntryBox.read m) s) := by
  have hcoded (b : EntryBox) (hb : b.WellFormed) : b.raw.Coded := by
    cases b with
    | sinf t => exact hb.coded
    | other b => exact hb.1
  have hbody (s : Int × TrackInfo) (hs : s.2.Open) (b : EntryBox) (hb : b ∈ boxes) : (b.read m s).2.Open ∧ b.raw.Coded ∧
      ∀ tail, Covers Exact (entryBody m s (parsed b.raw)) b.raw.payload (.inl (b.read m s, b.raw.size)) tail :=
    ⟨open_read hs (hread b hb) (hnot b hb), hcoded b (hwf b hb),
      fun _ => covers_entryBody hm hs (hwf b hb) (hread b hb) (hnot b hb)⟩
  exact goes_foldl hbody hs

theorem covers_entryLoop {size i : Nat} {boxes : List EntryBox} {s : Int × TrackInfo} (hwf : ∀ b ∈ boxes, b.WellFormed)
    (hread : EntryReadable size boxes) (hs : s.2.Open) (hsum : i + (boxes.map fun b => b.raw.size).sum = size) :
    ∃ y, Covers Exact (boxLoop m .entry size (entryBody m) (i % u32) s) (boxesBytes (boxes.map EntryBox.raw)) y tail ∧
      (y = .inl (boxes.foldl (EntryBox.read m) s) ∨ y = .inr (boxes.foldl (EntryBox.read m) s)) := by
  have hbelow := staysBelow_of_sum_le (size_pos EntryBox.raw) (Nat.le_of_eq hsum)
  cases hfind : boxes.findSome? EntryBox.complete? with
  | none =>
    refine ⟨_, ?_, .inl rfl⟩
    rw [← List.append_nil (boxesBytes _)]
    have hsize : i + (boxes.map fun b => b.raw.size).sum < u32 := hsum ▸ hread.size hfind
    have hgoes := goes_entryBoxes hm hwf hread.readable (List.findSome?_eq_none_iff.mp hfind) hs
    refine hgoes.covers hm hbelow (covers_boxLoop_done ?_ _ _)
    rw [Nat.mod_eq_of_lt hsize, hsum]
  | some t =>
    obtain ⟨init, rfl, hcomplete, hinit⟩ := hread.split hfind
    have hmem {b : EntryBox} (hb : b ∈ init) : b ∈ init ++ [EntryBox.sinf t] := List.mem_append_left _ hb
    have hlast : EntryBox.sinf t ∈ init ++ [EntryBox.sinf t] := List.mem_append_right _ (List.mem_singleton_self _)
    rw [List.map_append, staysBelow_append] at hbelow
    obtain ⟨hbelow, hlt, -⟩ := hbelow
    refine ⟨_, ?_, .inr rfl⟩
    rw [List.map_append, boxesBytes_append, List.foldl_append]
    have hgoes := goes_entryBoxes hm (fun b hb => hwf b (hmem hb)) (fun b hb => hread.readable b (hmem hb)) hinit hs
    refine hgoes.covers hm hbelow ?_
    have hopen := open_foldl (m := m) (fun b hb => hread.readable b (hmem hb)) hinit hs
    refine covers_boxLoop_next (y := .inr (0, t.track _)) hm hlt (hwf _ hlast).coded ?_ (covers_pure exact_composes _ _)
    exact covers_entryBody_complete hm hopen (hwf _ hlast) (hread.readable _ hlast) hcomplete

omit hm in
theorem foldl_read_rc {boxes : List EntryBox} {t : Sinf} (ht : EntryBox.sinf t ∈ boxes) (s : Int × TrackInfo) :
    (boxes.foldl (EntryBox.read m) s).1 = 0 := by
  let g (b : EntryBox) : Option Int := match b with
    | .sinf _ => some 0
    | .other _ => none
  refine foldl_field (v := Prod.fst) (g := g) (fun s b _ => ?_) (fun b _ rc hrc => ?_) (.inr ⟨_, ht, rfl⟩)
  · cases b <;> rfl
  · cases b with
    | sinf t => exact (Option.some.inj hrc).symm
    | other b => cases hrc

theorem covers_stsdBody {e : SampleEntry} (hwf : e.WellFormed m) (hread : e.Readable) (htrack : track.Open) :
    ∃ y, Covers Exact (stsdBody m (-1, track) (parsed e.raw)) e.raw.payload y tail ∧
      (y = .inl ((0, e.track m track), 1) ∨ y = .inr (0, e.track m track)) := by
  cases e with
  | clear b => exact hread.elim
  | encrypted wide video fixed boxes =>
    obtain ⟨-, hfixed, hboxes, -⟩ := hwf
    obtain ⟨t, ht⟩ := hread.sinf
    have htype : (parsed (SampleEntry.encrypted wide video fixed boxes).raw).type = bmp4SampleEncryptedVideo ∨
        (parsed (SampleEntry.encrypted wide video fixed boxes).raw).type = bmp4SampleEncryptedAudio := by
      cases video
      · exact .inr rfl
      · exact .inl rfl
    have hskip : fixed.length = if (parsed (SampleEntry.encrypted wide video fixed boxes).raw).type = bmp4SampleEncryptedVideo
        then bmp4VisualEntrySize else bmp4AudioEntrySize := by
      cases video <;> exact hfixed
    have hsum : fixed.length + (SampleEntry.encrypted wide video fixed boxes).raw.headerLength +
        (boxes.map fun b => b.raw.size).sum = (SampleEntry.encrypted wide video fixed boxes).raw.size := by
      have hpayload : (SampleEntry.encrypted wide video fixed boxes).raw.payload.length =
          fixed.length + (boxes.map fun b => b.raw.size).sum := by
        rw [SampleEntry.raw, List.length_append, length_boxesBytes, List.map_map]
        rfl
      rw [RawBox.size, hpayload]
      omega
    have hopen : TrackInfo.Open { track with
        scheme.trackType := (SampleEntry.encrypted wide video fixed boxes).raw.type } := ⟨htrack.keySized, htrack.notValid⟩
    have hrc := foldl_read_rc (m := m) ht (-1, { track with
      scheme.trackType := (SampleEntry.encrypted wide video fixed boxes).raw.type })
    have hresult : boxes.foldl (EntryBox.read m) (-1, { track with
        scheme.trackType := (SampleEntry.encrypted wide video fixed boxes).raw.type }) =
        (0, (SampleEntry.encrypted wide video fixed boxes).track m track) := Prod.ext hrc rfl
    obtain ⟨y, hloop, hy⟩ : ∃ y, Covers Exact _ _ y tail ∧ _ := covers_entryLoop (s := (-1, _)) hm hboxes hread hopen hsum
    rw [hresult] at hy
    rw [stsdBody, if_pos htype]
    dsimp only
    rw [← hskip]
    rcases hy with rfl | rfl
    · refine ⟨_, covers_bind exact_composes (covers_skip exact_composes rfl _) ?_, .inl rfl⟩
      exact covers_bind_then exact_composes hloop (covers_pure exact_composes _ _)
    · refine ⟨_, covers_bind exact_composes (covers_skip exact_composes rfl _) ?_, .inr rfl⟩
      exact covers_bind_then exact_composes hloop (covers_pure exact_composes _ _)

theorem covers_parseStsd {t : Stsd} (hwf : t.WellFormed m) (hread : t.entry.Readable) (htrack : track.Open) :
    Covers Exact (parseStsd m track) t.raw.payload (0, t.entry.track m track) tail := by
  obtain ⟨y, hbody, hy⟩ : ∃ y, Covers Exact _ _ y tail ∧ _ := covers_stsdBody hm hwf.2 hread htrack
  have hcoded : t.entry.raw.Coded := by
    cases hentry : t.entry with
    | encrypted wide video fixed boxes =>
      rw [Stsd.WellFormed, hentry] at hwf
      exact hwf.2.1
    | clear b =>
      rw [hentry] at hread
      exact hread.elim
  rw [Stsd.raw, ← List.append_assoc (beBytes 1 _)]
  refine covers_bind exact_composes (covers_fullbox hm t.version t.flags) ?_
  refine covers_bind exact_composes (covers_number hm (v := 1) (by decide)) ?_
  rw [← List.append_nil t.entry.raw.bytes]
  rcases hy with rfl | rfl
  · have hloop : Covers Exact (boxLoop m .stsd 1 (stsdBody m) 0 (-1, track)) (t.entry.raw.bytes ++ []) (.inl (0, _)) tail :=
      covers_boxLoop_next hm Nat.one_pos hcoded hbody (covers_boxLoop_done (Nat.le_refl 1) _ _)
    exact covers_bind_then exact_composes hloop (covers_pure exact_composes _ _)
  · have hloop : Covers Exact (boxLoop m .stsd 1 (stsdBody m) 0 (-1, track)) (t.entry.raw.bytes ++ []) (.inr (0, _)) tail :=
      covers_boxLoop_next hm Nat.one_pos hcoded hbody (covers_pure exact_composes _ _)
    exact covers_bind_then exact_composes hloop (covers_pure exact_composes _ _)

end Entry

/-! ### The containers of a track -/

/-- What the loop over the boxes of a container adds for a box. -/
def containerIncrement (b : RawBox) : Nat := b.headerLength + b.size

/-- The loop ends behind the last box of a container. -/
def Around.Readable {α : Type} (childRaw : α → RawBox) (type : Nat) (a : Around α) : Prop :=
  CountsTo (a.raw childRaw type).size ((a.boxes childRaw).map containerIncrement)

instance {α : Type} (childRaw : α → RawBox) (type : Nat) (a : Around α) : Decidable (a.Readable childRaw type) :=
  inferInstanceAs (Decidable (CountsTo _ _))

def Stbl.Readable (t : Stbl) : Prop := Around.Readable Stsd.raw bmp4Sampletable t ∧ t.child.entry.Readable

def Minf.Readable (t : Minf) : Prop := Around.Readable Stbl.raw bmp4Mediainformation t ∧ Stbl.Readable t.child

def Mdia.Readable (t : Mdia) : Prop := Around.Readable Minf.raw bmp4Media t ∧ Minf.Readable t.child

/-- The loop over the boxes of a track, and those over the boxes of its containers, end behind the last box. -/
def Trak.Readable (t : Trak) : Prop := CountsTo t.raw.size (t.boxes.map containerIncrement) ∧ Mdia.Readable t.mdia

/-- What is read of a track. -/
def Trak.track (m : Mp4Util) (t : Trak) : TrackInfo :=
  if t.mediaFirst then
    let track := t.entry.track m {}
    { track with scheme.trackId := t.id }
  else t.entry.track m { scheme := { trackId := t.id } }

section Containers
variable (hm : m.Laws) {tail : List UInt8} {track : TrackInfo}
include hm

omit hm in
theorem goes_container_skipped {type : Nat} {parse : Mp4Box → TrackInfo → BoxWalk (Int × TrackInfo)} (s : Int × TrackInfo)
    {bs : List RawBox} (h : Skipped [type] bs) : Goes (containerBody type parse) s bs (bs.map containerIncrement) s := by
  refine goes_skipped (fun b hb => (h b hb).1) fun b hb => if_neg fun htype => ?_
  exact (h b hb).2 (List.mem_singleton.mpr htype)

theorem covers_container {α : Type} {childRaw : α → RawBox} {a : Around α} {place : Place} {type childType : Nat}
    {parse : Mp4Box → TrackInfo → BoxWalk (Int × TrackInfo)} {track' : TrackInfo} (hcoded : (childRaw a.child).Coded)
    (htype : (parsed (childRaw a.child)).type = childType) (hothers : Skipped [childType] (a.before ++ a.after))
    (hread : a.Readable childRaw type)
    (hparse : ∀ tail, Covers Exact (parse (parsed (childRaw a.child)) track) (childRaw a.child).payload (0, track') tail) :
    Covers Exact (container m place childType parse (parsed (a.raw childRaw type)) track) (a.raw childRaw type).payload
      (0, track') tail := by
  have hbefore : Skipped [childType] a.before := fun b hb => hothers b (List.mem_append_left _ hb)
  have hafter : Skipped [childType] a.after := fun b hb => hothers b (List.mem_append_right _ hb)
  have hchild (tail : List UInt8) : Covers Exact (containerBody childType parse (0, track) (parsed (childRaw a.child)))
      (childRaw a.child).payload (.inl ((0, track'), containerIncrement (childRaw a.child))) tail := by
    rw [containerBody, if_pos htype]
    exact covers_bind_then exact_composes (covers_parsing (hparse _)) (covers_pure exact_composes _ _)
  have hgoes := (goes_container_skipped (0, track) hbefore).append
    (.cons hcoded hchild (goes_container_skipped (0, track') hafter))
  rw [Around.Readable, Around.boxes, List.map_append, List.map_cons] at hread
  exact covers_bind_then exact_composes (hgoes.covers_all hm hread) (covers_pure exact_composes _ _)

theorem covers_parseMdia {t : Mdia} (hwf : Mdia.WellFormed m t) (hread : Mdia.Readable t) (htrack : track.Open) :
    Covers Exact (parseMdia m (parsed t.raw) track) t.raw.payload (0, t.child.child.child.entry.track m track) tail := by
  obtain ⟨-, hothers, hminf, hothers', hstbl, hothers'', hstsd⟩ := hwf
  obtain ⟨hcounts, hcounts', hcounts'', hentry⟩ := hread
  refine covers_container hm hminf rfl hothers hcounts fun tail => ?_
  refine covers_container hm hstbl rfl hothers' hcounts' fun tail => ?_
  exact covers_container hm hstsd.1 rfl hothers'' hcounts'' fun tail => covers_parseStsd hm hstsd hentry htrack

/-! ### Tracks -/

omit hm in
theorem goes_trak_skipped (track : TrackInfo) {bs : List RawBox} (h : Skipped [bmp4Trackheader, bmp4Media] bs) :
    Goes (trakBody m) track bs (bs.map containerIncrement) track := by
  refine goes_skipped (fun b hb => (h b hb).1) fun b hb => ?_
  have hnot := (h b hb).2
  rw [List.mem_pair, not_or] at hnot
  have htype : (parsed b).type = b.type := rfl
  rw [trakBody, htype, if_neg hnot.1, if_neg hnot.2]
  rfl

theorem covers_trackheader {t : Tkhd} (ht : t.Sized) :
    Covers Exact (trakBody m track (parsed t.raw)) t.raw.payload
      (.inl ({ track with scheme.trackId := t.id.toNat }, containerIncrement t.raw)) tail := by
  have htype : (parsed t.raw).type = bmp4Trackheader := rfl
  rw [trakBody, if_pos htype]
  refine covers_bind_stays exact_composes (covers_peek exact_composes _) ?_
  refine covers_bind_then exact_composes (covers_skipBox t.raw) ?_
  refine covers_bind_stays exact_composes (covers_peek exact_composes _) ?_
  rw [List.length_append, List.length_append, List.length_nil, Nat.zero_add, Nat.add_sub_cancel, List.take_left,
    hm.parseTrackheader t ht]
  exact covers_pure exact_composes _ _

theorem covers_media {t : Mdia} (hwf : Mdia.WellFormed m t) (hread : Mdia.Readable t) (htrack : track.Open) :
    Covers Exact (trakBody m track (parsed t.raw)) t.raw.payload
      (.inl (t.child.child.child.entry.track m track, containerIncrement t.raw)) tail := by
  have htype : (parsed t.raw).type = bmp4Media := rfl
  rw [trakBody, if_neg (htype ▸ by decide), if_pos htype]
  exact covers_bind_then exact_composes (covers_parsing (covers_parseMdia hm hwf hread htrack)) (covers_pure exact_composes _ _)

theorem goes_trak {t : Trak} (hwf : t.WellFormed m) (hread : t.Readable) :
    Goes (trakBody m) {} t.boxes (t.boxes.map containerIncrement) (t.track m) := by
  have hbefore : Skipped [bmp4Trackheader, bmp4Media] t.before := fun b hb => hwf.others b (List.mem_append_left _ hb)
  have hbetween : Skipped [bmp4Trackheader, bmp4Media] t.between :=
    fun b hb => hwf.others b (List.mem_append_right _ (List.mem_append_left _ hb))
  have hafter : Skipped [bmp4Trackheader, bmp4Media] t.after :=
    fun b hb => hwf.others b (List.mem_append_right _ (List.mem_append_right _ hb))
  have hopen (id : Nat) : TrackInfo.Open { scheme := { trackId := id } } := ⟨rfl, rfl⟩
  rw [Trak.boxes, Trak.track]
  split_ifs
  · rw [List.map_append, List.map_cons, List.map_append, List.map_cons]
    refine (goes_trak_skipped _ hbefore).append (.cons hwf.mdia.1 (fun _ => covers_media hm hwf.mdia hread.2 (hopen 0)) ?_)
    exact (goes_trak_skipped _ hbetween).append
      (.cons hwf.tkhd.1 (fun _ => covers_trackheader hm hwf.tkhd.2) (goes_trak_skipped _ hafter))
  · rw [List.map_append, List.map_cons, List.map_append, List.map_cons]
    refine (goes_trak_skipped _ hbefore).append (.cons hwf.tkhd.1 (fun _ => covers_trackheader hm hwf.tkhd.2) ?_)
    exact (goes_trak_skipped _ hbetween).append
      (.cons hwf.mdia.1 (fun _ => covers_media hm hwf.mdia hread.2 (hopen _)) (goes_trak_skipped _ hafter))

end Containers

/-! ### What a track is protected by -/

/-- The entry of a scheme in the header holds what protects a track. -/
structure ProtectionSchemeInfo.Holds (scheme : ProtectionSchemeInfo) (p : Protection) : Prop where
  originalFormat : p.originalFormat = some scheme.originalFormat
  keyId : p.keyId = some scheme.trackEncryption.keyId
  config : ∀ config, p.config = some config →
    scheme.decConfig.size = config.length ∧ scheme.decConfig.data.take scheme.decConfig.size = config

theorem Sinf.Complete.fields {t : Sinf} (h : t.Complete) : (∃ format, t.format? = some format) ∧ ∃ keyId, t.keyId? = some keyId := by
  obtain ⟨hformat, hscheme⟩ := h
  refine ⟨Option.isSome_iff_exists.mp hformat, Option.isSome_iff_exists.mp (List.findSome?_isSome_iff.mpr ?_)⟩
  obtain ⟨-, te, hte, h⟩ | ⟨-, te, hte, h⟩ := hscheme
  · exact ⟨te, hte, by rw [Piff.keyId?, if_pos (.inl h)]; rfl⟩
  · exact ⟨te, hte, by rw [Piff.keyId?, if_pos (.inr h)]; rfl⟩

section Protected
variable {e : SampleEntry} {track : TrackInfo}

/-- The configuration of the decoder, as far as it was written. -/
def TrackInfo.config (track : TrackInfo) : Nat × List UInt8 :=
  (track.scheme.decConfig.size, track.scheme.decConfig.data.take track.scheme.decConfig.size)

theorem config_configure (track : TrackInfo) (config : List UInt8) : (track.configure config).config = (config.length, config) := by
  rw [TrackInfo.configure, TrackInfo.config]
  dsimp only
  rw [overwrite_nil_place, List.take_left]

theorem config_read {s : Int × TrackInfo} {b : EntryBox} (hread : b.Readable) :
    (b.read m s).2.config = ((b.config? m).map fun config => (config.length, config)).getD s.2.config := by
  cases b with
  | sinf t =>
    rw [EntryBox.read, TrackInfo.config, track_decConfig hread]
    rfl
  | other b =>
    rw [EntryBox.read]
    dsimp only
    cases (EntryBox.other b).config? m with
    | none => rfl
    | some config => exact config_configure s.2 config

theorem foldl_config {boxes : List EntryBox} (hread : ∀ b ∈ boxes, b.Readable)
    (hsame : ∀ b ∈ boxes, ∀ b' ∈ boxes, ∀ c c', b.config? m = some c → b'.config? m = some c' → c = c') {config : List UInt8}
    (h : boxes.findSome? (EntryBox.config? m) = some config) (s : Int × TrackInfo) :
    (boxes.foldl (EntryBox.read m) s).2.config = (config.length, config) := by
  obtain ⟨b, hb, hconfig⟩ := List.exists_of_findSome?_eq_some h
  refine foldl_field (v := fun s : Int × TrackInfo => s.2.config)
    (g := fun b : EntryBox => (b.config? m).map fun config => (config.length, config))
    (fun _ b hb => config_read (hread b hb)) (fun b' hb' y hy => ?_) (.inr ⟨b, hb, by rw [hconfig]; rfl⟩)
  obtain ⟨config', hconfig', rfl⟩ := Option.map_eq_some_iff.mp hy
  rw [hsame b' hb' b hb config' config hconfig' hconfig]

theorem trackId_read {s : Int × TrackInfo} {b : EntryBox} (hread : b.Readable) :
    (b.read m s).2.scheme.trackId = s.2.scheme.trackId := by
  cases b with
  | sinf t => exact track_trackId hread
  | other b =>
    rw [EntryBox.read]
    dsimp only
    split <;> rfl

theorem entry_protection (hwf : e.WellFormed m) (hread : e.Readable) (htrack : track.Open) :
    (e.track m track).schemeBoxValid = (e.protection? m).isSome ∧
      ∀ p, e.protection? m = some p → (e.track m track).scheme.Holds p := by
  cases e with
  | clear b => exact hread.elim
  | encrypted wide video fixed boxes =>
    obtain ⟨-, -, hboxes, hsame⟩ := hwf
    have hopen : TrackInfo.Open { track with
        scheme.trackType := (SampleEntry.encrypted wide video fixed boxes).raw.type } := ⟨htrack.keySized, htrack.notValid⟩
    rw [SampleEntry.track, SampleEntry.protection?]
    cases hfind : boxes.findSome? EntryBox.complete? with
    | none =>
      refine ⟨?_, fun p hp => by cases hp⟩
      exact (open_foldl hread.readable (List.findSome?_eq_none_iff.mp hfind) hopen).notValid
    | some t =>
      have hconfig {config : List UInt8} (h : boxes.findSome? (EntryBox.config? m) = some config) :=
        foldl_config hread.readable hsame h (-1, { track with
          scheme.trackType := (SampleEntry.encrypted wide video fixed boxes).raw.type })
      obtain ⟨init, rfl, hcomplete, hinit⟩ := hread.split hfind
      have hlast : EntryBox.sinf t ∈ init ++ [EntryBox.sinf t] := List.mem_append_right _ (List.mem_singleton_self _)
      have hsinf : t.Readable := hread.readable _ hlast
      obtain ⟨⟨format, hformat⟩, keyId, hkeyId⟩ := hcomplete.fields
      rw [List.foldl_append] at hconfig ⊢
      refine ⟨(track_valid_iff hsinf).mpr (.inr hcomplete), fun p hp => ?_⟩
      obtain rfl := Option.some.inj hp
      refine ⟨?_, ?_, fun config h => ?_⟩
      · exact hformat.trans (congrArg some (track_originalFormat hsinf (hboxes _ hlast) hformat).symm)
      · exact hkeyId.trans (congrArg some (track_keyId hsinf (hboxes _ hlast) hkeyId).symm)
      · exact Prod.mk.inj (hconfig h)

theorem entry_trackId (hread : e.Readable) : (e.track m track).scheme.trackId = track.scheme.trackId := by
  cases e with
  | clear b => exact hread.elim
  | encrypted wide video fixed boxes =>
    exact foldl_kept (v := fun s : Int × TrackInfo => s.2.scheme.trackId) (fun _ b hb => trackId_read (hread.readable b hb)) _

end Protected

section Trak
variable {t : Trak}

theorem trak_trackId (hread : t.Readable) : (t.track m).scheme.trackId = t.id := by
  rw [Trak.track]
  split_ifs
  · rfl
  · exact entry_trackId hread.2.2.2.2

theorem trak_protection (hwf : t.WellFormed m) (hread : t.Readable) :
    (t.track m).schemeBoxValid = (t.entry.protection? m).isSome ∧
      ∀ p, t.entry.protection? m = some p → (t.track m).scheme.Holds p := by
  have hentry {t : TrackInfo} (htrack : t.Open) := entry_protection hwf.mdia.2.2.2.2.2.2.2 hread.2.2.2.2 htrack
  rw [Trak.track]
  split_ifs
  · obtain ⟨hvalid, hholds⟩ := hentry (t := {}) ⟨rfl, rfl⟩
    refine ⟨hvalid, fun p hp => ?_⟩
    obtain ⟨hformat, hkeyId, hconfig⟩ := hholds p hp
    exact ⟨hformat, hkeyId, hconfig⟩
  · exact hentry ⟨rfl, rfl⟩

end Trak

/-! ### Movie headers -/

/-- A box of a movie header is read to its end: the header of PlayReady has no ids of keys, one with an extended type is of
    PlayReady, and the other headers of protection systems and the other extended boxes have a header of 8 bytes. -/
def MoovBox.Readable : MoovBox → Prop
  | .trak t => t.Readable
  | .pssh wide p => if p.IsPlayReady then p.version = 0 else wide = false
  | .psshExtended _ p => p.IsPlayReady ∧ p.version = 0
  | .extended wide _ payload => wide = false ∧ 4 ≤ payload.length
  | .other _ => True

def Moov.Readable (t : Moov) : Prop := ∀ b ∈ t.boxes, b.Readable

/-- The header with a track that was read. -/
def Mp4Headers.store (header : Mp4Headers) (track : TrackInfo) : Mp4Headers :=
  let header := { header with piff13 := header.piff13 || track.piff13 }
  if track.schemeBoxValid then
    { header with
      scheme := Function.update header.scheme track.scheme.trackId track.scheme
      nbOfSchemes := (header.nbOfSchemes + 1) % u32 }
  else header

def Mp4Headers.record (header : Mp4Headers) (data : List UInt8) : Mp4Headers :=
  { header with
    psshSystemId := bmediaProtectionSystemIdentifierGuid, psshDataLength := data.length, psshData := some data }

/-- What a box makes of the header. -/
def MoovBox.read (m : Mp4Util) (header : Mp4Headers) (b : MoovBox) : Mp4Headers :=
  match b.trak?, b.playReady? with
  | some t, _ => header.store (t.track m)
  | none, some data => header.record data
  | none, none => header

section Moov
variable (hm : m.Laws) {tail : List UInt8} {header : Mp4Headers}

theorem read_playReady {b : MoovBox} {data : List UInt8} (htrak : b.trak? = none) (h : b.playReady? = some data) :
    b.read m header = header.record data := by
  rw [MoovBox.read, htrak, h]

theorem read_other {b : MoovBox} (htrak : b.trak? = none) (h : b.playReady? = none) : b.read m header = header := by
  rw [MoovBox.read, htrak, h]

theorem covers_storeTrack {track : TrackInfo} (hid : track.scheme.trackId < bpiffMaxNbOfTracks) :
    Covers Exact (storeTrack header track) [] (header.store track) tail := by
  refine covers_bind_stays exact_composes (covers_event (exact_singleton fun _ _ _ h => by cases h) _) ?_
  rw [Mp4Headers.store]
  dsimp only
  split_ifs with hvalid hlarge
  · exact absurd hid (Nat.not_lt.mpr hlarge)
  · exact covers_bind_stays exact_composes (covers_access _) (covers_pure exact_composes _ _)
  · exact covers_pure exact_composes _ _

include hm

theorem covers_parseTrak {t : Trak} (hwf : t.WellFormed m) (hread : t.Readable) :
    Covers Exact (parseTrak m header (parsed t.raw)) t.raw.payload (0, header.store (t.track m)) tail := by
  have hid : (t.track m).scheme.trackId < bpiffMaxNbOfTracks := by
    rw [trak_trackId hread]
    exact Nat.lt_succ_of_le hwf.id.2
  refine covers_bind_then exact_composes ((goes_trak hm hwf hread).covers_all hm hread.1) ?_
  exact covers_bind_stays exact_composes (covers_storeTrack hid) (covers_pure exact_composes _ _)

theorem covers_readPsshData {data : List UInt8} (hdata : data.length < 2 ^ 32) :
    Covers Exact (readPsshData m header bmediaProtectionSystemIdentifierGuid) (beBytes 4 data.length ++ data)
      (0, header.record data) tail := by
  refine covers_bind exact_composes (covers_number hm hdata) ?_
  dsimp only
  rw [hm.allocate, if_neg (not_not.mpr rfl)]
  exact covers_bind_then exact_composes (covers_takeBytes rfl) (covers_pure exact_composes _ _)

omit hm in
theorem covers_skipPssh {box : Mp4Box} {l : List UInt8} (hsize : l.length + 28 = box.size) :
    Covers Exact (skipPssh header box) l (0, header) tail :=
  covers_bind_then exact_composes (covers_skipLength (by omega)) (covers_pure exact_composes _ _)

omit hm in
theorem overwrite_systemId (hstack : m.stackSystemId.length = 16) {systemId : List UInt8} (hlength : systemId.length = 16) :
    overwrite m.stackSystemId 0 systemId = systemId := by
  rw [overwrite_nil_place, hlength, List.drop_eq_nil_of_le (Nat.le_of_eq hstack), List.append_nil]

omit hm in
theorem Pssh.payload_eq (p : Pssh) : ∃ rest, p.payload = (beBytes 1 p.version.toNat ++ beBytes 3 p.flags.toNat) ++
    (p.systemId ++ rest) ∧ (p.version = 0 → rest = beBytes 4 p.data.length ++ p.data) := by
  refine ⟨_, (List.append_assoc _ _ _).symm, fun hversion => ?_⟩
  rw [if_pos hversion, List.nil_append]

theorem covers_parseDashPssh {wide : Bool} {p : Pssh} (hwf : p.WellFormed) (hread : (MoovBox.pssh wide p).Readable) :
    Covers Exact (parseDashPssh m header (parsed (MoovBox.pssh wide p).raw)) (MoovBox.pssh wide p).raw.payload
      (0, (MoovBox.pssh wide p).read m header) tail := by
  obtain ⟨hsystemId, hdata⟩ := hwf
  obtain ⟨rest, hpayload, hrest⟩ := p.payload_eq
  have hbytes : (MoovBox.pssh wide p).raw.payload = _ := hpayload
  rw [MoovBox.Readable] at hread
  rw [hbytes]
  refine covers_bind exact_composes (covers_fullbox hm p.version p.flags) ?_
  refine covers_bind exact_composes (covers_takeBytes hsystemId) ?_
  rw [overwrite_systemId hm.stackSystemId hsystemId]
  by_cases hplayReady : p.IsPlayReady
  · have hid : p.systemId = bmediaProtectionSystemIdentifierGuid := hplayReady
    have hdata? : (MoovBox.pssh wide p).playReady? = some p.data := if_pos hplayReady
    rw [if_pos hplayReady] at hread
    rw [if_pos hid, hid, hrest hread, read_playReady (b := .pssh wide p) rfl hdata?]
    exact covers_readPsshData hm hdata
  · have hid : ¬ p.systemId = bmediaProtectionSystemIdentifierGuid := hplayReady
    have hnone : (MoovBox.pssh wide p).playReady? = none := if_neg hplayReady
    rw [if_neg hplayReady] at hread
    rw [if_neg hid, read_other (b := .pssh wide p) rfl hnone]
    refine covers_skipPssh ?_
    subst hread
    change _ = 8 + (MoovBox.pssh false p).raw.payload.length
    rw [hbytes]
    simp only [List.length_append, length_beBytes, hsystemId]
    omega

theorem covers_parsePiffPssh {wide : Bool} {p : Pssh} (hwf : p.WellFormed) (hplayReady : p.IsPlayReady) (hversion : p.version = 0) :
    Covers Exact (parsePiffPssh m header (parsed (MoovBox.psshExtended wide p).raw)) (MoovBox.psshExtended wide p).raw.payload
      (0, (MoovBox.psshExtended wide p).read m header) tail := by
  obtain ⟨hsystemId, hdata⟩ := hwf
  obtain ⟨rest, hpayload, hrest⟩ := p.payload_eq
  have hid : p.systemId = bmediaProtectionSystemIdentifierGuid := hplayReady
  have hbytes : (MoovBox.psshExtended wide p).raw.payload = psshExtendedType ++ p.payload := rfl
  have hdata? : (MoovBox.psshExtended wide p).playReady? = some p.data := if_pos hplayReady
  rw [hbytes, hpayload, read_playReady (b := .psshExtended wide p) rfl hdata?]
  refine covers_bind exact_composes (covers_parseBoxExtended hm rfl) ?_
  refine covers_bind exact_composes (covers_fullbox hm p.version p.flags) ?_
  dsimp only
  rw [if_pos rfl]
  refine covers_bind exact_composes (covers_takeBytes hsystemId) ?_
  rw [overwrite_systemId hm.stackSystemId hsystemId, if_pos hid, hid, hrest hversion]
  exact covers_readPsshData hm hdata

theorem covers_parsePiffPssh_other {usertype payload : List UInt8} (husertype : usertype.length = 16)
    (hne : usertype ≠ psshExtendedType) (hlength : 4 ≤ payload.length) :
    Covers Exact (parsePiffPssh m header (parsed (MoovBox.extended false usertype payload).raw))
      (MoovBox.extended false usertype payload).raw.payload (0, header) tail := by
  have hbytes : (MoovBox.extended false usertype payload).raw.payload =
      usertype ++ ((payload.take 1 ++ (payload.drop 1).take 3) ++ payload.drop 4) := by
    have hrest : (payload.drop 1).take 3 ++ payload.drop 4 = payload.drop 1 := by
      rw [← List.drop_drop (i := 3) (j := 1)]
      exact List.take_append_drop 3 _
    rw [List.append_assoc, hrest, List.take_append_drop]
    rfl
  rw [hbytes]
  refine covers_bind exact_composes (covers_parseBoxExtended hm husertype) ?_
  refine covers_bind exact_composes (covers_parseFullbox hm (by simp; omega) (by simp; omega)) ?_
  dsimp only
  rw [if_neg hne]
  refine covers_skipPssh ?_
  change _ = 8 + (usertype ++ payload).length
  rw [List.length_append, List.length_drop, husertype]
  omega

theorem covers_moovBody {b : MoovBox} (hwf : b.WellFormed m) (hread : b.Readable) :
    Covers Exact (moovBody m header (parsed b.raw)) b.raw.payload (.inl (b.read m header, b.raw.size)) tail := by
  cases b with
  | trak t =>
    have htype : (parsed (MoovBox.trak t).raw).type = bmp4Track := rfl
    rw [moovBody, if_neg (htype ▸ by decide), if_neg (htype ▸ by decide), if_pos htype]
    exact covers_bind_then exact_composes (covers_parsing (covers_parseTrak hm hwf hread)) (covers_pure exact_composes _ _)
  | pssh wide p =>
    have htype : (parsed (MoovBox.pssh wide p).raw).type = bmp4DashPssh := rfl
    rw [moovBody, if_neg (htype ▸ by decide), if_pos htype]
    exact covers_bind_then exact_composes (covers_parseDashPssh hm hwf.2 hread) (covers_pure exact_composes _ _)
  | psshExtended wide p =>
    have htype : (parsed (MoovBox.psshExtended wide p).raw).type = bmp4Extended := rfl
    rw [moovBody, if_pos htype]
    exact covers_bind_then exact_composes (covers_parsePiffPssh hm hwf.2 hread.1 hread.2) (covers_pure exact_composes _ _)
  | extended wide usertype payload =>
    obtain ⟨-, husertype, hne⟩ := hwf
    obtain ⟨rfl, hlength⟩ := hread
    have htype : (parsed (MoovBox.extended false usertype payload).raw).type = bmp4Extended := rfl
    rw [moovBody, if_pos htype, read_other rfl rfl]
    exact covers_bind_then exact_composes (covers_parsePiffPssh_other hm husertype hne hlength)
      (covers_pure exact_composes _ _)
  | other b =>
    have htype : (parsed (MoovBox.other b).raw).type = b.type := rfl
    have hnot := hwf.2
    simp only [List.mem_cons, List.not_mem_nil, or_false, not_or] at hnot
    rw [moovBody, htype, if_neg hnot.1, if_neg hnot.2.1, if_neg hnot.2.2]
    exact covers_bind_then exact_composes (covers_skipBox b) (covers_pure exact_composes _ _)

omit hm in
theorem coded_raw {b : MoovBox} (hwf : b.WellFormed m) : b.raw.Coded := by
  cases b with
  | trak t => exact hwf.coded
  | pssh wide p => exact hwf.1
  | psshExtended wide p => exact hwf.1
  | extended wide usertype payload => exact hwf.1
  | other b => exact hwf.1

theorem covers_parseMoov {t : Moov} (hwf : t.WellFormed m) (hread : t.Readable) (header : Mp4Headers) :
    Covers Exact (parseMoov m header) t.raw.bytes (0, t.boxes.foldl (MoovBox.read m) header) [] := by
  have hbody (header : Mp4Headers) (_ : True) (b : MoovBox) (hb : b ∈ t.boxes) : True ∧ b.raw.Coded ∧
      ∀ tail, Covers Exact (moovBody m header (parsed b.raw)) b.raw.payload (.inl (b.read m header, b.raw.size)) tail :=
    ⟨trivial, coded_raw (hwf.boxes b hb), fun _ => covers_moovBody hm (hwf.boxes b hb) (hread b hb)⟩
  have hgoes : Goes (moovBody m) header _ _ _ := goes_foldl hbody trivial
  have hsum : t.raw.headerLength + (t.boxes.map fun b => b.raw.size).sum ≤ t.raw.size := by
    have hpayload : t.raw.payload.length = (t.boxes.map fun b => b.raw.size).sum := by
      rw [Moov.raw, length_boxesBytes, List.map_map]
      rfl
    rw [RawBox.size, hpayload]
  have hbelow := staysBelow_of_sum_le (size_pos MoovBox.raw) hsum
  have htype : (parsed t.raw).type = bmp4Movie := rfl
  refine covers_bind exact_composes (covers_header hm hwf.coded) ?_
  dsimp only
  rw [if_pos htype]
  have hloop : Covers Exact (boxLoop m .moov t.raw.size (moovBody m) (t.raw.headerLength % u32) header)
      (t.raw.payload ++ []) (.inl (t.boxes.foldl (MoovBox.read m) header)) [] :=
    hgoes.covers hm hbelow (covers_boxLoop_end _ _)
  rw [List.append_nil] at hloop
  exact covers_parsing (covers_bind_then exact_composes hloop (covers_pure exact_composes _ _))

end Moov

/-! ### What a movie header says about its tracks -/

section Schemes
variable {boxes : List MoovBox} {header : Mp4Headers}

theorem pssh_read (header : Mp4Headers) {b : MoovBox} : ((b.read m header).psshSystemId, (b.read m header).psshDataLength, (b.read m header).psshData) =
    (b.playReady?.map fun data => (bmediaProtectionSystemIdentifierGuid, data.length, some data)).getD
      (header.psshSystemId, header.psshDataLength, header.psshData) := by
  have hstore (track : TrackInfo) : ((header.store track).psshSystemId, (header.store track).psshDataLength,
      (header.store track).psshData) = (header.psshSystemId, header.psshDataLength, header.psshData) := by
    rw [Mp4Headers.store]
    dsimp only
    split_ifs <;> rfl
  cases htrak : b.trak? with
  | some t =>
    have hnone : b.playReady? = none := by
      cases b with
      | trak t => rfl
      | _ => cases htrak
    rw [MoovBox.read, htrak, hnone]
    exact hstore _
  | none =>
    cases hdata : b.playReady? with
    | some data =>
      rw [read_playReady htrak hdata]
      rfl
    | none =>
      rw [read_other htrak hdata]
      rfl

theorem foldl_playReady {data : List UInt8} (h : (boxes.filterMap MoovBox.playReady?).getLast? = some data) :
    (boxes.foldl (MoovBox.read m) header).psshSystemId = bmediaProtectionSystemIdentifierGuid ∧
      (boxes.foldl (MoovBox.read m) header).psshDataLength = data.length ∧
      (boxes.foldl (MoovBox.read m) header).psshData = some data := by
  let g (b : MoovBox) := b.playReady?.map fun data => (bmediaProtectionSystemIdentifierGuid, data.length, some data)
  have hread (header : Mp4Headers) (b : MoovBox) (_ : b ∈ boxes) : _ = (g b).getD _ := pssh_read (m := m) header
  have hlast := foldl_last (v := fun header : Mp4Headers => (header.psshSystemId, header.psshDataLength, header.psshData))
    hread header
  have hmap : boxes.filterMap g = (boxes.filterMap MoovBox.playReady?).map fun data =>
      (bmediaProtectionSystemIdentifierGuid, data.length, some data) := List.map_filterMap.symm
  rw [hmap, List.getLast?_map, h] at hlast
  obtain ⟨hsystemId, hdata⟩ := Prod.mk.inj hlast
  exact ⟨hsystemId, Prod.mk.inj hdata⟩

theorem trak?_eq_some {b : MoovBox} {t : Trak} (h : b.trak? = some t) : b = .trak t := by
  cases b with
  | trak t' => exact congrArg MoovBox.trak (Option.some.inj h)
  | _ => cases h

theorem store_track (header : Mp4Headers) {t : Trak} (hwf : t.WellFormed m) (hread : t.Readable) :
    if (t.entry.protection? m).isSome then
      (header.store (t.track m)).scheme = Function.update header.scheme t.id (t.track m).scheme ∧
        (header.store (t.track m)).nbOfSchemes = (header.nbOfSchemes + 1) % u32
    else (header.store (t.track m)).scheme = header.scheme ∧ (header.store (t.track m)).nbOfSchemes = header.nbOfSchemes := by
  have hvalid := (trak_protection hwf hread).1
  rw [Mp4Headers.store, hvalid, trak_trackId hread]
  split_ifs <;> exact ⟨rfl, rfl⟩

theorem schemes_read {b : MoovBox} (h : b.trak? = none) :
    (b.read m header).scheme = header.scheme ∧ (b.read m header).nbOfSchemes = header.nbOfSchemes := by
  cases hdata : b.playReady? with
  | some data =>
    rw [read_playReady h hdata]
    exact ⟨rfl, rfl⟩
  | none =>
    rw [read_other h hdata]
    exact ⟨rfl, rfl⟩

variable (hwf : ∀ b ∈ boxes, b.WellFormed m) (hread : ∀ b ∈ boxes, b.Readable)
include hwf hread

theorem scheme_foldl {id : Nat} (hid : ∀ t ∈ boxes.filterMap MoovBox.trak?, t.id ≠ id) :
    (boxes.foldl (MoovBox.read m) header).scheme id = header.scheme id := by
  refine foldl_kept (v := fun header : Mp4Headers => header.scheme id) (fun header b hb => ?_) header
  cases htrak : b.trak? with
  | none => rw [(schemes_read htrak).1]
  | some t =>
    obtain rfl := trak?_eq_some htrak
    have hne : id ≠ t.id := (hid t (List.mem_filterMap.mpr ⟨_, hb, rfl⟩)).symm
    have hstore := store_track header (hwf _ hb) (hread _ hb)
    change (header.store (t.track m)).scheme id = header.scheme id
    split_ifs at hstore
    · rw [hstore.1, Function.update_of_ne hne]
    · rw [hstore.1]

theorem foldl_schemes (hids : ((boxes.filterMap MoovBox.trak?).map Trak.id).Nodup) :
    ∀ t ∈ boxes.filterMap MoovBox.trak?, ∀ p, t.entry.protection? m = some p →
      ((boxes.foldl (MoovBox.read m) header).scheme t.id).Holds p := by
  induction boxes generalizing header with
  | nil => exact fun t ht => absurd ht List.not_mem_nil
  | cons b boxes ih =>
    have hwf' : ∀ b ∈ boxes, b.WellFormed m := fun b hb => hwf b (List.mem_cons_of_mem _ hb)
    have hread' : ∀ b ∈ boxes, b.Readable := fun b hb => hread b (List.mem_cons_of_mem _ hb)
    cases htrak : b.trak? with
    | none =>
      rw [List.filterMap_cons_none htrak] at hids ⊢
      exact ih hwf' hread' hids
    | some k =>
      obtain rfl := trak?_eq_some htrak
      rw [List.filterMap_cons_some htrak, List.map_cons, List.nodup_cons] at hids
      rw [List.filterMap_cons_some htrak]
      intro t ht p hp
      rcases List.mem_cons.mp ht with rfl | ht
      · have htwf := hwf _ List.mem_cons_self
        have htread := hread _ List.mem_cons_self
        have hstore := store_track header htwf htread
        rw [hp, Option.isSome_some, if_pos rfl] at hstore
        have hkept : (boxes.foldl (MoovBox.read m) (header.store (t.track m))).scheme t.id = (t.track m).scheme := by
          rw [scheme_foldl hwf' hread' fun k hk hid => hids.1 (List.mem_map.mpr ⟨k, hk, hid⟩), hstore.1, Function.update_self]
        exact hkept ▸ (trak_protection htwf htread).2 p hp
      · exact ih hwf' hread' hids.2 t ht p hp

theorem foldl_nbOfSchemes
    (hcount : header.nbOfSchemes + (boxes.filterMap MoovBox.trak?).countP (fun t => (t.entry.protection? m).isSome) < u32) :
    (boxes.foldl (MoovBox.read m) header).nbOfSchemes =
      header.nbOfSchemes + (boxes.filterMap MoovBox.trak?).countP fun t => (t.entry.protection? m).isSome := by
  induction boxes generalizing header with
  | nil => rfl
  | cons b boxes ih =>
    have hwf' : ∀ b ∈ boxes, b.WellFormed m := fun b hb => hwf b (List.mem_cons_of_mem _ hb)
    have hread' : ∀ b ∈ boxes, b.Readable := fun b hb => hread b (List.mem_cons_of_mem _ hb)
    cases htrak : b.trak? with
    | none =>
      rw [List.filterMap_cons_none htrak] at hcount ⊢
      have hkept : (b.read m header).nbOfSchemes = header.nbOfSchemes := (schemes_read htrak).2
      rw [List.foldl_cons, ih hwf' hread' (hkept.symm ▸ hcount), hkept]
    | some k =>
      obtain rfl := trak?_eq_some htrak
      have hstore := store_track header (hwf _ List.mem_cons_self) (hread _ List.mem_cons_self)
      rw [List.filterMap_cons_some htrak, List.countP_cons] at hcount ⊢
      have hread : MoovBox.read m header (.trak k) = header.store (k.track m) := rfl
      rw [List.foldl_cons, hread]
      split_ifs at hstore hcount ⊢ with hprotected
      · have hone : (header.store (k.track m)).nbOfSchemes = header.nbOfSchemes + 1 := by
          rw [hstore.2, Nat.mod_eq_of_lt (by omega)]
        rw [ih hwf' hread' (by omega), hone]
        omega
      · rw [ih hwf' hread' (by omega), hstore.2]
        omega

end Schemes

/-- What is to be known after a movie header was read: no parser left the cursor elsewhere than at the end of its box, the
    data for PlayReady are recorded, and the protected tracks are counted and have their entries. -/
structure MoovRead (m : Mp4Util) (t : Moov) (log : List BoxEvent) (header : Mp4Headers) : Prop where
  exact : Exact log
  playReady : ∀ data, t.playReady? = some data → header.psshSystemId = bmediaProtectionSystemIdentifierGuid ∧
    header.psshDataLength = data.length ∧ header.psshData = some data
  nbOfSchemes : header.nbOfSchemes = t.tracks.countP fun k => (k.entry.protection? m).isSome
  schemes : ∀ k ∈ t.tracks, ∀ p, k.entry.protection? m = some p → (header.scheme k.id).Holds p

/-- The movie header is read completely: 0 is returned, and the cursor is at the end. -/
def ReadCompletely (m : Mp4Util) (t : Moov) (header : Mp4Headers) : Prop :=
  ∃ log header', (parseMoov m { header with nbOfSchemes := 0 }).run t.raw.bytes = (log, some ((0, header'), [])) ∧
    MoovRead m t log header'

theorem length_tracks {t : Moov} (hwf : t.WellFormed m) : t.tracks.length ≤ 4 := by
  have hsubset : t.tracks.map Trak.id ⊆ [1, 2, 3, 4] := by
    intro id hid
    obtain ⟨k, hk, rfl⟩ := List.mem_map.mp hid
    obtain ⟨b, hb, htrak⟩ := List.mem_filterMap.mp hk
    obtain rfl := trak?_eq_some htrak
    have hid := (hwf.boxes _ hb).id
    simp only [List.mem_cons, List.not_mem_nil, or_false]
    omega
  have hlength := (hwf.ids.subperm hsubset).length_le
  rwa [List.length_map] at hlength

/-- A CENC scheme for AVC. -/
def cencSinf : Sinf where
  boxes := [.frma false (BitVec.ofNat 32 (bmp4Type 'a' 'v' 'c' '1')),
    .schm false 0 0 (BitVec.ofNat 32 bmp4CencSchemetype) 0x10000 [],
    .schi false [{ type := bmp4CencTeBox, payload := [0, 0, 0, 0, 0, 0, 1, 8] ++ List.replicate 16 7 }]]

def cencEntry : SampleEntry :=
  .encrypted false true (List.replicate 78 0) [.other { type := bmp4CencAvcc, payload := [1, 2, 3] }, .sinf cencSinf]

/-- An entry that is not encrypted. -/
def clearEntry : SampleEntry := .clear { type := bmp4Type 'a' 'v' 'c' '1', payload := List.replicate 78 0 }

def plainTkhd : Tkhd where
  times := List.replicate 8 0
  id := 1
  rest := List.replicate 68 0

/-- A track, of which the sample table has other boxes behind the sample descriptions. -/
def track (entry : SampleEntry) (tables : List RawBox) : Trak where
  tkhd := plainTkhd
  mdia := { child := { child := { child := { entry }, after := tables } } }

def movie (entry : SampleEntry) (tables : List RawBox) : Moov where
  boxes := [.trak (track entry tables)]

/-- The tables of a track whose samples are all in fragments. -/
def emptyTables : List RawBox :=
  [{ type := bmp4Type 's' 't' 't' 's', payload := List.replicate 8 0 },
    { type := bmp4Type 's' 't' 's' 'c', payload := List.replicate 8 0 },
    { type := bmp4Type 's' 't' 's' 'z', payload := List.replicate 12 0 },
    { type := bmp4Type 's' 't' 'c' 'o', payload := List.replicate 8 0 }]

/-- The boxes of such a header can be coded. -/
def TrackCoded (entry : SampleEntry) (tables : List RawBox) : Prop :=
  (movie entry tables).raw.Coded ∧ (track entry tables).raw.Coded ∧ (track entry tables).mdia.raw.Coded ∧
    (Minf.raw (track entry tables).mdia.child).Coded ∧ (Stbl.raw (track entry tables).mdia.child.child).Coded ∧
    (Stsd.raw { entry }).Coded

instance (entry : SampleEntry) (tables : List RawBox) : Decidable (TrackCoded entry tables) :=
  inferInstanceAs (Decidable (_ ∧ _))

/-- What is returned, and how many bytes are left. -/
def outcome (t : Moov) : Option (Int × Nat) :=
  ((parseMoov plainUtil {}).run t.raw.bytes).2.map fun result => (result.1.1, result.2.length)

theorem tracks_evaluated :
    (TrackCoded cencEntry [] ∧ TrackCoded clearEntry [] ∧ TrackCoded cencEntry emptyTables) ∧
    (plainTkhd.raw.Coded ∧ cencEntry.raw.Coded ∧ clearEntry.raw.Coded ∧ ∀ b ∈ emptyTables, b.Coded) ∧
    (CountsTo (track cencEntry []).raw.size ((track cencEntry []).boxes.map containerIncrement) ∧
      Around.Readable Minf.raw bmp4Media (track cencEntry []).mdia ∧
      Around.Readable Stbl.raw bmp4Mediainformation (track cencEntry []).mdia.child ∧
      Around.Readable Stsd.raw bmp4Sampletable (track cencEntry []).mdia.child.child) ∧
    (outcome (movie clearEntry []) = some (-1, 0) ∧ outcome (movie cencEntry emptyTables) = some (0, 16)) := by
  decide +kernel

theorem cencSinf_wellFormed : cencSinf.WellFormed where
  coded := by decide
  boxes := by
    intro b hb
    simp only [cencSinf, List.mem_cons, List.not_mem_nil, or_false] at hb
    rcases hb with rfl | rfl | rfl
    · exact ⟨by decide, trivial⟩
    · exact ⟨by decide, ⟨fun _ => rfl, fun _ => rfl⟩⟩
    · refine ⟨by decide, fun te hte => ?_⟩
      obtain rfl := List.mem_singleton.mp hte
      exact ⟨by decide, fun h => absurd h (by decide), fun _ => by decide⟩
  formats := by
    intro b hb b' hb' f f' hf hf'
    simp only [cencSinf, List.mem_cons, List.not_mem_nil, or_false] at hb hb'
    rcases hb with rfl | rfl | rfl <;> rcases hb' with rfl | rfl | rfl <;> simp_all [SinfBox.format?]
  keyIds := by
    intro b hb b' hb' k k' hk hk'
    obtain rfl : b = b' := (List.mem_singleton.mp hb).trans (List.mem_singleton.mp hb').symm
    exact Option.some.inj (hk.symm.trans hk')

theorem cencSinf_readable : cencSinf.Readable := by
  refine ⟨fun b hb => ?_, by decide⟩
  simp only [cencSinf, List.mem_cons, List.not_mem_nil, or_false] at hb
  rcases hb with rfl | rfl | rfl
  · trivial
  · exact Nat.zero_le 1
  · refine ⟨rfl, fun te hte => ?_⟩
    obtain rfl := List.mem_singleton.mp hte
    exact ⟨fun h => absurd h (by decide), fun _ => by decide⟩

theorem cencEntry_wellFormed : cencEntry.WellFormed plainUtil := by
  obtain ⟨-, ⟨-, hcoded, -⟩, -⟩ := tracks_evaluated
  refine ⟨hcoded, rfl, fun b hb => ?_, fun b hb b' hb' c c' hc hc' => ?_⟩
  · simp only [List.mem_cons, List.not_mem_nil, or_false] at hb
    rcases hb with rfl | rfl
    · exact ⟨by decide, by decide, fun h => absurd h (by decide)⟩
    · exact cencSinf_wellFormed
  · simp only [List.mem_cons, List.not_mem_nil, or_false] at hb hb'
    rcases hb with rfl | rfl
    · rcases hb' with rfl | rfl
      · exact Option.some.inj (hc.symm.trans hc')
      · cases hc'
    · cases hc

theorem cencEntry_readable : cencEntry.Readable where
  readable := by
    intro b hb
    simp only [List.mem_cons, List.not_mem_nil, or_false] at hb
    rcases hb with rfl | rfl
    · exact fun _ => by decide
    · exact cencSinf_readable
  sinf := ⟨cencSinf, by simp⟩
  last := by
    intro init b rest hboxes hcomplete
    rcases init with - | ⟨b', - | ⟨b'', init⟩⟩
    · obtain ⟨rfl, -⟩ := List.cons.inj hboxes
      cases hcomplete
    · exact (List.cons.inj (List.cons.inj hboxes).2).2.symm
    · have hlength := congrArg List.length hboxes
      simp only [List.length_append, List.length_cons, List.length_nil] at hlength
      omega
  size _ := tracks_evaluated.2.1.2.1.2

theorem movie_wellFormed {entry : SampleEntry} {tables : List RawBox} (hentry : entry.WellFormed plainUtil)
    (htables : Skipped [bmp4Sampledescription] tables) (hcoded : TrackCoded entry tables) :
    (movie entry tables).WellFormed plainUtil := by
  have hnone (types : List Nat) : Skipped types [] := fun b hb => absurd hb List.not_mem_nil
  obtain ⟨hmoov, htrak, hmdia, hminf, hstbl, hstsd⟩ := hcoded
  refine ⟨hmoov, fun b hb => ?_, List.nodup_cons.mpr ⟨List.not_mem_nil, List.nodup_nil⟩⟩
  obtain rfl := List.mem_singleton.mp hb
  exact ⟨htrak, ⟨tracks_evaluated.2.1.1, rfl, rfl⟩, ⟨Nat.le_refl 1, Nat.le_of_ble_eq_true rfl⟩,
    ⟨hmdia, hnone _, hminf, hnone _, hstbl, htables, hstsd, hentry⟩, hnone _⟩

theorem cencMovie_wellFormed : (movie cencEntry []).WellFormed plainUtil :=
  movie_wellFormed cencEntry_wellFormed (fun _ hb => absurd hb List.not_mem_nil) tracks_evaluated.1.1

theorem clearEntry_wellFormed : clearEntry.WellFormed plainUtil := by
  obtain ⟨-, ⟨-, -, hcoded, -⟩, -⟩ := tracks_evaluated
  exact ⟨hcoded, by decide⟩

theorem emptyTables_skipped : Skipped [bmp4Sampledescription] emptyTables := by
  obtain ⟨-, ⟨-, -, -, hcoded⟩, -⟩ := tracks_evaluated
  have htypes : ∀ b ∈ emptyTables, b.type ∉ [bmp4Sampledescription] := by decide
  exact fun b hb => ⟨hcoded b hb, htypes b hb⟩

theorem outcome_of_readCompletely {t : Moov} (h : ReadCompletely plainUtil t {}) : outcome t = some (0, 0) := by
  obtain ⟨log, header, hrun, -⟩ := h
  have hrun : (parseMoov plainUtil {}).run t.raw.bytes = (log, some ((0, header), [])) := hrun
  rw [outcome, hrun]
  rfl

end BcmPlatform.Piff
