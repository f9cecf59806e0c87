import BcmPlatform.Piff.Fragments

/-! The parsers of PIFF headers leave no table, compute no negative length and use `trackType` with a value exactly where the
    boxes that they come to fit. -/

namespace BcmPlatform.Piff
open Bomx Lib Walk

/-! ### Accesses in bounds, and boxes that fit -/

def Table.capacity : Table → Nat
  | .scheme => bpiffMaxNbOfTracks
  | .sampleInfo => bpiffMaxSamples
  | .samples => bpiffSamplesPoolSize
  | .entries => bpiffMaxEntriesPerSample

def Access.InBounds : Access → Prop
  | .length n => 0 ≤ n
  | .config written => written ≤ bpiffMaxPpsSps
  | .slot table index => index < table.capacity
  | .trackType isSet => isSet = true

/-- All accesses of a run are in bounds. -/
def InBounds (log : List BoxEvent) : Prop := ∀ a, .access a ∈ log → a.InBounds

/-- The types that are not skipped by a loop. -/
def handled : Place → List Nat
  | .moov => [bmp4Extended, bmp4DashPssh, bmp4Track]
  | .trak => [bmp4Media]
  | .mdia => [bmp4Mediainformation]
  | .minf => [bmp4Sampletable]
  | .stbl => [bmp4Sampledescription]
  | .stsd => [bmp4SampleEncryptedVideo, bmp4SampleEncryptedAudio]
  | .entry => [bmp4Protectionschemeinfo, bmp4CencDvc1, bmp4CencAvcc, bmp4CencWfex]
  | .sinf => [bmp4Originalfmt, bmp4Schemetype, bmp4Schemeinfo]
  | .schi => [bmp4CencTeBox, bmp4Extended]
  | .moof => [bmp4TrackFragment]
  | .traf => [bmp4TrackFragmentHeader, bmp4TrackFragmentRun, bmp4Extended]

variable (m : Mp4Util)

/-- The system id behind a full box, in the bytes of a protection system header. -/
def systemIdAt (l : List UInt8) : List UInt8 := overwrite m.stackSystemId 0 (l.take 16)

/-- A box fits where a loop comes to it, with the bytes behind its header. -/
structure VisitFits (place : Place) (box : Mp4Box) (rest : List UInt8) : Prop where
  skipped : box.type ∉ handled place → box.headerSize ≤ box.size
  config : place = .entry → box.type ∈ configTypes →
    box.headerSize ≤ box.size ∧ min (box.size - box.headerSize) rest.length ≤ bpiffMaxPpsSps
  scheme : place = .sinf → box.type = bmp4Schemetype → ∀ fullbox, (m.parseFullbox.read rest).1 = some fullbox →
    ((m.uint 4).read (m.parseFullbox.read rest).2).1 ∉ [bmp4CencSchemetype, bmp4PiffSchemetype] →
    box.headerSize + box.headerSize ≤ box.size
  piffPssh : place = .moov → box.type = bmp4Extended → ∀ usertype fullbox, (m.parseBoxExtended.read rest).1 = some usertype →
    (m.parseFullbox.read (m.parseBoxExtended.read rest).2).1 = some fullbox → usertype ≠ psshExtendedType → 28 ≤ box.size
  dashPssh : place = .moov → box.type = bmp4DashPssh → ∀ fullbox, (m.parseFullbox.read rest).1 = some fullbox →
    systemIdAt m (m.parseFullbox.read rest).2 ≠ bmediaProtectionSystemIdentifierGuid → 28 ≤ box.size
  fragment : place = .traf → box.type = bmp4TrackFragmentHeader →
    m.trackId (m.parseTrackFragmentHeader.read rest).1 < bpiffMaxNbOfTracks

def BoxEvent.Fits : BoxEvent → Prop
  | .visit place box rest => VisitFits m place box rest
  | .track valid id => valid = true → id < bpiffMaxNbOfTracks
  | .access _ | .left _ _ _ => True

/-- All boxes that a run comes to fit. -/
def AllFit (log : List BoxEvent) : Prop := ∀ e ∈ log, e.Fits m

/-- A log is in bounds exactly where what it comes to fits. -/
def Linked (log : List BoxEvent) : Prop := InBounds log ↔ AllFit m log

variable {m}

theorem Linked.iff {log : List BoxEvent} (h : Linked m log) : InBounds log ↔ AllFit m log := h

theorem inBounds_append {log log' : List BoxEvent} : InBounds (log ++ log') ↔ InBounds log ∧ InBounds log' := by
  simp only [InBounds, List.mem_append, or_imp, forall_and]

theorem allFit_append {log log' : List BoxEvent} : AllFit m (log ++ log') ↔ AllFit m log ∧ AllFit m log' := by
  simp only [AllFit, List.mem_append, or_imp, forall_and]

theorem linked_composes : Composes (Linked m) where
  nil := ⟨fun _ _ he => absurd he List.not_mem_nil, fun _ _ ha => absurd ha List.not_mem_nil⟩
  append h h' := by rw [Linked, inBounds_append, allFit_append, h.iff, h'.iff]

theorem inBounds_cons {e : BoxEvent} {log : List BoxEvent} :
    InBounds (e :: log) ↔ (∀ a, e = .access a → a.InBounds) ∧ InBounds log := by
  simp only [InBounds, List.mem_cons, or_imp, forall_and, eq_comm (b := e)]

theorem allFit_cons {e : BoxEvent} {log : List BoxEvent} : AllFit m (e :: log) ↔ e.Fits m ∧ AllFit m log := by
  simp only [AllFit, List.mem_cons, forall_eq_or_imp]

theorem linked_cons {e : BoxEvent} {log : List BoxEvent} (he : ∀ a, e ≠ .access a) (hfits : e.Fits m) (hlog : Linked m log) :
    Linked m (e :: log) := by
  rw [Linked, inBounds_cons, allFit_cons, hlog.iff]
  exact and_congr_left fun _ => ⟨fun _ => hfits, fun _ a ha => absurd ha (he a)⟩

theorem linked_access {a : Access} {log : List BoxEvent} (ha : a.InBounds) (hlog : Linked m log) :
    Linked m (.access a :: log) := by
  rw [Linked, inBounds_cons, allFit_cons, hlog.iff]
  refine and_congr_left fun _ => ⟨fun _ => trivial, fun _ b hb => ?_⟩
  obtain rfl := BoxEvent.access.inj hb
  exact ha

theorem linked_pair {e : BoxEvent} {a : Access} {log : List BoxEvent} (he : ∀ a, e ≠ .access a)
    (hiff : a.InBounds ↔ e.Fits m) (hlog : Linked m log) : Linked m (e :: .access a :: log) := by
  rw [Linked, inBounds_cons, inBounds_cons, allFit_cons, allFit_cons, hlog.iff, ← hiff]
  constructor
  · rintro ⟨-, ha, hlog⟩
    exact ⟨ha a rfl, trivial, hlog⟩
  · rintro ⟨ha, -, hlog⟩
    refine ⟨fun b hb => absurd hb (he b), fun b hb => ?_, hlog⟩
    obtain rfl := BoxEvent.access.inj hb
    exact ha

theorem linked_two {e : BoxEvent} {a a' : Access} {log : List BoxEvent} (he : ∀ a, e ≠ .access a)
    (hiff : a.InBounds ∧ a'.InBounds ↔ e.Fits m) (hlog : Linked m log) : Linked m (e :: .access a :: .access a' :: log) := by
  rw [Linked, inBounds_cons, inBounds_cons, inBounds_cons, allFit_cons, allFit_cons, allFit_cons, hlog.iff, ← hiff]
  constructor
  · rintro ⟨-, ha, ha', hlog⟩
    exact ⟨⟨ha a rfl, ha' a' rfl⟩, trivial, trivial, hlog⟩
  · rintro ⟨⟨ha, ha'⟩, -, -, hlog⟩
    refine ⟨fun b hb => absurd hb (he b), fun b hb => ?_, fun b hb => ?_, hlog⟩
    · obtain rfl := BoxEvent.access.inj hb
      exact ha
    · obtain rfl := BoxEvent.access.inj hb
      exact ha'

/-! ### The parts of the parsers -/

theorem logs_event {e : BoxEvent} (h : Linked m [e]) : Logs (Linked m) (event e) := fun _ => h

theorem logs_takeBytes (n : Nat) : Logs (Linked m) (takeBytes n) := fun _ => linked_composes.nil

theorem logs_parsing {α : Type} (box : Mp4Box) {p : BoxWalk α} (hp : Logs (Linked m) p) : Logs (Linked m) (parsing box p) := by
  refine logs_bind linked_composes (logs_peek linked_composes) fun start => ?_
  refine logs_bind linked_composes hp fun a => logs_bind linked_composes (logs_peek linked_composes) fun rest => ?_
  refine logs_bind linked_composes (logs_event ?_) fun _ => logs_pure linked_composes a
  exact linked_cons (fun a ha => by cases ha) trivial linked_composes.nil

/-- The iterations of a loop over boxes. -/
def LinkedBody {σ ρ : Type} (m : Mp4Util) (place : Place) (body : σ → Mp4Box → BoxWalk ((σ × Nat) ⊕ ρ)) : Prop :=
  ∀ s box l, Linked m (.visit place box l :: ((body s box).run l).1)

theorem logs_boxLoop {σ ρ : Type} {place : Place} {limit i : Nat} {body : σ → Mp4Box → BoxWalk ((σ × Nat) ⊕ ρ)} {s : σ}
    (hbody : LinkedBody m place body) : Logs (Linked m) (boxLoop m place limit body i s) := by
  refine logs_bind linked_composes (logs_scan linked_composes (fun s box l => ?_) _) fun _ => logs_pure linked_composes _
  rw [visit, bind_assoc, run_peek_bind, run_event_bind, log_map]
  exact hbody s.2 box l

theorem run_skipLength_bind {α : Type} (n : Int) (f : Unit → BoxWalk α) (l : List UInt8) : (skipLength n >>= f).run l =
    (.access (.length n) :: ((f ()).run (l.drop (sizeT n))).1, ((f ()).run (l.drop (sizeT n))).2) := by
  rw [skipLength, access, bind_assoc, run_event_bind]
  rfl

section Bodies
variable {σ ρ : Type} {place : Place} {box : Mp4Box} {rest : List UInt8}

theorem visitFits_of_not_handled (h : box.type ∉ handled place) : VisitFits m place box rest ↔ box.headerSize ≤ box.size := by
  refine ⟨fun hfits => hfits.skipped h, fun hle => ⟨fun _ => hle, ?_, ?_, ?_, ?_, ?_⟩⟩
  · rintro rfl hconfig
    exact absurd (List.mem_cons_of_mem _ hconfig) h
  · rintro rfl htype
    exact absurd (htype ▸ by decide) h
  · rintro rfl htype
    exact absurd (htype ▸ by decide) h
  · rintro rfl htype
    exact absurd (htype ▸ by decide) h
  · rintro rfl htype
    exact absurd (htype ▸ by decide) h

theorem linked_skipBox {α : Type} (h : box.type ∉ handled place) (a : α) (l : List UInt8) :
    Linked m (.visit place box l :: ((skipBox box >>= fun _ => (pure a : BoxWalk α)).run l).1) := by
  rw [skipBox, run_skipLength_bind]
  refine linked_pair (fun a ha => by cases ha) ?_ linked_composes.nil
  change (0 : Int) ≤ (box.size : Int) - box.headerSize ↔ VisitFits m place box l
  rw [visitFits_of_not_handled h]
  omega

theorem linked_handled {log : List BoxEvent} {l : List UInt8} (h : box.type ∈ handled place)
    (hentry : place = .entry → box.type = bmp4Protectionschemeinfo) (hsinf : place = .sinf → box.type ≠ bmp4Schemetype)
    (hmoov : place = .moov → box.type = bmp4Track) (htraf : place = .traf → box.type ≠ bmp4TrackFragmentHeader)
    (hlog : Linked m log) : Linked m (.visit place box l :: log) := by
  refine linked_cons (fun a ha => by cases ha) ⟨fun hnot => absurd h hnot, ?_, ?_, ?_, ?_, ?_⟩ hlog
  · intro hplace hconfig
    rw [hentry hplace] at hconfig
    exact absurd hconfig (by decide)
  · exact fun hplace htype => absurd htype (hsinf hplace)
  · intro hplace htype
    rw [hmoov hplace] at htype
    exact absurd htype (by decide)
  · intro hplace htype
    rw [hmoov hplace] at htype
    exact absurd htype (by decide)
  · exact fun hplace htype => absurd htype (htraf hplace)

theorem visitFits_scheme_iff (h : box.type = bmp4Schemetype) : VisitFits m .sinf box rest ↔
    ∀ fullbox, (m.parseFullbox.read rest).1 = some fullbox →
      ((m.uint 4).read (m.parseFullbox.read rest).2).1 ∉ [bmp4CencSchemetype, bmp4PiffSchemetype] →
      box.headerSize + box.headerSize ≤ box.size := by
  refine ⟨fun hfits => hfits.scheme rfl h, fun hscheme => ⟨fun hnot => ?_, ?_, fun _ _ => hscheme, ?_, ?_, ?_⟩⟩
  · exact absurd (h ▸ by decide) hnot
  all_goals
    intro hplace
    cases hplace

theorem visitFits_config_iff (h : box.type ∈ configTypes) : VisitFits m .entry box rest ↔
    box.headerSize ≤ box.size ∧ min (box.size - box.headerSize) rest.length ≤ bpiffMaxPpsSps := by
  refine ⟨fun hfits => hfits.config rfl h, fun hconfig => ⟨fun hnot => ?_, fun _ _ => hconfig, ?_, ?_, ?_, ?_⟩⟩
  · exact absurd (List.mem_cons_of_mem _ h) hnot
  all_goals
    intro hplace
    cases hplace

theorem visitFits_piffPssh_iff (h : box.type = bmp4Extended) : VisitFits m .moov box rest ↔
    ∀ usertype fullbox, (m.parseBoxExtended.read rest).1 = some usertype →
      (m.parseFullbox.read (m.parseBoxExtended.read rest).2).1 = some fullbox → usertype ≠ psshExtendedType → 28 ≤ box.size := by
  refine ⟨fun hfits => hfits.piffPssh rfl h, fun hpssh => ⟨fun hnot => ?_, ?_, ?_, fun _ _ => hpssh, fun _ htype => ?_, ?_⟩⟩
  · exact absurd (h ▸ by decide) hnot
  · intro hplace
    cases hplace
  · intro hplace
    cases hplace
  · exact absurd (h.symm.trans htype) (by decide)
  · intro hplace
    cases hplace

theorem visitFits_dashPssh_iff (h : box.type = bmp4DashPssh) : VisitFits m .moov box rest ↔
    ∀ fullbox, (m.parseFullbox.read rest).1 = some fullbox →
      systemIdAt m (m.parseFullbox.read rest).2 ≠ bmediaProtectionSystemIdentifierGuid → 28 ≤ box.size := by
  refine ⟨fun hfits => hfits.dashPssh rfl h, fun hpssh => ⟨fun hnot => ?_, ?_, ?_, fun _ htype => ?_, fun _ _ => hpssh, ?_⟩⟩
  · exact absurd (h ▸ by decide) hnot
  · intro hplace
    cases hplace
  · intro hplace
    cases hplace
  · exact absurd (h.symm.trans htype) (by decide)
  · intro hplace
    cases hplace

theorem visitFits_fragment_iff (h : box.type = bmp4TrackFragmentHeader) : VisitFits m .traf box rest ↔
    m.trackId (m.parseTrackFragmentHeader.read rest).1 < bpiffMaxNbOfTracks := by
  refine ⟨fun hfits => hfits.fragment rfl h, fun hfragment => ⟨fun hnot => ?_, ?_, ?_, ?_, ?_, fun _ _ => hfragment⟩⟩
  · exact absurd (h ▸ by decide) hnot
  all_goals
    intro hplace
    cases hplace

end Bodies

/-! ### `bpiff_parse_sinf` -/

theorem logs_sinfSchemeVersion (s : SinfState) (box : Mp4Box) : Logs (Linked m) (sinfSchemeVersion m s box) := by
  refine logs_bind linked_composes (logs_get linked_composes _) fun schemeVersion => ?_
  dsimp only
  split_ifs
  · exact logs_bind linked_composes (logs_skip linked_composes 1) fun _ => logs_pure linked_composes _
  · exact logs_pure linked_composes _

theorem logs_sinfTrackEncryption (s : SinfState) (box teBox : Mp4Box) :
    Logs (Linked m) (sinfTrackEncryption m s box teBox) := by
  refine logs_bind linked_composes (logs_get linked_composes _) fun fullbox => ?_
  cases fullbox with
  | none => exact logs_pure linked_composes _
  | some fullbox =>
    refine logs_bind linked_composes (logs_get linked_composes _) fun algId => ?_
    refine logs_bind linked_composes (logs_get linked_composes _) fun ivSize => ?_
    exact logs_bind linked_composes (logs_takeBytes 16) fun keyId => logs_pure linked_composes _

theorem linked_sinfSchemeType (s : SinfState) {box : Mp4Box} (htype : box.type = bmp4Schemetype) (l : List UInt8) :
    Linked m (.visit .sinf box l :: ((sinfSchemeType m s box).run l).1) := by
  have hfits : VisitFits m .sinf box l ↔ _ := visitFits_scheme_iff htype
  rw [sinfSchemeType, run_get_bind]
  cases hfullbox : (m.parseFullbox.read l).1 with
  | none =>
    refine linked_cons (fun a ha => by cases ha) (hfits.mpr fun fullbox hsome => ?_) linked_composes.nil
    rw [hfullbox] at hsome
    cases hsome
  | some fullbox =>
    simp only []
    rw [run_get_bind]
    generalize ((m.uint 4).read (m.parseFullbox.read l).2).1 = schemeType at hfits
    have hknown (h : schemeType ∈ [bmp4CencSchemetype, bmp4PiffSchemetype]) : VisitFits m .sinf box l :=
      hfits.mpr fun _ _ hnot => absurd h hnot
    split_ifs with hcenc hpiff
    · exact linked_cons (fun a ha => by cases ha) (hknown (List.mem_pair.mpr (.inl hcenc))) (logs_sinfSchemeVersion _ _ _)
    · exact linked_cons (fun a ha => by cases ha) (hknown (List.mem_pair.mpr (.inr hpiff))) (logs_sinfSchemeVersion _ _ _)
    · have hnot : schemeType ∉ [bmp4CencSchemetype, bmp4PiffSchemetype] := by
        rw [List.mem_pair]
        exact not_or.mpr ⟨hcenc, hpiff⟩
      rw [run_skipLength_bind]
      refine linked_pair (fun a ha => by cases ha) ?_ linked_composes.nil
      change (0 : Int) ≤ (box.size : Int) - box.headerSize - box.headerSize ↔ VisitFits m .sinf box l
      rw [hfits]
      refine ⟨fun hle _ _ _ => by omega, fun hle => ?_⟩
      have := hle fullbox hfullbox hnot
      omega

theorem linked_sinfSchemeInfo (s : SinfState) {box : Mp4Box} (htype : box.type = bmp4Schemeinfo) (l : List UInt8) :
    Linked m (.visit .sinf box l :: ((sinfSchemeInfo m s box).run l).1) := by
  refine linked_handled (htype ▸ by decide) (fun h => by cases h) (fun _ => htype ▸ by decide) (fun h => by cases h)
    (fun h => by cases h) ?_
  rw [sinfSchemeInfo, run_get_bind]
  cases (m.parseBox.read l).1 with
  | none => exact linked_composes.nil
  | some teBox =>
    simp only []
    rw [visit, bind_assoc, run_peek_bind, run_event_bind]
    generalize (m.parseBox.read l).2 = l'
    split_ifs with htenc hextended
    · exact linked_handled (htenc ▸ by decide) (fun h => by cases h) (fun h => by cases h) (fun h => by cases h)
        (fun h => by cases h) (logs_sinfTrackEncryption _ _ _ l')
    · refine linked_handled (hextended ▸ by decide) (fun h => by cases h) (fun h => by cases h) (fun h => by cases h)
        (fun h => by cases h) ?_
      rw [run_get_bind]
      cases (m.parseBoxExtended.read l').1 with
      | none => exact linked_composes.nil
      | some usertype =>
        simp only []
        split_ifs
        · exact linked_composes.nil
        · exact logs_sinfTrackEncryption _ _ _ _
    · refine linked_skipBox ?_ _ l'
      rw [handled, List.mem_pair]
      exact not_or.mpr ⟨htenc, hextended⟩

theorem linked_sinfBody : LinkedBody m .sinf (sinfBody m) := by
  intro s box l
  rw [sinfBody]
  split_ifs with hfmt hscheme hinfo
  · exact linked_handled (hfmt ▸ by decide) (fun h => by cases h) (fun _ => hfmt ▸ by decide) (fun h => by cases h)
      (fun h => by cases h) linked_composes.nil
  · exact linked_sinfSchemeType s hscheme l
  · exact linked_sinfSchemeInfo s hinfo l
  · refine linked_skipBox ?_ _ l
    simp only [handled, List.mem_cons, List.not_mem_nil, or_false]
    tauto

theorem logs_parseSinf (box : Mp4Box) (track : TrackInfo) : Logs (Linked m) (parseSinf m box track) := by
  refine logs_bind linked_composes (logs_boxLoop linked_sinfBody) fun result => ?_
  rcases result with s | ⟨rc, s⟩ <;> exact logs_pure linked_composes _

/-! ### `bpiff_parse_stsd` -/

theorem length_take_sizeT {box : Mp4Box} (hle : box.headerSize ≤ box.size) (l : List UInt8) :
    (l.take (sizeT ((box.size : Int) - box.headerSize))).length = min (box.size - box.headerSize) l.length := by
  rw [List.length_take, sizeT, if_pos (by omega)]
  omega

theorem linked_copyConfig {α : Type} {box : Mp4Box} (htype : box.type ∈ configTypes) (track : TrackInfo) (a : TrackInfo → α)
    (l : List UInt8) : Linked m (.visit .entry box l ::
      ((copyConfig ((box.size : Int) - box.headerSize) track >>= fun track => (pure (a track) : BoxWalk α)).run l).1) := by
  rw [log_map, copyConfig, access, run_event_bind, run_peek_bind]
  dsimp only
  rw [access, run_event_bind]
  refine linked_two (fun a ha => by cases ha) ?_ ?_
  · change (0 : Int) ≤ (box.size : Int) - box.headerSize ∧ _ ≤ bpiffMaxPpsSps ↔ VisitFits m .entry box l
    rw [visitFits_config_iff htype]
    constructor
    · rintro ⟨hle, hwritten⟩
      have hle : box.headerSize ≤ box.size := by omega
      exact ⟨hle, length_take_sizeT hle l ▸ hwritten⟩
    · rintro ⟨hle, hwritten⟩
      exact ⟨by omega, (length_take_sizeT hle l).symm ▸ hwritten⟩
  · split_ifs <;> exact linked_composes.nil

section Aac
variable (haac : ∀ l, (m.probeAacInfo l).length ≤ bpiffMaxPpsSps)
include haac

theorem linked_entryBody : LinkedBody m .entry (entryBody m) := by
  intro s box l
  rw [entryBody]
  split_ifs with hsinf hconfig hesds
  · refine linked_handled (hsinf ▸ by decide) (fun _ => hsinf) (fun h => by cases h) (fun h => by cases h)
      (fun h => by cases h) ?_
    refine logs_bind linked_composes (logs_parsing box (logs_parseSinf box s.2)) (fun result => ?_) l
    obtain ⟨rc, track⟩ := result
    dsimp only
    split_ifs <;> exact logs_pure linked_composes _
  · refine linked_copyConfig ?_ s.2 _ l
    simpa [configTypes] using hconfig
  · have hnot : box.type ∉ handled .entry := hesds ▸ by decide
    rw [aacConfig, bind_assoc, run_peek_bind]
    dsimp only
    rw [access, bind_assoc, run_event_bind, if_neg (Nat.not_lt.mpr (haac _)), run_pure_bind, skipBox, run_skipLength_bind]
    refine linked_two (fun a ha => by cases ha) ?_ linked_composes.nil
    change _ ≤ bpiffMaxPpsSps ∧ (0 : Int) ≤ (box.size : Int) - box.headerSize ↔ VisitFits m .entry box l
    rw [visitFits_of_not_handled hnot, and_iff_right (haac _)]
    omega
  · refine linked_skipBox ?_ _ l
    simp only [handled, List.mem_cons, List.not_mem_nil, or_false]
    tauto

theorem linked_stsdBody : LinkedBody m .stsd (stsdBody m) := by
  intro s box l
  rw [stsdBody]
  by_cases hentry : box.type = bmp4SampleEncryptedVideo ∨ box.type = bmp4SampleEncryptedAudio
  · rw [if_pos hentry]
    refine linked_handled (List.mem_pair.mpr hentry) (fun h => by cases h) (fun h => by cases h) (fun h => by cases h)
      (fun h => by cases h) ?_
    refine logs_bind linked_composes (logs_skip linked_composes _) (fun _ => ?_) l
    refine logs_bind linked_composes (logs_boxLoop (linked_entryBody haac)) fun result => ?_
    cases result <;> exact logs_pure linked_composes _
  · rw [if_neg hentry]
    exact linked_skipBox (fun h => hentry (List.mem_pair.mp h)) _ l

theorem logs_parseStsd (track : TrackInfo) : Logs (Linked m) (parseStsd m track) := by
  refine logs_bind linked_composes (logs_get linked_composes _) fun fullbox => ?_
  cases fullbox with
  | none => exact logs_pure linked_composes _
  | some fullbox =>
    refine logs_bind linked_composes (logs_get linked_composes _) fun entryCount => ?_
    refine logs_bind linked_composes (logs_boxLoop (linked_stsdBody haac)) fun result => ?_
    cases result <;> exact logs_pure linked_composes _

/-! ### The containers of a track -/

omit haac in
theorem logs_container {place : Place} {type : Nat} {parse : Mp4Box → TrackInfo → BoxWalk (Int × TrackInfo)}
    (hhandled : handled place = [type]) (hplace : place ≠ .entry ∧ place ≠ .sinf ∧ place ≠ .moov ∧ place ≠ .traf)
    (hparse : ∀ box track, Logs (Linked m) (parse box track)) (box : Mp4Box) (track : TrackInfo) :
    Logs (Linked m) (container m place type parse box track) := by
  obtain ⟨hentry, hsinf, hmoov, htraf⟩ := hplace
  refine logs_bind linked_composes (logs_boxLoop fun s child l => ?_) fun result => ?_
  · rw [containerBody]
    split_ifs with htype
    · refine linked_handled (by rw [hhandled, htype]; exact List.mem_singleton_self _) (fun h => absurd h hentry)
        (fun h => absurd h hsinf) (fun h => absurd h hmoov) (fun h => absurd h htraf) ?_
      refine logs_bind linked_composes (logs_parsing child (hparse child s.2)) (fun result => ?_) l
      obtain ⟨rc, track⟩ := result
      dsimp only
      split_ifs <;> exact logs_pure linked_composes _
    · exact linked_skipBox (by rw [hhandled, List.mem_singleton]; exact htype) _ l
  · cases result <;> exact logs_pure linked_composes _

theorem logs_parseMdia (box : Mp4Box) (track : TrackInfo) : Logs (Linked m) (parseMdia m box track) := by
  have hother (place : Place) (h : place = .stbl ∨ place = .minf ∨ place = .mdia) :
      place ≠ .entry ∧ place ≠ .sinf ∧ place ≠ .moov ∧ place ≠ .traf := by
    rcases h with rfl | rfl | rfl <;> decide
  refine logs_container rfl (hother _ (by decide)) (fun box track => ?_) box track
  refine logs_container rfl (hother _ (by decide)) (fun box track => ?_) box track
  exact logs_container rfl (hother _ (by decide)) (fun _ track => logs_parseStsd haac track) box track

theorem linked_trakBody : LinkedBody m .trak (trakBody m) := by
  intro track box l
  rw [trakBody]
  split_ifs with htkhd hmedia
  · have hnot : box.type ∉ handled .trak := htkhd ▸ by decide
    rw [run_peek_bind, skipBox, run_skipLength_bind]
    refine linked_pair (fun a ha => by cases ha) ?_ ?_
    · change (0 : Int) ≤ (box.size : Int) - box.headerSize ↔ VisitFits m .trak box l
      rw [visitFits_of_not_handled hnot]
      omega
    · rw [run_peek_bind]
      split <;> exact linked_composes.nil
  · refine linked_handled (hmedia ▸ by decide) (fun h => by cases h) (fun h => by cases h) (fun h => by cases h)
      (fun h => by cases h) ?_
    refine logs_bind linked_composes (logs_parsing box (logs_parseMdia haac box track)) (fun result => ?_) l
    obtain ⟨rc, track⟩ := result
    dsimp only
    split_ifs <;> exact logs_pure linked_composes _
  · exact linked_skipBox (by rw [handled, List.mem_singleton]; exact hmedia) _ l

omit haac in
theorem logs_storeTrack (header : Mp4Headers) (track : TrackInfo) : Logs (Linked m) (storeTrack header track) := by
  intro l
  rw [storeTrack, run_event_bind]
  dsimp only
  split_ifs with hvalid hid
  · rw [access, run_event_bind]
    refine linked_pair (fun a ha => by cases ha) ?_ linked_composes.nil
    change _ < bpiffMaxNbOfTracks ↔ (_ → _ < bpiffMaxNbOfTracks)
    rw [imp_iff_right hvalid]
  · rw [access, run_event_bind]
    refine linked_pair (fun a ha => by cases ha) ?_ linked_composes.nil
    change _ < bpiffMaxNbOfTracks ↔ (_ → _ < bpiffMaxNbOfTracks)
    rw [imp_iff_right hvalid]
  · exact linked_cons (fun a ha => by cases ha) (fun h => absurd h hvalid) linked_composes.nil

theorem logs_parseTrak (header : Mp4Headers) (box : Mp4Box) : Logs (Linked m) (parseTrak m header box) := by
  refine logs_bind linked_composes (logs_boxLoop (linked_trakBody haac)) fun result => ?_
  cases result with
  | inl track => exact logs_bind linked_composes (logs_storeTrack header track) fun _ => logs_pure linked_composes _
  | inr rc => exact logs_pure linked_composes _

/-! ### `bpiff_parse_moov` -/

omit haac in
theorem run_takeBytes_bind {α : Type} (n : Nat) (f : List UInt8 → BoxWalk α) (l : List UInt8) :
    (takeBytes n >>= f).run l = (f (l.take n)).run (l.drop n) := by
  rw [takeBytes, bind_assoc, run_peek_bind, bind_assoc, run_skip_bind]
  rfl

omit haac in
theorem logs_readPsshData (header : Mp4Headers) (systemId : List UInt8) :
    Logs (Linked m) (readPsshData m header systemId) := by
  refine logs_bind linked_composes (logs_get linked_composes _) fun psshDataLength => ?_
  dsimp only
  split_ifs
  · exact logs_bind linked_composes (logs_takeBytes _) fun _ => logs_pure linked_composes _
  · exact logs_pure linked_composes _

omit haac in
theorem linked_skipPssh {e : BoxEvent} (he : ∀ a, e ≠ .access a) {box : Mp4Box} (hfits : e.Fits m ↔ 28 ≤ box.size)
    (header : Mp4Headers) (l : List UInt8) : Linked m (e :: ((skipPssh header box).run l).1) := by
  rw [skipPssh, run_skipLength_bind]
  refine linked_pair he ?_ linked_composes.nil
  change (0 : Int) ≤ (box.size : Int) - 8 - 4 - 16 ↔ e.Fits m
  rw [hfits]
  omega

omit haac in
theorem linked_parsePiffPssh {box : Mp4Box} (htype : box.type = bmp4Extended) (header : Mp4Headers) (l : List UInt8) :
    Linked m (.visit .moov box l :: ((parsePiffPssh m header box).run l).1) := by
  have hfits : BoxEvent.Fits m (.visit .moov box l) ↔ _ := visitFits_piffPssh_iff htype
  rw [parsePiffPssh, run_get_bind]
  cases husertype : (m.parseBoxExtended.read l).1 with
  | none =>
    refine linked_cons (fun a ha => by cases ha) (hfits.mpr fun usertype fullbox hsome => ?_) linked_composes.nil
    rw [husertype] at hsome
    cases hsome
  | some usertype =>
    simp only []
    rw [run_get_bind]
    cases hfullbox : (m.parseFullbox.read (m.parseBoxExtended.read l).2).1 with
    | none =>
      refine linked_cons (fun a ha => by cases ha) (hfits.mpr fun usertype fullbox _ hsome => ?_) linked_composes.nil
      rw [hfullbox] at hsome
      cases hsome
    | some fullbox =>
      have hfits : BoxEvent.Fits m (.visit .moov box l) ↔ (usertype ≠ psshExtendedType → 28 ≤ box.size) := by
        refine hfits.trans ⟨fun h => h usertype fullbox husertype hfullbox, fun h usertype' fullbox' husertype' _ => ?_⟩
        obtain rfl := Option.some.inj (husertype.symm.trans husertype')
        exact h
      simp only []
      by_cases hpssh : usertype = psshExtendedType
      · rw [if_pos hpssh]
        refine linked_cons (fun a ha => by cases ha) (hfits.mpr fun hne => absurd hpssh hne) ?_
        rw [run_takeBytes_bind]
        split_ifs
        · exact logs_readPsshData _ _ _
        · exact linked_composes.nil
      · rw [if_neg hpssh]
        exact linked_skipPssh (fun a ha => by cases ha) (hfits.trans (imp_iff_right hpssh)) header _

omit haac in
theorem linked_parseDashPssh {box : Mp4Box} (htype : box.type = bmp4DashPssh) (header : Mp4Headers) (l : List UInt8) :
    Linked m (.visit .moov box l :: ((parseDashPssh m header box).run l).1) := by
  have hfits : BoxEvent.Fits m (.visit .moov box l) ↔ _ := visitFits_dashPssh_iff htype
  rw [parseDashPssh, run_get_bind]
  cases hfullbox : (m.parseFullbox.read l).1 with
  | none =>
    refine linked_cons (fun a ha => by cases ha) (hfits.mpr fun fullbox hsome => ?_) linked_composes.nil
    rw [hfullbox] at hsome
    cases hsome
  | some fullbox =>
    have hfits : BoxEvent.Fits m (.visit .moov box l) ↔
        (systemIdAt m (m.parseFullbox.read l).2 ≠ bmediaProtectionSystemIdentifierGuid → 28 ≤ box.size) :=
      hfits.trans ⟨fun h => h fullbox hfullbox, fun h _ _ => h⟩
    simp only []
    rw [run_takeBytes_bind]
    by_cases hid : overwrite m.stackSystemId 0 ((m.parseFullbox.read l).2.take 16) = bmediaProtectionSystemIdentifierGuid
    · rw [if_pos hid]
      exact linked_cons (fun a ha => by cases ha) (hfits.mpr fun hne => absurd hid hne) (logs_readPsshData _ _ _)
    · rw [if_neg hid]
      exact linked_skipPssh (fun a ha => by cases ha) (hfits.trans (imp_iff_right hid)) header _

theorem linked_moovBody : LinkedBody m .moov (moovBody m) := by
  intro header box l
  rw [moovBody]
  dsimp only
  split_ifs with hextended hdash htrack
  · rw [log_map]
    exact linked_parsePiffPssh hextended header l
  · rw [log_map]
    exact linked_parseDashPssh hdash header l
  · rw [log_map]
    exact linked_handled (htrack ▸ by decide) (fun h => by cases h) (fun h => by cases h) (fun _ => htrack)
      (fun h => by cases h) (logs_parsing box (logs_parseTrak haac header box) l)
  · refine linked_skipBox ?_ _ l
    simp only [handled, List.mem_cons, List.not_mem_nil, or_false]
    tauto

theorem logs_parseMoov (header : Mp4Headers) : Logs (Linked m) (parseMoov m header) := by
  refine logs_bind linked_composes (logs_get linked_composes _) fun moov => ?_
  cases moov with
  | none => exact logs_pure linked_composes _
  | some moov =>
    simp only []
    split_ifs
    · refine logs_parsing moov (logs_bind linked_composes (logs_boxLoop (linked_moovBody haac)) fun result => ?_)
      cases result <;> exact logs_pure linked_composes _
    · exact logs_pure linked_composes _

end Aac

/-! ### `bpiff_parse_moof` -/

theorem logs_access {a : Access} (ha : a.InBounds) : Logs (Linked m) (access a) := fun _ => linked_access ha linked_composes.nil

theorem logs_seEntries (count : Nat) : ∀ (sample : SeSample) (j : Nat), j + count ≤ bpiffMaxEntriesPerSample →
    Logs (Linked m) (seEntries (m := m) sample j count) := by
  induction count with
  | zero => exact fun sample _ _ => logs_pure linked_composes sample
  | succ count ih =>
    intro sample j hj
    have hslot : (Access.slot .entries j).InBounds := Nat.lt_of_lt_of_le (by omega) hj
    refine logs_bind linked_composes (logs_access hslot) fun _ => ?_
    refine logs_bind linked_composes (logs_get linked_composes _) fun bytesOfClearData => ?_
    exact logs_bind linked_composes (logs_get linked_composes _) fun bytesOfEncData => ih _ (j + 1) (by omega)

theorem logs_seSample (flags : Nat) {i : Nat} (hi : i < bpiffSamplesPoolSize) (sample : SeSample) :
    Logs (Linked m) (seSample (m := m) flags i sample) := by
  refine logs_bind linked_composes (logs_access hi) fun _ => logs_bind linked_composes (logs_takeBytes 8) fun iv => ?_
  dsimp only
  split_ifs
  · refine logs_bind linked_composes (logs_get linked_composes _) fun nbOfEntries => ?_
    split_ifs with hmany
    · exact logs_pure linked_composes _
    · exact logs_bind linked_composes (logs_seEntries nbOfEntries _ 0 (by omega)) fun _ => logs_pure linked_composes _
  · exact logs_pure linked_composes _

theorem logs_seSamples (count : Nat) : ∀ (i : Nat) (enc : SamplesEnc), i + count ≤ bpiffSamplesPoolSize →
    Logs (Linked m) (seSamples (m := m) i count enc) := by
  induction count with
  | zero => exact fun _ enc _ => logs_pure linked_composes _
  | succ count ih =>
    intro i enc hi
    refine logs_bind linked_composes (logs_seSample enc.flags (by omega) _) fun result => ?_
    obtain ⟨sample, goesOn⟩ := result
    cases goesOn with
    | true => exact ih (i + 1) _ (by omega)
    | false => exact logs_pure linked_composes _

theorem logs_parseSampleEncExtendedBox (frag : FragHeaders m) : Logs (Linked m) (parseSampleEncExtendedBox frag) := by
  refine logs_bind linked_composes (logs_get linked_composes _) fun fullbox => ?_
  cases fullbox with
  | none => exact logs_pure linked_composes _
  | some fullbox =>
    refine logs_bind linked_composes (logs_get linked_composes _) fun sampleCount => ?_
    dsimp only
    split_ifs with hzero hmany
    · exact logs_pure linked_composes _
    · exact logs_pure linked_composes _
    · have hslot : (Access.slot .samples 0).InBounds := Nat.zero_lt_succ 499
      refine logs_bind linked_composes (logs_access hslot) fun _ => ?_
      exact logs_bind linked_composes (logs_seSamples sampleCount 0 _ (by omega)) fun _ => logs_pure linked_composes _

theorem logs_runSamples (tfhd : m.TrackFragmentHeader) (trun : m.TrackFragmentRunHeader) (count : Nat) :
    ∀ (j : Nat) (frag : FragHeaders m), j + count ≤ bpiffMaxSamples → Logs (Linked m) (runSamples tfhd trun j count frag) := by
  induction count with
  | zero => exact fun _ frag _ => logs_pure linked_composes frag
  | succ count ih =>
    intro j frag hj
    have hslot : (Access.slot .sampleInfo j).InBounds := Nat.lt_of_lt_of_le (by omega) hj
    refine logs_bind linked_composes (logs_access hslot) fun _ => ?_
    exact logs_bind linked_composes (logs_get linked_composes _) fun result => ih (j + 1) _ (by omega)

theorem linked_trafBody (header : Mp4Headers) : LinkedBody m .traf (trafBody (m := m) header) := by
  intro s box l
  rw [trafBody]
  dsimp only
  split_ifs with htfhd htrun hextended
  · rw [trafHeader, run_get_bind]
    dsimp only
    rw [access, run_event_bind]
    refine linked_pair (fun a ha => by cases ha) ?_ ?_
    · change decide (_ < bpiffMaxNbOfTracks) = true ↔ VisitFits m .traf box l
      rw [decide_eq_true_iff, visitFits_fragment_iff htfhd]
    · split_ifs <;> exact linked_composes.nil
  · refine linked_handled (htrun ▸ by decide) (fun h => by cases h) (fun h => by cases h) (fun h => by cases h)
      (fun _ => htrun ▸ by decide) ?_
    refine logs_bind linked_composes (logs_get linked_composes _) (fun trun => ?_) l
    split_ifs with hmany
    · exact logs_pure linked_composes _
    · refine logs_bind linked_composes (logs_runSamples _ _ _ 0 _ (by omega)) fun frag => logs_pure linked_composes _
  · refine linked_handled (hextended ▸ by decide) (fun h => by cases h) (fun h => by cases h) (fun h => by cases h)
      (fun _ => hextended ▸ by decide) ?_
    refine logs_bind linked_composes (logs_get linked_composes _) (fun _ => ?_) l
    exact logs_bind linked_composes (logs_parseSampleEncExtendedBox s.frag) fun _ => logs_pure linked_composes _
  · refine linked_skipBox ?_ _ l
    simp only [handled, List.mem_cons, List.not_mem_nil, or_false]
    tauto

theorem logs_parseTraf (header : Mp4Headers) (frag : FragHeaders m) (traf : Mp4Box) :
    Logs (Linked m) (parseTraf header frag traf) := by
  refine logs_bind linked_composes (logs_boxLoop (linked_trafBody header)) fun result => ?_
  cases result <;> exact logs_pure linked_composes _

theorem linked_moofBody (header : Mp4Headers) : LinkedBody m .moof (moofBody (m := m) header) := by
  intro frag box l
  rw [moofBody]
  split_ifs with htraf
  · refine linked_handled (htraf ▸ by decide) (fun h => by cases h) (fun h => by cases h) (fun h => by cases h)
      (fun h => by cases h) ?_
    exact logs_bind linked_composes (logs_parseTraf header frag box) (fun _ => logs_pure linked_composes _) l
  · exact linked_skipBox (by rw [handled, List.mem_singleton]; exact htraf) _ l

theorem logs_parseMoof (header : Mp4Headers) (frag : FragHeaders m) : Logs (Linked m) (parseMoof header frag) := by
  refine logs_bind linked_composes (logs_get linked_composes _) fun moof => ?_
  cases moof with
  | none => exact logs_pure linked_composes _
  | some moof =>
    simp only []
    split_ifs
    · refine logs_bind linked_composes (logs_boxLoop (linked_moofBody header)) fun result => ?_
      cases result with
      | inl frag => exact logs_pure linked_composes _
      | inr e => exact e.elim
    · exact logs_pure linked_composes _

/-- The accesses of both parsers are in bounds exactly where all boxes that they come to fit. -/
theorem boxParsers_inBounds_iff (m : Mp4Util) (haac : ∀ l, (m.probeAacInfo l).length ≤ bpiffMaxPpsSps) :
    (∀ header atom, InBounds ((parseMoov m header).run atom).1 ↔ AllFit m ((parseMoov m header).run atom).1) ∧
      ∀ header (frag : FragHeaders m) atom,
        InBounds ((parseMoof header frag).run atom).1 ↔ AllFit m ((parseMoof header frag).run atom).1 :=
  ⟨fun header atom => logs_parseMoov haac header atom, fun header frag atom => logs_parseMoof header frag atom⟩

theorem length_probeAacInfo_plain (l : List UInt8) : (plainUtil.probeAacInfo l).length ≤ bpiffMaxPpsSps :=
  Nat.le_trans (List.length_take_le 2 l) (by decide)

/-- A movie header with an empty box that is skipped. -/
def freeMoov : List UInt8 := [0, 0, 0, 16, 109, 111, 111, 118, 0, 0, 0, 8, 102, 114, 101, 101]

theorem boxParsers_inBounds_iff_plain : AllFit plainUtil ((parseMoov plainUtil {}).run freeMoov).1 := by
  refine ((boxParsers_inBounds_iff plainUtil length_probeAacInfo_plain).1 {} freeMoov).mp ?_
  have hlog : ((parseMoov plainUtil {}).run freeMoov).1 = [.visit .moov ⟨8, 8, bmp4Type 'f' 'r' 'e' 'e'⟩ [],
      .access (.length 0), .left ⟨8, 16, bmp4Movie⟩ [0, 0, 0, 8, 102, 114, 101, 101] []] := by decide +kernel
  rw [hlog]
  intro a ha
  simp only [List.mem_cons, reduceCtorEq, BoxEvent.access.injEq, List.not_mem_nil, or_false, false_or] at ha
  subst ha
  exact Int.le_refl 0

/-- A movie header whose box has a coded size of 4. -/
def shortBoxMoov : List UInt8 :=
  [0, 0, 0, 20, 109, 111, 111, 118, 0, 0, 0, 4, 102, 114, 101, 101, 0, 0, 0, 0]

/-- A fragment of a track whose id is 9. -/
def strangeTrackMoof : List UInt8 :=
  [0, 0, 0, 32, 109, 111, 111, 102, 0, 0, 0, 24, 116, 114, 97, 102, 0, 0, 0, 16, 116, 102, 104, 100, 0, 0, 0, 0, 0, 0, 0, 9]

/-- A negative length is computed for the first one, and `trackType` is used without a value for the second one. -/
theorem boxParsers_out_of_bounds : ¬ InBounds ((parseMoov plainUtil {} ).run shortBoxMoov).1 ∧
    ¬ InBounds ((parseMoof (m := plainUtil) {} { state := (), sampleInfo := fun _ => () }).run strangeTrackMoof).1 := by
  constructor <;> intro h
  · have hlength : BoxEvent.access (.length (-4)) ∈ ((parseMoov plainUtil {}).run shortBoxMoov).1 := by decide +kernel
    exact absurd (show (0 : Int) ≤ -4 from h _ hlength) (by decide)
  · have hunset : BoxEvent.access (.trackType false) ∈
        ((parseMoof (m := plainUtil) {} { state := (), sampleInfo := fun _ => () }).run strangeTrackMoof).1 := by decide +kernel
    exact absurd (h _ hunset) Bool.false_ne_true

end BcmPlatform.Piff
