import BcmPlatform.Bomx.CodecConfigReads
import BcmPlatform.Theorems.EncoderFraming

/-! `GetCodecConfig` and its pointers: exactly when it reads inside of the segments, and what it acknowledges and queues. -/

namespace BcmPlatform.Bomx
open EncoderOutput

/-! ### Pointers and segments -/

/-- `p` points to the descriptors `l`. -/
def DescMemory.Points (m : DescMemory) : DescPtr → List EncoderDescriptor → Prop
  | .null, l => l = []
  | .seg0 i, l => m.seg0.drop i = l ∧ i ≤ m.seg0.length
  | .seg1 i, l => m.seg1.drop i = l ∧ i ≤ m.seg1.length

/-- The cursor is at the front of the segments `w`. -/
structure DescCursor.At (m : DescMemory) (c : DescCursor) (w : Segments) : Prop where
  size0 : c.size0 = w.1.length
  size1 : c.size1 = w.2.length
  pDesc0 : m.Points c.pDesc0 w.1
  pDesc1 : m.Points c.pDesc1 w.2

section Cursor
variable {m : DescMemory} {p : DescPtr} {d : EncoderDescriptor} {l : List EncoderDescriptor} {c : DescCursor} {w : Segments}

theorem DescMemory.Points.read (h : m.Points p (d :: l)) : m.read p = some d ∧ m.Inside p ∧ m.Points p.next l := by
  cases p with
  | null => cases h
  | seg0 i =>
    obtain ⟨hdrop, -⟩ := h
    have hi : m.seg0[i]? = some d := by
      have hhead := congrArg (·[0]?) hdrop
      simpa using hhead
    obtain ⟨hlt, -⟩ := List.getElem?_eq_some_iff.mp hi
    refine ⟨by rw [DescMemory.read, hi]; rfl, hlt, ?_, hlt⟩
    rw [← List.drop_drop, hdrop]
    rfl
  | seg1 i =>
    obtain ⟨hdrop, -⟩ := h
    have hi : m.seg1[i]? = some d := by
      have hhead := congrArg (·[0]?) hdrop
      simpa using hhead
    obtain ⟨hlt, -⟩ := List.getElem?_eq_some_iff.mp hi
    refine ⟨by rw [DescMemory.read, hi]; rfl, hlt, ?_, hlt⟩
    rw [← List.drop_drop, hdrop]
    rfl

theorem DescMemory.Points.not_inside (h : m.Points p []) : ¬ m.Inside p := by
  cases p with
  | null => exact id
  | seg0 i => exact Nat.not_lt.mpr (List.drop_eq_nil_iff.mp h.1)
  | seg1 i => exact Nat.not_lt.mpr (List.drop_eq_nil_iff.mp h.1)

theorem DescCursor.At.advanceDesc (h : c.At m w) (hne : w.1 ≠ []) : c.advanceDesc.At m w.advanceDesc := by
  obtain ⟨seg0, seg1⟩ := w
  obtain ⟨hsize0, hsize1, hp0, hp1⟩ := h
  cases seg0 with
  | nil => exact absurd rfl hne
  | cons d rest =>
    cases rest with
    | nil =>
      rw [DescCursor.advanceDesc, if_neg (by rw [hsize0]; exact Nat.lt_irrefl 1)]
      exact ⟨hsize1, rfl, hp1, rfl⟩
    | cons d' rest =>
      have hmore : c.size0 > 1 := by
        rw [hsize0]
        exact Nat.succ_lt_succ (Nat.succ_pos _)
      rw [DescCursor.advanceDesc, if_pos hmore]
      exact ⟨by rw [hsize0]; rfl, hsize1, hp0.read.2.2, hp1⟩

end Cursor

/-! ### The loop -/

theorem DescMemory.findFrameStart_eq {m : DescMemory} : ∀ (l : List EncoderDescriptor) (count : Nat) {p : DescPtr}, m.Points p l →
    (m.findFrameStart l.length count p).1 = count + (l.takeWhile fun d => !d.frameStart).length ∧
    m.Points (m.findFrameStart l.length count p).2.1 (l.dropWhile fun d => !d.frameStart) ∧
    ∀ q ∈ (m.findFrameStart l.length count p).2.2, m.Inside q
  | [], count, p, h => ⟨rfl, h, fun q hq => absurd hq List.not_mem_nil⟩
  | d :: l, count, p, h => by
    obtain ⟨hread, hinside, hnext⟩ := h.read
    rw [List.length_cons, findFrameStart, hread]
    cases hstart : d.frameStart with
    | true => simpa [hstart, hinside] using h
    | false =>
      obtain ⟨hcount, hpoints, hreads⟩ := findFrameStart_eq l (count + 1) hnext
      simp only [hstart, Option.any_some, Bool.false_eq_true, if_false, List.takeWhile_cons, List.dropWhile_cons, Bool.not_false,
        if_true, List.length_cons, List.forall_mem_cons]
      exact ⟨by omega, hpoints, hinside, hreads⟩

/-! ### The configuration -/

/-- The descriptors that are read are there: a unit behind the `FRAME_START`, and if the encoder gave a pointer for an empty
    second segment, another one behind an SPS. -/
def UnitsInWindow (hasDesc1 : Bool) (codec : VideoCodec) (w : Segments) : Prop :=
  codec = .vp8 ∨ (w.advanceDesc.1 ≠ [] ∧
    (hasDesc1 = true → w.2 = [] → ∀ sps, w.1.tail = [sps] → sps.nalUnitType ≠ nalUnitTypeSps))

section Queue
variable {m : DescMemory} {c : DescCursor} {w : Segments} {s : EncoderOutput}

theorem DescCursor.At.pDescPps (h : c.At m w) (hne : w.1 ≠ []) (hdesc1 : c.pDesc1 = m.desc1) {sps : EncoderDescriptor}
    {rest : List EncoderDescriptor} (hsps : w.advanceDesc.1 = sps :: rest) (hpps : w.advanceDesc.advanceDesc.1 = []) :
    c.advanceDesc.advanceDesc.pDesc0 = .null ∨
      c.advanceDesc.advanceDesc.pDesc0 = m.desc1 ∧ w.1.tail = [sps] ∧ w.2 = [] := by
  obtain ⟨seg0, seg1⟩ := w
  obtain ⟨hsize0, hsize1, -, -⟩ := h
  match seg0, hne with
  | [fs], _ =>
    left
    have hseg1 : seg1 = sps :: rest := hsps
    subst hseg1
    have hrest : rest = [] := by
      cases rest with
      | nil => rfl
      | cons d rest => cases hpps
    subst hrest
    simp [DescCursor.advanceDesc, hsize0, hsize1]
  | fs :: d :: seg0, _ =>
    right
    obtain ⟨rfl, rfl⟩ : d = sps ∧ seg0 = rest := List.cons.inj hsps
    cases seg0 with
    | cons d' seg0 => cases hpps
    | nil =>
      refine ⟨?_, rfl, hpps⟩
      simp [DescCursor.advanceDesc, hsize0, hdesc1]

theorem DescMemory.queueCodecConfig_inside (h : c.At m w) (hne : w.1 ≠ []) (hdesc1 : c.pDesc1 = m.desc1)
    (hunits : UnitsInWindow m.hasDesc1 s.codec w) :
    (∀ q ∈ (m.queueCodecConfig c s).reads, m.Inside q) ∧
      ((m.queueCodecConfig c s).state, (m.queueCodecConfig c s).returned) =
        ((s.queueCodecConfig w).1, some (s.queueCodecConfig w).2) := by
  rw [DescMemory.queueCodecConfig, EncoderOutput.queueCodecConfig]
  by_cases hcodec : s.codec = .vp8
  · rw [if_pos hcodec, if_pos hcodec]
    exact ⟨fun q hq => absurd hq List.not_mem_nil, rfl⟩
  rw [if_neg hcodec, if_neg hcodec]
  obtain ⟨hsps, hlast⟩ := hunits.resolve_left hcodec
  have hat := h.advanceDesc hne
  obtain ⟨sps, rest, hw⟩ := List.exists_cons_of_ne_nil hsps
  have hpoints := hat.pDesc0
  rw [hw] at hpoints
  obtain ⟨hread, hinside, -⟩ := hpoints.read
  simp only [hw, hread]
  by_cases htype : sps.nalUnitType ≠ nalUnitTypeSps
  · rw [if_pos htype, if_pos htype]
    exact ⟨by simpa using hinside, rfl⟩
  rw [if_neg htype, if_neg htype]
  have hat' := hat.advanceDesc hsps
  cases hw' : w.advanceDesc.advanceDesc.1 with
  | nil =>
    have hnull : c.advanceDesc.advanceDesc.pDesc0 = .null := by
      rcases h.pDescPps hne hdesc1 hw hw' with hnull | ⟨hempty, htail, hseg1⟩
      · exact hnull
      · rw [hempty, desc1, if_neg fun hdesc => htype (hlast hdesc hseg1 sps htail)]
    simp only [hnull, DescMemory.read]
    exact ⟨by simpa using hinside, trivial⟩
  | cons pps rest' =>
    have hpoints' := hat'.pDesc0
    rw [hw'] at hpoints'
    obtain ⟨hread', hinside', -⟩ := hpoints'.read
    simp only [hread']
    split
    · exact ⟨by simp [hinside, hinside'], rfl⟩
    · exact ⟨by simp [hinside, hinside'], rfl⟩

theorem DescMemory.queueCodecConfig_pDescSps (hcodec : s.codec ≠ .vp8) :
    c.advanceDesc.pDesc0 ∈ (m.queueCodecConfig c s).reads := by
  rw [DescMemory.queueCodecConfig, if_neg hcodec]
  dsimp only
  split
  · exact List.mem_cons_self
  · split
    · exact List.mem_cons_self
    · split
      · exact List.mem_cons_self
      · split <;> exact List.mem_cons_self

theorem DescMemory.queueCodecConfig_pDescPps (hcodec : s.codec ≠ .vp8) {sps : EncoderDescriptor} {i : Nat}
    (hsps : m.read c.advanceDesc.pDesc0 = some sps) (htype : sps.nalUnitType = nalUnitTypeSps)
    (hpps : c.advanceDesc.advanceDesc.pDesc0 = .seg1 i) : .seg1 i ∈ (m.queueCodecConfig c s).reads := by
  have hread : m.read (.seg1 i) = some (m.seg1[i]?.getD (m.behind (.seg1 i))) := rfl
  rw [DescMemory.queueCodecConfig, if_neg hcodec]
  simp only [hsps, htype, hpps, hread, ne_eq, not_true_eq_false, if_false]
  split <;> exact List.mem_cons_of_mem _ List.mem_cons_self

theorem DescMemory.units_of_inside (h : c.At m w) (hne : w.1 ≠ []) (hdesc1 : c.pDesc1 = m.desc1)
    (hreads : ∀ q ∈ (m.queueCodecConfig c s).reads, m.Inside q) : UnitsInWindow m.hasDesc1 s.codec w := by
  by_cases hcodec : s.codec = .vp8
  · exact .inl hcodec
  have hat := h.advanceDesc hne
  have hsps : w.advanceDesc.1 ≠ [] := by
    intro hnil
    have hpoints := hat.pDesc0
    rw [hnil] at hpoints
    exact hpoints.not_inside (hreads _ (queueCodecConfig_pDescSps hcodec))
  refine .inr ⟨hsps, fun hdesc hseg1 sps htail htype => ?_⟩
  obtain ⟨seg0, seg1⟩ := w
  match seg0, hne with
  | fs :: seg0, _ =>
    obtain rfl : seg0 = [sps] := htail
    obtain rfl : seg1 = [] := hseg1
    have hpps : c.advanceDesc.advanceDesc.pDesc0 = .seg1 0 := by
      simp [DescCursor.advanceDesc, h.size0, hdesc1, desc1, hdesc]
    have hpoints' := (hat.advanceDesc hsps).pDesc0
    rw [hpps] at hpoints'
    exact hpoints'.not_inside (hreads _ (queueCodecConfig_pDescPps hcodec hat.pDesc0.read.1 htype hpps))

end Queue

/-! ### The call -/

/-- How many descriptors of the first segment come before its first `FRAME_START`. -/
def DescMemory.beforeStart (m : DescMemory) : Nat := (m.seg0.takeWhile fun d => !d.frameStart).length

/-- `GetCodecConfig` reads descriptors of the segments only. It acknowledges those in front of the first `FRAME_START`, and
    that one where the next unit is not an SPS. A frame that it queues is the SPS and the PPS behind the `FRAME_START`, which
    is still the first one to read. -/
structure CodecConfigSafe (m : DescMemory) (s : EncoderOutput) : Prop where
  reads : ∀ q ∈ (m.getCodecConfig s).reads, m.Inside q
  acknowledged : ∃ k, (m.getCodecConfig s).state.descs = s.descs.drop k ∧
    (k ≤ m.beforeStart ∨ k = m.beforeStart + 1 ∧
      ∃ fs d rest, (m.seg0 ++ m.seg1).drop m.beforeStart = fs :: d :: rest ∧ d.nalUnitType ≠ nalUnitTypeSps)
  queued : (m.getCodecConfig s).returned = some true → s.codec ≠ .vp8 →
    ∃ fs sps pps rest, (m.seg0 ++ m.seg1).drop m.beforeStart = fs :: sps :: pps :: rest ∧
      fs.frameStart = true ∧ sps.nalUnitType = nalUnitTypeSps ∧ pps.nalUnitType = nalUnitTypePps ∧
      (m.getCodecConfig s).state.encodedFrList = s.encodedFrList ++ [configFrame sps pps] ∧
      (m.getCodecConfig s).state.descs.head? = some fs

section Call
variable {m : DescMemory} {s : EncoderOutput}

theorem DescMemory.getCodecConfig_unstarted (hstart : ∀ d ∈ m.seg0, d.frameStart = false) :
    (m.getCodecConfig s).state = s.videoReadComplete m.beforeStart ∧ (m.getCodecConfig s).returned = some false ∧
      ∀ q ∈ (m.getCodecConfig s).reads, m.Inside q := by
  have hbefore : m.beforeStart = m.seg0.length := by
    rw [beforeStart, List.takeWhile_eq_self_iff.mpr fun d hd => by rw [hstart d hd]; rfl]
  obtain ⟨hcount, -, hreads⟩ := findFrameStart_eq (p := .seg0 0) m.seg0 0 ⟨rfl, Nat.zero_le _⟩
  rw [Nat.zero_add, ← beforeStart] at hcount
  rw [getCodecConfig, if_pos (hcount.trans hbefore), hcount]
  exact ⟨rfl, rfl, hreads⟩

theorem DescMemory.beforeStart_spec {fs : EncoderDescriptor} {seg0 : List EncoderDescriptor}
    (hstart : (m.seg0.dropWhile fun d => !d.frameStart) = fs :: seg0) :
    fs.frameStart = true ∧ fs ∈ m.seg0 ∧ m.seg0.length = m.beforeStart + (seg0.length + 1) ∧
      (m.seg0 ++ m.seg1).drop m.beforeStart = fs :: (seg0 ++ m.seg1) := by
  have hsplit := List.takeWhile_append_dropWhile (p := fun d : EncoderDescriptor => !d.frameStart) (l := m.seg0)
  rw [hstart] at hsplit
  have hhead := List.head?_dropWhile_not (fun d : EncoderDescriptor => !d.frameStart) m.seg0
  rw [hstart] at hhead
  refine ⟨by simpa using hhead, by rw [← hsplit]; simp, ?_, ?_⟩
  · have hlen := congrArg List.length hsplit
    rw [List.length_append] at hlen
    exact hlen.symm
  · have hall : m.seg0 ++ m.seg1 = m.seg0.takeWhile (fun d => !d.frameStart) ++ fs :: (seg0 ++ m.seg1) := by
      rw [← List.cons_append, ← List.append_assoc, hsplit]
    rw [hall]
    exact List.drop_left

theorem DescMemory.getCodecConfig_started {fs : EncoderDescriptor} {seg0 : List EncoderDescriptor}
    (hstart : (m.seg0.dropWhile fun d => !d.frameStart) = fs :: seg0) :
    ∃ c : DescCursor, c.At m (fs :: seg0, m.seg1) ∧ c.pDesc1 = m.desc1 ∧
      (m.getCodecConfig s).state = (m.queueCodecConfig c (s.videoReadComplete m.beforeStart)).state ∧
      (m.getCodecConfig s).returned = (m.queueCodecConfig c (s.videoReadComplete m.beforeStart)).returned ∧
      ((∀ q ∈ (m.getCodecConfig s).reads, m.Inside q) ↔
        ∀ q ∈ (m.queueCodecConfig c (s.videoReadComplete m.beforeStart)).reads, m.Inside q) := by
  obtain ⟨hcount, hpoints, hreads⟩ := findFrameStart_eq (p := .seg0 0) m.seg0 0 ⟨rfl, Nat.zero_le _⟩
  rw [Nat.zero_add, ← beforeStart] at hcount
  rw [hstart] at hpoints
  obtain ⟨-, -, hlen, -⟩ := beforeStart_spec hstart
  have hread : (if m.beforeStart ≠ 0 then s.videoReadComplete m.beforeStart else s) = s.videoReadComplete m.beforeStart := by
    split
    · rfl
    · next hzero =>
      rw [not_not.mp hzero]
      rfl
  have hdesc1 : m.Points m.desc1 m.seg1 := by
    cases hdesc : m.hasDesc1 with
    | true =>
      rw [desc1, hdesc]
      exact ⟨rfl, Nat.zero_le _⟩
    | false =>
      rw [desc1, hdesc]
      by_contra hne
      rw [m.hasDesc1_of_seg1 hne] at hdesc
      cases hdesc
  refine ⟨{ pDesc0 := (m.findFrameStart m.seg0.length 0 (.seg0 0)).2.1, size0 := m.seg0.length - m.beforeStart
            pDesc1 := m.desc1, size1 := m.seg1.length }, ⟨?_, rfl, hpoints, hdesc1⟩, rfl, ?_⟩
  · rw [hlen, Nat.add_sub_cancel_left]
    rfl
  · rw [getCodecConfig, hcount, if_neg (by omega), hread]
    refine ⟨rfl, rfl, ?_⟩
    rw [List.forall_mem_append]
    exact and_iff_right hreads

theorem queueCodecConfig_spec {fs : EncoderDescriptor} {seg0 seg1 : List EncoderDescriptor}
    (hunits : s.codec = .vp8 ∨ (Segments.advanceDesc (fs :: seg0, seg1)).1 ≠ []) :
    ((s.queueCodecConfig (fs :: seg0, seg1)).1.descs = s.descs ∨
      (s.queueCodecConfig (fs :: seg0, seg1)).1.descs = s.descs.drop 1 ∧
        ∃ d rest, seg0 ++ seg1 = d :: rest ∧ d.nalUnitType ≠ nalUnitTypeSps) ∧
    ((s.queueCodecConfig (fs :: seg0, seg1)).2 = true → s.codec ≠ .vp8 →
      ∃ sps pps rest, seg0 ++ seg1 = sps :: pps :: rest ∧ sps.nalUnitType = nalUnitTypeSps ∧
        pps.nalUnitType = nalUnitTypePps ∧
        (s.queueCodecConfig (fs :: seg0, seg1)).1 = { s with
          emptyFrListLen := s.emptyFrListLen - 1, encodedFrList := s.encodedFrList ++ [configFrame sps pps] }) := by
  have hall := (Segments.advanceDesc_all fs seg0 seg1).1
  by_cases hcodec : s.codec = .vp8
  · rw [EncoderOutput.queueCodecConfig, if_pos hcodec]
    exact ⟨.inl rfl, fun _ hne => absurd hcodec hne⟩
  rw [EncoderOutput.queueCodecConfig, if_neg hcodec]
  obtain ⟨sps, rest, hsps⟩ := List.exists_cons_of_ne_nil (hunits.resolve_left hcodec)
  generalize hw : Segments.advanceDesc (fs :: seg0, seg1) = w at hsps hall
  obtain ⟨_, w1⟩ := w
  obtain rfl : _ = sps :: rest := hsps
  have hall' := (Segments.advanceDesc_all sps rest w1).1
  dsimp only
  by_cases htype : sps.nalUnitType ≠ nalUnitTypeSps
  · rw [if_pos htype]
    exact ⟨.inr ⟨rfl, sps, rest ++ w1, hall.symm, htype⟩, fun hfalse => absurd hfalse Bool.false_ne_true⟩
  rw [if_neg htype]
  cases hpps : (Segments.advanceDesc (sps :: rest, w1)).1 with
  | nil => exact ⟨.inl rfl, fun hfalse => absurd hfalse Bool.false_ne_true⟩
  | cons pps rest' =>
    dsimp only
    by_cases htype' : pps.nalUnitType ≠ nalUnitTypePps
    · rw [if_pos htype']
      exact ⟨.inl rfl, fun hfalse => absurd hfalse Bool.false_ne_true⟩
    · rw [if_neg htype']
      refine ⟨.inl rfl, fun _ _ => ⟨sps, pps, rest' ++ (Segments.advanceDesc (sps :: rest, w1)).2, ?_, not_not.mp htype,
        not_not.mp htype', rfl⟩⟩
      rw [← hall, Segments.all, List.cons_append, ← hall', Segments.all, hpps, List.cons_append]

/-- A call is safe exactly when its first segment has no `FRAME_START`, or the units that it reads behind it are there. -/
theorem codecConfigSafe_iff (hdescs : m.seg0 ++ m.seg1 <+: s.descs) :
    CodecConfigSafe m s ↔ (∀ d ∈ m.seg0, d.frameStart = false) ∨
      UnitsInWindow m.hasDesc1 s.codec (m.seg0.dropWhile fun d => !d.frameStart, m.seg1) := by
  cases hstart : m.seg0.dropWhile fun d => !d.frameStart with
  | nil =>
    have hunstarted : ∀ d ∈ m.seg0, d.frameStart = false := by
      simpa using List.dropWhile_eq_nil_iff.mp hstart
    obtain ⟨hstate, hreturned, hreads⟩ := DescMemory.getCodecConfig_unstarted (s := s) hunstarted
    refine iff_of_true ⟨hreads, ⟨m.beforeStart, by rw [hstate]; rfl, .inl (Nat.le_refl _)⟩, fun htrue => ?_⟩ (.inl hunstarted)
    rw [hreturned] at htrue
    cases htrue
  | cons fs seg0 =>
    obtain ⟨hfs, hmem, hlen, hdrop⟩ := DescMemory.beforeStart_spec hstart
    have hnone : ¬ ∀ d ∈ m.seg0, d.frameStart = false := by
      intro hnone
      rw [hnone fs hmem] at hfs
      cases hfs
    obtain ⟨c, hat, hdesc1, hstate, hreturned, hreads⟩ := DescMemory.getCodecConfig_started (s := s) hstart
    rw [or_iff_right hnone]
    constructor
    · intro hsafe
      exact DescMemory.units_of_inside (s := s.videoReadComplete m.beforeStart) hat (List.cons_ne_nil _ _) hdesc1
        (hreads.mp hsafe.reads)
    · intro hunits
      obtain ⟨hinside, hrun⟩ := DescMemory.queueCodecConfig_inside (s := s.videoReadComplete m.beforeStart) hat
        (List.cons_ne_nil _ _) hdesc1 hunits
      obtain ⟨hrunState, hrunReturned⟩ := Prod.ext_iff.mp hrun
      dsimp only at hrunState hrunReturned
      obtain ⟨hacknowledged, hqueued⟩ := queueCodecConfig_spec (s := s.videoReadComplete m.beforeStart)
        (hunits.imp_right And.left)
      rw [← hrunState, ← hstate] at hacknowledged hqueued
      refine ⟨hreads.mpr hinside, ?_, ?_⟩
      · rcases hacknowledged with hdescs | ⟨hdescs, d, rest, hnext, htype⟩
        · exact ⟨m.beforeStart, hdescs, .inl (Nat.le_refl _)⟩
        · refine ⟨m.beforeStart + 1, ?_, .inr ⟨rfl, fs, d, rest, by rw [hdrop, hnext], htype⟩⟩
          rw [hdescs]
          exact List.drop_drop
      · intro htrue hcodec
        rw [hreturned, hrunReturned] at htrue
        obtain ⟨sps, pps, rest, hnext, hsps, hpps, hafter⟩ := hqueued (Option.some.inj htrue) hcodec
        refine ⟨fs, sps, pps, rest, by rw [hdrop, hnext], hfs, hsps, hpps, by rw [hafter]; rfl, ?_⟩
        obtain ⟨behind, hbehind⟩ := hdescs
        rw [hafter]
        change (s.descs.drop m.beforeStart).head? = some fs
        rw [← hbehind, List.drop_append_of_le_length ?_, hdrop]
        · rfl
        · rw [List.length_append]
          omega

end Call

private def startUnit : EncoderDescriptor := { frameStart := true }

private def spsUnit : EncoderDescriptor := { dataUnitType := nalUnitTypeSps }

private def ppsUnit : EncoderDescriptor := { dataUnitType := nalUnitTypePps }

/-- The PPS is in the second segment. -/
private def wrapped : DescMemory where
  seg0 := [{}, startUnit, spsUnit]
  seg1 := [ppsUnit]
  hasDesc1 := true
  hasDesc1_of_seg1 _ := rfl
  behind _ := {}

/-- Nothing is there behind the `FRAME_START`. -/
private def exhausted : DescMemory where
  seg0 := [startUnit]
  seg1 := []
  hasDesc1 := false
  hasDesc1_of_seg1 h := absurd rfl h
  behind _ := {}

private def beforeConfig (descs : List EncoderDescriptor) : EncoderOutput :=
  { afterConfig 64 64 descs with codecConfigDone := false }

theorem codecConfigSafe_iff_wrapped : CodecConfigSafe wrapped (beforeConfig (wrapped.seg0 ++ wrapped.seg1)) :=
  (codecConfigSafe_iff (List.prefix_refl _)).mpr (.inr (.inr ⟨by decide, fun _ h => by cases h⟩))

/-- The pointer behind the `FRAME_START` is null, and `dataUnitType` is read through it. -/
theorem getCodecConfig_null : (exhausted.getCodecConfig (beforeConfig exhausted.seg0)).returned = none ∧
    ¬ CodecConfigSafe exhausted (beforeConfig exhausted.seg0) :=
  ⟨by decide, fun h => h.reads .null (by decide)⟩

end BcmPlatform.Bomx
