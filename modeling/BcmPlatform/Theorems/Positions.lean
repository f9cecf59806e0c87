import BcmPlatform.Audio.Positions
import BcmPlatform.Lib.Quotients
import BcmPlatform.Lib.Runs

/-! The position that an output reports is that of what it played, but for the frames that are lost between the readings of
    its counter, and those that are counted again while it is stopped. -/

namespace BcmPlatform.Audio
open Bomx Lib

/-! ### One counter for all outputs -/

namespace PositionOutput

/-- What a frame is in the counter of an output: so many bytes, or one. -/
def unit (frameSize : Nat) : PositionOutput → Nat
  | .nexus => frameSize
  | .direct playpumpMode => if playpumpMode then 1 else frameSize
  | .tunnel pcmFormat _ => if pcmFormat then frameSize else 1

/-- The position for a number of frames. -/
def position : PositionOutput → Nat → Nat
  | .nexus, n => n
  | .direct playpumpMode, n =>
    if playpumpMode then if n = 0 then 0 else n * nexusPcmFramesPerEac3Frame + nexusPcmFramesPerEac3Frame / 2 else n
  | .tunnel pcmFormat format, n => if pcmFormat then n else n * BoutCounters.samplesPerFrame format

theorem samplesPerFrame_pos (format : CompressedFormat) : 0 < BoutCounters.samplesPerFrame format := by
  cases format <;> decide

theorem position_lt (o : PositionOutput) {n n' : Nat} (h : n < n') : o.position n < o.position n' := by
  cases o with
  | nexus => exact h
  | direct playpumpMode =>
    cases playpumpMode with
    | false => exact h
    | true =>
      simp only [position, if_true, if_neg (Nat.ne_of_gt (Nat.lt_of_le_of_lt (Nat.zero_le n) h)), nexusPcmFramesPerEac3Frame]
      split_ifs <;> omega
  | tunnel pcmFormat format =>
    cases pcmFormat with
    | true => exact h
    | false => exact Nat.mul_lt_mul_of_pos_right h (samplesPerFrame_pos format)

theorem position_inj (o : PositionOutput) {n n' : Nat} : o.position n = o.position n' ↔ n = n' := by
  constructor
  · intro h
    rcases Nat.lt_trichotomy n n' with hlt | heq | hgt
    · exact absurd h (Nat.ne_of_lt (o.position_lt hlt))
    · exact heq
    · exact absurd h.symm (Nat.ne_of_lt (o.position_lt hgt))
  · rintro rfl
    rfl

variable {frameSize : Nat}

theorem unit_pos (o : PositionOutput) (h : 0 < frameSize) : 0 < o.unit frameSize := by
  unfold unit
  split
  · exact h
  · split_ifs
    · exact Nat.one_pos
    · exact h
  · split_ifs
    · exact h
    · exact Nat.one_pos

theorem unit_le (o : PositionOutput) (h : frameSize < u32) : o.unit frameSize ≤ u32 := by
  have hone : 1 ≤ u32 := by decide
  unfold unit
  split
  · exact Nat.le_of_lt h
  · split_ifs
    · exact hone
    · exact Nat.le_of_lt h
  · split_ifs
    · exact Nat.le_of_lt h
    · exact hone

end PositionOutput

namespace BoutCounters
variable {o : PositionOutput} {frameSize status : Nat} {b : BoutCounters}

/-- The frames of a session, with those since the last reading. -/
def frames (o : PositionOutput) (frameSize status : Nat) (b : BoutCounters) : Nat :=
  b.framesPlayed + sub32 status b.lastCount / o.unit frameSize

/-- An output whose queries do not move the baseline has none. -/
def Fresh (o : PositionOutput) (b : BoutCounters) : Prop := o.folds = false → b.framesPlayed = 0 ∧ b.lastCount = 0

theorem foldFrames_eq (status : Nat) (b : BoutCounters) : b.foldFrames status = b.foldBytes 1 status := by
  rw [foldFrames, foldBytes, Nat.div_one]

theorem getPresentationPosition_fst (hfresh : b.Fresh o) (hpos : 0 < frameSize) :
    (o.getPresentationPosition frameSize status b).1 = o.position (b.framesPlayedTotal + b.frames o frameSize status) := by
  cases o with
  | nexus => rfl
  | direct playpumpMode =>
    cases playpumpMode with
    | false => rfl
    | true =>
      simp only [PositionOutput.getPresentationPosition, nexusDirectBoutGetPresentationPosition, directFold, if_true,
        foldFrames_eq, foldBytes, PositionOutput.position, frames, PositionOutput.unit, nexusPcmFramesPerEac3Frame]
      split_ifs <;> omega
  | tunnel pcmFormat format =>
    simp only [PositionOutput.getPresentationPosition, nexusTunnelBoutGetPresentationPosition, if_neg (Nat.ne_of_gt hpos)]
    cases pcmFormat with
    | true =>
      obtain ⟨hplayed, hlast⟩ := hfresh rfl
      simp only [if_true, PositionOutput.position, frames, PositionOutput.unit, hplayed, hlast, Nat.zero_add]
      rw [sub32_of_le (Nat.zero_le _), Nat.sub_zero]
    | false =>
      simp only [foldFrames_eq, foldBytes, PositionOutput.position, frames, PositionOutput.unit, Bool.false_eq_true, if_false]

theorem getPresentationPosition_snd (hpos : 0 < frameSize) : (o.getPresentationPosition frameSize status b).2 =
    if o.folds then b.foldBytes (o.unit frameSize) status else b := by
  cases o with
  | nexus => rfl
  | direct playpumpMode =>
    cases playpumpMode with
    | false => rfl
    | true => exact foldFrames_eq status b
  | tunnel pcmFormat format =>
    simp only [PositionOutput.getPresentationPosition, nexusTunnelBoutGetPresentationPosition, if_neg (Nat.ne_of_gt hpos)]
    cases pcmFormat with
    | true => rfl
    | false => exact foldFrames_eq status b

theorem getRenderPosition_snd (hpos : 0 < frameSize) : (o.getRenderPosition frameSize status b).2 =
    if o.folds then b.foldBytes (o.unit frameSize) status else b := by
  have hsame : (o.getRenderPosition frameSize status b).2 = (o.getPresentationPosition frameSize status b).2 := by
    cases o with
    | nexus => rfl
    | direct playpumpMode => cases playpumpMode <;> rfl
    | tunnel pcmFormat format =>
      simp only [PositionOutput.getRenderPosition, nexusTunnelBoutGetRenderPosition, PositionOutput.getPresentationPosition,
        nexusTunnelBoutGetPresentationPosition, if_neg (Nat.ne_of_gt hpos)]
      cases pcmFormat <;> rfl
  rw [hsame, getPresentationPosition_snd hpos]

theorem stop_eq (hfresh : b.Fresh o) (hpos : 0 < frameSize) : o.stop frameSize status b =
    { framesPlayed := 0, framesPlayedTotal := b.framesPlayedTotal + b.frames o frameSize status, lastCount := 0 } := by
  cases o with
  | nexus => rfl
  | direct playpumpMode =>
    cases playpumpMode with
    | false => rfl
    | true =>
      simp only [PositionOutput.stop, nexusDirectBoutStop, directFold, if_true, foldFrames_eq]
      rfl
  | tunnel pcmFormat format =>
    simp only [PositionOutput.stop, nexusTunnelBoutStop, if_pos hpos]
    cases pcmFormat with
    | true =>
      obtain ⟨hplayed, hlast⟩ := hfresh rfl
      simp only [if_true, frames, PositionOutput.unit, hplayed, hlast, Nat.zero_add]
      rw [sub32_of_le (Nat.zero_le _), Nat.sub_zero]
    | false =>
      simp only [foldFrames_eq]
      rfl

end BoutCounters

/-! ### Runs -/

namespace PositionRun
variable {o : PositionOutput} {frameSize : Nat} {s s' : PositionRun} {a : PositionAction}

/-- The parts of all sessions, with those of the current one. -/
def allParts (s : PositionRun) : List (List Nat) :=
  s.sessions ++ if s.started then [s.parts ++ [s.rest]] else []

/-- The frames in the finished sessions and in the current one. -/
def playedFrames (o : PositionOutput) (frameSize : Nat) (s : PositionRun) : Nat :=
  ((s.finished ++ if s.started then [s.count] else []).map (· / o.unit frameSize)).sum

/-- The position of what was played. -/
def expectedPosition (o : PositionOutput) (frameSize : Nat) (s : PositionRun) : Nat :=
  o.position (s.playedFrames o frameSize)

/-- The frames that are lost between the readings. -/
def lostFrames (o : PositionOutput) (frameSize : Nat) (s : PositionRun) : Nat :=
  (s.allParts.map (lostUnits u32 (o.unit frameSize))).sum

/-- The frames of the last session that are counted again while the output is stopped. -/
def staleFrames (o : PositionOutput) (frameSize : Nat) (s : PositionRun) : Nat :=
  if s.started then 0 else s.status / o.unit frameSize

/-- In every session, the parts between the readings do not wrap, and their remainders do not make up a frame; while the
    output is stopped, as many frames are lost as are counted again. -/
def KeepsCount (o : PositionOutput) (frameSize : Nat) (s : PositionRun) : Prop :=
  if s.started then ∀ parts ∈ s.allParts, Lossless u32 (o.unit frameSize) parts
  else s.lostFrames o frameSize = s.staleFrames o frameSize

/-- The counters hold what the readings saw. -/
structure Counted (o : PositionOutput) (frameSize : Nat) (s : PositionRun) : Prop where
  total : s.bout.framesPlayedTotal = (s.sessions.map (pieceUnits u32 (o.unit frameSize))).sum
  finished : s.finished = s.sessions.map List.sum
  fresh : s.bout.Fresh o
  running : s.started = true → s.parts.sum ≤ s.count ∧ s.bout.framesPlayed = pieceUnits u32 (o.unit frameSize) s.parts ∧
    s.bout.lastCount = s.parts.sum % u32
  idle : s.started = false → s.bout.framesPlayed = 0 ∧ s.bout.lastCount = 0 ∨
    s.bout.framesPlayed = s.status / o.unit frameSize ∧ s.bout.lastCount = s.status

theorem sub32_mod {a b : Nat} (h : a ≤ b) : sub32 (b % u32) (a % u32) = (b - a) % u32 := by
  unfold sub32 u32
  split_ifs <;> omega

theorem sum_parts_rest (h : s.parts.sum ≤ s.count) : (s.parts ++ [s.rest]).sum = s.count := by
  rw [List.sum_append, List.sum_singleton, rest]
  omega

theorem Counted.frames_running (h : s.Counted o frameSize) (hstarted : s.started = true) :
    s.bout.frames o frameSize s.status = pieceUnits u32 (o.unit frameSize) (s.parts ++ [s.rest]) := by
  obtain ⟨hle, hplayed, hlast⟩ := h.running hstarted
  rw [BoutCounters.frames, hplayed, hlast, status, sub32_mod hle, pieceUnits_append, pieceUnits_singleton]
  rfl

theorem Counted.frames_idle (h : s.Counted o frameSize) (hstopped : s.started = false) :
    s.bout.frames o frameSize s.status = s.status / o.unit frameSize := by
  rw [BoutCounters.frames]
  rcases h.idle hstopped with ⟨hplayed, hlast⟩ | ⟨hplayed, hlast⟩
  · rw [hplayed, hlast, sub32_of_le (Nat.zero_le _), Nat.sub_zero, Nat.zero_add]
  · rw [hplayed, hlast, sub32_of_le (Nat.le_refl _), Nat.sub_self, Nat.zero_div, Nat.add_zero]

theorem Counted.read (h : s.Counted o frameSize) :
    Counted o frameSize { s.read o with
      bout := if o.folds then s.bout.foldBytes (o.unit frameSize) s.status else s.bout } := by
  cases hfolds : o.folds with
  | false =>
    have hread : s.read o = s := by rw [PositionRun.read, hfolds, Bool.and_false]; rfl
    rw [hread]
    exact h
  | true =>
    have hfold : (if true = true then s.bout.foldBytes (o.unit frameSize) s.status else s.bout) =
        s.bout.foldBytes (o.unit frameSize) s.status := if_pos rfl
    rw [hfold]
    have hfresh : (s.bout.foldBytes (o.unit frameSize) s.status).Fresh o := fun hno => by rw [hfolds] at hno; cases hno
    cases hstarted : s.started with
    | false =>
      have hread : s.read o = s := by rw [PositionRun.read, hstarted]; rfl
      rw [hread]
      refine ⟨h.total, h.finished, hfresh, fun hrun => ?_, fun _ => .inr ⟨h.frames_idle hstarted, rfl⟩⟩
      rw [hstarted] at hrun
      cases hrun
    | true =>
      have hread : s.read o = { s with parts := s.parts ++ [s.rest] } := by
        rw [PositionRun.read, hstarted, hfolds]
        rfl
      obtain ⟨hle, -, -⟩ := h.running hstarted
      have hsum := sum_parts_rest hle
      rw [hread]
      refine ⟨h.total, h.finished, hfresh, fun _ => ⟨Nat.le_of_eq hsum, h.frames_running hstarted, ?_⟩, fun hno => ?_⟩
      · simp only [BoutCounters.foldBytes, hsum]
        rfl
      · rw [hstarted] at hno
        cases hno

theorem Counted.stop (h : s.Counted o frameSize) (hpos : 0 < frameSize) (hstarted : s.started = true) :
    Counted o frameSize { s with
      bout := o.stop frameSize s.status s.bout
      started := false
      finished := s.finished ++ [s.count]
      parts := []
      sessions := s.sessions ++ [s.parts ++ [s.rest]] } := by
  obtain ⟨hle, -, -⟩ := h.running hstarted
  rw [BoutCounters.stop_eq h.fresh hpos, h.frames_running hstarted]
  refine ⟨?_, ?_, fun _ => ⟨rfl, rfl⟩, fun hrun => absurd hrun Bool.false_ne_true, fun _ => .inl ⟨rfl, rfl⟩⟩
  · rw [List.map_append, List.sum_append, h.total, List.map_singleton, List.sum_singleton]
  · rw [List.map_append, h.finished, List.map_singleton, sum_parts_rest hle]

theorem Counted.step (h : s.Counted o frameSize) (hpos : 0 < frameSize) (hstep : s.step o frameSize a = some s') :
    s'.Counted o frameSize := by
  cases a with
  | start =>
    simp only [PositionRun.step] at hstep
    split_ifs at hstep
    cases hstep
    refine ⟨h.total, h.finished, fun _ => ⟨rfl, rfl⟩, fun _ => ⟨Nat.zero_le _, rfl, rfl⟩, fun hno => absurd hno.symm Bool.false_ne_true⟩
  | stop =>
    simp only [PositionRun.step] at hstep
    split_ifs at hstep with hstarted
    cases hstep
    exact h.stop hpos hstarted
  | play n =>
    simp only [PositionRun.step] at hstep
    split_ifs at hstep with hstarted
    cases hstep
    obtain ⟨hle, hplayed, hlast⟩ := h.running hstarted
    refine ⟨h.total, h.finished, h.fresh, fun _ => ⟨Nat.le_add_right_of_le hle, hplayed, hlast⟩, fun hno => ?_⟩
    rw [hstarted] at hno
    cases hno
  | renderPosition =>
    cases hstep
    rw [BoutCounters.getRenderPosition_snd hpos]
    exact h.read
  | presentationPosition =>
    cases hstep
    rw [BoutCounters.getPresentationPosition_snd hpos]
    exact h.read

theorem counted_init : Counted o frameSize {} :=
  ⟨rfl, rfl, fun _ => ⟨rfl, rfl⟩, fun hrun => absurd hrun Bool.false_ne_true, fun _ => .inl ⟨rfl, rfl⟩⟩

theorem counted_of_reaches (hpos : 0 < frameSize) (h : Reaches (step o frameSize) (fun _ _ => True) {} s) :
    s.Counted o frameSize :=
  h.invariant counted_init fun _ _ _ h _ hstep => h.step hpos hstep

theorem sum_pieceUnits_add_lostUnits {unit : Nat} (hunit : 0 < unit) (sessions : List (List Nat)) :
    (sessions.map (pieceUnits u32 unit)).sum + (sessions.map (lostUnits u32 unit)).sum =
      (sessions.map fun parts => parts.sum / unit).sum := by
  rw [← List.sum_map_add]
  congr 2
  exact funext fun parts => pieceUnits_add_lostUnits hunit parts

theorem Counted.balance (h : s.Counted o frameSize) (hpos : 0 < frameSize) :
    s.bout.framesPlayedTotal + s.bout.frames o frameSize s.status + s.lostFrames o frameSize =
      s.playedFrames o frameSize + s.staleFrames o frameSize := by
  have hunit := o.unit_pos hpos
  have hsum := sum_pieceUnits_add_lostUnits hunit s.sessions
  cases hstarted : s.started with
  | false =>
    have hplayed : s.playedFrames o frameSize = (s.sessions.map fun parts => parts.sum / o.unit frameSize).sum := by
      simp only [playedFrames, hstarted, h.finished, Bool.false_eq_true, if_false, List.append_nil, List.map_map]
      rfl
    have hparts : s.allParts = s.sessions := by simp [allParts, hstarted]
    rw [h.total, h.frames_idle hstarted, lostFrames, hparts, staleFrames, hstarted, if_neg Bool.false_ne_true, hplayed]
    omega
  | true =>
    obtain ⟨hle, -, -⟩ := h.running hstarted
    have hplayed : s.playedFrames o frameSize = (s.sessions.map fun parts => parts.sum / o.unit frameSize).sum +
        (s.parts ++ [s.rest]).sum / o.unit frameSize := by
      rw [sum_parts_rest hle, playedFrames, hstarted, if_pos rfl, h.finished, List.map_append, List.sum_append, List.map_map,
        List.map_singleton, List.sum_singleton]
      rfl
    have hparts : s.allParts = s.sessions ++ [s.parts ++ [s.rest]] := by rw [allParts, hstarted, if_pos rfl]
    have hlast : pieceUnits u32 _ _ + _ = _ := pieceUnits_add_lostUnits hunit (s.parts ++ [s.rest])
    rw [h.total, h.frames_running hstarted, lostFrames, hparts, staleFrames, hstarted, if_pos rfl, hplayed, List.map_append,
      List.sum_append, List.map_singleton, List.sum_singleton]
    omega

theorem lostFrames_eq_zero_iff (hpos : 0 < frameSize) (hlt : frameSize < u32) :
    s.lostFrames o frameSize = 0 ↔ ∀ parts ∈ s.allParts, Lossless u32 (o.unit frameSize) parts := by
  rw [lostFrames, List.sum_eq_zero_iff_forall_eq_nat]
  constructor
  · intro h parts hparts
    exact (lostUnits_eq_zero_iff (o.unit_pos hpos) (o.unit_le hlt) parts).mp (h _ (List.mem_map_of_mem hparts))
  · rintro h n hn
    obtain ⟨parts, hparts, rfl⟩ := List.mem_map.mp hn
    exact (lostUnits_eq_zero_iff (o.unit_pos hpos) (o.unit_le hlt) parts).mpr (h parts hparts)

theorem keepsCount_iff (hpos : 0 < frameSize) (hlt : frameSize < u32) :
    s.KeepsCount o frameSize ↔ s.lostFrames o frameSize = s.staleFrames o frameSize := by
  unfold KeepsCount
  split_ifs with hstarted
  · rw [staleFrames, if_pos hstarted, lostFrames_eq_zero_iff hpos hlt]
  · exact Iff.rfl

theorem playedFrames_read : (s.read o).finished = s.finished ∧ (s.read o).started = s.started ∧
    (s.read o).count = s.count := by
  rw [PositionRun.read]
  split_ifs <;> exact ⟨rfl, rfl, rfl⟩

theorem playedFrames_step (hstep : s.step o frameSize a = some s') :
    s.playedFrames o frameSize ≤ s'.playedFrames o frameSize ∧
      (a = .renderPosition ∨ a = .presentationPosition → s'.playedFrames o frameSize = s.playedFrames o frameSize) := by
  have hquery (b : BoutCounters) : playedFrames o frameSize { s.read o with bout := b } = s.playedFrames o frameSize := by
    obtain ⟨hfinished, hstarted, hcount⟩ := playedFrames_read (o := o) (s := s)
    rw [playedFrames, hfinished, hstarted, hcount]
    rfl
  cases a with
  | start =>
    simp only [PositionRun.step] at hstep
    split_ifs at hstep with hstarted
    cases hstep
    refine ⟨?_, fun h => by rcases h with h | h <;> cases h⟩
    simp only [playedFrames, hstarted, Bool.false_eq_true, if_false, if_true, List.append_nil, List.map_append, List.sum_append]
    exact Nat.le_add_right _ _
  | stop =>
    simp only [PositionRun.step] at hstep
    split_ifs at hstep with hstarted
    cases hstep
    refine ⟨?_, fun h => by rcases h with h | h <;> cases h⟩
    simp only [playedFrames, hstarted, Bool.false_eq_true, if_false, if_true, List.append_nil]
    exact Nat.le_refl _
  | play n =>
    simp only [PositionRun.step] at hstep
    split_ifs at hstep with hstarted
    cases hstep
    refine ⟨?_, fun h => by rcases h with h | h <;> cases h⟩
    simp only [playedFrames, hstarted, if_true, List.map_append, List.map_singleton, List.sum_append, List.sum_singleton]
    exact Nat.add_le_add_left (Nat.div_le_div_right (Nat.le_add_right _ _)) _
  | renderPosition =>
    cases hstep
    exact ⟨Nat.le_of_eq (hquery _).symm, fun _ => hquery _⟩
  | presentationPosition =>
    cases hstep
    exact ⟨Nat.le_of_eq (hquery _).symm, fun _ => hquery _⟩

theorem expectedPosition_step (hstep : s.step o frameSize a = some s') :
    s.expectedPosition o frameSize ≤ s'.expectedPosition o frameSize ∧
      (a = .renderPosition ∨ a = .presentationPosition → s'.expectedPosition o frameSize = s.expectedPosition o frameSize) := by
  obtain ⟨hle, hquery⟩ := playedFrames_step hstep
  refine ⟨?_, fun ha => by rw [expectedPosition, hquery ha]; rfl⟩
  rcases Nat.lt_or_eq_of_le hle with hlt | heq
  · exact Nat.le_of_lt (o.position_lt hlt)
  · rw [expectedPosition, heq]
    exact Nat.le_refl _

/-- A query gets the position of what was played exactly where the readings keep the count; and that position does not
    depend on the queries, and never becomes less. -/
theorem presentationPosition_iff (o : PositionOutput) (frameSize : Nat) (hpos : 0 < frameSize) (hlt : frameSize < u32) :
    (∀ s, Reaches (step o frameSize) (fun _ _ => True) {} s →
      (s.presentationPosition o frameSize = s.expectedPosition o frameSize ↔ s.KeepsCount o frameSize)) ∧
    ∀ (s : PositionRun) (a : PositionAction) (s' : PositionRun), s.step o frameSize a = some s' →
      s.expectedPosition o frameSize ≤ s'.expectedPosition o frameSize ∧
      (a = .renderPosition ∨ a = .presentationPosition →
        s'.expectedPosition o frameSize = s.expectedPosition o frameSize) := by
  refine ⟨fun s h => ?_, fun s a s' hstep => expectedPosition_step hstep⟩
  have hcounted := counted_of_reaches hpos h
  have hbalance := hcounted.balance hpos
  rw [presentationPosition, BoutCounters.getPresentationPosition_fst hcounted.fresh hpos, expectedPosition, o.position_inj,
    keepsCount_iff hpos hlt]
  omega

/-- The state after a list of actions. -/
def after (o : PositionOutput) (frameSize : Nat) (actions : List PositionAction) : Option PositionRun :=
  runChecked (step o frameSize) (fun _ _ => true) {} actions

theorem reaches_after {actions : List PositionAction} (h : after o frameSize actions = some s) :
    Reaches (step o frameSize) (fun _ _ => True) {} s :=
  (Reaches.of_runChecked actions .init h).mono fun _ _ _ => trivial

/-- Two halves of a frame, with a query between them, are no frame. -/
theorem presentationPosition_iff_halves : ∃ s, Reaches (step .nexus 4) (fun _ _ => True) {} s ∧ s.parts = [2] ∧ s.count = 4 ∧
    ¬ s.KeepsCount .nexus 4 := by
  let s : PositionRun := { bout := { lastCount := 2 }, started := true, count := 4, parts := [2] }
  have hrun : after .nexus 4 [.start, .play 2, .renderPosition, .play 2] = some s := by decide
  refine ⟨s, reaches_after hrun, rfl, rfl, fun hkeeps => ?_⟩
  have hposition := ((presentationPosition_iff .nexus 4 (by decide) (by decide)).1 s (reaches_after hrun)).mpr hkeeps
  exact absurd hposition (by decide)

/-- Without the query the same output reports a frame; with it, none. -/
theorem position_depends_on_queries :
    (after .nexus 4 [.start, .play 2, .play 2]).map (presentationPosition .nexus 4) = some 1 ∧
      (after .nexus 4 [.start, .play 2, .renderPosition, .play 2]).map (presentationPosition .nexus 4) = some 0 := by
  decide

end PositionRun
end BcmPlatform.Audio
