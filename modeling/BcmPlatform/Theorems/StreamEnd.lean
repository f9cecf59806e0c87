import Mathlib.Data.List.Perm.Subperm
import BcmPlatform.Bomx.EndOfStream

/-! What the component knows about the end of the stream: the tracker with its flags, the three booleans, and the
    packets of which nothing was delivered, decoded or not. As long as the end of the stream is still to come, one of
    the booleans says so. -/

namespace BcmPlatform.Bomx
open List (Subperm)

/-! ### The tracker -/

namespace BufferTracker
variable {t : BufferTracker} {n : TrackerNode} {pts : Nat}

theorem insert_perm (t : BufferTracker) (n : TrackerNode) : (t.insert n).Perm (n :: t) := by
  simp only [insert]
  split
  · split
    · exact List.perm_append_singleton n t
    · split
      · exact .refl _
      · refine List.perm_middle.trans (List.Perm.cons n ?_)
        rw [List.take_append_drop]
  · next hnone =>
    cases t with
    | nil => exact .refl _
    | cons m t => exact absurd rfl (hnone _ _ (List.getLast?_cons ..))

theorem mem_insert {m : TrackerNode} : m ∈ t.insert n ↔ m = n ∨ m ∈ t :=
  (insert_perm t n).mem_iff.trans List.mem_cons

theorem cleanup_sublist (ticks : Ticks) : ∀ (t : BufferTracker) (miss : Nat), (cleanup ticks t miss).Sublist t
  | [], _ => .refl _
  | n :: t, miss => by
    simp only [cleanup]
    split
    · split
      · exact (cleanup_sublist ticks t _).cons n
      · exact (cleanup_sublist ticks t _).cons_cons n
    · exact .refl _

theorem remove_sublist (t : BufferTracker) (pts : Nat) : (t.remove pts).1.Sublist (t.eraseP (·.pts = pts)) := by
  rw [List.eraseP_eq_eraseIdx]
  simp only [remove]
  cases t.findIdx? (·.pts = pts) with
  | none => exact .refl _
  | some miss =>
    simp only
    split
    · next hnone =>
      rw [List.eraseIdx_of_length_le (List.getElem?_eq_none_iff.mp hnone)]
    · split
      · exact cleanup_sublist _ _ _
      · exact .refl _

theorem mem_of_mem_remove (h : n ∈ (t.remove pts).1) : n ∈ t :=
  List.mem_of_mem_eraseP ((remove_sublist t pts).subset h)

theorem remove_pts (t : BufferTracker) (pts : Nat) :
    Subperm ((t.remove pts).1.map (·.pts)) ((t.map (·.pts)).erase pts) := by
  have herase : (t.map (·.pts)).erase pts = (t.eraseP (·.pts = pts)).map (·.pts) := by
    rw [List.erase_eq_eraseP', List.eraseP_map]
    rfl
  rw [herase]
  exact ((remove_sublist t pts).map _).subperm

theorem remove_found (t : BufferTracker) (pts : Nat) :
    (∃ n ∈ t, n.pts = pts ∧ (t.remove pts).2 = (n.ticks, n.flags)) ∨ (t.remove pts).2 = (ptsToTick pts, {}) := by
  simp only [remove]
  split
  · exact .inr rfl
  · next miss hmiss =>
    split
    · exact .inr rfl
    · next n hn =>
      refine .inl ⟨n, List.mem_of_getElem? hn, ?_, rfl⟩
      obtain ⟨hlt, hp, -⟩ := List.findIdx?_eq_some_iff_getElem.mp hmiss
      rw [List.getElem?_eq_getElem hlt, Option.some.injEq] at hn
      rw [← hn]
      exact of_decide_eq_true hp

theorem remove_eos (h : (t.remove pts).2.2.eos = true) : ∃ n ∈ t, n.flags.eos = true := by
  rcases remove_found t pts with ⟨n, hn, -, heq⟩ | heq
  · refine ⟨n, hn, ?_⟩
    rw [heq] at h
    exact h
  · rw [heq] at h
    cases h

theorem remove_ticks (hnodes : ∀ n ∈ t, n.pts = tickToPts n.ticks) (hpts : tickToPts (ptsToTick pts) = pts) :
    tickToPts (t.remove pts).2.1 = pts := by
  rcases remove_found t pts with ⟨n, hn, hnpts, heq⟩ | heq
  · rw [heq, ← hnodes n hn, hnpts]
  · rw [heq]
    exact hpts

end BufferTracker

/-! ### The PTS of packets -/

section
variable {l l' : List Packet} {pts : Nat}

@[simp] theorem framePts_append : framePts (l ++ l') = framePts l ++ framePts l' := by
  induction l with
  | nil => rfl
  | cons p l ih => cases p <;> simp [framePts, ih]

theorem mem_framePts : pts ∈ framePts l ↔ .frame pts ∈ l := by
  induction l with
  | nil => simp [framePts]
  | cons p l ih => cases p <;> simp [framePts, ih]

theorem framePts_perm (h : l.Perm l') : (framePts l).Perm (framePts l') := by
  induction h with
  | nil => exact .refl _
  | cons p _ ih =>
    cases p with
    | frame pts => exact ih.cons pts
    | eos => exact ih
  | swap p q l =>
    cases p with
    | frame pts =>
      cases q with
      | frame pts' => exact .swap pts pts' _
      | eos => exact .refl _
    | eos => cases q <;> exact .refl _
  | trans _ _ ih ih' => exact ih.trans ih'

end

/-! ### The end-of-stream flag of a frame -/

/-- Whether the flag was received before its frame, and whether this frame carries it: `eos` is the flag in the tracker,
    `last` tells that no frame is later. -/
def endMark (eos last received : Bool) : Bool × Bool :=
  if eos && !last then (true, false) else if received && last then (false, true) else (received, eos)

section
variable {eos last received : Bool}

theorem endMark_carried (h : (endMark eos last received).2 = true) : last = true ∧ (eos = true ∨ received = true) := by
  cases eos <;> cases last <;> cases received <;> simp_all [endMark]

theorem endMark_received (h : (endMark eos last received).1 = true) : eos = true ∨ received = true := by
  cases eos <;> cases last <;> cases received <;> simp_all [endMark]

theorem endMark_lossless (h : eos = true ∨ received = true) :
    (endMark eos last received).1 = true ∨ (endMark eos last received).2 = true := by
  cases eos <;> cases last <;> cases received <;> simp_all [endMark]

end

/-! ### The end of the stream -/

structure StreamEnd where
  tracker : BufferTracker
  pending : Bool
  received : Bool
  delivered : Bool
  stream : List Packet

namespace StreamEnd

/-- The end of the stream is still to come: from a tracked frame, from a frame that takes over the flag, or from the
    end-of-stream packet. -/
def Owed (e : StreamEnd) : Prop :=
  (∃ n ∈ e.tracker, n.flags.eos = true) ∨ e.received = true ∨ .eos ∈ e.stream

/-- Nothing follows the end-of-stream packet. -/
def Ended (stream : List Packet) : Prop := stream.Pairwise fun p _ => p ≠ .eos

/-- Every tracked frame is still to be delivered, and the end of the stream is pending or delivered as long as it is
    still to come. -/
structure Known (e : StreamEnd) : Prop where
  tracked : e.delivered = false → Subperm (e.tracker.map (·.pts)) (framePts e.stream)
  nodes : ∀ n ∈ e.tracker, n.pts = tickToPts n.ticks
  inRange : ∀ pts ∈ framePts e.stream, tickToPts (ptsToTick pts) = pts
  owed : e.Owed → e.pending = true ∨ e.delivered = true
  ended : Ended e.stream

variable {e : StreamEnd} {rest : List Packet} {status : FrameStatus}

/-- The tracker without the next frame. -/
def removed (status : FrameStatus) (e : StreamEnd) : BufferTracker := (e.tracker.remove status.pts).1

/-- No tracked frame is later than the next one. -/
def isLast (status : FrameStatus) (e : StreamEnd) : Bool :=
  (e.removed status).last (e.tracker.remove status.pts).2.1

def mark (status : FrameStatus) (e : StreamEnd) : Bool × Bool :=
  endMark (e.tracker.remove status.pts).2.2.eos (e.isLast status) e.received

/-- The next frame ends the stream. -/
def endsStream (status : FrameStatus) (e : StreamEnd) : Bool := status.lastPicture || (e.mark status).2

/-- The next frame is delivered. -/
def deliver (status : FrameStatus) (rest : List Packet) (e : StreamEnd) : StreamEnd where
  tracker := e.removed status
  pending := e.pending && !e.endsStream status
  received := (e.mark status).1
  delivered := e.delivered || e.endsStream status
  stream := rest

/-- The next frame is pushed back to the tracker. -/
def pushBack (status : FrameStatus) (e : StreamEnd) : StreamEnd :=
  let ticks := (e.tracker.remove status.pts).2.1
  let flags := (e.tracker.remove status.pts).2.2
  { e with
    tracker := (e.removed status).insert { ticks, flags := { flags with eos := (e.mark status).2 }, pts := tickToPts ticks }
    received := (e.mark status).1 }

theorem Ended.nil (h : Ended (.eos :: rest)) : rest = [] :=
  List.eq_nil_iff_forall_not_mem.mpr fun q hq => (List.pairwise_cons.mp h).1 q hq rfl

theorem Ended.append {stream : List Packet} (h : Ended stream) (hnone : .eos ∉ stream) (p : Packet) :
    Ended (stream ++ [p]) := by
  refine List.pairwise_append.mpr ⟨h, List.pairwise_singleton _ _, fun q hq _ _ heq => ?_⟩
  exact hnone (heq ▸ hq)

theorem Owed.of_marked (h : (e.mark status).1 = true ∨ (e.mark status).2 = true) : e.Owed := by
  have hsource : (e.tracker.remove status.pts).2.2.eos = true ∨ e.received = true := by
    rcases h with h | h
    · exact endMark_received h
    · exact (endMark_carried h).2
  rcases hsource with heos | hreceived
  · exact .inl (BufferTracker.remove_eos heos)
  · exact .inr (.inl hreceived)

namespace Known

theorem pending_of_ends (h : e.Known) (hstream : e.stream = status.packet :: rest) (hdelivered : e.delivered = false)
    (hends : e.endsStream status = true) : e.pending = true := by
  have howed : e.Owed := by
    rcases (Bool.or_eq_true _ _).mp hends with hlast | hcarried
    · refine .inr (.inr ?_)
      rw [hstream, FrameStatus.packet, if_pos hlast]
      exact List.mem_cons_self ..
    · exact .of_marked (.inr hcarried)
  rcases h.owed howed with hpending | hdone
  · exact hpending
  · rw [hdelivered] at hdone
    cases hdone

theorem tracked_removed (h : e.Known) (hstream : e.stream = status.packet :: rest) (hdelivered : e.delivered = false) :
    Subperm ((e.removed status).map (·.pts)) (framePts rest) := by
  have htracked := h.tracked hdelivered
  rw [hstream] at htracked
  by_cases hlast : status.lastPicture = true
  · -- the last picture comes after all tracked frames
    have heos : status.packet = .eos := by rw [FrameStatus.packet, if_pos hlast]
    have hended := h.ended
    rw [hstream, heos] at hended
    rw [heos, hended.nil] at htracked
    have hnil : e.tracker = [] := List.map_eq_nil_iff.mp (List.subperm_nil.mp htracked)
    have hempty : e.removed status = [] := by
      refine List.eq_nil_iff_forall_not_mem.mpr fun n hn => ?_
      have hmem := BufferTracker.mem_of_mem_remove hn
      rw [hnil] at hmem
      exact absurd hmem List.not_mem_nil
    rw [hempty]
    exact List.nil_subperm
  · have hframe : status.packet = .frame status.pts := by rw [FrameStatus.packet, if_neg hlast]
    rw [hframe] at htracked
    have herase := htracked.erase status.pts
    rw [framePts, List.erase_cons_head] at herase
    exact (BufferTracker.remove_pts e.tracker status.pts).trans herase

theorem last_of_ends (h : e.Known) (hstream : e.stream = status.packet :: rest) (hdelivered : e.delivered = false)
    (hends : e.endsStream status = true) : e.isLast status = true := by
  rcases (Bool.or_eq_true _ _).mp hends with hlast | hcarried
  · have heos : status.packet = .eos := by rw [FrameStatus.packet, if_pos hlast]
    have hended := h.ended
    rw [hstream, heos] at hended
    have htracked := h.tracked_removed hstream hdelivered
    rw [hended.nil] at htracked
    have hnil : e.removed status = [] := List.map_eq_nil_iff.mp (List.subperm_nil.mp htracked)
    rw [isLast, hnil]
    rfl
  · exact (endMark_carried hcarried).1

theorem deliver (h : e.Known) (hstream : e.stream = status.packet :: rest) (hdelivered : e.delivered = false) :
    (e.deliver status rest).Known where
  tracked _ := h.tracked_removed hstream hdelivered
  nodes n hn := h.nodes n (BufferTracker.mem_of_mem_remove hn)
  inRange pts hpts := by
    refine h.inRange pts ?_
    rw [hstream, mem_framePts]
    exact List.mem_cons_of_mem _ (mem_framePts.mp hpts)
  owed howed := by
    by_cases hends : e.endsStream status = true
    · exact .inr (by rw [StreamEnd.deliver, hends, Bool.or_true])
    · have hbefore : e.Owed := by
        rcases howed with ⟨n, hn, heos⟩ | hreceived | hmem
        · exact .inl ⟨n, BufferTracker.mem_of_mem_remove hn, heos⟩
        · exact .of_marked (.inl hreceived)
        · refine .inr (.inr ?_)
          rw [hstream]
          exact List.mem_cons_of_mem _ hmem
      rcases h.owed hbefore with hpending | hdone
      · refine .inl ?_
        rw [StreamEnd.deliver, hpending, Bool.eq_false_iff.mpr hends]
        rfl
      · rw [hdelivered] at hdone
        cases hdone
  ended := by
    have hended := h.ended
    rw [hstream] at hended
    exact (List.pairwise_cons.mp hended).2

theorem pushBack (h : e.Known) (hstream : e.stream = status.packet :: rest) (hdelivered : e.delivered = false)
    (hlast : status.lastPicture = false) : (e.pushBack status).Known := by
  have hframe : status.packet = .frame status.pts := by rw [FrameStatus.packet, if_neg (by simp [hlast])]
  have hpts : tickToPts (e.tracker.remove status.pts).2.1 = status.pts := by
    refine BufferTracker.remove_ticks h.nodes (h.inRange _ ?_)
    rw [hstream, hframe, mem_framePts]
    exact List.mem_cons_self ..
  refine ⟨fun _ => ?_, fun n hn => ?_, h.inRange, fun howed => ?_, h.ended⟩
  · have hperm := (BufferTracker.insert_perm (e.removed status)
      { ticks := (e.tracker.remove status.pts).2.1, pts := tickToPts (e.tracker.remove status.pts).2.1
        flags := { (e.tracker.remove status.pts).2.2 with eos := (e.mark status).2 } }).map (·.pts)
    refine hperm.subperm.trans ?_
    change Subperm (tickToPts (e.tracker.remove status.pts).2.1 :: _) (framePts e.stream)
    rw [hstream, hframe, framePts, hpts]
    exact (List.subperm_cons _).mpr (h.tracked_removed hstream hdelivered)
  · rcases BufferTracker.mem_insert.mp hn with rfl | hn
    · rfl
    · exact h.nodes n (BufferTracker.mem_of_mem_remove hn)
  · have hbefore : e.Owed := by
      rcases howed with ⟨n, hn, heos⟩ | hreceived | hmem
      · rcases BufferTracker.mem_insert.mp hn with rfl | hn
        · exact .of_marked (.inr heos)
        · exact .inl ⟨n, BufferTracker.mem_of_mem_remove hn, heos⟩
      · exact .of_marked (.inl hreceived)
      · exact .inr (.inr hmem)
    exact h.owed hbefore

theorem not_owed (h : e.Known) (hpending : e.pending = false) (hdelivered : e.delivered = false) : ¬ e.Owed := by
  intro howed
  rcases h.owed howed with hp | hd
  · rw [hpending] at hp
    cases hp
  · rw [hdelivered] at hd
    cases hd

/-- A buffer is submitted while no end of the stream was: its frame is tracked and taken, or there is none, and a frame
    with the end-of-stream flag is followed by the packet. -/
theorem submit (h : e.Known) (hpending : e.pending = false) (hdelivered : e.delivered = false) {tracker : BufferTracker}
    {frames : List Packet} {eos : Bool}
    (hframe : (tracker = e.tracker ∧ frames = []) ∨ ∃ n : TrackerNode, tracker = e.tracker.insert n ∧
      frames = [.frame n.pts] ∧ n.pts = tickToPts n.ticks ∧ tickToPts (ptsToTick n.pts) = n.pts ∧
      (n.flags.eos = true → eos = true)) :
    Known { e with tracker, pending := e.pending || eos, stream := e.stream ++ (frames ++ if eos then [.eos] else []) } := by
  have hnot := h.not_owed hpending hdelivered
  have hnone : .eos ∉ e.stream := fun hmem => hnot (.inr (.inr hmem))
  have heosPts : framePts (if eos = true then [Packet.eos] else []) = [] := by cases eos <;> rfl
  have hframes : ∀ p ∈ frames, p ≠ .eos := by
    rcases hframe with ⟨-, rfl⟩ | ⟨n, -, rfl, -⟩
    · exact fun p hp => absurd hp List.not_mem_nil
    · intro p hp heq
      rw [List.mem_singleton.mp hp] at heq
      cases heq
  refine ⟨fun _ => ?_, fun m hm => ?_, fun pts hpts => ?_, fun howed => ?_, ?_⟩
  · simp only [framePts_append, heosPts, List.append_nil]
    rcases hframe with ⟨rfl, rfl⟩ | ⟨n, rfl, rfl, -⟩
    · rw [framePts, List.append_nil]
      exact h.tracked hdelivered
    · refine ((BufferTracker.insert_perm e.tracker n).map (·.pts)).subperm.trans ?_
      refine Subperm.trans ?_ (List.perm_append_singleton n.pts (framePts e.stream)).symm.subperm
      exact (List.subperm_cons n.pts).mpr (h.tracked hdelivered)
  · rcases hframe with ⟨rfl, -⟩ | ⟨n, rfl, -, hn, -⟩
    · exact h.nodes m hm
    · rcases BufferTracker.mem_insert.mp hm with rfl | hm
      · exact hn
      · exact h.nodes m hm
  · simp only [framePts_append, heosPts, List.append_nil, List.mem_append] at hpts
    rcases hpts with hpts | hpts
    · exact h.inRange pts hpts
    · rcases hframe with ⟨-, rfl⟩ | ⟨n, -, rfl, -, hrange, -⟩
      · exact absurd hpts List.not_mem_nil
      · rw [List.mem_singleton.mp hpts]
        exact hrange
  · -- only the new buffer can have the flag or the packet
    refine .inl ?_
    rw [Bool.or_eq_true]
    refine .inr ?_
    rcases howed with ⟨m, hm, heos⟩ | hreceived | hmem
    · rcases hframe with ⟨rfl, -⟩ | ⟨n, rfl, -, -, -, hflag⟩
      · exact absurd (.inl ⟨m, hm, heos⟩) hnot
      · rcases BufferTracker.mem_insert.mp hm with rfl | hm
        · exact hflag heos
        · exact absurd (.inl ⟨m, hm, heos⟩) hnot
    · exact absurd (.inr (.inl hreceived)) hnot
    · rcases List.mem_append.mp hmem with hmem | hmem
      · exact absurd hmem hnone
      · rcases List.mem_append.mp hmem with hmem | hmem
        · exact absurd rfl (hframes _ hmem)
        · by_contra heos
          rw [if_neg heos] at hmem
          exact absurd hmem List.not_mem_nil
  · rw [← List.append_assoc]
    have hbefore : .eos ∉ e.stream ++ frames := by
      intro hmem
      rcases List.mem_append.mp hmem with hmem | hmem
      · exact hnone hmem
      · exact hframes _ hmem rfl
    refine List.pairwise_append.mpr ⟨?_, ?_, fun q hq _ _ heq => hbefore (heq ▸ hq)⟩
    · rw [List.pairwise_append]
      refine ⟨h.ended, ?_, fun q hq _ _ heq => hnone (heq ▸ hq)⟩
      rcases hframe with ⟨-, rfl⟩ | ⟨n, -, rfl, -⟩
      · exact List.Pairwise.nil
      · exact List.pairwise_singleton _ _
    · cases eos
      · exact List.Pairwise.nil
      · exact List.pairwise_singleton _ _

/-- The input is flushed: the end of the stream is delivered already, or it is no longer to come and no tracked frame is
    lost. -/
theorem flushInput (h : e.Known) {stream : List Packet} (hsub : stream.Sublist e.stream)
    (hsafe : e.delivered = true ∨ ¬ Owed { e with stream } ∧ Subperm (e.tracker.map (·.pts)) (framePts stream)) :
    Known { e with pending := false, stream } where
  tracked hdelivered := by
    rcases hsafe with hd | ⟨-, htracked⟩
    · rw [hd] at hdelivered
      cases hdelivered
    · exact htracked
  nodes := h.nodes
  inRange pts hpts := h.inRange pts (mem_framePts.mpr (hsub.subset (mem_framePts.mp hpts)))
  owed howed := by
    rcases hsafe with hd | ⟨hnot, -⟩
    · exact .inr hd
    · exact absurd howed hnot
  ended := h.ended.sublist hsub

theorem flushOutput (h : e.Known) {stream : List Packet} {pending : Bool} (hsub : stream.Sublist e.stream)
    (hpending : .eos ∈ stream → pending = true) :
    Known { tracker := [], pending, received := false, delivered := false, stream } where
  tracked _ := List.nil_subperm
  nodes n hn := absurd hn List.not_mem_nil
  inRange pts hpts := h.inRange pts (mem_framePts.mpr (hsub.subset (mem_framePts.mp hpts)))
  owed howed := by
    rcases howed with ⟨n, hn, -⟩ | hreceived | hmem
    · exact absurd hn List.not_mem_nil
    · cases hreceived
    · exact .inl (hpending hmem)
  ended := h.ended.sublist hsub

theorem perm (h : e.Known) {stream : List Packet} (hperm : stream.Perm e.stream) (hended : Ended stream) :
    Known { e with stream } where
  tracked hdelivered := (h.tracked hdelivered).trans (framePts_perm hperm).symm.subperm
  nodes := h.nodes
  inRange pts hpts := h.inRange pts (mem_framePts.mpr (hperm.mem_iff.mp (mem_framePts.mp hpts)))
  owed howed := by
    refine h.owed ?_
    rcases howed with htracker | hreceived | hmem
    · exact .inl htracker
    · exact .inr (.inl hreceived)
    · exact .inr (.inr (hperm.mem_iff.mp hmem))
  ended := hended

theorem empty {pending : Bool} : Known { tracker := [], pending, received := false, delivered := false, stream := [] } where
  tracked _ := List.nil_subperm
  nodes n hn := absurd hn List.not_mem_nil
  inRange pts hpts := absurd hpts List.not_mem_nil
  owed howed := by
    rcases howed with ⟨n, hn, -⟩ | hreceived | hmem
    · exact absurd hn List.not_mem_nil
    · cases hreceived
    · exact absurd hmem List.not_mem_nil
  ended := List.Pairwise.nil

end Known

/-! ### Decoding -/

theorem Ended.move {a b c : List Packet} {p : Packet} (h : Ended (a ++ (b ++ p :: c))) (hp : p ≠ .eos) :
    Ended (a ++ (p :: (b ++ c))) := by
  obtain ⟨ha, hbc, hab⟩ := List.pairwise_append.mp h
  obtain ⟨hb, hpc, hbp⟩ := List.pairwise_append.mp hbc
  obtain ⟨-, hc⟩ := List.pairwise_cons.mp hpc
  have hmem : ∀ q ∈ b, q ≠ .eos := fun q hq => hbp q hq p (List.mem_cons_self ..)
  have hfirst : ∀ q ∈ a, q ≠ .eos := fun q hq => hab q hq p (List.mem_append_right _ (List.mem_cons_self ..))
  refine List.pairwise_append.mpr ⟨ha, List.pairwise_cons.mpr ⟨fun _ _ => hp, ?_⟩, fun q hq _ _ => hfirst q hq⟩
  exact List.pairwise_append.mpr ⟨hb, hc, fun q hq _ _ => hmem q hq⟩

theorem decodePackets_spec : ∀ (frames : List FrameStatus) (before packets packets' : List Packet),
    decodePackets packets frames = some packets' → Ended (before ++ packets) →
    (before ++ (frames.map (·.packet) ++ packets')).Perm (before ++ packets) ∧
      Ended (before ++ (frames.map (·.packet) ++ packets'))
  | [], before, packets, packets', h, hended => by
    cases h
    exact ⟨.refl _, hended⟩
  | status :: rest, before, packets, packets', h, hended => by
    -- what one frame does to the order
    obtain ⟨kept, hkept, hperm, hmoved⟩ : ∃ kept, decodePackets kept rest = some packets' ∧
        (before ++ status.packet :: kept).Perm (before ++ packets) ∧ Ended (before ++ status.packet :: kept) := by
      simp only [decodePackets] at h
      split at h
      · next hhead =>
        obtain ⟨tail, rfl⟩ := List.head?_eq_some_iff.mp hhead.symm
        exact ⟨tail, h, .refl _, hended⟩
      · split at h
        · next hmem =>
          have hne : status.packet ≠ .eos := by simpa using List.mem_takeWhile_imp hmem
          obtain ⟨a, c, -, rfl, herase⟩ := List.exists_erase_eq ((List.takeWhile_sublist _).subset hmem)
          rw [herase] at h
          exact ⟨a ++ c, h, List.perm_middle.symm.append_left before, hended.move hne⟩
        · cases h
    rw [List.append_cons] at hperm hmoved
    obtain ⟨hrest, hend⟩ := decodePackets_spec rest (before ++ [status.packet]) kept packets' hkept hmoved
    rw [List.append_assoc] at hrest hend
    exact ⟨hrest.trans hperm, hend⟩

end StreamEnd

/-! ### The buffers that the client gets -/

/-- At most one buffer has the end-of-stream flag; none with data comes after it, and no tracked frame is later. -/
structure FilledOk (delivered : Bool) (filled : List FilledBuffer) : Prop where
  once : filled.Pairwise fun y z => y.eos = true → z.eos = false ∧ z.data = false
  last : ∀ y ∈ filled, y.eos = true → y.later = false
  before : delivered = false → ∀ y ∈ filled, y.eos = false

namespace FilledOk
variable {filled : List FilledBuffer} {delivered : Bool}

theorem nil (delivered : Bool) : FilledOk delivered [] :=
  ⟨List.Pairwise.nil, fun _ hy => absurd hy List.not_mem_nil, fun _ _ hy => absurd hy List.not_mem_nil⟩

theorem deliver (h : FilledOk false filled) {y : FilledBuffer} (hy : y.eos = true → y.later = false) :
    FilledOk y.eos (filled ++ [y]) where
  once := by
    refine List.pairwise_append.mpr ⟨h.once, List.pairwise_singleton _ _, fun z hz _ _ heos => ?_⟩
    rw [h.before rfl z hz] at heos
    cases heos
  last z hz heos := by
    rcases List.mem_append.mp hz with hz | hz
    · exact h.last z hz heos
    · rw [List.mem_singleton.mp hz] at heos ⊢
      exact hy heos
  before hnone z hz := by
    rcases List.mem_append.mp hz with hz | hz
    · exact h.before rfl z hz
    · rw [List.mem_singleton.mp hz]
      exact hnone

theorem append (h : FilledOk delivered filled) {queue : List FilledBuffer}
    (hqueue : ∀ y ∈ queue, y.eos = false ∧ y.data = false) : FilledOk delivered (filled ++ queue) where
  once := by
    refine List.pairwise_append.mpr ⟨h.once, ?_, fun _ _ z hz _ => hqueue z hz⟩
    exact List.pairwise_of_forall_mem_list fun _ _ z hz _ => hqueue z hz
  last z hz heos := by
    rcases List.mem_append.mp hz with hz | hz
    · exact h.last z hz heos
    · rw [(hqueue z hz).1] at heos
      cases heos
  before hnone z hz := by
    rcases List.mem_append.mp hz with hz | hz
    · exact h.before hnone z hz
    · exact (hqueue z hz).1

end FilledOk
end BcmPlatform.Bomx
