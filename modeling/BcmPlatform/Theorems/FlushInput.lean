import BcmPlatform.Theorems.DescriptorRuns
import BcmPlatform.Theorems.ReturnWalk

/-! When a flush of the input port returns everything. With the port populated and the playpump open, the playpump event has
    to mark every queued buffer complete, which it does when the playpump is started and the counted descriptors are those of
    the buffers. Otherwise the buffers are returned as they are, and the counters stay what they were. The event looks for the
    buffer whose PTS is at the head of the decoder's FIFO among all allocated buffers, and stops only when that one is in the
    queue. -/

namespace BcmPlatform.Bomx
open Lib
namespace InputSide
variable {s s' : InputSide} {b : BufferId}

/-- The descriptors of the buffers of a queue that are not complete. -/
def pendingCount (buffer : BufferId → InputBuffer) (l : List BufferId) : Nat :=
  ((l.filter fun b => !(buffer b).complete).map fun b => (buffer b).numDescriptors).sum

theorem pendingCount_congr {buffer buffer' : BufferId → InputBuffer} {l : List BufferId}
    (h : ∀ b ∈ l, buffer' b = buffer b) : pendingCount buffer' l = pendingCount buffer l := by
  unfold pendingCount
  rw [List.filter_congr fun b hb => by rw [h b hb]]
  rw [List.map_congr_left fun b hb => by rw [h b (List.mem_of_mem_filter hb)]]

theorem pendingCount_cons_of_complete {buffer : BufferId → InputBuffer} {l : List BufferId} (h : (buffer b).complete = true) :
    pendingCount buffer (b :: l) = pendingCount buffer l := by
  simp [pendingCount, h]

theorem pendingCount_cons_of_pending {buffer : BufferId → InputBuffer} {l : List BufferId} (h : ¬ (buffer b).complete = true) :
    pendingCount buffer (b :: l) = (buffer b).numDescriptors + pendingCount buffer l := by
  simp [pendingCount, h]

theorem pendingCount_of_complete {buffer : BufferId → InputBuffer} {l : List BufferId}
    (h : ∀ b ∈ l, (buffer b).complete = true) : pendingCount buffer l = 0 := by
  have hnil : (l.filter fun b => !(buffer b).complete) = [] := by
    rw [List.filter_eq_nil_iff]
    intro b hb
    simp [h b hb]
  rw [pendingCount, hnil]
  rfl

theorem markComplete_buffer_of_notMem {head : Option BufferId} : ∀ {l : List BufferId} {n : Nat} {s : InputSide},
    b ∉ l → (markComplete head l n s).buffer b = s.buffer b
  | [], _, _, _ => rfl
  | c :: rest, n, s, hb => by
    have hne : b ≠ c := fun h => hb (h ▸ List.mem_cons_self)
    have hrest : b ∉ rest := fun h => hb (List.mem_cons_of_mem c h)
    rw [markComplete_cons]
    split
    · rfl
    · split
      · exact markComplete_buffer_of_notMem hrest
      · split
        · rw [markComplete_buffer_of_notMem hrest, markOne_buffer_of_ne hne]
        · rfl

/-- Without a buffer to stop at, the loop marks all buffers if and only if it is given the descriptors of all of them,
    and uncounts these. -/
theorem markComplete_all_iff : ∀ (l : List BufferId) (n : Nat) (s : InputSide), l.Nodup → n ≤ s.submittedDescriptors →
    ((∀ b ∈ l, ((markComplete none l n s).buffer b).complete = true) ↔ pendingCount s.buffer l ≤ n) ∧
    (pendingCount s.buffer l ≤ n →
      (markComplete none l n s).submittedDescriptors = s.submittedDescriptors - pendingCount s.buffer l) := by
  intro l
  induction l with
  | nil =>
    intro n s _ _
    simp [markComplete, pendingCount]
  | cons c rest ih =>
    intro n s hnodup hn
    obtain ⟨hc, hrest⟩ := List.nodup_cons.mp hnodup
    rw [markComplete_cons, if_neg (by simp)]
    by_cases hcomplete : (s.buffer c).complete = true
    · rw [if_pos hcomplete, pendingCount_cons_of_complete hcomplete, List.forall_mem_cons, markComplete_buffer_of_notMem hc]
      simpa [hcomplete] using ih n s hrest hn
    · rw [if_neg hcomplete, pendingCount_cons_of_pending hcomplete, List.forall_mem_cons]
      split
      · next hge =>
        have hmark := markOne_eq (s := s) (b := c) (by omega)
        have hsub : (s.markOne c).submittedDescriptors = s.submittedDescriptors - (s.buffer c).numDescriptors := by
          rw [hmark]
        have hself : ((s.markOne c).buffer c).complete = true := by simp [hmark]
        have hsame : pendingCount (s.markOne c).buffer rest = pendingCount s.buffer rest :=
          pendingCount_congr fun b hb => markOne_buffer_of_ne fun h => hc (h ▸ hb)
        obtain ⟨hall, hcounted⟩ := ih (n - (s.buffer c).numDescriptors) (s.markOne c) hrest (by omega)
        rw [hsame] at hall hcounted
        rw [markComplete_buffer_of_notMem hc, hall, hself]
        refine ⟨⟨fun h => by omega, fun h => ⟨rfl, by omega⟩⟩, fun h => ?_⟩
        rw [hcounted (by omega), hsub]
        omega
      · next hlt =>
        refine ⟨⟨fun h => absurd h.1 hcomplete, fun h => ?_⟩, fun h => ?_⟩
        · omega
        · omega

/-! ### Returning all buffers -/

theorem iterate_add32 {a : Nat} (ha : a < u32) : ∀ k, (add32 · 1)^[k] a = (a + k) % u32 := by
  intro k
  induction k with
  | zero => exact (Nat.mod_eq_of_lt ha).symm
  | succ k ih =>
    have hlt : (a + k) % u32 < u32 := Nat.mod_lt _ (by decide)
    rw [Function.iterate_succ_apply', ih]
    unfold add32
    unfold u32 at hlt ⊢
    split <;> omega

theorem returnInputBuffers_all (hall : ∀ b ∈ s.port.bufferQueue, (s.buffer b).complete = true) :
    Returned s.port.bufferQueue.length s (s.returnInputBuffers 0 .all) := by
  have hfind : findReturnBuffer s.buffer 0 .all s.port.bufferQueue none 0 = s.port.bufferQueue.getLast? := by
    rw [findReturnBuffer_modeAll, List.takeWhile_eq_self_iff.mpr hall, Option.or_none]
  simp only [returnInputBuffers, hfind]
  cases hlast : s.port.bufferQueue.getLast? with
  | none =>
    rw [List.getLast?_eq_none_iff.mp hlast]
    exact .refl s
  | some b =>
    obtain ⟨pre, hq⟩ := List.getLast?_eq_some_iff.mp hlast
    have hpre : b ∉ pre := by
      have hnodup := s.port.nodup_queue
      rw [hq] at hnodup
      exact fun hmem => (List.nodup_append.mp hnodup).2.2 b hmem b (List.mem_singleton_self b) rfl
    have hidx : s.port.bufferQueue.length = s.port.bufferQueue.idxOf b + 1 := by
      simp [hq, List.idxOf_append_of_notMem hpre]
    rw [hidx]
    exact returnUpTo_returned _ s b rfl (by simp [hq])

theorem returnInputBuffers_emptied {ticks : Ticks} {mode : ReturnMode}
    (h : (s.returnInputBuffers ticks mode).port.bufferQueue = []) :
    ∀ b ∈ s.port.bufferQueue, (s.buffer b).complete = true := by
  obtain ⟨k, hr, hall⟩ := returnInputBuffers_returned ticks mode s
  rw [hr.queue, List.drop_eq_nil_iff] at h
  rwa [List.take_of_length_le h] at hall

/-! ### The flush -/

/-- Everything went back: the queue is empty, each buffer was returned once and in order, no descriptor is counted as
    submitted and every buffer as available. -/
structure FlushedAll (s s' : InputSide) : Prop where
  queue : s'.port.bufferQueue = []
  returned : s'.returned = s.returned ++ s.port.bufferQueue
  submitted : s'.submittedDescriptors = 0
  avail : s'.availInputBuffers = s'.port.definition.nBufferCountActual

/-- A populated port with an open playpump: the playpump is started or every buffer is complete already, and the
    counters are those of the queue. Otherwise: the counters are those of an empty queue. -/
def FlushComplete (s : InputSide) : Prop :=
  if s.port.isEnabled && s.port.isPopulated && s.hPlaypump then
    (s.playpumpStarted = true ∨ ∀ b ∈ s.port.bufferQueue, (s.buffer b).complete = true) ∧
      s.submittedDescriptors = pendingCount s.buffer s.port.bufferQueue ∧
      (s.availInputBuffers + s.port.queueDepth) % u32 = s.port.definition.nBufferCountActual
  else s.submittedDescriptors = 0 ∧ s.availInputBuffers = s.port.definition.nBufferCountActual

theorem flushEvent_iff (hflush : s.inputFlushing = true) (hopen : s.hPlaypump = true)
    (hfifo : s.playpumpStarted = true → s.descFifo = []) (fifoPts : Option Nat) :
    ((∀ b ∈ s.port.bufferQueue, ((s.playpumpEvent fifoPts).buffer b).complete = true) ∧
      (s.playpumpEvent fifoPts).submittedDescriptors = 0) ↔
    (s.playpumpStarted = true ∨ ∀ b ∈ s.port.bufferQueue, (s.buffer b).complete = true) ∧
      s.submittedDescriptors = pendingCount s.buffer s.port.bufferQueue := by
  by_cases hstarted : s.playpumpStarted = true
  · have heq : s.playpumpEvent fifoPts = markComplete none s.port.bufferQueue s.submittedDescriptors s := by
      simp [playpumpEvent, completeConsumed, hopen, hstarted, hflush, hfifo hstarted, sub32]
    obtain ⟨hall, hcounted⟩ := markComplete_all_iff s.port.bufferQueue s.submittedDescriptors s s.port.nodup_queue
      (Nat.le_refl _)
    rw [heq, hall]
    constructor
    · rintro ⟨hle, hzero⟩
      rw [hcounted hle] at hzero
      exact ⟨.inl hstarted, by omega⟩
    · rintro ⟨-, hsub⟩
      exact ⟨by omega, by rw [hcounted (by omega)]; omega⟩
  · have heq : s.playpumpEvent fifoPts = s := by simp [playpumpEvent, hstarted]
    rw [heq]
    constructor
    · rintro ⟨hall, hzero⟩
      exact ⟨.inr hall, by rw [hzero, pendingCount_of_complete hall]⟩
    · rintro ⟨hall, hsub⟩
      rcases hall with hall | hall
      · exact absurd hall hstarted
      · exact ⟨hall, by rw [hsub, pendingCount_of_complete hall]⟩

theorem alogAssert_rest (cond : Bool) (a : InputAssert) (s : InputSide) :
    s.alogAssert cond a = { s with asserts := (s.alogAssert cond a).asserts } := by
  unfold alogAssert
  split <;> rfl

theorem commandFlush_flushedAll_iff (stopped : Bool) (fifoPts : Option Nat) (havail : s.availInputBuffers < u32) :
    FlushedAll s (s.commandFlush stopped fifoPts) ↔ FlushComplete s := by
  simp only [commandFlush, FlushComplete]
  split
  · next hbranch =>
    have hopen : s.hPlaypump = true := by simp only [Bool.and_eq_true] at hbranch; exact hbranch.2
    generalize hs₁ : ({ ({ s with inputFlushing := true } : InputSide).playpumpFlush stopped with
      eosPending := false, ptsReceived := false } : InputSide) = s₁
    have hfields : s₁.port = s.port ∧ s₁.buffer = s.buffer ∧ s₁.submittedDescriptors = s.submittedDescriptors ∧
        s₁.hPlaypump = s.hPlaypump ∧ s₁.playpumpStarted = s.playpumpStarted ∧ s₁.inputFlushing = true ∧
        s₁.returned = s.returned ∧ s₁.availInputBuffers = s.availInputBuffers ∧
        (s₁.playpumpStarted = true → s₁.descFifo = []) := by
      rw [← hs₁]
      simp only [playpumpFlush]
      split
      · exact ⟨rfl, rfl, rfl, rfl, rfl, rfl, rfl, rfl, fun _ => rfl⟩
      · next hstart => exact ⟨rfl, rfl, rfl, rfl, rfl, rfl, rfl, rfl, fun h => absurd h (by simp_all)⟩
    obtain ⟨hport, hbuffer, hsub, hpump, hstarted, hflush, hret, hav, hfifo⟩ := hfields
    have hevent := flushEvent_iff hflush (hpump.trans hopen) hfifo fifoPts
    rw [hport, hbuffer, hsub, hstarted] at hevent
    have hm := playpumpEvent_marked fifoPts s₁
    generalize hs₂ : (s₁.playpumpEvent fifoPts).alogAssert
      ((s₁.playpumpEvent fifoPts).submittedDescriptors = 0) .noneSubmittedAfterFlush = s₂
    have hrest : s₂.port = s.port ∧ s₂.buffer = (s₁.playpumpEvent fifoPts).buffer ∧
        s₂.submittedDescriptors = (s₁.playpumpEvent fifoPts).submittedDescriptors ∧ s₂.returned = s.returned ∧
        s₂.availInputBuffers = s.availInputBuffers := by
      rw [← hs₂, alogAssert_rest]
      refine ⟨?_, rfl, rfl, ?_, ?_⟩
      · rw [hm.rest]
        exact hport
      · rw [hm.rest]
        exact hret
      · rw [hm.rest]
        exact hav
    obtain ⟨hport₂, hbuffer₂, hsub₂, hret₂, hav₂⟩ := hrest
    rw [← hbuffer₂, ← hsub₂] at hevent
    constructor
    · intro h
      have hall := returnInputBuffers_emptied h.queue
      have hr := returnInputBuffers_all hall
      rw [hport₂] at hall
      have hcond := hevent.mp ⟨hall, hr.submitted.symm.trans h.submitted⟩
      refine ⟨hcond.1, hcond.2, ?_⟩
      have hcount : (s₂.returnInputBuffers 0 .all).availInputBuffers =
          (s₂.returnInputBuffers 0 .all).port.definition.nBufferCountActual := h.avail
      rw [hr.avail, hr.definition, hport₂, hav₂, iterate_add32 havail] at hcount
      exact hcount
    · rintro ⟨hstart, hcounted, hcount⟩
      obtain ⟨hall, hzero⟩ := hevent.mpr ⟨hstart, hcounted⟩
      rw [← hport₂] at hall
      have hr := returnInputBuffers_all hall
      refine ⟨?_, ?_, hr.submitted.trans hzero, ?_⟩
      · change (s₂.returnInputBuffers 0 .all).port.bufferQueue = []
        rw [hr.queue, List.drop_length]
      · change (s₂.returnInputBuffers 0 .all).returned = _
        rw [hr.returned, hret₂, List.take_length, hport₂]
      · change (s₂.returnInputBuffers 0 .all).availInputBuffers =
          (s₂.returnInputBuffers 0 .all).port.definition.nBufferCountActual
        rw [hr.avail, hr.definition, hport₂, hav₂, iterate_add32 havail]
        exact hcount
  · have he := returnPortBuffers_emptied s
    have hsub : s.returnPortBuffers.submittedDescriptors = s.submittedDescriptors := by rw [he.rest]
    have hav : s.returnPortBuffers.availInputBuffers = s.availInputBuffers := by rw [he.rest]
    constructor
    · intro h
      exact ⟨hsub.symm.trans h.submitted, by rw [← hav, h.avail, he.definition]⟩
    · rintro ⟨hzero, hcount⟩
      exact ⟨he.queue, he.returned, hsub.trans hzero, by rw [hav, he.definition, hcount]⟩

end InputSide

namespace VideoDecoder

/-- A flush of the input port returns everything if and only if, with a populated port and an open playpump, the
    playpump is started or all queued buffers are complete, and the counters are those of the queue; or else, with no
    descriptor counted and all buffers counted as available before. -/
theorem commandFlush_returns_all_iff (d : VideoDecoder) (stopped : Bool) (fifoPts : Option Nat)
    (havail : d.inp.availInputBuffers < u32) (hok : (d.commandFlushInput stopped fifoPts).2 = .none) :
    InputSide.FlushedAll d.inp (d.commandFlushInput stopped fifoPts).1.inp ↔ d.inp.FlushComplete := by
  have heq : (d.commandFlushInput stopped fifoPts).1 = d.flushInput stopped fifoPts := by
    unfold commandFlushInput at hok ⊢
    split at hok
    · cases hok
    · next hstate => rw [if_neg hstate]
  rw [heq]
  exact InputSide.commandFlush_flushedAll_iff stopped fifoPts havail

/-- With a frame queued on a started playpump, a flush returns everything. -/
theorem commandFlush_returns_all_smallFrame :
    ∃ d : VideoDecoder, d.inp.port.bufferQueue = [10] ∧ d.inp.availInputBuffers < u32 ∧
      (d.commandFlushInput false none).2 = .none ∧ InputSide.FlushedAll d.inp (d.commandFlushInput false none).1.inp := by
  obtain ⟨d, -, hp⟩ := Reaches.exists_of_run VideoDecoder.step clientOwns
    (VideoDecoder.init .avc .standard false smallInput smallOutput) videoFrame
    (fun d => d.inp.port.bufferQueue = [10] && d.inp.availInputBuffers < u32 &&
      (d.commandFlushInput false none).2 = .none && (d.inp.port.isEnabled && d.inp.port.isPopulated && d.inp.hPlaypump) &&
      d.inp.playpumpStarted &&
      d.inp.submittedDescriptors = InputSide.pendingCount d.inp.buffer d.inp.port.bufferQueue &&
      (d.inp.availInputBuffers + d.inp.port.queueDepth) % u32 = d.inp.port.definition.nBufferCountActual)
    (by decide +kernel)
  rw [Bool.and_eq_true, Bool.and_eq_true, Bool.and_eq_true, Bool.and_eq_true, Bool.and_eq_true, Bool.and_eq_true] at hp
  obtain ⟨⟨⟨⟨⟨⟨hqueue, havail⟩, hok⟩, hbranch⟩, hstarted⟩, hcounted⟩, hcount⟩ := hp
  have hok := of_decide_eq_true hok
  have havail := of_decide_eq_true havail
  refine ⟨d, of_decide_eq_true hqueue, havail, hok, ?_⟩
  rw [commandFlush_returns_all_iff d false none havail hok, InputSide.FlushComplete, if_pos hbranch]
  exact ⟨.inl hstarted, of_decide_eq_true hcounted, of_decide_eq_true hcount⟩

/-- In Idle state the playpump is open and not started, and a flush keeps a queued config buffer. -/
theorem flush_keeps_config_buffer :
    ∃ d, Reaches VideoDecoder.step (fun d a => d.clientOwns a = true)
        (VideoDecoder.init .avc .standard false smallInput smallOutput) d ∧ d.currentState = .idle ∧
      (d.commandFlushInput false none).2 = .none ∧
      ¬ InputSide.FlushedAll d.inp (d.commandFlushInput false none).1.inp := by
  obtain ⟨d, hd, hp⟩ := Reaches.exists_of_run VideoDecoder.step clientOwns
    (VideoDecoder.init .avc .standard false smallInput smallOutput)
    [.stateSet .idle {} {} {}, .allocateInputBuffer 10 65536 false, .allocateInputBuffer 11 65536 false,
     .allocateOutputBuffer 20 64 0 false, .resume false {} {},
     .emptyThisBuffer {} 10 { frameHeader with nFlags := { codecConfig := true } }]
    (fun d => d.currentState = .idle && (d.commandFlushInput false none).2 = .none &&
      (d.commandFlushInput false none).1.inp.port.bufferQueue ≠ []) (by decide +kernel)
  simp only [Bool.and_eq_true, decide_eq_true_eq] at hp
  exact ⟨d, hd, hp.1.1, hp.1.2, fun h => hp.2 h.queue⟩

end VideoDecoder
end BcmPlatform.Bomx

/-! ### The buffer at the head of the FIFO -/

namespace BcmPlatform.Bomx
open Lib
namespace InputSide
variable {s s' : InputSide} {b : BufferId} {head : Option BufferId} {post : List BufferId}

/-- No buffer of `l` was marked complete. -/
def Spares (l : List BufferId) (s s' : InputSide) : Prop :=
  ∀ c ∈ l, (s'.buffer c).complete = true → (s.buffer c).complete = true

/-! ### The loop -/

theorem markComplete_spares_head {n : Nat} (hnodup : (b :: post).Nodup) (hb : (s.buffer b).complete = false) :
    Spares (b :: post) s (markComplete head (b :: post) n s) ↔ head = some b ∨ n < (s.buffer b).numDescriptors := by
  have hnot : b ∉ post := (List.nodup_cons.mp hnodup).1
  rw [markComplete_cons]
  by_cases hhead : some b = head
  · rw [if_pos hhead]
    exact ⟨fun _ => .inl hhead.symm, fun _ _ _ h => h⟩
  · rw [if_neg hhead, if_neg (by simp [hb])]
    by_cases hn : n ≥ (s.buffer b).numDescriptors
    · rw [if_pos hn]
      constructor
      · intro hspares
        have hmarked : ((s.markOne b).buffer b).complete = true := by simp [markOne, setBuffer]
        have hself := hspares b List.mem_cons_self (by rw [markComplete_buffer_of_notMem hnot, hmarked])
        rw [hb] at hself
        cases hself
      · rintro (h | h)
        · exact absurd h.symm hhead
        · omega
    · rw [if_neg hn]
      exact ⟨fun _ => .inr (by omega), fun _ _ _ h => h⟩

/-- The loop marks neither `b` nor a buffer behind it if and only if it stops before, or runs out of consumed
    descriptors. -/
theorem markComplete_spares_iff : ∀ (pre : List BufferId) (n : Nat) (s : InputSide), (pre ++ b :: post).Nodup →
    (s.buffer b).complete = false → (Spares (b :: post) s (markComplete head (pre ++ b :: post) n s) ↔
      (∃ m ∈ pre ++ [b], head = some m) ∨ n < pendingCount s.buffer (pre ++ [b]))
  | [], n, s, hnodup, hb => by
    have hcount : pendingCount s.buffer [b] = (s.buffer b).numDescriptors :=
      pendingCount_cons_of_pending (by simp [hb])
    rw [List.nil_append, List.nil_append, hcount, markComplete_spares_head hnodup hb]
    simp
  | a :: pre, n, s, hnodup, hb => by
    obtain ⟨ha, hrest⟩ := List.nodup_cons.mp hnodup
    have hout : ∀ c ∈ b :: post, c ≠ a := fun c hc h => ha (h ▸ List.mem_append_right pre hc)
    have hin : ∀ c ∈ pre ++ [b], c ≠ a := by
      intro c hc
      rcases List.mem_append.mp hc with hc | hc
      · exact fun h => ha (h ▸ List.mem_append_left _ hc)
      · exact hout c (List.mem_singleton.mp hc ▸ List.mem_cons_self)
    rw [List.cons_append, List.cons_append, markComplete_cons]
    by_cases hhead : some a = head
    · rw [if_pos hhead]
      exact ⟨fun _ => .inl ⟨a, List.mem_cons_self, hhead.symm⟩, fun _ _ _ h => h⟩
    · have hskip : (∃ m ∈ a :: (pre ++ [b]), head = some m) ↔ ∃ m ∈ pre ++ [b], head = some m := by
        rw [List.exists_mem_cons_iff, or_iff_right fun h => hhead h.symm]
      rw [if_neg hhead, hskip]
      by_cases hcomplete : (s.buffer a).complete = true
      · rw [if_pos hcomplete, pendingCount_cons_of_complete hcomplete]
        exact markComplete_spares_iff pre n s hrest hb
      · rw [if_neg hcomplete, pendingCount_cons_of_pending hcomplete]
        by_cases hn : n ≥ (s.buffer a).numDescriptors
        · -- `a` is marked, which neither `b` nor what is behind it sees
          have hflags : ∀ s' : InputSide, Spares (b :: post) (s.markOne a) s' ↔ Spares (b :: post) s s' := fun s' =>
            forall₂_congr fun c hc => by rw [markOne_buffer_of_ne (hout c hc)]
          have hsame : pendingCount (s.markOne a).buffer (pre ++ [b]) = pendingCount s.buffer (pre ++ [b]) :=
            pendingCount_congr fun c hc => markOne_buffer_of_ne (hin c hc)
          have hb' : ((s.markOne a).buffer b).complete = false := by
            rw [markOne_buffer_of_ne (hout b List.mem_cons_self), hb]
          rw [if_pos hn, ← hflags, markComplete_spares_iff pre _ (s.markOne a) hrest hb', hsame]
          refine or_congr_right ?_
          omega
        · rw [if_neg hn]
          exact ⟨fun _ => .inr (by omega), fun _ _ _ h => h⟩

/-! ### Between the flushes -/

theorem alogAssert_inputFlushing (cond : Bool) (a : InputAssert) : (s.alogAssert cond a).inputFlushing = s.inputFlushing := by
  unfold alogAssert
  split <;> rfl

theorem returnPortBuffers_inputFlushing : s.returnPortBuffers.inputFlushing = s.inputFlushing := by
  rw [(returnPortBuffers_emptied s).rest]

theorem returnInputBuffers_inputFlushing (ticks : Ticks) (mode : ReturnMode) :
    (s.returnInputBuffers ticks mode).inputFlushing = s.inputFlushing := by
  obtain ⟨k, hr, -⟩ := returnInputBuffers_returned ticks mode s
  rw [hr.rest]

theorem queueInputBuffer_inputFlushing : (s.queueInputBuffer b).1.inputFlushing = s.inputFlushing := by
  simp only [queueInputBuffer, inputBufferNew]
  split <;> exact alogAssert_inputFlushing _ _

theorem Fed.inputFlushing (h : Fed b s s') : s'.inputFlushing = s.inputFlushing := by
  refine h.keeps (fun hp => ?_) (fun hs => ?_) (fun _ => queueInputBuffer_inputFlushing) (fun _ => rfl)
  · rw [hp.rest]
  · rw [hs.rest]

theorem emptyThisBuffer_inputFlushing (codec : VideoCodec) (submit : SubmitResult) :
    (s.emptyThisBuffer codec submit b).1.inputFlushing = s.inputFlushing := by
  by_cases haccept : headerAccepted (s.buffer b).header = true
  · have hfed : Fed b (s.resetBuffer b) (s.emptyThisBuffer codec submit b).1 :=
      emptyBuffer_fed (Nat.le_refl _) (emptyFrame_fed codec submit.frame) haccept
    exact hfed.inputFlushing
  · simp [emptyThisBuffer, emptyBuffer, haccept]

theorem notFlushingRules (codec : VideoCodec) : InputRules codec {} fun s => s.inputFlushing = false where
  polled h hi := h.keeps (P := fun i => i.inputFlushing = false) (fun _ _ _ hi => hi)
    (fun _ _ hi => (returnInputBuffers_inputFlushing _ _).trans hi) hi
  polled_start _ hs := hs
  allocate _ _ _ _ h := by
    simp only [addBuffer, addInputPortBuffer]
    split
    · exact h
    · split <;> exact h
  empty submit _ _ _ _ h := (emptyThisBuffer_inputFlushing _ submit).trans h
  free _ h := by
    simp only [freeBuffer]
    split <;> exact h
  playpumpEvent fifoPts h := by rw [(playpumpEvent_marked fifoPts _).rest]; exact h
  timeout h := (returnInputBuffers_inputFlushing _ _).trans h
  consume _ h := h
  flush _ _ _ h := by
    simp only [commandFlush]
    split
    · rfl
    · exact returnPortBuffers_inputFlushing.trans h
  config h := h
  acquire _ h := h
  acquire_start hs := hs
  start _ _ h := h
  startFailed _ h := h
  stop _ h := returnPortBuffers_inputFlushing.trans h
  release _ h := returnPortBuffers_inputFlushing.trans h
  returnPortBuffers _ h := returnPortBuffers_inputFlushing.trans h
  portFlags _ _ h := h

end InputSide

namespace VideoDecoder
open InputSide

theorem inputFlushing_of_reaches {codec : VideoCodec} {outputMode : OutputMode} {adaptive : Bool}
    {inputDef outputDef : PortDefinition} {d : VideoDecoder}
    (h : Reaches step (fun _ _ => True) (init codec outputMode adaptive inputDef outputDef) d) :
    d.inp.inputFlushing = false := by
  have hkept : InputKept codec (fun s => s.inputFlushing = false) d := by
    refine h.invariant ⟨rfl, rfl, rfl⟩ fun d a _ hd _ hstep => hd.step (notFlushingRules codec) ?_ hstep
    cases a with
    | stateSet newState => cases newState <;> simp [InputStepOk]
    | _ => trivial
  exact hkept.inp

/-- In every reachable state, with the PTS of a pending buffer `b` at the head of the decoder's FIFO, `PlaypumpEvent`
    marks neither `b` nor a buffer behind it if and only if the playpump is not started, the first allocated buffer with
    this PTS is in the queue up to `b`, or the descriptors of the pending buffers up to `b` are not all consumed. -/
theorem playpumpEvent_spares_iff {codec : VideoCodec} {outputMode : OutputMode} {adaptive : Bool}
    {inputDef outputDef : PortDefinition} {d : VideoDecoder} {b : BufferId} {pre post : List BufferId} {pts : Nat}
    (h : Reaches step (fun _ _ => True) (init codec outputMode adaptive inputDef outputDef) d)
    (hqueue : d.inp.port.bufferQueue = pre ++ b :: post) (hpending : (d.inp.buffer b).complete = false) :
    Spares (b :: post) d.inp (d.inp.playpumpEvent (some pts)) ↔
      ¬ (d.inp.hPlaypump = true ∧ d.inp.playpumpStarted = true) ∨
      (∃ m ∈ pre ++ [b], d.inp.port.bufferList.find? (fun c => (d.inp.buffer c).pts = pts) = some m) ∨
      sub32 d.inp.submittedDescriptors d.inp.descFifo.length < pendingCount d.inp.buffer (pre ++ [b]) := by
  have hnodup := d.inp.port.nodup_queue
  rw [hqueue] at hnodup
  simp only [InputSide.playpumpEvent, inputFlushing_of_reaches h]
  by_cases hstarted : d.inp.hPlaypump = true ∧ d.inp.playpumpStarted = true
  · rw [if_pos (by simp [hstarted]), completeConsumed, hqueue, markComplete_spares_iff pre _ d.inp hnodup hpending,
      or_iff_right (not_not.mpr hstarted)]
    rfl
  · rw [if_neg (by simpa using hstarted)]
    exact ⟨fun _ => .inl hstarted, fun _ _ _ h => h⟩

/-- Buffer 10 has come back when the frame is sent again, with the same time stamp, in buffer 11. -/
def frameAgain : List VideoAction :=
  videoFrame ++ [.consume 2, .playpumpEvent none, .inputBufferTimeout, .emptyThisBuffer {} 11 frameHeader]

/-- The first buffer with the PTS is not queued any more, and the event releases data that the decoder still has. -/
theorem playpumpEvent_releases_pending : ∃ d,
    Reaches step (fun _ _ => True) (init .avc .standard false smallInput smallOutput) d ∧
      d.inp.port.bufferQueue = [11] ∧ (d.inp.buffer 11).complete = false ∧ 0 < (d.inp.buffer 11).numDescriptors ∧
      ¬ Spares [11] d.inp (d.inp.playpumpEvent (some (d.inp.buffer 11).pts)) := by
  obtain ⟨d, hd, hp⟩ := Reaches.exists_of_run step (fun _ _ => true)
    (init .avc .standard false smallInput smallOutput) (frameAgain ++ [.consume 2])
    (fun d => d.inp.port.bufferQueue = [11] && !(d.inp.buffer 11).complete && 0 < (d.inp.buffer 11).numDescriptors &&
      ((d.inp.playpumpEvent (some (d.inp.buffer 11).pts)).buffer 11).complete) (by decide +kernel)
  simp only [Bool.and_eq_true, decide_eq_true_eq, Bool.not_eq_true'] at hp
  obtain ⟨⟨⟨hqueue, hpending⟩, hdata⟩, hmarked⟩ := hp
  refine ⟨d, hd.mono fun _ _ _ => trivial, hqueue, hpending, hdata, fun h => ?_⟩
  rw [h 11 List.mem_cons_self hmarked] at hpending
  cases hpending

/-- The first time around, the buffer itself is the first one with its PTS. -/
theorem playpumpEvent_spares_first : ∃ d,
    Reaches step (fun _ _ => True) (init .avc .standard false smallInput smallOutput) d ∧
      d.inp.port.bufferQueue = [10] ∧ d.inp.descFifo = [] ∧ (d.inp.buffer 10).pts = 1800 ∧
      Spares [10] d.inp (d.inp.playpumpEvent (some 1800)) := by
  obtain ⟨d, hd, hp⟩ := Reaches.exists_of_run step (fun _ _ => true)
    (init .avc .standard false smallInput smallOutput) (videoFrame ++ [.consume 2])
    (fun d => d.inp.port.bufferQueue = [10] && d.inp.descFifo = [] && (d.inp.buffer 10).pts = 1800 &&
      !(d.inp.buffer 10).complete && d.inp.port.bufferList = [10, 11]) (by decide +kernel)
  simp only [Bool.and_eq_true, decide_eq_true_eq, Bool.not_eq_true'] at hp
  obtain ⟨⟨⟨⟨hqueue, hfifo⟩, hpts⟩, hpending⟩, hlist⟩ := hp
  have hreach : Reaches step (fun _ _ => True) (init .avc .standard false smallInput smallOutput) d :=
    hd.mono fun _ _ _ => trivial
  refine ⟨d, hreach, hqueue, hfifo, hpts, ?_⟩
  have hsplit : d.inp.port.bufferQueue = [] ++ 10 :: [] := hqueue
  refine (playpumpEvent_spares_iff hreach hsplit hpending).mpr (.inr (.inl ⟨10, by simp, ?_⟩))
  simp [hlist, hpts]

end VideoDecoder
end BcmPlatform.Bomx
