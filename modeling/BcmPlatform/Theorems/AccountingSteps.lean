import Mathlib.Data.List.Infix
import BcmPlatform.Theorems.EmptyThisBuffer
import BcmPlatform.Theorems.InputAccounting

/-! Each operation of the input side keeps the descriptor accounting, if the client submits only buffers that are
    not queued and a flush or a start does not drop descriptors that are still counted. -/

namespace BcmPlatform.Bomx
namespace InputSide
variable {s s' : InputSide} {b : BufferId}

/-! ### Accepting a buffer -/

theorem Accounting.prepared (h : Accounting s) (hp : Prepared b s s') : Accounting s' := by
  have hsame : ∀ c, (s'.buffer c).complete = (s.buffer c).complete ∧
      (s'.buffer c).numDescriptors = (s.buffer c).numDescriptors := by
    intro c
    by_cases hcb : c = b
    · rw [hcb]
      exact ⟨hp.complete, hp.numDescriptors⟩
    · rw [hp.other c hcb]
      exact ⟨rfl, rfl⟩
  refine h.congr (by rw [hp.port]) (fun c _ => (hsame c).1) (fun c _ => (hsame c).2) ?_ ?_ ?_ ?_
  · rw [hp.rest]
  · rw [hp.rest]
  · rw [hp.rest]
    exact h.closed
  · rw [hp.rest]
    exact fun a ha => .inl ha

theorem Accounting.setBuffer (h : Accounting s) (hb : b ∉ s.port.bufferQueue) (info : InputBuffer) :
    Accounting (s.setBuffer b info) := by
  have hsame : ∀ c ∈ s.port.bufferQueue, (s.setBuffer b info).buffer c = s.buffer c := by
    intro c hc
    have hne : c ≠ b := fun heq => hb (heq ▸ hc)
    simp [InputSide.setBuffer, hne]
  exact h.congr rfl (fun c hc => by rw [hsame c hc]) (fun c hc => by rw [hsame c hc]) rfl (List.suffix_refl _) h.closed
    fun a ha => .inl ha

theorem Accounting.enqueue (h : Accounting s) {port : Port} (hq : port.bufferQueue = s.port.bufferQueue ++ [b])
    (hn : (s.buffer b).numDescriptors = 0) (hc : (s.buffer b).complete = false) : Accounting { s with port } := by
  have hout : ({ s with port } : InputSide).outstanding = s.outstanding := by
    simp [outstanding, pending, hq, hn, hc]
  refine ⟨?_, ?_, ?_, h.closed, h.asserts⟩
  · change port.bufferQueue.Pairwise _
    rw [hq, List.pairwise_append]
    refine ⟨h.ordered, List.pairwise_singleton _ _, fun x _ y hy hcomplete => ?_⟩
    rw [List.mem_singleton.mp hy, hc] at hcomplete
    cases hcomplete
  · rw [hout]
    exact h.submitted
  · rw [hout]
    exact h.fifo

theorem outstanding_last {pre : List BufferId} (hq : s.port.bufferQueue = pre ++ [b])
    (hc : (s.buffer b).complete = false) : s.outstanding =
      ((pre.filter fun c => !(s.buffer c).complete).flatMap fun c => List.replicate (s.buffer c).numDescriptors c) ++
        List.replicate (s.buffer b).numDescriptors b := by
  simp [outstanding, pending, hq, hc]

theorem outstanding_more {pre : List BufferId} {n : Nat} (hq : s.port.bufferQueue = pre ++ [b])
    (hc : (s.buffer b).complete = false) (hport : s'.port = s.port) (hother : ∀ c, c ≠ b → s'.buffer c = s.buffer c)
    (hc' : (s'.buffer b).complete = false)
    (hn : (s'.buffer b).numDescriptors = (s.buffer b).numDescriptors + n) :
    s'.outstanding = s.outstanding ++ List.replicate n b := by
  have hpre : ∀ c ∈ pre, s'.buffer c = s.buffer c := by
    have hnodup := s.port.nodup_queue
    rw [hq] at hnodup
    intro c hmem
    refine hother c fun hcb => ?_
    exact (List.nodup_append.mp hnodup).2.2 c hmem b (List.mem_singleton_self b) hcb
  have hfilter : pre.filter (fun c => !(s'.buffer c).complete) = pre.filter fun c => !(s.buffer c).complete :=
    List.filter_congr fun c hmem => by rw [hpre c hmem]
  rw [outstanding_last (by rw [hport, hq]) hc', outstanding_last hq hc, hfilter, hn, List.replicate_add,
    List.append_assoc, List.flatMap_def, List.flatMap_def]
  rw [List.map_congr_left fun c hmem => by rw [hpre c (List.mem_of_mem_filter hmem)]]

theorem Accounting.sent (h : Accounting s) {pre : List BufferId} {n : Nat} (hq : s.port.bufferQueue = pre ++ [b])
    (hc : (s.buffer b).complete = false) (hsent : Sent b n s s') : Accounting s' := by
  have hcomplete : ∀ c, (s'.buffer c).complete = (s.buffer c).complete := by
    intro c
    by_cases hcb : c = b
    · rw [hcb, hsent.complete]
    · rw [hsent.other c hcb]
  have hout := outstanding_more hq hc hsent.port hsent.other (by rw [hsent.complete, hc]) hsent.numDescriptors
  refine ⟨?_, ?_, ?_, ?_, ?_⟩
  · rw [hsent.port]
    refine h.ordered.imp fun {x y} hxy hy => ?_
    rw [hcomplete x]
    exact hxy ((hcomplete y).symm.trans hy)
  · rw [hout, hsent.submitted, h.submitted, List.length_append, List.length_replicate]
  · rw [hout, hsent.descFifo]
    obtain ⟨consumed, heq⟩ := h.fifo
    exact ⟨consumed, by rw [← heq, List.append_assoc]⟩
  · intro hclosed
    rw [hsent.rest] at hclosed
    rw [hsent.opened] at hclosed
    cases hclosed
  · rw [hsent.rest]
    exact h.asserts

theorem queueBuffer_ok {p : Port} (hl : b ∈ p.bufferList) (hb : b ∉ p.bufferQueue) :
    ∃ port, p.queueBuffer b = .ok port ∧ port.bufferQueue = p.bufferQueue ++ [b] := by
  simp [Port.queueBuffer, hl, hb]

theorem inputBufferNew_asserts {a : InputAssert} (h : a ∈ s.inputBufferNew.asserts) :
    a ∈ s.asserts ∨ a = .bufferAvailable := by
  have h' : a ∈ (s.alogAssert (s.availInputBuffers > 0) .bufferAvailable).asserts := h
  exact alogAssert_asserts h'

theorem inputBufferNew_rest : s.inputBufferNew =
    { s with availInputBuffers := s.inputBufferNew.availInputBuffers, asserts := s.inputBufferNew.asserts } := by
  simp only [inputBufferNew, alogAssert]
  split <;> rfl

theorem Accounting.queueInputBuffer {port : Port} (hport : s.port.queueBuffer b = .ok port)
    (h : Accounting { s with port }) :
    Accounting (s.queueInputBuffer b).1 ∧ (s.queueInputBuffer b).1.port = port ∧
      (s.queueInputBuffer b).1.buffer = s.buffer := by
  have hrest := inputBufferNew_rest (s := s)
  have hnew : (s.queueInputBuffer b).1 = { s.inputBufferNew with port } := by
    simp only [InputSide.queueInputBuffer]
    rw [show s.inputBufferNew.port = s.port by rw [hrest], hport]
  rw [hnew]
  refine ⟨?_, rfl, by rw [hrest]⟩
  refine h.congr rfl (fun c _ => by rw [hrest]) (fun c _ => by rw [hrest]) (by rw [hrest]) ?_ ?_ ?_
  · rw [hrest]
  · rw [hrest]
    exact h.closed
  · intro a ha
    rcases inputBufferNew_asserts ha with ha | ha
    · exact .inl ha
    · exact .inr (.inl ha)

theorem Accounting.fed (h : Accounting s) (hl : b ∈ s.port.bufferList) (hb : b ∉ s.port.bufferQueue)
    (hn : (s.buffer b).numDescriptors = 0) (hc : (s.buffer b).complete = false) (hf : Fed b s s') :
    Accounting s' := by
  -- until it is queued, the buffer counts as if it were
  obtain ⟨port, hport, hqueue⟩ := queueBuffer_ok hl hb
  have hsubmitted : ∀ {s₁ s₂ : InputSide}, Prepared b s s₁ → Submitted b s₁ s₂ → s₂.port = s.port ∧
      (s₂.buffer b).complete = false ∧ Accounting { s₂ with port } := by
    intro s₁ s₂ hp hs
    have hacc : Accounting { s₁ with port } :=
      (h.prepared hp).enqueue (by rw [hqueue, hp.port]) (by rw [hp.numDescriptors, hn]) (by rw [hp.complete, hc])
    rcases hs with rfl | ⟨n, hsub⟩
    · exact ⟨hp.port, by rw [hp.complete, hc], hacc⟩
    · have hsent : Sent b n { s₁ with port } { s₂ with port } :=
        ⟨hsub.opened, hsub.other, hsub.numDescriptors, hsub.complete, hsub.maxHeaderLen, hsub.descFifo, hsub.submitted, by rw [hsub.rest]⟩
      refine ⟨hsub.port.trans hp.port, by rw [hsub.complete, hp.complete, hc], ?_⟩
      exact hacc.sent hqueue (by rw [← hc, ← hp.complete]) hsent
  cases hf with
  | dropped hp => exact h.prepared hp
  | queued hp hs =>
    obtain ⟨hsame, -, hacc⟩ := hsubmitted hp hs
    exact (Accounting.queueInputBuffer (by rw [hsame, hport]) hacc).1
  | ended hp hs hok hsub =>
    obtain ⟨hsame, hcomplete, hacc⟩ := hsubmitted hp hs
    obtain ⟨hacc', hport', hbuffer⟩ := Accounting.queueInputBuffer (by rw [hsame, hport]) hacc
    have hend := hacc'.sent (by rw [hport', hqueue]) (by rw [hbuffer, hcomplete]) hsub
    exact hend.congr rfl (fun _ _ => rfl) (fun _ _ => rfl) rfl (List.suffix_refl _) hend.closed fun a ha => .inl ha

theorem Accounting.emptyBuffer (h : Accounting s) (hl : b ∈ s.port.bufferList) (hb : b ∉ s.port.bufferQueue)
    {size : Nat} {frame : InputSide → InputSide × OmxError} {eosAccepted : Bool}
    (hsize : size ≤ codecConfigBufferSize) (hframe : FrameFed b frame) :
    Accounting (s.emptyBuffer size frame eosAccepted b).1 := by
  by_cases haccept : headerAccepted (s.buffer b).header = true
  · have hreset : Accounting (s.resetBuffer b) := h.setBuffer hb _
    exact hreset.fed hl hb (by simp [resetBuffer, InputSide.setBuffer]) (by simp [resetBuffer, InputSide.setBuffer])
      (emptyBuffer_fed hsize hframe haccept)
  · simp only [InputSide.emptyBuffer, haccept, Bool.not_false, if_true]
    exact h

/-! ### Flush -/

theorem Accounting.submitted_eq_zero (h : Accounting s)
    (hall : ∀ c ∈ s.port.bufferQueue, (s.buffer c).complete = true) : s.submittedDescriptors = 0 := by
  have hnil : s.pending = [] := by
    rw [pending, List.filter_eq_nil_iff]
    intro c hc
    simp [hall c hc]
  rw [h.submitted, outstanding, hnil]
  rfl

theorem Accounting.descFifo_eq_nil (h : Accounting s) (hs : s.submittedDescriptors = 0) : s.descFifo = [] := by
  have hle := h.descFifo_le
  rw [hs] at hle
  exact List.length_eq_zero_iff.mp (Nat.le_zero.mp hle)

/-- Nothing that is counted is dropped: the flush goes through a started playpump, or nothing is submitted. -/
def FlushAccounted (s : InputSide) : Prop :=
  s.hPlaypump = true →
    (s.port.isEnabled = true ∧ s.port.isPopulated = true ∧ s.playpumpStarted = true) ∨ s.submittedDescriptors = 0

theorem Accounting.returnPortBuffers (h : Accounting s) (hs : s.submittedDescriptors = 0) :
    Accounting s.returnPortBuffers := by
  have he := returnPortBuffers_emptied s
  have hfifo := h.descFifo_eq_nil hs
  refine .of_empty he.queue ?_ ?_ ?_
  · rw [he.rest]
    exact hs
  · rw [he.rest]
    exact hfifo
  · rw [he.rest]
    exact h.asserts

theorem Accounting.flushed (h : Accounting s) (hflush : s.inputFlushing = true) (fifoPts : Option Nat)
    (hok : (s.hPlaypump = true ∧ s.playpumpStarted = true ∧ s.descFifo = []) ∨ s.submittedDescriptors = 0) :
    (s.playpumpEvent fifoPts).submittedDescriptors = 0 := by
  have hevent := h.playpumpEvent fifoPts
  by_cases hstarted : (s.hPlaypump && s.playpumpStarted) = true
  · have heq : s.playpumpEvent fifoPts = s.completeConsumed none := by
      simp [InputSide.playpumpEvent, hstarted, hflush]
    have hfifo : s.descFifo = [] := by
      rcases hok with ⟨-, -, hfifo⟩ | hs
      · exact hfifo
      · exact h.descFifo_eq_nil hs
    have hport : (s.completeConsumed none).port = s.port := by
      unfold InputSide.completeConsumed
      rw [(markComplete_marked none _ _ s).rest]
    rw [heq] at hevent ⊢
    refine hevent.submitted_eq_zero fun c hc => ?_
    rw [hport] at hc
    exact (h.completeConsumed none).2 rfl hfifo c hc
  · have heq : s.playpumpEvent fifoPts = s := by simp [InputSide.playpumpEvent, hstarted]
    rw [heq]
    rcases hok with ⟨hopen, hstart, -⟩ | hs
    · exact absurd (by rw [hopen, hstart]; rfl) hstarted
    · exact hs

theorem Accounting.commandFlush (h : Accounting s) (stopped : Bool) (fifoPts : Option Nat) (hok : FlushAccounted s) :
    Accounting (s.commandFlush stopped fifoPts) := by
  simp only [InputSide.commandFlush]
  split
  · next hbranch =>
    have hopen : s.hPlaypump = true := by simp only [Bool.and_eq_true] at hbranch; exact hbranch.2
    -- the state in which the playpump event comes
    generalize hs₁ : ({ ({ s with inputFlushing := true } : InputSide).playpumpFlush stopped with
      eosPending := false, ptsReceived := false } : InputSide) = s₁
    have hfields : s₁.port = s.port ∧ s₁.buffer = s.buffer ∧ s₁.submittedDescriptors = s.submittedDescriptors ∧
        s₁.descFifo <:+ s.descFifo ∧ s₁.hPlaypump = s.hPlaypump ∧ s₁.playpumpStarted = s.playpumpStarted ∧
        s₁.asserts = s.asserts ∧ s₁.inputFlushing = true ∧ (s.playpumpStarted = true → s₁.descFifo = []) := by
      rw [← hs₁]
      simp only [playpumpFlush]
      split
      · exact ⟨rfl, rfl, rfl, List.nil_suffix, rfl, rfl, rfl, rfl, fun _ => rfl⟩
      · next hstart => exact ⟨rfl, rfl, rfl, List.suffix_refl _, rfl, rfl, rfl, rfl, fun h => absurd h (by simp_all)⟩
    obtain ⟨hport, hbuffer, hsub, hfifo, hpump, hstarted, hasserts, hflush, hempty⟩ := hfields
    have h₁ : Accounting s₁ := h.congr (by rw [hport]) (fun c _ => by rw [hbuffer]) (fun c _ => by rw [hbuffer]) hsub
      hfifo (by rw [hpump, hsub]; exact h.closed) (by rw [hasserts]; exact fun a ha => .inl ha)
    have hzero : (s₁.playpumpEvent fifoPts).submittedDescriptors = 0 := by
      refine h₁.flushed hflush fifoPts ?_
      rcases hok hopen with ⟨-, -, hstart⟩ | hzero
      · exact .inl ⟨by rw [hpump, hopen], by rw [hstarted, hstart], hempty hstart⟩
      · exact .inr (by rw [hsub, hzero])
    have hassert : (s₁.playpumpEvent fifoPts).alogAssert
        ((s₁.playpumpEvent fifoPts).submittedDescriptors = 0) .noneSubmittedAfterFlush = s₁.playpumpEvent fifoPts := by
      simp [alogAssert, hzero]
    rw [hassert]
    have h₂ := (h₁.playpumpEvent fifoPts).returnInputBuffers 0 .all
    exact h₂.congr rfl (fun _ _ => rfl) (fun _ _ => rfl) rfl (List.suffix_refl _) h₂.closed fun a ha => .inl ha
  · next hbranch =>
    refine h.returnPortBuffers ?_
    by_cases hopen : s.hPlaypump = true
    · rcases hok hopen with ⟨henabled, hpopulated, -⟩ | hzero
      · exact absurd (by rw [henabled, hpopulated, hopen]; rfl) hbranch
      · exact hzero
    · exact h.closed (by simpa using hopen)

/-! ### Buffers and state changes -/

theorem Accounting.consume (h : Accounting s) (n : Nat) : Accounting (s.consume n) :=
  h.congr rfl (fun _ _ => rfl) (fun _ _ => rfl) rfl (List.drop_suffix n _) h.closed fun _ ha => .inl ha

theorem Accounting.setPort (h : Accounting s) {port : Port} (hq : port.bufferQueue = s.port.bufferQueue) :
    Accounting { s with port } :=
  h.congr hq (fun _ _ => rfl) (fun _ _ => rfl) rfl (List.suffix_refl _) h.closed fun _ ha => .inl ha

theorem Accounting.addInputPortBuffer (h : Accounting s) (maxHeaderLen nSizeBytes : Nat) (componentAllocated : Bool) :
    Accounting (s.addInputPortBuffer maxHeaderLen b nSizeBytes componentAllocated).1 := by
  simp only [InputSide.addInputPortBuffer]
  split
  · exact h
  · next hnew =>
    split
    · exact h
    · next port hport =>
      have hb : b ∉ s.port.bufferQueue := fun hmem => hnew (s.port.queued b hmem)
      exact (h.setBuffer hb _).setPort (Port.Added.of_ok hport).bufferQueue

theorem Accounting.freeBuffer (h : Accounting s) : Accounting (s.freeBuffer b).1 := by
  simp only [InputSide.freeBuffer]
  split
  · exact h
  · next port hport =>
    exact h.setPort (Port.Removed.of_ok hport).bufferQueue

theorem Accounting.openPlaypump (h : Accounting s) : Accounting s.openPlaypump :=
  h.congr rfl (fun _ _ => rfl) (fun _ _ => rfl) rfl List.nil_suffix (fun hclosed => by cases hclosed) fun _ ha => .inl ha

theorem Accounting.start (h : Accounting s) (hs : s.submittedDescriptors = 0) : Accounting s.start :=
  h.congr rfl (fun _ _ => rfl) (fun _ _ => rfl) hs.symm (List.suffix_refl _) (fun _ => rfl) fun _ ha => .inl ha

theorem Accounting.stop (h : Accounting s) : Accounting s.stop := by
  refine .of_empty (returnPortBuffers_emptied _).queue rfl ?_ ?_
  · simp only [InputSide.stop]
    rw [(returnPortBuffers_emptied _).rest]
    rfl
  · simp only [InputSide.stop]
    rw [(returnPortBuffers_emptied _).rest]
    exact h.asserts

theorem Accounting.release (h : Accounting s) : Accounting s.release.returnPortBuffers := by
  have he := returnPortBuffers_emptied s.release
  refine .of_empty he.queue ?_ ?_ ?_
  · rw [he.rest]
    rfl
  · rw [he.rest]
    rfl
  · rw [he.rest]
    exact h.asserts

end InputSide
end BcmPlatform.Bomx
