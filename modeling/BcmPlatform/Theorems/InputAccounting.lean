import BcmPlatform.Theorems.InputReturn

/-! Descriptor accounting. The descriptors that were submitted and not yet counted as consumed are those of the queued
    buffers that are not complete, in queue order; what is left in the playpump's FIFO are the last of them. Each
    operation of the input side keeps this, as long as buffers are submitted by a client that owns them. -/

namespace BcmPlatform.Bomx
namespace InputSide

/-- The queued buffers that are not complete. -/
def pending (s : InputSide) : List BufferId := s.port.bufferQueue.filter fun b => !(s.buffer b).complete

/-- Their descriptors, each by the buffer it belongs to. -/
def outstanding (s : InputSide) : List BufferId :=
  s.pending.flatMap fun b => List.replicate (s.buffer b).numDescriptors b

structure Accounting (s : InputSide) : Prop where
  ordered : s.port.bufferQueue.Pairwise fun a b => (s.buffer b).complete = true → (s.buffer a).complete = true
  submitted : s.submittedDescriptors = s.outstanding.length
  fifo : s.descFifo <:+ s.outstanding
  closed : s.hPlaypump = false → s.submittedDescriptors = 0
  asserts : .submittedCoversBuffer ∉ s.asserts ∧ .noneSubmittedAfterFlush ∉ s.asserts

/-- The assertions that are about available buffers and not about descriptors. -/
def AvailAssert (a : InputAssert) : Prop := a = .bufferAvailable ∨ a = .availableWithinTotal

section
variable {s s' : InputSide} {b : BufferId}

theorem pending_congr (hq : s'.port.bufferQueue = s.port.bufferQueue)
    (hb : ∀ b ∈ s.port.bufferQueue, (s'.buffer b).complete = (s.buffer b).complete) : s'.pending = s.pending := by
  unfold pending
  rw [hq]
  exact List.filter_congr fun b h => by rw [hb b h]

theorem outstanding_congr (hp : s'.pending = s.pending)
    (hn : ∀ b ∈ s.pending, (s'.buffer b).numDescriptors = (s.buffer b).numDescriptors) :
    s'.outstanding = s.outstanding := by
  unfold outstanding
  rw [hp]
  simp only [List.flatMap]
  rw [List.map_congr_left fun b h => by rw [hn b h]]

theorem Accounting.congr (h : Accounting s) (hq : s'.port.bufferQueue = s.port.bufferQueue)
    (hc : ∀ b ∈ s.port.bufferQueue, (s'.buffer b).complete = (s.buffer b).complete)
    (hn : ∀ b ∈ s.port.bufferQueue, (s'.buffer b).numDescriptors = (s.buffer b).numDescriptors)
    (hs : s'.submittedDescriptors = s.submittedDescriptors) (hf : s'.descFifo <:+ s.descFifo)
    (hp : s'.hPlaypump = false → s'.submittedDescriptors = 0)
    (ha : ∀ a ∈ s'.asserts, a ∈ s.asserts ∨ AvailAssert a) : Accounting s' := by
  have hpend := pending_congr hq hc
  have hout : s'.outstanding = s.outstanding :=
    outstanding_congr hpend fun b hb => hn b (List.mem_of_mem_filter hb)
  refine ⟨?_, ?_, ?_, hp, ?_⟩
  · rw [hq]
    refine h.ordered.imp_of_mem fun {a b} hma hmb hab => ?_
    rw [hc a hma, hc b hmb]
    exact hab
  · rw [hs, hout, h.submitted]
  · rw [hout]
    exact hf.trans h.fifo
  · constructor
    · intro hmem
      rcases ha _ hmem with hmem | hmem | hmem
      · exact h.asserts.1 hmem
      · cases hmem
      · cases hmem
    · intro hmem
      rcases ha _ hmem with hmem | hmem | hmem
      · exact h.asserts.2 hmem
      · cases hmem
      · cases hmem

theorem Accounting.of_empty (hq : s.port.bufferQueue = []) (hs : s.submittedDescriptors = 0) (hf : s.descFifo = [])
    (ha : .submittedCoversBuffer ∉ s.asserts ∧ .noneSubmittedAfterFlush ∉ s.asserts) : Accounting s := by
  have hout : s.outstanding = [] := by simp [outstanding, pending, hq]
  exact ⟨by simp [hq], by simp [hs, hout], by simp [hf], fun _ => hs, ha⟩

theorem Accounting.descFifo_le (h : Accounting s) : s.descFifo.length ≤ s.submittedDescriptors := by
  rw [h.submitted]
  exact h.fifo.length_le

theorem Accounting.notMem_descFifo (h : Accounting s) (hc : (s.buffer b).complete = true) : b ∉ s.descFifo := by
  intro hb
  obtain ⟨c, hmem, hrep⟩ := List.mem_flatMap.mp (h.fifo.mem hb)
  rw [List.eq_of_mem_replicate hrep] at hc
  simpa [hc] using (List.mem_filter.mp hmem).2

/-! ### Returned buffers -/

theorem Returned.pending_eq {k : Nat} (h : Returned k s s')
    (hall : ∀ b ∈ s.port.bufferQueue.take k, (s.buffer b).complete = true) : s'.pending = s.pending := by
  have hnil : (s.port.bufferQueue.take k).filter (fun b => !(s.buffer b).complete) = [] := by
    rw [List.filter_eq_nil_iff]
    intro b hb
    simp [hall b hb]
  have hsplit : s.pending = (s.port.bufferQueue.take k ++ s.port.bufferQueue.drop k).filter
      fun b => !(s.buffer b).complete := by rw [List.take_append_drop]; rfl
  rw [hsplit, List.filter_append, hnil, List.nil_append, pending, h.queue, h.buffer]

theorem Accounting.of_returned {k : Nat} (h : Accounting s) (hr : Returned k s s')
    (hall : ∀ b ∈ s.port.bufferQueue.take k, (s.buffer b).complete = true) : Accounting s' := by
  have hout : s'.outstanding = s.outstanding := by
    unfold outstanding
    rw [hr.pending_eq hall, hr.buffer]
  refine ⟨?_, ?_, ?_, ?_, ?_⟩
  · rw [hr.queue, hr.buffer]
    exact h.ordered.sublist (List.drop_sublist _ _)
  · rw [hr.submitted, hout, h.submitted]
  · rw [hr.descFifo, hout]
    exact h.fifo
  · rw [hr.hPlaypump, hr.submitted]
    exact h.closed
  · constructor <;> intro hmem <;> rcases hr.asserts _ hmem with hmem | hmem
    · exact h.asserts.1 hmem
    · cases hmem
    · exact h.asserts.2 hmem
    · cases hmem

theorem Accounting.returnInputBuffers (h : Accounting s) (ticks : Ticks) (mode : ReturnMode) :
    Accounting (s.returnInputBuffers ticks mode) := by
  obtain ⟨k, hr, hall⟩ := returnInputBuffers_returned ticks mode s
  exact h.of_returned hr hall

/-! ### The playpump's progress -/

/-- One buffer is marked complete. -/
def markOne (b : BufferId) (s : InputSide) : InputSide :=
  let n := (s.buffer b).numDescriptors
  let s := s.alogAssert (s.submittedDescriptors ≥ n) .submittedCoversBuffer
  let s := { s with submittedDescriptors := sub32 s.submittedDescriptors n }
  s.setBuffer b { s.buffer b with complete := true }

theorem markComplete_cons (head : Option BufferId) (b : BufferId) (rest : List BufferId) (n : Nat) (s : InputSide) :
    markComplete head (b :: rest) n s =
      if some b = head then s
      else if (s.buffer b).complete then markComplete head rest n s
      else if n ≥ (s.buffer b).numDescriptors then
        markComplete head rest (n - (s.buffer b).numDescriptors) (s.markOne b)
      else s := rfl

theorem markOne_port : (s.markOne b).port = s.port := by
  simp only [markOne, setBuffer, alogAssert]
  split <;> rfl

theorem markOne_buffer_of_ne {c : BufferId} (hne : c ≠ b) : (s.markOne b).buffer c = s.buffer c := by
  simp only [markOne, setBuffer, alogAssert]
  split <;> simp [hne]

theorem pending_of_first {pre rest : List BufferId} (hq : s.port.bufferQueue = pre ++ b :: rest)
    (hpre : ∀ c ∈ pre, (s.buffer c).complete = true) (hb : (s.buffer b).complete = false) :
    s.pending = b :: rest.filter fun c => !(s.buffer c).complete := by
  have hnil : pre.filter (fun c => !(s.buffer c).complete) = [] := by
    rw [List.filter_eq_nil_iff]
    intro c hc
    simp [hpre c hc]
  simp [pending, hq, hnil, hb]

theorem markOne_eq (hn : (s.buffer b).numDescriptors ≤ s.submittedDescriptors) :
    s.markOne b = { s with
      submittedDescriptors := s.submittedDescriptors - (s.buffer b).numDescriptors
      buffer := Function.update s.buffer b { s.buffer b with complete := true } } := by
  simp [markOne, alogAssert, setBuffer, hn, sub32_of_le]

theorem markOne_complete {pre : List BufferId} (hpre : ∀ c ∈ pre, (s.buffer c).complete = true)
    (hn : (s.buffer b).numDescriptors ≤ s.submittedDescriptors) :
    ∀ c ∈ pre ++ [b], ((s.markOne b).buffer c).complete = true := by
  intro c hc
  by_cases hcb : c = b
  · simp [markOne_eq hn, hcb]
  · rw [markOne_buffer_of_ne hcb]
    rcases List.mem_append.mp hc with hc | hc
    · exact hpre c hc
    · exact absurd (List.mem_singleton.mp hc) hcb

theorem not_mem_rest {pre rest : List BufferId} (hq : s.port.bufferQueue = pre ++ b :: rest) :
    ∀ c ∈ rest, c ≠ b := by
  have hnodup := s.port.nodup_queue
  rw [hq] at hnodup
  rintro c hc rfl
  exact (List.nodup_cons.mp (List.nodup_append.mp hnodup).2.1).1 hc

theorem outstanding_markOne {pre rest : List BufferId} (hq : s.port.bufferQueue = pre ++ b :: rest)
    (hpre : ∀ c ∈ pre, (s.buffer c).complete = true) (hb : (s.buffer b).complete = false)
    (hn : (s.buffer b).numDescriptors ≤ s.submittedDescriptors) :
    s.outstanding = List.replicate (s.buffer b).numDescriptors b ++ (s.markOne b).outstanding := by
  have hother : ∀ c ∈ rest, (s.markOne b).buffer c = s.buffer c := fun c hc =>
    markOne_buffer_of_ne (not_mem_rest hq c hc)
  have hpend' : (s.markOne b).pending = rest.filter fun c => !(s.buffer c).complete := by
    have hnil : (pre ++ [b]).filter (fun c => !((s.markOne b).buffer c).complete) = [] := by
      rw [List.filter_eq_nil_iff]
      intro c hc
      simp [markOne_complete hpre hn c hc]
    have hq' : (s.markOne b).port.bufferQueue = (pre ++ [b]) ++ rest := by
      rw [markOne_port, hq]
      simp
    rw [pending, hq', List.filter_append, hnil, List.nil_append]
    exact List.filter_congr fun c hc => by rw [hother c hc]
  have hsame : (s.markOne b).outstanding = (rest.filter fun c => !(s.buffer c).complete).flatMap
      fun c => List.replicate (s.buffer c).numDescriptors c := by
    unfold outstanding
    rw [hpend']
    simp only [List.flatMap]
    rw [List.map_congr_left fun c hc => by rw [hother c (List.mem_of_mem_filter hc)]]
  rw [hsame, outstanding, pending_of_first hq hpre hb, List.flatMap_cons]

theorem markOne_accounting (h : Accounting s) {pre rest : List BufferId}
    (hq : s.port.bufferQueue = pre ++ b :: rest) (hpre : ∀ c ∈ pre, (s.buffer c).complete = true)
    (hb : (s.buffer b).complete = false)
    (hn : (s.buffer b).numDescriptors + s.descFifo.length ≤ s.submittedDescriptors) : Accounting (s.markOne b) := by
  have hcovered : (s.buffer b).numDescriptors ≤ s.submittedDescriptors := by omega
  have hmark := markOne_eq (s := s) (b := b) hcovered
  have hother : ∀ c ∈ rest, (s.markOne b).buffer c = s.buffer c := fun c hc =>
    markOne_buffer_of_ne (not_mem_rest hq c hc)
  have hpre' := markOne_complete (b := b) hpre hcovered
  have hout := outstanding_markOne hq hpre hb hcovered
  have hlen := h.submitted
  rw [hout, List.length_append, List.length_replicate] at hlen
  have hfifo : (s.markOne b).descFifo = s.descFifo := by rw [hmark]
  have hsub : (s.markOne b).submittedDescriptors = s.submittedDescriptors - (s.buffer b).numDescriptors := by
    rw [hmark]
  refine ⟨?_, ?_, ?_, ?_, ?_⟩
  · have hord := h.ordered
    rw [hq] at hord
    have hq' : (s.markOne b).port.bufferQueue = (pre ++ [b]) ++ rest := by
      rw [markOne_port, hq]
      simp
    rw [hq', List.pairwise_append]
    refine ⟨List.pairwise_of_forall_mem_list fun x hx y _ _ => hpre' x hx, ?_, fun x hx y _ _ => hpre' x hx⟩
    refine (List.pairwise_cons.mp (List.pairwise_append.mp hord).2.1).2.imp_of_mem fun {x y} hx hy hxy => ?_
    rw [hother x hx, hother y hy]
    exact hxy
  · rw [hsub]
    omega
  · rw [hfifo]
    have hsuf := h.fifo
    rw [hout] at hsuf
    exact List.suffix_of_suffix_length_le hsuf (List.suffix_append _ _) (by omega)
  · intro hp
    have hclosed := h.closed (by rw [hmark] at hp; exact hp)
    rw [hsub]
    omega
  · rw [hmark]
    exact h.asserts

/-- The loop changes flags and counts and nothing else. -/
structure Marked (s s' : InputSide) : Prop where
  maxHeaderLen : ∀ b, (s'.buffer b).maxHeaderLen = (s.buffer b).maxHeaderLen
  asserts : ∀ a ∈ s'.asserts, a ∈ s.asserts ∨ a = .submittedCoversBuffer
  rest : s' = { s with buffer := s'.buffer, submittedDescriptors := s'.submittedDescriptors, asserts := s'.asserts }

theorem Marked.refl (s : InputSide) : Marked s s := ⟨fun _ => rfl, fun _ ha => .inl ha, rfl⟩

theorem Marked.trans {s s' s'' : InputSide} (h : Marked s s') (h' : Marked s' s'') : Marked s s'' := by
  refine ⟨fun b => (h'.maxHeaderLen b).trans (h.maxHeaderLen b), ?_, ?_⟩
  · intro a ha
    rcases h'.asserts a ha with ha | ha
    · exact h.asserts a ha
    · exact .inr ha
  · rw [h'.rest]
    conv_lhs => rw [h.rest]

theorem Marked.outline {s s' : InputSide} (h : Marked s s') : s'.outline = s.outline := by
  rw [h.rest]
  rfl

theorem markOne_marked (b : BufferId) (s : InputSide) : Marked s (s.markOne b) := by
  refine ⟨fun c => ?_, ?_, ?_⟩
  · by_cases hcb : c = b
    · rw [hcb]
      simp only [markOne, setBuffer, alogAssert]
      split <;> simp
    · rw [markOne_buffer_of_ne hcb]
  · exact fun a ha => alogAssert_asserts (s := s) ha
  · simp only [markOne, setBuffer, alogAssert]
    split <;> rfl

theorem markComplete_marked (head : Option BufferId) : ∀ (l : List BufferId) (n : Nat) (s : InputSide),
    Marked s (markComplete head l n s) := by
  intro l
  induction l with
  | nil => exact fun n s => .refl s
  | cons b rest ih =>
    intro n s
    rw [markComplete_cons]
    split
    · exact .refl s
    · split
      · exact ih n s
      · split
        · exact (markOne_marked b s).trans (ih _ _)
        · exact .refl s

theorem playpumpEvent_marked (fifoPts : Option Nat) (s : InputSide) : Marked s (s.playpumpEvent fifoPts) := by
  simp only [InputSide.playpumpEvent, InputSide.completeConsumed]
  split
  · exact markComplete_marked _ _ _ s
  · exact .refl s

/-- The loop keeps the accounting. Behind it lie complete buffers only, and what it has left to count are the
    consumed descriptors of the buffers before it. -/
theorem markComplete_accounting (head : Option BufferId) : ∀ (l : List BufferId) (n : Nat) (s : InputSide)
    (pre : List BufferId), Accounting s → s.port.bufferQueue = pre ++ l →
      (∀ c ∈ pre, (s.buffer c).complete = true) → n + s.descFifo.length = s.submittedDescriptors →
      Accounting (markComplete head l n s) ∧ (head = none → s.descFifo = [] →
        ∀ c ∈ s.port.bufferQueue, ((markComplete head l n s).buffer c).complete = true) := by
  intro l
  induction l with
  | nil =>
    intro n s pre h hq hpre _
    exact ⟨h, fun _ _ c hc => hpre c (by simpa [hq] using hc)⟩
  | cons b rest ih =>
    intro n s pre h hq hpre hn
    have hq' : s.port.bufferQueue = (pre ++ [b]) ++ rest := by simp [hq]
    rw [markComplete_cons]
    split
    · next hhead => exact ⟨h, fun hnone => by simp [hnone] at hhead⟩
    · split
      · next hb =>
        refine ih n s (pre ++ [b]) h hq' ?_ hn
        intro c hc
        rcases List.mem_append.mp hc with hc | hc
        · exact hpre c hc
        · rw [List.mem_singleton.mp hc, hb]
      · next hb =>
        have hb : (s.buffer b).complete = false := by simpa using hb
        split
        · next hge =>
          have hacc := markOne_accounting h hq hpre hb (by omega)
          have hmark := markOne_eq (s := s) (b := b) (by omega)
          have hport := markOne_port (s := s) (b := b)
          have hdone := markOne_complete (b := b) hpre (by omega)
          have hfifo : (s.markOne b).descFifo = s.descFifo := by rw [hmark]
          have hsub : (s.markOne b).submittedDescriptors = s.submittedDescriptors - (s.buffer b).numDescriptors := by
            rw [hmark]
          have hnext := ih (n - (s.buffer b).numDescriptors) (s.markOne b) (pre ++ [b]) hacc (by rw [hport, hq'])
            hdone (by rw [hfifo, hsub]; omega)
          rw [hfifo, hport] at hnext
          exact hnext
        · next hlt =>
          -- with an empty FIFO all of the first pending buffer's descriptors are consumed
          refine ⟨h, fun _ hnil => ?_⟩
          have hlen := h.submitted
          rw [outstanding, pending_of_first hq hpre hb, List.flatMap_cons, List.length_append,
            List.length_replicate] at hlen
          rw [hnil] at hn
          simp only [List.length_nil] at hn
          omega

theorem Accounting.completeConsumed (h : Accounting s) (head : Option BufferId) :
    Accounting (s.completeConsumed head) ∧ (head = none → s.descFifo = [] →
      ∀ c ∈ s.port.bufferQueue, ((s.completeConsumed head).buffer c).complete = true) := by
  have hle := h.descFifo_le
  exact markComplete_accounting head s.port.bufferQueue _ s [] h rfl (by simp) (by rw [sub32_of_le hle]; omega)

theorem Accounting.playpumpEvent (h : Accounting s) (fifoPts : Option Nat) : Accounting (s.playpumpEvent fifoPts) := by
  unfold InputSide.playpumpEvent
  split
  · exact (h.completeConsumed _).1
  · exact h

end

end InputSide
end BcmPlatform.Bomx
