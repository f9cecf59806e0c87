import BcmPlatform.Theorems.AudioDelivery

/-! An output buffer is Nexus's exactly while its block is in the decoder's queue, and then it is in the port's queue.
    Two branches of a poll break this: the one that delivers the end of the stream completes a buffer that Nexus holds,
    and the one after an end of stream that does not fit forgets that Nexus holds a block. So does `ReturnPortBuffers`
    while blocks are queued. -/

namespace BcmPlatform.Bomx
open Lib

namespace AudioOutput
variable {s s' : AudioOutput} {a : AudioAnswers} {r : AudioReport} {b c : BufferId}

/-- The flags are those of the buffers with a queued block; these are in the port's queue, and every block is queued once
    and belongs to one buffer. -/
structure Owned (s : AudioOutput) : Prop where
  owned : ∀ b ∈ s.d.outPort.bufferList, s.nexusOwned b = true ↔ s.hMemoryBlock b ∈ s.nexus.queue.map (·.block)
  queued : ∀ q ∈ s.nexus.queue, ∃ b ∈ s.d.outPort.bufferQueue, s.hMemoryBlock b = q.block
  distinct : ∀ b ∈ s.d.outPort.bufferList, ∀ c ∈ s.d.outPort.bufferList, s.hMemoryBlock b = s.hMemoryBlock c → b = c
  once : (s.nexus.queue.map (·.block)).Nodup
  asserts : s.asserts = []

namespace Owned

theorem congr (h : Owned s) (heq : s'.ledger = s.ledger) : Owned s' := by
  simp only [ledger, Prod.mk.injEq] at heq
  obtain ⟨howned, hblock, hqueue, -, -, hasserts, hlist, hport⟩ := heq
  refine ⟨?_, ?_, ?_, ?_, ?_⟩
  · rw [howned, hblock, hqueue, hlist]
    exact h.owned
  · rw [hblock, hqueue, hport]
    exact h.queued
  · rw [hblock, hlist]
    exact h.distinct
  · rw [hqueue]
    exact h.once
  · rw [hasserts]
    exact h.asserts

theorem mem_queue (h : Owned s) (hb : b ∈ s.d.outPort.bufferList) (howned : s.nexusOwned b = true) :
    b ∈ s.d.outPort.bufferQueue := by
  obtain ⟨q, hq, hblock⟩ := List.mem_map.mp ((h.owned b hb).mp howned)
  obtain ⟨c, hc, hcblock⟩ := h.queued q hq
  rwa [h.distinct b hb c (s.d.outPort.queued c hc) (hblock.symm.trans hcblock.symm)]

theorem findBuffer (h : Owned s) {q : QueuedBlock} (hq : q ∈ s.nexus.queue) :
    ∃ b ∈ s.d.outPort.bufferQueue, s.hMemoryBlock b = q.block ∧ s.findBuffer q.block = some b := by
  obtain ⟨b, hb, hblock⟩ := h.queued q hq
  have hlist := s.d.outPort.queued b hb
  refine ⟨b, hb, hblock, ?_⟩
  cases hfind : s.findBuffer q.block with
  | none =>
    have hnone := List.find?_eq_none.mp hfind b hlist
    simp [hblock] at hnone
  | some c =>
    have hc : s.hMemoryBlock c = q.block := by simpa using List.find?_some hfind
    rw [h.distinct c (List.mem_of_find?_eq_some hfind) b hlist (hc.trans hblock.symm)]

/-! ### The queue grows -/

theorem queueBlock (h : Owned s) (hb : b ∈ s.d.outPort.bufferQueue) (hfree : s.nexusOwned b = false) :
    Owned (s.queueBlock b) := by
  have hlist := s.d.outPort.queued b hb
  have hnew : s.hMemoryBlock b ∉ s.nexus.queue.map (·.block) := fun hmem => by
    rw [(h.owned b hlist).mpr hmem] at hfree
    cases hfree
  have hmap : (s.queueBlock b).nexus.queue.map (·.block) = s.nexus.queue.map (·.block) ++ [s.hMemoryBlock b] := by
    simp [AudioOutput.queueBlock, setNexusOwned, NexusAudio.queueBuffer]
  refine ⟨fun c hc => ?_, fun q hq => ?_, h.distinct, ?_, h.asserts⟩
  · rw [hmap, List.mem_append, List.mem_singleton]
    by_cases hcb : c = b
    · subst hcb
      exact ⟨fun _ => .inr rfl, fun _ => Function.update_self _ _ _⟩
    · have hsame : (s.queueBlock b).nexusOwned c = s.nexusOwned c := Function.update_of_ne hcb _ _
      have hblock : s.hMemoryBlock c ≠ s.hMemoryBlock b := fun heq => hcb (h.distinct c hc b hlist heq)
      rw [hsame, h.owned c hc]
      exact ⟨.inl, fun hmem => hmem.resolve_right hblock⟩
  · rcases List.mem_append.mp hq with hq | hq
    · exact h.queued q hq
    · rw [List.mem_singleton.mp hq]
      exact ⟨b, hb, rfl⟩
  · rw [hmap, ← List.concat_eq_append, List.nodup_concat]
    exact ⟨hnew, h.once⟩

theorem addBlocks (accept : BufferId → Bool) : ∀ (l : List BufferId) {s : AudioOutput}, Owned s →
    (∀ b ∈ l, b ∈ s.d.outPort.bufferQueue) → Owned (s.addBlocks accept l)
  | [], _, h, _ => h
  | b :: rest, s, h, hl => by
    have hrest : ∀ c ∈ rest, c ∈ s.d.outPort.bufferQueue := fun c hc => hl c (List.mem_cons_of_mem b hc)
    simp only [AudioOutput.addBlocks]
    split
    · exact addBlocks accept rest h hrest
    · next hfree =>
      split
      · have hqueued := h.queueBlock (hl b List.mem_cons_self) (by simpa using hfree)
        exact addBlocks accept rest hqueued hrest
      · exact h

theorem grow (h : Owned s) {d : AudioDecoder} (hlist : d.outPort.bufferList = s.d.outPort.bufferList)
    (hqueue : ∀ b ∈ s.d.outPort.bufferQueue, b ∈ d.outPort.bufferQueue) : Owned { s with d } where
  owned b hb := h.owned b (hlist ▸ hb)
  queued q hq := by
    obtain ⟨b, hb, hblock⟩ := h.queued q hq
    exact ⟨b, hqueue b hb, hblock⟩
  distinct b hb c hc := h.distinct b (hlist ▸ hb) c (hlist ▸ hc)
  once := h.once
  asserts := h.asserts

theorem queueBuffer_grows (p : Port) (b : BufferId) : ((p.queueBuffer b).toOption.getD p).bufferList = p.bufferList ∧
    (∀ c ∈ p.bufferQueue, c ∈ ((p.queueBuffer b).toOption.getD p).bufferQueue) ∧
    (b ∈ p.bufferList → b ∈ ((p.queueBuffer b).toOption.getD p).bufferQueue) := by
  unfold Port.queueBuffer
  split
  · next hl => exact ⟨rfl, fun _ => id, fun hb => absurd hb hl⟩
  · split
    · next hq => exact ⟨rfl, fun _ => id, fun _ => hq⟩
    · exact ⟨rfl, fun c hc => List.mem_append_left _ hc, fun _ => List.mem_append_right _ (List.mem_singleton_self b)⟩

theorem fillThisBuffer (h : Owned s) {accepted : Bool} (hb : b ∈ s.d.outPort.bufferList)
    (hok : s.d.decoderState = .started → accepted = true → b ∉ s.d.outPort.bufferQueue) :
    Owned (s.fillThisBuffer accepted b) := by
  obtain ⟨hlist, hgrow, hmem⟩ := queueBuffer_grows s.d.outPort b
  have hfilled : Owned { s with d := s.d.fillThisBuffer accepted b } := by
    simp only [AudioDecoder.fillThisBuffer]
    split
    · exact h
    · exact h.grow hlist hgrow
  simp only [AudioOutput.fillThisBuffer]
  split
  · next htaken =>
    have hfree : s.nexusOwned b = false := by
      by_contra howned
      exact hok htaken.1 htaken.2 (h.mem_queue hb (by simpa using howned))
    have hport : b ∈ (s.d.fillThisBuffer accepted b).outPort.bufferQueue := by
      simp only [AudioDecoder.fillThisBuffer, htaken.2, Bool.not_true, Bool.and_false, Bool.false_eq_true, if_false]
      exact hmem hb
    exact hfilled.queueBlock hport hfree
  · exact hfilled

/-! ### The queue shrinks -/

theorem foldl_clearOwned : ∀ (l : List QueuedBlock) (s : AudioOutput) (c : BufferId),
    (l.foldl clearOwned s).nexusOwned c = true ↔
      s.nexusOwned c = true ∧ ∀ q ∈ l, s.findBuffer q.block ≠ some c
  | [], s, c => by simp
  | q :: rest, s, c => by
    have hfind : ∀ block, (s.clearOwned q).findBuffer block = s.findBuffer block := by
      intro block
      unfold clearOwned
      split <;> rfl
    have hclear : (s.clearOwned q).nexusOwned c = true ↔ s.nexusOwned c = true ∧ s.findBuffer q.block ≠ some c := by
      unfold clearOwned
      cases s.findBuffer q.block with
      | none => simp
      | some b =>
        by_cases hcb : c = b
        · subst hcb
          simp [setNexusOwned]
        · have hne : b ≠ c := fun heq => hcb heq.symm
          simp [setNexusOwned, Function.update_of_ne hcb, hne]
    rw [List.foldl_cons, foldl_clearOwned rest, hclear, List.forall_mem_cons, and_assoc]
    simp only [hfind]

theorem removeOutputBuffers (h : Owned s) : Owned (s.removeOutputBuffers a) := by
  simp only [AudioOutput.removeOutputBuffers]
  split
  · exact h
  · generalize min (s.nexus.queue.length - a.unreported) s.d.outPort.definition.nBufferCountActual = n
    have hflag := foldl_clearOwned (s.nexus.queue.take n) s
    rw [clearOwned_rest]
    have hcut : s.nexus.queue.take n ++ s.nexus.queue.drop n = s.nexus.queue := List.take_append_drop n _
    have honce := h.once
    rw [← hcut, List.map_append, List.nodup_append] at honce
    obtain ⟨-, honce, happart⟩ := honce
    refine ⟨fun c hc => ?_, fun q hq => h.queued q (List.mem_of_mem_drop hq), h.distinct, honce, h.asserts⟩
    rw [hflag, h.owned c hc]
    constructor
    · rintro ⟨hmem, hkept⟩
      obtain ⟨q, hq, hblock⟩ := List.mem_map.mp hmem
      rw [← hcut] at hq
      rcases List.mem_append.mp hq with hq | hq
      · obtain ⟨b, hb, hbblock, hfind⟩ := h.findBuffer (List.mem_of_mem_take hq)
        have hbc := h.distinct b (s.d.outPort.queued b hb) c hc (hbblock.trans hblock)
        exact absurd (hbc ▸ hfind) (hkept q hq)
      · exact List.mem_map.mpr ⟨q, hq, hblock⟩
    · intro hmem
      obtain ⟨q, hq, hblock⟩ := List.mem_map.mp hmem
      refine ⟨List.mem_map.mpr ⟨q, List.mem_of_mem_drop hq, hblock⟩, fun q' hq' hfind => ?_⟩
      have hblock' : s.hMemoryBlock c = q'.block := by simpa using List.find?_some hfind
      exact happart _ (List.mem_map_of_mem hq') _ (List.mem_map_of_mem hq) (hblock'.symm.trans hblock.symm)

theorem foldl_bufferComplete_list : ∀ (l : List BufferId) (p : Port), (l.foldl Port.bufferComplete p).bufferList = p.bufferList
  | [], _ => rfl
  | b :: rest, p => foldl_bufferComplete_list rest (p.bufferComplete b)

theorem returnPortBuffers_list : s.returnPortBuffers.d.outPort.bufferList = s.d.outPort.bufferList :=
  foldl_bufferComplete_list _ _

theorem returnPortBuffers (h : Owned s) (hempty : s.nexus.queue = []) : Owned s.returnPortBuffers where
  owned b hb := h.owned b (by rwa [returnPortBuffers_list] at hb)
  queued q hq := by
    have hq : q ∈ s.nexus.queue := hq
    rw [hempty] at hq
    cases hq
  distinct b hb c hc := h.distinct b (by rwa [returnPortBuffers_list] at hb) c (by rwa [returnPortBuffers_list] at hc)
  once := h.once
  asserts := h.asserts

/-! ### Buffers come and go -/

theorem addOutputBuffer_lists {d : AudioDecoder} :
    (∀ c ∈ (d.addOutputBuffer b false).outPort.bufferList, c ∈ d.outPort.bufferList ∨ c = b) ∧
      (d.addOutputBuffer b false).outPort.bufferQueue = d.outPort.bufferQueue := by
  simp only [AudioDecoder.addOutputBuffer]
  split
  · exact ⟨fun _ => .inl, rfl⟩
  · unfold Port.addBuffer
    split
    · exact ⟨fun _ => .inl, rfl⟩
    · split
      · exact ⟨fun _ => .inl, rfl⟩
      · refine ⟨fun c hc => ?_, rfl⟩
        rcases List.mem_append.mp hc with hc | hc
        · exact .inl hc
        · exact .inr (List.mem_singleton.mp hc)

theorem addOutputBuffer (h : Owned s) {block : Nat} (hqueue : ∀ q ∈ s.nexus.queue, q.block ≠ block)
    (hlist : ∀ c ∈ s.d.outPort.bufferList, s.hMemoryBlock c ≠ block) : Owned (s.addOutputBuffer b block) := by
  simp only [AudioOutput.addOutputBuffer]
  split
  · next hadded =>
    obtain ⟨hnew, -⟩ := hadded
    obtain ⟨hsub, hport⟩ := addOutputBuffer_lists (d := s.d) (b := b)
    have hother : ∀ c ∈ s.d.outPort.bufferList, c ≠ b := fun c hc heq => hnew (heq ▸ hc)
    refine ⟨fun c hc => ?_, fun q hq => ?_, fun c hc c' hc' heq => ?_, h.once, h.asserts⟩
    · rcases hsub c hc with hc | rfl
      · simp only [setNexusOwned, Function.update_of_ne (hother c hc)]
        exact h.owned c hc
      · simp only [setNexusOwned, Function.update_self, Bool.false_eq_true, false_iff, List.mem_map, not_exists, not_and]
        exact hqueue
    · obtain ⟨c, hc, hblock⟩ := h.queued q hq
      exact ⟨c, hport ▸ hc, (Function.update_of_ne (hother c (s.d.outPort.queued c hc)) _ _).trans hblock⟩
    · have hold : ∀ c ∈ s.d.outPort.bufferList, Function.update s.hMemoryBlock b block c = s.hMemoryBlock c :=
        fun c hc => Function.update_of_ne (hother c hc) _ _
      have hself : Function.update s.hMemoryBlock b block b = block := Function.update_self _ _ _
      rcases hsub c hc with hc | hc
      · rcases hsub c' hc' with hc' | hc'
        · exact h.distinct c hc c' hc' ((hold c hc).symm.trans (heq.trans (hold c' hc')))
        · rw [hc'] at heq
          exact absurd ((hold c hc).symm.trans (heq.trans hself)) (hlist c hc)
      · rcases hsub c' hc' with hc' | hc'
        · rw [hc] at heq
          exact absurd ((hold c' hc').symm.trans (heq.symm.trans hself)) (hlist c' hc')
        · rw [hc, hc']
  · exact h

theorem freeOutputBuffer (h : Owned s) : Owned (s.freeOutputBuffer b) := by
  have hport : ((s.d.outPort.removeBuffer b).toOption.getD s.d.outPort).bufferQueue = s.d.outPort.bufferQueue ∧
      ((s.d.outPort.removeBuffer b).toOption.getD s.d.outPort).bufferList ⊆ s.d.outPort.bufferList := by
    unfold Port.removeBuffer
    split
    · exact ⟨rfl, List.Subset.refl _⟩
    · split
      · exact ⟨rfl, List.Subset.refl _⟩
      · exact ⟨rfl, List.erase_subset⟩
  obtain ⟨hqueue, hlist⟩ := hport
  refine ⟨fun c hc => h.owned c (hlist hc), fun q hq => ?_, fun c hc c' hc' => h.distinct c (hlist hc) c' (hlist hc'),
    h.once, h.asserts⟩
  obtain ⟨c, hc, hblock⟩ := h.queued q hq
  exact ⟨c, hqueue.symm ▸ hc, hblock⟩

/-! ### Delivering frames -/

theorem returnFrame_of_mem {q : QueuedBlock} {f : AudioFrame} {ticks : Ticks} (hb : b ∈ s.d.outPort.bufferQueue) :
    s.returnFrame q f b ticks = { s with
      d := s.d.deliverFrame f b ticks
      nexus := s.nexus.consume 1
      returned := s.returned ++ [q.ticket] } := by
  simp only [AudioOutput.returnFrame, assertQueued, hb, if_true]

theorem returnFrame (h : Owned s) {q : QueuedBlock} {rest : List QueuedBlock} (hqueue : s.nexus.queue = q :: rest)
    (hb : b ∈ s.d.outPort.bufferQueue) (hblock : s.hMemoryBlock b = q.block) {d : AudioDecoder}
    (hport : d.outPort = s.d.outPort) (f : AudioFrame) (ticks : Ticks) :
    Owned ({ s.setNexusOwned b false with d }.returnFrame q f b ticks) := by
  have hcut : s.nexus.queue.drop 1 = rest := by rw [hqueue, List.drop_one, List.tail_cons]
  have honce := h.once
  rw [hqueue, List.map_cons, List.nodup_cons] at honce
  obtain ⟨hfirst, hrest⟩ := honce
  rw [returnFrame_of_mem (s := { s.setNexusOwned b false with d }) (hport.symm ▸ hb)]
  constructor
  case owned =>
    intro c hc
    have hc : c ∈ s.d.outPort.bufferList := hport ▸ hc
    change Function.update s.nexusOwned b false c = true ↔ s.hMemoryBlock c ∈ (s.nexus.queue.drop 1).map (·.block)
    rw [hcut]
    by_cases hcb : c = b
    · subst hcb
      rw [Function.update_self, hblock]
      exact ⟨Bool.noConfusion, fun hmem => absurd hmem hfirst⟩
    · have hne : s.hMemoryBlock c ≠ q.block := fun heq =>
        hcb (h.distinct c hc b (s.d.outPort.queued b hb) (heq.trans hblock.symm))
      rw [Function.update_of_ne hcb, h.owned c hc, hqueue, List.map_cons, List.mem_cons]
      exact ⟨fun hmem => hmem.resolve_left hne, .inr⟩
  case queued =>
    intro q' hq'
    have hq' : q' ∈ rest := hcut ▸ hq'
    obtain ⟨c, hc, hcblock⟩ := h.queued q' (hqueue ▸ List.mem_cons_of_mem q hq')
    have hcb : c ≠ b := fun heq => hfirst (by
      rw [← hblock, ← heq, hcblock]
      exact List.mem_map_of_mem hq')
    have hmem : c ∈ d.outPort.bufferQueue := hport.symm ▸ hc
    exact ⟨c, (List.mem_erase_of_ne hcb).mpr hmem, hcblock⟩
  case distinct =>
    intro c hc c' hc'
    exact h.distinct c (hport ▸ hc) c' (hport ▸ hc')
  case once =>
    change ((s.nexus.queue.drop 1).map (·.block)).Nodup
    rwa [hcut]
  case asserts => exact h.asserts

/-- The reported blocks are the first in the queue, each with its buffer. -/
def Aligned (l : List (QueuedBlock × AudioFrame)) (s : AudioOutput) : Prop :=
  l.map Prod.fst <+: s.nexus.queue ∧ ∀ p ∈ l, p.2.buffer = s.findBuffer p.1.block

theorem deliver : ∀ (l : List (QueuedBlock × AudioFrame)) {s : AudioOutput}, Owned s → Aligned l s →
    (s.deliver l).2 ≠ .fatal → Owned (s.deliver l).1
  | [], _, h, _, _ => h
  | (q, f) :: rest, s, h, hl, hend => by
    obtain ⟨hinitial, hbuffers⟩ := hl
    obtain ⟨tail, hqueue⟩ := hinitial
    have hqueue : s.nexus.queue = q :: (rest.map Prod.fst ++ tail) := hqueue.symm
    obtain ⟨b, hb, hblock, hfind⟩ := h.findBuffer (q := q) (hqueue ▸ List.mem_cons_self)
    have hbuffer : f.buffer = some b := (hbuffers (q, f) List.mem_cons_self).trans hfind
    have hport := takeTracked_outPort (d := s.d) f.pts
    have hreturn : ∀ d : AudioDecoder, d.outPort = s.d.outPort →
        (AudioOutput.deliver rest ({ s.setNexusOwned b false with d }.returnFrame q f b (s.d.takeTracked f.pts).2.1)).2 ≠
          .fatal →
        Owned (AudioOutput.deliver rest
          ({ s.setNexusOwned b false with d }.returnFrame q f b (s.d.takeTracked f.pts).2.1)).1 := by
      intro d hd hend
      refine deliver rest (h.returnFrame hqueue hb hblock hd f _) ⟨?_, fun p hp => ?_⟩ hend
      · refine ⟨tail, ?_⟩
        change _ = s.nexus.queue.drop 1
        rw [hqueue, List.drop_one, List.tail_cons]
      · have hsame : ({ s.setNexusOwned b false with d }.returnFrame q f b (s.d.takeTracked f.pts).2.1).findBuffer
            p.1.block = s.findBuffer p.1.block := by
          rw [returnFrame_of_mem (s := { s.setNexusOwned b false with d }) (hd.symm ▸ hb)]
          simp only [AudioOutput.findBuffer, AudioDecoder.deliverFrame, Port.findBuffer, Port.bufferComplete, hd]
          rfl
        rw [hsame]
        exact hbuffers p (List.mem_cons_of_mem _ hp)
    simp only [AudioOutput.deliver, hbuffer] at hend ⊢
    split at hend
    · next hformat =>
      rw [if_pos hformat]
      exact h.congr rfl
    · next hformat =>
      rw [if_neg hformat]
      split at hend
      · next heos =>
        rw [if_pos heos]
        split at hend
        · next hfits =>
          rw [if_pos hfits]
          exact hreturn _ hport hend
        · exact absurd rfl hend
      · next heos =>
        rw [if_neg heos]
        exact hreturn _ hport hend

theorem reported_aligned (frames : List AudioFrame) (s : AudioOutput) : Aligned (s.reported frames) s := by
  refine ⟨?_, fun p hp => ?_⟩
  · rw [reported_blocks]
    exact (List.take_prefix _ _).trans (List.take_prefix _ _)
  · obtain ⟨p', -, rfl⟩ := List.mem_map.mp hp
    rfl

end Owned

/-! ### Runs -/

/-- The poll delivers the end of the stream, or meets one that does not fit. -/
def endsInEos (r : AudioReport) (s : AudioOutput) : Bool :=
  if s.d.formatChangePending || s.d.eosDelivered || s.d.outPort.queueDepth = 0 then false
  else
    match r.frames with
    | none => false
    | some frames =>
      let p := s.deliver (s.reported frames)
      p.2 = .fatal || p.2 = .all && p.1.endsStream r

/-- `RemoveOutputBuffers` takes every block back. -/
def takesAllBack (a : AudioAnswers) (s : AudioOutput) : Bool :=
  a.getDecodedFrames &&
    s.nexus.queue.length ≤ min (s.nexus.queue.length - a.unreported) s.d.outPort.definition.nBufferCountActual

end AudioOutput

/-- The client only fills a buffer that it has, a poll does not come to the end of the stream, and buffers go back when
    no block is left with Nexus. -/
def OutputCall.keepsOwners : OutputCall → Bool
  | .fill s accepted b => !(s.d.decoderState = .started && accepted && b ∈ s.d.outPort.bufferQueue)
  | .poll s r => !s.endsInEos r
  | .release s a => s.nexus.queue = [] || s.takesAllBack a
  | .returnBuffers s => s.nexus.queue = []

namespace AudioOutput
variable {s s' : AudioOutput} {a : AudioAnswers} {r : AudioReport} {b c : BufferId}

namespace Owned

theorem pollDecodedFrames (h : Owned s) (hok : s.endsInEos r = false) : Owned (s.pollDecodedFrames r) := by
  simp only [AudioOutput.pollDecodedFrames]
  split
  · exact h
  · next hquiet =>
    split
    · next hdepth =>
      have hne : ¬ s.d.outPort.queueDepth = 0 := Nat.ne_of_gt hdepth
      split
      · exact h
      · next frames hframes =>
        simp only [endsInEos, hquiet, hne, hframes, decide_false, Bool.or_false, if_false, Bool.false_eq_true] at hok
        obtain ⟨hfatal, heos⟩ := Bool.or_eq_false_iff.mp hok
        have hdeliver := deliver _ h (reported_aligned frames s) (by simpa using hfatal)
        split
        · exact hdeliver
        · next hall =>
          have hall : (s.deliver (s.reported frames)).2 = .all := not_not.mp hall
          simp only [hall, decide_true, Bool.true_and] at heos
          simp only [heos, Bool.false_eq_true, if_false]
          exact hdeliver
    · exact h

theorem removeOutputBuffers_empty (hok : (s.nexus.queue = [] || s.takesAllBack a) = true) :
    (s.removeOutputBuffers a).nexus.queue = [] := by
  rcases Bool.or_eq_true_iff.mp hok with hempty | hall
  · obtain ⟨n, hqueue, -⟩ := removeOutputBuffers_drop a s
    rw [hqueue, of_decide_eq_true hempty, List.drop_nil]
  · simp only [takesAllBack, Bool.and_eq_true, decide_eq_true_eq] at hall
    simp only [AudioOutput.removeOutputBuffers, hall.1, Bool.not_true, Bool.false_eq_true, if_false]
    rw [clearOwned_rest]
    exact List.drop_eq_nil_of_le hall.2

theorem rules : OutputBufferRules Owned fun c => c.keepsOwners = true where
  frame h heq := h.congr heq
  allocate _ _ h hqueue hlist := h.addOutputBuffer hqueue hlist
  free _ h := h.freeOutputBuffer
  fill accepted b hb h hok := by
    refine h.fillThisBuffer hb fun hstarted haccepted => ?_
    simpa [OutputCall.keepsOwners, hstarted, haccepted] using hok
  add accept h := addBlocks accept _ h fun _ => id
  remove _ h := h.removeOutputBuffers
  poll _ h hok := h.pollDecodedFrames (by simpa [OutputCall.keepsOwners] using hok)
  release _ h hok := h.removeOutputBuffers.returnPortBuffers (removeOutputBuffers_empty hok)
  returnBuffers h hok := h.returnPortBuffers (of_decide_eq_true hok)

end Owned

theorem init_owned (codec : AudioCodec) (mp4ff : Bool) (inputDef outputDef : PortDefinition) :
    Owned (init codec mp4ff inputDef outputDef) where
  owned _ hb := by cases hb
  queued _ hq := by cases hq
  distinct _ hb := by cases hb
  once := List.nodup_nil
  asserts := rfl

/-- As long as no poll comes to the end of the stream, no buffers go back while Nexus has blocks, and the client fills its
    own buffers only: an output buffer is Nexus's exactly while its block is queued, such a buffer is in the port's queue,
    no block is queued twice, and `BufferComplete` finds its buffer in the queue. -/
theorem nexus_owned (codec : AudioCodec) (mp4ff : Bool) (inputDef outputDef : PortDefinition) (s : AudioOutput)
    (h : Reaches step (fun s a => (s.calls a).all OutputCall.keepsOwners) (init codec mp4ff inputDef outputDef) s) :
    (∀ b ∈ s.d.outPort.bufferList,
      (s.nexusOwned b = true ↔ s.hMemoryBlock b ∈ s.nexus.queue.map (·.block)) ∧
      (s.nexusOwned b = true → b ∈ s.d.outPort.bufferQueue)) ∧
    (s.nexus.queue.map (·.block)).Nodup ∧ s.asserts = [] := by
  have howned : Owned s := h.invariant (init_owned codec mp4ff inputDef outputDef) fun s a s' hs hok hstep =>
    Owned.rules.step hs (List.all_eq_true.mp hok) hstep
  exact ⟨fun b hb => ⟨howned.owned b hb, howned.mem_queue hb⟩, howned.once, howned.asserts⟩

/-- Two buffers that went to Nexus; the frame of the first was returned, and it is filled again. -/
theorem nexus_owned_two :
    ∃ s : AudioOutput, s.nexus.queue.map (·.block) = [10, 9] ∧ s.nexusOwned 22 = true ∧ s.nexusOwned 23 = true ∧
      (∀ b ∈ s.d.outPort.bufferList,
        (s.nexusOwned b = true ↔ s.hMemoryBlock b ∈ s.nexus.queue.map (·.block)) ∧
        (s.nexusOwned b = true → b ∈ s.d.outPort.bufferQueue)) ∧
      (s.nexus.queue.map (·.block)).Nodup ∧ s.asserts = [] := by
  obtain ⟨s, hs, hend⟩ := Reaches.exists_of_run step (fun s a => (s.calls a).all OutputCall.keepsOwners)
    (init .aac false oneInput pairOutput)
    (newSampleRate {} ++ [.outputFrameEvent { frames := some [decodedFrame 45000] }, .fillThisBuffer true 22])
    (fun s => s.nexus.queue.map (·.block) = [10, 9] && s.nexusOwned 22 && s.nexusOwned 23) (by decide +kernel)
  simp only [Bool.and_eq_true, decide_eq_true_eq] at hend
  exact ⟨s, hend.1.1, hend.1.2, hend.2, nexus_owned .aac false oneInput pairOutput s hs⟩

/-- The end of the stream comes with an empty input buffer: the output buffer that Nexus still has goes to the client, and
    is completed twice. -/
theorem eos_takes_owned_buffer :
    ∃ s, Reaches step (fun _ _ => true) (init .aac false oneInput smallOutput) s ∧ 20 ∈ s.d.outPort.bufferList ∧
      s.nexusOwned 20 = true ∧ 20 ∉ s.d.outPort.bufferQueue ∧ s.asserts = [20] := by
  obtain ⟨s, hs, hend⟩ := Reaches.exists_of_run step (fun _ _ => true) (init .aac false oneInput smallOutput)
    (toExecuting ++ [.fillThisBuffer true 20,
      .input (.emptyThisBuffer {} 10 { nAllocLen := 64, nFilledLen := 0, nFlags := { eos := true } } {}),
      .outputFrameEvent { frames := some [], drained := true }])
    (fun s => 20 ∈ s.d.outPort.bufferList && s.nexusOwned 20 && 20 ∉ s.d.outPort.bufferQueue && s.asserts = [20])
    (by decide +kernel)
  simp only [Bool.and_eq_true, decide_eq_true_eq] at hend
  obtain ⟨⟨⟨hlist, howned⟩, hqueue⟩, hasserts⟩ := hend
  exact ⟨s, hs, hlist, howned, hqueue, hasserts⟩

end AudioOutput
end BcmPlatform.Bomx
