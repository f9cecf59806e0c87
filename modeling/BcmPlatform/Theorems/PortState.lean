import BcmPlatform.Bomx.PortState
import BcmPlatform.Bomx.Port
import BcmPlatform.Lib.Runs

/-! The representation of a port: the lists, the two counters and the flag `bPopulated` agree. The operations on `Port`,
    which has its invariant in its type, are those of the code. -/

namespace BcmPlatform.Bomx
open Lib
namespace PortState
variable {p p' : PortState} {a : PortAction} {b : BufferId}

/-- The queue is a part of the list, without duplicates, and the counters are the lengths. -/
structure Counted (p : PortState) : Prop where
  nodup_list : p.bufferList.Nodup
  nodup_queue : p.bufferQueue.Nodup
  queued : ∀ b ∈ p.bufferQueue, b ∈ p.bufferList
  numBuffers : p.numBuffers = p.bufferList.length
  queueDepth : p.queueDepth = p.bufferQueue.length

/-- A disabled port is not populated, and one without tunnel is populated when all its buffers are there. -/
structure PopulatedOk (p : PortState) : Prop where
  disabled : p.isEnabled = false → p.isPopulated = false
  populated : p.isTunneled = false →
    (p.isPopulated = true ↔ p.isEnabled = true ∧ p.numBuffers = p.definition.nBufferCountActual)

/-! ### The lists and the counters -/

namespace Counted

theorem congr (h : Counted p) (hlist : p'.bufferList = p.bufferList) (hqueue : p'.bufferQueue = p.bufferQueue)
    (hnum : p'.numBuffers = p.numBuffers) (hdepth : p'.queueDepth = p.queueDepth) : Counted p' where
  nodup_list := by
    rw [hlist]
    exact h.nodup_list
  nodup_queue := by
    rw [hqueue]
    exact h.nodup_queue
  queued := by
    rw [hlist, hqueue]
    exact h.queued
  numBuffers := by
    rw [hnum, hlist]
    exact h.numBuffers
  queueDepth := by
    rw [hdepth, hqueue]
    exact h.queueDepth

theorem addBuffer (h : Counted p) (hnew : b ∉ p.bufferList) (componentAllocated : Bool) :
    Counted (p.addBuffer b componentAllocated).1 := by
  have hadded : Counted { p with
      bufferList := p.bufferList ++ [b], numBuffers := p.numBuffers + 1, componentAllocated } := by
    refine ⟨?_, h.nodup_queue, fun c hc => List.mem_append_left _ (h.queued c hc), ?_, h.queueDepth⟩
    · rw [← List.concat_eq_append, List.nodup_concat]
      exact ⟨hnew, h.nodup_list⟩
    · rw [List.length_append, ← h.numBuffers]
      rfl
  simp only [PortState.addBuffer]
  split
  · exact h
  · split
    · exact h
    · split
      · exact hadded.congr rfl rfl rfl rfl
      · exact hadded

theorem removeBuffer (h : Counted p) : Counted (p.removeBuffer b).1 := by
  simp only [PortState.removeBuffer]
  split
  · exact h
  · next hmem =>
    split
    · exact h
    · next hqueued =>
      have hnot : b ∉ p.bufferQueue := by simpa [isBufferQueued] using hqueued
      refine ⟨h.nodup_list.erase b, h.nodup_queue, fun c hc => ?_, ?_, h.queueDepth⟩
      · have hne : c ≠ b := fun heq => hnot (heq ▸ hc)
        exact (List.mem_erase_of_ne hne).mpr (h.queued c hc)
      · rw [List.length_erase_of_mem (not_not.mp hmem), ← h.numBuffers]

theorem queueBuffer (h : Counted p) : Counted (p.queueBuffer b).1 := by
  simp only [PortState.queueBuffer]
  split
  · exact h
  · next hmem =>
    split
    · exact h
    · next hqueued =>
      have hnot : b ∉ p.bufferQueue := by simpa [isBufferQueued] using hqueued
      refine ⟨h.nodup_list, ?_, fun c hc => ?_, h.numBuffers, ?_⟩
      · rw [← List.concat_eq_append, List.nodup_concat]
        exact ⟨hnot, h.nodup_queue⟩
      · rcases List.mem_append.mp hc with hc | hc
        · exact h.queued c hc
        · rw [List.mem_singleton.mp hc]
          exact not_not.mp hmem
      · rw [List.length_append, ← h.queueDepth]
        rfl

theorem bufferComplete (h : Counted p) : Counted (p.bufferComplete b) := by
  simp only [PortState.bufferComplete]
  split
  · next hmem =>
    refine ⟨h.nodup_list, h.nodup_queue.erase b, fun c hc => h.queued c (List.mem_of_mem_erase hc), h.numBuffers, ?_⟩
    rw [List.length_erase_of_mem hmem, ← h.queueDepth]
  · exact h

theorem setTunnel (h : Counted p) (tunnel : Option TunnelEnd) : Counted (p.setTunnel tunnel).1 := by
  simp only [PortState.setTunnel]
  split
  · exact h
  · split
    · exact h.congr rfl rfl rfl rfl
    · split
      · exact h
      · split <;> exact h.congr rfl rfl rfl rfl

theorem step (h : Counted p) (hstep : p.step a = some p') : Counted p' := by
  cases a with
  | setDefinition config =>
    cases hstep
    exact h.congr rfl rfl rfl rfl
  | enable =>
    cases hstep
    unfold enable
    split <;> exact h.congr rfl rfl rfl rfl
  | disable =>
    cases hstep
    unfold disable
    split <;> exact h.congr rfl rfl rfl rfl
  | addBuffer b componentAllocated =>
    simp only [PortState.step] at hstep
    split at hstep
    · cases hstep
    · next hnew =>
      cases hstep
      exact h.addBuffer hnew componentAllocated
  | removeBuffer b =>
    cases hstep
    exact h.removeBuffer
  | queueBuffer b =>
    cases hstep
    exact h.queueBuffer
  | bufferComplete b =>
    cases hstep
    exact h.bufferComplete
  | setTunnel tunnel =>
    cases hstep
    exact h.setTunnel tunnel

end Counted

/-! ### The populated flag -/

/-- The operations that do not leave the flag behind: a buffer that completes the port comes to an enabled port, and
    without a tunnel, changes of the count, of the enabled flag and of the tunnel do not complete an enabled port. -/
def keepsPopulated (p : PortState) : PortAction → Bool
  | .addBuffer _ componentAllocated =>
    (componentAllocated ≠ p.componentAllocated && p.numBuffers > 0) || p.isPopulated || p.isEnabled ||
      p.numBuffers + 1 ≠ p.definition.nBufferCountActual
  | .removeBuffer b =>
    !p.bufferList.contains b || p.isBufferQueued b || p.isTunneled || !p.isEnabled ||
      p.numBuffers - 1 ≠ p.definition.nBufferCountActual
  | .setDefinition config =>
    p.isTunneled || !p.isEnabled ||
      decide (p.numBuffers = config.nBufferCountActual) = decide (p.numBuffers = p.definition.nBufferCountActual)
  | .enable => p.isTunneled || p.isEnabled || p.numBuffers ≠ p.definition.nBufferCountActual
  | .setTunnel none => p.numBuffers > 0 || !p.isEnabled || p.definition.nBufferCountActual ≠ 0
  | _ => true

theorem populatedOk_iff : PopulatedOk p ↔ (p.isEnabled = false → p.isPopulated = false) ∧ (p.isTunneled = false →
    (p.isPopulated = true ↔ p.isEnabled = true ∧ p.numBuffers = p.definition.nBufferCountActual)) :=
  ⟨fun h => ⟨h.disabled, h.populated⟩, fun h => ⟨h.1, h.2⟩⟩

theorem PopulatedOk.congr (h : PopulatedOk p) (hdef : p'.definition = p.definition) (htunnel : p'.pTunnel = p.pTunnel)
    (hnum : p'.numBuffers = p.numBuffers) : PopulatedOk p' := by
  rw [populatedOk_iff] at h ⊢
  simp only [isEnabled, isPopulated, isTunneled, hdef, htunnel, hnum] at h ⊢
  exact h

theorem setDefinition_populatedOk_iff (h : PopulatedOk p) (config : PortDefinition) :
    PopulatedOk (p.setDefinition config).1 ↔ p.keepsPopulated (.setDefinition config) = true := by
  rw [populatedOk_iff] at h ⊢
  simp only [setDefinition, keepsPopulated, isEnabled, isPopulated, isTunneled] at h ⊢
  by_cases hnew : p.numBuffers = config.nBufferCountActual <;>
    by_cases hold : p.numBuffers = p.definition.nBufferCountActual <;>
    cases hen : p.definition.bEnabled <;> cases hpop : p.definition.bPopulated <;>
    cases htun : p.pTunnel <;> simp_all

theorem enable_populatedOk_iff (h : PopulatedOk p) : PopulatedOk p.enable.1 ↔ p.keepsPopulated .enable = true := by
  have hself := h
  rw [populatedOk_iff] at h
  unfold enable
  split
  · next hdisabled =>
    rw [populatedOk_iff]
    simp only [keepsPopulated, isEnabled, isPopulated, isTunneled, hdisabled] at h ⊢
    by_cases hnum : p.numBuffers = p.definition.nBufferCountActual <;>
      cases hpop : p.definition.bPopulated <;> cases htun : p.pTunnel <;> simp_all
  · next henabled =>
    have henabled : p.definition.bEnabled = true := by simpa using henabled
    simp [hself, keepsPopulated, isEnabled, henabled]

theorem disable_populatedOk (h : PopulatedOk p) : PopulatedOk p.disable.1 := by
  unfold disable
  split
  · exact ⟨fun _ => rfl, fun _ => ⟨(fun hpop => by cases hpop), (fun hfull => by cases hfull.1)⟩⟩
  · exact h

theorem addBuffer_populatedOk_iff (h : PopulatedOk p) (b : BufferId) (componentAllocated : Bool) :
    PopulatedOk (p.addBuffer b componentAllocated).1 ↔
      p.keepsPopulated (.addBuffer b componentAllocated) = true := by
  simp only [addBuffer, keepsPopulated]
  split
  · next hrefused => simp [h, hrefused.1, hrefused.2]
  · next hallowed =>
    split
    · next hpop => simp [h, hpop]
    · next hpop =>
      have hpop : p.definition.bPopulated = false := by simpa [isPopulated] using hpop
      have hmixed : (componentAllocated ≠ p.componentAllocated && p.numBuffers > 0) = false := by
        simpa [Bool.eq_false_iff] using hallowed
      rw [hmixed]
      by_cases hfull : p.numBuffers + 1 = p.definition.nBufferCountActual
      · rw [if_pos hfull, populatedOk_iff]
        simp only [isEnabled, isPopulated, isTunneled, hpop, hfull]
        cases hen : p.definition.bEnabled <;> simp
      · rw [if_neg hfull, populatedOk_iff]
        simp [isEnabled, isPopulated, isTunneled, hpop, hfull]

theorem removeBuffer_populatedOk_iff (h : PopulatedOk p) (b : BufferId) :
    PopulatedOk (p.removeBuffer b).1 ↔ p.keepsPopulated (.removeBuffer b) = true := by
  simp only [removeBuffer, keepsPopulated]
  split
  · next hmem => simp [h, hmem]
  · next hmem =>
    split
    · next hqueued => simp [h, hqueued]
    · next hqueued =>
      rw [populatedOk_iff]
      have hmem : b ∈ p.bufferList := not_not.mp hmem
      have hqueued : p.isBufferQueued b = false := by simpa using hqueued
      simp only [isEnabled, isPopulated, isTunneled, hqueued]
      cases hen : p.definition.bEnabled <;> cases htun : p.pTunnel <;> simp [hmem]

theorem setTunnel_populatedOk_iff (h : PopulatedOk p) (tunnel : Option TunnelEnd) :
    PopulatedOk (p.setTunnel tunnel).1 ↔ p.keepsPopulated (.setTunnel tunnel) = true := by
  have hself := h
  rw [populatedOk_iff] at h
  simp only [setTunnel]
  split
  · next hpos => cases tunnel <;> simp [hself, keepsPopulated, hpos]
  · next hpos =>
    have hzero : p.numBuffers = 0 := by simpa using hpos
    split
    · rw [populatedOk_iff]
      simp only [keepsPopulated, isEnabled, isPopulated, isTunneled, hzero]
      by_cases hcount : p.definition.nBufferCountActual = 0
      · cases hen : p.definition.bEnabled <;> simp [hcount]
      · cases hen : p.definition.bEnabled <;> simp [hcount, Ne.symm hcount]
    · next other =>
      split
      · simp [hself, keepsPopulated]
      · split
        · next hen =>
          have hen : p.definition.bEnabled = true := hen
          rw [populatedOk_iff]
          simp [keepsPopulated, isEnabled, isPopulated, isTunneled, hen]
        · next hen =>
          rw [populatedOk_iff]
          simp only [isEnabled, isPopulated, isTunneled] at h hen ⊢
          simp only [keepsPopulated, Option.isSome_some, Bool.true_eq_false, false_implies, and_true, iff_true]
          exact h.1

theorem populatedOk_step_iff (h : PopulatedOk p) (hstep : p.step a = some p') :
    PopulatedOk p' ↔ p.keepsPopulated a = true := by
  cases a with
  | setDefinition config =>
    cases hstep
    exact setDefinition_populatedOk_iff h config
  | enable =>
    cases hstep
    exact enable_populatedOk_iff h
  | disable =>
    cases hstep
    exact iff_of_true (disable_populatedOk h) rfl
  | addBuffer b componentAllocated =>
    simp only [PortState.step] at hstep
    split at hstep
    · cases hstep
    · cases hstep
      exact addBuffer_populatedOk_iff h b componentAllocated
  | removeBuffer b =>
    cases hstep
    exact removeBuffer_populatedOk_iff h b
  | queueBuffer b =>
    cases hstep
    refine iff_of_true ?_ rfl
    simp only [queueBuffer]
    split
    · exact h
    · split
      · exact h
      · exact h.congr rfl rfl rfl
  | bufferComplete b =>
    cases hstep
    refine iff_of_true ?_ rfl
    simp only [bufferComplete]
    split
    · exact h.congr rfl rfl rfl
    · exact h
  | setTunnel tunnel =>
    cases hstep
    exact setTunnel_populatedOk_iff h tunnel

/-- Over every run of operations the lists and the counters agree, and the flag is right as long as no operation leaves it
    behind; the first one that does makes it wrong. -/
theorem port_representation (nPortIndex bufferCountMin bufferSize : Nat) (eDomain : PortDomain)
    (componentAllocated : Bool) (p : PortState)
    (h : Reaches step (fun _ _ => True) (new nPortIndex bufferCountMin bufferSize eDomain componentAllocated) p) :
    Counted p ∧ (0 < bufferCountMin →
      Reaches step (fun p a => p.keepsPopulated a = true)
        (new nPortIndex bufferCountMin bufferSize eDomain componentAllocated) p →
      PopulatedOk p ∧ ∀ a p', p.step a = some p' → (PopulatedOk p' ↔ p.keepsPopulated a = true)) := by
  have hnew : Counted (new nPortIndex bufferCountMin bufferSize eDomain componentAllocated) :=
    ⟨List.nodup_nil, List.nodup_nil, fun _ hb => absurd hb List.not_mem_nil, rfl, rfl⟩
  refine ⟨h.invariant hnew fun _ _ _ hp _ hstep => hp.step hstep, fun hcount hkeeps => ?_⟩
  have hstart : PopulatedOk (new nPortIndex bufferCountMin bufferSize eDomain componentAllocated) := by
    refine ⟨fun _ => rfl, fun _ => ⟨(fun hpop => by cases hpop), fun hfull => ?_⟩⟩
    exact absurd hfull.2 (Nat.ne_of_lt hcount)
  have hok : PopulatedOk p :=
    hkeeps.invariant hstart fun _ _ _ hp hkeep hstep => (populatedOk_step_iff hp hstep).mpr hkeep
  exact ⟨hok, fun _ _ hstep => populatedOk_step_iff hok hstep⟩

/-- Two buffers are added to an enabled port, and one of them is queued. -/
theorem port_representation_twoBuffers : ∃ p : PortState, p.numBuffers = 2 ∧ Counted p ∧ PopulatedOk p := by
  obtain ⟨p, hp, hnum⟩ := Reaches.exists_of_run step keepsPopulated (new 0 2 64 .video false)
    [.addBuffer 10 false, .addBuffer 11 false, .queueBuffer 10] (fun p => p.numBuffers = 2) (by decide +kernel)
  obtain ⟨hcounted, hpopulated⟩ :=
    port_representation 0 2 64 .video false p (hp.mono fun _ _ _ => trivial)
  exact ⟨p, of_decide_eq_true hnum, hcounted, (hpopulated (by decide) hp).1⟩

/-- Buffers are added to a disabled port: it becomes populated. -/
theorem add_populates_disabled_port :
    ∃ p, Reaches step (fun _ _ => True) (new 0 2 64 .video false) p ∧ p.isEnabled = false ∧ p.isPopulated = true := by
  obtain ⟨p, hp, hrun⟩ := Reaches.exists_of_run step (fun _ _ => true) (new 0 2 64 .video false)
    [.disable, .addBuffer 10 false, .addBuffer 11 false] (fun p => !p.isEnabled && p.isPopulated) (by decide +kernel)
  simp only [Bool.and_eq_true, Bool.not_eq_true'] at hrun
  exact ⟨p, hp.mono fun _ _ _ => trivial, hrun.1, hrun.2⟩

/-! ### Ports with their invariant -/

/-- The members of the port are those of `q`. -/
structure Represents (p : PortState) (q : Port) : Prop where
  definition : p.definition = q.definition
  bufferList : p.bufferList = q.bufferList
  bufferQueue : p.bufferQueue = q.bufferQueue
  componentAllocated : p.componentAllocated = q.componentAllocated
  numBuffers : p.numBuffers = q.numBuffers
  queueDepth : p.queueDepth = q.queueDepth

namespace Represents
variable {q : Port}

theorem enable (h : Represents p q) : Represents p.enable.1 (q.apply .enable) := by
  simp only [PortState.enable, Port.apply, Port.enable, Port.isDisabled, h.definition]
  by_cases hen : q.definition.bEnabled = true
  · simp only [hen, Bool.true_eq_false, Bool.not_true, Bool.false_eq_true, if_false]
    exact h
  · rw [Bool.not_eq_true] at hen
    simp only [hen, Bool.not_false, if_true]
    exact ⟨rfl, h.bufferList, h.bufferQueue, h.componentAllocated, h.numBuffers, h.queueDepth⟩

theorem disable (h : Represents p q) : Represents p.disable.1 (q.apply .disable) := by
  simp only [PortState.disable, Port.apply, Port.disable, Port.isEnabled, h.definition]
  by_cases hen : q.definition.bEnabled = true
  · simp only [hen, if_true]
    exact ⟨rfl, h.bufferList, h.bufferQueue, h.componentAllocated, h.numBuffers, h.queueDepth⟩
  · simp only [hen]
    exact h

theorem addBuffer (h : Represents p q) (hnew : b ∉ p.bufferList) (componentAllocated : Bool) :
    Represents (p.addBuffer b componentAllocated).1 (q.apply (.addBuffer b componentAllocated)) := by
  have hnew' : b ∉ q.bufferList := by
    rw [← h.bufferList]
    exact hnew
  have hpopulated : p.isPopulated = q.isPopulated := congrArg PortDefinition.bPopulated h.definition
  simp only [PortState.addBuffer, Port.apply, dif_neg hnew', Port.addBuffer, hpopulated, h.definition,
    h.componentAllocated, h.numBuffers]
  by_cases hmixed : componentAllocated ≠ q.componentAllocated ∧ q.numBuffers > 0
  · rw [if_pos hmixed, if_pos hmixed]
    exact h
  · rw [if_neg hmixed, if_neg hmixed]
    have hlist : p.bufferList ++ [b] = q.bufferList ++ [b] := by rw [h.bufferList]
    have hnum : q.numBuffers + 1 = (q.bufferList ++ [b]).length := by
      rw [List.length_append]
      rfl
    by_cases hpop : q.isPopulated = true
    · rw [if_pos hpop, if_pos hpop]
      exact h
    · rw [if_neg hpop, if_neg hpop]
      by_cases hfull : q.numBuffers + 1 = q.definition.nBufferCountActual
      · simp only [hfull, if_true]
        exact ⟨rfl, hlist, h.bufferQueue, rfl, hfull.symm.trans hnum, h.queueDepth⟩
      · simp only [hfull, if_false]
        exact ⟨rfl, hlist, h.bufferQueue, rfl, hnum, h.queueDepth⟩

theorem removeBuffer (h : Represents p q) (hcounted : Counted p) :
    Represents (p.removeBuffer b).1 (q.apply (.removeBuffer b)) := by
  have hremoved := hcounted.removeBuffer (b := b)
  simp only [PortState.removeBuffer, Port.apply, Port.removeBuffer, isBufferQueued, h.bufferList, h.bufferQueue,
    List.contains_iff_mem] at hremoved ⊢
  by_cases hmem : b ∈ q.bufferList
  · simp only [hmem, not_true_eq_false, if_false] at hremoved ⊢
    by_cases hqueued : b ∈ q.bufferQueue
    · simp only [hqueued, if_true]
      exact h
    · simp only [hqueued, if_false] at hremoved ⊢
      refine ⟨?_, rfl, rfl, h.componentAllocated, hremoved.numBuffers, h.queueDepth⟩
      change { p.definition with bPopulated := false } = { q.definition with bPopulated := false }
      rw [h.definition]
  · simp only [hmem, not_false_eq_true, if_true]
    exact h

theorem queueBuffer (h : Represents p q) : Represents (p.queueBuffer b).1 (q.apply (.queueBuffer b)) := by
  simp only [PortState.queueBuffer, Port.apply, Port.queueBuffer, isBufferQueued, h.bufferList, h.bufferQueue,
    List.contains_iff_mem]
  by_cases hmem : b ∈ q.bufferList
  · simp only [hmem, not_true_eq_false, if_false]
    by_cases hqueued : b ∈ q.bufferQueue
    · simp only [hqueued, if_true]
      exact h
    · simp only [hqueued, if_false]
      refine ⟨h.definition, rfl, rfl, h.componentAllocated, h.numBuffers, ?_⟩
      change p.queueDepth + 1 = (q.bufferQueue ++ [b]).length
      rw [h.queueDepth, List.length_append]
      rfl
  · simp only [hmem, not_false_eq_true, if_true]
    exact h

theorem bufferComplete (h : Represents p q) (hcounted : Counted p) :
    Represents (p.bufferComplete b) (q.apply (.bufferComplete b)) := by
  have hdone := hcounted.bufferComplete (b := b)
  simp only [PortState.bufferComplete, h.bufferQueue] at hdone ⊢
  split
  · next hmem =>
    rw [if_pos hmem] at hdone
    exact ⟨h.definition, h.bufferList, rfl, h.componentAllocated, h.numBuffers, hdone.queueDepth⟩
  · next hmem =>
    have hsame : q.bufferQueue.erase b = q.bufferQueue := List.erase_of_not_mem hmem
    refine ⟨h.definition, h.bufferList, h.bufferQueue.trans hsame.symm, h.componentAllocated, h.numBuffers, ?_⟩
    change p.queueDepth = (q.bufferQueue.erase b).length
    rw [hsame]
    exact h.queueDepth

theorem step (h : Represents p q) (hcounted : Counted p) (htunnel : ∀ tunnel, a ≠ .setTunnel tunnel)
    (hstep : p.step a = some p') : Represents p' (q.apply a) := by
  cases a with
  | setDefinition config =>
    cases hstep
    refine ⟨?_, h.bufferList, h.bufferQueue, h.componentAllocated, h.numBuffers, h.queueDepth⟩
    simp only [setDefinition, Port.apply, Port.setDefinition, h.definition]
  | enable =>
    cases hstep
    exact h.enable
  | disable =>
    cases hstep
    exact h.disable
  | addBuffer b componentAllocated =>
    simp only [PortState.step] at hstep
    split at hstep
    · cases hstep
    · next hnew =>
      cases hstep
      exact h.addBuffer hnew componentAllocated
  | removeBuffer b =>
    cases hstep
    exact h.removeBuffer hcounted
  | queueBuffer b =>
    cases hstep
    exact h.queueBuffer
  | bufferComplete b =>
    cases hstep
    exact h.bufferComplete hcounted
  | setTunnel tunnel => exact absurd rfl (htunnel tunnel)

end Represents
end PortState
end BcmPlatform.Bomx
