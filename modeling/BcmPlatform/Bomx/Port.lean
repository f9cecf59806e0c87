import BcmPlatform.Bomx.Omx
import Mathlib.Data.List.Nodup

/-! `BOMX_Port`: the port definition, the buffers allocated on the port and the queue of those that the component holds. A
    queued buffer is always an allocated one, and no buffer is allocated or queued twice. What the components share of
    `BOMX_Component` is here too: which state changes can start, and the waits for a port to get or lose its buffers. -/

namespace BcmPlatform.Bomx

/-- The fields of `OMX_PARAM_PORTDEFINITIONTYPE` that the components read or write. -/
structure PortDefinition where
  nPortIndex : Nat
  nBufferCountActual : Nat
  nBufferCountMin : Nat
  nBufferSize : Nat
  bEnabled : Bool := true
  bPopulated : Bool := false
  nFrameWidth : Nat := 0
  nFrameHeight : Nat := 0
  deriving DecidableEq, Repr

/-- A port. `m_numBuffers` and `m_queueDepth` are the lengths of the two lists. -/
structure Port where
  definition : PortDefinition
  bufferList : List BufferId
  bufferQueue : List BufferId
  componentAllocated : Bool
  nodup_list : bufferList.Nodup
  nodup_queue : bufferQueue.Nodup
  queued : ∀ b ∈ bufferQueue, b ∈ bufferList

namespace Port

/-- A port without buffers. -/
def new (nPortIndex bufferCountMin bufferSize : Nat) : Port :=
  { definition := { nPortIndex, nBufferCountActual := bufferCountMin, nBufferCountMin := bufferCountMin,
                    nBufferSize := bufferSize }
    bufferList := []
    bufferQueue := []
    componentAllocated := false
    nodup_list := List.nodup_nil
    nodup_queue := List.nodup_nil
    queued := by simp }

/-- A port without buffers, with the definition that the component gives it. -/
def init (nPortIndex : Nat) (portDef : PortDefinition) : Port :=
  { new nPortIndex 0 0 with definition := { portDef with nPortIndex, bEnabled := true, bPopulated := false } }

def numBuffers (p : Port) : Nat := p.bufferList.length

def queueDepth (p : Port) : Nat := p.bufferQueue.length

def isEmpty (p : Port) : Bool := p.numBuffers = 0

def isPopulated (p : Port) : Bool := p.definition.bPopulated

def isEnabled (p : Port) : Bool := p.definition.bEnabled

def isDisabled (p : Port) : Bool := !p.definition.bEnabled

/-- What a port says of itself: whether it is enabled, whether it is populated, and which buffers it has. -/
def outline (p : Port) : Bool × Bool × List BufferId := (p.isEnabled, p.isPopulated, p.bufferList)

theorem outline_of {p p' : Port} (hdef : p'.definition = p.definition) (hlist : p'.bufferList = p.bufferList) :
    p'.outline = p.outline := by
  simp only [outline, isEnabled, isPopulated, hdef, hlist]

/-- `SetDefinition`: changes to the index and to the enabled and populated flags are dropped. -/
def setDefinition (p : Port) (config : PortDefinition) : Port :=
  { p with definition := { config with
      nPortIndex := p.definition.nPortIndex
      bEnabled := p.definition.bEnabled
      bPopulated := p.definition.bPopulated } }

def enable (p : Port) : Except OmxError Port :=
  if p.isDisabled then .ok { p with definition := { p.definition with bEnabled := true } }
  else .error .incorrectStateOperation

/-- `Disable`: a disabled port is never populated. -/
def disable (p : Port) : Except OmxError Port :=
  if p.isEnabled then .ok { p with definition := { p.definition with bEnabled := false, bPopulated := false } }
  else .error .incorrectStateOperation

/-- `AddBuffer`, for a newly created buffer `b`. -/
def addBuffer (p : Port) (b : BufferId) (componentAllocated : Bool) (hnew : b ∉ p.bufferList) :
    Except OmxError Port :=
  if componentAllocated ≠ p.componentAllocated ∧ 0 < p.numBuffers then .error .badParameter
  else if p.isPopulated then .error .incorrectStateOperation
  else .ok { p with
    bufferList := p.bufferList ++ [b]
    componentAllocated
    definition := { p.definition with
      bPopulated := if p.numBuffers + 1 = p.definition.nBufferCountActual then true else p.definition.bPopulated }
    nodup_list := by
      rw [← List.concat_eq_append, List.nodup_concat]
      exact ⟨hnew, p.nodup_list⟩
    queued := fun c hc => List.mem_append_left _ (p.queued c hc) }

/-- What `AddBuffer` does when it succeeds. -/
structure Added (p : Port) (b : BufferId) (componentAllocated : Bool) (p' : Port) : Prop where
  sameKind : componentAllocated = p.componentAllocated ∨ p.numBuffers = 0
  notPopulated : p.isPopulated = false
  bufferList : p'.bufferList = p.bufferList ++ [b]
  bufferQueue : p'.bufferQueue = p.bufferQueue
  kind : p'.componentAllocated = componentAllocated
  definition : p'.definition = { p.definition with
    bPopulated := if p.numBuffers + 1 = p.definition.nBufferCountActual then true else p.definition.bPopulated }

theorem Added.of_ok {p p' : Port} {b : BufferId} {componentAllocated : Bool} {hnew : b ∉ p.bufferList}
    (h : p.addBuffer b componentAllocated hnew = .ok p') : Added p b componentAllocated p' := by
  unfold addBuffer at h
  split at h
  · cases h
  · next hkind =>
    split at h
    · cases h
    · next hpopulated =>
      cases h
      refine ⟨?_, Bool.eq_false_iff.mpr hpopulated, rfl, rfl, rfl, rfl⟩
      by_cases hsame : componentAllocated = p.componentAllocated
      · exact .inl hsame
      · exact .inr (Nat.eq_zero_of_not_pos fun hpos => hkind ⟨hsame, hpos⟩)

theorem Added.isEnabled {p p' : Port} {b : BufferId} {componentAllocated : Bool}
    (h : Added p b componentAllocated p') : p'.isEnabled = p.isEnabled := by
  rw [Port.isEnabled, h.definition]
  rfl

/-- `RemoveBuffer`: only a buffer of this port that is not queued. -/
def removeBuffer (p : Port) (b : BufferId) : Except OmxError Port :=
  if b ∉ p.bufferList then .error .badParameter
  else if hq : b ∈ p.bufferQueue then .error .badParameter
  else .ok { p with
    bufferList := p.bufferList.erase b
    definition := { p.definition with bPopulated := false }
    nodup_list := p.nodup_list.erase b
    queued := by
      intro c hc
      have hne : c ≠ b := fun h => hq (h ▸ hc)
      exact (List.mem_erase_of_ne hne).mpr (p.queued c hc) }

/-- What `RemoveBuffer` does when it succeeds. -/
structure Removed (p : Port) (b : BufferId) (p' : Port) : Prop where
  mem : b ∈ p.bufferList
  notQueued : b ∉ p.bufferQueue
  bufferList : p'.bufferList = p.bufferList.erase b
  bufferQueue : p'.bufferQueue = p.bufferQueue
  kind : p'.componentAllocated = p.componentAllocated
  definition : p'.definition = { p.definition with bPopulated := false }

theorem Removed.of_ok {p p' : Port} {b : BufferId} (h : p.removeBuffer b = .ok p') : Removed p b p' := by
  unfold removeBuffer at h
  split at h
  · cases h
  · next hmem =>
    split at h
    · cases h
    · next hqueued =>
      cases h
      exact ⟨not_not.mp hmem, hqueued, rfl, rfl, rfl, rfl⟩

theorem Removed.isEnabled {p p' : Port} {b : BufferId} (h : Removed p b p') : p'.isEnabled = p.isEnabled := by
  rw [Port.isEnabled, h.definition]
  rfl

/-- `QueueBuffer`: only a buffer of this port that is not queued yet. -/
def queueBuffer (p : Port) (b : BufferId) : Except OmxError Port :=
  if hl : b ∉ p.bufferList then .error .badParameter
  else if hq : b ∈ p.bufferQueue then .error .badParameter
  else .ok { p with
    bufferQueue := p.bufferQueue ++ [b]
    nodup_queue := by
      rw [← List.concat_eq_append, List.nodup_concat]
      exact ⟨hq, p.nodup_queue⟩
    queued := by
      intro c hc
      rcases List.mem_append.mp hc with hc | hc
      · exact p.queued c hc
      · rw [List.mem_singleton.mp hc]
        exact not_not.mp hl }

/-- What `QueueBuffer` does when it succeeds. -/
structure Queued (p : Port) (b : BufferId) (p' : Port) : Prop where
  mem : b ∈ p.bufferList
  notQueued : b ∉ p.bufferQueue
  bufferList : p'.bufferList = p.bufferList
  bufferQueue : p'.bufferQueue = p.bufferQueue ++ [b]
  kind : p'.componentAllocated = p.componentAllocated
  definition : p'.definition = p.definition

theorem Queued.of_ok {p p' : Port} {b : BufferId} (h : p.queueBuffer b = .ok p') : Queued p b p' := by
  unfold queueBuffer at h
  split at h
  · cases h
  · next hmem =>
    split at h
    · cases h
    · next hqueued =>
      cases h
      exact ⟨not_not.mp hmem, hqueued, rfl, rfl, rfl, rfl⟩

theorem Queued.isEnabled {p p' : Port} {b : BufferId} (h : Queued p b p') : p'.isEnabled = p.isEnabled := by
  rw [Port.isEnabled, h.definition]
  rfl

def getBuffer (p : Port) : Option BufferId := p.bufferQueue.head?

/-- `GetNextBuffer`: the buffer queued right after `b`. -/
def getNextBuffer (p : Port) (b : BufferId) : Option BufferId :=
  ((p.bufferQueue.dropWhile (· ≠ b)).drop 1).head?

/-- `BufferComplete`: the buffer leaves the queue. -/
def bufferComplete (p : Port) (b : BufferId) : Port :=
  { p with
    bufferQueue := p.bufferQueue.erase b
    nodup_queue := p.nodup_queue.erase b
    queued := fun c hc => p.queued c (List.mem_of_mem_erase hc) }

/-- `FindBuffer`: the first allocated buffer, queued or not, that satisfies the function. -/
def findBuffer (p : Port) (compareFunc : BufferId → Bool) : Option BufferId := p.bufferList.find? compareFunc

end Port
end BcmPlatform.Bomx

/-! ### `BOMX_Component` -/

namespace BcmPlatform.Bomx

/-- A section of a command that gives up the lock until the ports have their buffers, or have none left; to
    Loaded, with the ports that are to be enabled again. -/
inductive PortWait where
  | populate
  | depopulateInput (inputPortEnabled outputPortEnabled : Bool)
  | depopulateOutput (inputPortEnabled outputPortEnabled : Bool)
  deriving DecidableEq, Repr

/-- `StateChangeStart`: no other change is under way, and there is a transition. -/
def stateChangeStart (currentState targetState newState : OmxState) : Bool :=
  currentState = targetState && match currentState, newState with
    | .loaded, .idle | .loaded, .waitForResources => true
    | .idle, .loaded | .idle, .executing | .idle, .pause => true
    | .executing, .idle | .executing, .pause => true
    | .pause, .idle | .pause, .executing => true
    | .waitForResources, .idle | .waitForResources, .loaded => true
    | .invalid, _ => false
    | _, .invalid => true
    | _, _ => false

namespace Port

/-- Disables a port; a disabled one stays as it is. -/
def disabled (p : Port) : Port := p.disable.toOption.getD p

/-- Enables a port again, if it was enabled before; an enabled one stays as it is. -/
def reenabled (enabled : Bool) (p : Port) : Port := if enabled then p.enable.toOption.getD p else p

end Port
end BcmPlatform.Bomx

/-! ### The walk over the queue -/

namespace BcmPlatform.Bomx.Port
variable {p : Port} {b : BufferId}

theorem getNextBuffer_of_queue {before rest : List BufferId} (h : p.bufferQueue = before ++ b :: rest) :
    p.getNextBuffer b = rest.head? := by
  have hbefore : ∀ c ∈ before, (decide (c ≠ b)) = true := by
    intro c hc
    have hnodup := p.nodup_queue
    rw [h] at hnodup
    refine decide_eq_true fun hcb => ?_
    exact (List.nodup_append.mp hnodup).2.2 c hc b (by simp) hcb
  rw [getNextBuffer, h, List.dropWhile_append_of_pos hbefore]
  simp

theorem getNextBuffer_of_not_mem (h : b ∉ p.bufferQueue) : p.getNextBuffer b = none := by
  have hall : ∀ c ∈ p.bufferQueue, (decide (c ≠ b)) = true := fun c hc => decide_eq_true fun hcb => h (hcb ▸ hc)
  rw [getNextBuffer, ← List.append_nil p.bufferQueue, List.dropWhile_append_of_pos hall]
  rfl

theorem getNextBuffer_bufferComplete (p : Port) (b : BufferId) : (p.bufferComplete b).getNextBuffer b = none :=
  getNextBuffer_of_not_mem p.nodup_queue.not_mem_erase

theorem bufferComplete_head {rest : List BufferId} (h : p.bufferQueue = b :: rest) :
    (p.bufferComplete b).bufferQueue = rest := by
  simp [bufferComplete, h]

end BcmPlatform.Bomx.Port
