import BcmPlatform.Theorems.AudioShadow

/-! The calls of a step that hand output buffers to the client: polls, and `ReturnPortBuffers` with or without the
    `RemoveOutputBuffers` before it. What these calls keep when they find the component as they should, every step
    keeps: the rest of a step only queues blocks, takes them back or leaves the buffers alone. -/

namespace BcmPlatform.Bomx

/-- A call with the state that it finds and what Nexus answers; `release` is `RemoveOutputBuffers` and
    `ReturnPortBuffers`. -/
inductive OutputCall where
  | fill (s : AudioOutput) (accepted : Bool) (b : BufferId)
  | poll (s : AudioOutput) (r : AudioReport)
  | release (s : AudioOutput) (a : AudioAnswers)
  | returnBuffers (s : AudioOutput)

namespace AudioOutput

/-! ### The calls of a step -/

/-- The poll in the start of a stopped decoder. -/
def startCalls (a : AudioAnswers) (s : AudioOutput) : List OutputCall :=
  let p := s.startDecoder a.start
  if p.2 && p.1.d.outPort.isEnabled then [.poll (p.1.addOutputBuffers a.accept) a.report] else []

/-- The poll after a suspended decoder was resumed. -/
def resumeCalls (a : AudioAnswers) (s : AudioOutput) : List OutputCall :=
  if s.d.outPort.isEnabled then [.poll ({ s with nexus := s.nexus.resume }.addOutputBuffers a.accept) a.report] else []

/-- `SetInputPortState` -/
def inputCalls (newState : OmxState) (a : AudioAnswers) (s : AudioOutput) : List OutputCall :=
  if newState ≠ .executing || !s.d.inp.hPlaypump && !a.start.acquired then []
  else
    let s := if s.d.inp.hPlaypump then s else { s with d := { s.d with inp := s.d.inp.openPlaypump } }
    match s.d.decoderState with
    | .stopped => s.startCalls a
    | .suspended => s.resumeCalls a
    | .started => []

/-- The release in `SetOutputPortState`. -/
def releaseCalls (a : AudioAnswers) (s : AudioOutput) : List OutputCall :=
  if s.d.decoderState = .started ∧ !a.start.suspend then []
  else [.release (if s.d.decoderState = .started then s.suspendDecoder else s) a]

/-- `SetOutputPortState` -/
def outputCalls (newState : OmxState) (a : AudioAnswers) (s : AudioOutput) : List OutputCall :=
  match newState with
  | .loaded => { s with d := { s.d with formatChangePending := false } }.releaseCalls a
  | .idle => s.releaseCalls a
  | _ => []

/-- `CommandFlush` on the output port. -/
def flushOutputCalls (a a' : AudioAnswers) (s : AudioOutput) : List OutputCall :=
  if s.d.outPort.isEnabled && s.d.outPort.isPopulated then
    let t := (s.setOutputPortState .idle a).1
    s.outputCalls .idle a ++ t.outputCalls s.d.currentState a' ++
      [.returnBuffers (t.setOutputPortState s.d.currentState a').1]
  else [.returnBuffers s]

/-- `CommandPortDisable` on the output port, up to the wait. -/
def disableOutputCalls (a : AudioAnswers) (s : AudioOutput) : List OutputCall :=
  let s := { s with d := { s.d with outPort := s.d.outPort.disabled } }
  s.outputCalls .loaded a ++ [.returnBuffers (s.setOutputPortState .loaded a).1]

def portDisableCalls (dir : OmxDir) (a : AudioAnswers) (s : AudioOutput) : List OutputCall :=
  if dir = .output && s.d.outPort.isEnabled && s.d.currentState ≠ .loaded then s.disableOutputCalls a else []

def setRunningCalls (newState : OmxState) (a a' : AudioAnswers) (s : AudioOutput) : List OutputCall :=
  let p := if s.d.outPort.isPopulated && s.d.outPort.isEnabled then s.setOutputPortState newState a else (s, true)
  if p.2 && p.1.d.inp.port.isPopulated && p.1.d.inp.port.isEnabled then p.1.inputCalls newState a' else []

def setIdleCalls (a a' : AudioAnswers) (s : AudioOutput) : List OutputCall :=
  let s := { s with d := { s.d with inp := s.d.inp.configBufferInit } }
  let s := if s.d.inp.port.isPopulated then (s.setInputPortState .idle a).1 else s
  if s.d.outPort.isPopulated then s.outputCalls .idle a' else []

/-- `CommandStateSet`, up to the end or the first wait. -/
def stateSetCalls (newState : OmxState) (a a' : AudioAnswers) (s : AudioOutput) : List OutputCall :=
  if !stateChangeStart s.d.currentState s.d.targetState newState then []
  else
    let s := { s with d := { s.d with targetState := newState } }
    match newState with
    | .idle => if s.d.currentState = .loaded then [] else s.setIdleCalls a a'
    | .executing => s.setRunningCalls newState a a'
    | _ => []

def resumePortCalls (a a' : AudioAnswers) (s : AudioOutput) : List OutputCall :=
  match s.portCommand with
  | some (.enable .input) =>
    if s.d.inp.port.isPopulated then { s with portCommand := none }.inputCalls s.d.currentState a else []
  | some (.enable .output) =>
    if s.d.outPort.isPopulated then
      let t := { s with portCommand := none }
      let p := t.setOutputPortState s.d.currentState a
      t.outputCalls s.d.currentState a ++ if p.2 then [] else p.1.portDisableCalls .output a'
    else []
  | _ => []

def resumeStateCalls (a : AudioAnswers) (s : AudioOutput) : List OutputCall :=
  match s.d.portWait with
  | some .populate =>
    if (!s.d.inp.port.isEnabled || s.d.inp.port.isPopulated) && (!s.d.outPort.isEnabled || s.d.outPort.isPopulated) &&
        (s.d.outPort.isPopulated && s.d.outPort.isEnabled) then s.outputCalls .idle a
    else []
  | some (.depopulateInput inputPortEnabled outputPortEnabled) =>
    if (s.d.inp.port.isEmpty || !inputPortEnabled) && outputPortEnabled then s.disableOutputCalls a else []
  | _ => []

/-- The calls of a step. -/
def calls (s : AudioOutput) : AudioOutputAction → List OutputCall
  | .fillThisBuffer accepted b => [.fill s accepted b]
  | .outputFrameEvent r => [.poll s r]
  | .setInputPortState newState a => s.inputCalls newState a
  | .setOutputPortState newState a => s.outputCalls newState a
  | .flushInput a a' =>
    let t := (s.setInputPortState .idle a).1
    t.inputCalls t.d.currentState a'
  | .flushOutput a a' => s.flushOutputCalls a a'
  | .portDisable dir a => s.portDisableCalls dir a
  | .stateSet newState a a' => s.stateSetCalls newState a a'
  | .resumePortCommand _ a a' => s.resumePortCalls a a'
  | .resumeStateSet _ a _ => s.resumeStateCalls a
  | _ => []

/-! ### What a step keeps -/

/-- Where the output buffers and their blocks are. -/
def ledger (s : AudioOutput) :
    (BufferId → Bool) × (BufferId → Nat) × List QueuedBlock × Nat × List Nat × List BufferId × List BufferId ×
      List BufferId :=
  (s.nexusOwned, s.hMemoryBlock, s.nexus.queue, s.nexus.nextTicket, s.returned, s.asserts, s.d.outPort.bufferList,
    s.d.outPort.bufferQueue)

end AudioOutput

/-- What a property of the output buffers needs to be kept by every step whose calls are `ok`. -/
structure OutputBufferRules (P : AudioOutput → Prop) (ok : OutputCall → Prop) : Prop where
  frame : ∀ {s s' : AudioOutput}, P s → s'.ledger = s.ledger → P s'
  allocate : ∀ {s : AudioOutput} (b : BufferId) (block : Nat), P s → (∀ q ∈ s.nexus.queue, q.block ≠ block) →
    (∀ c ∈ s.d.outPort.bufferList, s.hMemoryBlock c ≠ block) → P (s.addOutputBuffer b block)
  free : ∀ {s : AudioOutput} (b : BufferId), P s → P (s.freeOutputBuffer b)
  fill : ∀ {s : AudioOutput} (accepted : Bool) (b : BufferId), b ∈ s.d.outPort.bufferList → P s → ok (.fill s accepted b) →
    P (s.fillThisBuffer accepted b)
  add : ∀ {s : AudioOutput} (accept : BufferId → Bool), P s → P (s.addOutputBuffers accept)
  remove : ∀ {s : AudioOutput} (a : AudioAnswers), P s → P (s.removeOutputBuffers a)
  poll : ∀ {s : AudioOutput} (r : AudioReport), P s → ok (.poll s r) → P (s.pollDecodedFrames r)
  release : ∀ {s : AudioOutput} (a : AudioAnswers), P s → ok (.release s a) → P (s.removeOutputBuffers a).returnPortBuffers
  returnBuffers : ∀ {s : AudioOutput}, P s → ok (.returnBuffers s) → P s.returnPortBuffers

namespace Port

theorem disabled_lists (p : Port) : p.disabled.bufferList = p.bufferList ∧ p.disabled.bufferQueue = p.bufferQueue := by
  obtain ⟨_, _, hp⟩ := disabled_eq p
  rw [hp]
  exact ⟨rfl, rfl⟩

theorem reenabled_lists (enabled : Bool) (p : Port) :
    (p.reenabled enabled).bufferList = p.bufferList ∧ (p.reenabled enabled).bufferQueue = p.bufferQueue := by
  obtain ⟨_, _, hp⟩ := reenabled_eq enabled p
  rw [hp]
  exact ⟨rfl, rfl⟩

end Port

namespace AudioOutput
variable {s s' : AudioOutput} {a a' : AudioAnswers}

/-! ### What leaves the buffers alone -/

theorem ledger_of_lists {d : AudioDecoder}
    (h : d.outPort.bufferList = s.d.outPort.bufferList ∧ d.outPort.bufferQueue = s.d.outPort.bufferQueue) :
    { s with d }.ledger = s.ledger := by
  simp only [ledger, h.1, h.2]

theorem endStateChange_ledger (ok : Bool) : (s.endStateChange ok).ledger = s.ledger := by
  simp only [endStateChange, AudioDecoder.endStateChange]
  split <;> rfl

theorem abandonIdle_ledger (inputEnabled outputEnabled : Bool) :
    { s with d := s.d.abandonIdle inputEnabled outputEnabled }.ledger = s.ledger := by
  refine ledger_of_lists ?_
  obtain ⟨hlist, hqueue⟩ := Port.reenabled_lists outputEnabled s.d.outPort.disabled
  obtain ⟨hlist', hqueue'⟩ := Port.disabled_lists s.d.outPort
  exact ⟨hlist.trans hlist', hqueue.trans hqueue'⟩

theorem startDecoder_ledger (n : AudioDecoder.StartResult) : (s.startDecoder n).1.ledger = s.ledger := by
  simp only [startDecoder, AudioDecoder.startDecoder]
  split
  · rfl
  · split
    · rfl
    · rfl

theorem stopDecoder_ledger : s.stopDecoder.ledger = s.ledger := by
  simp only [stopDecoder, AudioDecoder.stopDecoder]
  split <;> rfl

theorem resumeDecoder_ledger : s.resumeDecoder.ledger = s.ledger := by
  simp only [resumeDecoder, AudioDecoder.resumeDecoder]
  split <;> rfl

end AudioOutput

namespace OutputBufferRules
open AudioOutput
variable {P : AudioOutput → Prop} {ok : OutputCall → Prop} {s s' : AudioOutput} {a a' : AudioAnswers}

/-! ### The ports -/

theorem resumeStop (h : OutputBufferRules P ok) (hP : P s) : P s.resumeDecoder.stopDecoder :=
  h.frame hP (stopDecoder_ledger.trans resumeDecoder_ledger)

theorem startInput (h : OutputBufferRules P ok) (hP : P s) (hok : ∀ c ∈ s.startCalls a, ok c) :
    P (s.startInput a).1 := by
  have hstart : P (s.startDecoder a.start).1 := h.frame hP (startDecoder_ledger a.start)
  simp only [AudioOutput.startInput]
  split
  · exact hstart
  · next hstarted =>
    have hstarted : (s.startDecoder a.start).2 = true := by simpa using hstarted
    split
    · next henabled =>
      refine h.poll a.report (h.add a.accept hstart) (hok _ ?_)
      simp [startCalls, hstarted, henabled]
    · split
      · exact h.frame hstart stopDecoder_ledger
      · exact h.frame hstart rfl

theorem setInputPortState (h : OutputBufferRules P ok) {newState : OmxState} (hP : P s)
    (hok : ∀ c ∈ s.inputCalls newState a, ok c) : P (s.setInputPortState newState a).1 := by
  simp only [AudioOutput.setInputPortState]
  split
  · split
    · exact h.frame (h.resumeStop hP) rfl
    · exact hP
  · split
    · exact hP
    · next hacquired =>
      have hopened : P (if s.d.inp.hPlaypump then s else { s with d := { s.d with inp := s.d.inp.openPlaypump } }) ∧
          (newState = .executing → s.inputCalls newState a = match (if s.d.inp.hPlaypump then s
            else { s with d := { s.d with inp := s.d.inp.openPlaypump } }).d.decoderState with
            | .stopped => (if s.d.inp.hPlaypump then s
              else { s with d := { s.d with inp := s.d.inp.openPlaypump } }).startCalls a
            | .suspended => (if s.d.inp.hPlaypump then s
              else { s with d := { s.d with inp := s.d.inp.openPlaypump } }).resumeCalls a
            | .started => []) := by
        refine ⟨?_, fun hrun => ?_⟩
        · split
          · exact hP
          · exact h.frame hP rfl
        · simp only [inputCalls, hrun, ne_eq, not_true_eq_false, decide_false, Bool.false_or, hacquired, if_false,
            Bool.false_eq_true]
      generalize (if s.d.inp.hPlaypump then s else { s with d := { s.d with inp := s.d.inp.openPlaypump } }) = s₁ at hopened ⊢
      obtain ⟨h₁, hcalls⟩ := hopened
      split
      · split
        · exact h₁
        · exact h.remove a (h.resumeStop h₁)
      · have hcalls := hcalls rfl
        split
        · next hstate =>
          rw [hstate] at hcalls
          exact h.startInput h₁ fun c hc => hok c (hcalls ▸ hc)
        · next hstate =>
          rw [hstate] at hcalls
          simp only [resumeInput]
          split
          · next henabled =>
            have hresumed : P { s₁ with nexus := s₁.nexus.resume } := h.frame h₁ rfl
            refine h.poll a.report (h.add a.accept hresumed) (hok _ ?_)
            simp [hcalls, resumeCalls, henabled]
          · exact h₁
        · exact h₁
      · exact h₁
      · exact h₁

theorem setInputPortState_quiet (h : OutputBufferRules P ok) {newState : OmxState} (hP : P s)
    (hquiet : newState ≠ .executing) : P (s.setInputPortState newState a).1 := by
  refine h.setInputPortState hP fun c hc => ?_
  simp [inputCalls, hquiet] at hc

theorem releaseOutput (h : OutputBufferRules P ok) (hP : P s) (hok : ∀ c ∈ s.releaseCalls a, ok c) :
    P (s.releaseOutput a).1 := by
  simp only [AudioOutput.releaseOutput, releaseCalls] at hok ⊢
  split
  · exact hP
  · next hsuspend =>
    simp only [hsuspend, if_false, List.mem_singleton, forall_eq] at hok
    refine h.release a ?_ hok
    split
    · exact h.frame hP rfl
    · exact hP

theorem setOutputPortState (h : OutputBufferRules P ok) {newState : OmxState} (hP : P s)
    (hok : ∀ c ∈ s.outputCalls newState a, ok c) : P (s.setOutputPortState newState a).1 := by
  have hresume : P (s.resumeDecoder.addOutputBuffers a.accept) := h.add a.accept (h.frame hP resumeDecoder_ledger)
  cases newState with
  | loaded =>
    have hformat : P { s with d := { s.d with formatChangePending := false } } := h.frame hP rfl
    exact h.releaseOutput hformat hok
  | idle => exact h.releaseOutput hP hok
  | invalid | executing | pause | waitForResources =>
    simp only [AudioOutput.setOutputPortState]
    split
    · exact hP
    · exact hresume
    · exact hP

theorem setOutputPortState_quiet (h : OutputBufferRules P ok) {newState : OmxState} (hP : P s)
    (hloaded : newState ≠ .loaded) (hidle : newState ≠ .idle) : P (s.setOutputPortState newState a).1 := by
  refine h.setOutputPortState hP fun c hc => ?_
  cases newState with
  | loaded => exact absurd rfl hloaded
  | idle => exact absurd rfl hidle
  | invalid | executing | pause | waitForResources => cases hc

/-! ### Commands -/

theorem returnInput (h : OutputBufferRules P ok) (hP : P s) (inp : InputSide) : P { s with d := { s.d with inp } } :=
  h.frame hP rfl

theorem flushInput (h : OutputBufferRules P ok) (hP : P s) (hok : ∀ c ∈ s.calls (.flushInput a a'), ok c) :
    P (s.flushInput a a') :=
  h.returnInput (h.setInputPortState (h.setInputPortState_quiet hP OmxState.noConfusion) hok) _

theorem flushOutput (h : OutputBufferRules P ok) (hP : P s) (hok : ∀ c ∈ s.flushOutputCalls a a', ok c) :
    P (s.flushOutput a a') := by
  simp only [AudioOutput.flushOutput, flushOutputCalls] at hok ⊢
  split
  · next hport =>
    simp only [hport, if_true, List.forall_mem_append, List.mem_singleton, forall_eq] at hok
    obtain ⟨⟨hidle, hback⟩, hreturn⟩ := hok
    exact h.returnBuffers (h.setOutputPortState (h.setOutputPortState hP hidle) hback) hreturn
  · next hport =>
    simp only [hport, if_false, List.mem_singleton, forall_eq, Bool.false_eq_true] at hok
    exact h.returnBuffers hP hok

theorem disableInput (h : OutputBufferRules P ok) (hP : P s) : P (s.disableInput a) :=
  h.returnInput (h.setInputPortState_quiet (h.returnInput hP _) OmxState.noConfusion) _

theorem disableOutput (h : OutputBufferRules P ok) (hP : P s) (hok : ∀ c ∈ s.disableOutputCalls a, ok c) :
    P (s.disableOutput a) := by
  have hport : P { s with d := { s.d with outPort := s.d.outPort.disabled } } :=
    h.frame hP (ledger_of_lists (Port.disabled_lists s.d.outPort))
  simp only [disableOutputCalls, List.forall_mem_append, List.mem_singleton, forall_eq] at hok
  exact h.returnBuffers (h.setOutputPortState hport hok.1) hok.2

theorem commandPortDisable (h : OutputBufferRules P ok) (dir : OmxDir) (hP : P s)
    (hok : ∀ c ∈ s.portDisableCalls dir a, ok c) : P (s.commandPortDisable dir a) := by
  cases dir with
  | input =>
    simp only [AudioOutput.commandPortDisable]
    split
    · exact hP
    · split
      · exact h.returnInput hP _
      · exact h.frame (h.disableInput hP) rfl
  | output =>
    simp only [AudioOutput.commandPortDisable]
    split
    · exact hP
    · next henabled =>
      have henabled : s.d.outPort.isEnabled = true := by simpa [Port.isDisabled, Port.isEnabled] using henabled
      split
      · exact h.frame hP (ledger_of_lists (Port.disabled_lists s.d.outPort))
      · next hloaded =>
        refine h.frame (h.disableOutput hP fun c hc => hok c ?_) rfl
        simpa [portDisableCalls, henabled, hloaded] using hc

theorem commandPortEnable (h : OutputBufferRules P ok) (dir : OmxDir) (hP : P s) : P (s.commandPortEnable dir) := by
  cases dir with
  | input =>
    simp only [AudioOutput.commandPortEnable]
    split
    · exact hP
    · exact h.frame hP rfl
  | output =>
    simp only [AudioOutput.commandPortEnable]
    split
    · exact hP
    · have hport : P { s with d := { s.d with outPort := s.d.outPort.reenabled true } } :=
        h.frame hP (ledger_of_lists (Port.reenabled_lists true s.d.outPort))
      exact h.frame hport rfl

theorem giveUp (h : OutputBufferRules P ok) (hP : P s) {port : Port} (command : Option PortCommand)
    (hlists : port.bufferList = s.d.outPort.bufferList ∧ port.bufferQueue = s.d.outPort.bufferQueue) :
    P { s with d := { s.d with outPort := port }, portCommand := command } := by
  have hport : P { s with d := { s.d with outPort := port } } := h.frame hP (ledger_of_lists hlists)
  exact h.frame hport rfl

theorem resumePortCommand (h : OutputBufferRules P ok) {timeout : Bool} (hP : P s)
    (hok : ∀ c ∈ s.resumePortCalls a a', ok c) : P (s.resumePortCommand timeout a a') := by
  have hdone : P { s with portCommand := none } := h.frame hP rfl
  simp only [AudioOutput.resumePortCommand]
  split
  · exact hP
  · next hcommand =>
    simp only [resumePortCalls, hcommand] at hok
    split
    · next hpopulated =>
      rw [if_pos hpopulated] at hok
      have hset := h.setInputPortState hdone hok
      split
      · exact hset
      · exact h.commandPortDisable .input hset fun c hc => by simp [portDisableCalls] at hc
    · split
      · exact h.frame hP rfl
      · exact hP
  · next hcommand =>
    simp only [resumePortCalls, hcommand] at hok
    split
    · next hpopulated =>
      rw [if_pos hpopulated, List.forall_mem_append] at hok
      have hset := h.setOutputPortState hdone hok.1
      split
      · exact hset
      · next hfailed =>
        refine h.commandPortDisable .output hset fun c hc => hok.2 c ?_
        rw [if_neg hfailed]
        exact hc
    · split
      · exact h.giveUp hP none (Port.disabled_lists _)
      · exact hP
  · split
    · exact hdone
    · split
      · exact h.frame hP rfl
      · exact hP
  · split
    · exact hdone
    · split
      · exact h.giveUp hP none (Port.reenabled_lists true _)
      · exact hP

theorem setRunning (h : OutputBufferRules P ok) {newState : OmxState} (hP : P s) (hloaded : newState ≠ .loaded)
    (hidle : newState ≠ .idle) (hok : ∀ c ∈ s.setRunningCalls newState a a', ok c) :
    P (s.setRunning newState a a') := by
  have hset : P (if s.d.outPort.isPopulated && s.d.outPort.isEnabled then s.setOutputPortState newState a
      else (s, true)).1 := by
    split
    · exact h.setOutputPortState_quiet hP hloaded hidle
    · exact hP
  simp only [AudioOutput.setRunning, setRunningCalls] at hok ⊢
  generalize (if s.d.outPort.isPopulated && s.d.outPort.isEnabled then s.setOutputPortState newState a
    else (s, true)) = p at hset hok ⊢
  split
  · exact h.frame hset (endStateChange_ledger _)
  · next hdone =>
    have hdone : p.2 = true := by simpa using hdone
    split
    · next hin =>
      obtain ⟨hpopulated, henabled⟩ := Bool.and_eq_true_iff.mp hin
      simp only [hdone, hpopulated, henabled, Bool.and_true, if_true] at hok
      exact h.frame (h.setInputPortState hset hok) (endStateChange_ledger _)
    · exact h.frame hset (endStateChange_ledger _)

theorem setIdle (h : OutputBufferRules P ok) (hP : P s) (hok : ∀ c ∈ s.setIdleCalls a a', ok c) :
    P (s.setIdle a a') := by
  have hinput : ∀ t : AudioOutput, P t → P (if t.d.inp.port.isPopulated then (t.setInputPortState .idle a).1 else t) := by
    intro t ht
    split
    · exact h.setInputPortState_quiet ht OmxState.noConfusion
    · exact ht
  have houtput : ∀ t : AudioOutput, P t →
      (∀ c ∈ (if t.d.outPort.isPopulated then t.outputCalls .idle a' else []), ok c) →
      P (if t.d.outPort.isPopulated then (t.setOutputPortState .idle a').1 else t) := by
    intro t ht hcalls
    split
    · next hpopulated =>
      rw [if_pos hpopulated] at hcalls
      exact h.setOutputPortState ht hcalls
    · exact ht
  exact h.frame (houtput _ (hinput _ (h.returnInput hP _)) hok) (endStateChange_ledger true)

theorem setLoaded (h : OutputBufferRules P ok) (hP : P s) : P (s.setLoaded a) := by
  simp only [AudioOutput.setLoaded]
  split
  · exact h.frame (h.disableInput hP) rfl
  · exact h.frame hP rfl

theorem commandStateSet (h : OutputBufferRules P ok) {newState : OmxState} (hP : P s)
    (hok : ∀ c ∈ s.stateSetCalls newState a a', ok c) : P (s.commandStateSet newState a a') := by
  have htarget : P { s with d := { s.d with targetState := newState } } := h.frame hP rfl
  simp only [AudioOutput.commandStateSet, stateSetCalls] at hok ⊢
  split
  · exact hP
  · next hstart =>
    rw [if_neg hstart] at hok
    cases newState with
    | loaded => exact h.setLoaded htarget
    | idle =>
      simp only at hok ⊢
      split
      · exact h.frame htarget rfl
      · next hloaded =>
        rw [if_neg hloaded] at hok
        exact h.setIdle htarget hok
    | executing => exact h.setRunning htarget OmxState.noConfusion OmxState.noConfusion hok
    | pause =>
      refine h.setRunning htarget OmxState.noConfusion OmxState.noConfusion fun c hc => ?_
      have hquiet : ∀ t : AudioOutput, t.inputCalls .pause a' = [] := fun t => by simp [inputCalls]
      simp only [setRunningCalls, hquiet, ite_self, List.not_mem_nil] at hc
    | invalid | waitForResources => exact h.frame htarget (endStateChange_ledger false)

theorem setIdleFromLoaded (h : OutputBufferRules P ok) (hP : P s)
    (hok : ∀ c ∈ (if s.d.outPort.isPopulated && s.d.outPort.isEnabled then s.outputCalls .idle a else []), ok c) :
    P (s.setIdleFromLoaded a a') := by
  have hset : P (if s.d.outPort.isPopulated && s.d.outPort.isEnabled then s.setOutputPortState .idle a
      else (s, true)).1 := by
    split
    · next hport =>
      rw [if_pos hport] at hok
      exact h.setOutputPortState hP hok
    · exact hP
  simp only [AudioOutput.setIdleFromLoaded]
  generalize (if s.d.outPort.isPopulated && s.d.outPort.isEnabled then s.setOutputPortState .idle a
    else (s, true)) = p at hset ⊢
  split
  · exact h.frame hset (abandonIdle_ledger _ _)
  · split
    · have hinput : P (p.1.setInputPortState .idle a').1 := h.setInputPortState_quiet hset OmxState.noConfusion
      split
      · exact h.frame hinput (endStateChange_ledger true)
      · exact h.frame hinput (abandonIdle_ledger _ _)
    · exact h.frame hset (endStateChange_ledger true)

theorem resumeStateSet (h : OutputBufferRules P ok) {timeout : Bool} (hP : P s)
    (hok : ∀ c ∈ s.resumeStateCalls a, ok c) : P (s.resumeStateSet timeout a a') := by
  simp only [AudioOutput.resumeStateSet, resumeStateCalls] at hok ⊢
  split
  · exact hP
  · next hwait =>
    rw [hwait] at hok
    split
    · next hready =>
      refine h.setIdleFromLoaded hP fun c hc => hok c ?_
      simpa only [hready, Bool.true_and] using hc
    · split
      · exact h.frame hP (endStateChange_ledger false)
      · exact hP
  · next inputPortEnabled outputPortEnabled hwait =>
    rw [hwait] at hok
    split
    · next hready =>
      simp only [hready, Bool.true_and] at hok
      have hdisable : P (if outputPortEnabled then s.disableOutput a else s) := by
        split
        · next henabled =>
          rw [if_pos henabled] at hok
          exact h.disableOutput hP hok
        · exact hP
      exact h.frame hdisable rfl
    · split
      · exact h.frame (h.returnInput hP _) (endStateChange_ledger false)
      · exact hP
  · next inputPortEnabled outputPortEnabled hwait =>
    split
    · have hport : P { s with d := { s.d with
          inp := { s.d.inp with port := s.d.inp.port.reenabled inputPortEnabled }
          outPort := s.d.outPort.reenabled outputPortEnabled } } :=
        h.frame hP (ledger_of_lists (Port.reenabled_lists outputPortEnabled s.d.outPort))
      exact h.frame hport (endStateChange_ledger true)
    · split
      · have hport : P { s with d := { s.d with outPort := s.d.outPort.reenabled true } } :=
          h.frame hP (ledger_of_lists (Port.reenabled_lists true s.d.outPort))
        exact h.frame hport (endStateChange_ledger false)
      · exact hP

theorem step (h : OutputBufferRules P ok) {action : AudioOutputAction} (hP : P s) (hok : ∀ c ∈ s.calls action, ok c)
    (hstep : s.step action = some s') : P s' := by
  cases action with
  | input action =>
    simp only [AudioOutput.step] at hstep
    split at hstep
    · next hinput =>
      obtain ⟨d', hd, rfl⟩ := Option.map_eq_some_iff.mp hstep
      have hport := (AudioDecoder.inputStep_moved hinput hd).outPort
      exact h.frame hP (ledger_of_lists (by rw [hport]; exact ⟨rfl, rfl⟩))
    · cases hstep
  | allocateOutputBuffer b block =>
    obtain ⟨⟨hqueue, hlist⟩, rfl⟩ := Option.ite_some_none_eq_some.mp hstep
    exact h.allocate b block hP hqueue hlist
  | fillThisBuffer accepted b =>
    obtain ⟨hlist, rfl⟩ := Option.ite_some_none_eq_some.mp hstep
    exact h.fill accepted b hlist hP (hok _ (List.mem_singleton_self _))
  | freeOutputBuffer b =>
    cases hstep
    exact h.free b hP
  | outputFrameEvent r =>
    cases hstep
    exact h.poll r hP (hok _ (List.mem_singleton_self _))
  | addOutputBuffers accept =>
    cases hstep
    exact h.add accept hP
  | removeOutputBuffers a =>
    cases hstep
    exact h.remove a hP
  | setInputPortState newState a =>
    cases hstep
    exact h.setInputPortState hP hok
  | setOutputPortState newState a =>
    cases hstep
    exact h.setOutputPortState hP hok
  | flushInput a a' =>
    obtain ⟨-, rfl⟩ := Option.ite_some_none_eq_some.mp hstep
    exact h.flushInput hP hok
  | flushOutput a a' =>
    obtain ⟨-, rfl⟩ := Option.ite_some_none_eq_some.mp hstep
    exact h.flushOutput hP hok
  | portEnable dir =>
    obtain ⟨-, rfl⟩ := Option.ite_some_none_eq_some.mp hstep
    exact h.commandPortEnable dir hP
  | portDisable dir a =>
    obtain ⟨-, rfl⟩ := Option.ite_some_none_eq_some.mp hstep
    exact h.commandPortDisable dir hP hok
  | stateSet newState a a' =>
    obtain ⟨-, rfl⟩ := Option.ite_some_none_eq_some.mp hstep
    exact h.commandStateSet hP hok
  | resumePortCommand timeout a a' =>
    cases hstep
    exact h.resumePortCommand hP hok
  | resumeStateSet timeout a a' =>
    cases hstep
    exact h.resumeStateSet hP hok

end OutputBufferRules
end BcmPlatform.Bomx
