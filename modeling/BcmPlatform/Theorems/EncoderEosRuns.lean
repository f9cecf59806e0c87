import BcmPlatform.Theorems.EncoderEos
import BcmPlatform.Theorems.EncoderInput

/-! The end of the stream at the encoder's input, over whole runs: each one is pushed once, behind the frames in front of
    it, as long as no call pushes the dummy frame alone, nothing is taken past an end of the stream that waits, and Nexus
    only refuses one while it has a surface to give back. -/

namespace BcmPlatform.Bomx
open Lib

/-- Nexus takes all that has to do with the end of the stream. -/
structure ImageInputAnswers.Accepts (n : ImageInputAnswers) : Prop where
  allocateInputBuffer : ∀ pushed, n.allocateInputBuffer pushed = true
  extractNexusBuffer : ∀ pushed hSurface, n.extractNexusBuffer pushed hSurface = true
  pushSurface : ∀ pushed push, n.pushSurface pushed push = true

namespace EncoderRun
open EncoderInput
variable {r r' : EncoderRun}

/-! ### Runs -/

/-- What Nexus answers in a step of a started encoder. -/
def StepOk (r : EncoderRun) (a : EncoderRunAction) : Prop :=
  r.simpleEncoderStarted = true →
    match a with
    | .inputBufferLoop n => r.encoder.currentState ≠ .pause → ∀ b ∈ r.encoder.inPort.getBuffer, HeadOk n b r.encoder
    | .retryEos n => RetryOk n r.encoder
    | .setState _ | .startEncoder _ | .stopEncoder | .other _ => True

instance (n : ImageInputAnswers) (b : BufferId) (s : EncoderInput) : Decidable (HeadOk n b s) :=
  decidable_of_iff
    ((s.pushEos = true → (s.header b).nFilledLen > 0 → s.frameAccepted n b = false) ∧
      (s.pushEos = true → (s.header b).nFilledLen = 0 → (s.header b).nFlags.eos = true → s.eosAccepted n = true) ∧
      ((s.header b).nFilledLen = 0 → (s.header b).nFlags.eos = true → s.DummyKept n))
    ⟨fun ⟨h₁, h₂, h₃⟩ => ⟨h₁, h₂, h₃⟩, fun ⟨h₁, h₂, h₃⟩ => ⟨h₁, h₂, h₃⟩⟩

instance (n : ImageInputAnswers) (s : EncoderInput) : Decidable (RetryOk n s) :=
  decidable_of_iff
    ((s.pushEos = true → s.DummyKept n) ∧ (s.pushEos = true → s.eosAccepted n = false → s.imageSurfacePushedList ≠ []))
    ⟨fun ⟨h₁, h₂⟩ => ⟨h₁, h₂⟩, fun ⟨h₁, h₂⟩ => ⟨h₁, h₂⟩⟩

instance (r : EncoderRun) : (a : EncoderRunAction) → Decidable (StepOk r a)
  | .inputBufferLoop n => inferInstanceAs (Decidable (_ → _ → ∀ b ∈ r.encoder.inPort.getBuffer, HeadOk n b r.encoder))
  | .retryEos n => inferInstanceAs (Decidable (_ → RetryOk n r.encoder))
  | .setState _ | .startEncoder _ | .stopEncoder | .other _ => inferInstanceAs (Decidable (_ → True))

/-- What was taken since `StartEncoder` was pushed, up to an end of the stream that waits. -/
def EosKept (r : EncoderRun) : Prop := ∃ streams last, PushedFor streams last r.encoder.pushEos r.taken r.pushes

/-- An end of the stream that waits is tried again by this call, or for the event, or when a surface comes back. -/
def RetryDue (r : EncoderRun) : Prop :=
  r.encoder.pushEos = true → r.encoder.currentState = .executing →
    r.retrying = true ∨ r.encoder.inputBufferProcessEvent = true ∨ r.encoder.imageSurfacePushedList ≠ []

/-- Each end of the stream is pushed once, without a surface, behind its frames, or behind at most one dummy frame if it has
    none. If it waits, it will be tried again, and then it is pushed the same way, unless Nexus refuses it again. -/
structure EosServed (r : EncoderRun) : Prop where
  marked : ∀ p ∈ r.encoder.pushed.drop r.pushedBefore, p.Marked
  kept : r.EosKept
  due : r.RetryDue
  retried : ∀ n, ImageInputAnswers.Accepts n → r.encoder.pushEos = true →
    (r.encoder.pushDummyFrame = true → r.encoder.imageSurfaceFreeList ≠ []) →
    (r.encoder.retryEos n).pushEos = false ∧ EosKept { r with encoder := r.encoder.retryEos n }

/-- What holds in every state of a run. -/
structure Invariant (r : EncoderRun) : Prop where
  hImageInput : r.encoder.hImageInput = true
  logs : Logs r.taken r.pushedBefore r.encoder
  due : r.RetryDue

theorem inputBufferLoop_started {n : ImageInputAnswers} (hstep : r.inputBufferLoop n = some r') :
    r'.simpleEncoderStarted = r.simpleEncoderStarted := by
  rw [EncoderRun.inputBufferLoop] at hstep
  dsimp only at hstep
  split at hstep
  · cases hstep
    rfl
  · obtain ⟨s', -, rfl⟩ := Option.map_eq_some_iff.mp hstep
    rfl

theorem Invariant.inputBufferLoop {n : ImageInputAnswers} (h : Invariant r)
    (hok : r.encoder.currentState ≠ .pause → ∀ b ∈ r.encoder.inPort.getBuffer, HeadOk n b r.encoder)
    (hstep : r.inputBufferLoop n = some r') : Invariant r' ∧ (r.encoder.pushEos = true → r'.encoder.pushEos = true) ∧
      (r.encoder.currentState ≠ .pause → r'.retrying = true) := by
  have hlogs : Logs r.taken r.pushedBefore { r.encoder with inputBufferProcessEvent := false } :=
    ⟨h.logs.length, h.logs.marked, h.logs.logged⟩
  rw [EncoderRun.inputBufferLoop] at hstep
  dsimp only at hstep
  split at hstep
  · next hpause =>
    cases hstep
    refine ⟨⟨h.hImageInput, hlogs, fun _ hexecuting => ?_⟩, id, fun hrunning => absurd hpause hrunning⟩
    have hexecuting : r.encoder.currentState = .executing := hexecuting
    rw [hexecuting] at hpause
    cases hpause
  · next hrunning =>
    obtain ⟨s', hloop, himage, hpending, hlogs'⟩ := inputBufferLoop_logs (n := n) hlogs fun b hb => by
      obtain ⟨hframe, heos, hdummy⟩ := hok hrunning b hb
      exact ⟨hframe, heos, hdummy⟩
    dsimp only at hloop
    rw [hloop] at hstep
    cases hstep
    exact ⟨⟨himage.trans h.hImageInput, hlogs', fun _ _ => .inl rfl⟩, hpending, fun _ => rfl⟩

theorem Invariant.setState (newState : OmxState) (h : r.simpleEncoderStarted = true → Invariant r)
    (hstarted : (r.setState newState).simpleEncoderStarted = true) : Invariant (r.setState newState) := by
  rw [EncoderRun.setState] at hstarted ⊢
  dsimp only at hstarted ⊢
  split
  · next hresume =>
    obtain ⟨himage, hlogs, -⟩ := h (Bool.and_eq_true_iff.mp hresume).1
    exact ⟨himage, ⟨hlogs.length, hlogs.marked, hlogs.logged⟩, fun _ _ => .inr (.inl rfl)⟩
  · next hidle =>
    rw [if_neg hidle] at hstarted
    obtain ⟨himage, hlogs, -⟩ := h hstarted
    refine ⟨himage, ⟨hlogs.length, hlogs.marked, hlogs.logged⟩, fun _ hexecuting => absurd ?_ hidle⟩
    have hexecuting : newState = .executing := hexecuting
    have hstarted : r.simpleEncoderStarted = true := hstarted
    simp [hstarted, hexecuting]

theorem Invariant.startEncoder (hSurfaces : List Nat) (r : EncoderRun) : Invariant (r.startEncoder hSurfaces) := by
  have hdrop : (r.startEncoder hSurfaces).encoder.pushed.drop (r.startEncoder hSurfaces).pushedBefore = [] := List.drop_length
  refine ⟨rfl, ⟨Nat.le_refl _, ?_, ?_⟩, nofun⟩
  · rw [hdrop]
    nofun
  · rw [hdrop]
    exact Logged.nil _

theorem Invariant.other {a : EncoderInputAction} {s : EncoderInput} (h : Invariant r) (hother : a.isOther = true)
    (hstep : r.encoder.step a = some s) : Invariant { r with encoder := s } := by
  obtain ⟨hpushed, hdummy, heos, himage, hstate, hevent, hheld⟩ := step_keeps hother hstep
  refine ⟨himage.trans h.hImageInput, ⟨?_, ?_, ?_⟩, fun hset hexecuting => ?_⟩
  · rw [hpushed]
    exact h.logs.length
  · rw [hpushed]
    exact h.logs.marked
  · rw [hpushed, hdummy, heos]
    exact h.logs.logged
  · dsimp only at hset hexecuting ⊢
    rw [heos] at hset
    rw [hstate] at hexecuting
    rcases h.due hset hexecuting with hretrying | hset' | hne
    · exact .inl hretrying
    · exact .inr (.inl (hevent hset'))
    · exact .inr (hheld h.hImageInput hset hne)

theorem Invariant.retryEos {n : ImageInputAnswers} (h : Invariant r) (hok : RetryOk n r.encoder) :
    Invariant { r with encoder := r.encoder.retryEos n, retrying := false } := by
  obtain ⟨hlogs, himage, hretry⟩ := retryEos_logs h.logs hok.dummy
  refine ⟨himage.trans h.hImageInput, hlogs, fun hset _ => .inr (.inr ?_)⟩
  dsimp only at hset ⊢
  rcases hretry with ⟨hrefused, hstate⟩ | ⟨-, hdone, -⟩
  · rw [hstate] at hset ⊢
    rcases hrefused with hnone | hrefused
    · rw [hnone] at hset
      cases hset
    · exact hok.held hset hrefused
  · rw [hdone] at hset
    cases hset

theorem Invariant.step {a : EncoderRunAction} (h : r.simpleEncoderStarted = true → Invariant r) (hok : StepOk r a)
    (hstep : r.step a = some r') : r'.simpleEncoderStarted = true → Invariant r' := by
  intro hstarted
  cases a with
  | inputBufferLoop n =>
    simp only [EncoderRun.step] at hstep
    split at hstep
    · cases hstep
    · have hbefore : r.simpleEncoderStarted = true := (inputBufferLoop_started hstep).symm.trans hstarted
      exact ((h hbefore).inputBufferLoop (hok hbefore) hstep).1
  | retryEos n =>
    simp only [EncoderRun.step] at hstep
    split at hstep
    · cases hstep
      exact (h hstarted).retryEos (hok hstarted)
    · cases hstep
  | setState newState =>
    simp only [EncoderRun.step] at hstep
    split at hstep
    · cases hstep
    · cases hstep
      exact Invariant.setState newState h hstarted
  | startEncoder hSurfaces =>
    simp only [EncoderRun.step] at hstep
    split at hstep
    · cases hstep
    · cases hstep
      exact Invariant.startEncoder hSurfaces r
  | stopEncoder =>
    simp only [EncoderRun.step] at hstep
    split at hstep
    · cases hstep
    · cases hstep
      cases hstarted
  | other a =>
    simp only [EncoderRun.step] at hstep
    split at hstep
    · cases hstep
    · next hother =>
      obtain ⟨s, hs, rfl⟩ := Option.map_eq_some_iff.mp hstep
      have hother : a.isOther = true := by simpa using (not_or.mp (mt Bool.or_eq_true_iff.mpr hother)).2
      exact (h hstarted).other hother hs

theorem retried_of_logs {n : ImageInputAnswers} (hn : ImageInputAnswers.Accepts n)
    (hlogs : Logs r.taken r.pushedBefore r.encoder)
    (hfree : r.encoder.pushDummyFrame = true → r.encoder.imageSurfaceFreeList ≠ []) :
    (r.encoder.retryEos n).pushEos = false ∧ EosKept { r with encoder := r.encoder.retryEos n } := by
  have hend : r.encoder.endAccepted n = true := hn.pushSurface _ _
  have haccepted : r.encoder.eosAccepted n = true := by
    rw [eosAccepted, hend, Bool.and_true]
    cases hdummy : r.encoder.pushDummyFrame with
    | false => rfl
    | true =>
      obtain ⟨hSurface, rest, hcons⟩ := List.exists_cons_of_ne_nil (hfree hdummy)
      simp [dummyAccepted, hn.allocateInputBuffer, hcons, hn.extractNexusBuffer, hn.pushSurface]
  obtain ⟨hlogs', -, hretry⟩ := retryEos_logs hlogs (n := n) fun _ _ _ => hend
  have hdone : (r.encoder.retryEos n).pushEos = false := by
    rcases hretry with ⟨hnone | hrefused, hstate⟩ | ⟨-, hdone, -⟩
    · rw [hstate, hnone]
    · rw [hrefused] at haccepted
      cases haccepted
    · exact hdone
  obtain ⟨streams, frames, hpushed, -⟩ := hlogs'.logged
  exact ⟨hdone, streams, .ofFrames frames, hpushed⟩

theorem invariant_of_run {inputDef : PortDefinition} (h : Reaches step StepOk { encoder := EncoderInput.init inputDef } r)
    (hstarted : r.simpleEncoderStarted = true) : Invariant r :=
  Reaches.invariant (P := fun r => r.simpleEncoderStarted = true → Invariant r)
    (fun hnot => absurd hnot Bool.false_ne_true) (fun _ _ _ hr hok hstep => Invariant.step hr hok hstep) h hstarted

/-! ### Runs that do not end -/

/-- The encoder stays in Executing, its thread serves the event, surfaces come back, and Nexus does not refuse an end of the
    stream that is tried again and again. -/
structure Fair (run : EndlessRun step StepOk) : Prop where
  started : ∀ i, (run.state i).simpleEncoderStarted = true
  executing : ∀ i, (run.state i).encoder.currentState = .executing
  called : ∀ i, (run.state i).encoder.inputBufferProcessEvent = true → ∃ j, i ≤ j ∧ ∃ n, run.action j = .inputBufferLoop n
  recycled : ∀ i, (run.state i).encoder.imageSurfacePushedList ≠ [] →
    ∃ j, i ≤ j ∧ ∃ hFreeSurface, run.action j = .other (.imageBufferProcess hFreeSurface)
  accepted : ∀ i, (∀ j, i ≤ j → ∃ k, j ≤ k ∧ ∃ n, run.action k = .retryEos n) →
    ∃ k, i ≤ k ∧ ∃ n, run.action k = .retryEos n ∧ (run.state k).encoder.eosAccepted n = true

theorem step_of_retrying {a : EncoderRunAction} (hretrying : r.retrying = true) (hstep : r.step a = some r') :
    ∃ n, a = .retryEos n := by
  cases a with
  | retryEos n => exact ⟨n, rfl⟩
  | inputBufferLoop | setState | startEncoder | stopEncoder | other => simp [EncoderRun.step, hretrying] at hstep

theorem event_of_recycled {hFreeSurface : List Nat} (himage : r.encoder.hImageInput = true)
    (hpending : r.encoder.pushEos = true) (hstep : r.step (.other (.imageBufferProcess hFreeSurface)) = some r') :
    r'.encoder.inputBufferProcessEvent = true := by
  simp only [EncoderRun.step] at hstep
  split at hstep
  · cases hstep
  · obtain ⟨s, hs, rfl⟩ := Option.map_eq_some_iff.mp hstep
    simp only [EncoderInput.step] at hs
    split at hs
    · cases hs
      obtain ⟨_, _, _, _, _, hrecycled⟩ := recycleSurfaces_eq hFreeSurface r.encoder
      simp [imageBufferProcess, himage, hrecycled, hpending]
    · cases hs

theorem Invariant.pushed_of_step {a : EncoderRunAction} (h : Invariant r) (hok : StepOk r a) (hstep : r.step a = some r')
    (hstarted : r.simpleEncoderStarted = true) (hstarted' : r'.simpleEncoderStarted = true)
    (hpending : r.encoder.pushEos = true) (hdone : r'.encoder.pushEos = false) :
    r'.taken = r.taken ∧
      r'.pushes = r.pushes ++ ((if r.encoder.pushDummyFrame then [.dummy] else []) ++ [.eos]) := by
  cases a with
  | retryEos n =>
    simp only [EncoderRun.step] at hstep
    split at hstep
    · cases hstep
      have hok : RetryOk n r.encoder := hok hstarted
      obtain ⟨-, -, ⟨-, hstate⟩ | ⟨-, -, hpushed⟩⟩ := retryEos_logs h.logs hok.dummy
      · have hwaits : (r.encoder.retryEos n).pushEos = false := hdone
        rw [hstate, hpending] at hwaits
        cases hwaits
      · exact ⟨rfl, hpushed⟩
    · cases hstep
  | inputBufferLoop n =>
    simp only [EncoderRun.step] at hstep
    split at hstep
    · cases hstep
    · have hset := (h.inputBufferLoop (hok hstarted) hstep).2.1 hpending
      rw [hdone] at hset
      cases hset
  | setState newState =>
    simp only [EncoderRun.step] at hstep
    split at hstep
    · cases hstep
    · cases hstep
      have hkept : (r.setState newState).encoder.pushEos = r.encoder.pushEos := by
        rw [EncoderRun.setState]
        dsimp only
        split <;> rfl
      rw [hkept, hpending] at hdone
      cases hdone
  | startEncoder hSurfaces => simp [EncoderRun.step, hstarted] at hstep
  | stopEncoder =>
    simp only [EncoderRun.step] at hstep
    split at hstep
    · cases hstep
    · cases hstep
      cases hstarted'
  | other a =>
    simp only [EncoderRun.step] at hstep
    split at hstep
    · cases hstep
    · next hother =>
      obtain ⟨s, hs, rfl⟩ := Option.map_eq_some_iff.mp hstep
      have hother : a.isOther = true := by simpa using (not_or.mp (mt Bool.or_eq_true_iff.mpr hother)).2
      rw [(step_keeps hother hs).pushEos, hpending] at hdone
      cases hdone

theorem exists_retry {run : EndlessRun step StepOk} (hfair : Fair run) (hinvariant : ∀ i, Invariant (run.state i)) {i : Nat}
    (hpending : ∀ j, i ≤ j → (run.state j).encoder.pushEos = true) : ∃ k, i ≤ k ∧ ∃ n, run.action k = .retryEos n := by
  have hevent {j : Nat} (hj : i ≤ j) (hset : (run.state j).encoder.inputBufferProcessEvent = true) :
      ∃ k, i ≤ k ∧ ∃ n, run.action k = .retryEos n := by
    obtain ⟨k, hk, n, haction⟩ := hfair.called j hset
    have hstep := run.step k
    have hok := run.ok k (hfair.started k)
    have hrunning : (run.state k).encoder.currentState ≠ .pause := by
      rw [hfair.executing k]
      nofun
    rw [haction] at hstep hok
    simp only [EncoderRun.step] at hstep
    split at hstep
    · cases hstep
    · have hretrying := ((hinvariant k).inputBufferLoop hok hstep).2.2 hrunning
      exact ⟨k + 1, by omega, step_of_retrying hretrying (run.step (k + 1))⟩
  rcases (hinvariant i).due (hpending i (Nat.le_refl i)) (hfair.executing i) with hretrying | hset | hheld
  · exact ⟨i, Nat.le_refl i, step_of_retrying hretrying (run.step i)⟩
  · exact hevent (Nat.le_refl i) hset
  · obtain ⟨j, hj, hFreeSurface, haction⟩ := hfair.recycled i hheld
    have hstep := run.step j
    rw [haction] at hstep
    exact hevent (Nat.le_succ_of_le hj) (event_of_recycled (hinvariant j).hImageInput (hpending j hj) hstep)

theorem exists_pushed {run : EndlessRun step StepOk} (hfair : Fair run) (hinvariant : ∀ i, Invariant (run.state i)) {i : Nat}
    (hpending : (run.state i).encoder.pushEos = true) :
    ∃ j, i ≤ j ∧ (run.state j).encoder.pushEos = true ∧ (run.state (j + 1)).encoder.pushEos = false ∧
      (run.state (j + 1)).taken = (run.state j).taken ∧
      (run.state (j + 1)).pushes = (run.state j).pushes ++
        ((if (run.state j).encoder.pushDummyFrame then [.dummy] else []) ++ [.eos]) := by
  have hend : ¬ ∀ j, i ≤ j → (run.state j).encoder.pushEos = true := by
    intro hwaits
    obtain ⟨k, hk, n, haction, haccepted⟩ := hfair.accepted i fun j hj =>
      exists_retry hfair hinvariant fun k hk => hwaits k (Nat.le_trans hj hk)
    have hstep := run.step k
    have hok := run.ok k (hfair.started k)
    rw [haction] at hstep hok
    simp only [EncoderRun.step] at hstep
    split at hstep
    · have hnext := hwaits (k + 1) (Nat.le_succ_of_le hk)
      rw [← Option.some.inj hstep] at hnext
      have hnext : ((run.state k).encoder.retryEos n).pushEos = true := hnext
      have hok : RetryOk n (run.state k).encoder := hok
      obtain ⟨-, -, ⟨hrefused, -⟩ | ⟨-, hdone, -⟩⟩ := retryEos_logs (hinvariant k).logs hok.dummy
      · rw [hwaits k hk, haccepted] at hrefused
        simp at hrefused
      · rw [hdone] at hnext
        cases hnext
    · cases hstep
  obtain ⟨j, hj, hbefore, hafter⟩ := run.exists_last (P := fun r => r.encoder.pushEos = true) hpending hend
  rw [Bool.not_eq_true] at hafter
  exact ⟨j, hj, hbefore, hafter, (hinvariant j).pushed_of_step (run.ok j) (run.step j) (hfair.started j)
    (hfair.started (j + 1)) hbefore hafter⟩

private def eosRefused : ImageInputAnswers := { pushSurface := fun _ push => !push.endOfStream }

/-- A frame, and an end of the stream behind it that was refused twice. -/
private def refusedTwice : List EncoderRunAction :=
  [.other (.addBuffer 0 false), .other (.addBuffer 1 false), .setState .executing, .startEncoder [10],
   .other (.emptyThisBuffer 0 { nAllocLen := 8, nFilledLen := 8 }),
   .other (.emptyThisBuffer 1 { nAllocLen := 8, nFlags := { eos := true } }),
   .inputBufferLoop {}, .retryEos {}, .inputBufferLoop eosRefused, .retryEos eosRefused]

private def onlyEos : List EncoderRunAction :=
  [.other (.addBuffer 0 false), .setState .executing, .startEncoder [10, 11],
   .other (.emptyThisBuffer 0 { nAllocLen := 8, nFlags := { eos := true } })]

theorem step_of_idle {n : ImageInputAnswers} (hretrying : r.retrying = false) (hqueue : r.encoder.inPort.bufferQueue = [])
    (hevent : r.encoder.inputBufferProcessEvent = false) (hrunning : r.encoder.currentState ≠ .pause) :
    r.step (.inputBufferLoop n) = some { r with retrying := true } := by
  have hsame : { r.encoder with inputBufferProcessEvent := false } = r.encoder := by
    rw [← hevent]
  simp [EncoderRun.step, hretrying, EncoderRun.inputBufferLoop, hsame, hrunning, Port.getBuffer, hqueue,
    EncoderInput.inputBufferLoop]

theorem step_of_served {n : ImageInputAnswers} (hretrying : r.retrying = false) (hserved : r.encoder.pushEos = false) :
    step { r with retrying := true } (.retryEos n) = some r := by
  simp only [EncoderRun.step, if_true, EncoderInput.retryEos, hserved, Bool.false_eq_true, if_false]
  rw [← hretrying]

/-- The end of the stream waits, behind a surface that the encoder has. -/
private def waiting : EncoderRun :=
  (runChecked step (fun r a => decide (StepOk r a)) { encoder := EncoderInput.init inputDefinition } refusedTwice).get (by decide)

private def recycled : EncoderRun := (waiting.step (.other (.imageBufferProcess [10]))).get (by decide)

private def triedAgain : EncoderRun := (recycled.step (.inputBufferLoop {})).get (by decide)

private def served : EncoderRun := (triedAgain.step (.retryEos {})).get (by decide)

private def onAndOnState : Nat → EncoderRun
  | 0 => waiting
  | 1 => recycled
  | 2 => triedAgain
  | i + 3 => if i % 2 = 0 then served else { served with retrying := true }

private def onAndOnAction : Nat → EncoderRunAction
  | 0 => .other (.imageBufferProcess [10])
  | i + 1 => if i % 2 = 0 then .inputBufferLoop {} else .retryEos {}

private theorem onAndOn_even {i : Nat} (hi : i % 2 = 0) :
    onAndOnState (i + 3) = served ∧ onAndOnAction (i + 3) = .inputBufferLoop {} ∧
      onAndOnState (i + 4) = { served with retrying := true } := by
  simp [onAndOnState, onAndOnAction, hi, Nat.add_mod]

private theorem onAndOn_odd {i : Nat} (hi : i % 2 ≠ 0) :
    onAndOnState (i + 3) = { served with retrying := true } ∧ onAndOnAction (i + 3) = .retryEos {} ∧
      onAndOnState (i + 4) = served := by
  have hone : i % 2 = 1 := by omega
  simp [onAndOnState, onAndOnAction, hone, Nat.add_mod]

/-- The surface comes back, the end of the stream is pushed, and then the thread finds nothing to do. -/
private def onAndOn : EndlessRun step StepOk where
  state := onAndOnState
  action := onAndOnAction
  ok
    | 0 => by decide
    | 1 => by decide
    | 2 => by decide
    | i + 3 => by
      by_cases hi : i % 2 = 0
      · obtain ⟨hstate, haction, -⟩ := onAndOn_even hi
        rw [hstate, haction]
        decide
      · obtain ⟨hstate, haction, -⟩ := onAndOn_odd hi
        rw [hstate, haction]
        decide
  step
    | 0 => (Option.some_get (by decide : (waiting.step _).isSome)).symm
    | 1 => (Option.some_get (by decide : (recycled.step _).isSome)).symm
    | 2 => (Option.some_get (by decide : (triedAgain.step _).isSome)).symm
    | i + 3 => by
      by_cases hi : i % 2 = 0
      · obtain ⟨hstate, haction, hnext⟩ := onAndOn_even hi
        rw [hstate, haction, hnext]
        exact step_of_idle (by decide) (by decide) (by decide) (by decide)
      · obtain ⟨hstate, haction, hnext⟩ := onAndOn_odd hi
        rw [hstate, haction, hnext]
        exact step_of_served (by decide) (by decide)

private theorem onAndOn_fair : Fair onAndOn where
  started
    | 0 => by decide
    | 1 => by decide
    | 2 => by decide
    | i + 3 => by
      change (onAndOnState (i + 3)).simpleEncoderStarted = true
      rw [onAndOnState]
      split <;> decide
  executing
    | 0 => by decide
    | 1 => by decide
    | 2 => by decide
    | i + 3 => by
      change (onAndOnState (i + 3)).encoder.currentState = .executing
      rw [onAndOnState]
      split <;> decide
  called i _ := ⟨2 * i + 3, by omega, {}, (onAndOn_even (by omega)).2.1⟩
  recycled
    | 0, _ => ⟨0, Nat.le_refl 0, [10], rfl⟩
    | 1, h => absurd h (by decide)
    | 2, h => absurd h (by decide)
    | i + 3, h => by
      change (onAndOnState (i + 3)).encoder.imageSurfacePushedList ≠ [] at h
      rw [onAndOnState] at h
      split at h <;> exact absurd h (by decide)
  accepted i _ := by
    obtain ⟨hstate, haction, -⟩ := @onAndOn_odd (2 * i + 1) (by omega)
    refine ⟨2 * i + 1 + 3, by omega, {}, haction, ?_⟩
    change (onAndOnState (2 * i + 1 + 3)).encoder.eosAccepted {} = true
    rw [hstate]
    decide

end EncoderRun
end BcmPlatform.Bomx
