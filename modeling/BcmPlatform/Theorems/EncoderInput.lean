import BcmPlatform.Bomx.EncoderInput
import BcmPlatform.Lib.Prefixes
import BcmPlatform.Lib.Runs
import BcmPlatform.Bomx.Port

/-! What one call of the encoder's `InputBufferProcess` pushes. The counters of the two surface lists are their lengths in
    every state; the loop over the queue asks for the buffer behind the one that it has just returned, and so ends after one
    buffer. -/

namespace BcmPlatform.Bomx

/-- The buffer whose frame is pushed. -/
def ImageSource.frames : ImageSource → List BufferId
  | .frame b => [b]
  | .dummy | .eos => []

namespace EncoderInput
open Lib

variable {n : ImageInputAnswers} {b : BufferId} {s s' s'' : EncoderInput}

/-! ### The surface lists -/

/-- The counters are the lengths of the lists. -/
structure CountsMatch (s : EncoderInput) : Prop where
  free : s.nImageSurfaceFreeListLen = s.imageSurfaceFreeList.length
  pushed : s.nImageSurfacePushedListLen = s.imageSurfacePushedList.length

/-- The surfaces, free and pushed ones. -/
def surfaces (s : EncoderInput) : Nat := s.imageSurfaceFreeList.length + s.imageSurfacePushedList.length

/-- The buffers of which a surface was pushed. -/
def framesPushed (s : EncoderInput) : List BufferId := s.pushed.flatMap fun p => p.source.frames

theorem alogAssert_of_true {cond : Bool} (h : cond = true) (a : EncoderInputAssert) (s : EncoderInput) :
    s.alogAssert cond a = s := if_pos h

theorem surfacePushed_eq {hSurface : Nat} {rest : List Nat} (push : ImagePush) (hcounts : s.CountsMatch)
    (hfree : s.imageSurfaceFreeList = hSurface :: rest) :
    s.surfacePushed push hSurface = { s with
      imageSurfaceFreeList := rest, nImageSurfaceFreeListLen := rest.length
      imageSurfacePushedList := s.imageSurfacePushedList ++ [hSurface]
      nImageSurfacePushedListLen := s.imageSurfacePushedList.length + 1
      pushed := s.pushed ++ [push] } := by
  have hlen : s.nImageSurfaceFreeListLen = rest.length + 1 := by rw [hcounts.free, hfree, List.length_cons]
  rw [surfacePushed, alogAssert_of_true (decide_eq_true (by rw [hlen]; exact Nat.succ_pos _))]
  simp only [hfree, List.tail_cons, hlen, hcounts.pushed, sub32_of_le (Nat.le_add_left 1 _), Nat.add_sub_cancel]

/-- What the encoder may do with surfaces without touching the client's buffers. -/
structure Pushes (frames : List BufferId) (s s' : EncoderInput) : Prop where
  counts : s'.CountsMatch
  surfaces : s'.surfaces = s.surfaces
  framesPushed : s'.framesPushed = s.framesPushed ++ frames
  header : s'.header = s.header
  inPort : s'.inPort = s.inPort
  currentState : s'.currentState = s.currentState
  returned : s'.returned = s.returned

namespace Pushes
variable {frames frames' : List BufferId}

theorem refl (h : s.CountsMatch) : Pushes [] s s := ⟨h, rfl, (List.append_nil _).symm, rfl, rfl, rfl, rfl⟩

theorem trans (h : Pushes frames s s') (h' : Pushes frames' s' s'') : Pushes (frames ++ frames') s s'' where
  counts := h'.counts
  surfaces := h'.surfaces.trans h.surfaces
  framesPushed := by rw [h'.framesPushed, h.framesPushed, List.append_assoc]
  header := h'.header.trans h.header
  inPort := h'.inPort.trans h.inPort
  currentState := h'.currentState.trans h.currentState
  returned := h'.returned.trans h.returned

end Pushes

theorem surfacePushed_pushes {hSurface : Nat} {rest : List Nat} (push : ImagePush) {frames : List BufferId}
    (hcounts : s.CountsMatch) (hfree : s.imageSurfaceFreeList = hSurface :: rest) (hframes : push.source.frames = frames) :
    Pushes frames s (s.surfacePushed push hSurface) := by
  rw [surfacePushed_eq push hcounts hfree]
  refine ⟨⟨rfl, by simp⟩, ?_, ?_, rfl, rfl, rfl, rfl⟩
  · simp only [surfaces, hfree, List.length_append, List.length_cons, List.length_nil]
    omega
  · simp [framesPushed, hframes]

/-! ### What is pushed for a buffer -/

theorem buildDummyFrame_pushes (hcounts : s.CountsMatch) : Pushes [] s (s.buildDummyFrame n).1 := by
  simp only [buildDummyFrame]
  split
  · exact .refl hcounts
  · split
    · exact .refl hcounts
    · next hSurface rest hfree =>
      split
      · exact .refl hcounts
      · split
        · exact .refl hcounts
        · exact surfacePushed_pushes _ hcounts hfree rfl

theorem pushInputEosFrame_pushes (hcounts : s.CountsMatch) : Pushes [] s (s.pushInputEosFrame n).1 := by
  have hdummy : Pushes [] s (if s.pushDummyFrame then s.buildDummyFrame n else (s, .none)).1 := by
    split
    · exact buildDummyFrame_pushes hcounts
    · exact .refl hcounts
  simp only [pushInputEosFrame]
  generalize (if s.pushDummyFrame then s.buildDummyFrame n else (s, .none)) = p at hdummy ⊢
  split
  · exact hdummy
  · split
    · refine ⟨⟨hdummy.counts.free, hdummy.counts.pushed⟩, hdummy.surfaces, ?_, hdummy.header, hdummy.inPort,
        hdummy.currentState, hdummy.returned⟩
      rw [← hdummy.framesPushed]
      simp [framesPushed, ImageSource.frames]
    · exact hdummy

theorem handleEos_pushes (hcounts : s.CountsMatch) : Pushes [] s (s.handleEos n b) := by
  have heos := pushInputEosFrame_pushes (n := n) hcounts
  simp only [handleEos]
  split
  · split
    · exact heos
    · exact ⟨⟨heos.counts.free, heos.counts.pushed⟩, heos.surfaces, heos.framesPushed, heos.header, heos.inPort,
        heos.currentState, heos.returned⟩
  · exact .refl hcounts

theorem retryEos_pushes (hcounts : s.CountsMatch) : Pushes [] s (s.retryEos n) := by
  have heos := pushInputEosFrame_pushes (n := n) hcounts
  simp only [retryEos]
  split
  · split
    · exact ⟨⟨heos.counts.free, heos.counts.pushed⟩, heos.surfaces, heos.framesPushed, heos.header, heos.inPort,
        heos.currentState, heos.returned⟩
    · exact heos
  · exact .refl hcounts

/-- How many surfaces a buffer needs. -/
def need (s : EncoderInput) (b : BufferId) : Nat := if (s.header b).nFilledLen > 0 then 1 else 0

/-- The conversion and the pushes of surfaces succeed; the end of the stream has no surface. -/
structure ImageInputAnswers.Succeeds (n : ImageInputAnswers) : Prop where
  convert : ∀ pushed header hSurface, n.convert pushed header hSurface = true
  pushSurface : ∀ pushed push, push.hSurface.isSome = true → n.pushSurface pushed push = true

theorem pushFrame_pushes (hn : ImageInputAnswers.Succeeds n) (hcounts : s.CountsMatch) {hSurface : Nat} {rest : List Nat}
    (hfree : s.imageSurfaceFreeList = hSurface :: rest) :
    Pushes [b] s (s.pushFrame n b).1 ∧ (s.pushFrame n b).2 = .none := by
  have hpush : n.pushSurface s.pushed (s.framePush b hSurface) = true := hn.pushSurface _ _ rfl
  simp only [pushFrame, hfree, hn.convert, hpush, Bool.not_true, Bool.false_eq_true, if_false, and_true]
  have h : Pushes [b] s (s.surfacePushed (s.framePush b hSurface) hSurface) := surfacePushed_pushes _ hcounts hfree rfl
  exact ⟨⟨h.counts.free, h.counts.pushed⟩, h.surfaces, h.framesPushed, h.header, h.inPort, h.currentState, h.returned⟩

/-- The buffers of a list that have data. -/
def withData (s : EncoderInput) (l : List BufferId) : List BufferId := l.filter fun b => (s.header b).nFilledLen > 0

/-- The buffers in `l` were pushed, if they have data, and returned, in this order. -/
structure Taken (l : List BufferId) (s s' : EncoderInput) : Prop where
  counts : s'.CountsMatch
  surfaces : s'.surfaces = s.surfaces
  framesPushed : s'.framesPushed = s.framesPushed ++ s.withData l
  returned : s'.returned = s.returned ++ l
  queue : s'.inPort.bufferQueue = s.inPort.bufferQueue.drop l.length

theorem buildInputFrame_taken (hn : ImageInputAnswers.Succeeds n) (hcounts : s.CountsMatch) {rest : List BufferId}
    (hqueue : s.inPort.bufferQueue = b :: rest) (hneed : s.need b ≤ s.imageSurfaceFreeList.length) :
    Taken [b] s (s.buildInputFrame n b).1 ∧ (s.buildInputFrame n b).2 = .none ∧
      (s.buildInputFrame n b).1.inPort = s.inPort.bufferComplete b := by
  have hpushed : Pushes (s.withData [b]) s (if (s.header b).nFilledLen > 0 then s.pushFrame n b else (s, .none)).1 ∧
      (if (s.header b).nFilledLen > 0 then s.pushFrame n b else (s, .none)).2 = .none := by
    by_cases hdata : (s.header b).nFilledLen > 0
    · rw [if_pos hdata]
      rw [need, if_pos hdata] at hneed
      obtain ⟨hSurface, rest, hfree⟩ := List.exists_cons_of_length_pos hneed
      simpa [withData, hdata] using pushFrame_pushes (b := b) hn hcounts hfree
    · rw [if_neg hdata]
      simpa [withData, hdata] using Pushes.refl hcounts
  simp only [buildInputFrame]
  generalize (if (s.header b).nFilledLen > 0 then s.pushFrame n b else (s, .none)) = p at hpushed ⊢
  obtain ⟨hframe, hnone⟩ := hpushed
  have h := hframe.trans (handleEos_pushes (n := n) (b := b) hframe.counts)
  rw [hnone, if_neg (fun hne => hne rfl), List.append_nil] at *
  refine ⟨⟨⟨h.counts.free, h.counts.pushed⟩, h.surfaces, h.framesPushed, ?_, ?_⟩, rfl, ?_⟩
  · rw [returnPortBuffer, h.returned]
  · rw [returnPortBuffer, h.inPort, Port.bufferComplete_head hqueue, hqueue]
    rfl
  · rw [returnPortBuffer, h.inPort]

theorem buildInputFrame_of_lt (hneed : s.imageSurfaceFreeList.length < s.need b) :
    s.buildInputFrame n b = (s, .insufficientResources) := by
  have hdata : (s.header b).nFilledLen > 0 := by
    by_contra hdata
    rw [need, if_neg hdata] at hneed
    exact Nat.not_lt_zero _ hneed
  rw [need, if_pos hdata, Nat.lt_one_iff, List.length_eq_zero_iff] at hneed
  simp [buildInputFrame, hdata, pushFrame, hneed]

/-! ### The loop over the queue -/

/-- The buffers that the free surfaces suffice for: the longest prefix of the queue that needs no more of them. -/
def fitting (s : EncoderInput) : List BufferId := affordable s.need s.imageSurfaceFreeList.length s.inPort.bufferQueue

theorem Taken.of_counts (hcounts : s.CountsMatch) : Taken [] s s :=
  ⟨hcounts, rfl, (List.append_nil _).symm, (List.append_nil _).symm, rfl⟩

theorem Taken.pushes {l : List BufferId} (h : Taken l s s') (h' : Pushes [] s' s'') : Taken l s s'' where
  counts := h'.counts
  surfaces := h'.surfaces.trans h.surfaces
  framesPushed := by rw [h'.framesPushed, List.append_nil, h.framesPushed]
  returned := h'.returned.trans h.returned
  queue := by rw [h'.inPort, h.queue]

theorem Taken.unique {l l' : List BufferId} (h : Taken l s s') (h' : Taken l' s s') : l = l' :=
  List.append_cancel_left (h.returned.symm.trans h'.returned)

theorem inputBufferLoop_taken (hn : ImageInputAnswers.Succeeds n) (hcounts : s.CountsMatch) :
    ∃ s', inputBufferLoop n s.inPort.queueDepth s.inPort.getBuffer s = some s' ∧ Taken (s.fitting.take 1) s s' := by
  rw [fitting, Port.queueDepth, Port.getBuffer]
  rcases hqueue : s.inPort.bufferQueue with _ | ⟨b, rest⟩
  · exact ⟨s, rfl, .of_counts hcounts⟩
  · rw [affordable, List.head?_cons, List.length_cons, inputBufferLoop]
    by_cases hneed : s.need b ≤ s.imageSurfaceFreeList.length
    · obtain ⟨htaken, hnone, hport⟩ := buildInputFrame_taken hn hcounts hqueue hneed
      refine ⟨(s.buildInputFrame n b).1, ?_, ?_⟩
      · simp only [hnone, if_true, hport, Port.getNextBuffer_bufferComplete, inputBufferLoop]
      · rw [if_pos hneed]
        exact htaken
    · rw [if_neg hneed, buildInputFrame_of_lt (Nat.lt_of_not_le hneed)]
      exact ⟨s, rfl, .of_counts hcounts⟩

theorem inputBufferProcess_taken (hn : ImageInputAnswers.Succeeds n) (hcounts : s.CountsMatch)
    (hstate : s.currentState ≠ .pause) :
    ∃ s', s.inputBufferProcess n = some s' ∧ Taken (s.fitting.take 1) s s' := by
  obtain ⟨s₁, hloop, htaken⟩ := inputBufferLoop_taken hn hcounts
  refine ⟨s₁.retryEos n, ?_, htaken.pushes (retryEos_pushes htaken.counts)⟩
  rw [inputBufferProcess, if_neg hstate, hloop]
  rfl

/-! ### The counters in every state -/

theorem pushFrame_counts (hcounts : s.CountsMatch) : (s.pushFrame n b).1.CountsMatch := by
  rw [pushFrame]
  split
  · exact hcounts
  · next hSurface rest hfree =>
    split
    · exact hcounts
    · split
      · exact hcounts
      · have h := surfacePushed_pushes (s.framePush b hSurface) hcounts hfree rfl
        exact ⟨h.counts.free, h.counts.pushed⟩

theorem buildInputFrame_counts (hcounts : s.CountsMatch) : (s.buildInputFrame n b).1.CountsMatch := by
  have hframe : (if (s.header b).nFilledLen > 0 then s.pushFrame n b else (s, .none)).1.CountsMatch := by
    split
    · exact pushFrame_counts hcounts
    · exact hcounts
  simp only [buildInputFrame]
  generalize (if (s.header b).nFilledLen > 0 then s.pushFrame n b else (s, .none)) = p at hframe ⊢
  split
  · exact hframe
  · have h := (handleEos_pushes (n := n) (b := b) hframe).counts
    exact ⟨h.free, h.pushed⟩

theorem inputBufferLoop_counts (fuel : Nat) (pBuffer : Option BufferId) (hcounts : s.CountsMatch)
    (h : inputBufferLoop n fuel pBuffer s = some s') : s'.CountsMatch := by
  induction fuel generalizing pBuffer s with
  | zero =>
    cases pBuffer with
    | none =>
      cases h
      exact hcounts
    | some b => cases h
  | succ fuel ih =>
    cases pBuffer with
    | none =>
      cases h
      exact hcounts
    | some b =>
      have hbuild := buildInputFrame_counts (n := n) (b := b) hcounts
      simp only [inputBufferLoop] at h
      split at h
      · exact ih _ hbuild h
      · cases h
        exact hbuild

theorem inputBufferProcess_counts (hcounts : s.CountsMatch) (h : s.inputBufferProcess n = some s') :
    s'.CountsMatch := by
  rw [inputBufferProcess] at h
  split at h
  · cases h
    exact hcounts
  · obtain ⟨s₁, hloop, rfl⟩ := Option.map_eq_some_iff.mp h
    exact (retryEos_pushes (inputBufferLoop_counts _ _ hcounts hloop)).counts

theorem alogAssert_counts {cond : Bool} {a : EncoderInputAssert} (hcounts : s.CountsMatch) :
    (s.alogAssert cond a).CountsMatch := by
  rw [alogAssert]
  split
  · exact hcounts
  · exact ⟨hcounts.free, hcounts.pushed⟩

theorem recycleSurfaces_counts (hFreeSurface : List Nat) (hcounts : s.CountsMatch) :
    (s.recycleSurfaces hFreeSurface).CountsMatch := by
  induction hFreeSurface generalizing s with
  | nil => exact hcounts
  | cons h rest ih =>
    rw [recycleSurfaces]
    split
    · exact alogAssert_counts hcounts
    · next hSurface pushedList hpushed =>
      have hlen : s.nImageSurfacePushedListLen = pushedList.length + 1 := by
        rw [hcounts.pushed, hpushed, List.length_cons]
      simp only [alogAssert]
      apply ih
      split <;> split <;> constructor <;>
        simp [hcounts.free, hlen, sub32_of_le (Nat.le_add_left 1 _)]

theorem step_counts {a : EncoderInputAction} (hcounts : s.CountsMatch) (h : s.step a = some s') : s'.CountsMatch := by
  cases a with
  | addBuffer b componentAllocated =>
    cases h
    rw [addBuffer]
    split
    · exact hcounts
    · exact ⟨hcounts.free, hcounts.pushed⟩
  | freeBuffer | setState | setFramerate =>
    cases h
    exact ⟨hcounts.free, hcounts.pushed⟩
  | emptyThisBuffer b header =>
    cases h
    simp only [emptyThisBuffer]
    split
    · exact ⟨hcounts.free, hcounts.pushed⟩
    · split <;> exact ⟨hcounts.free, hcounts.pushed⟩
  | startEncoder hSurfaces =>
    cases h
    exact ⟨by simp [startEncoder, hcounts.free], hcounts.pushed⟩
  | stopEncoder =>
    cases h
    exact ⟨rfl, rfl⟩
  | inputBufferProcess n => exact inputBufferProcess_counts hcounts h
  | imageBufferProcess hFreeSurface =>
    simp only [step] at h
    split at h
    · cases h
      have hrecycled := recycleSurfaces_counts hFreeSurface hcounts
      simp only [imageBufferProcess]
      split
      · exact hcounts
      · split
        · exact ⟨hrecycled.free, hrecycled.pushed⟩
        · exact hrecycled
    · cases h

/-- The states of the input side in any run. -/
def Reachable (inputDef : PortDefinition) (s : EncoderInput) : Prop :=
  Reaches step (fun _ _ => True) (init inputDef) s

theorem counts_of_reachable {inputDef : PortDefinition} (h : Reachable inputDef s) : s.CountsMatch :=
  Reaches.invariant ⟨rfl, rfl⟩ (fun _ _ _ hcounts _ hstep => step_counts hcounts hstep) h

/-! ### Greedy and in order -/

/-- One call outside the Pause state, with conversions and pushes that succeed, pushes and returns the longest prefix of the
    queue for which there are surfaces, if and only if there is no second buffer that a surface is left for. The counters
    of the surface lists are right in every state. -/
theorem inputBufferProcess_greedy_iff (inputDef : PortDefinition) :
    (∀ s, Reachable inputDef s → s.CountsMatch) ∧
    ∀ (n : ImageInputAnswers) (s : EncoderInput), ImageInputAnswers.Succeeds n → s.CountsMatch → s.currentState ≠ .pause →
      ∃ s', s.inputBufferProcess n = some s' ∧ s'.CountsMatch ∧ s'.surfaces = s.surfaces ∧
        (Taken s.fitting s s' ↔
          ∀ b c rest, s.inPort.bufferQueue = b :: c :: rest → s.imageSurfaceFreeList.length < s.need b + s.need c) := by
  refine ⟨fun s => counts_of_reachable, fun n s hn hcounts hstate => ?_⟩
  obtain ⟨s', hs', htaken⟩ := inputBufferProcess_taken hn hcounts hstate
  refine ⟨s', hs', htaken.counts, htaken.surfaces, ?_⟩
  rw [← length_affordable_le_one_iff]
  constructor
  · intro h
    have htake := congrArg List.length (h.unique htaken)
    rw [List.length_take] at htake
    rw [fitting] at htake
    omega
  · intro h
    have hfitting : s.fitting.length ≤ 1 := h
    rwa [List.take_of_length_le hfitting] at htaken

/-- The client's buffers `0` and `1` with `len` bytes each, in front of an encoder with two surfaces. -/
def twoQueued (len : Nat) : List EncoderInputAction :=
  [.addBuffer 0 false, .addBuffer 1 false, .setState .executing, .startEncoder [10, 11],
   .emptyThisBuffer 0 { nAllocLen := 8, nFilledLen := len, nTimeStamp := 1000000 },
   .emptyThisBuffer 1 { nAllocLen := 8, nFilledLen := len, nTimeStamp := 1040000 }]

def inputDefinition : PortDefinition := { nPortIndex := 0, nBufferCountActual := 2, nBufferCountMin := 1, nBufferSize := 8 }

theorem exists_reachable (actions : List EncoderInputAction) (p : EncoderInput → Bool)
    (h : (runChecked step (fun _ _ => true) (init inputDefinition) actions).any p = true) :
    ∃ s, Reachable inputDefinition s ∧ p s = true := by
  obtain ⟨s, hs, hp⟩ := Reaches.exists_of_run _ _ _ actions p h
  exact ⟨s, hs.mono fun _ _ _ => trivial, hp⟩

/-- With two free surfaces and two buffers only the first buffer is pushed. -/
theorem inputBufferProcess_stops_after_first :
    ∃ s s', Reachable inputDefinition s ∧ s.currentState ≠ .pause ∧ s.imageSurfaceFreeList.length = 2 ∧
      s.inPort.bufferQueue = [0, 1] ∧ s.inputBufferProcess {} = some s' ∧ s'.returned = [0] ∧
      s'.inPort.bufferQueue = [1] ∧ ¬ Taken s.fitting s s' := by
  obtain ⟨s, hs, hp⟩ := exists_reachable (twoQueued 8)
    (fun s => s.currentState ≠ .pause && s.imageSurfaceFreeList.length = 2 && s.inPort.bufferQueue = [0, 1] &&
      s.fitting = [0, 1] && s.returned = [] &&
      (s.inputBufferProcess {}).any fun s' => s'.returned = [0] && s'.inPort.bufferQueue = [1]) (by decide)
  simp only [Bool.and_eq_true, decide_eq_true_eq, Option.any_eq_true] at hp
  obtain ⟨⟨⟨⟨⟨hstate, hfree⟩, hqueue⟩, hfitting⟩, hnone⟩, s', hs', hreturned, hrest⟩ := hp
  refine ⟨s, s', hs, hstate, hfree, hqueue, hs', hreturned, hrest, fun htaken => ?_⟩
  have h := htaken.returned
  rw [hreturned, hfitting, hnone] at h
  cases h

/-- With one buffer, or when the surfaces run out, the call takes what it can. -/
theorem inputBufferProcess_greedy_one :
    ∃ s s', s.inPort.bufferQueue = [0, 1] ∧ s.imageSurfaceFreeList.length = 1 ∧ s.inputBufferProcess {} = some s' ∧
      Taken s.fitting s s' := by
  obtain ⟨s, hs, hp⟩ := exists_reachable (twoQueued 8 ++ [.stopEncoder, .startEncoder [10],
      .emptyThisBuffer 0 { nAllocLen := 8, nFilledLen := 8 }, .emptyThisBuffer 1 { nAllocLen := 8, nFilledLen := 8 }])
    (fun s => s.currentState ≠ .pause && s.imageSurfaceFreeList.length = 1 && s.inPort.bufferQueue = [0, 1] &&
      s.need 0 + s.need 1 = 2) (by decide)
  simp only [Bool.and_eq_true, decide_eq_true_eq] at hp
  obtain ⟨⟨⟨hstate, hfree⟩, hqueue⟩, hneed⟩ := hp
  obtain ⟨hcounts, hcall⟩ := inputBufferProcess_greedy_iff inputDefinition
  obtain ⟨s', hs', -, -, hiff⟩ := hcall {} s ⟨fun _ _ _ => rfl, fun _ _ _ => rfl⟩ (hcounts s hs) hstate
  refine ⟨s, s', hqueue, hfree, hs', hiff.mpr fun b c rest h => ?_⟩
  rw [hqueue] at h
  cases h
  omega

end EncoderInput
end BcmPlatform.Bomx
