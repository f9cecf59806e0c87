import BcmPlatform.Bomx.EncoderInput
import BcmPlatform.Bomx.Port

/-! What the encoder's `InputBufferProcess` pushes for the end of a stream: the log of what was taken from the queue and
    what was pushed, and what one buffer and one retry add to it. -/

namespace BcmPlatform.Bomx

/-- The end of the stream is the push without a surface, and the one with `endOfStream`. -/
structure ImagePush.Marked (p : ImagePush) : Prop where
  hSurface : p.source = .eos ↔ p.hSurface = none
  endOfStream : p.source = .eos ↔ p.endOfStream = true

/-! ### Streams -/

/-- A stream: its frames, or at most a dummy frame. -/
structure InputStream where
  frames : List BufferId
  dummy : Bool
  dummy_of_frames : dummy = true → frames = []

namespace InputStream

def ofFrames (frames : List BufferId) : InputStream := ⟨frames, false, fun h => absurd h Bool.false_ne_true⟩

@[simp]
theorem ofFrames_frames (frames : List BufferId) : (ofFrames frames).frames = frames := rfl

@[simp]
theorem ofFrames_dummy (frames : List BufferId) : (ofFrames frames).dummy = false := rfl

def dummies (st : InputStream) : List ImageSource := if st.dummy then [.dummy] else []

/-- The buffers of a stream. -/
def taken (st : InputStream) : List ImageSource := st.frames.map .frame ++ [.eos]

/-- What is pushed for a stream: the frames, and last the end of the stream. -/
def pushes (st : InputStream) : List ImageSource := st.frames.map .frame ++ st.dummies ++ [.eos]

end InputStream

/-- What was taken was pushed, stream by stream. Only the end of the last stream may wait. -/
structure PushedFor (streams : List InputStream) (last : InputStream) (pending : Bool) (taken pushes : List ImageSource) :
    Prop where
  taken : taken = streams.flatMap InputStream.taken ++ (last.frames.map .frame ++ if pending then [.eos] else [])
  pushes : pushes = streams.flatMap InputStream.pushes ++ (last.frames.map .frame ++ last.dummies)
  dummy : last.dummy = true → pending = true

theorem count_frames {x : ImageSource} (hx : ∀ b, x ≠ .frame b) (frames : List BufferId) :
    (frames.map ImageSource.frame).count x = 0 := by
  refine List.count_eq_zero.mpr fun hmem => ?_
  obtain ⟨b, -, hb⟩ := List.mem_map.mp hmem
  exact hx b hb.symm

theorem PushedFor.dummies_le {streams : List InputStream} {last : InputStream} {pending : Bool} {taken pushes : List ImageSource}
    (h : PushedFor streams last pending taken pushes) : pushes.count .dummy ≤ taken.count .eos := by
  have hdummy := @count_frames .dummy nofun
  have heos := @count_frames .eos nofun
  have hstreams : (streams.flatMap InputStream.pushes).count .dummy ≤ (streams.flatMap InputStream.taken).count .eos := by
    clear h
    induction streams with
    | nil => exact Nat.le_refl _
    | cons st streams ih =>
      have hstream : st.pushes.count .dummy ≤ st.taken.count .eos := by
        rw [InputStream.pushes, InputStream.taken, InputStream.dummies]
        cases st.dummy <;> simp [hdummy, heos]
      rw [List.flatMap_cons, List.flatMap_cons, List.count_append, List.count_append]
      exact Nat.add_le_add hstream ih
  have hlast : last.dummies.count .dummy ≤ (if pending then [ImageSource.eos] else []).count .eos := by
    have hpending := h.dummy
    rw [InputStream.dummies]
    cases hset : last.dummy with
    | false => exact Nat.zero_le _
    | true =>
      rw [hpending hset]
      exact Nat.le_refl _
  rw [h.taken, h.pushes]
  simp only [List.count_append, hdummy, heos, Nat.zero_add]
  exact Nat.add_le_add hstreams hlast

/-- Nothing but frames was pushed of the last stream, and if there was one, no dummy frame will be. -/
def Logged (taken pushes : List ImageSource) (pushDummyFrame pending : Bool) : Prop :=
  ∃ streams frames, PushedFor streams (.ofFrames frames) pending taken pushes ∧ (frames ≠ [] → pushDummyFrame = false)

section Logged
variable {taken pushes : List ImageSource} {pushDummyFrame : Bool}

theorem Logged.nil (pushDummyFrame : Bool) : Logged [] [] pushDummyFrame false :=
  ⟨[], [], ⟨rfl, rfl, nofun⟩, fun h => absurd rfl h⟩

theorem Logged.frame (h : Logged taken pushes pushDummyFrame false) (b : BufferId) :
    Logged (taken ++ [.frame b]) (pushes ++ [.frame b]) false false := by
  obtain ⟨streams, frames, ⟨htaken, hpushes, -⟩, -⟩ := h
  refine ⟨streams, frames ++ [b], ⟨?_, ?_, nofun⟩, fun _ => rfl⟩
  · simp [htaken]
  · simp [hpushes, InputStream.dummies]

theorem Logged.take (h : Logged taken pushes pushDummyFrame false) : Logged (taken ++ [.eos]) pushes pushDummyFrame true := by
  obtain ⟨streams, frames, ⟨htaken, hpushes, -⟩, hdummy⟩ := h
  exact ⟨streams, frames, ⟨by simp [htaken], hpushes, nofun⟩, hdummy⟩

theorem Logged.close (h : Logged taken pushes pushDummyFrame true) :
    Logged taken (pushes ++ ((if pushDummyFrame then [.dummy] else []) ++ [.eos])) pushDummyFrame false := by
  obtain ⟨streams, frames, ⟨htaken, hpushes, -⟩, hdummy⟩ := h
  have hnone : pushDummyFrame = true → frames = [] := by
    intro hset
    by_contra hne
    rw [hdummy hne] at hset
    cases hset
  refine ⟨streams ++ [⟨frames, pushDummyFrame, hnone⟩], [], ⟨?_, ?_, nofun⟩, fun h => absurd rfl h⟩
  · simp [htaken, InputStream.taken]
  · simp [hpushes, InputStream.pushes, InputStream.dummies]

end Logged

namespace EncoderInput
variable {n : ImageInputAnswers} {b : BufferId} {s s' : EncoderInput}

/-! ### What Nexus takes -/

def frameAccepted (n : ImageInputAnswers) (b : BufferId) (s : EncoderInput) : Bool :=
  s.imageSurfaceFreeList.head?.any fun hSurface =>
    n.convert s.pushed (s.header b) hSurface && n.pushSurface s.pushed (s.framePush b hSurface)

def dummyAccepted (n : ImageInputAnswers) (s : EncoderInput) : Bool :=
  n.allocateInputBuffer s.pushed && s.imageSurfaceFreeList.head?.any fun hSurface =>
    n.extractNexusBuffer s.pushed hSurface && n.pushSurface s.pushed (s.dummyPush hSurface)

/-- The dummy frame in front of the end of the stream, if there is one to push. -/
def dummies (s : EncoderInput) : List ImagePush :=
  if s.pushDummyFrame then (s.imageSurfaceFreeList.head?.map s.dummyPush).toList else []

abbrev eosPush : ImagePush := { source := .eos, endOfStream := true }

/-- Nexus takes the end of the stream, once it has the dummy frame. -/
def endAccepted (n : ImageInputAnswers) (s : EncoderInput) : Bool :=
  n.pushSurface (s.pushed ++ s.dummies) eosPush

/-- Nexus takes what `PushInputEosFrame` pushes. -/
def eosAccepted (n : ImageInputAnswers) (s : EncoderInput) : Bool :=
  (!s.pushDummyFrame || s.dummyAccepted n) && s.endAccepted n

/-- The dummy frame is not pushed alone. -/
def DummyKept (n : ImageInputAnswers) (s : EncoderInput) : Prop :=
  s.pushDummyFrame = true → s.dummyAccepted n = true → s.endAccepted n = true

instance : Decidable (s.DummyKept n) := inferInstanceAs (Decidable (_ → _))

/-! ### Pushing -/

/-- Surfaces were pushed as `ps`; all else is as it was. -/
def Moves (ps : List ImagePush) (s s' : EncoderInput) : Prop :=
  (∀ p ∈ ps, p.Marked) ∧ ∃ free pushedList freeLen pushedLen asserts,
    (s.imageSurfacePushedList ≠ [] → pushedList ≠ []) ∧ s' = { s with
      imageSurfaceFreeList := free, imageSurfacePushedList := pushedList
      nImageSurfaceFreeListLen := freeLen, nImageSurfacePushedListLen := pushedLen
      asserts := asserts, pushed := s.pushed ++ ps }

theorem surfacePushed_moves {push : ImagePush} (hmarked : push.Marked) (hSurface : Nat) (s : EncoderInput) :
    Moves [push] s (s.surfacePushed push hSurface) := by
  refine ⟨fun p hp => by rwa [List.mem_singleton.mp hp], ?_⟩
  simp only [surfacePushed, alogAssert]
  split
  · exact ⟨_, _, _, _, _, fun _ => by simp, rfl⟩
  · exact ⟨_, _, _, _, _, fun _ => by simp, rfl⟩

theorem buildDummyFrame_cases (n : ImageInputAnswers) (s : EncoderInput) :
    (s.dummyAccepted n = false ∧ (s.buildDummyFrame n).1 = s ∧ (s.buildDummyFrame n).2 ≠ .none) ∨
      s.dummyAccepted n = true ∧ (s.buildDummyFrame n).2 = .none ∧ ∃ hSurface,
        s.imageSurfaceFreeList.head? = some hSurface ∧ Moves [s.dummyPush hSurface] s (s.buildDummyFrame n).1 := by
  simp only [buildDummyFrame, dummyAccepted]
  cases n.allocateInputBuffer s.pushed with
  | false => exact .inl ⟨rfl, rfl, nofun⟩
  | true =>
    cases hfree : s.imageSurfaceFreeList with
    | nil => exact .inl ⟨rfl, rfl, nofun⟩
    | cons hSurface rest =>
      simp only [Bool.true_and, List.head?_cons, Option.any_some, Bool.not_true, Bool.false_eq_true, if_false]
      cases n.extractNexusBuffer s.pushed hSurface with
      | false => exact .inl ⟨rfl, rfl, nofun⟩
      | true =>
        cases n.pushSurface s.pushed (s.dummyPush hSurface) with
        | false => exact .inl ⟨rfl, rfl, nofun⟩
        | true => exact .inr ⟨rfl, rfl, hSurface, rfl, surfacePushed_moves ⟨by simp [dummyPush], by simp [dummyPush]⟩ _ _⟩

theorem Moves.trans {ps ps' : List ImagePush} {s'' : EncoderInput} (h : Moves ps s s') (h' : Moves ps' s' s'') :
    Moves (ps ++ ps') s s'' := by
  obtain ⟨hmarked, _, _, _, _, _, hheld, rfl⟩ := h
  obtain ⟨hmarked', free, pushedList, freeLen, pushedLen, asserts, hheld', rfl⟩ := h'
  refine ⟨fun p hp => (List.mem_append.mp hp).elim (hmarked p) (hmarked' p), free, pushedList, freeLen, pushedLen, asserts,
    fun hne => hheld' (hheld hne), ?_⟩
  simp only [List.append_assoc]

theorem Moves.refl (s : EncoderInput) : Moves [] s s :=
  ⟨nofun, _, _, _, _, _, id, by rw [List.append_nil]⟩

theorem eosPush_moves (s : EncoderInput) : Moves [eosPush] s { s with pushed := s.pushed ++ [eosPush] } :=
  ⟨fun p hp => by rw [List.mem_singleton.mp hp]; exact ⟨by simp, by simp⟩, _, _, _, _, _, id, rfl⟩

theorem pushInputEosFrame_cases (hkept : s.DummyKept n) :
    (s.eosAccepted n = false ∧ s.pushInputEosFrame n = (s, false)) ∨
      s.eosAccepted n = true ∧ (s.pushInputEosFrame n).2 = true ∧ ∃ ps, Moves ps s (s.pushInputEosFrame n).1 ∧
        ps.map (·.source) = (if s.pushDummyFrame then [.dummy] else []) ++ [.eos] := by
  cases hdummy : s.pushDummyFrame with
  | false =>
    have hpush : s.pushInputEosFrame n =
        if n.pushSurface s.pushed eosPush then ({ s with pushed := s.pushed ++ [eosPush] }, true) else (s, false) := by
      have hnone : (if s.pushDummyFrame then s.buildDummyFrame n else (s, .none)) = (s, .none) := by
        rw [hdummy]
        rfl
      rw [pushInputEosFrame, hnone]
      rfl
    have hend : s.eosAccepted n = n.pushSurface s.pushed eosPush := by
      rw [eosAccepted, endAccepted, dummies, hdummy]
      simp
    rw [hpush, hend]
    cases n.pushSurface s.pushed eosPush with
    | false => exact .inl ⟨rfl, rfl⟩
    | true => exact .inr ⟨rfl, rfl, [eosPush], eosPush_moves s, rfl⟩
  | true =>
    rcases buildDummyFrame_cases n s with ⟨hrefused, hstate, herror⟩ | ⟨haccepted, hnone, hSurface, hfree, hmoves⟩
    · left
      rw [eosAccepted, hrefused, hdummy, pushInputEosFrame, hdummy]
      simp [herror, hstate]
    · have hend := hkept hdummy haccepted
      right
      have hdummies : (s.buildDummyFrame n).1.pushed = s.pushed ++ s.dummies := by
        obtain ⟨-, _, _, _, _, _, -, hs'⟩ := hmoves
        rw [hs', dummies, hdummy, hfree]
        rfl
      rw [endAccepted, ← hdummies] at hend
      refine ⟨by rw [eosAccepted, endAccepted, ← hdummies, haccepted, hend, Bool.or_true]; rfl, ?_⟩
      simp only [pushInputEosFrame, hdummy, if_true, hnone, ne_eq, not_true_eq_false, if_false, hend]
      exact ⟨trivial, _, hmoves.trans (eosPush_moves _), rfl⟩

theorem pushFrame_cases (n : ImageInputAnswers) (b : BufferId) (s : EncoderInput) :
    (s.frameAccepted n b = false ∧ (s.pushFrame n b).1 = s ∧ (s.pushFrame n b).2 ≠ .none) ∨
      s.frameAccepted n b = true ∧ (s.pushFrame n b).2 = .none ∧ ∃ ps s', Moves ps s s' ∧
        ps.map (·.source) = [.frame b] ∧ (s.pushFrame n b).1 = { s' with pushDummyFrame := false } := by
  simp only [pushFrame, frameAccepted]
  cases hfree : s.imageSurfaceFreeList with
  | nil => exact .inl ⟨rfl, rfl, nofun⟩
  | cons hSurface rest =>
    simp only [List.head?_cons, Option.any_some]
    cases n.convert s.pushed (s.header b) hSurface with
    | false => exact .inl ⟨rfl, rfl, nofun⟩
    | true =>
      cases n.pushSurface s.pushed (s.framePush b hSurface) with
      | false => exact .inl ⟨rfl, rfl, nofun⟩
      | true =>
        exact .inr ⟨rfl, rfl, [s.framePush b hSurface], _, surfacePushed_moves ⟨by simp [framePush], by simp [framePush]⟩ _ _,
          rfl, rfl⟩

theorem handleEos_cases (heos : (s.header b).nFlags.eos = true) (hkept : s.DummyKept n) :
    (s.eosAccepted n = false ∧ s.handleEos n b = { s with pushEos := true }) ∨
      s.eosAccepted n = true ∧ ∃ ps, Moves ps s (s.handleEos n b) ∧
        ps.map (·.source) = (if s.pushDummyFrame then [.dummy] else []) ++ [.eos] := by
  simp only [handleEos, heos, if_true]
  rcases pushInputEosFrame_cases hkept with ⟨hrefused, hpush⟩ | ⟨haccepted, hpush, ps, hmoves, hsources⟩
  · exact .inl ⟨hrefused, by rw [hpush]; rfl⟩
  · exact .inr ⟨haccepted, ps, by rwa [hpush, if_pos rfl], hsources⟩

theorem retryEos_cases (hpending : s.pushEos = true) (hkept : s.DummyKept n) :
    (s.eosAccepted n = false ∧ s.retryEos n = s) ∨
      s.eosAccepted n = true ∧ ∃ ps s', Moves ps s s' ∧ s.retryEos n = { s' with pushEos := false } ∧
        ps.map (·.source) = (if s.pushDummyFrame then [.dummy] else []) ++ [.eos] := by
  simp only [retryEos, hpending, if_true]
  rcases pushInputEosFrame_cases hkept with ⟨hrefused, hpush⟩ | ⟨haccepted, hpush, ps, hmoves, hsources⟩
  · exact .inl ⟨hrefused, by rw [hpush]; rfl⟩
  · exact .inr ⟨haccepted, ps, _, hmoves, by rw [hpush, if_pos rfl], hsources⟩

/-! ### The log -/

/-- Since `before` pushes, what was taken was pushed. -/
structure Logs (taken : List ImageSource) (before : Nat) (s : EncoderInput) : Prop where
  length : before ≤ s.pushed.length
  marked : ∀ p ∈ s.pushed.drop before, p.Marked
  logged : Logged taken ((s.pushed.drop before).map (·.source)) s.pushDummyFrame s.pushEos

section Logs
variable {taken : List ImageSource} {before : Nat} {ps : List ImagePush}

theorem Moves.drop_pushed (h : Moves ps s s') (hbefore : before ≤ s.pushed.length) :
    s'.pushed.drop before = s.pushed.drop before ++ ps := by
  obtain ⟨-, _, _, _, _, _, -, rfl⟩ := h
  exact List.drop_append_of_le_length hbefore

/-- What the pushes for a buffer leave alone. -/
structure Same (s s' : EncoderInput) : Prop where
  inPort : s'.inPort = s.inPort
  header : s'.header = s.header
  returned : s'.returned = s.returned
  hImageInput : s'.hImageInput = s.hImageInput
  pushEos : s.pushEos = true → s'.pushEos = true

theorem Same.refl (s : EncoderInput) : Same s s := ⟨rfl, rfl, rfl, rfl, id⟩

theorem Logs.moves (h : Logs taken before s) (hmoves : Moves ps s s') {taken' : List ImageSource} {pushDummyFrame pushEos : Bool}
    (hlogged : Logged taken' ((s.pushed.drop before).map (·.source) ++ ps.map (·.source)) pushDummyFrame pushEos) :
    Logs taken' before { s' with pushDummyFrame := pushDummyFrame, pushEos := pushEos } := by
  have hdrop := hmoves.drop_pushed h.length
  obtain ⟨hmarked, _, _, _, _, _, -, rfl⟩ := hmoves
  refine ⟨Nat.le_trans h.length (by simp), fun p hp => ?_, ?_⟩
  · rw [hdrop] at hp
    exact (List.mem_append.mp hp).elim (h.marked p) (hmarked p)
  · rw [hdrop, List.map_append]
    exact hlogged

theorem Moves.same (h : Moves ps s s') : Same s s' := by
  obtain ⟨-, _, _, _, _, _, -, rfl⟩ := h
  exact ⟨rfl, rfl, rfl, rfl, id⟩

theorem frame_logs (h : Logs taken before s)
    (hwaits : s.pushEos = true → (s.header b).nFilledLen > 0 → s.frameAccepted n b = false) {p : EncoderInput × OmxError}
    (hp : (if (s.header b).nFilledLen > 0 then s.pushFrame n b else (s, .none)) = p) :
    (p.2 ≠ .none ∧ p.1 = s) ∨
      p.2 = .none ∧ Same s p.1 ∧ Logs (taken ++ if (s.header b).nFilledLen > 0 then [.frame b] else []) before p.1 ∧
        ((s.header b).nFilledLen > 0 → p.1.pushEos = false ∧ p.1.pushDummyFrame = false) ∧
        ((s.header b).nFilledLen = 0 → p.1 = s) := by
  subst hp
  by_cases hdata : (s.header b).nFilledLen > 0
  · rw [if_pos hdata, if_pos hdata]
    rcases pushFrame_cases n b s with ⟨-, hstate, herror⟩ | ⟨haccepted, hnone, ps, s', hmoves, hsources, hstate⟩
    · exact .inl ⟨herror, hstate⟩
    · have hpending : s.pushEos = false := by
        cases hset : s.pushEos with
        | false => rfl
        | true =>
          rw [hwaits hset hdata] at haccepted
          cases haccepted
      have hlogged := h.logged
      rw [hpending] at hlogged
      have hsame := hmoves.same
      have hpending' : s'.pushEos = false := by
        obtain ⟨-, _, _, _, _, _, -, rfl⟩ := hmoves
        exact hpending
      have hlogs : Logs (taken ++ [.frame b]) before { s' with pushDummyFrame := false, pushEos := s'.pushEos } :=
        h.moves hmoves (by rw [hsources, hpending']; exact hlogged.frame b)
      refine .inr ⟨hnone, ?_, ?_, fun _ => ?_, fun hzero => absurd hdata (by omega)⟩
      · rw [hstate]
        exact ⟨hsame.inPort, hsame.header, hsame.returned, hsame.hImageInput, hsame.pushEos⟩
      · rw [hstate]
        exact hlogs
      · rw [hstate]
        exact ⟨hpending', rfl⟩
  · rw [if_neg hdata, if_neg hdata, List.append_nil]
    exact .inr ⟨rfl, .refl s, h, fun hpos => absurd hpos hdata, fun _ => rfl⟩

theorem handleEos_logs (h : Logs taken before s)
    (hwaits : (s.header b).nFlags.eos = true → s.pushEos = true → s.eosAccepted n = true)
    (hkept : (s.header b).nFlags.eos = true → s.DummyKept n) :
    Same s (s.handleEos n b) ∧ Logs (taken ++ if (s.header b).nFlags.eos then [.eos] else []) before (s.handleEos n b) := by
  cases heos : (s.header b).nFlags.eos with
  | false =>
    have hnone : s.handleEos n b = s := by
      rw [handleEos, heos]
      rfl
    rw [hnone, if_neg Bool.false_ne_true, List.append_nil]
    exact ⟨.refl s, h⟩
  | true =>
    rw [if_pos rfl]
    have hlogged := h.logged
    rcases handleEos_cases heos (hkept heos) with ⟨hrefused, hstate⟩ | ⟨-, ps, hmoves, hsources⟩
    · have hpending : s.pushEos = false := by
        cases hset : s.pushEos with
        | false => rfl
        | true =>
          rw [hwaits heos hset] at hrefused
          cases hrefused
      rw [hpending] at hlogged
      rw [hstate]
      exact ⟨⟨rfl, rfl, rfl, rfl, fun _ => rfl⟩, h.length, h.marked, hlogged.take⟩
    · have hflags : { s.handleEos n b with pushDummyFrame := s.pushDummyFrame, pushEos := s.pushEos } = s.handleEos n b := by
        obtain ⟨-, _, _, _, _, _, -, hs'⟩ := hmoves
        rw [hs']
      refine ⟨hmoves.same, ?_⟩
      rw [← hflags]
      refine h.moves hmoves ?_
      rw [hsources]
      cases hset : s.pushEos with
      | false =>
        rw [hset] at hlogged
        exact hlogged.take.close
      | true =>
        rw [hset] at hlogged
        exact hlogged.close.take

theorem buildInputFrame_logs (h : Logs taken before s)
    (hwaits : s.pushEos = true → ((s.header b).nFilledLen > 0 → s.frameAccepted n b = false) ∧
      ((s.header b).nFilledLen = 0 → (s.header b).nFlags.eos = true → s.eosAccepted n = true))
    (hdummy : (s.header b).nFilledLen = 0 → (s.header b).nFlags.eos = true → s.DummyKept n) :
    ((s.buildInputFrame n b).2 ≠ .none ∧ (s.buildInputFrame n b).1 = s) ∨
      (s.buildInputFrame n b).2 = .none ∧ Logs (taken ++ (s.header b).sources b) before (s.buildInputFrame n b).1 ∧
        (s.buildInputFrame n b).1.inPort = s.inPort.bufferComplete b ∧
        (s.buildInputFrame n b).1.returned = s.returned ++ [b] ∧
        (s.buildInputFrame n b).1.hImageInput = s.hImageInput ∧
        (s.pushEos = true → (s.buildInputFrame n b).1.pushEos = true) := by
  rw [buildInputFrame]
  generalize hp : (if (s.header b).nFilledLen > 0 then s.pushFrame n b else (s, .none)) = p
  rcases frame_logs h (fun hset => (hwaits hset).1) hp with ⟨herror, hstate⟩ | ⟨hnone, hsame, hlogs, hdata, hempty⟩
  · left
    rw [if_pos herror]
    exact ⟨herror, hstate⟩
  · right
    rw [if_neg (not_not.mpr hnone)]
    obtain ⟨hsame', hlogs'⟩ := handleEos_logs (n := n) (b := b) hlogs
      (fun heos hset => by
        rw [hsame.header] at heos
        rcases Nat.eq_zero_or_pos (s.header b).nFilledLen with hzero | hpos
        · rw [hempty hzero] at hset ⊢
          exact (hwaits hset).2 hzero heos
        · rw [(hdata hpos).1] at hset
          cases hset)
      (fun heos => by
        rw [hsame.header] at heos
        rcases Nat.eq_zero_or_pos (s.header b).nFilledLen with hzero | hpos
        · rw [hempty hzero]
          exact hdummy hzero heos
        · intro hset
          rw [(hdata hpos).2] at hset
          cases hset)
    rw [hsame.header, List.append_assoc] at hlogs'
    refine ⟨rfl, ⟨hlogs'.length, hlogs'.marked, hlogs'.logged⟩, ?_, ?_, hsame'.hImageInput.trans hsame.hImageInput,
      fun hset => hsame'.pushEos (hsame.pushEos hset)⟩
    · rw [returnPortBuffer, hsame'.inPort, hsame.inPort]
    · rw [returnPortBuffer, hsame'.returned, hsame.returned]

/-- What Nexus answers for the first buffer of the queue: nothing is taken past an end of the stream that waits, and the
    dummy frame is not pushed alone. -/
structure HeadOk (n : ImageInputAnswers) (b : BufferId) (s : EncoderInput) : Prop where
  frame : s.pushEos = true → (s.header b).nFilledLen > 0 → s.frameAccepted n b = false
  eos : s.pushEos = true → (s.header b).nFilledLen = 0 → (s.header b).nFlags.eos = true → s.eosAccepted n = true
  dummy : (s.header b).nFilledLen = 0 → (s.header b).nFlags.eos = true → s.DummyKept n

theorem inputBufferLoop_logs (h : Logs taken before s) (hok : ∀ b ∈ s.inPort.getBuffer, HeadOk n b s) :
    ∃ s', inputBufferLoop n s.inPort.queueDepth s.inPort.getBuffer s = some s' ∧ s'.hImageInput = s.hImageInput ∧
      (s.pushEos = true → s'.pushEos = true) ∧
      Logs (taken ++ (s'.returned.drop s.returned.length).flatMap fun b => (s.header b).sources b) before s' := by
  have hnone : Logs (taken ++ (s.returned.drop s.returned.length).flatMap fun b => (s.header b).sources b) before s := by
    rw [List.drop_length, List.flatMap_nil, List.append_nil]
    exact h
  rw [Port.queueDepth, Port.getBuffer] at *
  rcases hqueue : s.inPort.bufferQueue with _ | ⟨b, rest⟩
  · exact ⟨s, rfl, rfl, id, hnone⟩
  · have hhead : HeadOk n b s := hok b (by rw [hqueue]; rfl)
    rw [List.head?_cons, List.length_cons, inputBufferLoop]
    rcases buildInputFrame_logs (n := n) (b := b) h (fun hset => ⟨hhead.frame hset, hhead.eos hset⟩) hhead.dummy with
      ⟨herror, hstate⟩ | ⟨hdone, hlogs, hport, hreturned, himage, hpending⟩
    · exact ⟨s, by simp only [herror, if_false, hstate], rfl, id, hnone⟩
    · refine ⟨(s.buildInputFrame n b).1, ?_, himage, hpending, ?_⟩
      · simp only [hdone, if_true, hport, Port.getNextBuffer_bufferComplete, inputBufferLoop]
      · rw [hreturned, List.drop_left, List.flatMap_singleton]
        exact hlogs

/-- What Nexus answers when the end of the stream is tried again: it takes all or nothing, and refuses only while it has a
    surface. -/
structure RetryOk (n : ImageInputAnswers) (s : EncoderInput) : Prop where
  dummy : s.pushEos = true → s.DummyKept n
  held : s.pushEos = true → s.eosAccepted n = false → s.imageSurfacePushedList ≠ []

theorem retryEos_logs (h : Logs taken before s) (hkept : s.pushEos = true → s.DummyKept n) :
    Logs taken before (s.retryEos n) ∧ (s.retryEos n).hImageInput = s.hImageInput ∧
      ((s.pushEos = false ∨ s.eosAccepted n = false) ∧ s.retryEos n = s ∨
        s.eosAccepted n = true ∧ (s.retryEos n).pushEos = false ∧
          ((s.retryEos n).pushed.drop before).map (·.source) =
            (s.pushed.drop before).map (·.source) ++ ((if s.pushDummyFrame then [.dummy] else []) ++ [.eos])) := by
  cases hpending : s.pushEos with
  | false =>
    have hnone : s.retryEos n = s := by
      rw [retryEos, hpending]
      rfl
    rw [hnone]
    exact ⟨h, rfl, .inl ⟨.inl rfl, rfl⟩⟩
  | true =>
    rcases retryEos_cases hpending (hkept hpending) with ⟨hrefused, hstate⟩ | ⟨haccepted, ps, s', hmoves, hstate, hsources⟩
    · rw [hstate]
      exact ⟨h, rfl, .inl ⟨.inr hrefused, rfl⟩⟩
    · have hlogged := h.logged
      rw [hpending] at hlogged
      have hlogs : Logs taken before { s' with pushDummyFrame := s.pushDummyFrame, pushEos := false } :=
        h.moves hmoves (by rw [hsources]; exact hlogged.close)
      have hflag : s'.pushDummyFrame = s.pushDummyFrame := by
        obtain ⟨-, _, _, _, _, _, -, rfl⟩ := hmoves
        rfl
      rw [← hflag] at hlogs
      rw [hstate]
      refine ⟨hlogs, hmoves.same.hImageInput, .inr ⟨haccepted, rfl, ?_⟩⟩
      rw [hmoves.drop_pushed h.length, List.map_append, hsources]

end Logs

/-! ### The other actions -/

/-- What the actions keep that do not push: an end of the stream that waits, and what will try it again. -/
structure Keeps (s s' : EncoderInput) : Prop where
  pushed : s'.pushed = s.pushed
  pushDummyFrame : s'.pushDummyFrame = s.pushDummyFrame
  pushEos : s'.pushEos = s.pushEos
  hImageInput : s'.hImageInput = s.hImageInput
  currentState : s'.currentState = s.currentState
  event : s.inputBufferProcessEvent = true → s'.inputBufferProcessEvent = true
  held : s.hImageInput = true → s.pushEos = true → s.imageSurfacePushedList ≠ [] →
    s'.inputBufferProcessEvent = true ∨ s'.imageSurfacePushedList ≠ []

theorem Keeps.refl (s : EncoderInput) : Keeps s s := ⟨rfl, rfl, rfl, rfl, rfl, id, fun _ _ h => .inr h⟩

theorem recycleSurfaces_eq (hFreeSurface : List Nat) (s : EncoderInput) :
    ∃ free pushedList freeLen pushedLen asserts, s.recycleSurfaces hFreeSurface = { s with
      imageSurfaceFreeList := free, imageSurfacePushedList := pushedList
      nImageSurfaceFreeListLen := freeLen, nImageSurfacePushedListLen := pushedLen, asserts := asserts } := by
  induction hFreeSurface generalizing s with
  | nil => exact ⟨_, _, _, _, _, rfl⟩
  | cons h rest ih =>
    rw [recycleSurfaces]
    split
    · simp only [alogAssert]
      exact ⟨_, _, _, _, _, rfl⟩
    · simp only [alogAssert]
      split <;> split <;> exact (ih _).imp fun _ h => h

theorem step_keeps {a : EncoderInputAction} (hother : a.isOther = true) (h : s.step a = some s') : Keeps s s' := by
  cases a with
  | setState | startEncoder | stopEncoder | inputBufferProcess => cases hother
  | addBuffer b componentAllocated =>
    cases h
    rw [addBuffer]
    split
    · exact .refl s
    · exact ⟨rfl, rfl, rfl, rfl, rfl, id, fun _ _ h => .inr h⟩
  | freeBuffer | setFramerate =>
    cases h
    exact ⟨rfl, rfl, rfl, rfl, rfl, id, fun _ _ h => .inr h⟩
  | emptyThisBuffer b header =>
    cases h
    simp only [emptyThisBuffer]
    split
    · exact ⟨rfl, rfl, rfl, rfl, rfl, id, fun _ _ h => .inr h⟩
    · split
      · exact ⟨rfl, rfl, rfl, rfl, rfl, fun _ => rfl, fun _ _ _ => .inl rfl⟩
      · exact ⟨rfl, rfl, rfl, rfl, rfl, id, fun _ _ h => .inr h⟩
  | imageBufferProcess hFreeSurface =>
    simp only [step] at h
    split at h
    · cases h
      obtain ⟨_, _, _, _, _, hrecycled⟩ := recycleSurfaces_eq hFreeSurface s
      rw [imageBufferProcess]
      split
      · exact .refl s
      · rw [hrecycled]
        dsimp only
        split
        · exact ⟨rfl, rfl, rfl, rfl, rfl, fun _ => rfl, fun _ _ _ => .inl rfl⟩
        · next hidle =>
          exact ⟨rfl, rfl, rfl, rfl, rfl, id, fun _ hset _ => absurd (by rw [hset, Bool.or_true]) hidle⟩
    · cases h

end EncoderInput

end BcmPlatform.Bomx
