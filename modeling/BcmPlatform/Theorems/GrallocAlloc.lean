import BcmPlatform.Gralloc.Alloc

/-! What a successful `gralloc_alloc_buffer` has done. -/

namespace BcmPlatform.Gralloc
open Lib Bomx

variable {m : Module} {a : AllocAnswers} {w h : Int32} {format : PixelFormat} {usage : Usage} {b : Buffer} {bpp : Nat}

/-- What `getBufferDataFromFormat` is asked for. -/
def bufferData (w h : Int32) (format : PixelFormat) (bpp : Nat) : BufferData :=
  getBufferDataFromFormat 1 w.toInt h.toInt bpp format

/-- The container of an allocated buffer. -/
def allocatedContainer (w h : Int32) (format : PixelFormat) (usage : Usage) (bpp : Nat) : Container :=
  let initial := initialContainer w.toInt h.toInt format bpp (bufferData w h format bpp)
  let set := fmtSet format usage w.toInt h.toInt
  { planeContainer initial set ((setupGLSuitableBuffer initial).getD (0, 0)) with physAddr := decide (set ≠ FmtSet.none) }

def cleared (m : Module) (c : Container) (a : BzeroAnswers) : BzeroOutcome :=
  if c.physAddr then bzero m c a else { calls := [], memory := id }

/-- An allocation that succeeds: its buffer, what it asked for, its calls and what it did to the memory of the plane. -/
structure Allocated (m : Module) (a : AllocAnswers) (w h : Int32) (format : PixelFormat) (usage : Usage) (bpp : Nat)
    (o : AllocOutcome) (b : Buffer) : Prop where
  supported : getNexusPixelFormat format = some bpp
  buffer : b =
    { mgmtMode := m.mgmtMode, alignment := (bufferData w h format bpp).alignment.toNat, usage
      fmtSet := fmtSet format usage w.toInt h.toInt, container := allocatedContainer w h format usage bpp }
  size : o.size = (bufferData w h format bpp).size.value
  exact : o.exact = ((bufferData w h format bpp).stride.exact && (bufferData w h format bpp).size.exact)
  requested : o.requested = if fmtSet format usage w.toInt h.toInt = FmtSet.none then none else some b.container.allocSize
  sharedLock : a.sharedLock = {}
  calls : o.calls = .lock .shared .success :: (lockedModeCalls m b.container.physAddr a ++ logAddress m a.logOffset ++
    (cleared m b.container a.bzero).calls ++ [.unlock .shared])
  memory : o.memory = (cleared m b.container a.bzero).memory

theorem setupGLSuitableBuffer_isSome {c : Container} (h : getNexusPixelFormat c.format = some bpp) :
    ∃ ogl, setupGLSuitableBuffer c = some ogl := by
  rw [setupGLSuitableBuffer]
  cases hformat : c.format with
  | other =>
    rw [hformat] at h
    cases h
  | _ => exact ⟨_, rfl⟩

theorem allocated_of_ok (hok : (allocBuffer m a w h format usage).result = .ok b) :
    ∃ bpp, Allocated m a w h format usage bpp (allocBuffer m a w h format usage) b := by
  rw [allocBuffer] at hok ⊢
  cases hbpp : getNexusPixelFormat format with
  | none =>
    rw [hbpp] at hok
    cases hok
  | some bpp =>
    rw [hbpp] at hok
    dsimp only at hok ⊢
    split at hok
    · cases hok
    · next hopened =>
      split at hok
      · cases hok
      · next hshared =>
        split at hok
        · cases hok
        · next hlock =>
          rw [if_neg hopened, if_neg hshared, if_neg hlock]
          obtain ⟨ogl, hogl⟩ := setupGLSuitableBuffer_isSome
            (c := initialContainer w.toInt h.toInt format bpp (getBufferDataFromFormat 1 w.toInt h.toInt bpp format)) hbpp
          rw [hogl] at hok ⊢
          dsimp only at hok ⊢
          split at hok
          · cases hok
          · next hblock =>
            split at hok
            · cases hok
            · next hplane =>
              rw [if_neg hblock, if_neg hplane]
              obtain rfl := Except.ok.inj hok
              obtain ⟨hrc, haddr⟩ := not_or.mp hlock
              have hset : (decide (fmtSet format usage w.toInt h.toInt ≠ FmtSet.none) && a.planeSized) =
                  decide (fmtSet format usage w.toInt h.toInt ≠ FmtSet.none) := by
                by_cases hnone : fmtSet format usage w.toInt h.toInt = FmtSet.none
                · simp [hnone]
                · cases hsized : a.planeSized with
                  | true => simp
                  | false => simp [hsized, hnone] at hplane
              refine ⟨bpp, hbpp, ?_, rfl, rfl, rfl, ?_, ?_, rfl⟩
              · simp only [allocatedContainer, bufferData, hogl, Option.getD_some, hset]
              · cases hl : a.sharedLock with
                | mk rc addr => simp_all
              · rw [not_not.mp hrc]
                simp only [cleared, List.cons_append, List.nil_append, List.append_assoc]

end BcmPlatform.Gralloc

namespace BcmPlatform.Gralloc
open Lib

variable {counts : Counts} {m : Module}

@[simp] theorem Counts.run_nil : counts.run [] = some counts := rfl

theorem Counts.run_append (calls calls' : List BlockCall) :
    counts.run (calls ++ calls') = (counts.run calls).bind (·.run calls') := by
  induction calls generalizing counts with
  | nil => rfl
  | cons call calls ih =>
    rw [List.cons_append, Counts.run, Counts.run, Option.bind_assoc]
    congr 1
    funext counts'
    exact ih

/-- The calls leave all counts as they were, and lower none below 0. -/
def Balanced (calls : List BlockCall) : Prop := ∀ counts : Counts, counts.run calls = some counts

/-- Both locks succeed with an address. -/
def BzeroAnswers.Locked (a : BzeroAnswers) : Prop := a.offset = .success ∧ a.lock.rc = .success ∧ a.lock.addr = true

/-- Neither lock leaves a count raised. -/
def BzeroAnswers.Unlocked (a : BzeroAnswers) : Prop := a.offset = .error ∧ a.lock.rc ≠ .success

theorem bzero_of_locked {m : Module} {c : Container} {a : BzeroAnswers} (h : a.Locked) :
    bzero m c a =
      { calls := [.lockOffset .plane .success, .lock .plane .success, .unlockOffset .plane, .unlock .plane]
        memory := if !(m.hasGraphics && (c.format.isYuv || a.engine.completes)) then cpuBzero c.size
          else if c.format.isYuv then id else fillBlit c } := by
  obtain ⟨hoffset, hlock, haddr⟩ := h
  simp [bzero, hoffset, hlock, haddr]

theorem bzero_of_not_locked {m : Module} {c : Container} {a : BzeroAnswers} (h : ¬ a.Locked) :
    bzero m c a =
      { calls := [.lockOffset .plane a.offset, .lock .plane a.lock.rc] ++ undoNotSupported .plane a.lock.rc, memory := id } := by
  have hfailed : a.lock.rc ≠ .success ∨ a.offset ≠ .success ∨ a.lock.addr = false := by
    by_contra hne
    simp only [not_or, not_not, Bool.not_eq_false] at hne
    exact h ⟨hne.2.1, hne.1, hne.2.2⟩
  rw [bzero, if_pos hfailed]

theorem bzero_balanced_iff {m : Module} {c : Container} {a : BzeroAnswers} :
    Balanced (bzero m c a).calls ↔ a.Locked ∨ a.Unlocked := by
  by_cases hlocked : a.Locked
  · rw [bzero_of_locked hlocked]
    exact iff_of_true (fun counts => rfl) (Or.inl hlocked)
  · rw [bzero_of_not_locked hlocked, or_iff_right hlocked]
    constructor
    · intro h
      have hcounts := h {}
      cases hoffset : a.offset <;> cases hlock : a.lock.rc <;> rw [hoffset, hlock] at hcounts <;>
        first | exact absurd hcounts (by decide) | exact ⟨hoffset, by rw [hlock]; decide⟩
    · rintro ⟨hoffset, hlock⟩ counts
      rw [hoffset]
      cases hrc : a.lock.rc with
      | success => exact absurd hrc hlock
      | notSupported => rfl
      | error => rfl

/-! ### What a log takes and gives back -/

instance : Add BlockCounts := ⟨fun a b => { locks := a.locks + b.locks, offsets := a.offsets + b.offsets }⟩

/-- Counts with some of the plane in addition. -/
def Counts.add (counts : Counts) (held : BlockCounts) : Counts := { counts with plane := counts.plane + held }

/-- From what is held of the plane, the log leads to what is held then; whatever else is locked stays as it is. -/
def Moves (held : BlockCounts) (calls : List BlockCall) (held' : BlockCounts) : Prop :=
  ∀ counts : Counts, (counts.add held).run calls = some (counts.add held')

theorem BlockCounts.add_assoc (a b c : BlockCounts) : a + b + c = a + (b + c) := by
  show BlockCounts.mk (a.locks + b.locks + c.locks) (a.offsets + b.offsets + c.offsets) = _
  rw [Nat.add_assoc, Nat.add_assoc]
  rfl

theorem Counts.add_add (counts : Counts) (held held' : BlockCounts) :
    counts.add (held + held') = (counts.add held).add held' := by
  simp only [Counts.add, BlockCounts.add_assoc]

namespace Moves
variable {held held' held'' : BlockCounts} {calls calls' : List BlockCall}

theorem append (h : Moves held calls held') (h' : Moves held' calls' held'') : Moves held (calls ++ calls') held'' := by
  intro counts
  rw [Counts.run_append, h]
  exact h' counts

theorem of_balanced (h : Balanced calls) : Moves held calls held := fun _ => h _

theorem balanced (h : Moves {} calls {}) : Balanced calls := h

theorem frame (h : Moves held calls held') (other : BlockCounts) : Moves (other + held) calls (other + held') := by
  intro counts
  rw [Counts.add_add, Counts.add_add]
  exact h _

theorem locked (h : Moves held calls held') : Moves held ([.lock .shared .success] ++ calls ++ [.unlock .shared]) held' := by
  intro counts
  have hinner := h { counts with shared := { counts.shared with locks := counts.shared.locks + 1 } }
  rw [Counts.run_append, Counts.run_append]
  exact congrArg (fun result => result.bind (·.run [.unlock .shared])) hinner

end Moves

theorem Balanced.nil : Balanced [] := fun _ => rfl

theorem Balanced.append {calls calls' : List BlockCall} (h : Balanced calls) (h' : Balanced calls') :
    Balanced (calls ++ calls') :=
  ((Moves.of_balanced h).append (Moves.of_balanced h') : Moves {} _ {}).balanced

/-- No offset lock for a message of the log fails. -/
def LogOk (m : Module) (rc : LockRc) : Prop := m.logMapper = true → rc ≠ .error

theorem logAddress_balanced {rc : LockRc} (h : LogOk m rc) : Balanced (logAddress m rc) := by
  intro counts
  rw [logAddress]
  split
  · next hlog =>
    cases rc with
    | error => exact absurd rfl (h hlog)
    | success => rfl
    | notSupported => rfl
  · rfl

theorem undoNotSupported_balanced {rc : LockRc} (h : rc ≠ .success) :
    Balanced (.lock .shared rc :: undoNotSupported .shared rc) := by
  intro counts
  cases rc with
  | success => exact absurd rfl h
  | notSupported => rfl
  | error => rfl

end BcmPlatform.Gralloc
