import BcmPlatform.Gralloc.Mapper
import BcmPlatform.Lib.Runs
import BcmPlatform.Theorems.GrallocAlloc

/-! The locks of the memory blocks balance in every run in which no call takes a way out that forgets one: the counts of a buffer
    are then what its clients hold. -/

namespace BcmPlatform.Gralloc
open Lib

/-! ### What clients hold -/

/-- What an allocated buffer holds of its plane. -/
def Buffer.allocShare (b : Buffer) : BlockCounts := if b.keepsPlane then { locks := 1, offsets := 1 } else {}

/-- What a buffer holds for each registration. -/
def Buffer.registerShare (b : Buffer) : BlockCounts := if b.keepsPlane then { locks := 1 } else {}

/-- What a buffer holds for each lock. -/
def Buffer.lockShare (b : Buffer) : BlockCounts :=
  if b.container.physAddr then { locks := 1, offsets := if b.mgmtMode = .locked then 0 else 1 } else {}

def BlockCounts.times (n : Nat) (share : BlockCounts) : BlockCounts := { locks := n * share.locks, offsets := n * share.offsets }

/-- What all clients hold of the plane. -/
def BufferUse.held (u : BufferUse) : BlockCounts :=
  match u.buffer with
  | none => {}
  | some b => .times u.allocated.toNat b.allocShare + .times u.registered b.registerShare + .times u.locked b.lockShare

/-- No call has crashed or lowered a count below 0, and the counts are what the clients hold: nothing of the shared data, and of
    the plane what is allocated, registered and locked. -/
structure BufferUse.Accounted (u : BufferUse) : Prop where
  alive : u.crashed = false
  counts : u.counts = some { plane := u.held }

/-! ### Calls that forget no lock -/

def RegisterKeeps (m : Module) (b : Buffer) (a : RegisterAnswers) : Prop :=
  a.valid = true → a.shared.rc = .success →
    (a.shared.addr = true → LogOk m a.logOffset) ∧ (b.keepsPlane = true → a.shared.addr = true ∧ a.plane ≠ .error)

def UnregisterKeeps (m : Module) (b : Buffer) (a : UnregisterAnswers) : Prop :=
  a.valid = true → a.shared.rc = .success →
    (a.shared.addr = true → LogOk m a.logOffset) ∧ (b.keepsPlane = true → a.shared.addr = true)

/-- The frame of a YV12 buffer is not locked in time, or not destriped, or striped where the CPU is to write. -/
def VideoAnswers.fails (usage : Usage) (a : VideoAnswers) : Bool :=
  !a.shared.addr || !a.inTime || a.striped && (usage.swWriteMask || usage.swReadMask && !a.destriped &&
    !(a.destripe.graphics && a.destripe.shared.addr && a.destripe.blits))

/-- The locks of a plane that a client needs do not fail. -/
def PlaneTaken (b : Buffer) (a : LockAnswers) : Prop :=
  b.container.physAddr = true → a.plane ≠ .error ∧ (b.mgmtMode ≠ .locked → a.planeOffset ≠ .error)

/-- There are no locks of a plane, or they fail. -/
def PlaneNotTaken (b : Buffer) (a : LockAnswers) : Prop :=
  b.container.physAddr = true → a.plane = .error ∧ (b.mgmtMode ≠ .locked → a.planeOffset = .error)

def LockKeeps (refused : PixelFormat → Bool) (m : Module) (b : Buffer) (usage : Usage) (a : LockAnswers) : Prop :=
  a.valid = true → a.shared.rc = .success →
    a.shared.addr = true ∧ refused b.container.format = false ∧ LogOk m a.logOffset ∧
      if b.container.format = .yv12 ∧ a.video.fails usage = true then PlaneNotTaken b a else PlaneTaken b a

def UnlockKeeps (m : Module) (b : Buffer) (a : UnlockAnswers) : Prop :=
  a.valid = true → a.shared.addr = true ∧
    if b.usage.swWriteMask = true ∧ b.container.physAddr = false then a.shared.rc = .success
    else LogOk m a.logOffset ∧ (b.usage.swWriteMask = true → a.flush ≠ .error)

def FreeKeeps (m : Module) (b : Buffer) (a : FreeAnswers) : Prop :=
  (a.sharedLock.addr = true → LogOk m a.logOffset) ∧ (b.keepsPlane = true → a.sharedLock.addr = true)

/-- The plane of an allocation is locked where it is to be, and the clearing leaves no lock. -/
def AllocPlaneKeeps (m : Module) (a : AllocAnswers) : Prop :=
  (m.mgmtMode = .locked → a.planeOffset ≠ .error ∧ a.planeLock ≠ .error) ∧ (a.bzero.Locked ∨ a.bzero.Unlocked)

def AllocKeeps (m : Module) (a : AllocAnswers) (w h : Int32) (format : PixelFormat) (usage : Usage) : Prop :=
  getNexusPixelFormat format ≠ none → a.opened = true → a.sharedBlock = true → a.sharedLock.rc = .success →
    a.sharedLock.addr = true ∧
      (¬ (fmtSet format usage w.toInt h.toInt ≠ FmtSet.none ∧ a.planeSized = true ∧ a.planeBlock = false) →
        LogOk m a.logOffset ∧
          (fmtSet format usage w.toInt h.toInt ≠ FmtSet.none → a.planeSized = true → AllocPlaneKeeps m a))

/-- A call for a buffer forgets no lock. -/
def BufferUse.Keeps (m : Module) (u : BufferUse) : ClientCall → Prop
  | .alloc a w h format usage => AllocKeeps m a w h format usage
  | .free a => ∀ b ∈ u.buffer, FreeKeeps m b a
  | .register a => ∀ b ∈ u.buffer, RegisterKeeps m b a
  | .unregister a => ∀ b ∈ u.buffer, UnregisterKeeps m b a
  | .lock usage a => ∀ b ∈ u.buffer, LockKeeps (· = .ycbcr420_888) m b usage a
  | .lockYcbcr usage a => ∀ b ∈ u.buffer, LockKeeps (fun format => !format.isYuv) m b usage a
  | .unlock a => ∀ b ∈ u.buffer, UnlockKeeps m b a

/-! ### The calls -/

variable {m : Module} {b : Buffer} {usage : Usage}

/-- What a call takes if it succeeds. -/
def shareIf {α : Type} (result : Except Errno α) (share : BlockCounts) : BlockCounts := if succeeded result then share else {}

theorem registerBuffer_moves {a : RegisterAnswers} (h : RegisterKeeps m b a) :
    Moves {} (registerBuffer m b a).calls (shareIf (registerBuffer m b a).result b.registerShare) := by
  rw [registerBuffer]
  split
  · exact .of_balanced .nil
  · next hvalid =>
    split
    · next hrc => exact .of_balanced (undoNotSupported_balanced hrc)
    · next hrc =>
      obtain ⟨hlog, hplane⟩ := h (by simpa using hvalid) (not_not.mp hrc)
      refine Moves.locked ?_
      show Moves {} _ b.registerShare
      rw [Buffer.registerShare]
      cases hkeeps : b.keepsPlane with
      | false =>
        split
        · next haddr => exact .of_balanced (Balanced.nil.append (logAddress_balanced (hlog haddr)))
        · exact .of_balanced .nil
      | true =>
        obtain ⟨haddr, hrc'⟩ := hplane hkeeps
        rw [if_pos haddr]
        refine Moves.append ?_ (.of_balanced (logAddress_balanced (hlog haddr)))
        intro counts
        cases hplane' : a.plane with
        | error => exact absurd hplane' hrc'
        | success => rfl
        | notSupported => rfl

theorem unregisterBuffer_moves {a : UnregisterAnswers} (h : UnregisterKeeps m b a) :
    Moves (shareIf (unregisterBuffer m b a).result b.registerShare) (unregisterBuffer m b a).calls {} := by
  rw [unregisterBuffer]
  split
  · exact .of_balanced .nil
  · next hvalid =>
    split
    · next hrc => exact .of_balanced (undoNotSupported_balanced hrc)
    · next hrc =>
      obtain ⟨hlog, hplane⟩ := h (by simpa using hvalid) (not_not.mp hrc)
      refine Moves.locked ?_
      show Moves b.registerShare _ {}
      rw [Buffer.registerShare]
      cases hkeeps : b.keepsPlane with
      | false =>
        by_cases haddr : a.shared.addr = true
        · rw [if_pos haddr]
          exact .of_balanced ((logAddress_balanced (hlog haddr)).append .nil)
        · rw [if_neg haddr]
          exact .of_balanced .nil
      | true =>
        have haddr := hplane hkeeps
        rw [if_pos haddr]
        exact Moves.append (.of_balanced (logAddress_balanced (hlog haddr))) fun _ => rfl

theorem sharedAccess_balanced (rc : LockRc) : Balanced (sharedAccess rc) := by
  intro counts
  cases rc <;> rfl

theorem destripeYv12_balanced (a : DestripeAnswers) : Balanced (destripeYv12 a).calls := by
  rw [destripeYv12]
  split
  · exact .nil
  · exact sharedAccess_balanced _

theorem videoFrame_balanced (usage : Usage) (a : VideoAnswers) : Balanced (videoFrame usage a).calls := by
  have hlock : Balanced (lockVideoFrame a).calls := sharedAccess_balanced _
  have hunlock := sharedAccess_balanced a.unlockShared
  rw [videoFrame]
  dsimp only
  split
  · exact hlock
  · split
    · exact hlock.append hunlock
    · split
      · exact (hlock.append (destripeYv12_balanced _)).append hunlock
      · exact hlock.append hunlock

theorem lockVideoFrame_succeeded (a : VideoAnswers) : succeeded (lockVideoFrame a).result = (a.shared.addr && a.inTime) := by
  rw [lockVideoFrame]
  cases a.shared.addr <;> cases a.inTime <;> rfl

theorem destripeYv12_succeeded (a : DestripeAnswers) :
    succeeded (destripeYv12 a).result = (a.graphics && a.shared.addr && a.blits) := by
  rw [destripeYv12]
  cases a.graphics with
  | false => rfl
  | true => cases a.shared.addr <;> cases a.blits <;> rfl

theorem videoFrame_succeeded (usage : Usage) (a : VideoAnswers) :
    succeeded (videoFrame usage a).result = !a.fails usage := by
  have hlock := lockVideoFrame_succeeded a
  rw [videoFrame, VideoAnswers.fails, ← destripeYv12_succeeded]
  dsimp only
  cases hresult : (lockVideoFrame a).result with
  | error e =>
    have hfailed : (a.shared.addr && a.inTime) = false := by rw [← hlock, hresult]; rfl
    cases haddr : a.shared.addr with
    | false => rfl
    | true =>
      rw [haddr, Bool.true_and] at hfailed
      rw [hfailed]
      rfl
  | ok =>
    have htaken : (a.shared.addr && a.inTime) = true := by rw [← hlock, hresult]; rfl
    obtain ⟨haddr, htime⟩ := Bool.and_eq_true_iff.mp htaken
    rw [haddr, htime]
    cases a.striped with
    | false => rfl
    | true =>
      cases usage.swWriteMask with
      | true => rfl
      | false =>
        cases usage.swReadMask with
        | false => rfl
        | true =>
          cases a.destriped with
          | true => rfl
          | false => exact (Bool.not_not _).symm

theorem planeLocks_moves {a : LockAnswers} (h : PlaneTaken b a) : Moves {} (planeLocks b a) b.lockShare := by
  intro counts
  rw [planeLocks, Buffer.lockShare]
  split
  · next hplane =>
    obtain ⟨hrc, hoffset⟩ := h hplane
    cases hrc' : a.plane with
    | error => exact absurd hrc' hrc
    | success | notSupported =>
      split
      · rfl
      · next hmode =>
        cases hoffset' : a.planeOffset with
        | error => exact absurd hoffset' (hoffset hmode)
        | success | notSupported => rfl
  · rfl

theorem planeLocks_balanced {a : LockAnswers} (h : PlaneNotTaken b a) : Balanced (planeLocks b a) := by
  intro counts
  rw [planeLocks]
  split
  · next hplane =>
    obtain ⟨hrc, hoffset⟩ := h hplane
    rw [hrc]
    split
    · rfl
    · next hmode =>
      rw [hoffset hmode]
      rfl
  · rfl

theorem lockUnless_moves {refused : PixelFormat → Bool} {a : LockAnswers} (h : LockKeeps refused m b usage a) :
    Moves {} (lockUnless refused m b usage a).calls (shareIf (lockUnless refused m b usage a).result b.lockShare) := by
  rw [lockUnless]
  split
  · exact .of_balanced .nil
  · next hvalid =>
    by_cases hrc : a.shared.rc = .success
    · obtain ⟨haddr, hformat, hlog, hplane⟩ := h (by simpa using hvalid) hrc
      rw [if_neg (by simp [hrc, haddr]), hformat]
      dsimp only
      rw [if_neg (by decide), List.append_assoc [_], List.append_assoc [_]]
      refine Moves.locked (.append ?_ (.of_balanced (logAddress_balanced hlog)))
      by_cases hyv12 : b.container.format = .yv12
      · rw [if_pos hyv12, shareIf, videoFrame_succeeded]
        cases hfails : a.video.fails usage with
        | false =>
          rw [if_neg (by simp [hfails])] at hplane
          exact (planeLocks_moves hplane).append (.of_balanced (videoFrame_balanced _ _))
        | true =>
          rw [if_pos ⟨hyv12, hfails⟩] at hplane
          exact .of_balanced ((planeLocks_balanced hplane).append (videoFrame_balanced _ _))
      · rw [if_neg hyv12]
        rw [if_neg fun hfails => hyv12 hfails.1] at hplane
        exact (planeLocks_moves hplane).append (.of_balanced .nil)
    · rw [if_pos (Or.inl hrc)]
      exact .of_balanced (undoNotSupported_balanced hrc)

theorem unlockCalls_balanced (rc : LockRc) {calls : List BlockCall} {held held' : BlockCounts} (h : Moves held calls held') :
    Moves held ((.lock .shared rc :: undoNotSupported .shared rc) ++ calls ++ unlockIfLocked .shared rc) held' := by
  by_cases hrc : rc = .success
  · rw [hrc]
    exact h.locked
  · rw [unlockIfLocked, if_neg hrc, List.append_nil]
    exact (Moves.of_balanced (undoNotSupported_balanced hrc)).append h

theorem unlock_moves {a : UnlockAnswers} (h : UnlockKeeps m b a) :
    ∃ result, (unlock m b a).result = some result ∧ Moves (shareIf result b.lockShare) (unlock m b a).calls {} := by
  rw [unlock]
  split
  · exact ⟨_, rfl, .of_balanced .nil⟩
  · next hvalid =>
    obtain ⟨haddr, hrest⟩ := h (by simpa using hvalid)
    dsimp only
    rw [if_neg (by rw [haddr]; decide)]
    by_cases hnone : b.usage.swWriteMask = true ∧ b.container.physAddr = false
    · rw [if_pos hnone] at hrest
      rw [if_pos (by rw [hnone.1, hnone.2]; rfl), hrest]
      exact ⟨_, rfl, .of_balanced fun _ => rfl⟩
    · rw [if_neg hnone] at hrest
      obtain ⟨hlog, hflush⟩ := hrest
      rw [if_neg (by simpa using hnone)]
      have hflushBalanced : Balanced (if b.usage.swWriteMask then [BlockCall.lock .plane a.flush, .unlock .plane] else []) := by
        intro counts
        split
        · next hwrite =>
          cases hrc : a.flush with
          | error => exact absurd hrc (hflush hwrite)
          | success | notSupported => rfl
        · rfl
      have hplanes : Moves b.lockShare (if b.container.physAddr then
          BlockCall.unlock .plane :: if b.mgmtMode = .locked then [] else [.unlockOffset .plane] else []) {} := by
        intro counts
        rw [Buffer.lockShare]
        split
        · split <;> rfl
        · rfl
      have hbody := Moves.append (.of_balanced (hflushBalanced.append (logAddress_balanced hlog))) hplanes
      have hcalls := unlockCalls_balanced a.shared.rc hbody
      simp only [List.append_assoc] at hcalls ⊢
      exact ⟨_, rfl, hcalls⟩

theorem keepsPlane_iff : b.keepsPlane = true ↔ b.mgmtMode = .locked ∧ b.container.physAddr = true := by
  rw [Buffer.keepsPlane, Bool.and_eq_true, decide_eq_true_iff]

theorem freeBuffer_moves {a : FreeAnswers} (h : FreeKeeps m b a) : Moves b.allocShare (freeBuffer m b a) {} := by
  obtain ⟨hlog, hplane⟩ := h
  rw [freeBuffer, Buffer.allocShare]
  refine unlockCalls_balanced _ ?_
  by_cases haddr : a.sharedLock.addr = true
  · rw [if_pos haddr]
    refine Moves.append (.of_balanced (logAddress_balanced (hlog haddr))) fun counts => ?_
    rw [if_congr keepsPlane_iff.symm rfl rfl]
    split <;> rfl
  · rw [if_neg haddr, if_neg fun hkeeps => haddr (hplane hkeeps)]
    exact .of_balanced .nil

theorem allocPlane_moves {a : AllocAnswers} {plane : Bool} (hplane : plane = true → AllocPlaneKeeps m a)
    (hlog : LogOk m a.logOffset) (c : Container) :
    Moves {} (lockedModeCalls m plane a ++ logAddress m a.logOffset ++
        (if plane then bzero m c a.bzero else { calls := [], memory := id }).calls)
      (if m.mgmtMode = .locked ∧ plane = true then { locks := 1, offsets := 1 } else {}) := by
  refine Moves.append (Moves.append ?_ (.of_balanced (logAddress_balanced hlog))) (.of_balanced ?_)
  · intro counts
    rw [lockedModeCalls]
    split
    · next hlocked =>
      obtain ⟨hoffset, hlock⟩ := (hplane hlocked.2).1 hlocked.1
      cases hrc : a.planeOffset with
      | error => exact absurd hrc hoffset
      | success | notSupported =>
        cases hrc' : a.planeLock with
        | error => exact absurd hrc' hlock
        | success | notSupported => rfl
    · rfl
  · split
    · next hset => exact bzero_balanced_iff.mpr (hplane hset).2
    · exact .nil

theorem allocBuffer_moves {a : AllocAnswers} {w h : Int32} {format : PixelFormat} (hkeeps : AllocKeeps m a w h format usage) :
    Moves {} (allocBuffer m a w h format usage).calls
      (match (allocBuffer m a w h format usage).result with
        | .ok b => b.allocShare
        | .error _ => {}) := by
  rw [allocBuffer]
  cases hbpp : getNexusPixelFormat format with
  | none => exact .of_balanced .nil
  | some bpp =>
    dsimp only
    by_cases hopened : a.opened = true
    · by_cases hblock : a.sharedBlock = true
      · rw [if_neg (by simp [hopened]), if_neg (by simp [hblock])]
        by_cases hrc : a.sharedLock.rc = .success
        · obtain ⟨haddr, hrest⟩ := hkeeps (by rw [hbpp]; exact Option.some_ne_none _) hopened hblock hrc
          rw [if_neg (by simp [hrc, haddr]), hrc]
          obtain ⟨ogl, hogl⟩ := setupGLSuitableBuffer_isSome
            (c := initialContainer w.toInt h.toInt format bpp (getBufferDataFromFormat 1 w.toInt h.toInt bpp format)) hbpp
          rw [hogl]
          dsimp only
          by_cases hnoBlock : fmtSet format usage w.toInt h.toInt ≠ FmtSet.none ∧ a.planeSized = true ∧ a.planeBlock = false
          · rw [if_pos hnoBlock]
            exact .of_balanced fun _ => rfl
          · obtain ⟨hlog, hplane⟩ := hrest hnoBlock
            rw [if_neg hnoBlock]
            generalize hset : (decide (fmtSet format usage w.toInt h.toInt ≠ FmtSet.none) && a.planeSized) = plane
            have hkeepsPlane : plane = true → AllocPlaneKeeps m a := by
              rintro rfl
              obtain ⟨hset', hsized⟩ := (Bool.and_eq_true _ _).mp hset
              exact hplane (of_decide_eq_true hset') hsized
            by_cases hnoPlane : fmtSet format usage w.toInt h.toInt ≠ FmtSet.none ∧ plane = false
            · have hnone : lockedModeCalls m plane a = [] := if_neg fun hlocked => by
                rw [hnoPlane.2] at hlocked
                cases hlocked.2
              rw [if_pos hnoPlane, hnone, List.append_nil]
              exact Moves.locked (.of_balanced (logAddress_balanced hlog))
            · rw [if_neg hnoPlane]
              have hbody := fun c => (allocPlane_moves hkeepsPlane hlog c).locked
              simp only [List.append_assoc] at hbody ⊢
              simp only [Buffer.allocShare, Buffer.keepsPlane, Bool.and_eq_true, decide_eq_true_eq]
              exact hbody _
        · rw [if_pos (Or.inl hrc)]
          exact .of_balanced (undoNotSupported_balanced hrc)
      · rw [if_neg (by simp [hopened]), if_pos (by simpa using hblock)]
        exact .of_balanced .nil
    · rw [if_pos (by simpa using hopened)]
      exact .of_balanced .nil

/-! ### Runs -/

theorem BlockCounts.ext_iff {a b : BlockCounts} : a = b ↔ a.locks = b.locks ∧ a.offsets = b.offsets := by
  cases a
  cases b
  rw [BlockCounts.mk.injEq]

theorem BlockCounts.locks_add (a b : BlockCounts) : (a + b).locks = a.locks + b.locks := rfl

theorem BlockCounts.offsets_add (a b : BlockCounts) : (a + b).offsets = a.offsets + b.offsets := rfl

section
variable {u v : BufferUse} (hu : u.buffer = some b) (hv : v.buffer = some b)
include hu hv

theorem held_registered {n : Nat} (hallocated : v.allocated = u.allocated) (hregistered : v.registered = u.registered + n)
    (hlocked : v.locked = u.locked) : v.held = u.held + .times n b.registerShare := by
  simp only [BufferUse.held, hu, hv, hallocated, hregistered, hlocked, BlockCounts.ext_iff, BlockCounts.locks_add,
    BlockCounts.offsets_add, BlockCounts.times, Nat.add_mul]
  omega

theorem held_locked {n : Nat} (hallocated : v.allocated = u.allocated) (hregistered : v.registered = u.registered)
    (hlocked : v.locked = u.locked + n) : v.held = u.held + .times n b.lockShare := by
  simp only [BufferUse.held, hu, hv, hallocated, hregistered, hlocked, BlockCounts.ext_iff, BlockCounts.locks_add,
    BlockCounts.offsets_add, BlockCounts.times, Nat.add_mul]
  omega

theorem held_allocated (hallocated : u.allocated = false) (hallocated' : v.allocated = true)
    (hregistered : v.registered = u.registered) (hlocked : v.locked = u.locked) : v.held = u.held + b.allocShare := by
  simp only [BufferUse.held, hu, hv, hallocated, hallocated', hregistered, hlocked, BlockCounts.ext_iff, BlockCounts.locks_add,
    BlockCounts.offsets_add, BlockCounts.times, Bool.toNat_true, Bool.toNat_false, Nat.zero_mul, Nat.one_mul]
  omega

end

theorem held_of_not_inUse {u : BufferUse} (h : u.inUse = false) : u.held = {} := by
  simp only [BufferUse.inUse, Bool.or_eq_false_iff, decide_eq_false_iff_not, Nat.not_lt, Nat.le_zero] at h
  obtain ⟨⟨hallocated, hregistered⟩, hlocked⟩ := h
  rw [BufferUse.held]
  split
  · rfl
  · rw [hallocated, hregistered, hlocked]
    simp only [BlockCounts.times, BlockCounts.ext_iff, BlockCounts.locks_add, BlockCounts.offsets_add, Bool.toNat_false,
      Nat.zero_mul, Nat.add_zero, and_self]

theorem times_succeeded {α : Type} (result : Except Errno α) (share : BlockCounts) :
    BlockCounts.times (if succeeded result then 1 else 0) share = shareIf result share := by
  rw [shareIf]
  split
  · rw [BlockCounts.times, Nat.one_mul, Nat.one_mul]
  · rw [BlockCounts.times, Nat.zero_mul, Nat.zero_mul]

namespace BufferUse.Accounted
variable {u v : BufferUse} {calls : List BlockCall}

theorem run {other held held' : BlockCounts} (h : u.Accounted) (hmoves : Moves held calls held')
    (hcrashed : v.crashed = u.crashed) (hcounts : v.counts = u.counts) (hheld : u.held = other + held)
    (hheld' : v.held = other + held') : (v.run calls).Accounted where
  alive := hcrashed.trans h.alive
  counts := by
    show v.counts.bind (·.run calls) = some ({ plane := v.held } : Counts)
    rw [hcounts, h.counts, hheld, hheld']
    exact hmoves { plane := other }

theorem take {share : BlockCounts} (h : u.Accounted) (hmoves : Moves {} calls share) (hcrashed : v.crashed = u.crashed)
    (hcounts : v.counts = u.counts) (hheld : v.held = u.held + share) : (v.run calls).Accounted :=
  h.run hmoves hcrashed hcounts rfl hheld

theorem give {share : BlockCounts} (h : u.Accounted) (hmoves : Moves share calls {}) (hcrashed : v.crashed = u.crashed)
    (hcounts : v.counts = u.counts) (hheld : u.held = v.held + share) : (v.run calls).Accounted :=
  h.run hmoves hcrashed hcounts hheld rfl

end BufferUse.Accounted

theorem succeeded_le_one {α : Type} (result : Except Errno α) : (if succeeded result then 1 else 0) ≤ 1 := by
  split <;> decide

theorem lockUnless_accounted {u : BufferUse} {refused : PixelFormat → Bool} {a : LockAnswers} (h : u.Accounted)
    (hb : u.buffer = some b) (hkeeps : LockKeeps refused m b usage a) :
    ({ u with locked := u.locked + if succeeded (lockUnless refused m b usage a).result then 1 else 0 }.run
      (lockUnless refused m b usage a).calls).Accounted := by
  refine h.take (lockUnless_moves hkeeps) rfl rfl ?_
  rw [← times_succeeded]
  exact held_locked hb (by exact hb) rfl rfl rfl

theorem step_accounted {u v : BufferUse} {call : ClientCall} (h : u.Accounted) (hkeeps : u.Keeps m call)
    (hstep : u.step m call = some v) : v.Accounted := by
  cases call with
  | alloc a w h' format usage =>
    have hmoves := allocBuffer_moves hkeeps
    rw [BufferUse.step] at hstep
    split at hstep
    · cases hstep
    · next huse =>
      have hfree : u.inUse = false := Bool.eq_false_iff.mpr huse
      have hfresh : u.allocated = false := (Bool.or_eq_false_iff.mp (Bool.or_eq_false_iff.mp hfree).1).1
      dsimp only at hstep
      split at hstep
      · next b hok =>
        obtain rfl := Option.some.inj hstep
        rw [hok] at hmoves
        -- whatever the buffer was, nothing of it is held
        have hnone := held_of_not_inUse (u := { u with buffer := some b }) hfree
        have hheld := held_allocated (u := { u with buffer := some b }) (v := { u with buffer := some b, allocated := true })
          rfl rfl hfresh rfl rfl rfl
        rw [hnone, ← held_of_not_inUse hfree] at hheld
        exact h.take hmoves rfl rfl hheld
      · next hok =>
        obtain rfl := Option.some.inj hstep
        rw [hok] at hmoves
        exact h.take hmoves rfl rfl rfl
  | free a =>
    rw [BufferUse.step] at hstep
    split at hstep
    · next b hb =>
      split at hstep
      · next hallocated =>
        obtain rfl := Option.some.inj hstep
        exact h.give (freeBuffer_moves (hkeeps b hb)) rfl rfl (held_allocated (by exact hb) hb rfl hallocated rfl rfl)
      · cases hstep
    · cases hstep
  | register a =>
    rw [BufferUse.step] at hstep
    split at hstep
    · next b hb =>
      dsimp only at hstep
      split at hstep
      · obtain rfl := Option.some.inj hstep
        refine h.take (registerBuffer_moves (hkeeps b hb)) rfl rfl ?_
        rw [← times_succeeded]
        exact held_registered hb (by exact hb) rfl rfl rfl
      · cases hstep
    · cases hstep
  | unregister a =>
    rw [BufferUse.step] at hstep
    split at hstep
    · next b hb =>
      dsimp only at hstep
      split at hstep
      · next hregistered =>
        obtain rfl := Option.some.inj hstep
        have hle := succeeded_le_one (unregisterBuffer m b a).result
        refine h.give (unregisterBuffer_moves (hkeeps b hb)) rfl rfl ?_
        rw [← times_succeeded]
        exact held_registered (by exact hb) hb rfl (Nat.sub_add_cancel (Nat.le_trans hle hregistered)).symm rfl
      · cases hstep
    · cases hstep
  | lock usage a =>
    rw [BufferUse.step] at hstep
    split at hstep
    · next b hb =>
      dsimp only at hstep
      split at hstep
      · obtain rfl := Option.some.inj hstep
        exact lockUnless_accounted h hb (hkeeps b hb)
      · cases hstep
    · cases hstep
  | lockYcbcr usage a =>
    rw [BufferUse.step] at hstep
    split at hstep
    · next b hb =>
      dsimp only at hstep
      split at hstep
      · obtain rfl := Option.some.inj hstep
        exact lockUnless_accounted h hb (hkeeps b hb)
      · cases hstep
    · cases hstep
  | unlock a =>
    rw [BufferUse.step] at hstep
    split at hstep
    · next b hb =>
      obtain ⟨result, hresult, hmoves⟩ := unlock_moves (hkeeps b hb)
      dsimp only at hstep
      split at hstep
      · next hlocked =>
        rw [hresult] at hstep
        obtain rfl := Option.some.inj hstep
        have hle := succeeded_le_one result
        refine h.give hmoves rfl rfl ?_
        rw [← times_succeeded]
        exact held_locked (by exact hb) hb rfl rfl (Nat.sub_add_cancel (Nat.le_trans hle hlocked)).symm
      · cases hstep
    · cases hstep

/-- The calls of clients for buffers, each of which forgets no lock. -/
abbrev KeepingRun {ι : Type} [DecidableEq ι] (m : Module) : (ι → BufferUse) → (ι → BufferUse) → Prop :=
  Reaches (useBuffers m) fun uses call => (uses call.1).Keeps m call.2

end BcmPlatform.Gralloc
