import BcmPlatform.Gralloc.Alloc

/-! The mapper of gralloc: registering, locking and unlocking a buffer, as the calls on its memory blocks. What the kernel, the
    memory blocks, the video frame and the destripe blits answer is arbitrary. -/

namespace BcmPlatform.Gralloc

/-! ### Registering -/

/-- `valid` is whether `private_handle_t::validate` accepts the handle. -/
structure RegisterAnswers where
  valid : Bool := true
  shared : LockAnswer := {}
  plane : LockRc := .success
  logOffset : LockRc := .success
  deriving DecidableEq, Repr

structure CallOutcome where
  result : Except Errno Unit
  calls : List BlockCall

/-- Whether a plane stays locked as long as its buffer is allocated or registered. -/
def Buffer.keepsPlane (b : Buffer) : Bool := b.mgmtMode = .locked && b.container.physAddr

/-- `gralloc_register_buffer` -/
def registerBuffer (m : Module) (b : Buffer) (a : RegisterAnswers) : CallOutcome :=
  if a.valid = false then { result := .error .einval, calls := [] }
  else if a.shared.rc ≠ .success then
    { result := .error .einval, calls := .lock .shared a.shared.rc :: undoNotSupported .shared a.shared.rc }
  else
    let body : List BlockCall :=
      if a.shared.addr then (if b.keepsPlane then [.lock .plane a.plane] else []) ++ logAddress m a.logOffset else []
    { result := .ok (), calls := [.lock .shared .success] ++ body ++ [.unlock .shared] }

structure UnregisterAnswers where
  valid : Bool := true
  shared : LockAnswer := {}
  logOffset : LockRc := .success
  deriving DecidableEq, Repr

/-- `gralloc_unregister_buffer` -/
def unregisterBuffer (m : Module) (b : Buffer) (a : UnregisterAnswers) : CallOutcome :=
  if a.valid = false then { result := .error .einval, calls := [] }
  else if a.shared.rc ≠ .success then
    { result := .error .einval, calls := .lock .shared a.shared.rc :: undoNotSupported .shared a.shared.rc }
  else
    let body : List BlockCall :=
      if a.shared.addr then logAddress m a.logOffset ++ if b.keepsPlane then [.unlock .plane] else [] else []
    { result := .ok (), calls := [.lock .shared .success] ++ body ++ [.unlock .shared] }

/-! ### The video frame -/

/-- The lock of the shared data around an access, as all helpers make it. -/
def sharedAccess (rc : LockRc) : List BlockCall :=
  .lock .shared rc :: undoNotSupported .shared rc ++ unlockIfLocked .shared rc

/-- The answers in `gralloc_destripe_yv12`: `blits` is whether the surfaces, the blits and the checkpoint succeed. -/
structure DestripeAnswers where
  graphics : Bool := true
  shared : LockAnswer := {}
  blits : Bool := true
  deriving DecidableEq, Repr

/-- The answers around a video frame, and what its shared data says: `striped` is `hStripedSurface`, `destriped` is
    `destripeComplete`. -/
structure VideoAnswers where
  shared : LockAnswer := {}
  inTime : Bool := true
  striped : Bool := false
  destriped : Bool := false
  destripe : DestripeAnswers := {}
  unlockShared : LockRc := .success
  deriving DecidableEq, Repr

/-- `private_handle_t::lock_video_frame` -/
def lockVideoFrame (a : VideoAnswers) : CallOutcome :=
  { result := if a.shared.addr = false then .error .einval else if a.inTime then .ok () else .error .ebusy
    calls := sharedAccess a.shared.rc }

/-- `gralloc_destripe_yv12` -/
def destripeYv12 (a : DestripeAnswers) : CallOutcome :=
  if a.graphics = false then { result := .error .nexus, calls := [] }
  else { result := if a.shared.addr && a.blits then .ok () else .error .nexus, calls := sharedAccess a.shared.rc }

/-- What `gralloc_lock` and `gralloc_lock_ycbcr` do with the frame of a YV12 buffer. -/
def videoFrame (usage : Usage) (a : VideoAnswers) : CallOutcome :=
  let locked := lockVideoFrame a
  let unlockCalls := sharedAccess a.unlockShared
  match locked.result with
  | .error e => { result := .error e, calls := locked.calls }
  | .ok () =>
    if a.striped && usage.swWriteMask then { result := .error .einval, calls := locked.calls ++ unlockCalls }
    else if a.striped && usage.swReadMask && !a.destriped then
      let destriped := destripeYv12 a.destripe
      { result := destriped.result, calls := locked.calls ++ destriped.calls ++ unlockCalls }
    else { result := .ok (), calls := locked.calls ++ unlockCalls }

/-! ### Locking -/

structure LockAnswers where
  valid : Bool := true
  shared : LockAnswer := {}
  plane : LockRc := .success
  planeOffset : LockRc := .success
  video : VideoAnswers := {}
  logOffset : LockRc := .success
  deriving DecidableEq, Repr

/-- What is locked for the caller. -/
def planeLocks (b : Buffer) (a : LockAnswers) : List BlockCall :=
  if b.container.physAddr then
    .lock .plane a.plane :: if b.mgmtMode = .locked then [] else [.lockOffset .plane a.planeOffset]
  else []

/-- The part that `gralloc_lock` and `gralloc_lock_ycbcr` share; they refuse different formats. -/
def lockUnless (refused : PixelFormat → Bool) (m : Module) (b : Buffer) (usage : Usage) (a : LockAnswers) : CallOutcome :=
  if a.valid = false then { result := .error .einval, calls := [] }
  else if a.shared.rc ≠ .success ∨ a.shared.addr = false then
    { result := .error .einval, calls := .lock .shared a.shared.rc :: undoNotSupported .shared a.shared.rc }
  else if refused b.container.format then { result := .error .einval, calls := [.lock .shared .success] }
  else
    let video := if b.container.format = .yv12 then videoFrame usage a.video else { result := .ok (), calls := [] }
    -- the label `out_video_failed` is on the way of a successful lock, too
    { result := video.result
      calls := [.lock .shared .success] ++ planeLocks b a ++ video.calls ++ logAddress m a.logOffset ++ [.unlock .shared] }

/-- `gralloc_lock` -/
def lock : Module → Buffer → Usage → LockAnswers → CallOutcome := lockUnless (· = .ycbcr420_888)

/-- `gralloc_lock_ycbcr` -/
def lockYcbcr : Module → Buffer → Usage → LockAnswers → CallOutcome := lockUnless fun format => !format.isYuv

structure UnlockAnswers where
  valid : Bool := true
  shared : LockAnswer := {}
  flush : LockRc := .success
  logOffset : LockRc := .success
  deriving DecidableEq, Repr

/-- The result is `none` where the shared data is read behind `NULL`. -/
structure UnlockOutcome where
  result : Option (Except Errno Unit)
  calls : List BlockCall

/-- `gralloc_unlock` -/
def unlock (m : Module) (b : Buffer) (a : UnlockAnswers) : UnlockOutcome :=
  if a.valid = false then { result := some (.error .einval), calls := [] }
  else
    let locks := .lock .shared a.shared.rc :: undoNotSupported .shared a.shared.rc
    if a.shared.addr = false then { result := none, calls := locks }
    else if b.usage.swWriteMask && !b.container.physAddr then
      { result := some (.error .einval), calls := locks ++ [.unlock .shared] }
    else
      let flush : List BlockCall := if b.usage.swWriteMask then [.lock .plane a.flush, .unlock .plane] else []
      let planes : List BlockCall :=
        if b.container.physAddr then .unlock .plane :: if b.mgmtMode = .locked then [] else [.unlockOffset .plane] else []
      { result := some (.ok ())
        calls := locks ++ flush ++ logAddress m a.logOffset ++ planes ++ unlockIfLocked .shared a.shared.rc }

/-! ### The use of buffers -/

/-- A call of a client for a buffer. -/
inductive ClientCall where
  | alloc (a : AllocAnswers) (w h : Int32) (format : PixelFormat) (usage : Usage)
  | free (a : FreeAnswers)
  | register (a : RegisterAnswers)
  | unregister (a : UnregisterAnswers)
  | lock (usage : Usage) (a : LockAnswers)
  | lockYcbcr (usage : Usage) (a : LockAnswers)
  | unlock (a : UnlockAnswers)
  deriving DecidableEq, Repr

/-- A buffer as its clients use it: whether it is allocated, how often it is registered and locked, and the counts of its
    blocks, `none` if one was lowered below 0. `crashed` is whether a call has read behind `NULL`. -/
structure BufferUse where
  buffer : Option Buffer := none
  allocated : Bool := false
  registered : Nat := 0
  locked : Nat := 0
  crashed : Bool := false
  counts : Option Counts := some {}
  deriving DecidableEq, Repr

/-- Somebody has the buffer. -/
def BufferUse.inUse (u : BufferUse) : Bool := u.allocated || 0 < u.registered || 0 < u.locked

def BufferUse.run (u : BufferUse) (calls : List BlockCall) : BufferUse := { u with counts := u.counts.bind (·.run calls) }

/-- Whether a call has succeeded. -/
def succeeded {α : Type} (result : Except Errno α) : Bool := result.isOk

/-- A call, if it is properly paired: a buffer is allocated when nobody has one, an unlock follows a lock that succeeded, and so
    for the other pairs. -/
def BufferUse.step (m : Module) (u : BufferUse) : ClientCall → Option BufferUse
  | .alloc a w h format usage =>
    if u.inUse then none
    else
      let o := allocBuffer m a w h format usage
      match o.result with
      | .ok b => some ({ u with buffer := some b, allocated := true }.run o.calls)
      | .error _ => some (u.run o.calls)
  | .free a =>
    match u.buffer with
    | some b => if u.allocated then some ({ u with allocated := false }.run (freeBuffer m b a)) else none
    | none => none
  | .register a =>
    match u.buffer with
    | some b =>
      let o := registerBuffer m b a
      if u.inUse then some ({ u with registered := u.registered + if succeeded o.result then 1 else 0 }.run o.calls) else none
    | none => none
  | .unregister a =>
    match u.buffer with
    | some b =>
      let o := unregisterBuffer m b a
      if 0 < u.registered then
        some ({ u with registered := u.registered - if succeeded o.result then 1 else 0 }.run o.calls)
      else none
    | none => none
  | .lock usage a =>
    match u.buffer with
    | some b =>
      let o := Gralloc.lock m b usage a
      if u.inUse then some ({ u with locked := u.locked + if succeeded o.result then 1 else 0 }.run o.calls) else none
    | none => none
  | .lockYcbcr usage a =>
    match u.buffer with
    | some b =>
      let o := Gralloc.lockYcbcr m b usage a
      if u.inUse then some ({ u with locked := u.locked + if succeeded o.result then 1 else 0 }.run o.calls) else none
    | none => none
  | .unlock a =>
    match u.buffer with
    | some b =>
      let o := Gralloc.unlock m b a
      if 0 < u.locked then
        match o.result with
        | some result => some ({ u with locked := u.locked - if succeeded result then 1 else 0 }.run o.calls)
        | none => some ({ u with crashed := true }.run o.calls)
      else none
    | none => none

/-- A call for one of the buffers. -/
def useBuffers {ι : Type} [DecidableEq ι] (m : Module) (uses : ι → BufferUse) (call : ι × ClientCall) : Option (ι → BufferUse) :=
  ((uses call.1).step m call.2).map fun u i => if i = call.1 then u else uses i

end BcmPlatform.Gralloc
