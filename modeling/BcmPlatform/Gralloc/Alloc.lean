import BcmPlatform.Gralloc.Buffer
import BcmPlatform.Lib.Memory

/-! The memory blocks of a gralloc buffer, the shared data and the plane: the calls that lock and unlock them, and the counts
    that these raise and lower; and `gralloc_alloc_buffer` and `gralloc_free_buffer`, as such calls. What the kernel, the
    memory blocks and the graphics engine answer is arbitrary. -/

namespace BcmPlatform.Gralloc

/-- What `NEXUS_MemoryBlock_Lock` and `NEXUS_MemoryBlock_LockOffset` return. -/
inductive LockRc where
  | success
  | notSupported
  | error
  deriving DecidableEq, Repr

/-- A lock: what it returns, and whether there is an address behind it. An address that is not `NULL` is taken for that of the
    block. -/
structure LockAnswer where
  rc : LockRc := .success
  addr : Bool := true
  deriving DecidableEq, Repr

inductive Block where
  | shared
  | plane
  deriving DecidableEq, Repr

/-- The calls `NEXUS_MemoryBlock_Lock`, `_Unlock`, `_LockOffset` and `_UnlockOffset`. -/
inductive BlockCall where
  | lock (block : Block) (rc : LockRc)
  | unlock (block : Block)
  | lockOffset (block : Block) (rc : LockRc)
  | unlockOffset (block : Block)
  deriving DecidableEq, Repr

/-- `if (lrc == BERR_NOT_SUPPORTED) NEXUS_MemoryBlock_Unlock(block)` -/
def undoNotSupported (block : Block) (rc : LockRc) : List BlockCall := if rc = .notSupported then [.unlock block] else []

/-- `if (!lrc) NEXUS_MemoryBlock_Unlock(block)` -/
def unlockIfLocked (block : Block) (rc : LockRc) : List BlockCall := if rc = .success then [.unlock block] else []

/-! ### Counts -/

/-- What a lock with this result raises its count by. -/
def LockRc.raises : LockRc → Nat
  | .error => 0
  | .success | .notSupported => 1

/-- The lock and the offset-lock count of a block. -/
structure BlockCounts where
  locks : Nat := 0
  offsets : Nat := 0
  deriving DecidableEq, Repr

structure Counts where
  shared : BlockCounts := {}
  plane : BlockCounts := {}
  deriving DecidableEq, Repr

/-- A count of 0 is not lowered. -/
def lower : Nat → Option Nat
  | 0 => none
  | n + 1 => some n

def Counts.on (counts : Counts) (f : BlockCounts → Option BlockCounts) : Block → Option Counts
  | .shared => (f counts.shared).map fun c => { counts with shared := c }
  | .plane => (f counts.plane).map fun c => { counts with plane := c }

/-- The counts behind a call; `none` if one would be negative. -/
def Counts.apply (counts : Counts) : BlockCall → Option Counts
  | .lock block rc => counts.on (fun c => some { c with locks := c.locks + rc.raises }) block
  | .unlock block => counts.on (fun c => (lower c.locks).map fun n => { c with locks := n }) block
  | .lockOffset block rc => counts.on (fun c => some { c with offsets := c.offsets + rc.raises }) block
  | .unlockOffset block => counts.on (fun c => (lower c.offsets).map fun n => { c with offsets := n }) block

def Counts.run (counts : Counts) : List BlockCall → Option Counts
  | [] => some counts
  | call :: calls => (counts.apply call).bind (·.run calls)

end BcmPlatform.Gralloc

/-! ### `gralloc_alloc_buffer` and `gralloc_free_buffer` -/

namespace BcmPlatform.Gralloc
open Lib Bomx

/-- `GR_MGMT_MODE_LOCKED` and `GR_MGMT_MODE_UNLOCKED` -/
inductive MgmtMode where
  | locked
  | unlocked
  deriving DecidableEq, Repr

/-- What the module was loaded with: `hasGraphics` is whether there are a graphics handle and a checkpoint event. -/
structure Module where
  mgmtMode : MgmtMode := .locked
  logMapper : Bool := false
  hasGraphics : Bool := true
  deriving DecidableEq, Repr

/-- A log message with the address of the shared data. -/
def logAddress (m : Module) (rc : LockRc) : List BlockCall :=
  if m.logMapper then [.lockOffset .shared rc, .unlockOffset .shared] else []

/-! ### Clearing -/

/-- `NEXUS_Graphics2D_Checkpoint` -/
inductive Checkpoint where
  | success
  | queued
  | error
  deriving DecidableEq, Repr

/-- The answers of the graphics engine to a fill; `wait` is whether the event comes in time. -/
structure EngineAnswers where
  packetBuffer : Bool := true
  writeComplete : Bool := true
  checkpoint : Checkpoint := .success
  wait : Bool := true
  deriving DecidableEq, Repr

/-- Whether `errCode` is 0 behind the fill, which is then complete. -/
def EngineAnswers.completes (e : EngineAnswers) : Bool :=
  e.packetBuffer && e.writeComplete && match e.checkpoint with
    | .success => true
    | .queued => e.wait
    | .error => false

structure BzeroAnswers where
  offset : LockRc := .success
  lock : LockAnswer := {}
  engine : EngineAnswers := {}
  deriving DecidableEq, Repr

/-- The memory of a plane. -/
abbrev PlaneMemory : Type := Memory (BitVec 8)

/-- A fill with color 0. -/
def fillBlit (c : Container) : PlaneMemory → PlaneMemory := Memory.fill (InRect 0 c.stride (c.width * c.bpp) c.height) 0

/-- `bzero(pMemory, size)` -/
def cpuBzero (size : Nat) : PlaneMemory → PlaneMemory := Memory.fill (· < size) 0

structure BzeroOutcome where
  calls : List BlockCall
  memory : PlaneMemory → PlaneMemory

/-- `gralloc_bzero` -/
def bzero (m : Module) (c : Container) (a : BzeroAnswers) : BzeroOutcome :=
  let locks : List BlockCall := [.lockOffset .plane a.offset, .lock .plane a.lock.rc]
  if a.lock.rc ≠ .success ∨ a.offset ≠ .success ∨ a.lock.addr = false then
    { calls := locks ++ undoNotSupported .plane a.lock.rc, memory := id }
  else
    -- nothing is written for YUV formats, and `errCode` is 0
    let done := m.hasGraphics && (c.format.isYuv || a.engine.completes)
    let memory :=
      if !done then cpuBzero c.size
      else if c.format.isYuv then id
      else fillBlit c
    { calls := locks ++ [.unlockOffset .plane, .unlock .plane], memory }

/-! ### Allocation -/

inductive Errno where
  | einval
  | enomem
  | ebusy
  | nexus
  deriving DecidableEq, Repr

/-- The fields of `private_handle_t` that are read, and the container in the shared data. -/
structure Buffer where
  mgmtMode : MgmtMode
  alignment : Nat
  usage : Usage
  fmtSet : FmtSet
  container : Container
  deriving DecidableEq, Repr

/-- The answers to the calls of `gralloc_alloc_buffer`: `opened` is whether there are two descriptors and a handle,
    `sharedBlock` whether the shared data is allocated, and `planeSized` and `planeBlock` are those of the plane. -/
structure AllocAnswers where
  opened : Bool := true
  sharedBlock : Bool := true
  sharedLock : LockAnswer := {}
  planeSized : Bool := true
  planeBlock : Bool := true
  planeOffset : LockRc := .success
  planeLock : LockRc := .success
  logOffset : LockRc := .success
  bzero : BzeroAnswers := {}
  deriving DecidableEq, Repr

/-- `*pStride` and `size`; `exact` is whether all computations of them have room. `requested` is the size that the plane is
    allocated with. -/
structure AllocOutcome where
  result : Except Errno Buffer
  stride : Int := 0
  size : Int := 0
  exact : Bool := true
  requested : Option Nat := none
  calls : List BlockCall := []
  memory : PlaneMemory → PlaneMemory := id

/-- The container before the plane is allocated. -/
def initialContainer (w h : Int) (format : PixelFormat) (bpp : Nat) (data : BufferData) : Container :=
  { format, bpp, width := unsigned w, height := unsigned h, physAddr := false, size := unsigned data.size.value
    allocSize := unsigned data.size.value, stride := unsigned data.stride.value }

/-- The container with the size that the plane is allocated with. -/
def planeContainer (c : Container) (set : FmtSet) (ogl : Nat × Nat) : Container :=
  match set with
  | .standard => { c with stride := ogl.1, allocSize := ogl.2 }
  | _ => c

/-- The locks that a plane has as long as it is allocated. -/
def lockedModeCalls (m : Module) (plane : Bool) (a : AllocAnswers) : List BlockCall :=
  if m.mgmtMode = .locked ∧ plane = true then [.lockOffset .plane a.planeOffset, .lock .plane a.planeLock] else []

/-- `gralloc_alloc_buffer` -/
def allocBuffer (m : Module) (a : AllocAnswers) (w h : Int32) (format : PixelFormat) (usage : Usage) : AllocOutcome :=
  match getNexusPixelFormat format with
  | none => { result := .error .einval }
  | some bpp =>
    let data := getBufferDataFromFormat 1 w.toInt h.toInt bpp format
    let outcome : AllocOutcome :=
      { result := .error .enomem, stride := data.stride.value, size := data.size.value
        exact := data.stride.exact && data.size.exact }
    let sharedLock : List BlockCall := [.lock .shared a.sharedLock.rc]
    let sharedUnlock : List BlockCall := [.unlock .shared]
    if !a.opened then { result := .error .einval }
    else if !a.sharedBlock then outcome
    else if a.sharedLock.rc ≠ .success ∨ a.sharedLock.addr = false then
      { outcome with calls := sharedLock ++ undoNotSupported .shared a.sharedLock.rc }
    else
      let container := initialContainer w.toInt h.toInt format bpp data
      match setupGLSuitableBuffer container with
      | none => { outcome with result := .error .einval, calls := sharedLock ++ sharedUnlock }
      | some ogl =>
        let set := fmtSet format usage w.toInt h.toInt
        let container := planeContainer container set ogl
        let outcome := { outcome with requested := if set = FmtSet.none then none else some container.allocSize }
        if set ≠ FmtSet.none ∧ a.planeSized = true ∧ a.planeBlock = false then
          { outcome with calls := sharedLock ++ sharedUnlock }
        else
          let plane := decide (set ≠ FmtSet.none) && a.planeSized
          let container := { container with physAddr := plane }
          let calls := sharedLock ++ lockedModeCalls m plane a ++ logAddress m a.logOffset
          if set ≠ FmtSet.none ∧ plane = false then { outcome with calls := calls ++ sharedUnlock }
          else
            let alignment := data.alignment.toNat
            let buffer : Buffer := { mgmtMode := m.mgmtMode, alignment, usage, fmtSet := set, container }
            let cleared := if plane then bzero m container a.bzero else { calls := [], memory := id }
            { outcome with
              result := .ok buffer, calls := calls ++ cleared.calls ++ sharedUnlock, memory := cleared.memory }

/-- The answers to the calls of `gralloc_free_buffer`. -/
structure FreeAnswers where
  sharedLock : LockAnswer := {}
  logOffset : LockRc := .success
  deriving DecidableEq, Repr

/-- `gralloc_free_buffer` -/
def freeBuffer (m : Module) (b : Buffer) (a : FreeAnswers) : List BlockCall :=
  let locks := .lock .shared a.sharedLock.rc :: undoNotSupported .shared a.sharedLock.rc
  let body : List BlockCall :=
    if a.sharedLock.addr then
      logAddress m a.logOffset ++
        if b.mgmtMode = .locked ∧ b.container.physAddr = true then [.unlockOffset .plane, .unlock .plane] else []
    else []
  locks ++ body ++ unlockIfLocked .shared a.sharedLock.rc

end BcmPlatform.Gralloc
