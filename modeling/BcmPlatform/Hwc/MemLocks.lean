import BcmPlatform.Hwc.Classify

/-! The locks of the buffers of a list: a lock of a block takes an external reference first, with an ioctl. What each ioctl and
    each lock answers is arbitrary; a lock that answers `BERR_NOT_SUPPORTED` counts, which the code undoes. -/

namespace BcmPlatform.Hwc

/-- What `NEXUS_MemoryBlock_Lock` answers. -/
inductive LockResult where
  | success
  | notSupported
  | error
  deriving DecidableEq, Repr

/-- The calls that change the counts of a block, with what they answer: `NX_ASHMEM_REFCNT_ADD` and `NX_ASHMEM_REFCNT_REM`,
    `NEXUS_MemoryBlock_Lock`, `_Unlock`, `_LockOffset` and `_UnlockOffset`. -/
inductive MemCall where
  | refAdd (block : Nat) (ok : Bool)
  | refRem (block : Nat) (ok : Bool)
  | lock (block : Nat) (rc : LockResult)
  | unlock (block : Nat)
  | lockOffset (block : Nat) (ok : Bool)
  | unlockOffset (block : Nat)
  deriving DecidableEq, Repr

/-- The answers to a lock: to the ioctl that adds a reference, to the lock, and to the ioctl that gives the reference back,
    at once or with the unlock. -/
structure LockAnswers where
  add : Bool := true
  lock : LockResult := .success
  rem : Bool := true
  deriving DecidableEq, Repr

/-- What a lock returns: whether it is `NEXUS_SUCCESS`, and whether there is an address. -/
structure LockOutcome where
  rc : Bool
  addr : Bool
  calls : List MemCall
  deriving DecidableEq, Repr

/-- `hwc_mem_lock`; a `NULL` block is a success without an address. -/
def memLock (block : Option Nat) (a : LockAnswers) : LockOutcome :=
  match block with
  | none => { rc := true, addr := false, calls := [] }
  | some b =>
    if !a.add then { rc := false, addr := false, calls := [.refAdd b false] }
    else match a.lock with
      | .success => { rc := true, addr := true, calls := [.refAdd b true, .lock b .success] }
      | .notSupported =>
        { rc := false, addr := false, calls := [.refAdd b true, .lock b .notSupported, .refRem b a.rem, .unlock b] }
      | .error => { rc := false, addr := false, calls := [.refAdd b true, .lock b .error, .refRem b a.rem] }

/-- `hwc_mem_unlock` -/
def memUnlock (block : Option Nat) (a : LockAnswers) : List MemCall :=
  match block with
  | none => []
  | some b => [.unlock b, .refRem b a.rem]

/-- `hwc_mem_lock_phys` -/
def memLockPhys (block : Option Nat) (a : LockAnswers) : LockOutcome :=
  match block with
  | none => { rc := true, addr := false, calls := [] }
  | some b =>
    if !a.add then { rc := false, addr := false, calls := [.refAdd b false] }
    else if a.lock = .success then { rc := true, addr := true, calls := [.refAdd b true, .lockOffset b true] }
    else { rc := false, addr := false, calls := [.refAdd b true, .lockOffset b false, .refRem b a.rem] }

/-- `hwc_mem_unlock_phys` -/
def memUnlockPhys (block : Option Nat) (a : LockAnswers) : List MemCall :=
  match block with
  | none => []
  | some b => [.unlockOffset b, .refRem b a.rem]

/-- A layer with its blocks: of the shared data, with what is in it, and of the pixels; `fmtSet` is `fmt_set != GR_NONE`. -/
structure BufferLayer extends HwcLayer where
  sharedData : Option Nat := none
  content : SharedData := {}
  physAddr : Option Nat := none
  fmtSet : Bool := false
  deriving DecidableEq, Repr

namespace BufferLayer

/-- A function that locks the shared data, leaves if there is no address, and unlocks it at its end. -/
def useSharedData (l : BufferLayer) (a : LockAnswers) : List MemCall :=
  let lock := memLock l.sharedData a
  if !lock.rc || !lock.addr then lock.calls else lock.calls ++ memUnlock l.sharedData a

/-- What a lock of the shared data finds. -/
def found (a : LockAnswers) (l : BufferLayer) : Option SharedData :=
  if (memLock l.sharedData a).addr then some l.content else none

end BufferLayer

/-- `is_video_layer` locks the shared data. -/
def HwcLayer.locksForVideo (l : HwcLayer) : Bool :=
  l.hwcValidateLayerHandle = 0 && l.compositionType = .overlay && l.handle.isSome && !l.skipLayer

/-- The calls of `is_video_layer`, `can_handle_downscale` and `hwc_prepare_gpx_layer`. -/
def isVideoLayerCalls (hw : HwcLayer) (l : BufferLayer) (a : LockAnswers) : List MemCall :=
  if hw.locksForVideo then l.useSharedData a else []

def canHandleDownscaleCalls (l : BufferLayer) (a : LockAnswers) : List MemCall :=
  if l.handle.isNone then [] else l.useSharedData a

def prepareGpxLayerCalls (hw : HwcLayer) (l : BufferLayer) (a : LockAnswers) : List MemCall :=
  if hw.compositionType = .sideband || hw.handle.isNone then [] else l.useSharedData a

/-- The first pass asks `can_handle_downscale`. -/
def HwcLayer.asksDownscale (glesMode : GlesMode) (l : HwcLayer) : Bool :=
  glesMode = .fallback && l.reportBackground.isPlain && !l.skipLayer && l.handle.isSome

/-! ### The primary display -/

/-- What the calls for the primary display find; functions take the position of a layer. -/
structure PrimaryMemAnswers where
  powered : Bool := true
  setup : SetupPass → Nat → LockAnswers := fun _ _ => {}
  /-- `display_dump_layer & HWC_DUMP_LEVEL_PREPARE` -/
  dumps : Bool := false
  dump : Nat → LockAnswers := fun _ => {}
  nsc : Nat → LockAnswers := fun _ => {}
  gpx : Nat → LockAnswers := fun _ => {}
  surface : Bool := true
  ignoreCursor : Bool := false
  shared : Nat → LockAnswers := fun _ => {}
  phys : Nat → LockAnswers := fun _ => {}

namespace PrimaryMemAnswers
variable (a : PrimaryMemAnswers)

/-- What the locks of `primary_composition_setup` find. -/
def setupFound (layers : List BufferLayer) (pass : SetupPass) (i : Nat) : Option SharedData :=
  layers[i]?.bind fun l => l.found (a.setup pass i)

/-- `primary_composition_setup` -/
def setupCalls (ctx : ClassifyConfig) (layers : List BufferLayer) : List MemCall :=
  let hwLayers := layers.map (·.toHwcLayer)
  let classified := layers.zip (classifyLayers ctx (a.setupFound layers) hwLayers)
  (layers.zipIdx.flatMap fun p =>
      if p.1.asksDownscale ctx.glesMode then canHandleDownscaleCalls p.1 (a.setup .downscale p.2) else []) ++
    (classified.zipIdx.flatMap fun p => isVideoLayerCalls p.1.2 p.1.1 (a.setup .count p.2)) ++
    if hasLastPass ctx (a.setupFound layers) hwLayers then
      classified.zipIdx.flatMap fun p => isVideoLayerCalls p.1.2 p.1.1 (a.setup .compose p.2)
    else []

/-- `primary_need_nsc_layer` -/
def needNscLayer (ctx : ClassifyConfig) (needsFbTarget : Bool) (l : HwcLayer) : Bool :=
  if l.handle.isNone && l.compositionType ≠ .sideband then false
  else if l.compositionType = .sideband && l.sidebandStream.isNone then false
  else if l.skipLayer then false
  else if l.compositionType = .framebuffer then false
  else if l.compositionType = .framebufferTarget && (ctx.glesMode = .never || !needsFbTarget) then false
  else true

/-- The handle that is dumped. -/
def dumpCalls (i : Nat) (l : BufferLayer) : List MemCall :=
  if !a.dumps || l.handle.isNone then []
  else
    let lock := memLockPhys l.sharedData (a.dump i)
    lock.calls ++ if lock.rc then memUnlockPhys l.sharedData (a.dump i) else []

/-- A video layer that the graphics core does not compose. -/
def isOobVideo (hw : HwcLayer) (shared : Option SharedData) : Bool :=
  hw.isVideoLayer shared && (hw.compositionType = .sideband || shared.any (0 < ·.windowIdPlusOne))

/-- `hwc_nsc_prepare_layer`; the mm and sb clients are prepared without a lock. -/
def nscPrepareLayerCalls (i : Nat) (hw : HwcLayer) (l : BufferLayer) : List MemCall :=
  isVideoLayerCalls hw l (a.nsc i) ++
    if isOobVideo hw (l.found (a.nsc i)) then [] else prepareGpxLayerCalls hw l (a.gpx i)

/-- `hwc_prepare_primary` -/
def prepare (ctx : ClassifyConfig) (layers : List BufferLayer) : List MemCall :=
  if !a.powered then []
  else
    let setup := primaryCompositionSetup ctx (a.setupFound layers) (layers.map (·.toHwcLayer))
    a.setupCalls ctx layers ++ (layers.zip setup.hwLayers).zipIdx.flatMap fun p =>
      if needNscLayer ctx setup.needsFbTarget p.1.2 then a.dumpCalls p.2 p.1.1 ++ a.nscPrepareLayerCalls p.2 p.1.2 p.1.1
      else []

/-- `hwc_validate_layer_handle` for `HWC_SCOPE_COMP`; the item has the sideband client of the stream, if there is one. -/
def isValid (l : HwcLayer) : Bool :=
  match l.compositionType with
  | .overlay => !l.handle.any (!·.valid)
  | .sideband => l.sidebandStream = some true
  | _ => true

/-- The loop of `hwc_compose_primary`. `lrcp` is what the last lock of the pixels returned, of this layer or of one before;
    the block of the pixels is `NULL` until it is locked. -/
def composeLayers : Nat → List BufferLayer → Bool → List MemCall
  | _, [], _ => []
  | i, l :: rest, lrcp =>
    if !isValid l.toHwcLayer then composeLayers (i + 1) rest lrcp
    else if i > nscGpxClientsNumber - 1 then []
    else if l.compositionType = .cursorOverlay && a.ignoreCursor then composeLayers (i + 1) rest lrcp
    else if l.compositionType = .sideband then
      (if lrcp then memUnlock none (a.phys i) else []) ++ composeLayers (i + 1) rest lrcp
    else if l.handle.isNone then composeLayers (i + 1) rest lrcp
    else
      let lock := memLock l.sharedData (a.shared i)
      if !lock.rc || !lock.addr then lock.calls ++ composeLayers (i + 1) rest lrcp
      else if l.fmtSet then
        let lockp := memLock l.physAddr (a.phys i)
        if !lockp.rc || !lockp.addr then
          -- The shared data stays locked.
          lock.calls ++ lockp.calls ++ composeLayers (i + 1) rest lockp.rc
        else
          lock.calls ++ lockp.calls ++ memUnlock l.physAddr (a.phys i) ++ memUnlock l.sharedData (a.shared i) ++
            composeLayers (i + 1) rest lockp.rc
      else lock.calls ++ memUnlock l.sharedData (a.shared i) ++ composeLayers (i + 1) rest false

/-- `hwc_compose_primary` -/
def compose (layers : List BufferLayer) : List MemCall := if a.surface then a.composeLayers 0 layers true else []

end PrimaryMemAnswers

/-! ### The virtual display -/

/-- What the calls for the virtual display find. `outbuf` is the block of the output buffer, if there is a buffer. -/
structure VirtualMemAnswers where
  outbuf : Option (Option Nat) := none
  prepareOut : LockAnswers := {}
  /-- `display_gles_always || display_gles_virtual` -/
  gles : Bool := false
  gpx : Nat → LockAnswers := fun _ => {}
  composeOut : LockAnswers := {}
  surface : Bool := true
  visible : Nat → Bool := fun _ => true
  shared : Nat → LockAnswers := fun _ => {}

namespace VirtualMemAnswers
variable (a : VirtualMemAnswers)

/-- `hwc_prepare_virtual`; without the output buffer its size is not known. -/
def prepare (layers : List BufferLayer) : List MemCall :=
  match a.outbuf with
  | none => []
  | some block =>
    let lock := memLock block a.prepareOut
    lock.calls ++ (if lock.rc then memUnlock block a.prepareOut else []) ++
      if a.gles || !lock.addr then []
      else layers.zipIdx.flatMap fun p =>
        if p.1.isPlain then prepareGpxLayerCalls p.1.toHwcLayer p.1 (a.gpx p.2) else []

/-- The loop of `hwc_compose_virtual`. -/
def composeLayers : Nat → List BufferLayer → List MemCall
  | _, [] => []
  | i, l :: rest =>
    if !a.visible i then composeLayers (i + 1) rest
    else if i > nscGpxClientsNumber then []
    else if l.handle.isNone then composeLayers (i + 1) rest
    else
      let lock := memLock l.sharedData (a.shared i)
      if !lock.addr then lock.calls ++ composeLayers (i + 1) rest
      else lock.calls ++ (if lock.rc then memUnlock l.sharedData (a.shared i) else []) ++ composeLayers (i + 1) rest

/-- `hwc_compose_virtual` of an item, which has an output buffer. -/
def compose (block : Option Nat) (layers : List BufferLayer) : List MemCall :=
  let lock := memLock block a.composeOut
  if !lock.addr then lock.calls
  else lock.calls ++ (if a.surface then a.composeLayers 0 layers else []) ++
    if lock.rc then memUnlock block a.composeOut else []

end VirtualMemAnswers
end BcmPlatform.Hwc
