import Mathlib.Algebra.GroupWithZero.Nat
import Mathlib.Algebra.Ring.Int.Defs
import Mathlib.Data.List.Basic
import BcmPlatform.Hwc.ReleaseFence

/-! How `primary_composition_setup` classifies the layers of the primary display: four passes over the list, the second and
    the last of which ask whether a layer is a video layer. -/

namespace BcmPlatform.Hwc

def hwcCursorSurfaceSupported : Bool := false

/-- `HAL_PIXEL_FORMAT_*` -/
inductive PixelFormat where
  | yv12
  | ycbcr420
  | other
  deriving DecidableEq, Repr

/-- `SHARED_DATA`; `nexusClientContext` tells whether it is not `NULL`. -/
structure SharedData where
  windowIdPlusOne : Int := 0
  nexusClientContext : Bool := false
  format : PixelFormat := .other
  deriving DecidableEq, Repr

/-- `private_handle_t`: what `validate` says, and `GRALLOC_USAGE_HW_COMPOSER`. -/
structure PrivateHandle where
  valid : Bool := true
  usageHwComposer : Bool := false
  deriving DecidableEq, Repr

/-- `hwc_rect_t`; the source crop is what its casts to `int` give. -/
structure HwcRect where
  left : Int := 0
  top : Int := 0
  right : Int := 0
  bottom : Int := 0
  deriving DecidableEq, Repr

/-- `HWC_HINT_*` -/
structure Hints where
  tripleBuffer : Bool := false
  clearFb : Bool := false
  deriving DecidableEq, Repr

/-- `hwc_layer_1_t`; of a sideband stream, whether its client in `data[1]` is not `NULL`. -/
structure HwcLayer where
  compositionType : CompositionType
  hints : Hints := {}
  skipLayer : Bool := false
  isCursorLayer : Bool := false
  handle : Option PrivateHandle := none
  sidebandStream : Option Bool := none
  sourceCrop : HwcRect := {}
  displayFrame : HwcRect := {}
  deriving DecidableEq, Repr

/-- `ro.hwc.gles.mode` -/
inductive GlesMode where
  | fallback
  | always
  | never
  deriving DecidableEq, Repr

/-- The mode, and what the graphics core can do. -/
structure ClassifyConfig where
  glesMode : GlesMode
  maxHorizontalDownScale : Nat := 0
  maxVerticalDownScale : Nat := 0
  deriving DecidableEq, Repr

/-- The three times that a layer's shared data is locked. -/
inductive SetupPass where
  | downscale
  | count
  | compose
  deriving DecidableEq, Repr

namespace HwcLayer

/-- The test of the shared data of an overlay, in `is_video_layer_locked`. -/
def isVideoBuffer (handle : PrivateHandle) (shared : SharedData) : Bool :=
  if 0 < shared.windowIdPlusOne then shared.nexusClientContext
  else (shared.format = .yv12 || shared.format = .ycbcr420) && handle.usageHwComposer

/-- `is_video_layer_locked` for `HWC_SCOPE_PREP`, but for the hint; the shared data is not read for a sideband layer. -/
def isVideoLayerLocked (shared : Option SharedData) (l : HwcLayer) : Bool :=
  match l.compositionType, l.handle, shared with
  | .overlay, some handle, some shared => isVideoBuffer handle shared
  | .sideband, _, _ => l.sidebandStream = some true
  | _, _, _ => false

/-- The hint that `is_video_layer_locked` gives. -/
def clearFb (video : Bool) (l : HwcLayer) : HwcLayer :=
  if video then { l with hints := { l.hints with clearFb := true } } else l

/-- `hwc_validate_layer_handle` for `HWC_SCOPE_PREP` -/
def hwcValidateLayerHandle (l : HwcLayer) : Int :=
  match l.compositionType with
  | .overlay => if l.handle.any (!·.valid) then -1 else 0
  | .sideband => if l.sidebandStream = some false then -3 else 0
  | _ => 0

/-- `is_video_layer`; `shared` is what the lock finds, if it succeeds. -/
def isVideoLayer (shared : Option SharedData) (l : HwcLayer) : Bool :=
  if l.hwcValidateLayerHandle ≠ 0 then false
  else if ((l.compositionType = .overlay && l.handle.isSome) || (l.compositionType = .sideband && l.sidebandStream.isSome))
      && !l.skipLayer then
    if l.compositionType ≠ .sideband && shared.isNone then false else l.isVideoLayerLocked shared
  else false

/-- A side of the source or of the destination rectangle, in 16 bits. -/
def side (low high : Int) : Nat := ((high - low) % 2 ^ 16).toNat

def sameRect (source destination : HwcRect) : Bool :=
  source.left.bmod (2 ^ 16) = destination.left.bmod (2 ^ 16) && source.top.bmod (2 ^ 16) = destination.top.bmod (2 ^ 16) &&
    side source.left source.right = side destination.left destination.right &&
    side source.top source.bottom = side destination.top destination.bottom

/-- The sizes differ too much: both are not zero and their quotient reaches the bound. -/
def scaledTooMuch (max source destination : Nat) : Bool := source ≠ 0 && destination ≠ 0 && source / destination ≥ max

/-- `can_handle_downscale`, and the layer with the hint that it may give. -/
def canHandleDownscale (ctx : ClassifyConfig) (shared : Option SharedData) (l : HwcLayer) : Bool × HwcLayer :=
  if l.handle.isNone || shared.isNone then (true, l)
  else if sameRect l.sourceCrop l.displayFrame then (true, l)
  else if l.isVideoLayerLocked shared then (true, l.clearFb true)
  else if scaledTooMuch ctx.maxHorizontalDownScale (side l.sourceCrop.left l.sourceCrop.right)
      (side l.displayFrame.left l.displayFrame.right) then (false, l)
  else if scaledTooMuch ctx.maxVerticalDownScale (side l.sourceCrop.top l.sourceCrop.bottom)
      (side l.displayFrame.top l.displayFrame.bottom) then (false, l)
  else (true, l)

def setType (t : CompositionType) (l : HwcLayer) : HwcLayer := { l with compositionType := t }

/-- The background layer is not handled. -/
def reportBackground (l : HwcLayer) : HwcLayer :=
  if l.compositionType = .background then l.setType .framebuffer else l

/-- The layers that are an overlay unless something speaks against it. -/
def isPlain (l : HwcLayer) : Bool := l.compositionType = .framebuffer || l.compositionType = .overlay

/-- A layer with a handle that is not to be skipped: an overlay, unless the mode or its scale sends it back. -/
def overlay (ctx : ClassifyConfig) (shared : Option SharedData) (l : HwcLayer) : HwcLayer :=
  let l :=
    if l.isCursorLayer && hwcCursorSurfaceSupported then l.setType .cursorOverlay
    else { l with compositionType := .overlay, hints := { l.hints with tripleBuffer := true } }
  match ctx.glesMode with
  | .always => l.setType .framebuffer
  | .fallback =>
    let (ok, l) := l.canHandleDownscale ctx shared
    if ok then l else l.setType .framebuffer
  | .never => l

/-- The first pass. -/
def classify (ctx : ClassifyConfig) (shared : Option SharedData) (l : HwcLayer) : HwcLayer :=
  let l := l.reportBackground
  if l.isPlain then
    let l := l.setType .framebuffer
    if l.skipLayer || l.handle.isNone then l else l.overlay ctx shared
  else l

/-- The second pass; the hint does not change whether a layer is video. -/
def count (shared : Option SharedData) (l : HwcLayer) : HwcLayer := l.clearFb (l.isVideoLayer shared)

/-- The last pass, when there is one. -/
def demote (shared : Option SharedData) (l : HwcLayer) : HwcLayer :=
  if l.compositionType = .overlay then
    if l.isVideoLayer shared then l.clearFb true else { l with compositionType := .framebuffer, hints := {} }
  else l

end HwcLayer

/-- What `primary_composition_setup` leaves behind. -/
structure CompositionSetup where
  hwLayers : List HwcLayer
  needsFbTarget : Bool
  prepareVideo : Nat
  prepareSideband : Nat
  deriving DecidableEq, Repr

/-- The first two passes. -/
def classifyLayers (ctx : ClassifyConfig) (shared : SetupPass → Nat → Option SharedData) (hwLayers : List HwcLayer) :
    List HwcLayer :=
  (hwLayers.mapIdx fun i l => l.classify ctx (shared .downscale i)).mapIdx fun i l => l.count (shared .count i)

/-- The layers that the second pass finds to be video. -/
def videoLayers (ctx : ClassifyConfig) (shared : SetupPass → Nat → Option SharedData) (hwLayers : List HwcLayer) :
    List HwcLayer :=
  (classifyLayers ctx shared hwLayers).zipIdx.filterMap fun p => if p.1.isVideoLayer (shared .count p.2) then some p.1 else none

section Setup
variable (ctx : ClassifyConfig) (shared : SetupPass → Nat → Option SharedData) (hwLayers : List HwcLayer)

/-- `display_gles_always && !has_video` -/
def alwaysGl : Bool := ctx.glesMode = .always && (videoLayers ctx shared hwLayers).isEmpty

/-- `skip_layer_index != -1` -/
def hasSkipLayer : Bool := ctx.glesMode = .fallback && hwLayers.any fun l => l.reportBackground.isPlain && l.skipLayer

/-- The third pass. -/
def needsFbTarget : Bool :=
  (ctx.glesMode = .fallback || alwaysGl ctx shared hwLayers) &&
    (classifyLayers ctx shared hwLayers).any (·.compositionType = .framebuffer)

/-- There is a last pass. -/
def hasLastPass : Bool := hasSkipLayer ctx hwLayers || alwaysGl ctx shared hwLayers || needsFbTarget ctx shared hwLayers

/-- `primary_composition_setup`; `shared` is what each lock finds. -/
def primaryCompositionSetup : CompositionSetup where
  hwLayers :=
    if hasLastPass ctx shared hwLayers then
      (classifyLayers ctx shared hwLayers).mapIdx fun i l => l.demote (shared .compose i)
    else classifyLayers ctx shared hwLayers
  needsFbTarget := needsFbTarget ctx shared hwLayers
  prepareVideo := (videoLayers ctx shared hwLayers).countP (·.compositionType ≠ .sideband)
  prepareSideband := (videoLayers ctx shared hwLayers).countP (·.compositionType = .sideband)

end Setup
end BcmPlatform.Hwc
