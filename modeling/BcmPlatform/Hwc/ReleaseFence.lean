import Mathlib.Logic.Function.Basic
import Mathlib.Data.List.Nodup

/-! The release fences of the hardware composer with fence support: `hwc_set` installs one in each layer of a frame that
    it hands to the composer thread of the display, and the thread signals them when the frame is composed, or earlier.
    Each layer of each display has a timeline, a counter that signals fence `n` when it reaches `n`. -/

namespace BcmPlatform.Hwc

/-- `HWC_PRIMARY_IX` and `HWC_VIRTUAL_IX` -/
inductive Display where
  | primary
  | virtual
  deriving DecidableEq, Repr

inductive CompositionType where
  | framebuffer
  | overlay
  | background
  | framebufferTarget
  | sideband
  | cursorOverlay
  deriving DecidableEq, Repr

/-- `NSC_GPX_CLIENTS_NUMBER`, which is `HWC_VD_CLIENTS_NUMBER` as well. -/
def nscGpxClientsNumber : Nat := 11

/-- A frame: the display and the number of the `hwc_set` call. -/
structure Frame where
  display : Display
  compIx : Nat
  deriving DecidableEq, Repr

/-- A fence of a timeline, with the frame it is for: the one that created it, or the one that signalled it. -/
structure Fence where
  value : Nat
  frame : Frame
  deriving DecidableEq, Repr

/-- The timeline of a layer. `relTl` tells whether it could be created; `counter` is its value. -/
structure RelTimeline where
  relTl : Bool
  relTlIx : Nat := 0
  counter : Nat := 0
  created : List Fence := []
  signalled : List Fence := []
  deriving DecidableEq, Repr

namespace RelTimeline

/-- `hwc_rel_tl_fence`: the index goes up before the fence is created. -/
def fence (ok : Bool) (frame : Frame) (t : RelTimeline) : RelTimeline × Option Nat :=
  if !t.relTl then (t, none)
  else
    let curIx := t.relTlIx + 1
    if !ok then ({ t with relTlIx := curIx }, none)
    else ({ t with relTlIx := curIx, created := t.created ++ [{ value := curIx, frame }] }, some curIx)

/-- `hwc_rel_tl_inc`, while `frame` is composed. -/
def inc (frame : Frame) (t : RelTimeline) : RelTimeline :=
  if t.relTl then
    { t with counter := t.counter + 1, signalled := t.signalled ++ [{ value := t.counter + 1, frame }] }
  else t

end RelTimeline

/-- A layer of a frame, with what `hwc_prepare` decided about it; no release fence is `INVALID_FENCE`. -/
structure HwLayer where
  compositionType : CompositionType
  visible : Bool := true
  releaseFenceFd : Option Nat := none
  deriving DecidableEq, Repr

/-- The layers that get a release fence. -/
def HwLayer.fenced (l : HwLayer) : Bool :=
  (l.compositionType = .overlay || l.compositionType = .framebufferTarget) && l.visible

structure WorkItem where
  compIx : Nat
  hwLayers : List HwLayer
  deriving DecidableEq, Repr

/-- The fence of a layer. -/
def WorkItem.releaseFence (i : Nat) (item : WorkItem) : Option Nat := item.hwLayers[i]?.bind (·.releaseFenceFd)

/-- A composer thread at work: the next layer to compose, and whether operations are queued to the graphics core. -/
structure Composing where
  item : WorkItem
  next : Nat := 0
  qOps : Bool := false
  layerComposed : Nat := 0
  deriving DecidableEq, Repr

/-- `cli` are the timelines in `gpx_cli` and `vd_cli`. -/
structure HwcContext where
  g2dAllowSimult : Bool
  cli : Display → Nat → RelTimeline
  setCall : Display → Nat
  workList : Display → List WorkItem
  composing : Display → Option Composing

namespace HwcContext

/-! ### `hwc_set` -/

/-- The loop that installs the fences; its rounds are about one layer each. -/
def installFences (d : Display) (ok : Nat → Bool) (item : WorkItem) (ctx : HwcContext) : HwcContext × WorkItem :=
  let frame : Frame := { display := d, compIx := item.compIx }
  let layer (i : Nat) (t : RelTimeline) : RelTimeline :=
    if item.hwLayers[i]?.any (·.fenced) then (t.fence (ok i) frame).1 else t
  ({ ctx with cli := Function.update ctx.cli d fun i => layer i (ctx.cli d i) },
    { item with hwLayers := item.hwLayers.mapIdx fun i l =>
        if l.fenced then { l with releaseFenceFd := ((ctx.cli d i).fence (ok i) frame).2 } else l })

/-- The part that `hwc_set_primary` and `hwc_set_virtual` share. A call that does not get to post the frame is counted. -/
def setDisplay (d : Display) (posted : Bool) (ok : Nat → Bool) (hwLayers : List HwLayer) (ctx : HwcContext) :
    HwcContext :=
  let ctx := { ctx with setCall := Function.update ctx.setCall d (ctx.setCall d + 1) }
  if posted then
    let p := ctx.installFences d ok { compIx := ctx.setCall d, hwLayers }
    { p.1 with workList := Function.update p.1.workList d (p.1.workList d ++ [p.2]) }
  else ctx

/-- `hwc_set_primary` -/
def setPrimary (posted : Bool) (ok : Nat → Bool) (hwLayers : List HwLayer) (ctx : HwcContext) : HwcContext :=
  ctx.setDisplay .primary posted ok hwLayers

/-- `hwc_set_virtual` -/
def setVirtual (posted : Bool) (ok : Nat → Bool) (hwLayers : List HwLayer) (ctx : HwcContext) : HwcContext :=
  ctx.setDisplay .virtual posted ok hwLayers

/-! ### Composing -/

def setComposing (d : Display) (c : Option Composing) (ctx : HwcContext) : HwcContext :=
  { ctx with composing := Function.update ctx.composing d c }

/-- Releases the fences of the first `n` layers of the frame that display `d` composes, on the timelines of `index`. -/
def releaseFences (d index : Display) (n : Nat) (ctx : HwcContext) : HwcContext :=
  match ctx.composing d with
  | none => ctx
  | some c =>
    let frame : Frame := { display := d, compIx := c.item.compIx }
    let layer (i : Nat) (t : RelTimeline) : RelTimeline :=
      if i < n && (c.item.releaseFence i).isSome then t.inc frame else t
    ({ ctx with cli := Function.update ctx.cli index fun i => layer i (ctx.cli index i) } : HwcContext).setComposing d
      (some { c with item := { c.item with hwLayers := c.item.hwLayers.mapIdx fun i l =>
        if i < n then { l with releaseFenceFd := none } else l } })

/-- `hwc_clear_acquire_release_fences`: the timelines are those of the primary display. -/
def clearAcquireReleaseFences (d : Display) (index : Nat) (ctx : HwcContext) : HwcContext :=
  ctx.releaseFences d .primary index

def setQOps (d : Display) (qOps : Bool) (ctx : HwcContext) : HwcContext :=
  match ctx.composing d, d with
  | some c, .primary => ctx.setComposing d (some { c with qOps })
  | _, _ => ctx

/-- `q_ops` is `NULL` for the virtual display. -/
def qOps (d : Display) (ctx : HwcContext) : Bool := d = .primary && (ctx.composing d).any (·.qOps)

inductive BlitResult where
  | success
  | queueFull
  | failed
  deriving DecidableEq, Repr

/-- What the calls in `hwc_compose_gralloc_buffer` answer. -/
structure BufferAnswers where
  skipComp : Bool := false
  empty : Bool := false
  yv12 : Bool := false
  surfaces : Bool := true
  seeded : Bool := false
  locked : Bool := true
  packetBuffer : Bool := true
  flushed : Bool := true
  lockedAgain : Bool := true
  written : Bool := true
  blit : BlitResult := .success
  blitAgain : Bool := true
  checkpoint : Bool := true
  deriving DecidableEq, Repr

/-- The graphics core fills the output surface before the first layer. -/
def seedDispSurface (d : Display) (a : BufferAnswers) (ctx : HwcContext) : HwcContext :=
  if a.seeded then ctx.setQOps d true else ctx

/-- The branch for YV12 buffers; the second result tells whether the layer is composed. -/
def composeYv12 (d : Display) (layerId : Nat) (a : BufferAnswers) (ctx : HwcContext) : HwcContext × Bool :=
  if !a.surfaces then (ctx, false)
  else
    let ctx := ctx.seedDispSurface d a
    if !a.locked || !a.packetBuffer then (ctx, false)
    else
      let ctx :=
        if !ctx.g2dAllowSimult && ctx.qOps d && a.flushed then
          (ctx.setQOps d false).clearAcquireReleaseFences d (layerId - 1)
        else ctx
      if !a.lockedAgain || !a.written || !a.checkpoint then (ctx, false)
      else ((ctx.setQOps d false).clearAcquireReleaseFences d layerId, true)

/-- The branch for RGB buffers. -/
def composeRgb (d : Display) (layerId : Nat) (a : BufferAnswers) (ctx : HwcContext) : HwcContext × Bool :=
  if !a.surfaces then (ctx, false)
  else
    let ctx := ctx.seedDispSurface d a
    if !a.locked then (ctx, false)
    else
      let ctx :=
        if a.blit = .queueFull && a.flushed then ctx.clearAcquireReleaseFences d (layerId - 1) else ctx
      if a.blit = .failed || a.blit = .queueFull && !a.blitAgain then (ctx, false)
      else if d = .virtual then (ctx, true)
      else if a.checkpoint then ((ctx.setQOps d false).clearAcquireReleaseFences d layerId, true)
      else (ctx.setQOps d true, true)

/-- `hwc_compose_gralloc_buffer` -/
def composeGrallocBuffer (d : Display) (layerId : Nat) (visible : Bool) (a : BufferAnswers) (ctx : HwcContext) :
    HwcContext × Bool :=
  if d = .primary && a.skipComp then (ctx, false)
  else if !visible || a.empty then (ctx, false)
  else if a.yv12 then ctx.composeYv12 d layerId a
  else ctx.composeRgb d layerId a

/-- The next layer of the frame. `valid` tells whether its handle and its memory are, and no other path shows it. -/
def composeLayer (d : Display) (valid : Bool) (a : BufferAnswers) (ctx : HwcContext) : Option HwcContext :=
  match ctx.composing d with
  | none => none
  | some c =>
    match c.item.hwLayers[c.next]? with
    | none => none
    | some l =>
      let inRange := match d with
        | .primary => c.next < nscGpxClientsNumber
        | .virtual => c.next ≤ nscGpxClientsNumber
      let p := if valid && inRange && l.visible then ctx.composeGrallocBuffer d c.next l.visible a else (ctx, false)
      some (match p.1.composing d with
        | some c => p.1.setComposing d (some { c with
            next := c.next + 1, layerComposed := if p.2 then c.layerComposed + 1 else c.layerComposed })
        | none => p.1)

/-- The loop at the end of `hwc_compose_primary` and of `hwc_compose_virtual`. -/
def finishFrame (d : Display) (ctx : HwcContext) : Option HwcContext :=
  match ctx.composing d with
  | none => none
  | some c =>
    if c.next < c.item.hwLayers.length then none
    else some ((ctx.releaseFences d d c.item.hwLayers.length).setComposing d none)

/-- The thread takes the next frame; without an output surface it composes no layer. -/
def dequeue (d : Display) (output : Bool) (ctx : HwcContext) : Option HwcContext :=
  match ctx.composing d, ctx.workList d with
  | none, item :: rest =>
    some (({ ctx with workList := Function.update ctx.workList d rest } : HwcContext).setComposing d
      (some { item, next := if output then 0 else item.hwLayers.length }))
  | _, _ => none

end HwcContext

/-- `hwc_set` on one display and the steps of the two composer threads, which come in any order. -/
inductive HwcAction where
  | set (d : Display) (posted : Bool) (ok : Nat → Bool) (hwLayers : List HwLayer)
  | dequeue (d : Display) (output : Bool)
  | composeLayer (d : Display) (valid : Bool) (a : HwcContext.BufferAnswers)
  | finishFrame (d : Display)

namespace HwcContext

/-- One step; `none` when it is not possible. -/
def step (ctx : HwcContext) : HwcAction → Option HwcContext
  | .set .primary posted ok hwLayers => some (ctx.setPrimary posted ok hwLayers)
  | .set .virtual posted ok hwLayers => some (ctx.setVirtual posted ok hwLayers)
  | .dequeue d output => ctx.dequeue d output
  | .composeLayer d valid a => ctx.composeLayer d valid a
  | .finishFrame d => ctx.finishFrame d

/-- The composer after it was opened; `relTl` tells which timelines could be created. -/
def init (g2dAllowSimult : Bool) (relTl : Display → Nat → Bool) : HwcContext :=
  { g2dAllowSimult
    cli := fun d i => { relTl := relTl d i }
    setCall := fun _ => 0
    workList := fun _ => []
    composing := fun _ => none }

end HwcContext
end BcmPlatform.Hwc
