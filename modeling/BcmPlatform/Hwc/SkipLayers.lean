import Mathlib.Data.List.Range
import BcmPlatform.Hwc.ReleaseFence

/-! Unchanged layers of the primary display: `hwc_prepare` marks the layers whose buffer is the one of the list before,
    and the composer thread skips what is marked. Lists go through a queue, so that a list is prepared before the one
    before it is composed. -/

namespace BcmPlatform.Hwc

/-- What `is_video_layer` finds; a YUV layer is composed by the graphics core, the others are shown by other means. -/
inductive LayerVideo where
  | none
  | yuv
  | window
  | sideband
  deriving DecidableEq, Repr

/-- A layer of a list, as `primary_composition_setup` leaves it. `geometry` stands for the layer and its geometry. -/
structure PrimaryLayer where
  geometry : Nat
  compositionType : CompositionType
  handle : Option Nat
  isCursorLayer : Bool := false
  skipLayer : Bool := false
  sidebandStream : Bool := false
  video : LayerVideo := .none
  deriving DecidableEq, Repr

/-- A client of the graphics core. No `last.layerhdl` is `NULL`. -/
structure GpxClient where
  layerhdl : Option Nat := none
  skipSet : Bool := false
  visible : Bool := false
  deriving DecidableEq, Repr

/-- A layer of a work item, with the flags of its client when it was posted. `isGpx` is history: `hwc_prepare` made it a
    layer of the graphics core. -/
structure ItemLayer where
  layer : PrimaryLayer
  isGpx : Bool
  visible : Bool
  skipSet : Bool
  deriving DecidableEq, Repr

/-- What a surface shows: the layers composed into it, with their buffers. -/
abbrev Picture := List (Nat × Nat)

/-- What a layer shows. -/
def PrimaryLayer.shows (l : PrimaryLayer) : Option (Nat × Nat) := l.handle.map fun handle => (l.geometry, handle)

/-- The visible layers of a work item. -/
def wanted (item : List ItemLayer) : Picture := item.filterMap fun l => if l.visible then l.layer.shows else none

/-- The layers of the list that are for the graphics core. -/
def listed (item : List ItemLayer) : Picture := item.filterMap fun l => if l.isGpx then l.layer.shows else none

/-- A frame that is done with: what was composed, whether it was pushed, and what the surface pushed before it shows. -/
structure FrameRecord where
  item : List ItemLayer
  composed : Picture
  pushed : Bool
  shown : Picture
  deriving DecidableEq, Repr

/-- The lists that were posted wait in `composerWorkList`. The last three fields are histories: the item of the last call,
    what the surface pushed last shows, and the frames. -/
structure SkipContext where
  gpxCli : Nat → GpxClient := fun _ => {}
  composerWorkList : List (List ItemLayer) := []
  alphaHoleBackground : Bool := false
  last : List ItemLayer := []
  shown : Picture := []
  frames : List FrameRecord := []

/-! ### `hwc_prepare_primary` -/

/-- `primary_need_nsc_layer`; `glesTarget` when the framebuffer target is needed. -/
def PrimaryLayer.needNscLayer (glesTarget : Bool) (l : PrimaryLayer) : Bool :=
  if l.handle.isNone && l.compositionType ≠ .sideband then false
  else if l.compositionType = .sideband && !l.sidebandStream then false
  else if l.skipLayer then false
  else if l.compositionType = .framebuffer then false
  else if l.compositionType = .framebufferTarget && !glesTarget then false
  else true

/-- The layers that `hwc_prepare_gpx_layer` gets and that come to its check; `valid` tells whether the memory of the
    buffer can be locked. -/
def PrimaryLayer.isGpxLayer (glesTarget valid : Bool) (l : PrimaryLayer) : Bool :=
  l.needNscLayer glesTarget && (l.video = .none || l.video = .yuv) && l.compositionType ≠ .sideband && valid

/-- The candidates for skipping. -/
def PrimaryLayer.skipCand (glesTarget valid : Bool) (l : PrimaryLayer) : Bool :=
  l.isGpxLayer glesTarget valid && l.compositionType = .overlay && !l.isCursorLayer

/-- The candidate has the buffer that its client had. -/
def PrimaryLayer.unchanged (geometryChanged glesTarget valid : Bool) (l : PrimaryLayer) (c : GpxClient) : Bool :=
  l.skipCand glesTarget valid && c.layerhdl.isSome && c.layerhdl = l.handle && !geometryChanged

/-- `hwc_prepare_gpx_layer` -/
def prepareGpxLayer (geometryChanged glesTarget valid : Bool) (l : PrimaryLayer) (c : GpxClient) : GpxClient :=
  if !l.isGpxLayer glesTarget valid then c
  else if l.unchanged geometryChanged glesTarget valid c then { c with skipSet := true }
  else { layerhdl := l.handle, skipSet := false, visible := true }

def nscMmClientsNumber : Nat := 3

def nscSbClientsNumber : Nat := 2

/-- `hwc_nsc_prepare_layer`, or `hwc_hide_unused_gpx_layer`. A video layer that gets a client is hidden from the graphics
    core; `before` are the layers before this one. -/
def prepareLayer (geometryChanged glesTarget valid : Bool) (before : List PrimaryLayer) (l : PrimaryLayer)
    (c : GpxClient) : GpxClient :=
  let taken (video : LayerVideo) : Nat := before.countP fun l => l.needNscLayer glesTarget && l.video = video
  if !l.needNscLayer glesTarget then {}
  else match l.video with
    | .window => if taken .window < nscMmClientsNumber then { c with visible := false } else c
    | .sideband => if taken .sideband < nscSbClientsNumber then { c with visible := false } else c
    | .none | .yuv => prepareGpxLayer geometryChanged glesTarget valid l c

/-- A call of `hwc_prepare` and of `hwc_set` for the same list. `prepared` and `posted` tell whether the power was on in
    each, and whether the item was allocated; `target` is the buffer that the framebuffer target has in `hwc_set`. -/
structure FrameInput where
  layers : List PrimaryLayer
  geometryChanged : Bool := false
  glesTarget : Bool := false
  valid : Nat → Bool := fun _ => true
  target : Option Nat := none
  prepared : Bool := true
  posted : Bool := true

namespace FrameInput

def unchanged (f : FrameInput) (gpxCli : Nat → GpxClient) (i : Nat) : Bool :=
  f.layers[i]?.any fun l => l.unchanged f.geometryChanged f.glesTarget (f.valid i) (gpxCli i)

def skipCand (f : FrameInput) (i : Nat) : Bool := f.layers[i]?.any fun l => l.skipCand f.glesTarget (f.valid i)

/-- The candidates are skipped together or not at all. -/
def skipAll (f : FrameInput) (gpxCli : Nat → GpxClient) : Bool :=
  !((List.range f.layers.length).countP (f.unchanged gpxCli) < (List.range f.layers.length).countP f.skipCand)

/-- The clients after the loop over the layers. -/
def prepareLayers (f : FrameInput) (gpxCli : Nat → GpxClient) (i : Nat) : GpxClient :=
  match f.layers[i]? with
  | some l => prepareLayer f.geometryChanged f.glesTarget (f.valid i) (f.layers.take i) l (gpxCli i)
  | none => if i < nscGpxClientsNumber then {} else gpxCli i

/-- `hwc_prepare_primary` -/
def preparePrimary (f : FrameInput) (gpxCli : Nat → GpxClient) (i : Nat) : GpxClient :=
  if !f.prepared then gpxCli i
  else
    let c := f.prepareLayers gpxCli i
    if !f.skipAll gpxCli && i < f.layers.length then { c with skipSet := false } else c

/-- What `hwc_set_primary` copies. -/
def item (f : FrameInput) (gpxCli : Nat → GpxClient) : List ItemLayer :=
  f.layers.mapIdx fun i l =>
    { layer := if l.compositionType = .framebufferTarget then { l with handle := f.target } else l
      isGpx := l.isGpxLayer f.glesTarget (f.valid i)
      visible := (gpxCli i).visible
      skipSet := (gpxCli i).skipSet }

end FrameInput

namespace SkipContext

/-- `hwc_prepare_primary` and `hwc_set_primary` -/
def frame (f : FrameInput) (s : SkipContext) : SkipContext :=
  let gpxCli := f.preparePrimary s.gpxCli
  { s with
    gpxCli
    last := f.item gpxCli
    composerWorkList := if f.posted then s.composerWorkList ++ [f.item gpxCli] else s.composerWorkList }

/-! ### `hwc_compose_primary` -/

/-- For a layer, whether its handle and its memory are valid (and it is no cursor that is ignored), what
    `hwc_compose_gralloc_buffer` answers, and whether the surface gets a seed that takes the background away. -/
structure LayerAnswer where
  valid : Bool := true
  composed : Bool := true
  clearsBackground : Bool := false
  deriving DecidableEq, Repr

/-- For a frame, what the calls answer; `pingReset` when a video client has its first frame. -/
structure FrameAnswer where
  surface : Bool := true
  pingReset : Bool := false
  layers : Nat → LayerAnswer := fun _ => {}
  qOps : Bool := true
  checkpoint : Bool := true
  push : Bool := true

/-- The variables of the loop over the layers. -/
structure ComposeLoop where
  background : Bool
  skipComp : Bool := false
  forcedBackground : Bool := false
  composed : Picture := []
  deriving DecidableEq, Repr

/-- One layer. A marked layer is composed after all when there is a video and no background for it. -/
def composeLayer (videoSeen : Bool) (a : LayerAnswer) (l : ItemLayer) (loop : ComposeLoop) : ComposeLoop :=
  if !a.valid || l.layer.handle.isNone || l.layer.video = .window || l.layer.video = .sideband || !l.visible then loop
  else
    let forced := l.skipSet && videoSeen && !loop.background
    let skipSet := l.skipSet && !forced
    let loop := { loop with
      forcedBackground := loop.forcedBackground || forced, skipComp := loop.skipComp || skipSet }
    if skipSet then loop
    else { loop with
      background := loop.background && !a.clearsBackground
      composed := loop.composed ++ if a.composed then l.layer.shows.toList else [] }

/-- The loop over the layers from layer `i` on, which ends at the last client. -/
def composeLayers (videoSeen : Bool) (a : Nat → LayerAnswer) : Nat → List ItemLayer → ComposeLoop → ComposeLoop
  | _, [], loop => loop
  | i, l :: rest, loop =>
    if i ≥ nscGpxClientsNumber then loop
    else composeLayers videoSeen a (i + 1) rest (composeLayer videoSeen (a i) l loop)

def videoSeen (item : List ItemLayer) : Bool := item.any fun l => l.layer.video ≠ .none

/-- The item and the background after the first loop: nothing is skipped under the first frame of a video. -/
def resetFirst (a : FrameAnswer) (item : List ItemLayer) (s : SkipContext) : List ItemLayer × Bool :=
  if videoSeen item && a.pingReset then (item.map fun l => { l with skipSet := false }, false)
  else (item, s.alphaHoleBackground)

/-- The end of the frame: what is pushed, and `alpha_hole_background` then. -/
def finishFrame (a : FrameAnswer) (videoSeen : Bool) (loop : ComposeLoop) : Bool × Bool :=
  if loop.composed = [] then
    if videoSeen && !loop.background && !loop.skipComp && a.checkpoint && a.push then (true, true)
    else (false, loop.background)
  else ((!a.qOps || a.checkpoint) && a.push, loop.forcedBackground)

/-- `hwc_compose_primary` for the first item of the list. -/
def compose (a : FrameAnswer) (s : SkipContext) : Option SkipContext :=
  match s.composerWorkList with
  | [] => none
  | item :: rest =>
    some (if !a.surface then
      { s with
        composerWorkList := rest
        frames := s.frames ++ [{ item, composed := [], pushed := false, shown := s.shown }] }
    else
      let p := s.resetFirst a item
      let loop := composeLayers (videoSeen item) a.layers 0 p.1 { background := p.2 }
      let e := finishFrame a (videoSeen item) loop
      { s with
        composerWorkList := rest
        alphaHoleBackground := e.2
        shown := if e.1 then loop.composed else s.shown
        frames := s.frames ++ [{ item := p.1, composed := loop.composed, pushed := e.1, shown := s.shown }] })

end SkipContext

/-- The steps of the two threads. -/
inductive SkipAction where
  | frame (f : FrameInput)
  | compose (a : SkipContext.FrameAnswer)

namespace SkipContext

/-- One step; `none` when it is not possible. -/
def step (s : SkipContext) : SkipAction → Option SkipContext
  | .frame f => some (s.frame f)
  | .compose a => s.compose a

end SkipContext
end BcmPlatform.Hwc
