import BcmPlatform.Hwc.SkipLayers

/-! The arrays with an entry for each layer or client, and the indices that `hwc_prepare`, `hwc_set` and the two compositions
    use for a list. What does not come from the list, such as locks, clients and fences, is an answer. Every
    `pthread_mutex_lock` succeeds. -/

namespace BcmPlatform.Hwc

/-- `gpx_cli`, `vd_cli`, `mm_cli` and `sb_cli`, the arrays of a work item, and the local array of a composition. -/
inductive LayerTable where
  | gpxCli
  | vdCli
  | mmCli
  | sbCli
  | itemComp
  | itemSkipSet
  | itemSbCli
  | surface
  deriving DecidableEq, Repr

def LayerTable.size : LayerTable → Nat
  | .mmCli => nscMmClientsNumber
  | .sbCli => nscSbClientsNumber
  | .gpxCli | .vdCli | .itemComp | .itemSkipSet | .itemSbCli | .surface => nscGpxClientsNumber

structure TableAccess where
  table : LayerTable
  index : Nat
  deriving DecidableEq, Repr

def TableAccess.inBounds (a : TableAccess) : Prop := a.index < a.table.size

/-- The accesses at each of these indices. -/
def LayerTable.at (indices : List Nat) (t : LayerTable) : List TableAccess := indices.map fun i => ⟨t, i⟩

/-! ### The primary display -/

/-- What the calls for the primary display do not find in the list; functions take the position of a layer. -/
structure PrimaryAnswers where
  powered : Bool
  glesTarget : Bool
  locked : Nat → Bool
  /-- `skip_set < skip_cand` -/
  someUnskipped : Bool
  /-- The power is on, the memory is there and the item is on the work list. -/
  posted : Bool
  fenceSupport : Bool
  signalOobInline : Bool
  surface : Bool
  videoSeen : Bool
  pingReset : Bool
  invalid : Nat → Bool
  ignoreCursor : Bool
  composeLocked : Nat → Bool
  visible : Nat → Bool
  /-- `hwc_set_layer_blending` is called. -/
  blends : Nat → Bool
  skipSet : Nat → Bool
  /-- How many of the layers below `hwc_clear_acquire_release_fences` goes through. -/
  cleared : Nat → Nat
  composed : Nat → Bool
  releaseFence : Nat → Bool

namespace PrimaryAnswers
variable (a : PrimaryAnswers)

/-- `hwc_nsc_prepare_layer` with `hwc_prepare_gpx_layer`, `hwc_prepare_mm_layer` and `hwc_prepare_sb_layer`. -/
def nscPrepareLayer (before : List PrimaryLayer) (l : PrimaryLayer) : List TableAccess :=
  let i := before.length
  let taken (video : LayerVideo) : Nat := before.countP fun l => l.needNscLayer a.glesTarget && l.video = video
  match l.video with
  | .window => if taken .window < nscMmClientsNumber then [⟨.gpxCli, i⟩, ⟨.mmCli, taken .window⟩] else []
  | .sideband => if taken .sideband < nscSbClientsNumber then [⟨.gpxCli, i⟩, ⟨.sbCli, taken .sideband⟩] else []
  | .none | .yuv => if l.isGpxLayer a.glesTarget (a.locked i) then [⟨.gpxCli, i⟩] else []

/-- The loop of `hwc_prepare_primary`; `hwc_hide_unused_gpx_layer` for a layer that needs no client. -/
def prepareLayers (layers : List PrimaryLayer) : List TableAccess :=
  layers.zipIdx.flatMap fun p =>
    if p.1.needNscLayer a.glesTarget then a.nscPrepareLayer (layers.take p.2) p.1 else [⟨.gpxCli, p.2⟩]

/-- `hwc_prepare_primary` -/
def prepare (layers : List PrimaryLayer) : List TableAccess :=
  if !a.powered then []
  else
    LayerTable.mmCli.at (List.range nscMmClientsNumber) ++ LayerTable.sbCli.at (List.range nscSbClientsNumber) ++
      a.prepareLayers layers ++ (if a.someUnskipped then LayerTable.gpxCli.at (List.range layers.length) else []) ++
      LayerTable.gpxCli.at ((List.range nscGpxClientsNumber).filter (layers.length ≤ ·))

/-- A layer in `hwc_set_primary`: it goes into the item, and it gets a fence. -/
def setLayer (l : PrimaryLayer) (i : Nat) : List TableAccess :=
  [⟨.itemComp, i⟩, ⟨.gpxCli, i⟩, ⟨.itemSkipSet, i⟩] ++
    (if l.compositionType = .sideband && l.sidebandStream then [⟨.itemSbCli, i⟩] else []) ++
    if a.fenceSupport && (l.compositionType = .overlay || l.compositionType = .framebufferTarget) then [⟨.gpxCli, i⟩] else []

/-- `hwc_set_primary` with `hwc_set_signal_oob_il_locked` -/
def set (layers : List PrimaryLayer) : List TableAccess :=
  if !a.posted then []
  else (layers.zipIdx.flatMap fun p => a.setLayer p.1 p.2) ++
    if a.fenceSupport && a.signalOobInline && layers.any (·.video = .window) then [⟨.mmCli, 0⟩] else []

/-- `hwc_clear_acquire_release_fences`, which always takes the timelines of the primary display. -/
def clearFences (index : Nat) : List TableAccess :=
  LayerTable.gpxCli.at ((List.range (min index (a.cleared index))).filter a.releaseFence)

/-- A layer with a valid handle in `hwc_compose_primary`, with `hwc_compose_gralloc_buffer`. -/
def composeLayer (i : Nat) (l : PrimaryLayer) : List TableAccess :=
  if l.compositionType = .cursorOverlay && a.ignoreCursor then []
  else if l.compositionType ≠ .sideband && (l.handle.isNone || !a.composeLocked i) then []
  else match l.video with
    | .window => [⟨.mmCli, 0⟩]
    | .sideband => [⟨.sbCli, 0⟩]
    | .none | .yuv =>
      ⟨.itemComp, i⟩ :: if !a.visible i then []
        else
          [⟨.itemSkipSet, i⟩] ++ (if a.blends i then [⟨.gpxCli, i⟩] else []) ++ [⟨.surface, i⟩, ⟨.itemComp, i⟩] ++
            (if a.skipSet i then [] else ⟨.gpxCli, i⟩ :: a.clearFences i) ++ if a.composed i then [⟨.gpxCli, i⟩] else []

/-- The loop of `hwc_compose_primary`: a layer that is not valid is passed over before the position is checked. -/
def composeLayers : Nat → List PrimaryLayer → List TableAccess
  | _, [] => []
  | i, l :: rest =>
    ⟨.itemSbCli, i⟩ :: if a.invalid i then composeLayers (i + 1) rest
      else if i > nscGpxClientsNumber - 1 then []
      else a.composeLayer i l ++ composeLayers (i + 1) rest

/-- The loop at the end, which is reached in any case. -/
def finishLayer (i : Nat) : List TableAccess := ⟨.surface, i⟩ :: if a.releaseFence i then [⟨.gpxCli, i⟩] else []

/-- `hwc_compose_primary` -/
def compose (layers : List PrimaryLayer) : List TableAccess :=
  (if !a.surface then []
    else
      LayerTable.itemComp.at (List.range layers.length) ++
        (if a.videoSeen then LayerTable.mmCli.at (List.range nscMmClientsNumber) ++
          (if a.pingReset then LayerTable.itemSkipSet.at (List.range layers.length) else []) else []) ++
        a.composeLayers 0 layers) ++
    (List.range layers.length).flatMap a.finishLayer

/-- The three calls for a list. -/
def accesses (layers : List PrimaryLayer) : List TableAccess :=
  a.prepare layers ++ a.set layers ++ if a.posted then a.compose layers else []

end PrimaryAnswers

/-! ### The virtual display; its layers are described like those of the primary display -/

/-- What the calls for the virtual display do not find in the list. -/
structure VirtualAnswers where
  /-- The graphics core composes this display, and the size of its buffer is known. -/
  composes : Bool
  locked : Nat → Bool
  /-- The client of the primary display at that index had the handle of this layer last. -/
  sameHandle : Nat → Bool
  posted : Bool
  fenceSupport : Bool
  output : Bool
  composeLocked : Nat → Bool
  blits : Nat → Bool
  /-- As for the primary display; here it is reached only with a layer of YV12. -/
  cleared : Nat → Nat
  releaseFence : Nat → Bool

/-- The loop of `hwc_prepare_virtual`. `vdCli` tells whose composition is in an entry, if it is visible. -/
structure VirtualPrepare where
  layerId : Nat := 0
  vdCli : Nat → Option Nat := fun _ => none
  accesses : List TableAccess := []

/-- The layers that the virtual display prepares. -/
def PrimaryLayer.isPlain (l : PrimaryLayer) : Bool := l.compositionType = .framebuffer || l.compositionType = .overlay

namespace VirtualAnswers
variable (a : VirtualAnswers)

/-- `hwc_prepare_gpx_layer` comes to its check. -/
def checked (l : PrimaryLayer) (i : Nat) : Bool := l.handle.isSome && a.locked i

/-- The branch that skips an unchanged layer, and leaves its composition as it is. -/
def skips (l : PrimaryLayer) (i : Nat) : Bool := l.compositionType = .overlay && !l.isCursorLayer && a.sameHandle i

/-- A layer that is prepared. -/
def prepares (l : PrimaryLayer) (i : Nat) : Bool := l.isPlain && a.checked l i && !a.skips l i

/-- A layer in the loop: its client is counted by `layer_id`. -/
def prepareLayer (i : Nat) (l : PrimaryLayer) (s : VirtualPrepare) : VirtualPrepare :=
  if !l.isPlain then s
  else if !a.checked l i then { s with layerId := s.layerId + 1 }
  else if a.skips l i then { s with layerId := s.layerId + 1, accesses := s.accesses ++ [⟨.gpxCli, s.layerId⟩] }
  else
    { layerId := s.layerId + 1
      vdCli := Function.update s.vdCli s.layerId (some i)
      accesses := s.accesses ++ [⟨.gpxCli, s.layerId⟩, ⟨.vdCli, s.layerId⟩] }

def prepareLayers : Nat → List PrimaryLayer → VirtualPrepare → VirtualPrepare
  | _, [], s => s
  | i, l :: rest, s => prepareLayers (i + 1) rest (a.prepareLayer i l s)

/-- `hwc_prepare_virtual`; first no composition is visible. -/
def prepare (layers : List PrimaryLayer) : VirtualPrepare :=
  let s : VirtualPrepare := { accesses := LayerTable.vdCli.at (List.range nscGpxClientsNumber) }
  if a.composes then a.prepareLayers 0 layers s else s

/-- `item->comp`: `hwc_set_virtual` takes the entry of `vd_cli` at the position of the layer. -/
def itemComp (layers : List PrimaryLayer) (i : Nat) : Option Nat :=
  if i < layers.length then (a.prepare layers).vdCli i else none

/-- `hwc_set_virtual` -/
def set (layers : List PrimaryLayer) : List TableAccess :=
  if !a.posted then []
  else LayerTable.itemComp.at (List.range layers.length) ++ LayerTable.vdCli.at (List.range layers.length) ++
    if a.fenceSupport then LayerTable.vdCli.at (List.range layers.length) else []

/-- The loop of `hwc_compose_virtual`: the accesses, and the layers that are composed with the layers whose composition is
    used for them. -/
def composeLayers (comp : Nat → Option Nat) : Nat → List PrimaryLayer → List TableAccess × List (Nat × Nat)
  | _, [] => ([], [])
  | i, l :: rest =>
    match comp i with
    | none =>
      let r := composeLayers comp (i + 1) rest
      (⟨.itemComp, i⟩ :: r.1, r.2)
    | some j =>
      -- The comparison lets one position more pass than there are entries.
      if i > nscGpxClientsNumber then ([⟨.itemComp, i⟩], [])
      else
        let r := composeLayers comp (i + 1) rest
        if l.handle.isNone || !a.composeLocked i then (⟨.itemComp, i⟩ :: r.1, r.2)
        else
          ([⟨.itemComp, i⟩, ⟨.surface, i⟩, ⟨.itemComp, i⟩] ++
            LayerTable.gpxCli.at ((List.range (min i (a.cleared i))).filter a.releaseFence) ++ r.1, (i, j) :: r.2)

/-- The loop at the end. -/
def finishLayer (i : Nat) : List TableAccess := if a.releaseFence i then [⟨.vdCli, i⟩] else []

/-- `hwc_compose_virtual` -/
def compose (layers : List PrimaryLayer) : List TableAccess × List (Nat × Nat) :=
  let r := if a.output then a.composeLayers (a.itemComp layers) 0 layers else ([], [])
  (r.1 ++ (if r.2.any fun p => a.blits p.1 then LayerTable.surface.at (List.range layers.length) else []) ++
    (List.range layers.length).flatMap a.finishLayer, r.2)

/-- The item gets to the composition. -/
def composesItem : Bool := a.composes && a.posted

/-- The three calls for a list. -/
def accesses (layers : List PrimaryLayer) : List TableAccess :=
  (a.prepare layers).accesses ++ if a.composesItem then a.set layers ++ (a.compose layers).1 else []

end VirtualAnswers
end BcmPlatform.Hwc
