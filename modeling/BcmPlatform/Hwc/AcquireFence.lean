import BcmPlatform.Hwc.ReleaseFence

/-! The acquire fences of a list: `hwc_set` copies the list into a work item, descriptors and all, and the composition of the
    item waits on them and closes them; where no item is composed, `hwc_set` closes them itself. What is done to each
    descriptor is recorded. -/

namespace BcmPlatform.Hwc

def invalidFence : Int := -1

/-- A place of the list that holds a descriptor: `acquireFenceFd` of a layer, or `outbufAcquireFenceFd`. -/
inductive FencePlace where
  | layer (i : Nat)
  | outbuf
  deriving DecidableEq, Repr

/-- A wait on a fence, a `close`, a blit that reads the buffer of a layer, and the return as `retireFenceFd`. -/
inductive FenceEvent where
  | wait (p : FencePlace)
  | close (p : FencePlace)
  | read (i : Nat)
  | handBack (p : FencePlace)
  deriving DecidableEq, Repr

/-- `hwc_display_contents_1_t`, with the descriptors of the caller. -/
structure FenceContents where
  numHwLayers : Nat
  acquireFenceFd : Nat → Int
  outbufAcquireFenceFd : Int := invalidFence

/-- What becomes of a layer in the loop of a composition. -/
inductive LayerFate where
  /-- The layer is passed over before its position is checked: it is not valid, or (virtual display) not visible. -/
  | passed
  /-- It is dropped after that: no buffer, no lock; on the primary display also video, not visible, or an ignored cursor. -/
  | dropped
  /-- It comes to `hwc_compose_gralloc_buffer`: whether the buffer is read and composed, and how many of the layers below
      have their fences closed before that and after it. -/
  | visible (reads composed : Bool) (clearsFirst clears : Nat)
  deriving DecidableEq, Repr

/-- What `hwc_set` and the composition of the item find. -/
structure SetAnswers where
  mutex : Bool := true
  /-- The virtual display is composed by the graphics core, and the size of its buffer is known. -/
  composes : Bool := true
  outbuf : Bool := true
  powerMutex : Bool := true
  powered : Bool := true
  allocated : Bool := true
  workListMutex : Bool := true
  fenceSupport : Bool := true
  /-- There is a surface to compose into. -/
  surface : Bool := true
  fate : Nat → LayerFate

/-- The work item in its composition: its own copy of the descriptors. -/
structure FenceItem where
  content : FenceContents
  layerComposed : Bool := false
  log : List FenceEvent := []

namespace FenceItem

def record (events : List FenceEvent) (s : FenceItem) : FenceItem := { s with log := s.log ++ events }

def setFence (i : Nat) (fd : Int) (s : FenceItem) : FenceItem :=
  { s with content := { s.content with acquireFenceFd := Function.update s.content.acquireFenceFd i fd } }

/-- The wait on the fence of a layer that is composed. -/
def waitLayer (i : Nat) (s : FenceItem) : FenceItem :=
  if s.content.acquireFenceFd i ≥ 0 then (s.record [.wait (.layer i), .close (.layer i)]).setFence i invalidFence else s

/-- The fence of a layer whose composition is over. -/
def clearLayer (i : Nat) (s : FenceItem) : FenceItem :=
  if s.content.acquireFenceFd i ≠ invalidFence then (s.record [.close (.layer i)]).setFence i invalidFence else s

/-- `hwc_clear_acquire_release_fences` -/
def clearAcquireReleaseFences (index : Nat) (s : FenceItem) : FenceItem :=
  (List.range index).foldl (fun s i => s.clearLayer i) s

/-- `hwc_compose_gralloc_buffer` -/
def composeGrallocBuffer (i : Nat) (reads composed : Bool) (clearsFirst clears : Nat) (s : FenceItem) : FenceItem :=
  let s := s.clearAcquireReleaseFences (min i clearsFirst)
  let s := if reads then s.record [.read i] else s
  { s.clearAcquireReleaseFences (min i clears) with layerComposed := s.layerComposed || (reads && composed) }

/-- The loop of a composition, from a position on and for that many layers. It ends at a position above `last`. -/
def composeLayers (last : Nat) (fate : Nat → LayerFate) : Nat → Nat → FenceItem → FenceItem
  | _, 0, s => s
  | i, n + 1, s =>
    match fate i with
    | .passed => composeLayers last fate (i + 1) n s
    | .dropped => if i > last then s else composeLayers last fate (i + 1) n s
    | .visible reads composed clearsFirst clears =>
      if i > last then s
      else composeLayers last fate (i + 1) n ((s.waitLayer i).composeGrallocBuffer i reads composed clearsFirst clears)

/-- The loop at the end, which closes what is left. -/
def closeLayers (s : FenceItem) : FenceItem :=
  s.record (((List.range s.content.numHwLayers).filter fun i => s.content.acquireFenceFd i ≠ invalidFence).map
    fun i => .close (.layer i))

/-- `hwc_compose_primary` -/
def composePrimary (a : SetAnswers) (s : FenceItem) : FenceItem :=
  (if a.surface then s.composeLayers (nscGpxClientsNumber - 1) a.fate 0 s.content.numHwLayers else s).closeLayers

/-- The wait on the output buffer. -/
def waitOutbuf (s : FenceItem) : FenceItem :=
  if s.content.outbufAcquireFenceFd ≥ 0 then
    { s.record [.wait .outbuf, .close .outbuf] with content := { s.content with outbufAcquireFenceFd := invalidFence } }
  else s

def closeOutbuf (s : FenceItem) : FenceItem :=
  if s.content.outbufAcquireFenceFd ≥ 0 then
    { s.record [.close .outbuf] with content := { s.content with outbufAcquireFenceFd := invalidFence } }
  else s

/-- `hwc_compose_virtual` -/
def composeVirtual (a : SetAnswers) (s : FenceItem) : FenceItem :=
  let s :=
    if a.surface then
      let s := s.composeLayers nscGpxClientsNumber a.fate 0 s.content.numHwLayers
      if s.layerComposed && a.fenceSupport then s.waitOutbuf else s
    else s
  s.closeOutbuf.closeLayers

end FenceItem

namespace FenceContents

/-- `out_close_fence`, with the descriptors of the caller's list. -/
def closeFences (list : FenceContents) : List FenceEvent :=
  ((List.range list.numHwLayers).filter fun i => list.acquireFenceFd i ≥ 0).map fun i => .close (.layer i)

/-- What follows once an item is posted: in sync mode the call waits for the composition, and closes the fences then. -/
def posted (fenceSupport : Bool) (item : FenceItem) (list : FenceContents) : List FenceEvent :=
  item.log ++ if fenceSupport then [] else list.closeFences

/-- `hwc_set_primary` and the composition of its item -/
def setPrimary (a : SetAnswers) (list : FenceContents) : List FenceEvent :=
  if !a.mutex then list.closeFences
  else if !a.powerMutex then list.closeFences
  else if !a.powered then list.closeFences
  else if !a.allocated then list.closeFences
  else if !a.workListMutex then list.closeFences
  else list.posted a.fenceSupport (({ content := list } : FenceItem).composePrimary a)

/-- `hwc_set_virtual` and the composition of its item -/
def setVirtual (a : SetAnswers) (list : FenceContents) : List FenceEvent :=
  if !a.mutex then list.closeFences
  else if !a.composes then .handBack .outbuf :: list.closeFences
  else if !a.outbuf then list.closeFences
  else if !a.powerMutex then list.closeFences
  else if !a.powered then list.closeFences
  else if !a.allocated then list.closeFences
  else if !a.workListMutex then list.closeFences
  else list.posted a.fenceSupport (({ content := list } : FenceItem).composeVirtual a)

def set (d : Display) (a : SetAnswers) (list : FenceContents) : List FenceEvent :=
  match d with
  | .primary => list.setPrimary a
  | .virtual => list.setVirtual a

end FenceContents
end BcmPlatform.Hwc
