import Mathlib.Data.List.Range
import Mathlib.Logic.Function.Basic

/-! The display surfaces and the retire fences of the primary display: the composer thread takes a surface for each
    frame, composes into it and pushes it to the surface client, which shows the surfaces in their order; the recycle
    thread and the composer thread itself put back what the client gives back. The retire fence of a frame is a number on
    a timeline. Fences are supported, every `pthread_mutex_lock` succeeds, and an item has its retire fence when the
    composer thread takes it. -/

namespace BcmPlatform.Hwc

def hwcNumDispBuffers : Nat := 3

def hwcSurfaceWaitAttempt : Nat := 4

/-- A work item; no fence is `INVALID_FENCE`. -/
structure QueuedFrame where
  compIx : Nat
  retireFenceFd : Option Nat
  deriving DecidableEq, Repr

/-- A surface that the client holds, with the frame in it. -/
structure PushedFrame where
  surface : Nat
  compIx : Nat
  deriving DecidableEq, Repr

/-- The two threads that run `hwc_recycle_now`. -/
inductive Recycler where
  | thread
  | composer
  deriving DecidableEq, Repr

/-- Where a thread is in `hwc_recycle_now`: what the client gave back, or how much of it is written and to be counted. -/
inductive Recycle where
  | idle
  | took (surfaces : List Nat)
  | wrote (numSurfaces : Nat)
  deriving DecidableEq, Repr

/-- Where the composer thread is in `hwc_compose_primary`. -/
inductive Composition where
  | idle
  | started (frame : QueuedFrame)
  /-- The loop of `hwc_get_disp_surface`, after that many timeouts. -/
  | getting (frame : QueuedFrame) (noSurfaceCount : Nat)
  | recycling (frame : QueuedFrame) (noSurfaceCount : Nat)
  | peeking (frame : QueuedFrame) (noSurfaceCount : Nat)
  | waiting (frame : QueuedFrame) (noSurfaceCount : Nat)
  | composing (frame : QueuedFrame) (surface : Nat)
  deriving DecidableEq, Repr

/-- After a recycle of its own the composer thread looks at the FIFO again. -/
def Composition.recycled : Recycler → Composition → Composition
  | .composer, .recycling frame n => .peeking frame n
  | _, composition => composition

/-- A surface is its handle; `nextSurface` is one that was never used. No `fifo_surf` is `NULL`. -/
structure PrimaryDisplay where
  fenceRetire : Bool
  displayBuffers : List (Option Nat)
  displayFifo : List Nat
  nextSurface : Nat
  pushed : List PushedFrame := []
  recycle : Recycler → Recycle := fun _ => .idle
  alphaHoleBackground : Bool := false
  setCall : Nat := 0
  retTl : Nat := 0
  composerWorkList : List QueuedFrame := []
  composition : Composition := .idle

namespace PrimaryDisplay

/-- `hwc_set_primary`; the retire fence has the number of the call. A call that finds the power off or gets no memory is
    counted. -/
def setPrimary (powered allocated fenceCreated : Bool) (s : PrimaryDisplay) : PrimaryDisplay :=
  let s := { s with setCall := s.setCall + 1 }
  if !powered || !allocated then s
  else { s with composerWorkList := s.composerWorkList ++
    [{ compIx := s.setCall, retireFenceFd := if s.fenceRetire && fenceCreated then some s.setCall else none }] }

/-- `hwc_ret_tl_inc` -/
def retTlInc (inc : Nat) (s : PrimaryDisplay) : PrimaryDisplay :=
  if !s.fenceRetire then s else { s with retTl := s.retTl + inc }

/-- What every path does that drops a frame. -/
def dropFrame (frame : QueuedFrame) (s : PrimaryDisplay) : PrimaryDisplay :=
  if frame.retireFenceFd.isSome then s.retTlInc 1 else s

/-- `hwc_put_disp_surface` -/
def putDispSurface (surface : Nat) (s : PrimaryDisplay) : PrimaryDisplay :=
  { s with displayFifo := s.displayFifo ++ [surface] }

/-! ### `hwc_recycle_now` -/

/-- `hwc_valid_surface_now` -/
def validSurfaceNow (surface : Nat) (s : PrimaryDisplay) : Bool := s.displayBuffers.contains (some surface)

/-- The composer thread recycles only when it finds no surface. -/
def mayRecycle (s : PrimaryDisplay) : Recycler → Bool
  | .thread => true
  | .composer => match s.composition with
    | .recycling _ _ => true
    | _ => false

/-- `NEXUS_SurfaceClient_RecycleSurface`: the client gives back at most `HWC_NUM_DISP_BUFFERS` surfaces, the oldest
    first. -/
def recycleTake (r : Recycler) (numSurfaces : Nat) (s : PrimaryDisplay) : Option PrimaryDisplay :=
  match s.recycle r with
  | .idle =>
    if s.mayRecycle r && numSurfaces ≤ hwcNumDispBuffers && numSurfaces ≤ s.pushed.length then
      some { s with
        pushed := s.pushed.drop numSurfaces
        recycle := Function.update s.recycle r (.took ((s.pushed.take numSurfaces).map (·.surface))) }
    else none
  | _ => none

/-- Stale surfaces are not put back, and count all the same. -/
def recycleWrite (r : Recycler) (s : PrimaryDisplay) : Option PrimaryDisplay :=
  match s.recycle r with
  | .took surfaces =>
    some { s with
      displayFifo := s.displayFifo ++ surfaces.filter fun surface => s.validSurfaceNow surface
      recycle := Function.update s.recycle r (.wrote surfaces.length) }
  | _ => none

def recycleInc (r : Recycler) (s : PrimaryDisplay) : Option PrimaryDisplay :=
  match s.recycle r with
  | .wrote numSurfaces =>
    some { s.retTlInc numSurfaces with
      composition := s.composition.recycled r
      recycle := Function.update s.recycle r .idle }
  | _ => none

/-! ### `hwc_compose_primary` -/

/-- The composer thread takes the first item of the list. -/
def dequeue (s : PrimaryDisplay) : Option PrimaryDisplay :=
  match s.composition, s.composerWorkList with
  | .idle, frame :: rest => some { s with composerWorkList := rest, composition := .started frame }
  | _, _ => none

/-- `hwc_setup_framebuffer_mode` with another mode: `settings` tells whether the client took its new settings, and
    `created` how many surfaces could be created. The old ones are destroyed before. -/
def setupFramebufferMode (settings : Bool) (created : Nat) (s : PrimaryDisplay) : PrimaryDisplay :=
  let fresh := List.range' s.nextSurface hwcNumDispBuffers
  if !settings then s
  else if created < hwcNumDispBuffers then
    { s with
      displayBuffers := (fresh.take created).map some ++ none :: s.displayBuffers.drop (created + 1)
      nextSurface := s.nextSurface + created }
  else
    { s with displayBuffers := fresh.map some, displayFifo := fresh, nextSurface := s.nextSurface + hwcNumDispBuffers }

/-- The frame starts, with a change of the framebuffer mode when `mode_toggle` is set. -/
def start (modeToggle : Option (Bool × Nat)) (s : PrimaryDisplay) : Option PrimaryDisplay :=
  match s.composition with
  | .started frame =>
    let s := match modeToggle with
      | some (settings, created) => s.setupFramebufferMode settings created
      | none => s
    some { s with composition := .getting frame 0 }
  | _ => none

/-- `BFIFO_READ`, or what is next when the FIFO is empty. -/
def readFifo (frame : QueuedFrame) (empty : Composition) (s : PrimaryDisplay) : PrimaryDisplay :=
  match s.displayFifo with
  | [] => { s with composition := empty }
  | surface :: rest => { s with displayFifo := rest, composition := .composing frame surface }

/-- The two places in `hwc_get_disp_surface` that look at the FIFO: before and after `hwc_recycle_now`. -/
def lookFifo (s : PrimaryDisplay) : Option PrimaryDisplay :=
  match s.composition with
  | .getting frame n => some (s.readFifo frame (.recycling frame n))
  | .peeking frame n => some (s.readFifo frame (.waiting frame n))
  | _ => none

/-- The wait for `recycle_event` returns; after the last timeout there is no surface for the frame. -/
def waitRecycle (timedOut : Bool) (s : PrimaryDisplay) : Option PrimaryDisplay :=
  match s.composition with
  | .waiting frame n =>
    some (if !timedOut then { s with composition := .getting frame n }
      else if n + 1 = hwcSurfaceWaitAttempt then { s.dropFrame frame with composition := .idle }
      else { s with composition := .getting frame (n + 1) })
  | _ => none

/-- What the loop over the layers leaves: `pingReset` when a video client has its first frame. -/
structure LayersOutcome where
  videoSeen : Bool := false
  pingReset : Bool := false
  layerComposed : Nat := 0
  skipComp : Bool := false
  forcedBackground : Bool := false
  qOps : Bool := false
  deriving DecidableEq, Repr

/-- `ctx->alpha_hole_background` after the loop. -/
def hasBackground (o : LayersOutcome) (s : PrimaryDisplay) : Bool := s.alphaHoleBackground && !(o.videoSeen && o.pingReset)

/-- `NEXUS_SurfaceClient_PushSurface`; when it fails the surface stays with the caller, which forgets it. -/
def pushSurface (ok : Bool) (frame : QueuedFrame) (surface : Nat) (s : PrimaryDisplay) : PrimaryDisplay :=
  if !ok then s.dropFrame frame
  else { s with pushed := s.pushed ++ [{ surface, compIx := frame.compIx }] }

/-- The end of `hwc_compose_primary` with an output surface. After a checkpoint timeout nothing is done for the frame. -/
def finishFrame (frame : QueuedFrame) (surface : Nat) (o : LayersOutcome) (checkpoint push : Bool) (s : PrimaryDisplay) :
    PrimaryDisplay :=
  let s := { s with alphaHoleBackground := s.hasBackground o }
  if o.layerComposed = 0 then
    if o.videoSeen && !s.alphaHoleBackground then
      if o.skipComp then (s.putDispSurface surface).dropFrame frame
      else if !checkpoint then s
      else
        let s := s.pushSurface push frame surface
        if push then { s with alphaHoleBackground := true } else s
    else (s.putDispSurface surface).dropFrame frame
  else
    let s := { s with alphaHoleBackground := o.forcedBackground }
    if o.qOps && !checkpoint then s
    else s.pushSurface push frame surface

def finish (o : LayersOutcome) (checkpoint push : Bool) (s : PrimaryDisplay) : Option PrimaryDisplay :=
  match s.composition with
  | .composing frame surface => some { s.finishFrame frame surface o checkpoint push with composition := .idle }
  | _ => none

end PrimaryDisplay

/-- The steps of `hwc_set_primary`, of the composer thread and of the recycle thread. -/
inductive PrimaryAction where
  | set (powered allocated fenceCreated : Bool)
  | dequeue
  | start (modeToggle : Option (Bool × Nat))
  | lookFifo
  | waitRecycle (timedOut : Bool)
  | finish (o : PrimaryDisplay.LayersOutcome) (checkpoint push : Bool)
  | recycleTake (r : Recycler) (numSurfaces : Nat)
  | recycleWrite (r : Recycler)
  | recycleInc (r : Recycler)

namespace PrimaryDisplay

/-- One step; `none` when it is not possible. -/
def step (s : PrimaryDisplay) : PrimaryAction → Option PrimaryDisplay
  | .set powered allocated fenceCreated => some (s.setPrimary powered allocated fenceCreated)
  | .dequeue => s.dequeue
  | .start modeToggle => s.start modeToggle
  | .lookFifo => s.lookFifo
  | .waitRecycle timedOut => s.waitRecycle timedOut
  | .finish o checkpoint push => s.finish o checkpoint push
  | .recycleTake r numSurfaces => s.recycleTake r numSurfaces
  | .recycleWrite r => s.recycleWrite r
  | .recycleInc r => s.recycleInc r

/-- The display after the device was opened and its surfaces were created. -/
def init (fenceRetire : Bool) : PrimaryDisplay :=
  let surfaces := List.range hwcNumDispBuffers
  { fenceRetire, displayBuffers := surfaces.map some, displayFifo := surfaces, nextSurface := hwcNumDispBuffers }

end PrimaryDisplay
end BcmPlatform.Hwc
