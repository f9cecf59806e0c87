import Mathlib.Algebra.Ring.Int.Defs
import Mathlib.Logic.Function.Basic

/-! The binder service of the HWC: clients register a listener, the HWC publishes its video and sideband surfaces, a decoder
    claims one and is told what is displayed on it. Each call and each death of a binder is one step, under `mLock`. -/

namespace BcmPlatform.Hwc

/-! ### `HWC_BINDER_*`, the kinds of the registrants -/

def hwcBinderHwc : Int := 2
def hwcBinderOmx : Int := 3
def hwcBinderSdb : Int := 4

/-- `(int)INVALID_HANDLE` -/
def invalidHandle : Int := 0xDEADF00D - 2 ^ 32

structure HwcPosition where
  x : Int := 0
  y : Int := 0
  w : Int := 0
  h : Int := 0
  deriving DecidableEq, Repr

/-- A client and the address of the binder of its listener. -/
structure Client where
  id : Nat
  binder : Nat
  deriving DecidableEq, Repr

/-- `hwc_listener_t` -/
structure HwcListener where
  client : Client
  kind : Int
  deriving DecidableEq, Repr

/-- `mVideoSurface` or `mSidebandSurface` -/
inductive SurfaceTable where
  | video
  | sideband
  deriving DecidableEq, Repr

/-- `HWC_BINDER_VIDEO_SURFACE_SIZE` and `HWC_BINDER_SIDEBAND_SURFACE_SIZE` -/
def SurfaceTable.size : SurfaceTable → Nat
  | .video => 3
  | .sideband => 2

def SurfaceTable.inBounds (index : Int) (t : SurfaceTable) : Bool := 0 ≤ index && index < t.size

/-- The table that `setGeometry` is about. -/
def SurfaceTable.ofType (type : Int) : Option SurfaceTable :=
  if type = hwcBinderOmx then some .video else if type = hwcBinderSdb then some .sideband else none

/-- `hwc_disp_notifier_t`; `listener` is a binder address, and empty for 0. `claimant` is a history: the client that got the
    surface last and has neither unregistered nor died since. -/
structure HwcDispNotifier where
  listener : Option Nat := none
  surface : Int := invalidHandle
  frame : HwcPosition := {}
  clipped : HwcPosition := {}
  zorder : Int := -1
  visible : Int := 0
  dispW : Int := 0
  dispH : Int := 0
  claimant : Option Client := none
  deriving DecidableEq, Repr

structure HwcNotificationInfo where
  surfaceHdl : Int := 0
  displayWidth : Int := 0
  displayHeight : Int := 0
  frameId : Int := 0
  frame : HwcPosition := {}
  clipped : HwcPosition := {}
  zorder : Int := 0
  deriving DecidableEq, Repr

/-- What the listener of a surface is told about it. -/
def HwcDispNotifier.info (frameId : Int) (d : HwcDispNotifier) : HwcNotificationInfo :=
  { surfaceHdl := d.surface, displayWidth := d.dispW, displayHeight := d.dispH, frameId, frame := d.frame,
    clipped := d.clipped, zorder := d.zorder }

/-- `HWC_BINDER_NTFY_*` -/
inductive HwcNotify where
  | connected
  | surfaceAcquired (t : SurfaceTable)
  | display
  | sidebandSurfaceGeometryUpdate
  deriving DecidableEq, Repr

/-- The notifications that go to the listener of a surface. -/
def HwcNotify.ofListener : HwcNotify → Bool
  | .display | .sidebandSurfaceGeometryUpdate => true
  | .connected | .surfaceAcquired _ => false

/-- A call of `notify`. `claimant` is a history: the claimant, at that time, of the surface that it is about. -/
structure SentNotification where
  receiver : Client
  msg : HwcNotify
  ntfy : HwcNotificationInfo := {}
  claimant : Option Client := none
  deriving DecidableEq, Repr

/-- `Hwc`. `accesses` and `sent` are histories: the accesses with an index that a caller gives, and the notifications. -/
structure HwcService where
  notificationListeners : List HwcListener := []
  surfaces : SurfaceTable → Nat → HwcDispNotifier := fun _ _ => {}
  accesses : List (SurfaceTable × Int) := []
  sent : List SentNotification := []

namespace HwcService

/-- The comparison of the binders, with the kind for the calls that only the HWC may make. -/
def isRegistered (binder : Nat) (s : HwcService) : Bool := s.notificationListeners.any fun l => l.client.binder = binder

def isHwc (binder : Nat) (s : HwcService) : Bool :=
  s.notificationListeners.any fun l => l.client.binder = binder && l.kind = hwcBinderHwc

def mapSurfaces (f : HwcDispNotifier → HwcDispNotifier) (s : HwcService) : HwcService :=
  { s with surfaces := fun t i => f (s.surfaces t i) }

def modify (t : SurfaceTable) (i : Nat) (f : HwcDispNotifier → HwcDispNotifier) (s : HwcService) : HwcService :=
  { s with surfaces := Function.update s.surfaces t (Function.update (s.surfaces t) i (f (s.surfaces t i))) }

/-- An access to a table. What one out of bounds does is not defined: it is recorded and the call ends with it. -/
def access (t : SurfaceTable) (index : Int) (f : Nat → HwcService → HwcService) (s : HwcService) : HwcService :=
  let s := { s with accesses := s.accesses ++ [(t, index)] }
  if t.inBounds index then f index.toNat s else s

def notify (n : SentNotification) (s : HwcService) : HwcService := { s with sent := s.sent ++ [n] }

/-- The history of a client that unregisters or dies. -/
def forget (c : Client) (s : HwcService) : HwcService :=
  s.mapSurfaces fun d => { d with claimant := if d.claimant = some c then none else d.claimant }

def registerListener (c : Client) (kind : Int) (s : HwcService) : HwcService :=
  if s.isRegistered c.binder then s
  else
    let s := { s with notificationListeners := s.notificationListeners ++ [{ client := c, kind }] }
    if kind = hwcBinderHwc then s.notify { receiver := c, msg := .connected } else s

/-- The removal of the first entry with the binder. -/
def removeListener (binder : Nat) (s : HwcService) : HwcService :=
  { s with notificationListeners := s.notificationListeners.eraseP fun l => l.client.binder = binder }

def unregisterListener (c : Client) (s : HwcService) : HwcService :=
  let s := s.forget c
  if s.isRegistered c.binder then
    (s.removeListener c.binder).mapSurfaces fun d =>
      { d with listener := if d.listener = some c.binder then none else d.listener }
  else s

/-- What `setVideoSurfaceId` and `setSidebandSurfaceId` do to their table. -/
def setSurfaceId (t : SurfaceTable) (c : Client) (index value dispW dispH : Int) (s : HwcService) : HwcService :=
  if s.isHwc c.binder then
    s.access t index fun i s => s.modify t i fun d => { d with surface := value, listener := none, dispW, dispH }
  else s

def setVideoSurfaceId := setSurfaceId .video
def setSidebandSurfaceId := setSurfaceId .sideband

/-- The notification of every HWC that a surface was acquired. -/
def notifyAcquired (t : SurfaceTable) (value : Int) (s : HwcService) : HwcService :=
  { s with sent := s.sent ++ (s.notificationListeners.filter fun l => l.kind = hwcBinderHwc).map fun l =>
      { receiver := l.client, msg := .surfaceAcquired t, ntfy := { surfaceHdl := value } } }

/-- The `value` that `getVideoSurfaceId` and `getSidebandSurfaceId` return. -/
def surfaceId (t : SurfaceTable) (index : Int) (s : HwcService) : Int :=
  if index > t.size - 1 then -1 else (s.surfaces t index.toNat).surface

/-- What `getVideoSurfaceId` and `getSidebandSurfaceId` do to their table. -/
def getSurfaceId (t : SurfaceTable) (c : Client) (index : Int) (s : HwcService) : HwcService :=
  if index > t.size - 1 then s
  else
    s.access t index fun i s =>
      (s.modify t i fun d => { d with listener := some c.binder, claimant := some c }).notifyAcquired t (s.surfaceId t index)

def getVideoSurfaceId := getSurfaceId .video
def getSidebandSurfaceId := getSurfaceId .sideband

/-- The notification of the first registered listener that has the binder of the surface. -/
def notifyListener (msg : HwcNotify) (ntfy : HwcNotificationInfo) (d : HwcDispNotifier) (s : HwcService) : HwcService :=
  match s.notificationListeners.find? fun l => d.listener = some l.client.binder with
  | some l => s.notify { receiver := l.client, msg, ntfy, claimant := d.claimant }
  | none => s

def setGeometry (c : Client) (type index : Int) (frame clipped : HwcPosition) (zorder visible : Int) (s : HwcService) :
    HwcService :=
  match SurfaceTable.ofType type with
  | none => s
  | some t =>
    if s.isHwc c.binder && index < t.size then
      s.access t index fun i s =>
        let d := s.surfaces t i
        let d' := { d with frame, clipped, zorder, visible }
        -- The four comparisons of the source: nothing is stored or told when nothing changes.
        if d' = d then s
        else
          let s := s.modify t i fun _ => d'
          if t = .sideband then s.notifyListener .sidebandSurfaceGeometryUpdate (d'.info 0) d' else s
    else s

/-- `setDisplayFrameId`; only a video surface has the handle. -/
def setDisplayFrameId (handle frame : Int) (s : HwcService) : HwcService :=
  match (List.range SurfaceTable.video.size).find? fun i => (s.surfaces .video i).surface = handle with
  | none => s
  | some i => s.notifyListener .display ((s.surfaces .video i).info frame) (s.surfaces .video i)

def binderDied (c : Client) (s : HwcService) : HwcService := (s.forget c).removeListener c.binder

end HwcService

/-- The calls of the clients, and the death of one. -/
inductive HwcServiceAction where
  | registerListener (c : Client) (kind : Int)
  | unregisterListener (c : Client)
  | binderDied (c : Client)
  | setVideoSurfaceId (c : Client) (index value dispW dispH : Int)
  | getVideoSurfaceId (c : Client) (index : Int)
  | setSidebandSurfaceId (c : Client) (index value dispW dispH : Int)
  | getSidebandSurfaceId (c : Client) (index : Int)
  | setGeometry (c : Client) (type index : Int) (frame clipped : HwcPosition) (zorder visible : Int)
  | setDisplayFrameId (c : Client) (handle frame : Int)
  deriving DecidableEq, Repr

def HwcServiceAction.client : HwcServiceAction → Client
  | .registerListener c _ | .unregisterListener c | .binderDied c | .setVideoSurfaceId c _ _ _ _ | .getVideoSurfaceId c _
  | .setSidebandSurfaceId c _ _ _ _ | .getSidebandSurfaceId c _ | .setGeometry c _ _ _ _ _ _ | .setDisplayFrameId c _ _ => c

namespace HwcService

/-- The service holds the binders of its listeners: such a client keeps its address, which nobody else has. -/
def addressed (c : Client) (s : HwcService) : Bool :=
  s.notificationListeners.all fun l => decide (l.client.binder = c.binder ↔ l.client.id = c.id)

def act (s : HwcService) : HwcServiceAction → HwcService
  | .registerListener c kind => s.registerListener c kind
  | .unregisterListener c => s.unregisterListener c
  | .binderDied c => s.binderDied c
  | .setVideoSurfaceId c index value dispW dispH => s.setVideoSurfaceId c index value dispW dispH
  | .getVideoSurfaceId c index => s.getVideoSurfaceId c index
  | .setSidebandSurfaceId c index value dispW dispH => s.setSidebandSurfaceId c index value dispW dispH
  | .getSidebandSurfaceId c index => s.getSidebandSurfaceId c index
  | .setGeometry c type index frame clipped zorder visible => s.setGeometry c type index frame clipped zorder visible
  | .setDisplayFrameId _ handle frame => s.setDisplayFrameId handle frame

def step (s : HwcService) (a : HwcServiceAction) : Option HwcService := if s.addressed a.client then some (s.act a) else none

end HwcService
end BcmPlatform.Hwc
