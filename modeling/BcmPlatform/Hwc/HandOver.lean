import BcmPlatform.Hwc.ReleaseFence

/-! How `hwc_set` hands a frame to the composer thread of its display: the caller's thread, the composer thread and the
    other threads that change the power mode, which take their steps in any order. Every `pthread_mutex_lock` succeeds,
    and the composer thread runs until the device is closed. -/

namespace BcmPlatform.Hwc

/-- `HWC_POWER_MODE_*` -/
inductive PowerMode where
  | off
  | doze
  | normal
  | dozeSuspend
  deriving DecidableEq, Repr

/-- The check that `hwc_set` and the composer thread make. -/
def PowerMode.composes : PowerMode → Bool
  | .off | .dozeSuspend => false
  | .doze | .normal => true

/-- `hwc_display_contents_1_t`; no fence is `INVALID_FENCE`. -/
structure DisplayContents where
  hwLayers : List HwLayer
  retireFenceFd : Option Nat := none
  deriving DecidableEq, Repr

/-- What `hwc_rel_tl_fence` answers for each layer, and `hwc_ret_tl_fence`. -/
structure FenceAnswers where
  release : Nat → Option Nat
  retire : Option Nat

/-- The fences that `hwc_set` writes. Without fence support there are none. -/
def DisplayContents.installFences (fenceSupport fenceRetire : Bool) (a : FenceAnswers) (content : DisplayContents) :
    DisplayContents :=
  if !fenceSupport then
    { hwLayers := content.hwLayers.map fun l => { l with releaseFenceFd := none }, retireFenceFd := none }
  else
    { hwLayers := content.hwLayers.mapIdx fun i l => if l.fenced then { l with releaseFenceFd := a.release i } else l
      retireFenceFd := if fenceRetire then a.retire else none }

/-- `struct hwc_work_item` -/
structure HwcWorkItem where
  compIx : Nat
  content : DisplayContents
  deriving DecidableEq, Repr

/-- Where the thread is that calls `hwc_set`. An item is the address of its memory. -/
inductive Caller where
  | idle
  /-- The call is counted. -/
  | entered (content : DisplayContents)
  /-- It found the power on. -/
  | accepted (content : DisplayContents)
  /-- The item is on the list; `ctx->mutex` is held, the mutex of the list is not. -/
  | appended (item : Nat) (content : DisplayContents)
  /-- The fences are written. -/
  | installed (item : Nat) (oobSignaled : Bool)
  /-- `ctx->mutex` is released, and `composer_event` is set. -/
  | signalled (item : Nat) (oobSignaled : Bool)
  | waitSync (item : Nat)
  | waitForced (item : Nat)
  deriving DecidableEq, Repr

/-- Where the composer thread is. -/
inductive Composer where
  | checkPower
  | sleeping
  | waiting
  /-- The inner loop is about to look at the list. -/
  | draining
  | dequeued (item : Nat) (releaseForced : Bool)
  | composed (item : Nat) (releaseForced : Bool)
  | freed (releaseForced : Bool)
  /-- The list was empty. -/
  | drained
  deriving DecidableEq, Repr

/-- One display. The events are those of BKNI: a wait takes the event. The last four fields are histories: the items
    that were posted, what a composition read, what a call created and wrote, and the writes to an item that was freed
    already. -/
structure HandOver where
  display : Display
  fenceSupport : Bool
  fenceRetire : Bool
  signalOobInline : Bool
  powerMode : PowerMode
  setCall : Nat := 0
  composed : Nat := 0
  composerEvent : Bool := false
  composerEventSync : Bool := false
  composerEventForced : Bool := false
  heap : Nat → Option HwcWorkItem := fun _ => none
  nextItem : Nat := 0
  composerWorkList : List Nat := []
  caller : Caller := .idle
  composer : Composer := .checkPower
  posted : List Nat := []
  compositions : List (Nat × Option HwcWorkItem) := []
  installs : List (Nat × HwcWorkItem) := []
  lateWrites : List Nat := []

namespace HandOver

/-! ### `hwc_set_primary` and `hwc_set_virtual` -/

/-- The call is counted before it takes `ctx->mutex`. -/
def enter (content : DisplayContents) (s : HandOver) : Option HandOver :=
  match s.caller with
  | .idle => some { s with setCall := s.setCall + 1, caller := .entered content }
  | _ => none

/-- The power check; the power mutex is released before the item is posted. -/
def checkPower (s : HandOver) : Option HandOver :=
  match s.caller with
  | .entered content => some { s with caller := if s.powerMode.composes then .accepted content else .idle }
  | _ => none

/-- The item is allocated, filled and appended to the list, or `calloc` fails. -/
def append (allocated : Bool) (s : HandOver) : Option HandOver :=
  match s.caller with
  | .accepted content =>
    if !allocated then some { s with caller := .idle }
    else some { s with
      heap := Function.update s.heap s.nextItem (some { compIx := s.setCall, content })
      nextItem := s.nextItem + 1
      composerWorkList := s.composerWorkList ++ [s.nextItem]
      caller := .appended s.nextItem content
      posted := s.posted ++ [s.nextItem] }
  | _ => none

/-- The fences are written into the item through the pointer that the call kept. -/
def install (a : FenceAnswers) (oob : Bool) (s : HandOver) : Option HandOver :=
  match s.caller with
  | .appended item content =>
    let write := DisplayContents.installFences s.fenceSupport s.fenceRetire a
    some { s with
      heap := Function.update s.heap item
        ((s.heap item).map fun i => { i with content := write i.content })
      caller := .installed item (s.display = .primary && s.signalOobInline && oob)
      installs := s.installs ++ [(item, { compIx := s.setCall, content := write content })]
      lateWrites := s.lateWrites ++ if (s.heap item).isNone then [item] else [] }
  | _ => none

def setComposerEvent (s : HandOver) : Option HandOver :=
  match s.caller with
  | .installed item oob => some { s with composerEvent := true, caller := .signalled item oob }
  | _ => none

def hwcSetCompThreshold : Nat := 1

def hwcSetCompInlineDelay : Nat := 2

/-- The sum is what stands before the `?` of the condition, so that its other arm never counts. -/
def waitsForced (oobSignaled : Bool) (s : HandOver) : Bool :=
  s.display = .primary && s.setCall ≥ s.composed + hwcSetCompThreshold + oobSignaled.toNat

/-- What the call waits for at its end, if anything. -/
def chooseWait (s : HandOver) : Option HandOver :=
  match s.caller with
  | .signalled item oob =>
    some { s with caller :=
      if !s.fenceSupport then .waitSync item else if s.waitsForced oob then .waitForced item else .idle }
  | _ => none

/-- `BKNI_WaitForEvent` returns. -/
def wake (s : HandOver) : Option HandOver :=
  match s.caller with
  | .waitSync _ => if s.composerEventSync then some { s with composerEventSync := false, caller := .idle } else none
  | .waitForced _ => if s.composerEventForced then some { s with composerEventForced := false, caller := .idle } else none
  | _ => none

/-! ### `hwc_compose_task_primary` and `hwc_compose_task_virtual` -/

/-- The inner loop takes the first item of the list; only the primary display counts against `composer_event_forced`. -/
def dequeue (s : HandOver) : HandOver :=
  match s.composerWorkList with
  | [] => { s with composer := .drained }
  | item :: rest =>
    { s with
      composerWorkList := rest
      composed := s.composed + 1
      composer := .dequeued item (s.display = .primary && s.setCall ≥ s.composed + hwcSetCompThreshold) }

/-- The next step of the composer thread; composing an item reads it, and a sleep is over at some time. -/
def compose (s : HandOver) : Option HandOver :=
  match s.composer with
  | .checkPower => some { s with composer := if s.powerMode.composes then .waiting else .sleeping }
  | .sleeping => some { s with composer := .checkPower }
  | .waiting => if s.composerEvent then some { s with composerEvent := false, composer := .draining } else none
  | .draining => some s.dequeue
  | .dequeued item forced =>
    some { s with composer := .composed item forced, compositions := s.compositions ++ [(item, s.heap item)] }
  | .composed item forced => some { s with heap := Function.update s.heap item none, composer := .freed forced }
  | .freed forced =>
    some { s with composerEventForced := s.composerEventForced || forced, composer := .draining }
  | .drained =>
    some { s with composerEventSync := s.composerEventSync || !s.fenceSupport, composer := .checkPower }

end HandOver

/-- The steps of the three kinds of threads. -/
inductive HandOverAction where
  | enter (content : DisplayContents)
  | checkPower
  | append (allocated : Bool)
  | install (a : FenceAnswers) (oob : Bool)
  | setComposerEvent
  | chooseWait
  | wake
  | compose
  | setPowerMode (mode : PowerMode)

namespace HandOver

/-- One step; `none` when it is not possible. `hwc_device_setPowerMode` runs in any thread, `hwc_standby_monitor` among
    them. -/
def step (s : HandOver) : HandOverAction → Option HandOver
  | .enter content => s.enter content
  | .checkPower => s.checkPower
  | .append allocated => s.append allocated
  | .install a oob => s.install a oob
  | .setComposerEvent => s.setComposerEvent
  | .chooseWait => s.chooseWait
  | .wake => s.wake
  | .compose => s.compose
  | .setPowerMode mode => some { s with powerMode := mode }

/-- A display after the device was opened. -/
def init (display : Display) (fenceSupport fenceRetire signalOobInline : Bool) (powerMode : PowerMode) : HandOver :=
  { display, fenceSupport, fenceRetire, signalOobInline, powerMode }

end HandOver
end BcmPlatform.Hwc
