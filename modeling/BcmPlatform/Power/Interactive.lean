import Mathlib.Data.List.Basic

/-! Screen on and screen off in the power HAL. Each request ends the event monitor thread and creates the next one, which
    sets the power state first; two flags tell the request when the monitor has ended. -/

namespace BcmPlatform.Power

/-- `b_powerState` -/
inductive PowerState where
  | s0
  | s05
  | s1
  | s2
  | s3
  | s4
  | s5
  | max
  deriving DecidableEq, Repr

/-- The properties that are read: `offState` is what `power_get_off_state` makes of one; and what `power_init` found. -/
structure PowerConfig where
  dozeState : PowerState := .s05
  offState : PowerState := .s2
  dozeTimeout : Int := 0
  wakeTimeout : Int := 10
  hasDozeTimer : Bool := true
  hasPowerEventFd : Bool := true
  deriving DecidableEq, Repr

/-- Where the thread of a request is: `power_standby_finish_thread` or `power_doze_monitor_thread`, and then
    `power_event_monitor_thread`. `power_set_doze_state` is called before its loop and in it. -/
inductive ThreadPlace where
  | standbyFinish
  | doze (inLoop : Bool)
  | setsDozeState (inLoop : Bool)
  | resetsFlags
  | testsExit
  | polls
  | setsPoweroffState
  | preparesSuspend (shutdown : Bool)
  | exits
  deriving DecidableEq, Repr

/-- Where `power_set_interactive` is. -/
inductive InteractiveCall where
  | none
  | kills (on : Bool)
  | waits (on : Bool)
  | creates (on : Bool)
  | releases
  deriving DecidableEq, Repr

/-- What `poll` and the read after it answer. -/
inductive PollAnswer where
  | timedOut
  | fails
  | readFails
  | suspending
  | shutdown
  | otherEvent
  deriving DecidableEq, Repr

/-- The globals of the power HAL, and the threads that have not exited. `shutdowns` are the threads of `power_s5_shutdown`
    that have not run yet, and `timerCallbacks` the calls of `dozeTimerCallback`. The last three fields are histories: what
    was passed to `power_set_state` last, the last request, and whether a power event was read since its thread was
    created. -/
structure PowerHal where
  exit : Bool := false
  exited : Bool := true
  wakeLockAcquired : Bool := false
  shutdownStarted : Bool := false
  shutdowns : Nat := 0
  dozeTimerArmed : Bool := false
  timerCallbacks : Nat := 0
  call : InteractiveCall := .none
  threads : List ThreadPlace := []
  lastState : Option PowerState := none
  lastRequest : Option Bool := none
  eventSince : Bool := false
  deriving DecidableEq, Repr

inductive PowerAction where
  | setInteractive (on : Bool)
  | killThread
  | killed
  | createThread
  | releaseWakeLock
  | thread (i : Nat)
  | polled (i : Nat) (answer : PollAnswer)
  | poweroffSet (i : Nat) (ok : Bool)
  | dozeTimerExpires
  | dozeTimerCallback
  | shutdown
  deriving DecidableEq, Repr

namespace PowerHal
variable (config : PowerConfig)

def acquireWakeLock (s : PowerHal) : PowerHal := { s with wakeLockAcquired := true }

def releaseWakeLock (s : PowerHal) : PowerHal :=
  if s.wakeLockAcquired && !s.shutdownStarted then { s with wakeLockAcquired := false } else s

/-- `power_set_state`, with `power_set_state_s5` -/
def powerSetState (state : PowerState) (s : PowerHal) : PowerHal :=
  let s := { s with lastState := some state }
  if state = .s5 then { s.acquireWakeLock with shutdowns := s.shutdowns + 1 } else s

/-- `power_set_doze_state` up to `power_set_state` -/
def powerDoze (timeout : Int) (s : PowerHal) : PowerHal :=
  let timeout := if config.offState = .s2 || config.offState = .s3 || config.offState = .s5 then timeout else -1
  let s := if 0 ≤ timeout && config.hasDozeTimer then { s with dozeTimerArmed := timeout ≠ 0 } else s
  if timeout ≠ 0 then s.acquireWakeLock else s.releaseWakeLock

/-! ### `power_set_interactive` -/

/-- The request up to `power_kill_thread`; with `on` it is ignored once the shutdown has started. -/
def setInteractive (on : Bool) (s : PowerHal) : Option PowerHal :=
  if s.call ≠ .none then none
  else some (if on then
      if s.shutdownStarted then s
      else { s with dozeTimerArmed := false, call := .kills true, lastRequest := some true }
    else { s.acquireWakeLock with call := .kills false, lastRequest := some false })

/-- `power_kill_thread` up to where it waits -/
def killThread (s : PowerHal) : Option PowerHal :=
  match s.call with
  | .kills on => some (if s.exited then { s with call := .creates on } else { s with exit := true, call := .waits on })
  | _ => none

/-- `power_kill_thread` finds that the thread has exited. -/
def killed (s : PowerHal) : Option PowerHal :=
  match s.call with
  | .waits on => if s.exited then some { s with call := .creates on } else none
  | _ => none

def createThread (s : PowerHal) : Option PowerHal :=
  match s.call with
  | .creates on => some { s with
      threads := s.threads ++ [if on then .standbyFinish else .doze false]
      call := if on then .releases else .none
      eventSince := false }
  | _ => none

/-- The end of `power_finish_set_interactive`. -/
def finishInteractive (s : PowerHal) : Option PowerHal :=
  if s.call ≠ .releases then none else some { s.releaseWakeLock with call := .none }

/-! ### The threads -/

def moveTo (i : Nat) (place : ThreadPlace) (s : PowerHal) : PowerHal := { s with threads := s.threads.set i place }

/-- A step of a thread, from anywhere but `poll` and `power_set_poweroff_state`. -/
def thread (i : Nat) (s : PowerHal) : Option PowerHal :=
  match s.threads[i]? with
  | some .standbyFinish => some ((s.powerSetState .s0).moveTo i .resetsFlags)
  | some (.doze inLoop) =>
    some ((s.powerDoze config (if inLoop then config.wakeTimeout else config.dozeTimeout)).moveTo i (.setsDozeState inLoop))
  | some (.setsDozeState inLoop) =>
    some ((s.powerSetState config.dozeState).moveTo i (if inLoop then .testsExit else .resetsFlags))
  | some .resetsFlags =>
    some ({ s with exit := false, exited := false }.moveTo i (if config.hasPowerEventFd then .testsExit else .exits))
  | some .testsExit => some (s.moveTo i (if s.exit then .exits else .polls))
  | some (.preparesSuspend shutdown) => some (s.moveTo i (if shutdown then .testsExit else .doze true))
  | some .exits => some { s with exited := true, threads := s.threads.eraseIdx i }
  | _ => none

/-- `poll` and the read return. -/
def polled (i : Nat) (answer : PollAnswer) (s : PowerHal) : Option PowerHal :=
  if s.threads[i]? ≠ some .polls then none
  else some (match answer with
    | .timedOut | .readFails => s.moveTo i .testsExit
    | .fails => s.moveTo i .exits
    | .suspending => { s with eventSince := true }.moveTo i .setsPoweroffState
    | .shutdown => { s with eventSince := true }.moveTo i (.preparesSuspend true)
    | .otherEvent => { s with eventSince := true }.moveTo i .testsExit)

/-- `power_set_poweroff_state`; `ok` when the state could be set. -/
def poweroffSet (i : Nat) (ok : Bool) (s : PowerHal) : Option PowerHal :=
  if s.threads[i]? ≠ some .setsPoweroffState then none
  else some ((s.powerSetState config.offState).moveTo i (if ok then .preparesSuspend false else .testsExit))

def dozeTimerExpires (s : PowerHal) : Option PowerHal :=
  if !s.dozeTimerArmed then none else some { s with dozeTimerArmed := false, timerCallbacks := s.timerCallbacks + 1 }

def dozeTimerCallback (s : PowerHal) : Option PowerHal :=
  if s.timerCallbacks = 0 then none else some { s.releaseWakeLock with timerCallbacks := s.timerCallbacks - 1 }

/-- `power_s5_shutdown` -/
def shutdown (s : PowerHal) : Option PowerHal :=
  if s.shutdowns = 0 then none else some { s with shutdowns := s.shutdowns - 1, shutdownStarted := true }

/-- One step; `none` when it is not possible. -/
def step (s : PowerHal) : PowerAction → Option PowerHal
  | .setInteractive on => s.setInteractive on
  | .killThread => s.killThread
  | .killed => s.killed
  | .createThread => s.createThread
  | .releaseWakeLock => s.finishInteractive
  | .thread i => s.thread config i
  | .polled i answer => s.polled i answer
  | .poweroffSet i ok => s.poweroffSet config i ok
  | .dozeTimerExpires => s.dozeTimerExpires
  | .dozeTimerCallback => s.dozeTimerCallback
  | .shutdown => s.shutdown

end PowerHal
end BcmPlatform.Power
