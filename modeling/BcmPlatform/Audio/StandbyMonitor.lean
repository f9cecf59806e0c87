import Mathlib.Logic.Function.Basic

/-! The thread that asks the output streams whether they can go to standby. It calls the callbacks of the streams under its
    mutex, and each callback takes the lock of its stream; a stream registers its callback when it is opened and
    unregisters it when it is closed. -/

namespace BcmPlatform.Audio

/-- `nexus_bout_standby_monitor` and the others -/
inductive StandbyCallback where
  | nexus
  | direct
  | tunnel
  deriving DecidableEq, Repr

/-- The callback stops a stream that is started. -/
def StandbyCallback.stops : StandbyCallback → Bool
  | .nexus | .direct => true
  | .tunnel => false

/-- A failing open unregisters the callback again. -/
def StandbyCallback.openUnregisters : StandbyCallback → Bool
  | .nexus => false
  | .direct | .tunnel => true

/-- The stop of the stream may give its lock away. -/
def StandbyCallback.stopWaits : StandbyCallback → Bool
  | .nexus | .direct => false
  | .tunnel => true

def maxStandbyMonitorCallbacks : Nat := 3

/-- What `StandbyMonitorThread` keeps under its mutex. A context is the stream of the callback. -/
structure StandbyCallbacks where
  callbacks : List (Option StandbyCallback) := List.replicate maxStandbyMonitorCallbacks none
  contexts : List (Option Nat) := List.replicate maxStandbyMonitorCallbacks none
  numCallbacks : Nat := 0
  deriving DecidableEq, Repr

namespace StandbyCallbacks

/-- `RegisterCallback`; `run` tells whether the thread can be started. The result is the id, and whether there is a new
    thread. -/
def registerCallback (callback : StandbyCallback) (context : Nat) (run : Bool) (m : StandbyCallbacks) :
    Option Nat × Bool × StandbyCallbacks :=
  match m.callbacks.findIdx? Option.isNone with
  | none => (none, false, m)
  | some i =>
    let m : StandbyCallbacks :=
      { callbacks := m.callbacks.set i callback, contexts := m.contexts.set i context, numCallbacks := m.numCallbacks + 1 }
    if m.numCallbacks ≠ 1 then (some i, false, m)
    else if run then (some i, true, m)
    else (none, false,
      { callbacks := m.callbacks.set i none, contexts := m.contexts.set i none, numCallbacks := m.numCallbacks - 1 })

/-- `UnregisterCallback` up to where it waits; tells whether it removed a callback. -/
def unregisterCallback (id : Nat) (m : StandbyCallbacks) : Bool × StandbyCallbacks :=
  if id ≥ maxStandbyMonitorCallbacks then (false, m)
  else if m.numCallbacks = 0 then (false, m)
  else if m.callbacks[id]? = some none then (false, m)
  else (true, { callbacks := m.callbacks.set id none, contexts := m.contexts.set id none, numCallbacks := m.numCallbacks - 1 })

end StandbyCallbacks

/-- Who has a lock: the call that has the lock of the device, the monitor thread, or a thread that does something else with
    the stream. -/
inductive LockHolder where
  | device
  | monitor
  | other
  deriving DecidableEq, Repr

/-- Where `UnregisterCallback` is. -/
inductive UnregisterPlace where
  | waitsForMutex
  | hasMutex
  | waitsForExit
  | returned
  deriving DecidableEq, Repr

/-- What the call does that has the lock of the device. -/
inductive DeviceCall where
  | none
  /-- It opens a stream, and waits for the mutex in `RegisterCallback`. -/
  | opens (stream : Nat)
  | registers (stream : Nat)
  | registered (stream : Nat)
  /-- It closes a stream, and waits for the lock of the stream. -/
  | closes (stream : Nat)
  | stops (stream : Nat)
  /-- It unregisters the callback of a stream; it has the lock of the stream when it closes it. -/
  | unregisters (stream : Nat) (locked : Bool) (place : UnregisterPlace)
  deriving DecidableEq, Repr

/-- Where a callback is. -/
inductive CallbackPlace where
  | waitsToRead
  | reads
  | waitsToStop
  | stops
  | suspends
  deriving DecidableEq, Repr

/-- Where the monitor thread is. -/
inductive MonitorThread where
  | gone
  | loop
  | tries
  | locked
  | slot (i : Nat) (ack : Bool)
  | callback (i : Nat) (callback : StandbyCallback) (context : Nat) (place : CallbackPlace)
  | unlocks
  | sleeps
  deriving DecidableEq, Repr

structure MonitoredStream where
  callback : StandbyCallback
  standbyCallback : Option Nat := none
  closed : Bool := false
  deriving DecidableEq, Repr

/-- A callback that is registered with its context, under an id. -/
structure Registration where
  id : Nat
  callback : StandbyCallback
  context : Nat
  deriving DecidableEq, Repr

/-- The monitor, the streams and what the threads do. `registrations` is a history: the registrations for which
    `UnregisterCallback` has not returned. -/
structure StandbyMonitor where
  monitored : StandbyCallbacks := {}
  mutex : Option LockHolder := none
  exitPending : Bool := false
  thread : MonitorThread := .gone
  streams : List MonitoredStream := []
  locks : Nat → Option LockHolder := fun _ => none
  call : DeviceCall := .none
  registrations : List Registration := []

inductive MonitorAction where
  | openStream (callback : StandbyCallback)
  | closeStream (stream : Nat)
  | lockStream
  | stopWaits
  | stopped
  | lockMutex
  | register (run : Bool)
  | opened (ok : Bool)
  | unregister
  | exited
  | callEnds
  | loop
  | tryLock
  | status (ackNeeded standby : Bool)
  | slot
  | callbackLocks
  | callbackReads (started : Bool)
  | callbackStops
  | callbackSuspends
  | unlock
  | wake
  | take (stream : Nat)
  | give (stream : Nat)
  deriving DecidableEq, Repr

namespace StandbyMonitor

/-! ### Opening and closing a stream -/

/-- `bdev_open_output_stream` has the lock of the device. -/
def openStream (callback : StandbyCallback) (s : StandbyMonitor) : Option StandbyMonitor :=
  if s.call ≠ .none then none
  else some { s with streams := s.streams ++ [{ callback }], call := .opens s.streams.length }

/-- `bdev_close_output_stream`, or `bdev_open_output_stream` that needs the resources of another output, has the lock of the
    device. -/
def closeStream (stream : Nat) (s : StandbyMonitor) : Option StandbyMonitor :=
  match s.streams[stream]? with
  | none => none
  | some x => if s.call ≠ .none || x.standbyCallback.isNone || x.closed then none else some { s with call := .closes stream }

/-- The call gets the lock of the stream. -/
def lockStream (s : StandbyMonitor) : Option StandbyMonitor :=
  match s.call with
  | .closes stream =>
    if s.locks stream ≠ none then none
    else some { s with
      locks := Function.update s.locks stream (some .device)
      call := .stops stream }
  | _ => none

/-- `nexus_tunnel_bout_stop` waits for the debounce thread without the lock. -/
def stopWaits (s : StandbyMonitor) : Option StandbyMonitor :=
  match s.call with
  | .stops stream =>
    match s.streams[stream]? with
    | none => none
    | some x =>
      if !x.callback.stopWaits then none
      else some { s with locks := Function.update s.locks stream none, call := .closes stream }
  | _ => none

def stopped (s : StandbyMonitor) : Option StandbyMonitor :=
  match s.call with
  | .stops stream => some { s with call := .unregisters stream true .waitsForMutex }
  | _ => none

/-- The call gets the mutex. -/
def lockMutex (s : StandbyMonitor) : Option StandbyMonitor :=
  if s.mutex ≠ none then none
  else match s.call with
    | .opens stream => some { s with mutex := some .device, call := .registers stream }
    | .unregisters stream locked .waitsForMutex =>
      some { s with mutex := some .device, call := .unregisters stream locked .hasMutex }
    | _ => none

/-- `RegisterCallback` under the mutex. -/
def register (run : Bool) (s : StandbyMonitor) : Option StandbyMonitor :=
  match s.call with
  | .registers stream =>
    match s.streams[stream]? with
    | none => none
    | some x =>
      match s.monitored.registerCallback x.callback stream run with
      | (none, _, monitored) => some { s with monitored, mutex := none, call := .none }
      | (some id, started, monitored) => some { s with
          monitored
          mutex := none
          exitPending := !started && s.exitPending
          thread := if started then .loop else s.thread
          streams := s.streams.set stream { x with standbyCallback := some id }
          call := .registered stream
          registrations := s.registrations ++ [{ id, callback := x.callback, context := stream }] }
  | _ => none

/-- The rest of the open, which may fail. -/
def opened (ok : Bool) (s : StandbyMonitor) : Option StandbyMonitor :=
  match s.call with
  | .registered stream =>
    if ok then some { s with call := .none }
    else match s.streams[stream]? with
      | none => none
      | some x => if x.callback.openUnregisters then some { s with call := .unregisters stream false .waitsForMutex } else none
  | _ => none

/-- `UnregisterCallback` returns. -/
def returns (stream id : Nat) (locked : Bool) (s : StandbyMonitor) : StandbyMonitor := { s with
  mutex := none
  call := .unregisters stream locked .returned
  registrations := s.registrations.filter (·.id ≠ id) }

/-- `UnregisterCallback` under the mutex. -/
def unregister (s : StandbyMonitor) : Option StandbyMonitor :=
  match s.call with
  | .unregisters stream locked .hasMutex =>
    match s.streams[stream]?.bind (·.standbyCallback) with
    | none => none
    | some id =>
      let (removed, monitored) := s.monitored.unregisterCallback id
      some (if removed && monitored.numCallbacks = 0
        then { s with monitored, exitPending := true, call := .unregisters stream locked .waitsForExit }
        else returns stream id locked { s with monitored })
  | _ => none

/-- `requestExitAndWait` returns. -/
def exited (s : StandbyMonitor) : Option StandbyMonitor :=
  match s.call with
  | .unregisters stream locked .waitsForExit =>
    match s.streams[stream]?.bind (·.standbyCallback) with
    | none => none
    | some id => if s.thread ≠ .gone then none else some (returns stream id locked { s with exitPending := false })
  | _ => none

/-- The stream is closed, or its open has failed. -/
def callEnds (s : StandbyMonitor) : Option StandbyMonitor :=
  match s.call with
  | .unregisters stream locked .returned =>
    some { s with
      streams := s.streams.modify stream fun x => { x with closed := true }
      locks := if locked then Function.update s.locks stream none else s.locks
      call := .none }
  | _ => none

/-! ### `threadLoop` -/

/-- The test of the loop. -/
def loop (s : StandbyMonitor) : Option StandbyMonitor :=
  if s.thread ≠ .loop then none else some { s with thread := if s.exitPending then .gone else .tries }

def tryLock (s : StandbyMonitor) : Option StandbyMonitor :=
  if s.thread ≠ .tries then none
  else some (if s.mutex = none then { s with mutex := some .monitor, thread := .locked } else { s with thread := .sleeps })

/-- The test of `mNumCallbacks`, and the status: an acknowledgement is needed, and the mode is not `eOn`. -/
def status (ackNeeded standby : Bool) (s : StandbyMonitor) : Option StandbyMonitor :=
  if s.thread ≠ .locked then none
  else some { s with
    thread := if s.monitored.numCallbacks = 0 then .sleeps else if ackNeeded && standby then .slot 0 true else .unlocks }

/-- The next slot. A callback is not called once one has answered no. -/
def slot (s : StandbyMonitor) : Option StandbyMonitor :=
  match s.thread with
  | .slot i ack =>
    some { s with
      thread := if i ≥ maxStandbyMonitorCallbacks then .unlocks
        else match s.monitored.callbacks[i]?.join with
          | none => .slot (i + 1) ack
          | some callback =>
            if !ack then .slot (i + 1) ack
            else match s.monitored.contexts[i]?.join with
              | none => .slot (i + 1) true
              | some context => .callback i callback context .waitsToRead }
  | _ => none

/-- The callback gets the lock of its stream, for itself or in `bout_standby`. -/
def callbackLocks (s : StandbyMonitor) : Option StandbyMonitor :=
  match s.thread with
  | .callback i callback context place =>
    if s.locks context ≠ none then none
    else match place with
      | .waitsToRead => some { s with
          locks := Function.update s.locks context (some .monitor), thread := .callback i callback context .reads }
      | .waitsToStop => some { s with
          locks := Function.update s.locks context (some .monitor), thread := .callback i callback context .stops }
      | _ => none
  | _ => none

/-- The callback has read `started`. -/
def callbackReads (started : Bool) (s : StandbyMonitor) : Option StandbyMonitor :=
  match s.thread with
  | .callback i callback context .reads => some { s with
      locks := Function.update s.locks context none
      thread := if callback.stops && started then .callback i callback context .waitsToStop
        else .slot (i + 1) (callback.stops || !started) }
  | _ => none

/-- The callback has stopped its stream. -/
def callbackStops (s : StandbyMonitor) : Option StandbyMonitor :=
  match s.thread with
  | .callback i callback context .stops =>
    some { s with locks := Function.update s.locks context none, thread := .callback i callback context .suspends }
  | _ => none

/-- The callback sets `suspended`. -/
def callbackSuspends (s : StandbyMonitor) : Option StandbyMonitor :=
  match s.thread with
  | .callback i _ _ .suspends => some { s with thread := .slot (i + 1) true }
  | _ => none

def unlock (s : StandbyMonitor) : Option StandbyMonitor :=
  if s.thread ≠ .unlocks then none else some { s with mutex := none, thread := .sleeps }

def wake (s : StandbyMonitor) : Option StandbyMonitor :=
  if s.thread ≠ .sleeps then none else some { s with thread := .loop }

/-! ### Other threads -/

/-- A write, say, gets the lock of a stream. -/
def take (stream : Nat) (s : StandbyMonitor) : Option StandbyMonitor :=
  if s.locks stream ≠ none then none else some { s with locks := Function.update s.locks stream (some .other) }

def give (stream : Nat) (s : StandbyMonitor) : Option StandbyMonitor :=
  if s.locks stream ≠ some .other then none else some { s with locks := Function.update s.locks stream none }

/-- One step; `none` when it is not possible. -/
def step (s : StandbyMonitor) : MonitorAction → Option StandbyMonitor
  | .openStream callback => s.openStream callback
  | .closeStream stream => s.closeStream stream
  | .lockStream => s.lockStream
  | .stopWaits => s.stopWaits
  | .stopped => s.stopped
  | .lockMutex => s.lockMutex
  | .register run => s.register run
  | .opened ok => s.opened ok
  | .unregister => s.unregister
  | .exited => s.exited
  | .callEnds => s.callEnds
  | .loop => s.loop
  | .tryLock => s.tryLock
  | .status ackNeeded standby => s.status ackNeeded standby
  | .slot => s.slot
  | .callbackLocks => s.callbackLocks
  | .callbackReads started => s.callbackReads started
  | .callbackStops => s.callbackStops
  | .callbackSuspends => s.callbackSuspends
  | .unlock => s.unlock
  | .wake => s.wake
  | .take stream => s.take stream
  | .give stream => s.give stream

end StandbyMonitor
end BcmPlatform.Audio
