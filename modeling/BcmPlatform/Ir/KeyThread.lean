import BcmPlatform.Lib.Timelines

/-! The key thread of the IR handler: the IR callback leaves the last code in variables that it shares with the thread, and
    the thread waits for it and emits key events. Both take `m_mutex`, which the thread gives up while it waits. Emitting
    succeeds, and `isRunning` holds. -/

namespace BcmPlatform.Ir
open Lib

def keyReserved : UInt16 := 0

def keyWakeup : UInt16 := 143

/-- What `Condition::wait` and `Condition::waitRelative` return. -/
inductive WaitResult where
  | ok
  | timedOut
  | error
  deriving DecidableEq, Repr

/-- Where the thread is in its loop. -/
inductive KeyThreadPlace where
  /-- It does not have the mutex. -/
  | between
  | waiting (timed : Bool)
  /-- Its wait is over, and it has to take the mutex back. -/
  | woken (res : WaitResult)
  deriving DecidableEq, Repr

/-- What happened, with the key that the code of a signal maps to. -/
inductive KeyLog where
  | signal (key : UInt16) (again : Bool)
  | iteration (res : WaitResult) (events : List (KeyEvent UInt16))
  deriving DecidableEq, Repr

/-- What it emitted. -/
def KeyLog.events : KeyLog → List (KeyEvent UInt16)
  | .signal _ _ => []
  | .iteration _ events => events

/-- `KeyThread`; `again` is `m_repeat`. `log` is a history. -/
structure KeyThread where
  map : UInt32 → UInt16
  wakeupKey : UInt16
  key : UInt16 := keyReserved
  oldKey : UInt16 := keyReserved
  again : Bool := false
  exitPending : Bool := false
  place : KeyThreadPlace := .between
  log : List KeyLog := []

namespace KeyThread

/-- A signal without a waiter wakes nobody. -/
def signal (nexusKey : UInt32) (again : Bool) (s : KeyThread) : KeyThread :=
  let again' := again && s.oldKey ≠ keyReserved
  { s with
    key := if again' then s.oldKey else s.map nexusKey
    again := again'
    place := match s.place with
      | .waiting _ => .woken .ok
      | place => place
    log := s.log ++ [.signal (s.map nexusKey) again] }

/-- The thread takes the mutex and waits. -/
def wait (s : KeyThread) : Option KeyThread :=
  match s.place with
  | .between => some { s with place := .waiting (s.key ≠ keyReserved) }
  | _ => none

/-- A wait is over without a signal; a wait without a timeout does not time out. -/
def wake (res : WaitResult) (s : KeyThread) : Option KeyThread :=
  match s.place with
  | .waiting timed => if res = .timedOut && !timed then none else some { s with place := .woken res }
  | _ => none

/-- What a key event emits. -/
def keyEvents (s : KeyThread) : List (KeyEvent UInt16) :=
  (if s.oldKey ≠ keyReserved then [.release s.oldKey] else []) ++
    (if s.wakeupKey ≠ 0 && s.key = s.wakeupKey then tap keyWakeup else []) ++
    if s.key ≠ keyReserved then [.press s.key] else []

/-- The rest of the iteration, behind the wait. -/
def handle (res : WaitResult) (s : KeyThread) : KeyThread :=
  let s := if res = .timedOut then { s with key := keyReserved, again := false } else s
  let s := { s with place := .between }
  if (res = .ok || res = .timedOut) && !s.again && !s.exitPending then
    { s with log := s.log ++ [.iteration res s.keyEvents], oldKey := s.key }
  else { s with log := s.log ++ [.iteration res []] }

/-- The thread has the mutex back. -/
def iterate (s : KeyThread) : Option KeyThread :=
  match s.place with
  | .woken res => some (s.handle res)
  | _ => none

end KeyThread

/-- The steps of the IR callback, of the thread and of `stop`. -/
inductive KeyThreadAction where
  | signal (nexusKey : UInt32) (again : Bool)
  | wait
  | wake (res : WaitResult)
  | iterate
  | requestExit
  deriving DecidableEq, Repr

namespace KeyThread

/-- One step; `none` when it is not possible. -/
def step (s : KeyThread) : KeyThreadAction → Option KeyThread
  | .signal nexusKey again => some (s.signal nexusKey again)
  | .wait => s.wait
  | .wake res => s.wake res
  | .iterate => s.iterate
  | .requestExit => some { s with exitPending := true }

/-- The thread when it is started. -/
def init (map : UInt32 → UInt16) (wakeupKey : UInt16) : KeyThread := { map, wakeupKey }

/-- What was emitted. -/
def events (s : KeyThread) : List (KeyEvent UInt16) := s.log.flatMap KeyLog.events

/-- The key that is down. -/
def held (s : KeyThread) : Option UInt16 := if s.oldKey = keyReserved then none else some s.oldKey

end KeyThread
end BcmPlatform.Ir
