import Mathlib.Algebra.GroupWithZero.Nat
import Mathlib.Data.List.Basic

/-! Pause and resume of the tunnelled output. A pause starts a thread that sleeps for 300 ms and then does what was asked
    for last; `stop` waits for that thread without the lock. -/

namespace BcmPlatform.Audio

/-- The two rates of the decoder: 0 and `NEXUS_NORMAL_DECODE_RATE`. -/
inductive DecodeRate where
  | zero
  | normal
  deriving DecidableEq, Repr

inductive PauseRequest where
  | pause
  | resume
  deriving DecidableEq, Repr

/-- A thread of `nexus_tunnel_bout_debounce_task` that has not come to its last `nexus_tunnel_bout_debounce_reset`; it
    sleeps whenever another thread has the lock. `stopReturned` is history: a `stop` has returned since it was created. -/
structure DebounceThread where
  id : Nat
  stopReturned : Bool := false
  deriving DecidableEq, Repr

/-- The output stream between two times that its lock is taken. `joining` are the threads that calls of `stop` wait for.
    The last three fields are histories: the threads that detached themselves, the threads as they were when they went on
    to the decoder, and the last request unless the stream was started or stopped since. -/
structure TunnelOut where
  debounce : Bool := false
  debouncePausing : Bool := false
  debounceMore : Bool := false
  debounceExpired : Bool := false
  debounceStopping : Bool := false
  lastPauseTime : Nat := 0
  debounceThread : Nat := 0
  rate : DecodeRate := .normal
  stcFrozen : Bool := false
  threads : List DebounceThread := []
  nextThread : Nat := 0
  joining : List Nat := []
  detached : List Nat := []
  touches : List DebounceThread := []
  lastRequest : Option PauseRequest := none
  deriving DecidableEq, Repr

/-- `BRCM_AUDIO_TUNNEL_DEBOUNCE_DURATION_MS` -/
def tunnelDebounceDurationMs : Int := 300

/-- `toMillisecondTimeoutDelay`; the times are in nanoseconds. -/
def toMillisecondTimeoutDelay (referenceTime timeoutTime : Nat) : Int :=
  if timeoutTime ≤ referenceTime then 0
  else
    let timeoutDelay := timeoutTime - referenceTime
    if timeoutDelay > (2 ^ 31 - 2) * 1000000 then -1 else ((timeoutDelay + 999999) / 1000000 : Nat)

/-- Which calls succeed: `SetTrickState`, `Freeze`, and the `SetTrickState` that takes the first one back. -/
structure TrickAnswers where
  setTrickState : Bool := true
  freeze : Bool := true
  restore : Bool := true
  deriving DecidableEq, Repr

/-- Whether the device is open, and which calls of `nexus_tunnel_bout_start` succeed. -/
structure StartAnswers where
  opened : Bool := true
  playpumpStart : Bool := true
  decoderStart : Bool := true
  deriving DecidableEq, Repr

namespace TunnelOut

/-- The end of `nexus_tunnel_bout_pause` and of `nexus_tunnel_bout_resume`. -/
def setTrickState (rate before : DecodeRate) (frozen : Bool) (a : TrickAnswers) (s : TunnelOut) : TunnelOut :=
  if !a.setTrickState then s
  else if !a.freeze then { s with rate := if a.restore then before else rate }
  else { s with rate, stcFrozen := frozen }

/-- `nexus_tunnel_bout_pause`; `created` tells whether `pthread_create` succeeds. -/
def pause (created : Bool) (now : Nat) (a : TrickAnswers) (s : TunnelOut) : TunnelOut :=
  if !s.debounce && created then
    { s with
      debounceThread := s.nextThread
      nextThread := s.nextThread + 1
      threads := s.threads ++ [{ id := s.nextThread }]
      debounce := true
      debouncePausing := true }
  else if s.debounce && !s.debounceExpired then
    { s with
      debounceMore := s.debounceMore || !s.debouncePausing
      lastPauseTime := if s.debouncePausing then s.lastPauseTime else now
      debouncePausing := true }
  else s.setTrickState .zero .normal true a

/-- `nexus_tunnel_bout_resume` -/
def resume (a : TrickAnswers) (s : TunnelOut) : TunnelOut :=
  if s.debounce && !s.debounceExpired then { s with debouncePausing := false, debounceMore := false }
  else s.setTrickState .normal .zero false a

/-- `nexus_tunnel_bout_debounce_reset` -/
def debounceReset (s : TunnelOut) : TunnelOut := { s with
  debounce := false
  debouncePausing := false
  debounceMore := false
  debounceExpired := false
  debounceStopping := false
  lastPauseTime := 0 }

/-- `nexus_tunnel_bout_start` -/
def start (a : StartAnswers) (s : TunnelOut) : TunnelOut :=
  if !a.opened || !a.playpumpStart || !a.decoderStart then s else { s.debounceReset with lastRequest := none }

/-- The end of `nexus_tunnel_bout_stop`, after the thread was joined. -/
def stopped (s : TunnelOut) : TunnelOut := { s with
  threads := s.threads.map fun t => { t with stopReturned := true }
  lastRequest := none }

/-- `nexus_tunnel_bout_stop` up to its `pthread_join`, or to its end. -/
def stop (s : TunnelOut) : TunnelOut :=
  if s.debounce then
    { s with debounceStopping := true, joining := s.joining ++ [s.debounceThread], lastRequest := none }
  else s.stopped

/-- A `pthread_join` of `nexus_tunnel_bout_stop` returns. -/
def joined (thread : Nat) (s : TunnelOut) : Option TunnelOut :=
  if thread ∈ s.joining ∧ ∀ t ∈ s.threads, t.id ≠ thread then
    some { s with joining := s.joining.erase thread }.stopped
  else none

/-- The end of `nexus_tunnel_bout_debounce_task`, after its loop. -/
def finishTask (t : DebounceThread) (created : Bool) (now : Nat) (a : TrickAnswers) (s : TunnelOut) : TunnelOut :=
  let s := { s with debounceExpired := true }
  let s :=
    if s.debounceStopping then s
    else
      let s := { s with touches := s.touches ++ [t] }
      let s := if s.debouncePausing then s.pause created now a else s.resume a
      { s with detached := s.detached ++ [t.id] }
  { s.debounceReset with threads := s.threads.erase t }

/-- A thread wakes up and takes the lock: it sleeps again for the rest of the time, or comes to its end. -/
def wake (t : DebounceThread) (created : Bool) (now : Nat) (a : TrickAnswers) (s : TunnelOut) : Option TunnelOut :=
  if t ∉ s.threads then none
  else if !s.debounceStopping && s.debounceMore then
    let s := { s with debounceMore := false }
    let delta := tunnelDebounceDurationMs - toMillisecondTimeoutDelay s.lastPauseTime now
    some (if delta > 0 ∧ delta ≤ tunnelDebounceDurationMs then s else s.finishTask t created now a)
  else some (s.finishTask t created now a)

end TunnelOut

/-- The steps of the callers and of the threads, each while it has the lock. -/
inductive DebounceAction where
  | start (a : StartAnswers)
  | stop
  | joined (thread : Nat)
  | pause (created : Bool) (now : Nat) (a : TrickAnswers)
  | resume (a : TrickAnswers)
  | wake (t : DebounceThread) (created : Bool) (now : Nat) (a : TrickAnswers)
  deriving DecidableEq, Repr

namespace TunnelOut

/-- One step; `none` when it is not possible. -/
def step (s : TunnelOut) : DebounceAction → Option TunnelOut
  | .start a => some (s.start a)
  | .stop => some s.stop
  | .joined thread => s.joined thread
  | .pause created now a => some { s.pause created now a with lastRequest := some .pause }
  | .resume a => some { s.resume a with lastRequest := some .resume }
  | .wake t created now a => s.wake t created now a

end TunnelOut
end BcmPlatform.Audio
