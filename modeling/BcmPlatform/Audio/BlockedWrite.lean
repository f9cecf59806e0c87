import Mathlib.Data.List.Basic

/-! A write that waits for space gives the lock of its stream away. Then the standby monitor, a standby or the closing of
    the stream can get in, each with the steps that it makes under the lock. -/

namespace BcmPlatform.Audio

/-- The Nexus handles of an output: `simple_playback`, `simple_decoder` or `audio_decoder`, and `playpump`. -/
inductive BoutHandle where
  | decoder
  | playpump
  deriving DecidableEq, Repr

structure HandleState where
  stopped : Bool := true
  closed : Bool := false
  deriving DecidableEq, Repr

/-- In what the operations of the outputs differ. -/
structure BoutOps where
  /-- The output has a playpump. -/
  hasPlaypump : Bool
  /-- The handle that the write gets its buffers from. -/
  buffer : BoutHandle
  /-- A call that fails ends the write. -/
  failureEnds : Bool
  /-- What a timeout stops before it ends the write; the write goes on where it stops nothing. -/
  timeoutStops : List BoutHandle
  /-- The handle whose status is read at the end. -/
  status : Option BoutHandle
  /-- The decoder is paused until it is primed. -/
  primes : Bool
  /-- The space up to the end of the buffer can be skipped. -/
  skips : Bool
  /-- The callback of the standby monitor stops the stream. -/
  monitorStops : Bool
  /-- A stop may wait for the debounce thread without the lock. -/
  joins : Bool
  /-- Opening another output may close this one. -/
  closedByOpen : Bool
  deriving DecidableEq, Repr

inductive OutputKind where
  | nexus
  | direct (playpumpMode : Bool)
  | tunnel (pcmFormat : Bool)
  deriving DecidableEq, Repr

/-- `nexus_bout_ops`, `nexus_direct_bout_ops` and `nexus_tunnel_bout_ops` -/
def OutputKind.ops : OutputKind → BoutOps
  | .nexus =>
    { hasPlaypump := false, buffer := .decoder, failureEnds := true, timeoutStops := [.decoder], status := some .decoder,
      primes := false, skips := false, monitorStops := true, joins := false, closedByOpen := false }
  | .direct playpumpMode =>
    { hasPlaypump := playpumpMode, buffer := if playpumpMode then .playpump else .decoder, failureEnds := true,
      timeoutStops := if playpumpMode then [.playpump, .decoder] else [.decoder], status := none,
      primes := playpumpMode, skips := false, monitorStops := true, joins := false, closedByOpen := true }
  | .tunnel pcmFormat =>
    { hasPlaypump := true, buffer := .playpump, failureEnds := false, timeoutStops := [],
      status := if pcmFormat then none else some .decoder,
      primes := false, skips := true, monitorStops := false, joins := true, closedByOpen := true }

/-- Where a write is; it has the lock while it runs. -/
inductive WriterPlace where
  | idle
  | running
  | waiting
  deriving DecidableEq, Repr

/-- Where the callback of the standby monitor is. -/
inductive MonitorPlace where
  | idle
  | standby
  | suspend
  deriving DecidableEq, Repr

/-- A call that waits for the debounce thread in its stop. -/
inductive PendingStop where
  | standby
  | screenOff
  | close (freed : Bool)
  deriving DecidableEq, Repr

def PendingStop.closes : PendingStop → Bool
  | .close _ => true
  | _ => false

/-- An output stream. `decoder` and `playpump` tell whether the stream has the handle, `prevDecoder` and `prevPlaypump`
    whether the write has it. The last two fields are histories: what the write asserted, and the handles that it used, as
    they were then. -/
structure OutStream where
  started : Bool := false
  suspended : Bool := false
  priming : Bool := false
  decoder : Bool := true
  playpump : Bool
  decoderState : HandleState := {}
  playpumpState : HandleState := {}
  destroyed : Bool := false
  freed : Bool := false
  writer : WriterPlace := .idle
  bytes : Nat := 0
  bytesWritten : Nat := 0
  prevDecoder : Bool := false
  prevPlaypump : Bool := false
  monitor : MonitorPlace := .idle
  pending : List PendingStop := []
  asserts : List Bool := []
  uses : List HandleState := []
  deriving DecidableEq, Repr

/-- What the calls of one iteration of a write answer. -/
inductive IterationAnswer where
  | getBufferFails
  | space (n : Nat) (writeComplete : Bool)
  | skip (writeComplete : Bool)
  | noSpace (setTrickState : Bool)
  deriving DecidableEq, Repr

namespace OutStream
variable (k : OutputKind)

def init : OutStream := { playpump := k.ops.hasPlaypump }

def handle (s : OutStream) : BoutHandle → HandleState
  | .decoder => s.decoderState
  | .playpump => s.playpumpState

/-- The write uses a handle. -/
def use (h : BoutHandle) (s : OutStream) : OutStream := { s with uses := s.uses ++ [s.handle h] }

/-- The write stops a handle. -/
def stopHandle (h : BoutHandle) (s : OutStream) : OutStream :=
  match h with
  | .decoder => { s.use .decoder with decoderState := { s.decoderState with stopped := true } }
  | .playpump => { s.use .playpump with playpumpState := { s.playpumpState with stopped := true } }

/-- The lock is free, and the stream is there. -/
def lockFree (s : OutStream) : Bool := s.writer ≠ .running && !s.freed

/-- The stream has what it needs. -/
def opened (s : OutStream) : Bool := s.decoder && (!k.ops.hasPlaypump || s.playpump)

/-- `nexus_bout_start` and the others -/
def start (primed : Bool) (s : OutStream) : OutStream := { s with
  started := true
  decoderState := { s.decoderState with stopped := false }
  playpumpState := { s.playpumpState with stopped := !s.playpump && s.playpumpState.stopped }
  priming := k.ops.primes && primed }

/-- `nexus_bout_stop` and the others -/
def stop (s : OutStream) : OutStream := { s with
  decoderState := { s.decoderState with stopped := s.decoder || s.decoderState.stopped }
  playpumpState := { s.playpumpState with stopped := s.playpump || s.playpumpState.stopped } }

/-- `nexus_bout_close` and the others; `freed` when `bdev_close_output_stream` calls it. -/
def closeOutput (freed : Bool) (s : OutStream) : OutStream := { s.stop with
  decoder := k = .nexus
  playpump := false
  decoderState := { s.stop.decoderState with closed := true }
  playpumpState := { s.stop.playpumpState with closed := s.playpump || s.playpumpState.closed }
  destroyed := true
  freed := freed }

/-! ### The write -/

/-- The write returns; it reads the status first when it has written something. -/
def finish (s : OutStream) : OutStream :=
  { (if s.bytesWritten = 0 then s else match k.ops.status with
      | some h => s.use h
      | none => s) with writer := .idle }

/-- A call of the write fails. -/
def fails (s : OutStream) : OutStream := if k.ops.failureEnds then s.finish k else s

/-- `bout_write` up to the loop of the write; `started` and `primed` tell whether the calls of the start succeed. -/
def beginWrite (bytes : Nat) (started primed : Bool) (s : OutStream) : Option OutStream :=
  if s.writer ≠ .idle || s.freed then none
  else
    let s := if !s.started && !s.suspended && s.opened k && started then s.start k primed else s
    some (if !s.started || s.suspended || !s.opened k then s
      else { s with writer := .running, bytes, bytesWritten := 0, prevDecoder := s.decoder, prevPlaypump := s.playpump })

/-- One iteration of the loop. -/
def iterate (a : IterationAnswer) (s : OutStream) : Option OutStream :=
  if s.writer ≠ .running || s.bytes = 0 then none
  else
    let s := s.use k.ops.buffer
    match a with
    | .getBufferFails => some (s.fails k)
    | .space n writeComplete =>
      let s := s.use k.ops.buffer
      some (if writeComplete then { s with bytes := s.bytes - n, bytesWritten := s.bytesWritten + min n s.bytes } else s.fails k)
    | .skip writeComplete =>
      let s := s.use k.ops.buffer
      if !k.ops.skips then none else some (if writeComplete then s else s.fails k)
    | .noSpace setTrickState =>
      some (if k.ops.primes && s.priming && setTrickState then { s with priming := false } else { s with writer := .waiting })

/-- The loop ends; the tunnelled write can also leave bytes of a header. -/
def endWrite (s : OutStream) : Option OutStream :=
  if s.writer = .running && (s.bytes = 0 || !k.ops.failureEnds) then some (s.finish k) else none

/-- The write has its lock again. -/
def relock (timedOut : Bool) (s : OutStream) : Option OutStream :=
  if s.writer ≠ .waiting then none
  else
    let s := { s with
      asserts := s.asserts ++
        [s.decoder = s.prevDecoder && (!k.ops.hasPlaypump || s.playpump = s.prevPlaypump) && !s.suspended]
      prevDecoder := s.decoder
      prevPlaypump := s.playpump
      writer := .running }
    some (if timedOut && k.ops.timeoutStops ≠ [] then
        finish k { k.ops.timeoutStops.foldl (fun s h => s.stopHandle h) s with started := false }
      else s)

/-! ### Standby and close -/

/-- The end of `bout_standby`. -/
def standbyStop (s : OutStream) : OutStream := { s.stop with started := false }

/-- `bout_standby`; `debounce` when the stop has to wait for the debounce thread. -/
def standby (debounce : Bool) (s : OutStream) : Option OutStream :=
  if !s.lockFree then none
  else some (if !s.started then s
    else if k.ops.joins && debounce then { s with pending := s.pending ++ [.standby] }
    else s.standbyStop)

/-- `bout_set_parameters` with the state of the screen -/
def screenState (on debounce : Bool) (s : OutStream) : Option OutStream :=
  if !s.lockFree then none
  else some (if on then { s with suspended := false }
    else if s.started && k.ops.joins && debounce then { s with pending := s.pending ++ [.screenOff] }
    else { (if s.started then s.standbyStop else s) with suspended := true })

/-- `bdev_close_output_stream`, or the closing in `bdev_open_output_stream`. It unregisters the callback, so that the
    callback is not running when it is through. -/
def close (freed debounce : Bool) (s : OutStream) : Option OutStream :=
  if !s.lockFree || s.monitor ≠ .idle || !(freed || k.ops.closedByOpen) || s.pending.any PendingStop.closes then none
  else some (if s.destroyed then { s with freed := freed }
    else if k.ops.joins && debounce then { s with pending := s.pending ++ [.close freed] }
    else s.closeOutput k freed)

/-- A stop that waited has the lock again. -/
def joined (i : Nat) (s : OutStream) : Option OutStream :=
  if !s.lockFree then none
  else match s.pending[i]? with
    | none => none
    | some .standby => some { s.standbyStop with pending := s.pending.eraseIdx i }
    | some .screenOff => some { s.standbyStop with suspended := true, pending := s.pending.eraseIdx i }
    | some (.close freed) =>
      if s.monitor ≠ .idle then none else some { s.closeOutput k freed with pending := s.pending.eraseIdx i }

/-- The callback of the standby monitor reads `started` under the lock. -/
def monitorRead (s : OutStream) : Option OutStream :=
  if !s.lockFree || s.destroyed || s.monitor ≠ .idle then none
  else some (if k.ops.monitorStops && s.started then { s with monitor := .standby } else s)

/-- It calls `bout_standby`. -/
def monitorStandby (s : OutStream) : Option OutStream :=
  if s.monitor ≠ .standby then none else (s.standby k false).map fun s => { s with monitor := .suspend }

/-- It sets `suspended` without the lock. -/
def monitorSuspend (s : OutStream) : Option OutStream :=
  if s.monitor ≠ .suspend then none else some { s with suspended := true, monitor := .idle }

end OutStream

inductive BlockedAction where
  | beginWrite (bytes : Nat) (started primed : Bool)
  | iterate (a : IterationAnswer)
  | endWrite
  | relock (timedOut : Bool)
  | standby (debounce : Bool)
  | screenState (on debounce : Bool)
  | close (freed debounce : Bool)
  | joined (i : Nat)
  | monitorRead
  | monitorStandby
  | monitorSuspend
  deriving DecidableEq, Repr

namespace OutStream

/-- One step; `none` when it is not possible. -/
def step (k : OutputKind) (s : OutStream) : BlockedAction → Option OutStream
  | .beginWrite bytes started primed => s.beginWrite k bytes started primed
  | .iterate a => s.iterate k a
  | .endWrite => s.endWrite k
  | .relock timedOut => s.relock k timedOut
  | .standby debounce => s.standby k debounce
  | .screenState on debounce => s.screenState k on debounce
  | .close freed debounce => s.close k freed debounce
  | .joined i => s.joined k i
  | .monitorRead => s.monitorRead k
  | .monitorStandby => s.monitorStandby k
  | .monitorSuspend => s.monitorSuspend

end OutStream
end BcmPlatform.Audio
