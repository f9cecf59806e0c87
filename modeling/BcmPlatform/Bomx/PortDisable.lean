import BcmPlatform.Bomx.VideoStep
import BcmPlatform.Bomx.AudioOutput

/-! `CommandPortDisable` and `CommandStateSet(OMX_StateLoaded)`, with the waits in which they give up the component lock.
    The two decoders have the same code for them, each over its own ports and resources. -/

namespace BcmPlatform.Bomx

/-- What another thread does while a command waits: a step of the decoder, or `OMX_SetParameter` with a definition of a
    port. -/
inductive Meanwhile (α : Type) where
  | step (action : α)
  | setDefinition (dir : OmxDir) (config : PortDefinition)

/-- A call of `PortWait`: what happens until it has the lock again, and whether it times out. -/
structure WaitCall (α : Type) where
  meanwhile : List (Meanwhile α)
  timeout : Bool

/-- The parameter of `CommandPortDisable`: the index of one of the two ports, `OMX_ALL`, or another index. -/
inductive PortIndex where
  | port (dir : OmxDir)
  | all
  | other
  deriving DecidableEq, Repr

/-- How a command ended. `timedOut` is the port that the warning about a timeout names; `seen` are the states in which the
    command and the other threads gave up the lock meanwhile. -/
structure CommandEnd (σ : Type) where
  state : σ
  err : OmxError := .none
  timedOut : Option OmxDir := none
  seen : List σ := []

/-- A decoder as these commands see it; `ν` is what Nexus answers. `setPortLoaded` is `SetInputPortState(OMX_StateLoaded)`
    or `SetOutputPortState(OMX_StateLoaded)`, `step` a section of another thread, and `clearBuffers` what the change to
    Loaded ends with. -/
structure PortDevice (σ ν α : Type) where
  currentState : σ → OmxState
  port : OmxDir → σ → Port
  setPort : OmxDir → Port → σ → σ
  setPortLoaded : OmxDir → ν → σ → σ
  returnPortBuffers : OmxDir → σ → σ
  clearBuffers : σ → σ
  step : σ → α → Option σ

namespace PortDevice
variable {σ ν α : Type} (c : PortDevice σ ν α)

def meanwhileStep (s : σ) : Meanwhile α → Option σ
  | .step action => c.step s action
  | .setDefinition dir config => some (c.setPort dir ((c.port dir s).setDefinition config) s)

/-- The state after some steps, and all states that they led to. -/
def meanwhile : List (Meanwhile α) → σ → Option (σ × List σ)
  | [], s => some (s, [])
  | m :: rest, s =>
    (c.meanwhileStep s m).bind fun t => (meanwhile rest t).map fun p => (p.1, t :: p.2)

/-- The loop that waits for a port to become de-populated; `none` when it still waits after these calls. -/
def waitEmpty (dir : OmxDir) : List (WaitCall α) → σ → Option (CommandEnd σ)
  | [], s => if (c.port dir s).isEmpty then some { state := s } else none
  | w :: rest, s =>
    if (c.port dir s).isEmpty then some { state := s }
    else
      (c.meanwhile w.meanwhile s).bind fun p =>
        if w.timeout then
          some { state := c.setPort dir ((c.port dir p.1).reenabled true) p.1, err := .timeout, timedOut := some dir
                 seen := p.2 }
        else (waitEmpty dir rest p.1).map fun e => { e with seen := p.2 ++ e.seen }

/-- The disabling of an enabled port in a state other than Loaded, up to the wait. -/
def releasePort (dir : OmxDir) (n : ν) (s : σ) : σ :=
  c.returnPortBuffers dir (c.setPortLoaded dir n (c.setPort dir (c.port dir s).disabled s))

/-- `CommandPortDisable` for one port. -/
def disablePort (dir : OmxDir) (n : ν) (waits : List (WaitCall α)) (s : σ) : Option (CommandEnd σ) :=
  if (c.port dir s).isDisabled then some { state := s, err := .incorrectStateOperation }
  else if c.currentState s = .loaded then some { state := c.setPort dir (c.port dir s).disabled s }
  else
    let s := c.releasePort dir n s
    (c.waitEmpty dir waits s).map fun e => { e with seen := s :: e.seen }

/-- One half of `CommandPortDisable(OMX_ALL)`: the port is disabled if it is enabled, unless there was an error before. -/
def disableEnabled (dir : OmxDir) (n : ν) (waits : List (WaitCall α)) (e : CommandEnd σ) : Option (CommandEnd σ) :=
  if e.err ≠ .none then some e
  else if (c.port dir e.state).isEnabled then
    (c.disablePort dir n waits e.state).map fun e' => { e' with seen := e.seen ++ e'.seen }
  else some e

/-- `CommandPortDisable` -/
def commandPortDisable (n : OmxDir → ν) (waits : OmxDir → List (WaitCall α)) (portIndex : PortIndex) (s : σ) :
    Option (CommandEnd σ) :=
  match portIndex with
  | .all =>
    (c.disableEnabled .input (n .input) (waits .input) { state := s }).bind
      (c.disableEnabled .output (n .output) (waits .output))
  | .port dir => c.disablePort dir (n dir) (waits dir) s
  | .other => some { state := s, err := .badPortIndex }

def reenablePort (dir : OmxDir) (enabled : Bool) (s : σ) : σ := c.setPort dir ((c.port dir s).reenabled enabled) s

/-- `CommandStateSet(OMX_StateLoaded)` -/
def commandStateSetLoaded (n : OmxDir → ν) (waits : OmxDir → List (WaitCall α)) (s : σ) : Option (CommandEnd σ) :=
  let inputPortEnabled := (c.port .input s).isEnabled
  let outputPortEnabled := (c.port .output s).isEnabled
  (c.commandPortDisable n waits .all s).map fun e =>
    if e.err ≠ .none then e
    else
      { e with state := c.clearBuffers (c.reenablePort .output outputPortEnabled
          (c.reenablePort .input inputPortEnabled e.state)) }

end PortDevice

/-- The commands that wait for ports to lose their buffers. -/
inductive DisableCommand where
  | portDisable (portIndex : PortIndex)
  | stateSetLoaded
  deriving DecidableEq, Repr

/-- What Nexus answers for each port, and the waits for it. -/
structure DisableRun (ν α : Type) where
  nexus : OmxDir → ν
  waits : OmxDir → List (WaitCall α)

/-- A command, for what Nexus answers and what happens in the waits. -/
def PortDevice.execute {σ ν α : Type} (c : PortDevice σ ν α) (run : DisableRun ν α) : DisableCommand → σ →
    Option (CommandEnd σ)
  | .portDisable portIndex => c.commandPortDisable run.nexus run.waits portIndex
  | .stateSetLoaded => c.commandStateSetLoaded run.nexus run.waits

/-! ### The two decoders -/

/-- The steps that are sections of a command. The thread that waits is the one that takes up commands. -/
def VideoAction.isCommand : VideoAction → Bool
  | .flushInput .. | .flushOutput .. | .stateSet .. | .resume .. => true
  | _ => false

/-- Nexus is not asked anything that it could refuse. -/
def VideoDecoder.portDevice : PortDevice VideoDecoder Unit VideoAction where
  currentState d := d.currentState
  port
    | .input, d => d.inp.port
    | .output, d => d.out.port
  setPort
    | .input, port, d => { d with inp := { d.inp with port } }
    | .output, port, d => { d with out := { d.out with port } }
  setPortLoaded
    | .input, _, d => (d.setInputPortState .loaded {} {}).1
    | .output, _, d => d.setOutputPortState .loaded {}
  returnPortBuffers
    | .input, d => { d with inp := d.inp.returnPortBuffers }
    | .output, d => { d with out := d.out.returnPortBuffers }
  clearBuffers d := { d with out := d.out.clearAllocList }
  step d action := if action.isCommand then none else d.step action

/-- The sections of a command, and the parts of one. -/
def AudioOutputAction.isCommand : AudioOutputAction → Bool
  | .input .. | .allocateOutputBuffer .. | .fillThisBuffer .. | .freeOutputBuffer .. | .outputFrameEvent .. => false
  | _ => true

def AudioOutput.portDevice : PortDevice AudioOutput AudioAnswers AudioOutputAction where
  currentState s := s.d.currentState
  port
    | .input, s => s.d.inp.port
    | .output, s => s.d.outPort
  setPort
    | .input, port, s => { s with d := { s.d with inp := { s.d.inp with port } } }
    | .output, port, s => { s with d := { s.d with outPort := port } }
  setPortLoaded
    | .input, a, s => (s.setInputPortState .loaded a).1
    | .output, a, s => (s.setOutputPortState .loaded a).1
  returnPortBuffers
    | .input, s => { s with d := { s.d with inp := s.d.inp.returnPortBuffers } }
    | .output, s => s.returnPortBuffers
  clearBuffers s := s
  step s action := if action.isCommand then none else s.step action

end BcmPlatform.Bomx
