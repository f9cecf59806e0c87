import BcmPlatform.Bomx.Omx

/-! `BOMX_Component::CommandEventHandler`: what the component does with a command, and what it tells the application. The
    operations of the derived class are parameters, which act on a state of their own. -/

namespace BcmPlatform.Bomx

/-- `OMX_COMMANDTYPE` -/
inductive Command where
  | stateSet
  | flush
  | portDisable
  | portEnable
  | markBuffer
  | unknown (command : Nat)
  deriving DecidableEq, Repr

structure CommandMsg where
  command : Command
  nParam1 : Nat
  deriving DecidableEq, Repr

def omxAll : Nat := 0xFFFFFFFF

/-- The state that a parameter names, if it names one. -/
def OmxState.ofParam : Nat → Option OmxState
  | 0 => some .invalid
  | 1 => some .loaded
  | 2 => some .idle
  | 3 => some .executing
  | 4 => some .pause
  | 5 => some .waitForResources
  | _ => none

/-- What the application is told. -/
inductive ComponentEvent where
  | cmdComplete (command : Command) (param : Nat)
  | error (err : OmxError) (command : Command)
  deriving DecidableEq, Repr

inductive PortFamily where
  | video
  | audio
  | other
  | image
  deriving DecidableEq, Repr

/-- The states of the component, and what else the derived class has. -/
structure CommandState (σ : Type) where
  currentState : OmxState
  targetState : OmxState
  rest : σ

/-- The component: its ports, the callback of the application and the operations of the derived class. -/
structure ComponentClass (σ : Type) where
  eventHandler : Bool
  portBase : PortFamily → Nat
  numPorts : PortFamily → Nat
  isEnabled : PortFamily → Nat → σ → Bool
  commandStateSet : OmxState → OmxState → CommandState σ → σ × OmxError
  commandFlush : Nat → CommandState σ → σ × OmxError
  commandPortEnable : Nat → CommandState σ → σ × OmxError
  commandPortDisable : Nat → CommandState σ → σ × OmxError
  commandMarkBuffer : Nat → CommandState σ → σ × OmxError

/-- What comes of a command: the state, the values of `err`, `reply` and `error`, and the events. `hook` is the state
    change that the derived class was asked for, `results` is what its port operations returned. -/
structure CommandOutcome (σ : Type) where
  state : CommandState σ
  err : OmxError := .none
  reply : Bool := true
  error : Bool := false
  events : List ComponentEvent := []
  hook : Option (OmxState × OmxState) := none
  results : List (Nat × OmxError) := []

section
variable {σ : Type}

/-- The target of a state change that `StateChangeStart` lets start from `currentState`; the new state is none of the six
    if the parameter is not. -/
def stateChangeTarget : OmxState → Option OmxState → Except OmxError OmxState
  | _, some .invalid => .ok .invalid
  | .invalid, _ => .error .invalidState
  | .loaded, some .waitForResources => .ok .waitForResources
  | .loaded, some .idle => .ok .idle
  | .idle, some .loaded => .ok .loaded
  | .idle, some .executing => .ok .executing
  | .idle, some .pause => .ok .pause
  | .executing, some .idle => .ok .idle
  | .executing, some .pause => .ok .pause
  | .pause, some .idle => .ok .idle
  | .pause, some .executing => .ok .executing
  | .waitForResources, some .idle => .ok .idle
  | .waitForResources, some .loaded => .ok .loaded
  | _, _ => .error .incorrectStateTransition

def CommandState.stateChangeStart (newState : Option OmxState) (s : CommandState σ) : CommandState σ × OmxError :=
  if s.currentState ≠ s.targetState then (s, .incorrectStateTransition)
  else if newState = some s.currentState then (s, .sameState)
  else
    match stateChangeTarget s.currentState newState with
    | .ok target => ({ s with targetState := target }, .none)
    | .error err => (s, err)

namespace ComponentClass
variable (c : ComponentClass σ)

/-- `OMX_CommandStateSet` -/
def stateSet (nParam1 : Nat) (s : CommandState σ) : CommandOutcome σ :=
  let p := s.stateChangeStart (OmxState.ofParam nParam1)
  match p.2 with
  | .none =>
    let r := c.commandStateSet p.1.targetState p.1.currentState p.1
    let s := { p.1 with rest := r.1 }
    if r.2 = .none then
      { state := { s with currentState := s.targetState }, hook := some (p.1.targetState, p.1.currentState) }
    else
      { state := { s with targetState := s.currentState }, err := r.2, hook := some (p.1.targetState, p.1.currentState) }
  | err => { state := { p.1 with targetState := p.1.currentState }, err }

/-- One round of a loop over the ports: an operation on those that are enabled, or on those that are not. -/
def portRound (command : Command) (enabled : Bool) (op : Nat → CommandState σ → σ × OmxError)
    (o : CommandOutcome σ) (port : PortFamily × Nat) : CommandOutcome σ :=
  if c.isEnabled port.1 port.2 o.state.rest = enabled then
    let index := c.portBase port.1 + port.2
    let r := op index o.state
    { o with
      state := { o.state with rest := r.1 }
      err := r.2
      events := o.events ++ if c.eventHandler then [.cmdComplete command index] else []
      error := o.error || decide (r.2 ≠ .none)
      results := o.results ++ [(index, r.2)] }
  else o

/-- The ports in the order in which the loops go through them. -/
def ports : List (PortFamily × Nat) :=
  [PortFamily.video, .audio, .other, .image].flatMap fun family =>
    (List.range (c.numPorts family)).map fun i => (family, i)

/-- A command about ports: one port, or all of them. -/
def portCommand (command : Command) (enabled : Bool) (op : Nat → CommandState σ → σ × OmxError) (nParam1 : Nat)
    (s : CommandState σ) : CommandOutcome σ :=
  if nParam1 = omxAll then c.ports.foldl (c.portRound command enabled op) { state := s, reply := false }
  else
    let r := op nParam1 s
    { state := { s with rest := r.1 }, err := r.2, results := [(nParam1, r.2)] }

/-- `OMX_CommandFlush`, on the ports that are enabled. -/
def flush (nParam1 : Nat) (s : CommandState σ) : CommandOutcome σ :=
  c.portCommand .flush true c.commandFlush nParam1 s

/-- `OMX_CommandPortEnable`, on the ports that are not enabled. -/
def portEnable (nParam1 : Nat) (s : CommandState σ) : CommandOutcome σ :=
  c.portCommand .portEnable false c.commandPortEnable nParam1 s

/-- `OMX_CommandPortDisable`, on the ports that are enabled. -/
def portDisable (nParam1 : Nat) (s : CommandState σ) : CommandOutcome σ :=
  c.portCommand .portDisable true c.commandPortDisable nParam1 s

/-- `OMX_CommandMarkBuffer` -/
def markBuffer (nParam1 : Nat) (s : CommandState σ) : CommandOutcome σ :=
  let r := c.commandMarkBuffer nParam1 s
  { state := { s with rest := r.1 }, err := r.2 }

/-- The command itself, before the report. -/
def execute (msg : CommandMsg) (s : CommandState σ) : CommandOutcome σ :=
  match msg.command with
  | .stateSet => c.stateSet msg.nParam1 s
  | .flush => c.flush msg.nParam1 s
  | .portEnable => c.portEnable msg.nParam1 s
  | .portDisable => c.portDisable msg.nParam1 s
  | .markBuffer => c.markBuffer msg.nParam1 s
  | .unknown _ => { state := s, err := .notImplemented }

/-- The report to the application. -/
def report (msg : CommandMsg) (o : CommandOutcome σ) : List ComponentEvent :=
  if !c.eventHandler then []
  else if o.err = .none ∧ o.reply then [.cmdComplete msg.command msg.nParam1]
  else if o.err ≠ .none ∨ o.error then [.error o.err msg.command]
  else []

/-- `CommandEventHandler`, for one command. -/
def commandEventHandler (msg : CommandMsg) (s : CommandState σ) : CommandOutcome σ :=
  let o := c.execute msg s
  { o with events := o.events ++ c.report msg o }

/-- The state after a sequence of commands. -/
def after (s : CommandState σ) (msgs : List CommandMsg) : CommandState σ :=
  msgs.foldl (fun s msg => (c.commandEventHandler msg s).state) s

/-- The values of `m_currentState`, from the one before the first command on. -/
def visited : CommandState σ → List CommandMsg → List OmxState
  | s, [] => [s.currentState]
  | s, msg :: rest => s.currentState :: visited (c.commandEventHandler msg s).state rest

end ComponentClass
end
end BcmPlatform.Bomx
