import BcmPlatform.Bomx.Port

/-! `BOMX_Port` with its members as they are: the two counters and the flag `bPopulated` are kept beside the lists, and
    nothing relates them. -/

namespace BcmPlatform.Bomx

/-- `OMX_PORTDOMAINTYPE` -/
inductive PortDomain where
  | audio
  | video
  | image
  | other
  deriving DecidableEq, Repr

/-- The port at the other end of a tunnel, with the component it belongs to. -/
structure TunnelEnd where
  component : Nat
  port : Nat
  eDomain : PortDomain
  deriving DecidableEq, Repr

structure PortState where
  definition : PortDefinition
  eDomain : PortDomain
  bufferList : List BufferId
  bufferQueue : List BufferId
  componentAllocated : Bool
  numBuffers : Nat
  queueDepth : Nat
  pTunnel : Option TunnelEnd
  deriving DecidableEq, Repr

namespace PortState

/-- The constructor, which leaves `m_componentAllocated` as it is. -/
def new (nPortIndex bufferCountMin bufferSize : Nat) (eDomain : PortDomain) (componentAllocated : Bool) : PortState :=
  { definition := { nPortIndex, nBufferCountActual := bufferCountMin, nBufferCountMin := bufferCountMin,
                    nBufferSize := bufferSize, bEnabled := true, bPopulated := false }
    eDomain, bufferList := [], bufferQueue := [], componentAllocated, numBuffers := 0, queueDepth := 0, pTunnel := none }

def isPopulated (p : PortState) : Bool := p.definition.bPopulated

def isEnabled (p : PortState) : Bool := p.definition.bEnabled

def isTunneled (p : PortState) : Bool := p.pTunnel.isSome

def isBufferQueued (p : PortState) (b : BufferId) : Bool := p.bufferQueue.contains b

/-- `SetDefinition`: changes to read-only parameters are dropped. -/
def setDefinition (config : PortDefinition) (p : PortState) : PortState × OmxError :=
  ({ p with definition := { config with
      nPortIndex := p.definition.nPortIndex
      bEnabled := p.definition.bEnabled
      bPopulated := p.definition.bPopulated } }, .none)

def enable (p : PortState) : PortState × OmxError :=
  if p.definition.bEnabled = false then ({ p with definition := { p.definition with bEnabled := true } }, .none)
  else (p, .incorrectStateOperation)

def disable (p : PortState) : PortState × OmxError :=
  if p.definition.bEnabled = true then
    ({ p with definition := { p.definition with bEnabled := false, bPopulated := false } }, .none)
  else (p, .incorrectStateOperation)

/-- `AddBuffer`, for the newly created buffer `b`. -/
def addBuffer (b : BufferId) (componentAllocated : Bool) (p : PortState) : PortState × OmxError :=
  if componentAllocated ≠ p.componentAllocated ∧ p.numBuffers > 0 then (p, .badParameter)
  else if p.isPopulated then (p, .incorrectStateOperation)
  else
    let p := { p with
      bufferList := p.bufferList ++ [b]
      numBuffers := p.numBuffers + 1
      componentAllocated }
    (if p.numBuffers = p.definition.nBufferCountActual then { p with definition := { p.definition with bPopulated := true } }
      else p, .none)

def removeBuffer (b : BufferId) (p : PortState) : PortState × OmxError :=
  if b ∉ p.bufferList then (p, .badParameter)
  else if p.isBufferQueued b then (p, .badParameter)
  else
    ({ p with
        bufferList := p.bufferList.erase b
        definition := { p.definition with bPopulated := false }
        numBuffers := p.numBuffers - 1 }, .none)

def queueBuffer (b : BufferId) (p : PortState) : PortState × OmxError :=
  if b ∉ p.bufferList then (p, .badParameter)
  else if p.isBufferQueued b then (p, .badParameter)
  else ({ p with bufferQueue := p.bufferQueue ++ [b], queueDepth := p.queueDepth + 1 }, .none)

/-- `BufferComplete`. For a buffer that is not queued an assertion fails and nothing changes. -/
def bufferComplete (b : BufferId) (p : PortState) : PortState :=
  if b ∈ p.bufferQueue then { p with bufferQueue := p.bufferQueue.erase b, queueDepth := p.queueDepth - 1 } else p

/-- `SetTunnel`, with both arguments or none. -/
def setTunnel (tunnel : Option TunnelEnd) (p : PortState) : PortState × OmxError :=
  if p.numBuffers > 0 then (p, .incorrectStateOperation)
  else
    match tunnel with
    | none => ({ p with pTunnel := none, definition := { p.definition with bPopulated := false } }, .none)
    | some other =>
      if other.eDomain ≠ p.eDomain then (p, .portsNotCompatible)
      else
        let p := { p with pTunnel := some other }
        (if p.isEnabled then { p with definition := { p.definition with bPopulated := true } } else p, .none)

end PortState

/-- The operations on a port. -/
inductive PortAction where
  | setDefinition (config : PortDefinition)
  | enable
  | disable
  | addBuffer (b : BufferId) (componentAllocated : Bool)
  | removeBuffer (b : BufferId)
  | queueBuffer (b : BufferId)
  | bufferComplete (b : BufferId)
  | setTunnel (tunnel : Option TunnelEnd)
  deriving DecidableEq, Repr

/-- One operation, successful or failing. A new buffer is none of those that exist. -/
def PortState.step (p : PortState) : PortAction → Option PortState
  | .setDefinition config => some (p.setDefinition config).1
  | .enable => some p.enable.1
  | .disable => some p.disable.1
  | .addBuffer b componentAllocated => if b ∈ p.bufferList then none else some (p.addBuffer b componentAllocated).1
  | .removeBuffer b => some (p.removeBuffer b).1
  | .queueBuffer b => some (p.queueBuffer b).1
  | .bufferComplete b => some (p.bufferComplete b)
  | .setTunnel tunnel => some (p.setTunnel tunnel).1

/-- The same operations on a `Port`, which has no tunnel. A failing one changes nothing. -/
def Port.apply (p : Port) : PortAction → Port
  | .setDefinition config => p.setDefinition config
  | .enable => p.enable.toOption.getD p
  | .disable => p.disable.toOption.getD p
  | .addBuffer b componentAllocated =>
    if hnew : b ∈ p.bufferList then p else (p.addBuffer b componentAllocated hnew).toOption.getD p
  | .removeBuffer b => (p.removeBuffer b).toOption.getD p
  | .queueBuffer b => (p.queueBuffer b).toOption.getD p
  | .bufferComplete b => p.bufferComplete b
  | .setTunnel _ => p

end BcmPlatform.Bomx
