import BcmPlatform.Audio.StandbyMonitor

/-! Opening and closing the output streams of the audio device: the table of open streams, the swap between direct and tunnel
    output, and what each backend acquires and gives back. What Nexus and the properties answer is arbitrary. -/

namespace BcmPlatform.Audio

/-- `BRCM_DEVICE_OUT_NEXUS` and the others that can be opened. -/
inductive OutDevice where
  | nexus
  | direct
  | tunnel
  deriving DecidableEq, Repr

def OutDevice.standbyMonitor : OutDevice → StandbyCallback
  | nexus => .nexus
  | direct => .direct
  | tunnel => .tunnel

/-- `audio_devices_t` -/
inductive AudioDevices where
  | outSpeaker
  | outAuxDigital
  | other
  deriving DecidableEq, Repr

/-- `get_brcm_devices_out`; `none` is `BRCM_DEVICE_OUT_MAX`. -/
def getBrcmDevicesOut (devices : AudioDevices) (tunneled : Bool) : Option OutDevice :=
  match devices with
  | .outSpeaker => some .nexus
  | .outAuxDigital => some (if tunneled then .tunnel else .direct)
  | .other => none

inductive OutFormat where
  | default
  | pcm16Bit
  | ac3
  | eAc3
  | other
  deriving DecidableEq, Repr

structure OutConfig where
  sampleRate : Nat := 48000
  channelMask : Nat := 3
  format : OutFormat := .pcm16Bit
  deriving DecidableEq, Repr

/-- What an open acquires and a close gives back: the join of the client, what it allocates with the handle of that, the
    connection, and so on; `outputMode` is the audio mode that is forced and restored. -/
inductive BoutResource where
  | client
  | allocation
  | connection
  | event
  | standbyCallback
  | playpump
  | stcChannel
  | pidChannel
  | outputMode
  | debugFile
  | pesDebug
  deriving DecidableEq, Repr

inductive BoutEvent where
  | acquire (resource : BoutResource)
  | release (resource : BoutResource)
  deriving DecidableEq, Repr

def acquires (resources : List BoutResource) : List BoutEvent := resources.map .acquire

def releases (resources : List BoutResource) : List BoutEvent := resources.map .release

/-- `nexus.tunnel.stc_channel`; `dummy` is `DUMMY_HW_SYNC`, and `shared` the channel of the device. -/
inductive StcChannel where
  | null
  | own
  | dummy
  | shared
  deriving DecidableEq, Repr

/-- `brcm_owner_t` -/
inductive BrcmOwner where
  | null
  | device
  | output
  deriving DecidableEq, Repr

/-- `brcm_stream_out` with its operations. `id` stands for its address; `destroyed` is the state `BRCM_NEXUS_STATE_DESTROYED`,
    and a pointer is whether it is not `NULL`. -/
structure Bout where
  id : Nat
  device : OutDevice
  config : OutConfig := {}
  outDebugFile : Bool := false
  destroyed : Bool := false
  standbyCallback : Option Nat := none
  event : Bool := false
  playpumpMode : Bool := false
  playpump : Bool := false
  pidChannel : Bool := false
  savedOutputMode : Bool := false
  stcChannel : StcChannel := .null
  stcChannelOwner : BrcmOwner := .null
  pesDebug : Bool := false
  deriving DecidableEq, Repr

/-- The properties and capabilities that the direct backend asks for; `dolbyDecode` and `forcePcm` are each one of two. -/
structure DirectProperties where
  dolbyDecode : Bool := false
  spdifDolby : Bool := false
  decodesAc3 : Bool := false
  decodesEAc3 : Bool := false
  forcePcm : Bool := false
  deriving DecidableEq, Repr

/-- What an open is answered: whether each step succeeds, and the properties. `hwSyncId` is whether the device has a channel,
    `debugFile` and `pesDebug` whether a file is asked for and opened. -/
structure BoutAnswers where
  calloc : Bool := true
  debugFile : Bool := false
  hwSyncId : Bool := false
  join : Bool := true
  alloc : Bool := true
  acquire : Bool := true
  connect : Bool := true
  event : Bool := true
  run : Bool := true
  playpump : Bool := true
  playpumpSettings : Bool := true
  playpumpStatus : Bool := true
  hwSyncFake : Bool := false
  stcChannel : Bool := true
  pidChannel : Bool := true
  pesDebug : Bool := false
  direct : DirectProperties := {}
  deriving DecidableEq, Repr

/-! ### Opening -/

/-- What `do_bout_open` returns: the stream, or `none` for an error. -/
structure BoutOpened where
  bout : Option Bout
  events : List BoutEvent
  monitor : StandbyCallbacks

/-- `UnregisterCallback(bout->standbyCallback)` -/
def unregisterStandby (standbyCallback : Option Nat) (m : StandbyCallbacks) : List BoutEvent × StandbyCallbacks :=
  match standbyCallback with
  | none => ([], m)
  | some id => (if (m.unregisterCallback id).1 then releases [.standbyCallback] else [], (m.unregisterCallback id).2)

/-- The labels from `err_callback` on. -/
def errCallback : List BoutEvent := releases [.event, .connection, .allocation, .client]

/-- What all backends acquire first. -/
def joined : List BoutEvent := acquires [.client, .allocation, .connection, .event]

/-- The label `err_playpump`, behind what was acquired and given back until there. -/
def errPlaypump (events : List BoutEvent) (bout : Bout) (m : StandbyCallbacks) : BoutOpened :=
  { bout := none, events := events ++ (unregisterStandby bout.standbyCallback m).1 ++ errCallback
    monitor := (unregisterStandby bout.standbyCallback m).2 }

/-- The part that the three opens share, up to the registration of the callback; `rest` gets what was acquired. -/
def joinAndRegister (bout : Bout) (a : BoutAnswers) (m : StandbyCallbacks)
    (rest : Bout → List BoutEvent → StandbyCallbacks → BoutOpened) : BoutOpened :=
  if !a.join then { bout := none, events := [], monitor := m }
  else if !a.alloc then { bout := none, events := acquires [.client] ++ releases [.client], monitor := m }
  else if !a.acquire || !a.connect then
    { bout := none, events := acquires [.client, .allocation] ++ releases [.allocation, .client], monitor := m }
  else if !a.event then
    { bout := none
      events := acquires [.client, .allocation, .connection] ++ releases [.connection, .allocation, .client], monitor := m }
  else
    match m.registerCallback bout.device.standbyMonitor bout.id a.run with
    | (none, _, m) => { bout := none, events := joined ++ errCallback, monitor := m }
    | (some id, _, m) =>
      rest { bout with standbyCallback := some id, event := true } (joined ++ acquires [.standbyCallback]) m

/-- `nexus_bout_open` -/
def nexusBoutOpen (bout : Bout) (a : BoutAnswers) (m : StandbyCallbacks) : BoutOpened :=
  joinAndRegister bout a m fun bout events m => { bout := some bout, events, monitor := m }

/-- What `nexus_direct_bout_open` makes of the configuration: `playpump_mode`, or `none` for an error. -/
def directPlaypumpMode (config : OutConfig) (p : DirectProperties) : Option Bool :=
  let sampleRate := if config.sampleRate = 0 then 48000 else config.sampleRate
  let channelMask := if config.channelMask = 0 then 3 else config.channelMask
  match if config.format = .default then .pcm16Bit else config.format with
  | .pcm16Bit => if sampleRate ∈ [48000, 192000, 44100, 176400] ∧ channelMask = 3 then some false else none
  | .ac3 => if p.dolbyDecode && p.decodesAc3 then some true else none
  | .eAc3 => if (p.spdifDolby || p.dolbyDecode) && p.decodesEAc3 then some true else none
  | _ => none

/-- `nexus_direct_bout_open` -/
def directBoutOpen (bout : Bout) (a : BoutAnswers) (m : StandbyCallbacks) : BoutOpened :=
  match directPlaypumpMode bout.config a.direct with
  | none => { bout := none, events := [], monitor := m }
  | some playpumpMode =>
    joinAndRegister bout a m fun bout events m =>
      if !playpumpMode then { bout := some bout, events, monitor := m }
      else if !a.playpump then errPlaypump events bout m
      else if !a.playpumpSettings || !a.pidChannel then
        errPlaypump (events ++ acquires [.playpump] ++ releases [.playpump]) bout m
      else
        { bout := some
            { bout with playpumpMode := true, playpump := true, pidChannel := true, savedOutputMode := a.direct.forcePcm }
          events := events ++ acquires [.playpump, .pidChannel] ++ if a.direct.forcePcm then acquires [.outputMode] else []
          monitor := m }

/-- `nexus_tunnel_bout_open` -/
def tunnelBoutOpen (bout : Bout) (a : BoutAnswers) (m : StandbyCallbacks) : BoutOpened :=
  joinAndRegister bout a m fun bout events m =>
    if !a.playpump then errPlaypump events bout m
    else
      let events := events ++ acquires [.playpump]
      if !a.playpumpSettings || !a.playpumpStatus then errPlaypump (events ++ releases [.playpump]) bout m
      else
        let creates := bout.stcChannelOwner = .output && !a.hwSyncFake
        if creates && !a.stcChannel then errPlaypump (events ++ releases [.playpump]) bout m
        else
          let stcChannel : StcChannel :=
            if bout.stcChannelOwner = .output then if a.hwSyncFake then .dummy else .own else bout.stcChannel
          let events := events ++ if creates then acquires [.stcChannel] else []
          if !a.pidChannel then
            errPlaypump (events ++ (if creates then releases [.stcChannel] else []) ++ releases [.playpump]) bout m
          else
            { bout := some { bout with playpump := true, pidChannel := true, stcChannel, pesDebug := a.pesDebug }
              events := events ++ acquires [.pidChannel] ++ if a.pesDebug then acquires [.pesDebug] else []
              monitor := m }

/-- `do_bout_open` -/
def doBoutOpen (bout : Bout) : BoutAnswers → StandbyCallbacks → BoutOpened :=
  match bout.device with
  | .nexus => nexusBoutOpen bout
  | .direct => directBoutOpen bout
  | .tunnel => tunnelBoutOpen bout

/-! ### Closing -/

structure BoutClosed where
  bout : Bout
  events : List BoutEvent
  monitor : StandbyCallbacks

/-- A close that gives back `before`, the callback, and `after`. -/
def closeAround (bout : Bout) (before after : List BoutResource) (m : StandbyCallbacks) : BoutClosed :=
  { bout, events := releases before ++ (unregisterStandby bout.standbyCallback m).1 ++ releases after
    monitor := (unregisterStandby bout.standbyCallback m).2 }

/-- A resource that there is. -/
def ifHas (has : Bool) (resource : BoutResource) : List BoutResource := if has then [resource] else []

/-- `nexus_bout_close` -/
def nexusBoutClose (bout : Bout) (m : StandbyCallbacks) : BoutClosed :=
  closeAround bout (ifHas bout.event .event) [.connection, .allocation, .client] m

/-- `nexus_direct_bout_close` -/
def directBoutClose (bout : Bout) (m : StandbyCallbacks) : BoutClosed :=
  if bout.destroyed then { bout, events := [], monitor := m }
  else
    let played := if bout.playpumpMode then ifHas bout.pidChannel .pidChannel ++ ifHas bout.playpump .playpump else []
    let closed := closeAround bout (ifHas bout.savedOutputMode .outputMode ++ played ++ ifHas bout.event .event)
      [.connection, .allocation, .client] m
    let bout := if bout.playpumpMode then { bout with pidChannel := false, playpump := false } else bout
    { closed with bout := { bout with destroyed := true } }

/-- `nexus_tunnel_bout_close` -/
def tunnelBoutClose (bout : Bout) (m : StandbyCallbacks) : BoutClosed :=
  if bout.destroyed then { bout, events := [], monitor := m }
  else
    let owned := decide (bout.stcChannelOwner = .output)
    let closed := closeAround bout
      (ifHas bout.pidChannel .pidChannel ++ ifHas (owned && bout.stcChannel = .own) .stcChannel ++
        ifHas bout.playpump .playpump)
      (ifHas bout.event .event ++ [.connection, .allocation, .client] ++ ifHas bout.pesDebug .pesDebug) m
    { closed with bout :=
        { bout with
          pidChannel := false, stcChannel := if owned then .null else bout.stcChannel, playpump := false, pesDebug := false
          destroyed := true } }

/-- `do_bout_close` -/
def doBoutClose (bout : Bout) : StandbyCallbacks → BoutClosed :=
  match bout.device with
  | .nexus => nexusBoutClose bout
  | .direct => directBoutClose bout
  | .tunnel => tunnelBoutClose bout

/-! ### The device -/

/-- `brcm_device`, with what was acquired and released for each stream. Streams have different addresses; `next` is that of the
    next one. -/
structure OutputDevice where
  bouts : OutDevice → Option Bout := fun _ => none
  monitor : StandbyCallbacks := {}
  next : Nat := 0
  log : List (Nat × BoutEvent) := []

namespace OutputDevice

def logged (d : OutputDevice) (id : Nat) (events : List BoutEvent) : OutputDevice :=
  { d with log := d.log ++ events.map fun e => (id, e) }

/-- The device whose stream has to give its resources to the other. -/
def swapped : OutDevice → Option OutDevice
  | .nexus => none
  | .direct => some .tunnel
  | .tunnel => some .direct

/-- The resources swap before a stream is opened: the other stream is closed, and stays in the table. -/
def swap (d : OutputDevice) (device : OutDevice) : OutputDevice :=
  match swapped device with
  | none => d
  | some other =>
    match d.bouts other with
    | none => d
    | some bout =>
      let closed := doBoutClose bout d.monitor
      { d with bouts := Function.update d.bouts other (some closed.bout), monitor := closed.monitor }.logged bout.id closed.events

structure OpenRequest where
  devices : AudioDevices
  direct : Bool := false
  hwAvSync : Bool := false
  config : OutConfig := {}
  deriving DecidableEq, Repr

inductive OpenError where
  | enomem
  | einval
  | ebusy
  deriving DecidableEq, Repr

/-- The stream as `bdev_open_output_stream` sets it up. -/
def newBout (d : OutputDevice) (device : OutDevice) (r : OpenRequest) (a : BoutAnswers) : Bout :=
  let bout : Bout := { id := d.next, device, config := r.config, outDebugFile := a.debugFile }
  if device = .tunnel then
    if a.hwSyncId then { bout with stcChannel := .shared, stcChannelOwner := .device }
    else { bout with stcChannelOwner := .output }
  else bout

/-- `bdev_open_output_stream`; the stream that is returned is told by its address, and with an error `*aout` is `NULL`. -/
def openOutputStream (d : OutputDevice) (r : OpenRequest) (a : BoutAnswers) : Except OpenError Nat × OutputDevice :=
  if !a.calloc then (.error .enomem, d)
  else
    match getBrcmDevicesOut r.devices (r.direct && r.hwAvSync) with
    | none => (.error .einval, { d with next := d.next + 1 })
    | some device =>
      let id := d.next
      let bout := newBout d device r a
      let d := { d with next := d.next + 1 }.logged id (if a.debugFile then acquires [.debugFile] else [])
      let d := d.swap device
      let opened := doBoutOpen bout a d.monitor
      let d := { d with monitor := opened.monitor }.logged id opened.events
      let failed := d.logged id (if a.debugFile then releases [.debugFile] else [])
      match opened.bout with
      | none => (.error .ebusy, failed)
      | some bout =>
        if (d.bouts device).isSome then (.error .ebusy, failed)
        else (.ok id, { d with bouts := Function.update d.bouts device (some bout) })

/-- Where the table has the stream. -/
def find (d : OutputDevice) (id : Nat) : Option Bout :=
  [d.bouts .nexus, d.bouts .direct, d.bouts .tunnel].findSome? fun bout => bout.filter (·.id = id)

/-- `bdev_close_output_stream`; `none` if no stream with this address is open. -/
def closeOutputStream (d : OutputDevice) (id : Nat) : Option OutputDevice :=
  (d.find id).map fun bout =>
    let closed := doBoutClose bout d.monitor
    { d with bouts := Function.update d.bouts bout.device none, monitor := closed.monitor }.logged id
      (closed.events ++ if bout.outDebugFile then releases [.debugFile] else [])

inductive OutputAction where
  | openStream (r : OpenRequest) (a : BoutAnswers)
  | closeStream (id : Nat)
  deriving DecidableEq, Repr

def step (d : OutputDevice) : OutputAction → Option OutputDevice
  | .openStream r a => some (d.openOutputStream r a).2
  | .closeStream id => d.closeOutputStream id

end OutputDevice
end BcmPlatform.Audio
