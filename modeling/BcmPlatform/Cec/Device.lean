import Mathlib.Data.List.Basic

/-! The HDMI-CEC device: it takes CEC messages and hotplug events from the Nexus service, and passes them to the framework or
    not, depending on the standby state and on what the framework has enabled. Each call is one step. -/

namespace BcmPlatform.Cec

def cecAddrBroadcast : UInt8 := 15

def undefinedLogicalAddress : UInt8 := 0xFF

def maxLogicalAddress : UInt8 := 0x0F

def cecMessageBodyMaxLength : Nat := 16

def unknownVendorId : UInt32 := 0

/-- `eCecDeviceType_eInvalid` -/
def cecDeviceTypeInvalid : Int := 8

/-! ### The opcodes, `CEC_MESSAGE_*` -/

def cecFeatureAbort : UInt8 := 0x00
def cecUserControlPressed : UInt8 := 0x44
def cecUserControlReleased : UInt8 := 0x45
def cecGivePhysicalAddress : UInt8 := 0x83
def cecReportPhysicalAddress : UInt8 := 0x84
def cecSetStreamPath : UInt8 := 0x86
def cecDeviceVendorId : UInt8 := 0x87
def cecGiveDeviceVendorId : UInt8 := 0x8C
def cecGiveDevicePowerStatus : UInt8 := 0x8F
def cecReportPowerStatus : UInt8 := 0x90
def cecInactiveSource : UInt8 := 0x9D
def cecVersionOpcode : UInt8 := 0x9E
def cecGetCecVersion : UInt8 := 0x9F

/-- `CEC_UI_COMMAND_POWER`, `CEC_UI_COMMAND_POWER_ON` and `CEC_UI_COMMAND_POWER_TOGGLE` -/
def cecUiCommandsPower : List UInt8 := [0x40, 0x6D, 0x6B]

/-- `hdmiCecMessage_t`, as the Nexus service sends it; `body` is what is in memory. -/
structure HdmiCecMessage where
  initiator : UInt8
  destination : UInt8
  length : Nat
  body : List UInt8
  deriving DecidableEq, Repr

/-- `cec_message_t` -/
structure CecMessage where
  initiator : UInt8
  destination : UInt8
  length : Nat
  body : List UInt8
  deriving DecidableEq, Repr

/-- A byte of the body, which is zero where nothing was written. -/
def CecMessage.byte (i : Nat) (m : CecMessage) : UInt8 := m.body.getD i 0

def CecMessage.opcode (m : CecMessage) : UInt8 := m.byte 0

def toCecLogicalAddressT (addr : UInt8) : UInt8 := if addr ≤ maxLogicalAddress then addr else 15

/-- An answer to the initiator of the message. -/
def CecMessage.back (body : List UInt8) (m : CecMessage) : CecMessage :=
  { initiator := m.destination, destination := m.initiator, length := body.length, body }

/-- An answer that everybody gets. -/
def CecMessage.report (body : List UInt8) (m : CecMessage) : CecMessage :=
  { initiator := m.destination, destination := cecAddrBroadcast, length := body.length, body }

/-- The checks at the beginning of `handleCecMessage`. -/
def HdmiCecMessage.inRange (m : HdmiCecMessage) : Bool :=
  m.initiator ≤ maxLogicalAddress && m.destination ≤ maxLogicalAddress && m.length ≤ cecMessageBodyMaxLength

/-- The message with a cleared body into which `length` bytes are copied. -/
def HdmiCecMessage.toCecMessage (m : HdmiCecMessage) : CecMessage where
  initiator := toCecLogicalAddressT m.initiator
  destination := toCecLogicalAddressT m.destination
  length := m.length
  body := m.body.take m.length

/-- `b_cecStatus` -/
structure CecStatus where
  physicalAddress : UInt8 × UInt8
  cecVersion : UInt8
  deriving DecidableEq, Repr

/-- `ePowerState_*` -/
inductive PowerState where
  | s0
  | s05
  | s1
  | s2
  | s3
  | s4
  | s5
  deriving DecidableEq, Repr

/-- What the Nexus service answers while a message is handled, and the property with the vendor id. The status is asked for
    the wake-up check and for a reply. -/
structure IpcAnswers where
  wakeStatus : Option CecStatus := none
  powerStatus : Option PowerState := none
  replyStatus : Option CecStatus := none
  deviceType : Int := 4
  vendorId : UInt32 := 0x18C086
  deriving DecidableEq, Repr

/-- What the device does: it calls the framework, it emits the wake-up key, it sends a message, it sets the power state. -/
inductive CecOutput where
  | event (m : CecMessage)
  | hotplug (connected : Bool)
  | wakeupKey (pressed : Bool)
  | sent (m : CecMessage)
  | powerState (state : PowerState)
  deriving DecidableEq, Repr

/-- `NexusHdmiCecDevice`; `hotplugConnected` is empty before the first event, and `hotplugWakeup` is the property that is
    read once. `outputs` is a history. -/
structure CecDevice where
  hotplugWakeup : Bool
  cecLogicalAddr : UInt8 := undefinedLogicalAddress
  cecVendorId : UInt32 := unknownVendorId
  cecEnable : Bool := false
  cecSystemControlEnable : Bool := true
  cecViewOnCmdPending : Bool := false
  standby : Bool := false
  hotplugConnected : Option Bool := none
  callback : Bool := false
  outputs : List CecOutput := []
  deriving DecidableEq, Repr

namespace CecDevice

def emit (outputs : List CecOutput) (s : CecDevice) : CecDevice := { s with outputs := s.outputs ++ outputs }

def fireEventCallback (e : CecOutput) (s : CecDevice) : CecDevice := if s.callback then s.emit [e] else s

def fireHotplugCallback (connected : Bool) (s : CecDevice) : CecDevice :=
  ({ s with hotplugConnected := some connected } : CecDevice).fireEventCallback (.hotplug connected)

def isValidWakeupCecMessage (status : Option CecStatus) (m : CecMessage) (s : CecDevice) : Bool :=
  if m.opcode = cecSetStreamPath then
    m.destination = cecAddrBroadcast && status.any fun st => st.physicalAddress = (m.byte 1, m.byte 2)
  else if m.opcode = cecUserControlPressed then
    s.cecLogicalAddr = m.destination && cecUiCommandsPower.contains (m.byte 1)
  else false

def sendCecMessage (m : CecMessage) (s : CecDevice) : CecDevice := if s.cecEnable then s.emit [.sent m] else s

def getCecVendorId (property : UInt32) (s : CecDevice) : CecDevice :=
  if s.cecVendorId = unknownVendorId then { s with cecVendorId := property } else s

/-- What `processCecMessage` answers to a message that has the address of the device, if anything. -/
def reply (a : IpcAnswers) (m : CecMessage) (s : CecDevice) : Option CecMessage :=
  if [cecUserControlPressed, cecUserControlReleased, cecInactiveSource].contains m.opcode then none
  else if m.opcode = cecGiveDevicePowerStatus then some (m.back [cecReportPowerStatus, if s.standby then 0x01 else 0x00])
  else if m.opcode = cecGiveDeviceVendorId then
    let vendorId := (s.getCecVendorId a.vendorId).cecVendorId
    some (m.report [cecDeviceVendorId, (vendorId >>> 16).toUInt8, (vendorId >>> 8).toUInt8, vendorId.toUInt8])
  else if m.opcode = cecGivePhysicalAddress then
    a.replyStatus.bind fun st =>
      if 0 ≤ a.deviceType && a.deviceType < cecDeviceTypeInvalid then
        some (m.report [cecReportPhysicalAddress, st.physicalAddress.1, st.physicalAddress.2, a.deviceType.toNat.toUInt8])
      else none
  else if m.opcode = cecGetCecVersion then a.replyStatus.map fun st => m.back [cecVersionOpcode, st.cecVersion]
  else some (m.back [cecFeatureAbort, m.opcode, 0x01])

def processCecMessage (a : IpcAnswers) (m : CecMessage) (s : CecDevice) : CecDevice :=
  if s.cecLogicalAddr ≠ m.destination then s
  else
    let s' := if m.opcode = cecGiveDeviceVendorId then s.getCecVendorId a.vendorId else s
    match s.reply a m with
    | some tx => s'.sendCecMessage tx
    | none => s'

/-- The message in standby: whether it is forwarded with a wake-up key, and the device then. -/
def checkWakeup (a : IpcAnswers) (m : CecMessage) (s : CecDevice) : Bool × CecDevice :=
  if s.isValidWakeupCecMessage a.wakeStatus m then (true, { s with standby := false })
  else (false, if a.powerStatus = some .s0 then s.processCecMessage a m else s)

def handleCecMessage (a : IpcAnswers) (msg : HdmiCecMessage) (s : CecDevice) : CecDevice :=
  if !msg.inRange then s
  else
    let m := msg.toCecMessage
    let forwardCecMessage := s.cecEnable && s.cecSystemControlEnable
    if s.standby then
      let (wakeup, s) := s.checkWakeup a m
      if wakeup then (s.fireEventCallback (.event m)).emit [.wakeupKey true, .wakeupKey false] else s
    else if forwardCecMessage then s.fireEventCallback (.event m)
    else s

def onHdmiHotplugEventReceived (connected : Bool) (s : CecDevice) : CecDevice :=
  if s.hotplugConnected = some connected then s
  else if !s.standby || s.hotplugWakeup then s.fireHotplugCallback connected
  else s

def standbyMonitor (s : CecDevice) : CecDevice := { s with standby := true }

/-- `setCecLogicalAddress`; `added` and `powered` are what the Nexus service answers. -/
def setCecLogicalAddress (addr : UInt8) (added powered : Bool) (s : CecDevice) : CecDevice :=
  if s.cecEnable && s.cecSystemControlEnable && !added then s
  else
    let s := { s with cecLogicalAddr := addr }
    if addr ≠ undefinedLogicalAddress && s.cecViewOnCmdPending then
      { s with cecViewOnCmdPending := !powered }.emit [.powerState .s0]
    else s

def setEnableState (enable isCecEnabled : Bool) (s : CecDevice) : CecDevice := { s with cecEnable := isCecEnabled && enable }

/-- `setControlState`; `transmit` is the property for the command that is sent on entering or leaving standby. -/
def setControlState (enable transmit : Bool) (s : CecDevice) : CecDevice :=
  let s := { s with cecSystemControlEnable := enable, standby := !enable }
  if enable then
    if transmit && s.cecLogicalAddr = undefinedLogicalAddress then { s with cecViewOnCmdPending := true }
    else if transmit then s.emit [.powerState .s0]
    else s
  else
    let s := { s with cecViewOnCmdPending := false }
    if transmit then s.emit [.powerState .s3] else s

end CecDevice

/-- The calls of the Nexus service, of the standby monitor and of the framework. -/
inductive CecAction where
  | message (a : IpcAnswers) (msg : HdmiCecMessage)
  | hotplug (connected : Bool)
  | standbyMonitor
  | setCecLogicalAddress (addr : UInt8) (added powered : Bool)
  | setEnableState (enable isCecEnabled : Bool)
  | setControlState (enable transmit : Bool)
  deriving DecidableEq, Repr

namespace CecDevice

def act (s : CecDevice) : CecAction → CecDevice
  | .message a msg => s.handleCecMessage a msg
  | .hotplug connected => s.onHdmiHotplugEventReceived connected
  | .standbyMonitor => s.standbyMonitor
  | .setCecLogicalAddress addr added powered => s.setCecLogicalAddress addr added powered
  | .setEnableState enable isCecEnabled => s.setEnableState enable isCecEnabled
  | .setControlState enable transmit => s.setControlState enable transmit

/-- The device after it was initialised; `callback` tells whether the framework has registered its callback. -/
def init (hotplugWakeup callback isCecEnabled : Bool) : CecDevice :=
  { hotplugWakeup, callback, cecEnable := isCecEnabled }

end CecDevice
end BcmPlatform.Cec
