import BcmPlatform.Cec.Device
import BcmPlatform.Lib.Runs

/-! What standby does to CEC messages and hotplug events. A message wakes the device up only if it says so, but the bytes that
    it does not have count as zeros; and only an address that is nobody's makes the device answer a broadcast. -/

namespace BcmPlatform.Cec
open Lib

/-- The bytes that a wake-up message needs, its opcode among them. -/
def CecMessage.operandLength (m : CecMessage) : Nat :=
  if m.opcode = cecSetStreamPath then 3 else if m.opcode = cecUserControlPressed then 2 else 1

theorem toCecLogicalAddressT_of_le {addr : UInt8} (h : addr ≤ maxLogicalAddress) : toCecLogicalAddressT addr = addr :=
  if_pos h

namespace CecDevice
variable {a : IpcAnswers} {m : CecMessage} {msg : HdmiCecMessage} {s : CecDevice}

/-! ### What the calls emit -/

theorem fireEventCallback_outputs (e : CecOutput) (s : CecDevice) :
    (s.fireEventCallback e).outputs = s.outputs ++ if s.callback then [e] else [] := by
  unfold fireEventCallback
  split <;> simp [emit]

theorem fireEventCallback_standby (e : CecOutput) (s : CecDevice) : (s.fireEventCallback e).standby = s.standby := by
  unfold fireEventCallback
  split <;> rfl

@[simp] theorem getCecVendorId_outputs (property : UInt32) (s : CecDevice) :
    (s.getCecVendorId property).outputs = s.outputs := by
  unfold getCecVendorId
  split <;> rfl

@[simp] theorem getCecVendorId_cecEnable (property : UInt32) (s : CecDevice) :
    (s.getCecVendorId property).cecEnable = s.cecEnable := by
  unfold getCecVendorId
  split <;> rfl

@[simp] theorem getCecVendorId_standby (property : UInt32) (s : CecDevice) :
    (s.getCecVendorId property).standby = s.standby := by
  unfold getCecVendorId
  split <;> rfl

theorem reply_initiator {tx : CecMessage} (h : s.reply a m = some tx) : tx.initiator = m.destination := by
  unfold reply at h
  split at h
  · cases h
  · split at h
    · cases h
      rfl
    · split at h
      · cases h
        rfl
      · split at h
        · obtain ⟨st, -, h⟩ := Option.bind_eq_some_iff.mp h
          split at h <;> cases h
          rfl
        · split at h
          · obtain ⟨st, -, rfl⟩ := Option.map_eq_some_iff.mp h
            rfl
          · cases h
            rfl

/-- There is an answer to a message with this opcode. -/
def hasAnswer (a : IpcAnswers) (opcode : UInt8) : Bool :=
  !([cecUserControlPressed, cecUserControlReleased, cecInactiveSource].contains opcode) &&
    (opcode ≠ cecGivePhysicalAddress ||
      a.replyStatus.isSome && (0 ≤ a.deviceType && a.deviceType < cecDeviceTypeInvalid)) &&
    (opcode ≠ cecGetCecVersion || a.replyStatus.isSome)

theorem reply_isSome : (s.reply a m).isSome = hasAnswer a m.opcode := by
  unfold reply hasAnswer
  split
  · next hignored => rw [hignored]; rfl
  · next hanswered =>
    rw [Bool.eq_false_iff.mpr hanswered]
    split
    · next hpower => rw [hpower]; rfl
    · split
      · next hvendor => rw [hvendor]; rfl
      · split
        · next hphysical =>
          rw [hphysical]
          cases a.replyStatus with
          | none => rfl
          | some st =>
            simp only [Option.bind_some]
            split
            · next htype => simp [htype, cecGivePhysicalAddress, cecGetCecVersion]
            · next htype => simp [Bool.eq_false_iff.mpr htype]
        · next hphysical =>
          split
          · next hversion =>
            rw [hversion]
            cases a.replyStatus <;> rfl
          · next hversion => simp [hphysical, hversion]

@[simp] theorem sendCecMessage_standby (tx : CecMessage) (s : CecDevice) :
    (s.sendCecMessage tx).standby = s.standby := by
  unfold sendCecMessage
  split <;> rfl

theorem processCecMessage_standby (a : IpcAnswers) (m : CecMessage) (s : CecDevice) :
    (s.processCecMessage a m).standby = s.standby := by
  unfold processCecMessage
  split
  · rfl
  · have hvendor : (if m.opcode = cecGiveDeviceVendorId then s.getCecVendorId a.vendorId else s).standby = s.standby := by
      split <;> simp
    dsimp only
    split
    · exact (sendCecMessage_standby _ _).trans hvendor
    · exact hvendor

theorem processCecMessage_outputs (a : IpcAnswers) (m : CecMessage) (s : CecDevice) :
    (s.processCecMessage a m).outputs = s.outputs ++
      if s.cecLogicalAddr = m.destination && s.cecEnable then (s.reply a m).toList.map .sent else [] := by
  unfold processCecMessage
  split
  · next haddr => simp [haddr]
  · next haddr =>
    generalize hs' : (if m.opcode = cecGiveDeviceVendorId then s.getCecVendorId a.vendorId else s) = s'
    have hkept : s'.cecEnable = s.cecEnable ∧ s'.outputs = s.outputs := by
      rw [← hs']
      split <;> simp
    dsimp only
    rw [not_not.mp haddr, ← hkept.1, ← hkept.2]
    cases s.reply a m with
    | none => simp
    | some tx =>
      dsimp only [sendCecMessage]
      split
      · next henabled => simp [emit, henabled]
      · next hdisabled => simp [hdisabled]

/-! ### Messages -/

/-- What is promised about a message: whether it is forwarded, whether it wakes the device up, and what is answered. -/
structure MessageGated (a : IpcAnswers) (msg : HdmiCecMessage) (s : CecDevice) : Prop where
  /-- A message that is out of range is not handled. -/
  rejected : msg.inRange = false → s.handleCecMessage a msg = s
  /-- Out of standby a message is forwarded if CEC and the system control are enabled. -/
  awake : msg.inRange = true → s.standby = false →
    (s.handleCecMessage a msg).standby = false ∧ (s.handleCecMessage a msg).outputs = s.outputs ++
      if s.callback && s.cecEnable && s.cecSystemControlEnable then [.event msg.toCecMessage] else []
  /-- In standby a wake-up message is forwarded with one wake-up key, and the standby is over. -/
  wakes : msg.inRange = true → s.standby = true → s.isValidWakeupCecMessage a.wakeStatus msg.toCecMessage = true →
    (s.handleCecMessage a msg).standby = false ∧ (s.handleCecMessage a msg).outputs = s.outputs ++
      (if s.callback then [.event msg.toCecMessage] else []) ++ [.wakeupKey true, .wakeupKey false]
  /-- Any other message is at most answered: once, if it has the address of the device, and from there. -/
  stays : msg.inRange = true → s.standby = true → s.isValidWakeupCecMessage a.wakeStatus msg.toCecMessage = false →
    (s.handleCecMessage a msg).standby = true ∧ ((s.handleCecMessage a msg).outputs = s.outputs ∨
      ∃ tx, (s.handleCecMessage a msg).outputs = s.outputs ++ [.sent tx] ∧ tx.initiator = s.cecLogicalAddr ∧
        msg.destination = s.cecLogicalAddr ∧ s.cecLogicalAddr ≠ undefinedLogicalAddress ∧
        msg.destination ≠ cecAddrBroadcast)
  /-- A wake-up message has its operand. -/
  operand : msg.inRange = true → s.standby = true → s.isValidWakeupCecMessage a.wakeStatus msg.toCecMessage = true →
    msg.toCecMessage.operandLength ≤ msg.length
  /-- The bytes behind the body do not count. -/
  bodyOnly : ∀ msg' : HdmiCecMessage, msg'.initiator = msg.initiator → msg'.destination = msg.destination →
    msg'.length = msg.length → msg'.body.take msg'.length = msg.body.take msg.length →
    s.isValidWakeupCecMessage a.wakeStatus msg'.toCecMessage = s.isValidWakeupCecMessage a.wakeStatus msg.toCecMessage

/-- A broadcast stream path that is too short, and matches the physical address with zeros for the bytes that it lacks. -/
def shortPath (a : IpcAnswers) (msg : HdmiCecMessage) : Bool :=
  msg.toCecMessage.opcode = cecSetStreamPath && msg.length < 3 && msg.destination = cecAddrBroadcast &&
    a.wakeStatus.any fun st => st.physicalAddress = (msg.toCecMessage.byte 1, msg.toCecMessage.byte 2)

/-- A broadcast that is answered, as the logical address is that of a broadcast. -/
def ownBroadcast (a : IpcAnswers) (msg : HdmiCecMessage) (s : CecDevice) : Bool :=
  msg.destination = cecAddrBroadcast && s.cecLogicalAddr = cecAddrBroadcast && s.cecEnable &&
    a.powerStatus = some .s0 && hasAnswer a msg.toCecMessage.opcode &&
    !s.isValidWakeupCecMessage a.wakeStatus msg.toCecMessage

/-- A message that is handled in standby is neither. -/
def wellAddressed (a : IpcAnswers) (msg : HdmiCecMessage) (s : CecDevice) : Bool :=
  !(msg.inRange && s.standby) || !shortPath a msg && !s.ownBroadcast a msg

theorem destination_of_inRange (h : msg.inRange = true) : msg.toCecMessage.destination = msg.destination := by
  simp only [HdmiCecMessage.inRange, Bool.and_eq_true, decide_eq_true_eq] at h
  exact toCecLogicalAddressT_of_le h.1.2

theorem byte_of_length_le {i : Nat} (h : msg.length ≤ i) : msg.toCecMessage.byte i = 0 := by
  have hnone : (msg.body.take msg.length)[i]? = none := by
    rw [List.getElem?_eq_none_iff, List.length_take]
    omega
  rw [CecMessage.byte, HdmiCecMessage.toCecMessage, List.getD_eq_getElem?_getD, hnone]
  rfl

theorem operand_of_valid (hrange : msg.inRange = true) (hpath : shortPath a msg = false)
    (hvalid : s.isValidWakeupCecMessage a.wakeStatus msg.toCecMessage = true) :
    msg.toCecMessage.operandLength ≤ msg.length := by
  by_contra hshort
  unfold isValidWakeupCecMessage at hvalid
  unfold CecMessage.operandLength at hshort
  split_ifs at hvalid hshort with hopcode hpressed
  · rw [destination_of_inRange hrange, Bool.and_eq_true] at hvalid
    simp [shortPath, hopcode, Nat.lt_of_not_le hshort, of_decide_eq_true hvalid.1, hvalid.2] at hpath
  · -- The command of a short user control is zero, and that is no power key.
    have hzero : msg.toCecMessage.byte 1 = 0 := byte_of_length_le (by omega)
    rw [hzero] at hvalid
    simp [cecUiCommandsPower] at hvalid

theorem valid_of_shortPath (hrange : msg.inRange = true) (hpath : shortPath a msg = true) :
    s.isValidWakeupCecMessage a.wakeStatus msg.toCecMessage = true := by
  simp only [shortPath, Bool.and_eq_true, decide_eq_true_eq] at hpath
  obtain ⟨⟨⟨hopcode, -⟩, hdest⟩, hphysical⟩ := hpath
  simp only [isValidWakeupCecMessage, hopcode, if_true, destination_of_inRange hrange, hdest, decide_true, Bool.true_and]
  exact hphysical

theorem outputs_of_invalid (hrange : msg.inRange = true) (hstandby : s.standby = true)
    (hvalid : s.isValidWakeupCecMessage a.wakeStatus msg.toCecMessage = false) :
    (s.handleCecMessage a msg).standby = true ∧ (s.handleCecMessage a msg).outputs = s.outputs ++
      if s.cecLogicalAddr = msg.destination && s.cecEnable && a.powerStatus = some .s0 then
        (s.reply a msg.toCecMessage).toList.map .sent
      else [] := by
  simp only [handleCecMessage, checkWakeup, hrange, hstandby, hvalid, Bool.not_true, Bool.false_eq_true, if_false, if_true]
  split
  · next hpower =>
    rw [processCecMessage_standby, processCecMessage_outputs, destination_of_inRange hrange]
    simp [hstandby, hpower]
  · next hpower => simp [hstandby, hpower]

theorem messageGated (hok : s.wellAddressed a msg = true) : s.MessageGated a msg where
  rejected hrange := by simp [handleCecMessage, hrange]
  awake hrange hstandby := by
    simp only [handleCecMessage, hrange, hstandby, Bool.not_true, Bool.false_eq_true, if_false]
    split
    · next henabled =>
      rw [Bool.and_eq_true] at henabled
      refine ⟨by rw [fireEventCallback_standby, hstandby], ?_⟩
      rw [fireEventCallback_outputs, henabled.1, henabled.2, Bool.and_true, Bool.and_true]
    · next hdisabled =>
      refine ⟨hstandby, ?_⟩
      rw [Bool.and_assoc, Bool.eq_false_iff.mpr hdisabled, Bool.and_false]
      simp
  wakes hrange hstandby hvalid := by
    simp only [handleCecMessage, checkWakeup, hrange, hstandby, hvalid, Bool.not_true, Bool.false_eq_true, if_false, if_true]
    refine ⟨by rw [emit, fireEventCallback_standby], ?_⟩
    rw [emit, fireEventCallback_outputs]
  stays hrange hstandby hvalid := by
    obtain ⟨hkept, houtputs⟩ := outputs_of_invalid hrange hstandby hvalid
    refine ⟨hkept, ?_⟩
    rw [houtputs]
    split
    · next hasked =>
      simp only [Bool.and_eq_true, decide_eq_true_eq] at hasked
      obtain ⟨⟨haddr, henabled⟩, hpower⟩ := hasked
      cases hreply : s.reply a msg.toCecMessage with
      | none => exact .inl (List.append_nil _)
      | some tx =>
        have hinit := (reply_initiator hreply).trans (destination_of_inRange hrange)
        refine .inr ⟨tx, rfl, hinit.trans haddr.symm, haddr.symm, ?_, fun hbroadcast => ?_⟩
        · rintro hundefined
          simp only [HdmiCecMessage.inRange, Bool.and_eq_true, decide_eq_true_eq, ← haddr, hundefined] at hrange
          exact absurd hrange.1.2 (by decide)
        · -- This is the answer to a broadcast that the condition excludes.
          have hanswer : hasAnswer a msg.toCecMessage.opcode = true := by
            rw [← reply_isSome (s := s), hreply]
            rfl
          simp [wellAddressed, ownBroadcast, hrange, hstandby, haddr, hbroadcast, henabled, hpower, hanswer, hvalid] at hok
    · exact .inl (List.append_nil _)
  operand hrange hstandby hvalid := by
    refine operand_of_valid hrange (Bool.eq_false_iff.mpr fun hpath => ?_) hvalid
    simp [wellAddressed, hrange, hstandby, hpath] at hok
  bodyOnly msg' hinit hdest hlength hbody := by
    simp only [HdmiCecMessage.toCecMessage, hinit, hdest, hlength] at hbody ⊢
    rw [hbody]

theorem MessageGated.wellAddressed (h : s.MessageGated a msg) : s.wellAddressed a msg = true := by
  by_contra hbad
  simp only [CecDevice.wellAddressed, Bool.or_eq_true, Bool.not_eq_true', Bool.and_eq_true, Bool.and_eq_false_iff, not_or,
    not_and_or, Bool.not_eq_false] at hbad
  obtain ⟨⟨hrange, hstandby⟩, hpath | hown⟩ := hbad
  · have hlength := h.operand hrange hstandby (valid_of_shortPath hrange hpath)
    simp only [shortPath, Bool.and_eq_true, decide_eq_true_eq] at hpath
    rw [CecMessage.operandLength, if_pos hpath.1.1.1] at hlength
    exact absurd hpath.1.1.2 (Nat.not_lt.mpr hlength)
  · simp only [ownBroadcast, Bool.and_eq_true, Bool.not_eq_true', decide_eq_true_eq] at hown
    obtain ⟨⟨⟨⟨⟨hdest, haddr⟩, henabled⟩, hpower⟩, hanswer⟩, hvalid⟩ := hown
    obtain ⟨tx, hreply⟩ := Option.isSome_iff_exists.mp ((reply_isSome (s := s)).trans hanswer)
    have hsent : (s.handleCecMessage a msg).outputs = s.outputs ++ [.sent tx] := by
      rw [(outputs_of_invalid hrange hstandby hvalid).2]
      simp [haddr, hdest, henabled, hpower, hreply]
    rcases (h.stays hrange hstandby hvalid).2 with hnone | ⟨tx', -, -, -, -, hbroadcast⟩
    · rw [hsent] at hnone
      simp at hnone
    · exact hbroadcast hdest

/-! ### Hotplug events -/

/-- The state that the framework was told last. -/
def lastHotplug (outputs : List CecOutput) : Option Bool :=
  outputs.foldl (fun last e => match e with
    | .hotplug connected => some connected
    | _ => last) none

theorem lastHotplug_append (outputs new : List CecOutput) (h : ∀ connected, .hotplug connected ∉ new) :
    lastHotplug (outputs ++ new) = lastHotplug outputs := by
  unfold lastHotplug
  rw [List.foldl_append]
  induction new with
  | nil => rfl
  | cons e new ih =>
    rw [List.foldl_cons]
    cases e with
    | hotplug connected => exact absurd List.mem_cons_self (h connected)
    | event | wakeupKey | sent | powerState => exact ih fun connected hmem => h connected (List.mem_cons_of_mem _ hmem)

/-- The framework has its callback registered, and was told the state that the device has. -/
structure Told (s : CecDevice) : Prop where
  callback : s.callback = true
  last : lastHotplug s.outputs = s.hotplugConnected

/-- What is promised about a hotplug event: out of standby, or when it may wake the device up, the framework knows the state
    after it, whatever was suppressed before; else nothing happens. -/
structure HotplugGated (connected : Bool) (s : CecDevice) : Prop where
  told : (s.standby = false ∨ s.hotplugWakeup = true) →
    lastHotplug (s.onHdmiHotplugEventReceived connected).outputs = some connected
  suppressed : s.standby = true → s.hotplugWakeup = false → s.onHdmiHotplugEventReceived connected = s

theorem Told.hotplugGated (h : s.Told) (connected : Bool) : s.HotplugGated connected where
  told hopen := by
    unfold onHdmiHotplugEventReceived
    split
    · next hsame => exact h.last.trans hsame
    · have hpass : (!s.standby || s.hotplugWakeup) = true := by simpa using hopen
      simp [hpass, fireHotplugCallback, fireEventCallback, h.callback, emit, lastHotplug]
  suppressed hstandby hwakeup := by
    simp [onHdmiHotplugEventReceived, hstandby, hwakeup]

/-- A call that tells the framework nothing about hotplug. -/
structure Quiet (s s' : CecDevice) : Prop where
  callback : s'.callback = s.callback
  connected : s'.hotplugConnected = s.hotplugConnected
  outputs : ∃ new, s'.outputs = s.outputs ++ new ∧ ∀ connected, .hotplug connected ∉ new

namespace Quiet
variable {s s' s'' : CecDevice}

theorem of_outputs (hcallback : s'.callback = s.callback) (hconnected : s'.hotplugConnected = s.hotplugConnected)
    (houtputs : s'.outputs = s.outputs) : Quiet s s' :=
  ⟨hcallback, hconnected, [], by rw [houtputs, List.append_nil], nofun⟩

theorem trans (h : Quiet s s') (h' : Quiet s' s'') : Quiet s s'' := by
  obtain ⟨hcallback, hconnected, new, houtputs, hnew⟩ := h
  obtain ⟨hcallback', hconnected', new', houtputs', hnew'⟩ := h'
  refine ⟨hcallback'.trans hcallback, hconnected'.trans hconnected, new ++ new', ?_, fun connected hmem => ?_⟩
  · rw [houtputs', houtputs, List.append_assoc]
  · exact (List.mem_append.mp hmem).elim (hnew connected) (hnew' connected)

theorem emit (s : CecDevice) {new : List CecOutput} (hnew : ∀ connected, .hotplug connected ∉ new) : Quiet s (s.emit new) :=
  ⟨rfl, rfl, new, rfl, hnew⟩

theorem fireEventCallback (s : CecDevice) (m : CecMessage) : Quiet s (s.fireEventCallback (.event m)) := by
  unfold CecDevice.fireEventCallback
  split
  · exact emit s (by simp)
  · exact of_outputs rfl rfl rfl

theorem sendCecMessage (tx : CecMessage) (s : CecDevice) : Quiet s (s.sendCecMessage tx) := by
  unfold CecDevice.sendCecMessage
  split
  · exact emit s (by simp)
  · exact of_outputs rfl rfl rfl

theorem processCecMessage (a : IpcAnswers) (m : CecMessage) (s : CecDevice) : Quiet s (s.processCecMessage a m) := by
  have hvendor : Quiet s (if m.opcode = cecGiveDeviceVendorId then s.getCecVendorId a.vendorId else s) := by
    split
    · unfold getCecVendorId
      split <;> exact of_outputs rfl rfl rfl
    · exact of_outputs rfl rfl rfl
  unfold CecDevice.processCecMessage
  split
  · exact of_outputs rfl rfl rfl
  · dsimp only
    split
    · exact hvendor.trans (sendCecMessage _ _)
    · exact hvendor

theorem handleCecMessage (a : IpcAnswers) (msg : HdmiCecMessage) (s : CecDevice) : Quiet s (s.handleCecMessage a msg) := by
  unfold CecDevice.handleCecMessage
  split
  · exact of_outputs rfl rfl rfl
  · dsimp only
    split
    · unfold checkWakeup
      split
      · have hawake : Quiet s { s with standby := false } := of_outputs rfl rfl rfl
        exact hawake.trans ((fireEventCallback _ _).trans (emit _ (by simp)))
      · simp only [Bool.false_eq_true, if_false]
        split
        · exact processCecMessage a _ s
        · exact of_outputs rfl rfl rfl
    · split
      · exact fireEventCallback s _
      · exact of_outputs rfl rfl rfl

theorem setCecLogicalAddress (addr : UInt8) (added powered : Bool) (s : CecDevice) :
    Quiet s (s.setCecLogicalAddress addr added powered) := by
  unfold CecDevice.setCecLogicalAddress
  split
  · exact of_outputs rfl rfl rfl
  · dsimp only
    split
    · exact ⟨rfl, rfl, [.powerState .s0], rfl, by simp⟩
    · exact of_outputs rfl rfl rfl

theorem setControlState (enable transmit : Bool) (s : CecDevice) : Quiet s (s.setControlState enable transmit) := by
  unfold CecDevice.setControlState
  cases enable with
  | true =>
    simp only [if_true]
    split
    · exact of_outputs rfl rfl rfl
    · split
      · exact ⟨rfl, rfl, [.powerState .s0], rfl, by simp⟩
      · exact of_outputs rfl rfl rfl
  | false =>
    simp only [Bool.false_eq_true, if_false]
    split
    · exact ⟨rfl, rfl, [.powerState .s3], rfl, by simp⟩
    · exact of_outputs rfl rfl rfl

end Quiet

theorem Told.of_quiet {s' : CecDevice} (h : s.Told) (hquiet : Quiet s s') : s'.Told := by
  obtain ⟨hcallback, hconnected, new, houtputs, hnew⟩ := hquiet
  exact ⟨hcallback.trans h.callback, by rw [houtputs, lastHotplug_append _ _ hnew, h.last, hconnected]⟩

theorem Told.act (h : s.Told) (action : CecAction) : (s.act action).Told := by
  cases action with
  | message a msg => exact h.of_quiet (Quiet.handleCecMessage a msg s)
  | hotplug connected =>
    simp only [CecDevice.act, onHdmiHotplugEventReceived]
    split
    · exact h
    · split
      · refine ⟨?_, ?_⟩ <;> simp [fireHotplugCallback, fireEventCallback, h.callback, emit, lastHotplug]
      · exact h
  | standbyMonitor => exact h.of_quiet (Quiet.of_outputs rfl rfl rfl)
  | setCecLogicalAddress addr added powered => exact h.of_quiet (Quiet.setCecLogicalAddress addr added powered s)
  | setEnableState enable isCecEnabled => exact h.of_quiet (Quiet.of_outputs rfl rfl rfl)
  | setControlState enable transmit => exact h.of_quiet (Quiet.setControlState enable transmit s)

/-! ### Runs -/

/-- In every state of every run, what is promised about a message holds of it if and only if it is well addressed, and with
    a registered callback what is promised about hotplug events holds of every one of them. -/
theorem cec_gated (hotplugWakeup callback isCecEnabled : Bool) (s : CecDevice)
    (h : Reaches (fun s a => some (s.act a)) (fun _ _ => True) (init hotplugWakeup callback isCecEnabled) s) :
    (∀ a msg, s.MessageGated a msg ↔ s.wellAddressed a msg = true) ∧
      (callback = true → ∀ connected, s.HotplugGated connected) := by
  refine ⟨fun a msg => ⟨fun hgated => hgated.wellAddressed, messageGated⟩, fun hcallback => ?_⟩
  have htold : s.Told := by
    refine h.invariant (P := Told) ⟨hcallback, rfl⟩ fun s a s' hs _ hstep => ?_
    cases hstep
    exact hs.act a
  exact htold.hotplugGated

/-- A user control in standby wakes the device up, which has the address 4. -/
theorem cec_gated_power : ∃ s : CecDevice, s.standby = true ∧
    s.MessageGated {} { initiator := 0, destination := 4, length := 2, body := [0x44, 0x40] } := by
  obtain ⟨s, hs, hp⟩ := Reaches.exists_of_run (fun s a => some (act s a)) (fun _ _ => true) (init false true true)
    [.setCecLogicalAddress 4 true true, .standbyMonitor] (fun s => s.standby = true) (by decide)
  refine ⟨s, of_decide_eq_true hp, ((cec_gated false true true s (hs.mono fun _ _ _ => trivial)).1 {} _).mpr ?_⟩
  simp [wellAddressed, shortPath, ownBroadcast, cecAddrBroadcast]

/-- A stream path with half of its operand wakes the device up whose physical address is `1.0.0.0`. -/
theorem cec_wakes_without_operand : ∃ s a msg,
    Reaches (fun s a => some (act s a)) (fun _ _ => True) (init false true true) s ∧ ¬ s.MessageGated a msg := by
  obtain ⟨s, hs, hp⟩ := Reaches.exists_of_run (fun s a => some (act s a)) (fun _ _ => true) (init false true true)
    [.standbyMonitor] (fun s => s.standby = true) (by decide)
  have hstandby := of_decide_eq_true hp
  refine ⟨s, { wakeStatus := some { physicalAddress := (0x10, 0x00), cecVersion := 5 } },
    { initiator := 0, destination := 15, length := 2, body := [0x86, 0x10] }, hs.mono fun _ _ _ => trivial, fun h => ?_⟩
  have hoperand := h.operand (by decide) hstandby rfl
  exact absurd hoperand (by decide)

end CecDevice
end BcmPlatform.Cec
