import LibCec.Commands

/-! The vendors' command handlers and the dispatch of a received command.

    A vendor's handler overrides some of the functions of the base one, and usually falls back to
    it. `HandleCommand` picks the function for the opcode of the command and the handler of the
    device that sent it; `received` is what the processor does with one command:

        ProcessCommand ──▶ CCECBusDevice::HandleCommand ──▶ CCECCommandHandler::HandleCommand
                                     │                               │
                                     └── device is present           └── signal or abort -/

namespace CEC
open Schemes Procedure

section reactions

variable (react : Reaction → Proc Unit)

/-! ### LG -/

/-- `HandleVendorCommandSLInit`. -/
def slInit (c : Received) : Proc Unit := do
  let handled ← ask (·.isHandled c.destination)
  let active ← ask fun w => (w.devices c.destination).activeSource
  callWhen handled do
    callWhen (!active) do
      setPowerStatus react c.destination .standby
      transmitPowerState c.destination c.initiator
    discard (transmit c.destination c.initiator 0x89 false)

/-- `HandleVendorCommandPowerOn`: the source is claimed after a delay. -/
def slPowerOn (c : Received) : Proc Unit := do
  let primary ← ask World.logicalAddress
  callWhen (c.initiator = 0) do
    markAsActiveSource react primary
    setPowerStatus react primary .inTransitionStandbyToOn
    transmitPowerState primary c.initiator
    setPowerStatus react primary .on
    transmitPhysicalAddress primary
    scheduleActivateSource primary

/-- `HandleVendorCommandPowerOnStatus`. -/
def slPowerOnStatus (c : Received) : Proc Unit := do
  let primary ← ask World.logicalAddress
  callWhen (c.destination ≠ 15) do
    setPowerStatus react primary .inTransitionStandbyToOn
    transmitPowerState primary c.initiator
    setPowerStatus react primary .on

/-- `HandleVendorCommandSLConnect`. -/
def slConnect (c : Received) : Proc Unit := do
  discard (transmit c.destination c.initiator 0x89 false)
  let active ← ask fun w => (w.devices c.destination).activeSource && w.isHandled c.destination
  callWhen active do
    callWhen (isPlaybackDevice c.destination) (discard (transmit c.destination c.initiator 0x1B false))
    transmitPowerState c.destination c.initiator

/-- `HandleVendorCommand`. -/
def slHandleVendorCommand (c : Received) : Proc Handling := do
  let handled ← ask (·.isHandled c.destination)
  if !handled ∧ c.destination ≠ 15 then pure .handled
  else if c.size = 1 ∧ c.parameter 0 = 0x01 then do
    slInit react c
    pure .handled
  else if c.size = 2 ∧ c.parameter 0 = 0x03 then do
    slPowerOn react c
    pure .handled
  else if c.size = 2 ∧ c.parameter 0 = 0x04 then do
    slConnect c
    pure .handled
  else if c.size = 1 ∧ (c.parameter 0 = 0x0B ∨ c.parameter 0 = 0xA0) then do
    slPowerOnStatus react c
    pure .handled
  else handleVendorCommand c

/-- `HandleGiveDeckStatus`. -/
def slHandleGiveDeckStatus (c : Received) : Proc Handling := do
  let responds ← ask (·.responds c)
  let active ← ask fun w => (w.devices c.destination).activeSource
  if !responds then pure (.abort .notInCorrectModeToRespond)
  else if !isPlaybackDevice c.destination ∨ c.size = 0 then pure (.abort .invalidOperand)
  else if !active then handleGiveDeckStatus c
  else if c.parameter 0 = 1 then do
    discard (transmit c.destination c.initiator 0x1B false)
    discard (slActivateSource react c.initiator false)
    pure .handled
  else if c.parameter 0 = 3 then do
    discard (transmit c.destination c.initiator 0x1B false)
    pure .handled
  else handleGiveDeckStatus c

/-- What the TV is told about a device that it shows; a TV that keeps asking is stalled. -/
def slReportActive (c : Received) : Proc Unit := do
  let resetPowerState ← ownFlag
  if resetPowerState then do
    setPowerStatus react c.destination .inTransitionStandbyToOn
    transmitPowerState c.destination c.initiator
    setPowerStatus react c.destination .on
  else do
    setPowerStatus react c.destination .on
    transmitPowerState c.destination c.initiator

/-- `HandleGiveDevicePowerStatus`. -/
def slHandleGiveDevicePowerStatus (c : Received) : Proc Handling := do
  let responds ← ask (·.responds c)
  let active ← ask fun w => (w.devices c.destination).activeSource
  if !responds ∨ c.initiator ≠ 0 then pure (.abort .notInCorrectModeToRespond)
  else
    if active then slReportActive react c
    else do
      setPowerStatus react c.destination .standby
      transmitPowerState c.destination c.initiator
    pure .handled

/-- `HandleRequestActiveSource`: never reported as handled. -/
def slHandleRequestActiveSource (c : Received) : Proc Handling := do
  let initialised ← ask World.initialised
  let primary ← ask World.logicalAddress
  callWhen initialised do
    let slInitialised ← ownFlag
    callWhen (!slInitialised) (discard (transmit primary c.initiator 0x89 false))
    discard (handleRequestActiveSource react c)
  pure (.abort .notInCorrectModeToRespond)

/-- `HandleFeatureAbort`. -/
def slHandleFeatureAbort (c : Received) : HandlerProc Handling := do
  let w ← ask Session.world
  let slInitialised ← onWorld ownFlag
  if c.size = 0 ∧ (w.devices w.logicalAddress).powerStatus = .on ∧ !slInitialised ∧
      c.initiator = 0 ∧ (w.devices c.destination).activeSource then do
    discard (onWorld (transmit c.destination c.initiator 0x89 false))
    pure .handled
  else handleFeatureAbort c

/-- `HandleStandby`. -/
def slHandleStandby (c : Received) : Proc Handling := do
  let primary ← ask World.logicalAddress
  setPowerStatus react primary .inTransitionStandbyToOn
  handleStandby react c

/-- `SuppressTvRoutingChange`: while an LG powers on, our source stays the active one. -/
def suppressTvRoutingChange (c : Received) : Proc Bool :=
  if c.initiator ≠ 0 then pure false
  else do
    let ignoreTvRoute ← ownFlag
    let source ← ask World.activeSource
    match source with
    | none => pure false
    | some a => do
      let handled ← ask (·.isHandled a)
      callWhen (ignoreTvRoute && handled) (scheduleActivateSource a)
      pure (ignoreTvRoute && handled)

/-- `HandleActiveSource`. -/
def slHandleActiveSource (c : Received) : HandlerProc Handling := do
  let suppressed ← onWorld (suppressTvRoutingChange c)
  if suppressed then pure .handled else handleActiveSource react c

/-- `HandleSetStreamPath`. -/
def slHandleSetStreamPath (c : Received) : Proc Handling := do
  let suppressed ← suppressTvRoutingChange c
  if suppressed then pure .handled else handleSetStreamPath react c

/-! ### Philips -/

/-- The keys that a held button may repeat. -/
def mayRepeat (key : UInt8) : Bool :=
  key ≤ 0x08 || key = 0x0D || (0x20 ≤ key && key ≤ 0x29) || (0x71 ≤ key && key ≤ 0x75)

/-- `HandleUserControlPressed`: the TV repeats a key without releasing it. -/
def phHandleUserControlPressed (c : Received) : Proc Handling := do
  let repeated ← ownFlag
  if repeated ∧ !mayRepeat (c.parameter 0) then pure .handled
  else
    callWhen repeated (discard (handleUserControlRelease c))
    handleUserControlPressed react c

/-- `HandleDeviceVendorId`. -/
def phHandleDeviceVendorId (c : Received) : Proc Handling := do
  setPowerStatus react c.initiator .on
  handleDeviceVendorId c

/-- `ClaimRouteWhilePoweringUp`. -/
def claimRouteWhilePoweringUp (c : Received) (iOldAddress iNewAddress : UInt16) : Proc Bool := do
  let poweredUp ← ownFlag
  let poweringUp ← ownFlag
  let source ← ask World.activeSource
  if c.initiator ≠ 0 ∨ poweredUp ∨ iOldAddress ≠ physicalAddressTv ∨
      iNewAddress = physicalAddressTv ∨ !poweringUp then pure false
  else match source with
  | none => pure false
  | some a => do
    let handled ← ask (·.isHandled a)
    let iActiveAddress ← ask fun w => (w.devices a).physicalAddress
    if !handled ∨ iActiveAddress = invalidPhysicalAddress ∨
        iActiveAddress &&& 0xF000 ≠ iNewAddress &&& 0xF000 then pure false
    else
      setPowerStatus react c.initiator .on
      discard (transmitActiveSource a)
      pure true

/-- `HandleRoutingChange`. -/
def phHandleRoutingChange (c : Received) : Proc Handling := do
  let claimed ← callOr (c.size = 4) false
    (claimRouteWhilePoweringUp react c (c.address 0) (c.address 2))
  if claimed then pure .handled else handleRoutingChange react c

/-- `HandleSetStreamPath`. -/
def phHandleSetStreamPath (c : Received) : Proc Handling := do
  let claimed ← callOr (4 ≤ c.size) false
    (claimRouteWhilePoweringUp react c (c.address 0) (c.address 2))
  if claimed then pure .handled else handleSetStreamPath react c

/-! ### Panasonic -/

/-- `SendVendorCommandCapabilities` of the handler of the device `self`. -/
def sendVendorCommandCapabilities (self initiator destination : Fin 16) : Proc Unit := do
  callWhen (self ≠ 0) (discard (getStatus 0 false))
  let powerUpEventReceived ← ownFlag
  callWhen powerUpEventReceived (discard (transmit initiator destination 0x89 false))

/-- The primary device announces itself again when it is the active source. -/
def announceActiveSource : Proc Unit := do
  let primary ← ask World.logicalAddress
  let active ← ask fun w => (w.devices primary).activeSource
  callWhen active (discard (transmitActiveSource primary))

/-- The TV reports a change of its power status. -/
def vlPowerChange (c : Received) : Proc Unit :=
  if c.parameter 4 = 0x00 then do
    setPowerStatus react 0 .on
    let primary ← ask World.logicalAddress
    sendVendorCommandCapabilities c.initiator primary c.initiator
    announceActiveSource
  else callWhen (c.parameter 4 = 0x01) (setPowerStatus react 0 .standby)

/-- `HandleDeviceVendorCommandWithId`. -/
def vlHandleDeviceVendorCommandWithId (c : Received) : HandlerProc Handling := do
  let handled ← ask (·.world.isHandled c.destination)
  if !handled ∧ c.destination ≠ 15 then pure (.abort .invalidOperand)
  else if c.parameter 0 ≠ 0x00 ∨ c.parameter 1 ≠ 0x80 ∨ c.parameter 2 ≠ 0x45 then
    pure (.abort .invalidOperand)
  else if c.initiator = 0 ∧ c.parameter 3 = 0x06 ∧ 5 ≤ c.size ∧ c.parameter 4 = 0x05 then do
    onWorld do
      setPowerStatus react 0 .on
      announceActiveSource
    pure .handled
  else if c.initiator = 0 ∧ c.destination = 15 ∧ c.parameter 3 = 0x20 then do
    onWorld (vlPowerChange react c)
    pure .handled
  else handleDeviceVendorCommandWithId c

/-- `HandleGivePhysicalAddress`. -/
def vlHandleGivePhysicalAddress (c : Received) : Proc Handling := do
  let iHandled ← handleGivePhysicalAddress c
  let recentlyPoweredUp ← ownFlag
  callWhen (c.initiator = 0 ∧ recentlyPoweredUp)
    (sendVendorCommandCapabilities c.initiator c.destination c.initiator)
  pure iHandled

/-- `HandleGiveDeviceVendorId`. -/
def vlHandleGiveDeviceVendorId (c : Received) : HandlerProc Handling := do
  let iHandled ← handleGiveDeviceVendorId c
  let recentlyPoweredUp ← onWorld ownFlag
  callWhen (c.initiator = 0 ∧ recentlyPoweredUp)
    (onWorld (sendVendorCommandCapabilities c.initiator c.destination c.initiator))
  pure iHandled

/-- `HandleVendorCommand`. -/
def vlHandleVendorCommand (c : Received) : Proc Handling := do
  let handled ← ask (·.isHandled c.destination)
  if c.size = 3 ∧ c.parameter 0 = 0x10 ∧ c.parameter 1 = 0x01 ∧ handled then do
    let primary ← ask World.logicalAddress
    sendVendorCommandCapabilities c.initiator primary c.initiator
    let active ← ask fun w => (w.devices c.destination).activeSource
    callWhen active (discard (activateSource react c.destination 500))
    pure .handled
  else pure (.abort .invalidOperand)

/-- `HandleSystemAudioModeRequest`. -/
def vlHandleSystemAudioModeRequest (c : Received) : Proc Handling := do
  callWhen (c.initiator = 0) (setPowerStatus react 0 .on)
  handleSystemAudioModeRequest react c

/-! ### Samsung -/

/-- `HandleVendorRemoteButtonDown`, without the key that the client is given. -/
def anHandleVendorRemoteButtonDown (c : Received) : Proc Handling := do
  let w ← ask id
  if c.size = 0 then pure (.abort .invalidOperand)
  else if !w.initialised ∨ w.clients c.destination = none then
    pure (.abort .notInCorrectModeToRespond)
  else pure .handled

/-- `HandleDeviceVendorCommandWithId`: the device that sent it is powered up. -/
def anHandleDeviceVendorCommandWithId (c : Received) : HandlerProc Handling :=
  if c.size < 4 ∨ c.parameter 0 ≠ 0x00 ∨ c.parameter 1 ≠ 0x00 ∨ c.parameter 2 ≠ 0xF0 ∨
      c.parameter 3 ≠ 0x23 then
    handleDeviceVendorCommandWithId c
  else do
    onWorld do
      setPowerStatus react c.initiator .on
      let handled ← ask (·.isHandled c.destination)
      -- a broadcast leaves no address to answer from
      callWhen handled (discard (transmit c.destination c.initiator 0xA0 false))
    pure .handled

/-- `HandleSetMenuLanguage`. -/
def anHandleSetMenuLanguage (c : Received) : HandlerProc Handling := do
  let initialised ← ask (·.world.initialised)
  callWhen (initialised ∧ c.initiator = 0 ∧ c.destination = 15)
    (onWorld (setPowerStatus react c.initiator .on))
  handleSetMenuLanguage c

/-- `HandleGiveDevicePowerStatus`: the answer is the TV's while the TV sleeps. -/
def anHandleGiveDevicePowerStatus (c : Received) : Proc Handling := do
  let w ← ask id
  if w.responds c ∧ w.hasPowerStatusQuirks ∧ (w.devices 0).powerStatus = .standby then do
    setPowerStatus react c.destination .standby
    transmitPowerState c.destination c.initiator
    pure .handled
  else handleGiveDevicePowerStatus c

end reactions

/-! ### Toshiba, Onkyo and Sony -/

/-- The keys of Toshiba's vendor command. -/
def rlKey (c : Received) : Bool :=
  (c.parameter 3 = 0x44 && c.size = 5 && (c.parameter 4 = 0x10 || c.parameter 4 = 0x11)) ||
    c.parameter 3 = 0x45

/-- `HandleDeviceVendorCommandWithId` of Toshiba's handler. -/
def rlHandleDeviceVendorCommandWithId (c : Received) : HandlerProc Handling := do
  let w ← ask Session.world
  if !w.isHandled c.destination ∧ c.destination ≠ 15 then pure (.abort .invalidOperand)
  else if c.size < 4 then pure (.abort .invalidOperand)
  else if c.parameter 0 ≠ 0x00 ∨ c.parameter 1 ≠ 0x00 ∨ c.parameter 2 ≠ 0x39 then
    pure (.abort .invalidOperand)
  else if (w.clients c.destination).isSome ∧ rlKey c then pure .handled
  else handleDeviceVendorCommandWithId c

/-- `HandleDeviceVendorCommandWithId` of Onkyo's handler. -/
def rhHandleDeviceVendorCommandWithId (_ : Received) : Proc Handling := pure (.abort .refused)

/-- `TreatedAsPoweredOff` of Sony's handler. -/
def World.treatedAsPoweredOff (w : World) (a : Fin 16) : Bool :=
  !(w.devices a).activeSource || (w.hasPowerStatusQuirks && !(w.devices 0).powerStatus.isOn)

/-- `HandleGiveDevicePowerStatus` of Sony's handler. -/
def syHandleGiveDevicePowerStatus (c : Received) : Proc Handling := do
  let w ← ask id
  if w.responds c ∧ w.treatedAsPoweredOff c.destination then do
    discard (transmit c.destination c.initiator 0x90 false)
    pure .handled
  else handleGiveDevicePowerStatus c

/-! ### Dispatch -/

section reactions

variable (react : Reaction → Proc Unit)

/-- The function of the handler `h` for the opcode of the command. -/
def handlerFor (h : Handler) (c : Received) : HandlerProc Handling :=
  match c.opcode with
  | 0x90 => onWorld (handleReportPowerStatus react c)
  | 0x9E => onWorld (handleDeviceCecVersion c)
  | 0x32 => if h = .an then anHandleSetMenuLanguage react c else handleSetMenuLanguage c
  | 0x83 => onWorld
      (if h = .vl then vlHandleGivePhysicalAddress c else handleGivePhysicalAddress c)
  | 0x91 => handleGiveMenuLanguage c
  | 0x46 => onWorld (handleGiveOSDName c)
  | 0x8C => if h = .vl then vlHandleGiveDeviceVendorId c else handleGiveDeviceVendorId c
  | 0x87 => onWorld (if h = .ph then phHandleDeviceVendorId react c else handleDeviceVendorId c)
  | 0xA0 =>
    match h with
    | .vl => vlHandleDeviceVendorCommandWithId react c
    | .an => anHandleDeviceVendorCommandWithId react c
    | .rl => rlHandleDeviceVendorCommandWithId c
    | .rh => onWorld (rhHandleDeviceVendorCommandWithId c)
    | _ => handleDeviceVendorCommandWithId c
  | 0x1A => onWorld (if h = .sl then slHandleGiveDeckStatus react c else handleGiveDeckStatus c)
  | 0x42 => onWorld (handleDeckControl c)
  | 0x8D => onWorld (handleMenuRequest c)
  | 0x8F => onWorld
      (match h with
      | .sl => slHandleGiveDevicePowerStatus react c
      | .an => anHandleGiveDevicePowerStatus react c
      | .sy => syHandleGiveDevicePowerStatus c
      | _ => handleGiveDevicePowerStatus c)
  | 0x9F => onWorld (handleGetCecVersion c)
  | 0x44 => onWorld
      (if h = .ph then phHandleUserControlPressed react c else handleUserControlPressed react c)
  | 0x45 => onWorld (handleUserControlRelease c)
  | 0x71 => onWorld (handleGiveAudioStatus c)
  | 0x7D => onWorld (handleGiveSystemAudioModeStatus c)
  | 0x70 => onWorld
      (if h = .vl then vlHandleSystemAudioModeRequest react c
      else handleSystemAudioModeRequest react c)
  | 0x7A => onWorld (handleReportAudioStatus c)
  | 0x7E => onWorld (handleSystemAudioModeStatus c)
  | 0x72 => onWorld (handleSetSystemAudioMode c)
  | 0x85 => onWorld
      (if h = .sl then slHandleRequestActiveSource react c else handleRequestActiveSource react c)
  | 0x86 => onWorld
      (match h with
      | .sl => slHandleSetStreamPath react c
      | .ph => phHandleSetStreamPath react c
      | _ => handleSetStreamPath react c)
  | 0x80 => onWorld
      (if h = .ph then phHandleRoutingChange react c else handleRoutingChange react c)
  | 0x81 => onWorld (handleRoutingInformation react c)
  | 0x36 => onWorld (if h = .sl then slHandleStandby react c else handleStandby react c)
  | 0x82 => if h = .sl then slHandleActiveSource react c else handleActiveSource react c
  | 0x84 => onWorld (handleReportPhysicalAddress react c)
  | 0x47 => onWorld (handleSetOSDName c)
  | 0x04 => onWorld (handleImageViewOn react c)
  | 0x0D => onWorld (handleTextViewOn react c)
  | 0x00 => if h = .sl then slHandleFeatureAbort c else handleFeatureAbort c
  | 0x89 => onWorld
      (match h with
      | .sl => slHandleVendorCommand react c
      | .vl => vlHandleVendorCommand react c
      | _ => handleVendorCommand c)
  | 0x8A => onWorld
      (if h = .an then anHandleVendorRemoteButtonDown c else handleVendorRemoteButtonDown c)
  | 0x8B => onWorld (handleVendorRemoteButtonUp c)
  | 0x41 => pure .handled
  | _ => pure (.abort .unrecognizedOpcode)

/-- The opcode that is signalled for a command that was handled. -/
def Received.signalled (c : Received) : UInt8 :=
  if c.opcode = opcodeFeatureAbort ∧ c.size > 0 then c.parameter 0 else c.opcode

/-- `CommandHandlerCB`: whether a client's callback takes the command. -/
def commandHandlerCB : Proc Bool := do
  let o ← observe
  pure o.commandTaken

/-- `CCECCommandHandler::HandleCommand`. -/
def handleCommand (c : Received) : HandlerProc Bool := do
  if !c.opcodeSet then pure true
  else
    let taken ← onWorld commandHandlerCB
    let handler ← ask fun s => (s.world.devices c.initiator).handler
    if taken then pure true
    else
      let iHandled ← handlerFor react handler c
      match iHandled with
      | .handled => do
        signalOpcode c.initiator c.signalled
        pure true
      | .abort reason => do
        unhandledCommand c reason
        pure false

/-- `CCECBusDevice::HandleCommand`: a device that sent a command is present. -/
def deviceHandleCommand (c : Received) : HandlerProc Unit := do
  let bHandled ← handleCommand react c
  callWhen (bHandled ∧ c.initiator ≠ 15 ∧ c.opcodeSet)
    (onWorld (update (World.updateDevice c.initiator fun d =>
      if d.status = .handledByLibCec then d else { d with status := .present })))

/-- `ProcessCommand`. -/
def processCommand (command : Command) : HandlerProc Unit :=
  match command.received with
  | some c => deviceHandleCommand react c
  | none => pure ()

end reactions

end CEC
