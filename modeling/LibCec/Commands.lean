import LibCec.Client

/-! What the base command handler does with a received command (`CCECCommandHandler`).

    Each command goes to the handler of the device that sent it. What it returns decides what
    follows: a command that was handled is signalled to the threads that wait for it, another one
    is answered with a feature abort.

        command ──CommandHandlerCB──▶ taken by a client
           │
           └──▶ Handle… ──COMMAND_HANDLED──▶ SignalOpcode
                         ──abort reason──▶ UnhandledCommand ──▶ TransmitAbort

    `Session` is the world with what only this layer touches. -/

namespace CEC
open Schemes Procedure

/-! ### Commands and outcomes -/

/-- A received `cec_command`: both addresses are known. -/
structure Received where
  initiator : Fin 16
  destination : Fin 16
  opcodeSet : Bool
  opcode : UInt8
  parameters : DataPacket
  deriving DecidableEq

namespace Received

/-- `parameters.size`. -/
def size (c : Received) : ℕ := c.parameters.size

/-- `parameters[i]`, zero when out of bounds. -/
def parameter (c : Received) (i : ℕ) : UInt8 := c.parameters.toList.getD i 0

/-- The sixteen bits at two parameters. -/
def address (c : Received) (i : ℕ) : UInt16 :=
  (c.parameter i).toUInt16 <<< 8 ||| (c.parameter (i + 1)).toUInt16

/-- The vendor id in the first three parameters. -/
def vendorId (c : Received) : VendorId :=
  ((c.parameter 0).toUInt32 <<< 16) + ((c.parameter 1).toUInt32 <<< 8) + (c.parameter 2).toUInt32

end Received

/-- A command that arrived from the adapter. -/
def Command.received (c : Command) : Option Received :=
  match c.initiator, c.destination with
  | .addr i, .addr d => some ⟨i, d, c.opcodeSet, c.opcode, c.parameters⟩
  | _, _ => none

/-- `cec_abort_reason`. -/
inductive AbortReason where
  | unrecognizedOpcode | notInCorrectModeToRespond | cannotProvideSource | invalidOperand | refused
  deriving DecidableEq

/-- The operand that carries the reason. -/
def AbortReason.code : AbortReason → UInt8
  | unrecognizedOpcode => 0
  | notInCorrectModeToRespond => 1
  | cannotProvideSource => 2
  | invalidOperand => 3
  | refused => 4

/-- What a handler returns: `COMMAND_HANDLED` or an abort reason. -/
inductive Handling where
  | handled
  | abort (reason : AbortReason)
  deriving DecidableEq

/-- `CEC_OPCODE_NONE`. -/
def opcodeNone : UInt8 := 0xFD

/-- `cec_command::GetResponseOpcode`. -/
def getResponseOpcode : UInt8 → UInt8
  | 0x85 => 0x82
  | 0x9F => 0x9E
  | 0x83 => 0x84
  | 0x91 => 0x32
  | 0x1A => 0x1B
  | 0x08 => 0x07
  | 0x8C => 0x87
  | 0x46 => 0x47
  | 0x8D => 0x8E
  | 0x8F => 0x90
  | 0x71 => 0x7A
  | 0x7D => 0x7E
  | 0x70 => 0x72
  | _ => opcodeNone

/-- A feature abort that was handed to `Transmit`. -/
structure AbortFrame where
  source : Fin 16
  destination : Fin 16
  opcode : UInt8
  reason : AbortReason
  deriving DecidableEq

/-- The world and what only the command handlers touch: the menu languages, the feature aborts
    transmitted and the opcodes signalled so far, and the commands that were queued again. -/
structure Session where
  world : World
  menuLanguage : Fin 16 → List UInt8
  aborts : List AbortFrame
  signals : List (Fin 16 × UInt8)
  requeued : List Received

/-- A session that has just begun. -/
def Session.start (w : World) : Session := ⟨w, fun _ => [0x3F, 0x3F, 0x3F], [], [], []⟩

/-- A call into a command handler. -/
abbrev HandlerProc (α : Type) := Procedure Session α

/-- A call that only touches the world. -/
def onWorld {α : Type} (x : Proc α) : HandlerProc α :=
  zoom Session.world (fun w s => { s with world := w }) x

/-- `SignalOpcode`. -/
def signalOpcode (a : Fin 16) (opcode : UInt8) : HandlerProc Unit :=
  update fun s => { s with signals := s.signals ++ [(a, opcode)] }

/-- `SignalAll` of the device map. -/
def signalAll (opcode : UInt8) : HandlerProc Unit :=
  update fun s => { s with signals := s.signals ++ (List.finRange 16).map (·, opcode) }

/-! ### Feature aborts -/

/-- `TransmitAbort`. -/
def transmitAbort (source destination : Fin 16) (opcode : UInt8) (reason : AbortReason) :
    HandlerProc Unit := do
  discard (onWorld (processorTransmit source destination opcodeFeatureAbort))
  update fun s => { s with aborts := s.aborts ++ [⟨source, destination, opcode, reason⟩] }

/-- `UnhandledCommand`. -/
def unhandledCommand (c : Received) (reason : AbortReason) : HandlerProc Unit := do
  let handled ← ask fun s => s.world.isHandled c.destination
  callWhen handled (transmitAbort c.destination c.initiator c.opcode reason)

/-! ### What the handlers share -/

/-- A flag or a timer of the handler itself. -/
def ownFlag : Proc Bool := do
  let o ← observe
  pure o.ownFlag

/-- `CECInitialised` and the destination is handled by libCEC. -/
def World.responds (w : World) (c : Received) : Bool := w.initialised && w.isHandled c.destination

/-- A reply of the destination, when it is one of ours and of a type that has the reply. -/
def reply (c : Received) (otherwise : AbortReason) (ofType : Bool) (x : Proc Unit) :
    Proc Handling := do
  let responds ← ask (·.responds c)
  if responds then
    if ofType then do
      x
      pure .handled
    else pure (.abort .invalidOperand)
  else pure (.abort otherwise)

/-- A report that only changes what a device keeps about itself. -/
def report (accepted : Bool) : Proc Handling :=
  pure (if accepted then .handled else .abort .invalidOperand)

/-- `AsPlaybackDevice`. -/
def isPlaybackDevice (a : Fin 16) : Bool :=
  deviceType a = .playbackDevice || deviceType a = .recordingDevice

/-- `AsAudioSystem`. -/
def isAudioSystem (a : Fin 16) : Bool := deviceType a = .audioSystem

/-- `SetVendorId` of a device. -/
def setVendorId (a : Fin 16) (vendor : VendorId) : Proc Unit :=
  update (World.updateDevice a fun d => { d with vendor := vendor })

/-- `ScheduleActivateSource` of the device's handler. -/
def scheduleActivateSource (a : Fin 16) : Proc Unit := do
  replaceHandler a
  update (World.updateDevice a fun d => { d with activeSourcePending := true })

/-- `TransmitInactiveSource`. -/
def transmitInactiveSource (a : Fin 16) : Proc Unit := discard (transmit a 0 0x9D false)

/-- `TransmitVendorID`, without an abort. -/
def transmitVendorID (a : Fin 16) : Proc Unit := do
  let vendor ← ask fun w => (w.devices a).vendor
  callWhen (vendor ≠ 0) (discard (transmit a 15 0x87 false))

/-- `GetMyDevices`. -/
def World.myDevices (w : World) : List (Fin 16) :=
  (List.finRange 16).filter fun a => (w.clients a).isSome && a ≠ 15

/-! ### Requests for information -/

/-- `HandleGetCecVersion`. -/
def handleGetCecVersion (c : Received) : Proc Handling :=
  reply c .notInCorrectModeToRespond true (discard (transmit c.destination c.initiator 0x9E false))

/-- `HandleGiveAudioStatus`. -/
def handleGiveAudioStatus (c : Received) : Proc Handling :=
  reply c .notInCorrectModeToRespond (isAudioSystem c.destination)
    (discard (transmit c.destination c.initiator 0x7A false))

/-- `HandleGiveDeckStatus`. -/
def handleGiveDeckStatus (c : Received) : Proc Handling :=
  reply c .notInCorrectModeToRespond (isPlaybackDevice c.destination)
    (discard (transmit c.destination c.initiator 0x1B false))

/-- `HandleGiveDevicePowerStatus`. -/
def handleGiveDevicePowerStatus (c : Received) : Proc Handling :=
  reply c .invalidOperand true (transmitPowerState c.destination c.initiator)

/-- `HandleGiveOSDName`. -/
def handleGiveOSDName (c : Received) : Proc Handling :=
  reply c .invalidOperand true (transmitOSDName c.destination c.initiator)

/-- `HandleGivePhysicalAddress`. -/
def handleGivePhysicalAddress (c : Received) : Proc Handling :=
  reply c .notInCorrectModeToRespond true (transmitPhysicalAddress c.destination)

/-- `HandleGiveSystemAudioModeStatus`. -/
def handleGiveSystemAudioModeStatus (c : Received) : Proc Handling :=
  reply c .notInCorrectModeToRespond (isAudioSystem c.destination)
    (discard (transmit c.destination c.initiator 0x7E false))

/-- `HandleMenuRequest`. -/
def handleMenuRequest (c : Received) : Proc Handling :=
  reply c .notInCorrectModeToRespond true (transmitMenuState c.destination c.initiator)

/-- `TransmitSetMenuLanguage`: an unknown language is answered with a feature abort. -/
def transmitSetMenuLanguage (a destination : Fin 16) : HandlerProc Unit := do
  let language ← ask fun s => s.menuLanguage a
  if language.take 3 = [0x3F, 0x3F, 0x3F] then
    transmitAbort a destination 0x8C .unrecognizedOpcode
  else discard (onWorld (transmit a 15 0x32 false))

/-- `HandleGiveMenuLanguage`. -/
def handleGiveMenuLanguage (c : Received) : HandlerProc Handling := do
  let responds ← ask (·.world.responds c)
  if responds then
    transmitSetMenuLanguage c.destination c.initiator
    pure .handled
  else pure (.abort .notInCorrectModeToRespond)

/-- `HandleGiveDeviceVendorId`: an unknown vendor id is answered with a feature abort. -/
def handleGiveDeviceVendorId (c : Received) : HandlerProc Handling := do
  let responds ← ask (·.world.responds c)
  let vendor ← ask fun s => (s.world.devices c.destination).vendor
  if responds then
    if vendor = 0 then transmitAbort c.destination c.initiator 0x8C .unrecognizedOpcode
    else onWorld (transmitVendorID c.destination)
    pure .handled
  else pure (.abort .invalidOperand)

/-! ### Reports -/

/-- `HandleDeviceCecVersion`. -/
def handleDeviceCecVersion (c : Received) : Proc Handling := report (c.size = 1)

/-- `HandleReportAudioStatus`. -/
def handleReportAudioStatus (c : Received) : Proc Handling :=
  report (c.size = 1 ∧ isAudioSystem c.initiator)

/-- `HandleSystemAudioModeStatus`. -/
def handleSystemAudioModeStatus (c : Received) : Proc Handling :=
  report (c.size = 1 ∧ isAudioSystem c.initiator)

/-- `HandleSetSystemAudioMode`. -/
def handleSetSystemAudioMode (c : Received) : Proc Handling :=
  report (c.size = 1 ∧ isAudioSystem c.initiator)

/-- `HandleSetOSDName`. -/
def handleSetOSDName (c : Received) : Proc Handling := report (c.size > 0)

/-- `HandleDeckControl`. -/
def handleDeckControl (c : Received) : Proc Handling :=
  report (isPlaybackDevice c.destination ∧ c.size > 0)

/-- `HandleSetMenuLanguage`: the language ends at a zero byte. -/
def handleSetMenuLanguage (c : Received) : HandlerProc Handling :=
  if c.size = 3 then do
    update fun s => { s with
      menuLanguage := Function.update s.menuLanguage c.initiator
        ([c.parameter 0, c.parameter 1, c.parameter 2].takeWhile (· ≠ 0)) }
    pure .handled
  else pure (.abort .invalidOperand)

/-- `HandleDeviceVendorId`. -/
def handleDeviceVendorId (c : Received) : Proc Handling := do
  callWhen (3 ≤ c.size) (setVendorId c.initiator c.vendorId)
  let primary ← ask World.logicalAddress
  callWhen (c.initiator = 0) (transmitVendorID primary)
  pure .handled

/-- `HandleDeviceVendorCommandWithId`: when it reveals a vendor with a specific handler, the
    command is queued again, for that handler. -/
def handleDeviceVendorCommandWithId (c : Received) : HandlerProc Handling := do
  let vendor ← ask fun s => (s.world.devices c.initiator).vendor
  if c.size < 3 then pure (.abort .invalidOperand)
  else
    callWhen (vendor = 0) (onWorld (setVendorId c.initiator c.vendorId))
    if vendor = 0 ∧ (specificHandler c.vendorId).isSome then
      update fun s => { s with requeued := s.requeued ++ [c] }
      pure .handled
    else if c.vendorId = 0x00E036 ∧ c.initiator = 5 then pure (.abort .refused)
    else pure (.abort .invalidOperand)

section reactions

variable (react : Reaction → Proc Unit)

/-- `HandleReportPowerStatus`. -/
def handleReportPowerStatus (c : Received) : Proc Handling :=
  if c.size = 1 then do
    setPowerStatus react c.initiator (c.parameter 0)
    pure .handled
  else pure (.abort .invalidOperand)

/-- `SetPhysicalAddress` of the handler: a device of libCEC keeps its address. The clients whose
    address derives from the device look again. -/
def handlerSetPhysicalAddress (a : Fin 16) (pa : UInt16) : Proc Unit := do
  let handled ← ask (·.isHandled a)
  if handled then pure ()
  else
    setPhysicalAddress a pa
    let clients ← ask World.libClients
    forEach (refreshPhysicalAddress react a) clients

/-- `HandleReportPhysicalAddress`. -/
def handleReportPhysicalAddress (c : Received) : Proc Handling :=
  if c.size = 3 then do
    handlerSetPhysicalAddress react c.initiator (c.address 0)
    let primary ← ask World.logicalAddress
    callWhen (c.initiator = 0) (transmitPhysicalAddress primary)
    pure .handled
  else pure (.abort .invalidOperand)

/-- `HandleStandby`. -/
def handleStandby (c : Received) : Proc Handling := do
  setPowerStatus react c.initiator .standby
  pure .handled

/-! ### Sources and routes -/

/-- `HandleActiveSource`. -/
def handleActiveSource (c : Received) : HandlerProc Handling :=
  if c.size = 2 then do
    onWorld do
      setPhysicalAddress c.initiator (c.address 0)
      markAsActiveSource react c.initiator
    signalAll c.opcode
    pure .handled
  else pure (.abort .invalidOperand)

/-- `HandleTextViewOn`. -/
def handleTextViewOn (c : Received) : Proc Handling := do
  markAsActiveSource react c.initiator
  pure .handled

/-- `HandleImageViewOn`. -/
def handleImageViewOn (c : Received) : Proc Handling := do
  let d ← ask (·.devices c.destination)
  callWhen (c.destination ≠ 15 ∧ d.status = .present) do
    callWhen (d.powerStatus = .standby ∨ d.powerStatus = .inTransitionOnToStandby)
      (setPowerStatus react c.destination .inTransitionStandbyToOn)
    onImageViewOnSent false
  pure .handled

/-- `HandleRequestActiveSource`: while the TV is off only the TV itself gets an answer. -/
def handleRequestActiveSource (c : Received) : Proc Handling := do
  let initialised ← ask World.initialised
  callWhen initialised do
    setPowerStatus react c.initiator .on
    let tvPower ← ask fun w => (w.devices 0).powerStatus
    let devices ← ask World.myDevices
    callWhen (c.initiator = 0 ∨ tvPower ≠ .standby ∧ tvPower ≠ .inTransitionOnToStandby)
      (forEach (fun a => discard (transmitActiveSource a)) devices)
  pure .handled

/-- `HandleRoutingChange`. -/
def handleRoutingChange (c : Received) : Proc Handling :=
  if c.size = 4 then do
    -- only powered on devices send routing changes
    setPowerStatus react c.initiator .on
    setActiveRoute react c.initiator (c.address 2)
    pure .handled
  else pure (.abort .invalidOperand)

/-- `HandleRoutingInformation`. -/
def handleRoutingInformation (c : Received) : Proc Handling :=
  if c.size = 2 then do
    setActiveRoute react c.initiator (c.address 0)
    pure .handled
  else pure (.abort .invalidOperand)

/-- `HandleSetStreamPath`. -/
def handleSetStreamPath (c : Received) : Proc Handling := do
  let initialised ← ask World.initialised
  if !initialised then pure (.abort .notInCorrectModeToRespond)
  else if 2 ≤ c.size then do
    let device ← getDeviceByPhysicalAddress (c.address 0) true (List.finRange 16)
    match device with
    | some a => do
      let handled ← ask (·.isHandled a)
      let active ← ask fun w => (w.devices a).activeSource
      callWhen handled
        (if active then do
          markAsActiveSource react a
          discard (transmitActiveSource a)
        else discard (activateSource react a 0))
      pure .handled
    | none => do
      forEach markAsInactiveSource (List.finRange 16)
      pure (.abort .invalidOperand)
  else pure (.abort .invalidOperand)

/-- What the audio system does with a request that names a source. -/
def systemAudioModeOn (c : Received) : Proc Unit := do
  setPowerStatus react c.destination .on
  let device ← getDeviceByPhysicalAddress (c.address 0) true (List.finRange 16)
  match device with
  | some a => markAsActiveSource react a
  | none => pure ()

/-- `HandleSystemAudioModeRequest`. -/
def handleSystemAudioModeRequest (c : Received) : Proc Handling := do
  let responds ← ask (·.responds c)
  if responds && isAudioSystem c.destination then
    callWhen (2 ≤ c.size) (systemAudioModeOn react c)
    discard (transmit c.destination c.initiator 0x72 false)
    pure .handled
  else pure (.abort .notInCorrectModeToRespond)

/-! ### The remote control -/

/-- What a power key does to the device. -/
def powerKey (a : Fin 16) (key : UInt8) : Proc Unit := do
  let p ← ask fun w => (w.devices a).powerStatus
  if key = 0x6D ∨ !p.isOn then discard (activateSource react a 0)
  else
    markAsInactiveSource a
    transmitInactiveSource a

/-- `HandleUserControlPressed`, without the key that the client is given. -/
def handleUserControlPressed (c : Received) : Proc Handling := do
  let responds ← ask (·.responds c)
  let active ← ask fun w => (w.devices c.destination).activeSource
  if !responds then pure (.abort .notInCorrectModeToRespond)
  else if c.size = 0 then pure (.abort .invalidOperand)
  else
    if c.parameter 0 ∈ [0x40, 0x6B, 0x6D] then powerKey react c.destination (c.parameter 0)
    else
      -- the TV sends key presses to us, so assume that it forgot to activate us
      callWhen (c.parameter 0 ≠ 0x6C ∧ !active ∧ c.initiator = 0 ∧ c.destination ≠ 5)
        (markAsActiveSource react c.destination)
    pure .handled

end reactions

/-- `HandleUserControlRelease`, without the key that the client is given. -/
def handleUserControlRelease (c : Received) : Proc Handling := do
  let responds ← ask (·.responds c)
  pure (if responds then .handled else .abort .notInCorrectModeToRespond)

/-- `HandleVendorRemoteButtonUp`. -/
def handleVendorRemoteButtonUp (c : Received) : Proc Handling := handleUserControlRelease c

/-- `HandleVendorRemoteButtonDown`. -/
def handleVendorRemoteButtonDown (c : Received) : Proc Handling := report (c.size > 0)

/-- `HandleVendorCommand`. -/
def handleVendorCommand (_ : Received) : Proc Handling := pure (.abort .invalidOperand)

/-! ### Feature aborts from other devices -/

/-- The opcodes that are never marked as unsupported. -/
def neverUnsupported (opcode : UInt8) : Bool :=
  opcode ∈ [0x89, 0xA0, 0x8A, 0x8B, 0xFF, 0x00, opcodeNone, 0x44, 0x45]

/-- `SetUnsupportedFeature`: the threads that wait for a response are signalled. -/
def setUnsupportedFeature (a : Fin 16) (opcode : UInt8) : HandlerProc Unit :=
  if neverUnsupported opcode then pure ()
  else do
    onWorld (update (World.updateDevice a fun d =>
      if opcode ∈ d.unsupportedFeatures then d
      else { d with unsupportedFeatures := opcode :: d.unsupportedFeatures }))
    signalOpcode a (getResponseOpcode opcode)

/-- `HandleFeatureAbort`. -/
def handleFeatureAbort (c : Received) : HandlerProc Handling := do
  callWhen (c.size = 2 ∧ (c.parameter 1 = AbortReason.unrecognizedOpcode.code ∨
      c.parameter 1 = AbortReason.refused.code))
    (setUnsupportedFeature c.initiator (c.parameter 0))
  pure .handled

end CEC
