import LibCec.Configuration
import LibCec.Schemes.Procedure

/-! The processor's view of the bus: the devices, the clients and what it sends.

    `World` is the state that the processor (`CCECProcessor`), its sixteen bus devices
    (`CCECBusDevice`) and the clients (`CCECClient`) share. What comes from outside, such as the
    acknowledgement of a poll, is a stream of answers: each question takes the next one, so a
    statement about every world is one about every behaviour of the bus and of the adapter.

        client ──RegisterClient──▶ processor ──poll, transmit──▶ adapter
          │                          │ m_clients                    │
          └── configuration          └── bus devices 0..15 ◀────────┘ answers

    A call that waits for `m_bStallCommunication` to be cleared does not return. -/

namespace CEC
open Schemes Procedure

/-! ### Devices -/

/-- `cec_bus_device_status`. -/
inductive DeviceStatus where
  | unknown | notPresent | present | handledByLibCec
  deriving DecidableEq

/-- `cec_power_status`: a byte, because the source casts whatever byte was reported. -/
abbrev PowerStatus := UInt8

namespace PowerStatus

def on : PowerStatus := 0x00
def standby : PowerStatus := 0x01
def inTransitionStandbyToOn : PowerStatus := 0x02
def inTransitionOnToStandby : PowerStatus := 0x03
def unknown : PowerStatus := 0x99

end PowerStatus

/-- `cec_vendor_id`; zero is `CEC_VENDOR_UNKNOWN`. -/
abbrev VendorId := UInt32

/-- `CEC_VENDOR_PULSE_EIGHT`. -/
def vendorPulseEight : VendorId := 0x001582

/-- `CEC_VENDOR_SAMSUNG`. -/
def vendorSamsung : VendorId := 0x0000F0

/-- The command handlers: the base one and those of the vendors. -/
inductive Handler where
  | base | an | sl | vl | ph | rl | rh | aq | sy
  deriving DecidableEq

/-- The handler that `ReplaceHandler` makes for a vendor, if there is a specific one. -/
def specificHandler (vendor : VendorId) : Option Handler :=
  if vendor = vendorSamsung then some .an
  else if vendor = 0x00E091 then some .sl
  else if vendor = 0x008045 then some .vl
  else if vendor = 0x00903E then some .ph
  else if vendor = 0x000039 ∨ vendor = 0x000CE7 then some .rl
  else if vendor = 0x0009B0 then some .rh
  else if vendor = 0x08001F ∨ vendor = 0x534850 then some .aq
  else if vendor = 0x080046 then some .sy
  else none

/-- `GetReplacementDeviceType`: only Panasonic's handler replaces a type. -/
def Handler.getReplacementDeviceType (h : Handler) (t : DeviceType) : DeviceType :=
  if h = .vl ∧ t = .recordingDevice then .playbackDevice else t

/-- `CCECBusDevice`: what decides about addresses, sources and transmissions. `resets` counts the
    calls of `ResetDeviceStatus`; the source keeps no such count. -/
structure Device where
  status : DeviceStatus
  physicalAddress : UInt16
  powerStatus : PowerStatus
  vendor : VendorId
  vendorIdRequested : Bool
  handler : Handler
  streamPath : UInt16
  activeSource : Bool
  activeSourceSent : Bool
  imageViewOnSent : Bool
  activeSourcePending : Bool
  unsupportedFeatures : List UInt8
  resets : ℕ

/-- `GetType`: the type of the device at an address. -/
def deviceType (a : Fin 16) : DeviceType :=
  if a = 0 then .tv
  else if a ∈ [1, 2, 9] then .recordingDevice
  else if a ∈ [3, 6, 7, 10] then .tuner
  else if a ∈ [4, 8, 11] then .playbackDevice
  else if a = 5 then .audioSystem
  else .reserved

/-- `HasValidPhysicalAddress`. -/
def Device.hasValidPhysicalAddress (d : Device) : Bool := isValidPhysicalAddress d.physicalAddress

/-- `ResetDeviceStatus`, without the power status. -/
def Device.reset (d : Device) : Device :=
  { d with
    status := .unknown
    vendor := 0
    vendorIdRequested := false
    streamPath := invalidPhysicalAddress
    activeSource := false
    unsupportedFeatures := []
    resets := d.resets + 1 }

/-- The case of `SetDeviceStatus` for a device that libCEC handles, without the power status. -/
def Device.handle (d : Device) (vendor : VendorId) : Device :=
  { d with
    status := .handledByLibCec
    vendor := vendor
    streamPath := invalidPhysicalAddress
    activeSource := false }

/-! ### The world -/

/-- A `CCECClient` object. -/
abbrev ClientId := ℕ

/-- `CCECClient`. -/
structure Client where
  configuration : Configuration
  registered : Bool
  initialised : Bool

/-- What the adapter, the bus and the clock answer at one moment. -/
structure Outside where
  /-- whether a poll of an address is acknowledged -/
  pollAcked : Fin 16 → Bool
  /-- whether what is transmitted is acknowledged -/
  acked : Bool
  /-- whether the response that is waited for arrives -/
  responded : Bool
  /-- what a device has reported when its answer was waited for -/
  vendor : Option VendorId
  physicalAddress : Option UInt16
  /-- `GetPhysicalAddress` of the adapter -/
  detectedPhysicalAddress : UInt16
  /-- firmware version, build date and type of the adapter -/
  firmware : UInt16 × UInt32 × UInt16
  /-- whether a delay is over, or a check is not running yet -/
  delayOver : Bool
  /-- whether a device already has the name it is given -/
  named : Bool
  /-- whether the vendor's handler lets the source be switched -/
  sourceSwitchAllowed : Bool
  /-- whether the adapter takes the new ack mask -/
  ackMaskSet : Bool
  /-- whether a client's callback takes a received command -/
  commandTaken : Bool
  /-- a flag or a timer that a vendor's handler keeps for itself -/
  ownFlag : Bool

/-- The processor, its devices and the clients. -/
structure World where
  devices : Fin 16 → Device
  /-- `m_clients` -/
  clients : Fin 16 → Option ClientId
  /-- the `CCECClient` objects -/
  client : ClientId → Client
  /-- `m_client` and `m_clients` of the library -/
  libClient : ClientId
  libClients : List ClientId
  initialised : Bool
  monitor : Bool
  stallCommunication : Bool
  /-- `SupportsSourceLogicalAddress` of the adapter -/
  supportsSource : Fin 16 → Bool
  /-- the settings in the adapter's EEPROM -/
  eeprom : Configuration
  /-- `CEDIDParser::GetModelYear` -/
  modelYear : ℕ
  outside : ℕ → Outside

/-- A call into the processor, a device or a client. -/
abbrev Proc (α : Type) := Procedure World α

namespace World

/-- Change one device. -/
def updateDevice (a : Fin 16) (f : Device → Device) (w : World) : World :=
  { w with devices := Function.update w.devices a (f (w.devices a)) }

/-- Change one client. -/
def updateClient (c : ClientId) (f : Client → Client) (w : World) : World :=
  { w with client := Function.update w.client c (f (w.client c)) }

/-- Change the configuration of one client. -/
def updateConfiguration (c : ClientId) (f : Configuration → Configuration) (w : World) : World :=
  w.updateClient c fun k => { k with configuration := f k.configuration }

/-- `GetConfiguration` of a client. -/
def configuration (w : World) (c : ClientId) : Configuration := (w.client c).configuration

/-- `GetLogicalAddresses`: the keys of `m_clients`, the lowest of which is the primary one. -/
def logicalAddresses (w : World) : LogicalAddresses :=
  ((List.finRange 16).filter fun a => (w.clients a).isSome).foldl .set .clear

/-- The address of the primary device, the unregistered one when there is no client. -/
def logicalAddress (w : World) : Fin 16 :=
  ((List.finRange 16).find? fun a => (w.clients a).isSome).getD 15

/-- `GetPrimaryClient`: the client at the lowest address. -/
def primaryClient (w : World) : Option ClientId := (List.finRange 16).findSome? w.clients

/-- `GetPrimaryLogicalAddress` of a client. -/
def primaryOf (w : World) (c : ClientId) : Fin 16 := (w.configuration c).logicalAddresses.primary

/-- `CCECDeviceMap::GetActiveSource`. -/
def activeSource (w : World) : Option (Fin 16) :=
  (List.finRange 16).find? fun a => (w.devices a).activeSource

/-- `IsHandledByLibCEC`. -/
def isHandled (w : World) (a : Fin 16) : Bool := (w.devices a).status = .handledByLibCec

end World

/-! ### Questions to the outside -/

/-- The next answer from outside. -/
def observe : Proc Outside := do
  let o ← ask fun w => w.outside 0
  update fun w => { w with outside := fun n => w.outside (n + 1) }
  pure o

/-! ### Device status -/

/-- What `SetPowerStatus` stores. When the TV's changes, no active source message counts as sent. -/
def World.storePowerStatus (a : Fin 16) (p : PowerStatus) (w : World) : World :=
  if (w.devices a).powerStatus = p then w
  else if a = 0 then
    { w with devices := fun b =>
        { w.devices b with
          powerStatus := if b = a then p else (w.devices b).powerStatus
          activeSourceSent := false } }
  else w.updateDevice a fun d => { d with powerStatus := p }

/-- `ResetDeviceStatus`. The handlers do not follow a change to an unknown power status. -/
def resetDeviceStatus (a : Fin 16) : Proc Unit := do
  update (World.storePowerStatus a .unknown)
  update (World.updateDevice a .reset)

/-- The vendor id to present for devices handled by libCEC. -/
def World.presentedVendor (w : World) : VendorId :=
  match w.primaryClient with
  | some c =>
    if (w.configuration c).iDeviceVendorId ≠ 0 then (w.configuration c).iDeviceVendorId
    else vendorPulseEight
  | none => vendorPulseEight

/-- `SetDeviceStatus`. Only `TryLogicalAddress` sets a device to handled, never the TV, and the
    handlers only follow the power status of the TV. -/
def setDeviceStatus (a : Fin 16) (newStatus : DeviceStatus) : Proc Unit :=
  if a = 15 then pure ()
  else match newStatus with
  | .handledByLibCec => do
    let vendor ← ask World.presentedVendor
    update (World.storePowerStatus a .on)
    update (World.updateDevice a (·.handle vendor))
  | .present => update (World.updateDevice a fun d => { d with status := .present })
  | .notPresent => do
    let status ← ask fun w => (w.devices a).status
    callWhen (status ≠ .notPresent) do
      resetDeviceStatus a
      update (World.updateDevice a fun d => { d with status := .notPresent })
  | .unknown => resetDeviceStatus a

/-- `TransmitPoll` to a device that libCEC does not handle; its status follows the outcome. -/
def pollDevice (a : Fin 16) : Proc Bool := do
  let handled ← ask (·.isHandled a)
  if handled then pure false
  else
    let o ← observe
    setDeviceStatus a (if o.pollAcked a then .present else .notPresent)
    pure (o.pollAcked a)

/-- The condition under which `GetStatus` polls. -/
def World.needsPoll (w : World) (a : Fin 16) (bForcePoll : Bool) : Bool :=
  let status := (w.devices a).status
  status ≠ .handledByLibCec &&
    -- don't poll Samsung TVs because they can power on randomly
    ((w.devices 0).vendor ≠ vendorSamsung || a ≠ 0) &&
    (bForcePoll || status = .unknown || (status = .notPresent && a = 0))

/-- `GetStatus`. -/
def getStatus (a : Fin 16) (bForcePoll : Bool) : Proc DeviceStatus :=
  if a = 15 then pure .notPresent
  else do
    let needsPoll ← ask (·.needsPoll a bForcePoll)
    if needsPoll then
      let acked ← pollDevice a
      let status := if acked then DeviceStatus.present else .notPresent
      setDeviceStatus a status
      pure status
    else ask fun w => (w.devices a).status

/-! ### Transmissions -/

/-- The initiator that `CCECProcessor::Transmit` uses, if the adapter supports one. -/
def World.transmitSource (w : World) (initiator : Fin 16) : Option (Fin 16) :=
  if w.supportsSource initiator then some initiator
  else if initiator = 15 ∧ w.supportsSource 14 then some 14
  else none

/-- `CCECProcessor::Transmit` of a command with an opcode: it waits for as long as outgoing
    communication is stalled. -/
def processorTransmit (initiator destination : Fin 16) (opcode : UInt8) : Proc Bool := do
  let w ← ask id
  match w.transmitSource initiator with
  | none => pure false
  | some source =>
    if destination ≠ 15 ∧ w.isHandled destination then pure false
    else if w.stallCommunication then stuck
    else if opcode ∈ (w.devices source).unsupportedFeatures then pure false
    else
      let o ← observe
      pure o.acked

/-- `CCECCommandHandler::Transmit`; `bExpectResponse` when the response is waited for. -/
def transmit (initiator destination : Fin 16) (opcode : UInt8) (bExpectResponse : Bool) :
    Proc Bool := do
  let status ← callOr (destination ≠ 15) .present (getStatus destination false)
  let unsupported ← ask fun w => (w.devices destination).unsupportedFeatures.contains opcode
  if status = .notPresent ∨ status = .handledByLibCec then pure false
  else if destination ≠ 15 ∧ unsupported then pure true
  else
    let acked ← processorTransmit initiator destination opcode
    if acked ∧ bExpectResponse then
      let o ← observe
      pure o.responded
    else pure acked

/-! ### Vendor id and physical address -/

/-- `ReplaceHandler`: the handler follows a vendor that has a specific one. -/
def replaceHandler (a : Fin 16) : Proc Unit :=
  if a = 15 then pure ()
  else update (World.updateDevice a fun d =>
    { d with handler := (specificHandler d.vendor).getD d.handler })

/-- `RequestVendorId`, and the vendor id that the device has reported by then. -/
def requestVendorId (a initiator : Fin 16) : Proc Unit := do
  let handled ← ask (·.isHandled a)
  if handled then pure ()
  else
    let responded ← transmit initiator a 0x8C true
    let o ← observe
    callWhen responded (update (World.updateDevice a fun d =>
      { d with vendor := o.vendor.getD d.vendor }))
    replaceHandler a

/-- `GetVendorId`. -/
def getVendorId (a initiator : Fin 16) : Proc VendorId := do
  let status ← getStatus a false
  let vendor ← ask fun w => (w.devices a).vendor
  callWhen (status = .present ∧ vendor = 0) (requestVendorId a initiator)
  ask fun w => (w.devices a).vendor

/-- `CheckVendorIdRequested`. -/
def checkVendorIdRequested (a initiator : Fin 16) : Proc Unit := do
  let requested ← ask fun w => (w.devices a).vendorIdRequested
  update (World.updateDevice a fun d => { d with vendorIdRequested := true })
  if requested then pure ()
  else
    replaceHandler a
    discard (getVendorId a initiator)

/-- `SetPhysicalAddress` of a device. -/
def setPhysicalAddress (a : Fin 16) (pa : UInt16) : Proc Unit :=
  update (World.updateDevice a fun d =>
    if pa > 0 then { d with physicalAddress := pa } else d)

/-- `RequestPhysicalAddress`, and the address that the device has reported by then. -/
def requestPhysicalAddress (a initiator : Fin 16) : Proc Unit := do
  let handled ← ask (·.isHandled a)
  if handled then pure ()
  else
    let responded ← transmit initiator a 0x83 true
    let o ← observe
    callWhen responded (setPhysicalAddress a (o.physicalAddress.getD 0))

/-- `GetPhysicalAddress`: an unknown one is requested from a device that is present. -/
def getPhysicalAddress (a initiator : Fin 16) : Proc UInt16 := do
  let status ← getStatus a false
  let pa ← ask fun w => (w.devices a).physicalAddress
  callWhen (status = .present ∧ pa = invalidPhysicalAddress) do
    checkVendorIdRequested a initiator
    requestPhysicalAddress a initiator
  ask fun w => (w.devices a).physicalAddress

/-- `GetDeviceByPhysicalAddress` of the device map: the devices are asked in order until one has
    the address. -/
def getDeviceByPhysicalAddress (pa : UInt16) (bSuppressUpdate : Bool) :
    List (Fin 16) → Proc (Option (Fin 16))
  | [] => pure none
  | a :: as => do
    let initiator ← ask World.logicalAddress
    let known ← ask fun w => (w.devices a).physicalAddress
    let current ← callOr (!bSuppressUpdate) known (getPhysicalAddress a initiator)
    if current = pa then pure (some a) else getDeviceByPhysicalAddress pa bSuppressUpdate as

/-! ### Start-up -/

/-- What the constructor of a device leaves. -/
def Device.initial (a : Fin 16) : Device where
  status := .unknown
  physicalAddress := if a = 0 then physicalAddressTv else invalidPhysicalAddress
  powerStatus := .unknown
  vendor := 0
  vendorIdRequested := false
  handler := .base
  streamPath := invalidPhysicalAddress
  activeSource := false
  activeSourceSent := false
  imageViewOnSent := false
  activeSourcePending := false
  unsupportedFeatures := []
  resets := 0

/-- The outside does not answer: nobody acknowledges anything and nothing is known. -/
def Outside.silent : Outside where
  pollAcked _ := false
  acked := false
  responded := false
  vendor := none
  physicalAddress := none
  detectedPhysicalAddress := invalidPhysicalAddress
  firmware := (0, 0, 0)
  delayOver := true
  named := true
  sourceSwitchAllowed := true
  ackMaskSet := true
  commandTaken := false
  ownFlag := false

/-- No client is registered yet. -/
structure World.AtStart (w : World) : Prop where
  clients : ∀ a, w.clients a = none
  status : ∀ a, (w.devices a).status = .unknown
  activeSource : ∀ a, (w.devices a).activeSource = false
  registered : ∀ c, (w.client c).registered = false
  addresses : ∀ c, (w.configuration c).logicalAddresses = .clear

/-- A processor that was just started, for clients with these configurations. -/
def World.start (configuration : ClientId → Configuration) (outside : ℕ → Outside) : World where
  devices := Device.initial
  clients _ := none
  client c := ⟨configuration c, false, false⟩
  libClient := 0
  libClients := [0]
  initialised := true
  monitor := false
  stallCommunication := false
  supportsSource _ := true
  eeprom := .clear
  modelYear := 0
  outside := outside

end CEC
