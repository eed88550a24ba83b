import LibCec.Client

/-! Registering clients and allocating logical addresses.

    A client asks for device types; for each of them an address is tried that nobody answers for.

        RegisterClient
          ├─ UnregisterClient            (when it is registered)
          ├─ SetConfiguration ─ ─ ▶ RegisterClient, when the primary device's address changes
          ├─ AllocateLogicalAddresses    m_clients, device status, m_bStallCommunication
          └─ OnRegister, OSD name, power status

    `HandleLogicalAddressLost` stalls outgoing communication and starts a thread that allocates
    again. -/

namespace CEC
open Schemes Procedure

/-! ### Allocating the addresses of a client -/

/-- `TryLogicalAddress`. Every address is polled at most once while the addresses of a client are
    allocated, so the answers to the polls are given by `polls`. -/
def tryLogicalAddress (polls : Fin 16 → Bool) (a : Fin 16) : Proc Bool := do
  let status ← ask fun w => (w.devices a).status
  if status = .present ∨ status = .handledByLibCec then pure false
  else if polls a then
    setDeviceStatus a .present
    pure false
  else
    setDeviceStatus a .handledByLibCec
    pure true

/-- The first of these addresses that can be used. -/
def tryLogicalAddresses (polls : Fin 16 → Bool) : List (Fin 16) → Proc (Option (Fin 16))
  | [] => pure none
  | a :: as => do
    let ok ← tryLogicalAddress polls a
    if ok then pure (some a) else tryLogicalAddresses polls as

/-- The addresses for a device type, in the order in which they are tried. -/
def candidates : DeviceType → List (Fin 16)
  | .recordingDevice => [1, 2, 9]
  | .tuner => [3, 6, 7, 10]
  | .playbackDevice => [4, 8, 11]
  | .audioSystem => [5]
  | .tv | .reserved => []

/-- An address for a device type: the TV's is taken without being tried. -/
def allocateLogicalAddress (polls : Fin 16 → Bool) (t : DeviceType) : Proc (Option (Fin 16)) :=
  if t = .tv then pure (some 0) else tryLogicalAddresses polls (candidates t)

/-- The types that the TV's handler supports, each once. -/
def supportedTypes (h : Handler) (l : DeviceTypeList) : DeviceTypeList :=
  l.used.foldl (fun types t =>
    let t := h.getReplacementDeviceType t
    if types.isSet t then types else types.add t) .clear

/-- `SetSupportedDeviceTypes`. -/
def setSupportedDeviceTypes (c : ClientId) : Proc Unit := do
  replaceHandler 0
  let handler ← ask fun w => (w.devices 0).handler
  update (World.updateConfiguration c fun m =>
    { m with deviceTypes := supportedTypes handler m.deviceTypes })

/-- The loop of `AllocateLogicalAddresses` over the types. -/
def allocateTypes (polls : Fin 16 → Bool) (c : ClientId) : List DeviceType → Proc Bool
  | [] => pure true
  | t :: ts => do
    let address ← allocateLogicalAddress polls t
    match address with
    | none => pure false
    | some a =>
      update (World.updateConfiguration c fun m =>
        { m with logicalAddresses := m.logicalAddresses.set a })
      allocateTypes polls c ts

/-- `AllocateLogicalAddresses` of a client. -/
def clientAllocateLogicalAddresses (c : ClientId) : Proc Bool := do
  update (World.updateConfiguration c fun m => { m with logicalAddresses := .clear })
  setSupportedDeviceTypes c
  let types ← ask fun w => (w.configuration c).deviceTypes
  if types.isEmpty then pure false
  else
    let o ← observe
    allocateTypes o.pollAcked c types.used

/-! ### `m_clients` -/

/-- Erase the entry of an address. -/
def eraseClient (a : Fin 16) : Proc Unit :=
  update fun w => { w with clients := Function.update w.clients a none }

/-- Register a client on an address, in place of a previous one. -/
def insertClient (c : ClientId) (a : Fin 16) : Proc Unit := do
  let pa ← ask fun w => (w.configuration c).iPhysicalAddress
  callWhen (isValidPhysicalAddress pa) (setPhysicalAddress a pa)
  update fun w => { w with clients := Function.update w.clients a (some c) }

/-- `SetLogicalAddresses`: whether the adapter takes the new ack mask. -/
def setAckMask : Proc Bool := do
  let o ← observe
  pure o.ackMaskSet

/-- `AllocateLogicalAddresses` of the processor. -/
def allocateLogicalAddresses (c : ClientId) : Proc Bool := do
  -- unregister this client from the old addresses
  update (World.updateClient c fun k => { k with registered := false })
  let old ← ask fun w => (w.configuration c).logicalAddresses.toList
  forEach eraseClient old
  let allocated ← clientAllocateLogicalAddresses c
  if !allocated then pure false
  else
    let m ← ask (·.configuration c)
    callWhen (m.bAutodetectAddress ≠ 0) (discard (autodetectPhysicalAddress c))
    -- register this client on the new addresses
    forEach (insertClient c) m.logicalAddresses.toList
    discard setAckMask
    -- resume outgoing communication
    update fun w => { w with stallCommunication := false }
    pure true

/-- The body of the loop of `UnregisterClient`. -/
def unregisterAddress (a : Fin 16) : Proc Unit := do
  eraseClient a
  resetDeviceStatus a

/-- `UnregisterClient`; `OnUnregister` marks the client as neither registered nor initialised. -/
def unregisterClient (c : ClientId) : Proc Bool := do
  update (World.updateClient c fun k => { k with registered := false, initialised := false })
  let addresses ← ask fun w => (w.configuration c).logicalAddresses.toList
  forEach unregisterAddress addresses
  setAckMask

section registration

variable (react : Reaction → Proc Unit) (reregister : ClientId → Proc Bool)

/-- `OnRegister`. -/
def onRegister (c : ClientId) : Proc Bool := do
  let w ← ask id
  if (w.client c).initialised then pure true
  else if (w.configuration c).logicalAddresses.toList = [] then pure false
  else
    update (World.updateClient c fun k => { k with initialised := true })
    callWhen (!isValidPhysicalAddress (w.configuration c).iPhysicalAddress)
      (setConfiguredPhysicalAddress react c (w.configuration c))
    callWhen ((w.configuration c).bActivateSource = 1)
      (discard (activateSource react (w.primaryOf c) 500))
    pure true

/-- The settings that a client takes over from the adapter: the detected address and, if it wants
    them, those of the EEPROM. -/
def settingsFromAdapter (detected : UInt16) (rom m : Configuration) : Configuration :=
  let m :=
    if m.bAutodetectAddress = 1 ∧ !isValidPhysicalAddress m.iPhysicalAddress ∧
        isValidPhysicalAddress detected then
      { m with iPhysicalAddress := detected }
    else m
  let m :=
    if m.bGetSettingsFromROM = 1 then
      { m with
        deviceTypes := if rom.deviceTypes.isEmpty then m.deviceTypes else rom.deviceTypes
        iPhysicalAddress :=
          if !isValidPhysicalAddress m.iPhysicalAddress ∧ isValidPhysicalAddress rom.iPhysicalAddress
          then rom.iPhysicalAddress
          else m.iPhysicalAddress
        strDeviceName := rom.strDeviceName }
    else m
  { m with bAutoPowerOn := rom.bAutoPowerOn, bAutonomousMode := rom.bAutonomousMode }

/-- `RegisterClient` up to the allocation; whether it gets there. -/
def prepareRegistration (c : ClientId) : Proc Bool := do
  let registered ← ask fun w => (w.client c).registered
  callWhen registered (discard (unregisterClient c))
  update fun w => { w with monitor := false }
  let source ← ask (·.transmitSource 15)
  match source with
  | none => pure false
  | some sourceAddress =>
    -- ensure that we know the vendor id of the TV, and that its handler is replaced
    discard (getVendorId 0 sourceAddress)
    replaceHandler 0
    update (World.updateClient c fun k => { k with initialised := false })
    let o ← observe
    let rom ← ask World.eeprom
    update (World.updateConfiguration c (settingsFromAdapter o.detectedPhysicalAddress rom))
    let m ← ask (·.configuration c)
    setConfiguration react reregister c m
    pure true

/-- `RegisterClient` after the allocation. -/
def completeRegistration (c : ClientId) : Proc Bool := do
  let o ← observe
  update (World.updateConfiguration c fun m =>
    { m with
      serverVersion := libcecVersionCurrent
      iFirmwareVersion := o.firmware.1
      iFirmwareBuildDate := o.firmware.2.1
      adapterType := o.firmware.2.2 })
  update (World.updateClient c fun k => { k with registered := true })
  let sourceAddress ← ask (·.primaryOf c)
  let ok ← onRegister react c
  -- report our OSD name to the TV, since some TVs don't request it
  transmitOSDName sourceAddress 0
  requestPowerStatus react 0 sourceAddress
  pure ok

/-- `RegisterClient`, with the call of itself that `SetConfiguration` may make as a parameter. -/
def registerClientWith (c : ClientId) : Proc Bool := do
  let w ← ask id
  if (w.configuration c).bMonitorOnly = 1 then pure true
  else if !w.initialised then pure false
  else
    let ready ← prepareRegistration react reregister c
    if !ready then pure false
    else
      let allocated ← allocateLogicalAddresses c
      if !allocated then
        -- restore the ack mask
        discard setAckMask
        pure false
      else completeRegistration react c

end registration

/-- `RegisterClient`, for calls that are nested at most `n` deep. -/
def registerClient : ℕ → ClientId → Proc Bool
  | 0, _ => stuck
  | n + 1, c => registerClientWith (CEC.react n) (registerClient n) c

/-! ### Changing types and addresses -/

/-- `GetDeviceByType`: a device of the client that has the type. -/
def World.deviceByType (w : World) (c : ClientId) (t : DeviceType) : Option (Fin 16) :=
  (w.configuration c).logicalAddresses.toList.find? fun a => deviceType a = t

/-- The type list after `ChangeDeviceType`: later duplicates of the new type are removed. -/
def changeTypes (source target : DeviceType) : Bool → List DeviceType → List DeviceType
  | _, [] => []
  | changed, t :: ts =>
    if t = .reserved then t :: changeTypes source target changed ts
    else if t = source then target :: changeTypes source target true ts
    else if t = target ∧ changed then .reserved :: changeTypes source target changed ts
    else t :: changeTypes source target changed ts

@[simp] theorem length_changeTypes (source target : DeviceType) :
    ∀ (changed : Bool) (ts : List DeviceType),
      (changeTypes source target changed ts).length = ts.length
  | _, [] => rfl
  | changed, t :: ts => by
    unfold changeTypes
    split_ifs <;> simp only [List.length_cons, length_changeTypes source target _ ts]

theorem length_changeTypes_deviceTypes (source target : DeviceType) (m : Configuration) :
    (changeTypes source target false m.deviceTypes.types).length = 5 :=
  (length_changeTypes ..).trans m.deviceTypes.five

/-- `ChangeDeviceType`. -/
def changeDeviceType (n : ℕ) (c : ClientId) (source target : DeviceType) : Proc Bool :=
  if source = target then pure true
  else do
    let previous ← ask (·.deviceByType c source)
    match previous with
    | none => pure false
    | some _ =>
      update (World.updateConfiguration c fun m =>
        { m with deviceTypes :=
          ⟨changeTypes source target false m.deviceTypes.types,
            (length_changeTypes ..).trans m.deviceTypes.five⟩ })
      registerClient n c

/-- `SetLogicalAddress`. -/
def setLogicalAddress (n : ℕ) (c : ClientId) (a : Fin 16) : Proc Bool := do
  let primary ← ask (·.primaryOf c)
  if primary = a then pure true
  else
    update (World.updateConfiguration c fun m =>
      { m with logicalAddresses := { m.logicalAddresses with primary := a }.set a })
    registerClient n c

/-! ### Losing an address -/

/-- `GetClient` of an address, the primary client when it has none. -/
def World.clientToReallocate (w : World) (oldAddress : Fin 16) : Option ClientId :=
  (w.clients oldAddress).or w.primaryClient

/-- `HandleLogicalAddressLost`: the client for which a thread is started, if any. -/
def handleLogicalAddressLost (oldAddress : Fin 16) : Proc (Option ClientId) := do
  -- stall outgoing messages until we know our new LA
  update fun w => { w with stallCommunication := true }
  -- reset the TV and the previous address
  setDeviceStatus 0 .unknown
  callWhen (oldAddress < 15) (setDeviceStatus oldAddress .unknown)
  -- try to detect the vendor id
  discard (getVendorId 0 15)
  ask (·.clientToReallocate oldAddress)

/-- `HandleLogicalAddressLost` and the thread that it starts, run to its end. -/
def addressLost (oldAddress : Fin 16) : Proc Unit := do
  let client ← handleLogicalAddressLost oldAddress
  match client with
  | some c => discard (allocateLogicalAddresses c)
  | none => pure ()

end CEC
