import LibCec.Source

/-! The configuration side of a client (`CCECClient`): the physical address and
    `SetConfiguration`.

    The physical address comes from the configuration, from the adapter (`AutodetectPhysicalAddress`)
    or from a base device and one of its HDMI ports (`SetHDMIPort`), in this order. When it changes
    the address of the primary device, the client is registered again; that call is the parameter
    `reregister`. -/

namespace CEC
open Schemes Procedure

section address

variable (react : Reaction → Proc Unit)

/-- The loop of `SetDevicePhysicalAddress`; the result is the device that was the active source. -/
def readdress (initialised : Bool) (pa : UInt16) :
    List (Fin 16) → Option (Fin 16) → Proc (Option (Fin 16))
  | [], reactivateSource => pure reactivateSource
  | a :: as, reactivateSource => do
    let active ← ask fun w => (w.devices a).activeSource
    callWhen initialised (markAsInactiveSource a)
    setPhysicalAddress a pa
    callWhen initialised (transmitPhysicalAddress a)
    readdress initialised pa as (if active then some a else reactivateSource)

/-- `SetDevicePhysicalAddress`. -/
def setDevicePhysicalAddress (c : ClientId) (pa : UInt16) : Proc Unit :=
  if !isValidPhysicalAddress pa then pure ()
  else do
    let w ← ask id
    let reactivateSource ← readdress (w.client c).initialised pa
      (w.configuration c).logicalAddresses.toList none
    match reactivateSource with
    | some a =>
      callWhen (w.initialised && (w.client c).initialised) (discard (activateSource react a 0))
    | none => pure ()

/-- `SetPhysicalAddress` of a client. -/
def clientSetPhysicalAddress (c : ClientId) (pa : UInt16) : Proc Unit := do
  let m ← ask (·.configuration c)
  if m.iPhysicalAddress = pa then pure ()
  else
    update (World.updateConfiguration c fun m => { m with iPhysicalAddress := pa })
    setDevicePhysicalAddress react c pa

/-- The address of a port of a device: the port number goes to the first zero digit. -/
def addPort (pa : UInt16) (iPort : UInt8) : UInt16 :=
  if pa = 0 then pa + 0x1000 * iPort.toUInt16
  else if pa % 0x1000 = 0 then pa + 0x100 * iPort.toUInt16
  else if pa % 0x100 = 0 then pa + 0x10 * iPort.toUInt16
  else if pa % 0x10 = 0 then pa + iPort.toUInt16
  else pa

/-- `GetPhysicalAddressFromPort`. -/
def getPhysicalAddressFromPort (c : ClientId) (iBaseDevice : LogicalAddress) (iPort : UInt8) :
    Proc UInt16 :=
  match iBaseDevice with
  | .unknown => pure invalidPhysicalAddress
  | .addr base => do
    let initiator ← ask (·.primaryOf c)
    let pa ← getPhysicalAddress base initiator
    pure (if pa > 0xFFFE then invalidPhysicalAddress else addPort pa iPort)

/-- `SetHDMIPort`. -/
def setHDMIPort (c : ClientId) (iBaseDevice : LogicalAddress) (iPort : UInt8) : Proc Bool :=
  if iPort < 1 ∨ iPort > 15 then pure false
  else do
    let w ← ask id
    let m := w.configuration c
    if m.baseDevice = iBaseDevice ∧ m.iHDMIPort = iPort ∧ isValidPhysicalAddress m.iPhysicalAddress then
      pure true
    else
      update (World.updateConfiguration c fun m =>
        { m with baseDevice := iBaseDevice, iHDMIPort := iPort, bAutodetectAddress := 0 })
      if !w.initialised then pure true
      else
        let pa ← getPhysicalAddressFromPort c iBaseDevice iPort
        clientSetPhysicalAddress react c
          (if isValidPhysicalAddress pa then pa
          else if isValidPhysicalAddress w.eeprom.iPhysicalAddress then w.eeprom.iPhysicalAddress
          else defaultPhysicalAddress)
        pure true

/-- `AutodetectPhysicalAddress`. -/
def autodetectPhysicalAddress (c : ClientId) : Proc Bool := do
  let o ← observe
  if isValidPhysicalAddress o.detectedPhysicalAddress then
    update (World.updateConfiguration c fun m =>
      { m with
        iPhysicalAddress := o.detectedPhysicalAddress
        iHDMIPort := 0
        baseDevice := .unknown
        bAutodetectAddress := 1 })
    pure true
  else
    update (World.updateConfiguration c fun m => { m with bAutodetectAddress := 0 })
    pure false

/-- `SetPhysicalAddress` with a configuration: the address, the detected one, or the port. -/
def setConfiguredPhysicalAddress (c : ClientId) (x : Configuration) : Proc Unit :=
  if isValidPhysicalAddress x.iPhysicalAddress then do
    clientSetPhysicalAddress react c x.iPhysicalAddress
    update (World.updateConfiguration c fun m =>
      { m with
        baseDevice := .unknown
        iHDMIPort := 0
        iPhysicalAddress := x.iPhysicalAddress
        bAutodetectAddress := 0 })
  else do
    let detected ← autodetectPhysicalAddress c
    if detected then
      let pa ← ask fun w => (w.configuration c).iPhysicalAddress
      setDevicePhysicalAddress react c pa
    else
      let set ← callOr (x.baseDevice ≠ .unknown ∧ x.iHDMIPort ≠ 0) false
        (setHDMIPort react c x.baseDevice x.iHDMIPort)
      let initialised ← ask World.initialised
      -- reset to defaults if something went wrong
      callWhen (!set && initialised) (discard (setHDMIPort react c .tv 1))

/-- `RefreshPhysicalAddress`: the base device has reported its address. -/
def refreshPhysicalAddress (base : Fin 16) (c : ClientId) : Proc Unit := do
  let m ← ask (·.configuration c)
  if m.baseDevice ≠ .addr base ∨ m.iHDMIPort < 1 ∨ m.iHDMIPort > 15 then pure ()
  else
    let pa ← getPhysicalAddressFromPort c (.addr base) m.iHDMIPort
    if !isValidPhysicalAddress pa || pa = m.iPhysicalAddress then pure ()
    else clientSetPhysicalAddress react c pa

end address

/-! ### `SetConfiguration` -/

/-- `SetOSDName`. -/
def setOSDName (c : ClientId) (name : BoundedBuffer UInt8 14) : Proc Unit := do
  let w ← ask id
  if (w.configuration c).strDeviceName = name then pure ()
  else
    update (World.updateConfiguration c (·.setOSDName name))
    let o ← observe
    callWhen (!o.named && w.initialised) (transmitOSDName (w.primaryOf c) 0)

/-- `SetTVVendorOverride`. -/
def setTVVendorOverride (c : ClientId) (id : VendorId) : Proc Unit := do
  let m ← ask (·.configuration c)
  if m.tvVendor = id then pure ()
  else
    update (World.updateConfiguration c (·.setTVVendorOverride id))
    callWhen (id ≠ 0) (update (World.updateDevice 0 fun d => { d with vendor := id }))

/-- `SetDeviceTypes`: whether the types changed on a running processor. -/
def setDeviceTypes (c : ClientId) (deviceTypes : DeviceTypeList) : Proc Bool := do
  let w ← ask id
  update (World.updateConfiguration c fun m => { m with deviceTypes := deviceTypes })
  pure (w.initialised && (w.configuration c).deviceTypes ≠ deviceTypes)

section configuration

variable (react : Reaction → Proc Unit) (reregister : ClientId → Proc Bool)

/-- The settings that `SetConfiguration` takes over before it looks at the physical address. -/
def applySettings (c : ClientId) (x : Configuration) : Proc Unit := do
  callWhen x.callbacks.isSome
    (update (World.updateConfiguration c (·.enableCallbacks x.callbackParam x.callbacks)))
  update (World.updateConfiguration c (·.setClientVersion x.clientVersion))
  setOSDName c x.strDeviceName
  setTVVendorOverride c x.tvVendor
  update (World.updateConfiguration c (·.copySettings x))

/-- A configured physical address takes precedence over the base device and port, which are only
    used when no address was configured. -/
def applyPhysicalAddress (c : ClientId) (x : Configuration) : Proc Unit :=
  if isValidPhysicalAddress x.iPhysicalAddress then setConfiguredPhysicalAddress react c x
  else if x.baseDevice ≠ .unknown ∧ x.iHDMIPort > 0 ∧ x.iHDMIPort ≤ 0xF then
    discard (setHDMIPort react c x.baseDevice x.iHDMIPort)
  else setConfiguredPhysicalAddress react c x

/-- The device types and the physical address; whether the client has to be registered again. -/
def applyAddress (c : ClientId) (x : Configuration) : Proc Bool := do
  let initialised ← ask World.initialised
  let bNeedReinit ← callOr initialised false (setDeviceTypes c x.deviceTypes)
  if bNeedReinit then
    update (World.updateConfiguration c fun m =>
      { m with
        iPhysicalAddress := x.iPhysicalAddress
        baseDevice := x.baseDevice
        iHDMIPort := x.iHDMIPort })
    pure true
  else
    applyPhysicalAddress react c x
    pure false

/-- `SetConfiguration`. -/
def setConfiguration (c : ClientId) (x : Configuration) : Proc Unit := do
  let w ← ask id
  let iPA :=
    if w.initialised then (w.devices (w.primaryOf c)).physicalAddress else invalidPhysicalAddress
  applySettings c x
  let bNeedReinit ← applyAddress react c x
  let primary ← ask fun v => v.devices (v.primaryOf c)
  if bNeedReinit || primary.physicalAddress ≠ iPA then
    -- PA or device type changed
    discard (reregister c)
  else
    callWhen (x.bActivateSource = 1 ∧ w.initialised ∧ !primary.activeSource)
      (discard (activateSource react (w.primaryOf c) 0))

end configuration

end CEC
