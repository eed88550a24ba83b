import LibCec.Types
import Mathlib.Data.Fintype.Pi

/-! The configuration of a client (`libcec_configuration`) and its two copy lists.

    An application changes one setting by reading the whole configuration, changing a field and
    writing it back:

        GetCurrentConfiguration(x)      m_configuration ──▶ x
        x.field = value
        SetConfiguration(x)             x ──▶ m_configuration

    Both directions are lists of assignments written by hand. `justCopy_getCurrentConfiguration`
    says what the pair leaves behind: everything but the two combo key settings, which only the
    second list has. -/

namespace CEC
open Schemes

/-! ### Addresses and device types -/

/-- `CEC_INVALID_PHYSICAL_ADDRESS`. -/
def invalidPhysicalAddress : UInt16 := 0xFFFF

/-- `CEC_PHYSICAL_ADDRESS_TV`. -/
def physicalAddressTv : UInt16 := 0

/-- `CEC_DEFAULT_PHYSICAL_ADDRESS`. -/
def defaultPhysicalAddress : UInt16 := 0x1000

/-- `CLibCEC::IsValidPhysicalAddress`. -/
def isValidPhysicalAddress (pa : UInt16) : Bool := 0x1000 ≤ pa && pa ≤ 0xFFFE

/-- `cec_logical_addresses`: a set of addresses, one of which is the primary one. The primary
    address of a set without addresses is `CECDEVICE_UNREGISTERED`, 15. -/
structure LogicalAddresses where
  primary : Fin 16
  addresses : Fin 16 → Bool
  deriving DecidableEq

namespace LogicalAddresses

/-- `Clear`. -/
def clear : LogicalAddresses := ⟨15, fun _ => false⟩

/-- `Set`: the first address that is set is the primary one. -/
def set (l : LogicalAddresses) (a : Fin 16) : LogicalAddresses where
  primary := if l.primary = 15 then a else l.primary
  addresses := Function.update l.addresses a true

/-- `IsSet`. -/
def isSet (l : LogicalAddresses) (a : Fin 16) : Bool := l.addresses a

/-- `IsEmpty`. -/
def isEmpty (l : LogicalAddresses) : Bool := l.primary = 15

/-- The addresses that are set, in the order in which `GetByLogicalAddresses` finds the devices. -/
def toList (l : LogicalAddresses) : List (Fin 16) := (List.finRange 16).filter l.isSet

@[simp] theorem mem_toList {l : LogicalAddresses} {a : Fin 16} : a ∈ l.toList ↔ l.isSet a := by
  simp [toList]

@[simp] theorem isSet_clear (a : Fin 16) : clear.isSet a = false := rfl

theorem isSet_set {l : LogicalAddresses} {a b : Fin 16} :
    (l.set a).isSet b ↔ b = a ∨ l.isSet b := by
  rcases eq_or_ne b a with rfl | h
  · simp [isSet, set]
  · simp [isSet, set, h]

/-- `AckMask`: one bit for each address that is set. -/
def ackMask (l : LogicalAddresses) : UInt16 :=
  l.toList.foldl (fun mask a => mask ||| 1 <<< UInt16.ofNat a) 0

end LogicalAddresses

/-- `cec_device_type`; `reserved` marks an unused slot of a type list. -/
inductive DeviceType where
  | tv | recordingDevice | reserved | tuner | playbackDevice | audioSystem
  deriving DecidableEq

/-- The value of the enumerator. -/
def DeviceType.code : DeviceType → UInt8
  | .tv => 0
  | .recordingDevice => 1
  | .reserved => 2
  | .tuner => 3
  | .playbackDevice => 4
  | .audioSystem => 5

/-- `cec_device_type_list`: five slots. -/
structure DeviceTypeList where
  types : List DeviceType
  five : types.length = 5
  deriving DecidableEq

namespace DeviceTypeList

/-- `Clear`. -/
def clear : DeviceTypeList := ⟨List.replicate 5 .reserved, rfl⟩

/-- `IsSet`. -/
def isSet (l : DeviceTypeList) (t : DeviceType) : Bool := l.types.contains t

/-- `IsEmpty`. -/
def isEmpty (l : DeviceTypeList) : Bool := l.types.all (· = .reserved)

/-- A type in the first unused slot, if there is one. -/
def addTo (t : DeviceType) : List DeviceType → List DeviceType
  | [] => []
  | slot :: slots => if slot = .reserved then t :: slots else slot :: addTo t slots

@[simp] theorem length_addTo (t : DeviceType) : ∀ slots, (addTo t slots).length = slots.length
  | [] => rfl
  | slot :: slots => by
    unfold addTo
    split
    · rfl
    · rw [List.length_cons, length_addTo t slots, List.length_cons]

/-- `Add`. -/
def add (l : DeviceTypeList) (t : DeviceType) : DeviceTypeList :=
  ⟨addTo t l.types, (length_addTo t l.types).trans l.five⟩

/-- The types in the slots that are used, in order. -/
def used (l : DeviceTypeList) : List DeviceType := l.types.filter (· ≠ .reserved)

end DeviceTypeList

/-! ### The configuration -/

/-- A pointer that is only stored and passed on; `none` is the null pointer. -/
abbrev Pointer := Option ℕ

/-- `LIBCEC_VERSION_CURRENT`. -/
def libcecVersionCurrent : UInt32 := 0x080106

/-- `libcec_configuration`. The device name is a string of at most `LIBCEC_OSD_NAME_SIZE - 1`
    characters. -/
structure Configuration where
  clientVersion : UInt32
  strDeviceName : BoundedBuffer UInt8 14
  deviceTypes : DeviceTypeList
  bAutodetectAddress : UInt8
  iPhysicalAddress : UInt16
  baseDevice : LogicalAddress
  iHDMIPort : UInt8
  tvVendor : UInt32
  wakeDevices : LogicalAddresses
  powerOffDevices : LogicalAddresses
  serverVersion : UInt32
  bGetSettingsFromROM : UInt8
  bActivateSource : UInt8
  bPowerOffOnStandby : UInt8
  callbackParam : Pointer
  callbacks : Pointer
  logicalAddresses : LogicalAddresses
  iFirmwareVersion : UInt16
  strDeviceLanguage : UInt8 × UInt8 × UInt8
  iFirmwareBuildDate : UInt32
  bMonitorOnly : UInt8
  cecVersion : UInt8
  adapterType : UInt16
  comboKey : UInt8
  iComboKeyTimeoutMs : UInt32
  iButtonRepeatRateMs : UInt32
  iButtonReleaseDelayMs : UInt32
  iDoubleTapTimeoutMs : UInt32
  bAutoWakeAVR : UInt8
  bAutoPowerOn : UInt8
  bAutonomousMode : UInt8
  iButtonRepeatDelayMs : UInt32
  iDeviceVendorId : UInt32
  deriving DecidableEq

namespace Configuration

/-- `Clear`, and what the constructor leaves. -/
def clear : Configuration where
  clientVersion := libcecVersionCurrent
  strDeviceName := .empty
  deviceTypes := .clear
  bAutodetectAddress := 1
  iPhysicalAddress := physicalAddressTv
  baseDevice := .tv
  iHDMIPort := 0
  tvVendor := 0
  wakeDevices := LogicalAddresses.clear.set 0
  powerOffDevices := LogicalAddresses.clear.set 15
  serverVersion := libcecVersionCurrent
  bGetSettingsFromROM := 0
  bActivateSource := 1
  bPowerOffOnStandby := 1
  callbackParam := none
  callbacks := none
  logicalAddresses := .clear
  iFirmwareVersion := 0xFFFF
  strDeviceLanguage := (0x65, 0x6E, 0x67)
  iFirmwareBuildDate := 0
  bMonitorOnly := 0
  cecVersion := 0x05
  adapterType := 0
  comboKey := 0x45
  iComboKeyTimeoutMs := 1000
  iButtonRepeatRateMs := 0
  iButtonReleaseDelayMs := 500
  iDoubleTapTimeoutMs := 0
  bAutoWakeAVR := 0
  bAutoPowerOn := 2
  bAutonomousMode := 2
  iButtonRepeatDelayMs := 200
  iDeviceVendorId := 0

/-- `CCECClient::GetCurrentConfiguration`: what is written to the caller's `configuration`. -/
def getCurrentConfiguration (m configuration : Configuration) : Configuration :=
  { configuration with
    strDeviceName := m.strDeviceName
    deviceTypes := m.deviceTypes
    bAutodetectAddress := m.bAutodetectAddress
    iPhysicalAddress := m.iPhysicalAddress
    baseDevice := m.baseDevice
    iHDMIPort := m.iHDMIPort
    clientVersion := m.clientVersion
    serverVersion := libcecVersionCurrent
    tvVendor := m.tvVendor
    bGetSettingsFromROM := m.bGetSettingsFromROM
    bActivateSource := m.bActivateSource
    wakeDevices := m.wakeDevices
    powerOffDevices := m.powerOffDevices
    logicalAddresses := m.logicalAddresses
    iFirmwareVersion := m.iFirmwareVersion
    strDeviceLanguage := m.strDeviceLanguage
    iFirmwareBuildDate := m.iFirmwareBuildDate
    bMonitorOnly := m.bMonitorOnly
    cecVersion := m.cecVersion
    adapterType := m.adapterType
    iDoubleTapTimeoutMs := m.iDoubleTapTimeoutMs
    iButtonRepeatRateMs := m.iButtonRepeatRateMs
    iButtonReleaseDelayMs := m.iButtonReleaseDelayMs
    bAutoWakeAVR := m.bAutoWakeAVR
    bAutoPowerOn := m.bAutoPowerOn
    bAutonomousMode := m.bAutonomousMode
    iButtonRepeatDelayMs := m.iButtonRepeatDelayMs
    iDeviceVendorId := m.iDeviceVendorId }

/-! ### The assignments of `SetConfiguration`

    `m` is `m_configuration`, `x` the caller's configuration. -/

/-- `EnableCallbacks`. -/
def enableCallbacks (m : Configuration) (cbParam callbacks : Pointer) : Configuration :=
  { m with callbackParam := cbParam, callbacks := callbacks }

/-- `SetClientVersion`. -/
def setClientVersion (m : Configuration) (version : UInt32) : Configuration :=
  { m with clientVersion := version }

/-- What `SetOSDName` writes. -/
def setOSDName (m : Configuration) (name : BoundedBuffer UInt8 14) : Configuration :=
  { m with strDeviceName := name }

/-- What `SetTVVendorOverride` writes. -/
def setTVVendorOverride (m : Configuration) (id : UInt32) : Configuration := { m with tvVendor := id }

/-- The fields that are just copied. -/
def justCopy (m x : Configuration) : Configuration :=
  { m with
    bActivateSource := x.bActivateSource
    bGetSettingsFromROM := x.bGetSettingsFromROM
    wakeDevices := x.wakeDevices
    powerOffDevices := x.powerOffDevices
    strDeviceLanguage := x.strDeviceLanguage
    bMonitorOnly := x.bMonitorOnly
    cecVersion := x.cecVersion
    adapterType := x.adapterType
    iDoubleTapTimeoutMs := x.iDoubleTapTimeoutMs
    deviceTypes := x.deviceTypes
    comboKey := x.comboKey
    iComboKeyTimeoutMs := x.iComboKeyTimeoutMs
    iButtonRepeatRateMs := x.iButtonRepeatRateMs
    iButtonReleaseDelayMs := x.iButtonReleaseDelayMs
    bAutoWakeAVR := x.bAutoWakeAVR
    bAutoPowerOn :=
      if x.bAutoPowerOn = 0 ∨ x.bAutoPowerOn = 1 then x.bAutoPowerOn else m.bAutoPowerOn
    bAutonomousMode :=
      if x.bAutonomousMode = 0 ∨ x.bAutonomousMode = 1 then x.bAutonomousMode
      else m.bAutonomousMode
    iButtonRepeatDelayMs := x.iButtonRepeatDelayMs
    iDeviceVendorId := x.iDeviceVendorId }

/-- When activating the source was switched on, the TV is woken up too. -/
def wakeWithSource (activeSourceChanged : Bool) (m : Configuration) : Configuration :=
  if activeSourceChanged ∧ m.bActivateSource = 1 ∧ !m.wakeDevices.isSet 0 then
    { m with wakeDevices := m.wakeDevices.set 0 }
  else m

/-- When waking up the TV was switched off, the source is not activated either. -/
def sourceWithWake (wakeTvChanged : Bool) (m : Configuration) : Configuration :=
  if wakeTvChanged ∧ !m.wakeDevices.isSet 0 ∧ m.bActivateSource ≠ 0 then
    { m with bActivateSource := 0 }
  else m

/-- The second part of `SetConfiguration`: the copied fields and what depends on their changes. -/
def copySettings (m x : Configuration) : Configuration :=
  let activeSourceChanged := x.bActivateSource != m.bActivateSource
  let wakeTvChanged := x.wakeDevices.isSet 0 != m.wakeDevices.isSet 0
  sourceWithWake wakeTvChanged (wakeWithSource activeSourceChanged (justCopy m x))

/-! ### Reading and writing back -/

/-- Writing back what was read changes the two combo key settings and nothing else. -/
theorem justCopy_getCurrentConfiguration (m x : Configuration) :
    justCopy m (getCurrentConfiguration m x) =
      { m with comboKey := x.comboKey, iComboKeyTimeoutMs := x.iComboKeyTimeoutMs } := by
  simp only [justCopy, getCurrentConfiguration, Configuration.mk.injEq, true_and, and_true]
  exact ⟨ite_self _, ite_self _⟩

/-- Nothing depends on a change when nothing was changed. -/
theorem copySettings_getCurrentConfiguration (m x : Configuration) :
    copySettings m (getCurrentConfiguration m x) =
      { m with comboKey := x.comboKey, iComboKeyTimeoutMs := x.iComboKeyTimeoutMs } := by
  have hactive : (getCurrentConfiguration m x).bActivateSource = m.bActivateSource := rfl
  have hwake : (getCurrentConfiguration m x).wakeDevices = m.wakeDevices := rfl
  simp only [copySettings, justCopy_getCurrentConfiguration, hactive, hwake, bne_self_eq_false,
    sourceWithWake, wakeWithSource, Bool.false_eq_true, false_and, if_false]

end Configuration

end CEC
