import LibCec.FrameSizes
import Mathlib.Data.List.TakeWhile

/-! What a device tells about itself, and what is stored of it.

    A device that libCEC handles transmits what its own record holds; who receives the command stores
    it in the record of the initiator:

        m_cecVersion ────────────▶ <CEC Version> ─────────────────▶ m_cecVersion
        m_menuLanguage ──────────▶ <Set Menu Language> ───────────▶ m_menuLanguage
        m_strDeviceName ─────────▶ <Set OSD Name> ────────────────▶ m_strDeviceName
        m_iPhysicalAddress ──────▶ <Report Physical Address> ─────▶ m_iPhysicalAddress
        m_powerStatus ───────────▶ <Report Power Status> ─────────▶ m_powerStatus
        m_vendor ────────────────▶ <Device Vendor ID> ────────────▶ m_vendor
        m_audioStatus ───────────▶ <Report Audio Status> ─────────▶ m_audioStatus
        m_systemAudioModeStatus ─▶ <(Set) System Audio Mode ...> ─▶ m_systemAudioModeStatus

    On the way are the formatted command, its bytes on the bus, and the command that they are made
    into again. `exchanged` says what is stored, and when that is what the device holds. The handlers
    of some vendors store something else, too: that the device must be powered on. -/

namespace CEC
open Schemes

namespace Information

/-! ### The records -/

/-- What `CCECBusDevice` and `CCECAudioSystem` hold about a device. -/
structure DeviceInfo where
  cecVersion : UInt8
  menuLanguage : List UInt8
  deviceName : List UInt8
  physicalAddress : UInt16
  powerStatus : PowerStatus
  vendor : VendorId
  audioStatus : UInt8
  systemAudioModeStatus : UInt8
  deriving DecidableEq

/-- `CEC_AUDIO_VOLUME_STATUS_UNKNOWN`. -/
def audioStatusUnknown : UInt8 := 0x7F

/-- `CEC_SYSTEM_AUDIO_STATUS_UNKNOWN`. -/
def systemAudioStatusUnknown : UInt8 := 2

/-- The menu language that is not known, `"???"`. -/
def unknownLanguage : List UInt8 := [0x3F, 0x3F, 0x3F]

namespace DeviceInfo

/-- What the constructors leave. -/
def initial (a : Fin 16) : DeviceInfo where
  cecVersion := 0x00
  menuLanguage := unknownLanguage
  deviceName := logicalAddressName a
  physicalAddress := 0xFFFF
  powerStatus := .unknown
  vendor := 0
  audioStatus := audioStatusUnknown
  systemAudioModeStatus := systemAudioStatusUnknown

variable (d : DeviceInfo)

def setCecVersion (newVersion : UInt8) : DeviceInfo := { d with cecVersion := newVersion }

def setMenuLanguage (strLanguage : List UInt8) : DeviceInfo := { d with menuLanguage := strLanguage }

def setOSDName (strName : List UInt8) : DeviceInfo := { d with deviceName := strName }

/-- `SetPhysicalAddress`, which ignores the address of the root. -/
def setPhysicalAddress (iNewAddress : UInt16) : DeviceInfo :=
  if iNewAddress > 0 then { d with physicalAddress := iNewAddress } else d

def setPowerStatus (powerStatus : PowerStatus) : DeviceInfo := { d with powerStatus }

def setVendorId (iVendorId : VendorId) : DeviceInfo := { d with vendor := iVendorId }

def setAudioStatus (status : UInt8) : DeviceInfo := { d with audioStatus := status }

def setSystemAudioModeStatus (mode : UInt8) : DeviceInfo := { d with systemAudioModeStatus := mode }

/-- `ResetDeviceStatus`, which leaves the rest as it is. -/
def resetDeviceStatus (a : Fin 16) : DeviceInfo :=
  (((d.setPowerStatus .unknown).setVendorId 0).setCecVersion 0x00).setOSDName (logicalAddressName a)

end DeviceInfo

/-- The records that a library holds, by logical address. -/
abbrev Records := Fin 16 → DeviceInfo

/-- What else decides about how a library handles a command: whether CEC is initialised, and the
    base device and the port of each of its clients. -/
structure Listener where
  initialised : Bool
  clients : List (LogicalAddress × UInt8)

/-- Some client derives its physical address from the device. -/
def Listener.follows (l : Listener) (a : Fin 16) : Bool :=
  l.clients.any fun p => p.1 = .addr a && p.2 ≥ 1 && p.2 ≤ 15

/-! ### What the handlers store -/

namespace Records

variable (s : Records) (c : Received)

/-- The record of the initiator is changed if the operands are accepted. -/
def store (accepted : Bool) (f : DeviceInfo → DeviceInfo) : Records × Handling :=
  if accepted then (Function.update s c.initiator (f (s c.initiator)), .handled)
  else (s, .abort .invalidOperand)

def handleDeviceCecVersion : Records × Handling :=
  store s c (c.size = 1) (·.setCecVersion (c.parameter 0))

def handleSetMenuLanguage : Records × Handling :=
  store s c (c.size = 3)
    (·.setMenuLanguage (CharArray.cString [c.parameter 0, c.parameter 1, c.parameter 2]))

/-- `HandleSetOSDName`; `buf` has room for 16 characters and a zero. -/
def handleSetOSDName : Records × Handling :=
  store s c (c.size > 0) (·.setOSDName (CharArray.cString (c.parameters.toList.take 16)))

/-- `HandleReportPhysicalAddress`, for an initiator that libCEC does not handle. -/
def handleReportPhysicalAddress : Records × Handling :=
  store s c (c.size = 3) (·.setPhysicalAddress (c.address 0))

def handleReportPowerStatus : Records × Handling :=
  store s c (c.size = 1) (·.setPowerStatus (c.parameter 0))

/-- `HandleDeviceVendorId`, which handles the command even if it is too short. -/
def handleDeviceVendorId : Records × Handling :=
  if c.size < 3 then (s, .handled) else store s c true (·.setVendorId c.vendorId)

def handleReportAudioStatus : Records × Handling :=
  store s c (c.size = 1 && isAudioSystem c.initiator) (·.setAudioStatus (c.parameter 0))

def handleSystemAudioModeStatus : Records × Handling :=
  store s c (c.size = 1 && isAudioSystem c.initiator) (·.setSystemAudioModeStatus (c.parameter 0))

def handleSetSystemAudioMode : Records × Handling :=
  store s c (c.size = 1 && isAudioSystem c.initiator) (·.setSystemAudioModeStatus (c.parameter 0))

/-- `HandleFeatureAbort`, which changes no record. -/
def handleFeatureAbort : Records × Handling := (s, .handled)

/-- What the base handler does with the commands that a device tells something in, and with the one
    it refuses with. -/
def baseHandle : Option (Records × Handling) :=
  match c.opcode with
  | 0x00 => some (handleFeatureAbort s)
  | 0x32 => some (handleSetMenuLanguage s c)
  | 0x47 => some (handleSetOSDName s c)
  | 0x72 => some (handleSetSystemAudioMode s c)
  | 0x7A => some (handleReportAudioStatus s c)
  | 0x7E => some (handleSystemAudioModeStatus s c)
  | 0x84 => some (handleReportPhysicalAddress s c)
  | 0x87 => some (handleDeviceVendorId s c)
  | 0x90 => some (handleReportPowerStatus s c)
  | 0x9E => some (handleDeviceCecVersion s c)
  | _ => none

/-- The initiator is marked as powered on. -/
def powerOn : Records := Function.update s c.initiator ((s c.initiator).setPowerStatus .on)

/-- `HandleDeviceVendorId` of Philips's handler. -/
def phHandleDeviceVendorId : Records × Handling := (s.powerOn c).handleDeviceVendorId c

/-- `HandleSetMenuLanguage` of Samsung's handler, which knows what a TV broadcasts when it wakes up. -/
def anHandleSetMenuLanguage (initialised : Bool) : Records × Handling :=
  (if initialised ∧ c.initiator = 0 ∧ c.destination = 15 then s.powerOn c else s).handleSetMenuLanguage c

/-- What the handler of the initiator's device does to the records of the devices that the library does
    not handle itself; no other vendor has a function here that changes one. There is no result for a
    reported address that a client of the library derives its own from: the client may register again
    then. -/
def handle (h : Handler) (l : Listener) : Option (Records × Handling) :=
  if c.opcode = 0x84 ∧ c.size = 3 ∧ l.follows c.initiator then none
  else if h = .ph ∧ c.opcode = 0x87 then some (phHandleDeviceVendorId s c)
  else if h = .an ∧ c.opcode = 0x32 then some (anHandleSetMenuLanguage s c l.initialised)
  else baseHandle s c

end Records

/-- The handler takes the command as a sign that the device is powered on. -/
def Listener.wakes (l : Listener) (h : Handler) (r : Received) : Bool :=
  h = .ph && r.opcode = 0x87 ||
    h = .an && r.opcode = 0x32 && l.initialised && r.initiator = 0 && r.destination = 15

/-- The records once a handler has marked the initiator as powered on, if it does. -/
def Records.woken (s : Records) (h : Handler) (l : Listener) (r : Received) : Records :=
  if l.wakes h r then s.powerOn r else s

/-- The handlers of the vendors only add that the device is powered on. -/
theorem Records.handle_eq (s : Records) (h : Handler) (l : Listener) (r : Received) :
    s.handle r h l = if r.opcode = 0x84 ∧ r.size = 3 ∧ l.follows r.initiator then none
      else (s.woken h l r).baseHandle r := by
  rw [Records.handle, Records.woken]
  congr 1
  by_cases hvendor : h = .ph ∧ r.opcode = 0x87
  · have hwakes : l.wakes h r = true := by simp [Listener.wakes, hvendor]
    rw [if_pos hvendor, if_pos hwakes, Records.baseHandle, hvendor.2]
    rfl
  by_cases hlanguage : h = .an ∧ r.opcode = 0x32
  · have hwakes : l.wakes h r = (l.initialised && r.initiator = 0 && r.destination = 15) := by
      simp [Listener.wakes, hlanguage]
    rw [if_neg hvendor, if_pos hlanguage, hwakes, Records.baseHandle, hlanguage.2]
    simp [Records.anHandleSetMenuLanguage, and_assoc]
  have hno : l.wakes h r = false := by
    simp only [Listener.wakes, Bool.or_eq_false_iff, Bool.and_eq_false_iff, decide_eq_false_iff_not]
    exact ⟨not_and_or.mp hvendor, .inl (.inl (.inl (not_and_or.mp hlanguage)))⟩
  rw [if_neg hvendor, if_neg hlanguage, hno, if_neg Bool.false_ne_true]

/-! ### What the devices transmit -/

/-- The functions of a device that transmit what it holds. -/
inductive TransmitCall where
  | transmitCECVersion (destination : Fin 16)
  | transmitSetMenuLanguage (destination : Fin 16)
  | transmitOSDName (destination : Fin 16)
  | transmitPhysicalAddress
  | transmitPowerState (destination : Fin 16)
  | transmitVendorID (destination : Fin 16) (bSendAbort : Bool)
  | transmitAudioStatus (destination : Fin 16)
  | transmitSystemAudioModeStatus (destination : Fin 16)
  | transmitSetSystemAudioMode (destination : Fin 16)

/-- `CEC_OPCODE_GIVE_DEVICE_VENDOR_ID`. -/
def opcodeGiveDeviceVendorId : UInt8 := 0x8C

/-- `Format` and the parameters, for two addresses of the bus. -/
def built (initiator destination : Fin 16) (opcode : UInt8) (parameters : List UInt8) : Command :=
  .formatted (.addr initiator) (.addr destination) opcode parameters

/-- `TransmitAbort`, for an opcode that is not recognised. -/
def abortCommand (source destination : Fin 16) (opcode : UInt8) : Command :=
  built source destination opcodeFeatureAbort [opcode, AbortReason.unrecognizedOpcode.code]

/-- The characters that `TransmitSetMenuLanguage` copies to `lang`. -/
def DeviceInfo.lang (d : DeviceInfo) : List UInt8 :=
  [d.menuLanguage.getD 0 0, d.menuLanguage.getD 1 0, d.menuLanguage.getD 2 0]

/-- The command that a device at an address builds in a call, if it builds one. A device that does
    not know its menu language refuses to tell its vendor. Only an audio system has the last three
    functions. -/
def DeviceInfo.transmit (d : DeviceInfo) (a : Fin 16) : TransmitCall → Option Command
  | .transmitCECVersion dest => some (built a dest 0x9E [d.cecVersion])
  | .transmitSetMenuLanguage dest =>
    if d.lang = unknownLanguage then some (abortCommand a dest opcodeGiveDeviceVendorId)
    else some (built a 15 0x32 d.lang)
  | .transmitOSDName dest => some (built a dest 0x47 d.deviceName)
  | .transmitPhysicalAddress =>
    if d.physicalAddress = 0xFFFF then none
    else some (built a 15 0x84 (addressBytes d.physicalAddress ++ [(deviceType a).code]))
  | .transmitPowerState dest => some (built a dest 0x90 [d.powerStatus])
  | .transmitVendorID dest bSendAbort =>
    if d.vendor = 0 then
      if bSendAbort then some (abortCommand a dest opcodeGiveDeviceVendorId) else none
    else some (built a 15 0x87
      [(d.vendor.toUInt64 >>> 16).toUInt8, (d.vendor.toUInt64 >>> 8).toUInt8, d.vendor.toUInt64.toUInt8])
  | .transmitAudioStatus dest =>
    if isAudioSystem a then some (built a dest 0x7A [d.audioStatus]) else none
  | .transmitSystemAudioModeStatus dest =>
    if isAudioSystem a then some (built a dest 0x7E [d.systemAudioModeStatus]) else none
  | .transmitSetSystemAudioMode dest =>
    if isAudioSystem a then some (built a dest 0x72 [d.systemAudioModeStatus]) else none

/-- What the bytes of a command on the bus are made into, by an adapter that pushes them. -/
def arrived (c : Command) : Option Received := (Command.clear.pushArray c.frameBytes).received

/-! ### What is told -/

/-- What a device can tell about itself. -/
inductive Topic where
  | cecVersion | menuLanguage | osdName | physicalAddress | powerStatus | vendorId | audioStatus
  | systemAudioMode
  deriving DecidableEq

/-- Something that is told. -/
inductive Told where
  | cecVersion (v : UInt8)
  | menuLanguage (l : List UInt8)
  | osdName (n : List UInt8)
  | physicalAddress (pa : UInt16)
  | powerStatus (p : PowerStatus)
  | vendorId (v : VendorId)
  | audioStatus (s : UInt8)
  | systemAudioMode (m : UInt8)
  deriving DecidableEq

def TransmitCall.topic : TransmitCall → Topic
  | .transmitCECVersion _ => .cecVersion
  | .transmitSetMenuLanguage _ => .menuLanguage
  | .transmitOSDName _ => .osdName
  | .transmitPhysicalAddress => .physicalAddress
  | .transmitPowerState _ => .powerStatus
  | .transmitVendorID _ _ => .vendorId
  | .transmitAudioStatus _ => .audioStatus
  | .transmitSystemAudioModeStatus _ | .transmitSetSystemAudioMode _ => .systemAudioMode

/-- What it is about. -/
def Told.topic : Told → Topic
  | .cecVersion _ => .cecVersion
  | .menuLanguage _ => .menuLanguage
  | .osdName _ => .osdName
  | .physicalAddress _ => .physicalAddress
  | .powerStatus _ => .powerStatus
  | .vendorId _ => .vendorId
  | .audioStatus _ => .audioStatus
  | .systemAudioMode _ => .systemAudioMode

/-- What a received command tells. -/
def heardIn (r : Received) : Option Told :=
  match r.opcode with
  | 0x32 =>
    if r.size = 3 then
      some (.menuLanguage (CharArray.cString [r.parameter 0, r.parameter 1, r.parameter 2]))
    else none
  | 0x47 =>
    if r.size > 0 then some (.osdName (CharArray.cString (r.parameters.toList.take 16))) else none
  | 0x72 | 0x7E =>
    if r.size = 1 && isAudioSystem r.initiator then some (.systemAudioMode (r.parameter 0)) else none
  | 0x7A =>
    if r.size = 1 && isAudioSystem r.initiator then some (.audioStatus (r.parameter 0)) else none
  | 0x84 =>
    if r.size = 3 && r.address 0 > 0 then some (.physicalAddress (r.address 0)) else none
  | 0x87 => if r.size < 3 then none else some (.vendorId r.vendorId)
  | 0x90 => if r.size = 1 then some (.powerStatus (r.parameter 0)) else none
  | 0x9E => if r.size = 1 then some (.cecVersion (r.parameter 0)) else none
  | _ => none

namespace DeviceInfo

variable (d : DeviceInfo)

/-- What the record holds. -/
def get : Topic → Told
  | .cecVersion => .cecVersion d.cecVersion
  | .menuLanguage => .menuLanguage d.menuLanguage
  | .osdName => .osdName d.deviceName
  | .physicalAddress => .physicalAddress d.physicalAddress
  | .powerStatus => .powerStatus d.powerStatus
  | .vendorId => .vendorId d.vendor
  | .audioStatus => .audioStatus d.audioStatus
  | .systemAudioMode => .systemAudioMode d.systemAudioModeStatus

/-- The record holds what is told. -/
def learn : Told → DeviceInfo
  | .cecVersion v => { d with cecVersion := v }
  | .menuLanguage l => { d with menuLanguage := l }
  | .osdName n => { d with deviceName := n }
  | .physicalAddress pa => { d with physicalAddress := pa }
  | .powerStatus p => { d with powerStatus := p }
  | .vendorId v => { d with vendor := v }
  | .audioStatus s => { d with audioStatus := s }
  | .systemAudioMode m => { d with systemAudioModeStatus := m }

/-- What the device tells: a text up to its first zero, the lower 24 bits of its vendor, and nothing
    that is not known or that is the address of the root. -/
def told : Topic → Option Told
  | .menuLanguage =>
    if d.lang = unknownLanguage then none else some (.menuLanguage (CharArray.cString d.lang))
  | .osdName =>
    if d.deviceName = [] then none else some (.osdName (CharArray.cString d.deviceName))
  | .physicalAddress =>
    if d.physicalAddress = 0xFFFF ∨ d.physicalAddress = 0 then none
    else some (.physicalAddress d.physicalAddress)
  | .vendorId => if d.vendor = 0 then none else some (.vendorId (d.vendor % 0x1000000))
  | t => some (d.get t)

/-- The device tells what it holds. -/
def Tells : Topic → Prop
  | .menuLanguage => d.menuLanguage ≠ unknownLanguage ∧ 0 ∉ d.menuLanguage
  | .osdName => d.deviceName ≠ [] ∧ 0 ∉ d.deviceName
  | .physicalAddress => d.physicalAddress ≠ 0xFFFF ∧ d.physicalAddress ≠ 0
  | .vendorId => d.vendor ≠ 0 ∧ d.vendor < 0x1000000
  | _ => True

/-- The texts fit where they are stored. -/
structure Fits : Prop where
  menuLanguage : d.menuLanguage.length ≤ 3
  deviceName : d.deviceName.length < osdNameSize

end DeviceInfo

/-- The record of a device after it has told something, or nothing. -/
def Records.hear (s : Records) (a : Fin 16) : Option Told → Records
  | some v => Function.update s a ((s a).learn v)
  | none => s

/-! ### The bytes on the way -/

theorem address_bytes (pa : UInt16) :
    (pa >>> 8).toUInt8.toUInt16 <<< 8 ||| pa.toUInt8.toUInt16 = pa := by
  apply UInt16.toNat_inj.mp
  have hpa : pa.toNat < 65536 := pa.toNat_lt
  have hlow : pa.toNat % 256 < 2 ^ 8 := Nat.mod_lt _ (by decide)
  have hhigh : (pa.toNat >>> 8 % 256) <<< 8 % 65536 = (pa.toNat / 256) <<< 8 := by
    rw [Nat.shiftRight_eq_div_pow, Nat.shiftLeft_eq, Nat.shiftLeft_eq]
    omega
  simp only [UInt16.toNat_or, UInt16.toNat_shiftLeft, UInt8.toNat_toUInt16, UInt16.toNat_toUInt8,
    UInt16.toNat_shiftRight]
  change (pa.toNat >>> 8 % 256) <<< 8 % 65536 ||| pa.toNat % 256 = _
  rw [hhigh, ← Nat.shiftLeft_add_eq_or_of_lt hlow, Nat.shiftLeft_eq]
  omega

theorem vendor_bytes (v : VendorId) :
    ((v.toUInt64 >>> 16).toUInt8.toUInt32 <<< 16) + ((v.toUInt64 >>> 8).toUInt8.toUInt32 <<< 8) +
      v.toUInt64.toUInt8.toUInt32 = v % 0x1000000 := by
  apply UInt32.toNat_inj.mp
  have hv : v.toNat < 4294967296 := v.toNat_lt
  simp only [UInt32.toNat_add, UInt32.toNat_shiftLeft, UInt8.toNat_toUInt32, UInt64.toNat_toUInt8,
    UInt64.toNat_shiftRight, UInt32.toNat_toUInt64, UInt32.toNat_mod]
  change (((v.toNat >>> 16 % 256) <<< 16 % 4294967296 + (v.toNat >>> 8 % 256) <<< 8 % 4294967296) %
    4294967296 + v.toNat % 256) % 4294967296 = v.toNat % 16777216
  simp only [Nat.shiftRight_eq_div_pow, Nat.shiftLeft_eq]
  omega

theorem received_of_sameFrame {c d : Command} (h : Command.SameFrame c d) : c.received = d.received := by
  simp only [Command.received, h.initiator, h.destination, h.opcodeSet, h.opcode, h.parameters]

/-- A frame with an opcode is received as it was built, whichever adapter receives it. -/
theorem arrived_built {i dest : Fin 16} {opcode : UInt8} {parameters : List UInt8}
    (hopcode : opcode ≠ opcodeNone) (hlen : parameters.length ≤ 14) :
    ∃ r : Received, arrived (built i dest opcode parameters) = some r ∧ r.initiator = i ∧
      r.opcode = opcode ∧ r.parameters.toList = parameters ∧
      ∀ cmd, FormatsTo (built i dest opcode parameters).frameBytes cmd → cmd.received = some r := by
  have hformat : Command.format (.addr i) (.addr dest) opcode defaultTransmitTimeout =
      { Command.clear with
        initiator := .addr i, destination := .addr dest, opcode, opcodeSet := true } := by
    rw [Command.format, if_pos hopcode]
    rfl
  have hparameters : (Command.clear.parameters.pushAll parameters).toList = parameters := by
    rw [BoundedBuffer.toList_pushAll]
    exact List.take_of_length_le (hlen.trans (by decide))
  have hbuilt : built i dest opcode parameters =
      { Command.clear with
        initiator := .addr i, destination := .addr dest, opcode, opcodeSet := true,
        parameters := Command.clear.parameters.pushAll parameters } := by
    rw [built, Command.formatted, hformat]
  have hwire : (built i dest opcode parameters).OnWire := by
    rw [hbuilt]
    exact ⟨by simp, by simp, fun h => absurd h (by simp)⟩
  have hframe : (built i dest opcode parameters).frameBytes =
      (built i dest opcode parameters).header :: opcode :: parameters := by
    rw [Command.frameBytes, hbuilt]
    simp only [if_true, hparameters]
  have hreceived : (built i dest opcode parameters).received =
      some ⟨i, dest, true, opcode, Command.clear.parameters.pushAll parameters⟩ := by
    rw [hbuilt]
    rfl
  have harrived : arrived (built i dest opcode parameters) =
      (built i dest opcode parameters).received := by
    obtain ⟨hinitiator, hdestination, hset, hop, hparams⟩ := Command.pushArray_frameBytes hwire
    have hop := hop (by rw [hbuilt])
    simp only [arrived, Command.received, hinitiator, hdestination, hset, hop, hparams]
  refine ⟨_, harrived.trans hreceived, rfl, rfl, hparameters, fun cmd hcmd => ?_⟩
  have hlength : (built i dest opcode parameters).frameBytes.length ≤ maxFrameSize := by
    rw [hframe]
    exact Nat.succ_le_succ (Nat.succ_le_succ hlen)
  have hcmd := hcmd.eq_formatReceived (by rw [hframe]; exact List.cons_ne_nil _ _) hlength
  have hsame := (Command.sameFrame_iff (built i dest opcode parameters).header opcode parameters).mpr
    hopcode
  rw [← harrived.trans hreceived, arrived, hcmd, hframe]
  exact received_of_sameFrame hsame

/-! ### What is heard -/

/-- What a received command has changed: the record of the device holds what was told; that is what the
    device holds when the device tells it, or when it tells nothing and the record held it before. The
    device may be marked as powered on, too; nothing else changes. -/
structure Exchange (h : Handler) (l : Listener) (d : DeviceInfo) (x : TransmitCall) (r : Received)
    (s s' : Records) : Prop where
  agrees : (s' r.initiator).get x.topic = d.get x.topic ↔
    d.Tells x.topic ∨ d.told x.topic = none ∧ (s r.initiator).get x.topic = d.get x.topic
  woken : l.wakes h r → (s' r.initiator).powerStatus = .on
  others : ∀ b t, (s' b).get t = (s b).get t ∨ b = r.initiator ∧
    (t = x.topic ∨ t = .powerStatus ∧ l.wakes h r)

variable {d : DeviceInfo} {a : Fin 16} {t u : Topic} {s : Records}

theorem topic_of_told {v : Told} (h : d.told t = some v) : v.topic = t := by
  cases t with
  | menuLanguage | osdName | physicalAddress | vendorId =>
    obtain ⟨-, hv⟩ := Option.ite_none_left_eq_some.mp h
    obtain rfl := Option.some.inj hv
    rfl
  | _ =>
    obtain rfl := Option.some.inj h
    rfl

/-- A record holds what it has learnt, and the rest of it stays as it was. -/
theorem get_learn (d : DeviceInfo) (v : Told) :
    (d.learn v).get v.topic = v ∧ ∀ u ≠ v.topic, (d.learn v).get u = d.get u := by
  cases v with
  | _ =>
    refine ⟨rfl, fun u hu => ?_⟩
    cases u with
    | _ => first | rfl | exact absurd rfl hu

/-- What is heard in a command with these operands, and what its handler does then. -/
def Tells (a : Fin 16) (opcode : UInt8) (parameters : List UInt8) (g : Option Told) (k : Handling) :
    Prop :=
  ∀ r : Received, r.initiator = a → r.opcode = opcode → r.parameters.toList = parameters →
    heardIn r = g ∧ ∀ s : Records, s.baseHandle r = some (s.hear a g, k)

theorem size_eq {r : Received} {parameters : List UInt8} (h : r.parameters.toList = parameters) :
    r.size = parameters.length := congrArg List.length h

theorem parameter_eq {r : Received} {parameters : List UInt8} (h : r.parameters.toList = parameters)
    (i : ℕ) : r.parameter i = parameters.getD i 0 := by rw [Received.parameter, h]

theorem store_of_accepted {r : Received} (h : r.initiator = a) {accepted : Bool}
    (haccepted : accepted = true) (f : DeviceInfo → DeviceInfo) :
    s.store r accepted f = (Function.update s a (f (s a)), .handled) := by
  rw [Records.store, if_pos haccepted, h]

theorem tells_abort (opcode reason : UInt8) :
    Tells a opcodeFeatureAbort [opcode, reason] none .handled := by
  rintro r rfl hopcode -
  refine ⟨?_, fun s => ?_⟩
  · rw [heardIn, hopcode]
    rfl
  · rw [Records.baseHandle, hopcode]
    rfl

theorem tells_cecVersion (v : UInt8) : Tells a 0x9E [v] (some (.cecVersion v)) .handled := by
  intro r ha hopcode hparameters
  have hsize : r.size = 1 := size_eq hparameters
  have hvalue : r.parameter 0 = v := parameter_eq hparameters 0
  refine ⟨?_, fun s => ?_⟩
  · rw [heardIn, hopcode]
    simp only [hsize, hvalue, if_true]
  · rw [Records.baseHandle, hopcode]
    simp only [Records.handleDeviceCecVersion, store_of_accepted ha (decide_eq_true hsize), hvalue]
    rfl

theorem tells_powerStatus (p : PowerStatus) : Tells a 0x90 [p] (some (.powerStatus p)) .handled := by
  intro r ha hopcode hparameters
  have hsize : r.size = 1 := size_eq hparameters
  have hvalue : r.parameter 0 = p := parameter_eq hparameters 0
  refine ⟨?_, fun s => ?_⟩
  · rw [heardIn, hopcode]
    simp only [hsize, hvalue, if_true]
  · rw [Records.baseHandle, hopcode]
    simp only [Records.handleReportPowerStatus, store_of_accepted ha (decide_eq_true hsize), hvalue]
    rfl

theorem tells_audioStatus (haudio : isAudioSystem a = true) (v : UInt8) :
    Tells a 0x7A [v] (some (.audioStatus v)) .handled := by
  intro r ha hopcode hparameters
  have hsize : (decide (r.size = 1) && isAudioSystem r.initiator) = true := by
    rw [ha, haudio, Bool.and_true]
    exact decide_eq_true (size_eq hparameters)
  have hvalue : r.parameter 0 = v := parameter_eq hparameters 0
  refine ⟨?_, fun s => ?_⟩
  · rw [heardIn, hopcode]
    simp only [hsize, hvalue, if_true]
  · rw [Records.baseHandle, hopcode]
    simp only [Records.handleReportAudioStatus, store_of_accepted ha hsize, hvalue]
    rfl

/-- The two commands for the system audio mode store the same. -/
theorem tells_systemAudioMode (haudio : isAudioSystem a = true) (m : UInt8) {opcode : UInt8}
    (h : opcode = 0x7E ∨ opcode = 0x72) :
    Tells a opcode [m] (some (.systemAudioMode m)) .handled := by
  intro r ha hopcode hparameters
  have hsize : (decide (r.size = 1) && isAudioSystem r.initiator) = true := by
    rw [ha, haudio, Bool.and_true]
    exact decide_eq_true (size_eq hparameters)
  have hvalue : r.parameter 0 = m := parameter_eq hparameters 0
  refine ⟨?_, fun s => ?_⟩
  · rw [heardIn, hopcode]
    rcases h with rfl | rfl
    · simp only [hsize, hvalue, if_true]
    · simp only [hsize, hvalue, if_true]
  · rw [Records.baseHandle, hopcode]
    rcases h with rfl | rfl
    · simp only [Records.handleSystemAudioModeStatus, hvalue, store_of_accepted ha hsize]
      rfl
    · simp only [Records.handleSetSystemAudioMode, hvalue, store_of_accepted ha hsize]
      rfl

theorem tells_menuLanguage (x y z : UInt8) : Tells a 0x32 [x, y, z]
    (some (.menuLanguage (CharArray.cString [x, y, z]))) .handled := by
  intro r ha hopcode hparameters
  have hsize : r.size = 3 := size_eq hparameters
  refine ⟨?_, fun s => ?_⟩
  · rw [heardIn, hopcode]
    simp only [hsize, parameter_eq hparameters, if_true]
    rfl
  · rw [Records.baseHandle, hopcode]
    simp only [Records.handleSetMenuLanguage, store_of_accepted ha (decide_eq_true hsize),
      parameter_eq hparameters]
    rfl

theorem tells_osdName {n : List UInt8} (hfits : n.length < osdNameSize) : Tells a 0x47 n
    (if n = [] then none else some (.osdName (CharArray.cString n)))
    (if n = [] then .abort .invalidOperand else .handled) := by
  intro r ha hopcode hparameters
  have htake : r.parameters.toList.take 16 = n := by
    rw [hparameters]
    exact List.take_of_length_le (Nat.le_of_lt (hfits.trans (by decide)))
  by_cases hn : n = []
  · have hsize : r.size = 0 := by rw [size_eq hparameters, hn, List.length_nil]
    rw [if_pos hn, if_pos hn]
    refine ⟨?_, fun s => ?_⟩
    · rw [heardIn, hopcode]
      simp only [hsize, Nat.lt_irrefl, if_false]
    · rw [Records.baseHandle, hopcode]
      simp only [Records.handleSetOSDName, hsize]
      rfl
  · have hsize : r.size > 0 := by
      rw [size_eq hparameters]
      exact List.length_pos_iff.mpr hn
    rw [if_neg hn, if_neg hn]
    refine ⟨?_, fun s => ?_⟩
    · rw [heardIn, hopcode]
      simp only [hsize, htake, if_true]
    · rw [Records.baseHandle, hopcode]
      simp only [Records.handleSetOSDName, store_of_accepted ha (decide_eq_true hsize), htake]
      rfl

theorem tells_physicalAddress (pa : UInt16) (type : UInt8) (hpa : pa ≠ 0xFFFF) :
    Tells a 0x84 (addressBytes pa ++ [type])
      (if pa = 0xFFFF ∨ pa = 0 then none else some (.physicalAddress pa)) .handled := by
  intro r ha hopcode hparameters
  have hsize : r.size = 3 := size_eq hparameters
  have haddress : r.address 0 = pa := by
    rw [Received.address, parameter_eq hparameters, parameter_eq hparameters]
    exact address_bytes pa
  have hhandled : ∀ s : Records, s.baseHandle r =
      some (Function.update s a ((s a).setPhysicalAddress pa), .handled) := by
    intro s
    rw [Records.baseHandle, hopcode]
    simp only [Records.handleReportPhysicalAddress, store_of_accepted ha (decide_eq_true hsize),
      haddress]
  rw [heardIn, hopcode]
  simp only [hsize, haddress, hhandled, DeviceInfo.setPhysicalAddress]
  by_cases hzero : pa = 0
  · subst hzero
    exact ⟨rfl, fun s => congrArg (fun d => some (d, Handling.handled)) (Function.update_eq_self _ _)⟩
  · have hpos : pa > 0 := UInt16.pos_iff_ne_zero.mpr hzero
    simp only [hpos, hpa, hzero, decide_true, Bool.and_self, or_self, if_true, if_false]
    exact ⟨trivial, fun s => rfl⟩

theorem tells_vendorId (v : VendorId) : Tells a 0x87
    [(v.toUInt64 >>> 16).toUInt8, (v.toUInt64 >>> 8).toUInt8, v.toUInt64.toUInt8]
    (some (.vendorId (v % 0x1000000))) .handled := by
  intro r ha hopcode hparameters
  have hsize : ¬r.size < 3 := by
    rw [size_eq hparameters]
    exact Nat.lt_irrefl 3
  have hvalue : r.vendorId = v % 0x1000000 := by
    rw [Received.vendorId, parameter_eq hparameters, parameter_eq hparameters,
      parameter_eq hparameters]
    exact vendor_bytes v
  refine ⟨?_, fun s => ?_⟩
  · rw [heardIn, hopcode]
    simp only [hsize, hvalue, if_false]
  · rw [Records.baseHandle, hopcode]
    simp only [Records.handleDeviceVendorId, if_neg hsize, store_of_accepted ha rfl, hvalue]
    rfl

/-- Only one call reports an address, and no command that tells a power status wakes a device. -/
structure TransmitCall.Uses (x : TransmitCall) (opcode : UInt8) : Prop where
  reports : opcode = 0x84 → x = .transmitPhysicalAddress
  stays : opcode = 0x87 ∨ opcode = 0x32 → x.topic ≠ .powerStatus

theorem TransmitCall.uses_of_ne {x : TransmitCall} {opcode : UInt8} (hreports : opcode ≠ 0x84)
    (hstays : x.topic ≠ .powerStatus) : x.Uses opcode :=
  ⟨fun h => absurd h hreports, fun _ => hstays⟩

/-- What a call builds tells what the device tells. -/
theorem exists_built {x : TransmitCall} {c : Command} (h : d.transmit a x = some c) (hfits : d.Fits) :
    ∃ dest opcode parameters, c = built a dest opcode parameters ∧ opcode ≠ opcodeNone ∧
      parameters.length ≤ 14 ∧ x.Uses opcode ∧ Tells a opcode parameters (d.told x.topic)
        (if x.topic = .osdName ∧ d.deviceName = [] then .abort .invalidOperand else .handled) := by
  cases x with
  | transmitCECVersion dest =>
    obtain rfl := Option.some.inj h
    exact ⟨dest, _, _, rfl, by decide, Nat.le_of_ble_eq_true rfl,
      TransmitCall.uses_of_ne (by decide) nofun, tells_cecVersion _⟩
  | transmitSetMenuLanguage dest =>
    rw [TransmitCall.topic, DeviceInfo.told]
    by_cases hunknown : d.lang = unknownLanguage
    · rw [DeviceInfo.transmit, if_pos hunknown] at h
      obtain rfl := Option.some.inj h
      rw [if_pos hunknown]
      exact ⟨dest, _, _, rfl, by decide, Nat.le_of_ble_eq_true rfl,
        TransmitCall.uses_of_ne (by decide) nofun, tells_abort _ _⟩
    · rw [DeviceInfo.transmit, if_neg hunknown] at h
      obtain rfl := Option.some.inj h
      rw [if_neg hunknown]
      exact ⟨15, _, _, rfl, by decide, Nat.le_of_ble_eq_true rfl,
        TransmitCall.uses_of_ne (by decide) nofun, tells_menuLanguage _ _ _⟩
  | transmitOSDName dest =>
    obtain rfl := Option.some.inj h
    refine ⟨dest, _, _, rfl, by decide, Nat.le_of_lt_succ hfits.deviceName,
      TransmitCall.uses_of_ne (by decide) nofun, ?_⟩
    simpa [TransmitCall.topic, DeviceInfo.told] using tells_osdName hfits.deviceName
  | transmitPhysicalAddress =>
    obtain ⟨hknown, h⟩ := Option.ite_none_left_eq_some.mp h
    obtain rfl := Option.some.inj h
    exact ⟨15, _, _, rfl, by decide, Nat.le_of_ble_eq_true rfl,
      ⟨fun _ => rfl, fun _ => nofun⟩, tells_physicalAddress _ _ hknown⟩
  | transmitPowerState dest =>
    obtain rfl := Option.some.inj h
    exact ⟨dest, _, _, rfl, by decide, Nat.le_of_ble_eq_true rfl,
      ⟨fun h => absurd h (by decide), fun h => absurd h (by decide)⟩, tells_powerStatus _⟩
  | transmitVendorID dest bSendAbort =>
    rw [TransmitCall.topic, DeviceInfo.told]
    by_cases hunknown : d.vendor = 0
    · rw [DeviceInfo.transmit, if_pos hunknown] at h
      obtain ⟨-, h⟩ := Option.ite_none_right_eq_some.mp h
      obtain rfl := Option.some.inj h
      rw [if_pos hunknown]
      exact ⟨dest, _, _, rfl, by decide, Nat.le_of_ble_eq_true rfl,
        TransmitCall.uses_of_ne (by decide) nofun, tells_abort _ _⟩
    · rw [DeviceInfo.transmit, if_neg hunknown] at h
      obtain rfl := Option.some.inj h
      rw [if_neg hunknown]
      exact ⟨15, _, _, rfl, by decide, Nat.le_of_ble_eq_true rfl,
        TransmitCall.uses_of_ne (by decide) nofun, tells_vendorId _⟩
  | transmitAudioStatus dest =>
    obtain ⟨haudio, h⟩ := Option.ite_none_right_eq_some.mp h
    obtain rfl := Option.some.inj h
    exact ⟨dest, _, _, rfl, by decide, Nat.le_of_ble_eq_true rfl,
      TransmitCall.uses_of_ne (by decide) nofun, tells_audioStatus haudio _⟩
  | transmitSystemAudioModeStatus dest =>
    obtain ⟨haudio, h⟩ := Option.ite_none_right_eq_some.mp h
    obtain rfl := Option.some.inj h
    exact ⟨dest, _, _, rfl, by decide, Nat.le_of_ble_eq_true rfl,
      TransmitCall.uses_of_ne (by decide) nofun, tells_systemAudioMode haudio _ (.inl rfl)⟩
  | transmitSetSystemAudioMode dest =>
    obtain ⟨haudio, h⟩ := Option.ite_none_right_eq_some.mp h
    obtain rfl := Option.some.inj h
    exact ⟨dest, _, _, rfl, by decide, Nat.le_of_ble_eq_true rfl,
      TransmitCall.uses_of_ne (by decide) nofun, tells_systemAudioMode haudio _ (.inr rfl)⟩

/-- The power status is all that a handler adds. -/
theorem get_woken (s : Records) (v : Handler) (l : Listener) (r : Received) (b : Fin 16) (t : Topic) :
    (s.woken v l r b).get t = (s b).get t ∨ b = r.initiator ∧ t = .powerStatus ∧ l.wakes v r := by
  rw [Records.woken]
  by_cases hwakes : l.wakes v r
  · rw [if_pos hwakes, Records.powerOn]
    rcases eq_or_ne b r.initiator with rfl | hb
    · rw [Function.update_self]
      cases t with
      | powerStatus => exact .inr ⟨rfl, rfl, hwakes⟩
      | _ => exact .inl rfl
    · exact .inl (by rw [Function.update_of_ne hb])
  · exact .inl (by rw [if_neg hwakes])

/-- A media player whose name has two characters that are not ASCII. -/
def player : DeviceInfo :=
  (((DeviceInfo.initial 4).setOSDName [0x4B, 0xC3, 0xB6, 0x64, 0x69]).setCecVersion 0x05).setPowerStatus
    .on

/-- A library whose client is connected to the first port of the TV. -/
def viewer : Listener := ⟨true, [(.addr 0, 1)]⟩

end Information

end CEC
