import LibCec.Commands
import LibCec.Serialization
import LibCec.Schemes.CharArray
import LibCec.Schemes.Schedule
import Mathlib.Data.UInt

/-! The commands that the command handlers build themselves fit in a frame.

    Most have a fixed number of parameters. The longest are a text: an OSD string is cut where the
    frame is built, an OSD name where it is stored.

        configured name ──SetConfiguration──▶ m_configuration ──OnRegister──▶ m_strDeviceName
                                                 ▲      │                        ▲   │
                       RegisterClient (from ROM) │      │ SaveConfiguration      │   │
                                                 │      ▼                        │   ▼
        adapter's memory ──────────────────▶ m_savedConfiguration     ToString, <Set OSD Name>
                                                                                     │
                                                                     TransmitOSDName ◀

    A stored name is a C string in an array of `LIBCEC_OSD_NAME_SIZE` characters. Whoever writes one
    terminates it, so that a name has 14 characters at most, as many as a frame has parameters. -/

namespace CEC
open Schemes

/-! ### The stored names -/

/-- `LIBCEC_OSD_NAME_SIZE`. -/
abbrev osdNameSize : ℕ := 15

/-- `strDeviceName` of a `libcec_configuration`. -/
abbrev NameBuffer := CharArray UInt8 osdNameSize

/-- `libcec_configuration::Clear` of a name, which leaves the rest of the array as it is. -/
def cleared (memory : NameBuffer) : NameBuffer := memory.set 0 0

/-- Every place where a name is stored: `m_strDeviceName` of the devices, `m_configuration` of the
    clients, and `m_savedConfiguration` of the adapter. -/
structure OSDNames where
  deviceName : Fin 16 → List UInt8
  clientName : ClientId → NameBuffer
  savedName : NameBuffer

/-- `ToString` of a logical address. -/
def logicalAddressName (a : Fin 16) : List UInt8 :=
  (["TV", "Recorder 1", "Recorder 2", "Tuner 1", "Playback 1", "Audio", "Tuner 2", "Tuner 3",
    "Playback 2", "Recorder 3", "Tuner 4", "Playback 3", "Reserved 1", "Reserved 2", "Free use",
    "Broadcast"].getD a "unknown").toList.map fun c => UInt8.ofNat c.toNat

namespace OSDNames

/-- The devices are named after their addresses, the other names have been cleared. -/
def start (clients : ClientId → NameBuffer) (saved : NameBuffer) : OSDNames where
  deviceName := logicalAddressName
  clientName c := cleared (clients c)
  savedName := cleared saved

/-- `CCECBusDevice::SetOSDName`. -/
def setDeviceName (names : OSDNames) (a : Fin 16) (strName : List UInt8) : OSDNames :=
  if names.deviceName a ≠ strName then
    { names with deviceName := Function.update names.deviceName a strName }
  else names

/-- A client's `m_configuration.strDeviceName` is written to. -/
def setClientName (names : OSDNames) (c : ClientId) (b : NameBuffer) : OSDNames :=
  { names with clientName := Function.update names.clientName c b }

/-- `CCECClient::SetOSDName`, for a client whose primary device is `primary` if it has one. -/
def setOSDName (names : OSDNames) (c : ClientId) (primary : Option (Fin 16))
    (strDeviceName : List UInt8) : OSDNames :=
  let zeros : CharArray UInt8 (osdNameSize + 1) := ⟨List.replicate _ 0, List.length_replicate⟩
  let buf := (zeros.strncpy strDeviceName osdNameSize (by decide)).toList
  let own := names.clientName c
  if CharArray.strncmpEq own.toList buf osdNameSize then names
  else
    let names := names.setClientName c ((own.strncpy buf (osdNameSize - 1) (by decide)).set 14 0)
    match primary with
    | some a => names.setDeviceName a strDeviceName
    | none => names

/-- `HandleSetOSDName`; `buf` has room for 16 characters and a zero. -/
def handleSetOSDName (names : OSDNames) (command : Received) : OSDNames :=
  if command.size > 0 then
    names.setDeviceName command.initiator (CharArray.cString (command.parameters.toList.take 16))
  else names

/-- `RequestSettingOSDName`, for the response of the adapter. -/
def requestSettingOSDName (names : OSDNames) (response : DataPacket) : OSDNames :=
  if response.size = 0 then { names with savedName := names.savedName.set 0 0 }
  else
    let data := response.toList.take (osdNameSize - 1)
    have hfits : data.length < osdNameSize := by
      rw [List.length_take]
      exact Nat.lt_of_le_of_lt (Nat.min_le_left _ _) (by decide)
    { names with
      savedName := (names.savedName.overwrite data (Nat.le_of_lt hfits)).set ⟨data.length, hfits⟩ 0 }

/-- `SetSettingOSDName` for the name of a client, and whether the adapter acknowledges it. -/
def setSettingOSDName (names : OSDNames) (c : ClientId) (acked : Bool) : OSDNames :=
  let strOSDName := (names.clientName c).toList
  if names.savedName.text = CharArray.cString strOSDName then names
  else if acked then { names with savedName := names.savedName.snprintf strOSDName }
  else names

/-- `RegisterClient` when the settings are those from the ROM: `config` has the saved name when the
    adapter has its settings, and is as it was cleared otherwise. The configuration that
    `SetConfiguration` gets then is the client's own. -/
def registerFromROM (names : OSDNames) (c : ClientId) (primary : Option (Fin 16))
    (config : NameBuffer) (bReturn : Bool) : OSDNames :=
  let config := if bReturn then names.savedName else cleared config
  let names := names.setClientName c ((names.clientName c).snprintf config.toList)
  names.setOSDName c primary (names.clientName c).text

/-- What writes a name. -/
inductive Writer where
  | setConfiguration (c : ClientId) (primary : Option (Fin 16)) (configured : NameBuffer)
  | onRegister (c : ClientId) (primary : Fin 16)
  | handleSetOSDName (command : Received)
  | resetDeviceStatus (a : Fin 16)
  | requestSettingOSDName (response : DataPacket)
  | setSettingOSDName (c : ClientId) (acked : Bool)
  | registerFromROM (c : ClientId) (primary : Option (Fin 16)) (config : NameBuffer) (bReturn : Bool)

/-- The names after one of the writers. -/
def write (names : OSDNames) : Writer → OSDNames
  | .setConfiguration c primary configured => names.setOSDName c primary configured.text
  | .onRegister c primary => names.setDeviceName primary (names.clientName c).text
  | .handleSetOSDName command => names.handleSetOSDName command
  | .resetDeviceStatus a => names.setDeviceName a (logicalAddressName a)
  | .requestSettingOSDName response => names.requestSettingOSDName response
  | .setSettingOSDName c acked => names.setSettingOSDName c acked
  | .registerFromROM c primary config bReturn => names.registerFromROM c primary config bReturn

/-- Configured names are terminated, and a received frame has at most 16 bytes, of which two are its
    header and its opcode. -/
def Writer.Provided : Writer → Prop
  | .setConfiguration _ _ configured => configured.Terminated
  | .handleSetOSDName command => command.size + 2 ≤ maxFrameSize
  | _ => True

instance : DecidablePred Writer.Provided
  | .setConfiguration _ _ configured => inferInstanceAs (Decidable configured.Terminated)
  | .handleSetOSDName command => inferInstanceAs (Decidable (command.size + 2 ≤ maxFrameSize))
  | .onRegister _ _ | .resetDeviceStatus _ | .requestSettingOSDName _ | .setSettingOSDName _ _
  | .registerFromROM _ _ _ _ => isTrue trivial

/-- The writers, in any order. -/
def step (names : OSDNames) (writer : Writer) : Option OSDNames := some (names.write writer)

end OSDNames

/-! ### The commands -/

/-- `Format`, and a `PushBack` to the parameters for each byte. -/
def Command.formatted (initiator destination : LogicalAddress) (opcode : UInt8)
    (parameters : List UInt8) : Command :=
  let command := format initiator destination opcode defaultTransmitTimeout
  { command with parameters := command.parameters.pushAll parameters }

/-- The two bytes of a physical address. -/
def addressBytes (iPhysicalAddress : UInt16) : List UInt8 :=
  [(iPhysicalAddress >>> 8).toUInt8, iPhysicalAddress.toUInt8]

/-- The functions of the command handlers that build a command, with what they build it from. A name
    is that of the device that transmits it. -/
inductive OwnCommand where
  | transmitImageViewOn (iInitiator iDestination : LogicalAddress)
  | transmitStandby (iInitiator iDestination : LogicalAddress)
  | transmitRequestActiveSource (iInitiator : LogicalAddress)
  | transmitRequestCecVersion (iInitiator iDestination : LogicalAddress)
  | transmitRequestMenuLanguage (iInitiator iDestination : LogicalAddress)
  | transmitRequestOSDName (iInitiator iDestination : LogicalAddress)
  | transmitRequestAudioStatus (iInitiator iDestination : LogicalAddress)
  | transmitRequestSystemAudioModeStatus (iInitiator iDestination : LogicalAddress)
  | transmitRequestPhysicalAddress (iInitiator iDestination : LogicalAddress)
  | transmitRequestPowerStatus (iInitiator iDestination : LogicalAddress)
  | transmitRequestVendorId (iInitiator iDestination : LogicalAddress)
  | transmitActiveSource (iInitiator : LogicalAddress) (iPhysicalAddress : UInt16)
  | transmitCECVersion (iInitiator iDestination : LogicalAddress) (cecVersion : UInt8)
  | transmitInactiveSource (iInitiator : LogicalAddress) (iPhysicalAddress : UInt16)
  | transmitMenuState (iInitiator iDestination : LogicalAddress) (menuState : UInt8)
  | transmitOSDName (iInitiator : Fin 16) (iDestination : LogicalAddress)
  | transmitOSDString (iInitiator iDestination : LogicalAddress) (duration : UInt8)
      (strMessage : List UInt8)
  | transmitPhysicalAddress (iInitiator : LogicalAddress) (iPhysicalAddress : UInt16) (type : UInt8)
  | transmitSetMenuLanguage (iInitiator : LogicalAddress) (lang0 lang1 lang2 : UInt8)
  | transmitPoll (iInitiator iDestination : LogicalAddress)
  | transmitPowerState (iInitiator iDestination : LogicalAddress) (state : UInt8)
  | transmitVendorID (iInitiator : LogicalAddress) (iVendorId : UInt64)
  | transmitAudioStatus (iInitiator iDestination : LogicalAddress) (state : UInt8)
  | transmitSetSystemAudioMode (iInitiator iDestination : LogicalAddress) (state : UInt8)
  | transmitSetStreamPath (iStreamPath : UInt16)
  | transmitSystemAudioModeStatus (iInitiator iDestination : LogicalAddress) (state : UInt8)
  | transmitDeckStatus (iInitiator iDestination : LogicalAddress) (state : UInt8)
  | transmitKeypress (iInitiator iDestination : LogicalAddress) (key : UInt8)
  | transmitKeyRelease (iInitiator iDestination : LogicalAddress)
  | transmitPlay (iInitiator iDestination : LogicalAddress) (mode : UInt8)
  | transmitSystemAudioModeRequest (iInitiator : LogicalAddress) (iPhysicalAddress : UInt16)
  /-- The reply of `CANCommandHandler` to a device that powered up. -/
  | poweredUpReply (source destination : LogicalAddress)
  | transmitVendorCommandSLAckInit (iSource iDestination : LogicalAddress)
  | transmitVendorCommandSetDeviceMode (iSource iDestination : LogicalAddress) (type : UInt8)
  /-- `CSLCommandHandler::PowerOn` of a device that is not the TV. -/
  | powerOn (iDestination : LogicalAddress)
  | sendVendorCommandCapabilities (initiator destination : LogicalAddress)

open Command in
/-- The command that is passed to `Transmit`. -/
def OwnCommand.built (names : OSDNames) : OwnCommand → Command
  | transmitImageViewOn i d => formatted i d 0x04 []
  | transmitStandby i d => formatted i d 0x36 []
  | transmitRequestActiveSource i => formatted i .broadcast 0x85 []
  | transmitRequestCecVersion i d => formatted i d 0x9F []
  | transmitRequestMenuLanguage i d => formatted i d 0x91 []
  | transmitRequestOSDName i d => formatted i d 0x46 []
  | transmitRequestAudioStatus i d => formatted i d 0x71 []
  | transmitRequestSystemAudioModeStatus i d => formatted i d 0x7D []
  | transmitRequestPhysicalAddress i d => formatted i d 0x83 []
  | transmitRequestPowerStatus i d => formatted i d 0x8F []
  | transmitRequestVendorId i d => formatted i d 0x8C []
  | transmitActiveSource i pa => formatted i .broadcast 0x82 (addressBytes pa)
  | transmitCECVersion i d cecVersion => formatted i d 0x9E [cecVersion]
  | transmitInactiveSource i pa => formatted i .tv 0x9D (addressBytes pa)
  | transmitMenuState i d menuState => formatted i d 0x8E [menuState]
  | transmitOSDName i d => formatted (.addr i) d 0x47 (names.deviceName i)
  | transmitOSDString i d duration strMessage =>
    formatted i d 0x64 (duration :: (CharArray.cString strMessage).take 13)
  | transmitPhysicalAddress i pa type => formatted i .broadcast 0x84 (addressBytes pa ++ [type])
  | transmitSetMenuLanguage i lang0 lang1 lang2 => formatted i .broadcast 0x32 [lang0, lang1, lang2]
  | transmitPoll i d => formatted i d opcodeNone []
  | transmitPowerState i d state => formatted i d 0x90 [state]
  | transmitVendorID i iVendorId => formatted i .broadcast 0x87
      [(iVendorId >>> 16).toUInt8, (iVendorId >>> 8).toUInt8, iVendorId.toUInt8]
  | transmitAudioStatus i d state => formatted i d 0x7A [state]
  | transmitSetSystemAudioMode i d state => formatted i d 0x72 [state]
  | transmitSetStreamPath iStreamPath => formatted .tv .broadcast 0x86 (addressBytes iStreamPath)
  | transmitSystemAudioModeStatus i d state => formatted i d 0x7E [state]
  | transmitDeckStatus i d state => (formatted i d 0x1B []).pushBack state
  | transmitKeypress i d key => formatted i d 0x44 [key]
  | transmitKeyRelease i d => formatted i d 0x45 []
  | transmitPlay i d mode => formatted i d 0x41 [mode]
  | transmitSystemAudioModeRequest i pa =>
    formatted i (.addr 5) 0x70 (if pa ≠ 0xFFFF then addressBytes pa else [])
  | poweredUpReply i d => formatted i d 0xA0 [0x00, 0x00, 0xF0, 0x24, 0x00, 0x80]
  | transmitVendorCommandSLAckInit i d => ((formatted i d 0x89 []).pushBack 0x02).pushBack 0x05
  | transmitVendorCommandSetDeviceMode i d type =>
    ((formatted i d 0x89 []).pushBack 0x05).pushBack type
  | powerOn d => ((formatted .tv d 0x89 []).pushBack 0x03).pushBack 0
  | sendVendorCommandCapabilities i d => (formatted i d 0x89 []).pushArray
      [0x10, 0x02, 0xFF, 0xFF, 0x00, 0x05, 0x05, 0x45, 0x55, 0x5C, 0x58, 0x32]

/-! ### The stored names fit -/

namespace OSDNames

/-- Every name has a place for its zero. -/
structure Fit (names : OSDNames) : Prop where
  deviceName : ∀ a, (names.deviceName a).length < osdNameSize
  clientName : ∀ c, (names.clientName c).Terminated
  savedName : names.savedName.Terminated

variable {names : OSDNames}

theorem length_logicalAddressName_lt : ∀ a, (logicalAddressName a).length < osdNameSize := by decide

theorem terminated_cleared (memory : NameBuffer) : (cleared memory).Terminated :=
  CharArray.terminated_set memory 0

theorem fit_start (clients : ClientId → NameBuffer) (saved : NameBuffer) :
    (start clients saved).Fit where
  deviceName := length_logicalAddressName_lt
  clientName c := terminated_cleared (clients c)
  savedName := terminated_cleared saved

theorem Fit.setDeviceName (h : names.Fit) (a : Fin 16) {strName : List UInt8}
    (hname : strName.length < osdNameSize) : (names.setDeviceName a strName).Fit := by
  unfold OSDNames.setDeviceName
  split
  · refine ⟨fun b => ?_, h.clientName, h.savedName⟩
    rcases eq_or_ne b a with rfl | hne
    · simpa using hname
    · simpa [hne] using h.deviceName b
  · exact h

theorem Fit.setClientName (h : names.Fit) (c : ClientId) {b : NameBuffer} (hb : b.Terminated) :
    (names.setClientName c b).Fit := by
  refine ⟨h.deviceName, fun d => ?_, h.savedName⟩
  rcases eq_or_ne d c with rfl | hne
  · simpa [OSDNames.setClientName] using hb
  · simpa [OSDNames.setClientName, hne] using h.clientName d

theorem Fit.setSavedName (h : names.Fit) {b : NameBuffer} (hb : b.Terminated) :
    Fit { names with savedName := b } := ⟨h.deviceName, h.clientName, hb⟩

theorem Fit.setOSDName (h : names.Fit) (c : ClientId) (primary : Option (Fin 16))
    {strDeviceName : List UInt8} (hname : strDeviceName.length < osdNameSize) :
    (names.setOSDName c primary strDeviceName).Fit := by
  unfold OSDNames.setOSDName
  dsimp only
  split
  · exact h
  · cases primary with
    | none => exact h.setClientName c (CharArray.terminated_set _ _)
    | some a => exact (h.setClientName c (CharArray.terminated_set _ _)).setDeviceName a hname

/-- A frame of the bus has room for 14 characters. -/
theorem Fit.handleSetOSDName (h : names.Fit) {command : Received}
    (hsize : command.size + 2 ≤ maxFrameSize) : (names.handleSetOSDName command).Fit := by
  unfold OSDNames.handleSetOSDName
  split
  · refine h.setDeviceName _ ?_
    calc (CharArray.cString (command.parameters.toList.take 16)).length
        ≤ (command.parameters.toList.take 16).length := CharArray.length_cString_le _
      _ ≤ command.size := List.length_take_le' _ _
      _ < osdNameSize := Nat.lt_of_add_lt_add_right (Nat.lt_succ_of_le hsize)
  · exact h

theorem Fit.requestSettingOSDName (h : names.Fit) (response : DataPacket) :
    (names.requestSettingOSDName response).Fit := by
  unfold OSDNames.requestSettingOSDName
  split
  · exact h.setSavedName (CharArray.terminated_set _ _)
  · exact h.setSavedName (CharArray.terminated_set _ _)

theorem Fit.setSettingOSDName (h : names.Fit) (c : ClientId) (acked : Bool) :
    (names.setSettingOSDName c acked).Fit := by
  unfold OSDNames.setSettingOSDName
  dsimp only
  split
  · exact h
  · split
    · exact h.setSavedName (CharArray.terminated_snprintf _ _)
    · exact h

theorem Fit.registerFromROM (h : names.Fit) (c : ClientId) (primary : Option (Fin 16))
    (config : NameBuffer) (bReturn : Bool) : (names.registerFromROM c primary config bReturn).Fit := by
  have hclient := h.setClientName c (CharArray.terminated_snprintf (names.clientName c)
    (if bReturn then names.savedName else cleared config).toList)
  exact hclient.setOSDName c primary (CharArray.length_text_lt (hclient.clientName c))

theorem Fit.write (h : names.Fit) {writer : Writer} (hprovided : writer.Provided) :
    (names.write writer).Fit := by
  cases writer with
  | setConfiguration c primary configured =>
    exact h.setOSDName c primary (CharArray.length_text_lt hprovided)
  | onRegister c primary => exact h.setDeviceName primary (CharArray.length_text_lt (h.clientName c))
  | handleSetOSDName command => exact h.handleSetOSDName hprovided
  | resetDeviceStatus a => exact h.setDeviceName a (length_logicalAddressName_lt a)
  | requestSettingOSDName response => exact h.requestSettingOSDName response
  | setSettingOSDName c acked => exact h.setSettingOSDName c acked
  | registerFromROM c primary config bReturn => exact h.registerFromROM c primary config bReturn

/-- The names fit in every state that the writers lead to. -/
theorem fit_of_reaches {s : OSDNames} (hs : s.Fit)
    (h : Reaches step (fun _ writer => writer.Provided) s names) : names.Fit := by
  have hstep : ∀ {s : OSDNames} {writer t}, s.Fit → writer.Provided → s.step writer = some t →
      t.Fit := by
    intro s writer t hfit hprovided hstep
    obtain rfl := Option.some.inj hstep
    exact hfit.write hprovided
  exact h.invariant hstep hs

end OSDNames

/-! ### The commands fit -/

namespace Command

/-- As many parameters as leave room for the header and the opcode. -/
def Short (c : Command) : Prop := c.parameters.size + 2 ≤ maxFrameSize

theorem Short.byteSize_le {c : Command} (h : c.Short) : c.byteSize.toNat ≤ maxFrameSize := by
  have hsize : c.parameters.size ≤ 14 := Nat.le_of_add_le_add_right h
  unfold byteSize maxFrameSize
  split <;> simp <;> omega

theorem size_pushAll_le (b : DataPacket) (data : List UInt8) :
    (b.pushAll data).size ≤ b.size + data.length := by
  rw [BoundedBuffer.size, BoundedBuffer.size, BoundedBuffer.toList_pushAll, ← List.length_append]
  exact List.length_take_le' _ _

theorem size_pushBack_le (c : Command) (b : UInt8) :
    (c.pushBack b).parameters.size ≤ c.parameters.size + 1 := by
  unfold pushBack
  split
  · exact Nat.le_succ _
  · split
    · exact Nat.le_succ _
    · exact BoundedBuffer.length_push_le _ _

theorem size_pushArray_le (data : List UInt8) : ∀ c : Command,
    (c.pushArray data).parameters.size ≤ c.parameters.size + data.length := by
  induction data with
  | nil => intro c; exact Nat.le_refl _
  | cons b data ih =>
    intro c
    have hrest := ih (c.pushBack b)
    have hone := size_pushBack_le c b
    rw [pushArray_cons, List.length_cons]
    omega

theorem size_formatted_le (initiator destination : LogicalAddress) (opcode : UInt8)
    (parameters : List UInt8) :
    (formatted initiator destination opcode parameters).parameters.size ≤ parameters.length := by
  have hempty : (format initiator destination opcode defaultTransmitTimeout).parameters = .empty := by
    unfold format
    split <;> rfl
  have hpush := size_pushAll_le .empty parameters
  simpa [formatted, hempty, BoundedBuffer.size] using hpush

theorem short_formatted {initiator destination : LogicalAddress} {opcode : UInt8}
    {parameters : List UInt8} (h : parameters.length ≤ 14) :
    (formatted initiator destination opcode parameters).Short :=
  Nat.add_le_add_right (Nat.le_trans (size_formatted_le _ _ _ _) h) 2

/-- Bytes that are pushed to a command without parameters. -/
theorem short_pushArray {initiator destination : LogicalAddress} {opcode : UInt8}
    (data : List UInt8) (h : data.length ≤ 14) :
    ((formatted initiator destination opcode []).pushArray data).Short := by
  have hpush := size_pushArray_le data (formatted initiator destination opcode [])
  have hnone := size_formatted_le initiator destination opcode []
  rw [List.length_nil] at hnone
  have hsize := Nat.le_trans hpush (Nat.add_le_add hnone h)
  exact Nat.add_le_add_right (Nat.le_trans hsize (Nat.le_of_eq (Nat.zero_add 14))) 2

end Command

theorem length_addressBytes (iPhysicalAddress : UInt16) : (addressBytes iPhysicalAddress).length = 2 :=
  rfl

open Command in
/-- Only an OSD name depends on what is stored. -/
theorem short_built {names : OSDNames} (h : names.Fit) (command : OwnCommand) :
    (command.built names).Short := by
  cases command with
  | transmitOSDName i d => exact short_formatted (Nat.le_of_lt_succ (h.deviceName i))
  | transmitOSDString i d duration strMessage =>
    refine short_formatted ?_
    rw [List.length_cons]
    exact Nat.succ_le_succ (List.length_take_le _ _)
  | transmitSystemAudioModeRequest i pa =>
    refine short_formatted ?_
    split
    · exact (length_addressBytes pa).le.trans (by decide)
    · exact Nat.zero_le _
  | transmitDeckStatus i d state => exact short_pushArray [state] (Nat.le_of_ble_eq_true rfl)
  | transmitVendorCommandSLAckInit i d => exact short_pushArray [0x02, 0x05] (by decide)
  | transmitVendorCommandSetDeviceMode i d type =>
    exact short_pushArray [0x05, type] (Nat.le_of_ble_eq_true rfl)
  | powerOn d =>
    have hshort : ((formatted .tv d 0x89 []).pushArray [0x03, 0]).Short :=
      short_pushArray _ (by decide)
    exact hshort
  | sendVendorCommandCapabilities i d => exact short_pushArray _ (by decide)
  | _ => exact short_formatted (Nat.le_of_ble_eq_true rfl)

/-- In every state that is reached while configured names are terminated and received frames have at
    most 16 bytes, each command that a handler builds is a frame of the bus. -/
theorem ownFrames_fit {clients : ClientId → NameBuffer} {saved : NameBuffer} {names : OSDNames}
    (h : Reaches OSDNames.step (fun _ writer => writer.Provided) (.start clients saved) names)
    (command : OwnCommand) : (command.built names).byteSize.toNat ≤ maxFrameSize :=
  (short_built (OSDNames.fit_of_reaches (OSDNames.fit_start clients saved) h) command).byteSize_le

/-- A client is configured with a name of 14 characters, which takes a whole frame. -/
def longestName : NameBuffer := ⟨List.replicate 14 0x41 ++ [0], rfl⟩

theorem ownFrames_fit_longestName :
    ∃ names, Reaches OSDNames.step (fun _ writer => writer.Provided)
        (.start (fun _ => longestName) longestName) names ∧
      ((OwnCommand.transmitOSDName 4 .tv).built names).parameters.size = 14 ∧
      ((OwnCommand.transmitOSDName 4 .tv).built names).byteSize.toNat ≤ maxFrameSize := by
  have hreaches : Reaches OSDNames.step (fun _ writer => writer.Provided)
      (.start (fun _ => longestName) longestName)
      ((OSDNames.start (fun _ => longestName) longestName).write
        (.setConfiguration 0 (some 4) longestName)) :=
    .tail (.setConfiguration 0 (some 4) longestName) (.refl _)
      (show longestName.Terminated by decide) rfl
  exact ⟨_, hreaches, by decide +kernel, ownFrames_fit hreaches (.transmitOSDName 4 .tv)⟩

end CEC
