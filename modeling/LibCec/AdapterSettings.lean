import LibCec.Bus
import LibCec.Schemes.GuardedRun
import Mathlib.Data.List.TakeWhile

/-! The settings of the adapter and the copy that `CUSBCECAdapterCommands` keeps of them.

    The adapter stores eight settings. They are read once, one by one, and what was read is kept; a
    setting is only sent when the kept value differs from the new one:

        RequestSettings      adapter ──answer──▶ kept          (once)
        SaveConfiguration    kept = new ──▶ nothing is sent
                             kept ≠ new ──▶ adapter ──ack──▶ kept := new

    `coherent_of_run` says when the kept values can be trusted: no answer to a read is missing or
    unusual, and the adapter takes nothing without the acknowledgement coming back. -/

namespace CEC
open Schemes

/-! ### Settings -/

/-- The settings that the adapter stores. -/
inductive SettingKind where
  | autoEnabled | defaultLogicalAddress | deviceType | logicalAddressMask | osdName
  | physicalAddress | autoPowerOn | cecVersion
  deriving DecidableEq

/-- A setting with the value that is to be sent. -/
inductive Setting where
  | autoEnabled (enabled : Bool)
  | defaultLogicalAddress (address : UInt8)
  | deviceType (type : UInt8)
  | logicalAddressMask (iMask : UInt16)
  | osdName (strOSDName : BoundedBuffer UInt8 14)
  | physicalAddress (iPhysicalAddress : UInt16)
  | autoPowerOn (autoOn : Bool)
  | cecVersion (version : UInt8)
  deriving DecidableEq

def highByte (x : UInt16) : UInt8 := (x >>> 8).toUInt8

def lowByte (x : UInt16) : UInt8 := x.toUInt8

/-- The sixteen bits of two bytes, the high one first. -/
def ofBytes (high low : UInt8) : UInt16 := high.toUInt16 <<< 8 ||| low.toUInt16

/-- The characters of a C string. -/
def cString (s : List UInt8) : List UInt8 := s.takeWhile (· ≠ 0)

namespace Setting

def kind : Setting → SettingKind
  | autoEnabled _ => .autoEnabled
  | defaultLogicalAddress _ => .defaultLogicalAddress
  | deviceType _ => .deviceType
  | logicalAddressMask _ => .logicalAddressMask
  | osdName _ => .osdName
  | physicalAddress _ => .physicalAddress
  | autoPowerOn _ => .autoPowerOn
  | cecVersion _ => .cecVersion

/-- The parameters of the command, before they are escaped. -/
def operand : Setting → List UInt8
  | autoEnabled enabled => [if enabled then 1 else 0]
  | defaultLogicalAddress address => [address]
  | deviceType type => [type]
  | logicalAddressMask iMask => [highByte iMask, lowByte iMask]
  | osdName strOSDName => cString strOSDName.toList
  | physicalAddress iPhysicalAddress => [highByte iPhysicalAddress, lowByte iPhysicalAddress]
  | autoPowerOn autoOn => [if autoOn then 1 else 0]
  | cecVersion version => [version]

end Setting

/-! ### The kept values -/

/-- `m_bSettingAutoEnabled`, `m_iSettingLAMask` and the settings in `m_savedConfiguration`. -/
structure SavedSettings where
  bSettingAutoEnabled : Bool
  primary : UInt8
  deviceType : UInt8
  iSettingLAMask : UInt16
  strDeviceName : BoundedBuffer UInt8 14
  iPhysicalAddress : UInt16
  bAutoPowerOn : UInt8
  cecVersion : UInt8
  deriving DecidableEq

namespace SavedSettings

/-- What the constructor leaves. -/
def initial : SavedSettings where
  bSettingAutoEnabled := false
  primary := 15
  deviceType := DeviceType.reserved.code
  iSettingLAMask := 0
  strDeviceName := Configuration.clear.strDeviceName
  iPhysicalAddress := Configuration.clear.iPhysicalAddress
  bAutoPowerOn := Configuration.clear.bAutoPowerOn
  cecVersion := Configuration.clear.cecVersion

/-- The check that a `SetSetting` call begins with: the kept value is the new one. -/
def holds (c : SavedSettings) : Setting → Bool
  | .autoEnabled enabled => c.bSettingAutoEnabled == enabled
  | .defaultLogicalAddress address => c.primary == address
  | .deviceType type => c.deviceType == type
  | .logicalAddressMask iMask => c.iSettingLAMask == iMask
  | .osdName strOSDName => cString c.strDeviceName.toList == cString strOSDName.toList
  | .physicalAddress iPhysicalAddress => c.iPhysicalAddress == iPhysicalAddress
  | .autoPowerOn autoOn => (c.bAutoPowerOn == 1) == autoOn
  | .cecVersion version => c.cecVersion == version

/-- What a `SetSetting` call keeps when the adapter has accepted the value. -/
def store (c : SavedSettings) : Setting → SavedSettings
  | .autoEnabled enabled => { c with bSettingAutoEnabled := enabled }
  | .defaultLogicalAddress address => { c with primary := address }
  | .deviceType type => { c with deviceType := type }
  | .logicalAddressMask iMask => { c with iSettingLAMask := iMask }
  | .osdName strOSDName => { c with strDeviceName := BoundedBuffer.empty.pushAll (cString strOSDName.toList) }
  | .physicalAddress iPhysicalAddress => { c with iPhysicalAddress := iPhysicalAddress }
  | .autoPowerOn autoOn => { c with bAutoPowerOn := if autoOn then 1 else 0 }
  | .cecVersion version => { c with cecVersion := version }

/-- `RequestSettingAutoEnabled`, with the answer to the request. -/
def requestSettingAutoEnabled (c : SavedSettings) : List UInt8 → Bool × SavedSettings
  | [b] => (true, { c with bSettingAutoEnabled := b = 1 })
  | _ => (false, c)

/-- `RequestSettingAutoPowerOn`. -/
def requestSettingAutoPowerOn (c : SavedSettings) : List UInt8 → Bool × SavedSettings
  | [b] => (true, { c with bAutoPowerOn := b })
  | _ => (false, c)

/-- `RequestSettingCECVersion`. -/
def requestSettingCECVersion (c : SavedSettings) : List UInt8 → Bool × SavedSettings
  | [b] => (true, { c with cecVersion := b })
  | _ => (false, c)

/-- `RequestSettingDefaultLogicalAddress`. -/
def requestSettingDefaultLogicalAddress (c : SavedSettings) : List UInt8 → Bool × SavedSettings
  | [b] => (true, { c with primary := b })
  | _ => (false, c)

/-- `RequestSettingDeviceType`: the kept type is forgotten first. -/
def requestSettingDeviceType (c : SavedSettings) : List UInt8 → Bool × SavedSettings
  | [b] => (true, { c with deviceType := b })
  | _ => (false, { c with deviceType := DeviceType.reserved.code })

/-- `RequestSettingLogicalAddressMask`. -/
def requestSettingLogicalAddressMask (c : SavedSettings) : List UInt8 → Bool × SavedSettings
  | [high, low] => (true, { c with iSettingLAMask := ofBytes high low })
  | _ => (false, c)

/-- `RequestSettingOSDName`: a name that is too long is cut off, and an empty answer empties the
    kept one. -/
def requestSettingOSDName (c : SavedSettings) (response : List UInt8) : Bool × SavedSettings :=
  if response = [] then (false, { c with strDeviceName := .empty })
  else (true, { c with strDeviceName := BoundedBuffer.empty.pushAll response })

/-- `RequestSettingPhysicalAddress`. -/
def requestSettingPhysicalAddress (c : SavedSettings) : List UInt8 → Bool × SavedSettings
  | [high, low] => (true, { c with iPhysicalAddress := ofBytes high low })
  | _ => (false, c)

/-- The request for a setting. -/
def requestSetting (c : SavedSettings) : SettingKind → List UInt8 → Bool × SavedSettings
  | .autoEnabled => c.requestSettingAutoEnabled
  | .defaultLogicalAddress => c.requestSettingDefaultLogicalAddress
  | .deviceType => c.requestSettingDeviceType
  | .logicalAddressMask => c.requestSettingLogicalAddressMask
  | .osdName => c.requestSettingOSDName
  | .physicalAddress => c.requestSettingPhysicalAddress
  | .autoPowerOn => c.requestSettingAutoPowerOn
  | .cecVersion => c.requestSettingCECVersion

end SavedSettings

/-- `RequestSetting`: the data of the answer, nothing when there is none that can be used. -/
def response (answer : Option (List UInt8)) : List UInt8 := (answer.getD []).take maxDataPacketSize

/-! ### `CUSBCECAdapterCommands` -/

/-- `CUSBCECAdapterCommands`. -/
structure AdapterCommands where
  iFirmwareVersion : ℕ
  bSettingsRetrieved : Bool
  bNeedsWrite : Bool
  saved : SavedSettings
  deriving DecidableEq

namespace AdapterCommands

/-- What the constructor leaves, and the firmware version that was requested later. -/
def initial (iFirmwareVersion : ℕ) : AdapterCommands := ⟨iFirmwareVersion, false, false, .initial⟩

/-- A changed setting has to be written to the EEPROM. -/
def markChanged (s : AdapterCommands) : AdapterCommands := { s with bNeedsWrite := true }

/-- The end of a `SetSetting` call that was accepted. -/
def store (s : AdapterCommands) (x : Setting) : AdapterCommands :=
  { s with saved := s.saved.store x }

/-- The settings that `RequestSettings` reads, in order. -/
def settingsRead (iFirmwareVersion : ℕ) : List SettingKind :=
  [.autoEnabled, .defaultLogicalAddress, .deviceType, .logicalAddressMask, .osdName,
    .physicalAddress, if 10 ≤ iFirmwareVersion then .autoPowerOn else .cecVersion]

end AdapterCommands

/-- `CCECTypeUtils::GetMaskForType`. -/
def getMaskForType : DeviceType → UInt16
  | .audioSystem => (LogicalAddresses.clear.set 5).ackMask
  | .playbackDevice => (((LogicalAddresses.clear.set 4).set 8).set 11).ackMask
  | .recordingDevice => (((LogicalAddresses.clear.set 1).set 2).set 9).ackMask
  | .tuner => ((((LogicalAddresses.clear.set 3).set 6).set 7).set 10).ackMask
  | .tv => (LogicalAddresses.clear.set 0).ackMask
  | .reserved => 0

/-- The settings that `SaveConfiguration` sets, in order. -/
def Configuration.settingsToSave (configuration : Configuration) (iFirmwareVersion : ℕ) :
    List Setting :=
  let primary := configuration.logicalAddresses.primary
  (if CEC.deviceType primary ≠ .reserved then
    [.deviceType (CEC.deviceType primary).code, .defaultLogicalAddress (UInt8.ofNat primary),
      .logicalAddressMask (getMaskForType (CEC.deviceType primary))]
  else [.deviceType (configuration.deviceTypes.types.headD .reserved).code]) ++
  [.physicalAddress configuration.iPhysicalAddress, .osdName configuration.strDeviceName] ++
  (if configuration.bAutonomousMode = 0 ∨ configuration.bAutonomousMode = 1 then
    [.autoEnabled (configuration.bAutonomousMode = 1)]
  else []) ++
  if 10 ≤ iFirmwareVersion then
    if configuration.bAutoPowerOn = 0 ∨ configuration.bAutoPowerOn = 1 then
      [.autoPowerOn (configuration.bAutoPowerOn = 1)]
    else []
  else [.cecVersion configuration.cecVersion]

/-! ### The adapter on the other side -/

/-- What becomes of a setting that is sent: the adapter takes it and says so, it does not take it,
    or it takes it and its answer is lost. -/
inductive SetOutcome where
  | accepted | refused | lost
  deriving DecidableEq

/-- The commands and the adapter that they talk to. `wasRead`, `skips` and `retrievals` are history:
    which settings were read, what the adapter held when a setting was not sent because nothing
    seemed to change, and whether everything had been read when `RequestSettings` returned true. -/
structure SettingsWorld where
  commands : AdapterCommands
  stored : SettingKind → List UInt8
  wasRead : SettingKind → Bool
  skips : List (Setting × List UInt8)
  retrievals : List Bool

namespace SettingsWorld

def initial (iFirmwareVersion : ℕ) (stored : SettingKind → List UInt8) : SettingsWorld :=
  ⟨.initial iFirmwareVersion, stored, fun _ => false, [], []⟩

/-- The request for a setting and what it keeps of the answer. An empty name is an answer, too. -/
def requestSetting (kind : SettingKind) (answer : Option (List UInt8)) (s : SettingsWorld) :
    Bool × SettingsWorld :=
  let r := s.commands.saved.requestSetting kind (response answer)
  let read := answer.isSome && (kind = .osdName || r.1)
  (r.1, { s with
    commands := { s.commands with saved := r.2 }
    wasRead := Function.update s.wasRead kind (s.wasRead kind || read) })

/-- `RequestSettings` returns true. -/
def noteRetrieval (s : SettingsWorld) : SettingsWorld :=
  { s with retrievals := s.retrievals ++
      [(AdapterCommands.settingsRead s.commands.iFirmwareVersion).all s.wasRead] }

/-- The requests of `RequestSettings`; `bReturn` is true to begin with. -/
def readSettings (answers : SettingKind → Option (List UInt8)) (kinds : List SettingKind)
    (s : SettingsWorld) : Bool × SettingsWorld :=
  kinds.foldl (fun p kind =>
    let q := p.2.requestSetting kind (answers kind)
    (p.1 || q.1, q.2)) (true, s)

/-- `RequestSettings`. -/
def requestSettings (answers : SettingKind → Option (List UInt8)) (s : SettingsWorld) :
    Bool × SettingsWorld :=
  if s.commands.iFirmwareVersion < 2 then (false, s)
  else if s.commands.bSettingsRetrieved then (true, s.noteRetrieval)
  else
    let r := s.readSettings answers (AdapterCommands.settingsRead s.commands.iFirmwareVersion)
    let s := { r.2 with commands := { r.2.commands with bSettingsRetrieved := true } }
    (r.1, if r.1 then s.noteRetrieval else s)

/-- `GetConfiguration`: the settings that are copied out. -/
def getConfiguration (answers : SettingKind → Option (List UInt8)) (s : SettingsWorld) :
    Option SavedSettings × SettingsWorld :=
  let r := s.requestSettings answers
  (if r.1 then some r.2.commands.saved else none, r.2)

/-- The adapter takes a setting. -/
def take (s : SettingsWorld) (x : Setting) : SettingsWorld :=
  { s with stored := Function.update s.stored x.kind x.operand }

/-- What the `SetSetting` calls have in common; `bMark` when `m_bNeedsWrite` is set. -/
def changeSetting (bMark : Bool) (x : Setting) (outcome : SetOutcome) (s : SettingsWorld) :
    Bool × SettingsWorld :=
  -- check whether this value was changed
  if s.commands.saved.holds x then
    (false, { s with skips := s.skips ++ [(x, s.stored x.kind)] })
  else
    let s := if bMark then { s with commands := s.commands.markChanged } else s
    match outcome with
    | .accepted => (true, { s.take x with commands := s.commands.store x })
    | .refused => (false, s)
    | .lost => (false, s.take x)

/-- `SetSettingAutoEnabled`. -/
def setSettingAutoEnabled (enabled : Bool) : SetOutcome → SettingsWorld → Bool × SettingsWorld :=
  changeSetting true (.autoEnabled enabled)

/-- `SetSettingDeviceType`. -/
def setSettingDeviceType (type : UInt8) : SetOutcome → SettingsWorld → Bool × SettingsWorld :=
  changeSetting true (.deviceType type)

/-- `SetSettingDefaultLogicalAddress`. -/
def setSettingDefaultLogicalAddress (address : UInt8) :
    SetOutcome → SettingsWorld → Bool × SettingsWorld :=
  changeSetting true (.defaultLogicalAddress address)

/-- `SetSettingLogicalAddressMask`. -/
def setSettingLogicalAddressMask (iMask : UInt16) :
    SetOutcome → SettingsWorld → Bool × SettingsWorld :=
  changeSetting true (.logicalAddressMask iMask)

/-- `SetSettingPhysicalAddress`. -/
def setSettingPhysicalAddress (iPhysicalAddress : UInt16) :
    SetOutcome → SettingsWorld → Bool × SettingsWorld :=
  changeSetting true (.physicalAddress iPhysicalAddress)

/-- `SetSettingAutoPowerOn`: only supported by version 10 and later. -/
def setSettingAutoPowerOn (autoOn : Bool) (outcome : SetOutcome) (s : SettingsWorld) :
    Bool × SettingsWorld :=
  if s.commands.iFirmwareVersion < 10 then (false, s)
  else s.changeSetting true (.autoPowerOn autoOn) outcome

/-- `SetSettingCECVersion`. -/
def setSettingCECVersion (version : UInt8) : SetOutcome → SettingsWorld → Bool × SettingsWorld :=
  changeSetting true (.cecVersion version)

/-- `SetSettingOSDName`, which does not set `m_bNeedsWrite`. -/
def setSettingOSDName (strOSDName : BoundedBuffer UInt8 14) :
    SetOutcome → SettingsWorld → Bool × SettingsWorld :=
  changeSetting false (.osdName strOSDName)

/-- The `SetSetting` call for a setting. -/
def setSetting : Setting → SetOutcome → SettingsWorld → Bool × SettingsWorld
  | .autoEnabled enabled => setSettingAutoEnabled enabled
  | .defaultLogicalAddress address => setSettingDefaultLogicalAddress address
  | .deviceType type => setSettingDeviceType type
  | .logicalAddressMask iMask => setSettingLogicalAddressMask iMask
  | .osdName strOSDName => setSettingOSDName strOSDName
  | .physicalAddress iPhysicalAddress => setSettingPhysicalAddress iPhysicalAddress
  | .autoPowerOn autoOn => setSettingAutoPowerOn autoOn
  | .cecVersion version => setSettingCECVersion version

/-- The `SetSetting` calls of `SaveConfiguration`, and whether something changed. -/
def setSettings (outcomes : SettingKind → SetOutcome) (xs : List Setting) (s : SettingsWorld) :
    Bool × SettingsWorld :=
  xs.foldl (fun p x =>
    let q := p.2.setSetting x (outcomes x.kind)
    (p.1 || q.1, q.2)) (false, s)

/-- `SaveConfiguration`. -/
def saveConfiguration (configuration : Configuration)
    (answers : SettingKind → Option (List UInt8)) (outcomes : SettingKind → SetOutcome)
    (s : SettingsWorld) : Bool × SettingsWorld :=
  if s.commands.iFirmwareVersion < 2 then (false, s)
  else
    let r := s.requestSettings answers
    if !r.1 then (false, r.2)
    else r.2.setSettings outcomes (configuration.settingsToSave s.commands.iFirmwareVersion)

/-- A call of one of the three, with what the adapter answers to it. -/
inductive Call where
  | requestSettings (answers : SettingKind → Option (List UInt8))
  | getConfiguration (answers : SettingKind → Option (List UInt8))
  | saveConfiguration (configuration : Configuration)
      (answers : SettingKind → Option (List UInt8)) (outcomes : SettingKind → SetOutcome)

def step (s : SettingsWorld) : Call → SettingsWorld
  | .requestSettings answers => (s.requestSettings answers).2
  | .getConfiguration answers => (s.getConfiguration answers).2
  | .saveConfiguration configuration answers outcomes =>
    (s.saveConfiguration configuration answers outcomes).2

/-- What was not sent because nothing changed is what the adapter holds, and whenever
    `RequestSettings` returned true everything had been read. -/
def Coherent (s : SettingsWorld) : Prop :=
  (∀ p ∈ s.skips, p.2 = p.1.operand) ∧ ∀ complete ∈ s.retrievals, complete = true

instance (s : SettingsWorld) : Decidable s.Coherent := inferInstanceAs (Decidable (_ ∧ _))

end SettingsWorld

/-- What the adapter may hold for a setting: flags are zero or one, and a name is a string that
    fits. -/
def SettingKind.plain : SettingKind → List UInt8 → Bool
  | .autoEnabled, [b] | .autoPowerOn, [b] => b = 0 || b = 1
  | .defaultLogicalAddress, [_] | .deviceType, [_] | .cecVersion, [_] => true
  | .logicalAddressMask, [_, _] | .physicalAddress, [_, _] => true
  | .osdName, name => name.length ≤ 14 && 0 ∉ name
  | _, _ => false

namespace SettingsWorld

/-- Every request is answered with what the adapter holds, which is nothing unusual. -/
def Answered (s : SettingsWorld) (answers : SettingKind → Option (List UInt8)) : Prop :=
  2 ≤ s.commands.iFirmwareVersion → s.commands.bSettingsRetrieved = false →
    ∀ kind ∈ AdapterCommands.settingsRead s.commands.iFirmwareVersion,
      answers kind = some (s.stored kind) ∧ kind.plain (s.stored kind)

/-- No answer is missing or unusual. -/
def Reliable (s : SettingsWorld) : Call → Prop
  | .requestSettings answers => s.Answered answers
  | .getConfiguration answers => s.Answered answers
  | .saveConfiguration configuration answers outcomes => s.Answered answers ∧
      ∀ x ∈ configuration.settingsToSave s.commands.iFirmwareVersion, outcomes x.kind ≠ .lost

instance (s : SettingsWorld) (answers : SettingKind → Option (List UInt8)) :
    Decidable (s.Answered answers) :=
  inferInstanceAs (Decidable (_ → _ → ∀ kind ∈ _, _))

instance (s : SettingsWorld) : ∀ c : Call, Decidable (s.Reliable c)
  | .requestSettings _ | .getConfiguration _ => inferInstanceAs (Decidable (Answered _ _))
  | .saveConfiguration _ _ _ => inferInstanceAs (Decidable (_ ∧ ∀ x ∈ _, _))

end SettingsWorld

/-! ### One request, one setting -/

theorem toNat_ofBytes (high low : UInt8) :
    (ofBytes high low).toNat = high.toNat * 256 + low.toNat := by
  have hlow : low.toNat < 2 ^ 8 := low.toNat_lt
  have hhigh := high.toNat_lt
  have hfit : high.toNat <<< 8 % 65536 = high.toNat <<< 8 := by
    rw [Nat.shiftLeft_eq]
    omega
  simp only [ofBytes, UInt16.toNat_or, UInt16.toNat_shiftLeft, UInt8.toNat_toUInt16]
  change high.toNat <<< 8 % 65536 ||| low.toNat = _
  rw [hfit, ← Nat.shiftLeft_add_eq_or_of_lt hlow, Nat.shiftLeft_eq]

theorem highByte_ofBytes (high low : UInt8) : highByte (ofBytes high low) = high := by
  apply UInt8.toNat_inj.mp
  have hlow := low.toNat_lt
  have hhigh := high.toNat_lt
  simp only [highByte, UInt16.toNat_toUInt8, UInt16.toNat_shiftRight, toNat_ofBytes]
  change (high.toNat * 256 + low.toNat) >>> 8 % 256 = _
  rw [Nat.shiftRight_eq_div_pow]
  omega

theorem lowByte_ofBytes (high low : UInt8) : lowByte (ofBytes high low) = low := by
  apply UInt8.toNat_inj.mp
  have hlow := low.toNat_lt
  simp only [lowByte, UInt16.toNat_toUInt8, toNat_ofBytes]
  omega
/-- A string within a string ends where it ends. -/
theorem cString_cString (s : List UInt8) : cString (cString s) = cString s :=
  List.takeWhile_idem

/-- A name without a zero is a string as it is. -/
theorem cString_eq_self {s : List UInt8} (h : 0 ∉ s) : cString s = s := by
  refine List.takeWhile_eq_self_iff.mpr fun b hb => ?_
  have hne : b ≠ 0 := fun h0 => h (h0 ▸ hb)
  simpa using hne

/-- A name that fits is kept as it is. -/
theorem toList_pushAll_empty {s : List UInt8} (h : s.length ≤ 14) :
    (BoundedBuffer.empty.pushAll s : BoundedBuffer UInt8 14).toList = s := by
  rw [BoundedBuffer.toList_pushAll, BoundedBuffer.toList_empty, List.nil_append,
    List.take_of_length_le h]

theorem length_cString_le (s : BoundedBuffer UInt8 14) : (cString s.toList).length ≤ 14 :=
  (List.takeWhile_prefix _).length_le.trans s.fits

namespace SavedSettings

variable {c : SavedSettings} {kind : SettingKind} {x y : Setting} {data : List UInt8}

/-- A request changes what is kept for its own setting only. -/
theorem holds_requestSetting_of_ne (h : x.kind ≠ kind) :
    (c.requestSetting kind data).2.holds x = c.holds x := by
  cases kind <;> cases x <;> first | exact absurd rfl h | skip
  all_goals
    simp only [requestSetting, requestSettingAutoEnabled, requestSettingAutoPowerOn,
      requestSettingCECVersion, requestSettingDefaultLogicalAddress, requestSettingDeviceType,
      requestSettingLogicalAddressMask, requestSettingOSDName, requestSettingPhysicalAddress]
    split <;> rfl

/-- What the requests keep of an answer that is not unusual. -/
theorem requestSetting_plain (hplain : kind.plain data) :
    (kind = .osdName ∨ (c.requestSetting kind (response (some data))).1 = true) ∧
      ∀ x : Setting, x.kind = kind →
        (c.requestSetting kind (response (some data))).2.holds x → data = x.operand := by
  revert hplain
  fun_cases SettingKind.plain kind data with
  | case1 b =>
    intro hb
    refine ⟨.inr rfl, fun x hx h => ?_⟩
    cases x with
    | autoEnabled enabled =>
      have h : decide (b = 1) = enabled := eq_of_beq h
      have hb : b = 0 ∨ b = 1 := by simpa using hb
      rcases hb with rfl | rfl <;> rw [← h] <;> rfl
    | _ => cases hx
  | case2 b =>
    intro hb
    refine ⟨.inr rfl, fun x hx h => ?_⟩
    cases x with
    | autoPowerOn autoOn =>
      have h : (b == 1) = autoOn := eq_of_beq h
      have hb : b = 0 ∨ b = 1 := by simpa using hb
      rcases hb with rfl | rfl <;> rw [← h] <;> rfl
    | _ => cases hx
  | case3 b =>
    refine fun _ => ⟨.inr rfl, fun x hx h => ?_⟩
    cases x with
    | defaultLogicalAddress address =>
      have h : b = address := eq_of_beq h
      rw [h]
      rfl
    | _ => cases hx
  | case4 b =>
    refine fun _ => ⟨.inr rfl, fun x hx h => ?_⟩
    cases x with
    | deviceType type =>
      have h : b = type := eq_of_beq h
      rw [h]
      rfl
    | _ => cases hx
  | case5 b =>
    refine fun _ => ⟨.inr rfl, fun x hx h => ?_⟩
    cases x with
    | cecVersion version =>
      have h : b = version := eq_of_beq h
      rw [h]
      rfl
    | _ => cases hx
  | case6 high low =>
    refine fun _ => ⟨.inr rfl, fun x hx h => ?_⟩
    cases x with
    | logicalAddressMask iMask =>
      have h : ofBytes high low = iMask := eq_of_beq h
      rw [← h, Setting.operand, highByte_ofBytes, lowByte_ofBytes]
    | _ => cases hx
  | case7 high low =>
    refine fun _ => ⟨.inr rfl, fun x hx h => ?_⟩
    cases x with
    | physicalAddress pa =>
      have h : ofBytes high low = pa := eq_of_beq h
      rw [← h, Setting.operand, highByte_ofBytes, lowByte_ofBytes]
    | _ => cases hx
  | case8 =>
    intro hname
    obtain ⟨hlength, hzero⟩ : data.length ≤ 14 ∧ 0 ∉ data := by simpa using hname
    refine ⟨.inl rfl, fun x hx h => ?_⟩
    cases x with
    | osdName strOSDName =>
      have h : cString (c.requestSettingOSDName (response (some data))).2.strDeviceName.toList =
          cString strOSDName.toList := eq_of_beq h
      have hresponse : response (some data) = data :=
        List.take_of_length_le (hlength.trans (Nat.le_of_ble_eq_true rfl))
      rw [Setting.operand, ← h, hresponse, requestSettingOSDName]
      split
      · next hempty => rw [hempty]; rfl
      · exact (cString_eq_self hzero).symm.trans (by rw [toList_pushAll_empty hlength])
    | _ => cases hx
  | case9 => exact fun h => absurd h Bool.false_ne_true

/-- A setting that was accepted changes what is kept for it only. -/
theorem holds_store_of_ne (h : y.kind ≠ x.kind) : (c.store x).holds y = c.holds y := by
  cases x <;> cases y <;> first | rfl | exact absurd rfl h

/-- And what is kept for it is the value that was accepted. -/
theorem holds_store (hkind : y.kind = x.kind) (h : (c.store x).holds y) : x.operand = y.operand := by
  cases x <;> cases y <;> cases hkind
  case autoEnabled.autoEnabled enabled enabled' =>
    have h : enabled = enabled' := eq_of_beq h
    rw [h]
  case autoPowerOn.autoPowerOn autoOn autoOn' =>
    have h : ((if autoOn then (1 : UInt8) else 0) == 1) = autoOn' := eq_of_beq h
    rw [← h]
    cases autoOn <;> rfl
  case osdName.osdName name name' =>
    have h : cString (BoundedBuffer.empty.pushAll (cString name.toList) :
        BoundedBuffer UInt8 14).toList = cString name'.toList := eq_of_beq h
    rw [toList_pushAll_empty (length_cString_le name), cString_cString] at h
    exact h
  all_goals
    have h := eq_of_beq h
    simp only [store] at h
    rw [h]

end SavedSettings

/-! ### Runs of calls -/

namespace SettingsWorld

variable {s : SettingsWorld}

/-- What is kept of a setting was read, and is what the adapter holds. -/
def Mirrors (s : SettingsWorld) (kind : SettingKind) : Prop :=
  s.wasRead kind ∧
    ∀ x : Setting, x.kind = kind → s.commands.saved.holds x → s.stored kind = x.operand

/-- Coherence, and what it rests on once the settings were retrieved. -/
structure Inv (s : SettingsWorld) : Prop where
  coherent : s.Coherent
  mirrors : s.commands.bSettingsRetrieved → ∀ kind ∈
    AdapterCommands.settingsRead s.commands.iFirmwareVersion, s.Mirrors kind

theorem inv_initial (iFirmwareVersion : ℕ) (stored : SettingKind → List UInt8) :
    (initial iFirmwareVersion stored).Inv where
  coherent := ⟨nofun, nofun⟩
  mirrors := nofun

/-- What a request leaves alone. -/
structure Reads (s t : SettingsWorld) : Prop where
  stored : t.stored = s.stored
  skips : t.skips = s.skips
  retrievals : t.retrievals = s.retrievals
  iFirmwareVersion : t.commands.iFirmwareVersion = s.commands.iFirmwareVersion

theorem Reads.trans {t u : SettingsWorld} (h : s.Reads t) (h' : t.Reads u) : s.Reads u where
  stored := h'.stored.trans h.stored
  skips := h'.skips.trans h.skips
  retrievals := h'.retrievals.trans h.retrievals
  iFirmwareVersion := h'.iFirmwareVersion.trans h.iFirmwareVersion

theorem reads_requestSetting (s : SettingsWorld) (kind : SettingKind) (answer : Option (List UInt8)) :
    s.Reads (s.requestSetting kind answer).2 := ⟨rfl, rfl, rfl, rfl⟩

/-- An answer that is not unusual makes the kept value the adapter's. -/
theorem mirrors_requestSetting {kind : SettingKind} {answer : Option (List UInt8)}
    (hanswer : answer = some (s.stored kind)) (hplain : kind.plain (s.stored kind))
    (k : SettingKind) (h : k = kind ∨ s.Mirrors k) : (s.requestSetting kind answer).2.Mirrors k := by
  subst hanswer
  obtain ⟨hread, hholds⟩ := s.commands.saved.requestSetting_plain hplain
  rcases eq_or_ne k kind with rfl | hne
  · refine ⟨?_, hholds⟩
    rcases hread with hname | hread
    · simp [requestSetting, hname]
    · simp [requestSetting, hread]
  · obtain ⟨hwas, hkept⟩ := h.resolve_left hne
    refine ⟨?_, fun x hx hh => ?_⟩
    · simpa [requestSetting, Function.update_of_ne hne] using hwas
    · subst hx
      refine hkept x rfl ?_
      rw [← SavedSettings.holds_requestSetting_of_ne hne]
      exact hh

/-- The requests of `RequestSettings`, when all of them are answered. -/
theorem mirrors_readSettings {answers : SettingKind → Option (List UInt8)} :
    ∀ (kinds : List SettingKind) (p : Bool × SettingsWorld),
      (∀ kind ∈ kinds, answers kind = some (p.2.stored kind) ∧ kind.plain (p.2.stored kind)) →
      let t := (kinds.foldl (fun p kind =>
        let q := p.2.requestSetting kind (answers kind)
        (p.1 || q.1, q.2)) p).2
      p.2.Reads t ∧ ∀ k, k ∈ kinds ∨ p.2.Mirrors k → t.Mirrors k
  | [], p, _ => ⟨⟨rfl, rfl, rfl, rfl⟩, fun _ h => h.resolve_left List.not_mem_nil⟩
  | kind :: kinds, p, hanswers => by
    obtain ⟨⟨hanswer, hplain⟩, hrest⟩ := List.forall_mem_cons.mp hanswers
    have hreads := reads_requestSetting p.2 kind (answers kind)
    obtain ⟨hreads', hmirrors⟩ := mirrors_readSettings kinds
      (p.1 || (p.2.requestSetting kind (answers kind)).1, (p.2.requestSetting kind (answers kind)).2)
      (fun k hk => hreads.stored ▸ hrest k hk)
    refine ⟨hreads.trans hreads', fun k hk => hmirrors k ?_⟩
    rcases hk with hk | hk
    · rcases List.mem_cons.mp hk with rfl | hk
      · exact .inr (mirrors_requestSetting hanswer hplain k (.inl rfl))
      · exact .inl hk
    · exact .inr (mirrors_requestSetting hanswer hplain k (.inr hk))

/-- Once everything was read `RequestSettings` may return true. -/
theorem Inv.noteRetrieval (h : s.Inv) (hretrieved : s.commands.bSettingsRetrieved) :
    s.noteRetrieval.Inv where
  mirrors := h.mirrors
  coherent := by
    refine ⟨h.coherent.1, fun complete hmem => ?_⟩
    rcases List.mem_append.mp hmem with hmem | hmem
    · exact h.coherent.2 complete hmem
    · rw [List.mem_singleton.mp hmem, List.all_eq_true]
      exact fun kind hkind => (h.mirrors hretrieved kind hkind).1

theorem fst_requests {answers : SettingKind → Option (List UInt8)} :
    ∀ (kinds : List SettingKind) (p : Bool × SettingsWorld), p.1 = true →
      (kinds.foldl (fun p kind =>
        let q := p.2.requestSetting kind (answers kind)
        (p.1 || q.1, q.2)) p).1 = true
  | [], _, h => h
  | _ :: kinds, _, h => fst_requests kinds _ (by simp [h])

/-- `RequestSettings` never reports that a request failed. -/
theorem fst_requestSettings (answers : SettingKind → Option (List UInt8))
    (h : 2 ≤ s.commands.iFirmwareVersion) : (s.requestSettings answers).1 = true := by
  unfold requestSettings
  split
  · omega
  · split
    · rfl
    · exact fst_requests _ _ rfl

/-- What the commands are after a `SetSetting` call. -/
theorem commands_setSetting (w : SettingsWorld) (x : Setting) (outcome : SetOutcome) :
    (w.setSetting x outcome).2.commands =
      if x.kind = .autoPowerOn ∧ w.commands.iFirmwareVersion < 10 ∨ w.commands.saved.holds x then
        w.commands
      else
        let c := if x.kind = .osdName then w.commands else w.commands.markChanged
        if outcome = .accepted then c.store x else c := by
  have hchange : ∀ bMark : Bool, (w.changeSetting bMark x outcome).2.commands =
      if w.commands.saved.holds x then w.commands
      else
        let c := if bMark then w.commands.markChanged else w.commands
        if outcome = .accepted then c.store x else c := by
    intro bMark
    unfold changeSetting
    split
    · rfl
    · cases bMark <;> cases outcome <;> rfl
  cases x with
  | autoPowerOn autoOn =>
    by_cases hold : w.commands.iFirmwareVersion < 10
    · simp [setSetting, setSettingAutoPowerOn, hold, Setting.kind]
    · simpa [setSetting, setSettingAutoPowerOn, hold, Setting.kind] using hchange true
  | osdName strOSDName =>
    simpa [setSetting, setSettingOSDName, Setting.kind] using hchange false
  | _ =>
    simpa [setSetting, setSettingAutoEnabled, setSettingDefaultLogicalAddress, setSettingDeviceType,
      setSettingLogicalAddressMask, setSettingPhysicalAddress, setSettingCECVersion,
      Setting.kind] using hchange true

/-- A changed OSD name does not count as something to write to the EEPROM. -/
theorem bNeedsWrite_setSettingOSDName (strOSDName : BoundedBuffer UInt8 14) (outcome : SetOutcome) :
    (s.setSettingOSDName strOSDName outcome).2.commands.bNeedsWrite = s.commands.bNeedsWrite := by
  have h := commands_setSetting s (.osdName strOSDName) outcome
  simp only [setSetting] at h
  rw [h]
  split
  · rfl
  · cases outcome <;> rfl

/-- `RequestSettings` keeps the invariant, and after it returned true the settings were
    retrieved. -/
theorem inv_requestSettings {answers : SettingKind → Option (List UInt8)} (h : s.Inv)
    (hanswered : s.Answered answers) : (s.requestSettings answers).2.Inv ∧
      (s.requestSettings answers).2.commands.iFirmwareVersion = s.commands.iFirmwareVersion ∧
      ((s.requestSettings answers).1 → (s.requestSettings answers).2.commands.bSettingsRetrieved) := by
  unfold requestSettings
  split
  · exact ⟨h, rfl, nofun⟩
  next hversion =>
  split
  · next hretrieved => exact ⟨h.noteRetrieval hretrieved, rfl, fun _ => hretrieved⟩
  · next hretrieved =>
    obtain ⟨hreads, hmirrors⟩ := mirrors_readSettings
      (AdapterCommands.settingsRead s.commands.iFirmwareVersion) (true, s)
      (hanswered (by omega) (by simpa using hretrieved))
    let r := s.readSettings answers (AdapterCommands.settingsRead s.commands.iFirmwareVersion)
    let t : SettingsWorld := { r.2 with commands := { r.2.commands with bSettingsRetrieved := true } }
    have hversion' : t.commands.iFirmwareVersion = s.commands.iFirmwareVersion :=
      hreads.iFirmwareVersion
    have ht : t.Inv := by
      refine ⟨⟨?_, ?_⟩, fun _ kind hkind => hmirrors kind (.inl (hversion' ▸ hkind))⟩
      · intro p hp
        exact h.coherent.1 p (hreads.skips ▸ hp)
      · intro complete hmem
        exact h.coherent.2 complete (hreads.retrievals ▸ hmem)
    change (if r.1 then t.noteRetrieval else t).Inv ∧ _
    dsimp only
    split
    · exact ⟨ht.noteRetrieval rfl, hversion', fun _ => rfl⟩
    · exact ⟨ht, hversion', fun _ => rfl⟩

/-- The invariant after the settings were retrieved, for a firmware. -/
structure Retrieved (s : SettingsWorld) (iFirmwareVersion : ℕ) : Prop where
  inv : s.Inv
  retrieved : s.commands.bSettingsRetrieved
  version : s.commands.iFirmwareVersion = iFirmwareVersion

variable {iFirmwareVersion : ℕ}

theorem Retrieved.mirrors (h : s.Retrieved iFirmwareVersion) {kind : SettingKind}
    (hkind : kind ∈ AdapterCommands.settingsRead iFirmwareVersion) : s.Mirrors kind :=
  h.inv.mirrors h.retrieved kind (h.version.symm ▸ hkind)

/-- A setting that the adapter accepts is kept as the adapter's. -/
theorem Retrieved.accepted (h : s.Retrieved iFirmwareVersion) (x : Setting) :
    ({ s.take x with commands := s.commands.store x } : SettingsWorld).Retrieved iFirmwareVersion where
  retrieved := h.retrieved
  version := h.version
  inv := by
    refine ⟨h.inv.coherent, fun hretrieved kind hkind => ?_⟩
    obtain ⟨hread, hholds⟩ := h.inv.mirrors hretrieved kind hkind
    refine ⟨hread, fun y hy hh => ?_⟩
    change Function.update s.stored x.kind x.operand kind = y.operand
    subst hy
    rcases eq_or_ne y.kind x.kind with heq | hne
    · rw [heq, Function.update_self]
      exact SavedSettings.holds_store heq hh
    · rw [Function.update_of_ne hne]
      exact hholds y rfl ((SavedSettings.holds_store_of_ne hne).symm.trans hh)

/-- A setting that is sent, or not, keeps the invariant unless its answer is lost. -/
theorem Retrieved.changeSetting {bMark : Bool} {x : Setting} {outcome : SetOutcome}
    (h : s.Retrieved iFirmwareVersion) (hlost : outcome ≠ .lost)
    (hx : x.kind ∈ AdapterCommands.settingsRead iFirmwareVersion) :
    (s.changeSetting bMark x outcome).2.Retrieved iFirmwareVersion := by
  unfold SettingsWorld.changeSetting
  split
  · next hholds =>
    refine ⟨⟨⟨fun p hp => ?_, h.inv.coherent.2⟩, h.inv.mirrors⟩, h.retrieved, h.version⟩
    rcases List.mem_append.mp hp with hp | hp
    · exact h.inv.coherent.1 p hp
    · rw [List.mem_singleton.mp hp]
      exact (h.mirrors hx).2 x rfl hholds
  · have hmarked : (if bMark then { s with commands := s.commands.markChanged } else s :
        SettingsWorld).Retrieved iFirmwareVersion := by
      cases bMark
      · exact h
      · exact ⟨⟨h.inv.coherent, h.inv.mirrors⟩, h.retrieved, h.version⟩
    cases outcome with
    | accepted => exact hmarked.accepted x
    | refused => exact hmarked
    | lost => exact absurd rfl hlost

/-- So does each of the `SetSetting` calls. -/
theorem Retrieved.setSetting {x : Setting} {outcome : SetOutcome}
    (h : s.Retrieved iFirmwareVersion) (hlost : outcome ≠ .lost)
    (hx : x.kind ∈ AdapterCommands.settingsRead iFirmwareVersion) :
    (s.setSetting x outcome).2.Retrieved iFirmwareVersion := by
  cases x with
  | autoPowerOn autoOn =>
    unfold SettingsWorld.setSetting setSettingAutoPowerOn
    dsimp only
    split
    · exact h
    · exact h.changeSetting hlost hx
  | _ => exact h.changeSetting hlost hx

/-- The `SetSetting` calls of `SaveConfiguration`. -/
theorem Retrieved.setSettings {outcomes : SettingKind → SetOutcome} :
    ∀ (xs : List Setting) (p : Bool × SettingsWorld), p.2.Retrieved iFirmwareVersion →
      (∀ x ∈ xs, outcomes x.kind ≠ .lost ∧
        x.kind ∈ AdapterCommands.settingsRead iFirmwareVersion) →
      (xs.foldl (fun p x =>
        let q := p.2.setSetting x (outcomes x.kind)
        (p.1 || q.1, q.2)) p).2.Retrieved iFirmwareVersion
  | [], _, h, _ => h
  | x :: xs, p, h, hxs => by
    obtain ⟨⟨hlost, hkind⟩, hrest⟩ := List.forall_mem_cons.mp hxs
    exact Retrieved.setSettings xs _ (h.setSetting hlost hkind) hrest

/-- `SaveConfiguration` only sets what `RequestSettings` has read. -/
theorem kind_mem_settingsRead {configuration : Configuration} {x : Setting}
    (hx : x ∈ configuration.settingsToSave iFirmwareVersion) :
    x.kind ∈ AdapterCommands.settingsRead iFirmwareVersion := by
  simp only [Configuration.settingsToSave, List.mem_append] at hx
  simp only [AdapterCommands.settingsRead]
  rcases hx with ((hx | hx) | hx) | hx
  · split_ifs at hx <;> simp only [List.mem_cons, List.not_mem_nil, or_false] at hx
    · rcases hx with rfl | rfl | rfl <;> simp [Setting.kind]
    · rw [hx]
      simp [Setting.kind]
  · simp only [List.mem_cons, List.not_mem_nil, or_false] at hx
    rcases hx with rfl | rfl <;> simp [Setting.kind]
  · split_ifs at hx
    · rw [List.mem_singleton.mp hx]
      simp [Setting.kind]
    · exact absurd hx List.not_mem_nil
  · split_ifs at hx with hversion
    · rw [List.mem_singleton.mp hx, if_pos hversion]
      simp [Setting.kind]
    · exact absurd hx List.not_mem_nil
    · rw [List.mem_singleton.mp hx, if_neg hversion]
      simp [Setting.kind]

/-- One call with answers that are not unusual keeps the invariant. -/
theorem Inv.step {c : Call} (h : s.Inv) (hreliable : s.Reliable c) : (s.step c).Inv := by
  cases c with
  | requestSettings answers => exact (inv_requestSettings h hreliable).1
  | getConfiguration answers => exact (inv_requestSettings h hreliable).1
  | saveConfiguration configuration answers outcomes =>
    obtain ⟨hanswered, hlost⟩ := hreliable
    obtain ⟨hinv, hversion, hretrieved⟩ := inv_requestSettings h hanswered
    change (s.saveConfiguration configuration answers outcomes).2.Inv
    unfold SettingsWorld.saveConfiguration
    split
    · exact h
    · dsimp only
      split
      · exact hinv
      · next hok =>
        have hready : (s.requestSettings answers).2.Retrieved s.commands.iFirmwareVersion :=
          ⟨hinv, hretrieved (by simpa using hok), hversion⟩
        exact (Retrieved.setSettings _ (false, _) hready fun x hx =>
          ⟨hlost x hx, kind_mem_settingsRead hx⟩).inv

end SettingsWorld

/-- In a run in which no answer is missing or unusual, what is kept is what the adapter holds. -/
theorem coherent_of_run (iFirmwareVersion : ℕ) (stored : SettingKind → List UInt8)
    {calls : List SettingsWorld.Call}
    (h : Guarded SettingsWorld.step SettingsWorld.Reliable (.initial iFirmwareVersion stored) calls) :
    (calls.foldl SettingsWorld.step (.initial iFirmwareVersion stored)).Coherent := by
  have hinv := Guarded.invariant (fun _ (s : SettingsWorld) => s.Inv)
    (SettingsWorld.inv_initial iFirmwareVersion stored) (fun _ s c hs hc => hs.step hc) h
  exact hinv.coherent

/-- What the adapter of a playback device holds. -/
def playbackAdapter : SettingKind → List UInt8
  | .autoEnabled => [1]
  | .defaultLogicalAddress => [4]
  | .deviceType => [4]
  | .logicalAddressMask => [0x09, 0x10]
  | .osdName => [0x54, 0x56]
  | .physicalAddress => [0x10, 0x00]
  | .autoPowerOn => [0]
  | .cecVersion => [0x05]

/-- A configuration with another physical address is saved twice. -/
def savedTwice : List SettingsWorld.Call :=
  List.replicate 2 (.saveConfiguration { Configuration.clear with iPhysicalAddress := 0x2000 }
    (fun kind => some (playbackAdapter kind)) fun _ => .accepted)

/-- The second time nothing is sent. -/
theorem coherent_savedTwice :
    (savedTwice.foldl SettingsWorld.step (.initial 12 playbackAdapter)).Coherent ∧
      (.physicalAddress 0x2000, [0x20, 0x00]) ∈
        (savedTwice.foldl SettingsWorld.step (.initial 12 playbackAdapter)).skips :=
  ⟨coherent_of_run 12 playbackAdapter (by decide +kernel), by decide +kernel⟩

/-- The physical address 0 is saved, and no request for a setting is answered. -/
def savedBlindly : List SettingsWorld.Call :=
  [.saveConfiguration .clear (fun _ => none) fun _ => .accepted]

/-- The address is not sent, because it is what the copy begins with, and the adapter keeps another
    one. -/
theorem savedBlindly_not_coherent :
    (.physicalAddress 0, [0x10, 0x00]) ∈
      (savedBlindly.foldl SettingsWorld.step (.initial 12 playbackAdapter)).skips ∧
      ¬(savedBlindly.foldl SettingsWorld.step (.initial 12 playbackAdapter)).Coherent := by
  decide +kernel

end CEC
