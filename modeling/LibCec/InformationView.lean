import LibCec.CommandFrame
import LibCec.InformationExchange

/-! The records and the world.

    The world keeps what decides about addresses and sources; the records keep all that a device tells.
    What both keep stays the same when a command of a device of others is handled, and both turn down
    the same commands:

        Session ──handlerFor──▶ Session
           │ Describes             │ Describes
        Records ───handle─────▶ Records

    The handlers that follow the power status of the TV are not part of this: what they do then is
    about the devices of the library itself. -/

namespace CEC
open Schemes Procedure

/-- What the clients of the library are connected to. -/
def World.listener (w : World) : Information.Listener where
  initialised := w.initialised
  clients := w.libClients.map fun k => ((w.configuration k).baseDevice, (w.configuration k).iHDMIPort)

/-- No handler follows the power status of the device. -/
def World.Unwatched (w : World) (a : Fin 16) : Prop :=
  a = 0 → (w.devices 0).handler ≠ .an ∧ (w.devices 0).handler ≠ .sy

namespace Information

/-- A record holds what the world holds of a device. -/
structure Matches (d : Device) (i : DeviceInfo) : Prop where
  physicalAddress : i.physicalAddress = d.physicalAddress
  powerStatus : i.powerStatus = d.powerStatus
  vendor : i.vendor = d.vendor

/-- The records hold what the world and the session do. -/
structure Describes (z : Session) (s : Records) : Prop where
  menuLanguage : ∀ b, (s b).menuLanguage = z.menuLanguage b
  device : ∀ b, Matches (z.world.devices b) (s b)

section view

variable {z : Session} {s : Records} {a : Fin 16} {w w' : World} {react : Reaction → Proc Unit}

theorem Describes.ofDevices (h : Describes z s) (hdevices : w'.devices = z.world.devices) :
    Describes { z with world := w' } s :=
  ⟨h.menuLanguage, fun b => by rw [hdevices]; exact h.device b⟩

/-- The record and the device change alike. -/
theorem Describes.updateDevice (h : Describes z s) {f : Device → Device} {g : DeviceInfo → DeviceInfo}
    (hmatches : Matches (z.world.devices a) (s a) → Matches (f (z.world.devices a)) (g (s a)))
    (hlanguage : (g (s a)).menuLanguage = (s a).menuLanguage) :
    Describes { z with world := z.world.updateDevice a f } (Function.update s a (g (s a))) := by
  refine ⟨fun b => ?_, fun b => ?_⟩
  · rcases eq_or_ne b a with rfl | hb
    · rw [Function.update_self, hlanguage]
      exact h.menuLanguage b
    · rw [Function.update_of_ne hb]
      exact h.menuLanguage b
  · change Matches ((z.world.updateDevice a f).devices b) _
    rw [updateDevice_devices]
    rcases eq_or_ne b a with rfl | hb
    · rw [Function.update_self, if_pos rfl]
      exact hmatches (h.device b)
    · rw [Function.update_of_ne hb, if_neg hb]
      exact h.device b

/-- The record alone learns something that the world does not keep. -/
theorem Describes.store (h : Describes z s) {g : DeviceInfo → DeviceInfo}
    (hmatches : ∀ d, Matches d (s a) → Matches d (g (s a)))
    (hlanguage : (g (s a)).menuLanguage = (s a).menuLanguage) :
    Describes z (Function.update s a (g (s a))) := by
  have hsame : z.world.updateDevice a id = z.world := by
    simp [World.updateDevice]
  have hupdate := h.updateDevice (f := id) (hmatches _) hlanguage
  rwa [hsame] at hupdate

theorem storePowerStatus_view (w : World) (a b : Fin 16) (p : PowerStatus) :
    ((w.storePowerStatus a p).devices b).physicalAddress = (w.devices b).physicalAddress ∧
      ((w.storePowerStatus a p).devices b).vendor = (w.devices b).vendor ∧
      ((w.storePowerStatus a p).devices b).handler = (w.devices b).handler ∧
      ((w.storePowerStatus a p).devices b).powerStatus =
        if b = a then p else (w.devices b).powerStatus := by
  unfold World.storePowerStatus
  split
  · next hsame =>
    refine ⟨rfl, rfl, rfl, ?_⟩
    split
    · next hb => rw [hb, hsame]
    · rfl
  · split
    · exact ⟨rfl, rfl, rfl, rfl⟩
    · rw [updateDevice_devices]
      by_cases hb : b = a
      · simp [hb]
      · simp [hb]

theorem Describes.storePowerStatus (h : Describes z s) (a : Fin 16) (p : PowerStatus) :
    Describes { z with world := z.world.storePowerStatus a p }
      (Function.update s a ((s a).setPowerStatus p)) := by
  refine ⟨fun b => ?_, fun b => ?_⟩
  · rcases eq_or_ne b a with rfl | hb
    · rw [Function.update_self]
      exact h.menuLanguage b
    · rw [Function.update_of_ne hb]
      exact h.menuLanguage b
  · obtain ⟨hpa, hvendor, -, hpower⟩ := storePowerStatus_view z.world a b p
    rcases eq_or_ne b a with rfl | hb
    · rw [Function.update_self]
      exact ⟨(h.device b).physicalAddress.trans hpa.symm, (hpower.trans (if_pos rfl)).symm,
        (h.device b).vendor.trans hvendor.symm⟩
    · rw [Function.update_of_ne hb]
      exact ⟨(h.device b).physicalAddress.trans hpa.symm,
        (h.device b).powerStatus.trans (hpower.trans (if_neg hb)).symm,
        (h.device b).vendor.trans hvendor.symm⟩

theorem Describes.setMenuLanguage (h : Describes z s) (a : Fin 16) (language : List UInt8) :
    Describes { z with menuLanguage := Function.update z.menuLanguage a language }
      (Function.update s a ((s a).setMenuLanguage language)) := by
  refine ⟨fun b => ?_, fun b => ?_⟩
  · rcases eq_or_ne b a with rfl | hb
    · rw [Function.update_self]
      exact (Function.update_self b language z.menuLanguage).symm
    · rw [Function.update_of_ne hb]
      exact (h.menuLanguage b).trans (Function.update_of_ne hb language z.menuLanguage).symm
  · obtain ⟨hpa, hpower, hvendor⟩ := h.device b
    rcases eq_or_ne b a with rfl | hb
    · rw [Function.update_self]
      exact ⟨hpa, hpower, hvendor⟩
    · rw [Function.update_of_ne hb]
      exact ⟨hpa, hpower, hvendor⟩

/-! ### What the functions of the world change -/

theorem returns_setPowerStatus (hw : w.Unwatched a) {p : PowerStatus}
    (h : Returns (setPowerStatus react a p) w () w') : w' = w.storePowerStatus a p := by
  have h := returns_ask_bind.mp h
  split at h
  · next hsame => rw [(returns_pure.mp h).2, World.storePowerStatus, if_pos hsame]
  · have h := returns_ask_bind.mp (returns_update_bind.mp h)
    by_cases ha : a = 0
    · subst ha
      obtain ⟨han, hsy⟩ := hw rfl
      rw [if_neg (not_not.mpr rfl)] at h
      have hhandler := (storePowerStatus_view w 0 0 p).2.2.1
      rw [id_eq, hhandler] at h
      split at h
      · next heq => exact absurd heq han
      · next heq => exact absurd heq hsy
      · exact (returns_pure.mp h).2
    · rw [if_pos ha] at h
      exact (returns_pure.mp h).2

theorem devices_of_broadcast {opcode : UInt8} (h : Returns (discard (transmit a 15 opcode false)) w () w') :
    w'.devices = w.devices := by
  obtain ⟨_, h⟩ := returns_discard.mp h
  rcases returns_processorTransmit_broadcast (returns_transmit_broadcast.mp h) with rfl | rfl
  · rfl
  · rfl

theorem devices_of_transmitVendorID (h : Returns (transmitVendorID a) w () w') :
    w'.devices = w.devices := by
  have h := returns_ask_bind.mp h
  rcases returns_callOr.mp h with ⟨-, h⟩ | ⟨-, -, rfl⟩
  · exact devices_of_broadcast h
  · rfl

theorem devices_of_transmitPhysicalAddress (h : Returns (transmitPhysicalAddress a) w () w') :
    w'.devices = w.devices := by
  have h := returns_ask_bind.mp h
  split at h
  · rw [(returns_pure.mp h).2]
  · exact devices_of_broadcast h

/-- Nobody looks again who does not derive an address from the device. -/
theorem refresh_of_not_follows (hno : w.listener.follows a = false) :
    ∀ (clients : List ClientId), (∀ k ∈ clients, k ∈ w.libClients) →
      Returns (forEach (refreshPhysicalAddress react a) clients) w () w' → w' = w
  | [], _, h => (returns_pure.mp h).2
  | k :: ks, hclients, h => by
    obtain ⟨_, w₁, h₁, h⟩ := returns_bind.mp h
    have hstays : (w.configuration k).baseDevice ≠ .addr a ∨ (w.configuration k).iHDMIPort < 1 ∨
        (w.configuration k).iHDMIPort > 15 := by
      by_contra hall
      simp only [not_or, not_not, UInt8.not_lt] at hall
      refine Bool.false_ne_true (hno.symm.trans (List.any_eq_true.mpr ⟨_, List.mem_map.mpr
        ⟨k, hclients k List.mem_cons_self, rfl⟩, ?_⟩))
      simpa [and_assoc] using hall
    have h₁ := returns_ask_bind.mp h₁
    rw [if_pos hstays] at h₁
    rw [(returns_pure.mp h₁).2] at h
    exact refresh_of_not_follows hno ks (fun k' hk' => hclients k' (List.mem_cons_of_mem k hk')) h

/-! ### The handlers -/

variable {c : Received}

/-- Whatever the function returns, the records are handled in the same way. -/
def Agrees (x : HandlerProc Handling) (z : Session) (r : Records × Handling) : Prop :=
  ∀ k z', Returns x z k z' → k = r.2 ∧ Describes z' r.1

theorem agrees_report (hdescribes : Describes z s) (accepted : Bool) {g : DeviceInfo → DeviceInfo}
    (hmatches : ∀ d, Matches d (s c.initiator) → Matches d (g (s c.initiator)))
    (hlanguage : (g (s c.initiator)).menuLanguage = (s c.initiator).menuLanguage) :
    Agrees (onWorld (report accepted)) z (s.store c accepted g) := by
  intro k z' h
  obtain ⟨w, hw, rfl⟩ := returns_zoom.mp h
  obtain ⟨rfl, rfl⟩ := returns_pure.mp hw
  cases accepted with
  | true => exact ⟨rfl, hdescribes.store hmatches hlanguage⟩
  | false => exact ⟨rfl, hdescribes⟩

/-- A report that only an audio system makes. -/
theorem agrees_audioReport (hdescribes : Describes z s) {g : DeviceInfo → DeviceInfo}
    (hmatches : ∀ d, Matches d (s c.initiator) → Matches d (g (s c.initiator)))
    (hlanguage : (g (s c.initiator)).menuLanguage = (s c.initiator).menuLanguage) :
    Agrees (onWorld (report (c.size = 1 ∧ isAudioSystem c.initiator))) z
      (s.store c (c.size = 1 && isAudioSystem c.initiator) g) := by
  rw [Bool.decide_and, Bool.decide_eq_true]
  exact agrees_report hdescribes _ hmatches hlanguage

theorem agrees_handleSetMenuLanguage (hdescribes : Describes z s) :
    Agrees (handleSetMenuLanguage c) z (s.handleSetMenuLanguage c) := by
  intro k z' h
  rw [handleSetMenuLanguage] at h
  by_cases hsize : c.size = 3
  · rw [if_pos hsize] at h
    have h := returns_update_bind.mp h
    obtain ⟨rfl, rfl⟩ := returns_pure.mp h
    rw [Records.handleSetMenuLanguage, Records.store, if_pos (decide_eq_true hsize)]
    exact ⟨rfl, hdescribes.setMenuLanguage _ _⟩
  · rw [if_neg hsize] at h
    obtain ⟨rfl, rfl⟩ := returns_pure.mp h
    rw [Records.handleSetMenuLanguage, Records.store, if_neg (by simpa using hsize)]
    exact ⟨rfl, hdescribes⟩

/-- The flag of unsupported features is not among what the records keep. -/
theorem agrees_handleFeatureAbort (hdescribes : Describes z s) :
    Agrees (handleFeatureAbort c) z s.handleFeatureAbort := by
  intro k z' h
  obtain ⟨_, z₁, h₁, h⟩ := returns_bind.mp h
  obtain ⟨rfl, rfl⟩ := returns_pure.mp h
  refine ⟨rfl, ?_⟩
  rcases returns_callOr.mp h₁ with ⟨-, h₁⟩ | ⟨-, -, rfl⟩
  · rw [setUnsupportedFeature] at h₁
    split at h₁
    · rw [(returns_pure.mp h₁).2]
      exact hdescribes
    · obtain ⟨_, z₂, h₂, h₁⟩ := returns_bind.mp h₁
      obtain ⟨w, hw, rfl⟩ := returns_zoom.mp h₂
      rw [returns_update.mp h₁, returns_update.mp hw]
      refine ⟨hdescribes.menuLanguage, fun b => ?_⟩
      obtain ⟨hpa, hpower, hvendor⟩ := hdescribes.device b
      simp only [updateDevice_devices]
      split
      · next hb =>
        subst hb
        split
        · exact ⟨hpa, hpower, hvendor⟩
        · exact ⟨hpa, hpower, hvendor⟩
      · exact ⟨hpa, hpower, hvendor⟩
  · exact hdescribes

theorem agrees_handleDeviceVendorId (hdescribes : Describes z s) :
    Agrees (onWorld (handleDeviceVendorId c)) z (s.handleDeviceVendorId c) := by
  intro k z' hret
  obtain ⟨w, h, rfl⟩ := returns_zoom.mp hret
  obtain ⟨_, w₁, h₁, h⟩ := returns_bind.mp h
  have h := returns_ask_bind.mp h
  obtain ⟨_, w₂, h₂, h⟩ := returns_bind.mp h
  obtain ⟨rfl, rfl⟩ := returns_pure.mp h
  have hdevices : w.devices = w₁.devices := by
    rcases returns_callOr.mp h₂ with ⟨-, h₂⟩ | ⟨-, -, rfl⟩
    · exact devices_of_transmitVendorID h₂
    · rfl
  rw [Records.handleDeviceVendorId]
  rcases returns_callOr.mp h₁ with ⟨hsize, h₁⟩ | ⟨hsize, -, rfl⟩
  · rw [if_neg (Nat.not_lt.mpr hsize)]
    obtain rfl := returns_update.mp h₁
    have hlearnt := hdescribes.updateDevice (a := c.initiator)
      (f := fun d => { d with vendor := c.vendorId }) (g := (·.setVendorId c.vendorId))
      (fun hm => ⟨hm.physicalAddress, hm.powerStatus, rfl⟩) rfl
    exact ⟨rfl, hlearnt.ofDevices hdevices⟩
  · rw [if_pos (Nat.not_le.mp hsize)]
    exact ⟨rfl, hdescribes.ofDevices hdevices⟩

theorem agrees_handleReportPowerStatus (hdescribes : Describes z s)
    (hw : z.world.Unwatched c.initiator) :
    Agrees (onWorld (handleReportPowerStatus react c)) z (s.handleReportPowerStatus c) := by
  intro k z' hret
  obtain ⟨w, h, rfl⟩ := returns_zoom.mp hret
  rw [handleReportPowerStatus] at h
  rw [Records.handleReportPowerStatus, Records.store]
  by_cases hsize : c.size = 1
  · rw [if_pos hsize] at h
    rw [if_pos (decide_eq_true hsize)]
    obtain ⟨_, w₁, h₁, h⟩ := returns_bind.mp h
    obtain ⟨rfl, rfl⟩ := returns_pure.mp h
    obtain rfl := returns_setPowerStatus hw h₁
    exact ⟨rfl, hdescribes.storePowerStatus _ _⟩
  · rw [if_neg hsize] at h
    obtain ⟨rfl, rfl⟩ := returns_pure.mp h
    rw [if_neg (by simpa using hsize)]
    exact ⟨rfl, hdescribes⟩

theorem agrees_handleReportPhysicalAddress (hdescribes : Describes z s)
    (hforeign : z.world.isHandled c.initiator = false)
    (hstays : ¬(c.size = 3 ∧ z.world.listener.follows c.initiator)) :
    Agrees (onWorld (handleReportPhysicalAddress react c)) z (s.handleReportPhysicalAddress c) := by
  intro k z' hret
  obtain ⟨w, h, rfl⟩ := returns_zoom.mp hret
  rw [handleReportPhysicalAddress] at h
  rw [Records.handleReportPhysicalAddress, Records.store]
  by_cases hsize : c.size = 3
  · rw [if_pos hsize] at h
    rw [if_pos (decide_eq_true hsize)]
    obtain ⟨_, w₁, h₁, h⟩ := returns_bind.mp h
    have h := returns_ask_bind.mp h
    obtain ⟨_, w₂, h₂, h⟩ := returns_bind.mp h
    obtain ⟨rfl, rfl⟩ := returns_pure.mp h
    have hdevices : w.devices = w₁.devices := by
      rcases returns_callOr.mp h₂ with ⟨-, h₂⟩ | ⟨-, -, rfl⟩
      · exact devices_of_transmitPhysicalAddress h₂
      · rfl
    have h₁ := returns_ask_bind.mp h₁
    rw [hforeign, if_neg Bool.false_ne_true] at h₁
    have h₁ := returns_ask_bind.mp (returns_update_bind.mp h₁)
    have hno : z.world.listener.follows c.initiator = false :=
      Bool.not_eq_true _ ▸ not_and.mp hstays hsize
    have hlearnt := hdescribes.updateDevice (a := c.initiator)
      (f := fun d => if c.address 0 > 0 then { d with physicalAddress := c.address 0 } else d)
      (g := (·.setPhysicalAddress (c.address 0))) (fun hm => ?_) ?_
    · obtain rfl := refresh_of_not_follows (w := World.updateDevice c.initiator _ z.world) hno _
        (fun _ hk => hk) h₁
      exact ⟨rfl, hlearnt.ofDevices hdevices⟩
    · rw [DeviceInfo.setPhysicalAddress]
      split
      · exact ⟨rfl, hm.powerStatus, hm.vendor⟩
      · exact hm
    · rw [DeviceInfo.setPhysicalAddress]
      split
      · rfl
      · rfl
  · rw [if_neg hsize] at h
    obtain ⟨rfl, rfl⟩ := returns_pure.mp h
    rw [if_neg (by simpa using hsize)]
    exact ⟨rfl, hdescribes⟩

/-- LG's handler answers an abort without operands. -/
theorem agrees_slHandleFeatureAbort (hdescribes : Describes z s) (hsize : c.size ≠ 0) :
    Agrees (slHandleFeatureAbort c) z s.handleFeatureAbort := by
  intro k z' h
  have h := returns_ask_bind.mp h
  obtain ⟨flag, z₁, h₁, h⟩ := returns_bind.mp h
  obtain ⟨w, hw, rfl⟩ := returns_zoom.mp h₁
  obtain ⟨o, w₁, ho, hw⟩ := returns_bind.mp hw
  obtain ⟨rfl, rfl⟩ := returns_pure.mp hw
  have hdevices : w.devices = z.world.devices := by
    rw [(returns_observe.mp ho).2]
  rw [if_neg fun hand => hsize hand.1] at h
  exact agrees_handleFeatureAbort (hdescribes.ofDevices hdevices) k z' h

/-- Philips's handler takes a vendor id for a sign that the device is on. -/
theorem agrees_phHandleDeviceVendorId (hdescribes : Describes z s)
    (hwatch : z.world.Unwatched c.initiator) :
    Agrees (onWorld (phHandleDeviceVendorId react c)) z (s.phHandleDeviceVendorId c) := by
  intro k z' hret
  obtain ⟨w, h, rfl⟩ := returns_zoom.mp hret
  obtain ⟨_, w₁, h₁, h⟩ := returns_bind.mp h
  obtain rfl := returns_setPowerStatus hwatch h₁
  exact agrees_handleDeviceVendorId (hdescribes.storePowerStatus c.initiator .on) k _
    (returns_zoom.mpr ⟨w, h, rfl⟩)

theorem agrees_anHandleSetMenuLanguage (hdescribes : Describes z s) (hno : c.initiator ≠ 0)
    (initialised : Bool) :
    Agrees (anHandleSetMenuLanguage react c) z (s.anHandleSetMenuLanguage c initialised) := by
  rw [Records.anHandleSetMenuLanguage, if_neg fun hon => hno hon.2.1]
  intro k z' hret
  have h := returns_ask_bind.mp hret
  obtain ⟨_, z₁, h₁, hlast⟩ := returns_bind.mp h
  rcases returns_callOr.mp h₁ with ⟨hon, -⟩ | ⟨-, -, rfl⟩
  · exact absurd hon.2.1 hno
  · exact agrees_handleSetMenuLanguage hdescribes k z' hlast

/-- The commands for which no vendor has a function of its own. -/
theorem agrees_base {h : Handler} {r : Records × Handling} (hdescribes : Describes z s)
    (hforeign : z.world.isHandled c.initiator = false) (hwatch : z.world.Unwatched c.initiator)
    (hstays : ¬(c.opcode = 0x84 ∧ c.size = 3 ∧ z.world.listener.follows c.initiator))
    (habort : c.opcode = 0x00 → c.size ≠ 0) (hvendor : ¬(h = .ph ∧ c.opcode = 0x87))
    (hlanguage : ¬(h = .an ∧ c.opcode = 0x32)) (hr : s.baseHandle c = some r) :
    Agrees (handlerFor react h c) z r := by
  rw [Records.baseHandle] at hr
  split at hr
  · next hop =>
    obtain rfl := Option.some.inj hr
    have hfun : handlerFor react h c =
        if h = .sl then slHandleFeatureAbort c else handleFeatureAbort c := by
      unfold handlerFor
      rw [hop]
      rfl
    rw [hfun]
    split
    · exact agrees_slHandleFeatureAbort hdescribes (habort hop)
    · exact agrees_handleFeatureAbort hdescribes
  · next hop =>
    obtain rfl := Option.some.inj hr
    have hfun : handlerFor react h c = handleSetMenuLanguage c := by
      unfold handlerFor
      rw [hop]
      exact if_neg fun heq => hlanguage ⟨heq, hop⟩
    rw [hfun]
    exact agrees_handleSetMenuLanguage hdescribes
  · next hop =>
    obtain rfl := Option.some.inj hr
    have hfun : handlerFor react h c = onWorld (handleSetOSDName c) := by
      unfold handlerFor
      rw [hop]
      rfl
    rw [hfun]
    exact agrees_report hdescribes _ (fun _ hm => ⟨hm.physicalAddress, hm.powerStatus, hm.vendor⟩) rfl
  · next hop =>
    obtain rfl := Option.some.inj hr
    have hfun : handlerFor react h c = onWorld (handleSetSystemAudioMode c) := by
      unfold handlerFor
      rw [hop]
      rfl
    rw [hfun, handleSetSystemAudioMode]
    exact agrees_audioReport hdescribes (fun _ hm => ⟨hm.physicalAddress, hm.powerStatus, hm.vendor⟩) rfl
  · next hop =>
    obtain rfl := Option.some.inj hr
    have hfun : handlerFor react h c = onWorld (handleReportAudioStatus c) := by
      unfold handlerFor
      rw [hop]
      rfl
    rw [hfun, handleReportAudioStatus]
    exact agrees_audioReport hdescribes (fun _ hm => ⟨hm.physicalAddress, hm.powerStatus, hm.vendor⟩) rfl
  · next hop =>
    obtain rfl := Option.some.inj hr
    have hfun : handlerFor react h c = onWorld (handleSystemAudioModeStatus c) := by
      unfold handlerFor
      rw [hop]
      rfl
    rw [hfun, handleSystemAudioModeStatus]
    exact agrees_audioReport hdescribes (fun _ hm => ⟨hm.physicalAddress, hm.powerStatus, hm.vendor⟩) rfl
  · next hop =>
    obtain rfl := Option.some.inj hr
    have hfun : handlerFor react h c = onWorld (handleReportPhysicalAddress react c) := by
      unfold handlerFor
      rw [hop]
      rfl
    rw [hfun]
    exact agrees_handleReportPhysicalAddress hdescribes hforeign (fun hf => hstays ⟨hop, hf⟩)
  · next hop =>
    obtain rfl := Option.some.inj hr
    have hfun : handlerFor react h c = onWorld (handleDeviceVendorId c) := by
      unfold handlerFor
      rw [hop]
      exact congrArg onWorld (if_neg fun heq => hvendor ⟨heq, hop⟩)
    rw [hfun]
    exact agrees_handleDeviceVendorId hdescribes
  · next hop =>
    obtain rfl := Option.some.inj hr
    have hfun : handlerFor react h c = onWorld (handleReportPowerStatus react c) := by
      unfold handlerFor
      rw [hop]
      rfl
    rw [hfun]
    exact agrees_handleReportPowerStatus hdescribes hwatch
  · next hop =>
    obtain rfl := Option.some.inj hr
    have hfun : handlerFor react h c = onWorld (handleDeviceCecVersion c) := by
      unfold handlerFor
      rw [hop]
      rfl
    rw [hfun]
    exact agrees_report hdescribes _ (fun _ hm => ⟨hm.physicalAddress, hm.powerStatus, hm.vendor⟩) rfl
  · cases hr

/-- The handler of the device turns down the same commands in the world and in the records, and they hold
    the same afterwards: a device that is not handled by the library has sent the command, and no
    handler follows its power status. -/
theorem agrees_handlerFor {h : Handler} {r : Records × Handling} (hdescribes : Describes z s)
    (hhandler : (z.world.devices c.initiator).handler = h)
    (hforeign : z.world.isHandled c.initiator = false) (hwatch : z.world.Unwatched c.initiator)
    (habort : c.opcode = 0x00 → c.size ≠ 0) (hr : s.handle c h z.world.listener = some r) :
    Agrees (handlerFor react h c) z r := by
  rw [Records.handle] at hr
  obtain ⟨hstays, hr⟩ := Option.ite_none_left_eq_some.mp hr
  by_cases hvendor : h = .ph ∧ c.opcode = 0x87
  · obtain ⟨rfl, hop⟩ := hvendor
    rw [if_pos ⟨rfl, hop⟩] at hr
    obtain rfl := Option.some.inj hr
    have hfun : handlerFor react .ph c = onWorld (phHandleDeviceVendorId react c) := by
      unfold handlerFor
      rw [hop]
      rfl
    rw [hfun]
    exact agrees_phHandleDeviceVendorId hdescribes hwatch
  rw [if_neg hvendor] at hr
  by_cases hlanguage : h = .an ∧ c.opcode = 0x32
  · obtain ⟨rfl, hop⟩ := hlanguage
    rw [if_pos ⟨rfl, hop⟩] at hr
    obtain rfl := Option.some.inj hr
    have hfun : handlerFor react .an c = anHandleSetMenuLanguage react c := by
      unfold handlerFor
      rw [hop]
      rfl
    rw [hfun]
    refine agrees_anHandleSetMenuLanguage hdescribes (fun h0 => ?_) _
    rw [h0] at hhandler
    exact (hwatch h0).1 hhandler
  rw [if_neg hlanguage] at hr
  exact agrees_base hdescribes hforeign hwatch hstays habort hvendor hlanguage hr

end view

end Information

end CEC
