import LibCec.Bus

/-! What polls, transmissions and requests leave alone.

    `BusFrame K s s'` is what everything below registration keeps: the clients and `m_clients`,
    which devices libCEC handles, the devices that have a status (they are not reset), and that at
    most one device is the active source; the physical addresses of the devices in `K` do not
    change either. It composes, so each function needs one lemma, put together from those of the
    functions it calls. -/

namespace CEC
open Schemes Procedure

/-- At most one device is marked as the active source. -/
def UniqueSource (w : World) : Prop :=
  ∀ a b, (w.devices a).activeSource → (w.devices b).activeSource → a = b

/-- What nothing below the allocation of addresses changes. -/
structure DeviceFrame (s s' : World) : Prop where
  clients : s'.clients = s.clients
  initialised : s'.initialised = s.initialised
  stalled : s'.stallCommunication = s.stallCommunication
  eeprom : s'.eeprom = s.eeprom
  handled : ∀ a, s'.isHandled a = s.isHandled a
  settled : ∀ a, (s.devices a).status ≠ .unknown →
    (s'.devices a).status ≠ .unknown ∧ (s'.devices a).resets = (s.devices a).resets
  unique : UniqueSource s → UniqueSource s'

theorem DeviceFrame.refl (s : World) : DeviceFrame s s :=
  ⟨rfl, rfl, rfl, rfl, fun _ => rfl, fun _ h => ⟨h, rfl⟩, id⟩

theorem DeviceFrame.trans {s t u : World} (h₁ : DeviceFrame s t) (h₂ : DeviceFrame t u) :
    DeviceFrame s u where
  clients := h₂.clients.trans h₁.clients
  initialised := h₂.initialised.trans h₁.initialised
  stalled := h₂.stalled.trans h₁.stalled
  eeprom := h₂.eeprom.trans h₁.eeprom
  handled a := (h₂.handled a).trans (h₁.handled a)
  settled a ha :=
    have ht := h₁.settled a ha
    have hu := h₂.settled a ht.1
    ⟨hu.1, hu.2.trans ht.2⟩
  unique hs := h₂.unique (h₁.unique hs)

/-- What polls, transmissions and source switches keep. -/
structure BusFrame (K : Set (Fin 16)) (s s' : World) : Prop extends DeviceFrame s s' where
  client : s'.client = s.client
  physicalAddress : ∀ a ∈ K, (s'.devices a).physicalAddress = (s.devices a).physicalAddress

theorem busFrame_composable (K : Set (Fin 16)) : Composable (BusFrame K) where
  refl s := ⟨.refl s, rfl, fun _ _ => rfl⟩
  trans h₁ h₂ := {
    toDeviceFrame := h₁.toDeviceFrame.trans h₂.toDeviceFrame
    client := h₂.client.trans h₁.client
    physicalAddress := fun a ha => (h₂.physicalAddress a ha).trans (h₁.physicalAddress a ha) }

variable {K : Set (Fin 16)}

/-! ### The updates -/

/-- A change of the devices that keeps their status and the flags that are clear. -/
theorem deviceFrame_devices {s : World} {devices : Fin 16 → Device}
    (hstatus : ∀ a, (devices a).status = (s.devices a).status)
    (hresets : ∀ a, (devices a).resets = (s.devices a).resets)
    (hactive : ∀ a, (devices a).activeSource → (s.devices a).activeSource) :
    DeviceFrame s { s with devices := devices } where
  clients := rfl
  initialised := rfl
  stalled := rfl
  eeprom := rfl
  handled a := by simp [World.isHandled, hstatus]
  settled a h := ⟨fun hu => h ((hstatus a).symm.trans hu), hresets a⟩
  unique hs a b ha hb := hs a b (hactive a ha) (hactive b hb)

/-- The world without the next answer from outside. -/
theorem busFrame_outside (s : World) (o : ℕ → Outside) : BusFrame K s { s with outside := o } where
  toDeviceFrame := ⟨rfl, rfl, rfl, rfl, fun _ => rfl, fun _ h => ⟨h, rfl⟩, id⟩
  client := rfl
  physicalAddress _ _ := rfl

/-- Such a change that keeps the physical addresses, too. -/
theorem busFrame_devices {s : World} {devices : Fin 16 → Device}
    (hstatus : ∀ a, (devices a).status = (s.devices a).status)
    (hresets : ∀ a, (devices a).resets = (s.devices a).resets)
    (hactive : ∀ a, (devices a).activeSource → (s.devices a).activeSource)
    (hpa : ∀ a ∈ K, (devices a).physicalAddress = (s.devices a).physicalAddress) :
    BusFrame K s { s with devices := devices } where
  toDeviceFrame := deviceFrame_devices hstatus hresets hactive
  client := rfl
  physicalAddress := hpa

theorem updateDevice_devices (w : World) (a b : Fin 16) (f : Device → Device) :
    ((w.updateDevice a f).devices b) = if b = a then f (w.devices a) else w.devices b := by
  simp only [World.updateDevice, Function.update_apply]

/-- A change of one device that keeps its status, its physical address and a clear flag. -/
theorem busFrame_updateDevice {s : World} {a : Fin 16} {f : Device → Device}
    (hstatus : ∀ d, (f d).status = d.status) (hresets : ∀ d, (f d).resets = d.resets)
    (hactive : ∀ d, (f d).activeSource → d.activeSource)
    (hpa : a ∈ K → ∀ d, (f d).physicalAddress = d.physicalAddress) :
    BusFrame K s (s.updateDevice a f) := by
  refine busFrame_devices ?_ ?_ ?_ ?_
  all_goals intro b
  · rcases eq_or_ne b a with rfl | hb <;> simp [*]
  · rcases eq_or_ne b a with rfl | hb <;> simp [*]
  · rcases eq_or_ne b a with rfl | hb
    · simpa using hactive (s.devices b)
    · simp [hb]
  · intro hbK
    rcases eq_or_ne b a with rfl | hb
    · simpa using hpa hbK (s.devices b)
    · simp [hb]

theorem busFrame_storePowerStatus (s : World) (a : Fin 16) (p : PowerStatus) :
    BusFrame K s (s.storePowerStatus a p) := by
  unfold World.storePowerStatus
  split_ifs
  · exact (busFrame_composable K).refl s
  · exact busFrame_devices (fun _ => rfl) (fun _ => rfl) (fun _ => id) fun _ _ => rfl
  · exact busFrame_updateDevice (fun _ => rfl) (fun _ => rfl) (fun _ => id) fun _ _ => rfl

/-- A change of the status of a device that libCEC does not handle. -/
theorem busFrame_status {s : World} {a : Fin 16} {f : Device → Device}
    (hother : s.isHandled a = false) (hstatus : (f (s.devices a)).status ≠ .handledByLibCec)
    (hsettled : (s.devices a).status ≠ .unknown →
      (f (s.devices a)).status ≠ .unknown ∧ (f (s.devices a)).resets = (s.devices a).resets)
    (hactive : (f (s.devices a)).activeSource → (s.devices a).activeSource)
    (hpa : (f (s.devices a)).physicalAddress = (s.devices a).physicalAddress) :
    BusFrame K s (s.updateDevice a f) where
  client := rfl
  clients := rfl
  initialised := rfl
  stalled := rfl
  eeprom := rfl
  handled b := by
    rcases eq_or_ne b a with rfl | hb
    · rw [hother]
      simp [World.isHandled, World.updateDevice, hstatus]
    · simp [World.isHandled, updateDevice_devices, hb]
  settled b h := by
    rcases eq_or_ne b a with rfl | hb
    · simpa [updateDevice_devices] using hsettled h
    · simp [updateDevice_devices, hb, h]
  unique hs b c hb hc := by
    have hkept : ∀ b, ((s.updateDevice a f).devices b).activeSource →
        (s.devices b).activeSource := by
      intro b hb
      rcases eq_or_ne b a with rfl | hne
      · exact hactive (by simpa [updateDevice_devices] using hb)
      · simpa [updateDevice_devices, hne] using hb
    exact hs b c (hkept b hb) (hkept c hc)
  physicalAddress b _ := by
    rcases eq_or_ne b a with rfl | hne
    · simpa [updateDevice_devices] using hpa
    · simp [updateDevice_devices, hne]

/-! ### A new status -/

/-- What a stored power status keeps, and a change of the device that does not mark it as active, is
    kept when the device is reset. -/
theorem keeps_resetDeviceStatus {R : World → World → Prop} (hR : Composable R) {a : Fin 16}
    (hpower : ∀ s p, R s (s.storePowerStatus a p))
    (hdevice : ∀ s f, (∀ d : Device, (f d).activeSource → d.activeSource) →
      R s (s.updateDevice a f)) : Keeps R (resetDeviceStatus a) :=
  keeps_bind hR (keeps_update fun s => hpower s _) fun _ =>
    keeps_update fun s => hdevice s _ fun _ => nofun

/-- It is kept by a new status as well. The unregistered device has no status. -/
theorem keeps_setDeviceStatus {R : World → World → Prop} (hR : Composable R) {a : Fin 16}
    (hpower : ∀ s p, R s (s.storePowerStatus a p))
    (hdevice : a ≠ 15 → ∀ s f, (∀ d : Device, (f d).activeSource → d.activeSource) →
      R s (s.updateDevice a f)) (st : DeviceStatus) : Keeps R (setDeviceStatus a st) := by
  refine keeps_ite (fun _ => keeps_pure hR _) fun ha => ?_
  have hreset : Keeps R (resetDeviceStatus a) := keeps_resetDeviceStatus hR hpower (hdevice ha)
  cases st with
  | unknown => exact hreset
  | present => exact keeps_update fun s => hdevice ha s _ fun _ => id
  | notPresent =>
    refine keeps_bind hR (keeps_ask hR _) fun status => keeps_callOr hR ?_
    exact keeps_bind hR hreset fun _ => keeps_update fun s => hdevice ha s _ fun _ => id
  | handledByLibCec =>
    refine keeps_bind hR (keeps_ask hR _) fun vendor => ?_
    refine keeps_bind hR (keeps_update fun s => hpower s _) fun _ => ?_
    exact keeps_update fun s => hdevice ha s _ fun _ => nofun

/-! ### Polls -/

theorem returns_observe {s s' : World} {o : Outside} : Returns observe s o s' ↔
    o = s.outside 0 ∧ s' = { s with outside := fun n => s.outside (n + 1) } :=
  returns_ask_bind.trans (returns_update_bind.trans returns_pure)

/-- A device that is present is not polled again. -/
theorem getStatus_present {a : Fin 16} {w : World} (ha : a ≠ 15)
    (h : (w.devices a).status = .present) : Returns (getStatus a false) w .present w := by
  rw [getStatus, if_neg ha]
  refine returns_ask_bind.mpr ?_
  rw [if_neg (by simp [World.needsPoll, h])]
  exact returns_ask.mpr ⟨h.symm, rfl⟩

/-- The status of the device after it was set. -/
theorem returns_setDeviceStatus_notPresent {a : Fin 16} {s s' : World} (ha : a ≠ 15)
    (h : Returns (setDeviceStatus a .notPresent) s () s') :
    (s'.devices a).status = .notPresent := by
  rw [setDeviceStatus, if_neg ha] at h
  have h := returns_ask_bind.mp h
  rcases returns_callOr.mp h with ⟨-, h⟩ | ⟨hst, -, rfl⟩
  · obtain ⟨_, s₂, _, h⟩ := returns_bind.mp h
    rw [returns_update.mp h, updateDevice_devices, if_pos rfl]
  · exact not_not.mp hst

/-- Resetting a device that has no status. -/
theorem keepsAt_resetDeviceStatus {s : World} {a : Fin 16}
    (h : (s.devices a).status = .unknown) : KeepsAt (BusFrame K) s (resetDeviceStatus a) := by
  have hK := busFrame_composable K
  refine keepsAt_bind hK (keepsAt_update (busFrame_storePowerStatus s a _)) fun _ s₁ hs₁ => ?_
  have hframe := busFrame_storePowerStatus (K := K) s a .unknown
  rw [← returns_update.mp hs₁] at hframe
  have hstatus : (s₁.devices a).status = .unknown := by
    rw [returns_update.mp hs₁, World.storePowerStatus]
    split_ifs
    · exact h
    · exact h
    · simpa [updateDevice_devices] using h
  exact keepsAt_update (busFrame_status (by simp [World.isHandled, hstatus]) (by simp [Device.reset])
    (fun hne => absurd hstatus hne) (by simp [Device.reset]) rfl)

theorem keepsAt_setDeviceStatus {s : World} {a : Fin 16} {st : DeviceStatus}
    (hother : s.isHandled a = false) (hst : st = .present ∨ st = .notPresent)
    (hkeep : st = .notPresent → (s.devices a).status ≠ .present) :
    KeepsAt (BusFrame K) s (setDeviceStatus a st) := by
  have hK := busFrame_composable K
  unfold setDeviceStatus
  refine keepsAt_ite (fun _ => keepsAt_pure hK _ _) fun _ => ?_
  rcases hst with rfl | rfl
  · exact keepsAt_update (busFrame_status hother nofun (fun _ => ⟨nofun, rfl⟩) id rfl)
  · refine keepsAt_ask_bind (keepsAt_callOr hK fun hne => ?_)
    -- neither handled, nor present, nor marked as not present already
    have hunknown : (s.devices a).status = .unknown := by
      have hpresent := hkeep rfl
      cases hs : (s.devices a).status
      · rfl
      · exact absurd hs hne
      · exact absurd hs hpresent
      · simp [World.isHandled, hs] at hother
    refine keepsAt_bind hK (keepsAt_resetDeviceStatus hunknown) fun _ s₂ h₂ => ?_
    have hframe := keepsAt_resetDeviceStatus (K := K) hunknown _ _ h₂
    obtain ⟨_, s₃, _, h₃⟩ := returns_bind.mp h₂
    have hreset : (s₂.devices a).status = .unknown := by
      rw [returns_update.mp h₃, updateDevice_devices, if_pos rfl]
      rfl
    exact keepsAt_update (busFrame_status (by simp [World.isHandled, hreset]) nofun
      (fun h => absurd hreset h) id rfl)

/-! ### What polls and transmissions are made of -/

/-- A relation that every step of polls, transmissions and source switches keeps: an answer from
    outside, a change of the devices that keeps their status, addresses and vendors and marks at
    most one of them as active, the outcome of a poll, and the vendor id of a device that libCEC
    does not handle. -/
class BusSteps (R : World → World → Prop) : Prop where
  composable : Composable R
  handled : ∀ {s s'}, R s s' → ∀ a, s'.isHandled a = s.isHandled a
  outside : ∀ s o, R s { s with outside := o }
  devices : ∀ {s : World} {devices : Fin 16 → Device},
    (∀ a, (devices a).status = (s.devices a).status ∧ (devices a).resets = (s.devices a).resets ∧
      (devices a).physicalAddress = (s.devices a).physicalAddress ∧
      (devices a).vendor = (s.devices a).vendor) →
    ((∀ a, (devices a).activeSource → (s.devices a).activeSource) ∨
      ∃ a, ∀ b, (devices b).activeSource → b = a) → R s { s with devices := devices }
  status : ∀ {s : World} {a : Fin 16} {st : DeviceStatus}, s.isHandled a = false →
    (st = .present ∨ st = .notPresent) → (st = .notPresent → (s.devices a).status ≠ .present) →
    KeepsAt R s (setDeviceStatus a st)
  vendor : ∀ {s : World} {a : Fin 16} {f : Device → VendorId}, s.isHandled a = false →
    R s (s.updateDevice a fun d => { d with vendor := f d })

instance busFrame_steps (K : Set (Fin 16)) : BusSteps (BusFrame K) where
  composable := busFrame_composable K
  handled h := h.handled
  outside := busFrame_outside
  devices hsame hactive := by
    refine ⟨⟨rfl, rfl, rfl, rfl, fun a => by simp [World.isHandled, (hsame a).1], fun a h =>
      ⟨fun hu => h ((hsame a).1.symm.trans hu), (hsame a).2.1⟩, fun hs a b ha hb => ?_⟩, rfl,
      fun a _ => (hsame a).2.2.1⟩
    rcases hactive with hkept | ⟨c, hone⟩
    · exact hs a b (hkept a ha) (hkept b hb)
    · exact (hone a ha).trans (hone b hb).symm
  status := keepsAt_setDeviceStatus
  vendor _ := busFrame_updateDevice (fun _ => rfl) (fun _ => rfl) (fun _ => id) fun _ _ => rfl

/-- The same steps, except that none of them marks a device as active. -/
class QuietSteps (R : World → World → Prop) : Prop where
  composable : Composable R
  handled : ∀ {s s'}, R s s' → ∀ a, s'.isHandled a = s.isHandled a
  outside : ∀ s o, R s { s with outside := o }
  devices : ∀ {s : World} {devices : Fin 16 → Device},
    (∀ a, (devices a).status = (s.devices a).status ∧ (devices a).resets = (s.devices a).resets ∧
      (devices a).physicalAddress = (s.devices a).physicalAddress ∧
      (devices a).vendor = (s.devices a).vendor) →
    (∀ a, (devices a).activeSource → (s.devices a).activeSource) → R s { s with devices := devices }
  status : ∀ {s : World} {a : Fin 16} {st : DeviceStatus}, s.isHandled a = false →
    (st = .present ∨ st = .notPresent) → (st = .notPresent → (s.devices a).status ≠ .present) →
    KeepsAt R s (setDeviceStatus a st)
  vendor : ∀ {s : World} {a : Fin 16} {f : Device → VendorId}, s.isHandled a = false →
    R s (s.updateDevice a fun d => { d with vendor := f d })

instance quietSteps_of_busSteps {R : World → World → Prop} [BusSteps R] : QuietSteps R where
  composable := BusSteps.composable
  handled := BusSteps.handled
  outside := BusSteps.outside
  devices hsame hactive := BusSteps.devices hsame (.inl hactive)
  status := BusSteps.status
  vendor := BusSteps.vendor

variable {R : World → World → Prop} [QuietSteps R]

/-- A change of one device that keeps its status, address and vendor, and a clear flag. -/
theorem step_updateDevice {s : World} {a : Fin 16} {f : Device → Device}
    (hsame : ∀ d, (f d).status = d.status ∧ (f d).resets = d.resets ∧
      (f d).physicalAddress = d.physicalAddress ∧ (f d).vendor = d.vendor)
    (hactive : ∀ d, (f d).activeSource → d.activeSource) : R s (s.updateDevice a f) := by
  refine QuietSteps.devices (fun b => ?_) (fun b => ?_)
  all_goals rcases eq_or_ne b a with rfl | hb
  · simpa using hsame (s.devices b)
  · simp [hb]
  · simpa using hactive (s.devices b)
  · simp [hb]

theorem step_storePowerStatus (s : World) (a : Fin 16) (p : PowerStatus) :
    R s (s.storePowerStatus a p) := by
  unfold World.storePowerStatus
  split_ifs
  · exact QuietSteps.composable.refl s
  · exact QuietSteps.devices (fun _ => ⟨rfl, rfl, rfl, rfl⟩) fun _ => id
  · exact step_updateDevice (fun _ => ⟨rfl, rfl, rfl, rfl⟩) fun _ => id

theorem keeps_observe : Keeps R observe := by
  have hK : Composable R := QuietSteps.composable
  exact keeps_bind hK (keeps_ask hK _) fun _ =>
    keeps_bind hK (keeps_update fun s => QuietSteps.outside s _) fun _ => keeps_pure hK _

/-- After a poll that nobody answers, the device is not present. -/
theorem returns_pollDevice {a : Fin 16} {s s' : World} {acked : Bool} (ha : a ≠ 15)
    (hother : s.isHandled a = false) (hpresent : (s.devices a).status ≠ .present)
    (h : Returns (pollDevice a) s acked s') :
    R s s' ∧ (acked = false → (s'.devices a).status ≠ .present) := by
  have h := returns_ask_bind.mp h
  rw [if_neg (by simp [hother])] at h
  obtain ⟨o, s₂, h₂, h⟩ := returns_bind.mp h
  obtain ⟨_, s₃, h₃, h⟩ := returns_bind.mp h
  obtain ⟨rfl, rfl⟩ := returns_pure.mp h
  obtain ⟨rfl, rfl⟩ := returns_observe.mp h₂
  have hframe : R s { s with outside := fun n => s.outside (n + 1) } := QuietSteps.outside s _
  refine ⟨QuietSteps.composable.trans hframe ?_, ?_⟩
  · refine QuietSteps.status ((QuietSteps.handled hframe a).trans hother) ?_ (fun _ => hpresent) _ _ h₃
    split <;> simp
  · intro hacked
    rw [hacked] at h₃
    rw [returns_setDeviceStatus_notPresent ha h₃]
    nofun

/-- A poll turns an unknown device into one that is present or not, and may find the TV back. -/
theorem keeps_getStatus (a : Fin 16) : Keeps R (getStatus a false) := by
  have hK : Composable R := QuietSteps.composable
  unfold getStatus
  refine keeps_ite (fun _ => keeps_pure hK _) fun ha s => ?_
  refine keepsAt_ask_bind (keepsAt_ite (fun hneeds => ?_) fun _ => keeps_ask hK _ _)
  simp only [World.needsPoll, Bool.and_eq_true, decide_eq_true_eq, Bool.or_eq_true,
    Bool.false_eq_true, false_or] at hneeds
  have hother : s.isHandled a = false := by simp [World.isHandled, hneeds.1.1]
  have hpresent : (s.devices a).status ≠ .present := by
    rcases hneeds.2 with h | h
    · rw [h]; nofun
    · rw [h.1]; nofun
  refine keepsAt_bind hK (fun _ _ h => (returns_pollDevice ha hother hpresent h).1)
    fun acked s₂ h₂ => ?_
  obtain ⟨hframe, hnot⟩ := returns_pollDevice (R := R) ha hother hpresent h₂
  refine keepsAt_bind hK (QuietSteps.status ((QuietSteps.handled hframe a).trans hother) ?_ ?_)
    fun _ s₃ _ => keepsAt_pure hK _ _
  · cases acked <;> simp
  · cases acked
    · exact fun _ => hnot rfl
    · simp

/-! ### Transmissions and requests -/

theorem keeps_processorTransmit (i d : Fin 16) (opcode : UInt8) :
    Keeps R (processorTransmit i d opcode) := by
  have hK : Composable R := QuietSteps.composable
  refine keeps_bind hK (keeps_ask hK _) fun w => ?_
  split
  · exact keeps_pure hK _
  · refine keeps_ite (fun _ => keeps_pure hK _) fun _ => ?_
    refine keeps_ite (fun _ => keeps_stuck) fun _ => ?_
    refine keeps_ite (fun _ => keeps_pure hK _) fun _ => ?_
    exact keeps_bind hK keeps_observe fun _ => keeps_pure hK _

theorem keeps_transmit (i d : Fin 16) (opcode : UInt8) (bExpectResponse : Bool) :
    Keeps R (transmit i d opcode bExpectResponse) := by
  have hK : Composable R := QuietSteps.composable
  refine keeps_bind hK (keeps_callOr hK (keeps_getStatus d)) fun status => ?_
  refine keeps_bind hK (keeps_ask hK _) fun unsupported => ?_
  refine keeps_ite (fun _ => keeps_pure hK _) fun _ => ?_
  refine keeps_ite (fun _ => keeps_pure hK _) fun _ => ?_
  refine keeps_bind hK (keeps_processorTransmit i d opcode) fun acked => ?_
  refine keeps_ite (fun _ => ?_) fun _ => keeps_pure hK _
  exact keeps_bind hK keeps_observe fun _ => keeps_pure hK _

theorem keeps_transmit_discard (i d : Fin 16) (opcode : UInt8) (bExpectResponse : Bool) :
    Keeps R (discard (transmit i d opcode bExpectResponse)) :=
  keeps_discard (keeps_transmit i d opcode bExpectResponse)

theorem keeps_replaceHandler (a : Fin 16) : Keeps R (replaceHandler a) := by
  have hK : Composable R := QuietSteps.composable
  refine keeps_ite (fun _ => keeps_pure hK _) fun _ => keeps_update fun s => ?_
  exact step_updateDevice (fun _ => ⟨rfl, rfl, rfl, rfl⟩) fun _ => id

theorem keeps_requestVendorId (a initiator : Fin 16) :
    Keeps R (requestVendorId a initiator) := by
  have hK : Composable R := QuietSteps.composable
  refine keeps_ask_bind fun s => keepsAt_ite (fun _ => keepsAt_pure hK _ _) fun hother => ?_
  have hother : s.isHandled a = false := Bool.not_eq_true _ ▸ hother
  refine keepsAt_bind hK (keeps_transmit initiator a 0x8C true s) fun responded s₁ h₁ => ?_
  refine keepsAt_bind hK (keeps_observe s₁) fun o s₂ h₂ => ?_
  -- the device is not handled by the time its answer is stored
  have hother₁ := (QuietSteps.handled (keeps_transmit (R := R) _ _ _ _ _ _ _ h₁) a).trans hother
  have hother₂ := (QuietSteps.handled (keeps_observe (R := R) _ _ _ h₂) a).trans hother₁
  refine keepsAt_bind hK (keepsAt_callOr hK fun _ => keepsAt_update (QuietSteps.vendor hother₂))
    fun _ s₃ _ => ?_
  exact keeps_replaceHandler a s₃

theorem keeps_getVendorId (a initiator : Fin 16) :
    Keeps R (getVendorId a initiator) := by
  have hK : Composable R := QuietSteps.composable
  refine keeps_bind hK (keeps_getStatus a) fun status => ?_
  refine keeps_bind hK (keeps_ask hK _) fun vendor => ?_
  refine keeps_bind hK (keeps_callOr hK (keeps_requestVendorId a initiator)) fun _ => ?_
  exact keeps_ask hK _

theorem keeps_checkVendorIdRequested (a initiator : Fin 16) :
    Keeps R (checkVendorIdRequested a initiator) := by
  have hK : Composable R := QuietSteps.composable
  refine keeps_bind hK (keeps_ask hK _) fun requested => ?_
  refine keeps_bind hK (keeps_update fun s => ?_) fun _ => ?_
  · exact step_updateDevice (fun _ => ⟨rfl, rfl, rfl, rfl⟩) fun _ => id
  · refine keeps_ite (fun _ => keeps_pure hK _) fun _ => ?_
    exact keeps_bind hK (keeps_replaceHandler a) fun _ =>
      keeps_discard (keeps_getVendorId a initiator)

/-! ### Physical addresses of devices -/

theorem keeps_setPhysicalAddress {a : Fin 16} (ha : a ∉ K) (pa : UInt16) :
    Keeps (BusFrame K) (setPhysicalAddress a pa) := by
  refine keeps_update fun s => busFrame_updateDevice ?_ ?_ ?_ fun h => absurd h ha
  all_goals intro d
  · split <;> rfl
  · split <;> rfl
  · split <;> exact id

theorem keeps_requestPhysicalAddress {a : Fin 16}
    (ha : ∀ pa, Keeps R (setPhysicalAddress a pa)) (initiator : Fin 16) : Keeps R (requestPhysicalAddress a initiator) := by
  have hK : Composable R := QuietSteps.composable
  refine keeps_bind hK (keeps_ask hK _) fun handled => ?_
  refine keeps_ite (fun _ => keeps_pure hK _) fun _ => ?_
  refine keeps_bind hK (keeps_transmit initiator a 0x83 true) fun responded => ?_
  refine keeps_bind hK keeps_observe fun o => ?_
  exact keeps_callOr hK (ha _)

/-- The address of the broadcast device is never requested. -/
theorem keeps_getPhysicalAddress {a : Fin 16}
    (ha : (∀ pa, Keeps R (setPhysicalAddress a pa)) ∨ a = 15) (initiator : Fin 16) :
    Keeps R (getPhysicalAddress a initiator) := by
  have hK : Composable R := QuietSteps.composable
  rcases ha with ha | rfl
  · refine keeps_bind hK (keeps_getStatus a) fun status => ?_
    refine keeps_bind hK (keeps_ask hK _) fun pa => ?_
    refine keeps_bind hK (keeps_callOr hK ?_) fun _ => keeps_ask hK _
    exact keeps_bind hK (keeps_checkVendorIdRequested a initiator) fun _ =>
      keeps_requestPhysicalAddress ha initiator
  · intro s
    refine keepsAt_bind hK (keeps_getStatus 15 s) fun status s₁ h₁ => ?_
    obtain ⟨rfl, rfl⟩ := returns_pure.mp h₁
    refine keepsAt_bind hK (keeps_ask hK _ s₁) fun pa s₂ _ => ?_
    refine keepsAt_bind hK (keepsAt_callOr hK fun h => absurd h.1 nofun) fun _ s₃ _ => ?_
    exact keeps_ask hK _ s₃

end CEC
