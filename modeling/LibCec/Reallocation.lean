import LibCec.Allocation

/-! `AllocateLogicalAddresses` and `UnregisterClient` as a whole.

    Both erase what the client has stored from `m_clients`, no matter who is registered there.
    `UnregisterClient` resets these devices as well (`Releases`); `AllocateLogicalAddresses` leaves
    them as they are and goes on to look for new addresses (`Reallocates`). -/

namespace CEC
open Schemes Procedure

/-! ### Releasing addresses -/

/-- Sending the ack mask only takes an answer of the adapter. -/
theorem keeps_setAckMask {R : World → World → Prop} [QuietSteps R] : Keeps R setAckMask :=
  keeps_bind QuietSteps.composable keeps_observe fun _ => keeps_pure QuietSteps.composable _

theorem returns_eraseClients : ∀ {as : List (Fin 16)} {s s' : World},
    Returns (forEach eraseClient as) s () s' →
      s' = { s with clients := fun a => if a ∈ as then none else s.clients a }
  | [], s, s', h => by
    rw [(returns_pure.mp h).2]
    simp
  | a :: as, s, s', h => by
    obtain ⟨_, s₁, h₁, h⟩ := returns_bind.mp h
    rw [returns_eraseClients h, returns_update.mp h₁]
    simp only [World.mk.injEq, true_and, and_true]
    funext b
    rcases eq_or_ne b a with rfl | hb
    · simp
    · simp [hb]

/-- The clients of the addresses in `as` are erased and their devices are reset. -/
structure Releases (as : List (Fin 16)) (s s' : World) : Prop where
  client : s'.client = s.client
  initialised : s'.initialised = s.initialised
  stalled : s'.stallCommunication = s.stallCommunication
  eeprom : s'.eeprom = s.eeprom
  erased : ∀ a ∈ as, s'.clients a = none ∧ (s'.devices a).status = .unknown
  kept : ∀ a ∉ as, s'.clients a = s.clients a ∧
    (s'.devices a).status = (s.devices a).status ∧ (s'.devices a).resets = (s.devices a).resets

theorem returns_resetDeviceStatus {a : Fin 16} {s s' : World}
    (h : Returns (resetDeviceStatus a) s () s') :
    s' = { s with devices := s'.devices } ∧ (s'.devices a).status = .unknown ∧
      ∀ b, b ≠ a → (s'.devices b).status = (s.devices b).status ∧
        (s'.devices b).resets = (s.devices b).resets := by
  rw [returns_update.mp (returns_update_bind.mp h)]
  refine ⟨?_, ?_, fun b hb => ?_⟩
  · rw [storePowerStatus_onlyDevices s a]
    rfl
  · rw [updateDevice_devices, if_pos rfl]
    rfl
  · rw [updateDevice_devices, if_neg hb]
    exact storePowerStatus_status s a b _

theorem returns_unregisterAddress {a : Fin 16} {s s' : World}
    (h : Returns (unregisterAddress a) s () s') : Releases [a] s s' := by
  obtain ⟨honly, hstatus, hrest⟩ := returns_resetDeviceStatus (returns_update_bind.mp h)
  refine ⟨by rw [honly], by rw [honly], by rw [honly], by rw [honly], fun b hb => ?_,
    fun b hb => ?_⟩
  · obtain rfl := List.mem_singleton.mp hb
    refine ⟨?_, hstatus⟩
    rw [honly]
    exact Function.update_self ..
  · have hne : b ≠ a := fun h => hb (List.mem_singleton.mpr h)
    refine ⟨?_, hrest b hne⟩
    rw [honly]
    exact Function.update_of_ne hne ..

theorem returns_unregisterAddresses : ∀ {as : List (Fin 16)} {s s' : World},
    Returns (forEach unregisterAddress as) s () s' → Releases as s s'
  | [], s, s', h => by
    rw [(returns_pure.mp h).2]
    exact ⟨rfl, rfl, rfl, rfl, fun _ => nofun, fun _ _ => ⟨rfl, rfl, rfl⟩⟩
  | a :: as, s, s', h => by
    obtain ⟨_, s₁, h₁, h⟩ := returns_bind.mp h
    have h₁ := returns_unregisterAddress h₁
    have h₂ := returns_unregisterAddresses h
    refine ⟨h₂.client.trans h₁.client, h₂.initialised.trans h₁.initialised,
      h₂.stalled.trans h₁.stalled, h₂.eeprom.trans h₁.eeprom, fun b hb => ?_, fun b hb => ?_⟩
    · by_cases hbas : b ∈ as
      · exact h₂.erased b hbas
      · obtain rfl := (List.mem_cons.mp hb).resolve_right hbas
        have hb₁ := h₁.erased b List.mem_cons_self
        have hb₂ := h₂.kept b hbas
        exact ⟨hb₂.1.trans hb₁.1, hb₂.2.1.trans hb₁.2⟩
    · have hb₁ := h₁.kept b fun h => hb (List.mem_singleton.mp h ▸ List.mem_cons_self)
      have hb₂ := h₂.kept b fun h => hb (List.mem_cons_of_mem a h)
      exact ⟨hb₂.1.trans hb₁.1, hb₂.2.1.trans hb₁.2.1, hb₂.2.2.trans hb₁.2.2⟩

/-- What `UnregisterClient` does; the list of the client stays as it is. -/
structure Unregisters (c : ClientId) (s s' : World) : Prop where
  initialised : s'.initialised = s.initialised
  stalled : s'.stallCommunication = s.stallCommunication
  eeprom : s'.eeprom = s.eeprom
  others : ∀ d, d ≠ c → s'.client d = s.client d
  configuration : s'.configuration c = s.configuration c
  erased : ∀ a, s.stored c a → s'.clients a = none ∧ (s'.devices a).status = .unknown
  kept : ∀ a, ¬s.stored c a → s'.clients a = s.clients a ∧
    (s'.devices a).status = (s.devices a).status ∧ (s'.devices a).resets = (s.devices a).resets

theorem returns_unregisterClient {c : ClientId} {s s' : World} {ok : Bool}
    (h : Returns (unregisterClient c) s ok s') : Unregisters c s s' := by
  have h := returns_ask_bind.mp (returns_update_bind.mp h)
  obtain ⟨_, s₁, h₁, h⟩ := returns_bind.mp h
  obtain ⟨o, s₂, h₂, h⟩ := returns_bind.mp h
  obtain ⟨-, rfl⟩ := returns_pure.mp h
  obtain ⟨-, rfl⟩ := returns_observe.mp h₂
  have hr := returns_unregisterAddresses h₁
  refine ⟨hr.initialised, hr.stalled, hr.eeprom, fun d hd => ?_, ?_, fun a ha => ?_, fun a ha => ?_⟩
  · exact (congrFun hr.client d).trans (by rw [updateClient_client, if_neg hd])
  · change (s₁.client c).configuration = _
    rw [hr.client, updateClient_self]
    rfl
  · refine hr.erased a ?_
    rw [configuration_updateClient, LogicalAddresses.mem_toList]
    exact ha
  · refine hr.kept a ?_
    rw [configuration_updateClient, LogicalAddresses.mem_toList]
    exact ha

/-! ### Allocating for all types -/

/-- The handler of the TV, once it was replaced by that of its vendor. -/
def World.tvHandler (w : World) : Handler :=
  (specificHandler (w.devices 0).vendor).getD (w.devices 0).handler

/-- The types for which addresses are looked for, in order. -/
def World.supported (w : World) (c : ClientId) : List DeviceType :=
  (supportedTypes w.tvHandler (w.configuration c).deviceTypes).used

/-- What is done before the loop over the types. -/
structure Starts (c : ClientId) (s s' : World) : Prop where
  clients : s'.clients = s.clients
  initialised : s'.initialised = s.initialised
  stalled : s'.stallCommunication = s.stallCommunication
  eeprom : s'.eeprom = s.eeprom
  others : ∀ d, d ≠ c → s'.client d = s.client d
  settings : s'.configuration c = { s.configuration c with
    logicalAddresses := .clear
    deviceTypes := supportedTypes s.tvHandler (s.configuration c).deviceTypes }
  status : ∀ a, (s'.devices a).status = (s.devices a).status ∧
    (s'.devices a).resets = (s.devices a).resets

theorem Starts.stored {c : ClientId} {s s' : World} (h : Starts c s s') (a : Fin 16) :
    ¬s'.stored c a := by
  rw [World.stored, h.settings]
  exact Bool.false_ne_true

theorem Starts.isHandled {c : ClientId} {s s' : World} (h : Starts c s s') (a : Fin 16) :
    s'.isHandled a = s.isHandled a := by
  rw [World.isHandled, World.isHandled, (h.status a).1]

theorem Starts.findsAddress {c : ClientId} {s s' : World} (h : Starts c s s')
    (polls : Fin 16 → Bool) (t : DeviceType) :
    s'.findsAddress polls t = s.findsAddress polls t := by
  rw [World.findsAddress, World.findsAddress]
  congr 1
  exact any_isFree_congr fun a _ => by rw [World.isFree, World.isFree, (h.status a).1]

theorem starts_setSupportedDeviceTypes {c : ClientId} {s s' : World}
    (h : Returns (setSupportedDeviceTypes c)
      (s.updateConfiguration c fun m => { m with logicalAddresses := .clear }) () s') :
    Starts c s s' ∧ s'.outside = s.outside := by
  obtain ⟨_, s₁, h₁, h⟩ := returns_bind.mp h
  rw [replaceHandler, if_neg (by decide)] at h₁
  have h₁ := returns_update.mp h₁
  have h := returns_update.mp (returns_ask_bind.mp h)
  have hclient : ∀ d, d ≠ c → s₁.client d = s.client d := fun d hd => by
    rw [h₁, updateDevice_client, updateConfiguration_client s _ hd]
  have hconf : s₁.configuration c = { s.configuration c with logicalAddresses := .clear } := by
    rw [h₁, configuration_updateDevice, configuration_updateConfiguration]
  have hhandler : (s₁.devices 0).handler = s.tvHandler := by
    rw [h₁, updateDevice_devices, if_pos rfl]
    rfl
  have hstatus : ∀ a, (s₁.devices a).status = (s.devices a).status ∧
      (s₁.devices a).resets = (s.devices a).resets := fun a => by
    rw [h₁, updateDevice_devices]
    split
    · next ha => exact ha ▸ ⟨rfl, rfl⟩
    · exact ⟨rfl, rfl⟩
  rw [h]
  refine ⟨⟨?_, ?_, ?_, ?_, fun d hd => ?_, ?_, hstatus⟩, ?_⟩
  · rw [h₁]; rfl
  · rw [h₁]; rfl
  · rw [h₁]; rfl
  · rw [h₁]; rfl
  · rw [updateConfiguration_client _ _ hd, hclient d hd]
  · rw [configuration_updateConfiguration, hconf]
    exact congrArg (fun handler => { s.configuration c with
      logicalAddresses := .clear
      deviceTypes := supportedTypes handler (s.configuration c).deviceTypes }) hhandler
  · rw [h₁]; rfl

theorem isEmpty_iff_used {l : DeviceTypeList} : l.isEmpty ↔ l.used = [] := by
  simp [DeviceTypeList.isEmpty, DeviceTypeList.used]

/-- Whether an address is found for every supported type, of which there has to be one. -/
def World.canAllocate (w : World) (c : ClientId) (polls : Fin 16 → Bool) : Bool :=
  !(w.supported c).isEmpty && (w.supported c).all (w.findsAddress polls)

/-- The devices that have to be tried first are all taken, or there is nothing to try. -/
def World.cannotStart (w : World) (c : ClientId) (polls : Fin 16 → Bool) : Bool :=
  (w.supported c).isEmpty || w.isBlocked polls (w.supported c)

theorem returns_clientAllocateLogicalAddresses {c : ClientId} {s s' : World} {ok : Bool}
    (h : Returns (clientAllocateLogicalAddresses c) s ok s') :
    ∃ t, Starts c s t ∧ Allocates c t s' ∧ ok = s.canAllocate c (s.outside 0).pollAcked ∧
      (s'.stored c 0 → .tv ∈ (s.configuration c).deviceTypes.used) ∧
      (s.cannotStart c (s.outside 0).pollAcked → ∀ a, s'.isHandled a = s.isHandled a) := by
  have h := returns_update_bind.mp h
  obtain ⟨_, t, ht, h⟩ := returns_bind.mp h
  have h := returns_ask_bind.mp h
  obtain ⟨hstart, hout⟩ := starts_setSupportedDeviceTypes ht
  have htypes : (t.configuration c).deviceTypes.used = s.supported c := by
    rw [hstart.settings]
    rfl
  by_cases hempty : (t.configuration c).deviceTypes.isEmpty
  · rw [if_pos hempty] at h
    obtain ⟨rfl, rfl⟩ := returns_pure.mp h
    have hnil : s.supported c = [] := htypes ▸ isEmpty_iff_used.mp hempty
    refine ⟨_, hstart, (allocates_composable c).refl _, ?_, fun h0 => absurd h0 (hstart.stored 0),
      fun _ => hstart.isHandled⟩
    simp [World.canAllocate, hnil]
  · rw [if_neg hempty] at h
    have hcons : (s.supported c).isEmpty = false := by
      rw [List.isEmpty_eq_false_iff, ← htypes]
      exact fun hnil => hempty (isEmpty_iff_used.mpr hnil)
    obtain ⟨o, t', ho, h⟩ := returns_bind.mp h
    obtain ⟨rfl, rfl⟩ := returns_observe.mp ho
    rw [htypes, hout] at h
    obtain ⟨halloc, hok, htv, hblocked⟩ := returns_allocateTypes (used_supportedTypes _ _).1 h
    have hstart₂ : Starts c s { t with outside := fun n => s.outside (n + 1) } :=
      ⟨hstart.clients, hstart.initialised, hstart.stalled, hstart.eeprom, hstart.others,
        hstart.settings, hstart.status⟩
    have hfinds := fun u (_ : u ∈ s.supported c) => hstart₂.findsAddress (s.outside 0).pollAcked u
    refine ⟨_, hstart₂, halloc, ?_, fun h0 => ?_, fun hb a => ?_⟩
    · rw [hok, World.canAllocate, hcons, Bool.not_false, Bool.true_and, Bool.eq_iff_iff,
        List.all_eq_true, List.all_eq_true]
      exact forall₂_congr fun u hu => by rw [hfinds u hu]
    · exact tv_supportedTypes ((htv h0).resolve_left (hstart.stored 0))
    · rw [World.cannotStart, hcons, Bool.false_or] at hb
      rw [hblocked (isBlocked_congr hfinds ▸ hb) a]
      exact hstart.isHandled a

/-! ### `AllocateLogicalAddresses` -/

theorem returns_insertClient {c : ClientId} {a : Fin 16} {s s' : World}
    (h : Returns (insertClient c a) s () s') :
    s' = { s with
      devices := s'.devices
      clients := Function.update s.clients a (some c) } ∧
      ∀ b, (s'.devices b).status = (s.devices b).status ∧
        (s'.devices b).resets = (s.devices b).resets := by
  have h := returns_ask_bind.mp h
  obtain ⟨_, s₁, h₁, h⟩ := returns_bind.mp h
  rw [returns_update.mp h]
  rcases returns_callOr.mp h₁ with ⟨-, h₁⟩ | ⟨-, -, rfl⟩
  · rw [returns_update.mp h₁]
    refine ⟨rfl, fun b => ?_⟩
    change ((World.updateDevice a _ s).devices b).status = _ ∧
      ((World.updateDevice a _ s).devices b).resets = _
    rw [updateDevice_devices]
    split
    · next hb =>
      subst hb
      split <;> exact ⟨rfl, rfl⟩
    · exact ⟨rfl, rfl⟩
  · exact ⟨rfl, fun _ => ⟨rfl, rfl⟩⟩

theorem returns_insertClients {c : ClientId} : ∀ {as : List (Fin 16)} {s s' : World},
    Returns (forEach (insertClient c) as) s () s' →
      s' = { s with
        devices := s'.devices
        clients := fun a => if a ∈ as then some c else s.clients a } ∧
        ∀ b, (s'.devices b).status = (s.devices b).status ∧
          (s'.devices b).resets = (s.devices b).resets
  | [], s, s', h => by
    rw [(returns_pure.mp h).2]
    exact ⟨by simp, fun _ => ⟨rfl, rfl⟩⟩
  | a :: as, s, s', h => by
    obtain ⟨_, s₁, h₁, h⟩ := returns_bind.mp h
    obtain ⟨h₁, hstatus₁⟩ := returns_insertClient h₁
    obtain ⟨h₂, hstatus₂⟩ := returns_insertClients h
    refine ⟨?_, fun b => ⟨(hstatus₂ b).1.trans (hstatus₁ b).1, (hstatus₂ b).2.trans (hstatus₁ b).2⟩⟩
    rw [h₂, h₁]
    simp only [World.mk.injEq, true_and, and_true]
    funext b
    rcases eq_or_ne b a with rfl | hb
    · simp
    · simp [hb]

/-- What looking for new addresses changes, whether or not one is found for every type: the list
    of the client is made anew, of the TV's address and of addresses that nobody had. -/
structure Searches (c : ClientId) (s s' : World) : Prop where
  initialised : s'.initialised = s.initialised
  eeprom : s'.eeprom = s.eeprom
  others : ∀ d, d ≠ c → s'.client d = s.client d
  rom : (s'.configuration c).bGetSettingsFromROM = (s.configuration c).bGetSettingsFromROM
  valid : isValidPhysicalAddress (s.configuration c).iPhysicalAddress →
    isValidPhysicalAddress (s'.configuration c).iPhysicalAddress
  types : .tv ∈ (s'.configuration c).deviceTypes.used → .tv ∈ (s.configuration c).deviceTypes.used
  taken : ∀ a, s'.stored c a → a = 0 ∨ s.isHandled a = false ∧ s'.isHandled a
  handled : ∀ a, s.isHandled a → s'.isHandled a
  onlyStored : ∀ a, s'.isHandled a → s.isHandled a ∨ s'.stored c a
  settled : ∀ a, (s.devices a).status ≠ .unknown →
    (s'.devices a).status ≠ .unknown ∧ (s'.devices a).resets = (s.devices a).resets
  tv : s'.stored c 0 → .tv ∈ (s.configuration c).deviceTypes.used
  blocked : s.cannotStart c (s.outside 0).pollAcked → ∀ a, s'.isHandled a = s.isHandled a

/-- What `AllocateLogicalAddresses` changes: the entries of the stored addresses are erased, and
    the new ones are inserted if an address was found for every type. -/
structure Reallocates (c : ClientId) (ok : Bool) (s s' : World) : Prop extends Searches c s s' where
  stalled : s'.stallCommunication = (!ok && s.stallCommunication)
  inserted : ∀ a, ok → s'.stored c a → s'.clients a = some c
  erased : ∀ a, ¬(ok ∧ s'.stored c a) → s.stored c a → s'.clients a = none
  kept : ∀ a, ¬(ok ∧ s'.stored c a) → ¬s.stored c a → s'.clients a = s.clients a
  outcome : ok = s.canAllocate c (s.outside 0).pollAcked

/-- Later changes of the address settings and of `m_clients` make no difference. -/
theorem Searches.andThen {c : ClientId} {s t u : World} (h : Searches c s t)
    (hinit : u.initialised = t.initialised) (heeprom : u.eeprom = t.eeprom)
    (hothers : ∀ d, d ≠ c → u.client d = t.client d)
    (hsettings : (u.configuration c).withoutAddress = (t.configuration c).withoutAddress)
    (hvalid : isValidPhysicalAddress (t.configuration c).iPhysicalAddress →
      isValidPhysicalAddress (u.configuration c).iPhysicalAddress)
    (hhandled : ∀ a, u.isHandled a = t.isHandled a)
    (hsettled : ∀ a, (t.devices a).status ≠ .unknown →
      (u.devices a).status ≠ .unknown ∧ (u.devices a).resets = (t.devices a).resets) :
    Searches c s u := by
  have hstored : ∀ a, u.stored c a = t.stored c a := fun a => by
    have hlist := (congrArg Configuration.logicalAddresses hsettings :)
    exact congrArg (fun l : LogicalAddresses => l.isSet a) hlist
  have htypes := (congrArg Configuration.deviceTypes hsettings :)
  have hrom := (congrArg Configuration.bGetSettingsFromROM hsettings :)
  exact {
    initialised := hinit.trans h.initialised
    eeprom := heeprom.trans h.eeprom
    others := fun d hd => (hothers d hd).trans (h.others d hd)
    rom := hrom.trans h.rom
    valid := fun hv => hvalid (h.valid hv)
    types := fun htv => h.types (htypes ▸ htv)
    taken := fun a ha => by rw [hhandled]; exact h.taken a (hstored a ▸ ha)
    handled := fun a ha => by rw [hhandled]; exact h.handled a ha
    onlyStored := fun a ha => by
      rw [hhandled] at ha
      exact (h.onlyStored a ha).imp_right (hstored a ▸ ·)
    settled := fun a ha =>
      have ht := h.settled a ha
      have hu := hsettled a ht.1
      ⟨hu.1, hu.2.trans ht.2⟩
    tv := fun h0 => h.tv (hstored 0 ▸ h0)
    blocked := fun hb a => (hhandled a).trans (h.blocked hb a) }

theorem supported_congr {s s' : World} {c : ClientId} (hdevices : s'.devices = s.devices)
    (hconf : s'.configuration c = s.configuration c) : s'.supported c = s.supported c := by
  rw [World.supported, World.supported, World.tvHandler, World.tvHandler, hdevices, hconf]

theorem findsAddress_congr {s s' : World} (hdevices : s'.devices = s.devices)
    (polls : Fin 16 → Bool) : s'.findsAddress polls = s.findsAddress polls := by
  funext t
  rw [World.findsAddress, World.findsAddress]
  congr 1
  exact any_isFree_congr fun a _ => by rw [World.isFree, World.isFree, hdevices]

theorem canAllocate_congr {s s' : World} {c : ClientId} (hdevices : s'.devices = s.devices)
    (hconf : s'.configuration c = s.configuration c) (polls : Fin 16 → Bool) :
    s'.canAllocate c polls = s.canAllocate c polls := by
  rw [World.canAllocate, World.canAllocate, supported_congr hdevices hconf,
    findsAddress_congr hdevices]

theorem cannotStart_congr {s s' : World} {c : ClientId} (hdevices : s'.devices = s.devices)
    (hconf : s'.configuration c = s.configuration c) (polls : Fin 16 → Bool) :
    s'.cannotStart c polls = s.cannotStart c polls := by
  rw [World.cannotStart, World.cannotStart, World.isBlocked, World.isBlocked,
    supported_congr hdevices hconf, findsAddress_congr hdevices]

/-- The world without the entries of the addresses that `c` has stored. -/
def World.withoutEntries (w : World) (c : ClientId) : World :=
  { w.updateClient c fun k => { k with registered := false } with
    clients := fun a =>
      if a ∈ (w.configuration c).logicalAddresses.toList then none else w.clients a }

theorem withoutEntries_client (w : World) (c : ClientId) : (w.withoutEntries c).client =
    (w.updateClient c fun k => { k with registered := false }).client := rfl

theorem withoutEntries_configuration (w : World) (c : ClientId) :
    (w.withoutEntries c).configuration c = w.configuration c := by
  rw [World.configuration, withoutEntries_client, updateClient_self]
  rfl

/-- Looking for new addresses once the entries of the stored ones are erased. -/
theorem returns_search {c : ClientId} {s s' : World} {ok : Bool}
    (h : Returns (clientAllocateLogicalAddresses c) (s.withoutEntries c) ok s') :
    Searches c s s' ∧ s'.stallCommunication = s.stallCommunication ∧
      s'.clients = (s.withoutEntries c).clients ∧
      ok = s.canAllocate c (s.outside 0).pollAcked := by
  obtain ⟨t, hstart, halloc, hok, htv, hblocked⟩ := returns_clientAllocateLogicalAddresses h
  have hconf := withoutEntries_configuration s c
  have hdevices : (s.withoutEntries c).devices = s.devices := rfl
  have hsettings := halloc.settings
  rw [hstart.settings, hconf] at hsettings
  have htypes := (congrArg Configuration.deviceTypes hsettings :)
  have hrom := (congrArg Configuration.bGetSettingsFromROM hsettings :)
  have hpa := (congrArg Configuration.iPhysicalAddress hsettings :)
  have hhandled : ∀ a, t.isHandled a = s.isHandled a := hstart.isHandled
  refine ⟨⟨?_, ?_, fun d hd => ?_, hrom, ?_, fun h => ?_, fun a ha => ?_, fun a ha => ?_,
    fun a ha => ?_, fun a ha => ?_, ?_, fun hb => ?_⟩, ?_, ?_, ?_⟩
  · exact halloc.initialised.trans hstart.initialised
  · exact halloc.eeprom.trans hstart.eeprom
  · rw [halloc.others d hd, hstart.others d hd, withoutEntries_client, updateClient_client,
      if_neg hd]
  · rw [show (s'.configuration c).iPhysicalAddress = (s.configuration c).iPhysicalAddress from hpa]
    exact id
  · exact tv_supportedTypes (htypes ▸ h)
  · rw [← hhandled a]
    exact (halloc.taken a ha).resolve_left (hstart.stored a)
  · exact halloc.handled a ((hhandled a).symm ▸ ha)
  · rw [← hhandled a]
    exact halloc.onlyStored a ha
  · have hset := halloc.settled a ((hstart.status a).1.trans_ne ha)
    exact ⟨hset.1, hset.2.trans (hstart.status a).2⟩
  · rw [hconf] at htv
    exact htv
  · exact hblocked (cannotStart_congr hdevices hconf _ ▸ hb)
  · exact halloc.stalled.trans hstart.stalled
  · exact halloc.clients.trans hstart.clients
  · exact hok.trans (canAllocate_congr hdevices hconf _)

theorem returns_allocateLogicalAddresses {c : ClientId} {s s' : World} {ok : Bool}
    (h : Returns (allocateLogicalAddresses c) s ok s') : Reallocates c ok s s' := by
  have h := returns_ask_bind.mp (returns_update_bind.mp h)
  obtain ⟨_, s₁, h₁, h⟩ := returns_bind.mp h
  obtain ⟨allocated, s₂, h₂, h⟩ := returns_bind.mp h
  have hs₁ : s₁ = s.withoutEntries c := by
    rw [returns_eraseClients h₁, configuration_updateClient]
    rfl
  rw [hs₁] at h₂
  obtain ⟨hsearch, hstall, hclients, hok⟩ := returns_search h₂
  have herased : ∀ a, s.stored c a → s₂.clients a = none := fun a ha => by
    rw [hclients]
    exact if_pos (LogicalAddresses.mem_toList.mpr ha)
  have hkept : ∀ a, ¬s.stored c a → s₂.clients a = s.clients a := fun a ha => by
    rw [hclients]
    exact if_neg fun h => ha (LogicalAddresses.mem_toList.mp h)
  cases allocated with
  | false =>
    obtain ⟨rfl, rfl⟩ := returns_pure.mp h
    exact { hsearch with
      stalled := hstall
      inserted := fun a h => Bool.noConfusion h
      erased := fun a _ => herased a
      kept := fun a _ => hkept a
      outcome := hok }
  | true =>
    have h := returns_ask_bind.mp h
    obtain ⟨_, s₃, h₃, h⟩ := returns_bind.mp h
    obtain ⟨_, s₄, h₄, h⟩ := returns_bind.mp h
    obtain ⟨_, s₅, h₅, h⟩ := returns_bind.mp h
    have hauto : ClientFrame c s₂ s₃ := keeps_callOr (ClientFrame.composable c)
      (keeps_discard (keeps_autodetectPhysicalAddress c)) _ _ _ h₃
    obtain ⟨hinsert, hstatus⟩ := returns_insertClients h₄
    have hmask : BusFrame Set.univ s₄ s₅ := keeps_discard keeps_setAckMask _ _ _ h₅
    have h := returns_update_bind.mp h
    obtain ⟨rfl, rfl⟩ := returns_pure.mp h
    have hclient : s₅.client = s₃.client := by rw [hmask.client, hinsert]
    have hconf : s₅.configuration c = s₃.configuration c := by
      rw [World.configuration, World.configuration, hclient]
    have hlist : (s₂.configuration c).logicalAddresses = (s₅.configuration c).logicalAddresses := by
      rw [hconf, hauto.logicalAddresses]
    have hinserted : ∀ a, s₅.clients a = if s₅.stored c a then some c else s₂.clients a := fun a => by
      rw [hmask.clients, hinsert, ← hauto.clients, World.stored, ← hlist]
      simp only [LogicalAddresses.mem_toList]
    have hfinal : Searches c s { s₅ with stallCommunication := false } := by
      refine hsearch.andThen ?_ ?_ (fun d hd => ?_) ?_ ?_ (fun a => ?_) fun a ha => ?_
      · exact hmask.initialised.trans (by rw [hinsert, hauto.initialised])
      · exact hmask.eeprom.trans (by rw [hinsert, hauto.eeprom])
      · exact (congrFun hclient d).trans (hauto.others d hd)
      · exact (congrArg _ hconf).trans hauto.settings
      · exact fun hv => (congrArg Configuration.iPhysicalAddress hconf).symm ▸ hauto.valid hv
      · refine (hmask.handled a).trans (Eq.trans ?_ (hauto.handled a))
        rw [World.isHandled, World.isHandled, (hstatus a).1]
      · have h₃ := hauto.settled a ha
        have h₅ := hmask.settled a ((hstatus a).1.trans_ne h₃.1)
        exact ⟨h₅.1, h₅.2.trans ((hstatus a).2.trans h₃.2)⟩
    exact { hfinal with
      stalled := rfl
      inserted := fun a _ ha => (hinserted a).trans (if_pos ha)
      erased := fun a hn ha => (hinserted a).trans ((if_neg fun h => hn ⟨rfl, h⟩).trans (herased a ha))
      kept := fun a hn ha => (hinserted a).trans ((if_neg fun h => hn ⟨rfl, h⟩).trans (hkept a ha))
      outcome := hok }

end CEC
