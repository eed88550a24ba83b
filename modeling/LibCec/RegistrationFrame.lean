import LibCec.Reallocation

/-! Registration around the allocation.

    `OwnerFrame c` is what everything else that happens while a client is registered keeps: the
    entries of `m_clients`, the devices that are handled and the addresses that are stored. Only
    `SetConfiguration` may register the client once more in between; with its own settings it does
    not if the client has a valid physical address or no addresses (`setConfiguration_own`). -/

namespace CEC
open Schemes Procedure

/-- The client wants to be a TV, or would if it took over the types of the EEPROM. -/
def World.asksForTv (w : World) (c : ClientId) : Prop :=
  .tv ∈ (w.configuration c).deviceTypes.used ∨
    (w.configuration c).bGetSettingsFromROM = 1 ∧ .tv ∈ w.eeprom.deviceTypes.used

/-- What registration keeps outside of the allocation. -/
structure OwnerFrame (c : ClientId) (s s' : World) : Prop extends DeviceFrame s s' where
  others : ∀ d, d ≠ c → s'.client d = s.client d
  addresses : (s'.configuration c).logicalAddresses = (s.configuration c).logicalAddresses
  valid : isValidPhysicalAddress (s.configuration c).iPhysicalAddress →
    isValidPhysicalAddress (s'.configuration c).iPhysicalAddress
  asksForTv : s'.asksForTv c → s.asksForTv c

theorem ownerFrame_composable (c : ClientId) : Composable (OwnerFrame c) where
  refl s := ⟨.refl s, fun _ _ => rfl, rfl, id, id⟩
  trans h₁ h₂ := {
    toDeviceFrame := h₁.toDeviceFrame.trans h₂.toDeviceFrame
    others := fun d hd => (h₂.others d hd).trans (h₁.others d hd)
    addresses := h₂.addresses.trans h₁.addresses
    valid := fun hv => h₂.valid (h₁.valid hv)
    asksForTv := fun h => h₁.asksForTv (h₂.asksForTv h) }

theorem asksForTv_congr {c : ClientId} {s s' : World} (heeprom : s'.eeprom = s.eeprom)
    (htypes : (s'.configuration c).deviceTypes = (s.configuration c).deviceTypes)
    (hrom : (s'.configuration c).bGetSettingsFromROM = (s.configuration c).bGetSettingsFromROM) :
    s'.asksForTv c ↔ s.asksForTv c := by
  rw [World.asksForTv, World.asksForTv, heeprom, htypes, hrom]

namespace OwnerFrame

variable {c : ClientId} {s t : World}

theorem ofClientFrame (h : ClientFrame c s t) : OwnerFrame c s t where
  toDeviceFrame := h.toDeviceFrame
  others := h.others
  addresses := h.logicalAddresses
  valid := h.valid
  asksForTv := (asksForTv_congr h.eeprom h.deviceTypes
    (congrArg Configuration.bGetSettingsFromROM h.settings :)).mp

theorem ofBusFrame (h : BusFrame Set.univ s t) : OwnerFrame c s t :=
  ofClientFrame (.ofBusFrame h fun _ => trivial)

/-- A change of the client that keeps its addresses, its types and whether its address is valid. -/
theorem update {f : Client → Client}
    (haddresses : (f (s.client c)).configuration.logicalAddresses =
      (s.configuration c).logicalAddresses)
    (hvalid : isValidPhysicalAddress (s.configuration c).iPhysicalAddress →
      isValidPhysicalAddress (f (s.client c)).configuration.iPhysicalAddress)
    (htv : (s.updateClient c f).asksForTv c → s.asksForTv c) :
    OwnerFrame c s (s.updateClient c f) where
  toDeviceFrame := deviceFrame_client
  others d hd := (updateClient_client s c d f).trans (if_neg hd)
  addresses := (congrArg Configuration.logicalAddresses (configuration_updateClient s c f)).trans
    haddresses
  valid hv := by
    rw [configuration_updateClient]
    exact hvalid hv
  asksForTv := htv

/-- A change of what the client knows about itself, not of its settings. -/
theorem flags {f : Client → Client} (h : ∀ k, (f k).configuration = k.configuration) :
    OwnerFrame c s (s.updateClient c f) := by
  have hconf : (s.updateClient c f).configuration c = s.configuration c := by
    rw [configuration_updateClient, h]
    rfl
  have htv : (s.updateClient c f).asksForTv c ↔ s.asksForTv c :=
    asksForTv_congr rfl (by rw [hconf]) (by rw [hconf])
  refine update ?_ ?_ htv.mp
  · rw [h]; rfl
  · rw [h]; exact id

/-- Rewriting the settings of the client with themselves. -/
theorem applied (h : Rewrites c (Configuration.applied (s.configuration c)) s t) :
    OwnerFrame c s t := by
  obtain ⟨haddresses, hpa, htypes, hrom, -⟩ :=
    Configuration.applied_fields (s.configuration c) (s.configuration c)
  have hconf := h.configuration
  refine ⟨h.toDeviceFrame, fun d hd => ?_, ?_, ?_, (asksForTv_congr h.eeprom ?_ ?_).mp⟩
  · rw [h.client, updateConfiguration_client s _ hd]
  · rw [hconf, haddresses]
  · rw [hconf, hpa]; exact id
  · rw [hconf, htypes]
  · rw [hconf, hrom]

end OwnerFrame

theorem keeps_ownerFrame {α : Type} {c : ClientId} {x : Proc α}
    (h : Keeps (BusFrame Set.univ) x) : Keeps (OwnerFrame c) x :=
  fun s a s' hx => .ofBusFrame (h s a s' hx)

/-! ### Before the allocation -/

/-- Taking over settings from the adapter. -/
theorem settingsFromAdapter_fields (detected : UInt16) (rom m : Configuration) :
    (settingsFromAdapter detected rom m).logicalAddresses = m.logicalAddresses ∧
      (settingsFromAdapter detected rom m).bGetSettingsFromROM = m.bGetSettingsFromROM ∧
      (isValidPhysicalAddress m.iPhysicalAddress →
        isValidPhysicalAddress (settingsFromAdapter detected rom m).iPhysicalAddress) ∧
      ((settingsFromAdapter detected rom m).deviceTypes = m.deviceTypes ∨
        m.bGetSettingsFromROM = 1 ∧
          (settingsFromAdapter detected rom m).deviceTypes = rom.deviceTypes) := by
  unfold settingsFromAdapter
  dsimp only
  split_ifs <;> simp_all

/-- The types that a client is registered with: those of the EEPROM, if it wants the settings in the
    EEPROM and there are any, in place of its own. -/
def Configuration.typesToRegister (m rom : Configuration) : DeviceTypeList :=
  if m.bGetSettingsFromROM = 1 ∧ ¬rom.deviceTypes.isEmpty then rom.deviceTypes else m.deviceTypes

theorem settingsFromAdapter_deviceTypes (detected : UInt16) (rom m : Configuration) :
    (settingsFromAdapter detected rom m).deviceTypes = m.typesToRegister rom := by
  unfold settingsFromAdapter Configuration.typesToRegister
  dsimp only
  split_ifs <;> simp_all

theorem ownerFrame_settingsFromAdapter (c : ClientId) (s : World) (detected : UInt16) :
    OwnerFrame c s (s.updateConfiguration c (settingsFromAdapter detected s.eeprom)) := by
  obtain ⟨haddresses, hrom, hvalid, htypes⟩ :=
    settingsFromAdapter_fields detected s.eeprom (s.configuration c)
  refine .update haddresses hvalid fun h => ?_
  have hconf : (s.updateConfiguration c (settingsFromAdapter detected s.eeprom)).configuration c =
      settingsFromAdapter detected s.eeprom (s.configuration c) :=
    configuration_updateConfiguration s c _
  change World.asksForTv (s.updateConfiguration c (settingsFromAdapter detected s.eeprom)) c at h
  rw [World.asksForTv, hconf, hrom] at h
  rcases h with h | ⟨h1, h⟩
  · rcases htypes with ht | ⟨h1, ht⟩
    · exact .inl (ht ▸ h)
    · exact .inr ⟨h1, ht ▸ h⟩
  · exact .inr ⟨h1, h⟩

section registration

variable {react : Reaction → Proc Unit} (hreact : ∀ K, ReactionsKeep (BusFrame K) react)
  {reregister : ClientId → Proc Bool} {c : ClientId} {s s' : World}

/-- `RegisterClient` up to the allocation: the client is unregistered if it was registered, and
    sets its own configuration, with the types it is to be registered with, if the adapter has an
    address to send from. -/
theorem prepareRegistration_cases {ready : Bool}
    (h : Returns (prepareRegistration react reregister c) s ready s') :
    ∃ s₀ s₁, ((s.client c).registered ∧ Unregisters c s s₀ ∨
        (s.client c).registered = false ∧ s₀ = s) ∧ OwnerFrame c s₀ s₁ ∧
      (ready = false ∧ s' = s₁ ∨
        ready = true ∧
          (s₁.configuration c).deviceTypes = (s.configuration c).typesToRegister s.eeprom ∧
          Returns (setConfiguration react reregister c (s₁.configuration c)) s₁ () s') := by
  have hc := ownerFrame_composable c
  have h := returns_ask_bind.mp h
  obtain ⟨_, s₀, h₀, h⟩ := returns_bind.mp h
  have h := returns_update_bind.mp h
  have h := returns_ask_bind.mp h
  have hmonitor : OwnerFrame c s₀ { s₀ with monitor := false } :=
    ⟨⟨rfl, rfl, rfl, rfl, fun _ => rfl, fun _ h => ⟨h, rfl⟩, id⟩, fun _ _ => rfl, rfl, id, id⟩
  have hunregister : (s.client c).registered ∧ Unregisters c s s₀ ∨
      (s.client c).registered = false ∧ s₀ = s := by
    rcases returns_callOr.mp h₀ with ⟨hreg, h₀⟩ | ⟨hreg, -, rfl⟩
    · obtain ⟨_, h₀⟩ := returns_discard.mp h₀
      exact .inl ⟨hreg, returns_unregisterClient h₀⟩
    · exact .inr ⟨Bool.not_eq_true _ ▸ hreg, rfl⟩
  split at h
  · obtain ⟨rfl, rfl⟩ := returns_pure.mp h
    exact ⟨s₀, _, hunregister, hmonitor, .inl ⟨rfl, rfl⟩⟩
  · obtain ⟨_, s₂, h₂, h⟩ := returns_bind.mp h
    obtain ⟨_, s₃, h₃, h⟩ := returns_bind.mp h
    have h := returns_update_bind.mp h
    obtain ⟨o, s₄, h₄, h⟩ := returns_bind.mp h
    have h := returns_ask_bind.mp h
    have h := returns_update_bind.mp h
    have h := returns_ask_bind.mp h
    obtain ⟨_, s₅, h₅, h⟩ := returns_bind.mp h
    obtain ⟨rfl, rfl⟩ := returns_pure.mp h
    have hvendor : OwnerFrame c { s₀ with monitor := false } s₃ :=
      hc.trans (keeps_ownerFrame (keeps_discard (keeps_getVendorId 0 _)) _ _ _ h₂)
        (keeps_ownerFrame (keeps_replaceHandler 0) _ _ _ h₃)
    have hanswer := keeps_ownerFrame (c := c) keeps_observe _ _ _ h₄
    have hbus : BusFrame Set.univ s₀ s₃ := by
      have hquiet : BusFrame Set.univ s₀ { s₀ with monitor := false } :=
        ⟨hmonitor.toDeviceFrame, rfl, fun _ _ => rfl⟩
      exact (busFrame_composable _).trans hquiet ((busFrame_composable _).trans
        (keeps_discard (keeps_getVendorId 0 _) _ _ _ h₂) (keeps_replaceHandler 0 _ _ _ h₃))
    have hsame : s₄.configuration c = s.configuration c ∧ s₄.eeprom = s.eeprom := by
      obtain ⟨-, rfl⟩ := returns_observe.mp h₄
      have hs₃ : (World.updateClient c (fun k => { k with initialised := false }) s₃).configuration c =
          s₀.configuration c := by
        rw [configuration_updateClient, World.configuration, hbus.client]
      refine ⟨hs₃.trans ?_, hbus.eeprom.trans ?_⟩
      · rcases hunregister with ⟨-, h₀⟩ | ⟨-, rfl⟩
        · exact h₀.configuration
        · rfl
      · rcases hunregister with ⟨-, h₀⟩ | ⟨-, rfl⟩
        · exact h₀.eeprom
        · rfl
    refine ⟨s₀, _, hunregister, ?_, .inr ⟨rfl, ?_, h₅⟩⟩
    · refine hc.trans hmonitor (hc.trans hvendor (hc.trans ?_ (hc.trans hanswer ?_)))
      · exact .flags fun _ => rfl
      · exact ownerFrame_settingsFromAdapter c s₄ _
    · rw [configuration_updateConfiguration, settingsFromAdapter_deviceTypes, hsame.1, hsame.2]

include hreact

/-- Setting its own configuration moves the client to a valid address at most; it is registered
    once more only if that changes the address of its primary device. -/
theorem setConfiguration_own
    (h : Returns (setConfiguration react reregister c (s.configuration c)) s () s') :
    ∃ u, OwnerFrame c s u ∧
      (s.initialised → isValidPhysicalAddress (u.configuration c).iPhysicalAddress) ∧
      ((∃ ok, Returns (reregister c) u ok s') ∨ BusFrame Set.univ u s') ∧
      (s.initialised → isValidPhysicalAddress (s.configuration c).iPhysicalAddress ∨
        (s.configuration c).logicalAddresses = .clear → BusFrame Set.univ u s') := by
  obtain ⟨t, u, ht, hu, hcase⟩ := setConfiguration_cases hreact h
  have ht := returns_applySettings ht
  have hframe : ClientFrame c t u := keeps_applyPhysicalAddress hreact c _ _ _ _ hu
  have hown := OwnerFrame.applied ht
  refine ⟨u, (ownerFrame_composable c).trans hown (.ofClientFrame hframe), fun hinit => ?_,
    hcase.imp_left And.right, fun hinit hplace => ?_⟩
  · exact valid_applyPhysicalAddress hreact (ht.initialised.trans hinit) hu
  · refine hcase.resolve_left fun ⟨hmoved, _⟩ => hmoved ?_
    rcases hplace with hvalid | hclear
    · exact primaryAddress_same hinit ht hvalid rfl hu
    · obtain ⟨haddresses, -⟩ := Configuration.applied_fields (s.configuration c) (s.configuration c)
      rw [← ht.configuration, hclear] at haddresses
      have h15 : u.primaryOf c = 15 ∧ s.primaryOf c = 15 := by
        rw [World.primaryOf, World.primaryOf, hframe.logicalAddresses, haddresses, hclear]
        exact ⟨rfl, rfl⟩
      rw [World.primaryAddress, if_pos hinit, h15.1, h15.2, ← ht.physicalAddress]
      refine hframe.unregistered ?_
      rw [haddresses]
      rfl

/-! ### After the allocation -/

theorem keeps_onRegister : Keeps (OwnerFrame c) (onRegister react c) := by
  have hc := ownerFrame_composable c
  refine keeps_bind hc (keeps_ask hc _) fun w => ?_
  refine keeps_ite (fun _ => keeps_pure hc _) fun _ => ?_
  refine keeps_ite (fun _ => keeps_pure hc _) fun _ => ?_
  refine keeps_bind hc (keeps_update fun s => .flags fun _ => rfl) fun _ => ?_
  have hmove := keeps_setConfiguredPhysicalAddress hreact c (w.configuration c)
  refine keeps_bind hc (keeps_callOr hc fun s a t h => .ofClientFrame (hmove s a t h)) fun _ => ?_
  refine keeps_bind hc (keeps_callOr hc (keeps_ownerFrame ?_)) fun _ => keeps_pure hc _
  exact keeps_discard (keeps_activateSource (hreact _) _ 500)

theorem keeps_completeRegistration : Keeps (OwnerFrame c) (completeRegistration react c) := by
  have hc := ownerFrame_composable c
  refine keeps_bind hc (keeps_ownerFrame keeps_observe) fun o => ?_
  refine keeps_bind hc (keeps_update fun s => ?_) fun _ => ?_
  · refine .update rfl id fun htv => ?_
    rwa [World.asksForTv, configuration_updateClient] at htv
  refine keeps_bind hc (keeps_update fun s => .flags fun _ => rfl) fun _ => ?_
  refine keeps_bind hc (keeps_ask hc _) fun sourceAddress => ?_
  refine keeps_bind hc (keeps_onRegister hreact) fun ok => ?_
  refine keeps_bind hc (keeps_ownerFrame (keeps_transmit_discard _ 0 0x47 false)) fun _ => ?_
  refine keeps_bind hc (keeps_ownerFrame ?_) fun _ => keeps_pure hc _
  exact keeps_requestPowerStatus (hreact _) 0 sourceAddress

/-! ### `RegisterClient` -/

/-- A call of `RegisterClient`: nothing happens, or the client gets ready and its addresses are
    allocated. -/
theorem registerClientWith_cases {ok : Bool}
    (h : Returns (registerClientWith react reregister c) s ok s') :
    s' = s ∨
      (s.configuration c).bMonitorOnly ≠ 1 ∧ s.initialised ∧ ∃ s₁ ready,
        Returns (prepareRegistration react reregister c) s ready s₁ ∧
          (ready = false ∧ s' = s₁ ∨
            ready = true ∧ ∃ allocated s₂, Returns (allocateLogicalAddresses c) s₁ allocated s₂ ∧
              OwnerFrame c s₂ s') := by
  have h := returns_ask_bind.mp h
  split at h
  · exact .inl (returns_pure.mp h).2
  next hmonitor =>
  split at h
  · exact .inl (returns_pure.mp h).2
  next hinit =>
  obtain ⟨ready, s₁, h₁, h⟩ := returns_bind.mp h
  refine .inr ⟨hmonitor, by simpa using hinit, s₁, ready, h₁, ?_⟩
  cases ready with
  | false => exact .inl ⟨rfl, (returns_pure.mp h).2⟩
  | true =>
    obtain ⟨allocated, s₂, h₂, h⟩ := returns_bind.mp h
    refine .inr ⟨rfl, allocated, s₂, h₂, ?_⟩
    cases allocated with
    | false =>
      obtain ⟨_, s₃, h₃, h⟩ := returns_bind.mp h
      obtain ⟨-, rfl⟩ := returns_pure.mp h
      exact keeps_discard (keeps_ownerFrame keeps_setAckMask) _ _ _ h₃
    | true => exact keeps_completeRegistration hreact _ _ _ h

/-- What unregistering and the rest of a registration preserve holds when the addresses are to be
    allocated, if registering the client once more preserves it. -/
theorem prepareRegistration_invariant {P : World → Prop}
    (hframe : ∀ {s t}, OwnerFrame c s t → P s → P t)
    (hunregister : ∀ {s t}, Unregisters c s t → P s → P t)
    (hagain : ∀ {s t ok}, Returns (reregister c) s ok t → P s → P t) {ready : Bool}
    (h : Returns (prepareRegistration react reregister c) s ready s') (hs : P s) : P s' := by
  obtain ⟨t₀, t₁, h₀, hown, hcase⟩ := prepareRegistration_cases h
  have ht₁ : P t₁ := by
    rcases h₀ with ⟨-, h₀⟩ | ⟨-, rfl⟩
    · exact hframe hown (hunregister h₀ hs)
    · exact hframe hown hs
  rcases hcase with ⟨-, rfl⟩ | ⟨-, -, hset⟩
  · exact ht₁
  · obtain ⟨u, hu, -, hcase, -⟩ := setConfiguration_own hreact hset
    rcases hcase with ⟨ok, hre⟩ | hbus
    · exact hagain hre (hframe hu ht₁)
    · exact hframe (.ofBusFrame hbus) (hframe hu ht₁)

end registration

/-- What unregistering, allocating and the rest of a registration preserve is preserved by
    `RegisterClient`, however deep its calls of itself are nested. -/
theorem registerClient_invariant {c : ClientId} {P : World → Prop}
    (hframe : ∀ {s t}, OwnerFrame c s t → P s → P t)
    (hunregister : ∀ {s t}, Unregisters c s t → P s → P t)
    (hallocate : ∀ {s t ok}, Reallocates c ok s t → P s → P t) {n : ℕ} :
    ∀ {s s' : World} {ok : Bool}, Returns (registerClient n c) s ok s' → P s → P s' := by
  induction n with
  | zero => exact fun h _ => (not_returns_stuck h).elim
  | succ n ih =>
    intro s s' ok h hs
    have hreact := fun K => reactionsKeep_react (R := BusFrame K) n
    rcases registerClientWith_cases hreact h with rfl | ⟨-, -, s₁, ready, h₁, hrest⟩
    · exact hs
    have hs₁ : P s₁ := prepareRegistration_invariant hreact hframe hunregister ih h₁ hs
    rcases hrest with ⟨-, rfl⟩ | ⟨-, allocated, s₂, h₂, hcomplete⟩
    · exact hs₁
    · exact hframe hcomplete (hallocate (returns_allocateLogicalAddresses h₂) hs₁)

end CEC
