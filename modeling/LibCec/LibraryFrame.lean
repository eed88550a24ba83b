import LibCec.ClientSteps

/-! The clients of the library, which the processor leaves alone.

    `CLibCEC` has a default client and a list of all clients. The processor looks at them, for
    instance to find the client that it is asked to register, and changes neither, however deep its
    registrations are nested. -/

namespace CEC
open Schemes Procedure

/-- `m_client` and `m_clients` of the library are the same. -/
structure SameLibrary (s s' : World) : Prop where
  client : s'.libClient = s.libClient
  clients : s'.libClients = s.libClients

theorem sameLibrary_composable : Composable SameLibrary where
  refl _ := ⟨rfl, rfl⟩
  trans h₁ h₂ := ⟨h₂.client.trans h₁.client, h₂.clients.trans h₁.clients⟩

/-- The clients of the library and the devices that libCEC handles are the same. -/
structure LibraryFrame (s s' : World) : Prop extends SameLibrary s s' where
  handled : ∀ a, s'.isHandled a = s.isHandled a

theorem libraryFrame_composable : Composable LibraryFrame where
  refl s := ⟨sameLibrary_composable.refl s, fun _ => rfl⟩
  trans h₁ h₂ := ⟨sameLibrary_composable.trans h₁.toSameLibrary h₂.toSameLibrary,
    fun a => (h₂.handled a).trans (h₁.handled a)⟩

/-! ### Devices -/

theorem sameLibrary_storePowerStatus (s : World) (a : Fin 16) (p : PowerStatus) :
    SameLibrary s (s.storePowerStatus a p) := by
  rw [storePowerStatus_onlyDevices]
  exact ⟨rfl, rfl⟩

theorem sameLibrary_resetDeviceStatus (a : Fin 16) : Keeps SameLibrary (resetDeviceStatus a) :=
  keeps_resetDeviceStatus sameLibrary_composable (fun s => sameLibrary_storePowerStatus s a)
    fun _ _ _ => ⟨rfl, rfl⟩

theorem sameLibrary_setDeviceStatus (a : Fin 16) (st : DeviceStatus) :
    Keeps SameLibrary (setDeviceStatus a st) :=
  keeps_setDeviceStatus sameLibrary_composable (fun s => sameLibrary_storePowerStatus s a)
    (fun _ _ _ _ => ⟨rfl, rfl⟩) st

theorem LibraryFrame.of_devices {s s' : World} (hlib : SameLibrary s s')
    (h : ∀ a, (s'.devices a).status = (s.devices a).status) : LibraryFrame s s' :=
  ⟨hlib, fun a => by rw [World.isHandled, World.isHandled, h a]⟩

instance libraryFrame_clientSteps : ClientSteps LibraryFrame where
  composable := libraryFrame_composable
  handled h := h.handled
  outside _ _ := .of_devices ⟨rfl, rfl⟩ fun _ => rfl
  devices hsame _ := .of_devices ⟨rfl, rfl⟩ fun a => (hsame a).1
  status hother hst hkeep _ s' h :=
    have hframe : BusFrame ∅ _ s' := BusSteps.status hother hst hkeep _ _ h
    ⟨sameLibrary_setDeviceStatus _ _ _ _ _ h, hframe.handled⟩
  vendor _ := .of_devices ⟨rfl, rfl⟩ fun b => by
    rw [updateDevice_devices]
    split
    · next hb => rw [hb]
    · rfl
  moves a pa := keeps_update fun s => .of_devices ⟨rfl, rfl⟩ fun b => by
    rw [updateDevice_devices]
    split
    · next hb => rw [hb]; split <;> rfl
    · rfl
  settings _ := .of_devices ⟨rfl, rfl⟩ fun _ => rfl
  flags _ := .of_devices ⟨rfl, rfl⟩ fun _ => rfl

/-- What keeps the frame keeps the clients of the library. -/
theorem keeps_sameLibrary {α : Type} {x : Proc α} (h : Keeps LibraryFrame x) :
    Keeps SameLibrary x := h.mono LibraryFrame.toSameLibrary

/-! ### Settings -/

theorem libraryFrame_update (s : World) (c : ClientId) (f : Configuration → Configuration) :
    LibraryFrame s (s.updateConfiguration c f) := .of_devices ⟨rfl, rfl⟩ fun _ => rfl

theorem libraryFrame_applySettings (c : ClientId) (x : Configuration) :
    Keeps LibraryFrame (applySettings c x) := by
  have hL := libraryFrame_composable
  have hupdate : ∀ f, Keeps LibraryFrame (update (World.updateConfiguration c f)) := fun f =>
    keeps_update fun s => libraryFrame_update s c f
  have hname : Keeps LibraryFrame (setOSDName c x.strDeviceName) := by
    refine keeps_bind hL (keeps_ask hL _) fun w => keeps_ite (fun _ => keeps_pure hL _) fun _ => ?_
    refine keeps_bind hL (hupdate _) fun _ => keeps_bind hL keeps_observe fun o => ?_
    exact keeps_callOr hL (keeps_transmit_discard _ 0 0x47 false)
  have hvendor : Keeps LibraryFrame (setTVVendorOverride c x.tvVendor) := by
    refine keeps_bind hL (keeps_ask hL _) fun m => keeps_ite (fun _ => keeps_pure hL _) fun _ => ?_
    refine keeps_bind hL (hupdate _) fun _ => keeps_callOr hL (keeps_update fun s => ?_)
    refine .of_devices ⟨rfl, rfl⟩ fun b => ?_
    rw [updateDevice_devices]
    split
    · next hb => rw [hb]
    · rfl
  refine keeps_bind hL (keeps_callOr hL (hupdate _)) fun _ => keeps_bind hL (hupdate _) fun _ => ?_
  exact keeps_bind hL hname fun _ => keeps_bind hL hvendor fun _ => hupdate _

section registration

variable {react : Reaction → Proc Unit} (hreact : ReactionsKeep LibraryFrame react)
  {reregister : ClientId → Proc Bool} {c : ClientId} (hagain : Keeps SameLibrary (reregister c))

include hreact

theorem libraryFrame_applyAddress (x : Configuration) :
    Keeps LibraryFrame (applyAddress react c x) := by
  have hL := libraryFrame_composable
  have htypes : Keeps LibraryFrame (setDeviceTypes c x.deviceTypes) :=
    keeps_bind hL (keeps_ask hL _) fun w =>
      keeps_bind hL (keeps_update fun s => libraryFrame_update s c _) fun _ => keeps_pure hL _
  have haddress : Keeps LibraryFrame (applyPhysicalAddress react c x) := by
    refine keeps_ite (fun _ => ClientSteps.keeps_setConfiguredPhysicalAddress hreact c x) fun _ => ?_
    refine keeps_ite (fun _ => ?_) fun _ => ClientSteps.keeps_setConfiguredPhysicalAddress hreact c x
    exact keeps_discard (ClientSteps.keeps_setHDMIPort hreact c _ _)
  refine keeps_bind hL (keeps_ask hL _) fun initialised => ?_
  refine keeps_bind hL (keeps_callOr hL htypes) fun bNeedReinit => keeps_ite (fun _ => ?_) fun _ => ?_
  · exact keeps_bind hL (keeps_update fun s => libraryFrame_update s c _) fun _ => keeps_pure hL _
  · exact keeps_bind hL haddress fun _ => keeps_pure hL _

include hagain

theorem sameLibrary_setConfiguration (x : Configuration) :
    Keeps SameLibrary (setConfiguration react reregister c x) := by
  have hL := sameLibrary_composable
  refine keeps_bind hL (keeps_ask hL _) fun w => ?_
  refine keeps_bind hL (keeps_sameLibrary (libraryFrame_applySettings c x)) fun _ => ?_
  refine keeps_bind hL (keeps_sameLibrary (libraryFrame_applyAddress hreact x)) fun bNeedReinit => ?_
  refine keeps_bind hL (keeps_ask hL _) fun primary => ?_
  refine keeps_ite (fun _ => keeps_discard hagain) fun _ => keeps_callOr hL ?_
  exact keeps_sameLibrary (keeps_discard (keeps_activateSource hreact _ 0))

omit hreact hagain

/-! ### Registering -/

theorem sameLibrary_setAckMask : Keeps SameLibrary setAckMask := keeps_sameLibrary keeps_setAckMask

theorem sameLibrary_unregisterClient (c : ClientId) : Keeps SameLibrary (unregisterClient c) := by
  have hL := sameLibrary_composable
  refine keeps_bind hL (keeps_update fun _ => ⟨rfl, rfl⟩) fun _ => ?_
  refine keeps_bind hL (keeps_ask hL _) fun addresses => ?_
  refine keeps_bind hL (keeps_forEach hL (fun a => ?_) _) fun _ => sameLibrary_setAckMask
  exact keeps_bind hL (keeps_update fun _ => ⟨rfl, rfl⟩) fun _ => sameLibrary_resetDeviceStatus a

theorem sameLibrary_allocateTypes (polls : Fin 16 → Bool) (c : ClientId) (ts : List DeviceType) :
    Keeps SameLibrary (allocateTypes polls c ts) := by
  have hL := sameLibrary_composable
  refine keeps_allocateTypes hL (fun a => ?_) (fun _ _ => ⟨rfl, rfl⟩) ts
  refine keeps_bind hL (keeps_ask hL _) fun status => keeps_ite (fun _ => keeps_pure hL _) fun _ => ?_
  refine keeps_ite (fun _ => ?_) fun _ => ?_
  · exact keeps_bind hL (sameLibrary_setDeviceStatus a _) fun _ => keeps_pure hL _
  · exact keeps_bind hL (sameLibrary_setDeviceStatus a _) fun _ => keeps_pure hL _

theorem sameLibrary_allocateLogicalAddresses (c : ClientId) :
    Keeps SameLibrary (allocateLogicalAddresses c) := by
  have hL := sameLibrary_composable
  have hsupported : Keeps LibraryFrame (setSupportedDeviceTypes c) := by
    have hL := libraryFrame_composable
    refine keeps_bind hL (keeps_replaceHandler 0) fun _ => keeps_bind hL (keeps_ask hL _) fun _ => ?_
    exact keeps_update fun s => libraryFrame_update s c _
  have hallocate : Keeps SameLibrary (clientAllocateLogicalAddresses c) := by
    refine keeps_bind hL (keeps_update fun _ => ⟨rfl, rfl⟩) fun _ => ?_
    refine keeps_bind hL (keeps_sameLibrary hsupported) fun _ => ?_
    refine keeps_bind hL (keeps_ask hL _) fun types => keeps_ite (fun _ => keeps_pure hL _) fun _ => ?_
    exact keeps_bind hL (keeps_sameLibrary keeps_observe) fun o => sameLibrary_allocateTypes _ c _
  have herase : ∀ a, Keeps SameLibrary (eraseClient a) := fun a => keeps_update fun _ => ⟨rfl, rfl⟩
  have hinsert : ∀ a, Keeps SameLibrary (insertClient c a) := fun a => by
    refine keeps_bind hL (keeps_ask hL _) fun pa => keeps_bind hL (keeps_callOr hL ?_) fun _ => ?_
    · exact keeps_sameLibrary (ClientSteps.moves a pa)
    · exact keeps_update fun _ => ⟨rfl, rfl⟩
  refine keeps_bind hL (keeps_update fun _ => ⟨rfl, rfl⟩) fun _ => ?_
  refine keeps_bind hL (keeps_ask hL _) fun old => ?_
  refine keeps_bind hL (keeps_forEach hL herase _) fun _ => ?_
  refine keeps_bind hL hallocate fun allocated => keeps_ite (fun _ => keeps_pure hL _) fun _ => ?_
  refine keeps_bind hL (keeps_ask hL _) fun m => ?_
  refine keeps_bind hL (keeps_callOr hL (keeps_discard ?_)) fun _ => ?_
  · exact keeps_sameLibrary (ClientSteps.keeps_autodetectPhysicalAddress c)
  refine keeps_bind hL (keeps_forEach hL hinsert _) fun _ => ?_
  refine keeps_bind hL (keeps_discard sameLibrary_setAckMask) fun _ => ?_
  exact keeps_bind hL (keeps_update fun _ => ⟨rfl, rfl⟩) fun _ => keeps_pure hL _

include hreact hagain

theorem sameLibrary_registerClientWith :
    Keeps SameLibrary (registerClientWith react reregister c) := by
  have hL := sameLibrary_composable
  refine ClientSteps.keeps_registerClientWith hL LibraryFrame.toSameLibrary hreact ?_ ?_
  · exact ClientSteps.keeps_prepareRegistration hL LibraryFrame.toSameLibrary (fun _ => ⟨rfl, rfl⟩)
      (sameLibrary_unregisterClient c) fun s => sameLibrary_setConfiguration hreact hagain _ s
  · exact sameLibrary_allocateLogicalAddresses c

end registration

/-- Registering a client leaves the clients of the library alone. -/
theorem sameLibrary_registerClient (n : ℕ) (c : ClientId) :
    Keeps SameLibrary (registerClient n c) := by
  induction n with
  | zero => exact keeps_stuck
  | succ n ih => exact sameLibrary_registerClientWith (reactionsKeep_react n) ih

end CEC
