import LibCec.SourceFrame
import LibCec.Client

/-! What a change of a client's configuration leaves alone.

    `SetConfiguration` works in two parts. The first one rewrites settings and may send a name to
    the TV (`Rewrites`); the second one may move the client to another physical address
    (`ClientFrame`). Only then may the client be registered again:

        applySettings ──▶ applyAddress ──▶ RegisterClient | ActivateSource | nothing

    `setConfiguration_cases` takes a call apart in this way. -/

namespace CEC
open Schemes Procedure

namespace Configuration

/-- The settings without those that say where the client is connected. -/
def withoutAddress (m : Configuration) : Configuration :=
  { m with bAutodetectAddress := 0, iPhysicalAddress := 0, baseDevice := .unknown, iHDMIPort := 0 }

/-- The settings after the first part of `SetConfiguration`. -/
def applied (x m : Configuration) : Configuration :=
  let m := if x.callbacks.isSome then m.enableCallbacks x.callbackParam x.callbacks else m
  copySettings (((m.setClientVersion x.clientVersion).setOSDName x.strDeviceName).setTVVendorOverride
    x.tvVendor) x

theorem wakeWithSource_fields (b : Bool) (m : Configuration) :
    ∃ wake, wakeWithSource b m = { m with wakeDevices := wake } := by
  unfold wakeWithSource
  split_ifs
  · exact ⟨_, rfl⟩
  · exact ⟨m.wakeDevices, rfl⟩

theorem sourceWithWake_fields (b : Bool) (m : Configuration) :
    ∃ source, sourceWithWake b m = { m with bActivateSource := source } := by
  unfold sourceWithWake
  split_ifs
  · exact ⟨_, rfl⟩
  · exact ⟨m.bActivateSource, rfl⟩

/-- What depends on changes touches two of the copied fields only. -/
theorem copySettings_fields (m x : Configuration) : ∃ wake source,
    copySettings m x = { justCopy m x with wakeDevices := wake, bActivateSource := source } := by
  obtain ⟨wake, hwake⟩ := wakeWithSource_fields (x.bActivateSource != m.bActivateSource)
    (justCopy m x)
  obtain ⟨source, hsource⟩ := sourceWithWake_fields
    (x.wakeDevices.isSet 0 != m.wakeDevices.isSet 0) { justCopy m x with wakeDevices := wake }
  refine ⟨wake, source, ?_⟩
  rw [copySettings, hwake, hsource]

/-- The first part of `SetConfiguration` leaves the addresses alone and takes over the types. -/
theorem applied_fields (x m : Configuration) :
    (applied x m).logicalAddresses = m.logicalAddresses ∧
      (applied x m).iPhysicalAddress = m.iPhysicalAddress ∧
      (applied x m).deviceTypes = x.deviceTypes ∧
      (applied x m).bGetSettingsFromROM = x.bGetSettingsFromROM ∧
      (applied x m).bMonitorOnly = x.bMonitorOnly := by
  obtain ⟨wake, source, h⟩ := copySettings_fields
    ((((if x.callbacks.isSome then m.enableCallbacks x.callbackParam x.callbacks else m).setClientVersion
      x.clientVersion).setOSDName x.strDeviceName).setTVVendorOverride x.tvVendor) x
  simp only [applied, h]
  split <;> exact ⟨rfl, rfl, rfl, rfl, rfl⟩

end Configuration

/-! ### Rewriting the settings of a client -/

theorem updateClient_client (w : World) (c d : ClientId) (f : Client → Client) :
    (w.updateClient c f).client d = if d = c then f (w.client c) else w.client d := by
  simp only [World.updateClient, Function.update_apply]

@[simp] theorem updateClient_self (w : World) (c : ClientId) (f : Client → Client) :
    (w.updateClient c f).client c = f (w.client c) := by
  rw [updateClient_client, if_pos rfl]

@[simp] theorem configuration_updateClient (w : World) (c : ClientId) (f : Client → Client) :
    (w.updateClient c f).configuration c = (f (w.client c)).configuration := by
  rw [World.configuration, updateClient_self]

@[simp] theorem configuration_updateConfiguration (w : World) (c : ClientId)
    (f : Configuration → Configuration) :
    (w.updateConfiguration c f).configuration c = f (w.configuration c) :=
  configuration_updateClient w c _

@[simp] theorem updateDevice_client (w : World) (a : Fin 16) (f : Device → Device) :
    (w.updateDevice a f).client = w.client := rfl

@[simp] theorem updateConfiguration_devices (w : World) (c : ClientId)
    (f : Configuration → Configuration) : (w.updateConfiguration c f).devices = w.devices := rfl

@[simp] theorem configuration_updateDevice (w : World) (a : Fin 16) (f : Device → Device)
    (c : ClientId) : (w.updateDevice a f).configuration c = w.configuration c := rfl

theorem updateConfiguration_client (w : World) {c d : ClientId} (f : Configuration → Configuration)
    (hd : d ≠ c) : (w.updateConfiguration c f).client d = w.client d := by
  rw [World.updateConfiguration, updateClient_client, if_neg hd]

/-- A change of a client leaves the devices and the other clients alone. -/
theorem deviceFrame_client {s : World} {client : ClientId → Client} :
    DeviceFrame s { s with client := client } :=
  ⟨rfl, rfl, rfl, rfl, fun _ => rfl, fun _ h => ⟨h, rfl⟩, id⟩

/-- The settings of the client `c` are rewritten by `f`; all devices stay where they are. -/
structure Rewrites (c : ClientId) (f : Configuration → Configuration) (s s' : World) : Prop
    extends DeviceFrame s s' where
  client : s'.client = (s.updateConfiguration c f).client
  physicalAddress : ∀ a, (s'.devices a).physicalAddress = (s.devices a).physicalAddress

namespace Rewrites

variable {c : ClientId} {f g : Configuration → Configuration} {s t u : World}

theorem configuration (h : Rewrites c f s t) : t.configuration c = f (s.configuration c) := by
  rw [World.configuration, h.client]
  exact configuration_updateConfiguration s c f

theorem update (s : World) (c : ClientId) (f : Configuration → Configuration) :
    Rewrites c f s (s.updateConfiguration c f) := ⟨deviceFrame_client, rfl, fun _ => rfl⟩

theorem trans (h₁ : Rewrites c f s t) (h₂ : Rewrites c g t u) :
    Rewrites c (fun m => g (f m)) s u where
  toDeviceFrame := h₁.toDeviceFrame.trans h₂.toDeviceFrame
  client := by
    rw [h₂.client]
    simp only [World.updateConfiguration, World.updateClient, h₁.client, Function.update_self,
      Function.update_idem]
  physicalAddress a := (h₂.physicalAddress a).trans (h₁.physicalAddress a)

/-- What polls and transmissions do rewrites nothing. -/
theorem ofBusFrame (h : BusFrame Set.univ s t) (hf : f (s.configuration c) = s.configuration c) :
    Rewrites c f s t where
  toDeviceFrame := h.toDeviceFrame
  client := by
    rw [h.client, World.updateConfiguration, World.updateClient]
    change s.client = Function.update s.client c { s.client c with
      configuration := f (s.configuration c) }
    rw [hf]
    exact (Function.update_eq_self c s.client).symm
  physicalAddress a := h.physicalAddress a trivial

theorem andThen (h₁ : Rewrites c f s t) (h₂ : BusFrame Set.univ t u) : Rewrites c f s u :=
  h₁.trans (g := id) (ofBusFrame h₂ rfl)

end Rewrites

theorem returns_setOSDName {c : ClientId} {name : BoundedBuffer UInt8 14} {s s' : World}
    (h : Returns (setOSDName c name) s () s') : Rewrites c (·.setOSDName name) s s' := by
  have hK := busFrame_composable Set.univ
  have h := returns_ask_bind.mp h
  by_cases hname : (s.configuration c).strDeviceName = name
  · rw [id, if_pos hname] at h
    rw [(returns_pure.mp h).2]
    refine .ofBusFrame (hK.refl s) ?_
    rw [← hname]
    rfl
  · rw [id, if_neg hname] at h
    have hsent : Keeps (BusFrame Set.univ) (do
        let o ← observe
        callWhen (!o.named && s.initialised) (transmitOSDName (s.primaryOf c) 0)) :=
      keeps_bind hK keeps_observe fun o => keeps_callOr hK (keeps_transmit_discard _ 0 0x47 false)
    exact (Rewrites.update s c _).andThen (hsent _ _ _ (returns_update_bind.mp h))

theorem returns_setTVVendorOverride {c : ClientId} {id : VendorId} {s s' : World}
    (h : Returns (setTVVendorOverride c id) s () s') :
    Rewrites c (·.setTVVendorOverride id) s s' := by
  have hK := busFrame_composable Set.univ
  have h := returns_ask_bind.mp h
  by_cases hid : (s.configuration c).tvVendor = id
  · rw [if_pos hid] at h
    rw [(returns_pure.mp h).2]
    refine .ofBusFrame (hK.refl s) ?_
    rw [← hid]
    rfl
  · rw [if_neg hid] at h
    have hvendor : Keeps (BusFrame Set.univ) (callWhen (id ≠ 0)
        (update (World.updateDevice 0 fun d => { d with vendor := id }))) :=
      keeps_callOr hK (keeps_update fun _ => busFrame_updateDevice (fun _ => rfl) (fun _ => rfl)
        (fun _ hd => hd) fun _ _ => rfl)
    exact (Rewrites.update s c _).andThen (hvendor _ _ _ (returns_update_bind.mp h))

/-- The first part of `SetConfiguration`. -/
theorem returns_applySettings {c : ClientId} {x : Configuration} {s s' : World}
    (h : Returns (applySettings c x) s () s') : Rewrites c (Configuration.applied x) s s' := by
  obtain ⟨_, s₁, h₁, h⟩ := returns_bind.mp h
  obtain ⟨_, s₂, h₂, h⟩ := returns_bind.mp (returns_update_bind.mp h)
  obtain ⟨_, s₃, h₃, h⟩ := returns_bind.mp h
  have hcallbacks : Rewrites c (fun m => if x.callbacks.isSome
      then m.enableCallbacks x.callbackParam x.callbacks else m) s s₁ := by
    rcases returns_callOr.mp h₁ with ⟨hx, h₁⟩ | ⟨hx, -, rfl⟩
    · rw [returns_update.mp h₁]
      simp only [hx, if_true]
      exact .update s c _
    · exact .ofBusFrame ((busFrame_composable _).refl _) (if_neg hx)
  have hlast : Rewrites c (·.copySettings x) s₃ s' := by
    rw [returns_update.mp h]
    exact .update s₃ c _
  exact (((hcallbacks.trans (.update s₁ c _)).trans (returns_setOSDName h₂)).trans
    (returns_setTVVendorOverride h₃)).trans hlast

/-! ### Moving a client to another physical address -/

/-- What the second part of `SetConfiguration` keeps. A client without addresses leaves the
    unregistered device where it is. -/
structure ClientFrame (c : ClientId) (s s' : World) : Prop extends DeviceFrame s s' where
  others : ∀ d, d ≠ c → s'.client d = s.client d
  registered : (s'.client c).registered = (s.client c).registered
  started : (s'.client c).initialised = (s.client c).initialised
  settings : (s'.configuration c).withoutAddress = (s.configuration c).withoutAddress
  valid : isValidPhysicalAddress (s.configuration c).iPhysicalAddress →
    isValidPhysicalAddress (s'.configuration c).iPhysicalAddress
  unregistered : (s.configuration c).logicalAddresses.toList = [] →
    (s'.devices 15).physicalAddress = (s.devices 15).physicalAddress

namespace ClientFrame

variable {c : ClientId} {s t : World}

theorem logicalAddresses (h : ClientFrame c s t) :
    (t.configuration c).logicalAddresses = (s.configuration c).logicalAddresses :=
  (congrArg Configuration.logicalAddresses h.settings :)

theorem deviceTypes (h : ClientFrame c s t) :
    (t.configuration c).deviceTypes = (s.configuration c).deviceTypes :=
  (congrArg Configuration.deviceTypes h.settings :)

theorem composable (c : ClientId) : Composable (ClientFrame c) where
  refl s := ⟨.refl s, fun _ _ => rfl, rfl, rfl, rfl, id, fun _ => rfl⟩
  trans h₁ h₂ := {
    toDeviceFrame := h₁.toDeviceFrame.trans h₂.toDeviceFrame
    others := fun d hd => (h₂.others d hd).trans (h₁.others d hd)
    registered := h₂.registered.trans h₁.registered
    started := h₂.started.trans h₁.started
    settings := h₂.settings.trans h₁.settings
    valid := fun hv => h₂.valid (h₁.valid hv)
    unregistered := fun hnil =>
      (h₂.unregistered (h₁.logicalAddresses ▸ hnil)).trans (h₁.unregistered hnil) }

theorem ofBusFrame {K : Set (Fin 16)} (h : BusFrame K s t)
    (hK : (s.configuration c).logicalAddresses.toList = [] → 15 ∈ K) : ClientFrame c s t where
  toDeviceFrame := h.toDeviceFrame
  others d _ := congrFun h.client d
  registered := by rw [h.client]
  started := by rw [h.client]
  settings := by rw [World.configuration, World.configuration, h.client]
  valid := by rw [World.configuration, World.configuration, h.client]; exact id
  unregistered hnil := h.physicalAddress 15 (hK hnil)

/-- A change of the fields that say where the client is connected. -/
theorem update {f : Configuration → Configuration}
    (hsettings : (f (s.configuration c)).withoutAddress = (s.configuration c).withoutAddress)
    (hvalid : isValidPhysicalAddress (s.configuration c).iPhysicalAddress →
      isValidPhysicalAddress (f (s.configuration c)).iPhysicalAddress) :
    ClientFrame c s (s.updateConfiguration c f) where
  toDeviceFrame := deviceFrame_client
  others d hd := updateConfiguration_client s f hd
  registered := by rw [World.updateConfiguration, updateClient_self]
  started := by rw [World.updateConfiguration, updateClient_self]
  settings := by rw [configuration_updateConfiguration, hsettings]
  valid := by rw [configuration_updateConfiguration]; exact hvalid
  unregistered _ := rfl

end ClientFrame

/-- What keeps the frame of the bus, with the unregistered device, keeps that of a client. -/
theorem keeps_clientFrame {α : Type} {c : ClientId} {x : Proc α}
    (h : Keeps (BusFrame {15}) x) : Keeps (ClientFrame c) x := fun s a s' hx =>
  .ofBusFrame (h s a s' hx) fun _ => rfl

section address

variable {react : Reaction → Proc Unit} (hreact : ∀ K, ReactionsKeep (BusFrame K) react)
  (c : ClientId)

theorem keeps_readdress {K : Set (Fin 16)} (initialised : Bool) (pa : UInt16) :
    ∀ (as : List (Fin 16)) (r : Option (Fin 16)), (∀ a ∈ as, a ∉ K) →
      Keeps (BusFrame K) (readdress initialised pa as r)
  | [], r, _ => keeps_pure (busFrame_composable K) r
  | a :: as, r, h => by
    have hK := busFrame_composable K
    refine keeps_bind hK (keeps_ask hK _) fun active => ?_
    refine keeps_bind hK (keeps_callOr hK (keeps_markAsInactiveSource a)) fun _ => ?_
    refine keeps_bind hK (keeps_setPhysicalAddress (h a List.mem_cons_self) pa) fun _ => ?_
    refine keeps_bind hK (keeps_callOr hK (keeps_transmitPhysicalAddress a)) fun _ => ?_
    exact keeps_readdress initialised pa as _ fun b hb => h b (List.mem_cons_of_mem a hb)

include hreact

/-- Only the devices of the client move. -/
theorem keeps_setDevicePhysicalAddress (pa : UInt16) :
    Keeps (ClientFrame c) (setDevicePhysicalAddress react c pa) := by
  have hc := ClientFrame.composable c
  refine keeps_ite (fun _ => keeps_pure hc _) fun _ => keeps_ask_bind fun s => ?_
  let K : Set (Fin 16) := {a | a ∉ (s.configuration c).logicalAddresses.toList}
  have hK := busFrame_composable K
  intro a s' h
  refine .ofBusFrame (keeps_bind hK (keeps_readdress _ pa _ none fun a ha hna => hna ha)
    (fun r => ?_) s a s' h) fun hnil => ?_
  · split
    · exact keeps_callOr hK (keeps_discard (keeps_activateSource (hreact K) _ 0))
    · exact keeps_pure hK _
  · simp [K, hnil]

theorem keeps_clientSetPhysicalAddress {pa : UInt16} (hpa : isValidPhysicalAddress pa) :
    Keeps (ClientFrame c) (clientSetPhysicalAddress react c pa) := by
  have hc := ClientFrame.composable c
  refine keeps_bind hc (keeps_ask hc _) fun m => ?_
  refine keeps_ite (fun _ => keeps_pure hc _) fun _ => ?_
  refine keeps_bind hc (keeps_update fun s => ?_) fun _ =>
    keeps_setDevicePhysicalAddress hreact c pa
  exact .update rfl fun _ => hpa

omit hreact in
theorem keeps_getPhysicalAddressFromPort (base : LogicalAddress) (port : UInt8) :
    Keeps (ClientFrame c) (getPhysicalAddressFromPort c base port) := by
  have hc := ClientFrame.composable c
  cases base with
  | unknown => exact keeps_pure hc _
  | addr b =>
    refine keeps_bind hc (keeps_ask hc _) fun initiator => ?_
    refine keeps_bind hc (keeps_clientFrame (keeps_getPhysicalAddress ?_ initiator)) fun _ =>
      keeps_pure hc _
    rcases em (b = 15) with h15 | h15
    · exact .inr h15
    · exact .inl (keeps_setPhysicalAddress h15)

theorem keeps_setHDMIPort (base : LogicalAddress) (port : UInt8) :
    Keeps (ClientFrame c) (setHDMIPort react c base port) := by
  have hc := ClientFrame.composable c
  refine keeps_ite (fun _ => keeps_pure hc _) fun _ => ?_
  refine keeps_bind hc (keeps_ask hc _) fun w => ?_
  refine keeps_ite (fun _ => keeps_pure hc _) fun _ => ?_
  refine keeps_bind hc (keeps_update fun s => .update rfl id) fun _ => ?_
  refine keeps_ite (fun _ => keeps_pure hc _) fun _ => ?_
  refine keeps_bind hc (keeps_getPhysicalAddressFromPort c base port) fun pa => ?_
  refine keeps_bind hc (keeps_clientSetPhysicalAddress hreact c ?_) fun _ => keeps_pure hc _
  -- the address that is used in the end is valid in any case
  split_ifs with h₁ h₂
  · exact h₁
  · exact h₂
  · rfl

omit hreact in
theorem keeps_autodetectPhysicalAddress : Keeps (ClientFrame c) (autodetectPhysicalAddress c) := by
  have hc := ClientFrame.composable c
  refine keeps_bind hc (keeps_clientFrame keeps_observe) fun o => ?_
  refine keeps_ite (fun ho => ?_) fun _ => ?_
  · exact keeps_bind hc (keeps_update fun s => .update rfl fun _ => ho) fun _ => keeps_pure hc _
  · exact keeps_bind hc (keeps_update fun s => .update rfl id) fun _ => keeps_pure hc _

theorem keeps_setConfiguredPhysicalAddress (x : Configuration) :
    Keeps (ClientFrame c) (setConfiguredPhysicalAddress react c x) := by
  have hc := ClientFrame.composable c
  refine keeps_ite (fun hx => ?_) fun _ => ?_
  · exact keeps_bind hc (keeps_clientSetPhysicalAddress hreact c hx) fun _ =>
      keeps_update fun s => .update rfl fun _ => hx
  · refine keeps_bind hc (keeps_autodetectPhysicalAddress c) fun detected => ?_
    refine keeps_ite (fun _ => ?_) fun _ => ?_
    · exact keeps_bind hc (keeps_ask hc _) fun pa => keeps_setDevicePhysicalAddress hreact c pa
    · refine keeps_bind hc (keeps_callOr hc (keeps_setHDMIPort hreact c _ _)) fun set => ?_
      refine keeps_bind hc (keeps_ask hc _) fun initialised => ?_
      exact keeps_callOr hc (keeps_discard (keeps_setHDMIPort hreact c _ _))

theorem keeps_refreshPhysicalAddress (base : Fin 16) :
    Keeps (ClientFrame c) (refreshPhysicalAddress react base c) := by
  have hc := ClientFrame.composable c
  refine keeps_bind hc (keeps_ask hc _) fun m => ?_
  refine keeps_ite (fun _ => keeps_pure hc _) fun _ => ?_
  refine keeps_bind hc (keeps_getPhysicalAddressFromPort c _ _) fun pa => ?_
  by_cases hpa : isValidPhysicalAddress pa
  · exact keeps_ite (fun _ => keeps_pure hc _) fun _ => keeps_clientSetPhysicalAddress hreact c hpa
  · exact keeps_ite (fun _ => keeps_pure hc _) fun h => absurd h (by simp [hpa])

theorem keeps_applyPhysicalAddress (x : Configuration) :
    Keeps (ClientFrame c) (applyPhysicalAddress react c x) := by
  refine keeps_ite (fun _ => keeps_setConfiguredPhysicalAddress hreact c x) fun _ => ?_
  refine keeps_ite (fun _ => ?_) fun _ => keeps_setConfiguredPhysicalAddress hreact c x
  exact keeps_discard (keeps_setHDMIPort hreact c _ _)

end address

/-! ### Where a client that is moved ends up -/

section moved

variable {react : Reaction → Proc Unit} (hreact : ∀ K, ReactionsKeep (BusFrame K) react)
  {c : ClientId} {s s' : World}
include hreact

theorem valid_clientSetPhysicalAddress {pa : UInt16} (hpa : isValidPhysicalAddress pa)
    (h : Returns (clientSetPhysicalAddress react c pa) s () s') :
    isValidPhysicalAddress (s'.configuration c).iPhysicalAddress := by
  have h := returns_ask_bind.mp h
  by_cases hsame : (s.configuration c).iPhysicalAddress = pa
  · rw [if_pos hsame] at h
    rw [(returns_pure.mp h).2, hsame]
    exact hpa
  · rw [if_neg hsame] at h
    refine (keeps_setDevicePhysicalAddress hreact c pa _ _ _ (returns_update_bind.mp h)).valid ?_
    rw [configuration_updateConfiguration]
    exact hpa

/-- A port number that makes sense leads to a valid address; any other one is refused. -/
theorem returns_setHDMIPort {base : LogicalAddress} {port : UInt8} {set : Bool}
    (h : Returns (setHDMIPort react c base port) s set s') :
    set = false ∧ s' = s ∧ (port < 1 ∨ port > 15) ∨
      set = true ∧ (s.initialised → isValidPhysicalAddress (s'.configuration c).iPhysicalAddress) := by
  by_cases hport : port < 1 ∨ port > 15
  · rw [setHDMIPort, if_pos hport] at h
    obtain ⟨rfl, rfl⟩ := returns_pure.mp h
    exact .inl ⟨rfl, rfl, hport⟩
  rw [setHDMIPort, if_neg hport] at h
  have h := returns_ask_bind.mp h
  dsimp only [id] at h
  refine .inr ?_
  split at h
  · next hm =>
    obtain ⟨rfl, rfl⟩ := returns_pure.mp h
    exact ⟨rfl, fun _ => hm.2.2⟩
  · have h := returns_update_bind.mp h
    split at h
    · next hw =>
      obtain ⟨rfl, rfl⟩ := returns_pure.mp h
      refine ⟨rfl, fun hinit => ?_⟩
      simp [hinit] at hw
    · obtain ⟨pa, s₂, -, h⟩ := returns_bind.mp h
      obtain ⟨_, s₃, h₃, h⟩ := returns_bind.mp h
      obtain ⟨rfl, rfl⟩ := returns_pure.mp h
      refine ⟨rfl, fun _ => valid_clientSetPhysicalAddress hreact ?_ h₃⟩
      split_ifs with h₁ h₂
      · exact h₁
      · exact h₂
      · rfl

/-- While the processor runs, a client always ends up with a valid physical address. -/
theorem valid_setConfiguredPhysicalAddress {x : Configuration} (hinit : s.initialised)
    (h : Returns (setConfiguredPhysicalAddress react c x) s () s') :
    isValidPhysicalAddress (s'.configuration c).iPhysicalAddress := by
  by_cases hx : isValidPhysicalAddress x.iPhysicalAddress
  · rw [setConfiguredPhysicalAddress, if_pos hx] at h
    obtain ⟨_, s₁, -, h⟩ := returns_bind.mp h
    rw [returns_update.mp h, configuration_updateConfiguration]
    exact hx
  rw [setConfiguredPhysicalAddress, if_neg hx] at h
  obtain ⟨detected, s₁, h₁, h⟩ := returns_bind.mp h
  have hframe := keeps_autodetectPhysicalAddress c s _ _ h₁
  cases detected with
  | true =>
    have hvalid : isValidPhysicalAddress (s₁.configuration c).iPhysicalAddress := by
      obtain ⟨o, s₂, -, h₁⟩ := returns_bind.mp h₁
      split at h₁
      · next ho =>
        have h₁ := returns_update_bind.mp h₁
        rw [(returns_pure.mp h₁).2, configuration_updateConfiguration]
        exact ho
      · have h₁ := returns_update_bind.mp h₁
        exact Bool.noConfusion (returns_pure.mp h₁).1
    rw [if_pos rfl] at h
    exact (keeps_setDevicePhysicalAddress hreact c _ _ _ _ (returns_ask_bind.mp h)).valid hvalid
  | false =>
    rw [if_neg Bool.false_ne_true] at h
    obtain ⟨set, s₂, h₂, h⟩ := returns_bind.mp h
    have hinit₁ : s₁.initialised := hframe.initialised ▸ hinit
    have hcase : set = false ∧ s₂ = s₁ ∨
        isValidPhysicalAddress (s₂.configuration c).iPhysicalAddress := by
      rcases returns_callOr.mp h₂ with ⟨-, h₂⟩ | ⟨-, rfl, rfl⟩
      · rcases returns_setHDMIPort hreact h₂ with ⟨hset, hs, -⟩ | ⟨-, hvalid⟩
        · exact .inl ⟨hset, hs⟩
        · exact .inr (hvalid hinit₁)
      · exact .inl ⟨rfl, rfl⟩
    have h₃ := returns_ask_bind.mp h
    rcases hcase with ⟨hset, hs⟩ | hvalid
    · rw [hset, hs] at h₃
      rcases returns_callOr.mp h₃ with ⟨-, h₃⟩ | ⟨hno, -, -⟩
      · -- the default port is in range
        obtain ⟨_, h₃⟩ := returns_discard.mp h₃
        rcases returns_setHDMIPort hreact h₃ with ⟨-, -, hport⟩ | ⟨-, hvalid⟩
        · exact absurd hport (by decide)
        · exact hvalid hinit₁
      · exact absurd hinit₁ (by simpa using hno)
    · rcases returns_callOr.mp h₃ with ⟨-, h₃⟩ | ⟨-, -, rfl⟩
      · obtain ⟨_, h₃⟩ := returns_discard.mp h₃
        exact (keeps_setHDMIPort hreact c _ _ _ _ _ h₃).valid hvalid
      · exact hvalid

theorem valid_applyPhysicalAddress {x : Configuration} (hinit : s.initialised)
    (h : Returns (applyPhysicalAddress react c x) s () s') :
    isValidPhysicalAddress (s'.configuration c).iPhysicalAddress := by
  unfold applyPhysicalAddress at h
  split at h
  · exact valid_setConfiguredPhysicalAddress hreact hinit h
  · split at h
    · next hport =>
      obtain ⟨set, h⟩ := returns_discard.mp h
      rcases returns_setHDMIPort hreact h with ⟨-, -, hbad⟩ | ⟨-, hvalid⟩
      · obtain ⟨-, hlow, hhigh⟩ := hport
        rcases hbad with hbad | hbad
        · exact absurd hlow (by grind)
        · exact absurd hhigh (by grind)
      · exact hvalid hinit
    · exact valid_setConfiguredPhysicalAddress hreact hinit h

end moved

/-! ### `SetConfiguration` -/

theorem updateConfiguration_of_eq {c : ClientId} {f : Configuration → Configuration} {s : World}
    (h : f (s.configuration c) = s.configuration c) : s.updateConfiguration c f = s := by
  change { s with client := Function.update s.client c { s.client c with
    configuration := f (s.configuration c) } } = s
  rw [h]
  exact congrArg (fun client => { s with client }) (Function.update_eq_self c s.client)

section configuration

variable {react : Reaction → Proc Unit} {reregister : ClientId → Proc Bool} {c : ClientId}
  {x : Configuration} {s s' : World}

/-- The types were copied before, so they never differ when they are compared. -/
theorem returns_applyAddress {b : Bool} (htypes : (s.configuration c).deviceTypes = x.deviceTypes)
    (h : Returns (applyAddress react c x) s b s') :
    b = false ∧ Returns (applyPhysicalAddress react c x) s () s' := by
  have h := returns_ask_bind.mp h
  obtain ⟨bNeedReinit, s₁, h₁, h₂⟩ := returns_bind.mp h
  have hsame : bNeedReinit = false ∧ s₁ = s := by
    rcases returns_callOr.mp h₁ with ⟨-, h₁⟩ | ⟨-, rfl, rfl⟩
    · have h₁ := returns_update_bind.mp (returns_ask_bind.mp h₁)
      obtain ⟨rfl, rfl⟩ := returns_pure.mp h₁
      refine ⟨by simp [htypes], updateConfiguration_of_eq ?_⟩
      rw [← htypes]
    · exact ⟨rfl, rfl⟩
  rw [hsame.1, hsame.2, if_neg Bool.false_ne_true] at h₂
  obtain ⟨_, s₂, h₂, h₃⟩ := returns_bind.mp h₂
  obtain ⟨rfl, rfl⟩ := returns_pure.mp h₃
  exact ⟨rfl, h₂⟩

/-- The physical address that the primary device had when `SetConfiguration` was called. -/
def World.primaryAddress (w : World) (c : ClientId) : UInt16 :=
  if w.initialised then (w.devices (w.primaryOf c)).physicalAddress else invalidPhysicalAddress

/-- A client that is at the configured address already is not moved; the port is forgotten. -/
theorem returns_applyPhysicalAddress_same (hx : isValidPhysicalAddress x.iPhysicalAddress)
    (hsame : (s.configuration c).iPhysicalAddress = x.iPhysicalAddress)
    (h : Returns (applyPhysicalAddress react c x) s () s') :
    s' = s.updateConfiguration c fun m =>
      { m with
        baseDevice := .unknown
        iHDMIPort := 0
        iPhysicalAddress := x.iPhysicalAddress
        bAutodetectAddress := 0 } := by
  rw [applyPhysicalAddress, if_pos hx, setConfiguredPhysicalAddress, if_pos hx] at h
  obtain ⟨_, s₁, h₁, h₂⟩ := returns_bind.mp h
  have h₁ := returns_ask_bind.mp h₁
  rw [if_pos hsame] at h₁
  rw [returns_update.mp h₂, (returns_pure.mp h₁).2]

/-- Writing back the address that the client has does not move its primary device. -/
theorem primaryAddress_same {t u : World} (hinit : s.initialised)
    (ht : Rewrites c (Configuration.applied x) s t) (hx : isValidPhysicalAddress x.iPhysicalAddress)
    (hsame : (s.configuration c).iPhysicalAddress = x.iPhysicalAddress)
    (hu : Returns (applyPhysicalAddress react c x) t () u) :
    (u.devices (u.primaryOf c)).physicalAddress = s.primaryAddress c := by
  obtain ⟨haddresses, hpa, -⟩ := Configuration.applied_fields x (s.configuration c)
  rw [← ht.configuration] at haddresses hpa
  rw [returns_applyPhysicalAddress_same hx (hpa.trans hsame) hu, World.primaryOf,
    configuration_updateConfiguration, updateConfiguration_devices, ht.physicalAddress, haddresses,
    World.primaryAddress, if_pos hinit]
  rfl

/-- What a call of `SetConfiguration` does: it rewrites settings and moves the client; if that
    changed the address of the primary device, the client is registered again. -/
theorem setConfiguration_cases (hreact : ∀ K, ReactionsKeep (BusFrame K) react)
    (h : Returns (setConfiguration react reregister c x) s () s') :
    ∃ t u, Returns (applySettings c x) s () t ∧
      Returns (applyPhysicalAddress react c x) t () u ∧
      ((u.devices (u.primaryOf c)).physicalAddress ≠ s.primaryAddress c ∧
          (∃ ok, Returns (reregister c) u ok s') ∨
        BusFrame Set.univ u s') := by
  have hK := busFrame_composable Set.univ
  have h := returns_ask_bind.mp h
  obtain ⟨_, t, ht, h⟩ := returns_bind.mp h
  obtain ⟨bNeedReinit, u, hu, h⟩ := returns_bind.mp h
  have htypes : (t.configuration c).deviceTypes = x.deviceTypes := by
    rw [(returns_applySettings ht).configuration]
    exact (Configuration.applied_fields x _).2.2.1
  obtain ⟨hreinit, hu⟩ := returns_applyAddress htypes hu
  refine ⟨t, u, ht, hu, ?_⟩
  have h := returns_ask_bind.mp h
  rcases em ((u.devices (u.primaryOf c)).physicalAddress = s.primaryAddress c) with hpa | hpa
  · rw [if_neg (by simpa [hreinit, World.primaryAddress] using hpa)] at h
    exact .inr (keeps_callOr hK (keeps_discard (keeps_activateSource (hreact _) _ 0)) _ _ _ h)
  · rw [if_pos (by simpa [hreinit, World.primaryAddress] using hpa)] at h
    exact .inl ⟨hpa, returns_discard.mp h⟩

end configuration

end CEC
