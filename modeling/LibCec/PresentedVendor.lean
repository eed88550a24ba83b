import LibCec.VendorFrame

/-! The vendor id that a registered client presents.

    A device gets the id when its address is claimed, from the primary client of that moment.

        RegisterClient ─ ▶ erase own entries of m_clients
                             │
                             ├─ TryLogicalAddress ─ ▶ SetDeviceStatus ─ ▶ GetPrimaryClient
                             │
                             └─ insert own entries

    The client that claims the address is not in `m_clients` then: the id is that of the lowest of
    the others, or Pulse-Eight's. -/

namespace CEC
open Schemes Procedure

/-- The vendor id that a client is to present. -/
def Configuration.ownVendor (m : Configuration) : VendorId :=
  if m.iDeviceVendorId ≠ 0 then m.iDeviceVendorId else vendorPulseEight

/-- Each device at an address of the client presents the vendor id of the client. -/
def World.PresentsVendor (w : World) (c : ClientId) : Prop :=
  ∀ a, w.stored c a → (w.devices a).vendor = (w.configuration c).ownVendor

theorem presentedVendor_congr {s t : World} (hclients : t.clients = s.clients)
    (hid : SameIdentity s t) : t.presentedVendor = s.presentedVendor := by
  unfold World.presentedVendor World.primaryClient
  rw [hclients]
  split
  · next d _ =>
    have hvendor : (t.configuration d).iDeviceVendorId = (s.configuration d).iDeviceVendorId :=
      congrArg Prod.fst (hid d)
    rw [hvendor]
  · rfl

/-! ### Claiming addresses -/

/-- Devices that were handled keep their vendor ids, and those that are handled from then on have
    the one that is presented. -/
structure Presents (s s' : World) : Prop where
  clients : s'.clients = s.clients
  identity : SameIdentity s s'
  kept : ∀ a, s.isHandled a → s'.isHandled a ∧ (s'.devices a).vendor = (s.devices a).vendor
  claimed : ∀ a, s'.isHandled a → s.isHandled a ∨ (s'.devices a).vendor = s.presentedVendor

theorem presents_composable : Composable Presents where
  refl s := ⟨rfl, sameIdentity_composable.refl s, fun _ h => ⟨h, rfl⟩, fun _ h => .inl h⟩
  trans {s t u} h₁ h₂ := {
    clients := h₂.clients.trans h₁.clients
    identity := sameIdentity_composable.trans h₁.identity h₂.identity
    kept := fun a ha =>
      have ht := h₁.kept a ha
      have hu := h₂.kept a ht.1
      ⟨hu.1, hu.2.trans ht.2⟩
    claimed := fun a ha => by
      rcases h₂.claimed a ha with ht | hu
      · rcases h₁.claimed a ht with hs | hv
        · exact .inl hs
        · exact .inr ((h₂.kept a ht).2.trans hv)
      · exact .inr (hu.trans (presentedVendor_congr h₁.clients h₁.identity)) }

theorem Presents.of_frame {s t : World} (h : VendorFrame s t) (hclients : t.clients = s.clients) :
    Presents s t where
  clients := hclients
  identity := h.identity
  kept a ha := ⟨(h.handled a).trans ha, h.vendor a ha⟩
  claimed a ha := .inl ((h.handled a).symm.trans ha)

/-- Registering a device as handled. -/
theorem presents_handle {s s' : World} {a : Fin 16} (hother : s.isHandled a = false)
    (h : Returns (setDeviceStatus a .handledByLibCec) s () s') : Presents s s' := by
  unfold setDeviceStatus at h
  split at h
  · rw [(returns_pure.mp h).2]
    exact presents_composable.refl s
  have h := returns_update_bind.mp (returns_ask_bind.mp h)
  have hstored : ∀ b, (s.storePowerStatus a .on).isHandled b = s.isHandled b ∧
      ((s.storePowerStatus a .on).devices b).vendor = (s.devices b).vendor := fun b => by
    obtain ⟨q, sent, hq⟩ := storePowerStatus_device s a b .on
    rw [World.isHandled, World.isHandled, hq]
    exact ⟨rfl, rfl⟩
  have honly := storePowerStatus_onlyDevices s a .on
  rw [returns_update.mp h]
  refine ⟨?_, .of_client ?_, fun b hb => ?_, fun b hb => ?_⟩
  · rw [honly]; rfl
  · rw [honly]; rfl
  · have hne : b ≠ a := by
      rintro rfl
      exact absurd (hother.symm.trans hb) Bool.false_ne_true
    rw [World.isHandled, updateDevice_devices, if_neg hne]
    exact ⟨(hstored b).1.trans hb, (hstored b).2⟩
  · rcases eq_or_ne b a with rfl | hne
    · right
      rw [updateDevice_devices, if_pos rfl]
      rfl
    · left
      rw [World.isHandled, updateDevice_devices, if_neg hne] at hb
      exact (hstored b).1.symm.trans hb

theorem presents_tryLogicalAddress (polls : Fin 16 → Bool) (a : Fin 16) :
    Keeps Presents (tryLogicalAddress polls a) := by
  intro s ok s' h
  have h := returns_ask_bind.mp h
  split at h
  · rw [(returns_pure.mp h).2]
    exact presents_composable.refl s
  next hknown =>
  obtain ⟨hpresent, hhandled⟩ := not_or.mp hknown
  have hother : s.isHandled a = false := by simp [World.isHandled, hhandled]
  split at h
  · obtain ⟨_, t, ht, h⟩ := returns_bind.mp h
    rw [(returns_pure.mp h).2]
    have hstatus : VendorFrame s t := BusSteps.status hother (.inl rfl) (fun h => by cases h) _ _ ht
    have hbus : BusFrame Set.univ s t := BusSteps.status hother (.inl rfl) (fun h => by cases h) _ _ ht
    exact .of_frame hstatus hbus.clients
  · obtain ⟨_, t, ht, h⟩ := returns_bind.mp h
    rw [(returns_pure.mp h).2]
    exact presents_handle hother ht

theorem presents_updateConfiguration {s : World} {c : ClientId} {f : Configuration → Configuration}
    (h : (f (s.configuration c)).identity = (s.configuration c).identity) :
    Presents s (s.updateConfiguration c f) := .of_frame (vendorFrame_update h) rfl

theorem presents_allocateTypes (polls : Fin 16 → Bool) (c : ClientId) (ts : List DeviceType) :
    Keeps Presents (allocateTypes polls c ts) :=
  keeps_allocateTypes presents_composable (presents_tryLogicalAddress polls)
    (fun _ _ => presents_updateConfiguration rfl) ts

theorem presents_of_frames {α : Type} {x : Proc α} (hv : Keeps VendorFrame x)
    (hb : Keeps (BusFrame Set.univ) x) : Keeps Presents x := fun s a s' h =>
  .of_frame (hv s a s' h) (hb s a s' h).clients

theorem presents_clientAllocateLogicalAddresses (c : ClientId) :
    Keeps Presents (clientAllocateLogicalAddresses c) := by
  have hP := presents_composable
  refine keeps_bind hP (keeps_update fun s => presents_updateConfiguration rfl) fun _ => ?_
  have hsupported : Keeps Presents (setSupportedDeviceTypes c) := by
    refine keeps_bind hP (presents_of_frames (keeps_replaceHandler 0) (keeps_replaceHandler 0))
      fun _ => ?_
    exact keeps_bind hP (keeps_ask hP _) fun handler =>
      keeps_update fun s => presents_updateConfiguration rfl
  refine keeps_bind hP hsupported fun _ => ?_
  refine keeps_bind hP (keeps_ask hP _) fun types => ?_
  refine keeps_ite (fun _ => keeps_pure hP _) fun _ => ?_
  exact keeps_bind hP (presents_of_frames keeps_observe keeps_observe) fun o =>
    presents_allocateTypes o.pollAcked c types.used

/-- An allocation that succeeds has stored an address. -/
theorem stored_of_allocateTypes {polls : Fin 16 → Bool} {c : ClientId} {ts : List DeviceType}
    {s s' : World} (hts : ts.Nodup) (hne : ts ≠ [])
    (h : Returns (allocateTypes polls c ts) s true s') : ∃ a, s'.stored c a := by
  cases ts with
  | nil => exact absurd rfl hne
  | cons t ts =>
    obtain ⟨r, s₁, -, h⟩ := returns_bind.mp h
    cases r with
    | none => exact absurd (returns_pure.mp h).1 (by simp)
    | some a =>
      have h := returns_update_bind.mp h
      obtain ⟨halloc, -⟩ := returns_allocateTypes (List.nodup_cons.mp hts).2 h
      exact ⟨a, halloc.grows a ((stored_set s₁ c a a).mpr (.inl rfl))⟩

theorem stored_of_clientAllocate {c : ClientId} {s s' : World}
    (h : Returns (clientAllocateLogicalAddresses c) s true s') : ∃ a, s'.stored c a := by
  have h := returns_update_bind.mp h
  obtain ⟨_, t, ht, h⟩ := returns_bind.mp h
  have h := returns_ask_bind.mp h
  split at h
  · exact absurd (returns_pure.mp h).1 (by simp)
  next hempty =>
  obtain ⟨o, t', -, h⟩ := returns_bind.mp h
  obtain ⟨hstart, -⟩ := starts_setSupportedDeviceTypes ht
  have hnodup : (t.configuration c).deviceTypes.used.Nodup := by
    rw [hstart.settings]
    exact (used_supportedTypes _ _).1
  exact stored_of_allocateTypes hnodup (fun hnil => hempty (isEmpty_iff_used.mpr hnil)) h

theorem keeps_vendor_insertClient (c : ClientId) (a : Fin 16) :
    Keeps VendorFrame (insertClient c a) := by
  have hV := vendorFrame_composable
  refine keeps_bind hV (keeps_ask hV _) fun pa => ?_
  refine keeps_bind hV (keeps_callOr hV (keeps_vendor_setPhysicalAddress a pa)) fun _ => ?_
  exact keeps_update fun s => .of_devices rfl (.of_client rfl)

/-- After the search, the devices that are handled and the list of the client stay as they are. -/
theorem allocateLogicalAddresses_search {c : ClientId} {s s' : World} {ok : Bool}
    (h : Returns (allocateLogicalAddresses c) s ok s') :
    ∃ t, Returns (clientAllocateLogicalAddresses c) (s.withoutEntries c) ok t ∧
      VendorFrame t s' ∧
        (s'.configuration c).logicalAddresses = (t.configuration c).logicalAddresses := by
  have h := returns_ask_bind.mp (returns_update_bind.mp h)
  obtain ⟨_, s₁, h₁, h⟩ := returns_bind.mp h
  obtain ⟨allocated, t, ht, h⟩ := returns_bind.mp h
  have hs₁ : s₁ = s.withoutEntries c := by
    rw [returns_eraseClients h₁, configuration_updateClient]
    rfl
  rw [hs₁] at ht
  have hV := vendorFrame_composable
  cases allocated with
  | false =>
    obtain ⟨rfl, rfl⟩ := returns_pure.mp h
    exact ⟨s', ht, hV.refl _, rfl⟩
  | true =>
    have h := returns_ask_bind.mp h
    obtain ⟨_, s₃, h₃, h⟩ := returns_bind.mp h
    obtain ⟨_, s₄, h₄, h⟩ := returns_bind.mp h
    obtain ⟨_, s₅, h₅, h⟩ := returns_bind.mp h
    have h := returns_update_bind.mp h
    obtain ⟨rfl, rfl⟩ := returns_pure.mp h
    obtain ⟨o, ho⟩ := returns_discard.mp h₅
    obtain ⟨_, s₆, h₆, ho⟩ := returns_bind.mp ho
    obtain ⟨-, rfl⟩ := returns_pure.mp ho
    have hdetect : VendorFrame t s₃ := keeps_callOr hV
      (keeps_discard (ClientSteps.keeps_autodetectPhysicalAddress c)) _ _ _ h₃
    have hinsert : VendorFrame s₃ s₄ := keeps_forEach hV (keeps_vendor_insertClient c) _ _ _ _ h₄
    have hmask : VendorFrame s₄ s₅ := keeps_observe _ _ _ h₆
    have hresume : VendorFrame s₅ { s₅ with stallCommunication := false } :=
      .of_devices rfl (.of_client rfl)
    refine ⟨t, ht, hV.trans (hV.trans hdetect hinsert) (hV.trans hmask hresume), ?_⟩
    have hlist : ClientFrame c t s₃ := keeps_callOr (ClientFrame.composable c)
      (keeps_discard (keeps_autodetectPhysicalAddress c)) _ _ _ h₃
    obtain ⟨hins, -⟩ := returns_insertClients h₄
    obtain ⟨-, hobs⟩ := returns_observe.mp h₆
    have hclient : s₅.client = s₃.client := by rw [hobs, hins]
    rw [← hlist.logicalAddresses]
    exact congrArg (fun k : ClientId → Client => (k c).configuration.logicalAddresses) hclient

/-- What allocating the addresses of a client makes of the vendor ids. -/
theorem vendor_allocateLogicalAddresses {c : ClientId} {s s' : World} {ok : Bool}
    (h : Returns (allocateLogicalAddresses c) s ok s') :
    SameIdentity s s' ∧
      (∀ a, s'.isHandled a → s.isHandled a ∨
        (s'.devices a).vendor = (s.withoutEntries c).presentedVendor) ∧
      (ok → ∃ a, s'.stored c a) := by
  obtain ⟨t, ht, hrest, hlist⟩ := allocateLogicalAddresses_search h
  have hsearch : Presents (s.withoutEntries c) t :=
    presents_clientAllocateLogicalAddresses c _ _ _ ht
  have hid : SameIdentity s (s.withoutEntries c) :=
    SameIdentity.flags (s := s) (c := c) (f := fun k => { k with registered := false }) fun _ => rfl
  refine ⟨?_, fun a ha => ?_, fun hok => ?_⟩
  · exact sameIdentity_composable.trans hid
      (sameIdentity_composable.trans hsearch.identity hrest.identity)
  · have ht : t.isHandled a := (hrest.handled a).symm.trans ha
    rcases hsearch.claimed a ht with hs | hv
    · exact .inl hs
    · exact .inr ((hrest.vendor a ht).trans hv)
  · subst hok
    obtain ⟨a, ha⟩ := stored_of_clientAllocate ht
    rw [World.stored] at ha
    exact ⟨a, by rwa [World.stored, hlist]⟩

/-! ### Getting ready -/

theorem identity_applied (m : Configuration) : (Configuration.applied m m).identity = m.identity := by
  obtain ⟨wake, source, h⟩ := Configuration.copySettings_fields
    ((((if m.callbacks.isSome then m.enableCallbacks m.callbackParam m.callbacks else m).setClientVersion
      m.clientVersion).setOSDName m.strDeviceName).setTVVendorOverride m.tvVendor) m
  simp only [Configuration.applied, h]
  rfl

theorem SameIdentity.clientFrame {c : ClientId} {s t : World} (h : ClientFrame c s t) :
    SameIdentity s t := by
  intro d
  rcases eq_or_ne d c with rfl | hd
  · have hid : (t.configuration d).iDeviceVendorId = (s.configuration d).iDeviceVendorId :=
      (congrArg Configuration.iDeviceVendorId h.settings :)
    have hmonitor : (t.configuration d).bMonitorOnly = (s.configuration d).bMonitorOnly :=
      (congrArg Configuration.bMonitorOnly h.settings :)
    rw [Configuration.identity, Configuration.identity, hid, hmonitor]
  · rw [World.configuration, World.configuration, h.others d hd]

section registration

variable {react : Reaction → Proc Unit} (hbus : ∀ K, ReactionsKeep (BusFrame K) react)
  (hvendor : ReactionsKeep VendorFrame react) {reregister : ClientId → Proc Bool} {c : ClientId}
  (hagain : Keeps SameIdentity (reregister c))

include hbus hagain

theorem sameIdentity_setConfiguration {s s' : World}
    (h : Returns (setConfiguration react reregister c (s.configuration c)) s () s') :
    SameIdentity s s' := by
  obtain ⟨t, u, ht, hu, hcase⟩ := setConfiguration_cases hbus h
  have ht := returns_applySettings ht
  have happlied : SameIdentity s t :=
    sameIdentity_composable.trans (SameIdentity.update (identity_applied (s.configuration c)))
      (.of_client ht.client)
  have hmove : SameIdentity t u := .clientFrame (keeps_applyPhysicalAddress hbus c _ _ _ _ hu)
  refine sameIdentity_composable.trans happlied (sameIdentity_composable.trans hmove ?_)
  rcases hcase with ⟨-, ok, hre⟩ | hrest
  · exact hagain _ _ _ hre
  · exact .of_client hrest.client

theorem sameIdentity_prepareRegistration :
    Keeps SameIdentity (prepareRegistration react reregister c) :=
  ClientSteps.keeps_prepareRegistration sameIdentity_composable VendorFrame.identity
    (fun _ => .of_client rfl)
    (fun _ _ _ h d => congrArg _ ((returns_unregisterClient h).configurations d))
    fun _ _ _ h => sameIdentity_setConfiguration hbus hagain h

include hvendor

theorem sameIdentity_registerClientWith :
    Keeps SameIdentity (registerClientWith react reregister c) :=
  ClientSteps.keeps_registerClientWith sameIdentity_composable VendorFrame.identity hvendor
    (sameIdentity_prepareRegistration hbus hagain)
    fun _ _ _ h => (vendor_allocateLogicalAddresses h).1

end registration

theorem sameIdentity_registerClient (n : ℕ) (c : ClientId) :
    Keeps SameIdentity (registerClient n c) := by
  induction n with
  | zero => exact fun _ _ _ h => (not_returns_stuck h).elim
  | succ n ih =>
    exact sameIdentity_registerClientWith (fun K => reactionsKeep_react (R := BusFrame K) n)
      (reactionsKeep_react (R := VendorFrame) n) ih

/-! ### What `RegisterClient` presents -/

theorem withoutEntries_clients (w : World) (c : ClientId) (a : Fin 16) :
    (w.withoutEntries c).clients a = if w.stored c a then none else w.clients a := by
  rw [World.withoutEntries, World.stored]
  simp only [LogicalAddresses.mem_toList]

/-- What holds while a client gets ready: the entries of the others are those that the call has
    found. -/
structure Readies (c : ClientId) (s t : World) : Prop where
  held : Held t
  noTv : ¬t.asksForTv c
  entries : ∀ a, (t.withoutEntries c).clients a = (s.withoutEntries c).clients a

namespace Readies

variable {c : ClientId} {s t u : World}

theorem frame (h : OwnerFrame c t u) (ht : Readies c s t) : Readies c s u where
  held := ht.held.frame h
  noTv htv := ht.noTv (h.asksForTv htv)
  entries a := by rw [← ht.entries a, withoutEntries_clients, withoutEntries_clients, h.stored, h.clients]

theorem unregisters (h : Unregisters c t u) (ht : Readies c s t) : Readies c s u where
  held := ht.held.unregisters h
  noTv htv := ht.noTv (h.asksForTv.mp htv)
  entries a := by
    rw [← ht.entries a, withoutEntries_clients, withoutEntries_clients, h.stored]
    split
    · rfl
    · next hold => exact (h.kept a hold).1

/-- A new address is taken from nobody. -/
theorem reallocates {ok : Bool} (h : Reallocates c ok t u) (ht : Readies c s t) : Readies c s u where
  held := .reallocates h (fun a h0 _ => ht.held.handled a h0) ht.held.stored
  noTv htv := by
    refine ht.noTv ?_
    rcases htv with htv | ⟨hrom, htv⟩
    · exact .inl (h.types htv)
    · exact .inr ⟨h.rom ▸ hrom, h.eeprom ▸ htv⟩
  entries a := by
    rw [← ht.entries a, withoutEntries_clients, withoutEntries_clients]
    by_cases hnew : u.stored c a
    · rw [if_pos hnew]
      rcases h.taken a hnew with rfl | ⟨hother, -⟩
      · exact absurd (.inl (h.tv hnew)) ht.noTv
      have h0 : a ≠ 0 := by
        rintro rfl
        exact ht.noTv (.inl (h.tv hnew))
      have hnone : t.clients a = none := by
        rw [← Option.not_isSome_iff_eq_none]
        intro hsome
        exact absurd (hother.symm.trans (ht.held.handled a h0 hsome)) Bool.false_ne_true
      rw [hnone, ite_self]
    · rw [if_neg hnew]
      have hin : ¬(ok = true ∧ u.stored c a) := fun hin => hnew hin.2
      split
      · next hold => exact h.erased a hin hold
      · next hold => exact h.kept a hin hold

end Readies

/-- A successful registration: nothing is done for a client that only monitors; any other one gets
    ready, and its addresses are allocated. -/
theorem registerClient_succeeds {n : ℕ} {c : ClientId} {s s' : World}
    (h : Returns (registerClient n c) s true s') :
    (s.configuration c).bMonitorOnly = 1 ∧ s' = s ∨
      (s.configuration c).bMonitorOnly ≠ 1 ∧ ∃ m s₁ s₂,
        Returns (prepareRegistration (react m) (registerClient m) c) s true s₁ ∧
        Returns (allocateLogicalAddresses c) s₁ true s₂ ∧
        Returns (completeRegistration (react m) c) s₂ true s' := by
  cases n with
  | zero => exact (not_returns_stuck h).elim
  | succ m =>
    have h := returns_ask_bind.mp h
    split at h
    · next hmonitor => exact .inl ⟨hmonitor, (returns_pure.mp h).2⟩
    next hmonitor =>
    split at h
    · exact absurd (returns_pure.mp h).1 (by simp)
    obtain ⟨ready, s₁, h₁, h⟩ := returns_bind.mp h
    cases ready with
    | false => exact absurd (returns_pure.mp h).1 (by simp)
    | true =>
      obtain ⟨allocated, s₂, h₂, h⟩ := returns_bind.mp h
      cases allocated with
      | false =>
        obtain ⟨_, s₃, -, h⟩ := returns_bind.mp h
        exact absurd (returns_pure.mp h).1 (by simp)
      | true => exact .inr ⟨hmonitor, m, s₁, s₂, h₁, h₂, h⟩

/-- The devices of a client that was registered present the vendor id of the primary client among
    the entries of the others. -/
theorem vendor_registerClient {n : ℕ} {c : ClientId} {s s' : World} (hs : Held s)
    (htv : ¬s.asksForTv c) (hmonitor : (s.configuration c).bMonitorOnly ≠ 1)
    (h : Returns (registerClient n c) s true s') :
    (∃ a, s'.stored c a) ∧
      ∀ a, s'.stored c a → (s'.devices a).vendor = (s.withoutEntries c).presentedVendor := by
  rcases registerClient_succeeds h with ⟨honly, -⟩ | ⟨-, m, s₁, s₂, h₁, h₂, h₃⟩
  · exact absurd honly hmonitor
  have hbus := fun K => reactionsKeep_react (R := BusFrame K) m
  have hready : Readies c s s₁ :=
    prepareRegistration_invariant hbus (fun h ht => ht.frame h) (fun h ht => ht.unregisters h)
      (registerClient_invariant (fun h ht => ht.frame h) (fun h ht => ht.unregisters h)
        fun h ht => ht.reallocates h) h₁ ⟨hs, htv, fun _ => rfl⟩
  have hid : SameIdentity s s₁ :=
    sameIdentity_prepareRegistration hbus (sameIdentity_registerClient m c) _ _ _ h₁
  have hpresented : (s₁.withoutEntries c).presentedVendor = (s.withoutEntries c).presentedVendor := by
    refine presentedVendor_congr (funext hready.entries) fun d => ?_
    have hsame : ∀ w : World, (w.withoutEntries c).configuration d = w.configuration d := fun w => by
      rcases eq_or_ne d c with rfl | hd
      · exact withoutEntries_configuration w d
      · rw [World.configuration, withoutEntries_client, updateClient_client, if_neg hd]
        rfl
    rw [hsame, hsame, hid d]
  obtain ⟨-, hclaimed, hsome⟩ := vendor_allocateLogicalAddresses h₂
  have halloc := returns_allocateLogicalAddresses h₂
  have howner : OwnerFrame c s₂ s' := keeps_completeRegistration hbus _ _ _ h₃
  have hvendor : VendorFrame s₂ s' :=
    ClientSteps.keeps_completeRegistration (reactionsKeep_react (R := VendorFrame) m) c _ _ _ h₃
  refine ⟨?_, fun a ha => ?_⟩
  · obtain ⟨a, ha⟩ := hsome rfl
    exact ⟨a, (howner.stored c a).trans ha⟩
  · rw [howner.stored] at ha
    rcases halloc.taken a ha with rfl | ⟨hother, hhandled⟩
    · exact absurd (.inl (halloc.tv ha)) hready.noTv
    · rw [hvendor.vendor a hhandled, ← hpresented]
      exact (hclaimed a hhandled).resolve_left fun hold =>
        absurd (hother.symm.trans hold) Bool.false_ne_true

/-! ### Runs -/

/-- What holds between the calls of the processor: a client that only monitors has no addresses. -/
structure Listens (w : World) : Prop extends Held w where
  monitors : ∀ d, (w.configuration d).bMonitorOnly = 1 → ∀ a, ¬w.stored d a

theorem listens_atStart {w : World} (h : w.AtStart) : Listens w where
  toHeld := held_atStart h
  monitors d _ a := by
    rw [World.stored, h.addresses d]
    exact Bool.false_ne_true

/-- A call that changes one client, which does not only monitor. -/
theorem Listens.change {c : ClientId} {s t : World} (hs : Listens s) (ht : Held t)
    (hid : SameIdentity s t) (hothers : ∀ d, d ≠ c → t.client d = s.client d)
    (hc : (s.configuration c).bMonitorOnly ≠ 1) : Listens t where
  toHeld := ht
  monitors d hd a := by
    have hsame : (t.configuration d).bMonitorOnly = (s.configuration d).bMonitorOnly :=
      congrArg Prod.snd (hid d)
    rw [hsame] at hd
    have hne : d ≠ c := by
      rintro rfl
      exact hc hd
    rw [World.stored, World.configuration, hothers d hne]
    exact hs.monitors d hd a

theorem Listens.registers {n : ℕ} {c : ClientId} {s s' : World} {ok : Bool} (hs : Listens s)
    (h : Returns (registerClient n c) s ok s') : Listens s' := by
  rcases eq_or_ne (s.configuration c).bMonitorOnly 1 with hmonitor | hmonitor
  · have hnothing : s.RegistersNothing c := .inl hmonitor
    rw [hnothing.eq h]
    exact hs
  · have hothers : ∀ d, d ≠ c → s'.client d = s.client d := by
      refine registerClient_invariant (P := fun t => ∀ d, d ≠ c → t.client d = s.client d)
        ?_ ?_ ?_ h fun _ _ => rfl
      · exact fun h ht d hd => (h.others d hd).trans (ht d hd)
      · exact fun h ht d hd => (h.others d hd).trans (ht d hd)
      · exact fun h ht d hd => (h.others d hd).trans (ht d hd)
    exact hs.change (hs.toHeld.registers h) (sameIdentity_registerClient n c _ _ _ h) hothers hmonitor

theorem Listens.call {call : RegistrationCall} {s s' : World} (hs : Listens s)
    (h : Returns call.run s () s') : Listens s' := by
  cases call with
  | register n c =>
    obtain ⟨ok, hok⟩ := returns_discard.mp h
    exact hs.registers hok
  | unregister c =>
    obtain ⟨ok, hok⟩ := returns_discard.mp h
    have hun := returns_unregisterClient hok
    refine ⟨hs.toHeld.unregisters hun, fun d hd a => ?_⟩
    rw [hun.configurations] at hd
    rw [hun.stored]
    exact hs.monitors d hd a
  | changeDeviceType n c source target =>
    obtain ⟨ok, hok⟩ := returns_discard.mp h
    rcases changeDeviceType_cases hok with rfl | ⟨-, -, hok⟩
    · exact hs
    · refine Listens.registers ⟨hs.toHeld.withTypesChanged c source target, fun d hd a => ?_⟩ hok
      rw [World.withTypesChanged] at hd ⊢
      rw [World.stored]
      rcases eq_or_ne d c with rfl | hne
      · rw [configuration_updateConfiguration] at hd ⊢
        exact hs.monitors d hd a
      · rw [World.configuration, updateConfiguration_client _ _ hne] at hd ⊢
        exact hs.monitors d hd a
  | addressLost b =>
    have hheld := hs.toHeld.losesAddress h
    obtain ⟨client, t, ht, h⟩ := returns_bind.mp h
    obtain ⟨-, hclient, hwhich, -⟩ := returns_handleLogicalAddressLost ht
    have hid : SameIdentity s t := .of_client hclient
    cases client with
    | none =>
      obtain ⟨-, rfl⟩ := returns_pure.mp h
      refine ⟨hheld, fun d hd a => ?_⟩
      rw [World.configuration, hclient] at hd
      rw [stored_congr hclient]
      exact hs.monitors d hd a
    | some c =>
      obtain ⟨ok, hok⟩ := returns_discard.mp h
      obtain ⟨a, ha⟩ := exists_of_clientToReallocate hwhich.symm
      have halloc := returns_allocateLogicalAddresses hok
      refine hs.change (c := c) hheld ?_ (fun d hd => ?_) fun hmonitor => ?_
      · exact sameIdentity_composable.trans hid (vendor_allocateLogicalAddresses hok).1
      · rw [halloc.others d hd, hclient]
      · exact hs.monitors c hmonitor a (hs.toHeld.stored a c ha)

theorem listens_of_run : ∀ {calls : List RegistrationCall} {s s' : World}, Listens s →
    Returns (forEach RegistrationCall.run calls) s () s' → Listens s' := by
  intro calls
  induction calls with
  | nil =>
    intro s s' hs h
    rw [(returns_pure.mp h).2]
    exact hs
  | cons call calls ih =>
    intro s s' hs h
    obtain ⟨_, t, ht, h⟩ := returns_bind.mp h
    exact ih (hs.call ht) h

/-- In every state that a run reaches, registering a client that is no TV makes its devices present
    its vendor id exactly if it only monitors, or if the primary client among the others presents
    the same id. -/
theorem presentsVendor_iff {calls : List RegistrationCall} {s t t' : World} {n : ℕ} {c : ClientId}
    (hstart : s.AtStart) (hrun : Returns (forEach RegistrationCall.run calls) s () t)
    (htv : ¬t.asksForTv c) (h : Returns (registerClient n c) t true t') :
    t'.PresentsVendor c ↔ (t.configuration c).bMonitorOnly = 1 ∨
      (t.withoutEntries c).presentedVendor = (t.configuration c).ownVendor := by
  have hlistens : Listens t := listens_of_run (listens_atStart hstart) hrun
  have hown : (t'.configuration c).ownVendor = (t.configuration c).ownVendor := by
    have hid : (t'.configuration c).iDeviceVendorId = (t.configuration c).iDeviceVendorId :=
      congrArg Prod.fst (sameIdentity_registerClient n c _ _ _ h c)
    rw [Configuration.ownVendor, Configuration.ownVendor, hid]
  rcases eq_or_ne (t.configuration c).bMonitorOnly 1 with hmonitor | hmonitor
  · refine iff_of_true (fun a ha => ?_) (.inl hmonitor)
    have hsame : t' = t := World.RegistersNothing.eq (.inl hmonitor) h
    rw [hsame] at ha
    exact absurd ha (hlistens.monitors c hmonitor a)
  · obtain ⟨⟨a, ha⟩, hvendor⟩ := vendor_registerClient hlistens.toHeld htv hmonitor h
    constructor
    · intro hpresents
      right
      rw [← hvendor a ha, hpresents a ha, hown]
    · intro hcond b hb
      rw [hvendor b hb, hown]
      exact hcond.resolve_left hmonitor

/-- Two clients with the same vendor id: the second one presents it. -/
theorem presentsVendor_second : ∃ t t',
    Returns (forEach RegistrationCall.run [.register 1 0])
      (.start (fun _ => { clientFor [.playbackDevice] with iDeviceVendorId := 0x5CD })
        fun _ => .silent) () t ∧
      Returns (registerClient 1 1) t true t' ∧ t'.PresentsVendor 1 := by
  let s := World.start
    (fun _ => { clientFor [.playbackDevice] with iDeviceVendorId := 0x5CD }) fun _ => .silent
  obtain ⟨_, t, ht⟩ := exists_returns
    (x := forEach RegistrationCall.run [.register 1 0]) (s := s) (by decide +kernel)
  have hsame := ht.of_all (p := fun _ w =>
    decide (.tv ∉ (w.configuration 1).deviceTypes.used) &&
      decide ((w.configuration 1).bGetSettingsFromROM ≠ 1) &&
      decide ((w.withoutEntries 1).presentedVendor = (w.configuration 1).ownVendor) &&
      (registerClient 1 1 w).any (·.1)) (by decide +kernel)
  simp only [Bool.and_eq_true, decide_eq_true_eq] at hsame
  obtain ⟨⟨⟨htypes, hrom⟩, hvendor⟩, hsome⟩ := hsame
  obtain ⟨⟨ok, t'⟩, ht', rfl⟩ := (Option.any_eq_true _ _).mp hsome
  have htv : ¬t.asksForTv 1 := by
    rintro (h | ⟨h, -⟩)
    · exact htypes h
    · exact hrom h
  exact ⟨t, t', ht, ht', (presentsVendor_iff (atStart_start _ _ fun _ => rfl) ht htv ht').mpr
    (.inr hvendor)⟩

/-- The only client presents the vendor id of Pulse-Eight instead of its own. -/
theorem own_vendor_not_presented :
    ¬∀ (calls : List RegistrationCall) (s t t' : World) (n : ℕ) (c : ClientId), s.AtStart →
      Returns (forEach RegistrationCall.run calls) s () t →
        Returns (registerClient n c) t true t' → t'.PresentsVendor c := by
  intro hall
  let s := World.start
    (fun _ => { clientFor [.playbackDevice] with iDeviceVendorId := 0x5CD }) fun _ => .silent
  have hrun : Returns (forEach RegistrationCall.run []) s () s := returns_pure.mpr ⟨rfl, rfl⟩
  have hvendor : (registerClient 1 0 s).any (fun r => r.1 && decide (r.2.stored 0 4) &&
      decide ((r.2.devices 4).vendor ≠ (r.2.configuration 0).ownVendor)) := by decide +kernel
  obtain ⟨⟨ok, t'⟩, ht', hkey⟩ := (Option.any_eq_true _ _).mp hvendor
  simp only [Bool.and_eq_true, decide_eq_true_eq] at hkey
  obtain ⟨⟨rfl, hstored⟩, hne⟩ := hkey
  exact hne (hall [] s s t' 1 0 (atStart_start _ _ fun _ => rfl) hrun ht' 4 hstored)

end CEC
