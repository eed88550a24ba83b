import LibCec.RegistrationFrame

/-! Who owns a logical address.

    Three places say so: the status of the bus device, `m_clients`, and the list of the client that
    is registered there. They agree in every state that calls of the processor lead to as long as
    each allocation on the way starts with the client's addresses released and finds an address for
    all of its types or for none. `AllocateLogicalAddresses` erases entries without resetting their
    devices, keeps what it has taken when it fails, and takes the TV's address without trying it. -/

namespace CEC
open Schemes Procedure

/-- The status of each device, `m_clients` and the lists of the clients agree. -/
structure World.Consistent (w : World) : Prop where
  handled : ∀ a, a ≠ 15 → ((w.devices a).status = .handledByLibCec ↔ (w.clients a).isSome)
  stored : ∀ a c, a ≠ 15 → w.clients a = some c → (w.configuration c).logicalAddresses.isSet a

/-- The addresses that the client has stored are released, and an address is found for each type it
    asks for, the TV not among them, or for none. -/
structure World.AllocatesCleanly (w : World) (c : ClientId) : Prop where
  released : ∀ a, w.stored c a → w.isHandled a = false
  found : w.canAllocate c (w.outside 0).pollAcked ∧ .tv ∉ (w.configuration c).deviceTypes.used ∨
    w.cannotStart c (w.outside 0).pollAcked

instance (w : World) (c : ClientId) : Decidable (w.AllocatesCleanly c) :=
  decidable_of_iff ((∀ a, w.stored c a → w.isHandled a = false) ∧
    (w.canAllocate c (w.outside 0).pollAcked ∧ .tv ∉ (w.configuration c).deviceTypes.used ∨
      w.cannotStart c (w.outside 0).pollAcked)) ⟨fun h => ⟨h.1, h.2⟩, fun h => ⟨h.1, h.2⟩⟩

/-! ### The calls -/

/-- The calls that change who owns an address. -/
inductive RegistrationCall where
  | register (n : ℕ) (c : ClientId)
  | unregister (c : ClientId)
  | changeDeviceType (n : ℕ) (c : ClientId) (source target : DeviceType)
  | addressLost (a : Fin 16)

/-- What a call does. -/
def RegistrationCall.run : RegistrationCall → Proc Unit
  | .register n c => discard (registerClient n c)
  | .unregister c => discard (unregisterClient c)
  | .changeDeviceType n c source target => discard (CEC.changeDeviceType n c source target)
  | .addressLost a => CEC.addressLost a

/-- The world in which `ChangeDeviceType` registers the client. -/
def World.withTypesChanged (w : World) (c : ClientId) (source target : DeviceType) : World :=
  w.updateConfiguration c fun m =>
    { m with deviceTypes :=
      ⟨changeTypes source target false m.deviceTypes.types,
        length_changeTypes_deviceTypes source target m⟩ }

/-- `RegisterClient` in `s` gets to the allocation in `t`. -/
def RegistersIn (s : World) : ℕ → ClientId → World → Prop
  | 0, _, _ => False
  | n + 1, c, t => (s.configuration c).bMonitorOnly ≠ 1 ∧ s.initialised ∧
    Returns (prepareRegistration (react n) (registerClient n) c) s true t

/-- The call, made in `s`, gets to the allocation of addresses for a client in `t`. -/
def RegistrationCall.AllocatesIn (s : World) : RegistrationCall → ClientId → World → Prop
  | .register n c, d, t => d = c ∧ RegistersIn s n c t
  | .unregister _, _, _ => False
  | .changeDeviceType n c source target, d, t =>
    d = c ∧ source ≠ target ∧ (s.deviceByType c source).isSome ∧
      RegistersIn (s.withTypesChanged c source target) n c t
  | .addressLost a, d, t => Returns (handleLogicalAddressLost a) s (some d) t

/-- Every allocation that the call gets to is a clean one. -/
def RegistrationCall.Clean (s : World) (call : RegistrationCall) : Prop :=
  ∀ c t, call.AllocatesIn s c t → t.AllocatesCleanly c

/-! ### The invariant -/

/-- What every clean call preserves. A client that has addresses has a valid physical address, so
    that it is not registered again while it is being registered. -/
structure Accounted (w : World) : Prop where
  handled : ∀ a, w.isHandled a ↔ (w.clients a).isSome
  stored : ∀ a c, w.clients a = some c → w.stored c a
  tv : w.clients 0 = none
  placed : ∀ c, (w.configuration c).logicalAddresses = .clear ∨
    isValidPhysicalAddress (w.configuration c).iPhysicalAddress

/-- What holds when the addresses of `c` are about to be allocated. -/
structure Awaits (c : ClientId) (w : World) : Prop where
  handled : ∀ a, ¬w.stored c a → (w.isHandled a ↔ (w.clients a).isSome)
  stored : ∀ a d, w.clients a = some d → w.stored d a
  tv : w.clients 0 = none
  placed : ∀ d, (w.configuration d).logicalAddresses = .clear ∨
    isValidPhysicalAddress (w.configuration d).iPhysicalAddress
  valid : isValidPhysicalAddress (w.configuration c).iPhysicalAddress

theorem Accounted.awaits {c : ClientId} {w : World} (h : Accounted w)
    (hvalid : isValidPhysicalAddress (w.configuration c).iPhysicalAddress) : Awaits c w :=
  ⟨fun a _ => h.handled a, h.stored, h.tv, h.placed, hvalid⟩

theorem Accounted.consistent {w : World} (h : Accounted w) : w.Consistent where
  handled a _ := decide_eq_true_iff.symm.trans (h.handled a)
  stored a c _ := h.stored a c

theorem accounted_atStart {w : World} (h : w.AtStart) : Accounted w where
  handled a := by simp [World.isHandled, h.status a, h.clients a]
  stored a c hc := absurd ((h.clients a).symm.trans hc) nofun
  tv := h.clients 0
  placed c := .inl (h.addresses c)

theorem OwnerFrame.stored {c : ClientId} {s t : World} (h : OwnerFrame c s t) (d : ClientId)
    (a : Fin 16) : t.stored d a = s.stored d a := by
  rw [World.stored, World.stored]
  rcases eq_or_ne d c with rfl | hd
  · rw [h.addresses]
  · rw [World.configuration, World.configuration, h.others d hd]

theorem OwnerFrame.placed {c : ClientId} {s t : World} (h : OwnerFrame c s t) (d : ClientId)
    (hs : (s.configuration d).logicalAddresses = .clear ∨
      isValidPhysicalAddress (s.configuration d).iPhysicalAddress) :
    (t.configuration d).logicalAddresses = .clear ∨
      isValidPhysicalAddress (t.configuration d).iPhysicalAddress := by
  rcases eq_or_ne d c with rfl | hd
  · rw [h.addresses]
    exact hs.imp_right h.valid
  · rwa [World.configuration, h.others d hd]

theorem Accounted.frame {c : ClientId} {s t : World} (h : OwnerFrame c s t) (hs : Accounted s) :
    Accounted t where
  handled a := by
    rw [h.handled, h.clients]
    exact hs.handled a
  stored a d hd := by
    rw [h.stored]
    exact hs.stored a d (h.clients ▸ hd)
  tv := by rw [h.clients, hs.tv]
  placed d := h.placed d (hs.placed d)

/-! ### Releasing and allocating -/

theorem isHandled_congr {s t : World} {a : Fin 16}
    (h : (t.devices a).status = (s.devices a).status) : t.isHandled a = s.isHandled a := by
  rw [World.isHandled, World.isHandled, h]

theorem Unregisters.configurations {c : ClientId} {s t : World} (h : Unregisters c s t)
    (d : ClientId) : t.configuration d = s.configuration d := by
  rcases eq_or_ne d c with rfl | hd
  · exact h.configuration
  · rw [World.configuration, World.configuration, h.others d hd]

/-- Unregistering releases the addresses of the client and leaves the others alone. -/
theorem Accounted.unregisters {c : ClientId} {s t : World} (h : Unregisters c s t)
    (hs : Accounted s) : Accounted t where
  handled a := by
    by_cases ha : s.stored c a
    · rw [World.isHandled, (h.erased a ha).1, (h.erased a ha).2]
      simp
    · rw [isHandled_congr (h.kept a ha).2.1, (h.kept a ha).1]
      exact hs.handled a
  stored a d hd := by
    by_cases ha : s.stored c a
    · exact absurd ((h.erased a ha).1.symm.trans hd) (by simp)
    · rw [World.stored, h.configurations]
      exact hs.stored a d ((h.kept a ha).1 ▸ hd)
  tv := by
    by_cases h0 : s.stored c 0
    · exact (h.erased 0 h0).1
    · rw [(h.kept 0 h0).1, hs.tv]
  placed d := by
    rw [h.configurations]
    exact hs.placed d

/-- With nothing to be found for the first type, the allocation fails. -/
theorem canAllocate_of_cannotStart {w : World} {c : ClientId} {polls : Fin 16 → Bool}
    (h : w.cannotStart c polls) : w.canAllocate c polls = false := by
  rw [World.cannotStart, Bool.or_eq_true] at h
  rw [World.canAllocate]
  rcases h with h | h
  · rw [h]
    rfl
  · rw [World.isBlocked] at h
    obtain ⟨t, ht, hnone⟩ := (Option.any_eq_true _ _).mp h
    have hall : (w.supported c).all (w.findsAddress polls) = false := by
      rw [List.all_eq_false]
      exact ⟨t, List.mem_of_find?_eq_some ht, by simpa using hnone⟩
    rw [hall, Bool.and_false]

/-- A clean allocation leaves everything accounted for. -/
theorem Awaits.reallocates {c : ClientId} {s t : World} {ok : Bool} (hs : Awaits c s)
    (hclean : s.AllocatesCleanly c) (h : Reallocates c ok s t) : Accounted t := by
  -- nothing is taken when the allocation fails
  have hfailed : ok = false → ∀ a, t.isHandled a = s.isHandled a := fun hok a => by
    rcases hclean.found with ⟨hcan, -⟩ | hnone
    · exact absurd ((h.outcome.trans hcan).symm.trans hok) nofun
    · exact h.blocked hnone a
  have htv : ok = true → ¬t.stored c 0 := fun hok h0 => by
    rcases hclean.found with ⟨-, hno⟩ | hnone
    · exact hno (h.tv h0)
    · exact absurd (hok.symm.trans (h.outcome.trans (canAllocate_of_cannotStart hnone))) nofun
  refine ⟨fun a => ?_, fun a d hd => ?_, ?_, fun d => ?_⟩
  · by_cases hin : ok = true ∧ t.stored c a
    · rw [h.inserted a hin.1 hin.2]
      refine iff_of_true ?_ rfl
      rcases h.taken a hin.2 with rfl | ⟨-, ht⟩
      · exact absurd hin.2 (htv hin.1)
      · exact ht
    by_cases hold : s.stored c a
    · rw [h.erased a hin hold]
      refine iff_of_false (fun ha => ?_) nofun
      rcases h.onlyStored a ha with hs' | ht
      · exact absurd ((hclean.released a hold).symm.trans hs') nofun
      · have hok : ok = false := by simpa using fun hok => hin ⟨hok, ht⟩
        rw [hfailed hok a, hclean.released a hold] at ha
        exact Bool.noConfusion ha
    · rw [h.kept a hin hold, ← hs.handled a hold]
      refine ⟨fun ha => ?_, h.handled a⟩
      rcases h.onlyStored a ha with hs' | ht
      · exact hs'
      · have hok : ok = false := by simpa using fun hok => hin ⟨hok, ht⟩
        exact hfailed hok a ▸ ha
  · by_cases hin : ok = true ∧ t.stored c a
    · obtain rfl := Option.some.inj ((h.inserted a hin.1 hin.2).symm.trans hd)
      exact hin.2
    by_cases hold : s.stored c a
    · exact absurd ((h.erased a hin hold).symm.trans hd) nofun
    · have hd' : s.clients a = some d := (h.kept a hin hold).symm.trans hd
      have hne : d ≠ c := by
        rintro rfl
        exact hold (hs.stored a d hd')
      rw [World.stored, World.configuration, h.others d hne]
      exact hs.stored a d hd'
  · have hin : ¬(ok = true ∧ t.stored c 0) := fun hin => htv hin.1 hin.2
    by_cases hold : s.stored c 0
    · exact h.erased 0 hin hold
    · rw [h.kept 0 hin hold, hs.tv]
  · rcases eq_or_ne d c with rfl | hd
    · exact .inr (h.valid hs.valid)
    · rw [World.configuration, h.others d hd]
      exact hs.placed d

/-! ### Registering -/

/-- Everything is accounted for when a registration gets to its allocation. -/
theorem Accounted.prepares {n : ℕ} {c : ClientId} {s t : World} {ready : Bool} (hs : Accounted s)
    (hinit : s.initialised)
    (h : Returns (prepareRegistration (react n) (registerClient n) c) s ready t) :
    Accounted t ∧ (ready → isValidPhysicalAddress (t.configuration c).iPhysicalAddress) := by
  obtain ⟨s₀, s₁, h₀, hown, hcase⟩ := prepareRegistration_cases h
  have hs₀ : Accounted s₀ ∧ s₀.initialised := by
    rcases h₀ with ⟨-, h₀⟩ | ⟨-, rfl⟩
    · exact ⟨hs.unregisters h₀, h₀.initialised.trans hinit⟩
    · exact ⟨hs, hinit⟩
  have hs₁ : Accounted s₁ := hs₀.1.frame hown
  rcases hcase with ⟨rfl, rfl⟩ | ⟨rfl, -, hset⟩
  · exact ⟨hs₁, nofun⟩
  · have hinit₁ : s₁.initialised := hown.initialised.trans hs₀.2
    obtain ⟨u, hu, hvalid, -, hplain⟩ :=
      setConfiguration_own (fun K => reactionsKeep_react (R := BusFrame K) n) hset
    have hbus := hplain hinit₁ (hs₁.placed c).symm
    have hframe : OwnerFrame c u t := .ofBusFrame hbus
    exact ⟨(hs₁.frame hu).frame hframe, fun _ => hframe.valid (hvalid hinit₁)⟩

/-- Registering a client whose addresses can be allocated cleanly. -/
theorem Accounted.registers {n : ℕ} {c : ClientId} {s s' : World} {ok : Bool} (hs : Accounted s)
    (hclean : ∀ t, RegistersIn s n c t → t.AllocatesCleanly c)
    (h : Returns (registerClient n c) s ok s') : Accounted s' := by
  cases n with
  | zero => exact (not_returns_stuck h).elim
  | succ n =>
    rcases registerClientWith_cases (fun K => reactionsKeep_react (R := BusFrame K) n) h with
      rfl | ⟨hmonitor, hinit, s₁, ready, h₁, hrest⟩
    · exact hs
    obtain ⟨hs₁, hvalid⟩ := hs.prepares hinit h₁
    rcases hrest with ⟨-, rfl⟩ | ⟨rfl, allocated, s₂, h₂, hcomplete⟩
    · exact hs₁
    · have hs₂ := (hs₁.awaits (hvalid rfl)).reallocates (hclean s₁ ⟨hmonitor, hinit, h₁⟩)
        (returns_allocateLogicalAddresses h₂)
      exact hs₂.frame hcomplete

theorem Accounted.typesChanged {s : World} (hs : Accounted s) (c : ClientId)
    (source target : DeviceType) : Accounted (s.withTypesChanged c source target) := by
  have hconf : ∀ d,
      ((s.withTypesChanged c source target).configuration d).logicalAddresses =
        (s.configuration d).logicalAddresses ∧
      ((s.withTypesChanged c source target).configuration d).iPhysicalAddress =
        (s.configuration d).iPhysicalAddress := fun d => by
    rw [World.withTypesChanged]
    rcases eq_or_ne d c with rfl | hd
    · rw [configuration_updateConfiguration]
      exact ⟨rfl, rfl⟩
    · rw [World.configuration, updateConfiguration_client _ _ hd]
      exact ⟨rfl, rfl⟩
  refine ⟨hs.handled, fun a d hd => ?_, hs.tv, fun d => ?_⟩
  · rw [World.stored, (hconf d).1]
    exact hs.stored a d hd
  · rw [(hconf d).1, (hconf d).2]
    exact hs.placed d

/-! ### Losing an address -/

theorem isHandled_resetDeviceStatus {a : Fin 16} {s s' : World}
    (h : Returns (resetDeviceStatus a) s () s') (b : Fin 16) :
    s'.isHandled b = (s.isHandled b && b ≠ a) := by
  obtain ⟨-, hreset, hrest⟩ := returns_resetDeviceStatus h
  rcases eq_or_ne b a with rfl | hb
  · simp [World.isHandled, hreset]
  · simp [isHandled_congr (hrest b hb).1, hb]

/-- The client whose addresses are allocated again is registered somewhere. -/
theorem exists_of_clientToReallocate {w : World} {a : Fin 16} {c : ClientId}
    (h : w.clientToReallocate a = some c) : ∃ b, w.clients b = some c := by
  rcases Option.or_eq_some_iff.mp h with hb | ⟨-, hprimary⟩
  · exact ⟨a, hb⟩
  · obtain ⟨b, -, hb⟩ := List.exists_of_findSome?_eq_some hprimary
    exact ⟨b, hb⟩

/-- Up to the allocation only the TV and the lost address are reset. -/
theorem returns_handleLogicalAddressLost {a : Fin 16} {s t : World} {client : Option ClientId}
    (h : Returns (handleLogicalAddressLost a) s client t) :
    t.clients = s.clients ∧ t.client = s.client ∧ client = s.clientToReallocate a ∧
      ∀ b, t.isHandled b = (s.isHandled b && b ≠ 0 && (b ≠ a || b = 15)) := by
  have h := returns_update_bind.mp h
  obtain ⟨_, s₁, h₁, h⟩ := returns_bind.mp h
  obtain ⟨_, s₂, h₂, h⟩ := returns_bind.mp h
  obtain ⟨_, s₃, h₃, h⟩ := returns_bind.mp h
  obtain ⟨rfl, rfl⟩ := returns_ask.mp h
  rw [setDeviceStatus, if_neg (by decide)] at h₁
  have hs₁ := (returns_resetDeviceStatus h₁).1
  have hhandled₁ := isHandled_resetDeviceStatus h₁
  have hs₂ : s₂ = { s₁ with devices := s₂.devices } ∧
      ∀ b, s₂.isHandled b = (s₁.isHandled b && (b ≠ a || b = 15)) := by
    rcases returns_callOr.mp h₂ with ⟨ha, h₂⟩ | ⟨ha, -, rfl⟩
    · rw [setDeviceStatus, if_neg ha.ne] at h₂
      refine ⟨(returns_resetDeviceStatus h₂).1, fun b => ?_⟩
      rw [isHandled_resetDeviceStatus h₂ b]
      rcases eq_or_ne b a with rfl | hb
      · simp [ha.ne]
      · simp [hb]
    · refine ⟨rfl, fun b => ?_⟩
      rcases eq_or_ne b a with rfl | hb
      · have h15 : b = 15 := by omega
        simp [h15]
      · simp [hb]
  have hbus : BusFrame Set.univ s₂ t := keeps_discard (keeps_getVendorId 0 15) _ _ _ h₃
  have hclients : t.clients = s.clients := by rw [hbus.clients, hs₂.1, hs₁]
  refine ⟨hclients, by rw [hbus.client, hs₂.1, hs₁], ?_, fun b => ?_⟩
  · rw [World.clientToReallocate, World.clientToReallocate, World.primaryClient,
      World.primaryClient, hclients]
  · rw [hbus.handled b, hs₂.2 b, hhandled₁ b]
    rfl

/-- When an address is lost that a client has, or there is no client at all. -/
theorem Accounted.losesAddress {a : Fin 16} {s s' : World} (hs : Accounted s)
    (hclean : (RegistrationCall.addressLost a).Clean s) (h : Returns (addressLost a) s () s') :
    Accounted s' := by
  obtain ⟨client, t, ht, h⟩ := returns_bind.mp h
  obtain ⟨hclients, hclient, hwhich, hhandled⟩ := returns_handleLogicalAddressLost ht
  have hconf : ∀ d, t.configuration d = s.configuration d := fun d => by
    rw [World.configuration, World.configuration, hclient]
  have hstored : ∀ b d, t.clients b = some d → t.stored d b := fun b d hd => by
    rw [stored_congr hclient]
    exact hs.stored b d (hclients ▸ hd)
  have hplaced : ∀ d, (t.configuration d).logicalAddresses = .clear ∨
      isValidPhysicalAddress (t.configuration d).iPhysicalAddress := fun d => by
    rw [hconf]
    exact hs.placed d
  cases client with
  | none =>
    have hnone : ∀ b, s.clients b = none := fun b => by
      obtain ⟨-, hprimary⟩ := Option.or_eq_none_iff.mp hwhich.symm
      exact List.findSome?_eq_none_iff.mp hprimary b (List.mem_finRange b)
    rw [(returns_pure.mp h).2]
    refine ⟨fun b => ?_, hstored, by rw [hclients, hs.tv], hplaced⟩
    have hb : s.isHandled b = false := by
      rw [← Bool.not_eq_true, hs.handled b, hnone b]
      simp
    rw [hclients, hnone b, hhandled b, hb]
    rfl
  | some c =>
    obtain ⟨ok, hok⟩ := returns_discard.mp h
    obtain ⟨b, hb⟩ := exists_of_clientToReallocate hwhich.symm
    have hvalid : isValidPhysicalAddress (t.configuration c).iPhysicalAddress := by
      refine (hplaced c).resolve_left fun hclear => ?_
      have hlist := hs.stored b c hb
      rw [World.stored, ← hconf, hclear] at hlist
      exact Bool.noConfusion hlist
    have hawaits : Awaits c t := by
      refine ⟨fun b hb => ?_, hstored, by rw [hclients, hs.tv], hplaced, hvalid⟩
      rw [hclients, hhandled b]
      rcases eq_or_ne b 0 with rfl | h0
      · simp [hs.tv]
      rcases eq_or_ne b a with rfl | hne
      · -- the client at the lost address is the one whose addresses are allocated again
        cases howner : s.clients b with
        | none => simp [← Bool.not_eq_true, hs.handled b, howner]
        | some d =>
          rw [World.clientToReallocate, howner] at hwhich
          obtain rfl := Option.some.inj hwhich
          exact absurd (hstored b c (hclients.symm ▸ howner)) hb
      · simp [h0, hne, hs.handled b]
    exact hawaits.reallocates (hclean c t ht) (returns_allocateLogicalAddresses hok)

/-! ### Runs -/

/-- The cases of `ChangeDeviceType`. -/
theorem changeDeviceType_cases {n : ℕ} {c : ClientId} {source target : DeviceType} {s s' : World}
    {ok : Bool} (h : Returns (changeDeviceType n c source target) s ok s') :
    s' = s ∨ source ≠ target ∧ (s.deviceByType c source).isSome ∧
      Returns (registerClient n c) (s.withTypesChanged c source target) ok s' := by
  rw [changeDeviceType] at h
  split at h
  · exact .inl (returns_pure.mp h).2
  next hne =>
  have h := returns_ask_bind.mp h
  cases hprevious : s.deviceByType c source with
  | none =>
    rw [hprevious] at h
    exact .inl (returns_pure.mp h).2
  | some a =>
    rw [hprevious] at h
    exact .inr ⟨hne, rfl, returns_update_bind.mp h⟩

/-- One clean call. -/
theorem Accounted.call {call : RegistrationCall} {s s' : World} (hs : Accounted s)
    (hclean : call.Clean s) (h : Returns call.run s () s') : Accounted s' := by
  cases call with
  | register n c =>
    obtain ⟨ok, hok⟩ := returns_discard.mp h
    exact hs.registers (fun t ht => hclean c t ⟨rfl, ht⟩) hok
  | unregister c =>
    obtain ⟨ok, hok⟩ := returns_discard.mp h
    exact hs.unregisters (returns_unregisterClient hok)
  | changeDeviceType n c source target =>
    obtain ⟨ok, hok⟩ := returns_discard.mp h
    rcases changeDeviceType_cases hok with rfl | ⟨hne, hprevious, hok⟩
    · exact hs
    · refine (hs.typesChanged c source target).registers (fun t ht => ?_) hok
      exact hclean c t ⟨rfl, hne, hprevious, ht⟩
  | addressLost a => exact hs.losesAddress hclean h

/-- After every run of calls whose allocations are clean, the status of the devices, `m_clients`
    and the lists of the clients agree. -/
theorem consistent_of_clean {calls : List RegistrationCall} {s s' : World} (hstart : s.AtStart)
    (hclean : GuardedCalls RegistrationCall.run RegistrationCall.Clean s calls)
    (h : Returns (forEach RegistrationCall.run calls) s () s') : s'.Consistent :=
  (hclean.invariant (fun _ _ _ hs hguard hcall => hs.call hguard hcall) (accounted_atStart hstart)
    h).consistent

/-- A client that has an address of its own and asks for these device types. -/
def clientFor (types : List DeviceType) : Configuration :=
  { Configuration.clear with
    deviceTypes := types.foldl .add .clear
    iPhysicalAddress := 0x1000
    baseDevice := .unknown
    bActivateSource := 0 }

theorem atStart_start (configuration : ClientId → Configuration) (outside : ℕ → Outside)
    (haddresses : ∀ c, (configuration c).logicalAddresses = .clear) :
    (World.start configuration outside).AtStart :=
  ⟨fun _ => rfl, fun _ => rfl, fun _ => rfl, fun _ => rfl, haddresses⟩

theorem consistent_of_clean_playback : ∃ s',
    Returns (forEach RegistrationCall.run [.register 1 0, .unregister 0])
      (.start (fun _ => clientFor [.playbackDevice]) fun _ => .silent) () s' ∧ s'.Consistent := by
  let s := World.start (fun _ => clientFor [.playbackDevice]) fun _ => .silent
  obtain ⟨_, s', h⟩ := exists_returns
    (x := forEach RegistrationCall.run [.register 1 0, .unregister 0]) (s := s) (by decide)
  have hclean : GuardedCalls RegistrationCall.run RegistrationCall.Clean s
      [.register 1 0, .unregister 0] := by
    refine ⟨?_, fun s₁ _ => ⟨fun _ _ => False.elim, fun _ _ => trivial⟩⟩
    rintro _ t ⟨rfl, -, -, ht⟩
    exact of_decide_eq_true
      (ht.of_all (p := fun _ w => decide (w.AllocatesCleanly 0)) (by decide))
  exact ⟨s', h, consistent_of_clean (atStart_start _ _ fun _ => rfl) hclean h⟩

/-- A client that asks for a playback device and an audio system on a bus with another audio
    system: its registration fails, and the device at address 4 stays marked as handled. -/
theorem registration_leaves_handled :
    ¬∀ (calls : List RegistrationCall) (s s' : World), s.AtStart →
      Returns (forEach RegistrationCall.run calls) s () s' → s'.Consistent := by
  intro hall
  let s := World.start (fun _ => clientFor [.playbackDevice, .audioSystem]) fun _ =>
    { Outside.silent with pollAcked := (· = 5) }
  obtain ⟨_, s', h⟩ := exists_returns (x := forEach RegistrationCall.run [.register 1 0]) (s := s)
    (by decide)
  have hrun := h.of_all (p := fun _ w =>
    decide ((w.devices 4).status = .handledByLibCec) && decide (w.clients 4 = none)) (by decide)
  simp only [Bool.and_eq_true, decide_eq_true_eq] at hrun
  have hcons := hall _ s s' (atStart_start _ _ fun _ => rfl) h
  have hkey := (hcons.handled 4 (by decide)).mp hrun.1
  rw [hrun.2] at hkey
  exact Bool.noConfusion hkey

end CEC
