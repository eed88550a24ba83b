import LibCec.PresentedVendor
import Mathlib.Data.List.Find

/-! Asking for a logical address (`CCECClient::SetLogicalAddress`).

    The address that is asked for goes to the list of the client, and the client is registered
    again. That takes its old addresses away first, the one that is asked for among them, and looks
    for new ones by device type:

        SetLogicalAddress(a) ──▶ RegisterClient
                                   ├─ UnregisterClient           m_clients without the old entries
                                   ├─ logicalAddresses.Clear()   and without a in the list
                                   └─ first free address of each type

    What it gets is the address that was asked for only if that is the first free one of the first
    type. When nothing is found the old addresses are gone as well. -/

namespace CEC
open Schemes Procedure

/-! ### The address that is found -/

/-- The first address of a type that is free. -/
def World.addressFor (w : World) (polls : Fin 16 → Bool) (t : DeviceType) : Option (Fin 16) :=
  if t = .tv then some 0 else (candidates t).find? (w.isFree polls)

/-- The address for the first of the types that are supported. -/
def World.firstAddress (w : World) (c : ClientId) : Option (Fin 16) :=
  (w.supported c).head?.bind (w.addressFor (w.outside 0).pollAcked)

theorem addressFor_congr {s s' : World} (h : ∀ a, (s'.devices a).status = (s.devices a).status)
    (polls : Fin 16 → Bool) : s'.addressFor polls = s.addressFor polls := by
  have hfree : s'.isFree polls = s.isFree polls := by
    funext a
    rw [World.isFree, World.isFree, h a]
  funext t
  rw [World.addressFor, World.addressFor, hfree]

theorem tryLogicalAddresses_eq_find {polls : Fin 16 → Bool} :
    ∀ {as : List (Fin 16)} {s s' : World} {r : Option (Fin 16)}, as.Nodup → 15 ∉ as →
      Returns (tryLogicalAddresses polls as) s r s' → r = as.find? (s.isFree polls)
  | [], _, _, _, _, _, h => (returns_pure.mp h).1
  | a :: as, s, s', r, hnodup, h15, h => by
    obtain ⟨ok, s₁, h₁, h⟩ := returns_bind.mp h
    obtain ⟨ha, has⟩ := List.nodup_cons.mp hnodup
    obtain ⟨hok, htries, -⟩ := returns_tryLogicalAddress (fun ha => h15 (ha ▸ List.mem_cons_self)) h₁
    cases ok with
    | true =>
      rw [if_pos rfl] at h
      rw [List.find?_cons_of_pos hok.symm]
      exact (returns_pure.mp h).1
    | false =>
      rw [if_neg Bool.false_ne_true] at h
      rw [List.find?_cons_of_neg (by rw [← hok]; exact Bool.false_ne_true),
        tryLogicalAddresses_eq_find has (fun h => h15 (List.mem_cons_of_mem a h)) h]
      -- trying an address makes no difference to the others
      exact List.find?_congr fun b hb => htries.isFree (by rintro rfl; exact ha hb) polls

theorem allocateLogicalAddress_eq {polls : Fin 16 → Bool} {t : DeviceType} {s s' : World}
    {r : Option (Fin 16)} (h : Returns (allocateLogicalAddress polls t) s r s') :
    r = s.addressFor polls t := by
  unfold allocateLogicalAddress at h
  unfold World.addressFor
  split at h
  · next htv =>
    rw [if_pos htv]
    exact (returns_pure.mp h).1
  · next htv =>
    rw [if_neg htv]
    exact tryLogicalAddresses_eq_find (nodup_candidates t) (fun h => (candidates_ne h).2 rfl) h

theorem addressFor_ne {w : World} {polls : Fin 16 → Bool} {t : DeviceType} {a : Fin 16}
    (h : w.addressFor polls t = some a) : a ≠ 15 := by
  unfold World.addressFor at h
  split at h
  · obtain rfl := Option.some.inj h
    decide
  · exact (candidates_ne (List.mem_of_find?_eq_some h)).2

/-- A primary address stays the primary one. -/
theorem primary_set {l : LogicalAddresses} (h : l.primary ≠ 15) (a : Fin 16) :
    (l.set a).primary = l.primary := if_neg h

theorem primaryOf_allocateTypes {polls : Fin 16 → Bool} {c : ClientId} :
    ∀ {ts : List DeviceType} {s s' : World} {ok : Bool}, s.primaryOf c ≠ 15 →
      Returns (allocateTypes polls c ts) s ok s' → s'.primaryOf c = s.primaryOf c
  | [], _, _, _, _, h => by rw [(returns_pure.mp h).2]
  | t :: ts, s, s', ok, hset, h => by
    obtain ⟨r, s₁, h₁, h⟩ := returns_bind.mp h
    obtain ⟨-, htries, -⟩ := returns_allocateLogicalAddress h₁
    have hclient : s₁.primaryOf c = s.primaryOf c := by
      rw [World.primaryOf, World.configuration, htries.onlyDevices]
      rfl
    cases r with
    | none =>
      rw [(returns_pure.mp h).2, hclient]
    | some a =>
      have h := returns_update_bind.mp h
      have hkept : (s₁.updateConfiguration c fun m =>
          { m with logicalAddresses := m.logicalAddresses.set a }).primaryOf c = s.primaryOf c := by
        rw [World.primaryOf, configuration_updateConfiguration, ← hclient]
        exact primary_set (hclient.trans_ne hset) a
      rw [primaryOf_allocateTypes (hkept ▸ hset) h, hkept]

/-- The first address that is found for a client without addresses is its primary one. -/
theorem primaryOf_first {polls : Fin 16 → Bool} {c : ClientId} {t : DeviceType}
    {ts : List DeviceType} {s s' : World} (hnodup : ts.Nodup)
    (hclear : (s.configuration c).logicalAddresses = .clear)
    (h : Returns (allocateTypes polls c (t :: ts)) s true s') :
    s.addressFor polls t = some (s'.primaryOf c) ∧ s'.stored c (s'.primaryOf c) := by
  obtain ⟨r, s₁, h₁, h⟩ := returns_bind.mp h
  have hr := allocateLogicalAddress_eq h₁
  obtain ⟨-, htries, -⟩ := returns_allocateLogicalAddress h₁
  cases r with
  | none => exact absurd (returns_pure.mp h).1 (by decide)
  | some a =>
    have h := returns_update_bind.mp h
    have hlist : (s₁.configuration c).logicalAddresses = .clear := by
      rw [World.configuration, htries.onlyDevices]
      exact hclear
    have hfirst : (s₁.updateConfiguration c fun m =>
        { m with logicalAddresses := m.logicalAddresses.set a }).primaryOf c = a := by
      rw [World.primaryOf, configuration_updateConfiguration]
      dsimp only
      rw [hlist]
      rfl
    have hne : a ≠ 15 := addressFor_ne hr.symm
    rw [← hr, primaryOf_allocateTypes (hfirst.symm ▸ hne) h, hfirst]
    obtain ⟨halloc, -⟩ := returns_allocateTypes hnodup h
    exact ⟨rfl, halloc.grows a ((stored_set s₁ c a a).mpr (.inl rfl))⟩

theorem primaryOf_clientAllocateLogicalAddresses {c : ClientId} {s s' : World}
    (h : Returns (clientAllocateLogicalAddresses c) s true s') :
    s.firstAddress c = some (s'.primaryOf c) ∧ s'.stored c (s'.primaryOf c) := by
  have h := returns_update_bind.mp h
  obtain ⟨_, t, ht, h⟩ := returns_bind.mp h
  have h := returns_ask_bind.mp h
  obtain ⟨hstart, hout⟩ := starts_setSupportedDeviceTypes ht
  split at h
  · exact absurd (returns_pure.mp h).1 (by decide)
  next hne =>
  obtain ⟨o, t', ho, h⟩ := returns_bind.mp h
  obtain ⟨rfl, rfl⟩ := returns_observe.mp ho
  have htypes : (t.configuration c).deviceTypes.used = s.supported c := by
    rw [hstart.settings]
    rfl
  rw [World.firstAddress]
  rw [htypes, hout] at h
  cases hsupported : s.supported c with
  | nil => exact absurd (isEmpty_iff_used.mpr (htypes.trans hsupported)) hne
  | cons u us =>
    rw [hsupported] at h
    have hclear : (t.configuration c).logicalAddresses = .clear := by rw [hstart.settings]
    have hnodup : (u :: us).Nodup := hsupported ▸ (used_supportedTypes _ _).1
    obtain ⟨hfirst, hstored⟩ := primaryOf_first
      (s := { t with outside := fun n => s.outside (n + 1) }) (List.nodup_cons.mp hnodup).2 hclear h
    refine ⟨?_, hstored⟩
    exact (congrFun (addressFor_congr (fun a => (hstart.status a).1) _) u).symm.trans hfirst

/-! ### What a registration does to the addresses of a client -/

theorem firstAddress_withoutEntries (w : World) (c : ClientId) :
    (w.withoutEntries c).firstAddress c = w.firstAddress c := by
  have hsupported : (w.withoutEntries c).supported c = w.supported c :=
    supported_congr rfl (withoutEntries_configuration w c)
  have hpolls : (w.withoutEntries c).addressFor = w.addressFor :=
    funext fun polls => addressFor_congr (fun _ => rfl) polls
  rw [World.firstAddress, World.firstAddress, hsupported, hpolls]
  rfl

/-- The first address that is found is the primary one, and the client is entered there. -/
theorem allocated_first {c : ClientId} {s s' : World}
    (h : Returns (allocateLogicalAddresses c) s true s') :
    s.firstAddress c = some (s'.primaryOf c) ∧ s'.clients (s'.primaryOf c) = some c ∧
      s'.stored c (s'.primaryOf c) := by
  have hreallocates := returns_allocateLogicalAddresses h
  obtain ⟨t, ht, -, hlist⟩ := allocateLogicalAddresses_search h
  obtain ⟨hfirst, hstored⟩ := primaryOf_clientAllocateLogicalAddresses ht
  have hprimary : s'.primaryOf c = t.primaryOf c := by rw [World.primaryOf, World.primaryOf, hlist]
  have hstored : s'.stored c (s'.primaryOf c) := by rwa [hprimary, World.stored, hlist]
  rw [firstAddress_withoutEntries, ← hprimary] at hfirst
  exact ⟨hfirst, hreallocates.inserted _ rfl hstored, hstored⟩

section outcome

variable {react : Reaction → Proc Unit} (hreact : ∀ K, ReactionsKeep (BusFrame K) react)
  {reregister : ClientId → Proc Bool} {c : ClientId} {s s' : World} {ok : Bool}

theorem onRegister_true {a : Fin 16} (ha : s.stored c a) (h : Returns (onRegister react c) s ok s') :
    ok = true := by
  have h := returns_ask_bind.mp h
  split at h
  · exact (returns_pure.mp h).1
  split at h
  · next hnil =>
    have hmem : a ∈ (s.configuration c).logicalAddresses.toList := LogicalAddresses.mem_toList.mpr ha
    exact absurd (hnil ▸ hmem) List.not_mem_nil
  · have h := returns_update_bind.mp h
    obtain ⟨_, s₁, _, h⟩ := returns_bind.mp h
    obtain ⟨_, s₂, _, h⟩ := returns_bind.mp h
    exact (returns_pure.mp h).1

theorem completeRegistration_true {a : Fin 16} (ha : s.stored c a)
    (h : Returns (completeRegistration react c) s ok s') : ok = true := by
  obtain ⟨o, s₁, h₁, h⟩ := returns_bind.mp h
  have hbus : BusFrame Set.univ s s₁ := keeps_observe _ _ _ h₁
  have h := returns_update_bind.mp h
  have h := returns_update_bind.mp h
  have h := returns_ask_bind.mp h
  obtain ⟨b, s₂, h₂, h⟩ := returns_bind.mp h
  obtain ⟨_, s₃, _, h⟩ := returns_bind.mp h
  obtain ⟨_, s₄, _, h⟩ := returns_bind.mp h
  rw [(returns_pure.mp h).1]
  refine onRegister_true (a := a) ?_ h₂
  rw [World.stored, configuration_updateClient]
  change (World.configuration (World.updateConfiguration c _ s₁) c).logicalAddresses.isSet a
  rw [configuration_updateConfiguration, World.configuration, hbus.client]
  exact ha

end outcome

/-- A registration that gets to the allocation returns whether that succeeds. -/
theorem registerClient_outcome {n : ℕ} {c : ClientId} {s s' : World} {ok : Bool}
    (h : Returns (registerClient n c) s ok s') :
    (s.configuration c).bMonitorOnly = 1 ∧ ok = true ∧ s' = s ∨
      ((s.configuration c).bMonitorOnly ≠ 1 ∧ s.initialised = false) ∧ ok = false ∧ s' = s ∨
      ∃ m s₁ ready, n = m + 1 ∧ (s.configuration c).bMonitorOnly ≠ 1 ∧ s.initialised ∧
        Returns (prepareRegistration (react m) (registerClient m) c) s ready s₁ ∧
        (ready = false ∧ ok = false ∧ s' = s₁ ∨
          ready = true ∧ ∃ s₂, Returns (allocateLogicalAddresses c) s₁ ok s₂ ∧
            OwnerFrame c s₂ s') := by
  cases n with
  | zero => exact (not_returns_stuck h).elim
  | succ m =>
    have hreact := fun K => reactionsKeep_react (R := BusFrame K) m
    have h := returns_ask_bind.mp h
    split at h
    · next hmonitor => exact .inl ⟨hmonitor, returns_pure.mp h⟩
    next hmonitor =>
    split at h
    · next hinit => exact .inr (.inl ⟨⟨hmonitor, by simpa using hinit⟩, returns_pure.mp h⟩)
    next hinit =>
    obtain ⟨ready, s₁, h₁, h⟩ := returns_bind.mp h
    refine .inr (.inr ⟨m, s₁, ready, rfl, hmonitor, by simpa using hinit, h₁, ?_⟩)
    cases ready with
    | false => exact .inl ⟨rfl, returns_pure.mp h⟩
    | true =>
      obtain ⟨allocated, s₂, h₂, h⟩ := returns_bind.mp h
      cases allocated with
      | false =>
        obtain ⟨_, s₃, h₃, h⟩ := returns_bind.mp h
        obtain ⟨rfl, rfl⟩ := returns_pure.mp h
        have hmask : OwnerFrame c s₂ s' :=
          keeps_discard (keeps_ownerFrame keeps_setAckMask) _ _ _ h₃
        exact .inr ⟨rfl, s₂, h₂, hmask⟩
      | true =>
        obtain rfl := completeRegistration_true (allocated_first h₂).2.2 h
        exact .inr ⟨rfl, s₂, h₂, keeps_completeRegistration hreact _ _ _ h⟩

/-! ### Addresses in force -/

/-- An address of the client is in force: it is in its list, and the client is registered there. -/
def World.InForce (w : World) (c : ClientId) (a : Fin 16) : Prop :=
  w.stored c a ∧ w.clients a = some c

/-- A registered client has an address in force. -/
structure World.IsRegistered (w : World) (c : ClientId) : Prop where
  registered : (w.client c).registered
  address : ∃ a, w.InForce c a

/-- Where the client had an address in the list of `old`, it is registered only if it has it still. -/
def EntriesStored (old : World) (c : ClientId) (w : World) : Prop :=
  ∀ a, old.stored c a → w.clients a = some c → w.stored c a

namespace EntriesStored

variable {old : World} {c : ClientId} {s t : World}

theorem frame (h : OwnerFrame c s t) (hs : EntriesStored old c s) : EntriesStored old c t :=
  fun a hold ha => by
    rw [h.stored]
    exact hs a hold (h.clients ▸ ha)

theorem unregisters (h : Unregisters c s t) (hs : EntriesStored old c s) : EntriesStored old c t :=
  fun a hold ha => by
    obtain ⟨hfree, ha⟩ := h.clients_of ha
    exact absurd (hs a hold ha) hfree

/-- What the client is registered at after an allocation that succeeds is what it was given. -/
theorem of_reallocates {ok : Bool} (h : Reallocates c ok s t) (hs : EntriesStored old c s)
    {a : Fin 16} (hold : old.stored c a) (ha : t.clients a = some c) : ok = true ∧ t.stored c a := by
  by_contra hin
  by_cases hfree : s.stored c a
  · exact absurd ((h.erased a hin hfree).symm.trans ha) nofun
  · exact hfree (hs a hold ((h.kept a hin hfree).symm.trans ha))

theorem reallocates {ok : Bool} (h : Reallocates c ok s t) (hs : EntriesStored old c s) :
    EntriesStored old c t := fun _ hold ha => (of_reallocates h hs hold ha).2

theorem registers {n : ℕ} {ok : Bool} (h : Returns (registerClient n c) s ok t)
    (hs : EntriesStored old c s) : EntriesStored old c t :=
  registerClient_invariant frame unregisters reallocates h hs

end EntriesStored

/-- A registration that gets started and fails takes the addresses of a registered client away. -/
theorem addresses_lost {n : ℕ} {c : ClientId} {s s' : World}
    (hregistered : (s.client c).registered) (hinit : s.initialised)
    (h : Returns (registerClient n c) s false s') {a : Fin 16}
    (ha : s.stored c a) : s'.clients a ≠ some c := by
  rcases registerClient_outcome h with ⟨-, hok, -⟩ | ⟨⟨-, hno⟩, -⟩ |
    ⟨m, s₁, ready, rfl, -, -, h₁, hrest⟩
  · exact Bool.noConfusion hok
  · exact absurd (hno.symm.trans hinit) nofun
  rcases hrest with ⟨rfl, -, rfl⟩ | ⟨rfl, s₂, h₂, hcomplete⟩
  · -- it is unregistered, and the adapter can send from neither address
    obtain ⟨s₀, t, h₀, hown, ⟨-, rfl⟩ | ⟨hready, -⟩⟩ := prepareRegistration_cases h₁
    · rcases h₀ with ⟨-, h₀⟩ | ⟨hno, -⟩
      · rw [hown.clients, (h₀.erased a ha).1]
        nofun
      · exact absurd (hno.symm.trans hregistered) nofun
    · exact Bool.noConfusion hready
  · have hreact := fun K => reactionsKeep_react (R := BusFrame K) m
    have hs₁ : EntriesStored s c s₁ := prepareRegistration_invariant hreact
      EntriesStored.frame EntriesStored.unregisters EntriesStored.registers h₁ fun _ h _ => h
    intro hclient
    rw [hcomplete.clients] at hclient
    exact Bool.noConfusion
      (hs₁.of_reallocates (returns_allocateLogicalAddresses h₂) ha hclient).1

/-! ### `SetLogicalAddress` -/

/-- What `SetLogicalAddress` says: the address is the primary one and belongs to the client, or the
    previous addresses are still in force. -/
structure SetsAddress (c : ClientId) (a : Fin 16) (ok : Bool) (s s' : World) : Prop where
  taken : ok → s'.primaryOf c = a ∧ s'.clients a = some c
  kept : ok = false → s'.primaryOf c = s.primaryOf c ∧ ∀ b, s.InForce c b → s'.InForce c b

/-- The address is given to the client. When it is not registered again, it has to have it already;
    else an address has to be found for each type, and this one for the first. -/
def World.Grants (w : World) (n : ℕ) (c : ClientId) (a : Fin 16) : Prop :=
  if w.primaryOf c = a ∨ (w.configuration c).bMonitorOnly = 1 then w.clients a = some c
  else ∃ t, RegistersIn (w.withAddress c a) n c t ∧ t.canAllocate c (t.outside 0).pollAcked ∧
    t.firstAddress c = some a

theorem withAddress_primaryOf (w : World) (c : ClientId) (a : Fin 16) :
    (w.withAddress c a).primaryOf c = a := by
  rw [World.primaryOf, World.withAddress, configuration_updateConfiguration]
  exact ite_self a

theorem withAddress_monitorOnly (w : World) (c : ClientId) (a : Fin 16) :
    ((w.withAddress c a).configuration c).bMonitorOnly = (w.configuration c).bMonitorOnly := by
  rw [World.withAddress, configuration_updateConfiguration]

theorem withAddress_stored {w : World} {c : ClientId} {a b : Fin 16} (h : w.stored c b) :
    (w.withAddress c a).stored c b := by
  rw [World.stored, World.withAddress, configuration_updateConfiguration]
  exact LogicalAddresses.isSet_set.mpr (.inr h)

theorem withAddress_registered (w : World) (c : ClientId) (a : Fin 16) :
    ((w.withAddress c a).client c).registered = (w.client c).registered := by
  rw [World.withAddress, World.updateConfiguration, updateClient_self]

/-- A registration that succeeds gives the client the first address that is found. -/
theorem primaryOf_registered {n : ℕ} {c : ClientId} {s s' : World}
    (hmonitor : (s.configuration c).bMonitorOnly ≠ 1)
    (h : Returns (registerClient n c) s true s') :
    ∃ t, RegistersIn s n c t ∧ t.canAllocate c (t.outside 0).pollAcked ∧
      t.firstAddress c = some (s'.primaryOf c) ∧ s'.clients (s'.primaryOf c) = some c := by
  rcases registerClient_outcome h with ⟨hyes, -⟩ | ⟨-, hok, -⟩ |
    ⟨m, t, ready, rfl, -, hinit, ht, ⟨-, hok, -⟩ | ⟨rfl, s₂, h₂, hcomplete⟩⟩
  · exact absurd hyes hmonitor
  · exact Bool.noConfusion hok
  · exact Bool.noConfusion hok
  · obtain ⟨hfirst, hclient, -⟩ := allocated_first h₂
    have hprimary : s'.primaryOf c = s₂.primaryOf c := by
      rw [World.primaryOf, World.primaryOf, hcomplete.addresses]
    rw [hprimary, hcomplete.clients]
    exact ⟨t, ⟨hmonitor, hinit, ht⟩, (returns_allocateLogicalAddresses h₂).outcome.symm, hfirst,
      hclient⟩

theorem RegistersIn.unique {s t u : World} {n : ℕ} {c : ClientId} (ht : RegistersIn s n c t)
    (hu : RegistersIn s n c u) : u = t := by
  cases n with
  | zero => exact ht.elim
  | succ n => exact (ht.2.2.unique hu.2.2).2

/-- A registration that fails does so before its allocation, or there. -/
theorem not_canAllocate_of_failed {n : ℕ} {c : ClientId} {s s' t : World}
    (h : Returns (registerClient n c) s false s') (ht : RegistersIn s n c t) :
    ¬t.canAllocate c (t.outside 0).pollAcked := by
  rcases registerClient_outcome h with ⟨-, hok, -⟩ | ⟨⟨-, hno⟩, -⟩ |
    ⟨m, s₁, ready, rfl, -, -, h₁, hrest⟩
  · exact Bool.noConfusion hok
  · cases n with
    | zero => exact ht.elim
    | succ n => exact absurd (hno.symm.trans ht.2.1) nofun
  · obtain ⟨rfl, rfl⟩ := h₁.unique ht.2.2
    rcases hrest with ⟨hready, -⟩ | ⟨-, s₂, h₂, -⟩
    · exact Bool.noConfusion hready
    · rw [← (returns_allocateLogicalAddresses h₂).outcome]
      exact Bool.false_ne_true

/-- When the call fails, the primary address or the entries of the client are others. -/
theorem not_kept_of_failed {n : ℕ} {c : ClientId} {a : Fin 16} {s s' : World}
    (hs : s.IsRegistered c) (hprimary : s.primaryOf c ≠ a)
    (h : Returns (registerClient n c) (s.withAddress c a) false s')
    (hkept : s'.primaryOf c = s.primaryOf c ∧ ∀ b, s.InForce c b → s'.InForce c b) : False := by
  cases hinit : s.initialised with
  | false =>
    rcases registerClient_outcome h with ⟨-, hok, -⟩ | ⟨-, -, rfl⟩ | ⟨-, -, -, -, -, hyes, -⟩
    · exact Bool.noConfusion hok
    · exact hprimary (hkept.1.symm.trans (withAddress_primaryOf s c a))
    · exact absurd (hinit.symm.trans hyes) nofun
  | true =>
    obtain ⟨b, hb⟩ := hs.address
    exact addresses_lost ((withAddress_registered s c a).trans hs.registered) hinit h
      (withAddress_stored hb.1) (hkept.2 b hb).2

/-- `SetLogicalAddress` means what it says just when the address is the first one that is found for
    the client anyway. -/
theorem setLogicalAddress_iff {n : ℕ} {c : ClientId} {a : Fin 16} {s s' : World} {ok : Bool}
    (hs : s.IsRegistered c) (h : Returns (setLogicalAddress n c a) s ok s') :
    SetsAddress c a ok s s' ↔ s.Grants n c a := by
  unfold World.Grants
  have h := returns_ask_bind.mp h
  split at h
  · next hprimary =>
    obtain ⟨rfl, rfl⟩ := returns_pure.mp h
    rw [if_pos (.inl hprimary)]
    exact ⟨fun hsets => (hsets.taken rfl).2, fun ha => ⟨fun _ => ⟨hprimary, ha⟩, nofun⟩⟩
  next hprimary =>
  have h : Returns (registerClient n c) (s.withAddress c a) ok s' := returns_update_bind.mp h
  have hsame := withAddress_monitorOnly s c a
  by_cases hmonitor : (s.configuration c).bMonitorOnly = 1
  · rcases registerClient_outcome h with ⟨-, rfl, rfl⟩ | ⟨⟨hno, -⟩, -⟩ | ⟨-, -, -, -, hno, -⟩
    · rw [if_pos (.inr hmonitor)]
      refine ⟨fun hsets => (hsets.taken rfl).2, fun ha => ⟨fun _ => ⟨?_, ha⟩, nofun⟩⟩
      exact withAddress_primaryOf s c a
    · exact absurd (hsame.trans hmonitor) hno
    · exact absurd (hsame.trans hmonitor) hno
  rw [if_neg (not_or.mpr ⟨hprimary, hmonitor⟩)]
  cases ok with
  | false =>
    refine iff_of_false (fun hsets => not_kept_of_failed hs hprimary h (hsets.kept rfl)) ?_
    rintro ⟨t, ht, hcan, -⟩
    exact not_canAllocate_of_failed h ht hcan
  | true =>
    obtain ⟨t, ht, hcan, hfirst, hclient⟩ := primaryOf_registered (hsame ▸ hmonitor) h
    constructor
    · intro hsets
      rw [(hsets.taken rfl).1] at hfirst
      exact ⟨t, ht, hcan, hfirst⟩
    · rintro ⟨u, hu, -, ha⟩
      obtain rfl := ht.unique hu
      obtain rfl := Option.some.inj (hfirst.symm.trans ha)
      exact ⟨fun _ => ⟨rfl, hclient⟩, nofun⟩

/-- A playback device on a bus where another one comes to address 4 once the client is registered
    there. -/
def secondPlayback : World :=
  World.start (fun _ => clientFor [.playbackDevice]) fun n =>
    if n < 5 then .silent else { Outside.silent with pollAcked := (· = 4) }

/-- That the client is registered at address 4. -/
def World.isRegisteredAt4 (w : World) : Bool :=
  (w.client 0).registered && w.stored 0 4 && decide (w.clients 4 = some 0)

theorem isRegistered_at4 {w : World} (h : w.isRegisteredAt4) : w.IsRegistered 0 := by
  simp only [World.isRegisteredAt4, Bool.and_eq_true, decide_eq_true_eq] at h
  exact ⟨h.1.1, 4, h.1.2, h.2⟩

theorem setLogicalAddress_iff_playback : ∃ s s', Returns (registerClient 1 0) secondPlayback true s ∧
    Returns (setLogicalAddress 1 0 8) s true s' ∧ SetsAddress 0 8 true s s' ∧ s.Grants 1 0 8 := by
  obtain ⟨ok', s', h⟩ := exists_returns
    (x := registerClient 1 0 >>= fun _ => setLogicalAddress 1 0 8) (s := secondPlayback)
    (by decide +kernel)
  have hfinal := h.of_all (p := fun ok w =>
    ok && decide (w.primaryOf 0 = 8) && decide (w.clients 8 = some 0)) (by decide +kernel)
  obtain ⟨ok, s, h₁, h₂⟩ := returns_bind.mp h
  have hstart := h₁.of_all (p := fun ok w => ok && w.isRegisteredAt4) (by decide +kernel)
  simp only [Bool.and_eq_true, decide_eq_true_eq] at hfinal hstart
  obtain ⟨⟨rfl, hprimary⟩, hclient⟩ := hfinal
  obtain ⟨rfl, hregistered⟩ := hstart
  have hsets : SetsAddress 0 8 true s s' := ⟨fun _ => ⟨hprimary, hclient⟩, nofun⟩
  exact ⟨s, s', h₁, h₂, hsets, (setLogicalAddress_iff (isRegistered_at4 hregistered) h₂).mp hsets⟩

/-- A playback device at address 4 on a silent bus asks for address 8: the call succeeds and it is
    at address 4 again. -/
theorem setLogicalAddress_ignored :
    ¬∀ (s s' : World) (ok : Bool), Returns (registerClient 1 0)
      (.start (fun _ => clientFor [.playbackDevice]) fun _ => .silent) true s → s.IsRegistered 0 →
      Returns (setLogicalAddress 1 0 8) s ok s' → SetsAddress 0 8 ok s s' := by
  intro hall
  obtain ⟨ok', s', h⟩ := exists_returns
    (x := registerClient 1 0 >>= fun _ => setLogicalAddress 1 0 8)
    (s := .start (fun _ => clientFor [.playbackDevice]) fun _ => .silent) (by decide +kernel)
  have hfinal := h.of_all (p := fun ok w => ok && decide (w.primaryOf 0 = 4)) (by decide +kernel)
  obtain ⟨ok, s, h₁, h₂⟩ := returns_bind.mp h
  have hstart := h₁.of_all (p := fun ok w => ok && w.isRegisteredAt4) (by decide +kernel)
  simp only [Bool.and_eq_true, decide_eq_true_eq] at hfinal hstart
  obtain ⟨rfl, hprimary⟩ := hfinal
  obtain ⟨rfl, hregistered⟩ := hstart
  have hsets := hall s s' true h₁ (isRegistered_at4 hregistered) h₂
  exact absurd (hprimary.symm.trans (hsets.taken rfl).1) (by decide)

end CEC
