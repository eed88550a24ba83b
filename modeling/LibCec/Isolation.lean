import LibCec.Ownership

/-! What an operation on one client does to the addresses of the others.

    The entries of `m_clients` are erased by the list that a client has stored, not by who is
    registered there. The list stays when the client is unregistered, so a stale one takes away
    what another client was given since, and resets its device:

        A registered at 4 ─▶ A unregistered ─▶ B registered at 4 ─▶ A unregistered
                                                                    │ 4 is in A's list
                                                                    └─▶ B's entry is erased

    In every reachable state an operation on a client whose list names nobody else's address leaves
    the others alone, as long as the TV's address is out of play. `InitHandler` of the TV's handler is
    not part of the operations: Panasonic's sets the configuration of the primary client, which may be
    another one. -/

namespace CEC
open Schemes Procedure

/-! ### Operations -/

/-- The operations on a client. -/
inductive Operation where
  | register
  | unregister
  | setLogicalAddress (a : Fin 16)
  | changeDeviceType (source target : DeviceType)
  | setConfiguration (x : Configuration)

/-- An operation on the client `c`; registrations are nested at most `n` deep. -/
def Operation.run (n : ℕ) (c : ClientId) : Operation → Proc Unit
  | .register => discard (registerClient n c)
  | .unregister => discard (unregisterClient c)
  | .setLogicalAddress a => discard (CEC.setLogicalAddress n c a)
  | .changeDeviceType source target => discard (CEC.changeDeviceType n c source target)
  | .setConfiguration x => CEC.setConfiguration (react n) (registerClient n) c x

/-- What happens to a processor: an operation on a client, or the loss of an address. -/
inductive ProcessorCall where
  | operation (n : ℕ) (c : ClientId) (op : Operation)
  | addressLost (a : Fin 16)

def ProcessorCall.run : ProcessorCall → Proc Unit
  | .operation n c op => op.run n c
  | .addressLost a => CEC.addressLost a

/-- The world in which `SetLogicalAddress` registers the client. -/
def World.withAddress (w : World) (c : ClientId) (a : Fin 16) : World :=
  w.updateConfiguration c fun m =>
    { m with logicalAddresses := { m.logicalAddresses with primary := a }.set a }

/-! ### When an operation leaves the others alone -/

/-- The addresses that the client has stored are nobody else's. -/
def World.OwnsList (w : World) (c : ClientId) : Prop :=
  ∀ a d, w.stored c a → w.clients a = some d → d = c

/-- If somebody else is registered as the TV, its device has a status, so it is not polled. -/
def World.TvSettled (w : World) (c : ClientId) : Prop :=
  ∀ d, w.clients 0 = some d → d ≠ c → (w.devices 0).status ≠ .unknown

/-- The client may be registered without touching anybody else. -/
structure World.MayRegister (w : World) (c : ClientId) : Prop where
  own : w.OwnsList c
  tv : w.TvSettled c
  noTv : ∀ d, w.clients 0 = some d → d ≠ c → ¬w.asksForTv c

/-- `RegisterClient` does nothing. -/
def World.RegistersNothing (w : World) (c : ClientId) : Prop :=
  (w.configuration c).bMonitorOnly = 1 ∨ w.initialised = false

/-- The configured physical address is the one that the client has. -/
def World.KeepsAddress (w : World) (c : ClientId) (x : Configuration) : Prop :=
  isValidPhysicalAddress x.iPhysicalAddress ∧
    (w.configuration c).iPhysicalAddress = x.iPhysicalAddress

/-- When an operation on `c` leaves the other clients alone. -/
def Operation.Isolated (w : World) (c : ClientId) : Operation → Prop
  | .register => w.RegistersNothing c ∨ w.MayRegister c
  | .unregister => w.OwnsList c
  | .setLogicalAddress a =>
    w.primaryOf c = a ∨ (w.withAddress c a).RegistersNothing c ∨ (w.withAddress c a).MayRegister c
  | .changeDeviceType source target =>
    source = target ∨ w.deviceByType c source = none ∨
      (w.withTypesChanged c source target).RegistersNothing c ∨
      (w.withTypesChanged c source target).MayRegister c
  | .setConfiguration x =>
    let v := w.updateConfiguration c (Configuration.applied x)
    v.TvSettled c ∧ (v.RegistersNothing c ∨ w.KeepsAddress c x ∨ v.MayRegister c)

/-! ### What holds in every reachable state -/

/-- Registered addresses are handled, but for the TV's, and stored by the client. -/
structure Held (w : World) : Prop where
  handled : ∀ a, a ≠ 0 → (w.clients a).isSome → w.isHandled a
  stored : ∀ a d, w.clients a = some d → w.stored d a

theorem held_atStart {w : World} (h : w.AtStart) : Held w where
  handled a _ ha := absurd ha (by simp [h.clients a])
  stored a d hd := absurd ((h.clients a).symm.trans hd) nofun

/-- What keeps `m_clients` and the devices, and takes no address from a list, keeps it. -/
theorem Held.of_frame {s t : World} (hs : Held s) (h : DeviceFrame s t)
    (hstored : ∀ d a, s.stored d a → t.stored d a) : Held t where
  handled a h0 ha := by
    rw [h.handled]
    exact hs.handled a h0 (h.clients ▸ ha)
  stored a d hd := hstored d a (hs.stored a d (h.clients ▸ hd))

theorem Held.frame {c : ClientId} {s t : World} (h : OwnerFrame c s t) (hs : Held s) : Held t :=
  hs.of_frame h.toDeviceFrame fun d a ha => by rwa [h.stored]

theorem Held.unregisters {c : ClientId} {s t : World} (h : Unregisters c s t) (hs : Held s) :
    Held t where
  handled a h0 ha := by
    by_cases hold : s.stored c a
    · rw [(h.erased a hold).1] at ha
      exact Bool.noConfusion ha
    · rw [isHandled_congr (h.kept a hold).2.1]
      exact hs.handled a h0 ((h.kept a hold).1 ▸ ha)
  stored a d hd := by
    by_cases hold : s.stored c a
    · exact absurd ((h.erased a hold).1.symm.trans hd) nofun
    · rw [World.stored, h.configurations]
      exact hs.stored a d ((h.kept a hold).1 ▸ hd)

/-- Allocating puts things right: the addresses of the client need not have been handled. -/
theorem Held.reallocates {c : ClientId} {s t : World} {ok : Bool} (h : Reallocates c ok s t)
    (hhandled : ∀ a, a ≠ 0 → ¬s.stored c a → (s.clients a).isSome → s.isHandled a)
    (hstored : ∀ a d, s.clients a = some d → s.stored d a) : Held t where
  handled a h0 ha := by
    by_cases hin : ok = true ∧ t.stored c a
    · exact ((h.taken a hin.2).resolve_left h0).2
    by_cases hold : s.stored c a
    · rw [h.erased a hin hold] at ha
      exact Bool.noConfusion ha
    · exact h.handled a (hhandled a h0 hold (h.kept a hin hold ▸ ha))
  stored a d hd := by
    by_cases hin : ok = true ∧ t.stored c a
    · obtain rfl := Option.some.inj ((h.inserted a hin.1 hin.2).symm.trans hd)
      exact hin.2
    by_cases hold : s.stored c a
    · exact absurd ((h.erased a hin hold).symm.trans hd) nofun
    · have hd' : s.clients a = some d := (h.kept a hin hold).symm.trans hd
      have hne : d ≠ c := by
        rintro rfl
        exact hold (hstored a d hd')
      rw [World.stored, World.configuration, h.others d hne]
      exact hstored a d hd'

theorem Held.registers {n : ℕ} {c : ClientId} {s s' : World} {ok : Bool}
    (h : Returns (registerClient n c) s ok s') (hs : Held s) : Held s' :=
  registerClient_invariant (fun h hs => hs.frame h) (fun h hs => hs.unregisters h)
    (fun h hs => .reallocates h (fun a h0 _ => hs.handled a h0) hs.stored) h hs

/-- Losing an address and allocating again for the client that had it. -/
theorem Held.losesAddress {a : Fin 16} {s s' : World} (hs : Held s)
    (h : Returns (addressLost a) s () s') : Held s' := by
  obtain ⟨client, t, ht, h⟩ := returns_bind.mp h
  obtain ⟨hclients, hclient, hwhich, hhandled⟩ := returns_handleLogicalAddressLost ht
  have hstored : ∀ b d, t.clients b = some d → t.stored d b := fun b d hd => by
    rw [stored_congr hclient]
    exact hs.stored b d (hclients ▸ hd)
  have hkept : ∀ b, b ≠ 0 → b ≠ a → (t.clients b).isSome → t.isHandled b := fun b h0 hne hb => by
    rw [hhandled b, hs.handled b h0 (hclients ▸ hb)]
    simp [h0, hne]
  cases client with
  | none =>
    have hnone : ∀ b, t.clients b = none := fun b => by
      obtain ⟨-, hprimary⟩ := Option.or_eq_none_iff.mp hwhich.symm
      rw [hclients]
      exact List.findSome?_eq_none_iff.mp hprimary b (List.mem_finRange b)
    rw [(returns_pure.mp h).2]
    refine ⟨fun b _ hb => ?_, hstored⟩
    rw [hnone b] at hb
    exact Bool.noConfusion hb
  | some c =>
    obtain ⟨ok, hok⟩ := returns_discard.mp h
    refine .reallocates (returns_allocateLogicalAddresses hok) (fun b h0 hold hb => ?_) hstored
    refine hkept b h0 ?_ hb
    rintro rfl
    -- the client at the lost address is the one whose addresses are allocated again
    obtain ⟨d, hd⟩ := Option.isSome_iff_exists.mp hb
    rw [World.clientToReallocate, ← hclients, hd] at hwhich
    obtain rfl := Option.some.inj hwhich
    exact hold (hstored b c hd)

/-! ### What the others keep -/

/-- The entries of all clients but `c` are kept, and their devices are not reset. -/
def Isolates (c : ClientId) (s t : World) : Prop :=
  ∀ a d, d ≠ c → s.clients a = some d →
    t.clients a = some d ∧ (t.devices a).resets = (s.devices a).resets

theorem isolates_composable (c : ClientId) : Composable (Isolates c) where
  refl _ _ _ _ h := ⟨h, rfl⟩
  trans h₁ h₂ a d hd h :=
    have ht := h₁ a d hd h
    have hu := h₂ a d hd ht.1
    ⟨hu.1, hu.2.trans ht.2⟩

/-- The device of somebody else has a status. -/
theorem Held.settled {c d : ClientId} {a : Fin 16} {s : World} (hs : Held s) (htv : s.TvSettled c)
    (hd : d ≠ c) (ha : s.clients a = some d) : (s.devices a).status ≠ .unknown := by
  rcases eq_or_ne a 0 with rfl | h0
  · exact htv d ha hd
  · have hhandled := hs.handled a h0 (by rw [ha]; rfl)
    rw [of_decide_eq_true hhandled]
    nofun

theorem Held.isolates {c : ClientId} {s t : World} (hs : Held s) (htv : s.TvSettled c)
    (h : DeviceFrame s t) : Isolates c s t := fun a d hd ha =>
  ⟨by rw [h.clients, ha], (h.settled a (hs.settled htv hd ha)).2⟩

/-! ### Registering -/

theorem World.MayRegister.frame {c : ClientId} {s t : World} (hs : s.MayRegister c)
    (h : OwnerFrame c s t) : t.MayRegister c where
  own a d hstored ha := hs.own a d (h.stored c a ▸ hstored) (h.clients ▸ ha)
  tv d hd hne := (h.settled 0 (hs.tv d (h.clients ▸ hd) hne)).1
  noTv d hd hne htv := hs.noTv d (h.clients ▸ hd) hne (h.asksForTv htv)

theorem Unregisters.stored {c : ClientId} {s t : World} (h : Unregisters c s t) (d : ClientId)
    (a : Fin 16) : t.stored d a = s.stored d a := by
  rw [World.stored, World.stored, h.configurations]

theorem Unregisters.asksForTv {c : ClientId} {s t : World} (h : Unregisters c s t) :
    t.asksForTv c ↔ s.asksForTv c :=
  asksForTv_congr h.eeprom (by rw [h.configuration]) (by rw [h.configuration])

/-- Whoever is registered after `c` was unregistered was registered before, and `c` had no part in
    the address. -/
theorem Unregisters.clients_of {c d : ClientId} {a : Fin 16} {s t : World} (h : Unregisters c s t)
    (ha : t.clients a = some d) : ¬s.stored c a ∧ s.clients a = some d := by
  by_cases hold : s.stored c a
  · exact absurd ((h.erased a hold).1.symm.trans ha) nofun
  · exact ⟨hold, (h.kept a hold).1 ▸ ha⟩

theorem World.OwnsList.unregisters {c : ClientId} {s t : World} (hs : s.OwnsList c)
    (h : Unregisters c s t) : Isolates c s t := fun a d hd ha =>
  have hold : ¬s.stored c a := fun hold => hd (hs a d hold ha)
  ⟨(h.kept a hold).1.trans ha, (h.kept a hold).2.2⟩

theorem World.MayRegister.unregisters {c : ClientId} {s t : World} (hs : s.MayRegister c)
    (h : Unregisters c s t) : t.MayRegister c where
  own a d hstored ha := absurd (h.stored c a ▸ hstored) (h.clients_of ha).1
  tv d hd hne := by
    obtain ⟨hold, h0⟩ := h.clients_of hd
    rw [(h.kept 0 hold).2.1]
    exact hs.tv d h0 hne
  noTv d hd hne htv := hs.noTv d (h.clients_of hd).2 hne (h.asksForTv.mp htv)

/-- An address that the client is given was nobody else's. -/
theorem World.MayRegister.taken {c d : ClientId} {a : Fin 16} {s t : World} {ok : Bool}
    (hs : s.MayRegister c) (hheld : Held s) (h : Reallocates c ok s t) (hstored : t.stored c a)
    (ha : s.clients a = some d) : d = c := by
  by_contra hne
  rcases h.taken a hstored with rfl | ⟨hother, -⟩
  · exact hs.noTv d ha hne (.inl (h.tv hstored))
  · have h0 : a ≠ 0 := by
      rintro rfl
      exact hs.noTv d ha hne (.inl (h.tv hstored))
    have hhandled := hheld.handled a h0 (by rw [ha]; rfl)
    exact absurd (hother.symm.trans hhandled) nofun

theorem World.MayRegister.reallocates {c : ClientId} {s t : World} {ok : Bool}
    (hs : s.MayRegister c) (hheld : Held s) (h : Reallocates c ok s t) :
    t.MayRegister c ∧ Isolates c s t := by
  have hkept : Isolates c s t := fun a d hd ha => by
    have hold : ¬s.stored c a := fun hold => hd (hs.own a d hold ha)
    have hin : ¬(ok = true ∧ t.stored c a) := fun hin => hd (hs.taken hheld h hin.2 ha)
    exact ⟨(h.kept a hin hold).trans ha, (h.settled a (hheld.settled hs.tv hd ha)).2⟩
  -- somebody else's entry was there before
  have hbefore : ∀ a d, d ≠ c → t.clients a = some d → s.clients a = some d := fun a d hd ha => by
    have hin : ¬(ok = true ∧ t.stored c a) := fun hin =>
      hd (Option.some.inj (ha.symm.trans (h.inserted a hin.1 hin.2)))
    have hold : ¬s.stored c a := fun hold => by
      exact absurd ((h.erased a hin hold).symm.trans ha) nofun
    exact (h.kept a hin hold).symm.trans ha
  refine ⟨⟨fun a d hstored ha => ?_, fun d hd hne => ?_, fun d hd hne htv => ?_⟩, hkept⟩
  · by_contra hne
    exact hne (hs.taken hheld h hstored (hbefore a d hne ha))
  · exact (h.settled 0 (hheld.settled hs.tv hne (hbefore 0 d hne hd))).1
  · refine hs.noTv d (hbefore 0 d hne hd) hne ?_
    rcases htv with htv | ⟨hrom, htv⟩
    · exact .inl (h.types htv)
    · exact .inr ⟨h.rom ▸ hrom, h.eeprom ▸ htv⟩

/-- Registering a client that may be registered leaves the others alone, also when it is
    registered once more in between. -/
theorem World.MayRegister.registers {n : ℕ} {c : ClientId} {s s' : World} {ok : Bool}
    (hs : s.MayRegister c) (hheld : Held s) (h : Returns (registerClient n c) s ok s') :
    Isolates c s s' := by
  have hc := isolates_composable c
  have hinv : Held s' ∧ s'.MayRegister c ∧ Isolates c s s' := by
    refine registerClient_invariant (P := fun t => Held t ∧ t.MayRegister c ∧ Isolates c s t)
      ?_ ?_ ?_ h ⟨hheld, hs, hc.refl s⟩
    · intro t u hframe ⟨hheld, hmay, hkept⟩
      exact ⟨hheld.frame hframe, hmay.frame hframe,
        hc.trans hkept (hheld.isolates hmay.tv hframe.toDeviceFrame)⟩
    · intro t u hun ⟨hheld, hmay, hkept⟩
      exact ⟨hheld.unregisters hun, hmay.unregisters hun, hc.trans hkept (hmay.own.unregisters hun)⟩
    · intro t u ok hre ⟨hheld, hmay, hkept⟩
      obtain ⟨hmay', hkept'⟩ := hmay.reallocates hheld hre
      exact ⟨.reallocates hre (fun a h0 _ => hheld.handled a h0) hheld.stored, hmay',
        hc.trans hkept hkept'⟩
  exact hinv.2.2

theorem World.RegistersNothing.eq {n : ℕ} {c : ClientId} {s s' : World} {ok : Bool}
    (hs : s.RegistersNothing c) (h : Returns (registerClient n c) s ok s') : s' = s := by
  cases n with
  | zero => exact (not_returns_stuck h).elim
  | succ n =>
    refine (registerClientWith_cases (fun K => reactionsKeep_react (R := BusFrame K) n) h).resolve_right ?_
    rintro ⟨hmonitor, hinit, -⟩
    rcases hs with hs | hs
    · exact hmonitor hs
    · exact absurd (hinit.symm.trans hs) nofun

/-! ### Operations that set something first -/

/-- The settings are rewritten, and everything else stays with its owner. -/
theorem Rewrites.ownerFrame {c : ClientId} {f : Configuration → Configuration} {s t : World}
    (h : Rewrites c f s t) : OwnerFrame c (s.updateConfiguration c f) t := by
  have hconf : t.configuration c = World.configuration (s.updateConfiguration c f) c := by
    rw [h.configuration, configuration_updateConfiguration]
  exact {
    clients := h.clients
    initialised := h.initialised
    stalled := h.stalled
    eeprom := h.eeprom
    handled := h.handled
    settled := h.settled
    unique := h.unique
    others := fun d _ => congrFun h.client d
    addresses := by rw [hconf]
    valid := by rw [hconf]; exact id
    asksForTv :=
      (asksForTv_congr (s := s.updateConfiguration c f) h.eeprom (by rw [hconf]) (by rw [hconf])).mp }

/-- A change of the client's settings that takes no address from its list. -/
theorem Held.updateConfiguration {c : ClientId} {f : Configuration → Configuration} {s : World}
    (hs : Held s) (hf : ∀ a, (s.configuration c).logicalAddresses.isSet a →
      (f (s.configuration c)).logicalAddresses.isSet a) : Held (s.updateConfiguration c f) := by
  refine hs.of_frame deviceFrame_client fun d a ha => ?_
  change (World.configuration (s.updateConfiguration c f) d).logicalAddresses.isSet a
  rcases eq_or_ne d c with rfl | hd
  · rw [configuration_updateConfiguration]
    exact hf a ha
  · rw [World.configuration, updateConfiguration_client s f hd]
    exact ha

theorem Held.withAddress {s : World} (hs : Held s) (c : ClientId) (a : Fin 16) :
    Held (s.withAddress c a) :=
  hs.updateConfiguration fun _ hb => LogicalAddresses.isSet_set.mpr (.inr hb)

theorem Held.withTypesChanged {s : World} (hs : Held s) (c : ClientId)
    (source target : DeviceType) : Held (s.withTypesChanged c source target) :=
  hs.updateConfiguration fun _ hb => hb

/-- Registering after a change of the client's own settings. -/
theorem isolates_registerClient {n : ℕ} {c : ClientId} {s v s' : World} {ok : Bool}
    (hclients : v.clients = s.clients) (hdevices : v.devices = s.devices) (hheld : Held v)
    (hguard : v.RegistersNothing c ∨ v.MayRegister c)
    (h : Returns (registerClient n c) v ok s') : Isolates c s s' := by
  intro a d hd ha
  rw [← hclients] at ha
  rw [← hdevices]
  rcases hguard with hnothing | hmay
  · rw [hnothing.eq h]
    exact ⟨ha, rfl⟩
  · exact hmay.registers hheld h a d hd ha

/-! ### `SetConfiguration` -/

section configuration

variable {n : ℕ} {c : ClientId} {x : Configuration} {s s' : World}

/-- What `SetConfiguration` does before it registers the client, if it does. -/
theorem ownerFrame_setConfiguration
    (h : Returns (setConfiguration (react n) (registerClient n) c x) s () s') : ∃ u,
    OwnerFrame c (s.updateConfiguration c (Configuration.applied x)) u ∧
      (u.configuration c).bMonitorOnly =
        (World.configuration (s.updateConfiguration c (Configuration.applied x)) c).bMonitorOnly ∧
      (¬(s.initialised = true ∧ s.KeepsAddress c x) ∧
          (∃ ok, Returns (registerClient n c) u ok s') ∨
        OwnerFrame c u s') := by
  have hreact := fun K => reactionsKeep_react (R := BusFrame K) n
  obtain ⟨t, u, ht, hu, hcase⟩ := setConfiguration_cases hreact h
  have ht := returns_applySettings ht
  have hframe : ClientFrame c t u := keeps_applyPhysicalAddress hreact c _ _ _ _ hu
  have hmonitor := (congrArg Configuration.bMonitorOnly hframe.settings :)
  refine ⟨u, (ownerFrame_composable c).trans ht.ownerFrame (.ofClientFrame hframe), ?_, ?_⟩
  · rw [configuration_updateConfiguration, ← ht.configuration]
    exact hmonitor
  · rcases hcase with ⟨hmoved, hagain⟩ | hbus
    · refine .inl ⟨fun ⟨hinit, hvalid, hsame⟩ => hmoved ?_, hagain⟩
      exact primaryAddress_same hinit ht hvalid hsame hu
    · exact .inr (.ofBusFrame hbus)

theorem held_applied (hs : Held s) (c : ClientId) (x : Configuration) :
    Held (s.updateConfiguration c (Configuration.applied x)) :=
  hs.updateConfiguration fun a ha => by rwa [(Configuration.applied_fields x _).1]

theorem Held.setConfiguration (hs : Held s)
    (h : Returns (setConfiguration (react n) (registerClient n) c x) s () s') : Held s' := by
  obtain ⟨u, hu, -, hcase⟩ := ownerFrame_setConfiguration h
  have hheld : Held u := (held_applied hs c x).frame hu
  rcases hcase with ⟨-, ok, hagain⟩ | hframe
  · exact hheld.registers hagain
  · exact hheld.frame hframe

theorem isolates_setConfiguration (hs : Held s)
    (hguard : (Operation.setConfiguration x).Isolated s c)
    (h : Returns (setConfiguration (react n) (registerClient n) c x) s () s') :
    Isolates c s s' := by
  have hc := isolates_composable c
  have hheld := held_applied hs c x
  obtain ⟨u, hu, hmonitor, hcase⟩ := ownerFrame_setConfiguration h
  have hkept : Isolates c s u := hheld.isolates hguard.1 hu.toDeviceFrame
  have hsettled : u.TvSettled c := fun d hd hne =>
    (hu.settled 0 (hguard.1 d (hu.clients ▸ hd) hne)).1
  rcases hcase with ⟨hmoves, ok, hagain⟩ | hframe
  · refine hc.trans hkept (isolates_registerClient rfl rfl (hheld.frame hu) ?_ hagain)
    rcases hguard.2 with hnothing | hkeeps | hmay
    · exact .inl (hnothing.imp (hmonitor.trans ·) (hu.initialised.trans ·))
    · cases hinit : s.initialised with
      | true => exact absurd ⟨hinit, hkeeps⟩ hmoves
      | false => exact .inl (.inr (hu.initialised.trans hinit))
    · exact .inr (hmay.frame hu)
  · exact hc.trans hkept ((hheld.frame hu).isolates hsettled hframe.toDeviceFrame)

end configuration

/-! ### Every operation -/

/-- The cases of `SetLogicalAddress`. -/
theorem setLogicalAddress_cases {n : ℕ} {c : ClientId} {a : Fin 16} {s s' : World} {ok : Bool}
    (h : Returns (setLogicalAddress n c a) s ok s') :
    s' = s ∨ s.primaryOf c ≠ a ∧ Returns (registerClient n c) (s.withAddress c a) ok s' := by
  have h := returns_ask_bind.mp h
  split at h
  · exact .inl (returns_pure.mp h).2
  · next hne => exact .inr ⟨hne, returns_update_bind.mp h⟩

theorem Held.operation {n : ℕ} {c : ClientId} {op : Operation} {s s' : World} (hs : Held s)
    (h : Returns (op.run n c) s () s') : Held s' := by
  cases op with
  | register => exact hs.registers (returns_discard.mp h).choose_spec
  | unregister => exact hs.unregisters (returns_unregisterClient (returns_discard.mp h).choose_spec)
  | setLogicalAddress a =>
    obtain ⟨ok, hok⟩ := returns_discard.mp h
    rcases setLogicalAddress_cases hok with rfl | ⟨-, hok⟩
    · exact hs
    · exact (hs.withAddress c a).registers hok
  | changeDeviceType source target =>
    obtain ⟨ok, hok⟩ := returns_discard.mp h
    rcases changeDeviceType_cases hok with rfl | ⟨-, -, hok⟩
    · exact hs
    · exact (hs.withTypesChanged c source target).registers hok
  | setConfiguration x => exact hs.setConfiguration h

theorem Operation.isolates {n : ℕ} {c : ClientId} {op : Operation} {s s' : World} (hs : Held s)
    (hguard : op.Isolated s c) (h : Returns (op.run n c) s () s') : Isolates c s s' := by
  cases op with
  | register =>
    obtain ⟨ok, hok⟩ := returns_discard.mp h
    exact isolates_registerClient rfl rfl hs hguard hok
  | unregister =>
    obtain ⟨ok, hok⟩ := returns_discard.mp h
    exact World.OwnsList.unregisters hguard (returns_unregisterClient hok)
  | setLogicalAddress a =>
    obtain ⟨ok, hok⟩ := returns_discard.mp h
    rcases setLogicalAddress_cases hok with rfl | ⟨hne, hok⟩
    · exact (isolates_composable c).refl _
    · exact isolates_registerClient (v := s.withAddress c a) rfl rfl (hs.withAddress c a)
        (hguard.resolve_left hne) hok
  | changeDeviceType source target =>
    obtain ⟨ok, hok⟩ := returns_discard.mp h
    rcases changeDeviceType_cases hok with rfl | ⟨hne, hprevious, hok⟩
    · exact (isolates_composable c).refl _
    · refine isolates_registerClient (v := s.withTypesChanged c source target) rfl rfl
        (hs.withTypesChanged c source target) ?_ hok
      refine (hguard.resolve_left hne).resolve_left fun hnone => ?_
      rw [hnone] at hprevious
      exact Bool.noConfusion hprevious
  | setConfiguration x => exact isolates_setConfiguration hs hguard h

/-! ### Runs -/

/-- What holds of the registered addresses holds in every state that is reached. -/
theorem held_of_run : ∀ {calls : List ProcessorCall} {s s' : World}, Held s →
    Returns (forEach ProcessorCall.run calls) s () s' → Held s'
  | [], s, s', hs, h => by rw [(returns_pure.mp h).2]; exact hs
  | call :: calls, s, s', hs, h => by
    obtain ⟨_, s₁, h₁, h⟩ := returns_bind.mp h
    refine held_of_run ?_ h
    cases call with
    | operation n c op => exact hs.operation h₁
    | addressLost a => exact hs.losesAddress h₁

/-- In every reachable state, an operation on a client whose addresses are nobody else's leaves the
    entries and the devices of all other clients as they are. -/
theorem isolates_of_run {calls : List ProcessorCall} {s t t' : World} {n : ℕ} {c : ClientId}
    {op : Operation} (hstart : s.AtStart) (hrun : Returns (forEach ProcessorCall.run calls) s () t)
    (hguard : op.Isolated t c) (h : Returns (op.run n c) t () t') : Isolates c t t' :=
  op.isolates (held_of_run (held_atStart hstart) hrun) hguard h

theorem isolates_of_run_register : ∃ t t',
    Returns (forEach ProcessorCall.run [.operation 1 0 .register])
      (.start (fun _ => clientFor [.playbackDevice]) fun _ => .silent) () t ∧
      Returns (Operation.run 1 1 .register) t () t' ∧ Isolates 1 t t' := by
  let s := World.start (fun _ => clientFor [.playbackDevice]) fun _ => .silent
  obtain ⟨_, t, ht⟩ := exists_returns
    (x := forEach ProcessorCall.run [.operation 1 0 .register]) (s := s) (by decide +kernel)
  have hfresh := ht.of_all (p := fun _ w => decide (∀ a, w.stored 1 a = false) &&
    decide (w.clients 0 = none) && (Operation.run 1 1 .register w).isSome) (by decide +kernel)
  simp only [Bool.and_eq_true, decide_eq_true_eq] at hfresh
  obtain ⟨⟨hlist, htv⟩, hsome⟩ := hfresh
  obtain ⟨_, t', ht'⟩ := exists_returns hsome
  have hmay : t.MayRegister 1 := by
    refine ⟨fun a d ha => ?_, fun d hd => ?_, fun d hd => ?_⟩
    · exact absurd (ha.symm.trans (hlist a)) nofun
    · exact absurd (htv.symm.trans hd) nofun
    · exact absurd (htv.symm.trans hd) nofun
  have hguard : Operation.register.Isolated t 1 := Or.inr hmay
  exact ⟨t, t', ht, ht', isolates_of_run (atStart_start _ _ fun _ => rfl) ht hguard ht'⟩

/-- The first client was unregistered and the second took over its address; unregistering the first
    one again takes the address away from the second. -/
theorem unregister_takes_address :
    ¬∀ (calls : List ProcessorCall) (s t t' : World) (n : ℕ) (c : ClientId) (op : Operation),
      s.AtStart → Returns (forEach ProcessorCall.run calls) s () t →
        Returns (op.run n c) t () t' → Isolates c t t' := by
  intro hall
  let s := World.start (fun _ => clientFor [.playbackDevice]) fun _ => .silent
  obtain ⟨_, t, ht⟩ := exists_returns (x := forEach ProcessorCall.run
    [.operation 1 0 .register, .operation 1 0 .unregister, .operation 1 1 .register]) (s := s)
    (by decide +kernel)
  have hrun := ht.of_all (p := fun _ w => decide (w.clients 4 = some 1) &&
    (Operation.run 1 0 .unregister w).any fun r => decide (r.2.clients 4 = none)) (by decide +kernel)
  obtain ⟨howner, hgone⟩ := (Bool.and_eq_true _ _).mp hrun
  obtain ⟨⟨_, t'⟩, ht', hgone⟩ := (Option.any_eq_true _ _).mp hgone
  have hkept := hall _ s t t' 1 0 .unregister (atStart_start _ _ fun _ => rfl) ht ht' 4 1
    (by decide) (of_decide_eq_true howner)
  exact absurd ((of_decide_eq_true hgone).symm.trans hkept.1) nofun

end CEC
