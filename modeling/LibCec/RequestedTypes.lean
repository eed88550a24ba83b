import LibCec.AddressRequest

/-! The addresses that a client owns after it was registered, one for each of its types.

    `SetSupportedDeviceTypes` replaces the types that the TV's handler does not support and drops
    repeated ones; the loop over what is left tries the addresses of one type after the other:

        requested types ──EEPROM──▶ types of the client ──TV's handler──▶ supported types
                                                                          │ one address each
                                                                          └─▶ list, m_clients

    A client whose registration succeeds owns one address for a requested type exactly if the type
    is still there when the allocation starts. -/

namespace CEC
open Schemes Procedure

/-- The client owns one address for each of the types. -/
def World.OwnsEach (w : World) (c : ClientId) (ts : List DeviceType) : Prop :=
  ∀ t ∈ ts, ∃! a, w.InForce c a ∧ deviceType a = t

/-- The list of the client has one address for each of the types, and no others. -/
structure World.ListsEach (w : World) (c : ClientId) (ts : List DeviceType) : Prop where
  one : ∀ t ∈ ts, ∃! a, w.stored c a ∧ deviceType a = t
  only : ∀ a, w.stored c a → deviceType a ∈ ts

theorem inForce_congr {s t : World} {c : ClientId} (hclients : t.clients = s.clients)
    (hlist : (t.configuration c).logicalAddresses = (s.configuration c).logicalAddresses)
    (a : Fin 16) : t.InForce c a ↔ s.InForce c a := by
  rw [World.InForce, World.InForce, World.stored, World.stored, hclients, hlist]

theorem ownsEach_congr {s t : World} {c : ClientId} (hclients : t.clients = s.clients)
    (hlist : (t.configuration c).logicalAddresses = (s.configuration c).logicalAddresses)
    (ts : List DeviceType) : t.OwnsEach c ts ↔ s.OwnsEach c ts := by
  simp only [World.OwnsEach, inForce_congr hclients hlist]

/-- A client that is registered at all addresses of its list owns one for each type of the list. -/
theorem World.ListsEach.ownsEach_iff {w : World} {c : ClientId} {ts us : List DeviceType}
    (h : w.ListsEach c us) (hclients : ∀ a, w.stored c a → w.clients a = some c) :
    w.OwnsEach c ts ↔ ∀ t ∈ ts, t ∈ us := by
  have hown : ∀ a, w.InForce c a ↔ w.stored c a := fun a =>
    ⟨And.left, fun ha => ⟨ha, hclients a ha⟩⟩
  simp only [World.OwnsEach, hown]
  refine ⟨fun howns t ht => ?_, fun hsub t ht => h.one t (hsub t ht)⟩
  obtain ⟨a, ⟨ha, rfl⟩, -⟩ := howns t ht
  exact h.only a ha

/-! ### The loop over the types -/

theorem deviceType_candidates {t : DeviceType} {a : Fin 16} (h : a ∈ candidates t) :
    deviceType a = t := by
  revert a
  cases t <;> decide

theorem deviceType_addressFor {w : World} {polls : Fin 16 → Bool} {t : DeviceType} {a : Fin 16}
    (h : w.addressFor polls t = some a) : deviceType a = t := by
  unfold World.addressFor at h
  split at h
  · next htv =>
    obtain rfl := Option.some.inj h
    exact htv.symm
  · exact deviceType_candidates (List.mem_of_find?_eq_some h)

/-- What the loop adds to the list: one address of each type. -/
theorem stored_allocateTypes {polls : Fin 16 → Bool} {c : ClientId} :
    ∀ {ts : List DeviceType} {s s' : World}, ts.Nodup → Returns (allocateTypes polls c ts) s true s' →
      (∀ t ∈ ts, ∃ a, deviceType a = t ∧
        ∀ b, deviceType b = t → (s'.stored c b ↔ b = a ∨ s.stored c b)) ∧
      ∀ b, deviceType b ∉ ts → (s'.stored c b ↔ s.stored c b)
  | [], s, s', _, h => by
    rw [(returns_pure.mp h).2]
    exact ⟨fun _ => nofun, fun _ _ => Iff.rfl⟩
  | t :: ts, s, s', hnodup, h => by
    obtain ⟨ht, hts⟩ := List.nodup_cons.mp hnodup
    obtain ⟨r, s₁, h₁, h⟩ := returns_bind.mp h
    have hr := allocateLogicalAddress_eq h₁
    obtain ⟨-, htries, -⟩ := returns_allocateLogicalAddress h₁
    cases r with
    | none => exact absurd (returns_pure.mp h).1 nofun
    | some a =>
      have htype := deviceType_addressFor hr.symm
      have hclient : s₁.client = s.client := by rw [htries.onlyDevices]
      have hset : ∀ b, (s₁.updateConfiguration c fun m =>
          { m with logicalAddresses := m.logicalAddresses.set a }).stored c b ↔
            b = a ∨ s.stored c b :=
        fun b => (stored_set s₁ c a b).trans (by rw [stored_congr hclient])
      obtain ⟨hone, hrest⟩ := stored_allocateTypes hts (returns_update_bind.mp h)
      refine ⟨fun u hu => ?_, fun b hb => ?_⟩
      · rcases List.mem_cons.mp hu with rfl | hu
        · refine ⟨a, htype, fun b hb => ?_⟩
          rw [hrest b (hb ▸ ht), hset b]
        · obtain ⟨d, hd, hone⟩ := hone u hu
          refine ⟨d, hd, fun b hb => ?_⟩
          -- the address that was found first is one of another type
          have hne : b ≠ a := by
            rintro rfl
            exact ht ((htype.symm.trans hb).symm ▸ hu)
          rw [hone b hb, hset b, or_iff_right hne]
      · obtain ⟨hbt, hb⟩ := not_or.mp (List.mem_cons.not.mp hb)
        have hne : b ≠ a := by
          rintro rfl
          exact hbt htype
        rw [hrest b hb, hset b, or_iff_right hne]

theorem listsEach_clientAllocateLogicalAddresses {c : ClientId} {s s' : World}
    (h : Returns (clientAllocateLogicalAddresses c) s true s') : s'.ListsEach c (s.supported c) := by
  have h := returns_update_bind.mp h
  obtain ⟨_, t, ht, h⟩ := returns_bind.mp h
  have h := returns_ask_bind.mp h
  obtain ⟨hstart, -⟩ := starts_setSupportedDeviceTypes ht
  split at h
  · exact absurd (returns_pure.mp h).1 nofun
  obtain ⟨o, t', ho, h⟩ := returns_bind.mp h
  obtain ⟨rfl, rfl⟩ := returns_observe.mp ho
  have htypes : (t.configuration c).deviceTypes.used = s.supported c := by
    rw [hstart.settings]
    rfl
  rw [htypes] at h
  obtain ⟨hone, hrest⟩ := stored_allocateTypes (used_supportedTypes _ _).1 h
  have hempty : ∀ a, ¬({ t with outside := fun n => t.outside (n + 1) } : World).stored c a :=
    hstart.stored
  refine ⟨fun u hu => ?_, fun a ha => ?_⟩
  · obtain ⟨a, ha, hone⟩ := hone u hu
    refine ⟨a, ⟨(hone a ha).mpr (.inl rfl), ha⟩, fun b ⟨hb, htype⟩ => ?_⟩
    exact ((hone b htype).mp hb).resolve_right (hempty b)
  · by_contra hno
    exact hempty a ((hrest a hno).mp ha)

theorem supported_withoutEntries (w : World) (c : ClientId) :
    (w.withoutEntries c).supported c = w.supported c :=
  supported_congr rfl (withoutEntries_configuration w c)

/-- After an allocation that succeeds, the client owns one address for each supported type. -/
theorem ownsEach_allocated {c : ClientId} {s s' : World}
    (h : Returns (allocateLogicalAddresses c) s true s') (ts : List DeviceType) :
    s'.OwnsEach c ts ↔ ∀ t ∈ ts, t ∈ s.supported c := by
  obtain ⟨t, ht, -, hlist⟩ := allocateLogicalAddresses_search h
  have hlists := listsEach_clientAllocateLogicalAddresses ht
  rw [supported_withoutEntries] at hlists
  have hstored : ∀ a, s'.stored c a = t.stored c a := fun a => by
    rw [World.stored, World.stored, hlist]
  refine World.ListsEach.ownsEach_iff ⟨fun u hu => ?_, fun a ha => ?_⟩ fun a ha => ?_
  · simp only [hstored]
    exact hlists.one u hu
  · exact hlists.only a (hstored a ▸ ha)
  · exact (returns_allocateLogicalAddresses h).inserted a rfl ha

/-- A registration that succeeds leaves the client with one address for each of the types that are
    supported when its allocation starts; while it only monitors, with what it had. -/
theorem ownsEach_registered {n : ℕ} {c : ClientId} {s s' : World}
    (h : Returns (registerClient n c) s true s') (ts : List DeviceType) :
    (s.configuration c).bMonitorOnly = 1 ∧ s' = s ∨
      (s.configuration c).bMonitorOnly ≠ 1 ∧ ∃ p, RegistersIn s n c p ∧
        p.canAllocate c (p.outside 0).pollAcked ∧
        (s'.OwnsEach c ts ↔ ∀ t ∈ ts, t ∈ p.supported c) := by
  rcases registerClient_outcome h with ⟨hyes, -, hsame⟩ | ⟨-, hok, -⟩ |
    ⟨m, p, ready, rfl, hmonitor, hinit, hp, ⟨-, hok, -⟩ | ⟨rfl, s₂, h₂, hcomplete⟩⟩
  · exact .inl ⟨hyes, hsame⟩
  · exact Bool.noConfusion hok
  · exact Bool.noConfusion hok
  · refine .inr ⟨hmonitor, p, ⟨hmonitor, hinit, hp⟩,
      (returns_allocateLogicalAddresses h₂).outcome.symm, ?_⟩
    rw [ownsEach_congr hcomplete.clients hcomplete.addresses]
    exact ownsEach_allocated h₂ ts

/-! ### The types that are there when the allocation starts -/

section own

variable {react : Reaction → Proc Unit} (hreact : ∀ K, ReactionsKeep (BusFrame K) react)
  {reregister : ClientId → Proc Bool} {c : ClientId} {s s' : World}
include hreact

/-- A client with a valid physical address keeps its types when it sets its own configuration. -/
theorem deviceTypes_setConfiguration_own (hinit : s.initialised)
    (hvalid : isValidPhysicalAddress (s.configuration c).iPhysicalAddress)
    (h : Returns (setConfiguration react reregister c (s.configuration c)) s () s') :
    (s'.configuration c).deviceTypes = (s.configuration c).deviceTypes := by
  obtain ⟨t, u, ht, hu, hcase⟩ := setConfiguration_cases hreact h
  have ht := returns_applySettings ht
  have hframe : ClientFrame c t u := keeps_applyPhysicalAddress hreact c _ _ _ _ hu
  have hbus : BusFrame Set.univ u s' :=
    hcase.resolve_left fun ⟨hmoved, _⟩ => hmoved (primaryAddress_same hinit ht hvalid rfl hu)
  rw [World.configuration, hbus.client, ← World.configuration, hframe.deviceTypes, ht.configuration]
  exact (Configuration.applied_fields _ _).2.2.1

end own

/-- The types that a client with a valid physical address is given addresses for: those that it is
    registered with, as far as the TV's handler supports them. -/
theorem supported_registersIn {n : ℕ} {c : ClientId} {s p : World}
    (hvalid : isValidPhysicalAddress (s.configuration c).iPhysicalAddress)
    (h : RegistersIn s n c p) :
    p.supported c =
      (supportedTypes p.tvHandler ((s.configuration c).typesToRegister s.eeprom)).used := by
  cases n with
  | zero => exact h.elim
  | succ n =>
    obtain ⟨-, hinit, hp⟩ := h
    obtain ⟨s₀, s₁, h₀, hown, ⟨hready, -⟩ | ⟨-, htypes, hset⟩⟩ := prepareRegistration_cases hp
    · exact Bool.noConfusion hready
    have hs₀ : s₀.initialised ∧ isValidPhysicalAddress (s₀.configuration c).iPhysicalAddress := by
      rcases h₀ with ⟨-, h₀⟩ | ⟨-, rfl⟩
      · exact ⟨h₀.initialised.trans hinit, h₀.configuration.symm ▸ hvalid⟩
      · exact ⟨hinit, hvalid⟩
    have hkept := deviceTypes_setConfiguration_own
      (fun K => reactionsKeep_react (R := BusFrame K) n) (hown.initialised.trans hs₀.1)
      (hown.valid hs₀.2) hset
    rw [World.supported, hkept, htypes]

end CEC
