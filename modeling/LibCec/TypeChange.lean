import LibCec.RequestedTypes

/-! Changing the device types of a client with `SetConfiguration`.

    The list of settings that is copied first contains the device types, so when `SetDeviceTypes`
    compares old and new a moment later they are always the same:

        applySettings            m.deviceTypes := x.deviceTypes
        SetDeviceTypes           x.deviceTypes ≠ m.deviceTypes?      never
        primary device moved?    RegisterClient

    What is left to decide about a new registration is the physical address of the primary device.
    When there is one, the new types are those it is made with, unless the EEPROM's replace them. -/

namespace CEC
open Schemes Procedure

section decision

variable {react : Reaction → Proc Unit} {c : ClientId} {x : Configuration} {s t u : World}

/-- `SetConfiguration` ends in a call of `RegisterClient` that is made in `u`: whatever that call
    does is what becomes of the whole. -/
def RegistersAgain (react : Reaction → Proc Unit) (c : ClientId) (x : Configuration)
    (s u : World) : Prop :=
  ∀ reregister s', Returns (setConfiguration react reregister c x) s () s' ↔
    ∃ ok, Returns (reregister c) u ok s'

/-- The call is made in one world only. -/
theorem RegistersAgain.unique {v : World} (hu : RegistersAgain react c x s u)
    (hv : RegistersAgain react c x s v) : u = v := by
  have hmade : Returns (setConfiguration react (fun _ => pure true) c x) s () u :=
    (hu _ _).mpr ⟨true, returns_pure.mpr ⟨rfl, rfl⟩⟩
  obtain ⟨ok, hok⟩ := (hv _ _).mp hmade
  exact (returns_pure.mp hok).2

theorem returns_applyAddress_of (htypes : (t.configuration c).deviceTypes = x.deviceTypes)
    (hu : Returns (applyPhysicalAddress react c x) t () u) :
    Returns (applyAddress react c x) t false u := by
  refine returns_ask_bind.mpr (returns_bind.mpr ⟨false, t, ?_, ?_⟩)
  · rw [returns_callOr]
    cases t.initialised with
    | false => exact .inr ⟨Bool.false_ne_true, rfl, rfl⟩
    | true =>
      refine .inl ⟨rfl, returns_ask_bind.mpr (returns_update_bind.mpr (returns_pure.mpr ?_))⟩
      refine ⟨by simp [htypes], (updateConfiguration_of_eq ?_).symm⟩
      rw [← htypes]
  · rw [if_neg Bool.false_ne_true]
    exact returns_bind.mpr ⟨(), u, hu, returns_pure.mpr ⟨rfl, rfl⟩⟩

/-- What `SetConfiguration` does once the settings are taken over and the address is set. -/
theorem setConfiguration_eq (ht : Returns (applySettings c x) s () t)
    (hu : Returns (applyPhysicalAddress react c x) t () u) (reregister : ClientId → Proc Bool) :
    setConfiguration react reregister c x s =
      (if (u.devices (u.primaryOf c)).physicalAddress ≠ s.primaryAddress c
        then discard (reregister c)
        else callWhen (x.bActivateSource = 1 ∧ s.initialised ∧
            !(u.devices (u.primaryOf c)).activeSource)
          (discard (activateSource react (s.primaryOf c) 0))) u := by
  have htypes : (t.configuration c).deviceTypes = x.deviceTypes := by
    rw [(returns_applySettings ht).configuration]
    exact (Configuration.applied_fields x _).2.2.1
  rw [setConfiguration, ask_bind, bind_run_of_returns ht,
    bind_run_of_returns (returns_applyAddress_of htypes hu), ask_bind, Bool.false_or,
    World.primaryAddress]
  simp only [ne_eq, decide_not, Bool.not_eq_eq_eq_not, Bool.not_true, decide_eq_false_iff_not, id]

theorem registersAgain_of_moved (ht : Returns (applySettings c x) s () t)
    (hu : Returns (applyPhysicalAddress react c x) t () u)
    (hmoved : (u.devices (u.primaryOf c)).physicalAddress ≠ s.primaryAddress c) :
    RegistersAgain react c x s u := fun reregister s' => by
  rw [Returns, setConfiguration_eq ht hu, if_pos hmoved]
  exact returns_discard

/-- A client is registered again exactly if its primary device was moved. -/
theorem registersAgain_iff (ht : Returns (applySettings c x) s () t)
    (hu : Returns (applyPhysicalAddress react c x) t () u)
    {reregister : ClientId → Proc Bool} {s' : World}
    (h : Returns (setConfiguration react reregister c x) s () s') :
    (∃ v, RegistersAgain react c x s v) ↔
      (u.devices (u.primaryOf c)).physicalAddress ≠ s.primaryAddress c := by
  constructor
  · rintro ⟨v, hv⟩ hsame
    -- the outcome does not depend on what a registration would do
    have hany : Returns (setConfiguration react (fun _ => stuck) c x) s () s' := by
      rw [Returns, setConfiguration_eq ht hu, if_neg (not_not.mpr hsame)]
      rw [Returns, setConfiguration_eq ht hu, if_neg (not_not.mpr hsame)] at h
      exact h
    obtain ⟨ok, hok⟩ := (hv _ _).mp hany
    exact not_returns_stuck hok
  · exact fun hmoved => ⟨u, registersAgain_of_moved ht hu hmoved⟩

end decision

/-! ### Moving the devices of a client -/

theorem pos_of_valid {pa : UInt16} (h : isValidPhysicalAddress pa) : pa > 0 := by
  simp only [isValidPhysicalAddress, Bool.and_eq_true, decide_eq_true_eq] at h
  exact UInt16.lt_of_lt_of_le (by decide) h.1

theorem physicalAddress_readdress {initialised : Bool} {pa : UInt16} (hpa : pa > 0) :
    ∀ {as : List (Fin 16)} {r r' : Option (Fin 16)} {s s' : World},
      Returns (readdress initialised pa as r) s r' s' → ∀ a,
        (s'.devices a).physicalAddress = if a ∈ as then pa else (s.devices a).physicalAddress
  | [], _, _, s, s', h, a => by
    rw [(returns_pure.mp h).2]
    simp
  | b :: as, _, _, s, s', h, a => by
    have hK := busFrame_composable Set.univ
    have h := returns_ask_bind.mp h
    obtain ⟨_, s₁, h₁, h⟩ := returns_bind.mp h
    obtain ⟨_, s₂, h₂, h⟩ := returns_bind.mp h
    obtain ⟨_, s₃, h₃, h⟩ := returns_bind.mp h
    have hquiet : BusFrame Set.univ s s₁ :=
      keeps_callOr hK (keeps_markAsInactiveSource b) _ _ _ h₁
    have hsent : BusFrame Set.univ s₂ s₃ :=
      keeps_callOr hK (keeps_transmitPhysicalAddress b) _ _ _ h₃
    rw [physicalAddress_readdress hpa h a, hsent.physicalAddress a trivial,
      returns_update.mp h₂, updateDevice_devices]
    rcases eq_or_ne a b with rfl | hne
    · simp [hpa]
    · simp [hne, hquiet.physicalAddress a trivial]

section moved

variable {react : Reaction → Proc Unit} (hreact : ∀ K, ReactionsKeep (BusFrame K) react)
  {c : ClientId} {x : Configuration} {s t u : World}
include hreact

theorem physicalAddress_setDevicePhysicalAddress {pa : UInt16} (hpa : isValidPhysicalAddress pa)
    (h : Returns (setDevicePhysicalAddress react c pa) s () t) (a : Fin 16) :
    (t.devices a).physicalAddress = if s.stored c a then pa else (s.devices a).physicalAddress := by
  have hK := busFrame_composable Set.univ
  rw [setDevicePhysicalAddress, if_neg (by simp [hpa])] at h
  have h := returns_ask_bind.mp h
  obtain ⟨r, s₁, h₁, h⟩ := returns_bind.mp h
  have hsource : BusFrame Set.univ s₁ t := by
    cases r with
    | none =>
      rw [(returns_pure.mp h).2]
      exact hK.refl s₁
    | some b =>
      exact keeps_callOr hK (keeps_discard (keeps_activateSource (hreact _) b 0)) _ _ _ h
  rw [hsource.physicalAddress a trivial, physicalAddress_readdress (pos_of_valid hpa) h₁ a]
  simp only [LogicalAddresses.mem_toList]
  rfl

/-- The devices of the client are at the address afterwards, unless the client was configured with
    it before. -/
theorem physicalAddress_clientSetPhysicalAddress {pa : UInt16} (hpa : isValidPhysicalAddress pa)
    (h : Returns (clientSetPhysicalAddress react c pa) s () t) (a : Fin 16) :
    (t.devices a).physicalAddress =
      if (s.configuration c).iPhysicalAddress ≠ pa ∧ s.stored c a then pa
      else (s.devices a).physicalAddress := by
  have h := returns_ask_bind.mp h
  split at h
  · next hsame =>
    rw [(returns_pure.mp h).2]
    simp [hsame]
  · next hne =>
    rw [physicalAddress_setDevicePhysicalAddress hreact hpa (returns_update_bind.mp h) a]
    have hstored : (s.updateConfiguration c fun m =>
        { m with iPhysicalAddress := pa }).stored c a = s.stored c a := by
      rw [World.stored, configuration_updateConfiguration]
      rfl
    rw [hstored]
    simp [hne]

/-- With a valid physical address configured, this is the address that the client is moved to. -/
theorem physicalAddress_applyPhysicalAddress (hx : isValidPhysicalAddress x.iPhysicalAddress)
    (h : Returns (applyPhysicalAddress react c x) s () t) (a : Fin 16) :
    (t.devices a).physicalAddress =
      if (s.configuration c).iPhysicalAddress ≠ x.iPhysicalAddress ∧ s.stored c a
        then x.iPhysicalAddress else (s.devices a).physicalAddress := by
  rw [applyPhysicalAddress, if_pos hx, setConfiguredPhysicalAddress, if_pos hx] at h
  obtain ⟨_, s₁, h₁, h⟩ := returns_bind.mp h
  rw [returns_update.mp h, updateConfiguration_devices]
  exact physicalAddress_clientSetPhysicalAddress hreact hx h₁ a

end moved

/-! ### Without a configured address -/

/-- The world in which `SetHDMIPort` asks the base device for its address. -/
def World.withPort (w : World) (c : ClientId) (iBaseDevice : LogicalAddress) (iPort : UInt8) : World :=
  w.updateConfiguration c fun m =>
    { m with baseDevice := iBaseDevice, iHDMIPort := iPort, bAutodetectAddress := 0 }

/-- The world once the adapter has detected no address. -/
def World.undetected (w : World) (c : ClientId) : World :=
  World.updateConfiguration c (fun m => { m with bAutodetectAddress := 0 })
    { w with outside := fun n => w.outside (n + 1) }

/-- The address that is used for a port: the EEPROM's or else the default one, when the port has
    none. -/
def World.portAddress (w : World) (pa : UInt16) : UInt16 :=
  if isValidPhysicalAddress pa then pa
  else if isValidPhysicalAddress w.eeprom.iPhysicalAddress then w.eeprom.iPhysicalAddress
  else defaultPhysicalAddress

theorem valid_portAddress (w : World) (pa : UInt16) : isValidPhysicalAddress (w.portAddress pa) := by
  unfold World.portAddress
  split_ifs with hport heeprom
  · exact hport
  · exact heeprom
  · rfl

/-- The port is a new one for the client, and its address, as the base device reports it in `v`, is
    neither the client's nor that of its primary device. Should the primary device be the base
    device, it may have learnt its own address by that, too. -/
def PortMoves (c : ClientId) (iBaseDevice : LogicalAddress) (iPort : UInt8) (w : World) : Prop :=
  let m := w.configuration c
  let primary := w.primaryOf c
  ¬(m.baseDevice = iBaseDevice ∧ m.iHDMIPort = iPort ∧ isValidPhysicalAddress m.iPhysicalAddress) ∧
    ∃ pa v, Returns (getPhysicalAddressFromPort c iBaseDevice iPort)
        (w.withPort c iBaseDevice iPort) pa v ∧
      if m.iPhysicalAddress ≠ w.portAddress pa ∧ w.stored c primary then
        w.portAddress pa ≠ (w.devices primary).physicalAddress
      else (v.devices primary).physicalAddress ≠ (w.devices primary).physicalAddress

/-- The primary device of the client ends up at another physical address. With none configured,
    that is the one at the port that is set, else the one that the adapter detects, else the one
    at the first port of the TV. -/
def MovesPrimary (c : ClientId) (x : Configuration) (s : World) : Prop :=
  let primary := s.primaryOf c
  if isValidPhysicalAddress x.iPhysicalAddress then
    (s.configuration c).iPhysicalAddress ≠ x.iPhysicalAddress ∧ s.stored c primary ∧
      (s.devices primary).physicalAddress ≠ x.iPhysicalAddress
  else
    ∃ t, Returns (applySettings c x) s () t ∧
      if x.baseDevice ≠ .unknown ∧ x.iHDMIPort > 0 ∧ x.iHDMIPort ≤ 0xF then
        PortMoves c x.baseDevice x.iHDMIPort t
      else if isValidPhysicalAddress (t.outside 0).detectedPhysicalAddress then
        s.stored c primary ∧
          (s.devices primary).physicalAddress ≠ (t.outside 0).detectedPhysicalAddress
      else PortMoves c .tv 1 (t.undetected c)

/-- Asking for the address of a port leaves the clients alone. -/
theorem keeps_portAddress {c : ClientId} {iBaseDevice : LogicalAddress} {iPort : UInt8} {pa : UInt16}
    {s t : World} (h : Returns (getPhysicalAddressFromPort c iBaseDevice iPort) s pa t) :
    t.client = s.client ∧ t.eeprom = s.eeprom := by
  cases iBaseDevice with
  | unknown =>
    rw [(returns_pure.mp h).2]
    exact ⟨rfl, rfl⟩
  | addr base =>
    have h := returns_ask_bind.mp h
    obtain ⟨_, t', h, hpa⟩ := returns_bind.mp h
    obtain ⟨-, rfl⟩ := returns_pure.mp hpa
    have hframe : BusFrame ∅ s t := keeps_getPhysicalAddress
      (.inl fun _ => keeps_setPhysicalAddress (Set.notMem_empty base) _) _ _ _ _ h
    exact ⟨hframe.client, hframe.eeprom⟩

section moved

variable {react : Reaction → Proc Unit} (hreact : ∀ K, ReactionsKeep (BusFrame K) react)
  {c : ClientId} {x : Configuration} {s t u : World}
include hreact

theorem portMoves_iff {iBaseDevice : LogicalAddress} {iPort : UInt8} {set : Bool}
    (hinit : s.initialised) (hport : ¬(iPort < 1 ∨ iPort > 15))
    (h : Returns (setHDMIPort react c iBaseDevice iPort) s set t) :
    PortMoves c iBaseDevice iPort s ↔ (t.devices (s.primaryOf c)).physicalAddress ≠
      (s.devices (s.primaryOf c)).physicalAddress := by
  rw [setHDMIPort, if_neg hport] at h
  have h := returns_ask_bind.mp h
  dsimp only [id] at h
  split at h
  · next hsame =>
    rw [(returns_pure.mp h).2]
    exact iff_of_false (fun hmoves => hmoves.1 hsame) (not_not.mpr rfl)
  next hnew =>
  have h := returns_update_bind.mp h
  rw [if_neg (by simp [hinit])] at h
  obtain ⟨pa, v, hv, h⟩ := returns_bind.mp h
  obtain ⟨_, u, hu, h⟩ := returns_bind.mp h
  obtain ⟨-, rfl⟩ := returns_pure.mp h
  have hclient := (keeps_portAddress hv).1
  have hconf : v.configuration c = (s.withPort c iBaseDevice iPort).configuration c := by
    rw [World.configuration, hclient]
    rfl
  have hpa : (v.configuration c).iPhysicalAddress = (s.configuration c).iPhysicalAddress := by
    rw [hconf, World.withPort, configuration_updateConfiguration]
  have hstored : v.stored c (s.primaryOf c) = s.stored c (s.primaryOf c) := by
    rw [World.stored, hconf, World.withPort, configuration_updateConfiguration]
    rfl
  have hmoved := physicalAddress_clientSetPhysicalAddress hreact (valid_portAddress s pa) hu
    (s.primaryOf c)
  rw [hpa, hstored] at hmoved
  rw [hmoved]
  constructor
  · rintro ⟨-, pa', v', hv', hmoves⟩
    obtain ⟨rfl, rfl⟩ := hv.unique hv'
    split_ifs at hmoves ⊢ <;> exact hmoves
  · intro hmoves
    refine ⟨hnew, pa, v, hv, ?_⟩
    split_ifs at hmoves ⊢ <;> exact hmoves

/-- Without a configured address and without a port the adapter is asked first. -/
theorem returns_setConfiguredPhysicalAddress (hinit : s.initialised)
    (hx : ¬isValidPhysicalAddress x.iPhysicalAddress)
    (hport : ¬(x.baseDevice ≠ .unknown ∧ x.iHDMIPort > 0 ∧ x.iHDMIPort ≤ 0xF))
    (h : Returns (setConfiguredPhysicalAddress react c x) s () t) :
    if isValidPhysicalAddress (s.outside 0).detectedPhysicalAddress then
      ∀ a, (t.devices a).physicalAddress =
        if s.stored c a then (s.outside 0).detectedPhysicalAddress else (s.devices a).physicalAddress
    else ∃ set, Returns (setHDMIPort react c .tv 1) (s.undetected c) set t := by
  rw [setConfiguredPhysicalAddress, if_neg hx] at h
  obtain ⟨detected, s₁, h₁, h⟩ := returns_bind.mp h
  obtain ⟨o, s₂, h₂, h₁⟩ := returns_bind.mp h₁
  obtain ⟨rfl, rfl⟩ := returns_observe.mp h₂
  split at h₁
  · next hdetected =>
    rw [if_pos hdetected]
    have h₁ := returns_update_bind.mp h₁
    obtain ⟨rfl, rfl⟩ := returns_pure.mp h₁
    rw [if_pos rfl] at h
    have h := returns_ask_bind.mp h
    rw [configuration_updateConfiguration] at h
    intro a
    rw [physicalAddress_setDevicePhysicalAddress hreact hdetected h a, World.stored,
      configuration_updateConfiguration]
    rfl
  · next hdetected =>
    rw [if_neg hdetected]
    have h₁ := returns_update_bind.mp h₁
    obtain ⟨rfl, rfl⟩ := returns_pure.mp h₁
    rw [if_neg Bool.false_ne_true] at h
    obtain ⟨set, s₃, h₃, h⟩ := returns_bind.mp h
    -- a port that is set is out of range, and refused
    have hrefused : set = false ∧ s₃ = s.undetected c := by
      rcases returns_callOr.mp h₃ with ⟨⟨hbase, hne⟩, h₃⟩ | ⟨-, rfl, rfl⟩
      · have hbad : x.iHDMIPort < 1 ∨ x.iHDMIPort > 15 := by
          by_contra hrange
          refine hport ⟨hbase, ?_, ?_⟩ <;> grind
        rw [setHDMIPort, if_pos hbad] at h₃
        exact returns_pure.mp h₃
      · exact ⟨rfl, rfl⟩
    obtain ⟨rfl, rfl⟩ := hrefused
    have h := returns_ask_bind.mp h
    rcases returns_callOr.mp h with ⟨-, h⟩ | ⟨hno, -⟩
    · exact returns_discard.mp h
    · refine absurd ?_ hno
      change (!false && s.initialised) = true
      rw [hinit]
      rfl

theorem movesPrimary_iff (hinit : s.initialised) (ht : Returns (applySettings c x) s () t)
    (hu : Returns (applyPhysicalAddress react c x) t () u) :
    MovesPrimary c x s ↔ (u.devices (u.primaryOf c)).physicalAddress ≠ s.primaryAddress c := by
  have hrewrites := returns_applySettings ht
  have hframe : ClientFrame c t u := keeps_applyPhysicalAddress hreact c _ _ _ _ hu
  obtain ⟨haddresses, hpa, -⟩ := Configuration.applied_fields x (s.configuration c)
  rw [← hrewrites.configuration] at haddresses hpa
  have hprimary : t.primaryOf c = s.primaryOf c := by
    rw [World.primaryOf, World.primaryOf, haddresses]
  have hstored : t.stored c (s.primaryOf c) = s.stored c (s.primaryOf c) := by
    rw [World.stored, haddresses]
    rfl
  have hbefore := hrewrites.physicalAddress (s.primaryOf c)
  have hinit' : t.initialised := hrewrites.initialised.trans hinit
  have hafter : u.primaryOf c = s.primaryOf c := by
    rw [World.primaryOf, World.primaryOf, hframe.logicalAddresses, haddresses]
  have hunique : ∀ {p : World → Prop}, (∃ t, Returns (applySettings c x) s () t ∧ p t) ↔ p t := by
    refine fun {p} => ⟨?_, fun hp => ⟨t, ht, hp⟩⟩
    rintro ⟨t', ht', hp⟩
    obtain rfl := (ht.unique ht').2
    exact hp
  rw [hafter, World.primaryAddress, if_pos hinit, MovesPrimary]
  by_cases hx : isValidPhysicalAddress x.iPhysicalAddress
  · rw [if_pos hx, physicalAddress_applyPhysicalAddress hreact hx hu, hpa, hbefore, hstored]
    split
    · next hmoves =>
      rw [and_iff_right hmoves.1, and_iff_right hmoves.2]
      exact ne_comm
    · next hstays =>
      exact iff_of_false (fun h => hstays ⟨h.1, h.2.1⟩) (not_not.mpr rfl)
  rw [if_neg hx, hunique]
  rw [applyPhysicalAddress, if_neg hx] at hu
  by_cases hport : x.baseDevice ≠ .unknown ∧ x.iHDMIPort > 0 ∧ x.iHDMIPort ≤ 0xF
  · rw [if_pos hport] at hu ⊢
    obtain ⟨set, hu⟩ := returns_discard.mp hu
    have hrange : ¬(x.iHDMIPort < 1 ∨ x.iHDMIPort > 15) := by
      obtain ⟨-, hlow, hhigh⟩ := hport
      grind
    rw [portMoves_iff hreact hinit' hrange hu, hprimary, hbefore]
  · rw [if_neg hport] at hu ⊢
    have hcase := returns_setConfiguredPhysicalAddress hreact hinit' hx hport hu
    split at hcase
    · next hdetected =>
      rw [if_pos hdetected, hcase, hbefore, hstored]
      split
      · next hlisted =>
        rw [and_iff_right hlisted]
        exact ne_comm
      · next hlisted =>
        exact iff_of_false (fun h => hlisted h.1) (not_not.mpr rfl)
    · next hdetected =>
      rw [if_neg hdetected]
      obtain ⟨set, hset⟩ := hcase
      rw [portMoves_iff hreact (s := t.undetected c) hinit' (by decide) hset]
      have hsame : (t.undetected c).primaryOf c = s.primaryOf c := by
        rw [World.undetected, World.primaryOf, configuration_updateConfiguration, ← hprimary]
        rfl
      rw [hsame]
      exact not_congr (by rw [← hbefore]; exact Iff.rfl)

end moved

/-! ### Taking effect -/

/-- New device types lead to a registration with them, and if that succeeds the client owns one
    address for each; the same types and the same address lead to none. -/
structure TypesTakeEffect (n : ℕ) (c : ClientId) (x : Configuration) (s : World) : Prop where
  changed : x.deviceTypes ≠ (s.configuration c).deviceTypes →
    ∃ u, RegistersAgain (react n) c x s u ∧ (u.configuration c).deviceTypes = x.deviceTypes ∧
      ∀ v, Returns (registerClient n c) u true v → v.OwnsEach c x.deviceTypes.used
  same : x.deviceTypes = (s.configuration c).deviceTypes →
    x.iPhysicalAddress = (s.configuration c).iPhysicalAddress →
      ¬∃ u, RegistersAgain (react n) c x s u

/-- Each of the types gets through to the allocation, if one is found for everything that gets
    there: the EEPROM's types may be used in place of these, and the TV's handler may replace one.
    A client that only monitors is not given anything, so it has to own the addresses before. -/
def TypesServed (n : ℕ) (c : ClientId) (x : Configuration) (s : World) : Prop :=
  if x.bMonitorOnly = 1 then s.OwnsEach c x.deviceTypes.used
  else ∀ t u p, Returns (applySettings c x) s () t →
    Returns (applyPhysicalAddress (react n) c x) t () u → RegistersIn u n c p →
      p.canAllocate c (p.outside 0).pollAcked → ∀ type ∈ x.deviceTypes.used,
        type ∈ (supportedTypes p.tvHandler (x.typesToRegister s.eeprom)).used

section configured

variable {n : ℕ} {c : ClientId} {x : Configuration} {s t u : World}
  (ht : Returns (applySettings c x) s () t)
  (hu : Returns (applyPhysicalAddress (react n) c x) t () u)
include ht hu

/-- What is left of the settings when the client is registered again. -/
theorem configured_fields : u.clients = s.clients ∧ u.eeprom = s.eeprom ∧
    (u.configuration c).logicalAddresses = (s.configuration c).logicalAddresses ∧
    (u.configuration c).deviceTypes = x.deviceTypes ∧
    (u.configuration c).bGetSettingsFromROM = x.bGetSettingsFromROM ∧
    (u.configuration c).bMonitorOnly = x.bMonitorOnly := by
  have hrewrites := returns_applySettings ht
  have hframe : ClientFrame c t u := keeps_applyPhysicalAddress
    (fun K => reactionsKeep_react (R := BusFrame K) n) c _ _ _ _ hu
  obtain ⟨hlist, -, htypes, hrom, hmonitor⟩ := Configuration.applied_fields x (s.configuration c)
  rw [← hrewrites.configuration] at hlist htypes hrom hmonitor
  exact ⟨hframe.clients.trans hrewrites.clients, hframe.eeprom.trans hrewrites.eeprom,
    hframe.logicalAddresses.trans hlist, hframe.deviceTypes.trans htypes,
    (congrArg Configuration.bGetSettingsFromROM hframe.settings :).trans hrom,
    (congrArg Configuration.bMonitorOnly hframe.settings :).trans hmonitor⟩

/-- The types that get through to the allocation. -/
theorem supported_configured {p : World} (hinit : s.initialised) (hp : RegistersIn u n c p) :
    p.supported c = (supportedTypes p.tvHandler (x.typesToRegister s.eeprom)).used := by
  obtain ⟨-, heeprom, -, htypes, hrom, -⟩ := configured_fields ht hu
  have hvalid := valid_applyPhysicalAddress (fun K => reactionsKeep_react (R := BusFrame K) n)
    ((returns_applySettings ht).initialised.trans hinit) hu
  rw [supported_registersIn hvalid hp, Configuration.typesToRegister, Configuration.typesToRegister,
    heeprom, htypes, hrom]

/-- Once the client is registered again it owns one address for each type, if the registration
    succeeds, exactly if the types are served. -/
theorem typesServed_iff {ok : Bool} {s' : World} (hinit : s.initialised)
    (hregister : Returns (registerClient n c) u ok s') : TypesServed n c x s ↔
      ∀ v, Returns (registerClient n c) u true v → v.OwnsEach c x.deviceTypes.used := by
  obtain ⟨hclients, -, hlist, -, -, hmonitor⟩ := configured_fields ht hu
  unfold TypesServed
  split
  · next hyes =>
    rw [← ownsEach_congr hclients hlist]
    constructor
    · intro howns v hv
      rcases ownsEach_registered hv [] with ⟨-, rfl⟩ | ⟨hno, -⟩
      · exact howns
      · exact absurd (hmonitor.trans hyes) hno
    · intro howns
      refine howns u ?_
      cases n with
      | zero => exact (not_returns_stuck hregister).elim
      | succ n =>
        refine returns_ask_bind.mpr ?_
        rw [id, if_pos (hmonitor.trans hyes)]
        exact returns_pure.mpr ⟨rfl, rfl⟩
  · next hno =>
    constructor
    · intro hserved v hv
      rcases ownsEach_registered hv x.deviceTypes.used with ⟨hyes, -⟩ | ⟨-, p, hp, hcan, hiff⟩
      · exact absurd (hmonitor.symm.trans hyes) hno
      · rw [hiff, supported_configured ht hu hinit hp]
        exact hserved t u p ht hu hp hcan
    · intro howns t' u' p ht' hu' hp hcan
      obtain ⟨-, rfl⟩ := ht.unique ht'
      obtain ⟨-, rfl⟩ := hu.unique hu'
      have hok : ok = true := by
        by_contra hfailed
        rw [Bool.not_eq_true] at hfailed
        exact not_canAllocate_of_failed (hfailed ▸ hregister) hp hcan
      rw [hok] at hregister
      rcases ownsEach_registered hregister x.deviceTypes.used with
        ⟨hyes, -⟩ | ⟨-, q, hq, -, hiff⟩
      · exact absurd (hmonitor.symm.trans hyes) hno
      · obtain rfl := hp.unique hq
        rw [← supported_configured ht hu hinit hp]
        exact hiff.mp (howns s' hregister)

end configured

/-- The types take effect exactly if new types come with a move of the primary device and are
    served, and the old ones at the old address come without a move. -/
theorem typesTakeEffect_iff {n : ℕ} {c : ClientId} {x : Configuration} {s s' : World}
    (hinit : s.initialised)
    (h : Returns (setConfiguration (react n) (registerClient n) c x) s () s') :
    TypesTakeEffect n c x s ↔
      (x.deviceTypes ≠ (s.configuration c).deviceTypes →
        MovesPrimary c x s ∧ TypesServed n c x s) ∧
      (x.deviceTypes = (s.configuration c).deviceTypes →
        x.iPhysicalAddress = (s.configuration c).iPhysicalAddress → ¬MovesPrimary c x s) := by
  have hreact := fun K => reactionsKeep_react (R := BusFrame K) n
  obtain ⟨t, u, ht, hu, -⟩ := setConfiguration_cases hreact h
  have hmoves := movesPrimary_iff hreact hinit ht hu
  have hagain := registersAgain_iff ht hu h
  rw [← hmoves] at hagain
  -- the registration that was made
  have hmade : MovesPrimary c x s → RegistersAgain (react n) c x s u := fun hmove =>
    registersAgain_of_moved ht hu (hmoves.mp hmove)
  constructor
  · intro heffect
    refine ⟨fun hne => ?_, fun heq hpa hmove => ?_⟩
    · obtain ⟨v, hv, -, howns⟩ := heffect.changed hne
      have hmove := hagain.mp ⟨v, hv⟩
      obtain rfl := hv.unique (hmade hmove)
      obtain ⟨ok, hok⟩ := (hv _ _).mp h
      exact ⟨hmove, (typesServed_iff ht hu hinit hok).mpr howns⟩
    · exact heffect.same heq hpa (hagain.mpr hmove)
  · rintro ⟨hchanged, hsame⟩
    refine ⟨fun hne => ?_, fun heq hpa hv => hsame heq hpa (hagain.mp hv)⟩
    obtain ⟨hmove, hserved⟩ := hchanged hne
    obtain ⟨ok, hok⟩ := (hmade hmove _ _).mp h
    exact ⟨u, hmade hmove, (configured_fields ht hu).2.2.2.1,
      (typesServed_iff ht hu hinit hok).mp hserved⟩

theorem typesTakeEffect_iff_same : ∃ s',
    Returns (setConfiguration (react 1) (registerClient 1) 0 (clientFor [.playbackDevice]))
      (.start (fun _ => clientFor [.playbackDevice]) fun _ => .silent) () s' ∧
    TypesTakeEffect 1 0 (clientFor [.playbackDevice])
      (.start (fun _ => clientFor [.playbackDevice]) fun _ => .silent) := by
  let s := World.start (fun _ => clientFor [.playbackDevice]) fun _ => .silent
  obtain ⟨_, s', h⟩ := exists_returns
    (x := setConfiguration (react 1) (registerClient 1) 0 (clientFor [.playbackDevice])) (s := s)
    (by decide)
  refine ⟨s', h, (typesTakeEffect_iff rfl h).mpr ⟨fun hne => absurd rfl hne, fun _ _ hmoves => ?_⟩⟩
  rw [MovesPrimary, if_pos (by decide)] at hmoves
  exact hmoves.1 rfl

/-- A client that is registered as a playback device asks to be a tuner: nothing is registered. -/
theorem typeChange_without_effect :
    ¬∀ (n : ℕ) (c : ClientId) (x : Configuration) (s s' : World), s.initialised →
      Returns (setConfiguration (react n) (registerClient n) c x) s () s' →
        TypesTakeEffect n c x s := by
  intro hall
  obtain ⟨_, s, hs⟩ := exists_returns (x := registerClient 1 0)
    (s := .start (fun _ => clientFor [.playbackDevice]) fun _ => .silent) (by decide)
  have hrun := hs.of_all (p := fun _ w => w.initialised &&
    decide ((clientFor [.tuner]).deviceTypes ≠ (w.configuration 0).deviceTypes) &&
    (setConfiguration (react 1) (registerClient 1) 0 (clientFor [.tuner]) w).isSome &&
    (setConfiguration (react 1) (fun _ => stuck) 0 (clientFor [.tuner]) w).isSome)
    (by decide +kernel)
  simp only [Bool.and_eq_true, decide_eq_true_eq] at hrun
  obtain ⟨⟨⟨hinit, hne⟩, hsome⟩, hstuck⟩ := hrun
  obtain ⟨_, s', h⟩ := exists_returns hsome
  obtain ⟨_, s'', h'⟩ := exists_returns hstuck
  obtain ⟨u, hu, -⟩ := (hall 1 0 _ s s' hinit h).changed hne
  obtain ⟨ok, hok⟩ := (hu _ s'').mp h'
  exact not_returns_stuck hok

end CEC
