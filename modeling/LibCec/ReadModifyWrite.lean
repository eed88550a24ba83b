import LibCec.RegistrationFrame

/-! Reading a configuration, changing nothing and writing it back.

    `GetCurrentConfiguration` does not write the combo key, its timeout and the callbacks, and
    `SetConfiguration` takes them over from the caller's struct; what the struct held before decides
    what becomes of them. It also replaces a base device and port by the address they led to.
    `readModifyWrite_iff` says exactly when all settings survive. -/

namespace CEC
open Schemes Procedure

namespace Configuration

/-- The settings that `SetConfiguration` takes over, without what registering a client and the
    adapter report. -/
def settings (m : Configuration) : Configuration :=
  { m with
    bAutodetectAddress := 0
    serverVersion := 0
    iFirmwareVersion := 0
    iFirmwareBuildDate := 0
    logicalAddresses := .clear }

/-- The version, the name and the vendor that were read are set already. -/
theorem set_getCurrentConfiguration (m x : Configuration) :
    ((m.setClientVersion (getCurrentConfiguration m x).clientVersion).setOSDName
      (getCurrentConfiguration m x).strDeviceName).setTVVendorOverride
        (getCurrentConfiguration m x).tvVendor = m := by
  cases m
  rfl

/-- Writing back what was read leaves the combo key settings of the caller's struct behind. -/
theorem applied_getCurrentConfiguration_none {m x : Configuration} (hx : x.callbacks = none) :
    applied (getCurrentConfiguration m x) m =
      { m with comboKey := x.comboKey, iComboKeyTimeoutMs := x.iComboKeyTimeoutMs } := by
  have hcallbacks : (getCurrentConfiguration m x).callbacks = none := hx
  simp only [applied, hcallbacks, Option.isSome_none, Bool.false_eq_true, if_false,
    set_getCurrentConfiguration, copySettings_getCurrentConfiguration]

/-- Callbacks in the struct are taken over with their parameter. -/
theorem applied_getCurrentConfiguration_some {m x : Configuration} {p : ℕ}
    (hx : x.callbacks = some p) : applied (getCurrentConfiguration m x) m =
      { m with
        callbacks := some p
        callbackParam := x.callbackParam
        comboKey := x.comboKey
        iComboKeyTimeoutMs := x.iComboKeyTimeoutMs } := by
  have hcallbacks : (getCurrentConfiguration m x).callbacks = some p := hx
  have hparam : (getCurrentConfiguration m x).callbackParam = x.callbackParam := rfl
  set m' := m.enableCallbacks x.callbackParam (some p) with hm'
  have hsame : getCurrentConfiguration m x = getCurrentConfiguration m' x := rfl
  simp only [applied, hcallbacks, hparam, Option.isSome_some, if_true, ← hm']
  rw [hsame, set_getCurrentConfiguration, copySettings_getCurrentConfiguration]
  rfl

theorem settings_of_withoutAddress {m n : Configuration} (h : m.withoutAddress = n.withoutAddress) :
    m.settings = { n.settings with
      iPhysicalAddress := m.iPhysicalAddress
      baseDevice := m.baseDevice
      iHDMIPort := m.iHDMIPort } :=
  (congrArg (fun k : Configuration => { k.settings with
    iPhysicalAddress := m.iPhysicalAddress
    baseDevice := m.baseDevice
    iHDMIPort := m.iHDMIPort }) h :)

end Configuration

/-- The place of the client survives: it is configured by its address alone, or the processor does
    not run and neither the adapter nor the default port gives it another one. -/
def World.keepsPlace (w : World) (c : ClientId) : Prop :=
  let m := w.configuration c
  if isValidPhysicalAddress m.iPhysicalAddress then m.baseDevice = .unknown ∧ m.iHDMIPort = 0
  else w.initialised = false ∧
    (m.baseDevice ≠ .unknown ∧ m.iHDMIPort > 0 ∧ m.iHDMIPort ≤ 0xF ∨
      isValidPhysicalAddress (w.outside 0).detectedPhysicalAddress = false)

/-- What the caller's struct must hold for the settings to survive. -/
structure SurvivesReadBack (w : World) (c : ClientId) (x : Configuration) : Prop where
  comboKey : x.comboKey = (w.configuration c).comboKey
  comboKeyTimeout : x.iComboKeyTimeoutMs = (w.configuration c).iComboKeyTimeoutMs
  callbacks : x.callbacks = none ∨ x.callbacks = (w.configuration c).callbacks ∧
    x.callbackParam = (w.configuration c).callbackParam
  place : w.keepsPlace c

/-- The fields that say where a client is. -/
def Configuration.place (m : Configuration) : UInt16 × LogicalAddress × UInt8 :=
  (m.iPhysicalAddress, m.baseDevice, m.iHDMIPort)

theorem place_ne_of_valid {m m' : Configuration} (h : ¬isValidPhysicalAddress m.iPhysicalAddress)
    (h' : isValidPhysicalAddress m'.iPhysicalAddress) : m'.place ≠ m.place := by
  intro heq
  have hpa : m'.iPhysicalAddress = m.iPhysicalAddress := congrArg Prod.fst heq
  exact h (hpa ▸ h')

/-- `AutodetectPhysicalAddress` of an adapter that does not know the address. -/
theorem returns_autodetect_unknown {c : ClientId} {s s' : World} {detected : Bool}
    (hunknown : isValidPhysicalAddress (s.outside 0).detectedPhysicalAddress = false)
    (h : Returns (autodetectPhysicalAddress c) s detected s') :
    detected = false ∧ s'.initialised = s.initialised ∧
      (s'.configuration c).place = (s.configuration c).place := by
  obtain ⟨o, s₁, h₁, h⟩ := returns_bind.mp h
  obtain ⟨rfl, rfl⟩ := returns_observe.mp h₁
  rw [hunknown, if_neg Bool.false_ne_true] at h
  have h := returns_update_bind.mp h
  obtain ⟨rfl, rfl⟩ := returns_pure.mp h
  refine ⟨rfl, rfl, ?_⟩
  rw [configuration_updateConfiguration]
  rfl

theorem returns_autodetect_known {c : ClientId} {s s' : World} {detected : Bool}
    (hknown : isValidPhysicalAddress (s.outside 0).detectedPhysicalAddress)
    (h : Returns (autodetectPhysicalAddress c) s detected s') :
    detected = true ∧ isValidPhysicalAddress (s'.configuration c).iPhysicalAddress := by
  obtain ⟨o, s₁, h₁, h⟩ := returns_bind.mp h
  obtain ⟨rfl, rfl⟩ := returns_observe.mp h₁
  rw [if_pos hknown] at h
  have h := returns_update_bind.mp h
  obtain ⟨rfl, rfl⟩ := returns_pure.mp h
  refine ⟨rfl, ?_⟩
  rw [configuration_updateConfiguration]
  exact hknown

section place

variable {react : Reaction → Proc Unit} (hreact : ∀ K, ReactionsKeep (BusFrame K) react)
  {c : ClientId} {s s' : World} {x : Configuration}

/-- A port that is configured on a processor that does not run is only noted down. -/
theorem returns_setHDMIPort_stopped {base : LogicalAddress} {port : UInt8} {set : Bool}
    (hinit : s.initialised = false)
    (hvalid : ¬isValidPhysicalAddress (s.configuration c).iPhysicalAddress)
    (h : Returns (setHDMIPort react c base port) s set s') :
    (port < 1 ∨ port > 15) ∧ set = false ∧ s' = s ∨
      (s'.configuration c).place = ((s.configuration c).iPhysicalAddress, base, port) := by
  by_cases hport : port < 1 ∨ port > 15
  · rw [setHDMIPort, if_pos hport] at h
    obtain ⟨rfl, rfl⟩ := returns_pure.mp h
    exact .inl ⟨hport, rfl, rfl⟩
  rw [setHDMIPort, if_neg hport] at h
  have h := returns_ask_bind.mp h
  dsimp only [id] at h
  rw [if_neg fun hm => hvalid hm.2.2] at h
  have h := returns_update_bind.mp h
  rw [if_pos (by simp [hinit])] at h
  obtain ⟨rfl, rfl⟩ := returns_pure.mp h
  refine .inr ?_
  rw [configuration_updateConfiguration]
  rfl

/-- The two ways in which a port is checked agree. -/
theorem port_out_of_range {port : UInt8} :
    port < 1 ∨ port > 15 ↔ ¬(port > 0 ∧ port ≤ 0xF) := by
  simp only [gt_iff_lt, UInt8.lt_iff_toNat_lt, UInt8.le_iff_toNat_le, UInt8.reduceToNat]
  omega

/-- Only a proper port survives on a processor that does not run, or a place nobody corrects. -/
theorem place_stopped (hinit : s.initialised = false)
    (hunknown : isValidPhysicalAddress (s.outside 0).detectedPhysicalAddress = false)
    (hport : ¬(x.baseDevice ≠ .unknown ∧ x.iHDMIPort > 0 ∧ x.iHDMIPort ≤ 0xF))
    (hx : ¬isValidPhysicalAddress x.iPhysicalAddress)
    (h : Returns (setConfiguredPhysicalAddress react c x) s () s') :
    (s'.configuration c).place = (s.configuration c).place := by
  rw [setConfiguredPhysicalAddress, if_neg hx] at h
  obtain ⟨detected, s₁, h₁, h⟩ := returns_bind.mp h
  obtain ⟨hdetected, hinit₁, hplace⟩ := returns_autodetect_unknown hunknown h₁
  rw [hdetected, if_neg Bool.false_ne_true] at h
  obtain ⟨set, s₂, h₂, h⟩ := returns_bind.mp h
  have hset : s₂ = s₁ := by
    rcases returns_callOr.mp h₂ with ⟨hbase, h₂⟩ | ⟨-, -, rfl⟩
    · have hbad := port_out_of_range.mpr fun hgood => hport ⟨hbase.1, hgood⟩
      rw [setHDMIPort, if_pos hbad] at h₂
      exact (returns_pure.mp h₂).2
    · rfl
  have h := returns_ask_bind.mp h
  rw [hset] at h
  rcases returns_callOr.mp h with ⟨hrun, -⟩ | ⟨-, -, hs'⟩
  · rw [hinit₁, hinit, Bool.and_false] at hrun
    exact Bool.noConfusion hrun
  · rw [hs', hplace]

include hreact

/-- Where the client is after its place was written back. -/
theorem place_applyPhysicalAddress (hx : x.place = (s.configuration c).place)
    (h : Returns (applyPhysicalAddress react c x) s () s') :
    (s'.configuration c).place = (s.configuration c).place ↔ s.keepsPlace c := by
  have hpa : x.iPhysicalAddress = (s.configuration c).iPhysicalAddress := congrArg Prod.fst hx
  have hbase : x.baseDevice = (s.configuration c).baseDevice := congrArg (·.2.1) hx
  have hport : x.iHDMIPort = (s.configuration c).iHDMIPort := congrArg (·.2.2) hx
  by_cases hvalid : isValidPhysicalAddress (s.configuration c).iPhysicalAddress
  · rw [returns_applyPhysicalAddress_same (hpa ▸ hvalid) hpa.symm h,
      configuration_updateConfiguration, World.keepsPlace, if_pos hvalid]
    simp only [Configuration.place, hpa, Prod.mk.injEq, true_and]
    exact and_congr eq_comm eq_comm
  rw [World.keepsPlace, if_neg hvalid]
  cases hinit : s.initialised with
  | true =>
    refine iff_of_false (place_ne_of_valid hvalid ?_) fun hk => Bool.noConfusion hk.1
    exact valid_applyPhysicalAddress hreact hinit h
  | false =>
    have hx' : ¬isValidPhysicalAddress x.iPhysicalAddress := hpa ▸ hvalid
    rw [applyPhysicalAddress, if_neg hx'] at h
    rw [← hbase, ← hport]
    by_cases hproper : x.baseDevice ≠ .unknown ∧ x.iHDMIPort > 0 ∧ x.iHDMIPort ≤ 0xF
    · refine iff_of_true ?_ ⟨rfl, .inl hproper⟩
      rw [if_pos hproper] at h
      obtain ⟨set, h⟩ := returns_discard.mp h
      rcases returns_setHDMIPort_stopped hinit hvalid h with ⟨hbad, -, -⟩ | hplace
      · exact absurd hproper.2 (port_out_of_range.mp hbad)
      · rw [hplace, hbase, hport]
        rfl
    · rw [if_neg hproper] at h
      cases hdetected : isValidPhysicalAddress (s.outside 0).detectedPhysicalAddress with
      | true =>
        refine iff_of_false (place_ne_of_valid hvalid ?_) fun hk => ?_
        · rw [setConfiguredPhysicalAddress, if_neg hx'] at h
          obtain ⟨detected, s₁, h₁, h⟩ := returns_bind.mp h
          obtain ⟨hknown, hvalid₁⟩ := returns_autodetect_known hdetected h₁
          rw [hknown, if_pos rfl] at h
          have h := returns_ask_bind.mp h
          exact (keeps_setDevicePhysicalAddress hreact c _ _ _ _ h).valid hvalid₁
        · exact hk.2.elim hproper fun h => Bool.noConfusion h
      | false =>
        refine iff_of_true ?_ ⟨rfl, .inr rfl⟩
        exact place_stopped hinit hdetected hproper hx' h

end place

/-! ### The round trip -/

/-- Nothing is sent when the name and the vendor stay the same. -/
theorem returns_applySettings_outside {c : ClientId} {s s' : World} {x : Configuration}
    (hname : (s.configuration c).strDeviceName = x.strDeviceName)
    (hvendor : (s.configuration c).tvVendor = x.tvVendor)
    (h : Returns (applySettings c x) s () s') : s'.outside = s.outside := by
  obtain ⟨_, s₁, h₁, h⟩ := returns_bind.mp h
  obtain ⟨_, s₂, h₂, h⟩ := returns_bind.mp (returns_update_bind.mp h)
  obtain ⟨_, s₃, h₃, h⟩ := returns_bind.mp h
  have hs₁ : s₁.outside = s.outside ∧
      (s₁.configuration c).strDeviceName = x.strDeviceName ∧
      (s₁.configuration c).tvVendor = x.tvVendor := by
    rcases returns_callOr.mp h₁ with ⟨-, h₁⟩ | ⟨-, -, hs⟩
    · rw [returns_update.mp h₁, configuration_updateConfiguration]
      exact ⟨rfl, hname, hvendor⟩
    · rw [hs]
      exact ⟨rfl, hname, hvendor⟩
  -- the version is neither the name nor the vendor
  have hname₁ : ((s₁.configuration c).setClientVersion x.clientVersion).strDeviceName =
      x.strDeviceName := hs₁.2.1
  have hvendor₁ : ((s₁.configuration c).setClientVersion x.clientVersion).tvVendor =
      x.tvVendor := hs₁.2.2
  have hs₂ : s₂ = s₁.updateConfiguration c (·.setClientVersion x.clientVersion) := by
    have h₂ := returns_ask_bind.mp h₂
    rw [id, configuration_updateConfiguration, if_pos hname₁] at h₂
    exact (returns_pure.mp h₂).2
  have hs₃ : s₃ = s₂ := by
    have h₃ := returns_ask_bind.mp h₃
    rw [hs₂, configuration_updateConfiguration, if_pos hvendor₁] at h₃
    exact (returns_pure.mp h₃).2.trans hs₂.symm
  rw [returns_update.mp h, hs₃, hs₂]
  exact hs₁.1

/-- Which settings survive, given what became of the place. -/
theorem settings_eq_iff {m m' x : Configuration}
    (h : m'.withoutAddress =
      (Configuration.applied (m.getCurrentConfiguration x) m).withoutAddress) :
    m'.settings = m.settings ↔
      (x.comboKey = m.comboKey ∧ x.iComboKeyTimeoutMs = m.iComboKeyTimeoutMs ∧
        (x.callbacks = none ∨ x.callbacks = m.callbacks ∧ x.callbackParam = m.callbackParam)) ∧
      m'.place = m.place := by
  rw [Configuration.settings_of_withoutAddress h]
  cases hcallbacks : x.callbacks with
  | none =>
    rw [Configuration.applied_getCurrentConfiguration_none hcallbacks]
    simp only [Configuration.settings, Configuration.place, Configuration.mk.injEq, Prod.mk.injEq,
      true_and, and_true, true_or]
    constructor
    · rintro ⟨hpa, hbase, hport, hkey, htimeout⟩
      exact ⟨⟨hkey, htimeout⟩, hpa, hbase, hport⟩
    · rintro ⟨⟨hkey, htimeout⟩, hpa, hbase, hport⟩
      exact ⟨hpa, hbase, hport, hkey, htimeout⟩
  | some p =>
    rw [Configuration.applied_getCurrentConfiguration_some hcallbacks]
    simp only [Configuration.settings, Configuration.place, Configuration.mk.injEq, Prod.mk.injEq,
      true_and, and_true, reduceCtorEq, false_or]
    constructor
    · rintro ⟨hpa, hbase, hport, hparam, hcb, hkey, htimeout⟩
      exact ⟨⟨hkey, htimeout, hcb, hparam⟩, hpa, hbase, hport⟩
    · rintro ⟨⟨hkey, htimeout, hcb, hparam⟩, hpa, hbase, hport⟩
      exact ⟨hpa, hbase, hport, hparam, hcb, hkey, htimeout⟩

/-- `GetCurrentConfiguration` into the caller's struct, then `SetConfiguration` with it. -/
def readModifyWrite (n : ℕ) (c : ClientId) (configuration : Configuration) : Proc Unit := do
  let m ← ask (·.configuration c)
  setConfiguration (react n) (registerClient n) c (m.getCurrentConfiguration configuration)

/-- Once the address is valid it stays valid, whatever is registered. -/
theorem valid_registerClient {c : ClientId} {n : ℕ} {s s' : World} {ok : Bool}
    (h : Returns (registerClient n c) s ok s')
    (hs : isValidPhysicalAddress (s.configuration c).iPhysicalAddress) :
    isValidPhysicalAddress (s'.configuration c).iPhysicalAddress := by
  refine registerClient_invariant
    (P := fun w => isValidPhysicalAddress (w.configuration c).iPhysicalAddress)
    (fun h => h.valid) (fun h => ?_) (fun h => h.valid) h hs
  rw [h.configuration]
  exact id

/-- Reading the configuration and writing it back leaves every setting as it was if and only if
    the struct already held what the first list does not write and the place is kept. -/
theorem readModifyWrite_iff {n : ℕ} {c : ClientId} {x : Configuration} {s s' : World}
    (h : Returns (readModifyWrite n c x) s () s') :
    (s'.configuration c).settings = (s.configuration c).settings ↔ SurvivesReadBack s c x := by
  have hreact := fun K => reactionsKeep_react (R := BusFrame K) n
  let m := s.configuration c
  have h : Returns (setConfiguration (react n) (registerClient n) c (m.getCurrentConfiguration x))
      s () s' := h
  obtain ⟨t, u, ht, hu, hcase⟩ := setConfiguration_cases hreact h
  have hrewrites := returns_applySettings ht
  have hconf : t.configuration c = Configuration.applied (m.getCurrentConfiguration x) m :=
    hrewrites.configuration
  have hmove : ClientFrame c t u := keeps_applyPhysicalAddress hreact c _ _ _ _ hu
  have hplace : (m.getCurrentConfiguration x).place = (t.configuration c).place := by
    rw [hconf]
    cases hcallbacks : x.callbacks with
    | none => rw [Configuration.applied_getCurrentConfiguration_none hcallbacks]; rfl
    | some p => rw [Configuration.applied_getCurrentConfiguration_some hcallbacks]; rfl
  have hkeeps : t.keepsPlace c ↔ s.keepsPlace c := by
    have hpa : m.iPhysicalAddress = (t.configuration c).iPhysicalAddress := congrArg Prod.fst hplace
    have hbase : m.baseDevice = (t.configuration c).baseDevice := congrArg (·.2.1) hplace
    have hport : m.iHDMIPort = (t.configuration c).iHDMIPort := congrArg (·.2.2) hplace
    have hname : (s.configuration c).strDeviceName =
        (m.getCurrentConfiguration x).strDeviceName := rfl
    have hout : t.outside = s.outside := returns_applySettings_outside hname rfl ht
    simp only [World.keepsPlace, ← hpa, ← hbase, ← hport, hout, hrewrites.initialised]
    exact Iff.rfl
  have hthen := (place_applyPhysicalAddress hreact hplace hu).trans hkeeps
  rw [← hplace] at hthen
  -- the settings before the client is registered again, if it is
  have hsettings : (u.configuration c).settings = m.settings ↔ SurvivesReadBack s c x := by
    rw [settings_eq_iff (hmove.settings.trans (congrArg _ hconf))]
    constructor
    · rintro ⟨⟨hkey, htimeout, hcallbacks⟩, hsame⟩
      exact ⟨hkey, htimeout, hcallbacks, hthen.mp hsame⟩
    · rintro ⟨hkey, htimeout, hcallbacks, hkept⟩
      exact ⟨⟨hkey, htimeout, hcallbacks⟩, hthen.mpr hkept⟩
  rcases hcase with ⟨hmoved, ok, hagain⟩ | hbus
  · cases hinit : s.initialised with
    | false =>
      have hs' : s' = u := by
        cases n with
        | zero => exact (not_returns_stuck hagain).elim
        | succ n =>
          rcases registerClientWith_cases (fun K => reactionsKeep_react (R := BusFrame K) n) hagain with
            hs' | ⟨-, hrun, -⟩
          · exact hs'
          · rw [hmove.initialised, hrewrites.initialised, hinit] at hrun
            exact Bool.noConfusion hrun
      rw [hs', hsettings]
    | true =>
      by_cases hvalid : isValidPhysicalAddress m.iPhysicalAddress
      · exact absurd (primaryAddress_same hinit hrewrites hvalid rfl hu) hmoved
      · refine iff_of_false (fun hsame => hvalid ?_) fun hk => ?_
        · have hvalid' := valid_registerClient hagain
            (valid_applyPhysicalAddress hreact (hrewrites.initialised.trans hinit) hu)
          have hpa : (s'.configuration c).iPhysicalAddress = m.iPhysicalAddress :=
            (congrArg Configuration.iPhysicalAddress hsame :)
          exact hpa ▸ hvalid'
        · have hplace := hk.place
          rw [World.keepsPlace, if_neg hvalid, hinit] at hplace
          exact Bool.noConfusion hplace.1
  · have hs' : s'.configuration c = u.configuration c := by
      rw [World.configuration, World.configuration, hbus.client]
    rw [hs', hsettings]

/-- A client with an address of its own and the combo key F1 (blue). -/
def blueComboKey : Configuration :=
  { Configuration.clear with
    comboKey := 0x71
    iPhysicalAddress := 0x1000
    baseDevice := .unknown
    bActivateSource := 0 }

theorem readModifyWrite_iff_blue : ∃ s',
    Returns (readModifyWrite 1 0 .clear) (.start (fun _ => blueComboKey) fun _ => .silent) () s' ∧
      ((s'.configuration 0).settings = blueComboKey.settings ↔
        SurvivesReadBack (.start (fun _ => blueComboKey) fun _ => .silent) 0 .clear) := by
  obtain ⟨_, s', h⟩ := exists_returns (x := readModifyWrite 1 0 .clear)
    (s := .start (fun _ => blueComboKey) fun _ => .silent) (by decide)
  exact ⟨s', h, readModifyWrite_iff h⟩

/-- The combo key is replaced by the one that a fresh struct holds. -/
theorem readModifyWrite_loses_comboKey :
    ¬∀ (n : ℕ) (c : ClientId) (x : Configuration) (s s' : World),
      Returns (readModifyWrite n c x) s () s' →
        (s'.configuration c).settings = (s.configuration c).settings := by
  intro hall
  have hrun : (readModifyWrite 1 0 .clear (.start (fun _ => blueComboKey) fun _ => .silent)).map
      (fun r => (r.2.configuration 0).comboKey) = some 0x45 := by decide
  obtain ⟨⟨_, s'⟩, hs', hkey⟩ := Option.map_eq_some_iff.mp hrun
  have hsame := congrArg Configuration.comboKey (hall 1 0 .clear _ s' hs')
  exact absurd (hkey.symm.trans hsame) (by decide)

end CEC
