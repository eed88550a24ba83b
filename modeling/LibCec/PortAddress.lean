import LibCec.Client

/-! The physical address of a client that is connected to a port of a base device.

    A physical address `a.b.c.d` has a digit for each level below the TV. A device at a port has
    the address of the device that the port belongs to, with the port at the first level that is
    free.

        0.0.0.0 ──port 3──▶ 3.0.0.0 ──port 1──▶ 3.1.0.0 ─ ⋯ ─▶ 3.1.2.4 ──port 2──▶ nowhere

    `GetPhysicalAddressFromPort` finds the level by a chain of tests that ends without an `else`:
    below a device on the fourth level it returns the address of that device. `SetHDMIPort` and
    `RefreshPhysicalAddress` take it, because it is a valid address. -/

namespace CEC
open Schemes Procedure

/-! ### The digits of an address -/

/-- The four digits of a physical address. -/
def digits (pa : UInt16) : List ℕ :=
  [pa.toNat / 0x1000, pa.toNat / 0x100 % 0x10, pa.toNat / 0x10 % 0x10, pa.toNat % 0x10]

/-- Nothing comes after a zero digit but zeros. The unknown address, `F.F.F.F`, is one of these. -/
def WellFormed (pa : UInt16) : Prop := (digits pa).Pairwise fun d e => d = 0 → e = 0

instance (pa : UInt16) : Decidable (WellFormed pa) := by unfold WellFormed; infer_instance

/-- The first zero digit becomes the port; there is no such address without a zero digit. -/
def connectTo (port : ℕ) : List ℕ → Option (List ℕ)
  | [] => none
  | d :: ds => if d = 0 then some (port :: ds) else (connectTo port ds).map (d :: ·)

/-- `v` is the address of the port of the device at `pa`, or the invalid one when there is none. -/
def IsPortAddress (pa : UInt16) (port : UInt8) (v : UInt16) : Prop :=
  match connectTo port.toNat (digits pa) with
  | some ds => digits v = ds
  | none => v = invalidPhysicalAddress

/-- The address is unknown, or there is a free level below it. -/
def HasFreeLevel (pa : UInt16) : Prop := pa = invalidPhysicalAddress ∨ pa % 0x10 = 0

instance (pa : UInt16) : Decidable (HasFreeLevel pa) := inferInstanceAs (Decidable (_ ∨ _))

/-! ### `GetPhysicalAddressFromPort` -/

/-- What `GetPhysicalAddressFromPort` makes of the address of the base device. -/
def portAddress (pa : UInt16) (iPort : UInt8) : UInt16 :=
  if pa > 0xFFFE then invalidPhysicalAddress else addPort pa iPort

/-- A test of the chain is about the remainder of the number. -/
theorem mod_eq_zero_iff (pa m : UInt16) : pa % m = 0 ↔ pa.toNat % m.toNat = 0 := by
  rw [← UInt16.toNat_inj, UInt16.toNat_mod]
  rfl

/-- Nothing wraps when a port is added. -/
theorem toNat_addPort (pa : UInt16) {iPort : UInt8} (hport : iPort ≤ 15) :
    (addPort pa iPort).toNat =
      if pa.toNat = 0 then pa.toNat + 0x1000 * iPort.toNat
      else if pa.toNat % 0x1000 = 0 then pa.toNat + 0x100 * iPort.toNat
      else if pa.toNat % 0x100 = 0 then pa.toNat + 0x10 * iPort.toNat
      else if pa.toNat % 0x10 = 0 then pa.toNat + iPort.toNat
      else pa.toNat := by
  have hp : iPort.toNat ≤ 15 := UInt8.le_iff_toNat_le.mp hport
  have hpa : pa.toNat < 65536 := pa.toNat_lt
  have hzero : pa = 0 ↔ pa.toNat = 0 := by rw [← UInt16.toNat_inj]; rfl
  unfold addPort
  simp only [mod_eq_zero_iff, hzero, UInt16.reduceToNat]
  split_ifs
  · simp only [UInt16.toNat_add, UInt16.toNat_mul, UInt8.toNat_toUInt16, UInt16.reduceToNat]
    omega
  · simp only [UInt16.toNat_add, UInt16.toNat_mul, UInt8.toNat_toUInt16, UInt16.reduceToNat]
    omega
  · simp only [UInt16.toNat_add, UInt16.toNat_mul, UInt8.toNat_toUInt16, UInt16.reduceToNat]
    omega
  · simp only [UInt16.toNat_add, UInt8.toNat_toUInt16]
    omega
  · rfl

/-- The digits of a well-formed address, when it is known which of them are zero. -/
theorem wellFormed_iff (pa : UInt16) : WellFormed pa ↔
    (pa.toNat / 0x1000 = 0 → pa.toNat = 0) ∧
    (pa.toNat / 0x100 % 0x10 = 0 → pa.toNat % 0x100 = 0) ∧
    (pa.toNat / 0x10 % 0x10 = 0 → pa.toNat % 0x10 = 0) := by
  have hpa : pa.toNat < 65536 := pa.toNat_lt
  simp only [WellFormed, digits, List.pairwise_cons, List.mem_cons, List.not_mem_nil, or_false,
    forall_eq_or_imp, forall_eq, List.Pairwise.nil, and_true, IsEmpty.forall_iff, implies_true]
  omega

/-- A device with a free level below it gives its ports addresses on that level. -/
theorem isPortAddress_addPort {pa : UInt16} {iPort : UInt8} (hform : WellFormed pa)
    (hport : iPort ≤ 15) (hfree : pa % 0x10 = 0) : IsPortAddress pa iPort (addPort pa iPort) := by
  obtain ⟨h₁, h₂, h₃⟩ := (wellFormed_iff pa).mp hform
  have hp : iPort.toNat ≤ 15 := UInt8.le_iff_toNat_le.mp hport
  have hpa : pa.toNat < 65536 := pa.toNat_lt
  have hlast : pa.toNat % 0x10 = 0 := (mod_eq_zero_iff pa 0x10).mp hfree
  have hadd := toNat_addPort pa hport
  unfold IsPortAddress
  rw [digits, connectTo, connectTo, connectTo, connectTo, hlast]
  rw [if_pos rfl]
  split_ifs with h₄ h₅ h₆
  -- the level that is free is the one that the chain of tests finds
  · rw [if_pos (h₁ h₄)] at hadd
    simp only [digits, hadd, List.cons.injEq, and_true]
    omega
  · rw [if_neg (by omega), if_pos (by omega)] at hadd
    simp only [Option.map_some, digits, hadd, List.cons.injEq, and_true]
    omega
  · rw [if_neg (by omega), if_neg (by omega), if_pos (by omega)] at hadd
    simp only [Option.map_some, digits, hadd, List.cons.injEq, and_true]
    omega
  · rw [if_neg (by omega), if_neg (by omega), if_neg (by omega), if_pos hlast] at hadd
    simp only [Option.map_some, digits, hadd, List.cons.injEq, and_true]
    omega

/-- Below a device on the fourth level, the chain of tests leaves the address as it is. -/
theorem addPort_eq_self {pa : UInt16} (h : pa % 0x10 ≠ 0) (iPort : UInt8) :
    addPort pa iPort = pa := by
  have hlast : pa.toNat % 0x10 ≠ 0 := fun hz => h ((mod_eq_zero_iff pa 0x10).mpr hz)
  have hzero : pa ≠ 0 := by rintro rfl; exact hlast rfl
  unfold addPort
  rw [if_neg hzero, if_neg, if_neg, if_neg h]
  · exact fun hz => hlast (by have := (mod_eq_zero_iff pa 0x100).mp hz; simp at this; omega)
  · exact fun hz => hlast (by have := (mod_eq_zero_iff pa 0x1000).mp hz; simp at this; omega)

/-- A port that is added to a free level makes it another address. -/
theorem addPort_ne_self {pa : UInt16} {iPort : UInt8} (hfree : pa % 0x10 = 0) (h1 : 1 ≤ iPort)
    (hport : iPort ≤ 15) : addPort pa iPort ≠ pa := by
  have hp : 1 ≤ iPort.toNat := UInt8.le_iff_toNat_le.mp h1
  have hlast : pa.toNat % 0x10 = 0 := (mod_eq_zero_iff pa 0x10).mp hfree
  intro h
  have hadd := toNat_addPort pa hport
  rw [h] at hadd
  split_ifs at hadd <;> omega

theorem connectTo_of_last {pa : UInt16} (hform : WellFormed pa) (h : pa % 0x10 ≠ 0) (port : ℕ) :
    connectTo port (digits pa) = none := by
  obtain ⟨h₁, h₂, h₃⟩ := (wellFormed_iff pa).mp hform
  have hlast : pa.toNat % 0x10 ≠ 0 := fun hz => h ((mod_eq_zero_iff pa 0x10).mpr hz)
  rw [digits, connectTo, connectTo, connectTo, connectTo, if_neg (by omega), if_neg (by omega),
    if_neg (by omega), if_neg hlast]
  rfl

theorem gt_max_iff (pa : UInt16) : pa > 0xFFFE ↔ pa = invalidPhysicalAddress := by
  have hpa : pa.toNat < 65536 := pa.toNat_lt
  rw [gt_iff_lt, UInt16.lt_iff_toNat_lt, ← UInt16.toNat_inj, invalidPhysicalAddress]
  simp only [UInt16.reduceToNat]
  omega

/-- The function returns the address of the port, except below a device on the fourth level. -/
theorem isPortAddress_iff {pa : UInt16} {iPort : UInt8} (hform : WellFormed pa)
    (hport : iPort ≤ 15) : IsPortAddress pa iPort (portAddress pa iPort) ↔ HasFreeLevel pa := by
  unfold portAddress HasFreeLevel
  simp only [gt_max_iff]
  split
  · next hpa =>
    subst hpa
    have hnone : connectTo iPort.toNat (digits invalidPhysicalAddress) = none := rfl
    simp [IsPortAddress, hnone]
  · next hpa =>
    by_cases hfree : pa % 0x10 = 0
    · exact iff_of_true (isPortAddress_addPort hform hport hfree) (.inr hfree)
    · rw [IsPortAddress, connectTo_of_last hform hfree, addPort_eq_self hfree]
      simp [hpa, hfree]

/-- The function returns the address of the base device itself on the fourth level only. -/
theorem portAddress_ne_self_iff {pa : UInt16} {iPort : UInt8} (hknown : pa ≠ invalidPhysicalAddress)
    (h1 : 1 ≤ iPort) (hport : iPort ≤ 15) : portAddress pa iPort ≠ pa ↔ HasFreeLevel pa := by
  rw [portAddress, if_neg (by rwa [gt_max_iff])]
  by_cases hfree : pa % 0x10 = 0
  · exact iff_of_true (addPort_ne_self hfree h1 hport) (.inr hfree)
  · rw [addPort_eq_self hfree]
    simp [HasFreeLevel, hknown, hfree]

/-! ### The callers -/

/-- The address that the processor knows of a base device. -/
def World.addressOf (w : World) : LogicalAddress → UInt16
  | .unknown => invalidPhysicalAddress
  | .addr a => (w.devices a).physicalAddress

/-- What `SetHDMIPort` gives the client for what the port's address is found to be: the address
    saved in the EEPROM, or the default one, when it is not valid. -/
def hdmiPortAddress (eeprom pa : UInt16) : UInt16 :=
  if isValidPhysicalAddress pa then pa
  else if isValidPhysicalAddress eeprom then eeprom
  else defaultPhysicalAddress

/-- `SetHDMIPort` up to its call of `SetPhysicalAddress`, and the address that it gives it. -/
def givenByHDMIPort (c : ClientId) (iBaseDevice : LogicalAddress) (iPort : UInt8) :
    Proc (Option UInt16) :=
  if iPort < 1 ∨ iPort > 15 then pure none
  else do
    let w ← ask id
    let m := w.configuration c
    if m.baseDevice = iBaseDevice ∧ m.iHDMIPort = iPort ∧ isValidPhysicalAddress m.iPhysicalAddress then
      pure none
    else
      update (World.updateConfiguration c fun m =>
        { m with baseDevice := iBaseDevice, iHDMIPort := iPort, bAutodetectAddress := 0 })
      if !w.initialised then pure none
      else
        let pa ← getPhysicalAddressFromPort c iBaseDevice iPort
        pure (some (hdmiPortAddress w.eeprom.iPhysicalAddress pa))

/-- `RefreshPhysicalAddress` up to its call of `SetPhysicalAddress`. -/
def givenByRefresh (base : Fin 16) (c : ClientId) : Proc (Option UInt16) := do
  let m ← ask (·.configuration c)
  if m.baseDevice ≠ .addr base ∨ m.iHDMIPort < 1 ∨ m.iHDMIPort > 15 then pure none
  else
    let pa ← getPhysicalAddressFromPort c (.addr base) m.iHDMIPort
    pure (if !isValidPhysicalAddress pa || pa = m.iPhysicalAddress then none else some pa)

/-- Give the client the address, if there is one to be given. -/
def give (react : Reaction → Proc Unit) (c : ClientId) : Option UInt16 → Proc Unit
  | some pa => clientSetPhysicalAddress react c pa
  | none => pure ()

theorem setHDMIPort_eq (react : Reaction → Proc Unit) (c : ClientId) (base : LogicalAddress)
    (iPort : UInt8) : setHDMIPort react c base iPort =
      (do
        let given ← givenByHDMIPort c base iPort
        give react c given
        pure (!decide (iPort < 1 ∨ iPort > 15))) := by
  unfold setHDMIPort givenByHDMIPort
  by_cases hport : iPort < 1 ∨ iPort > 15
  · rw [if_pos hport, if_pos hport]
    simp only [pure_bind, give, decide_eq_true hport, Bool.not_true]
  · rw [if_neg hport, if_neg hport]
    funext w
    simp only [ask_bind, bind_assoc, id_eq, hport, decide_false, Bool.not_false]
    split
    · rfl
    · simp only [bind_assoc, update_bind]
      split
      · rfl
      · simp only [bind_assoc, pure_bind, give, hdmiPortAddress]

theorem refreshPhysicalAddress_eq (react : Reaction → Proc Unit) (base : Fin 16) (c : ClientId) :
    refreshPhysicalAddress react base c = givenByRefresh base c >>= give react c := by
  unfold refreshPhysicalAddress givenByRefresh
  funext w
  simp only [ask_bind, bind_assoc]
  split
  · rfl
  · simp only [bind_assoc, pure_bind]
    refine bind_congr_returns fun pa w₁ _ => ?_
    split
    · rfl
    · rfl

/-- The result follows from the address that is known when the call returns. -/
theorem eq_of_returns_fromPort {c : ClientId} {base : LogicalAddress} {iPort : UInt8}
    {w w₁ : World} {v : UInt16}
    (h : Returns (getPhysicalAddressFromPort c base iPort) w v w₁) :
    v = portAddress (w₁.addressOf base) iPort := by
  cases base with
  | unknown => exact (returns_pure.mp h).1
  | addr a =>
    simp only [getPhysicalAddressFromPort, returns_ask_bind] at h
    obtain ⟨pa, w₂, hget, h⟩ := returns_bind.mp h
    obtain ⟨rfl, rfl⟩ := returns_pure.mp h
    obtain ⟨_, _, -, hget⟩ := returns_bind.mp hget
    obtain ⟨_, _, -, hget⟩ := returns_bind.mp hget
    obtain ⟨_, _, -, hget⟩ := returns_bind.mp hget
    rw [(returns_ask.mp hget).1, (returns_ask.mp hget).2]
    rfl

theorem given_of_hdmiPort {c : ClientId} {base : LogicalAddress} {iPort : UInt8} {w w₁ : World}
    {x : UInt16} (h : Returns (givenByHDMIPort c base iPort) w (some x) w₁) :
    (1 ≤ iPort ∧ iPort ≤ 15) ∧
      x = hdmiPortAddress w.eeprom.iPhysicalAddress (portAddress (w₁.addressOf base) iPort) := by
  unfold givenByHDMIPort at h
  split at h
  · exact absurd (returns_pure.mp h).1 (by simp)
  · next hport =>
    rw [not_or, UInt8.not_lt, gt_iff_lt, UInt8.not_lt] at hport
    rw [returns_ask_bind] at h
    dsimp only at h
    split at h
    · exact absurd (returns_pure.mp h).1 (by simp)
    · rw [returns_update_bind] at h
      split at h
      · exact absurd (returns_pure.mp h).1 (by simp)
      · obtain ⟨v, w₂, hv, h⟩ := returns_bind.mp h
        obtain ⟨hx, rfl⟩ := returns_pure.mp h
        refine ⟨hport, ?_⟩
        rw [← eq_of_returns_fromPort hv]
        exact Option.some.inj hx

theorem given_of_refresh {c : ClientId} {base : Fin 16} {w w₁ : World} {x : UInt16}
    (h : Returns (givenByRefresh base c) w (some x) w₁) :
    ∃ iPort, (1 ≤ iPort ∧ iPort ≤ 15) ∧ isValidPhysicalAddress x ∧
      x = portAddress (w₁.addressOf (.addr base)) iPort := by
  unfold givenByRefresh at h
  rw [returns_ask_bind] at h
  split at h
  · exact absurd (returns_pure.mp h).1 (by simp)
  · next hport =>
    simp only [not_or, UInt8.not_lt, gt_iff_lt] at hport
    obtain ⟨v, w₂, hv, h⟩ := returns_bind.mp h
    obtain ⟨hx, rfl⟩ := returns_pure.mp h
    obtain ⟨hvalid, hx⟩ := Option.ite_none_left_eq_some.mp hx.symm
    obtain rfl := Option.some.inj hx
    simp only [Bool.or_eq_true, Bool.not_eq_true', not_or, Bool.not_eq_false] at hvalid
    exact ⟨_, hport.2, hvalid.1, eq_of_returns_fromPort hv⟩

/-! ### The address of the base device is not given to a client -/

/-- The address of the port is `F.F.F.F`, and the EEPROM has that of the base device instead. -/
def FallsBackToBase (pa : UInt16) (iPort : UInt8) (eeprom : UInt16) : Prop :=
  pa = 0xFFF0 ∧ iPort = 15 ∧ eeprom = pa

instance (pa : UInt16) (iPort : UInt8) (eeprom : UInt16) :
    Decidable (FallsBackToBase pa iPort eeprom) := inferInstanceAs (Decidable (_ ∧ _))

theorem valid_hdmiPortAddress (eeprom pa : UInt16) :
    isValidPhysicalAddress (hdmiPortAddress eeprom pa) := by
  unfold hdmiPortAddress
  split_ifs with hpa heeprom
  · exact hpa
  · exact heeprom
  · rfl

theorem ne_invalid_of_valid {pa : UInt16} (h : isValidPhysicalAddress pa) :
    pa ≠ invalidPhysicalAddress := by
  rintro rfl
  exact absurd h (by decide)

/-- The address of a port is valid, unless its four digits are `F`. -/
theorem valid_addPort_iff {pa : UInt16} {iPort : UInt8} (hform : WellFormed pa)
    (hfree : pa % 0x10 = 0) (h1 : 1 ≤ iPort) (hport : iPort ≤ 15) :
    isValidPhysicalAddress (addPort pa iPort) ↔ ¬(pa = 0xFFF0 ∧ iPort = 15) := by
  obtain ⟨h₁, -, -⟩ := (wellFormed_iff pa).mp hform
  have hp1 : 1 ≤ iPort.toNat := UInt8.le_iff_toNat_le.mp h1
  have hp : iPort.toNat ≤ 15 := UInt8.le_iff_toNat_le.mp hport
  have hpa : pa.toNat < 65536 := pa.toNat_lt
  have hlast : pa.toNat % 0x10 = 0 := (mod_eq_zero_iff pa 0x10).mp hfree
  have hadd := toNat_addPort pa hport
  have hcorner : (pa = 0xFFF0 ∧ iPort = 15) ↔ pa.toNat = 65520 ∧ iPort.toNat = 15 := by
    rw [← UInt16.toNat_inj, ← UInt8.toNat_inj]
    rfl
  rw [hcorner]
  simp only [isValidPhysicalAddress, Bool.and_eq_true, decide_eq_true_eq, UInt16.le_iff_toNat_le,
    UInt16.reduceToNat]
  split_ifs at hadd <;> omega

/-- `SetHDMIPort` gives the client another address than the base device's, if there is a level for
    it and it does not fall back to the base device's address. -/
theorem hdmiPortAddress_ne_iff {pa : UInt16} {iPort : UInt8} (eeprom : UInt16)
    (hform : WellFormed pa) (h1 : 1 ≤ iPort) (hport : iPort ≤ 15) :
    hdmiPortAddress eeprom (portAddress pa iPort) ≠ pa ↔
      HasFreeLevel pa ∧ ¬FallsBackToBase pa iPort eeprom := by
  by_cases hknown : pa = invalidPhysicalAddress
  · subst hknown
    exact iff_of_true (ne_invalid_of_valid (valid_hdmiPortAddress _ _))
      ⟨.inl rfl, fun h => absurd h.1 (by decide)⟩
  · rw [portAddress, if_neg (by rwa [gt_max_iff])]
    by_cases hfree : pa % 0x10 = 0
    · have hvalid := valid_addPort_iff hform hfree h1 hport
      have hlevel : HasFreeLevel pa := .inr hfree
      unfold hdmiPortAddress
      split_ifs with hport₁ heeprom
      · exact iff_of_true (addPort_ne_self hfree h1 hport)
          ⟨hlevel, fun h => hvalid.mp hport₁ ⟨h.1, h.2.1⟩⟩
      · obtain ⟨hpa, hp⟩ := not_not.mp (mt hvalid.mpr hport₁)
        simp only [FallsBackToBase, hpa, hp, true_and, ne_eq]
        exact (and_iff_right (hpa ▸ hlevel)).symm
      · obtain ⟨hpa, hp⟩ := not_not.mp (mt hvalid.mpr hport₁)
        refine iff_of_true (by rw [hpa]; decide) ⟨hlevel, fun h => heeprom ?_⟩
        rw [h.2.2, hpa]
        rfl
    · have hnone : ¬HasFreeLevel pa := by simp [HasFreeLevel, hknown, hfree]
      have hself : hdmiPortAddress eeprom pa = pa → ¬hdmiPortAddress eeprom pa ≠ pa := not_not.mpr
      have hvalid : isValidPhysicalAddress pa := by
        obtain ⟨h₁, -, -⟩ := (wellFormed_iff pa).mp hform
        have hlast : pa.toNat % 0x10 ≠ 0 := fun hz => hfree ((mod_eq_zero_iff pa 0x10).mpr hz)
        have hmax : ¬ pa > 0xFFFE := by rwa [gt_max_iff]
        simp only [gt_iff_lt, UInt16.lt_iff_toNat_lt, UInt16.reduceToNat] at hmax
        simp only [isValidPhysicalAddress, Bool.and_eq_true, decide_eq_true_eq,
          UInt16.le_iff_toNat_le, UInt16.reduceToNat]
        omega
      rw [addPort_eq_self hfree]
      exact iff_of_false (hself (if_pos hvalid)) fun h => hnone h.1

/-- The address of a port is derived from the base device's, and no client gets that of the base
    device, unless it is on the fourth level. -/
theorem portAddresses_iff {base : LogicalAddress} {w w₁ : World}
    (hform : WellFormed (w₁.addressOf base)) (c : ClientId) :
    (∀ iPort v, 1 ≤ iPort → iPort ≤ 15 → Returns (getPhysicalAddressFromPort c base iPort) w v w₁ →
      (IsPortAddress (w₁.addressOf base) iPort v ∧
        (w₁.addressOf base ≠ invalidPhysicalAddress → v ≠ w₁.addressOf base) ↔
      HasFreeLevel (w₁.addressOf base))) ∧
    (∀ iPort x, Returns (givenByHDMIPort c base iPort) w (some x) w₁ →
      (x ≠ w₁.addressOf base ↔ HasFreeLevel (w₁.addressOf base) ∧
        ¬FallsBackToBase (w₁.addressOf base) iPort w.eeprom.iPhysicalAddress)) ∧
    (∀ a x, base = .addr a → Returns (givenByRefresh a c) w (some x) w₁ →
      (x ≠ w₁.addressOf base ↔ HasFreeLevel (w₁.addressOf base))) := by
  refine ⟨fun iPort v h1 h15 hret => ?_, fun iPort x hret => ?_, fun a x ha hret => ?_⟩
  · rw [eq_of_returns_fromPort hret, isPortAddress_iff hform h15]
    exact and_iff_left_of_imp fun hfree hknown => (portAddress_ne_self_iff hknown h1 h15).mpr hfree
  · obtain ⟨⟨h1, h15⟩, rfl⟩ := given_of_hdmiPort hret
    exact hdmiPortAddress_ne_iff _ hform h1 h15
  · subst ha
    obtain ⟨iPort, ⟨h1, h15⟩, hvalid, hx⟩ := given_of_refresh hret
    by_cases hknown : w₁.addressOf (.addr a) = invalidPhysicalAddress
    · rw [hknown]
      exact iff_of_true (ne_invalid_of_valid hvalid) (.inl rfl)
    · rw [hx]
      exact portAddress_ne_self_iff hknown h1 h15

/-- A device that is present has this physical address. -/
def baseAt (pa : UInt16) : World :=
  (World.start (fun _ => .clear) fun _ => .silent).updateDevice 5 fun d =>
    { d with status := .present, physicalAddress := pa }

/-- The second port of a device at 1.0.0.0. -/
theorem portAddresses_second : WellFormed ((baseAt 0x1000).addressOf (.addr 5)) ∧
    IsPortAddress 0x1000 2 0x1200 := by
  have hret : Returns (getPhysicalAddressFromPort 0 (.addr 5) 2) (baseAt 0x1000) 0x1200
      (baseAt 0x1000) := rfl
  have hform : WellFormed ((baseAt 0x1000).addressOf (.addr 5)) := by decide
  exact ⟨hform, (((portAddresses_iff hform 0).1 2 _ (by decide) (by decide) hret).mpr
    (.inr (by decide))).1⟩

/-- Behind a device at 1.2.3.4 the client gets the address of that device. -/
theorem gets_address_of_base : ¬ ∀ (c : ClientId) (base : LogicalAddress) (iPort : UInt8) (v : UInt16)
    (w w₁ : World), WellFormed (w₁.addressOf base) → 1 ≤ iPort → iPort ≤ 15 →
      Returns (getPhysicalAddressFromPort c base iPort) w v w₁ →
      IsPortAddress (w₁.addressOf base) iPort v ∧
        (w₁.addressOf base ≠ invalidPhysicalAddress → v ≠ w₁.addressOf base) := by
  intro h
  have hret : Returns (getPhysicalAddressFromPort 0 (.addr 5) 1) (baseAt 0x1234) 0x1234
      (baseAt 0x1234) := rfl
  exact (h 0 (.addr 5) 1 _ _ _ (by decide) (by decide) (by decide) hret).2 (by decide) (by decide)

end CEC
