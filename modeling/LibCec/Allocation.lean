import LibCec.ClientFrame
import LibCec.Registration

/-! What allocating and releasing the addresses of a client does.

    `Tries T s s'` is a search among the addresses in `T`: devices of other addresses keep their
    status. From it the loop over the types is described (`Allocates`), then the whole of
    `AllocateLogicalAddresses` (`Reallocates`), which erases the stored addresses of the client from
    `m_clients`, allocates new ones and inserts them if an address was found for every type. -/

namespace CEC
open Schemes Procedure

/-! ### Trying addresses -/

/-- Whether an address would be taken: no device is known there and the poll is not answered. -/
def World.isFree (w : World) (polls : Fin 16 → Bool) (a : Fin 16) : Bool :=
  (w.devices a).status ≠ .present && (w.devices a).status ≠ .handledByLibCec && !polls a

theorem isFree_iff {w : World} {polls : Fin 16 → Bool} {a : Fin 16} : w.isFree polls a ↔
    (w.devices a).status ≠ .present ∧ (w.devices a).status ≠ .handledByLibCec ∧ polls a = false := by
  simp [World.isFree, and_assoc]

/-- What trying an address and storing it keep is kept by the allocation for all types. -/
theorem keeps_allocateTypes {R : World → World → Prop} (hR : Composable R) {polls : Fin 16 → Bool}
    {c : ClientId} (htry : ∀ a, Keeps R (tryLogicalAddress polls a))
    (hset : ∀ (s : World) a, R s (s.updateConfiguration c fun m =>
      { m with logicalAddresses := m.logicalAddresses.set a })) :
    ∀ ts, Keeps R (allocateTypes polls c ts)
  | [] => keeps_pure hR true
  | t :: ts => by
    have hsearch : ∀ as, Keeps R (tryLogicalAddresses polls as) := fun as => by
      induction as with
      | nil => exact keeps_pure hR none
      | cons a as ih =>
        exact keeps_bind hR (htry a) fun ok =>
          keeps_ite (fun _ => keeps_pure hR _) fun _ => ih
    have haddress : Keeps R (allocateLogicalAddress polls t) :=
      keeps_ite (fun _ => keeps_pure hR _) fun _ => hsearch _
    refine keeps_bind hR haddress fun address => ?_
    cases address with
    | none => exact keeps_pure hR _
    | some a =>
      exact keeps_bind hR (keeps_update fun s => hset s a) fun _ =>
        keeps_allocateTypes hR htry hset ts

/-- Whether an address would be found for a device type. -/
def World.findsAddress (w : World) (polls : Fin 16 → Bool) (t : DeviceType) : Bool :=
  t = .tv || (candidates t).any (w.isFree polls)

/-- What a search among the addresses in `T` changes. -/
structure Tries (T : Set (Fin 16)) (s s' : World) : Prop where
  onlyDevices : s' = { s with devices := s'.devices }
  elsewhere : ∀ a ∉ T, (s'.devices a).status = (s.devices a).status
  handled : ∀ a, s.isHandled a → s'.isHandled a
  settled : ∀ a, (s.devices a).status ≠ .unknown →
    (s'.devices a).status ≠ .unknown ∧ (s'.devices a).resets = (s.devices a).resets

theorem tries_composable (T : Set (Fin 16)) : Composable (Tries T) where
  refl _ := ⟨rfl, fun _ _ => rfl, fun _ h => h, fun _ h => ⟨h, rfl⟩⟩
  trans h₁ h₂ := {
    onlyDevices := by rw [h₂.onlyDevices, h₁.onlyDevices]
    elsewhere := fun a ha => (h₂.elsewhere a ha).trans (h₁.elsewhere a ha)
    handled := fun a ha => h₂.handled a (h₁.handled a ha)
    settled := fun a ha =>
      have ht := h₁.settled a ha
      have hu := h₂.settled a ht.1
      ⟨hu.1, hu.2.trans ht.2⟩ }

theorem Tries.mono {T U : Set (Fin 16)} {s s' : World} (hTU : T ⊆ U) (h : Tries T s s') :
    Tries U s s' :=
  { h with elsewhere := fun a ha => h.elsewhere a fun haT => ha (hTU haT) }

theorem storePowerStatus_onlyDevices (w : World) (a : Fin 16) (p : PowerStatus) :
    w.storePowerStatus a p = { w with devices := (w.storePowerStatus a p).devices } := by
  unfold World.storePowerStatus
  split_ifs <;> rfl

/-- Storing a power status changes nothing else of a device but whether its active source message
    counts as sent. -/
theorem storePowerStatus_device (w : World) (a b : Fin 16) (p : PowerStatus) : ∃ q sent,
    (w.storePowerStatus a p).devices b =
      { w.devices b with powerStatus := q, activeSourceSent := sent } := by
  unfold World.storePowerStatus
  split_ifs
  · exact ⟨_, _, rfl⟩
  · exact ⟨_, _, rfl⟩
  · rw [updateDevice_devices]
    split_ifs with hb
    · exact hb ▸ ⟨_, _, rfl⟩
    · exact ⟨_, _, rfl⟩

theorem storePowerStatus_status (w : World) (a b : Fin 16) (p : PowerStatus) :
    ((w.storePowerStatus a p).devices b).status = (w.devices b).status ∧
      ((w.storePowerStatus a p).devices b).resets = (w.devices b).resets := by
  obtain ⟨q, sent, h⟩ := storePowerStatus_device w a b p
  rw [h]
  exact ⟨rfl, rfl⟩

/-- A device without a known status that is now present or handled. -/
theorem tries_update {s : World} {a : Fin 16} {f : Device → Device}
    (hother : s.isHandled a = false) (hstatus : ∀ d, (f d).status ≠ .unknown)
    (hresets : ∀ d, (f d).resets = d.resets) : Tries {a} s (s.updateDevice a f) where
  onlyDevices := rfl
  elsewhere b hb := by rw [updateDevice_devices, if_neg (by simpa using hb)]
  handled b hb := by
    rcases eq_or_ne b a with rfl | hne
    · exact absurd hb (by simp [hother])
    · rwa [World.isHandled, updateDevice_devices, if_neg hne]
  settled b hb := by
    rcases eq_or_ne b a with rfl | hne
    · rw [updateDevice_devices, if_pos rfl]
      exact ⟨hstatus _, hresets _⟩
    · rw [updateDevice_devices, if_neg hne]
      exact ⟨hb, rfl⟩

theorem tries_storePowerStatus (s : World) (a : Fin 16) (p : PowerStatus) (T : Set (Fin 16)) :
    Tries T s (s.storePowerStatus a p) where
  onlyDevices := storePowerStatus_onlyDevices s a p
  elsewhere b _ := (storePowerStatus_status s a b p).1
  handled b hb := by rwa [World.isHandled, (storePowerStatus_status s a b p).1]
  settled b hb := by
    rw [(storePowerStatus_status s a b p).1, (storePowerStatus_status s a b p).2]
    exact ⟨hb, rfl⟩

/-- An address that is free is taken when it is tried. -/
theorem returns_tryLogicalAddress {polls : Fin 16 → Bool} {a : Fin 16} {s s' : World} {ok : Bool}
    (ha : a ≠ 15) (h : Returns (tryLogicalAddress polls a) s ok s') :
    ok = s.isFree polls a ∧ Tries {a} s s' ∧
      ∀ b, s'.isHandled b = (s.isHandled b || (ok && b = a)) := by
  have h := returns_ask_bind.mp h
  by_cases hknown : (s.devices a).status = .present ∨ (s.devices a).status = .handledByLibCec
  · rw [if_pos hknown] at h
    obtain ⟨rfl, rfl⟩ := returns_pure.mp h
    refine ⟨?_, (tries_composable _).refl _, fun b => by simp⟩
    rcases hknown with hs | hs <;> simp [World.isFree, hs]
  rw [if_neg hknown] at h
  obtain ⟨hpresent, hhandled⟩ := not_or.mp hknown
  have hother : s.isHandled a = false := by simp [World.isHandled, hhandled]
  by_cases hpoll : polls a
  · rw [if_pos hpoll, setDeviceStatus, if_neg ha] at h
    have h := returns_update_bind.mp h
    obtain ⟨rfl, rfl⟩ := returns_pure.mp h
    refine ⟨by simp [World.isFree, hpoll], tries_update hother (fun _ => by simp) fun _ => rfl,
      fun b => ?_⟩
    rcases eq_or_ne b a with rfl | hb
    · simp [World.isHandled, updateDevice_devices, hhandled]
    · simp [World.isHandled, updateDevice_devices, hb]
  · rw [if_neg hpoll, setDeviceStatus, if_neg ha] at h
    have h := returns_update_bind.mp (returns_update_bind.mp h)
    obtain ⟨rfl, rfl⟩ := returns_pure.mp h
    have hstored := (storePowerStatus_status s a a .on).1
    refine ⟨by simp [World.isFree, hpoll, hpresent, hhandled],
      (tries_composable _).trans (tries_storePowerStatus s a .on _)
        (tries_update (by simp [World.isHandled, hstored, hhandled]) (fun _ h => by cases h)
          fun _ => rfl), fun b => ?_⟩
    rcases eq_or_ne b a with rfl | hb
    · simp [World.isHandled, updateDevice_devices, Device.handle]
    · simp [World.isHandled, updateDevice_devices, hb, (storePowerStatus_status s a b .on).1]

theorem Tries.isFree {T : Set (Fin 16)} {s s' : World} (h : Tries T s s') {a : Fin 16}
    (ha : a ∉ T) (polls : Fin 16 → Bool) : s'.isFree polls a = s.isFree polls a := by
  rw [World.isFree, World.isFree, h.elsewhere a ha]

theorem any_isFree_congr {s s' : World} {polls : Fin 16 → Bool} {as : List (Fin 16)}
    (h : ∀ a ∈ as, s'.isFree polls a = s.isFree polls a) :
    as.any (s'.isFree polls) = as.any (s.isFree polls) := by
  rw [Bool.eq_iff_iff, List.any_eq_true, List.any_eq_true]
  constructor
  · rintro ⟨a, ha, hfree⟩
    exact ⟨a, ha, h a ha ▸ hfree⟩
  · rintro ⟨a, ha, hfree⟩
    exact ⟨a, ha, (h a ha).symm ▸ hfree⟩

/-- An address is found exactly if one of them is free; it is the only one that is then handled. -/
theorem returns_tryLogicalAddresses {polls : Fin 16 → Bool} :
    ∀ {as : List (Fin 16)} {s s' : World} {r : Option (Fin 16)}, as.Nodup → 15 ∉ as →
      Returns (tryLogicalAddresses polls as) s r s' →
      r.isSome = as.any (s.isFree polls) ∧ Tries {a | a ∈ as} s s' ∧
        (∀ a, r = some a → a ∈ as ∧ s.isHandled a = false) ∧
        ∀ b, s'.isHandled b = (s.isHandled b || r = some b)
  | [], s, s', r, _, _, h => by
    obtain ⟨rfl, rfl⟩ := returns_pure.mp h
    exact ⟨rfl, (tries_composable _).refl _, fun _ => nofun, fun b => by simp⟩
  | a :: as, s, s', r, hnodup, h15, h => by
    obtain ⟨ok, s₁, h₁, h⟩ := returns_bind.mp h
    obtain ⟨ha, has⟩ := List.nodup_cons.mp hnodup
    obtain ⟨hok, htries, hhandled⟩ :=
      returns_tryLogicalAddress (fun ha => h15 (ha ▸ List.mem_cons_self)) h₁
    have hfirst : Tries {b | b ∈ a :: as} s s₁ := htries.mono (by simp)
    cases ok with
    | true =>
      rw [if_pos rfl] at h
      obtain ⟨rfl, rfl⟩ := returns_pure.mp h
      refine ⟨by simp [← hok], hfirst, ?_, fun b => ?_⟩
      · intro b hb
        obtain rfl := Option.some.inj hb
        refine ⟨List.mem_cons_self, ?_⟩
        have hfree := isFree_iff.mp hok.symm
        simp [World.isHandled, hfree.2.1]
      · rw [hhandled b]
        simp [eq_comm]
    | false =>
      rw [if_neg Bool.false_ne_true] at h
      obtain ⟨hr, htries₂, hfound, hhandled₂⟩ :=
        returns_tryLogicalAddresses has (fun h => h15 (List.mem_cons_of_mem a h)) h
      have hrest : as.any (s₁.isFree polls) = as.any (s.isFree polls) :=
        any_isFree_congr fun b hb => htries.isFree (by rintro rfl; exact ha hb) polls
      have hsame : ∀ b, s₁.isHandled b = s.isHandled b := fun b => by simp [hhandled b]
      refine ⟨by rw [hr, hrest, List.any_cons, ← hok, Bool.false_or], ?_, fun b hb => ?_, ?_⟩
      · exact (tries_composable _).trans hfirst
          (htries₂.mono fun b hb => List.mem_cons_of_mem a hb)
      · exact ⟨List.mem_cons_of_mem a (hfound b hb).1, hsame b ▸ (hfound b hb).2⟩
      · exact fun b => by rw [hhandled₂ b, hsame b]

/-! ### The addresses for the types of a client -/

theorem nodup_candidates (t : DeviceType) : (candidates t).Nodup := by
  cases t <;> decide

theorem candidates_ne {t : DeviceType} {a : Fin 16} (h : a ∈ candidates t) : a ≠ 0 ∧ a ≠ 15 := by
  revert a
  cases t <;> decide

/-- No address is tried for two types. -/
theorem candidates_disjoint {t u : DeviceType} {a : Fin 16} (ht : a ∈ candidates t)
    (hu : a ∈ candidates u) : t = u := by
  revert a
  cases t <;> cases u <;> decide

/-- The TV's address is taken without being tried; any other one was not handled before. -/
theorem returns_allocateLogicalAddress {polls : Fin 16 → Bool} {t : DeviceType} {s s' : World}
    {r : Option (Fin 16)} (h : Returns (allocateLogicalAddress polls t) s r s') :
    r.isSome = s.findsAddress polls t ∧ Tries {a | a ∈ candidates t} s s' ∧
      (∀ a, r = some a → a = 0 ∧ t = .tv ∨ a ≠ 0 ∧ t ≠ .tv ∧ s.isHandled a = false) ∧
      ∀ b, s'.isHandled b = (s.isHandled b || (t ≠ .tv && r = some b)) := by
  by_cases ht : t = .tv
  · rw [allocateLogicalAddress, if_pos ht] at h
    obtain ⟨rfl, rfl⟩ := returns_pure.mp h
    refine ⟨by simp [World.findsAddress, ht], (tries_composable _).refl _, ?_, fun b => ?_⟩
    · intro a ha
      exact .inl ⟨(Option.some.inj ha).symm, ht⟩
    · simp [ht]
  · rw [allocateLogicalAddress, if_neg ht] at h
    obtain ⟨hr, htries, hfound, hhandled⟩ :=
      returns_tryLogicalAddresses (nodup_candidates t) (fun h => (candidates_ne h).2 rfl) h
    refine ⟨by simp [hr, World.findsAddress, ht], htries, fun a ha => .inr ?_, fun b => ?_⟩
    · exact ⟨(candidates_ne (hfound a ha).1).1, ht, (hfound a ha).2⟩
    · simp [hhandled b, ht]

/-- The addresses that a client has stored. -/
def World.stored (w : World) (c : ClientId) (a : Fin 16) : Bool :=
  (w.configuration c).logicalAddresses.isSet a

theorem stored_congr {s s' : World} (h : s'.client = s.client) (c : ClientId) (a : Fin 16) :
    s'.stored c a = s.stored c a := by
  rw [World.stored, World.stored, World.configuration, World.configuration, h]

theorem stored_set (w : World) (c : ClientId) (a b : Fin 16) :
    (w.updateConfiguration c fun m =>
      { m with logicalAddresses := m.logicalAddresses.set a }).stored c b ↔ b = a ∨ w.stored c b := by
  rw [World.stored, configuration_updateConfiguration, LogicalAddresses.isSet_set]
  rfl

/-- What allocating addresses for some of the types of `c` changes: its list grows by the TV's
    address and by addresses of devices that are handled from then on. -/
structure Allocates (c : ClientId) (s s' : World) : Prop where
  clients : s'.clients = s.clients
  initialised : s'.initialised = s.initialised
  stalled : s'.stallCommunication = s.stallCommunication
  eeprom : s'.eeprom = s.eeprom
  others : ∀ d, d ≠ c → s'.client d = s.client d
  registered : (s'.client c).registered = (s.client c).registered
  settings : { s'.configuration c with logicalAddresses := .clear } =
    { s.configuration c with logicalAddresses := .clear }
  grows : ∀ a, s.stored c a → s'.stored c a
  taken : ∀ a, s'.stored c a → s.stored c a ∨ a = 0 ∨ s.isHandled a = false ∧ s'.isHandled a
  handled : ∀ a, s.isHandled a → s'.isHandled a
  onlyStored : ∀ a, s'.isHandled a → s.isHandled a ∨ s'.stored c a
  settled : ∀ a, (s.devices a).status ≠ .unknown →
    (s'.devices a).status ≠ .unknown ∧ (s'.devices a).resets = (s.devices a).resets

theorem allocates_composable (c : ClientId) : Composable (Allocates c) where
  refl _ := ⟨rfl, rfl, rfl, rfl, fun _ _ => rfl, rfl, rfl, fun _ h => h, fun _ h => .inl h,
    fun _ h => h, fun _ h => .inl h, fun _ h => ⟨h, rfl⟩⟩
  trans {s t u} h₁ h₂ := {
    clients := h₂.clients.trans h₁.clients
    initialised := h₂.initialised.trans h₁.initialised
    stalled := h₂.stalled.trans h₁.stalled
    eeprom := h₂.eeprom.trans h₁.eeprom
    others := fun d hd => (h₂.others d hd).trans (h₁.others d hd)
    registered := h₂.registered.trans h₁.registered
    settings := h₂.settings.trans h₁.settings
    grows := fun a ha => h₂.grows a (h₁.grows a ha)
    taken := fun a ha => by
      rcases h₂.taken a ha with ha | ha | ⟨ht, hu⟩
      · rcases h₁.taken a ha with ha | ha | ⟨hs, ht⟩
        · exact .inl ha
        · exact .inr (.inl ha)
        · exact .inr (.inr ⟨hs, h₂.handled a ht⟩)
      · exact .inr (.inl ha)
      · refine .inr (.inr ⟨?_, hu⟩)
        rw [← Bool.not_eq_true]
        intro hs
        rw [h₁.handled a hs] at ht
        exact Bool.noConfusion ht
    handled := fun a ha => h₂.handled a (h₁.handled a ha)
    onlyStored := fun a ha => by
      rcases h₂.onlyStored a ha with ha | ha
      · exact (h₁.onlyStored a ha).imp_right (h₂.grows a)
      · exact .inr ha
    settled := fun a ha =>
      have ht := h₁.settled a ha
      have hu := h₂.settled a ht.1
      ⟨hu.1, hu.2.trans ht.2⟩ }

/-- One type: its address is found and added to the list of the client. -/
theorem allocates_type {polls : Fin 16 → Bool} {c : ClientId} {t : DeviceType} {s s' : World}
    {a : Fin 16} (h : Returns (allocateLogicalAddress polls t) s (some a) s') :
    Allocates c s (s'.updateConfiguration c fun m =>
      { m with logicalAddresses := m.logicalAddresses.set a }) := by
  obtain ⟨-, htries, hfound, hhandled⟩ := returns_allocateLogicalAddress h
  have hclient : s'.client = s.client := by rw [htries.onlyDevices]
  have hstored : ∀ b, (s'.updateConfiguration c fun m =>
      { m with logicalAddresses := m.logicalAddresses.set a }).stored c b ↔ b = a ∨ s.stored c b :=
    fun b => (stored_set s' c a b).trans (by rw [stored_congr hclient])
  refine ⟨by rw [htries.onlyDevices]; rfl, by rw [htries.onlyDevices]; rfl,
    by rw [htries.onlyDevices]; rfl, by rw [htries.onlyDevices]; rfl, fun d hd => ?_, ?_, ?_,
    fun b hb => (hstored b).mpr (.inr hb), fun b hb => ?_, htries.handled, fun b hb => ?_,
    htries.settled⟩
  · rw [updateConfiguration_client _ _ hd, hclient]
  · rw [World.updateConfiguration, updateClient_self, hclient]
  · rw [configuration_updateConfiguration, World.configuration, World.configuration, hclient]
  · rcases (hstored b).mp hb with rfl | hb
    · rcases hfound b rfl with ⟨h0, -⟩ | ⟨-, htv, hnot⟩
      · exact .inr (.inl h0)
      · refine .inr (.inr ⟨hnot, ?_⟩)
        change s'.isHandled b
        simp [hhandled b, htv]
    · exact .inl hb
  · have hb : s'.isHandled b := hb
    rw [hhandled b, Bool.or_eq_true] at hb
    rcases hb with hb | hb
    · exact .inl hb
    · refine .inr ((hstored b).mpr (.inl ?_))
      simp only [Bool.and_eq_true, decide_eq_true_eq] at hb
      exact (Option.some.inj hb.2).symm

/-- A type for which no address is found changes no device that is handled. -/
theorem allocates_none {polls : Fin 16 → Bool} {c : ClientId} {t : DeviceType} {s s' : World}
    (h : Returns (allocateLogicalAddress polls t) s none s') :
    Allocates c s s' ∧ ∀ a, s'.isHandled a = s.isHandled a := by
  obtain ⟨-, htries, -, hhandled⟩ := returns_allocateLogicalAddress h
  have hsame : ∀ a, s'.isHandled a = s.isHandled a := fun a => by simp [hhandled a]
  have hclient : s'.client = s.client := by rw [htries.onlyDevices]
  have hstored := stored_congr hclient c
  refine ⟨⟨by rw [htries.onlyDevices], by rw [htries.onlyDevices], by rw [htries.onlyDevices],
    by rw [htries.onlyDevices], fun d _ => by rw [hclient], by rw [hclient],
    by rw [World.configuration, World.configuration, hclient], fun a ha => hstored a ▸ ha,
    fun a ha => .inl (hstored a ▸ ha), htries.handled,
    fun a ha => .inl (hsame a ▸ ha), htries.settled⟩, hsame⟩

/-- The first type that has to be tried finds no address. -/
def World.isBlocked (w : World) (polls : Fin 16 → Bool) (ts : List DeviceType) : Bool :=
  (ts.find? (· ≠ .tv)).any fun t => !w.findsAddress polls t

theorem isBlocked_congr {s s' : World} {polls : Fin 16 → Bool} {ts : List DeviceType}
    (h : ∀ t ∈ ts, s'.findsAddress polls t = s.findsAddress polls t) :
    s'.isBlocked polls ts = s.isBlocked polls ts := by
  rw [World.isBlocked, World.isBlocked]
  cases hfirst : ts.find? (· ≠ .tv) with
  | none => rfl
  | some t => simp only [Option.any_some, h t (List.mem_of_find?_eq_some hfirst)]

theorem Tries.findsAddress {t u : DeviceType} {s s' : World}
    (h : Tries {a | a ∈ candidates t} s s') (htu : u ≠ t) (polls : Fin 16 → Bool) :
    s'.findsAddress polls u = s.findsAddress polls u := by
  rw [World.findsAddress, World.findsAddress]
  congr 1
  exact any_isFree_congr fun a ha => h.isFree (fun ht => htu (candidates_disjoint ha ht)) polls

/-- The loop over the types finds all addresses exactly if each type finds one at its start. -/
theorem returns_allocateTypes {polls : Fin 16 → Bool} {c : ClientId} :
    ∀ {ts : List DeviceType} {s s' : World} {ok : Bool}, ts.Nodup →
      Returns (allocateTypes polls c ts) s ok s' →
      Allocates c s s' ∧ ok = ts.all (s.findsAddress polls) ∧
        (s'.stored c 0 → s.stored c 0 ∨ .tv ∈ ts) ∧
        (s.isBlocked polls ts → ∀ a, s'.isHandled a = s.isHandled a)
  | [], s, s', ok, _, h => by
    obtain ⟨rfl, rfl⟩ := returns_pure.mp h
    exact ⟨(allocates_composable c).refl _, rfl, .inl, fun _ _ => rfl⟩
  | t :: ts, s, s', ok, hnodup, h => by
    obtain ⟨r, s₁, h₁, h⟩ := returns_bind.mp h
    obtain ⟨ht, hts⟩ := List.nodup_cons.mp hnodup
    obtain ⟨hfound, htries, hwhich, hhandled⟩ := returns_allocateLogicalAddress h₁
    cases r with
    | none =>
      obtain ⟨rfl, rfl⟩ := returns_pure.mp h
      obtain ⟨halloc, hsame⟩ := allocates_none (c := c) h₁
      have hclient : s'.client = s.client := by rw [htries.onlyDevices]
      refine ⟨halloc, ?_, fun h0 => .inl (stored_congr hclient c 0 ▸ h0), fun _ => hsame⟩
      rw [List.all_cons, ← hfound]
      rfl
    | some a =>
      have h := returns_update_bind.mp h
      have hstep := allocates_type (c := c) h₁
      obtain ⟨halloc, hok, htv, hblocked⟩ := returns_allocateTypes hts h
      let s₂ := s₁.updateConfiguration c fun m =>
        { m with logicalAddresses := m.logicalAddresses.set a }
      have hrest : ∀ u ∈ ts, s₂.findsAddress polls u = s.findsAddress polls u := fun u hu =>
        htries.findsAddress (by rintro rfl; exact ht hu) polls
      refine ⟨(allocates_composable c).trans hstep halloc, ?_, fun h0 => ?_, fun hb => ?_⟩
      · rw [hok, List.all_cons, ← hfound, Option.isSome_some, Bool.true_and, Bool.eq_iff_iff,
          List.all_eq_true, List.all_eq_true]
        exact forall₂_congr fun u hu => by rw [hrest u hu]
      · have hclient : s₁.client = s.client := by rw [htries.onlyDevices]
        rcases htv h0 with h0 | h0
        · rcases (stored_set s₁ c a 0).mp h0 with rfl | h0
          · rcases hwhich 0 rfl with ⟨-, rfl⟩ | ⟨ha, -, -⟩
            · exact .inr List.mem_cons_self
            · exact absurd rfl ha
          · exact .inl (stored_congr hclient c 0 ▸ h0)
        · exact .inr (List.mem_cons_of_mem t h0)
      · rcases eq_or_ne t .tv with rfl | hne
        · have hb₂ : s.isBlocked polls ts := hb
          intro b
          rw [hblocked (isBlocked_congr hrest ▸ hb₂) b]
          change s₁.isHandled b = s.isHandled b
          simp [hhandled b]
        · simp [World.isBlocked, hne, ← hfound] at hb

/-! ### The types that are supported -/

theorem mem_used {l : DeviceTypeList} {t : DeviceType} :
    t ∈ l.used ↔ t ∈ l.types ∧ t ≠ .reserved := by
  simp [DeviceTypeList.used]

theorem used_addTo {t u : DeviceType} :
    ∀ {slots : List DeviceType}, u ∈ DeviceTypeList.addTo t slots → u = t ∨ u ∈ slots
  | [], h => .inr h
  | slot :: slots, h => by
    unfold DeviceTypeList.addTo at h
    split at h
    · exact (List.mem_cons.mp h).imp_right (List.mem_cons_of_mem slot)
    · rcases List.mem_cons.mp h with rfl | h
      · exact .inr List.mem_cons_self
      · exact (used_addTo h).imp_right (List.mem_cons_of_mem slot)

theorem nodup_addTo {t : DeviceType} : ∀ {slots : List DeviceType}, t ∉ slots →
    (slots.filter (· ≠ .reserved)).Nodup →
      ((DeviceTypeList.addTo t slots).filter (· ≠ .reserved)).Nodup
  | [], _, h => h
  | slot :: slots, ht, h => by
    unfold DeviceTypeList.addTo
    split
    · next hslot =>
      have hne : t ≠ .reserved := by rintro rfl; exact ht (hslot ▸ List.mem_cons_self)
      rw [List.filter_cons_of_pos (by simpa using hne)]
      refine List.nodup_cons.mpr ⟨fun hm => ht ?_, ?_⟩
      · exact List.mem_cons_of_mem slot (List.mem_filter.mp hm).1
      · rwa [List.filter_cons_of_neg (by simpa using hslot)] at h
    · next hslot =>
      rw [List.filter_cons_of_pos (by simpa using hslot)] at h ⊢
      obtain ⟨hhead, htail⟩ := List.nodup_cons.mp h
      refine List.nodup_cons.mpr ⟨fun hm => ?_,
        nodup_addTo (fun hm => ht (List.mem_cons_of_mem slot hm)) htail⟩
      obtain ⟨hm, hres⟩ := List.mem_filter.mp hm
      rcases used_addTo hm with rfl | hm
      · exact ht List.mem_cons_self
      · exact hhead (List.mem_filter.mpr ⟨hm, hres⟩)

/-- Each supported type is there once, and is asked for by the client or replaces such a type. -/
theorem used_supportedTypes (h : Handler) (l : DeviceTypeList) : (supportedTypes h l).used.Nodup ∧
    ∀ t ∈ (supportedTypes h l).used, ∃ u ∈ l.used, t = h.getReplacementDeviceType u := by
  have hfold : ∀ (us : List DeviceType) (types : DeviceTypeList), types.used.Nodup →
      (∀ t ∈ types.used, ∃ u ∈ l.used, t = h.getReplacementDeviceType u) → (∀ u ∈ us, u ∈ l.used) →
      let types' := us.foldl (fun types t =>
        let t := h.getReplacementDeviceType t
        if types.isSet t then types else types.add t) types
      types'.used.Nodup ∧ ∀ t ∈ types'.used, ∃ u ∈ l.used, t = h.getReplacementDeviceType u := by
    intro us
    induction us with
    | nil => exact fun types hnodup hfrom _ => ⟨hnodup, hfrom⟩
    | cons u us ih =>
      intro types hnodup hfrom hus
      refine ih _ ?_ ?_ fun v hv => hus v (List.mem_cons_of_mem u hv)
      · dsimp only
        split
        · exact hnodup
        · next hnew => exact nodup_addTo (by simpa [DeviceTypeList.isSet] using hnew) hnodup
      · dsimp only
        split
        · exact hfrom
        · intro t ht
          obtain ⟨ht, hres⟩ := mem_used.mp ht
          rcases used_addTo ht with rfl | ht
          · exact ⟨u, hus u List.mem_cons_self, rfl⟩
          · exact hfrom t (mem_used.mpr ⟨ht, hres⟩)
  refine hfold l.used .clear ?_ ?_ fun _ hu => hu
  · exact List.nodup_nil
  · intro t ht
    exact absurd ht (by simp [DeviceTypeList.used, DeviceTypeList.clear])

/-- No type is replaced by the TV's. -/
theorem tv_supportedTypes {h : Handler} {l : DeviceTypeList}
    (htv : .tv ∈ (supportedTypes h l).used) : .tv ∈ l.used := by
  obtain ⟨u, hu, heq⟩ := (used_supportedTypes h l).2 _ htv
  unfold Handler.getReplacementDeviceType at heq
  split at heq
  · exact absurd heq nofun
  · exact heq ▸ hu

end CEC
