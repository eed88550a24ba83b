import LibCec.PollBookkeeping
import LibCec.Registration

/-! The address that the Raspberry Pi adapter reports as lost.

    VideoCore reports an address, or that an attempt to get one failed, and that an address was
    taken by another device. The adapter keeps the address and the one before it:

        VC_CEC_LOGICAL_ADDR, success   previous := current, current := p0 & 0xF
        VC_CEC_LOGICAL_ADDR, failure   previous := current, current := CECDEVICE_FREEUSE
        VC_CEC_LOGICAL_ADDR_LOST       report current, or previous if current is FREEUSE;
                                       current := unknown

    Unknown is `-1`. It stands in `current` until VideoCore has reported an address, and in `previous`
    when that address is the first since then, and it passes the test
    `oldAddress < CECDEVICE_BROADCAST` of the processor. -/

namespace CEC
open Schemes Procedure

/-! ### `CCECProcessor::HandleLogicalAddressLost` -/

/-- `CCECDeviceMap::At`: the map has a device for each of `0..15`. -/
def deviceMapAt (iAddress : UInt8) : Option (Fin 16) :=
  if h : iAddress.toNat < 16 then some ⟨iAddress.toNat, h⟩ else none

/-- The device that `HandleLogicalAddressLost` dereferences behind its test of the address. -/
def dereferenced (oldAddress : LogicalAddress) : List (Option (Fin 16)) :=
  if oldAddress.toInt < LogicalAddress.broadcast.toInt then [deviceMapAt oldAddress.toByte] else []

/-- `GetClient` of an address that may be unknown. -/
def World.clientAt (w : World) : LogicalAddress → Option ClientId
  | .unknown => none
  | .addr a => w.clients a

/-- A call of a device that `At` returned; a missing one is the end of the program. -/
def callDevice (f : Fin 16 → Proc Unit) : Option (Fin 16) → Proc Unit
  | some a => f a
  | none => stuck

/-- `HandleLogicalAddressLost`, with whatever address the adapter passes to it. -/
def handleAddressLost (oldAddress : LogicalAddress) : Proc (Option ClientId) := do
  update fun w => { w with stallCommunication := true }
  setDeviceStatus 0 .unknown
  forEach (callDevice (setDeviceStatus · .unknown)) (dereferenced oldAddress)
  discard (getVendorId 0 15)
  ask fun w => (w.clientAt oldAddress).or w.primaryClient

/-- The device is there iff the address is known. -/
theorem missing_dereferenced_iff (a : LogicalAddress) : none ∈ dereferenced a ↔ ¬a.IsKnown := by
  cases a with
  | unknown => decide
  | addr a =>
    revert a
    decide

theorem dereferenced_addr (a : Fin 16) :
    dereferenced (.addr a) = if a < 15 then [some a] else [] := by
  revert a
  decide

/-- With a known address it is the function that reallocates the address. -/
theorem handleAddressLost_addr (a : Fin 16) :
    handleAddressLost (.addr a) = handleLogicalAddressLost a := by
  have hdevice : forEach (callDevice (setDeviceStatus · .unknown)) (dereferenced (.addr a)) =
      callWhen (a < 15) (setDeviceStatus a .unknown) := by
    rw [dereferenced_addr, callWhen, callOr]
    by_cases ha : a < 15
    · rw [if_pos ha, if_pos ha]
      exact bind_pure _
    · rw [if_neg ha, if_neg ha]
      rfl
  rw [handleAddressLost, handleLogicalAddressLost, hdevice]
  rfl

/-- With the unknown one it never comes back. -/
theorem not_returns_unknown {w w' : World} {client : Option ClientId} :
    ¬Returns (handleAddressLost .unknown) w client w' := by
  intro h
  have h := returns_update_bind.mp h
  obtain ⟨_, w₁, -, h⟩ := returns_bind.mp h
  obtain ⟨_, w₂, hdevice, -⟩ := returns_bind.mp h
  obtain ⟨_, w₃, hstuck, -⟩ := returns_bind.mp hdevice
  exact not_returns_stuck hstuck

/-! ### The adapter -/

/-- `CRPiCECAdapterCommunication`, what it knows of its address. -/
structure RpiAdapter where
  initialised : Bool
  logicalAddress : LogicalAddress
  logicalAddressChanged : Bool
  previousLogicalAddress : LogicalAddress
  logicalAddressRegistered : Bool
  disableCallbacks : Bool
  deriving DecidableEq

namespace RpiAdapter

/-- `CECDEVICE_FREEUSE`. -/
abbrev freeUse : LogicalAddress := .addr 14

/-- What the constructor leaves. -/
def initial : RpiAdapter where
  initialised := false
  logicalAddress := .unknown
  logicalAddressChanged := false
  previousLogicalAddress := freeUse
  logicalAddressRegistered := false
  disableCallbacks := false

variable (s : RpiAdapter)

/-- The address that a `VC_CEC_LOGICAL_ADDR` callback reports. -/
def reportedAddress (p0 : UInt32) : Fin 16 := ⟨(p0 &&& 0xF).toNat, by
  rw [UInt32.toNat_and]
  exact Nat.lt_succ_of_le Nat.and_le_right⟩

/-- `VC_CEC_LOGICAL_ADDR`; `success` is whether `CEC_CB_RC` is `VCHIQ_SUCCESS`. -/
def onLogicalAddr (success : Bool) (p0 : UInt32) : RpiAdapter :=
  let s := { s with previousLogicalAddress := s.logicalAddress }
  if success then
    { s with
      logicalAddressChanged := true
      logicalAddress := .addr (reportedAddress p0)
      logicalAddressRegistered := true }
  else { s with logicalAddress := freeUse }

/-- `VC_CEC_LOGICAL_ADDR_LOST`: what it leaves, and the address that `HandleLogicalAddressLost` is
    called with, if it is. -/
def onLogicalAddrLost : RpiAdapter × Option LogicalAddress :=
  let previousAddress :=
    if s.logicalAddress = freeUse then s.previousLogicalAddress else s.logicalAddress
  let s := { s with logicalAddress := .unknown }
  (s, if s.initialised && s.logicalAddressRegistered then some previousAddress else none)

/-- `Close`. -/
def close : RpiAdapter :=
  if s.initialised then { s with initialised := false, disableCallbacks := true } else s

/-- `UnregisterLogicalAddress`, up to its request. -/
def unregister : RpiAdapter :=
  if !s.initialised then s
  else { s with logicalAddressRegistered := false, logicalAddressChanged := false }

/-! ### Runs -/

/-- A callback of VideoCore, or a step of a thread that uses the adapter. -/
inductive Event where
  | logicalAddr (success : Bool) (p0 : UInt32)
  | logicalAddrLost
  | setDisableCallback (disable : Bool)
  | opened
  | close
  | unregister
  | clearChanged

/-- One event, and the address that `HandleLogicalAddressLost` is called with in it. -/
def step : Event → RpiAdapter × Option LogicalAddress
  | .logicalAddr success p0 =>
    if s.disableCallbacks then (s, none) else (s.onLogicalAddr success p0, none)
  | .logicalAddrLost => if s.disableCallbacks then (s, none) else s.onLogicalAddrLost
  | .setDisableCallback disable => ({ s with disableCallbacks := disable }, none)
  | .opened => ({ s with initialised := true }, none)
  | .close => (s.close, none)
  | .unregister => (s.unregister, none)
  | .clearChanged => ({ s with logicalAddressChanged := false }, none)

/-- The adapter after some events. -/
def after (es : List Event) : RpiAdapter := es.foldl (fun s e => (s.step e).1) initial

/-- `HandleLogicalAddressLost` is called with addresses of `0..15` only, and the device that it
    dereferences is there. -/
def LosesKnown (es : List Event) : Prop :=
  ∀ past e later a, es = past ++ e :: later → ((after past).step e).2 = some a →
    a.IsKnown ∧ none ∉ dereferenced a

/-- A loss is passed on to libCEC. -/
def Notifies : Prop :=
  s.disableCallbacks = false ∧ s.initialised = true ∧ s.logicalAddressRegistered = true

/-- What one event does to the addresses that VideoCore has reported since the last loss, the latest
    one first; a failure counts as `CECDEVICE_FREEUSE`. -/
def heardAfter (heard : List (Fin 16)) : Event → List (Fin 16)
  | .logicalAddr success p0 =>
    if s.disableCallbacks then heard else (if success then reportedAddress p0 else 14) :: heard
  | .logicalAddrLost => if s.disableCallbacks then heard else []
  | _ => heard

def heardFrom : RpiAdapter → List (Fin 16) → List Event → List (Fin 16)
  | _, heard, [] => heard
  | s, heard, e :: es => heardFrom (s.step e).1 (s.heardAfter heard e) es

/-- The addresses that VideoCore has reported since the last loss. -/
def heard (es : List Event) : List (Fin 16) := heardFrom initial [] es

/-- At every loss that is passed on, VideoCore has reported two addresses since the loss before it,
    or one that is not `CECDEVICE_FREEUSE`. -/
def ReportsBeforeLoss (es : List Event) : Prop :=
  ∀ past later, es = past ++ .logicalAddrLost :: later → (after past).Notifies →
    heard past ≠ [] ∧ heard past ≠ [14]

/-! ### What the two fields hold -/

/-- The fields hold the last two addresses, unknown where there is none. -/
def Recalls : List (Fin 16) → Prop
  | [] => s.logicalAddress = .unknown
  | [a] => s.logicalAddress = .addr a ∧ s.previousLogicalAddress = .unknown
  | a :: b :: _ => s.logicalAddress = .addr a ∧ s.previousLogicalAddress = .addr b

variable {s} {heard : List (Fin 16)}

theorem Recalls.congr {t : RpiAdapter} (h : s.Recalls heard)
    (hcurrent : t.logicalAddress = s.logicalAddress)
    (hprevious : t.previousLogicalAddress = s.previousLogicalAddress) : t.Recalls heard := by
  match heard, h with
  | [], h => exact hcurrent.trans h
  | [_], h => exact ⟨hcurrent.trans h.1, hprevious.trans h.2⟩
  | _ :: _ :: _, h => exact ⟨hcurrent.trans h.1, hprevious.trans h.2⟩

/-- A new address moves the old one to the other field. -/
theorem Recalls.cons {t : RpiAdapter} {a : Fin 16} (h : s.Recalls heard)
    (hcurrent : t.logicalAddress = .addr a)
    (hprevious : t.previousLogicalAddress = s.logicalAddress) : t.Recalls (a :: heard) := by
  match heard, h with
  | [], h => exact ⟨hcurrent, hprevious.trans h⟩
  | [_], h => exact ⟨hcurrent, hprevious.trans h.1⟩
  | _ :: _ :: _, h => exact ⟨hcurrent, hprevious.trans h.1⟩

theorem Recalls.step (h : s.Recalls heard) (e : Event) :
    (s.step e).1.Recalls (s.heardAfter heard e) := by
  cases e with
  | logicalAddr success p0 =>
    simp only [RpiAdapter.step, heardAfter]
    split
    · exact h
    · cases success with
      | true => exact h.cons rfl rfl
      | false => exact h.cons rfl rfl
  | logicalAddrLost =>
    simp only [RpiAdapter.step, heardAfter]
    split
    · exact h
    · exact rfl
  | setDisableCallback disable => exact h.congr rfl rfl
  | opened => exact h.congr rfl rfl
  | close =>
    simp only [RpiAdapter.step, heardAfter, RpiAdapter.close]
    split
    · exact h.congr rfl rfl
    · exact h
  | unregister =>
    simp only [RpiAdapter.step, heardAfter, RpiAdapter.unregister]
    split
    · exact h
    · exact h.congr rfl rfl
  | clearChanged => exact h.congr rfl rfl

theorem recalls_foldl : ∀ (es : List Event) {s : RpiAdapter} {heard : List (Fin 16)},
    s.Recalls heard → (es.foldl (fun s e => (s.step e).1) s).Recalls (heardFrom s heard es)
  | [], _, _, h => h
  | e :: es, _, _, h => recalls_foldl es (h.step e)

/-- After any events. -/
theorem recalls_after (es : List Event) : (after es).Recalls (RpiAdapter.heard es) := by
  have hinitial : initial.Recalls [] := rfl
  exact recalls_foldl es hinitial

/-- The address that a loss reports is known when there are two to choose from, or one that is not
    `CECDEVICE_FREEUSE`. -/
theorem Recalls.known_iff (h : s.Recalls heard) :
    (if s.logicalAddress = freeUse then s.previousLogicalAddress else s.logicalAddress).IsKnown ↔
      heard ≠ [] ∧ heard ≠ [14] := by
  match heard, h with
  | [], h =>
    obtain h : s.logicalAddress = .unknown := h
    simp [h, LogicalAddress.IsKnown]
  | [a], h =>
    rw [h.1, h.2]
    by_cases ha : a = 14
    · simp [ha, LogicalAddress.IsKnown]
    · simp [ha, LogicalAddress.IsKnown]
  | a :: b :: _, h =>
    rw [h.1, h.2]
    by_cases ha : a = 14
    · simp [ha, LogicalAddress.IsKnown]
    · simp [ha, LogicalAddress.IsKnown]

/-! ### Losses -/

/-- Only a loss that is passed on reports an address, the one of the two fields. -/
theorem step_reports_iff {e : Event} {a : LogicalAddress} :
    (s.step e).2 = some a ↔ e = .logicalAddrLost ∧ s.Notifies ∧
      a = if s.logicalAddress = freeUse then s.previousLogicalAddress else s.logicalAddress := by
  cases e with
  | logicalAddr success p0 =>
    simp only [RpiAdapter.step]
    split
    · simp
    · simp
  | logicalAddrLost =>
    simp only [RpiAdapter.step, Notifies, true_and]
    cases hdisabled : s.disableCallbacks with
    | true => simp
    | false =>
      simp only [onLogicalAddrLost, Bool.false_eq_true, if_false, true_and,
        Option.ite_none_right_eq_some, Bool.and_eq_true, Option.some.injEq]
      rw [@eq_comm _ a]
  | setDisableCallback disable => simp [RpiAdapter.step]
  | opened => simp [RpiAdapter.step]
  | close => simp [RpiAdapter.step]
  | unregister => simp [RpiAdapter.step]
  | clearChanged => simp [RpiAdapter.step]

/-- The addresses reported as lost are known, and their devices are there, iff VideoCore reports an
    address before each loss. -/
theorem losesKnown_iff (es : List Event) : LosesKnown es ↔ ReportsBeforeLoss es := by
  constructor
  · intro h past later hes hnotifies
    have hreports := step_reports_iff.mpr ⟨rfl, hnotifies, rfl⟩
    exact (recalls_after past).known_iff.mp (h past .logicalAddrLost later _ hes hreports).1
  · intro h past e later a hes hreports
    obtain ⟨rfl, hnotifies, rfl⟩ := step_reports_iff.mp hreports
    have hknown := (recalls_after past).known_iff.mpr (h past later hes hnotifies)
    exact ⟨hknown, fun hmissing => (missing_dereferenced_iff _).mp hmissing hknown⟩

/-- The address `CECDEVICE_FREEUSE` that `Open` has registered is lost. -/
theorem not_losesKnown : ¬ ∀ es, LosesKnown es := by
  intro h
  have hfree := h ([.clearChanged, .logicalAddr true 14, .opened] ++ .logicalAddrLost :: [])
    [.clearChanged, .logicalAddr true 14, .opened] .logicalAddrLost [] .unknown rfl (by decide)
  exact absurd hfree.1 (by decide)

end RpiAdapter

end CEC
