import LibCec.Acknowledgements
import LibCec.Configuration

/-! The address that the i.MX adapter has registered.

    The kernel takes one address at a time. `SetLogicalAddresses` registers the primary one, and
    losing it registers `CECDEVICE_BROADCAST` in its place; the adapter remembers what it did when
    the kernel has agreed:

        SetLogicalAddresses        ioctl(primary)   ─▶ m_logicalAddress := primary, registered
        HandleLogicalAddressLost   ioctl(BROADCAST) ─▶ m_logicalAddress := unknown, not registered

    `GetLogicalAddresses` is to tell the two apart by the bits that `CECDEVICE_UNKNOWN` and
    `CECDEVICE_UNREGISTERED` have. Unknown is `-1` and has them all, so that only the TV's address,
    which has none, gets through. -/

namespace CEC

/-- `CIMXCECAdapterCommunication`, what it knows of its address. -/
structure ImxAdapter where
  logicalAddress : LogicalAddress
  registered : Bool
  deriving DecidableEq

namespace ImxAdapter

/-- What the constructor leaves. -/
def initial : ImxAdapter := ⟨.unknown, false⟩

/-- `RegisterLogicalAddress`: whether it succeeds, and what it leaves; `ioctl` is whether the kernel
    agrees. -/
def registerLogicalAddress (s : ImxAdapter) (address : LogicalAddress) (ioctl : Bool) :
    Bool × ImxAdapter :=
  if s.logicalAddress = address ∧ s.registered then (true, s)
  else if !ioctl then (false, s)
  else (true, ⟨address, true⟩)

/-- `UnregisterLogicalAddress`. -/
def unregisterLogicalAddress (s : ImxAdapter) (ioctl : Bool) : Bool × ImxAdapter :=
  if !s.registered then (true, s)
  else if !ioctl then (false, s)
  else (true, ⟨.unknown, false⟩)

/-- `SetLogicalAddresses`. -/
def setLogicalAddresses (s : ImxAdapter) (addresses : LogicalAddresses) (ioctl : Bool) :
    Bool × ImxAdapter :=
  s.registerLogicalAddress (.addr addresses.primary) ioctl

/-- `HandleLogicalAddressLost`. -/
def handleLogicalAddressLost (s : ImxAdapter) (_ : LogicalAddress) (ioctl : Bool) :
    Bool × ImxAdapter :=
  s.unregisterLogicalAddress ioctl

/-- `GetLogicalAddresses`. -/
def getLogicalAddresses (s : ImxAdapter) : LogicalAddresses :=
  if s.logicalAddress.toWord &&& (LogicalAddress.unknown.toWord ||| LogicalAddress.broadcast.toWord) = 0
  then
    match s.logicalAddress with
    | .addr a => LogicalAddresses.clear.set a
    | .unknown => .clear
  else .clear

/-! ### Histories -/

/-- A call that registers an address or gives it up, with the kernel's answer. -/
inductive Call where
  | setLogicalAddresses (addresses : LogicalAddresses) (ioctl : Bool)
  | handleLogicalAddressLost (oldAddress : LogicalAddress) (ioctl : Bool)

def call (s : ImxAdapter) : Call → Bool × ImxAdapter
  | .setLogicalAddresses addresses ioctl => s.setLogicalAddresses addresses ioctl
  | .handleLogicalAddressLost oldAddress ioctl => s.handleLogicalAddressLost oldAddress ioctl

/-- The calls, and which of them succeeded. -/
def history : ImxAdapter → List Call → List (Call × Bool)
  | _, [] => []
  | s, c :: cs => (c, (s.call c).1) :: history (s.call c).2 cs

/-- What the calls leave. -/
def after (s : ImxAdapter) (cs : List Call) : ImxAdapter := cs.foldl (fun s c => (s.call c).2) s

/-- What one call does to the registration in force. -/
def inForceAfter : Option (Fin 16) → Call × Bool → Option (Fin 16)
  | _, (.setLogicalAddresses addresses _, true) => some addresses.primary
  | _, (.handleLogicalAddressLost _ _, true) => none
  | r, (_, false) => r

/-- The address of the last successful registration, if no successful unregistration came after
    it. -/
def inForce (h : List (Call × Bool)) : Option (Fin 16) := h.foldl inForceAfter none

/-! ### What the adapter remembers -/

/-- The adapter remembers the registration in force. -/
def Remembers (s : ImxAdapter) (r : Option (Fin 16)) : Prop :=
  match r with
  | some a => s = ⟨.addr a, true⟩
  | none => s = ⟨.unknown, false⟩

theorem remembers_call {s : ImxAdapter} {r : Option (Fin 16)} (h : s.Remembers r) (c : Call) :
    (s.call c).2.Remembers (inForceAfter r (c, (s.call c).1)) := by
  cases c with
  | setLogicalAddresses addresses ioctl =>
    simp only [call, setLogicalAddresses, registerLogicalAddress]
    split
    · next hsame =>
      cases r with
      | none =>
        obtain rfl : s = ⟨.unknown, false⟩ := h
        exact absurd hsame.2 Bool.false_ne_true
      | some a =>
        obtain rfl : s = ⟨.addr a, true⟩ := h
        exact congrArg (ImxAdapter.mk · true) hsame.1
    · cases ioctl with
      | false => exact h
      | true => rfl
  | handleLogicalAddressLost oldAddress ioctl =>
    simp only [call, handleLogicalAddressLost, unregisterLogicalAddress]
    split
    · next hnone =>
      cases r with
      | none => exact h
      | some a =>
        obtain rfl : s = ⟨.addr a, true⟩ := h
        exact absurd hnone Bool.false_ne_true
    · cases ioctl with
      | false => exact h
      | true => rfl

theorem remembers_after : ∀ (cs : List Call) {s : ImxAdapter} {r : Option (Fin 16)},
    s.Remembers r → (s.after cs).Remembers ((s.history cs).foldl inForceAfter r)
  | [], _, _, h => h
  | c :: cs, _, _, h => remembers_after cs (remembers_call h c)

/-- `GetLogicalAddresses` knows of a registration of the TV's address only. -/
theorem getLogicalAddresses_eq {s : ImxAdapter} {r : Option (Fin 16)} (h : s.Remembers r) :
    s.getLogicalAddresses = if r = some 0 then LogicalAddresses.clear.set 0 else .clear := by
  cases r with
  | none =>
    obtain rfl : s = ⟨.unknown, false⟩ := h
    rfl
  | some a =>
    obtain rfl : s = ⟨.addr a, true⟩ := h
    have hmask : ∀ a : Fin 16, ((LogicalAddress.addr a).toWord &&&
        (LogicalAddress.unknown.toWord ||| LogicalAddress.broadcast.toWord) = 0) ↔ a = 0 := by decide
    simp only [getLogicalAddresses, hmask, Option.some.injEq]
    split
    · next ha => rw [ha]
    · rfl

/-! ### The registration in force and what is told of it -/

/-- After any calls, `GetLogicalAddresses` returns the set of exactly the address whose registration
    is in force, iff there is none in force or it is the TV's. -/
theorem getLogicalAddresses_iff (cs : List Call) :
    (∀ b, (initial.after cs).getLogicalAddresses.isSet b ↔ inForce (initial.history cs) = some b) ↔
      inForce (initial.history cs) = none ∨ inForce (initial.history cs) = some 0 := by
  have hinitial : initial.Remembers none := rfl
  have hset := getLogicalAddresses_eq (remembers_after cs hinitial)
  change (initial.after cs).getLogicalAddresses = if inForce (initial.history cs) = some 0 then _ else _
    at hset
  rw [hset]
  cases hforce : inForce (initial.history cs) with
  | none => simp
  | some a =>
    by_cases ha : a = 0
    · subst ha
      refine iff_of_true (fun b => ?_) (.inr rfl)
      rw [if_pos rfl, LogicalAddresses.isSet_set, LogicalAddresses.isSet_clear, Option.some.injEq]
      simp only [Bool.false_eq_true, or_false, eq_comm]
    · simp only [Option.some.injEq, ha, if_false, LogicalAddresses.isSet_clear, reduceCtorEq, or_self,
        iff_false, not_forall]
      exact ⟨a, by simp⟩

/-- A playback device's address is registered, and `GetLogicalAddresses` returns an empty set. -/
theorem registered_address_is_hidden :
    ¬ ∀ (cs : List Call) (b : Fin 16),
      (initial.after cs).getLogicalAddresses.isSet b ↔ inForce (initial.history cs) = some b := by
  intro h
  have hfour := (h [.setLogicalAddresses (LogicalAddresses.clear.set 4) true] 4).mpr (by decide)
  exact absurd hfour (by decide)

end ImxAdapter

end CEC
