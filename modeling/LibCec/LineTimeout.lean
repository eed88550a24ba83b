import LibCec.Connection
import LibCec.Schemes.GuardedRun

/-! The line timeout of the adapter, `CUSBCECAdapterCommunication::SetLineTimeout`.

    `CCECAdapterMessageQueue::Write` sets it for every transmission and does not look at what comes
    of it. What is set already is not sent again:

        m_iLineTimeout ≠ iTimeout   m_iLineTimeout := iTimeout ─▶ TRANSMIT_IDLETIME ─▶ acked?
        m_iLineTimeout = iTimeout   true

    `SetLogicalAddresses`, `SetControlledMode` and `WriteEEPROM` store what the controller has acked.
    The line timeout is stored first, so that a command that fails is not sent again:
    `guarded_kept_iff` says which runs come through. -/

namespace CEC

/-- The connection and the line timeout that is taken to be set. `accepted` is history: the timeouts
    whose command was acked. -/
structure LineTimeout where
  connection : AdapterConnection
  iLineTimeout : UInt8
  accepted : List UInt8

/-- A transmission sets its line timeout, or something else happens to the connection. -/
inductive LineTimeoutEvent where
  | setLineTimeout (iTimeout : UInt8) (x : Exchange)
  | connection (e : ConnectionEvent)

namespace LineTimeout

/-- What the constructor leaves. -/
def initial : LineTimeout := ⟨.initial, 0, []⟩

/-- `SetLineTimeout`. -/
def setLineTimeout (iTimeout : UInt8) (x : Exchange) (s : LineTimeout) : Bool × LineTimeout :=
  let bChanged := s.iLineTimeout ≠ iTimeout
  let s := { s with iLineTimeout := iTimeout }
  if bChanged then
    let r := s.connection.execute (.transmitIdletime iTimeout) x
    if r.1 then
      (true, { s with connection := r.2, accepted := s.accepted ++ [iTimeout] })
    else (false, { s with connection := r.2 })
  else (true, s)

def step (s : LineTimeout) : LineTimeoutEvent → LineTimeout
  | .setLineTimeout iTimeout x => (s.setLineTimeout iTimeout x).2
  | .connection e => { s with connection := s.connection.step e }

/-- The line timeout is the last one that was accepted, or the one of the constructor. -/
def Agrees (s : LineTimeout) : Prop := s.iLineTimeout = s.accepted.getLastD 0

instance (s : LineTimeout) : Decidable s.Agrees := inferInstanceAs (Decidable (_ = _))

/-- A call leaves the last line timeout that was accepted. One that fails changes nothing, and the
    next one for the same timeout is not taken for unchanged. -/
def Kept (s : LineTimeout) : LineTimeoutEvent → Prop
  | .setLineTimeout iTimeout x =>
    let r := s.setLineTimeout iTimeout x
    r.2.Agrees ∧ (r.1 = false → r.2.iLineTimeout = s.iLineTimeout ∧ r.2.iLineTimeout ≠ iTimeout)
  | .connection _ => True

/-- The controller accepts a command: at once, or the second time in controlled mode. -/
def Accepts (s : AdapterConnection) (x : Exchange) : Prop :=
  s.isOpen ∧ s.adapterMessageQueue ∧ (x.outcome s.bControlledMode).any ControllerAnswer.isAcked

/-- A call is for the timeout that is set, or its command is accepted. -/
def Sets (s : LineTimeout) : LineTimeoutEvent → Prop
  | .setLineTimeout iTimeout x => s.iLineTimeout = iTimeout ∨ Accepts s.connection x
  | .connection _ => True

/-! ### One call -/

section Calls

variable {s : LineTimeout} {iTimeout : UInt8} {x : Exchange}

/-- The command is acked iff the controller accepts it. -/
theorem execute_iff {c : AdapterConnection} {m : ControllerCommand} :
    (c.execute m x).1 = true ↔ Accepts c x := by
  by_cases hopen : c.isOpen
  · by_cases hqueue : c.adapterMessageQueue
    · rw [AdapterConnection.execute, (AdapterConnection.sendCommand_of_isOpen hopen hqueue).1]
      simp [Accepts, hopen, hqueue]
    · simp [AdapterConnection.execute, AdapterConnection.sendCommand, AdapterConnection.sendOnce,
        Accepts, hqueue]
  · simp [AdapterConnection.execute, AdapterConnection.sendCommand, AdapterConnection.sendOnce,
      Accepts, hopen]

/-- A call for the timeout that is set does nothing. -/
theorem setLineTimeout_self (hset : s.iLineTimeout = iTimeout) :
    s.setLineTimeout iTimeout x = (true, s) := by
  subst hset
  simp [setLineTimeout]

/-- A call for another timeout succeeds iff its command is accepted, and stores it in any case. -/
theorem setLineTimeout_of_ne (hset : s.iLineTimeout ≠ iTimeout) :
    (s.setLineTimeout iTimeout x).2.iLineTimeout = iTimeout ∧
      (Accepts s.connection x → (s.setLineTimeout iTimeout x).1 = true ∧
        (s.setLineTimeout iTimeout x).2.accepted = s.accepted ++ [iTimeout]) ∧
      (¬ Accepts s.connection x → (s.setLineTimeout iTimeout x).1 = false) := by
  simp only [setLineTimeout, hset, ne_eq, not_false_eq_true, if_true,
    ← execute_iff (m := .transmitIdletime iTimeout)]
  split_ifs with hacked
  · exact ⟨rfl, fun _ => ⟨rfl, rfl⟩, fun h => absurd hacked h⟩
  · exact ⟨rfl, fun h => absurd h hacked, fun _ => rfl⟩

/-- Where the line timeout is the accepted one, a call keeps it so iff it is for that one or its
    command is accepted. -/
theorem kept_iff_sets {e : LineTimeoutEvent} (hagrees : s.Agrees) : s.Kept e ↔ s.Sets e := by
  cases e with
  | connection e => exact Iff.rfl
  | setLineTimeout iTimeout x =>
    simp only [Kept, Sets]
    by_cases hset : s.iLineTimeout = iTimeout
    · rw [setLineTimeout_self hset]
      simp [hset, hagrees]
    · obtain ⟨hstored, htaken, hfailed⟩ := @setLineTimeout_of_ne s iTimeout x hset
      by_cases haccepts : Accepts s.connection x
      · obtain ⟨hreturn, haccepted⟩ := htaken haccepts
        simp [haccepts, hreturn, Agrees, hstored, haccepted]
      · -- the timeout is stored although the controller did not take it
        have hreturn := hfailed haccepts
        simp [haccepts, hreturn, hstored, hset]

theorem agrees_step {e : LineTimeoutEvent} (hagrees : s.Agrees) (hsets : s.Sets e) :
    (s.step e).Agrees := by
  have hkept := (kept_iff_sets hagrees).mpr hsets
  cases e with
  | connection e => exact hagrees
  | setLineTimeout iTimeout x => exact hkept.1

end Calls

/-! ### Runs -/

/-- Every call of a run leaves the accepted line timeout iff every call is for the timeout that is
    set or has its command accepted. -/
theorem guarded_kept_iff (es : List LineTimeoutEvent) :
    Schemes.Guarded step Kept initial es ↔ Schemes.Guarded step Sets initial es :=
  Schemes.guarded_iff Agrees (fun _ _ h => kept_iff_sets h) (fun _ _ h hs => agrees_step h hs) es
    rfl

/-- A connection that is opened without checks, and a transmission whose TRANSMIT_IDLETIME is not
    answered. -/
def unanswered : List LineTimeoutEvent :=
  let x : Exchange := ⟨.acked [], .acked [], .acked []⟩
  [.connection (.openConnection ⟨true, true, true, x, ⟨[], false, fun _ => x, [], .acked [], x⟩⟩),
    .setLineTimeout 3 ⟨.unsent, .unsent, .unsent⟩]

/-- The line timeout is 3 then, and none was accepted. -/
theorem not_guarded_kept : ¬ ∀ es, Schemes.Guarded step Kept initial es := by
  intro h
  obtain ⟨-, hkept, -⟩ := h unanswered
  exact absurd hkept.1 (by decide)

end LineTimeout

end CEC
