import LibCec.Connection

/-! A controller that has switched to autonomous mode.

    Such a controller rejects commands until it is told to be controlled again. `SendCommand` takes a
    rejection for a sign of it, sets controlled mode and sends the command a second time.

        m_bControlledMode false   command ─ rejected ─▶ SET_CONTROLLED ─ acked ─▶ command
        m_bControlledMode true    command ─ rejected ─────────────────────────▶ command ─ rejected

    Controlled mode that is set already is not set again, and the controller tells nobody that it
    left it: `recovers_iff` says that the recovery works iff the flag is not set. -/

namespace CEC

/-- The controller: whether it is in autonomous mode, and what becomes of a command that it does not
    reject for that. -/
structure Controller where
  autonomous : Bool
  reply : ControllerCommand → ControllerAnswer

namespace Controller

/-- In autonomous mode the controller rejects everything but the command that ends it. -/
def respond (c : Controller) : ControllerCommand → ControllerAnswer × Controller
  | .setControlled b =>
    (c.reply (.setControlled b),
      if (c.reply (.setControlled b)).isTaken then { c with autonomous := !b } else c)
  | command => if c.autonomous then (.rejected, c) else (c.reply command, c)

/-- The answers of the controller to a command, to SET_CONTROLLED when it is sent after a rejection,
    and to the second try. -/
def exchange (c : Controller) (command : ControllerCommand) (bControlledMode : Bool) : Exchange :=
  let first := c.respond command
  let controlled := first.2.respond (.setControlled true)
  { answer := first.1
    controlled := controlled.1
    again := ((if bControlledMode then first.2 else controlled.2).respond command).1 }

end Controller

/-- `SendCommand` follows up a rejection of the command: not of SET_CONTROLLED, nor of GET_BUILDDATE,
    whose message code had another meaning once. -/
def ControllerCommand.FollowedUp (command : ControllerCommand) : Prop :=
  (∀ b, command ≠ .setControlled b) ∧ command ≠ .getBuildDate

/-- In autonomous mode it is rejected. -/
theorem Controller.respond_autonomous {c : Controller} (hauto : c.autonomous)
    {command : ControllerCommand} (hcommand : command.FollowedUp) :
    c.respond command = (.rejected, c) := by
  cases command with
  | setControlled b => exact absurd rfl (hcommand.1 b)
  | _ => exact if_pos hauto

namespace AdapterConnection

/-- What `SendCommand` puts on the wire for a command that is rejected: the command, SET_CONTROLLED,
    and the command again or nothing. -/
def Recovers (s : AdapterConnection) (command : ControllerCommand) (x : Exchange) : Prop :=
  ∃ again, (s.sendCommand command x).2.wire =
      s.wire ++ .sent command false :: .sent (.setControlled true) x.controlled.isTaken :: again ∧
    (again = [] ∨ again = [.sent command x.again.isTaken])

section Rejections

variable {s : AdapterConnection} {command : ControllerCommand} {x : Exchange}

/-- A rejected command is sent again after SET_CONTROLLED was acknowledged, or at once when controlled
    mode is set according to the flag. -/
theorem wire_sendCommand_rejected (hopen : s.isOpen) (hqueue : s.adapterMessageQueue)
    (hrejected : x.answer = .rejected) : (s.sendCommand command x).2.wire = s.wire ++
      if s.bControlledMode then [.sent command false, .sent command x.again.isTaken]
      else .sent command false :: .sent (.setControlled true) x.controlled.isTaken ::
        if x.controlled.isAcked then [.sent command x.again.isTaken] else [] := by
  set s₁ := s.write command .rejected with hs₁
  have hopen₁ : s₁.isOpen := hopen
  have hqueue₁ : s₁.adapterMessageQueue := hqueue
  have hsend : s.sendCommand command x =
      let r := s₁.setControlledMode true x.controlled
      if r.1 then r.2.sendOnce command x.again else (none, r.2) := by
    rw [sendCommand, sendOnce_of_isOpen hopen hqueue, hrejected]
    simp only [if_true]
    rfl
  rw [hsend]
  have hwire₁ : s₁.wire = s.wire ++ [.sent command false] := rfl
  by_cases hmode : s.bControlledMode
  · have hmode₁ : s₁.bControlledMode = true := hmode
    have hset : s₁.setControlledMode true x.controlled = (true, s₁) := by
      simp [setControlledMode, hopen₁, hmode₁]
    simp only [hset, if_pos hmode, if_true, sendOnce_of_isOpen hopen₁ hqueue₁]
    simp [write, hwire₁]
  · have hmode₁ : s₁.bControlledMode = false := Bool.eq_false_iff.mpr hmode
    set s₂ := s₁.write (.setControlled true) x.controlled with hs₂
    have hwire₂ : s₂.wire =
        s.wire ++ [.sent command false, .sent (.setControlled true) x.controlled.isTaken] := by
      simp [hs₂, write, hwire₁]
    have hset : s₁.setControlledMode true x.controlled =
        if x.controlled.isAcked then (true, { s₂ with bControlledMode := true })
        else (false, s₂) := by
      simp [setControlledMode, hopen₁, hmode₁, sendOnce_of_isOpen hopen₁ hqueue₁, hs₂]
    rw [hset, if_neg hmode]
    by_cases hacked : x.controlled.isAcked
    · set s₃ : AdapterConnection := { s₂ with bControlledMode := true } with hs₃
      have hopen₃ : s₃.isOpen := hopen
      have hqueue₃ : s₃.adapterMessageQueue := hqueue
      simp only [if_pos hacked, if_true, sendOnce_of_isOpen hopen₃ hqueue₃]
      simp [write, hs₃, hwire₂]
    · simp only [if_neg hacked, Bool.false_eq_true, if_false]
      exact hwire₂

/-- A command that is not rejected is sent once. -/
theorem wire_sendCommand (hopen : s.isOpen) (hqueue : s.adapterMessageQueue)
    (haccepted : x.answer ≠ .rejected) :
    (s.sendCommand command x).2.wire = s.wire ++ [.sent command x.answer.isTaken] := by
  rw [sendCommand, sendOnce_of_isOpen hopen hqueue]
  simp only [Option.some.injEq, if_neg haccepted]
  rfl

/-- `SendCommand` sends a command at most twice, whatever the controller answers. -/
theorem sendCommand_twice (hopen : s.isOpen) (hqueue : s.adapterMessageQueue)
    (hcommand : command.FollowedUp) : ∃ sent,
    (s.sendCommand command x).2.wire = s.wire ++ sent ∧
      sent.countP (fun e => e = .sent command true ∨ e = .sent command false) ≤ 2 := by
  by_cases hrejected : x.answer = .rejected
  · refine ⟨_, wire_sendCommand_rejected hopen hqueue hrejected, ?_⟩
    split
    · exact List.countP_le_length
    · split
      · -- the command in the middle is another one
        simp [(hcommand.1 true).symm]
      · exact List.countP_le_length
  · exact ⟨_, wire_sendCommand hopen hqueue hrejected, le_trans List.countP_le_length (by simp)⟩

/-- A command that a controller in autonomous mode rejects is recovered iff controlled mode is not set
    according to the flag. -/
theorem recovers_iff {c : Controller} (hauto : c.autonomous) (hcommand : command.FollowedUp)
    (hopen : s.isOpen) (hqueue : s.adapterMessageQueue) :
    s.Recovers command (c.exchange command s.bControlledMode) ↔ s.bControlledMode = false := by
  have hrejected : (c.exchange command s.bControlledMode).answer = .rejected :=
    congrArg Prod.fst (Controller.respond_autonomous hauto hcommand)
  have hwire := @wire_sendCommand_rejected s command _ hopen hqueue hrejected
  constructor
  · rintro ⟨again, hsent, -⟩
    by_contra hmode
    rw [hwire, if_pos (Bool.not_eq_false _ ▸ hmode)] at hsent
    have hsecond := List.append_cancel_left hsent
    simp only [List.cons.injEq, WireEvent.sent.injEq] at hsecond
    exact hcommand.1 true hsecond.2.1.1
  · intro hmode
    rw [hmode, if_neg Bool.false_ne_true] at hwire
    rw [hmode]
    refine ⟨_, hwire, ?_⟩
    split
    · exact .inr rfl
    · exact .inl rfl

end Rejections

/-- A connection that was opened without checks and brought into controlled mode. -/
def controlled : List ConnectionEvent :=
  let x : Exchange := ⟨.acked [], .acked [], .acked []⟩
  [.openConnection ⟨true, true, true, x, ⟨[], false, fun _ => x, [], .acked [], x⟩⟩,
    .setControlledMode true (.acked [])]

/-- The controller is back in autonomous mode, and would take SET_CONTROLLED. -/
def fallenBack : Controller := ⟨true, fun _ => .acked []⟩

/-- A ping that is rejected before controlled mode was ever set. -/
theorem recovers_new : ((controlled.take 1).foldl step initial).Recovers .ping
    (fallenBack.exchange .ping false) :=
  (recovers_iff rfl ⟨by simp, by simp⟩ rfl rfl).mpr rfl

/-- A ping after the controller left controlled mode: it is sent twice, and SET_CONTROLLED is not. -/
theorem not_recovers : ¬ ∀ (es : List ConnectionEvent) (c : Controller)
    (command : ControllerCommand), c.autonomous → command.FollowedUp →
    (es.foldl step initial).isOpen → (es.foldl step initial).adapterMessageQueue →
    (es.foldl step initial).Recovers command
      (c.exchange command (es.foldl step initial).bControlledMode) := by
  intro h
  obtain ⟨again, hsent, -⟩ := h controlled fallenBack .ping rfl ⟨by simp, by simp⟩ rfl rfl
  change [WireEvent.portOpened, .sent (.setControlled true) true, .sent .ping false,
    .sent .ping false] = [WireEvent.portOpened, .sent (.setControlled true) true] ++
      .sent .ping false :: .sent (.setControlled true) true :: again at hsent
  simp at hsent

end AdapterConnection

end CEC
