import LibCec.Connection
import LibCec.Schemes.GuardedRun

/-! The ack mask over the life of a connection.

    `Open` and `Close` are to set the mask to 0, and in between the mask of the adapter is to be the
    one of the addresses that are kept, so that a mask can be skipped when they don't change:

        portOpened ─▶ ack mask 0 ─▶ … ─▶ ack mask A ─▶ … ─▶ ack mask 0 ─▶ portClosed
                      not sent           kept A              not sent

    `maskKept_iff` says which runs keep this: the ones in which no `Open` connects. What is left of it
    is `maskKnown_iff_of_run`: the mask is known once a mask was taken in the connection. -/

namespace CEC
open Schemes

/-! ### What a connection should keep -/

/-- The masks that were taken since the port was opened, the last one last. -/
def masksTaken (wire : List WireEvent) : List UInt16 :=
  wire.foldl (fun (masks : List UInt16) (e : WireEvent) =>
    match e with
    | .portOpened => []
    | .sent (.setAckMask iMask) true => masks ++ [iMask]
    | _ => masks) []

/-- The command of an event on the wire. -/
def WireEvent.command : WireEvent → Option ControllerCommand
  | .sent command _ => some command
  | _ => none

namespace AdapterConnection

/-- The last mask that was taken in this connection, if any. -/
def lastMask (s : AdapterConnection) : Option UInt16 := (masksTaken s.wire).getLast?

/-- The commands that were sent after `s`, until the port was closed. -/
def sentSince (s s' : AdapterConnection) : List ControllerCommand :=
  ((s'.wire.drop s.wire.length).takeWhile (· ≠ .portClosed)).filterMap WireEvent.command

/-- While the connection is open, the mask of the adapter is the one of the addresses that are
    kept. -/
def MaskKnown (s : AdapterConnection) : Prop :=
  s.isOpen → s.lastMask = some s.logicalAddresses.ackMask

/-- An `Open` that succeeds had mask 0 taken. A `Close` of an open connection without port error
    sends mask 0 and, for firmware version 2 or later, leaves controlled mode before the port is
    closed. -/
def Resets (s : AdapterConnection) : ConnectionEvent → Prop
  | .openConnection c => (s.openConnection c).1 → 0 ∈ masksTaken (s.openConnection c).2.wire
  | .closeConnection c => s.isOpen → c.portError = false →
      .setAckMask 0 ∈ s.sentSince (s.closeConnection c) ∧
        (2 ≤ s.iFirmwareVersion →
          .setControlled false ∈ s.sentSince (s.closeConnection c) ∨
            (s.closeConnection c).bControlledMode = false)
  | _ => True

/-- What one step has to keep. -/
def Kept (s : AdapterConnection) (e : ConnectionEvent) : Prop := s.Resets e ∧ (s.step e).MaskKnown

instance (s : AdapterConnection) : Decidable s.MaskKnown := inferInstanceAs (Decidable (_ → _))

instance (s : AdapterConnection) : ∀ e, Decidable (s.Resets e)
  | .openConnection _ => inferInstanceAs (Decidable (_ → _))
  | .closeConnection _ => inferInstanceAs (Decidable (_ → _ → _ ∧ (_ → _ ∨ _)))
  | .setLogicalAddresses _ _ | .setControlledMode _ _ | .pingAdapter _ | .stopReader | .readerEnds
  | .settingChanged | .writeFails => inferInstanceAs (Decidable True)

instance (s : AdapterConnection) (e : ConnectionEvent) : Decidable (s.Kept e) :=
  inferInstanceAs (Decidable (_ ∧ _))

/-! ### What `Open` and `Close` do to the mask -/

variable {s s' : AdapterConnection} {c : OpenCall}

/-- A mask that is not sent is not taken. -/
theorem Sends.masksTaken {p : ControllerCommand → Prop} (h : Sends p s s')
    (hp : ∀ iMask, ¬ p (.setAckMask iMask)) : masksTaken s'.wire = masksTaken s.wire := by
  obtain ⟨sent, hsent, hcommand⟩ := h.wire
  rw [hsent, CEC.masksTaken, List.foldl_append, ← CEC.masksTaken]
  clear hsent
  induction sent with
  | nil => rfl
  | cons e sent ih =>
    obtain ⟨m, taken, rfl, hm⟩ := hcommand e List.mem_cons_self
    have hsame : ∀ iMask, m ≠ .setAckMask iMask := fun iMask hmask => hp iMask (hmask ▸ hm)
    rw [List.foldl_cons]
    cases m with
    | setAckMask iMask => exact absurd rfl (hsame iMask)
    | _ => exact ih fun e he => hcommand e (List.mem_cons_of_mem _ he)

/-- An `Open` that opens the port has had no mask taken. -/
theorem masksTaken_openConnection (hrun : s.bRunning = false) (hport : s.portIsOpen = false)
    (hopens : c.portOpens = true) :
    masksTaken (s.openConnection c).2.wire = [] ∧ (s.openConnection c).2.portIsOpen = true := by
  have hsent := sends_started (s := s) (c := c)
  have hmasks := hsent.masksTaken fun iMask h => h iMask rfl
  have hnone : masksTaken s.started.wire = [] := by simp [started, masksTaken]
  rw [openConnection_of_not_running hrun, hport, hopens]
  generalize (if c.bSkipChecks then (true, s.started)
    else s.started.checkAdapter c.checks) = r at hsent hmasks ⊢
  obtain ⟨ok, t⟩ := r
  have hwire : masksTaken t.wire = [] ∧ t.portIsOpen = true :=
    ⟨hmasks.trans hnone, hsent.portIsOpen⟩
  cases ok <;> cases c.bStartListening <;> exact hwire

/-- Closing the port takes no mask. -/
theorem masksTaken_closePort : masksTaken s.closePort.wire = masksTaken s.wire := by
  rw [closePort]
  split
  · simp [masksTaken]
  · rfl

@[simp] theorem bRunning_closePort : s.closePort.bRunning = s.bRunning := by
  rw [closePort]
  split <;> rfl

@[simp] theorem portIsOpen_closePort : s.closePort.portIsOpen = s.portIsOpen := by
  rw [closePort]
  split <;> rfl

@[simp] theorem logicalAddresses_closePort :
    s.closePort.logicalAddresses = s.logicalAddresses := by
  rw [closePort]
  split <;> rfl

/-! ### The mask along a run -/

/-- The last mask that was taken is the one of the addresses that are kept, or there is none. -/
def MaskCurrent (s : AdapterConnection) : Prop :=
  s.lastMask = none ∨ s.lastMask = some s.logicalAddresses.ackMask

/-- The answer to a mask is not lost. -/
def NoMaskLost (_ : AdapterConnection) : ConnectionEvent → Prop
  | .setLogicalAddresses _ x => x.answer ≠ .lost ∧ x.again ≠ .lost
  | _ => True

/-- A mask whose answer is not lost is taken when it is acknowledged. -/
theorem masksTaken_sendOnce {i : UInt16} {a : ControllerAnswer} (ha : a ≠ .lost) :
    masksTaken (s.sendOnce (.setAckMask i) a).2.wire =
      if (s.sendOnce (.setAckMask i) a).1.any ControllerAnswer.isAcked then
        masksTaken s.wire ++ [i]
      else masksTaken s.wire := by
  rw [sendOnce]
  split
  · rfl
  · simp only [write, masksTaken, List.foldl_append, List.foldl_cons, List.foldl_nil,
      Option.any_some]
    cases a with
    | lost => exact absurd rfl ha
    | _ => rfl

theorem masksTaken_setAckMask {i : UInt16} {x : Exchange} (hanswer : x.answer ≠ .lost)
    (hagain : x.again ≠ .lost) : masksTaken (s.setAckMask i x).2.wire =
      if (s.setAckMask i x).1 then masksTaken s.wire ++ [i] else masksTaken s.wire := by
  have hfirst := masksTaken_sendOnce (s := s) (i := i) hanswer
  have hset := (sends_setControlledMode (s := (s.sendOnce (.setAckMask i) x.answer).2)
    (a := x.controlled) (p := fun m => m = .setControlled true) (b := true) rfl).masksTaken
      (by simp)
  simp only [setAckMask, execute, sendCommand]
  by_cases hrejected : (s.sendOnce (.setAckMask i) x.answer).1 = some .rejected
  · rw [hrejected] at hfirst
    have hnone : masksTaken ((s.sendOnce (.setAckMask i) x.answer).2.setControlledMode true
        x.controlled).2.wire = masksTaken s.wire := hset.trans hfirst
    by_cases hok : ((s.sendOnce (.setAckMask i) x.answer).2.setControlledMode true
        x.controlled).1 = true
    · simp only [hrejected, hok, if_true]
      rw [masksTaken_sendOnce hagain, hnone]
    · simp only [hrejected, hok, if_true]
      exact hnone
  · simp only [hrejected, if_false]
    exact hfirst

/-- What the mask rests on: the port is open while the reader thread runs. -/
structure MaskInv (s : AdapterConnection) : Prop where
  portIsOpen : s.bRunning → s.portIsOpen
  current : s.MaskCurrent

/-- A step that keeps the addresses and the masks keeps them in line. -/
theorem MaskInv.of_eq {t : AdapterConnection} (h : s.MaskInv)
    (hport : t.bRunning → t.portIsOpen) (haddresses : t.logicalAddresses = s.logicalAddresses)
    (hmasks : masksTaken t.wire = masksTaken s.wire) : t.MaskInv := by
  refine ⟨hport, ?_⟩
  rw [MaskCurrent, lastMask, hmasks, haddresses]
  exact h.current

theorem MaskInv.sends {p : ControllerCommand → Prop} {t : AdapterConnection} (h : s.MaskInv)
    (hsent : Sends p s t) (hp : ∀ iMask, ¬ p (.setAckMask iMask)) : t.MaskInv :=
  h.of_eq (fun hrun => hsent.portIsOpen.trans (h.portIsOpen (hsent.bRunning ▸ hrun)))
    hsent.logicalAddresses (hsent.masksTaken hp)

theorem MaskInv.setLogicalAddresses {addresses : LogicalAddresses} {x : Exchange} (h : s.MaskInv)
    (hanswer : x.answer ≠ .lost) (hagain : x.again ≠ .lost) :
    (s.setLogicalAddresses addresses x).2.MaskInv := by
  have hsent : Sends (fun _ => True) s (s.setAckMask addresses.ackMask x).2 :=
    sends_sendCommand trivial trivial
  have hport : (s.setAckMask addresses.ackMask x).2.bRunning →
      (s.setAckMask addresses.ackMask x).2.portIsOpen := fun hrun =>
    hsent.portIsOpen.trans (h.portIsOpen (hsent.bRunning ▸ hrun))
  have hmasks := masksTaken_setAckMask (s := s) (i := addresses.ackMask) hanswer hagain
  simp only [AdapterConnection.setLogicalAddresses]
  split_ifs with hsame hopen hok
  · exact h
  · refine ⟨hport, .inr ?_⟩
    rw [if_pos hok] at hmasks
    simp only [lastMask, hmasks, List.getLast?_concat]
  · rw [if_neg hok] at hmasks
    exact h.of_eq hport hsent.logicalAddresses hmasks
  · exact h

theorem MaskInv.openConnection {c : OpenCall} (h : s.MaskInv) : (s.openConnection c).2.MaskInv := by
  by_cases hopen : s.isOpen
  · rw [AdapterConnection.openConnection, if_pos hopen]
    exact h
  · by_cases hport : s.portIsOpen = false ∧ c.portOpens = true
    · obtain ⟨hport, hopens⟩ := hport
      have hrun : s.bRunning = false := by
        have hmt := mt h.portIsOpen
        simpa [hport] using hmt
      obtain ⟨hmasks, hafter⟩ := masksTaken_openConnection hrun hport hopens
      refine ⟨fun _ => hafter, .inl ?_⟩
      rw [lastMask, hmasks]
      rfl
    · have hfails : (s.portIsOpen || !c.portOpens) = true := by
        cases hp : s.portIsOpen <;> cases ho : c.portOpens <;> simp [hp, ho] at hport ⊢
      simp only [AdapterConnection.openConnection, hopen, hfails, if_true]
      exact h.of_eq h.portIsOpen rfl rfl

theorem MaskInv.closeConnection {c : CloseCall} (h : s.MaskInv) :
    (s.closeConnection c).MaskInv := by
  obtain ⟨t, hsent, ht⟩ := sends_closeConnection (s := s) (c := c)
  have ht' : t.MaskInv := h.sends hsent (by simp)
  rw [ht]
  refine ht'.of_eq (fun hrun => ?_) (logicalAddresses_closePort ..) (masksTaken_closePort ..)
  rw [bRunning_closePort] at hrun
  exact absurd hrun Bool.false_ne_true

theorem MaskInv.writeFails (h : s.MaskInv) : s.closePort.MaskInv := by
  refine h.of_eq (fun hrun => ?_) (logicalAddresses_closePort ..) (masksTaken_closePort ..)
  rw [bRunning_closePort] at hrun
  rw [portIsOpen_closePort]
  exact h.portIsOpen hrun

theorem MaskInv.step {e : ConnectionEvent} (h : s.MaskInv) (hlost : s.NoMaskLost e) :
    (s.step e).MaskInv := by
  cases e with
  | openConnection c => exact h.openConnection
  | setLogicalAddresses addresses x => exact h.setLogicalAddresses hlost.1 hlost.2
  | setControlledMode b a =>
    exact h.sends (p := fun m => m = .setControlled b) (sends_setControlledMode rfl) (by simp)
  | closeConnection c => exact h.closeConnection
  | pingAdapter x =>
    exact h.sends (p := fun m => m = .ping ∨ m = .setControlled true)
      (sends_pingAdapter (.inr rfl) (.inl rfl)) (by simp)
  | stopReader | settingChanged => exact h.of_eq h.portIsOpen rfl rfl
  | readerEnds => exact h.of_eq (fun hrun => absurd hrun Bool.false_ne_true) rfl rfl
  | writeFails => exact h.writeFails

/-- Unless an answer is lost, the mask is known as soon as one was taken in the connection. -/
theorem maskKnown_iff_of_run {events : List ConnectionEvent}
    (h : Guarded step NoMaskLost initial events) (hopen : (events.foldl step initial).isOpen) :
    (events.foldl step initial).MaskKnown ↔ masksTaken (events.foldl step initial).wire ≠ [] := by
  have hinv : (events.foldl step initial).MaskInv :=
    h.invariant (fun _ s => s.MaskInv) ⟨nofun, .inl rfl⟩ fun _ s e hs he => hs.step he
  constructor
  · intro hknown hnone
    have hlast := hknown hopen
    rw [lastMask, hnone] at hlast
    cases hlast
  · intro hsome _
    rcases hinv.current with hnone | hlast
    · exact (hsome (List.getLast?_eq_none_iff.mp hnone)).elim
    · exact hlast

/-! ### Runs in which nothing connects -/

/-- The event is no `Open` that connects. -/
def StaysClosed (s : AdapterConnection) : ConnectionEvent → Prop
  | .openConnection c => ¬ c.Connects s
  | _ => True

/-- Without a reader thread, only `Open` brings one about. -/
theorem bRunning_step (hrun : s.bRunning = false) (e : ConnectionEvent) (h : s.StaysClosed e) :
    (s.step e).bRunning = false := by
  have hclosed : s.isOpen = false := by simp [isOpen, hrun]
  cases e with
  | openConnection c => exact bRunning_openConnection hrun h
  | setLogicalAddresses addresses x =>
    rw [step, setLogicalAddresses_of_not_isOpen hclosed]
    exact hrun
  | setControlledMode b a =>
    have hsent : Sends (fun _ => True) s (s.setControlledMode b a).2 :=
      sends_setControlledMode trivial
    exact hsent.bRunning.trans hrun
  | closeConnection c =>
    obtain ⟨t, -, ht⟩ := sends_closeConnection (s := s) (c := c)
    rw [step, ht, bRunning_closePort]
    rfl
  | pingAdapter x =>
    have hsent : Sends (fun _ => True) s (s.pingAdapter x).2 := sends_pingAdapter trivial trivial
    exact hsent.bRunning.trans hrun
  | stopReader | settingChanged => exact hrun
  | readerEnds => rfl
  | writeFails =>
    rw [step, bRunning_closePort]
    exact hrun

/-- While the reader thread does not run, only an `Open` that connects violates what is asked for. -/
theorem kept_iff_staysClosed (hrun : s.bRunning = false) (e : ConnectionEvent) :
    s.Kept e ↔ s.StaysClosed e := by
  have hclosed : s.isOpen = false := by simp [isOpen, hrun]
  constructor
  · intro hkept
    cases e with
    | openConnection c =>
      intro hconnects
      have hzero := hkept.1 ((openConnection_iff hrun).mpr hconnects)
      rw [(masksTaken_openConnection hrun hconnects.1 hconnects.2.1).1] at hzero
      exact absurd hzero (List.not_mem_nil)
    | _ => trivial
  · intro hstays
    refine ⟨?_, fun hopen => ?_⟩
    · cases e with
      | openConnection c => exact fun h => (hstays ((openConnection_iff hrun).mp h)).elim
      | closeConnection c => exact fun hopen => by simp [hclosed] at hopen
      | _ => trivial
    · simp [isOpen, bRunning_step hrun e hstays] at hopen

/-- A run keeps the mask and controlled mode as it should if and only if no `Open` connects. -/
theorem maskKept_iff (events : List ConnectionEvent) :
    Guarded step Kept initial events ↔ Guarded step StaysClosed initial events :=
  guarded_iff (fun s => s.bRunning = false) (fun _ e h => kept_iff_staysClosed h e)
    (fun _ e h hstay => bRunning_step h e hstay) events rfl

/-- An adapter with firmware version 12 that acknowledges what it is sent. -/
def acknowledges : Exchange := ⟨.acked [], .acked [], .acked []⟩

def opensFully : OpenCall where
  bSkipChecks := false
  bStartListening := true
  portOpens := true
  ackMask := acknowledges
  checks :=
    { pings := [acknowledges]
      timeLeft := true
      versions := fun _ => ⟨.acked [0, 12], .unsent, .unsent⟩
      controlled := [.acked []]
      buildDate := .acked [0x50, 0xa4, 0xcd, 0x79]
      adapterType := ⟨.acked [1], .unsent, .unsent⟩ }

def closesCleanly : CloseCall := ⟨false, acknowledges, acknowledges, .acked []⟩

/-- Nothing goes wrong on the wire, and yet neither `Open` nor `Close` sets the mask to 0; that no
    address is to be acknowledged is skipped as unchanged after `Open`. -/
theorem mask_not_reset :
    let addresses := LogicalAddresses.clear.set 4
    let opened := initial.step (.openConnection opensFully)
    let addressed := opened.step (.setLogicalAddresses addresses acknowledges)
    ¬ initial.Resets (.openConnection opensFully) ∧ ¬ opened.MaskKnown ∧
      opened.setLogicalAddresses .clear acknowledges = (true, opened) ∧ addressed.MaskKnown ∧
      ¬ addressed.Resets (.closeConnection closesCleanly) ∧
      ¬ Guarded step Kept initial [.openConnection opensFully,
        .setLogicalAddresses addresses acknowledges, .closeConnection closesCleanly] := by
  decide +kernel

end AdapterConnection

end CEC
