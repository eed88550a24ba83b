import LibCec.AdapterSettings

/-! The connection with the adapter: `CUSBCECAdapterCommunication` from `Open` to `Close`.

    A command is only sent while the connection is open, which takes an open port and a reader thread
    that runs and is not being stopped. The mask of the addresses that are acknowledged and
    controlled mode are kept, and what is kept already is not sent again:

        Open     port.Open ─▶ ack mask 0 ─▶ CreateThread ─▶ CheckAdapter ─▶ ping, EEPROM threads
                                  │ not open yet: nothing is sent
        Close    StopThread ─▶ ack mask 0, controlled mode off ─▶ port.Close
                                  │ not open any more: nothing is sent

    The port is the one of POSIX systems: its descriptor is closed by `Close`, and it counts as open
    ever after, so that it is not opened a second time. -/

namespace CEC

/-! ### Commands and their answers -/

/-- The commands that `SendCommand` is called for, but for START_BOOTLOADER, whose answer nobody
    takes. -/
inductive ControllerCommand where
  | ping | firmwareVersion | getBuildDate | getAdapterType | writeEEPROM
  | setAckMask (iMask : UInt16)
  | setControlled (controlled : Bool)
  | transmitIdletime (iTimeout : UInt8)
  | setActiveSource (bSetTo : Bool)
  | getSetting (kind : SettingKind)
  | setSetting (x : Setting)
  deriving DecidableEq

/-- What becomes of a command: the controller takes it and answers with data, it rejects it, it never
    sees it, or it takes it and the answer is lost. -/
inductive ControllerAnswer where
  | acked (data : List UInt8)
  | rejected | unsent | lost
  deriving DecidableEq

namespace ControllerAnswer

/-- `ADAPTER_MESSAGE_STATE_SENT_ACKED`. -/
def isAcked : ControllerAnswer → Bool
  | acked _ => true
  | _ => false

/-- The controller did what it was told. -/
def isTaken : ControllerAnswer → Bool
  | acked _ | lost => true
  | _ => false

/-- The data that `RequestSetting` copies. -/
def data : ControllerAnswer → List UInt8
  | acked data => response (some data)
  | _ => []

end ControllerAnswer

/-- The answers to a command, to the request for controlled mode when the command is rejected, and
    to the second try. -/
structure Exchange where
  answer : ControllerAnswer
  controlled : ControllerAnswer
  again : ControllerAnswer
  deriving DecidableEq

/-- What happens on the wire: the port is opened, commands are sent, and its descriptor is closed. -/
inductive WireEvent where
  | portOpened | portClosed
  | sent (command : ControllerCommand) (taken : Bool)
  deriving DecidableEq

/-- `CEC_FW_VERSION_UNKNOWN`. -/
def fwVersionUnknown : UInt16 := 0xFFFF

/-- `CUSBCECAdapterCommunication`, its reader thread and its `CUSBCECAdapterCommands`. `wire` is
    history. -/
structure AdapterConnection where
  bStop : Bool
  bRunning : Bool
  portIsOpen : Bool
  adapterMessageQueue : Bool
  eepromWriteThread : Bool
  pingThread : Bool
  bInitialised : Bool
  logicalAddresses : LogicalAddresses
  bControlledMode : Bool
  bNeedsWrite : Bool
  iFirmwareVersion : UInt16
  iFirmwareBuildDate : UInt32
  adapterType : UInt8
  wire : List WireEvent
  deriving DecidableEq

namespace AdapterConnection

/-- What the constructor leaves. -/
def initial : AdapterConnection where
  bStop := false
  bRunning := false
  portIsOpen := false
  adapterMessageQueue := false
  eepromWriteThread := false
  pingThread := false
  bInitialised := false
  logicalAddresses := .clear
  bControlledMode := false
  bNeedsWrite := false
  iFirmwareVersion := fwVersionUnknown
  iFirmwareBuildDate := 0
  adapterType := 0
  wire := []

/-- `IsOpen`. -/
def isOpen (s : AdapterConnection) : Bool := !s.bStop && s.portIsOpen && s.bRunning

/-- `CreateThread`. -/
def createThread (s : AdapterConnection) : Bool × AdapterConnection :=
  if s.bRunning then (false, s) else (true, { s with bStop := false, bRunning := true })

/-- `StopThread` without a limit: it returns when the thread has ended. -/
def stopThread (s : AdapterConnection) : AdapterConnection :=
  { s with bStop := true, bRunning := false }

/-- A command goes to the controller. -/
def write (s : AdapterConnection) (command : ControllerCommand) (answer : ControllerAnswer) :
    AdapterConnection :=
  { s with wire := s.wire ++ [.sent command answer.isTaken] }

/-- `m_port->Close()`. `m_socket` and `m_bIsOpen` stay as they are. -/
def closePort (s : AdapterConnection) : AdapterConnection :=
  if s.portIsOpen then { s with wire := s.wire ++ [.portClosed] } else s

/-- `SendCommand` when a rejection has no consequences. After a write error it closes the port, which
    makes no difference to `isOpen`: that is an event of its own. -/
def sendOnce (command : ControllerCommand) (answer : ControllerAnswer) (s : AdapterConnection) :
    Option ControllerAnswer × AdapterConnection :=
  if !s.isOpen || !s.adapterMessageQueue then (none, s)
  else (some answer, s.write command answer)

/-- `SetControlledMode`. -/
def setControlledMode (controlled : Bool) (answer : ControllerAnswer) (s : AdapterConnection) :
    Bool × AdapterConnection :=
  if !s.isOpen then (false, s)
  else if s.bControlledMode = controlled then (true, s)
  else
    let r := s.sendOnce (.setControlled controlled) answer
    if r.1.any ControllerAnswer.isAcked then (true, { r.2 with bControlledMode := controlled })
    else (false, r.2)

/-- `SendCommand`. -/
def sendCommand (command : ControllerCommand) (x : Exchange) (s : AdapterConnection) :
    Option ControllerAnswer × AdapterConnection :=
  let r := s.sendOnce command x.answer
  if r.1 = some .rejected then
    -- the controller probably switched to auto mode
    let r' := r.2.setControlledMode true x.controlled
    if r'.1 then r'.2.sendOnce command x.again else (none, r'.2)
  else r

/-- A command that is answered with nothing but an acknowledgement. -/
def execute (command : ControllerCommand) (x : Exchange) (s : AdapterConnection) :
    Bool × AdapterConnection :=
  let r := s.sendCommand command x
  (r.1.any ControllerAnswer.isAcked, r.2)

/-- `PingAdapter`. -/
def pingAdapter (x : Exchange) (s : AdapterConnection) : Bool × AdapterConnection :=
  if s.isOpen then s.execute .ping x else (false, s)

/-- `SetAckMask`. -/
def setAckMask (iMask : UInt16) : Exchange → AdapterConnection → Bool × AdapterConnection :=
  execute (.setAckMask iMask)

/-- `SetLogicalAddresses`; addresses are compared without the primary one. -/
def setLogicalAddresses (addresses : LogicalAddresses) (x : Exchange) (s : AdapterConnection) :
    Bool × AdapterConnection :=
  if s.logicalAddresses.addresses = addresses.addresses then (true, s)
  else if s.isOpen then
    let r := s.setAckMask addresses.ackMask x
    if r.1 then (true, { r.2 with logicalAddresses := addresses }) else (false, r.2)
  else (false, s)

/-- `WriteEEPROM`. -/
def writeEEPROM (x : Exchange) (s : AdapterConnection) : Bool × AdapterConnection :=
  if !s.bNeedsWrite then (true, s)
  else
    let r := s.execute .writeEEPROM x
    if r.1 then (true, { r.2 with bNeedsWrite := false }) else (false, r.2)

/-- `RequestSetting`. -/
def requestSetting (command : ControllerCommand) (x : Exchange) (s : AdapterConnection) :
    List UInt8 × AdapterConnection :=
  let r := s.sendCommand command x
  (r.1.elim [] ControllerAnswer.data, r.2)

/-- The loop of `RequestFirmwareVersion`. -/
def requestVersion : List Exchange → AdapterConnection → AdapterConnection
  | [], s => s
  | x :: xs, s =>
    if s.iFirmwareVersion ≠ fwVersionUnknown then s
    else match s.requestSetting .firmwareVersion x with
      | ([high, low], s) => requestVersion xs { s with iFirmwareVersion := ofBytes high low }
      | (_, s) => requestVersion xs s

/-- `RequestFirmwareVersion`, which tries three times. -/
def requestFirmwareVersion (xs : Fin 3 → Exchange) (s : AdapterConnection) : AdapterConnection :=
  let s := requestVersion (List.ofFn xs) { s with iFirmwareVersion := fwVersionUnknown }
  let s := if s.iFirmwareVersion = fwVersionUnknown then { s with iFirmwareVersion := 1 } else s
  -- firmware versions < 2 don't have an autonomous mode
  if s.iFirmwareVersion < 2 then { s with bControlledMode := true } else s

/-- `RequestBuildDate`. A rejection is not followed up: the message code had another meaning once. -/
def requestBuildDate (answer : ControllerAnswer) (s : AdapterConnection) : AdapterConnection :=
  if s.iFirmwareBuildDate ≠ 0 then s
  else
    let r := s.sendOnce .getBuildDate answer
    match r.1.elim [] ControllerAnswer.data with
    | [a, b, c, d] => { r.2 with
        iFirmwareBuildDate := (ofBytes a b).toUInt32 <<< 16 ||| (ofBytes c d).toUInt32 }
    | _ => r.2

/-- `RequestAdapterType`. -/
def requestAdapterType (x : Exchange) (s : AdapterConnection) : AdapterConnection :=
  if s.adapterType ≠ 0 then s
  else match s.requestSetting .getAdapterType x with
    | ([type], s) => { s with adapterType := type }
    | (_, s) => s

/-- The adapter is pinged until it answers, once for each try that there is time for. -/
def pingLoop : List Exchange → AdapterConnection → Bool × AdapterConnection
  | [], s => (false, s)
  | x :: xs, s =>
    let r := s.pingAdapter x
    if r.1 then r else pingLoop xs r.2

/-- Controlled mode is set until that succeeds, once for each try that there is time for. -/
def controlledLoop : List ControllerAnswer → AdapterConnection → Bool × AdapterConnection
  | [], s => (false, s)
  | x :: xs, s =>
    let r := s.setControlledMode true x
    if r.1 then r else controlledLoop xs r.2

end AdapterConnection

/-- What `CheckAdapter` meets: the tries that there is time for, whether there is time left after
    the pings, and what the controller answers. -/
structure AdapterChecks where
  pings : List Exchange
  timeLeft : Bool
  versions : Fin 3 → Exchange
  controlled : List ControllerAnswer
  buildDate : ControllerAnswer
  adapterType : Exchange

/-- The parameters of `Open`, whether the port can be opened in time, and what the checks meet. -/
structure OpenCall where
  bSkipChecks : Bool
  bStartListening : Bool
  portOpens : Bool
  ackMask : Exchange
  checks : AdapterChecks

/-- What `Close` meets. -/
structure CloseCall where
  portError : Bool
  eeprom : Exchange
  ackMask : Exchange
  controlled : ControllerAnswer

/-- A call, or what else happens to a connection: the ping thread pings or has the reader thread
    stopped, the reader thread ends, a setting that is stored changes, `SendCommand` closes the port
    because a command could not be written. -/
inductive ConnectionEvent where
  | openConnection (c : OpenCall)
  | setLogicalAddresses (addresses : LogicalAddresses) (x : Exchange)
  | setControlledMode (controlled : Bool) (answer : ControllerAnswer)
  | closeConnection (c : CloseCall)
  | pingAdapter (x : Exchange)
  | stopReader
  | readerEnds
  | settingChanged
  | writeFails

namespace AdapterConnection

/-- `CheckAdapter` until the build date is requested: the ping, the firmware version and controlled
    mode for the versions that have it. -/
def pingAndControl (c : AdapterChecks) (s : AdapterConnection) : Bool × AdapterConnection :=
  let r := s.pingLoop c.pings
  if r.1 && c.timeLeft then
    let s := r.2.requestFirmwareVersion c.versions
    if 2 ≤ s.iFirmwareVersion then s.controlledLoop c.controlled else (true, s)
  else (true, r.2)

/-- `CheckAdapter`. -/
def checkAdapter (c : AdapterChecks) (s : AdapterConnection) : Bool × AdapterConnection :=
  let r := s.pingAndControl c
  let s :=
    if 2 ≤ r.2.iFirmwareVersion then
      (r.2.requestBuildDate c.buildDate).requestAdapterType c.adapterType
    else r.2
  (r.1, { s with bInitialised := r.1 })

/-- `Open`. The port can't be opened when it is open. -/
def openConnection (c : OpenCall) (s : AdapterConnection) : Bool × AdapterConnection :=
  if s.isOpen then (true, s)
  else
    let s := { s with adapterMessageQueue := true }
    if s.portIsOpen || !c.portOpens then (false, s)
    else
      let s := { s with portIsOpen := true, wire := s.wire ++ [WireEvent.portOpened] }
      -- always start by setting the ackmask to 0, to clear previous values
      let s := (s.setLogicalAddresses .clear c.ackMask).2
      let created := s.createThread
      if !created.1 then (false, created.2.stopThread)
      else
        let r := if c.bSkipChecks then (true, created.2) else created.2.checkAdapter c.checks
        if !r.1 then (false, r.2.stopThread)
        else if c.bStartListening then
          (true, { r.2 with eepromWriteThread := true, pingThread := true })
        else (true, r.2.stopThread)

/-- `Close`. -/
def closeConnection (c : CloseCall) (s : AdapterConnection) : AdapterConnection :=
  -- commit any deferred eeprom write before `isOpen` turns false below
  let s := if s.isOpen then (s.writeEEPROM c.eeprom).2 else s
  let s := s.stopThread
  -- set the ackmask to 0 before closing the connection
  let s :=
    if s.isOpen && !c.portError then
      let s := (s.setLogicalAddresses .clear c.ackMask).2
      if 2 ≤ s.iFirmwareVersion then (s.setControlledMode false c.controlled).2 else s
    else s
  { s with eepromWriteThread := false, pingThread := false }.closePort

def step (s : AdapterConnection) : ConnectionEvent → AdapterConnection
  | .openConnection c => (s.openConnection c).2
  | .setLogicalAddresses addresses x => (s.setLogicalAddresses addresses x).2
  | .setControlledMode controlled answer => (s.setControlledMode controlled answer).2
  | .closeConnection c => s.closeConnection c
  | .pingAdapter x => (s.pingAdapter x).2
  | .stopReader => { s with bStop := true }
  | .readerEnds => { s with bRunning := false }
  | .settingChanged => { s with bNeedsWrite := true }
  | .writeFails => s.closePort

end AdapterConnection

/-! ### When the checks are passed -/

namespace Exchange

/-- Controlled mode is set after an exchange: it was, or the command is rejected and the request for
    controlled mode acknowledged. -/
def controlledAfter (x : Exchange) (bControlledMode : Bool) : Bool :=
  bControlledMode || (x.answer = .rejected && x.controlled.isAcked)

/-- The answer that counts: the second one after a rejection, if controlled mode is set then. -/
def outcome (x : Exchange) (bControlledMode : Bool) : Option ControllerAnswer :=
  if x.answer = .rejected then
    if x.controlledAfter bControlledMode then some x.again else none
  else some x.answer

end Exchange

/-- A ping is acknowledged, and whether controlled mode is set then. -/
def pinged : List Exchange → Bool → Bool × Bool
  | [], b => (false, b)
  | x :: xs, b =>
    if (x.outcome b).any ControllerAnswer.isAcked then (true, x.controlledAfter b)
    else pinged xs (x.controlledAfter b)

/-- The first version that is known among the answers, and whether controlled mode is set then. -/
def versionAnswered : List Exchange → Bool → UInt16 × Bool
  | [], b => (fwVersionUnknown, b)
  | x :: xs, b =>
    match (x.outcome b).elim [] ControllerAnswer.data with
    | [high, low] =>
      if ofBytes high low ≠ fwVersionUnknown then (ofBytes high low, x.controlledAfter b)
      else versionAnswered xs (x.controlledAfter b)
    | _ => versionAnswered xs (x.controlledAfter b)

/-- The checks are passed unless a firmware of version 2 or later that answers the ping can't be
    brought into controlled mode in time. -/
def AdapterChecks.Passed (c : AdapterChecks) (bControlledMode : Bool) : Prop :=
  let p := pinged c.pings bControlledMode
  let v := versionAnswered (List.ofFn c.versions) p.2
  p.1 → c.timeLeft → v.1 ≠ fwVersionUnknown → 2 ≤ v.1 →
    ∃ answer ∈ c.controlled, v.2 ∨ answer.isAcked

/-- `Open` gets the port open, and the checks are skipped or passed. -/
def OpenCall.Connects (c : OpenCall) (s : AdapterConnection) : Prop :=
  s.portIsOpen = false ∧ c.portOpens ∧ (c.bSkipChecks ∨ c.checks.Passed s.bControlledMode)

/-! ### What a call sends -/

namespace AdapterConnection

variable {s s' s'' : AdapterConnection} {p : ControllerCommand → Prop}

/-- Commands that meet `p` were sent, and nothing else changed that decides whether a command is
    sent, but for what is known of the adapter. -/
structure Sends (p : ControllerCommand → Prop) (s s' : AdapterConnection) : Prop where
  wire : ∃ sent : List WireEvent, s'.wire = s.wire ++ sent ∧
    ∀ e ∈ sent, ∃ command taken, e = .sent command taken ∧ p command
  bStop : s'.bStop = s.bStop
  bRunning : s'.bRunning = s.bRunning
  portIsOpen : s'.portIsOpen = s.portIsOpen
  adapterMessageQueue : s'.adapterMessageQueue = s.adapterMessageQueue
  logicalAddresses : s'.logicalAddresses = s.logicalAddresses

namespace Sends

theorem refl (s : AdapterConnection) : Sends p s s :=
  ⟨⟨[], by simp, by simp⟩, rfl, rfl, rfl, rfl, rfl⟩

theorem trans (h : Sends p s s') (h' : Sends p s' s'') : Sends p s s'' := by
  obtain ⟨sent, hsent, hp⟩ := h.wire
  obtain ⟨sent', hsent', hp'⟩ := h'.wire
  refine ⟨⟨sent ++ sent', by rw [hsent', hsent, List.append_assoc], fun e he => ?_⟩,
    h'.bStop.trans h.bStop, h'.bRunning.trans h.bRunning, h'.portIsOpen.trans h.portIsOpen,
    h'.adapterMessageQueue.trans h.adapterMessageQueue,
    h'.logicalAddresses.trans h.logicalAddresses⟩
  rcases List.mem_append.mp he with he | he
  · exact hp e he
  · exact hp' e he

theorem isOpen (h : Sends p s s') : s'.isOpen = s.isOpen := by
  rw [AdapterConnection.isOpen, h.bStop, h.portIsOpen, h.bRunning, AdapterConnection.isOpen]

end Sends

variable {m : ControllerCommand} {a : ControllerAnswer} {x : Exchange}

theorem sends_write (hp : p m) : Sends p s (s.write m a) := by
  refine ⟨⟨[.sent m a.isTaken], rfl, fun e he => ?_⟩, rfl, rfl, rfl, rfl, rfl⟩
  exact ⟨m, a.isTaken, List.mem_singleton.mp he, hp⟩

theorem sends_sendOnce (hp : p m) : Sends p s (s.sendOnce m a).2 := by
  rw [sendOnce]
  split
  · exact .refl s
  · exact sends_write hp

theorem sends_setControlledMode {b : Bool} (hp : p (.setControlled b)) :
    Sends p s (s.setControlledMode b a).2 := by
  have hsend := sends_sendOnce (s := s) (a := a) hp
  simp only [setControlledMode]
  split_ifs
  · exact .refl s
  · exact .refl s
  · exact { hsend with }
  · exact hsend

theorem sends_requestBuildDate (hp : p .getBuildDate) : Sends p s (s.requestBuildDate a) := by
  have hsend := sends_sendOnce (s := s) (a := a) hp
  simp only [requestBuildDate]
  split_ifs
  · exact .refl s
  · split
    · exact { hsend with }
    · exact hsend

variable (hcontrolled : p (.setControlled true))
include hcontrolled

theorem sends_sendCommand (hp : p m) : Sends p s (s.sendCommand m x).2 := by
  have hsend := sends_sendOnce (s := s) (a := x.answer) hp
  have hset := hsend.trans (sends_setControlledMode (a := x.controlled) hcontrolled)
  simp only [sendCommand]
  split_ifs
  · exact hset.trans (sends_sendOnce hp)
  · exact hset
  · exact hsend

theorem sends_pingAdapter (hp : p .ping) : Sends p s (s.pingAdapter x).2 := by
  rw [pingAdapter]
  split
  · exact sends_sendCommand hcontrolled hp
  · exact .refl s

theorem sends_requestSetting (hp : p m) : Sends p s (s.requestSetting m x).2 :=
  sends_sendCommand hcontrolled hp

theorem sends_pingLoop (hp : p .ping) : ∀ (xs : List Exchange) {s}, Sends p s (s.pingLoop xs).2
  | [], s => .refl s
  | x :: xs, s => by
    have hsend := sends_pingAdapter (s := s) (x := x) hcontrolled hp
    simp only [pingLoop]
    split_ifs
    · exact hsend
    · exact hsend.trans (sends_pingLoop hp xs)

theorem sends_controlledLoop : ∀ (xs : List ControllerAnswer) {s},
    Sends p s (s.controlledLoop xs).2
  | [], s => .refl s
  | x :: xs, s => by
    have hsend := sends_setControlledMode (s := s) (a := x) hcontrolled
    simp only [controlledLoop]
    split_ifs
    · exact hsend
    · exact hsend.trans (sends_controlledLoop xs)

theorem sends_writeEEPROM (hp : p .writeEEPROM) : Sends p s (s.writeEEPROM x).2 := by
  have hsend : Sends p s (s.execute .writeEEPROM x).2 := sends_sendCommand hcontrolled hp
  simp only [writeEEPROM]
  split_ifs
  · exact .refl s
  · exact { hsend with }
  · exact hsend

theorem sends_requestVersion (hp : p .firmwareVersion) : ∀ (xs : List Exchange) {s},
    Sends p s (requestVersion xs s)
  | [], s => .refl s
  | x :: xs, s => by
    have hsend := sends_requestSetting (s := s) (x := x) hcontrolled hp
    simp only [requestVersion]
    split_ifs
    · exact .refl s
    · split
      · next high low s' heq =>
        rw [heq] at hsend
        have hstored : Sends p s { s' with iFirmwareVersion := ofBytes high low } := { hsend with }
        exact hstored.trans (sends_requestVersion hp xs)
      · next s' heq =>
        rw [heq] at hsend
        exact hsend.trans (sends_requestVersion hp xs)

theorem sends_requestFirmwareVersion (xs : Fin 3 → Exchange) (hp : p .firmwareVersion) :
    Sends p s (s.requestFirmwareVersion xs) := by
  have hforget : Sends p s { s with iFirmwareVersion := fwVersionUnknown } := { Sends.refl s with }
  have hsend := hforget.trans (sends_requestVersion hcontrolled hp (List.ofFn xs))
  simp only [requestFirmwareVersion]
  split_ifs
  all_goals exact { hsend with }

theorem sends_requestAdapterType (hp : p .getAdapterType) : Sends p s (s.requestAdapterType x) := by
  have hsend := sends_requestSetting (s := s) (x := x) hcontrolled hp
  simp only [requestAdapterType]
  split_ifs
  · exact .refl s
  · split
    · next heq =>
      rw [heq] at hsend
      exact { hsend with }
    · next heq =>
      rw [heq] at hsend
      exact hsend

theorem sends_pingAndControl {c : AdapterChecks} (hping : p .ping) (hversion : p .firmwareVersion) :
    Sends p s (s.pingAndControl c).2 := by
  have hsend : Sends p s (s.pingLoop c.pings).2 := sends_pingLoop hcontrolled hping c.pings
  have hsend' := hsend.trans (sends_requestFirmwareVersion hcontrolled c.versions hversion)
  simp only [pingAndControl]
  split_ifs
  · exact hsend'.trans (sends_controlledLoop hcontrolled c.controlled)
  · exact hsend'
  · exact hsend

omit hcontrolled

/-- The checks don't touch the mask. -/
theorem sends_checkAdapter {c : AdapterChecks} :
    Sends (fun command => ∀ iMask, command ≠ .setAckMask iMask) s (s.checkAdapter c).2 := by
  have hsend := sends_pingAndControl (s := s) (c := c)
    (p := fun command => ∀ iMask, command ≠ .setAckMask iMask) (by simp) (by simp) (by simp)
  simp only [checkAdapter]
  split_ifs
  · have hask := (hsend.trans (sends_requestBuildDate (a := c.buildDate) (by simp))).trans
      (sends_requestAdapterType (x := c.adapterType) (by simp) (by simp))
    exact { hask with }
  · exact { hsend with }

end AdapterConnection

/-! ### What the checks find -/

namespace AdapterConnection

variable {s : AdapterConnection} {m : ControllerCommand} {a : ControllerAnswer}
  {x : Exchange} (hopen : s.isOpen) (hqueue : s.adapterMessageQueue)
include hopen hqueue

omit hopen hqueue in
@[simp] theorem bControlledMode_write :
    (s.write m a).bControlledMode = s.bControlledMode := rfl

theorem sendOnce_of_isOpen :
    s.sendOnce m a = (some a, s.write m a) := by
  simp [sendOnce, hopen, hqueue]

theorem setControlledMode_of_isOpen :
    (s.setControlledMode true a).1 = (s.bControlledMode || a.isAcked) ∧
      (s.setControlledMode true a).2.bControlledMode =
        (s.bControlledMode || a.isAcked) := by
  simp only [setControlledMode, sendOnce_of_isOpen hopen hqueue, hopen, Option.any_some]
  cases hb : s.bControlledMode <;> cases a.isAcked <;> simp [hb, write]

theorem sendCommand_of_isOpen :
    (s.sendCommand m x).1 = x.outcome s.bControlledMode ∧
      (s.sendCommand m x).2.bControlledMode = x.controlledAfter s.bControlledMode := by
  have hsent : Sends (fun _ => True) s (s.write m x.answer) := sends_write trivial
  obtain ⟨hok, hset⟩ := setControlledMode_of_isOpen (s := s.write m x.answer)
    (a := x.controlled) (hsent.isOpen.trans hopen) (hsent.adapterMessageQueue.trans hqueue)
  have hsent' := hsent.trans (sends_setControlledMode (s := s.write m x.answer)
    (a := x.controlled) (b := true) trivial)
  simp only [sendCommand, sendOnce_of_isOpen hopen hqueue, Option.some.injEq, Exchange.outcome,
    Exchange.controlledAfter]
  generalize setControlledMode true x.controlled (s.write m x.answer) = r at hok hset hsent' ⊢
  rw [bControlledMode_write] at hok hset
  rw [sendOnce_of_isOpen (hsent'.isOpen.trans hopen) (hsent'.adapterMessageQueue.trans hqueue), hok]
  by_cases hrejected : x.answer = .rejected
  · cases hmode : s.bControlledMode || x.controlled.isAcked <;> simp [hrejected, hset, hmode]
  · simp [hrejected]

theorem pingAdapter_of_isOpen :
    (s.pingAdapter x).1 = (x.outcome s.bControlledMode).any ControllerAnswer.isAcked ∧
      (s.pingAdapter x).2.bControlledMode = x.controlledAfter s.bControlledMode := by
  obtain ⟨hanswer, hmode⟩ := sendCommand_of_isOpen (m := .ping) (x := x) hopen hqueue
  rw [pingAdapter, if_pos hopen, execute]
  exact ⟨by rw [hanswer], hmode⟩

theorem requestSetting_of_isOpen :
    (s.requestSetting m x).1 =
        (x.outcome s.bControlledMode).elim [] ControllerAnswer.data ∧
      (s.requestSetting m x).2.bControlledMode = x.controlledAfter s.bControlledMode := by
  obtain ⟨hanswer, hmode⟩ := sendCommand_of_isOpen (m := m) (x := x) hopen hqueue
  rw [requestSetting]
  exact ⟨by rw [hanswer], hmode⟩

omit hopen hqueue

theorem iFirmwareVersion_setControlledMode {b : Bool} :
    (s.setControlledMode b a).2.iFirmwareVersion = s.iFirmwareVersion := by
  simp only [setControlledMode, sendOnce]
  split_ifs <;> rfl

theorem iFirmwareVersion_sendCommand :
    (s.sendCommand m x).2.iFirmwareVersion = s.iFirmwareVersion := by
  have honce : ∀ (t : AdapterConnection) a,
      (t.sendOnce m a).2.iFirmwareVersion = t.iFirmwareVersion := fun t a => by
    rw [sendOnce]
    split <;> rfl
  simp only [sendCommand]
  split_ifs <;> simp [honce, iFirmwareVersion_setControlledMode]

theorem iFirmwareVersion_requestSetting :
    (s.requestSetting m x).2.iFirmwareVersion = s.iFirmwareVersion :=
  iFirmwareVersion_sendCommand

theorem pingLoop_of_isOpen : ∀ (xs : List Exchange) {s : AdapterConnection}, s.isOpen →
    s.adapterMessageQueue →
    (s.pingLoop xs).1 = (pinged xs s.bControlledMode).1 ∧
      (s.pingLoop xs).2.bControlledMode = (pinged xs s.bControlledMode).2
  | [], s, _, _ => ⟨rfl, rfl⟩
  | x :: xs, s, hopen, hqueue => by
    obtain ⟨hok, hmode⟩ := pingAdapter_of_isOpen (x := x) hopen hqueue
    have hsent : Sends (fun _ => True) s (s.pingAdapter x).2 := sends_pingAdapter trivial trivial
    obtain ⟨ih, ih'⟩ := pingLoop_of_isOpen xs (hsent.isOpen.trans hopen)
      (hsent.adapterMessageQueue.trans hqueue)
    simp only [pingLoop, pinged, ← hok]
    rw [hmode] at ih ih'
    split_ifs with h
    · exact ⟨h, hmode⟩
    · exact ⟨ih, ih'⟩

theorem controlledLoop_of_isOpen : ∀ (xs : List ControllerAnswer) {s : AdapterConnection},
    s.isOpen → s.adapterMessageQueue →
    (s.controlledLoop xs).1 = xs.any fun a => s.bControlledMode || a.isAcked
  | [], s, _, _ => rfl
  | a :: xs, s, hopen, hqueue => by
    obtain ⟨hok, hmode⟩ := setControlledMode_of_isOpen (a := a) hopen hqueue
    have hsent : Sends (fun _ => True) s (s.setControlledMode true a).2 :=
      sends_setControlledMode trivial
    have ih := controlledLoop_of_isOpen xs (hsent.isOpen.trans hopen)
      (hsent.adapterMessageQueue.trans hqueue)
    simp only [controlledLoop, List.any_cons, ← hok]
    split_ifs with h
    · simp [h]
    · have hoff : s.bControlledMode = false := by
        rw [hok] at h
        cases hb : s.bControlledMode <;> simp_all
      rw [ih, hmode, ← hok]
      simp [h, hoff]

theorem requestVersion_of_known {xs : List Exchange} (h : s.iFirmwareVersion ≠ fwVersionUnknown) :
    requestVersion xs s = s := by
  cases xs with
  | nil => rfl
  | cons x xs => rw [requestVersion, if_pos h]

theorem requestVersion_of_isOpen : ∀ (xs : List Exchange) {s : AdapterConnection}, s.isOpen →
    s.adapterMessageQueue → s.iFirmwareVersion = fwVersionUnknown →
    (requestVersion xs s).iFirmwareVersion = (versionAnswered xs s.bControlledMode).1 ∧
      (requestVersion xs s).bControlledMode = (versionAnswered xs s.bControlledMode).2
  | [], s, _, _, hunknown => ⟨hunknown, rfl⟩
  | x :: xs, s, hopen, hqueue, hunknown => by
    obtain ⟨hanswer, hmode⟩ := requestSetting_of_isOpen (m := .firmwareVersion) (x := x)
      hopen hqueue
    have hsent : Sends (fun _ => True) s (s.requestSetting .firmwareVersion x).2 :=
      sends_requestSetting trivial trivial
    have hversion : (s.requestSetting .firmwareVersion x).2.iFirmwareVersion = s.iFirmwareVersion :=
      iFirmwareVersion_requestSetting
    rw [requestVersion, if_neg (not_not.mpr hunknown), versionAnswered, ← hanswer, ← hmode]
    generalize s.requestSetting .firmwareVersion x = r at hsent hversion ⊢
    obtain ⟨data, t⟩ := r
    have ih := requestVersion_of_isOpen xs (s := t) (hsent.isOpen.trans hopen)
      (hsent.adapterMessageQueue.trans hqueue) (hversion.trans hunknown)
    match data with
    | [high, low] =>
      by_cases hknown : ofBytes high low = fwVersionUnknown
      · have hsame : { t with iFirmwareVersion := fwVersionUnknown } = t := by
          rw [← hunknown, ← hversion]
        simpa only [hknown, hsame, ne_eq, not_true_eq_false, if_false] using ih
      · simp only [hknown, ne_eq, not_false_eq_true, if_true]
        rw [requestVersion_of_known (by exact hknown)]
        exact ⟨rfl, rfl⟩
    | [] | [_] | _ :: _ :: _ :: _ => exact ih

theorem requestFirmwareVersion_of_isOpen (xs : Fin 3 → Exchange) (hopen : s.isOpen)
    (hqueue : s.adapterMessageQueue) :
    (2 ≤ (s.requestFirmwareVersion xs).iFirmwareVersion ↔
        (versionAnswered (List.ofFn xs) s.bControlledMode).1 ≠ fwVersionUnknown ∧
          2 ≤ (versionAnswered (List.ofFn xs) s.bControlledMode).1) ∧
      (2 ≤ (s.requestFirmwareVersion xs).iFirmwareVersion →
        (s.requestFirmwareVersion xs).bControlledMode =
          (versionAnswered (List.ofFn xs) s.bControlledMode).2) := by
  obtain ⟨hversion, hmode⟩ := requestVersion_of_isOpen (List.ofFn xs)
    (s := { s with iFirmwareVersion := fwVersionUnknown }) hopen hqueue rfl
  simp only [requestFirmwareVersion]
  generalize requestVersion (List.ofFn xs) { s with iFirmwareVersion := fwVersionUnknown } = t at *
  rw [← hversion, ← hmode]
  by_cases hunknown : t.iFirmwareVersion = fwVersionUnknown
  · have hold : (1 : UInt16) < 2 := by decide
    have hlow : ¬ (2 : UInt16) ≤ 1 := by decide
    simp [hunknown, hold, hlow]
  · by_cases hold : t.iFirmwareVersion < 2
    · simp [hunknown, hold, UInt16.not_le.mpr hold]
    · simp [hunknown, hold, UInt16.not_lt.mp hold]

theorem pingAndControl_of_isOpen {c : AdapterChecks} (hopen : s.isOpen)
    (hqueue : s.adapterMessageQueue) :
    (s.pingAndControl c).1 ↔ c.Passed s.bControlledMode := by
  obtain ⟨hping, hmode⟩ := pingLoop_of_isOpen c.pings hopen hqueue
  have hsent : Sends (fun _ => True) s (s.pingLoop c.pings).2 := sends_pingLoop trivial trivial _
  simp only [pingAndControl, AdapterChecks.Passed, ← hping, ← hmode]
  generalize s.pingLoop c.pings = r at hsent ⊢
  obtain ⟨ok, t⟩ := r
  have hopen' : t.isOpen := hsent.isOpen.trans hopen
  have hqueue' : t.adapterMessageQueue := hsent.adapterMessageQueue.trans hqueue
  obtain ⟨hversion, hset⟩ := requestFirmwareVersion_of_isOpen c.versions hopen' hqueue'
  have hsent' : Sends (fun _ => True) t (t.requestFirmwareVersion c.versions) :=
    sends_requestFirmwareVersion trivial _ trivial
  have hloop := controlledLoop_of_isOpen c.controlled (hsent'.isOpen.trans hopen')
    (hsent'.adapterMessageQueue.trans hqueue')
  cases ok with
  | false => simp
  | true =>
    cases htime : c.timeLeft with
    | false => simp
    | true =>
      simp only [Bool.and_self, if_true, forall_const]
      split_ifs with hfw
      · obtain ⟨hknown, hnew⟩ := hversion.mp hfw
        rw [hloop, hset hfw, List.any_eq_true]
        simp only [Bool.or_eq_true, hknown, hnew, forall_const, ne_eq, not_false_eq_true]
      · refine iff_of_true rfl fun hknown hnew => ?_
        exact (hfw (hversion.mpr ⟨hknown, hnew⟩)).elim

end AdapterConnection

/-! ### `Open` and `Close` -/

namespace AdapterConnection

variable {s s' : AdapterConnection} {c : OpenCall}

theorem setLogicalAddresses_of_not_isOpen {addresses : LogicalAddresses} {x : Exchange}
    (h : s.isOpen = false) : (s.setLogicalAddresses addresses x).2 = s := by
  simp only [setLogicalAddresses, h, Bool.false_eq_true, if_false]
  split <;> rfl

/-- The state in which `Open` checks the adapter. -/
def started (s : AdapterConnection) : AdapterConnection :=
  { s with
    adapterMessageQueue := true
    portIsOpen := true
    wire := s.wire ++ [WireEvent.portOpened]
    bStop := false
    bRunning := true }

/-- `Open` while the reader thread does not run: no mask is sent. -/
theorem openConnection_of_not_running (hrun : s.bRunning = false) : s.openConnection c =
    if s.portIsOpen || !c.portOpens then (false, { s with adapterMessageQueue := true })
    else
      let r := if c.bSkipChecks then (true, s.started) else s.started.checkAdapter c.checks
      if !r.1 then (false, r.2.stopThread)
      else if c.bStartListening then
        (true, { r.2 with eepromWriteThread := true, pingThread := true })
      else (true, r.2.stopThread) := by
  have hclosed : s.isOpen = false := by simp [isOpen, hrun]
  simp only [openConnection, hclosed, Bool.false_eq_true, if_false]
  rw [setLogicalAddresses_of_not_isOpen (by simp [isOpen, hrun])]
  simp only [createThread, hrun, Bool.false_eq_true, if_false, Bool.not_true]
  rfl

/-- What the checks find when `Open` begins with a reader thread that does not run. -/
theorem checks_started : (if c.bSkipChecks then (true, s.started)
      else s.started.checkAdapter c.checks).1 = true ↔
    c.bSkipChecks ∨ c.checks.Passed s.bControlledMode := by
  cases c.bSkipChecks with
  | true => simp
  | false =>
    simp only [Bool.false_eq_true, if_false, false_or]
    exact pingAndControl_of_isOpen (s := s.started) rfl rfl

theorem sends_started : Sends (fun m => ∀ iMask, m ≠ .setAckMask iMask) s.started
    (if c.bSkipChecks then (true, s.started) else s.started.checkAdapter c.checks).2 := by
  split
  · exact .refl _
  · exact sends_checkAdapter

theorem openConnection_iff (hrun : s.bRunning = false) :
    (s.openConnection c).1 = true ↔ c.Connects s := by
  rw [openConnection_of_not_running hrun, OpenCall.Connects, ← checks_started (s := s)]
  generalize (if c.bSkipChecks then (true, s.started)
    else s.started.checkAdapter c.checks) = r
  obtain ⟨ok, t⟩ := r
  cases s.portIsOpen <;> cases c.portOpens <;> cases ok <;> cases c.bStartListening <;> simp

/-- An `Open` that does not connect leaves no reader thread. -/
theorem bRunning_openConnection (hrun : s.bRunning = false) (hfails : ¬ c.Connects s) :
    (s.openConnection c).2.bRunning = false := by
  have hfst : (s.openConnection c).1 ≠ true := fun h => hfails ((openConnection_iff hrun).mp h)
  rw [openConnection_of_not_running hrun] at hfst ⊢
  generalize (if c.bSkipChecks then (true, s.started)
    else s.started.checkAdapter c.checks) = r at hfst ⊢
  obtain ⟨ok, t⟩ := r
  by_cases hport : s.portIsOpen || !c.portOpens
  · rw [if_pos hport]
    exact hrun
  · rw [if_neg hport] at hfst ⊢
    cases ok with
    | false => rfl
    | true => cases hlisten : c.bStartListening <;> simp [hlisten] at hfst

/-- `Close` stops the reader thread first, so that nothing is sent about the mask. -/
theorem sends_closeConnection {c : CloseCall} : ∃ t,
    Sends (fun m => m = .writeEEPROM ∨ m = .setControlled true) s t ∧
      s.closeConnection c =
        { t.stopThread with eepromWriteThread := false, pingThread := false }.closePort := by
  have hwritten : Sends (fun m => m = .writeEEPROM ∨ m = .setControlled true) s
      (if s.isOpen then (s.writeEEPROM c.eeprom).2 else s) := by
    split
    · exact sends_writeEEPROM (.inr rfl) (.inl rfl)
    · exact .refl s
  refine ⟨_, hwritten, ?_⟩
  have hstopped : ∀ t : AdapterConnection, t.stopThread.isOpen = false := fun _ => rfl
  simp only [closeConnection, hstopped, Bool.false_and, Bool.false_eq_true, if_false]

end AdapterConnection

end CEC
