import LibCec.AdapterMessage
import LibCec.Schemes.GuardedRun

/-! Assembling CEC frames from adapter messages: the part of
    `CCECAdapterMessageQueue::MessageReceived` that sees what no queue entry has handled.

    The adapter reports a CEC frame byte by byte: one `FRAME_START` with the header byte, then one
    `FRAME_DATA` for each further byte, the last of them with the EOM flag. The bytes are collected
    in `m_currentCECFrame`, which is handed over and cleared on EOM.

        closed ──FRAME_START──▶ open ──FRAME_DATA──▶ open ──EOM──▶ OnCommandReceived, closed

    The collected frame does not remember whether a start was seen, and an error message leaves it
    as it is. `assembly_faithful` shows that in every run without the messages that exploit this
    (`Orderly`), each command handed over is the decoding of one frame of the bus. -/

namespace CEC
open Schemes

/-! ### The code -/

/-- `CCECAdapterMessage::PushToCecCommand`: the command with the message pushed to it, and whether
    it is complete. -/
def AdapterMessage.pushToCecCommand (m : AdapterMessage) (command : Command) : Command × Bool :=
  if m.isEmpty then (command, false)
  else if m.message = MsgCode.frameStart then
    let command :=
      if m.size ≥ 3 then
        { Command.clear with
          initiator := m.initiator, destination := m.destination, ack := m.isAck, eom := m.isEom }
      else Command.clear
    (command, m.isEom && !m.isError)
  else if m.message = MsgCode.frameData then
    let command :=
      if m.size ≥ 3 then { command.pushBack (m.byteAt 2) with eom := m.isEom } else command
    (command, m.isEom && !m.isError)
  else (command, false)

/-- What the assembly calls outside: `IsInitialised`, and the callback `HandleReceiveFailed`. -/
structure Link where
  initialised : Bool
  handleReceiveFailed : LogicalAddress → Bool

/-- The members that the assembly of frames reads and writes. -/
structure FrameState where
  currentFrame : Command
  lastPollDestination : LogicalAddress
  waitingForAck : Fin 15 → Bool

/-- The calls it makes. -/
inductive FrameEvent where
  | poll (initiator destination : LogicalAddress)
  | rxError
  | rxSuccess
  | commandReceived (command : Command)
  deriving DecidableEq

namespace FrameState

/-- The state after construction. -/
def init : FrameState where
  currentFrame := .clear
  lastPollDestination := .unknown
  waitingForAck := fun _ => false

/-- `CUSBCECAdapterCommunication::HandlePoll`: whether the message counts as an error, and the poll
    that is reported. -/
def handlePoll (s : FrameState) (link : Link) (msg : AdapterMessage) :
    FrameState × Bool × List FrameEvent :=
  if msg.message = MsgCode.frameStart ∧ msg.isAck then
    let s' := { s with lastPollDestination := msg.destination }
    match msg.destination with
    | .unknown => (s', msg.isError, [])
    | .addr d =>
      if h : d.val < 15 then
        if !s.waitingForAck ⟨d, h⟩ && !msg.isEom then
          (s', msg.isError, [.poll msg.initiator msg.destination])
        else
          ({ s' with waitingForAck := Function.update s.waitingForAck ⟨d, h⟩ false },
            msg.isError, [])
      else (s', msg.isError, [])
  else if msg.message = MsgCode.receiveFailed ∧ s.lastPollDestination ≠ .unknown then
    (s, link.handleReceiveFailed s.lastPollDestination, [])
  else (s, msg.isError, [])

/-- The branch of `MessageReceived` for a message that no queue entry has handled. -/
def unhandled (s : FrameState) (link : Link) (msg : AdapterMessage) :
    FrameState × List FrameEvent :=
  let (s, isError, events) := s.handlePoll link msg
  if isError then (s, events ++ [.rxError])
  else
    let (frame, complete) := msg.pushToCecCommand s.currentFrame
    if complete then
      ({ s with currentFrame := .clear },
        events ++ if link.initialised then [.rxSuccess, .commandReceived frame] else [])
    else ({ s with currentFrame := frame }, events)

end FrameState

/-! ### What one message does to the frame -/

namespace AdapterMessage

theorem isError_of_frame {msg : AdapterMessage}
    (h : msg.message = MsgCode.frameStart ∨ msg.message = MsgCode.frameData) :
    msg.isError = false := by
  unfold isError
  rcases h with h | h <;> rw [h] <;> decide

theorem pushToCecCommand_other {msg : AdapterMessage} (hs : msg.message ≠ MsgCode.frameStart)
    (hd : msg.message ≠ MsgCode.frameData) (c : Command) : msg.pushToCecCommand c = (c, false) := by
  unfold pushToCecCommand
  rw [if_neg hs, if_neg hd, ite_self]

theorem isEmpty_of_size {msg : AdapterMessage} (h : 4 ≤ msg.size) : msg.isEmpty = false := by
  unfold isEmpty
  cases hs : msg.size with
  | zero => omega
  | succ n => rfl

/-- A start message that carries a header byte. -/
theorem pushToCecCommand_start {msg : AdapterMessage} (hm : msg.message = MsgCode.frameStart)
    (hsize : 4 ≤ msg.size) (c : Command) : msg.pushToCecCommand c =
      ({ Command.clear with
        initiator := .ofHigh (msg.byteAt 2), destination := .ofLow (msg.byteAt 2),
        ack := msg.isAck, eom := msg.isEom }, msg.isEom) := by
  have h3 : msg.size ≥ 3 := by omega
  simp [pushToCecCommand, isEmpty_of_size hsize, hm, isError_of_frame (.inl hm), h3, initiator,
    destination]

/-- A data message that carries a byte. -/
theorem pushToCecCommand_data {msg : AdapterMessage} (hm : msg.message = MsgCode.frameData)
    (hsize : 4 ≤ msg.size) (c : Command) : msg.pushToCecCommand c =
      ({ c.pushBack (msg.byteAt 2) with eom := msg.isEom }, msg.isEom) := by
  have h3 : msg.size ≥ 3 := by omega
  have hne : MsgCode.frameData ≠ MsgCode.frameStart := by decide
  simp [pushToCecCommand, isEmpty_of_size hsize, hm, hne, isError_of_frame (.inr hm), h3]

end AdapterMessage

namespace FrameState

/-- The poll handling leaves the frame alone and hands over no command. -/
theorem handlePoll_frame (s : FrameState) (link : Link) (msg : AdapterMessage) :
    (s.handlePoll link msg).1.currentFrame = s.currentFrame ∧
      ∀ c, .commandReceived c ∉ (s.handlePoll link msg).2.2 := by
  unfold handlePoll
  split
  · cases msg.destination with
    | unknown => exact ⟨rfl, by simp⟩
    | addr d =>
      by_cases h : d.val < 15
      · cases hw : !s.waitingForAck ⟨d, h⟩ && !msg.isEom <;> simp [h, hw]
      · simp [h]
  · split <;> exact ⟨rfl, by simp⟩

/-- Only `RECEIVE_FAILED` counts as something else than what its code says. -/
theorem handlePoll_isError (s : FrameState) (link : Link) {msg : AdapterMessage}
    (h : msg.message ≠ MsgCode.receiveFailed) : (s.handlePoll link msg).2.1 = msg.isError := by
  unfold handlePoll
  split
  · cases msg.destination with
    | unknown => rfl
    | addr d =>
      by_cases h : d.val < 15
      · cases hw : !s.waitingForAck ⟨d, h⟩ && !msg.isEom <;> simp [h, hw]
      · simp [h]
  · rw [if_neg fun hr => h hr.1]

/-- Either the message is pushed to the frame, or it counts as an error and is none of a frame. -/
theorem unhandled_cases (s : FrameState) (link : Link) (msg : AdapterMessage) :
    (s.handlePoll link msg).2.1 = false ∨
      (msg.message ≠ MsgCode.frameStart ∧ msg.message ≠ MsgCode.frameData) := by
  by_cases h : msg.message = MsgCode.frameStart ∨ msg.message = MsgCode.frameData
  · left
    have hr : msg.message ≠ MsgCode.receiveFailed := by
      rcases h with h | h <;> rw [h] <;> decide
    rw [handlePoll_isError s link hr, AdapterMessage.isError_of_frame h]
  · exact .inr (not_or.mp h)

/-- The frame after a message: what the message makes of it, or nothing when it is complete. -/
theorem unhandled_currentFrame (s : FrameState) (link : Link) (msg : AdapterMessage) :
    (s.unhandled link msg).1.currentFrame =
      if (msg.pushToCecCommand s.currentFrame).2 then .clear
      else (msg.pushToCecCommand s.currentFrame).1 := by
  have hpoll := (handlePoll_frame s link msg).1
  unfold unhandled
  cases he : (s.handlePoll link msg).2.1
  · simp only [he, hpoll, Bool.false_eq_true, if_false]
    cases (msg.pushToCecCommand s.currentFrame).2 <;> simp
  · obtain ⟨hs, hd⟩ := (unhandled_cases s link msg).resolve_left (by simp [he])
    simp [he, hpoll, AdapterMessage.pushToCecCommand_other hs hd]

/-- A command that is handed over is the frame that the message has just completed. -/
theorem unhandled_command {s : FrameState} {link : Link} {msg : AdapterMessage} {c : Command}
    (h : .commandReceived c ∈ (s.unhandled link msg).2) :
    msg.pushToCecCommand s.currentFrame = (c, true) := by
  obtain ⟨hpoll, hnone⟩ := handlePoll_frame s link msg
  unfold unhandled at h
  cases he : (s.handlePoll link msg).2.1
  · simp only [he, hpoll, Bool.false_eq_true, if_false] at h
    cases hp : msg.pushToCecCommand s.currentFrame with
    | mk frame complete =>
      cases complete
      · simp [hp, hnone] at h
      · cases hi : link.initialised <;> simp [hp, hi, hnone] at h
        rw [h]
  · simp [he, hnone] at h

end FrameState

/-! ### What a frame is -/

/-- A code that reports an error on the bus or from the adapter. -/
def AdapterMessage.reportsError (m : AdapterMessage) : Bool :=
  m.isError || m.message == MsgCode.timeoutError

/-- The command holds the bytes of one frame: the header from `start`, the rest from `data`. -/
structure Command.IsDecodingOf (c : Command) (start : AdapterMessage) (data : List AdapterMessage) :
    Prop where
  initiator : c.initiator = .ofHigh (start.byteAt 2)
  destination : c.destination = .ofLow (start.byteAt 2)
  ack : c.ack = start.isAck
  eom : c.eom = ((start :: data).getLast (List.cons_ne_nil _ _)).isEom
  opcodeSet : c.opcodeSet = !data.isEmpty
  opcode : c.opcode = (data.map (·.byteAt 2)).headD opcodeFeatureAbort
  parameters : c.parameters.toList = data.tail.map (·.byteAt 2)
  timeout : c.transmitTimeout = defaultTransmitTimeout

/-- The last frame in `msgs` is opened by `start` and has the bytes of `data` so far: no error and
    no other start came after it, and every byte is a byte of the frame, not the `MSGEND` of a
    message that is too short. -/
structure OpenedBy (msgs : List AdapterMessage) (start : AdapterMessage)
    (data : List AdapterMessage) : Prop where
  shape : ∃ before mid, msgs = before ++ start :: mid ∧
    (∀ m ∈ mid, m.reportsError = false ∧ m.message ≠ MsgCode.frameStart) ∧
    data = mid.filter (·.message = MsgCode.frameData)
  isStart : start.message = MsgCode.frameStart
  hasByte : ∀ m ∈ start :: data, 4 ≤ m.size

/-- The command is the decoding of the frame that the last message of `msgs` completes. -/
def Assembled (msgs : List AdapterMessage) (c : Command) : Prop :=
  ∃ start data, OpenedBy msgs start data ∧ c.IsDecodingOf start data ∧
    ∃ body last, start :: data = body ++ [last] ∧ msgs.getLast? = some last ∧ last.isEom ∧
      ∀ m ∈ body, ¬ m.isEom

/-! ### One step -/

/-- A frame is being collected. -/
def Command.IsOpen (c : Command) : Prop := ¬ (c.initiator = .unknown ∧ c.destination = .unknown)

instance (c : Command) : Decidable c.IsOpen := inferInstanceAs (Decidable (¬ _))

/-- The message does not exploit what the collected frame forgets: an error only arrives between
    two frames, a start and a data message are long enough to carry a byte, and data only follows
    a start and fits the command. -/
structure Orderly (frame : Command) (msg : AdapterMessage) : Prop where
  error : msg.reportsError → ¬ frame.IsOpen
  start : msg.message = MsgCode.frameStart → 4 ≤ msg.size
  data : msg.message = MsgCode.frameData → frame.IsOpen ∧ 4 ≤ msg.size ∧
    (frame.opcodeSet → frame.parameters.size < maxDataPacketSize)

instance (frame : Command) (msg : AdapterMessage) : Decidable (Orderly frame msg) :=
  decidable_of_iff (_ ∧ _ ∧ _) ⟨fun h => ⟨h.1, h.2.1, h.2.2⟩, fun h => ⟨h.error, h.start, h.data⟩⟩

/-- Nothing is being collected, or the frame that was opened last and is not complete. -/
def AssemblyInv (msgs : List AdapterMessage) (frame : Command) : Prop :=
  frame = .clear ∨ ∃ start data, OpenedBy msgs start data ∧ frame.IsDecodingOf start data ∧
    ∀ m ∈ start :: data, ¬ m.isEom

theorem Command.IsDecodingOf.isOpen {c : Command} {start : AdapterMessage}
    {data : List AdapterMessage} (h : c.IsDecodingOf start data) : c.IsOpen := by
  rintro ⟨hi, -⟩
  rw [h.initiator] at hi
  cases hi

/-- A start message opens a frame. -/
theorem openedBy_start (msgs : List AdapterMessage) {msg : AdapterMessage}
    (hm : msg.message = MsgCode.frameStart) (hsize : 4 ≤ msg.size) :
    OpenedBy (msgs ++ [msg]) msg [] :=
  ⟨⟨msgs, [], rfl, by simp, rfl⟩, hm, by simpa using hsize⟩

/-- A data message continues the frame that was opened last. -/
theorem OpenedBy.data {msgs data : List AdapterMessage} {start msg : AdapterMessage}
    (h : OpenedBy msgs start data) (hm : msg.message = MsgCode.frameData) (hsize : 4 ≤ msg.size) :
    OpenedBy (msgs ++ [msg]) start (data ++ [msg]) := by
  obtain ⟨⟨before, mid, rfl, hmid, rfl⟩, hs, hb⟩ := h
  have hmsg : msg.reportsError = false ∧ msg.message ≠ MsgCode.frameStart := by
    refine ⟨?_, by rw [hm]; decide⟩
    rw [AdapterMessage.reportsError, AdapterMessage.isError_of_frame (.inr hm), hm]
    decide
  refine ⟨⟨before, mid ++ [msg], by simp, ?_, by simp [hm]⟩, hs, ?_⟩
  · rintro m hmem
    rcases List.mem_append.mp hmem with hmem | hmem
    · exact hmid m hmem
    · rwa [List.mem_singleton.mp hmem]
  · intro m hmem
    rw [← List.cons_append, List.mem_append, List.mem_singleton] at hmem
    rcases hmem with hmem | rfl
    · exact hb m hmem
    · exact hsize

/-- Any other message leaves the frame that was opened last as it is. -/
theorem OpenedBy.other {msgs data : List AdapterMessage} {start msg : AdapterMessage}
    (h : OpenedBy msgs start data) (hs : msg.message ≠ MsgCode.frameStart)
    (hd : msg.message ≠ MsgCode.frameData) (he : msg.reportsError = false) :
    OpenedBy (msgs ++ [msg]) start data := by
  obtain ⟨⟨before, mid, rfl, hmid, rfl⟩, hst, hb⟩ := h
  refine ⟨⟨before, mid ++ [msg], by simp, ?_, by simp [hd]⟩, hst, hb⟩
  intro m hmem
  rcases List.mem_append.mp hmem with hmem | hmem
  · exact hmid m hmem
  · rw [List.mem_singleton.mp hmem]
    exact ⟨he, hs⟩

/-- Pushing the byte of a data message decodes one byte more. -/
theorem Command.IsDecodingOf.data {c : Command} {start : AdapterMessage}
    {data : List AdapterMessage} (h : c.IsDecodingOf start data) (msg : AdapterMessage)
    (hroom : c.opcodeSet → c.parameters.size < maxDataPacketSize) :
    Command.IsDecodingOf { c.pushBack (msg.byteAt 2) with eom := msg.isEom } start
      (data ++ [msg]) := by
  obtain ⟨hi, hd, ha, -, hset, hop, hpar, ht⟩ := h
  have hopen : ¬ (c.initiator = .unknown ∧ c.destination = .unknown) := by simp [hi, LogicalAddress.ofHigh]
  cases data with
  | nil =>
    -- the first data byte is the opcode
    have hset' : c.opcodeSet = false := by simpa using hset
    have hpush : c.pushBack (msg.byteAt 2)
        = { c with opcodeSet := true, opcode := msg.byteAt 2 } := by
      simp [Command.pushBack, hopen, hset']
    rw [hpush]
    exact ⟨hi, hd, ha, rfl, rfl, rfl, hpar, ht⟩
  | cons d ds =>
    -- every further one is a parameter
    have hset' : c.opcodeSet = true := by simpa using hset
    have hpush : c.pushBack (msg.byteAt 2)
        = { c with parameters := c.parameters.push (msg.byteAt 2) } := by
      simp [Command.pushBack, hopen, hset']
    rw [hpush]
    refine ⟨hi, hd, ha, by simp, by simpa using hset, by simpa using hop, ?_, ht⟩
    rw [BoundedBuffer.toList_push_of_lt (hroom hset'), hpar]
    simp

/-- One orderly message keeps the invariant, and completes a frame only by its last byte. -/
theorem assembly_step {msgs : List AdapterMessage} {frame : Command} {msg : AdapterMessage}
    (hinv : AssemblyInv msgs frame) (hok : Orderly frame msg) :
    AssemblyInv (msgs ++ [msg]) (if (msg.pushToCecCommand frame).2 then .clear
      else (msg.pushToCecCommand frame).1) ∧
    ((msg.pushToCecCommand frame).2 = true →
      Assembled (msgs ++ [msg]) (msg.pushToCecCommand frame).1) := by
  by_cases hs : msg.message = MsgCode.frameStart
  · -- a start: whatever was collected is dropped
    have hsize := hok.start hs
    have hopened := openedBy_start msgs hs hsize
    rw [AdapterMessage.pushToCecCommand_start hs hsize]
    have hdec : Command.IsDecodingOf { Command.clear with
        initiator := .ofHigh (msg.byteAt 2), destination := .ofLow (msg.byteAt 2),
        ack := msg.isAck, eom := msg.isEom } msg [] := ⟨rfl, rfl, rfl, rfl, rfl, rfl, rfl, rfl⟩
    cases he : msg.isEom
    · refine ⟨.inr ⟨msg, [], hopened, by rwa [he] at hdec, by simp [he]⟩, by simp⟩
    · exact ⟨.inl rfl, fun _ => ⟨msg, [], hopened, by rwa [he] at hdec, [], msg, rfl, by simp, he,
        by simp⟩⟩
  by_cases hd : msg.message = MsgCode.frameData
  · -- data: the frame it belongs to is the open one
    obtain ⟨hopen, hsize, hroom⟩ := hok.data hd
    rcases hinv with rfl | ⟨start, data, hopened, hdec, hnone⟩
    · exact absurd ⟨rfl, rfl⟩ hopen
    have hopened' := hopened.data hd hsize
    have hdec' := hdec.data msg hroom
    rw [AdapterMessage.pushToCecCommand_data hd hsize]
    cases he : msg.isEom
    · refine ⟨.inr ⟨start, data ++ [msg], hopened', by rwa [he] at hdec', ?_⟩, by simp⟩
      intro m hm
      rw [← List.cons_append, List.mem_append, List.mem_singleton] at hm
      rcases hm with hm | rfl
      · exact hnone m hm
      · simp [he]
    · exact ⟨.inl rfl, fun _ => ⟨start, data ++ [msg], hopened', by rwa [he] at hdec',
        start :: data, msg, rfl, by simp, he, hnone⟩⟩
  · -- anything else is not pushed
    rw [AdapterMessage.pushToCecCommand_other hs hd]
    refine ⟨?_, by simp⟩
    rcases hinv with rfl | ⟨start, data, hopened, hdec, hnone⟩
    · exact .inl rfl
    · have he : msg.reportsError = false := by
        by_contra hne
        exact hok.error (by simpa using hne) hdec.isOpen
      exact .inr ⟨start, data, hopened.other hs hd he, hdec, hnone⟩

/-! ### Runs -/

/-- A message that no queue entry has handled, and what the assembly is told when it arrives. -/
structure Unhandled where
  link : Link
  msg : AdapterMessage

/-- The state after one such message. -/
def frameStep (s : FrameState) (u : Unhandled) : FrameState := (s.unhandled u.link u.msg).1

/-- The guard of a run without the messages that exploit what the frame forgets. -/
def OrderlyStep (s : FrameState) (u : Unhandled) : Prop := Orderly s.currentFrame u.msg

instance (s : FrameState) (u : Unhandled) : Decidable (OrderlyStep s u) :=
  inferInstanceAs (Decidable (Orderly _ _))

/-- A message with these bytes, on an initialised connection. -/
def unhandledBytes (bs : List UInt8) : Unhandled where
  link := ⟨true, fun _ => false⟩
  msg := { AdapterMessage.clear with txData := BoundedBuffer.empty.pushAll bs }

/-- At the end of an orderly run the collected frame is the frame that was opened last. -/
theorem assembly_run {us : List Unhandled} (h : Guarded frameStep OrderlyStep FrameState.init us) :
    AssemblyInv (us.map (·.msg)) (us.foldl frameStep FrameState.init).currentFrame := by
  refine Guarded.invariant
    (fun past s => AssemblyInv (past.map (·.msg)) s.currentFrame) (.inl rfl) ?_ h
  intro past s u hinv hok
  rw [List.map_append, frameStep, FrameState.unhandled_currentFrame]
  exact (assembly_step hinv hok).1

/-- In every orderly run, each command that is handed over is the decoding of one frame: one
    `FRAME_START` and the `FRAME_DATA` after it up to the first EOM, with no error and no other
    `FRAME_START` in between. -/
theorem assembly_faithful (past : List Unhandled) (u : Unhandled)
    (h : Guarded frameStep OrderlyStep FrameState.init (past ++ [u])) (c : Command)
    (hc : .commandReceived c ∈
      ((past.foldl frameStep FrameState.init).unhandled u.link u.msg).2) :
    Assembled ((past ++ [u]).map (·.msg)) c := by
  obtain ⟨hpast, hok⟩ := guarded_concat.mp h
  have hpush := FrameState.unhandled_command hc
  have hstep := (assembly_step (assembly_run hpast) hok).2
  rw [hpush] at hstep
  rw [List.map_append]
  exact hstep rfl

theorem assembly_faithful_image_view_on :
    Assembled ([unhandledBytes [0xFF, 0x05, 0x40, 0xFE], unhandledBytes [0xFF, 0x86, 0x04, 0xFE]].map
        (·.msg))
      { Command.clear with
        initiator := .addr 4, destination := .addr 0, eom := true, opcode := 0x04,
        opcodeSet := true } :=
  assembly_faithful [unhandledBytes [0xFF, 0x05, 0x40, 0xFE]]
    (unhandledBytes [0xFF, 0x86, 0x04, 0xFE]) (by decide) _ (by decide)

/-- A data message whose start was lost is handed over as a poll, with the addresses of its byte. -/
theorem assembly_after_lost_start :
    .commandReceived { Command.clear with
        initiator := .addr 3, destination := .addr 6, eom := true } ∈
      (FrameState.init.unhandled (unhandledBytes [0xFF, 0x86, 0x36, 0xFE]).link
        (unhandledBytes [0xFF, 0x86, 0x36, 0xFE]).msg).2 ∧
    ¬ Assembled [(unhandledBytes [0xFF, 0x86, 0x36, 0xFE]).msg]
      { Command.clear with initiator := .addr 3, destination := .addr 6, eom := true } := by
  refine ⟨by decide, ?_⟩
  rintro ⟨start, data, ⟨⟨before, mid, hmsgs, -⟩, hstart, -⟩, -⟩
  have hmem : start ∈ [(unhandledBytes [0xFF, 0x86, 0x36, 0xFE]).msg] := by simp [hmsgs]
  rw [List.mem_singleton.mp hmem] at hstart
  exact absurd hstart (by decide)

end CEC
