import LibCec.CommandFormat
import LibCec.FrameAssembly
import LibCec.InputBuffer
import LibCec.MessageQueue
import LibCec.Receiver

/-! From the serial port to the processor.

    Three kinds of threads are at work on what is received. The reader feeds each byte to the
    incoming message, others add entries to `m_messages` and remove them, and the processor pops:

        byte ──▶ message ──m_messages──▶ the answer to an entry
                    │
                    └──nobody's──▶ frame ──EOM──▶ OnCommandReceived ──▶ m_inBuffer ──▶ Pop

    The parts have their own modules. Put together they lose no frame of the bus, make none up and
    keep the order, wherever the reads end and the other threads come in (`delivered`), as long as no
    pending entry takes a byte of a frame for its answer. -/

namespace CEC
open Schemes QueueEntry

/-! ### The threads -/

/-- What a received byte passes through. -/
structure ReceivePath where
  /-- `m_incomingAdapterMessage` -/
  incoming : AdapterMessage
  /-- `m_messages` -/
  messages : Messages
  /-- `m_currentCECFrame`, and what the polls use -/
  frame : FrameState
  /-- `m_inBuffer` of the processor -/
  buffer : InputBuffer

/-- A step of one of the threads: a byte that the reader passes to `AddData`, what another thread
    leaves in `m_messages`, or the processor. -/
inductive PathStep where
  | byte (link : Link) (b : UInt8)
  | messages (ms : Messages)
  | pop

/-- What is seen of `m_inBuffer`. -/
abbrev BufferEvents := List (QueueEvent Command)

namespace ReceivePath

/-- `CCECProcessor::OnCommandReceived`, for each command that is handed over. -/
def onCommandReceived (b : InputBuffer) : List FrameEvent → InputBuffer × BufferEvents
  | [] => (b, [])
  | .commandReceived c :: es =>
    let pushed := b.push c
    let rest := onCommandReceived pushed.2 es
    (rest.1, .pushed c pushed.1 :: rest.2)
  | _ :: es => onCommandReceived b es

/-- `MessageReceived`. -/
def messageReceived (extended : Bool) (s : ReceivePath) (link : Link) (msg : AdapterMessage) :
    ReceivePath × BufferEvents :=
  let offered := offer extended msg s.messages
  if offered.2.isSome then ({ s with messages := offered.1 }, [])
  else
    let unhandled := s.frame.unhandled link msg
    let pushed := onCommandReceived s.buffer unhandled.2
    ({ s with messages := offered.1, frame := unhandled.1, buffer := pushed.1 }, pushed.2)

/-- The body of the loop of `AddData`. -/
def addByte (extended : Bool) (s : ReceivePath) (link : Link) (b : UInt8) :
    ReceivePath × BufferEvents :=
  let received := s.incoming.pushReceivedByte b
  if received.2 then
    let passed := messageReceived extended s link received.1
    ({ passed.1 with incoming := .clear }, passed.2)
  else ({ s with incoming := received.1 }, [])

def step (extended : Bool) (s : ReceivePath) : PathStep → ReceivePath × BufferEvents
  | .byte link b => s.addByte extended link b
  | .messages ms => ({ s with messages := ms }, [])
  | .pop => ({ s with buffer := s.buffer.pop.2 }, [.popped s.buffer.pop.1])

/-- Nothing has been received. -/
def initial : ReceivePath := ⟨.clear, [], .init, .initial⟩

/-- The state after some steps. -/
def after (extended : Bool) (s : ReceivePath) (es : List PathStep) : ReceivePath :=
  es.foldl (fun s e => (s.step extended e).1) s

/-- What the steps do to the buffer. -/
def events (extended : Bool) : ReceivePath → List PathStep → BufferEvents
  | _, [] => []
  | s, e :: es => (s.step extended e).2 ++ events extended (s.step extended e).1 es

/-- The commands that are handed to the processor. -/
def handedOver (events : BufferEvents) : List Command :=
  events.filterMap fun
    | .pushed c _ => some c
    | _ => none

/-- The bytes that the reader gets from the port. -/
def bytesOf (es : List PathStep) : List UInt8 :=
  es.filterMap fun
    | .byte _ b => some b
    | _ => none

/-! ### Frames of the bus -/

/-- A frame: its header, and the other bytes, each with its acknowledgement. -/
structure BusFrame where
  header : UInt8
  headerAck : Bool
  data : List (UInt8 × Bool)

/-- A code with its flags. -/
def flagged (code : MsgCode) (eom ack : Bool) : UInt8 :=
  code ||| (if eom then MsgCode.frameEom else 0) ||| if ack then MsgCode.frameAck else 0

/-- What the adapter reports of the bytes behind the header. -/
def dataPayloads : List (UInt8 × Bool) → List (List UInt8)
  | [] => []
  | (b, ack) :: rest => [flagged MsgCode.frameData rest.isEmpty ack, b] :: dataPayloads rest

namespace BusFrame

variable (f : BusFrame)

/-- What the adapter reports of the frame. -/
def payloads : List (List UInt8) :=
  [flagged MsgCode.frameStart f.data.isEmpty f.headerAck, f.header] :: dataPayloads f.data

/-- The bytes on the bus. -/
def bytes : List UInt8 := f.header :: f.data.map Prod.fst

/-- The command that the frame is. -/
def command : Command :=
  { Command.clear.pushArray f.bytes with ack := f.headerAck, eom := true }

end BusFrame

/-- The adapter reports a byte of the bus. -/
def IsFramePayload (p : List UInt8) : Prop :=
  AdapterMessage.codeOf (p.headD msgEnd) = MsgCode.frameStart ∨
    AdapterMessage.codeOf (p.headD msgEnd) = MsgCode.frameData

instance : DecidablePred IsFramePayload := fun _ => inferInstanceAs (Decidable (_ ∨ _))

/-! ### What the frames are assembled to -/

/-- The commands that messages are assembled to, from what was collected of a frame. -/
def assembled : Command → List AdapterMessage → List Command
  | _, [] => []
  | frame, msg :: msgs =>
    let pushed := msg.pushToCecCommand frame
    if pushed.2 then pushed.1 :: assembled .clear msgs else assembled pushed.1 msgs

/-- Messages that are no bytes of a frame change nothing. -/
theorem assembled_filter : ∀ (msgs : List AdapterMessage) (frame : Command),
    assembled frame msgs = assembled frame (msgs.filter fun msg => decide (IsFrame msg))
  | [], _ => rfl
  | msg :: msgs, frame => by
    by_cases hf : IsFrame msg
    · rw [List.filter_cons_of_pos (by simpa using hf), assembled, assembled,
        assembled_filter msgs, assembled_filter msgs]
    · obtain ⟨hs, hd⟩ := not_or.mp hf
      rw [List.filter_cons_of_neg (by simpa using hf), assembled,
        AdapterMessage.pushToCecCommand_other hs hd]
      exact assembled_filter msgs frame

/-- A message that carries a byte of a frame. -/
structure Carries (msg : AdapterMessage) (code : MsgCode) (eom : Bool) (value : UInt8) : Prop where
  message : msg.message = code
  size : 4 ≤ msg.size
  isEom : msg.isEom = eom
  value : msg.byteAt 2 = value

theorem flagged_parts {code : MsgCode} (hcode : code = MsgCode.frameStart ∨ code = MsgCode.frameData)
    (eom ack : Bool) : AdapterMessage.codeOf (flagged code eom ack) = code ∧
      (flagged code eom ack &&& MsgCode.frameEom != 0) = eom ∧
      (flagged code eom ack &&& MsgCode.frameAck != 0) = ack := by
  rcases hcode with rfl | rfl
  · revert eom ack
    decide
  · revert eom ack
    decide

theorem carries_of_bytes {msg : AdapterMessage} {code : MsgCode} {eom ack : Bool} {value : UInt8}
    (hcode : code = MsgCode.frameStart ∨ code = MsgCode.frameData)
    (h : msg.bytes = wire.delimited [flagged code eom ack, value]) :
    Carries msg code eom value ∧ msg.isAck = ack := by
  have hdata : msg.txData.toList = [msgStart, flagged code eom ack, value, msgEnd] := h
  have hsize : msg.size = 4 := by rw [AdapterMessage.size, BoundedBuffer.size, hdata]; rfl
  have h1 : msg.byteAt 1 = flagged code eom ack := by rw [AdapterMessage.byteAt, hdata]; rfl
  have h2 : msg.byteAt 2 = value := by rw [AdapterMessage.byteAt, hdata]; rfl
  obtain ⟨hmessage, heom, hack⟩ := flagged_parts hcode eom ack
  refine ⟨⟨?_, by omega, ?_, h2⟩, ?_⟩
  · rw [AdapterMessage.message, if_pos (by omega), h1, hmessage]
  · rw [AdapterMessage.isEom, if_pos (by omega), h1, heom]
  · rw [AdapterMessage.isAck, if_pos (by omega), h1, hack]

/-- The code of a message is that of its payload. -/
theorem isFrame_iff {msg : AdapterMessage} {p : List UInt8} (h : msg.bytes = wire.delimited p) :
    IsFrame msg ↔ IsFramePayload p := by
  have hdata : msg.txData.toList = msgStart :: (p ++ [msgEnd]) := h
  have hsize : 2 ≤ msg.size := by
    rw [AdapterMessage.size, BoundedBuffer.size, hdata]
    simp
  have h1 : msg.byteAt 1 = p.headD msgEnd := by
    rw [AdapterMessage.byteAt, hdata]
    cases p with
    | nil => rfl
    | cons b p => rfl
  rw [IsFrame, IsFramePayload, AdapterMessage.message, if_pos hsize, h1]

theorem filter_isFrame : ∀ {msgs : List AdapterMessage} {ps : List (List UInt8)},
    msgs.map AdapterMessage.bytes = ps.map wire.delimited →
    (msgs.filter fun msg => decide (IsFrame msg)).map AdapterMessage.bytes =
      (ps.filter fun p => decide (IsFramePayload p)).map wire.delimited
  | [], [], _ => rfl
  | msg :: msgs, p :: ps, h => by
    rw [List.map_cons, List.map_cons] at h
    obtain ⟨hmsg, hrest⟩ := List.cons.inj h
    have ih := filter_isFrame hrest
    by_cases hp : IsFramePayload p
    · rw [List.filter_cons_of_pos (by simpa using (isFrame_iff hmsg).mpr hp),
        List.filter_cons_of_pos (by simpa using hp), List.map_cons, List.map_cons, hmsg, ih]
    · rw [List.filter_cons_of_neg (by simpa using mt (isFrame_iff hmsg).mp hp),
        List.filter_cons_of_neg (by simpa using hp), ih]

/-- A change of the flags of a command, for bytes that are pushed to it. -/
theorem pushArray_flags (ack eom : Bool → Bool) : ∀ (bs : List UInt8) (c : Command),
    Command.pushArray { c with ack := ack c.ack, eom := eom c.eom } bs =
      { c.pushArray bs with ack := ack (c.pushArray bs).ack, eom := eom (c.pushArray bs).eom }
  | [], _ => rfl
  | b :: bs, c => by
    have hpush : Command.pushBack { c with ack := ack c.ack, eom := eom c.eom } b =
        { c.pushBack b with ack := ack (c.pushBack b).ack, eom := eom (c.pushBack b).eom } := by
      unfold Command.pushBack
      split
      · rfl
      · split
        · rfl
        · rfl
    have ih := pushArray_flags ack eom bs (c.pushBack b)
    rw [Command.pushArray, List.foldl_cons, hpush]
    exact ih

/-- The bytes behind the header are pushed, one after the other. -/
theorem assembled_data : ∀ {data : List (UInt8 × Bool)} {msgs : List AdapterMessage}
    (frame : Command) (later : List AdapterMessage), data ≠ [] →
    msgs.map AdapterMessage.bytes = (dataPayloads data).map wire.delimited →
    assembled frame (msgs ++ later) =
      { frame.pushArray (data.map Prod.fst) with eom := true } :: assembled .clear later
  | [], _, _, _, hne, _ => absurd rfl hne
  | (b, ack) :: rest, [], _, _, _, h => by cases h
  | (b, ack) :: rest, msg :: msgs, frame, later, _, h => by
    rw [List.map_cons, dataPayloads, List.map_cons] at h
    obtain ⟨hmsg, hrest⟩ := List.cons.inj h
    have hcarries := (carries_of_bytes (.inr rfl) hmsg).1
    rw [List.cons_append, assembled,
      AdapterMessage.pushToCecCommand_data hcarries.message hcarries.size, hcarries.isEom,
      hcarries.value]
    cases rest with
    | nil =>
      obtain rfl : msgs = [] := List.map_eq_nil_iff.mp hrest
      rfl
    | cons r rest =>
      have ih := assembled_data { frame.pushBack b with eom := false } later (by simp) hrest
      have hflags := pushArray_flags id (fun _ => false) ((r :: rest).map Prod.fst) (frame.pushBack b)
      simp only [List.isEmpty_cons, Bool.false_eq_true, if_false]
      rw [ih]
      exact congrArg (fun c : Command => { c with eom := true } :: assembled .clear later) hflags

/-- One frame after the other. -/
theorem assembled_frames : ∀ {frames : List BusFrame} {msgs : List AdapterMessage},
    msgs.map AdapterMessage.bytes = (frames.flatMap BusFrame.payloads).map wire.delimited →
    assembled .clear msgs = frames.map BusFrame.command
  | [], msgs, h => by
    obtain rfl : msgs = [] := List.map_eq_nil_iff.mp h
    rfl
  | f :: frames, msgs, h => by
    rw [List.flatMap_cons, List.map_append] at h
    obtain ⟨first, later, rfl, hfirst, hlater⟩ := List.map_eq_append_iff.mp h
    have ih := assembled_frames hlater
    obtain ⟨start, data, rfl, hstart, hdata⟩ := List.map_eq_cons_iff.mp hfirst
    obtain ⟨hcarries, hack⟩ := carries_of_bytes (.inl rfl) hstart
    rw [List.cons_append, assembled,
      AdapterMessage.pushToCecCommand_start hcarries.message hcarries.size, hcarries.isEom,
      hcarries.value, hack, List.map_cons, ← ih]
    have hheader : BusFrame.command f = { Command.pushArray
        { Command.clear with initiator := .ofHigh f.header, destination := .ofLow f.header }
          (f.data.map Prod.fst) with ack := f.headerAck, eom := true } := rfl
    have hflags := pushArray_flags (fun _ => f.headerAck) (fun _ => f.data.isEmpty)
      (f.data.map Prod.fst)
      { Command.clear with initiator := .ofHigh f.header, destination := .ofLow f.header }
    cases hempty : f.data with
    | nil =>
      rw [hempty] at hdata hheader
      obtain rfl : data = [] := List.map_eq_nil_iff.mp hdata
      rw [hheader]
      rfl
    | cons d rest =>
      rw [hempty] at hdata hheader hflags
      rw [List.isEmpty_cons, if_neg Bool.false_ne_true, assembled_data _ later (by simp) hdata, hheader]
      exact congrArg (fun c : Command => { c with eom := true } :: assembled .clear later) hflags

/-! ### One message -/

/-- A byte of a frame that completes a message goes past the pending entries, and the connection is
    initialised. -/
def Undisturbed (extended : Bool) (s : ReceivePath) : PathStep → Prop
  | .byte link b =>
    (s.incoming.pushReceivedByte b).2 = true → IsFrame (s.incoming.pushReceivedByte b).1 →
      link.initialised = true ∧
        ∀ p ∈ s.messages, p.2.isResponse extended (s.incoming.pushReceivedByte b).1 = false
  | .messages _ | .pop => True

variable {extended : Bool} {s : ReceivePath} {link : Link} {msg : AdapterMessage}

/-- The commands among the calls of the assembly. -/
def commandsIn (es : List FrameEvent) : List Command :=
  es.filterMap fun
    | .commandReceived c => some c
    | _ => none

theorem handedOver_append (es es' : BufferEvents) :
    handedOver (es ++ es') = handedOver es ++ handedOver es' := List.filterMap_append

theorem handedOver_onCommandReceived : ∀ (es : List FrameEvent) (b : InputBuffer),
    handedOver (onCommandReceived b es).2 = commandsIn es
  | [], _ => rfl
  | .commandReceived c :: es, b => by
    have ih := handedOver_onCommandReceived es (b.push c).2
    exact congrArg (c :: ·) ih
  | .poll _ _ :: es, b => handedOver_onCommandReceived es b
  | .rxError :: es, b => handedOver_onCommandReceived es b
  | .rxSuccess :: es, b => handedOver_onCommandReceived es b

theorem commandsIn_handlePoll (f : FrameState) (link : Link) (msg : AdapterMessage) :
    commandsIn (f.handlePoll link msg).2.2 = [] := by
  obtain ⟨-, hnone⟩ := FrameState.handlePoll_frame f link msg
  refine List.filterMap_eq_nil_iff.mpr fun e he => ?_
  cases e with
  | commandReceived c => exact absurd he (hnone c)
  | poll _ _ | rxError | rxSuccess => rfl

/-- What the assembly hands over is what the message completes. -/
theorem commandsIn_unhandled (f : FrameState)
    (hlink : IsFrame msg → link.initialised = true) :
    commandsIn (f.unhandled link msg).2 =
      if (msg.pushToCecCommand f.currentFrame).2 then [(msg.pushToCecCommand f.currentFrame).1]
      else [] := by
  have hpoll := commandsIn_handlePoll f link msg
  have hframe := (FrameState.handlePoll_frame f link msg).1
  by_cases hf : IsFrame msg
  · have herror : (f.handlePoll link msg).2.1 = false :=
      (FrameState.unhandled_cases f link msg).resolve_right fun h => hf.elim h.1 h.2
    rw [FrameState.unhandled]
    simp only [herror, hframe, hlink hf, Bool.false_eq_true, if_false, if_true]
    split
    · rw [commandsIn, List.filterMap_append, ← commandsIn, hpoll]
      rfl
    · exact hpoll
  · obtain ⟨hs, hd⟩ := not_or.mp hf
    rw [FrameState.unhandled, AdapterMessage.pushToCecCommand_other hs hd]
    simp only [AdapterMessage.pushToCecCommand_other hs hd, Bool.false_eq_true, if_false]
    split
    · rw [commandsIn, List.filterMap_append, ← commandsIn, hpoll]
      rfl
    · exact hpoll

/-- A message that nobody waits for is pushed to the frame; any other one is no byte of a frame. -/
theorem messageReceived_spec (s : ReceivePath) (hlink : IsFrame msg → link.initialised = true)
    (hfree : IsFrame msg → ∀ p ∈ s.messages, p.2.isResponse extended msg = false) :
    (messageReceived extended s link msg).1.frame.currentFrame =
        (if (msg.pushToCecCommand s.frame.currentFrame).2 then .clear
          else (msg.pushToCecCommand s.frame.currentFrame).1) ∧
      handedOver (messageReceived extended s link msg).2 =
        if (msg.pushToCecCommand s.frame.currentFrame).2 then
          [(msg.pushToCecCommand s.frame.currentFrame).1]
        else [] := by
  rw [messageReceived]
  cases hoffer : (offer extended msg s.messages).2 with
  | none =>
    simp only [Option.isSome_none, Bool.false_eq_true, if_false]
    exact ⟨FrameState.unhandled_currentFrame _ link msg,
      (handedOver_onCommandReceived _ _).trans (commandsIn_unhandled _ hlink)⟩
  | some id =>
    have hframe : ¬IsFrame msg := by
      intro hf
      obtain ⟨p, hp, hhandled⟩ := (offer_handled_iff extended msg s.messages).mp (by simp [hoffer])
      exact absurd (isResponse_of_handled hhandled) (by simp [hfree hf p hp])
    obtain ⟨hs, hd⟩ := not_or.mp hframe
    rw [AdapterMessage.pushToCecCommand_other hs hd]
    exact ⟨rfl, rfl⟩

/-! ### Runs -/

/-- What is handed over is what the messages are assembled to that the bytes make up. -/
theorem handedOver_events : ∀ (es : List PathStep) {s : ReceivePath},
    Guarded (fun s e => (s.step extended e).1) (Undisturbed extended) s es →
    handedOver (s.events extended es) =
      assembled s.frame.currentFrame (s.incoming.addData (bytesOf es)).2
  | [], _, _ => rfl
  | .messages ms :: es, s, h => handedOver_events es h.2
  | .pop :: es, s, h => handedOver_events es h.2
  | .byte link b :: es, s, ⟨hfree, hes⟩ => by
    have ih : handedOver ((s.addByte extended link b).1.events extended es) =
        assembled (s.addByte extended link b).1.frame.currentFrame
          ((s.addByte extended link b).1.incoming.addData (bytesOf es)).2 :=
      handedOver_events es hes
    have hevents : s.events extended (.byte link b :: es) =
        (s.addByte extended link b).2 ++ (s.addByte extended link b).1.events extended es := rfl
    have hbytes : bytesOf (.byte link b :: es) = b :: bytesOf es := rfl
    rw [hevents, handedOver_append, ih, hbytes, AdapterMessage.addData, addByte]
    cases hfull : (s.incoming.pushReceivedByte b).2 with
    | false =>
      simp only [Bool.false_eq_true, if_false]
      rfl
    | true =>
      obtain ⟨hframe, hcommands⟩ := messageReceived_spec s (fun hf => (hfree hfull hf).1)
        fun hf => (hfree hfull hf).2
      simp only [if_true]
      rw [hframe, hcommands, assembled]
      cases ((s.incoming.pushReceivedByte b).1.pushToCecCommand s.frame.currentFrame).2 with
      | false => rfl
      | true => rfl

/-- Each command that is handed over is pushed to the buffer. -/
theorem observed_onCommandReceived : ∀ (es : List FrameEvent) {b : InputBuffer}, b.Valid →
    Observed (FifoStep InputBuffer.inputClass inputBufferSize) b.queues (onCommandReceived b es).2
      (onCommandReceived b es).1.queues ∧ (onCommandReceived b es).1.Valid
  | [], _, hb => ⟨.nil _, hb⟩
  | .commandReceived c :: es, b, hb => by
    obtain ⟨hrest, hvalid⟩ := observed_onCommandReceived es (InputBuffer.valid_push hb c)
    exact ⟨.cons (InputBuffer.push_step hb c) hrest, hvalid⟩
  | .poll _ _ :: es, _, hb => observed_onCommandReceived es hb
  | .rxError :: es, _, hb => observed_onCommandReceived es hb
  | .rxSuccess :: es, _, hb => observed_onCommandReceived es hb

/-- A step does to the buffer what two queues allow. -/
theorem observed_step (extended : Bool) (hb : s.buffer.Valid) (e : PathStep) :
    Observed (FifoStep InputBuffer.inputClass inputBufferSize) s.buffer.queues (s.step extended e).2
      (s.step extended e).1.buffer.queues ∧ (s.step extended e).1.buffer.Valid := by
  cases e with
  | byte link b =>
    rw [step, addByte]
    split
    · rw [messageReceived]
      split
      · exact ⟨.nil _, hb⟩
      · exact observed_onCommandReceived _ hb
    · exact ⟨.nil _, hb⟩
  | messages ms => exact ⟨.nil _, hb⟩
  | pop => exact ⟨.cons (InputBuffer.pop_step hb) (.nil _), InputBuffer.valid_pop hb⟩

theorem observed_events (extended : Bool) : ∀ (es : List PathStep) {s : ReceivePath}, s.buffer.Valid →
    Observed (FifoStep InputBuffer.inputClass inputBufferSize) s.buffer.queues
      (s.events extended es) (s.after extended es).buffer.queues
  | [], _, _ => .nil _
  | e :: es, _, hb => by
    obtain ⟨hstep, hvalid⟩ := observed_step extended hb e
    exact hstep.trans (observed_events _ es hvalid)

/-- What is accepted when nothing is refused. -/
theorem acceptedInto_eq {es : BufferEvents} (h : ∀ c, .pushed c false ∉ es) (k : Fin 2) :
    acceptedInto InputBuffer.inputClass k es =
      (handedOver es).filter fun c => decide (InputBuffer.inputClass c = k) := by
  induction es with
  | nil => rfl
  | cons e es ih =>
    have ih := ih fun c hc => h c (List.mem_cons_of_mem _ hc)
    cases e with
    | pushed c accepted =>
      cases accepted with
      | false => exact absurd List.mem_cons_self (h c)
      | true =>
        by_cases hk : InputBuffer.inputClass c = k
        · simpa [acceptedInto, handedOver, hk] using ih
        · simpa [acceptedInto, handedOver, hk] using ih
    | popped c => exact ih
    | internal => exact ih

/-- The frames arrive: each is handed to the processor once and in their order. Unless the buffer was
    full, the commands that it has popped and those that still wait are, among those from the TV and
    among the others, the frames in their order. -/
structure Delivered (extended : Bool) (es : List PathStep) (frames : List BusFrame) : Prop where
  handedOver : handedOver (initial.events extended es) = frames.map BusFrame.command
  buffered : (∀ c, .pushed c false ∉ initial.events extended es) → ∀ k,
    takenFrom InputBuffer.inputClass k (initial.events extended es) ++
        (initial.after extended es).buffer.queues k =
      (frames.map BusFrame.command).filter fun c => decide (InputBuffer.inputClass c = k)

/-- From the first byte on, what the adapter sends is delivered, whatever it reports between the bytes
    of the frames. -/
theorem delivered {extended : Bool} {es : List PathStep} {ps : List (List UInt8)}
    {frames : List BusFrame} (hbytes : bytesOf es = ps.flatMap wire.frame)
    (hfit : ∀ p ∈ ps, p.length + 2 ≤ maxMsgSize)
    (hframes : ps.filter (fun p => decide (IsFramePayload p)) = frames.flatMap BusFrame.payloads)
    (hfree : Guarded (fun s e => (step extended s e).1) (Undisturbed extended) initial es) :
    Delivered extended es frames := by
  have hmessages : (AdapterMessage.clear.addData (bytesOf es)).2.map AdapterMessage.bytes =
      ps.map wire.delimited := by rw [hbytes, AdapterMessage.addData_frames hfit]
  have hover : handedOver (initial.events extended es) = frames.map BusFrame.command := by
    refine (handedOver_events es hfree).trans ?_
    refine (assembled_filter _ _).trans (assembled_frames ?_)
    rw [← hframes]
    exact filter_isFrame hmessages
  refine ⟨hover, fun haccepted k => ?_⟩
  have hvalid : initial.buffer.Valid := InputBuffer.valid_initial
  have hqueues := conserved (observed_events extended es hvalid) k
  have hempty : initial.buffer.queues k = [] := by
    rw [InputBuffer.queues]
    split
    · rfl
    · rfl
  rw [hempty, List.nil_append, acceptedInto_eq haccepted, hover] at hqueues
  exact hqueues.symm

instance (extended : Bool) (s : ReceivePath) : DecidablePred (Undisturbed extended s)
  | .byte _ _ => inferInstanceAs (Decidable (_ → _ → _ ∧ ∀ p ∈ s.messages, _ = _))
  | .messages _ | .pop => isTrue trivial

/-- The reader gets the bytes of these payloads. -/
def readPayloads (ps : List (List UInt8)) : List PathStep :=
  (ps.flatMap wire.frame).map (.byte ⟨true, fun _ => false⟩)

/-- `<Standby>` from the TV, with the answer to a ping between its two bytes. -/
def standbyFrame : BusFrame := ⟨0x04, true, [(0x36, true)]⟩

/-- The ping that waits for its answer. -/
def pendingPing : Messages :=
  [(0, QueueEntry.ofMessage { AdapterMessage.clear with
    txData := BoundedBuffer.empty.pushAll [0xFF, 0x01, 0xFE], state := .sent })]

theorem delivered_standby : Delivered true
    (readPayloads [[0x45, 0x04]] ++ (.messages pendingPing :: readPayloads [[0x08, 0x01], [0xC6, 0x36]] ++
      [.pop])) [standbyFrame] :=
  @delivered true _ [[0x45, 0x04], [0x08, 0x01], [0xC6, 0x36]] _ (by decide +kernel)
    (by decide) (by decide) (by decide +kernel)

end ReceivePath

end CEC
