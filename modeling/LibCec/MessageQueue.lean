import LibCec.AdapterMessage

/-! The commands that wait for the adapter's answer (`CCECAdapterMessageQueueEntry`).

    Every message from the adapter is offered to the pending entries in the order they were
    written, until one handles it. An entry recognises its answer by the message code and, with a
    firmware that provides extended responses, by the code that the answer names.

        message ──▶ entry ──no──▶ entry ──no──▶ … ──no──▶ frame assembly
                     │ IsResponse      │
                     ▼ handled         ▼ handled

    `unswallowed_iff` says which pending entries let a message of the CEC bus through, and when
    an entry that is only answered by accepted or rejected is completed by nothing else. -/

namespace CEC
open Schemes

/-- `ReplyIsError`. -/
def AdapterMessage.replyIsError (m : AdapterMessage) : Bool := messageCodeIsError m.reply

/-- What an entry reports to the adapter statistics. -/
inductive TxEvent where | ack | nack | error
  deriving DecidableEq

/-- `CCECAdapterMessageQueueEntry`, without the timer. -/
structure QueueEntry where
  message : AdapterMessage
  packetsLeft : ℕ
  succeeded : Bool
  deriving DecidableEq

namespace QueueEntry

/-- The constructor. -/
def ofMessage (message : AdapterMessage) : QueueEntry where
  message := message
  packetsLeft := if message.isTransmission then message.size / 4 else 1
  succeeded := false

/-- `MessageCode`. -/
def messageCode (e : QueueEntry) : MsgCode := e.message.message

/-- `IsResponseOld`. -/
def isResponseOld (e : QueueEntry) (msg : AdapterMessage) : Bool :=
  let msgCode := msg.message
  msgCode == e.messageCode || msgCode == MsgCode.commandAccepted ||
    msgCode == MsgCode.commandRejected ||
    (e.message.isTransmission && msgCode ∈ [MsgCode.timeoutError, MsgCode.highError,
      MsgCode.lowError, MsgCode.receiveFailed, MsgCode.transmitFailedLine,
      MsgCode.transmitFailedAck, MsgCode.transmitFailedTimeoutData,
      MsgCode.transmitFailedTimeoutLine, MsgCode.transmitSucceeded])

/-- The commands that only respond with accepted or rejected. -/
def onlyAcceptedOrRejected (code : MsgCode) : Bool :=
  code ∈ [MsgCode.ping, MsgCode.setAckMask, MsgCode.setControlled, MsgCode.setAutoEnabled,
    MsgCode.setDefaultLogicalAddress, MsgCode.setLogicalAddressMask, MsgCode.setPhysicalAddress,
    MsgCode.setDeviceType, MsgCode.setHdmiVersion, MsgCode.setOsdName, MsgCode.writeEeprom,
    MsgCode.transmitIdletime, MsgCode.setActiveSource, MsgCode.setAutoPowerOn]

/-- `IsResponse`; `extended` is `ProvidesExtendedResponse`. -/
def isResponse (extended : Bool) (e : QueueEntry) (msg : AdapterMessage) : Bool :=
  let thisMsgCode := e.message.message
  let msgCode := msg.message
  let msgResponse := msg.responseTo
  if e.message.state = .sentAcked then false
  -- msgcode matches, always a response
  else if msgCode = e.messageCode then true
  else if !extended then e.isResponseOld msg
  -- response without a msgcode
  else if msgResponse = MsgCode.nothing then false
  else if onlyAcceptedOrRejected thisMsgCode then thisMsgCode == msgResponse
  else if !e.message.isTransmission then false
  else
    ((msgCode == MsgCode.commandAccepted || msgCode == MsgCode.commandRejected) &&
      msgResponse ∈ [MsgCode.transmitAckPolarity, MsgCode.transmit, MsgCode.transmitEom]) ||
    msgCode ∈ [MsgCode.timeoutError, MsgCode.receiveFailed, MsgCode.transmitFailedAck,
      MsgCode.transmitFailedTimeoutData, MsgCode.transmitFailedTimeoutLine,
      MsgCode.transmitSucceeded]

def setState (e : QueueEntry) (state : MessageState) : QueueEntry :=
  { e with message := { e.message with state := state } }

/-- `Signal`. -/
def signal (e : QueueEntry) : QueueEntry := { e with succeeded := true }

/-- The entry after a message, whether it was handled, and what is reported. -/
structure Outcome where
  entry : QueueEntry
  handled : Bool
  events : List TxEvent

/-- `MessageReceivedCommandAccepted`. -/
def messageReceivedCommandAccepted (e : QueueEntry) (msg : AdapterMessage) : Outcome :=
  if e.packetsLeft > 0 then
    let e := { e with packetsLeft := e.packetsLeft - 1 }
    -- no more packets left and not a transmission, so we're done
    if !e.message.isTransmission && e.packetsLeft == 0 then
      ⟨signal { e with message := { e.message with state := .sentAcked, rxData := msg.txData } },
        true, []⟩
    else ⟨e, true, []⟩
  else ⟨e, false, []⟩

/-- `MessageReceivedTransmitSucceeded`. -/
def messageReceivedTransmitSucceeded (e : QueueEntry) (msg : AdapterMessage) : Outcome :=
  if e.packetsLeft = 0 then
    ⟨signal { e with message := { e.message with state := .sentAcked, rxData := msg.txData } },
      true, [.ack]⟩
  -- we expected more acks
  else ⟨signal { e with message := { e.message with state := .error } }, true, []⟩

/-- `MessageReceivedResponse`. -/
def messageReceivedResponse (e : QueueEntry) (msg : AdapterMessage) : Outcome :=
  let errors :=
    if msg.isError && e.message.isTransmission && msg.message != MsgCode.transmitFailedAck then
      [TxEvent.error]
    else []
  if e.message.isTransmission then
    if msg.message = MsgCode.transmitSucceeded then
      ⟨signal { e with message := { e.message with state := .sentAcked, rxData := msg.txData } },
        true, errors ++ [.ack]⟩
    else
      ⟨signal { e with message := { e.message with state := .sentNotAcked, rxData := msg.txData } },
        true, errors ++ [.nack]⟩
  else
    ⟨signal { e with message := { e.message with state := .sentAcked, rxData := msg.txData } },
      true, errors⟩

/-- `MessageReceived` of an entry. -/
def messageReceived (extended : Bool) (e : QueueEntry) (msg : AdapterMessage) : Outcome :=
  if e.isResponse extended msg then
    if msg.message = MsgCode.commandAccepted then e.messageReceivedCommandAccepted msg
    else if msg.message = MsgCode.transmitSucceeded then e.messageReceivedTransmitSucceeded msg
    else e.messageReceivedResponse msg
  else ⟨e, false, []⟩

end QueueEntry

namespace AdapterMessageQueue

/-- The size of a `SyncedBuffer`. -/
def maxSize : ℕ := 100

/-- What an answer that is an error makes of the message. -/
def noteReply (e : QueueEntry) : QueueEntry :=
  if e.message.replyIsError ∧ e.message.state ≠ .sentNotAcked then e.setState .error else e

end AdapterMessageQueue

/-- `m_messages`: the pending entries by id, in the order of the map. -/
abbrev Messages := List (ℕ × QueueEntry)

/-- The loop of `CCECAdapterMessageQueue::MessageReceived`: the entries are offered the message
    until one handles it; the id is that of the entry that did. -/
def offer (extended : Bool) (msg : AdapterMessage) : Messages → Messages × Option ℕ
  | [] => ([], none)
  | (id, e) :: es =>
    let r := e.messageReceived extended msg
    if r.handled then ((id, r.entry) :: es, some id)
    else
      let rest := offer extended msg es
      ((id, r.entry) :: rest.1, rest.2)

namespace QueueEntry

/-! ### Bus traffic and pending entries -/

/-- The message is a byte of a CEC frame. -/
def IsFrame (msg : AdapterMessage) : Prop :=
  msg.message = MsgCode.frameStart ∨ msg.message = MsgCode.frameData

/-- The message accepts or rejects a command. -/
def IsVerdict (msg : AdapterMessage) : Prop :=
  msg.message = MsgCode.commandAccepted ∨ msg.message = MsgCode.commandRejected

/-- The message completes the entry: the entry handles it and signals whoever waits for it. -/
def CompletedBy (extended : Bool) (e : QueueEntry) (msg : AdapterMessage) : Prop :=
  (e.messageReceived extended msg).handled ∧ (e.messageReceived extended msg).entry.succeeded

instance (msg : AdapterMessage) : Decidable (IsFrame msg) := inferInstanceAs (Decidable (_ ∨ _))

instance (msg : AdapterMessage) : Decidable (IsVerdict msg) := inferInstanceAs (Decidable (_ ∨ _))

instance (extended : Bool) (e : QueueEntry) (msg : AdapterMessage) :
    Decidable (e.CompletedBy extended msg) :=
  inferInstanceAs (Decidable (_ ∧ _))

/-- An entry that the adapter has acknowledged responds to nothing. -/
theorem isResponse_sentAcked {extended : Bool} {e : QueueEntry} (h : e.message.state = .sentAcked)
    (msg : AdapterMessage) : e.isResponse extended msg = false := if_pos h

/-- A message with the code of the entry is always taken as the response. -/
theorem isResponse_sameCode {extended : Bool} {e : QueueEntry} {msg : AdapterMessage}
    (hs : e.message.state ≠ .sentAcked) (hc : msg.message = e.messageCode) :
    e.isResponse extended msg = true := by
  unfold isResponse
  rw [if_neg hs, if_pos hc]

/-- A command that is only accepted or rejected takes any message that names its code. -/
theorem isResponse_only {e : QueueEntry} {msg : AdapterMessage}
    (ho : onlyAcceptedOrRejected e.messageCode) : e.isResponse true msg = true ↔
      e.message.state ≠ .sentAcked ∧
        (e.messageCode = msg.message ∨ e.messageCode = msg.responseTo) := by
  have hne : e.messageCode ≠ MsgCode.nothing := by
    intro h
    rw [h] at ho
    exact absurd ho (by decide)
  by_cases hs : e.message.state = .sentAcked
  · simp [isResponse_sentAcked hs, hs]
  by_cases hc : msg.message = e.messageCode
  · simp [isResponse_sameCode hs hc, hs, hc]
  unfold isResponse
  rw [if_neg hs, if_neg hc, if_neg (by decide : ¬ (!true) = true)]
  by_cases hr : msg.responseTo = MsgCode.nothing
  · simp [hr, hne, Ne.symm hc]
  · have ho' : onlyAcceptedOrRejected e.message.message = true := ho
    have hc' : ¬ e.messageCode = msg.message := Ne.symm hc
    rw [if_neg hr, if_pos ho', beq_iff_eq]
    exact ⟨fun h => ⟨hs, .inr h⟩, fun h => h.2.resolve_left hc'⟩

/-- A byte of a CEC frame is taken by an entry with its code, or by a command that is only accepted
    or rejected and whose code it happens to name. -/
theorem isResponse_frame {e : QueueEntry} {msg : AdapterMessage} (hf : IsFrame msg) :
    e.isResponse true msg = true ↔ e.message.state ≠ .sentAcked ∧
      (e.messageCode = msg.message ∨
        (onlyAcceptedOrRejected e.messageCode ∧ e.messageCode = msg.responseTo)) := by
  by_cases ho : onlyAcceptedOrRejected e.messageCode
  · rw [isResponse_only ho, eq_true ho, true_and]
  by_cases hs : e.message.state = .sentAcked
  · simp [isResponse_sentAcked hs, hs]
  by_cases hc : msg.message = e.messageCode
  · simp [isResponse_sameCode hs hc, hs, hc]
  -- a transmission knows no answer with the code of a frame
  have ho' : ¬ onlyAcceptedOrRejected e.message.message = true := ho
  have hverdict : (msg.message == MsgCode.commandAccepted ||
      msg.message == MsgCode.commandRejected) = false := by
    rcases hf with h | h <;> rw [h] <;> decide
  have houtcome : msg.message ∉ [MsgCode.timeoutError, MsgCode.receiveFailed,
      MsgCode.transmitFailedAck, MsgCode.transmitFailedTimeoutData,
      MsgCode.transmitFailedTimeoutLine, MsgCode.transmitSucceeded] := by
    rcases hf with h | h <;> rw [h] <;> decide
  have hno : e.isResponse true msg = false := by
    unfold isResponse
    rw [if_neg hs, if_neg hc, if_neg (by decide), if_neg ho', hverdict]
    simp [houtcome]
  simp [hno, ho, Ne.symm hc]

/-- Everything but an acceptance is handled exactly when it is a response, and then completes the
    entry. -/
theorem messageReceived_of_ne_accepted (extended : Bool) (e : QueueEntry) {msg : AdapterMessage}
    (h : msg.message ≠ MsgCode.commandAccepted) :
    (e.messageReceived extended msg).handled = e.isResponse extended msg ∧
      (e.isResponse extended msg = true → (e.messageReceived extended msg).entry.succeeded) := by
  unfold messageReceived
  cases e.isResponse extended msg
  · exact ⟨rfl, by simp⟩
  · rw [if_pos rfl, if_neg h]
    by_cases hs : msg.message = MsgCode.transmitSucceeded
    · rw [if_pos hs, messageReceivedTransmitSucceeded]
      split <;> exact ⟨rfl, fun _ => rfl⟩
    · rw [if_neg hs, messageReceivedResponse, if_neg hs]
      split <;> exact ⟨rfl, fun _ => rfl⟩

/-- Whatever is handled is a response. -/
theorem isResponse_of_handled {extended : Bool} {e : QueueEntry} {msg : AdapterMessage}
    (h : (e.messageReceived extended msg).handled = true) : e.isResponse extended msg = true := by
  unfold messageReceived at h
  by_contra hr
  rw [if_neg hr] at h
  cases h

end QueueEntry

open QueueEntry

/-- The queue handles a message iff one of its entries does. -/
theorem offer_handled_iff (extended : Bool) (msg : AdapterMessage) : ∀ es : Messages,
    (offer extended msg es).2 ≠ none ↔ ∃ p ∈ es, (p.2.messageReceived extended msg).handled
  | [] => by simp [offer]
  | (id, e) :: es => by
    have ih := offer_handled_iff extended msg es
    cases h : (e.messageReceived extended msg).handled <;> simp [offer, h, ih]

/-- Bus traffic reaches the frame assembly, and what completes an entry that is only accepted or
    rejected is an answer that names its code. -/
def Unswallowed (es : Messages) (msg : AdapterMessage) : Prop :=
  (IsFrame msg → (offer true msg es).2 = none) ∧
    ∀ p ∈ es, onlyAcceptedOrRejected p.2.messageCode → p.2.CompletedBy true msg →
      IsVerdict msg ∧ msg.responseTo = p.2.messageCode

/-- No unfinished entry has the code of a byte of a CEC frame, and none that is only accepted or
    rejected has its code named, or carried, by anything else than a verdict. -/
def NoCollision (es : Messages) (msg : AdapterMessage) : Prop :=
  ∀ p ∈ es, p.2.message.state ≠ .sentAcked →
    (IsFrame msg → p.2.messageCode ≠ msg.message) ∧
    (onlyAcceptedOrRejected p.2.messageCode →
      p.2.messageCode = msg.message ∨ p.2.messageCode = msg.responseTo → IsVerdict msg)

theorem not_isVerdict_of_isFrame {msg : AdapterMessage} (h : IsFrame msg) : ¬ IsVerdict msg := by
  unfold IsVerdict
  rcases h with h | h <;> rw [h] <;> decide

theorem not_only_of_isVerdict {msg : AdapterMessage} (h : IsVerdict msg) :
    ¬ onlyAcceptedOrRejected msg.message := by
  rcases h with h | h <;> rw [h] <;> decide

/-- A byte of a CEC frame goes past the queue iff it is no response to any entry. -/
theorem offer_frame_iff (es : Messages) {msg : AdapterMessage} (hf : IsFrame msg) :
    (offer true msg es).2 = none ↔ ∀ p ∈ es, p.2.isResponse true msg = false := by
  have hne : msg.message ≠ MsgCode.commandAccepted := fun h =>
    not_isVerdict_of_isFrame hf (.inl h)
  rw [← not_iff_not, ← ne_eq, offer_handled_iff]
  simp [(messageReceived_of_ne_accepted true _ hne).1]

/-- With extended responses, nothing is swallowed iff nothing collides. -/
theorem unswallowed_iff (es : Messages) (msg : AdapterMessage) :
    Unswallowed es msg ↔ NoCollision es msg := by
  constructor
  · rintro ⟨hbus, honly⟩ p hp hs
    refine ⟨fun hf hc => ?_, fun ho hc => ?_⟩
    · have hno := (offer_frame_iff es hf).mp (hbus hf) p hp
      rw [isResponse_sameCode hs hc.symm] at hno
      cases hno
    · by_contra hv
      obtain ⟨hhandled, hdone⟩ := messageReceived_of_ne_accepted true p.2 fun h => hv (.inl h)
      have hr := (isResponse_only ho).mpr ⟨hs, hc⟩
      exact hv (honly p hp ho ⟨by rw [hhandled, hr], hdone hr⟩).1
  · intro hno
    refine ⟨fun hf => (offer_frame_iff es hf).mpr fun p hp => ?_, fun p hp ho hdone => ?_⟩
    · by_contra hr
      obtain ⟨hs, hc⟩ := (isResponse_frame hf).mp (by simpa using hr)
      rcases hc with hc | ⟨ho, hc⟩
      · exact (hno p hp hs).1 hf hc
      · exact not_isVerdict_of_isFrame hf ((hno p hp hs).2 ho (.inr hc))
    · obtain ⟨hs, hc⟩ := (isResponse_only ho).mp (isResponse_of_handled hdone.1)
      have hv := (hno p hp hs).2 ho hc
      refine ⟨hv, (hc.resolve_left fun h => ?_).symm⟩
      exact not_only_of_isVerdict hv (h ▸ ho)

/-- While a ping waits for its answer, the data byte `0x01` on the bus is taken for it. -/
theorem ping_swallows_data :
    ¬ Unswallowed
      [(0, QueueEntry.ofMessage { AdapterMessage.clear with
        txData := BoundedBuffer.empty.pushAll [0xFF, 0x01, 0xFE], state := .sent })]
      { AdapterMessage.clear with txData := BoundedBuffer.empty.pushAll [0xFF, 0x06, 0x01, 0xFE] } := by
  rintro ⟨hbus, -⟩
  exact absurd (hbus (by decide)) (by decide)

end CEC
