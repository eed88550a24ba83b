import LibCec.MessageQueue
import LibCec.Transmission
import LibCec.Stall
import LibCec.Requests

/-! The poll that decides whether a logical address is free.

    `TryLogicalAddress` takes an address when the poll that it sends is not acknowledged. The poll
    passes through four layers, each of which has one way to say yes and many to say no:

        TryLogicalAddress ── handled ◀── false ──┐
          CCECBusDevice::TransmitPoll            │ handled already
            CCECCommandHandler::Transmit         │ two tries
              CCECProcessor::Transmit            │ no source, not open, stopped
                adapter Write                    │ not running, not written, not answered, error
                  entry ◀── answers ──▶ TRANSMIT_FAILED_ACK: nobody has the address

    `claimedOnlyIfFree_iff` says for which outcomes a claimed address is a free one. -/

namespace CEC
open Schemes Procedure

/-! ### What the adapter answers -/

namespace QueueEntry

/-- The wait of an entry: it is offered what the adapter sends until something completes it. -/
def await (extended : Bool) (e : QueueEntry) : List AdapterMessage → QueueEntry
  | [] => e
  | msg :: msgs =>
    let e := (e.messageReceived extended msg).entry
    if e.succeeded then e else e.await extended msgs

/-- What completes a transmission, and how many acceptances are missing by then. -/
def verdict (extended : Bool) (e : QueueEntry) : ℕ → List AdapterMessage → Option (MsgCode × ℕ)
  | _, [] => none
  | packetsLeft, msg :: msgs =>
    if e.isResponse extended msg then
      if msg.message = MsgCode.commandAccepted then e.verdict extended (packetsLeft - 1) msgs
      else some (msg.message, packetsLeft)
    else e.verdict extended packetsLeft msgs

/-- The state of a transmission after its verdict. -/
def stateAfter (r : MsgCode × ℕ) : MessageState :=
  if r.1 = MsgCode.transmitSucceeded then if r.2 = 0 then .sentAcked else .error
  else .sentNotAcked

/-- The end of `CCECAdapterMessageQueue::Write`: the message after the wait. -/
def afterWait (e : QueueEntry) : AdapterMessage :=
  let msg := if e.succeeded then e.message else { e.message with state := .sentNotAcked }
  if msg.replyIsError ∧ msg.state ≠ .sentNotAcked then { msg with state := .error } else msg

end QueueEntry

/-- `CCECAdapterMessageQueue::Write` of a message that is not a reply, when the port takes its bytes
    or not. -/
def queueWrite (written extended : Bool) (answers : List AdapterMessage) (msg : AdapterMessage) :
    AdapterMessage :=
  let entry := (QueueEntry.ofMessage msg).setState .waitingToBeSent
  let entry :=
    if written then (entry.setState .sent).await extended answers else (entry.setState .error).signal
  entry.afterWait

/-- `cec_command::Format` of a command without an opcode. -/
def pollCommand (initiator destination : Fin 16) : Command :=
  { Command.clear with initiator := .addr initiator, destination := .addr destination }

/-- What one try of a poll meets: whether there is an adapter, the processor was stopped, the
    connection is open, its reader runs and the port takes the bytes; and what the adapter sends
    until the wait is over. -/
structure PollTry where
  communication : Bool
  stopped : Bool
  isOpen : Bool
  running : Bool
  written : Bool
  extended : Bool
  iLineTimeout : UInt8
  answers : List AdapterMessage

namespace PollTry

/-- `CUSBCECAdapterCommunication::Write` of a command that is not a reply. -/
def write (t : PollTry) (data : Command) : MessageState :=
  if !t.running then .unknown
  else (queueWrite t.written t.extended t.answers (.ofCommand data t.iLineTimeout)).state

/-- `CCECProcessor::Transmit` of a poll, whose loop is left after one write. -/
def processorTransmit (t : PollTry) (w : World) (initiator destination : Fin 16) : Bool :=
  if !t.communication then false
  else match w.transmitSource initiator with
  | none => false
  | some source =>
    if destination ≠ 15 ∧ w.isHandled destination then false
    else if opcodeFeatureAbort ∈ (w.devices source).unsupportedFeatures then false
    else
      let adapterState :=
        if !t.stopped && t.isOpen then t.write (pollCommand source destination) else .error
      adapterState = .sentAcked

end PollTry

/-- The tries of a poll. -/
abbrev PollTries := Fin (transmitRetries + 1) → PollTry

/-- `CCECBusDevice::TransmitPoll` of a device to itself: there is a second try when the first one
    fails. -/
def transmitPoll (tries : PollTries) (w : World) (a : Fin 16) : Bool :=
  if w.isHandled a then false
  else (List.finRange _).any fun i => (tries i).processorTransmit w a a

/-- `TryLogicalAddress` with the poll that it sends. -/
def pollLogicalAddress (tries : PollTries) (a : Fin 16) : Proc Bool := do
  let w ← ask id
  tryLogicalAddress (transmitPoll tries w) a

/-! ### What became of the poll -/

namespace PollTry

/-- Nothing stands in the way of the poll until it is handed to the adapter. -/
def Carried (t : PollTry) (w : World) (a : Fin 16) : Prop :=
  (∃ source ∈ w.transmitSource a, opcodeFeatureAbort ∉ (w.devices source).unsupportedFeatures) ∧
    t.communication ∧ !t.stopped ∧ t.isOpen ∧ t.running ∧ t.written

/-- What the adapter reports about the poll, and how many acceptances are missing. -/
def report (t : PollTry) : Option (MsgCode × ℕ) :=
  (QueueEntry.ofMessage (.ofCommand (pollCommand 0 0) t.iLineTimeout)).verdict t.extended 2 t.answers

/-- The adapter reports that the poll was acknowledged. -/
def Acked (t : PollTry) (w : World) (a : Fin 16) : Prop :=
  t.Carried w a ∧ ∃ n, t.report = some (MsgCode.transmitSucceeded, n)

/-- The adapter reports that the poll was acknowledged, after it accepted both of its packets. -/
def Confirmed (t : PollTry) (w : World) (a : Fin 16) : Prop :=
  t.Carried w a ∧ t.report = some (MsgCode.transmitSucceeded, 0)

/-- The adapter reports that the poll was on the bus and nobody acknowledged it. -/
def NotAcked (t : PollTry) (w : World) (a : Fin 16) : Prop :=
  t.Carried w a ∧ ∃ n, t.report = some (MsgCode.transmitFailedAck, n)

end PollTry

/-- The poll was put on the bus and no device acknowledged it. -/
def Free (tries : PollTries) (w : World) (a : Fin 16) : Prop :=
  (∃ i, (tries i).NotAcked w a) ∧ ∀ i, ¬(tries i).Acked w a

/-- The device becomes handled only when its address is free, and the call returns false when it
    is not. -/
def ClaimedOnlyIfFree (tries : PollTries) (w : World) (a : Fin 16) : Prop :=
  ∀ b w', Returns (pollLogicalAddress tries a) w b w' →
    (w'.isHandled a → w.isHandled a ∨ Free tries w a) ∧ (¬Free tries w a → b = false)

namespace QueueEntry

section await

variable {extended : Bool} {e : QueueEntry} {msg : AdapterMessage}

/-- What is no response leaves the entry alone. -/
theorem messageReceived_ignored (h : e.isResponse extended msg = false) :
    (e.messageReceived extended msg).entry = e := by
  unfold messageReceived
  rw [h]
  rfl

/-- An acceptance counts one packet of a transmission, and does not complete it. -/
theorem messageReceived_accepted (ht : e.message.isTransmission)
    (h : e.isResponse extended msg = true) (hcode : msg.message = MsgCode.commandAccepted) :
    (e.messageReceived extended msg).entry = { e with packetsLeft := e.packetsLeft - 1 } := by
  unfold messageReceived messageReceivedCommandAccepted
  rw [h, if_pos rfl, if_pos hcode]
  split
  · simp [ht]
  · next hleft =>
    have hzero : e.packetsLeft - 1 = e.packetsLeft := by omega
    rw [hzero]

/-- The entry was completed with this verdict. -/
structure Concluded (e : QueueEntry) (r : MsgCode × ℕ) : Prop where
  succeeded : e.succeeded
  state : e.message.state = stateAfter r
  reply : e.message.state = .sentAcked → e.message.reply = MsgCode.transmitSucceeded

/-- Any other response completes a transmission. -/
theorem messageReceived_concluded (ht : e.message.isTransmission)
    (h : e.isResponse extended msg = true) (hcode : msg.message ≠ MsgCode.commandAccepted) :
    (e.messageReceived extended msg).entry.Concluded (msg.message, e.packetsLeft) := by
  unfold messageReceived
  rw [h, if_pos rfl, if_neg hcode]
  by_cases hs : msg.message = MsgCode.transmitSucceeded
  · rw [if_pos hs, messageReceivedTransmitSucceeded]
    by_cases hleft : e.packetsLeft = 0
    · rw [if_pos hleft]
      exact ⟨rfl, by simp [stateAfter, hs, hleft, signal], fun _ => hs⟩
    · rw [if_neg hleft]
      exact ⟨rfl, by simp [stateAfter, hs, hleft, signal], fun h => by cases h⟩
  · rw [if_neg hs, messageReceivedResponse, if_pos ht, if_neg hs]
    exact ⟨rfl, by simp [stateAfter, hs, signal], fun h => by cases h⟩

/-- Which messages an entry responds to depends on its message code only, until it is
    acknowledged. -/
theorem isResponse_congr {e' : QueueEntry} (hcode : e.message.message = e'.message.message)
    (hs : e.message.state ≠ .sentAcked) (hs' : e'.message.state ≠ .sentAcked) :
    e.isResponse extended msg = e'.isResponse extended msg := by
  unfold isResponse isResponseOld messageCode AdapterMessage.isTransmission
  rw [hcode, if_neg hs, if_neg hs']

/-- So does the verdict. -/
theorem verdict_congr {f : QueueEntry} (hcode : e.message.message = f.message.message)
    (hs : e.message.state ≠ .sentAcked) (hs' : f.message.state ≠ .sentAcked) (n : ℕ)
    (answers : List AdapterMessage) :
    e.verdict extended n answers = f.verdict extended n answers := by
  induction answers generalizing n with
  | nil => rfl
  | cons msg msgs ih =>
    unfold verdict
    rw [isResponse_congr hcode hs hs', ih, ih]

/-- The wait of a transmission ends with its verdict, or without an answer. -/
theorem await_verdict (ht : e.message.isTransmission)
    (hstate : e.message.state ≠ .sentAcked) (hs : e.succeeded = false)
    (answers : List AdapterMessage) : match e.verdict extended e.packetsLeft answers with
      | none => (e.await extended answers).succeeded = false
      | some r => (e.await extended answers).Concluded r := by
  induction answers generalizing e with
  | nil => exact hs
  | cons msg msgs ih =>
    unfold verdict await
    cases hr : e.isResponse extended msg with
    | false =>
      rw [messageReceived_ignored hr]
      simpa [hs] using ih ht hstate hs
    | true =>
      by_cases hcode : msg.message = MsgCode.commandAccepted
      · have ih := ih (e := { e with packetsLeft := e.packetsLeft - 1 }) ht hstate hs
        rw [verdict_congr (e := { e with packetsLeft := e.packetsLeft - 1 }) (f := e) rfl hstate
          hstate] at ih
        rw [messageReceived_accepted ht hr hcode]
        simpa [hs, hcode] using ih
      · have hdone := messageReceived_concluded ht hr hcode
        simpa [hcode, hdone.succeeded] using hdone

end await

end QueueEntry

/-! ### From the answers to the device status -/

/-- Only the verdict that all of a transmission was accepted and acknowledged is an
    acknowledgement. -/
theorem stateAfter_sentAcked (r : MsgCode × ℕ) :
    QueueEntry.stateAfter r = .sentAcked ↔ r = (MsgCode.transmitSucceeded, 0) := by
  unfold QueueEntry.stateAfter
  constructor
  · intro h
    split_ifs at h with hcode hleft
    exact Prod.ext hcode hleft
  · rintro rfl
    rfl

/-- After the wait a message is acknowledged only when the entry was completed so, without an error
    in the reply. -/
theorem afterWait_sentAcked (e : QueueEntry) : e.afterWait.state = .sentAcked ↔
    e.succeeded ∧ e.message.state = .sentAcked ∧ e.message.replyIsError = false := by
  unfold QueueEntry.afterWait
  cases e.succeeded with
  | false => simp
  | true =>
    cases hreply : e.message.replyIsError with
    | false => simp [hreply]
    | true =>
      by_cases hs : e.message.state = .sentNotAcked
      · simp [hs]
      · simp [hs, hreply]

/-- What the wait leaves of a transmission is an acknowledgement only if that is its verdict. -/
theorem queueWrite_sentAcked {written extended : Bool} {answers : List AdapterMessage}
    {msg : AdapterMessage} (ht : msg.isTransmission) (hs : msg.state ≠ .sentAcked) :
    (queueWrite written extended answers msg).state = .sentAcked ↔
      written ∧ (QueueEntry.ofMessage msg).verdict extended (QueueEntry.ofMessage msg).packetsLeft
        answers = some (MsgCode.transmitSucceeded, 0) := by
  unfold queueWrite
  rw [afterWait_sentAcked]
  cases written with
  | false => simp [QueueEntry.signal, QueueEntry.setState]
  | true =>
    let e := ((QueueEntry.ofMessage msg).setState .waitingToBeSent).setState .sent
    have hstate : e.message.state ≠ .sentAcked := by simp [e, QueueEntry.setState]
    have hwait := @QueueEntry.await_verdict extended e ht hstate rfl answers
    rw [QueueEntry.verdict_congr (e := e) (f := QueueEntry.ofMessage msg) rfl hstate hs] at hwait
    change (match (QueueEntry.ofMessage msg).verdict extended
      (QueueEntry.ofMessage msg).packetsLeft answers with
      | none => _
      | some r => _) at hwait
    simp only [if_true, true_and]
    change ((e.await extended answers).succeeded ∧ _) ↔ _
    revert hwait
    cases (QueueEntry.ofMessage msg).verdict extended (QueueEntry.ofMessage msg).packetsLeft
      answers with
    | none =>
      intro hwait
      simp [hwait]
    | some r =>
      intro hdone
      rw [Option.some.injEq, ← stateAfter_sentAcked, ← hdone.state]
      refine ⟨fun h => h.2.1, fun h => ⟨hdone.succeeded, h, ?_⟩⟩
      rw [AdapterMessage.replyIsError, hdone.reply h]
      rfl

/-- A poll is sent as two packets, the first of which sets the acknowledge polarity. -/
theorem packets_pollCommand (source a : Fin 16) (iLineTimeout : UInt8) :
    (AdapterMessage.ofCommand (pollCommand source a) iLineTimeout).message =
        MsgCode.transmitAckPolarity ∧
      (AdapterMessage.ofCommand (pollCommand source a) iLineTimeout).size = 8 ∧
      (AdapterMessage.ofCommand (pollCommand source a) iLineTimeout).state ≠ .sentAcked := by
  have hall : ∀ source a : Fin 16,
      (AdapterMessage.ofCommand (pollCommand source a) 0).message = MsgCode.transmitAckPolarity ∧
        (AdapterMessage.ofCommand (pollCommand source a) 0).size = 8 ∧
        (AdapterMessage.ofCommand (pollCommand source a) 0).state ≠ .sentAcked := by decide +kernel
  exact hall source a

namespace PollTry

variable {t : PollTry} {w : World} {a source : Fin 16}

/-- The adapter layer acknowledges a poll that was written, accepted and acknowledged. -/
theorem write_sentAcked : t.write (pollCommand source a) = .sentAcked ↔
    t.running ∧ t.written ∧ t.report = some (MsgCode.transmitSucceeded, 0) := by
  have hpoll := packets_pollCommand source a t.iLineTimeout
  have hpoll₀ := packets_pollCommand 0 0 t.iLineTimeout
  unfold write report
  generalize AdapterMessage.ofCommand (pollCommand source a) t.iLineTimeout = msg at hpoll ⊢
  generalize AdapterMessage.ofCommand (pollCommand 0 0) t.iLineTimeout = msg₀ at hpoll₀ ⊢
  obtain ⟨hcode, hsize, hstate⟩ := hpoll
  have ht : msg.isTransmission := by
    rw [AdapterMessage.isTransmission, hcode]
    rfl
  have hleft : (QueueEntry.ofMessage msg).packetsLeft = 2 := by
    rw [QueueEntry.ofMessage, ht, hsize]
    rfl
  have hreport := @QueueEntry.verdict_congr t.extended (.ofMessage msg)
    (.ofMessage msg₀) (hcode.trans hpoll₀.1.symm) hstate hpoll₀.2.2 2 t.answers
  cases t.running with
  | false => simp
  | true =>
    simp only [Bool.not_true, Bool.false_eq_true, if_false, true_and]
    rw [queueWrite_sentAcked ht hstate, hleft, hreport]

/-- `Transmit` returns true iff the poll was carried out and confirmed. -/
theorem processorTransmit_iff (h : w.isHandled a = false) :
    t.processorTransmit w a a ↔ t.Confirmed w a := by
  unfold processorTransmit Confirmed Carried
  cases t.communication with
  | false => simp
  | true =>
    cases hsource : w.transmitSource a with
    | none => simp
    | some source =>
      by_cases hu : opcodeFeatureAbort ∈ (w.devices source).unsupportedFeatures
      · simp [h, hu]
      · cases t.stopped <;> cases t.isOpen <;> simp [h, hu, write_sentAcked, and_assoc]

end PollTry

/-- The poll of a device that is not handled succeeds iff one of its tries is confirmed. -/
theorem transmitPoll_iff {tries : PollTries} {w : World} {a : Fin 16}
    (h : w.isHandled a = false) : transmitPoll tries w a ↔ ∃ i, (tries i).Confirmed w a := by
  unfold transmitPoll
  simp [h, PollTry.processorTransmit_iff h]

/-- `TryLogicalAddress` claims the address iff nobody is known to have it and the poll fails. -/
theorem returns_pollLogicalAddress {tries : PollTries} {a : Fin 16} {w w' : World} {b : Bool}
    (h : Returns (pollLogicalAddress tries a) w b w') :
    b = w.isFree (transmitPoll tries w) a ∧ (w'.isHandled a → w.isHandled a ∨ b) := by
  have h := returns_ask_bind.mp h
  rcases eq_or_ne a 15 with rfl | ha
  · -- the device at the broadcast address keeps its status
    have h := returns_ask_bind.mp h
    unfold World.isFree
    split_ifs at h with hknown hpoll
    · obtain ⟨rfl, rfl⟩ := returns_pure.mp h
      refine ⟨?_, .inl⟩
      rcases hknown with hs | hs <;> simp [hs]
    · obtain ⟨rfl, rfl⟩ := returns_pure.mp h
      have hpoll : transmitPoll tries w' 15 = true := hpoll
      exact ⟨by simp [hpoll], .inl⟩
    · obtain ⟨rfl, rfl⟩ := returns_pure.mp h
      have hpoll : ¬transmitPoll tries w' 15 = true := hpoll
      exact ⟨by simpa [hpoll] using hknown, .inl⟩
  · obtain ⟨hb, -, hhandled⟩ := returns_tryLogicalAddress ha h
    refine ⟨hb, ?_⟩
    rw [hhandled a]
    simp

theorem terminates_pollLogicalAddress (tries : PollTries) (a : Fin 16) :
    Terminates (pollLogicalAddress tries a) := by
  refine terminates_bind (terminates_ask _) fun _ => terminates_bind (terminates_ask _) fun _ => ?_
  refine terminates_ite (terminates_pure false) (terminates_ite ?_ ?_)
  · exact terminates_bind (terminates_setDeviceStatus a _) fun _ => terminates_pure false
  · exact terminates_bind (terminates_setDeviceStatus a _) fun _ => terminates_pure true

/-- A claimed address is a free one iff the address is known to be in use, or one of the polls is
    confirmed, or one was on the bus without being acknowledged and none was acknowledged. -/
theorem claimedOnlyIfFree_iff (tries : PollTries) (w : World) (a : Fin 16) :
    ClaimedOnlyIfFree tries w a ↔
      (w.devices a).status = .present ∨ (w.devices a).status = .handledByLibCec ∨
        (∃ i, (tries i).Confirmed w a) ∨
        ((∃ i, (tries i).NotAcked w a) ∧ ∀ i, ¬(tries i).Acked w a) := by
  constructor
  · intro h
    obtain ⟨b, w', hret⟩ := terminates_pollLogicalAddress tries a w
    have hb := (returns_pollLogicalAddress hret).1
    by_cases hpresent : (w.devices a).status = .present
    · exact .inl hpresent
    by_cases hhandled : (w.devices a).status = .handledByLibCec
    · exact .inr (.inl hhandled)
    have hother : w.isHandled a = false := by simpa [World.isHandled] using hhandled
    by_cases hpoll : transmitPoll tries w a
    · exact .inr (.inr (.inl ((transmitPoll_iff hother).mp hpoll)))
    · -- the call claims the address
      have hclaimed : b = true := by
        rw [hb, isFree_iff]
        exact ⟨hpresent, hhandled, by simpa using hpoll⟩
      by_contra hno
      have hfree : ¬Free tries w a := fun hfree => hno (.inr (.inr (.inr hfree)))
      exact absurd ((h b w' hret).2 hfree) (by simp [hclaimed])
  · intro h b w' hret
    obtain ⟨hb, hhandled⟩ := returns_pollLogicalAddress hret
    have hfree : b = true → Free tries w a := by
      intro hclaimed
      obtain ⟨hpresent, hother, hpoll⟩ := isFree_iff.mp (hb.symm.trans hclaimed)
      have hnot : w.isHandled a = false := by simpa [World.isHandled] using hother
      rcases h with h | h | h | h
      · exact absurd h hpresent
      · exact absurd h hother
      · exact absurd ((transmitPoll_iff hnot).mpr h) (by simp [hpoll])
      · exact h
    exact ⟨fun hw => (hhandled hw).imp_right hfree, fun hno => by simpa using mt hfree hno⟩

/-- The connection is closed when the poll is to be sent. -/
def closedTry : PollTry where
  communication := true
  stopped := false
  isOpen := false
  running := false
  written := false
  extended := true
  iLineTimeout := 3
  answers := []

/-- Nothing was put on the bus, and address 4 is claimed. -/
theorem claimed_when_closed : ¬ClaimedOnlyIfFree (fun _ => closedTry)
    (.start (fun _ => .clear) fun _ => .silent) 4 := by
  intro h
  obtain ⟨b, w', hret⟩ := exists_returns (x := pollLogicalAddress (fun _ => closedTry) 4)
    (s := .start (fun _ => .clear) fun _ => .silent) (by decide +kernel)
  have hclaimed := hret.of_all (p := fun b _ => b) (by decide +kernel)
  have hfree : ¬Free (fun _ => closedTry) (.start (fun _ => .clear) fun _ => .silent) 4 := by
    rintro ⟨⟨i, hcarried, -⟩, -⟩
    exact absurd hcarried.2.2.2.1 Bool.false_ne_true
  exact absurd ((h b w' hret).2 hfree) (by simp [hclaimed])

end CEC
