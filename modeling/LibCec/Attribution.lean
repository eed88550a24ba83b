import LibCec.MessageQueue
import LibCec.Transmission
import LibCec.Schemes.GuardedRun

/-! Which transmission an answer of the adapter is credited to (`CCECAdapterMessageQueue`).

    The answers carry no identifier. The adapter works through the transmissions in the order they
    were written, and answers each with one `COMMAND_ACCEPTED` per packet and then one outcome;
    the queue offers every answer to the entries in the order of their ids. The two agree as long
    as every entry in front of the one that is answered refuses the answer.

        Write    insert ─▶ push ─┬─ reply ──────────────────────────▶ removed by checkTimedOut
                                 └▶ waiting ─┬─ signalled ▶ waited ─ erase ▶ removed
                                             └▶ expired ─ SENT_NOT_ACKED ▶ waited
        Process  pop ─▶ writeToDevice ─▶ adapter ── reply ─▶ offer to m_messages

    Only an entry in the state `SENT_ACKED` refuses everything, and `Write` sets the state of an entry
    whose time is up without a lock. `attribution` shows that in every run in which neither does any
    harm (`Attributable`), each answer reaches its own entry and each entry keeps its own outcome. -/

namespace CEC
open Schemes

/-! ### The queue and the adapter -/

/-- A transmission the adapter works on: its id and the packets it has yet to accept. -/
structure Job where
  id : ℕ
  packets : ℕ
  deriving DecidableEq

/-- How far `Write` is with an entry that it waits for. -/
inductive WaitPhase where
  | waiting | expired | waited
  deriving DecidableEq

/-- The queue: `inserted` has what was not pushed yet, `popped` what was not written yet. `jobs` are
    the transmissions the adapter has been sent; for the record, `answers` are the outcomes it has
    given, and `removed` the entries that are gone. -/
structure QueueState where
  messages : Messages
  nextMessage : ℕ
  inserted : List (ℕ × AdapterMessage)
  writeQueue : List (ℕ × AdapterMessage)
  popped : Option (ℕ × AdapterMessage)
  jobs : List Job
  phases : ℕ → WaitPhase
  answers : ℕ → Option AdapterMessage
  removed : Messages

namespace QueueState
open AdapterMessageQueue (maxSize noteReply)

/-- The state after construction. -/
def init : QueueState where
  messages := []
  nextMessage := 0
  inserted := []
  writeQueue := []
  popped := none
  jobs := []
  phases := fun _ => .waiting
  answers := fun _ => none
  removed := []

/-- The message that `CUSBCECAdapterCommunication::Write` makes of a command and queues. -/
def transmission (command : Command) (lineTimeout : UInt8) (isReply : Bool) : AdapterMessage :=
  { AdapterMessage.ofCommand command lineTimeout with
    fireAndForget := isReply, state := .waitingToBeSent }

/-- `CCECAdapterMessageQueue::Write` adds an entry to `m_messages`. -/
def insert (s : QueueState) (msg : AdapterMessage) : QueueState :=
  { s with
    messages := s.messages ++ [(s.nextMessage, .ofMessage msg)]
    inserted := s.inserted ++ [(s.nextMessage, msg)]
    nextMessage := s.nextMessage + 1 }

/-- `Push`, whose result nobody looks at. -/
def push (s : QueueState) (id : ℕ) : QueueState :=
  { s with
    inserted := s.inserted.filter (·.1 ≠ id)
    writeQueue :=
      if s.writeQueue.length = maxSize then s.writeQueue
      else s.writeQueue ++ s.inserted.filter (·.1 = id) }

/-- Change the entry with an id. -/
def update (id : ℕ) (f : QueueEntry → QueueEntry) (es : Messages) : Messages :=
  es.map fun p => if p.1 = id then (p.1, f p.2) else p

/-- The packets of a message, as the adapter takes them in. -/
def packetCount (msg : AdapterMessage) : ℕ := (AdapterMessage.clear.addData msg.bytes).2.length

/-- The queue thread takes the next message (`Process`). -/
def pop (s : QueueState) : QueueState :=
  match s.popped, s.writeQueue with
  | none, q :: rest => { s with popped := some q, writeQueue := rest }
  | _, _ => s

/-- It sends the message to the adapter (`WriteToDevice`). -/
def writeToDevice (s : QueueState) : QueueState :=
  match s.popped with
  | none => s
  | some (id, msg) =>
    { s with
      messages := update id (·.setState .sent) s.messages
      popped := none
      jobs := s.jobs ++ [⟨id, packetCount msg⟩] }

/-- The adapter answers its first transmission: an acceptance as long as packets are left, then
    the outcome. The queue offers the answer to its entries. -/
def reply (extended : Bool) (s : QueueState) (msg : AdapterMessage) : QueueState :=
  match s.jobs with
  | [] => s
  | job :: rest =>
    let s := { s with messages := (offer extended msg s.messages).1 }
    if job.packets > 0 then { s with jobs := { job with packets := job.packets - 1 } :: rest }
    else { s with jobs := rest, answers := Function.update s.answers job.id (some msg) }

/-- `TimedOutOrSucceeded`, given whether the time is up. -/
def timedOutOrSucceeded (expired : Bool) (e : QueueEntry) : Bool :=
  e.message.fireAndForget && (e.succeeded || expired)

/-- `CheckTimedOutMessages`, given the entries whose time is up. -/
def checkTimedOutMessages (s : QueueState) (expired : ℕ → Bool) : QueueState :=
  { s with
    messages := s.messages.filter fun p => !timedOutOrSucceeded (expired p.1) p.2
    removed := s.removed ++ s.messages.filter fun p => timedOutOrSucceeded (expired p.1) p.2 }

/-- `Write` waits for the entry, which was signalled or not. -/
def WaitsFor (s : QueueState) (id : ℕ) (succeeded : Bool) : Prop :=
  s.phases id = .waiting ∧ id ∉ s.inserted.map Prod.fst ∧
    ∃ p ∈ s.messages, p.1 = id ∧ p.2.message.fireAndForget = false ∧ p.2.succeeded = succeeded

instance (s : QueueState) (id : ℕ) (succeeded : Bool) : Decidable (s.WaitsFor id succeeded) :=
  inferInstanceAs (Decidable (_ ∧ _ ∧ _))

def moveTo (s : QueueState) (id : ℕ) (phase : WaitPhase) : QueueState :=
  { s with phases := Function.update s.phases id phase }

/-- `Wait` returns what it was signalled. -/
def wake (s : QueueState) (id : ℕ) : QueueState :=
  if s.WaitsFor id true then s.moveTo id .waited else s

/-- `Wait` returns because the time is up. -/
def timeOut (s : QueueState) (id : ℕ) : QueueState :=
  if s.WaitsFor id false then s.moveTo id .expired else s

/-- Nobody has acknowledged the message in time. -/
def mark (s : QueueState) (id : ℕ) : QueueState :=
  if s.phases id = .expired then
    { s.moveTo id .waited with messages := update id (·.setState .sentNotAcked) s.messages }
  else s

/-- The entry is taken out of `m_messages`, and an error in the answer is noted. -/
def erase (s : QueueState) (id : ℕ) : QueueState :=
  if s.phases id = .waited then
    { s with
      messages := s.messages.filter fun p => !decide (p.1 = id)
      removed := s.removed ++
        (s.messages.filter fun p => decide (p.1 = id)).map fun p => (p.1, noteReply p.2) }
  else s

end QueueState

/-- What can happen next. -/
inductive QueueStep where
  | insert (command : Command) (lineTimeout : UInt8) (isReply : Bool)
  | push (id : ℕ)
  | wake (id : ℕ)
  | timeOut (id : ℕ)
  | mark (id : ℕ)
  | erase (id : ℕ)
  | pop
  | writeToDevice
  | reply (msg : AdapterMessage)
  | checkTimedOut (expired : ℕ → Bool)

/-- One step. -/
def queueStep (extended : Bool) (s : QueueState) : QueueStep → QueueState
  | .insert command lineTimeout isReply =>
    s.insert (QueueState.transmission command lineTimeout isReply)
  | .push id => s.push id
  | .wake id => s.wake id
  | .timeOut id => s.timeOut id
  | .mark id => s.mark id
  | .erase id => s.erase id
  | .pop => s.pop
  | .writeToDevice => s.writeToDevice
  | .reply msg => s.reply extended msg
  | .checkTimedOut expired => s.checkTimedOutMessages expired

/-! ### What should hold -/

/-- The message accepts a packet of a transmission; extended responses name the packet. -/
def IsAccepted (extended : Bool) (msg : AdapterMessage) : Prop :=
  msg.message = MsgCode.commandAccepted ∧ (extended → msg.responseTo ∈
    [MsgCode.transmitAckPolarity, MsgCode.transmit, MsgCode.transmitEom])

/-- The message is the outcome of a transmission; extended responses name what they answer. -/
def IsOutcome (extended : Bool) (msg : AdapterMessage) : Prop :=
  msg.message ∈ [MsgCode.transmitSucceeded, MsgCode.transmitFailedLine, MsgCode.transmitFailedAck,
    MsgCode.transmitFailedTimeoutData, MsgCode.transmitFailedTimeoutLine] ∧
  (extended → msg.responseTo ≠ MsgCode.nothing)

/-- The state an outcome leaves a transmission in. -/
def verdict (answer : AdapterMessage) : MessageState :=
  if answer.message = MsgCode.transmitSucceeded then .sentAcked else .sentNotAcked

/-- The entry holds this outcome, and has signalled it. -/
structure HasOutcome (e : QueueEntry) (answer : AdapterMessage) : Prop where
  state : e.message.state = verdict answer
  reply : e.message.rxData = answer.txData
  signalled : e.succeeded = true

/-- Every entry whose transmission the adapter has finished holds its outcome, whether it is still
    in `m_messages` or was removed. -/
def Attributed (s : QueueState) : Prop :=
  ∀ p ∈ s.messages ++ s.removed, ∀ answer ∈ s.answers p.1, HasOutcome p.2 answer

/-- The adapter answers in order: the acceptances of its first transmission, then the outcome. -/
def InOrder (extended : Bool) (s : QueueState) : QueueStep → Prop
  | .reply msg => ∃ job ∈ s.jobs.head?,
      (0 < job.packets → IsAccepted extended msg) ∧ (job.packets = 0 → IsOutcome extended msg)
  | _ => True

/-- The step stays away from the ways in which the queue goes wrong: an entry that is pushed before
    an earlier one, or finds the write queue full; a transmission of which the queue counts other
    packets than the adapter; an outcome the entry does not recognise; an answer to an entry that is
    gone, or one that acknowledges it when its time is up and that was not noted yet; and an answer
    that an entry with a failed outcome would take. -/
def Harmless (extended : Bool) (s : QueueState) : QueueStep → Prop
  | .push id => id ∈ s.inserted.map Prod.fst →
    s.inserted.head?.map Prod.fst = some id ∧ s.writeQueue.length ≠ AdapterMessageQueue.maxSize
  | .writeToDevice => ∀ q ∈ s.popped, QueueState.packetCount q.2 = q.2.size / 4
  | .reply msg =>
    (extended → msg.message ≠ MsgCode.transmitFailedLine) ∧
    (∀ job ∈ s.jobs.head?, job.id ∈ s.messages.map Prod.fst ∧
      (msg.message = MsgCode.transmitSucceeded → s.phases job.id ≠ .expired)) ∧
    ∀ p ∈ s.messages, ∀ answer ∈ s.answers p.1, answer.message = MsgCode.transmitSucceeded
  | _ => True

/-- The guard of a step whose answer is credited to the right transmission. -/
def Attributable (extended : Bool) (s : QueueState) (i : QueueStep) : Prop :=
  InOrder extended s i ∧ Harmless extended s i

instance (extended : Bool) (msg : AdapterMessage) : Decidable (IsAccepted extended msg) :=
  inferInstanceAs (Decidable (_ ∧ _))

instance (extended : Bool) (msg : AdapterMessage) : Decidable (IsOutcome extended msg) :=
  inferInstanceAs (Decidable (_ ∧ _))

instance (e : QueueEntry) (answer : AdapterMessage) : Decidable (HasOutcome e answer) :=
  decidable_of_iff (_ ∧ _ ∧ _) ⟨fun h => ⟨h.1, h.2.1, h.2.2⟩, fun h => ⟨h.1, h.2, h.3⟩⟩

instance (s : QueueState) : Decidable (Attributed s) := inferInstanceAs (Decidable (∀ _ ∈ _, _))

instance decidableInOrder (extended : Bool) (s : QueueState) :
    ∀ i : QueueStep, Decidable (InOrder extended s i)
  | .reply _ => inferInstanceAs (Decidable (∃ _ ∈ _, _))
  | .insert .. | .push _ | .wake _ | .timeOut _ | .mark _ | .erase _ | .pop | .writeToDevice
  | .checkTimedOut _ => inferInstanceAs (Decidable True)

instance decidableHarmless (extended : Bool) (s : QueueState) :
    ∀ i : QueueStep, Decidable (Harmless extended s i)
  | .push _ => inferInstanceAs (Decidable (_ → _ ∧ _))
  | .writeToDevice => inferInstanceAs (Decidable (∀ _ ∈ _, _))
  | .reply _ => inferInstanceAs (Decidable (_ ∧ _ ∧ _))
  | .insert .. | .wake _ | .timeOut _ | .mark _ | .erase _ | .pop | .checkTimedOut _ =>
    inferInstanceAs (Decidable True)

instance (extended : Bool) (s : QueueState) (i : QueueStep) :
    Decidable (Attributable extended s i) :=
  inferInstanceAs (Decidable (_ ∧ _))

/-! ### One entry -/

/-- The entry waits for this many more acceptances, and then for its outcome. -/
structure Waiting (e : QueueEntry) (packets : ℕ) : Prop where
  state : e.message.state ≠ .sentAcked
  code : e.message.message = MsgCode.transmitAckPolarity
  packetsLeft : e.packetsLeft = packets

theorem Waiting.isTransmission {e : QueueEntry} {n : ℕ} (h : Waiting e n) :
    e.message.isTransmission = true := by
  rw [AdapterMessage.isTransmission, h.code]
  decide

/-- The codes of acceptances and outcomes. -/
theorem code_of_answer {extended : Bool} {msg : AdapterMessage}
    (hm : IsAccepted extended msg ∨ IsOutcome extended msg) :
    msg.message ∈ [MsgCode.commandAccepted, MsgCode.transmitSucceeded, MsgCode.transmitFailedLine,
      MsgCode.transmitFailedAck, MsgCode.transmitFailedTimeoutData,
      MsgCode.transmitFailedTimeoutLine] := by
  rcases hm with hm | hm
  · simp [hm.1]
  · exact List.mem_cons_of_mem _ hm.1

/-- A firmware without extended responses: a transmission takes any acceptance and any outcome. -/
theorem Waiting.isResponseOld {e : QueueEntry} {n : ℕ} (h : Waiting e n) {msg : AdapterMessage}
    (hm : IsAccepted false msg ∨ IsOutcome false msg) : e.isResponseOld msg = true := by
  unfold QueueEntry.isResponseOld
  rcases hm with hm | hm
  · simp [hm.1]
  · have hcode := hm.1
    simp only [List.mem_cons, List.not_mem_nil, or_false] at hcode
    rcases hcode with hcode | hcode | hcode | hcode | hcode <;> simp [h.isTransmission, hcode]

/-- A transmission takes the acceptances and the outcomes of an adapter, but for a failed line with
    extended responses. -/
theorem Waiting.isResponse {extended : Bool} {e : QueueEntry} {n : ℕ} (h : Waiting e n)
    {msg : AdapterMessage} (hm : IsAccepted extended msg ∨ IsOutcome extended msg)
    (hl : extended → msg.message ≠ MsgCode.transmitFailedLine) :
    e.isResponse extended msg = true := by
  have hne : msg.message ≠ e.messageCode := by
    intro hc
    have hcode := code_of_answer hm
    rw [hc, QueueEntry.messageCode, h.code] at hcode
    exact absurd hcode (by decide)
  have honly : ¬ QueueEntry.onlyAcceptedOrRejected e.message.message = true := by
    rw [h.code]
    decide
  unfold QueueEntry.isResponse
  rw [if_neg h.state, if_neg hne]
  cases extended
  · exact h.isResponseOld hm
  · rw [if_neg (by decide)]
    rcases hm with hm | hm
    · have hr := hm.2 rfl
      have hnothing : msg.responseTo ≠ MsgCode.nothing := by
        intro h0
        rw [h0] at hr
        exact absurd hr (by decide)
      rw [if_neg hnothing, if_neg honly, if_neg (by simp [h.isTransmission])]
      simp [hm.1, hr]
    · rw [if_neg (hm.2 rfl), if_neg honly, if_neg (by simp [h.isTransmission])]
      have hcode := hm.1
      rw [List.mem_cons, List.mem_cons] at hcode
      rcases hcode with hcode | hcode | hcode
      · simp [hcode]
      · exact absurd hcode (hl rfl)
      · simp only [List.mem_cons, List.not_mem_nil, or_false] at hcode
        rcases hcode with hcode | hcode | hcode <;> simp [hcode]

theorem Waiting.accepted {extended : Bool} {e : QueueEntry} {n : ℕ} (h : Waiting e (n + 1))
    {msg : AdapterMessage} (hm : IsAccepted extended msg) :
    (e.messageReceived extended msg).handled = true ∧
      Waiting (e.messageReceived extended msg).entry n := by
  have hl : extended → msg.message ≠ MsgCode.transmitFailedLine := fun _ => by rw [hm.1]; decide
  have hleft : e.packetsLeft > 0 := by rw [h.packetsLeft]; omega
  have hrec : e.messageReceived extended msg
      = ⟨{ e with packetsLeft := e.packetsLeft - 1 }, true, []⟩ := by
    unfold QueueEntry.messageReceived QueueEntry.messageReceivedCommandAccepted
    rw [if_pos (h.isResponse (.inl hm) hl), if_pos hm.1, if_pos hleft]
    simp [h.isTransmission]
  rw [hrec]
  exact ⟨rfl, h.state, h.code, by simp [h.packetsLeft]⟩

theorem Waiting.outcome {extended : Bool} {e : QueueEntry} (h : Waiting e 0)
    {msg : AdapterMessage} (hm : IsOutcome extended msg)
    (hl : extended → msg.message ≠ MsgCode.transmitFailedLine) :
    (e.messageReceived extended msg).handled = true ∧
      HasOutcome (e.messageReceived extended msg).entry msg := by
  have hne : msg.message ≠ MsgCode.commandAccepted := by
    intro hc
    have hcode := hm.1
    rw [hc] at hcode
    exact absurd hcode (by decide)
  unfold QueueEntry.messageReceived
  rw [if_pos (h.isResponse (.inr hm) hl), if_neg hne]
  by_cases hs : msg.message = MsgCode.transmitSucceeded
  · rw [if_pos hs, QueueEntry.messageReceivedTransmitSucceeded, if_pos h.packetsLeft]
    exact ⟨rfl, by simp [verdict, hs, QueueEntry.signal], rfl, rfl⟩
  · rw [if_neg hs, QueueEntry.messageReceivedResponse, if_pos h.isTransmission, if_neg hs]
    exact ⟨rfl, by simp [verdict, hs, QueueEntry.signal], rfl, rfl⟩

/-- An entry that the adapter has acknowledged lets every message pass. -/
theorem messageReceived_sentAcked {extended : Bool} {e : QueueEntry}
    (h : e.message.state = .sentAcked) (msg : AdapterMessage) :
    e.messageReceived extended msg = ⟨e, false, []⟩ := by
  unfold QueueEntry.messageReceived
  rw [if_neg (by simp [QueueEntry.isResponse_sentAcked h])]

/-- The end of `Write` keeps an outcome. -/
theorem HasOutcome.noteReply {e : QueueEntry} {answer : AdapterMessage} (h : HasOutcome e answer) :
    HasOutcome (AdapterMessageQueue.noteReply e) answer := by
  have hreply : e.message.reply = answer.message := by
    unfold AdapterMessage.reply
    rw [h.reply]
    rfl
  have hsame : AdapterMessageQueue.noteReply e = e := by
    unfold AdapterMessageQueue.noteReply AdapterMessage.replyIsError
    simp only [hreply, h.state]
    by_cases hs : answer.message = MsgCode.transmitSucceeded
    · simp [hs, show AdapterMessage.messageCodeIsError MsgCode.transmitSucceeded = false by decide]
    · simp [verdict, hs]
  rwa [hsame]

/-- So does a failure that is noted late. -/
theorem HasOutcome.mark {e : QueueEntry} {answer : AdapterMessage} (h : HasOutcome e answer)
    (hfailed : verdict answer = .sentNotAcked) : HasOutcome (e.setState .sentNotAcked) answer :=
  ⟨hfailed.symm, h.reply, h.signalled⟩

/-- An entry that waits for the adapter does so whatever state it is set to. -/
theorem Waiting.setState {e : QueueEntry} {n : ℕ} {state : MessageState} (h : Waiting e n)
    (hstate : state ≠ .sentAcked) : Waiting (e.setState state) n :=
  ⟨hstate, h.code, h.packetsLeft⟩

/-! ### The entries in their order -/

namespace QueueState

theorem update_cons (id : ℕ) (f : QueueEntry → QueueEntry) (p : ℕ × QueueEntry) (es : Messages) :
    update id f (p :: es) = (if p.1 = id then (p.1, f p.2) else p) :: update id f es := rfl

theorem map_fst_update (id : ℕ) (f : QueueEntry → QueueEntry) (es : Messages) :
    (update id f es).map Prod.fst = es.map Prod.fst := by
  rw [update, List.map_map]
  refine List.map_congr_left fun p _ => ?_
  by_cases h : p.1 = id <;> simp [h]

/-- An entry after an update is an entry before it, changed if it has the id. -/
theorem mem_update {id : ℕ} {f : QueueEntry → QueueEntry} {es : Messages} {p : ℕ × QueueEntry}
    (h : p ∈ update id f es) :
    ∃ q ∈ es, p.1 = q.1 ∧ (q.1 ≠ id → p = q) ∧ (q.1 = id → p.2 = f q.2) := by
  obtain ⟨q, hq, rfl⟩ := List.mem_map.mp h
  refine ⟨q, hq, ?_⟩
  by_cases hid : q.1 = id <;> simp [hid]

theorem update_of_notMem {id : ℕ} {es : Messages} (f : QueueEntry → QueueEntry)
    (h : ∀ p ∈ es, p.1 ≠ id) : update id f es = es := by
  unfold update
  exact (List.map_congr_left fun p hp => if_neg (h p hp)).trans (List.map_id' es)

end QueueState

open QueueState

/-- A message that every earlier entry refuses changes exactly the entry that handles it. -/
theorem offer_eq_update {extended : Bool} {msg : AdapterMessage} {id : ℕ} {e : QueueEntry}
    (hhandled : (e.messageReceived extended msg).handled = true) :
    ∀ es : Messages, (es.map Prod.fst).Pairwise (· < ·) → (id, e) ∈ es →
      (∀ p ∈ es, p.1 < id → p.2.message.state = .sentAcked) →
      offer extended msg es =
        (update id (fun e => (e.messageReceived extended msg).entry) es, some id)
  | (id', e') :: es, hsorted, hmem, hrefuse => by
    rw [List.map_cons, List.pairwise_cons] at hsorted
    obtain ⟨hlt, hsorted⟩ := hsorted
    rcases List.mem_cons.mp hmem with heq | hmem
    · -- this is the entry
      obtain ⟨rfl, rfl⟩ := Prod.mk.inj heq
      have hrest : update id (fun e => (e.messageReceived extended msg).entry) es = es :=
        update_of_notMem _ fun p hp h => by
          have := hlt p.1 (List.mem_map_of_mem hp)
          omega
      rw [update_cons, if_pos rfl, hrest]
      simp only [offer, hhandled, if_true]
    · -- it comes later, and this one is acknowledged
      have hid : id' < id := hlt id (List.mem_map_of_mem hmem)
      have hpass : e'.messageReceived extended msg = ⟨e', false, []⟩ :=
        messageReceived_sentAcked (hrefuse (id', e') List.mem_cons_self hid) msg
      have ih := offer_eq_update hhandled es hsorted hmem fun p hp =>
        hrefuse p (List.mem_cons_of_mem _ hp)
      rw [update_cons, if_neg (Nat.ne_of_lt hid)]
      simp [offer, hpass, ih]

/-! ### The invariant -/

/-- The messages that were not sent to the adapter, in the order in which they are due. -/
def QueueState.unsent (s : QueueState) : List (ℕ × AdapterMessage) :=
  s.popped.toList ++ s.writeQueue ++ s.inserted

/-- The ids of the transmissions that the adapter has not finished, in its order. -/
def QueueState.openIds (s : QueueState) : List ℕ :=
  s.jobs.map Job.id ++ s.unsent.map Prod.fst

/-- The ids grow along the map and along the adapter's work, every pending entry is either still
    being worked on and counts what the adapter counts, or holds its outcome, and one whose time is
    up was not acknowledged. -/
structure QueueInv (s : QueueState) : Prop where
  sorted : (s.messages.map Prod.fst).Pairwise (· < ·)
  ordered : s.openIds.Pairwise (· < ·)
  openFresh : ∀ id ∈ s.openIds, id < s.nextMessage
  fresh : ∀ p ∈ s.messages ++ s.removed, p.1 < s.nextMessage
  disjoint : ∀ p ∈ s.messages, ∀ q ∈ s.removed, p.1 ≠ q.1
  unanswered : ∀ id, id ∈ s.openIds ∨ s.nextMessage ≤ id → s.answers id = none
  answered : ∀ p ∈ s.messages, p.1 ∈ s.openIds ∨ (s.answers p.1).isSome
  queued : ∀ q ∈ s.unsent, ∀ p ∈ s.messages, p.1 = q.1 → Waiting p.2 (q.2.size / 4)
  running : ∀ j ∈ s.jobs, ∀ p ∈ s.messages, p.1 = j.id → Waiting p.2 j.packets
  expired : ∀ id, s.phases id = .expired → ∀ answer ∈ s.answers id, verdict answer = .sentNotAcked
  attributed : Attributed s

theorem queueInv_init : QueueInv .init where
  sorted := .nil
  ordered := .nil
  openFresh := by simp [QueueState.openIds, QueueState.unsent, QueueState.init]
  fresh := by simp [QueueState.init]
  disjoint := by simp [QueueState.init]
  unanswered := fun _ _ => rfl
  answered := by simp [QueueState.init]
  queued := by simp [QueueState.unsent, QueueState.init]
  running := by simp [QueueState.init]
  expired := by simp [QueueState.init]
  attributed := by simp [Attributed, QueueState.init]

/-- Two entries with one id are one entry. -/
theorem QueueInv.unique {s : QueueState} (h : QueueInv s) {p q : ℕ × QueueEntry}
    (hp : p ∈ s.messages) (hq : q ∈ s.messages) (hid : p.1 = q.1) : p = q := by
  have hnodup : (s.messages.map Prod.fst).Nodup := h.sorted.imp Nat.ne_of_lt
  exact List.inj_on_of_nodup_map hnodup hp hq hid

/-! ### Writing -/

/-- A transmission begins with the packet that sets the polarity. -/
theorem message_ofCommand (c : Command) (lineTimeout : UInt8) :
    (AdapterMessage.ofCommand c lineTimeout).message = MsgCode.transmitAckPolarity := by
  have hbytes : ∃ t, (AdapterMessage.ofCommand c lineTimeout).txData.toList
      = msgStart :: MsgCode.transmitAckPolarity :: t := by
    have h := AdapterMessage.bytes_ofCommand c lineTimeout
    rw [AdapterMessage.bytes] at h
    rw [h, wireBytes, Command.polarityPacket, Framing.frame, Framing.escape_cons,
      wire.escapeOne_plain (by decide)]
    exact ⟨_, rfl⟩
  obtain ⟨t, ht⟩ := hbytes
  unfold AdapterMessage.message AdapterMessage.byteAt AdapterMessage.size BoundedBuffer.size
  rw [ht]
  simp
  decide

/-- A new transmission waits for as many acceptances as a quarter of its bytes. -/
theorem waiting_transmission (c : Command) (lineTimeout : UInt8) (isReply : Bool) :
    Waiting (.ofMessage (transmission c lineTimeout isReply))
      ((transmission c lineTimeout isReply).size / 4) := by
  have hcode : (transmission c lineTimeout isReply).message = MsgCode.transmitAckPolarity :=
    message_ofCommand c lineTimeout
  refine ⟨by simp [QueueEntry.ofMessage, transmission], hcode, ?_⟩
  have ht : (transmission c lineTimeout isReply).isTransmission = true := by
    rw [AdapterMessage.isTransmission, hcode]
    decide
  simp [QueueEntry.ofMessage, ht]

theorem QueueInv.insert {s : QueueState} (h : QueueInv s) {msg : AdapterMessage}
    (hw : Waiting (.ofMessage msg) (msg.size / 4)) : QueueInv (s.insert msg) := by
  have hunsent : (s.insert msg).unsent = s.unsent ++ [(s.nextMessage, msg)] := by
    simp [QueueState.unsent, QueueState.insert]
  have hopen : (s.insert msg).openIds = s.openIds ++ [s.nextMessage] := by
    rw [openIds, openIds, hunsent, List.map_append, ← List.append_assoc]
    rfl
  have hmem : ∀ p ∈ (s.insert msg).messages,
      p ∈ s.messages ∨ p = (s.nextMessage, .ofMessage msg) := by
    simp [QueueState.insert]
  have hfresh : ∀ p ∈ s.messages, p.1 < s.nextMessage := fun p hp =>
    h.fresh p (List.mem_append_left _ hp)
  constructor
  · -- sorted
    simp only [QueueState.insert, List.map_append, List.pairwise_append]
    refine ⟨h.sorted, by simp, ?_⟩
    intro a ha b hb
    obtain ⟨p, hp, rfl⟩ := List.mem_map.mp ha
    simp only [List.map_cons, List.map_nil, List.mem_singleton] at hb
    rw [hb]
    exact hfresh p hp
  · -- ordered
    rw [hopen, List.pairwise_append]
    refine ⟨h.ordered, by simp, ?_⟩
    intro a ha b hb
    rw [List.mem_singleton.mp hb]
    exact h.openFresh a ha
  · -- openFresh
    intro id hid
    rw [hopen, List.mem_append, List.mem_singleton] at hid
    rcases hid with hid | rfl
    · exact Nat.lt_succ_of_lt (h.openFresh id hid)
    · exact Nat.lt_succ_self _
  · -- fresh
    intro p hp
    rcases List.mem_append.mp hp with hp | hp
    · rcases hmem p hp with hp | rfl
      · exact Nat.lt_succ_of_lt (hfresh p hp)
      · exact Nat.lt_succ_self _
    · exact Nat.lt_succ_of_lt (h.fresh p (List.mem_append_right _ hp))
  · -- disjoint
    intro p hp q hq
    rcases hmem p hp with hp | rfl
    · exact h.disjoint p hp q hq
    · exact (Nat.ne_of_lt (h.fresh q (List.mem_append_right _ hq))).symm
  · -- unanswered
    intro id hid
    rw [hopen, List.mem_append, List.mem_singleton] at hid
    rcases hid with (hid | rfl) | hid
    · exact h.unanswered id (.inl hid)
    · exact h.unanswered _ (.inr le_rfl)
    · exact h.unanswered id (.inr (Nat.le_of_succ_le hid))
  · -- answered
    intro p hp
    rw [hopen, List.mem_append, List.mem_singleton]
    rcases hmem p hp with hp | rfl
    · exact (h.answered p hp).imp_left .inl
    · exact .inl (.inr rfl)
  · -- queued
    intro q hq p hp hid
    rw [hunsent, List.mem_append, List.mem_singleton] at hq
    rcases hmem p hp with hp | rfl <;> rcases hq with hq | rfl
    · exact h.queued q hq p hp hid
    · exact absurd hid (Nat.ne_of_lt (hfresh p hp))
    · have := h.openFresh q.1 (List.mem_append_right _ (List.mem_map_of_mem hq))
      exact absurd hid.symm (Nat.ne_of_lt this)
    · exact hw
  · -- running
    intro j hj p hp hid
    rcases hmem p hp with hp | rfl
    · exact h.running j hj p hp hid
    · have := h.openFresh j.id (List.mem_append_left _ (List.mem_map_of_mem hj))
      exact absurd hid.symm (Nat.ne_of_lt this)
  · exact h.expired
  · -- attributed
    intro p hp answer ha
    rcases List.mem_append.mp hp with hp | hp
    · rcases hmem p hp with hp | rfl
      · exact h.attributed p (List.mem_append_left _ hp) answer ha
      · exact absurd ha (by simp [QueueState.insert, h.unanswered _ (.inr le_rfl)])
    · exact h.attributed p (List.mem_append_right _ hp) answer ha

/-! ### Updating one entry -/

/-- A step that changes one entry that is being worked on keeps the invariant, when the entry then
    waits for what the adapter has yet to send, or holds what it has sent. -/
theorem QueueInv.update {s t : QueueState} (h : QueueInv s) {id : ℕ} {f : QueueEntry → QueueEntry}
    (hid : id ∈ s.openIds) (hmsg : t.messages = QueueState.update id f s.messages)
    (hrem : t.removed = s.removed) (hnext : t.nextMessage = s.nextMessage)
    (hopen : t.openIds.Sublist s.openIds) (hkept : ∀ i ∈ s.openIds, i ≠ id → i ∈ t.openIds)
    (hans : ∀ i, i ≠ id → t.answers i = s.answers i)
    (hself : (id ∈ t.openIds ∧ t.answers id = none) ∨ (id ∉ t.openIds ∧ (t.answers id).isSome))
    (hqueue : ∀ q ∈ t.unsent, q ∈ s.unsent ∧ q.1 ≠ id)
    (hjobs : ∀ j ∈ t.jobs, (j ∈ s.jobs ∧ j.id ≠ id) ∨
      (j.id = id ∧ ∀ p ∈ s.messages, p.1 = id → Waiting (f p.2) j.packets))
    (hout : ∀ p ∈ s.messages, p.1 = id → ∀ a, t.answers id = some a → HasOutcome (f p.2) a)
    (hgone : ∀ q ∈ s.removed, q.1 = id → t.answers id = none) (hphases : t.phases = s.phases)
    (hexpired : s.phases id = .expired → ∀ a ∈ t.answers id, verdict a = .sentNotAcked) :
    QueueInv t := by
  have hmem : ∀ p ∈ t.messages, ∃ q ∈ s.messages, p.1 = q.1 ∧ (q.1 ≠ id → p = q) ∧
      (q.1 = id → p.2 = f q.2) := fun p hp => mem_update (hmsg ▸ hp)
  constructor
  · -- sorted
    rw [hmsg, map_fst_update]
    exact h.sorted
  · exact h.ordered.sublist hopen
  · -- openFresh
    intro i hi
    rw [hnext]
    exact h.openFresh i (hopen.subset hi)
  · -- fresh
    intro p hp
    rw [hnext]
    rw [hrem] at hp
    rcases List.mem_append.mp hp with hp | hp
    · obtain ⟨q, hq, heq, -⟩ := hmem p hp
      rw [heq]
      exact h.fresh q (List.mem_append_left _ hq)
    · exact h.fresh p (List.mem_append_right _ hp)
  · -- disjoint
    intro p hp r hr
    obtain ⟨q, hq, heq, -⟩ := hmem p hp
    rw [heq]
    exact h.disjoint q hq r (hrem ▸ hr)
  · -- unanswered
    intro i hi
    by_cases hne : i = id
    · subst hne
      rcases hself with hself | hself
      · exact hself.2
      · rcases hi with hi | hi
        · exact absurd hi hself.1
        · rw [hnext] at hi
          exact absurd (h.openFresh i hid) (Nat.not_lt.mpr hi)
    · rw [hans i hne]
      exact h.unanswered i (hi.imp (fun hi => hopen.subset hi) fun hi => hnext ▸ hi)
  · -- answered
    intro p hp
    obtain ⟨q, hq, heq, -⟩ := hmem p hp
    rw [heq]
    by_cases hne : q.1 = id
    · rw [hne]
      exact hself.imp And.left And.right
    · rw [hans q.1 hne]
      exact (h.answered q hq).imp_left fun hi => hkept q.1 hi hne
  · -- queued
    intro r hr p hp hpr
    obtain ⟨hr, hne⟩ := hqueue r hr
    obtain ⟨q, hq, heq, hsame, -⟩ := hmem p hp
    have hqr : q.1 = r.1 := heq ▸ hpr
    rw [hsame (hqr ▸ hne)]
    exact h.queued r hr q hq hqr
  · -- running
    intro j hj p hp hpj
    obtain ⟨q, hq, heq, hsame, hchanged⟩ := hmem p hp
    have hqj : q.1 = j.id := heq ▸ hpj
    rcases hjobs j hj with ⟨hj, hne⟩ | ⟨hji, hw⟩
    · rw [hsame (hqj ▸ hne)]
      exact h.running j hj q hq hqj
    · rw [hchanged (hqj.trans hji)]
      exact hw q hq (hqj.trans hji)
  · -- expired
    intro i hi
    rw [hphases] at hi
    by_cases hne : i = id
    · subst hne
      exact hexpired hi
    · rw [hans i hne]
      exact h.expired i hi
  · -- attributed
    intro p hp a ha
    rw [hrem] at hp
    rcases List.mem_append.mp hp with hp | hp
    · obtain ⟨q, hq, heq, hsame, hchanged⟩ := hmem p hp
      rw [heq] at ha
      by_cases hne : q.1 = id
      · rw [hchanged hne]
        exact hout q hq hne a (hne ▸ ha)
      · rw [hsame hne]
        exact h.attributed q (List.mem_append_left _ hq) a (hans q.1 hne ▸ ha)
    · by_cases hne : p.1 = id
      · rw [hne, hgone p hp hne] at ha
        cases ha
      · exact h.attributed p (List.mem_append_right _ hp) a (hans p.1 hne ▸ ha)

/-- The invariant does not depend on where a message waits for being sent. -/
theorem QueueInv.of_unsent {s t : QueueState} (h : QueueInv s) (hmessages : t.messages = s.messages)
    (hnext : t.nextMessage = s.nextMessage) (hunsent : t.unsent = s.unsent) (hjobs : t.jobs = s.jobs)
    (hphases : t.phases = s.phases) (hans : t.answers = s.answers) (hrem : t.removed = s.removed) :
    QueueInv t := by
  have hopen : t.openIds = s.openIds := by rw [openIds, openIds, hjobs, hunsent]
  constructor
  · rw [hmessages]
    exact h.sorted
  · rw [hopen]
    exact h.ordered
  · rw [hopen, hnext]
    exact h.openFresh
  · rw [hmessages, hrem, hnext]
    exact h.fresh
  · rw [hmessages, hrem]
    exact h.disjoint
  · rw [hopen, hnext, hans]
    exact h.unanswered
  · rw [hmessages, hopen, hans]
    exact h.answered
  · rw [hunsent, hmessages]
    exact h.queued
  · rw [hjobs, hmessages]
    exact h.running
  · rw [hphases, hans]
    exact h.expired
  · rw [Attributed, hmessages, hrem, hans]
    exact h.attributed

/-- What is pushed in its turn, and finds room, keeps its place. -/
theorem QueueInv.push {s : QueueState} (h : QueueInv s) {id : ℕ}
    (hturn : id ∈ s.inserted.map Prod.fst → s.inserted.head?.map Prod.fst = some id ∧
      s.writeQueue.length ≠ AdapterMessageQueue.maxSize) : QueueInv (s.push id) := by
  refine h.of_unsent rfl rfl ?_ rfl rfl rfl rfl
  rw [unsent, unsent, QueueState.push, List.append_assoc, List.append_assoc]
  refine congrArg (s.popped.toList ++ ·) ?_
  by_cases hid : id ∈ s.inserted.map Prod.fst
  · obtain ⟨hhead, hroom⟩ := hturn hid
    have hord := h.ordered
    cases hinserted : s.inserted with
    | nil => simp [hinserted] at hid
    | cons q rest =>
      have hq : q.1 = id := by simpa [hinserted] using hhead
      rw [openIds, unsent, hinserted, List.map_append, List.map_cons, List.pairwise_append,
        List.pairwise_append, List.pairwise_cons] at hord
      have hlater : ∀ r ∈ rest, r.1 ≠ id := fun r hr =>
        hq ▸ (Nat.ne_of_lt (hord.2.1.2.1.1 r.1 (List.mem_map_of_mem hr))).symm
      have hkept : rest.filter (·.1 ≠ id) = rest :=
        List.filter_eq_self.mpr fun r hr => by simpa using hlater r hr
      have htaken : rest.filter (·.1 = id) = [] :=
        List.filter_eq_nil_iff.mpr fun r hr => by simpa using hlater r hr
      simp only [if_neg hroom, List.filter_cons, hq, decide_true, if_true, hkept, htaken,
        ne_eq, not_true_eq_false, decide_false, Bool.false_eq_true, if_false]
      simp
  · have hother : ∀ r ∈ s.inserted, r.1 ≠ id := fun r hr hrid =>
      hid (List.mem_map.mpr ⟨r, hr, hrid⟩)
    have hkept : s.inserted.filter (·.1 ≠ id) = s.inserted :=
      List.filter_eq_self.mpr fun r hr => by simpa using hother r hr
    have htaken : s.inserted.filter (·.1 = id) = [] :=
      List.filter_eq_nil_iff.mpr fun r hr => by simpa using hother r hr
    simp only [hkept, htaken, List.append_nil, ite_self]

theorem QueueInv.pop {s : QueueState} (h : QueueInv s) : QueueInv s.pop := by
  cases hpopped : s.popped with
  | some q => simpa [QueueState.pop, hpopped] using h
  | none =>
    cases hqueue : s.writeQueue with
    | nil => simpa [QueueState.pop, hpopped, hqueue] using h
    | cons q rest =>
      refine h.of_unsent ?_ ?_ ?_ ?_ ?_ ?_ ?_ <;>
        simp [QueueState.pop, unsent, hpopped, hqueue]

/-- Sending the next transmission to the adapter. -/
theorem QueueInv.writeToDevice {s : QueueState} (h : QueueInv s)
    (hcount : ∀ q ∈ s.popped, packetCount q.2 = q.2.size / 4) : QueueInv s.writeToDevice := by
  cases hq : s.popped with
  | none => simpa [QueueState.writeToDevice, hq] using h
  | some q =>
    obtain ⟨id, msg⟩ := q
    have hunsent : s.unsent = (id, msg) :: s.writeToDevice.unsent := by
      simp [unsent, QueueState.writeToDevice, hq]
    have hid : id ∈ s.openIds := by simp [QueueState.openIds, hunsent]
    have hjobs : s.writeToDevice.jobs = s.jobs ++ [⟨id, packetCount msg⟩] := by
      simp [QueueState.writeToDevice, hq]
    have hopen : s.writeToDevice.openIds = s.openIds := by
      simp [QueueState.openIds, hunsent, hjobs]
    have hans : s.writeToDevice.answers = s.answers := by simp [QueueState.writeToDevice, hq]
    have hnone : s.writeToDevice.answers id = none := hans ▸ h.unanswered id (.inl hid)
    -- the ids of the adapter's work are all different
    have hnodup := h.ordered
    rw [QueueState.openIds, hunsent, List.map_cons, List.pairwise_append, List.pairwise_cons]
      at hnodup
    obtain ⟨-, ⟨hrest, -⟩, hbefore⟩ := hnodup
    refine h.update (f := (·.setState .sent)) hid
      (by simp [QueueState.writeToDevice, hq]) (by simp [QueueState.writeToDevice, hq])
      (by simp [QueueState.writeToDevice, hq]) (hopen ▸ .refl _) (fun i hi _ => hopen ▸ hi)
      (fun i _ => by rw [hans]) (.inl ⟨hopen ▸ hid, hnone⟩) ?_ ?_
      (fun p _ _ a ha => by rw [hnone] at ha; cases ha) (fun _ _ _ => hnone)
      (by simp [QueueState.writeToDevice, hq]) (fun _ a ha => by rw [hnone] at ha; cases ha)
    · intro r hr
      exact ⟨by rw [hunsent]; exact List.mem_cons_of_mem _ hr,
        (Nat.ne_of_lt (hrest r.1 (List.mem_map_of_mem hr))).symm⟩
    · intro j hj
      rw [hjobs, List.mem_append, List.mem_singleton] at hj
      rcases hj with hj | rfl
      · exact .inl ⟨hj,
          Nat.ne_of_lt (hbefore j.id (List.mem_map_of_mem hj) id List.mem_cons_self)⟩
      · refine .inr ⟨rfl, fun p hp hpid => ?_⟩
        have hw := h.queued (id, msg) (by rw [hunsent]; exact List.mem_cons_self) p hp hpid
        rw [hcount (id, msg) (by simp [hq])]
        exact hw.setState (by simp)

/-! ### Answers -/

/-- The entry whose transmission the adapter answers is the first that does not refuse, and it
    handles the answer. -/
theorem QueueInv.offer {extended : Bool} {s : QueueState} (h : QueueInv s) {msg : AdapterMessage}
    {job : Job} {rest : List Job} (hj : s.jobs = job :: rest)
    (hlast : ∀ p ∈ s.messages, ∀ answer ∈ s.answers p.1,
      answer.message = MsgCode.transmitSucceeded)
    {e : QueueEntry} (he : (job.id, e) ∈ s.messages)
    (hhandled : (e.messageReceived extended msg).handled = true) :
    CEC.offer extended msg s.messages = (QueueState.update job.id
      (fun e => (e.messageReceived extended msg).entry) s.messages, some job.id) := by
  refine offer_eq_update hhandled s.messages h.sorted he fun p hp hlt => ?_
  -- an entry in front of it is finished, and was acknowledged
  have hfirst : ∀ i ∈ s.openIds, job.id ≤ i := by
    have hord := h.ordered
    rw [QueueState.openIds, hj, List.map_cons, List.cons_append, List.pairwise_cons] at hord
    intro i hi
    rw [QueueState.openIds, hj, List.map_cons, List.cons_append, List.mem_cons] at hi
    rcases hi with rfl | hi
    · exact le_rfl
    · exact Nat.le_of_lt (hord.1 i hi)
  have hdone : (s.answers p.1).isSome := (h.answered p hp).resolve_left fun hi => by
    have := hfirst p.1 hi
    omega
  obtain ⟨answer, ha⟩ := Option.isSome_iff_exists.mp hdone
  rw [(h.attributed p (List.mem_append_left _ hp) answer ha).state, verdict, hlast p hp answer ha,
    if_pos rfl]

/-- An answer in an attributable step reaches the entry it answers, and no other. -/
theorem QueueInv.reply {extended : Bool} {s : QueueState} (h : QueueInv s) {msg : AdapterMessage}
    (hg : Attributable extended s (.reply msg)) :
    QueueInv (s.reply extended msg) ∧
      ∃ id, (CEC.offer extended msg s.messages).2 = some id ∧ s.answers id = none := by
  obtain ⟨⟨job, hjob, haccept, hout⟩, hline, hanswered, hlast⟩ := hg
  obtain ⟨rest, hj⟩ : ∃ rest, s.jobs = job :: rest := by
    cases hjs : s.jobs with
    | nil => simp [hjs] at hjob
    | cons j rest =>
      rw [hjs, List.head?_cons, Option.mem_some_iff] at hjob
      exact ⟨rest, by rw [hjob]⟩
  obtain ⟨hmem, hintime⟩ := hanswered job hjob
  obtain ⟨⟨id, e⟩, he, hid⟩ := List.mem_map.mp hmem
  simp only at hid
  subst hid
  have hopenid : job.id ∈ s.openIds := by simp [QueueState.openIds, hj]
  have hnone : s.answers job.id = none := h.unanswered job.id (.inl hopenid)
  have hwait : Waiting e job.packets := h.running job (by simp [hj]) (job.id, e) he rfl
  have hgone : ∀ q ∈ s.removed, q.1 ≠ job.id := fun q hq => (h.disjoint (job.id, e) he q hq).symm
  have honly : ∀ p ∈ s.messages, p.1 = job.id → p.2 = e := fun p hp hpid => by
    rw [h.unique hp he hpid]
  -- the other ids of the adapter's work differ from this one
  have hord := h.ordered
  rw [QueueState.openIds, hj, List.map_cons, List.cons_append, List.pairwise_cons] at hord
  have hrest : ∀ j ∈ rest, j.id ≠ job.id := fun j hjr =>
    (Nat.ne_of_lt (hord.1 j.id (List.mem_append_left _ (List.mem_map_of_mem hjr)))).symm
  have hqueue : ∀ q ∈ s.unsent, q.1 ≠ job.id := fun q hq =>
    (Nat.ne_of_lt (hord.1 q.1 (List.mem_append_right _ (List.mem_map_of_mem hq)))).symm
  cases hp : job.packets with
  | zero =>
    -- the outcome
    rw [hp] at hwait
    obtain ⟨hhandled, houtcome⟩ := hwait.outcome (hout hp) hline
    have hoffer := h.offer hj hlast he hhandled
    refine ⟨?_, job.id, by rw [hoffer], hnone⟩
    have hrep : s.reply extended msg = { s with
        messages := (CEC.offer extended msg s.messages).1, jobs := rest,
        answers := Function.update s.answers job.id (some msg) } := by
      simp [QueueState.reply, hj, hp]
    have hopen : s.openIds = job.id :: (s.reply extended msg).openIds := by
      simp [QueueState.openIds, QueueState.unsent, hrep, hj]
    have hself : (s.reply extended msg).answers job.id = some msg := by simp [hrep]
    have hunsent : (s.reply extended msg).unsent = s.unsent := by simp [QueueState.unsent, hrep]
    have hnotin : job.id ∉ (s.reply extended msg).openIds := by
      have := h.ordered
      rw [hopen, List.pairwise_cons] at this
      exact fun hi => Nat.lt_irrefl _ (this.1 _ hi)
    refine h.update (f := fun e => (e.messageReceived extended msg).entry) hopenid
      (by rw [hrep, hoffer]) (by rw [hrep]) (by rw [hrep]) (hopen ▸ List.sublist_cons_self _ _)
      (fun i hi hne => ?_) (fun i hne => by rw [hrep]; exact Function.update_of_ne hne _ _)
      (.inr ⟨hnotin, by rw [hself]; rfl⟩) (fun q hq => ⟨hunsent ▸ hq, hqueue q (hunsent ▸ hq)⟩)
      (fun j hj' => ?_) (fun p hp hpid a ha => ?_) (fun q hq hqid => absurd hqid (hgone q hq))
      (by rw [hrep]) fun hphase a ha => ?_
    · rw [hopen] at hi
      exact (List.mem_cons.mp hi).resolve_left hne
    · have hj'' : j ∈ rest := by rwa [hrep] at hj'
      exact .inl ⟨by simp [hj, hj''], hrest j hj''⟩
    · rw [hself, Option.some.injEq] at ha
      rw [honly p hp hpid, ← ha]
      exact houtcome
    · -- the time is up, so this is no acknowledgement
      rw [hself, Option.mem_some_iff] at ha
      rw [← ha, verdict, if_neg fun hs => hintime hs hphase]
  | succ n =>
    -- an acceptance
    rw [hp] at hwait
    obtain ⟨hhandled, hwait'⟩ := hwait.accepted (haccept (by omega))
    have hoffer := h.offer hj hlast he hhandled
    refine ⟨?_, job.id, by rw [hoffer], hnone⟩
    have hrep : s.reply extended msg = { s with
        messages := (CEC.offer extended msg s.messages).1,
        jobs := { job with packets := n } :: rest } := by
      simp [QueueState.reply, hj, hp]
    have hunsent : (s.reply extended msg).unsent = s.unsent := by simp [QueueState.unsent, hrep]
    have hopen : (s.reply extended msg).openIds = s.openIds := by
      rw [openIds, openIds, hunsent, hrep, hj]
      rfl
    have hself : (s.reply extended msg).answers job.id = none := by rw [hrep]; exact hnone
    refine h.update (f := fun e => (e.messageReceived extended msg).entry) hopenid
      (by rw [hrep, hoffer]) (by rw [hrep]) (by rw [hrep]) (hopen ▸ .refl _)
      (fun i hi _ => hopen ▸ hi) (fun i _ => by rw [hrep]) (.inl ⟨hopen ▸ hopenid, hself⟩)
      (fun q hq => ⟨hunsent ▸ hq, hqueue q (hunsent ▸ hq)⟩) (fun j hj' => ?_)
      (fun p _ _ a ha => by rw [hself] at ha; cases ha) (fun _ _ _ => hself) (by rw [hrep])
      fun _ a ha => by rw [hself] at ha; cases ha
    · have hj'' : j = { job with packets := n } ∨ j ∈ rest := by
        rw [hrep] at hj'
        exact List.mem_cons.mp hj'
      rcases hj'' with rfl | hj''
      · exact .inr ⟨rfl, fun p hp hpid => by rw [honly p hp hpid]; exact hwait'⟩
      · exact .inl ⟨by simp [hj, hj''], hrest j hj''⟩

/-! ### Removing entries -/

/-- Removing entries keeps the invariant, as long as what is removed keeps its outcome. -/
theorem QueueInv.remove {s : QueueState} (h : QueueInv s) (keep : ℕ × QueueEntry → Bool)
    (gone : Messages) (hgone : ∀ q ∈ gone, ∃ p ∈ s.messages, keep p = false ∧ q.1 = p.1 ∧
      ∀ answer, HasOutcome p.2 answer → HasOutcome q.2 answer) :
    QueueInv { s with messages := s.messages.filter keep, removed := s.removed ++ gone } := by
  have hsub : ∀ p ∈ s.messages.filter keep, p ∈ s.messages := fun p hp => (List.mem_filter.mp hp).1
  constructor
  · exact h.sorted.sublist (List.filter_sublist.map _)
  · exact h.ordered
  · exact h.openFresh
  · -- fresh
    intro p hp
    rcases List.mem_append.mp hp with hp | hp
    · exact h.fresh p (List.mem_append_left _ (hsub p hp))
    · rcases List.mem_append.mp hp with hp | hp
      · exact h.fresh p (List.mem_append_right _ hp)
      · obtain ⟨r, hr, -, hid, -⟩ := hgone p hp
        exact hid ▸ h.fresh r (List.mem_append_left _ hr)
  · -- disjoint
    intro p hp q hq
    rcases List.mem_append.mp hq with hq | hq
    · exact h.disjoint p (hsub p hp) q hq
    · obtain ⟨r, hr, hkeep, hid, -⟩ := hgone q hq
      intro heq
      have := h.unique (hsub p hp) hr (heq.trans hid)
      rw [← this, (List.mem_filter.mp hp).2] at hkeep
      cases hkeep
  · exact h.unanswered
  · exact fun p hp => h.answered p (hsub p hp)
  · exact fun q hq p hp => h.queued q hq p (hsub p hp)
  · exact fun j hj p hp => h.running j hj p (hsub p hp)
  · exact h.expired
  · -- attributed
    intro p hp answer ha
    rcases List.mem_append.mp hp with hp | hp
    · exact h.attributed p (List.mem_append_left _ (hsub p hp)) answer ha
    · rcases List.mem_append.mp hp with hp | hp
      · exact h.attributed p (List.mem_append_right _ hp) answer ha
      · obtain ⟨r, hr, -, hid, hkeeps⟩ := hgone p hp
        exact hkeeps answer (h.attributed r (List.mem_append_left _ hr) answer (hid ▸ ha))

theorem QueueInv.checkTimedOutMessages {s : QueueState} (h : QueueInv s) (expired : ℕ → Bool) :
    QueueInv (s.checkTimedOutMessages expired) := by
  refine h.remove _ _ fun q hq => ⟨q, (List.mem_filter.mp hq).1, ?_, rfl, fun _ ho => ho⟩
  rw [(List.mem_filter.mp hq).2]
  rfl

theorem QueueInv.erase {s : QueueState} (h : QueueInv s) (id : ℕ) : QueueInv (s.erase id) := by
  rw [QueueState.erase]
  split
  · refine h.remove _ _ fun q hq => ?_
    obtain ⟨p, hp, rfl⟩ := List.mem_map.mp hq
    refine ⟨p, (List.mem_filter.mp hp).1, ?_, rfl, fun _ ho => ho.noteReply⟩
    rw [(List.mem_filter.mp hp).2]
    rfl
  · exact h

/-! ### The end of the wait -/

/-- A wait that ends without a signal is one for an entry that was not answered. -/
theorem QueueInv.moveTo {s : QueueState} (h : QueueInv s) {id : ℕ} {phase : WaitPhase}
    (hexpired : phase = .expired → s.answers id = none) : QueueInv (s.moveTo id phase) := by
  refine { h with expired := fun i hi => ?_ }
  by_cases hne : i = id
  · subst hne
    have hphase : phase = .expired := by simpa [QueueState.moveTo] using hi
    intro answer ha
    rw [QueueState.moveTo, hexpired hphase] at ha
    cases ha
  · exact h.expired i (by simpa [QueueState.moveTo, hne] using hi)

theorem QueueInv.wake {s : QueueState} (h : QueueInv s) (id : ℕ) : QueueInv (s.wake id) := by
  rw [QueueState.wake]
  split
  · exact h.moveTo (by simp)
  · exact h

theorem QueueInv.timeOut {s : QueueState} (h : QueueInv s) (id : ℕ) : QueueInv (s.timeOut id) := by
  rw [QueueState.timeOut]
  split
  · next hwaits =>
    obtain ⟨-, -, p, hp, rfl, -, hsignalled⟩ := hwaits
    refine h.moveTo fun _ => ?_
    -- an answer would have signalled the entry
    cases ha : s.answers p.1 with
    | none => rfl
    | some answer =>
      have hsucceeded := (h.attributed p (List.mem_append_left _ hp) answer ha).signalled
      rw [hsignalled] at hsucceeded
      cases hsucceeded
  · exact h

/-- What is noted when the time is up contradicts no outcome. -/
theorem QueueInv.mark {s : QueueState} (h : QueueInv s) (id : ℕ) : QueueInv (s.mark id) := by
  rw [QueueState.mark]
  split
  · next hphase =>
    have h' : QueueInv (s.moveTo id .waited) := h.moveTo (by simp)
    have hmem : ∀ p ∈ QueueState.update id (·.setState .sentNotAcked) s.messages,
        ∃ q ∈ s.messages, p.1 = q.1 ∧ (q.1 ≠ id → p = q) ∧
          (q.1 = id → p.2 = q.2.setState .sentNotAcked) := fun p hp => mem_update hp
    have hwaiting : ∀ {n : ℕ}, ∀ p ∈ QueueState.update id (·.setState .sentNotAcked) s.messages,
        (∀ q ∈ s.messages, p.1 = q.1 → Waiting q.2 n) → Waiting p.2 n := fun p hp hw => by
      obtain ⟨q, hq, heq, hsame, hchanged⟩ := hmem p hp
      by_cases hid : q.1 = id
      · rw [hchanged hid]
        exact (hw q hq heq).setState (by simp)
      · rw [hsame hid]
        exact hw q hq heq
    refine { h' with
      sorted := ?_, fresh := fun p hp => ?_, disjoint := fun p hp r hr => ?_,
      answered := fun p hp => ?_, queued := fun q hq p hp hpq => ?_,
      running := fun j hj p hp hpj => ?_, attributed := fun p hp answer ha => ?_ }
    · rw [map_fst_update]
      exact h.sorted
    · rcases List.mem_append.mp hp with hp | hp
      · obtain ⟨q, hq, heq, -⟩ := hmem p hp
        rw [heq]
        exact h.fresh q (List.mem_append_left _ hq)
      · exact h.fresh p (List.mem_append_right _ hp)
    · obtain ⟨q, hq, heq, -⟩ := hmem p hp
      rw [heq]
      exact h.disjoint q hq r hr
    · obtain ⟨q, hq, heq, -⟩ := hmem p hp
      rw [heq]
      exact h.answered q hq
    · exact hwaiting p hp fun r hr hpr => h.queued q hq r hr (hpr ▸ hpq)
    · exact hwaiting p hp fun r hr hpr => h.running j hj r hr (hpr ▸ hpj)
    · rcases List.mem_append.mp hp with hp | hp
      · obtain ⟨q, hq, heq, hsame, hchanged⟩ := hmem p hp
        have hout : HasOutcome q.2 answer :=
          h.attributed q (List.mem_append_left _ hq) answer (heq ▸ ha)
        by_cases hid : q.1 = id
        · rw [hchanged hid]
          exact hout.mark (h.expired id hphase answer (hid ▸ heq ▸ ha))
        · rw [hsame hid]
          exact hout
      · exact h.attributed p (List.mem_append_right _ hp) answer ha
  · exact h

/-! ### Runs -/

/-- An attributable step keeps the invariant. -/
theorem queueInv_step {extended : Bool} {s : QueueState} {i : QueueStep} (h : QueueInv s)
    (hg : Attributable extended s i) : QueueInv (queueStep extended s i) := by
  cases i with
  | insert command lineTimeout isReply =>
    exact h.insert (waiting_transmission command lineTimeout isReply)
  | push id => exact h.push hg.2
  | wake id => exact h.wake id
  | timeOut id => exact h.timeOut id
  | mark id => exact h.mark id
  | erase id => exact h.erase id
  | pop => exact h.pop
  | writeToDevice => exact h.writeToDevice hg.2
  | reply msg => exact (h.reply hg).1
  | checkTimedOut expired => exact h.checkTimedOutMessages expired

theorem queueInv_run {extended : Bool} {is : List QueueStep}
    (h : Guarded (queueStep extended) (Attributable extended) .init is) :
    QueueInv (is.foldl (queueStep extended) .init) :=
  Guarded.invariant (fun _ s => QueueInv s) queueInv_init (fun _ _ _ hs hg => queueInv_step hs hg) h

/-- In every attributable run each entry holds the outcome of its own transmission, and the entry
    that handles an answer has not received its outcome before. -/
theorem attribution (extended : Bool) (past : List QueueStep) (i : QueueStep)
    (h : Guarded (queueStep extended) (Attributable extended) .init (past ++ [i])) :
    Attributed ((past ++ [i]).foldl (queueStep extended) .init) ∧
      ∀ msg, i = .reply msg → ∃ id,
        (offer extended msg (past.foldl (queueStep extended) .init).messages).2 = some id ∧
        (past.foldl (queueStep extended) .init).answers id = none := by
  refine ⟨(queueInv_run h).attributed, ?_⟩
  rintro msg rfl
  obtain ⟨hpast, hg⟩ := guarded_concat.mp h
  exact ((queueInv_run hpast).reply hg).2

/-- A message with these bytes. -/
def messageBytes (bs : List UInt8) : AdapterMessage :=
  { AdapterMessage.clear with txData := BoundedBuffer.empty.pushAll bs }

/-- A poll from recorder 1 to the TV that gets an id, sent without waiting, and answered with this
    outcome. -/
def pollAnswered (id : ℕ) (outcome : UInt8) : List QueueStep :=
  [.insert { Command.clear with initiator := .addr 1, destination := .tv } 3 true, .push id, .pop,
    .writeToDevice, .reply (messageBytes [0xFF, 0x08, 0x0E, 0xFE]),
    .reply (messageBytes [0xFF, 0x08, 0x0C, 0xFE]),
    .reply (messageBytes [0xFF, outcome, 0x0C, 0xFE])]

theorem attribution_poll :
    Attributed ((pollAnswered 0 0x10).foldl (queueStep true) .init) ∧
      ∀ msg, QueueStep.reply (messageBytes [0xFF, 0x10, 0x0C, 0xFE]) = .reply msg → ∃ id,
        (offer true msg ((pollAnswered 0 0x10).dropLast.foldl (queueStep true) .init).messages).2
          = some id ∧
        ((pollAnswered 0 0x10).dropLast.foldl (queueStep true) .init).answers id = none :=
  attribution true (pollAnswered 0 0x10).dropLast
    (.reply (messageBytes [0xFF, 0x10, 0x0C, 0xFE])) (by decide)

/-- A poll that nobody acknowledged is still in `m_messages` when the next one is acknowledged, and
    is credited with the acknowledgement. -/
theorem attribution_after_failure :
    Guarded (queueStep true) (InOrder true) .init (pollAnswered 0 0x12 ++ pollAnswered 1 0x10) ∧
      ¬ Attributed ((pollAnswered 0 0x12 ++ pollAnswered 1 0x10).foldl (queueStep true) .init) := by
  decide

/-- An acknowledgement that comes when the time is up is overwritten. -/
example :
    let s := [QueueStep.insert { Command.clear with initiator := .addr 1, destination := .tv } 3 false,
      .push 0, .pop, .writeToDevice, .reply (messageBytes [0xFF, 0x08, 0x0E, 0xFE]),
      .reply (messageBytes [0xFF, 0x08, 0x0C, 0xFE]), .timeOut 0,
      .reply (messageBytes [0xFF, 0x10, 0x0C, 0xFE])].foldl (queueStep true) .init
    Attributed s ∧ ¬ Attributed (s.mark 0) := by
  decide

end CEC
