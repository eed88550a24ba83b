import LibCec.QueueEntries

/-! What the adapter statistics say about transmissions (`cec_adapter_stats`).

    An entry counts a transmission when it takes the answer that decides it:

        TRANSMIT_SUCCEEDED, no packets left ─▶ SENT_ACKED       tx_ack
        TRANSMIT_SUCCEEDED, packets left    ─▶ ERROR
        TRANSMIT_FAILED_ACK                 ─▶ SENT_NOT_ACKED   tx_nack
        any other error                     ─▶ SENT_NOT_ACKED   tx_error, tx_nack
        anything else                       ─▶ SENT_NOT_ACKED   tx_nack

    Only the first and the third count what has happened, and once. Nothing keeps an entry that was
    not acknowledged from taking the answer to another one, and counting that too. -/

namespace CEC
open Schemes

/-! ### The answer that decides a transmission -/

namespace QueueEntry

/-- The answer brings the transmission to a final state: it is a response, and more than the
    acceptance of a packet. -/
def Finishes (extended : Bool) (e : QueueEntry) (msg : AdapterMessage) : Prop :=
  e.message.isTransmission ∧ e.isResponse extended msg ∧ msg.message ≠ MsgCode.commandAccepted

/-- What has become of a transmission that the answer finishes. -/
def outcome (extended : Bool) (e : QueueEntry) (msg : AdapterMessage) : TxEvent :=
  if (e.messageReceived extended msg).entry.message.state = .sentAcked then .ack
  else if msg.message = MsgCode.transmitFailedAck then .nack
  else .error

/-- Success after all packets were accepted, or no acknowledgement by the destination. -/
def AckOrNack (e : QueueEntry) (msg : AdapterMessage) : Prop :=
  msg.message = MsgCode.transmitSucceeded ∧ e.packetsLeft = 0 ∨
    msg.message = MsgCode.transmitFailedAck

instance (extended : Bool) (e : QueueEntry) (msg : AdapterMessage) :
    Decidable (e.Finishes extended msg) := inferInstanceAs (Decidable (_ ∧ _ ∧ _))

section Answers

variable {extended : Bool} {e : QueueEntry} {msg : AdapterMessage}

/-- Which of the handlers decides. -/
theorem messageReceived_of_finishes (h : e.Finishes extended msg) :
    e.messageReceived extended msg =
      if msg.message = MsgCode.transmitSucceeded then e.messageReceivedTransmitSucceeded msg
      else e.messageReceivedResponse msg := by
  rw [messageReceived, if_pos h.2.1, if_neg h.2.2]

/-- The state is final after the answer that decides, and the caller is told. -/
theorem final_of_finishes (h : e.Finishes extended msg) :
    (e.messageReceived extended msg).entry.message.state ∈
      [MessageState.sentAcked, .sentNotAcked, .error] ∧
    (e.messageReceived extended msg).entry.succeeded = true := by
  rw [messageReceived_of_finishes h]
  split
  · rw [messageReceivedTransmitSucceeded]
    split
    · exact ⟨by simp [signal], rfl⟩
    · exact ⟨by simp [signal], rfl⟩
  · next hs =>
    rw [messageReceivedResponse, if_pos h.1, if_neg hs]
    exact ⟨by simp [signal], rfl⟩

/-- Any other message leaves the state of a transmission, and counts nothing. -/
theorem kept_of_not_finishes (ht : e.message.isTransmission) (h : ¬ e.Finishes extended msg) :
    (e.messageReceived extended msg).entry.message = e.message ∧
      (e.messageReceived extended msg).events = [] := by
  unfold messageReceived
  by_cases hr : e.isResponse extended msg
  · have haccepted : msg.message = MsgCode.commandAccepted := by
      by_contra hne
      exact h ⟨ht, hr, hne⟩
    rw [if_pos hr, if_pos haccepted, messageReceivedCommandAccepted]
    split
    · simp [ht]
    · exact ⟨rfl, rfl⟩
  · rw [if_neg hr]
    exact ⟨rfl, rfl⟩

/-- What the answer counts, by its code. -/
theorem events_of_finishes (h : e.Finishes extended msg) :
    (e.messageReceived extended msg).events =
      if msg.message = MsgCode.transmitSucceeded then if e.packetsLeft = 0 then [.ack] else []
      else if msg.isError ∧ msg.message ≠ MsgCode.transmitFailedAck then [.error, .nack]
      else [.nack] := by
  rw [messageReceived_of_finishes h]
  split
  · rw [messageReceivedTransmitSucceeded]
    split <;> rfl
  · next hs =>
    rw [messageReceivedResponse, if_pos h.1, if_neg hs]
    by_cases herror : msg.isError ∧ msg.message ≠ MsgCode.transmitFailedAck
    · simp [herror.1, herror.2, h.1]
    · rw [if_neg herror, if_neg (by simpa [h.1] using herror)]
      rfl

/-- What has become of the transmission, by the code of the answer. -/
theorem outcome_of_finishes (h : e.Finishes extended msg) :
    e.outcome extended msg =
      if msg.message = MsgCode.transmitSucceeded ∧ e.packetsLeft = 0 then .ack
      else if msg.message = MsgCode.transmitFailedAck then .nack else .error := by
  have hstate : (e.messageReceived extended msg).entry.message.state = .sentAcked ↔
      msg.message = MsgCode.transmitSucceeded ∧ e.packetsLeft = 0 := by
    rw [messageReceived_of_finishes h]
    split
    · next hs =>
      rw [messageReceivedTransmitSucceeded]
      split
      · next hleft => simp [signal, hs, hleft]
      · next hleft => simp [signal, hleft]
    · next hs =>
      rw [messageReceivedResponse, if_pos h.1, if_neg hs]
      simp [signal, hs]
  simp only [outcome, hstate]

/-- An answer counts what has happened, and once, iff it is one of the two that are told apart. -/
theorem events_eq_outcome_iff (h : e.Finishes extended msg) :
    (e.messageReceived extended msg).events = [e.outcome extended msg] ↔ e.AckOrNack msg := by
  rw [events_of_finishes h, outcome_of_finishes h, AckOrNack]
  by_cases hs : msg.message = MsgCode.transmitSucceeded
  · have hne : MsgCode.transmitSucceeded ≠ MsgCode.transmitFailedAck := by decide
    by_cases hleft : e.packetsLeft = 0
    · simp [hs, hleft]
    · simp [hs, hleft, hne]
  · by_cases hack : msg.message = MsgCode.transmitFailedAck
    · have hne : MsgCode.transmitFailedAck ≠ MsgCode.transmitSucceeded := by decide
      simp [hack, hne]
    · simp only [hs, hack, false_and, if_false, or_self, iff_false]
      split
      · simp
      · simp

/-- A failure that is not counted at all is one that nobody has reported. -/
theorem outcome_of_events_nil (h : e.Finishes extended msg)
    (hnil : (e.messageReceived extended msg).events = []) : e.outcome extended msg = .error := by
  rw [events_of_finishes h] at hnil
  rw [outcome_of_finishes h]
  by_cases hs : msg.message = MsgCode.transmitSucceeded
  · rw [if_pos hs] at hnil
    have hleft : ¬ e.packetsLeft = 0 := by
      intro hleft
      rw [if_pos hleft] at hnil
      exact List.cons_ne_nil _ _ hnil
    have hne : ¬ msg.message = MsgCode.transmitFailedAck := by
      rw [hs]
      decide
    rw [if_neg (fun hboth => hleft hboth.2), if_neg hne]
  · rw [if_neg hs] at hnil
    split at hnil <;> exact absurd hnil (List.cons_ne_nil _ _)

/-- The answers that are told apart are no errors. -/
theorem outcome_ne_error (h : e.Finishes extended msg) (hmsg : e.AckOrNack msg) :
    e.outcome extended msg ≠ .error := by
  rw [outcome_of_finishes h]
  rcases hmsg with hs | hack
  · simp [hs]
  · rw [if_pos hack]
    split <;> simp

end Answers

end QueueEntry

/-! ### The statistics of the queue -/

/-- The part of `cec_adapter_stats` that is about transmissions. -/
structure AdapterStats where
  txAck : ℕ
  txNack : ℕ
  txError : ℕ
  deriving DecidableEq

/-- `OnTxAck`, `OnTxNack` and `OnTxError`. -/
def AdapterStats.onTx (stats : AdapterStats) : TxEvent → AdapterStats
  | .ack => { stats with txAck := stats.txAck + 1 }
  | .nack => { stats with txNack := stats.txNack + 1 }
  | .error => { stats with txError := stats.txError + 1 }

/-- A message from the adapter, and the entry that takes it, as it was before. -/
structure Taken where
  id : ℕ
  entry : QueueEntry
  extended : Bool
  msg : AdapterMessage

namespace Taken

/-- What is counted for it. -/
def events (d : Taken) : List TxEvent := (d.entry.messageReceived d.extended d.msg).events

/-- The message brings a transmission to a final state. -/
def Finishes (d : Taken) : Prop := d.entry.Finishes d.extended d.msg

def outcome (d : Taken) : TxEvent := d.entry.outcome d.extended d.msg

instance (d : Taken) : Decidable d.Finishes := inferInstanceAs (Decidable (d.entry.Finishes ..))

end Taken

namespace AdapterMessageQueue

/-- The first of the entries with a property, and the message for it. -/
def firstEntry (s : AdapterMessageQueue) (extended : Bool) (msg : AdapterMessage)
    (p : QueueEntry → Bool) (rs : List ℕ) : Option Taken :=
  rs.findSome? fun r => ((s.entries.cell r).filter p).map (⟨r, ·, extended, msg⟩)

/-- The entry that handles the message, if one does. -/
def takenBy (s : AdapterMessageQueue) (extended : Bool) (msg : AdapterMessage) : Option Taken :=
  s.firstEntry extended msg (fun e => (e.messageReceived extended msg).handled) s.messages

/-- The first entry that the message is a response to. -/
def respondent (s : AdapterMessageQueue) (extended : Bool) (msg : AdapterMessage) : Option Taken :=
  s.firstEntry extended msg (·.isResponse extended msg) s.messages

/-- More than an acceptance is taken by the first entry that it is a response to. -/
theorem takenBy_eq_respondent (s : AdapterMessageQueue) (extended : Bool) {msg : AdapterMessage}
    (h : msg.message ≠ MsgCode.commandAccepted) :
    s.takenBy extended msg = s.respondent extended msg := by
  have hp : (fun e : QueueEntry => (e.messageReceived extended msg).handled) =
      (·.isResponse extended msg) :=
    funext fun e => (QueueEntry.messageReceived_of_ne_accepted extended e h).1
  rw [takenBy, hp, respondent]

/-- The message is the one that was received. -/
theorem eq_of_firstEntry {s : AdapterMessageQueue} {extended : Bool} {msg : AdapterMessage}
    {p : QueueEntry → Bool} {rs : List ℕ} {d : Taken} (h : s.firstEntry extended msg p rs = some d) :
    d.extended = extended ∧ d.msg = msg := by
  obtain ⟨r, -, hr⟩ := List.exists_of_findSome?_eq_some h
  obtain ⟨e, -, rfl⟩ := Option.map_eq_some_iff.mp hr
  exact ⟨rfl, rfl⟩

/-- An entry that does not handle a message stays as it is. -/
theorem entry_of_not_handled {extended : Bool} {e : QueueEntry} {msg : AdapterMessage}
    (h : (e.messageReceived extended msg).handled = false) :
    (e.messageReceived extended msg).entry = e := by
  revert h
  simp only [QueueEntry.messageReceived, QueueEntry.messageReceivedCommandAccepted,
    QueueEntry.messageReceivedTransmitSucceeded, QueueEntry.messageReceivedResponse]
  repeat' split
  all_goals simp

/-- What an entry that is offered a message becomes. -/
theorem cell_offered (s : AdapterMessageQueue) (extended : Bool) (msg : AdapterMessage) {i : ℕ}
    (h : (s.entries.cell i).any (fun e => (e.messageReceived extended msg).handled) = false) :
    (s.useEntry i fun e => (e.messageReceived extended msg).entry).entries.cell =
      s.entries.cell := by
  funext r
  rw [useEntry, ManualHeap.cell_use]
  split
  · next hr =>
    rw [hr]
    cases hcell : s.entries.cell i with
    | none => rfl
    | some e =>
      rw [hcell, Option.any_some] at h
      rw [Option.map_some, entry_of_not_handled h]
  · rfl

/-- A message changes the entry that takes it, and no other. -/
theorem cell_messageReceived (extended : Bool) (msg : AdapterMessage) (r : ℕ) :
    ∀ (rs : List ℕ) (s : AdapterMessageQueue), (messageReceived extended msg s rs).entries.cell r =
      (s.firstEntry extended msg (fun e => (e.messageReceived extended msg).handled) rs).elim
        (s.entries.cell r) fun d =>
          if r = d.id then some (d.entry.messageReceived extended msg).entry else s.entries.cell r
  | [], s => rfl
  | i :: rs, s => by
    rw [messageReceived, firstEntry, List.findSome?_cons]
    cases hany : (s.entries.cell i).any fun e => (e.messageReceived extended msg).handled with
    | true =>
      obtain ⟨e, hcell, hhandled⟩ := (Option.any_eq_true _ _).mp hany
      rw [if_pos rfl, useEntry, ManualHeap.cell_use, hcell]
      simp [Option.filter, hhandled]
    | false =>
      have hsame := s.cell_offered extended msg hany
      have hnone : (s.entries.cell i).filter
          (fun e => (e.messageReceived extended msg).handled) = none := by
        cases hcell : s.entries.cell i with
        | none => rfl
        | some e =>
          rw [hcell, Option.any_some] at hany
          simp [Option.filter, hany]
      rw [if_neg Bool.false_ne_true, cell_messageReceived extended msg r rs, firstEntry, hsame, hnone]
      rfl

end AdapterMessageQueue

/-! ### Runs -/

/-- The message queue and its statistics, and for the record the messages its entries have taken. -/
structure CountedQueue where
  queue : AdapterMessageQueue
  stats : AdapterStats
  taken : List Taken

namespace CountedQueue
open AdapterMessageQueue (Action)

def initial : CountedQueue := ⟨.initial, ⟨0, 0, 0⟩, []⟩

/-- What a step adds to the record. -/
def takes (s : CountedQueue) : Action → Option Taken
  | .received extended msg => s.queue.takenBy extended msg
  | _ => none

/-- One step; a thread that is somewhere else does not take it. -/
def step (s : CountedQueue) (a : Action) : CountedQueue where
  queue := (s.queue.step a).getD s.queue
  stats := (s.takes a).elim s.stats fun d => d.events.foldl AdapterStats.onTx s.stats
  taken := s.taken ++ (s.takes a).toList

/-- What a transmission has added to the statistics. -/
def increments (s : CountedQueue) (r : ℕ) : List TxEvent :=
  (s.taken.filter fun d => d.id = r ∧ d.entry.message.isTransmission).flatMap Taken.events

/-- Each transmission that a message has brought to a final state has caused one increment in total,
    which says what has become of it. -/
def CountedOnce (s : CountedQueue) : Prop :=
  ∀ d ∈ s.taken, d.Finishes → s.increments d.id = [d.outcome]

/-- An answer that decides a transmission is its first one, and either success after all packets were
    accepted, or no acknowledgement by the destination. -/
def ToldApart (s : CountedQueue) : Action → Prop
  | .received extended msg => ∀ d ∈ s.queue.respondent extended msg, d.Finishes →
      d.entry.AckOrNack msg ∧ ∀ d' ∈ s.taken, d'.id = d.id → ¬ d'.Finishes
  | _ => True

instance (s : CountedQueue) : Decidable s.CountedOnce := inferInstanceAs (Decidable (∀ _ ∈ _, _))

variable {s : CountedQueue} {a : Action} {d : Taken}

/-- The counters are what the record adds up to. -/
theorem stats_run (run : List Action) : (run.foldl step initial).stats =
    ((run.foldl step initial).taken.flatMap Taken.events).foldl AdapterStats.onTx ⟨0, 0, 0⟩ := by
  induction run using List.reverseRecOn with
  | nil => rfl
  | append_singleton run a ih =>
    rw [List.foldl_append, List.foldl_cons, List.foldl_nil]
    set s := run.foldl step initial
    rw [step, List.flatMap_append, List.foldl_append, ← ih]
    cases s.takes a with
    | none => rfl
    | some d => simp

/-- The guard speaks of the entry that takes the answer. -/
theorem toldApart_iff : s.ToldApart a ↔ ∀ d ∈ s.takes a, d.Finishes →
    d.entry.AckOrNack d.msg ∧ ∀ d' ∈ s.taken, d'.id = d.id → ¬ d'.Finishes := by
  cases a with
  | received extended msg =>
    by_cases haccepted : msg.message = MsgCode.commandAccepted
    · -- an acceptance decides nothing
      have hnot {p : QueueEntry → Bool} :
          ∀ d ∈ s.queue.firstEntry extended msg p s.queue.messages, ¬ d.Finishes := by
        intro d hd hfinishes
        rw [Taken.Finishes, (AdapterMessageQueue.eq_of_firstEntry hd).2] at hfinishes
        exact hfinishes.2.2 haccepted
      exact ⟨fun _ d hd hf => absurd hf (hnot d hd), fun _ d hd hf => absurd hf (hnot d hd)⟩
    · rw [ToldApart, takes, s.queue.takenBy_eq_respondent extended haccepted]
      refine forall₂_congr fun d hd => ?_
      rw [(AdapterMessageQueue.eq_of_firstEntry hd).2]
  | _ => simp [ToldApart, takes]

/-- What a step adds to the increments of a transmission. -/
theorem increments_step (r : ℕ) : (s.step a).increments r = s.increments r ++
    (s.takes a).elim [] fun d =>
      if d.id = r ∧ d.entry.message.isTransmission then d.events else [] := by
  rw [increments, step, List.filter_append, List.flatMap_append, ← increments]
  congr 1
  cases s.takes a with
  | none => rfl
  | some d =>
    by_cases hd : d.id = r ∧ d.entry.message.isTransmission
    · simp [hd]
    · simp [hd]

/-- A transmission that was not decided has caused no increment. -/
theorem increments_eq_nil {r : ℕ} (h : ∀ d ∈ s.taken, d.id = r → ¬ d.Finishes) :
    s.increments r = [] := by
  rw [increments, List.flatMap_eq_nil_iff]
  intro d hd
  obtain ⟨hd, hr⟩ := List.mem_filter.mp hd
  have hr := of_decide_eq_true hr
  exact (QueueEntry.kept_of_not_finishes hr.2 (h d hd hr.1)).2

/-- Nothing but one of the two answers has decided a transmission, and each is counted once. -/
structure Inv (s : CountedQueue) : Prop where
  counted : s.CountedOnce
  toldApart : ∀ d ∈ s.taken, d.Finishes → d.entry.AckOrNack d.msg

theorem inv_initial : initial.Inv := ⟨by simp [CountedOnce, initial], by simp [initial]⟩

/-- A message that decides no transmission changes no count. -/
theorem increments_of_not_finishes (hd : ∀ d ∈ s.takes a, ¬ d.Finishes) (r : ℕ) :
    (s.step a).increments r = s.increments r := by
  rw [increments_step]
  cases htakes : s.takes a with
  | none => simp
  | some d =>
    have hnot : ¬ d.Finishes := hd d (by simp [htakes])
    by_cases hr : d.id = r ∧ d.entry.message.isTransmission
    · have hevents : d.events = [] := (QueueEntry.kept_of_not_finishes hr.2 hnot).2
      simp [hr, hevents]
    · simp [hr]

/-- One that decides a transmission counts for that one. -/
theorem increments_of_finishes (htakes : s.takes a = some d) (hd : d.Finishes) (r : ℕ) :
    (s.step a).increments r = s.increments r ++ if d.id = r then d.events else [] := by
  rw [increments_step, htakes]
  simp [show d.entry.message.isTransmission from hd.1]

/-- One step keeps the count right iff the answer is the first one and is told apart. -/
theorem countedOnce_step (hs : s.Inv) : (s.step a).CountedOnce ↔ s.ToldApart a := by
  rw [toldApart_iff]
  have htaken : (s.step a).taken = s.taken ++ (s.takes a).toList := rfl
  by_cases hfinishes : ∃ d ∈ s.takes a, d.Finishes
  swap
  · have hnot : ∀ d ∈ s.takes a, ¬ d.Finishes := fun d hd hf => hfinishes ⟨d, hd, hf⟩
    refine ⟨fun _ d hd hf => absurd hf (hnot d hd), fun _ d hd hf => ?_⟩
    rw [htaken, List.mem_append, Option.mem_toList] at hd
    rw [increments_of_not_finishes hnot]
    exact hs.counted d (hd.resolve_right fun hd => hnot d hd hf) hf
  obtain ⟨d, htakes, hd⟩ := hfinishes
  have hincrements := increments_of_finishes htakes hd
  have hmem : d ∈ (s.step a).taken := by simp [htaken, Option.mem_def.mp htakes]
  constructor
  · intro h d₁ hd₁ _
    obtain rfl : d = d₁ := Option.mem_unique htakes hd₁
    have htotal := h d hmem hd
    rw [hincrements, if_pos rfl] at htotal
    have hfirst : ∀ d' ∈ s.taken, d'.id = d.id → ¬ d'.Finishes := by
      intro d' hd' hid hf
      -- the earlier answer was counted already, so that this one counts nothing
      have hbefore := hs.counted d' hd' hf
      rw [hid] at hbefore
      rw [hbefore, List.cons_append, List.nil_append, List.cons.injEq] at htotal
      have herror : d.outcome = .error := QueueEntry.outcome_of_events_nil hd htotal.2
      have hne : d'.outcome ≠ .error := QueueEntry.outcome_ne_error hf (hs.toldApart d' hd' hf)
      exact hne (htotal.1.trans herror)
    rw [increments_eq_nil hfirst, List.nil_append] at htotal
    exact ⟨(QueueEntry.events_eq_outcome_iff hd).mp htotal, hfirst⟩
  · intro h d' hd' hf
    obtain ⟨hmsg, hfirst⟩ := h d htakes hd
    rw [htaken, List.mem_append, Option.mem_toList] at hd'
    rcases hd' with hd' | hd'
    · have hid : ¬ d.id = d'.id := fun hid => hfirst d' hd' hid.symm hf
      rw [hincrements, if_neg hid, List.append_nil]
      exact hs.counted d' hd' hf
    · obtain rfl : d = d' := Option.mem_unique htakes hd'
      rw [hincrements, if_pos rfl, increments_eq_nil hfirst, List.nil_append]
      exact (QueueEntry.events_eq_outcome_iff hd).mpr hmsg

/-- Such a step keeps the invariant. -/
theorem Inv.step (hs : s.Inv) (ha : s.ToldApart a) : (s.step a).Inv := by
  refine ⟨(countedOnce_step hs).mpr ha, fun d hd hf => ?_⟩
  rw [CountedQueue.step, List.mem_append, Option.mem_toList] at hd
  rcases hd with hd | hd
  · exact hs.toldApart d hd hf
  · exact (toldApart_iff.mp ha d hd hf).1

/-- Throughout a run each decided transmission is counted once, as what has become of it, iff each is
    decided once, by one of the two answers that are told apart. -/
theorem countedOnce_iff (run : List Action) :
    (∀ past later, run = past ++ later → (past.foldl step initial).CountedOnce) ↔
      Guarded step ToldApart initial run := by
  rw [forall_prefix_iff, and_iff_right inv_initial.counted]
  exact guarded_iff Inv (fun _ _ hs => countedOnce_step hs) (fun _ _ hs ha => hs.step ha) run
    inv_initial

/-- A poll of the TV that is written, and the answers of a firmware without extended responses, by
    their codes. -/
def poll (answers : List MsgCode) : List Action :=
  [.create 0 (.transmission (pollCommand 1 0) 3 false), .insert 0, .push 0, .proceed 0, .loop, .pop,
    .writeToDevice true, .inspect] ++
  answers.map fun code => .received false
    { AdapterMessage.clear with txData := BoundedBuffer.empty.pushAll [msgStart, code, msgEnd] }

/-- A poll that is acknowledged is counted as that. -/
example : ((poll [MsgCode.commandAccepted, MsgCode.commandAccepted,
    MsgCode.transmitSucceeded]).foldl step initial).stats = ⟨1, 0, 0⟩ := by
  decide +kernel

/-- A poll that has failed on the line is counted as an error and as not acknowledged. -/
theorem not_countedOnce : ¬ ∀ run : List Action, (run.foldl step initial).CountedOnce := by
  intro h
  exact absurd (h (poll [MsgCode.commandAccepted, MsgCode.commandAccepted,
    MsgCode.transmitFailedTimeoutLine])) (by decide +kernel)

end CountedQueue

end CEC
