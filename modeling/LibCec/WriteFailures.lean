import LibCec.QueueEntries

/-! A write to the port that fails (`WriteToDevice`), and who is told.

    The queue thread writes what `Write` has queued, and notes a failure in the state of the message.
    `SendCommand` is meant to close the port then, which the reader thread reports. The two threads
    go on at their own pace:

        Write    inserted ─ Push ▶ pushed ─┬──────────── reply ───────────▶ returned true
                                           └▶ waiting ─┬─ m_bSucceeded ▶ waited true ─ erase ─▶ …
                                                       └▶ timedOut ─ SENT_NOT_ACKED ▶ waited false
        Process  queued ─ Pop ▶ popped ─ WriteToDevice ▶ written ─ ERROR? ▶ signaling ─ Signal ▶ past

    `Signal` is what ends the wait, and it always sets `m_bSucceeded`: a caller that still waits gets
    `true` for a message that was never written. Only one that has given up already gets the error. -/

namespace CEC
open Schemes

namespace WriteAttempt

/-- Where the thread is that has called `Write`; it is `finished` when it has looked at the message
    that `Write` has returned for. -/
inductive Caller where
  | inserted
  | pushed
  | waiting
  | timedOut
  | waited (bReturn : Bool)
  | returned (bReturn : Bool)
  | finished (bReturn : Bool) (state : MessageState)
  deriving DecidableEq

/-- How far the queue thread is with the message. -/
inductive Turn where
  | unqueued
  | queued
  | popped
  | written
  | signaling
  | past
  deriving DecidableEq

/-- Where the reader thread is in its loop. -/
inductive Reader where
  | looping
  | reading
  | ended
  deriving DecidableEq

end WriteAttempt

open WriteAttempt in
/-- A message that is written, and the connection it is written to. -/
structure WriteAttempt where
  entry : QueueEntry
  /-- The entry is in `m_messages`. -/
  listed : Bool
  /-- `Write` was called by `SendCommand`. -/
  bySendCommand : Bool
  caller : Caller
  turn : Turn
  portIsOpen : Bool
  stopped : Bool
  reader : Reader
  connectionLost : Bool
  /-- For the record: `WriteToDevice` has returned `false`. -/
  failed : Bool

namespace WriteAttempt
open AdapterMessageQueue (Output noteReply)

/-- The message has its entry; the connection may be in any state. -/
def start (output : Output) (portIsOpen stopped : Bool) (reader : Reader) : WriteAttempt where
  entry := .ofMessage output.toMessage
  listed := output.toMessage.message ≠ MsgCode.startBootloader
  bySendCommand := match output with
    | .transmission .. => false
    | .command .. => true
  caller := .inserted
  turn := .unqueued
  portIsOpen := portIsOpen
  stopped := stopped
  reader := reader
  connectionLost := false
  failed := false

/-! ### `Write` and `SendCommand` -/

/-- `Push`, unless the write queue is full. -/
def push (s : WriteAttempt) (full : Bool) : WriteAttempt :=
  if s.caller = .inserted then
    { s with caller := .pushed, turn := if full then .unqueued else .queued }
  else s

/-- Whether to wait. -/
def proceed (s : WriteAttempt) : WriteAttempt :=
  if s.caller = .pushed then
    { s with caller := if s.entry.message.fireAndForget then .returned true else .waiting }
  else s

/-- `Wait` returns what it was signalled. -/
def wake (s : WriteAttempt) : WriteAttempt :=
  if s.caller = .waiting ∧ s.entry.succeeded then { s with caller := .waited true } else s

/-- `Wait` returns because the time is up. -/
def timeOut (s : WriteAttempt) : WriteAttempt :=
  if s.caller = .waiting ∧ s.entry.succeeded = false then { s with caller := .timedOut } else s

/-- Nobody has acknowledged the message in time. -/
def mark (s : WriteAttempt) : WriteAttempt :=
  if s.caller = .timedOut then
    { s with entry := s.entry.setState .sentNotAcked, caller := .waited false }
  else s

/-- The entry is taken out of `m_messages`, and an error in the answer is noted. -/
def erase (s : WriteAttempt) : WriteAttempt :=
  match s.caller with
  | .waited bReturn =>
    { s with entry := noteReply s.entry, listed := false, caller := .returned bReturn }
  | _ => s

/-- What the caller does with the result; `SendCommand` closes the port after an error. -/
def finish (s : WriteAttempt) : WriteAttempt :=
  match s.caller with
  | .returned bReturn =>
    let state := s.entry.message.state
    -- this will trigger an alert in the reader thread
    let closes := s.bySendCommand && !bReturn && state == .error
    { s with caller := .finished bReturn state, portIsOpen := s.portIsOpen && !closes }
  | _ => s

/-! ### `Process` of the queue -/

def pop (s : WriteAttempt) : WriteAttempt :=
  if s.turn = .queued then { s with turn := .popped } else s

/-- `IsOpen`. -/
def isOpen (s : WriteAttempt) : Bool := !s.stopped && s.portIsOpen && s.reader != .ended

/-- `WriteToDevice`; the port takes all bytes, or not. -/
def writeToDevice (s : WriteAttempt) (complete : Bool) : WriteAttempt :=
  if s.turn = .popped then
    if s.isOpen && complete then { s with entry := s.entry.setState .sent, turn := .written }
    else { s with entry := s.entry.setState .error, turn := .written, failed := true }
  else s

/-- The thread ends after an error, and after the bootloader was started. -/
def inspect (s : WriteAttempt) : WriteAttempt :=
  if s.turn = .written then
    { s with turn :=
        if s.entry.message.state = .error ∨ s.entry.messageCode = MsgCode.startBootloader then
          .signaling
        else .past }
  else s

def signal (s : WriteAttempt) : WriteAttempt :=
  if s.turn = .signaling then { s with entry := s.entry.signal, turn := .past } else s

/-- `Clear`, by this thread or by another one. -/
def clear (s : WriteAttempt) : WriteAttempt :=
  { s with listed := false, turn := if s.turn = .queued then .unqueued else s.turn }

/-- `CheckTimedOutMessages`, when the time of the entry is up or not. -/
def checkTimedOutMessages (s : WriteAttempt) (expired : Bool) : WriteAttempt :=
  { s with listed := s.listed && !QueueState.timedOutOrSucceeded expired s.entry }

/-! ### The reader thread -/

/-- `MessageReceived`, as far as it gets to this entry. -/
def received (s : WriteAttempt) (extended : Bool) (msg : AdapterMessage) : WriteAttempt :=
  if s.listed then { s with entry := (s.entry.messageReceived extended msg).entry } else s

/-- The reader looks whether it was stopped. -/
def loop (s : WriteAttempt) : WriteAttempt :=
  if s.reader = .looping then { s with reader := if s.stopped then .ended else .reading } else s

/-- `ReadFromDevice`, and the alert when it fails; the port reports an error, or not. -/
def read (s : WriteAttempt) (error : Bool) : WriteAttempt :=
  if s.reader = .reading then
    if s.isOpen && !error then { s with reader := .looping }
    else { s with connectionLost := true, reader := .ended }
  else s

/-! ### Interleavings -/

/-- What happens next. -/
inductive Action where
  | push (full : Bool)
  | proceed
  | wake
  | timeOut
  | mark
  | erase
  | finish
  | pop
  | writeToDevice (complete : Bool)
  | inspect
  | signal
  | clear
  | checkTimedOutMessages (expired : Bool)
  | received (extended : Bool) (msg : AdapterMessage)
  | loop
  | read (error : Bool)
  /-- The port is closed by someone else. -/
  | closePort
  /-- The reader is told to stop. -/
  | stopReader

def step (s : WriteAttempt) : Action → WriteAttempt
  | .push full => s.push full
  | .proceed => s.proceed
  | .wake => s.wake
  | .timeOut => s.timeOut
  | .mark => s.mark
  | .erase => s.erase
  | .finish => s.finish
  | .pop => s.pop
  | .writeToDevice complete => s.writeToDevice complete
  | .inspect => s.inspect
  | .signal => s.signal
  | .clear => s.clear
  | .checkTimedOutMessages expired => s.checkTimedOutMessages expired
  | .received extended msg => s.received extended msg
  | .loop => s.loop
  | .read error => s.read error
  | .closePort => { s with portIsOpen := false }
  | .stopReader => { s with stopped := true }

/-! ### What should hold -/

/-- A message that was not written is returned as an error, for which `SendCommand` closes the port, so
    that a read raises the alert. -/
def Reported (s : WriteAttempt) : Prop :=
  s.failed → ∀ bReturn state, s.caller = .finished bReturn state →
    bReturn = false ∧ state = .error ∧
      (s.bySendCommand → s.portIsOpen = false ∧
        ∀ error, s.reader = .reading → (s.step (.read error)).connectionLost)

/-- `Write` has given up waiting, and the message was not looked at yet. -/
def GivenUp (s : WriteAttempt) : Prop := s.caller = .waited false ∨ s.caller = .returned false

/-- A write that fails does so after the caller has given up. -/
def LateFailure (s : WriteAttempt) : Action → Prop
  | .writeToDevice complete => s.turn = .popped → (s.isOpen && complete) = false → s.GivenUp
  | _ => True

/-- No answer changes the state of a message that could not be written. -/
def Undisturbed (s : WriteAttempt) : Action → Prop
  | .received extended msg => s.failed → s.listed →
      (s.entry.messageReceived extended msg).entry.message.state = s.entry.message.state
  | _ => True

/-- A write fails after the caller has given up, and no answer arrives between that and the caller's
    look at the message. -/
def Late (s : WriteAttempt) (a : Action) : Prop := s.LateFailure a ∧ s.Undisturbed a

instance (s : WriteAttempt) : Decidable s.GivenUp := inferInstanceAs (Decidable (_ ∨ _))

instance decidableLate (s : WriteAttempt) : ∀ a : Action, Decidable (s.Late a)
  | .writeToDevice _ => inferInstanceAs (Decidable ((_ → _ → _) ∧ True))
  | .received .. => inferInstanceAs (Decidable (True ∧ (_ → _ → _ = _)))
  | .push _ | .proceed | .wake | .timeOut | .mark | .erase | .finish | .pop | .inspect | .signal
  | .clear | .checkTimedOutMessages _ | .loop | .read _ | .closePort | .stopReader =>
    inferInstanceAs (Decidable (True ∧ True))

/-! ### After the failure -/

/-- The result and the state that the caller of `Write` goes on with, if it does not wait any more. -/
def seen (s : WriteAttempt) : Option (Bool × MessageState) :=
  match s.caller with
  | .inserted | .pushed | .waiting | .timedOut => none
  | .waited bReturn | .returned bReturn => some (bReturn, s.entry.message.state)
  | .finished bReturn state => some (bReturn, state)

/-- The message was not written, and will not be. -/
structure AfterFailure (s : WriteAttempt) : Prop where
  failed : s.failed
  caller : s.caller ≠ .inserted
  turn : s.turn ∈ [Turn.written, .signaling, .past]
  state : s.entry.message.state = .error ∨ s.entry.message.state = .sentNotAcked

section steps

variable {s : WriteAttempt} {a : Action} {complete : Bool}

/-- A write that fails. -/
theorem writeToDevice_failed (hturn : s.turn = .popped) (hfails : (s.isOpen && complete) = false) :
    s.writeToDevice complete =
      { s with entry := s.entry.setState .error, turn := .written, failed := true } := by
  rw [writeToDevice, if_pos hturn, if_neg (by simp [hfails])]

/-- Nothing else fails. -/
theorem failed_step (h : (s.step a).failed) : s.failed ∨
    ∃ complete, a = .writeToDevice complete ∧ s.turn = .popped ∧ (s.isOpen && complete) = false := by
  cases a with
  | writeToDevice complete =>
    by_cases hturn : s.turn = .popped
    · cases hfails : s.isOpen && complete with
      | false => exact .inr ⟨complete, rfl, hturn, hfails⟩
      | true =>
        rw [step, writeToDevice, if_pos hturn, if_pos hfails] at h
        exact .inl h
    · rw [step, writeToDevice, if_neg hturn] at h
      exact .inl h
  | _ =>
    revert h
    simp only [step, push, proceed, wake, timeOut, mark, erase, finish, pop, inspect, signal, clear,
      checkTimedOutMessages, received, loop, read]
    repeat' split
    all_goals exact Or.inl

/-- An error in the answer makes no difference any more. -/
theorem state_noteReply {e : QueueEntry}
    (h : e.message.state = .error ∨ e.message.state = .sentNotAcked) :
    (noteReply e).message.state = e.message.state := by
  rw [noteReply]
  split
  · next hreply => exact (h.resolve_right hreply.2).symm
  · rfl

theorem AfterFailure.turn_ne (hs : s.AfterFailure) : s.turn ≠ .queued ∧ s.turn ≠ .popped := by
  have hturn := hs.turn
  simp only [List.mem_cons, List.not_mem_nil, or_false] at hturn
  rcases hturn with hturn | hturn | hturn <;> simp [hturn]

/-- Nothing that leaves the state and the turn alone makes a difference. -/
theorem AfterFailure.of_kept {u : WriteAttempt} (hs : s.AfterFailure)
    (hfailed : u.failed = s.failed) (hturn : u.turn = s.turn)
    (hstate : u.entry.message.state = s.entry.message.state) (hcaller : u.caller ≠ .inserted) :
    u.AfterFailure :=
  ⟨hfailed ▸ hs.failed, hcaller, hturn ▸ hs.turn, hstate ▸ hs.state⟩

theorem AfterFailure.step (hs : s.AfterFailure) (ha : s.Undisturbed a) :
    (s.step a).AfterFailure := by
  cases a with
  | push full =>
    rw [WriteAttempt.step, push, if_neg hs.caller]
    exact hs
  | proceed =>
    rw [WriteAttempt.step, proceed]
    split
    · refine hs.of_kept rfl rfl rfl ?_
      cases hreply : s.entry.message.fireAndForget <;> simp
    · exact hs
  | wake | timeOut =>
    simp only [WriteAttempt.step, wake, timeOut]
    split
    · exact hs.of_kept rfl rfl rfl (by simp)
    · exact hs
  | mark =>
    rw [WriteAttempt.step, mark]
    split
    · exact ⟨hs.failed, by simp, hs.turn, .inr rfl⟩
    · exact hs
  | erase =>
    rw [WriteAttempt.step, erase]
    split
    · exact hs.of_kept rfl rfl (state_noteReply hs.state) (by simp)
    · exact hs
  | finish =>
    rw [WriteAttempt.step, finish]
    split
    · exact hs.of_kept rfl rfl rfl (by simp)
    · exact hs
  | pop =>
    rw [WriteAttempt.step, pop, if_neg hs.turn_ne.1]
    exact hs
  | writeToDevice complete =>
    rw [WriteAttempt.step, writeToDevice, if_neg hs.turn_ne.2]
    exact hs
  | inspect =>
    rw [WriteAttempt.step, inspect]
    split
    · refine ⟨hs.failed, hs.caller, ?_, hs.state⟩
      simp only
      split <;> simp
    · exact hs
  | signal =>
    rw [WriteAttempt.step, signal]
    split
    · exact ⟨hs.failed, hs.caller, by simp, hs.state⟩
    · exact hs
  | clear => exact hs.of_kept rfl (if_neg hs.turn_ne.1) rfl hs.caller
  | received extended msg =>
    rw [WriteAttempt.step, received]
    split
    · next hlisted => exact hs.of_kept rfl rfl (ha hs.failed hlisted) hs.caller
    · exact hs
  | loop | read error =>
    simp only [WriteAttempt.step, loop, read]
    repeat' split
    all_goals exact hs.of_kept rfl rfl rfl hs.caller
  | checkTimedOutMessages expired | closePort | stopReader =>
    exact hs.of_kept rfl rfl rfl hs.caller

/-- What the caller goes on with depends on where it is, and on the state of the message. -/
theorem seen_congr {u : WriteAttempt} (hcaller : u.caller = s.caller)
    (hstate : u.entry.message.state = s.entry.message.state) : u.seen = s.seen := by
  rw [seen, hcaller, hstate, ← seen]

/-- What the caller goes on with does not change any more, and is no error if it stops waiting only
    now. -/
theorem seen_step (hs : s.AfterFailure) (ha : s.Undisturbed a) : (s.step a).seen = s.seen ∨
    s.seen = none ∧ ∀ p ∈ (s.step a).seen, p.1 = true ∨ p.2 = .sentNotAcked := by
  cases a with
  | push full =>
    rw [WriteAttempt.step, push, if_neg hs.caller]
    exact .inl rfl
  | proceed =>
    rw [WriteAttempt.step, proceed]
    by_cases hpushed : s.caller = .pushed
    · rw [if_pos hpushed]
      refine .inr ⟨by simp [seen, hpushed], ?_⟩
      cases s.entry.message.fireAndForget <;> simp [seen]
    · rw [if_neg hpushed]
      exact .inl rfl
  | wake =>
    rw [WriteAttempt.step, wake]
    by_cases hwaiting : s.caller = .waiting ∧ s.entry.succeeded
    · rw [if_pos hwaiting]
      exact .inr ⟨by simp [seen, hwaiting.1], by simp [seen]⟩
    · rw [if_neg hwaiting]
      exact .inl rfl
  | timeOut =>
    rw [WriteAttempt.step, timeOut]
    by_cases hwaiting : s.caller = .waiting ∧ s.entry.succeeded = false
    · rw [if_pos hwaiting]
      exact .inl (by simp [seen, hwaiting.1])
    · rw [if_neg hwaiting]
      exact .inl rfl
  | mark =>
    rw [WriteAttempt.step, mark]
    by_cases htimedOut : s.caller = .timedOut
    · rw [if_pos htimedOut]
      exact .inr ⟨by simp [seen, htimedOut], by simp [seen, QueueEntry.setState]⟩
    · rw [if_neg htimedOut]
      exact .inl rfl
  | erase =>
    rw [WriteAttempt.step, erase]
    split
    · next hwaited => exact .inl (by simp [seen, hwaited, state_noteReply hs.state])
    · exact .inl rfl
  | finish =>
    rw [WriteAttempt.step, finish]
    split
    · next hreturned => exact .inl (by simp [seen, hreturned])
    · exact .inl rfl
  | received extended msg =>
    rw [WriteAttempt.step, received]
    split
    · next hlisted => exact .inl (seen_congr rfl (ha hs.failed hlisted))
    · exact .inl rfl
  | writeToDevice complete =>
    rw [WriteAttempt.step, writeToDevice, if_neg hs.turn_ne.2]
    exact .inl rfl
  | pop | inspect | signal | loop | read error | clear | checkTimedOutMessages expired | closePort
  | stopReader =>
    refine .inl (seen_congr ?_ ?_)
    all_goals
      simp only [WriteAttempt.step, pop, inspect, signal, loop, read, clear, checkTimedOutMessages]
      repeat' split
      all_goals rfl

end steps

/-! ### Runs -/

section runs

variable {s : WriteAttempt}

/-- The port of a caller that has seen the error is closed. -/
def Closed (s : WriteAttempt) : Prop :=
  s.bySendCommand → s.caller = .finished false .error → s.portIsOpen = false

theorem closed_step (hs : s.Closed) (a : Action) : (s.step a).Closed := by
  cases a with
  | finish =>
    rw [step, finish]
    split
    · intro hsend hfinished
      obtain ⟨rfl, hstate⟩ := Caller.finished.inj hfinished
      have hcloses : (s.bySendCommand && !false && s.entry.message.state == .error) = true := by
        rw [show s.bySendCommand = true from hsend, hstate]
        rfl
      simp only [hcloses, Bool.not_true, Bool.and_false]
    · exact hs
  | closePort => exact fun _ _ => rfl
  | _ =>
    simp only [step, push, proceed, wake, timeOut, mark, erase, pop, writeToDevice, inspect, signal,
      clear, checkTimedOutMessages, received, loop, read, Closed]
    repeat' split
    all_goals first | exact hs | simp

/-- What was not written is on its way to the caller, as an error. -/
structure Inv (s : WriteAttempt) : Prop where
  closed : s.Closed
  failure : s.failed → s.AfterFailure ∧ s.seen = some (false, .error)

theorem Inv.step (hs : s.Inv) {a : Action} (ha : s.Late a) : (s.step a).Inv := by
  refine ⟨closed_step hs.closed a, fun hfailed => ?_⟩
  rcases failed_step hfailed with hfailed | ⟨complete, rfl, hturn, hfails⟩
  · obtain ⟨hafter, hseen⟩ := hs.failure hfailed
    refine ⟨hafter.step ha.2, ?_⟩
    rcases seen_step hafter ha.2 with hsame | ⟨hnone, -⟩
    · exact hsame.trans hseen
    · rw [hnone] at hseen
      cases hseen
  · have hgiven := ha.1 hturn hfails
    rw [WriteAttempt.step, writeToDevice_failed hturn hfails]
    refine ⟨⟨rfl, ?_, by simp, .inl rfl⟩, ?_⟩
    · rcases hgiven with hcaller | hcaller <;> simp [hcaller]
    · rcases hgiven with hcaller | hcaller <;> simp [seen, hcaller, QueueEntry.setState]

theorem Inv.reported (hs : s.Inv) : s.Reported := by
  intro hfailed bReturn state hfinished
  have hseen := (hs.failure hfailed).2
  simp only [seen, hfinished, Option.some.injEq, Prod.mk.injEq] at hseen
  obtain ⟨rfl, rfl⟩ := hseen
  refine ⟨rfl, rfl, fun hsend => ?_⟩
  have hport := hs.closed hsend hfinished
  refine ⟨hport, fun error hreading => ?_⟩
  rw [WriteAttempt.step, read, if_pos hreading, if_neg (by simp [isOpen, hport])]

end runs

/-- In every run in which a write fails only after the caller has given up, and no answer arrives for
    the message any more, the failure is reported. -/
theorem reported_run (output : Output) (portIsOpen stopped : Bool) (reader : Reader)
    (run : List Action) (h : Guarded step Late (start output portIsOpen stopped reader) run) :
    Reported (run.foldl step (start output portIsOpen stopped reader)) := by
  have hstart : (start output portIsOpen stopped reader).Inv :=
    ⟨fun _ hcaller => by simp [start] at hcaller, fun hfailed => by simp [start] at hfailed⟩
  exact (h.invariant (fun _ => Inv) hstart fun _ _ _ hs ha => hs.step ha).reported

/-- A ping that is not sent in time, and whose write fails just when its caller gives up. -/
theorem reported_late :
    let s := [Action.push false, .proceed, .pop, .timeOut, .mark, .writeToDevice false, .inspect,
      .signal, .erase, .finish].foldl step (start (.command MsgCode.ping []) true false .reading)
    s.failed ∧ s.caller = .finished false .error ∧ s.Reported :=
  ⟨by decide +kernel, by decide +kernel, reported_run (.command MsgCode.ping []) true false .reading _
    (by decide +kernel)⟩

/-- A ping whose write fails while its caller waits: `Write` returns `true`. -/
theorem not_reported : ¬ ∀ (output : Output) (portIsOpen stopped : Bool) (reader : Reader)
    (run : List Action), Reported (run.foldl step (start output portIsOpen stopped reader)) := by
  intro h
  have hreported := h (.command MsgCode.ping []) true false .reading
    [.push false, .proceed, .pop, .writeToDevice false, .inspect, .signal, .wake, .erase, .finish]
  have hfinished := hreported (by decide +kernel) true .error (by decide +kernel)
  exact absurd hfinished.1.symm Bool.false_ne_true

/-- A failure that comes before the caller has given up. -/
def Early (s : WriteAttempt) : Prop :=
  s.caller ≠ .inserted ∧ ∀ p ∈ s.seen, p.1 = true

/-- A failure that comes earlier reaches nobody: `Write` returns `true`, or a message that was not
    acked. -/
theorem lost_of_early {s : WriteAttempt} {complete : Bool} (hturn : s.turn = .popped)
    (hfails : (s.isOpen && complete) = false) (hearly : s.Early) (run : List Action)
    (h : Guarded step Undisturbed (s.step (.writeToDevice complete)) run) {bReturn : Bool}
    {state : MessageState}
    (hfinished : (run.foldl step (s.step (.writeToDevice complete))).caller =
      .finished bReturn state) : bReturn = true ∨ state = .sentNotAcked := by
  have hinv := h.invariant
    (fun _ (s : WriteAttempt) => s.AfterFailure ∧ ∀ p ∈ s.seen, p.1 = true ∨ p.2 = .sentNotAcked)
    ?_ ?_
  · exact hinv.2 (bReturn, state) (by simp [seen, hfinished])
  · rw [step, writeToDevice_failed hturn hfails]
    refine ⟨⟨rfl, hearly.1, by simp, .inl rfl⟩, fun p hp => .inl ?_⟩
    have hseen := hearly.2
    cases hcaller : s.caller with
    | inserted | pushed | waiting | timedOut => simp [seen, hcaller] at hp
    | waited b | returned b | finished b state =>
      simp only [seen, hcaller, Option.mem_def, Option.some.injEq, forall_eq'] at hp hseen
      rw [← hp]
      exact hseen
  · rintro - s a ⟨hafter, hseen⟩ ha
    refine ⟨hafter.step ha, ?_⟩
    rcases seen_step hafter ha with hsame | ⟨-, hlost⟩
    · rwa [hsame]
    · exact hlost

end WriteAttempt

end CEC
