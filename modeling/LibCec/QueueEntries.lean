import LibCec.AddressPoll
import LibCec.Attribution
import LibCec.PacketCount
import LibCec.Schemes.ManualHeap
import LibCec.Schemes.Schedule

/-! Who deletes the entries of the message queue, and their messages.

    An entry is in `m_messages` and in the write queue, and the thread that has called `Write` and
    the queue thread both hold it; each of them goes on at its own pace:

        Write    created ─▶ inserted ─ Push ▶ pushed ─┬─ reply ─▶ idle
                                                      └▶ waiting ─ Wait ▶ waited ─ erase ▶ erased
                   idle ◀─ delete message ─ returned ◀─ delete entry ─┘
        Process  looping ─▶ polling ─ Pop ▶ popped ─ WriteToDevice ▶ written ─┬▶ checking ─▶ looping
                                                  ended ◀─ clearing ◀─ signaling ◀┘ error, bootloader

    `Write` deletes the entry of a command when its wait is over, and `CheckTimedOutMessages`
    deletes that of a reply, for which nobody waits. -/

namespace CEC
open Schemes

namespace AdapterMessageQueue

/-- Where a thread is in `Write`, or in the function that has called it. -/
inductive Stage where
  | idle
  | created (r : ℕ)
  | inserted (r : ℕ)
  | pushed (r : ℕ)
  | waiting (r : ℕ)
  | waited (r : ℕ)
  | erased (r : ℕ)
  | returned (r : ℕ)
  deriving DecidableEq

/-- The message that the thread is going to use. -/
def Stage.message : Stage → Option ℕ
  | .idle => none
  | .created r | .inserted r | .pushed r | .waiting r | .waited r | .erased r | .returned r => some r

/-- The entry that the thread is going to use. -/
def Stage.entry : Stage → Option ℕ
  | .idle | .returned _ => none
  | .created r | .inserted r | .pushed r | .waiting r | .waited r | .erased r => some r

/-- Where the queue thread is in `Process`. -/
inductive Processing where
  | looping
  | polling
  | popped (r : ℕ)
  | written (r : ℕ)
  | signaling (r : ℕ)
  | clearing
  | checking
  | ended
  deriving DecidableEq

/-- The entry that the queue thread is going to use. -/
def Processing.entry : Processing → Option ℕ
  | .popped r | .written r | .signaling r => some r
  | .looping | .polling | .clearing | .checking | .ended => none

/-- What is written: a CEC command, or a command for the adapter itself. -/
inductive Output where
  | transmission (data : Command) (iLineTimeout : UInt8) (bIsReply : Bool)
  | command (msgCode : MsgCode) (params : List UInt8)
  deriving DecidableEq

/-- The message that `CUSBCECAdapterCommunication::Write`, or `SendCommand`, makes of it. -/
def Output.toMessage : Output → AdapterMessage
  | .transmission data iLineTimeout bIsReply => QueueState.transmission data iLineTimeout bIsReply
  | .command msgCode params =>
    let output := (AdapterMessage.clear.pushBack msgStart).pushEscaped msgCode
    let output := { output with txData := output.txData.pushAll params }.pushBack msgEnd
    { output with state := .waitingToBeSent }

end AdapterMessageQueue

open AdapterMessageQueue in
/-- `CCECAdapterMessageQueue`, and the threads that use its entries. -/
structure AdapterMessageQueue where
  messages : List ℕ
  writeQueue : List ℕ
  /-- The entries, with what is in their messages. -/
  entries : ManualHeap QueueEntry
  /-- The messages themselves. -/
  outputs : ManualHeap Unit
  writers : ℕ → Stage
  processing : Processing
  stopped : Bool

namespace AdapterMessageQueue

def initial : AdapterMessageQueue := ⟨[], [], .empty, .empty, fun _ => .idle, .looping, false⟩

def moveTo (s : AdapterMessageQueue) (t : ℕ) (stage : Stage) : AdapterMessageQueue :=
  { s with writers := Function.update s.writers t stage }

theorem moveTo_writers (s : AdapterMessageQueue) (t t' : ℕ) (stage : Stage) :
    (s.moveTo t stage).writers t' = if t' = t then stage else s.writers t' := by
  simp [moveTo, Function.update_apply]

/-- An entry and its message are used. -/
def useEntry (s : AdapterMessageQueue) (r : ℕ) (f : QueueEntry → QueueEntry) :
    AdapterMessageQueue :=
  { s with entries := s.entries.use r f, outputs := s.outputs.touch r }

/-- Only the message is used. -/
def useMessage (s : AdapterMessageQueue) (r : ℕ) : AdapterMessageQueue :=
  { s with outputs := s.outputs.touch r }

/-- Nobody waits for the entry: `bFireAndForget` is set. -/
def isReply (s : AdapterMessageQueue) (r : ℕ) : Bool :=
  (s.entries.cell r).any (·.message.fireAndForget)

def isBootloader (s : AdapterMessageQueue) (r : ℕ) : Bool :=
  (s.entries.cell r).any (·.message.message = MsgCode.startBootloader)

/-! ### `Write` -/

/-- A new entry for a new message. -/
def create (s : AdapterMessageQueue) (t : ℕ) (output : Output) : AdapterMessageQueue :=
  { s with
    entries := s.entries.create (.ofMessage output.toMessage)
    outputs := s.outputs.create () }.moveTo t (.created s.entries.next)

/-- The entry is added to `m_messages`, unless it starts the bootloader. -/
def insert (s : AdapterMessageQueue) (t r : ℕ) : AdapterMessageQueue :=
  { s.useMessage r with
    messages := if s.isBootloader r then s.messages else s.messages ++ [r] }.moveTo t (.inserted r)

/-- `Push`, whose result nobody looks at. -/
def push (s : AdapterMessageQueue) (t r : ℕ) : AdapterMessageQueue :=
  { s with
    writeQueue := if s.writeQueue.length = maxSize then s.writeQueue else s.writeQueue ++ [r]
    }.moveTo t (.pushed r)

/-- Whether to wait. -/
def proceed (s : AdapterMessageQueue) (t r : ℕ) : AdapterMessageQueue :=
  (s.useMessage r).moveTo t (if s.isReply r then .idle else .waiting r)

/-- What the message is after the wait: not acked, unless there was an answer. -/
def noteWait (e : QueueEntry) : QueueEntry :=
  if e.succeeded then e else e.setState .sentNotAcked

/-- The end of the wait, which was for an answer or has timed out. -/
def wait (s : AdapterMessageQueue) (t r : ℕ) : AdapterMessageQueue :=
  (s.useEntry r noteWait).moveTo t (.waited r)

/-- The entry is taken out of `m_messages`. -/
def erase (s : AdapterMessageQueue) (t r : ℕ) : AdapterMessageQueue :=
  { s.useEntry r noteReply with
    messages := if s.isBootloader r then s.messages else s.messages.filter (· ≠ r)
    }.moveTo t (.erased r)

/-! ### `Process` -/

/-- Writing has failed, or the bootloader was started. -/
def isLast (s : AdapterMessageQueue) (r : ℕ) : Bool :=
  s.isBootloader r || (s.entries.cell r).any (·.message.state = .error)

/-- Whether an entry is deleted by `CheckTimedOutMessages`, given those whose time is up. -/
def isDue (s : AdapterMessageQueue) (expired : ℕ → Bool) (r : ℕ) : Bool :=
  (s.entries.cell r).any (QueueState.timedOutOrSucceeded (expired r))

/-- The first loop of `CheckTimedOutMessages`, and what it has collected in `timedOut`. -/
def deleteTimedOut (expired : ℕ → Bool) :
    AdapterMessageQueue → List ℕ → AdapterMessageQueue × List ℕ
  | s, [] => (s, [])
  | s, r :: rest =>
    let s' := s.useEntry r id
    if s.isDue expired r then
      let next := deleteTimedOut expired
        { s' with entries := s'.entries.delete r, outputs := s'.outputs.delete r } rest
      (next.1, r :: next.2)
    else deleteTimedOut expired s' rest

/-- `CheckTimedOutMessages`. -/
def checkTimedOutMessages (s : AdapterMessageQueue) (expired : ℕ → Bool) : AdapterMessageQueue :=
  let next := deleteTimedOut expired s s.messages
  { next.1 with messages := s.messages.filter (· ∉ next.2) }

/-- `Clear`, which nobody is told about. -/
def clear (s : AdapterMessageQueue) : AdapterMessageQueue :=
  { s with messages := [], writeQueue := [], stopped := true }

/-! ### `MessageReceived` -/

/-- The entries are offered the message until one of them handles it. -/
def messageReceived (extended : Bool) (msg : AdapterMessage) :
    AdapterMessageQueue → List ℕ → AdapterMessageQueue
  | s, [] => s
  | s, r :: rest =>
    let s' := s.useEntry r fun e => (e.messageReceived extended msg).entry
    if (s.entries.cell r).any fun e => (e.messageReceived extended msg).handled then s'
    else messageReceived extended msg s' rest

/-! ### Interleavings -/

/-- What one of the threads does next. -/
inductive Action where
  | create (t : ℕ) (output : Output)
  | insert (t : ℕ)
  | push (t : ℕ)
  | proceed (t : ℕ)
  | wait (t : ℕ)
  | erase (t : ℕ)
  | deleteEntry (t : ℕ)
  /-- The caller of `Write` has read the message, and deletes it. -/
  | deleteMessage (t : ℕ)
  /-- The queue thread looks whether it was stopped. -/
  | loop
  | pop
  /-- `Pop` has timed out. -/
  | popTimeout
  | writeToDevice (written : Bool)
  /-- The queue thread looks whether the message was the last one. -/
  | inspect
  | signal
  | processClear
  | check (expired : ℕ → Bool)
  /-- The reader has a message from the adapter. -/
  | received (extended : Bool) (msg : AdapterMessage)
  /-- `Clear` by some other thread. -/
  | clear

/-- The next step of a thread in `Write`. -/
def writerStep (s : AdapterMessageQueue) : Action → Option AdapterMessageQueue
  | .create t output => if s.writers t = .idle then some (s.create t output) else none
  | .insert t =>
    match s.writers t with
    | .created r => some (s.insert t r)
    | _ => none
  | .push t =>
    match s.writers t with
    | .inserted r => some (s.push t r)
    | _ => none
  | .proceed t =>
    match s.writers t with
    | .pushed r => some (s.proceed t r)
    | _ => none
  | .wait t =>
    match s.writers t with
    | .waiting r => some (s.wait t r)
    | _ => none
  | .erase t =>
    match s.writers t with
    | .waited r => some (s.erase t r)
    | _ => none
  | .deleteEntry t =>
    match s.writers t with
    | .erased r => some ({ s with entries := s.entries.delete r }.moveTo t (.returned r))
    | _ => none
  | .deleteMessage t =>
    match s.writers t with
    | .returned r => some ({ s with outputs := s.outputs.delete r }.moveTo t .idle)
    | _ => none
  | _ => none

/-- The next step of the queue thread. -/
def processStep (s : AdapterMessageQueue) : Action → Option AdapterMessageQueue
  | .loop =>
    if s.processing = .looping then
      some { s with processing := if s.stopped then .ended else .polling }
    else none
  | .pop =>
    match s.processing, s.writeQueue with
    | .polling, r :: rest => some { s with writeQueue := rest, processing := .popped r }
    | _, _ => none
  | .popTimeout =>
    if s.processing = .polling then some { s with processing := .checking } else none
  | .writeToDevice written =>
    match s.processing with
    | .popped r =>
      some { s.useEntry r (·.setState (if written then .sent else .error)) with
        processing := .written r }
    | _ => none
  | .inspect =>
    match s.processing with
    | .written r =>
      some { s.useEntry r id with processing := if s.isLast r then .signaling r else .checking }
    | _ => none
  | .signal =>
    match s.processing with
    | .signaling r => some { s.useEntry r QueueEntry.signal with processing := .clearing }
    | _ => none
  | .processClear =>
    if s.processing = .clearing then some { s.clear with processing := .ended } else none
  | .check expired =>
    if s.processing = .checking then
      some { s.checkTimedOutMessages expired with processing := .looping }
    else none
  | _ => none

/-- The next step of any other thread. -/
def otherStep (s : AdapterMessageQueue) : Action → Option AdapterMessageQueue
  | .received extended msg => some (messageReceived extended msg s s.messages)
  | .clear => some s.clear
  | _ => none

def step (s : AdapterMessageQueue) (a : Action) : Option AdapterMessageQueue :=
  ((s.writerStep a).or (s.processStep a)).or (s.otherStep a)

/-! ### Owners -/

/-- Whoever is going to delete the entry: `CheckTimedOutMessages` if nobody waits for it, and
    `Write` otherwise. -/
def Owned (s : AdapterMessageQueue) (r : ℕ) : Prop :=
  s.isReply r ∧ (r ∈ s.messages ∧ s.processing ≠ .ended ∨ ∃ t, s.writers t = .created r) ∨
    s.isReply r = false ∧ ∃ t, (s.writers t).entry = some r

/-- No entry and no message was used or deleted after it was deleted, none that somebody is going to
    use was deleted, and each one that is left is going to be. -/
structure Proper (s : AdapterMessageQueue) : Prop where
  unfaulted : s.entries.fault = false ∧ s.outputs.fault = false
  listed : ∀ r ∈ s.messages, s.entries.isLive r ∧ s.outputs.isLive r
  queued : ∀ r ∈ s.writeQueue, s.entries.isLive r ∧ s.outputs.isLive r
  processed : ∀ r, s.processing.entry = some r → s.entries.isLive r ∧ s.outputs.isLive r
  held : ∀ t r, (s.writers t).entry = some r → s.entries.isLive r ∧ s.outputs.isLive r
  owned : ∀ r, s.entries.isLive r → s.Owned r
  read : ∀ r, s.outputs.isLive r → s.entries.isLive r ∨ ∃ t, s.writers t = .returned r

/-- The queue thread has written the entry, and does not use it any more. -/
def Through (s : AdapterMessageQueue) (r : ℕ) : Prop :=
  r ∉ s.writeQueue ∧ s.processing.entry ≠ some r

/-- No reply is in `m_messages`. -/
def NoReply (s : AdapterMessageQueue) : Prop := ∀ r ∈ s.messages, s.isReply r = false

/-- The wait for a command does not end before the queue thread is through with it, replies are
    looked at when they have been written and `Write` has returned, and none is in `m_messages` when
    the queue is cleared or its thread has ended. -/
def Timely (s : AdapterMessageQueue) : Action → Prop
  | .insert t => ∀ r, s.writers t = .created r → s.isReply r → s.processing ≠ .ended
  | .wait t => ∀ r, s.writers t = .waiting r → s.Through r
  | .loop => s.stopped → s.NoReply
  | .clear | .processClear => s.NoReply
  | .check expired => ∀ r ∈ s.messages, s.isDue expired r →
      r ∉ s.writeQueue ∧ ∀ t, (s.writers t).entry ≠ some r
  | _ => True

/-! ### What a step leaves as it is -/

section frame

variable {s u : AdapterMessageQueue} {r i t : ℕ} {f : QueueEntry → QueueEntry}

@[simp] theorem useEntry_messages : (s.useEntry r f).messages = s.messages := rfl

@[simp] theorem useEntry_writeQueue : (s.useEntry r f).writeQueue = s.writeQueue := rfl

@[simp] theorem useEntry_writers : (s.useEntry r f).writers = s.writers := rfl

@[simp] theorem useEntry_processing : (s.useEntry r f).processing = s.processing := rfl

/-- What the message is for does not change. -/
def Preserving (f : QueueEntry → QueueEntry) : Prop :=
  ∀ e, (f e).message.fireAndForget = e.message.fireAndForget ∧
    (f e).message.txData = e.message.txData

theorem preserving_id : Preserving id := fun _ => ⟨rfl, rfl⟩

theorem preserving_setState (state : MessageState) : Preserving (·.setState state) :=
  fun _ => ⟨rfl, rfl⟩

theorem preserving_signal : Preserving QueueEntry.signal := fun _ => ⟨rfl, rfl⟩

theorem preserving_noteWait : Preserving noteWait := fun e => by
  unfold noteWait
  split
  · exact ⟨rfl, rfl⟩
  · exact preserving_setState _ e

theorem preserving_noteReply : Preserving noteReply := fun e => by
  unfold noteReply
  split
  · exact preserving_setState _ e
  · exact ⟨rfl, rfl⟩

theorem preserving_messageReceived (extended : Bool) (msg : AdapterMessage) :
    Preserving fun e => (e.messageReceived extended msg).entry := fun e => by
  simp only [QueueEntry.messageReceived, QueueEntry.messageReceivedCommandAccepted,
    QueueEntry.messageReceivedTransmitSucceeded, QueueEntry.messageReceivedResponse]
  repeat' split
  all_goals exact ⟨rfl, rfl⟩

/-- What others know of an entry is what it was. -/
structure Kept (s u : AdapterMessageQueue) (r : ℕ) : Prop where
  entry : u.entries.isLive r = s.entries.isLive r
  output : u.outputs.isLive r = s.outputs.isLive r
  isReply : u.isReply r = s.isReply r
  isBootloader : u.isBootloader r = s.isBootloader r

theorem Kept.of_cell (hentry : u.entries.cell r = s.entries.cell r)
    (houtput : u.outputs.isLive r = s.outputs.isLive r) : Kept s u r := by
  refine ⟨?_, houtput, ?_, ?_⟩
  · rw [ManualHeap.isLive, hentry, ManualHeap.isLive]
  · rw [AdapterMessageQueue.isReply, hentry, AdapterMessageQueue.isReply]
  · rw [AdapterMessageQueue.isBootloader, hentry, AdapterMessageQueue.isBootloader]

theorem Kept.useEntry (hf : Preserving f) : Kept s (s.useEntry r f) i := by
  rcases eq_or_ne i r with rfl | hi
  swap
  · exact .of_cell ((ManualHeap.cell_use ..).trans (if_neg hi)) (ManualHeap.isLive_use ..)
  have hcell : (s.useEntry i f).entries.cell i = (s.entries.cell i).map f :=
    (ManualHeap.cell_use ..).trans (if_pos rfl)
  refine ⟨ManualHeap.isLive_use .., ManualHeap.isLive_use .., ?_, ?_⟩
  · rw [AdapterMessageQueue.isReply, hcell, Option.any_map, AdapterMessageQueue.isReply]
    congr 1
    funext e
    exact (hf e).1
  · rw [AdapterMessageQueue.isBootloader, hcell, Option.any_map, AdapterMessageQueue.isBootloader]
    congr 1
    funext e
    have hmessage : (f e).message.message = e.message.message := by
      unfold AdapterMessage.message AdapterMessage.size AdapterMessage.byteAt
      rw [(hf e).2]
    rw [hmessage]

theorem isLive_of_isReply (h : s.isReply r) : s.entries.isLive r := by
  rw [ManualHeap.isLive]
  rw [isReply] at h
  cases hcell : s.entries.cell r with
  | none =>
    rw [hcell] at h
    cases h
  | some e => rfl

end frame

/-! ### The invariant -/

/-- What the stage of the thread that holds a message says of it. -/
def Fits (s : AdapterMessageQueue) (r : ℕ) : Stage → Prop
  | .idle => True
  | .created _ => s.entries.isLive r ∧ r ∉ s.messages
  | .inserted _ | .pushed _ => s.entries.isLive r
  | .waiting _ => s.entries.isLive r ∧ s.isReply r = false
  | .waited _ => s.entries.isLive r ∧ s.isReply r = false ∧ s.Through r
  | .erased _ => s.entries.isLive r ∧ s.isReply r = false ∧ s.Through r ∧ r ∉ s.messages
  | .returned _ => s.outputs.isLive r ∧ s.entries.isLive r = false

/-- Who has to do with an entry and its message. -/
structure Accounted (s : AdapterMessageQueue) (r : ℕ) : Prop where
  paired : s.entries.isLive r → s.outputs.isLive r
  listed : r ∈ s.messages → s.entries.isLive r ∧ s.isBootloader r = false
  queued : r ∈ s.writeQueue → s.entries.isLive r
  processed : s.processing.entry = some r → s.entries.isLive r
  fits : ∀ t, (s.writers t).message = some r → s.Fits r (s.writers t)
  unique : ∀ t t', (s.writers t).message = some r → (s.writers t').message = some r → t' = t
  plain : s.isReply r → s.isBootloader r = false
  owned : s.entries.isLive r → s.Owned r
  read : s.outputs.isLive r → s.entries.isLive r ∨ ∃ t, s.writers t = .returned r

/-- What holds as long as the waits are timely. -/
structure Sound (s : AdapterMessageQueue) : Prop where
  unfaulted : s.entries.fault = false ∧ s.outputs.fault = false
  level : s.outputs.next = s.entries.next
  nodup : s.messages.Nodup
  accounted : ∀ r, Accounted s r

theorem sound_initial : Sound initial where
  unfaulted := ⟨rfl, rfl⟩
  level := rfl
  nodup := List.nodup_nil
  accounted r := by
    refine ⟨fun h => ?_, fun h => ?_, fun h => ?_, fun h => ?_, fun t h => ?_, fun t t' h => ?_,
      fun h => ?_, fun h => ?_, fun h => ?_⟩
    all_goals cases h

theorem Stage.message_of_entry {stage : Stage} {r : ℕ} (h : stage.entry = some r) :
    stage.message = some r := by
  cases stage with
  | idle => cases h
  | returned i => cases h
  | created _ | inserted _ | pushed _ | waiting _ | waited _ | erased _ => exact h

section steps

variable {s u : AdapterMessageQueue} {t r i : ℕ}

/-- A step of others than the thread that holds the message. -/
theorem Accounted.congr (hs : Accounted s r) (hkept : Kept s u r)
    (hlist : r ∈ u.messages → r ∈ s.messages) (hqueue : r ∈ u.writeQueue → s.entries.isLive r)
    (hproc : u.processing.entry = some r → s.entries.isLive r)
    (hthrough : s.Through r → u.Through r)
    (hstill : s.isReply r → r ∈ s.messages → s.processing ≠ .ended →
      r ∈ u.messages ∧ u.processing ≠ .ended)
    (hwriters : ∀ t, u.writers t = s.writers t ∨
      (s.writers t).message ≠ some r ∧ (u.writers t).message ≠ some r) : Accounted u r := by
  obtain ⟨hentry, houtput, hreply, hboot⟩ := hkept
  have hsame : ∀ {t}, (u.writers t).message = some r → u.writers t = s.writers t := fun {t} h => by
    rcases hwriters t with hsame | ⟨-, hnot⟩
    · exact hsame
    · exact absurd h hnot
  have hback : ∀ {t}, (s.writers t).message = some r → u.writers t = s.writers t := fun {t} h => by
    rcases hwriters t with hsame | ⟨hnot, -⟩
    · exact hsame
    · exact absurd h hnot
  refine ⟨fun h => ?_, fun h => ?_, fun h => ?_, fun h => ?_, fun t h => ?_, fun t t' h h' => ?_,
    fun h => ?_, fun h => ?_, fun h => ?_⟩
  · rw [houtput]
    exact hs.paired (hentry ▸ h)
  · rw [hentry, hboot]
    exact hs.listed (hlist h)
  · rw [hentry]
    exact hqueue h
  · rw [hentry]
    exact hproc h
  · have hfits := hs.fits t (hsame h ▸ h)
    rw [hsame h]
    cases hstage : s.writers t with
    | idle => trivial
    | inserted j | pushed j =>
      rw [hstage] at hfits
      exact hentry.trans hfits
    | created j =>
      rw [hstage] at hfits
      exact ⟨hentry.trans hfits.1, fun h => hfits.2 (hlist h)⟩
    | waiting j =>
      rw [hstage] at hfits
      exact ⟨hentry.trans hfits.1, hreply.trans hfits.2⟩
    | waited j =>
      rw [hstage] at hfits
      exact ⟨hentry.trans hfits.1, hreply.trans hfits.2.1, hthrough hfits.2.2⟩
    | erased j =>
      rw [hstage] at hfits
      obtain ⟨h₁, h₂, h₃, h₄⟩ := hfits
      exact ⟨hentry.trans h₁, hreply.trans h₂, hthrough h₃, fun h => h₄ (hlist h)⟩
    | returned j =>
      rw [hstage] at hfits
      exact ⟨houtput.trans hfits.1, hentry.trans hfits.2⟩
  · exact hs.unique t t' (hsame h ▸ h) (hsame h' ▸ h')
  · rw [hboot]
    exact hs.plain (hreply ▸ h)
  · rcases hs.owned (hentry ▸ h) with ⟨hr, ⟨hin, hrun⟩ | ⟨t, ht⟩⟩ | ⟨hr, t, ht⟩
    · exact .inl ⟨hreply.trans hr, .inl (hstill hr hin hrun)⟩
    · refine .inl ⟨hreply.trans hr, .inr ⟨t, ?_⟩⟩
      rw [hback (by rw [ht]; rfl), ht]
    · refine .inr ⟨hreply.trans hr, t, ?_⟩
      rw [hback (Stage.message_of_entry ht), ht]
  · rcases hs.read (houtput ▸ h) with hlive | ⟨t, ht⟩
    · exact .inl (hentry.trans hlive)
    · refine .inr ⟨t, ?_⟩
      rw [hback (by rw [ht]; rfl), ht]

/-- A step of the thread that holds the message, after which the entry is still there. -/
theorem Accounted.advance {stage : Stage} (hs : Accounted s r) (hlive : s.entries.isLive r)
    (ht : (s.writers t).message = some r) (hkept : Kept s u r)
    (hwriters : u.writers = (s.moveTo t stage).writers)
    (hlist : r ∈ u.messages → s.isBootloader r = false)
    (hfits : stage.message = some r → u.Fits r stage) (howned : u.Owned r) : Accounted u r := by
  obtain ⟨hentry, houtput, hreply, hboot⟩ := hkept
  have hthread : ∀ t', (u.writers t').message = some r → t' = t := fun t' h => by
    rw [hwriters, moveTo_writers] at h
    by_contra hne
    rw [if_neg hne] at h
    exact hne (hs.unique t t' ht h)
  have hlive' := hentry.trans hlive
  refine ⟨fun _ => houtput.trans (hs.paired hlive), fun h => ⟨hlive', hboot.trans (hlist h)⟩,
    fun _ => hlive', fun _ => hlive', fun t' h => ?_, fun t₁ t₂ h₁ h₂ => ?_, fun h => ?_,
    fun _ => howned, fun _ => .inl hlive'⟩
  · obtain rfl := hthread t' h
    rw [hwriters, moveTo_writers, if_pos rfl] at h ⊢
    exact hfits h
  · exact (hthread t₂ h₂).trans (hthread t₁ h₁).symm
  · exact hboot.trans (hs.plain (hreply ▸ h))

/-- Whoever uses an entry, or its message, leaves everything else as it is. -/
theorem Sound.useEntry {f : QueueEntry → QueueEntry} (hs : Sound s) (hlive : s.entries.isLive r)
    (hf : Preserving f) : Sound (s.useEntry r f) where
  unfaulted := ⟨(ManualHeap.fault_use hlive f).trans hs.unfaulted.1,
    (ManualHeap.fault_use ((hs.accounted r).paired hlive) id).trans hs.unfaulted.2⟩
  level := hs.level
  nodup := hs.nodup
  accounted i := (hs.accounted i).congr (.useEntry hf) id (hs.accounted i).queued
    (hs.accounted i).processed id (fun _ h h' => ⟨h, h'⟩) fun _ => .inl rfl

theorem Sound.useMessage (hs : Sound s) (hlive : s.outputs.isLive r) : Sound (s.useMessage r) where
  unfaulted := ⟨hs.unfaulted.1, (ManualHeap.fault_use hlive id).trans hs.unfaulted.2⟩
  level := hs.level
  nodup := hs.nodup
  accounted i := (hs.accounted i).congr (.of_cell rfl (ManualHeap.isLive_use ..)) id
    (hs.accounted i).queued (hs.accounted i).processed id (fun _ h h' => ⟨h, h'⟩) fun _ => .inl rfl

/-- An entry that is not there yet. -/
theorem Sound.unborn (hs : Sound s) : ∀ r, s.entries.next ≤ r →
    r ∉ s.messages ∧ r ∉ s.writeQueue ∧ s.processing.entry ≠ some r ∧
      ∀ t, (s.writers t).message ≠ some r := by
  intro r hr
  have hentry : ¬s.entries.isLive r := fun h =>
    absurd (ManualHeap.lt_next_of_isLive h) (Nat.not_lt.mpr hr)
  have houtput : ¬s.outputs.isLive r := fun h =>
    absurd (ManualHeap.lt_next_of_isLive h) (Nat.not_lt.mpr (hs.level ▸ hr))
  have hnew := hs.accounted r
  refine ⟨fun h => hentry (hnew.listed h).1, fun h => hentry (hnew.queued h),
    fun h => hentry (hnew.processed h), fun t h => ?_⟩
  have hfits := hnew.fits t h
  cases hstage : s.writers t with
  | idle =>
    rw [hstage] at h
    cases h
  | inserted j | pushed j =>
    rw [hstage] at hfits
    exact hentry hfits
  | created j | waiting j | waited j | erased j =>
    rw [hstage] at hfits
    exact hentry hfits.1
  | returned j =>
    rw [hstage] at hfits
    exact houtput hfits.1

/-! ### The steps of `Write` -/

/-- A thread that holds no other message. -/
theorem moveTo_same {stage : Stage} (hold : ∀ j, (s.writers t).message = some j → j = r)
    (hnew : ∀ j, stage.message = some j → j = r) (hi : i ≠ r) (t' : ℕ) :
    (s.moveTo t stage).writers t' = s.writers t' ∨
      (s.writers t').message ≠ some i ∧ ((s.moveTo t stage).writers t').message ≠ some i := by
  rw [moveTo_writers]
  split
  · next h =>
    subst h
    exact .inr ⟨fun h => hi (hold i h), fun h => hi (hnew i h)⟩
  · exact .inl rfl

theorem eq_of_some {o : Option ℕ} (h : o = some r) {j : ℕ} (hj : o = some j) : j = r :=
  Option.some.inj (hj.symm.trans h)

/-- A reply that was inserted is going to be looked at. -/
theorem Accounted.waits (hs : Accounted s r) (hlive : s.entries.isLive r)
    (ht : (s.writers t).message = some r) (hcreated : s.writers t ≠ .created r)
    (hreply : s.isReply r) : r ∈ s.messages ∧ s.processing ≠ .ended := by
  rcases hs.owned hlive with ⟨-, hin | ⟨t', ht'⟩⟩ | ⟨hno, -⟩
  · exact hin
  · obtain rfl := hs.unique t' t (by rw [ht']; rfl) ht
    exact absurd ht' hcreated
  · exact absurd (hno.symm.trans hreply) Bool.false_ne_true

theorem Output.plain_of_reply (output : Output) (h : output.toMessage.fireAndForget) :
    output.toMessage.message ≠ MsgCode.startBootloader := by
  cases output with
  | transmission data iLineTimeout bIsReply =>
    intro hboot
    have htransmission : (QueueState.transmission data iLineTimeout bIsReply).isTransmission :=
      isTransmission_ofCommand data iLineTimeout
    rw [AdapterMessage.isTransmission, show (QueueState.transmission data iLineTimeout
      bIsReply).message = MsgCode.startBootloader from hboot] at htransmission
    revert htransmission
    decide
  | command msgCode params =>
    have hno : (Output.command msgCode params).toMessage.fireAndForget = false := by
      simp only [Output.toMessage, AdapterMessage.pushBack, AdapterMessage.pushEscaped]
      split <;> rfl
    exact absurd (hno.symm.trans h) Bool.false_ne_true

theorem Sound.create {output : Output} (hs : Sound s) (hidle : s.writers t = .idle) :
    Sound (s.create t output) := by
  have hnext := hs.unborn s.entries.next le_rfl
  have hcell : ∀ i, (s.create t output).entries.cell i =
      if i = s.entries.next then some (.ofMessage output.toMessage) else s.entries.cell i :=
    fun i => ManualHeap.cell_create ..
  have hwriters : ∀ t', (s.create t output).writers t' =
      if t' = t then .created s.entries.next else s.writers t' := fun t' => moveTo_writers ..
  have hout : ∀ i, (s.create t output).outputs.isLive i = (s.outputs.isLive i || i = s.entries.next) :=
    fun i => (ManualHeap.isLive_create ..).trans (by rw [hs.level])
  have hmessage : ∀ j, (s.writers t).message = some j → j = s.entries.next := fun j hj => by
    rw [hidle] at hj
    cases hj
  refine ⟨hs.unfaulted, congrArg (· + 1) hs.level, hs.nodup, fun i => ?_⟩
  rcases eq_or_ne i s.entries.next with rfl | hi
  swap
  · refine (hs.accounted i).congr (.of_cell ((hcell i).trans (if_neg hi)) ?_) id
      (hs.accounted i).queued (hs.accounted i).processed id (fun _ h h' => ⟨h, h'⟩)
      (moveTo_same hmessage (fun j hj => (Option.some.inj hj).symm) hi)
    rw [hout, decide_eq_false hi, Bool.or_false]
  obtain ⟨hlist, hqueue, hproc, hthreads⟩ := hnext
  have hlive : (s.create t output).entries.isLive s.entries.next := by
    rw [ManualHeap.isLive, hcell, if_pos rfl]
    rfl
  have hstage : (s.create t output).writers t = .created s.entries.next := by
    rw [hwriters, if_pos rfl]
  have hthread : ∀ t', ((s.create t output).writers t').message = some s.entries.next → t' = t :=
    fun t' h => by
      rw [hwriters] at h
      by_contra hne
      rw [if_neg hne] at h
      exact hthreads t' h
  refine ⟨fun _ => by rw [hout]; simp, fun h => absurd h hlist, fun h => absurd h hqueue,
    fun h => absurd h hproc, fun t' h => ?_, fun t₁ t₂ h₁ h₂ => (hthread t₂ h₂).trans (hthread t₁ h₁).symm,
    fun h => ?_, fun _ => ?_, fun _ => .inl hlive⟩
  · obtain rfl := hthread t' h
    rw [hstage]
    exact ⟨hlive, hlist⟩
  · rw [isReply, hcell, if_pos rfl, Option.any_some] at h
    rw [isBootloader, hcell, if_pos rfl, Option.any_some, decide_eq_false_iff_not]
    exact output.plain_of_reply h
  · cases hreply : (s.create t output).isReply s.entries.next with
    | true => exact .inl ⟨hreply, .inr ⟨t, hstage⟩⟩
    | false => exact .inr ⟨hreply, t, by rw [hstage]; rfl⟩

/-- What holds of the entry of a thread that is writing. -/
theorem Sound.fits {stage : Stage} (hs : Sound s) (hstage : s.writers t = stage)
    (hr : stage.message = some r) : s.Fits r stage := by
  have hfits := (hs.accounted r).fits t (by rw [hstage, hr])
  rwa [hstage] at hfits

theorem Sound.insert (hs : Sound s) (hstage : s.writers t = .created r)
    (hrun : s.isReply r → s.processing ≠ .ended) : Sound (s.insert t r) := by
  have ht : (s.writers t).message = some r := by rw [hstage]; rfl
  obtain ⟨hlive, hnot⟩ := hs.fits hstage rfl
  have hused := hs.useMessage ((hs.accounted r).paired hlive)
  have hlist : ∀ i, i ∈ (s.insert t r).messages → i ∈ s.messages ∨ i = r ∧ s.isBootloader r = false :=
    fun i h => by
      change i ∈ (if s.isBootloader r then s.messages else s.messages ++ [r]) at h
      split at h
      · exact .inl h
      · next hboot =>
        rcases List.mem_append.mp h with h | h
        · exact .inl h
        · exact .inr ⟨List.mem_singleton.mp h, Bool.not_eq_true _ ▸ hboot⟩
  refine ⟨hused.unfaulted, hs.level, ?_, fun i => ?_⟩
  · change (if s.isBootloader r then s.messages else s.messages ++ [r]).Nodup
    split
    · exact hs.nodup
    · refine List.nodup_append.mpr ⟨hs.nodup, List.nodup_singleton r, fun a ha b hb => ?_⟩
      rintro rfl
      exact hnot (List.mem_singleton.mp hb ▸ ha)
  rcases eq_or_ne i r with rfl | hi
  · refine (hused.accounted i).advance hlive ht (.of_cell rfl rfl) rfl (fun h => ?_) (fun _ => hlive) ?_
    · rcases hlist i h with h | ⟨-, h⟩
      · exact absurd h hnot
      · exact h
    · cases hreply : s.isReply i with
      | true =>
        refine .inl ⟨hreply, .inl ⟨?_, hrun hreply⟩⟩
        change i ∈ (if s.isBootloader i then s.messages else s.messages ++ [i])
        rw [(hs.accounted i).plain hreply]
        simp
      | false =>
        refine .inr ⟨hreply, t, ?_⟩
        have hmoved : (s.insert t i).writers t = .inserted i := (moveTo_writers ..).trans (if_pos rfl)
        rw [hmoved]
        rfl
  · refine (hused.accounted i).congr (.of_cell rfl rfl) (fun h => ?_) (hused.accounted i).queued
      (hused.accounted i).processed id (fun _ h h' => ⟨?_, h'⟩)
      (moveTo_same (fun j => eq_of_some ht) (fun j => eq_of_some rfl) hi)
    · rcases hlist i h with h | ⟨h, -⟩
      · exact h
      · exact absurd h hi
    · change i ∈ (if s.isBootloader r then s.messages else s.messages ++ [r])
      split
      · exact h
      · exact List.mem_append_left _ h

/-- Only the stage of a thread that holds a message changes. -/
theorem Sound.moveTo {stage : Stage} (hs : Sound s) (hlive : s.entries.isLive r)
    (ht : (s.writers t).message = some r) (hstage : ∀ j, stage.message = some j → j = r)
    (hfits : stage.message = some r → (s.moveTo t stage).Fits r stage)
    (howned : (s.moveTo t stage).Owned r) : Sound (s.moveTo t stage) where
  unfaulted := hs.unfaulted
  level := hs.level
  nodup := hs.nodup
  accounted i := by
    rcases eq_or_ne i r with rfl | hi
    · exact (hs.accounted i).advance hlive ht (.of_cell rfl rfl) rfl
        (fun h => ((hs.accounted i).listed h).2) hfits howned
    · exact (hs.accounted i).congr (.of_cell rfl rfl) id (hs.accounted i).queued
        (hs.accounted i).processed id (fun _ h h' => ⟨h, h'⟩)
        (moveTo_same (fun j => eq_of_some ht) hstage hi)

/-- A command is the one's who holds its entry. -/
theorem owned_moveTo {stage : Stage} (hreply : s.isReply r = false) (hstage : stage.entry = some r) :
    (s.moveTo t stage).Owned r := by
  refine .inr ⟨hreply, t, ?_⟩
  rw [moveTo_writers, if_pos rfl]
  exact hstage

theorem Sound.push (hs : Sound s) (hstage : s.writers t = .inserted r) : Sound (s.push t r) := by
  have ht : (s.writers t).message = some r := by rw [hstage]; rfl
  have hlive : s.entries.isLive r := hs.fits hstage rfl
  have hqueue : ∀ i, i ∈ (s.push t r).writeQueue → i ∈ s.writeQueue ∨ i = r := fun i h => by
    change i ∈ (if s.writeQueue.length = maxSize then s.writeQueue else s.writeQueue ++ [r]) at h
    split at h
    · exact .inl h
    · simpa using h
  refine ⟨hs.unfaulted, hs.level, hs.nodup, fun i => ?_⟩
  rcases eq_or_ne i r with rfl | hi
  · refine (hs.accounted i).advance hlive ht (.of_cell rfl rfl) rfl
      (fun h => ((hs.accounted i).listed h).2) (fun _ => hlive) ?_
    cases hreply : s.isReply i with
    | true =>
      refine .inl ⟨hreply, .inl ((hs.accounted i).waits hlive ht ?_ hreply)⟩
      rw [hstage]
      simp
    | false =>
      have hmoved : (s.push t i).writers t = .pushed i := (moveTo_writers ..).trans (if_pos rfl)
      exact .inr ⟨hreply, t, by rw [hmoved]; rfl⟩
  · have hsame : i ∈ (s.push t r).writeQueue → i ∈ s.writeQueue := fun h =>
      (hqueue i h).resolve_right hi
    exact (hs.accounted i).congr (.of_cell rfl rfl) id (fun h => (hs.accounted i).queued (hsame h))
      (hs.accounted i).processed (fun h => ⟨fun hq => h.1 (hsame hq), h.2⟩) (fun _ h h' => ⟨h, h'⟩)
      (moveTo_same (fun j => eq_of_some ht) (fun j => eq_of_some rfl) hi)

theorem Sound.proceed (hs : Sound s) (hstage : s.writers t = .pushed r) : Sound (s.proceed t r) := by
  have ht : (s.writers t).message = some r := by rw [hstage]; rfl
  have hlive : s.entries.isLive r := hs.fits hstage rfl
  have hused := hs.useMessage ((hs.accounted r).paired hlive)
  unfold AdapterMessageQueue.proceed
  cases hreply : s.isReply r with
  | true =>
    refine hused.moveTo hlive ht (fun j hj => by cases hj) (fun h => by cases h) ?_
    refine .inl ⟨hreply, .inl ((hs.accounted r).waits hlive ht ?_ hreply)⟩
    rw [hstage]
    simp
  | false =>
    exact hused.moveTo hlive ht (fun j => eq_of_some rfl) (fun _ => ⟨hlive, hreply⟩)
      (owned_moveTo (s := s.useMessage r) hreply rfl)

theorem Sound.wait (hs : Sound s) (hstage : s.writers t = .waiting r) (hthrough : s.Through r) :
    Sound (s.wait t r) := by
  have ht : (s.writers t).message = some r := by rw [hstage]; rfl
  obtain ⟨hlive, hreply⟩ := hs.fits hstage rfl
  have hkept : Kept s (s.useEntry r noteWait) r := .useEntry preserving_noteWait
  refine (hs.useEntry hlive preserving_noteWait).moveTo (hkept.entry.trans hlive) ht
    (fun j => eq_of_some rfl) (fun _ => ?_) (owned_moveTo (hkept.isReply.trans hreply) rfl)
  exact ⟨hkept.entry.trans hlive, hkept.isReply.trans hreply, hthrough⟩

theorem Sound.erase (hs : Sound s) (hstage : s.writers t = .waited r) : Sound (s.erase t r) := by
  have ht : (s.writers t).message = some r := by rw [hstage]; rfl
  obtain ⟨hlive, hreply, hthrough⟩ := hs.fits hstage rfl
  have hkept : Kept s (s.useEntry r noteReply) r := .useEntry preserving_noteReply
  have hused := hs.useEntry hlive preserving_noteReply
  have hboot : s.isBootloader r → r ∉ s.messages := fun h hin =>
    absurd (((hs.accounted r).listed hin).2.symm.trans h) Bool.false_ne_true
  have hlist : ∀ i, i ∈ (s.erase t r).messages ↔ i ∈ s.messages ∧ i ≠ r := fun i => by
    change i ∈ (if s.isBootloader r then s.messages else s.messages.filter (· ≠ r)) ↔ _
    split
    · next h =>
      refine ⟨fun hi => ⟨hi, ?_⟩, And.left⟩
      rintro rfl
      exact hboot h hi
    · simp
  refine ⟨hused.unfaulted, hs.level, ?_, fun i => ?_⟩
  · change (if s.isBootloader r then s.messages else s.messages.filter (· ≠ r)).Nodup
    split
    · exact hs.nodup
    · exact hs.nodup.filter _
  rcases eq_or_ne i r with rfl | hi
  · have hlive' := hkept.entry.trans hlive
    have hreply' := hkept.isReply.trans hreply
    refine (hused.accounted i).advance hlive' ht (.of_cell rfl rfl) rfl
      (fun h => absurd rfl ((hlist i).mp h).2) (fun _ => ⟨hlive', hreply', hthrough, ?_⟩) ?_
    · exact fun h => ((hlist i).mp h).2 rfl
    · have hmoved : (s.erase t i).writers t = .erased i := (moveTo_writers ..).trans (if_pos rfl)
      exact .inr ⟨hreply', t, by rw [hmoved]; rfl⟩
  · exact (hused.accounted i).congr (.of_cell rfl rfl) (fun h => ((hlist i).mp h).1)
      (hused.accounted i).queued (hused.accounted i).processed id
      (fun _ h h' => ⟨(hlist i).mpr ⟨h, hi⟩, h'⟩)
      (moveTo_same (fun j => eq_of_some ht) (fun j => eq_of_some rfl) hi)

/-- The entry of a command is deleted when only `Write` has it. -/
theorem Sound.deleteEntry (hs : Sound s) (hstage : s.writers t = .erased r) :
    Sound ({ s with entries := s.entries.delete r }.moveTo t (.returned r)) := by
  have ht : (s.writers t).message = some r := by rw [hstage]; rfl
  obtain ⟨hlive, hreply, hthrough, hnot⟩ := hs.fits hstage rfl
  let w : AdapterMessageQueue := { s with entries := s.entries.delete r }
  refine ⟨⟨(ManualHeap.fault_delete hlive).trans hs.unfaulted.1, hs.unfaulted.2⟩, hs.level, hs.nodup,
    fun i => ?_⟩
  rcases eq_or_ne i r with rfl | hi
  swap
  · refine (hs.accounted i).congr (.of_cell ?_ rfl) id (hs.accounted i).queued
      (hs.accounted i).processed id (fun _ h h' => ⟨h, h'⟩)
      (moveTo_same (s := w) (fun j => eq_of_some ht) (fun j => eq_of_some rfl) hi)
    exact (ManualHeap.cell_delete ..).trans (if_neg hi)
  have hcell : (w.moveTo t (.returned i)).entries.cell i = none :=
    (ManualHeap.cell_delete ..).trans (if_pos rfl)
  have hdead : (w.moveTo t (.returned i)).entries.isLive i = false := by
    rw [ManualHeap.isLive, hcell]
    rfl
  have hreplies : ¬(w.moveTo t (.returned i)).isReply i := by
    rw [isReply, hcell]
    simp
  have hreturned : (w.moveTo t (.returned i)).writers t = .returned i :=
    (moveTo_writers ..).trans (if_pos rfl)
  have hthread : ∀ t', ((w.moveTo t (.returned i)).writers t').message = some i → t' = t :=
    fun t' h => by
      rw [moveTo_writers] at h
      by_contra hne
      rw [if_neg hne] at h
      exact hne ((hs.accounted i).unique t t' ht h)
  refine ⟨fun h => ?_, fun h => absurd h hnot, fun h => absurd h hthrough.1,
    fun h => absurd h hthrough.2, fun t' h => ?_,
    fun t₁ t₂ h₁ h₂ => (hthread t₂ h₂).trans (hthread t₁ h₁).symm, fun h => absurd h hreplies,
    fun h => ?_, fun _ => .inr ⟨t, hreturned⟩⟩
  · exact absurd (hdead.symm.trans h) Bool.false_ne_true
  · obtain rfl := hthread t' h
    rw [hreturned]
    exact ⟨(hs.accounted i).paired hlive, hdead⟩
  · exact absurd (hdead.symm.trans h) Bool.false_ne_true

/-- The message of a command is deleted when its entry is gone. -/
theorem Sound.deleteMessage (hs : Sound s) (hstage : s.writers t = .returned r) :
    Sound ({ s with outputs := s.outputs.delete r }.moveTo t .idle) := by
  have ht : (s.writers t).message = some r := by rw [hstage]; rfl
  obtain ⟨hlive, hdead⟩ := hs.fits hstage rfl
  let w : AdapterMessageQueue := { s with outputs := s.outputs.delete r }
  refine ⟨⟨hs.unfaulted.1, (ManualHeap.fault_delete hlive).trans hs.unfaulted.2⟩, hs.level, hs.nodup,
    fun i => ?_⟩
  rcases eq_or_ne i r with rfl | hi
  swap
  · refine (hs.accounted i).congr (.of_cell rfl ?_) id (hs.accounted i).queued
      (hs.accounted i).processed id (fun _ h h' => ⟨h, h'⟩)
      (moveTo_same (s := w) (fun j => eq_of_some ht) (fun j hj => by cases hj) hi)
    exact (ManualHeap.isLive_delete ..).trans (by simp [hi])
  have hgone : ¬s.entries.isLive i := by
    rw [hdead]
    exact Bool.false_ne_true
  have houtput : ¬(w.moveTo t .idle).outputs.isLive i := by
    have h : (s.outputs.delete i).isLive i = false := by simp
    exact fun hlive => absurd (h.symm.trans hlive) Bool.false_ne_true
  have hthread : ∀ t', ((w.moveTo t .idle).writers t').message ≠ some i := fun t' h => by
    rw [moveTo_writers] at h
    split at h
    · cases h
    · next hne => exact hne ((hs.accounted i).unique t t' ht h)
  exact ⟨fun h => absurd h hgone, fun h => absurd ((hs.accounted i).listed h).1 hgone,
    fun h => absurd ((hs.accounted i).queued h) hgone,
    fun h => absurd ((hs.accounted i).processed h) hgone, fun t' h => absurd h (hthread t'),
    fun t₁ _ h => absurd h (hthread t₁), (hs.accounted i).plain, fun h => absurd h hgone,
    fun h => absurd h houtput⟩

theorem Sound.writerStep {a : Action} (hs : Sound s) (ha : s.Timely a) (h : s.writerStep a = some u) :
    Sound u := by
  cases a with
  | create t output =>
    obtain ⟨hidle, rfl⟩ := enabled_iff.mp h
    exact hs.create hidle
  | insert t =>
    simp only [AdapterMessageQueue.writerStep] at h
    split at h
    · next r hstage =>
      obtain rfl := Option.some.inj h
      exact hs.insert hstage (ha r hstage)
    · cases h
  | push t =>
    simp only [AdapterMessageQueue.writerStep] at h
    split at h
    · next r hstage =>
      obtain rfl := Option.some.inj h
      exact hs.push hstage
    · cases h
  | proceed t =>
    simp only [AdapterMessageQueue.writerStep] at h
    split at h
    · next r hstage =>
      obtain rfl := Option.some.inj h
      exact hs.proceed hstage
    · cases h
  | wait t =>
    simp only [AdapterMessageQueue.writerStep] at h
    split at h
    · next r hstage =>
      obtain rfl := Option.some.inj h
      exact hs.wait hstage (ha r hstage)
    · cases h
  | erase t =>
    simp only [AdapterMessageQueue.writerStep] at h
    split at h
    · next r hstage =>
      obtain rfl := Option.some.inj h
      exact hs.erase hstage
    · cases h
  | deleteEntry t =>
    simp only [AdapterMessageQueue.writerStep] at h
    split at h
    · next r hstage =>
      obtain rfl := Option.some.inj h
      exact hs.deleteEntry hstage
    · cases h
  | deleteMessage t =>
    simp only [AdapterMessageQueue.writerStep] at h
    split at h
    · next r hstage =>
      obtain rfl := Option.some.inj h
      exact hs.deleteMessage hstage
    · cases h
  | _ => cases h

/-! ### The steps of the queue thread -/

/-- The queue thread moves on, and may let go of an entry. -/
theorem Sound.move {p : Processing} (hs : Sound s)
    (hentry : ∀ i, p.entry = some i → s.processing.entry = some i) (hrun : p ≠ .ended) :
    Sound { s with processing := p } where
  unfaulted := hs.unfaulted
  level := hs.level
  nodup := hs.nodup
  accounted i := (hs.accounted i).congr (.of_cell rfl rfl) id (hs.accounted i).queued
    (fun h => (hs.accounted i).processed (hentry i h)) (fun h => ⟨h.1, fun hi => h.2 (hentry i hi)⟩)
    (fun _ h _ => ⟨h, hrun⟩) fun _ => .inl rfl

theorem Sound.pop {rest : List ℕ} (hs : Sound s) (hqueue : s.writeQueue = r :: rest) :
    Sound { s with writeQueue := rest, processing := .popped r } := by
  have hrest : ∀ i, i ∈ rest → i ∈ s.writeQueue := fun i h => by
    rw [hqueue]
    exact List.mem_cons_of_mem r h
  have hr : r ∈ s.writeQueue := by
    rw [hqueue]
    exact List.mem_cons_self
  refine ⟨hs.unfaulted, hs.level, hs.nodup, fun i => ?_⟩
  refine (hs.accounted i).congr (.of_cell rfl rfl) id (fun h => (hs.accounted i).queued (hrest i h))
    (fun h => ?_) (fun h => ⟨fun hi => h.1 (hrest i hi), fun hi => ?_⟩) (fun _ h _ => ⟨h, by simp⟩)
    fun _ => .inl rfl
  · obtain rfl := Option.some.inj h
    exact (hs.accounted r).queued hr
  · obtain rfl := Option.some.inj hi
    exact h.1 hr

/-- Nothing is left in the queues; the replies would never be deleted. -/
theorem Sound.clear (hs : Sound s) (hno : s.NoReply) : Sound s.clear where
  unfaulted := hs.unfaulted
  level := hs.level
  nodup := List.nodup_nil
  accounted i := (hs.accounted i).congr (.of_cell rfl rfl) (fun h => absurd h List.not_mem_nil)
    (fun h => absurd h List.not_mem_nil) (hs.accounted i).processed
    (fun h => ⟨List.not_mem_nil, h.2⟩)
    (fun hr h _ => absurd ((hno i h).symm.trans hr) Bool.false_ne_true) fun _ => .inl rfl

/-- The queue thread ends when no reply is left. -/
theorem Sound.endThread (hs : Sound s) (hno : s.NoReply) : Sound { s with processing := .ended } where
  unfaulted := hs.unfaulted
  level := hs.level
  nodup := hs.nodup
  accounted i := (hs.accounted i).congr (.of_cell rfl rfl) id (hs.accounted i).queued
    (fun h => by cases h) (fun h => ⟨h.1, by simp [Processing.entry]⟩)
    (fun hr h _ => absurd ((hno i h).symm.trans hr) Bool.false_ne_true) fun _ => .inl rfl

/-! ### `CheckTimedOutMessages` -/

/-- Some entries were deleted, with their messages. -/
structure Deleted (s u : AdapterMessageQueue) (due : List ℕ) : Prop where
  rest : u = { s with entries := u.entries, outputs := u.outputs }
  faults : u.entries.fault = s.entries.fault ∧ u.outputs.fault = s.outputs.fault
  next : u.entries.next = s.entries.next ∧ u.outputs.next = s.outputs.next
  cell : ∀ i, u.entries.cell i = if i ∈ due then none else s.entries.cell i
  output : ∀ i, u.outputs.isLive i = (s.outputs.isLive i && i ∉ due)

theorem Deleted.touch (hentry : s.entries.isLive r) (houtput : s.outputs.isLive r) :
    Deleted s (s.useEntry r id) [] where
  rest := rfl
  faults := ⟨ManualHeap.fault_use hentry id, ManualHeap.fault_use houtput id⟩
  next := ⟨rfl, rfl⟩
  cell i := by simp [AdapterMessageQueue.useEntry]
  output i := by simp [AdapterMessageQueue.useEntry]

theorem Deleted.one (hentry : s.entries.isLive r) (houtput : s.outputs.isLive r) :
    Deleted s { s with entries := s.entries.delete r, outputs := s.outputs.delete r } [r] where
  rest := rfl
  faults := ⟨ManualHeap.fault_delete hentry, ManualHeap.fault_delete houtput⟩
  next := ⟨rfl, rfl⟩
  cell i := (ManualHeap.cell_delete ..).trans (by simp)
  output i := (ManualHeap.isLive_delete ..).trans (by simp)

theorem Deleted.trans {v : AdapterMessageQueue} {due due' : List ℕ} (h : Deleted s u due)
    (h' : Deleted u v due') : Deleted s v (due ++ due') where
  rest := by
    rw [h'.rest, h.rest]
  faults := ⟨h'.faults.1.trans h.faults.1, h'.faults.2.trans h.faults.2⟩
  next := ⟨h'.next.1.trans h.next.1, h'.next.2.trans h.next.2⟩
  cell i := by
    rw [h'.cell, h.cell]
    by_cases h₁ : i ∈ due <;> by_cases h₂ : i ∈ due' <;> simp [h₁, h₂]
  output i := by
    rw [h'.output, h.output]
    by_cases h₁ : i ∈ due <;> by_cases h₂ : i ∈ due' <;> simp [h₁, h₂]

theorem Deleted.isLive {due : List ℕ} (h : Deleted s u due) (i : ℕ) :
    u.entries.isLive i = (s.entries.isLive i && i ∉ due) := by
  rw [ManualHeap.isLive, h.cell, ManualHeap.isLive]
  split
  · next hi => simp [hi]
  · next hi => simp [hi]

theorem Deleted.isDue {due : List ℕ} (h : Deleted s u due) (expired : ℕ → Bool) (hi : i ∉ due) :
    u.isDue expired i = s.isDue expired i := by
  rw [AdapterMessageQueue.isDue, h.cell, if_neg hi, AdapterMessageQueue.isDue]

/-- The loop deletes those that are due. -/
theorem deleted_deleteTimedOut (expired : ℕ → Bool) {rs : List ℕ} (hnodup : rs.Nodup) :
    ∀ {s : AdapterMessageQueue}, (∀ r ∈ rs, s.entries.isLive r ∧ s.outputs.isLive r) →
      (deleteTimedOut expired s rs).2 = rs.filter (s.isDue expired) ∧
        Deleted s (deleteTimedOut expired s rs).1 (rs.filter (s.isDue expired)) := by
  induction rs with
  | nil =>
    intro s _
    exact ⟨rfl, rfl, ⟨rfl, rfl⟩, ⟨rfl, rfl⟩, fun i => by simp [deleteTimedOut], fun i => by
      simp [deleteTimedOut]⟩
  | cons r rest ih =>
    intro s hthere
    obtain ⟨hr, hrest⟩ := List.nodup_cons.mp hnodup
    obtain ⟨hentry, houtput⟩ := hthere r List.mem_cons_self
    have htouch := Deleted.touch hentry houtput
    -- what one entry does to those behind it
    have hbehind : ∀ {v due}, Deleted s v due → (∀ i ∈ due, i = r) →
        (∀ i ∈ rest, v.entries.isLive i ∧ v.outputs.isLive i) ∧
          rest.filter (v.isDue expired) = rest.filter (s.isDue expired) := fun {v due} hv hdue => by
      have hnot : ∀ i ∈ rest, i ∉ due := fun i hi hin => hr (hdue i hin ▸ hi)
      refine ⟨fun i hi => ?_, List.filter_congr fun i hi => hv.isDue expired (hnot i hi)⟩
      obtain ⟨h₁, h₂⟩ := hthere i (List.mem_cons_of_mem r hi)
      rw [hv.isLive, hv.output, h₁, h₂]
      simp [hnot i hi]
    rw [deleteTimedOut]
    split
    · next hdue =>
      rw [List.filter_cons_of_pos hdue]
      have hone := htouch.trans (Deleted.one ((htouch.isLive r).trans (by simp [hentry]))
        ((htouch.output r).trans (by simp [houtput])))
      obtain ⟨hlive, hfilter⟩ := hbehind hone (by simp)
      obtain ⟨hlist, hdeleted⟩ := ih hrest hlive
      rw [hfilter] at hlist hdeleted
      exact ⟨congrArg (r :: ·) hlist, hone.trans hdeleted⟩
    · next hdue =>
      rw [List.filter_cons_of_neg hdue]
      obtain ⟨hlive, hfilter⟩ := hbehind htouch (by simp)
      obtain ⟨hlist, hdeleted⟩ := ih hrest hlive
      rw [hfilter] at hlist hdeleted
      exact ⟨hlist, htouch.trans hdeleted⟩

/-- `CheckTimedOutMessages` in terms of those that are due. -/
theorem Sound.deleted_check (hs : Sound s) (expired : ℕ → Bool) :
    ∃ v, Deleted s v (s.messages.filter (s.isDue expired)) ∧
      s.checkTimedOutMessages expired =
        { v with messages := s.messages.filter (· ∉ s.messages.filter (s.isDue expired)) } := by
  have hthere : ∀ r ∈ s.messages, s.entries.isLive r ∧ s.outputs.isLive r := fun r hr =>
    have hlive := ((hs.accounted r).listed hr).1
    ⟨hlive, (hs.accounted r).paired hlive⟩
  obtain ⟨hlist, hdeleted⟩ := deleted_deleteTimedOut expired hs.nodup hthere
  refine ⟨_, hdeleted, ?_⟩
  rw [checkTimedOutMessages, hlist]

/-- The replies that are due are deleted, and nobody has them any more. -/
theorem Sound.check {expired : ℕ → Bool} (hs : Sound s) (ha : s.Timely (.check expired)) :
    Sound { s.checkTimedOutMessages expired with processing := .looping } := by
  obtain ⟨v, hv, hcheck⟩ := hs.deleted_check expired
  have hqueue : v.writeQueue = s.writeQueue := by rw [hv.rest]
  have hwriters : v.writers = s.writers := by rw [hv.rest]
  rw [hcheck]
  refine ⟨⟨hv.faults.1.trans hs.unfaulted.1, hv.faults.2.trans hs.unfaulted.2⟩,
    hv.next.2.trans (hs.level.trans hv.next.1.symm), hs.nodup.filter _, fun i => ?_⟩
  by_cases hi : i ∈ s.messages.filter (s.isDue expired)
  · obtain ⟨hin, hdue⟩ := List.mem_filter.mp hi
    obtain ⟨hnot, hfree⟩ := ha i hin hdue
    have hentry : ¬v.entries.isLive i := by
      rw [hv.isLive]
      simp [hi]
    have houtput : ¬v.outputs.isLive i := by
      rw [hv.output]
      simp [hi]
    have hnobody : ∀ t, (v.writers t).message ≠ some i := fun t h => by
      rw [hwriters] at h
      have hfits := (hs.accounted i).fits t h
      have hnone := hfree t
      cases hstage : s.writers t with
      | idle =>
        rw [hstage] at h
        cases h
      | created j | inserted j | pushed j | waiting j | waited j | erased j =>
        rw [hstage] at h hnone
        exact hnone h
      | returned j =>
        rw [hstage] at hfits
        exact absurd (hfits.2.symm.trans ((hs.accounted i).listed hin).1) Bool.false_ne_true
    have hlist : i ∉ s.messages.filter (· ∉ s.messages.filter (s.isDue expired)) := fun h => by
      obtain ⟨-, hnot⟩ := List.mem_filter.mp h
      exact of_decide_eq_true hnot hi
    have hreply : ¬v.isReply i := fun h => hentry (isLive_of_isReply h)
    exact ⟨fun h => absurd h hentry, fun h => absurd h hlist, fun h => absurd (hqueue ▸ h) hnot,
      fun h => (by cases h), fun t h => absurd h (hnobody t), fun t _ h => absurd h (hnobody t),
      fun h => absurd h hreply, fun h => absurd h hentry, fun h => absurd h houtput⟩
  · refine (hs.accounted i).congr (.of_cell ((hv.cell i).trans (if_neg hi)) ?_)
      (fun h => (List.mem_filter.mp h).1) (fun h => (hs.accounted i).queued (hqueue ▸ h))
      (fun h => by cases h) (fun h => ⟨fun hq => h.1 (hqueue ▸ hq), by simp [Processing.entry]⟩)
      (fun _ h _ => ⟨List.mem_filter.mpr ⟨h, decide_eq_true hi⟩, by simp⟩)
      fun t => .inl (congrFun hwriters t)
    exact (hv.output i).trans (by simp [hi])

/-- The queue thread uses the entry that it holds, which it keeps or lets go. -/
theorem Sound.useMove {r : ℕ} {f : QueueEntry → QueueEntry} {p : Processing} (hs : Sound s)
    (hentry : s.processing.entry = some r) (hf : Preserving f)
    (hp : ∀ i, p.entry = some i → i = r) (hend : p ≠ .ended) :
    Sound { s.useEntry r f with processing := p } := by
  refine (hs.useEntry ((hs.accounted r).processed hentry) hf).move (fun i hi => ?_) hend
  rw [useEntry_processing, hentry, hp i hi]

theorem Sound.processStep {a : Action} (hs : Sound s) (ha : s.Timely a)
    (h : s.processStep a = some u) : Sound u := by
  cases a with
  | loop =>
    obtain ⟨-, rfl⟩ := enabled_iff.mp h
    split
    · next hstopped => exact hs.endThread (ha hstopped)
    · exact hs.move (p := .polling) (fun i hi => by cases hi) (by simp)
  | pop =>
    simp only [AdapterMessageQueue.processStep] at h
    split at h
    · next r rest hpolling hqueue =>
      obtain rfl := Option.some.inj h
      exact hs.pop hqueue
    · cases h
  | popTimeout =>
    obtain ⟨-, rfl⟩ := enabled_iff.mp h
    exact hs.move (p := .checking) (fun i hi => by cases hi) (by simp)
  | writeToDevice written =>
    simp only [AdapterMessageQueue.processStep] at h
    split at h
    · next r hstage =>
      obtain rfl := Option.some.inj h
      have hentry : s.processing.entry = some r := by rw [hstage]; rfl
      exact hs.useMove hentry (preserving_setState _) (fun i hi => (Option.some.inj hi).symm) (by simp)
    · cases h
  | inspect =>
    simp only [AdapterMessageQueue.processStep] at h
    split at h
    · next r hstage =>
      obtain rfl := Option.some.inj h
      have hentry : s.processing.entry = some r := by rw [hstage]; rfl
      refine hs.useMove hentry preserving_id (fun i hi => ?_) ?_
      · split at hi
        · exact (Option.some.inj hi).symm
        · cases hi
      · split <;> simp
    · cases h
  | signal =>
    simp only [AdapterMessageQueue.processStep] at h
    split at h
    · next r hstage =>
      obtain rfl := Option.some.inj h
      have hentry : s.processing.entry = some r := by rw [hstage]; rfl
      exact hs.useMove hentry preserving_signal (p := .clearing) (fun i hi => by cases hi) (by simp)
    · cases h
  | processClear =>
    obtain ⟨-, rfl⟩ := enabled_iff.mp h
    exact (hs.clear ha).endThread fun r hr => absurd hr List.not_mem_nil
  | check expired =>
    obtain ⟨-, rfl⟩ := enabled_iff.mp h
    exact hs.check ha
  | _ => cases h

/-! ### Runs -/

theorem Sound.messageReceived (extended : Bool) (msg : AdapterMessage) {rs : List ℕ} :
    ∀ {s : AdapterMessageQueue}, Sound s → (∀ r ∈ rs, s.entries.isLive r) →
      Sound (messageReceived extended msg s rs) := by
  induction rs with
  | nil => exact fun hs _ => hs
  | cons r rest ih =>
    intro s hs hlive
    have hused := hs.useEntry (hlive r List.mem_cons_self) (preserving_messageReceived extended msg)
    rw [AdapterMessageQueue.messageReceived]
    split
    · exact hused
    · exact ih hused fun i hi => (ManualHeap.isLive_use ..).trans (hlive i (List.mem_cons_of_mem r hi))

theorem Sound.step {a : Action} (hs : Sound s) (ha : s.Timely a) (h : s.step a = some u) :
    Sound u := by
  rcases Option.or_eq_some_iff.mp h with h | ⟨-, h⟩
  · rcases Option.or_eq_some_iff.mp h with h | ⟨-, h⟩
    · exact hs.writerStep ha h
    · exact hs.processStep ha h
  · cases a with
    | received extended msg =>
      obtain rfl := Option.some.inj h
      exact hs.messageReceived extended msg fun r hr => ((hs.accounted r).listed hr).1
    | clear =>
      obtain rfl := Option.some.inj h
      exact hs.clear ha
    | _ => cases h

theorem Sound.proper (hs : Sound s) : s.Proper := by
  have hboth : ∀ r, s.entries.isLive r → s.entries.isLive r ∧ s.outputs.isLive r := fun r h =>
    ⟨h, (hs.accounted r).paired h⟩
  refine ⟨hs.unfaulted, fun r h => hboth r ((hs.accounted r).listed h).1,
    fun r h => hboth r ((hs.accounted r).queued h), fun r h => hboth r ((hs.accounted r).processed h),
    fun t r h => hboth r ?_, fun r => (hs.accounted r).owned, fun r => (hs.accounted r).read⟩
  cases hstage : s.writers t with
  | idle | returned j =>
    rw [hstage] at h
    cases h
  | inserted j | pushed j =>
    rw [hstage] at h
    exact hs.fits hstage (Stage.message_of_entry h)
  | created j | waiting j | waited j | erased j =>
    rw [hstage] at h
    exact (hs.fits hstage (Stage.message_of_entry h)).1

/-- A reply that nobody is going to look at is never deleted. -/
theorem Sound.orphaned (hs : Sound s) (hr : r ∈ s.messages) (hreply : s.isReply r)
    (hentries : u.entries = s.entries) (hwriters : u.writers = s.writers)
    (hgone : r ∉ u.messages ∨ u.processing = .ended) : ¬u.Proper := by
  intro hu
  have hlive := ((hs.accounted r).listed hr).1
  have hreply' : u.isReply r := by
    rw [isReply, hentries]
    exact hreply
  rcases hu.owned r (hentries ▸ hlive) with ⟨-, ⟨hin, hrun⟩ | ⟨t, ht⟩⟩ | ⟨hno, -⟩
  · exact hgone.elim (fun h => h hin) hrun
  · rw [hwriters] at ht
    exact (hs.fits ht rfl).2 hr
  · exact absurd (hno.symm.trans hreply') Bool.false_ne_true

theorem Sound.orphaned_insert (hs : Sound s) (hstage : s.writers t = .created r)
    (hreply : s.isReply r) (hended : s.processing = .ended) : ¬(s.insert t r).Proper := by
  intro hu
  have ht : (s.writers t).message = some r := by rw [hstage]; rfl
  rcases hu.owned r (hs.fits hstage rfl).1 with ⟨-, ⟨-, hrun⟩ | ⟨t', ht'⟩⟩ | ⟨hno, -⟩
  · exact hrun hended
  · have hmoved : (s.insert t r).writers t' = if t' = t then .inserted r else s.writers t' :=
      moveTo_writers ..
    rw [hmoved] at ht'
    split at ht'
    · cases ht'
    · next hne => exact hne ((hs.accounted r).unique t t' ht (by rw [ht']; rfl))
  · exact absurd (hno.symm.trans hreply) Bool.false_ne_true

/-- A command that is given up while the queue thread still has its entry is deleted under it. -/
theorem deleted_early (hthrough : ¬s.Through r) :
    ∃ v, Schedule step (s.wait t r) v ∧ ¬v.Proper := by
  let w := s.wait t r
  let v := (w.erase t r)
  let v' := { v with entries := v.entries.delete r }.moveTo t (.returned r)
  have hw : w.writers t = .waited r := (moveTo_writers ..).trans (if_pos rfl)
  have hv : v.writers t = .erased r := (moveTo_writers ..).trans (if_pos rfl)
  have herase : w.step (.erase t) = some v := by simp [step, writerStep, hw, v]
  have hdelete : v.step (.deleteEntry t) = some v' := by simp [step, writerStep, hv, v']
  refine ⟨v', .tail _ (.tail _ (.refl w) trivial herase) trivial hdelete, fun hproper => hthrough ?_⟩
  have hdead : ¬v'.entries.isLive r := by
    have h : (v.entries.delete r).isLive r = false := by simp
    exact fun hlive => absurd (h.symm.trans hlive) Bool.false_ne_true
  exact ⟨fun hq => hdead (hproper.queued r hq).1, fun hp => hdead (hproper.processed r hp).1⟩

/-- A reply that is due while others still have it is deleted under them. -/
theorem Sound.deleted_under {expired : ℕ → Bool} (hs : Sound s)
    (ha : ¬s.Timely (.check expired)) :
    ¬Proper { s.checkTimedOutMessages expired with processing := .looping } := by
  intro hproper
  apply ha
  intro r hr hdue
  obtain ⟨v, hv, hcheck⟩ := hs.deleted_check expired
  rw [hcheck] at hproper
  have hdead : ¬v.entries.isLive r := by
    rw [hv.isLive]
    simp [hr, hdue]
  refine ⟨fun hq => hdead (hproper.queued r ?_).1, fun t ht => hdead (hproper.held t r ?_).1⟩
  · rw [hv.rest]
    exact hq
  · rw [hv.rest]
    exact ht

end steps

/-- As long as nobody gives up on a command, or looks at a reply, before the others are through with
    it, and no reply is left in the queue when it is cleared or its thread has ended, nothing is used
    after it was deleted, and everything is deleted by the one who is to do so; any other step leads
    to a state of which this is not true. -/
theorem queue_entries_owned {s : AdapterMessageQueue} (h : Reaches step Timely initial s) :
    s.Proper ∧ ∀ a u, s.step a = some u → ¬s.Timely a → ∃ v, Schedule step u v ∧ ¬v.Proper := by
  have hs : Sound s := h.invariant (fun hs ha hstep => hs.step ha hstep) sound_initial
  refine ⟨hs.proper, fun a u hstep hnot => ?_⟩
  have hleft : ¬s.NoReply → ∃ r ∈ s.messages, s.isReply r := fun hno => by
    simpa [NoReply] using hno
  rcases Option.or_eq_some_iff.mp hstep with hstep | ⟨-, hstep⟩
  · rcases Option.or_eq_some_iff.mp hstep with hstep | ⟨-, hstep⟩
    · cases a with
      | insert t =>
        simp only [writerStep] at hstep
        split at hstep
        · next r hstage =>
          obtain rfl := Option.some.inj hstep
          simp only [Timely, hstage, Stage.created.injEq, forall_eq', ne_eq, not_forall,
            not_not] at hnot
          obtain ⟨hreply, hended⟩ := hnot
          exact ⟨_, .refl _, hs.orphaned_insert hstage hreply hended⟩
        · cases hstep
      | wait t =>
        simp only [writerStep] at hstep
        split at hstep
        · next r hstage =>
          obtain rfl := Option.some.inj hstep
          refine deleted_early fun hthrough => hnot fun i hi => ?_
          rw [hstage] at hi
          cases hi
          exact hthrough
        · cases hstep
      | create t output => exact absurd trivial hnot
      | push t | proceed t | erase t | deleteEntry t | deleteMessage t => exact absurd trivial hnot
      | _ => cases hstep
    · cases a with
      | loop =>
        obtain ⟨-, rfl⟩ := enabled_iff.mp hstep
        simp only [Timely, not_forall] at hnot
        obtain ⟨hstopped, hno⟩ := hnot
        obtain ⟨r, hr, hreply⟩ := hleft hno
        refine ⟨_, .refl _, hs.orphaned hr hreply rfl rfl (.inr ?_)⟩
        exact if_pos hstopped
      | processClear =>
        obtain ⟨-, rfl⟩ := enabled_iff.mp hstep
        obtain ⟨r, hr, hreply⟩ := hleft hnot
        exact ⟨_, .refl _, hs.orphaned hr hreply rfl rfl (.inr rfl)⟩
      | check expired =>
        obtain ⟨-, rfl⟩ := enabled_iff.mp hstep
        exact ⟨_, .refl _, hs.deleted_under hnot⟩
      | pop | popTimeout | writeToDevice written | inspect | signal => exact absurd trivial hnot
      | _ => cases hstep
  · cases a with
    | clear =>
      obtain rfl := Option.some.inj hstep
      obtain ⟨r, hr, hreply⟩ := hleft hnot
      exact ⟨_, .refl _, hs.orphaned hr hreply rfl rfl (.inl List.not_mem_nil)⟩
    | received extended msg => exact absurd trivial hnot
    | _ => cases hstep

/-- The answer to a ping. -/
def pingAccepted : AdapterMessage :=
  { AdapterMessage.clear with
    txData := BoundedBuffer.empty.pushAll [msgStart, MsgCode.commandAccepted, MsgCode.ping, msgEnd] }

/-- A command that is answered after the queue thread is through with it. -/
theorem queue_entries_owned_answered : ∃ s, Reaches step Timely initial s ∧ s.Proper := by
  let schedule : List Action := [.create 0 (.command MsgCode.ping []), .insert 0, .push 0, .proceed 0,
    .loop, .pop, .writeToDevice true, .inspect, .received false pingAccepted, .wait 0, .erase 0,
    .deleteEntry 0, .deleteMessage 0]
  have hperform : (perform step initial schedule).isSome := by decide +kernel
  obtain ⟨s, hs⟩ := Option.isSome_iff_exists.mp hperform
  have hmeets : Meets step Timely initial schedule := by
    refine ⟨trivial, ?_⟩
    rintro _ ⟨rfl⟩
    refine ⟨fun r _ _ h => (by cases h), ?_⟩
    rintro _ ⟨rfl⟩
    refine ⟨trivial, ?_⟩
    rintro _ ⟨rfl⟩
    refine ⟨trivial, ?_⟩
    rintro _ ⟨rfl⟩
    refine ⟨fun h => absurd h Bool.false_ne_true, ?_⟩
    rintro _ ⟨rfl⟩
    refine ⟨trivial, ?_⟩
    rintro _ ⟨rfl⟩
    refine ⟨trivial, ?_⟩
    rintro _ ⟨rfl⟩
    refine ⟨trivial, ?_⟩
    rintro _ ⟨rfl⟩
    refine ⟨trivial, ?_⟩
    rintro _ ⟨rfl⟩
    refine ⟨fun r _ => ⟨List.not_mem_nil, fun h => (by cases h)⟩, fun _ _ => ?_⟩
    exact meets_of_forall (by simp [Timely])
  have hrun := reaches_of_perform hmeets hs
  exact ⟨s, hrun, (queue_entries_owned hrun).1⟩

/-- The answer to a ping arrives before the queue thread has looked whether it was written. -/
theorem queue_entry_used_after_answer : ¬∀ s, Schedule step initial s → s.Proper := by
  intro hall
  have hperform : (perform step initial [.create 0 (.command MsgCode.ping []), .insert 0, .push 0,
      .proceed 0, .loop, .pop, .writeToDevice true, .received false pingAccepted, .wait 0, .erase 0,
      .deleteEntry 0, .inspect]).any (·.entries.fault) := by decide +kernel
  obtain ⟨s, hs, hfault⟩ := (Option.any_eq_true _ _).mp hperform
  have hproper := hall s (schedule_of_perform hs)
  exact absurd (hproper.unfaulted.1.symm.trans hfault) Bool.false_ne_true

end AdapterMessageQueue

end CEC
