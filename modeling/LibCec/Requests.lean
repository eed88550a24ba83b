import LibCec.CommandOutput
import LibCec.Schemes.GuardedRun

/-! Requests and the events that end their waits.

    A thread that sends a request waits for the event of the response on the device whose handler
    sent it (`CCECCommandHandler::Transmit`, `CWaitForResponse`, `CEvent`). The processor's thread
    takes the received commands off its queue and signals what their handling signals:

        thread:     begin ──▶ write ──▶ wait ──▶ wake ──▶ true
                                ▲         └──▶ timeout ──┘ (once more)
        processor:  receive ──▶ handle ──▶ broadcast ──▶ m_bSignaled
        any:        reset ──▶ all waiters of the device are released, its events are forgotten

    Any number of threads interleave with the processor's. `answered` is a history variable: it
    says that the response was received after the request was written. -/

namespace CEC
open Schemes Procedure

/-! ### Events -/

/-- `CEvent`. -/
structure CEvent where
  signaled : Bool
  waitingThreads : ℕ
  deriving DecidableEq

namespace CEvent

def initial : CEvent := ⟨false, 0⟩

/-- `Broadcast`. -/
def broadcast (e : CEvent) : CEvent := { e with signaled := true }

/-- The beginning of `Wait`. -/
def enter (e : CEvent) : CEvent := { e with waitingThreads := e.waitingThreads + 1 }

/-- The end of `Wait`: the last waiter to leave clears the signal. -/
def leave (e : CEvent) : CEvent :=
  ⟨e.signaled && e.waitingThreads - 1 ≠ 0, e.waitingThreads - 1⟩

theorem signaled_leave {e : CEvent} (h : e.signaled = false) : e.leave.signaled = false := by
  simp [leave, h]

end CEvent

/-! ### Requests -/

/-- `CEC_DEFAULT_TRANSMIT_RETRIES`. -/
def transmitRetries : ℕ := 1

/-- A call of `CCECCommandHandler::Transmit`; `device` is the one that the handler belongs to. -/
structure Request where
  device : Fin 16
  initiator : LogicalAddress
  destination : Fin 16
  opcode : UInt8
  bSuppressWait : Bool
  deriving DecidableEq

namespace Request

/-- `bExpectResponse`. -/
def expectsResponse (r : Request) : Bool :=
  getResponseOpcode r.opcode ≠ opcodeNone && !r.bSuppressWait

/-- The event that the call waits for. -/
def event (r : Request) : EventKey := (r.device, getResponseOpcode r.opcode)

end Request

/-- How far a thread is with a request; `iTries` counts the tries so far. -/
inductive Progress where
  | idle
  | trying (r : Request) (iTries : ℕ)
  | written (r : Request) (iTries : ℕ)
  | waiting (r : Request) (iTries : ℕ)
  | released (r : Request)
  | finished (r : Request) (bReturn : Bool)
  deriving DecidableEq

/-- The request that a thread has not finished. -/
def Progress.unfinished : Progress → Option Request
  | .trying r _ => some r
  | .written r _ => some r
  | .waiting r _ => some r
  | .released r => some r
  | _ => none

/-- `Clear` of the events of the device `d` wakes a thread that waits for one of them. -/
def Progress.release (d : Fin 16) : Progress → Progress
  | .waiting r iTries => if r.device = d then .released r else .waiting r iTries
  | p => p

/-- What is checked before anything is sent. -/
def Request.start (r : Request) (status : DeviceStatus) (unsupported : Bool) : Progress :=
  if r.initiator = .unknown then .finished r false
  else if r.destination = 15 then .trying r 0
  else if status = .notPresent ∨ status = .handledByLibCec then .finished r false
  else if unsupported then .finished r true
  else .trying r 0

/-- The end of the loop's body after a try that failed. -/
def Request.next (r : Request) (iTries : ℕ) : Progress :=
  if iTries < transmitRetries + 1 then .trying r iTries else .finished r false

/-- The command is the response to the request, or a feature abort that names the request. -/
def Received.answers (c : Received) (r : Request) : Prop :=
  c.opcodeSet ∧ (c.opcode = getResponseOpcode r.opcode ∧ (c.initiator = r.device ∨ c.opcode = 0x82) ∨
    c.opcode = opcodeFeatureAbort ∧ 0 < c.size ∧ c.parameter 0 = r.opcode ∧ c.initiator = r.device)

instance (c : Received) (r : Request) : Decidable (c.answers r) :=
  inferInstanceAs (Decidable (_ ∧ (_ ∧ (_ ∨ _) ∨ _ ∧ _ ∧ _ ∧ _)))

/-- A thread; `asked` once its request was written, `answered` once an answer was received after
    that. -/
structure Thread where
  progress : Progress
  asked : Bool
  answered : Bool
  deriving DecidableEq

namespace Thread

def initial : Thread := ⟨.idle, false, false⟩

/-- A command is received while the thread waits or not. -/
def hear (c : Received) (th : Thread) : Thread :=
  { th with answered := th.answered ||
      th.asked && th.progress.unfinished.any fun r => c.answers r }

/-- The request was written, nothing has answered it yet and it is not finished. -/
def Outstanding (th : Thread) (r : Request) : Prop :=
  th.progress.unfinished = some r ∧ r.expectsResponse ∧ th.asked ∧ th.answered = false

instance (th : Thread) (r : Request) : Decidable (th.Outstanding r) :=
  inferInstanceAs (Decidable (_ ∧ _ ∧ _ ∧ _))

end Thread

/-! ### The threads and the processor -/

/-- `k` threads, the events, the commands that were received but not handled yet, and what the
    command that is being handled still has to signal. -/
structure RequestState (k : ℕ) where
  threads : Fin k → Thread
  events : EventKey → CEvent
  inbox : List Received
  emitting : List EventKey

/-- What happens next. -/
inductive RequestEvent (k : ℕ) where
  | begin (t : Fin k) (r : Request) (status : DeviceStatus) (unsupported : Bool)
  | write (t : Fin k) (acked : Bool)
  | wait (t : Fin k)
  | wake (t : Fin k)
  | timeout (t : Fin k)
  | reset (d : Fin 16)
  | receive (c : Received)
  | handle (signals : List EventKey)
  | broadcast

namespace RequestState

variable {k : ℕ}

def initial : RequestState k := ⟨fun _ => .initial, fun _ => .initial, [], []⟩

def setThread (s : RequestState k) (t : Fin k) (th : Thread) : RequestState k :=
  { s with threads := Function.update s.threads t th }

def setProgress (s : RequestState k) (t : Fin k) (p : Progress) : RequestState k :=
  s.setThread t { s.threads t with progress := p }

def setEvent (s : RequestState k) (key : EventKey) (e : CEvent) : RequestState k :=
  { s with events := Function.update s.events key e }

/-- `Wait` ends for the thread `t`. -/
def leave (s : RequestState k) (t : Fin k) (r : Request) (p : Progress) : RequestState k :=
  (s.setEvent r.event (s.events r.event).leave).setProgress t p

/-- One step of a thread or of the processor; one that is not possible changes nothing. -/
def step (s : RequestState k) : RequestEvent k → RequestState k
  | .begin t r status unsupported =>
    if (s.threads t).progress.unfinished = none then
      s.setThread t ⟨r.start status unsupported, false, false⟩
    else s
  | .write t acked =>
    match (s.threads t).progress with
    | .trying r iTries =>
      if !acked then s.setProgress t (r.next (iTries + 1))
      else s.setThread t { s.threads t with
        progress := if r.expectsResponse then .written r (iTries + 1) else .finished r true
        asked := true }
    | _ => s
  | .wait t =>
    match (s.threads t).progress with
    | .written r iTries =>
      let s := s.setEvent r.event (s.events r.event).enter
      if (s.events r.event).signaled then s.leave t r (.finished r true)
      else s.setProgress t (.waiting r iTries)
    | _ => s
  | .wake t =>
    match (s.threads t).progress with
    | .waiting r _ =>
      if (s.events r.event).signaled then s.leave t r (.finished r true) else s
    | .released r => s.setProgress t (.finished r true)
    | _ => s
  | .timeout t =>
    match (s.threads t).progress with
    | .waiting r iTries =>
      if (s.events r.event).signaled then s else s.leave t r (r.next iTries)
    | _ => s
  | .reset d =>
    { s with
      threads := fun t => { s.threads t with progress := (s.threads t).progress.release d }
      events := fun key => if key.1 = d then .initial else s.events key }
  | .receive c =>
    { s with inbox := s.inbox ++ [c], threads := fun t => (s.threads t).hear c }
  | .handle signals =>
    match s.emitting, s.inbox with
    | [], _ :: cs => { s with inbox := cs, emitting := signals }
    | _, _ => s
  | .broadcast =>
    match s.emitting with
    | key :: keys => { s.setEvent key (s.events key).broadcast with emitting := keys }
    | [] => s

/-- The signals of the handling of a command are those of `HandleCommand`. -/
def Legal (s : RequestState k) : RequestEvent k → Prop
  | .handle signals => ∀ c ∈ s.inbox.head?, ∃ n s₁ s₂ b,
      Returns (handleCommand (react n) c) s₁ b s₂ ∧ s₂.signals = s₁.signals ++ signals
  | _ => True

/-- Whatever returned true and waited for a response has received one since it was written. -/
def Fresh (s : RequestState k) : Prop :=
  ∀ t r, (s.threads t).progress = .finished r true → r.expectsResponse → (s.threads t).answered

/-! ### When an answer cannot be a stale one -/

/-- Nothing has signalled the event, and nothing that was received already is going to. -/
def Unsignaled (s : RequestState k) (key : EventKey) : Prop :=
  (s.events key).signaled = false ∧ key ∉ s.emitting ∧ ∀ c ∈ s.inbox, key ∉ c.causes

instance (s : RequestState k) (key : EventKey) : Decidable (s.Unsignaled key) :=
  inferInstanceAs (Decidable (_ ∧ _ ∧ _))

end RequestState

/-- A feature abort that names the response to the request. -/
def Received.abortsResponse (c : Received) (r : Request) : Prop :=
  c.opcodeSet ∧ c.opcode = opcodeFeatureAbort ∧ 0 < c.size ∧
    c.parameter 0 = getResponseOpcode r.opcode ∧ c.initiator = r.device

instance (c : Received) (r : Request) : Decidable (c.abortsResponse r) :=
  inferInstanceAs (Decidable (_ ∧ _ ∧ _ ∧ _ ∧ _))

/-- The request that a thread is about to write. -/
def Progress.toWrite : Progress → Option Request
  | .trying r _ => some r
  | _ => none

/-- The request that a thread waits for. -/
def Progress.awaited : Progress → Option Request
  | .waiting r _ => some r
  | _ => none

/-- The request that an opcode answers. -/
def requestOf : UInt8 → UInt8
  | 0x82 => 0x85
  | 0x9E => 0x9F
  | 0x84 => 0x83
  | 0x32 => 0x91
  | 0x1B => 0x1A
  | 0x07 => 0x08
  | 0x87 => 0x8C
  | 0x47 => 0x46
  | 0x8E => 0x8D
  | 0x90 => 0x8F
  | 0x7A => 0x71
  | 0x7E => 0x7D
  | 0x72 => 0x70
  | x => x

/-- A response answers one request only, and is no feature abort. -/
theorem requestOf_getResponseOpcode {x : UInt8} (h : getResponseOpcode x ≠ opcodeNone) :
    requestOf (getResponseOpcode x) = x ∧ getResponseOpcode x ≠ opcodeFeatureAbort := by
  revert h
  unfold getResponseOpcode
  split
  all_goals intro h
  all_goals first | exact absurd rfl h | decide

/-- A command that signals the event of a request answers it, or aborts its response. -/
theorem answers_of_causes {c : Received} {r : Request} (hr : r.expectsResponse)
    (h : r.event ∈ c.causes) : c.answers r ∨ c.abortsResponse r := by
  have hresponse : getResponseOpcode r.opcode ≠ opcodeNone := by
    simp only [Request.expectsResponse, Bool.and_eq_true, decide_eq_true_eq] at hr
    exact hr.1
  obtain ⟨hrequest, hnoabort⟩ := requestOf_getResponseOpcode hresponse
  obtain ⟨hset, h | ⟨hsource, h⟩ | ⟨habort, hsize, h⟩⟩ := h
  · obtain ⟨hdevice, hopcode⟩ := Prod.mk.inj h
    unfold Received.signalled at hopcode
    split at hopcode
    · next ha => exact .inr ⟨hset, ha.1, ha.2, hopcode.symm, hdevice.symm⟩
    · exact .inl ⟨hset, .inl ⟨hopcode.symm, .inl hdevice.symm⟩⟩
  · exact .inl ⟨hset, .inl ⟨hsource.trans h.symm, .inr hsource⟩⟩
  · obtain ⟨hdevice, hopcode⟩ := Prod.mk.inj h
    have hnone : getResponseOpcode (c.parameter 0) ≠ opcodeNone := hopcode ▸ hresponse
    have hsame : c.parameter 0 = r.opcode := by
      rw [← (requestOf_getResponseOpcode hnone).1, ← hopcode, hrequest]
    exact .inl ⟨hset, .inr ⟨habort, hsize ▸ Nat.two_pos, hsame, hdevice.symm⟩⟩

namespace RequestState

variable {k : ℕ}

/-- A request is sent, unless its destination is not there; when it is written first nothing has
    signalled its event; and while it is out no feature abort names its response and its device is
    not reset. -/
def AsksAfresh (s : RequestState k) : RequestEvent k → Prop
  | .begin _ r status unsupported =>
    r.expectsResponse → r.initiator ≠ .unknown → r.destination ≠ 15 →
      status = .notPresent ∨ status = .handledByLibCec ∨ unsupported = false
  | .write t acked =>
    ∀ r ∈ (s.threads t).progress.toWrite, acked → r.expectsResponse →
      (s.threads t).asked = false → s.Unsignaled r.event
  | .reset d =>
    ∀ t, ∀ r ∈ (s.threads t).progress.awaited, (s.threads t).Outstanding r → r.device ≠ d
  | .receive c =>
    ∀ t, ∀ r ∈ (s.threads t).progress.unfinished, (s.threads t).Outstanding r →
      ¬c.abortsResponse r
  | _ => True

instance (s : RequestState k) : ∀ e : RequestEvent k, Decidable (s.AsksAfresh e)
  | .begin _ _ _ _ => inferInstanceAs (Decidable (_ → _ → _ → _ ∨ _ ∨ _))
  | .write _ _ => inferInstanceAs (Decidable (∀ r ∈ _, _ → _ → _ → _))
  | .reset _ => inferInstanceAs (Decidable (∀ _ : Fin k, ∀ r ∈ _, _ → _))
  | .receive _ => inferInstanceAs (Decidable (∀ _ : Fin k, ∀ r ∈ _, _ → ¬_))
  | .wait _ | .wake _ | .timeout _ | .handle _ | .broadcast => inferInstanceAs (Decidable True)

/-- What an outstanding request can rely on. -/
structure Inv (s : RequestState k) : Prop where
  fresh : s.Fresh
  outstanding : ∀ t r, (s.threads t).Outstanding r → s.Unsignaled r.event
  written : ∀ t r n, (s.threads t).progress = .written r n ∨ (s.threads t).progress = .waiting r n →
    (s.threads t).asked ∧ r.expectsResponse
  released : ∀ t r, (s.threads t).progress = .released r → (s.threads t).answered

theorem inv_initial : (initial : RequestState k).Inv where
  fresh := nofun
  released := nofun
  outstanding _ _ h := absurd h.1 nofun
  written _ _ _ h := by rcases h with h | h <;> exact absurd h nofun

section steps

variable {s : RequestState k} {t : Fin k}

theorem threads_setThread (s : RequestState k) (t u : Fin k) (th : Thread) :
    (s.setThread t th).threads u = if u = t then th else s.threads u := by
  simp only [setThread, Function.update_apply]

/-- A change of one thread keeps the invariant if that thread keeps it. -/
theorem Inv.setThread {th : Thread} (h : s.Inv)
    (hfresh : ∀ r, th.progress = .finished r true → r.expectsResponse → th.answered)
    (hout : ∀ r, th.Outstanding r → s.Unsignaled r.event)
    (hwritten : ∀ r n, th.progress = .written r n ∨ th.progress = .waiting r n →
      th.asked ∧ r.expectsResponse)
    (hreleased : ∀ r, th.progress ≠ .released r) : (s.setThread t th).Inv where
  released u r := by
    rw [threads_setThread]
    split
    · exact fun hp => absurd hp (hreleased r)
    · exact h.released u r
  fresh u r := by
    rw [threads_setThread]
    split
    · exact hfresh r
    · exact h.fresh u r
  outstanding u r := by
    rw [threads_setThread]
    split
    · exact hout r
    · exact h.outstanding u r
  written u r n := by
    rw [threads_setThread]
    split
    · exact hwritten r n
    · exact h.written u r n

/-- A thread whose request is not finished goes on with it, or gives up. -/
theorem Inv.setProgress {p : Progress} {r : Request} (h : s.Inv)
    (hr : (s.threads t).progress.unfinished = some r)
    (hp : p.unfinished = some r ∨ p = .finished r false)
    (hwritten : ∀ r n, p = .written r n ∨ p = .waiting r n →
      (s.threads t).asked ∧ r.expectsResponse)
    (hreleased : ∀ r, p ≠ .released r) : (s.setProgress t p).Inv := by
  refine h.setThread (fun r' hp' => ?_) (fun r' hout => ?_) hwritten hreleased
  · rcases hp with hp | hp
    · rw [show p = _ from hp'] at hp
      exact absurd hp nofun
    · exact absurd (hp.symm.trans hp') (by simp)
  · rcases hp with hp | hp
    · obtain rfl : r = r' := Option.some.inj (hp.symm.trans hout.1)
      exact h.outstanding t r ⟨hr, hout.2⟩
    · exact absurd hout.1 (by simp [hp, Progress.unfinished])

/-- An event that is not signalled stays so. -/
theorem Inv.setEvent {key : EventKey} {e : CEvent} (h : s.Inv)
    (he : (s.events key).signaled = false → e.signaled = false) : (s.setEvent key e).Inv where
  fresh := h.fresh
  written := h.written
  released := h.released
  outstanding t r hout := by
    obtain ⟨hsignaled, hrest⟩ := h.outstanding t r hout
    refine ⟨?_, hrest⟩
    simp only [RequestState.setEvent, Function.update_apply]
    split
    · next heq => exact he (heq ▸ hsignaled)
    · exact hsignaled

/-- The event of a request that was written and not answered is not signalled. -/
theorem Inv.answered {r : Request} {n : ℕ} (h : s.Inv)
    (hp : (s.threads t).progress = .written r n ∨ (s.threads t).progress = .waiting r n)
    (hsignaled : (s.events r.event).signaled) : (s.threads t).answered := by
  obtain ⟨hasked, hexpects⟩ := h.written t r n hp
  by_contra hanswered
  have hunfinished : (s.threads t).progress.unfinished = some r := by
    rcases hp with hp | hp <;> rw [hp] <;> rfl
  have hout := h.outstanding t r ⟨hunfinished, hexpects, hasked, by simpa using hanswered⟩
  exact absurd hsignaled (by simp [hout.1])

/-- The end of a wait for an event that was signalled. -/
theorem Inv.leave {r : Request} {n : ℕ} (h : s.Inv)
    (hp : (s.threads t).progress = .written r n ∨ (s.threads t).progress = .waiting r n)
    (hsignaled : (s.events r.event).signaled) : (s.leave t r (.finished r true)).Inv := by
  have hanswered := h.answered hp hsignaled
  refine (h.setEvent CEvent.signaled_leave).setThread (fun _ _ _ => hanswered) ?_ ?_ nofun
  · exact fun r' hout => absurd hout.1 nofun
  · rintro r' n' (hp' | hp')
    · exact absurd hp' nofun
    · exact absurd hp' nofun

/-- A try that failed is followed by another one, or by the end. -/
theorem next_cases (r : Request) (n : ℕ) :
    r.next n = .trying r n ∨ r.next n = .finished r false := by
  unfold Request.next
  split
  · exact .inl rfl
  · exact .inr rfl

/-- Another try, or the end without a response. -/
theorem Inv.next {r : Request} {n : ℕ} (h : s.Inv)
    (hr : (s.threads t).progress.unfinished = some r) : (s.setProgress t (r.next n)).Inv := by
  refine h.setProgress hr ?_ ?_ ?_
  · rcases next_cases r n with hn | hn
    · exact .inl (by rw [hn]; rfl)
    · exact .inr hn
  · rintro r' n' hp
    rcases next_cases r n with hn | hn
    · simp [hn] at hp
    · simp [hn] at hp
  · intro r'
    rcases next_cases r n with hn | hn
    · simp [hn]
    · simp [hn]

theorem inv_begin {r : Request} {status : DeviceStatus} {unsupported : Bool} (h : s.Inv)
    (hguard : s.AsksAfresh (.begin t r status unsupported)) :
    (s.step (.begin t r status unsupported)).Inv := by
  simp only [step]
  split
  · refine h.setThread (fun r' hp hexpects => ?_) (fun r' hout => ?_) ?_ ?_
    · -- only an unsupported opcode is reported as sent without being sent
      simp only [Request.start] at hp
      split_ifs at hp with hknown hbroadcast hstatus hunsupported
      all_goals simp only [Progress.finished.injEq, Bool.false_eq_true, and_false,
        and_true] at hp
      subst hp
      rcases hguard hexpects hknown hbroadcast with hg | hg | hg
      · exact absurd (.inl hg) hstatus
      · exact absurd (.inr hg) hstatus
      · exact absurd hunsupported (by simp [hg])
    · exact absurd hout.2.2.1 Bool.false_ne_true
    · intro r' n hp
      simp only [Request.start] at hp
      split_ifs at hp <;> simp at hp
    · intro r' hp
      simp only [Request.start] at hp
      split_ifs at hp
  · exact h

theorem inv_write {acked : Bool} (h : s.Inv) (hguard : s.AsksAfresh (.write t acked)) :
    (s.step (.write t acked)).Inv := by
  simp only [step]
  split
  · next r n hp =>
    have hunfinished : (s.threads t).progress.unfinished = some r := by rw [hp]; rfl
    cases acked with
    | false => exact h.next hunfinished
    | true =>
      by_cases hexpects : r.expectsResponse
      · simp only [hexpects]
        refine h.setThread nofun (fun r' hout => ?_) ?_ nofun
        · obtain rfl : r = r' := Option.some.inj hout.1
          by_cases hasked : (s.threads t).asked
          · exact h.outstanding t r ⟨hunfinished, hexpects, hasked, hout.2.2.2⟩
          · exact hguard r (by rw [hp]; rfl) rfl hexpects (by simpa using hasked)
        · rintro r' n' (hw | hw)
          · obtain ⟨rfl, -⟩ := Progress.written.inj hw
            exact ⟨rfl, hexpects⟩
          · exact absurd hw nofun
      · simp only [hexpects]
        refine h.setThread (fun r' hp' hexpects' => ?_) (fun r' hout => ?_) ?_ nofun
        · obtain ⟨rfl, -⟩ := Progress.finished.inj hp'
          exact absurd hexpects' hexpects
        · exact absurd hout.1 nofun
        · rintro r' n' (hw | hw) <;> exact absurd hw nofun
  · exact h

theorem inv_wait (h : s.Inv) : (s.step (.wait t)).Inv := by
  simp only [step]
  split
  · next r n hp =>
    have henter : (s.setEvent r.event (s.events r.event).enter).Inv := h.setEvent id
    split
    · next hsignaled => exact henter.leave (.inl hp) hsignaled
    · refine henter.setProgress (p := .waiting r n) (r := r) ?_ (.inl rfl) ?_ nofun
      · change (s.threads t).progress.unfinished = some r
        rw [hp]
        rfl
      · rintro r' n' (hw | hw)
        · exact absurd hw nofun
        · obtain ⟨rfl, rfl⟩ := Progress.waiting.inj hw
          exact h.written t r n (.inl hp)
  · exact h

theorem inv_wake (h : s.Inv) : (s.step (.wake t)).Inv := by
  simp only [step]
  split
  · next r n hp =>
    split
    · next hsignaled => exact h.leave (.inr hp) hsignaled
    · exact h
  · next r hp =>
    have hanswered := h.released t r hp
    refine h.setThread (fun _ _ _ => hanswered) (fun r' hout => absurd hout.1 nofun) ?_ nofun
    rintro r' n' (hw | hw) <;> exact absurd hw nofun
  · exact h

theorem inv_timeout (h : s.Inv) : (s.step (.timeout t)).Inv := by
  simp only [step]
  split
  · next r n hp =>
    split
    · exact h
    · have hunfinished : (s.threads t).progress.unfinished = some r := by rw [hp]; rfl
      exact (h.setEvent CEvent.signaled_leave).next hunfinished
  · exact h

/-- What the reset of a device does to a thread. -/
theorem release_cases (d : Fin 16) (p : Progress) :
    p.release d = p ∨ ∃ r n, r.device = d ∧ p = .waiting r n ∧ p.release d = .released r := by
  cases p with
  | waiting r n =>
    by_cases hd : r.device = d
    · exact .inr ⟨r, n, hd, rfl, if_pos hd⟩
    · exact .inl (if_neg hd)
  | _ => exact .inl rfl

/-- A thread that the reset does not release goes on as it was. -/
theorem unfinished_release (d : Fin 16) (p : Progress) :
    (p.release d).unfinished = p.unfinished := by
  rcases release_cases d p with h | ⟨r, n, -, hp, h⟩
  · rw [h]
  · rw [h, hp]
    rfl

theorem inv_reset {d : Fin 16} (h : s.Inv) (hguard : s.AsksAfresh (.reset d)) :
    (s.step (.reset d)).Inv where
  fresh u r hp := by
    change (s.threads u).progress.release d = _ at hp
    rcases release_cases d (s.threads u).progress with hsame | ⟨r', n, -, -, hreleased⟩
    · exact h.fresh u r (hsame ▸ hp)
    · exact absurd (hreleased.symm.trans hp) nofun
  written u r n hp := by
    change (s.threads u).progress.release d = _ ∨ (s.threads u).progress.release d = _ at hp
    rcases release_cases d (s.threads u).progress with hsame | ⟨r', n', -, -, hreleased⟩
    · exact h.written u r n (hsame ▸ hp)
    · rw [hreleased] at hp
      rcases hp with hp | hp <;> exact absurd hp nofun
  released u r hp := by
    change (s.threads u).progress.release d = _ at hp
    rcases release_cases d (s.threads u).progress with hsame | ⟨r', n, hd, hwaits, hreleased⟩
    · exact h.released u r (hsame ▸ hp)
    · -- a thread that is released without an answer is what the guard excludes
      obtain ⟨hasked, hexpects⟩ := h.written u r' n (.inr hwaits)
      by_contra hanswered
      have hout : (s.threads u).Outstanding r' :=
        ⟨by rw [hwaits]; rfl, hexpects, hasked, by simpa [step] using hanswered⟩
      exact hguard u r' (by rw [hwaits]; rfl) hout hd
  outstanding u r hout := by
    obtain ⟨hr, hrest⟩ := hout
    have hold : (s.threads u).Outstanding r :=
      ⟨(unfinished_release d _).symm.trans hr, hrest⟩
    obtain ⟨hsignaled, hemitting, hinbox⟩ := h.outstanding u r hold
    refine ⟨?_, hemitting, hinbox⟩
    simp only [step]
    split
    · rfl
    · exact hsignaled

theorem inv_receive {c : Received} (h : s.Inv) (hguard : s.AsksAfresh (.receive c)) :
    (s.step (.receive c)).Inv where
  fresh u r hp hexpects := by
    have hold := h.fresh u r hp hexpects
    simp [step, Thread.hear, hold]
  written := h.written
  released u r hp := by
    have hold := h.released u r hp
    simp [step, Thread.hear, hold]
  outstanding u r hout := by
    obtain ⟨hr, hexpects, hasked, hanswered⟩ := hout
    change (s.threads u).progress.unfinished = some r at hr
    change (s.threads u).asked = true at hasked
    simp only [step, Thread.hear, hr, hasked, Option.any_some, Bool.true_and, Bool.or_eq_false_iff,
      decide_eq_false_iff_not] at hanswered
    have hold : (s.threads u).Outstanding r := ⟨hr, hexpects, hasked, hanswered.1⟩
    obtain ⟨hsignaled, hemitting, hinbox⟩ := h.outstanding u r hold
    refine ⟨hsignaled, hemitting, ?_⟩
    intro d hd
    rcases List.mem_append.mp hd with hd | hd
    · exact hinbox d hd
    · intro hcauses
      rw [List.mem_singleton.mp hd] at hcauses
      rcases answers_of_causes hexpects hcauses with ha | ha
      · exact hanswered.2 ha
      · exact hguard u r hr hold ha

theorem inv_handle {signals : List EventKey} (h : s.Inv) (hlegal : s.Legal (.handle signals)) :
    (s.step (.handle signals)).Inv := by
  simp only [step]
  split
  · next c cs hemitting hinbox =>
    obtain ⟨n, s₁, s₂, b, hret, hsignals⟩ := hlegal c (by rw [hinbox]; rfl)
    refine ⟨h.fresh, fun u r hout => ?_, h.written, h.released⟩
    obtain ⟨hsignaled, -, hall⟩ := h.outstanding u r hout
    rw [hinbox] at hall
    obtain ⟨hc, hcs⟩ := List.forall_mem_cons.mp hall
    exact ⟨hsignaled, fun hmem => hc (signals_handleCommand hret hsignals _ hmem), hcs⟩
  · exact h

theorem inv_broadcast (h : s.Inv) : (s.step .broadcast).Inv := by
  simp only [step]
  split
  · next key keys hemitting =>
    refine ⟨h.fresh, fun u r hout => ?_, h.written, h.released⟩
    obtain ⟨hsignaled, hnot, hinbox⟩ := h.outstanding u r hout
    rw [hemitting] at hnot
    obtain ⟨hne, hkeys⟩ := not_or.mp (fun hmem => hnot (List.mem_cons.mpr hmem))
    refine ⟨?_, hkeys, hinbox⟩
    change (Function.update s.events key _ r.event).signaled = false
    rw [Function.update_of_ne hne]
    exact hsignaled
  · exact h

/-- One step that is legal and asks afresh keeps the invariant. -/
theorem Inv.step {e : RequestEvent k} (h : s.Inv) (hlegal : s.Legal e) (hguard : s.AsksAfresh e) :
    (s.step e).Inv := by
  cases e with
  | begin t r status unsupported => exact inv_begin h hguard
  | write t acked => exact inv_write h hguard
  | wait t => exact inv_wait h
  | wake t => exact inv_wake h
  | timeout t => exact inv_timeout h
  | reset d => exact inv_reset h hguard
  | receive c => exact inv_receive h hguard
  | handle signals => exact inv_handle h hlegal
  | broadcast => exact inv_broadcast h

end steps

/-- In a run of threads that all ask afresh, no request is answered by an old response. -/
theorem fresh_of_run {es : List (RequestEvent k)} (hlegal : Guarded step Legal initial es)
    (hfresh : Guarded step AsksAfresh initial es) : (es.foldl step initial).Fresh := by
  have hinv := Guarded.invariant (fun _ (s : RequestState k) => s.Inv) inv_initial
    (fun past s e hs he => hs.step he.1 he.2) (hlegal.and hfresh)
  exact hinv.fresh

/-- The TV reports that it is on. -/
def reportPowerStatus : Received where
  initiator := 0
  destination := 4
  opcodeSet := true
  opcode := 0x90
  parameters := BoundedBuffer.empty.pushAll [0x00]

/-- The handling of the report signals its own event. -/
theorem handle_reportPowerStatus : ∃ n s₁ s₂ b,
    Returns (handleCommand (react n) reportPowerStatus) s₁ b s₂ ∧
      s₂.signals = s₁.signals ++ [(0, 0x90)] := by
  obtain ⟨b, s₂, h⟩ := exists_returns (x := handleCommand (react 2) reportPowerStatus)
    (s := .start (.start (fun _ => .clear) fun _ => .silent)) (by decide +kernel)
  have hsignals := h.of_all (p := fun _ s => s.signals = [(0, 0x90)]) (by decide +kernel)
  exact ⟨2, _, s₂, b, h, of_decide_eq_true hsignals⟩

/-- Device 4 of libCEC asks the TV for its power status. -/
def askPowerStatus : Request := ⟨0, .addr 4, 0, 0x8F, false⟩

/-- Two threads ask at the same time; one answer wakes both. -/
def twoRequests : List (RequestEvent 2) :=
  [.begin 0 askPowerStatus .present false, .write 0 true, .wait 0,
    .begin 1 askPowerStatus .present false, .write 1 true, .wait 1,
    .receive reportPowerStatus, .handle [(0, 0x90)], .broadcast, .wake 0, .wake 1]

/-- What the processor signals for the report is what `HandleCommand` signals. -/
theorem legal_reportPowerStatus : ∀ c ∈ [reportPowerStatus].head?, ∃ n s₁ s₂ b,
    Returns (handleCommand (react n) c) s₁ b s₂ ∧ s₂.signals = s₁.signals ++ [(0, 0x90)] := by
  intro c hc
  obtain rfl := Option.some.inj hc
  exact handle_reportPowerStatus

theorem fresh_twoRequests : (twoRequests.foldl step initial).Fresh ∧
    ∀ t, ((twoRequests.foldl step initial).threads t).progress =
      .finished askPowerStatus true := by
  refine ⟨fresh_of_run ?_ (by decide +kernel), by decide +kernel⟩
  exact ⟨trivial, trivial, trivial, trivial, trivial, trivial, trivial, legal_reportPowerStatus,
    trivial, trivial, trivial, trivial⟩

/-- The TV reports its power status on its own, before anybody asks. -/
def unsolicitedReport : List (RequestEvent 1) :=
  [.receive reportPowerStatus, .handle [(0, 0x90)], .broadcast,
    .begin 0 askPowerStatus .present false, .write 0 true, .wait 0]

/-- The report that nobody waited for ends the wait for a request that is written later. -/
theorem unsolicitedReport_not_fresh : Guarded step Legal initial unsolicitedReport ∧
    ((unsolicitedReport.foldl step initial).threads 0).progress =
      .finished askPowerStatus true ∧
    ¬(unsolicitedReport.foldl step initial).Fresh := by
  have hdone : ((unsolicitedReport.foldl step initial).threads 0).progress =
      .finished askPowerStatus true := by decide +kernel
  refine ⟨⟨trivial, legal_reportPowerStatus, trivial, trivial, trivial, trivial, trivial⟩, hdone, ?_⟩
  intro hfresh
  exact absurd (hfresh 0 askPowerStatus hdone (by decide)) (by decide +kernel)

end RequestState

end CEC
