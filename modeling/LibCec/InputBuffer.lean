import LibCec.CommandFormat
import LibCec.Schemes.FifoQueues
import Mathlib.Data.Fin.Basic
import Mathlib.Order.Fin.Basic

/-! The buffer between the adapter and the processor (`CCECInputBuffer`).

    The commands from the TV have a buffer of their own, which `Pop` looks at first. Each of the
    two buffers knows whether it has data, and so does the one around them.

        Push ──▶ m_tvInBuffer, m_inBuffer ──▶ Pop
                       │                       ▲ waits for m_bHasData when both are empty
                       └───────▶ m_bHasData ───┘
                                     ▲
        Broadcast ───────────────────┘ without data: a Pop that waits returns nothing

    The buffer refines two FIFO queues of 100 commands (`FifoQueues`): what it adds is that the
    three flags agree with what is queued, so that nobody waits for a command that is there. -/

namespace CEC
open Schemes

/-! ### `SyncedBuffer` -/

/-- `SyncedBuffer`. -/
structure SyncedBuffer (α : Type) where
  maxSize : ℕ
  buffer : List α
  hasData : Bool

namespace SyncedBuffer

variable {α : Type}

def initial (iMaxSize : ℕ) : SyncedBuffer α := ⟨iMaxSize, [], false⟩

/-- `IsEmpty`. -/
def isEmpty (b : SyncedBuffer α) : Bool := !b.hasData

/-- `Push`. -/
def push (b : SyncedBuffer α) (entry : α) : Bool × SyncedBuffer α :=
  if b.buffer.length = b.maxSize then (false, b)
  else (true, { b with buffer := b.buffer ++ [entry], hasData := true })

/-- `Pop` with its default timeout, which does not wait. -/
def pop (b : SyncedBuffer α) : Option α × SyncedBuffer α :=
  match b.buffer with
  | [] => (none, b)
  | entry :: rest => (some entry, { b with buffer := rest, hasData := !rest.isEmpty })

/-- The flag says whether there is data, and there is not more than the buffer has room for. -/
structure Valid (cap : ℕ) (b : SyncedBuffer α) : Prop where
  maxSize : b.maxSize = cap
  fits : b.buffer.length ≤ cap
  hasData : b.hasData = !b.buffer.isEmpty

variable {cap : ℕ} {b : SyncedBuffer α}

theorem valid_initial (cap : ℕ) : (initial cap : SyncedBuffer α).Valid cap :=
  ⟨rfl, Nat.zero_le cap, rfl⟩

theorem Valid.isEmpty_iff (hb : b.Valid cap) : b.isEmpty ↔ b.buffer = [] := by
  simp [isEmpty, hb.hasData]

theorem push_of_room (hb : b.Valid cap) (hroom : b.buffer.length < cap) (entry : α) :
    b.push entry = (true, { b with buffer := b.buffer ++ [entry], hasData := true }) := by
  rw [push, if_neg (by rw [hb.maxSize]; omega)]

theorem push_of_full (hb : b.Valid cap) (hfull : b.buffer.length = cap) (entry : α) :
    b.push entry = (false, b) := by
  rw [push, if_pos (by rw [hb.maxSize, hfull])]

theorem valid_push (hb : b.Valid cap) (entry : α) : (b.push entry).2.Valid cap := by
  rcases Nat.lt_or_eq_of_le hb.fits with hroom | hfull
  · rw [push_of_room hb hroom]
    exact ⟨hb.maxSize, by simpa using Nat.succ_le_of_lt hroom, by simp⟩
  · rw [push_of_full hb hfull]
    exact hb

theorem pop_nil (h : b.buffer = []) : b.pop = (none, b) := by simp only [pop, h]

theorem pop_cons {entry : α} {rest : List α} (h : b.buffer = entry :: rest) :
    b.pop = (some entry, { b with buffer := rest, hasData := !rest.isEmpty }) := by
  simp only [pop, h]

theorem valid_pop (hb : b.Valid cap) : b.pop.2.Valid cap := by
  cases h : b.buffer with
  | nil => rw [pop_nil h]; exact hb
  | cons entry rest =>
    have hfits := hb.fits
    rw [h, List.length_cons] at hfits
    rw [pop_cons h]
    exact ⟨hb.maxSize, by simpa using Nat.le_of_succ_le hfits, rfl⟩

end SyncedBuffer

/-! ### `CCECInputBuffer` -/

/-- The default for the size of a `SyncedBuffer`. -/
def inputBufferSize : ℕ := 100

/-- `CCECInputBuffer`. -/
structure InputBuffer where
  hasData : Bool
  tvInBuffer : SyncedBuffer Command
  inBuffer : SyncedBuffer Command

namespace InputBuffer

def initial : InputBuffer := ⟨false, .initial inputBufferSize, .initial inputBufferSize⟩

/-- `Broadcast`. -/
def broadcast (b : InputBuffer) : InputBuffer := { b with hasData := true }

/-- `Push`. -/
def push (b : InputBuffer) (command : Command) : Bool × InputBuffer :=
  if command.initiator = .tv then
    let pushed := b.tvInBuffer.push command
    (pushed.1, { b with tvInBuffer := pushed.2, hasData := b.hasData || pushed.1 })
  else
    let pushed := b.inBuffer.push command
    (pushed.1, { b with inBuffer := pushed.2, hasData := b.hasData || pushed.1 })

/-- Whether `Pop` waits for `m_bHasData`. -/
def waits (b : InputBuffer) : Bool := b.tvInBuffer.isEmpty && b.inBuffer.isEmpty && !b.hasData

/-- The end of `Pop`: `m_bHasData` is what the two buffers say. -/
def popped (b : InputBuffer) (command : Option Command) : Option Command × InputBuffer :=
  (command, { b with hasData := !b.tvInBuffer.isEmpty || !b.inBuffer.isEmpty })

/-- `Pop` after it has waited. -/
def pop (b : InputBuffer) : Option Command × InputBuffer :=
  let fromTv := b.tvInBuffer.pop
  if fromTv.1.isSome then { b with tvInBuffer := fromTv.2 }.popped fromTv.1
  else
    let other := b.inBuffer.pop
    { b with tvInBuffer := fromTv.2, inBuffer := other.2 }.popped other.1

/-- The class of a command: the TV's comes first. -/
def inputClass (command : Command) : Fin 2 := if command.initiator = .tv then 0 else 1

/-- What is queued of each class. -/
def queues (b : InputBuffer) (k : Fin 2) : List Command :=
  if k = 0 then b.tvInBuffer.buffer else b.inBuffer.buffer

/-- There is a command to be popped. -/
def Nonempty (b : InputBuffer) : Prop := ∃ k, b.queues k ≠ []

/-- Commands are in the queue of their class, the flags of the two buffers are right, and no command
    is hidden by the flag around them. -/
structure Valid (b : InputBuffer) : Prop where
  tvInBuffer : b.tvInBuffer.Valid inputBufferSize
  inBuffer : b.inBuffer.Valid inputBufferSize
  sorted : ∀ k, ∀ c ∈ b.queues k, inputClass c = k
  hasData : b.Nonempty → b.hasData

theorem nonempty_iff (b : InputBuffer) :
    b.Nonempty ↔ b.tvInBuffer.buffer ≠ [] ∨ b.inBuffer.buffer ≠ [] := by
  constructor
  · rintro ⟨k, hk⟩
    unfold queues at hk
    split at hk
    · exact .inl hk
    · exact .inr hk
  · rintro (h | h)
    · exact ⟨0, h⟩
    · exact ⟨1, h⟩

theorem queues_tv (b : InputBuffer) (x : SyncedBuffer Command) (flag : Bool) :
    queues { b with tvInBuffer := x, hasData := flag } = Function.update b.queues 0 x.buffer := by
  funext k
  by_cases hk : k = 0
  · subst hk
    rw [Function.update_self]
    rfl
  · rw [Function.update_of_ne hk, queues, queues, if_neg hk, if_neg hk]

theorem queues_other (b : InputBuffer) (x : SyncedBuffer Command) (flag : Bool) :
    queues { b with inBuffer := x, hasData := flag } = Function.update b.queues 1 x.buffer := by
  funext k
  by_cases hk : k = 1
  · subst hk
    rw [Function.update_self]
    rfl
  · have h0 : k = 0 := by omega
    rw [Function.update_of_ne hk, queues, queues, if_pos h0, if_pos h0]

/-- A step that changes the buffer for the TV's commands. -/
theorem step_tv {b : InputBuffer} {x : SyncedBuffer Command} {e : QueueEvent Command} (flag : Bool)
    (h : FifoStep inputClass inputBufferSize b.queues e (Function.update b.queues 0 x.buffer)) :
    FifoStep inputClass inputBufferSize b.queues e
      (queues { b with tvInBuffer := x, hasData := flag }) := by
  rw [queues_tv b x flag]
  exact h

theorem step_other {b : InputBuffer} {x : SyncedBuffer Command} {e : QueueEvent Command} (flag : Bool)
    (h : FifoStep inputClass inputBufferSize b.queues e (Function.update b.queues 1 x.buffer)) :
    FifoStep inputClass inputBufferSize b.queues e
      (queues { b with inBuffer := x, hasData := flag }) := by
  rw [queues_other b x flag]
  exact h

theorem valid_initial : initial.Valid where
  tvInBuffer := SyncedBuffer.valid_initial _
  inBuffer := SyncedBuffer.valid_initial _
  sorted := fun k c hc => by simp [queues, initial, SyncedBuffer.initial] at hc
  hasData := fun h => by simp [nonempty_iff, initial, SyncedBuffer.initial] at h

theorem Valid.broadcast {b : InputBuffer} (hb : b.Valid) : b.broadcast.Valid :=
  ⟨hb.tvInBuffer, hb.inBuffer, hb.sorted, fun _ => rfl⟩

/-! ### `Push` -/

theorem push_of_tv {b : InputBuffer} {command : Command} (h : command.initiator = .tv) :
    b.push command = ((b.tvInBuffer.push command).1,
      { b with
        tvInBuffer := (b.tvInBuffer.push command).2
        hasData := b.hasData || (b.tvInBuffer.push command).1 }) := if_pos h

theorem push_of_other {b : InputBuffer} {command : Command} (h : command.initiator ≠ .tv) :
    b.push command = ((b.inBuffer.push command).1,
      { b with
        inBuffer := (b.inBuffer.push command).2
        hasData := b.hasData || (b.inBuffer.push command).1 }) := if_neg h

/-- A command that finds room goes to the end of its queue, another one is refused. -/
theorem push_step {b : InputBuffer} (hb : b.Valid) (command : Command) :
    FifoStep inputClass inputBufferSize b.queues (.pushed command (b.push command).1)
      (b.push command).2.queues := by
  by_cases htv : command.initiator = .tv
  · have hcls : inputClass command = 0 := if_pos htv
    rw [push_of_tv htv]
    rcases Nat.lt_or_eq_of_le hb.tvInBuffer.fits with hroom | hfull
    · have h : FifoStep inputClass _ b.queues _ _ := .accepted command (by rw [hcls]; exact hroom)
      rw [hcls] at h
      rw [SyncedBuffer.push_of_room hb.tvInBuffer hroom]
      exact step_tv _ h
    · rw [SyncedBuffer.push_of_full hb.tvInBuffer hfull, Bool.or_false]
      exact .refused command (by rw [hcls]; exact hfull)
  · have hcls : inputClass command = 1 := if_neg htv
    rw [push_of_other htv]
    rcases Nat.lt_or_eq_of_le hb.inBuffer.fits with hroom | hfull
    · have h : FifoStep inputClass _ b.queues _ _ := .accepted command (by rw [hcls]; exact hroom)
      rw [hcls] at h
      rw [SyncedBuffer.push_of_room hb.inBuffer hroom]
      exact step_other _ h
    · rw [SyncedBuffer.push_of_full hb.inBuffer hfull, Bool.or_false]
      exact .refused command (by rw [hcls]; exact hfull)

/-- The flag around the two buffers, after a `Push`. -/
theorem hasData_push (b : InputBuffer) (command : Command) :
    (b.push command).2.hasData = (b.hasData || (b.push command).1) := by
  unfold push
  split <;> rfl

theorem valid_push {b : InputBuffer} (hb : b.Valid) (command : Command) :
    (b.push command).2.Valid := by
  have hstep := push_step hb command
  refine ⟨?_, ?_, ?_, ?_⟩
  · unfold push
    split
    · exact SyncedBuffer.valid_push hb.tvInBuffer command
    · exact hb.tvInBuffer
  · unfold push
    split
    · exact hb.inBuffer
    · exact SyncedBuffer.valid_push hb.inBuffer command
  · exact hstep.sorted hb.sorted
  · rintro ⟨k, hk⟩
    rw [hasData_push, Bool.or_eq_true]
    -- nothing but an accepted command is new
    by_cases hacc : (b.push command).1 = true
    · exact .inr hacc
    · rw [Bool.not_eq_true] at hacc
      rw [hacc] at hstep
      rw [hstep.refused_eq] at hk
      exact .inl (hb.hasData ⟨k, hk⟩)

theorem push_iff {b : InputBuffer} (hb : b.Valid) (command : Command) :
    (b.push command).1 ↔ (b.queues (inputClass command)).length < inputBufferSize :=
  (push_step hb command).accepted_iff

/-! ### `Pop` -/

theorem waits_iff {b : InputBuffer} (hb : b.Valid) : b.waits ↔ ¬b.Nonempty ∧ b.hasData = false := by
  rw [nonempty_iff, waits, Bool.and_eq_true, Bool.and_eq_true, hb.tvInBuffer.isEmpty_iff,
    hb.inBuffer.isEmpty_iff]
  simp

/-- The command of the TV that has waited longest. -/
theorem pop_of_tv {b : InputBuffer} {command : Command} {rest : List Command}
    (h : b.tvInBuffer.buffer = command :: rest) :
    b.pop = popped { b with tvInBuffer := b.tvInBuffer.pop.2 } (some command) := by
  rw [pop, SyncedBuffer.pop_cons h]
  rfl

/-- Without one, that of another device. -/
theorem pop_of_other {b : InputBuffer} (h : b.tvInBuffer.buffer = []) :
    b.pop = popped { b with inBuffer := b.inBuffer.pop.2 } b.inBuffer.pop.1 := by
  rw [pop, SyncedBuffer.pop_nil h]
  rfl

/-- `Pop` takes the first command of its queue, the TV's first. -/
theorem pop_step {b : InputBuffer} (hb : b.Valid) :
    FifoStep inputClass inputBufferSize b.queues (.popped b.pop.1) b.pop.2.queues := by
  cases htv : b.tvInBuffer.buffer with
  | cons command rest =>
    have hcls : inputClass command = 0 := hb.sorted 0 command (by
      rw [queues, if_pos rfl, htv]
      exact List.mem_cons_self)
    have h : FifoStep inputClass inputBufferSize b.queues _ _ := .taken command rest
      (by rw [hcls]; exact htv) (by rw [hcls]; exact fun k hk => absurd hk (Fin.not_lt_zero k))
    rw [hcls] at h
    rw [pop_of_tv htv, popped, SyncedBuffer.pop_cons htv]
    exact step_tv _ h
  | nil =>
    rw [pop_of_other htv, popped]
    cases hin : b.inBuffer.buffer with
    | cons command rest =>
      have hcls : inputClass command = 1 := hb.sorted 1 command (by
        rw [queues, if_neg (by decide), hin]
        exact List.mem_cons_self)
      have h : FifoStep inputClass inputBufferSize b.queues _ _ := .taken command rest
        (by rw [hcls]; exact hin) (by
          rw [hcls]
          intro k hk
          rw [queues, if_pos (by omega), htv])
      rw [hcls] at h
      rw [SyncedBuffer.pop_cons hin]
      exact step_other _ h
    | nil =>
      rw [SyncedBuffer.pop_nil hin]
      refine .nothing fun k => ?_
      unfold queues
      split
      · exact htv
      · exact hin

/-- After a `Pop` the flag says whether a command is left. -/
theorem hasData_pop {b : InputBuffer} (hb : b.Valid) : b.pop.2.hasData ↔ b.pop.2.Nonempty := by
  have hflags : b.pop.2.hasData = (!b.pop.2.tvInBuffer.isEmpty || !b.pop.2.inBuffer.isEmpty) ∧
      b.pop.2.tvInBuffer.Valid inputBufferSize ∧ b.pop.2.inBuffer.Valid inputBufferSize := by
    cases htv : b.tvInBuffer.buffer with
    | cons command rest =>
      rw [pop_of_tv htv]
      exact ⟨rfl, SyncedBuffer.valid_pop hb.tvInBuffer, hb.inBuffer⟩
    | nil =>
      rw [pop_of_other htv]
      exact ⟨rfl, hb.tvInBuffer, SyncedBuffer.valid_pop hb.inBuffer⟩
  obtain ⟨hflag, htv, hin⟩ := hflags
  rw [hflag, nonempty_iff, ← not_iff_not, not_or, not_not, not_not, ← htv.isEmpty_iff,
    ← hin.isEmpty_iff]
  simp

theorem valid_pop {b : InputBuffer} (hb : b.Valid) : b.pop.2.Valid := by
  refine ⟨?_, ?_, (pop_step hb).sorted hb.sorted, (hasData_pop hb).mpr⟩
  · cases htv : b.tvInBuffer.buffer with
    | cons command rest =>
      rw [pop_of_tv htv]
      exact SyncedBuffer.valid_pop hb.tvInBuffer
    | nil =>
      rw [pop_of_other htv]
      exact hb.tvInBuffer
  · cases htv : b.tvInBuffer.buffer with
    | cons command rest =>
      rw [pop_of_tv htv]
      exact hb.inBuffer
    | nil =>
      rw [pop_of_other htv]
      exact SyncedBuffer.valid_pop hb.inBuffer

/-! ### The threads that call it -/

/-- A buffer, and the timeouts of the calls of `Pop` that wait. -/
structure Shared where
  buffer : InputBuffer
  waiting : ℕ → Option UInt16

/-- What a thread does next, holding the lock. -/
inductive Action where
  | push (command : Command)
  | broadcast
  /-- `Pop` up to where it waits, to its end when it does not -/
  | pop (t : ℕ) (iTimeout : UInt16)
  /-- a `Pop` that waits is woken up -/
  | wake (t : ℕ)
  /-- the timeout of a `Pop` that waits is over; there is none when it is 0 -/
  | timeOut (t : ℕ)

namespace Shared

def initial : Shared := ⟨.initial, fun _ => none⟩

/-- `Pop` of the thread goes on to its end. -/
def finish (s : Shared) (t : ℕ) : QueueEvent Command × Shared :=
  (.popped s.buffer.pop.1, ⟨s.buffer.pop.2, Function.update s.waiting t none⟩)

/-- A step, and what is seen of it. -/
def step (s : Shared) : Action → Option (QueueEvent Command × Shared)
  | .push command =>
    some (.pushed command (s.buffer.push command).1,
      { s with buffer := (s.buffer.push command).2 })
  | .broadcast => some (.internal, { s with buffer := s.buffer.broadcast })
  | .pop t iTimeout =>
    if (s.waiting t).isSome then none
    else if s.buffer.waits then
      some (.internal, { s with waiting := Function.update s.waiting t (some iTimeout) })
    else some (s.finish t)
  | .wake t =>
    -- the wait goes on as long as its predicate is false
    if (s.waiting t).isSome ∧ s.buffer.hasData then some (s.finish t) else none
  | .timeOut t =>
    if (s.waiting t).any (· ≠ 0) then
      if s.buffer.hasData then some (s.finish t)
      else some (.popped none, { s with waiting := Function.update s.waiting t none })
    else none

/-- A step of any thread that is seen as the event. -/
def Step (s : Shared) (e : QueueEvent Command) (s' : Shared) : Prop :=
  ∃ a, s.step a = some (e, s')

variable {s s' : Shared} {e : QueueEvent Command}

/-- What a step does: a `Push`, the end of a `Pop` that waits no longer, a `Pop` whose time is over
    while the flag is false, or something that leaves the queues as they are. -/
theorem step_cases (h : Step s e s') :
    (∃ command, e = .pushed command (s.buffer.push command).1 ∧
      s'.buffer = (s.buffer.push command).2) ∨
    (e = .popped s.buffer.pop.1 ∧ s'.buffer = s.buffer.pop.2) ∨
    (e = .popped none ∧ s'.buffer = s.buffer ∧ s.buffer.hasData = false) ∨
    (e = .internal ∧ (s'.buffer = s.buffer ∨ s'.buffer = s.buffer.broadcast)) := by
  obtain ⟨a, ha⟩ := h
  cases a with
  | push command =>
    obtain ⟨rfl, rfl⟩ := Prod.mk.inj (Option.some.inj ha)
    exact .inl ⟨command, rfl, rfl⟩
  | broadcast =>
    obtain ⟨rfl, rfl⟩ := Prod.mk.inj (Option.some.inj ha)
    exact .inr (.inr (.inr ⟨rfl, .inr rfl⟩))
  | pop t iTimeout =>
    simp only [step] at ha
    split_ifs at ha with hbusy hwaits
    · obtain ⟨rfl, rfl⟩ := Prod.mk.inj (Option.some.inj ha)
      exact .inr (.inr (.inr ⟨rfl, .inl rfl⟩))
    · obtain ⟨rfl, rfl⟩ := Prod.mk.inj (Option.some.inj ha)
      exact .inr (.inl ⟨rfl, rfl⟩)
  | wake t =>
    simp only [step] at ha
    split_ifs at ha with hwaiting
    obtain ⟨rfl, rfl⟩ := Prod.mk.inj (Option.some.inj ha)
    exact .inr (.inl ⟨rfl, rfl⟩)
  | timeOut t =>
    simp only [step] at ha
    split_ifs at ha with hwaiting hdata
    · obtain ⟨rfl, rfl⟩ := Prod.mk.inj (Option.some.inj ha)
      exact .inr (.inl ⟨rfl, rfl⟩)
    · obtain ⟨rfl, rfl⟩ := Prod.mk.inj (Option.some.inj ha)
      exact .inr (.inr (.inl ⟨rfl, rfl, by simpa using hdata⟩))

theorem empty_of_flag (hs : s.buffer.Valid) (h : s.buffer.hasData = false) (k : Fin 2) :
    s.buffer.queues k = [] := by
  by_contra hk
  exact absurd (hs.hasData ⟨k, hk⟩) (by simp [h])

theorem valid_step (hs : s.buffer.Valid) (h : Step s e s') : s'.buffer.Valid := by
  obtain ⟨command, -, hb⟩ | ⟨-, hb⟩ | ⟨-, hb, -⟩ | ⟨-, hb | hb⟩ := step_cases h
  · rw [hb]; exact valid_push hs command
  · rw [hb]; exact valid_pop hs
  · rw [hb]; exact hs
  · rw [hb]; exact hs
  · rw [hb]; exact hs.broadcast

/-- Each step of a thread is a step of the two queues. -/
theorem fifo_step (hs : s.buffer.Valid) (h : Step s e s') :
    FifoStep inputClass inputBufferSize s.buffer.queues e s'.buffer.queues := by
  obtain ⟨command, rfl, hb⟩ | ⟨rfl, hb⟩ | ⟨rfl, hb, hflag⟩ | ⟨rfl, hb | hb⟩ := step_cases h
  · rw [hb]; exact push_step hs command
  · rw [hb]; exact pop_step hs
  · rw [hb]; exact .nothing (empty_of_flag hs hflag)
  · rw [hb]; exact .internal _
  · rw [hb]; exact .internal _

/-- After a `Pop`, whether or not it has waited in vain, the flag says whether a command is left. -/
theorem hasData_of_popped (hs : s.buffer.Valid) {r : Option Command} (h : Step s (.popped r) s') :
    s'.buffer.hasData ↔ s'.buffer.Nonempty := by
  obtain ⟨command, he, -⟩ | ⟨-, hb⟩ | ⟨-, hb, hflag⟩ | ⟨he, -⟩ := step_cases h
  · exact absurd he (by simp)
  · rw [hb]; exact hasData_pop hs
  · rw [hb, hflag]
    exact iff_of_false Bool.false_ne_true fun ⟨k, hk⟩ => hk (empty_of_flag hs hflag k)
  · exact absurd he (by simp)

/-- What callers see of a run that led to `s` is what they would see of two FIFO queues, and nobody
    waits for a command that is there. -/
structure RefinesQueues (es : List (QueueEvent Command)) (s : Shared) : Prop where
  fifo : Observed (FifoStep inputClass inputBufferSize) (fun _ => []) es s.buffer.queues
  once : ∀ k, acceptedInto inputClass k es = takenFrom inputClass k es ++ s.buffer.queues k
  bounded : ∀ k, (s.buffer.queues k).length ≤ inputBufferSize
  accepts : ∀ command, (s.buffer.push command).1 ↔
    (s.buffer.queues (inputClass command)).length < inputBufferSize
  tvFirst : ∀ {command s'}, Step s (.popped (some command)) s' → s.buffer.queues 0 ≠ [] →
    command.initiator = .tv
  neverWaits : s.buffer.Nonempty → ∀ t iTimeout,
    s.step (if (s.waiting t).isSome then .wake t else .pop t iTimeout) = some (s.finish t) ∧
      s.buffer.pop.1.isSome
  flag : ∀ {r s'}, Step s (.popped r) s' → (s'.buffer.hasData ↔ s'.buffer.Nonempty)

theorem refinesQueues {es : List (QueueEvent Command)} (h : Observed Step initial es s) :
    RefinesQueues es s := by
  have hstart : initial.buffer.Valid := InputBuffer.valid_initial
  have hs : s.buffer.Valid := h.invariant (fun s => s.buffer.Valid) valid_step hstart
  have hempty : initial.buffer.queues = fun _ => [] := by
    funext k
    unfold InputBuffer.queues
    split <;> rfl
  have hfifo : Observed (FifoStep inputClass inputBufferSize) (fun _ => []) es s.buffer.queues :=
    hempty ▸ h.refine (fun s => s.buffer.Valid) (fun s => s.buffer.queues) valid_step fifo_step hstart
  refine ⟨hfifo, fun k => by simpa using conserved hfifo k,
    hfifo.invariant (fun q => ∀ k, (q k).length ≤ inputBufferSize) FifoStep.bounded
      fun _ => Nat.zero_le _, push_iff hs, ?_, ?_,
    hasData_of_popped hs⟩
  · intro command s' hpop htv
    have hcls : inputClass command = 0 := le_antisymm ((fifo_step hs hpop).first htv) (Fin.zero_le _)
    by_contra hother
    rw [inputClass, if_neg hother] at hcls
    exact absurd hcls (by decide)
  · intro hne t iTimeout
    have hdata : s.buffer.hasData = true := hs.hasData hne
    have hwaits : s.buffer.waits = false := by
      rw [← Bool.not_eq_true, waits_iff hs]
      exact fun hw => hw.1 hne
    refine ⟨?_, ?_⟩
    · split
      · next hwaiting => rw [step, if_pos ⟨hwaiting, hdata⟩]
      · next hfree => rw [step, if_neg hfree, hwaits, if_neg Bool.false_ne_true]
    · rw [Option.isSome_iff_ne_none, ne_eq, (pop_step hs).nothing_iff]
      obtain ⟨k, hk⟩ := hne
      exact fun hall => hk (hall k)

/-- A device asks for the active source, and the TV sends standby. -/
def requestActiveSource : Command := Command.clear.pushArray [0x4F, 0x85]

def standbyFromTv : Command := Command.clear.pushArray [0x0F, 0x36]

/-- What the TV sent last is popped first. -/
theorem refinesQueues_tvFirst : ∃ s, RefinesQueues
    [.pushed requestActiveSource true, .pushed standbyFromTv true, .popped (some standbyFromTv)] s := by
  have hrequest : Step initial (.pushed requestActiveSource true)
      { initial with buffer := (initial.buffer.push requestActiveSource).2 } := ⟨.push _, rfl⟩
  have hstandby : ∀ s : Shared, (s.buffer.push standbyFromTv).1 = true →
      Step s (.pushed standbyFromTv true) { s with buffer := (s.buffer.push standbyFromTv).2 } :=
    fun s h => ⟨.push standbyFromTv, by rw [step, h]⟩
  have hpop : Step { initial with buffer :=
      ((initial.buffer.push requestActiveSource).2.push standbyFromTv).2 }
      (.popped (some standbyFromTv)) _ := ⟨.pop 0 0, rfl⟩
  exact ⟨_, refinesQueues (.snoc (.snoc (.snoc (.nil _) hrequest) (hstandby _ rfl)) hpop)⟩

end Shared

end InputBuffer

end CEC
