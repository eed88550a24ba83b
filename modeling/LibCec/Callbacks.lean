import LibCec.Schemes.ManualHeap
import LibCec.Schemes.Schedule
import Mathlib.Data.Int.Notation
import Mathlib.Data.List.Nodup

/-! Who deletes a `CCallbackWrap`.

    `QueueMenuStateChanged` and `QueueCommandHandler` wait for the result of a callback that the
    thread of the client makes; the others that push a callback do not wait.

        caller    created ─ Push ▶ pushed ─ Result ▶ resulted ─▶ deleting ─▶ idle
                                      └── timeout ─▶ timedOut ─────────────▶ idle
        client    idle ─ Pop ▶ calling ─ Report, throw ▶ deleting ─▶ idle

    `m_keepResult` says who of them deletes: the caller, unless its wait has timed out. -/

namespace CEC
open Schemes

namespace CallbackCalls

/-- A `CCallbackWrap`; `caller` is the thread that waits for its result. -/
structure CCallbackWrap where
  keepResult : Bool
  result : ℤ
  bSucceeded : Bool
  caller : Option ℕ
  deriving DecidableEq

/-- Where a thread is in `QueueMenuStateChanged` or `QueueCommandHandler`. -/
inductive Stage where
  | idle (last : Option ℤ)
  | created (r : ℕ)
  | pushed (r : ℕ)
  | timedOut (r : ℕ)
  | resulted (r : ℕ) (result : ℤ)
  | deleting (r : ℕ) (result : ℤ)
  deriving DecidableEq

/-- The wrap that the thread is going to use. -/
def Stage.holds : Stage → Option ℕ
  | .idle _ => none
  | .created r | .pushed r | .timedOut r | .resulted r _ | .deleting r _ => some r

/-- The wrap that the thread is going to delete. -/
def Stage.keeps (w : CCallbackWrap) : Stage → Option ℕ
  | .created r | .resulted r _ | .deleting r _ => some r
  | .pushed r => if w.bSucceeded then some r else none
  | _ => none

/-- What the thread knows of its wrap. -/
def Stage.agrees (w : CCallbackWrap) : Stage → Bool
  | .idle _ => true
  | .created _ => w.keepResult && !w.bSucceeded
  | .pushed _ => w.keepResult
  | .timedOut _ => !w.keepResult
  | .resulted _ _ | .deleting _ _ => w.keepResult && w.bSucceeded

/-- Where the thread of the client is in `Process`. -/
inductive Calling where
  | idle
  | calling (r : ℕ)
  | deleting (r : ℕ)
  deriving DecidableEq

/-- The wrap that the thread of the client has taken off the queue. -/
def Calling.wrap : Calling → Option ℕ
  | .idle => none
  | .calling r | .deleting r => some r

/-- How far the destructor of the client is. -/
inductive Lifetime where
  | alive | draining | gone
  deriving DecidableEq

end CallbackCalls

open CallbackCalls in
/-- `m_callbackCalls`, the wraps, and who uses them. -/
structure CallbackCalls where
  queue : List ℕ
  wraps : ManualHeap CCallbackWrap
  threads : ℕ → Stage
  calling : Calling
  lifetime : Lifetime

namespace CallbackCalls

def initial : CallbackCalls := ⟨[], .empty, fun _ => .idle none, .idle, .alive⟩

def moveTo (s : CallbackCalls) (t : ℕ) (stage : Stage) : CallbackCalls :=
  { s with threads := Function.update s.threads t stage }

theorem moveTo_threads (s : CallbackCalls) (t u : ℕ) (stage : Stage) :
    (s.moveTo t stage).threads u = if u = t then stage else s.threads u := by
  simp [moveTo, Function.update_apply]

@[simp] theorem moveTo_queue (s : CallbackCalls) (t : ℕ) (stage : Stage) :
    (s.moveTo t stage).queue = s.queue := rfl

@[simp] theorem moveTo_calling (s : CallbackCalls) (t : ℕ) (stage : Stage) :
    (s.moveTo t stage).calling = s.calling := rfl

@[simp] theorem moveTo_wraps (s : CallbackCalls) (t : ℕ) (stage : Stage) :
    (s.moveTo t stage).wraps = s.wraps := rfl

/-- The size of a `SyncedBuffer`. -/
def maxSize : ℕ := 100

/-- Whether `Push` takes another wrap. -/
def takes (s : CallbackCalls) : Bool := s.queue.length ≠ maxSize && s.lifetime ≠ .gone

/-- `Push`, whose result nobody looks at. -/
def push (s : CallbackCalls) (r : ℕ) : CallbackCalls :=
  if s.takes then { s with queue := s.queue ++ [r] } else s

/-! ### The callers -/

/-- A callback that nobody waits for. -/
def post (s : CallbackCalls) : CallbackCalls :=
  push { s with wraps := s.wraps.create ⟨false, 0, false, none⟩ } s.wraps.next

/-- The wrap of a call that waits. -/
def create (s : CallbackCalls) (t : ℕ) : CallbackCalls :=
  { s with wraps := s.wraps.create ⟨true, 0, false, some t⟩ }.moveTo t (.created s.wraps.next)

/-- The end of `Result`: there is one, or the wait has timed out. -/
def result (s : CallbackCalls) (t r : ℕ) : CallbackCalls :=
  match (s.wraps.cell r).filter CCallbackWrap.bSucceeded with
  | some w => { s with wraps := s.wraps.touch r }.moveTo t (.resulted r w.result)
  | none =>
    { s with wraps := s.wraps.use r fun w => { w with keepResult := false } }.moveTo t (.timedOut r)

/-- Whether `m_keepResult` is set. -/
def keepsResult (s : CallbackCalls) (r : ℕ) : Bool := (s.wraps.cell r).any CCallbackWrap.keepResult

/-- The test of `m_keepResult` after `Result` has returned. -/
def finish (s : CallbackCalls) (t r : ℕ) (result : ℤ) : CallbackCalls :=
  { s with wraps := s.wraps.touch r }.moveTo t
    (if s.keepsResult r then .deleting r result else .idle (some result))

/-! ### The thread of the client -/

/-- `Report` to a caller that waits; any other callback just returns. -/
def report (s : CallbackCalls) (r : ℕ) (result : ℤ) : CallbackCalls :=
  { s with
    wraps := s.wraps.use r fun w =>
      if w.caller.isSome then { w with result := result, bSucceeded := true } else w
    calling := if s.keepsResult r then .idle else .deleting r }

/-! ### Interleavings -/

/-- What one of them does next. -/
inductive Action where
  | post
  | create (t : ℕ)
  | push (t : ℕ)
  | result (t : ℕ)
  | finish (t : ℕ)
  /-- The caller deletes its wrap. -/
  | delete (t : ℕ)
  | pop
  /-- The callback returns. -/
  | report (result : ℤ)
  /-- The callback throws. -/
  | throw
  /-- The thread of the client deletes the wrap. -/
  | dispose
  /-- The destructor has stopped the thread of the client, or has given up on it. -/
  | destroy
  /-- The destructor deletes what is left in the queue. -/
  | drain
  | drained
  deriving DecidableEq

/-- The next step of a caller. -/
def callerStep (s : CallbackCalls) : Action → Option CallbackCalls
  | .post => some s.post
  | .create t =>
    match s.threads t with
    | .idle _ => some (s.create t)
    | _ => none
  | .push t =>
    match s.threads t with
    | .created r => some ((s.push r).moveTo t (.pushed r))
    | _ => none
  | .result t =>
    match s.threads t with
    | .pushed r => some (s.result t r)
    | _ => none
  | .finish t =>
    match s.threads t with
    | .timedOut r => some (s.finish t r 0)
    | .resulted r result => some (s.finish t r result)
    | _ => none
  | .delete t =>
    match s.threads t with
    | .deleting r result =>
      some ({ s with wraps := s.wraps.delete r }.moveTo t (.idle (some result)))
    | _ => none
  | _ => none

/-- The next step of the thread of the client, or of the destructor. -/
def clientStep (s : CallbackCalls) : Action → Option CallbackCalls
  | .pop =>
    match s.calling, s.queue with
    | .idle, r :: rest =>
      some { s with queue := rest, wraps := s.wraps.touch r, calling := .calling r }
    | _, _ => none
  | .report result =>
    match s.calling with
    | .calling r => some (s.report r result)
    | _ => none
  | .throw =>
    match s.calling with
    | .calling r => some { s with calling := .deleting r }
    | _ => none
  | .dispose =>
    match s.calling with
    | .deleting r => some { s with wraps := s.wraps.delete r, calling := .idle }
    | _ => none
  | .destroy => if s.lifetime = .alive then some { s with lifetime := .draining } else none
  | .drain =>
    match s.lifetime, s.queue with
    | .draining, r :: rest => some { s with queue := rest, wraps := s.wraps.delete r }
    | _, _ => none
  | .drained =>
    if s.lifetime = .draining ∧ s.queue = [] then some { s with lifetime := .gone } else none
  | _ => none

def step (s : CallbackCalls) (a : Action) : Option CallbackCalls :=
  (s.callerStep a).or (s.clientStep a)

/-! ### Owners -/

/-- The caller of the wrap is going to delete it. -/
def isKept (s : CallbackCalls) (r : ℕ) : Bool :=
  (s.wraps.cell r).any fun w => w.caller.any fun t => (s.threads t).keeps w = some r

/-- How many are responsible for the wrap: the queue, the thread of the client, its caller. -/
def owners (s : CallbackCalls) (r : ℕ) : ℕ :=
  (if r ∈ s.queue then 1 else 0) + (if s.calling.wrap = some r then 1 else 0) +
    if s.isKept r then 1 else 0

/-- No wrap was used or deleted after it was deleted, and each one that is left has one owner. -/
def Owned (s : CallbackCalls) : Prop :=
  s.wraps.fault = false ∧ ∀ r, s.wraps.isLive r → s.owners r = 1

/-- No caller is going to use the wrap. -/
def Released (s : CallbackCalls) (r : ℕ) : Prop := ∀ t, (s.threads t).holds ≠ some r

/-- Each wrap that is pushed fits into the queue, and the wraps that the thread of the client or the
    destructor delete are not used by their callers any more. -/
def Settled (s : CallbackCalls) : Action → Prop
  | .post | .push _ => s.takes
  | .dispose => ∀ r, s.calling = .deleting r → s.Released r
  | .drain => ∀ r ∈ s.queue.head?, s.Released r
  | _ => True

/-! ### The invariant -/

theorem Stage.holds_of_keeps {stage : Stage} {w : CCallbackWrap} {r : ℕ}
    (h : stage.keeps w = some r) : stage.holds = some r := by
  cases stage with
  | pushed i =>
    simp only [Stage.keeps, Option.ite_none_right_eq_some] at h
    exact h.2
  | idle _ | timedOut _ => cases h
  | created _ | resulted _ _ | deleting _ _ => exact h

/-- Exactly one of three. -/
def OneOf (a b c : Prop) : Prop := a ∧ ¬b ∧ ¬c ∨ ¬a ∧ b ∧ ¬c ∨ ¬a ∧ ¬b ∧ c

theorem owners_eq_one {s : CallbackCalls} {r : ℕ} :
    s.owners r = 1 ↔ OneOf (r ∈ s.queue) (s.calling.wrap = some r) (s.isKept r) := by
  unfold owners OneOf
  by_cases hq : r ∈ s.queue <;> by_cases hc : s.calling.wrap = some r <;>
    cases hk : s.isKept r <;> simp [hq, hc]

/-- Who has to do with a wrap. -/
structure Accounted (s : CallbackCalls) (r : ℕ) : Prop where
  queued : r ∈ s.queue → s.wraps.isLive r
  called : s.calling.wrap = some r → s.wraps.isLive r
  linked : ∀ t, (s.threads t).holds = some r →
    ∃ w, s.wraps.cell r = some w ∧ w.caller = some t ∧ (s.threads t).agrees w
  left : ∀ w, s.wraps.cell r = some w → (∀ t, w.caller = some t → (s.threads t).holds ≠ some r) →
    w.keepResult = false
  owned : s.wraps.isLive r → OneOf (r ∈ s.queue) (s.calling.wrap = some r) (s.isKept r)

/-- What holds as long as wraps are pushed and deleted as they should be. -/
structure Sound (s : CallbackCalls) : Prop where
  unfaulted : s.wraps.fault = false
  nodup : s.queue.Nodup
  accounted : ∀ r, Accounted s r

theorem sound_initial : Sound initial where
  unfaulted := rfl
  nodup := List.nodup_nil
  accounted r := by
    refine ⟨fun h => ?_, fun h => ?_, fun t h => ?_, fun w h => ?_, fun h => ?_⟩
    all_goals cases h

section steps

variable {s u : CallbackCalls} {t r : ℕ}

/-- A step that has nothing to do with a wrap. -/
theorem Accounted.congr (hs : Accounted s r) (hcell : u.wraps.cell r = s.wraps.cell r)
    (hqueue : r ∈ u.queue ↔ r ∈ s.queue) (hcalling : u.calling.wrap = some r ↔ s.calling.wrap = some r)
    (hthreads : ∀ t, u.threads t = s.threads t ∨
      (s.threads t).holds ≠ some r ∧ (u.threads t).holds ≠ some r) : Accounted u r := by
  have hlive : u.wraps.isLive r = s.wraps.isLive r := by
    rw [ManualHeap.isLive, ManualHeap.isLive, hcell]
  have hholds : ∀ t, (u.threads t).holds = some r ↔ (s.threads t).holds = some r := fun t => by
    rcases hthreads t with h | ⟨h₁, h₂⟩
    · rw [h]
    · exact iff_of_false h₂ h₁
  have hkept : u.isKept r = s.isKept r := by
    rw [isKept, isKept, hcell]
    congr 1
    funext w
    congr 1
    funext t
    rcases hthreads t with h | ⟨h₁, h₂⟩
    · rw [h]
    · rw [decide_eq_false fun h => h₂ (Stage.holds_of_keeps h),
        decide_eq_false fun h => h₁ (Stage.holds_of_keeps h)]
  refine ⟨fun h => ?_, fun h => ?_, fun t h => ?_, fun w hw hnot => ?_, fun h => ?_⟩
  · rw [hlive]
    exact hs.queued (hqueue.mp h)
  · rw [hlive]
    exact hs.called (hcalling.mp h)
  · obtain ⟨w, hw, hcaller, hagrees⟩ := hs.linked t ((hholds t).mp h)
    refine ⟨w, hcell.trans hw, hcaller, ?_⟩
    rcases hthreads t with hsame | ⟨h₁, -⟩
    · rw [hsame]
      exact hagrees
    · exact absurd ((hholds t).mp h) h₁
  · exact hs.left w (hcell.symm.trans hw) fun t ht h => hnot t ht ((hholds t).mpr h)
  · rw [hqueue, hcalling, hkept]
    exact hs.owned (hlive ▸ h)

/-- Of the three who may own a wrap that is there, the others do not. -/
theorem Accounted.sole (hs : Accounted s r) (hlive : s.wraps.isLive r) :
    (r ∈ s.queue → s.calling.wrap ≠ some r ∧ s.isKept r = false) ∧
      (s.calling.wrap = some r → r ∉ s.queue ∧ s.isKept r = false) ∧
      (s.isKept r → r ∉ s.queue ∧ s.calling.wrap ≠ some r) := by
  rw [← Bool.not_eq_true]
  rcases hs.owned hlive with ⟨h₁, h₂, h₃⟩ | ⟨h₁, h₂, h₃⟩ | ⟨h₁, h₂, h₃⟩
  · exact ⟨fun _ => ⟨h₂, h₃⟩, fun h => absurd h h₂, fun h => absurd h h₃⟩
  · exact ⟨fun h => absurd h h₁, fun _ => ⟨h₁, h₃⟩, fun h => absurd h h₃⟩
  · exact ⟨fun h => absurd h h₁, fun h => absurd h h₂, fun _ => ⟨h₁, h₂⟩⟩

/-- The thread that holds a wrap is the one that has created it. -/
theorem Accounted.unique {t' : ℕ} (hs : Accounted s r) (ht : (s.threads t).holds = some r)
    (ht' : (s.threads t').holds = some r) : t' = t := by
  obtain ⟨w, hw, hcaller, -⟩ := hs.linked t ht
  obtain ⟨w', hw', hcaller', -⟩ := hs.linked t' ht'
  obtain rfl := Option.some.inj (hw.symm.trans hw')
  exact Option.some.inj (hcaller'.symm.trans hcaller)

theorem isLive_of_cell {w : CCallbackWrap} (h : s.wraps.cell r = some w) : s.wraps.isLive r := by
  rw [ManualHeap.isLive, h]
  rfl

/-- What is kept, in terms of the thread that has created the wrap. -/
theorem isKept_eq {w : CCallbackWrap} (hcell : s.wraps.cell r = some w) (hcaller : w.caller = some t) :
    s.isKept r = decide ((s.threads t).keeps w = some r) := by
  rw [isKept, hcell, Option.any_some, hcaller, Option.any_some]

/-- A wrap that is not there yet. -/
theorem Sound.unborn (hs : Sound s) :
    s.wraps.next ∉ s.queue ∧ s.calling.wrap ≠ some s.wraps.next ∧
      ∀ t, (s.threads t).holds ≠ some s.wraps.next := by
  have hdead : ¬s.wraps.isLive s.wraps.next := fun h =>
    absurd (ManualHeap.lt_next_of_isLive h) (Nat.lt_irrefl _)
  have hnew := hs.accounted s.wraps.next
  refine ⟨fun h => hdead (hnew.queued h), fun h => hdead (hnew.called h), fun t h => ?_⟩
  obtain ⟨w, hw, -⟩ := hnew.linked t h
  exact hdead (isLive_of_cell hw)

/-! ### The steps of the callers -/

/-- A thread that holds no other wrap. -/
theorem moveTo_same {stage : Stage} {i : ℕ} (hold : ∀ j, (s.threads t).holds = some j → j = r)
    (hnew : ∀ j, stage.holds = some j → j = r) (hi : i ≠ r) (t' : ℕ) :
    (s.moveTo t stage).threads t' = s.threads t' ∨
      (s.threads t').holds ≠ some i ∧ ((s.moveTo t stage).threads t').holds ≠ some i := by
  rw [moveTo_threads]
  split
  · next h =>
    subst h
    exact .inr ⟨fun h => hi (hold i h), fun h => hi (hnew i h)⟩
  · exact .inl rfl

theorem Sound.post (hs : Sound s) (htakes : s.takes) : Sound s.post := by
  obtain ⟨hqueue, hcalling, hthreads⟩ := hs.unborn
  rw [CallbackCalls.post, CallbackCalls.push, if_pos (by exact htakes)]
  refine ⟨hs.unfaulted, ?_, fun i => ?_⟩
  · rw [List.nodup_append]
    refine ⟨hs.nodup, List.nodup_singleton _, fun a ha b hb => ?_⟩
    rintro rfl
    exact hqueue (List.mem_singleton.mp hb ▸ ha)
  · rcases eq_or_ne i s.wraps.next with rfl | hi
    · refine ⟨fun _ => by simp, fun h => absurd h hcalling, fun t h => absurd h (hthreads t),
        fun w hw _ => ?_, fun _ => ?_⟩
      · rw [ManualHeap.cell_create, if_pos rfl] at hw
        obtain rfl := Option.some.inj hw
        rfl
      · exact .inl ⟨List.mem_append_right _ List.mem_cons_self, hcalling,
          by simp [isKept, ManualHeap.cell_create]⟩
    · refine (hs.accounted i).congr ?_ ?_ Iff.rfl fun t => .inl rfl
      · rw [ManualHeap.cell_create, if_neg hi]
      · simp [hi]

/-- The wrap that a caller has to do with after its step. -/
theorem Accounted.of_caller {stage : Stage} {w : CCallbackWrap} (hcell : u.wraps.cell r = some w)
    (hcaller : w.caller = some t) (hthreads : ∀ t', u.threads t' = if t' = t then stage else s.threads t')
    (hothers : ∀ t', t' ≠ t → (s.threads t').holds ≠ some r)
    (hstage : stage.holds = some r ∧ stage.agrees w ∨ stage.holds = none ∧ w.keepResult = false)
    (howned : OneOf (r ∈ u.queue) (u.calling.wrap = some r) (stage.keeps w = some r)) : Accounted u r := by
  have hself : u.threads t = stage := by rw [hthreads, if_pos rfl]
  have hlive := isLive_of_cell hcell
  refine ⟨fun _ => hlive, fun _ => hlive, fun t' h => ?_, fun w' hw' hnot => ?_, fun _ => ?_⟩
  · rw [hthreads] at h ⊢
    split at h
    · next ht' =>
      refine ⟨w, hcell, ht' ▸ hcaller, ?_⟩
      rw [if_pos ht']
      rcases hstage with ⟨-, hagrees⟩ | ⟨hnone, -⟩
      · exact hagrees
      · exact absurd (hnone.symm.trans h) (by simp)
    · next ht' => exact absurd h (hothers t' ht')
  · obtain rfl := Option.some.inj (hcell.symm.trans hw')
    rcases hstage with ⟨hholds, -⟩ | ⟨-, hkeep⟩
    · exact absurd (hself ▸ hholds) (hnot t hcaller)
    · exact hkeep
  · rw [isKept_eq hcell hcaller, hself, decide_eq_true_iff]
    exact howned

theorem Sound.create {last : Option ℤ} (hs : Sound s) (ht : s.threads t = .idle last) :
    Sound (s.create t) := by
  obtain ⟨hqueue, hcalling, hthreads⟩ := hs.unborn
  refine ⟨hs.unfaulted, hs.nodup, fun i => ?_⟩
  have hcell : (s.create t).wraps.cell i =
      if i = s.wraps.next then some ⟨true, 0, false, some t⟩ else s.wraps.cell i :=
    ManualHeap.cell_create ..
  rcases eq_or_ne i s.wraps.next with rfl | hi
  · rw [if_pos rfl] at hcell
    refine .of_caller (s := s) hcell rfl (fun t' => moveTo_threads ..) (fun t' _ => hthreads t')
      (.inl ⟨rfl, rfl⟩) (.inr (.inr ⟨hqueue, hcalling, rfl⟩))
  · rw [if_neg hi] at hcell
    refine (hs.accounted i).congr hcell Iff.rfl Iff.rfl (moveTo_same (r := s.wraps.next) ?_ ?_ hi)
    · intro j hj
      rw [show (s.threads t) = .idle last from ht] at hj
      cases hj
    · intro j hj
      exact (Option.some.inj hj).symm

/-- A step of a caller on its wrap. -/
theorem Sound.callerMoves {stage : Stage} {w : CCallbackWrap} (hs : Sound s)
    (hheld : (s.threads t).holds = some r) (hfault : u.wraps.fault = false) (hnodup : u.queue.Nodup)
    (hsame : ∀ i, i ≠ r → u.wraps.cell i = s.wraps.cell i ∧ (i ∈ u.queue ↔ i ∈ s.queue) ∧
      (u.calling.wrap = some i ↔ s.calling.wrap = some i))
    (hcell : u.wraps.cell r = some w) (hcaller : w.caller = some t)
    (hthreads : ∀ t', u.threads t' = if t' = t then stage else s.threads t')
    (hstage : stage.holds = some r ∧ stage.agrees w ∨ stage.holds = none ∧ w.keepResult = false)
    (howned : OneOf (r ∈ u.queue) (u.calling.wrap = some r) (stage.keeps w = some r)) : Sound u := by
  refine ⟨hfault, hnodup, fun i => ?_⟩
  rcases eq_or_ne i r with rfl | hi
  · refine .of_caller (s := s) hcell hcaller hthreads (fun t' ht' h => ?_) hstage howned
    exact ht' ((hs.accounted i).unique hheld h)
  · obtain ⟨hcell, hqueue, hcalling⟩ := hsame i hi
    refine (hs.accounted i).congr hcell hqueue hcalling fun t' => ?_
    rw [hthreads]
    split
    · next h =>
      subst h
      refine .inr ⟨fun h => hi (Option.some.inj (hheld.symm.trans h)).symm, fun h => ?_⟩
      rcases hstage with ⟨hholds, -⟩ | ⟨hnone, -⟩
      · exact hi (Option.some.inj (hholds.symm.trans h)).symm
      · exact absurd (hnone.symm.trans h) (by simp)
    · exact .inl rfl

theorem Sound.push (hs : Sound s) (ht : s.threads t = .created r) (htakes : s.takes) :
    Sound ((s.push r).moveTo t (.pushed r)) := by
  have hheld : (s.threads t).holds = some r := by rw [ht]; rfl
  obtain ⟨w, hcell, hcaller, hagrees⟩ := (hs.accounted r).linked t hheld
  have hkept : s.isKept r := by
    rw [isKept_eq hcell hcaller, ht]
    simp [Stage.keeps]
  obtain ⟨hqueue, hcalling⟩ := ((hs.accounted r).sole (isLive_of_cell hcell)).2.2 hkept
  rw [ht] at hagrees
  simp only [Stage.agrees, Bool.and_eq_true, Bool.not_eq_true'] at hagrees
  rw [CallbackCalls.push, if_pos htakes]
  have hnodup : (s.queue ++ [r]).Nodup := by
    refine List.nodup_append.mpr ⟨hs.nodup, List.nodup_singleton _, fun a ha b hb => ?_⟩
    rintro rfl
    exact hqueue (List.mem_singleton.mp hb ▸ ha)
  refine hs.callerMoves hheld hs.unfaulted hnodup (fun i hi => ⟨rfl, ?_, Iff.rfl⟩) hcell hcaller
    (fun t' => moveTo_threads ..) (.inl ⟨rfl, hagrees.1⟩) ?_
  · change i ∈ s.queue ++ [r] ↔ _
    simp [hi]
  · exact .inl ⟨List.mem_append_right _ List.mem_cons_self, hcalling, by simp [Stage.keeps, hagrees.2]⟩

theorem Sound.result (hs : Sound s) (ht : s.threads t = .pushed r) : Sound (s.result t r) := by
  have hheld : (s.threads t).holds = some r := by rw [ht]; rfl
  obtain ⟨w, hcell, hcaller, hagrees⟩ := (hs.accounted r).linked t hheld
  have hlive := isLive_of_cell hcell
  have howned := (hs.accounted r).owned hlive
  rw [ht] at hagrees
  rw [isKept_eq hcell hcaller, ht, decide_eq_true_iff] at howned
  have hsame : ∀ (f : CCallbackWrap → CCallbackWrap) i, i ≠ r →
      (s.wraps.use r f).cell i = s.wraps.cell i := fun f i hi => by
    rw [ManualHeap.cell_use, if_neg hi]
  have hself : ∀ f : CCallbackWrap → CCallbackWrap, (s.wraps.use r f).cell r = some (f w) := fun f => by
    rw [ManualHeap.cell_use, if_pos rfl, hcell]
    rfl
  rw [CallbackCalls.result, hcell]
  cases hsucceeded : w.bSucceeded with
  | true =>
    rw [Option.filter_some_pos hsucceeded]
    refine hs.callerMoves hheld ((ManualHeap.fault_use hlive _).trans hs.unfaulted) hs.nodup
      (fun i hi => ⟨hsame _ i hi, Iff.rfl, Iff.rfl⟩) (hself _) hcaller (fun t' => moveTo_threads ..)
      (.inl ⟨rfl, ?_⟩) ?_
    · simp only [Stage.agrees] at hagrees ⊢
      simp [hagrees, hsucceeded]
    · simpa [Stage.keeps, hsucceeded] using howned
  | false =>
    rw [Option.filter_some_neg (by simp [hsucceeded])]
    refine hs.callerMoves hheld ((ManualHeap.fault_use hlive _).trans hs.unfaulted) hs.nodup
      (fun i hi => ⟨hsame _ i hi, Iff.rfl, Iff.rfl⟩) (hself _) hcaller (fun t' => moveTo_threads ..)
      (.inl ⟨rfl, rfl⟩) ?_
    simpa [Stage.keeps, hsucceeded] using howned

theorem Sound.finish {result : ℤ} (hs : Sound s)
    (ht : s.threads t = .timedOut r ∨ s.threads t = .resulted r result) :
    Sound (s.finish t r result) := by
  have hheld : (s.threads t).holds = some r := by
    rcases ht with ht | ht <;> rw [ht] <;> rfl
  obtain ⟨w, hcell, hcaller, hagrees⟩ := (hs.accounted r).linked t hheld
  have hlive := isLive_of_cell hcell
  have howned := (hs.accounted r).owned hlive
  rw [isKept_eq hcell hcaller, decide_eq_true_iff] at howned
  have hkeeps : s.keepsResult r = w.keepResult := by rw [keepsResult, hcell, Option.any_some]
  refine hs.callerMoves (w := w) hheld ((ManualHeap.fault_use hlive _).trans hs.unfaulted) hs.nodup
    (fun i hi => ⟨?_, Iff.rfl, Iff.rfl⟩) ?_ hcaller (fun t' => moveTo_threads ..) ?_ ?_
  · exact (ManualHeap.cell_use ..).trans (if_neg hi)
  · refine (ManualHeap.cell_use ..).trans ((if_pos rfl).trans ?_)
    rw [hcell]
    rfl
  · rw [hkeeps]
    rcases ht with ht | ht
    · rw [ht] at hagrees
      have hnot : w.keepResult = false := by simpa [Stage.agrees] using hagrees
      rw [hnot]
      exact .inr ⟨rfl, rfl⟩
    · rw [ht] at hagrees
      simp only [Stage.agrees, Bool.and_eq_true] at hagrees
      rw [hagrees.1, if_pos rfl]
      exact .inl ⟨rfl, by simp [Stage.agrees, hagrees]⟩
  · rw [hkeeps]
    change OneOf (r ∈ s.queue) (s.calling.wrap = some r) _
    rcases ht with ht | ht
    · rw [ht] at hagrees howned
      have hnot : w.keepResult = false := by simpa [Stage.agrees] using hagrees
      simpa [hnot, Stage.keeps] using howned
    · rw [ht] at hagrees howned
      simp only [Stage.agrees, Bool.and_eq_true] at hagrees
      simpa [hagrees.1, Stage.keeps] using howned

/-- A wrap that nobody else owns or uses is deleted. -/
theorem Accounted.deleted (hcell : u.wraps.cell r = none) (hqueue : r ∉ u.queue)
    (hcalling : u.calling.wrap ≠ some r) (hthreads : ∀ t, (u.threads t).holds ≠ some r) :
    Accounted u r := by
  refine ⟨fun h => absurd h hqueue, fun h => absurd h hcalling, fun t h => absurd h (hthreads t),
    fun w h => ?_, fun h => ?_⟩
  · rw [hcell] at h
    cases h
  · rw [ManualHeap.isLive, hcell] at h
    cases h

theorem Sound.delete {result : ℤ} (hs : Sound s) (ht : s.threads t = .deleting r result) :
    Sound ({ s with wraps := s.wraps.delete r }.moveTo t (.idle (some result))) := by
  have hheld : (s.threads t).holds = some r := by rw [ht]; rfl
  obtain ⟨w, hcell, hcaller, -⟩ := (hs.accounted r).linked t hheld
  have hlive := isLive_of_cell hcell
  have hkept : s.isKept r := by
    rw [isKept_eq hcell hcaller, ht]
    simp [Stage.keeps]
  obtain ⟨hqueue, hcalling⟩ := ((hs.accounted r).sole hlive).2.2 hkept
  refine ⟨(ManualHeap.fault_delete hlive).trans hs.unfaulted, hs.nodup, fun i => ?_⟩
  rcases eq_or_ne i r with rfl | hi
  · refine .deleted ?_ hqueue hcalling fun t' h => ?_
    · exact (ManualHeap.cell_delete ..).trans (if_pos rfl)
    · rw [moveTo_threads] at h
      split at h
      · cases h
      · next ht' => exact ht' ((hs.accounted i).unique hheld h)
  · refine (hs.accounted i).congr ((ManualHeap.cell_delete ..).trans (if_neg hi)) Iff.rfl Iff.rfl
      (moveTo_same (r := r) ?_ ?_ hi)
    · intro j hj
      exact (Option.some.inj (hheld.symm.trans hj)).symm
    · intro j hj
      cases hj

theorem Sound.callerStep {a : Action} (hs : Sound s) (ha : s.Settled a) (h : s.callerStep a = some u) :
    Sound u := by
  cases a with
  | post =>
    obtain rfl := Option.some.inj h
    exact hs.post ha
  | create t =>
    simp only [CallbackCalls.callerStep] at h
    split at h
    · next last ht =>
      obtain rfl := Option.some.inj h
      exact hs.create ht
    · cases h
  | push t =>
    simp only [CallbackCalls.callerStep] at h
    split at h
    · next r ht =>
      obtain rfl := Option.some.inj h
      exact hs.push ht ha
    · cases h
  | result t =>
    simp only [CallbackCalls.callerStep] at h
    split at h
    · next r ht =>
      obtain rfl := Option.some.inj h
      exact hs.result ht
    · cases h
  | finish t =>
    simp only [CallbackCalls.callerStep] at h
    split at h
    · next r ht =>
      obtain rfl := Option.some.inj h
      exact hs.finish (.inl ht)
    · next r result ht =>
      obtain rfl := Option.some.inj h
      exact hs.finish (.inr ht)
    · cases h
  | delete t =>
    simp only [CallbackCalls.callerStep] at h
    split at h
    · next r result ht =>
      obtain rfl := Option.some.inj h
      exact hs.delete ht
    · cases h
  | _ => cases h

/-! ### The steps of the client -/

theorem Sound.pop {rest : List ℕ} (hs : Sound s) (hidle : s.calling = .idle)
    (hqueue : s.queue = r :: rest) :
    Sound { s with queue := rest, wraps := s.wraps.touch r, calling := .calling r } := by
  have hin : r ∈ s.queue := by rw [hqueue]; exact List.mem_cons_self
  have hlive := (hs.accounted r).queued hin
  obtain ⟨hnot, hnodup⟩ := List.nodup_cons.mp (hqueue ▸ hs.nodup)
  obtain ⟨-, hkept⟩ := ((hs.accounted r).sole hlive).1 hin
  have hcell : ∀ i, (s.wraps.touch r).cell i = s.wraps.cell i := fun i => by
    rw [ManualHeap.cell_use, Option.map_id]
    split
    · next h => rw [h]; rfl
    · rfl
  refine ⟨(ManualHeap.fault_use hlive _).trans hs.unfaulted, hnodup, fun i => ?_⟩
  rcases eq_or_ne i r with rfl | hi
  · have hi := hs.accounted i
    have hlive' : (s.wraps.touch i).isLive i := by simpa using hlive
    refine ⟨fun _ => hlive', fun _ => hlive', fun t h => ?_, fun w hw hheld => ?_, fun _ => ?_⟩
    · simpa [hcell i] using hi.linked t h
    · exact hi.left w ((hcell i).symm.trans hw) hheld
    · refine .inr (.inl ⟨hnot, rfl, ?_⟩)
      have hsame : isKept { s with queue := rest, wraps := s.wraps.touch i, calling := .calling i } i =
          s.isKept i := by
        rw [isKept, isKept, hcell i]
      rw [hsame, hkept]
      exact Bool.false_ne_true
  · refine (hs.accounted i).congr (hcell i) ?_ ?_ fun t => .inl rfl
    · rw [hqueue, List.mem_cons]
      exact ⟨.inr, fun h => h.resolve_left hi⟩
    · rw [hidle]
      exact iff_of_false (fun h => hi (Option.some.inj h).symm) (by simp [Calling.wrap])

/-- While the callback of a wrap is called, a caller that holds the wrap waits for the result or has
    timed out. -/
theorem Sound.stage_of_called {w : CCallbackWrap} {t : ℕ} (hs : Sound s)
    (hcalling : s.calling = .calling r) (hcell : s.wraps.cell r = some w)
    (ht : (s.threads t).holds = some r) : w.caller = some t ∧
      (s.threads t = .pushed r ∧ w.keepResult ∨ s.threads t = .timedOut r ∧ w.keepResult = false) := by
  have hcalled : s.calling.wrap = some r := by rw [hcalling]; rfl
  obtain ⟨-, hkept⟩ := ((hs.accounted r).sole (isLive_of_cell hcell)).2.1 hcalled
  obtain ⟨v, hv, hcaller, hagrees⟩ := (hs.accounted r).linked t ht
  obtain rfl := Option.some.inj (hcell.symm.trans hv)
  have hkeeps : (s.threads t).keeps w ≠ some r := fun hkeeps => by
    rw [isKept_eq hcell hcaller, hkeeps] at hkept
    simp at hkept
  refine ⟨hcaller, ?_⟩
  cases hthread : s.threads t with
  | idle last => rw [hthread] at ht; cases ht
  | created j | resulted j _ | deleting j _ =>
    rw [hthread] at ht hkeeps
    exact absurd ht hkeeps
  | pushed j =>
    rw [hthread] at ht hagrees
    exact .inl ⟨congrArg Stage.pushed (Option.some.inj ht), hagrees⟩
  | timedOut j =>
    rw [hthread] at ht hagrees
    exact .inr ⟨congrArg Stage.timedOut (Option.some.inj ht), by simpa [Stage.agrees] using hagrees⟩

/-- The return of a callback is the end of no other wrap. -/
theorem Accounted.report {i : ℕ} {result : ℤ} (h : Accounted s i)
    (hcalling : s.calling = .calling r) (hi : i ≠ r) : Accounted (s.report r result) i := by
  have hne : ∀ c : Calling, c = .idle ∨ c = .calling r ∨ c = .deleting r → c.wrap ≠ some i := by
    rintro c (rfl | rfl | rfl) h
    · cases h
    · exact hi (Option.some.inj h).symm
    · exact hi (Option.some.inj h).symm
  refine h.congr ((ManualHeap.cell_use ..).trans (if_neg hi)) Iff.rfl ?_ fun t => .inl rfl
  refine iff_of_false (hne _ ?_) (hne _ (.inr (.inl hcalling)))
  simp only [CallbackCalls.report]
  split
  · exact .inl rfl
  · exact .inr (.inr rfl)

/-- The callback has returned: its caller waits and is given the result, or has gone. -/
theorem Sound.report {result : ℤ} (hs : Sound s) (hcalling : s.calling = .calling r) :
    Sound (s.report r result) := by
  have hcalled : s.calling.wrap = some r := by rw [hcalling]; rfl
  have hlive := (hs.accounted r).called hcalled
  obtain ⟨hnot, -⟩ := ((hs.accounted r).sole hlive).2.1 hcalled
  obtain ⟨w, hcell⟩ := Option.isSome_iff_exists.mp hlive
  have hkeeps : s.keepsResult r = w.keepResult := by rw [keepsResult, hcell, Option.any_some]
  let w' : CCallbackWrap := if w.caller.isSome then { w with result := result, bSucceeded := true } else w
  have hcell' : (s.report r result).wraps.cell r = some w' := by
    refine (ManualHeap.cell_use ..).trans ((if_pos rfl).trans ?_)
    rw [hcell]
    rfl
  have hw' : w'.caller = w.caller ∧ w'.keepResult = w.keepResult := by
    simp only [w']
    split <;> exact ⟨rfl, rfl⟩
  refine ⟨(ManualHeap.fault_use hlive _).trans hs.unfaulted, hs.nodup, fun i => ?_⟩
  rcases eq_or_ne i r with rfl | hi
  swap
  · exact (hs.accounted i).report hcalling hi
  have hlive' := isLive_of_cell hcell'
  have hstage : ∀ t, (s.threads t).holds = some i → w.caller = some t ∧
      (s.threads t = .pushed i ∧ w.keepResult ∨ s.threads t = .timedOut i ∧ w.keepResult = false) :=
    fun t ht => hs.stage_of_called hcalling hcell ht
  refine ⟨fun _ => hlive', fun _ => hlive', fun t ht => ?_, fun v hv hheld => ?_, fun _ => ?_⟩
  · obtain ⟨hcaller, hstage⟩ := hstage t ht
    refine ⟨w', hcell', hw'.1.trans hcaller, ?_⟩
    change ((s.threads t).agrees w' : Prop)
    rcases hstage with ⟨hpushed, hkeep⟩ | ⟨htimedOut, hkeep⟩
    · rw [hpushed]
      exact hw'.2.trans hkeep
    · rw [htimedOut]
      simp [Stage.agrees, hw'.2, hkeep]
  · obtain rfl := Option.some.inj (hcell'.symm.trans hv)
    rw [hw'.2]
    refine (hs.accounted i).left w hcell fun t ht => hheld t (hw'.1.trans ht)
  · have hcall : (s.report i result).calling = if w.keepResult then .idle else .deleting i := by
      rw [← hkeeps]
      rfl
    cases hkeep : w.keepResult with
    | true =>
      rw [hkeep, if_pos rfl] at hcall
      have hholder : ∃ t, w.caller = some t ∧ (s.threads t).holds = some i := by
        by_contra hnone
        have hno := (hs.accounted i).left w hcell fun t ht h => hnone ⟨t, ht, h⟩
        exact absurd (hno.symm.trans hkeep) Bool.false_ne_true
      obtain ⟨t, hcaller, ht⟩ := hholder
      have hpushed : s.threads t = .pushed i := by
        rcases (hstage t ht).2 with ⟨h, -⟩ | ⟨-, h⟩
        · exact h
        · exact absurd (h.symm.trans hkeep) Bool.false_ne_true
      refine .inr (.inr ⟨hnot, by rw [hcall]; simp [Calling.wrap], ?_⟩)
      rw [isKept_eq hcell' (hw'.1.trans hcaller)]
      change decide ((s.threads t).keeps w' = some i) = true
      simp [hpushed, Stage.keeps, w', hcaller]
    | false =>
      rw [hkeep, if_neg Bool.false_ne_true] at hcall
      refine .inr (.inl ⟨hnot, by rw [hcall]; rfl, ?_⟩)
      rw [isKept, hcell', Option.any_some, hw'.1]
      intro h
      obtain ⟨t, hcaller, hkeeps⟩ := (Option.any_eq_true _ _).mp h
      have hkeeps : (s.threads t).keeps w' = some i := of_decide_eq_true hkeeps
      have ht := Stage.holds_of_keeps hkeeps
      rcases (hstage t ht).2 with ⟨-, h⟩ | ⟨h, -⟩
      · exact absurd (hkeep.symm.trans h) Bool.false_ne_true
      · rw [h] at hkeeps
        cases hkeeps

/-- A wrap is deleted by the client, and its caller does not use it any more. -/
theorem Sound.dispose (hs : Sound s) (hcalling : s.calling = .deleting r) (hreleased : s.Released r) :
    Sound { s with wraps := s.wraps.delete r, calling := .idle } := by
  have hcalled : s.calling.wrap = some r := by rw [hcalling]; rfl
  have hlive := (hs.accounted r).called hcalled
  obtain ⟨hnot, -⟩ := ((hs.accounted r).sole hlive).2.1 hcalled
  refine ⟨(ManualHeap.fault_delete hlive).trans hs.unfaulted, hs.nodup, fun i => ?_⟩
  rcases eq_or_ne i r with rfl | hi
  · exact .deleted ((ManualHeap.cell_delete ..).trans (if_pos rfl)) hnot (by simp [Calling.wrap]) hreleased
  · refine (hs.accounted i).congr ((ManualHeap.cell_delete ..).trans (if_neg hi)) Iff.rfl ?_
      fun t => .inl rfl
    rw [hcalled]
    exact iff_of_false (by simp [Calling.wrap]) fun h => hi (Option.some.inj h).symm

theorem Sound.drain {rest : List ℕ} (hs : Sound s) (hqueue : s.queue = r :: rest)
    (hreleased : s.Released r) : Sound { s with queue := rest, wraps := s.wraps.delete r } := by
  have hin : r ∈ s.queue := by rw [hqueue]; exact List.mem_cons_self
  have hlive := (hs.accounted r).queued hin
  obtain ⟨hnot, hnodup⟩ := List.nodup_cons.mp (hqueue ▸ hs.nodup)
  obtain ⟨hcalling, -⟩ := ((hs.accounted r).sole hlive).1 hin
  refine ⟨(ManualHeap.fault_delete hlive).trans hs.unfaulted, hnodup, fun i => ?_⟩
  rcases eq_or_ne i r with rfl | hi
  · exact .deleted ((ManualHeap.cell_delete ..).trans (if_pos rfl)) hnot hcalling hreleased
  · refine (hs.accounted i).congr ((ManualHeap.cell_delete ..).trans (if_neg hi)) ?_ Iff.rfl
      fun t => .inl rfl
    rw [hqueue, List.mem_cons]
    exact ⟨.inr, fun h => h.resolve_left hi⟩

theorem Sound.clientStep {a : Action} (hs : Sound s) (ha : s.Settled a) (h : s.clientStep a = some u) :
    Sound u := by
  cases a with
  | pop =>
    simp only [CallbackCalls.clientStep] at h
    split at h
    · next r rest hidle hqueue =>
      obtain rfl := Option.some.inj h
      exact hs.pop hidle hqueue
    · cases h
  | report result =>
    simp only [CallbackCalls.clientStep] at h
    split at h
    · next r hcalling =>
      obtain rfl := Option.some.inj h
      exact hs.report hcalling
    · cases h
  | throw =>
    simp only [CallbackCalls.clientStep] at h
    split at h
    · next r hcalling =>
      obtain rfl := Option.some.inj h
      refine ⟨hs.unfaulted, hs.nodup, fun i => (hs.accounted i).congr rfl Iff.rfl ?_ fun t => .inl rfl⟩
      rw [hcalling]
      rfl
    · cases h
  | dispose =>
    simp only [CallbackCalls.clientStep] at h
    split at h
    · next r hcalling =>
      obtain rfl := Option.some.inj h
      exact hs.dispose hcalling (ha r hcalling)
    · cases h
  | destroy =>
    obtain ⟨-, rfl⟩ := enabled_iff.mp h
    exact ⟨hs.unfaulted, hs.nodup, fun i =>
      (hs.accounted i).congr rfl Iff.rfl Iff.rfl fun t => .inl rfl⟩
  | drain =>
    simp only [CallbackCalls.clientStep] at h
    split at h
    · next r rest hdraining hqueue =>
      obtain rfl := Option.some.inj h
      exact hs.drain hqueue (ha r (by rw [hqueue]; rfl))
    · cases h
  | drained =>
    obtain ⟨-, rfl⟩ := enabled_iff.mp h
    exact ⟨hs.unfaulted, hs.nodup, fun i =>
      (hs.accounted i).congr rfl Iff.rfl Iff.rfl fun t => .inl rfl⟩
  | _ => cases h

theorem Sound.step {a : Action} (hs : Sound s) (ha : s.Settled a) (h : s.step a = some u) :
    Sound u := by
  rcases Option.or_eq_some_iff.mp h with h | ⟨-, h⟩
  · exact hs.callerStep ha h
  · exact hs.clientStep ha h

end steps

/-! ### Runs -/

theorem Sound.owned {s : CallbackCalls} (hs : Sound s) : s.Owned :=
  ⟨hs.unfaulted, fun r hr => owners_eq_one.mpr ((hs.accounted r).owned hr)⟩

/-- A caller whose wrap is gone goes on to use it. -/
theorem faults_of_held {s : CallbackCalls} {t r : ℕ} (hdead : s.wraps.isLive r = false)
    (hheld : (s.threads t).holds = some r) : ∃ u, Schedule step s u ∧ u.wraps.fault := by
  have hcell : s.wraps.cell r = none := by
    rwa [ManualHeap.isLive, Option.isSome_eq_false_iff, Option.isNone_iff_eq_none] at hdead
  have hfault := ManualHeap.fault_of_dead hdead
  have hresult : ∀ {v : CallbackCalls}, v.wraps = s.wraps → v.threads t = .pushed r →
      ∃ u, v.step (.result t) = some u ∧ u.wraps.fault := fun {v} hv ht => by
    refine ⟨v.result t r, by simp [step, callerStep, ht], ?_⟩
    rw [result, hv, hcell]
    exact hfault _
  cases hstage : s.threads t with
  | idle last => rw [hstage] at hheld; cases hheld
  | created i =>
    rw [hstage] at hheld
    obtain rfl := Option.some.inj hheld
    let v := (s.push i).moveTo t (.pushed i)
    have hv : v.wraps = s.wraps := by
      simp only [v, push, moveTo_wraps]
      split <;> rfl
    obtain ⟨u, hu, hufault⟩ := hresult hv (by rw [moveTo_threads, if_pos rfl])
    have hpush : s.step (.push t) = some v := by simp [step, callerStep, hstage, v]
    exact ⟨u, .tail _ (.tail _ (.refl s) trivial hpush) trivial hu, hufault⟩
  | pushed i =>
    rw [hstage] at hheld
    obtain rfl := Option.some.inj hheld
    obtain ⟨u, hu, hufault⟩ := hresult rfl hstage
    exact ⟨u, .tail _ (.refl s) trivial hu, hufault⟩
  | timedOut i =>
    rw [hstage] at hheld
    obtain rfl := Option.some.inj hheld
    refine ⟨s.finish t i 0, .tail (.finish t) (.refl s) trivial ?_, hfault _⟩
    simp [step, callerStep, hstage]
  | resulted i result =>
    rw [hstage] at hheld
    obtain rfl := Option.some.inj hheld
    refine ⟨s.finish t i result, .tail (.finish t) (.refl s) trivial ?_, hfault _⟩
    simp [step, callerStep, hstage]
  | deleting i result =>
    rw [hstage] at hheld
    obtain rfl := Option.some.inj hheld
    let u := { s with wraps := s.wraps.delete i }.moveTo t (.idle (some result))
    have hdelete : s.step (.delete t) = some u := by simp [step, callerStep, hstage, u]
    exact ⟨u, .tail _ (.refl s) trivial hdelete, by simp [u, ManualHeap.delete, hdead]⟩

theorem not_owned_of_faults {s : CallbackCalls} (h : ∃ u, Schedule step s u ∧ u.wraps.fault) :
    ∃ u, Schedule step s u ∧ ¬u.Owned := by
  obtain ⟨u, hrun, hfault⟩ := h
  exact ⟨u, hrun, fun hu => absurd (hu.1.symm.trans hfault) Bool.false_ne_true⟩

/-- A wrap that does not fit into the queue is nobody's. -/
theorem Sound.orphaned_post {s : CallbackCalls} (hs : Sound s) (htakes : s.takes = false) :
    ¬s.post.Owned := by
  obtain ⟨hqueue, hcalling, -⟩ := hs.unborn
  have hpost : s.post = { s with wraps := s.wraps.create ⟨false, 0, false, none⟩ } := by
    rw [CallbackCalls.post, CallbackCalls.push, if_neg]
    rw [Bool.not_eq_true]
    exact htakes
  rw [hpost]
  rintro ⟨-, howned⟩
  rcases owners_eq_one.mp (howned s.wraps.next (by simp)) with ⟨h, -⟩ | ⟨-, h, -⟩ | ⟨-, -, h⟩
  · exact hqueue h
  · exact hcalling h
  · simp [isKept, ManualHeap.cell_create] at h

theorem Sound.orphaned_push {s : CallbackCalls} {t r : ℕ} (hs : Sound s)
    (ht : s.threads t = .created r) (htakes : s.takes = false) :
    ¬((s.push r).moveTo t (.pushed r)).Owned := by
  have hheld : (s.threads t).holds = some r := by rw [ht]; rfl
  obtain ⟨w, hcell, hcaller, hagrees⟩ := (hs.accounted r).linked t hheld
  have hlive := isLive_of_cell hcell
  have hkept : s.isKept r := by
    rw [isKept_eq hcell hcaller, ht]
    simp [Stage.keeps]
  obtain ⟨hqueue, hcalling⟩ := ((hs.accounted r).sole hlive).2.2 hkept
  rw [ht] at hagrees
  simp only [Stage.agrees, Bool.and_eq_true, Bool.not_eq_true'] at hagrees
  rw [CallbackCalls.push, if_neg (by rw [htakes]; exact Bool.false_ne_true)]
  rintro ⟨-, howned⟩
  rcases owners_eq_one.mp (howned r hlive) with ⟨h, -⟩ | ⟨-, h, -⟩ | ⟨-, -, h⟩
  · exact hqueue h
  · exact hcalling h
  · rw [isKept_eq (s := s.moveTo t (.pushed r)) hcell hcaller, moveTo_threads, if_pos rfl] at h
    simp [Stage.keeps, hagrees.2] at h

/-- As long as each wrap fits into the queue and no wrap is deleted by the client while its caller
    uses it, no wrap is used after it was deleted and each one that is left has one owner; any
    other step leads to a state of which this is not true. -/
theorem callbacks_owned {s : CallbackCalls} (h : Reaches step Settled initial s) :
    s.Owned ∧ ∀ a u, s.step a = some u → ¬s.Settled a → ∃ v, Schedule step u v ∧ ¬v.Owned := by
  have hs : Sound s := h.invariant (fun hs ha hstep => hs.step ha hstep) sound_initial
  refine ⟨hs.owned, fun a u hstep hnot => ?_⟩
  -- a wrap that a caller holds when the client deletes it
  have hheld : ∀ r, ¬s.Released r → ∃ t, (s.threads t).holds = some r := fun r hr => by
    simpa [Released] using hr
  rcases Option.or_eq_some_iff.mp hstep with hstep | ⟨-, hstep⟩
  · cases a with
    | post =>
      obtain rfl := Option.some.inj hstep
      exact ⟨_, .refl _, hs.orphaned_post (by simpa [Settled] using hnot)⟩
    | push t =>
      simp only [callerStep] at hstep
      split at hstep
      · next r ht =>
        obtain rfl := Option.some.inj hstep
        exact ⟨_, .refl _, hs.orphaned_push ht (by simpa [Settled] using hnot)⟩
      · cases hstep
    | create t | result t | finish t | delete t => exact absurd trivial hnot
    | _ => cases hstep
  · cases a with
    | dispose =>
      simp only [clientStep] at hstep
      split at hstep
      · next r hcalling =>
        obtain rfl := Option.some.inj hstep
        have hr : ¬s.Released r := fun hr => hnot fun i hi => by
          rw [hcalling] at hi
          cases hi
          exact hr
        obtain ⟨t, ht⟩ := hheld r hr
        refine not_owned_of_faults (faults_of_held (t := t) (r := r) ?_ ht)
        simp
      · cases hstep
    | drain =>
      simp only [clientStep] at hstep
      split at hstep
      · next r rest hdraining hqueue =>
        obtain rfl := Option.some.inj hstep
        have hr : ¬s.Released r := fun hr => hnot fun i hi => by
          rw [hqueue] at hi
          cases hi
          exact hr
        obtain ⟨t, ht⟩ := hheld r hr
        refine not_owned_of_faults (faults_of_held (t := t) (r := r) ?_ ht)
        simp
      · cases hstep
    | pop | report result | throw | destroy | drained => exact absurd trivial hnot
    | _ => cases hstep

/-- A callback that returns while its caller still waits. -/
theorem callbacks_owned_reported : ∃ s, Reaches step Settled initial s ∧ s.Owned := by
  let schedule : List Action := [.create 0, .push 0, .pop, .report 1, .result 0, .finish 0, .delete 0]
  have hperform : (perform step initial schedule).isSome := by decide
  obtain ⟨s, hs⟩ := Option.isSome_iff_exists.mp hperform
  have hmeets : Meets step Settled initial schedule := by
    refine ⟨trivial, ?_⟩
    rintro _ ⟨rfl⟩
    refine ⟨rfl, ?_⟩
    rintro _ ⟨rfl⟩
    exact meets_of_forall (by simp [Settled])
  have hrun := reaches_of_perform hmeets hs
  exact ⟨s, hrun, (callbacks_owned hrun).1⟩

/-- A callback that returns after its caller's wait has timed out: the client deletes the wrap
    before the caller has looked at `m_keepResult`. -/
theorem callback_used_after_timeout : ¬∀ s, Schedule step initial s → s.Owned := by
  intro hall
  have hperform : (perform step initial [.create 0, .push 0, .pop, .result 0, .report 1, .dispose,
      .finish 0]).any (·.wraps.fault) := by decide
  obtain ⟨s, hs, hfault⟩ := (Option.any_eq_true _ _).mp hperform
  have howned := (hall s (schedule_of_perform hs)).1
  exact absurd (howned.symm.trans hfault) Bool.false_ne_true

end CallbackCalls

end CEC
