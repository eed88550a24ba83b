import LibCec.Schemes.Schedule
import Mathlib.Data.Int.Notation

/-! The life cycle of a `CThread`.

    One thread controls it. Each call of `CreateThread` that starts a thread joins the one before.

        caller    idle ── CreateThread ──▶ joining ──▶ awaitsStart ──▶ idle
                  idle ── StopThread ────▶ awaitsStop ───────────────▶ idle

        thread    created ─▶ entering ─▶ processing ─▶ leaving ─▶ ended ─▶ terminated
                     └──────────────── m_bStop ─────────────────────▲

    A step is what a party does while it holds `m_threadMutex`, or what it does without it; while
    the caller joins it holds the mutex, and no thread gets it. -/

namespace CEC
open Schemes

namespace CThread

/-- Where the thread that a call of `CreateThread` starts is in `ThreadHandler`. -/
inductive Phase where
  | absent | created | entering | processing | leaving | ended | terminated
  deriving DecidableEq

/-- The thread can be joined and has not terminated. -/
def Phase.isLive (p : Phase) : Bool := p ≠ .absent && p ≠ .terminated

/-- The handler has decided to call `Process`, and has not yet seen to its end. -/
def Phase.isBusy (p : Phase) : Bool := p = .entering || p = .processing || p = .leaving

/-- The thread may have run `Process`. -/
def Phase.mayHaveRun (p : Phase) : Bool := p ≠ .absent && p ≠ .created && p ≠ .entering

/-- What the last call of the controlling thread returned. -/
inductive Outcome where
  | created (call : ℕ) (ok : Bool)
  | stopped (iWaitMs : ℤ) (ok : Bool)
  deriving DecidableEq

/-- The call that the controlling thread is in. -/
inductive Caller where
  | idle (last : Option Outcome)
  | joining (call : ℕ) (bWait : Bool)
  | awaitsStart (call : ℕ)
  | awaitsStop (iWaitMs : ℤ)
  deriving DecidableEq

end CThread

open CThread in
/-- A `CThread`, the threads that were started for it, and the thread that controls it. The calls
    of `CreateThread` are numbered, and so are the threads that they start. -/
structure CThread where
  bStop : Bool
  bRunning : Bool
  bStopped : Bool
  bStarted : Bool
  /-- The thread that `m_thread` can join. -/
  thread : Option ℕ
  caller : Caller
  calls : ℕ
  phase : ℕ → Phase
  /-- How often the thread has called `Process`. -/
  runs : ℕ → ℕ

namespace CThread

/-- After the constructor. -/
def initial : CThread := ⟨false, false, false, false, none, .idle none, 0, fun _ => .absent, fun _ => 0⟩

/-- The thread is in this phase from now on. -/
def moveTo (s : CThread) (i : ℕ) (p : Phase) : CThread :=
  { s with phase := Function.update s.phase i p }

@[simp] theorem moveTo_self (s : CThread) (i : ℕ) (p : Phase) : (s.moveTo i p).phase i = p :=
  Function.update_self ..

theorem moveTo_phase (s : CThread) (i j : ℕ) (p : Phase) :
    (s.moveTo i p).phase j = if j = i then p else s.phase j := by
  simp [moveTo, Function.update_apply]

/-! ### The controlling thread -/

/-- `CreateThread` up to the join. -/
def createThread (s : CThread) (bWait : Bool) : CThread :=
  if s.bRunning then
    { s with calls := s.calls + 1, caller := .idle (some (.created s.calls false)) }
  else { s with calls := s.calls + 1, caller := .joining s.calls bWait }

/-- `CreateThread` after the join: the thread is started, and waited for if the caller asks to. -/
def startThread (s : CThread) (call : ℕ) (bWait : Bool) : CThread :=
  { s.moveTo call .created with
    bStop := false
    bStarted := false
    thread := some call
    caller := if bWait then .awaitsStart call else .idle (some (.created call true)) }

/-- `StopThread` up to the wait. -/
def stopThread (s : CThread) (iWaitMs : ℤ) : CThread :=
  { s with
    bStop := true
    caller :=
      if !s.bRunning ∨ iWaitMs < 0 then .idle (some (.stopped iWaitMs true))
      else .awaitsStop iWaitMs }

/-! ### The started thread -/

/-- `ThreadHandler` up to the call of `Process`. -/
def enterHandler (s : CThread) (i : ℕ) : CThread :=
  if s.bStop then
    -- asked to stop before it started: it never runs at all
    { s.moveTo i .ended with bStarted := true, bRunning := false, bStopped := true }
  else { s.moveTo i .entering with bStarted := true, bRunning := true, bStopped := false }

/-- The call of `Process`. -/
def beginProcess (s : CThread) (i : ℕ) : CThread :=
  { s.moveTo i .processing with runs := Function.update s.runs i (s.runs i + 1) }

/-- `ThreadHandler` after `Process` has returned. -/
def leaveHandler (s : CThread) (i : ℕ) : CThread :=
  { s.moveTo i .ended with bRunning := false, bStopped := true }

/-! ### Interleavings -/

/-- One step of the controlling thread or of a started one. -/
inductive Action where
  | createThread (bWait : Bool)
  | joined
  | started
  | stopThread (iWaitMs : ℤ)
  | stopReturns
  | enterHandler (i : ℕ)
  | beginProcess (i : ℕ)
  /-- `Process` calls `StopThread` itself. -/
  | stopFromProcess (i : ℕ)
  | endProcess (i : ℕ)
  | leaveHandler (i : ℕ)
  | terminate (i : ℕ)
  deriving DecidableEq

/-- The call that starts the next thread. -/
def Action.isCreateThread : Action → Bool
  | .createThread _ => true
  | _ => false

/-- The caller holds the mutex while it joins. -/
def isLocked (s : CThread) : Bool :=
  match s.caller with
  | .joining _ _ => true
  | _ => false

/-- Whether `join` returns, or there is nothing to join. -/
def isJoined (s : CThread) : Bool := s.thread.all fun i => s.phase i = .terminated

/-- What the controlling thread does next. -/
def callerStep (s : CThread) : Action → Option CThread
  | .createThread bWait =>
    match s.caller with
    | .idle _ => some (s.createThread bWait)
    | _ => none
  | .joined =>
    match s.caller with
    | .joining call bWait => if s.isJoined then some (s.startThread call bWait) else none
    | _ => none
  | .started =>
    match s.caller with
    | .awaitsStart call =>
      if s.bStarted then some { s with caller := .idle (some (.created call true)) } else none
    | _ => none
  | .stopThread iWaitMs =>
    match s.caller with
    | .idle _ => some (s.stopThread iWaitMs)
    | _ => none
  | .stopReturns =>
    match s.caller with
    | .awaitsStop iWaitMs =>
      -- the predicate holds, or the wait has timed out
      if s.bStopped ∨ iWaitMs ≠ 0 then
        some { s with caller := .idle (some (.stopped iWaitMs s.bStopped)) }
      else none
    | _ => none
  | _ => none

/-- What a started thread does next. -/
def threadStep (s : CThread) : Action → Option CThread
  | .enterHandler i =>
    if s.phase i = .created ∧ !s.isLocked then some (s.enterHandler i) else none
  | .beginProcess i => if s.phase i = .entering then some (s.beginProcess i) else none
  | .stopFromProcess i =>
    if s.phase i = .processing ∧ !s.isLocked then some { s with bStop := true } else none
  | .endProcess i => if s.phase i = .processing then some (s.moveTo i .leaving) else none
  | .leaveHandler i =>
    if s.phase i = .leaving ∧ !s.isLocked then some (s.leaveHandler i) else none
  | .terminate i => if s.phase i = .ended then some (s.moveTo i .terminated) else none
  | _ => none

/-- One step of either. -/
def step (s : CThread) (a : Action) : Option CThread := (s.callerStep a).or (s.threadStep a)

/-- What a step does, and when it is taken. -/
inductive Move (s : CThread) : Action → CThread → Prop where
  | createThread {last : Option Outcome} (bWait : Bool) (hcaller : s.caller = .idle last) :
    Move s (.createThread bWait) (s.createThread bWait)
  | joined {call : ℕ} {bWait : Bool} (hcaller : s.caller = .joining call bWait)
    (hjoined : s.isJoined) : Move s .joined (s.startThread call bWait)
  | started {call : ℕ} (hcaller : s.caller = .awaitsStart call) (hstarted : s.bStarted) :
    Move s .started { s with caller := .idle (some (.created call true)) }
  | stopThread {last : Option Outcome} (iWaitMs : ℤ) (hcaller : s.caller = .idle last) :
    Move s (.stopThread iWaitMs) (s.stopThread iWaitMs)
  | stopReturns {iWaitMs : ℤ} (hcaller : s.caller = .awaitsStop iWaitMs)
    (hreturns : s.bStopped ∨ iWaitMs ≠ 0) :
    Move s .stopReturns { s with caller := .idle (some (.stopped iWaitMs s.bStopped)) }
  | enterHandler {i : ℕ} (hphase : s.phase i = .created) (hlocked : s.isLocked = false) :
    Move s (.enterHandler i) (s.enterHandler i)
  | beginProcess {i : ℕ} (hphase : s.phase i = .entering) :
    Move s (.beginProcess i) (s.beginProcess i)
  | stopFromProcess {i : ℕ} (hphase : s.phase i = .processing) (hlocked : s.isLocked = false) :
    Move s (.stopFromProcess i) { s with bStop := true }
  | endProcess {i : ℕ} (hphase : s.phase i = .processing) :
    Move s (.endProcess i) (s.moveTo i .leaving)
  | leaveHandler {i : ℕ} (hphase : s.phase i = .leaving) (hlocked : s.isLocked = false) :
    Move s (.leaveHandler i) (s.leaveHandler i)
  | terminate {i : ℕ} (hphase : s.phase i = .ended) :
    Move s (.terminate i) (s.moveTo i .terminated)

theorem move_of_callerStep {s t : CThread} {a : Action} (h : s.callerStep a = some t) :
    Move s a t := by
  cases a with
  | createThread bWait =>
    simp only [callerStep] at h
    split at h
    · next hcaller =>
      obtain rfl := Option.some.inj h
      exact .createThread bWait hcaller
    · cases h
  | joined =>
    simp only [callerStep] at h
    split at h
    · next hcaller =>
      obtain ⟨hjoined, rfl⟩ := enabled_iff.mp h
      exact .joined hcaller hjoined
    · cases h
  | started =>
    simp only [callerStep] at h
    split at h
    · next hcaller =>
      obtain ⟨hstarted, rfl⟩ := enabled_iff.mp h
      exact .started hcaller hstarted
    · cases h
  | stopThread iWaitMs =>
    simp only [callerStep] at h
    split at h
    · next hcaller =>
      obtain rfl := Option.some.inj h
      exact .stopThread iWaitMs hcaller
    · cases h
  | stopReturns =>
    simp only [callerStep] at h
    split at h
    · next hcaller =>
      obtain ⟨hreturns, rfl⟩ := enabled_iff.mp h
      exact .stopReturns hcaller hreturns
    · cases h
  | _ => cases h

theorem move_of_threadStep {s t : CThread} {a : Action} (h : s.threadStep a = some t) :
    Move s a t := by
  cases a with
  | enterHandler i =>
    obtain ⟨⟨hphase, hlocked⟩, rfl⟩ := enabled_iff.mp h
    exact .enterHandler hphase (by simpa using hlocked)
  | beginProcess i =>
    obtain ⟨hphase, rfl⟩ := enabled_iff.mp h
    exact .beginProcess hphase
  | stopFromProcess i =>
    obtain ⟨⟨hphase, hlocked⟩, rfl⟩ := enabled_iff.mp h
    exact .stopFromProcess hphase (by simpa using hlocked)
  | endProcess i =>
    obtain ⟨hphase, rfl⟩ := enabled_iff.mp h
    exact .endProcess hphase
  | leaveHandler i =>
    obtain ⟨⟨hphase, hlocked⟩, rfl⟩ := enabled_iff.mp h
    exact .leaveHandler hphase (by simpa using hlocked)
  | terminate i =>
    obtain ⟨hphase, rfl⟩ := enabled_iff.mp h
    exact .terminate hphase
  | _ => cases h

theorem move_of_step {s t : CThread} {a : Action} (h : s.step a = some t) : Move s a t := by
  rcases Option.or_eq_some_iff.mp h with h | ⟨-, h⟩
  · exact move_of_callerStep h
  · exact move_of_threadStep h

/-! ### The invariant -/

/-- The flags say what the only thread that has not terminated does. -/
structure Orderly (s : CThread) : Prop where
  only : ∀ i, (s.phase i).isLive → s.thread = some i
  fresh : ∀ i, s.calls ≤ i → s.phase i = .absent
  busy : ∀ i, (s.phase i).isBusy → s.bRunning
  stopped : s.bRunning → s.bStopped = false
  runs : ∀ i, s.runs i ≤ if (s.phase i).mayHaveRun then 1 else 0
  joining : ∀ call bWait, s.caller = .joining call bWait →
    call < s.calls ∧ s.phase call = .absent ∧ s.bRunning = false
  stopping : ∀ iWaitMs, s.caller = .awaitsStop iWaitMs → s.bStop
  quiet : ∀ iWaitMs, 0 ≤ iWaitMs → s.caller = .idle (some (.stopped iWaitMs true)) →
    s.bStop ∧ s.bRunning = false

theorem orderly_initial : Orderly initial where
  only _ h := by simp [initial, Phase.isLive] at h
  fresh _ _ := rfl
  busy _ h := by simp [initial, Phase.isBusy] at h
  stopped _ := rfl
  runs _ := Nat.zero_le _
  joining _ _ h := by simp [initial] at h
  stopping _ h := by simp [initial] at h
  quiet _ _ h := by simp [initial] at h

theorem isLive_of_isBusy {p : Phase} (h : p.isBusy) : p.isLive := by
  cases p <;> simp_all [Phase.isBusy, Phase.isLive]

namespace Orderly

variable {s t : CThread} {i j : ℕ} {p : Phase}

/-- Only the thread that has not terminated is busy. -/
theorem eq_of_busy (hs : Orderly s) (hi : (s.phase i).isLive) (hj : (s.phase j).isBusy) : j = i :=
  Option.some.inj ((hs.only j (isLive_of_isBusy hj)).symm.trans (hs.only i hi))

/-- A thread moves on. -/
theorem move (hs : Orderly s) (hlive : (s.phase i).isLive) (hbusy : p.isBusy → s.bRunning)
    (hruns : (s.phase i).mayHaveRun → p.mayHaveRun) : Orderly (s.moveTo i p) where
  only j hj := by
    rw [moveTo_phase] at hj
    split at hj
    · next h => exact h ▸ hs.only i hlive
    · exact hs.only j hj
  fresh j hj := by
    rw [moveTo_phase, if_neg]
    · exact hs.fresh j hj
    · rintro rfl
      simp [hs.fresh j hj, Phase.isLive] at hlive
  busy j hj := by
    rw [moveTo_phase] at hj
    split at hj
    · exact hbusy hj
    · exact hs.busy j hj
  stopped := hs.stopped
  runs j := by
    have hj := hs.runs j
    rw [moveTo_phase]
    split
    · next h =>
      subst h
      cases hold : (s.phase j).mayHaveRun with
      | false =>
        rw [hold, if_neg Bool.false_ne_true] at hj
        exact Nat.le_trans hj (Nat.zero_le _)
      | true =>
        rw [hold] at hj
        rw [hruns hold]
        exact hj
    · exact hj
  joining call bWait h := by
    obtain ⟨hcall, habsent, hrun⟩ := hs.joining call bWait h
    refine ⟨hcall, ?_, hrun⟩
    rw [moveTo_phase, if_neg]
    · exact habsent
    · rintro rfl
      simp [habsent, Phase.isLive] at hlive
  stopping := hs.stopping
  quiet := hs.quiet

/-- The flags when nothing is busy. -/
theorem markStopped (hs : Orderly s) (hidle : ∀ i, (s.phase i).isBusy = false) (bStarted : Bool) :
    Orderly { s with bStarted := bStarted, bRunning := false, bStopped := true } where
  only := hs.only
  fresh := hs.fresh
  busy j hj := absurd ((hidle j).symm.trans hj) Bool.false_ne_true
  stopped h := by cases h
  runs := hs.runs
  joining call bWait h :=
    have hj := hs.joining call bWait h
    ⟨hj.1, hj.2.1, rfl⟩
  stopping := hs.stopping
  quiet w hw h := ⟨(hs.quiet w hw h).1, rfl⟩

/-- The flags when a thread starts to run, which was not asked to stop. -/
theorem markRunning (hs : Orderly s) (hlocked : s.isLocked = false) (hstop : s.bStop = false) :
    Orderly { s with bStarted := true, bRunning := true, bStopped := false } where
  only := hs.only
  fresh := hs.fresh
  busy _ _ := rfl
  stopped _ := rfl
  runs := hs.runs
  joining call bWait h := by
    simp only [isLocked] at hlocked
    rw [show s.caller = .joining call bWait from h] at hlocked
    cases hlocked
  stopping := hs.stopping
  quiet w hw h := absurd (hstop.symm.trans (hs.quiet w hw h).1) Bool.false_ne_true

/-! ### The steps of the controlling thread -/

theorem createThread (hs : Orderly s) (bWait : Bool) : Orderly (s.createThread bWait) := by
  have hfresh : ∀ j, s.calls + 1 ≤ j → s.phase j = .absent := fun j hj => hs.fresh j (by omega)
  unfold CThread.createThread
  split
  · exact { hs with
      fresh := hfresh
      joining := fun call bWait h => by simp at h
      stopping := fun w h => by simp at h
      quiet := fun w hw h => by simp at h }
  next hrun =>
  refine { hs with
    fresh := hfresh
    joining := fun call bWait' h => ?_
    stopping := fun w h => by simp at h
    quiet := fun w hw h => by simp at h }
  simp only [Caller.joining.injEq] at h
  obtain ⟨rfl, -⟩ := h
  exact ⟨Nat.lt_succ_self _, hs.fresh _ (Nat.le_refl _), by simpa using hrun⟩

/-- When the join is over there is no thread that has not terminated. -/
theorem isLive_of_isJoined (hs : Orderly s) (hjoined : s.isJoined) (j : ℕ) :
    (s.phase j).isLive = false := by
  rw [← Bool.not_eq_true]
  intro hlive
  rw [isJoined, hs.only j hlive, Option.all_some, decide_eq_true_eq] at hjoined
  simp [hjoined, Phase.isLive] at hlive

theorem startThread {call : ℕ} {bWait : Bool} (hs : Orderly s)
    (hcaller : s.caller = .joining call bWait) (hjoined : s.isJoined) :
    Orderly (s.startThread call bWait) := by
  obtain ⟨hcall, habsent, hrun⟩ := hs.joining call bWait hcaller
  have hdead := hs.isLive_of_isJoined hjoined
  have hphase : ∀ j, (s.startThread call bWait).phase j = if j = call then .created else s.phase j :=
    fun j => moveTo_phase s call j .created
  have hidle : ∀ j, ((s.startThread call bWait).phase j).isBusy = false := fun j => by
    rw [hphase]
    split
    · rfl
    · rw [← Bool.not_eq_true]
      intro hbusy
      exact absurd ((hdead j).symm.trans (isLive_of_isBusy hbusy)) Bool.false_ne_true
  refine ⟨fun j hj => ?_, fun j hj => ?_, fun j hj => ?_, fun h => ?_, fun j => ?_,
    fun call' bWait' h => ?_, fun w h => ?_, fun w hw h => ?_⟩
  · rw [hphase] at hj
    split at hj
    · next h => exact h ▸ rfl
    · exact absurd ((hdead j).symm.trans hj) Bool.false_ne_true
  · have hj : s.calls ≤ j := hj
    rw [hphase, if_neg (by omega)]
    exact hs.fresh j hj
  · exact absurd ((hidle j).symm.trans hj) Bool.false_ne_true
  · exact absurd (hrun.symm.trans h) Bool.false_ne_true
  · have hj := hs.runs j
    rw [hphase]
    split
    · next h =>
      rw [h, habsent] at hj
      exact h ▸ hj
    · exact hj
  all_goals cases bWait <;> simp [CThread.startThread] at h

theorem stopThread (hs : Orderly s) (iWaitMs : ℤ) : Orderly (s.stopThread iWaitMs) where
  only := hs.only
  fresh := hs.fresh
  busy := hs.busy
  stopped := hs.stopped
  runs := hs.runs
  joining call bWait h := by
    simp only [CThread.stopThread] at h
    split at h <;> cases h
  stopping _ _ := rfl
  quiet w hw h := by
    refine ⟨rfl, ?_⟩
    simp only [CThread.stopThread] at h ⊢
    split at h
    · next hc =>
      simp only [Caller.idle.injEq, Option.some.injEq, Outcome.stopped.injEq, and_true] at h
      rcases hc with hc | hc
      · simpa using hc
      · omega
    · cases h

theorem stopReturns {iWaitMs : ℤ} (hs : Orderly s) (hcaller : s.caller = .awaitsStop iWaitMs) :
    Orderly { s with caller := .idle (some (.stopped iWaitMs s.bStopped)) } where
  only := hs.only
  fresh := hs.fresh
  busy := hs.busy
  stopped := hs.stopped
  runs := hs.runs
  joining call bWait h := by cases h
  stopping w h := by cases h
  quiet w hw h := by
    simp only [Caller.idle.injEq, Option.some.injEq, Outcome.stopped.injEq] at h
    refine ⟨hs.stopping iWaitMs hcaller, ?_⟩
    rw [← Bool.not_eq_true]
    intro hrun
    exact absurd ((hs.stopped hrun).symm.trans h.2) Bool.false_ne_true

/-! ### The steps of a started thread -/

theorem enterHandler (hs : Orderly s) (hphase : s.phase i = .created) (hlocked : s.isLocked = false) :
    Orderly (s.enterHandler i) := by
  have hlive : (s.phase i).isLive := by rw [hphase]; rfl
  have hidle : ∀ j, (s.phase j).isBusy = false := fun j => by
    rw [← Bool.not_eq_true]
    intro hbusy
    obtain rfl := hs.eq_of_busy hlive hbusy
    rw [hphase] at hbusy
    cases hbusy
  unfold CThread.enterHandler
  split
  · refine (hs.markStopped hidle true).move (i := i) (p := .ended) hlive (fun h => by cases h) ?_
    exact fun _ => rfl
  · next hstop =>
    refine (hs.markRunning hlocked (by simpa using hstop)).move (i := i) (p := .entering) hlive
      (fun _ => rfl) fun h => ?_
    rw [show s.phase i = .created from hphase] at h
    cases h

theorem beginProcess (hs : Orderly s) (hphase : s.phase i = .entering) :
    Orderly (s.beginProcess i) := by
  have hmoved : Orderly (s.moveTo i .processing) := by
    refine hs.move (by rw [hphase]; rfl) (fun _ => hs.busy i (by rw [hphase]; rfl)) fun _ => rfl
  refine { hmoved with runs := fun j => ?_ }
  have hj := hmoved.runs j
  change Function.update s.runs i (s.runs i + 1) j ≤ _
  rw [Function.update_apply]
  split
  · next h =>
    subst h
    have hold := hs.runs j
    rw [hphase] at hold
    change _ ≤ if ((s.moveTo j .processing).phase j).mayHaveRun then 1 else 0
    rw [moveTo_self]
    exact Nat.succ_le_succ hold
  · exact hj

theorem leaveHandler (hs : Orderly s) (hphase : s.phase i = .leaving) :
    Orderly (s.leaveHandler i) := by
  have hlive : (s.phase i).isLive := by rw [hphase]; rfl
  have hmoved : Orderly (s.moveTo i .ended) :=
    hs.move hlive (fun h => by cases h) fun _ => rfl
  refine hmoved.markStopped (fun j => ?_) s.bStarted
  rw [← Bool.not_eq_true]
  intro hbusy
  rw [moveTo_phase] at hbusy
  split at hbusy
  · cases hbusy
  · next hne => exact hne (hs.eq_of_busy hlive hbusy)

theorem step {a : Action} (hs : Orderly s) (h : s.step a = some t) : Orderly t := by
  cases move_of_step h with
  | createThread bWait => exact hs.createThread bWait
  | joined hcaller hjoined => exact hs.startThread hcaller hjoined
  | started =>
    exact { hs with
      joining := fun call bWait h => by cases h
      stopping := fun w h => by cases h
      quiet := fun w hw h => by cases h }
  | stopThread iWaitMs => exact hs.stopThread iWaitMs
  | stopReturns hcaller => exact hs.stopReturns hcaller
  | enterHandler hphase hlocked => exact hs.enterHandler hphase hlocked
  | beginProcess hphase => exact hs.beginProcess hphase
  | stopFromProcess =>
    exact { hs with
      stopping := fun _ _ => rfl
      quiet := fun w hw h => ⟨rfl, (hs.quiet w hw h).2⟩ }
  | endProcess hphase =>
    exact hs.move (by rw [hphase]; rfl) (fun _ => hs.busy _ (by rw [hphase]; rfl)) fun _ => rfl
  | leaveHandler hphase => exact hs.leaveHandler hphase
  | terminate hphase => exact hs.move (by rw [hphase]; rfl) (fun h => by cases h) fun _ => rfl

end Orderly

/-! ### Runs -/

theorem orderly_of_schedule {s : CThread} (h : Schedule step initial s) : Orderly s :=
  h.invariant (fun hs _ hstep => hs.step hstep) orderly_initial

/-- `Process` does not run and will not, as long as no thread is started. -/
structure Halted (s : CThread) : Prop extends Orderly s where
  stop : s.bStop
  notRunning : s.bRunning = false
  unlocked : s.isLocked = false

theorem Halted.not_busy {s : CThread} (hs : Halted s) (i : ℕ) : (s.phase i).isBusy = false := by
  rw [← Bool.not_eq_true]
  intro hbusy
  exact absurd (hs.notRunning.symm.trans (hs.busy i hbusy)) Bool.false_ne_true

theorem Halted.step {s t : CThread} {a : Action} (hs : Halted s) (ha : a.isCreateThread = false)
    (h : s.step a = some t) : Halted t := by
  have hnot : ∀ {i : ℕ} {p : Phase}, p.isBusy → s.phase i ≠ p := fun {i p} hp hphase => by
    exact absurd ((hs.not_busy i).symm.trans (hphase ▸ hp)) Bool.false_ne_true
  suffices hfields : t.bStop ∧ t.bRunning = false ∧ t.isLocked = false from
    ⟨hs.toOrderly.step h, hfields.1, hfields.2.1, hfields.2.2⟩
  cases move_of_step h with
  | createThread bWait => cases ha
  | joined hcaller =>
    have hlocked := hs.unlocked
    rw [isLocked, hcaller] at hlocked
    cases hlocked
  | started => exact ⟨hs.stop, hs.notRunning, rfl⟩
  | stopThread iWaitMs =>
    refine ⟨rfl, hs.notRunning, ?_⟩
    rw [stopThread, if_pos (.inl (by rw [hs.notRunning]; rfl))]
    rfl
  | stopReturns => exact ⟨hs.stop, hs.notRunning, rfl⟩
  | enterHandler =>
    rw [enterHandler, if_pos hs.stop]
    exact ⟨hs.stop, rfl, hs.unlocked⟩
  | beginProcess hphase => exact absurd hphase (hnot rfl)
  | stopFromProcess hphase => exact absurd hphase (hnot rfl)
  | endProcess hphase => exact absurd hphase (hnot rfl)
  | leaveHandler hphase => exact absurd hphase (hnot rfl)
  | terminate => exact ⟨hs.stop, hs.notRunning, hs.unlocked⟩

/-- In every order of steps, at most one `Process` runs, each call of `CreateThread` leads to at
    most one run of it, and once `StopThread` has waited and returned true `Process` does not run
    before the next call of `CreateThread`. -/
theorem thread_life_cycle {s : CThread} (h : Schedule step initial s) :
    (∀ i j, s.phase i = .processing → s.phase j = .processing → i = j) ∧ (∀ call, s.runs call ≤ 1) ∧
      ∀ iWaitMs, 0 ≤ iWaitMs → s.caller = .idle (some (.stopped iWaitMs true)) →
        ∀ t, Reaches step (fun _ a => a.isCreateThread = false) s t → ∀ i, t.phase i ≠ .processing := by
  have hs := orderly_of_schedule h
  refine ⟨fun i j hi hj => ?_, fun call => ?_, fun iWaitMs hwait hcaller t ht i hi => ?_⟩
  · exact hs.eq_of_busy (by rw [hj]; rfl) (by rw [hi]; rfl)
  · refine Nat.le_trans (hs.runs call) ?_
    split <;> omega
  · obtain ⟨hstop, hrun⟩ := hs.quiet iWaitMs hwait hcaller
    have hhalted : Halted s := ⟨hs, hstop, hrun, by rw [isLocked, hcaller]⟩
    have hfinal : Halted t := ht.invariant (fun hu ha hstep => hu.step ha hstep) hhalted
    have hbusy := hfinal.not_busy i
    rw [hi] at hbusy
    cases hbusy

/-- A thread that is asked to stop before it has reached its handler. -/
theorem thread_life_cycle_stopped_early : ∃ s,
    Schedule step initial s ∧ s.caller = .idle (some (.stopped 5000 true)) ∧ s.runs 0 ≤ 1 ∧
      ∀ t, Reaches step (fun _ a => a.isCreateThread = false) s t → ∀ i, t.phase i ≠ .processing := by
  have hperform : (perform step initial
      [.createThread false, .joined, .stopThread 5000, .enterHandler 0]).isSome := by decide
  obtain ⟨s, hs⟩ := Option.isSome_iff_exists.mp hperform
  have hcaller : s.caller = .idle (some (.stopped 5000 true)) := by
    have hall : (perform step initial
        [.createThread false, .joined, .stopThread 5000, .enterHandler 0]).all
        (fun s => decide (s.caller = .idle (some (.stopped 5000 true)))) := by decide
    rw [hs] at hall
    simpa using hall
  have hrun := schedule_of_perform hs
  obtain ⟨-, hruns, hhalted⟩ := thread_life_cycle hrun
  exact ⟨s, hrun, hcaller, hruns 0, hhalted 5000 (by decide) hcaller⟩

end CThread

end CEC
