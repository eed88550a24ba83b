import LibCec.PendingActivation
import LibCec.Schemes.GuardedRun
import LibCec.ThreadLifeCycle

/-! How `CImageViewOnCheck` stops.

    The thread of Philips's handler reads the power status of the TV until it is on. Its destructor
    asks it to stop, wakes it up, and waits for it in the end:

        ~CImageViewOnCheck    StopThread(-1) ─▶ Broadcast ─▶ StopThread(5000)
        ~CThread              StopThread(0) ─▶ join

        Process    Wait ─▶ IsRunning? ──no──▶ return
                    ▲          └─yes─▶ GetPowerStatus ──on──▶ return
                    └────────────────────────┘ not on

    `IsRunning` is whether `Process` has been called and not returned, so it is true here whoever
    asks to stop; `IsStopped` would tell. `prompt_iff` says when `Process` returns in time. -/

namespace CEC
open Schemes Procedure

/-- A `CImageViewOnCheck`, and the world that it acts on. The source does not count the power
    statuses that are read after a stop was requested. -/
structure ImageViewOnCheck where
  thread : CThread
  world : World
  late : ℕ

/-- The steps of the thread, of the one that controls it, and the rounds of `Process`. -/
inductive CheckStep where
  | thread (act : CThread.Action)
  /-- a round that reads this power status, if it gets to that -/
  | round (i : ℕ) (status : PowerStatus)

namespace ImageViewOnCheck

variable (a : Fin 16)

/-- After the constructor. -/
def initial (w : World) : ImageViewOnCheck := ⟨.initial, w, 0⟩

/-- What `checkRound` does to the world. -/
def afterRound (status : PowerStatus) (w : World) : World :=
  ((Announcing.checkRound a status w).map Prod.snd).getD w

/-- A round of `Process` after the wait. -/
def round (i : ℕ) (status : PowerStatus) (s : ImageViewOnCheck) : ImageViewOnCheck :=
  if !s.thread.bRunning then { s with thread := s.thread.moveTo i .leaving }
  else
    { thread := if status = .on then s.thread.moveTo i .leaving else s.thread
      world := afterRound a status s.world
      late := if s.thread.bStop then s.late + 1 else s.late }

/-- `Process` does not stop itself, and returns only from a round. What a thread that is started
    again reads is not late. -/
def step (s : ImageViewOnCheck) : CheckStep → ImageViewOnCheck
  | .thread (.stopFromProcess _) | .thread (.endProcess _) => s
  | .thread act =>
    match s.thread.step act with
    | some t => { s with thread := t, late := if t.bStop then s.late else 0 }
    | none => s
  | .round i status => if s.thread.phase i = .processing then s.round a i status else s

/-- At most one power status is read after a stop was requested: `Process` does not run after that. -/
def Prompt (s : ImageViewOnCheck) : Prop := ∀ i, s.thread.phase i = .processing → s.late = 0

/-- What a round reads after a stop was requested is that the TV is on. -/
def OnWhenStopped (s : ImageViewOnCheck) : CheckStep → Prop
  | .round i status => s.thread.phase i = .processing → s.thread.bStop → status = .on
  | .thread _ => True

/-- Rounds that read these power statuses, as many as `Process` gets to. -/
def rounds (i : ℕ) : ℕ → (ℕ → PowerStatus) → List CheckStep
  | 0, _ => []
  | n + 1, statuses => .round i (statuses 0) :: rounds i n fun j => statuses (j + 1)

/-- After the rounds the thread leaves, if `Process` has returned, and the last wait of the destructor
    returns, if the thread has left. -/
def awaited (i n : ℕ) (statuses : ℕ → PowerStatus) (s : ImageViewOnCheck) : ImageViewOnCheck :=
  (((rounds i n statuses).foldl (step a) s).step a (.thread (.leaveHandler i))).step a
    (.thread .stopReturns)

end ImageViewOnCheck

/-! ### One step -/

namespace CThread

/-- `Process` may still be called, or runs. -/
def Phase.mayProcess (p : Phase) : Bool := p = .created || p = .entering || p = .processing

theorem isLive_of_mayProcess {p : Phase} (h : p.mayProcess) : p.isLive := by
  cases p <;> simp_all [Phase.mayProcess, Phase.isLive]

/-- Only a join makes a thread that may call `Process`; it clears `m_bStop`. -/
theorem mayProcess_of_step {s t : CThread} {act : Action} (h : s.step act = some t) :
    t.bStop = false ∨ ∀ j, (t.phase j).mayProcess → (s.phase j).mayProcess := by
  have hmoves : ∀ (i : ℕ) (p : Phase), (p.mayProcess → (s.phase i).mayProcess) →
      ∀ j, ((s.moveTo i p).phase j).mayProcess → (s.phase j).mayProcess := by
    intro i p hp j hj
    rw [moveTo_phase] at hj
    split at hj
    · next heq => exact heq ▸ hp hj
    · exact hj
  cases move_of_step h with
  | createThread =>
    right
    unfold createThread
    split <;> exact fun _ hj => hj
  | joined => exact .inl rfl
  | started | stopThread | stopReturns | stopFromProcess => exact .inr fun _ hj => hj
  | enterHandler hphase =>
    right
    unfold enterHandler
    split
    · exact hmoves _ .ended fun hp => by cases hp
    · exact hmoves _ .entering fun _ => by rw [hphase]; rfl
  | beginProcess hphase => exact .inr (hmoves _ .processing fun _ => by rw [hphase]; rfl)
  | endProcess => exact .inr (hmoves _ .leaving fun hp => by cases hp)
  | leaveHandler => exact .inr (hmoves _ .ended fun hp => by cases hp)
  | terminate => exact .inr (hmoves _ .terminated fun hp => by cases hp)

end CThread

namespace ImageViewOnCheck

/-- A thread that may still read a power status has read none late. -/
structure Punctual (s : ImageViewOnCheck) : Prop where
  orderly : s.thread.Orderly
  late : ∀ i, (s.thread.phase i).mayProcess → s.late = 0

theorem punctual_initial (w : World) : (initial w).Punctual where
  orderly := CThread.orderly_initial
  late _ _ := rfl

theorem Punctual.prompt {s : ImageViewOnCheck} (hs : s.Punctual) : s.Prompt :=
  fun i hi => hs.late i (by rw [hi]; rfl)

section steps

variable {a : Fin 16} {s : ImageViewOnCheck} {i : ℕ} {status : PowerStatus}

/-- While `Process` runs, `IsRunning` is true, whether a stop was requested or not. -/
theorem round_of_processing (hs : s.thread.Orderly) (hphase : s.thread.phase i = .processing) :
    s.round a i status =
      { thread := if status = .on then s.thread.moveTo i .leaving else s.thread
        world := afterRound a status s.world
        late := if s.thread.bStop then s.late + 1 else s.late } := by
  have hrunning : s.thread.bRunning = true := hs.busy i (by rw [hphase]; rfl)
  rw [round, if_neg (by simp [hrunning])]

/-- The flags say what the thread does, after every step. -/
theorem orderly_step (hs : s.thread.Orderly) (e : CheckStep) : (s.step a e).thread.Orderly := by
  cases e with
  | thread act =>
    unfold step
    split
    · exact hs
    · exact hs
    · split
      · next t ht => exact hs.step ht
      · exact hs
    · next h => cases h
  | round i status =>
    by_cases hphase : s.thread.phase i = .processing
    · rw [step, if_pos hphase, round_of_processing hs hphase]
      by_cases hon : status = .on
      · have hlive : (s.thread.phase i).isLive := by rw [hphase]; rfl
        simp only [hon, if_true]
        exact hs.move hlive (fun _ => hs.busy i (by rw [hphase]; rfl)) fun _ => rfl
      · simp only [hon, if_false]
        exact hs
    · rw [step, if_neg hphase]
      exact hs

/-- A step of the threads other than a round reads nothing. -/
theorem punctual_thread (hs : s.Punctual) (act : CThread.Action) :
    (s.step a (.thread act)).Punctual := by
  refine ⟨orderly_step hs.orderly _, ?_⟩
  unfold step
  split
  · exact hs.late
  · exact hs.late
  · split
    · next t ht =>
      intro i hi
      rcases CThread.mayProcess_of_step ht with hstop | hmay
      · exact if_neg (by simp [hstop])
      · change (if t.bStop then s.late else 0) = 0
        rw [hs.late i (hmay i hi)]
        split <;> rfl
    · exact hs.late
  · next h => cases h

/-- A round that reads that the TV is on is the last one. -/
theorem punctual_round_on (hs : s.Punctual) (hphase : s.thread.phase i = .processing) :
    (s.step a (.round i .on)).Punctual := by
  refine ⟨orderly_step hs.orderly _, fun j hj => ?_⟩
  rw [step, if_pos hphase, round_of_processing hs.orderly hphase, if_pos rfl] at hj
  change ((s.thread.moveTo i .leaving).phase j).mayProcess = true at hj
  rw [CThread.moveTo_phase] at hj
  split at hj
  · cases hj
  · next hne =>
    -- there is no other thread
    have hlive : (s.thread.phase i).isLive := by rw [hphase]; rfl
    have hj := hs.orderly.only j (CThread.isLive_of_mayProcess hj)
    exact absurd (Option.some.inj (hj.symm.trans (hs.orderly.only i hlive))) hne

/-- Where no power status was read late, none is after a step, iff the one that the step reads is not
    late or the last one. -/
theorem prompt_step_iff {e : CheckStep} (hs : s.Punctual) :
    (s.step a e).Prompt ↔ s.OnWhenStopped e := by
  cases e with
  | thread act => exact iff_of_true (punctual_thread hs act).prompt trivial
  | round i status =>
    by_cases hphase : s.thread.phase i = .processing
    · by_cases hon : status = .on
      · subst hon
        exact iff_of_true (punctual_round_on hs hphase).prompt fun _ _ => rfl
      · have hlate := hs.late i (by rw [hphase]; rfl)
        rw [step, if_pos hphase, round_of_processing hs.orderly hphase, if_neg hon]
        cases hstop : s.thread.bStop with
        | true =>
          refine iff_of_false (fun hprompt => ?_) fun hall => hon (hall hphase hstop)
          exact absurd (hprompt i hphase) (Nat.succ_ne_zero _)
        | false => exact iff_of_true (fun j _ => hlate) fun _ h => by simp [hstop] at h
    · rw [step, if_neg hphase]
      exact iff_of_true hs.prompt fun h => absurd h hphase

theorem punctual_step {e : CheckStep} (hs : s.Punctual) (he : s.OnWhenStopped e) :
    (s.step a e).Punctual := by
  cases e with
  | thread act => exact punctual_thread hs act
  | round i status =>
    by_cases hphase : s.thread.phase i = .processing
    · by_cases hon : status = .on
      · subst hon
        exact punctual_round_on hs hphase
      · have hstop : s.thread.bStop = false := by
          rw [← Bool.not_eq_true]
          exact fun hstop => hon (he hphase hstop)
        rw [step, if_pos hphase, round_of_processing hs.orderly hphase, if_neg hon, hstop]
        exact ⟨hs.orderly, hs.late⟩
    · rw [step, if_neg hphase]
      exact hs

/-! ### Runs of rounds -/

theorem returns_afterRound (status : PowerStatus) (w : World) :
    Returns (Announcing.checkRound a status) w () (afterRound a status w) := by
  obtain ⟨_, w', h⟩ := Announcing.terminates_checkRound a status w
  rw [afterRound, show Announcing.checkRound a status w = some ((), w') from h]
  exact h

/-- Once `Process` has returned there are no more rounds. -/
theorem foldl_rounds_returned (h : s.thread.phase i ≠ .processing) (n : ℕ)
    (statuses : ℕ → PowerStatus) : (rounds i n statuses).foldl (step a) s = s := by
  induction n generalizing statuses with
  | zero => rfl
  | succ n ih =>
    rw [rounds, List.foldl_cons, step, if_neg h]
    exact ih _

/-- The rounds do what `checkRounds` does, and `Process` returns from the one that reads that the TV is
    on. -/
theorem foldl_rounds (hs : s.thread.Orderly) (hphase : s.thread.phase i = .processing) (n : ℕ)
    (statuses : ℕ → PowerStatus) :
    ((∃ j < n, statuses j = .on) →
      ((rounds i n statuses).foldl (step a) s).thread = s.thread.moveTo i .leaving) ∧
    ((∀ j < n, statuses j ≠ .on) →
      ((rounds i n statuses).foldl (step a) s).thread = s.thread) ∧
    Returns (Announcing.checkRounds a n statuses) s.world ()
      ((rounds i n statuses).foldl (step a) s).world := by
  induction n generalizing s statuses with
  | zero =>
    refine ⟨?_, fun _ => rfl, returns_pure.mpr ⟨rfl, rfl⟩⟩
    rintro ⟨j, hj, -⟩
    exact absurd hj (Nat.not_lt_zero j)
  | succ n ih =>
    have hround : s.step a (.round i (statuses 0)) = _ :=
      (if_pos hphase).trans (round_of_processing hs hphase)
    have hworld := returns_afterRound (a := a) (statuses 0) s.world
    rw [rounds, List.foldl_cons]
    by_cases hon : statuses 0 = .on
    · have hreturned : (s.step a (.round i (statuses 0))).thread.phase i ≠ .processing := by
        rw [hround, if_pos hon, CThread.moveTo_self]
        decide
      rw [foldl_rounds_returned hreturned, hround, if_pos hon]
      refine ⟨fun _ => rfl, fun hoff => absurd hon (hoff 0 (Nat.succ_pos n)), ?_⟩
      refine returns_bind.mpr ⟨(), _, hworld, returns_callOr.mpr (.inr ?_)⟩
      exact ⟨not_not.mpr hon, rfl, rfl⟩
    · have hsame : (s.step a (.round i (statuses 0))).thread = s.thread := by
        rw [hround, if_neg hon]
      obtain ⟨hreads, hoff, hrest⟩ := ih (s := s.step a (.round i (statuses 0)))
        (by rw [hsame]; exact hs) (by rw [hsame]; exact hphase) fun j => statuses (j + 1)
      rw [hsame] at hreads hoff
      refine ⟨?_, fun hall => hoff fun j hj => hall (j + 1) (Nat.succ_lt_succ hj), ?_⟩
      · rintro ⟨j, hj, hread⟩
        cases j with
        | zero => exact absurd hread hon
        | succ j => exact hreads ⟨j, Nat.lt_of_succ_lt_succ hj, hread⟩
      · rw [hround] at hrest
        exact returns_bind.mpr ⟨(), _, hworld, returns_callOr.mpr (.inl ⟨hon, by rw [hround]; exact hrest⟩)⟩

/-- A thread in `Process` does not let the destructor go on. -/
theorem caller_of_processing (hs : s.thread.Orderly) (hphase : s.thread.phase i = .processing)
    (hwaits : s.thread.caller = .awaitsStop 0) :
    (s.step a (.thread (.leaveHandler i))).step a (.thread .stopReturns) = s := by
  have hrunning : s.thread.bRunning := hs.busy i (by rw [hphase]; rfl)
  have hstopped : s.thread.bStopped = false := hs.stopped hrunning
  have hstays : s.step a (.thread (.leaveHandler i)) = s := by
    simp [step, CThread.step, CThread.callerStep, CThread.threadStep, hphase]
  rw [hstays]
  simp [step, CThread.step, CThread.callerStep, CThread.threadStep, hwaits, hstopped]

/-- A thread that has returned from it does. -/
theorem caller_of_leaving (hphase : s.thread.phase i = .leaving)
    (hwaits : s.thread.caller = .awaitsStop 0) :
    ((s.step a (.thread (.leaveHandler i))).step a (.thread .stopReturns)).thread.caller =
      .idle (some (.stopped 0 true)) := by
  have hleaves : s.step a (.thread (.leaveHandler i)) = { s with
      thread := s.thread.leaveHandler i
      late := if s.thread.bStop then s.late else 0 } := by
    simp [step, CThread.step, CThread.callerStep, CThread.threadStep, hphase, CThread.isLocked,
      hwaits, CThread.leaveHandler, CThread.moveTo]
  rw [hleaves]
  simp [step, CThread.step, CThread.callerStep, CThread.leaveHandler, CThread.moveTo, hwaits]

/-- The last wait of the destructor returns iff some round reads that the TV is on. -/
theorem awaited_iff (hs : s.thread.Orderly) (hphase : s.thread.phase i = .processing)
    (hwaits : s.thread.caller = .awaitsStop 0) (statuses : ℕ → PowerStatus) :
    (∃ n, (s.awaited a i n statuses).thread.caller ≠ .awaitsStop 0) ↔ ∃ j, statuses j = .on := by
  constructor
  · rintro ⟨n, hdone⟩
    by_contra hnever
    have hoff : ∀ j < n, statuses j ≠ .on := fun j _ hj => hnever ⟨j, hj⟩
    have hthread := (foldl_rounds (a := a) hs hphase n statuses).2.1 hoff
    rw [awaited, caller_of_processing (by rw [hthread]; exact hs) (by rw [hthread]; exact hphase)
      (by rw [hthread]; exact hwaits), hthread] at hdone
    exact hdone hwaits
  · rintro ⟨j, hj⟩
    have hthread := (foldl_rounds (a := a) hs hphase (j + 1) statuses).1 ⟨j, Nat.lt_succ_self j, hj⟩
    refine ⟨j + 1, ?_⟩
    rw [awaited, caller_of_leaving (by rw [hthread, CThread.moveTo_self]) (by rw [hthread]; exact hwaits)]
    simp

end steps

/-! ### Runs -/

theorem orderly_run (a : Fin 16) (w : World) (es : List CheckStep) :
    (es.foldl (step a) (initial w)).thread.Orderly := by
  induction es using List.reverseRecOn with
  | nil => exact CThread.orderly_initial
  | append_singleton es e ih =>
    rw [List.foldl_append, List.foldl_cons, List.foldl_nil]
    exact orderly_step ih e

/-- In every run `Process` reads at most one more power status after a stop was requested, iff the first
    one that it reads then is that the TV is on; and its destructor returns iff some round reads
    that. -/
theorem prompt_iff (a : Fin 16) (w : World) (es : List CheckStep) :
    ((∀ past later, es = past ++ later → (past.foldl (step a) (initial w)).Prompt) ↔
      Guarded (step a) OnWhenStopped (initial w) es) ∧
    ∀ (i : ℕ) (statuses : ℕ → PowerStatus) (s : ImageViewOnCheck),
      s = es.foldl (step a) (initial w) → s.thread.phase i = .processing →
        s.thread.caller = .awaitsStop 0 →
          ((∃ n, (s.awaited a i n statuses).thread.caller ≠ .awaitsStop 0) ↔
            ∃ j, statuses j = .on) := by
  constructor
  · rw [forall_prefix_iff]
    have hguards : Guarded (step a) (fun s e => (s.step a e).Prompt) (initial w) es ↔
        Guarded (step a) OnWhenStopped (initial w) es :=
      guarded_iff Punctual (fun _ _ => prompt_step_iff) (fun _ _ => punctual_step) es
        (punctual_initial w)
    rw [hguards]
    exact and_iff_right (punctual_initial w).prompt
  · rintro i statuses s rfl hphase hwaits
    exact awaited_iff (orderly_run a w es) hphase hwaits statuses

/-- A thread that is asked to stop while it waits for a TV in standby. -/
def stoppedInStandby : List CheckStep :=
  [.thread (.createThread false), .thread .joined, .thread (.enterHandler 0),
    .thread (.beginProcess 0), .thread (.stopThread (-1)), .round 0 .standby]

/-- It goes on. -/
theorem not_prompt : ¬ ∀ (a : Fin 16) (w : World) (es : List CheckStep),
    (es.foldl (step a) (initial w)).Prompt := by
  intro h
  have hprompt := h 4 (World.start (fun _ => .clear) fun _ => .silent) stoppedInStandby
  exact absurd (hprompt 0 (by decide)) (by decide)

end ImageViewOnCheck

end CEC
