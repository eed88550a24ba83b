import LibCec.Callbacks

/-! What becomes of a callback that is pushed.

    The thread of the client takes the wraps off the queue in the order they were pushed in and
    calls the application. A caller that waits gets what its own callback has returned, or zero:

        push     accepted ─▶ called ─▶ returned x ─▶ answered x
                    │           └ throw, or too late ─▶ answered 0
                    ├─▶ dropped by the destructor ────▶ answered 0
                 refused, when 100 wait ──────────────▶ answered 0

    The log is a history variable: no step looks at it. -/

namespace CEC
open Schemes

namespace CallbackCalls

/-! ### The log -/

/-- What can be seen of a step. -/
inductive Event where
  | created (t r : ℕ)
  | accepted (r : ℕ)
  | refused (r : ℕ)
  | called (r : ℕ)
  | dropped (r : ℕ)
  | returned (r : ℕ) (result : ℤ)
  | timedOut (t r : ℕ)
  | answered (t r : ℕ) (result : ℤ)
  deriving DecidableEq

/-- The wrap that a step offers to the queue. -/
def Event.offered : Event → Option ℕ
  | .accepted r | .refused r => some r
  | _ => none

def Event.acceptedWrap : Event → Option ℕ
  | .accepted r => some r
  | _ => none

/-- The wrap that a step takes off the queue. -/
def Event.taken : Event → Option ℕ
  | .called r | .dropped r => some r
  | _ => none

/-- `Push` of the wrap. -/
def offer (s : CallbackCalls) (r : ℕ) : Event := if s.takes then .accepted r else .refused r

/-- What can be seen of the next step. -/
def events (s : CallbackCalls) : Action → List Event
  | .post => [s.offer s.wraps.next]
  | .create t => [.created t s.wraps.next]
  | .push t =>
    match s.threads t with
    | .created r => [s.offer r]
    | _ => []
  | .result t =>
    match s.threads t with
    | .pushed r => if (s.wraps.cell r).any CCallbackWrap.bSucceeded then [] else [.timedOut t r]
    | _ => []
  | .finish t =>
    match s.threads t with
    | .timedOut r => [.answered t r 0]
    | .resulted r result => [.answered t r result]
    | _ => []
  | .pop => (s.queue.head?.map Event.called).toList
  | .report result => (s.calling.wrap.map (Event.returned · result)).toList
  | .drain => (s.queue.head?.map Event.dropped).toList
  | _ => []

end CallbackCalls

open CallbackCalls in
/-- The callbacks, and what could be seen of them so far. -/
structure CallbackLog where
  calls : CallbackCalls
  log : List Event

namespace CallbackLog
open CallbackCalls

def initial : CallbackLog := ⟨.initial, []⟩

def step (w : CallbackLog) (a : Action) : Option CallbackLog :=
  (w.calls.step a).map fun u => ⟨u, w.log ++ w.calls.events a⟩

/-- The callbacks are made in order and once at most, and answer the callers that wait for them. -/
structure Delivered (w : CallbackLog) : Prop where
  once : (w.log.filterMap Event.offered).Nodup
  inOrder : w.log.filterMap Event.acceptedWrap = w.log.filterMap Event.taken ++ w.calls.queue
  returned : ∀ r result, .returned r result ∈ w.log → .called r ∈ w.log
  answered : ∀ t r result, .answered t r result ∈ w.log → .created t r ∈ w.log ∧
    (.returned r result ∈ w.log ∨ result = 0 ∧ .timedOut t r ∈ w.log)
  /-- No wait times out when the callback has returned. -/
  timely : w.log.Pairwise fun e f => ∀ t r result, e = .returned r result → f ≠ .timedOut t r

/-! ### The queue -/

/-- A wrap is offered once, and what was accepted leaves the queue in its order. -/
structure Ordered (w : CallbackLog) : Prop where
  once : (w.log.filterMap Event.offered).Nodup
  inOrder : w.log.filterMap Event.acceptedWrap = w.log.filterMap Event.taken ++ w.calls.queue
  old : ∀ r ∈ w.log.filterMap Event.offered, r < w.calls.wraps.next
  created : ∀ t r, w.calls.threads t = .created r →
    r < w.calls.wraps.next ∧ r ∉ w.log.filterMap Event.offered
  apart : ∀ t t' r, w.calls.threads t = .created r → w.calls.threads t' = .created r → t' = t

theorem ordered_initial : Ordered initial where
  once := List.nodup_nil
  inOrder := rfl
  old r h := by cases h
  created t r h := by cases h
  apart t t' r h := by cases h

section order

variable {w : CallbackLog} {u : CallbackCalls} {events : List Event}

/-- A step that offers nothing and takes nothing. -/
theorem Ordered.quiet (hw : Ordered w) (hqueue : u.queue = w.calls.queue)
    (hnext : w.calls.wraps.next = u.wraps.next)
    (hthreads : ∀ t r, u.threads t = .created r → w.calls.threads t = .created r)
    (hoffered : events.filterMap Event.offered = [])
    (haccepted : events.filterMap Event.acceptedWrap = [])
    (htaken : events.filterMap Event.taken = []) : Ordered ⟨u, w.log ++ events⟩ := by
  refine ⟨?_, ?_, ?_, fun t r h => ?_, fun t t' r h h' => ?_⟩
  · simpa [List.filterMap_append, hoffered] using hw.once
  · simpa [List.filterMap_append, haccepted, htaken, hqueue] using hw.inOrder
  · simpa [List.filterMap_append, hoffered, ← hnext] using hw.old
  · simpa [List.filterMap_append, hoffered, ← hnext] using hw.created t r (hthreads t r h)
  · exact hw.apart t t' r (hthreads t r h) (hthreads t' r h')

/-- A step that takes the first wrap off the queue. -/
theorem Ordered.takes {r : ℕ} {e : Event} (hw : Ordered w) (hqueue : w.calls.queue = r :: u.queue)
    (hnext : w.calls.wraps.next = u.wraps.next) (hthreads : u.threads = w.calls.threads)
    (he : e = .called r ∨ e = .dropped r) : Ordered ⟨u, w.log ++ [e]⟩ := by
  have hoffered : Event.offered e = none := by rcases he with rfl | rfl <;> rfl
  have haccepted : Event.acceptedWrap e = none := by rcases he with rfl | rfl <;> rfl
  have htaken : Event.taken e = some r := by rcases he with rfl | rfl <;> rfl
  refine ⟨?_, ?_, ?_, fun t i h => ?_, fun t t' i h h' => ?_⟩
  · simpa [List.filterMap_append, hoffered] using hw.once
  · simpa [List.filterMap_append, haccepted, htaken, hqueue] using hw.inOrder
  · simpa [List.filterMap_append, hoffered, ← hnext] using hw.old
  · simpa [List.filterMap_append, hoffered, ← hnext] using hw.created t i (hthreads ▸ h)
  · exact hw.apart t t' i (hthreads ▸ h) (hthreads ▸ h')

/-- A step that offers a wrap to the queue. -/
theorem Ordered.offers {r : ℕ} (hw : Ordered w) (hnew : r ∉ w.log.filterMap Event.offered)
    (hqueue : u.queue = (w.calls.push r).queue) (hr : r < u.wraps.next)
    (hnext : w.calls.wraps.next ≤ u.wraps.next)
    (hthreads : ∀ t i, u.threads t = .created i → w.calls.threads t = .created i ∧ i ≠ r) :
    Ordered ⟨u, w.log ++ [w.calls.offer r]⟩ := by
  have hoffered : (w.calls.offer r).offered = some r := by
    rw [offer]
    split <;> rfl
  refine ⟨?_, ?_, fun i hi => ?_, fun t i h => ?_, fun t t' i h h' => ?_⟩
  · simp only [List.filterMap_append, List.filterMap_cons, hoffered, List.filterMap_nil]
    refine List.nodup_append.mpr ⟨hw.once, List.nodup_singleton r, fun a ha b hb => ?_⟩
    rintro rfl
    exact hnew (List.mem_singleton.mp hb ▸ ha)
  · have hbefore := hw.inOrder
    cases htakes : w.calls.takes with
    | true =>
      simp [List.filterMap_append, hqueue, CallbackCalls.push, offer, htakes, Event.acceptedWrap,
        Event.taken, hbefore]
    | false =>
      have hnone : [Event.refused r].filterMap Event.acceptedWrap = [] ∧
        [Event.refused r].filterMap Event.taken = [] := ⟨rfl, rfl⟩
      simp [List.filterMap_append, hqueue, CallbackCalls.push, offer, htakes, hnone, hbefore]
  · simp only [List.filterMap_append, List.filterMap_cons, hoffered, List.filterMap_nil,
      List.mem_append, List.mem_singleton] at hi
    rcases hi with hi | rfl
    · exact Nat.lt_of_lt_of_le (hw.old i hi) hnext
    · exact hr
  · obtain ⟨h, hir⟩ := hthreads t i h
    obtain ⟨hlt, hnot⟩ := hw.created t i h
    refine ⟨Nat.lt_of_lt_of_le hlt hnext, ?_⟩
    simp only [List.filterMap_append, List.filterMap_cons, hoffered, List.filterMap_nil,
      List.mem_append, List.mem_singleton, not_or]
    exact ⟨hnot, hir⟩
  · exact hw.apart t t' i (hthreads t i h).1 (hthreads t' i h').1

theorem Ordered.unborn (hw : Ordered w) :
    w.calls.wraps.next ∉ w.log.filterMap Event.offered ∧
      ∀ t, w.calls.threads t ≠ .created w.calls.wraps.next :=
  ⟨fun h => absurd (hw.old _ h) (Nat.lt_irrefl _),
    fun t h => absurd (hw.created t _ h).1 (Nat.lt_irrefl _)⟩

/-- A thread moves on, and is not going to push anything. -/
theorem created_of_moveTo {s : CallbackCalls} {t t' r : ℕ} {stage : Stage}
    (hstage : ∀ i, stage ≠ .created i) (h : (s.moveTo t stage).threads t' = .created r) :
    s.threads t' = .created r ∧ t' ≠ t := by
  rw [moveTo_threads] at h
  split at h
  · exact absurd h (hstage r)
  · next hne => exact ⟨h, hne⟩

theorem Ordered.callerStep {a : Action} (hw : Ordered w) (h : w.calls.callerStep a = some u) :
    Ordered ⟨u, w.log ++ w.calls.events a⟩ := by
  cases a with
  | post =>
    obtain rfl := Option.some.inj h
    obtain ⟨hnew, hthreads⟩ := hw.unborn
    have hpushed : (w.calls.post).queue = (w.calls.push w.calls.wraps.next).queue ∧
        (w.calls.post).wraps.next = w.calls.wraps.next + 1 ∧
        (w.calls.post).threads = w.calls.threads := by
      rw [CallbackCalls.post, CallbackCalls.push, CallbackCalls.push]
      split
      · next ht => rw [if_pos (by exact ht)]; exact ⟨rfl, rfl, rfl⟩
      · next ht => rw [if_neg (by exact ht)]; exact ⟨rfl, rfl, rfl⟩
    obtain ⟨hqueue, hnext, hsame⟩ := hpushed
    refine hw.offers hnew hqueue (by omega) (by omega) fun t i hi => ?_
    rw [hsame] at hi
    exact ⟨hi, fun hir => hthreads t (hir ▸ hi)⟩
  | create t =>
    simp only [CallbackCalls.callerStep] at h
    split at h
    · next last ht =>
      obtain rfl := Option.some.inj h
      obtain ⟨hnew, hthreads⟩ := hw.unborn
      have hnext : (w.calls.create t).wraps.next = w.calls.wraps.next + 1 := rfl
      have hmoved : ∀ t', (w.calls.create t).threads t' =
          if t' = t then .created w.calls.wraps.next else w.calls.threads t' :=
        fun t' => moveTo_threads ..
      have hoffered : (w.log ++ w.calls.events (.create t)).filterMap Event.offered =
          w.log.filterMap Event.offered := List.filterMap_append.trans (List.append_nil _)
      have haccepted : (w.log ++ w.calls.events (.create t)).filterMap Event.acceptedWrap =
          w.log.filterMap Event.acceptedWrap := List.filterMap_append.trans (List.append_nil _)
      have htaken : (w.log ++ w.calls.events (.create t)).filterMap Event.taken =
          w.log.filterMap Event.taken := List.filterMap_append.trans (List.append_nil _)
      refine ⟨?_, ?_, fun i hi => ?_, fun t' i hi => ?_, fun t' t'' i hi hi' => ?_⟩
      · rw [hoffered]
        exact hw.once
      · rw [haccepted, htaken]
        exact hw.inOrder
      · rw [hoffered] at hi
        exact Nat.lt_succ_of_lt (hw.old i hi)
      · rw [hmoved] at hi
        rw [hoffered]
        split at hi
        · obtain rfl := Stage.created.inj hi
          exact ⟨Nat.lt_succ_self _, hnew⟩
        · obtain ⟨hlt, hnot⟩ := hw.created t' i hi
          exact ⟨Nat.lt_succ_of_lt hlt, hnot⟩
      · simp only [hmoved] at hi hi'
        split at hi <;> split at hi'
        · next h₁ h₂ => rw [h₁, h₂]
        · exact absurd ((Stage.created.inj hi).symm ▸ hi') (hthreads t'')
        · exact absurd ((Stage.created.inj hi').symm ▸ hi) (hthreads t')
        · exact hw.apart t' t'' i hi hi'
    · cases h
  | push t =>
    simp only [CallbackCalls.callerStep] at h
    split at h
    · next r ht =>
      obtain rfl := Option.some.inj h
      obtain ⟨hlt, hnew⟩ := hw.created t r ht
      have hpush : (w.calls.push r).wraps = w.calls.wraps ∧
          (w.calls.push r).threads = w.calls.threads := by
        rw [CallbackCalls.push]
        split <;> exact ⟨rfl, rfl⟩
      simp only [CallbackCalls.events, ht]
      refine hw.offers hnew rfl ?_ ?_ fun t' i hi => ?_
      · rw [moveTo_wraps, hpush.1]
        exact hlt
      · exact Nat.le_of_eq (by rw [moveTo_wraps, hpush.1])
      · obtain ⟨hi, hne⟩ := created_of_moveTo (by simp) hi
        rw [hpush.2] at hi
        exact ⟨hi, fun hir => hne (hw.apart t t' r ht (hir ▸ hi))⟩
    · cases h
  | result t =>
    simp only [CallbackCalls.callerStep] at h
    split at h
    · next r ht =>
      obtain rfl := Option.some.inj h
      simp only [CallbackCalls.events, ht, CallbackCalls.result]
      split
      · refine hw.quiet rfl rfl (fun t' i hi => (created_of_moveTo (by simp) hi).1) ?_ ?_ ?_
        all_goals split <;> rfl
      · refine hw.quiet rfl rfl (fun t' i hi => (created_of_moveTo (by simp) hi).1) ?_ ?_ ?_
        all_goals split <;> rfl
    · cases h
  | finish t =>
    simp only [CallbackCalls.callerStep] at h
    split at h
    · next r ht =>
      obtain rfl := Option.some.inj h
      simp only [CallbackCalls.events, ht]
      refine hw.quiet rfl rfl (fun t' i hi => (created_of_moveTo (fun i => ?_) hi).1) rfl rfl rfl
      split <;> simp
    · next r result ht =>
      obtain rfl := Option.some.inj h
      simp only [CallbackCalls.events, ht]
      refine hw.quiet rfl rfl (fun t' i hi => (created_of_moveTo (fun i => ?_) hi).1) rfl rfl rfl
      split <;> simp
    · cases h
  | delete t =>
    simp only [CallbackCalls.callerStep] at h
    split at h
    · obtain rfl := Option.some.inj h
      exact hw.quiet rfl rfl (fun t' i hi => (created_of_moveTo (by simp) hi).1) rfl rfl rfl
    · cases h
  | pop | report _ | throw | dispose | destroy | drain | drained => cases h

theorem Ordered.clientStep {a : Action} (hw : Ordered w) (h : w.calls.clientStep a = some u) :
    Ordered ⟨u, w.log ++ w.calls.events a⟩ := by
  cases a with
  | pop =>
    simp only [CallbackCalls.clientStep] at h
    split at h
    · next r rest hcalling hqueue =>
      obtain rfl := Option.some.inj h
      simp only [CallbackCalls.events, hqueue]
      exact hw.takes hqueue rfl rfl (.inl rfl)
    · cases h
  | report result =>
    simp only [CallbackCalls.clientStep] at h
    split at h
    · next r hcalling =>
      obtain rfl := Option.some.inj h
      simp only [CallbackCalls.events, hcalling]
      exact hw.quiet rfl rfl (fun t i hi => hi) rfl rfl rfl
    · cases h
  | throw =>
    simp only [CallbackCalls.clientStep] at h
    split at h
    · obtain rfl := Option.some.inj h
      exact hw.quiet rfl rfl (fun t i hi => hi) rfl rfl rfl
    · cases h
  | dispose =>
    simp only [CallbackCalls.clientStep] at h
    split at h
    · obtain rfl := Option.some.inj h
      exact hw.quiet rfl rfl (fun t i hi => hi) rfl rfl rfl
    · cases h
  | destroy =>
    obtain ⟨-, rfl⟩ := enabled_iff.mp h
    exact hw.quiet rfl rfl (fun t i hi => hi) rfl rfl rfl
  | drain =>
    simp only [CallbackCalls.clientStep] at h
    split at h
    · next r rest hlifetime hqueue =>
      obtain rfl := Option.some.inj h
      simp only [CallbackCalls.events, hqueue]
      exact hw.takes hqueue rfl rfl (.inr rfl)
    · cases h
  | drained =>
    obtain ⟨-, rfl⟩ := enabled_iff.mp h
    exact hw.quiet rfl rfl (fun t i hi => hi) rfl rfl rfl
  | post | create _ | push _ | result _ | finish _ | delete _ => cases h

end order

/-! ### The results -/

/-- What the callers and the thread of the client know has happened. -/
structure Reported (w : CallbackLog) : Prop where
  born : ∀ t r, .created t r ∈ w.log → r < w.calls.wraps.next
  held : ∀ t r, (w.calls.threads t).holds = some r → .created t r ∈ w.log
  caller : ∀ t r c, (w.calls.threads t).holds = some r → w.calls.wraps.cell r = some c →
    c.caller = some t
  calling : ∀ r, w.calls.calling = .calling r → .called r ∈ w.log
  succeeded : ∀ r c, w.calls.wraps.cell r = some c → c.bSucceeded → .returned r c.result ∈ w.log
  noticed : ∀ r c result, .returned r result ∈ w.log → w.calls.wraps.cell r = some c →
    c.caller.isSome → c.bSucceeded
  resulted : ∀ t r result, w.calls.threads t = .resulted r result → .returned r result ∈ w.log
  timedOut : ∀ t r, w.calls.threads t = .timedOut r → .timedOut t r ∈ w.log
  returned : ∀ r result, .returned r result ∈ w.log → .called r ∈ w.log
  answered : ∀ t r result, .answered t r result ∈ w.log → .created t r ∈ w.log ∧
    (.returned r result ∈ w.log ∨ result = 0 ∧ .timedOut t r ∈ w.log)
  timely : w.log.Pairwise fun e f => ∀ t r result, e = .returned r result → f ≠ .timedOut t r

/-- The wraps that were called are old ones. -/
def Known (w : CallbackLog) : Prop := ∀ r, .called r ∈ w.log → r < w.calls.wraps.next

theorem reported_initial : Reported initial where
  born t r h := by cases h
  held t r h := by cases h
  caller t r c h := by cases h
  calling r h := by cases h
  succeeded r c h := by cases h
  noticed r c result h := by cases h
  resulted t r result h := by cases h
  timedOut t r h := by cases h
  returned r result h := by cases h
  answered t r result h := by cases h
  timely := .nil

section results

variable {w : CallbackLog} {u : CallbackCalls} {events : List Event} {r : ℕ} {c : CCallbackWrap}

/-- The wrap is one that was there before, and a caller that waits for it knows no more. -/
def Kept (s : CallbackCalls) (r : ℕ) (c : CCallbackWrap) : Prop :=
  ∃ c', s.wraps.cell r = some c' ∧ c.caller = c'.caller ∧ c.bSucceeded = c'.bSucceeded ∧
    c.result = c'.result

theorem Kept.rfl {s : CallbackCalls} (h : s.wraps.cell r = some c) : Kept s r c :=
  ⟨c, h, Eq.refl _, Eq.refl _, Eq.refl _⟩

/-- What is left of the wraps when one was read. -/
theorem kept_touch {s : CallbackCalls} {i : ℕ} (h : (s.wraps.touch i).cell r = some c) :
    Kept s r c := by
  rw [ManualHeap.cell_touch] at h
  exact .rfl h

/-- What is left of the wraps when one was deleted. -/
theorem kept_delete {s : CallbackCalls} {i : ℕ} (h : (s.wraps.delete i).cell r = some c) :
    Kept s r c := by
  rw [ManualHeap.cell_delete] at h
  split at h
  · cases h
  · exact .rfl h

/-- A step in which no callback returns. -/
theorem Reported.moves (hw : Reported w) (hknown : Known w)
    (hnext : w.calls.wraps.next ≤ u.wraps.next)
    (hcells : ∀ r c, u.wraps.cell r = some c → Kept w.calls r c ∨
      r = w.calls.wraps.next ∧ c.bSucceeded = false ∧
        ∀ t, (u.threads t).holds = some r → c.caller = some t)
    (hcreated : ∀ t r, .created t r ∈ events → r < u.wraps.next)
    (hheld : ∀ t r, (u.threads t).holds = some r → (w.calls.threads t).holds = some r ∨
      r = w.calls.wraps.next ∧ .created t r ∈ events)
    (hcalling : ∀ r, u.calling = .calling r → w.calls.calling = .calling r ∨ .called r ∈ events)
    (hresulted : ∀ t r result, u.threads t = .resulted r result → .returned r result ∈ w.log)
    (htimedOut : ∀ t r, u.threads t = .timedOut r →
      w.calls.threads t = .timedOut r ∨ .timedOut t r ∈ events)
    (hreturned : ∀ r result, .returned r result ∉ events)
    (hanswered : ∀ t r result, .answered t r result ∈ events → .created t r ∈ w.log ∧
      (.returned r result ∈ w.log ∨ result = 0 ∧ .timedOut t r ∈ w.log))
    (htimely : ∀ t r result, .timedOut t r ∈ events → .returned r result ∉ w.log) :
    Reported ⟨u, w.log ++ events⟩ := by
  have hold : ∀ r result, .returned r result ∈ w.log ++ events → .returned r result ∈ w.log :=
    fun r result h => (List.mem_append.mp h).resolve_right (hreturned r result)
  refine ⟨fun t r h => ?_, fun t r h => ?_, fun t r c h hc => ?_, fun r h => ?_, fun r c hc h => ?_,
    fun r c result h hc hcaller => ?_, fun t r result h => ?_, fun t r h => ?_, fun r result h => ?_,
    fun t r result h => ?_, ?_⟩
  · rcases List.mem_append.mp h with h | h
    · exact Nat.lt_of_lt_of_le (hw.born t r h) hnext
    · exact hcreated t r h
  · rcases hheld t r h with h | ⟨-, h⟩
    · exact List.mem_append_left _ (hw.held t r h)
    · exact List.mem_append_right _ h
  · rcases hcells r c hc with ⟨c', hc', hcaller, -⟩ | ⟨-, -, hnew⟩
    · rcases hheld t r h with h | ⟨rfl, -⟩
      · exact hcaller.trans (hw.caller t r c' h hc')
      · rw [w.calls.wraps.fresh _ (Nat.le_refl _)] at hc'
        cases hc'
    · exact hnew t h
  · rcases hcalling r h with h | h
    · exact List.mem_append_left _ (hw.calling r h)
    · exact List.mem_append_right _ h
  · rcases hcells r c hc with ⟨c', hc', -, hsucceeded, hresult⟩ | ⟨-, hnot, -⟩
    · rw [hresult]
      exact List.mem_append_left _ (hw.succeeded r c' hc' (hsucceeded ▸ h))
    · exact absurd (hnot.symm.trans h) (by decide)
  · have hlog := hold r result h
    rcases hcells r c hc with ⟨c', hc', hsame, hsucceeded, -⟩ | ⟨rfl, -, -⟩
    · rw [hsucceeded]
      exact hw.noticed r c' result hlog hc' (hsame ▸ hcaller)
    · exact absurd (hknown _ (hw.returned _ result hlog)) (Nat.lt_irrefl _)
  · exact List.mem_append_left _ (hresulted t r result h)
  · rcases htimedOut t r h with h | h
    · exact List.mem_append_left _ (hw.timedOut t r h)
    · exact List.mem_append_right _ h
  · exact List.mem_append_left _ (hw.returned r result (hold r result h))
  · have hanswer : .created t r ∈ w.log ∧
        (.returned r result ∈ w.log ∨ result = 0 ∧ .timedOut t r ∈ w.log) := by
      rcases List.mem_append.mp h with h | h
      · exact hw.answered t r result h
      · exact hanswered t r result h
    obtain ⟨hcreate, hanswer⟩ := hanswer
    exact ⟨List.mem_append_left _ hcreate,
      hanswer.imp (List.mem_append_left _) (And.imp_right (List.mem_append_left _))⟩
  · refine List.pairwise_append.mpr ⟨hw.timely, ?_, fun e he f hf t r result hreturn htimed => ?_⟩
    · refine List.pairwise_of_forall_mem_list fun e he f _ t r result hreturn => ?_
      exact absurd (hreturn ▸ he) (hreturned r result)
    · exact htimely t r result (htimed ▸ hf) (hreturn ▸ he)

/-- A step of the thread of the client in which no callback returns. -/
theorem Reported.clientMoves (hw : Reported w) (hknown : Known w)
    (hnext : w.calls.wraps.next ≤ u.wraps.next)
    (hcells : ∀ r c, u.wraps.cell r = some c → Kept w.calls r c)
    (hthreads : u.threads = w.calls.threads)
    (hcalling : ∀ r, u.calling = .calling r → w.calls.calling = .calling r ∨ .called r ∈ events)
    (hevents : ∀ e ∈ events, ∃ r, e = .called r ∨ e = .dropped r) :
    Reported ⟨u, w.log ++ events⟩ := by
  refine hw.moves hknown hnext (fun r c h => .inl (hcells r c h)) (fun t r h => ?_)
    (fun t r h => .inl (hthreads ▸ h)) hcalling (fun t r result h => ?_)
    (fun t r h => .inl (hthreads ▸ h)) (fun r result h => ?_) (fun t r result h => ?_) (fun t r result h => ?_)
  · obtain ⟨i, h | h⟩ := hevents _ h <;> cases h
  · exact hw.resulted t r result (hthreads ▸ h)
  · obtain ⟨i, h | h⟩ := hevents _ h <;> cases h
  · obtain ⟨i, h | h⟩ := hevents _ h <;> cases h
  · obtain ⟨i, h | h⟩ := hevents _ h <;> cases h

/-- A callback returns. -/
theorem Reported.report (hw : Reported w) (hcalling : w.calls.calling = .calling r) (result : ℤ) :
    Reported ⟨w.calls.report r result, w.log ++ [.returned r result]⟩ := by
  have hcells : ∀ i c, (w.calls.report r result).wraps.cell i = some c →
      ∃ c', w.calls.wraps.cell i = some c' ∧ c.caller = c'.caller ∧
        (i = r ∧ c.caller.isSome ∧ c.bSucceeded ∧ c.result = result ∨
          (i = r → c.caller.isSome = false) ∧ c.bSucceeded = c'.bSucceeded ∧ c.result = c'.result) := by
    intro i c hc
    have hc : (if i = r then (w.calls.wraps.cell r).map fun c =>
        if c.caller.isSome then { c with result := result, bSucceeded := true } else c
        else w.calls.wraps.cell i) = some c := by
      rw [← ManualHeap.cell_use]
      exact hc
    split at hc
    · next hi =>
      subst hi
      obtain ⟨c', hc', rfl⟩ := Option.map_eq_some_iff.mp hc
      cases hcaller : c'.caller with
      | none => exact ⟨c', hc', by simp [hcaller], .inr (by simp [hcaller])⟩
      | some t => exact ⟨c', hc', by simp [hcaller], .inl (by simp)⟩
    · next hi => exact ⟨c, hc, rfl, .inr ⟨fun h => absurd h hi, rfl, rfl⟩⟩
  have hthreads : (w.calls.report r result).threads = w.calls.threads := rfl
  refine ⟨fun t i h => ?_, fun t i h => ?_, fun t i c h hc => ?_, fun i h => ?_, fun i c hc h => ?_,
    fun i c x h hc hcaller => ?_, fun t i x h => ?_, fun t i h => ?_, fun i x h => ?_,
    fun t i x h => ?_, ?_⟩
  · exact hw.born t i ((List.mem_append.mp h).resolve_right (by simp))
  · exact List.mem_append_left _ (hw.held t i h)
  · obtain ⟨c', hc', hcaller, -⟩ := hcells i c hc
    exact hcaller.trans (hw.caller t i c' h hc')
  · change (if w.calls.keepsResult r then Calling.idle else .deleting r) = .calling i at h
    split at h <;> cases h
  · obtain ⟨c', hc', -, ⟨rfl, -, -, hresult⟩ | ⟨-, hsucceeded, hresult⟩⟩ := hcells i c hc
    · rw [hresult]
      exact List.mem_append_right _ List.mem_cons_self
    · rw [hresult]
      exact List.mem_append_left _ (hw.succeeded i c' hc' (hsucceeded ▸ h))
  · obtain ⟨c', hc', hsame, ⟨-, -, hsucceeded, -⟩ | ⟨hnone, hsucceeded, -⟩⟩ := hcells i c hc
    · exact hsucceeded
    · rw [hsucceeded]
      rcases List.mem_append.mp h with h | h
      · exact hw.noticed i c' x h hc' (hsame ▸ hcaller)
      · obtain ⟨rfl, -⟩ := Event.returned.inj (List.mem_singleton.mp h)
        exact absurd ((hnone rfl).symm.trans hcaller) (by decide)
  · exact List.mem_append_left _ (hw.resulted t i x h)
  · exact List.mem_append_left _ (hw.timedOut t i h)
  · refine List.mem_append_left _ ?_
    rcases List.mem_append.mp h with h | h
    · exact hw.returned i x h
    · obtain ⟨rfl, -⟩ := Event.returned.inj (List.mem_singleton.mp h)
      exact hw.calling i hcalling
  · obtain ⟨hcreate, hanswer⟩ := hw.answered t i x ((List.mem_append.mp h).resolve_right (by simp))
    exact ⟨List.mem_append_left _ hcreate,
      hanswer.imp (List.mem_append_left _) (And.imp_right (List.mem_append_left _))⟩
  · refine List.pairwise_append.mpr ⟨hw.timely, List.pairwise_singleton _ _, ?_⟩
    intro e _ f hf t i x _ htimed
    rw [List.mem_singleton.mp hf] at htimed
    cases htimed

/-- What can be seen of a step of a caller on its wrap. -/
def CallerEvent (w : CallbackLog) (t : ℕ) (e : Event) : Prop :=
  e = w.calls.offer r ∨ (e = .timedOut t r ∧ ∀ result, .returned r result ∉ w.log) ∨
    ∃ result, e = .answered t r result ∧ .created t r ∈ w.log ∧
      (.returned r result ∈ w.log ∨ result = 0 ∧ .timedOut t r ∈ w.log)

theorem offer_cases (s : CallbackCalls) (r : ℕ) :
    s.offer r = .accepted r ∨ s.offer r = .refused r := by
  rw [offer]
  split
  · exact .inl rfl
  · exact .inr rfl

/-- A step of a caller on its wrap. -/
theorem Reported.callerMoves {t : ℕ} {stage : Stage} (hw : Reported w)
    (hknown : Known w)
    (hnext : w.calls.wraps.next ≤ u.wraps.next)
    (hcells : ∀ r c, u.wraps.cell r = some c → Kept w.calls r c)
    (hcalling : u.calling = w.calls.calling)
    (hthreads : ∀ t', u.threads t' = if t' = t then stage else w.calls.threads t')
    (hheld : ∀ i, stage.holds = some i → (w.calls.threads t).holds = some i)
    (hresulted : ∀ i result, stage = .resulted i result → .returned i result ∈ w.log)
    (htimedOut : ∀ i, stage = .timedOut i → .timedOut t i ∈ events)
    (hevents : ∀ e ∈ events, CallerEvent (r := r) w t e) : Reported ⟨u, w.log ++ events⟩ := by
  have hoffer := offer_cases w.calls r
  refine hw.moves hknown hnext (fun i c h => .inl (hcells i c h)) (fun t' i h => ?_)
    (fun t' i h => .inl ?_) (fun i h => .inl (hcalling ▸ h)) (fun t' i result h => ?_)
    (fun t' i h => ?_) (fun i result h => ?_) (fun t' i result h => ?_) (fun t' i result h => ?_)
  · rcases hevents _ h with h | ⟨h, -⟩ | ⟨x, h, -⟩
    · rcases hoffer with hoffer | hoffer <;> cases h.trans hoffer
    · cases h
    · cases h
  · rw [hthreads] at h
    split at h
    · next ht =>
      rw [ht]
      exact hheld i h
    · exact h
  · rw [hthreads] at h
    split at h
    · exact hresulted i result h
    · exact hw.resulted t' i result h
  · rw [hthreads] at h
    split at h
    · next ht =>
      rw [ht]
      exact .inr (htimedOut i h)
    · exact .inl h
  · rcases hevents _ h with h | ⟨h, -⟩ | ⟨x, h, -⟩
    · rcases hoffer with hoffer | hoffer <;> cases h.trans hoffer
    · cases h
    · cases h
  · rcases hevents _ h with h | ⟨h, -⟩ | ⟨x, h, hanswer⟩
    · rcases hoffer with hoffer | hoffer <;> cases h.trans hoffer
    · cases h
    · cases h
      exact hanswer
  · rcases hevents _ h with h | ⟨h, hnot⟩ | ⟨x, h, -⟩
    · rcases hoffer with hoffer | hoffer <;> cases h.trans hoffer
    · cases h
      exact hnot result
    · cases h

theorem Reported.post (hw : Reported w) (hknown : Known w) :
    Reported ⟨w.calls.post, w.log ++ w.calls.events .post⟩ := by
  have hsame : (w.calls.post).wraps = w.calls.wraps.create ⟨false, 0, false, none⟩ ∧
      (w.calls.post).threads = w.calls.threads ∧ (w.calls.post).calling = w.calls.calling := by
    rw [CallbackCalls.post, CallbackCalls.push]
    split <;> exact ⟨rfl, rfl, rfl⟩
  obtain ⟨hwraps, hthreads, hcalling⟩ := hsame
  have hnext : (w.calls.post).wraps.next = w.calls.wraps.next + 1 := by rw [hwraps]; rfl
  have hevent : ∀ e ∈ w.calls.events .post,
      e = .accepted w.calls.wraps.next ∨ e = .refused w.calls.wraps.next := fun e he => by
    rw [List.mem_singleton.mp he]
    exact offer_cases _ _
  refine hw.moves hknown (by omega) (fun i c h => ?_) (fun t i h => ?_)
    (fun t i h => .inl (hthreads ▸ h)) (fun i h => .inl (hcalling ▸ h)) (fun t i x h => hw.resulted t i x (hthreads ▸ h))
    (fun t i h => .inl (hthreads ▸ h)) (fun i x h => ?_) (fun t i x h => ?_) (fun t i x h => ?_)
  · rw [hwraps, ManualHeap.cell_create] at h
    split at h
    · next hi =>
      obtain rfl := Option.some.inj h
      refine .inr ⟨hi, rfl, fun t ht => ?_⟩
      rw [hthreads] at ht
      exact absurd (hw.born t i (hw.held t i ht)) (by omega)
    · exact .inl (.rfl h)
  all_goals rcases hevent _ h with h | h <;> cases h

theorem Reported.create (hw : Reported w) (hknown : Known w)
    (t : ℕ) : Reported ⟨w.calls.create t, w.log ++ [.created t w.calls.wraps.next]⟩ := by
  have hnext : (w.calls.create t).wraps.next = w.calls.wraps.next + 1 := rfl
  have hthreads : ∀ t', (w.calls.create t).threads t' =
      if t' = t then .created w.calls.wraps.next else w.calls.threads t' := fun t' => moveTo_threads ..
  have hcells : ∀ i, (w.calls.create t).wraps.cell i =
      if i = w.calls.wraps.next then some ⟨true, 0, false, some t⟩ else w.calls.wraps.cell i :=
    fun i => ManualHeap.cell_create ..
  refine hw.moves hknown (by omega) (fun i c h => ?_) (fun t' i h => ?_) (fun t' i h => ?_)
    (fun i h => .inl h) (fun t' i x h => ?_) (fun t' i h => .inl ?_) (fun i x h => ?_)
    (fun t' i x h => ?_) (fun t' i x h => ?_)
  · rw [hcells] at h
    split at h
    · next hi =>
      obtain rfl := Option.some.inj h
      refine .inr ⟨hi, rfl, fun t' ht => ?_⟩
      rw [hthreads] at ht
      split at ht
      · next hsame => rw [hsame]
      · exact absurd (hw.born t' i (hw.held t' i ht)) (by omega)
    · exact .inl (.rfl h)
  · obtain ⟨-, rfl⟩ := Event.created.inj (List.mem_singleton.mp h)
    omega
  · rw [hthreads] at h
    split at h
    · next hsame =>
      obtain rfl := Option.some.inj h
      exact .inr ⟨rfl, hsame ▸ List.mem_cons_self⟩
    · exact .inl h
  · rw [hthreads] at h
    split at h
    · cases h
    · exact hw.resulted t' i x h
  · rw [hthreads] at h
    split at h
    · cases h
    · exact h
  all_goals cases List.mem_singleton.mp h

theorem Reported.result {t : ℕ} (hw : Reported w)
    (hknown : Known w) (ht : w.calls.threads t = .pushed r)
    (hfault : (w.calls.result t r).wraps.fault = false) :
    Reported ⟨w.calls.result t r, w.log ++ w.calls.events (.result t)⟩ := by
  have hheld : (w.calls.threads t).holds = some r := by
    rw [ht]
    rfl
  simp only [CallbackCalls.events, ht]
  rw [CallbackCalls.result] at hfault ⊢
  split
  · next c hc =>
    obtain ⟨hcell, hsucceeded⟩ := Option.filter_eq_some_iff.mp hc
    rw [hcell, Option.any_some, if_pos hsucceeded]
    refine hw.callerMoves (r := r) hknown (Nat.le_refl _) (fun i c h => kept_touch h) rfl
      (fun t' => moveTo_threads ..) (fun i h => ?_) (fun i x h => ?_) (fun i h => by cases h)
      (fun e he => by cases he)
    · exact hheld.trans h
    · obtain ⟨rfl, rfl⟩ := Stage.resulted.inj h
      exact hw.succeeded r c hcell hsucceeded
  · next hnone =>
    rw [hnone] at hfault
    -- the wrap is there, or the wait would have used a deleted one
    have hlive : w.calls.wraps.isLive r := by
      by_contra hdead
      have := ManualHeap.fault_of_dead (Bool.eq_false_iff.mpr hdead)
        fun w => { w with keepResult := false }
      exact absurd (hfault.symm.trans this) (by decide)
    obtain ⟨c, hcell⟩ := Option.isSome_iff_exists.mp hlive
    have hnot : c.bSucceeded = false := by
      rw [hcell] at hnone
      simpa using hnone
    rw [hcell, Option.any_some, if_neg (by simp [hnot])]
    refine hw.callerMoves (r := r) hknown (Nat.le_refl _) (fun i c h => ?_) rfl
      (fun t' => moveTo_threads ..) (fun i h => hheld.trans h) (fun i x h => by cases h) (fun i h => ?_)
      (fun e he => ?_)
    · rw [moveTo_wraps, ManualHeap.cell_use] at h
      split at h
      · next hi =>
        subst hi
        obtain ⟨c', hc', rfl⟩ := Option.map_eq_some_iff.mp h
        exact ⟨c', hc', rfl, rfl, rfl⟩
      · exact .rfl h
    · obtain rfl := Stage.timedOut.inj h
      exact List.mem_cons_self
    · refine .inr (.inl ⟨List.mem_singleton.mp he, fun result hreturned => ?_⟩)
      have hcaller := hw.caller t r c hheld hcell
      have := hw.noticed r c result hreturned hcell (by rw [hcaller]; rfl)
      exact absurd (hnot.symm.trans this) (by decide)

theorem Reported.finish {t : ℕ} {result : ℤ} (hw : Reported w)
    (hknown : Known w)
    (ht : w.calls.threads t = .timedOut r ∧ result = 0 ∨ w.calls.threads t = .resulted r result) :
    Reported ⟨w.calls.finish t r result, w.log ++ [.answered t r result]⟩ := by
  have hheld : (w.calls.threads t).holds = some r := by
    rcases ht with ⟨ht, -⟩ | ht <;> rw [ht] <;> rfl
  have hanswer : .returned r result ∈ w.log ∨ result = 0 ∧ .timedOut t r ∈ w.log := by
    rcases ht with ⟨ht, hzero⟩ | ht
    · exact .inr ⟨hzero, hw.timedOut t r ht⟩
    · exact .inl (hw.resulted t r result ht)
  refine hw.callerMoves (r := r) hknown (Nat.le_refl _) (fun i c h => kept_touch h) rfl
    (fun t' => moveTo_threads ..) (fun i h => ?_) (fun i x h => ?_) (fun i h => ?_) (fun e he => ?_)
  · split at h
    · exact hheld.trans h
    · cases h
  · split at h <;> cases h
  · split at h <;> cases h
  · exact .inr (.inr ⟨result, List.mem_singleton.mp he, hw.held t r hheld, hanswer⟩)

theorem Reported.callerStep {a : Action} (hw : Reported w)
    (hknown : Known w) (h : w.calls.callerStep a = some u)
    (hfault : u.wraps.fault = false) : Reported ⟨u, w.log ++ w.calls.events a⟩ := by
  cases a with
  | post =>
    obtain rfl := Option.some.inj h
    exact hw.post hknown
  | create t =>
    simp only [CallbackCalls.callerStep] at h
    split at h
    · obtain rfl := Option.some.inj h
      exact hw.create hknown t
    · cases h
  | push t =>
    simp only [CallbackCalls.callerStep] at h
    split at h
    · next r ht =>
      obtain rfl := Option.some.inj h
      have hpush : (w.calls.push r).wraps = w.calls.wraps ∧
          (w.calls.push r).threads = w.calls.threads ∧ (w.calls.push r).calling = w.calls.calling := by
        rw [CallbackCalls.push]
        split <;> exact ⟨rfl, rfl, rfl⟩
      have hmoved : ∀ t', ((w.calls.push r).moveTo t (.pushed r)).threads t' =
          if t' = t then .pushed r else w.calls.threads t' := fun t' => by
        rw [moveTo_threads, hpush.2.1]
      simp only [CallbackCalls.events, ht]
      refine hw.callerMoves (r := r) hknown ?_ (fun i c h => ?_) ?_ hmoved (fun i h => ?_)
        (fun i x h => by cases h) (fun i h => by cases h) (fun e he => .inl (List.mem_singleton.mp he))
      · exact Nat.le_of_eq (by rw [moveTo_wraps, hpush.1])
      · rw [moveTo_wraps, hpush.1] at h
        exact .rfl h
      · rw [moveTo_calling, hpush.2.2]
      · rw [ht]
        exact h
    · cases h
  | result t =>
    simp only [CallbackCalls.callerStep] at h
    split at h
    · next r ht =>
      obtain rfl := Option.some.inj h
      exact hw.result hknown ht hfault
    · cases h
  | finish t =>
    simp only [CallbackCalls.callerStep] at h
    split at h
    · next r ht =>
      obtain rfl := Option.some.inj h
      simp only [CallbackCalls.events, ht]
      exact hw.finish hknown (.inl ⟨ht, rfl⟩)
    · next r result ht =>
      obtain rfl := Option.some.inj h
      simp only [CallbackCalls.events, ht]
      exact hw.finish hknown (.inr ht)
    · cases h
  | delete t =>
    simp only [CallbackCalls.callerStep] at h
    split at h
    · next r result ht =>
      obtain rfl := Option.some.inj h
      exact hw.callerMoves (r := r) hknown (Nat.le_refl _) (fun i c h => kept_delete h) rfl
        (fun t' => moveTo_threads ..) (fun i h => by cases h) (fun i x h => by cases h)
        (fun i h => by cases h) (fun e he => by cases he)
    · cases h
  | pop | report _ | throw | dispose | destroy | drain | drained => cases h

theorem Reported.clientStep {a : Action} (hw : Reported w)
    (hknown : Known w) (h : w.calls.clientStep a = some u) :
    Reported ⟨u, w.log ++ w.calls.events a⟩ := by
  cases a with
  | pop =>
    simp only [CallbackCalls.clientStep] at h
    split at h
    · next r rest hcalling hqueue =>
      obtain rfl := Option.some.inj h
      simp only [CallbackCalls.events, hqueue]
      refine hw.clientMoves hknown (Nat.le_refl _) (fun i c h => kept_touch h) rfl (fun i h => ?_)
        (fun e he => ⟨r, .inl (List.mem_singleton.mp he)⟩)
      obtain rfl := Calling.calling.inj h
      exact .inr List.mem_cons_self
    · cases h
  | report result =>
    simp only [CallbackCalls.clientStep] at h
    split at h
    · next r hcalling =>
      obtain rfl := Option.some.inj h
      simp only [CallbackCalls.events, hcalling]
      exact hw.report hcalling result
    · cases h
  | throw =>
    simp only [CallbackCalls.clientStep] at h
    split at h
    · obtain rfl := Option.some.inj h
      exact hw.clientMoves hknown (Nat.le_refl _) (fun i c h => .rfl h) rfl (fun i h => by cases h)
        (fun e he => by cases he)
    · cases h
  | dispose =>
    simp only [CallbackCalls.clientStep] at h
    split at h
    · obtain rfl := Option.some.inj h
      exact hw.clientMoves hknown (Nat.le_refl _) (fun i c h => kept_delete h) rfl
        (fun i h => by cases h) (fun e he => by cases he)
    · cases h
  | destroy =>
    obtain ⟨-, rfl⟩ := enabled_iff.mp h
    exact hw.clientMoves hknown (Nat.le_refl _) (fun i c h => .rfl h) rfl (fun i h => .inl h)
      (fun e he => by cases he)
  | drain =>
    simp only [CallbackCalls.clientStep] at h
    split at h
    · next r rest hlifetime hqueue =>
      obtain rfl := Option.some.inj h
      simp only [CallbackCalls.events, hqueue]
      exact hw.clientMoves hknown (Nat.le_refl _) (fun i c h => kept_delete h) rfl
        (fun i h => .inl h) (fun e he => ⟨r, .inr (List.mem_singleton.mp he)⟩)
    · cases h
  | drained =>
    obtain ⟨-, rfl⟩ := enabled_iff.mp h
    exact hw.clientMoves hknown (Nat.le_refl _) (fun i c h => .rfl h) rfl (fun i h => .inl h)
      (fun e he => by cases he)
  | post | create _ | push _ | result _ | finish _ | delete _ => cases h

end results

/-! ### Runs -/

theorem wraps_push (s : CallbackCalls) (r : ℕ) : (s.push r).wraps = s.wraps := by
  rw [CallbackCalls.push]
  split <;> rfl

/-- A use of a deleted wrap is not forgotten. -/
theorem fault_of_step {s u : CallbackCalls} {a : Action} (h : s.step a = some u)
    (hfault : u.wraps.fault = false) : s.wraps.fault = false := by
  have huse : ∀ {r f}, (s.wraps.use r f).fault = false → s.wraps.fault = false := fun h =>
    (Bool.or_eq_false_iff.mp h).1
  have hdelete : ∀ {r}, (s.wraps.delete r).fault = false → s.wraps.fault = false := fun h =>
    (Bool.or_eq_false_iff.mp h).1
  have hpush : (s.post).wraps.fault = s.wraps.fault := by
    rw [CallbackCalls.post, wraps_push]
    rfl
  rw [CallbackCalls.step] at h
  cases a with
  | post =>
    obtain rfl := Option.some.inj h
    exact hpush ▸ hfault
  | destroy | drained =>
    obtain ⟨-, rfl⟩ := enabled_iff.mp h
    exact hfault
  | create t =>
    simp only [CallbackCalls.callerStep] at h
    split at h
    · obtain rfl := Option.some.inj h
      exact hfault
    · cases h
  | push t =>
    simp only [CallbackCalls.callerStep] at h
    split at h
    · obtain rfl := Option.some.inj h
      rw [moveTo_wraps, wraps_push] at hfault
      exact hfault
    · cases h
  | result t =>
    simp only [CallbackCalls.callerStep] at h
    split at h
    · obtain rfl := Option.some.inj h
      rw [CallbackCalls.result] at hfault
      split at hfault <;> exact huse hfault
    · cases h
  | finish t =>
    simp only [CallbackCalls.callerStep] at h
    split at h
    · obtain rfl := Option.some.inj h
      exact huse hfault
    · obtain rfl := Option.some.inj h
      exact huse hfault
    · cases h
  | delete t =>
    simp only [CallbackCalls.callerStep] at h
    split at h
    · obtain rfl := Option.some.inj h
      exact hdelete hfault
    · cases h
  | pop | report _ =>
    simp only [CallbackCalls.callerStep, CallbackCalls.clientStep, Option.none_or] at h
    split at h
    · obtain rfl := Option.some.inj h
      exact huse hfault
    · cases h
  | throw =>
    simp only [CallbackCalls.callerStep, CallbackCalls.clientStep, Option.none_or] at h
    split at h
    · obtain rfl := Option.some.inj h
      exact hfault
    · cases h
  | dispose | drain =>
    simp only [CallbackCalls.callerStep, CallbackCalls.clientStep, Option.none_or] at h
    split at h
    · obtain rfl := Option.some.inj h
      exact hdelete hfault
    · cases h

/-- A wrap that was taken off the queue was created. -/
theorem Ordered.known {w : CallbackLog} (hw : Ordered w) : Known w := by
  intro r h
  have htaken : r ∈ w.log.filterMap Event.taken := List.mem_filterMap.mpr ⟨_, h, rfl⟩
  have haccepted : r ∈ w.log.filterMap Event.acceptedWrap :=
    hw.inOrder ▸ List.mem_append_left _ htaken
  obtain ⟨e, he, hr⟩ := List.mem_filterMap.mp haccepted
  refine hw.old r (List.mem_filterMap.mpr ⟨e, he, ?_⟩)
  cases e <;> cases hr
  rfl

/-- The order of the wraps in any case, and the results as long as no deleted wrap was used. -/
def Tracked (w : CallbackLog) : Prop :=
  Ordered w ∧ (w.calls.wraps.fault = false → Reported w)

theorem Tracked.step {w v : CallbackLog} {a : Action} (hw : Tracked w) (h : w.step a = some v) :
    Tracked v := by
  obtain ⟨hordered, hreported⟩ := hw
  obtain ⟨u, hu, rfl⟩ := Option.map_eq_some_iff.mp h
  have hbefore := fault_of_step hu
  rw [CallbackCalls.step, Option.or_eq_some_iff] at hu
  rcases hu with hu | ⟨-, hu⟩
  · exact ⟨hordered.callerStep hu, fun hfault =>
      (hreported (hbefore hfault)).callerStep hordered.known hu hfault⟩
  · exact ⟨hordered.clientStep hu, fun hfault =>
      (hreported (hbefore hfault)).clientStep hordered.known hu⟩

/-- In any interleaving in which no deleted wrap was used, the wraps that the queue has accepted leave
    it in this order and once each, a callback returns only after it was made, and a caller that waits
    gets the result of its own callback, or zero when its wait was over before. -/
theorem callbacks_delivered {w : CallbackLog} (h : Schedule step initial w)
    (hfault : w.calls.wraps.fault = false) : Delivered w := by
  have hinitial : Tracked initial := ⟨ordered_initial, fun _ => reported_initial⟩
  obtain ⟨hordered, hreported⟩ := h.invariant (fun hw _ hstep => Tracked.step hw hstep) hinitial
  obtain ⟨-, -, -, -, -, -, -, -, hreturned, hanswered, htimely⟩ := hreported hfault
  exact ⟨hordered.once, hordered.inOrder, hreturned, hanswered, htimely⟩

/-- One caller gets the result of its callback, another one has waited too long for it. -/
def twoCallers : List Action :=
  [.create 1, .push 1, .create 2, .pop, .push 2, .report 7, .result 1, .result 2, .finish 1, .pop,
    .finish 2, .report 9, .delete 1, .dispose]

theorem callbacks_delivered_twoCallers : ∃ w, perform step initial twoCallers = some w ∧
    .answered 1 0 7 ∈ w.log ∧ .answered 2 1 0 ∈ w.log ∧ Delivered w :=
  ⟨_, rfl, by decide, by decide,
    callbacks_delivered (@schedule_of_perform _ _ step initial _ twoCallers rfl) rfl⟩

end CallbackLog

end CEC
