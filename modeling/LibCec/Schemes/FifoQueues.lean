import Mathlib.Data.List.Basic
import Mathlib.Logic.Function.Basic
import Mathlib.Order.Defs.LinearOrder
import Mathlib.Order.Lattice
import Mathlib.Tactic.Common

/-! Bounded FIFO queues that are served by priority, and what is seen of them.

    Elements are sorted into classes, each of which has a queue with room for `cap` elements. An
    event is what a caller sees: that an element was accepted or refused, or what was taken out.

        pushed a true     at the end of the queue of `a`
        pushed a false    this queue is full
        popped a          the first of its queue, and the queues of lower classes are empty
        popped nothing    all queues are empty

    `conserved` is the law of such a run: in each class, what was accepted is what was taken out,
    in this order, and what is still queued. A system refines the queues when each of its steps is
    one of theirs (`Observed.refine`). -/

namespace Schemes

/-! ### Observed runs -/

/-- A run of steps, each of which shows an event. -/
inductive Observed {S E : Type*} (step : S → E → S → Prop) : S → List E → S → Prop
  | nil (s : S) : Observed step s [] s
  | snoc {s t u : S} {es : List E} {e : E} : Observed step s es t → step t e u →
      Observed step s (es ++ [e]) u

namespace Observed

variable {S T E : Type*} {step : S → E → S → Prop} {s s' : S} {es : List E}

/-- One run after another. -/
theorem trans {s'' : S} {es' : List E} (h : Observed step s es s') (h' : Observed step s' es' s'') :
    Observed step s (es ++ es') s'' := by
  induction h' with
  | nil => rwa [List.append_nil]
  | snoc _ he ih =>
    rw [← List.append_assoc]
    exact .snoc ih he

/-- A run after its first step. -/
theorem cons {t : S} {e : E} (he : step s e t) (h : Observed step t es s') :
    Observed step s (e :: es) s' := trans (.snoc (.nil s) he) h

/-- What each step preserves holds at the end of a run. -/
theorem invariant (Inv : S → Prop) (hstep : ∀ {s e t}, Inv s → step s e t → Inv t) (h0 : Inv s)
    (h : Observed step s es s') : Inv s' := by
  induction h with
  | nil => exact h0
  | snoc _ he ih => exact hstep ih he

/-- When each step is a step of another system, in states that `Inv` holds of, so is each run. -/
theorem refine (Inv : S → Prop) {step' : T → E → T → Prop} (view : S → T)
    (hinv : ∀ {s e t}, Inv s → step s e t → Inv t)
    (hstep : ∀ {s e t}, Inv s → step s e t → step' (view s) e (view t)) (h0 : Inv s)
    (h : Observed step s es s') : Observed step' (view s) es (view s') := by
  induction h with
  | nil => exact .nil _
  | snoc hrun he ih => exact .snoc ih (hstep (invariant Inv hinv h0 hrun) he)

end Observed

/-! ### The queues -/

/-- What is seen of the queues; `internal` is a step that a caller does not see. -/
inductive QueueEvent (α : Type*) where
  | pushed (a : α) (accepted : Bool)
  | popped (a : Option α)
  | internal

section queues

variable {α K : Type*} [LinearOrder K] (cls : α → K) (cap : ℕ)

/-- One step of the queues. -/
inductive FifoStep : (K → List α) → QueueEvent α → (K → List α) → Prop
  | accepted {q : K → List α} (a : α) : (q (cls a)).length < cap →
      FifoStep q (.pushed a true) (Function.update q (cls a) (q (cls a) ++ [a]))
  | refused {q : K → List α} (a : α) : (q (cls a)).length = cap → FifoStep q (.pushed a false) q
  | taken {q : K → List α} (a : α) (rest : List α) : q (cls a) = a :: rest →
      (∀ k < cls a, q k = []) → FifoStep q (.popped (some a)) (Function.update q (cls a) rest)
  | nothing {q : K → List α} : (∀ k, q k = []) → FifoStep q (.popped none) q
  | internal (q : K → List α) : FifoStep q .internal q

/-- What was accepted into a class. -/
def acceptedInto (k : K) : List (QueueEvent α) → List α :=
  List.filterMap fun
    | .pushed a true => if cls a = k then some a else none
    | _ => none

/-- What was taken out of a class. -/
def takenFrom (k : K) : List (QueueEvent α) → List α :=
  List.filterMap fun
    | .popped (some a) => if cls a = k then some a else none
    | _ => none

variable {cls cap} {q q' : K → List α} {es : List (QueueEvent α)}

/-- One step keeps the account of each class. -/
theorem FifoStep.conserved {e : QueueEvent α} (h : FifoStep cls cap q e q') (k : K) :
    q k ++ acceptedInto cls k [e] = takenFrom cls k [e] ++ q' k := by
  cases h with
  | accepted a _ =>
    by_cases hk : cls a = k
    · subst hk
      simp [acceptedInto, takenFrom]
    · simp [acceptedInto, takenFrom, hk, Function.update_of_ne (Ne.symm hk)]
  | refused a _ => simp [acceptedInto, takenFrom]
  | taken a rest hq _ =>
    by_cases hk : cls a = k
    · subst hk
      simp [acceptedInto, takenFrom, hq]
    · simp [acceptedInto, takenFrom, hk, Function.update_of_ne (Ne.symm hk)]
  | nothing _ => simp [acceptedInto, takenFrom]
  | internal => simp [acceptedInto, takenFrom]

/-- What was accepted was taken out, in the same order, or is still queued. -/
theorem conserved (h : Observed (FifoStep cls cap) q es q') (k : K) :
    q k ++ acceptedInto cls k es = takenFrom cls k es ++ q' k := by
  induction h with
  | nil => simp [acceptedInto, takenFrom]
  | @snoc t u es e _ he ih =>
    have hstep := he.conserved k
    simp only [acceptedInto, takenFrom, List.filterMap_append] at ih hstep ⊢
    rw [← List.append_assoc, ih, List.append_assoc, hstep, List.append_assoc]

/-- An element is accepted when its queue has room. -/
theorem FifoStep.accepted_iff {a : α} {accepted : Bool}
    (h : FifoStep cls cap q (.pushed a accepted) q') : accepted ↔ (q (cls a)).length < cap := by
  cases h with
  | accepted _ hroom => exact iff_of_true rfl hroom
  | refused _ hfull => exact iff_of_false Bool.false_ne_true (by omega)

/-- What is refused changes nothing. -/
theorem FifoStep.refused_eq {a : α} (h : FifoStep cls cap q (.pushed a false) q') : q' = q := by
  cases h
  rfl

/-- While there is an element of a class, none of a lower one is taken out. -/
theorem FifoStep.first {a : α} (h : FifoStep cls cap q (.popped (some a)) q') {k : K}
    (hk : q k ≠ []) : cls a ≤ k := by
  cases h with
  | taken _ rest _ hempty => exact le_of_not_gt fun hlt => hk (hempty k hlt)

/-- Nothing is taken out of empty queues only. -/
theorem FifoStep.nothing_iff {a : Option α} (h : FifoStep cls cap q (.popped a) q') :
    a = none ↔ ∀ k, q k = [] := by
  cases h with
  | taken a rest hfirst _ =>
    exact iff_of_false (by simp) fun h => by simp [h (cls a)] at hfirst
  | nothing hempty => exact iff_of_true rfl hempty

/-- Each queue holds elements of its class. -/
theorem FifoStep.sorted {e : QueueEvent α} (h : FifoStep cls cap q e q')
    (hq : ∀ k, ∀ a ∈ q k, cls a = k) : ∀ k, ∀ a ∈ q' k, cls a = k := by
  intro k b hb
  cases h with
  | accepted a _ =>
    by_cases hk : k = cls a
    · subst hk
      rw [Function.update_self, List.mem_append, List.mem_singleton] at hb
      rcases hb with hb | rfl
      · exact hq _ b hb
      · rfl
    · rw [Function.update_of_ne hk] at hb
      exact hq k b hb
  | taken a rest hfirst _ =>
    by_cases hk : k = cls a
    · subst hk
      rw [Function.update_self] at hb
      exact hq _ b (by rw [hfirst]; exact List.mem_cons_of_mem a hb)
    · rw [Function.update_of_ne hk] at hb
      exact hq k b hb
  | refused | nothing | internal => exact hq k b hb

/-- No queue holds more than `cap` elements. -/
theorem FifoStep.bounded {e : QueueEvent α} (hq : ∀ k, (q k).length ≤ cap)
    (h : FifoStep cls cap q e q') : ∀ k, (q' k).length ≤ cap := by
  intro k
  cases h with
  | accepted a hroom =>
    by_cases hk : k = cls a
    · subst hk
      simpa using Nat.succ_le_of_lt hroom
    · rw [Function.update_of_ne hk]
      exact hq k
  | taken a rest hfirst _ =>
    by_cases hk : k = cls a
    · subst hk
      have := hq (cls a)
      rw [hfirst, List.length_cons] at this
      rw [Function.update_self]
      omega
    · rw [Function.update_of_ne hk]
      exact hq k
  | refused | nothing | internal => exact hq k

end queues

end Schemes
