import Mathlib.Logic.Function.Basic
import Mathlib.Tactic.Common

/-! Schedules of atomic steps that may be disabled.

    Several parties act on one state. An action is one atomic step of one of them; it is disabled
    (`none`) when that party is not there, or has to wait. `Reaches` is every order of enabled
    steps that meet a guard, and what each of these steps preserves holds in every state reached. -/

namespace Schemes

variable {S A : Type*}

/-- The states that the actions lead to, each of which is enabled and meets the guard in the state
    it is taken in. -/
inductive Reaches (step : S → A → Option S) (guard : S → A → Prop) : S → S → Prop
  | refl (s : S) : Reaches step guard s s
  | tail {s t u : S} (a : A) : Reaches step guard s t → guard t a → step t a = some u →
      Reaches step guard s u

/-- Any order of enabled steps. -/
abbrev Schedule (step : S → A → Option S) : S → S → Prop := Reaches step fun _ _ => True

variable {step : S → A → Option S} {guard : S → A → Prop} {s t u : S}

namespace Reaches

theorem trans (h₁ : Reaches step guard s t) (h₂ : Reaches step guard t u) :
    Reaches step guard s u := by
  induction h₂ with
  | refl => exact h₁
  | tail a _ ha hstep ih => exact .tail a ih ha hstep

/-- What each step preserves holds in every state reached. -/
theorem invariant {Inv : S → Prop} (hstep : ∀ {s a t}, Inv s → guard s a → step s a = some t → Inv t)
    (h0 : Inv s) (h : Reaches step guard s t) : Inv t := by
  induction h with
  | refl => exact h0
  | tail a _ ha hs ih => exact hstep ih ha hs

end Reaches

/-- The states that a run passes through, from the first one to the one that it is in. -/
inductive Traces (step : S → A → Option S) (guard : S → A → Prop) (s : S) : List S → S → Prop
  | start : Traces step guard s [s] s
  | tail {trace : List S} {t u : S} (a : A) : Traces step guard s trace t → guard t a →
      step t a = some u → Traces step guard s (trace ++ [u]) u

namespace Traces

variable {trace : List S}

theorem exists_last (h : Traces step guard s trace t) : ∃ before, trace = before ++ [t] := by
  cases h with
  | start => exact ⟨[], rfl⟩
  | tail a _ _ _ => exact ⟨_, rfl⟩

end Traces

/-- An action that is enabled when a condition holds. -/
theorem enabled_iff {c : Prop} [Decidable c] : (if c then some t else none) = some u ↔ c ∧ t = u := by
  rw [Option.ite_none_right_eq_some, Option.some.injEq]

/-- Carrying out actions one after the other, as long as they are enabled. -/
def perform (step : S → A → Option S) : S → List A → Option S
  | s, [] => some s
  | s, a :: as => (step s a).bind fun t => perform step t as

/-- Each of the actions meets the guard in the state it is taken in. -/
def Meets (step : S → A → Option S) (guard : S → A → Prop) : S → List A → Prop
  | _, [] => True
  | s, a :: as => guard s a ∧ ∀ t ∈ step s a, Meets step guard t as

instance decidableMeets [∀ s a, Decidable (guard s a)] :
    ∀ (s : S) (as : List A), Decidable (Meets step guard s as)
  | _, [] => inferInstanceAs (Decidable True)
  | s, a :: as =>
    have hrest : Decidable (∀ t ∈ step s a, Meets step guard t as) :=
      match step s a with
      | none => isTrue (by simp)
      | some t =>
        have := decidableMeets t as
        decidable_of_iff (Meets step guard t as) (by simp)
    inferInstanceAs (Decidable (_ ∧ _))

/-- Actions that meet the guard in whatever state. -/
theorem meets_of_forall {as : List A} (h : ∀ a ∈ as, ∀ s, guard s a) : Meets step guard s as := by
  induction as generalizing s with
  | nil => trivial
  | cons a as ih =>
    exact ⟨h a List.mem_cons_self s, fun _ _ => ih fun b hb => h b (List.mem_cons_of_mem a hb)⟩

theorem reaches_of_perform {as : List A} : ∀ {s : S}, Meets step guard s as →
    perform step s as = some t → Reaches step guard s t := by
  induction as with
  | nil =>
    intro s _ h
    obtain rfl := Option.some.inj h
    exact .refl s
  | cons a as ih =>
    intro s hmeets h
    obtain ⟨u, hu, h⟩ := Option.bind_eq_some_iff.mp h
    exact (Reaches.tail a (.refl s) hmeets.1 hu).trans (ih (hmeets.2 u hu) h)

/-- Any actions that are enabled one after the other are a schedule. -/
theorem schedule_of_perform {as : List A} (h : perform step s as = some t) : Schedule step s t :=
  reaches_of_perform (meets_of_forall fun _ _ _ => trivial) h

end Schemes
