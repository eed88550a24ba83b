import Mathlib.Data.List.Induction
import Mathlib.Tactic.Common

/-! Runs of a step function in which every step meets a guard.

    A run is a left fold of `step` over its inputs. `Guarded` says that each input is one the guard
    allows in the state it arrives in. An invariant may speak of the inputs seen so far as well as
    of the state: what one guarded step preserves holds at the end of every guarded run. -/

namespace Schemes

variable {S I : Type*} (step : S → I → S) (guard : S → I → Prop)

/-- Every step of the run is taken in a state that meets its guard. -/
def Guarded : S → List I → Prop
  | _, [] => True
  | s, i :: is => guard s i ∧ Guarded (step s i) is

instance decidableGuarded [∀ s i, Decidable (guard s i)] :
    ∀ (s : S) (is : List I), Decidable (Guarded step guard s is)
  | _, [] => inferInstanceAs (Decidable True)
  | s, i :: is =>
    have := decidableGuarded (step s i) is
    inferInstanceAs (Decidable (_ ∧ _))

variable {step guard}

theorem guarded_append : ∀ (is js : List I) (s : S),
    Guarded step guard s (is ++ js) ↔
      Guarded step guard s is ∧ Guarded step guard (is.foldl step s) js
  | [], _, _ => by simp [Guarded]
  | i :: is, js, s => by
    simp only [List.cons_append, Guarded, List.foldl_cons, guarded_append is, and_assoc]

/-- The last step of a guarded run meets its guard after a guarded run. -/
theorem guarded_concat {is : List I} {i : I} {s : S} : Guarded step guard s (is ++ [i]) ↔
    Guarded step guard s is ∧ guard (is.foldl step s) i := by
  rw [guarded_append]
  simp [Guarded]

/-- What holds wherever a list is split holds where its last element is split off. -/
theorem forall_split_concat {P : List I → I → Prop} {is : List I} {i : I} :
    (∀ past j later, is ++ [i] = past ++ j :: later → P past j) ↔
      (∀ past j later, is = past ++ j :: later → P past j) ∧ P is i := by
  constructor
  · intro h
    refine ⟨fun past j later his => ?_, h is i [] rfl⟩
    exact h past j (later ++ [i]) (by rw [his, List.append_assoc, List.cons_append])
  · rintro ⟨hinit, hlast⟩ past j later his
    rcases List.eq_nil_or_concat later with rfl | ⟨later, i', rfl⟩
    · obtain ⟨rfl, hi⟩ := List.append_inj' his rfl
      cases hi
      exact hlast
    · rw [List.concat_eq_append, ← List.cons_append, ← List.append_assoc] at his
      exact hinit past j later (List.append_inj' his rfl).1

/-- The splits of a list are those at its positions. -/
theorem forall_split_iff {P : List I → I → Prop} {is : List I} :
    (∀ past j later, is = past ++ j :: later → P past j) ↔
      ∀ n : Fin is.length, P (is.take n) (is.get n) := by
  constructor
  · intro h n
    refine h (is.take n) (is.get n) (is.drop (n + 1)) ?_
    rw [List.get_eq_getElem, List.getElem_cons_drop, List.take_append_drop]
  · rintro h past j later rfl
    have hn := h ⟨past.length, by simp⟩
    simpa using hn

/-- What holds in every state of a run holds at its start and after each of its steps. -/
theorem forall_prefix_iff {P : S → Prop} : ∀ {is : List I} {s : S},
    (∀ past later, is = past ++ later → P (past.foldl step s)) ↔
      P s ∧ Guarded step (fun s i => P (step s i)) s is
  | [], s => by
    constructor
    · intro h
      exact ⟨h [] [] rfl, trivial⟩
    · rintro ⟨hs, -⟩ past later his
      rw [(List.append_eq_nil_iff.mp his.symm).1]
      exact hs
  | i :: is, s => by
    constructor
    · intro h
      refine ⟨h [] _ rfl, h [i] is rfl, (forall_prefix_iff.mp fun past later his => ?_).2⟩
      exact h (i :: past) later (by rw [his, List.cons_append])
    · rintro ⟨hs, hi, his⟩ past later hpast
      rcases past with - | ⟨j, past⟩
      · exact hs
      · obtain ⟨rfl, hrest⟩ := List.cons.inj hpast
        exact forall_prefix_iff.mpr ⟨hi, his⟩ past later hrest

/-- A run that meets two guards meets both at each of its steps. -/
theorem Guarded.and {guard' : S → I → Prop} : ∀ {is : List I} {s : S}, Guarded step guard s is →
    Guarded step guard' s is → Guarded step (fun s i => guard s i ∧ guard' s i) s is
  | [], _, _, _ => trivial
  | _ :: _, _, h, h' => ⟨⟨h.1, h'.1⟩, Guarded.and h.2 h'.2⟩

/-- Two guards that agree where an invariant holds allow the same runs, if what they allow preserves
    the invariant. -/
theorem guarded_iff {guard' : S → I → Prop} (Inv : S → Prop)
    (hiff : ∀ s i, Inv s → (guard s i ↔ guard' s i))
    (hstep : ∀ s i, Inv s → guard' s i → Inv (step s i)) : ∀ (is : List I) {s : S}, Inv s →
      (Guarded step guard s is ↔ Guarded step guard' s is)
  | [], _, _ => Iff.rfl
  | i :: is, s, hs => by
    constructor
    · rintro ⟨hi, his⟩
      have hi' := (hiff s i hs).mp hi
      exact ⟨hi', (guarded_iff Inv hiff hstep is (hstep s i hs hi')).mp his⟩
    · rintro ⟨hi, his⟩
      exact ⟨(hiff s i hs).mpr hi, (guarded_iff Inv hiff hstep is (hstep s i hs hi)).mpr his⟩

/-- What every guarded step preserves holds at the end of a guarded run. -/
theorem Guarded.invariant (Inv : List I → S → Prop) {s : S} (h0 : Inv [] s)
    (hstep : ∀ past s i, Inv past s → guard s i → Inv (past ++ [i]) (step s i)) {is : List I}
    (h : Guarded step guard s is) : Inv is (is.foldl step s) := by
  induction is using List.reverseRecOn with
  | nil => exact h0
  | append_singleton is i ih =>
    obtain ⟨his, hi⟩ := guarded_concat.mp h
    rw [List.foldl_append, List.foldl_cons, List.foldl_nil]
    exact hstep is _ i (ih his) hi

end Schemes
