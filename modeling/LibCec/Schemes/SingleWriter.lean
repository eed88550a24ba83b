import Mathlib.Data.List.Flatten
import Mathlib.Tactic.Common

/-! Copies of a value that only its owner changes.

    The owner tells others what the value is, and each of them keeps a copy. Messages to one copy
    arrive in the order they were sent in, and some never do:

        history         v₀   v₁   v₂   v₃
        told, in order  v₀   v₀   v₂   v₂   v₃
        not lost        v₀        v₂   v₂

    What a copy is told is picked from the history: a copy may be behind, and it never goes back to
    an older value. -/

namespace Schemes

variable {V : Type*}

/-- The values are values of a history, in its order, each any number of times. -/
def PickedFrom (values history : List V) : Prop :=
  ∃ n, values.Sublist (history.flatMap (List.replicate n))

namespace PickedFrom

variable {values more history later : List V} {v : V}

theorem repeat_sublist {m n : ℕ} (h : m ≤ n) : ∀ history : List V,
    (history.flatMap (List.replicate m)).Sublist (history.flatMap (List.replicate n))
  | [] => List.Sublist.refl _
  | v :: history => by
    rw [List.flatMap_cons, List.flatMap_cons]
    exact (List.replicate_sublist_replicate v |>.mpr h).append (repeat_sublist h history)

theorem nil (history : List V) : PickedFrom [] history := ⟨0, List.nil_sublist _⟩

/-- Some of the values are lost. -/
theorem sublist (h : PickedFrom values history) (hmore : more.Sublist values) :
    PickedFrom more history := by
  obtain ⟨n, hn⟩ := h
  exact ⟨n, hmore.trans hn⟩

/-- The value changes. -/
theorem append (h : PickedFrom values history) (later : List V) :
    PickedFrom values (history ++ later) := by
  obtain ⟨n, hn⟩ := h
  refine ⟨n, hn.trans ?_⟩
  rw [List.flatMap_append]
  exact List.sublist_append_left _ _

/-- The current value is told. -/
theorem concat (h : PickedFrom values (history ++ [v])) :
    PickedFrom (values ++ [v]) (history ++ [v]) := by
  obtain ⟨n, hn⟩ := h
  refine ⟨n + 1, ?_⟩
  have hmore : (values ++ [v]).Sublist ((history ++ [v]).flatMap (List.replicate n) ++ [v]) :=
    hn.append (List.Sublist.refl _)
  refine hmore.trans ?_
  have hv : [v].flatMap (List.replicate n) ++ [v] = [v].flatMap (List.replicate (n + 1)) := by
    simp [List.replicate_succ']
  rw [List.flatMap_append, List.append_assoc, hv, List.flatMap_append]
  exact (repeat_sublist (Nat.le_succ n) history).append (List.Sublist.refl _)

/-- A value is seen again. -/
theorem again {before after : List V} (h : PickedFrom (before ++ v :: after) history) :
    PickedFrom (before ++ v :: v :: after) history := by
  obtain ⟨n, hn⟩ := h
  have hcopies : ∀ values : List V, (values.flatMap (List.replicate n)).flatMap (List.replicate 2) =
      values.flatMap (List.replicate (n * 2)) := by
    intro values
    rw [List.flatMap_assoc]
    refine congrArg (List.flatMap · values) (funext fun u => ?_)
    rw [List.eq_replicate_iff]
    refine ⟨by simp [List.length_flatMap], fun w hw => ?_⟩
    obtain ⟨w', hw', hmem⟩ := List.mem_flatMap.mp hw
    rw [List.eq_of_mem_replicate hmem, List.eq_of_mem_replicate hw']
  have htwice := hn.flatMap (List.replicate 2)
  rw [hcopies history] at htwice
  refine ⟨n * 2, List.Sublist.trans ?_ htwice⟩
  have hone : ∀ l : List V, l.Sublist (l.flatMap (List.replicate 2)) := by
    intro l
    have honce : l.flatMap (List.replicate 1) = l := List.flatMap_singleton' l
    have hmore := repeat_sublist (Nat.le_succ 1) l
    rwa [honce] at hmore
  rw [List.flatMap_append, List.flatMap_cons]
  exact (hone before).append (List.Sublist.append (List.Sublist.refl [v, v]) (hone after))

end PickedFrom

end Schemes
