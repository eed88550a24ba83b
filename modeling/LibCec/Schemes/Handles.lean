import Mathlib.Data.List.Basic
import Mathlib.Tactic.Common

/-! Handles that the system gives out and takes back.

    A handle may be used from when it was given out until it is given back. A system that gives out a
    handle again which it has got back cannot tell a late use from a use of the new one:

        acquire h ──▶ use h … use h ──▶ release h ─✗─▶ use h, release h -/

namespace Schemes

variable {H : Type*} [DecidableEq H]

/-- A call that has to do with a handle. -/
inductive HandleCall (H : Type*) where
  | acquire (h : H)
  | use (h : H)
  | release (h : H)
  deriving DecidableEq

/-- The handles that are held after some calls. -/
def holding (held : List H) : List (HandleCall H) → List H
  | [] => held
  | .acquire h :: calls => holding (h :: held) calls
  | .use _ :: calls => holding held calls
  | .release h :: calls => holding (held.erase h) calls

/-- Only handles that are held are used and given back, and none is given out twice. -/
def Disciplined (held : List H) : List (HandleCall H) → Prop
  | [] => True
  | .acquire h :: calls => h ∉ held ∧ Disciplined (h :: held) calls
  | .use h :: calls => h ∈ held ∧ Disciplined held calls
  | .release h :: calls => h ∈ held ∧ Disciplined (held.erase h) calls

theorem holding_append (held : List H) (calls more : List (HandleCall H)) :
    holding held (calls ++ more) = holding (holding held calls) more := by
  induction calls generalizing held with
  | nil => rfl
  | cons c calls ih => cases c <;> exact ih _

theorem disciplined_append {held : List H} {calls more : List (HandleCall H)} :
    Disciplined held (calls ++ more) ↔
      Disciplined held calls ∧ Disciplined (holding held calls) more := by
  induction calls generalizing held with
  | nil => simp [Disciplined, holding]
  | cons c calls ih =>
    cases c with
    | acquire h | use h | release h => exact (and_congr_right fun _ => ih).trans and_assoc.symm

/-- Handles that are given back as they were given out leave nothing behind. -/
theorem disciplined_flatMap {A : Type*} {f : A → List (HandleCall H)} {as : List A}
    (h : ∀ a ∈ as, Disciplined [] (f a) ∧ holding [] (f a) = []) :
    Disciplined [] (as.flatMap f) ∧ holding [] (as.flatMap f) = [] := by
  induction as with
  | nil => exact ⟨trivial, rfl⟩
  | cons a as ih =>
    obtain ⟨hfirst, hnone⟩ := h a List.mem_cons_self
    obtain ⟨hrest, hend⟩ := ih fun b hb => h b (List.mem_cons_of_mem a hb)
    rw [List.flatMap_cons, disciplined_append, holding_append, hnone]
    exact ⟨⟨hfirst, hrest⟩, hend⟩

end Schemes
