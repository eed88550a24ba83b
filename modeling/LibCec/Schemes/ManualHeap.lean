import Mathlib.Logic.Function.Basic
import Mathlib.Tactic.Common

/-! Objects that are created and deleted by hand.

    Whoever has the number of an object may use it, also after somebody else has deleted it; such a
    use, like a second deletion, is a fault. A heap remembers whether there was one:

        create ──▶ live ── use ──▶ live ── delete ──▶ dead ── use, delete ──▶ fault

    No number is given out twice. -/

namespace Schemes

/-- The objects that were created so far; a cell is empty before its object is created and after it
    was deleted. -/
structure ManualHeap (α : Type*) where
  next : ℕ
  cell : ℕ → Option α
  fault : Bool
  fresh : ∀ r, next ≤ r → cell r = none

namespace ManualHeap

variable {α : Type*} (h : ManualHeap α) (r i : ℕ)

/-- No object was created. -/
def empty : ManualHeap α := ⟨0, fun _ => none, false, fun _ _ => rfl⟩

/-- The object is there. -/
def isLive : Bool := (h.cell r).isSome

theorem lt_next_of_isLive {h : ManualHeap α} {r : ℕ} (hr : h.isLive r) : r < h.next := by
  by_contra hge
  rw [isLive, h.fresh r (Nat.not_lt.mp hge)] at hr
  cases hr

/-- A new object; its number is the next one. -/
def create (a : α) : ManualHeap α where
  next := h.next + 1
  cell := Function.update h.cell h.next (some a)
  fault := h.fault
  fresh i hi := by
    rw [Function.update_of_ne (Nat.ne_of_gt hi)]
    exact h.fresh i (Nat.le_of_succ_le hi)

/-- Reading or writing an object. -/
def use (f : α → α) : ManualHeap α where
  next := h.next
  cell := Function.update h.cell r ((h.cell r).map f)
  fault := h.fault || !h.isLive r
  fresh i hi := by
    rcases eq_or_ne i r with rfl | hir
    · rw [Function.update_self, h.fresh i hi, Option.map_none]
    · rw [Function.update_of_ne hir, h.fresh i hi]

/-- Reading an object. -/
abbrev touch : ManualHeap α := h.use r id

/-- Deleting an object. -/
def delete : ManualHeap α where
  next := h.next
  cell := Function.update h.cell r none
  fault := h.fault || !h.isLive r
  fresh i hi := by
    rcases eq_or_ne i r with rfl | hir
    · exact Function.update_self ..
    · rw [Function.update_of_ne hir, h.fresh i hi]

/-! ### What is live afterwards -/

theorem cell_create (a : α) : (h.create a).cell i = if i = h.next then some a else h.cell i :=
  Function.update_apply ..

theorem cell_use (f : α → α) : (h.use r f).cell i = if i = r then (h.cell r).map f else h.cell i :=
  Function.update_apply ..

theorem cell_delete : (h.delete r).cell i = if i = r then none else h.cell i :=
  Function.update_apply ..

@[simp] theorem cell_touch : (h.touch r).cell i = h.cell i := by
  rw [cell_use]
  split
  · next hi => rw [hi, Option.map_id_fun, id_eq]
  · rfl

@[simp] theorem isLive_empty : (empty : ManualHeap α).isLive i = false := rfl

@[simp] theorem isLive_create (a : α) :
    (h.create a).isLive i = (h.isLive i || i = h.next) := by
  rw [isLive, cell_create, isLive]
  split
  · next hi => simp [hi]
  · next hi => simp [hi]

@[simp] theorem isLive_use (f : α → α) : (h.use r f).isLive i = h.isLive i := by
  rw [isLive, cell_use, isLive]
  split
  · next hi => rw [hi, Option.isSome_map]
  · rfl

@[simp] theorem isLive_delete : (h.delete r).isLive i = (h.isLive i && i ≠ r) := by
  rw [isLive, cell_delete, isLive]
  split
  · next hi => simp [hi]
  · next hi => simp [hi]

/-! ### Faults -/

@[simp] theorem fault_create (a : α) : (h.create a).fault = h.fault := rfl

/-- Using an object that is there is no fault. -/
theorem fault_use {h : ManualHeap α} {r : ℕ} (hr : h.isLive r) (f : α → α) :
    (h.use r f).fault = h.fault := by
  rw [use, hr, Bool.not_true, Bool.or_false]

/-- Deleting an object that is there is no fault. -/
theorem fault_delete {h : ManualHeap α} {r : ℕ} (hr : h.isLive r) : (h.delete r).fault = h.fault := by
  rw [delete, hr, Bool.not_true, Bool.or_false]

/-- Using an object that is not there any more is. -/
theorem fault_of_dead {h : ManualHeap α} {r : ℕ} (hr : h.isLive r = false) (f : α → α) :
    (h.use r f).fault := by
  rw [use, hr, Bool.not_false, Bool.or_true]

end ManualHeap

end Schemes
