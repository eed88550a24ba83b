import Mathlib.Data.List.Basic
import Mathlib.Tactic.Common

/-! A vector that moves its elements when it grows.

    An iterator is a place in one buffer. An element for which there is room is appended to the
    buffer, and iterators stay what they are; one more than that moves everything to a larger
    buffer, and every iterator there was is of the old one:

        a b c _      push_back d     a b c d          iterators are kept
        a b c d      push_back e     a b c d e _ …    no iterator is kept

    An iterator can be told from the end of the vector, and moved on, as long as it is kept. -/

namespace Schemes

/-- The elements, the room that the buffer has for them, and which buffer it is. -/
structure GrowingVector (α : Type*) where
  toList : List α
  capacity : ℕ
  buffer : ℕ
  fits : toList.length ≤ capacity

namespace GrowingVector

variable {α : Type*}

/-- A place in a buffer. -/
structure Iterator where
  buffer : ℕ
  index : ℕ
  deriving DecidableEq

/-- The next place. -/
def Iterator.next (i : Iterator) : Iterator := ⟨i.buffer, i.index + 1⟩

/-- A vector that never had an element. -/
def empty : GrowingVector α := ⟨[], 0, 0, Nat.le_refl 0⟩

/-- `begin`. -/
def first (v : GrowingVector α) : Iterator := ⟨v.buffer, 0⟩

/-- The iterator is one of this buffer, and not past its end. -/
def Kept (v : GrowingVector α) (i : Iterator) : Prop :=
  i.buffer = v.buffer ∧ i.index ≤ v.toList.length

instance (v : GrowingVector α) (i : Iterator) : Decidable (v.Kept i) :=
  inferInstanceAs (Decidable (_ ∧ _))

/-- There is room for one more element. -/
def HasRoom (v : GrowingVector α) : Prop := v.toList.length < v.capacity

instance (v : GrowingVector α) : Decidable v.HasRoom := inferInstanceAs (Decidable (_ < _))

/-- `push_back`; `grow` is how much room a larger buffer has, if that is enough. -/
def pushBack (grow : ℕ → ℕ) (v : GrowingVector α) (a : α) : GrowingVector α :=
  if h : v.HasRoom then
    { v with toList := v.toList ++ [a], fits := by simpa using Nat.succ_le_of_lt h }
  else
    { toList := v.toList ++ [a]
      capacity := max (v.toList.length + 1) (grow v.capacity)
      buffer := v.buffer + 1
      fits := by rw [List.length_append]; exact Nat.le_max_left _ _ }

/-- `clear`, which keeps the buffer. -/
def clear (v : GrowingVector α) : GrowingVector α := { v with toList := [], fits := Nat.zero_le _ }

variable {grow : ℕ → ℕ} {v : GrowingVector α} {i : Iterator} {a : α}

@[simp] theorem toList_clear : v.clear.toList = [] := rfl

@[simp] theorem toList_pushBack : (v.pushBack grow a).toList = v.toList ++ [a] := by
  unfold pushBack
  split <;> rfl

theorem kept_first : v.Kept v.first := ⟨rfl, Nat.zero_le _⟩

theorem Kept.next (h : v.Kept i) (hlt : i.index < v.toList.length) : v.Kept i.next := ⟨h.1, hlt⟩

/-- An iterator is kept as long as there is room. -/
theorem kept_pushBack_iff (h : v.Kept i) : (v.pushBack grow a).Kept i ↔ v.HasRoom := by
  obtain ⟨hbuffer, hindex⟩ := h
  constructor
  · intro hkept
    by_contra hroom
    rw [pushBack, dif_neg hroom] at hkept
    have hmoved : i.buffer = v.buffer + 1 := hkept.1
    omega
  · intro hroom
    rw [pushBack, dif_pos hroom]
    exact ⟨hbuffer, by simpa using Nat.le_succ_of_le hindex⟩

end GrowingVector

end Schemes
