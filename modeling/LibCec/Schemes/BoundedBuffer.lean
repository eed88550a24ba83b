import Mathlib.Data.List.Basic
import Mathlib.Tactic.Common

/-! A buffer of fixed capacity that silently drops what does not fit.

    The capacity is part of the type and the bound is a field, so a buffer that has overflowed
    cannot be built. A push on a full buffer leaves it as it is, which is what a C array with a
    length counter and a guarded `data[len++] = x` does. `toList_pushAll` says what any sequence of
    pushes leaves behind: the first `cap` elements of everything that was ever pushed. -/

namespace Schemes

/-- At most `cap` elements of `α`, in the order they were pushed. -/
structure BoundedBuffer (α : Type*) (cap : ℕ) where
  toList : List α
  fits : toList.length ≤ cap
  deriving DecidableEq

namespace BoundedBuffer

variable {α : Type*} {cap : ℕ}

@[ext] theorem ext {b c : BoundedBuffer α cap} (h : b.toList = c.toList) : b = c := by
  cases b; cases c; simpa using h

/-- The buffer that holds nothing. -/
def empty : BoundedBuffer α cap := ⟨[], Nat.zero_le cap⟩

/-- The number of elements held. -/
def size (b : BoundedBuffer α cap) : ℕ := b.toList.length

/-- Append one element, or drop it when the buffer is full. -/
def push (b : BoundedBuffer α cap) (a : α) : BoundedBuffer α cap :=
  if h : b.toList.length < cap then ⟨b.toList ++ [a], by simpa using Nat.succ_le_of_lt h⟩ else b

/-- Append the elements of a list, one after the other. -/
def pushAll (b : BoundedBuffer α cap) (as : List α) : BoundedBuffer α cap := as.foldl push b

@[simp] theorem toList_empty : (empty : BoundedBuffer α cap).toList = [] := rfl

@[simp] theorem pushAll_nil (b : BoundedBuffer α cap) : b.pushAll [] = b := rfl

@[simp] theorem pushAll_cons (b : BoundedBuffer α cap) (a : α) (as : List α) :
    b.pushAll (a :: as) = (b.push a).pushAll as := rfl

theorem pushAll_append (b : BoundedBuffer α cap) (as bs : List α) :
    b.pushAll (as ++ bs) = (b.pushAll as).pushAll bs := List.foldl_append

/-- One push keeps the first `cap` elements. -/
theorem toList_push (b : BoundedBuffer α cap) (a : α) :
    (b.push a).toList = (b.toList ++ [a]).take cap := by
  unfold push
  split
  · next h => rw [List.take_of_length_le (by simpa using Nat.succ_le_of_lt h)]
  · next h =>
    have hlen : b.toList.length = cap := Nat.le_antisymm b.fits (Nat.le_of_not_lt h)
    rw [List.take_append_of_le_length (Nat.le_of_eq hlen.symm), List.take_of_length_le b.fits]

theorem toList_push_of_lt {b : BoundedBuffer α cap} (h : b.toList.length < cap) (a : α) :
    (b.push a).toList = b.toList ++ [a] := by
  rw [toList_push, List.take_of_length_le (by simpa using Nat.succ_le_of_lt h)]

theorem length_push_le (b : BoundedBuffer α cap) (a : α) :
    (b.push a).toList.length ≤ b.toList.length + 1 := by
  rw [toList_push, List.length_take, List.length_append, List.length_singleton]
  exact Nat.min_le_right _ _

/-- Any number of pushes keeps the first `cap` elements. -/
theorem toList_pushAll : ∀ (as : List α) (b : BoundedBuffer α cap),
    (b.pushAll as).toList = (b.toList ++ as).take cap
  | [], b => by rw [pushAll_nil, List.append_nil, List.take_of_length_le b.fits]
  | a :: as, b => by
    rw [pushAll_cons, toList_pushAll as, toList_push]
    rcases Nat.lt_or_ge b.toList.length cap with h | h
    · have hfit : (b.toList ++ [a]).length ≤ cap := by simpa using Nat.succ_le_of_lt h
      rw [List.take_of_length_le hfit, List.append_assoc, List.singleton_append]
    · -- the buffer is full: both sides are its own first `cap` elements
      have hfull : (b.toList ++ [a]).take cap = b.toList := by
        rw [List.take_append_of_le_length h, List.take_of_length_le b.fits]
      rw [hfull, List.take_append_of_le_length h, List.take_append_of_le_length h]

/-- What has been pushed stays at the front. -/
theorem prefix_push (b : BoundedBuffer α cap) (a : α) : b.toList <+: (b.push a).toList := by
  unfold push
  split
  · exact List.prefix_append _ _
  · exact List.prefix_rfl

end BoundedBuffer

end Schemes
