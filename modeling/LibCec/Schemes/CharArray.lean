import Mathlib.Data.List.Basic
import Mathlib.Tactic.Common

/-! Texts in arrays of fixed size, ended by a zero.

    The text of an array is what comes before its first zero. An array without a zero has a text as
    long as itself, which is where a reader of a C string runs past the end; a terminated one has a
    shorter text. The writers of a C string leave a terminated array behind:

        dst[i] = 0
        strncpy dst src k      the first k of src, filled up with zeros to k
        snprintf dst src       the first n - 1 of src, and a zero -/

namespace Schemes

/-- An array of `n` elements. -/
structure CharArray (α : Type*) (n : ℕ) where
  toList : List α
  length_eq : toList.length = n
  deriving DecidableEq

namespace CharArray

variable {α : Type*} {n : ℕ}

/-- The first elements are replaced. -/
def overwrite (b : CharArray α n) (data : List α) (h : data.length ≤ n) : CharArray α n where
  toList := data ++ b.toList.drop data.length
  length_eq := by rw [List.length_append, List.length_drop, b.length_eq, Nat.add_sub_cancel' h]

/-- `b[i] = a`. -/
def set (b : CharArray α n) (i : Fin n) (a : α) : CharArray α n where
  toList := b.toList.set i a
  length_eq := by rw [List.length_set, b.length_eq]

variable [Zero α]

/-- There is a zero in the array. -/
def Terminated (b : CharArray α n) : Prop := 0 ∈ b.toList

instance [DecidableEq α] (b : CharArray α n) : Decidable b.Terminated :=
  inferInstanceAs (Decidable (_ ∈ _))

theorem terminated_overwrite {b : CharArray α n} {data : List α} {h : data.length ≤ n}
    (hzero : 0 ∈ data) : (b.overwrite data h).Terminated := List.mem_append_left _ hzero

theorem terminated_set (b : CharArray α n) (i : Fin n) : (b.set i 0).Terminated :=
  List.mem_iff_getElem.mpr ⟨i, by rw [(b.set i 0).length_eq]; exact i.isLt, List.getElem_set_self _⟩

/-! ### Texts -/

variable [DecidableEq α]

/-- What comes before the first zero. -/
def cString (s : List α) : List α := s.takeWhile (· ≠ 0)

/-- The text of an array. -/
def text (b : CharArray α n) : List α := cString b.toList

theorem length_cString_le (s : List α) : (cString s).length ≤ s.length :=
  (List.takeWhile_prefix _).length_le

/-- A text ends where it meets a zero. -/
theorem length_cString_lt {s : List α} (h : 0 ∈ s) : (cString s).length < s.length := by
  induction s with
  | nil => simp at h
  | cons a s ih =>
    by_cases ha : a = 0
    · simp [cString, ha]
    · rcases List.mem_cons.mp h with h | h
      · exact absurd h.symm ha
      · simpa [cString, ha] using ih h

theorem length_text_lt {b : CharArray α n} (h : b.Terminated) : b.text.length < n := by
  have hlt := length_cString_lt h
  rwa [b.length_eq] at hlt

/-! ### The functions of `string.h` -/

/-- `strncpy`: `k` elements are written. -/
def strncpy (b : CharArray α n) (src : List α) (k : ℕ) (hk : k ≤ n) : CharArray α n :=
  b.overwrite ((cString src ++ List.replicate k 0).take k) <| by
    rw [List.length_take]; exact Nat.le_trans (Nat.min_le_left _ _) hk

/-- `snprintf` with `"%s"` and the size of the array. -/
def snprintf (b : CharArray α (n + 1)) (src : List α) : CharArray α (n + 1) :=
  b.overwrite ((cString src).take n ++ [0]) <| by
    rw [List.length_append, List.length_take, List.length_singleton]
    exact Nat.add_le_add_right (Nat.min_le_left _ _) 1

/-- `strncmp` finds no difference among the first `k` elements. -/
def strncmpEq (s t : List α) (k : ℕ) : Prop := cString (s.take k) = cString (t.take k)

instance (s t : List α) (k : ℕ) : Decidable (strncmpEq s t k) := inferInstanceAs (Decidable (_ = _))

theorem terminated_snprintf (b : CharArray α (n + 1)) (src : List α) : (b.snprintf src).Terminated :=
  terminated_overwrite (List.mem_append_right _ (List.mem_singleton_self 0))

end CharArray

end Schemes
