import Mathlib.Data.List.Basic
import Mathlib.Tactic.Common

/-! Frames whose last word carries a mark, read word by word when a read can fail.

        words    a   b   c*        d   ✗   e   f*        ✗   g*
        frames   [a, b, c]                 [e, f]            [g]

    A failed read ends the frame it breaks, and the words after it begin another one: a frame that
    is broken is not lost, it arrives as the words after the last break (`markedFrames_interrupted`). -/

namespace Schemes

variable {A : Type*}

/-- What a read finds: a word, and whether it is marked as the last one of its frame. -/
inductive MarkedRead (A : Type*) where
  | word (a : A) (last : Bool)
  | failed
  deriving DecidableEq

/-- The frames of some reads, of which `acc` was read before. -/
def markedFrames (acc : List A) : List (MarkedRead A) → List (List A)
  | [] => []
  | .failed :: rs => markedFrames [] rs
  | .word a true :: rs => (acc ++ [a]) :: markedFrames [] rs
  | .word a false :: rs => markedFrames (acc ++ [a]) rs

/-- No read is the last one of a frame. -/
def Unfinished (rs : List (MarkedRead A)) : Prop := ∀ a, .word a true ∉ rs

/-- Words without the mark. -/
def unmarked (words : List A) : List (MarkedRead A) := words.map fun a => .word a false

/-- A frame on its way: what was read before each failed read, and what was read after the last one. -/
structure Interrupted (A : Type*) where
  lost : List (List A)
  words : List A
  last : A

namespace Interrupted

/-- What arrives as a frame. -/
def rest (x : Interrupted A) : List A := x.words ++ [x.last]

/-- The words that were sent, when no failed read has taken one with it. -/
def whole (x : Interrupted A) : List A := x.lost.flatten ++ x.rest

def reads (x : Interrupted A) : List (MarkedRead A) :=
  x.lost.flatMap (fun words => unmarked words ++ [.failed]) ++ unmarked x.words ++ [.word x.last true]

end Interrupted

theorem markedFrames_unmarked (words : List A) (acc : List A) (rs : List (MarkedRead A)) :
    markedFrames acc (unmarked words ++ rs) = markedFrames (acc ++ words) rs := by
  induction words generalizing acc with
  | nil => rw [List.append_nil]; rfl
  | cons a words ih =>
    have hword : markedFrames acc (unmarked (a :: words) ++ rs) =
        markedFrames (acc ++ [a]) (unmarked words ++ rs) := rfl
    rw [hword, ih, List.append_assoc, List.singleton_append]

/-- Broken parts of frames are dropped. -/
theorem markedFrames_lost (lost : List (List A)) (rs : List (MarkedRead A)) :
    markedFrames [] (lost.flatMap (fun words => unmarked words ++ [.failed]) ++ rs) =
      markedFrames [] rs := by
  induction lost with
  | nil => rfl
  | cons words lost ih =>
    rw [List.flatMap_cons, List.append_assoc, List.append_assoc, markedFrames_unmarked]
    exact ih

theorem markedFrames_reads (x : Interrupted A) (rs : List (MarkedRead A)) :
    markedFrames [] (x.reads ++ rs) = x.rest :: markedFrames [] rs := by
  rw [Interrupted.reads, List.append_assoc, List.append_assoc, markedFrames_lost, markedFrames_unmarked]
  rfl

theorem markedFrames_unfinished {rs : List (MarkedRead A)} (h : Unfinished rs) (acc : List A) :
    markedFrames acc rs = [] := by
  induction rs generalizing acc with
  | nil => rfl
  | cons r rs ih =>
    have hrest : Unfinished rs := fun a ha => h a (List.mem_cons_of_mem _ ha)
    match r with
    | .failed => exact ih hrest []
    | .word a false => exact ih hrest (acc ++ [a])
    | .word a true => exact absurd List.mem_cons_self (h a)

/-- Each frame that was sent arrives once, as what was read of it after the last failed read. -/
theorem markedFrames_interrupted (xs : List (Interrupted A)) {tail : List (MarkedRead A)}
    (h : Unfinished tail) :
    markedFrames [] (xs.flatMap Interrupted.reads ++ tail) = xs.map Interrupted.rest := by
  induction xs with
  | nil => exact markedFrames_unfinished h []
  | cons x xs ih =>
    rw [List.flatMap_cons, List.append_assoc, markedFrames_reads, ih]
    rfl

end Schemes
