import Mathlib.Data.List.Basic
import Mathlib.Tactic.Common

/-! The parts of a text between separators, taken by their positions.

    A tokenizer that goes through a text with `find` and `substr` keeps the place where the next
    token starts, and stops behind a token that no separator follows:

        a b : c : : d
        │     │   │ └─ pos of the last one
        └ pos └ pos └ an empty token

    `eachToken_eq` says that it visits the parts that `List.splitOn` has, in order, and that as many
    rounds as the text has characters, and one, are enough. -/

namespace Schemes

variable {α β : Type*} [DecidableEq α]

/-- `find`: the first place of `c` from `pos` on, if there is one. -/
def findFrom (s : List α) (c : α) (pos : ℕ) : Option ℕ := ((s.drop pos).idxOf? c).map (pos + ·)

/-- `substr`: at most `count` characters from `pos` on, all of them without a count. A start behind
    the end is an error. -/
def substr (s : List α) (pos : ℕ) (count : Option ℕ) : Option (List α) :=
  if pos ≤ s.length then
    some (match count with
      | some n => (s.drop pos).take n
      | none => s.drop pos)
  else none

/-- A call of `f` for each token from `pos` on, in at most `n` rounds; `none` for the place behind
    the last token. -/
def eachToken (f : β → List α → β) (s : List α) (sep : α) : ℕ → Option ℕ → β → Option β
  | _, none, b => some b
  | 0, some _, _ => none
  | n + 1, some pos, b =>
    let next := findFrom s sep pos
    (substr s pos (next.map (· - pos))).bind fun token =>
      eachToken f s sep n (next.map (· + 1)) (f b token)

/-- What is in front of the first separator, and what is behind it. -/
theorem drop_of_idxOf? {s : List α} {sep : α} {i : ℕ} (h : s.idxOf? sep = some i) :
    s = s.take i ++ sep :: s.drop (i + 1) ∧ sep ∉ s.take i := by
  obtain ⟨hi, hsep, hbefore⟩ := List.idxOf?_eq_some_iff.mp h
  constructor
  · rw [← hsep, List.getElem_cons_drop, List.take_append_drop]
  · intro hmem
    obtain ⟨j, hj, hget⟩ := List.mem_iff_getElem.mp hmem
    rw [List.length_take] at hj
    rw [List.getElem_take] at hget
    exact hbefore j (by omega) hget

/-- The tokens are the parts between the separators. -/
theorem eachToken_eq (f : β → List α → β) (s : List α) (sep : α) : ∀ (n pos : ℕ) (b : β),
    pos ≤ s.length → s.length < pos + n →
      eachToken f s sep n (some pos) b = some (((s.drop pos).splitOn sep).foldl f b)
  | 0, pos, b, hpos, hn => absurd hn (by omega)
  | n + 1, pos, b, hpos, hn => by
    unfold eachToken
    cases hfind : (s.drop pos).idxOf? sep with
    | none =>
      have hnone : sep ∉ s.drop pos := List.idxOf?_eq_none_iff.mp hfind
      have hempty : ∀ m, eachToken f s sep m none (f b (s.drop pos)) = some (f b (s.drop pos)) := by
        intro m
        cases m <;> rfl
      simp [findFrom, hfind, substr, hpos, hempty, List.splitOn_eq_singleton hnone]
    | some i =>
      obtain ⟨hsplit, hnot⟩ := drop_of_idxOf? hfind
      have hlt : i < (s.drop pos).length := by
        have hlen := congrArg List.length hsplit
        simp only [List.length_append, List.length_cons, List.length_take] at hlen
        omega
      rw [List.length_drop] at hlt
      have hrest := eachToken_eq f s sep n (pos + i + 1) (f b ((s.drop pos).take i)) (by omega)
        (by omega)
      have hbehind : (s.drop pos).drop (i + 1) = s.drop (pos + i + 1) := by
        rw [List.drop_drop, Nat.add_assoc]
      rw [hbehind] at hsplit
      have hparts : (s.drop pos).splitOn sep =
          (s.drop pos).take i :: (s.drop (pos + i + 1)).splitOn sep := by
        conv_lhs => rw [hsplit]
        exact List.splitOn_append_cons_self_of_not_mem hnot _
      simp [findFrom, hfind, substr, hpos, hrest, hparts]

end Schemes
