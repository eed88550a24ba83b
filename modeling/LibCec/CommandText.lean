import LibCec.Schemes.HexText
import LibCec.Schemes.Tokens
import LibCec.Serialization

/-! Commands as text.

    The log shows a command as the bytes of its frame, two digits each and with colons in between.
    `CommandFromString` reads such a text, and any other one:

        cec_command ──ToString──▶ ">> 4f:82:10:00" ──CommandFromString (from 4f on)──▶ cec_command

    What stands between two colons is read by `strtoul`, so that an empty token is a zero, and a
    token that is larger than a byte is left out. The empty text has no tokens. -/

namespace CEC
open Schemes

/-- The size of an `unsigned long`. -/
inductive LongWidth where
  | bits32
  | bits64
  deriving DecidableEq

def LongWidth.bits : LongWidth → ℕ
  | bits32 => 32
  | bits64 => 64

namespace Command

/-! ### Writing -/

/-- `%1x` of an address; unknown is `-1`. -/
def hexAddress : LogicalAddress → List Char
  | .unknown => List.replicate 8 'f'
  | .addr a => [Nat.digitChar a]

/-- `CCECTypeUtils::ToString`. -/
def toString (c : Command) : List Char :=
  ['>', '>', ' '] ++ hexAddress c.initiator ++ hexAddress c.destination ++
    (if c.opcodeSet then ':' :: hexByte c.opcode else []) ++
    c.parameters.toList.flatMap fun b => ':' :: hexByte b

/-- The bytes of the frame, with two digits each and joined by colons. -/
def text (c : Command) : List Char := [':'].intercalate (c.frameBytes.map hexByte)

/-! ### Reading -/

/-- What the loop of `CommandFromString` does with a token. -/
def pushToken (w : LongWidth) (retval : Command) (token : List Char) : Command :=
  let value := strtoul w.bits token
  if value ≤ 0xFF then retval.pushBack (UInt8.ofNat value) else retval

/-- `CommandFromString`, with at most `n` rounds of its loop. -/
def commandFromString (w : LongWidth) (n : ℕ) (command : List Char) : Option Command :=
  if command = [] then some clear else eachToken (pushToken w) command ':' n (some 0) clear

/-- What stands between the colons of a text. -/
def tokens (s : List Char) : List (List Char) := if s = [] then [] else s.splitOn ':'

/-- The byte that a token is the value of. -/
def tokenByte (w : LongWidth) (token : List Char) : Option UInt8 :=
  if strtoul w.bits token ≤ 0xFF then some (UInt8.ofNat (strtoul w.bits token)) else none

/-- A text gives back the command that it is the text of, and from any text the values of the tokens
    that are bytes are pushed, as soon as the loop may have a round more than there are
    characters. -/
structure ReadsText (w : LongWidth) : Prop where
  givenBack : ∀ (c : Command) (n : ℕ), c.OnWire → c.text.length < n →
    ∃ d, commandFromString w n c.text = some d ∧ SameOnWire d c
  pushed : ∀ (s : List Char) (n : ℕ), s.length < n →
    commandFromString w n s = some (clear.pushArray ((tokens s).filterMap (tokenByte w)))

/-! ### What is written -/

theorem intercalate_cons (sep : Char) (x : List Char) : ∀ xs : List (List Char),
    [sep].intercalate (x :: xs) = x ++ xs.flatMap (sep :: ·)
  | [] => by simp [List.intercalate]
  | y :: ys => by
    rw [List.flatMap_cons, List.cons_append, ← intercalate_cons sep y ys]
    simp [List.intercalate]

/-- `ToString` writes the text of the frame behind `>> `. -/
theorem toString_eq {c : Command} (hc : c.OnWire) : c.toString = ['>', '>', ' '] ++ c.text := by
  have hheader : ∀ i d : Fin 16, hexByte ((UInt8.ofNat i <<< 4) + UInt8.ofNat d) =
      [Nat.digitChar i, Nat.digitChar d] := by decide +kernel
  obtain ⟨i, d, hi, hd⟩ := hc.addresses
  have hbyte : hexByte c.header = [Nat.digitChar i, Nat.digitChar d] := by
    rw [header, hi, hd]
    exact hheader i d
  rw [text, frameBytes, List.map_cons, intercalate_cons, hbyte, toString, hi, hd]
  cases hset : c.opcodeSet with
  | false => simp [hexAddress, hc.parameters hset]
  | true => simp [hexAddress, List.flatMap_map]

/-! ### What is read -/

/-- A token that is a byte is pushed, and another one is not. -/
theorem foldl_pushToken (w : LongWidth) : ∀ (ts : List (List Char)) (c : Command),
    ts.foldl (pushToken w) c = c.pushArray (ts.filterMap (tokenByte w))
  | [], _ => rfl
  | t :: ts, c => by
    rw [List.foldl_cons, foldl_pushToken w ts]
    by_cases h : strtoul w.bits t ≤ 0xFF
    · have hbyte : tokenByte w t = some (UInt8.ofNat (strtoul w.bits t)) := if_pos h
      rw [List.filterMap_cons_some hbyte, pushArray_cons, pushToken, if_pos h]
    · have hnone : tokenByte w t = none := if_neg h
      rw [List.filterMap_cons_none hnone, pushToken, if_neg h]

/-- The loop ends, and pushes the bytes among the tokens in their order. -/
theorem commandFromString_eq (w : LongWidth) {n : ℕ} {s : List Char} (hn : s.length < n) :
    commandFromString w n s = some (clear.pushArray ((tokens s).filterMap (tokenByte w))) := by
  by_cases hs : s = []
  · simp [commandFromString, tokens, hs]
  · have hloop := eachToken_eq (pushToken w) s ':' n 0 clear (Nat.zero_le _) (by omega)
    rw [commandFromString, if_neg hs, hloop, List.drop_zero, foldl_pushToken, tokens, if_neg hs]

/-- The tokens of the text of a command are the bytes of its frame. -/
theorem tokens_text (c : Command) : tokens c.text = c.frameBytes.map hexByte := by
  have hne : c.frameBytes.map hexByte ≠ [] := by simp [frameBytes]
  have hcolon : ∀ t ∈ c.frameBytes.map hexByte, ':' ∉ t := by
    intro t ht
    obtain ⟨b, -, rfl⟩ := List.mem_map.mp ht
    exact notMem_hexByte (by decide) b
  have htext : c.text ≠ [] := by
    rw [text, frameBytes, List.map_cons, intercalate_cons]
    simp [hexByte]
  rw [tokens, if_neg htext, text, List.splitOn_intercalate _ hcolon hne]

theorem tokenByte_hexByte (w : LongWidth) (b : UInt8) : tokenByte w (hexByte b) = some b := by
  have hbits : 8 ≤ w.bits := by cases w <;> decide
  have hvalue := strtoul_hexByte hbits b
  have hle : b.toNat ≤ 0xFF := Nat.le_of_lt_succ b.toNat_lt
  rw [tokenByte, hvalue, if_pos hle, UInt8.ofNat_toNat]

/-- Commands are read from their text, and any text by its tokens. -/
theorem readsText (w : LongWidth) : ReadsText w where
  givenBack := by
    intro c n hc hn
    have hbytes : (c.frameBytes.map hexByte).filterMap (tokenByte w) = c.frameBytes := by
      rw [List.filterMap_map]
      simp [tokenByte_hexByte]
    refine ⟨clear.pushArray c.frameBytes, ?_, pushArray_frameBytes hc⟩
    rw [commandFromString_eq w hn, tokens_text, hbytes]
  pushed := fun _ _ hn => commandFromString_eq w hn

/-- A poll whose `opcode` field still has the opcode of an earlier command. -/
def pollWithOldOpcode : Command :=
  { clear with initiator := .addr 4, destination := .tv, opcode := 0x36 }

/-- What is left in the opcode of a poll is not in its text; and the empty text, cut at its colons,
    is one empty token, for which nothing is pushed. -/
theorem oldOpcode_not_in_text :
    (¬ ∀ (w : LongWidth) (c : Command), c.OnWire →
      ∃ d, commandFromString w (c.text.length + 1) c.text = some d ∧ SameFrame d c) ∧
    ¬ ∀ (w : LongWidth) (s : List Char), commandFromString w (s.length + 1) s =
      some (clear.pushArray ((s.splitOn ':').filterMap (tokenByte w))) := by
  constructor
  · intro h
    have hwire : pollWithOldOpcode.OnWire := ⟨by decide, by decide, fun _ => rfl⟩
    obtain ⟨d, hd, hsame⟩ := h .bits64 pollWithOldOpcode hwire
    have hopcode : (commandFromString .bits64 (pollWithOldOpcode.text.length + 1)
        pollWithOldOpcode.text).map Command.opcode = some opcodeFeatureAbort := by decide +kernel
    rw [hd] at hopcode
    have hstale : opcodeFeatureAbort = 0x36 := (Option.some.inj hopcode).symm.trans hsame.opcode
    exact absurd hstale (by decide)
  · intro h
    have hempty : (some clear).map Command.initiator = (some (clear.pushArray
        (([] : List Char).splitOn ':' |>.filterMap (tokenByte .bits64)))).map Command.initiator :=
      congrArg (Option.map Command.initiator) (h .bits64 [])
    exact absurd hempty (by decide +kernel)

end Command

end CEC
