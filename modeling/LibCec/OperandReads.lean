import LibCec.VendorCommands
import Mathlib.Data.List.GetD

/-! The operands that the handlers of received commands read.

    Past the end of the operands `operator[]` gives 0, so each function has to look at the size
    before it reads. `operandReads` is the operands that it reads, behind the guards that the source
    has:

        parameters.size ──guard──▶ parameters[i], there
                └──no guard─────▶ parameters[i], or 0

    A command `Lacks` operands when the function reads further in a longer command that begins in the
    same way. `readBound` is how far it may read at all. -/

namespace CEC
open Schemes Procedure

/-! ### The operands that are read -/

/-- Operands that are read behind a guard. -/
def readsWhen (guard : Bool) (operands : List ℕ) : List ℕ := if guard then operands else []

/-- The operands read by a chain of comparisons, which ends at the first one that differs. -/
def comparedTo (c : Received) : List (ℕ × UInt8) → List ℕ
  | [] => []
  | (i, x) :: rest => i :: readsWhen (c.parameter i = x) (comparedTo c rest)

/-- The vendor id of a command, as the handlers of vendors compare it. -/
def comparedVendorId (c : Received) (x y z : UInt8) : List ℕ := comparedTo c [(0, x), (1, y), (2, z)]

/-- What is neither for a device of libCEC nor for all is turned away before it is read. -/
theorem isFor_of_not {w : World} {c : Received}
    (h : ¬((!w.isHandled c.destination) = true ∧ c.destination ≠ 15)) :
    (w.isHandled c.destination || decide (c.destination = 15)) = true := by
  simpa [imp_iff_not_or] using h

/-- `HandleDeviceVendorCommandWithId`. -/
def withIdReads (c : Received) : List ℕ := readsWhen (3 ≤ c.size) [0, 1, 2]

/-- `HandleDeviceVendorCommandWithId` of Panasonic's handler. The base handler, which it falls back
    to, reads the vendor id again. -/
def vlWithIdReads (w : World) (c : Received) : List ℕ :=
  readsWhen (w.isHandled c.destination || c.destination = 15)
    (comparedVendorId c 0x00 0x80 0x45 ++
      readsWhen (c.parameter 0 = 0x00 ∧ c.parameter 1 = 0x80 ∧ c.parameter 2 = 0x45 ∧ c.initiator = 0)
        (3 :: (readsWhen (c.parameter 3 = 0x06 ∧ 5 ≤ c.size) [4] ++
          readsWhen (c.destination = 15 ∧ c.parameter 3 = 0x20) [4])))

/-- `HandleDeviceVendorCommandWithId` of Samsung's handler. -/
def anWithIdReads (c : Received) : List ℕ :=
  readsWhen (4 ≤ c.size) (comparedTo c [(0, 0x00), (1, 0x00), (2, 0xF0), (3, 0x23)]) ++ withIdReads c

/-- `HandleDeviceVendorCommandWithId` of Toshiba's handler. -/
def rlWithIdReads (w : World) (c : Received) : List ℕ :=
  readsWhen ((w.isHandled c.destination || c.destination = 15) && 4 ≤ c.size)
    (comparedVendorId c 0x00 0x00 0x39 ++
      readsWhen (c.parameter 0 = 0x00 ∧ c.parameter 1 = 0x00 ∧ c.parameter 2 = 0x39)
        (readsWhen (w.clients c.destination).isSome
          (3 :: readsWhen (c.parameter 3 = 0x44 ∧ c.size = 5) [4]) ++ withIdReads c))

/-- `HandleVendorCommand` of LG's handler, the only one but Panasonic's that reads an operand. -/
def slVendorCommandReads (w : World) (c : Received) : List ℕ :=
  readsWhen ((w.isHandled c.destination || c.destination = 15) && (c.size = 1 || c.size = 2)) [0]

/-- `HandleGiveDeckStatus` of LG's handler. -/
def slDeckStatusReads (w : World) (c : Received) : List ℕ :=
  readsWhen (w.responds c && isPlaybackDevice c.destination && c.size ≠ 0 &&
    (w.devices c.destination).activeSource) [0]

/-- `HandleFeatureAbort`. -/
def featureAbortReads (c : Received) : List ℕ :=
  readsWhen (c.size = 2) (1 :: readsWhen (c.parameter 1 = 0 ∨ c.parameter 1 = 4) [0])

/-- `HandleSetStreamPath`. -/
def streamPathReads (w : World) (c : Received) : List ℕ :=
  readsWhen (w.initialised && 2 ≤ c.size) [0, 1]

/-- Whether LG's handler suppresses the command. -/
def World.suppresses (w : World) (c : Received) : Bool :=
  (suppressTvRoutingChange c w).any (·.1)

/-- The operands that the function of the handler `h` for the opcode reads. -/
def operandReads (h : Handler) (w : World) (c : Received) : List ℕ :=
  match c.opcode with
  | 0x90 | 0x9E => readsWhen (c.size = 1) [0]
  | 0x32 => readsWhen (c.size = 3) [0, 1, 2]
  | 0x87 => readsWhen (3 ≤ c.size) [0, 1, 2]
  | 0xA0 =>
    match h with
    | .vl => vlWithIdReads w c
    | .an => anWithIdReads c
    | .rl => rlWithIdReads w c
    | .rh => comparedVendorId c 0x00 0x09 0xB0
    | .sy => readsWhen (c.initiator = 0 ∧ 3 ≤ c.size) [0, 1, 2] ++ withIdReads c
    | _ => withIdReads c
  | 0x1A => readsWhen (h = .sl) (slDeckStatusReads w c)
  | 0x42 => readsWhen (isPlaybackDevice c.destination && c.size > 0) [0]
  | 0x8D => readsWhen (w.responds c && (w.clients c.destination).isSome) [0]
  | 0x44 => readsWhen (h = .ph) [0] ++ readsWhen (w.responds c && c.size ≠ 0) [0]
  | 0x70 => readsWhen (w.responds c && isAudioSystem c.destination && 2 ≤ c.size) [0, 1]
  | 0x7A | 0x7E | 0x72 => readsWhen (c.size = 1 && isAudioSystem c.initiator) [0]
  | 0x86 =>
    match h with
    | .sl => readsWhen (!w.suppresses c) (streamPathReads w c)
    | .ph => readsWhen (4 ≤ c.size) [0, 1, 2, 3] ++ streamPathReads w c
    | _ => streamPathReads w c
  | 0x80 => readsWhen (h = .ph && c.size = 4) [0, 1, 2, 3] ++ readsWhen (c.size = 4) [2, 3]
  | 0x81 => readsWhen (c.size = 2) [0, 1]
  | 0x82 => readsWhen (!(h = .sl && w.suppresses c) && c.size = 2) [0, 1]
  | 0x84 => readsWhen (c.size = 3) [0, 1]
  | 0x47 => List.range (min c.size 16)
  | 0x00 => featureAbortReads c
  | 0x89 =>
    match h with
    | .sl => slVendorCommandReads w c
    | .vl => readsWhen (c.size = 3) (comparedTo c [(0, 0x10), (1, 0x01)])
    | _ => []
  | 0x8A => readsWhen (c.size ≠ 0 && (h ≠ .an ||
      w.initialised && (w.clients c.destination).isSome)) [0]
  | _ => []

/-! ### The operands that a command lacks -/

/-- `c'` begins like `c`, and may go on. -/
structure Received.Continues (c' c : Received) : Prop where
  initiator : c'.initiator = c.initiator
  destination : c'.destination = c.destination
  opcode : c'.opcode = c.opcode
  parameters : c.parameters.toList <+: c'.parameters.toList

theorem Received.Continues.parameter {c c' : Received} (h : c'.Continues c) {i : ℕ} (hi : i < c.size) :
    c'.parameter i = c.parameter i := by
  obtain ⟨l, hl⟩ := h.parameters
  rw [Received.parameter, ← hl, List.getD_append _ _ _ _ hi]
  rfl

/-- The function reads further in a command that goes on. -/
def Received.ReadsOn (h : Handler) (w : World) (c : Received) : Prop :=
  ∃ c' : Received, c'.Continues c ∧ ∃ i ∈ operandReads h w c', c.size ≤ i

@[simp] theorem mem_readsWhen {guard : Bool} {l : List ℕ} {i : ℕ} :
    i ∈ readsWhen guard l ↔ guard = true ∧ i ∈ l := by
  cases guard <;> simp [readsWhen]

/-- All that is read in a list is below its bound. -/
def Below (n : ℕ) (l : List ℕ) : Prop := ∀ i ∈ l, i < n

namespace Below

variable {n : ℕ} {l m : List ℕ} {c : Received}

@[simp] theorem nil : Below n [] := fun _ h => absurd h List.not_mem_nil

@[simp] theorem cons {i : ℕ} : Below n (i :: l) ↔ i < n ∧ Below n l := List.forall_mem_cons

@[simp] theorem append : Below n (l ++ m) ↔ Below n l ∧ Below n m := List.forall_mem_append

theorem readsWhen (guard : Bool) (h : Below n l) : Below n (readsWhen guard l) :=
  fun _ hi => h _ (mem_readsWhen.mp hi).2

theorem comparedTo {l : List (ℕ × UInt8)} (h : ∀ p ∈ l, p.1 < n) : Below n (comparedTo c l) := by
  induction l with
  | nil => exact nil
  | cons p l ih =>
    obtain ⟨hp, hl⟩ := List.forall_mem_cons.mp h
    exact cons.mpr ⟨hp, (ih hl).readsWhen _⟩

end Below

section bounds

variable {c : Received}

end bounds

end CEC
