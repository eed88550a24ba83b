import LibCec.AdapterMessage
import LibCec.Schemes.MarkedFrames
import LibCec.SerialPort
import LibCec.Serialization

/-! Frames through the Tegra driver.

    `Write` hands the driver the bytes of a frame. `Process` gets a frame in words of two bytes, of
    which the second one says whether it is the last:

        Write     cec_command ──Serialize──▶ 40 36
        Process   (40, 0) (36, 1) ──Format──▶ cec_command
                  (40, 0)   ✗     (36, 1) ──▶ 3 to 6, poll

    A read that fails ends the frame, and what comes next is taken for the header of another one. -/

namespace CEC
open Schemes

/-! ### `Write` -/

/-- `ECONNRESET`, `EHOSTUNREACH`. -/
def econnreset : ℕ := 104
def ehostunreach : ℕ := 113

/-- `TEGRA_CEC_FRAME_MAX_LENGTH`. -/
def tegraFrameMaxLength : UInt8 := 16

/-- `TegraCECAdapterCommunication::Write`: its result, and the bytes that the driver gets; `write`
    fails with an error number or not. -/
def tegraWrite (data : Command) (write : Except Errno ℕ) : MessageState × Option (List UInt8) :=
  if data.initiator = data.destination then (.sentNotAcked, none)
  else if (data.serialize tegraFrameMaxLength true).1 < 0 then (.error, none)
  else
    let status : MessageState := match write with
      | .error e => if e.val = econnreset ∨ e.val = ehostunreach then .sentNotAcked else .error
      | .ok _ => .sentAcked
    (status, some (data.bytesWritten tegraFrameMaxLength true))

/-! ### `Process` -/

/-- A word of the driver. -/
structure TegraWord where
  byte : UInt8
  flags : UInt8

/-- The word is the last one of its frame. -/
def TegraWord.isEndOfData (w : TegraWord) : Bool := (w.flags &&& 1) > 0

/-- The operands: the command when the last one was read, `none` when a read has failed. It has not
    returned when there is nothing to read. -/
def tegraOperands (cmd : Command) : List (Option TegraWord) →
    Option (Option Command × List (Option TegraWord))
  | [] => none
  | none :: reads => some (none, reads)
  | some w :: reads =>
    let cmd := { cmd with parameters := cmd.parameters.push w.byte }
    if w.isEndOfData then some (some cmd, reads) else tegraOperands cmd reads

/-- One pass of the loop of `Process`: the command that it has read, and the reads that are left. -/
def tegraFrame : List (Option TegraWord) → Option (Option Command × List (Option TegraWord))
  | [] => none
  | none :: reads => some (none, reads)
  | some header :: reads =>
    let initiator := LogicalAddress.ofHigh header.byte
    let destination := LogicalAddress.ofLow header.byte
    if header.isEndOfData then
      some (some (.format initiator destination opcodeNone defaultTransmitTimeout), reads)
    else match reads with
    | [] => none
    | none :: reads => some (none, reads)
    | some opcode :: reads =>
      let cmd := Command.format initiator destination opcode.byte defaultTransmitTimeout
      if opcode.isEndOfData then some (some cmd, reads) else tegraOperands cmd reads

/-- `TegraCECAdapterCommunication::Process`: the commands handed to `OnCommandReceived`. `IsStopped`
    is asked at the beginning of a pass and before a command is handed over; it is false for the
    first `asked` times. -/
def tegraProcess : ℕ → List (Option TegraWord) → List Command
  | 0, _ => []
  | asked + 1, reads =>
    match tegraFrame reads with
    | none => []
    | some (none, reads) => tegraProcess asked reads
    | some (some cmd, reads) =>
      match asked with
      | 0 => []
      | asked + 1 => cmd :: tegraProcess asked reads

/-! ### What is read -/

/-- A read, as the library for frames has it. -/
def marked : Option TegraWord → MarkedRead UInt8
  | none => .failed
  | some w => .word w.byte w.isEndOfData

/-- The command that the bytes of a frame are read as. -/
def tegraCommand : List UInt8 → Command
  | [] => .clear
  | [header] => .formatReceived header opcodeNone []
  | header :: opcode :: parameters => .formatReceived header opcode parameters

/-- The command of a header, an opcode and some operands, and one more operand. -/
theorem formatReceived_concat (header opcode b : UInt8) (parameters : List UInt8) :
    Command.formatReceived header opcode (parameters ++ [b]) =
      { Command.formatReceived header opcode parameters with
        parameters := (Command.formatReceived header opcode parameters).parameters.push b } := by
  simp only [Command.formatReceived, BoundedBuffer.pushAll_append, BoundedBuffer.pushAll_cons,
    BoundedBuffer.pushAll_nil]

/-- What a pass results in: the first frame, none when it breaks, or it is still reading. -/
inductive PassSpec (acc : List UInt8) (reads : List (Option TegraWord)) :
    Option (Option Command × List (Option TegraWord)) → Prop
  | reading (h : markedFrames acc (reads.map marked) = []) : PassSpec acc reads none
  | broken (rest : List (Option TegraWord)) (hlen : rest.length < reads.length)
      (h : markedFrames acc (reads.map marked) = markedFrames [] (rest.map marked)) :
      PassSpec acc reads (some (none, rest))
  | read (frame : List UInt8) (rest : List (Option TegraWord)) (hlen : rest.length < reads.length)
      (h : markedFrames acc (reads.map marked) = frame :: markedFrames [] (rest.map marked)) :
      PassSpec acc reads (some (some (tegraCommand frame), rest))

/-- The word goes to what was read before. -/
theorem PassSpec.cons {acc : List UInt8} {w : TegraWord} {reads : List (Option TegraWord)}
    {r : Option (Option Command × List (Option TegraWord))} (hw : w.isEndOfData = false)
    (h : PassSpec (acc ++ [w.byte]) reads r) : PassSpec acc (some w :: reads) r := by
  have hframes : markedFrames acc ((some w :: reads).map marked) =
      markedFrames (acc ++ [w.byte]) (reads.map marked) := by
    rw [List.map_cons, marked, hw]
    rfl
  cases h with
  | reading h => exact .reading (hframes.trans h)
  | broken rest hlen h => exact .broken rest (Nat.lt_succ_of_lt hlen) (hframes.trans h)
  | read frame rest hlen h => exact .read frame rest (Nat.lt_succ_of_lt hlen) (hframes.trans h)

theorem PassSpec.failed (acc : List UInt8) (reads : List (Option TegraWord)) :
    PassSpec acc (none :: reads) (some (none, reads)) :=
  .broken reads (Nat.lt_succ_self _) rfl

theorem PassSpec.last {acc : List UInt8} {w : TegraWord} (hw : w.isEndOfData = true)
    (reads : List (Option TegraWord)) :
    PassSpec acc (some w :: reads) (some (some (tegraCommand (acc ++ [w.byte])), reads)) := by
  refine .read _ reads (Nat.lt_succ_self _) ?_
  rw [List.map_cons, marked, hw]
  rfl

theorem tegraOperands_spec {header opcode : UInt8} {reads : List (Option TegraWord)}
    {parameters : List UInt8} : PassSpec (header :: opcode :: parameters) reads
      (tegraOperands (.formatReceived header opcode parameters) reads) := by
  induction reads generalizing parameters with
  | nil => exact .reading rfl
  | cons r reads ih =>
    match r with
    | none => exact .failed _ _
    | some w =>
      rw [tegraOperands, ← formatReceived_concat]
      cases hw : w.isEndOfData with
      | true => exact .last hw reads
      | false => exact .cons hw ih

theorem tegraFrame_spec (reads : List (Option TegraWord)) : PassSpec [] reads (tegraFrame reads) := by
  match reads with
  | [] => exact .reading rfl
  | none :: reads => exact .failed _ _
  | some header :: reads =>
    simp only [tegraFrame]
    cases hheader : header.isEndOfData with
    | true => exact .last hheader reads
    | false =>
      refine .cons hheader ?_
      match reads with
      | [] => exact .reading rfl
      | none :: reads => exact .failed _ _
      | some opcode :: reads =>
        simp only [Bool.false_eq_true, if_false]
        cases hopcode : opcode.isEndOfData with
        | true => exact .last hopcode reads
        | false =>
          refine .cons hopcode ?_
          exact @tegraOperands_spec header.byte opcode.byte reads []

/-- The thread hands over the frames that were read to their end, in order, until it is stopped. -/
theorem tegraProcess_spec {reads : List (Option TegraWord)} (asked : ℕ) :
    tegraProcess asked reads <+: (markedFrames [] (reads.map marked)).map tegraCommand ∧
      (2 * reads.length < asked →
        tegraProcess asked reads = (markedFrames [] (reads.map marked)).map tegraCommand) := by
  induction asked using Nat.strong_induction_on generalizing reads with
  | _ asked ih =>
    match asked with
    | 0 => exact ⟨List.nil_prefix, fun h => absurd h (Nat.not_lt_zero _)⟩
    | asked + 1 =>
      rw [tegraProcess]
      have hspec := tegraFrame_spec reads
      revert hspec
      generalize tegraFrame reads = r
      rintro (h | ⟨rest, hlen, h⟩ | ⟨frame, rest, hlen, h⟩)
      · rw [h]
        exact ⟨List.prefix_refl _, fun _ => rfl⟩
      · rw [h]
        obtain ⟨hle, heq⟩ := @ih asked (Nat.lt_succ_self _) rest
        exact ⟨hle, fun hasked => heq (by omega)⟩
      · rw [h, List.map_cons]
        match asked with
        | 0 => exact ⟨List.nil_prefix, fun hasked => absurd hasked (by omega)⟩
        | asked + 1 =>
          obtain ⟨hle, heq⟩ := @ih asked (by omega) rest
          refine ⟨List.cons_prefix_cons.mpr ⟨rfl, hle⟩, fun hasked => ?_⟩
          exact congrArg (tegraCommand frame :: ·) (heq (by omega))

/-! ### From one device to another -/

/-- A frame is acknowledged when it is one of the bus, and goes from one device to another one. -/
theorem tegraWrite_acked_iff {c : Command} {n : ℕ} {bytes : List UInt8} (hc : c.OnWire) :
    tegraWrite c (.ok n) = (.sentAcked, some bytes) ↔ c.initiator ≠ c.destination ∧
      c.frameBytes.length ≤ maxFrameSize ∧ bytes = c.frameBytes := by
  have hwire : c.wireBytes true = c.frameBytes := rfl
  have hbuf : tegraFrameMaxLength.toNat = maxFrameSize := rfl
  have hlong : c.TooLong tegraFrameMaxLength true ↔ maxFrameSize < c.frameBytes.length := by
    rw [Command.TooLong, hwire, hbuf, or_self]
  rw [tegraWrite]
  split
  · rename_i heq
    simp [heq]
  · rename_i hne
    by_cases h : c.TooLong tegraFrameMaxLength true
    · rw [Command.serialize_of_tooLong hc h, if_pos (by decide)]
      have := hlong.mp h
      simp only [Prod.mk.injEq, reduceCtorEq, false_and, false_iff]
      omega
    · have hle := mt hlong.mpr h
      rw [Command.bytesWritten, Command.serialize_of_fits hc h, Command.map_snd_placedFrom,
        if_neg (by simp), hwire]
      simp only [Prod.mk.injEq, Option.some.injEq, true_and]
      exact ⟨fun h => ⟨hne, Nat.le_of_not_lt hle, h.symm⟩, fun h => h.2.2.symm⟩

/-- A frame is read as the command it was sent for, unless its opcode is the one for no opcode. -/
theorem tegraCommand_frameBytes {c : Command} (hc : c.OnWire) :
    Command.SameOnWire (tegraCommand c.frameBytes) c ↔ (c.opcodeSet → c.opcode ≠ opcodeNone) := by
  have hpush := Command.pushArray_frameBytes hc
  unfold Command.frameBytes at hpush ⊢
  cases hset : c.opcodeSet with
  | false =>
    simp only [hset, Bool.false_eq_true, if_false, false_implies, iff_true] at hpush ⊢
    have hopcode : c.opcodeSet = true → (tegraCommand [c.header]).opcode = c.opcode := by simp [hset]
    exact ⟨hpush.initiator, hpush.destination, hset.symm, hopcode, hpush.parameters⟩
  | true =>
    simp only [hset, if_true, true_implies] at hpush ⊢
    rw [← Command.sameFrame_iff c.header c.opcode c.parameters.toList]
    have hopcode := hpush.opcode hset
    constructor
    · intro h
      exact ⟨h.initiator.trans hpush.initiator.symm, h.destination.trans hpush.destination.symm,
        h.opcodeSet.trans hpush.opcodeSet.symm, (h.opcode hset).trans hopcode.symm,
        h.parameters.trans hpush.parameters.symm⟩
    · intro h
      exact ⟨h.initiator.trans hpush.initiator, h.destination.trans hpush.destination,
        h.opcodeSet.trans hpush.opcodeSet, fun _ => h.opcode.trans hopcode,
        h.parameters.trans hpush.parameters⟩

/-- Other devices write some commands, and reads that take no word may fail between their words. The
    thread hands over one command for each of them, in their order, until it is stopped: what was
    read of the frame after the last failed read. It is the one that was written if no word of the
    frame was read before a failed read, but for the opcode that stands for none. -/
theorem tegra_exchanges {cs : List Command} {xs : List (Interrupted UInt8)}
    {reads : List (Option TegraWord)} {tail : List (MarkedRead UInt8)} (hwire : ∀ c ∈ cs, c.OnWire)
    (hsent : List.Forall₂ (fun c x => ∃ n, tegraWrite c (.ok n) = (.sentAcked, some x.whole)) cs xs)
    (hreads : reads.map marked = xs.flatMap Interrupted.reads ++ tail) (htail : Unfinished tail) :
    (∀ asked, tegraProcess asked reads <+: xs.map (fun x => tegraCommand x.rest) ∧
      (2 * reads.length < asked →
        tegraProcess asked reads = xs.map (fun x => tegraCommand x.rest))) ∧
    List.Forall₂ (fun c x => x.lost.flatten = [] → (Command.SameOnWire (tegraCommand x.rest) c ↔
      (c.opcodeSet → c.opcode ≠ opcodeNone))) cs xs := by
  constructor
  · intro asked
    have hspec := @tegraProcess_spec reads asked
    rw [hreads, markedFrames_interrupted xs htail, List.map_map] at hspec
    exact hspec
  · clear hreads
    induction hsent with
    | nil => exact .nil
    | @cons c x cs xs hwritten _ ih =>
      refine .cons (fun hlost => ?_) (ih fun c hc => hwire c (List.mem_cons_of_mem _ hc))
      have hc := hwire c List.mem_cons_self
      obtain ⟨n, hwritten⟩ := hwritten
      obtain ⟨-, -, hframe⟩ := (tegraWrite_acked_iff hc).mp hwritten
      rw [Interrupted.whole, hlost, List.nil_append] at hframe
      rw [hframe]
      exact tegraCommand_frameBytes hc

/-- The playback device tells the TV to stand by, and a read fails after the header; then it wakes
    the TV up. -/
def brokenStandby : List (Option TegraWord) :=
  [some ⟨0x40, 0⟩, none, some ⟨0x36, 1⟩, some ⟨0x40, 0⟩, some ⟨0x04, 1⟩]

/-- The device at address 3 polls the one at 6 instead of the standby. -/
theorem tegra_exchanges_brokenStandby :
    tegraProcess 11 brokenStandby = [tegraCommand [0x36], tegraCommand [0x40, 0x04]] ∧
      Command.SameOnWire (tegraCommand [0x40, 0x04]) (.formatReceived 0x40 0x04 []) := by
  have hstandby : (Command.formatReceived 0x40 0x36 []).OnWire := ⟨by decide, by decide, by decide⟩
  have hviewOn : (Command.formatReceived 0x40 0x04 []).OnWire := ⟨by decide, by decide, by decide⟩
  obtain ⟨hprocess, hsame⟩ := @tegra_exchanges
    [.formatReceived 0x40 0x36 [], .formatReceived 0x40 0x04 []]
    [⟨[[0x40]], [], 0x36⟩, ⟨[], [0x40], 0x04⟩] brokenStandby [] (by simp [hstandby, hviewOn])
    (.cons ⟨2, by decide⟩ (.cons ⟨2, by decide⟩ .nil)) rfl (fun _ h => by cases h)
  obtain ⟨-, hsame⟩ := List.forall₂_cons.mp hsame
  obtain ⟨hsame, -⟩ := List.forall₂_cons.mp hsame
  exact ⟨(hprocess 11).2 (by decide), (hsame rfl).mpr (by decide)⟩

end CEC
