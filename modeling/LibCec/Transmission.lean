import LibCec.Receiver

/-! Encoding a command for the adapter (`CCECAdapterMessage(const cec_command &, uint8_t)`).

    A command is sent as a sequence of adapter packets in one 72-byte message: the acknowledge
    polarity of the destination, then one packet per byte of the CEC frame, the last one marked
    `TRANSMIT_EOM`. The constructor escapes codes and parameters but pushes the header and the
    opcode as they are, and what does not fit the buffer is dropped without a word.

        command ──ofCommand──▶ bytes ──addData──▶ packets
                               (≤ 72)             = `packets command`, iff `Encodable`

    `ofCommand_decodes_iff` says for which commands the byte stream decodes to the packets that
    were meant. -/

namespace CEC
open Schemes

namespace AdapterMessage

/-! ### The constructor -/

/-- The parameter loop of the constructor; the last parameter ends the frame. -/
def pushParameters (m : AdapterMessage) : List UInt8 → AdapterMessage
  | [] => m
  | p :: ps =>
    let m := (m.pushBack msgStart).pushEscaped (if ps = [] then MsgCode.transmitEom else MsgCode.transmit)
    ((m.pushEscaped p).pushBack msgEnd).pushParameters ps

/-- `CCECAdapterMessage(command, iLineTimeout)`. -/
def ofCommand (command : Command) (lineTimeout : UInt8) : AdapterMessage :=
  let m := (clear.pushBack msgStart).pushEscaped MsgCode.transmitAckPolarity
  -- high polarity for the broadcast address, low for any other
  let m := m.pushEscaped (if command.destination = .broadcast then 1 else 0)
  let m := m.pushBack msgEnd
  -- source and destination
  let m := (m.pushBack msgStart).pushEscaped
    (if command.opcodeSet then MsgCode.transmit else MsgCode.transmitEom)
  let m := (m.pushBack command.header).pushBack msgEnd
  let m :=
    if command.opcodeSet then
      let m := (m.pushBack msgStart).pushEscaped
        (if command.parameters.toList = [] then MsgCode.transmitEom else MsgCode.transmit)
      let m := (m.pushBack command.opcode).pushBack msgEnd
      m.pushParameters command.parameters.toList
    else m
  { m with transmitTimeout := command.transmitTimeout, lineTimeout := lineTimeout }

end AdapterMessage

/-! ### What the stream should carry -/

/-- One packet per byte of a frame; the last one carries `TRANSMIT_EOM`. -/
def transmitPackets : List UInt8 → List (List UInt8)
  | [] => []
  | b :: bs => [if bs = [] then MsgCode.transmitEom else MsgCode.transmit, b] :: transmitPackets bs

/-- The packet that sets the acknowledge polarity for the destination of a command. -/
def Command.polarityPacket (c : Command) : List UInt8 :=
  [MsgCode.transmitAckPolarity, if c.destination = .broadcast then 1 else 0]

/-- The packets a command is sent as, code first. -/
def Command.packets (c : Command) : List (List UInt8) :=
  c.polarityPacket :: transmitPackets c.frameBytes

/-- A byte stream read by a fresh receiver yields these packets, each between its delimiters, and
    leaves nothing over. -/
def Decodes (stream : List UInt8) (ps : List (List UInt8)) : Prop :=
  (AdapterMessage.clear.addData stream).2.map AdapterMessage.bytes = ps.map wire.delimited ∧
    (AdapterMessage.clear.addData stream).1.toReceiver = .empty

instance (stream : List UInt8) (ps : List (List UInt8)) : Decidable (Decodes stream ps) :=
  inferInstanceAs (Decidable (_ ∧ _))

/-- Neither the header nor the opcode is a mark, and the packets fit the buffer: four bytes each,
    and one more for each parameter that has to be escaped. -/
structure Encodable (c : Command) : Prop where
  header : c.header < msgEsc
  opcode : c.opcodeSet → c.opcode < msgEsc
  fits : 4 * (c.frameBytes.length + 1) + c.frameBytes.countP (msgEsc ≤ ·) ≤ maxMsgSize

theorem decodes_iff (stream : List UInt8) (ps : List (List UInt8)) : Decodes stream ps ↔
    (Receiver.empty : Receiver UInt8 maxMsgSize).run wire stream = (.empty, ps.map wire.delimited) := by
  rw [← AdapterMessage.toReceiver_clear, ← AdapterMessage.addData_run, Prod.mk.injEq, Decodes,
    and_comm, AdapterMessage.toReceiver_clear]

/-! ### The bytes before the buffer cuts them off -/

/-- A packet whose byte is pushed as it is. -/
def rawPacket (code b : UInt8) : List UInt8 := [msgStart, code, b, msgEnd]

/-- Everything the constructor pushes. -/
def wireBytes (c : Command) : List UInt8 :=
  wire.frame c.polarityPacket ++
    (rawPacket (if c.opcodeSet then MsgCode.transmit else MsgCode.transmitEom) c.header ++
      if c.opcodeSet then
        rawPacket (if c.parameters.toList = [] then MsgCode.transmitEom else MsgCode.transmit) c.opcode ++
          (transmitPackets c.parameters.toList).flatMap wire.frame
      else [])

/-- The transmit codes are never marks. -/
theorem transmitCode_plain (p : Prop) [Decidable p] :
    ¬ wire.Special (if p then MsgCode.transmitEom else MsgCode.transmit) := by
  split <;> decide

theorem rawPacket_plain {code b : UInt8} (hc : ¬ wire.Special code) (hb : ¬ wire.Special b) :
    rawPacket code b = wire.frame [code, b] := by
  simp [rawPacket, Framing.frame, wire.escapeOne_plain hc, wire.escapeOne_plain hb]

namespace AdapterMessage

/-- A packet pushed with its byte as it is. -/
theorem txData_rawPacket (m : AdapterMessage) {code : UInt8} (hc : ¬ wire.Special code) (b : UInt8) :
    ((((m.pushBack msgStart).pushEscaped code).pushBack b).pushBack msgEnd).txData
      = m.txData.pushAll (rawPacket code b) := by
  simp [txData_pushEscaped, wire.escapeOne_plain hc, rawPacket]

/-- A packet pushed with its byte escaped. -/
theorem txData_frame (m : AdapterMessage) (code b : UInt8) :
    ((((m.pushBack msgStart).pushEscaped code).pushEscaped b).pushBack msgEnd).txData
      = m.txData.pushAll (wire.frame [code, b]) := by
  simp [txData_pushEscaped, Framing.frame, BoundedBuffer.pushAll_append]

theorem txData_pushParameters : ∀ (ps : List UInt8) (m : AdapterMessage),
    (m.pushParameters ps).txData = m.txData.pushAll ((transmitPackets ps).flatMap wire.frame)
  | [], _ => rfl
  | p :: ps, m => by
    rw [pushParameters, txData_pushParameters ps, txData_frame, transmitPackets,
      List.flatMap_cons, BoundedBuffer.pushAll_append]

/-- The message holds the first 72 bytes of what was pushed. -/
theorem bytes_ofCommand (c : Command) (lineTimeout : UInt8) :
    (ofCommand c lineTimeout).bytes = (wireBytes c).take maxMsgSize := by
  have hpush : (ofCommand c lineTimeout).txData = BoundedBuffer.empty.pushAll (wireBytes c) := by
    unfold ofCommand wireBytes
    rw [BoundedBuffer.pushAll_append, BoundedBuffer.pushAll_append]
    cases c.opcodeSet
    · simp only [Bool.false_eq_true, if_false, BoundedBuffer.pushAll_nil]
      rw [txData_rawPacket _ (by decide), txData_frame, txData_clear, Command.polarityPacket]
    · simp only [if_true]
      rw [txData_pushParameters, txData_rawPacket _ (transmitCode_plain _),
        txData_rawPacket _ (by decide), txData_frame, txData_clear, BoundedBuffer.pushAll_append,
        Command.polarityPacket]
  rw [bytes, hpush, BoundedBuffer.toList_pushAll]
  rfl

end AdapterMessage

/-! ### When the stream carries it -/

theorem length_frame_pair {code : UInt8} (hc : ¬ wire.Special code) (b : UInt8) :
    (wire.frame [code, b]).length = 4 + if msgEsc ≤ b then 1 else 0 := by
  simp only [Framing.frame, Framing.escape_cons, wire.escapeOne_plain hc, Framing.escape_nil]
  by_cases hb : msgEsc ≤ b
  · rw [wire.escapeOne_special ((wire_special_iff b).mpr hb), if_pos hb]
    rfl
  · rw [wire.escapeOne_plain (mt (wire_special_iff b).mp hb), if_neg hb]
    rfl

/-- Four bytes for each packet, and one more for each byte that is escaped. -/
theorem length_transmitPackets : ∀ bs : List UInt8,
    ((transmitPackets bs).flatMap wire.frame).length = 4 * bs.length + bs.countP (msgEsc ≤ ·)
  | [] => rfl
  | b :: bs => by
    rw [transmitPackets, List.flatMap_cons, List.length_append, length_transmitPackets bs,
      length_frame_pair (transmitCode_plain _), List.countP_cons, List.length_cons]
    simp only [decide_eq_true_eq]
    omega

theorem length_polarityPacket (c : Command) : (wire.frame c.polarityPacket).length = 4 := by
  unfold Command.polarityPacket
  split <;> decide

theorem length_packets (c : Command) : (c.packets.flatMap wire.frame).length
    = 4 * (c.frameBytes.length + 1) + c.frameBytes.countP (msgEsc ≤ ·) := by
  rw [Command.packets, List.flatMap_cons, List.length_append, length_polarityPacket,
    length_transmitPackets]
  omega

/-- A packet is a code and a byte. -/
theorem length_of_mem_transmitPackets : ∀ {bs p : List UInt8}, p ∈ transmitPackets bs → p.length = 2
  | _ :: _, _, h => by
    rcases List.mem_cons.mp h with rfl | h
    · rfl
    · exact length_of_mem_transmitPackets h

theorem length_of_mem_packets {c : Command} {p : List UInt8} (h : p ∈ c.packets) :
    p.length + 2 ≤ maxMsgSize := by
  rcases List.mem_cons.mp h with rfl | h
  · exact Nat.le_of_ble_eq_true rfl
  · rw [length_of_mem_transmitPackets h]
    decide

/-- When neither the header nor the opcode is a mark, every packet is pushed as a frame. -/
theorem wireBytes_plain {c : Command} (hh : ¬ wire.Special c.header)
    (ho : c.opcodeSet → ¬ wire.Special c.opcode) : wireBytes c = c.packets.flatMap wire.frame := by
  unfold wireBytes Command.packets Command.frameBytes
  cases hset : c.opcodeSet
  · simp [transmitPackets, rawPacket_plain (by decide : ¬ wire.Special MsgCode.transmitEom) hh]
  · simp [transmitPackets, rawPacket_plain (by decide : ¬ wire.Special MsgCode.transmit) hh,
      rawPacket_plain (transmitCode_plain _) (ho hset)]

/-- A mark pushed as it is spoils the stream, whatever the buffer still takes after it. -/
theorem not_decodes_raw {ps : List (List UInt8)} (hps : ∀ p ∈ ps, p.length + 2 ≤ maxMsgSize)
    (hlen : (ps.flatMap wire.frame).length + 4 ≤ maxMsgSize) {code b : UInt8}
    (hc : ¬ wire.Special code) (hb : wire.Special b) {stream rest : List UInt8}
    (hs : stream = ps.flatMap wire.frame ++ (rawPacket code b ++ rest)) (qs : List (List UInt8)) :
    ¬ Decodes (stream.take maxMsgSize) (ps ++ [code, b] :: qs) := by
  have hraw : (rawPacket code b).length ≤ maxMsgSize - (ps.flatMap wire.frame).length := by
    simp only [rawPacket, List.length_cons, List.length_nil]
    omega
  rw [hs, decodes_iff, List.take_append, List.take_of_length_le (Nat.le_of_add_right_le hlen),
    List.take_append, List.take_of_length_le hraw]
  exact fun h => Receiver.run_frames_raw wire hps hc hb (by decide) _ qs (congrArg Prod.snd h)

/-- A header that is a mark is pushed as it is, right after the polarity. -/
theorem not_decodes_header {c : Command} (hh : wire.Special c.header) :
    ¬ Decodes ((wireBytes c).take maxMsgSize) c.packets := by
  have hfit : ∀ p ∈ [c.polarityPacket], p.length + 2 ≤ maxMsgSize := fun p hp =>
    length_of_mem_packets (List.mem_cons.mpr (.inl (List.mem_singleton.mp hp)))
  have hlen : ([c.polarityPacket].flatMap wire.frame).length + 4 ≤ maxMsgSize := by
    rw [List.flatMap_singleton, length_polarityPacket]
    decide
  unfold Command.packets Command.frameBytes
  cases hset : c.opcodeSet
  · exact not_decodes_raw hfit hlen (by decide : ¬ wire.Special MsgCode.transmitEom) hh
      (by simp [wireBytes, hset]; rfl) []
  · exact not_decodes_raw hfit hlen (by decide : ¬ wire.Special MsgCode.transmit) hh
      (by simp [wireBytes, hset]; rfl) _

/-- An opcode that is a mark is pushed as it is, right after the header. -/
theorem not_decodes_opcode {c : Command} (hh : ¬ wire.Special c.header) (hset : c.opcodeSet)
    (ho : wire.Special c.opcode) : ¬ Decodes ((wireBytes c).take maxMsgSize) c.packets := by
  have hcode : ¬ wire.Special MsgCode.transmit := by decide
  have hfit : ∀ p ∈ [c.polarityPacket, [MsgCode.transmit, c.header]], p.length + 2 ≤ maxMsgSize := by
    intro p hp
    simp only [List.mem_cons, List.not_mem_nil, or_false] at hp
    rcases hp with rfl | rfl <;> exact Nat.le_of_ble_eq_true rfl
  have hlen : ([c.polarityPacket, [MsgCode.transmit, c.header]].flatMap wire.frame).length + 4
      ≤ maxMsgSize := by
    rw [List.flatMap_cons, List.flatMap_singleton, List.length_append, length_polarityPacket,
      length_frame_pair hcode, if_neg (mt (wire_special_iff _).mpr hh)]
    decide
  have hbytes : wireBytes c = [c.polarityPacket, [MsgCode.transmit, c.header]].flatMap wire.frame ++
      (rawPacket (if c.parameters.toList = [] then MsgCode.transmitEom else MsgCode.transmit) c.opcode
        ++ (transmitPackets c.parameters.toList).flatMap wire.frame) := by
    rw [wireBytes, if_pos hset, if_pos hset, rawPacket_plain hcode hh, List.flatMap_cons,
      List.flatMap_singleton, List.append_assoc]
  rw [Command.packets, Command.frameBytes, if_pos hset]
  exact not_decodes_raw hfit hlen (transmitCode_plain _) ho hbytes (transmitPackets _)

/-- The byte stream of a command decodes to the packets that were meant iff the command is
    encodable. -/
theorem ofCommand_decodes_iff (c : Command) (lineTimeout : UInt8) :
    Decodes (AdapterMessage.ofCommand c lineTimeout).bytes c.packets ↔ Encodable c := by
  have hmark : ∀ b : UInt8, ¬ wire.Special b ↔ b < msgEsc := fun b => by
    rw [wire_special_iff, UInt8.not_le]
  rw [AdapterMessage.bytes_ofCommand]
  by_cases hh : wire.Special c.header
  · exact iff_of_false (not_decodes_header hh) fun h => (hmark _).mpr h.header hh
  by_cases ho : c.opcodeSet ∧ wire.Special c.opcode
  · exact iff_of_false (not_decodes_opcode hh ho.1 ho.2) fun h => (hmark _).mpr (h.opcode ho.1) ho.2
  · -- all packets are frames, and arrive unless the buffer cuts them off
    rw [wireBytes_plain hh fun hset hs => ho ⟨hset, hs⟩, decodes_iff,
      Receiver.run_frames_take wire fun p hp => length_of_mem_packets hp, length_packets]
    exact ⟨fun h => ⟨(hmark _).mp hh, fun hset => (hmark _).mp fun hs => ho ⟨hset, hs⟩, h⟩,
      fun h => h.fits⟩

/-- The message `ABORT` from recorder 1 to the TV. -/
def abortToTv : Command :=
  { Command.clear with initiator := .addr 1, destination := .tv, opcode := 0xFF, opcodeSet := true }

/-- Its opcode is a mark, and the packet that carries it is lost. -/
theorem abortToTv_not_decodes :
    ¬ Decodes (AdapterMessage.ofCommand abortToTv 3).bytes abortToTv.packets := by
  decide

end CEC
