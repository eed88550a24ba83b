import LibCec.MessageQueue
import LibCec.Transmission

/-! How many acknowledgements a transmission waits for (`m_iPacketsLeft`).

    The adapter accepts every packet of a transmission, and reports at the end that the
    transmission succeeded. The queue entry counts the accepted packets down from a quarter of the
    bytes of the message.

        packetsLeft ──accepted──▶ packetsLeft - 1 ──accepted──▶ … ──▶ 0 ──succeeded──▶ sentAcked
             └──────────────────succeeded too early──────────────────────────────────▶ error

    A packet is four bytes, and five when its parameter is escaped. The quarter is the number of
    packets as long as the escapes do not add up to a packet, and is more than that otherwise. -/

namespace CEC
open Schemes

/-! ### The messages that an entry receives -/

namespace QueueEntry

/-- The entry after the messages were received, in this order. -/
def run (extended : Bool) (e : QueueEntry) (msgs : List AdapterMessage) : QueueEntry :=
  msgs.foldl (fun e msg => (e.messageReceived extended msg).entry) e

theorem run_cons (extended : Bool) (e : QueueEntry) (msg : AdapterMessage)
    (msgs : List AdapterMessage) :
    e.run extended (msg :: msgs) = (e.messageReceived extended msg).entry.run extended msgs := rfl

theorem run_append (extended : Bool) (e : QueueEntry) (msgs more : List AdapterMessage) :
    e.run extended (msgs ++ more) = (e.run extended msgs).run extended more := List.foldl_append

/-- What is not counted and not sent anew decides what is a response. -/
theorem isResponse_packetsLeft (extended : Bool) (e : QueueEntry) (n : ℕ) (msg : AdapterMessage) :
    ({ e with packetsLeft := n } : QueueEntry).isResponse extended msg = e.isResponse extended msg :=
  rfl

/-- A transmission that waits for packets only counts an acceptance. -/
theorem accepted_transmission {e : QueueEntry} (ht : e.message.isTransmission)
    (hleft : 0 < e.packetsLeft) (msg : AdapterMessage) :
    (e.messageReceivedCommandAccepted msg).entry = { e with packetsLeft := e.packetsLeft - 1 } := by
  simp [messageReceivedCommandAccepted, hleft, ht]

/-- One message for a transmission that waits for packets: it stays a transmission, an acceptance
    counts for at most one packet, and the transmission is not acknowledged. -/
theorem messageReceived_waiting (extended : Bool) {e : QueueEntry} (msg : AdapterMessage)
    (ht : e.message.isTransmission) (hs : e.message.state ≠ .sentAcked) (hleft : 0 < e.packetsLeft) :
    (e.messageReceived extended msg).entry.message.isTransmission ∧
      (e.messageReceived extended msg).entry.message.state ≠ .sentAcked ∧
      e.packetsLeft ≤ (e.messageReceived extended msg).entry.packetsLeft +
        if msg.message = MsgCode.commandAccepted then 1 else 0 := by
  unfold messageReceived
  by_cases hr : e.isResponse extended msg
  swap
  · rw [if_neg hr]
    exact ⟨ht, hs, Nat.le_add_right _ _⟩
  rw [if_pos hr]
  by_cases ha : msg.message = MsgCode.commandAccepted
  · rw [if_pos ha, if_pos ha, accepted_transmission ht hleft]
    exact ⟨ht, hs, by simp only; omega⟩
  rw [if_neg ha, if_neg ha]
  by_cases hsucc : msg.message = MsgCode.transmitSucceeded
  · -- too early, which is an error
    rw [if_pos hsucc, messageReceivedTransmitSucceeded, if_neg (by omega)]
    exact ⟨ht, MessageState.noConfusion, le_rfl⟩
  · rw [if_neg hsucc, messageReceivedResponse, if_pos ht, if_neg hsucc]
    exact ⟨ht, MessageState.noConfusion, le_rfl⟩

/-- With fewer acceptances than packets, no run of messages acknowledges a transmission. -/
theorem run_waiting (extended : Bool) : ∀ (msgs : List AdapterMessage) {e : QueueEntry},
    e.message.isTransmission → e.message.state ≠ .sentAcked →
    msgs.countP (·.message = MsgCode.commandAccepted) < e.packetsLeft →
    (e.run extended msgs).message.state ≠ .sentAcked
  | [], _, _, hs, _ => hs
  | msg :: msgs, e, ht, hs, hcount => by
    obtain ⟨ht', hs', hleft⟩ := messageReceived_waiting extended msg ht hs (Nat.zero_lt_of_lt hcount)
    rw [List.countP_cons] at hcount
    simp only [decide_eq_true_eq] at hcount
    rw [run_cons]
    exact run_waiting extended msgs ht' hs' (by omega)

/-- As many acceptances as there are packets leave nothing to wait for. -/
theorem run_accepted (extended : Bool) : ∀ (accepted : List AdapterMessage) {e : QueueEntry},
    e.message.isTransmission → accepted.length ≤ e.packetsLeft →
    (∀ m ∈ accepted, m.message = MsgCode.commandAccepted ∧ e.isResponse extended m) →
    e.run extended accepted = { e with packetsLeft := e.packetsLeft - accepted.length }
  | [], _, _, _, _ => rfl
  | msg :: accepted, e, ht, hlen, hall => by
    rw [List.length_cons] at hlen
    obtain ⟨ha, hr⟩ := hall msg List.mem_cons_self
    have hstep : (e.messageReceived extended msg).entry
        = { e with packetsLeft := e.packetsLeft - 1 } := by
      rw [messageReceived, if_pos hr, if_pos ha, accepted_transmission ht (by omega)]
    have hrest : ∀ m ∈ accepted, m.message = MsgCode.commandAccepted ∧
        ({ e with packetsLeft := e.packetsLeft - 1 } : QueueEntry).isResponse extended m :=
      fun m hm => hall m (List.mem_cons_of_mem msg hm)
    have htail := run_accepted extended accepted
      (e := { e with packetsLeft := e.packetsLeft - 1 }) ht (by simp only; omega) hrest
    rw [run_cons, hstep, htail, List.length_cons, Nat.sub_sub, Nat.add_comm]

/-- The report of a success, when nothing is left to wait for and before. -/
theorem state_succeeded {extended : Bool} {e : QueueEntry} {msg : AdapterMessage}
    (hr : e.isResponse extended msg) (hm : msg.message = MsgCode.transmitSucceeded) :
    (e.messageReceived extended msg).entry.message.state =
      if e.packetsLeft = 0 then .sentAcked else .error := by
  have hne : ¬ msg.message = MsgCode.commandAccepted := by
    rw [hm]
    decide
  rw [messageReceived, if_pos hr, if_neg hne, if_pos hm, messageReceivedTransmitSucceeded]
  split <;> rfl

end QueueEntry

/-! ### The length of a transmission -/

namespace Command

/-- `cec_command::Size`. -/
def size (c : Command) : ℕ := c.parameters.size + (if c.opcodeSet then 1 else 0) + 1

/-- The parameters that are escaped. -/
def escapedParameters (c : Command) : ℕ :=
  if c.opcodeSet then c.parameters.toList.countP (msgEsc ≤ ·) else 0

theorem length_frameBytes_le_size (c : Command) : c.frameBytes.length ≤ c.size := by
  unfold frameBytes size BoundedBuffer.size
  cases c.opcodeSet <;> simp

end Command

theorem length_rawPacket (code b : UInt8) : (rawPacket code b).length = 4 := rfl

theorem length_wireBytes (c : Command) :
    (wireBytes c).length = 4 * (c.frameBytes.length + 1) + c.escapedParameters := by
  unfold wireBytes Command.frameBytes Command.escapedParameters
  cases c.opcodeSet
  · simp [length_polarityPacket, length_rawPacket]
  · simp only [if_true, List.length_append, List.length_cons, length_polarityPacket,
      length_rawPacket, length_transmitPackets]
    omega

theorem length_transmitPackets_list : ∀ bs : List UInt8, (transmitPackets bs).length = bs.length
  | [] => rfl
  | b :: bs => by rw [transmitPackets, List.length_cons, length_transmitPackets_list bs, List.length_cons]

/-- There is one packet for the polarity and one for each byte of the frame. -/
theorem packetCount_wireBytes (c : Command) :
    wire.packetCount false (wireBytes c) = c.frameBytes.length + 1 := by
  have hraw : ∀ (code b : UInt8), ¬ wire.Special code → ∀ rest : List UInt8,
      wire.packetCount false (rawPacket code b ++ rest) = wire.packetCount false rest + 1 :=
    fun code b hc rest => wire.packetCount_raw hc false b rest
  unfold wireBytes Command.frameBytes
  rw [wire.packetCount_frame]
  cases c.opcodeSet
  · rw [hraw _ _ (by decide)]
    rfl
  · have hframes := wire.packetCount_frames [] (transmitPackets c.parameters.toList)
    rw [List.append_nil, length_transmitPackets_list] at hframes
    rw [if_pos rfl, if_pos rfl, if_pos rfl, hraw _ _ (by decide), hraw _ _ (transmitCode_plain _),
      hframes]
    simp [Framing.packetCount]

/-! ### The count -/

/-- The entry of a transmission that was written. -/
def transmission (c : Command) (lineTimeout : UInt8) : QueueEntry :=
  .ofMessage { AdapterMessage.ofCommand c lineTimeout with state := .sent }

/-- The number of packets in the message of a command. -/
def packetsOf (c : Command) (lineTimeout : UInt8) : ℕ :=
  wire.packetCount false (AdapterMessage.ofCommand c lineTimeout).bytes

/-- The entry waits for as many acceptances as there are packets: so many and a success are an
    acknowledgement, and with fewer no messages are. -/
structure CountsPackets (c : Command) (lineTimeout : UInt8) : Prop where
  packetsLeft : (transmission c lineTimeout).packetsLeft = packetsOf c lineTimeout
  acked : ∀ (extended : Bool) (accepted : List AdapterMessage) (succeeded : AdapterMessage),
    accepted.length = packetsOf c lineTimeout →
    (∀ m ∈ accepted, m.message = MsgCode.commandAccepted ∧
      (transmission c lineTimeout).isResponse extended m) →
    succeeded.message = MsgCode.transmitSucceeded →
    (transmission c lineTimeout).isResponse extended succeeded →
    ((transmission c lineTimeout).run extended (accepted ++ [succeeded])).message.state = .sentAcked
  never : ∀ (extended : Bool) (msgs : List AdapterMessage),
    msgs.countP (·.message = MsgCode.commandAccepted) < packetsOf c lineTimeout →
    ((transmission c lineTimeout).run extended msgs).message.state ≠ .sentAcked

theorem bytes_sent (c : Command) (lineTimeout : UInt8) :
    (transmission c lineTimeout).message.txData.toList = (wireBytes c).take maxMsgSize :=
  AdapterMessage.bytes_ofCommand c lineTimeout

/-- The first packet of every message is the polarity, so it is a transmission. -/
theorem isTransmission_ofCommand (c : Command) (lineTimeout : UInt8) :
    (transmission c lineTimeout).message.isTransmission := by
  have hstart : ∃ rest, (transmission c lineTimeout).message.txData.toList
      = msgStart :: MsgCode.transmitAckPolarity :: rest := by
    rw [bytes_sent, wireBytes, Command.polarityPacket]
    split <;> exact ⟨_, rfl⟩
  obtain ⟨rest, hrest⟩ := hstart
  have hcode : (transmission c lineTimeout).message.message
      = AdapterMessage.codeOf MsgCode.transmitAckPolarity := by
    simp [AdapterMessage.message, AdapterMessage.size, BoundedBuffer.size, AdapterMessage.byteAt,
      hrest]
  rw [AdapterMessage.isTransmission, hcode]
  decide

theorem packetsLeft_transmission (c : Command) (lineTimeout : UInt8) :
    (transmission c lineTimeout).packetsLeft
      = min maxMsgSize (4 * (c.frameBytes.length + 1) + c.escapedParameters) / 4 := by
  have hleft : (transmission c lineTimeout).packetsLeft
      = (transmission c lineTimeout).message.size / 4 := by
    have ht := isTransmission_ofCommand c lineTimeout
    unfold transmission QueueEntry.ofMessage at ht ⊢
    rw [if_pos ht]
  rw [hleft, AdapterMessage.size, BoundedBuffer.size, bytes_sent, List.length_take,
    length_wireBytes]

/-- The buffer may cut a packet off, and adds none. -/
theorem packetsOf_le (c : Command) (lineTimeout : UInt8) :
    packetsOf c lineTimeout ≤ c.frameBytes.length + 1 := by
  rw [packetsOf, AdapterMessage.bytes_ofCommand, ← packetCount_wireBytes]
  exact wire.packetCount_take_le _ _ _

/-- A message that fits the buffer has all of its packets. -/
theorem packetsOf_fits {c : Command} (lineTimeout : UInt8)
    (h : 4 * (c.frameBytes.length + 1) + c.escapedParameters ≤ maxMsgSize) :
    packetsOf c lineTimeout = c.frameBytes.length + 1 := by
  rw [packetsOf, AdapterMessage.bytes_ofCommand, List.take_of_length_le, packetCount_wireBytes]
  rwa [length_wireBytes]

/-- A frame has at most 16 bytes, so 17 packets, and only the escapes can fill the buffer. -/
theorem packetsLeft_eq_iff {c : Command} (lineTimeout : UInt8) (h : c.size ≤ 16) :
    (transmission c lineTimeout).packetsLeft = packetsOf c lineTimeout ↔
      c.escapedParameters ≤ 3 := by
  have hmax : maxMsgSize = 72 := rfl
  have hframe := c.length_frameBytes_le_size
  have hle := packetsOf_le c lineTimeout
  rw [packetsLeft_transmission]
  by_cases hfit : 4 * (c.frameBytes.length + 1) + c.escapedParameters ≤ maxMsgSize
  · rw [packetsOf_fits lineTimeout hfit]
    omega
  · constructor <;> omega

/-- The count is the number of packets, and works as such, iff at most three parameters of the
    command are escaped. -/
theorem countsPackets_iff (c : Command) (lineTimeout : UInt8) (h : c.size ≤ 16) :
    CountsPackets c lineTimeout ↔ c.escapedParameters ≤ 3 := by
  have ht := isTransmission_ofCommand c lineTimeout
  constructor
  · exact fun hcount => (packetsLeft_eq_iff lineTimeout h).mp hcount.packetsLeft
  · intro hfew
    have hleft := (packetsLeft_eq_iff lineTimeout h).mpr hfew
    refine ⟨hleft, ?_, ?_⟩
    · intro extended accepted succeeded hlen hall hsucc hr
      rw [QueueEntry.run_append,
        QueueEntry.run_accepted extended accepted ht (hlen.le.trans hleft.ge) hall]
      refine (QueueEntry.state_succeeded ?_ hsucc).trans (if_pos ?_)
      · rwa [QueueEntry.isResponse_packetsLeft]
      · simp only [hlen, hleft, Nat.sub_self]
    · intro extended msgs hcount
      exact QueueEntry.run_waiting extended msgs ht MessageState.noConfusion (hleft ▸ hcount)

/-- A vendor command to the TV with these parameters. -/
def vendorCommandOf (parameters : List UInt8) : Command :=
  { Command.clear with
    initiator := .addr 1, destination := .tv, opcode := 0x89, opcodeSet := true,
    parameters := BoundedBuffer.empty.pushAll parameters }

/-- Three parameters that are escaped do no harm. -/
theorem countsPackets_three : CountsPackets (vendorCommandOf [0xFF, 0xFE, 0xFD]) 3 :=
  (countsPackets_iff (vendorCommandOf [0xFF, 0xFE, 0xFD]) 3 (by decide)).mpr (by decide)

/-- With four there are seven packets, and the entry waits for eight acceptances. -/
theorem packetsLeft_of_four_escapes :
    ¬ ∀ (c : Command) (lineTimeout : UInt8), c.size ≤ 16 → CountsPackets c lineTimeout := fun h =>
  absurd (h (vendorCommandOf [0xFF, 0xFF, 0xFF, 0xFF]) 3 (by decide)).packetsLeft (by decide +kernel)

end CEC
