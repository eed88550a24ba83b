import LibCec.Bus
import LibCec.CommandFormat
import LibCec.Receiver
import LibCec.TransmitRetries

/-! The places of `m_bWaitingForAck`, the array of fifteen flags of the polls that wait for an
    acknowledgement.

    Two functions take a logical address as a place in it, both after the test
    `address < CECDEVICE_BROADCAST`, which the unknown address `-1` passes as well:

        CECProcessor::Transmit ──▶ Write ──▶ MarkAsWaiting(destination of the command)
        AddData ──▶ MessageReceived ──▶ HandlePoll(destination of the message)

    A message that was received has a destination. A command has one unless whoever built it left it
    out: `Transmit` turns a command away when both of its addresses are unknown, or its initiator. -/

namespace CEC
open Schemes

/-- The number that `cec_logical_address` gives an address. -/
def LogicalAddress.toInt : LogicalAddress → ℤ
  | unknown => -1
  | addr a => a.val

/-- The place in `m_bWaitingForAck` that is used behind the test of an address. -/
def waitingIndex (a : LogicalAddress) : List ℤ :=
  if a.toInt < LogicalAddress.broadcast.toInt then [a.toInt] else []

/-- The array has this place. -/
def InRange (i : ℤ) : Prop := 0 ≤ i ∧ i ≤ 14

instance (i : ℤ) : Decidable (InRange i) := inferInstanceAs (Decidable (_ ∧ _))

/-- The place is one of the array iff the address is known. -/
theorem inRange_waitingIndex_iff (a : LogicalAddress) :
    (∀ i ∈ waitingIndex a, InRange i) ↔ a.IsKnown := by
  cases a with
  | unknown => simp [waitingIndex, LogicalAddress.toInt, InRange, LogicalAddress.IsKnown]
  | addr a =>
    have ha := a.isLt
    refine iff_of_true (fun i hi => ?_) (by simp [LogicalAddress.IsKnown])
    obtain ⟨hlt, rfl⟩ : ((a.val : ℤ) < 15) ∧ i = a.val := by
      simpa [waitingIndex, LogicalAddress.toInt] using hi
    exact ⟨by omega, by omega⟩

/-! ### `Transmit` -/

/-- `SupportsSourceLogicalAddress` of the Pulse-Eight adapter. -/
def usbSupportsSource (_ : LogicalAddress) : Bool := true

/-- `IsHandledByLibCEC` of the device at an address; there is none at the unknown one. -/
def World.isHandledAt (w : World) : LogicalAddress → Bool
  | .unknown => false
  | .addr a => w.isHandled a

/-- `CCECProcessor::Transmit` up to its loop: the command that it hands to the adapter, unless it
    turns it away. -/
def admitted (w : World) (communication : Bool) (data : Command) : Option Command :=
  if data.initiator = .unknown ∧ data.destination = .unknown then none
  else if !communication then none
  else if !usbSupportsSource data.initiator then none
  -- there is no device at the unknown address
  else if data.initiator = .unknown then none
  else if data.destination ≠ .broadcast ∧ w.isHandledAt data.destination then none
  else some data

/-- What the loop of `Transmit` meets, and whether the reader of the adapter runs at each write. -/
structure TransmitRun where
  communication : Bool
  iTransmitRetries : Int8
  iStandardLineTimeout : UInt8
  iRetryLineTimeout : UInt8
  bIsReply : Bool
  passes : ℕ → TransmitPass
  running : ℕ → Bool

/-- `MarkAsWaiting` in the write of this number; a write ends at once when the reader doesn't run. -/
def TransmitRun.markAsWaiting (r : TransmitRun) (data : Command) (n : ℕ) : List ℤ :=
  if r.running n then waitingIndex data.destination else []

/-- The places that `Transmit` of a command uses, one write after the other. -/
def TransmitRun.indices (r : TransmitRun) (w : World) (data : Command) : Option (List ℤ) :=
  match admitted w r.communication data with
  | none => some []
  | some data =>
    (transmitTries r.iTransmitRetries r.iStandardLineTimeout r.iRetryLineTimeout r.bIsReply
      r.passes).map fun result =>
        (List.range result.2.length).flatMap (r.markAsWaiting data)

/-- The writes that there is cause for. -/
def TransmitRun.writes (r : TransmitRun) : List TransmitWrite :=
  writesOf r.iRetryLineTimeout (firstPasses (getTransmitRetries r.iTransmitRetries) r.passes)
    r.iStandardLineTimeout

/-- The command is turned away, or the reader of the adapter runs at none of its writes. -/
def TransmitRun.Withheld (r : TransmitRun) (w : World) (data : Command) : Prop :=
  admitted w r.communication data = none ∨ ∀ n < r.writes.length, r.running n = false

/-- `Transmit` hands on the command as it is, or not at all. -/
theorem admitted_eq {w : World} {communication : Bool} {data data' : Command}
    (h : admitted w communication data = some data') : data' = data := by
  unfold admitted at h
  split_ifs at h
  exact (Option.some.inj h).symm

theorem indices_eq (r : TransmitRun) (w : World) (data : Command) :
    r.indices w data = some (if (admitted w r.communication data).isSome then
      (List.range r.writes.length).flatMap (r.markAsWaiting data) else []) := by
  obtain ⟨b, hb⟩ := @transmitTries_eq r.iRetryLineTimeout r.bIsReply r.passes r.iTransmitRetries
    r.iStandardLineTimeout
  unfold TransmitRun.indices
  cases hdata : admitted w r.communication data with
  | none => rfl
  | some data' =>
    obtain rfl := admitted_eq hdata
    simp only [hb, Option.map_some, Option.isSome_some, if_true]
    rfl

/-- The places that the writes of a command use are places of the array iff its destination is
    known, or nothing is written. -/
theorem indices_inRange_iff (r : TransmitRun) (w : World) (data : Command) :
    (∃ is, r.indices w data = some is ∧ ∀ i ∈ is, InRange i) ↔
      data.destination.IsKnown ∨ r.Withheld w data := by
  simp only [indices_eq, Option.some.injEq, exists_eq_left', ← inRange_waitingIndex_iff]
  cases hdata : admitted w r.communication data with
  | none => simp [TransmitRun.Withheld, hdata]
  | some data' =>
    simp only [Option.isSome_some, if_true, TransmitRun.Withheld, hdata, reduceCtorEq, false_or,
      List.mem_flatMap, List.mem_range]
    constructor
    · intro h
      by_cases hruns : ∀ n < r.writes.length, r.running n = false
      · exact .inr hruns
      · push Not at hruns
        obtain ⟨n, hn, hrunning⟩ := hruns
        refine .inl fun i hi => h i ⟨n, hn, ?_⟩
        rwa [TransmitRun.markAsWaiting, if_pos (by simpa using hrunning)]
    · rintro (hknown | hruns) i ⟨n, hn, hi⟩
      · unfold TransmitRun.markAsWaiting at hi
        split at hi
        · exact hknown i hi
        · exact absurd hi List.not_mem_nil
      · rw [TransmitRun.markAsWaiting, hruns n hn] at hi
        exact absurd hi List.not_mem_nil

/-! ### `HandlePoll` -/

namespace AdapterMessage

/-- The place that `HandlePoll` of a message uses. -/
def pollIndices (msg : AdapterMessage) : List ℤ :=
  if msg.message = MsgCode.frameStart ∧ msg.isAck then waitingIndex msg.destination else []

/-- The byte that ends a message, as it is or unescaped, is not the code of the start of a frame. -/
theorem txData_pushReceivedByte_end (m : AdapterMessage) : ∃ b, codeOf b ≠ MsgCode.frameStart ∧
    (m.pushReceivedByte msgEnd).1.txData = m.txData.push b := by
  have hstart : msgEnd ≠ msgStart := by decide
  have hesc : msgEnd ≠ msgEsc := by decide
  unfold pushReceivedByte
  rw [if_neg hstart, if_neg hesc]
  split
  · exact ⟨msgEnd + escOffset, by decide, rfl⟩
  · exact ⟨msgEnd, by decide, rfl⟩

/-- A complete message that starts a frame has a byte after its code. -/
theorem size_of_frameStart {m : AdapterMessage}
    (h : (m.pushReceivedByte msgEnd).1.message = MsgCode.frameStart) :
    3 ≤ (m.pushReceivedByte msgEnd).1.size := by
  obtain ⟨b, hb, htx⟩ := m.txData_pushReceivedByte_end
  by_contra hsize
  rw [Nat.not_le] at hsize
  unfold message at h
  split at h
  · next h2 =>
    -- its second byte is the one that ended it
    have hlen : (m.pushReceivedByte msgEnd).1.size = m.txData.toList.length + 1 := by
      unfold size BoundedBuffer.size at hsize ⊢
      rw [htx, BoundedBuffer.toList_push] at hsize ⊢
      rw [List.length_take, List.length_append, List.length_singleton] at hsize ⊢
      have hmax : maxMsgSize = 72 := rfl
      omega
    have hone : m.txData.toList.length = 1 := by omega
    have hroom : m.txData.toList.length < maxMsgSize := by rw [hone]; decide
    rw [byteAt, htx, BoundedBuffer.toList_push_of_lt hroom, ← hone] at h
    simp only [List.getD_eq_getElem?_getD, List.getElem?_concat_length, Option.getD_some] at h
    exact hb h
  · exact absurd h (by decide)

/-- Every message that `AddData` hands over was ended by `MSGEND`. -/
theorem ended_of_mem_addData : ∀ {data : List UInt8} {m msg : AdapterMessage},
    msg ∈ (m.addData data).2 → ∃ m' : AdapterMessage, msg = (m'.pushReceivedByte msgEnd).1
  | [], _, _, h => absurd h List.not_mem_nil
  | byte :: data, m, msg, h => by
    unfold addData at h
    dsimp only at h
    split at h
    · next hfull =>
      have hbyte : byte = msgEnd := by simpa [pushReceivedByte] using hfull
      rcases List.mem_cons.mp h with hmsg | hlater
      · exact ⟨m, by rw [hmsg, hbyte]⟩
      · exact ended_of_mem_addData hlater
    · next hmore => exact ended_of_mem_addData h

/-- `HandlePoll` of a message that was received uses a place of the array. -/
theorem pollIndices_inRange {data : List UInt8} {m msg : AdapterMessage}
    (h : msg ∈ (m.addData data).2) : ∀ i ∈ msg.pollIndices, InRange i := by
  obtain ⟨m', rfl⟩ := ended_of_mem_addData h
  unfold pollIndices
  split
  · next hstart =>
    rw [inRange_waitingIndex_iff, destination, if_pos (size_of_frameStart hstart.1)]
    simp [LogicalAddress.IsKnown, LogicalAddress.ofLow]
  · exact fun i hi => absurd hi List.not_mem_nil

end AdapterMessage

/-- The places that a command and what the adapter receives use are places of the array iff the
    destination of the command is known or nothing is written. -/
theorem waitingForAck_inRange_iff (r : TransmitRun) (w : World) (data : Command)
    (received : List UInt8) (m : AdapterMessage) :
    ((∃ is, r.indices w data = some is ∧ ∀ i ∈ is, InRange i) ∧
        ∀ msg ∈ (m.addData received).2, ∀ i ∈ msg.pollIndices, InRange i) ↔
      data.destination.IsKnown ∨ r.Withheld w data := by
  -- a message that was received always has a destination
  rw [and_iff_left fun msg hmsg => AdapterMessage.pollIndices_inRange hmsg]
  exact indices_inRange_iff r w data

/-- The recording device asks the TV for its power status, and the TV polls the recording device. -/
theorem waitingForAck_inRange_poll :
    (∃ is, TransmitRun.indices ⟨true, 1, 3, 3, false, fun _ => .write .sentAcked false, fun _ => true⟩
        (.start (fun _ => .clear) fun _ => .silent) (Command.clear.pushArray [0x10, 0x8F]) = some is ∧
      ∀ i ∈ is, InRange i) ∧
    ∀ msg ∈ (AdapterMessage.clear.addData [0xFF, 0x45, 0x01, 0xFE]).2,
      ∀ i ∈ msg.pollIndices, InRange i :=
  (waitingForAck_inRange_iff _ _ _ _ _).mpr (.inl (by decide))

/-- The recording device asks for the active source, and nobody has set whom. -/
def withoutDestination : Command :=
  { Command.clear with initiator := .addr 1, opcode := 0x85, opcodeSet := true }

/-- The first write is acked. -/
def ackedAtOnce : TransmitRun := ⟨true, 1, 3, 3, false, fun _ => .write .sentAcked false, fun _ => true⟩

/-- The command is written, and the flag in front of the array is set. -/
theorem not_inRange : ¬ ∀ (r : TransmitRun) (w : World) (data : Command),
    ∃ is, r.indices w data = some is ∧ ∀ i ∈ is, InRange i := by
  intro h
  obtain ⟨is, his, hrange⟩ := h ackedAtOnce (.start (fun _ => .clear) fun _ => .silent)
    withoutDestination
  have hrun : ackedAtOnce.indices (.start (fun _ => .clear) fun _ => .silent) withoutDestination
      = some [-1] := by decide +kernel
  obtain rfl := Option.some.inj (hrun.symm.trans his)
  exact absurd (hrange (-1) (List.mem_singleton.mpr rfl)) (by decide)

end CEC
