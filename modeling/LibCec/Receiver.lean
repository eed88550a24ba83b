import LibCec.AdapterMessage
import LibCec.Schemes.ByteStuffing

/-! Receiving bytes from the adapter (`CCECAdapterMessageQueue::AddData`).

    The read thread feeds every byte to the incoming message and hands the message over whenever
    `PushReceivedByte` says it is complete. `MSGSTART` restarts a message that already begins with
    `MSGSTART`; it does not restart one that begins with anything else, and it does not forget a
    pending escape. `addData_run` connects the code with the byte-stuffing receiver of
    `Schemes.ByteStuffing`; `delivers_iff` says from which states the next frame gets through. -/

namespace CEC
open Schemes

/-- The marks of the adapter protocol; a mark is escaped by subtracting `ESCOFFSET`. -/
def wire : Framing UInt8 where
  start := msgStart
  stop := msgEnd
  esc := msgEsc
  stuff :=
    { toFun := fun byte => byte - escOffset
      invFun := fun byte => byte + escOffset
      left_inv := fun byte => UInt8.sub_add_cancel byte escOffset
      right_inv := fun byte => UInt8.add_sub_cancel byte escOffset }
  start_ne_stop := by decide
  start_ne_esc := by decide
  stop_ne_esc := by decide
  stuff_plain := by rintro a (rfl | rfl | rfl) <;> decide
  stuff_ne := fun byte h =>
    absurd (UInt8.left_eq_add.mp (UInt8.sub_eq_iff_eq_add.mp h)) (by decide)

@[simp] theorem wire_start : wire.start = msgStart := rfl

@[simp] theorem wire_stop : wire.stop = msgEnd := rfl

@[simp] theorem wire_esc : wire.esc = msgEsc := rfl

@[simp] theorem wire_stuff (b : UInt8) : wire.stuff b = b - escOffset := rfl

@[simp] theorem wire_unstuff (b : UInt8) : wire.stuff.symm b = b + escOffset := rfl

/-- The bytes from `MSGESC` on are the marks. -/
theorem wire_special_iff (b : UInt8) : wire.Special b ↔ msgEsc ≤ b := by
  rw [Framing.Special, UInt8.le_iff_toNat_le, ← UInt8.toNat_inj, ← UInt8.toNat_inj,
    ← UInt8.toNat_inj]
  have hb := b.toNat_lt
  have hstart : msgStart.toNat = 255 := rfl
  have hend : msgEnd.toNat = 254 := rfl
  have hesc : msgEsc.toNat = 253 := rfl
  simp only [wire_start, wire_stop, wire_esc]
  omega

namespace AdapterMessage

/-! ### What the pushes do to the buffer -/

@[simp] theorem txData_clear : clear.txData = .empty := rfl

@[simp] theorem txData_pushBack (m : AdapterMessage) (b : UInt8) :
    (m.pushBack b).txData = m.txData.push b := rfl

@[simp] theorem nextByteIsEscaped_pushBack (m : AdapterMessage) (b : UInt8) :
    (m.pushBack b).nextByteIsEscaped = m.nextByteIsEscaped := rfl

theorem txData_pushEscaped (m : AdapterMessage) (b : UInt8) :
    (m.pushEscaped b).txData = m.txData.pushAll (wire.escapeOne b) := by
  unfold pushEscaped
  by_cases h : b ≥ msgEsc
  · rw [if_pos h, wire.escapeOne_special ((wire_special_iff b).mpr h)]
    simp
  · rw [if_neg h, wire.escapeOne_plain (mt (wire_special_iff b).mp h)]
    rfl

/-! ### The incoming message as a receiver -/

/-- What of the incoming message decides how the next byte is taken in. -/
def toReceiver (m : AdapterMessage) : Receiver UInt8 maxMsgSize := ⟨m.txData, m.nextByteIsEscaped⟩

@[simp] theorem toReceiver_clear : clear.toReceiver = .empty := rfl

theorem hasStartMessage_eq (m : AdapterMessage) :
    m.hasStartMessage = m.toReceiver.hasStart wire := by
  obtain ⟨⟨tx, htx⟩, _⟩ := m
  cases tx with
  | nil => rfl
  | cons x t =>
    simp [hasStartMessage, size, byteAt, BoundedBuffer.size, toReceiver, Receiver.hasStart,
      Bool.beq_eq_decide_eq]

/-- `PushReceivedByte` feeds the receiver. -/
theorem toReceiver_pushReceivedByte (m : AdapterMessage) (b : UInt8) :
    (m.pushReceivedByte b).1.toReceiver = m.toReceiver.feed wire b := by
  unfold pushReceivedByte Receiver.feed
  rw [← hasStartMessage_eq]
  by_cases hs : b = msgStart
  · cases hm : m.hasStartMessage <;> simp [hs, toReceiver, Receiver.empty, clear]
  · cases hp : m.nextByteIsEscaped
    · by_cases he : b = msgEsc
      · have hne : msgEsc ≠ msgStart := by decide
        simp [toReceiver, he, hp, hne]
      · simp [toReceiver, hs, he, hp, pushBack]
    · simp [toReceiver, hs, hp]

/-! ### The received stream -/

/-- `AddData`: the incoming message afterwards, and the messages handed to `MessageReceived`. -/
def addData (m : AdapterMessage) : List UInt8 → AdapterMessage × List AdapterMessage
  | [] => (m, [])
  | byte :: data =>
    let r := m.pushReceivedByte byte
    if r.2 then
      -- a full message was received
      let s := addData clear data
      (s.1, r.1 :: s.2)
    else addData r.1 data

/-- The bytes of a message. -/
def bytes (m : AdapterMessage) : List UInt8 := m.txData.toList

/-- `AddData` runs the receiver. -/
theorem addData_run : ∀ (data : List UInt8) (m : AdapterMessage),
    ((m.addData data).1.toReceiver, (m.addData data).2.map bytes) = m.toReceiver.run wire data
  | [], _ => rfl
  | b :: data, m => by
    have hfeed := toReceiver_pushReceivedByte m b
    rw [Receiver.run_cons]
    by_cases h : b = msgEnd
    · have hfull : (m.pushReceivedByte b).2 = true := by simp [pushReceivedByte, h]
      have ih := addData_run data clear
      subst h
      rw [← wire_stop, Receiver.accept_stop, wire_stop, ← hfeed, ← toReceiver_clear, ← ih]
      simp only [addData, hfull, if_true]
      rfl
    · have hfull : (m.pushReceivedByte b).2 = false := by simp [pushReceivedByte, h]
      have ih := addData_run data (m.pushReceivedByte b).1
      rw [Receiver.accept_of_ne_stop wire _ h, ← hfeed, ← ih]
      simp [addData, hfull]

/-! ### Resynchronisation -/

/-- The next well-formed frame is handed over as exactly one message, equal to
    `MSGSTART, payload, MSGEND`. -/
def Delivers (m : AdapterMessage) (payload : List UInt8) : Prop :=
  (m.addData (wire.frame payload)).2.map bytes = [wire.delimited payload]

instance (m : AdapterMessage) (payload : List UInt8) : Decidable (m.Delivers payload) :=
  inferInstanceAs (Decidable (_ = _))

/-- Nothing of the incoming message survives a `MSGSTART`: either it begins with one already, or
    there is nothing in it and no escape is pending. -/
def StartsAfresh (m : AdapterMessage) : Prop :=
  m.hasStartMessage ∨ (m.isEmpty ∧ ¬ m.nextByteIsEscaped)

theorem startsAfresh_iff (m : AdapterMessage) : m.StartsAfresh ↔ m.toReceiver.Ready wire := by
  have hempty : m.isEmpty = true ↔ m.txData.toList = [] := by
    simp [isEmpty, size, BoundedBuffer.size]
  rw [StartsAfresh, Receiver.Ready, ← hasStartMessage_eq, hempty, Bool.not_eq_true]
  rfl

/-- From whatever state, the next frame gets through iff that state starts afresh. -/
theorem delivers_iff (m : AdapterMessage) {payload : List UInt8}
    (hfit : payload.length + 2 ≤ maxMsgSize) : m.Delivers payload ↔ m.StartsAfresh := by
  have hrun := addData_run (wire.frame payload) m
  rw [startsAfresh_iff, ← Receiver.run_frame_iff wire hfit, ← hrun]
  rfl

/-- After any bytes, the next frame gets through iff the incoming message they leave behind
    starts afresh. -/
theorem resync_iff (history payload : List UInt8) (hfit : payload.length + 2 ≤ maxMsgSize) :
    (clear.addData history).1.Delivers payload ↔ (clear.addData history).1.StartsAfresh :=
  delivers_iff _ hfit

theorem resync_iff_noise :
    (clear.addData [0x01]).1.Delivers [0x08, 0x0B] ↔ (clear.addData [0x01]).1.StartsAfresh :=
  resync_iff [0x01] [0x08, 0x0B] (by decide)

/-- One noise byte before the first `MSGSTART` is handed over as part of the frame. -/
theorem resync_fails_after_noise : ([0x08, 0x0B] : List UInt8).length + 2 ≤ maxMsgSize ∧
    ¬ (clear.addData [0x01]).1.Delivers [0x08, 0x0B] := by
  decide

/-- A receiver that has just delivered a message starts afresh: from here on, frames that follow
    each other without noise all get through. -/
theorem addData_frames {ps : List (List UInt8)} (hfit : ∀ p ∈ ps, p.length + 2 ≤ maxMsgSize) :
    (clear.addData (ps.flatMap wire.frame)).2.map bytes = ps.map wire.delimited := by
  have hrun := addData_run (ps.flatMap wire.frame) clear
  rw [toReceiver_clear, Receiver.run_frames wire ps hfit] at hrun
  exact congrArg Prod.snd hrun

end AdapterMessage

end CEC
