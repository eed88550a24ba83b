import LibCec.Types

/-! The messages that travel between libCEC and the Pulse-Eight adapter
    (`CCECAdapterMessage`, `USBCECAdapterMessage.cpp`).

    A message is a buffer of 72 bytes for what is sent or received, a second one for the reply, and
    a few flags. Received bytes are unescaped on the way in. A message code is a byte, because the
    source casts the masked byte of the wire to `cec_adapter_messagecode`. -/

namespace CEC
open Schemes

/-! ### Codes and marks -/

/-- `cec_adapter_messagecode`. -/
abbrev MsgCode := UInt8

namespace MsgCode

def nothing : MsgCode := 0
def ping : MsgCode := 1
def timeoutError : MsgCode := 2
def highError : MsgCode := 3
def lowError : MsgCode := 4
def frameStart : MsgCode := 5
def frameData : MsgCode := 6
def receiveFailed : MsgCode := 7
def commandAccepted : MsgCode := 8
def commandRejected : MsgCode := 9
def setAckMask : MsgCode := 10
def transmit : MsgCode := 11
def transmitEom : MsgCode := 12
def transmitIdletime : MsgCode := 13
def transmitAckPolarity : MsgCode := 14
def transmitLineTimeout : MsgCode := 15
def transmitSucceeded : MsgCode := 16
def transmitFailedLine : MsgCode := 17
def transmitFailedAck : MsgCode := 18
def transmitFailedTimeoutData : MsgCode := 19
def transmitFailedTimeoutLine : MsgCode := 20
def startBootloader : MsgCode := 22
def setControlled : MsgCode := 24
def setAutoEnabled : MsgCode := 26
def setDefaultLogicalAddress : MsgCode := 28
def setLogicalAddressMask : MsgCode := 30
def setPhysicalAddress : MsgCode := 32
def setDeviceType : MsgCode := 34
def setHdmiVersion : MsgCode := 36
def setOsdName : MsgCode := 38
def writeEeprom : MsgCode := 39
def setActiveSource : MsgCode := 41
def setAutoPowerOn : MsgCode := 43
def frameEom : MsgCode := 0x80
def frameAck : MsgCode := 0x40

end MsgCode

/-- `MSGSTART`. -/
def msgStart : UInt8 := 0xFF

/-- `MSGEND`. -/
def msgEnd : UInt8 := 0xFE

/-- `MSGESC`. -/
def msgEsc : UInt8 := 0xFD

/-- `ESCOFFSET`. -/
def escOffset : UInt8 := 3

/-- `USBCEC_MAX_MSG_SIZE`. -/
abbrev maxMsgSize : ℕ := 18 * 4

/-- `cec_adapter_message_state`. -/
inductive MessageState where
  | unknown | waitingToBeSent | sent | sentNotAcked | sentAcked | incoming | error
  deriving DecidableEq

/-! ### The message -/

/-- `CCECAdapterMessage`. -/
structure AdapterMessage where
  txData : BoundedBuffer UInt8 maxMsgSize
  rxData : BoundedBuffer UInt8 maxMsgSize
  state : MessageState
  transmitTimeout : Int
  lineTimeout : UInt8
  fireAndForget : Bool
  nextByteIsEscaped : Bool
  deriving DecidableEq

namespace AdapterMessage

/-- `Clear`, and what the constructor without arguments leaves. -/
def clear : AdapterMessage where
  txData := .empty
  rxData := .empty
  state := .unknown
  transmitTimeout := defaultTransmitTimeout
  lineTimeout := 3
  fireAndForget := false
  nextByteIsEscaped := false

/-- `Size`. -/
def size (m : AdapterMessage) : ℕ := m.txData.size

/-- `At`: the byte at a position, or `0` when it is out of range. -/
def byteAt (m : AdapterMessage) (pos : ℕ) : UInt8 := m.txData.toList.getD pos 0

/-- `IsEmpty`. -/
def isEmpty (m : AdapterMessage) : Bool := m.size == 0

/-- `PushBack`: add a byte as it is. -/
def pushBack (m : AdapterMessage) (byte : UInt8) : AdapterMessage :=
  { m with txData := m.txData.push byte }

/-- `PushEscaped`: add a byte, escaped if needed. -/
def pushEscaped (m : AdapterMessage) (byte : UInt8) : AdapterMessage :=
  if byte ≥ msgEsc then (m.pushBack msgEsc).pushBack (byte - escOffset) else m.pushBack byte

/-- `HasStartMessage`. -/
def hasStartMessage (m : AdapterMessage) : Bool := 1 ≤ m.size && m.byteAt 0 == msgStart

/-- `PushReceivedByte`: the message with the byte taken in, and whether it is complete. -/
def pushReceivedByte (m : AdapterMessage) (byte : UInt8) : AdapterMessage × Bool :=
  let m' :=
    if byte = msgStart then
      (if m.hasStartMessage then clear else m).pushBack byte
    else if m.nextByteIsEscaped then
      { m.pushBack (byte + escOffset) with nextByteIsEscaped := false }
    else if byte = msgEsc then { m with nextByteIsEscaped := true }
    else m.pushBack byte
  (m', byte == msgEnd)

/-- The code in a byte, without the EOM and ACK flags. -/
def codeOf (byte : UInt8) : MsgCode := byte &&& ~~~(MsgCode.frameEom ||| MsgCode.frameAck)

/-- `Message`. -/
def message (m : AdapterMessage) : MsgCode :=
  if m.size ≥ 2 then codeOf (m.byteAt 1) else .nothing

/-- `ResponseTo`. -/
def responseTo (m : AdapterMessage) : MsgCode :=
  if m.size ≥ 3 then codeOf (m.byteAt 2) else .nothing

/-- `Reply`. -/
def reply (m : AdapterMessage) : MsgCode :=
  if m.rxData.size ≥ 2 then codeOf (m.rxData.toList.getD 1 0) else .nothing

/-- `IsTransmission`. -/
def isTransmission (m : AdapterMessage) : Bool :=
  m.message ∈ [MsgCode.frameAck, .frameData, .frameEom, .frameStart, .highError, .lowError,
    .receiveFailed, .transmitAckPolarity, .transmitEom, .transmitFailedAck, .transmitFailedLine,
    .transmitFailedTimeoutData, .transmitFailedTimeoutLine, .transmitLineTimeout,
    .transmitSucceeded]

/-- `IsEOM`. -/
def isEom (m : AdapterMessage) : Bool :=
  if m.size ≥ 2 then m.byteAt 1 &&& MsgCode.frameEom != 0 else false

/-- `IsACK`. -/
def isAck (m : AdapterMessage) : Bool :=
  if m.size ≥ 2 then m.byteAt 1 &&& MsgCode.frameAck != 0 else false

/-- `MessageCodeIsError`. -/
def messageCodeIsError (code : MsgCode) : Bool :=
  code ∈ [MsgCode.highError, .lowError, .receiveFailed, .commandRejected, .transmitLineTimeout,
    .transmitFailedLine, .transmitFailedAck, .transmitFailedTimeoutData,
    .transmitFailedTimeoutLine]

/-- `IsError`. -/
def isError (m : AdapterMessage) : Bool := messageCodeIsError m.message

/-- `Initiator`. -/
def initiator (m : AdapterMessage) : LogicalAddress :=
  if m.size ≥ 3 then .ofHigh (m.byteAt 2) else .unknown

/-- `Destination`. -/
def destination (m : AdapterMessage) : LogicalAddress :=
  if m.size ≥ 3 then .ofLow (m.byteAt 2) else .unknown

end AdapterMessage

end CEC
