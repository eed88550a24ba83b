import LibCec.Schemes.BoundedBuffer
import Mathlib.Data.Fintype.Basic

/-! The data types of `cectypes.h` that the adapter and the processor share.

    A logical address is one of the sixteen addresses of the bus, or unknown (`-1` in the source).
    A command is a CEC frame taken apart: the two addresses of its header byte, an opcode unless it
    is a poll, and at most `CEC_MAX_DATA_PACKET_SIZE` parameter bytes. Opcodes are bytes, because
    the source casts whatever byte it received to `cec_opcode`. -/

namespace CEC
open Schemes

/-! ### Logical addresses -/

/-- Addresses are written as numerals, and so are threads and queues. -/
instance neZeroAddresses : @NeZero ℕ Zero.ofOfNat0 16 := Nat.instNeZeroSucc

instance neZeroThreads : @NeZero ℕ Zero.ofOfNat0 1 := Nat.instNeZeroSucc

instance neZeroQueues : @NeZero ℕ Zero.ofOfNat0 2 := Nat.instNeZeroSucc

instance lawfulBEqAddresses : LawfulBEq (Fin 16) := inferInstance

/-- `cec_logical_address`: unknown (`-1`) or one of `0..15`. -/
inductive LogicalAddress where
  | unknown
  | addr (a : Fin 16)
  deriving DecidableEq

namespace LogicalAddress

/-- `CECDEVICE_TV`. -/
abbrev tv : LogicalAddress := .addr 0

/-- `CECDEVICE_UNREGISTERED` and `CECDEVICE_BROADCAST`, one address for both directions. -/
abbrev broadcast : LogicalAddress := .addr 15

/-- The cast to `uint8_t`. -/
def toByte : LogicalAddress → UInt8
  | unknown => 0xFF
  | addr a => UInt8.ofNat a

/-- The address in the upper half of a header byte. -/
def ofHigh (b : UInt8) : LogicalAddress :=
  .addr ⟨b.toNat / 16, Nat.div_lt_of_lt_mul b.toNat_lt⟩

/-- The address in the lower half of a header byte. -/
def ofLow (b : UInt8) : LogicalAddress := .addr ⟨b.toNat % 16, Nat.mod_lt _ (by decide)⟩

/-- The address is one of `0..15`. -/
def IsKnown (a : LogicalAddress) : Prop := a ≠ .unknown

instance (a : LogicalAddress) : Decidable a.IsKnown := inferInstanceAs (Decidable (_ ≠ _))

end LogicalAddress

/-! ### Commands -/

/-- `CEC_MAX_DATA_PACKET_SIZE`. -/
abbrev maxDataPacketSize : ℕ := 64

/-- `CEC_DEFAULT_TRANSMIT_TIMEOUT`. -/
def defaultTransmitTimeout : Int := 1000

/-- `CEC_OPCODE_FEATURE_ABORT`. -/
def opcodeFeatureAbort : UInt8 := 0x00

/-- `cec_datapacket`. -/
abbrev DataPacket := BoundedBuffer UInt8 maxDataPacketSize

/-- `cec_command`. -/
structure Command where
  initiator : LogicalAddress
  destination : LogicalAddress
  ack : Bool
  eom : Bool
  opcode : UInt8
  parameters : DataPacket
  opcodeSet : Bool
  transmitTimeout : Int
  deriving DecidableEq

namespace Command

/-- `cec_command::Clear`, and what the constructor leaves. -/
def clear : Command where
  initiator := .unknown
  destination := .unknown
  ack := false
  eom := false
  opcode := opcodeFeatureAbort
  parameters := .empty
  opcodeSet := false
  transmitTimeout := defaultTransmitTimeout

/-- `cec_command::PushBack`: a byte goes to the first part that is still missing. -/
def pushBack (c : Command) (data : UInt8) : Command :=
  if c.initiator = .unknown ∧ c.destination = .unknown then
    { c with initiator := .ofHigh data, destination := .ofLow data }
  else if !c.opcodeSet then { c with opcodeSet := true, opcode := data }
  else { c with parameters := c.parameters.push data }

/-- The header byte of the frame. -/
def header (c : Command) : UInt8 := (c.initiator.toByte <<< 4) + c.destination.toByte

/-- The bytes of the frame on the bus, as `cec_command::Serialize` orders them: the header, and
    when an opcode is set the opcode and the parameters. -/
def frameBytes (c : Command) : List UInt8 :=
  c.header :: if c.opcodeSet then c.opcode :: c.parameters.toList else []

end Command

end CEC
