import LibCec.CommandFormat

/-! The bytes of a command on the wire, and back.

    `cec_command::Serialize` is where all backends get the bytes they transmit from. `PushArray`
    takes such bytes apart again.

        cec_command ──Serialize──▶ [header] opcode parameters ──PushArray──▶ cec_command
                        │
                        └─ -1 when Size() > 16, or when the buffer is shorter than the frame

    A frame without an opcode is its header. The `opcode` that a command still has when none is set
    is not part of the frame: `PushArray` leaves `CEC_OPCODE_FEATURE_ABORT`, which is what `Clear`
    puts there. -/

namespace CEC
open Schemes

namespace Command

/-! ### `Serialize` -/

/-- What `Serialize` has written: the place of each byte and the byte, and where the next goes. -/
structure Output where
  iPtr : UInt8
  written : List (UInt8 × UInt8)

/-- Nothing is written yet. -/
def Output.start : Output := ⟨0, []⟩

/-- `buffer[iPtr++] = b`. -/
def Output.put (o : Output) (b : UInt8) : Output := ⟨o.iPtr + 1, o.written ++ [(o.iPtr, b)]⟩

/-- `cec_command::Size`, in the byte that it returns. -/
def byteSize (c : Command) : UInt8 :=
  UInt8.ofNat c.parameters.size + (if c.opcodeSet then 1 else 0) + 1

/-- `cec_command::Serialize` for a buffer of `iBufSize` bytes: what it returns, and what it has
    written to which places of the buffer. -/
def serialize (c : Command) (iBufSize : UInt8) (bWithHeader : Bool) : Int × List (UInt8 × UInt8) :=
  let iNeeded := if bWithHeader then c.byteSize else c.byteSize - 1
  if c.byteSize > UInt8.ofNat maxFrameSize ∨ iNeeded > iBufSize then (-1, [])
  else
    let header := (c.initiator.toByte <<< 4) ||| (c.destination.toByte &&& 0x0F)
    let out := if bWithHeader then Output.start.put header else Output.start
    let out := if c.opcodeSet then c.parameters.toList.foldl Output.put (out.put c.opcode) else out
    (out.iPtr.toNat, out.written)

/-- The bytes that `Serialize` has written, in the order it wrote them. -/
def bytesWritten (c : Command) (iBufSize : UInt8) (bWithHeader : Bool) : List UInt8 :=
  (c.serialize iBufSize bWithHeader).2.map Prod.snd

/-! ### The frame -/

/-- A command that can be put on the wire: both addresses are known, and there are no parameters
    without an opcode. -/
structure OnWire (c : Command) : Prop where
  initiator : c.initiator ≠ .unknown
  destination : c.destination ≠ .unknown
  parameters : c.opcodeSet = false → c.parameters.toList = []

/-- The bytes of the frame, the header among them when it is asked for. -/
def wireBytes (c : Command) (bWithHeader : Bool) : List UInt8 :=
  if bWithHeader then c.frameBytes else c.frameBytes.tail

/-- The bytes at the places from `k` on. -/
def placedFrom (k : ℕ) (bytes : List UInt8) : List (UInt8 × UInt8) :=
  (bytes.zipIdx k).map fun p => (UInt8.ofNat p.2, p.1)

/-- The frame does not fit: it is longer than a frame of the bus, or than the buffer. -/
def TooLong (c : Command) (iBufSize : UInt8) (bWithHeader : Bool) : Prop :=
  maxFrameSize < c.frameBytes.length ∨ iBufSize.toNat < (c.wireBytes bWithHeader).length

/-- Two commands are the same on the wire. -/
structure SameOnWire (c d : Command) : Prop where
  initiator : c.initiator = d.initiator
  destination : c.destination = d.destination
  opcodeSet : c.opcodeSet = d.opcodeSet
  opcode : d.opcodeSet → c.opcode = d.opcode
  parameters : c.parameters = d.parameters

theorem OnWire.addresses {c : Command} (hc : c.OnWire) :
    ∃ a b, c.initiator = .addr a ∧ c.destination = .addr b := by
  obtain ⟨hi, hd, -⟩ := hc
  cases hinit : c.initiator with
  | unknown => exact absurd hinit hi
  | addr a =>
    cases hdest : c.destination with
    | unknown => exact absurd hdest hd
    | addr b => exact ⟨a, b, rfl, rfl⟩

theorem OnWire.length_frameBytes {c : Command} (hc : c.OnWire) :
    c.frameBytes.length = c.parameters.size + (if c.opcodeSet then 1 else 0) + 1 := by
  unfold frameBytes
  split
  · rfl
  · next hset => simp [BoundedBuffer.size, hc.parameters (by simpa using hset)]

theorem length_frameBytes_le (c : Command) : c.frameBytes.length ≤ maxDataPacketSize + 2 := by
  have := c.parameters.fits
  unfold frameBytes
  split <;> simp only [List.length_cons, List.length_nil] <;> omega

/-- `Size` does not wrap. -/
theorem OnWire.toNat_byteSize {c : Command} (hc : c.OnWire) : c.byteSize.toNat = c.frameBytes.length := by
  have hfits : c.parameters.size ≤ 64 := c.parameters.fits
  rw [hc.length_frameBytes, byteSize]
  split <;> simp <;> omega

theorem length_wireBytes (c : Command) (bWithHeader : Bool) : (c.wireBytes bWithHeader).length =
    c.frameBytes.length - (if bWithHeader then 0 else 1) := by
  cases bWithHeader <;> simp [wireBytes]

/-- `iNeeded` is the number of bytes to be written. -/
theorem OnWire.toNat_needed {c : Command} (hc : c.OnWire) (bWithHeader : Bool) :
    (if bWithHeader then c.byteSize else c.byteSize - 1).toNat = (c.wireBytes bWithHeader).length := by
  have hle := c.length_frameBytes_le
  have hpos : 0 < c.frameBytes.length := by simp [frameBytes]
  have hsize := hc.toNat_byteSize
  rw [length_wireBytes]
  cases bWithHeader with
  | true => simpa using hsize
  | false =>
    have hone : (1 : UInt8) ≤ c.byteSize := by rw [UInt8.le_iff_toNat_le, hsize]; exact hpos
    simp [UInt8.toNat_sub_of_le _ _ hone, hsize]

/-- The two tests of `Serialize` are whether the frame is too long. -/
theorem OnWire.tooLong_iff {c : Command} (hc : c.OnWire) (iBufSize : UInt8) (bWithHeader : Bool) :
    (c.byteSize > UInt8.ofNat maxFrameSize ∨
      (if bWithHeader then c.byteSize else c.byteSize - 1) > iBufSize) ↔ c.TooLong iBufSize bWithHeader := by
  have hmax : (UInt8.ofNat maxFrameSize).toNat = maxFrameSize := rfl
  rw [gt_iff_lt, gt_iff_lt, UInt8.lt_iff_toNat_lt, UInt8.lt_iff_toNat_lt, hc.toNat_needed,
    hc.toNat_byteSize, hmax]
  rfl

/-- The header byte, by `|` and `&` as by `+`. -/
theorem OnWire.header_eq {c : Command} (hc : c.OnWire) :
    ((c.initiator.toByte <<< 4) ||| (c.destination.toByte &&& 0x0F) : UInt8) = c.header := by
  have hall : ∀ a b : Fin 16,
      ((UInt8.ofNat a <<< (4 : UInt8)) ||| (UInt8.ofNat b &&& (0x0F : UInt8)) : UInt8)
        = (UInt8.ofNat a <<< (4 : UInt8)) + UInt8.ofNat b := by decide
  obtain ⟨a, b, hi, hd⟩ := hc.addresses
  rw [header, hi, hd]
  exact hall a b

/-! ### What is written -/

@[simp] theorem placedFrom_nil (k : ℕ) : placedFrom k [] = [] := rfl

@[simp] theorem placedFrom_cons (k : ℕ) (b : UInt8) (bytes : List UInt8) :
    placedFrom k (b :: bytes) = (UInt8.ofNat k, b) :: placedFrom (k + 1) bytes := rfl

theorem map_snd_placedFrom (bytes : List UInt8) (k : ℕ) :
    (placedFrom k bytes).map Prod.snd = bytes := by
  simp [placedFrom, List.map_map, Function.comp_def]

/-- Bytes that are put go to the next places, one after the other. -/
theorem Output.foldl_put : ∀ (bytes : List UInt8) (k : ℕ) (w : List (UInt8 × UInt8)),
    bytes.foldl put ⟨UInt8.ofNat k, w⟩ = ⟨UInt8.ofNat (k + bytes.length), w ++ placedFrom k bytes⟩
  | [], k, w => by simp
  | b :: bytes, k, w => by
    have hnext : UInt8.ofNat k + 1 = UInt8.ofNat (k + 1) := by rw [UInt8.ofNat_add]; rfl
    rw [List.foldl_cons, put, hnext, foldl_put bytes (k + 1)]
    simp [Nat.add_comm, Nat.add_left_comm]

/-- All that `Serialize` writes is written by one `put` after the other. -/
theorem serialize_of_fits {c : Command} {iBufSize : UInt8} {bWithHeader : Bool} (hc : c.OnWire)
    (hfits : ¬ c.TooLong iBufSize bWithHeader) : c.serialize iBufSize bWithHeader =
      (((c.wireBytes bWithHeader).length : ℤ), placedFrom 0 (c.wireBytes bWithHeader)) := by
  have hlen : (c.wireBytes bWithHeader).length < 256 := by
    have hle : c.frameBytes.length ≤ 66 := c.length_frameBytes_le
    rw [length_wireBytes]
    split <;> omega
  have hout : ((c.wireBytes bWithHeader).foldl Output.put Output.start) =
      ⟨UInt8.ofNat (c.wireBytes bWithHeader).length, placedFrom 0 (c.wireBytes bWithHeader)⟩ := by
    have := Output.foldl_put (c.wireBytes bWithHeader) 0 []
    rwa [Nat.zero_add, List.nil_append] at this
  have hputs : (if c.opcodeSet then c.parameters.toList.foldl Output.put
      ((if bWithHeader then Output.start.put c.header else Output.start).put c.opcode)
      else if bWithHeader then Output.start.put c.header else Output.start)
      = (c.wireBytes bWithHeader).foldl Output.put Output.start := by
    unfold wireBytes frameBytes
    cases bWithHeader <;> split <;> rfl
  unfold serialize
  rw [if_neg (fun h => hfits ((hc.tooLong_iff _ _).mp h)), hc.header_eq]
  dsimp only
  rw [hputs, hout]
  simp [Nat.mod_eq_of_lt hlen]

theorem serialize_of_tooLong {c : Command} {iBufSize : UInt8} {bWithHeader : Bool} (hc : c.OnWire)
    (h : c.TooLong iBufSize bWithHeader) : c.serialize iBufSize bWithHeader = (-1, []) := by
  unfold serialize
  exact if_pos ((hc.tooLong_iff _ _).mpr h)

/-- `Serialize` refuses the frames that are too long. -/
theorem serialize_eq_refused_iff {c : Command} (hc : c.OnWire) (iBufSize : UInt8)
    (bWithHeader : Bool) :
    c.serialize iBufSize bWithHeader = (-1, []) ↔ c.TooLong iBufSize bWithHeader := by
  refine ⟨fun h => ?_, serialize_of_tooLong hc⟩
  by_contra hfits
  rw [serialize_of_fits hc hfits] at h
  have hret := congrArg Prod.fst h
  simp only at hret
  omega

/-! ### And back -/

theorem ofHigh_header {c : Command} (hc : c.OnWire) : .ofHigh c.header = c.initiator := by
  have hall : ∀ a b : Fin 16, LogicalAddress.ofHigh ((UInt8.ofNat a <<< 4) + UInt8.ofNat b)
      = .addr a := by decide
  obtain ⟨a, b, hi, hd⟩ := hc.addresses
  rw [header, hi, hd]
  exact hall a b

theorem ofLow_header {c : Command} (hc : c.OnWire) : .ofLow c.header = c.destination := by
  have hall : ∀ a b : Fin 16, LogicalAddress.ofLow ((UInt8.ofNat a <<< 4) + UInt8.ofNat b)
      = .addr b := by decide
  obtain ⟨a, b, hi, hd⟩ := hc.addresses
  rw [header, hi, hd]
  exact hall a b

/-- A byte is the header of the two addresses it is taken apart into. -/
theorem header_of_byte (b : UInt8) :
    ((LogicalAddress.ofHigh b).toByte <<< 4) + (LogicalAddress.ofLow b).toByte = b := by
  have hall : ∀ n : Fin 256,
      ((LogicalAddress.ofHigh (UInt8.ofNat n)).toByte <<< 4)
        + (LogicalAddress.ofLow (UInt8.ofNat n)).toByte = UInt8.ofNat n := by decide +kernel
  simpa using hall ⟨b.toNat, b.toNat_lt⟩

theorem pushAll_empty {cap : ℕ} (b : BoundedBuffer UInt8 cap) :
    (BoundedBuffer.empty.pushAll b.toList : BoundedBuffer UInt8 cap) = b := by
  apply BoundedBuffer.ext
  rw [BoundedBuffer.toList_pushAll, BoundedBuffer.toList_empty, List.nil_append,
    List.take_of_length_le b.fits]

/-- `PushArray` of the bytes of a frame gives back the command, as far as it is on the wire. -/
theorem pushArray_frameBytes {c : Command} (hc : c.OnWire) :
    SameOnWire (clear.pushArray c.frameBytes) c := by
  unfold frameBytes
  cases hset : c.opcodeSet with
  | false =>
    have hnone : c.parameters = .empty := BoundedBuffer.ext (hc.parameters hset)
    exact ⟨ofHigh_header hc, ofLow_header hc, hset.symm, fun h => by simp [hset] at h, hnone.symm⟩
  | true =>
    simp only [if_true, pushArray_frame]
    exact ⟨ofHigh_header hc, ofLow_header hc, hset.symm, fun _ => rfl, pushAll_empty _⟩

/-- What `PushArray` makes of the bytes of a frame can be put on the wire, and has these bytes. -/
theorem frameBytes_pushArray {bytes : List UInt8} (hne : bytes ≠ [])
    (hlen : bytes.length ≤ maxFrameSize) :
    (clear.pushArray bytes).OnWire ∧ (clear.pushArray bytes).frameBytes = bytes := by
  obtain ⟨header, rest, rfl⟩ := List.exists_cons_of_ne_nil hne
  cases rest with
  | nil =>
    refine ⟨⟨by simp [pushBack_clear, LogicalAddress.ofHigh],
      by simp [pushBack_clear, LogicalAddress.ofLow], fun _ => rfl⟩, ?_⟩
    exact congrArg (· :: []) (header_of_byte header)
  | cons opcode parameters =>
    rw [pushArray_frame]
    have hfits : parameters.length ≤ 64 := by
      simp only [maxFrameSize, List.length_cons] at hlen
      omega
    refine ⟨⟨by simp [LogicalAddress.ofHigh], by simp [LogicalAddress.ofLow], fun h => by simp at h⟩,
      ?_⟩
    have hparams : (clear.parameters.pushAll parameters).toList = parameters := by
      rw [BoundedBuffer.toList_pushAll]
      exact List.take_of_length_le hfits
    simp only [frameBytes, Command.header, header_of_byte, hparams, if_true]

/-- Frames are refused or written whole, and what is written stands for the command. -/
structure SerializesFrames : Prop where
  refused : ∀ (c : Command) (iBufSize : UInt8) (bWithHeader : Bool), c.OnWire →
    (c.serialize iBufSize bWithHeader = (-1, []) ↔ c.TooLong iBufSize bWithHeader)
  written : ∀ (c : Command) (iBufSize : UInt8) (bWithHeader : Bool), c.OnWire →
    ¬ c.TooLong iBufSize bWithHeader →
      c.serialize iBufSize bWithHeader =
        (((c.wireBytes bWithHeader).length : ℤ), placedFrom 0 (c.wireBytes bWithHeader)) ∧
      (c.wireBytes bWithHeader).length ≤ iBufSize.toNat
  givenBack : ∀ (c : Command) (iBufSize : UInt8), c.OnWire → ¬ c.TooLong iBufSize true →
    SameOnWire (clear.pushArray (c.bytesWritten iBufSize true)) c
  sameBytes : ∀ (bytes : List UInt8) (iBufSize : UInt8), bytes ≠ [] → bytes.length ≤ maxFrameSize →
    bytes.length ≤ iBufSize.toNat →
      (clear.pushArray bytes).serialize iBufSize true = ((bytes.length : ℤ), placedFrom 0 bytes)

theorem serializesFrames : SerializesFrames where
  refused := fun _ iBufSize bWithHeader hc => serialize_eq_refused_iff hc iBufSize bWithHeader
  written := fun c iBufSize bWithHeader hc hfits =>
    ⟨serialize_of_fits hc hfits, Nat.le_of_not_lt fun h => hfits (.inr h)⟩
  givenBack := by
    intro c iBufSize hc hfits
    rw [bytesWritten, serialize_of_fits hc hfits, map_snd_placedFrom]
    exact pushArray_frameBytes hc
  sameBytes := by
    intro bytes iBufSize hne hlen hbuf
    obtain ⟨hc, hbytes⟩ := frameBytes_pushArray hne hlen
    have hwire : (clear.pushArray bytes).wireBytes true = bytes := hbytes
    have hfits : ¬ (clear.pushArray bytes).TooLong iBufSize true := by
      rw [TooLong, hwire, hbytes]
      omega
    rw [serialize_of_fits hc hfits, hwire]

/-- A poll whose `opcode` field is not the one that `Clear` leaves. -/
def pollWithStaleOpcode : Command :=
  { clear with initiator := .addr 4, destination := .tv, opcode := 0x36 }

/-- The stale opcode of a poll is not on the wire, and does not come back. -/
theorem staleOpcode_is_lost :
    ¬ ∀ (c : Command) (iBufSize : UInt8), c.OnWire → ¬ c.TooLong iBufSize true →
      SameFrame (clear.pushArray (c.bytesWritten iBufSize true)) c := by
  intro h
  have hwire : pollWithStaleOpcode.OnWire := ⟨by decide, by decide, fun _ => rfl⟩
  have hsame := h pollWithStaleOpcode 16 hwire (by simp [TooLong, maxFrameSize]; decide)
  exact absurd hsame.opcode (by decide)

end Command

end CEC
