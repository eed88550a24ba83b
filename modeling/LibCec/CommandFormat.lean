import LibCec.Commands

/-! The frames that an adapter receives, made into commands in two ways.

    `cec_command::Format` takes the addresses and the opcode apart from the parameters, and leaves
    the opcode out when it is `CEC_OPCODE_NONE`. `PushArray` hands the bytes of the frame to
    `PushBack`, one after the other.

        Exynos    read(buffer)       ─┐
        i.MX      hdmi_cec_event      ├──▶ Format, parameters.PushBack ──▶ cec_command
        TDA995x   cec_frame          ─┘
        Linux     cec_msg             ────▶ PushArray                  ──▶ cec_command

    `CEC_OPCODE_NONE` is `0xFD`, which is also a byte that a frame can carry: such a frame is a
    poll with parameters to the first three, and to these frames only. -/

namespace CEC
open Schemes

namespace Command

/-! ### The two constructions -/

/-- `cec_command::Format`. -/
def format (initiator destination : LogicalAddress) (opcode : UInt8) (timeout : Int) : Command :=
  let command := { clear with initiator, destination, transmitTimeout := timeout }
  if opcode ≠ opcodeNone then { command with opcode, opcodeSet := true } else command

/-- `cec_command::PushArray`. -/
def pushArray (c : Command) (data : List UInt8) : Command := data.foldl pushBack c

/-- `Format` for a received header and opcode, and `parameters.PushBack` for the rest. -/
def formatReceived (header opcode : UInt8) (parameters : List UInt8) : Command :=
  let cmd := format (.ofHigh header) (.ofLow header) opcode defaultTransmitTimeout
  { cmd with parameters := cmd.parameters.pushAll parameters }

/-- Two commands are the same frame. -/
structure SameFrame (c d : Command) : Prop where
  initiator : c.initiator = d.initiator
  destination : c.destination = d.destination
  opcodeSet : c.opcodeSet = d.opcodeSet
  opcode : c.opcode = d.opcode
  parameters : c.parameters = d.parameters

@[simp] theorem pushArray_nil (c : Command) : c.pushArray [] = c := rfl

@[simp] theorem pushArray_cons (c : Command) (b : UInt8) (data : List UInt8) :
    c.pushArray (b :: data) = (c.pushBack b).pushArray data := rfl

/-- The first byte of a frame is its header. -/
theorem pushBack_clear (header : UInt8) :
    clear.pushBack header = { clear with initiator := .ofHigh header, destination := .ofLow header } :=
  rfl

/-- The byte after the header is the opcode. -/
theorem pushBack_opcode {c : Command} (haddr : c.initiator ≠ .unknown) (hset : c.opcodeSet = false)
    (b : UInt8) : c.pushBack b = { c with opcodeSet := true, opcode := b } := by
  simp [pushBack, haddr, hset]

/-- What follows the opcode is a parameter. -/
theorem pushArray_parameters : ∀ (data : List UInt8) {c : Command}, c.initiator ≠ .unknown →
    c.opcodeSet → c.pushArray data = { c with parameters := c.parameters.pushAll data }
  | [], _, _, _ => rfl
  | b :: data, c, haddr, hset => by
    have hpush : c.pushBack b = { c with parameters := c.parameters.push b } := by
      simp [pushBack, haddr, hset]
    rw [pushArray_cons, hpush]
    exact pushArray_parameters data haddr hset

/-- What `PushArray` makes of a frame with an opcode. -/
theorem pushArray_frame (header opcode : UInt8) (parameters : List UInt8) :
    clear.pushArray (header :: opcode :: parameters)
      = { clear with
          initiator := .ofHigh header, destination := .ofLow header, opcodeSet := true, opcode,
          parameters := clear.parameters.pushAll parameters } := by
  have haddr : LogicalAddress.ofHigh header ≠ .unknown := by simp [LogicalAddress.ofHigh]
  rw [pushArray_cons, pushBack_clear, pushArray_cons, pushBack_opcode (by exact haddr) rfl,
    pushArray_parameters parameters (by exact haddr) rfl]

/-- A header alone is a poll both ways. -/
theorem sameFrame_poll (header : UInt8) :
    SameFrame (formatReceived header opcodeNone []) (clear.pushArray [header]) :=
  ⟨rfl, rfl, rfl, rfl, rfl⟩

/-- The two constructions agree on a frame with an opcode unless it is the one for no opcode. -/
theorem sameFrame_iff (header opcode : UInt8) (parameters : List UInt8) :
    SameFrame (formatReceived header opcode parameters)
        (clear.pushArray (header :: opcode :: parameters)) ↔ opcode ≠ opcodeNone := by
  rw [pushArray_frame]
  constructor
  · intro h hnone
    have hset := h.opcodeSet
    simp [formatReceived, format, hnone, clear] at hset
  · intro h
    constructor <;> simp [formatReceived, format, h, clear]

end Command

/-! ### The backends -/

/-- `CEC_MAX_FRAME_SIZE`, which is also the size of the kernel's `cec_msg`. -/
def maxFrameSize : ℕ := 16

/-- `CExynosCECAdapterCommunication::Process` for the bytes that `read` has for it: at most
    `CEC_MAX_FRAME_SIZE` of them are read. -/
def exynosReceived (available : List UInt8) : Option Command :=
  let buffer := available.take maxFrameSize
  if buffer.length > 0 then
    some (Command.formatReceived (buffer.getD 0 0)
      (if buffer.length > 1 then buffer.getD 1 0 else opcodeNone) (buffer.drop 2))
  else none

/-- `hdmi_cec_event` of a received message; `MAX_CEC_MESSAGE_LEN` is 17. -/
structure HdmiCecEvent where
  msgLen : Int
  msg : List UInt8
  full : msg.length = 17

/-- `CIMXCECAdapterCommunication::Process` for a received message. -/
def imxReceived (event : HdmiCecEvent) : Command :=
  let msgLen := if event.msgLen > event.msg.length then (event.msg.length : Int) else event.msgLen
  Command.formatReceived (event.msg.getD 0 0)
    (if msgLen > 1 then event.msg.getD 1 0 else opcodeNone) ((event.msg.take msgLen.toNat).drop 2)

/-- `cec_frame` of a received packet, whose size counts three bytes before the data. -/
structure TdaFrame where
  size : UInt8
  addr : UInt8
  data : List UInt8
  full : data.length = 15

/-- `CTDA995xCECAdapterCommunication::Process` for a received packet. -/
def tda995xReceived (frame : TdaFrame) : Command :=
  Command.formatReceived frame.addr
    (if frame.size > 3 then frame.data.getD 0 0 else opcodeNone)
    ((frame.data.take (min (frame.size.toNat - 3) frame.data.length)).drop 1)

/-- `cec_msg` of the kernel. -/
structure CecMsg where
  len : UInt32
  msg : List UInt8
  full : msg.length = maxFrameSize

/-- `CLinuxCECAdapterCommunication::Process` for a message that `CEC_RECEIVE` returned. -/
def linuxReceived (m : CecMsg) : Option Command :=
  if m.len > 0 then
    some (Command.clear.pushArray
      (m.msg.take (if m.len.toNat > m.msg.length then m.msg.length else m.len.toNat)))
  else none

/-! ### What they make of one frame -/

/-- The event carries the bytes of the frame; what follows them in its buffer is arbitrary. -/
def HdmiCecEvent.Carries (event : HdmiCecEvent) (frame : List UInt8) : Prop :=
  event.msgLen = frame.length ∧ frame <+: event.msg

def TdaFrame.Carries (f : TdaFrame) (frame : List UInt8) : Prop :=
  f.size.toNat = frame.length + 2 ∧ frame <+: f.addr :: f.data

def CecMsg.Carries (m : CecMsg) (frame : List UInt8) : Prop :=
  m.len.toNat = frame.length ∧ frame <+: m.msg

/-- `cmd` is what a backend that calls `Format` hands on for the frame. -/
inductive FormatsTo (frame : List UInt8) (cmd : Command) : Prop
  | exynos (h : exynosReceived frame = some cmd)
  | imx (event : HdmiCecEvent) (h : event.Carries frame) (hcmd : imxReceived event = cmd)
  | tda995x (f : TdaFrame) (h : f.Carries frame) (hcmd : tda995xReceived f = cmd)

/-- The byte at the place of the opcode. -/
def opcodeByte (frame : List UInt8) : UInt8 :=
  if frame.length > 1 then frame.getD 1 0 else opcodeNone

theorem FormatsTo.eq_formatReceived {frame : List UInt8} {cmd : Command} (hne : frame ≠ [])
    (hlen : frame.length ≤ maxFrameSize) (h : FormatsTo frame cmd) :
    cmd = Command.formatReceived (frame.getD 0 0) (opcodeByte frame) (frame.drop 2) := by
  obtain ⟨header, rest, rfl⟩ := List.exists_cons_of_ne_nil hne
  cases h with
  | exynos h =>
    simp only [exynosReceived, List.take_of_length_le hlen] at h
    simpa [opcodeByte] using h.symm
  | imx event h hcmd =>
    obtain ⟨hsize, more, hmsg⟩ := h
    have hfits : ¬ event.msgLen > event.msg.length := by
      have hall := congrArg List.length hmsg
      simp only [List.length_append] at hall
      omega
    have htake : event.msg.take (header :: rest).length = header :: rest := by
      rw [← hmsg, List.take_left]
    rw [← hcmd]
    simp only [imxReceived, if_neg hfits]
    rw [hsize, Int.toNat_natCast, htake, ← hmsg]
    cases rest <;> simp [opcodeByte]
  | tda995x f h hcmd =>
    obtain ⟨hsize, more, hmsg⟩ := h
    simp only [List.cons_append, List.cons.injEq] at hmsg
    obtain ⟨haddr, hdata⟩ := hmsg
    have hcount : f.size.toNat - 3 = rest.length := by simp only [List.length_cons] at hsize; omega
    have hopcode : f.size > 3 ↔ 0 < rest.length := by
      rw [gt_iff_lt, UInt8.lt_iff_toNat_lt]
      simp only [List.length_cons] at hsize
      have h3 : (3 : UInt8).toNat = 3 := rfl
      omega
    have hmin : min rest.length (rest.length + more.length) = rest.length := by omega
    rw [← hcmd, tda995xReceived, ← haddr, ← hdata, hcount]
    simp only [hopcode, List.length_append, hmin]
    cases rest <;> simp [opcodeByte]

theorem CecMsg.linuxReceived_eq {m : CecMsg} {frame : List UInt8} (hne : frame ≠ [])
    (h : m.Carries frame) : linuxReceived m = some (Command.clear.pushArray frame) := by
  obtain ⟨hsize, more, hmsg⟩ := h
  have hpos : m.len > 0 := by
    have := List.length_pos_iff.mpr hne
    rw [gt_iff_lt, UInt32.lt_iff_toNat_lt]
    simp
    omega
  have hfits : ¬ m.len.toNat > m.msg.length := by
    have hall := congrArg List.length hmsg
    simp only [List.length_append] at hall
    omega
  rw [linuxReceived, if_pos hpos, if_neg hfits, hsize, ← hmsg, List.take_left]

/-- A backend that formats the frames it receives agrees with the one that pushes their bytes on
    the frames whose second byte is not `CEC_OPCODE_NONE`, and on no other frame. -/
theorem receivePaths_agree_iff {frame : List UInt8} {cmd pushed : Command} {m : CecMsg}
    (hne : frame ≠ []) (hlen : frame.length ≤ maxFrameSize) (hformat : FormatsTo frame cmd)
    (hcarries : m.Carries frame) (hpush : linuxReceived m = some pushed) :
    Command.SameFrame cmd pushed ↔ frame[1]? ≠ some opcodeNone := by
  have hcmd := hformat.eq_formatReceived hne hlen
  have hpushed := hpush.symm.trans (m.linuxReceived_eq hne hcarries)
  rw [Option.some.injEq] at hpushed
  rw [hcmd, hpushed]
  obtain ⟨header, rest, rfl⟩ := List.exists_cons_of_ne_nil hne
  cases rest with
  | nil => simpa [opcodeByte] using Command.sameFrame_poll header
  | cons opcode parameters =>
    simpa [opcodeByte] using Command.sameFrame_iff header opcode parameters

/-- The kernel's message for a frame of two bytes. -/
def CecMsg.ofTwo (header opcode : UInt8) : CecMsg :=
  ⟨2, header :: opcode :: List.replicate 14 0, rfl⟩

/-- The playback device tells the TV to stand by. -/
theorem receivePaths_agree_standby :
    Command.SameFrame (Command.formatReceived 0x40 0x36 []) (Command.clear.pushArray [0x40, 0x36]) :=
  have hcarries : (CecMsg.ofTwo 0x40 0x36).Carries [0x40, 0x36] := ⟨by decide, _, rfl⟩
  (receivePaths_agree_iff (by simp) (by decide) (.exynos (by decide)) hcarries (by decide)).mpr
    (by decide)

/-- The TV sends an opcode `0xFD` to the playback device, which is a poll to the first three. -/
theorem opcodeNone_is_dropped :
    ¬ ∀ (frame : List UInt8) (cmd pushed : Command) (m : CecMsg), frame ≠ [] →
      frame.length ≤ maxFrameSize → FormatsTo frame cmd → m.Carries frame →
      linuxReceived m = some pushed → Command.SameFrame cmd pushed := by
  intro h
  have hsame := h [0x04, 0xFD] (Command.formatReceived 0x04 0xFD [])
    (Command.clear.pushArray [0x04, 0xFD]) (.ofTwo 0x04 0xFD) (by simp) (by decide)
    (.exynos (by decide)) ⟨by decide, _, rfl⟩ (by decide)
  exact absurd hsame.opcodeSet (by decide)

end CEC
