import LibCec.CommandFormat

/-! Which command an acknowledgement is credited to, in the queues of the TDA995x and of the
    Raspberry Pi.

    `Write` enters a command in a map and waits; the acknowledgement of the driver is offered to the
    entries in the order of the map, until one of them takes it:

        e₀ ──no──▶ e₁ ──no──▶ e₂ ──yes──▶ result, m_bSucceeded
                                             (e₃ … are not asked)

    An entry that has its answer stays in the map until its thread wakes up. What an entry compares
    is a hash of 32 bits in which the destination and the opcode share a byte (TDA995x), or for a
    poll its destination and nothing else (Raspberry Pi). -/

namespace CEC
open Schemes

/-- An acknowledgement: the opcode of the command, unless it was a poll; its addresses, of which the
    hardware may not report the initiator; and the result. -/
structure Acknowledgement where
  opcode : Option UInt8
  initiator : Fin 16
  initiatorReported : Bool
  destination : Fin 16
  response : UInt32

/-- An entry of either queue. What a TDA995x entry keeps of its command is the hash of it. -/
structure PendingEntry where
  command : Command
  retval : UInt32
  succeeded : Bool

namespace PendingEntry

/-- The acknowledgement is that of the command, and the entry has not been completed before. -/
structure Right (e : PendingEntry) (a : Acknowledgement) : Prop where
  opcode : (if e.command.opcodeSet then some e.command.opcode else none) = a.opcode
  initiator : a.initiatorReported → e.command.initiator = .addr a.initiator
  destination : e.command.destination = .addr a.destination
  pending : e.succeeded = false

/-- The entry with its answer. -/
def complete (e : PendingEntry) (response : UInt32) : PendingEntry :=
  { e with retval := response, succeeded := true }

end PendingEntry

/-! ### Offering an acknowledgement to the entries -/

/-- The loop over the entries: `check` is an entry's answer to the acknowledgement, with the entry
    as it is afterwards when it takes it. -/
def askInTurn (check : PendingEntry → Option PendingEntry) :
    List PendingEntry → List PendingEntry × Bool
  | [] => ([], false)
  | e :: es =>
    match check e with
    | some e' => (e' :: es, true)
    | none => (e :: (askInTurn check es).1, (askInTurn check es).2)

/-- The entry takes the acknowledgement: those in front of it do not, those behind it stay as they
    are. -/
inductive Completes (check : PendingEntry → Option PendingEntry) (e : PendingEntry) :
    List PendingEntry → List PendingEntry → Prop
  | intro (before : List PendingEntry) (e' : PendingEntry) (after : List PendingEntry) :
      (∀ x ∈ before, check x = none) → check e = some e' →
      Completes check e (before ++ e :: after) (before ++ e' :: after)

/-- The loop ends at the entry that takes the acknowledgement. -/
theorem askInTurn_completes {check : PendingEntry → Option PendingEntry} :
    ∀ {es : List PendingEntry}, (askInTurn check es).2 →
      ∃ e, Completes check e es (askInTurn check es).1
  | [], h => absurd h Bool.false_ne_true
  | e :: es, h => by
    unfold askInTurn at h ⊢
    cases hcheck : check e with
    | some e' => exact ⟨e, .intro [] e' es (by simp) hcheck⟩
    | none =>
      simp only [hcheck] at h ⊢
      obtain ⟨x, hx⟩ := askInTurn_completes h
      generalize (askInTurn check es).1 = es' at hx
      cases hx with
      | intro before x' after hbefore hx =>
        exact ⟨x, .intro (e :: before) x' after (List.forall_mem_cons.mpr ⟨hcheck, hbefore⟩) hx⟩

/-- Nothing else is a way in which the loop can end. -/
theorem askInTurn_of_completes {check : PendingEntry → Option PendingEntry} {e : PendingEntry}
    {es es' : List PendingEntry} (h : Completes check e es es') : askInTurn check es = (es', true) := by
  cases h with
  | intro before e' after hbefore he =>
    induction before with
    | nil => simp [askInTurn, he]
    | cons x before ih =>
      obtain ⟨hx, hbefore⟩ := List.forall_mem_cons.mp hbefore
      rw [List.cons_append, askInTurn, hx, ih hbefore]
      rfl

/-- Whatever entry the acknowledgement completes is a right one. -/
def CompletesRight (check : PendingEntry → Option PendingEntry) (es : List PendingEntry)
    (a : Acknowledgement) : Prop :=
  ∀ e, Completes check e es (askInTurn check es).1 → e.Right a

theorem completesRight_def {check : PendingEntry → Option PendingEntry} {es : List PendingEntry}
    {a : Acknowledgement} :
    CompletesRight check es a ↔ ∀ e es', Completes check e es es' → e.Right a := by
  refine ⟨fun h e es' he => h e ?_, fun h e => h e _⟩
  rw [askInTurn_of_completes he]
  exact he

/-- That is so iff in front of each wrong entry that would take it there is a right one. -/
theorem completesRight_iff {check : PendingEntry → Option PendingEntry} {es : List PendingEntry}
    {a : Acknowledgement} : CompletesRight check es a ↔
      ∀ before e after, es = before ++ e :: after → (check e).isSome → ¬e.Right a →
        ∃ x ∈ before, (check x).isSome ∧ x.Right a := by
  rw [completesRight_def]
  constructor
  · intro h before
    -- the first of the entries in front that would take it is a right one
    induction before generalizing es with
    | nil =>
      rintro e after rfl he hwrong
      obtain ⟨e', he⟩ := Option.isSome_iff_exists.mp he
      exact absurd (h e (e' :: after) (.intro [] e' after (by simp) he)) hwrong
    | cons x before ih =>
      rintro e after rfl he hwrong
      cases hx : check x with
      | some x' =>
        have hright := h x _ (.intro [] x' (before ++ e :: after) (by simp) hx)
        exact ⟨x, List.mem_cons_self, by simp [hx], hright⟩
      | none =>
        have hrest : ∀ y es', Completes check y (before ++ e :: after) es' → y.Right a := by
          intro y es' hy
          generalize hes : before ++ e :: after = es at hy
          cases hy with
          | intro before' y' after' hbefore' hy =>
            refine h y (x :: before' ++ y' :: after') ?_
            rw [List.cons_append, hes, ← List.cons_append]
            exact .intro (x :: before') y' after' (List.forall_mem_cons.mpr ⟨hx, hbefore'⟩) hy
        obtain ⟨y, hy, htakes⟩ := ih hrest e after rfl he hwrong
        exact ⟨y, List.mem_cons_of_mem x hy, htakes⟩
  · intro h e es' hcompletes
    cases hcompletes with
    | intro before e' after hbefore he =>
      by_contra hwrong
      obtain ⟨x, hx, hsome, -⟩ := h before e after rfl (by simp [he]) hwrong
      rw [hbefore x hx] at hsome
      exact absurd hsome (by simp)

/-! ### TDA995x -/

/-- The cast of an address to `uint32_t`. -/
def LogicalAddress.toWord : LogicalAddress → UInt32
  | unknown => 0xFFFFFFFF
  | addr a => UInt32.ofNat a

/-- `hashValue`. -/
def hashValue (opcode : UInt8) (initiator destination : LogicalAddress) : UInt32 :=
  (1 : UInt32) ||| (initiator.toWord <<< 8) ||| (destination.toWord <<< 16) ||| (opcode.toUInt32 <<< 16)

/-- The opcode in the hash, `CEC_OPCODE_NONE` for a poll. -/
def hashedOpcode (opcode : Option UInt8) : UInt8 := opcode.getD opcodeNone

namespace PendingEntry

/-- `m_hash` of an entry. -/
def hash (e : PendingEntry) : UInt32 :=
  hashValue (hashedOpcode (if e.command.opcodeSet then some e.command.opcode else none))
    e.command.initiator e.command.destination

/-- `CheckMatch`. -/
def checkMatch (a : Acknowledgement) (e : PendingEntry) : Option PendingEntry :=
  if hashValue (hashedOpcode a.opcode) (.addr a.initiator) (.addr a.destination) = e.hash then
    some (e.complete a.response)
  else none

/-- `MessageReceived` of an entry of the Raspberry Pi. `noOpcode` is what the driver has in the place
    of the opcode when it acknowledges a poll. -/
def messageReceived (noOpcode : UInt8) (a : Acknowledgement) (e : PendingEntry) :
    Option PendingEntry :=
  if (e.command.opcodeSet ∧ e.command.opcode = a.opcode.getD noOpcode ∧
        e.command.initiator = .addr a.initiator ∧ e.command.destination = .addr a.destination) ∨
      (e.command.opcodeSet = false ∧ e.command.destination = .addr a.destination) then
    some (e.complete a.response)
  else none

/-- The initiator is the same, and what the destination and the opcode have in common in the hash. -/
def SharesHash (e : PendingEntry) (a : Acknowledgement) : Prop :=
  e.command.initiator = .addr a.initiator ∧ ∃ d, e.command.destination = .addr d ∧
    UInt8.ofNat d ||| hashedOpcode (if e.command.opcodeSet then some e.command.opcode else none) =
      UInt8.ofNat a.destination ||| hashedOpcode a.opcode

/-- The same command by its opcode and its addresses, or any poll to the same destination. -/
def SharesDestination (noOpcode : UInt8) (e : PendingEntry) (a : Acknowledgement) : Prop :=
  e.command.destination = .addr a.destination ∧
    (e.command.opcodeSet → e.command.opcode = a.opcode.getD noOpcode ∧
      e.command.initiator = .addr a.initiator)

end PendingEntry

/-! ### What the hash tells apart -/

/-- Known addresses and an opcode leave the highest bit of the hash clear. -/
theorem testBit_hashValue (opcode : UInt8) (i d : Fin 16) :
    (hashValue opcode (.addr i) (.addr d)).toNat.testBit 31 = false := by
  have hinitiator : ∀ i : Fin 16, (UInt32.ofNat i <<< 8).toNat.testBit 31 = false := by decide
  have hdestination : ∀ d : Fin 16, (UInt32.ofNat d <<< 16).toNat.testBit 31 = false := by decide
  have hopcode : ∀ n : Fin 256, ((UInt8.ofNat n).toUInt32 <<< 16).toNat.testBit 31 = false := by
    decide +kernel
  have hbyte := hopcode ⟨opcode.toNat, opcode.toNat_lt⟩
  rw [UInt8.ofNat_toNat] at hbyte
  simp only [hashValue, LogicalAddress.toWord, UInt32.toNat_or, Nat.testBit_or, hinitiator,
    hdestination, hbyte]
  decide

/-- An address that is not known sets it. -/
theorem testBit_hashValue_unknown (opcode : UInt8) {initiator destination : LogicalAddress}
    (h : initiator = .unknown ∨ destination = .unknown) :
    (hashValue opcode initiator destination).toNat.testBit 31 = true := by
  have hinitiator : (LogicalAddress.unknown.toWord <<< 8).toNat.testBit 31 = true := by decide
  have hdestination : (LogicalAddress.unknown.toWord <<< 16).toNat.testBit 31 = true := by decide
  simp only [hashValue, UInt32.toNat_or, Nat.testBit_or]
  rcases h with rfl | rfl
  · simp only [hinitiator, Bool.or_true, Bool.true_or]
  · simp only [hdestination, Bool.or_true, Bool.true_or]

/-- The parts of the hash: the initiator, and the destination and the opcode in one byte. -/
theorem hashValue_eq (opcode : UInt8) (i d : Fin 16) : hashValue opcode (.addr i) (.addr d) =
    ((1 : UInt32) ||| (UInt32.ofNat i <<< 8)) ||| ((UInt8.ofNat d ||| opcode).toUInt32 <<< 16) := by
  have hword : ∀ d : Fin 16, UInt32.ofNat d = (UInt8.ofNat d).toUInt32 := by decide
  rw [hashValue, LogicalAddress.toWord, LogicalAddress.toWord, hword d, UInt8.toUInt32_or,
    UInt32.shiftLeft_or, UInt32.or_assoc]

/-- Both parts can be read off it. -/
theorem parts_of_hash (i : Fin 16) (x : UInt8) :
    ((((1 : UInt32) ||| (UInt32.ofNat i <<< 8)) ||| (x.toUInt32 <<< 16)) >>> 16).toUInt8 = x ∧
    (((((1 : UInt32) ||| (UInt32.ofNat i <<< 8)) ||| (x.toUInt32 <<< 16)) >>> 8) &&& 0x0F) =
      UInt32.ofNat i := by
  -- each part has its bits for itself
  have hshift : ∀ k : UInt32,
      (((1 : UInt32) ||| (UInt32.ofNat i <<< 8)) ||| (x.toUInt32 <<< 16)) >>> k =
        ((1 : UInt32) ||| (UInt32.ofNat i <<< 8)) >>> k ||| (x.toUInt32 <<< 16) >>> k :=
    fun _ => UInt32.shiftRight_or
  have hmask : ∀ u v : UInt32, (u ||| v) &&& 0x0F = (u &&& 0x0F) ||| (v &&& 0x0F) := fun _ _ =>
    UInt32.toBitVec_inj.mp BitVec.and_or_distrib_right
  have hinitiator : ∀ i : Fin 16, ((1 : UInt32) ||| (UInt32.ofNat i <<< 8)) >>> 16 = 0 ∧
      ((1 : UInt32) ||| (UInt32.ofNat i <<< 8)) >>> 8 &&& 0x0F = UInt32.ofNat i := by decide
  have hbyte : ∀ n : Fin 256,
      (((UInt8.ofNat n).toUInt32 <<< 16) >>> 16).toUInt8 = UInt8.ofNat n ∧
        ((UInt8.ofNat n).toUInt32 <<< 16) >>> 8 &&& 0x0F = 0 := by decide +kernel
  have hx := hbyte ⟨x.toNat, x.toNat_lt⟩
  rw [UInt8.ofNat_toNat] at hx
  rw [hshift, hshift, (hinitiator i).1, UInt32.zero_or, hmask, (hinitiator i).2, hx.2,
    UInt32.or_zero]
  exact ⟨hx.1, rfl⟩

theorem hashValue_eq_iff (opcode opcode' : UInt8) (i i' d d' : Fin 16) :
    hashValue opcode (.addr i) (.addr d) = hashValue opcode' (.addr i') (.addr d') ↔
      i = i' ∧ UInt8.ofNat d ||| opcode = UInt8.ofNat d' ||| opcode' := by
  rw [hashValue_eq, hashValue_eq]
  constructor
  · intro h
    obtain ⟨hbyte, hinit⟩ := parts_of_hash i (UInt8.ofNat d ||| opcode)
    obtain ⟨hbyte', hinit'⟩ := parts_of_hash i' (UInt8.ofNat d' ||| opcode')
    rw [h] at hbyte hinit
    have hinj : ∀ i i' : Fin 16, UInt32.ofNat i = UInt32.ofNat i' → i = i' := by decide
    exact ⟨hinj i i' (hinit.symm.trans hinit'), hbyte.symm.trans hbyte'⟩
  · rintro ⟨rfl, hbyte⟩
    rw [hbyte]

namespace PendingEntry

/-- An entry of the TDA995x takes what has its hash. -/
theorem checkMatch_isSome_iff (a : Acknowledgement) (e : PendingEntry) :
    (checkMatch a e).isSome ↔ e.SharesHash a := by
  have hsome : (checkMatch a e).isSome ↔
      hashValue (hashedOpcode a.opcode) (.addr a.initiator) (.addr a.destination) = e.hash := by
    rw [checkMatch, Option.isSome_ite]
  rw [hsome, SharesHash, hash]
  cases hi : e.command.initiator with
  | unknown =>
    refine iff_of_false (fun h => ?_) (by simp)
    have hbit := testBit_hashValue (hashedOpcode a.opcode) a.initiator a.destination
    rw [h, testBit_hashValue_unknown _ (.inl rfl)] at hbit
    exact absurd hbit (by simp)
  | addr i =>
    cases hd : e.command.destination with
    | unknown =>
      refine iff_of_false (fun h => ?_) (by simp)
      have hbit := testBit_hashValue (hashedOpcode a.opcode) a.initiator a.destination
      rw [h, testBit_hashValue_unknown _ (.inr rfl)] at hbit
      exact absurd hbit (by simp)
    | addr d =>
      rw [eq_comm, hashValue_eq_iff]
      simp

/-- An entry of the Raspberry Pi takes its command's acknowledgement, or as a poll any with its
    destination. -/
theorem messageReceived_isSome_iff (noOpcode : UInt8) (a : Acknowledgement) (e : PendingEntry) :
    (messageReceived noOpcode a e).isSome ↔ e.SharesDestination noOpcode a := by
  rw [messageReceived, Option.isSome_ite, SharesDestination]
  cases e.command.opcodeSet with
  | false => simp
  | true =>
    simp only [true_and, reduceCtorEq, false_and, or_false, forall_const]
    tauto

end PendingEntry

/-! ### When the right entry gets the acknowledgement -/

/-- Each pending entry that takes the acknowledgement without being the right one stands behind one
    that takes it and is. -/
def RightFirst (takes : PendingEntry → Acknowledgement → Prop) (es : List PendingEntry)
    (a : Acknowledgement) : Prop :=
  ∀ before e after, es = before ++ e :: after → takes e a → ¬e.Right a →
    ∃ x ∈ before, takes x a ∧ x.Right a

/-- In both queues, the entry that is completed is a right one iff no wrong one that shares the
    hash, or as a poll the destination, stands in front of all right ones. -/
theorem acknowledged_iff (noOpcode : UInt8) (es : List PendingEntry) (a : Acknowledgement) :
    (CompletesRight (PendingEntry.checkMatch a) es a ↔ RightFirst PendingEntry.SharesHash es a) ∧
    (CompletesRight (PendingEntry.messageReceived noOpcode a) es a ↔
      RightFirst (PendingEntry.SharesDestination noOpcode) es a) := by
  rw [completesRight_iff, completesRight_iff]
  simp only [PendingEntry.checkMatch_isSome_iff, PendingEntry.messageReceived_isSome_iff]
  exact ⟨Iff.rfl, Iff.rfl⟩

/-- An entry for a command that is waited for. -/
def PendingEntry.ofBytes (bytes : List UInt8) : PendingEntry :=
  ⟨Command.clear.pushArray bytes, 0xFFFFFFFF, false⟩

/-- The driver has sent ACTIVE_SOURCE of the playback device to all. -/
def activeSourceAcked : Acknowledgement := ⟨some 0x82, 4, true, 15, 0⟩

/-- The driver has asked the TV for its power status. -/
def giveDevicePowerStatusAcked : Acknowledgement := ⟨some 0x8F, 4, true, 0, 0⟩

/-- In the queue of the TDA995x the acknowledgement of ACTIVE_SOURCE completes the question to the
    TV for its power status; that of the question completes a poll of the TV in the other queue. -/
theorem acknowledges_other :
    (¬ ∀ (es : List PendingEntry) (a : Acknowledgement),
      CompletesRight (PendingEntry.checkMatch a) es a) ∧
    ¬ ∀ (noOpcode : UInt8) (es : List PendingEntry) (a : Acknowledgement),
      CompletesRight (PendingEntry.messageReceived noOpcode a) es a := by
  refine ⟨fun h => ?_, fun h => ?_⟩
  · have hright := completesRight_def.mp (h [.ofBytes [0x40, 0x8F], .ofBytes [0x4F, 0x82, 0x10, 0x00]]
      activeSourceAcked) (.ofBytes [0x40, 0x8F]) _
      (.intro [] (PendingEntry.complete (.ofBytes [0x40, 0x8F]) 0) _ (by simp) rfl)
    exact absurd hright.opcode (by decide)
  · have hright := completesRight_def.mp (h 0xFD [.ofBytes [0x40], .ofBytes [0x40, 0x8F]]
      giveDevicePowerStatusAcked) (.ofBytes [0x40]) _
      (.intro [] (PendingEntry.complete (.ofBytes [0x40]) 0) _ (by simp) rfl)
    exact absurd hright.opcode (by decide)

end CEC
