import LibCec.SerialPort

/-! The bytes between the serial port and the messages.

    `SocketRead` waits for data and reads, until it has what it was asked for or its time is up. Its
    callers know of an error by the error number alone:

        SocketRead      select ─▶ read ─▶ select ─▶ read ─▶ … ─▶ all, or time is up
                           └── error ──┴─▶ -errno, and what was read so far stays in the buffer
        ReadFromDevice  Read ─EINTR─▶ Read ─EINTR─▶ … ─▶ AddData
        Process         ReadFromDevice ─▶ ReadFromDevice ─▶ … ─▶ CEC_ALERT_CONNECTION_LOST

    A call that fails has taken from the port what it leaves in the buffer, and nobody looks there.
    `reader_loses_iff` says that this is the only way to lose a byte. -/

namespace CEC

/-! ### `SocketRead` and `SocketWrite` -/

/-- One round of the loop of `SocketRead`: whether the time is up before it, whether `select` finds
    something, and how many bytes `read` returns, if there are as many. -/
structure ReadRound where
  expired : Bool
  select : Except Errno Bool
  read : Except Errno ℕ

/-- A call that has returned: its result, the error number, what it put into the buffer, and what is
    left in the port. -/
structure ReadCall where
  result : Int
  iError : ℕ
  buffer : List UInt8
  port : List UInt8

namespace ReadCall

/-- The call returns what it has read. -/
def finished (buffer port : List UInt8) : ReadCall := ⟨buffer.length, 0, buffer, port⟩

/-- The call returns an error. -/
def failed (e : Errno) (buffer port : List UInt8) : ReadCall := ⟨-e.val, e, buffer, port⟩

end ReadCall

/-- `SocketRead`, from what it has in its buffer; without a timeout it waits for ever. It has not
    returned when there is no further round. -/
def socketRead (len iTimeoutMs : ℕ) (buffer port : List UInt8) : List ReadRound → Option ReadCall
  | [] => if buffer.length < len then none else some (.finished buffer port)
  | r :: rounds =>
    if ¬buffer.length < len ∨ iTimeoutMs ≠ 0 ∧ r.expired then some (.finished buffer port)
    else match r.select with
    | .error e => some (.failed e buffer port)
    | .ok false => some (.finished buffer port)
    | .ok true =>
      match r.read with
      | .error e => some (.failed e buffer port)
      | .ok n =>
        let n := min n (len - buffer.length)
        socketRead len iTimeoutMs (buffer ++ port.take n) (port.drop n) rounds

/-- One round of the loop of `SocketWrite`. -/
structure WriteRound where
  select : Except Errno Bool
  write : Except Errno ℕ

/-- `ETIMEDOUT`. -/
def etimedout : ℕ := 110

/-- `SocketWrite`: its result, and what was written. -/
def socketWrite (data written : List UInt8) : List WriteRound → Option (Int × List UInt8)
  | [] => if written.length < data.length then none else some (written.length, written)
  | r :: rounds =>
    if ¬written.length < data.length then some (written.length, written)
    else match r.select with
    | .error e => some (-e.val, written)
    | .ok false => some (-etimedout, written)
    | .ok true =>
      match r.write with
      | .error e => some (-e.val, written)
      | .ok n => socketWrite data (written ++ (data.drop written.length).take n) rounds

/-- The port gets the beginning of the data, and all of it iff the result is its length. -/
theorem socketWrite_spec {data : List UInt8} : ∀ {rounds : List WriteRound} {written : List UInt8}
    {result : Int} {sent : List UInt8}, written <+: data →
    socketWrite data written rounds = some (result, sent) →
    sent <+: data ∧ (result = data.length ↔ sent = data)
  | rounds, written, result, sent, hsent, h => by
    have hdone : ¬written.length < data.length → written = data := fun hlen =>
      hsent.eq_of_length_le (Nat.le_of_not_lt hlen)
    have hfailed : ∀ e : ℕ, e ≠ 0 → written.length < data.length →
        ((-(e : Int) = data.length) ↔ written = data) := by
      intro e he hlen
      refine iff_of_false (by omega) ?_
      rintro rfl
      exact Nat.lt_irrefl _ hlen
    match rounds with
    | [] =>
      rw [socketWrite] at h
      split at h
      · cases h
      · rename_i hlen
        obtain ⟨rfl, rfl⟩ := Prod.mk.inj (Option.some.inj h)
        exact ⟨hsent, iff_of_true (by rw [hdone hlen]) (hdone hlen)⟩
    | r :: rounds =>
      rw [socketWrite] at h
      split at h
      · rename_i hlen
        obtain ⟨rfl, rfl⟩ := Prod.mk.inj (Option.some.inj h)
        exact ⟨hsent, iff_of_true (by rw [hdone hlen]) (hdone hlen)⟩
      · rename_i hlen
        have hlen := Decidable.not_not.mp hlen
        split at h
        · rename_i e _
          obtain ⟨rfl, rfl⟩ := Prod.mk.inj (Option.some.inj h)
          exact ⟨hsent, hfailed e.val e.property hlen⟩
        · obtain ⟨rfl, rfl⟩ := Prod.mk.inj (Option.some.inj h)
          exact ⟨hsent, hfailed etimedout (by decide) hlen⟩
        · split at h
          · rename_i e _
            obtain ⟨rfl, rfl⟩ := Prod.mk.inj (Option.some.inj h)
            exact ⟨hsent, hfailed e.val e.property hlen⟩
          · rename_i n _
            refine socketWrite_spec ?_ h
            obtain ⟨rest, rfl⟩ := hsent
            rw [List.drop_left]
            exact (List.prefix_append_right_inj written).mpr (List.take_prefix n rest)

/-! ### The reader thread -/

/-- `ReadFromDevice` while the port is open: whether it goes on, what it passes to `AddData`, and the
    calls of `Read`. -/
structure Reading where
  ok : Bool
  added : List UInt8
  calls : List ReadCall
  port : List UInt8

/-- The end of `ReadFromDevice`, after the last call. -/
def ReadCall.reading (c : ReadCall) : Reading :=
  if c.iError ≠ 0 then ⟨false, [], [c], c.port⟩
  else if c.result < 0 ∨ 256 < c.result then ⟨false, [], [c], c.port⟩
  else if 0 < c.result then ⟨true, c.buffer, [c], c.port⟩
  else ⟨true, [], [c], c.port⟩

/-- `ReadFromDevice`: each `Read` has its rounds, and is made again when it was interrupted. -/
def readFromDevice (iTimeout iSize : ℕ) (port : List UInt8) : List (List ReadRound) → Option Reading
  | [] => none
  | rounds :: calls =>
    (socketRead (min iSize 256) iTimeout [] port rounds).bind fun c =>
      if c.iError = eintr then
        (readFromDevice iTimeout iSize c.port calls).map fun r => { r with calls := c :: r.calls }
      else some c.reading

/-- One pass of the loop of `Process`. -/
structure ReaderPass where
  stopped : Bool
  portIsOpen : Bool
  calls : List (List ReadRound)

/-- What the reader thread has done. -/
structure ReaderRun where
  added : List UInt8
  calls : List ReadCall
  port : List UInt8
  connectionLost : Bool

/-- `Process`, which stops reading when it is told to, or when the connection is lost. -/
def readerProcess (port : List UInt8) : List ReaderPass → Option ReaderRun
  | [] => some ⟨[], [], port, false⟩
  | p :: ps =>
    if p.stopped then some ⟨[], [], port, false⟩
    else if !p.portIsOpen then some ⟨[], [], port, true⟩
    else (readFromDevice 50 5 port p.calls).bind fun r =>
      if r.ok then
        (readerProcess r.port ps).map fun run =>
          { run with added := r.added ++ run.added, calls := r.calls ++ run.calls }
      else some ⟨r.added, r.calls, r.port, true⟩

/-! ### What is read -/

/-- A call that has returned holds the bytes that it has taken from the port, and its result counts
    them unless it has failed. -/
structure ReadCall.Sound (c : ReadCall) (len : ℕ) (buffer port : List UInt8) : Prop where
  taken : buffer ++ port = c.buffer ++ c.port
  fits : c.buffer.length ≤ len
  counted : c.iError = 0 → c.result = c.buffer.length

theorem socketRead_sound {len iTimeoutMs : ℕ} : ∀ {rounds : List ReadRound} {buffer port : List UInt8}
    {c : ReadCall}, buffer.length ≤ len →
    socketRead len iTimeoutMs buffer port rounds = some c → c.Sound len buffer port
  | rounds, buffer, port, c, hfits, h => by
    have hfinished : ReadCall.Sound (.finished buffer port) len buffer port :=
      ⟨rfl, hfits, fun _ => rfl⟩
    have hfailed : ∀ e, ReadCall.Sound (.failed e buffer port) len buffer port := fun e =>
      ⟨rfl, hfits, fun herror => absurd herror e.property⟩
    match rounds with
    | [] =>
      rw [socketRead] at h
      split at h
      · cases h
      · obtain rfl := Option.some.inj h
        exact hfinished
    | r :: rounds =>
      rw [socketRead] at h
      split at h
      · obtain rfl := Option.some.inj h
        exact hfinished
      · split at h
        · obtain rfl := Option.some.inj h
          exact hfailed _
        · obtain rfl := Option.some.inj h
          exact hfinished
        · split at h
          · obtain rfl := Option.some.inj h
            exact hfailed _
          · rename_i n _
            have hmore : (buffer ++ port.take (min n (len - buffer.length))).length ≤ len := by
              rw [List.length_append, List.length_take]
              omega
            obtain ⟨htaken, hfits', hcounted⟩ := socketRead_sound hmore h
            refine ⟨?_, hfits', hcounted⟩
            rw [← htaken, List.append_assoc, List.take_append_drop]

/-- The bytes that some calls have taken from the port. -/
def takenBy (calls : List ReadCall) : List UInt8 := calls.flatMap ReadCall.buffer

/-- The bytes of the calls without an error. -/
def keptBy (calls : List ReadCall) : List UInt8 :=
  (calls.filter fun c => c.iError = 0).flatMap ReadCall.buffer

theorem keptBy_cons (c : ReadCall) (calls : List ReadCall) :
    keptBy (c :: calls) = (if c.iError = 0 then c.buffer else []) ++ keptBy calls := by
  by_cases h : c.iError = 0
  · simp [keptBy, h]
  · simp [keptBy, h]

theorem keptBy_append (calls calls' : List ReadCall) :
    keptBy (calls ++ calls') = keptBy calls ++ keptBy calls' := by
  simp [keptBy]

/-- What the calls have taken comes off the port, and what is passed on is what they have kept. -/
structure Reading.Sound (r : Reading) (port : List UInt8) : Prop where
  taken : port = takenBy r.calls ++ r.port
  added : r.added = keptBy r.calls

theorem readFromDevice_sound {iTimeout iSize : ℕ} : ∀ {calls : List (List ReadRound)}
    {port : List UInt8} {r : Reading}, readFromDevice iTimeout iSize port calls = some r →
    r.Sound port
  | [], _, _, h => by cases h
  | rounds :: calls, port, r, h => by
    obtain ⟨c, hc, h⟩ := Option.bind_eq_some_iff.mp h
    obtain ⟨htaken, hfits, hcounted⟩ := socketRead_sound (Nat.zero_le _) hc
    split at h
    · rename_i hinterrupted
      obtain ⟨r, hr, rfl⟩ := Option.map_eq_some_iff.mp h
      obtain ⟨htaken', hadded⟩ := readFromDevice_sound hr
      refine ⟨?_, ?_⟩
      · simp only [takenBy, List.flatMap_cons, List.append_assoc]
        rw [← takenBy, ← htaken', ← htaken, List.nil_append]
      · rw [keptBy_cons, if_neg (by rw [hinterrupted]; decide), List.nil_append]
        exact hadded
    · obtain rfl := Option.some.inj h
      have hone : port = takenBy [c] ++ c.port := by
        rw [takenBy, List.flatMap_singleton, ← htaken, List.nil_append]
      have hkept : keptBy [c] = if c.iError = 0 then c.buffer else [] := by
        rw [keptBy_cons]
        exact List.append_nil _
      rw [ReadCall.reading]
      split
      · rename_i herror
        exact ⟨hone, by rw [hkept, if_neg herror]⟩
      · rename_i herror
        have herror := Decidable.not_not.mp herror
        have hresult := hcounted herror
        split
        · rename_i hrange
          omega
        · split
          · exact ⟨hone, by rw [hkept, if_pos herror]⟩
          · have hempty : c.buffer = [] := List.eq_nil_of_length_eq_zero (by omega)
            exact ⟨hone, by rw [hkept, if_pos herror, hempty]⟩

theorem readerProcess_sound : ∀ {ps : List ReaderPass} {port : List UInt8} {run : ReaderRun},
    readerProcess port ps = some run →
    port = takenBy run.calls ++ run.port ∧ run.added = keptBy run.calls
  | [], _, _, h => by
    obtain rfl := Option.some.inj h
    exact ⟨rfl, rfl⟩
  | p :: ps, port, run, h => by
    rw [readerProcess] at h
    split at h
    · obtain rfl := Option.some.inj h
      exact ⟨rfl, rfl⟩
    · split at h
      · obtain rfl := Option.some.inj h
        exact ⟨rfl, rfl⟩
      · obtain ⟨r, hr, h⟩ := Option.bind_eq_some_iff.mp h
        obtain ⟨htaken, hadded⟩ := readFromDevice_sound hr
        split at h
        · obtain ⟨run, hrun, rfl⟩ := Option.map_eq_some_iff.mp h
          obtain ⟨htaken', hadded'⟩ := readerProcess_sound hrun
          refine ⟨?_, ?_⟩
          · simp only [takenBy, List.flatMap_append, List.append_assoc]
            rw [← takenBy, ← takenBy, ← htaken', ← htaken]
          · simp only [keptBy_append]
            rw [hadded, hadded']
        · obtain rfl := Option.some.inj h
          exact ⟨htaken, hadded⟩

/-- Leaving out parts of a list leaves it as it was iff they are empty. -/
theorem keptBy_eq_takenBy_iff : ∀ calls : List ReadCall, (keptBy calls).Sublist (takenBy calls) ∧
    (keptBy calls = takenBy calls ↔ ∀ c ∈ calls, c.iError ≠ 0 → c.buffer = [])
  | [] => ⟨List.Sublist.refl _, by simp [keptBy, takenBy]⟩
  | c :: calls => by
    obtain ⟨hsub, hiff⟩ := keptBy_eq_takenBy_iff calls
    have htaken : takenBy (c :: calls) = c.buffer ++ takenBy calls := List.flatMap_cons
    rw [keptBy_cons, htaken]
    by_cases herror : c.iError = 0
    · rw [if_pos herror]
      refine ⟨hsub.append_left _, ?_⟩
      rw [List.append_cancel_left_eq, hiff]
      simp [herror]
    · rw [if_neg herror, List.nil_append]
      refine ⟨hsub.trans (List.sublist_append_right _ _), ?_⟩
      constructor
      · intro heq
        have hlen := congrArg List.length heq
        have hle := hsub.length_le
        rw [List.length_append] at hlen
        have hempty : c.buffer = [] := List.eq_nil_of_length_eq_zero (by omega)
        rw [hempty, List.nil_append, hiff] at heq
        intro d hd
        rcases List.mem_cons.mp hd with rfl | hd
        · exact fun _ => hempty
        · exact heq d hd
      · intro h
        rw [h c List.mem_cons_self herror, List.nil_append, hiff]
        exact fun d hd => h d (List.mem_cons_of_mem _ hd)

/-- The reader passes the bytes of the port to the messages in their order, makes up none, and loses
    none iff each call of `Read` that failed had read nothing yet. -/
theorem reader_loses_iff {ps : List ReaderPass} {port : List UInt8} {run : ReaderRun}
    (h : readerProcess port ps = some run) :
    ∃ taken, port = taken ++ run.port ∧ run.added.Sublist taken ∧
      (run.added = taken ↔ ∀ c ∈ run.calls, c.iError ≠ 0 → c.buffer = []) := by
  obtain ⟨htaken, hadded⟩ := readerProcess_sound h
  rw [hadded]
  exact ⟨takenBy run.calls, htaken, keptBy_eq_takenBy_iff run.calls⟩

/-- A signal arrives when two of the five bytes have been read. -/
def interruptedPass : ReaderPass where
  stopped := false
  portIsOpen := true
  calls :=
    [[⟨false, .ok true, .ok 2⟩, ⟨false, .error ⟨4, by decide⟩, .ok 0⟩],
      [⟨false, .ok true, .ok 5⟩]]

theorem reader_loses_interrupted : ∃ run taken,
    readerProcess [0xFF, 0x08, 0xFE, 0xFF, 0x05, 0x40, 0xFE] [interruptedPass] = some run ∧
      [0xFF, 0x08, 0xFE, 0xFF, 0x05, 0x40, 0xFE] = taken ++ run.port ∧ run.added ≠ taken := by
  obtain ⟨taken, htaken, -, hiff⟩ :=
    @reader_loses_iff [interruptedPass] [0xFF, 0x08, 0xFE, 0xFF, 0x05, 0x40, 0xFE] _ rfl
  refine ⟨_, taken, rfl, htaken, mt hiff.mp fun hkept => ?_⟩
  have hlost := hkept ⟨-4, 4, [0xFF, 0x08], [0xFE, 0xFF, 0x05, 0x40, 0xFE]⟩ List.mem_cons_self
    (by decide)
  cases hlost

end CEC
