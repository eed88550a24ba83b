import LibCec.AdapterMessage
import Mathlib.Data.List.Range
import Mathlib.Data.List.Induction
import Mathlib.Tactic.SplitIfs

/-! The loop of `CCECProcessor::Transmit`.

    The handler of the initiator says how often a transmission is retried. The loop counts its
    passes before it tests them, so that there is one less than `iMaxTries`:

        iMaxTries = retries + 1
        while (bRetry && ++iTries < iMaxTries)   pass 1, …, pass `retries`
          unsupported ──▶ return false
          not open    ──▶ error, retry line timeout
          Write       ──▶ state, bRetry, retry line timeout

    A write that asks for another one is thus not always followed by one, and no write is made when
    there are no retries. `retried_iff` says for which outcomes the writes are as they should be. -/

namespace CEC

/-- What a pass meets: the opcode is marked as unsupported, the processor is stopped or the
    connection isn't open, or `Write` leaves a state and `bRetry`. -/
inductive TransmitPass where
  | unsupported
  | notOpen
  | write (state : MessageState) (bRetry : Bool)

/-- A call of `Write`: the line timeout that it is given, what it returns, and `bRetry` after it. -/
structure TransmitWrite where
  iLineTimeout : UInt8
  state : MessageState
  bRetry : Bool

/-- The variables of the loop. `writes` is history. -/
structure TransmitLoop where
  bRetry : Bool
  iTries : UInt8
  adapterState : MessageState
  iLineTimeout : UInt8
  writes : List TransmitWrite

namespace TransmitLoop

/-- What is returned after the loop. -/
def result (bIsReply : Bool) (s : TransmitLoop) : Bool :=
  if bIsReply then
    s.adapterState = .sentAcked || s.adapterState = .sent || s.adapterState = .waitingToBeSent
  else s.adapterState = .sentAcked

/-- The loop, with what it meets in the pass of each number and a bound on its passes. -/
def run (iMaxTries iRetryLineTimeout : UInt8) (bIsReply : Bool) (passes : ℕ → TransmitPass) :
    ℕ → TransmitLoop → Option (Bool × List TransmitWrite)
  | 0, _ => none
  | fuel + 1, s =>
    if s.bRetry then
      let s := { s with iTries := s.iTries + 1 }
      if s.iTries < iMaxTries then
        match passes s.iTries.toNat with
        | .unsupported => some (false, s.writes)
        | .notOpen => run iMaxTries iRetryLineTimeout bIsReply passes fuel
          { s with adapterState := .error, iLineTimeout := iRetryLineTimeout }
        | .write state bRetry => run iMaxTries iRetryLineTimeout bIsReply passes fuel
          { s with
            bRetry := bRetry
            adapterState := state
            iLineTimeout := iRetryLineTimeout
            writes := s.writes ++ [⟨s.iLineTimeout, state, bRetry⟩] }
      else some (s.result bIsReply, s.writes)
    else some (s.result bIsReply, s.writes)

end TransmitLoop

/-- `GetTransmitRetries`. -/
def getTransmitRetries (iTransmitRetries : Int8) : UInt8 := iTransmitRetries.toUInt8

/-- `Transmit` of a command that passes the checks before the loop. -/
def transmitTries (iTransmitRetries : Int8) (iStandardLineTimeout iRetryLineTimeout : UInt8)
    (bIsReply : Bool) (passes : ℕ → TransmitPass) : Option (Bool × List TransmitWrite) :=
  TransmitLoop.run (getTransmitRetries iTransmitRetries + 1) iRetryLineTimeout bIsReply passes 256
    ⟨true, 0, .unknown, iStandardLineTimeout, []⟩

/-- A write after which another one is due. -/
def TransmitWrite.Asks (w : TransmitWrite) : Prop := w.bRetry ∧ w.state ≠ .sentAcked

/-- The writes of a transmission with this many retries: a first one, and another one as long as
    the last one asks for it and there are retries left. -/
structure Retried (retries : ℕ) (iStandardLineTimeout iRetryLineTimeout : UInt8)
    (writes : List TransmitWrite) : Prop where
  once : writes ≠ []
  most : writes.length ≤ retries + 1
  again : ∀ past w later, writes = past ++ w :: later →
    (later ≠ [] ↔ w.Asks ∧ past.length + 1 < retries + 1)
  timeout : ∀ past w later, writes = past ++ w :: later →
    w.iLineTimeout = if past = [] then iStandardLineTimeout else iRetryLineTimeout

/-! ### When the writes are as they should be -/

/-- The number of passes that there is room for. One retry more than an `uint8_t` holds is none. -/
def maxPasses (retries : UInt8) : ℕ := if retries = 255 then 0 else retries.toNat

/-- What the passes that there is room for meet. -/
def firstPasses (retries : UInt8) (passes : ℕ → TransmitPass) : List TransmitPass :=
  (List.range' 1 (maxPasses retries)).map passes

/-- A pass after which the loop goes on, and has to. -/
def TransmitPass.GoesOn : TransmitPass → Prop
  | .unsupported => False
  | .notOpen => True
  | .write state bRetry => bRetry ∧ state ≠ .sentAcked

/-- The opcode becomes unsupported before the next write. -/
def WritesNothing (ps : List TransmitPass) : Prop :=
  ∀ past state bRetry later, ps = past ++ .write state bRetry :: later → .unsupported ∈ past

/-- A write ends the matter within these passes: it asks for no other one, or it was acked and none
    follows by chance. -/
def Settles (ps : List TransmitPass) : Prop :=
  ∃ past state bRetry later, ps = past ++ .write state bRetry :: later ∧
    (∀ p ∈ past, p.GoesOn) ∧ (bRetry = false ∨ state = .sentAcked ∧ WritesNothing later)

/-- The connection is not open yet in the first pass. -/
def FirstNotOpen (ps : List TransmitPass) : Prop := ps.head? = some .notOpen

/-! ### The writes of a list of passes -/

section Passes

variable {iMaxTries iRetryLineTimeout : UInt8} {bIsReply : Bool} {passes : ℕ → TransmitPass}

/-- The writes that these passes make. -/
def writesOf (iRetryLineTimeout : UInt8) : List TransmitPass → UInt8 → List TransmitWrite
  | [], _ | .unsupported :: _, _ => []
  | .notOpen :: ps, _ => writesOf iRetryLineTimeout ps iRetryLineTimeout
  | .write state bRetry :: ps, iLineTimeout =>
    ⟨iLineTimeout, state, bRetry⟩ ::
      if bRetry then writesOf iRetryLineTimeout ps iRetryLineTimeout else []

theorem length_writesOf_le : ∀ (ps : List TransmitPass) (iLineTimeout : UInt8),
    (writesOf iRetryLineTimeout ps iLineTimeout).length ≤ ps.length
  | [], _ | .unsupported :: _, _ => Nat.zero_le _
  | .notOpen :: ps, _ => (length_writesOf_le ps _).trans (Nat.le_succ _)
  | .write state bRetry :: ps, _ => by
    have hle := length_writesOf_le ps iRetryLineTimeout
    simp only [writesOf, List.length_cons]
    split
    · exact Nat.succ_le_succ hle
    · exact Nat.succ_le_succ (Nat.zero_le _)

/-- The loop makes the writes of the passes that it has room for, and returns. -/
theorem run_eq :
    ∀ (n : ℕ) (fuel : ℕ) (s : TransmitLoop), s.bRetry → n < fuel →
      s.iTries.toNat + n + 1 = iMaxTries.toNat → ∃ b,
        TransmitLoop.run iMaxTries iRetryLineTimeout bIsReply passes fuel s = some (b, s.writes ++
          writesOf iRetryLineTimeout ((List.range' (s.iTries.toNat + 1) n).map passes)
            s.iLineTimeout)
  | _, 0, _, _, hfuel, _ => absurd hfuel (Nat.not_lt_zero _)
  | n, fuel + 1, s, hretry, hfuel, htries => by
    have hbound := iMaxTries.toNat_lt
    have hnext : (s.iTries + 1).toNat = s.iTries.toNat + 1 := by
      rw [UInt8.toNat_add, UInt8.toNat_one]
      omega
    have hlt : s.iTries + 1 < iMaxTries ↔ 0 < n := by
      rw [UInt8.lt_iff_toNat_lt, hnext]
      omega
    cases n with
    | zero =>
      refine ⟨TransmitLoop.result bIsReply { s with iTries := s.iTries + 1 }, ?_⟩
      rw [TransmitLoop.run, if_pos hretry]
      simp only [hlt, lt_irrefl, if_false, List.range'_zero, List.map_nil, writesOf,
        List.append_nil]
    | succ n =>
      have hgo := hlt.mpr n.succ_pos
      rw [TransmitLoop.run, if_pos hretry]
      simp only [hgo, if_true, hnext, List.range'_succ, List.map_cons]
      cases passes (s.iTries.toNat + 1) with
      | unsupported => exact ⟨false, by simp [writesOf]⟩
      | notOpen =>
        obtain ⟨b, hb⟩ := run_eq n fuel { s with
          iTries := s.iTries + 1
          adapterState := .error
          iLineTimeout := iRetryLineTimeout } hretry (by omega) (by simp only [hnext]; omega)
        simp only [hnext] at hb
        exact ⟨b, hb⟩
      | write state bRetry =>
        cases bRetry with
        | false =>
          -- the test of the next pass ends the loop
          obtain ⟨fuel, rfl⟩ : ∃ m, fuel = m + 1 := ⟨fuel - 1, by omega⟩
          exact ⟨_, by simp [TransmitLoop.run, writesOf]; rfl⟩
        | true =>
          obtain ⟨b, hb⟩ := run_eq n fuel { s with
            bRetry := true
            iTries := s.iTries + 1
            adapterState := state
            iLineTimeout := iRetryLineTimeout
            writes := s.writes ++ [⟨s.iLineTimeout, state, true⟩] } rfl (by omega)
            (by simp only [hnext]; omega)
          simp only [hnext, List.append_assoc] at hb
          exact ⟨b, by simpa [writesOf] using hb⟩

/-- `Transmit` returns, after the writes of the passes that there is room for. -/
theorem transmitTries_eq (iTransmitRetries : Int8) (iStandardLineTimeout : UInt8) : ∃ b,
    transmitTries iTransmitRetries iStandardLineTimeout iRetryLineTimeout bIsReply passes =
      some (b, writesOf iRetryLineTimeout (firstPasses (getTransmitRetries iTransmitRetries) passes)
        iStandardLineTimeout) := by
  rw [transmitTries, firstPasses, maxPasses]
  generalize getTransmitRetries iTransmitRetries = retries
  by_cases hwrap : retries = 255
  · -- no pass at all: the number of tries has become 0
    subst hwrap
    exact ⟨_, rfl⟩
  · have hbound := retries.toNat_lt
    have hne : retries.toNat ≠ 255 := fun h => hwrap (UInt8.toNat_inj.mp h)
    have hmax : (retries + 1).toNat = retries.toNat + 1 := by
      rw [UInt8.toNat_add, UInt8.toNat_one]
      omega
    rw [if_neg hwrap]
    exact run_eq retries.toNat 256 ⟨true, 0, .unknown, iStandardLineTimeout, []⟩ rfl (by omega)
      (by rw [hmax]; exact congrArg (· + 1) (Nat.zero_add _))

/-- After the first write, and after a pass without one, the retry line timeout is used. -/
theorem iLineTimeout_of_mem_writesOf {ps : List TransmitPass} {w : TransmitWrite}
    (hw : w ∈ writesOf iRetryLineTimeout ps iRetryLineTimeout) :
    w.iLineTimeout = iRetryLineTimeout := by
  induction ps with
  | nil => exact absurd hw (List.not_mem_nil)
  | cons p ps ih =>
    cases p with
    | unsupported => exact absurd hw (List.not_mem_nil)
    | notOpen => exact ih hw
    | write state bRetry =>
      rcases List.mem_cons.mp hw with rfl | hw
      · rfl
      · split at hw
        · exact ih hw
        · exact absurd hw (List.not_mem_nil)

/-- The first write uses the standard line timeout and the others the retry line timeout, iff the
    first pass is not spent on a closed connection or the two are the same. -/
theorem timeouts_iff {iStandardLineTimeout : UInt8} {ps : List TransmitPass}
    (hsome : writesOf iRetryLineTimeout ps iStandardLineTimeout ≠ []) :
    (∀ past w later, writesOf iRetryLineTimeout ps iStandardLineTimeout = past ++ w :: later →
      w.iLineTimeout = if past = [] then iStandardLineTimeout else iRetryLineTimeout) ↔
    (FirstNotOpen ps → iStandardLineTimeout = iRetryLineTimeout) := by
  rcases ps with - | ⟨p, ps⟩
  · exact absurd rfl hsome
  cases p with
  | unsupported => exact absurd rfl hsome
  | notOpen =>
    have hretry : ∀ w ∈ writesOf iRetryLineTimeout ps iRetryLineTimeout,
        w.iLineTimeout = iRetryLineTimeout := fun _ => iLineTimeout_of_mem_writesOf
    simp only [FirstNotOpen, List.head?_cons, forall_const]
    simp only [writesOf] at hsome ⊢
    constructor
    · intro h
      obtain ⟨w, later, hw⟩ := List.exists_cons_of_ne_nil hsome
      have hfirst := h [] w later hw
      rw [if_pos rfl] at hfirst
      rw [← hfirst]
      exact hretry w (hw ▸ List.mem_cons_self)
    · rintro rfl past w later hw
      rw [ite_self]
      exact hretry w (hw ▸ List.mem_append_right _ List.mem_cons_self)
  | write state bRetry =>
    refine iff_of_true (fun past w later hw => ?_) (fun h => by simp [FirstNotOpen] at h)
    rcases past with - | ⟨w', past⟩
    · obtain ⟨rfl, -⟩ := List.cons.inj hw
      rfl
    · have hlater := (List.cons.inj hw).2
      have hmem : w ∈ (if bRetry then writesOf iRetryLineTimeout ps iRetryLineTimeout else []) := by
        rw [hlater]
        exact List.mem_append_right _ List.mem_cons_self
      split at hmem
      · exact iLineTimeout_of_mem_writesOf hmem
      · exact absurd hmem (List.not_mem_nil)

/-- The writes are ended by one that does not ask for another, and by no other one. -/
def EndsAsked (ws : List TransmitWrite) : Prop :=
  ∃ past w, ws = past ++ [w] ∧ (∀ w ∈ past, w.Asks) ∧ ¬ w.Asks

theorem endsAsked_cons {w : TransmitWrite} {ws : List TransmitWrite} :
    EndsAsked (w :: ws) ↔ ¬ w.Asks ∧ ws = [] ∨ w.Asks ∧ EndsAsked ws := by
  constructor
  · rintro ⟨past, w', hws, hpast, hlast⟩
    rcases past with - | ⟨w₀, past⟩
    · obtain ⟨rfl, rfl⟩ := List.cons.inj hws
      exact .inl ⟨hlast, rfl⟩
    · obtain ⟨rfl, hrest⟩ := List.cons.inj hws
      exact .inr ⟨hpast _ List.mem_cons_self,
        past, w', hrest, fun w hw => hpast w (List.mem_cons_of_mem _ hw), hlast⟩
  · rintro (⟨hlast, rfl⟩ | ⟨hw, past, w', rfl, hpast, hlast⟩)
    · exact ⟨[], w, rfl, by simp, hlast⟩
    · exact ⟨w :: past, w', rfl, List.forall_mem_cons.mpr ⟨hw, hpast⟩, hlast⟩

/-- As long as there are retries left, that is what is asked of the writes. -/
theorem again_iff {retries : ℕ} {ws : List TransmitWrite} (hlength : ws.length ≤ retries) :
    (ws ≠ [] ∧ ∀ past w later, ws = past ++ w :: later →
      (later ≠ [] ↔ w.Asks ∧ past.length + 1 < retries + 1)) ↔ EndsAsked ws := by
  have hroom : ∀ past w later, ws = past ++ w :: later → past.length + 1 < retries + 1 := by
    rintro past w later rfl
    simp only [List.length_append, List.length_cons] at hlength
    omega
  constructor
  · rintro ⟨hsome, hagain⟩
    rcases List.eq_nil_or_concat ws with rfl | ⟨past, w, rfl⟩
    · exact absurd rfl hsome
    rw [List.concat_eq_append] at hagain hroom ⊢
    refine ⟨past, w, rfl, fun w' hw' => ?_, fun hasks => ?_⟩
    · obtain ⟨before, after, rfl⟩ := List.append_of_mem hw'
      refine ((hagain before w' (after ++ [w]) (by simp)).mp ?_).1
      exact List.append_ne_nil_of_right_ne_nil _ (List.cons_ne_nil _ _)
    · exact (hagain past w [] rfl).mpr ⟨hasks, hroom past w [] rfl⟩ rfl
  · rintro ⟨past, w, rfl, hpast, hlast⟩
    refine ⟨by simp, fun before w' after hws => ?_⟩
    rw [and_iff_left (hroom before w' after hws)]
    rcases List.eq_nil_or_concat after with rfl | ⟨after, w'', rfl⟩
    · obtain ⟨-, hw⟩ := List.append_inj' hws rfl
      cases hw
      exact iff_of_false (fun h => h rfl) hlast
    · rw [List.concat_eq_append, ← List.cons_append, ← List.append_assoc] at hws
      have hbefore := (List.append_inj' hws rfl).1
      exact iff_of_true (by simp) (hpast w' (by rw [hbefore]; simp))

/-! ### Which passes bring them about -/

theorem writesOf_eq_nil_iff : ∀ {ps : List TransmitPass} {iLineTimeout : UInt8},
    writesOf iRetryLineTimeout ps iLineTimeout = [] ↔ WritesNothing ps
  | [], _ => by simp [writesOf, WritesNothing]
  | .unsupported :: ps, _ => by
    refine iff_of_true rfl fun past state bRetry later hps => ?_
    rcases past with - | ⟨p, past⟩
    · simp at hps
    · obtain ⟨rfl, -⟩ := List.cons.inj hps
      exact List.mem_cons_self
  | .notOpen :: ps, _ => by
    rw [writesOf, writesOf_eq_nil_iff]
    constructor
    · intro h past state bRetry later hps
      rcases past with - | ⟨p, past⟩
      · simp at hps
      · exact List.mem_cons_of_mem _ (h past state bRetry later (List.cons.inj hps).2)
    · intro h past state bRetry later hps
      have hmem := h (.notOpen :: past) state bRetry later (by rw [hps, List.cons_append])
      simpa using hmem
  | .write state bRetry :: ps, _ => by
    refine iff_of_false (by simp [writesOf]) fun h => ?_
    exact absurd (h [] state bRetry ps rfl) (List.not_mem_nil)

/-- How the matter is settled by a first pass and the others. -/
theorem settles_cons {p : TransmitPass} {ps : List TransmitPass} : Settles (p :: ps) ↔
    (∃ state bRetry, p = .write state bRetry ∧
      (bRetry = false ∨ state = .sentAcked ∧ WritesNothing ps)) ∨ p.GoesOn ∧ Settles ps := by
  constructor
  · rintro ⟨past, state, bRetry, later, hps, hpast, hlast⟩
    rcases past with - | ⟨p', past⟩
    · obtain ⟨rfl, rfl⟩ := List.cons.inj hps
      exact .inl ⟨state, bRetry, rfl, hlast⟩
    · obtain ⟨rfl, hrest⟩ := List.cons.inj hps
      exact .inr ⟨hpast _ List.mem_cons_self, past, state, bRetry, later, hrest,
        fun p hp => hpast p (List.mem_cons_of_mem _ hp), hlast⟩
  · rintro (⟨state, bRetry, rfl, hlast⟩ | ⟨hp, past, state, bRetry, later, rfl, hpast, hlast⟩)
    · exact ⟨[], state, bRetry, ps, rfl, by simp, hlast⟩
    · exact ⟨p :: past, state, bRetry, later, rfl, List.forall_mem_cons.mpr ⟨hp, hpast⟩, hlast⟩

theorem endsAsked_iff : ∀ {ps : List TransmitPass} {iLineTimeout : UInt8},
    EndsAsked (writesOf iRetryLineTimeout ps iLineTimeout) ↔ Settles ps
  | [], _ => by simp [writesOf, EndsAsked, Settles]
  | .unsupported :: ps, _ => by
    rw [settles_cons]
    simp [writesOf, EndsAsked, TransmitPass.GoesOn]
  | .notOpen :: ps, _ => by
    rw [settles_cons, writesOf, endsAsked_iff]
    simp [TransmitPass.GoesOn]
  | .write state bRetry :: ps, _ => by
    rw [settles_cons, writesOf, endsAsked_cons]
    cases bRetry with
    | false => simp [TransmitWrite.Asks, TransmitPass.GoesOn]
    | true =>
      rw [if_pos rfl, writesOf_eq_nil_iff, endsAsked_iff]
      by_cases hacked : state = .sentAcked <;>
        simp [TransmitWrite.Asks, TransmitPass.GoesOn, hacked]

end Passes

/-- The writes of a command are as they should be iff one of them settles the matter within the
    passes that there are, and the first pass makes a write or the two line timeouts are the same. -/
theorem retried_iff (iTransmitRetries : Int8) (iStandardLineTimeout iRetryLineTimeout : UInt8)
    (bIsReply : Bool) (passes : ℕ → TransmitPass) :
    (∃ b writes, transmitTries iTransmitRetries iStandardLineTimeout iRetryLineTimeout bIsReply
        passes = some (b, writes) ∧
      Retried (getTransmitRetries iTransmitRetries).toNat iStandardLineTimeout iRetryLineTimeout
        writes) ↔
    Settles (firstPasses (getTransmitRetries iTransmitRetries) passes) ∧
      (FirstNotOpen (firstPasses (getTransmitRetries iTransmitRetries) passes) →
        iStandardLineTimeout = iRetryLineTimeout) := by
  obtain ⟨b, hb⟩ := @transmitTries_eq iRetryLineTimeout bIsReply passes iTransmitRetries
    iStandardLineTimeout
  set ps := firstPasses (getTransmitRetries iTransmitRetries) passes with hps
  set ws := writesOf iRetryLineTimeout ps iStandardLineTimeout with hws
  have hlength : ws.length ≤ (getTransmitRetries iTransmitRetries).toNat := by
    refine (length_writesOf_le ps iStandardLineTimeout).trans ?_
    rw [hps, firstPasses, List.length_map, List.length_range', maxPasses]
    split
    · exact Nat.zero_le _
    · exact le_rfl
  rw [← @endsAsked_iff iRetryLineTimeout ps iStandardLineTimeout, ← hws, ← again_iff hlength]
  constructor
  · rintro ⟨b', ws', heq, hretried⟩
    rw [hb, Option.some.injEq, Prod.mk.injEq] at heq
    obtain ⟨-, rfl⟩ := heq
    exact ⟨⟨hretried.once, hretried.again⟩, (timeouts_iff hretried.once).mp hretried.timeout⟩
  · rintro ⟨⟨hsome, hagain⟩, htimeout⟩
    exact ⟨b, ws, hb, hsome, hlength.trans (Nat.le_succ _), hagain,
      (timeouts_iff hsome).mpr htimeout⟩

/-- A write that is not acked is not repeated with the one retry that the base handler has. -/
theorem not_retried : ¬ ∀ (iTransmitRetries : Int8) (iStandardLineTimeout iRetryLineTimeout : UInt8)
    (bIsReply : Bool) (passes : ℕ → TransmitPass), ∃ b writes,
    transmitTries iTransmitRetries iStandardLineTimeout iRetryLineTimeout bIsReply passes =
        some (b, writes) ∧
      Retried (getTransmitRetries iTransmitRetries).toNat iStandardLineTimeout iRetryLineTimeout
        writes := by
  intro h
  obtain ⟨b, ws, heq, hretried⟩ := h 1 3 3 false fun _ => .write .sentNotAcked true
  have hrun : some (false, [⟨3, .sentNotAcked, true⟩]) = some (b, ws) := heq
  rw [Option.some.injEq, Prod.mk.injEq] at hrun
  obtain ⟨-, rfl⟩ := hrun
  have hasks : TransmitWrite.Asks ⟨3, .sentNotAcked, true⟩ := ⟨rfl, by simp⟩
  exact (hretried.again [] _ [] rfl).mpr ⟨hasks, by decide⟩ rfl

end CEC
