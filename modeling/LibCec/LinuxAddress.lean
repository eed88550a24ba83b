import LibCec.AddressChange
import LibCec.CommandFormat
import LibCec.Schemes.Debounce

/-! The physical address that the Linux adapter reports.

    The kernel announces the address of the adapter whenever it may have changed. A new EDID and other
    events make it invalid for a short time, so the thread of the adapter holds an address back:

        CEC_EVENT_STATE_CHANGE ──invalid──────────────────▶ 2000 ms ──┐
                               ──no logical address───────▶  500 ms ──┼──▶ HandlePhysicalAddressChanged
                               ──otherwise────────────────▶    0 ms ──┘

    One pass of its loop waits in `select`, takes an event, looks at the clock and takes a message, in
    this order. `process_debounced` says which addresses are reported, and `glitch_unnoticed` that a
    client does not notice an address that was lost for a shorter time. -/

namespace CEC
open Schemes Procedure

/-! ### `CTimeout` -/

/-- The nanoseconds of the steady clock in a millisecond. -/
def nsPerMs : ℕ := 1000000

/-- `CTimeout`. -/
structure CTimeout where
  bSet : Bool
  target : ℕ

namespace CTimeout

def unset : CTimeout := ⟨false, 0⟩

/-- `Init`. -/
def init (now iTimeout : ℕ) : CTimeout := ⟨true, now + iTimeout * nsPerMs⟩

/-- `TimeLeft`, in whole milliseconds. -/
def timeLeft (t : CTimeout) (now : ℕ) : ℕ :=
  if !t.bSet then 0 else if t.target ≤ now then 0 else (t.target - now) / nsPerMs

/-- No more is left than there was, so the result fits where the timeout does. -/
theorem timeLeft_init_le {start iTimeout now : ℕ} (h : start ≤ now) :
    (init start iTimeout).timeLeft now ≤ iTimeout := by
  have hns : 0 < nsPerMs := by decide
  have htarget : (init start iTimeout).target = start + iTimeout * nsPerMs := rfl
  have hset : (!(init start iTimeout).bSet) = false := rfl
  rw [timeLeft, hset, if_neg Bool.false_ne_true]
  split
  · exact Nat.zero_le _
  · calc ((init start iTimeout).target - now) / nsPerMs
        ≤ iTimeout * nsPerMs / nsPerMs := Nat.div_le_div_right (by omega)
      _ = iTimeout := Nat.mul_div_cancel _ hns

/-- Less than a millisecond counts as nothing. -/
theorem timeLeft_eq_zero_iff {t : CTimeout} {now : ℕ} (hset : t.bSet = true) :
    t.timeLeft now = 0 ↔ t.target + 1 - nsPerMs ≤ now := by
  have hns : 0 < nsPerMs := by decide
  simp only [timeLeft, hset, Bool.not_true, Bool.false_eq_true, if_false]
  split
  · omega
  · rw [Nat.div_eq_zero_iff_lt hns]
    omega

end CTimeout

/-! ### `Process` -/

namespace LinuxAdapter

/-- `cec_event`, of which only a change of the adapter's state counts. -/
inductive CecEvent where
  | stateChange (physAddr logAddrMask : UInt16)
  | other

/-- The sets of `select` that the descriptor is in. -/
structure Ready where
  exceptional : Bool
  readable : Bool

/-- What one pass of the loop meets: the stop flag where it is read, the results of the calls to the
    kernel, with their `errno`, and the clock when a timeout is set and when it is looked at. -/
structure Pass where
  stopped : Bool
  select : Except ℕ Ready
  event : Except ℕ CecEvent
  eventTime : ℕ
  checkTime : ℕ
  stoppedAtCheck : Bool
  message : Except ℕ CecMsg
  stoppedAtMessage : Bool

/-- What the thread tells the library. -/
inductive Call where
  | connectionLost
  | handlePhysicalAddressChanged (iNewAddress : UInt16)
  | onCommandReceived (cmd : Command)

/-- The address of a report. -/
def Call.address : Call → Option UInt16
  | .handlePhysicalAddressChanged a => some a
  | _ => none

/-- The addresses that are reported. -/
def addresses (calls : List Call) : List UInt16 := calls.filterMap Call.address

/-- The variables of the loop. -/
structure Watch where
  physAddrTimeout : CTimeout
  physAddrChanged : Bool
  physAddr : UInt16

def Watch.start : Watch := ⟨.unset, false, 0xFFFF⟩

/-- `DeviceGone`: `EBADF`, `ENODEV` or `ENXIO`. -/
def deviceGone (err : ℕ) : Bool := err = 9 || err = 19 || err = 6

/-- How long an address is held back, in milliseconds. -/
def debounceMs (physAddr logAddrMask : UInt16) : ℕ :=
  if physAddr = 0xFFFF then 2000 else if logAddrMask ≠ 0 then 0 else 500

/-- `CEC_DQEVENT`; nothing is left when the device is gone. -/
def Watch.dequeue (s : Watch) (p : Pass) (ready : Ready) : Option Watch :=
  if ready.exceptional then
    match p.event with
    | .error err => if deviceGone err then none else some s
    | .ok (.stateChange a mask) => some ⟨.init p.eventTime (debounceMs a mask), true, a⟩
    | .ok .other => some s
  else some s

/-- The look at the clock. -/
def Watch.check (s : Watch) (p : Pass) : Watch × List Call :=
  if s.physAddrChanged && s.physAddrTimeout.timeLeft p.checkTime = 0 && !p.stoppedAtCheck then
    ({ s with physAddrChanged := false }, [.handlePhysicalAddressChanged s.physAddr])
  else (s, [])

/-- `CEC_RECEIVE`: what is received, and whether the loop goes on. -/
def Pass.receive (p : Pass) (ready : Ready) : List Call × Bool :=
  if ready.readable then
    match p.message with
    | .error err => if deviceGone err then ([.connectionLost], false) else ([], true)
    | .ok msg =>
      match linuxReceived msg with
      | some cmd => (if p.stoppedAtMessage then [] else [.onCommandReceived cmd], true)
      | none => ([], true)
  else ([], true)

/-- One pass of the loop, and the variables unless it leaves the loop. -/
def Watch.pass (s : Watch) (p : Pass) : List Call × Option Watch :=
  if p.stopped then ([], none)
  else match p.select with
  | .error err => (if deviceGone err then [.connectionLost] else [], none)
  | .ok ready =>
    match s.dequeue p ready with
    | none => ([.connectionLost], none)
    | some s =>
      ((s.check p).2 ++ (p.receive ready).1, if (p.receive ready).2 then some (s.check p).1 else none)

/-- `Process`, which makes the passes until one of them leaves the loop. -/
def Watch.process : Watch → List Pass → List Call
  | _, [] => []
  | s, p :: ps =>
    match s.pass p with
    | (calls, some s) => calls ++ s.process ps
    | (calls, none) => calls

/-- The passes that `Process` makes, each with what it tells the library. -/
def Watch.trace : Watch → List Pass → List (Pass × List Call)
  | _, [] => []
  | s, p :: ps =>
    match s.pass p with
    | (calls, some s) => (p, calls) :: s.trace ps
    | (calls, none) => [(p, calls)]

/-! ### What a pass does, whatever the variables are -/

/-- The address that an event announces, if one is taken. -/
def announcedBy : Except ℕ CecEvent → Option (UInt16 × UInt16)
  | .ok (.stateChange a mask) => some (a, mask)
  | .ok .other | .error _ => none

namespace Pass

variable (p : Pass)

/-- The device is found to be gone when an event is taken. -/
def losesEvent (ready : Ready) : Bool :=
  ready.exceptional && match p.event with
    | .error err => deviceGone err
    | .ok _ => false

/-- The pass looks at the clock. -/
def checks : Bool :=
  !p.stopped && match p.select with
    | .error _ => false
    | .ok ready => !p.losesEvent ready

/-- The loop goes on after the pass. -/
def goesOn : Bool :=
  p.checks && match p.select with
    | .error _ => false
    | .ok ready => (p.receive ready).2

/-- The address that the kernel announces in the pass, with the mask of the logical addresses. -/
def announced : Option (UInt16 × UInt16) :=
  if p.checks then
    match p.select with
    | .error _ => none
    | .ok ready => if ready.exceptional then announcedBy p.event else none
  else none

/-- An address that was announced at a time and is held back for some milliseconds is reported, if
    it is still the one that is held. -/
def Passes (time ms : ℕ) : Prop :=
  p.checks = true ∧ p.stoppedAtCheck = false ∧ time + ms * nsPerMs < p.checkTime + nsPerMs

/-- The pass, as a look at the address that is held back. -/
def look : Look UInt16 where
  arrival := p.announced.map fun am =>
    ⟨am.1, (CTimeout.init p.eventTime (debounceMs am.1 am.2)).target + 1 - nsPerMs⟩
  time := p.checkTime
  deaf := !p.checks || p.stoppedAtCheck

end Pass

/-- The passes that the loop makes. -/
def made : List Pass → List Pass
  | [] => []
  | p :: ps => p :: if p.goesOn then made ps else []

/-- The address that is held back. -/
def Watch.held (s : Watch) : Option (HeldBack UInt16) :=
  if s.physAddrChanged then some ⟨s.physAddr, s.physAddrTimeout.target + 1 - nsPerMs⟩ else none

/-- An address is held back with a timeout. -/
def Watch.Timed (s : Watch) : Prop := s.physAddrChanged = true → s.physAddrTimeout.bSet = true

variable {s : Watch} {p : Pass} {ready : Ready}

theorem look_finds_iff {a mask : UInt16} {q : Pass} :
    p.look.Finds ⟨a, (CTimeout.init q.eventTime (debounceMs a mask)).target + 1 - nsPerMs⟩ ↔
      p.Passes q.eventTime (debounceMs a mask) := by
  have hns : 0 < nsPerMs := by decide
  simp only [Look.Finds, Pass.look, Pass.Passes, CTimeout.init, Bool.or_eq_false_iff,
    Bool.not_eq_false']
  constructor
  · rintro ⟨htime, hchecks, hstopped⟩
    exact ⟨hchecks, hstopped, by omega⟩
  · rintro ⟨hchecks, hstopped, htime⟩
    exact ⟨by omega, hchecks, hstopped⟩

/-- A pass that leaves the loop before it looks at the clock reports no address. -/
theorem pass_of_not_checks (hchecks : p.checks = false) :
    addresses (s.pass p).1 = [] ∧ (s.pass p).2 = none := by
  rw [Watch.pass]
  split
  · exact ⟨rfl, rfl⟩
  · rename_i hstopped
    rw [Pass.checks] at hchecks
    split
    · split
      · exact ⟨rfl, rfl⟩
      · exact ⟨rfl, rfl⟩
    · rename_i ready hselect
      have hloses : p.losesEvent ready = true := by simpa [hstopped, hselect] using hchecks
      obtain ⟨hready, hevent⟩ := Bool.and_eq_true_iff.mp hloses
      have hgone : s.dequeue p ready = none := by
        rw [Watch.dequeue, if_pos hready]
        cases herror : p.event with
        | error err => simpa [herror] using hevent
        | ok e => simp [herror] at hevent
      rw [hgone]
      exact ⟨rfl, rfl⟩

/-- One that looks at the clock does so with what the event left. -/
theorem pass_of_checks (hchecks : p.checks = true) : ∃ ready s', p.select = .ok ready ∧
    s.dequeue p ready = some s' ∧ (s.pass p).1 = (s'.check p).2 ++ (p.receive ready).1 ∧
    (s.pass p).2 = if p.goesOn then some (s'.check p).1 else none := by
  obtain ⟨hstopped, hrest⟩ := Bool.and_eq_true_iff.mp hchecks
  have hnot : p.stopped = false := by simpa using hstopped
  cases hselect : p.select with
  | error err => simp [hselect] at hrest
  | ok ready =>
    have hkept : p.losesEvent ready = false := by simpa [hselect] using hrest
    have hdequeue : ∃ s', s.dequeue p ready = some s' := by
      rw [Watch.dequeue]
      cases hready : ready.exceptional with
      | false => exact ⟨s, rfl⟩
      | true =>
        cases hevent : p.event with
        | error err =>
          have hstays : deviceGone err = false := by
            simpa [Pass.losesEvent, hready, hevent] using hkept
          exact ⟨s, by simp [hstays]⟩
        | ok e =>
          cases e with
          | stateChange a mask => exact ⟨_, rfl⟩
          | other => exact ⟨s, rfl⟩
    obtain ⟨s', hs'⟩ := hdequeue
    refine ⟨ready, s', rfl, hs', ?_, ?_⟩
    · simp [Watch.pass, hselect, hs', hnot]
    · simp [Watch.pass, Pass.goesOn, hselect, hs', hnot, hchecks]

/-- A message is not a report. -/
theorem addresses_receive : addresses (p.receive ready).1 = [] := by
  rw [Pass.receive]
  split
  · split
    · split
      · rfl
      · rfl
    · split
      · split
        · rfl
        · rfl
      · rfl
  · rfl

/-- Taking the event is the arrival of what it announces. -/
theorem held_dequeue {s' : Watch} (htimed : s.Timed) (hchecks : p.checks = true)
    (hselect : p.select = .ok ready) (h : s.dequeue p ready = some s') :
    s'.Timed ∧ s'.held = p.look.held s.held := by
  have harrival : p.announced = if ready.exceptional then announcedBy p.event else none := by
    rw [Pass.announced, if_pos hchecks, hselect]
  rw [Watch.dequeue] at h
  rw [Look.held, Pass.look, harrival]
  cases hready : ready.exceptional with
  | false =>
    rw [hready, if_neg Bool.false_ne_true] at h
    obtain rfl := Option.some.inj h
    exact ⟨htimed, rfl⟩
  | true =>
    rw [hready, if_pos rfl] at h
    cases hevent : p.event with
    | error err =>
      rw [hevent] at h
      obtain ⟨-, h⟩ := Option.ite_none_left_eq_some.mp h
      obtain rfl := Option.some.inj h
      exact ⟨htimed, rfl⟩
    | ok e =>
      rw [hevent] at h
      cases e with
      | stateChange a mask =>
        obtain rfl := Option.some.inj h
        exact ⟨fun _ => rfl, rfl⟩
      | other =>
        obtain rfl := Option.some.inj h
        exact ⟨htimed, rfl⟩

/-- The look at the clock is a look at the address that is held back. -/
theorem check_eq_debounce {h : Option (HeldBack UInt16)} (htimed : s.Timed)
    (hchecks : p.checks = true) (hheld : s.held = p.look.held h) :
    addresses (s.check p).2 = (debounce h p.look).2.toList ∧ (s.check p).1.Timed ∧
      (s.check p).1.held = (debounce h p.look).1 := by
  rw [debounce, ← hheld, Watch.check, Watch.held]
  cases hchanged : s.physAddrChanged with
  | false =>
    simp only [Bool.false_and, Bool.false_eq_true, if_false]
    exact ⟨rfl, htimed, by simp [Watch.held, hchanged]⟩
  | true =>
    have hfinds : p.look.Finds ⟨s.physAddr, s.physAddrTimeout.target + 1 - nsPerMs⟩ ↔
        s.physAddrTimeout.timeLeft p.checkTime = 0 ∧ p.stoppedAtCheck = false := by
      rw [CTimeout.timeLeft_eq_zero_iff (htimed hchanged)]
      simp [Look.Finds, Pass.look, hchecks]
    by_cases hdue : s.physAddrTimeout.timeLeft p.checkTime = 0 ∧ p.stoppedAtCheck = false
    · simp only [if_pos (hfinds.mpr hdue), hdue.1, hdue.2, decide_true, Bool.not_false,
        Bool.and_self, if_true]
      exact ⟨rfl, fun h => absurd h Bool.false_ne_true, rfl⟩
    · have hwait : ¬((true && decide (s.physAddrTimeout.timeLeft p.checkTime = 0) &&
          !p.stoppedAtCheck) = true) := by simpa using hdue
      simp only [if_true, if_neg (mt hfinds.mp hdue), if_neg hwait]
      exact ⟨rfl, htimed, by simp [Watch.held, hchanged]⟩

/-- One pass of the loop is one look. -/
theorem pass_eq_debounce (htimed : s.Timed) :
    addresses (s.pass p).1 = (debounce s.held p.look).2.toList ∧
      (p.goesOn = false → (s.pass p).2 = none) ∧
      (p.goesOn = true → ∃ s', (s.pass p).2 = some s' ∧ s'.Timed ∧
        s'.held = (debounce s.held p.look).1) := by
  cases hchecks : p.checks with
  | false =>
    obtain ⟨hcalls, hleft⟩ := pass_of_not_checks (s := s) hchecks
    have hgoes : p.goesOn = false := by rw [Pass.goesOn, hchecks, Bool.false_and]
    refine ⟨?_, fun _ => hleft, fun h => absurd (hgoes.symm.trans h) Bool.false_ne_true⟩
    -- the look is deaf
    have hdeaf : ∀ x, ¬p.look.Finds x := fun x hx => by simp [Look.Finds, Pass.look, hchecks] at hx
    rw [hcalls, debounce]
    cases p.look.held s.held with
    | none => rfl
    | some x => simp [hdeaf]
  | true =>
    obtain ⟨ready, s', hselect, hs', hcalls, hleft⟩ := pass_of_checks (s := s) hchecks
    obtain ⟨htimed', hheld'⟩ := held_dequeue htimed hchecks hselect hs'
    obtain ⟨hreports, htimed'', hheld''⟩ := check_eq_debounce htimed' hchecks hheld'
    refine ⟨?_, fun h => ?_, fun h => ⟨_, ?_, htimed'', hheld''⟩⟩
    · rw [hcalls, addresses, List.filterMap_append]
      exact (congrArg₂ (· ++ ·) hreports addresses_receive).trans (List.append_nil _)
    · rw [hleft, h, if_neg Bool.false_ne_true]
    · rw [hleft, h, if_pos rfl]

/-- The addresses reported are those that the debounced looks report. -/
theorem addresses_process : ∀ (ps : List Pass) {s : Watch}, s.Timed →
    addresses (s.process ps) = reported s.held ((made ps).map Pass.look)
  | [], _, _ => rfl
  | p :: ps, s, htimed => by
    obtain ⟨hcalls, hleaves, hgoes⟩ := pass_eq_debounce (p := p) htimed
    rw [Watch.process, made, List.map_cons, reported, ← hcalls]
    cases hon : p.goesOn with
    | false =>
      have hpass : s.pass p = ((s.pass p).1, none) := Prod.ext rfl (hleaves hon)
      rw [hpass]
      simp [reported]
    | true =>
      obtain ⟨s', hs', htimed', hheld'⟩ := hgoes hon
      have hpass : s.pass p = ((s.pass p).1, some s') := Prod.ext rfl hs'
      rw [hpass]
      simp only [addresses, List.filterMap_append, if_true, ← hheld']
      rw [← addresses, ← addresses, addresses_process ps htimed']

/-- The calls of the thread are those of its passes. -/
theorem process_eq_flatMap : ∀ (ps : List Pass) {s : Watch},
    s.process ps = (s.trace ps).flatMap Prod.snd
  | [], _ => rfl
  | p :: ps, s => by
    rw [Watch.process, Watch.trace]
    rcases s.pass p with ⟨calls, - | s'⟩
    · simp
    · simp [process_eq_flatMap ps]

/-- A pass begins with what the looks before it leave. -/
theorem pass_of_trace : ∀ (past : List (Pass × List Call)) {ps : List Pass} {s : Watch}
    {calls : List Call} {later : List (Pass × List Call)}, s.Timed →
    s.trace ps = past ++ (p, calls) :: later → ∃ s' : Watch, s'.Timed ∧ calls = (s'.pass p).1 ∧
      s'.held = past.foldl (fun h q => (debounce h q.1.look).1) s.held
  | past, [], _, _, _, _, htrace => by simp [Watch.trace] at htrace
  | past, q :: ps, s, calls, later, htimed, htrace => by
    obtain ⟨-, hleaves, hgoes⟩ := pass_eq_debounce (p := q) htimed
    rw [Watch.trace] at htrace
    cases hon : q.goesOn with
    | false =>
      have hpass : s.pass q = ((s.pass q).1, none) := Prod.ext rfl (hleaves hon)
      rw [hpass] at htrace
      cases past with
      | nil =>
        obtain ⟨hfirst, -⟩ := List.cons.inj htrace
        obtain ⟨rfl, rfl⟩ := Prod.mk.inj hfirst
        exact ⟨s, htimed, rfl, rfl⟩
      | cons _ past => simp at htrace
    | true =>
      obtain ⟨s', hs', htimed', hheld'⟩ := hgoes hon
      have hpass : s.pass q = ((s.pass q).1, some s') := Prod.ext rfl hs'
      rw [hpass] at htrace
      cases past with
      | nil =>
        obtain ⟨hfirst, -⟩ := List.cons.inj htrace
        obtain ⟨rfl, rfl⟩ := Prod.mk.inj hfirst
        exact ⟨s, htimed, rfl, rfl⟩
      | cons _ past =>
        obtain ⟨rfl, hrest⟩ := List.cons.inj htrace
        rw [List.foldl_cons, ← hheld']
        exact pass_of_trace past htimed' hrest

/-! ### The addresses that settle -/

/-- The address was announced in the first of the passes, and no other one since then; the last pass
    is the first one that finds that it was held back for as long as it had to be. -/
def SettlesIn (waiting : List Pass) (p : Pass) (a : UInt16) : Prop :=
  ∃ first rest mask, waiting ++ [p] = first :: rest ∧ first.announced = some (a, mask) ∧
    (∀ q ∈ rest, q.announced = none) ∧
    (∀ q ∈ waiting, ¬q.Passes first.eventTime (debounceMs a mask)) ∧
    p.Passes first.eventTime (debounceMs a mask)

theorem fallsDue_look_iff {waiting : List Pass} {a : UInt16} :
    (∃ x, FallsDue (waiting.map Pass.look) p.look x ∧ x.value = a) ↔ SettlesIn waiting p a := by
  have hlast : waiting.map Pass.look ++ [p.look] = (waiting ++ [p]).map Pass.look := by simp
  constructor
  · rintro ⟨x, ⟨l, looks, hsplit, harrival, hnone, hwaiting, hfinds⟩, rfl⟩
    rw [hlast, List.map_eq_cons_iff] at hsplit
    obtain ⟨first, rest, hsplit, rfl, rfl⟩ := hsplit
    obtain ⟨⟨a, mask⟩, hannounced, rfl⟩ := Option.map_eq_some_iff.mp harrival
    refine ⟨first, rest, mask, hsplit, hannounced, fun q hq => ?_, fun q hq => ?_,
      look_finds_iff.mp hfinds⟩
    · exact Option.map_eq_none_iff.mp (hnone _ (List.mem_map_of_mem hq))
    · exact mt look_finds_iff.mpr (hwaiting _ (List.mem_map_of_mem hq))
  · rintro ⟨first, rest, mask, hsplit, hannounced, hnone, hwaiting, hpasses⟩
    refine ⟨_, ⟨first.look, rest.map Pass.look, by rw [hlast, hsplit, List.map_cons],
      Option.map_eq_some_iff.mpr ⟨_, hannounced, rfl⟩, ?_, ?_, look_finds_iff.mpr hpasses⟩, rfl⟩
    · intro l hl
      obtain ⟨q, hq, rfl⟩ := List.mem_map.mp hl
      exact Option.map_eq_none_iff.mpr (hnone q hq)
    · intro l hl
      obtain ⟨q, hq, rfl⟩ := List.mem_map.mp hl
      exact mt look_finds_iff.mp (hwaiting q hq)

/-- What the thread reports while it makes some passes: each address that was announced once at most
    and in the order of the announcements, and in each pass the address that settles in it, if one
    does. -/
structure Debounced (ps : List Pass) : Prop where
  passes : Watch.start.process ps = (Watch.start.trace ps).flatMap Prod.snd
  ordered : (addresses (Watch.start.process ps)).Sublist
    ((made ps).filterMap fun p => p.announced.map Prod.fst)
  settled : ∀ past p calls later, Watch.start.trace ps = past ++ (p, calls) :: later →
    (addresses calls).length ≤ 1 ∧
      ∀ a, a ∈ addresses calls ↔
        ∃ before waiting, past.map Prod.fst = before ++ waiting ∧ SettlesIn waiting p a

theorem timed_start : Watch.start.Timed := fun h => absurd h Bool.false_ne_true

theorem addresses_sublist (ps : List Pass) : (addresses (Watch.start.process ps)).Sublist
    ((made ps).filterMap fun p => p.announced.map Prod.fst) := by
  have harrivals : arrivals ((made ps).map Pass.look) =
      (made ps).filterMap fun p => p.announced.map Prod.fst := by
    rw [arrivals, List.filterMap_map]
    refine congrArg (List.filterMap · (made ps)) (funext fun p => ?_)
    simp [Pass.look, Function.comp_def]
  rw [addresses_process ps timed_start, ← harrivals]
  exact reported_sublist none _

theorem mem_addresses_iff {ps : List Pass} {a : UInt16} :
    a ∈ addresses (Watch.start.process ps) ↔
      ∃ before waiting p later, made ps = before ++ (waiting ++ p :: later) ∧
        SettlesIn waiting p a := by
  rw [addresses_process ps timed_start]
  refine mem_reported_iff.trans ⟨?_, ?_⟩
  · rintro ⟨before, waiting, l, later, x, hlooks, hsettles, hx⟩
    obtain ⟨before, ps', hps, rfl, hrest⟩ := List.map_eq_append_iff.mp hlooks
    obtain ⟨waiting, ps'', rfl, rfl, hlater⟩ := List.map_eq_append_iff.mp hrest
    obtain ⟨p, later, rfl, rfl, rfl⟩ := List.map_eq_cons_iff.mp hlater
    exact ⟨before, waiting, p, later, hps, fallsDue_look_iff.mp ⟨x, hsettles, hx⟩⟩
  · rintro ⟨before, waiting, p, later, hps, hsettles⟩
    obtain ⟨x, hsettles, hx⟩ := fallsDue_look_iff.mpr hsettles
    exact ⟨before.map Pass.look, waiting.map Pass.look, p.look, later.map Pass.look, x,
      by rw [hps]; simp, hsettles, hx⟩

/-- A pass reports the address that settles in it. -/
theorem mem_addresses_of_trace {ps : List Pass} {past later : List (Pass × List Call)}
    {calls : List Call} (htrace : Watch.start.trace ps = past ++ (p, calls) :: later) :
    (addresses calls).length ≤ 1 ∧
      ∀ a, a ∈ addresses calls ↔
        ∃ before waiting, past.map Prod.fst = before ++ waiting ∧ SettlesIn waiting p a := by
  obtain ⟨s, htimed, rfl, hheld⟩ := pass_of_trace past timed_start htrace
  obtain ⟨hreports, -, -⟩ := pass_eq_debounce (p := p) htimed
  have hafter : s.held = heldAfter ((past.map Prod.fst).map Pass.look) := by
    rw [hheld, heldAfter, List.map_map, List.foldl_map]
    rfl
  refine ⟨by rw [hreports]; exact Option.length_toList_le, fun a => ?_⟩
  rw [hreports, hafter, Option.mem_toList, reports_iff]
  constructor
  · rintro ⟨x, hwaits, hfinds, hx⟩
    obtain ⟨before, waiting, hpast, hsettles⟩ := waits_at_iff.mp ⟨hwaits, hfinds⟩
    obtain ⟨before, waiting, hsplit, rfl, rfl⟩ := List.map_eq_append_iff.mp hpast
    exact ⟨before, waiting, hsplit, fallsDue_look_iff.mp ⟨x, hsettles, hx⟩⟩
  · rintro ⟨before, waiting, hpast, hsettles⟩
    obtain ⟨x, hsettles, hx⟩ := fallsDue_look_iff.mpr hsettles
    have hlooks : (past.map Prod.fst).map Pass.look =
        before.map Pass.look ++ waiting.map Pass.look := by rw [hpast, List.map_append]
    obtain ⟨hwaits, hfinds⟩ := waits_at_iff.mpr ⟨_, _, hlooks, hsettles⟩
    exact ⟨x, hwaits, hfinds, hx⟩

theorem process_debounced (ps : List Pass) : Debounced ps :=
  ⟨process_eq_flatMap ps, addresses_sublist ps, fun _ _ _ _ => mem_addresses_of_trace⟩

/-! ### A glitch -/

/-- As long as the last announcement is that the address is invalid, the clock is at most 1999 ms
    later than it whenever it is looked at. -/
def BrieflyInvalid (ps : List Pass) : Prop :=
  ∀ before first rest later mask, made ps = before ++ (first :: rest ++ later) →
    first.announced = some (0xFFFF, mask) → (∀ q ∈ rest, q.announced = none) →
    ∀ q ∈ first :: rest, q.checkTime + nsPerMs ≤ first.eventTime + 2000 * nsPerMs

/-- The kernel announces one address, or that there is none. -/
def AnnouncesOnly (a : UInt16) (ps : List Pass) : Prop :=
  ∀ p ∈ made ps, ∀ am, p.announced = some am → am.1 = a ∨ am.1 = 0xFFFF

/-- Only the one address is reported. -/
theorem reports_only {ps : List Pass} {a : UInt16} (hbrief : BrieflyInvalid ps)
    (honly : AnnouncesOnly a ps) : ∀ b ∈ addresses (Watch.start.process ps), b = a := by
  intro b hb
  obtain ⟨before, waiting, p, later, hps, first, rest, mask, hsplit, hannounced, hnone, -, hpasses⟩ :=
    mem_addresses_iff.mp hb
  have hps' : made ps = before ++ (first :: rest ++ later) := by
    rw [hps, ← hsplit, List.append_assoc, List.singleton_append]
  have hfirst : first ∈ made ps := by rw [hps']; simp
  rcases honly first hfirst _ hannounced with h | h
  · exact h
  · obtain rfl : b = 0xFFFF := h
    have hp : p ∈ first :: rest := by rw [← hsplit]; simp
    have htime := hbrief before first rest later mask hps' hannounced hnone p hp
    obtain ⟨-, -, hover⟩ := hpasses
    rw [show debounceMs 0xFFFF mask = 2000 from if_pos rfl] at hover
    exact absurd hover (Nat.not_lt.mpr htime)

/-- A client at the address that comes back does not notice that it was lost. -/
theorem glitch_unnoticed (react : Reaction → Proc Unit) {ps : List Pass} {a : UInt16}
    {s s' : Notifying} (hbrief : BrieflyInvalid ps) (honly : AnnouncesOnly a ps)
    (hat : ∀ c, s.world.primaryClient = some c → (s.world.configuration c).iPhysicalAddress = a) :
    Returns (forEach (Notifying.handlePhysicalAddressChanged react)
      (addresses (Watch.start.process ps))) s () s' ↔ s' = s := by
  have hone : ∀ {t t'}, t = s → (Returns (Notifying.handlePhysicalAddressChanged react a) t () t' ↔
      t' = s) := by
    rintro t t' rfl
    rw [Notifying.handlePhysicalAddressChanged, returns_ask_bind]
    cases hstall : t.world.stallCommunication with
    | true => simp [returns_pure]
    | false =>
      cases hprimary : t.world.primaryClient with
      | none => simp [returns_pure]
      | some c => simpa using returns_same (hat c hprimary)
  have hall := reports_only hbrief honly
  generalize addresses (Watch.start.process ps) = reports at hall
  induction reports with
  | nil => simp [forEach, returns_pure]
  | cons b reports ih =>
    obtain rfl := hall b List.mem_cons_self
    have ih := ih fun b hb => hall b (List.mem_cons_of_mem _ hb)
    rw [forEach, returns_bind]
    constructor
    · rintro ⟨_, t, hb, hrest⟩
      obtain rfl := (hone rfl).mp hb
      exact ih.mp hrest
    · rintro rfl
      exact ⟨(), _, (hone rfl).mpr rfl, ih.mpr rfl⟩

/-- A pass that takes an event, and no message. -/
def Pass.takes (event : Except ℕ CecEvent) (time : ℕ) : Pass where
  stopped := false
  select := .ok ⟨true, false⟩
  event := event
  eventTime := time
  checkTime := time
  stoppedAtCheck := false
  message := .error 11
  stoppedAtMessage := false

/-- The cable is unplugged for a second, and the address is the old one afterwards. -/
def replugged : List Pass :=
  [.takes (.ok (.stateChange 0xFFFF 0)) 0, .takes (.ok (.stateChange 0x1000 0)) (1000 * nsPerMs),
    .takes (.ok .other) (2000 * nsPerMs)]

theorem brieflyInvalid_replugged : BrieflyInvalid replugged := by
  intro before first rest later mask hmade hannounced hnone q hq
  have hmade : replugged = before ++ (first :: (rest ++ later)) := hmade
  rcases before with - | ⟨p, - | ⟨p', - | ⟨p'', before⟩⟩⟩
  · obtain ⟨rfl, hrest⟩ := List.cons.inj hmade
    rcases rest with - | ⟨p, rest⟩
    · obtain rfl := List.mem_singleton.mp hq
      decide
    · obtain ⟨rfl, -⟩ := List.cons.inj hrest
      exact absurd (hnone _ List.mem_cons_self) (by decide)
  · obtain ⟨-, hrest⟩ := List.cons.inj hmade
    obtain ⟨rfl, -⟩ := List.cons.inj hrest
    have haddress : some 0x1000 = some (0xFFFF : UInt16) :=
      congrArg (Option.map Prod.fst) hannounced
    exact absurd haddress (by decide)
  · obtain ⟨-, hrest⟩ := List.cons.inj hmade
    obtain ⟨-, hrest⟩ := List.cons.inj hrest
    obtain ⟨rfl, -⟩ := List.cons.inj hrest
    have hnothing : none = some ((0xFFFF : UInt16), mask) := hannounced
    cases hnothing
  · simp [replugged] at hmade

/-- The primary client is at the address that is lost for a second. -/
theorem glitch_unnoticed_replugged : ∃ s : Notifying, s.world.primaryClient = some 0 ∧
    Returns (forEach (Notifying.handlePhysicalAddressChanged (react 1))
      (addresses (Watch.start.process replugged))) s () s := by
  obtain ⟨_, w, hw⟩ := exists_returns (x := registerClient 1 0)
    (s := .start (fun _ => clientFor [.playbackDevice]) fun _ => .silent) (by decide)
  have hrun := hw.of_all (p := fun _ w => decide (w.primaryClient = some 0 ∧
    (w.configuration 0).iPhysicalAddress = 0x1000)) (by decide +kernel)
  obtain ⟨hprimary, haddress⟩ := of_decide_eq_true hrun
  refine ⟨⟨w, []⟩, hprimary,
    (glitch_unnoticed (react 1) (a := 0x1000) brieflyInvalid_replugged ?_ ?_).mpr rfl⟩
  · have hmade : made replugged = replugged := rfl
    intro p hp am ham
    rw [hmade, replugged] at hp
    simp only [List.mem_cons, List.not_mem_nil, or_false] at hp
    rcases hp with rfl | rfl | rfl
    · exact .inr (congrArg Prod.fst (Option.some.inj ham)).symm
    · exact .inl (congrArg Prod.fst (Option.some.inj ham)).symm
    · have hnothing : none = some am := ham
      cases hnothing
  · intro c hc
    obtain rfl := Option.some.inj (hprimary.symm.trans hc)
    exact haddress

end LinuxAdapter

end CEC
