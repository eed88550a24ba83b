import LibCec.Commands

/-! The forwarding of STANDBY (`CCECClient::AddCommand`).

    Each client is handed every command on the bus and passes the ones for its own addresses on to
    the application, STANDBY not more often than once in ten seconds.

        STANDBY ──within 10 s of the last one that counted──▶ withheld
                ──else, counts──▶ for the client: delivered, for another device: not

    A STANDBY for another device counts like one for the client. `standbysReach_iff` says that this
    is the only way in which the client misses one. -/

namespace CEC
open Schemes

namespace StandbyThrottle

/-- `CEC_OPCODE_STANDBY`. -/
def opcodeStandby : UInt8 := 0x36

/-- `CEC_FORWARD_STANDBY_MIN_INTERVAL`. -/
def forwardStandbyMinInterval : ℤ := 10000

/-- A command that the thread of a client takes off its queue, the time, and the addresses that the
    client has then. -/
structure QueuedCommand where
  now : ℤ
  command : Received
  addresses : LogicalAddresses

/-- A STANDBY command. -/
def QueuedCommand.isStandby (e : QueuedCommand) : Prop := e.command.opcode = opcodeStandby

/-- The command is broadcast, or for one of the client's addresses. -/
def QueuedCommand.forClient (e : QueuedCommand) : Prop :=
  e.command.destination = 15 ∨ e.addresses.isSet e.command.destination

instance (e : QueuedCommand) : Decidable e.isStandby := inferInstanceAs (Decidable (_ = _))

instance (e : QueuedCommand) : Decidable e.forClient := inferInstanceAs (Decidable (_ ∨ _))

/-- A STANDBY that comes before `m_iPreventForwardingPowerOffCommand`. -/
def throttled (iPreventForwardingPowerOffCommand : ℤ) (e : QueuedCommand) : Prop :=
  e.isStandby ∧ iPreventForwardingPowerOffCommand ≠ 0 ∧ iPreventForwardingPowerOffCommand > e.now

instance (t : ℤ) (e : QueuedCommand) : Decidable (throttled t e) :=
  inferInstanceAs (Decidable (_ ∧ _ ∧ _))

/-- `AddCommand`: `m_iPreventForwardingPowerOffCommand` after it, and whether `commandReceived` is
    called. -/
def addCommand (iPreventForwardingPowerOffCommand : ℤ) (e : QueuedCommand) : ℤ × Bool :=
  if throttled iPreventForwardingPowerOffCommand e then (iPreventForwardingPowerOffCommand, false)
  else
    (if e.isStandby then e.now + forwardStandbyMinInterval else iPreventForwardingPowerOffCommand,
      e.forClient)

/-- `m_iPreventForwardingPowerOffCommand` after a run, of a new client. -/
abbrev run (es : List QueuedCommand) : ℤ := es.foldl (fun t e => (addCommand t e).1) 0

/-- The command that comes after `past` is delivered. -/
def delivered (past : List QueuedCommand) (e : QueuedCommand) : Bool := (addCommand (run past) e).2

/-- A STANDBY for the client is withheld only if another one was delivered less than ten seconds
    before. -/
def StandbysReach (es : List QueuedCommand) : Prop :=
  ∀ past e later, es = past ++ e :: later → e.isStandby → e.forClient → delivered past e = false →
    ∃ older d mid, past = older ++ d :: mid ∧ d.isStandby ∧ delivered older d ∧
      e.now - d.now < forwardStandbyMinInterval

/-- A STANDBY for another device that counts is followed by ten seconds without one for the
    client. -/
def OthersApart (es : List QueuedCommand) : Prop :=
  ∀ past d mid e later, es = past ++ d :: mid ++ e :: later →
    d.isStandby → ¬ d.forClient → ¬ throttled (run past) d → e.isStandby → e.forClient →
    forwardStandbyMinInterval ≤ e.now - d.now

/-! ### One command -/

theorem run_concat (es : List QueuedCommand) (e : QueuedCommand) :
    run (es ++ [e]) = (addCommand (run es) e).1 := by
  rw [run, List.foldl_append, List.foldl_cons, List.foldl_nil]

/-- Only a STANDBY that counts changes the time. -/
theorem addCommand_time (t : ℤ) (e : QueuedCommand) :
    (e.isStandby ∧ ¬ throttled t e ∧ (addCommand t e).1 = e.now + forwardStandbyMinInterval) ∨
      (e.isStandby → throttled t e) ∧ (addCommand t e).1 = t := by
  unfold addCommand
  by_cases hthrottled : throttled t e
  · rw [if_pos hthrottled]
    exact .inr ⟨fun _ => hthrottled, rfl⟩
  · rw [if_neg hthrottled]
    by_cases hstandby : e.isStandby
    · exact .inl ⟨hstandby, hthrottled, if_pos hstandby⟩
    · exact .inr ⟨fun h => absurd h hstandby, if_neg hstandby⟩

theorem delivered_iff {past : List QueuedCommand} {e : QueuedCommand} :
    delivered past e ↔ ¬ throttled (run past) e ∧ e.forClient := by
  unfold delivered addCommand
  split
  · next h => exact ⟨fun h' => absurd h' Bool.false_ne_true, fun h' => absurd h h'.1⟩
  · next h => exact ⟨fun h' => ⟨h, of_decide_eq_true h'⟩, fun h' => decide_eq_true h'.2⟩

/-! ### Runs -/

section Runs

variable {es : List QueuedCommand}

/-- The time is that of the last STANDBY that counted. -/
theorem run_last (es : List QueuedCommand) : run es = 0 ∨
    ∃ older d mid, es = older ++ d :: mid ∧ d.isStandby ∧ ¬ throttled (run older) d ∧
      run es = d.now + forwardStandbyMinInterval := by
  induction es using List.reverseRecOn with
  | nil => exact .inl rfl
  | append_singleton es e ih =>
    rw [run_concat]
    rcases addCommand_time (run es) e with ⟨hstandby, hcounts, htime⟩ | ⟨-, htime⟩
    · exact .inr ⟨es, e, [], rfl, hstandby, hcounts, htime⟩
    · rw [htime]
      refine ih.imp_right ?_
      rintro ⟨older, d, mid, rfl, hd⟩
      exact ⟨older, d, mid ++ [e], by simp, hd⟩

/-- The time never goes back behind a STANDBY that counted. -/
theorem le_run {older mid : List QueuedCommand} {d : QueuedCommand} (hstandby : d.isStandby)
    (hcounts : ¬ throttled (run older) d) (hmid : ∀ m ∈ mid, d.now ≤ m.now) :
    d.now + forwardStandbyMinInterval ≤ run (older ++ d :: mid) := by
  induction mid using List.reverseRecOn with
  | nil =>
    rw [run_concat]
    rcases addCommand_time (run older) d with ⟨-, -, htime⟩ | ⟨hthrottled, -⟩
    · exact htime.ge
    · exact absurd (hthrottled hstandby) hcounts
  | append_singleton mid m ih =>
    have ih := ih fun m' hm' => hmid m' (List.mem_append_left _ hm')
    have hm := hmid m (by simp)
    rw [← List.cons_append, ← List.append_assoc, run_concat]
    rcases addCommand_time (run (older ++ d :: mid)) m with ⟨-, -, htime⟩ | ⟨-, htime⟩
    · rw [htime]
      omega
    · rwa [htime]

/-- A STANDBY within ten seconds of one that counted is throttled. -/
theorem throttled_after {older mid : List QueuedCommand} {d e : QueuedCommand} (hd0 : 0 ≤ d.now)
    (hstandby : d.isStandby) (hcounts : ¬ throttled (run older) d)
    (hmid : ∀ m ∈ mid, d.now ≤ m.now) (he : e.isStandby)
    (hsoon : e.now - d.now < forwardStandbyMinInterval) :
    throttled (run (older ++ d :: mid)) e := by
  have hrun := le_run hstandby hcounts hmid
  unfold forwardStandbyMinInterval at hrun hsoon
  exact ⟨he, by omega, by omega⟩

/-- No STANDBY for the client is withheld without one that was delivered less than ten seconds before
    iff none comes less than ten seconds after one for another device that counts. -/
theorem standbysReach_iff (h0 : ∀ e ∈ es, 0 ≤ e.now)
    (hsorted : es.Pairwise fun d e => d.now ≤ e.now) : StandbysReach es ↔ OthersApart es := by
  constructor
  · rintro hreach past d mid e later rfl hd hother hcounts he hclient
    by_contra hsoon
    have hsoon : e.now - d.now < forwardStandbyMinInterval := not_le.mp hsoon
    obtain ⟨hbefore, -, hlast⟩ := List.pairwise_append.mp hsorted
    obtain ⟨-, hmid, hpast⟩ := List.pairwise_append.mp hbefore
    have hmid := List.pairwise_cons.mp hmid
    have hthrottled := throttled_after (h0 d (by simp)) hd hcounts hmid.1 he hsoon
    have hwithheld : delivered (past ++ d :: mid) e = false := by
      rw [Bool.eq_false_iff]
      exact fun h => (delivered_iff.mp h).1 hthrottled
    obtain ⟨older, d', mid', hsplit, hd', hdelivered, hsoon'⟩ :=
      hreach _ e later rfl he hclient hwithheld
    obtain ⟨hcounts', hclient'⟩ := delivered_iff.mp hdelivered
    have hle : d.now ≤ e.now := hlast d (by simp) e (by simp)
    have h0' : 0 ≤ d'.now := h0 d' (by
      rw [List.append_assoc, List.cons_append, ← List.cons_append, ← List.append_assoc, hsplit]
      simp)
    -- the STANDBY that was delivered is the one for another device, or too far from it
    rcases List.append_eq_append_iff.mp hsplit with ⟨between, rfl, htail⟩ | ⟨between, rfl, htail⟩
    · rcases between with _ | ⟨d₀, between⟩
      · simp only [List.nil_append, List.cons.injEq] at htail
        exact hother (htail.1 ▸ hclient')
      · simp only [List.cons_append, List.cons.injEq] at htail
        obtain ⟨rfl, rfl⟩ := htail
        have hle' : d'.now ≤ e.now := hlast d' (by simp) e (by simp)
        refine hcounts' (throttled_after (h0 d (by simp)) hd hcounts (fun m hm => ?_) hd' ?_)
        · exact hmid.1 m (List.mem_append_left _ hm)
        · omega
    · rcases between with _ | ⟨d₀, between⟩
      · simp only [List.nil_append, List.cons.injEq] at htail
        exact hother (htail.1 ▸ hclient')
      · simp only [List.cons_append, List.cons.injEq] at htail
        obtain ⟨rfl, rfl⟩ := htail
        refine hcounts (throttled_after h0' hd' hcounts' (fun m hm => ?_) hd (by omega))
        have hsorted' := (List.pairwise_append.mp (List.pairwise_append.mp hbefore).1).2.1
        exact (List.pairwise_cons.mp hsorted').1 m hm
  · rintro hapart past e later rfl he hclient hwithheld
    have hthrottled : throttled (run past) e := by
      by_contra h
      exact absurd (delivered_iff.mpr ⟨h, hclient⟩) (by rw [hwithheld]; exact Bool.false_ne_true)
    obtain ⟨-, hne, hlater⟩ := hthrottled
    obtain ⟨older, d, mid, rfl, hd, hcounts, htime⟩ := (run_last past).resolve_left hne
    rw [htime] at hlater
    refine ⟨older, d, mid, rfl, hd, delivered_iff.mpr ⟨hcounts, ?_⟩, by omega⟩
    by_contra hother
    have hfar := hapart older d mid e later rfl hd hother hcounts he hclient
    omega

end Runs

/-- A playback device, at address 4. -/
def playback : LogicalAddresses := LogicalAddresses.clear.set 4

/-- STANDBY from the TV. -/
def standby (destination : Fin 16) : Received := ⟨0, destination, true, opcodeStandby, .empty⟩

/-- STANDBY for the client, and again for all devices after five seconds. -/
theorem standbysReach_own :
    StandbysReach [⟨1000, standby 4, playback⟩, ⟨6000, standby 15, playback⟩] := by
  refine (standbysReach_iff (by decide) (by decide)).mpr ?_
  rintro past d mid e later hes - hother
  have hd : d ∈ [(⟨1000, standby 4, playback⟩ : QueuedCommand), ⟨6000, standby 15, playback⟩] := by
    rw [hes]
    simp
  refine absurd ?_ hother
  simp only [List.mem_cons, List.not_mem_nil, or_false] at hd
  rcases hd with rfl | rfl
  · decide
  · decide

/-- STANDBY for the audio system, and a second later for all devices. -/
theorem not_standbysReach : ¬ ∀ es : List QueuedCommand, (∀ e ∈ es, 0 ≤ e.now) →
    es.Pairwise (fun d e => d.now ≤ e.now) → StandbysReach es := by
  intro h
  obtain ⟨older, d, mid, hsplit, -, hdelivered, -⟩ :=
    h [⟨1000, standby 5, playback⟩, ⟨2000, standby 15, playback⟩] (by decide) (by decide)
      [⟨1000, standby 5, playback⟩] _ [] rfl (by decide) (by decide) (by decide)
  obtain ⟨rfl, rfl, rfl⟩ : older = [] ∧ d = ⟨1000, standby 5, playback⟩ ∧ mid = [] := by
    rcases older with _ | ⟨d', older⟩
    · simpa [eq_comm] using hsplit
    · simp at hsplit
  exact absurd hdelivered (by decide)

end StandbyThrottle

end CEC
