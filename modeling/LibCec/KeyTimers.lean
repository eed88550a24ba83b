import LibCec.KeySteps

/-! The timer of the pressed key (`CheckKeypressTimeout`).

    The client sets two deadlines when a key is pressed, the release and the repeat, and reads a
    third one off the last update, the end of the combo window. Which of them a poll looks at
    depends on the key:

        another key            release, then repeat
        comboKey, timeout > 0  the combo window
        comboKey, timeout 0    nothing: the key stays pressed

    `noStuckKey_iff` says that the last line is the only way for a key to stay pressed. A poll also
    says when it wants to be called again. After a repeat it asks for the next repeat and forgets the
    release, which `timerContract_iff` says is the only deadline it can miss. -/

namespace CEC
open Schemes KeyState

variable (cfg : Configuration) (now : ℤ)

/-- A value of `GetTimeMs`. -/
def IsTime (t : ℤ) : Prop := 0 ≤ t ∧ t < 2 ^ 63

instance (t : ℤ) : Decidable (IsTime t) := inferInstanceAs (Decidable (_ ∧ _))

theorem uint64_eq {t : ℤ} (h0 : 0 ≤ t) (h : t < 2 ^ 64) : (uint64 t : ℤ) = t := by
  rw [uint64, UInt64.ofInt, UInt64.toNat_ofNat']
  omega

/-- The longest time after which a release is synthesized for a held key. -/
def maxReleaseDelayMs : ℤ :=
  max (if cfg.iButtonReleaseDelayMs ≠ 0 then (cfg.iButtonReleaseDelayMs.toNat : ℤ)
    else buttonTimeoutMs) buttonReleaseBackstopMs

/-- The times of a pressed key. -/
structure KeyTimes (s : KeyState) : Prop where
  update : IsTime s.updateButtontime
  initial : IsTime s.initialButtontime
  release : s.updateButtontime < s.releaseButtontime
  delay : s.releaseButtontime - s.updateButtontime ≤ maxReleaseDelayMs cfg
  rate : s.repeatButtontime ≠ 0 → cfg.iButtonRepeatRateMs ≠ 0
  repeated : 0 ≤ s.repeatButtontime ∧ s.repeatButtontime < 2 ^ 64

section Times

variable {cfg now} {s : KeyState}

theorem releaseDelayMs_bounds (cfg : Configuration) (s : KeyState) :
    0 < releaseDelayMs cfg s ∧ releaseDelayMs cfg s ≤ maxReleaseDelayMs cfg := by
  have hdelay : (0 : ℤ) < if cfg.iButtonReleaseDelayMs ≠ 0 then (cfg.iButtonReleaseDelayMs.toNat : ℤ)
      else buttonTimeoutMs := by
    split
    · next h =>
      have hpos : 0 < cfg.iButtonReleaseDelayMs.toNat := UInt32.pos_iff_ne_zero.mpr h
      omega
    · decide
  unfold releaseDelayMs maxReleaseDelayMs
  simp only
  split
  · exact ⟨lt_of_lt_of_le hdelay (le_max_left _ _), le_refl _⟩
  · exact ⟨hdelay, le_max_left _ _⟩

theorem maxReleaseDelayMs_lt (cfg : Configuration) : maxReleaseDelayMs cfg < 2 ^ 32 := by
  have hdelay : cfg.iButtonReleaseDelayMs.toNat < 2 ^ 32 := cfg.iButtonReleaseDelayMs.toNat_lt
  unfold maxReleaseDelayMs buttonTimeoutMs buttonReleaseBackstopMs
  split <;> omega

/-- One event keeps the times of the pressed key, whichever it is afterwards. -/
theorem keyTimes_step {e : KeyEvent} {s' : KeyState} (hmove : KeyMove cfg s e s')
    (he : IsTime e.now) (hs : s.currentButton ≠ keyUnknown → KeyTimes cfg s)
    (hk : s'.currentButton ≠ keyUnknown) : KeyTimes cfg s' := by
  obtain ⟨hpos, hmax⟩ := releaseDelayMs_bounds cfg s
  have hrate : cfg.iButtonRepeatRateMs.toNat < 2 ^ 32 := cfg.iButtonRepeatRateMs.toNat_lt
  have hwait : cfg.iButtonRepeatDelayMs.toNat < 2 ^ 32 := cfg.iButtonRepeatDelayMs.toNat_lt
  obtain ⟨he0, he1⟩ := he
  cases hmove with
  | ended current => exact absurd current hk
  | kept current initial update release repeated =>
    rw [current] at hk
    have ht := hs hk
    obtain ⟨ht0, ht1⟩ := ht.repeated
    refine ⟨update ▸ ht.update, initial ▸ ht.initial, by rw [update, release]; exact ht.release,
      by rw [update, release]; exact ht.delay, ?_, ?_⟩
    · rcases repeated with h | ⟨h, -⟩
      · rw [h]
        exact ht.rate
      · exact fun _ => ht.rate h
    · rcases repeated with h | ⟨-, h⟩
      · rw [h]
        exact ht.repeated
      · rw [h]
        omega
  | repeated key input valid same current initial update release repeated =>
    rw [current] at hk
    have ht := hs hk
    obtain ⟨ht0, ht1⟩ := ht.repeated
    obtain ⟨hi0, hi1⟩ := ht.initial
    refine ⟨update ▸ ⟨he0, he1⟩, initial ▸ ht.initial, by omega, by omega, ?_, ?_⟩
    · rcases repeated with h | ⟨h, -⟩
      · rw [h]
        exact ht.rate
      · exact fun _ => h
    · rcases repeated with h | ⟨-, h⟩
      · rw [h]
        exact ht.repeated
      · rw [h]
        omega
  | pressed key input valid duration other current initial update release repeated =>
    refine ⟨update ▸ ⟨he0, he1⟩, initial ▸ ⟨he0, he1⟩, by omega, by omega, fun h => absurd repeated h,
      by rw [repeated]; decide⟩

/-- In every reachable state. -/
theorem keyTimes_run {es : List KeyEvent} (hes : ∀ e ∈ es, IsTime e.now)
    (hk : (keyRun cfg es).currentButton ≠ keyUnknown) : KeyTimes cfg (keyRun cfg es) := by
  induction es using List.reverseRecOn with
  | nil => exact absurd rfl hk
  | append_singleton es e ih =>
    rw [keyRun_concat] at hk ⊢
    have he : IsTime e.now := hes e (by simp)
    refine keyTimes_step (keyMove cfg _ e) he (ih fun e' he' => ?_) hk
    exact hes e' (List.mem_append_left _ he')

end Times

/-! ### No key is stuck -/

/-- The event is none for `k`: no press of it, and none that makes it with the combo key. -/
def notFor (k : UInt8) (s : KeyState) (e : KeyEvent) : Prop :=
  ∀ key, e.input = .press key → key.keycode ≠ k ∧ (transmitKey cfg key s).keycode ≠ k

/-- The time for which the pressed key may stay pressed after its last update. -/
def effectiveReleaseDelay (s : KeyState) : ℤ := s.releaseButtontime - s.updateButtontime

/-- A key that is still pressed, with no event for it, when both the combo window and the release
    delay are over is ended by the next poll. -/
def NoStuckKey (s : KeyState) : Prop :=
  effectiveReleaseDelay s ≤ maxReleaseDelayMs cfg ∧
  ∀ later, Guarded (keyStep cfg) (notFor cfg s.currentButton) s later →
    (later.foldl (keyStep cfg) s).currentButton = s.currentButton →
    ∀ now, 0 ≤ now → now < 2 ^ 64 →
      s.updateButtontime + max (cfg.iComboKeyTimeoutMs.toNat : ℤ) (effectiveReleaseDelay s) ≤ now →
      (checkKeypressTimeout cfg now (later.foldl (keyStep cfg) s)).1.currentButton = keyUnknown

section Stuck

variable {cfg now} {s : KeyState}

/-- Without an event for it a key is not pressed again, and while it is pressed its deadlines stay
    where they are. -/
theorem untouched_run {later : List KeyEvent} (hk : s.currentButton ≠ keyUnknown)
    (h : Guarded (keyStep cfg) (notFor cfg s.currentButton) s later)
    (hstill : (later.foldl (keyStep cfg) s).currentButton = s.currentButton) :
    (later.foldl (keyStep cfg) s).updateButtontime = s.updateButtontime ∧
      (later.foldl (keyStep cfg) s).releaseButtontime = s.releaseButtontime := by
  have hinv := h.invariant (fun _ s' => s'.currentButton = s.currentButton →
      s'.updateButtontime = s.updateButtontime ∧ s'.releaseButtontime = s.releaseButtontime)
    (fun _ => ⟨rfl, rfl⟩) ?_
  · exact hinv hstill
  intro _ s' e ih hguard hcurrent
  cases keyMove cfg s' e with
  | kept current initial update release repeated =>
    rw [update, release]
    exact ih (current.symm.trans hcurrent)
  | ended current => exact absurd (hcurrent.symm.trans current) hk
  | repeated key input valid same current initial update release repeated =>
    exact absurd (same.symm.trans (current.symm.trans hcurrent)) (hguard key input).1
  | pressed key input valid duration other current initial update release repeated =>
    exact absurd (current.symm.trans hcurrent) (hguard key input).2

/-- A poll ends a key whose deadline is over. -/
theorem currentButton_due (h : comboDue cfg now s ∨ releaseDue cfg now s) :
    (checkKeypressTimeout cfg now s).1.currentButton = keyUnknown := by
  rw [checkKeypressTimeout_eq]
  by_cases hk : s.currentButton = keyUnknown
  · rw [if_pos hk]
    exact hk
  rw [if_neg hk]
  by_cases hcombo : comboDue cfg now s
  · rw [if_pos hcombo]
    rfl
  rw [if_neg hcombo, if_pos (h.resolve_left hcombo)]
  simp only
  split <;> rfl

/-- No poll ends a combo key without a combo window. -/
theorem currentButton_stuck (hc : s.currentButton = cfg.comboKey) (ht : cfg.iComboKeyTimeoutMs = 0) :
    (checkKeypressTimeout cfg now s).1 = s := by
  have hcombo : ¬ comboDue cfg now s := fun h => absurd h.2.1 (by rw [ht]; decide)
  have hrelease : ¬ releaseDue cfg now s := fun h => h.1 hc
  have hrepeat : ¬ repeatDue cfg now s := fun h => h.1 hc
  rw [checkKeypressTimeout_eq, if_neg hcombo, if_neg hrelease, if_neg hrepeat]
  split <;> rfl

end Stuck

/-- A pressed key is not stuck iff it is not the combo key of a client without a combo window. -/
theorem noStuckKey_iff (es : List KeyEvent) (hes : ∀ e ∈ es, IsTime e.now)
    (hk : (keyRun cfg es).currentButton ≠ keyUnknown) :
    NoStuckKey cfg (keyRun cfg es) ↔
      ¬ ((keyRun cfg es).currentButton = cfg.comboKey ∧ cfg.iComboKeyTimeoutMs = 0) := by
  have ht := keyTimes_run hes hk
  obtain ⟨hu0, hu1⟩ := ht.update
  have hrelease := ht.release
  have hdelay := ht.delay
  have hmax := maxReleaseDelayMs_lt cfg
  constructor
  · rintro ⟨-, hpoll⟩ ⟨hc, htimeout⟩
    have hend := hpoll [] trivial rfl (keyRun cfg es).releaseButtontime (by omega) (by omega) (by
      rw [htimeout, effectiveReleaseDelay]
      change _ + max 0 _ ≤ _
      omega)
    rw [List.foldl_nil, currentButton_stuck hc htimeout] at hend
    exact hk hend
  · intro hnot
    refine ⟨hdelay, fun later hlater hstill now hnow hnow' hover => ?_⟩
    obtain ⟨hupdate, hrelease'⟩ := untouched_run hk hlater hstill
    rw [effectiveReleaseDelay] at hover
    apply currentButton_due
    by_cases hc : (keyRun cfg es).currentButton = cfg.comboKey
    · left
      have hwindow : cfg.iComboKeyTimeoutMs ≠ 0 := fun h => hnot ⟨hc, h⟩
      refine ⟨hstill.trans hc, UInt32.pos_iff_ne_zero.mpr hwindow, ?_⟩
      have hsince := uint64_eq (t := now - (keyRun cfg es).updateButtontime) (by omega) (by omega)
      rw [hupdate]
      omega
    · right
      refine ⟨fun h => hc (hstill.symm.trans h), by omega, ?_⟩
      have hnow := uint64_eq hnow hnow'
      have hdue := uint64_eq (t := (keyRun cfg es).releaseButtontime) (by omega) (by omega)
      rw [hrelease']
      omega

/-- A key that is no combo key, pressed once, is not stuck. -/
theorem noStuckKey_pressed : NoStuckKey .clear (keyRun .clear [⟨1000, .press ⟨1, 0⟩⟩]) :=
  (noStuckKey_iff .clear _ (by decide) (by decide)).mpr (by decide)

/-- STOP, the combo key, stays pressed when the combo timeout is 0. -/
theorem stuckKey : ¬ ∀ (cfg : Configuration) (es : List KeyEvent), (∀ e ∈ es, IsTime e.now) →
    (keyRun cfg es).currentButton ≠ keyUnknown → NoStuckKey cfg (keyRun cfg es) := by
  intro h
  have hstuck := h { Configuration.clear with iComboKeyTimeoutMs := 0 } [⟨1000, .press ⟨0x45, 0⟩⟩]
    (by decide) (by decide)
  exact absurd (hstuck.2 [] trivial rfl 6000 (by decide) (by decide) (by decide +kernel))
    (by decide)

/-! ### The time of the next poll -/

/-- The times at which a later poll has something to do for the pressed key. -/
inductive Deadline (s : KeyState) : ℤ → Prop
  | combo (pressed : s.currentButton ≠ keyUnknown) (key : s.currentButton = cfg.comboKey)
      (enabled : cfg.iComboKeyTimeoutMs > 0) :
      Deadline s (s.updateButtontime + cfg.iComboKeyTimeoutMs.toNat)
  | release (pressed : s.currentButton ≠ keyUnknown) (key : s.currentButton ≠ cfg.comboKey)
      (set : s.releaseButtontime ≠ 0) : Deadline s s.releaseButtontime
  | repeated (pressed : s.currentButton ≠ keyUnknown) (key : s.currentButton ≠ cfg.comboKey)
      (set : s.repeatButtontime ≠ 0) : Deadline s s.repeatButtontime

/-- The poll asks to be called again within `CEC_PROCESSOR_SIGNAL_WAIT_TIME`, and not later than the
    first deadline that is pending after it, or than the next millisecond. -/
def MeetsDeadlines (s : KeyState) : Prop :=
  1 ≤ (checkKeypressTimeout cfg now s).2.toNat ∧
  (checkKeypressTimeout cfg now s).2.toNat ≤ processorSignalWaitTime ∧
  ∀ d, Deadline cfg (checkKeypressTimeout cfg now s).1 d →
    now + (checkKeypressTimeout cfg now s).2.toNat ≤ max d (now + 1)

/-- When the poll sends a repeat, the next one, or the next poll without any, comes before the
    release. -/
def repeatsInTime (s : KeyState) : Prop :=
  s.currentButton ≠ keyUnknown → ¬ releaseDue cfg now s → repeatDue cfg now s →
    now + min (processorSignalWaitTime : ℤ) cfg.iButtonRepeatRateMs.toNat ≤ s.releaseButtontime

instance (s : KeyState) : Decidable (repeatsInTime cfg now s) :=
  inferInstanceAs (Decidable (_ → _ → _ → _))

/-- A client, by what happened to it so far, and the time at which it is polled. -/
structure PolledClient where
  cfg : Configuration
  events : List KeyEvent
  now : ℤ
  times : ∀ e ∈ events, IsTime e.now
  isTime : IsTime now

namespace PolledClient

/-- The state in which the client is polled. -/
def state (c : PolledClient) : KeyState := keyRun c.cfg c.events

/-- What the client's `CheckKeypressTimeout` returns. -/
def timeout (c : PolledClient) : UInt16 := (checkKeypressTimeout c.cfg c.now c.state).2

end PolledClient

/-- `CLibCEC::CheckKeypressTimeout`. -/
def checkKeypressTimeouts (clients : List PolledClient) : UInt16 :=
  clients.foldl (fun timeout c => if c.timeout < timeout then c.timeout else timeout)
    (.ofNat processorSignalWaitTime)

/-- Each client meets its deadlines, and the thread is asked to wait for the smallest of their
    times. -/
def TimerContract (clients : List PolledClient) : Prop :=
  (∀ c ∈ clients, MeetsDeadlines c.cfg c.now c.state) ∧
  (∀ c ∈ clients, checkKeypressTimeouts clients ≤ c.timeout) ∧
  (clients ≠ [] → ∃ c ∈ clients, checkKeypressTimeouts clients = c.timeout)

section Polls

variable {cfg now} {s : KeyState}

/-- The clamps do not change a time of 1 ms to 1000 ms. -/
theorem toNat_timeout {t : ℕ} (h : t ≤ processorSignalWaitTime) :
    (UInt16.ofNat (max t 1)).toNat = max t 1 := by
  unfold processorSignalWaitTime at h
  rw [UInt16.toNat_ofNat']
  omega

/-- The result is within its bounds whatever the state is. -/
theorem meetsDeadlines_iff : MeetsDeadlines cfg now s ↔
    ∀ d, Deadline cfg (checkKeypressTimeout cfg now s).1 d →
      now + (checkKeypressTimeout cfg now s).2.toNat ≤ max d (now + 1) := by
  obtain ⟨hpos, hle⟩ := checkKeypressTimeout_wait cfg now s
  rw [UInt16.lt_iff_toNat_lt] at hpos
  rw [UInt16.le_iff_toNat_le] at hle
  exact ⟨fun h => h.2.2, fun h => ⟨hpos, hle, h⟩⟩

/-- Nothing is pending when no key is pressed. -/
theorem not_deadline {d : ℤ} (hk : s.currentButton = keyUnknown) : ¬ Deadline cfg s d := by
  rintro (⟨h, -, -⟩ | ⟨h, -, -⟩ | ⟨h, -, -⟩)
  · exact h hk
  · exact h hk
  · exact h hk

/-- When nothing is due, the next call is not later than any deadline. -/
theorem nextKeypressTimeout_deadline (ht : KeyTimes cfg s) (hnow : IsTime now)
    (hcombo : ¬ comboDue cfg now s) (hrelease : ¬ releaseDue cfg now s)
    (hrepeat : ¬ repeatDue cfg now s) {d : ℤ} (hd : Deadline cfg s d) :
    now + max (nextKeypressTimeout cfg now s : ℤ) 1 ≤ d := by
  obtain ⟨hu0, hu1⟩ := ht.update
  obtain ⟨hn0, hn1⟩ := hnow
  obtain ⟨hr0, hr1⟩ := ht.repeated
  have hrel := ht.release
  have hdelay := ht.delay
  have hmax := maxReleaseDelayMs_lt cfg
  have huint := uint64_eq hn0 (by omega : now < 2 ^ 64)
  have hclamp : ∀ t : ℕ, (if t > processorSignalWaitTime then processorSignalWaitTime else t) ≤ t := by
    intro t
    split <;> omega
  cases hd with
  | combo hk hc henabled =>
    have hwindow : 0 < cfg.iComboKeyTimeoutMs.toNat := henabled
    have hwindow' : cfg.iComboKeyTimeoutMs.toNat < 2 ^ 32 := cfg.iComboKeyTimeoutMs.toNat_lt
    -- before the last update the difference wraps, and the window is over
    have hopen : uint64 (now - s.updateButtontime) < cfg.iComboKeyTimeoutMs.toNat := by
      by_contra h
      exact hcombo ⟨hc, henabled, not_lt.mp h⟩
    have hsince : s.updateButtontime ≤ now ∧
        now - s.updateButtontime < cfg.iComboKeyTimeoutMs.toNat := by
      rw [uint64, UInt64.ofInt, UInt64.toNat_ofNat'] at hopen
      omega
    have hleft := uint64_eq (t := s.updateButtontime - now + cfg.iComboKeyTimeoutMs.toNat)
      (by omega) (by omega)
    have hnext : nextKeypressTimeout cfg now s ≤
        uint64 (s.updateButtontime - now + cfg.iComboKeyTimeoutMs.toNat) := by
      have hnone : ∀ t : ℤ, ¬ (s.currentButton ≠ cfg.comboKey ∧ t ≠ 0) := fun _ h => h.1 hc
      unfold nextKeypressTimeout
      simp only [if_pos (And.intro hc henabled), if_neg (hnone _)]
      exact le_trans (hclamp _) (min_le_right _ _)
    omega
  | release hk hc hset =>
    have hpending : now < s.releaseButtontime := by
      have hdue := uint64_eq (t := s.releaseButtontime) (by omega) (by omega)
      by_contra h
      exact hrelease ⟨hc, hset, by omega⟩
    have hleft := uint64_eq (t := s.releaseButtontime - now) (by omega) (by omega)
    have hnext : nextKeypressTimeout cfg now s ≤ uint64 (s.releaseButtontime - now) := by
      unfold nextKeypressTimeout
      simp only [if_pos (And.intro hc hset)]
      refine le_trans (hclamp _) ?_
      split
      · exact le_trans (min_le_left _ _) (min_le_right _ _)
      · exact min_le_right _ _
    omega
  | repeated hk hc hset =>
    have hpending : now < s.repeatButtontime := by
      have hdue := uint64_eq hr0 hr1
      by_contra h
      exact hrepeat ⟨hc, hset, by omega⟩
    have hleft := uint64_eq (t := s.repeatButtontime - now) (by omega) (by omega)
    have hnext : nextKeypressTimeout cfg now s ≤ uint64 (s.repeatButtontime - now) := by
      unfold nextKeypressTimeout
      simp only [if_pos (And.intro hc hset)]
      exact le_trans (hclamp _) (min_le_right _ _)
    omega

/-- A poll that sends a repeat meets the deadlines iff it is called again before the release. -/
theorem meetsDeadlines_repeat (hk : s.currentButton ≠ keyUnknown) (ht : KeyTimes cfg s)
    (hnow : IsTime now) (hrelease : ¬ releaseDue cfg now s) (hrepeat : repeatDue cfg now s) :
    MeetsDeadlines cfg now s ↔
      now + min (processorSignalWaitTime : ℤ) cfg.iButtonRepeatRateMs.toNat ≤ s.releaseButtontime := by
  have hc := hrepeat.1
  have hset := hrepeat.2.1
  obtain ⟨hn0, hn1⟩ := hnow
  obtain ⟨hu0, hu1⟩ := ht.update
  have hrel := ht.release
  have hdelay := ht.delay
  have hmax := maxReleaseDelayMs_lt cfg
  have hrate : 0 < cfg.iButtonRepeatRateMs.toNat := UInt32.pos_iff_ne_zero.mpr (ht.rate hset)
  have hrate' : cfg.iButtonRepeatRateMs.toNat < 2 ^ 32 := cfg.iButtonRepeatRateMs.toNat_lt
  have hpending : now < s.releaseButtontime := by
    have hnow := uint64_eq hn0 (by omega : now < 2 ^ 64)
    have hdue := uint64_eq (t := s.releaseButtontime) (by omega) (by omega)
    by_contra h
    exact hrelease ⟨hc, by omega, by omega⟩
  have hcombo : ¬ comboDue cfg now s := fun h => hc h.1
  have hwait := uint64_eq (t := now + cfg.iButtonRepeatRateMs.toNat - now) (by omega) (by omega)
  set s' : KeyState := { s with repeatButtontime := now + cfg.iButtonRepeatRateMs.toNat } with hs'
  have heq : checkKeypressTimeout cfg now s = (s'.queueAddKey ⟨s.currentButton, s.held now⟩,
      .ofNat (max (min processorSignalWaitTime
        (uint64 (now + cfg.iButtonRepeatRateMs.toNat - now))) 1)) := by
    rw [checkKeypressTimeout_eq, if_neg hk, if_neg hcombo, if_neg hrelease, if_pos hrepeat]
  have htime : ((checkKeypressTimeout cfg now s).2.toNat : ℤ) =
      min (processorSignalWaitTime : ℤ) cfg.iButtonRepeatRateMs.toNat := by
    rw [heq]
    simp only
    rw [toNat_timeout (min_le_left _ _)]
    have hsignal : (processorSignalWaitTime : ℤ) = 1000 := rfl
    omega
  rw [meetsDeadlines_iff, htime, heq]
  constructor
  · intro h
    have hset' : s.releaseButtontime ≠ 0 := by omega
    have hlate := h s.releaseButtontime (.release hk hc hset')
    omega
  · rintro h d (⟨-, hkey, -⟩ | ⟨-, -, -⟩ | ⟨-, -, -⟩)
    · exact absurd hkey hc
    · exact le_trans h (le_max_left _ _)
    · change _ ≤ max (now + (cfg.iButtonRepeatRateMs.toNat : ℤ)) _
      omega

/-- One poll meets the deadlines iff a repeat that it sends leaves time for the release. -/
theorem meetsDeadlines_iff_repeatsInTime
    (ht : s.currentButton ≠ keyUnknown → KeyTimes cfg s) (hnow : IsTime now) :
    MeetsDeadlines cfg now s ↔ repeatsInTime cfg now s := by
  by_cases hk : s.currentButton = keyUnknown
  · have hidle : MeetsDeadlines cfg now s := by
      rw [meetsDeadlines_iff, checkKeypressTimeout_eq, if_pos hk]
      exact fun d hd => absurd hd (not_deadline hk)
    exact ⟨fun _ h => absurd hk h, fun _ => hidle⟩
  have ht := ht hk
  by_cases hdue : comboDue cfg now s ∨ releaseDue cfg now s
  · have hended : MeetsDeadlines cfg now s := by
      rw [meetsDeadlines_iff]
      exact fun d hd => absurd hd (not_deadline (currentButton_due hdue))
    refine ⟨fun _ _ hrelease hrepeat => ?_, fun _ => hended⟩
    exact absurd (hdue.resolve_right hrelease).1 hrepeat.1
  obtain ⟨hcombo, hrelease⟩ := not_or.mp hdue
  by_cases hrepeat : repeatDue cfg now s
  · rw [meetsDeadlines_repeat hk ht hnow hrelease hrepeat]
    exact ⟨fun h _ _ _ => h, fun h => h hk hrelease hrepeat⟩
  · have hnothing : MeetsDeadlines cfg now s := by
      rw [meetsDeadlines_iff, checkKeypressTimeout_eq, if_neg hk, if_neg hcombo, if_neg hrelease,
        if_neg hrepeat]
      intro d hd
      have hnext := nextKeypressTimeout_deadline ht hnow hcombo hrelease hrepeat hd
      simp only
      rw [toNat_timeout (nextKeypressTimeout_le cfg now s)]
      omega
    exact ⟨fun _ _ _ h => absurd h hrepeat, fun _ => hnothing⟩

end Polls

/-- The fold over the clients keeps the smallest time. -/
theorem foldl_timeout : ∀ (clients : List PolledClient) (t : UInt16),
    clients.foldl (fun timeout c => if c.timeout < timeout then c.timeout else timeout) t ≤ t ∧
    (∀ c ∈ clients,
      clients.foldl (fun timeout c => if c.timeout < timeout then c.timeout else timeout) t ≤
        c.timeout) ∧
    (clients.foldl (fun timeout c => if c.timeout < timeout then c.timeout else timeout) t = t ∨
      ∃ c ∈ clients,
        clients.foldl (fun timeout c => if c.timeout < timeout then c.timeout else timeout) t =
          c.timeout)
  | [], t => ⟨UInt16.le_refl _, by simp, .inl rfl⟩
  | c :: clients, t => by
    obtain ⟨hle, hall, heq⟩ := foldl_timeout clients (if c.timeout < t then c.timeout else t)
    rw [List.foldl_cons]
    have hc : (if c.timeout < t then c.timeout else t) ≤ c.timeout ∧
        (if c.timeout < t then c.timeout else t) ≤ t := by
      split
      · next h => exact ⟨UInt16.le_refl _, UInt16.le_of_lt h⟩
      · next h => exact ⟨UInt16.not_lt.mp h, UInt16.le_refl _⟩
    refine ⟨UInt16.le_trans hle hc.2, ?_, ?_⟩
    · intro c' hc'
      rcases List.mem_cons.mp hc' with rfl | hc'
      · exact UInt16.le_trans hle hc.1
      · exact hall c' hc'
    · rcases heq with h | ⟨c', hc', h⟩
      · rw [h]
        split
        · exact .inr ⟨c, List.mem_cons_self, rfl⟩
        · exact .inl rfl
      · exact .inr ⟨c', List.mem_cons_of_mem _ hc', h⟩

/-- `CLibCEC::CheckKeypressTimeout` returns the smallest time. -/
theorem checkKeypressTimeouts_least (clients : List PolledClient) :
    (∀ c ∈ clients, checkKeypressTimeouts clients ≤ c.timeout) ∧
      (clients ≠ [] → ∃ c ∈ clients, checkKeypressTimeouts clients = c.timeout) := by
  obtain ⟨-, hall, heq⟩ := foldl_timeout clients (.ofNat processorSignalWaitTime)
  refine ⟨hall, fun hne => ?_⟩
  rcases heq with h | h
  · -- the start value is no client's, but no client's time is larger
    obtain ⟨c, hc⟩ := List.exists_mem_of_ne_nil clients hne
    refine ⟨c, hc, UInt16.le_antisymm (hall c hc) ?_⟩
    rw [checkKeypressTimeouts, h]
    exact (checkKeypressTimeout_wait c.cfg c.now c.state).2
  · exact h

/-- The clients keep the timer contract iff no poll that sends a repeat is called again only after
    the release of its key. -/
theorem timerContract_iff (clients : List PolledClient) :
    TimerContract clients ↔ ∀ c ∈ clients, repeatsInTime c.cfg c.now c.state := by
  have hpoll : ∀ c : PolledClient,
      MeetsDeadlines c.cfg c.now c.state ↔ repeatsInTime c.cfg c.now c.state :=
    fun c => meetsDeadlines_iff_repeatsInTime (keyTimes_run c.times) c.isTime
  constructor
  · rintro ⟨hmeets, -⟩ c hc
    exact (hpoll c).mp (hmeets c hc)
  · intro h
    exact ⟨fun c hc => (hpoll c).mpr (h c hc), checkKeypressTimeouts_least clients⟩

/-- A repeat every two seconds of a key that is released after half a second. -/
theorem timerContract_late : ¬ ∀ clients, TimerContract clients := by
  intro h
  have hlate := h [⟨{ Configuration.clear with iButtonRepeatRateMs := 2000 },
    [⟨1000, .press ⟨1, 0⟩⟩, ⟨1100, .press ⟨1, 0⟩⟩, ⟨1200, .press ⟨1, 0⟩⟩], 1250, by decide,
    by decide⟩]
  have hrelease := (hlate.1 _ List.mem_cons_self).2.2 1700
    (.release (by decide +kernel) (by decide +kernel) (by decide +kernel))
  exact absurd hrelease (by decide +kernel)

end CEC
