import LibCec.Configuration
import LibCec.Schemes.GuardedRun

/-! The key that is held down (`CCECClient::AddKey`, `CheckKeypressTimeout`).

    A press reaches the application as the key with duration 0, its release as the same key with
    the time for which it was held. The client remembers one key; it is released by a release from
    the bus, by another key, or by a timer that the processor thread polls.

        unknown ──press──▶ key ──release, other key──▶ unknown     (release queued)
                           key ──timer, pressed once─▶ unknown     (release queued)
                           key ──timer, repeated─────▶ unknown     (nothing queued)

    `keysReleased_of_guarded` says that a run without the last edge and without a release in the
    millisecond of the press leaves no key pressed; `not_keysReleased_repeated` is a run that takes
    the last edge, after which the release that the device does send is dropped. -/

namespace CEC
open Schemes

/-- `CEC_USER_CONTROL_CODE_UNKNOWN`. -/
def keyUnknown : UInt8 := 0xFF

/-- `CEC_USER_CONTROL_CODE_MAX`. -/
def keyMax : UInt8 := 0x96

/-- `CEC_BUTTON_TIMEOUT`. -/
def buttonTimeoutMs : ℤ := 500

/-- `CEC_BUTTON_RELEASE_BACKSTOP_MS`. -/
def buttonReleaseBackstopMs : ℤ := 5000

/-- `CEC_PROCESSOR_SIGNAL_WAIT_TIME`. -/
def processorSignalWaitTime : ℕ := 1000

/-- A time, or a difference of times, as an `uint64_t`. -/
def uint64 (t : ℤ) : ℕ := (UInt64.ofInt t).toNat

/-- `cec_keypress`. -/
structure Keypress where
  keycode : UInt8
  duration : UInt32
  deriving DecidableEq

/-- The fields of a client that follow the pressed key, and the key callbacks queued so far. -/
structure KeyState where
  currentButton : UInt8
  initialButtontime : ℤ
  updateButtontime : ℤ
  repeatButtontime : ℤ
  releaseButtontime : ℤ
  pressedButtoncount : ℕ
  releasedButtoncount : ℕ
  seenButtonRelease : Bool
  callbackCalls : List Keypress
  deriving DecidableEq

namespace KeyState

/-- `ResetKeypressState`, before anything was queued. -/
def reset : KeyState := ⟨keyUnknown, 0, 0, 0, 0, 0, 0, false, []⟩

/-- `QueueAddKey`. -/
def queueAddKey (s : KeyState) (key : Keypress) : KeyState :=
  { s with callbackCalls := s.callbackCalls ++ [key] }

/-- The assignments that forget the pressed key. -/
def forget (s : KeyState) : KeyState :=
  { s with
    currentButton := keyUnknown, initialButtontime := 0, updateButtontime := 0
    repeatButtontime := 0, releaseButtontime := 0
    pressedButtoncount := 0, releasedButtoncount := 0 }

/-- `now - m_initialButtontime`, as an unsigned int. -/
def held (s : KeyState) (now : ℤ) : UInt32 := UInt32.ofInt (now - s.initialButtontime)

/-- How many releases of `k` are queued: callbacks for `k` with a duration. -/
def releases (k : UInt8) (s : KeyState) : ℕ :=
  s.callbackCalls.countP fun key => key.keycode = k ∧ key.duration ≠ 0

theorem releases_queueAddKey (k : UInt8) (s : KeyState) (key : Keypress) :
    releases k (s.queueAddKey key) =
      releases k s + if key.keycode = k ∧ key.duration ≠ 0 then 1 else 0 := by
  simp [releases, queueAddKey, List.countP_append, List.countP_cons]

@[simp] theorem releases_forget (k : UInt8) (s : KeyState) : releases k s.forget = releases k s :=
  rfl

end KeyState

open KeyState

variable (cfg : Configuration) (now : ℤ)

/-- `AddKey(bSendComboKey, bButtonRelease)`. -/
def addKey (bSendComboKey bButtonRelease : Bool) (s : KeyState) : KeyState :=
  let s := if bButtonRelease then { s with seenButtonRelease := true } else s
  let sent := s.currentButton ≠ keyUnknown ∧
    (UInt32.ofInt (now - s.updateButtontime) > cfg.iComboKeyTimeoutMs ∨
      cfg.iComboKeyTimeoutMs = 0 ∨ s.currentButton ≠ cfg.comboKey ∨ bSendComboKey)
  let key : Keypress := ⟨if sent then s.currentButton else keyUnknown, s.held now⟩
  let s := if sent then s.forget else s
  -- releases are not forwarded when supporting repeating keys
  if bButtonRelease ∧ cfg.iButtonRepeatRateMs ≠ 0 then s
  else if key.keycode ≠ keyUnknown then s.queueAddKey key
  else s

/-- What a combo key that is still pressed makes of the next key: stop + ok is exit, stop + pause
    the root menu, stop + play dot. Another key is `none`. -/
def comboOf : UInt8 → Option UInt8
  | 0x00 => some 0x0D
  | 0x46 => some 0x09
  | 0x44 => some 0x2A
  | _ => none

/-- The delay after which a release is synthesized for a held key. -/
def releaseDelayMs (s : KeyState) : ℤ :=
  let iReleaseDelayMs : ℤ :=
    if cfg.iButtonReleaseDelayMs ≠ 0 then cfg.iButtonReleaseDelayMs.toNat else buttonTimeoutMs
  if s.seenButtonRelease ∧ cfg.iButtonRepeatRateMs = 0 then
    max iReleaseDelayMs buttonReleaseBackstopMs
  else iReleaseDelayMs

/-- The branch of `AddKey(key)` for the key that is pressed already. -/
def repeatKey (s : KeyState) : KeyState :=
  let repeatButtontime :=
    if cfg.iButtonRepeatRateMs ≠ 0 ∧ s.repeatButtontime = 0 ∧ s.pressedButtoncount > 1 then
      s.initialButtontime + cfg.iButtonRepeatDelayMs.toNat
    else s.repeatButtontime
  { s with
    updateButtontime := now
    releaseButtontime := now + releaseDelayMs cfg s
    repeatButtontime := repeatButtontime
    pressedButtoncount := s.pressedButtoncount + 1 }

/-- The branch of `AddKey(key)` for another key, which is sent as `transmitKey`. -/
def changeKey (transmitKey : Keypress) (s : KeyState) : KeyState :=
  let delay := releaseDelayMs cfg s
  let s := if s.currentButton ≠ transmitKey.keycode then addKey cfg now false false s else s
  if transmitKey.duration = 0 then
    if transmitKey.keycode = keyUnknown then s.forget
    else
      { s with
        currentButton := transmitKey.keycode, initialButtontime := now, updateButtontime := now
        repeatButtontime := 0, releaseButtontime := now + delay
        pressedButtoncount := 1, releasedButtoncount := 0 }
  else s

/-- `AddKey(key)`. -/
def addKeypress (key : Keypress) (s : KeyState) : KeyState :=
  -- send back the previous key if there is one
  if key.keycode > keyMax then addKey cfg now false false s
  else
    let combo := cfg.iComboKeyTimeoutMs > 0 ∧ s.currentButton = cfg.comboKey ∧ key.duration = 0
    let transmitKey : Keypress :=
      if combo then { key with keycode := (comboOf key.keycode).getD key.keycode } else key
    let s := if combo ∧ comboOf key.keycode = none then addKey cfg now true false s else s
    let isrepeat := s.currentButton = key.keycode ∧ cfg.iButtonRepeatRateMs ≠ 0
    let s' := if s.currentButton = key.keycode then repeatKey cfg now s
      else changeKey cfg now transmitKey s
    if ¬ isrepeat ∧ (key.keycode ≠ cfg.comboKey ∨ key.duration > 0) then s'.queueAddKey transmitKey
    else s'

/-- The release delay of the pressed key, which is not the combo key, is over. -/
def releaseDue (s : KeyState) : Prop :=
  s.currentButton ≠ cfg.comboKey ∧ s.releaseButtontime ≠ 0 ∧
    uint64 now ≥ uint64 s.releaseButtontime

instance (s : KeyState) : Decidable (releaseDue cfg now s) :=
  inferInstanceAs (Decidable (_ ∧ _ ∧ _))

/-- The calculation of the next call in `CheckKeypressTimeout` when nothing is due. -/
def nextKeypressTimeout (s : KeyState) : ℕ :=
  let iTimeoutMs := cfg.iComboKeyTimeoutMs
  let timeout := processorSignalWaitTime
  let timeout :=
    if s.currentButton = cfg.comboKey ∧ iTimeoutMs > 0 then
      min timeout (uint64 (s.updateButtontime - now + iTimeoutMs.toNat))
    else timeout
  let timeout :=
    if s.currentButton ≠ cfg.comboKey ∧ s.releaseButtontime ≠ 0 then
      min timeout (uint64 (s.releaseButtontime - now))
    else timeout
  let timeout :=
    if s.currentButton ≠ cfg.comboKey ∧ s.repeatButtontime ≠ 0 then
      min timeout (uint64 (s.repeatButtontime - now))
    else timeout
  if timeout > processorSignalWaitTime then processorSignalWaitTime else timeout

/-- `CheckKeypressTimeout`: the state after it and the time when it wants to be called again. -/
def checkKeypressTimeout (s : KeyState) : KeyState × UInt16 :=
  if s.currentButton = keyUnknown then (s, .ofNat processorSignalWaitTime)
  else
    let iTimeoutMs := cfg.iComboKeyTimeoutMs
    let key : Keypress := ⟨s.currentButton, s.held now⟩
    if s.currentButton = cfg.comboKey ∧ iTimeoutMs > 0 ∧
        uint64 (now - s.updateButtontime) ≥ iTimeoutMs.toNat then
      (s.forget.queueAddKey key, .ofNat (max processorSignalWaitTime 1))
    else if releaseDue cfg now s then
      -- a device that re-sends the pressed command sends its own release too
      (if s.pressedButtoncount ≤ 1 then s.forget.queueAddKey key else s.forget,
        .ofNat (max processorSignalWaitTime 1))
    else if s.currentButton ≠ cfg.comboKey ∧ s.repeatButtontime ≠ 0 ∧
        uint64 now ≥ uint64 s.repeatButtontime then
      let repeatButtontime := now + cfg.iButtonRepeatRateMs.toNat
      (({ s with repeatButtontime }).queueAddKey key,
        .ofNat (max (min processorSignalWaitTime (uint64 (repeatButtontime - now))) 1))
    else (s, .ofNat (max (nextKeypressTimeout cfg now s) 1))

/-! ### The timer never asks to wait forever -/

theorem nextKeypressTimeout_le (s : KeyState) :
    nextKeypressTimeout cfg now s ≤ processorSignalWaitTime := by
  have hclamp : ∀ t : ℕ, (if t > processorSignalWaitTime then processorSignalWaitTime else t) ≤
      processorSignalWaitTime := by
    intro t
    split <;> omega
  exact hclamp _

theorem clamp_timeout {t : ℕ} (h : t ≤ processorSignalWaitTime) :
    0 < UInt16.ofNat (max t 1) ∧ UInt16.ofNat (max t 1) ≤ 1000 := by
  have hle : max t 1 ≤ 1000 := max_le h (by decide)
  have hmod : (UInt16.ofNat (max t 1)).toNat = max t 1 := by
    rw [UInt16.toNat_ofNat']
    omega
  constructor
  · rw [UInt16.lt_iff_toNat_lt, hmod]
    exact lt_of_lt_of_le one_pos (le_max_right t 1)
  · rw [UInt16.le_iff_toNat_le, hmod]
    exact hle

/-- The time that the processor thread is asked to wait is 1 ms to 1000 ms. -/
theorem checkKeypressTimeout_wait (s : KeyState) :
    0 < (checkKeypressTimeout cfg now s).2 ∧ (checkKeypressTimeout cfg now s).2 ≤ 1000 := by
  unfold checkKeypressTimeout
  simp only
  split
  · exact ⟨by simp only; decide, by simp only; decide⟩
  · split
    · exact clamp_timeout (le_refl _)
    · split
      · exact clamp_timeout (le_refl _)
      · split
        · exact clamp_timeout (min_le_left _ _)
        · exact clamp_timeout (nextKeypressTimeout_le cfg now s)

/-! ### Runs -/

/-- What happens to a client: a key from the bus, a release from the bus (a vendor's own release
    is `AddKey()`) or a poll of the processor thread. -/
inductive KeyInput where
  | press (key : Keypress)
  | release (bButtonRelease : Bool)
  | checkTimeout

/-- An input and the time at which it arrives. -/
structure KeyEvent where
  now : ℤ
  input : KeyInput

/-- A release received from the bus. -/
def KeyEvent.isRelease (e : KeyEvent) : Bool :=
  match e.input with
  | .release _ => true
  | _ => false

/-- A poll of the processor thread. -/
def KeyEvent.isTimer (e : KeyEvent) : Bool :=
  match e.input with
  | .checkTimeout => true
  | _ => false

/-- The client after one event. -/
def keyStep (s : KeyState) (e : KeyEvent) : KeyState :=
  match e.input with
  | .press key => addKeypress cfg e.now key s
  | .release bButtonRelease => addKey cfg e.now false bButtonRelease s
  | .checkTimeout => (checkKeypressTimeout cfg e.now s).1

/-- The client after a run. -/
abbrev keyRun (es : List KeyEvent) : KeyState := es.foldl (keyStep cfg) reset

theorem keyRun_concat (es : List KeyEvent) (e : KeyEvent) :
    keyRun cfg (es ++ [e]) = keyStep cfg (keyRun cfg es) e := by
  rw [keyRun, List.foldl_append, List.foldl_cons, List.foldl_nil]

/-- No key is left pressed: when a key whose press was queued stops being the current one, exactly
    one release of it is queued by that event or by the next release from the bus. -/
def KeysReleased (es : List KeyEvent) : Prop :=
  ∀ past e later, es = past ++ e :: later → ∀ k, k ≠ keyUnknown → k ≠ cfg.comboKey →
    ⟨k, 0⟩ ∈ (keyRun cfg past).callbackCalls → (keyRun cfg past).currentButton = k →
    (keyRun cfg (past ++ [e])).currentButton ≠ k →
    releases k (keyRun cfg (past ++ [e])) = releases k (keyRun cfg past) + 1 ∨
    releases k (keyRun cfg (past ++ [e])) = releases k (keyRun cfg past) ∧
      ∀ wait r rest, later = wait ++ r :: rest → (∀ w ∈ wait, w.isRelease = false) →
        r.isRelease = true →
        releases k (keyRun cfg (past ++ e :: wait ++ [r])) = releases k (keyRun cfg past) + 1

/-- The event ends the pressed key: a release, a key that is another one or none, or a timer that
    is due. -/
def endsKey (s : KeyState) (e : KeyEvent) : Prop :=
  match e.input with
  | .press key => key.keycode > keyMax ∨ key.keycode ≠ s.currentButton
  | .release _ => True
  | .checkTimeout => releaseDue cfg e.now s

instance (s : KeyState) : ∀ e : KeyEvent, Decidable (endsKey cfg s e)
  | ⟨_, .press key⟩ =>
    inferInstanceAs (Decidable (key.keycode > keyMax ∨ key.keycode ≠ s.currentButton))
  | ⟨_, .release _⟩ => inferInstanceAs (Decidable True)
  | ⟨now, .checkTimeout⟩ => inferInstanceAs (Decidable (releaseDue cfg now s))

/-- An event that ends the key, other than the combo key, comes in another millisecond than the
    press (modulo 2^32), and it is not the timer of a key that was pressed more than once. -/
def endsAudibly (s : KeyState) (e : KeyEvent) : Prop :=
  s.currentButton ≠ keyUnknown → s.currentButton ≠ cfg.comboKey → endsKey cfg s e →
    s.held e.now ≠ 0 ∧ (e.isTimer → s.pressedButtoncount ≤ 1)

instance (s : KeyState) (e : KeyEvent) : Decidable (endsAudibly cfg s e) :=
  inferInstanceAs (Decidable (_ → _ → _ → _ ∧ (_ → _)))

/-! ### What one event queues -/

section Steps

variable {cfg now} {s : KeyState}

/-- A key that is not the combo key is released by `AddKey()`. -/
theorem addKey_of_pressed {bSendComboKey bButtonRelease : Bool} (hk : s.currentButton ≠ keyUnknown)
    (hc : s.currentButton ≠ cfg.comboKey) (hr : cfg.iButtonRepeatRateMs = 0) :
    addKey cfg now bSendComboKey bButtonRelease s =
      (forget { s with seenButtonRelease := bButtonRelease || s.seenButtonRelease }).queueAddKey
        ⟨s.currentButton, s.held now⟩ := by
  cases bButtonRelease <;> simp [addKey, hk, hc, hr, held]

theorem releases_pressed {k : UInt8} {s' : KeyState} (h : s'.callbackCalls = s.callbackCalls)
    (hheld : s.held now ≠ 0) :
    releases k (s'.queueAddKey ⟨k, s.held now⟩) = releases k s + 1 := by
  rw [releases_queueAddKey, if_pos ⟨rfl, hheld⟩, releases, h]
  rfl

/-- A release from the bus queues the release of the pressed key. -/
theorem releases_addKey {bSendComboKey bButtonRelease : Bool} (hk : s.currentButton ≠ keyUnknown)
    (hc : s.currentButton ≠ cfg.comboKey) (hr : cfg.iButtonRepeatRateMs = 0)
    (hheld : s.held now ≠ 0) :
    releases s.currentButton (addKey cfg now bSendComboKey bButtonRelease s) =
      releases s.currentButton s + 1 := by
  rw [addKey_of_pressed hk hc hr]
  exact releases_pressed rfl hheld

/-- Another key queues the release of the pressed key, before its own press. -/
theorem releases_changeKey {key : Keypress} (hk : s.currentButton ≠ keyUnknown)
    (hc : s.currentButton ≠ cfg.comboKey) (hr : cfg.iButtonRepeatRateMs = 0)
    (hheld : s.held now ≠ 0) (hne : s.currentButton ≠ key.keycode) :
    releases s.currentButton (changeKey cfg now key s) = releases s.currentButton s + 1 := by
  have hadd : releases s.currentButton (addKey cfg now false false s) =
      releases s.currentButton s + 1 := releases_addKey hk hc hr hheld
  rw [changeKey]
  simp only [if_pos hne]
  split
  · split
    · exact hadd
    · exact hadd
  · exact hadd

/-- A key that is pressed and is not the combo key does not change the meaning of the next one. -/
theorem addKeypress_of_pressed {key : Keypress} (hc : s.currentButton ≠ cfg.comboKey)
    (hmax : ¬ key.keycode > keyMax) (hne : s.currentButton ≠ key.keycode) :
    addKeypress cfg now key s =
      if key.keycode ≠ cfg.comboKey ∨ key.duration > 0 then (changeKey cfg now key s).queueAddKey key
      else changeKey cfg now key s := by
  simp [addKeypress, hmax, hc, hne]

/-- The key that is pressed already stays pressed. -/
theorem currentButton_addKeypress {key : Keypress} (hc : s.currentButton ≠ cfg.comboKey)
    (hmax : ¬ key.keycode > keyMax) (heq : s.currentButton = key.keycode) :
    (addKeypress cfg now key s).currentButton = s.currentButton := by
  have hrepeat : addKeypress cfg now key s =
      if cfg.iButtonRepeatRateMs = 0 ∧ (key.keycode ≠ cfg.comboKey ∨ key.duration > 0) then
        (repeatKey cfg now s).queueAddKey key
      else repeatKey cfg now s := by
    have hcombo : key.keycode ≠ cfg.comboKey := heq ▸ hc
    simp [addKeypress, hmax, hcombo, heq]
  rw [hrepeat]
  split <;> rfl

theorem releases_addKeypress {key : Keypress} (hk : s.currentButton ≠ keyUnknown)
    (hc : s.currentButton ≠ cfg.comboKey) (hr : cfg.iButtonRepeatRateMs = 0)
    (hheld : s.held now ≠ 0) (hends : key.keycode > keyMax ∨ key.keycode ≠ s.currentButton) :
    releases s.currentButton (addKeypress cfg now key s) = releases s.currentButton s + 1 := by
  by_cases hmax : key.keycode > keyMax
  · rw [addKeypress, if_pos hmax]
    exact releases_addKey hk hc hr hheld
  · have hne : key.keycode ≠ s.currentButton := hends.resolve_left hmax
    have hchange := releases_changeKey hk hc hr hheld hne.symm
    rw [addKeypress_of_pressed hc hmax hne.symm]
    split
    · -- the press that follows is one of another key
      rw [releases_queueAddKey, if_neg (fun h => hne h.1), hchange]
    · exact hchange

theorem releases_checkKeypressTimeout (hk : s.currentButton ≠ keyUnknown)
    (hc : s.currentButton ≠ cfg.comboKey) (hheld : s.held now ≠ 0) (hdue : releaseDue cfg now s)
    (hcount : s.pressedButtoncount ≤ 1) :
    releases s.currentButton (checkKeypressTimeout cfg now s).1 =
      releases s.currentButton s + 1 := by
  have heq : (checkKeypressTimeout cfg now s).1 =
      s.forget.queueAddKey ⟨s.currentButton, s.held now⟩ := by
    simp [checkKeypressTimeout, hk, hc, hdue, hcount]
  rw [heq]
  exact releases_pressed rfl hheld

/-- An event that does not end the pressed key leaves it pressed. -/
theorem currentButton_keyStep {e : KeyEvent} (hk : s.currentButton ≠ keyUnknown)
    (hc : s.currentButton ≠ cfg.comboKey) (hends : ¬ endsKey cfg s e) :
    (keyStep cfg s e).currentButton = s.currentButton := by
  obtain ⟨now, input⟩ := e
  cases input with
  | press key =>
    obtain ⟨hmax, heq⟩ := not_or.mp hends
    exact currentButton_addKeypress hc hmax (not_not.mp heq).symm
  | release bButtonRelease => exact absurd trivial hends
  | checkTimeout =>
    have hdue : ¬ releaseDue cfg now s := hends
    simp only [keyStep, checkKeypressTimeout, if_neg hk, if_neg hdue]
    rw [if_neg (fun h => hc h.1)]
    split <;> rfl

/-- A guarded event that ends the pressed key queues exactly one release of it. -/
theorem releases_keyStep {e : KeyEvent} (hr : cfg.iButtonRepeatRateMs = 0)
    (hguard : endsAudibly cfg s e) (hk : s.currentButton ≠ keyUnknown)
    (hc : s.currentButton ≠ cfg.comboKey)
    (hne : (keyStep cfg s e).currentButton ≠ s.currentButton) :
    releases s.currentButton (keyStep cfg s e) = releases s.currentButton s + 1 := by
  have hends : endsKey cfg s e := by
    by_contra h
    exact hne (currentButton_keyStep hk hc h)
  obtain ⟨hheld, hcount⟩ := hguard hk hc hends
  obtain ⟨now, input⟩ := e
  cases input with
  | press key => exact releases_addKeypress hk hc hr hheld hends
  | release bButtonRelease => exact releases_addKey hk hc hr hheld
  | checkTimeout => exact releases_checkKeypressTimeout hk hc hheld hends (hcount rfl)

end Steps

/-- With auto-repeat off, a run whose events all end their key audibly leaves no key pressed. -/
theorem keysReleased_of_guarded (hr : cfg.iButtonRepeatRateMs = 0) {es : List KeyEvent}
    (h : Guarded (keyStep cfg) (endsAudibly cfg) reset es) : KeysReleased cfg es := by
  intro past e later hes k hk hc _ hcurrent hne
  subst hes hcurrent
  have hguard : endsAudibly cfg (keyRun cfg past) e := (guarded_append past _ _ |>.mp h).2.1
  rw [keyRun_concat] at hne ⊢
  exact Or.inl (releases_keyStep hr hguard hk hc hne)

/-- A key that is pressed, repeated and released before its timer, and another one that is pressed
    once and whose release is lost, leave no key pressed. -/
theorem keysReleased_two : KeysReleased .clear
    [⟨1000, .press ⟨1, 0⟩⟩, ⟨1400, .press ⟨1, 0⟩⟩, ⟨1500, .release true⟩, ⟨2000, .press ⟨2, 0⟩⟩,
      ⟨7001, .checkTimeout⟩, ⟨7100, .release true⟩] :=
  keysReleased_of_guarded _ rfl (by decide +kernel)

/-- A key that is pressed, repeated and then silent for the release delay is forgotten without a
    release, and the release that the device sends is dropped. -/
theorem not_keysReleased_repeated :
    ¬ ∀ (cfg : Configuration) (es : List KeyEvent), cfg.iButtonRepeatRateMs = 0 →
      (es.map KeyEvent.now).Pairwise (· ≤ ·) → KeysReleased cfg es := by
  intro h
  have hrun := h .clear [⟨1000, .press ⟨1, 0⟩⟩, ⟨1400, .press ⟨1, 0⟩⟩, ⟨1900, .checkTimeout⟩,
    ⟨1950, .release true⟩] rfl (by decide)
  rcases hrun [⟨1000, .press ⟨1, 0⟩⟩, ⟨1400, .press ⟨1, 0⟩⟩] ⟨1900, .checkTimeout⟩
    [⟨1950, .release true⟩] rfl 1 (by decide) (by decide) (by decide +kernel) (by decide +kernel)
    (by decide +kernel) with hnow | ⟨_, hnext⟩
  · exact absurd hnow (by decide +kernel)
  · exact absurd (hnext [] ⟨1950, .release true⟩ [] rfl nofun rfl) (by decide +kernel)

end CEC
