import LibCec.ComboKeys

/-! What one event does to the pressed key.

    `KeyMove` lists the ways in which an event changes the key that is pressed and its times, and
    `keyMove` says that there are no others. What holds of the timer in every reachable state is
    derived from this list.

        kept      a poll that is not due, a release within the combo window, an unknown key then
        ended     unknown, nothing is pressed
        repeated  the pressed key was pressed again
        pressed   a key was pressed, perhaps as the key that a combo makes of it -/

namespace CEC
open Schemes KeyState

variable (cfg : Configuration) (now : ℤ)

/-- `AddKey(bool, bool)` sends back the pressed key. -/
def sendsBack (bSendComboKey : Bool) (s : KeyState) : Prop :=
  s.currentButton ≠ keyUnknown ∧
    (UInt32.ofInt (now - s.updateButtontime) > cfg.iComboKeyTimeoutMs ∨
      cfg.iComboKeyTimeoutMs = 0 ∨ s.currentButton ≠ cfg.comboKey ∨ bSendComboKey)

instance (bSendComboKey : Bool) (s : KeyState) : Decidable (sendsBack cfg now bSendComboKey s) :=
  inferInstanceAs (Decidable (_ ∧ _))

/-- The client after it took note of a release from the bus. -/
def KeyState.sawRelease (bButtonRelease : Bool) (s : KeyState) : KeyState :=
  { s with seenButtonRelease := bButtonRelease || s.seenButtonRelease }

/-- The combo key that is pressed with another key that makes no combo with it. -/
def breaksCombo (key : Keypress) (s : KeyState) : Prop :=
  (cfg.iComboKeyTimeoutMs > 0 ∧ s.currentButton = cfg.comboKey ∧ key.duration = 0) ∧
    comboOf key.keycode = none

instance (key : Keypress) (s : KeyState) : Decidable (breaksCombo cfg key s) :=
  inferInstanceAs (Decidable (_ ∧ _))

/-- `AddKey(true)` for a combo key that is followed by a key that makes no combo with it. -/
def sendCombo (key : Keypress) (s : KeyState) : KeyState :=
  if breaksCombo cfg key s then addKey cfg now true false s else s

/-- The event begins a press: a key with duration 0 that is not pressed already. -/
def beginsPress (s : KeyState) (e : KeyEvent) : Prop :=
  ∃ key, e.input = .press key ∧ key.keycode ≤ keyMax ∧ key.duration = 0 ∧
    (sendCombo cfg e.now key s).currentButton ≠ key.keycode

/-- The ways in which an event changes the pressed key. -/
inductive KeyMove (s : KeyState) (e : KeyEvent) (s' : KeyState) : Prop
  | kept (current : s'.currentButton = s.currentButton)
      (initial : s'.initialButtontime = s.initialButtontime)
      (update : s'.updateButtontime = s.updateButtontime)
      (release : s'.releaseButtontime = s.releaseButtontime)
      (repeated : s'.repeatButtontime = s.repeatButtontime ∨
        s.repeatButtontime ≠ 0 ∧ s'.repeatButtontime = e.now + cfg.iButtonRepeatRateMs.toNat)
  | ended (current : s'.currentButton = keyUnknown)
  | repeated (key : Keypress) (input : e.input = .press key) (valid : key.keycode ≤ keyMax)
      (same : s.currentButton = key.keycode)
      (current : s'.currentButton = s.currentButton)
      (initial : s'.initialButtontime = s.initialButtontime)
      (update : s'.updateButtontime = e.now)
      (release : s'.releaseButtontime = e.now + releaseDelayMs cfg s)
      (repeated : s'.repeatButtontime = s.repeatButtontime ∨ cfg.iButtonRepeatRateMs ≠ 0 ∧
        s'.repeatButtontime = s.initialButtontime + cfg.iButtonRepeatDelayMs.toNat)
  | pressed (key : Keypress) (input : e.input = .press key) (valid : key.keycode ≤ keyMax)
      (duration : key.duration = 0)
      (other : (sendCombo cfg e.now key s).currentButton ≠ key.keycode)
      (current : s'.currentButton = (transmitKey cfg key s).keycode)
      (initial : s'.initialButtontime = e.now)
      (update : s'.updateButtontime = e.now)
      (release : s'.releaseButtontime = e.now + releaseDelayMs cfg s)
      (repeated : s'.repeatButtontime = 0)

section Steps

variable {cfg now} {s : KeyState} {key : Keypress}

/-! ### `AddKey(bool, bool)` -/

theorem addKey_kept {bSendComboKey bButtonRelease : Bool} (h : ¬ sendsBack cfg now bSendComboKey s) :
    addKey cfg now bSendComboKey bButtonRelease s = s.sawRelease bButtonRelease := by
  unfold sendsBack at h
  cases bButtonRelease <;> simp [addKey, h, sawRelease]

theorem addKey_sent {bSendComboKey bButtonRelease : Bool} (h : sendsBack cfg now bSendComboKey s) :
    addKey cfg now bSendComboKey bButtonRelease s =
      if bButtonRelease ∧ cfg.iButtonRepeatRateMs ≠ 0 then (s.sawRelease bButtonRelease).forget
      else (s.sawRelease bButtonRelease).forget.queueAddKey ⟨s.currentButton, s.held now⟩ := by
  unfold sendsBack at h
  cases bButtonRelease <;> simp [addKey, h, sawRelease, held]

/-- A release that is synthesized is no evidence that the device sends its own. -/
theorem releaseDelayMs_addKey (bSendComboKey : Bool) :
    releaseDelayMs cfg (addKey cfg now bSendComboKey false s) = releaseDelayMs cfg s := by
  by_cases h : sendsBack cfg now bSendComboKey s
  · rw [addKey_sent h, if_neg (by simp)]
    rfl
  · rw [addKey_kept h]
    rfl

/-- `AddKey(bool, bool)` keeps the pressed key and its times, or ends the press. -/
theorem keyMove_addKey (e : KeyEvent) (bSendComboKey bButtonRelease : Bool) :
    KeyMove cfg s e (addKey cfg now bSendComboKey bButtonRelease s) := by
  by_cases h : sendsBack cfg now bSendComboKey s
  · refine .ended ?_
    rw [addKey_sent h]
    split <;> rfl
  · rw [addKey_kept h]
    exact .kept rfl rfl rfl rfl (.inl rfl)

/-! ### `AddKey(key)` -/

/-- `AddKey(key)` in terms of the key that it sends. -/
theorem addKeypress_eq (hmax : key.keycode ≤ keyMax) : addKeypress cfg now key s =
    let s₁ := sendCombo cfg now key s
    let s' := if s₁.currentButton = key.keycode then repeatKey cfg now s₁
      else changeKey cfg now (transmitKey cfg key s) s₁
    if ¬ (s₁.currentButton = key.keycode ∧ cfg.iButtonRepeatRateMs ≠ 0) ∧
        (key.keycode ≠ cfg.comboKey ∨ key.duration > 0) then
      s'.queueAddKey (transmitKey cfg key s)
    else s' := by
  rw [addKeypress, if_neg (UInt8.not_lt.mpr hmax)]
  rfl

theorem transmitKey_duration : (transmitKey cfg key s).duration = key.duration := by
  unfold transmitKey
  split <;> rfl

/-- A key that is sent as another one was pressed with the combo key. -/
theorem transmitKey_eq_self (hcombo : comboOf key.keycode = none) :
    transmitKey cfg key s = key := by
  unfold transmitKey
  rw [hcombo, Option.getD_none]
  split <;> rfl

/-- No combo makes an unknown key. -/
theorem transmitKey_ne_unknown (hmax : key.keycode ≤ keyMax) :
    (transmitKey cfg key s).keycode ≠ keyUnknown := by
  have hkey : key.keycode ≠ keyUnknown := by
    intro h
    rw [h] at hmax
    exact absurd hmax (by decide)
  unfold transmitKey
  split
  · change (comboOf key.keycode).getD key.keycode ≠ keyUnknown
    unfold comboOf
    split
    · exact (by decide : (0x0D : UInt8) ≠ keyUnknown)
    · exact (by decide : (0x09 : UInt8) ≠ keyUnknown)
    · exact (by decide : (0x2A : UInt8) ≠ keyUnknown)
    · exact hkey
  · exact hkey

/-- The combo key is sent back, or the state stays as it is. -/
theorem sendCombo_cases (cfg : Configuration) (now : ℤ) (s : KeyState) (key : Keypress) :
    sendCombo cfg now key s = s ∨
      s.currentButton = cfg.comboKey ∧ comboOf key.keycode = none ∧
        sendCombo cfg now key s = s.forget.queueAddKey ⟨s.currentButton, s.held now⟩ := by
  unfold sendCombo
  split
  · next h =>
    by_cases hk : s.currentButton = keyUnknown
    · refine .inl ?_
      rw [addKey_kept fun hs => hs.1 hk]
      rfl
    · refine .inr ⟨h.1.2.1, h.2, ?_⟩
      rw [addKey_sent ⟨hk, .inr (.inr (.inr rfl))⟩, if_neg (by simp)]
      rfl
  · exact .inl rfl

theorem keyMove_repeatKey {e : KeyEvent} (hinput : e.input = .press key)
    (hmax : key.keycode ≤ keyMax) (hsame : s.currentButton = key.keycode) :
    KeyMove cfg s e (repeatKey cfg e.now s) := by
  refine .repeated key hinput hmax hsame rfl rfl rfl rfl ?_
  change (if _ then _ else _) = _ ∨ _ ∧ (if _ then _ else _) = _
  split
  · next h => exact .inr ⟨h.1, rfl⟩
  · exact .inl rfl

/-- Another key is pressed in the place of the current one, which may have been sent back before. -/
theorem keyMove_changeKey {e : KeyEvent} (hinput : e.input = .press key)
    (hmax : key.keycode ≤ keyMax)
    (hother : (sendCombo cfg e.now key s).currentButton ≠ key.keycode) :
    KeyMove cfg s e (changeKey cfg e.now (transmitKey cfg key s) (sendCombo cfg e.now key s)) := by
  set s₁ := sendCombo cfg e.now key s with hs₁
  have hsent : s₁ = s ∨ s₁.currentButton = keyUnknown := by
    rcases sendCombo_cases cfg e.now s key with h | ⟨_, _, h⟩
    · exact .inl h
    · exact .inr (by rw [hs₁, h]; rfl)
  have hdelay : releaseDelayMs cfg s₁ = releaseDelayMs cfg s := by
    rw [hs₁, sendCombo]
    split
    · exact releaseDelayMs_addKey true
    · rfl
  have hadd : KeyMove cfg s e (addKey cfg e.now false false s₁) := by
    rcases hsent with h | h
    · rw [h]
      exact keyMove_addKey e false false
    · rw [addKey_kept fun hs => hs.1 h]
      exact .ended h
  have hkept : KeyMove cfg s e s₁ := by
    rcases hsent with h | h
    · rw [h]
      exact .kept rfl rfl rfl rfl (.inl rfl)
    · exact .ended h
  by_cases hd : key.duration = 0
  · rw [changeKey]
    simp only [transmitKey_duration, if_pos hd, if_neg (transmitKey_ne_unknown hmax)]
    exact .pressed key hinput hmax hd hother rfl rfl rfl (by rw [hdelay]) rfl
  · rw [changeKey]
    simp only [transmitKey_duration, if_neg hd]
    split
    · exact hadd
    · exact hkept

/-- What is queued does not matter to the pressed key. -/
theorem KeyMove.queueAddKey {e : KeyEvent} {s' : KeyState} (h : KeyMove cfg s e s')
    (key : Keypress) : KeyMove cfg s e (s'.queueAddKey key) := by
  cases h with
  | kept h₁ h₂ h₃ h₄ h₅ => exact .kept h₁ h₂ h₃ h₄ h₅
  | ended h => exact .ended h
  | repeated k h₁ h₂ h₃ h₄ h₅ h₆ h₇ h₈ => exact .repeated k h₁ h₂ h₃ h₄ h₅ h₆ h₇ h₈
  | pressed k h₁ h₂ h₃ h₄ h₅ h₆ h₇ h₈ h₉ => exact .pressed k h₁ h₂ h₃ h₄ h₅ h₆ h₇ h₈ h₉

theorem keyMove_addKeypress {e : KeyEvent} (hinput : e.input = .press key) :
    KeyMove cfg s e (addKeypress cfg e.now key s) := by
  by_cases hmax : key.keycode ≤ keyMax
  · have hmove : KeyMove cfg s e
        (if (sendCombo cfg e.now key s).currentButton = key.keycode then
          repeatKey cfg e.now (sendCombo cfg e.now key s)
        else changeKey cfg e.now (transmitKey cfg key s) (sendCombo cfg e.now key s)) := by
      split
      · next hsame =>
        rcases sendCombo_cases cfg e.now s key with h | ⟨_, _, h⟩
        · rw [h] at hsame ⊢
          exact keyMove_repeatKey hinput hmax hsame
        · -- the combo key was sent back, and an unknown key is not pressed
          rw [h] at hsame
          rw [← hsame] at hmax
          exact absurd hmax (by decide : ¬ keyUnknown ≤ keyMax)
      · next hother => exact keyMove_changeKey hinput hmax hother
    rw [addKeypress_eq hmax]
    simp only
    split
    · exact hmove.queueAddKey _
    · exact hmove
  · rw [addKeypress, if_pos (UInt8.not_le.mp hmax)]
    exact keyMove_addKey e false false

/-- A press begins with the key that is sent, and its times are those of the event. -/
theorem keyStep_begin {e : KeyEvent} (hinput : e.input = .press key) (hmax : key.keycode ≤ keyMax)
    (hd : key.duration = 0) (hother : (sendCombo cfg e.now key s).currentButton ≠ key.keycode) :
    (keyStep cfg s e).currentButton = (transmitKey cfg key s).keycode ∧
      (keyStep cfg s e).initialButtontime = e.now ∧ (keyStep cfg s e).updateButtontime = e.now := by
  set s' := changeKey cfg e.now (transmitKey cfg key s) (sendCombo cfg e.now key s) with hs'
  have hchange : s'.currentButton = (transmitKey cfg key s).keycode ∧
      s'.initialButtontime = e.now ∧ s'.updateButtontime = e.now := by
    rw [hs', changeKey]
    simp only [transmitKey_duration, if_pos hd, if_neg (transmitKey_ne_unknown hmax)]
    exact ⟨trivial, trivial, trivial⟩
  obtain ⟨now, input⟩ := e
  cases hinput
  change (addKeypress cfg now key s).currentButton = _ ∧ (addKeypress cfg now key s).initialButtontime
    = now ∧ (addKeypress cfg now key s).updateButtontime = now
  rw [addKeypress_eq hmax]
  simp only [if_neg hother]
  split
  · exact hchange
  · exact hchange

/-! ### `CheckKeypressTimeout` -/

/-- The combo window of the pressed key is over. -/
def comboDue (cfg : Configuration) (now : ℤ) (s : KeyState) : Prop :=
  s.currentButton = cfg.comboKey ∧ cfg.iComboKeyTimeoutMs > 0 ∧
    uint64 (now - s.updateButtontime) ≥ cfg.iComboKeyTimeoutMs.toNat

instance (cfg : Configuration) (now : ℤ) (s : KeyState) : Decidable (comboDue cfg now s) :=
  inferInstanceAs (Decidable (_ ∧ _ ∧ _))

/-- A repeat of the pressed key, which is not the combo key, is to be sent. -/
def repeatDue (cfg : Configuration) (now : ℤ) (s : KeyState) : Prop :=
  s.currentButton ≠ cfg.comboKey ∧ s.repeatButtontime ≠ 0 ∧
    uint64 now ≥ uint64 s.repeatButtontime

instance (cfg : Configuration) (now : ℤ) (s : KeyState) : Decidable (repeatDue cfg now s) :=
  inferInstanceAs (Decidable (_ ∧ _ ∧ _))

/-- `CheckKeypressTimeout`, by what is due. -/
theorem checkKeypressTimeout_eq : checkKeypressTimeout cfg now s =
    if s.currentButton = keyUnknown then (s, .ofNat processorSignalWaitTime)
    else if comboDue cfg now s then
      (s.forget.queueAddKey ⟨s.currentButton, s.held now⟩, .ofNat (max processorSignalWaitTime 1))
    else if releaseDue cfg now s then
      (if s.pressedButtoncount ≤ 1 then s.forget.queueAddKey ⟨s.currentButton, s.held now⟩
        else s.forget, .ofNat (max processorSignalWaitTime 1))
    else if repeatDue cfg now s then
      (({ s with repeatButtontime := now + cfg.iButtonRepeatRateMs.toNat }).queueAddKey
          ⟨s.currentButton, s.held now⟩,
        .ofNat (max (min processorSignalWaitTime
          (uint64 (now + cfg.iButtonRepeatRateMs.toNat - now))) 1))
    else (s, .ofNat (max (nextKeypressTimeout cfg now s) 1)) :=
  rfl

theorem keyMove_checkKeypressTimeout (e : KeyEvent) :
    KeyMove cfg s e (checkKeypressTimeout cfg e.now s).1 := by
  have hkept : KeyMove cfg s e s := .kept rfl rfl rfl rfl (.inl rfl)
  rw [checkKeypressTimeout_eq]
  split
  · exact hkept
  · split
    · exact .ended rfl
    · split
      · refine .ended ?_
        simp only
        split <;> rfl
      · split
        · next h => exact .kept rfl rfl rfl rfl (.inr ⟨h.2.1, rfl⟩)
        · exact hkept

/-- What one event does to the pressed key is in the list. -/
theorem keyMove (cfg : Configuration) (s : KeyState) (e : KeyEvent) :
    KeyMove cfg s e (keyStep cfg s e) := by
  obtain ⟨now, input⟩ := e
  cases input with
  | press key => exact keyMove_addKeypress rfl
  | release bButtonRelease => exact keyMove_addKey ⟨now, .release bButtonRelease⟩ false bButtonRelease
  | checkTimeout => exact keyMove_checkKeypressTimeout ⟨now, .checkTimeout⟩

end Steps

end CEC
