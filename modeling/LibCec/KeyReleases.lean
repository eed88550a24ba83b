import LibCec.KeySteps

/-! The duration of a release.

    The end of a press is queued as its key with the time since the press, as an unsigned int. The
    application, and the double tap filter, take a key with duration 0 for a press.

        press at t ──▶ end at t + d     duration d mod 2^32, 0 within the millisecond of the press

    `keyEnds` is what an event queues for the end of a press, `callbackCalls_keyStep` that the rest
    are presses and repeats. `releasesRecognisable_iff` says that the end of a press is taken for
    one unless it comes a multiple of 2^32 ms, or none, after the beginning. -/

namespace CEC
open Schemes KeyState

variable (cfg : Configuration) (now : ℤ)

/-- What `AddKey(bool, bool)` queues. -/
def keysSentBack (bSendComboKey bButtonRelease : Bool) (s : KeyState) : List Keypress :=
  if sendsBack cfg now bSendComboKey s ∧ ¬ (bButtonRelease ∧ cfg.iButtonRepeatRateMs ≠ 0) then
    [⟨s.currentButton, s.held now⟩]
  else []

/-- The keys that an event queues for the end of a press. -/
def keyEnds (s : KeyState) (e : KeyEvent) : List Keypress :=
  match e.input with
  | .press key =>
    if key.keycode > keyMax then keysSentBack cfg e.now false false s
    else
      let s₁ := sendCombo cfg e.now key s
      (if breaksCombo cfg key s then keysSentBack cfg e.now true false s else []) ++
      (if s₁.currentButton ≠ key.keycode ∧
          s₁.currentButton ≠ (transmitKey cfg key s).keycode then
        keysSentBack cfg e.now false false s₁ else [])
  | .release bButtonRelease => keysSentBack cfg e.now false bButtonRelease s
  | .checkTimeout =>
    if s.currentButton = keyUnknown then []
    else if comboDue cfg e.now s then [⟨s.currentButton, s.held e.now⟩]
    else if releaseDue cfg e.now s ∧ s.pressedButtoncount ≤ 1 then
      [⟨s.currentButton, s.held e.now⟩]
    else []

/-- Every key that is queued for the end of a press has a duration. -/
def ReleasesRecognisable (es : List KeyEvent) : Prop :=
  ∀ past e later, es = past ++ e :: later →
    ∀ key ∈ keyEnds cfg (keyRun cfg past) e, key.duration ≠ 0

/-- An event that ends a press comes in another millisecond, modulo 2^32, than the one that began
    it. -/
def EndsLater (es : List KeyEvent) : Prop :=
  ∀ past b mid e later, es = past ++ b :: mid ++ e :: later →
    beginsPress cfg (keyRun cfg past) b →
    Guarded (keyStep cfg) (fun s m => ¬ beginsPress cfg s m) (keyRun cfg (past ++ [b])) mid →
    keyEnds cfg (keyRun cfg (past ++ b :: mid)) e ≠ [] →
    (e.now - b.now) % 2 ^ 32 ≠ 0

section Steps

variable {cfg now} {s : KeyState} {e : KeyEvent}

/-! ### What one event queues -/

theorem callbackCalls_addKey (bSendComboKey bButtonRelease : Bool) :
    (addKey cfg now bSendComboKey bButtonRelease s).callbackCalls =
      s.callbackCalls ++ keysSentBack cfg now bSendComboKey bButtonRelease s := by
  unfold keysSentBack
  by_cases h : sendsBack cfg now bSendComboKey s
  · rw [addKey_sent h]
    by_cases hr : bButtonRelease ∧ cfg.iButtonRepeatRateMs ≠ 0
    · rw [if_pos hr, if_neg fun h' => h'.2 hr, List.append_nil]
      rfl
    · rw [if_neg hr, if_pos ⟨h, hr⟩]
      rfl
  · rw [addKey_kept h, if_neg fun h' => h h'.1, List.append_nil]
    rfl

theorem callbackCalls_changeKey (key : Keypress) : (changeKey cfg now key s).callbackCalls =
    s.callbackCalls ++
      if s.currentButton ≠ key.keycode then keysSentBack cfg now false false s else [] := by
  have hadd : (if s.currentButton ≠ key.keycode then addKey cfg now false false s
      else s).callbackCalls = s.callbackCalls ++
        if s.currentButton ≠ key.keycode then keysSentBack cfg now false false s else [] := by
    split
    · exact callbackCalls_addKey false false
    · rw [List.append_nil]
  rw [← hadd]
  unfold changeKey
  simp only
  split
  · split <;> rfl
  · rfl

theorem callbackCalls_sendCombo (key : Keypress) :
    (sendCombo cfg now key s).callbackCalls = s.callbackCalls ++
      if breaksCombo cfg key s then keysSentBack cfg now true false s else [] := by
  unfold sendCombo
  split
  · exact callbackCalls_addKey true false
  · rw [List.append_nil]

/-- An event queues the end of a press, and then the press or the repeat that it is itself. -/
theorem callbackCalls_keyStep : ∃ own,
    (keyStep cfg s e).callbackCalls = s.callbackCalls ++ keyEnds cfg s e ++ own ∧
    (own = [] ∨ (∃ key, e.input = .press key ∧ own = [transmitKey cfg key s]) ∨
      e.input = .checkTimeout ∧ repeatDue cfg e.now s ∧
        own = [⟨s.currentButton, s.held e.now⟩]) := by
  obtain ⟨now, input⟩ := e
  cases input with
  | press key =>
    by_cases hmax : key.keycode > keyMax
    · refine ⟨[], ?_, .inl rfl⟩
      simp only [keyStep, addKeypress, keyEnds, if_pos hmax, List.append_nil]
      exact callbackCalls_addKey false false
    · have hpressed : (if (sendCombo cfg now key s).currentButton = key.keycode then
            repeatKey cfg now (sendCombo cfg now key s)
          else changeKey cfg now (transmitKey cfg key s) (sendCombo cfg now key s)).callbackCalls =
          s.callbackCalls ++ keyEnds cfg s ⟨now, .press key⟩ := by
        simp only [keyEnds, if_neg hmax, ← List.append_assoc, ← callbackCalls_sendCombo]
        split
        · next hsame =>
          rw [if_neg fun h => h.1 hsame, List.append_nil]
          rfl
        · next hother =>
          rw [callbackCalls_changeKey]
          simp only [ne_eq, hother, not_false_iff, true_and]
      simp only [keyStep]
      rw [addKeypress_eq (UInt8.not_lt.mp hmax)]
      simp only
      split
      · refine ⟨[transmitKey cfg key s], ?_, .inr (.inl ⟨key, rfl, rfl⟩)⟩
        rw [← hpressed]
        rfl
      · refine ⟨[], ?_, .inl rfl⟩
        rw [← hpressed, List.append_nil]
  | release bButtonRelease =>
    refine ⟨[], ?_, .inl rfl⟩
    rw [List.append_nil]
    exact callbackCalls_addKey false bButtonRelease
  | checkTimeout =>
    simp only [keyStep, checkKeypressTimeout_eq, keyEnds]
    by_cases hk : s.currentButton = keyUnknown
    · exact ⟨[], by simp only [if_pos hk, List.append_nil], .inl rfl⟩
    simp only [if_neg hk]
    by_cases hcombo : comboDue cfg now s
    · exact ⟨[], by simp only [if_pos hcombo, List.append_nil]; rfl, .inl rfl⟩
    simp only [if_neg hcombo]
    by_cases hrelease : releaseDue cfg now s
    · refine ⟨[], ?_, .inl rfl⟩
      simp only [hrelease, true_and, if_true, List.append_nil]
      by_cases hcount : s.pressedButtoncount ≤ 1
      · rw [if_pos hcount, if_pos hcount]
        rfl
      · rw [if_neg hcount, if_neg hcount, List.append_nil]
        rfl
    simp only [hrelease, false_and, if_false, List.append_nil]
    by_cases hrepeat : repeatDue cfg now s
    · exact ⟨[⟨s.currentButton, s.held now⟩], by rw [if_pos hrepeat]; rfl,
        .inr (.inr ⟨trivial, hrepeat, rfl⟩)⟩
    · exact ⟨[], by rw [if_neg hrepeat, List.append_nil], .inl rfl⟩

theorem mem_keysSentBack {bSendComboKey bButtonRelease : Bool} {key : Keypress}
    (h : key ∈ keysSentBack cfg now bSendComboKey bButtonRelease s) :
    s.currentButton ≠ keyUnknown ∧ key = ⟨s.currentButton, s.held now⟩ := by
  unfold keysSentBack at h
  split at h
  · next hsends => exact ⟨hsends.1.1, List.mem_singleton.mp h⟩
  · exact absurd h List.not_mem_nil

/-- What is queued for the end of a press is the pressed key, for the time since its beginning. -/
theorem mem_keyEnds {key : Keypress} (h : key ∈ keyEnds cfg s e) :
    s.currentButton ≠ keyUnknown ∧ key = ⟨s.currentButton, s.held e.now⟩ := by
  obtain ⟨now, input⟩ := e
  cases input with
  | press k =>
    simp only [keyEnds] at h
    split at h
    · exact mem_keysSentBack h
    · rcases List.mem_append.mp h with h | h
      · split at h
        · exact mem_keysSentBack h
        · exact absurd h List.not_mem_nil
      · split at h
        · rcases sendCombo_cases cfg now s k with hs | ⟨-, -, hs⟩
          · rw [hs] at h
            exact mem_keysSentBack h
          · -- the combo key was sent back, so there is nothing left to send back
            rw [hs] at h
            exact absurd rfl (mem_keysSentBack h).1
        · exact absurd h List.not_mem_nil
  | release bButtonRelease => exact mem_keysSentBack h
  | checkTimeout =>
    simp only [keyEnds] at h
    split at h
    · exact absurd h List.not_mem_nil
    · next hk =>
      split at h
      · exact ⟨hk, List.mem_singleton.mp h⟩
      · split at h
        · exact ⟨hk, List.mem_singleton.mp h⟩
        · exact absurd h List.not_mem_nil

/-! ### When a press began -/

/-- No other event sets the time of the pressed key. -/
theorem initialButtontime_kept {t : ℤ} (h : ¬ beginsPress cfg s e)
    (ht : s.currentButton ≠ keyUnknown → s.initialButtontime = t)
    (hk : (keyStep cfg s e).currentButton ≠ keyUnknown) :
    (keyStep cfg s e).initialButtontime = t := by
  cases keyMove cfg s e with
  | kept current initial update release repeated =>
    rw [initial]
    exact ht (current ▸ hk)
  | ended current => exact absurd current hk
  | repeated key input valid same current initial update release repeated =>
    rw [initial]
    exact ht (current ▸ hk)
  | pressed key input valid duration other current initial update release repeated =>
    exact absurd ⟨key, input, valid, duration, other⟩ h

/-- The time of a press that began at `t`, after events that begin none. -/
theorem initialButtontime_run {t : ℤ} {mid : List KeyEvent}
    (h : Guarded (keyStep cfg) (fun s m => ¬ beginsPress cfg s m) s mid)
    (ht : s.currentButton ≠ keyUnknown → s.initialButtontime = t) :
    (mid.foldl (keyStep cfg) s).currentButton ≠ keyUnknown →
      (mid.foldl (keyStep cfg) s).initialButtontime = t := by
  refine h.invariant (fun _ s' => s'.currentButton ≠ keyUnknown → s'.initialButtontime = t) ht ?_
  intro _ s' e ih hguard hk
  exact initialButtontime_kept hguard ih hk

/-- A key that is pressed began with the last event that begins a press. -/
theorem exists_beginsPress (es : List KeyEvent) (hk : (keyRun cfg es).currentButton ≠ keyUnknown) :
    ∃ past b mid, es = past ++ b :: mid ∧ beginsPress cfg (keyRun cfg past) b ∧
      Guarded (keyStep cfg) (fun s m => ¬ beginsPress cfg s m) (keyRun cfg (past ++ [b])) mid := by
  induction es using List.reverseRecOn with
  | nil => exact absurd rfl hk
  | append_singleton es e ih =>
    by_cases hbegin : beginsPress cfg (keyRun cfg es) e
    · exact ⟨es, e, [], rfl, hbegin, trivial⟩
    · have hbefore : (keyRun cfg es).currentButton ≠ keyUnknown := by
        rw [keyRun_concat] at hk
        cases keyMove cfg (keyRun cfg es) e with
        | kept current => exact current ▸ hk
        | ended current => exact absurd current hk
        | repeated key input valid same current => exact current ▸ hk
        | pressed key input valid duration other =>
          exact absurd ⟨key, input, valid, duration, other⟩ hbegin
      obtain ⟨past, b, mid, rfl, hb, hmid⟩ := ih hbefore
      refine ⟨past, b, mid ++ [e], by simp, hb, guarded_concat.mpr ⟨hmid, ?_⟩⟩
      rw [keyRun, List.append_cons, List.foldl_append] at hbegin
      exact hbegin

theorem held_eq_zero {now : ℤ} : s.held now = 0 ↔ (now - s.initialButtontime) % 2 ^ 32 = 0 := by
  rw [held, ← UInt32.toNat_inj, UInt32.ofInt, UInt32.toNat_ofNat']
  change _ = 0 ↔ _
  omega

end Steps

/-- The ends of the presses are recognisable iff each of them comes in another millisecond than the
    beginning of its press, modulo 2^32. -/
theorem releasesRecognisable_iff (es : List KeyEvent) :
    ReleasesRecognisable cfg es ↔ EndsLater cfg es := by
  -- the time of the press that an event ends is that of the event that began it
  have htime : ∀ past b mid, beginsPress cfg (keyRun cfg past) b →
      Guarded (keyStep cfg) (fun s m => ¬ beginsPress cfg s m) (keyRun cfg (past ++ [b])) mid →
      (keyRun cfg (past ++ b :: mid)).currentButton ≠ keyUnknown →
      (keyRun cfg (past ++ b :: mid)).initialButtontime = b.now := by
    intro past b mid hb hmid hk
    rw [List.append_cons, keyRun, List.foldl_append] at hk ⊢
    refine initialButtontime_run hmid (fun _ => ?_) hk
    change (keyRun cfg (past ++ [b])).initialButtontime = b.now
    rw [keyRun_concat]
    obtain ⟨key, hinput, hmax, hd, hother⟩ := hb
    exact (keyStep_begin hinput hmax hd hother).2.1
  constructor
  · rintro hends past b mid e later rfl hb hmid hne
    obtain ⟨key, hkey⟩ := List.exists_mem_of_ne_nil _ hne
    obtain ⟨hk, rfl⟩ := mem_keyEnds hkey
    have hd := hends (past ++ b :: mid) e later rfl _ hkey
    rw [← htime past b mid hb hmid hk]
    exact fun h => hd (held_eq_zero.mpr h)
  · rintro hlater before e later hes key hkey
    obtain ⟨hk, rfl⟩ := mem_keyEnds hkey
    obtain ⟨past, b, mid, rfl, hb, hmid⟩ := exists_beginsPress before hk
    have hne : keyEnds cfg (keyRun cfg (past ++ b :: mid)) e ≠ [] := List.ne_nil_of_mem hkey
    have hd := hlater past b mid e later hes hb hmid hne
    rw [← htime past b mid hb hmid hk] at hd
    exact fun h => hd (held_eq_zero.mp h)

/-- A key that is pressed and released within one millisecond. -/
theorem not_releasesRecognisable :
    ¬ ∀ (cfg : Configuration) (es : List KeyEvent), ReleasesRecognisable cfg es := by
  intro h
  have hrelease := h .clear [⟨1000, .press ⟨1, 0⟩⟩, ⟨1000, .release true⟩] [⟨1000, .press ⟨1, 0⟩⟩]
    ⟨1000, .release true⟩ [] rfl ⟨1, 0⟩ (by decide +kernel)
  exact hrelease rfl

end CEC
