import LibCec.Keypress

/-! Combo keys that are switched off.

    A client without combo keys has `CEC_USER_CONTROL_CODE_UNKNOWN` as its combo key, or 0 as the
    timeout. It is compared with a plain client, which differs in its combo key only and has one
    that is never pressed: both should queue the same keys.

        comboKey unknown:  no key pressed ──SELECT, PAUSE, PLAY──▶ taken for a combo with no key
        timeout 0:         comboKey pressed                     ──▶ its press is not queued

    The first happens because an unknown key is also what no pressed key looks like, the second
    because the timeout is not asked for when the press is queued. `combosOff_iff` says that nothing
    else makes a difference. -/

namespace CEC
open Schemes KeyState

variable (cfg : Configuration) (now : ℤ)

/-- The key that `AddKey(key)` sends for a key. -/
def transmitKey (key : Keypress) (s : KeyState) : Keypress :=
  if cfg.iComboKeyTimeoutMs > 0 ∧ s.currentButton = cfg.comboKey ∧ key.duration = 0 then
    { key with keycode := (comboOf key.keycode).getD key.keycode }
  else key

/-- Combo keys are disabled. -/
def Configuration.CombosDisabled : Prop :=
  cfg.comboKey = keyUnknown ∨ cfg.iComboKeyTimeoutMs = 0

/-- The client with another combo key. -/
def Configuration.withCombo (c : UInt8) : Configuration := { cfg with comboKey := c }

@[simp] theorem comboKey_withCombo (c : UInt8) : (cfg.withCombo c).comboKey = c := rfl

@[simp] theorem iComboKeyTimeoutMs_withCombo (c : UInt8) :
    (cfg.withCombo c).iComboKeyTimeoutMs = cfg.iComboKeyTimeoutMs := rfl

@[simp] theorem iButtonRepeatRateMs_withCombo (c : UInt8) :
    (cfg.withCombo c).iButtonRepeatRateMs = cfg.iButtonRepeatRateMs := rfl

/-- At each event of the run, no key code is translated, and the keys queued so far are those of
    the plain client. -/
def CombosOff (c : UInt8) (s : KeyState) (es : List KeyEvent) : Prop :=
  ∀ past e later, es = past ++ e :: later →
    (∀ key, e.input = .press key → key.keycode ≤ keyMax →
      transmitKey cfg key (past.foldl (keyStep cfg) s) = key) ∧
    ((past ++ [e]).foldl (keyStep cfg) s).callbackCalls =
      ((past ++ [e]).foldl (keyStep (cfg.withCombo c)) s).callbackCalls

/-- The event is no SELECT, PAUSE or PLAY while no key is pressed, when only the combo key is
    unknown, and no press of the combo key when the timeout is 0. -/
def combosIgnored (s : KeyState) (e : KeyEvent) : Prop :=
  ∀ key, e.input = .press key → key.keycode ≤ keyMax → key.duration = 0 →
    (cfg.iComboKeyTimeoutMs > 0 → s.currentButton = keyUnknown → comboOf key.keycode = none) ∧
    (cfg.iComboKeyTimeoutMs = 0 → key.keycode ≠ cfg.comboKey)

/-! ### The plain client -/

/-- `AddKey(key)` for a key that is no part of a combo. -/
def plainKeypress (key : Keypress) (s : KeyState) : KeyState :=
  if key.keycode > keyMax then addKey cfg now false false s
  else
    let s' := if s.currentButton = key.keycode then repeatKey cfg now s else changeKey cfg now key s
    if s.currentButton = key.keycode ∧ cfg.iButtonRepeatRateMs ≠ 0 then s' else s'.queueAddKey key

section Steps

variable {cfg now} {s : KeyState} {c : UInt8}

/-- The pressed key is neither of the combo keys. -/
structure PlainState (cfg : Configuration) (c : UInt8) (s : KeyState) : Prop where
  combo : s.currentButton ≠ keyUnknown → s.currentButton ≠ cfg.comboKey
  other : s.currentButton ≠ c

theorem plainState_reset (hc : c ≠ keyUnknown) : PlainState cfg c reset :=
  ⟨fun h => absurd rfl h, hc.symm⟩

/-- The combo key makes no difference to the release of a key that is none. -/
theorem addKey_withCombo (hs : PlainState cfg c s) (bSendComboKey bButtonRelease : Bool) :
    addKey (cfg.withCombo c) now bSendComboKey bButtonRelease s =
      addKey cfg now bSendComboKey bButtonRelease s := by
  by_cases hk : s.currentButton = keyUnknown
  · cases bButtonRelease <;> simp [addKey, hk]
  · have hcombo := hs.combo hk
    have hother := hs.other
    cases bButtonRelease <;> simp [addKey, hk, hcombo, hother]

theorem changeKey_withCombo (hs : PlainState cfg c s) (key : Keypress) :
    changeKey (cfg.withCombo c) now key s = changeKey cfg now key s := by
  unfold changeKey
  rw [addKey_withCombo hs]
  rfl

theorem plainKeypress_withCombo (hs : PlainState cfg c s) (key : Keypress) :
    plainKeypress (cfg.withCombo c) now key s = plainKeypress cfg now key s := by
  unfold plainKeypress
  rw [addKey_withCombo hs, changeKey_withCombo hs]
  rfl

theorem checkKeypressTimeout_withCombo (hs : PlainState cfg c s) :
    (checkKeypressTimeout (cfg.withCombo c) now s).1 = (checkKeypressTimeout cfg now s).1 := by
  by_cases hk : s.currentButton = keyUnknown
  · simp [checkKeypressTimeout, hk]
  · have hcombo := hs.combo hk
    have hother := hs.other
    have hdue : releaseDue (cfg.withCombo c) now s ↔ releaseDue cfg now s := by
      simp [releaseDue, hcombo, hother]
    simp only [checkKeypressTimeout, if_neg hk, hdue, comboKey_withCombo,
      iButtonRepeatRateMs_withCombo, ne_eq, hcombo, hother, not_false_iff, true_and, false_and,
      if_false]
    split
    · rfl
    · split <;> rfl

/-- A key is sent as it is, and reported, unless it is part of a combo. -/
theorem addKeypress_eq_plain {key : Keypress}
    (hcombo : key.keycode ≤ keyMax → cfg.iComboKeyTimeoutMs > 0 → s.currentButton = cfg.comboKey →
      key.duration = 0 → s.currentButton = keyUnknown ∧ comboOf key.keycode = none)
    (hreport : key.keycode ≤ keyMax → key.keycode ≠ cfg.comboKey ∨ key.duration > 0) :
    addKeypress cfg now key s = plainKeypress cfg now key s := by
  unfold addKeypress plainKeypress
  by_cases hmax : key.keycode > keyMax
  · rw [if_pos hmax, if_pos hmax]
  rw [if_neg hmax, if_neg hmax]
  have hcombo := hcombo (UInt8.not_lt.mp hmax)
  have hreport := hreport (UInt8.not_lt.mp hmax)
  by_cases hc : cfg.iComboKeyTimeoutMs > 0 ∧ s.currentButton = cfg.comboKey ∧ key.duration = 0
  · -- the key comes while none is pressed, so there is nothing to send back
    obtain ⟨hk, hnone⟩ := hcombo hc.1 hc.2.1 hc.2.2
    have hback : addKey cfg now true false s = s := by simp [addKey, hk]
    simp only [hnone, Option.getD_none, and_true, if_pos hc, hback]
    by_cases hrepeat : s.currentButton = key.keycode ∧ cfg.iButtonRepeatRateMs ≠ 0
    · rw [if_neg fun h => h.1 hrepeat, if_pos hrepeat]
    · rw [if_pos ⟨hrepeat, hreport⟩, if_neg hrepeat]
  · simp only [if_neg hc, if_neg fun h => hc (And.left h)]
    by_cases hrepeat : s.currentButton = key.keycode ∧ cfg.iButtonRepeatRateMs ≠ 0
    · rw [if_neg fun h => h.1 hrepeat, if_pos hrepeat]
    · rw [if_pos ⟨hrepeat, hreport⟩, if_neg hrepeat]

theorem currentButton_addKey (bSendComboKey bButtonRelease : Bool) :
    (addKey cfg now bSendComboKey bButtonRelease s).currentButton = s.currentButton ∨
      (addKey cfg now bSendComboKey bButtonRelease s).currentButton = keyUnknown := by
  cases bButtonRelease
  all_goals
    simp only [addKey]
    split_ifs <;> simp [queueAddKey, forget]

/-- The key pressed after a press is the same as before, none, or the key that was pressed. -/
theorem currentButton_plainKeypress (key : Keypress) :
    (plainKeypress cfg now key s).currentButton = s.currentButton ∨
      (plainKeypress cfg now key s).currentButton = keyUnknown ∨
      ((plainKeypress cfg now key s).currentButton = key.keycode ∧ key.duration = 0 ∧
        key.keycode ≤ keyMax) := by
  have hadd : (addKey cfg now false false s).currentButton = s.currentButton ∨
      (addKey cfg now false false s).currentButton = keyUnknown := currentButton_addKey false false
  unfold plainKeypress
  by_cases hmax : key.keycode > keyMax
  · rw [if_pos hmax]
    exact hadd.imp_right .inl
  rw [if_neg hmax]
  by_cases hsame : s.currentButton = key.keycode
  · rw [if_pos hsame]
    split <;> exact .inl rfl
  rw [if_neg hsame, if_neg fun h => hsame h.1]
  change (changeKey cfg now key s).currentButton = _ ∨ (changeKey cfg now key s).currentButton = _ ∨
    (changeKey cfg now key s).currentButton = _ ∧ _
  rw [changeKey]
  simp only [ne_eq, if_pos hsame]
  split
  · next hd =>
    split
    · exact .inr (.inl rfl)
    · exact .inr (.inr ⟨rfl, hd, UInt8.not_lt.mp hmax⟩)
  · exact hadd.imp_right .inl

theorem currentButton_checkKeypressTimeout :
    (checkKeypressTimeout cfg now s).1.currentButton = s.currentButton ∨
      (checkKeypressTimeout cfg now s).1.currentButton = keyUnknown := by
  unfold checkKeypressTimeout
  simp only
  split_ifs <;> simp [queueAddKey, forget]

/-! ### One event -/

/-- A press that the guard allows is no part of a combo. -/
theorem ignored_press {key : Keypress} (hoff : cfg.CombosDisabled)
    (hguard : combosIgnored cfg s ⟨now, .press key⟩) (hmax : key.keycode ≤ keyMax) :
    (cfg.iComboKeyTimeoutMs > 0 → s.currentButton = cfg.comboKey → key.duration = 0 →
      s.currentButton = keyUnknown ∧ comboOf key.keycode = none) ∧
    (key.keycode ≠ cfg.comboKey ∨ key.duration > 0) := by
  have hguard := hguard key rfl hmax
  constructor
  · intro ht hk hd
    have hunknown : cfg.comboKey = keyUnknown := hoff.resolve_right (UInt32.pos_iff_ne_zero.mp ht)
    exact ⟨hk.trans hunknown, (hguard hd).1 ht (hk.trans hunknown)⟩
  · by_cases hd : key.duration = 0
    · rcases hoff with hunknown | ht
      · refine .inl fun h => ?_
        rw [h, hunknown] at hmax
        exact absurd hmax (by decide)
      · exact .inl ((hguard hd).2 ht)
    · exact .inr (UInt32.pos_iff_ne_zero.mpr hd)

/-- What the guard allows does the same to the plain client, and is not translated. -/
theorem keyStep_ignored (hoff : cfg.CombosDisabled) (hs : PlainState cfg c s) {e : KeyEvent}
    (hne : ∀ d, e.input ≠ .press ⟨c, d⟩) (hguard : combosIgnored cfg s e) :
    keyStep (cfg.withCombo c) s e = keyStep cfg s e ∧
      ∀ key, e.input = .press key → key.keycode ≤ keyMax → transmitKey cfg key s = key := by
  obtain ⟨now, input⟩ := e
  cases input with
  | release bButtonRelease =>
    exact ⟨addKey_withCombo hs false bButtonRelease, fun _ h => by cases h⟩
  | checkTimeout =>
    exact ⟨checkKeypressTimeout_withCombo hs, fun _ h => by cases h⟩
  | press key =>
    have hkey : key.keycode ≠ c := fun h => hne key.duration (by rw [← h])
    have hplain := ignored_press (s := s) hoff hguard
    constructor
    · change addKeypress (cfg.withCombo c) now key s = addKeypress cfg now key s
      rw [addKeypress_eq_plain (fun hmax => (hplain hmax).1) fun hmax => (hplain hmax).2,
        addKeypress_eq_plain (fun _ _ h => absurd h hs.other) fun _ => .inl hkey,
        plainKeypress_withCombo hs]
    · intro key' h hmax
      cases h
      unfold transmitKey
      split
      · next hc => rw [((hplain hmax).1 hc.1 hc.2.1 hc.2.2).2, Option.getD_none]
      · rfl

theorem plainState_keyStep (hoff : cfg.CombosDisabled) (hc : c ≠ keyUnknown)
    (hs : PlainState cfg c s) {e : KeyEvent} (hne : ∀ d, e.input ≠ .press ⟨c, d⟩)
    (hguard : combosIgnored cfg s e) : PlainState cfg c (keyStep cfg s e) := by
  -- the key that is pressed after the event is the one before, none, or one that may be pressed
  have hkept : ∀ s' : KeyState, s'.currentButton = s.currentButton ∨ s'.currentButton = keyUnknown →
      PlainState cfg c s' := by
    rintro s' (h | h)
    · exact ⟨by rw [h]; exact hs.combo, by rw [h]; exact hs.other⟩
    · exact ⟨fun hk => absurd h hk, by rw [h]; exact hc.symm⟩
  obtain ⟨now, input⟩ := e
  cases input with
  | release bButtonRelease => exact hkept _ (currentButton_addKey false bButtonRelease)
  | checkTimeout => exact hkept _ currentButton_checkKeypressTimeout
  | press key =>
    have hplain := ignored_press (s := s) hoff hguard
    have hstep : keyStep cfg s ⟨now, .press key⟩ = plainKeypress cfg now key s :=
      addKeypress_eq_plain (fun hmax => (hplain hmax).1) fun hmax => (hplain hmax).2
    rw [hstep]
    rcases @currentButton_plainKeypress cfg now s key with h | h | ⟨h, hd, hmax⟩
    · exact hkept _ (.inl h)
    · exact hkept _ (.inr h)
    · refine ⟨fun _ => ?_, fun hcurrent => hne key.duration ?_⟩
      · rw [h]
        exact (hplain hmax).2.resolve_right (by simp [hd])
      · rw [← hcurrent, h]

/-- A combo is always another key. -/
theorem comboOf_ne {k k' : UInt8} (h : comboOf k = some k') : k' ≠ k := by
  unfold comboOf at h
  split at h <;> cases h <;> decide

/-- What the guard does not allow is translated, or is not queued by this client alone. -/
theorem ignored_of_keyStep (hoff : cfg.CombosDisabled) (hs : PlainState cfg c s) {e : KeyEvent}
    (hne : ∀ d, e.input ≠ .press ⟨c, d⟩)
    (htrans : ∀ key, e.input = .press key → key.keycode ≤ keyMax → transmitKey cfg key s = key)
    (hqueue : (keyStep cfg s e).callbackCalls = (keyStep (cfg.withCombo c) s e).callbackCalls) :
    combosIgnored cfg s e := by
  intro key hinput hmax hd
  constructor
  · intro ht hk
    have hunknown : cfg.comboKey = keyUnknown := hoff.resolve_right (UInt32.pos_iff_ne_zero.mp ht)
    have hsent := htrans key hinput hmax
    rw [transmitKey, if_pos ⟨ht, hk.trans hunknown.symm, hd⟩] at hsent
    cases hcombo : comboOf key.keycode with
    | none => rfl
    | some k =>
      rw [hcombo] at hsent
      exact absurd (congrArg Keypress.keycode hsent) (comboOf_ne hcombo)
  · intro ht hkey
    obtain ⟨now, input⟩ := e
    cases hinput
    have hnot : ¬ s.currentButton = key.keycode := by
      intro h
      have hk : s.currentButton ≠ keyUnknown := by
        rw [h]
        rintro hu
        rw [hu] at hmax
        exact absurd hmax (by decide)
      exact hs.combo hk (h.trans hkey)
    have hother : key.keycode ≠ c := fun h => hne key.duration (by rw [← h])
    have hreal : keyStep cfg s ⟨now, .press key⟩ = changeKey cfg now key s := by
      simp [keyStep, addKeypress, UInt8.not_lt.mpr hmax, ht, hnot, ← hkey, hd]
    have hplain : keyStep (cfg.withCombo c) s ⟨now, .press key⟩
        = (changeKey cfg now key s).queueAddKey key := by
      rw [← changeKey_withCombo hs]
      simp [keyStep, addKeypress, UInt8.not_lt.mpr hmax, ht, hnot, hother]
    rw [hreal, hplain] at hqueue
    exact absurd (congrArg List.length hqueue) (by simp [queueAddKey])

end Steps

/-! ### Runs -/

/-- From a state in which no combo key is pressed. -/
theorem combosOff_from (hoff : cfg.CombosDisabled) {c : UInt8} (hc : c ≠ keyUnknown) :
    ∀ (es : List KeyEvent) {s : KeyState}, PlainState cfg c s →
      (∀ e ∈ es, ∀ d, e.input ≠ .press ⟨c, d⟩) →
      (CombosOff cfg c s es ↔ Guarded (keyStep cfg) (combosIgnored cfg) s es)
  | [], s, _, _ => by simp [CombosOff, Guarded]
  | e :: es, s, hs, hne => by
    have hfirst := hne e List.mem_cons_self
    have hrest : ∀ e' ∈ es, ∀ d, e'.input ≠ .press ⟨c, d⟩ :=
      fun e' he' => hne e' (List.mem_cons_of_mem e he')
    constructor
    · intro hrun
      have hnow := hrun [] e es rfl
      have hguard := ignored_of_keyStep hoff hs hfirst hnow.1 hnow.2
      have hsame := (keyStep_ignored hoff hs hfirst hguard).1
      refine ⟨hguard, (combosOff_from hoff hc es (plainState_keyStep hoff hc hs hfirst hguard)
        hrest).mp fun past e' later hes => ?_⟩
      have hlater := hrun (e :: past) e' later (by rw [hes, List.cons_append])
      simpa only [List.cons_append, List.foldl_cons, hsame] using hlater
    · rintro ⟨hguard, hguards⟩ past e' later hes
      obtain ⟨hsame, htrans⟩ := keyStep_ignored hoff hs hfirst hguard
      cases past with
      | nil =>
        obtain ⟨rfl, rfl⟩ := List.cons.inj hes
        exact ⟨htrans, by simp only [List.nil_append, List.foldl_cons, List.foldl_nil, hsame]⟩
      | cons e₀ past =>
        obtain ⟨rfl, htail⟩ := List.cons.inj hes
        have hlater := (combosOff_from hoff hc es (plainState_keyStep hoff hc hs hfirst hguard)
          hrest).mpr hguards past e' later htail
        simpa only [List.cons_append, List.foldl_cons, hsame] using hlater

/-- Combo keys that are disabled are off along a run iff it has no SELECT, PAUSE or PLAY while no
    key is pressed (combo key unknown), and no press of the combo key (timeout 0). -/
theorem combosOff_iff (hoff : cfg.CombosDisabled) {c : UInt8} (hc : c ≠ keyUnknown)
    {es : List KeyEvent} (hne : ∀ e ∈ es, ∀ d, e.input ≠ .press ⟨c, d⟩) :
    CombosOff cfg c reset es ↔ Guarded (keyStep cfg) (combosIgnored cfg) reset es :=
  combosOff_from cfg hoff hc es (plainState_reset hc) hne

/-- SELECT while another key is pressed is SELECT. -/
theorem combosOff_select : CombosOff { Configuration.clear with comboKey := keyUnknown } 0x97 reset
    [⟨1000, .press ⟨1, 0⟩⟩, ⟨1200, .press ⟨0, 0⟩⟩, ⟨1300, .release true⟩] := by
  refine (combosOff_iff _ (.inl rfl) (by decide) ?_).mpr ?_
  · simp
  · refine ⟨?_, ?_, ?_, trivial⟩
    · rintro key ⟨⟩ - -
      exact ⟨fun _ _ => rfl, fun h => absurd h (by decide)⟩
    · rintro key ⟨⟩ - -
      exact ⟨fun _ h => absurd h (by decide), fun h => absurd h (by decide)⟩
    · rintro key ⟨⟩

/-- SELECT while no key is pressed is EXIT, and with timeout 0 the press of STOP is lost. -/
theorem combos_not_off :
    (¬ ∀ (cfg : Configuration) (c : UInt8) (es : List KeyEvent), cfg.comboKey = keyUnknown →
      c ≠ keyUnknown → (∀ e ∈ es, ∀ d, e.input ≠ .press ⟨c, d⟩) → CombosOff cfg c reset es) ∧
    ¬ ∀ (cfg : Configuration) (c : UInt8) (es : List KeyEvent), cfg.iComboKeyTimeoutMs = 0 →
      c ≠ keyUnknown → (∀ e ∈ es, ∀ d, e.input ≠ .press ⟨c, d⟩) → CombosOff cfg c reset es := by
  constructor
  · intro h
    have hrun := h { Configuration.clear with comboKey := keyUnknown } 0x97
      [⟨1000, .press ⟨0, 0⟩⟩] rfl (by decide) (by simp)
    exact absurd ((hrun [] _ [] rfl).1 ⟨0, 0⟩ rfl (by decide)) (by decide)
  · intro h
    have hrun := h { Configuration.clear with iComboKeyTimeoutMs := 0 } 0x97
      [⟨1000, .press ⟨0x45, 0⟩⟩] rfl (by decide) (by simp)
    exact absurd (hrun [] _ [] rfl).2 (by decide)

end CEC
