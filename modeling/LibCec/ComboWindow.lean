import LibCec.KeySteps

/-! The window of the combo key.

    `AddKey(key)` translates SELECT, PAUSE and PLAY while the combo key is the current button. It
    does not look at the time: the window of the combo key is closed by the poll of the processor
    thread, or by a release that comes after it.

        combo key at t ── poll before t + timeout, release within it ──▶ still the current button
                       ── poll from t + timeout on, release after it ──▶ forgotten
                       ── SELECT, PAUSE, PLAY, at any time ────────────▶ translated

    `comboInWindow_iff` says that no key is translated late iff no such key is the first thing that
    comes after the window. -/

namespace CEC
open Schemes KeyState

variable (cfg : Configuration)

/-- Combo keys are enabled. -/
def Configuration.CombosEnabled : Prop := cfg.comboKey ≠ keyUnknown ∧ cfg.iComboKeyTimeoutMs > 0

instance : Decidable cfg.CombosEnabled := inferInstanceAs (Decidable (_ ∧ _))

/-- A key is translated only while the combo key is pressed, at most the timeout after its last
    update. -/
def ComboInWindow (es : List KeyEvent) : Prop :=
  ∀ past e later, es = past ++ e :: later →
    ∀ key, e.input = .press key → key.keycode ≤ keyMax →
      transmitKey cfg key (keyRun cfg past) ≠ key →
      (keyRun cfg past).currentButton = cfg.comboKey ∧
        e.now - (keyRun cfg past).updateButtontime ≤ cfg.iComboKeyTimeoutMs.toNat

/-- The event updates the combo key: a press of it, or of a key that becomes it. -/
def updatesCombo (s : KeyState) (e : KeyEvent) : Prop :=
  ∃ key, e.input = .press key ∧ key.keycode ≤ keyMax ∧
    (key.duration = 0 ∧ (transmitKey cfg key s).keycode = cfg.comboKey ∨
      s.currentButton = cfg.comboKey ∧ key.keycode = cfg.comboKey)

/-- The event leaves a combo key alone that was updated at `t`: a poll before the end of its window,
    or a release, or another key that is no press, within it. -/
def leavesCombo (t : ℤ) (e : KeyEvent) : Prop :=
  match e.input with
  | .press key =>
    (key.keycode ≤ keyMax → key.duration ≠ 0 ∧ key.keycode ≠ cfg.comboKey) ∧
      UInt32.ofInt (e.now - t) ≤ cfg.iComboKeyTimeoutMs
  | .release _ => UInt32.ofInt (e.now - t) ≤ cfg.iComboKeyTimeoutMs
  | .checkTimeout => uint64 (e.now - t) < cfg.iComboKeyTimeoutMs.toNat

/-- A press of SELECT, PAUSE or PLAY that comes next after an update of the combo key, but for
    events that leave it alone, comes within the window. -/
def CombosInTime (es : List KeyEvent) : Prop :=
  ∀ past c mid e later, es = past ++ c :: mid ++ e :: later →
    updatesCombo cfg (keyRun cfg past) c → (∀ m ∈ mid, leavesCombo cfg c.now m) →
    ∀ key, e.input = .press key → key.duration = 0 → comboOf key.keycode ≠ none →
      e.now ≤ c.now + cfg.iComboKeyTimeoutMs.toNat

section Steps

variable {cfg} {s : KeyState} {e : KeyEvent}

/-- A key is translated iff it is a press that makes a combo, with the combo key pressed. -/
theorem transmitKey_ne_iff (hon : cfg.CombosEnabled) {key : Keypress} :
    transmitKey cfg key s ≠ key ↔
      s.currentButton = cfg.comboKey ∧ key.duration = 0 ∧ comboOf key.keycode ≠ none := by
  unfold transmitKey
  constructor
  · intro h
    split at h
    · next hc =>
      refine ⟨hc.2.1, hc.2.2, fun hnone => h ?_⟩
      rw [hnone, Option.getD_none]
    · exact absurd rfl h
  · rintro ⟨hc, hd, hne⟩ heq
    obtain ⟨k, hk⟩ := Option.ne_none_iff_exists'.mp hne
    rw [if_pos ⟨hon.2, hc, hd⟩, hk] at heq
    exact comboOf_ne hk (congrArg Keypress.keycode heq)

/-- `AddKey()` keeps the combo key within its window, and ends it afterwards. -/
theorem sendsBack_combo (hon : cfg.CombosEnabled) (hc : s.currentButton = cfg.comboKey) {now : ℤ} :
    sendsBack cfg now false s ↔
      ¬ UInt32.ofInt (now - s.updateButtontime) ≤ cfg.iComboKeyTimeoutMs := by
  rw [UInt32.not_le, sendsBack]
  constructor
  · rintro ⟨-, h | h | h | h⟩
    · exact h
    · exact absurd h (UInt32.pos_iff_ne_zero.mp hon.2)
    · exact absurd hc h
    · exact absurd h Bool.false_ne_true
  · exact fun h => ⟨hc ▸ hon.1, .inl h⟩

/-- After an update the combo key is pressed, since the event. -/
theorem keyStep_updatesCombo (h : updatesCombo cfg s e) :
    (keyStep cfg s e).currentButton = cfg.comboKey ∧ (keyStep cfg s e).updateButtontime = e.now := by
  obtain ⟨key, hinput, hmax, h⟩ := h
  by_cases hother : (sendCombo cfg e.now key s).currentButton = key.keycode
  · -- the combo key was pressed already, and makes no combo with itself
    have hsame : sendCombo cfg e.now key s = s := by
      rcases sendCombo_cases cfg e.now s key with hs | ⟨-, -, hs⟩
      · exact hs
      · rw [hs] at hother
        rw [← hother] at hmax
        exact absurd hmax (by decide : ¬ keyUnknown ≤ keyMax)
    rw [hsame] at hother
    have hrepeat : (repeatKey cfg e.now s).currentButton = cfg.comboKey := by
      change s.currentButton = cfg.comboKey
      rcases h with ⟨-, h⟩ | ⟨h, -⟩
      · by_contra hc
        rw [transmitKey, if_neg fun h => hc h.2.1] at h
        exact hc (hother.trans h)
      · exact h
    obtain ⟨now, input⟩ := e
    cases hinput
    change (addKeypress cfg now key s).currentButton = _ ∧
      (addKeypress cfg now key s).updateButtontime = now
    rw [addKeypress_eq hmax]
    simp only [hsame, if_pos hother]
    split
    · exact ⟨hrepeat, rfl⟩
    · exact ⟨hrepeat, rfl⟩
  · -- the press begins anew, with the combo key as the key that is sent
    have hpress : key.duration = 0 ∧ (transmitKey cfg key s).keycode = cfg.comboKey := by
      rcases h with h | ⟨hc, hk⟩
      · exact h
      · rcases sendCombo_cases cfg e.now s key with hs | ⟨-, hnone, hs⟩
        · rw [hs] at hother
          exact absurd (hc.trans hk.symm) hother
        · refine ⟨?_, by rw [transmitKey_eq_self hnone, hk]⟩
          by_contra hd
          have hbreaks : ¬ breaksCombo cfg key s := fun h => hd h.1.2.2
          rw [sendCombo, if_neg hbreaks] at hother
          exact hother (hc.trans hk.symm)
    obtain ⟨hcurrent, -, hupdate⟩ := keyStep_begin hinput hmax hpress.1 hother
    exact ⟨hcurrent.trans hpress.2, hupdate⟩

/-- `AddKey()` for a pressed combo key. -/
theorem addKey_combo (hon : cfg.CombosEnabled) (hc : s.currentButton = cfg.comboKey) (now : ℤ)
    (bButtonRelease : Bool) :
    UInt32.ofInt (now - s.updateButtontime) ≤ cfg.iComboKeyTimeoutMs ∧
      addKey cfg now false bButtonRelease s = s.sawRelease bButtonRelease ∨
    ¬ UInt32.ofInt (now - s.updateButtontime) ≤ cfg.iComboKeyTimeoutMs ∧
      (addKey cfg now false bButtonRelease s).currentButton = keyUnknown := by
  by_cases h : UInt32.ofInt (now - s.updateButtontime) ≤ cfg.iComboKeyTimeoutMs
  · exact .inl ⟨h, addKey_kept fun hs => (sendsBack_combo hon hc).mp hs h⟩
  · refine .inr ⟨h, ?_⟩
    rw [addKey_sent ((sendsBack_combo hon hc).mpr h)]
    split <;> rfl

/-- An event that does not update the pressed combo key leaves it alone, or ends it. -/
theorem keyStep_combo (hon : cfg.CombosEnabled) (hc : s.currentButton = cfg.comboKey)
    (h : ¬ updatesCombo cfg s e) :
    leavesCombo cfg s.updateButtontime e ∧ (keyStep cfg s e).currentButton = cfg.comboKey ∧
        (keyStep cfg s e).updateButtontime = s.updateButtontime ∨
      ¬ leavesCombo cfg s.updateButtontime e ∧ (keyStep cfg s e).currentButton ≠ cfg.comboKey := by
  have hk : s.currentButton ≠ keyUnknown := hc ▸ hon.1
  obtain ⟨now, input⟩ := e
  cases input with
  | release bButtonRelease =>
    change leavesCombo cfg s.updateButtontime ⟨now, .release bButtonRelease⟩ ∧
      (addKey cfg now false bButtonRelease s).currentButton = _ ∧
      (addKey cfg now false bButtonRelease s).updateButtontime = _ ∨ _ ∧
      (addKey cfg now false bButtonRelease s).currentButton ≠ _
    rcases addKey_combo hon hc now bButtonRelease with ⟨hin, hs⟩ | ⟨hout, hs⟩
    · rw [hs]
      exact .inl ⟨hin, hc, rfl⟩
    · rw [hs]
      exact .inr ⟨hout, hon.1.symm⟩
  | checkTimeout =>
    simp only [keyStep, checkKeypressTimeout_eq, if_neg hk]
    have hrelease : ¬ releaseDue cfg now s := fun h => h.1 hc
    have hrepeat : ¬ repeatDue cfg now s := fun h => h.1 hc
    by_cases hdue : comboDue cfg now s
    · rw [if_pos hdue]
      exact .inr ⟨not_lt.mpr hdue.2.2, hon.1.symm⟩
    · rw [if_neg hdue, if_neg hrelease, if_neg hrepeat]
      refine .inl ⟨?_, hc, rfl⟩
      change uint64 (now - s.updateButtontime) < cfg.iComboKeyTimeoutMs.toNat
      by_contra hout
      exact hdue ⟨hc, hon.2, not_lt.mp hout⟩
  | press key =>
    by_cases hmax : key.keycode ≤ keyMax
    · by_cases hd : key.duration = 0
      · -- another key takes the place of the combo key
        right
        have htransmit : (transmitKey cfg key s).keycode ≠ cfg.comboKey :=
          fun h' => h ⟨key, rfl, hmax, .inl ⟨hd, h'⟩⟩
        have hkey : s.currentButton ≠ key.keycode :=
          fun h' => h ⟨key, rfl, hmax, .inr ⟨hc, h'.symm.trans hc⟩⟩
        have hother : (sendCombo cfg now key s).currentButton ≠ key.keycode := by
          rcases sendCombo_cases cfg now s key with hs | ⟨-, -, hs⟩
          · rwa [hs]
          · rw [hs]
            intro h'
            rw [← h'] at hmax
            exact absurd hmax (by decide : ¬ keyUnknown ≤ keyMax)
        refine ⟨fun hleaves => (hleaves.1 hmax).1 hd, ?_⟩
        rw [(keyStep_begin (e := ⟨now, .press key⟩) rfl hmax hd hother).1]
        exact htransmit
      · have hkey : key.keycode ≠ cfg.comboKey :=
          fun h' => h ⟨key, rfl, hmax, .inr ⟨hc, h'⟩⟩
        have hsame : sendCombo cfg now key s = s := by
          rw [sendCombo, if_neg fun h => hd h.1.2.2]
        have htransmit : transmitKey cfg key s = key := by
          rw [transmitKey, if_neg fun h => hd h.2.2]
        have hne : s.currentButton ≠ key.keycode := fun h' => hkey (h'.symm.trans hc)
        have hstep : keyStep cfg s ⟨now, .press key⟩ =
            (addKey cfg now false false s).queueAddKey key := by
          change addKeypress cfg now key s = _
          rw [addKeypress_eq hmax]
          simp only [hsame, htransmit, if_neg hne]
          rw [if_pos ⟨fun h => hne h.1, .inl hkey⟩, changeKey]
          simp only [if_pos hne, if_neg hd]
        rw [hstep]
        rcases addKey_combo hon hc now false with ⟨hin, hs⟩ | ⟨hout, hs⟩
        · rw [hs]
          exact .inl ⟨⟨fun _ => ⟨hd, hkey⟩, hin⟩, hc, rfl⟩
        · exact .inr ⟨fun hleaves => hout hleaves.2, hs ▸ hon.1.symm⟩
    · have hstep : keyStep cfg s ⟨now, .press key⟩ = addKey cfg now false false s := by
        change addKeypress cfg now key s = _
        rw [addKeypress, if_pos (UInt8.not_le.mp hmax)]
      rw [hstep]
      rcases addKey_combo hon hc now false with ⟨hin, hs⟩ | ⟨hout, hs⟩
      · rw [hs]
        exact .inl ⟨⟨fun h => absurd h hmax, hin⟩, hc, rfl⟩
      · rw [hs]
        exact .inr ⟨fun hleaves => hout hleaves.2, hon.1.symm⟩

/-- What leaves the combo key alone is no update of it. -/
theorem not_updatesCombo {t : ℤ} (h : leavesCombo cfg t e) : ¬ updatesCombo cfg s e := by
  rintro ⟨key, hinput, hmax, hkey⟩
  obtain ⟨now, input⟩ := e
  cases hinput
  obtain ⟨hd, hne⟩ := h.1 hmax
  rcases hkey with ⟨hd', -⟩ | ⟨-, hk⟩
  · exact hd hd'
  · exact hne hk

/-! ### Runs -/

/-- Events that leave the combo key alone leave it pressed, with its last update. -/
theorem combo_run (hon : cfg.CombosEnabled) : ∀ (mid : List KeyEvent) {s : KeyState},
    s.currentButton = cfg.comboKey → (∀ m ∈ mid, leavesCombo cfg s.updateButtontime m) →
    (mid.foldl (keyStep cfg) s).currentButton = cfg.comboKey ∧
      (mid.foldl (keyStep cfg) s).updateButtontime = s.updateButtontime
  | [], _, hc, _ => ⟨hc, rfl⟩
  | m :: mid, s, hc, hmid => by
    have hm := hmid m List.mem_cons_self
    obtain ⟨hcurrent, hupdate⟩ : (keyStep cfg s m).currentButton = cfg.comboKey ∧
        (keyStep cfg s m).updateButtontime = s.updateButtontime := by
      rcases keyStep_combo hon hc (not_updatesCombo hm) with ⟨-, h⟩ | ⟨h, -⟩
      · exact h
      · exact absurd hm h
    have hrest := combo_run hon mid hcurrent fun m' hm' => by
      rw [hupdate]
      exact hmid m' (List.mem_cons_of_mem _ hm')
    rw [List.foldl_cons]
    exact ⟨hrest.1, hrest.2.trans hupdate⟩

/-- A combo key that is pressed was updated, and left alone since. -/
theorem exists_updatesCombo (hon : cfg.CombosEnabled) (es : List KeyEvent)
    (hc : (keyRun cfg es).currentButton = cfg.comboKey) :
    ∃ past c mid, es = past ++ c :: mid ∧ updatesCombo cfg (keyRun cfg past) c ∧
      (∀ m ∈ mid, leavesCombo cfg c.now m) ∧ (keyRun cfg es).updateButtontime = c.now := by
  induction es using List.reverseRecOn with
  | nil => exact absurd hc.symm hon.1
  | append_singleton es e ih =>
    rw [keyRun_concat] at hc ⊢
    by_cases hupdate : updatesCombo cfg (keyRun cfg es) e
    · exact ⟨es, e, [], rfl, hupdate, by simp, (keyStep_updatesCombo hupdate).2⟩
    · have hbefore : (keyRun cfg es).currentButton = cfg.comboKey := by
        cases keyMove cfg (keyRun cfg es) e with
        | kept current => exact current.symm.trans hc
        | ended current => exact absurd (hc.symm.trans current) hon.1
        | repeated key input valid same current => exact current.symm.trans hc
        | pressed key input valid duration other current =>
          exact absurd ⟨key, input, valid, .inl ⟨duration, current.symm.trans hc⟩⟩ hupdate
      obtain ⟨past, c, mid, rfl, hpress, hmid, htime⟩ := ih hbefore
      rcases keyStep_combo hon hbefore hupdate with ⟨hleaves, -, hsame⟩ | ⟨-, hended⟩
      · refine ⟨past, c, mid ++ [e], by simp, hpress, ?_, hsame.trans htime⟩
        intro m hm
        rcases List.mem_append.mp hm with hm | hm
        · exact hmid m hm
        · rw [List.mem_singleton.mp hm, ← htime]
          exact hleaves
      · exact absurd hc hended

end Steps

/-- Keys are translated within the window only iff no SELECT, PAUSE or PLAY is the first thing that
    comes after it. -/
theorem comboInWindow_iff (hon : cfg.CombosEnabled) (es : List KeyEvent) :
    ComboInWindow cfg es ↔ CombosInTime cfg es := by
  constructor
  · rintro hwindow past c mid e later rfl hpress hmid key hinput hd hcombo
    obtain ⟨hcurrent, hupdate⟩ := keyStep_updatesCombo hpress
    have hrun := combo_run hon mid hcurrent (by rwa [hupdate])
    have hstate : keyRun cfg (past ++ c :: mid) =
        mid.foldl (keyStep cfg) (keyStep cfg (keyRun cfg past) c) := by
      rw [keyRun, List.foldl_append, List.foldl_cons]
    rw [← hstate, hupdate] at hrun
    have hmax : key.keycode ≤ keyMax := by
      unfold comboOf at hcombo
      split at hcombo
      · next h => exact h ▸ (by decide : (0x00 : UInt8) ≤ keyMax)
      · next h => exact h ▸ (by decide : (0x46 : UInt8) ≤ keyMax)
      · next h => exact h ▸ (by decide : (0x44 : UInt8) ≤ keyMax)
      · exact absurd rfl hcombo
    have hlate := (hwindow _ e later rfl key hinput hmax
      ((transmitKey_ne_iff hon).mpr ⟨hrun.1, hd, hcombo⟩)).2
    rw [hrun.2] at hlate
    omega
  · rintro htime before e later hes key hinput hmax htransmit
    obtain ⟨hc, hd, hcombo⟩ := (transmitKey_ne_iff hon).mp htransmit
    obtain ⟨past, c, mid, rfl, hpress, hmid, hupdate⟩ := exists_updatesCombo hon before hc
    have hlate := htime past c mid e later hes hpress hmid key hinput hd hcombo
    refine ⟨hc, ?_⟩
    rw [hupdate]
    omega

/-- STOP and, half a second later, SELECT. -/
theorem comboInWindow_exit :
    ComboInWindow .clear [⟨1000, .press ⟨0x45, 0⟩⟩, ⟨1500, .press ⟨0, 0⟩⟩] := by
  refine (comboInWindow_iff .clear (by decide) _).mpr ?_
  rintro (_ | ⟨e₁, past⟩) c mid e later hes - -
  · rcases mid with _ | ⟨m, mid⟩
    · simp only [List.nil_append, List.cons_append, List.cons.injEq] at hes
      obtain ⟨rfl, rfl, -⟩ := hes
      rintro - - - -
      decide
    · have hlen := congrArg List.length hes
      simp at hlen
  · have hlen := congrArg List.length hes
    simp at hlen
    omega

/-- SELECT one and a half seconds after STOP, before the poll that would end STOP. -/
theorem comboInWindow_late : ¬ ∀ (cfg : Configuration) (es : List KeyEvent), cfg.CombosEnabled →
    (es.map KeyEvent.now).Pairwise (· ≤ ·) → ComboInWindow cfg es := by
  intro h
  have hwindow := h .clear [⟨1000, .press ⟨0x45, 0⟩⟩, ⟨2500, .press ⟨0, 0⟩⟩]
    ⟨by decide, by decide⟩ (by decide)
  have hlate := (hwindow [⟨1000, .press ⟨0x45, 0⟩⟩] _ [] rfl ⟨0, 0⟩ rfl (by decide)
    (by decide +kernel)).2
  exact absurd hlate (by decide +kernel)

end CEC
