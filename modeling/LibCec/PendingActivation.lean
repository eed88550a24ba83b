import LibCec.Allocation
import LibCec.SourceAgreement

/-! Whether an activation gets lost.

    `ActivateSource` sends ACTIVE_SOURCE at once or sets `m_iActiveSourcePending`, which makes
    `TransmitPendingActiveSourceCommands` try again. Philips's handler hands the activation to a
    thread while the TV is not on; it looks at the TV every five seconds until the TV is on:

        ActivateSource ─┬─▶ TransmitActiveSource ──fails──▶ m_iActiveSourcePending ─▶ retry ─┐
                        │              ▲                             ▲                       │
                        │              └─────────────────────────────┼───────────────────────┘
                        └─▶ CImageViewOnCheck ──TV not powering up───┘
                                   └────────────TV on──────────────▶ ends -/

namespace CEC
open Schemes Procedure

namespace Announcing

/-- A retry is pending, or ACTIVE_SOURCE was transmitted. -/
def PendingOrSent (a : Fin 16) (s : Announcing) : Prop :=
  (s.world.devices a).activeSourcePending ∨ (a, true) ∈ s.announced

/-! ### The thread -/

/-- A round of `CImageViewOnCheck::Process` that reads this power status. -/
def checkRound (a : Fin 16) (status : PowerStatus) : Proc Unit :=
  callWhen (status ≠ .on ∧ status ≠ .inTransitionStandbyToOn) do
    onImageViewOnSent false
    update (World.updateDevice a fun d => { d with activeSourcePending := true })

/-- At most so many rounds, for the power statuses that they read: the thread ends when the TV is
    on. -/
def checkRounds (a : Fin 16) : ℕ → (ℕ → PowerStatus) → Proc Unit
  | 0, _ => pure ()
  | n + 1, statuses => do
    checkRound a (statuses 0)
    callWhen (statuses 0 ≠ .on) (checkRounds a n fun i => statuses (i + 1))

/-- Until the TV is on, a round reads that it does not power up. -/
def ReadsOff (statuses : ℕ → PowerStatus) (n : ℕ) : Prop :=
  ∃ i < n, (∀ j < i, statuses j ≠ .on) ∧ statuses i ≠ .on ∧
    statuses i ≠ .inTransitionStandbyToOn

/-- A round sets the pending time when the TV does not power up. -/
theorem pending_checkRound {a : Fin 16} {status : PowerStatus} {w w' : World}
    (h : Returns (checkRound a status) w () w') :
    (w'.devices a).activeSourcePending ↔ (w.devices a).activeSourcePending ∨
      status ≠ .on ∧ status ≠ .inTransitionStandbyToOn := by
  rcases returns_callOr.mp h with ⟨hoff, h⟩ | ⟨hup, -, rfl⟩
  · obtain ⟨_, w₁, -, h⟩ := returns_bind.mp h
    refine iff_of_true ?_ (.inr hoff)
    rw [returns_update.mp h, updateDevice_devices, if_pos rfl]
  · exact ⟨.inl, fun h => h.resolve_right hup⟩

/-- The first round reads it or, if the TV is not on, one of the others. -/
theorem readsOff_succ {statuses : ℕ → PowerStatus} {n : ℕ} : ReadsOff statuses (n + 1) ↔
    (statuses 0 ≠ .on ∧ statuses 0 ≠ .inTransitionStandbyToOn) ∨
      statuses 0 ≠ .on ∧ ReadsOff (fun i => statuses (i + 1)) n := by
  constructor
  · rintro ⟨i, hi, hbefore, hoff⟩
    cases i with
    | zero => exact .inl hoff
    | succ i =>
      refine .inr ⟨hbefore 0 (Nat.succ_pos i), i, Nat.lt_of_succ_lt_succ hi, fun j hj => ?_, hoff⟩
      exact hbefore (j + 1) (Nat.succ_lt_succ hj)
  · rintro (hoff | ⟨hzero, i, hi, hbefore, hoff⟩)
    · exact ⟨0, Nat.succ_pos n, fun j hj => absurd hj (Nat.not_lt_zero j), hoff⟩
    · refine ⟨i + 1, Nat.succ_lt_succ hi, fun j hj => ?_, hoff⟩
      cases j with
      | zero => exact hzero
      | succ j => exact hbefore j (Nat.lt_of_succ_lt_succ hj)

/-- What the thread has set after so many rounds. -/
theorem pending_checkRounds {a : Fin 16} {n : ℕ} {statuses : ℕ → PowerStatus} {w w' : World}
    (h : Returns (checkRounds a n statuses) w () w') :
    (w'.devices a).activeSourcePending ↔
      (w.devices a).activeSourcePending ∨ ReadsOff statuses n := by
  induction n generalizing statuses w with
  | zero =>
    rw [(returns_pure.mp h).2]
    refine ⟨.inl, fun hw => hw.resolve_right ?_⟩
    rintro ⟨i, hi, -⟩
    exact absurd hi (Nat.not_lt_zero i)
  | succ n ih =>
    obtain ⟨_, w₁, h₁, h⟩ := returns_bind.mp h
    rw [readsOff_succ, ← or_assoc, ← pending_checkRound h₁]
    rcases returns_callOr.mp h with ⟨hnot, h⟩ | ⟨hon, -, rfl⟩
    · rw [ih h]
      simp [hnot]
    · simp [hon]

theorem terminates_checkRound (a : Fin 16) (status : PowerStatus) :
    Terminates (checkRound a status) :=
  terminates_callOr (terminates_bind (terminates_update _) fun _ => terminates_update _)

/-- Every round returns, so any number of them does. -/
theorem terminates_checkRounds (a : Fin 16) (n : ℕ) (statuses : ℕ → PowerStatus) :
    Terminates (checkRounds a n statuses) := by
  induction n generalizing statuses with
  | zero => exact terminates_pure ()
  | succ n ih =>
    exact terminates_bind (terminates_checkRound a _) fun _ => terminates_callOr (ih _)

/-! ### Retries -/

/-- What comes later: the thread's rounds, and `TransmitPendingActiveSourceCommands`. -/
inductive Later where
  | check (status : PowerStatus)
  | retry

/-- One of these steps. -/
def later (react : Reaction → AnnouncingProc Unit) (a : Fin 16) : Later → AnnouncingProc Unit
  | .check status => quietly (checkRound a status)
  | .retry => discard (handlerActivateSource react a true)

section activation

variable {react : Reaction → AnnouncingProc Unit} {a : Fin 16} {s s' : Announcing} {b : Bool}

/-- The record and the pending time are as they were. -/
structure Untouched (a : Fin 16) (s s' : Announcing) : Prop where
  announced : s'.announced = s.announced
  pending : (s'.world.devices a).activeSourcePending = (s.world.devices a).activeSourcePending

theorem Untouched.keeps (h : Untouched a s s') (hs : PendingOrSent a s) : PendingOrSent a s' := by
  rw [PendingOrSent, h.announced, h.pending]
  exact hs

/-- `TransmitActiveSource` returns true when it was transmitted. -/
theorem announced_transmitActiveSource (h : Returns (transmitActiveSource a) s true s') :
    (a, true) ∈ s'.announced := by
  have h := returns_ask_bind.mp h
  split at h
  · exact absurd (returns_pure.mp h).1 Bool.true_eq_false.mp
  · obtain ⟨_, s₁, -, h⟩ := returns_bind.mp h
    obtain ⟨sent, s₂, -, h⟩ := returns_bind.mp h
    have h := returns_update_bind.mp h
    obtain ⟨rfl, rfl⟩ := returns_pure.mp h
    exact List.mem_append_right _ (List.mem_singleton_self _)

/-- A call that may be skipped leaves the record, too. -/
theorem announced_callOr_quietly {α : Type} {c : Prop} [Decidable c] {d r : α} {x : Proc α}
    (h : Returns (callOr c d (quietly x)) s r s') : s'.announced = s.announced := by
  rcases returns_callOr.mp h with ⟨-, h⟩ | ⟨-, -, rfl⟩
  · exact announced_quietly h
  · rfl

/-- The end of `ActivateSource`. -/
theorem pendingOrSent_sourceActivated {failed : Bool}
    (h : Returns (quietly (sourceActivated a failed)) s b s')
    (hsent : failed = false → (a, true) ∈ s.announced) : PendingOrSent a s' := by
  cases failed with
  | true =>
    obtain ⟨w', hw', rfl⟩ := returns_quietly.mp h
    have hw' := returns_update_bind.mp hw'
    left
    rw [(returns_pure.mp hw').2, updateDevice_devices, if_pos rfl]
  | false =>
    right
    rw [announced_quietly h]
    exact hsent rfl

/-- Waiting for the delay changes nothing but the clock. -/
theorem untouched_delayed (h : Returns (quietly (delayed a)) s b s') : Untouched a s s' := by
  obtain ⟨w', hw', rfl⟩ := returns_quietly.mp h
  have hw' := returns_ask_bind.mp hw'
  obtain ⟨o, w₁, ho, hw'⟩ := returns_bind.mp hw'
  obtain ⟨-, rfl⟩ := returns_observe.mp ho
  rw [(returns_pure.mp hw').2]
  exact ⟨rfl, rfl⟩

/-- The first lines of `ActivateSource`, which decide whether anything is done. -/
theorem settles_after_delay {delayedOnly : Bool} {go : AnnouncingProc Bool}
    (hgo : ∀ {t}, Returns go t b s' → PendingOrSent a s')
    (h : Returns (do
      let w ← ask Announcing.world
      if !(w.devices a).activeSource || !w.isHandled a then pure true
      else
        let wait ← callOr delayedOnly false (quietly (delayed a))
        if wait then pure false else go) s b s') :
    PendingOrSent a s' ∨ Untouched a s s' ∧
      ((s.world.devices a).activeSource → s.world.isHandled a → delayedOnly) := by
  have h := returns_ask_bind.mp h
  split at h
  · next hnot =>
    obtain ⟨-, rfl⟩ := returns_pure.mp h
    refine .inr ⟨⟨rfl, rfl⟩, fun hactive hhandled => ?_⟩
    simp [hactive, hhandled] at hnot
  · obtain ⟨wait, s₁, h₁, h⟩ := returns_bind.mp h
    cases wait with
    | false => exact .inl (hgo h)
    | true =>
      obtain ⟨-, rfl⟩ := returns_pure.mp h
      rcases returns_callOr.mp h₁ with ⟨hdelayed, h₁⟩ | ⟨-, hfalse, -⟩
      · exact .inr ⟨untouched_delayed h₁, fun _ _ => hdelayed⟩
      · exact absurd hfalse Bool.true_eq_false.mp

/-- `ActivateSource` of the base handler sends the message or leaves the retry pending. -/
theorem settles_baseActivateSource {delayedOnly : Bool}
    (h : Returns (baseActivateSource react a delayedOnly) s b s') :
    PendingOrSent a s' ∨ Untouched a s s' ∧
      ((s.world.devices a).activeSource → s.world.isHandled a → delayedOnly) := by
  refine settles_after_delay (fun {t} h => ?_) h
  obtain ⟨_, s₁, -, h⟩ := returns_bind.mp h
  obtain ⟨_, s₂, -, h⟩ := returns_bind.mp h
  obtain ⟨tvStatus, s₃, -, h⟩ := returns_bind.mp h
  obtain ⟨_, s₄, -, h⟩ := returns_bind.mp h
  obtain ⟨allowed, s₅, -, h⟩ := returns_bind.mp h
  obtain ⟨sent, s₆, hsent, h⟩ := returns_bind.mp h
  obtain ⟨_, s₇, hmenu, h⟩ := returns_bind.mp h
  obtain ⟨ok, s₈, hok, h⟩ := returns_bind.mp h
  refine pendingOrSent_sourceActivated h fun hnot => ?_
  -- what is not retried was sent
  have hsent' : sent = true := by
    rcases returns_callOr.mp hok with ⟨hsent, -⟩ | ⟨-, rfl, -⟩
    · exact hsent.1
    · simpa using hnot
  rw [announced_callOr_quietly hok, announced_callOr_quietly hmenu]
  subst hsent'
  rcases returns_callOr.mp hsent with ⟨-, hsent⟩ | ⟨-, hfalse, -⟩
  · exact announced_transmitActiveSource hsent
  · exact absurd hfalse Bool.true_eq_false.mp

/-- `ActivateSource` of LG's handler does, too. -/
theorem settles_slActivateSource {delayedOnly : Bool}
    (h : Returns (slActivateSource react a delayedOnly) s b s') :
    PendingOrSent a s' ∨ Untouched a s s' ∧
      ((s.world.devices a).activeSource → s.world.isHandled a → delayedOnly) := by
  refine settles_after_delay (fun {t} h => ?_) h
  obtain ⟨tvStatus, s₁, -, h⟩ := returns_bind.mp h
  obtain ⟨awake, s₂, -, h⟩ := returns_bind.mp h
  obtain ⟨sent, s₃, hsent, h⟩ := returns_bind.mp h
  refine pendingOrSent_sourceActivated h fun hnot => ?_
  obtain rfl : sent = true := by simpa using hnot
  rcases returns_callOr.mp hsent with ⟨-, hsent⟩ | ⟨-, hfalse, -⟩
  · exact announced_transmitActiveSource hsent
  · exact absurd hfalse Bool.true_eq_false.mp

/-- A retry of any handler leaves the retry pending until the message is sent. -/
theorem pendingOrSent_retry (hs : PendingOrSent a s)
    (h : Returns (handlerActivateSource react a true) s b s') : PendingOrSent a s' := by
  have hkept : ∀ {t : Announcing} {p : Prop}, PendingOrSent a t →
      (PendingOrSent a s' ∨ Untouched a t s' ∧ p) → PendingOrSent a s' := by
    rintro t p ht (h | ⟨h, -⟩)
    · exact h
    · exact h.keeps ht
  have h := returns_ask_bind.mp h
  split at h
  · exact hkept hs (settles_slActivateSource h)
  · have h := returns_ask_bind.mp h
    obtain ⟨o, s₁, ho, h⟩ := returns_bind.mp h
    rw [if_neg (by simp)] at h
    obtain ⟨w₁, hw₁, rfl⟩ := returns_quietly.mp ho
    obtain ⟨-, rfl⟩ := returns_observe.mp hw₁
    refine hkept ?_ (settles_baseActivateSource h)
    exact hs
  · exact hkept hs (settles_baseActivateSource h)

/-- Whatever the thread reads and however the retries go, the activation is not lost. -/
theorem pendingOrSent_later {steps : List Later} {t t' : Announcing} (ht : PendingOrSent a t)
    (h : Returns (forEach (later react a) steps) t () t') : PendingOrSent a t' := by
  induction steps generalizing t with
  | nil =>
    rw [(returns_pure.mp h).2]
    exact ht
  | cons step steps ih =>
    obtain ⟨_, t₁, h₁, h⟩ := returns_bind.mp h
    refine ih ?_ h
    cases step with
    | retry =>
      obtain ⟨_, h₁⟩ := returns_discard.mp h₁
      exact pendingOrSent_retry ht h₁
    | check status =>
      obtain ⟨w₁, hw₁, rfl⟩ := returns_quietly.mp h₁
      rcases ht with hpending | hsent
      · exact .inl ((pending_checkRound hw₁).mpr (.inl hpending))
      · exact .inr hsent

end activation

/-! ### The call -/

/-- Only flags of devices differ. -/
structure FlagsOnly (w w' : World) : Prop where
  devices : ∀ b, ∃ power active sent viewOn, w'.devices b = { w.devices b with
    powerStatus := power, activeSource := active, activeSourceSent := sent,
    imageViewOnSent := viewOn }
  rest : w' = { w with devices := w'.devices }

theorem flagsOnly_composable : Composable FlagsOnly where
  refl w := ⟨fun b => ⟨_, _, _, _, rfl⟩, rfl⟩
  trans {w w₁ w₂} h₁ h₂ := by
    refine ⟨fun b => ?_, ?_⟩
    · obtain ⟨p, active, sent, viewOn, hb⟩ := h₁.devices b
      obtain ⟨p', active', sent', viewOn', hb'⟩ := h₂.devices b
      exact ⟨p', active', sent', viewOn', by rw [hb', hb]⟩
    · rw [h₂.rest, h₁.rest]

theorem flagsOnly_updateDevice {w : World} {a : Fin 16} {f : Device → Device}
    (hf : ∀ d, ∃ power active sent viewOn, f d = { d with
      powerStatus := power, activeSource := active, activeSourceSent := sent,
      imageViewOnSent := viewOn }) : FlagsOnly w (w.updateDevice a f) := by
  refine ⟨fun b => ?_, rfl⟩
  rw [updateDevice_devices]
  split
  · next hb => exact hb ▸ hf _
  · exact ⟨_, _, _, _, rfl⟩

theorem flagsOnly_storePowerStatus (w : World) (a : Fin 16) (p : PowerStatus) :
    FlagsOnly w (w.storePowerStatus a p) := by
  refine ⟨fun b => ?_, storePowerStatus_onlyDevices w a p⟩
  obtain ⟨q, sent, hb⟩ := storePowerStatus_device w a b p
  exact ⟨q, _, sent, _, hb⟩

/-- The power status of the TV after that of a device was stored. -/
theorem storePowerStatus_tv (w : World) (a : Fin 16) (p : PowerStatus) :
    ((w.storePowerStatus a p).devices 0).powerStatus =
      if a = 0 then p else (w.devices 0).powerStatus := by
  unfold World.storePowerStatus
  by_cases ha : a = 0
  · subst ha
    by_cases hp : (w.devices 0).powerStatus = p <;> simp [hp]
  · have hne : (0 : Fin 16) ≠ a := fun h => ha h.symm
    split_ifs
    · rfl
    · rw [updateDevice_devices, if_neg hne]

/-- Marking a device whose handler does not follow the TV: only flags change, and the TV counts as on
    if it did so before or is the device. -/
structure Marks (a : Fin 16) (w w' : World) : Prop where
  flags : FlagsOnly w w'
  active : (w'.devices a).activeSource
  tvOn : (w'.devices 0).powerStatus = .on ↔ a = 0 ∨ (w.devices 0).powerStatus = .on

/-- `SetPowerStatus` of such a device. -/
theorem returns_setPowerStatus {react : Reaction → AnnouncingProc Unit} {a : Fin 16}
    {p : PowerStatus} {s s' : Announcing}
    (hquiet : a = 0 → (s.world.devices 0).handler ≠ .an ∧ (s.world.devices 0).handler ≠ .sy)
    (h : Returns (setPowerStatus react a p) s () s') :
    s' = { s with world := s.world.storePowerStatus a p } := by
  have h := returns_ask_bind.mp h
  split at h
  · next hsame =>
    rw [(returns_pure.mp h).2, World.storePowerStatus, if_pos hsame]
  · obtain ⟨_, s₁, h₁, h⟩ := returns_bind.mp h
    obtain ⟨w₁, hw₁, rfl⟩ := returns_quietly.mp h₁
    obtain rfl := returns_update.mp hw₁
    have h := returns_ask_bind.mp h
    split at h
    · exact (returns_pure.mp h).2
    · next htv =>
      obtain rfl : a = 0 := not_not.mp htv
      obtain ⟨q, sent, hdevice⟩ := storePowerStatus_device s.world 0 0 p
      have hhandler : ((s.world.storePowerStatus 0 p).devices 0).handler =
          (s.world.devices 0).handler := by rw [hdevice]
      split at h
      · next han => exact absurd (hhandler.symm.trans han) (hquiet rfl).1
      · next hsy => exact absurd (hhandler.symm.trans hsy) (hquiet rfl).2
      · exact (returns_pure.mp h).2

/-- The end of `MarkAsActiveSource`. -/
def activate (a : Fin 16) : Proc Unit := do
  update (World.updateDevice a fun d => { d with activeSource := true })
  onImageViewOnSent false
  forEach markAsInactiveSource ((List.finRange 16).filter (· ≠ a))

/-- What it keeps, if its steps do. -/
theorem keeps_activate {R : World → World → Prop} (hR : Composable R) (a : Fin 16)
    (hactive : ∀ b v w, R w (w.updateDevice b fun d => { d with activeSource := v }))
    (hview : Keeps R (onImageViewOnSent false)) : Keeps R (activate a) := by
  refine keeps_bind hR (keeps_update (hactive a true)) fun _ => keeps_bind hR hview fun _ => ?_
  exact keeps_forEach hR (fun b => keeps_update (hactive b false)) _

/-- It does not tell whether the TV is on. -/
theorem tvOn_activate {a : Fin 16} {w w' : World} (h : Returns (activate a) w () w') :
    (w'.devices 0).powerStatus = .on ↔ (w.devices 0).powerStatus = .on := by
  refine keeps_activate (R := fun w w' : World =>
    ((w'.devices 0).powerStatus = .on ↔ (w.devices 0).powerStatus = .on))
    ⟨fun _ => Iff.rfl, fun h₁ h₂ => h₂.trans h₁⟩ a (fun b v w => ?_)
    (keeps_update fun w => ?_) _ _ _ h
  · rw [updateDevice_devices]
    split
    · next hb => rw [hb]
    · rfl
  · rw [updateDevice_devices, if_pos rfl]
    by_cases hon : (w.devices 0).powerStatus.isOn
    · simp [hon]
    · have hoff : (w.devices 0).powerStatus ≠ .on := fun h => hon (by rw [h]; rfl)
      simp only [hon, Bool.false_eq_true, if_false]
      exact iff_of_false (by decide) hoff

/-- `MarkAsActiveSource` of such a device. -/
theorem returns_markAsActiveSource {react : Reaction → AnnouncingProc Unit} {a : Fin 16}
    {s s' : Announcing}
    (hquiet : a = 0 → (s.world.devices 0).handler ≠ .an ∧ (s.world.devices 0).handler ≠ .sy)
    (h : Returns (markAsActiveSource react a) s () s') :
    s' = { s with world := s'.world } ∧ Marks a s.world s'.world := by
  obtain ⟨_, s₁, h₁, h⟩ := returns_bind.mp h
  obtain rfl := returns_setPowerStatus hquiet h₁
  obtain ⟨_, s₂, h₂, h⟩ := returns_bind.mp h
  obtain ⟨_, s₃, h₃, h₄⟩ := returns_bind.mp h
  obtain ⟨w₂, hw₂, rfl⟩ := returns_quietly.mp h₂
  obtain ⟨w₃, hw₃, rfl⟩ := returns_quietly.mp h₃
  obtain ⟨w₄, hw₄, rfl⟩ := returns_quietly.mp h₄
  have hend : Returns (activate a) (s.world.storePowerStatus a .on) () w₄ :=
    returns_bind.mpr ⟨(), w₂, hw₂, returns_bind.mpr ⟨(), w₃, hw₃, hw₄⟩⟩
  refine ⟨rfl, ?_, ((returns_activate hend).2.2 a).mpr rfl, ?_⟩
  · refine flagsOnly_composable.trans (flagsOnly_storePowerStatus s.world a .on) ?_
    refine keeps_activate flagsOnly_composable a (fun b v w => ?_) (keeps_update fun w => ?_) _ _ _
      hend
    · exact flagsOnly_updateDevice fun d => ⟨_, _, _, _, rfl⟩
    · exact flagsOnly_updateDevice fun d => ⟨_, _, _, _, rfl⟩
  · rw [tvOn_activate hend, storePowerStatus_tv]
    by_cases ha : a = 0 <;> simp [ha]

end Announcing

/-! ### Waking up the AVR -/

/-- Whether the adapter is asked to wake up the AVR. -/
def World.wakesAVR (w : World) (a : Fin 16) : Bool :=
  a ≠ 5 && (w.configuration w.libClient).bAutoWakeAVR = 1 && (w.devices 5).status = .present &&
    (w.devices a).physicalAddress ≠ invalidPhysicalAddress &&
    !(w.devices 5).unsupportedFeatures.contains 0x70 &&
    (w.transmitSource a).any fun source => !(w.devices source).unsupportedFeatures.contains 0x70

/-- The world without the answers that waking up the AVR takes. -/
def World.afterWakeAVR (w : World) (a : Fin 16) : World :=
  if w.wakesAVR a then { w with outside := fun n => w.outside (n + 1) } else w

theorem returns_processorTransmit {initiator destination : Fin 16} {opcode : UInt8} {w w' : World}
    {b : Bool} (hother : destination ≠ 15 → w.isHandled destination = false)
    (h : Returns (processorTransmit initiator destination opcode) w b w') :
    w' = if (w.transmitSource initiator).any fun source =>
        !(w.devices source).unsupportedFeatures.contains opcode
      then { w with outside := fun n => w.outside (n + 1) } else w := by
  have h := returns_ask_bind.mp h
  cases hsource : w.transmitSource initiator with
  | none =>
    simp only [id, hsource] at h
    exact (returns_pure.mp h).2
  | some source =>
    simp only [id, hsource] at h
    rw [if_neg fun hd => by simp [hother hd.1] at hd] at h
    split at h
    · exact absurd h not_returns_stuck
    · split at h
      · next hunsupported =>
        rw [(returns_pure.mp h).2, if_neg (by simp [hunsupported])]
      · next hsupported =>
        obtain ⟨o, w₁, ho, h⟩ := returns_bind.mp h
        obtain ⟨-, rfl⟩ := returns_observe.mp ho
        rw [(returns_pure.mp h).2, if_pos (by simp [hsupported])]

/-- `SystemAudioModeRequest` at most takes an answer from outside. -/
theorem returns_wakeAVR {a : Fin 16} {w w' : World} (h : Returns (wakeAVR a) w () w') :
    w' = w.afterWakeAVR a := by
  have h := returns_ask_bind.mp h
  rcases returns_callOr.mp h with ⟨⟨hfive, hauto, hpresent, hvalid⟩, h⟩ | ⟨hnot, -, rfl⟩
  · obtain ⟨sent, h⟩ := returns_discard.mp h
    change (w.configuration w.libClient).bAutoWakeAVR = 1 at hauto
    change (w.devices 5).status = .present at hpresent
    change (w.devices a).physicalAddress ≠ invalidPhysicalAddress at hvalid
    obtain ⟨status, w₁, hstatus, h₁⟩ := returns_bind.mp h
    rw [callOr, if_pos (by decide)] at hstatus
    obtain ⟨hsame, rfl⟩ := (getStatus_present (by decide) hpresent).unique hstatus
    have h := returns_ask_bind.mp h₁
    rw [if_neg (by simp [hsame])] at h
    split at h
    · next hunsupported =>
      rw [(returns_pure.mp h).2, World.afterWakeAVR, if_neg]
      simp only [World.wakesAVR, Bool.and_eq_true, Bool.not_eq_true']
      rintro ⟨⟨-, hsupported⟩, -⟩
      exact absurd (hunsupported.2.symm.trans hsupported) Bool.true_eq_false.mp
    · next hsupported =>
      obtain ⟨acked, w₂, h₂, h⟩ := returns_bind.mp h
      rw [if_neg (by simp)] at h
      have hother : w₁.isHandled 5 = false := by simp [World.isHandled, hpresent]
      have hwakes : w₁.wakesAVR a = (w₁.transmitSource a).any fun source =>
          !(w₁.devices source).unsupportedFeatures.contains 0x70 := by
        have hsupported : (w₁.devices 5).unsupportedFeatures.contains 0x70 = false := by
          simpa using hsupported
        rw [World.wakesAVR, hsupported]
        simp [hfive, hauto, hpresent, hvalid]
      rw [(returns_pure.mp h).2, returns_processorTransmit (fun _ => hother) h₂,
        World.afterWakeAVR, hwakes]
  · rw [World.afterWakeAVR, if_neg]
    intro hwakes
    simp only [World.wakesAVR, Bool.and_eq_true, decide_eq_true_eq] at hwakes
    exact hnot ⟨hwakes.1.1.1.1.1, hwakes.1.1.1.1.2, hwakes.1.1.1.2, hwakes.1.1.2⟩

theorem afterWakeAVR_devices (w : World) (a : Fin 16) : (w.afterWakeAVR a).devices = w.devices := by
  unfold World.afterWakeAVR
  split <;> rfl

namespace Announcing

/-- Flags do not decide whether the AVR is woken up. -/
theorem FlagsOnly.afterWakeAVR {a : Fin 16} {w w' : World} (h : FlagsOnly w w') :
    (w'.afterWakeAVR a).outside = (w.afterWakeAVR a).outside := by
  have hsource : w'.transmitSource a = w.transmitSource a := by
    rw [World.transmitSource, World.transmitSource, h.rest]
  have hconfiguration : w'.configuration w'.libClient = w.configuration w.libClient := by
    rw [h.rest]
    rfl
  have hunsupported : ∀ b, (w'.devices b).unsupportedFeatures = (w.devices b).unsupportedFeatures := by
    intro b
    obtain ⟨_, _, _, _, hb⟩ := h.devices b
    rw [hb]
  obtain ⟨_, _, _, _, hfive⟩ := h.devices 5
  obtain ⟨_, _, _, _, ha⟩ := h.devices a
  have hwakes : w'.wakesAVR a = w.wakesAVR a := by
    simp only [World.wakesAVR, hsource, hconfiguration, hunsupported]
    rw [hfive, ha]
  have hout : w'.outside = w.outside := by rw [h.rest]
  rw [World.afterWakeAVR, World.afterWakeAVR, hwakes]
  split
  · simp only [hout]
  · exact hout

theorem FlagsOnly.isHandled {w w' : World} (h : FlagsOnly w w') (b : Fin 16) :
    w'.isHandled b = w.isHandled b := by
  obtain ⟨_, _, _, _, hb⟩ := h.devices b
  rw [World.isHandled, World.isHandled, hb]

/-- Philips's handler leaves the activation to its thread: the TV is not on and no thread is
    running. -/
def StartsThread (w : World) (a : Fin 16) : Prop :=
  (w.devices a).handler = .ph ∧ a ≠ 0 ∧ (w.devices 0).powerStatus ≠ .on ∧
    ((w.afterWakeAVR a).outside 0).delayOver

section activation

variable {n : ℕ} {a : Fin 16} {w : World} {b : Bool} {s s' : Announcing}

/-- `ActivateSource` of Philips's handler for a device that is the active source. -/
theorem settles_phActivateSource {react : Reaction → AnnouncingProc Unit}
    (hactive : (s.world.devices a).activeSource) (hhandled : s.world.isHandled a)
    (h : Returns (phActivateSource react a false) s b s') :
    (((s.world.devices 0).powerStatus ≠ .on ∧ (s.world.outside 0).delayOver) ∧
      Untouched a s s' ∧ a ∈ s'.checks) ∨
    (¬ ((s.world.devices 0).powerStatus ≠ .on ∧ (s.world.outside 0).delayOver) ∧
      PendingOrSent a s') := by
  have h := returns_ask_bind.mp h
  obtain ⟨o, s₁, ho, h⟩ := returns_bind.mp h
  obtain ⟨w₁, hw₁, rfl⟩ := returns_quietly.mp ho
  obtain ⟨rfl, rfl⟩ := returns_observe.mp hw₁
  split at h
  · next hwaits =>
    have h := returns_update_bind.mp h
    obtain ⟨-, rfl⟩ := returns_pure.mp h
    refine .inl ⟨?_, ⟨rfl, rfl⟩, List.mem_append_right _ (List.mem_singleton_self a)⟩
    simpa [hactive, hhandled] using hwaits
  · next hgoes =>
    refine .inr ⟨fun hwaits => hgoes (by simp [hactive, hhandled, hwaits.1, hwaits.2]), ?_⟩
    refine (settles_baseActivateSource h).resolve_right fun huntouched => ?_
    exact absurd (huntouched.2 hactive hhandled) Bool.false_ne_true

/-- `ActivateSource` either leaves everything to the thread or keeps the activation itself. -/
theorem settles_activateSource (hhandled : w.isHandled a)
    (hhandler : (w.devices a).handler ∈ [Handler.base, .vl, .ph])
    (h : Returns (activateSource (react n) a 0) ⟨w, [], []⟩ b s') :
    (StartsThread w a ∧ a ∈ s'.checks ∧
      (PendingOrSent a s' ↔ (w.devices a).activeSourcePending)) ∨
    (¬ StartsThread w a ∧ PendingOrSent a s') := by
  have hquiet : a = 0 → (w.devices 0).handler ≠ .an ∧ (w.devices 0).handler ≠ .sy := by
    rintro rfl
    constructor <;> intro heq <;> simp [heq] at hhandler
  obtain ⟨_, s₁, h₁, h⟩ := returns_bind.mp h
  obtain ⟨hs₁, hmarks⟩ := returns_markAsActiveSource hquiet h₁
  rw [if_pos rfl] at h
  obtain ⟨_, s₂, h₂, h⟩ := returns_bind.mp h
  obtain ⟨w₂, hw₂, rfl⟩ := returns_quietly.mp h₂
  have hw₂ := returns_wakeAVR hw₂
  have hdevices : w₂.devices = s₁.world.devices := by rw [hw₂, afterWakeAVR_devices]
  obtain ⟨_, _, _, _, ha⟩ := hmarks.flags.devices a
  have hsame : (w₂.devices a).handler = (w.devices a).handler ∧
      (w₂.devices a).activeSourcePending = (w.devices a).activeSourcePending := by
    rw [hdevices, ha]
    exact ⟨rfl, rfl⟩
  have hactive₂ : (w₂.devices a).activeSource := by
    rw [hdevices]
    exact hmarks.active
  have hhandled₂ : w₂.isHandled a := by
    rw [World.isHandled, hdevices]
    exact (hmarks.flags.isHandled a).trans hhandled
  have h := returns_ask_bind.mp h
  split at h
  · next hsl => simp [hsame.1.symm.trans hsl] at hhandler
  · next hph =>
    have hstarts : StartsThread w a ↔
        (w₂.devices 0).powerStatus ≠ .on ∧ (w₂.outside 0).delayOver := by
      rw [hw₂, afterWakeAVR_devices, hmarks.flags.afterWakeAVR, ne_eq, hmarks.tvOn, not_or]
      constructor
      · rintro ⟨-, hother, hoff, hidle⟩
        exact ⟨⟨hother, hoff⟩, hidle⟩
      · rintro ⟨⟨hother, hoff⟩, hidle⟩
        exact ⟨hsame.1.symm.trans hph, hother, hoff, hidle⟩
    rw [hstarts]
    rcases settles_phActivateSource hactive₂ hhandled₂ h with ⟨hwaits, hkept, hchecks⟩ | hgoes
    · refine .inl ⟨hwaits, hchecks, ?_⟩
      have hnothing : s₁.announced = [] := by rw [hs₁]
      rw [PendingOrSent, hkept.announced, hkept.pending]
      change (w₂.devices a).activeSourcePending ∨ (a, true) ∈ s₁.announced ↔ _
      simp [hnothing, hsame.2]
    · exact .inr hgoes
  · next hsl hph =>
    refine .inr ⟨fun hstarts => hph (hsame.1.trans hstarts.1), ?_⟩
    refine (settles_baseActivateSource h).resolve_right fun huntouched => ?_
    exact absurd (huntouched.2 hactive₂ hhandled₂) Bool.false_ne_true

/-- The message was sent, or a retry is pending or gets pending when the thread has read some of
    these power statuses of the TV. -/
def Kept (a : Fin 16) (statuses : ℕ → PowerStatus) (s : Announcing) : Prop :=
  PendingOrSent a s ∨ a ∈ s.checks ∧
    ∃ m w', Returns (checkRounds a m statuses) s.world () w' ∧ (w'.devices a).activeSourcePending

/-- An activation is kept, iff Philips's handler does not leave it to the thread, or a retry was
    pending already, or the thread reads that the TV does not power up before it reads that it is on;
    and what is pending stays so until it is sent. -/
theorem activationKept_iff {statuses : ℕ → PowerStatus} (hhandled : w.isHandled a)
    (hhandler : (w.devices a).handler ∈ [Handler.base, .vl, .ph])
    (h : Returns (activateSource (react n) a 0) ⟨w, [], []⟩ b s') :
    (Kept a statuses s' ↔
      (StartsThread w a → (w.devices a).activeSourcePending ∨ ∃ m, ReadsOff statuses m)) ∧
    ∀ (m : ℕ) (steps : List Later) (t t' : Announcing), PendingOrSent a t →
      Returns (forEach (later (react m) a) steps) t () t' → PendingOrSent a t' := by
  refine ⟨?_, fun m steps t t' ht hret => pendingOrSent_later ht hret⟩
  rcases settles_activateSource hhandled hhandler h with ⟨hstarts, hchecks, hpending⟩ | ⟨hnot, hkept⟩
  · constructor
    · rintro (hkept | ⟨-, m, w', hret, hset⟩) -
      · exact .inl (hpending.mp hkept)
      · rcases (pending_checkRounds hret).mp hset with hset | hreads
        · exact .inl (hpending.mp (.inl hset))
        · exact .inr ⟨m, hreads⟩
    · intro hcond
      rcases hcond hstarts with hset | ⟨m, hreads⟩
      · exact .inl (hpending.mpr hset)
      · obtain ⟨_, w', hret⟩ := terminates_checkRounds a m statuses s'.world
        exact .inr ⟨hchecks, m, w', hret, (pending_checkRounds hret).mpr (.inr hreads)⟩
  · exact ⟨fun _ hstarts => absurd hstarts hnot, fun _ => .inl hkept⟩

end activation

/-- A playback device of libCEC with Philips's handler, and a TV in standby. -/
def philipsWorld : World :=
  let w := World.start (fun _ => clientFor [.playbackDevice]) fun _ => .silent
  (w.updateDevice 4 fun d =>
    { d with status := .handledByLibCec, physicalAddress := 0x1000, handler := .ph }).updateDevice 0
    fun d => { d with status := .present, powerStatus := .standby }

/-- A TV that stays in standby is reported to the thread, which has the activation retried. -/
theorem activationKept_standby : ∃ b s',
    Returns (activateSource (react 1) 4 0) ⟨philipsWorld, [], []⟩ b s' ∧
      Kept 4 (fun _ => .standby) s' := by
  obtain ⟨b, s', h⟩ := exists_returns (x := activateSource (react 1) 4 0)
    (s := ⟨philipsWorld, [], []⟩) (by decide +kernel)
  refine ⟨b, s', h, ((activationKept_iff (by decide +kernel) (by decide +kernel) h).1).mpr fun _ => ?_⟩
  refine .inr ⟨1, 0, by decide, fun j hj => absurd hj (Nat.not_lt_zero j), by decide, by decide⟩

/-- A TV that is on when the thread looks at it ends the thread, and nothing was ever sent. -/
theorem not_activationKept : ¬ ∀ (n : ℕ) (a : Fin 16) (w : World) (b : Bool) (s' : Announcing)
    (statuses : ℕ → PowerStatus), w.isHandled a →
    (w.devices a).handler ∈ [Handler.base, .vl, .ph] →
    Returns (activateSource (react n) a 0) ⟨w, [], []⟩ b s' → Kept a statuses s' := by
  intro hall
  obtain ⟨b, s', h⟩ := exists_returns (x := activateSource (react 1) 4 0)
    (s := ⟨philipsWorld, [], []⟩) (by decide +kernel)
  have hidle := h.of_all (p := fun _ s => !(s.world.devices 4).activeSourcePending &&
    s.announced.isEmpty) (by decide +kernel)
  rw [Bool.and_eq_true, Bool.not_eq_true'] at hidle
  rcases hall 1 4 philipsWorld b s' (fun _ => .on) (by decide +kernel) (by decide +kernel) h with
    (hpending | hsent) | ⟨-, m, w', hret, hset⟩
  · exact absurd (hidle.1.symm.trans hpending) Bool.false_ne_true
  · rw [List.isEmpty_iff.mp hidle.2] at hsent
    exact absurd hsent List.not_mem_nil
  · rcases (pending_checkRounds hret).mp hset with hpending | ⟨i, -, -, hoff, -⟩
    · exact absurd (hidle.1.symm.trans hpending) Bool.false_ne_true
    · exact absurd rfl hoff

end Announcing

end CEC
