import LibCec.Frame
import LibCec.Source

/-! Switching the source keeps the frame of the bus.

    Every function is built from polls, transmissions and changes of one device, so its lemma
    follows the lines of its definition. The exception is the end of `MarkAsActiveSource`: between
    setting one flag and clearing the others two devices may be active, so these steps are taken
    together (`step_activate`). Reactions keep the frame by induction on how deep they nest. -/

namespace CEC
open Schemes Procedure

variable {R : World → World → Prop}

section quiet

variable [QuietSteps R]

/-! ### What a device sends about itself -/

theorem keeps_transmitPhysicalAddress (a : Fin 16) :
    Keeps R (transmitPhysicalAddress a) := by
  have hK : Composable R := QuietSteps.composable
  refine keeps_bind hK (keeps_ask hK _) fun pa => ?_
  exact keeps_ite (fun _ => keeps_pure hK _) fun _ => keeps_transmit_discard a 15 0x84 false

theorem keeps_introduce (a : Fin 16) : Keeps R (introduce a) :=
  keeps_bind QuietSteps.composable (keeps_transmitPhysicalAddress a) fun _ =>
    keeps_transmit_discard a 0 0x47 false

theorem keeps_transmitMenuState (a destination : Fin 16) :
    Keeps R (transmitMenuState a destination) := by
  have hK : Composable R := QuietSteps.composable
  refine keeps_bind hK (keeps_ask hK _) fun handler => ?_
  exact keeps_ite (fun _ => keeps_pure hK _) fun _ => keeps_transmit_discard a destination 0x8E false

theorem keeps_transmitActiveSource (a : Fin 16) : Keeps R (transmitActiveSource a) := by
  have hK : Composable R := QuietSteps.composable
  refine keeps_bind hK (keeps_ask hK _) fun d => ?_
  refine keeps_ite (fun _ => keeps_pure hK _) fun _ => ?_
  refine keeps_bind hK (keeps_update fun s => ?_) fun _ => keeps_transmit a 15 0x82 false
  exact step_updateDevice (fun _ => ⟨rfl, rfl, rfl, rfl⟩) fun _ => id

theorem keeps_wakeAVR (a : Fin 16) : Keeps R (wakeAVR a) := by
  have hK : Composable R := QuietSteps.composable
  refine keeps_bind hK (keeps_ask hK _) fun w => ?_
  exact keeps_callOr hK (keeps_transmit_discard a 5 0x70 false)

/-! ### The flag -/

theorem keeps_markAsInactiveSource (a : Fin 16) :
    Keeps R (markAsInactiveSource a) :=
  keeps_update fun _ => step_updateDevice (fun _ => ⟨rfl, rfl, rfl, rfl⟩) fun _ h => by cases h

theorem keeps_onImageViewOnSent (b : Bool) : Keeps R (onImageViewOnSent b) :=
  keeps_update fun _ => step_updateDevice (fun _ => ⟨rfl, rfl, rfl, rfl⟩) fun _ => id

end quiet

/-- Marking several devices as inactive clears their flags and changes nothing else. -/
theorem returns_markAsInactiveSource :
    ∀ {as : List (Fin 16)} {s s' : World}, Returns (forEach markAsInactiveSource as) s () s' →
      s' = { s with devices := fun b =>
        if b ∈ as then { s.devices b with activeSource := false } else s.devices b }
  | [], s, s', h => by
    rw [(returns_pure.mp h).2]
    simp
  | a :: as, s, s', h => by
    obtain ⟨_, s₁, h₁, h⟩ := returns_bind.mp h
    rw [returns_markAsInactiveSource h, returns_update.mp h₁]
    simp only [World.updateDevice, World.mk.injEq, and_true]
    funext b
    rcases eq_or_ne b a with rfl | hb
    · simp
    · simp [hb]

/-- One device becomes the active source and all the others are marked as inactive. -/
theorem returns_activate {s s' : World} {a : Fin 16}
    (h : Returns (do
      update (World.updateDevice a fun d => { d with activeSource := true })
      onImageViewOnSent false
      forEach markAsInactiveSource ((List.finRange 16).filter (· ≠ a))) s () s') :
    s' = { s with devices := s'.devices } ∧
      (∀ b, (s'.devices b).status = (s.devices b).status ∧
        (s'.devices b).resets = (s.devices b).resets ∧
        (s'.devices b).physicalAddress = (s.devices b).physicalAddress ∧
        (s'.devices b).vendor = (s.devices b).vendor) ∧
      ∀ b, (s'.devices b).activeSource ↔ b = a := by
  obtain ⟨_, s₂, h₂, h⟩ := returns_bind.mp (returns_update_bind.mp h)
  have hdevices := returns_markAsInactiveSource h
  rw [returns_update.mp h₂] at hdevices
  refine ⟨by rw [hdevices]; rfl, fun b => ?_, fun b => ?_⟩
  · rw [hdevices]
    simp only [updateDevice_devices]
    split_ifs with h₁ h₂ h₃ h₄
    all_goals subst_vars
    all_goals exact ⟨rfl, rfl, rfl, rfl⟩
  · rw [hdevices]
    by_cases hb : b = a
    · subst hb
      by_cases htv : b = 0 <;> simp [updateDevice_devices, htv]
    · simp [hb]

theorem step_activate [BusSteps R] {s s' : World} {a : Fin 16}
    (h : Returns (do
      update (World.updateDevice a fun d => { d with activeSource := true })
      onImageViewOnSent false
      forEach markAsInactiveSource ((List.finRange 16).filter (· ≠ a))) s () s') :
    R s s' := by
  obtain ⟨honly, hrest, hflag⟩ := returns_activate h
  rw [honly]
  exact BusSteps.devices hrest (.inr ⟨a, fun b => (hflag b).mp⟩)

/-! ### The functions that react to the TV's power status -/

/-- The calls that a change of the TV's power status leads back to keep `R`, made for the active
    source. -/
def ReactionsKeep (R : World → World → Prop) (react : Reaction → Proc Unit) : Prop :=
  ∀ (s : World) (a : Fin 16), s.activeSource = some a →
    (∀ p, KeepsAt R s (react (.setPowerStatus a p))) ∧ KeepsAt R s (react (.activateSource a))

section reactions

variable [QuietSteps R] {react : Reaction → Proc Unit} (hreact : ReactionsKeep R react)
include hreact

theorem keeps_onPowerStatusChanged (a : Fin 16) (p : PowerStatus) :
    Keeps R (onPowerStatusChanged react a p) := by
  have hK : Composable R := QuietSteps.composable
  refine keeps_ask_bind fun w => keepsAt_ite (fun _ => keepsAt_pure hK _ _) fun _ => ?_
  split
  · refine keepsAt_ite (fun _ => keepsAt_pure hK _ _) fun _ => ?_
    split
    · exact keepsAt_pure hK _ _
    · next source hsource =>
      refine keepsAt_ite (fun _ => keepsAt_pure hK _ _) fun _ => ?_
      refine keepsAt_ite (fun _ => ?_) fun _ => ?_
      · exact keepsAt_bind hK ((hreact w source hsource).1 _) fun _ s _ =>
          keeps_transmit_discard _ 15 0x90 false s
      · exact keepsAt_ite (fun _ => (hreact w source hsource).2) fun _ => keepsAt_pure hK _ _
  · refine keepsAt_ite (fun _ => keepsAt_pure hK _ _) fun _ => ?_
    exact keeps_forEach hK keeps_introduce _ w
  · exact keepsAt_pure hK _ _

theorem keeps_setPowerStatus (a : Fin 16) (p : PowerStatus) :
    Keeps R (setPowerStatus react a p) := by
  have hK : Composable R := QuietSteps.composable
  refine keeps_bind hK (keeps_ask hK _) fun old => ?_
  refine keeps_ite (fun _ => keeps_pure hK _) fun _ => ?_
  exact keeps_bind hK (keeps_update fun s => step_storePowerStatus s a p) fun _ =>
    keeps_onPowerStatusChanged hreact a p

theorem keeps_handlerTransmitImageViewOn (initiator destination : Fin 16) :
    Keeps R (handlerTransmitImageViewOn react initiator destination) := by
  have hK : Composable R := QuietSteps.composable
  refine keeps_bind hK (keeps_transmit initiator destination 0x04 false) fun sent => ?_
  refine keeps_bind hK (keeps_ask hK _) fun p => ?_
  exact keeps_bind hK (keeps_callOr hK (keeps_setPowerStatus hreact _ _)) fun _ =>
    keeps_pure hK _

theorem keeps_transmitImageViewOn (a : Fin 16) :
    Keeps R (transmitImageViewOn react a) := by
  have hK : Composable R := QuietSteps.composable
  refine keeps_bind hK (keeps_ask hK _) fun p => ?_
  refine keeps_bind hK (keeps_ask hK _) fun already => ?_
  refine keeps_ite (fun _ => keeps_pure hK _) fun _ => ?_
  refine keeps_ite (fun _ => keeps_pure hK _) fun _ => ?_
  refine keeps_bind hK (keeps_handlerTransmitImageViewOn hreact a 0) fun sent => ?_
  exact keeps_bind hK (keeps_callOr hK (keeps_onImageViewOnSent true)) fun _ => keeps_pure hK _

theorem keeps_powerOnTv (initiator : Fin 16) : Keeps R (powerOnTv react initiator) :=
  keeps_bind QuietSteps.composable (keeps_discard (keeps_getVendorId 0 initiator)) fun _ =>
    keeps_discard (keeps_handlerTransmitImageViewOn hreact initiator 0)

omit hreact in
theorem keeps_vendorPreActivateSourceHook (a : Fin 16) :
    Keeps R (vendorPreActivateSourceHook a) := by
  have hK : Composable R := QuietSteps.composable
  refine keeps_bind hK (keeps_ask hK _) fun w => ?_
  refine keeps_ite (fun _ => ?_) fun _ => keeps_pure hK _
  exact keeps_bind hK keeps_observe fun o => keeps_callOr hK (keeps_transmit_discard _ 0 0x89 false)

omit hreact in
theorem keeps_sourceSwitchAllowed (a : Fin 16) :
    Keeps R (sourceSwitchAllowed a) := by
  have hK : Composable R := QuietSteps.composable
  refine keeps_bind hK (keeps_ask hK _) fun w => ?_
  refine keeps_ite (fun _ => ?_) fun _ => keeps_pure hK _
  refine keeps_bind hK (keeps_discard (keeps_getStatus 0)) fun _ => ?_
  refine keeps_bind hK keeps_observe fun o => ?_
  refine keeps_bind hK (keeps_callOr hK (keeps_transmit_discard _ 0 0x8F false)) fun _ => ?_
  exact keeps_bind hK keeps_observe fun _ => keeps_pure hK _

omit hreact in
theorem keeps_delayed (a : Fin 16) : Keeps R (delayed a) := by
  have hK : Composable R := QuietSteps.composable
  refine keeps_bind hK (keeps_ask hK _) fun pending => ?_
  exact keeps_bind hK keeps_observe fun _ => keeps_pure hK _

omit hreact in
theorem keeps_sourceActivated (a : Fin 16) (failed : Bool) :
    Keeps R (sourceActivated a failed) := by
  have hK : Composable R := QuietSteps.composable
  refine keeps_bind hK (keeps_update fun s => ?_) fun _ => keeps_pure hK _
  exact step_updateDevice (fun _ => ⟨rfl, rfl, rfl, rfl⟩) fun _ => id

theorem keeps_baseActivateSource (a : Fin 16) (delayedOnly : Bool) :
    Keeps R (baseActivateSource react a delayedOnly) := by
  have hK : Composable R := QuietSteps.composable
  refine keeps_bind hK (keeps_ask hK _) fun w => ?_
  refine keeps_ite (fun _ => keeps_pure hK _) fun _ => ?_
  refine keeps_bind hK (keeps_callOr hK (keeps_delayed a)) fun wait => ?_
  refine keeps_ite (fun _ => keeps_pure hK _) fun _ => ?_
  refine keeps_bind hK (keeps_callOr hK (keeps_setPowerStatus hreact a _)) fun _ => ?_
  refine keeps_bind hK (keeps_vendorPreActivateSourceHook a) fun _ => ?_
  refine keeps_bind hK (keeps_getStatus 0) fun tvStatus => ?_
  refine keeps_bind hK (keeps_callOr hK (keeps_powerOnTv hreact a)) fun _ => ?_
  refine keeps_bind hK (keeps_sourceSwitchAllowed a) fun allowed => ?_
  refine keeps_bind hK (keeps_callOr hK (keeps_transmitActiveSource a)) fun sent => ?_
  refine keeps_bind hK (keeps_callOr hK (keeps_transmitMenuState a 0)) fun _ => ?_
  refine keeps_bind hK (keeps_callOr hK (keeps_transmit a 0 0x72 false)) fun ok => ?_
  exact keeps_sourceActivated a _

theorem keeps_slActivateSource (a : Fin 16) (delayedOnly : Bool) :
    Keeps R (slActivateSource react a delayedOnly) := by
  have hK : Composable R := QuietSteps.composable
  refine keeps_bind hK (keeps_ask hK _) fun w => ?_
  refine keeps_ite (fun _ => keeps_pure hK _) fun _ => ?_
  refine keeps_bind hK (keeps_callOr hK (keeps_delayed a)) fun wait => ?_
  refine keeps_ite (fun _ => keeps_pure hK _) fun _ => ?_
  refine keeps_bind hK (keeps_getStatus 0) fun tvStatus => ?_
  refine keeps_bind hK (keeps_callOr hK (keeps_transmitImageViewOn hreact a)) fun awake => ?_
  refine keeps_bind hK (keeps_callOr hK (keeps_transmitActiveSource a)) fun sent => ?_
  exact keeps_sourceActivated a _

theorem keeps_phActivateSource (a : Fin 16) (delayedOnly : Bool) :
    Keeps R (phActivateSource react a delayedOnly) := by
  have hK : Composable R := QuietSteps.composable
  refine keeps_bind hK (keeps_ask hK _) fun w => ?_
  refine keeps_bind hK keeps_observe fun o => ?_
  exact keeps_ite (fun _ => keeps_pure hK _) fun _ => keeps_baseActivateSource hreact a delayedOnly

theorem keeps_handlerActivateSource (a : Fin 16) (delayedOnly : Bool) :
    Keeps R (handlerActivateSource react a delayedOnly) := by
  have hK : Composable R := QuietSteps.composable
  refine keeps_bind hK (keeps_ask hK _) fun handler => ?_
  split
  · exact keeps_slActivateSource hreact a delayedOnly
  · exact keeps_phActivateSource hreact a delayedOnly
  · exact keeps_baseActivateSource hreact a delayedOnly

theorem keeps_requestPowerStatus (a initiator : Fin 16) :
    Keeps R (requestPowerStatus react a initiator) := by
  have hK : Composable R := QuietSteps.composable
  refine keeps_bind hK (keeps_ask hK _) fun w => ?_
  refine keeps_ite (fun _ => keeps_pure hK _) fun _ => ?_
  refine keeps_bind hK (keeps_transmit initiator a 0x8F true) fun answered => ?_
  exact keeps_callOr hK (keeps_setPowerStatus hreact a _)

end reactions

section activation

variable [BusSteps R] {react : Reaction → Proc Unit} (hreact : ReactionsKeep R react)
include hreact

theorem keeps_markAsActiveSource (a : Fin 16) :
    Keeps R (markAsActiveSource react a) :=
  keeps_bind BusSteps.composable (keeps_setPowerStatus hreact a _) fun _ _ _ _ h =>
    step_activate h

theorem keeps_activateSource (a : Fin 16) (iDelay : ℕ) :
    Keeps R (activateSource react a iDelay) := by
  have hK : Composable R := BusSteps.composable
  refine keeps_bind hK (keeps_markAsActiveSource hreact a) fun _ => ?_
  refine keeps_ite (fun _ => ?_) fun _ => ?_
  · exact keeps_bind hK (keeps_wakeAVR a) fun _ => keeps_handlerActivateSource hreact a false
  · refine keeps_bind hK (keeps_update fun s => ?_) fun _ => keeps_pure hK _
    exact step_updateDevice (fun _ => ⟨rfl, rfl, rfl, rfl⟩) fun _ => id

end activation

theorem ReactionsKeep.of_keeps {react : Reaction → Proc Unit} (h : ∀ r, Keeps R (react r)) :
    ReactionsKeep R react := fun s _ _ => ⟨fun _ => h _ s, h _ s⟩

/-- However deep the reactions nest, they keep the frame. -/
theorem keeps_react [BusSteps R] : ∀ (n : ℕ) (r : Reaction), Keeps R (react n r)
  | 0, _ => keeps_stuck
  | n + 1, .setPowerStatus a p => keeps_setPowerStatus (.of_keeps (keeps_react n)) a p
  | n + 1, .activateSource a => keeps_discard (keeps_activateSource (.of_keeps (keeps_react n)) a 0)

theorem reactionsKeep_react [BusSteps R] (n : ℕ) : ReactionsKeep R (react n) :=
  .of_keeps (keeps_react n)

end CEC
