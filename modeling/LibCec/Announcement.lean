import LibCec.Schemes.Erasure
import LibCec.Commands
import LibCec.VendorCommands

/-! Switching the source, with a record of what is announced.

    What libCEC keeps about the active source are flags of its devices; what the other devices know
    is what was transmitted. These are the functions of `CEC` that may lead to a transmission of
    ACTIVE_SOURCE, with a record of the transmissions and of the threads that Philips's handler
    starts instead:

        activateSource ─▶ handlerActivateSource ─▶ transmitActiveSource ─▶ announced
                                  └──────────────▶ CreateThread         ─▶ checks

    Without the record they are the functions of `CEC`, line by line: `erases_react` and the other
    lemmas say so. -/

namespace CEC
open Schemes Procedure

/-- The world, the transmissions of ACTIVE_SOURCE so far, by device and with their success, and the
    devices whose handler has started a `CImageViewOnCheck`. -/
structure Announcing where
  world : World
  announced : List (Fin 16 × Bool)
  checks : List (Fin 16)

/-- A call with a record of what is announced. -/
abbrev AnnouncingProc (α : Type) := Procedure Announcing α

namespace Announcing

/-- A call that announces nothing. -/
def quietly {α : Type} (x : Proc α) : AnnouncingProc α :=
  zoom Announcing.world (fun w s => { s with world := w }) x

/-- `TransmitActiveSource`. -/
def transmitActiveSource (a : Fin 16) : AnnouncingProc Bool := do
  let d ← ask (·.world.devices a)
  if !d.hasValidPhysicalAddress || !d.powerStatus.isOn || !d.activeSource then pure false
  else
    quietly (update (World.updateDevice a fun d => { d with activeSourceSent := true }))
    let sent ← quietly (transmit a 15 0x82 false)
    update fun s => { s with announced := s.announced ++ [(a, sent)] }
    pure sent

section reactions

variable (react : Reaction → AnnouncingProc Unit)

/-- `OnPowerStatusChanged`. -/
def onPowerStatusChanged (a : Fin 16) (newStatus : PowerStatus) : AnnouncingProc Unit := do
  let w ← ask Announcing.world
  if a ≠ 0 then pure ()
  else match (w.devices a).handler with
  | .an =>
    if !w.hasPowerStatusQuirks then pure ()
    else match w.activeSource with
    | none => pure ()
    | some s =>
      if !w.isHandled s then pure ()
      else if newStatus = .standby ∨ newStatus = .inTransitionOnToStandby then do
        react (.setPowerStatus s .standby)
        quietly (transmitPowerState s 15)
      else if newStatus.isOn then react (.activateSource s)
      else pure ()
  | .sy =>
    if !newStatus.isOn then pure ()
    else quietly (forEach introduce ((List.finRange 16).filter w.isHandled))
  | _ => pure ()

/-- `SetPowerStatus`. -/
def setPowerStatus (a : Fin 16) (p : PowerStatus) : AnnouncingProc Unit := do
  let old ← ask fun s => (s.world.devices a).powerStatus
  if old = p then pure ()
  else
    quietly (update (World.storePowerStatus a p))
    onPowerStatusChanged react a p

/-- `MarkAsActiveSource`. -/
def markAsActiveSource (a : Fin 16) : AnnouncingProc Unit := do
  setPowerStatus react a .on
  quietly (update (World.updateDevice a fun d => { d with activeSource := true }))
  quietly (onImageViewOnSent false)
  quietly (forEach markAsInactiveSource ((List.finRange 16).filter (· ≠ a)))

/-- `TransmitImageViewOn` of the handler. -/
def handlerTransmitImageViewOn (initiator destination : Fin 16) : AnnouncingProc Bool := do
  let sent ← quietly (transmit initiator destination 0x04 false)
  let p ← ask fun s => (s.world.devices destination).powerStatus
  callWhen (sent ∧ p ≠ .on) (setPowerStatus react destination .inTransitionStandbyToOn)
  pure sent

/-- `TransmitImageViewOn` of a device. -/
def transmitImageViewOn (a : Fin 16) : AnnouncingProc Bool := do
  let p ← ask fun s => (s.world.devices a).powerStatus
  let already ← ask fun s => (s.world.devices 0).imageViewOnSent
  if !p.isOn then pure false
  else if already then pure true
  else
    let sent ← handlerTransmitImageViewOn react a 0
    callWhen sent (quietly (onImageViewOnSent true))
    pure sent

/-- `PowerOn` of the TV. -/
def powerOnTv (initiator : Fin 16) : AnnouncingProc Unit := do
  discard (quietly (getVendorId 0 initiator))
  discard (handlerTransmitImageViewOn react initiator 0)

/-- `ActivateSource` of the base handler. -/
def baseActivateSource (a : Fin 16) (bTransmitDelayedCommandsOnly : Bool) :
    AnnouncingProc Bool := do
  let w ← ask Announcing.world
  if !(w.devices a).activeSource || !w.isHandled a then pure true
  else
    let wait ← callOr bTransmitDelayedCommandsOnly false (quietly (delayed a))
    if wait then pure false
    else
      callWhen (!bTransmitDelayedCommandsOnly) (setPowerStatus react a .on)
      quietly (vendorPreActivateSourceHook a)
      let tvStatus ← quietly (getStatus 0 false)
      callWhen (tvStatus = .present) (powerOnTv react a)
      let allowed ← quietly (sourceSwitchAllowed a)
      let sent ← callOr allowed false (transmitActiveSource a)
      callWhen (sent ∧ tvStatus = .present) (quietly (transmitMenuState a 0))
      let ok ← callOr (sent ∧ tvStatus = .present ∧ deviceType a = .audioSystem) sent
        (quietly (transmit a 0 0x72 false))
      quietly (sourceActivated a (!ok))

/-- `ActivateSource` of LG's handler. -/
def slActivateSource (a : Fin 16) (bTransmitDelayedCommandsOnly : Bool) : AnnouncingProc Bool := do
  let w ← ask Announcing.world
  if !(w.devices a).activeSource || !w.isHandled a then pure true
  else
    let wait ← callOr bTransmitDelayedCommandsOnly false (quietly (delayed a))
    if wait then pure false
    else
      let tvStatus ← quietly (getStatus 0 false)
      let awake ←
        callOr (tvStatus = .present ∧ deviceType a ∈ [.playbackDevice, .recordingDevice]) true
          (transmitImageViewOn react a)
      let sent ← callOr awake false (transmitActiveSource a)
      quietly (sourceActivated a (!sent))

/-- `ActivateSource` of Philips's handler: while the TV is not on, a thread is started. -/
def phActivateSource (a : Fin 16) (bTransmitDelayedCommandsOnly : Bool) : AnnouncingProc Bool := do
  let w ← ask Announcing.world
  let o ← quietly observe
  if (w.devices a).activeSource && w.isHandled a && (w.devices 0).powerStatus != .on &&
      !bTransmitDelayedCommandsOnly && o.delayOver then do
    update fun s => { s with checks := s.checks ++ [a] }
    pure true
  else baseActivateSource react a bTransmitDelayedCommandsOnly

/-- `ActivateSource` of the device's handler. -/
def handlerActivateSource (a : Fin 16) (bTransmitDelayedCommandsOnly : Bool) :
    AnnouncingProc Bool := do
  let handler ← ask fun s => (s.world.devices a).handler
  match handler with
  | .sl => slActivateSource react a bTransmitDelayedCommandsOnly
  | .ph => phActivateSource react a bTransmitDelayedCommandsOnly
  | _ => baseActivateSource react a bTransmitDelayedCommandsOnly

/-- `ActivateSource` of a device. -/
def activateSource (a : Fin 16) (iDelay : ℕ) : AnnouncingProc Bool := do
  markAsActiveSource react a
  if iDelay = 0 then
    quietly (wakeAVR a)
    handlerActivateSource react a false
  else
    quietly (update (World.updateDevice a fun d => { d with activeSourcePending := true }))
    pure true

end reactions

/-- Reactions that are nested at most `n` deep. -/
def react : ℕ → Reaction → AnnouncingProc Unit
  | 0, _ => stuck
  | n + 1, .setPowerStatus a p => setPowerStatus (react n) a p
  | n + 1, .activateSource a => discard (activateSource (react n) a 0)

/-- A call that announces nothing leaves the record. -/
theorem returns_quietly {α : Type} {x : Proc α} {s s' : Announcing} {b : α} :
    Returns (quietly x) s b s' ↔
      ∃ w', Returns x s.world b w' ∧ s' = { s with world := w' } := returns_zoom

theorem announced_quietly {α : Type} {x : Proc α} {s s' : Announcing} {b : α}
    (h : Returns (quietly x) s b s') : s'.announced = s.announced := by
  obtain ⟨w', -, rfl⟩ := returns_quietly.mp h
  rfl

/-! ### Without the record -/

theorem erases_quietly {α : Type} (x : Proc α) : Erases Announcing.world (quietly x) x :=
  erases_zoom (fun _ _ => rfl) x

theorem erases_transmitActiveSource (a : Fin 16) :
    Erases Announcing.world (transmitActiveSource a) (CEC.transmitActiveSource a) := by
  refine erases_bind (erases_ask fun w : World => w.devices a) fun d => ?_
  refine erases_ite (erases_pure _) ?_
  refine erases_bind (erases_quietly _) fun _ => ?_
  -- the success is recorded before it is returned
  have hsent := erases_bind (erases_quietly (transmit a 15 0x82 false)) fun sent =>
    erases_record (g := fun s : Announcing => { s with announced := s.announced ++ [(a, sent)] })
      (fun _ => rfl) (erases_pure sent)
  rw [bind_pure] at hsent
  exact hsent

section reactions

variable {react : Reaction → AnnouncingProc Unit} {react' : Reaction → Proc Unit}
  (h : ∀ r, Erases Announcing.world (react r) (react' r))
include h

theorem erases_onPowerStatusChanged (a : Fin 16) (p : PowerStatus) :
    Erases Announcing.world (onPowerStatusChanged react a p) (CEC.onPowerStatusChanged react' a p) := by
  refine erases_bind (erases_ask id) fun w => erases_ite (erases_pure _) ?_
  cases (w.devices a).handler
  case an =>
    refine erases_ite (erases_pure _) ?_
    cases w.activeSource with
    | none => exact erases_pure _
    | some s =>
      refine erases_ite (erases_pure _) (erases_ite ?_ (erases_ite (h _) (erases_pure _)))
      exact erases_bind (h _) fun _ => erases_quietly _
  case sy => exact erases_ite (erases_pure _) (erases_quietly _)
  all_goals exact erases_pure _

theorem erases_setPowerStatus (a : Fin 16) (p : PowerStatus) :
    Erases Announcing.world (setPowerStatus react a p) (CEC.setPowerStatus react' a p) := by
  refine erases_bind (erases_ask fun w : World => (w.devices a).powerStatus) fun old => ?_
  refine erases_ite (erases_pure _) ?_
  exact erases_bind (erases_quietly _) fun _ => erases_onPowerStatusChanged h a p

theorem erases_markAsActiveSource (a : Fin 16) :
    Erases Announcing.world (markAsActiveSource react a) (CEC.markAsActiveSource react' a) := by
  refine erases_bind (erases_setPowerStatus h a _) fun _ => ?_
  refine erases_bind (erases_quietly _) fun _ => ?_
  exact erases_bind (erases_quietly _) fun _ => erases_quietly _

theorem erases_handlerTransmitImageViewOn (initiator destination : Fin 16) :
    Erases Announcing.world (handlerTransmitImageViewOn react initiator destination)
      (CEC.handlerTransmitImageViewOn react' initiator destination) := by
  refine erases_bind (erases_quietly _) fun sent => ?_
  refine erases_bind (erases_ask fun w : World => (w.devices destination).powerStatus) fun p => ?_
  exact erases_bind (erases_callOr (erases_setPowerStatus h _ _)) fun _ => erases_pure _

theorem erases_transmitImageViewOn (a : Fin 16) :
    Erases Announcing.world (transmitImageViewOn react a) (CEC.transmitImageViewOn react' a) := by
  refine erases_bind (erases_ask fun w : World => (w.devices a).powerStatus) fun p => ?_
  refine erases_bind (erases_ask fun w : World => (w.devices 0).imageViewOnSent) fun already => ?_
  refine erases_ite (erases_pure _) (erases_ite (erases_pure _) ?_)
  refine erases_bind (erases_handlerTransmitImageViewOn h a 0) fun sent => ?_
  exact erases_bind (erases_callOr (erases_quietly _)) fun _ => erases_pure _

theorem erases_powerOnTv (initiator : Fin 16) :
    Erases Announcing.world (powerOnTv react initiator) (CEC.powerOnTv react' initiator) :=
  erases_bind (erases_discard (erases_quietly _)) fun _ =>
    erases_discard (erases_handlerTransmitImageViewOn h initiator 0)

theorem erases_baseActivateSource (a : Fin 16) (delayedOnly : Bool) :
    Erases Announcing.world (baseActivateSource react a delayedOnly)
      (CEC.baseActivateSource react' a delayedOnly) := by
  refine erases_bind (erases_ask id) fun w => erases_ite (erases_pure _) ?_
  refine erases_bind (erases_callOr (erases_quietly _)) fun wait => ?_
  refine erases_ite (erases_pure _) ?_
  refine erases_bind (erases_callOr (erases_setPowerStatus h a _)) fun _ => ?_
  refine erases_bind (erases_quietly _) fun _ => ?_
  refine erases_bind (erases_quietly _) fun tvStatus => ?_
  refine erases_bind (erases_callOr (erases_powerOnTv h a)) fun _ => ?_
  refine erases_bind (erases_quietly _) fun allowed => ?_
  refine erases_bind (erases_callOr (erases_transmitActiveSource a)) fun sent => ?_
  refine erases_bind (erases_callOr (erases_quietly _)) fun _ => ?_
  exact erases_bind (erases_callOr (erases_quietly _)) fun ok => erases_quietly _

theorem erases_slActivateSource (a : Fin 16) (delayedOnly : Bool) :
    Erases Announcing.world (slActivateSource react a delayedOnly)
      (CEC.slActivateSource react' a delayedOnly) := by
  refine erases_bind (erases_ask id) fun w => erases_ite (erases_pure _) ?_
  refine erases_bind (erases_callOr (erases_quietly _)) fun wait => ?_
  refine erases_ite (erases_pure _) ?_
  refine erases_bind (erases_quietly _) fun tvStatus => ?_
  refine erases_bind (erases_callOr (erases_transmitImageViewOn h a)) fun awake => ?_
  exact erases_bind (erases_callOr (erases_transmitActiveSource a)) fun sent => erases_quietly _

theorem erases_phActivateSource (a : Fin 16) (delayedOnly : Bool) :
    Erases Announcing.world (phActivateSource react a delayedOnly)
      (CEC.phActivateSource react' a delayedOnly) := by
  refine erases_bind (erases_ask id) fun w => erases_bind (erases_quietly _) fun o => ?_
  refine erases_ite ?_ (erases_baseActivateSource h a delayedOnly)
  exact erases_record (g := fun s : Announcing => { s with checks := s.checks ++ [a] })
    (fun _ => rfl) (erases_pure true)

theorem erases_handlerActivateSource (a : Fin 16) (delayedOnly : Bool) :
    Erases Announcing.world (handlerActivateSource react a delayedOnly)
      (CEC.handlerActivateSource react' a delayedOnly) := by
  refine erases_bind (erases_ask fun w : World => (w.devices a).handler) fun handler => ?_
  cases handler
  case sl => exact erases_slActivateSource h a delayedOnly
  case ph => exact erases_phActivateSource h a delayedOnly
  all_goals exact erases_baseActivateSource h a delayedOnly

theorem erases_activateSource (a : Fin 16) (iDelay : ℕ) :
    Erases Announcing.world (activateSource react a iDelay) (CEC.activateSource react' a iDelay) := by
  refine erases_bind (erases_markAsActiveSource h a) fun _ => erases_ite ?_ ?_
  · exact erases_bind (erases_quietly _) fun _ => erases_handlerActivateSource h a false
  · exact erases_bind (erases_quietly _) fun _ => erases_pure _

end reactions

/-- However deep the reactions nest, they are those of `CEC` without the record. -/
theorem erases_react : ∀ (n : ℕ) (r : Reaction), Erases Announcing.world (react n r) (CEC.react n r)
  | 0, _ => erases_stuck
  | n + 1, .setPowerStatus a p => erases_setPowerStatus (erases_react n) a p
  | n + 1, .activateSource a => erases_discard (erases_activateSource (erases_react n) a 0)

end Announcing

end CEC
