import LibCec.Bus

/-! Activating a source: the flag `m_bActiveSource` and everything that sets or clears it.

    `MarkAsActiveSource` sets the flag of one device and clears it on all the others;
    `MarkAsInactiveSource` clears it. Both are reached from received commands, from the client and
    from each other, because a handler may follow the power status of the TV:

        SetPowerStatus ──▶ OnPowerStatusChanged ──▶ ActivateSource ──▶ MarkAsActiveSource
              ▲                                                              │
              └──────────────────────────────────────────────────────────────┘

    The calls that close this loop are a parameter `react` of every function on it; `react n` ties
    the knot for calls that are nested at most `n` deep. -/

namespace CEC
open Schemes Procedure

/-- The calls that a change of the TV's power status leads back to. -/
inductive Reaction where
  | setPowerStatus (a : Fin 16) (p : PowerStatus)
  | activateSource (a : Fin 16)

/-- Powered on, or about to be. -/
def PowerStatus.isOn (p : PowerStatus) : Bool := p = on || p = inTransitionStandbyToOn

/-! ### What a device sends about itself -/

/-- `TransmitPowerState`. -/
def transmitPowerState (a destination : Fin 16) : Proc Unit :=
  discard (transmit a destination 0x90 false)

/-- `TransmitOSDName`. -/
def transmitOSDName (a destination : Fin 16) : Proc Unit :=
  discard (transmit a destination 0x47 false)

/-- `TransmitPhysicalAddress`. -/
def transmitPhysicalAddress (a : Fin 16) : Proc Unit := do
  let pa ← ask fun w => (w.devices a).physicalAddress
  if pa = invalidPhysicalAddress then pure () else discard (transmit a 15 0x84 false)

/-- What Sony's handler sends about a device when the TV wakes up. -/
def introduce (a : Fin 16) : Proc Unit := do
  transmitPhysicalAddress a
  transmitOSDName a 0

/-- `TransmitMenuState`; LG's handler does not send it. -/
def transmitMenuState (a destination : Fin 16) : Proc Unit := do
  let handler ← ask fun w => (w.devices a).handler
  if handler = .sl then pure () else discard (transmit a destination 0x8E false)

/-- `TransmitActiveSource`. -/
def transmitActiveSource (a : Fin 16) : Proc Bool := do
  let d ← ask (·.devices a)
  if !d.hasValidPhysicalAddress || !d.powerStatus.isOn || !d.activeSource then pure false
  else
    update (World.updateDevice a fun d => { d with activeSourceSent := true })
    transmit a 15 0x82 false

/-- `SystemAudioModeRequest`, when the library's client wants the AVR woken up. -/
def wakeAVR (a : Fin 16) : Proc Unit := do
  let w ← ask id
  callWhen (a ≠ 5 ∧ (w.configuration w.libClient).bAutoWakeAVR = 1 ∧
      (w.devices 5).status = .present ∧ (w.devices a).physicalAddress ≠ invalidPhysicalAddress)
    (discard (transmit a 5 0x70 false))

/-! ### The flag -/

/-- `MarkAsInactiveSource`. -/
def markAsInactiveSource (a : Fin 16) : Proc Unit :=
  update (World.updateDevice a fun d => { d with activeSource := false })

/-- `OnImageViewOnSent` of the TV. -/
def onImageViewOnSent (bSentByLibCEC : Bool) : Proc Unit :=
  update (World.updateDevice 0 fun d =>
    { d with
      imageViewOnSent := bSentByLibCEC
      powerStatus :=
        if d.powerStatus.isOn then d.powerStatus else PowerStatus.inTransitionStandbyToOn })

/-- `HasPowerStatusQuirks` of Samsung's handler. -/
def World.hasPowerStatusQuirks (w : World) : Bool := w.modelYear = 0 || w.modelYear ≥ 2016

section reactions

variable (react : Reaction → Proc Unit)

/-- `OnPowerStatusChanged`: Samsung's handler keeps the active source in step with the TV, and
    Sony's introduces the devices of libCEC again. -/
def onPowerStatusChanged (a : Fin 16) (newStatus : PowerStatus) : Proc Unit := do
  let w ← ask id
  if a ≠ 0 then pure ()
  else match (w.devices a).handler with
  | .an =>
    if !w.hasPowerStatusQuirks then pure ()
    else match w.activeSource with
    | none => pure ()
    | some s =>
      if !w.isHandled s then pure ()
      else if newStatus = .standby ∨ newStatus = .inTransitionOnToStandby then do
        react (.setPowerStatus s .standby)
        transmitPowerState s 15
      else if newStatus.isOn then react (.activateSource s)
      else pure ()
  | .sy =>
    if !newStatus.isOn then pure ()
    else forEach introduce ((List.finRange 16).filter w.isHandled)
  | _ => pure ()

/-- `SetPowerStatus`. -/
def setPowerStatus (a : Fin 16) (p : PowerStatus) : Proc Unit := do
  let old ← ask fun w => (w.devices a).powerStatus
  if old = p then pure ()
  else
    update (World.storePowerStatus a p)
    onPowerStatusChanged react a p

/-- `MarkAsActiveSource`. -/
def markAsActiveSource (a : Fin 16) : Proc Unit := do
  setPowerStatus react a .on
  update (World.updateDevice a fun d => { d with activeSource := true })
  onImageViewOnSent false
  forEach markAsInactiveSource ((List.finRange 16).filter (· ≠ a))

/-! ### Switching the TV on and sending the active source -/

/-- `TransmitImageViewOn` of the handler. -/
def handlerTransmitImageViewOn (initiator destination : Fin 16) : Proc Bool := do
  let sent ← transmit initiator destination 0x04 false
  let p ← ask fun w => (w.devices destination).powerStatus
  callWhen (sent ∧ p ≠ .on) (setPowerStatus react destination .inTransitionStandbyToOn)
  pure sent

/-- `TransmitImageViewOn` of a device: not again when it was sent already. -/
def transmitImageViewOn (a : Fin 16) : Proc Bool := do
  let p ← ask fun w => (w.devices a).powerStatus
  let already ← ask fun w => (w.devices 0).imageViewOnSent
  if !p.isOn then pure false
  else if already then pure true
  else
    let sent ← handlerTransmitImageViewOn react a 0
    callWhen sent (onImageViewOnSent true)
    pure sent

/-- `PowerOn` of the TV. -/
def powerOnTv (initiator : Fin 16) : Proc Unit := do
  discard (getVendorId 0 initiator)
  discard (handlerTransmitImageViewOn react initiator 0)

/-- `VendorPreActivateSourceHook`: Panasonic's handler sends its capabilities once the TV is up. -/
def vendorPreActivateSourceHook (a : Fin 16) : Proc Unit := do
  let w ← ask id
  if (w.devices a).handler = .vl then
    let o ← observe
    callWhen o.delayOver (discard (transmit w.logicalAddress 0 0x89 false))
  else pure ()

/-- `SourceSwitchAllowed`: Panasonic's handler waits for the TV. -/
def sourceSwitchAllowed (a : Fin 16) : Proc Bool := do
  let w ← ask id
  if (w.devices a).handler = .vl then
    discard (getStatus 0 false)
    let o ← observe
    callWhen (!o.sourceSwitchAllowed) (discard (transmit w.logicalAddress 0 0x8F false))
    let o ← observe
    pure o.sourceSwitchAllowed
  else pure true

/-- Whether a pending source switch has to wait for its delay. -/
def delayed (a : Fin 16) : Proc Bool := do
  let pending ← ask fun w => (w.devices a).activeSourcePending
  let o ← observe
  pure (!pending || !o.delayOver)

/-- The end of `ActivateSource`: retry later, or forget about earlier failures. -/
def sourceActivated (a : Fin 16) (failed : Bool) : Proc Bool := do
  update (World.updateDevice a fun d => { d with activeSourcePending := failed })
  pure (!failed)

/-- `ActivateSource` of the base handler. -/
def baseActivateSource (a : Fin 16) (bTransmitDelayedCommandsOnly : Bool) : Proc Bool := do
  let w ← ask id
  if !(w.devices a).activeSource || !w.isHandled a then pure true
  else
    let wait ← callOr bTransmitDelayedCommandsOnly false (delayed a)
    if wait then pure false
    else
      callWhen (!bTransmitDelayedCommandsOnly) (setPowerStatus react a .on)
      vendorPreActivateSourceHook a
      let tvStatus ← getStatus 0 false
      callWhen (tvStatus = .present) (powerOnTv react a)
      let allowed ← sourceSwitchAllowed a
      let sent ← callOr allowed false (transmitActiveSource a)
      callWhen (sent ∧ tvStatus = .present) (transmitMenuState a 0)
      let ok ← callOr (sent ∧ tvStatus = .present ∧ deviceType a = .audioSystem) sent
        (transmit a 0 0x72 false)
      sourceActivated a (!ok)

/-- `ActivateSource` of LG's handler. -/
def slActivateSource (a : Fin 16) (bTransmitDelayedCommandsOnly : Bool) : Proc Bool := do
  let w ← ask id
  if !(w.devices a).activeSource || !w.isHandled a then pure true
  else
    let wait ← callOr bTransmitDelayedCommandsOnly false (delayed a)
    if wait then pure false
    else
      let tvStatus ← getStatus 0 false
      let awake ←
        callOr (tvStatus = .present ∧ deviceType a ∈ [.playbackDevice, .recordingDevice]) true
          (transmitImageViewOn react a)
      let sent ← callOr awake false (transmitActiveSource a)
      sourceActivated a (!sent)

/-- `ActivateSource` of Philips's handler: while the TV is not on, a thread checks on it instead. -/
def phActivateSource (a : Fin 16) (bTransmitDelayedCommandsOnly : Bool) : Proc Bool := do
  let w ← ask id
  let o ← observe
  if (w.devices a).activeSource && w.isHandled a && (w.devices 0).powerStatus != .on &&
      !bTransmitDelayedCommandsOnly && o.delayOver then pure true
  else baseActivateSource react a bTransmitDelayedCommandsOnly

/-- `ActivateSource` of the device's handler. -/
def handlerActivateSource (a : Fin 16) (bTransmitDelayedCommandsOnly : Bool) : Proc Bool := do
  let handler ← ask fun w => (w.devices a).handler
  match handler with
  | .sl => slActivateSource react a bTransmitDelayedCommandsOnly
  | .ph => phActivateSource react a bTransmitDelayedCommandsOnly
  | _ => baseActivateSource react a bTransmitDelayedCommandsOnly

/-- `ActivateSource` of a device. -/
def activateSource (a : Fin 16) (iDelay : ℕ) : Proc Bool := do
  markAsActiveSource react a
  if iDelay = 0 then
    wakeAVR a
    handlerActivateSource react a false
  else
    update (World.updateDevice a fun d => { d with activeSourcePending := true })
    pure true

/-- `SetActiveRoute`. -/
def setActiveRoute (a : Fin 16) (iRoute : UInt16) : Proc Unit := do
  setPowerStatus react a .on
  let newRoute ← getDeviceByPhysicalAddress iRoute true (List.finRange 16)
  match newRoute with
  | none => pure ()
  | some r =>
    let w ← ask id
    callWhen (w.isHandled r && (!(w.devices a).activeSourceSent || !(w.devices r).activeSource))
      (discard (activateSource react r 0))

/-- `SetStreamPath` of a device. -/
def setStreamPath (a : Fin 16) (iNewAddress iOldAddress : UInt16) : Proc Unit := do
  callWhen (iNewAddress ≠ invalidPhysicalAddress) (setPowerStatus react a .on)
  update (World.updateDevice a fun d => { d with streamPath := iNewAddress })
  if !isValidPhysicalAddress iNewAddress then pure ()
  else
    let device ← getDeviceByPhysicalAddress iNewAddress true (List.finRange 16)
    match device with
    | some d =>
      markAsActiveSource react d
      let handled ← ask (·.isHandled d)
      callWhen handled (discard (transmitActiveSource d))
    | none =>
      let old ← getDeviceByPhysicalAddress iOldAddress true (List.finRange 16)
      match old with
      | some d => markAsInactiveSource d
      | none => pure ()

/-- `RequestPowerStatus`. -/
def requestPowerStatus (a initiator : Fin 16) : Proc Unit := do
  let w ← ask id
  if w.isHandled a || 0x8F ∈ (w.devices a).unsupportedFeatures then pure ()
  else
    let answered ← transmit initiator a 0x8F true
    callWhen (!answered) (setPowerStatus react a .unknown)

end reactions

/-- Reactions that are nested at most `n` deep. -/
def react : ℕ → Reaction → Proc Unit
  | 0, _ => stuck
  | n + 1, .setPowerStatus a p => setPowerStatus (react n) a p
  | n + 1, .activateSource a => discard (activateSource (react n) a 0)

end CEC
