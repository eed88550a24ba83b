import LibCec.Registration
import LibCec.Schemes.Erasure

/-! Registering a client, with a record of the ack mask.

    `RegisterClient` of the processor sends a mask each time it has changed `m_clients`, and once
    more when it could not find addresses:

        RegisterClient
          ├─ UnregisterClient ─ ─ ─ ─ ─ ─ ─ ▶ mask of the clients left
          ├─ previousMask
          ├─ SetConfiguration ─ ─ ─ ─ ─ ─ ─ ▶ whatever registering again sends
          └─ AllocateLogicalAddresses ─ ─ ─ ▶ mask with the new addresses, or
                                              previousMask

    Without the record the functions are those of `Registration`. -/

namespace CEC
open Schemes Procedure

/-- The world, and the addresses for which the ack mask was last sent, if it was sent. -/
structure Masking where
  world : World
  lastMask : Option LogicalAddresses

/-- A call with a record of the ack mask. -/
abbrev MaskingProc (α : Type) := Procedure Masking α

namespace Masking

/-- A call that sends no mask. -/
def quietly {α : Type} (x : Proc α) : MaskingProc α :=
  zoom Masking.world (fun w s => { s with world := w }) x

/-- `SetLogicalAddresses` of the processor. -/
def setLogicalAddresses (addresses : LogicalAddresses) : MaskingProc Bool := do
  update fun s => { s with lastMask := some addresses }
  quietly setAckMask

/-- `AllocateLogicalAddresses` of the processor. -/
def allocateLogicalAddresses (c : ClientId) : MaskingProc Bool := do
  -- unregister this client from the old addresses
  quietly (update (World.updateClient c fun k => { k with registered := false }))
  let old ← ask fun s => (s.world.configuration c).logicalAddresses.toList
  quietly (forEach eraseClient old)
  let allocated ← quietly (clientAllocateLogicalAddresses c)
  if !allocated then pure false
  else
    let m ← ask (·.world.configuration c)
    quietly (callWhen (m.bAutodetectAddress ≠ 0) (discard (autodetectPhysicalAddress c)))
    -- register this client on the new addresses
    quietly (forEach (insertClient c) m.logicalAddresses.toList)
    let addresses ← ask (·.world.logicalAddresses)
    discard (setLogicalAddresses addresses)
    -- resume outgoing communication
    quietly (update fun w => { w with stallCommunication := false })
    pure true

/-- `UnregisterClient`. -/
def unregisterClient (c : ClientId) : MaskingProc Bool := do
  quietly (update
    (World.updateClient c fun k => { k with registered := false, initialised := false }))
  let own ← ask fun s => (s.world.configuration c).logicalAddresses.toList
  quietly (forEach unregisterAddress own)
  let addresses ← ask (·.world.logicalAddresses)
  setLogicalAddresses addresses

section registration

variable (react : Reaction → Proc Unit) (reregister : ClientId → MaskingProc Bool)

/-- `SetConfiguration`. -/
def setConfiguration (c : ClientId) (x : Configuration) : MaskingProc Unit := do
  let w ← ask Masking.world
  let iPA :=
    if w.initialised then (w.devices (w.primaryOf c)).physicalAddress else invalidPhysicalAddress
  quietly (applySettings c x)
  let bNeedReinit ← quietly (applyAddress react c x)
  let primary ← ask fun s => s.world.devices (s.world.primaryOf c)
  if bNeedReinit || primary.physicalAddress ≠ iPA then
    -- PA or device type changed
    discard (reregister c)
  else
    quietly (callWhen (x.bActivateSource = 1 ∧ w.initialised ∧ !primary.activeSource)
      (discard (activateSource react (w.primaryOf c) 0)))

/-- `RegisterClient` up to the allocation; the mask to restore if that fails, when it gets there. -/
def prepareRegistration (c : ClientId) : MaskingProc (Option LogicalAddresses) := do
  let registered ← ask fun s => (s.world.client c).registered
  callWhen registered (discard (unregisterClient c))
  quietly (update fun w => { w with monitor := false })
  let source ← ask (·.world.transmitSource 15)
  match source with
  | none => pure none
  | some sourceAddress =>
    quietly (discard (getVendorId 0 sourceAddress))
    quietly (replaceHandler 0)
    -- get the current ackmask, so we can restore it if polling fails
    let previousMask ← ask (·.world.logicalAddresses)
    quietly (update (World.updateClient c fun k => { k with initialised := false }))
    let o ← quietly observe
    let rom ← ask (·.world.eeprom)
    quietly (update (World.updateConfiguration c
      (settingsFromAdapter o.detectedPhysicalAddress rom)))
    let m ← ask (·.world.configuration c)
    setConfiguration react reregister c m
    pure (some previousMask)

/-- `RegisterClient`, with the call of itself that `SetConfiguration` may make as a parameter. -/
def registerClientWith (c : ClientId) : MaskingProc Bool := do
  let w ← ask Masking.world
  if (w.configuration c).bMonitorOnly = 1 then pure true
  else if !w.initialised then pure false
  else
    let ready ← prepareRegistration react reregister c
    match ready with
    | none => pure false
    | some previousMask =>
      let allocated ← allocateLogicalAddresses c
      if !allocated then
        discard (setLogicalAddresses previousMask)
        pure false
      else quietly (completeRegistration react c)

end registration

/-- `RegisterClient`, for calls that are nested at most `n` deep. -/
def registerClient : ℕ → ClientId → MaskingProc Bool
  | 0, _ => stuck
  | n + 1, c => registerClientWith (CEC.react n) (registerClient n) c

/-! ### Without the record -/

theorem erases_quietly {α : Type} (x : Proc α) : Erases Masking.world (quietly x) x :=
  erases_zoom (fun _ _ => rfl) x

theorem erases_setLogicalAddresses (addresses : LogicalAddresses) :
    Erases Masking.world (setLogicalAddresses addresses) setAckMask :=
  erases_record (g := fun s : Masking => { s with lastMask := some addresses }) (fun _ => rfl)
    (erases_quietly setAckMask)

theorem erases_allocateLogicalAddresses (c : ClientId) :
    Erases Masking.world (allocateLogicalAddresses c) (CEC.allocateLogicalAddresses c) := by
  refine erases_bind (erases_quietly _) fun _ => ?_
  refine erases_bind (erases_ask fun w : World => (w.configuration c).logicalAddresses.toList)
    fun old => ?_
  refine erases_bind (erases_quietly _) fun _ => ?_
  refine erases_bind (erases_quietly _) fun allocated => erases_ite (erases_pure _) ?_
  refine erases_bind (erases_ask fun w : World => w.configuration c) fun m => ?_
  refine erases_bind (erases_quietly _) fun _ => ?_
  refine erases_bind (erases_quietly _) fun _ => erases_read fun addresses => ?_
  refine erases_bind (erases_discard (erases_setLogicalAddresses addresses)) fun _ => ?_
  exact erases_bind (erases_quietly _) fun _ => erases_pure _

theorem erases_unregisterClient (c : ClientId) :
    Erases Masking.world (unregisterClient c) (CEC.unregisterClient c) := by
  refine erases_bind (erases_quietly _) fun _ => ?_
  refine erases_bind (erases_ask fun w : World => (w.configuration c).logicalAddresses.toList)
    fun own => ?_
  refine erases_bind (erases_quietly _) fun _ => erases_read fun addresses => ?_
  exact erases_setLogicalAddresses addresses

section registration

variable (react : Reaction → Proc Unit) {reregister : ClientId → MaskingProc Bool}
  {reregister' : ClientId → Proc Bool} {c : ClientId}
  (h : Erases Masking.world (reregister c) (reregister' c))

include h

theorem erases_setConfiguration (x : Configuration) :
    Erases Masking.world (setConfiguration react reregister c x)
      (CEC.setConfiguration react reregister' c x) := by
  refine erases_bind (erases_ask fun w : World => w) fun w => ?_
  refine erases_bind (erases_quietly _) fun _ => ?_
  refine erases_bind (erases_quietly _) fun bNeedReinit => ?_
  refine erases_bind (erases_ask fun w : World => w.devices (w.primaryOf c)) fun primary => ?_
  exact erases_ite (erases_discard h) (erases_quietly _)

theorem erases_prepareRegistration :
    Erases Masking.world
      (prepareRegistration react reregister c >>= fun ready => pure ready.isSome)
      (CEC.prepareRegistration react reregister' c) := by
  unfold prepareRegistration
  simp only [bind_assoc]
  refine erases_bind (erases_ask fun w : World => (w.client c).registered) fun registered => ?_
  refine erases_bind (erases_callOr (erases_discard (erases_unregisterClient c))) fun _ => ?_
  refine erases_bind (erases_quietly _) fun _ => ?_
  refine erases_bind (erases_ask fun w : World => w.transmitSource 15) fun source => ?_
  cases source with
  | none => exact erases_pure _
  | some sourceAddress =>
    simp only [bind_assoc]
    refine erases_bind (erases_quietly _) fun _ => ?_
    refine erases_bind (erases_quietly _) fun _ => erases_read fun previousMask => ?_
    refine erases_bind (erases_quietly _) fun _ => ?_
    refine erases_bind (erases_quietly _) fun o => ?_
    refine erases_bind (erases_ask World.eeprom) fun rom => ?_
    refine erases_bind (erases_quietly _) fun _ => ?_
    refine erases_bind (erases_ask fun w : World => w.configuration c) fun m => ?_
    exact erases_bind (erases_setConfiguration react h m) fun _ => erases_pure _

theorem erases_registerClientWith :
    Erases Masking.world (registerClientWith react reregister c)
      (CEC.registerClientWith react reregister' c) := by
  refine erases_bind (erases_ask fun w : World => w) fun w => erases_ite (erases_pure _) ?_
  refine erases_ite (erases_pure _) ?_
  refine erases_bind_map (erases_prepareRegistration react h) fun ready => ?_
  cases ready with
  | none => exact erases_pure _
  | some previousMask =>
    refine erases_bind (erases_allocateLogicalAddresses c) fun allocated => erases_ite ?_ ?_
    · exact erases_bind (erases_discard (erases_setLogicalAddresses previousMask)) fun _ =>
        erases_pure _
    · exact erases_quietly _

end registration

theorem erases_registerClient (n : ℕ) (c : ClientId) :
    Erases Masking.world (registerClient n c) (CEC.registerClient n c) := by
  induction n with
  | zero => exact erases_stuck
  | succ n ih => exact erases_registerClientWith (CEC.react n) ih

end Masking

end CEC
