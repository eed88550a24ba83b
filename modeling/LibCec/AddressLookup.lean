import LibCec.StreamPath

/-! Devices that are looked up by their physical address.

    `GetDeviceByPhysicalAddress` compares the address that it is given with those of the devices, in
    order. A device that has not reported its address yet has `CEC_INVALID_PHYSICAL_ADDRESS`, which
    is a value like any other one. The calls on behalf of received commands, and what is done with
    the device that they find:

        SET_STREAM_PATH             ActivateSource, TransmitActiveSource
        ROUTING_CHANGE, _INFO       SetActiveRoute ─▶ ActivateSource
        SYSTEM_AUDIO_MODE_REQUEST   MarkAsActiveSource
        REPORT_PHYSICAL_ADDRESS     PhysicalAddressInUse of its client
        SetStreamPath               MarkAsActiveSource, or MarkAsInactiveSource of the old one

    Only `SetStreamPath` checks the address, and only the new one. `selectsKnown_iff` says when the
    device that is found is a known one. -/

namespace CEC
open Schemes Procedure

/-- A lookup: the call that makes it. -/
inductive AddressLookup where
  | setStreamPath (c : Received)
  | routingChange (c : Received)
  | routingInformation (c : Received)
  | systemAudioModeRequest (c : Received)
  | reportPhysicalAddress (c : Received)
  | newStreamPath (a : Fin 16) (iNewAddress iOldAddress : UInt16)
  | oldStreamPath (a : Fin 16) (iNewAddress iOldAddress : UInt16)

namespace AddressLookup

/-- The address that is looked up. -/
def address : AddressLookup → UInt16
  | setStreamPath c | routingInformation c | systemAudioModeRequest c | reportPhysicalAddress c =>
    c.address 0
  | routingChange c => c.address 2
  | newStreamPath _ iNewAddress _ => iNewAddress
  | oldStreamPath _ _ iOldAddress => iOldAddress

/-- The device that is found. -/
def lookUp (l : AddressLookup) : Proc (Option (Fin 16)) :=
  getDeviceByPhysicalAddress l.address true (List.finRange 16)

section reactions

variable (react : Reaction → Proc Unit)

/-- The call as a whole. -/
def handler : AddressLookup → Proc Handling
  | setStreamPath c => handleSetStreamPath react c
  | routingChange c => handleRoutingChange react c
  | routingInformation c => handleRoutingInformation react c
  | systemAudioModeRequest c => handleSystemAudioModeRequest react c
  | reportPhysicalAddress c => handleReportPhysicalAddress react c
  | newStreamPath a iNewAddress iOldAddress | oldStreamPath a iNewAddress iOldAddress => do
    CEC.setStreamPath react a iNewAddress iOldAddress
    pure .handled

/-- What `SetStreamPath` does before the lookups. -/
def storeStreamPath (a : Fin 16) (iNewAddress : UInt16) : Proc Unit := do
  callWhen (iNewAddress ≠ invalidPhysicalAddress) (setPowerStatus react a .on)
  update (World.updateDevice a fun d => { d with streamPath := iNewAddress })

/-- What `HandleSetStreamPath` does with the device that it finds. -/
def streamPathSet : Option (Fin 16) → Proc Handling
  | some a => do
    let handled ← ask (·.isHandled a)
    let active ← ask fun w => (w.devices a).activeSource
    callWhen handled
      (if active then do
        markAsActiveSource react a
        discard (transmitActiveSource a)
      else discard (activateSource react a 0))
    pure .handled
  | none => do
    forEach markAsInactiveSource (List.finRange 16)
    pure (.abort .invalidOperand)

/-- What `SetActiveRoute` of a device does with the one that it finds. -/
def followRoute (a : Fin 16) : Option (Fin 16) → Proc Unit
  | none => pure ()
  | some r => do
    let w ← ask id
    callWhen (w.isHandled r && (!(w.devices a).activeSourceSent || !(w.devices r).activeSource))
      (discard (activateSource react r 0))

/-- A device that is found is marked as active. -/
def enter : Option (Fin 16) → Proc Unit
  | some d => markAsActiveSource react d
  | none => pure ()

/-- A device that is found is marked as inactive. -/
def leave : Option (Fin 16) → Proc Unit
  | some d => markAsInactiveSource d
  | none => pure ()

/-- What `SetStreamPath` does with the device that has the new address. -/
def enterStreamPath (d : Fin 16) : Proc Unit := do
  markAsActiveSource react d
  let handled ← ask (·.isHandled d)
  callWhen handled (discard (transmitActiveSource d))

/-- What `SetStreamPath` does after its first lookup. -/
def streamPathFound (iOldAddress : UInt16) : Option (Fin 16) → Proc Unit
  | some d => enterStreamPath react d
  | none => do
    let old ← getDeviceByPhysicalAddress iOldAddress true (List.finRange 16)
    leave old

/-- The end of `HandleReportPhysicalAddress`: the TV is told our address. -/
def answerReport (c : Received) : Proc Handling := do
  let primary ← ask World.logicalAddress
  callWhen (c.initiator = 0) (transmitPhysicalAddress primary)
  pure .handled

/-- The call up to the lookup, or what it returns without it. -/
def before : AddressLookup → Proc (Option Handling)
  | setStreamPath c => do
    let initialised ← ask World.initialised
    if !initialised then pure (some (.abort .notInCorrectModeToRespond))
    else pure (if 2 ≤ c.size then none else some (.abort .invalidOperand))
  | routingChange c =>
    if c.size = 4 then do
      setPowerStatus react c.initiator .on
      setPowerStatus react c.initiator .on
      pure none
    else pure (some (.abort .invalidOperand))
  | routingInformation c =>
    if c.size = 2 then do
      setPowerStatus react c.initiator .on
      pure none
    else pure (some (.abort .invalidOperand))
  | systemAudioModeRequest c => do
    let responds ← ask (·.responds c)
    if responds && isAudioSystem c.destination then
      if 2 ≤ c.size then do
        setPowerStatus react c.destination .on
        pure none
      else do
        discard (transmit c.destination c.initiator 0x72 false)
        pure (some .handled)
    else pure (some (.abort .notInCorrectModeToRespond))
  | reportPhysicalAddress c =>
    if c.size = 3 then do
      let handled ← ask (·.isHandled c.initiator)
      if handled then some <$> answerReport c else pure none
    else pure (some (.abort .invalidOperand))
  | newStreamPath a iNewAddress _ => do
    storeStreamPath react a iNewAddress
    pure (if isValidPhysicalAddress iNewAddress then none else some .handled)
  | oldStreamPath a iNewAddress _ => do
    storeStreamPath react a iNewAddress
    if !isValidPhysicalAddress iNewAddress then pure (some .handled)
    else
      let device ← getDeviceByPhysicalAddress iNewAddress true (List.finRange 16)
      match device with
      | some d => do
        enterStreamPath react d
        pure (some .handled)
      | none => pure none

/-- What is done with the device that was found, and the client whose `PhysicalAddressInUse` is
    called. -/
def act (device : Option (Fin 16)) : AddressLookup → Proc (Handling × Option ClientId)
  | setStreamPath _ => do
    let r ← streamPathSet react device
    pure (r, none)
  | routingChange c | routingInformation c => do
    followRoute react c.initiator device
    pure (.handled, none)
  | systemAudioModeRequest c => do
    enter react device
    discard (transmit c.destination c.initiator 0x72 false)
    pure (.handled, none)
  | reportPhysicalAddress c => do
    let client ← ask fun w => device.bind w.clients
    CEC.setPhysicalAddress c.initiator (c.address 0)
    -- `PhysicalAddressInUse` of the client logs and alerts
    let clients ← ask World.libClients
    forEach (refreshPhysicalAddress react c.initiator) clients
    let r ← answerReport c
    pure (r, client)
  | newStreamPath _ _ iOldAddress => do
    streamPathFound react iOldAddress device
    pure (.handled, none)
  | oldStreamPath _ _ _ => do
    leave device
    pure (.handled, none)

/-- The call with its lookup. -/
def run (l : AddressLookup) : Proc (Handling × Option ClientId) := do
  match ← l.before react with
  | some r => pure (r, none)
  | none => do
    let device ← l.lookUp
    l.act react device

end reactions

/-! ### The calls as a whole -/

/-- Looking up a device reads the state and leaves it. -/
theorem getDevice_eq (pa : UInt16) :
    getDeviceByPhysicalAddress pa true (List.finRange 16) = ask fun w => w.deviceAt pa := by
  funext w
  exact returns_getDeviceByPhysicalAddress.mpr ⟨rfl, rfl⟩

theorem lookUp_eq (l : AddressLookup) : l.lookUp = ask fun w => w.deviceAt l.address :=
  getDevice_eq l.address

/-- A call is its way to the lookup, the lookup and what is done with the device. -/
theorem run_eq (react : Reaction → Proc Unit) (l : AddressLookup) :
    Prod.fst <$> l.run react = l.handler react := by
  cases l with
  | setStreamPath c =>
    simp only [run, before, act, map_eq_pure_bind, bind_assoc]
    refine bind_congr fun initialised => ?_
    by_cases hsize : 2 ≤ c.size
    · cases initialised
      · rfl
      · simp only [hsize, if_true, Bool.not_true, Bool.false_eq_true, if_false, pure_bind, bind_assoc,
          bind_pure]
        rfl
    · cases initialised <;> simp [hsize]
  | routingChange c =>
    by_cases hsize : c.size = 4
    · simp only [run, before, act, handler, handleRoutingChange, setActiveRoute, hsize, if_true,
        map_eq_pure_bind, bind_assoc, pure_bind]
      rfl
    · simp [run, before, handler, handleRoutingChange, hsize]
  | routingInformation c =>
    by_cases hsize : c.size = 2
    · simp only [run, before, act, handler, handleRoutingInformation, setActiveRoute, hsize, if_true,
        map_eq_pure_bind, bind_assoc, pure_bind]
      rfl
    · simp [run, before, handler, handleRoutingInformation, hsize]
  | systemAudioModeRequest c =>
    simp only [run, before, act, map_eq_pure_bind, bind_assoc]
    refine bind_congr fun responds => ?_
    by_cases hresponds : (responds && isAudioSystem c.destination) = true
    · by_cases hsize : 2 ≤ c.size
      · simp only [hresponds, hsize, if_true, callOr, systemAudioModeOn, bind_assoc, pure_bind]
        rfl
      · simp only [hresponds, hsize, if_true, if_false, callOr, bind_assoc, pure_bind]
    · simp [hresponds]
  | reportPhysicalAddress c =>
    by_cases hsize : c.size = 3
    · simp only [run, before, act, handler, handleReportPhysicalAddress, handlerSetPhysicalAddress,
        hsize, if_true, lookUp_eq, map_eq_pure_bind, bind_assoc]
      refine bind_congr fun handled => ?_
      cases handled
      · -- neither the lookup nor the client that is found changes anything
        simp only [Bool.false_eq_true, if_false, pure_bind, bind_assoc, answerReport]
        rfl
      · simp only [if_true, pure_bind, bind_assoc, answerReport]
    · simp [run, before, handler, handleReportPhysicalAddress, hsize]
  | newStreamPath a iNewAddress iOldAddress =>
    simp only [run, before, storeStreamPath, act, handler, CEC.setStreamPath, map_eq_pure_bind,
      bind_assoc]
    cases hvalid : isValidPhysicalAddress iNewAddress
    · rfl
    · simp only [if_true, pure_bind, bind_assoc, Bool.not_true, Bool.false_eq_true, if_false]
      rfl
  | oldStreamPath a iNewAddress iOldAddress =>
    simp only [run, before, storeStreamPath, act, handler, CEC.setStreamPath, map_eq_pure_bind,
      bind_assoc]
    cases hvalid : isValidPhysicalAddress iNewAddress
    · rfl
    · simp only [bind_assoc, Bool.not_true, Bool.false_eq_true, if_false]
      refine bind_congr fun _ => bind_congr fun _ => bind_congr fun device => ?_
      cases device
      · simp only [pure_bind, bind_assoc, lookUp_eq, getDevice_eq]
        rfl
      · simp only [pure_bind, bind_assoc, enterStreamPath]

/-! ### What is found -/

/-- On the way to the lookup no physical address changes. -/
theorem keeps_before (n : ℕ) (l : AddressLookup) :
    Keeps (BusFrame Set.univ) (l.before (react n)) := by
  have hK := busFrame_composable Set.univ
  have hreact := reactionsKeep_react (R := BusFrame Set.univ) n
  have hstore : ∀ (a : Fin 16) (iNewAddress : UInt16),
      Keeps (BusFrame Set.univ) (storeStreamPath (react n) a iNewAddress) := fun a iNewAddress => by
    refine keeps_bind hK (keeps_callOr hK (keeps_setPowerStatus hreact a _)) fun _ => ?_
    exact keeps_update fun s => busFrame_updateDevice (fun _ => rfl) (fun _ => rfl) (fun _ => id)
      fun _ _ => rfl
  cases l with
  | setStreamPath c =>
    refine keeps_bind hK (keeps_ask hK _) fun initialised => ?_
    exact keeps_ite (fun _ => keeps_pure hK _) fun _ => keeps_pure hK _
  | routingChange c =>
    refine keeps_ite (fun _ => ?_) fun _ => keeps_pure hK _
    refine keeps_bind hK (keeps_setPowerStatus hreact _ _) fun _ => ?_
    exact keeps_bind hK (keeps_setPowerStatus hreact _ _) fun _ => keeps_pure hK _
  | routingInformation c =>
    refine keeps_ite (fun _ => ?_) fun _ => keeps_pure hK _
    exact keeps_bind hK (keeps_setPowerStatus hreact _ _) fun _ => keeps_pure hK _
  | systemAudioModeRequest c =>
    refine keeps_bind hK (keeps_ask hK _) fun responds => ?_
    refine keeps_ite (fun _ => keeps_ite (fun _ => ?_) fun _ => ?_) fun _ => keeps_pure hK _
    · exact keeps_bind hK (keeps_setPowerStatus hreact _ _) fun _ => keeps_pure hK _
    · exact keeps_bind hK (keeps_transmit_discard _ _ 0x72 false) fun _ => keeps_pure hK _
  | reportPhysicalAddress c =>
    refine keeps_ite (fun _ => ?_) fun _ => keeps_pure hK _
    refine keeps_bind hK (keeps_ask hK _) fun handled => ?_
    refine keeps_ite (fun _ => ?_) fun _ => keeps_pure hK _
    rw [map_eq_pure_bind]
    refine keeps_bind hK ?_ fun _ => keeps_pure hK _
    refine keeps_bind hK (keeps_ask hK _) fun primary => ?_
    exact keeps_bind hK (keeps_callOr hK (keeps_transmitPhysicalAddress primary)) fun _ =>
      keeps_pure hK _
  | newStreamPath a iNewAddress iOldAddress =>
    exact keeps_bind hK (hstore a iNewAddress) fun _ => keeps_pure hK _
  | oldStreamPath a iNewAddress iOldAddress =>
    refine keeps_bind hK (hstore a iNewAddress) fun _ => ?_
    refine keeps_ite (fun _ => keeps_pure hK _) fun _ => ?_
    refine keeps_bind hK (keeps_getDeviceByPhysicalAddress _ _) fun device => ?_
    split
    · next d =>
      refine keeps_bind hK ?_ fun _ => keeps_pure hK _
      refine keeps_bind hK (keeps_markAsActiveSource hreact d) fun _ => ?_
      refine keeps_bind hK (keeps_ask hK _) fun handled => ?_
      exact keeps_callOr hK (keeps_discard (keeps_transmitActiveSource d))
    · exact keeps_pure hK _

/-- The physical address of the device that was found, if any, is known. -/
def SelectsKnown (device : Option (Fin 16)) (w : World) : Prop :=
  ∀ a, device = some a → (w.devices a).physicalAddress ≠ invalidPhysicalAddress

/-- A lookup that is reached finds a known device or none, iff it is for another address than the
    invalid one, or the addresses of all devices are known. -/
theorem selectsKnown_iff {n : ℕ} {l : AddressLookup} {w w₁ w₂ : World} {device : Option (Fin 16)}
    (hbefore : Returns (l.before (react n)) w none w₁) (hfound : Returns l.lookUp w₁ device w₂) :
    SelectsKnown device w₁ ↔ l.address ≠ invalidPhysicalAddress ∨
      ∀ a, (w.devices a).physicalAddress ≠ invalidPhysicalAddress := by
  have hframe := keeps_before n l _ _ _ hbefore
  have hsame : ∀ a, (w₁.devices a).physicalAddress = (w.devices a).physicalAddress := fun a =>
    hframe.physicalAddress a trivial
  rw [lookUp_eq] at hfound
  obtain ⟨rfl, -⟩ := returns_ask.mp hfound
  constructor
  · intro h
    by_contra hno
    push Not at hno
    obtain ⟨hinvalid, a, ha⟩ := hno
    -- the first device without an address is found
    have hsome : (w₁.deviceAt l.address).isSome := by
      rw [World.deviceAt, List.find?_isSome]
      exact ⟨a, List.mem_finRange a, by simp [hsame, ha, hinvalid]⟩
    obtain ⟨d, hd⟩ := Option.isSome_iff_exists.mp hsome
    have haddress : (w₁.devices d).physicalAddress = l.address := by
      simpa using List.find?_some hd
    exact h d hd (haddress.trans hinvalid)
  · rintro (hvalid | hknown) d hd
    · have haddress : (w₁.devices d).physicalAddress = l.address := by
        simpa using List.find?_some hd
      rwa [haddress]
    · rw [hsame]
      exact hknown d

/-- The stream path is set to a known address. -/
theorem selectsKnown_streamPath : ∃ device w₁ w₂,
    Returns ((setStreamPath (streamPathTo 0x20 0)).before (react 1)) switchedWorld none w₁ ∧
      Returns (setStreamPath (streamPathTo 0x20 0)).lookUp w₁ device w₂ ∧
      SelectsKnown device w₁ := by
  have hbefore : Returns ((setStreamPath (streamPathTo 0x20 0)).before (react 1)) switchedWorld none
      switchedWorld := rfl
  obtain ⟨device, w₂, hfound⟩ := exists_returns
    (x := (setStreamPath (streamPathTo 0x20 0)).lookUp) (s := switchedWorld) (by decide +kernel)
  exact ⟨device, _, w₂, hbefore, hfound,
    (selectsKnown_iff hbefore hfound).mpr (.inl (by decide +kernel))⟩

/-- An audio system of libCEC. -/
def audioWorld : World :=
  (World.start (fun _ => clientFor [.audioSystem]) fun _ => .silent).updateDevice 5 fun d =>
    { d with status := .handledByLibCec, physicalAddress := 0x1000, powerStatus := .on }

/-- The TV asks the audio system for the sound of a device at the address that stands for an unknown
    one. -/
def audioRequest : Received :=
  ⟨0, 5, true, 0x70, BoundedBuffer.empty.pushAll [0xFF, 0xFF]⟩

/-- The first device that has not reported its address yet is found, and marked as active source. -/
theorem not_selectsKnown : ¬ ∀ (n : ℕ) (l : AddressLookup) (w w₁ w₂ : World)
    (device : Option (Fin 16)), Returns (l.before (react n)) w none w₁ →
      Returns l.lookUp w₁ device w₂ → SelectsKnown device w₁ := by
  intro h
  have hbefore : Returns ((systemAudioModeRequest audioRequest).before (react 1)) audioWorld none
      audioWorld := by
    refine returns_ask_bind.mpr ?_
    rw [if_pos (by decide +kernel), if_pos (by decide +kernel)]
    refine returns_bind.mpr ⟨(), audioWorld, returns_ask_bind.mpr ?_, returns_pure.mpr ⟨rfl, rfl⟩⟩
    rw [if_pos (by decide +kernel)]
    exact returns_pure.mpr ⟨rfl, rfl⟩
  have hfound : Returns (systemAudioModeRequest audioRequest).lookUp audioWorld (some 1)
      audioWorld := by
    rw [lookUp_eq]
    exact returns_ask.mpr ⟨by decide +kernel, rfl⟩
  exact h 1 _ _ _ _ _ hbefore hfound 1 rfl (by decide +kernel)

end AddressLookup

end CEC
