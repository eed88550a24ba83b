import LibCec.Keypress
import LibCec.OperandReads
import LibCec.Schemes.Erasure

/-! Commands that end before the operands that their handler reads.

    What is absent reads as 0, and 0 is a menu request to activate, a TV that has powered up and the
    key SELECT. `Interaction` is the session with what the functions without a guard change beside
    it, the menus and the keys; `erases_handlerFor` says that without them they are the functions of
    the session.

        MENU_REQUEST ──────────────▶ the client is asked to open its menu
        00 80 45 20 ───────────────▶ the TV is on
        USER_CONTROL_PRESSED ──────▶ SELECT is the last key, and is released if it was before -/

namespace CEC
open Schemes Procedure

/-- The world is a part of the session. -/
theorem isPart_world : IsPart Session.world fun w s => { s with world := w } :=
  ⟨fun _ _ => rfl, fun _ => rfl, fun _ _ _ => rfl⟩

/-! ### What these functions change beside the session -/

/-- `cec_menu_state`. -/
inductive MenuState where
  | activated | deactivated
  deriving DecidableEq

/-- The session with the menus and the keys. -/
structure Interaction where
  session : Session
  /-- `m_menuState` of the devices -/
  menuState : Fin 16 → MenuState
  /-- the calls of `QueueMenuStateChanged`, and what the applications return, call by call -/
  menuCallbacks : List (ClientId × MenuState)
  menuAnswer : ℕ → ℤ
  /-- the pressed keys of the clients, at the time `GetTimeMs` -/
  keys : ClientId → KeyState
  now : ℤ
  /-- `m_iLastKeyCode` of Philips's handlers -/
  lastKeyCode : Fin 16 → UInt8
  /-- `m_iPowerUpEventReceived` of Panasonic's handlers -/
  powerUpEventReceived : Fin 16 → ℤ

namespace Interaction

/-- A call that touches neither menus nor keys. -/
def onSession {α : Type} (x : HandlerProc α) : Procedure Interaction α :=
  zoom session (fun t s => { s with session := t }) x

/-- The menu state that a request asks for; a query asks for none. -/
def requestedState (operand : UInt8) : Option MenuState :=
  if operand = 0x00 then some .activated
  else if operand = 0x01 then some .deactivated
  else none

/-- `QueueMenuStateChanged`, and `SetMenuState` of the device when the application takes it. -/
def queueMenuStateChanged (k : ClientId) (a : Fin 16) (newState : MenuState) (s : Interaction) :
    Interaction :=
  { s with
    menuCallbacks := s.menuCallbacks ++ [(k, newState)]
    menuState :=
      if s.menuAnswer s.menuCallbacks.length = 1 then Function.update s.menuState a newState
      else s.menuState }

/-- What a menu request tells the client of the device. -/
def menuRequested (c : Received) (s : Interaction) : Interaction :=
  match s.session.world.clients c.destination, requestedState (c.parameter 0) with
  | some k, some newState => s.queueMenuStateChanged k c.destination newState
  | _, _ => s

/-- `HandleMenuRequest`. -/
def handleMenuRequest (c : Received) : Procedure Interaction Handling := do
  let responds ← ask (·.session.world.responds c)
  if responds then
    update (menuRequested c)
    onSession (onWorld (transmitMenuState c.destination c.initiator))
    pure .handled
  else pure (.abort .notInCorrectModeToRespond)

/-- A change of the keys of the client at the destination, if there is one. -/
def updateKeys (c : Received) (f : Configuration → ℤ → KeyState → KeyState) (s : Interaction) :
    Interaction :=
  match s.session.world.clients c.destination with
  | some k =>
    { s with
      keys := Function.update s.keys k (f (s.session.world.configuration k) s.now (s.keys k)) }
  | none => s

/-- The assignment of `m_iLastKeyCode` of the handler of `a`. -/
def setLastKeyCode (a : Fin 16) (key : UInt8) (s : Interaction) : Interaction :=
  { s with lastKeyCode := Function.update s.lastKeyCode a key }

/-- `HandleUserControlRelease`. -/
def handleUserControlRelease (c : Received) : Procedure Interaction Handling := do
  let responds ← ask (·.session.world.responds c)
  if responds then
    update (updateKeys c fun cfg now => addKey cfg now false true)
    pure .handled
  else pure (.abort .notInCorrectModeToRespond)

/-- `HandleUserControlRelease` of Philips's handler. -/
def phHandleUserControlRelease (c : Received) : Procedure Interaction Handling := do
  update (setLastKeyCode c.initiator keyUnknown)
  handleUserControlRelease c

/-- The menu of a device that a power key switches off. -/
def closeMenu (c : Received) (s : Interaction) : Interaction :=
  if c.parameter 0 ∈ [0x40, 0x6B] ∧ (s.session.world.devices c.destination).powerStatus.isOn then
    { s with menuState := Function.update s.menuState c.destination .deactivated }
  else s

section reactions

variable (react : Reaction → Proc Unit)

/-- `HandleUserControlPressed`: the client is given the key first. -/
def handleUserControlPressed (c : Received) : Procedure Interaction Handling := do
  let responds ← ask (·.session.world.responds c)
  callWhen (responds ∧ c.size ≠ 0) do
    update (updateKeys c fun cfg now => addKeypress cfg now ⟨c.parameter 0, 0⟩)
    update (closeMenu c)
  onSession (onWorld (CEC.handleUserControlPressed react c))

/-- `HandleUserControlPressed` of Philips's handler. -/
def phHandleUserControlPressed (c : Received) : Procedure Interaction Handling := do
  let repeated ← ask fun s => decide (s.lastKeyCode c.initiator = c.parameter 0)
  if repeated ∧ !mayRepeat (c.parameter 0) then pure .handled
  else
    callWhen repeated (discard (handleUserControlRelease c))
    update (setLastKeyCode c.initiator (c.parameter 0))
    handleUserControlPressed react c

/-- The power up event of Panasonic's handler: the first one counts. -/
def powerUpEvent (a : Fin 16) (s : Interaction) : Interaction :=
  { s with
    powerUpEventReceived :=
      if s.powerUpEventReceived a = 0 then Function.update s.powerUpEventReceived a s.now
      else s.powerUpEventReceived }

/-- What a power change of the TV does to the power up event. -/
def powerChanged (c : Received) (s : Interaction) : Interaction :=
  if c.parameter 4 = 0x00 then s.powerUpEvent c.initiator
  else if c.parameter 4 = 0x01 then
    { s with powerUpEventReceived := Function.update s.powerUpEventReceived c.initiator 0 }
  else s

/-- `HandleDeviceVendorCommandWithId` of Panasonic's handler. -/
def vlHandleDeviceVendorCommandWithId (c : Received) : Procedure Interaction Handling := do
  let handled ← ask (·.session.world.isHandled c.destination)
  if !handled ∧ c.destination ≠ 15 then pure (.abort .invalidOperand)
  else if c.parameter 0 ≠ 0x00 ∨ c.parameter 1 ≠ 0x80 ∨ c.parameter 2 ≠ 0x45 then
    pure (.abort .invalidOperand)
  else if c.initiator = 0 ∧ c.parameter 3 = 0x06 ∧ 5 ≤ c.size ∧ c.parameter 4 = 0x05 then do
    update (powerUpEvent c.initiator)
    onSession (onWorld do
      setPowerStatus react 0 .on
      announceActiveSource)
    pure .handled
  else if c.initiator = 0 ∧ c.destination = 15 ∧ c.parameter 3 = 0x20 then do
    update (powerChanged c)
    onSession (onWorld (vlPowerChange react c))
    pure .handled
  else onSession (handleDeviceVendorCommandWithId c)

/-- `HandleFeatureAbort` of LG's handler, which asks for its own flag only when no operand came. -/
def slHandleFeatureAbort (c : Received) : Procedure Interaction Handling :=
  if c.size = 0 then onSession (CEC.slHandleFeatureAbort c)
  else onSession (CEC.handleFeatureAbort c)

/-- The function of the handler `h` for the opcode, with the menus and the keys. -/
def handlerFor (h : Handler) (c : Received) : Procedure Interaction Handling :=
  match c.opcode with
  | 0x8D => handleMenuRequest c
  | 0x44 => if h = .ph then phHandleUserControlPressed react c else handleUserControlPressed react c
  | 0x45 | 0x8B => if h = .ph then phHandleUserControlRelease c else handleUserControlRelease c
  | 0xA0 =>
    if h = .vl then vlHandleDeviceVendorCommandWithId react c
    else onSession (CEC.handlerFor react h c)
  | 0x00 => if h = .sl then slHandleFeatureAbort c else onSession (CEC.handlerFor react h c)
  | _ => onSession (CEC.handlerFor react h c)

/-! ### Without the menus and the keys -/

theorem erases_onSession {α : Type} (x : HandlerProc α) : Erases session (onSession x) x :=
  erases_zoom (fun _ _ => rfl) x

theorem menuRequested_session (c : Received) (s : Interaction) :
    (menuRequested c s).session = s.session := by
  unfold menuRequested
  split <;> rfl

theorem updateKeys_session (c : Received) (f : Configuration → ℤ → KeyState → KeyState)
    (s : Interaction) : (updateKeys c f s).session = s.session := by
  unfold updateKeys
  split <;> rfl

theorem closeMenu_session (c : Received) (s : Interaction) :
    (closeMenu c s).session = s.session := by
  unfold closeMenu
  split <;> rfl

theorem powerChanged_session (c : Received) (s : Interaction) :
    (powerChanged c s).session = s.session := by
  unfold powerChanged
  split
  · rfl
  · split <;> rfl

theorem erases_handleMenuRequest (c : Received) :
    Erases session (handleMenuRequest c) (onWorld (CEC.handleMenuRequest c)) := by
  rw [onWorld, CEC.handleMenuRequest, reply, zoom_bind isPart_world, zoom_ask isPart_world]
  refine erases_bind (erases_ask fun s : Session => s.world.responds c) fun responds => ?_
  cases responds
  · rw [if_neg Bool.false_ne_true, if_neg Bool.false_ne_true, zoom_pure isPart_world]
    exact erases_pure _
  · simp only [if_true, zoom_bind isPart_world, zoom_pure isPart_world]
    exact erases_record (menuRequested_session c)
      (erases_bind (erases_onSession _) fun _ => erases_pure _)

theorem erases_handleUserControlRelease (c : Received) :
    Erases session (handleUserControlRelease c) (onWorld (CEC.handleUserControlRelease c)) := by
  rw [onWorld, CEC.handleUserControlRelease, zoom_bind isPart_world, zoom_ask isPart_world]
  refine erases_bind (erases_ask fun s : Session => s.world.responds c) fun responds => ?_
  rw [zoom_pure isPart_world]
  cases responds
  · exact erases_pure _
  · exact erases_record (updateKeys_session c _) (erases_pure _)

theorem erases_handleUserControlPressed (c : Received) :
    Erases session (handleUserControlPressed react c)
      (onWorld (CEC.handleUserControlPressed react c)) := by
  have hbase := erases_onSession (onWorld (CEC.handleUserControlPressed react c))
  intro s
  rw [handleUserControlPressed, ask_bind]
  unfold callWhen callOr
  split
  · exact erases_record (updateKeys_session c _) (erases_record (closeMenu_session c) hbase) s
  · exact hbase s

theorem erases_vlHandleDeviceVendorCommandWithId (c : Received) :
    Erases session (vlHandleDeviceVendorCommandWithId react c)
      (CEC.vlHandleDeviceVendorCommandWithId react c) := by
  refine erases_bind (erases_ask fun s : Session => s.world.isHandled c.destination)
    fun handled => erases_ite (erases_pure _) ?_
  refine erases_ite (erases_pure _) (erases_ite ?_ (erases_ite ?_ (erases_onSession _)))
  · exact erases_record (g := powerUpEvent c.initiator) (fun _ => rfl)
      (erases_bind (erases_onSession _) fun _ => erases_pure _)
  · exact erases_record (powerChanged_session c)
      (erases_bind (erases_onSession _) fun _ => erases_pure _)

/-- The functions are those of the session, with the menus and the keys beside it. -/
theorem erases_handlerFor {h : Handler} {c : Received} (hkey : c.opcode = 0x44 → h ≠ .ph)
    (habort : c.opcode = 0x00 → h ≠ .sl) :
    Erases session (handlerFor react h c) (CEC.handlerFor react h c) := by
  have hrelease : Erases session
      (if h = .ph then phHandleUserControlRelease c else handleUserControlRelease c)
      (onWorld (CEC.handleUserControlRelease c)) := by
    split
    · exact erases_record (g := setLastKeyCode c.initiator keyUnknown) (fun _ => rfl)
        (erases_handleUserControlRelease c)
    · exact erases_handleUserControlRelease c
  unfold handlerFor
  split
  · next hop =>
    have hbase : CEC.handlerFor react h c = onWorld (CEC.handleMenuRequest c) := by
      unfold CEC.handlerFor
      rw [hop]
      rfl
    exact hbase ▸ erases_handleMenuRequest c
  · next hop =>
    have hbase : CEC.handlerFor react h c = onWorld (CEC.handleUserControlPressed react c) := by
      unfold CEC.handlerFor
      rw [hop]
      exact congrArg onWorld (if_neg (hkey hop))
    rw [if_neg (hkey hop), hbase]
    exact erases_handleUserControlPressed react c
  · next hop =>
    have hbase : CEC.handlerFor react h c = onWorld (CEC.handleUserControlRelease c) := by
      unfold CEC.handlerFor
      rw [hop]
      rfl
    exact hbase ▸ hrelease
  · next hop =>
    have hbase : CEC.handlerFor react h c = onWorld (CEC.handleUserControlRelease c) := by
      unfold CEC.handlerFor
      rw [hop]
      rfl
    exact hbase ▸ hrelease
  · next hop =>
    split
    · next hvl =>
      have hbase : CEC.handlerFor react h c = CEC.vlHandleDeviceVendorCommandWithId react c := by
        unfold CEC.handlerFor
        rw [hop, hvl]
        rfl
      exact hbase ▸ erases_vlHandleDeviceVendorCommandWithId react c
    · exact erases_onSession _
  · next hop =>
    rw [if_neg (habort hop)]
    exact erases_onSession _
  · exact erases_onSession _

/-- The session when the outside answers `o` first. -/
def answering (o : Outside) (t : Session) : Session :=
  { t with world := { t.world with
    outside := fun
      | 0 => o
      | n + 1 => t.world.outside n } }

theorem onWorld_ownFlag {α : Type} (k : Bool → Proc α) (o : Outside) (t : Session) :
    onWorld (ownFlag >>= k) (answering o t) = onWorld (k o.ownFlag) t := rfl

/-- Philips's function is that of the session, when the flag that the session asks for is whether
    the key is the last one. -/
theorem returns_phHandleUserControlPressed {c : Received} {s s' : Interaction} {v : Handling}
    {o : Outside} (ho : o.ownFlag = decide (s.lastKeyCode c.initiator = c.parameter 0))
    (h : Returns (phHandleUserControlPressed react c) s v s') :
    Returns (onWorld (CEC.phHandleUserControlPressed react c)) (answering o s.session) v
      s'.session := by
  have h := returns_ask_bind.mp h
  rw [← ho] at h
  rw [Returns, CEC.phHandleUserControlPressed, onWorld_ownFlag, onWorld, zoom_ite,
    zoom_pure isPart_world, zoom_bind isPart_world, zoom_callOr isPart_world,
    zoom_discard isPart_world]
  refine Erases.returns (erases_ite (erases_pure _) (erases_bind ?_ fun _ => ?_)) h
  · exact erases_callOr (erases_discard (erases_handleUserControlRelease c))
  · exact erases_record (g := setLastKeyCode c.initiator (c.parameter 0)) (fun _ => rfl)
      (erases_handleUserControlPressed react c)

/-- LG's function is that of the session, whatever the flag is that the session asks for. -/
theorem returns_slHandleFeatureAbort {c : Received} {s s' : Interaction} {v : Handling}
    (o : Outside) (hsize : c.size ≠ 0) (h : Returns (slHandleFeatureAbort c) s v s') :
    Returns (CEC.slHandleFeatureAbort c) (answering o s.session) v s'.session := by
  rw [slHandleFeatureAbort, if_neg hsize] at h
  obtain ⟨t, ht, rfl⟩ := returns_zoom.mp h
  refine returns_ask_bind.mpr (returns_bind.mpr ⟨o.ownFlag, s.session, rfl, ?_⟩)
  rw [if_neg fun hand => hsize hand.1]
  exact ht

end reactions

end Interaction

end CEC
