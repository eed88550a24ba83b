import LibCec.KeySteps
import LibCec.VendorCommands

/-! Where `m_bSeenButtonRelease` comes from.

    A client that has seen a release relies on its device to send them, and waits longer before it
    makes one up. The flag is set by `AddKey(false, true)`, which the base handler calls for
    USER_CONTROL_RELEASE and VENDOR_REMOTE_BUTTON_UP. A command is handled by the handler of the
    device that sent it:

        any      USER_CONTROL_RELEASE, VENDOR_REMOTE_BUTTON_UP ──▶ AddKey(false, true)
        base     USER_CONTROL_PRESSED ──▶ SetCurrentButton
        Philips  USER_CONTROL_PRESSED, the same key again ──▶ AddKey(false, true), SetCurrentButton
        Samsung  VENDOR_REMOTE_BUTTON_DOWN ──▶ AddKey(key)
        Toshiba  VENDOR_COMMAND_WITH_ID ──▶ SetCurrentButton, AddKey()

    `evidenceReal_iff` says that the release that Philips's handler makes up is the only one that
    passes for a real one. -/

namespace CEC
open Schemes

namespace ReleaseEvidence

/-- The handlers of the devices, the clients at the addresses, and the keys of each client. -/
structure KeyDevices where
  handler : Fin 16 → Handler
  /-- `m_iLastKeyCode`, which only Philips's handler has -/
  iLastKeyCode : Fin 16 → UInt8
  clients : Fin 16 → Option ClientId
  keys : ClientId → KeyState

namespace KeyDevices

/-- No client is registered, and no device has a handler of its vendor. -/
def init : KeyDevices := ⟨fun _ => .base, fun _ => keyUnknown, fun _ => none, fun _ => .reset⟩

/-- A call of the client, if there is one. -/
def onClient (c : Option ClientId) (f : ClientId → KeyState → KeyState) (s : KeyDevices) :
    KeyDevices :=
  match c with
  | some c => { s with keys := Function.update s.keys c (f c (s.keys c)) }
  | none => s

/-- The flag of a client. -/
def seen (s : KeyDevices) (c : ClientId) : Bool := (s.keys c).seenButtonRelease

end KeyDevices

open KeyDevices

/-- A received command, with what the processor and the callbacks answer when it is handled. -/
structure Arrival where
  now : ℤ
  command : Received
  /-- `CECInitialised` -/
  initialised : Bool
  /-- `IsHandledByLibCEC` of the destination -/
  handled : Bool
  /-- a client's `commandHandler` takes the command -/
  taken : Bool

/-- What happens to the clients and the handlers. -/
inductive KeyDeviceEvent where
  | received (a : Arrival)
  | checkKeypressTimeout (now : ℤ) (c : ClientId)
  /-- `OnUnregister` -/
  | unregister (c : ClientId)
  /-- an address gets another client, or none -/
  | assign (a : Fin 16) (c : Option ClientId)
  /-- `ReplaceHandler` -/
  | replaceHandler (a : Fin 16) (h : Handler)

section Handlers

variable (cfg : ClientId → Configuration)

/-- `CCECCommandHandler::HandleUserControlRelease`. -/
def handleUserControlRelease (a : Arrival) (s : KeyDevices) : KeyDevices :=
  if a.initialised ∧ a.handled then
    s.onClient (s.clients a.command.destination) fun c => addKey (cfg c) a.now false true
  else s

/-- `CCECCommandHandler::HandleUserControlPressed`, up to the key that the client is given. -/
def handleUserControlPressed (a : Arrival) (s : KeyDevices) : KeyDevices :=
  if a.initialised ∧ a.handled ∧ a.command.size ≠ 0 then
    s.onClient (s.clients a.command.destination) fun c =>
      addKeypress (cfg c) a.now ⟨a.command.parameter 0, 0⟩
  else s

/-- `CPHCommandHandler::HandleUserControlPressed`: the TV sends no release while a button is held, so
    one is made up. -/
def phHandleUserControlPressed (a : Arrival) (s : KeyDevices) : KeyDevices :=
  let key := a.command.parameter 0
  let pressed (s : KeyDevices) : KeyDevices :=
    handleUserControlPressed cfg a
      { s with iLastKeyCode := Function.update s.iLastKeyCode a.command.initiator key }
  if s.iLastKeyCode a.command.initiator = key then
    if mayRepeat key then pressed (handleUserControlRelease cfg a s) else s
  else pressed s

/-- `CPHCommandHandler::HandleUserControlRelease`. -/
def phHandleUserControlRelease (a : Arrival) (s : KeyDevices) : KeyDevices :=
  handleUserControlRelease cfg a
    { s with iLastKeyCode := Function.update s.iLastKeyCode a.command.initiator keyUnknown }

/-- `CANCommandHandler::HandleVendorRemoteButtonDown`. -/
def anHandleVendorRemoteButtonDown (a : Arrival) (s : KeyDevices) : KeyDevices :=
  if a.command.size ≠ 0 ∧ a.initialised then
    s.onClient (s.clients a.command.destination) fun c =>
      addKeypress (cfg c) a.now ⟨a.command.parameter 0, 500⟩
  else s

/-- `CRLCommandHandler::HandleDeviceVendorCommandWithId`: the keys of Toshiba's own commands. -/
def rlHandleDeviceVendorCommandWithId (a : Arrival) (s : KeyDevices) : KeyDevices :=
  let c := a.command
  if ¬ a.handled ∧ c.destination ≠ 15 then s
  else if c.size < 4 then s
  else if c.parameter 0 ≠ 0x00 ∨ c.parameter 1 ≠ 0x00 ∨ c.parameter 2 ≠ 0x39 then s
  else if c.parameter 3 = 0x44 then
    if c.size = 5 ∧ (c.parameter 4 = 0x10 ∨ c.parameter 4 = 0x11) then
      s.onClient (s.clients c.destination) fun client =>
        addKeypress (cfg client) a.now ⟨c.parameter 4, 0⟩
    else s
  else if c.parameter 3 = 0x45 then
    s.onClient (s.clients c.destination) fun client => addKey (cfg client) a.now false false
  else s

/-- `HandleCommand`, for the commands that give a client a key. -/
def handleCommand (a : Arrival) (s : KeyDevices) : KeyDevices :=
  let h := s.handler a.command.initiator
  if ¬ a.command.opcodeSet ∨ a.taken then s
  else if a.command.opcode = 0x44 then
    if h = .ph then phHandleUserControlPressed cfg a s else handleUserControlPressed cfg a s
  else if a.command.opcode = 0x45 ∨ a.command.opcode = 0x8B then
    if h = .ph then phHandleUserControlRelease cfg a s else handleUserControlRelease cfg a s
  else if a.command.opcode = 0x8A then
    if h = .an then anHandleVendorRemoteButtonDown cfg a s else s
  else if a.command.opcode = 0xA0 then
    if h = .rl then rlHandleDeviceVendorCommandWithId cfg a s else s
  else s

/-- `ResetKeypressState`. -/
def resetKeypressState (s : KeyState) : KeyState :=
  { KeyState.reset with callbackCalls := s.callbackCalls }

/-- One event. -/
def step (s : KeyDevices) : KeyDeviceEvent → KeyDevices
  | .received a => handleCommand cfg a s
  | .checkKeypressTimeout now c =>
    s.onClient (some c) fun c k => (CEC.checkKeypressTimeout (cfg c) now k).1
  | .unregister c => s.onClient (some c) fun _ => resetKeypressState
  | .assign a c => { s with clients := Function.update s.clients a c }
  | .replaceHandler a h =>
    { s with
      handler := Function.update s.handler a h
      iLastKeyCode := Function.update s.iLastKeyCode a keyUnknown }

/-- The state after a run. -/
abbrev run (es : List KeyDeviceEvent) : KeyDevices := es.foldl (step cfg) init

/-- A release for one of the client's addresses is received from the bus. -/
def isReleaseFor (s : KeyDevices) (c : ClientId) (e : KeyDeviceEvent) : Prop :=
  ∃ a, e = .received a ∧ a.command.opcodeSet ∧
    (a.command.opcode = 0x45 ∨ a.command.opcode = 0x8B) ∧ s.clients a.command.destination = some c

/-- A release for the client was received since its last `ResetKeypressState`. -/
def Evidence (es : List KeyDeviceEvent) (c : ClientId) : Prop :=
  ∃ past r later, es = past ++ r :: later ∧ isReleaseFor (run cfg past) c r ∧
    KeyDeviceEvent.unregister c ∉ later

/-- The flag of a client says that a release was received, and nothing else sets it. -/
def EvidenceReal (es : List KeyDeviceEvent) : Prop :=
  ∀ past later, es = past ++ later → ∀ c,
    ((run cfg past).seen c → Evidence cfg past c) ∧
    ∀ e es', later = e :: es' → ¬ (run cfg past).seen c → (run cfg (past ++ [e])).seen c →
      isReleaseFor (run cfg past) c e

/-- Philips's handler makes up a release for the client: its device sends the key that it sent
    last. -/
def makesUpRelease (s : KeyDevices) (c : ClientId) (e : KeyDeviceEvent) : Prop :=
  ∃ a, e = .received a ∧ a.command.opcodeSet ∧ ¬ a.taken ∧ a.command.opcode = 0x44 ∧
    s.handler a.command.initiator = .ph ∧
    s.iLastKeyCode a.command.initiator = a.command.parameter 0 ∧ mayRepeat (a.command.parameter 0) ∧
    a.initialised ∧ a.handled ∧ s.clients a.command.destination = some c

/-- A release is made up only for clients that have seen one. -/
def MadeUpAfterReal (es : List KeyDeviceEvent) : Prop :=
  ∀ past e later, es = past ++ e :: later → ∀ c, makesUpRelease (run cfg past) c e →
    (run cfg past).seen c

end Handlers

/-! ### The flag of one client -/

section Flag

variable {cfg : Configuration} {now : ℤ} {s : KeyState}

theorem seenButtonRelease_addKey (bSendComboKey bButtonRelease : Bool) :
    (addKey cfg now bSendComboKey bButtonRelease s).seenButtonRelease =
      (bButtonRelease || s.seenButtonRelease) := by
  by_cases h : sendsBack cfg now bSendComboKey s
  · rw [addKey_sent h]
    split <;> rfl
  · rw [addKey_kept h]
    rfl

theorem seenButtonRelease_changeKey (key : Keypress) :
    (changeKey cfg now key s).seenButtonRelease = s.seenButtonRelease := by
  have hadd : (if s.currentButton ≠ key.keycode then addKey cfg now false false s
      else s).seenButtonRelease = s.seenButtonRelease := by
    split
    · rw [seenButtonRelease_addKey, Bool.false_or]
    · rfl
  rw [← hadd]
  unfold changeKey
  simp only
  split
  · split <;> rfl
  · rfl

/-- A press is no evidence of a release. -/
theorem seenButtonRelease_addKeypress (key : Keypress) :
    (addKeypress cfg now key s).seenButtonRelease = s.seenButtonRelease := by
  by_cases hmax : key.keycode ≤ keyMax
  · have hsent : (sendCombo cfg now key s).seenButtonRelease = s.seenButtonRelease := by
      unfold sendCombo
      split
      · rw [seenButtonRelease_addKey, Bool.false_or]
      · rfl
    have hpressed : (if (sendCombo cfg now key s).currentButton = key.keycode then
          repeatKey cfg now (sendCombo cfg now key s)
        else changeKey cfg now (transmitKey cfg key s) (sendCombo cfg now key s)).seenButtonRelease =
        s.seenButtonRelease := by
      rw [← hsent]
      split
      · rfl
      · exact seenButtonRelease_changeKey _
    rw [addKeypress_eq hmax, ← hpressed]
    simp only
    split <;> rfl
  · rw [addKeypress, if_pos (UInt8.not_le.mp hmax), seenButtonRelease_addKey, Bool.false_or]

theorem seenButtonRelease_checkKeypressTimeout :
    (checkKeypressTimeout cfg now s).1.seenButtonRelease = s.seenButtonRelease := by
  rw [checkKeypressTimeout_eq]
  split
  · rfl
  · split
    · rfl
    · split
      · simp only
        split <;> rfl
      · split <;> rfl

end Flag

/-! ### One event -/

section Steps

variable {cfg : ClientId → Configuration} {s : KeyDevices} {c : ClientId} {a : Arrival}

theorem seen_onClient (o : Option ClientId) (f : ClientId → KeyState → KeyState) :
    (s.onClient o f).seen c =
      if o = some c then (f c (s.keys c)).seenButtonRelease else s.seen c := by
  unfold onClient seen
  cases o with
  | none => rfl
  | some c' =>
    by_cases h : c' = c
    · subst h
      simp
    · simp [Function.update_of_ne (Ne.symm h), h]

/-- A call that keeps the flag of the client it is made of keeps all flags. -/
theorem seen_onClient_kept {o : Option ClientId} {f : ClientId → KeyState → KeyState}
    (h : ∀ c k, (f c k).seenButtonRelease = k.seenButtonRelease) :
    (s.onClient o f).seen c = s.seen c := by
  rw [seen_onClient]
  split
  · exact h c _
  · rfl

theorem seen_handleUserControlRelease : (handleUserControlRelease cfg a s).seen c =
    (decide (a.initialised ∧ a.handled ∧ s.clients a.command.destination = some c) || s.seen c) := by
  unfold handleUserControlRelease
  by_cases h : a.initialised ∧ a.handled
  · rw [if_pos h, seen_onClient]
    by_cases hc : s.clients a.command.destination = some c
    · rw [if_pos hc, seenButtonRelease_addKey, decide_eq_true ⟨h.1, h.2, hc⟩]
      rfl
    · rw [if_neg hc, decide_eq_false fun h' => hc h'.2.2, Bool.false_or]
  · rw [if_neg h, decide_eq_false fun h' => h ⟨h'.1, h'.2.1⟩, Bool.false_or]

theorem seen_handleUserControlPressed :
    (handleUserControlPressed cfg a s).seen c = s.seen c := by
  unfold handleUserControlPressed
  split
  · exact seen_onClient_kept fun _ _ => seenButtonRelease_addKeypress _
  · rfl

theorem seen_anHandleVendorRemoteButtonDown :
    (anHandleVendorRemoteButtonDown cfg a s).seen c = s.seen c := by
  unfold anHandleVendorRemoteButtonDown
  split
  · exact seen_onClient_kept fun _ _ => seenButtonRelease_addKeypress _
  · rfl

theorem seen_rlHandleDeviceVendorCommandWithId :
    (rlHandleDeviceVendorCommandWithId cfg a s).seen c = s.seen c := by
  have hpress : ∀ o key,
      (s.onClient o fun client => addKeypress (cfg client) a.now key).seen c = s.seen c :=
    fun _ _ => seen_onClient_kept fun _ _ => seenButtonRelease_addKeypress _
  have hrelease : ∀ o,
      (s.onClient o fun client => addKey (cfg client) a.now false false).seen c = s.seen c :=
    fun _ => seen_onClient_kept fun _ _ => seenButtonRelease_addKey _ _
  unfold rlHandleDeviceVendorCommandWithId
  simp only
  split_ifs
  · rfl
  · rfl
  · rfl
  · exact hpress _ _
  · rfl
  · exact hrelease _
  · rfl

/-- A key of the Philips TV sets the flag iff a release is made up for it. -/
theorem seen_phHandleUserControlPressed : (phHandleUserControlPressed cfg a s).seen c =
    (decide (s.iLastKeyCode a.command.initiator = a.command.parameter 0 ∧
      mayRepeat (a.command.parameter 0) ∧ a.initialised ∧ a.handled ∧
      s.clients a.command.destination = some c) || s.seen c) := by
  unfold phHandleUserControlPressed
  simp only
  by_cases hlast : s.iLastKeyCode a.command.initiator = a.command.parameter 0
  · rw [if_pos hlast]
    by_cases hrepeat : mayRepeat (a.command.parameter 0)
    · rw [if_pos hrepeat, seen_handleUserControlPressed]
      change (handleUserControlRelease cfg a s).seen c = _
      rw [seen_handleUserControlRelease]
      simp only [hlast, hrepeat, true_and]
    · rw [if_neg hrepeat, decide_eq_false fun h => hrepeat h.2.1, Bool.false_or]
  · rw [if_neg hlast, seen_handleUserControlPressed, decide_eq_false fun h => hlast h.1,
      Bool.false_or]
    rfl

/-- A release that is made up sets the flag. -/
theorem seen_makesUpRelease {e : KeyDeviceEvent} (h : makesUpRelease s c e) :
    (step cfg s e).seen c = true := by
  obtain ⟨a, rfl, hset, htaken, hopcode, hhandler, hlast, hrepeat, hin, hhandled, hclient⟩ := h
  have hmade := @seen_phHandleUserControlPressed cfg s c a
  rw [decide_eq_true ⟨hlast, hrepeat, hin, hhandled, hclient⟩, Bool.true_or] at hmade
  change (handleCommand cfg a s).seen c = true
  unfold handleCommand
  simp only
  rw [if_neg (not_or.mpr ⟨not_not.mpr hset, htaken⟩), if_pos hopcode, if_pos hhandler]
  exact hmade

/-- What is made up is a press on the bus. -/
theorem not_isReleaseFor {e : KeyDeviceEvent} (h : makesUpRelease s c e) : ¬ isReleaseFor s c e := by
  obtain ⟨a, rfl, -, -, hopcode, -⟩ := h
  rintro ⟨a', ha, -, hrelease, -⟩
  cases ha
  rw [hopcode] at hrelease
  rcases hrelease with h | h
  · exact absurd h (by decide)
  · exact absurd h (by decide)

/-- The ways in which an event changes the flag of a client. -/
inductive FlagMove (s : KeyDevices) (c : ClientId) (e : KeyDeviceEvent) (s' : KeyDevices) : Prop
  | kept (flag : s'.seen c = s.seen c)
  | reset (event : e = .unregister c) (flag : s'.seen c = false)
  | released (event : isReleaseFor s c e) (flag : s'.seen c = true)
  | madeUp (event : makesUpRelease s c e) (flag : s'.seen c = true)

/-- The flag after a release that is handled by either handler. -/
theorem flagMove_release {s' : KeyDevices} (hset : a.command.opcodeSet)
    (hopcode : a.command.opcode = 0x45 ∨ a.command.opcode = 0x8B)
    (hs' : s'.seen c = (decide (a.initialised ∧ a.handled ∧
      s.clients a.command.destination = some c) || s.seen c)) :
    FlagMove s c (.received a) s' := by
  by_cases h : a.initialised ∧ a.handled ∧ s.clients a.command.destination = some c
  · rw [decide_eq_true h, Bool.true_or] at hs'
    exact .released ⟨a, rfl, hset, hopcode, h.2.2⟩ hs'
  · rw [decide_eq_false h, Bool.false_or] at hs'
    exact .kept hs'

/-- A flag changes by `OnUnregister`, a release from the bus, or one that is made up. -/
theorem flagMove (cfg : ClientId → Configuration) (s : KeyDevices) (c : ClientId)
    (e : KeyDeviceEvent) : FlagMove s c e (step cfg s e) := by
  cases e with
  | received a =>
    change FlagMove s c _ (handleCommand cfg a s)
    unfold handleCommand
    simp only
    by_cases hskip : ¬ a.command.opcodeSet ∨ a.taken
    · rw [if_pos hskip]
      exact .kept rfl
    rw [if_neg hskip]
    obtain ⟨hset, htaken⟩ := not_or.mp hskip
    have hset := not_not.mp hset
    by_cases hpressed : a.command.opcode = 0x44
    · rw [if_pos hpressed]
      by_cases hph : s.handler a.command.initiator = .ph
      · rw [if_pos hph]
        by_cases hmade : makesUpRelease s c (.received a)
        · refine .madeUp hmade ?_
          obtain ⟨a', ha, -, -, -, -, hmade⟩ := hmade
          cases ha
          rw [seen_phHandleUserControlPressed, decide_eq_true hmade, Bool.true_or]
        · refine .kept ?_
          rw [seen_phHandleUserControlPressed, decide_eq_false fun h =>
            hmade ⟨a, rfl, hset, htaken, hpressed, hph, h⟩, Bool.false_or]
      · rw [if_neg hph]
        exact .kept seen_handleUserControlPressed
    rw [if_neg hpressed]
    by_cases hrelease : a.command.opcode = 0x45 ∨ a.command.opcode = 0x8B
    · rw [if_pos hrelease]
      split
      · exact flagMove_release hset hrelease seen_handleUserControlRelease
      · exact flagMove_release hset hrelease seen_handleUserControlRelease
    rw [if_neg hrelease]
    split
    · split
      · exact .kept seen_anHandleVendorRemoteButtonDown
      · exact .kept rfl
    · split
      · split
        · exact .kept seen_rlHandleDeviceVendorCommandWithId
        · exact .kept rfl
      · exact .kept rfl
  | checkKeypressTimeout now c' =>
    refine .kept ?_
    change (s.onClient (some c') fun c k => (CEC.checkKeypressTimeout (cfg c) now k).1).seen c = _
    exact seen_onClient_kept fun _ _ => seenButtonRelease_checkKeypressTimeout
  | unregister c' =>
    by_cases h : c' = c
    · refine .reset (by rw [h]) ?_
      change (s.onClient (some c') fun _ => resetKeypressState).seen c = false
      rw [seen_onClient, if_pos (congrArg some h)]
      rfl
    · refine .kept ?_
      change (s.onClient (some c') fun _ => resetKeypressState).seen c = _
      rw [seen_onClient, if_neg fun h' => h (Option.some.inj h')]
  | assign a o => exact .kept rfl
  | replaceHandler a h => exact .kept rfl

end Steps

/-! ### Runs -/

section Runs

variable (cfg : ClientId → Configuration)

theorem run_concat (es : List KeyDeviceEvent) (e : KeyDeviceEvent) :
    run cfg (es ++ [e]) = step cfg (run cfg es) e := by
  rw [run, List.foldl_append, List.foldl_cons, List.foldl_nil]

variable {cfg}

theorem Evidence.concat {es : List KeyDeviceEvent} {c : ClientId} (h : Evidence cfg es c)
    {e : KeyDeviceEvent} (he : e ≠ .unregister c) : Evidence cfg (es ++ [e]) c := by
  obtain ⟨past, r, later, rfl, hr, hlater⟩ := h
  refine ⟨past, r, later ++ [e], by simp, hr, ?_⟩
  intro hmem
  rcases List.mem_append.mp hmem with hmem | hmem
  · exact hlater hmem
  · exact he (List.mem_singleton.mp hmem).symm

/-- As long as releases are made up only for clients that have seen one, a flag says that a release
    was received. -/
theorem evidence_of_seen {es : List KeyDeviceEvent} (h : MadeUpAfterReal cfg es) (c : ClientId)
    (hseen : (run cfg es).seen c) : Evidence cfg es c := by
  induction es using List.reverseRecOn with
  | nil => exact absurd hseen Bool.false_ne_true
  | append_singleton es e ih =>
    obtain ⟨hpast, hlast⟩ := (forall_split_concat (P := fun past (e : KeyDeviceEvent) =>
      ∀ c, makesUpRelease (run cfg past) c e → (run cfg past).seen c)).mp h
    have hsaw : (run cfg es).seen c → e ≠ .unregister c → Evidence cfg (es ++ [e]) c :=
      fun hs he => (ih hpast hs).concat he
    rw [run_concat] at hseen
    cases flagMove cfg (run cfg es) c e with
    | kept flag =>
      refine hsaw (flag ▸ hseen) ?_
      rintro rfl
      change ((run cfg es).onClient (some c) fun _ => resetKeypressState).seen c = true at hseen
      rw [seen_onClient, if_pos rfl] at hseen
      exact absurd hseen Bool.false_ne_true
    | reset event flag => exact absurd (flag.symm.trans hseen) Bool.false_ne_true
    | released event flag => exact ⟨es, e, [], rfl, event, List.not_mem_nil⟩
    | madeUp event flag =>
      refine hsaw (hlast c event) ?_
      rintro rfl
      obtain ⟨a, ha, -⟩ := event
      cases ha

/-- The flags tell of releases from the bus iff Philips's handler makes up releases only for clients
    that have seen one. -/
theorem evidenceReal_iff (cfg : ClientId → Configuration) (es : List KeyDeviceEvent) :
    EvidenceReal cfg es ↔ MadeUpAfterReal cfg es := by
  constructor
  · intro hreal past e later hes c hmade
    by_contra hseen
    have hset : (run cfg (past ++ [e])).seen c := by
      rw [run_concat]
      exact seen_makesUpRelease hmade
    exact not_isReleaseFor hmade ((hreal past (e :: later) hes c).2 e later rfl hseen hset)
  · rintro hmade past later rfl c
    have hpast : MadeUpAfterReal cfg past := by
      rintro before e after rfl
      exact hmade before e (after ++ later) (by simp)
    refine ⟨evidence_of_seen hpast c, ?_⟩
    rintro e es' rfl hseen hset
    rw [run_concat] at hset
    cases flagMove cfg (run cfg past) c e with
    | kept flag => exact absurd (flag ▸ hset) hseen
    | reset event flag => exact absurd (flag.symm.trans hset) Bool.false_ne_true
    | released event flag => exact event
    | madeUp event flag => exact absurd (hmade past e es' rfl c event) hseen

/-- UP from a Philips TV to the recorder at address 1. -/
def up (now : ℤ) : KeyDeviceEvent :=
  .received ⟨now, ⟨0, 1, true, 0x44, BoundedBuffer.empty.push 1⟩, true, true, false⟩

/-- A button that is held on the remote of a Philips TV. -/
theorem not_evidenceReal : ¬ ∀ (cfg : ClientId → Configuration) (es : List KeyDeviceEvent),
    EvidenceReal cfg es := by
  intro h
  have hreal := h (fun _ => .clear) [.replaceHandler 0 .ph, .assign 1 (some 7), up 1000, up 1450]
  obtain ⟨a, ha, -, hopcode, -⟩ :=
    (hreal [.replaceHandler 0 .ph, .assign 1 (some 7), up 1000] [up 1450] rfl 7).2 _ _ rfl
      (by decide +kernel) (by decide +kernel)
  cases ha
  rcases hopcode with h | h
  · exact absurd h (by decide)
  · exact absurd h (by decide)

end Runs

end ReleaseEvidence

end CEC
