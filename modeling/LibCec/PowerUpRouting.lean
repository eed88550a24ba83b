import LibCec.VendorCommands
import LibCec.StreamPath

/-! The routes that Philips's handler claims while the TV powers up.

    The TV opens its power-up sequence by a route from its own address to itself, and settles on the
    port that it was last on. The handler claims that route for the active source of libCEC:

                      0 → 0                     0 → port of the active source
        PH_POWER_UNKNOWN ──▶ PH_POWERING_UP ──▶ claimed, still PH_POWERING_UP
              ▲                    │
              │ STANDBY            │ any other route of the TV
              └───────────── PH_POWERED_UP

    The branch that claims the route is the only one that leaves the state as it is. -/

namespace CEC
open Schemes Procedure

/-- `PHPowerUpState`. -/
inductive PHPowerUpState where
  | unknown | poweringUp | poweredUp
  deriving DecidableEq

/-- The world, and `m_powerUpState` of the handler of a Philips TV. -/
structure PhilipsTv where
  world : World
  powerUpState : PHPowerUpState

namespace PhilipsTv

/-- A call that does not touch the state of the handler. -/
def onBus {α : Type} (x : Proc α) : Procedure PhilipsTv α :=
  zoom world (fun w s => { s with world := w }) x

/-! ### The handler -/

/-- The tests of `ClaimRouteWhilePoweringUp`: the active source for which the route is claimed, if
    it is, and the state that they leave. -/
def claimedFor (p : PHPowerUpState) (w : World) (initiator : Fin 16)
    (iOldAddress iNewAddress : UInt16) : Option (Fin 16) × PHPowerUpState :=
  if initiator ≠ 0 ∨ p = .poweredUp then (none, p)
  -- the TV opens its power-up sequence by routing its own address to itself
  else if iOldAddress = physicalAddressTv ∧ iNewAddress = physicalAddressTv then (none, .poweringUp)
  else if iOldAddress ≠ physicalAddressTv ∨ p ≠ .poweringUp then (none, .poweredUp)
  else
    match w.activeSource with
    | none => (none, p)
    | some a =>
      let iActiveAddress := (w.devices a).physicalAddress
      if !w.isHandled a then (none, p)
      else if iActiveAddress = invalidPhysicalAddress ∨
          iActiveAddress &&& 0xF000 ≠ iNewAddress &&& 0xF000 then (none, .poweredUp)
      else (some a, p)

section reactions

variable (react : Reaction → Proc Unit)

/-- `ClaimRouteWhilePoweringUp`. -/
def claimRouteWhilePoweringUp (c : Received) (iOldAddress iNewAddress : UInt16) :
    Procedure PhilipsTv Bool := do
  let s ← ask id
  let result := claimedFor s.powerUpState s.world c.initiator iOldAddress iNewAddress
  update fun s => { s with powerUpState := result.2 }
  match result.1 with
  | none => pure false
  | some a => do
    onBus (setPowerStatus react c.initiator .on)
    discard (onBus (transmitActiveSource a))
    pure true

/-- `HandleRoutingChange`. -/
def handleRoutingChange (c : Received) : Procedure PhilipsTv Handling := do
  let claimed ← callOr (c.size = 4) false
    (claimRouteWhilePoweringUp react c (c.address 0) (c.address 2))
  if claimed then pure .handled else onBus (CEC.handleRoutingChange react c)

/-- `HandleSetStreamPath`. -/
def handleSetStreamPath (c : Received) : Procedure PhilipsTv Handling := do
  let claimed ← callOr (4 ≤ c.size) false
    (claimRouteWhilePoweringUp react c (c.address 0) (c.address 2))
  if claimed then pure .handled else onBus (CEC.handleSetStreamPath react c)

/-- `HandleStandby`. -/
def handleStandby (c : Received) : Procedure PhilipsTv Handling := do
  callWhen (c.initiator = 0) (update fun s => { s with powerUpState := .unknown })
  onBus (CEC.handleStandby react c)

end reactions

/-! ### Messages -/

/-- The messages that the handler's state depends on. -/
inductive Message where
  | routingChange (c : Received)
  | setStreamPath (c : Received)
  | standby (c : Received)

/-- A message, and the world in which it arrives. -/
structure Delivery where
  message : Message
  world : World

/-- The function of the handler for a message. -/
def handle (react : Reaction → Proc Unit) : Message → Procedure PhilipsTv Handling
  | .routingChange c => handleRoutingChange react c
  | .setStreamPath c => handleSetStreamPath react c
  | .standby c => handleStandby react c

/-- The normal handling of a message: the function of the base handler. -/
def normally (react : Reaction → Proc Unit) : Message → Proc Handling
  | .routingChange c => CEC.handleRoutingChange react c
  | .setStreamPath c => CEC.handleSetStreamPath react c
  | .standby c => CEC.handleStandby react c

/-- The route of a message, when the TV is the one that sent it. -/
def Message.route : Message → Option (UInt16 × UInt16)
  | .routingChange c =>
    if c.initiator = 0 ∧ c.size = 4 then some (c.address 0, c.address 2) else none
  | .setStreamPath c =>
    if c.initiator = 0 ∧ 4 ≤ c.size then some (c.address 0, c.address 2) else none
  | .standby _ => none

/-- The TV goes to standby. -/
def Message.isStandby : Message → Bool
  | .standby c => c.initiator = 0
  | _ => false

namespace Delivery

variable (d : Delivery)

/-- The active source for which the message is claimed, if it is, and the state that is left. -/
def step (p : PHPowerUpState) : Option (Fin 16) × PHPowerUpState :=
  match d.message.route with
  | some route => claimedFor p d.world 0 route.1 route.2
  | none => (none, if d.message.isStandby then .unknown else p)

/-- The TV opens its power-up sequence. -/
def Opens : Prop := d.message.route = some (physicalAddressTv, physicalAddressTv)

/-- The active source is one of libCEC's, and on the port of this address. -/
def SourceOnPort (iNewAddress : UInt16) (a : Fin 16) : Prop :=
  d.world.activeSource = some a ∧ d.world.isHandled a ∧
    (d.world.devices a).physicalAddress ≠ invalidPhysicalAddress ∧
    (d.world.devices a).physicalAddress &&& 0xF000 = iNewAddress &&& 0xF000

/-- The TV routes to the port of libCEC's active source, which is not its own address. -/
def Claimable : Prop := ∃ iNewAddress, d.message.route = some (physicalAddressTv, iNewAddress) ∧
  iNewAddress ≠ physicalAddressTv ∧ ∃ a, d.SourceOnPort iNewAddress a

/-- The TV goes to standby, or routes from another address than its own, or away from libCEC's
    active source. -/
def Ends : Prop := d.message.isStandby ∨ ∃ iOldAddress iNewAddress,
  d.message.route = some (iOldAddress, iNewAddress) ∧
    (iOldAddress ≠ physicalAddressTv ∨ iNewAddress ≠ physicalAddressTv ∧
      ∃ a, d.world.activeSource = some a ∧ d.world.isHandled a ∧ ¬d.SourceOnPort iNewAddress a)

end Delivery

/-- The state of the handler after these messages. -/
def stateAfter (ds : List Delivery) : PHPowerUpState := ds.foldl (fun p d => (d.step p).2) .unknown

/-- The message is claimed when it comes after the others. -/
def Claimed (past : List Delivery) (d : Delivery) : Prop := (d.step (stateAfter past)).1.isSome

instance (past : List Delivery) (d : Delivery) : Decidable (Claimed past d) :=
  inferInstanceAs (Decidable (_ = true))

instance (d : Delivery) : Decidable d.Opens := inferInstanceAs (Decidable (_ = _))

/-- No route is claimed before the TV has opened a power-up sequence, after one that is claimed none
    is before the next opening, and what is not claimed gets the normal handling. -/
structure ClaimedOnce (react : Reaction → Proc Unit) (ds : List Delivery) : Prop where
  opened : ∀ past d later, ds = past ++ d :: later → Claimed past d → ∃ x ∈ past, x.Opens
  once : ∀ past d mid d' later, ds = past ++ d :: mid ++ d' :: later → Claimed past d →
    Claimed (past ++ d :: mid) d' → ∃ x ∈ mid, x.Opens
  passed : ∀ past d later, ds = past ++ d :: later → ¬Claimed past d → ∀ r s',
    Returns (handle react d.message) ⟨d.world, stateAfter past⟩ r s' →
      Returns (normally react d.message) d.world r s'.world

/-- When a route arrives that can be claimed while the TV is powering up, no other one arrives before
    the next opening or the end of the sequence. -/
def SettlesOnce (ds : List Delivery) : Prop :=
  ∀ past d mid d' later, ds = past ++ d :: mid ++ d' :: later →
    stateAfter past = .poweringUp → d.Claimable → d'.Claimable → ∃ x ∈ mid, x.Opens ∨ x.Ends

/-! ### What the handler does with one message -/

section handler

variable {react : Reaction → Proc Unit} {p : PHPowerUpState} {w : World}

theorem claimedFor_of_not_tv {initiator : Fin 16} (h : initiator ≠ 0) (iOld iNew : UInt16) :
    claimedFor p w initiator iOld iNew = (none, p) := if_pos (.inl h)

/-- A route that is not claimed only changes the state. -/
theorem claimRoute_none (react : Reaction → Proc Unit) {c : Received} {iOld iNew : UInt16}
    (h : (claimedFor p w c.initiator iOld iNew).1 = none) :
    claimRouteWhilePoweringUp react c iOld iNew ⟨w, p⟩ =
      some (false, ⟨w, (claimedFor p w c.initiator iOld iNew).2⟩) := by
  unfold claimRouteWhilePoweringUp
  simp only [ask_bind, update_bind, id_eq, h]
  rfl

/-- One that is claimed leaves the TV on and the active source where it is. -/
theorem claimRoute_some {c : Received} {iOld iNew : UInt16} {a : Fin 16} {b : Bool} {s' : PhilipsTv}
    (h : (claimedFor p w c.initiator iOld iNew).1 = some a)
    (hret : Returns (claimRouteWhilePoweringUp react c iOld iNew) ⟨w, p⟩ b s') :
    b = true ∧ s'.powerUpState = (claimedFor p w c.initiator iOld iNew).2 ∧
      Returns (setPowerStatus react c.initiator .on >>= fun _ => discard (transmitActiveSource a)) w ()
        s'.world := by
  have hret := returns_ask_bind.mp hret
  have hret := returns_update_bind.mp hret
  simp only [id_eq, h] at hret
  obtain ⟨_, s₁, h₁, hret⟩ := returns_bind.mp hret
  obtain ⟨_, s₂, h₂, hret⟩ := returns_bind.mp hret
  obtain ⟨w₁, hpower, rfl⟩ := returns_zoom.mp h₁
  obtain ⟨_, h₂⟩ := returns_discard.mp h₂
  obtain ⟨w₂, hsource, rfl⟩ := returns_zoom.mp h₂
  obtain ⟨rfl, rfl⟩ := returns_pure.mp hret
  exact ⟨rfl, rfl, returns_bind.mpr ⟨(), w₁, hpower, returns_discard.mpr ⟨_, hsource⟩⟩⟩

/-- A handler that asks for a claim first, when the message is long enough. -/
theorem claimFirst {c : Received} {long : Prop} [Decidable long] {x : Proc Handling} {r : Handling}
    {s' : PhilipsTv}
    (h : Returns (callOr long false (claimRouteWhilePoweringUp react c (c.address 0) (c.address 2)) >>=
      fun claimed => if claimed then pure .handled else onBus x) ⟨w, p⟩ r s') :
    let result := if c.initiator = 0 ∧ long then claimedFor p w 0 (c.address 0) (c.address 2)
      else (none, p)
    s'.powerUpState = result.2 ∧ (result.1.isSome → r = .handled) ∧
      (result.1 = none → Returns x w r s'.world) := by
  obtain ⟨b, s₁, h₁, h⟩ := returns_bind.mp h
  -- without a claim the message goes on in the world it came in
  have hgoes : ∀ q, b = false → s₁ = ⟨w, q⟩ → s'.powerUpState = q ∧ Returns x w r s'.world := by
    rintro q rfl rfl
    rw [if_neg Bool.false_ne_true] at h
    obtain ⟨w', hx, rfl⟩ := returns_zoom.mp h
    exact ⟨rfl, hx⟩
  dsimp only
  rcases returns_callOr.mp h₁ with ⟨hlong, h₁⟩ | ⟨hshort, rfl, rfl⟩
  · by_cases htv : c.initiator = 0
    · rw [if_pos ⟨htv, hlong⟩, ← htv]
      cases hresult : (claimedFor p w c.initiator (c.address 0) (c.address 2)).1 with
      | none =>
        have hrun : Returns _ _ _ _ := claimRoute_none react hresult
        obtain ⟨hb, hs⟩ := hrun.unique h₁
        obtain ⟨hstate, hx⟩ := hgoes _ hb hs
        exact ⟨hstate, fun hsome => absurd hsome Bool.false_ne_true, fun _ => hx⟩
      | some a =>
        obtain ⟨rfl, hstate, -⟩ := claimRoute_some hresult h₁
        obtain ⟨rfl, rfl⟩ := returns_pure.mp h
        exact ⟨hstate, fun _ => rfl, fun hnone => by cases hnone⟩
    · have hresult := claimedFor_of_not_tv (p := p) (w := w) htv (c.address 0) (c.address 2)
      have hrun : Returns _ _ _ _ := claimRoute_none react (congrArg Prod.fst hresult)
      obtain ⟨hb, hs⟩ := hrun.unique h₁
      rw [hresult] at hs
      obtain ⟨hstate, hx⟩ := hgoes _ hb hs
      rw [if_neg (fun hboth => htv hboth.1)]
      exact ⟨hstate, fun hsome => absurd hsome Bool.false_ne_true, fun _ => hx⟩
  · obtain ⟨hstate, hx⟩ := hgoes p rfl rfl
    rw [if_neg (fun hboth => hshort hboth.2)]
    exact ⟨hstate, fun hsome => absurd hsome Bool.false_ne_true, fun _ => hx⟩

/-- A message that is claimed is handled, and any other one gets the normal handling. -/
theorem returns_handle {d : Delivery} {r : Handling} {s' : PhilipsTv}
    (h : Returns (handle react d.message) ⟨d.world, p⟩ r s') :
    s'.powerUpState = (d.step p).2 ∧ ((d.step p).1.isSome → r = .handled) ∧
      ((d.step p).1 = none → Returns (normally react d.message) d.world r s'.world) := by
  obtain ⟨m, w⟩ := d
  cases m with
  | routingChange c =>
    have hclaim := claimFirst h
    simp only [Delivery.step, Message.route, Message.isStandby, Bool.false_eq_true, if_false,
      normally]
    by_cases hroute : c.initiator = 0 ∧ c.size = 4
    · simp only [if_pos hroute] at hclaim ⊢
      exact hclaim
    · simp only [if_neg hroute] at hclaim ⊢
      exact hclaim
  | setStreamPath c =>
    have hclaim := claimFirst h
    simp only [Delivery.step, Message.route, Message.isStandby, Bool.false_eq_true, if_false,
      normally]
    by_cases hroute : c.initiator = 0 ∧ 4 ≤ c.size
    · simp only [if_pos hroute] at hclaim ⊢
      exact hclaim
    · simp only [if_neg hroute] at hclaim ⊢
      exact hclaim
  | standby c =>
    obtain ⟨_, s₁, h₁, h⟩ := returns_bind.mp h
    obtain ⟨w', hx, rfl⟩ := returns_zoom.mp h
    simp only [Delivery.step, Message.route, Message.isStandby, normally, decide_eq_true_eq]
    rcases returns_callOr.mp h₁ with ⟨htv, h₁⟩ | ⟨hother, -, rfl⟩
    · obtain rfl := returns_update.mp h₁
      exact ⟨(if_pos htv).symm, fun hsome => absurd hsome Bool.false_ne_true, fun _ => hx⟩
    · exact ⟨(if_neg hother).symm, fun hsome => absurd hsome Bool.false_ne_true, fun _ => hx⟩

end handler

/-! ### One message, and the state of the handler -/

section step

variable {d : Delivery} {p : PHPowerUpState}

theorem step_of_route {iOld iNew : UInt16} (h : d.message.route = some (iOld, iNew)) :
    d.step p = claimedFor p d.world 0 iOld iNew := by
  rw [Delivery.step, h]

theorem step_of_no_route (h : d.message.route = none) :
    d.step p = (none, if d.message.isStandby then .unknown else p) := by
  rw [Delivery.step, h]

theorem isStandby_eq_false {route : UInt16 × UInt16} (h : d.message.route = some route) :
    d.message.isStandby = false := by
  obtain ⟨m, w⟩ := d
  cases m with
  | routingChange c => rfl
  | setStreamPath c => rfl
  | standby c => cases h

/-- The route of an address to another one, while the TV is powering up. -/
theorem claimedFor_poweringUp {w : World} {iNew : UInt16} (hnew : iNew ≠ physicalAddressTv) :
    claimedFor .poweringUp w 0 physicalAddressTv iNew =
      match w.activeSource with
      | none => (none, .poweringUp)
      | some a =>
        let iActiveAddress := (w.devices a).physicalAddress
        if !w.isHandled a then (none, .poweringUp)
        else if iActiveAddress = invalidPhysicalAddress ∨
            iActiveAddress &&& 0xF000 ≠ iNew &&& 0xF000 then (none, .poweredUp)
        else (some a, .poweringUp) := by
  rw [claimedFor, if_neg (by decide), if_neg fun h => hnew h.2, if_neg (by decide)]

/-- Another state than `PH_POWERING_UP` is left for it by an opening only, and claims nothing. -/
theorem claimedFor_of_ne {w : World} (hp : p ≠ .poweringUp) (iOld iNew : UInt16) :
    (claimedFor p w 0 iOld iNew).1 = none ∧
      (¬(iOld = physicalAddressTv ∧ iNew = physicalAddressTv) →
        (claimedFor p w 0 iOld iNew).2 ≠ .poweringUp) := by
  rw [claimedFor]
  split_ifs with hlate hopen hclose
  · exact ⟨rfl, fun _ => hp⟩
  · exact ⟨rfl, fun h => absurd hopen h⟩
  · exact ⟨rfl, fun _ => by decide⟩
  · exact absurd (.inr hp) hclose

theorem claimable_iff_of_route {iOld iNew : UInt16} (h : d.message.route = some (iOld, iNew)) :
    d.Claimable ↔ iOld = physicalAddressTv ∧ iNew ≠ physicalAddressTv ∧
      ∃ a, d.SourceOnPort iNew a := by
  constructor
  · rintro ⟨n, hn, hnew, ha⟩
    obtain ⟨rfl, rfl⟩ := Prod.mk.inj (Option.some.inj (h.symm.trans hn))
    exact ⟨rfl, hnew, ha⟩
  · rintro ⟨rfl, hnew, ha⟩
    exact ⟨iNew, h, hnew, ha⟩

theorem ends_iff_of_route {iOld iNew : UInt16} (h : d.message.route = some (iOld, iNew)) :
    d.Ends ↔ iOld ≠ physicalAddressTv ∨ iNew ≠ physicalAddressTv ∧
      ∃ a, d.world.activeSource = some a ∧ d.world.isHandled a ∧ ¬d.SourceOnPort iNew a := by
  constructor
  · rintro (hstandby | ⟨o, n, hn, hend⟩)
    · rw [isStandby_eq_false h] at hstandby
      cases hstandby
    · obtain ⟨rfl, rfl⟩ := Prod.mk.inj (Option.some.inj (h.symm.trans hn))
      exact hend
  · exact fun hend => .inr ⟨iOld, iNew, h, hend⟩

theorem ends_iff_of_no_route (h : d.message.route = none) : d.Ends ↔ d.message.isStandby := by
  constructor
  · rintro (hstandby | ⟨o, n, hn, -⟩)
    · exact hstandby
    · rw [h] at hn
      cases hn
  · exact .inl

/-- While the TV is powering up a message is claimed, or ends the sequence, or changes nothing. -/
theorem step_poweringUp :
    (d.Claimable ∧ ¬d.Ends ∧ ∃ a, d.step .poweringUp = (some a, .poweringUp)) ∨
    (¬d.Claimable ∧ d.Ends ∧ ∃ q ≠ .poweringUp, d.step .poweringUp = (none, q)) ∨
    (¬d.Claimable ∧ ¬d.Ends ∧ d.step .poweringUp = (none, .poweringUp)) := by
  cases hroute : d.message.route with
  | none =>
    have hunclaimed : ¬d.Claimable := fun ⟨_, hsome, _⟩ => by
      rw [hroute] at hsome
      cases hsome
    rw [step_of_no_route hroute, ends_iff_of_no_route hroute]
    by_cases hstandby : d.message.isStandby
    · exact .inr (.inl ⟨hunclaimed, hstandby, .unknown, by decide, by rw [if_pos hstandby]⟩)
    · exact .inr (.inr ⟨hunclaimed, hstandby, by rw [if_neg hstandby]⟩)
  | some route =>
    obtain ⟨iOld, iNew⟩ := route
    rw [step_of_route hroute, claimable_iff_of_route hroute, ends_iff_of_route hroute]
    by_cases hold : iOld = physicalAddressTv
    swap
    · refine .inr (.inl ⟨fun h => hold h.1, .inl hold, .poweredUp, by decide, ?_⟩)
      rw [claimedFor, if_neg (by decide), if_neg fun h => hold h.1, if_pos (.inl hold)]
    subst hold
    by_cases hnew : iNew = physicalAddressTv
    · refine .inr (.inr ⟨fun h => h.2.1 hnew, ?_, ?_⟩)
      · rintro (h | h)
        · exact h rfl
        · exact h.1 hnew
      · rw [claimedFor, if_neg (by decide), if_pos ⟨rfl, hnew⟩]
    rw [claimedFor_poweringUp hnew]
    cases hactive : d.world.activeSource with
    | none =>
      refine .inr (.inr ⟨fun ⟨_, _, a, ha, _⟩ => ?_, ?_, rfl⟩)
      · rw [hactive] at ha
        cases ha
      · rintro (h | ⟨-, a, ha, -⟩)
        · exact h rfl
        · cases ha
    | some a =>
      have hone : ∀ b, d.SourceOnPort iNew b → b = a := fun b hb =>
        Option.some.inj (hb.1.symm.trans hactive)
      by_cases hhandled : d.world.isHandled a
      swap
      · refine .inr (.inr ⟨fun ⟨_, _, b, hb⟩ => hhandled (hone b hb ▸ hb.2.1), ?_, ?_⟩)
        · rintro (h | ⟨-, b, hb, hb', -⟩)
          · exact h rfl
          · obtain rfl := Option.some.inj hb
            exact hhandled hb'
        · exact if_pos (by simpa using hhandled)
      have hnotOwn : ¬(!d.world.isHandled a) = true := by simpa using hhandled
      by_cases hport : d.SourceOnPort iNew a
      · refine .inl ⟨⟨rfl, hnew, a, hport⟩, ?_, a, ?_⟩
        · rintro (h | ⟨-, b, hb, -, hfar⟩)
          · exact h rfl
          · obtain rfl := Option.some.inj hb
            exact hfar hport
        · refine (if_neg hnotOwn).trans (if_neg ?_)
          rintro (hinvalid | hfar)
          · exact hport.2.2.1 hinvalid
          · exact hfar hport.2.2.2
      · refine .inr (.inl ⟨fun ⟨_, _, b, hb⟩ => hport (hone b hb ▸ hb),
          .inr ⟨hnew, a, rfl, hhandled, hport⟩, .poweredUp, by decide, ?_⟩)
        refine (if_neg hnotOwn).trans (if_pos ?_)
        by_contra hnear
        rw [not_or, not_not] at hnear
        exact hport ⟨hactive, hhandled, hnear⟩

theorem claimed_iff : (d.step p).1.isSome ↔ p = .poweringUp ∧ d.Claimable := by
  by_cases hp : p = .poweringUp
  · subst hp
    rcases step_poweringUp (d := d) with ⟨hclaim, -, a, hstep⟩ | ⟨hclaim, -, q, -, hstep⟩ |
      ⟨hclaim, -, hstep⟩
    · simp [hstep, hclaim]
    · simp [hstep, hclaim]
    · simp [hstep, hclaim]
  · have hnone : (d.step p).1 = none := by
      cases hroute : d.message.route with
      | none => rw [step_of_no_route hroute]
      | some route => rw [step_of_route hroute, (claimedFor_of_ne hp _ _).1]
    rw [hnone]
    exact ⟨fun h => absurd h Bool.false_ne_true, fun h => absurd h.1 hp⟩

/-- The sequence goes on exactly when the message does not end it. -/
theorem stays_iff : (d.step .poweringUp).2 = .poweringUp ↔ ¬d.Ends := by
  rcases step_poweringUp (d := d) with ⟨-, hend, a, hstep⟩ | ⟨-, hend, q, hq, hstep⟩ |
    ⟨-, hend, hstep⟩
  · simp [hstep, hend]
  · simp [hstep, hend, hq]
  · simp [hstep, hend]

theorem Delivery.Claimable.not_ends (h : d.Claimable) : ¬d.Ends := by
  rcases step_poweringUp (d := d) with ⟨-, hend, -⟩ | ⟨hclaim, -⟩ | ⟨hclaim, -⟩
  · exact hend
  · exact absurd h hclaim
  · exact absurd h hclaim

/-- Only an opening starts a sequence. -/
theorem step_ne_poweringUp (hp : p ≠ .poweringUp) (h : ¬d.Opens) : (d.step p).2 ≠ .poweringUp := by
  cases hroute : d.message.route with
  | none =>
    rw [step_of_no_route hroute]
    dsimp only
    split_ifs
    · decide
    · exact hp
  | some route =>
    obtain ⟨iOld, iNew⟩ := route
    rw [step_of_route hroute]
    refine (claimedFor_of_ne hp iOld iNew).2 fun hopen => h ?_
    rw [Delivery.Opens, hroute, hopen.1, hopen.2]

end step

/-! ### The handler of the session -/

section session

variable {react : Reaction → Proc Unit} {p : PHPowerUpState} {w : World} {c : Received}
  {iOld iNew : UInt16}

/-- The world when the outside answers `o` first. -/
def answering (o : Outside) (w : World) : World :=
  { w with outside := fun n => if n = 0 then o else w.outside (n - 1) }

theorem ownFlag_answering {α : Type} (k : Bool → Proc α) (o : Outside) (w : World) :
    (ownFlag >>= k) (answering o w) = k o.ownFlag w := rfl

/-- Only a route of the TV from its own address to another one is claimed, while it powers up. -/
theorem claimedFor_none {initiator : Fin 16} (h : initiator ≠ 0 ∨ p = .poweredUp ∨
      iOld ≠ physicalAddressTv ∨ iNew = physicalAddressTv ∨ p ≠ .poweringUp) :
    (claimedFor p w initiator iOld iNew).1 = none := by
  rw [claimedFor]
  split_ifs with hearly hopen hclose
  · rfl
  · rfl
  · rfl
  · obtain ⟨hold, hpowering⟩ := not_or.mp hclose
    rcases h with h | h | h | h | h
    · exact absurd (.inl h) hearly
    · exact absurd (.inr h) hearly
    · exact absurd h hold
    · exact absurd ⟨not_not.mp hold, h⟩ hopen
    · exact absurd h hpowering

/-- `ClaimRouteWhilePoweringUp` is that of the session, when the flags that the session asks for are
    what the state is. -/
theorem returns_claimRouteWhilePoweringUp {o o' : Outside} (ho : o.ownFlag = decide (p = .poweredUp))
    (ho' : o'.ownFlag = decide (p = .poweringUp)) {b : Bool} {s' : PhilipsTv}
    (h : Returns (claimRouteWhilePoweringUp react c iOld iNew) ⟨w, p⟩ b s') :
    Returns (CEC.claimRouteWhilePoweringUp react c iOld iNew) (answering o (answering o' w)) b
      s'.world := by
  rw [Returns, CEC.claimRouteWhilePoweringUp, ownFlag_answering, ownFlag_answering, ask_bind, ho, ho']
  simp only [decide_eq_true_eq, Bool.not_eq_true', decide_eq_false_iff_not]
  by_cases hcond : c.initiator ≠ 0 ∨ p = .poweredUp ∨ iOld ≠ physicalAddressTv ∨
      iNew = physicalAddressTv ∨ p ≠ .poweringUp
  · have hrun : Returns _ _ _ _ := claimRoute_none react (claimedFor_none (w := w) hcond)
    obtain ⟨rfl, rfl⟩ := hrun.unique h
    rw [if_pos hcond]
    rfl
  · rw [if_neg hcond]
    simp only [not_or, not_not] at hcond
    obtain ⟨htv, -, rfl, hnew, rfl⟩ := hcond
    have hclaimed := claimedFor_poweringUp (w := w) hnew
    rw [← htv] at hclaimed
    cases hactive : w.activeSource with
    | none =>
      rw [hactive] at hclaimed
      have hrun : Returns _ _ _ _ := claimRoute_none react (congrArg Prod.fst hclaimed)
      obtain ⟨rfl, rfl⟩ := hrun.unique h
      rfl
    | some a =>
      rw [hactive] at hclaimed
      dsimp only at hclaimed ⊢
      rw [ask_bind, ask_bind]
      by_cases hfar : w.isHandled a = false ∨ (w.devices a).physicalAddress = invalidPhysicalAddress ∨
          (w.devices a).physicalAddress &&& 0xF000 ≠ iNew &&& 0xF000
      · have hnone : (claimedFor .poweringUp w c.initiator physicalAddressTv iNew).1 = none := by
          rw [hclaimed]
          split_ifs with hforeign hport
          · rfl
          · rfl
          · rw [Bool.not_eq_true'] at hforeign
            exact absurd hfar (not_or.mpr ⟨hforeign, hport⟩)
        have hrun : Returns _ _ _ _ := claimRoute_none react hnone
        obtain ⟨rfl, rfl⟩ := hrun.unique h
        rw [if_pos hfar]
        rfl
      · have hsome : (claimedFor .poweringUp w c.initiator physicalAddressTv iNew).1 = some a := by
          rw [not_or, ← Bool.not_eq_true'] at hfar
          rw [hclaimed, if_neg hfar.1, if_neg hfar.2]
        obtain ⟨rfl, -, hcalls⟩ := claimRoute_some hsome h
        rw [if_neg hfar]
        obtain ⟨_, w₁, hpower, hsource⟩ := returns_bind.mp hcalls
        exact returns_bind.mpr ⟨(), w₁, hpower, returns_bind.mpr ⟨(), _, hsource, rfl⟩⟩

end session

/-! ### The state of the handler over a run -/

section run

variable {react : Reaction → Proc Unit} {past mid : List Delivery} {d : Delivery}

/-- The state after some more messages. -/
def stateFrom (p : PHPowerUpState) (ds : List Delivery) : PHPowerUpState :=
  ds.foldl (fun p d => (d.step p).2) p

theorem stateAfter_append (past mid : List Delivery) :
    stateAfter (past ++ mid) = stateFrom (stateAfter past) mid := List.foldl_append

/-- A handler that is not in a sequence gets into one by an opening only. -/
theorem stateFrom_ne : ∀ (mid : List Delivery) {p : PHPowerUpState}, p ≠ .poweringUp →
    (∀ x ∈ mid, ¬x.Opens) → stateFrom p mid ≠ .poweringUp
  | [], _, hp, _ => hp
  | x :: mid, _, hp, h => stateFrom_ne mid (step_ne_poweringUp hp (h x List.mem_cons_self))
      fun y hy => h y (List.mem_cons_of_mem x hy)

/-- A sequence goes on until a message ends it. -/
theorem stateFrom_poweringUp : ∀ (mid : List Delivery), (∀ x ∈ mid, ¬x.Ends) →
    stateFrom .poweringUp mid = .poweringUp
  | [], _ => rfl
  | x :: mid, h => by
    have hstay := stays_iff.mpr (h x List.mem_cons_self)
    have hrest := stateFrom_poweringUp mid fun y hy => h y (List.mem_cons_of_mem x hy)
    calc stateFrom .poweringUp (x :: mid) = stateFrom (x.step .poweringUp).2 mid := rfl
      _ = .poweringUp := by rw [hstay, hrest]

/-- One that still goes on has not been ended, unless it was opened again. -/
theorem not_ends_of_stateFrom (mid : List Delivery) (hopen : ∀ x ∈ mid, ¬x.Opens)
    (hrun : stateFrom .poweringUp mid = .poweringUp) : ∀ x ∈ mid, ¬x.Ends := by
  induction mid with
  | nil =>
    intro y hy
    cases hy
  | cons x mid ih =>
    have hrest : ∀ y ∈ mid, ¬y.Opens := fun y hy => hopen y (List.mem_cons_of_mem x hy)
    have hsplit : stateFrom .poweringUp (x :: mid) = stateFrom (x.step .poweringUp).2 mid := rfl
    rw [hsplit] at hrun
    have hstay : (x.step .poweringUp).2 = .poweringUp := by
      by_contra hleft
      exact stateFrom_ne mid hleft hrest hrun
    rw [hstay] at hrun
    intro y hy
    rcases List.mem_cons.mp hy with rfl | hy
    · exact stays_iff.mp hstay
    · exact ih hrest hrun y hy

theorem claimed_opened (h : Claimed past d) : ∃ x ∈ past, x.Opens := by
  by_contra hno
  push Not at hno
  have hstart : PHPowerUpState.unknown ≠ .poweringUp := by decide
  exact stateFrom_ne past hstart hno (claimed_iff.mp h).1

/-- After a claim, the state in which the next message of the sequence arrives. -/
theorem stateAfter_claimed (h : Claimed past d) (mid : List Delivery) :
    stateAfter (past ++ d :: mid) = stateFrom .poweringUp mid := by
  obtain ⟨hstate, hclaim⟩ := claimed_iff.mp h
  calc stateAfter (past ++ d :: mid)
      = stateFrom (d.step (stateAfter past)).2 mid := stateAfter_append past (d :: mid)
    _ = stateFrom .poweringUp mid := by rw [hstate, stays_iff.mpr hclaim.not_ends]

end run

/-! ### The property -/

theorem SettlesOnce.once {ds past mid later : List Delivery} {d d' : Delivery}
    (h : SettlesOnce ds) (hds : ds = past ++ d :: mid ++ d' :: later) (hd : Claimed past d)
    (hd' : Claimed (past ++ d :: mid) d') : ∃ x ∈ mid, x.Opens := by
  by_contra hno
  push Not at hno
  obtain ⟨hstate, hclaim⟩ := claimed_iff.mp hd
  obtain ⟨hstate', hclaim'⟩ := claimed_iff.mp hd'
  rw [stateAfter_claimed hd] at hstate'
  obtain ⟨x, hx, hopen | hend⟩ := h past d mid d' later hds hstate hclaim hclaim'
  · exact hno x hx hopen
  · exact not_ends_of_stateFrom mid hno hstate' x hx hend

theorem ClaimedOnce.settles {react : Reaction → Proc Unit} {ds : List Delivery}
    (h : ClaimedOnce react ds) : SettlesOnce ds := by
  intro past d mid d' later hds hstate hd hd'
  by_contra hno
  push Not at hno
  have hclaimed : Claimed past d := claimed_iff.mpr ⟨hstate, hd⟩
  have hgoesOn : stateFrom .poweringUp mid = .poweringUp :=
    stateFrom_poweringUp mid fun x hx => (hno x hx).2
  have hagain : Claimed (past ++ d :: mid) d' :=
    claimed_iff.mpr ⟨(stateAfter_claimed hclaimed mid).trans hgoesOn, hd'⟩
  obtain ⟨x, hx, hopen⟩ := h.once past d mid d' later hds hclaimed hagain
  exact (hno x hx).1 hopen

/-- The routes are claimed once for every opening exactly when the TV settles once; the handler runs
    through the states of the run and answers what it claims. -/
theorem claimedOnce_iff (react : Reaction → Proc Unit) (ds : List Delivery) :
    (ClaimedOnce react ds ↔ SettlesOnce ds) ∧
    ∀ past d r s', Returns (handle react d.message) ⟨d.world, stateAfter past⟩ r s' →
      s'.powerUpState = stateAfter (past ++ [d]) ∧ (Claimed past d → r = .handled) := by
  refine ⟨⟨fun h => h.settles, fun h => ⟨?_, ?_, ?_⟩⟩, ?_⟩
  · exact fun past d later _ hd => claimed_opened hd
  · exact fun past d mid d' later hds hd hd' => h.once hds hd hd'
  · intro past d later _ hunclaimed r s' hret
    exact (returns_handle hret).2.2 (Option.not_isSome_iff_eq_none.mp hunclaimed)
  · intro past d r s' hret
    obtain ⟨hstate, hclaimed, -⟩ := returns_handle hret
    exact ⟨hstate.trans (stateAfter_append past [d]).symm, hclaimed⟩

/-- The TV routes from its own address to this one. -/
def routeTo (high low : UInt8) : Delivery :=
  ⟨.routingChange ⟨0, 15, true, 0x80, BoundedBuffer.empty.pushAll [0, 0, high, low]⟩, switchedWorld⟩

/-- Powered up on the port of libCEC's active source, the TV is switched to another device behind
    that port: the second route is claimed as well. -/
theorem not_claimedOnce : ¬ ∀ react ds, ClaimedOnce react ds := by
  intro h
  have hrun := h (react 1) ([routeTo 0 0] ++ routeTo 0x12 0 :: [] ++ [routeTo 0x13 0])
  obtain ⟨x, hx, -⟩ := hrun.once [routeTo 0 0] (routeTo 0x12 0) [] (routeTo 0x13 0) [] rfl
    (by decide +kernel) (by decide +kernel)
  cases hx

end PhilipsTv

end CEC
