import LibCec.Schemes.Erasure
import LibCec.TypeChange

/-! A client that is given a physical address, with a record of what it is told.

    `CCECClient::SetPhysicalAddress` takes an address in three steps, of which only the second one
    looks at whether it is valid:

        m_configuration ──▶ SetDevicePhysicalAddress ──▶ QueueConfigurationChanged
           unless it has it       unless it is invalid      always

    The adapter reports the invalid address when the cable is unplugged. -/

namespace CEC
open Schemes Procedure

/-- The world, and the configurations that were queued for the clients' callbacks. -/
structure Notifying where
  world : World
  notified : List (ClientId × Configuration)

/-- A call with a record of what the clients are told. -/
abbrev NotifyingProc (α : Type) := Procedure Notifying α

namespace Notifying

/-- A call that tells nobody. -/
def silently {α : Type} (x : Proc α) : NotifyingProc α :=
  zoom Notifying.world (fun w s => { s with world := w }) x

/-- `QueueConfigurationChanged`, for what a client is configured with. -/
def queueConfigurationChanged (c : ClientId) : NotifyingProc Unit :=
  update fun s => { s with notified := s.notified ++ [(c, s.world.configuration c)] }

variable (react : Reaction → Proc Unit)

/-- `SetPhysicalAddress` of a client. It returns true in any case. -/
def clientSetPhysicalAddress (c : ClientId) (pa : UInt16) : NotifyingProc Unit := do
  let m ← ask (·.world.configuration c)
  if m.iPhysicalAddress = pa then pure ()
  else
    silently (update (World.updateConfiguration c fun m => { m with iPhysicalAddress := pa }))
    silently (setDevicePhysicalAddress react c pa)
    queueConfigurationChanged c

/-- `HandlePhysicalAddressChanged`. -/
def handlePhysicalAddressChanged (iNewAddress : UInt16) : NotifyingProc Unit := do
  let w ← ask Notifying.world
  if w.stallCommunication then pure ()
  else match w.primaryClient with
  | some c => clientSetPhysicalAddress react c iNewAddress
  | none => pure ()

/-! ### Without the record -/

theorem erases_silently {α : Type} (x : Proc α) : Erases Notifying.world (silently x) x :=
  erases_zoom (fun _ _ => rfl) x

theorem erases_clientSetPhysicalAddress (c : ClientId) (pa : UInt16) :
    Erases Notifying.world (clientSetPhysicalAddress react c pa)
      (CEC.clientSetPhysicalAddress react c pa) := by
  refine erases_bind (erases_ask fun w : World => w.configuration c) fun m => ?_
  refine erases_ite (erases_pure _) ?_
  refine erases_bind (erases_silently _) fun _ => ?_
  -- telling the client is what comes last
  have hqueue : Erases Notifying.world (queueConfigurationChanged c) (pure ()) := fun _ => rfl
  have htold := erases_bind (erases_silently (setDevicePhysicalAddress react c pa)) fun _ => hqueue
  rwa [show (setDevicePhysicalAddress react c pa >>= fun _ => pure ()) =
    setDevicePhysicalAddress react c pa from bind_pure _] at htold

end Notifying

/-! ### All or nothing -/

/-- A valid address is that of the client and of every device that it controls; another one has left
    the configuration, the devices and what the clients were told as they were. -/
structure Atomic (c : ClientId) (pa : UInt16) (s s' : Notifying) : Prop where
  valid : isValidPhysicalAddress pa → ∀ a, s'.world.stored c a →
    (s'.world.configuration c).iPhysicalAddress = (s'.world.devices a).physicalAddress
  invalid : ¬isValidPhysicalAddress pa → s'.world.configuration c = s.world.configuration c ∧
    s'.world.devices = s.world.devices ∧ s'.notified = s.notified

/-- A valid address is not one that the client, but not each of its devices, has already; an invalid
    address is the one that the client has. -/
def Agreeing (c : ClientId) (pa : UInt16) (w : World) : Prop :=
  if isValidPhysicalAddress pa then
    (w.configuration c).iPhysicalAddress = pa → ∀ a, w.stored c a → (w.devices a).physicalAddress = pa
  else (w.configuration c).iPhysicalAddress = pa

section change

variable {react : Reaction → Proc Unit} {c : ClientId} {pa : UInt16} {s s' : Notifying}

/-- The address that the client has already. -/
theorem returns_same (hsame : (s.world.configuration c).iPhysicalAddress = pa) :
    Returns (Notifying.clientSetPhysicalAddress react c pa) s () s' ↔ s' = s := by
  rw [Notifying.clientSetPhysicalAddress, returns_ask_bind, if_pos hsame, returns_pure]
  exact and_iff_right rfl

/-- Another address goes to the configuration first, and to the client in the end. -/
theorem returns_changed (hne : (s.world.configuration c).iPhysicalAddress ≠ pa) :
    Returns (Notifying.clientSetPhysicalAddress react c pa) s () s' ↔
      ∃ w, Returns (setDevicePhysicalAddress react c pa)
          (s.world.updateConfiguration c fun m => { m with iPhysicalAddress := pa }) () w ∧
        s' = ⟨w, s.notified ++ [(c, w.configuration c)]⟩ := by
  rw [Notifying.clientSetPhysicalAddress, returns_ask_bind, if_neg hne, returns_bind]
  constructor
  · rintro ⟨_, s₁, h₁, h⟩
    obtain ⟨w₁, hw₁, rfl⟩ := returns_zoom.mp h₁
    obtain rfl := returns_update.mp hw₁
    obtain ⟨_, s₂, h₂, h⟩ := returns_bind.mp h
    obtain ⟨w, hw, rfl⟩ := returns_zoom.mp h₂
    exact ⟨w, hw, returns_update.mp h⟩
  · rintro ⟨w, hw, rfl⟩
    exact ⟨(), _, returns_zoom.mpr ⟨_, returns_update.mpr rfl, rfl⟩, returns_bind.mpr ⟨(), _,
      returns_zoom.mpr ⟨w, hw, rfl⟩, returns_update.mpr rfl⟩⟩

/-- An invalid address is refused by the devices only. -/
theorem returns_invalid (hpa : ¬isValidPhysicalAddress pa)
    (hne : (s.world.configuration c).iPhysicalAddress ≠ pa)
    (h : Returns (Notifying.clientSetPhysicalAddress react c pa) s () s') :
    s'.notified = s.notified ++ [(c, { s.world.configuration c with iPhysicalAddress := pa })] := by
  obtain ⟨w, hw, rfl⟩ := (returns_changed hne).mp h
  rw [setDevicePhysicalAddress, if_pos (by simpa using hpa)] at hw
  rw [(returns_pure.mp hw).2, configuration_updateConfiguration]

/-- Moving the devices leaves the clients as they are. -/
theorem client_setDevicePhysicalAddress (hreact : ∀ K, ReactionsKeep (BusFrame K) react)
    {w w' : World} (h : Returns (setDevicePhysicalAddress react c pa) w () w') :
    w'.client = w.client := by
  have hK := busFrame_composable ∅
  have hkeeps : Keeps (BusFrame ∅) (setDevicePhysicalAddress react c pa) := by
    refine keeps_ite (fun _ => keeps_pure hK _) fun _ => keeps_bind hK (keeps_ask hK _) fun v => ?_
    refine keeps_bind hK (keeps_readdress _ pa _ none fun _ _ => id) fun r => ?_
    cases r with
    | none => exact keeps_pure hK _
    | some a => exact keeps_callOr hK (keeps_discard (keeps_activateSource (hreact ∅) a 0))
  exact (hkeeps _ _ _ h).client

/-- The devices of the client are at the new address with it. -/
theorem address_of_returns_changed (hreact : ∀ K, ReactionsKeep (BusFrame K) react)
    (hpa : isValidPhysicalAddress pa) (hne : (s.world.configuration c).iPhysicalAddress ≠ pa)
    (h : Returns (Notifying.clientSetPhysicalAddress react c pa) s () s') {a : Fin 16}
    (ha : s'.world.stored c a) :
    (s'.world.configuration c).iPhysicalAddress = (s'.world.devices a).physicalAddress := by
  obtain ⟨w, hw, rfl⟩ := (returns_changed hne).mp h
  have hclient := client_setDevicePhysicalAddress hreact hw
  have hstored := stored_congr hclient c a
  rw [physicalAddress_setDevicePhysicalAddress hreact hpa hw a, ← hstored, if_pos ha,
    World.configuration, hclient]
  exact congrArg Configuration.iPhysicalAddress (configuration_updateConfiguration ..)

end change

/-- A change of the address is made as a whole or not at all, unless it is one that some devices have
    missed, or the address is an invalid one that the client does not have. -/
theorem addressChange_atomic_iff {n : ℕ} {c : ClientId} {pa : UInt16} {s s' : Notifying}
    (h : Returns (Notifying.clientSetPhysicalAddress (react n) c pa) s () s') :
    Atomic c pa s s' ↔ Agreeing c pa s.world := by
  have hreact := fun K => reactionsKeep_react (R := BusFrame K) n
  unfold Agreeing
  by_cases hsame : (s.world.configuration c).iPhysicalAddress = pa
  · obtain rfl := (returns_same hsame).mp h
    split
    · next hpa =>
      constructor
      · intro hatomic _ a ha
        rw [← hatomic.valid hpa a ha, hsame]
      · intro hdevices
        exact ⟨fun _ a ha => by rw [hdevices hsame a ha, hsame], fun hnot => absurd hpa hnot⟩
    · next hpa => exact iff_of_true ⟨fun hvalid => absurd hvalid hpa, fun _ => ⟨rfl, rfl, rfl⟩⟩ hsame
  · split
    · next hpa =>
      refine iff_of_true ⟨fun _ a ha => ?_, fun hnot => absurd hpa hnot⟩ fun heq => absurd heq hsame
      exact address_of_returns_changed hreact hpa hsame h ha
    · next hpa =>
      refine iff_of_false (fun hatomic => ?_) hsame
      have htold := returns_invalid hpa hsame h
      rw [(hatomic.invalid hpa).2.2] at htold
      simp at htold

/-- What the adapter reports when the cable is unplugged goes to the configuration of the primary
    client, which is told of it. -/
theorem not_atomic_of_unplugged {react : Reaction → Proc Unit} {c : ClientId} {s s' : Notifying}
    (hstall : s.world.stallCommunication = false) (hclient : s.world.primaryClient = some c)
    (hplugged : (s.world.configuration c).iPhysicalAddress ≠ invalidPhysicalAddress)
    (h : Returns (Notifying.handlePhysicalAddressChanged react invalidPhysicalAddress) s () s') :
    ¬Atomic c invalidPhysicalAddress s s' := by
  rw [Notifying.handlePhysicalAddressChanged, returns_ask_bind, hstall, hclient] at h
  intro hatomic
  have htold := returns_invalid (by decide) hplugged h
  rw [(hatomic.invalid (by decide)).2.2] at htold
  simp at htold

/-- A client with one device, which moves with it. -/
theorem addressChange_atomic_playback : ∃ s s' : Notifying, s.world.stored 0 4 ∧
    Returns (Notifying.clientSetPhysicalAddress (react 1) 0 0x2000) s () s' ∧
    Atomic 0 0x2000 s s' := by
  obtain ⟨_, w, hw⟩ := exists_returns (x := registerClient 1 0)
    (s := .start (fun _ => clientFor [.playbackDevice]) fun _ => .silent) (by decide)
  have hrun := hw.of_all (p := fun _ w => w.stored 0 4 &&
    decide ((w.configuration 0).iPhysicalAddress ≠ 0x2000) &&
    (Notifying.clientSetPhysicalAddress (react 1) 0 0x2000 ⟨w, []⟩).isSome) (by decide +kernel)
  simp only [Bool.and_eq_true, decide_eq_true_eq] at hrun
  obtain ⟨⟨hstored, hne⟩, hsome⟩ := hrun
  obtain ⟨_, s', h⟩ := exists_returns hsome
  refine ⟨⟨w, []⟩, s', hstored, h, (addressChange_atomic_iff h).mpr ?_⟩
  rw [Agreeing, if_pos (by decide)]
  exact fun hsame => absurd hsame hne

/-- An invalid address reaches a client that is at 1.0.0.0. -/
theorem address_not_atomic : ¬∀ (n : ℕ) (c : ClientId) (pa : UInt16) (s s' : Notifying),
    Returns (Notifying.clientSetPhysicalAddress (react n) c pa) s () s' → Atomic c pa s s' := by
  intro hall
  let s : Notifying := ⟨.start (fun _ => clientFor [.playbackDevice]) fun _ => .silent, []⟩
  obtain ⟨_, s', h⟩ := exists_returns
    (x := Notifying.clientSetPhysicalAddress (react 0) 0 invalidPhysicalAddress) (s := s) (by decide)
  have htold := h.of_all (p := fun _ s => s.notified.length = 1) (by decide)
  have hsilent := ((hall 0 0 _ s s' h).invalid (by decide)).2.2
  rw [hsilent] at htold
  exact absurd htold (by decide)

end CEC
