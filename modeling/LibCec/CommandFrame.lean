import LibCec.ClientFrame
import LibCec.VendorCommands

/-! Handling a command keeps the frame of the devices.

    Every function of the base and of the vendors' handlers is put together from what keeps the
    frame of the bus, so each has one lemma. A report of a physical address may move a client and
    keeps only the frame of the devices. `UniqueSource` is part of both, which is why at most one
    device is the active source after any run of commands, source switches and resets. -/

namespace CEC
open Schemes Procedure

theorem deviceFrame_composable : Composable DeviceFrame := ⟨.refl, .trans⟩

theorem keeps_deviceFrame {α : Type} {x : Proc α} (h : Keeps (BusFrame ∅) x) :
    Keeps DeviceFrame x := h.mono BusFrame.toDeviceFrame

variable {K : Set (Fin 16)}

/-! ### What the handlers share -/

theorem keeps_ownFlag : Keeps (BusFrame K) ownFlag :=
  keeps_bind (busFrame_composable K) keeps_observe fun _ => keeps_pure (busFrame_composable K) _

theorem keeps_reply {c : Received} {otherwise : AbortReason} {ofType : Bool} {x : Proc Unit}
    (hx : Keeps (BusFrame K) x) : Keeps (BusFrame K) (reply c otherwise ofType x) := by
  have hK := busFrame_composable K
  refine keeps_bind hK (keeps_ask hK _) fun responds => ?_
  refine keeps_ite (fun _ => ?_) fun _ => keeps_pure hK _
  refine keeps_ite (fun _ => ?_) fun _ => keeps_pure hK _
  exact keeps_bind hK hx fun _ => keeps_pure hK _

theorem keeps_report (accepted : Bool) : Keeps (BusFrame K) (report accepted) :=
  keeps_pure (busFrame_composable K) _

theorem keeps_setVendorId (a : Fin 16) (vendor : VendorId) :
    Keeps (BusFrame K) (setVendorId a vendor) :=
  keeps_update fun _ => busFrame_updateDevice (fun _ => rfl) (fun _ => rfl) (fun _ => id)
    fun _ _ => rfl

theorem keeps_scheduleActivateSource (a : Fin 16) :
    Keeps (BusFrame K) (scheduleActivateSource a) := by
  refine keeps_bind (busFrame_composable K) (keeps_replaceHandler a) fun _ => keeps_update fun s => ?_
  exact busFrame_updateDevice (fun _ => rfl) (fun _ => rfl) (fun _ => id) fun _ _ => rfl

theorem keeps_transmitVendorID (a : Fin 16) : Keeps (BusFrame K) (transmitVendorID a) := by
  have hK := busFrame_composable K
  refine keeps_bind hK (keeps_ask hK _) fun vendor => ?_
  exact keeps_callOr hK (keeps_transmit_discard a 15 0x87 false)

theorem keeps_setPhysicalAddress_any (a : Fin 16) (pa : UInt16) :
    Keeps (BusFrame ∅) (setPhysicalAddress a pa) := keeps_setPhysicalAddress (by simp) pa

/-- A broadcast polls nobody. -/
theorem returns_transmit_broadcast {a : Fin 16} {opcode : UInt8} {w w' : World} {v : Bool} :
    Returns (transmit a 15 opcode false) w v w' ↔ Returns (processorTransmit a 15 opcode) w v w' := by
  rw [transmit, returns_bind]
  constructor
  · rintro ⟨status, w₁, h₁, h⟩
    rcases returns_callOr.mp h₁ with ⟨hne, -⟩ | ⟨-, rfl, rfl⟩
    · exact absurd rfl hne
    · have h := returns_ask_bind.mp h
      rw [if_neg (by decide), if_neg fun hand => hand.1 rfl] at h
      obtain ⟨acked, w₂, h₂, h⟩ := returns_bind.mp h
      rw [if_neg fun hand => Bool.false_ne_true hand.2] at h
      obtain ⟨rfl, rfl⟩ := returns_pure.mp h
      exact h₂
  · intro h
    refine ⟨.present, w, returns_callOr.mpr (.inr ⟨fun hne => hne rfl, rfl, rfl⟩),
      returns_ask_bind.mpr ?_⟩
    rw [if_neg (by decide), if_neg fun hand => hand.1 rfl]
    refine returns_bind.mpr ⟨v, w', h, ?_⟩
    rw [if_neg fun hand => Bool.false_ne_true hand.2]
    exact returns_pure.mpr ⟨rfl, rfl⟩

/-- The world after one answer from outside. -/
def World.answered (w : World) : World := { w with outside := fun n => w.outside (n + 1) }

/-- What is broadcast waits for one answer, if it is sent. -/
theorem returns_processorTransmit_broadcast {a : Fin 16} {opcode : UInt8} {w w' : World} {v : Bool}
    (h : Returns (processorTransmit a 15 opcode) w v w') : w' = w ∨ w' = w.answered := by
  have h := returns_ask_bind.mp h
  split at h
  · exact .inl (returns_pure.mp h).2
  · rw [if_neg fun hand => hand.1 rfl] at h
    split at h
    · exact absurd h not_returns_stuck
    · split at h
      · exact .inl (returns_pure.mp h).2
      · obtain ⟨o, w₁, h₁, h⟩ := returns_bind.mp h
        rw [(returns_pure.mp h).2]
        exact .inr (returns_observe.mp h₁).2

/-- Looking for a physical address without asking for it changes nothing. -/
theorem returns_getDeviceByPhysicalAddress {pa : UInt16} :
    ∀ {as : List (Fin 16)} {s s' : World} {r : Option (Fin 16)},
      Returns (getDeviceByPhysicalAddress pa true as) s r s' ↔
        r = as.find? (fun a => (s.devices a).physicalAddress = pa) ∧ s' = s
  | [], s, s', r => returns_pure
  | a :: as, s, s', r => by
    have hstep : Returns (getDeviceByPhysicalAddress pa true (a :: as)) s r s' ↔
        Returns (if (s.devices a).physicalAddress = pa then pure (some a)
          else getDeviceByPhysicalAddress pa true as) s r s' := Iff.rfl
    rw [hstep, List.find?_cons]
    by_cases h : (s.devices a).physicalAddress = pa
    · simp [h]
    · simp [h, returns_getDeviceByPhysicalAddress]

theorem keeps_getDeviceByPhysicalAddress (pa : UInt16) (as : List (Fin 16)) :
    Keeps (BusFrame K) (getDeviceByPhysicalAddress pa true as) := by
  intro s r s' h
  rw [(returns_getDeviceByPhysicalAddress.mp h).2]
  exact (busFrame_composable K).refl s

theorem keeps_handleDeviceVendorId (c : Received) :
    Keeps (BusFrame K) (handleDeviceVendorId c) := by
  have hK := busFrame_composable K
  refine keeps_bind hK (keeps_callOr hK (keeps_setVendorId _ _)) fun _ => ?_
  refine keeps_bind hK (keeps_ask hK _) fun primary => ?_
  exact keeps_bind hK (keeps_callOr hK (keeps_transmitVendorID primary)) fun _ => keeps_pure hK _

theorem keeps_handleGiveDevicePowerStatus (c : Received) :
    Keeps (BusFrame K) (handleGiveDevicePowerStatus c) :=
  keeps_reply (keeps_transmit_discard _ _ 0x90 false)

theorem keeps_handleGiveDeckStatus (c : Received) : Keeps (BusFrame K) (handleGiveDeckStatus c) :=
  keeps_reply (keeps_transmit_discard _ _ 0x1B false)

theorem keeps_handleUserControlRelease (c : Received) :
    Keeps (BusFrame K) (handleUserControlRelease c) := by
  have hK := busFrame_composable K
  exact keeps_bind hK (keeps_ask hK _) fun responds => keeps_pure hK _

/-! ### Sources and routes -/

section reactions

variable {react : Reaction → Proc Unit} (hreact : ReactionsKeep (BusFrame K) react)
include hreact

theorem keeps_setActiveRoute (a : Fin 16) (iRoute : UInt16) :
    Keeps (BusFrame K) (setActiveRoute react a iRoute) := by
  have hK := busFrame_composable K
  refine keeps_bind hK (keeps_setPowerStatus hreact a _) fun _ => ?_
  refine keeps_bind hK (keeps_getDeviceByPhysicalAddress _ _) fun newRoute => ?_
  split
  · exact keeps_pure hK _
  · next r =>
    refine keeps_bind hK (keeps_ask hK _) fun w => ?_
    exact keeps_callOr hK (keeps_discard (keeps_activateSource hreact r 0))

theorem keeps_setStreamPath (a : Fin 16) (iNewAddress iOldAddress : UInt16) :
    Keeps (BusFrame K) (setStreamPath react a iNewAddress iOldAddress) := by
  have hK := busFrame_composable K
  refine keeps_bind hK (keeps_callOr hK (keeps_setPowerStatus hreact a _)) fun _ => ?_
  refine keeps_bind hK (keeps_update fun s => ?_) fun _ => ?_
  · exact busFrame_updateDevice (fun _ => rfl) (fun _ => rfl) (fun _ => id) fun _ _ => rfl
  · refine keeps_ite (fun _ => keeps_pure hK _) fun _ => ?_
    refine keeps_bind hK (keeps_getDeviceByPhysicalAddress _ _) fun device => ?_
    split
    · next d =>
      refine keeps_bind hK (keeps_markAsActiveSource hreact d) fun _ => ?_
      refine keeps_bind hK (keeps_ask hK _) fun handled => ?_
      exact keeps_callOr hK (keeps_discard (keeps_transmitActiveSource d))
    · refine keeps_bind hK (keeps_getDeviceByPhysicalAddress _ _) fun old => ?_
      split
      · exact keeps_markAsInactiveSource _
      · exact keeps_pure hK _

theorem keeps_handleReportPowerStatus (c : Received) :
    Keeps (BusFrame K) (handleReportPowerStatus react c) := by
  have hK := busFrame_composable K
  refine keeps_ite (fun _ => ?_) fun _ => keeps_pure hK _
  exact keeps_bind hK (keeps_setPowerStatus hreact _ _) fun _ => keeps_pure hK _

theorem keeps_handleStandby (c : Received) : Keeps (BusFrame K) (handleStandby react c) :=
  keeps_bind (busFrame_composable K) (keeps_setPowerStatus hreact _ _) fun _ =>
    keeps_pure (busFrame_composable K) _

theorem keeps_handleTextViewOn (c : Received) : Keeps (BusFrame K) (handleTextViewOn react c) :=
  keeps_bind (busFrame_composable K) (keeps_markAsActiveSource hreact _) fun _ =>
    keeps_pure (busFrame_composable K) _

theorem keeps_handleImageViewOn (c : Received) :
    Keeps (BusFrame K) (handleImageViewOn react c) := by
  have hK := busFrame_composable K
  refine keeps_bind hK (keeps_ask hK _) fun d => ?_
  refine keeps_bind hK (keeps_callOr hK ?_) fun _ => keeps_pure hK _
  exact keeps_bind hK (keeps_callOr hK (keeps_setPowerStatus hreact _ _)) fun _ =>
    keeps_onImageViewOnSent false

theorem keeps_handleRequestActiveSource (c : Received) :
    Keeps (BusFrame K) (handleRequestActiveSource react c) := by
  have hK := busFrame_composable K
  refine keeps_bind hK (keeps_ask hK _) fun initialised => ?_
  refine keeps_bind hK (keeps_callOr hK ?_) fun _ => keeps_pure hK _
  refine keeps_bind hK (keeps_setPowerStatus hreact _ _) fun _ => ?_
  refine keeps_bind hK (keeps_ask hK _) fun tvPower => ?_
  refine keeps_bind hK (keeps_ask hK _) fun devices => keeps_callOr hK ?_
  exact keeps_forEach hK (fun a => keeps_discard (keeps_transmitActiveSource a)) _

theorem keeps_handleRoutingChange (c : Received) :
    Keeps (BusFrame K) (handleRoutingChange react c) := by
  have hK := busFrame_composable K
  refine keeps_ite (fun _ => ?_) fun _ => keeps_pure hK _
  refine keeps_bind hK (keeps_setPowerStatus hreact _ _) fun _ => ?_
  exact keeps_bind hK (keeps_setActiveRoute hreact _ _) fun _ => keeps_pure hK _

theorem keeps_handleRoutingInformation (c : Received) :
    Keeps (BusFrame K) (handleRoutingInformation react c) := by
  have hK := busFrame_composable K
  refine keeps_ite (fun _ => ?_) fun _ => keeps_pure hK _
  exact keeps_bind hK (keeps_setActiveRoute hreact _ _) fun _ => keeps_pure hK _

theorem keeps_handleSetStreamPath (c : Received) :
    Keeps (BusFrame K) (handleSetStreamPath react c) := by
  have hK := busFrame_composable K
  refine keeps_bind hK (keeps_ask hK _) fun initialised => ?_
  refine keeps_ite (fun _ => keeps_pure hK _) fun _ => ?_
  refine keeps_ite (fun _ => ?_) fun _ => keeps_pure hK _
  refine keeps_bind hK (keeps_getDeviceByPhysicalAddress _ _) fun device => ?_
  split
  · next a =>
    refine keeps_bind hK (keeps_ask hK _) fun handled => ?_
    refine keeps_bind hK (keeps_ask hK _) fun active => ?_
    refine keeps_bind hK (keeps_callOr hK (keeps_ite (fun _ => ?_) fun _ => ?_)) fun _ =>
      keeps_pure hK _
    · exact keeps_bind hK (keeps_markAsActiveSource hreact a) fun _ =>
        keeps_discard (keeps_transmitActiveSource a)
    · exact keeps_discard (keeps_activateSource hreact a 0)
  · exact keeps_bind hK (keeps_forEach hK keeps_markAsInactiveSource _) fun _ => keeps_pure hK _

theorem keeps_handleSystemAudioModeRequest (c : Received) :
    Keeps (BusFrame K) (handleSystemAudioModeRequest react c) := by
  have hK := busFrame_composable K
  refine keeps_bind hK (keeps_ask hK _) fun responds => ?_
  refine keeps_ite (fun _ => ?_) fun _ => keeps_pure hK _
  refine keeps_bind hK (keeps_callOr hK ?_) fun _ => ?_
  · refine keeps_bind hK (keeps_setPowerStatus hreact _ _) fun _ => ?_
    refine keeps_bind hK (keeps_getDeviceByPhysicalAddress _ _) fun device => ?_
    split
    · exact keeps_markAsActiveSource hreact _
    · exact keeps_pure hK _
  · exact keeps_bind hK (keeps_transmit_discard _ _ 0x72 false) fun _ => keeps_pure hK _

theorem keeps_handleUserControlPressed (c : Received) :
    Keeps (BusFrame K) (handleUserControlPressed react c) := by
  have hK := busFrame_composable K
  refine keeps_bind hK (keeps_ask hK _) fun responds => ?_
  refine keeps_bind hK (keeps_ask hK _) fun active => ?_
  refine keeps_ite (fun _ => keeps_pure hK _) fun _ => ?_
  refine keeps_ite (fun _ => keeps_pure hK _) fun _ => ?_
  refine keeps_ite (fun _ => keeps_bind hK ?_ fun _ => keeps_pure hK _) fun _ => ?_
  · refine keeps_bind hK (keeps_ask hK _) fun p => keeps_ite (fun _ => ?_) fun _ => ?_
    · exact keeps_discard (keeps_activateSource hreact _ 0)
    · exact keeps_bind hK (keeps_markAsInactiveSource _) fun _ =>
        keeps_transmit_discard _ 0 0x9D false
  · exact keeps_bind hK (keeps_callOr hK (keeps_markAsActiveSource hreact _)) fun _ =>
      keeps_pure hK _

end reactions

/-! ### The vendors' functions -/

theorem keeps_suppressTvRoutingChange (c : Received) :
    Keeps (BusFrame K) (suppressTvRoutingChange c) := by
  have hK := busFrame_composable K
  refine keeps_ite (fun _ => keeps_pure hK _) fun _ => ?_
  refine keeps_bind hK keeps_ownFlag fun ignoreTvRoute => ?_
  refine keeps_bind hK (keeps_ask hK _) fun source => ?_
  split
  · exact keeps_pure hK _
  · refine keeps_bind hK (keeps_ask hK _) fun handled => ?_
    exact keeps_bind hK (keeps_callOr hK (keeps_scheduleActivateSource _)) fun _ => keeps_pure hK _

theorem keeps_sendVendorCommandCapabilities (self i d : Fin 16) :
    Keeps (BusFrame K) (sendVendorCommandCapabilities self i d) := by
  have hK := busFrame_composable K
  refine keeps_bind hK (keeps_callOr hK (keeps_discard (keeps_getStatus 0))) fun _ => ?_
  exact keeps_bind hK keeps_ownFlag fun flag => keeps_callOr hK (keeps_transmit_discard i d 0x89 false)

theorem keeps_announceActiveSource : Keeps (BusFrame K) announceActiveSource := by
  have hK := busFrame_composable K
  refine keeps_bind hK (keeps_ask hK _) fun primary => ?_
  refine keeps_bind hK (keeps_ask hK _) fun active => ?_
  exact keeps_callOr hK (keeps_discard (keeps_transmitActiveSource primary))

theorem keeps_vlHandleGivePhysicalAddress (c : Received) :
    Keeps (BusFrame K) (vlHandleGivePhysicalAddress c) := by
  have hK := busFrame_composable K
  refine keeps_bind hK (keeps_reply (keeps_transmitPhysicalAddress _)) fun iHandled => ?_
  refine keeps_bind hK keeps_ownFlag fun flag => ?_
  exact keeps_bind hK (keeps_callOr hK (keeps_sendVendorCommandCapabilities _ _ _)) fun _ =>
    keeps_pure hK _

theorem keeps_syHandleGiveDevicePowerStatus (c : Received) :
    Keeps (BusFrame K) (syHandleGiveDevicePowerStatus c) := by
  have hK := busFrame_composable K
  refine keeps_bind hK (keeps_ask hK _) fun w => ?_
  refine keeps_ite (fun _ => ?_) fun _ => keeps_handleGiveDevicePowerStatus c
  exact keeps_bind hK (keeps_transmit_discard _ _ 0x90 false) fun _ => keeps_pure hK _

theorem keeps_anHandleVendorRemoteButtonDown (c : Received) :
    Keeps (BusFrame K) (anHandleVendorRemoteButtonDown c) := by
  have hK := busFrame_composable K
  refine keeps_bind hK (keeps_ask hK _) fun w => ?_
  refine keeps_ite (fun _ => keeps_pure hK _) fun _ => ?_
  exact keeps_ite (fun _ => keeps_pure hK _) fun _ => keeps_pure hK _

theorem keeps_slConnect (c : Received) : Keeps (BusFrame K) (slConnect c) := by
  have hK := busFrame_composable K
  refine keeps_bind hK (keeps_transmit_discard _ _ 0x89 false) fun _ => ?_
  refine keeps_bind hK (keeps_ask hK _) fun active => keeps_callOr hK ?_
  exact keeps_bind hK (keeps_callOr hK (keeps_transmit_discard _ _ 0x1B false)) fun _ =>
    keeps_transmit_discard _ _ 0x90 false

section reactions

variable {react : Reaction → Proc Unit} (hreact : ReactionsKeep (BusFrame K) react)
include hreact

theorem keeps_slInit (c : Received) : Keeps (BusFrame K) (slInit react c) := by
  have hK := busFrame_composable K
  refine keeps_bind hK (keeps_ask hK _) fun handled => ?_
  refine keeps_bind hK (keeps_ask hK _) fun active => keeps_callOr hK ?_
  refine keeps_bind hK (keeps_callOr hK ?_) fun _ => keeps_transmit_discard _ _ 0x89 false
  exact keeps_bind hK (keeps_setPowerStatus hreact _ _) fun _ => keeps_transmit_discard _ _ 0x90 false

theorem keeps_slPowerOn (c : Received) : Keeps (BusFrame K) (slPowerOn react c) := by
  have hK := busFrame_composable K
  refine keeps_bind hK (keeps_ask hK _) fun primary => keeps_callOr hK ?_
  refine keeps_bind hK (keeps_markAsActiveSource hreact primary) fun _ => ?_
  refine keeps_bind hK (keeps_setPowerStatus hreact _ _) fun _ => ?_
  refine keeps_bind hK (keeps_transmit_discard _ _ 0x90 false) fun _ => ?_
  refine keeps_bind hK (keeps_setPowerStatus hreact _ _) fun _ => ?_
  exact keeps_bind hK (keeps_transmitPhysicalAddress primary) fun _ =>
    keeps_scheduleActivateSource primary

theorem keeps_slPowerOnStatus (c : Received) : Keeps (BusFrame K) (slPowerOnStatus react c) := by
  have hK := busFrame_composable K
  refine keeps_bind hK (keeps_ask hK _) fun primary => keeps_callOr hK ?_
  refine keeps_bind hK (keeps_setPowerStatus hreact _ _) fun _ => ?_
  exact keeps_bind hK (keeps_transmit_discard _ _ 0x90 false) fun _ =>
    keeps_setPowerStatus hreact _ _

theorem keeps_slHandleVendorCommand (c : Received) :
    Keeps (BusFrame K) (slHandleVendorCommand react c) := by
  have hK := busFrame_composable K
  have hdone : ∀ {x : Proc Unit}, Keeps (BusFrame K) x →
      Keeps (BusFrame K) (x >>= fun _ => (pure .handled : Proc Handling)) :=
    fun hx => keeps_bind hK hx fun _ => keeps_pure hK _
  refine keeps_bind hK (keeps_ask hK _) fun handled => ?_
  refine keeps_ite (fun _ => keeps_pure hK _) fun _ => ?_
  refine keeps_ite (fun _ => hdone (keeps_slInit hreact c)) fun _ => ?_
  refine keeps_ite (fun _ => hdone (keeps_slPowerOn hreact c)) fun _ => ?_
  refine keeps_ite (fun _ => hdone (keeps_slConnect c)) fun _ => ?_
  exact keeps_ite (fun _ => hdone (keeps_slPowerOnStatus hreact c)) fun _ => keeps_pure hK _

theorem keeps_slHandleGiveDeckStatus (c : Received) :
    Keeps (BusFrame K) (slHandleGiveDeckStatus react c) := by
  have hK := busFrame_composable K
  refine keeps_bind hK (keeps_ask hK _) fun responds => ?_
  refine keeps_bind hK (keeps_ask hK _) fun active => ?_
  refine keeps_ite (fun _ => keeps_pure hK _) fun _ => ?_
  refine keeps_ite (fun _ => keeps_pure hK _) fun _ => ?_
  refine keeps_ite (fun _ => keeps_handleGiveDeckStatus c) fun _ => ?_
  refine keeps_ite (fun _ => ?_) fun _ => keeps_ite (fun _ => ?_) fun _ =>
    keeps_handleGiveDeckStatus c
  · refine keeps_bind hK (keeps_transmit_discard _ _ 0x1B false) fun _ => ?_
    exact keeps_bind hK (keeps_discard (keeps_slActivateSource hreact _ false)) fun _ =>
      keeps_pure hK _
  · exact keeps_bind hK (keeps_transmit_discard _ _ 0x1B false) fun _ => keeps_pure hK _

theorem keeps_slReportActive (c : Received) : Keeps (BusFrame K) (slReportActive react c) := by
  have hK := busFrame_composable K
  refine keeps_bind hK keeps_ownFlag fun flag => keeps_ite (fun _ => ?_) fun _ => ?_
  · refine keeps_bind hK (keeps_setPowerStatus hreact _ _) fun _ => ?_
    exact keeps_bind hK (keeps_transmit_discard _ _ 0x90 false) fun _ =>
      keeps_setPowerStatus hreact _ _
  · exact keeps_bind hK (keeps_setPowerStatus hreact _ _) fun _ =>
      keeps_transmit_discard _ _ 0x90 false

theorem keeps_slHandleGiveDevicePowerStatus (c : Received) :
    Keeps (BusFrame K) (slHandleGiveDevicePowerStatus react c) := by
  have hK := busFrame_composable K
  refine keeps_bind hK (keeps_ask hK _) fun responds => ?_
  refine keeps_bind hK (keeps_ask hK _) fun active => ?_
  refine keeps_ite (fun _ => keeps_pure hK _) fun _ => ?_
  refine keeps_ite (fun _ => ?_) fun _ => ?_
  · exact keeps_bind hK (keeps_slReportActive hreact c) fun _ => keeps_pure hK _
  · refine keeps_bind hK (keeps_setPowerStatus hreact _ _) fun _ => ?_
    exact keeps_bind hK (keeps_transmit_discard _ _ 0x90 false) fun _ => keeps_pure hK _

theorem keeps_slHandleRequestActiveSource (c : Received) :
    Keeps (BusFrame K) (slHandleRequestActiveSource react c) := by
  have hK := busFrame_composable K
  refine keeps_bind hK (keeps_ask hK _) fun initialised => ?_
  refine keeps_bind hK (keeps_ask hK _) fun primary => ?_
  refine keeps_bind hK (keeps_callOr hK ?_) fun _ => keeps_pure hK _
  refine keeps_bind hK keeps_ownFlag fun slInitialised => ?_
  refine keeps_bind hK (keeps_callOr hK (keeps_transmit_discard _ _ 0x89 false)) fun _ => ?_
  exact keeps_discard (keeps_handleRequestActiveSource hreact c)

theorem keeps_slHandleStandby (c : Received) :
    Keeps (BusFrame K) (slHandleStandby react c) := by
  have hK := busFrame_composable K
  refine keeps_bind hK (keeps_ask hK _) fun primary => ?_
  exact keeps_bind hK (keeps_setPowerStatus hreact _ _) fun _ => keeps_handleStandby hreact c

theorem keeps_slHandleSetStreamPath (c : Received) :
    Keeps (BusFrame K) (slHandleSetStreamPath react c) := by
  have hK := busFrame_composable K
  refine keeps_bind hK (keeps_suppressTvRoutingChange c) fun suppressed => ?_
  exact keeps_ite (fun _ => keeps_pure hK _) fun _ => keeps_handleSetStreamPath hreact c

theorem keeps_phHandleUserControlPressed (c : Received) :
    Keeps (BusFrame K) (phHandleUserControlPressed react c) := by
  have hK := busFrame_composable K
  refine keeps_bind hK keeps_ownFlag fun repeated => ?_
  refine keeps_ite (fun _ => keeps_pure hK _) fun _ => ?_
  exact keeps_bind hK (keeps_callOr hK (keeps_discard (keeps_handleUserControlRelease c))) fun _ =>
    keeps_handleUserControlPressed hreact c

theorem keeps_phHandleDeviceVendorId (c : Received) :
    Keeps (BusFrame K) (phHandleDeviceVendorId react c) :=
  keeps_bind (busFrame_composable K) (keeps_setPowerStatus hreact _ _) fun _ =>
    keeps_handleDeviceVendorId c

theorem keeps_claimRouteWhilePoweringUp (c : Received) (old new : UInt16) :
    Keeps (BusFrame K) (claimRouteWhilePoweringUp react c old new) := by
  have hK := busFrame_composable K
  refine keeps_bind hK keeps_ownFlag fun poweredUp => ?_
  refine keeps_bind hK keeps_ownFlag fun poweringUp => ?_
  refine keeps_bind hK (keeps_ask hK _) fun source => ?_
  refine keeps_ite (fun _ => keeps_pure hK _) fun _ => ?_
  split
  · exact keeps_pure hK _
  · refine keeps_bind hK (keeps_ask hK _) fun handled => ?_
    refine keeps_bind hK (keeps_ask hK _) fun pa => ?_
    refine keeps_ite (fun _ => keeps_pure hK _) fun _ => ?_
    refine keeps_bind hK (keeps_setPowerStatus hreact _ _) fun _ => ?_
    exact keeps_bind hK (keeps_discard (keeps_transmitActiveSource _)) fun _ => keeps_pure hK _

theorem keeps_phHandleRoutingChange (c : Received) :
    Keeps (BusFrame K) (phHandleRoutingChange react c) := by
  have hK := busFrame_composable K
  refine keeps_bind hK (keeps_callOr hK (keeps_claimRouteWhilePoweringUp hreact c _ _)) fun _ => ?_
  exact keeps_ite (fun _ => keeps_pure hK _) fun _ => keeps_handleRoutingChange hreact c

theorem keeps_phHandleSetStreamPath (c : Received) :
    Keeps (BusFrame K) (phHandleSetStreamPath react c) := by
  have hK := busFrame_composable K
  refine keeps_bind hK (keeps_callOr hK (keeps_claimRouteWhilePoweringUp hreact c _ _)) fun _ => ?_
  exact keeps_ite (fun _ => keeps_pure hK _) fun _ => keeps_handleSetStreamPath hreact c

theorem keeps_vlPowerChange (c : Received) : Keeps (BusFrame K) (vlPowerChange react c) := by
  have hK := busFrame_composable K
  refine keeps_ite (fun _ => ?_) fun _ => keeps_callOr hK (keeps_setPowerStatus hreact _ _)
  refine keeps_bind hK (keeps_setPowerStatus hreact _ _) fun _ => ?_
  refine keeps_bind hK (keeps_ask hK _) fun primary => ?_
  exact keeps_bind hK (keeps_sendVendorCommandCapabilities _ _ _) fun _ => keeps_announceActiveSource

theorem keeps_vlHandleVendorCommand (c : Received) :
    Keeps (BusFrame K) (vlHandleVendorCommand react c) := by
  have hK := busFrame_composable K
  refine keeps_bind hK (keeps_ask hK _) fun handled => ?_
  refine keeps_ite (fun _ => ?_) fun _ => keeps_pure hK _
  refine keeps_bind hK (keeps_ask hK _) fun primary => ?_
  refine keeps_bind hK (keeps_sendVendorCommandCapabilities _ _ _) fun _ => ?_
  refine keeps_bind hK (keeps_ask hK _) fun active => ?_
  exact keeps_bind hK (keeps_callOr hK (keeps_discard (keeps_activateSource hreact _ 500))) fun _ =>
    keeps_pure hK _

theorem keeps_vlHandleSystemAudioModeRequest (c : Received) :
    Keeps (BusFrame K) (vlHandleSystemAudioModeRequest react c) :=
  keeps_bind (busFrame_composable K)
    (keeps_callOr (busFrame_composable K) (keeps_setPowerStatus hreact _ _)) fun _ =>
    keeps_handleSystemAudioModeRequest hreact c

theorem keeps_anHandleGiveDevicePowerStatus (c : Received) :
    Keeps (BusFrame K) (anHandleGiveDevicePowerStatus react c) := by
  have hK := busFrame_composable K
  refine keeps_bind hK (keeps_ask hK _) fun w => ?_
  refine keeps_ite (fun _ => ?_) fun _ => keeps_handleGiveDevicePowerStatus c
  refine keeps_bind hK (keeps_setPowerStatus hreact _ _) fun _ => ?_
  exact keeps_bind hK (keeps_transmit_discard _ _ 0x90 false) fun _ => keeps_pure hK _

end reactions

/-! ### Sessions -/

/-- The frame of the devices, for a session. -/
def SessionFrame (s s' : Session) : Prop := DeviceFrame s.world s'.world

theorem sessionFrame_composable : Composable SessionFrame :=
  ⟨fun s => .refl s.world, fun h₁ h₂ => DeviceFrame.trans h₁ h₂⟩

theorem keeps_onWorld {α : Type} {x : Proc α} (hx : Keeps DeviceFrame x) :
    Keeps SessionFrame (onWorld x) := keeps_zoom hx fun _ _ h => h

theorem keeps_onWorld_bus {α : Type} {x : Proc α} (hx : Keeps (BusFrame ∅) x) :
    Keeps SessionFrame (onWorld x) := keeps_onWorld (keeps_deviceFrame hx)

/-- A change of what is not the world. -/
theorem keeps_updateSession {f : Session → Session} (h : ∀ s, (f s).world = s.world) :
    Keeps SessionFrame (update f) := keeps_update fun s => by
  rw [SessionFrame, h]
  exact .refl s.world

theorem keeps_transmitAbort (source destination : Fin 16) (opcode : UInt8) (reason : AbortReason) :
    Keeps SessionFrame (transmitAbort source destination opcode reason) := by
  have hS := sessionFrame_composable
  refine keeps_bind hS (keeps_discard (keeps_onWorld_bus (keeps_processorTransmit _ _ _))) fun _ => ?_
  exact keeps_updateSession fun _ => rfl

theorem keeps_unhandledCommand (c : Received) (reason : AbortReason) :
    Keeps SessionFrame (unhandledCommand c reason) := by
  have hS := sessionFrame_composable
  refine keeps_bind hS (keeps_ask hS _) fun handled => ?_
  exact keeps_callOr hS (keeps_transmitAbort _ _ _ _)

theorem keeps_handleGiveMenuLanguage (c : Received) :
    Keeps SessionFrame (handleGiveMenuLanguage c) := by
  have hS := sessionFrame_composable
  refine keeps_bind hS (keeps_ask hS _) fun responds => ?_
  refine keeps_ite (fun _ => keeps_bind hS ?_ fun _ => keeps_pure hS _) fun _ => keeps_pure hS _
  refine keeps_bind hS (keeps_ask hS _) fun language => ?_
  refine keeps_ite (fun _ => keeps_transmitAbort _ _ _ _) fun _ => ?_
  exact keeps_discard (keeps_onWorld_bus (keeps_transmit _ 15 0x32 false))

theorem keeps_handleGiveDeviceVendorId (c : Received) :
    Keeps SessionFrame (handleGiveDeviceVendorId c) := by
  have hS := sessionFrame_composable
  refine keeps_bind hS (keeps_ask hS _) fun responds => ?_
  refine keeps_bind hS (keeps_ask hS _) fun vendor => ?_
  refine keeps_ite (fun _ => ?_) fun _ => keeps_pure hS _
  refine keeps_ite (fun _ => ?_) fun _ => ?_
  · exact keeps_bind hS (keeps_transmitAbort _ _ _ _) fun _ => keeps_pure hS _
  · exact keeps_bind hS (keeps_onWorld_bus (keeps_transmitVendorID _)) fun _ => keeps_pure hS _

theorem keeps_vlHandleGiveDeviceVendorId (c : Received) :
    Keeps SessionFrame (vlHandleGiveDeviceVendorId c) := by
  have hS := sessionFrame_composable
  refine keeps_bind hS (keeps_handleGiveDeviceVendorId c) fun iHandled => ?_
  refine keeps_bind hS (keeps_onWorld_bus keeps_ownFlag) fun flag => ?_
  refine keeps_bind hS (keeps_callOr hS (keeps_onWorld_bus ?_)) fun _ => keeps_pure hS _
  exact keeps_sendVendorCommandCapabilities _ _ _

theorem keeps_handleSetMenuLanguage (c : Received) :
    Keeps SessionFrame (handleSetMenuLanguage c) := by
  have hS := sessionFrame_composable
  refine keeps_ite (fun _ => ?_) fun _ => keeps_pure hS _
  exact keeps_bind hS (keeps_updateSession fun _ => rfl) fun _ => keeps_pure hS _

theorem keeps_handleDeviceVendorCommandWithId (c : Received) :
    Keeps SessionFrame (handleDeviceVendorCommandWithId c) := by
  have hS := sessionFrame_composable
  refine keeps_bind hS (keeps_ask hS _) fun vendor => ?_
  refine keeps_ite (fun _ => keeps_pure hS _) fun _ => ?_
  refine keeps_bind hS (keeps_callOr hS (keeps_onWorld_bus (keeps_setVendorId _ _))) fun _ => ?_
  refine keeps_ite (fun _ => ?_) fun _ => keeps_ite (fun _ => keeps_pure hS _) fun _ =>
    keeps_pure hS _
  exact keeps_bind hS (keeps_updateSession fun _ => rfl) fun _ => keeps_pure hS _

theorem keeps_rlHandleDeviceVendorCommandWithId (c : Received) :
    Keeps SessionFrame (rlHandleDeviceVendorCommandWithId c) := by
  have hS := sessionFrame_composable
  refine keeps_bind hS (keeps_ask hS _) fun w => ?_
  refine keeps_ite (fun _ => keeps_pure hS _) fun _ => ?_
  refine keeps_ite (fun _ => keeps_pure hS _) fun _ => ?_
  refine keeps_ite (fun _ => keeps_pure hS _) fun _ => ?_
  exact keeps_ite (fun _ => keeps_pure hS _) fun _ => keeps_handleDeviceVendorCommandWithId c

theorem keeps_handleFeatureAbort (c : Received) : Keeps SessionFrame (handleFeatureAbort c) := by
  have hS := sessionFrame_composable
  refine keeps_bind hS (keeps_callOr hS ?_) fun _ => keeps_pure hS _
  refine keeps_ite (fun _ => keeps_pure hS _) fun _ => ?_
  refine keeps_bind hS (keeps_onWorld_bus (keeps_update fun s => ?_)) fun _ =>
    keeps_updateSession fun _ => rfl
  refine busFrame_updateDevice ?_ ?_ ?_ ?_
  all_goals intros
  all_goals split_ifs at *
  all_goals first | rfl | assumption

theorem keeps_slHandleFeatureAbort (c : Received) :
    Keeps SessionFrame (slHandleFeatureAbort c) := by
  have hS := sessionFrame_composable
  refine keeps_bind hS (keeps_ask hS _) fun w => ?_
  refine keeps_bind hS (keeps_onWorld_bus keeps_ownFlag) fun slInitialised => ?_
  refine keeps_ite (fun _ => ?_) fun _ => keeps_handleFeatureAbort c
  refine keeps_bind hS (keeps_discard (keeps_onWorld_bus ?_)) fun _ => keeps_pure hS _
  exact keeps_transmit _ _ 0x89 false

section reactions

variable {react : Reaction → Proc Unit} (hreact : ∀ K, ReactionsKeep (BusFrame K) react)
include hreact

theorem keeps_handleReportPhysicalAddress (c : Received) :
    Keeps DeviceFrame (handleReportPhysicalAddress react c) := by
  have hD := deviceFrame_composable
  refine keeps_ite (fun _ => ?_) fun _ => keeps_pure hD _
  refine keeps_bind hD ?_ fun _ => ?_
  · refine keeps_bind hD (keeps_ask hD _) fun handled => ?_
    refine keeps_ite (fun _ => keeps_pure hD _) fun _ => ?_
    refine keeps_bind hD (keeps_deviceFrame (keeps_setPhysicalAddress_any _ _)) fun _ => ?_
    refine keeps_bind hD (keeps_ask hD _) fun clients => keeps_forEach hD (fun k => ?_) _
    exact fun s a s' h => (keeps_refreshPhysicalAddress hreact k _ s a s' h).toDeviceFrame
  · refine keeps_bind hD (keeps_ask hD _) fun primary => ?_
    refine keeps_bind hD (keeps_callOr hD (keeps_deviceFrame ?_)) fun _ => keeps_pure hD _
    exact keeps_transmitPhysicalAddress primary

theorem keeps_handleActiveSource (c : Received) :
    Keeps SessionFrame (handleActiveSource react c) := by
  have hS := sessionFrame_composable
  refine keeps_ite (fun _ => ?_) fun _ => keeps_pure hS _
  refine keeps_bind hS (keeps_onWorld_bus ?_) fun _ => ?_
  · exact keeps_bind (busFrame_composable ∅) (keeps_setPhysicalAddress_any _ _) fun _ =>
      keeps_markAsActiveSource (hreact ∅) _
  · exact keeps_bind hS (keeps_updateSession fun _ => rfl) fun _ => keeps_pure hS _

theorem keeps_slHandleActiveSource (c : Received) :
    Keeps SessionFrame (slHandleActiveSource react c) := by
  have hS := sessionFrame_composable
  refine keeps_bind hS (keeps_onWorld_bus (keeps_suppressTvRoutingChange c)) fun suppressed => ?_
  exact keeps_ite (fun _ => keeps_pure hS _) fun _ => keeps_handleActiveSource hreact c

theorem keeps_vlHandleDeviceVendorCommandWithId (c : Received) :
    Keeps SessionFrame (vlHandleDeviceVendorCommandWithId react c) := by
  have hS := sessionFrame_composable
  refine keeps_bind hS (keeps_ask hS _) fun handled => ?_
  refine keeps_ite (fun _ => keeps_pure hS _) fun _ => ?_
  refine keeps_ite (fun _ => keeps_pure hS _) fun _ => ?_
  refine keeps_ite (fun _ => ?_) fun _ => keeps_ite (fun _ => ?_) fun _ =>
    keeps_handleDeviceVendorCommandWithId c
  · refine keeps_bind hS (keeps_onWorld_bus ?_) fun _ => keeps_pure hS _
    exact keeps_bind (busFrame_composable ∅) (keeps_setPowerStatus (hreact ∅) _ _) fun _ =>
      keeps_announceActiveSource
  · exact keeps_bind hS (keeps_onWorld_bus (keeps_vlPowerChange (hreact ∅) c)) fun _ =>
      keeps_pure hS _

theorem keeps_anHandleDeviceVendorCommandWithId (c : Received) :
    Keeps SessionFrame (anHandleDeviceVendorCommandWithId react c) := by
  have hS := sessionFrame_composable
  have hK := busFrame_composable ∅
  refine keeps_ite (fun _ => keeps_handleDeviceVendorCommandWithId c) fun _ => ?_
  refine keeps_bind hS (keeps_onWorld_bus ?_) fun _ => keeps_pure hS _
  refine keeps_bind hK (keeps_setPowerStatus (hreact ∅) _ _) fun _ => ?_
  refine keeps_bind hK (keeps_ask hK _) fun handled => ?_
  exact keeps_callOr hK (keeps_transmit_discard _ _ 0xA0 false)

theorem keeps_anHandleSetMenuLanguage (c : Received) :
    Keeps SessionFrame (anHandleSetMenuLanguage react c) := by
  have hS := sessionFrame_composable
  refine keeps_bind hS (keeps_ask hS _) fun initialised => ?_
  refine keeps_bind hS (keeps_callOr hS (keeps_onWorld_bus ?_)) fun _ =>
    keeps_handleSetMenuLanguage c
  exact keeps_setPowerStatus (hreact ∅) _ _

/-- Every function of every handler keeps the frame of the devices. -/
theorem keeps_handlerFor (h : Handler) (c : Received) :
    Keeps SessionFrame (handlerFor react h c) := by
  have hS := sessionFrame_composable
  have hK := busFrame_composable ∅
  have h0 := hreact ∅
  unfold handlerFor
  split
  · exact keeps_onWorld_bus (keeps_handleReportPowerStatus h0 c)
  · exact keeps_onWorld_bus (keeps_report _)
  · exact keeps_ite (fun _ => keeps_anHandleSetMenuLanguage hreact c) fun _ =>
      keeps_handleSetMenuLanguage c
  · refine keeps_onWorld_bus (keeps_ite (fun _ => keeps_vlHandleGivePhysicalAddress c) fun _ => ?_)
    exact keeps_reply (keeps_transmitPhysicalAddress _)
  · exact keeps_handleGiveMenuLanguage c
  · exact keeps_onWorld_bus (keeps_reply (keeps_transmit_discard _ _ 0x47 false))
  · exact keeps_ite (fun _ => keeps_vlHandleGiveDeviceVendorId c) fun _ =>
      keeps_handleGiveDeviceVendorId c
  · exact keeps_onWorld_bus (keeps_ite (fun _ => keeps_phHandleDeviceVendorId h0 c) fun _ =>
      keeps_handleDeviceVendorId c)
  · split
    · exact keeps_vlHandleDeviceVendorCommandWithId hreact c
    · exact keeps_anHandleDeviceVendorCommandWithId hreact c
    · exact keeps_rlHandleDeviceVendorCommandWithId c
    · exact keeps_onWorld_bus (keeps_pure hK _)
    · exact keeps_handleDeviceVendorCommandWithId c
  · exact keeps_onWorld_bus (keeps_ite (fun _ => keeps_slHandleGiveDeckStatus h0 c) fun _ =>
      keeps_handleGiveDeckStatus c)
  · exact keeps_onWorld_bus (keeps_report _)
  · exact keeps_onWorld_bus (keeps_reply (keeps_transmitMenuState _ _))
  · refine keeps_onWorld_bus ?_
    split
    · exact keeps_slHandleGiveDevicePowerStatus h0 c
    · exact keeps_anHandleGiveDevicePowerStatus h0 c
    · exact keeps_syHandleGiveDevicePowerStatus c
    · exact keeps_handleGiveDevicePowerStatus c
  · exact keeps_onWorld_bus (keeps_reply (keeps_transmit_discard _ _ 0x9E false))
  · exact keeps_onWorld_bus (keeps_ite (fun _ => keeps_phHandleUserControlPressed h0 c) fun _ =>
      keeps_handleUserControlPressed h0 c)
  · exact keeps_onWorld_bus (keeps_handleUserControlRelease c)
  · exact keeps_onWorld_bus (keeps_reply (keeps_transmit_discard _ _ 0x7A false))
  · exact keeps_onWorld_bus (keeps_reply (keeps_transmit_discard _ _ 0x7E false))
  · exact keeps_onWorld_bus (keeps_ite (fun _ => keeps_vlHandleSystemAudioModeRequest h0 c)
      fun _ => keeps_handleSystemAudioModeRequest h0 c)
  · exact keeps_onWorld_bus (keeps_report _)
  · exact keeps_onWorld_bus (keeps_report _)
  · exact keeps_onWorld_bus (keeps_report _)
  · exact keeps_onWorld_bus (keeps_ite (fun _ => keeps_slHandleRequestActiveSource h0 c) fun _ =>
      keeps_handleRequestActiveSource h0 c)
  · refine keeps_onWorld_bus ?_
    split
    · exact keeps_slHandleSetStreamPath h0 c
    · exact keeps_phHandleSetStreamPath h0 c
    · exact keeps_handleSetStreamPath h0 c
  · exact keeps_onWorld_bus (keeps_ite (fun _ => keeps_phHandleRoutingChange h0 c) fun _ =>
      keeps_handleRoutingChange h0 c)
  · exact keeps_onWorld_bus (keeps_handleRoutingInformation h0 c)
  · exact keeps_onWorld_bus (keeps_ite (fun _ => keeps_slHandleStandby h0 c) fun _ =>
      keeps_handleStandby h0 c)
  · exact keeps_ite (fun _ => keeps_slHandleActiveSource hreact c) fun _ =>
      keeps_handleActiveSource hreact c
  · exact keeps_onWorld (keeps_handleReportPhysicalAddress hreact c)
  · exact keeps_onWorld_bus (keeps_report _)
  · exact keeps_onWorld_bus (keeps_handleImageViewOn h0 c)
  · exact keeps_onWorld_bus (keeps_handleTextViewOn h0 c)
  · exact keeps_ite (fun _ => keeps_slHandleFeatureAbort c) fun _ => keeps_handleFeatureAbort c
  · refine keeps_onWorld_bus ?_
    split
    · exact keeps_slHandleVendorCommand h0 c
    · exact keeps_vlHandleVendorCommand h0 c
    · exact keeps_pure hK _
  · exact keeps_onWorld_bus (keeps_ite (fun _ => keeps_anHandleVendorRemoteButtonDown c) fun _ =>
      keeps_report _)
  · exact keeps_onWorld_bus (keeps_handleUserControlRelease c)
  · exact keeps_pure hS _
  · exact keeps_pure hS _

theorem keeps_handleCommand (c : Received) : Keeps SessionFrame (handleCommand react c) := by
  have hS := sessionFrame_composable
  refine keeps_ite (fun _ => keeps_pure hS _) fun _ => ?_
  refine keeps_bind hS (keeps_onWorld_bus (keeps_bind (busFrame_composable ∅) keeps_observe
    fun _ => keeps_pure (busFrame_composable ∅) _)) fun taken => ?_
  refine keeps_bind hS (keeps_ask hS _) fun handler => ?_
  refine keeps_ite (fun _ => keeps_pure hS _) fun _ => ?_
  refine keeps_bind hS (keeps_handlerFor hreact handler c) fun iHandled => ?_
  split
  · exact keeps_bind hS (keeps_updateSession fun _ => rfl) fun _ => keeps_pure hS _
  · exact keeps_bind hS (keeps_unhandledCommand c _) fun _ => keeps_pure hS _

/-- A received command keeps the frame of the devices. -/
theorem keeps_processCommand (command : Command) :
    Keeps SessionFrame (processCommand react command) := by
  have hS := sessionFrame_composable
  unfold processCommand
  split
  · next c _ =>
    refine keeps_bind hS (keeps_handleCommand hreact c) fun bHandled => keeps_callOr hS ?_
    refine keeps_onWorld (keeps_update fun w => ?_)
    by_cases hd : (w.devices c.initiator).status = .handledByLibCec
    · have hsame : w.updateDevice c.initiator (fun d =>
          if d.status = .handledByLibCec then d else { d with status := .present }) = w := by
        rw [World.updateDevice, if_pos hd, Function.update_eq_self]
      rw [hsame]
      exact .refl w
    · exact (busFrame_status (K := ∅) (by simp [World.isHandled, hd]) (by simp [hd])
        (by simp [hd]) (by simp [hd]) (by simp [hd])).toDeviceFrame
  · exact keeps_pure hS _

end reactions

end CEC
