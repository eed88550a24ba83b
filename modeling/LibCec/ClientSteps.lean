import LibCec.RegistrationFrame

/-! What a client does to its own settings and devices.

    Taking over a physical address, and what follows the allocation of a registration, are made of
    polls and transmissions, of a new address for a device, and of settings and marks of clients. A
    relation that these keep (`ClientSteps`) is kept by all of it. -/

namespace CEC
open Schemes Procedure

/-- The settings of a client that registering it leaves alone. -/
def Configuration.identity (m : Configuration) : VendorId × UInt8 :=
  (m.iDeviceVendorId, m.bMonitorOnly)

/-- A relation that the steps of polls and transmissions keep, and so do a new address of a device,
    a change of the settings that a registration changes, and of the marks of a client. -/
class ClientSteps (R : World → World → Prop) : Prop extends BusSteps R where
  moves : ∀ a pa, Keeps R (setPhysicalAddress a pa)
  settings : ∀ {s : World} {c : ClientId} {f : Configuration → Configuration},
    (f (s.configuration c)).identity = (s.configuration c).identity → R s (s.updateConfiguration c f)
  flags : ∀ {s : World} {c : ClientId} {f : Client → Client},
    (∀ k, (f k).configuration = k.configuration) → R s (s.updateClient c f)

namespace ClientSteps

section address

variable {R : World → World → Prop} [ClientSteps R] {react : Reaction → Proc Unit}
  (hreact : ReactionsKeep R react) (c : ClientId)

theorem keeps_readdress (initialised : Bool) (pa : UInt16) :
    ∀ (as : List (Fin 16)) (r : Option (Fin 16)), Keeps R (readdress initialised pa as r)
  | [], r => keeps_pure BusSteps.composable r
  | a :: as, r => by
    have hK : Composable R := BusSteps.composable
    refine keeps_bind hK (keeps_ask hK _) fun active => ?_
    refine keeps_bind hK (keeps_callOr hK (keeps_markAsInactiveSource a)) fun _ => ?_
    refine keeps_bind hK (moves a pa) fun _ => ?_
    refine keeps_bind hK (keeps_callOr hK (keeps_transmitPhysicalAddress a)) fun _ => ?_
    exact keeps_readdress initialised pa as _

include hreact

theorem keeps_setDevicePhysicalAddress (pa : UInt16) :
    Keeps R (setDevicePhysicalAddress react c pa) := by
  have hK : Composable R := BusSteps.composable
  refine keeps_ite (fun _ => keeps_pure hK _) fun _ => ?_
  refine keeps_bind hK (keeps_ask hK _) fun w => ?_
  refine keeps_bind hK (keeps_readdress _ pa _ none) fun r => ?_
  split
  · exact keeps_callOr hK (keeps_discard (keeps_activateSource hreact _ 0))
  · exact keeps_pure hK _

theorem keeps_clientSetPhysicalAddress (pa : UInt16) :
    Keeps R (clientSetPhysicalAddress react c pa) := by
  have hK : Composable R := BusSteps.composable
  refine keeps_bind hK (keeps_ask hK _) fun m => ?_
  refine keeps_ite (fun _ => keeps_pure hK _) fun _ => ?_
  exact keeps_bind hK (keeps_update fun s => settings rfl) fun _ =>
    keeps_setDevicePhysicalAddress hreact c pa

theorem keeps_setHDMIPort (base : LogicalAddress) (port : UInt8) :
    Keeps R (setHDMIPort react c base port) := by
  have hK : Composable R := BusSteps.composable
  have hport : Keeps R (getPhysicalAddressFromPort c base port) := by
    cases base with
    | unknown => exact keeps_pure hK _
    | addr b =>
      refine keeps_bind hK (keeps_ask hK _) fun initiator => ?_
      have hget := keeps_getPhysicalAddress (.inl (moves (R := R) b)) initiator
      exact keeps_bind hK hget fun _ => keeps_pure hK _
  refine keeps_ite (fun _ => keeps_pure hK _) fun _ => ?_
  refine keeps_bind hK (keeps_ask hK _) fun w => ?_
  refine keeps_ite (fun _ => keeps_pure hK _) fun _ => ?_
  refine keeps_bind hK (keeps_update fun s => settings rfl) fun _ => ?_
  refine keeps_ite (fun _ => keeps_pure hK _) fun _ => ?_
  refine keeps_bind hK hport fun pa => ?_
  exact keeps_bind hK (keeps_clientSetPhysicalAddress hreact c _) fun _ => keeps_pure hK _

omit hreact in
theorem keeps_autodetectPhysicalAddress :
    Keeps R (autodetectPhysicalAddress c) := by
  have hK : Composable R := BusSteps.composable
  refine keeps_bind hK keeps_observe fun o => ?_
  refine keeps_ite (fun _ => ?_) fun _ => ?_
  · exact keeps_bind hK (keeps_update fun s => settings rfl) fun _ => keeps_pure hK _
  · exact keeps_bind hK (keeps_update fun s => settings rfl) fun _ => keeps_pure hK _

theorem keeps_setConfiguredPhysicalAddress (x : Configuration) :
    Keeps R (setConfiguredPhysicalAddress react c x) := by
  have hK : Composable R := BusSteps.composable
  refine keeps_ite (fun _ => ?_) fun _ => ?_
  · exact keeps_bind hK (keeps_clientSetPhysicalAddress hreact c _) fun _ =>
      keeps_update fun s => settings rfl
  · refine keeps_bind hK (keeps_autodetectPhysicalAddress c) fun detected => ?_
    refine keeps_ite (fun _ => ?_) fun _ => ?_
    · exact keeps_bind hK (keeps_ask hK _) fun pa =>
        keeps_setDevicePhysicalAddress hreact c pa
    · refine keeps_bind hK (keeps_callOr hK (keeps_setHDMIPort hreact c _ _)) fun set => ?_
      refine keeps_bind hK (keeps_ask hK _) fun initialised => ?_
      exact keeps_callOr hK (keeps_discard (keeps_setHDMIPort hreact c _ _))

theorem keeps_onRegister : Keeps R (onRegister react c) := by
  have hK : Composable R := BusSteps.composable
  refine keeps_bind hK (keeps_ask hK _) fun w => ?_
  refine keeps_ite (fun _ => keeps_pure hK _) fun _ => ?_
  refine keeps_ite (fun _ => keeps_pure hK _) fun _ => ?_
  refine keeps_bind hK (keeps_update fun s => flags fun _ => rfl) fun _ => ?_
  refine keeps_bind hK (keeps_callOr hK ?_) fun _ => ?_
  · exact keeps_setConfiguredPhysicalAddress hreact c _
  · exact keeps_bind hK (keeps_callOr hK (keeps_discard (keeps_activateSource hreact _ 500)))
      fun _ => keeps_pure hK _

theorem keeps_completeRegistration : Keeps R (completeRegistration react c) := by
  have hK : Composable R := BusSteps.composable
  refine keeps_bind hK keeps_observe fun o => ?_
  refine keeps_bind hK (keeps_update fun s => settings rfl) fun _ => ?_
  refine keeps_bind hK (keeps_update fun s => flags fun _ => rfl) fun _ => ?_
  refine keeps_bind hK (keeps_ask hK _) fun sourceAddress => ?_
  refine keeps_bind hK (keeps_onRegister hreact c) fun ok => ?_
  refine keeps_bind hK (keeps_transmit_discard _ 0 0x47 false) fun _ => ?_
  refine keeps_bind hK (keeps_requestPowerStatus hreact 0 sourceAddress) fun _ => ?_
  exact keeps_pure hK _

end address

/-! ### Registering -/

theorem identity_settingsFromAdapter (detected : UInt16) (rom m : Configuration) :
    (settingsFromAdapter detected rom m).identity = m.identity := by
  unfold settingsFromAdapter
  dsimp only
  split_ifs <;> rfl

section registering

variable {F : World → World → Prop} [ClientSteps F] (hR : Composable R)
  (hF : ∀ {s t}, F s t → R s t) {react : Reaction → Proc Unit} {reregister : ClientId → Proc Bool}
  {c : ClientId}

include hR hF

/-- A relation that what is not about addresses keeps by way of `F`. -/
theorem keeps_prepareRegistration (hmonitor : ∀ s : World, R s { s with monitor := false })
    (hunregister : Keeps R (unregisterClient c))
    (hset : ∀ s, KeepsAt R s (setConfiguration react reregister c (s.configuration c))) :
    Keeps R (prepareRegistration react reregister c) := by
  refine keeps_bind hR (keeps_ask hR _) fun registered => ?_
  refine keeps_bind hR (keeps_callOr hR (keeps_discard hunregister)) fun _ => ?_
  refine keeps_bind hR (keeps_update hmonitor) fun _ => keeps_bind hR (keeps_ask hR _) fun source => ?_
  split
  · exact keeps_pure hR _
  have hvendor : ∀ i, Keeps F (discard (getVendorId 0 i)) := fun i =>
    keeps_discard (keeps_getVendorId 0 i)
  have hhandler : Keeps F (replaceHandler 0) := keeps_replaceHandler 0
  have hanswer : Keeps F observe := keeps_observe
  refine keeps_bind hR ((hvendor _).mono hF) fun _ => keeps_bind hR (hhandler.mono hF) fun _ => ?_
  have hflag : Keeps F (update (World.updateClient c fun k => { k with initialised := false })) :=
    keeps_update fun s => flags fun _ => rfl
  have hadapter : ∀ detected rom, Keeps F
      (update (World.updateConfiguration c (settingsFromAdapter detected rom))) := fun _ _ =>
    keeps_update fun s => settings (identity_settingsFromAdapter ..)
  refine keeps_bind hR (hflag.mono hF) fun _ => keeps_bind hR (hanswer.mono hF) fun o => ?_
  refine keeps_bind hR (keeps_ask hR _) fun rom => keeps_bind hR ((hadapter _ _).mono hF) fun _ => ?_
  refine keeps_ask_bind fun s => ?_
  exact keepsAt_bind hR (hset s) fun _ s' _ => keepsAt_pure hR _ s'

theorem keeps_registerClientWith (hreact : ReactionsKeep F react)
    (hprepare : Keeps R (prepareRegistration react reregister c))
    (hallocate : Keeps R (allocateLogicalAddresses c)) :
    Keeps R (registerClientWith react reregister c) := by
  refine keeps_bind hR (keeps_ask hR _) fun w => keeps_ite (fun _ => keeps_pure hR _) fun _ => ?_
  refine keeps_ite (fun _ => keeps_pure hR _) fun _ => ?_
  refine keeps_bind hR hprepare fun ready => keeps_ite (fun _ => keeps_pure hR _) fun _ => ?_
  refine keeps_bind hR hallocate fun allocated => keeps_ite (fun _ => ?_) fun _ => ?_
  · have hmask : Keeps F setAckMask := keeps_setAckMask
    exact keeps_bind hR (keeps_discard (hmask.mono hF)) fun _ => keeps_pure hR _
  · exact (keeps_completeRegistration hreact c).mono hF

end registering

end ClientSteps

end CEC
