import LibCec.CommandFrame
import LibCec.Ownership

/-! Who is left as the active source after SET_STREAM_PATH.

    `HandleSetStreamPath` of the base handler looks up the device with the new address and has three
    branches, which treat the flags of the devices differently:

        handled by libCEC    ActivateSource or MarkAsActiveSource: the device and no other one
        another known one    COMMAND_HANDLED: nothing changes
        no known one         MarkAsInactiveSource of every device: none

    `SetStreamPath` of a device marks whatever device it finds as active. `handsOver_iff` says when
    `HandleSetStreamPath` leaves no device of libCEC active at another address. -/

namespace CEC
open Schemes Procedure

/-- The first device that has a physical address. -/
def World.deviceAt (w : World) (pa : UInt16) : Option (Fin 16) :=
  (List.finRange 16).find? fun a => (w.devices a).physicalAddress = pa

/-- Every device of libCEC that is marked as active source has this physical address. -/
def Follows (pa : UInt16) (w : World) : Prop :=
  ∀ a, w.isHandled a → (w.devices a).activeSource → (w.devices a).physicalAddress = pa

instance (pa : UInt16) (w : World) : Decidable (Follows pa w) :=
  inferInstanceAs (Decidable (∀ _, _))

/-! ### Only one device may be active -/

/-- No other device is marked as active source. -/
def OnlySource (a : Fin 16) (w : World) : Prop := ∀ b, (w.devices b).activeSource → b = a

/-- No other device becomes active, and the same devices are handled. -/
structure KeepsOnly (a : Fin 16) (s s' : World) : Prop where
  handled : ∀ b, s'.isHandled b = s.isHandled b
  only : OnlySource a s → OnlySource a s'

/-- Setting the status of a device marks none as active. -/
theorem active_of_setDeviceStatus {a b : Fin 16} {st : DeviceStatus} {s s' : World}
    (h : Returns (setDeviceStatus a st) s () s') :
    (s'.devices b).activeSource → (s.devices b).activeSource := by
  have hless : Composable fun s t : World => (t.devices b).activeSource → (s.devices b).activeSource :=
    ⟨fun _ => id, fun h₁ h₂ ht => h₁ (h₂ ht)⟩
  refine keeps_setDeviceStatus hless (fun w p hb => ?_) (fun _ w f hf hb => ?_) st _ _ _ h
  · obtain ⟨q, sent, hq⟩ := storePowerStatus_device w a b p
    rwa [hq] at hb
  · rw [updateDevice_devices] at hb
    split at hb
    · next heq => exact heq ▸ hf _ hb
    · exact hb

section only

variable {a : Fin 16}

instance keepsOnly_steps (a : Fin 16) : QuietSteps (KeepsOnly a) where
  composable := by
    refine ⟨fun s => ⟨fun _ => rfl, id⟩, fun h₁ h₂ => ⟨fun b => ?_, fun h => h₂.only (h₁.only h)⟩⟩
    exact (h₂.handled b).trans (h₁.handled b)
  handled h := h.handled
  outside _ _ := ⟨fun _ => rfl, id⟩
  devices hsame hactive :=
    ⟨fun b => isHandled_congr (hsame b).1, fun honly b hb => honly b (hactive b hb)⟩
  status hother hst hkeep _ s' h :=
    have hframe : BusFrame ∅ _ s' := keepsAt_setDeviceStatus hother hst hkeep _ _ h
    ⟨hframe.handled, fun honly b hb => honly b (active_of_setDeviceStatus h hb)⟩
  vendor {s b f} _ := by
    have hframe : BusFrame ∅ s (s.updateDevice b fun d => { d with vendor := f d }) :=
      busFrame_updateDevice (fun _ => rfl) (fun _ => rfl) (fun _ => id) fun _ _ => rfl
    refine ⟨hframe.handled, fun honly c hc => honly c ?_⟩
    rw [updateDevice_devices] at hc
    split at hc
    · next heq => exact heq ▸ hc
    · exact hc

/-- The device that is marked as active is the active one, and there is no other one. -/
theorem active_markAsActiveSource {react : Reaction → Proc Unit} {s s' : World}
    (h : Returns (markAsActiveSource react a) s () s') (b : Fin 16) :
    (s'.devices b).activeSource ↔ b = a := by
  obtain ⟨_, s₁, -, h⟩ := returns_bind.mp h
  exact (returns_activate h).2.2 b

section reactions

variable {react : Reaction → Proc Unit} (hreact : ReactionsKeep (KeepsOnly a) react)
include hreact

/-- Activating a device leaves no other one active. -/
theorem onlySource_activateSource {iDelay : ℕ} {s s' : World} {b : Bool}
    (h : Returns (activateSource react a iDelay) s b s') : OnlySource a s' := by
  obtain ⟨_, s₁, h₁, h⟩ := returns_bind.mp h
  have honly : OnlySource a s₁ := fun b => (active_markAsActiveSource h₁ b).mp
  by_cases hdelay : iDelay = 0
  · rw [if_pos hdelay] at h
    obtain ⟨_, s₂, h₂, h⟩ := returns_bind.mp h
    have hwake : KeepsOnly a s₁ s₂ := keeps_wakeAVR a _ _ _ h₂
    exact (keeps_handlerActivateSource hreact a false _ _ _ h).only (hwake.only honly)
  · rw [if_neg hdelay] at h
    have h := returns_update_bind.mp h
    rw [(returns_pure.mp h).2]
    intro b hb
    rw [updateDevice_devices] at hb
    split at hb
    · next heq => exact heq
    · exact honly b hb

end reactions

/-- While no other device is active, the reactions are about this one. -/
theorem reactionsKeep_only : ∀ (n : ℕ) (a : Fin 16), ReactionsKeep (KeepsOnly a) (react n)
  | 0, _ => .of_keeps fun _ => keeps_stuck
  | n + 1, a => by
    intro s b hb
    have hactive : (s.devices b).activeSource := by
      simpa using List.find?_some hb
    have hhandled : ∀ (r : Reaction) (s' : World), Returns (react (n + 1) r) s () s' →
        ∀ c, s'.isHandled c = s.isHandled c := fun r s' h =>
      (keeps_react (R := BusFrame ∅) (n + 1) r s () s' h).handled
    have hkeep := reactionsKeep_only n a
    refine ⟨fun p _ s' h => ⟨hhandled _ s' h, fun honly => ?_⟩,
      fun _ s' h => ⟨hhandled _ s' h, fun honly => ?_⟩⟩
    · obtain rfl := honly b hactive
      exact (keeps_setPowerStatus hkeep b p _ _ _ h).only honly
    · obtain rfl := honly b hactive
      obtain ⟨_, h⟩ := returns_discard.mp h
      exact onlySource_activateSource hkeep h

end only

/-! ### The three branches -/

section handler

variable {n : ℕ} {c : Received} {w w' : World} {r : Handling}

/-- What is done with a known device. -/
theorem handleSetStreamPath_known {a : Fin 16} (hinit : w.initialised) (hsize : 2 ≤ c.size)
    (hdevice : w.deviceAt (c.address 0) = some a)
    (h : Returns (handleSetStreamPath (react n) c) w r w') :
    Returns (callWhen (w.isHandled a)
      (if (w.devices a).activeSource then do
        markAsActiveSource (react n) a
        discard (transmitActiveSource a)
      else discard (activateSource (react n) a 0))) w () w' := by
  have h := returns_ask_bind.mp h
  rw [if_neg (by simp [hinit]), if_pos hsize] at h
  obtain ⟨d, w₁, hd, h⟩ := returns_bind.mp h
  obtain ⟨rfl, rfl⟩ := returns_getDeviceByPhysicalAddress.mp hd
  rw [World.deviceAt] at hdevice
  simp only [hdevice] at h
  have h := returns_ask_bind.mp h
  have h := returns_ask_bind.mp h
  obtain ⟨_, w₂, h₂, h⟩ := returns_bind.mp h
  rw [(returns_pure.mp h).2]
  exact h₂

/-- The own branch: only the device with the new address may be active. -/
theorem onlySource_handleSetStreamPath {a : Fin 16} (hinit : w.initialised) (hsize : 2 ≤ c.size)
    (hdevice : w.deviceAt (c.address 0) = some a) (hhandled : w.isHandled a)
    (h : Returns (handleSetStreamPath (react n) c) w r w') : OnlySource a w' := by
  have h := handleSetStreamPath_known hinit hsize hdevice h
  rw [callWhen, callOr, if_pos hhandled] at h
  split at h
  · obtain ⟨_, w₁, h₁, h⟩ := returns_bind.mp h
    obtain ⟨_, h⟩ := returns_discard.mp h
    have hsent : KeepsOnly a w₁ w' := keeps_transmitActiveSource a _ _ _ h
    exact hsent.only fun b => (active_markAsActiveSource h₁ b).mp
  · obtain ⟨_, h⟩ := returns_discard.mp h
    exact onlySource_activateSource (reactionsKeep_only n a) h

/-- The branch of a known device that libCEC does not handle: nothing changes. -/
theorem handleSetStreamPath_foreign {a : Fin 16} (hinit : w.initialised) (hsize : 2 ≤ c.size)
    (hdevice : w.deviceAt (c.address 0) = some a) (hforeign : w.isHandled a = false)
    (h : Returns (handleSetStreamPath (react n) c) w r w') : w' = w := by
  have h := handleSetStreamPath_known hinit hsize hdevice h
  rw [callWhen, callOr, if_neg (by simp [hforeign])] at h
  exact (returns_pure.mp h).2

/-- The branch of an unknown address: no device is active. -/
theorem handleSetStreamPath_unknown (hinit : w.initialised) (hsize : 2 ≤ c.size)
    (hdevice : w.deviceAt (c.address 0) = none)
    (h : Returns (handleSetStreamPath (react n) c) w r w') (a : Fin 16) :
    (w'.devices a).activeSource = false := by
  have h := returns_ask_bind.mp h
  rw [if_neg (by simp [hinit]), if_pos hsize] at h
  obtain ⟨d, w₁, hd, h⟩ := returns_bind.mp h
  obtain ⟨rfl, rfl⟩ := returns_getDeviceByPhysicalAddress.mp hd
  rw [World.deviceAt] at hdevice
  simp only [hdevice] at h
  obtain ⟨_, w₂, h₂, h⟩ := returns_bind.mp h
  rw [(returns_pure.mp h).2, returns_markAsInactiveSource h₂]
  simp

/-- Afterwards every active device of libCEC has the new address, iff the first device that has it is
    handled by libCEC, or no device has it, or that was so before. -/
theorem handsOver_iff (hinit : w.initialised) (hsize : 2 ≤ c.size)
    (h : Returns (handleSetStreamPath (react n) c) w r w') :
    Follows (c.address 0) w' ↔
      ∀ a, w.deviceAt (c.address 0) = some a → w.isHandled a = false → Follows (c.address 0) w := by
  cases hdevice : w.deviceAt (c.address 0) with
  | none =>
    refine iff_of_true (fun a _ hactive => ?_) (by simp)
    rw [handleSetStreamPath_unknown hinit hsize hdevice h a] at hactive
    exact absurd hactive Bool.false_ne_true
  | some a =>
    cases hhandled : w.isHandled a with
    | false =>
      rw [handleSetStreamPath_foreign hinit hsize hdevice hhandled h]
      exact ⟨fun hw _ _ _ => hw, fun hw => hw a rfl hhandled⟩
    | true =>
      refine iff_of_true (fun b _ hactive => ?_) fun b hb hforeign => ?_
      · have hb := onlySource_handleSetStreamPath hinit hsize hdevice hhandled h b hactive
        have hframe : BusFrame Set.univ w w' :=
          keeps_handleSetStreamPath (reactionsKeep_react n) c _ _ _ h
        rw [hb, hframe.physicalAddress a trivial]
        simpa using List.find?_some hdevice
      · obtain rfl := Option.some.inj hb
        exact absurd (hforeign.symm.trans hhandled) Bool.false_ne_true

end handler

/-- A playback device of libCEC at 1.0.0.0 that is the active source, and a known one at 2.0.0.0. -/
def switchedWorld : World :=
  let w := World.start (fun _ => clientFor [.playbackDevice]) fun _ => .silent
  (w.updateDevice 4 fun d =>
    { d with status := .handledByLibCec, physicalAddress := 0x1000, activeSource := true }).updateDevice
    8 fun d => { d with status := .present, physicalAddress := 0x2000 }

/-- The TV sets the stream path to this address. -/
def streamPathTo (high low : UInt8) : Received :=
  ⟨0, 15, true, 0x86, BoundedBuffer.empty.pushAll [high, low]⟩

/-- Set to the address of the active source itself. -/
theorem handsOver_own : ∃ r w',
    Returns (handleSetStreamPath (react 1) (streamPathTo 0x10 0)) switchedWorld r w' ∧
      Follows ((streamPathTo 0x10 0).address 0) w' := by
  obtain ⟨r, w', h⟩ := exists_returns (x := handleSetStreamPath (react 1) (streamPathTo 0x10 0))
    (s := switchedWorld) (by decide +kernel)
  refine ⟨r, w', h, (handsOver_iff rfl (by decide +kernel) h).mpr fun a ha hforeign => ?_⟩
  have hfour : switchedWorld.deviceAt ((streamPathTo 0x10 0).address 0) = some 4 := by
    decide +kernel
  obtain rfl := Option.some.inj (hfour.symm.trans ha)
  exact absurd hforeign (by decide +kernel)

/-- Set to the address of the known device, the device of libCEC stays the active source. -/
theorem not_handsOver : ¬ ∀ (n : ℕ) (c : Received) (w w' : World) (r : Handling), w.initialised →
    2 ≤ c.size → Returns (handleSetStreamPath (react n) c) w r w' → Follows (c.address 0) w' := by
  intro h
  obtain ⟨r, w', hret⟩ := exists_returns (x := handleSetStreamPath (react 1) (streamPathTo 0x20 0))
    (s := switchedWorld) (by decide +kernel)
  have hfollows := h 1 _ _ _ _ rfl (by decide +kernel) hret
  have hsame : w' = switchedWorld := handleSetStreamPath_foreign (a := 8) rfl (by decide +kernel)
    (by decide +kernel) (by decide +kernel) hret
  rw [hsame] at hfollows
  exact absurd hfollows (by decide +kernel)

end CEC
