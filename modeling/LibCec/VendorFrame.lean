import LibCec.ClientSteps
import LibCec.Isolation

/-! What keeps the vendor ids of the devices that libCEC handles.

    The vendor id of such a device is only set when its address is claimed, and only forgotten
    when the device is reset. `VendorFrame` is what everything after the claim keeps; it is closed
    under the steps of polls and transmissions, and so under all that is made of them. The
    configured ids of the clients are part of it, since registration does not change them. -/

namespace CEC
open Schemes Procedure

/-- Registering, and what it is made of, changes no client's identity. -/
def SameIdentity (s s' : World) : Prop :=
  ∀ d, (s'.configuration d).identity = (s.configuration d).identity

theorem sameIdentity_composable : Composable SameIdentity where
  refl _ _ := rfl
  trans h₁ h₂ d := (h₂ d).trans (h₁ d)

theorem SameIdentity.of_client {s s' : World} (h : s'.client = s.client) : SameIdentity s s' :=
  fun d => by rw [World.configuration, World.configuration, h]

theorem SameIdentity.update {s : World} {c : ClientId} {f : Configuration → Configuration}
    (h : (f (s.configuration c)).identity = (s.configuration c).identity) :
    SameIdentity s (s.updateConfiguration c f) := by
  intro d
  rcases eq_or_ne d c with rfl | hd
  · rw [configuration_updateConfiguration, h]
  · rw [World.configuration, updateConfiguration_client _ _ hd]
    rfl

/-- A change of what a client knows about itself. -/
theorem SameIdentity.flags {s : World} {c : ClientId} {f : Client → Client}
    (h : ∀ k, (f k).configuration = k.configuration) : SameIdentity s (s.updateClient c f) := by
  intro d
  rw [World.configuration, updateClient_client]
  split
  · next hd => rw [h, hd]; rfl
  · rfl

/-- The devices that are handled are the same, and have the vendor ids that they had. -/
structure VendorFrame (s s' : World) : Prop where
  handled : ∀ a, s'.isHandled a = s.isHandled a
  vendor : ∀ a, s.isHandled a → (s'.devices a).vendor = (s.devices a).vendor
  identity : SameIdentity s s'

theorem vendorFrame_composable : Composable VendorFrame where
  refl s := ⟨fun _ => rfl, fun _ _ => rfl, sameIdentity_composable.refl s⟩
  trans h₁ h₂ := {
    handled := fun a => (h₂.handled a).trans (h₁.handled a)
    vendor := fun a ha => (h₂.vendor a ((h₁.handled a).trans ha)).trans (h₁.vendor a ha)
    identity := sameIdentity_composable.trans h₁.identity h₂.identity }

theorem VendorFrame.of_devices {s s' : World} (h : s'.devices = s.devices)
    (hid : SameIdentity s s') : VendorFrame s s' :=
  ⟨fun a => by rw [World.isHandled, World.isHandled, h], fun a _ => by rw [h], hid⟩

/-- Only the device whose status is set may lose its vendor id. -/
theorem vendor_setDeviceStatus {a b : Fin 16} {st : DeviceStatus} {s s' : World} (hb : b ≠ a)
    (h : Returns (setDeviceStatus a st) s () s') :
    (s'.devices b).vendor = (s.devices b).vendor := by
  have hsame : Composable fun s t : World => (t.devices b).vendor = (s.devices b).vendor :=
    ⟨fun _ => rfl, fun h₁ h₂ => h₂.trans h₁⟩
  refine keeps_setDeviceStatus hsame (fun w p => ?_) (fun _ w f _ => ?_) st _ _ _ h
  · obtain ⟨q, sent, hq⟩ := storePowerStatus_device w a b p
    rw [hq]
  · rw [updateDevice_devices, if_neg hb]

instance vendorFrame_steps : BusSteps VendorFrame where
  composable := vendorFrame_composable
  handled h := h.handled
  outside _ _ := .of_devices rfl (.of_client rfl)
  devices hsame _ :=
    ⟨fun a => isHandled_congr (hsame a).1, fun a _ => (hsame a).2.2.2, .of_client rfl⟩
  status {s a st} hother hst hkeep _ s' h := by
    have hframe : BusFrame ∅ s s' := keepsAt_setDeviceStatus hother hst hkeep _ _ h
    refine ⟨hframe.handled, fun b hb => vendor_setDeviceStatus ?_ h, .of_client hframe.client⟩
    rintro rfl
    exact absurd (hother.symm.trans hb) Bool.false_ne_true
  vendor {s a f} hother := by
    refine ⟨fun b => isHandled_congr ?_, fun b hb => ?_, .of_client rfl⟩
    · rw [updateDevice_devices]
      split
      · next hba => rw [hba]
      · rfl
    · rw [updateDevice_devices, if_neg]
      rintro rfl
      exact absurd (hother.symm.trans hb) Bool.false_ne_true

/-! ### Moving and registering a client -/

theorem vendorFrame_update {s : World} {c : ClientId} {f : Configuration → Configuration}
    (h : (f (s.configuration c)).identity = (s.configuration c).identity) :
    VendorFrame s (s.updateConfiguration c f) := .of_devices rfl (.update h)

theorem keeps_vendor_setPhysicalAddress (a : Fin 16) (pa : UInt16) :
    Keeps VendorFrame (setPhysicalAddress a pa) := by
  have hsame : ∀ d : Device, (if pa > 0 then { d with physicalAddress := pa } else d).status =
      d.status ∧ (if pa > 0 then { d with physicalAddress := pa } else d).vendor = d.vendor := by
    intro d
    split <;> exact ⟨rfl, rfl⟩
  refine keeps_update fun s => ⟨fun b => isHandled_congr ?_, fun b _ => ?_, .of_client rfl⟩
  · rw [updateDevice_devices]
    split
    · next hb => rw [(hsame _).1, hb]
    · rfl
  · rw [updateDevice_devices]
    split
    · next hb => rw [(hsame _).2, hb]
    · rfl

instance vendorFrame_clientSteps : ClientSteps VendorFrame where
  moves := keeps_vendor_setPhysicalAddress
  settings := vendorFrame_update
  flags h := .of_devices rfl (.flags h)

end CEC
