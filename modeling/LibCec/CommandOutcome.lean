import LibCec.CommandOutput

/-! Which commands a handler takes.

    `Yields (HandledIff b)` says of a function that it returns `COMMAND_HANDLED` exactly if `b`
    holds, whatever it does before. `World.takes` is the whole table for the commands of the
    unregistered device, which has no address that could be answered. -/

namespace CEC
open Schemes Procedure

/-! ### What a handler takes from the unregistered device -/

/-- The vendor command with an id that the handler takes. -/
def World.takesVendorCommandWithId (h : Handler) (w : World) (c : Received) : Bool :=
  let base := 3 ≤ c.size && (w.devices c.initiator).vendor = 0 && (specificHandler c.vendorId).isSome
  match h with
  | .vl => c.parameter 0 = 0x00 && c.parameter 1 = 0x80 && c.parameter 2 = 0x45 && base
  | .an => base || 4 ≤ c.size && c.parameter 0 = 0x00 && c.parameter 1 = 0x00 &&
      c.parameter 2 = 0xF0 && c.parameter 3 = 0x23
  | .rl => 4 ≤ c.size && c.parameter 0 = 0x00 && c.parameter 1 = 0x00 && c.parameter 2 = 0x39 &&
      ((w.clients c.destination).isSome && rlKey c || base)
  | .rh => false
  | _ => base

/-- The vendor command that the handler takes. -/
def takesVendorCommand (h : Handler) (c : Received) : Bool :=
  match h with
  | .sl => c.size = 1 && (c.parameter 0 = 0x01 || c.parameter 0 = 0x0B || c.parameter 0 = 0xA0) ||
      c.size = 2 && (c.parameter 0 = 0x03 || c.parameter 0 = 0x04)
  | .vl => c.size = 3 && c.parameter 0 = 0x10 && c.parameter 1 = 0x01
  | _ => false

/-- Whether the handler of the unregistered device takes a command to a device of libCEC;
    `repeated` when Philips' handler has just seen the same key. -/
def World.takes (h : Handler) (w : World) (repeated : Bool) (c : Received) : UInt8 → Bool
  | 0x90 | 0x9E => c.size = 1
  | 0x32 | 0x84 => c.size = 3
  | 0x83 | 0x91 | 0x46 | 0x8C | 0x8D | 0x9F | 0x45 | 0x8B => w.responds c
  | 0x8F => h ≠ .sl && w.responds c
  | 0x87 | 0x36 | 0x04 | 0x0D | 0x00 | 0x41 => true
  | 0x85 => h ≠ .sl
  | 0xA0 => w.takesVendorCommandWithId h c
  | 0x89 => takesVendorCommand h c
  | 0x1A => w.responds c && isPlaybackDevice c.destination && (h ≠ .sl || c.size > 0)
  | 0x42 => isPlaybackDevice c.destination && c.size > 0
  | 0x44 => h = .ph && repeated && !mayRepeat (c.parameter 0) || w.responds c && c.size > 0
  | 0x71 | 0x7D | 0x70 => w.responds c && isAudioSystem c.destination
  | 0x86 => w.initialised && 2 ≤ c.size &&
      ((List.finRange 16).find? fun a => (w.devices a).physicalAddress = c.address 0).isSome
  | 0x80 => c.size = 4
  | 0x81 | 0x82 => c.size = 2
  | 0x47 => c.size > 0
  | 0x8A => c.size > 0 && (h ≠ .an || w.initialised && (w.clients c.destination).isSome)
  | _ => false

/-- The handling is `COMMAND_HANDLED` exactly if `b` holds. -/
def HandledIff (b : Bool) (r : Handling) : Prop := r = .handled ↔ b = true

theorem handledIff_handled : HandledIff true .handled := by simp [HandledIff]

theorem handledIff_abort (reason : AbortReason) : HandledIff false (.abort reason) := by
  simp [HandledIff]

section yields

variable {w : World} {c : Received} {b : Bool}

/-- Whatever is done first, the command is handled. -/
theorem yields_handled {S α : Type} {s : S} (x : Procedure S α) (hb : b = true) :
    Yields (HandledIff b) s (x >>= fun _ => pure .handled) :=
  yields_bind fun _ _ _ => yields_pure (hb ▸ handledIff_handled)

theorem yields_abort {S : Type} {s : S} (reason : AbortReason) (hb : b = false) :
    Yields (HandledIff b) s (pure (.abort reason) : Procedure S Handling) :=
  yields_pure (hb ▸ handledIff_abort reason)

theorem yields_report {accepted : Bool} (hb : b = accepted) : Yields (HandledIff b) w (report accepted) := by
  subst hb
  refine yields_pure ?_
  cases b
  · exact handledIff_abort _
  · exact handledIff_handled

theorem yields_reply {otherwise : AbortReason} {ofType : Bool} {x : Proc Unit}
    (hb : b = (w.responds c && ofType)) : Yields (HandledIff b) w (reply c otherwise ofType x) := by
  refine yields_ask_bind (yields_ite (fun hr => ?_) fun hr => ?_)
  · refine yields_ite (fun ht => yields_handled x ?_) fun ht => yields_abort _ ?_
    · simp [hb, hr, ht]
    · simpa [hb, hr] using ht
  · exact yields_abort _ (by simpa [hb] using fun h => absurd h hr)

theorem yields_handleDeviceVendorCommandWithId {s : Session}
    (hb : b = s.world.takesVendorCommandWithId .base c) :
    Yields (HandledIff b) s (handleDeviceVendorCommandWithId c) := by
  refine yields_ask_bind (yields_ite (fun hsize => yields_abort _ ?_) fun hsize => ?_)
  · simp [hb, World.takesVendorCommandWithId, hsize]
  · refine yields_bind fun _ s₁ _ => ?_
    by_cases ht : (s.world.devices c.initiator).vendor = 0 ∧ (specificHandler c.vendorId).isSome
    · rw [if_pos ht]
      refine yields_handled _ ?_
      simp [hb, World.takesVendorCommandWithId, ht, Nat.not_lt.mp hsize]
    · rw [if_neg ht]
      have hb : b = false := by
        simpa [hb, World.takesVendorCommandWithId, Nat.not_lt.mp hsize] using ht
      exact yields_ite (fun _ => yields_abort _ hb) fun _ => yields_abort _ hb

theorem yields_handleUserControlRelease (hb : b = w.responds c) :
    Yields (HandledIff b) w (handleUserControlRelease c) := by
  refine yields_ask_bind (yields_pure ?_)
  subst hb
  cases w.responds c
  · exact handledIff_abort _
  · exact handledIff_handled

section reactions

variable (react : Reaction → Proc Unit)

theorem yields_handleUserControlPressed (hb : b = (w.responds c && c.size > 0)) :
    Yields (HandledIff b) w (handleUserControlPressed react c) := by
  refine yields_ask_bind (yields_ask_bind ?_)
  refine yields_ite (fun hr => yields_abort _ ?_) fun hr => ?_
  · simp [hb, Bool.eq_false_iff.mpr (by simpa using hr)]
  · refine yields_ite (fun hz => yields_abort _ (by simp [hb, hz])) fun hz => ?_
    have hb : b = true := by
      simp only [Bool.not_eq_true, Bool.not_eq_false'] at hr
      simp [hb, hr, Nat.pos_of_ne_zero hz]
    exact yields_ite (fun _ => yields_handled _ hb) fun _ => yields_handled _ hb

theorem yields_handleSetStreamPath (hb : b = (w.initialised && 2 ≤ c.size &&
      ((List.finRange 16).find? fun a => (w.devices a).physicalAddress = c.address 0).isSome)) :
    Yields (HandledIff b) w (handleSetStreamPath react c) := by
  refine yields_ask_bind (yields_ite (fun hi => yields_abort _ ?_) fun hi => ?_)
  · simp [hb, Bool.eq_false_iff.mpr (by simpa using hi)]
  · refine yields_ite (fun hz => ?_) fun hz => yields_abort _ (by simp [hb, hz])
    refine yields_bind fun device w₁ h₁ => ?_
    obtain ⟨rfl, rfl⟩ := returns_getDeviceByPhysicalAddress.mp h₁
    simp only [Bool.not_eq_true, Bool.not_eq_false'] at hi
    split
    · next a ha => exact yields_ask_bind (yields_ask_bind (yields_handled _ (by simp [hb, hi, hz, ha])))
    · next ha => exact yields_bind fun _ _ _ => yields_abort _ (by simp [hb, ha])

theorem yields_handleSystemAudioModeRequest
    (hb : b = (w.responds c && isAudioSystem c.destination)) :
    Yields (HandledIff b) w (handleSystemAudioModeRequest react c) := by
  refine yields_ask_bind (yields_ite (fun hr => ?_) fun hr => yields_abort _ ?_)
  · refine yields_bind fun _ s₁ _ => yields_handled _ (by simpa [hb] using hr)
  · simpa [hb] using hr

end reactions

theorem yields_handleGiveDeviceVendorId {s : Session} (hb : b = s.world.responds c) :
    Yields (HandledIff b) s (handleGiveDeviceVendorId c) := by
  refine yields_ask_bind (yields_ask_bind (yields_ite (fun hr => ?_) fun hr => ?_))
  · have hb : b = true := by simpa [hb] using hr
    exact yields_ite (fun _ => yields_handled _ hb) fun _ => yields_handled _ hb
  · exact yields_abort _ (by simpa [hb] using hr)

theorem yields_handleSetMenuLanguage {s : Session} (hb : b = (c.size = 3 : Bool)) :
    Yields (HandledIff b) s (handleSetMenuLanguage c) :=
  yields_ite (fun hz => yields_handled _ (by simp [hb, hz])) fun hz =>
    yields_abort _ (by simp [hb, hz])

theorem returns_ownFlag {w w' : World} {flag : Bool} (h : Returns ownFlag w flag w') :
    flag = (w.outside 0).ownFlag ∧ w' = w.afterAnswer := by
  obtain ⟨o, w₁, h₁, h⟩ := returns_bind.mp h
  obtain ⟨rfl, rfl⟩ := returns_observe.mp h₁
  exact returns_pure.mp h

/-! ### The vendors' functions, for a command of the unregistered device -/

theorem yields_slHandleVendorCommand (react : Reaction → Proc Unit)
    (hd : w.isHandled c.destination) (hb : b = takesVendorCommand .sl c) :
    Yields (HandledIff b) w (slHandleVendorCommand react c) := by
  have hsplit : b = (c.size = 1 && (c.parameter 0 = 0x01 || c.parameter 0 = 0x0B ||
      c.parameter 0 = 0xA0) || c.size = 2 && (c.parameter 0 = 0x03 || c.parameter 0 = 0x04)) := hb
  refine yields_ask_bind (yields_ite (fun h => absurd h.1 (by simp [hd])) fun _ => ?_)
  refine yields_ite (fun h => yields_handled _ (by simp [hsplit, h])) fun h₁ => ?_
  refine yields_ite (fun h => yields_handled _ (by simp [hsplit, h])) fun h₂ => ?_
  refine yields_ite (fun h => yields_handled _ (by simp [hsplit, h])) fun h₃ => ?_
  refine yields_ite (fun h => yields_handled _ ?_) fun h₄ => yields_abort _ ?_
  · rcases h with ⟨hz, hp | hp⟩ <;> simp [hsplit, hz, hp]
  · grind

theorem yields_slHandleGiveDeckStatus (react : Reaction → Proc Unit)
    (hb : b = (w.responds c && isPlaybackDevice c.destination && c.size > 0)) :
    Yields (HandledIff b) w (slHandleGiveDeckStatus react c) := by
  refine yields_ask_bind (yields_ask_bind (yields_ite (fun hr => yields_abort _ ?_) fun hr => ?_))
  · simp [hb, Bool.eq_false_iff.mpr (by simpa using hr)]
  · refine yields_ite (fun h => yields_abort _ ?_) fun h => ?_
    · rcases h with h | h
      · simp [hb, Bool.eq_false_iff.mpr (by simpa using h)]
      · simp [hb, h]
    · simp only [Bool.not_eq_true, Bool.not_eq_false', not_or] at hr h
      have hb : b = true := by simp [hb, hr, h, Nat.pos_of_ne_zero h.2]
      have hbase : Yields (HandledIff b) w (handleGiveDeckStatus c) :=
        yields_reply (by simp [hb, hr, h])
      refine yields_ite (fun _ => hbase) fun _ => yields_ite (fun _ => ?_) fun _ => ?_
      · exact yields_bind fun _ _ _ => yields_handled _ hb
      · exact yields_ite (fun _ => yields_handled _ hb) fun _ => hbase

/-- Only the TV's routing changes are suppressed. -/
theorem returns_suppressTvRoutingChange {w' : World} {r : Bool} (hc : c.initiator = 15)
    (h : Returns (suppressTvRoutingChange c) w r w') : r = false ∧ w' = w := by
  rw [suppressTvRoutingChange, if_pos (by simp [hc])] at h
  exact returns_pure.mp h

/-- Only the TV's route is claimed. -/
theorem returns_claimRouteWhilePoweringUp {react : Reaction → Proc Unit} {w' : World} {r : Bool}
    {old new : UInt16} (hc : c.initiator = 15)
    (h : Returns (claimRouteWhilePoweringUp react c old new) w r w') :
    r = false ∧ w' = w.afterAnswer.afterAnswer := by
  obtain ⟨f₁, w₁, h₁, h⟩ := returns_bind.mp h
  obtain ⟨f₂, w₂, h₂, h⟩ := returns_bind.mp h
  obtain ⟨-, rfl⟩ := returns_ownFlag h₁
  obtain ⟨-, rfl⟩ := returns_ownFlag h₂
  have h := returns_ask_bind.mp h
  rw [if_pos (.inl (by simp [hc]))] at h
  exact returns_pure.mp h

theorem yields_phHandleUserControlPressed (react : Reaction → Proc Unit)
    (hb : b = ((w.outside 0).ownFlag && !mayRepeat (c.parameter 0) ||
      w.responds c && c.size > 0)) :
    Yields (HandledIff b) w (phHandleUserControlPressed react c) := by
  refine yields_bind fun repeated w₁ h₁ => ?_
  obtain ⟨rfl, rfl⟩ := returns_ownFlag h₁
  refine yields_ite (fun h => yields_pure ?_) fun h => ?_
  · rw [hb, h.1, h.2]
    exact handledIff_handled
  · have hsame : b = (w.responds c && c.size > 0) := by
      rw [hb]
      grind
    refine yields_bind fun _ w₂ h₂ => yields_handleUserControlPressed react ?_
    rcases returns_callOr.mp h₂ with ⟨-, h₂⟩ | ⟨-, -, rfl⟩
    · obtain ⟨r, h₂⟩ := returns_discard.mp h₂
      obtain ⟨-, rfl⟩ := returns_pure.mp (returns_ask_bind.mp h₂)
      exact hsame
    · exact hsame

theorem yields_vlHandleDeviceVendorCommandWithId (react : Reaction → Proc Unit) {s : Session}
    (hc : c.initiator = 15) (hd : s.world.isHandled c.destination)
    (hb : b = s.world.takesVendorCommandWithId .vl c) :
    Yields (HandledIff b) s (vlHandleDeviceVendorCommandWithId react c) := by
  have hsplit : b = (c.parameter 0 = 0x00 && c.parameter 1 = 0x80 && c.parameter 2 = 0x45 &&
      s.world.takesVendorCommandWithId .base c) := hb
  refine yields_ask_bind (yields_ite (fun h => absurd h.1 (by simp [hd])) fun _ => ?_)
  refine yields_ite (fun h => yields_abort _ ?_) fun h => ?_
  · rcases h with h | h | h <;> simp [hsplit, h]
  · refine yields_ite (fun h => absurd h.1 (by simp [hc])) fun _ => ?_
    refine yields_ite (fun h => absurd h.1 (by simp [hc])) fun _ => ?_
    refine yields_handleDeviceVendorCommandWithId ?_
    simp only [not_or, not_not] at h
    simp [hsplit, h]

theorem yields_anHandleDeviceVendorCommandWithId (react : Reaction → Proc Unit) {s : Session}
    (hb : b = s.world.takesVendorCommandWithId .an c) :
    Yields (HandledIff b) s (anHandleDeviceVendorCommandWithId react c) := by
  have hsplit : b = (s.world.takesVendorCommandWithId .base c || (4 ≤ c.size &&
      c.parameter 0 = 0x00 && c.parameter 1 = 0x00 && c.parameter 2 = 0xF0 &&
      c.parameter 3 = 0x23 : Bool)) := hb
  refine yields_ite (fun h => yields_handleDeviceVendorCommandWithId ?_) fun h =>
    yields_handled _ ?_
  · rw [hsplit]
    rcases h with h | h | h | h | h
    · simp [Nat.not_le.mpr h]
    all_goals simp [h]
  · simp only [not_or, not_not, Nat.not_lt] at h
    simp [hsplit, h]

theorem yields_rlHandleDeviceVendorCommandWithId {s : Session}
    (hd : s.world.isHandled c.destination) (hb : b = s.world.takesVendorCommandWithId .rl c) :
    Yields (HandledIff b) s (rlHandleDeviceVendorCommandWithId c) := by
  have hsplit : b = (4 ≤ c.size && c.parameter 0 = 0x00 && c.parameter 1 = 0x00 &&
      c.parameter 2 = 0x39 && ((s.world.clients c.destination).isSome && rlKey c ||
        s.world.takesVendorCommandWithId .base c)) := hb
  refine yields_ask_bind (yields_ite (fun h => absurd h.1 (by simp [hd])) fun _ => ?_)
  refine yields_ite (fun h => yields_abort _ (by simp [hsplit, Nat.not_le.mpr h])) fun hsize => ?_
  refine yields_ite (fun h => yields_abort _ ?_) fun hid => ?_
  · rcases h with h | h | h <;> simp [hsplit, h]
  · simp only [not_or, not_not] at hid
    have hid' : b = ((s.world.clients c.destination).isSome && rlKey c ||
        s.world.takesVendorCommandWithId .base c) := by
      simp [hsplit, Nat.not_lt.mp hsize, hid]
    refine yields_ite (fun h => yields_pure ?_) fun h =>
      yields_handleDeviceVendorCommandWithId ?_
    · rw [hid', h.1, h.2]
      exact handledIff_handled
    · rw [hid']
      grind

theorem yields_anHandleVendorRemoteButtonDown
    (hb : b = (c.size > 0 && (w.initialised && (w.clients c.destination).isSome))) :
    Yields (HandledIff b) w (anHandleVendorRemoteButtonDown c) := by
  refine yields_ask_bind (yields_ite (fun h => yields_abort _ (by simp [hb, h])) fun hz => ?_)
  refine yields_ite (fun h => yields_abort _ ?_) fun h => yields_pure ?_
  · rcases h with h | h
    · simp [hb, Bool.eq_false_iff.mpr (by simpa using h)]
    · simp [hb, show w.clients c.destination = none from h]
  · simp only [not_or, Bool.not_eq_true, Bool.not_eq_false', id_eq] at h
    rw [hb, h.1, Option.isSome_iff_ne_none.mpr h.2, decide_eq_true (Nat.pos_of_ne_zero hz)]
    exact handledIff_handled

theorem yields_handleDeviceVendorId (hb : b = true) :
    Yields (HandledIff b) w (handleDeviceVendorId c) :=
  yields_bind fun _ _ _ => yields_ask_bind (yields_handled _ hb)

theorem yields_handleGiveDevicePowerStatus (hb : b = w.responds c) :
    Yields (HandledIff b) w (handleGiveDevicePowerStatus c) := yields_reply (by simp [hb])

theorem yields_handleActiveSource (react : Reaction → Proc Unit) {s : Session}
    (hb : b = (c.size = 2 : Bool)) : Yields (HandledIff b) s (handleActiveSource react c) :=
  yields_ite (fun hz => yields_bind fun _ _ _ => yields_handled _ (by simp [hb, hz])) fun hz =>
    yields_abort _ (by simp [hb, hz])

theorem yields_handleRoutingChange (react : Reaction → Proc Unit)
    (hb : b = (c.size = 4 : Bool)) : Yields (HandledIff b) w (handleRoutingChange react c) :=
  yields_ite (fun hz => yields_bind fun _ _ _ => yields_handled _ (by simp [hb, hz])) fun hz =>
    yields_abort _ (by simp [hb, hz])

/-- A command of the audio system, and the unregistered device is none. -/
theorem yields_reportOfAudioSystem (hc : c.initiator = 15) (hb : b = false) :
    Yields (HandledIff b) w (report (c.size = 1 ∧ isAudioSystem c.initiator)) :=
  yields_report (by simp [hb, hc, isAudioSystem, deviceType])

/-- Each handler takes exactly these commands of the unregistered device. -/
theorem yields_handlerFor (react : Reaction → Proc Unit) (h : Handler) {s : Session}
    (hc : c.initiator = 15) (hd : s.world.isHandled c.destination) :
    Yields (HandledIff (s.world.takes h (s.world.outside 0).ownFlag c c.opcode)) s
      (handlerFor react h c) := by
  unfold handlerFor
  split
  all_goals rename_i hx
  all_goals try rw [hx]
  · exact yields_zoom (yields_ite (fun hz => yields_handled _ (decide_eq_true hz)) fun hz =>
      yields_abort _ (decide_eq_false hz))
  · exact yields_zoom (yields_report rfl)
  · refine yields_ite (fun _ => ?_) fun _ => yields_handleSetMenuLanguage rfl
    exact yields_ask_bind (yields_bind fun _ _ _ => yields_handleSetMenuLanguage rfl)
  · have hbase : Yields (HandledIff (s.world.responds c)) s.world (handleGivePhysicalAddress c) :=
      yields_reply (by simp)
    refine yields_zoom (yields_ite (fun _ => ?_) fun _ => hbase)
    refine yields_bind fun r w₁ h₁ => yields_bind fun _ w₂ _ => ?_
    exact yields_bind fun _ w₃ _ => yields_pure (hbase r w₁ h₁)
  · refine yields_ask_bind (yields_ite (fun hr => yields_handled _ hr) fun hr => yields_abort _ ?_)
    exact Bool.eq_false_iff.mpr hr
  · exact yields_zoom (yields_reply (by simp [World.takes]))
  · have hbase := yields_handleGiveDeviceVendorId (s := s) (c := c) rfl
    refine yields_ite (fun _ => ?_) fun _ => hbase
    refine yields_bind fun r w₁ h₁ => yields_bind fun _ w₂ _ => ?_
    exact yields_bind fun _ w₃ _ => yields_pure (hbase r w₁ h₁)
  · refine yields_zoom (yields_ite (fun _ => ?_) fun _ => yields_handleDeviceVendorId rfl)
    exact yields_bind fun _ _ _ => yields_handleDeviceVendorId rfl
  · cases h with
    | vl => exact yields_vlHandleDeviceVendorCommandWithId react hc hd rfl
    | an => exact yields_anHandleDeviceVendorCommandWithId react rfl
    | rl => exact yields_rlHandleDeviceVendorCommandWithId hd rfl
    | rh => exact yields_zoom (yields_abort _ rfl)
    | _ => exact yields_handleDeviceVendorCommandWithId rfl
  · refine yields_zoom (yields_ite (fun hsl => ?_) fun hsl => ?_)
    · exact yields_slHandleGiveDeckStatus react (by simp [World.takes, hsl])
    · exact yields_reply (by simp [World.takes, hsl])
  · exact yields_zoom (yields_report (by simp [World.takes]))
  · exact yields_zoom (yields_reply (by simp [World.takes]))
  · refine yields_zoom ?_
    cases h with
    | sl =>
      refine yields_ask_bind (yields_ask_bind (yields_ite (fun _ => yields_abort _ rfl) fun hi => ?_))
      exact absurd hc (by simp_all)
    | an =>
      refine yields_ask_bind (yields_ite (fun hr => ?_) fun _ => ?_)
      · exact yields_bind fun _ _ _ => yields_handled _ hr.1
      · exact yields_handleGiveDevicePowerStatus rfl
    | sy =>
      refine yields_ask_bind (yields_ite (fun hr => yields_handled _ hr.1) fun _ => ?_)
      exact yields_handleGiveDevicePowerStatus rfl
    | _ => exact yields_handleGiveDevicePowerStatus rfl
  · exact yields_zoom (yields_reply (by simp [World.takes]))
  · refine yields_zoom (yields_ite (fun hph => ?_) fun hph => ?_)
    · exact yields_phHandleUserControlPressed react (by simp [World.takes, hph])
    · exact yields_handleUserControlPressed react (by simp [World.takes, hph])
  · exact yields_zoom (yields_handleUserControlRelease rfl)
  · exact yields_zoom (yields_reply rfl)
  · exact yields_zoom (yields_reply rfl)
  · refine yields_zoom (yields_ite (fun _ => ?_) fun _ =>
      yields_handleSystemAudioModeRequest react rfl)
    refine yields_bind fun _ w₁ h₁ => yields_handleSystemAudioModeRequest react ?_
    obtain ⟨hi, -⟩ | ⟨-, -, rfl⟩ := returns_callOr.mp h₁
    · exact absurd hi (by simp [hc])
    · rfl
  · exact yields_zoom (yields_reportOfAudioSystem hc rfl)
  · exact yields_zoom (yields_reportOfAudioSystem hc rfl)
  · exact yields_zoom (yields_reportOfAudioSystem hc rfl)
  · refine yields_zoom (yields_ite (fun hsl => ?_) fun hsl => ?_)
    · refine yields_ask_bind (yields_ask_bind (yields_bind fun _ _ _ => yields_abort _ ?_))
      simp [World.takes, hsl]
    · exact yields_ask_bind (yields_handled _ (by simp [World.takes, hsl]))
  · refine yields_zoom ?_
    have hbase : Yields (HandledIff (s.world.takes h (s.world.outside 0).ownFlag c 0x86)) s.world
        (handleSetStreamPath react c) := yields_handleSetStreamPath react rfl
    cases h with
    | sl =>
      refine yields_bind fun suppressed w₁ h₁ => ?_
      obtain ⟨rfl, rfl⟩ := returns_suppressTvRoutingChange hc h₁
      exact hbase
    | ph =>
      refine yields_bind fun claimed w₁ h₁ => ?_
      obtain ⟨-, h₁⟩ | ⟨-, rfl, rfl⟩ := returns_callOr.mp h₁
      · obtain ⟨rfl, rfl⟩ := returns_claimRouteWhilePoweringUp hc h₁
        exact yields_handleSetStreamPath react rfl
      · exact hbase
    | _ => exact hbase
  · refine yields_zoom (yields_ite (fun _ => ?_) fun _ => yields_handleRoutingChange react rfl)
    refine yields_bind fun claimed w₁ h₁ => yields_ite (fun hclaimed => ?_) fun _ =>
      yields_handleRoutingChange react rfl
    obtain ⟨-, h₁⟩ | ⟨-, rfl, -⟩ := returns_callOr.mp h₁
    · exact absurd hclaimed (by simp [(returns_claimRouteWhilePoweringUp hc h₁).1])
    · exact absurd hclaimed nofun
  · exact yields_zoom (yields_ite (fun hz => yields_handled _ (decide_eq_true hz)) fun hz =>
      yields_abort _ (decide_eq_false hz))
  · refine yields_zoom (yields_ite (fun _ => ?_) fun _ => yields_handled _ rfl)
    exact yields_ask_bind (yields_bind fun _ _ _ => yields_handled _ rfl)
  · refine yields_ite (fun _ => ?_) fun _ => yields_handleActiveSource react rfl
    refine yields_bind fun suppressed s₁ h₁ => yields_ite (fun hsuppressed => ?_) fun _ =>
      yields_handleActiveSource react rfl
    obtain ⟨w₁, h₁, -⟩ := returns_zoom.mp h₁
    exact absurd hsuppressed (by simp [(returns_suppressTvRoutingChange hc h₁).1])
  · refine yields_zoom (yields_ite (fun hz => ?_) fun hz => yields_abort _ (decide_eq_false hz))
    refine yields_bind fun _ _ _ => yields_ask_bind (yields_handled _ (decide_eq_true hz))
  · exact yields_zoom (yields_report rfl)
  · exact yields_zoom (yields_ask_bind (yields_handled _ rfl))
  · exact yields_zoom (yields_handled _ rfl)
  · refine yields_ite (fun _ => ?_) fun _ => yields_handled _ rfl
    refine yields_ask_bind (yields_bind fun _ _ _ => ?_)
    exact yields_ite (fun _ => yields_handled _ rfl) fun _ => yields_handled _ rfl
  · refine yields_zoom ?_
    cases h with
    | sl => exact yields_slHandleVendorCommand react hd rfl
    | vl =>
      refine yields_ask_bind (yields_ite (fun hp => ?_) fun hp => yields_abort _ ?_)
      · refine yields_ask_bind (yields_bind fun _ _ _ => yields_ask_bind (yields_handled _ ?_))
        simp [World.takes, takesVendorCommand, hp]
      · simp only [hd, and_true, not_and] at hp
        simp only [World.takes, takesVendorCommand]
        grind
    | _ => exact yields_abort _ rfl
  · refine yields_zoom (yields_ite (fun han => ?_) fun han => ?_)
    · exact yields_anHandleVendorRemoteButtonDown (by simp [World.takes, han])
    · exact yields_report (by simp [World.takes, han])
  · exact yields_zoom (yields_handleUserControlRelease rfl)
  · exact yields_pure handledIff_handled
  · refine yields_abort _ ?_
    unfold World.takes
    split
    all_goals first | rfl | contradiction

end yields

/-- A feature abort is never refused. -/
theorem yields_featureAbort (react : Reaction → Proc Unit) (h : Handler) {c : Received}
    {s : Session} (hopcode : c.opcode = opcodeFeatureAbort) :
    Yields (HandledIff true) s (handlerFor react h c) := by
  have heq : handlerFor react h c =
      if h = .sl then slHandleFeatureAbort c else handleFeatureAbort c := by
    unfold handlerFor
    rw [hopcode]
    rfl
  rw [heq]
  refine yields_ite (fun _ => ?_) fun _ => yields_handled _ rfl
  refine yields_ask_bind (yields_bind fun _ _ _ => ?_)
  exact yields_ite (fun _ => yields_handled _ rfl) fun _ => yields_handled _ rfl

end CEC
