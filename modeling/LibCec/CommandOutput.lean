import LibCec.CommandFrame

/-! What the handling of a command sends and signals.

    A handler may transmit feature aborts and signal events; everything else that it does stays in
    the world. `Outputs A E` allows the feature aborts in `A` and the events in `E`, and each
    handler has little need of either:

        GIVE_DEVICE_VENDOR_ID, GET_MENU_LANGUAGE ──▶ a feature abort, when there is no answer
        ACTIVE_SOURCE ──▶ the event of the opcode, on every device
        FEATURE_ABORT ──▶ the event of the response to the aborted opcode

    `handleCommand_cases` adds what the dispatcher does with the result. -/

namespace CEC
open Schemes Procedure

/-- A device and an opcode that a thread may wait for. -/
abbrev EventKey := Fin 16 × UInt8

/-- Only these feature aborts are transmitted and only these events are signalled. -/
def Outputs (A : Set AbortFrame) (E : Set EventKey) (s s' : Session) : Prop :=
  (∃ frames, s'.aborts = s.aborts ++ frames ∧ ∀ f ∈ frames, f ∈ A) ∧
    ∃ events, s'.signals = s.signals ++ events ∧ ∀ e ∈ events, e ∈ E

/-- The events that the handling of a command may signal. -/
def Received.causes (c : Received) : Set EventKey :=
  { e | c.opcodeSet ∧ (e = (c.initiator, c.signalled) ∨ (c.opcode = 0x82 ∧ e.2 = 0x82) ∨
    c.opcode = opcodeFeatureAbort ∧ c.size = 2 ∧
      e = (c.initiator, getResponseOpcode (c.parameter 0))) }

instance (c : Received) (e : EventKey) : Decidable (e ∈ c.causes) :=
  inferInstanceAs (Decidable (_ ∧ (_ ∨ (_ ∧ _) ∨ _ ∧ _ ∧ _)))

section outputs

variable {A : Set AbortFrame} {E : Set EventKey}

theorem outputs_composable : Composable (Outputs A E) where
  refl s := ⟨⟨[], by simp⟩, [], by simp⟩
  trans := by
    rintro s t u ⟨⟨f₁, hf₁, hA₁⟩, e₁, he₁, hE₁⟩ ⟨⟨f₂, hf₂, hA₂⟩, e₂, he₂, hE₂⟩
    refine ⟨⟨f₁ ++ f₂, by rw [hf₂, hf₁, List.append_assoc], ?_⟩,
      e₁ ++ e₂, by rw [he₂, he₁, List.append_assoc], ?_⟩
    · exact List.forall_mem_append.mpr ⟨hA₁, hA₂⟩
    · exact List.forall_mem_append.mpr ⟨hE₁, hE₂⟩

/-- Nothing is transmitted or signalled. -/
theorem outputs_same {s s' : Session} (ha : s'.aborts = s.aborts) (hs : s'.signals = s.signals) :
    Outputs A E s s' := ⟨⟨[], by simp [ha]⟩, [], by simp [hs]⟩

theorem Outputs.aborts_eq {s s' : Session} (h : Outputs ∅ E s s') : s'.aborts = s.aborts := by
  obtain ⟨⟨frames, hframes, hnone⟩, -⟩ := h
  rw [hframes, List.eq_nil_iff_forall_not_mem.mpr hnone, List.append_nil]

theorem Outputs.signals_eq {s s' : Session} (h : Outputs A ∅ s s') : s'.signals = s.signals := by
  obtain ⟨-, events, hevents, hnone⟩ := h
  rw [hevents, List.eq_nil_iff_forall_not_mem.mpr hnone, List.append_nil]

theorem keeps_outputs_onWorld {α : Type} (x : Proc α) : Keeps (Outputs A E) (onWorld x) := by
  intro s a s' h
  obtain ⟨w, -, rfl⟩ := returns_zoom.mp h
  exact outputs_same rfl rfl

theorem keeps_outputs_signalOpcode {a : Fin 16} {x : UInt8} (h : (a, x) ∈ E) :
    Keeps (Outputs A E) (signalOpcode a x) :=
  keeps_update fun _ => ⟨⟨[], by simp⟩, [(a, x)], rfl, by simpa using h⟩

theorem keeps_outputs_transmitAbort {source destination : Fin 16} {x : UInt8}
    {reason : AbortReason} (h : ⟨source, destination, x, reason⟩ ∈ A) :
    Keeps (Outputs A E) (transmitAbort source destination x reason) := by
  have hO := outputs_composable (A := A) (E := E)
  refine keeps_bind hO (keeps_discard (keeps_outputs_onWorld _)) fun _ => keeps_update fun _ => ?_
  exact ⟨⟨_, rfl, by simpa using h⟩, [], by simp⟩

theorem keeps_outputs_unhandledCommand {c : Received} {r : AbortReason}
    (h : ⟨c.destination, c.initiator, c.opcode, r⟩ ∈ A) :
    Keeps (Outputs A E) (unhandledCommand c r) := by
  have hO := outputs_composable (A := A) (E := E)
  refine keeps_bind hO (keeps_ask hO _) fun handled => ?_
  exact keeps_callOr hO (keeps_outputs_transmitAbort h)

theorem keeps_outputs_handleSetMenuLanguage (c : Received) :
    Keeps (Outputs A E) (handleSetMenuLanguage c) := by
  have hO := outputs_composable (A := A) (E := E)
  refine keeps_ite (fun _ => ?_) fun _ => keeps_pure hO _
  exact keeps_bind hO (keeps_update fun _ => outputs_same rfl rfl) fun _ => keeps_pure hO _

theorem keeps_outputs_handleDeviceVendorCommandWithId (c : Received) :
    Keeps (Outputs A E) (handleDeviceVendorCommandWithId c) := by
  have hO := outputs_composable (A := A) (E := E)
  refine keeps_bind hO (keeps_ask hO _) fun vendor => ?_
  refine keeps_ite (fun _ => keeps_pure hO _) fun _ => ?_
  refine keeps_bind hO (keeps_callOr hO (keeps_outputs_onWorld _)) fun _ => ?_
  refine keeps_ite (fun _ => ?_) fun _ => keeps_ite (fun _ => keeps_pure hO _) fun _ =>
    keeps_pure hO _
  exact keeps_bind hO (keeps_update fun _ => outputs_same rfl rfl) fun _ => keeps_pure hO _

theorem keeps_outputs_handleGiveMenuLanguage {c : Received}
    (h : ⟨c.destination, c.initiator, 0x8C, .unrecognizedOpcode⟩ ∈ A) :
    Keeps (Outputs A E) (handleGiveMenuLanguage c) := by
  have hO := outputs_composable (A := A) (E := E)
  refine keeps_bind hO (keeps_ask hO _) fun responds => ?_
  refine keeps_ite (fun _ => keeps_bind hO ?_ fun _ => keeps_pure hO _) fun _ => keeps_pure hO _
  refine keeps_bind hO (keeps_ask hO _) fun language => ?_
  refine keeps_ite (fun _ => keeps_outputs_transmitAbort h) fun _ => ?_
  exact keeps_discard (keeps_outputs_onWorld _)

theorem keeps_outputs_handleGiveDeviceVendorId {c : Received}
    (h : ⟨c.destination, c.initiator, 0x8C, .unrecognizedOpcode⟩ ∈ A) :
    Keeps (Outputs A E) (handleGiveDeviceVendorId c) := by
  have hO := outputs_composable (A := A) (E := E)
  refine keeps_bind hO (keeps_ask hO _) fun responds => ?_
  refine keeps_bind hO (keeps_ask hO _) fun vendor => ?_
  refine keeps_ite (fun _ => keeps_ite (fun _ => ?_) fun _ => ?_) fun _ => keeps_pure hO _
  · exact keeps_bind hO (keeps_outputs_transmitAbort h) fun _ => keeps_pure hO _
  · exact keeps_bind hO (keeps_outputs_onWorld _) fun _ => keeps_pure hO _

theorem keeps_outputs_handleFeatureAbort {c : Received}
    (h : c.size = 2 → (c.initiator, getResponseOpcode (c.parameter 0)) ∈ E) :
    Keeps (Outputs A E) (handleFeatureAbort c) := by
  have hO := outputs_composable (A := A) (E := E)
  by_cases hsize : c.size = 2
  · refine keeps_bind hO (keeps_callOr hO ?_) fun _ => keeps_pure hO _
    refine keeps_ite (fun _ => keeps_pure hO _) fun _ => ?_
    exact keeps_bind hO (keeps_outputs_onWorld _) fun _ => keeps_outputs_signalOpcode (h hsize)
  · refine keeps_bind hO ?_ fun _ => keeps_pure hO _
    exact keeps_ite (fun hmark => absurd hmark.1 hsize) fun _ => keeps_pure hO _

section reactions

variable (react : Reaction → Proc Unit)

theorem keeps_outputs_handleActiveSource {c : Received} (h : ∀ a, (a, c.opcode) ∈ E) :
    Keeps (Outputs A E) (handleActiveSource react c) := by
  have hO := outputs_composable (A := A) (E := E)
  refine keeps_ite (fun _ => ?_) fun _ => keeps_pure hO _
  refine keeps_bind hO (keeps_outputs_onWorld _) fun _ => ?_
  refine keeps_bind hO (keeps_update fun _ => ⟨⟨[], by simp⟩, _, rfl, ?_⟩) fun _ => keeps_pure hO _
  intro e he
  obtain ⟨a, -, rfl⟩ := List.mem_map.mp he
  exact h a

/-- The vendors' functions for a vendor command with an id. -/
theorem keeps_outputs_vendorCommandWithId (c : Received) :
    Keeps (Outputs A E) (vlHandleDeviceVendorCommandWithId react c) ∧
      Keeps (Outputs A E) (anHandleDeviceVendorCommandWithId react c) ∧
      Keeps (Outputs A E) (rlHandleDeviceVendorCommandWithId c) := by
  have hO := outputs_composable (A := A) (E := E)
  have hbase := keeps_outputs_handleDeviceVendorCommandWithId (A := A) (E := E) c
  have hworld (x : Proc Unit) (r : Handling) :
      Keeps (Outputs A E) (onWorld x >>= fun _ => pure r) :=
    keeps_bind hO (keeps_outputs_onWorld x) fun _ => keeps_pure hO r
  refine ⟨?_, ?_, ?_⟩
  · refine keeps_bind hO (keeps_ask hO _) fun handled => ?_
    refine keeps_ite (fun _ => keeps_pure hO _) fun _ => ?_
    refine keeps_ite (fun _ => keeps_pure hO _) fun _ => ?_
    exact keeps_ite (fun _ => hworld _ _) fun _ => keeps_ite (fun _ => hworld _ _) fun _ => hbase
  · exact keeps_ite (fun _ => hbase) fun _ => hworld _ _
  · refine keeps_bind hO (keeps_ask hO _) fun w => ?_
    refine keeps_ite (fun _ => keeps_pure hO _) fun _ => ?_
    refine keeps_ite (fun _ => keeps_pure hO _) fun _ => ?_
    refine keeps_ite (fun _ => keeps_pure hO _) fun _ => ?_
    exact keeps_ite (fun _ => keeps_pure hO _) fun _ => hbase

/-- What a handler transmits and signals itself. -/
theorem keeps_outputs_handlerFor (h : Handler) {c : Received}
    (hreply : c.opcode = 0x91 ∨ c.opcode = 0x8C →
      ⟨c.destination, c.initiator, 0x8C, .unrecognizedOpcode⟩ ∈ A)
    (hsource : c.opcode = 0x82 → ∀ a, (a, c.opcode) ∈ E)
    (habort : c.opcode = opcodeFeatureAbort → c.size = 2 →
      (c.initiator, getResponseOpcode (c.parameter 0)) ∈ E) :
    Keeps (Outputs A E) (handlerFor react h c) := by
  have hO := outputs_composable (A := A) (E := E)
  unfold handlerFor
  split
  any_goals exact keeps_outputs_onWorld _
  · refine keeps_ite (fun _ => ?_) fun _ => keeps_outputs_handleSetMenuLanguage c
    refine keeps_bind hO (keeps_ask hO _) fun initialised => ?_
    exact keeps_bind hO (keeps_callOr hO (keeps_outputs_onWorld _)) fun _ =>
      keeps_outputs_handleSetMenuLanguage c
  · next hx => exact keeps_outputs_handleGiveMenuLanguage (hreply (.inl hx))
  · next hx =>
    have hbase := keeps_outputs_handleGiveDeviceVendorId (E := E) (hreply (.inr hx))
    refine keeps_ite (fun _ => keeps_bind hO hbase fun r => ?_) fun _ => hbase
    refine keeps_bind hO (keeps_outputs_onWorld _) fun flag => ?_
    exact keeps_bind hO (keeps_callOr hO (keeps_outputs_onWorld _)) fun _ => keeps_pure hO _
  · obtain ⟨hvl, han, hrl⟩ := keeps_outputs_vendorCommandWithId (A := A) (E := E) react c
    split
    · exact hvl
    · exact han
    · exact hrl
    · exact keeps_outputs_onWorld _
    · exact keeps_outputs_handleDeviceVendorCommandWithId c
  · next hx =>
    have hbase := keeps_outputs_handleActiveSource (A := A) react (hsource hx)
    refine keeps_ite (fun _ => keeps_bind hO (keeps_outputs_onWorld _) fun suppressed => ?_)
      fun _ => hbase
    exact keeps_ite (fun _ => keeps_pure hO _) fun _ => hbase
  · next hx =>
    have hbase := keeps_outputs_handleFeatureAbort (A := A) (habort hx)
    refine keeps_ite (fun _ => keeps_bind hO (keeps_ask hO _) fun w => ?_) fun _ => hbase
    refine keeps_bind hO (keeps_outputs_onWorld _) fun slInitialised => ?_
    refine keeps_ite (fun _ => ?_) fun _ => hbase
    exact keeps_bind hO (keeps_discard (keeps_outputs_onWorld _)) fun _ => keeps_pure hO _
  · exact keeps_pure hO _
  · exact keeps_pure hO _

end reactions

end outputs

/-! ### The dispatcher -/

/-- The world once the clients' callbacks were asked. -/
def World.afterAnswer (w : World) : World := { w with outside := fun n => w.outside (n + 1) }

/-- A command is taken by a client, or what its handler and the dispatcher transmit for it is all
    that is transmitted. -/
theorem handleCommand_cases {react : Reaction → Proc Unit} {c : Received} {s s' : Session}
    {b : Bool} (h : Returns (handleCommand react c) s b s') :
    ((c.opcodeSet = false ∨ (s.world.outside 0).commandTaken) ∧ s'.aborts = s.aborts ∧
        s'.signals = s.signals) ∨
      c.opcodeSet = true ∧ (s.world.outside 0).commandTaken = false ∧ ∃ r s₂,
        Returns (handlerFor react (s.world.devices c.initiator).handler c)
          { s with world := s.world.afterAnswer } r s₂ ∧
        (r = .handled ∧ s' = { s₂ with signals := s₂.signals ++ [(c.initiator, c.signalled)] } ∨
          ∃ reason, r = .abort reason ∧ Returns (unhandledCommand c reason) s₂ () s') := by
  unfold handleCommand at h
  by_cases hset : c.opcodeSet
  · rw [if_neg (by simp [hset])] at h
    obtain ⟨taken, s₁, h₁, h⟩ := returns_bind.mp h
    obtain ⟨w, hw, rfl⟩ := returns_zoom.mp h₁
    obtain ⟨o, w₁, ho, hw⟩ := returns_bind.mp hw
    obtain ⟨rfl, rfl⟩ := returns_observe.mp ho
    obtain ⟨rfl, rfl⟩ := returns_pure.mp hw
    have h := returns_ask_bind.mp h
    by_cases htaken : (s.world.outside 0).commandTaken
    · rw [if_pos htaken] at h
      obtain ⟨-, rfl⟩ := returns_pure.mp h
      exact .inl ⟨.inr htaken, rfl, rfl⟩
    · rw [if_neg htaken] at h
      obtain ⟨r, s₂, hr, h⟩ := returns_bind.mp h
      refine .inr ⟨hset, by simpa using htaken, r, s₂, hr, ?_⟩
      cases r with
      | handled =>
        obtain ⟨_, s₃, h₃, h⟩ := returns_bind.mp h
        obtain ⟨-, rfl⟩ := returns_pure.mp h
        exact .inl ⟨rfl, returns_update.mp h₃⟩
      | abort reason =>
        obtain ⟨_, s₃, h₃, h⟩ := returns_bind.mp h
        obtain ⟨-, rfl⟩ := returns_pure.mp h
        exact .inr ⟨reason, rfl, h₃⟩
  · rw [if_pos (by simp [hset])] at h
    obtain ⟨-, rfl⟩ := returns_pure.mp h
    exact .inl ⟨.inl (by simpa using hset), rfl, rfl⟩

/-- Whatever the handling of a command signals is caused by the command. -/
theorem signals_handleCommand {react : Reaction → Proc Unit} {c : Received} {s s' : Session}
    {b : Bool} {events : List EventKey} (h : Returns (handleCommand react c) s b s')
    (hevents : s'.signals = s.signals ++ events) : ∀ e ∈ events, e ∈ c.causes := by
  rcases handleCommand_cases h with ⟨-, -, hsame⟩ | ⟨hset, -, r, s₂, hr, hend⟩
  · have hnone : events = [] :=
      List.append_cancel_left (hevents.symm.trans (hsame.trans (List.append_nil _).symm))
    rw [hnone]
    exact nofun
  · have hO := outputs_composable (A := Set.univ) (E := c.causes)
    have hsource (hx : c.opcode = 0x82) (a : Fin 16) : (a, c.opcode) ∈ c.causes :=
      ⟨hset, .inr (.inl ⟨hx, hx⟩)⟩
    have habort (hx : c.opcode = opcodeFeatureAbort) (hz : c.size = 2) :
        (c.initiator, getResponseOpcode (c.parameter 0)) ∈ c.causes :=
      ⟨hset, .inr (.inr ⟨hx, hz, rfl⟩)⟩
    have hkeeps := keeps_outputs_handlerFor (A := Set.univ) react
      (s.world.devices c.initiator).handler (fun _ => Set.mem_univ _) hsource habort
    have hkept := hkeeps _ r s₂ hr
    have hhandler : Outputs Set.univ c.causes s s₂ := hkept
    have hdispatch : Outputs Set.univ c.causes s₂ s' := by
      rcases hend with ⟨-, rfl⟩ | ⟨reason, -, hend⟩
      · exact ⟨⟨[], by simp⟩, [_], rfl, by simpa using ⟨hset, .inl rfl⟩⟩
      · exact keeps_outputs_unhandledCommand (Set.mem_univ _) s₂ () s' hend
    obtain ⟨-, others, hothers, hall⟩ := hO.trans hhandler hdispatch
    rwa [List.append_cancel_left (hevents.symm.trans hothers)]

end CEC
