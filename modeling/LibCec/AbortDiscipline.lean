import LibCec.CommandOutcome

/-! The feature aborts that libCEC sends while it handles a command.

    Most of them come from `UnhandledCommand`, after the handler refused the command; the replies
    with a menu language or a vendor id send one themselves when there is nothing to report:

        HandleCommand ──refused──▶ UnhandledCommand ────────────▶ (destination, initiator, opcode)
             ├── GIVE_DEVICE_VENDOR_ID ──unknown vendor────────▶ (destination, initiator, 8C)
             └── GET_MENU_LANGUAGE ──unknown language──────────▶ (destination, initiator, 8C)

    The last one names the wrong opcode, and a command of the unregistered device is answered to
    the broadcast address. `abortDiscipline_iff` says when neither happens. -/

namespace CEC
open Schemes Procedure

/-! ### What the replies transmit -/

/-- The menu language is asked for and the destination does not know it. -/
def Session.languageUnknown (s : Session) (c : Received) : Prop :=
  c.opcode = 0x91 ∧ s.world.responds c ∧
    (s.menuLanguage c.destination).take 3 = [0x3F, 0x3F, 0x3F]

/-- The vendor id is asked for and the destination has none. -/
def Session.vendorUnknown (s : Session) (c : Received) : Prop :=
  c.opcode = 0x8C ∧ s.world.responds c ∧ (s.world.devices c.destination).vendor = 0

instance (s : Session) (c : Received) : Decidable (s.languageUnknown c) :=
  inferInstanceAs (Decidable (_ ∧ _ ∧ _))

instance (s : Session) (c : Received) : Decidable (s.vendorUnknown c) :=
  inferInstanceAs (Decidable (_ ∧ _ ∧ _))

/-- The feature abort that a reply sends instead. -/
def Session.replyAborts (s : Session) (c : Received) : List AbortFrame :=
  if s.languageUnknown c ∨ s.vendorUnknown c then
    [⟨c.destination, c.initiator, 0x8C, .unrecognizedOpcode⟩]
  else []

theorem aborts_onWorld {α : Type} {x : Proc α} {s s' : Session} {a : α}
    (h : Returns (onWorld x) s a s') : s'.aborts = s.aborts :=
  (keeps_outputs_onWorld (A := ∅) (E := ∅) x s a s' h).aborts_eq

theorem aborts_discard_onWorld {α : Type} {x : Proc α} {s s' : Session}
    (h : Returns (discard (onWorld x)) s () s') : s'.aborts = s.aborts := by
  obtain ⟨a, h⟩ := returns_discard.mp h
  exact aborts_onWorld h

theorem aborts_transmitAbort {source destination : Fin 16} {opcode : UInt8} {reason : AbortReason}
    {s s' : Session} (h : Returns (transmitAbort source destination opcode reason) s () s') :
    s'.aborts = s.aborts ++ [⟨source, destination, opcode, reason⟩] := by
  obtain ⟨_, s₁, h₁, h⟩ := returns_bind.mp h
  rw [returns_update.mp h, aborts_discard_onWorld h₁]

theorem aborts_handleGiveMenuLanguage {c : Received} {s s' : Session} {r : Handling}
    (hopcode : c.opcode = 0x91) (h : Returns (handleGiveMenuLanguage c) s r s') :
    s'.aborts = s.aborts ++ s.replyAborts c := by
  have hvendor : ¬s.vendorUnknown c := fun hv => absurd (hopcode.symm.trans hv.1) (by decide)
  simp only [Session.replyAborts, hvendor, or_false]
  have h := returns_ask_bind.mp h
  by_cases hr : s.world.responds c
  · rw [if_pos hr] at h
    obtain ⟨_, s₁, h₁, h⟩ := returns_bind.mp h
    obtain ⟨-, rfl⟩ := returns_pure.mp h
    have h₁ := returns_ask_bind.mp h₁
    by_cases hl : (s.menuLanguage c.destination).take 3 = [0x3F, 0x3F, 0x3F]
    · rw [if_pos hl] at h₁
      rw [if_pos ⟨hopcode, hr, hl⟩]
      exact aborts_transmitAbort h₁
    · rw [if_neg hl] at h₁
      rw [if_neg fun hu => hl hu.2.2, List.append_nil]
      exact aborts_discard_onWorld h₁
  · rw [if_neg hr] at h
    rw [if_neg fun hu => hr hu.2.1, List.append_nil, (returns_pure.mp h).2]

theorem aborts_handleGiveDeviceVendorId {c : Received} {s s' : Session} {r : Handling}
    (hopcode : c.opcode = 0x8C) (h : Returns (handleGiveDeviceVendorId c) s r s') :
    s'.aborts = s.aborts ++ s.replyAborts c := by
  have hlanguage : ¬s.languageUnknown c := fun hl => absurd (hopcode.symm.trans hl.1) (by decide)
  simp only [Session.replyAborts, hlanguage, false_or]
  have h := returns_ask_bind.mp (returns_ask_bind.mp h)
  by_cases hr : s.world.responds c
  · rw [if_pos hr] at h
    by_cases hv : (s.world.devices c.destination).vendor = 0
    · rw [if_pos hv] at h
      obtain ⟨_, s₁, h₁, h⟩ := returns_bind.mp h
      rw [if_pos ⟨hopcode, hr, hv⟩, (returns_pure.mp h).2]
      exact aborts_transmitAbort h₁
    · rw [if_neg hv] at h
      obtain ⟨_, s₁, h₁, h⟩ := returns_bind.mp h
      rw [if_neg fun hu => hv hu.2.2, List.append_nil, (returns_pure.mp h).2]
      exact aborts_onWorld h₁
  · rw [if_neg hr] at h
    rw [if_neg fun hu => hr hu.2.1, List.append_nil, (returns_pure.mp h).2]

theorem handlerFor_getMenuLanguage (react : Reaction → Proc Unit) (h : Handler) {c : Received}
    (hopcode : c.opcode = 0x91) : handlerFor react h c = handleGiveMenuLanguage c := by
  unfold handlerFor
  rw [hopcode]
  rfl

theorem handlerFor_giveDeviceVendorId (react : Reaction → Proc Unit) (h : Handler) {c : Received}
    (hopcode : c.opcode = 0x8C) : handlerFor react h c =
      if h = .vl then vlHandleGiveDeviceVendorId c else handleGiveDeviceVendorId c := by
  unfold handlerFor
  rw [hopcode]
  rfl

/-- A handler only transmits what a reply without an answer does. -/
theorem aborts_handlerFor {react : Reaction → Proc Unit} {h : Handler} {c : Received}
    {s s' : Session} {r : Handling} (hs : Returns (handlerFor react h c) s r s') :
    s'.aborts = s.aborts ++ s.replyAborts c := by
  by_cases hlanguage : c.opcode = 0x91
  · rw [handlerFor_getMenuLanguage react h hlanguage] at hs
    exact aborts_handleGiveMenuLanguage hlanguage hs
  · by_cases hvendor : c.opcode = 0x8C
    · rw [handlerFor_giveDeviceVendorId react h hvendor] at hs
      by_cases hvl : h = .vl
      · rw [if_pos hvl] at hs
        obtain ⟨r₁, s₁, h₁, hs⟩ := returns_bind.mp hs
        obtain ⟨flag, s₂, h₂, hs⟩ := returns_bind.mp hs
        obtain ⟨_, s₃, h₃, hs⟩ := returns_bind.mp hs
        have hO := outputs_composable (A := ∅) (E := ∅)
        have hlast := keeps_callOr hO (keeps_outputs_onWorld _) s₂ () s₃ h₃
        rw [(returns_pure.mp hs).2, hlast.aborts_eq, aborts_onWorld h₂,
          aborts_handleGiveDeviceVendorId hvendor h₁]
      · rw [if_neg hvl] at hs
        exact aborts_handleGiveDeviceVendorId hvendor hs
    · have hnone : ¬(s.languageUnknown c ∨ s.vendorUnknown c) := by
        rintro (hu | hu)
        · exact hlanguage hu.1
        · exact hvendor hu.1
      rw [Session.replyAborts, if_neg hnone, List.append_nil]
      have hquiet := keeps_outputs_handlerFor (A := ∅) (E := Set.univ) react h
        (fun hx => (hx.elim hlanguage hvendor).elim) (fun _ _ => Set.mem_univ _)
        fun _ _ => Set.mem_univ _
      exact (hquiet s r s' hs).aborts_eq

/-! ### The discipline -/

/-- A feature abort answers the command `c`, which libCEC was sent. -/
structure AbortFrame.Answers (f : AbortFrame) (w : World) (c : Received) : Prop where
  source : f.source = c.destination
  handled : w.isHandled c.destination
  destination : f.destination = c.initiator
  addressed : f.destination ≠ 15
  opcode : f.opcode = c.opcode
  toUs : c.destination ≠ 15
  noAbort : c.opcode ≠ opcodeFeatureAbort

/-- The feature aborts between two states all answer the command. -/
def AnsweredBy (c : Received) (s s' : Session) : Prop :=
  ∃ frames, s'.aborts = s.aborts ++ frames ∧ ∀ f ∈ frames, f.Answers s.world c

/-- A command that libCEC is sent and no client takes asks for no unknown language, and when it is
    from the unregistered device, its handler takes it and there is no vendor id to refuse. -/
def Session.Answerable (s : Session) (c : Received) : Prop :=
  c.opcodeSet → (s.world.outside 0).commandTaken = false → s.world.isHandled c.destination →
    ¬s.languageUnknown c ∧ (c.initiator = 15 → ¬s.vendorUnknown c ∧
      s.world.takes (s.world.devices 15).handler (s.world.outside 1).ownFlag c c.opcode)

/-- What `UnhandledCommand` transmits for a command that libCEC was sent. -/
def refusal (c : Received) : Handling → List AbortFrame
  | .handled => []
  | .abort reason => [⟨c.destination, c.initiator, c.opcode, reason⟩]

theorem replyAborts_answer_iff {s : Session} {c : Received}
    (hd : s.world.isHandled c.destination) (hto : c.destination ≠ 15) :
    (∀ f ∈ s.replyAborts c, f.Answers s.world c) ↔
      ¬s.languageUnknown c ∧ (c.initiator = 15 → ¬s.vendorUnknown c) := by
  unfold Session.replyAborts
  constructor
  · intro h
    refine ⟨fun hl => ?_, fun hc hv => ?_⟩
    · rw [if_pos (.inl hl)] at h
      have hopcode : 0x8C = c.opcode := (h _ (List.mem_singleton_self _)).opcode
      exact absurd (hopcode.trans hl.1) (by decide)
    · rw [if_pos (.inr hv)] at h
      exact (h _ (List.mem_singleton_self _)).addressed hc
  · rintro ⟨hl, hv⟩ f hf
    split at hf
    · next hu =>
      rcases hu with hu | hu
      · exact absurd hu hl
      · rw [List.mem_singleton.mp hf]
        have hc : c.initiator ≠ 15 := fun hc => hv hc hu
        exact ⟨rfl, hd, rfl, hc, hu.1.symm, hto, hu.1 ▸ by decide⟩
    · exact absurd hf List.not_mem_nil

theorem refusal_answers_iff {w : World} {c : Received} {r : Handling}
    (hd : w.isHandled c.destination) (hto : c.destination ≠ 15)
    (habort : c.opcode = opcodeFeatureAbort → r = .handled) :
    (∀ f ∈ refusal c r, f.Answers w c) ↔ (c.initiator = 15 → r = .handled) := by
  cases r with
  | handled => simp [refusal]
  | abort reason =>
    constructor
    · intro h hc
      exact absurd hc (h _ (List.mem_singleton_self _)).addressed
    · intro h f hf
      rw [List.mem_singleton.mp hf]
      exact ⟨rfl, hd, rfl, fun hc => absurd (h hc) nofun, rfl, hto, fun ha => absurd (habort ha) nofun⟩

/-- The broadcast device does not become one of libCEC's. -/
def KeepsBroadcast (s s' : World) : Prop := s'.isHandled 15 = s.isHandled 15

theorem keepsBroadcast_composable : Composable KeepsBroadcast :=
  ⟨fun _ => rfl, fun h₁ h₂ => Eq.trans h₂ h₁⟩

/-- Whatever status a device is set to, the broadcast device stays what it is. -/
theorem keepsBroadcast_setDeviceStatus (a : Fin 16) (newStatus : DeviceStatus) :
    Keeps KeepsBroadcast (setDeviceStatus a newStatus) := by
  refine keeps_setDeviceStatus keepsBroadcast_composable (fun s p => ?_) (fun ha s f _ => ?_) newStatus
  · exact (busFrame_storePowerStatus (K := ∅) s a p).handled 15
  · simp [KeepsBroadcast, World.isHandled, updateDevice_devices, ha.symm]

/-- A received command leaves it what it is, too. -/
theorem keepsBroadcast_processCommand (n : ℕ) (command : Command) :
    Keeps (fun s s' => KeepsBroadcast s.world s'.world) (processCommand (react n) command) :=
  fun s a s' h => (keeps_processCommand (fun _ => reactionsKeep_react n) command s a s' h).handled 15

/-- The feature aborts that are transmitted for a command answer it exactly if it is answerable.
    The broadcast device is never one of libCEC's. -/
theorem abortDiscipline_iff {n : ℕ} {c : Received} {s s' : Session} {b : Bool}
    (h15 : s.world.isHandled 15 = false)
    (h : Returns (handleCommand (react n) c) s b s') : AnsweredBy c s s' ↔ s.Answerable c := by
  rcases handleCommand_cases h with ⟨hnone, haborts, -⟩ | ⟨hset, htaken, r, s₂, hr, hend⟩
  · refine ⟨fun _ hset htaken => ?_, fun _ => ⟨[], by simp [haborts], nofun⟩⟩
    rcases hnone with hn | hn
    · exact absurd hset (by simp [hn])
    · exact absurd htaken (by simp [hn])
  · have hreply := aborts_handlerFor hr
    change s₂.aborts = s.aborts ++ s.replyAborts c at hreply
    have hframe := keeps_handlerFor (fun _ => reactionsKeep_react n) _ c _ r s₂ hr
    have hkept : s₂.world.isHandled c.destination = s.world.isHandled c.destination :=
      hframe.handled c.destination
    have hall : s'.aborts = s.aborts ++
        (s.replyAborts c ++ if s.world.isHandled c.destination then refusal c r else []) := by
      rw [← List.append_assoc, ← hreply]
      rcases hend with ⟨rfl, rfl⟩ | ⟨reason, rfl, hend⟩
      · simp [refusal]
      · have hend := returns_ask_bind.mp hend
        rw [hkept] at hend
        rcases returns_callOr.mp hend with ⟨hd, hend⟩ | ⟨hd, -, rfl⟩
        · rw [if_pos hd]
          exact aborts_transmitAbort hend
        · simp [hd]
    have hcut : AnsweredBy c s s' ↔ ∀ f ∈ s.replyAborts c ++
        (if s.world.isHandled c.destination then refusal c r else []), f.Answers s.world c := by
      constructor
      · rintro ⟨frames, hframes, hanswers⟩
        rwa [List.append_cancel_left (hall.symm.trans hframes)]
      · exact fun hanswers => ⟨_, hall, hanswers⟩
    rw [hcut, List.forall_mem_append]
    by_cases hd : s.world.isHandled c.destination
    · have hto : c.destination ≠ 15 := fun h => absurd hd (by simp [h, h15])
      have habort : c.opcode = opcodeFeatureAbort → r = .handled := fun ha =>
        (yields_featureAbort _ _ ha r s₂ hr).mpr rfl
      have htakes (hc : c.initiator = 15) : r = .handled ↔
          s.world.takes (s.world.devices 15).handler (s.world.outside 1).ownFlag c c.opcode := by
        rw [hc] at hr
        have hyields := yields_handlerFor (s := { s with world := s.world.afterAnswer })
          (react n) (s.world.devices 15).handler hc hd
        exact hyields r s₂ hr
      rw [if_pos hd, replyAborts_answer_iff hd hto, refusal_answers_iff hd hto habort]
      constructor
      · rintro ⟨⟨hl, hv⟩, hrefusal⟩ _ _ _
        exact ⟨hl, fun hc => ⟨hv hc, (htakes hc).mp (hrefusal hc)⟩⟩
      · intro hok
        obtain ⟨hl, hunregistered⟩ := hok hset htaken hd
        exact ⟨⟨hl, fun hc => (hunregistered hc).1⟩, fun hc =>
          (htakes hc).mpr (hunregistered hc).2⟩
    · have hnone : s.replyAborts c = [] := by
        refine if_neg ?_
        rintro (hu | hu)
        · exact hd (Bool.and_eq_true_iff.mp hu.2.1).2
        · exact hd (Bool.and_eq_true_iff.mp hu.2.1).2
      rw [if_neg hd, hnone]
      refine ⟨fun _ _ _ h => absurd h hd, fun _ => ⟨nofun, nofun⟩⟩

/-- A session in which device 4 is one of libCEC's and its menu language is unknown. -/
def playbackSession : Session :=
  .start ((World.start (fun _ => .clear) fun _ => .silent).updateDevice 4 (·.handle vendorPulseEight))

/-- The TV asks device 4 for something that nobody knows. -/
theorem abortDiscipline_unknown_opcode : ∃ s',
    Returns (handleCommand (react 2) ⟨0, 4, true, 0xC0, BoundedBuffer.empty⟩) playbackSession
      false s' ∧ s'.aborts = [⟨4, 0, 0xC0, .unrecognizedOpcode⟩] ∧
    (AnsweredBy ⟨0, 4, true, 0xC0, BoundedBuffer.empty⟩ playbackSession s' ↔
      playbackSession.Answerable ⟨0, 4, true, 0xC0, BoundedBuffer.empty⟩) := by
  obtain ⟨b, s', h⟩ := exists_returns
    (x := handleCommand (react 2) ⟨0, 4, true, 0xC0, BoundedBuffer.empty⟩) (s := playbackSession)
    (by decide +kernel)
  have hall := h.of_all (p := fun b s' => b = false ∧
    s'.aborts = [⟨4, 0, 0xC0, .unrecognizedOpcode⟩]) (by decide +kernel)
  obtain ⟨rfl, haborts⟩ := of_decide_eq_true hall
  exact ⟨s', h, haborts, abortDiscipline_iff (by decide +kernel) h⟩

/-- The TV asks for a menu language that is unknown, and the unregistered device for something
    that nobody knows: the one abort names `GIVE_DEVICE_VENDOR_ID`, the other one is broadcast. -/
theorem abort_names_wrong_opcode :
    (∃ s', Returns (handleCommand (react 2) ⟨0, 4, true, 0x91, BoundedBuffer.empty⟩)
      playbackSession true s' ∧ s'.aborts = [⟨4, 0, 0x8C, .unrecognizedOpcode⟩] ∧
      ¬AnsweredBy ⟨0, 4, true, 0x91, BoundedBuffer.empty⟩ playbackSession s') ∧
    ∃ s', Returns (handleCommand (react 2) ⟨15, 4, true, 0xC0, BoundedBuffer.empty⟩)
      playbackSession false s' ∧ s'.aborts = [⟨4, 15, 0xC0, .unrecognizedOpcode⟩] ∧
      ¬AnsweredBy ⟨15, 4, true, 0xC0, BoundedBuffer.empty⟩ playbackSession s' := by
  constructor
  · obtain ⟨b, s', h⟩ := exists_returns
      (x := handleCommand (react 2) ⟨0, 4, true, 0x91, BoundedBuffer.empty⟩)
      (s := playbackSession) (by decide +kernel)
    have hall := h.of_all (p := fun b s' => b = true ∧
      s'.aborts = [⟨4, 0, 0x8C, .unrecognizedOpcode⟩]) (by decide +kernel)
    obtain ⟨rfl, haborts⟩ := of_decide_eq_true hall
    refine ⟨s', h, haborts, ?_⟩
    rintro ⟨frames, hframes, hanswers⟩
    have hmem : ⟨4, 0, 0x8C, .unrecognizedOpcode⟩ ∈ frames := by
      rw [haborts] at hframes
      simp [← show _ = frames from hframes]
    exact absurd (hanswers _ hmem).opcode (by decide)
  · obtain ⟨b, s', h⟩ := exists_returns
      (x := handleCommand (react 2) ⟨15, 4, true, 0xC0, BoundedBuffer.empty⟩)
      (s := playbackSession) (by decide +kernel)
    have hall := h.of_all (p := fun b s' => b = false ∧
      s'.aborts = [⟨4, 15, 0xC0, .unrecognizedOpcode⟩]) (by decide +kernel)
    obtain ⟨rfl, haborts⟩ := of_decide_eq_true hall
    refine ⟨s', h, haborts, ?_⟩
    rintro ⟨frames, hframes, hanswers⟩
    have hmem : ⟨4, 15, 0xC0, .unrecognizedOpcode⟩ ∈ frames := by
      rw [haborts] at hframes
      simp [← show _ = frames from hframes]
    exact absurd (hanswers _ hmem).addressed (by decide)

end CEC
