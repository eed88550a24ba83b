import LibCec.Announcement
import LibCec.StreamPath

/-! What is announced while another device reports that it is the active source.

    ACTIVE_SOURCE and TEXT_VIEW_ON make the device that sends them the active source. On the way its
    power status is set, and a handler that follows the power status of the TV may announce a device
    of libCEC. LG's handler does not follow the TV while it powers up:

        HandleActiveSource ──SuppressTvRoutingChange──▶ our source stays, and is sent later
              └──▶ MarkAsActiveSource ─▶ SetPowerStatus ─▶ OnPowerStatusChanged
                        └──▶ m_bActiveSource, and nobody else's -/

namespace CEC
open Schemes Procedure

namespace Announcing

section reactions

variable (react : Reaction → AnnouncingProc Unit)

/-- `HandleActiveSource`. -/
def handleActiveSource (c : Received) : AnnouncingProc Handling :=
  if c.size = 2 then do
    quietly (setPhysicalAddress c.initiator (c.address 0))
    markAsActiveSource react c.initiator
    pure .handled
  else pure (.abort .invalidOperand)

/-- `HandleActiveSource` of LG's handler. -/
def slHandleActiveSource (c : Received) : AnnouncingProc Handling := do
  let suppressed ← quietly (suppressTvRoutingChange c)
  if suppressed then pure .handled else handleActiveSource react c

/-- `HandleTextViewOn`. -/
def handleTextViewOn (c : Received) : AnnouncingProc Handling := do
  markAsActiveSource react c.initiator
  pure .handled

/-- The handler of the device that sent one of the two commands. -/
def handleSource (c : Received) : AnnouncingProc Handling := do
  let h ← ask fun s => (s.world.devices c.initiator).handler
  if c.opcode = 0x82 then
    if h = .sl then slHandleActiveSource react c else handleActiveSource react c
  else handleTextViewOn react c

end reactions

/-- ACTIVE_SOURCE with its operands, or TEXT_VIEW_ON. -/
def ReportsSource (c : Received) : Prop := c.opcode = 0x82 ∧ c.size = 2 ∨ c.opcode = 0x0D

instance (c : Received) : Decidable (ReportsSource c) := inferInstanceAs (Decidable (_ ∨ _))

/-! ### Without the record -/

section reactions

variable {react : Reaction → AnnouncingProc Unit} {react' : Reaction → Proc Unit}

/-- What `HandleActiveSource` does to the world. -/
def markReported (react' : Reaction → Proc Unit) (c : Received) : Proc Handling :=
  if c.size = 2 then do
    setPhysicalAddress c.initiator (c.address 0)
    CEC.markAsActiveSource react' c.initiator
    pure .handled
  else pure (.abort .invalidOperand)

theorem erases_session_handleActiveSource (c : Received) :
    Erases Session.world (CEC.handleActiveSource react' c) (markReported react' c) := by
  have hassoc := bind_assoc (setPhysicalAddress c.initiator (c.address 0))
    (fun _ => CEC.markAsActiveSource react' c.initiator) fun _ => pure Handling.handled
  refine erases_ite ?_ (erases_pure _)
  rw [← hassoc]
  refine erases_bind (erases_zoom (fun _ _ => rfl) _) fun _ => ?_
  exact erases_record (g := fun s : Session =>
    { s with signals := s.signals ++ (List.finRange 16).map (·, c.opcode) }) (fun _ => rfl)
    (erases_pure Handling.handled)

theorem handlerFor_activeSource {c : Received} (hop : c.opcode = 0x82) (h : Handler) :
    handlerFor react' h c =
      if h = .sl then CEC.slHandleActiveSource react' c else CEC.handleActiveSource react' c := by
  obtain ⟨i, d, opcodeSet, opcode, ps⟩ := c
  change opcode = 0x82 at hop
  subst hop
  rfl

theorem handlerFor_textViewOn {c : Received} (hop : c.opcode = 0x0D) (h : Handler) :
    handlerFor react' h c = onWorld (CEC.handleTextViewOn react' c) := by
  obtain ⟨i, d, opcodeSet, opcode, ps⟩ := c
  change opcode = 0x0D at hop
  subst hop
  rfl

variable (h : ∀ r, Erases Announcing.world (react r) (react' r))
include h

theorem erases_handleActiveSource (c : Received) :
    Erases Announcing.world (handleActiveSource react c) (markReported react' c) := by
  refine erases_ite ?_ (erases_pure _)
  refine erases_bind (erases_quietly _) fun _ => ?_
  exact erases_bind (erases_markAsActiveSource h _) fun _ => erases_pure _

theorem erases_handleTextViewOn (c : Received) :
    Erases Announcing.world (handleTextViewOn react c) (CEC.handleTextViewOn react' c) :=
  erases_bind (erases_markAsActiveSource h _) fun _ => erases_pure _

/-- The handlers of `CEC` do to the world what those with a record do. -/
theorem handleSource_of_handlerFor {s s' : Session} {c : Received} {r : Handling}
    (hc : ReportsSource c) {announced : List (Fin 16 × Bool)} {checks : List (Fin 16)}
    (hret : Returns (handlerFor react' (s.world.devices c.initiator).handler c) s r s') :
    ∃ t, Returns (handleSource react c) ⟨s.world, announced, checks⟩ r t ∧ t.world = s'.world := by
  have hactive : ∀ {s : Session} {u : Announcing}, u.world = s.world →
      Returns (CEC.handleActiveSource react' c) s r s' →
        ∃ t, Returns (handleActiveSource react c) u r t ∧ t.world = s'.world := by
    intro s u hu hret
    have hworld := (erases_session_handleActiveSource c).returns hret
    exact (erases_handleActiveSource h c).exists_returns (hu ▸ hworld)
  rcases hc with ⟨hop, -⟩ | hop
  · rw [handlerFor_activeSource hop] at hret
    by_cases hsl : (s.world.devices c.initiator).handler = .sl
    · rw [if_pos hsl] at hret
      obtain ⟨suppressed, s₁, h₁, hret⟩ := returns_bind.mp hret
      obtain ⟨w₁, hw₁, rfl⟩ := returns_zoom.mp h₁
      obtain ⟨u, hu, hworld⟩ := (erases_quietly (suppressTvRoutingChange c)).exists_returns
        (s := ⟨s.world, announced, checks⟩) hw₁
      cases suppressed with
      | true =>
        obtain ⟨rfl, rfl⟩ := returns_pure.mp hret
        refine ⟨u, returns_ask_bind.mpr ?_, hworld⟩
        rw [if_pos hop, if_pos hsl]
        exact returns_bind.mpr ⟨true, u, hu, returns_pure.mpr ⟨rfl, rfl⟩⟩
      | false =>
        obtain ⟨t, ht, hsame⟩ := hactive (u := u) hworld hret
        refine ⟨t, returns_ask_bind.mpr ?_, hsame⟩
        rw [if_pos hop, if_pos hsl]
        exact returns_bind.mpr ⟨false, u, hu, ht⟩
    · rw [if_neg hsl] at hret
      obtain ⟨t, ht, hsame⟩ := hactive (u := ⟨s.world, announced, checks⟩) rfl hret
      refine ⟨t, returns_ask_bind.mpr ?_, hsame⟩
      rw [if_pos hop, if_neg hsl]
      exact ht
  · rw [handlerFor_textViewOn hop] at hret
    obtain ⟨w₁, h₁, rfl⟩ := returns_zoom.mp hret
    obtain ⟨t, ht, hsame⟩ := (erases_handleTextViewOn h c).exists_returns
      (s := ⟨s.world, announced, checks⟩) h₁
    refine ⟨t, returns_ask_bind.mpr ?_, hsame⟩
    rw [if_neg (by rw [hop]; decide)]
    exact ht

end reactions

/-! ### Who is recorded -/

/-- The device is marked as active source, and no other one. -/
def Marked (a : Fin 16) (w : World) : Prop := ∀ b, (w.devices b).activeSource ↔ b = a

/-- The TV's LG handler keeps our active source while the TV powers up. -/
def KeepsOurs (w : World) (c : Received) : Prop :=
  c.initiator = 0 ∧ (w.outside 0).ownFlag ∧ ∃ a, w.activeSource = some a ∧ w.isHandled a

/-- The TV reports itself as active source and its LG handler ignores that. -/
def Suppressed (w : World) (c : Received) : Prop :=
  c.opcode = 0x82 ∧ (w.devices c.initiator).handler = .sl ∧ KeepsOurs w c

/-- Scheduling an activation marks no device. -/
theorem active_scheduleActivateSource {a : Fin 16} {w w' : World}
    (h : Returns (scheduleActivateSource a) w () w') (b : Fin 16) :
    (w'.devices b).activeSource = (w.devices b).activeSource := by
  obtain ⟨_, w₁, h₁, h⟩ := returns_bind.mp h
  have hpending : (w'.devices b).activeSource = (w₁.devices b).activeSource := by
    rw [returns_update.mp h, updateDevice_devices]
    split
    · next hb => rw [hb]
    · rfl
  rw [hpending]
  unfold replaceHandler at h₁
  split at h₁
  · rw [(returns_pure.mp h₁).2]
  · rw [returns_update.mp h₁, updateDevice_devices]
    split
    · next hb => rw [hb]
    · rfl

/-- When the handler ignores the TV it marks no device. -/
theorem returns_suppressTvRoutingChange {c : Received} {w w' : World} {b : Bool}
    (h : Returns (suppressTvRoutingChange c) w b w') : (b ↔ KeepsOurs w c) ∧
      ∀ a, (w'.devices a).activeSource = (w.devices a).activeSource := by
  unfold suppressTvRoutingChange at h
  split at h
  · next hne =>
    obtain ⟨rfl, rfl⟩ := returns_pure.mp h
    exact ⟨iff_of_false Bool.false_ne_true fun hkeeps => hne hkeeps.1, fun _ => rfl⟩
  · next htv =>
    obtain ⟨flag, w₁, hflag, h⟩ := returns_bind.mp h
    obtain ⟨o, w₂, ho, hflag⟩ := returns_bind.mp hflag
    obtain ⟨rfl, rfl⟩ := returns_pure.mp hflag
    obtain ⟨rfl, rfl⟩ := returns_observe.mp ho
    have h := returns_ask_bind.mp h
    have hsource : World.activeSource { w with outside := fun n => w.outside (n + 1) } =
      w.activeSource := rfl
    rw [hsource] at h
    have htv : c.initiator = 0 := not_not.mp htv
    cases hactive : w.activeSource with
    | none =>
      rw [hactive] at h
      obtain ⟨rfl, rfl⟩ := returns_pure.mp h
      refine ⟨iff_of_false Bool.false_ne_true fun hkeeps => ?_, fun _ => rfl⟩
      obtain ⟨a, ha, -⟩ := hkeeps.2.2
      exact absurd (hactive.symm.trans ha) (by simp)
    | some a =>
      rw [hactive] at h
      have h := returns_ask_bind.mp h
      obtain ⟨_, w₃, hcall, h⟩ := returns_bind.mp h
      obtain ⟨rfl, rfl⟩ := returns_pure.mp h
      refine ⟨?_, fun b => ?_⟩
      · rw [Bool.and_eq_true]
        constructor
        · rintro ⟨hflag, hhandled⟩
          exact ⟨htv, hflag, a, hactive, hhandled⟩
        · rintro ⟨-, hflag, a', ha', hhandled⟩
          obtain rfl := Option.some.inj (hactive.symm.trans ha')
          exact ⟨hflag, hhandled⟩
      · rcases returns_callOr.mp hcall with ⟨-, hcall⟩ | ⟨-, -, rfl⟩
        · exact active_scheduleActivateSource hcall b
        · rfl

section handler

variable {n : ℕ} {c : Received} {w : World} {s s' : Announcing} {r : Handling}

/-- The device that is marked is the active source then, whatever was announced on the way. -/
theorem marked_markAsActiveSource {a : Fin 16}
    (h : Returns (markAsActiveSource (react n) a) s () s') : Marked a s'.world :=
  active_markAsActiveSource ((erases_markAsActiveSource (erases_react n) a).returns h)

theorem marked_handleActiveSource (hsize : c.size = 2)
    (h : Returns (handleActiveSource (react n) c) s r s') : Marked c.initiator s'.world := by
  rw [handleActiveSource, if_pos hsize] at h
  obtain ⟨_, s₁, -, h⟩ := returns_bind.mp h
  obtain ⟨_, s₂, h₂, h⟩ := returns_bind.mp h
  rw [(returns_pure.mp h).2]
  exact marked_markAsActiveSource h₂

/-- While an LG powers up our active source stays the recorded one and nothing is announced. Else the
    device that sent the command is recorded, if no device of libCEC was announced meanwhile. -/
theorem recorded_of_handleSource (hc : ReportsSource c)
    (h : Returns (handleSource (react n) c) ⟨w, [], []⟩ r s') :
    (Suppressed w c → s'.announced = [] ∧
      ∀ a, (s'.world.devices a).activeSource = (w.devices a).activeSource) ∧
    (¬ Suppressed w c → (∀ d, w.isHandled d → (d, true) ∉ s'.announced) →
      Marked c.initiator s'.world) := by
  have h := returns_ask_bind.mp h
  rcases hc with ⟨hop, hsize⟩ | hop
  · rw [if_pos hop] at h
    by_cases hsl : (w.devices c.initiator).handler = .sl
    · rw [if_pos hsl] at h
      obtain ⟨suppressed, s₁, h₁, h⟩ := returns_bind.mp h
      obtain ⟨hiff, hsame⟩ := returns_suppressTvRoutingChange ((erases_quietly _).returns h₁)
      cases suppressed with
      | true =>
        obtain ⟨-, rfl⟩ := returns_pure.mp h
        exact ⟨fun _ => ⟨announced_quietly h₁, hsame⟩,
          fun hno => absurd ⟨hop, hsl, hiff.mp rfl⟩ hno⟩
      | false =>
        refine ⟨fun hsuppressed => ?_, fun _ _ => marked_handleActiveSource hsize h⟩
        exact absurd (hiff.mpr hsuppressed.2.2) Bool.false_ne_true
    · rw [if_neg hsl] at h
      exact ⟨fun hsuppressed => absurd hsuppressed.2.1 hsl,
        fun _ _ => marked_handleActiveSource hsize h⟩
  · rw [if_neg (by rw [hop]; decide)] at h
    refine ⟨fun hsuppressed => ?_, fun _ _ => ?_⟩
    · exact absurd (hop.symm.trans hsuppressed.1) (by decide)
    · obtain ⟨_, s₁, h₁, h⟩ := returns_bind.mp h
      rw [(returns_pure.mp h).2]
      exact marked_markAsActiveSource h₁

end handler

/-- A playback device of libCEC that is the active source while the LG TV ignores routing changes,
    or not. -/
def lgWorld (ignoreTvRoute : Bool) : World :=
  let outside : ℕ → Outside := fun _ => { Outside.silent with ownFlag := ignoreTvRoute }
  ((World.start (fun _ => clientFor [.playbackDevice]) outside).updateDevice 0 fun d =>
    { d with handler := .sl }).updateDevice 4 fun d =>
      { d with status := .handledByLibCec, physicalAddress := 0x1000, activeSource := true }

/-- The TV reports that it is the active source. -/
def tvActive : Received := ⟨0, 15, true, 0x82, BoundedBuffer.empty.pushAll [0x00, 0x00]⟩

/-- Once the TV is up it is believed. -/
theorem recorded_of_tvActive : ∃ r s',
    Returns (handleSource (react 1) tvActive) ⟨lgWorld false, [], []⟩ r s' ∧
      Marked 0 s'.world := by
  obtain ⟨r, s', h⟩ := exists_returns (x := handleSource (react 1) tvActive)
    (s := ⟨lgWorld false, [], []⟩) (by decide +kernel)
  have hsuppressed : ¬ Suppressed (lgWorld false) tvActive := by
    rintro ⟨-, -, -, hflag, -⟩
    exact absurd hflag Bool.false_ne_true
  have hnothing : s'.announced = [] := by
    have hall := h.of_all (p := fun _ s => s.announced.isEmpty) (by decide +kernel)
    exact List.isEmpty_iff.mp hall
  refine ⟨r, s', h, (recorded_of_handleSource (by decide +kernel) h).2 hsuppressed fun d _ hd => ?_⟩
  rw [hnothing] at hd
  exact absurd hd List.not_mem_nil

/-- While it powers up it is not, although nothing is announced for our device. -/
theorem not_recorded : ¬ ∀ (n : ℕ) (c : Received) (w : World) (r : Handling) (s' : Announcing),
    ReportsSource c → Returns (handleSource (react n) c) ⟨w, [], []⟩ r s' →
      (∀ d, w.isHandled d → (d, true) ∈ s'.announced → Marked d s'.world) ∧
      ((∀ d, w.isHandled d → (d, true) ∉ s'.announced) → Marked c.initiator s'.world) := by
  intro hall
  obtain ⟨r, s', h⟩ := exists_returns (x := handleSource (react 1) tvActive)
    (s := ⟨lgWorld true, [], []⟩) (by decide +kernel)
  have hflags := h.of_all
    (p := fun _ s => s.announced.isEmpty && (s.world.devices 4).activeSource) (by decide +kernel)
  rw [Bool.and_eq_true] at hflags
  have hnothing := List.isEmpty_iff.mp hflags.1
  have hmarked := (hall 1 _ _ _ _ (by decide +kernel) h).2 fun d _ hd => by
    rw [hnothing] at hd
    exact absurd hd List.not_mem_nil
  exact absurd ((hmarked 4).mp hflags.2) (by decide)

end Announcing

end CEC
