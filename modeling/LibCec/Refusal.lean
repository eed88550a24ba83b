import LibCec.AbortDiscipline

/-! A feature abort that another device sends in answer to a request.

    A thread that sent the request `X` waits for the event of the response `R`. When the abort
    arrives two places signal: `SetUnsupportedFeature` the event of `R`, but only for two of the
    reasons, and the end of `HandleCommand` the event of `X`, which nobody waits for:

        FEATURE_ABORT [X, reason] ──▶ HandleFeatureAbort ──▶ SetUnsupportedFeature ──▶ signal R
                                              └──────────▶ HandleCommand ────────────▶ signal X -/

namespace CEC
open Schemes Procedure

/-- The event is signalled between two states. -/
def Signals (event : Fin 16 × UInt8) (s s' : Session) : Prop :=
  ∃ events, s'.signals = s.signals ++ events ∧ event ∈ events

theorem signals_iff {event : Fin 16 × UInt8} {l : List (Fin 16 × UInt8)} {s s' : Session}
    (h : s'.signals = s.signals ++ l) : Signals event s s' ↔ event ∈ l := by
  constructor
  · rintro ⟨others, hothers, hmem⟩
    rwa [List.append_cancel_left (h.symm.trans hothers)]
  · exact fun hmem => ⟨l, h, hmem⟩

/-- The reasons after which a device counts an opcode as unsupported. -/
def Received.marksUnsupported (c : Received) : Prop :=
  c.size = 2 ∧ (c.parameter 1 = AbortReason.unrecognizedOpcode.code ∨
    c.parameter 1 = AbortReason.refused.code)

instance (c : Received) : Decidable c.marksUnsupported := inferInstanceAs (Decidable (_ ∧ (_ ∨ _)))

/-- What has a response may be marked as unsupported, and is not its own response. -/
theorem request_of_response {x : UInt8} (h : getResponseOpcode x ≠ opcodeNone) :
    neverUnsupported x = false ∧ getResponseOpcode x ≠ x := by
  revert h
  unfold getResponseOpcode
  split
  all_goals intro h
  all_goals first | exact absurd rfl h | decide

/-- Marking an opcode as unsupported signals the event of its response. -/
theorem returns_setUnsupportedFeature (a : Fin 16) {x : UInt8} (hx : neverUnsupported x = false)
    (s : Session) : ∃ s', Returns (setUnsupportedFeature a x) s () s' ∧
      s'.signals = s.signals ++ [(a, getResponseOpcode x)] := by
  rw [setUnsupportedFeature, if_neg (by simp [hx])]
  exact ⟨_, rfl, rfl⟩

/-- A feature abort that names a request is always handled. -/
theorem returns_handleFeatureAbort {c : Received} (hx : neverUnsupported (c.parameter 0) = false)
    (s : Session) : ∃ s', Returns (handleFeatureAbort c) s .handled s' ∧
      s'.signals = s.signals ++ if c.marksUnsupported then
        [(c.initiator, getResponseOpcode (c.parameter 0))] else [] := by
  by_cases hmark : c.marksUnsupported
  · obtain ⟨s', h, hsignals⟩ := returns_setUnsupportedFeature c.initiator hx s
    have hcall : Returns (callWhen c.marksUnsupported
        (setUnsupportedFeature c.initiator (c.parameter 0))) s () s' :=
      returns_callOr.mpr (.inl ⟨hmark, h⟩)
    refine ⟨s', returns_bind.mpr ⟨(), s', hcall, returns_pure.mpr ⟨rfl, rfl⟩⟩, ?_⟩
    rw [if_pos hmark, hsignals]
  · have hcall : Returns (callWhen c.marksUnsupported
        (setUnsupportedFeature c.initiator (c.parameter 0))) s () s :=
      returns_callOr.mpr (.inr ⟨hmark, rfl, rfl⟩)
    refine ⟨s, returns_bind.mpr ⟨(), s, hcall, returns_pure.mpr ⟨rfl, rfl⟩⟩, ?_⟩
    rw [if_neg hmark, List.append_nil]

/-- Every handler does the same with an abort that has operands. -/
theorem returns_handlerFor_featureAbort (react : Reaction → Proc Unit) (h : Handler) {c : Received}
    (hopcode : c.opcode = opcodeFeatureAbort) (hsize : 0 < c.size)
    (hx : neverUnsupported (c.parameter 0) = false) (s : Session) :
    ∃ s', Returns (handlerFor react h c) s .handled s' ∧
      s'.signals = s.signals ++ if c.marksUnsupported then
        [(c.initiator, getResponseOpcode (c.parameter 0))] else [] := by
  have heq : handlerFor react h c =
      if h = .sl then slHandleFeatureAbort c else handleFeatureAbort c := by
    unfold handlerFor
    rw [hopcode]
    rfl
  rw [heq]
  by_cases hsl : h = .sl
  · obtain ⟨s', hret, hsignals⟩ := returns_handleFeatureAbort hx
      { s with world := s.world.afterAnswer }
    refine ⟨s', ?_, hsignals⟩
    rw [if_pos hsl]
    refine returns_ask_bind.mpr (returns_bind.mpr ⟨_, _, rfl, ?_⟩)
    rw [if_neg fun hz => absurd hz.1 hsize.ne']
    exact hret
  · rw [if_neg hsl]
    exact returns_handleFeatureAbort hx s

/-- A command whose handler returns `COMMAND_HANDLED` is signalled itself. -/
theorem returns_handleCommand_of_handled {react : Reaction → Proc Unit} {c : Received}
    {s s₂ : Session} (hset : c.opcodeSet) (htaken : (s.world.outside 0).commandTaken = false)
    (h : Returns (handlerFor react (s.world.devices c.initiator).handler c)
      { s with world := s.world.afterAnswer } .handled s₂) :
    Returns (handleCommand react c) s true
      { s₂ with signals := s₂.signals ++ [(c.initiator, c.signalled)] } := by
  unfold handleCommand
  rw [if_neg (by simp [hset])]
  refine returns_bind.mpr ⟨false, { s with world := s.world.afterAnswer }, ?_, ?_⟩
  · exact returns_zoom.mpr ⟨_, returns_bind.mpr ⟨_, _, returns_observe.mpr ⟨rfl, rfl⟩,
      returns_pure.mpr ⟨htaken.symm, rfl⟩⟩, rfl⟩
  · refine returns_ask_bind.mpr ?_
    rw [if_neg nofun]
    exact returns_bind.mpr ⟨_, _, h, rfl⟩

/-- A feature abort that names the request `X` signals the event of its response exactly if no
    client takes it, it has both operands and the reason marks `X` as unsupported. -/
theorem refusal_signals_iff (n : ℕ) {c : Received} (hset : c.opcodeSet)
    (hopcode : c.opcode = opcodeFeatureAbort) (hsize : 0 < c.size)
    (hresponse : getResponseOpcode (c.parameter 0) ≠ opcodeNone) (s : Session) :
    ∃ b s', Returns (handleCommand (react n) c) s b s' ∧
      (Signals (c.initiator, getResponseOpcode (c.parameter 0)) s s' ↔
        (s.world.outside 0).commandTaken = false ∧ c.marksUnsupported) := by
  obtain ⟨hx, hother⟩ := request_of_response hresponse
  cases htaken : (s.world.outside 0).commandTaken with
  | true =>
    refine ⟨true, { s with world := s.world.afterAnswer }, ?_, ?_⟩
    · unfold handleCommand
      rw [if_neg (by simp [hset])]
      refine returns_bind.mpr ⟨true, { s with world := s.world.afterAnswer }, ?_, rfl⟩
      exact returns_zoom.mpr ⟨_, returns_bind.mpr ⟨_, _, returns_observe.mpr ⟨rfl, rfl⟩,
        returns_pure.mpr ⟨htaken.symm, rfl⟩⟩, rfl⟩
    · refine (signals_iff (List.append_nil s.signals).symm).trans ?_
      simp
  | false =>
    obtain ⟨s₂, hret, hsignals⟩ := returns_handlerFor_featureAbort (react n)
      (s.world.devices c.initiator).handler hopcode hsize hx
      { s with world := s.world.afterAnswer }
    refine ⟨true, _, returns_handleCommand_of_handled hset htaken hret, ?_⟩
    have hsignalled : c.signalled = c.parameter 0 := if_pos ⟨hopcode, hsize⟩
    rw [signals_iff (by rw [hsignals, hsignalled, List.append_assoc])]
    by_cases hmark : c.marksUnsupported
    · simp [hmark]
    · simp [hmark, hother]

/-- The TV aborts the request for its power status. -/
def powerStatusAborted (reason : AbortReason) : Received where
  initiator := 0
  destination := 4
  opcodeSet := true
  opcode := opcodeFeatureAbort
  parameters := BoundedBuffer.empty.pushAll [0x8F, reason.code]

theorem refusal_signals_refused : ∃ b s',
    Returns (handleCommand (react 2) (powerStatusAborted .refused)) playbackSession b s' ∧
      Signals (0, 0x90) playbackSession s' := by
  obtain ⟨b, s', h, hiff⟩ := refusal_signals_iff 2 (c := powerStatusAborted .refused) rfl rfl
    (by decide) (by decide) playbackSession
  exact ⟨b, s', h, hiff.mpr (by decide +kernel)⟩

/-- The TV cannot provide its power status now: the thread that waits for it is not signalled. -/
theorem refusal_not_signalled : ∃ b s',
    Returns (handleCommand (react 2) (powerStatusAborted .notInCorrectModeToRespond))
      playbackSession b s' ∧ ¬Signals (0, 0x90) playbackSession s' := by
  obtain ⟨b, s', h⟩ := exists_returns (s := playbackSession)
    (x := handleCommand (react 2) (powerStatusAborted .notInCorrectModeToRespond))
    (by decide +kernel)
  have hsignals := h.of_all (p := fun _ s' => s'.signals = [(0, 0x8F)]) (by decide +kernel)
  refine ⟨b, s', h, fun hsig => ?_⟩
  rw [signals_iff (l := [(0, 0x8F)]) (of_decide_eq_true hsignals)] at hsig
  exact absurd hsig (by decide)

end CEC
