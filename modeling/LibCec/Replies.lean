import LibCec.CommandOutcome
import LibCec.Refusal
import LibCec.Requests

/-! The thread that sent a request and the event that its reply signals.

    A request waits on the device whose handler sends it; the reply signals the device that it
    comes from. For most operations both are the device that is asked:

        RequestPowerStatus, ... of device d ──waits on──▶ d ◀──signals── reply of d
        RequestActiveSource of device a ─────waits on──▶ a ◀──signals── ACTIVE_SOURCE, everywhere
        SystemAudioModeRequest of device a ──waits on──▶ a     5 ◀──signals── SET_SYSTEM_AUDIO_MODE
        AudioEnable of the audio system ─────waits on──▶ 5 ◀──signals── SET_SYSTEM_AUDIO_MODE -/

namespace CEC
open Schemes Procedure

/-! ### The operations -/

/-- The operations that send a request and wait for the response. -/
inductive RequestOperation where
  | requestPowerStatus (d : Fin 16) (initiator : LogicalAddress)
  | requestVendorId (d : Fin 16) (initiator : LogicalAddress)
  | requestOSDName (d : Fin 16) (initiator : LogicalAddress)
  | requestCecVersion (d : Fin 16) (initiator : LogicalAddress)
  | requestMenuLanguage (d : Fin 16) (initiator : LogicalAddress)
  | requestPhysicalAddress (d : Fin 16) (initiator : LogicalAddress)
  | requestActiveSource (a : Fin 16)
  | requestAudioStatus (initiator : LogicalAddress)
  | requestSystemAudioModeStatus (initiator : LogicalAddress)
  | systemAudioModeRequest (a : Fin 16)
  | audioEnable (device : Fin 16)

/-- The call of `Transmit` that the operation makes, through the handler of its own device. -/
def RequestOperation.request : RequestOperation → Request
  | requestPowerStatus d initiator => ⟨d, initiator, d, 0x8F, false⟩
  | requestVendorId d initiator => ⟨d, initiator, d, 0x8C, false⟩
  | requestOSDName d initiator => ⟨d, initiator, d, 0x46, false⟩
  | requestCecVersion d initiator => ⟨d, initiator, d, 0x9F, false⟩
  | requestMenuLanguage d initiator => ⟨d, initiator, d, 0x91, false⟩
  | requestPhysicalAddress d initiator => ⟨d, initiator, d, 0x83, false⟩
  | requestActiveSource a => ⟨a, .addr a, 15, 0x85, false⟩
  | requestAudioStatus initiator => ⟨5, initiator, 5, 0x71, false⟩
  | requestSystemAudioModeStatus initiator => ⟨5, initiator, 5, 0x7D, false⟩
  | systemAudioModeRequest a => ⟨a, .addr a, 5, 0x70, false⟩
  | audioEnable device => ⟨5, if device = 0 then .unknown else .addr device, 5, 0x70, false⟩

/-- A command that is the response to a request, from the device that was asked. -/
structure Received.RepliesTo (c : Received) (r : Request) : Prop where
  opcodeSet : c.opcodeSet
  opcode : c.opcode = getResponseOpcode r.opcode
  initiator : r.destination = 15 ∨ c.initiator = r.destination

/-- The size that the handlers ask of a response. -/
def Received.wellFormed (c : Received) : Bool :=
  if c.opcode ∈ [0x90, 0x9E, 0x7A, 0x7E, 0x72] then c.size = 1
  else if c.opcode ∈ [0x84, 0x32] then c.size = 3
  else if c.opcode = 0x47 then c.size > 0
  else if c.opcode = 0x82 then c.size = 2
  else true

/-- LG's handler ignores the source of a TV that is powering on while one of ours is active. -/
def Session.suppressesSource (s : Session) (c : Received) : Bool :=
  (s.world.devices c.initiator).handler = .sl && c.initiator = 0 && (s.world.outside 1).ownFlag &&
    s.world.activeSource.any s.world.isHandled

/-- No client takes the reply, it is well formed, and it is from the device through whose handler
    the request was sent, unless it is an `ACTIVE_SOURCE` that is not suppressed. -/
def RequestOperation.Satisfied (op : RequestOperation) (s : Session) (c : Received) : Prop :=
  (s.world.outside 0).commandTaken = false ∧
    match op with
    | .requestActiveSource a => if s.suppressesSource c then a = c.initiator else c.wellFormed
    | op => c.wellFormed ∧ op.request.device = c.initiator

/-! ### What the handling of a reply signals -/

section replies

variable {react : Reaction → Proc Unit} {c : Received} {s : Session}

/-- The handlers take a response exactly if it is well formed. -/
theorem yields_response (h : Handler) (hx : c.opcode ∈ [0x90, 0x9E, 0x84, 0x32, 0x47, 0x87]) :
    Yields (HandledIff c.wellFormed) s (handlerFor react h c) := by
  simp only [List.mem_cons, List.not_mem_nil, or_false] at hx
  rcases hx with hx | hx | hx | hx | hx | hx
  · have heq : handlerFor react h c = onWorld (handleReportPowerStatus react c) := by
      unfold handlerFor
      rw [hx]
      rfl
    rw [heq]
    exact yields_zoom (yields_ite (fun hz => yields_handled _ (by simp [Received.wellFormed, hx, hz]))
      fun hz => yields_abort _ (by simp [Received.wellFormed, hx, hz]))
  · have heq : handlerFor react h c = onWorld (handleDeviceCecVersion c) := by
      unfold handlerFor
      rw [hx]
      rfl
    rw [heq]
    exact yields_zoom (yields_report (by simp [Received.wellFormed, hx]))
  · have heq : handlerFor react h c = onWorld (handleReportPhysicalAddress react c) := by
      unfold handlerFor
      rw [hx]
      rfl
    rw [heq]
    refine yields_zoom (yields_ite (fun hz => ?_) fun hz =>
      yields_abort _ (by simp [Received.wellFormed, hx, hz]))
    refine yields_bind fun _ _ _ => yields_ask_bind (yields_handled _ ?_)
    simp [Received.wellFormed, hx, hz]
  · have heq : handlerFor react h c =
        if h = .an then anHandleSetMenuLanguage react c else handleSetMenuLanguage c := by
      unfold handlerFor
      rw [hx]
      rfl
    have hbase (s : Session) : Yields (HandledIff c.wellFormed) s (handleSetMenuLanguage c) :=
      yields_handleSetMenuLanguage (by simp [Received.wellFormed, hx])
    rw [heq]
    refine yields_ite (fun _ => ?_) fun _ => hbase s
    exact yields_ask_bind (yields_bind fun _ s₁ _ => hbase s₁)
  · have heq : handlerFor react h c = onWorld (handleSetOSDName c) := by
      unfold handlerFor
      rw [hx]
      rfl
    rw [heq]
    exact yields_zoom (yields_report (by simp [Received.wellFormed, hx]))
  · have heq : handlerFor react h c =
        onWorld (if h = .ph then phHandleDeviceVendorId react c else handleDeviceVendorId c) := by
      unfold handlerFor
      rw [hx]
      rfl
    have hwell : c.wellFormed = true := by simp [Received.wellFormed, hx]
    rw [heq]
    refine yields_zoom (yields_ite (fun _ => ?_) fun _ => yields_handleDeviceVendorId hwell)
    exact yields_bind fun _ _ _ => yields_handleDeviceVendorId hwell

/-- They take those of the audio system, too. -/
theorem yields_audioResponse (h : Handler) (hx : c.opcode ∈ [0x7A, 0x7E, 0x72])
    (hc : c.initiator = 5) : Yields (HandledIff c.wellFormed) s (handlerFor react h c) := by
  have heq : handlerFor react h c =
      onWorld (report (c.size = 1 ∧ isAudioSystem c.initiator)) := by
    simp only [List.mem_cons, List.not_mem_nil, or_false] at hx
    unfold handlerFor
    rcases hx with hx | hx | hx
    all_goals
      rw [hx]
      rfl
  have haudio : isAudioSystem c.initiator = true := by rw [hc]; rfl
  rw [heq]
  refine yields_zoom (yields_report ?_)
  simp only [List.mem_cons, List.not_mem_nil, or_false] at hx
  rcases hx with hx | hx | hx <;> simp [Received.wellFormed, hx, haudio]

/-- A response other than `ACTIVE_SOURCE` signals its initiator's event if it is taken. -/
theorem signals_response {s' : Session} {b : Bool} {a : Fin 16}
    (h : Returns (handleCommand react c) s b s') (hset : c.opcodeSet)
    (hx : c.opcode ≠ 0x82 ∧ c.opcode ≠ opcodeFeatureAbort)
    (htakes : ∀ h s, Yields (HandledIff c.wellFormed) s (handlerFor react h c)) :
    Signals (a, c.opcode) s s' ↔
      (s.world.outside 0).commandTaken = false ∧ c.wellFormed ∧ a = c.initiator := by
  rcases handleCommand_cases h with ⟨hnone, -, hsame⟩ | ⟨-, htaken, r, s₂, hr, hend⟩
  · have htaken : (s.world.outside 0).commandTaken = true :=
      hnone.resolve_left (by simp [hset])
    rw [signals_iff (hsame.trans (List.append_nil _).symm)]
    simp [htaken]
  · have hquiet := keeps_outputs_handlerFor (A := Set.univ) (E := ∅) react
      (s.world.devices c.initiator).handler (c := c) (fun _ => Set.mem_univ _)
      (fun h => absurd h hx.1) fun h => absurd h hx.2
    have hkept := (hquiet _ r s₂ hr).signals_eq
    have hhandled := htakes _ _ r s₂ hr
    rcases hend with ⟨rfl, rfl⟩ | ⟨reason, rfl, hend⟩
    · have hsignalled : c.signalled = c.opcode := if_neg fun h => hx.2 h.1
      rw [signals_iff (by rw [hkept])]
      simp [htaken, hhandled.mp rfl, hsignalled]
    · have hrefused : c.wellFormed = false := by
        simpa using mt hhandled.mpr nofun
      have hO := keeps_outputs_unhandledCommand (A := Set.univ) (E := ∅) (r := reason) (c := c)
        (Set.mem_univ _)
      have hlast := (hO s₂ () s' hend).signals_eq
      rw [signals_iff (l := []) (by rw [hlast, hkept, List.append_nil])]
      simp [hrefused]

/-- Whether LG's handler suppresses the source of the TV. -/
theorem returns_suppresses {w w' : World} {r : Bool}
    (h : Returns (suppressTvRoutingChange c) w r w') :
    r = (c.initiator = 0 && (w.outside 0).ownFlag && w.activeSource.any w.isHandled) := by
  by_cases hc : c.initiator = 0
  · rw [suppressTvRoutingChange, if_neg (by simp [hc])] at h
    obtain ⟨flag, w₁, h₁, h⟩ := returns_bind.mp h
    obtain ⟨rfl, rfl⟩ := returns_ownFlag h₁
    have h := returns_ask_bind.mp h
    have hsource : w.afterAnswer.activeSource = w.activeSource := rfl
    rw [hsource] at h
    cases ha : w.activeSource with
    | none =>
      rw [ha] at h
      simp [(returns_pure.mp h).1]
    | some a =>
      rw [ha] at h
      dsimp only at h
      have h := returns_ask_bind.mp h
      obtain ⟨_, w₂, h₂, h⟩ := returns_bind.mp h
      have hr := (returns_pure.mp h).1
      simp only [hr, hc, decide_true, Bool.true_and, Option.any_some]
      rfl
  · rw [suppressTvRoutingChange, if_pos hc] at h
    simp [(returns_pure.mp h).1, hc]

/-- The source is marked and the event is signalled on every device, if the command has its
    operands. -/
theorem returns_handleActiveSource {s' : Session} {r : Handling}
    (h : Returns (handleActiveSource react c) s r s') :
    (r = .handled ↔ c.size = 2) ∧ s'.signals = s.signals ++
      if c.size = 2 then (List.finRange 16).map (·, c.opcode) else [] := by
  by_cases hz : c.size = 2
  · rw [handleActiveSource, if_pos hz] at h
    obtain ⟨_, s₁, h₁, h⟩ := returns_bind.mp h
    obtain ⟨_, s₂, h₂, h⟩ := returns_bind.mp h
    obtain ⟨rfl, rfl⟩ := returns_pure.mp h
    have hworld := (keeps_outputs_onWorld (A := ∅) (E := ∅) _ s _ s₁ h₁).signals_eq
    have hall : s'.signals = s₁.signals ++ (List.finRange 16).map (·, c.opcode) := by
      rw [returns_update.mp h₂]
    exact ⟨by simp [hz], by rw [if_pos hz, hall, hworld]⟩
  · rw [handleActiveSource, if_neg hz] at h
    obtain ⟨rfl, rfl⟩ := returns_pure.mp h
    exact ⟨by simp [hz], by rw [if_neg hz, List.append_nil]⟩

/-- What the handling of `ACTIVE_SOURCE` returns and signals, before the dispatcher. -/
theorem returns_activeSource {h : Handler} {s' : Session} {r : Handling}
    (hx : c.opcode = 0x82) (hs : Returns (handlerFor react h c) s r s') :
    if h = .sl ∧ c.initiator = 0 ∧ (s.world.outside 0).ownFlag ∧
        s.world.activeSource.any s.world.isHandled then
      r = .handled ∧ s'.signals = s.signals
    else (r = .handled ↔ c.size = 2) ∧ s'.signals = s.signals ++
      if c.size = 2 then (List.finRange 16).map (·, c.opcode) else [] := by
  have heq : handlerFor react h c =
      if h = .sl then slHandleActiveSource react c else handleActiveSource react c := by
    unfold handlerFor
    rw [hx]
    rfl
  rw [heq] at hs
  by_cases hsl : h = .sl
  · rw [if_pos hsl] at hs
    obtain ⟨suppressed, s₁, h₁, hs⟩ := returns_bind.mp hs
    have hworld := (keeps_outputs_onWorld (A := ∅) (E := ∅) _ s _ s₁ h₁).signals_eq
    obtain ⟨w, hw, -⟩ := returns_zoom.mp h₁
    have hsuppressed := returns_suppresses hw
    by_cases hsup : suppressed
    · rw [if_pos hsup] at hs
      obtain ⟨rfl, rfl⟩ := returns_pure.mp hs
      rw [if_pos]
      · exact ⟨rfl, hworld⟩
      · rw [hsup] at hsuppressed
        simpa [hsl, and_assoc] using hsuppressed.symm
    · rw [if_neg hsup] at hs
      rw [if_neg, ← hworld]
      · exact returns_handleActiveSource hs
      · rintro ⟨-, hc, hflag, hany⟩
        exact hsup (by simp [hsuppressed, hc, hflag, hany])
  · rw [if_neg hsl] at hs
    rw [if_neg fun h => hsl h.1]
    exact returns_handleActiveSource hs

/-- `ACTIVE_SOURCE` signals the event of every device, unless the source is suppressed. -/
theorem signals_activeSource {s' : Session} {b : Bool} {a : Fin 16}
    (h : Returns (handleCommand react c) s b s') (hset : c.opcodeSet) (hx : c.opcode = 0x82) :
    Signals (a, c.opcode) s s' ↔ (s.world.outside 0).commandTaken = false ∧
      if s.suppressesSource c then a = c.initiator else c.wellFormed := by
  have hwell : c.wellFormed = (c.size = 2 : Bool) := by simp [Received.wellFormed, hx]
  rcases handleCommand_cases h with ⟨hnone, -, hsame⟩ | ⟨-, htaken, r, s₂, hr, hend⟩
  · have htaken : (s.world.outside 0).commandTaken = true :=
      hnone.resolve_left (by simp [hset])
    rw [signals_iff (hsame.trans (List.append_nil _).symm)]
    simp [htaken]
  · have hsource := returns_activeSource hx hr
    have hsignalled : c.signalled = c.opcode := by
      refine if_neg fun h => absurd h.1 ?_
      rw [hx]
      decide
    have hiff : ((s.world.devices c.initiator).handler = .sl ∧ c.initiator = 0 ∧
        (s.world.afterAnswer.outside 0).ownFlag ∧
        s.world.afterAnswer.activeSource.any s.world.afterAnswer.isHandled) ↔
          s.suppressesSource c = true := by
      simp only [Session.suppressesSource, Bool.and_eq_true, decide_eq_true_eq, and_assoc]
      exact Iff.rfl
    simp only [hiff] at hsource
    by_cases hsup : s.suppressesSource c
    · rw [if_pos hsup] at hsource ⊢
      obtain ⟨rfl, hkept⟩ := hsource
      rcases hend with ⟨-, rfl⟩ | ⟨reason, hne, -⟩
      · rw [signals_iff (by rw [hkept]), hsignalled]
        simp [htaken]
      · exact absurd hne nofun
    · rw [if_neg hsup] at hsource ⊢
      obtain ⟨hhandled, hsignals⟩ := hsource
      rcases hend with ⟨rfl, rfl⟩ | ⟨reason, rfl, hend⟩
      · have hz := hhandled.mp rfl
        rw [if_pos hz] at hsignals
        rw [signals_iff (by rw [hsignals, List.append_assoc])]
        simp [htaken, hwell, hz]
      · have hz : c.size ≠ 2 := mt hhandled.mpr nofun
        rw [if_neg hz] at hsignals
        have hO := keeps_outputs_unhandledCommand (A := Set.univ) (E := ∅) (r := reason)
          (c := c) (Set.mem_univ _)
        have hlast := (hO s₂ () s' hend).signals_eq
        rw [signals_iff (l := []) (by rw [hlast, hsignals, List.append_nil])]
        simp [hwell, hz]

end replies

/-- The reply of the device that was asked signals the event that the operation waits for. -/
theorem signals_reply_iff {op : RequestOperation} {n : ℕ} {c : Received} {s s' : Session} {b : Bool}
    (hreply : c.RepliesTo op.request) (h : Returns (handleCommand (react n) c) s b s') :
    Signals op.request.event s s' ↔ op.Satisfied s c := by
  obtain ⟨hset, hopcode, hinitiator⟩ := hreply
  have hevent : op.request.event = (op.request.device, c.opcode) := by rw [hopcode]; rfl
  have hresponse (a : Fin 16) (hx : c.opcode ∈ [0x90, 0x9E, 0x84, 0x32, 0x47, 0x87]) :
      Signals (a, c.opcode) s s' ↔
        (s.world.outside 0).commandTaken = false ∧ c.wellFormed ∧ a = c.initiator := by
    refine signals_response h hset ?_ fun h s => yields_response h hx
    simp only [List.mem_cons, List.not_mem_nil, or_false] at hx
    rcases hx with hx | hx | hx | hx | hx | hx <;> simp [hx, opcodeFeatureAbort]
  have haudio (a : Fin 16) (hx : c.opcode ∈ [0x7A, 0x7E, 0x72]) (hc : c.initiator = 5) :
      Signals (a, c.opcode) s s' ↔
        (s.world.outside 0).commandTaken = false ∧ c.wellFormed ∧ a = c.initiator := by
    refine signals_response h hset ?_ fun h s => yields_audioResponse h hx hc
    simp only [List.mem_cons, List.not_mem_nil, or_false] at hx
    rcases hx with hx | hx | hx <;> simp [hx, opcodeFeatureAbort]
  rw [hevent]
  cases op with
  | requestActiveSource a => exact signals_activeSource h hset hopcode
  | systemAudioModeRequest a =>
    have hc : c.initiator = 5 := hinitiator.resolve_left (by simp [RequestOperation.request])
    exact haudio a (by simp [hopcode, RequestOperation.request, getResponseOpcode]) hc
  | requestAudioStatus i | requestSystemAudioModeStatus i | audioEnable i =>
    have hc : c.initiator = 5 := hinitiator.resolve_left (by simp [RequestOperation.request])
    exact haudio 5 (by simp [hopcode, RequestOperation.request, getResponseOpcode]) hc
  | requestPowerStatus d i | requestVendorId d i | requestOSDName d i | requestCecVersion d i
  | requestMenuLanguage d i | requestPhysicalAddress d i =>
    exact hresponse d (by simp [hopcode, RequestOperation.request, getResponseOpcode])

/-! ### The end of the wait -/

namespace RequestState

variable {k : ℕ}

/-- The thread waits after its first try, and nothing that was received is left to be handled. -/
structure AwaitsReply (st : RequestState k) (t : Fin k) (r : Request) : Prop where
  waiting : (st.threads t).progress = .waiting r 1
  signaled : (st.events r.event).signaled = false
  inbox : st.inbox = []
  emitting : st.emitting = []

/-- A reply arrives and is handled, and the thread runs again. -/
def replyArrives (t : Fin k) (c : Received) (events : List EventKey) : List (RequestEvent k) :=
  .receive c :: .handle events :: ((events.map fun _ => .broadcast) ++ [.wake t])

/-- The processor signals one event after the other. -/
theorem foldl_broadcast : ∀ {l : List EventKey} {s : RequestState k}, s.emitting = l →
    ∀ t key,
    (((l.map fun _ => RequestEvent.broadcast).foldl step s).threads t) = s.threads t ∧
      (((l.map fun _ => RequestEvent.broadcast).foldl step s).events key).signaled =
        ((s.events key).signaled || decide (key ∈ l))
  | [], st, _, t, key => by simp
  | e :: events, st, hemitting, t, key => by
    have hstep : st.step .broadcast =
        { st.setEvent e (st.events e).broadcast with emitting := events } := by
      simp only [step, hemitting]
    obtain ⟨hthread, hsignaled⟩ := foldl_broadcast (s := st.step .broadcast)
      (by rw [hstep]) t key
    rw [List.map_cons, List.foldl_cons]
    refine ⟨by rw [hthread, hstep]; rfl, ?_⟩
    rw [hsignaled, hstep]
    by_cases hkey : key = e
    · simp [hkey, setEvent, CEvent.broadcast]
    · simp [hkey, setEvent]

/-- The thread is woken exactly if its event is one of those that are signalled. -/
theorem replyArrives_iff {st : RequestState k} {t : Fin k} {r : Request} {c : Received}
    {events : List EventKey} (h : st.AwaitsReply t r) :
    (((replyArrives t c events).foldl step st).threads t).progress = .finished r true ↔
      r.event ∈ events := by
  obtain ⟨st₁, hst₁⟩ : ∃ st₁, st₁ = (st.step (.receive c)).step (.handle events) := ⟨_, rfl⟩
  have hhandled : st₁ = { st with
      inbox := []
      threads := fun t => (st.threads t).hear c
      emitting := events } := by
    rw [hst₁]
    simp only [step, h.emitting, h.inbox, List.nil_append]
  have hwaiting₁ : (st₁.threads t).progress = .waiting r 1 := by rw [hhandled]; exact h.waiting
  have hsignaled₁ : (st₁.events r.event).signaled = false := by rw [hhandled]; exact h.signaled
  obtain ⟨hthread, hsignaled⟩ := foldl_broadcast (s := st₁) (l := events)
    (by rw [hhandled]) t r.event
  rw [hsignaled₁, Bool.false_or] at hsignaled
  rw [← hthread] at hwaiting₁
  rw [replyArrives, List.foldl_cons, List.foldl_cons, ← hst₁, List.foldl_append, List.foldl_cons,
    List.foldl_nil]
  generalize (events.map fun _ => RequestEvent.broadcast).foldl step st₁ = st₂ at hwaiting₁ hsignaled
  simp only [step, hwaiting₁]
  by_cases hmem : r.event ∈ events
  · simp [hsignaled, hmem, leave, setProgress, setThread]
  · simp [hsignaled, hmem, hwaiting₁]

end RequestState

/-- The reply to an operation signals the event that the operation waits for, and so ends the wait
    after the first try, exactly if the operation is satisfied by it. -/
theorem reply_reaches_iff {op : RequestOperation} {n : ℕ} {c : Received} {s s' : Session} {b : Bool}
    (hreply : c.RepliesTo op.request) (h : Returns (handleCommand (react n) c) s b s') :
    (Signals op.request.event s s' ↔ op.Satisfied s c) ∧
      ∀ {k : ℕ} (st : RequestState k) (t : Fin k) (events : List EventKey),
        s'.signals = s.signals ++ events → st.AwaitsReply t op.request →
        ((((RequestState.replyArrives t c events).foldl RequestState.step st).threads t).progress =
          .finished op.request true ↔ op.Satisfied s c) := by
  have hsignals := signals_reply_iff hreply h
  refine ⟨hsignals, fun st t events hevents hawaits => ?_⟩
  rw [RequestState.replyArrives_iff hawaits, ← hsignals, signals_iff hevents]

/-- The audio system answers a request to switch its mode on. -/
def setSystemAudioMode : Received where
  initiator := 5
  destination := 4
  opcodeSet := true
  opcode := 0x72
  parameters := BoundedBuffer.empty.pushAll [0x01]

/-- The request that was sent through the handler of the audio system is satisfied. -/
theorem reply_reaches_audioEnable : ∃ b s',
    Returns (handleCommand (react 2) setSystemAudioMode) playbackSession b s' ∧
      Signals (5, 0x72) playbackSession s' := by
  obtain ⟨b, s', h⟩ := exists_returns (s := playbackSession)
    (x := handleCommand (react 2) setSystemAudioMode) (by decide +kernel)
  have hreply : setSystemAudioMode.RepliesTo (RequestOperation.audioEnable 4).request :=
    ⟨rfl, rfl, .inr rfl⟩
  exact ⟨b, s', h, (reply_reaches_iff hreply h).1.mpr ⟨rfl, rfl, rfl⟩⟩

/-- The same reply does not reach device 4, which sent the request itself. -/
theorem reply_misses_systemAudioModeRequest :
    setSystemAudioMode.RepliesTo (RequestOperation.systemAudioModeRequest 4).request ∧ ∃ s',
      Returns (handleCommand (react 2) setSystemAudioMode) playbackSession true s' ∧
        ¬Signals (RequestOperation.systemAudioModeRequest 4).request.event playbackSession s' := by
  obtain ⟨b, s', h⟩ := exists_returns (s := playbackSession)
    (x := handleCommand (react 2) setSystemAudioMode) (by decide +kernel)
  have hall := h.of_all (p := fun b s' => b = true ∧ s'.signals = [(5, 0x72)]) (by decide +kernel)
  obtain ⟨rfl, hsignals⟩ := of_decide_eq_true hall
  refine ⟨⟨rfl, rfl, .inr rfl⟩, s', h, fun hsig => ?_⟩
  rw [signals_iff (l := [(5, 0x72)]) hsignals] at hsig
  exact absurd hsig (by decide)

end CEC
