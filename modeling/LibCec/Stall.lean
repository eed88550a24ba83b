import LibCec.Reallocation

/-! Outgoing communication after an address is lost.

    `HandleLogicalAddressLost` sets `m_bStallCommunication` and only the end of a successful
    `AllocateLogicalAddresses` clears it again. In between the TV is asked for its vendor id:

        set ──▶ reset TV and device ──▶ poll TV ──▶ ask for vendor id ──▶ allocate ──▶ cleared
                                            │              │                 │
                                            └─ not acked ──┼────▶ allocate   └─ no address: set
                                                           └─ waits for the flag itself -/

namespace CEC
open Schemes Procedure

/-! ### Allocating always returns -/

theorem terminates_observe : Terminates observe :=
  terminates_bind (terminates_ask _) fun _ =>
    terminates_bind (terminates_update _) fun _ => terminates_pure _

theorem terminates_resetDeviceStatus (a : Fin 16) : Terminates (resetDeviceStatus a) :=
  terminates_bind (terminates_update _) fun _ => terminates_update _

theorem terminates_setDeviceStatus (a : Fin 16) (st : DeviceStatus) :
    Terminates (setDeviceStatus a st) := by
  refine terminates_ite (terminates_pure ()) ?_
  cases st with
  | unknown => exact terminates_resetDeviceStatus a
  | present => exact terminates_update _
  | handledByLibCec =>
    exact terminates_bind (terminates_ask _) fun _ =>
      terminates_bind (terminates_update _) fun _ => terminates_update _
  | notPresent =>
    exact terminates_bind (terminates_ask _) fun _ => terminates_callOr
      (terminates_bind (terminates_resetDeviceStatus a) fun _ => terminates_update _)

theorem terminates_getStatus (a : Fin 16) : Terminates (getStatus a false) := by
  refine terminates_ite (terminates_pure _) (terminates_bind (terminates_ask _) fun needsPoll => ?_)
  refine terminates_ite (terminates_bind ?_ fun acked => ?_) (terminates_ask _)
  · refine terminates_bind (terminates_ask _) fun handled => terminates_ite (terminates_pure _) ?_
    exact terminates_bind terminates_observe fun o =>
      terminates_bind (terminates_setDeviceStatus a _) fun _ => terminates_pure _
  · exact terminates_bind (terminates_setDeviceStatus a _) fun _ => terminates_pure _

theorem terminates_tryLogicalAddresses (polls : Fin 16 → Bool) :
    ∀ as, Terminates (tryLogicalAddresses polls as)
  | [] => terminates_pure none
  | a :: as => by
    refine terminates_bind (terminates_bind (terminates_ask _) fun _ => ?_) fun ok => ?_
    · refine terminates_ite (terminates_pure false) (terminates_ite ?_ ?_)
      · exact terminates_bind (terminates_setDeviceStatus a _) fun _ => terminates_pure false
      · exact terminates_bind (terminates_setDeviceStatus a _) fun _ => terminates_pure true
    · exact terminates_ite (terminates_pure (some a)) (terminates_tryLogicalAddresses polls as)

theorem terminates_allocateTypes (polls : Fin 16 → Bool) (c : ClientId) :
    ∀ ts, Terminates (allocateTypes polls c ts)
  | [] => terminates_pure true
  | t :: ts => by
    refine terminates_bind (terminates_ite (terminates_pure _)
      (terminates_tryLogicalAddresses polls _)) fun address => ?_
    cases address with
    | none => exact terminates_pure false
    | some a =>
      exact terminates_bind (terminates_update _) fun _ => terminates_allocateTypes polls c ts

theorem terminates_clientAllocateLogicalAddresses (c : ClientId) :
    Terminates (clientAllocateLogicalAddresses c) := by
  refine terminates_bind (terminates_update _) fun _ => ?_
  refine terminates_bind ?_ fun _ => terminates_bind (terminates_ask _) fun types => ?_
  · exact terminates_bind (terminates_ite (terminates_pure ()) (terminates_update _)) fun _ =>
      terminates_bind (terminates_ask _) fun _ => terminates_update _
  · exact terminates_ite (terminates_pure false)
      (terminates_bind terminates_observe fun o => terminates_allocateTypes _ c _)

theorem terminates_autodetectPhysicalAddress (c : ClientId) :
    Terminates (autodetectPhysicalAddress c) := by
  refine terminates_bind terminates_observe fun o => terminates_ite ?_ ?_
  · exact terminates_bind (terminates_update _) fun _ => terminates_pure true
  · exact terminates_bind (terminates_update _) fun _ => terminates_pure false

theorem terminates_insertClient (c : ClientId) (a : Fin 16) : Terminates (insertClient c a) :=
  terminates_bind (terminates_ask _) fun _ =>
    terminates_bind (terminates_callOr (terminates_update _)) fun _ => terminates_update _

/-- Nothing that allocating addresses does waits for the flag. -/
theorem terminates_allocateLogicalAddresses (c : ClientId) :
    Terminates (allocateLogicalAddresses c) := by
  refine terminates_bind (terminates_update _) fun _ => ?_
  refine terminates_bind (terminates_ask _) fun old => ?_
  refine terminates_bind (terminates_forEach (fun _ => terminates_update _) old) fun _ => ?_
  refine terminates_bind (terminates_clientAllocateLogicalAddresses c) fun allocated => ?_
  refine terminates_ite (terminates_pure false) ?_
  refine terminates_bind (terminates_ask _) fun m => ?_
  refine terminates_bind (terminates_callOr
    (terminates_discard (terminates_autodetectPhysicalAddress c))) fun _ => ?_
  refine terminates_bind (terminates_forEach (terminates_insertClient c) _) fun _ => ?_
  refine terminates_bind (terminates_discard (terminates_bind terminates_observe fun _ =>
    terminates_pure _)) fun _ => ?_
  exact terminates_bind (terminates_update _) fun _ => terminates_pure true

/-! ### Up to the allocation -/

/-- The reset of a device, and what becomes of the others. -/
theorem returns_resetDeviceStatus_device {a : Fin 16} {s s' : World}
    (h : Returns (resetDeviceStatus a) s () s') (b : Fin 16) : ∃ q sent,
    s'.devices b = if b = a
      then Device.reset { s.devices b with powerStatus := q, activeSourceSent := sent }
      else { s.devices b with powerStatus := q, activeSourceSent := sent } := by
  obtain ⟨q, sent, hb⟩ := storePowerStatus_device s a b .unknown
  refine ⟨q, sent, ?_⟩
  rw [returns_update.mp (returns_update_bind.mp h), updateDevice_devices]
  split
  · next heq =>
    subst heq
    rw [hb]
  · exact hb

/-- What the resets of the TV and of the lost address leave, also after the TV was polled. -/
structure Lost (a : Fin 16) (s t : World) : Prop where
  clients : t.clients = s.clients
  client : t.client = s.client
  supportsSource : t.supportsSource = s.supportsSource
  stalled : t.stallCommunication = true
  status : ∀ b, b ≠ 0 → b ≠ 15 →
    (t.devices b).status = if b = a then .unknown else (s.devices b).status
  vendor : (t.devices 0).vendor = 0
  handler : (t.devices 0).handler = (s.devices 0).handler
  unsupported : (t.devices 0).unsupportedFeatures = []

namespace Lost

variable {a : Fin 16} {s t t' : World}

theorem setTv (h : Lost a s t) {f : Device → Device} (hvendor : (f (t.devices 0)).vendor = 0)
    (hhandler : (f (t.devices 0)).handler = (t.devices 0).handler)
    (hunsupported : (f (t.devices 0)).unsupportedFeatures = []) :
    Lost a s (t.updateDevice 0 f) where
  clients := h.clients
  client := h.client
  supportsSource := h.supportsSource
  stalled := h.stalled
  status b h0 h15 := by
    rw [updateDevice_devices, if_neg h0]
    exact h.status b h0 h15
  vendor := by rw [updateDevice_devices, if_pos rfl, hvendor]
  handler := by rw [updateDevice_devices, if_pos rfl, hhandler, h.handler]
  unsupported := by rw [updateDevice_devices, if_pos rfl, hunsupported]

theorem setOutside (h : Lost a s t) (o : ℕ → Outside) : Lost a s { t with outside := o } :=
  { h with }

/-- Where nothing but the TV is left to reset. -/
theorem of_resetTv (hclients : t.clients = s.clients) (hclient : t.client = s.client)
    (hsource : t.supportsSource = s.supportsSource) (hstalled : t.stallCommunication = true)
    (hstatus : ∀ b, b ≠ 0 → b ≠ 15 →
      (t.devices b).status = if b = a then .unknown else (s.devices b).status)
    (hhandler : (t.devices 0).handler = (s.devices 0).handler)
    (hr : Returns (resetDeviceStatus 0) t () t') : Lost a s t' := by
  obtain ⟨honly, -, hrest⟩ := returns_resetDeviceStatus hr
  obtain ⟨q, sent, htv⟩ := returns_resetDeviceStatus_device hr 0
  rw [if_pos rfl] at htv
  refine ⟨?_, ?_, ?_, ?_, fun b h0 h15 => ?_, ?_, ?_, ?_⟩
  · rw [honly]; exact hclients
  · rw [honly]; exact hclient
  · rw [honly]; exact hsource
  · rw [honly]; exact hstalled
  · rw [(hrest b h0).1]
    exact hstatus b h0 h15
  · rw [htv]; rfl
  · rw [htv]; exact hhandler
  · rw [htv]; rfl

theorem resetTv (h : Lost a s t) (hr : Returns (resetDeviceStatus 0) t () t') : Lost a s t' :=
  of_resetTv h.clients h.client h.supportsSource h.stalled h.status h.handler hr

/-- The reset of the lost address comes after that of the TV. -/
theorem resetLost (h : Lost 15 s t) (hr : Returns (resetDeviceStatus a) t () t') :
    Lost a s t' := by
  obtain ⟨honly, hunknown, hrest⟩ := returns_resetDeviceStatus hr
  obtain ⟨q, sent, htv⟩ := returns_resetDeviceStatus_device hr 0
  refine ⟨?_, ?_, ?_, ?_, fun b h0 h15 => ?_, ?_, ?_, ?_⟩
  · rw [honly]; exact h.clients
  · rw [honly]; exact h.client
  · rw [honly]; exact h.supportsSource
  · rw [honly]; exact h.stalled
  · split
    · next hb => rw [hb, hunknown]
    · next hb => rw [(hrest b hb).1, h.status b h0 h15, if_neg h15]
  · rw [htv]
    split
    · rfl
    · exact h.vendor
  · rw [htv, ← h.handler]
    split <;> rfl
  · rw [htv]
    split
    · rfl
    · exact h.unsupported

end Lost

/-- The flag is set and the devices are reset. -/
theorem exists_lost (a : Fin 16) (s : World) : ∃ t,
    Returns (do
      update fun w => { w with stallCommunication := true }
      setDeviceStatus 0 .unknown
      callWhen (a < 15) (setDeviceStatus a .unknown)) s () t ∧
      Lost a s t ∧ t.outside = s.outside ∧ (t.devices 0).status = .unknown := by
  obtain ⟨_, s₁, h₁⟩ := terminates_resetDeviceStatus 0 { s with stallCommunication := true }
  have hlost : Lost 15 s s₁ :=
    .of_resetTv (t := { s with stallCommunication := true }) rfl rfl rfl rfl
      (fun b _ h15 => (if_neg h15).symm) rfl h₁
  obtain ⟨honly₁, hunknown, -⟩ := returns_resetDeviceStatus h₁
  have hreturns : ∀ {t : World}, Returns (callWhen (a < 15) (setDeviceStatus a .unknown)) s₁ () t →
      Returns (do
        update fun w => { w with stallCommunication := true }
        setDeviceStatus 0 .unknown
        callWhen (a < 15) (setDeviceStatus a .unknown)) s () t := fun h =>
    returns_update_bind.mpr (returns_bind.mpr ⟨(), s₁, h₁, h⟩)
  by_cases ha : a < 15
  · obtain ⟨_, s₂, h₂⟩ := terminates_resetDeviceStatus a s₁
    obtain ⟨honly₂, hreset, hrest⟩ := returns_resetDeviceStatus h₂
    refine ⟨s₂, hreturns (returns_callOr.mpr (.inl ⟨ha, ?_⟩)), hlost.resetLost h₂, ?_, ?_⟩
    · rw [setDeviceStatus, if_neg ha.ne]
      exact h₂
    · rw [honly₂, honly₁]
    · by_cases htv : 0 = a
      · rw [htv, hreset]
      · rw [(hrest 0 htv).1, hunknown]
  · obtain rfl : a = 15 := by omega
    refine ⟨s₁, hreturns (returns_callOr.mpr (.inr ⟨ha, rfl, rfl⟩)), hlost, ?_, hunknown⟩
    rw [honly₁]

/-! ### Asking the TV for its vendor id -/

/-- Polling the TV: the second setting of the status changes nothing more. -/
theorem returns_pollTv {a : Fin 16} {s t t' : World} (h : Lost a s t)
    (hunknown : (t.devices 0).status = .unknown) {status : DeviceStatus}
    (hr : Returns (getStatus 0 false) t status t') :
    Lost a s t' ∧ t'.outside = (fun n => t.outside (n + 1)) ∧ (t'.devices 0).status = status ∧
      status = if (t.outside 0).pollAcked 0 then .present else .notPresent := by
  rw [getStatus, if_neg (by decide)] at hr
  have hr := returns_ask_bind.mp hr
  rw [if_pos (by simp [World.needsPoll, hunknown, h.vendor, vendorSamsung])] at hr
  obtain ⟨acked, t₁, h₁, hr⟩ := returns_bind.mp hr
  obtain ⟨_, t₂, h₂, hr⟩ := returns_bind.mp hr
  obtain ⟨rfl, rfl⟩ := returns_pure.mp hr
  have h₁ := returns_ask_bind.mp h₁
  rw [if_neg (by simp [World.isHandled, hunknown])] at h₁
  obtain ⟨o, t₃, h₃, h₁⟩ := returns_bind.mp h₁
  obtain ⟨rfl, rfl⟩ := returns_observe.mp h₃
  obtain ⟨_, t₄, h₄, h₁⟩ := returns_bind.mp h₁
  obtain ⟨rfl, rfl⟩ := returns_pure.mp h₁
  have hlost := h.setOutside fun n => t.outside (n + 1)
  cases hacked : (t.outside 0).pollAcked 0 with
  | true =>
    rw [hacked, if_pos rfl, setDeviceStatus, if_neg (by decide)] at h₂ h₄
    rw [returns_update.mp h₂, returns_update.mp h₄]
    refine ⟨?_, rfl, ?_, rfl⟩
    · have hlost₁ := hlost.setTv (f := fun d => { d with status := .present }) hlost.vendor rfl
        hlost.unsupported
      exact hlost₁.setTv hlost₁.vendor rfl hlost₁.unsupported
    · rw [updateDevice_devices, if_pos rfl]
      rfl
  | false =>
    rw [hacked, if_neg Bool.false_ne_true, setDeviceStatus, if_neg (by decide)] at h₂ h₄
    have h₄ := returns_ask_bind.mp h₄
    rw [callWhen, callOr, if_pos (by simp [hunknown])] at h₄
    obtain ⟨_, t₅, h₅, h₄⟩ := returns_bind.mp h₄
    have hlost₅ := hlost.resetTv h₅
    have hlost₁ := hlost₅.setTv (f := fun d => { d with status := .notPresent }) hlost₅.vendor rfl
      hlost₅.unsupported
    rw [← returns_update.mp h₄] at hlost₁
    have hstatus : (t₁.devices 0).status = .notPresent := by
      rw [returns_update.mp h₄, updateDevice_devices, if_pos rfl]
    have h₂ := returns_ask_bind.mp h₂
    rw [callWhen, callOr, if_neg (by simp [hstatus])] at h₂
    obtain ⟨-, rfl⟩ := returns_pure.mp h₂
    refine ⟨hlost₁, ?_, hstatus, rfl⟩
    rw [returns_update.mp h₄]
    exact congrArg World.outside (returns_resetDeviceStatus h₅).1

/-- How many answers the TV's vendor id takes when it is asked for with communication stalled. -/
def World.answersForVendorId (w : World) : ℕ := if (w.outside 0).pollAcked 0 then 2 else 1

/-- The request for the vendor id goes out to a TV that acknowledges the poll, if the adapter has
    an address to send it from. -/
def World.asksTv (w : World) : Prop := (w.outside 0).pollAcked 0 ∧ (w.transmitSource 15).isSome

/-- With communication stalled a request to the TV waits, unless there is no address for it. -/
theorem transmit_stalled {w : World} (hpresent : (w.devices 0).status = .present)
    (hstall : w.stallCommunication = true)
    (hunsupported : (w.devices 0).unsupportedFeatures = []) :
    transmit 15 0 0x8C true w =
      if (w.transmitSource 15).isSome then none else some (false, w) := by
  have hstatus : Returns (callOr ((0 : Fin 16) ≠ 15) .present (getStatus 0 false)) w .present w := by
    rw [callOr, if_pos (by decide)]
    exact getStatus_present (by decide) hpresent
  rw [transmit, bind_run_of_returns hstatus, ask_bind, if_neg (by decide),
    if_neg (by simp [hunsupported]), bind_run, processorTransmit, ask_bind]
  cases hsource : w.transmitSource 15 with
  | none => simp [hsource]
  | some source => simp [hsource, World.isHandled, hpresent, hstall]

/-- With communication stalled the request for the vendor id is sent to a TV that acknowledges the
    poll, and waits; otherwise the call returns with the TV polled. -/
theorem getVendorId_lost {a : Fin 16} {s t : World} (h : Lost a s t)
    (hout : t.outside = s.outside) (hunknown : (t.devices 0).status = .unknown) :
    (¬s.asksTv → ∃ v t', Returns (getVendorId 0 15) t v t' ∧ Lost a s t' ∧
      t'.outside = fun n => s.outside (n + s.answersForVendorId)) ∧
    (s.asksTv → ∀ v t', ¬Returns (getVendorId 0 15) t v t') := by
  obtain ⟨status, t₁, h₁⟩ := terminates_getStatus 0 t
  obtain ⟨hlost, hout₁, hstatus, hpoll⟩ := returns_pollTv h hunknown h₁
  rw [hout] at hout₁ hpoll
  have hsource : t₁.transmitSource 15 = s.transmitSource 15 := by
    rw [World.transmitSource, World.transmitSource, hlost.supportsSource]
  cases hacked : (s.outside 0).pollAcked 0 with
  | false =>
    rw [hacked, if_neg Bool.false_ne_true] at hpoll
    refine ⟨fun _ => ⟨(t₁.devices 0).vendor, t₁, ?_, hlost, ?_⟩, fun hasks => absurd hasks.1 (by simp [hacked])⟩
    · refine returns_bind.mpr ⟨status, t₁, h₁, returns_ask_bind.mpr ?_⟩
      refine returns_bind.mpr ⟨(), t₁, returns_callOr.mpr (.inr ⟨?_, rfl, rfl⟩), ?_⟩
      · simp [hpoll]
      · exact returns_ask.mpr ⟨rfl, rfl⟩
    · rw [hout₁, World.answersForVendorId, hacked, if_neg Bool.false_ne_true]
  | true =>
    rw [hacked, if_pos rfl] at hpoll
    have htransmit := transmit_stalled (hstatus.trans hpoll) hlost.stalled hlost.unsupported
    have hother : t₁.isHandled 0 = false := by simp [World.isHandled, hstatus, hpoll]
    have hasks : s.asksTv ↔ (t₁.transmitSource 15).isSome := by
      rw [World.asksTv, hacked, hsource, and_iff_right rfl]
    rw [hasks]
    refine ⟨fun hno => ?_, fun hyes v t' hv => ?_⟩
    · rw [if_neg hno] at htransmit
      have hlost₂ := hlost.setOutside fun n => t₁.outside (n + 1)
      let u : World := { t₁ with outside := fun n => t₁.outside (n + 1) }.updateDevice 0
        fun d => { d with handler := (specificHandler d.vendor).getD d.handler }
      have hlost₃ : Lost a s u :=
        hlost₂.setTv hlost.vendor (by simp only [hlost.vendor]; rfl) hlost.unsupported
      refine ⟨(u.devices 0).vendor, u, ?_, hlost₃, ?_⟩
      · refine returns_bind.mpr ⟨status, t₁, h₁, returns_ask_bind.mpr ?_⟩
        refine returns_bind.mpr ⟨(), _, returns_callOr.mpr (.inl ⟨⟨hpoll, hlost.vendor⟩, ?_⟩),
          returns_ask.mpr ⟨rfl, rfl⟩⟩
        refine returns_ask_bind.mpr ?_
        rw [if_neg (by simp [hother])]
        refine returns_bind.mpr ⟨false, t₁, htransmit, ?_⟩
        refine returns_bind.mpr ⟨_, _, returns_observe.mpr ⟨rfl, rfl⟩, ?_⟩
        refine returns_bind.mpr ⟨(), _, returns_callOr.mpr (.inr ⟨Bool.false_ne_true, rfl, rfl⟩), ?_⟩
        rw [replaceHandler, if_neg (by decide)]
        exact returns_update.mpr rfl
      · rw [World.answersForVendorId, hacked, if_pos rfl]
        exact congrArg (fun o : ℕ → Outside => fun n => o (n + 1)) hout₁
    · rw [if_pos hyes] at htransmit
      obtain ⟨st, t₂, h₂, hv⟩ := returns_bind.mp hv
      obtain ⟨rfl, rfl⟩ := h₁.unique h₂
      have hv := returns_ask_bind.mp hv
      obtain ⟨_, t₃, h₃, hv⟩ := returns_bind.mp hv
      rw [callWhen, callOr, if_pos ⟨hpoll, hlost.vendor⟩] at h₃
      have h₃ := returns_ask_bind.mp h₃
      rw [if_neg (by simp [hother])] at h₃
      obtain ⟨r, t₄, h₄, -⟩ := returns_bind.mp h₃
      exact absurd (htransmit.symm.trans h₄) (by simp)

/-! ### The allocation -/

/-- The world in which the addresses are allocated again: the TV and the lost device are reset. -/
def World.afterLoss (w : World) (a : Fin 16) : World :=
  (w.updateDevice 0 .reset).updateDevice a .reset

theorem Lost.canAllocate {a : Fin 16} {s t : World} (h : Lost a s t) (c : ClientId)
    (polls : Fin 16 → Bool) : t.canAllocate c polls = (s.afterLoss a).canAllocate c polls := by
  have htv : ((s.afterLoss a).devices 0).vendor = 0 ∧
      ((s.afterLoss a).devices 0).handler = (s.devices 0).handler := by
    rw [World.afterLoss, updateDevice_devices, updateDevice_devices]
    split
    · next ha => exact ha ▸ ⟨rfl, rfl⟩
    · exact ⟨rfl, rfl⟩
  have hsupported : t.supported c = (s.afterLoss a).supported c := by
    rw [World.supported, World.supported, World.tvHandler, World.tvHandler, htv.1, htv.2, h.vendor,
      h.handler, World.configuration, World.configuration, h.client]
    rfl
  have hfree : ∀ b, b ≠ 0 → b ≠ 15 → t.isFree polls b = (s.afterLoss a).isFree polls b := by
    intro b h0 h15
    have hstatus : ((s.afterLoss a).devices b).status =
        if b = a then .unknown else (s.devices b).status := by
      rw [World.afterLoss, updateDevice_devices]
      split
      · rfl
      · rw [updateDevice_devices, if_neg h0]
    rw [World.isFree, World.isFree, h.status b h0 h15, hstatus]
  have hfinds : t.findsAddress polls = (s.afterLoss a).findsAddress polls := by
    funext u
    rw [World.findsAddress, World.findsAddress]
    congr 1
    exact any_isFree_congr fun b hb => hfree b (candidates_ne hb).1 (candidates_ne hb).2
  rw [World.canAllocate, World.canAllocate, hsupported, hfinds]

theorem Lost.clientToReallocate {a : Fin 16} {s t : World} (h : Lost a s t) :
    t.clientToReallocate a = s.clientToReallocate a := by
  rw [World.clientToReallocate, World.clientToReallocate, World.primaryClient, World.primaryClient,
    h.clients]

/-- When communication is resumed: the lost address leads to a client, the TV is not asked for its
    vendor id, and an address is found for every type of that client. -/
def World.resumes (w : World) (a : Fin 16) : Prop :=
  ¬w.asksTv ∧ ∃ c, w.clientToReallocate a = some c ∧
    (w.afterLoss a).canAllocate c (w.outside w.answersForVendorId).pollAcked

/-- The loss of an address is dealt with and outgoing communication goes on exactly if there is a
    client, the TV is not asked, and the client gets its addresses. -/
theorem addressLost_resumes_iff (s : World) (a : Fin 16) :
    (∃ s', Returns (addressLost a) s () s' ∧ s'.stallCommunication = false) ↔ s.resumes a := by
  obtain ⟨t, ht, hlost, hout, hunknown⟩ := exists_lost a s
  obtain ⟨hreturns, hwaits⟩ := getVendorId_lost hlost hout hunknown
  have hparts : handleLogicalAddressLost a = ((do
      update fun w => { w with stallCommunication := true }
      setDeviceStatus 0 .unknown
      callWhen (a < 15) (setDeviceStatus a .unknown)) >>= fun _ => do
        discard (getVendorId 0 15)
        ask (·.clientToReallocate a)) := by
    simp only [handleLogicalAddressLost, bind_assoc]
  constructor
  · rintro ⟨s', h, hflag⟩
    obtain ⟨client, u, hu, h⟩ := returns_bind.mp h
    rw [hparts] at hu
    obtain ⟨_, t', ht', hu⟩ := returns_bind.mp hu
    obtain ⟨-, rfl⟩ := ht.unique ht'
    obtain ⟨_, t₂, h₂, hu⟩ := returns_bind.mp hu
    obtain ⟨v, hv⟩ := returns_discard.mp h₂
    obtain ⟨rfl, rfl⟩ := returns_ask.mp hu
    have hasks : ¬s.asksTv := fun hasks => hwaits hasks v u hv
    obtain ⟨v', t₃, hv', hlost₃, hout₃⟩ := hreturns hasks
    obtain ⟨-, rfl⟩ := hv'.unique hv
    refine ⟨hasks, ?_⟩
    rw [hlost₃.clientToReallocate] at h
    cases hc : s.clientToReallocate a with
    | none =>
      rw [hc] at h
      rw [(returns_pure.mp h).2, hlost₃.stalled] at hflag
      exact Bool.noConfusion hflag
    | some c =>
      rw [hc] at h
      obtain ⟨ok, hok⟩ := returns_discard.mp h
      have hre := returns_allocateLogicalAddresses hok
      have hstalled := hre.stalled
      rw [hflag, hlost₃.stalled, Bool.and_true] at hstalled
      refine ⟨c, rfl, ?_⟩
      have hpolls : u.outside 0 = s.outside s.answersForVendorId :=
        (congrFun hout₃ 0).trans (congrArg s.outside (Nat.zero_add _))
      rw [← hlost₃.canAllocate, ← hpolls, ← hre.outcome]
      simpa using hstalled
  · rintro ⟨hasks, c, hc, hcan⟩
    obtain ⟨v, t₂, hv, hlost₂, hout₂⟩ := hreturns hasks
    obtain ⟨ok, s', hok⟩ := terminates_allocateLogicalAddresses c t₂
    have hre := returns_allocateLogicalAddresses hok
    have hpolls : t₂.outside 0 = s.outside s.answersForVendorId :=
      (congrFun hout₂ 0).trans (congrArg s.outside (Nat.zero_add _))
    have htrue : ok = true := by
      rw [hre.outcome, hlost₂.canAllocate, hpolls]
      exact hcan
    refine ⟨s', ?_, ?_⟩
    · refine returns_bind.mpr ⟨some c, t₂, ?_, ?_⟩
      · rw [hparts]
        refine returns_bind.mpr ⟨(), t, ht, ?_⟩
        refine returns_bind.mpr ⟨(), t₂, returns_discard.mpr ⟨v, hv⟩, ?_⟩
        exact returns_ask.mpr ⟨(hlost₂.clientToReallocate.trans hc).symm, rfl⟩
      · exact returns_discard.mpr ⟨ok, hok⟩
    · rw [hre.stalled, htrue]
      rfl

/-- Nobody is registered, so no thread is started and the flag stays set. -/
theorem addressLost_without_client :
    ¬∀ (s : World) (a : Fin 16),
      ∃ s', Returns (addressLost a) s () s' ∧ s'.stallCommunication = false := by
  intro hall
  obtain ⟨s', h, hflag⟩ := hall (.start (fun _ => .clear) fun _ => .silent) 4
  have hrun : (addressLost 4 (.start (fun _ => .clear) fun _ => .silent)).map
      (fun r => r.2.stallCommunication) = some true := by decide
  rw [show addressLost 4 (.start (fun _ => .clear) fun _ => .silent) = some ((), s') from h] at hrun
  exact absurd (hflag.symm.trans (Option.some.inj hrun)) nofun

end CEC
