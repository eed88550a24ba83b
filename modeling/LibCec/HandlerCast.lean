import LibCec.Bus
import LibCec.Schemes.GuardedRun

/-! Whether the TV's handler is the one that its vendor id stands for.

    `PowerUpEventReceived` of another Panasonic handler asks the TV's handler. It looks at the vendor
    id of the TV, gets the handler and casts it:

        GetCurrentVendorId() == Panasonic ─▶ ReplaceHandler ─▶ MarkBusy ─▶ static_cast ─▶ MarkReady
                                                  └── in use: the old handler stays

    The vendor id changes at once, by whichever thread; the handler follows at the next
    `ReplaceHandler` that finds it unused. This is one such call, between the steps of all the other
    functions that change the vendor id or use the handler. -/

namespace CEC
open Schemes

/-- Where the call is. -/
inductive CastCall where
  /-- it has not asked for the vendor id, or has returned -/
  | outside
  /-- the vendor id was Panasonic's -/
  | checked
  /-- in `ReplaceHandler`, which has marked the handler busy -/
  | replacing
  /-- `ReplaceHandler` has returned -/
  | replaced
  /-- `GetHandler` has returned a handler, which is in use now -/
  | casting
  deriving DecidableEq

/-- The TV, its handler and the call. -/
structure TvHandler where
  /-- `m_vendor` -/
  vendor : VendorId
  /-- `GetVendorId` of `m_handler` -/
  handlerVendor : VendorId
  /-- the class of `m_handler` -/
  handler : Handler
  /-- how many uses the other functions have marked -/
  others : ℕ
  call : CastCall

/-- The steps of the call and of the other functions. -/
inductive TvHandlerStep where
  /-- `SetVendorId`, which `SetTVVendorOverride` and received commands lead to -/
  | setVendorId (iVendorId : VendorId)
  | markBusy
  | markReady
  /-- `ReplaceHandler`, up to its `MarkReady` -/
  | replaceHandler
  /-- the call asks whether the TV is present, and for its vendor id -/
  | callChecks (present : Bool)
  /-- `GetHandler` calls `ReplaceHandler` -/
  | callReplaces
  | callMarksReady
  /-- `GetHandler` calls `MarkBusy` and returns -/
  | callMarksBusy
  /-- `MarkHandlerReady` -/
  | callReturns
  deriving DecidableEq

namespace TvHandler

/-- `CEC_VENDOR_PANASONIC`. -/
def vendorPanasonic : VendorId := 0x008045

/-- What the constructor leaves. -/
def initial : TvHandler := ⟨0, 0, .base, 0, .outside⟩

/-- `m_iHandlerUseCount`. -/
def useCount (s : TvHandler) : ℕ :=
  s.others + if s.call = .replacing ∨ s.call = .casting then 1 else 0

/-- What `ReplaceHandler` does with a handler that is not in use. -/
def replace (s : TvHandler) : TvHandler :=
  if s.vendor ≠ s.handlerVendor ∧ (specificHandler s.vendor).isSome then
    { s with handler := (specificHandler s.vendor).getD .base, handlerVendor := s.vendor }
  else s

def step (s : TvHandler) : TvHandlerStep → TvHandler
  | .setVendorId iVendorId => { s with vendor := iVendorId }
  | .markBusy => { s with others := s.others + 1 }
  | .markReady => { s with others := s.others - 1 }
  | .replaceHandler => if s.useCount > 0 then s else { s.replace with others := s.others + 1 }
  | .callChecks present =>
    if s.call = .outside ∧ present ∧ s.vendor = vendorPanasonic then { s with call := .checked }
    else s
  | .callReplaces =>
    if s.call = .checked then
      if s.useCount > 0 then { s with call := .replaced } else { s.replace with call := .replacing }
    else s
  | .callMarksReady => if s.call = .replacing then { s with call := .replaced } else s
  | .callMarksBusy => if s.call = .replaced then { s with call := .casting } else s
  | .callReturns => if s.call = .casting then { s with call := .outside } else s

/-- What `GetHandler` has returned is a `CVLCommandHandler`. -/
def CastValid (s : TvHandler) : Prop := s.call = .casting → s.handler = .vl

instance (s : TvHandler) : Decidable s.CastValid := inferInstanceAs (Decidable (_ → _))

/-- `ReplaceHandler` finds a Panasonic handler that it keeps, or the vendor id of one and a handler
    that is not in use. -/
def LeavesPanasonic (s : TvHandler) : Prop :=
  if s.useCount > 0 then s.handler = .vl
  else s.vendor = vendorPanasonic ∨ s.handler = .vl ∧ specificHandler s.vendor = none

instance (s : TvHandler) : Decidable s.LeavesPanasonic :=
  inferInstanceAs (Decidable (if s.useCount > 0 then s.handler = .vl
    else s.vendor = vendorPanasonic ∨ s.handler = .vl ∧ specificHandler s.vendor = none))

/-- The call's `ReplaceHandler` leaves a Panasonic handler, and so do others between that and its
    `MarkBusy`. -/
def Followed (s : TvHandler) : TvHandlerStep → Prop
  | .callReplaces => s.call = .checked → s.LeavesPanasonic
  | .replaceHandler => s.call = .replaced → s.LeavesPanasonic
  | _ => True

instance (s : TvHandler) : ∀ e, Decidable (s.Followed e)
  | .callReplaces | .replaceHandler => inferInstanceAs (Decidable (_ → _))
  | .setVendorId _ | .markBusy | .markReady | .callChecks _ | .callMarksReady | .callMarksBusy
  | .callReturns => inferInstanceAs (Decidable True)

/-! ### One step -/

/-- Panasonic's handler is made for its vendor id only. -/
theorem specificHandler_eq_vl {v : VendorId} : specificHandler v = some .vl ↔ v = vendorPanasonic := by
  constructor
  · intro h
    unfold specificHandler at h
    split_ifs at h
    all_goals first | assumption | exact absurd (Option.some.inj h) (by decide)
  · rintro rfl
    decide

/-- The class of the handler is the one that its vendor id stands for, and it is Panasonic's from the
    call's `ReplaceHandler` on. -/
structure Follows (s : TvHandler) : Prop where
  made : s.handler = (specificHandler s.handlerVendor).getD .base
  panasonic : s.call = .replacing ∨ s.call = .replaced ∨ s.call = .casting → s.handler = .vl

theorem follows_initial : initial.Follows where
  made := by decide
  panasonic := by decide

section steps

variable {s : TvHandler}

theorem made_replace (hmade : s.handler = (specificHandler s.handlerVendor).getD .base) :
    s.replace.handler = (specificHandler s.replace.handlerVendor).getD .base := by
  unfold replace
  split
  · rfl
  · exact hmade

/-- `ReplaceHandler` leaves a Panasonic handler exactly then. -/
theorem replace_eq_vl_iff (hmade : s.handler = (specificHandler s.handlerVendor).getD .base)
    (hunused : s.useCount = 0) : s.replace.handler = .vl ↔ s.LeavesPanasonic := by
  rw [LeavesPanasonic, if_neg (by omega), ← specificHandler_eq_vl]
  cases hspecific : specificHandler s.vendor with
  | none => simp [replace, hspecific]
  | some h =>
    by_cases hsame : s.vendor = s.handlerVendor
    · rw [← hsame, hspecific] at hmade
      simp [replace, hsame, hmade]
    · simp [replace, hspecific, hsame]

/-- A handler in use is not replaced. -/
theorem leavesPanasonic_of_inUse (hused : 0 < s.useCount) :
    s.LeavesPanasonic ↔ s.handler = .vl := by
  rw [LeavesPanasonic, if_pos hused]

theorem replace_call : s.replace.call = s.call := by
  unfold replace
  split <;> rfl

theorem follows_step {e : TvHandlerStep} (hs : s.Follows) (he : s.Followed e) :
    (s.step e).Follows := by
  obtain ⟨hmade, hpanasonic⟩ := hs
  cases e with
  | setVendorId v => exact ⟨hmade, hpanasonic⟩
  | markBusy => exact ⟨hmade, hpanasonic⟩
  | markReady => exact ⟨hmade, hpanasonic⟩
  | replaceHandler =>
    by_cases hused : s.useCount > 0
    · rw [step, if_pos hused]
      exact ⟨hmade, hpanasonic⟩
    · have hunused : s.useCount = 0 := by omega
      rw [step, if_neg hused]
      refine ⟨made_replace hmade, fun hcall => ?_⟩
      change s.replace.call = _ ∨ s.replace.call = _ ∨ s.replace.call = _ at hcall
      rw [replace_call] at hcall
      rcases hcall with hcall | hcall | hcall
      · simp [useCount, hcall] at hunused
      · exact (replace_eq_vl_iff hmade hunused).mpr (he hcall)
      · simp [useCount, hcall] at hunused
  | callChecks present =>
    rw [step]
    split
    · exact ⟨hmade, by simp⟩
    · exact ⟨hmade, hpanasonic⟩
  | callReplaces =>
    rw [step]
    split
    · next hcall =>
      have hleaves := he hcall
      split
      · next hused => exact ⟨hmade, fun _ => (leavesPanasonic_of_inUse hused).mp hleaves⟩
      · next hunused =>
        refine ⟨made_replace hmade, fun _ => ?_⟩
        exact (replace_eq_vl_iff hmade (by omega)).mpr hleaves
    · exact ⟨hmade, hpanasonic⟩
  | callMarksReady =>
    rw [step]
    split
    · next hcall => exact ⟨hmade, fun _ => hpanasonic (.inl hcall)⟩
    · exact ⟨hmade, hpanasonic⟩
  | callMarksBusy =>
    rw [step]
    split
    · next hcall => exact ⟨hmade, fun _ => hpanasonic (.inr (.inl hcall))⟩
    · exact ⟨hmade, hpanasonic⟩
  | callReturns =>
    rw [step]
    split
    · exact ⟨hmade, by simp⟩
    · exact ⟨hmade, hpanasonic⟩

end steps

/-! ### Runs -/

theorem follows_of_followed {es : List TvHandlerStep} (h : Guarded step Followed initial es) :
    (es.foldl step initial).Follows :=
  h.invariant (fun _ s => s.Follows) follows_initial fun _ _ _ => follows_step

/-- If the call's `ReplaceHandler` finds a Panasonic handler, or one that is not in use, and no other
    thread replaces it before it is marked as used, the cast is valid, in every state of every run. -/
theorem castValid_of_followed (es : List TvHandlerStep) (h : Guarded step Followed initial es) :
    (es.foldl step initial).CastValid :=
  fun hcasting => (follows_of_followed h).panasonic (.inr (.inr hcasting))

/-- The handler is not in use when the TV turns out to be a Panasonic. -/
theorem castValid_unused :
    let es := [.setVendorId vendorPanasonic, .callChecks true, .callReplaces, .markBusy,
      .callMarksReady, .callMarksBusy]
    (es.foldl step initial).call = .casting ∧ (es.foldl step initial).CastValid :=
  ⟨by decide, castValid_of_followed _ (by decide)⟩

/-- When nothing intervenes, the cast is valid only then. -/
theorem castValid_iff_uninterrupted {es : List TvHandlerStep}
    (h : Guarded step Followed initial es) :
    let s := es.foldl step initial
    s.call = .checked →
      (([.callReplaces, .callMarksReady, .callMarksBusy].foldl step s).CastValid ↔
        s.LeavesPanasonic) := by
  intro s hcall
  have hmade : s.handler = _ := (follows_of_followed h).made
  simp only [List.foldl_cons, List.foldl_nil]
  by_cases hused : s.useCount > 0
  · have hcasting : ((s.step .callReplaces).step .callMarksReady).step .callMarksBusy =
        { s with call := .casting } := by
      simp [step, hcall, hused]
    rw [hcasting, leavesPanasonic_of_inUse hused]
    simp [CastValid]
  · have hcasting : ((s.step .callReplaces).step .callMarksReady).step .callMarksBusy =
        { s.replace with call := .casting } := by
      simp [step, hcall, hused]
    rw [hcasting, ← replace_eq_vl_iff hmade (by omega)]
    simp [CastValid]

/-- The vendor id changes while another function uses the handler. -/
theorem not_castValid : ¬ ∀ es : List TvHandlerStep, (es.foldl step initial).CastValid := by
  intro h
  have hcast := h [.markBusy, .setVendorId vendorPanasonic, .callChecks true, .callReplaces,
    .callMarksBusy]
  exact absurd hcast (by decide)

end TvHandler

end CEC
