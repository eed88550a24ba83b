import LibCec.CommandFrame
import LibCec.OperandReads

/-! The operands that are not read make no difference.

    `operandReads` lists what a function reads, beside the function. `SameWhereRead` are two commands
    that agree in what is listed and in their size, and `sameButRequeued_handlerFor` says that every
    handler does the same with both: the list leaves out no operand that matters.

        operandReads ──guard by guard──▶ handle…_eq ──opcode by opcode──▶ handlerFor -/

namespace CEC
open Schemes Procedure

/-- `c'` is `c` with other operands, as many of them, and the same ones where they are read. -/
structure SameWhereRead (reads : List ℕ) (c c' : Received) : Prop where
  initiator : c'.initiator = c.initiator
  destination : c'.destination = c.destination
  opcode : c'.opcode = c.opcode
  size : c'.size = c.size
  parameter : ∀ i ∈ reads, c'.parameter i = c.parameter i

namespace SameWhereRead

variable {l m : List ℕ} {c c' : Received}

theorem mono (h : SameWhereRead m c c') (hl : ∀ i ∈ l, i ∈ m) : SameWhereRead l c c' :=
  { h with parameter := fun i hi => h.parameter i (hl i hi) }

theorem left (h : SameWhereRead (l ++ m) c c') : SameWhereRead l c c' :=
  h.mono fun _ => List.mem_append_left m

theorem right (h : SameWhereRead (l ++ m) c c') : SameWhereRead m c c' :=
  h.mono fun _ => List.mem_append_right l

theorem tail {i : ℕ} (h : SameWhereRead (i :: l) c c') : SameWhereRead l c c' :=
  h.mono fun _ => List.mem_cons_of_mem i

theorem head {i : ℕ} (h : SameWhereRead (i :: l) c c') : c'.parameter i = c.parameter i :=
  h.parameter i List.mem_cons_self

theorem guarded {guard : Bool} (h : SameWhereRead (readsWhen guard l) c c') (hg : guard = true) :
    SameWhereRead l c c' := by
  subst hg
  exact h

theorem address {i : ℕ} (h : SameWhereRead (i :: (i + 1) :: l) c c') :
    c'.address i = c.address i := by
  rw [Received.address, Received.address, h.head, h.tail.head]

theorem vendorId (h : SameWhereRead (0 :: 1 :: 2 :: l) c c') : c'.vendorId = c.vendorId := by
  rw [Received.vendorId, Received.vendorId, h.head, h.tail.head, h.tail.tail.head]

theorem responds (h : SameWhereRead l c c') (w : World) : w.responds c' = w.responds c := by
  rw [World.responds, World.responds, h.destination]

theorem always {l : List ℕ} (h : SameWhereRead l c c') (guard : Bool) :
    SameWhereRead (readsWhen guard l) c c' := by
  refine h.mono fun i hi => ?_
  unfold readsWhen at hi
  split at hi
  · exact hi
  · exact absurd hi List.not_mem_nil

/-- A function that reads what follows a guard on the size. -/
theorem ite_eq {α : Type*} {l : List ℕ} {guard : Prop} [Decidable guard] {x x' y : α}
    (h : SameWhereRead (readsWhen guard l) c c') (hx : SameWhereRead l c c' → x' = x) :
    (if guard then x' else y) = if guard then x else y := by
  split
  · next hg => exact hx (h.guarded (decide_eq_true hg))
  · rfl

/-- A chain of comparisons comes out the same. -/
theorem equals_iff {l : List (ℕ × UInt8)} (h : SameWhereRead (comparedTo c l) c c') :
    (l.Forall fun p => c'.parameter p.1 = p.2) ↔ l.Forall fun p => c.parameter p.1 = p.2 := by
  induction l with
  | nil => exact Iff.rfl
  | cons p l ih =>
    obtain ⟨i, x⟩ := p
    rw [comparedTo] at h
    simp only [List.forall_cons, h.head]
    exact and_congr_right fun hx => ih (h.tail.guarded (decide_eq_true hx))

theorem differs_iff {x y z : UInt8} (h : SameWhereRead (comparedVendorId c x y z) c c') :
    (c'.parameter 0 ≠ x ∨ c'.parameter 1 ≠ y ∨ c'.parameter 2 ≠ z) ↔
      (c.parameter 0 ≠ x ∨ c.parameter 1 ≠ y ∨ c.parameter 2 ≠ z) := by
  have heq : (c'.parameter 0 = x ∧ c'.parameter 1 = y ∧ c'.parameter 2 = z) ↔
      (c.parameter 0 = x ∧ c.parameter 1 = y ∧ c.parameter 2 = z) := h.equals_iff
  simpa only [not_and_or] using not_congr heq

theorem withId {x y z : UInt8} (h : SameWhereRead (comparedVendorId c x y z) c c')
    (hid : c.parameter 0 = x ∧ c.parameter 1 = y ∧ c.parameter 2 = z) :
    SameWhereRead (withIdReads c) c c' := by
  obtain ⟨hx, hy, hz⟩ : c'.parameter 0 = x ∧ c'.parameter 1 = y ∧ c'.parameter 2 = z :=
    h.equals_iff.mpr hid
  have hthree : SameWhereRead [0, 1, 2] c c' := by
    refine { h with parameter := ?_ }
    simp [hid, hx, hy, hz]
  exact hthree.always _

end SameWhereRead

section functions

variable {c c' : Received} {w : World} (react : Reaction → Proc Unit)

/-! ### The base handler -/

theorem handleReportPowerStatus_eq (h : SameWhereRead (readsWhen (c.size = 1) [0]) c c') :
    handleReportPowerStatus react c' = handleReportPowerStatus react c := by
  simp only [handleReportPowerStatus, h.size, h.initiator]
  by_cases hsize : c.size = 1
  · rw [(h.guarded (decide_eq_true hsize)).head]
  · simp only [hsize, if_false]

theorem handleSetMenuLanguage_eq (h : SameWhereRead (readsWhen (c.size = 3) [0, 1, 2]) c c') :
    handleSetMenuLanguage c' = handleSetMenuLanguage c := by
  simp only [handleSetMenuLanguage, h.size, h.initiator]
  exact h.ite_eq fun h => by rw [h.head, h.tail.head, h.tail.tail.head]

theorem handleDeviceVendorId_eq (h : SameWhereRead (readsWhen (3 ≤ c.size) [0, 1, 2]) c c') :
    handleDeviceVendorId c' = handleDeviceVendorId c := by
  simp only [handleDeviceVendorId, callWhen, callOr, h.size, h.initiator]
  rw [h.ite_eq fun h => by rw [h.vendorId]]

theorem handleRoutingChange_eq (h : SameWhereRead (readsWhen (c.size = 4) [2, 3]) c c') :
    handleRoutingChange react c' = handleRoutingChange react c := by
  simp only [handleRoutingChange, h.size, h.initiator]
  exact h.ite_eq fun h => by rw [h.address]

theorem handleRoutingInformation_eq (h : SameWhereRead (readsWhen (c.size = 2) [0, 1]) c c') :
    handleRoutingInformation react c' = handleRoutingInformation react c := by
  simp only [handleRoutingInformation, h.size, h.initiator]
  exact h.ite_eq fun h => by rw [h.address]

theorem handleActiveSource_eq (h : SameWhereRead (readsWhen (c.size = 2) [0, 1]) c c') :
    handleActiveSource react c' = handleActiveSource react c := by
  simp only [handleActiveSource, h.size, h.initiator, h.opcode]
  exact h.ite_eq fun h => by rw [h.address]

theorem handleReportPhysicalAddress_eq (h : SameWhereRead (readsWhen (c.size = 3) [0, 1]) c c') :
    handleReportPhysicalAddress react c' = handleReportPhysicalAddress react c := by
  simp only [handleReportPhysicalAddress, callWhen, callOr, h.size, h.initiator]
  exact h.ite_eq fun h => by rw [h.address]

theorem handleSetStreamPath_eq (h : SameWhereRead (streamPathReads w c) c c') :
    handleSetStreamPath react c' w = handleSetStreamPath react c w := by
  simp only [handleSetStreamPath, ask_bind, h.size]
  by_cases hi : (!w.initialised) = true
  · rw [if_pos hi, if_pos hi]
  by_cases hsize : 2 ≤ c.size
  · have hinitialised : w.initialised = true := by simpa using hi
    rw [(h.guarded (by simp [hinitialised, hsize])).address]
  · simp only [hsize, if_false]

theorem handleSystemAudioModeRequest_eq
    (h : SameWhereRead (readsWhen (w.responds c && isAudioSystem c.destination && 2 ≤ c.size) [0, 1])
      c c') :
    handleSystemAudioModeRequest react c' w = handleSystemAudioModeRequest react c w := by
  simp only [handleSystemAudioModeRequest, systemAudioModeOn, ask_bind, callWhen, callOr, h.responds,
    h.size, h.initiator, h.destination]
  by_cases hr : (w.responds c && isAudioSystem c.destination) = true
  · by_cases hsize : 2 ≤ c.size
    · rw [(h.guarded (by rw [hr, decide_eq_true hsize]; rfl)).address]
    · simp only [hsize, if_false]
  · rw [if_neg hr, if_neg hr]

theorem handleUserControlPressed_eq
    (h : SameWhereRead (readsWhen (w.responds c && c.size ≠ 0) [0]) c c') :
    handleUserControlPressed react c' w = handleUserControlPressed react c w := by
  simp only [handleUserControlPressed, ask_bind, callWhen, callOr, h.responds, h.size, h.initiator,
    h.destination]
  by_cases hr : (!w.responds c) = true
  · rw [if_pos hr, if_pos hr]
  by_cases hsize : c.size = 0
  · simp only [hsize, if_true]
  have hresponds : w.responds c = true := by simpa using hr
  rw [(h.guarded (by simp [hresponds, hsize])).head]

theorem handleFeatureAbort_eq (h : SameWhereRead (featureAbortReads c) c c') :
    handleFeatureAbort c' = handleFeatureAbort c := by
  simp only [handleFeatureAbort, callWhen, callOr, h.size, h.initiator]
  by_cases hsize : c.size = 2
  · have h := h.guarded (decide_eq_true hsize)
    rw [h.head]
    by_cases hreason : c.parameter 1 = AbortReason.unrecognizedOpcode.code ∨
        c.parameter 1 = AbortReason.refused.code
    · rw [(h.tail.guarded (decide_eq_true hreason)).head]
    · simp only [hreason, and_false, if_false]
  · simp only [hsize, false_and, if_false]

/-! ### LG -/

theorem slHandleVendorCommand_eq (h : SameWhereRead (slVendorCommandReads w c) c c') :
    slHandleVendorCommand react c' w = slHandleVendorCommand react c w := by
  simp only [slHandleVendorCommand, slInit, slPowerOn, slPowerOnStatus, slConnect,
    handleVendorCommand, ask_bind, callWhen, callOr, h.size, h.initiator, h.destination]
  by_cases hto : (!w.isHandled c.destination) = true ∧ c.destination ≠ 15
  · rw [if_pos hto, if_pos hto]
  rw [if_neg hto, if_neg hto]
  by_cases hsize : c.size = 1 ∨ c.size = 2
  · rw [(h.guarded (by simp only [isFor_of_not hto, Bool.true_and, ← Bool.decide_or, hsize,
      decide_true])).head]
  · simp only [not_or] at hsize
    simp only [hsize, false_and, if_false]

theorem slHandleGiveDeckStatus_eq (h : SameWhereRead (slDeckStatusReads w c) c c') :
    slHandleGiveDeckStatus react c' w = slHandleGiveDeckStatus react c w := by
  have hbase : handleGiveDeckStatus c' = handleGiveDeckStatus c := by
    simp only [handleGiveDeckStatus, reply, h.responds, h.initiator, h.destination]
  simp only [slHandleGiveDeckStatus, ask_bind, h.responds, h.size, h.initiator, h.destination, hbase]
  by_cases hr : (!w.responds c) = true
  · simp only [hr, if_true]
  by_cases htype : (!isPlaybackDevice c.destination) = true ∨ c.size = 0
  · simp only [htype, if_true]
  by_cases hactive : (!(w.devices c.destination).activeSource) = true
  · simp only [hactive, if_true]
  have hresponds : w.responds c = true := by simpa using hr
  have hshown : (w.devices c.destination).activeSource = true := by simpa using hactive
  obtain ⟨hplayback, hsize⟩ : isPlaybackDevice c.destination = true ∧ c.size ≠ 0 := by
    simpa using htype
  rw [(h.guarded (by simp [hresponds, hplayback, hsize, hshown])).head]

/-- Whether LG's handler suppresses a command does not depend on its operands. -/
theorem suppressTvRoutingChange_eq {l : List ℕ} (h : SameWhereRead l c c') :
    suppressTvRoutingChange c' = suppressTvRoutingChange c := by
  simp only [suppressTvRoutingChange, h.initiator]

theorem suppresses_of_returns {w' : World} {b : Bool}
    (h : Returns (suppressTvRoutingChange c) w b w') : w.suppresses c = b := by
  rw [World.suppresses, show suppressTvRoutingChange c w = some (b, w') from h]
  rfl

theorem slHandleActiveSource_eq {s : Session}
    (h : SameWhereRead (readsWhen (!s.world.suppresses c && c.size = 2) [0, 1]) c c') :
    slHandleActiveSource react c' s = slHandleActiveSource react c s := by
  simp only [slHandleActiveSource, suppressTvRoutingChange_eq h]
  refine bind_congr_returns fun suppressed s₁ hs => ?_
  obtain ⟨w₁, hw, -⟩ := returns_zoom.mp hs
  rw [suppresses_of_returns hw] at h
  cases suppressed
  · rw [handleActiveSource_eq react h]
  · simp only [if_true]

theorem slHandleSetStreamPath_eq
    (h : SameWhereRead (readsWhen (!w.suppresses c) (streamPathReads w c)) c c') :
    slHandleSetStreamPath react c' w = slHandleSetStreamPath react c w := by
  simp only [slHandleSetStreamPath, suppressTvRoutingChange_eq h]
  refine bind_congr_returns fun suppressed w₁ hw => ?_
  have hframe : BusFrame ∅ w w₁ := keeps_suppressTvRoutingChange c w suppressed w₁ hw
  rw [suppresses_of_returns hw, streamPathReads, ← hframe.initialised] at h
  cases suppressed
  · simp only [Bool.false_eq_true, if_false]
    exact handleSetStreamPath_eq react h
  · simp only [if_true]

/-! ### Philips -/

theorem phHandleUserControlPressed_eq (h : SameWhereRead [0] c c') :
    phHandleUserControlPressed react c' = phHandleUserControlPressed react c := by
  have hrelease : handleUserControlRelease c' = handleUserControlRelease c := by
    simp only [handleUserControlRelease, h.responds]
  have hpressed : handleUserControlPressed react c' = handleUserControlPressed react c :=
    funext fun w => handleUserControlPressed_eq react (h.always _)
  simp only [phHandleUserControlPressed, h.head, hrelease, hpressed]

theorem phHandleRoutingChange_eq
    (h : SameWhereRead (readsWhen (c.size = 4) [0, 1, 2, 3] ++ readsWhen (c.size = 4) [2, 3]) c c') :
    phHandleRoutingChange react c' = phHandleRoutingChange react c := by
  have hbase := handleRoutingChange_eq react h.right
  simp only [phHandleRoutingChange, claimRouteWhilePoweringUp, callOr, hbase, h.size, h.initiator]
  rw [h.left.ite_eq fun h => by rw [h.address, h.tail.tail.address]]

section frames

variable (hreact : ReactionsKeep (BusFrame ∅) react)
include hreact

theorem phHandleSetStreamPath_eq
    (h : SameWhereRead (readsWhen (4 ≤ c.size) [0, 1, 2, 3] ++ streamPathReads w c) c c') :
    phHandleSetStreamPath react c' w = phHandleSetStreamPath react c w := by
  have hclaim : callOr (4 ≤ c'.size) false
        (claimRouteWhilePoweringUp react c' (c'.address 0) (c'.address 2)) =
      callOr (4 ≤ c.size) false
        (claimRouteWhilePoweringUp react c (c.address 0) (c.address 2)) := by
    simp only [claimRouteWhilePoweringUp, callOr, h.size, h.initiator]
    exact h.left.ite_eq fun h => by rw [h.address, h.tail.tail.address]
  rw [phHandleSetStreamPath, phHandleSetStreamPath, hclaim]
  refine bind_congr_returns fun claimed w₁ hw => ?_
  have hframe : BusFrame ∅ w w₁ := keepsAt_callOr (busFrame_composable ∅)
    (fun _ => keeps_claimRouteWhilePoweringUp hreact c _ _ w) claimed w₁ hw
  have hbase : handleSetStreamPath react c' w₁ = handleSetStreamPath react c w₁ := by
    refine handleSetStreamPath_eq react ?_
    have h := h.right
    rwa [streamPathReads, ← hframe.initialised] at h
  cases claimed
  · simp only [Bool.false_eq_true, if_false]
    exact hbase
  · simp only [if_true]

/-! ### Panasonic -/

theorem vlHandleSystemAudioModeRequest_eq
    (h : SameWhereRead (readsWhen (w.responds c && isAudioSystem c.destination && 2 ≤ c.size) [0, 1])
      c c') :
    vlHandleSystemAudioModeRequest react c' w = vlHandleSystemAudioModeRequest react c w := by
  simp only [vlHandleSystemAudioModeRequest, callWhen, callOr, h.initiator]
  refine bind_congr_returns fun _ w₁ hw => handleSystemAudioModeRequest_eq react ?_
  have hframe : BusFrame ∅ w w₁ := keepsAt_callOr (busFrame_composable ∅)
    (fun _ => keeps_setPowerStatus hreact 0 .on w) _ w₁ hw
  have hresponds : w₁.responds c = w.responds c := by
    rw [World.responds, World.responds, hframe.initialised, hframe.handled]
  rwa [hresponds]

end frames

theorem vlHandleVendorCommand_eq
    (h : SameWhereRead (readsWhen (c.size = 3) (comparedTo c [(0, 0x10), (1, 0x01)])) c c') :
    vlHandleVendorCommand react c' = vlHandleVendorCommand react c := by
  have hcommand : c.size = 3 ∧ c'.parameter 0 = 0x10 ∧ c'.parameter 1 = 0x01 ↔
      c.size = 3 ∧ c.parameter 0 = 0x10 ∧ c.parameter 1 = 0x01 := by
    exact and_congr_right fun hsize => (h.guarded (decide_eq_true hsize)).equals_iff
  simp only [← and_assoc] at hcommand
  simp only [vlHandleVendorCommand, callWhen, callOr, h.size, h.initiator, h.destination, ← and_assoc,
    hcommand]

/-! ### Vendor commands with an id -/

/-- A command is queued again as it is; apart from that the two calls do the same. -/
def SameButRequeued (x y : HandlerProc Handling) (s : Session) : Prop :=
  (x s).map (fun r => (r.1, { r.2 with requeued := [] })) =
    (y s).map fun r => (r.1, { r.2 with requeued := [] })

theorem sameButRequeued_of_eq {x y : HandlerProc Handling} {s : Session} (h : x s = y s) :
    SameButRequeued x y s := by
  rw [SameButRequeued, h]

theorem sameButRequeued_bind {α : Type} {x : HandlerProc α} {f g : α → HandlerProc Handling}
    {s : Session} (h : ∀ a t, SameButRequeued (f a) (g a) t) :
    SameButRequeued (x >>= f) (x >>= g) s := by
  rw [SameButRequeued, bind_run, bind_run]
  cases x s with
  | none => rfl
  | some r => exact h r.1 r.2

theorem sameButRequeued_withId {s : Session} (h : SameWhereRead (withIdReads c) c c') :
    SameButRequeued (handleDeviceVendorCommandWithId c') (handleDeviceVendorCommandWithId c) s := by
  simp only [handleDeviceVendorCommandWithId, h.size, h.initiator]
  by_cases hsize : c.size < 3
  · simp only [hsize, if_true]
    exact sameButRequeued_of_eq rfl
  rw [(h.guarded (decide_eq_true (Nat.not_lt.mp hsize))).vendorId]
  refine sameButRequeued_bind fun vendor t => ?_
  rw [if_neg hsize, if_neg hsize]
  refine sameButRequeued_bind fun _ t => ?_
  split
  · rfl
  · exact sameButRequeued_of_eq rfl

theorem vlPowerChange_eq (h : c'.initiator = c.initiator) (hpower : c'.parameter 4 = c.parameter 4) :
    vlPowerChange react c' = vlPowerChange react c := by
  simp only [vlPowerChange, callWhen, callOr, h, hpower]

theorem sameButRequeued_vl {s : Session} (h : SameWhereRead (vlWithIdReads s.world c) c c') :
    SameButRequeued (vlHandleDeviceVendorCommandWithId react c')
      (vlHandleDeviceVendorCommandWithId react c) s := by
  rw [SameButRequeued, vlHandleDeviceVendorCommandWithId, vlHandleDeviceVendorCommandWithId,
    ask_bind, ask_bind]
  simp only [h.size, h.initiator, h.destination]
  by_cases hto : (!s.world.isHandled c.destination) = true ∧ c.destination ≠ 15
  · rw [if_pos hto, if_pos hto]
  rw [if_neg hto, if_neg hto]
  have h := h.guarded (isFor_of_not hto)
  have hdiffers := h.left.differs_iff
  by_cases hother : c.parameter 0 ≠ 0x00 ∨ c.parameter 1 ≠ 0x80 ∨ c.parameter 2 ≠ 0x45
  · rw [if_pos (hdiffers.mpr hother), if_pos hother]
  rw [if_neg (hdiffers.not.mpr hother), if_neg hother]
  simp only [ne_eq, not_or, not_not] at hother
  have hbase := sameButRequeued_withId (s := s) (h.left.withId hother)
  by_cases hfrom : c.initiator = 0
  swap
  · simp only [hfrom, false_and, if_false]
    exact hbase
  have h := h.right.guarded (by simp [hother, hfrom])
  rw [h.head]
  by_cases hon : c.parameter 3 = 0x06 ∧ 5 ≤ c.size
  · rw [(h.tail.left.guarded (decide_eq_true hon)).head]
    simp only [hon, show (0x06 : UInt8) ≠ 0x20 by decide, and_false, if_false]
    split
    · rfl
    · exact hbase
  · have hnot : ∀ q : Prop, ¬(c.initiator = 0 ∧ c.parameter 3 = 0x06 ∧ 5 ≤ c.size ∧ q) :=
      fun q hq => hon ⟨hq.2.1, hq.2.2.1⟩
    rw [if_neg (hnot _), if_neg (hnot _)]
    by_cases hpower : c.destination = 15 ∧ c.parameter 3 = 0x20
    · rw [vlPowerChange_eq react h.initiator (h.tail.right.guarded (decide_eq_true hpower)).head]
      split
      · rfl
      · exact hbase
    · simp only [hpower, and_false, if_false]
      exact hbase

theorem sameButRequeued_an {s : Session} (h : SameWhereRead (anWithIdReads c) c c') :
    SameButRequeued (anHandleDeviceVendorCommandWithId react c')
      (anHandleDeviceVendorCommandWithId react c) s := by
  have hbase := sameButRequeued_withId (s := s) h.right
  have hsame : c'.size < 4 ∨ c'.parameter 0 ≠ 0x00 ∨ c'.parameter 1 ≠ 0x00 ∨ c'.parameter 2 ≠ 0xF0 ∨
        c'.parameter 3 ≠ 0x23 ↔
      c.size < 4 ∨ c.parameter 0 ≠ 0x00 ∨ c.parameter 1 ≠ 0x00 ∨ c.parameter 2 ≠ 0xF0 ∨
        c.parameter 3 ≠ 0x23 := by
    rw [h.size]
    refine or_congr_right' fun hsize => ?_
    have heq : (c'.parameter 0 = 0x00 ∧ c'.parameter 1 = 0x00 ∧ c'.parameter 2 = 0xF0 ∧
          c'.parameter 3 = 0x23) ↔
        (c.parameter 0 = 0x00 ∧ c.parameter 1 = 0x00 ∧ c.parameter 2 = 0xF0 ∧
          c.parameter 3 = 0x23) :=
      (h.left.guarded (decide_eq_true (Nat.not_lt.mp hsize))).equals_iff
    simpa only [not_and_or] using not_congr heq
  simp only [anHandleDeviceVendorCommandWithId, h.initiator, h.destination, callWhen, callOr]
  by_cases hother : c.size < 4 ∨ c.parameter 0 ≠ 0x00 ∨ c.parameter 1 ≠ 0x00 ∨
      c.parameter 2 ≠ 0xF0 ∨ c.parameter 3 ≠ 0x23
  · rw [if_pos (hsame.mpr hother), if_pos hother]
    exact hbase
  · rw [if_neg (hsame.not.mpr hother), if_neg hother]
    exact sameButRequeued_of_eq rfl

theorem rlKey_eq (h : SameWhereRead
    (3 :: readsWhen (c.parameter 3 = 0x44 ∧ c.size = 5) [4]) c c') : rlKey c' = rlKey c := by
  simp only [rlKey, h.size, h.head]
  by_cases hpressed : c.parameter 3 = 0x44 ∧ c.size = 5
  · rw [(h.tail.guarded (decide_eq_true hpressed)).head]
  · simp only [← Bool.decide_and, hpressed, decide_false, Bool.false_and]

theorem sameButRequeued_rl {s : Session} (h : SameWhereRead (rlWithIdReads s.world c) c c') :
    SameButRequeued (rlHandleDeviceVendorCommandWithId c') (rlHandleDeviceVendorCommandWithId c) s := by
  rw [SameButRequeued, rlHandleDeviceVendorCommandWithId, rlHandleDeviceVendorCommandWithId,
    ask_bind, ask_bind]
  simp only [h.size, h.destination]
  by_cases hto : (!s.world.isHandled c.destination) = true ∧ c.destination ≠ 15
  · rw [if_pos hto, if_pos hto]
  rw [if_neg hto, if_neg hto]
  by_cases hsize : c.size < 4
  · rw [if_pos hsize, if_pos hsize]
  rw [if_neg hsize, if_neg hsize]
  have h := h.guarded (by rw [isFor_of_not hto, decide_eq_true (Nat.not_lt.mp hsize), Bool.true_and])
  have hdiffers := h.left.differs_iff
  by_cases hother : c.parameter 0 ≠ 0x00 ∨ c.parameter 1 ≠ 0x00 ∨ c.parameter 2 ≠ 0x39
  · rw [if_pos (hdiffers.mpr hother), if_pos hother]
  rw [if_neg (hdiffers.not.mpr hother), if_neg hother]
  simp only [ne_eq, not_or, not_not] at hother
  have h := h.right.guarded (decide_eq_true hother)
  have hbase := sameButRequeued_withId (s := s) h.right
  by_cases hclient : (s.world.clients c.destination).isSome = true
  · rw [rlKey_eq (h.left.guarded hclient)]
    split
    · rfl
    · exact hbase
  · simp only [hclient, Bool.false_eq_true, false_and, if_false]
    exact hbase

/-! ### Functions that read nothing -/

/-- The answers look at the addresses only. -/
theorem reply_eq {l : List ℕ} (h : SameWhereRead l c c') (otherwise : AbortReason) (ofType : Bool)
    (x : Proc Unit) : reply c' otherwise ofType x = reply c otherwise ofType x := by
  simp only [reply, h.responds]

theorem vlHandleGivePhysicalAddress_eq {l : List ℕ} (h : SameWhereRead l c c') :
    vlHandleGivePhysicalAddress c' = vlHandleGivePhysicalAddress c := by
  simp only [vlHandleGivePhysicalAddress, handleGivePhysicalAddress, reply_eq h, callWhen, callOr,
    h.initiator, h.destination]

theorem handleGiveDeviceVendorId_eq {l : List ℕ} (h : SameWhereRead l c c') :
    handleGiveDeviceVendorId c' = handleGiveDeviceVendorId c := by
  simp only [handleGiveDeviceVendorId, h.responds, h.initiator, h.destination]

theorem vlHandleGiveDeviceVendorId_eq {l : List ℕ} (h : SameWhereRead l c c') :
    vlHandleGiveDeviceVendorId c' = vlHandleGiveDeviceVendorId c := by
  simp only [vlHandleGiveDeviceVendorId, handleGiveDeviceVendorId_eq h, callWhen, callOr,
    h.initiator, h.destination]

theorem slHandleGiveDevicePowerStatus_eq {l : List ℕ} (h : SameWhereRead l c c') :
    slHandleGiveDevicePowerStatus react c' = slHandleGiveDevicePowerStatus react c := by
  simp only [slHandleGiveDevicePowerStatus, slReportActive, h.responds, h.initiator, h.destination]

theorem anHandleGiveDevicePowerStatus_eq {l : List ℕ} (h : SameWhereRead l c c') :
    anHandleGiveDevicePowerStatus react c' = anHandleGiveDevicePowerStatus react c := by
  simp only [anHandleGiveDevicePowerStatus, handleGiveDevicePowerStatus, reply_eq h, h.responds,
    h.initiator, h.destination]

theorem syHandleGiveDevicePowerStatus_eq {l : List ℕ} (h : SameWhereRead l c c') :
    syHandleGiveDevicePowerStatus c' = syHandleGiveDevicePowerStatus c := by
  simp only [syHandleGiveDevicePowerStatus, handleGiveDevicePowerStatus, reply_eq h, h.responds,
    h.initiator, h.destination]

theorem handleGiveDevicePowerStatus_eq {l : List ℕ} (h : SameWhereRead l c c') :
    handleGiveDevicePowerStatus c' = handleGiveDevicePowerStatus c := by
  simp only [handleGiveDevicePowerStatus, reply_eq h, h.initiator, h.destination]

theorem handleUserControlRelease_eq {l : List ℕ} (h : SameWhereRead l c c') :
    handleUserControlRelease c' = handleUserControlRelease c := by
  simp only [handleUserControlRelease, h.responds]

/-- A report of an audio system looks at the size only. -/
theorem report_eq {l : List ℕ} (h : SameWhereRead l c c') :
    report (c'.size = 1 ∧ isAudioSystem c'.initiator) =
      report (c.size = 1 ∧ isAudioSystem c.initiator) := by
  simp only [h.size, h.initiator]

theorem slHandleRequestActiveSource_eq {l : List ℕ} (h : SameWhereRead l c c') :
    slHandleRequestActiveSource react c' = slHandleRequestActiveSource react c := by
  simp only [slHandleRequestActiveSource, handleRequestActiveSource, callWhen, callOr, h.initiator]

theorem handleRequestActiveSource_eq {l : List ℕ} (h : SameWhereRead l c c') :
    handleRequestActiveSource react c' = handleRequestActiveSource react c := by
  simp only [handleRequestActiveSource, callWhen, callOr, h.initiator]

/-! ### Dispatch -/

variable {h : Handler}

theorem handlerGiveDeckStatus_eq
    (hs : SameWhereRead (readsWhen (h = .sl) (slDeckStatusReads w c)) c c') :
    (if h = .sl then slHandleGiveDeckStatus react c' else handleGiveDeckStatus c') w =
      (if h = .sl then slHandleGiveDeckStatus react c else handleGiveDeckStatus c) w := by
  split
  · next hsl => exact slHandleGiveDeckStatus_eq react (hs.guarded (decide_eq_true hsl))
  · simp only [handleGiveDeckStatus, reply_eq hs, hs.initiator, hs.destination]

theorem handlerUserControlPressed_eq (hs : SameWhereRead (readsWhen (h = .ph) [0] ++
      readsWhen (w.responds c && c.size ≠ 0) [0]) c c') :
    (if h = .ph then phHandleUserControlPressed react c' else handleUserControlPressed react c') w =
      (if h = .ph then phHandleUserControlPressed react c else handleUserControlPressed react c) w := by
  split
  · next hph =>
    exact congrFun (phHandleUserControlPressed_eq react (hs.left.guarded (decide_eq_true hph))) _
  · exact handleUserControlPressed_eq react hs.right

theorem handlerRoutingChange_eq (hs : SameWhereRead (readsWhen (h = .ph && c.size = 4) [0, 1, 2, 3] ++
      readsWhen (c.size = 4) [2, 3]) c c') :
    (if h = .ph then phHandleRoutingChange react c' else handleRoutingChange react c') =
      if h = .ph then phHandleRoutingChange react c else handleRoutingChange react c := by
  split
  · next hph =>
    refine phHandleRoutingChange_eq react ?_
    rwa [show (decide (h = Handler.ph) && decide (c.size = 4)) = decide (c.size = 4) by
      rw [decide_eq_true hph, Bool.true_and]] at hs
  · exact handleRoutingChange_eq react hs.right

theorem handlerActiveSource_eq {s : Session} (hs : SameWhereRead
      (readsWhen (!(h = .sl && s.world.suppresses c) && c.size = 2) [0, 1]) c c') :
    (if h = .sl then slHandleActiveSource react c' else handleActiveSource react c') s =
      (if h = .sl then slHandleActiveSource react c else handleActiveSource react c) s := by
  split
  · next hsl =>
    refine slHandleActiveSource_eq react ?_
    rwa [show (!(decide (h = Handler.sl) && s.world.suppresses c) && decide (c.size = 2)) =
      (!s.world.suppresses c && decide (c.size = 2)) by rw [decide_eq_true hsl, Bool.true_and]] at hs
  · next hsl =>
    refine congrFun (handleActiveSource_eq react ?_) _
    rwa [show (!(decide (h = Handler.sl) && s.world.suppresses c) && decide (c.size = 2)) =
      decide (c.size = 2) by
        rw [decide_eq_false hsl, Bool.false_and, Bool.not_false, Bool.true_and]] at hs

/-- Operands that are not read make no difference to what a handler does. -/
theorem sameButRequeued_handlerFor (hreact : ReactionsKeep (BusFrame ∅) react)
    {s : Session} (hsame : SameWhereRead (operandReads h s.world c) c c') :
    SameButRequeued (handlerFor react h c') (handlerFor react h c) s := by
  have heq : ∀ {x y : Proc Handling}, x s.world = y s.world →
      SameButRequeued (onWorld x) (onWorld y) s := fun hxy =>
    sameButRequeued_of_eq (by rw [onWorld, onWorld, zoom, zoom, hxy])
  unfold handlerFor
  rw [hsame.opcode]
  unfold operandReads at hsame
  generalize c.opcode = opcode at hsame ⊢
  split
  · exact heq (congrFun (handleReportPowerStatus_eq react hsame) _)
  · exact heq (by rw [handleDeviceCecVersion, handleDeviceCecVersion, hsame.size])
  · refine sameButRequeued_of_eq ?_
    simp only [anHandleSetMenuLanguage, handleSetMenuLanguage_eq hsame, callWhen, callOr,
      hsame.initiator, hsame.destination]
  · exact heq (by simp only [vlHandleGivePhysicalAddress_eq hsame, handleGivePhysicalAddress,
      reply_eq hsame, hsame.destination])
  · exact sameButRequeued_of_eq (by simp only [handleGiveMenuLanguage, hsame.responds,
      hsame.initiator, hsame.destination])
  · exact heq (by simp only [handleGiveOSDName, reply_eq hsame, hsame.initiator, hsame.destination])
  · exact sameButRequeued_of_eq (by simp only [vlHandleGiveDeviceVendorId_eq hsame,
      handleGiveDeviceVendorId_eq hsame])
  · exact heq (by simp only [phHandleDeviceVendorId, handleDeviceVendorId_eq hsame, hsame.initiator])
  · cases h with
    | vl => exact sameButRequeued_vl react hsame
    | an => exact sameButRequeued_an react hsame
    | rl => exact sameButRequeued_rl hsame
    | rh => exact sameButRequeued_of_eq rfl
    | sy => exact sameButRequeued_withId hsame.right
    | _ => exact sameButRequeued_withId hsame
  · exact heq (handlerGiveDeckStatus_eq react hsame)
  · exact heq (by simp only [handleDeckControl, hsame.size, hsame.destination])
  · exact heq (by simp only [handleMenuRequest, reply_eq hsame, hsame.initiator, hsame.destination])
  · cases h with
    | sl => exact heq (congrFun (slHandleGiveDevicePowerStatus_eq react hsame) _)
    | an => exact heq (congrFun (anHandleGiveDevicePowerStatus_eq react hsame) _)
    | sy => exact heq (congrFun (syHandleGiveDevicePowerStatus_eq hsame) _)
    | _ => exact heq (congrFun (handleGiveDevicePowerStatus_eq hsame) _)
  · exact heq (by simp only [handleGetCecVersion, reply_eq hsame, hsame.initiator,
      hsame.destination])
  · exact heq (handlerUserControlPressed_eq react hsame)
  · exact heq (by rw [handleUserControlRelease_eq hsame])
  · exact heq (by simp only [handleGiveAudioStatus, reply_eq hsame, hsame.initiator,
      hsame.destination])
  · exact heq (by simp only [handleGiveSystemAudioModeStatus, reply_eq hsame, hsame.initiator,
      hsame.destination])
  · refine heq ?_
    split
    · exact vlHandleSystemAudioModeRequest_eq react hreact hsame
    · exact handleSystemAudioModeRequest_eq react hsame
  · exact heq (congrFun (report_eq hsame) _)
  · exact heq (congrFun (report_eq hsame) _)
  · exact heq (congrFun (report_eq hsame) _)
  · exact heq (by rw [slHandleRequestActiveSource_eq react hsame,
      handleRequestActiveSource_eq react hsame])
  · cases h with
    | sl => exact heq (slHandleSetStreamPath_eq react hsame)
    | ph => exact heq (phHandleSetStreamPath_eq react hreact hsame)
    | _ => exact heq (handleSetStreamPath_eq react hsame)
  · exact heq (congrFun (handlerRoutingChange_eq react hsame) _)
  · exact heq (congrFun (handleRoutingInformation_eq react hsame) _)
  · exact heq (by simp only [slHandleStandby, handleStandby, hsame.initiator])
  · exact sameButRequeued_of_eq (handlerActiveSource_eq react hsame)
  · exact heq (congrFun (handleReportPhysicalAddress_eq react hsame) _)
  · exact heq (by simp only [handleSetOSDName, hsame.size])
  · exact heq (by simp only [handleImageViewOn, callWhen, callOr, hsame.destination])
  · exact heq (by simp only [handleTextViewOn, hsame.initiator])
  · refine sameButRequeued_of_eq ?_
    simp only [slHandleFeatureAbort, handleFeatureAbort_eq hsame, hsame.size, hsame.initiator,
      hsame.destination]
  · refine heq ?_
    split
    · exact slHandleVendorCommand_eq react hsame
    · exact congrFun (vlHandleVendorCommand_eq react hsame) _
    · rfl
  · exact heq (by simp only [anHandleVendorRemoteButtonDown, handleVendorRemoteButtonDown, hsame.size,
      hsame.destination])
  · exact heq (by rw [handleVendorRemoteButtonUp, handleVendorRemoteButtonUp,
      handleUserControlRelease_eq hsame])
  · exact sameButRequeued_of_eq rfl
  · exact sameButRequeued_of_eq rfl

end functions

/-! ### What follows a command that lacks nothing -/

/-- A command that is not read on: whatever operands follow it, as many of them, make no
    difference. -/
theorem sameButRequeued_of_not_readsOn {react : Reaction → Proc Unit}
    (hreact : ReactionsKeep (BusFrame ∅) react) {h : Handler} {s : Session} {c c₁ c₂ : Received}
    (hread : ¬c.ReadsOn h s.world) (h₁ : c₁.Continues c) (h₂ : c₂.Continues c)
    (hsize : c₂.size = c₁.size) :
    SameButRequeued (handlerFor react h c₂) (handlerFor react h c₁) s := by
  refine sameButRequeued_handlerFor react hreact
    ⟨h₂.initiator.trans h₁.initiator.symm, h₂.destination.trans h₁.destination.symm,
      h₂.opcode.trans h₁.opcode.symm, hsize, fun i hi => ?_⟩
  have hi : i < c.size := by
    by_contra hlong
    exact hread ⟨c₁, h₁, i, hi, Nat.not_lt.mp hlong⟩
  rw [h₁.parameter hi, h₂.parameter hi]

end CEC
