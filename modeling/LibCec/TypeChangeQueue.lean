import LibCec.Bus
import LibCec.Schemes.GrowingVector
import LibCec.Schemes.Schedule

/-! The device type changes that are queued until the processor replaces its handlers.

    `ReplaceHandlers` goes through `m_deviceTypeChanges` with an iterator. Applying a change
    registers a client again, at the end of which the handler of the TV is initialised; that may
    queue another change (`CVLCommandHandler::InitHandler`), and the mutex is recursive:

        ReplaceHandlers ──▶ *it ──▶ CCECClient::ChangeDeviceType ──▶ RegisterClient
              ▲                                                          │
              └─ ++it ◀── m_deviceTypeChanges ◀── ChangeDeviceType ◀── InitHandler

    `end()` is asked for each time, so that a change which is queued then is applied in the same
    pass, unless the vector had to grow for it. -/

namespace CEC
open Schemes

/-- `device_type_change_t`. -/
structure DeviceTypeChange where
  client : ClientId
  fromType : DeviceType
  toType : DeviceType
  deriving DecidableEq

/-- Where `ReplaceHandlers` is: not called, replacing the handlers of the devices, about to test the
    iterator, in the call for `*it`, or past the use of an iterator that was not kept. -/
inductive Pass where
  | idle
  | replacing
  | testing (it : GrowingVector.Iterator)
  | applying (it : GrowingVector.Iterator)
  | invalidated
  deriving DecidableEq

/-- A change may be queued by the thread that is there, or by any thread. -/
def Pass.canQueue : Pass → Bool
  | .idle | .replacing | .applying _ => true
  | .testing _ | .invalidated => false

/-- A change is being applied. -/
def Pass.isApplying : Pass → Bool
  | .applying _ => true
  | _ => false

/-- `m_deviceTypeChanges`, and a record of the changes that were queued and of those that
    `CCECClient::ChangeDeviceType` was called for, in the order of the calls. -/
structure TypeChangeQueue where
  initialised : Bool
  changes : GrowingVector DeviceTypeChange
  pass : Pass
  queued : List DeviceTypeChange
  applied : List DeviceTypeChange

namespace TypeChangeQueue

/-- Nothing was queued yet. -/
def initial : TypeChangeQueue := ⟨false, .empty, .idle, [], []⟩

inductive Action where
  | setCECInitialised (bSetTo : Bool)
  | changeDeviceType (change : DeviceTypeChange)
  | replaceHandlers
  | handlersReplaced
  | test
  | clientChanged
  deriving DecidableEq

/-- The thread that gets to `ChangeDeviceType` has the mutex: nobody is in `ReplaceHandlers`, or it
    was called from there. -/
def HasMutex (s : TypeChangeQueue) : Prop := s.pass.canQueue

instance (s : TypeChangeQueue) : Decidable s.HasMutex := inferInstanceAs (Decidable (_ = true))

/-- `CCECProcessor::ChangeDeviceType`. -/
def changeDeviceType (grow : ℕ → ℕ) (s : TypeChangeQueue) (change : DeviceTypeChange) :
    TypeChangeQueue :=
  if s.initialised then
    { s with changes := s.changes.pushBack grow change, queued := s.queued ++ [change] }
  else s

/-- `it != m_deviceTypeChanges.end()`: the call for `*it`, or the end of the loop. -/
def test (s : TypeChangeQueue) (it : GrowingVector.Iterator) : TypeChangeQueue :=
  if s.changes.Kept it then
    match s.changes.toList[it.index]? with
    | some change => { s with pass := .applying it, applied := s.applied ++ [change] }
    | none => { s with pass := .idle, changes := s.changes.clear }
  else { s with pass := .invalidated }

/-- `++it`. -/
def moveOn (s : TypeChangeQueue) (it : GrowingVector.Iterator) : TypeChangeQueue :=
  { s with pass := if s.changes.Kept it then .testing it.next else .invalidated }

/-- One step of the processor, or of whoever queues a change. -/
def step (grow : ℕ → ℕ) (s : TypeChangeQueue) : Action → Option TypeChangeQueue
  | .setCECInitialised bSetTo => some { s with initialised := bSetTo }
  | .changeDeviceType change => if s.HasMutex then some (s.changeDeviceType grow change) else none
  | .replaceHandlers =>
    if s.pass = .idle ∧ s.initialised then some { s with pass := .replacing } else none
  | .handlersReplaced =>
    if s.pass = .replacing then some { s with pass := .testing s.changes.first } else none
  | .test =>
    match s.pass with
    | .testing it => some (s.test it)
    | _ => none
  | .clientChanged =>
    match s.pass with
    | .applying it => some (s.moveOn it)
    | _ => none

/-- A change that is queued while another one is applied finds room in the vector. -/
def Roomy (s : TypeChangeQueue) : Action → Prop
  | .changeDeviceType _ => s.pass.isApplying → s.initialised → s.changes.HasRoom
  | _ => True

instance (s : TypeChangeQueue) : ∀ a, Decidable (s.Roomy a)
  | .changeDeviceType _ => inferInstanceAs (Decidable (_ → _))
  | .setCECInitialised _ | .replaceHandlers | .handlersReplaced | .test | .clientChanged =>
    isTrue trivial

/-- The changes that are still to be applied. -/
def waiting (s : TypeChangeQueue) : List DeviceTypeChange :=
  match s.pass with
  | .idle | .replacing | .invalidated => s.changes.toList
  | .testing it => s.changes.toList.drop it.index
  | .applying it => s.changes.toList.drop (it.index + 1)

/-- No invalid iterator was used, and the changes that were queued are those that were applied and
    behind these the ones that are to be applied, each of them once and in the order queued. -/
structure Orderly (s : TypeChangeQueue) : Prop where
  valid : s.pass ≠ .invalidated
  conserved : s.queued = s.applied ++ s.waiting

/-- The iterator of the pass is kept, and one that is applied is not at the end. -/
def InPlace (s : TypeChangeQueue) : Prop :=
  match s.pass with
  | .idle | .replacing => True
  | .testing it => s.changes.Kept it
  | .applying it => s.changes.Kept it ∧ it.index < s.changes.toList.length
  | .invalidated => False

/-! ### What a step preserves -/

structure Sound (s : TypeChangeQueue) : Prop where
  inPlace : s.InPlace
  conserved : s.queued = s.applied ++ s.waiting

section steps

variable {grow : ℕ → ℕ} {s u : TypeChangeQueue} {it : GrowingVector.Iterator}

theorem sound_initial : Sound initial := ⟨trivial, rfl⟩

theorem Sound.orderly (hs : s.Sound) : s.Orderly :=
  ⟨fun h => by simpa [InPlace, h] using hs.inPlace, hs.conserved⟩

theorem Sound.kept (hs : s.Sound) (hpass : s.pass = .applying it) :
    s.changes.Kept it ∧ it.index < s.changes.toList.length := by
  simpa [InPlace, hpass] using hs.inPlace

/-- A change that is queued is the last one that waits. -/
theorem waiting_pushBack (grow : ℕ → ℕ) (hmutex : s.HasMutex) (hs : s.Sound)
    (change : DeviceTypeChange) :
    waiting { s with changes := s.changes.pushBack grow change } = s.waiting ++ [change] := by
  cases hpass : s.pass with
  | idle | replacing => simp [waiting, hpass]
  | testing it | invalidated => simp [HasMutex, hpass, Pass.canQueue] at hmutex
  | applying it =>
    have hlt : it.index + 1 ≤ s.changes.toList.length := (hs.kept hpass).2
    simp [waiting, hpass, List.drop_append_of_le_length hlt]

theorem Sound.changeDeviceType (hs : s.Sound) (hmutex : s.HasMutex) {change : DeviceTypeChange}
    (hroomy : s.Roomy (.changeDeviceType change)) : (s.changeDeviceType grow change).Sound := by
  unfold TypeChangeQueue.changeDeviceType
  split
  · next hinit =>
    have hwaiting := waiting_pushBack grow hmutex hs change
    refine ⟨?_, ?_⟩
    · cases hpass : s.pass with
      | idle | replacing => simp [InPlace]
      | testing it | invalidated => simp [HasMutex, hpass, Pass.canQueue] at hmutex
      | applying it =>
        obtain ⟨hkept, hlt⟩ := hs.kept hpass
        have hkept' : (s.changes.pushBack grow change).Kept it :=
          (GrowingVector.kept_pushBack_iff hkept).mpr (hroomy (by rw [hpass]; rfl) hinit)
        simpa [InPlace, hpass] using And.intro hkept' (Nat.lt_succ_of_lt hlt)
    · calc s.queued ++ [change] = s.applied ++ (s.waiting ++ [change]) := by
            rw [hs.conserved, List.append_assoc]
        _ = _ := by rw [← hwaiting]; rfl
  · exact hs

/-- The call for `*it` takes the first change that waits; at the end none does. -/
theorem Sound.test (hs : s.Sound) (hpass : s.pass = .testing it) : (s.test it).Sound := by
  have hkept : s.changes.Kept it := by simpa [InPlace, hpass] using hs.inPlace
  have hconserved := hs.conserved
  simp only [waiting, hpass] at hconserved
  unfold TypeChangeQueue.test
  rw [if_pos hkept]
  split
  · next change hget =>
    obtain ⟨hlt, rfl⟩ := List.getElem?_eq_some_iff.mp hget
    refine ⟨⟨hkept, hlt⟩, ?_⟩
    rw [hconserved, List.drop_eq_getElem_cons hlt]
    exact List.append_cons ..
  · next hnone =>
    refine ⟨trivial, ?_⟩
    rw [hconserved, List.drop_eq_nil_of_le (List.getElem?_eq_none_iff.mp hnone)]
    rfl

theorem Sound.moveOn (hs : s.Sound) (hpass : s.pass = .applying it) : (s.moveOn it).Sound := by
  obtain ⟨hkept, hlt⟩ := hs.kept hpass
  have hconserved := hs.conserved
  simp only [waiting, hpass] at hconserved
  rw [TypeChangeQueue.moveOn, if_pos hkept]
  exact ⟨hkept.next hlt, hconserved⟩

theorem Sound.step {a : Action} (hs : s.Sound) (hroomy : s.Roomy a) (h : s.step grow a = some u) :
    u.Sound := by
  cases a with
  | setCECInitialised bSetTo =>
    obtain rfl := Option.some.inj h
    exact ⟨hs.inPlace, hs.conserved⟩
  | changeDeviceType change =>
    obtain ⟨hmutex, rfl⟩ := enabled_iff.mp h
    exact hs.changeDeviceType hmutex hroomy
  | replaceHandlers =>
    obtain ⟨⟨hpass, -⟩, rfl⟩ := enabled_iff.mp h
    have hconserved := hs.conserved
    simp only [waiting, hpass] at hconserved
    exact ⟨trivial, hconserved⟩
  | handlersReplaced =>
    obtain ⟨hpass, rfl⟩ := enabled_iff.mp h
    have hconserved := hs.conserved
    simp only [waiting, hpass] at hconserved
    exact ⟨GrowingVector.kept_first, hconserved⟩
  | test =>
    simp only [TypeChangeQueue.step] at h
    split at h
    · next it hpass =>
      obtain rfl := Option.some.inj h
      exact hs.test hpass
    · cases h
  | clientChanged =>
    simp only [TypeChangeQueue.step] at h
    split at h
    · next it hpass =>
      obtain rfl := Option.some.inj h
      exact hs.moveOn hpass
    · cases h

/-- The changes are cleared when each of them has been applied. -/
theorem Sound.cleared (hu : u.Sound) (h : s.step grow .test = some u) (hpass : u.pass = .idle) :
    u.applied = u.queued := by
  have hconserved := hu.conserved
  simp only [waiting, hpass] at hconserved
  simp only [TypeChangeQueue.step] at h
  split at h
  · next it _ =>
    obtain rfl := Option.some.inj h
    have hempty : (s.test it).changes.toList = [] := by
      unfold TypeChangeQueue.test at hpass ⊢
      split at hpass
      · next hkept =>
        rw [if_pos hkept]
        split at hpass
        · cases hpass
        · next hnone => simp
      · cases hpass
    rw [hconserved, hempty, List.append_nil]
  · cases h

/-- The iterator is moved on after the vector was. -/
theorem Sound.invalidated (hs : s.Sound) {a : Action} (h : s.step grow a = some u)
    (hnot : ¬s.Roomy a) : ∃ v, Schedule (TypeChangeQueue.step grow) u v ∧ ¬v.Orderly := by
  cases a with
  | changeDeviceType change =>
    obtain ⟨-, rfl⟩ := enabled_iff.mp h
    have hfull : s.pass.isApplying ∧ s.initialised ∧ ¬s.changes.HasRoom := by
      simpa [Roomy] using hnot
    obtain ⟨happlying, hinit, hfull⟩ := hfull
    obtain ⟨it, hpass⟩ : ∃ it, s.pass = .applying it := by
      cases hpass : s.pass with
      | applying it => exact ⟨it, rfl⟩
      | _ => simp [hpass, Pass.isApplying] at happlying
    have hlost : ¬(s.changes.pushBack grow change).Kept it := fun hkept =>
      hfull ((GrowingVector.kept_pushBack_iff (hs.kept hpass).1).mp hkept)
    have hchanged : s.changeDeviceType grow change =
        { s with changes := s.changes.pushBack grow change, queued := s.queued ++ [change] } :=
      if_pos hinit
    refine ⟨(s.changeDeviceType grow change).moveOn it, .tail .clientChanged (.refl _) trivial ?_, ?_⟩
    · simp [TypeChangeQueue.step, hchanged, hpass]
    · intro horderly
      exact horderly.valid (by rw [hchanged, TypeChangeQueue.moveOn, if_neg hlost])
  | _ => exact absurd trivial hnot

end steps

/-! ### Runs -/

/-- As long as a change that is queued while another one is applied finds room in the vector, no
    invalid iterator is used, and each change that was queued is applied once, in the order queued,
    before the changes are cleared; any other step leads to a state of which this is not true. -/
theorem typeChanges_applied {grow : ℕ → ℕ} {s : TypeChangeQueue}
    (h : Reaches (step grow) Roomy initial s) :
    s.Orderly ∧
      (∀ u, s.step grow .test = some u → u.pass = .idle → u.applied = u.queued) ∧
      ∀ a u, s.step grow a = some u → ¬s.Roomy a →
        ∃ v, Schedule (step grow) u v ∧ ¬v.Orderly := by
  have hs : s.Sound := h.invariant (fun hs ha hstep => hs.step ha hstep) sound_initial
  exact ⟨hs.orderly, fun u hu hidle => (hs.step (a := .test) trivial hu).cleared hu hidle,
    fun a u hu hnot => hs.invalidated hu hnot⟩

/-- The change of a client that records into one that plays. -/
def recorderToPlayer (c : ClientId) : DeviceTypeChange := ⟨c, .recordingDevice, .playbackDevice⟩

/-- A change of client 1 is queued while the first one of client 0 is applied. -/
def nested (queued : ℕ) : List Action :=
  .setCECInitialised true :: List.replicate queued (.changeDeviceType (recorderToPlayer 0)) ++
    [.replaceHandlers, .handlersReplaced, .test, .changeDeviceType (recorderToPlayer 1),
      .clientChanged]

/-- Room for three is room for four when it is doubled. -/
theorem typeChanges_applied_nested :
    ∃ s, Reaches (step (2 * ·)) Roomy initial s ∧ s.queued.length = 4 ∧ s.Orderly := by
  have hperform : (perform (step (2 * ·)) initial (nested 3)).any (·.queued.length = 4) := by decide
  obtain ⟨s, hs, hfour⟩ := (Option.any_eq_true _ _).mp hperform
  have hmeets : Meets (step (2 * ·)) Roomy initial (nested 3) := by decide
  have hreaches := reaches_of_perform hmeets hs
  exact ⟨s, hreaches, by simpa using hfour, (typeChanges_applied hreaches).1⟩

/-- Two changes fill the vector, so that the third one moves it. -/
theorem typeChange_invalidates : ¬∀ s, Schedule (step (2 * ·)) initial s → s.Orderly := by
  intro hall
  have hperform : (perform (step (2 * ·)) initial (nested 2)).any (·.pass = .invalidated) := by decide
  obtain ⟨s, hs, hinvalidated⟩ := (Option.any_eq_true _ _).mp hperform
  exact (hall s (schedule_of_perform hs)).valid (by simpa using hinvalidated)

end TypeChangeQueue

end CEC
