import LibCec.Requests
import LibCec.Schemes.ManualHeap
import LibCec.Schemes.Schedule

/-! Who uses a `CResponse`, and who deletes it.

    The threads that wait for a response and the one that signals it find it in the map of the
    device, and use it after they have let go of the map:

        Wait       found ─▶ waiting ─▶ away
        Received   signaling ────────▶ away
        Clear      for each response: Broadcast ─▶ delete;  then the map is emptied

    `Clear` holds the map while it runs, but not the threads that have found a response already. -/

namespace CEC
open Schemes

namespace CWaitForResponse

/-- Where a thread is with a response of the device. -/
inductive Stage where
  | away
  | found (r : ℕ)
  | waiting (r : ℕ)
  | signaling (r : ℕ)
  deriving DecidableEq

/-- The response that the thread is going to use. -/
def Stage.holds : Stage → Option ℕ
  | .away => none
  | .found r | .waiting r | .signaling r => some r

/-- The thread is in `Wait`. -/
def Stage.inWait : Stage → Bool
  | .found _ | .waiting _ => true
  | _ => false

/-- Where `Clear` is: the responses that are left, of which the first one may be signalled. -/
inductive Clearing where
  | off
  | broadcasting (rest : List ℕ)
  | deleting (r : ℕ) (rest : List ℕ)
  deriving DecidableEq

end CWaitForResponse

open CWaitForResponse in
/-- A `CWaitForResponse` and the threads that call it. -/
structure CWaitForResponse where
  waitingFor : List (UInt8 × ℕ)
  responses : ManualHeap CEvent
  clearing : Clearing
  threads : ℕ → Stage
  /-- The threads that were in `Wait` when `Clear` was called last, and still are. -/
  unreleased : ℕ → Bool

namespace CWaitForResponse

def initial : CWaitForResponse := ⟨[], .empty, .off, fun _ => .away, fun _ => false⟩

def moveTo (s : CWaitForResponse) (t : ℕ) (stage : Stage) : CWaitForResponse :=
  { s with threads := Function.update s.threads t stage }

theorem moveTo_threads (s : CWaitForResponse) (t u : ℕ) (stage : Stage) :
    (s.moveTo t stage).threads u = if u = t then stage else s.threads u := by
  simp [moveTo, Function.update_apply]

/-- The thread uses the response. -/
def use (s : CWaitForResponse) (r : ℕ) (f : CEvent → CEvent) : CWaitForResponse :=
  { s with responses := s.responses.use r f }

/-- What `m_bSignaled` of the response is. -/
def isSignaled (s : CWaitForResponse) (r : ℕ) : Bool := (s.responses.cell r).any CEvent.signaled

/-- `GetEvent`: the response to the opcode, which is created when there is none. -/
def getEvent (s : CWaitForResponse) (opcode : UInt8) : ℕ × CWaitForResponse :=
  match s.waitingFor.lookup opcode with
  | some r => (r, s)
  | none => (s.responses.next, { s with
      responses := s.responses.create .initial
      waitingFor := (opcode, s.responses.next) :: s.waitingFor })

/-- The end of `CEvent::Wait`. -/
def leave (s : CWaitForResponse) (t r : ℕ) : CWaitForResponse :=
  { (s.use r CEvent.leave).moveTo t .away with unreleased := Function.update s.unreleased t false }

/-- The beginning of `CEvent::Wait`, which ends at once when the event is signalled. -/
def enter (s : CWaitForResponse) (t r : ℕ) : CWaitForResponse :=
  if s.isSignaled r then (s.use r CEvent.enter).leave t r
  else (s.use r CEvent.enter).moveTo t (.waiting r)

/-- The responses that `Clear` visits; in which order makes no difference. -/
def ids (s : CWaitForResponse) : List ℕ := s.waitingFor.map Prod.snd

/-- One step of `Clear`: a response is signalled, or deleted (its destructor signals it once more),
    or the map is emptied. -/
def clearStep (s : CWaitForResponse) : Option CWaitForResponse :=
  match s.clearing with
  | .off => none
  | .broadcasting [] => some { s with waitingFor := [], clearing := .off }
  | .broadcasting (r :: rest) =>
    some { s.use r CEvent.broadcast with clearing := .deleting r rest }
  | .deleting r rest =>
    some { s with
      responses := (s.responses.use r CEvent.broadcast).delete r
      clearing := .broadcasting rest }

/-- What a thread does next. -/
inductive Action where
  /-- `Wait` looks for the response. -/
  | wait (t : ℕ) (opcode : UInt8)
  | enter (t : ℕ)
  /-- The event is signalled, or the wait times out. -/
  | leave (t : ℕ)
  /-- `Received` looks for the response. -/
  | received (t : ℕ) (opcode : UInt8)
  | broadcast (t : ℕ)
  | clear
  | clearStep
  deriving DecidableEq

/-- A thread finds a response, unless `Clear` holds the map. -/
def find (s : CWaitForResponse) (t : ℕ) (opcode : UInt8) (stage : ℕ → Stage) :
    Option CWaitForResponse :=
  if s.clearing = .off ∧ s.threads t = .away then
    some ((s.getEvent opcode).2.moveTo t (stage (s.getEvent opcode).1))
  else none

def step (s : CWaitForResponse) : Action → Option CWaitForResponse
  | .wait t opcode => s.find t opcode .found
  | .enter t =>
    match s.threads t with
    | .found r => some (s.enter t r)
    | _ => none
  | .leave t =>
    match s.threads t with
    | .waiting r => some (s.leave t r)
    | _ => none
  | .received t opcode => s.find t opcode .signaling
  | .broadcast t =>
    match s.threads t with
    | .signaling r => some ((s.use r CEvent.broadcast).moveTo t .away)
    | _ => none
  | .clear =>
    if s.clearing = .off then
      some { s with
        clearing := .broadcasting s.ids
        unreleased := fun t => (s.threads t).inWait }
    else none
  | .clearStep => s.clearStep

/-- No thread holds the response that `Clear` is about to delete. -/
def Unheld (s : CWaitForResponse) (a : Action) : Prop :=
  a = .clearStep → ∀ r rest, s.clearing = .deleting r rest → ∀ t, (s.threads t).holds ≠ some r

/-- No response was used after it was deleted, and once `Clear` is over everybody who was waiting
    has been released. -/
def Outlives (s : CWaitForResponse) : Prop :=
  s.responses.fault = false ∧ (s.clearing = .off → ∀ t, s.unreleased t = false)

/-! ### The invariant -/

/-- The responses that `Clear` has not deleted. -/
def remaining (s : CWaitForResponse) : List ℕ :=
  match s.clearing with
  | .off => s.ids
  | .broadcasting rest => rest
  | .deleting r rest => r :: rest

theorem remaining_of_off {s : CWaitForResponse} (h : s.clearing = .off) : s.remaining = s.ids := by
  rw [remaining, h]

/-- What holds as long as no response is deleted that a thread holds. -/
structure Sound (s : CWaitForResponse) : Prop where
  unfaulted : s.responses.fault = false
  listed : ∀ r, s.responses.isLive r ↔ r ∈ s.remaining
  nodup : s.remaining.Nodup
  held : ∀ t r, (s.threads t).holds = some r → s.responses.isLive r
  unreleased : ∀ t, s.unreleased t → (s.threads t).inWait
  released : s.clearing = .off → ∀ t, s.unreleased t = false

theorem sound_initial : Sound initial where
  unfaulted := rfl
  listed r := by simp [initial, remaining, ids]
  nodup := List.nodup_nil
  held t r h := by cases h
  unreleased t h := by cases h
  released _ _ := rfl

namespace Sound

variable {s u : CWaitForResponse} {t r : ℕ}

theorem use (hs : Sound s) (hr : s.responses.isLive r) (f : CEvent → CEvent) : Sound (s.use r f) where
  unfaulted := (ManualHeap.fault_use hr f).trans hs.unfaulted
  listed i := by
    rw [CWaitForResponse.use, ManualHeap.isLive_use]
    exact hs.listed i
  nodup := hs.nodup
  held t i hi := by
    rw [CWaitForResponse.use, ManualHeap.isLive_use]
    exact hs.held t i hi
  unreleased := hs.unreleased
  released := hs.released

/-- A thread moves on to a response that is there; when it leaves `Wait` it is released. -/
theorem moveTo {stage : Stage} (hs : Sound s)
    (hheld : ∀ i, stage.holds = some i → s.responses.isLive i)
    (hwait : s.unreleased t → stage.inWait) : Sound (s.moveTo t stage) where
  unfaulted := hs.unfaulted
  listed := hs.listed
  nodup := hs.nodup
  held j i hi := by
    rw [moveTo_threads] at hi
    split at hi
    · exact hheld i hi
    · exact hs.held j i hi
  unreleased j hj := by
    rw [moveTo_threads]
    split
    · next h => exact hwait (h ▸ hj)
    · exact hs.unreleased j hj
  released := hs.released

/-- `GetEvent` finds a response that is there. -/
theorem getEvent (hs : Sound s) (hoff : s.clearing = .off) (opcode : UInt8) :
    Sound (s.getEvent opcode).2 ∧ (s.getEvent opcode).2.responses.isLive (s.getEvent opcode).1 ∧
      (s.getEvent opcode).2.unreleased = s.unreleased := by
  have hids := remaining_of_off hoff
  unfold CWaitForResponse.getEvent
  cases hfound : s.waitingFor.lookup opcode with
  | some r =>
    refine ⟨hs, (hs.listed r).mpr ?_, rfl⟩
    rw [hids]
    obtain ⟨l₁, l₂, hl, -⟩ := List.lookup_eq_some_iff.mp hfound
    simp [ids, hl]
  | none =>
    have hnew : s.responses.next ∉ s.ids := by
      rw [← hids, ← hs.listed]
      intro hlive
      exact absurd (ManualHeap.lt_next_of_isLive hlive) (Nat.lt_irrefl _)
    let w : CWaitForResponse := { s with
      responses := s.responses.create .initial
      waitingFor := (opcode, s.responses.next) :: s.waitingFor }
    have hrem : w.remaining = s.responses.next :: s.ids := remaining_of_off (s := w) hoff
    refine ⟨⟨hs.unfaulted, fun i => ?_, ?_, fun j i hi => ?_, hs.unreleased, hs.released⟩, ?_, rfl⟩
    · change (s.responses.create _).isLive i ↔ i ∈ w.remaining
      rw [hrem, List.mem_cons, ← hids, ← hs.listed i]
      simp [or_comm]
    · change w.remaining.Nodup
      rw [hrem]
      exact List.nodup_cons.mpr ⟨hnew, hids ▸ hs.nodup⟩
    · simp [hs.held j i hi]
    · simp

theorem find {opcode : UInt8} {stage : ℕ → Stage} (hs : Sound s)
    (hstage : ∀ r i, (stage r).holds = some i → i = r) (h : s.find t opcode stage = some u) :
    Sound u := by
  obtain ⟨⟨hoff, -⟩, rfl⟩ := enabled_iff.mp h
  obtain ⟨hsound, hlive, hsame⟩ := hs.getEvent hoff opcode
  refine hsound.moveTo (fun i hi => ?_) fun hun => ?_
  · rw [hstage _ i hi]
    exact hlive
  · rw [hsame, hs.released hoff t] at hun
    cases hun

theorem leave (hs : Sound s) (hr : s.responses.isLive r) : Sound (s.leave t r) where
  unfaulted := (hs.use hr _).unfaulted
  listed := (hs.use hr _).listed
  nodup := hs.nodup
  held j i hi := by
    have hj : ((s.use r CEvent.leave).moveTo t .away).threads j = _ := moveTo_threads ..
    rw [CWaitForResponse.leave, hj] at hi
    split at hi
    · cases hi
    · exact (hs.use hr _).held j i hi
  unreleased j hj := by
    have hmoved : ((s.use r CEvent.leave).moveTo t .away).threads j = _ := moveTo_threads ..
    simp only [CWaitForResponse.leave, Function.update_apply] at hj
    rw [CWaitForResponse.leave, hmoved]
    split
    · next h =>
      rw [if_pos h] at hj
      cases hj
    · next h =>
      rw [if_neg h] at hj
      exact hs.unreleased j hj
  released hoff j := by
    simp only [CWaitForResponse.leave, Function.update_apply]
    split
    · rfl
    · exact hs.released hoff j

theorem enter (hs : Sound s) (hphase : s.threads t = .found r) : Sound (s.enter t r) := by
  have hr : s.responses.isLive r := hs.held t r (by rw [hphase]; rfl)
  have hused := hs.use hr CEvent.enter
  have hr' : (s.use r CEvent.enter).responses.isLive r := by
    rw [CWaitForResponse.use, ManualHeap.isLive_use]
    exact hr
  unfold CWaitForResponse.enter
  split
  · exact hused.leave hr'
  · refine hused.moveTo (fun i hi => ?_) fun _ => rfl
    obtain rfl := Option.some.inj hi
    exact hr'

/-- A response that nobody holds is deleted. -/
theorem clearStep (hs : Sound s) (hunheld : Unheld s .clearStep) (h : s.clearStep = some u) :
    Sound u := by
  cases hclearing : s.clearing with
  | off =>
    rw [CWaitForResponse.clearStep, hclearing] at h
    cases h
  | broadcasting rest =>
    have hrem : s.remaining = rest := by rw [remaining, hclearing]
    rw [CWaitForResponse.clearStep, hclearing] at h
    cases rest with
    | nil =>
      obtain rfl := Option.some.inj h
      have hdead : ∀ i, s.responses.isLive i = false := fun i => by
        rw [← Bool.not_eq_true, hs.listed i, hrem]
        exact List.not_mem_nil
      refine ⟨hs.unfaulted, fun i => ?_, List.nodup_nil, hs.held, hs.unreleased, fun _ j => ?_⟩
      · simp [hdead i, remaining, ids]
      · rw [← Bool.not_eq_true]
        intro hj
        have hwait := hs.unreleased j hj
        cases hstage : s.threads j with
        | found i | waiting i =>
          have hlive := hs.held j i (by rw [hstage]; rfl)
          exact absurd ((hdead i).symm.trans hlive) Bool.false_ne_true
        | away | signaling i =>
          rw [hstage] at hwait
          cases hwait
    | cons r rest =>
      obtain rfl := Option.some.inj h
      have hr : s.responses.isLive r := (hs.listed r).mpr (by rw [hrem]; exact List.mem_cons_self)
      have hused := hs.use hr CEvent.broadcast
      have hnodup : (r :: rest).Nodup := hrem ▸ hs.nodup
      exact ⟨hused.unfaulted, fun i => (hused.listed i).trans (by rw [show
        (s.use r CEvent.broadcast).remaining = r :: rest from hrem]; rfl),
        hnodup, hused.held, hs.unreleased, fun h => by cases h⟩
  | deleting r rest =>
    have hrem : s.remaining = r :: rest := by rw [remaining, hclearing]
    rw [CWaitForResponse.clearStep, hclearing] at h
    obtain rfl := Option.some.inj h
    have hr : s.responses.isLive r := (hs.listed r).mpr (by rw [hrem]; exact List.mem_cons_self)
    obtain ⟨hnot, hnodup⟩ := List.nodup_cons.mp (hrem ▸ hs.nodup)
    refine ⟨?_, fun i => ?_, hnodup, fun j i hi => ?_, hs.unreleased, fun h => by cases h⟩
    · rw [ManualHeap.fault_delete (by simpa using hr), ManualHeap.fault_use hr, hs.unfaulted]
    · have hi := hs.listed i
      rw [hrem, List.mem_cons] at hi
      change _ ↔ i ∈ rest
      simp only [ManualHeap.isLive_delete, ManualHeap.isLive_use, Bool.and_eq_true,
        decide_eq_true_eq, hi]
      constructor
      · rintro ⟨h | h, hne⟩
        · exact absurd h hne
        · exact h
      · intro hrest
        refine ⟨.inr hrest, ?_⟩
        rintro rfl
        exact hnot hrest
    · have hne : i ≠ r := by
        rintro rfl
        exact hunheld rfl i rest hclearing j hi
      simp [hs.held j i hi, hne]

theorem step {a : Action} (hs : Sound s) (ha : Unheld s a) (h : s.step a = some u) : Sound u := by
  cases a with
  | wait t opcode =>
    refine hs.find (fun r i hi => ?_) h
    exact (Option.some.inj hi).symm
  | enter t =>
    simp only [CWaitForResponse.step] at h
    split at h
    · next r hstage =>
      obtain rfl := Option.some.inj h
      exact hs.enter hstage
    · cases h
  | leave t =>
    simp only [CWaitForResponse.step] at h
    split at h
    · next r hstage =>
      obtain rfl := Option.some.inj h
      exact hs.leave (hs.held t r (by rw [hstage]; rfl))
    · cases h
  | received t opcode =>
    refine hs.find (fun r i hi => ?_) h
    exact (Option.some.inj hi).symm
  | broadcast t =>
    simp only [CWaitForResponse.step] at h
    split at h
    · next r hstage =>
      obtain rfl := Option.some.inj h
      refine (hs.use (hs.held t r (by rw [hstage]; rfl)) _).moveTo (fun i hi => by cases hi) fun hun => ?_
      have hwait := hs.unreleased t hun
      rw [hstage] at hwait
      cases hwait
    · cases h
  | clear =>
    obtain ⟨hoff, rfl⟩ := enabled_iff.mp h
    have hids := remaining_of_off hoff
    exact ⟨hs.unfaulted, fun i => (hs.listed i).trans (by rw [hids]; rfl), hids ▸ hs.nodup, hs.held,
      fun _ h => h, fun h => by cases h⟩
  | clearStep => exact hs.clearStep ha h

end Sound

/-! ### Runs -/

/-- A thread that holds a response when it is deleted goes on to use it. -/
theorem faults_of_held {s : CWaitForResponse} {r t : ℕ} {rest : List ℕ}
    (hclearing : s.clearing = .deleting r rest) (hheld : (s.threads t).holds = some r) :
    ∃ u, Schedule step s u ∧ u.responses.fault := by
  let s₁ : CWaitForResponse := { s with
    responses := (s.responses.use r CEvent.broadcast).delete r
    clearing := .broadcasting rest }
  have hdelete : s.step .clearStep = some s₁ := by
    change s.clearStep = some s₁
    rw [CWaitForResponse.clearStep, hclearing]
  have hdead : s₁.responses.isLive r = false := by
    change ((s.responses.use r CEvent.broadcast).delete r).isLive r = false
    simp
  have hrun : ∀ {a : Action} {u : CWaitForResponse}, s₁.step a = some u → Schedule step s u :=
    fun h => .tail _ (.tail _ (.refl s) trivial hdelete) trivial h
  have hfault : ∀ f, (s₁.use r f).responses.fault := ManualHeap.fault_of_dead hdead
  cases hstage : s.threads t with
  | away =>
    rw [hstage] at hheld
    cases hheld
  | found i =>
    rw [hstage] at hheld
    obtain rfl := Option.some.inj hheld
    refine ⟨s₁.enter t i, hrun (a := .enter t) ?_, ?_⟩
    · simp [step, s₁, hstage]
    · have hnot : s₁.isSignaled i = false := by
        rw [ManualHeap.isLive, Option.isSome_eq_false_iff, Option.isNone_iff_eq_none] at hdead
        rw [isSignaled, hdead]
        rfl
      rw [enter, hnot, if_neg Bool.false_ne_true]
      exact hfault _
  | waiting i =>
    rw [hstage] at hheld
    obtain rfl := Option.some.inj hheld
    refine ⟨s₁.leave t i, hrun (a := .leave t) ?_, hfault _⟩
    simp [step, s₁, hstage]
  | signaling i =>
    rw [hstage] at hheld
    obtain rfl := Option.some.inj hheld
    refine ⟨(s₁.use i CEvent.broadcast).moveTo t .away, hrun (a := .broadcast t) ?_, hfault _⟩
    simp [step, s₁, hstage]

/-- As long as no response is deleted that a thread holds, no response is used after that, and
    everybody who was waiting is released before `Clear` is over; a response that is deleted while
    a thread holds it is used afterwards. -/
theorem responses_outlive_waiters {s : CWaitForResponse} (h : Reaches step Unheld initial s) :
    s.Outlives ∧ ∀ r rest t, s.clearing = .deleting r rest → (s.threads t).holds = some r →
      ∃ u, Schedule step s u ∧ ¬u.Outlives := by
  have hs : Sound s := h.invariant (fun hs ha hstep => hs.step ha hstep) sound_initial
  refine ⟨⟨hs.unfaulted, hs.released⟩, fun r rest t hclearing hheld => ?_⟩
  obtain ⟨u, hrun, hfault⟩ := faults_of_held hclearing hheld
  refine ⟨u, hrun, fun hout => ?_⟩
  exact absurd (hout.1.symm.trans hfault) Bool.false_ne_true

/-- A waiter that is released by the signal of `Clear` before its response is deleted. -/
theorem responses_outlive_waiters_released : ∃ s, Reaches step Unheld initial s ∧ s.Outlives := by
  let schedule : List Action :=
    [.wait 0 0x90, .enter 0, .clear, .clearStep, .leave 0, .clearStep, .clearStep]
  have hperform : (perform step initial schedule).isSome := by decide
  obtain ⟨s, hs⟩ := Option.isSome_iff_exists.mp hperform
  have hmeets : Meets step Unheld initial schedule := by
    refine ⟨fun h => (by cases h), ?_⟩
    rintro _ ⟨rfl⟩
    refine ⟨fun h => (by cases h), ?_⟩
    rintro _ ⟨rfl⟩
    refine ⟨fun h => (by cases h), ?_⟩
    rintro _ ⟨rfl⟩
    refine ⟨fun _ r rest h => (by cases h), ?_⟩
    rintro _ ⟨rfl⟩
    refine ⟨fun h => (by cases h), ?_⟩
    rintro _ ⟨rfl⟩
    -- the waiter has left its event
    refine ⟨fun _ r rest _ t => (by cases t <;> exact (Option.some_ne_none r).symm), ?_⟩
    rintro _ ⟨rfl⟩
    refine ⟨fun _ r rest h => (by cases h), ?_⟩
    rintro _ ⟨rfl⟩
    trivial
  have hrun := reaches_of_perform hmeets hs
  exact ⟨s, hrun, (responses_outlive_waiters hrun).1⟩

/-- A thread waits for a response when the device is reset, and is still to leave its event when
    the response is deleted. -/
theorem response_used_after_clear : ¬∀ s, Schedule step initial s → s.Outlives := by
  intro hall
  have hperform : (perform step initial
      [.wait 0 0x90, .enter 0, .clear, .clearStep, .clearStep, .leave 0]).any
      (·.responses.fault) := by decide
  obtain ⟨s, hs, hfault⟩ := (Option.any_eq_true _ _).mp hperform
  have hout := (hall s (schedule_of_perform hs)).1
  exact absurd (hout.symm.trans hfault) Bool.false_ne_true

end CWaitForResponse

end CEC
