import LibCec.RpiAddressLost
import LibCec.Schemes.Schedule
import Mathlib.Data.Fintype.Basic

/-! The requests that the Raspberry Pi adapter makes of VideoCore, and the threads that wait for them.

    A thread clears the flag `m_bLogicalAddressChanged`, asks VideoCore for an address or to release
    one, and waits until the flag is set:

        RegisterLogicalAddress     lock: already registered?   changed := false   request   lock: wait
        UnregisterLogicalAddress   lock: initialised?, changed := false, request, wait

        VC_CEC_LOGICAL_ADDR        success   changed := true, the address of the callback; notify_one
                                   failure   the address CECDEVICE_FREEUSE; notify_one
                                   dropped while the callbacks are disabled

    The threads are those of any number of callers. A callback arrives when it takes the lock, or
    when it is dropped. -/

namespace CEC
open Schemes

namespace RpiRequests

/-! ### Threads -/

/-- What a thread waits for: a timeout of 0 is none. -/
inductive Request where
  | register (address : LogicalAddress) (iTimeoutMs : UInt32)
  | unregister
  deriving DecidableEq

/-- How far a thread is; `answered` is whether a callback has arrived after its request. -/
inductive Stage where
  | idle
  /-- `RegisterLogicalAddress`, past its first test. -/
  | registering (address : LogicalAddress) (iTimeoutMs : UInt32)
  /-- It has cleared the flag. -/
  | cleared (address : LogicalAddress) (iTimeoutMs : UInt32)
  /-- VideoCore has not taken its request, so that it calls `UnregisterLogicalAddress`. -/
  | rejected
  /-- VideoCore has taken its request. -/
  | requested (address : LogicalAddress) (iTimeoutMs : UInt32) (answered : Bool)
  /-- In `CCondition::Wait`. -/
  | waiting (request : Request) (answered notified : Bool)
  deriving DecidableEq

namespace Stage

/-- The thread has made a request and has not returned. -/
def outstanding : Stage → Bool
  | requested .. | waiting .. => true
  | _ => false

/-- A callback has arrived after the request of the thread. -/
def answered : Stage → Bool
  | requested _ _ answered | waiting _ answered _ => answered
  | _ => false

/-- The thread sleeps on the condition. -/
def blocked : Stage → Bool
  | waiting _ _ notified => !notified
  | _ => false

/-- The address for which `RegisterLogicalAddress` returns true when the flag is set. -/
def asksFor : Stage → Option LogicalAddress
  | cleared address _ | requested address _ _ | waiting (.register address _) _ _ => some address
  | _ => none

/-- A callback arrives. -/
def answer (woken : Bool) : Stage → Stage
  | requested address iTimeoutMs _ => requested address iTimeoutMs true
  | waiting request _ notified => waiting request true (notified || woken)
  | stage => stage

@[simp] theorem answered_answer (woken : Bool) (stage : Stage) :
    (stage.answer woken).answered = stage.outstanding := by
  cases stage <;> rfl

@[simp] theorem blocked_answer (woken : Bool) (stage : Stage) :
    (stage.answer woken).blocked = (stage.blocked && !woken) := by
  cases stage with
  | waiting request answered notified => exact Bool.not_or ..
  | _ => rfl

@[simp] theorem asksFor_answer (woken : Bool) (stage : Stage) :
    (stage.answer woken).asksFor = stage.asksFor := by
  cases stage with
  | waiting request answered notified => cases request <;> rfl
  | _ => rfl

end Stage

/-- The adapter, the threads, and the adapter as each `RegisterLogicalAddress` that returned true
    found it. -/
structure State (n : ℕ) where
  adapter : RpiAdapter
  threads : Fin n → Stage
  granted : List (LogicalAddress × RpiAdapter)

variable {n : ℕ}

namespace State

/-- The adapter as it is constructed, and no thread that uses it. -/
def initial : State n := ⟨.initial, fun _ => .idle, []⟩

variable (s : State n) (i : Fin n)

def set (stage : Stage) : State n := { s with threads := Function.update s.threads i stage }

@[simp] theorem threads_set_self (stage : Stage) : (s.set i stage).threads i = stage :=
  Function.update_self ..

theorem threads_set_of_ne {i j : Fin n} (h : j ≠ i) (stage : Stage) :
    (s.set i stage).threads j = s.threads j := Function.update_of_ne h ..

/-- The request of the thread returns true. -/
def returnsTrue : Request → State n
  | .register address _ => { s.set i .idle with granted := (address, s.adapter) :: s.granted }
  | .unregister => s.set i .idle

/-- `CCondition::Wait`, up to where it sleeps. -/
def wait (request : Request) (answered : Bool) : State n :=
  if s.adapter.logicalAddressChanged then s.returnsTrue i request
  else s.set i (.waiting request answered false)

/-- A callback arrives, and wakes this thread. -/
def answer (woken : Option (Fin n)) : State n :=
  { s with threads := fun i => (s.threads i).answer (woken = some i) }

/-- `notify_one` wakes a thread that sleeps, if there is one. -/
def Wakes : Option (Fin n) → Prop
  | some i => (s.threads i).blocked
  | none => ∀ i, ¬(s.threads i).blocked

instance (woken : Option (Fin n)) : Decidable (s.Wakes woken) := by
  cases woken with
  | none => exact inferInstanceAs (Decidable (∀ _, _))
  | some i => exact inferInstanceAs (Decidable (_ = true))

end State

/-! ### Steps -/

inductive Action (n : ℕ) where
  -- RegisterLogicalAddress
  | register (i : Fin n) (address : LogicalAddress) (iTimeoutMs : UInt32)
  | clearChanged (i : Fin n)
  | setLogicalAddress (i : Fin n) (accepted : Bool)
  | wait (i : Fin n)
  | unregister (i : Fin n)
  -- a thread wakes on its own, when it was notified or not
  | wake (i : Fin n)
  | timeOut (i : Fin n)
  -- VideoCore
  | logicalAddr (success : Bool) (p0 : UInt32) (woken : Option (Fin n))
  | logicalAddrLost
  -- other functions of the adapter
  | setDisableCallback (disable : Bool)
  | opened
  | close

/-- What happens to the adapter alone. -/
def State.happens (s : State n) (e : RpiAdapter.Event) : State n :=
  { s with adapter := (s.adapter.step e).1 }

/-- One step of a thread or of VideoCore, when it can be taken. -/
def step (s : State n) : Action n → Option (State n)
  | .register i address iTimeoutMs =>
    if s.threads i = .idle then
      if s.adapter.logicalAddress = address ∧ s.adapter.logicalAddressRegistered then
        some (s.returnsTrue i (.register address iTimeoutMs))
      else some (s.set i (.registering address iTimeoutMs))
    else none
  | .clearChanged i =>
    match s.threads i with
    | .registering address iTimeoutMs =>
      some ((s.happens .clearChanged).set i (.cleared address iTimeoutMs))
    | _ => none
  | .setLogicalAddress i accepted =>
    match s.threads i with
    | .cleared address iTimeoutMs =>
      some (s.set i (if accepted then .requested address iTimeoutMs false else .rejected))
    | _ => none
  | .wait i =>
    match s.threads i with
    | .requested address iTimeoutMs answered => some (s.wait i (.register address iTimeoutMs) answered)
    | _ => none
  | .unregister i =>
    if s.threads i = .idle ∨ s.threads i = .rejected then
      if !s.adapter.initialised then some (s.set i .idle)
      else some ((s.happens .unregister).wait i .unregister false)
    else none
  | .wake i =>
    match s.threads i with
    | .waiting request answered _ => some (s.wait i request answered)
    | _ => none
  | .timeOut i =>
    match s.threads i with
    | .waiting (.register address iTimeoutMs) _ _ =>
      if iTimeoutMs = 0 then none
      else if s.adapter.logicalAddressChanged then
        some (s.returnsTrue i (.register address iTimeoutMs))
      else some (s.set i .idle)
    | _ => none
  | .logicalAddr success p0 woken =>
    if s.adapter.disableCallbacks then some (s.answer none)
    else if s.Wakes woken then some ((s.happens (.logicalAddr success p0)).answer woken)
    else none
  | .logicalAddrLost => some (s.happens .logicalAddrLost)
  | .setDisableCallback disable => some (s.happens (.setDisableCallback disable))
  | .opened => some (s.happens .opened)
  | .close => some (s.happens .close)

/-- All that a step can do. -/
inductive Steps (s : State n) : Action n → State n → Prop
  | held {i address t} : s.threads i = .idle →
      s.adapter.logicalAddress = address ∧ s.adapter.logicalAddressRegistered = true →
      Steps s (.register i address t) (s.returnsTrue i (.register address t))
  | begins {i address t} : s.threads i = .idle →
      ¬(s.adapter.logicalAddress = address ∧ s.adapter.logicalAddressRegistered = true) →
      Steps s (.register i address t) (s.set i (.registering address t))
  | clears {i address t} : s.threads i = .registering address t →
      Steps s (.clearChanged i) ((s.happens .clearChanged).set i (.cleared address t))
  | accepted {i address t} : s.threads i = .cleared address t →
      Steps s (.setLogicalAddress i true) (s.set i (.requested address t false))
  | rejected {i address t} : s.threads i = .cleared address t →
      Steps s (.setLogicalAddress i false) (s.set i .rejected)
  | waits {i address t answered} : s.threads i = .requested address t answered →
      Steps s (.wait i) (s.wait i (.register address t) answered)
  | unused {i} : s.threads i = .idle ∨ s.threads i = .rejected → s.adapter.initialised = false →
      Steps s (.unregister i) (s.set i .idle)
  | releases {i} : s.threads i = .idle ∨ s.threads i = .rejected → s.adapter.initialised = true →
      Steps s (.unregister i) ((s.happens .unregister).wait i .unregister false)
  | wakes {i request answered notified} : s.threads i = .waiting request answered notified →
      Steps s (.wake i) (s.wait i request answered)
  | late {i address t answered notified} :
      s.threads i = .waiting (.register address t) answered notified → t ≠ 0 →
      s.adapter.logicalAddressChanged = true →
      Steps s (.timeOut i) (s.returnsTrue i (.register address t))
  | timesOut {i address t answered notified} :
      s.threads i = .waiting (.register address t) answered notified → t ≠ 0 →
      s.adapter.logicalAddressChanged = false →
      Steps s (.timeOut i) (s.set i .idle)
  | dropped {success p0 woken} : s.adapter.disableCallbacks = true →
      Steps s (.logicalAddr success p0 woken) (s.answer none)
  | taken {success p0 woken} : s.adapter.disableCallbacks = false → s.Wakes woken →
      Steps s (.logicalAddr success p0 woken) ((s.happens (.logicalAddr success p0)).answer woken)
  | logicalAddrLost : Steps s .logicalAddrLost (s.happens .logicalAddrLost)
  | setDisableCallback {disable} :
      Steps s (.setDisableCallback disable) (s.happens (.setDisableCallback disable))
  | opened : Steps s .opened (s.happens .opened)
  | close : Steps s .close (s.happens .close)

theorem steps_of_step {s t : State n} {a : Action n} (h : step s a = some t) : Steps s a t := by
  cases a with
  | register i address iTimeoutMs =>
    obtain ⟨hidle, h⟩ := Option.ite_none_right_eq_some.mp h
    split at h
    · next hheld =>
      obtain rfl := Option.some.inj h
      exact .held hidle hheld
    · next hother =>
      obtain rfl := Option.some.inj h
      exact .begins hidle hother
  | clearChanged i =>
    simp only [step] at h
    split at h
    · next hthread =>
      obtain rfl := Option.some.inj h
      exact .clears hthread
    · cases h
  | setLogicalAddress i accepted =>
    simp only [step] at h
    split at h
    · next hthread =>
      obtain rfl := Option.some.inj h
      cases accepted with
      | true => exact .accepted hthread
      | false => exact .rejected hthread
    · cases h
  | wait i =>
    simp only [step] at h
    split at h
    · next hthread =>
      obtain rfl := Option.some.inj h
      exact .waits hthread
    · cases h
  | unregister i =>
    obtain ⟨hthread, h⟩ := Option.ite_none_right_eq_some.mp h
    cases hinitialised : s.adapter.initialised with
    | false =>
      rw [hinitialised] at h
      obtain rfl := Option.some.inj h
      exact .unused hthread hinitialised
    | true =>
      rw [hinitialised] at h
      obtain rfl := Option.some.inj h
      exact .releases hthread hinitialised
  | wake i =>
    simp only [step] at h
    split at h
    · next hthread =>
      obtain rfl := Option.some.inj h
      exact .wakes hthread
    · cases h
  | timeOut i =>
    simp only [step] at h
    split at h
    · next hthread =>
      split at h
      · cases h
      next htimeout =>
        split at h
        · next hchanged =>
          obtain rfl := Option.some.inj h
          exact .late hthread htimeout hchanged
        · next hclear =>
          obtain rfl := Option.some.inj h
          exact .timesOut hthread htimeout (Bool.eq_false_of_not_eq_true hclear)
    · cases h
  | logicalAddr success p0 woken =>
    simp only [step] at h
    split at h
    · next hdropped =>
      obtain rfl := Option.some.inj h
      exact .dropped hdropped
    · next htaken =>
      obtain ⟨hwakes, rfl⟩ := enabled_iff.mp h
      exact .taken (Bool.eq_false_of_not_eq_true htaken) hwakes
  | logicalAddrLost =>
    obtain rfl := Option.some.inj h
    exact .logicalAddrLost
  | setDisableCallback disable =>
    obtain rfl := Option.some.inj h
    exact .setDisableCallback
  | opened =>
    obtain rfl := Option.some.inj h
    exact .opened
  | close =>
    obtain rfl := Option.some.inj h
    exact .close

/-! ### The property -/

namespace State

variable (s : State n)

/-- The next step of the thread returns: the flag is set, and the thread does not sleep. -/
def Released (i : Fin n) : Prop :=
  s.adapter.logicalAddressChanged = true ∧ (s.threads i).blocked = false

/-- The first callback after a request releases the thread that made it, and an address is granted
    only when it is the registered one. -/
structure Ends : Prop where
  released : ∀ i, (s.threads i).answered → s.Released i
  granted : ∀ g ∈ s.granted, g.2.logicalAddress = g.1 ∧ g.2.logicalAddressRegistered = true

/-- Each call of `RegisterLogicalAddress` that has cleared the flag asks for this address. -/
def AskFor (a : LogicalAddress) : Prop := ∀ i, ∀ b ∈ (s.threads i).asksFor, b = a

/-- A callback sets the flag, or finds it set, and wakes the only thread that sleeps; the calls under
    way ask for the address that it leaves; and the flag is cleared only when each thread that was
    answered has returned. -/
def Settles : Action n → Prop
  | .clearChanged _ => ∀ i, ¬(s.threads i).answered
  | .unregister _ => s.adapter.initialised → ∀ i, ¬(s.threads i).answered
  | .logicalAddr success p0 woken =>
    if s.adapter.disableCallbacks then ∀ i, (s.threads i).outstanding → s.Released i
    else if success then
      (∀ i, (s.threads i).blocked → woken = some i) ∧ s.AskFor (.addr (RpiAdapter.reportedAddress p0))
    else
      (∀ i, (s.threads i).outstanding →
        s.adapter.logicalAddressChanged ∧ ((s.threads i).blocked → woken = some i)) ∧
      (s.adapter.logicalAddressChanged → s.AskFor RpiAdapter.freeUse)
  | .logicalAddrLost =>
    s.adapter.disableCallbacks ∨ (s.adapter.logicalAddressChanged → s.AskFor .unknown)
  | _ => True

instance (i : Fin n) : Decidable (s.Released i) := inferInstanceAs (Decidable (_ ∧ _))

instance (a : LogicalAddress) : Decidable (s.AskFor a) :=
  inferInstanceAs (Decidable (∀ i, ∀ b ∈ (s.threads i).asksFor, b = a))

instance : ∀ a : Action n, Decidable (s.Settles a)
  | .clearChanged _ => inferInstanceAs (Decidable (∀ i, ¬(s.threads i).answered))
  | .unregister _ =>
    inferInstanceAs (Decidable (s.adapter.initialised = true → ∀ i, ¬(s.threads i).answered))
  | .logicalAddr success _ _ => inferInstanceAs
    (Decidable (if s.adapter.disableCallbacks = true then _ else if success = true then _ else _))
  | .logicalAddrLost => inferInstanceAs (Decidable (_ ∨ _))
  | .register .. | .setLogicalAddress .. | .wait _ | .wake _ | .timeOut _ | .setDisableCallback _
  | .opened | .close => inferInstanceAs (Decidable True)

/-! ### What the steps preserve -/

/-- When the flag is set an address is registered, the one that each call asks for. -/
structure Sound (s : State n) : Prop extends s.Ends where
  registered : s.adapter.logicalAddressChanged = true → s.adapter.logicalAddressRegistered = true
  asked : s.adapter.logicalAddressChanged = true → s.AskFor s.adapter.logicalAddress

variable {s} {t : State n} {i : Fin n}

theorem sound_initial : (initial : State n).Sound where
  released := fun _ h => by cases h
  granted := fun _ h => by cases h
  registered := fun h => by cases h
  asked := fun h => by cases h

theorem Sound.released_at (h : s.Sound) {stage : Stage} (hthread : s.threads i = stage)
    (hanswered : stage.answered) : s.adapter.logicalAddressChanged = true :=
  (h.released i (hthread ▸ hanswered)).1

theorem Sound.asked_at (h : s.Sound) {stage : Stage} (hthread : s.threads i = stage)
    (hchanged : s.adapter.logicalAddressChanged = true) :
    ∀ b ∈ stage.asksFor, b = s.adapter.logicalAddress :=
  hthread ▸ h.asked hchanged i

/-- A thread goes on to a stage that agrees with the flag. -/
theorem Sound.set (h : s.Sound) {stage : Stage}
    (hanswered : stage.answered → s.adapter.logicalAddressChanged = true ∧ stage.blocked = false)
    (hasks : s.adapter.logicalAddressChanged = true →
      ∀ b ∈ stage.asksFor, b = s.adapter.logicalAddress) : (s.set i stage).Sound where
  released := fun j hj => by
    unfold Released
    by_cases hij : j = i
    · subst hij
      rw [threads_set_self] at hj ⊢
      exact hanswered hj
    · rw [threads_set_of_ne s hij] at hj ⊢
      exact h.released j hj
  granted := h.granted
  registered := h.registered
  asked := fun hchanged j b hb => by
    by_cases hij : j = i
    · subst hij
      rw [threads_set_self] at hb
      exact hasks hchanged b hb
    · rw [threads_set_of_ne s hij] at hb
      exact h.asked hchanged j b hb

theorem Sound.setIdle (h : s.Sound) : (s.set i .idle).Sound :=
  h.set (fun hidle => by cases hidle) fun _ _ hb => by cases hb

/-- A request is granted when its address is the registered one. -/
theorem Sound.returnsTrue (h : s.Sound) {request : Request} (answered notified : Bool)
    (hgranted : ∀ b ∈ (Stage.waiting request answered notified).asksFor,
      b = s.adapter.logicalAddress ∧ s.adapter.logicalAddressRegistered = true) :
    (s.returnsTrue i request).Sound := by
  have hidle : (s.set i .idle).Sound := h.setIdle
  cases request with
  | unregister => exact hidle
  | register address iTimeoutMs =>
    refine ⟨⟨hidle.released, fun g hg => ?_⟩, hidle.registered, hidle.asked⟩
    rcases List.mem_cons.mp hg with rfl | hg
    · obtain ⟨haddress, hregistered⟩ := hgranted address rfl
      exact ⟨haddress.symm, hregistered⟩
    · exact h.granted g hg

/-- A request that goes on waiting, or is granted at once when the flag is set. -/
theorem Sound.wait (h : s.Sound) {request : Request} {answered : Bool} (notified : Bool)
    (hanswered : answered = true → s.adapter.logicalAddressChanged = true)
    (hasks : s.adapter.logicalAddressChanged = true →
      ∀ b ∈ (Stage.waiting request answered notified).asksFor, b = s.adapter.logicalAddress) :
    (s.wait i request answered).Sound := by
  unfold State.wait
  split
  · next hchanged =>
    exact h.returnsTrue answered notified fun b hb => ⟨hasks hchanged b hb, h.registered hchanged⟩
  · next hclear =>
    exact h.set (fun hans => absurd (hanswered hans) hclear) fun hchanged => absurd hchanged hclear

/-- The flag is cleared when no thread counts on it. -/
theorem Sound.happens_clear (h : s.Sound) {e : RpiAdapter.Event}
    (hclear : (s.adapter.step e).1.logicalAddressChanged = false)
    (hnone : ∀ i, ¬(s.threads i).answered) : (s.happens e).Sound where
  released := fun i hi => absurd hi (hnone i)
  granted := h.granted
  registered := fun hchanged => by
    rw [happens, hclear] at hchanged
    cases hchanged
  asked := fun hchanged => by
    rw [happens, hclear] at hchanged
    cases hchanged

/-- An event that the requests do not depend on. -/
theorem Sound.happens_same (h : s.Sound) {e : RpiAdapter.Event}
    (hchanged : (s.adapter.step e).1.logicalAddressChanged = s.adapter.logicalAddressChanged)
    (haddress : (s.adapter.step e).1.logicalAddress = s.adapter.logicalAddress)
    (hregistered : (s.adapter.step e).1.logicalAddressRegistered =
      s.adapter.logicalAddressRegistered) : (s.happens e).Sound where
  released := fun i hi => ⟨hchanged.trans (h.released i hi).1, (h.released i hi).2⟩
  granted := h.granted
  registered := fun hset => hregistered.trans (h.registered (hchanged.symm.trans hset))
  asked := fun hset i b hb =>
    (h.asked (hchanged.symm.trans hset) i b hb).trans haddress.symm

/-- A callback that finds, or sets, the flag, and wakes the one thread that sleeps. -/
theorem Sound.answer (h : s.Sound) {adapter : RpiAdapter} {woken : Option (Fin n)}
    (hreleased : ∀ i, (s.threads i).outstanding →
      adapter.logicalAddressChanged = true ∧ ((s.threads i).blocked → woken = some i))
    (hregistered : adapter.logicalAddressChanged = true → adapter.logicalAddressRegistered = true)
    (hasked : adapter.logicalAddressChanged = true → s.AskFor adapter.logicalAddress) :
    (State.answer { s with adapter := adapter } woken).Sound where
  released := fun i hi => by
    obtain ⟨hchanged, hwoken⟩ := hreleased i (by simpa [State.answer] using hi)
    refine ⟨hchanged, ?_⟩
    cases hblocked : (s.threads i).blocked with
    | false => simp [State.answer, hblocked]
    | true => simp [State.answer, hwoken hblocked]
  granted := h.granted
  registered := hregistered
  asked := fun hchanged i b hb => hasked hchanged i b (by simpa [State.answer] using hb)

theorem Sound.dropped (h : s.Sound) {success : Bool} {p0 : UInt32} {woken : Option (Fin n)}
    (hdropped : s.adapter.disableCallbacks = true)
    (hsettles : s.Settles (.logicalAddr success p0 woken)) : (s.answer none).Sound := by
  rw [Settles, if_pos hdropped] at hsettles
  refine h.answer (fun i hi => ?_) h.registered h.asked
  obtain ⟨hchanged, hawake⟩ := hsettles i hi
  exact ⟨hchanged, fun hblocked => absurd hblocked (by simp [hawake])⟩

theorem happens_logicalAddr (htaken : s.adapter.disableCallbacks = false) (success : Bool) (p0 : UInt32) :
    s.happens (.logicalAddr success p0) = { s with adapter := s.adapter.onLogicalAddr success p0 } := by
  simp [happens, RpiAdapter.step, htaken]

theorem Sound.taken (h : s.Sound) {success : Bool} {p0 : UInt32} {woken : Option (Fin n)}
    (htaken : s.adapter.disableCallbacks = false)
    (hsettles : s.Settles (.logicalAddr success p0 woken)) :
    ((s.happens (.logicalAddr success p0)).answer woken).Sound := by
  rw [Settles, if_neg (by simp [htaken])] at hsettles
  rw [happens_logicalAddr htaken]
  cases success with
  | true =>
    rw [if_pos rfl] at hsettles
    exact h.answer (fun i _ => ⟨rfl, hsettles.1 i⟩) (fun _ => rfl) fun _ => hsettles.2
  | false =>
    rw [if_neg Bool.false_ne_true] at hsettles
    exact h.answer hsettles.1 h.registered hsettles.2

theorem Sound.logicalAddrLost (h : s.Sound) (hsettles : s.Settles .logicalAddrLost) :
    (s.happens .logicalAddrLost).Sound := by
  cases hdisabled : s.adapter.disableCallbacks with
  | true =>
    have hsame : (s.adapter.step .logicalAddrLost).1 = s.adapter := by simp [RpiAdapter.step, hdisabled]
    exact h.happens_same (by rw [hsame]) (by rw [hsame]) (by rw [hsame])
  | false =>
    have hlost : (s.adapter.step .logicalAddrLost).1 = { s.adapter with logicalAddress := .unknown } := by
      simp [RpiAdapter.step, RpiAdapter.onLogicalAddrLost, hdisabled]
    have hasked := hsettles.resolve_left (by simp [hdisabled])
    rw [happens, hlost]
    exact ⟨⟨h.released, h.granted⟩, h.registered, hasked⟩

theorem Sound.unregister (h : s.Sound) (hsettles : s.Settles (.unregister i))
    (hinitialised : s.adapter.initialised = true) :
    ((s.happens .unregister).wait i .unregister false).Sound := by
  have hunregister : (s.adapter.step .unregister).1.logicalAddressChanged = false := by
    simp [RpiAdapter.step, RpiAdapter.unregister, hinitialised]
  have hclear := h.happens_clear hunregister (hsettles hinitialised)
  exact hclear.wait false (fun hans => absurd hans Bool.false_ne_true) fun _ _ hb => by cases hb

theorem Sound.step (h : s.Sound) {a : Action n} (hsettles : s.Settles a) (hstep : step s a = some t) :
    t.Sound := by
  cases steps_of_step hstep with
  | held _ hheld =>
    refine h.returnsTrue false false fun b hb => ?_
    obtain rfl := Option.some.inj hb
    exact ⟨hheld.1.symm, hheld.2⟩
  | begins _ _ => exact h.set (fun hans => by cases hans) fun _ _ hb => by cases hb
  | clears _ =>
    have hclear : (s.happens .clearChanged).Sound := h.happens_clear rfl hsettles
    exact hclear.set (fun hans => by cases hans) fun hchanged => by cases hchanged
  | accepted hthread =>
    have hasked := h.asked_at hthread
    exact h.set (fun hans => by cases hans) hasked
  | rejected _ => exact h.set (fun hans => by cases hans) fun _ _ hb => by cases hb
  | waits hthread =>
    have hasked := h.asked_at hthread
    exact h.wait false (h.released_at hthread) hasked
  | unused _ _ => exact h.setIdle
  | releases _ hinitialised => exact h.unregister hsettles hinitialised
  | wakes hthread => exact h.wait _ (h.released_at hthread) (h.asked_at hthread)
  | late hthread _ hchanged =>
    exact h.returnsTrue _ _ fun b hb => ⟨h.asked_at hthread hchanged b hb, h.registered hchanged⟩
  | timesOut _ _ _ => exact h.setIdle
  | dropped hdropped => exact h.dropped hdropped hsettles
  | taken htaken _ => exact h.taken htaken hsettles
  | logicalAddrLost => exact h.logicalAddrLost hsettles
  | setDisableCallback => exact h.happens_same rfl rfl rfl
  | opened => exact h.happens_same rfl rfl rfl
  | close =>
    refine h.happens_same ?_ ?_ ?_
    all_goals simp only [RpiAdapter.step, RpiAdapter.close]; split <;> rfl

/-! ### Where the property is lost -/

/-- A call that does not ask for the address that is registered can still be granted. -/
theorem granted_wrongly (hchanged : s.adapter.logicalAddressChanged = true) {b : LogicalAddress}
    (hb : b ∈ (s.threads i).asksFor) (hother : b ≠ s.adapter.logicalAddress) :
    ∃ u, Schedule RpiRequests.step s u ∧ ¬u.Ends := by
  -- the flag is set, so that it does not wait
  have hwait : ∀ (s' : State n) (t : UInt32) (answered : Bool), s'.adapter = s.adapter →
      ¬(s'.wait i (.register b t) answered).Ends := by
    intro s' t answered hadapter hends
    rw [State.wait, hadapter, if_pos hchanged] at hends
    obtain ⟨haddress, -⟩ := hends.granted (b, s'.adapter) List.mem_cons_self
    rw [hadapter] at haddress
    exact hother haddress.symm
  cases hthread : s.threads i with
  | cleared address t =>
    rw [hthread] at hb
    obtain rfl := Option.some.inj hb
    have haccepted : RpiRequests.step s (.setLogicalAddress i true) =
        some (s.set i (.requested address t false)) := by simp [RpiRequests.step, hthread]
    refine ⟨_, .tail (.wait i) (.tail _ (.refl s) trivial haccepted) trivial ?_,
      hwait (s.set i (.requested address t false)) t false rfl⟩
    simp [RpiRequests.step, State.set]
  | requested address t answered =>
    rw [hthread] at hb
    obtain rfl := Option.some.inj hb
    refine ⟨_, .tail (.wait i) (.refl s) trivial ?_, hwait s t answered rfl⟩
    simp [RpiRequests.step, hthread]
  | waiting request answered notified =>
    rw [hthread] at hb
    cases request with
    | unregister => cases hb
    | register address t =>
      obtain rfl := Option.some.inj hb
      refine ⟨_, .tail (.wake i) (.refl s) trivial ?_, hwait s t answered rfl⟩
      simp [RpiRequests.step, hthread]
  | _ => simp [hthread, Stage.asksFor] at hb

/-- A callback leaves a thread waiting. -/
theorem not_ends_answer (adapter : RpiAdapter) {woken : Option (Fin n)}
    (hout : (s.threads i).outstanding)
    (hwaits : ¬(adapter.logicalAddressChanged = true ∧ ((s.threads i).blocked → woken = some i))) :
    ¬(State.answer { s with adapter := adapter } woken).Ends := by
  intro hends
  have hreleased := hends.released i (by simpa [State.answer] using hout)
  refine hwaits ⟨hreleased.1, fun hblocked => ?_⟩
  have hawake := hreleased.2
  simpa [State.answer, hblocked] using hawake

theorem outstanding_of_blocked {stage : Stage} (h : stage.blocked) : stage.outstanding := by
  cases stage with
  | waiting => rfl
  | _ => cases h

theorem unsettled_dropped {success : Bool} {p0 : UInt32} {woken : Option (Fin n)}
    (hdropped : s.adapter.disableCallbacks = true)
    (hnot : ¬s.Settles (.logicalAddr success p0 woken)) :
    ∃ u, Schedule RpiRequests.step (s.answer none) u ∧ ¬u.Ends := by
  rw [Settles, if_pos hdropped] at hnot
  push Not at hnot
  obtain ⟨i, hout, hnot⟩ := hnot
  refine ⟨_, .refl _, not_ends_answer s.adapter hout fun ⟨hchanged, hawake⟩ => hnot ⟨hchanged, ?_⟩⟩
  cases hblocked : (s.threads i).blocked with
  | false => rfl
  | true => cases hawake hblocked

theorem unsettled_taken {success : Bool} {p0 : UInt32} {woken : Option (Fin n)}
    (htaken : s.adapter.disableCallbacks = false)
    (hnot : ¬s.Settles (.logicalAddr success p0 woken)) :
    ∃ u, Schedule RpiRequests.step ((s.happens (.logicalAddr success p0)).answer woken) u ∧ ¬u.Ends := by
  rw [Settles, if_neg (by simp [htaken])] at hnot
  rw [happens_logicalAddr htaken]
  have hasksFor : ∀ (s' : State n) (i : Fin n) (b : LogicalAddress), b ∈ (s'.threads i).asksFor →
      b ∈ ((s'.answer woken).threads i).asksFor := fun s' i b hb => by
    simpa [State.answer] using hb
  cases success with
  | true =>
    rw [if_pos rfl, not_and_or] at hnot
    rcases hnot with hasleep | hother
    · push Not at hasleep
      obtain ⟨i, hblocked, hasleep⟩ := hasleep
      exact ⟨_, .refl _, not_ends_answer _ (outstanding_of_blocked hblocked) fun hall =>
        hasleep (hall.2 hblocked)⟩
    · simp only [AskFor, not_forall] at hother
      obtain ⟨i, b, hb, hother⟩ := hother
      exact granted_wrongly rfl (hasksFor _ i b hb) hother
  | false =>
    rw [if_neg Bool.false_ne_true, not_and_or] at hnot
    rcases hnot with hwaits | hother
    · simp only [not_forall] at hwaits
      obtain ⟨i, hout, hwaits⟩ := hwaits
      exact ⟨_, .refl _, not_ends_answer _ hout hwaits⟩
    · simp only [AskFor, not_forall] at hother
      obtain ⟨hchanged, i, b, hb, hother⟩ := hother
      exact granted_wrongly hchanged (hasksFor _ i b hb) hother

/-- A flag that is cleared while a thread counts on it. -/
theorem unsettled_clear {e : RpiAdapter.Event} {i j : Fin n} (stage : Stage)
    (hclear : (s.happens e).adapter.logicalAddressChanged = false) (hthread : ¬(s.threads i).answered)
    (hanswered : (s.threads j).answered) :
    ∃ u, Schedule RpiRequests.step ((s.happens e).set i stage) u ∧ ¬u.Ends := by
  have hij : j ≠ i := by
    rintro rfl
    exact hthread hanswered
  refine ⟨_, .refl _, fun hends => ?_⟩
  have hreleased := hends.released j (by rwa [threads_set_of_ne _ hij])
  exact Bool.false_ne_true (hclear.symm.trans hreleased.1)

/-- Every other step leads to a state in which a thread waits on, or to one that is granted another
    address. -/
theorem unsettled {a : Action n} (hstep : RpiRequests.step s a = some t) (hnot : ¬s.Settles a) :
    ∃ u, Schedule RpiRequests.step t u ∧ ¬u.Ends := by
  cases steps_of_step hstep with
  | clears hthread =>
    simp only [Settles, not_forall, not_not] at hnot
    obtain ⟨j, hj⟩ := hnot
    exact unsettled_clear _ rfl (by simp [hthread, Stage.answered]) hj
  | unused _ hinitialised =>
    refine absurd (fun hother => ?_) hnot
    rw [hinitialised] at hother
    cases hother
  | releases hthread hinitialised =>
    simp only [Settles, not_forall, not_not] at hnot
    obtain ⟨-, j, hj⟩ := hnot
    have hclear : (s.happens .unregister).adapter.logicalAddressChanged = false := by
      simp [happens, RpiAdapter.step, RpiAdapter.unregister, hinitialised]
    rw [State.wait, if_neg (by simp [hclear])]
    refine unsettled_clear _ hclear ?_ hj
    rcases hthread with hthread | hthread <;> simp [hthread, Stage.answered]
  | dropped hdropped => exact unsettled_dropped hdropped hnot
  | taken htaken _ => exact unsettled_taken htaken hnot
  | logicalAddrLost =>
    simp only [Settles, AskFor, not_or, not_forall] at hnot
    obtain ⟨htaken, hchanged, i, b, hb, hother⟩ := hnot
    have hlost : (s.adapter.step .logicalAddrLost).1 = { s.adapter with logicalAddress := .unknown } := by
      simp [RpiAdapter.step, RpiAdapter.onLogicalAddrLost, htaken]
    rw [happens, hlost]
    exact granted_wrongly hchanged hb hother
  | _ => exact absurd trivial hnot

/-! ### Runs -/

theorem returnsTrue_idle (request : Request) : (s.returnsTrue i request).threads i = .idle := by
  cases request with
  | register address iTimeoutMs => exact threads_set_self s i .idle
  | unregister => exact threads_set_self s i .idle

/-- The next step of a thread that is released returns. -/
theorem Released.returns (h : s.Released i) (hanswered : (s.threads i).answered) :
    ∃ a t, (a = .wait i ∨ a = .wake i) ∧ RpiRequests.step s a = some t ∧ t.threads i = .idle := by
  have hreturns : ∀ request answered, s.wait i request answered = s.returnsTrue i request :=
    fun _ _ => if_pos h.1
  cases hthread : s.threads i with
  | requested address iTimeoutMs answered =>
    refine ⟨.wait i, s.returnsTrue i (.register address iTimeoutMs), .inl rfl, ?_, returnsTrue_idle _⟩
    simp [RpiRequests.step, hthread, hreturns]
  | waiting request answered notified =>
    refine ⟨.wake i, s.returnsTrue i request, .inr rfl, ?_, returnsTrue_idle _⟩
    simp [RpiRequests.step, hthread, hreturns]
  | _ => simp [hthread, Stage.answered] at hanswered

@[simp] theorem adapter_returnsTrue (request : Request) :
    (s.returnsTrue i request).adapter = s.adapter := by
  cases request <;> rfl

@[simp] theorem adapter_wait (request : Request) (answered : Bool) :
    (s.wait i request answered).adapter = s.adapter := by
  rw [State.wait]
  split
  · exact adapter_returnsTrue request
  · rfl

/-- One step is one event of the adapter, or leaves it as it is. -/
theorem exists_event {a : Action n} (hstep : RpiRequests.step s a = some t) :
    t.adapter = s.adapter ∨ ∃ e, t.adapter = (s.adapter.step e).1 := by
  cases steps_of_step hstep with
  | held _ _ => exact .inl (adapter_returnsTrue _)
  | waits _ => exact .inl (adapter_wait ..)
  | wakes _ => exact .inl (adapter_wait ..)
  | late _ _ _ => exact .inl (adapter_returnsTrue _)
  | clears _ => exact .inr ⟨.clearChanged, rfl⟩
  | releases _ _ => exact .inr ⟨.unregister, adapter_wait ..⟩
  | taken _ _ => exact .inr ⟨.logicalAddr _ _, rfl⟩
  | logicalAddrLost => exact .inr ⟨.logicalAddrLost, rfl⟩
  | setDisableCallback => exact .inr ⟨.setDisableCallback _, rfl⟩
  | opened => exact .inr ⟨.opened, rfl⟩
  | close => exact .inr ⟨.close, rfl⟩
  | _ => exact .inl rfl

/-- The adapter goes through a run of events. -/
theorem exists_events (h : Schedule RpiRequests.step initial s) :
    ∃ es, s.adapter = RpiAdapter.after es := by
  induction h with
  | refl => exact ⟨[], rfl⟩
  | tail a _ _ hstep ih =>
    obtain ⟨es, hes⟩ := ih
    rcases exists_event hstep with hsame | ⟨e, he⟩
    · exact ⟨es, hsame.trans hes⟩
    · refine ⟨es ++ [e], ?_⟩
      rw [he, hes, RpiAdapter.after, RpiAdapter.after, List.foldl_append]
      rfl

end State

/-- In every run whose steps meet the condition, each thread returns with its next step once a
    callback has arrived after its request, and is granted the address that it asked for; any other
    step leads to a state of which this is not true. -/
theorem requests_end {s : State n} (h : Reaches step State.Settles State.initial s) :
    s.Ends ∧
      (∀ i, (s.threads i).answered →
        ∃ a t, (a = .wait i ∨ a = .wake i) ∧ step s a = some t ∧ t.threads i = .idle) ∧
      ∀ a t, step s a = some t → ¬s.Settles a → ∃ u, Schedule step t u ∧ ¬u.Ends := by
  have hs : s.Sound := h.invariant (fun hs ha hstep => hs.step ha hstep) State.sound_initial
  exact ⟨hs.toEnds, fun i hi => (hs.released i hi).returns hi, fun a t hstep hnot =>
    State.unsettled hstep hnot⟩

/-- A thread registers `CECDEVICE_FREEUSE`, and waits for the callback. -/
def registersFreeUse : List (Action 1) :=
  [.register 0 RpiAdapter.freeUse 10000, .clearChanged 0, .setLogicalAddress 0 true, .wait 0]

/-- It is granted, and VideoCore then releases it. -/
def registersAndReleases : List (Action 1) :=
  registersFreeUse ++ [.logicalAddr true 14 (some 0), .wake 0, .opened, .unregister 0,
    .logicalAddr true 15 (some 0), .wake 0]

/-- Both requests end. -/
theorem requests_end_released :
    ∃ s : State 1, Reaches step State.Settles State.initial s ∧ s.granted.length = 1 ∧ s.Ends := by
  have hperform : (perform step State.initial registersAndReleases).any (·.granted.length = 1) := by
    decide
  obtain ⟨s, hs, hone⟩ := (Option.any_eq_true _ _).mp hperform
  have hmeets : Meets step State.Settles State.initial registersAndReleases := by decide
  have hreaches := reaches_of_perform hmeets hs
  exact ⟨s, hreaches, by simpa using hone, (requests_end hreaches).1⟩

/-- VideoCore cannot grant it, and the thread waits on. -/
theorem not_requests_end : ¬∀ (n : ℕ) (s : State n), Schedule step State.initial s → s.Ends := by
  intro hall
  have hperform : (perform step State.initial (registersFreeUse ++ [.logicalAddr false 0 (some 0)])).any
      fun s => (s.threads 0).answered && !s.adapter.logicalAddressChanged := by decide
  obtain ⟨s, hs, hwaits⟩ := (Option.any_eq_true _ _).mp hperform
  rw [Bool.and_eq_true, Bool.not_eq_true'] at hwaits
  have hreleased := (hall 1 s (schedule_of_perform hs)).released 0 hwaits.1
  exact absurd hreleased.1 (by simp [hwaits.2])

end RpiRequests

end CEC
