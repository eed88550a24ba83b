import LibCec.Bus
import LibCec.Schemes.ManualHeap
import LibCec.Schemes.Schedule
import Mathlib.Algebra.BigOperators.Group.Finset.Basic
import Mathlib.Algebra.Order.BigOperators.Group.Finset
import Mathlib.Data.Fintype.BigOperators

/-! The functions that count the uses of a command handler.

    A device counts the uses of its handler by hand, and replaces it only when there are none:

        MarkBusy ──▶ m_handler->… ──▶ MarkReady
        GetHandler ──▶ m_handler->… ──▶ MarkHandlerReady
        ReplaceHandler   in use ──▶ false
                         unused ──▶ MarkBusy ─▶ delete, new ─▶ InitHandler, ActivateSource ─▶ MarkReady

    Every function that counts, or that uses a handler, is here with what it does to the count; any
    other function is a sequence of calls of these. -/

namespace CEC
open Schemes

/-! ### What the functions do -/

namespace HandlerUse

/-- What a function does with the handler of one device, whatever its conditions are. -/
inductive Script where
  | skip
  | markBusy
  | markReady
  /-- A method of `m_handler`, which may call anything. -/
  | callHandler
  | replaceHandler
  /-- `ReplaceHandler`, until it is successful. -/
  | untilReplaced
  /-- Calls of other functions. -/
  | others
  | seq (first second : Script)
  | choose (first second : Script)
  deriving DecidableEq

namespace Script

def block : List Script → Script := List.foldr seq skip

/-- Only if some condition holds. -/
def perhaps (s : Script) : Script := choose s skip

/-- Between `MarkBusy` and `MarkReady`. -/
def busy (s : Script) : Script := block [markBusy, s, markReady]

/-- `InitHandler` of a new handler, and `ActivateSource`. -/
def init : Script := perhaps (block [callHandler, perhaps callHandler])

/-- `GetHandler`. -/
def getHandler : Script := block [replaceHandler, markBusy]

/-- `device->GetHandler()->…` and `device->MarkHandlerReady()`. -/
def throughHandler : Script := block [getHandler, callHandler, markReady]

end Script

/-- The functions that count, or that use a handler, and any other one. -/
inductive Operation where
  | other
  -- CCECBusDevice
  | replaceHandler | handleCommand | setUnsupportedFeature | transmitKeypress | transmitKeyRelease
  | transmitPlay | requestCecVersion | transmitCECVersion | requestMenuLanguage
  | transmitSetMenuLanguage | transmitOSDString | requestOSDName | transmitOSDName
  | requestPhysicalAddress | transmitPhysicalAddress | setPowerStatus | requestPowerStatus
  | transmitPowerState | requestVendorId | transmitVendorID | transmitPoll | transmitMenuState
  | activateSource | requestActiveSource | transmitActiveSource | transmitImageViewOn
  | transmitInactiveSource | transmitPendingActiveSourceCommands | powerOn | standby
  | checkVendorIdRequested | systemAudioModeRequest
  -- CCECAudioSystem
  | transmitAudioStatus | transmitSetSystemAudioMode | transmitSystemAudioModeStatus
  | requestAudioStatus | requestSystemAudioModeStatus | audioEnable
  -- CCECPlaybackDevice
  | transmitDeckStatus
  -- CCECProcessor; the device is the initiator, or the TV
  | transmit | registerClient
  -- CCECClient; the device is the TV, or the active source, which libCEC handles or not
  | setSupportedDeviceTypes | setStreamPath | isLibCECActiveSource (handled : Bool)
  -- CVLCommandHandler and CSLCommandHandler
  | powerUpEventReceived | handleVendorCommandPowerOn | suppressTvRoutingChange
  deriving DecidableEq

open Script in
/-- What the function does, as far as the handler of its device is concerned. -/
def Operation.body : Operation → Script
  | other => others
  | replaceHandler => .replaceHandler
  | handleCommand => busy callHandler
  | setUnsupportedFeature => perhaps (busy skip)
  | transmitKeypress | transmitKeyRelease | transmitPlay | transmitCECVersion | transmitOSDName
  | transmitPowerState | transmitMenuState | transmitInactiveSource
  | transmitPendingActiveSourceCommands => busy callHandler
  | requestCecVersion | requestMenuLanguage | transmitOSDString | requestOSDName
  | requestPhysicalAddress | transmitPhysicalAddress | setPowerStatus | requestActiveSource
  | transmitActiveSource | transmitImageViewOn | requestAudioStatus
  | requestSystemAudioModeStatus => perhaps (busy callHandler)
  | transmitSetMenuLanguage => busy (choose others callHandler)
  | requestPowerStatus => perhaps (busy (block [callHandler, perhaps (perhaps (busy callHandler))]))
  | requestVendorId => perhaps (block [busy callHandler, perhaps .replaceHandler])
  | transmitVendorID => busy (choose (perhaps others) callHandler)
  | transmitPoll => perhaps (busy (block [callHandler, perhaps others]))
  | activateSource =>
    block [others, busy (choose (block [perhaps (perhaps callHandler), callHandler]) callHandler)]
  | powerOn => block [others, busy (block [perhaps others, perhaps callHandler])]
  | standby => block [others, busy callHandler]
  | checkVendorIdRequested => perhaps (block [.replaceHandler, others])
  | systemAudioModeRequest => perhaps callHandler
  | transmitAudioStatus | transmitSetSystemAudioMode | transmitSystemAudioModeStatus | audioEnable
  | transmitDeckStatus => callHandler
  | transmit => perhaps (block [throughHandler, others])
  | registerClient =>
    perhaps (block [others, perhaps untilReplaced, others,
      perhaps (block [others, perhaps throughHandler, others])])
  | setSupportedDeviceTypes =>
    -- the handler is never null; the loop over the five device types
    block [getHandler, block (List.replicate 5 (perhaps callHandler)), markReady, others]
  | setStreamPath => perhaps (block [others, throughHandler])
  | isLibCECActiveSource handled =>
    block [others, if handled then block [getHandler, callHandler] else skip]
  | powerUpEventReceived => block [others, perhaps throughHandler]
  | handleVendorCommandPowerOn => perhaps (block [others, perhaps throughHandler])
  | suppressTvRoutingChange => perhaps throughHandler

/-- A call of a function: what it has still to do, its calls of `MarkBusy` minus its calls of
    `MarkReady`, and the handler that it is in a method of. -/
structure Frame where
  device : Fin 16
  rest : List Script
  used : ℤ
  calling : Option ℕ
  deriving DecidableEq

/-- The call has come to a point where other functions are called. -/
def Frame.callsOthers (f : Frame) : Bool :=
  match f.rest with
  | .others :: _ => true
  | .callHandler :: _ => f.calling.isSome
  | _ => false

end HandlerUse

open HandlerUse in
/-- The handlers of the devices, and the threads that use them. -/
structure HandlerUse (T : Type) where
  vendor : Fin 16 → VendorId
  /-- `m_iHandlerUseCount`. -/
  useCount : Fin 16 → ℕ
  /-- `m_handler`. -/
  handler : Fin 16 → ℕ
  /-- The handlers with their vendors. -/
  handlers : ManualHeap VendorId
  threads : T → List Frame

namespace HandlerUse

variable {T : Type}

/-- Every device has a handler of no vendor, and no function is called. -/
def initial : HandlerUse T where
  vendor _ := 0
  useCount _ := 0
  handler d := d
  handlers :=
    ⟨16, fun r => if r < 16 then some 0 else none, false, fun _ hr => if_neg (Nat.not_lt.mpr hr)⟩
  threads _ := []

/-! ### Interleavings -/

/-- What a thread does next. -/
inductive Action (T : Type) where
  /-- `SetVendorId`, by whichever thread. -/
  | setVendorId (d : Fin 16) (iVendorId : VendorId)
  | call (t : T) (o : Operation) (d : Fin 16)
  | next (t : T)
  /-- The next step when it depends on a condition. -/
  | choose (t : T) (first : Bool)

/-- `ReplaceHandler` returns true. -/
def canReplace (s : HandlerUse T) (d : Fin 16) : Bool := d ≠ 15 && s.useCount d = 0

/-- `ReplaceHandler` makes a new handler. -/
def needsReplacement (s : HandlerUse T) (d : Fin 16) : Bool :=
  some (s.vendor d) ≠ s.handlers.cell (s.handler d) && (specificHandler (s.vendor d)).isSome

section step

variable [DecidableEq T]

def setFrames (s : HandlerUse T) (t : T) (frames : List Frame) : HandlerUse T :=
  { s with threads := Function.update s.threads t frames }

theorem setFrames_threads (s : HandlerUse T) (t t' : T) (frames : List Frame) :
    (s.setFrames t frames).threads t' = if t' = t then frames else s.threads t' := by
  simp [setFrames, Function.update_apply]

theorem setFrames_self (s : HandlerUse T) (t : T) (frames : List Frame) :
    (s.setFrames t frames).threads t = frames := by
  rw [setFrames_threads, if_pos rfl]

theorem mem_setFrames {s : HandlerUse T} {t t' : T} {frames : List Frame} {f : Frame}
    (h : f ∈ (s.setFrames t frames).threads t') : f ∈ frames ∨ f ∈ s.threads t' := by
  rw [setFrames_threads] at h
  split at h
  · exact .inl h
  · exact .inr h

/-- `MarkBusy` and `MarkReady`, to the function that calls them: a change of the count. -/
def mark (s : HandlerUse T) (d : Fin 16) (f : ℕ → ℕ) : HandlerUse T :=
  { s with useCount := Function.update s.useCount d (f (s.useCount d)) }

/-- A handler is used. -/
def touch (s : HandlerUse T) (r : ℕ) : HandlerUse T := { s with handlers := s.handlers.touch r }

/-- The old handler of a device is deleted, and there is a new one. -/
def renew (s : HandlerUse T) (d : Fin 16) : HandlerUse T :=
  { s with
    handlers := (s.handlers.delete (s.handler d)).create (s.vendor d)
    handler := Function.update s.handler d s.handlers.next }

/-- `ReplaceHandler` of a handler that is not in use: what follows under the lock, and what is left
    to do after that. -/
def replace (s : HandlerUse T) (t : T) (f : Frame) (rest : List Script) (below : List Frame) :
    HandlerUse T :=
  let s := (s.mark f.device (· + 1)).touch (s.handler f.device)
  let f := { f with used := f.used + 1 }
  if s.needsReplacement f.device then
    (s.renew f.device).setFrames t ({ f with rest := .init :: .markReady :: rest } :: below)
  else s.setFrames t ({ f with rest := .markReady :: rest } :: below)

/-- The next statement of a function. -/
def advance (s : HandlerUse T) (t : T) (f : Frame) (below : List Frame) : Option (HandlerUse T) :=
  match f.rest with
  | [] => some (s.setFrames t below)
  | .skip :: rest | .others :: rest => some (s.setFrames t ({ f with rest } :: below))
  | .markBusy :: rest =>
    some ((s.mark f.device (· + 1)).setFrames t ({ f with rest, used := f.used + 1 } :: below))
  | .markReady :: rest =>
    -- not below zero
    some ((s.mark f.device (· - 1)).setFrames t ({ f with rest, used := f.used - 1 } :: below))
  | .callHandler :: rest =>
    match f.calling with
    | none =>
      some ((s.touch (s.handler f.device)).setFrames t
        ({ f with calling := some (s.handler f.device) } :: below))
    | some r => some ((s.touch r).setFrames t ({ f with rest, calling := none } :: below))
  | .replaceHandler :: rest =>
    if s.canReplace f.device then some (s.replace t f rest below)
    else some (s.setFrames t ({ f with rest } :: below))
  | .untilReplaced :: rest =>
    if s.canReplace f.device then some (s.replace t f rest below) else some s
  | .seq a b :: rest => some (s.setFrames t ({ f with rest := a :: b :: rest } :: below))
  | .choose _ _ :: _ => none

/-- What one statement can do. -/
inductive Advances (s : HandlerUse T) (t : T) (f : Frame) (below : List Frame) : HandlerUse T → Prop
  | returns : f.rest = [] → Advances s t f below (s.setFrames t below)
  | passes {rest : List Script} : f.rest = .skip :: rest ∨ f.rest = .others :: rest →
      Advances s t f below (s.setFrames t ({ f with rest } :: below))
  | marksBusy {rest : List Script} : f.rest = .markBusy :: rest → Advances s t f below
      ((s.mark f.device (· + 1)).setFrames t ({ f with rest, used := f.used + 1 } :: below))
  | marksReady {rest : List Script} : f.rest = .markReady :: rest → Advances s t f below
      ((s.mark f.device (· - 1)).setFrames t ({ f with rest, used := f.used - 1 } :: below))
  | enters {rest : List Script} : f.rest = .callHandler :: rest → f.calling = none →
      Advances s t f below ((s.touch (s.handler f.device)).setFrames t
        ({ f with calling := some (s.handler f.device) } :: below))
  | leaves {rest : List Script} {r : ℕ} : f.rest = .callHandler :: rest → f.calling = some r →
      Advances s t f below ((s.touch r).setFrames t ({ f with rest, calling := none } :: below))
  | replaces {rest : List Script} :
      f.rest = .replaceHandler :: rest ∨ f.rest = .untilReplaced :: rest → s.canReplace f.device →
      Advances s t f below (s.replace t f rest below)
  | declined {rest : List Script} : f.rest = .replaceHandler :: rest → s.canReplace f.device = false →
      Advances s t f below (s.setFrames t ({ f with rest } :: below))
  | waits {rest : List Script} : f.rest = .untilReplaced :: rest → s.canReplace f.device = false →
      Advances s t f below s
  | unfolds {a b : Script} {rest : List Script} : f.rest = .seq a b :: rest →
      Advances s t f below (s.setFrames t ({ f with rest := a :: b :: rest } :: below))

theorem advances_of_advance {s u : HandlerUse T} {t : T} {f : Frame} {below : List Frame}
    (h : s.advance t f below = some u) : Advances s t f below u := by
  unfold advance at h
  split at h
  · next hrest =>
    obtain rfl := Option.some.inj h
    exact .returns hrest
  · next rest hrest =>
    obtain rfl := Option.some.inj h
    exact .passes (.inl hrest)
  · next rest hrest =>
    obtain rfl := Option.some.inj h
    exact .passes (.inr hrest)
  · next rest hrest =>
    obtain rfl := Option.some.inj h
    exact .marksBusy hrest
  · next rest hrest =>
    obtain rfl := Option.some.inj h
    exact .marksReady hrest
  · next rest hrest =>
    split at h
    · next hcalling =>
      obtain rfl := Option.some.inj h
      exact .enters hrest hcalling
    · next r hcalling =>
      obtain rfl := Option.some.inj h
      exact .leaves hrest hcalling
  · next rest hrest =>
    split at h
    · next hcan =>
      obtain rfl := Option.some.inj h
      exact .replaces (.inl hrest) hcan
    · next hcan =>
      obtain rfl := Option.some.inj h
      exact .declined hrest (Bool.not_eq_true _ ▸ hcan)
  · next rest hrest =>
    split at h
    · next hcan =>
      obtain rfl := Option.some.inj h
      exact .replaces (.inr hrest) hcan
    · next hcan =>
      obtain rfl := Option.some.inj h
      exact .waits hrest (Bool.not_eq_true _ ▸ hcan)
  · next a b rest hrest =>
    obtain rfl := Option.some.inj h
    exact .unfolds hrest
  · cases h

def step (s : HandlerUse T) : Action T → Option (HandlerUse T)
  | .setVendorId d iVendorId => some { s with vendor := Function.update s.vendor d iVendorId }
  | .call t o d =>
    if (s.threads t).head?.all Frame.callsOthers then
      some (s.setFrames t (⟨d, [o.body], 0, none⟩ :: s.threads t))
    else none
  | .next t =>
    match s.threads t with
    | [] => none
    | f :: below => s.advance t f below
  | .choose t first =>
    match s.threads t with
    | [] => none
    | f :: below =>
      match f.rest with
      | .choose a b :: rest =>
        some (s.setFrames t ({ f with rest := (if first then a else b) :: rest } :: below))
      | _ => none

theorem step_next_iff {s u : HandlerUse T} {t : T} :
    s.step (.next t) = some u ↔ ∃ f below, s.threads t = f :: below ∧ s.advance t f below = some u := by
  rw [step]
  cases hthreads : s.threads t with
  | nil => simp
  | cons f below =>
    refine ⟨fun h => ⟨f, below, rfl, h⟩, fun ⟨f', below', heq, h⟩ => ?_⟩
    obtain ⟨rfl, rfl⟩ := List.cons.inj heq
    exact h

theorem step_choose_iff {s u : HandlerUse T} {t : T} {first : Bool} :
    s.step (.choose t first) = some u ↔ ∃ f below a b rest, s.threads t = f :: below ∧
      f.rest = .choose a b :: rest ∧
      s.setFrames t ({ f with rest := (if first then a else b) :: rest } :: below) = u := by
  rw [step]
  split
  · next hnone => simp [hnone]
  · next f below hthreads =>
    split
    · next a b rest hrest =>
      refine Option.some_inj.trans ⟨fun h => ⟨f, below, a, b, rest, hthreads, hrest, h⟩, ?_⟩
      rintro ⟨f', below', a', b', rest', hthreads', hrest', h⟩
      obtain ⟨rfl, rfl⟩ := List.cons.inj (hthreads.symm.trans hthreads')
      obtain ⟨hchoose, rfl⟩ := List.cons.inj (hrest.symm.trans hrest')
      obtain ⟨rfl, rfl⟩ := Script.choose.inj hchoose
      exact h
    · next hother =>
      refine ⟨fun h => (by cases h), ?_⟩
      rintro ⟨f', below', a, b, rest, hthreads', hrest, -⟩
      obtain ⟨rfl, rfl⟩ := List.cons.inj (hthreads.symm.trans hthreads')
      exact (hother a b rest hrest).elim

end step

/-! ### What a function leaves behind -/

/-- The count that a function has when the script is over, whatever the conditions are; it does not
    release what it does not hold. -/
def Script.after : Script → ℤ → Option ℤ
  | markBusy, n => some (n + 1)
  | markReady, n => if 0 < n then some (n - 1) else none
  | untilReplaced, n => if n = 0 then some 0 else none
  | seq a b, n => (a.after n).bind b.after
  | choose a b, n => if a.after n = b.after n then a.after n else none
  | skip, n | callHandler, n | replaceHandler, n | others, n => some n

def afterAll : List Script → ℤ → Option ℤ
  | [], n => some n
  | s :: rest, n => (s.after n).bind (afterAll rest)

@[simp] theorem afterAll_nil (n : ℤ) : afterAll [] n = some n := rfl

@[simp] theorem afterAll_cons (s : Script) (rest : List Script) (n : ℤ) :
    afterAll (s :: rest) n = (s.after n).bind (afterAll rest) := rfl

theorem after_init (n : ℤ) : Script.init.after n = some n := by
  simp [Script.init, Script.perhaps, Script.block, Script.after]

/-- The uses that a function keeps for ever. -/
def Operation.leaks : Operation → ℤ
  | isLibCECActiveSource true => 1
  | _ => 0

/-- Every function releases what it has marked, but for one. -/
theorem after_body (o : Operation) : o.body.after 0 = some o.leaks := by
  cases o with
  | isLibCECActiveSource handled => cases handled <;> rfl
  | _ => rfl

/-- The uses of the handler of a device that the calls have marked, and not released. -/
def held (d : Fin 16) : List Frame → ℤ
  | [] => 0
  | f :: below => (if f.device = d then f.used else 0) + held d below

@[simp] theorem held_nil (d : Fin 16) : held d [] = 0 := rfl

@[simp] theorem held_cons (d : Fin 16) (f : Frame) (below : List Frame) :
    held d (f :: below) = (if f.device = d then f.used else 0) + held d below := rfl

/-- No function is running. -/
def Quiescent (s : HandlerUse T) : Prop := ∀ t, s.threads t = []

/-- A function that returns has released what it has marked; when no function is running no handler
    is in use, and each one can be replaced; and a thread that waits until the handler of the TV is
    replaced can go on when nobody else uses it. -/
structure Balanced (s : HandlerUse T) : Prop where
  returned : ∀ t f below, s.threads t = f :: below → f.rest = [] → f.used = 0
  quiescent : s.Quiescent → ∀ d, s.useCount d = 0 ∧ (d ≠ 15 → s.canReplace d)
  registered : ∀ t f below rest, s.threads t = f :: below → f.rest = .untilReplaced :: rest →
    (∀ t', t' ≠ t → s.threads t' = []) → held f.device below = 0 → f.device ≠ 15 →
    s.canReplace f.device

/-- `IsLibCECActiveSource` is not called when libCEC handles the active source. -/
def Releases : Action T → Prop
  | .call _ o _ => o.leaks = 0
  | _ => True

/-! ### The invariant -/

section counting

variable [Fintype T] {s u : HandlerUse T} {t : T} {d : Fin 16} {f f' : Frame} {below : List Frame}
  {leaky : Bool}

/-- The uses of all threads. -/
def total (s : HandlerUse T) (d : Fin 16) : ℤ := ∑ t, held d (s.threads t)

/-- What is left to do gives back what is held; a leak is a use that is kept. -/
def Frame.Returns (leaky : Bool) (f : Frame) : Prop :=
  0 ≤ f.used ∧ ∃ m, 0 ≤ m ∧ afterAll f.rest f.used = some m ∧ (leaky = false → m = 0)

/-- The count of a device is that of the functions that are running; with leaks it is larger. -/
structure Counted (leaky : Bool) (s : HandlerUse T) : Prop where
  returns : ∀ t, ∀ f ∈ s.threads t, f.Returns leaky
  counted : ∀ d, s.total d ≤ s.useCount d ∧ (leaky = false → s.total d = s.useCount d)

theorem counted_initial (leaky : Bool) : Counted leaky (initial : HandlerUse T) where
  returns t f hf := by cases hf
  counted d := by simp [total, initial]

theorem held_nonneg {frames : List Frame} (d : Fin 16) (h : ∀ f ∈ frames, 0 ≤ f.used) :
    0 ≤ held d frames := by
  induction frames with
  | nil => simp
  | cons f below ih =>
    have hf := h f List.mem_cons_self
    have hbelow := ih fun g hg => h g (List.mem_cons_of_mem f hg)
    rw [held_cons]
    split <;> omega

namespace Counted

/-- What one thread holds is part of the count. -/
theorem held_le (hs : Counted leaky s) (t : T) (d : Fin 16) :
    held d (s.threads t) ≤ s.useCount d := by
  have hnonneg : ∀ t', 0 ≤ held d (s.threads t') := fun t' =>
    held_nonneg d fun f hf => (hs.returns t' f hf).1
  have hsum : held d (s.threads t) ≤ s.total d :=
    Finset.single_le_sum (fun t' _ => hnonneg t') (Finset.mem_univ t)
  exact hsum.trans (hs.counted d).1

/-- What the function that is running holds is part of the count. -/
theorem used_le (hs : Counted leaky s) (ht : s.threads t = f :: below) :
    f.used ≤ s.useCount f.device := by
  have hle := hs.held_le t f.device
  have hbelow : 0 ≤ held f.device below := held_nonneg _ fun g hg =>
    (hs.returns t g (by rw [ht]; exact List.mem_cons_of_mem f hg)).1
  rw [ht, held_cons, if_pos rfl] at hle
  omega

/-- A function that waits for the handler to be replaced holds nothing. -/
theorem waits {rest : List Script} (hs : Counted leaky s) (ht : s.threads t = f :: below)
    (hrest : f.rest = .untilReplaced :: rest) : f.used = 0 := by
  obtain ⟨-, m, -, hf, -⟩ := hs.returns t f (by rw [ht]; exact List.mem_cons_self)
  rw [hrest, afterAll_cons, Script.after] at hf
  by_contra hne
  rw [if_neg hne] at hf
  cases hf

theorem balanced (hs : Counted false s) : s.Balanced where
  returned t f below ht hrest := by
    obtain ⟨-, m, -, hf, hzero⟩ := hs.returns t f (by rw [ht]; exact List.mem_cons_self)
    rw [hrest, afterAll_nil] at hf
    rw [Option.some.inj hf, hzero rfl]
  quiescent hquiet d := by
    have htotal : s.total d = 0 := Finset.sum_eq_zero fun t _ => by rw [hquiet t, held_nil]
    have hcount : s.useCount d = 0 := by
      have heq := (hs.counted d).2 rfl
      omega
    exact ⟨hcount, fun hd => by simp [canReplace, hd, hcount]⟩
  registered t f below rest ht hrest hothers hbelow hd := by
    have hself : held f.device (s.threads t) = 0 := by
      rw [ht, held_cons, if_pos rfl, hs.waits ht hrest, hbelow, add_zero]
    have htotal : s.total f.device = 0 := by
      refine Finset.sum_eq_zero fun t' _ => ?_
      rcases eq_or_ne t' t with rfl | hne
      · exact hself
      · rw [hothers t' hne, held_nil]
    have hcount : s.useCount f.device = 0 := by
      have heq := (hs.counted f.device).2 rfl
      omega
    simp [canReplace, hd, hcount]

end Counted

variable [DecidableEq T]

theorem total_setFrames (s : HandlerUse T) (t : T) (frames : List Frame) (d : Fin 16) :
    (s.setFrames t frames).total d = s.total d - held d (s.threads t) + held d frames := by
  have hsplit : ∀ g : T → ℤ, ∑ t', g t' = g t + ∑ t' ∈ Finset.univ.erase t, g t' := fun g =>
    (Finset.add_sum_erase _ _ (Finset.mem_univ t)).symm
  have hrest : ∑ t' ∈ Finset.univ.erase t, held d ((s.setFrames t frames).threads t') =
      ∑ t' ∈ Finset.univ.erase t, held d (s.threads t') := by
    refine Finset.sum_congr rfl fun t' ht' => ?_
    rw [setFrames_threads, if_neg (Finset.ne_of_mem_erase ht')]
  rw [total, total, hsplit, hsplit fun t' => held d (s.threads t'), hrest, setFrames_self]
  omega

namespace Counted

/-- A function goes on, and counts what it marks and releases. -/
theorem move {w : HandlerUse T} (hs : Counted leaky s) (ht : s.threads t = f :: below)
    (hw : w.threads = s.threads) (hdevice : f'.device = f.device) (hreturns : f'.Returns leaky)
    (hcount : ∀ d, (w.useCount d : ℤ) =
      s.useCount d + if f.device = d then f'.used - f.used else 0) :
    Counted leaky (w.setFrames t (f' :: below)) where
  returns t' g hg := by
    rcases mem_setFrames hg with hg | hg
    · rcases List.mem_cons.mp hg with rfl | hg
      · exact hreturns
      · exact hs.returns t g (by rw [ht]; exact List.mem_cons_of_mem f hg)
    · exact hs.returns t' g (hw ▸ hg)
  counted d := by
    have htotal : w.total d = s.total d := by rw [total, hw, total]
    have hchange : (w.setFrames t (f' :: below)).total d =
        s.total d + if f.device = d then f'.used - f.used else 0 := by
      rw [total_setFrames, htotal, hw, ht, held_cons, held_cons, hdevice]
      split <;> omega
    obtain ⟨hle, heq⟩ := hs.counted d
    rw [hchange, show ((w.setFrames t (f' :: below)).useCount d : ℤ) = w.useCount d from rfl, hcount]
    refine ⟨by omega, fun hleaky => ?_⟩
    rw [heq hleaky]

/-- A function returns. -/
theorem pop (hs : Counted leaky s) (ht : s.threads t = f :: below) (hrest : f.rest = []) :
    Counted leaky (s.setFrames t below) where
  returns t' g hg := by
    rcases mem_setFrames hg with hg | hg
    · exact hs.returns t g (by rw [ht]; exact List.mem_cons_of_mem f hg)
    · exact hs.returns t' g hg
  counted d := by
    obtain ⟨hle, heq⟩ := hs.counted d
    obtain ⟨hused, m, hm, hafter, hzero⟩ := hs.returns t f (by rw [ht]; exact List.mem_cons_self)
    rw [hrest, afterAll_nil] at hafter
    have hm' := Option.some.inj hafter
    rw [total_setFrames, ht, held_cons]
    change _ ≤ (s.useCount d : ℤ) ∧ (_ → _ = (s.useCount d : ℤ))
    refine ⟨by split <;> omega, fun hleaky => ?_⟩
    have hnone := hzero hleaky
    have heq := heq hleaky
    split <;> omega

/-- A function is called. -/
theorem call (hs : Counted leaky s) (t : T) (o : Operation) (d : Fin 16)
    (ho : leaky = false → o.leaks = 0) :
    Counted leaky (s.setFrames t (⟨d, [o.body], 0, none⟩ :: s.threads t)) where
  returns t' g hg := by
    rcases mem_setFrames hg with hg | hg
    · rcases List.mem_cons.mp hg with rfl | hg
      · refine ⟨le_rfl, o.leaks, ?_, by simp [after_body], ho⟩
        cases o with
        | isLibCECActiveSource handled => cases handled <;> decide
        | _ => exact le_rfl
      · exact hs.returns t g hg
    · exact hs.returns t' g hg
  counted d' := by
    obtain ⟨hle, heq⟩ := hs.counted d'
    have hnew : held d' (⟨d, [o.body], 0, none⟩ :: s.threads t) = held d' (s.threads t) := by simp
    rw [total_setFrames, hnew]
    change _ ≤ (s.useCount d' : ℤ) ∧ (_ → _ = (s.useCount d' : ℤ))
    refine ⟨by omega, fun hleaky => ?_⟩
    have heq := heq hleaky
    omega

/-- What a function that goes on without counting has to do with the count. -/
theorem keep {w : HandlerUse T} {g : Frame} (hs : Counted leaky s) (ht : s.threads t = f :: below)
    (hw : w.threads = s.threads) (hcount : w.useCount = s.useCount) (hdevice : g.device = f.device)
    (hused : g.used = f.used) (hafter : afterAll g.rest f.used = afterAll f.rest f.used) :
    Counted leaky (w.setFrames t (g :: below)) := by
  obtain ⟨hnonneg, m, hm, hf, hzero⟩ := hs.returns t f (by rw [ht]; exact List.mem_cons_self)
  refine hs.move ht hw hdevice ⟨hused ▸ hnonneg, m, hm, ?_, hzero⟩ fun d => ?_
  · rw [hused, hafter, hf]
  · rw [hcount, hused, sub_self]
    simp

/-- `ReplaceHandler` releases what it marks. -/
theorem replace {rest : List Script} (hs : Counted leaky s) (ht : s.threads t = f :: below)
    (hafter : afterAll rest f.used = afterAll f.rest f.used) :
    Counted leaky (s.replace t f rest below) := by
  obtain ⟨hnonneg, m, hm, hf, hzero⟩ := hs.returns t f (by rw [ht]; exact List.mem_cons_self)
  have hready : afterAll (.markReady :: rest) (f.used + 1) = some m := by
    rw [afterAll_cons, Script.after, if_pos (by omega), Option.bind_some, Int.add_sub_cancel, hafter,
      hf]
  have hcount : ∀ d, ((Function.update s.useCount f.device (s.useCount f.device + 1) d : ℕ) : ℤ) =
      s.useCount d + if f.device = d then f.used + 1 - f.used else 0 := fun d => by
    rcases eq_or_ne d f.device with rfl | hd
    · simp
    · simp [hd, hd.symm]
  simp only [HandlerUse.replace]
  split
  · refine hs.move ht rfl rfl ⟨by simp only; omega, m, hm, ?_, hzero⟩ hcount
    rw [afterAll_cons, after_init, Option.bind_some, hready]
  · exact hs.move ht rfl rfl ⟨by simp only; omega, m, hm, hready, hzero⟩ hcount

theorem advance (hs : Counted leaky s) (ht : s.threads t = f :: below)
    (h : Advances s t f below u) : Counted leaky u := by
  obtain ⟨hnonneg, m, hm, hf, hzero⟩ := hs.returns t f (by rw [ht]; exact List.mem_cons_self)
  cases h with
  | returns hrest => exact hs.pop ht hrest
  | passes hrest =>
    refine hs.keep ht rfl rfl rfl rfl ?_
    rcases hrest with hrest | hrest <;> rw [hrest] <;> rfl
  | marksBusy hrest =>
    rw [hrest] at hf
    refine hs.move ht rfl rfl ⟨by simp only; omega, m, hm, hf, hzero⟩ fun d => ?_
    rcases eq_or_ne d f.device with rfl | hd
    · simp [mark]
    · simp [mark, hd, hd.symm]
  | marksReady hrest =>
    rw [hrest, afterAll_cons, Script.after] at hf
    split at hf
    · next hpos =>
      have hle := hs.used_le ht
      refine hs.move ht rfl rfl ⟨by simp only; omega, m, hm, hf, hzero⟩ fun d => ?_
      rcases eq_or_ne d f.device with rfl | hd
      · simp only [mark, Function.update_self, if_true]
        omega
      · simp [mark, hd, hd.symm]
    · cases hf
  | enters hrest hcalling => exact hs.keep ht rfl rfl rfl rfl rfl
  | leaves hrest hcalling => exact hs.keep ht rfl rfl rfl rfl (by rw [hrest]; rfl)
  | replaces hrest hcan =>
    refine hs.replace ht ?_
    rcases hrest with hrest | hrest
    · rw [hrest]
      rfl
    · rw [hrest, hs.waits ht hrest]
      rfl
  | declined hrest hcan => exact hs.keep ht rfl rfl rfl rfl (by rw [hrest]; rfl)
  | waits hrest hcan => exact hs
  | unfolds hrest =>
    refine hs.keep ht rfl rfl rfl rfl ?_
    simp only [hrest, afterAll_cons, Script.after, Option.bind_assoc]
    rfl

theorem step {a : Action T} (hs : Counted leaky s) (ha : leaky = false → Releases a)
    (h : s.step a = some u) : Counted leaky u := by
  cases a with
  | setVendorId d iVendorId =>
    obtain rfl := Option.some.inj h
    exact ⟨hs.returns, hs.counted⟩
  | call t o d =>
    obtain ⟨-, rfl⟩ := enabled_iff.mp h
    exact hs.call t o d ha
  | next t =>
    obtain ⟨f, below, ht, h⟩ := step_next_iff.mp h
    exact hs.advance ht (advances_of_advance h)
  | choose t first =>
    obtain ⟨f, below, a, b, rest, ht, hrest, rfl⟩ := step_choose_iff.mp h
    obtain ⟨-, m, -, hf, -⟩ := hs.returns t f (by rw [ht]; exact List.mem_cons_self)
    refine hs.keep ht rfl rfl rfl rfl ?_
    rw [hrest, afterAll_cons, Script.after] at hf
    split at hf
    · next hsame =>
      rw [hrest, afterAll_cons, afterAll_cons, Script.after, if_pos hsame]
      split
      · rfl
      · rw [hsame]
    · cases hf

end Counted

end counting

/-! ### Runs -/

section runs

variable [DecidableEq T] {s : HandlerUse T} {t : T}

theorem schedule_choose {d : Fin 16} {a b : Script} {rest : List Script} {n : ℤ}
    {below : List Frame} {v : HandlerUse T} (first : Bool)
    (ht : s.threads t = ⟨d, .choose a b :: rest, n, none⟩ :: below)
    (h : Schedule step
      (s.setFrames t (⟨d, (if first then a else b) :: rest, n, none⟩ :: below)) v) :
    Schedule step s v := by
  have hstep : s.step (.choose t first) =
      some (s.setFrames t (⟨d, (if first then a else b) :: rest, n, none⟩ :: below)) :=
    step_choose_iff.mpr ⟨_, below, a, b, rest, ht, rfl, rfl⟩
  exact (Reaches.tail _ (.refl s) trivial hstep).trans h

theorem schedule_next {f : Frame} {below : List Frame} {u v : HandlerUse T}
    (ht : s.threads t = f :: below) (hu : s.advance t f below = some u)
    (h : Schedule step u v) : Schedule step s v := by
  have hstep : s.step (.next t) = some u := step_next_iff.mpr ⟨f, below, ht, hu⟩
  exact (Reaches.tail _ (.refl s) trivial hstep).trans h

/-- The function does not wait until a handler is replaced. -/
def Script.isPrompt : Script → Bool
  | untilReplaced => false
  | seq a b | choose a b => a.isPrompt && b.isPrompt
  | _ => true

/-- A function that does not wait can go on to its end. -/
theorem completes {d : Fin 16} {below : List Frame} (c : Script) :
    ∀ {s : HandlerUse T} {rest : List Script} {n m : ℤ}, c.isPrompt → c.after n = some m →
      s.threads t = ⟨d, c :: rest, n, none⟩ :: below →
      ∃ v, Schedule step s v ∧ v.threads t = ⟨d, rest, m, none⟩ :: below := by
  induction c with
  | skip | others =>
    intro s rest n m _ hafter ht
    obtain rfl := Option.some.inj hafter
    exact ⟨_, schedule_next ht rfl (.refl _), setFrames_self ..⟩
  | markBusy =>
    intro s rest n m _ hafter ht
    obtain rfl := Option.some.inj hafter
    exact ⟨_, schedule_next ht rfl (.refl _), setFrames_self ..⟩
  | markReady =>
    intro s rest n m _ hafter ht
    rw [Script.after] at hafter
    split at hafter
    · obtain rfl := Option.some.inj hafter
      exact ⟨_, schedule_next ht rfl (.refl _), setFrames_self ..⟩
    · cases hafter
  | callHandler =>
    intro s rest n m _ hafter ht
    obtain rfl := Option.some.inj hafter
    exact ⟨_, schedule_next ht rfl (schedule_next (setFrames_self ..) rfl (.refl _)),
      setFrames_self ..⟩
  | replaceHandler =>
    intro s rest n m _ hafter ht
    obtain rfl := Option.some.inj hafter
    -- `ReplaceHandler` releases what it has marked
    have hready : ∀ {w : HandlerUse T}, w.threads t = ⟨d, .markReady :: rest, n + 1, none⟩ :: below →
        ∃ v, Schedule step w v ∧ v.threads t = ⟨d, rest, n, none⟩ :: below := fun {w} hw =>
      ⟨_, schedule_next hw rfl (.refl _), (setFrames_self ..).trans (by simp)⟩
    cases hcan : s.canReplace d with
    | false =>
      refine ⟨s.setFrames t (⟨d, rest, n, none⟩ :: below), schedule_next ht ?_ (.refl _),
        setFrames_self ..⟩
      simp [advance, hcan]
    | true =>
      let f : Frame := ⟨d, .replaceHandler :: rest, n, none⟩
      have hreplaced : s.advance t f below = some (s.replace t f rest below) := by
        simp [advance, f, hcan]
      have hthreads : (s.replace t f rest below).threads t =
            ⟨d, .init :: .markReady :: rest, n + 1, none⟩ :: below ∨
          (s.replace t f rest below).threads t = ⟨d, .markReady :: rest, n + 1, none⟩ :: below := by
        simp only [replace, f]
        split
        · exact .inl (setFrames_self ..)
        · exact .inr (setFrames_self ..)
      rcases hthreads with hthreads | hthreads
      · obtain ⟨v, hv, hend⟩ := hready (setFrames_self ((s.replace t f rest below).setFrames t
          (⟨d, .skip :: .markReady :: rest, n + 1, none⟩ :: below)) t _)
        refine ⟨v, schedule_next ht hreplaced (schedule_choose false hthreads ?_), hend⟩
        exact schedule_next (setFrames_self ..) rfl hv
      · obtain ⟨v, hv, hend⟩ := hready hthreads
        exact ⟨v, schedule_next ht hreplaced hv, hend⟩
  | untilReplaced =>
    intro s rest n m hprompt
    cases hprompt
  | seq a b iha ihb =>
    intro s rest n m hprompt hafter ht
    obtain ⟨hpa, hpb⟩ := (Bool.and_eq_true_iff).mp hprompt
    obtain ⟨k, hk, hm⟩ := Option.bind_eq_some_iff.mp hafter
    obtain ⟨v, hv, hthreads⟩ :=
      iha hpa hk (setFrames_self s t (⟨d, a :: b :: rest, n, none⟩ :: below))
    obtain ⟨w, hw, hthreads⟩ := ihb hpb hm hthreads
    exact ⟨w, schedule_next ht rfl (hv.trans hw), hthreads⟩
  | choose a b iha ihb =>
    intro s rest n m hprompt hafter ht
    obtain ⟨hpa, -⟩ := (Bool.and_eq_true_iff).mp hprompt
    rw [Script.after] at hafter
    split at hafter
    · obtain ⟨v, hv, hthreads⟩ :=
        iha hpa hafter (setFrames_self s t (⟨d, a :: rest, n, none⟩ :: below))
      exact ⟨v, schedule_choose true ht hv, hthreads⟩
    · cases hafter

end runs

/-- As long as `IsLibCECActiveSource` is not called when libCEC handles the active source, every
    function releases what it marks, and unused handlers can be replaced; any such call can return
    without releasing the handler. -/
theorem handler_uses_balanced [DecidableEq T] [Fintype T] {s : HandlerUse T}
    (h : Reaches step (fun _ => Releases) initial s) :
    s.Balanced ∧ ∀ a u, s.step a = some u → ¬Releases a → ∃ v, Schedule step u v ∧ ¬v.Balanced := by
  have hs : Counted false s :=
    h.invariant (fun hs ha hstep => hs.step (fun _ => ha) hstep) (counted_initial false)
  refine ⟨hs.balanced, fun a u hstep hnot => ?_⟩
  cases a with
  | call t o d =>
    obtain ⟨-, rfl⟩ := enabled_iff.mp hstep
    have hprompt : o.body.isPrompt := by
      cases o with
      | isLibCECActiveSource handled => cases handled <;> rfl
      | _ => exact absurd rfl hnot
    have hcalled : (s.setFrames t (⟨d, [o.body], 0, none⟩ :: s.threads t)).threads t =
        ⟨d, [o.body], 0, none⟩ :: s.threads t := setFrames_self ..
    obtain ⟨v, hv, hthreads⟩ := completes o.body hprompt (after_body o) hcalled
    exact ⟨v, hv, fun hbalanced => hnot (hbalanced.returned t _ _ hthreads rfl)⟩
  | setVendorId d iVendorId | next t | choose t first => exact absurd trivial hnot

/-- Two threads transmit at the same time. -/
theorem handler_uses_balanced_transmit :
    ∃ s : HandlerUse (Fin 2), Reaches step (fun _ => Releases) initial s ∧ s.Balanced := by
  let schedule : List (Action (Fin 2)) :=
    [.call 0 .standby 0, .call 1 .transmitKeypress 0, .next 0, .next 1, .next 0, .next 1, .next 0,
      .next 1, .next 0, .next 1, .next 0, .next 1]
  have hperform : (perform step initial schedule).isSome := by decide
  obtain ⟨s, hs⟩ := Option.isSome_iff_exists.mp hperform
  have hmeets : Meets step (fun _ => Releases) initial schedule := by
    have hreleases : ∀ a ∈ schedule, Releases a := by
      simp [schedule, Releases, Operation.leaks]
    exact meets_of_forall fun a ha _ => hreleases a ha
  have hrun := reaches_of_perform hmeets hs
  exact ⟨s, hrun, (handler_uses_balanced hrun).1⟩

/-- A client asks whether libCEC is the active source, and it is. -/
theorem handler_kept_in_use : ¬∀ s : HandlerUse (Fin 1), Schedule step initial s → s.Balanced := by
  intro hall
  have hperform : (perform step (initial : HandlerUse (Fin 1))
      (.call 0 (.isLibCECActiveSource true) 4 :: List.replicate 16 (.next 0))).any
        fun s => s.threads 0 = [] && s.useCount 4 = 1 := by decide
  obtain ⟨s, hs, hend⟩ := (Option.any_eq_true _ _).mp hperform
  obtain ⟨hidle, hcount⟩ := Bool.and_eq_true_iff.mp hend
  have hquiet : s.Quiescent := fun t => by
    rw [Subsingleton.elim t 0]
    exact of_decide_eq_true hidle
  have hzero := ((hall s (schedule_of_perform hs)).quiescent hquiet 4).1
  rw [of_decide_eq_true hcount] at hzero
  cases hzero

end HandlerUse

end CEC
