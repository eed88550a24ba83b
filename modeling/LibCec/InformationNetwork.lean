import LibCec.InformationExchange
import LibCec.Schemes.SingleWriter

/-! Libraries on one bus that tell each other about their devices.

    Each library handles some of the devices and has a record of every device. A function that
    transmits what a record holds reads it first, and transmits the command later; the others receive
    it unless it is lost, and handle what each device sends in its order.

        client ──▶ own record ──read──▶ thread ──transmit──▶ queues ──handle──▶ records of the others
                                                    │                               │
                                                    └▶ lost                reset ◀──┘

    Any thread may call any of the functions at any time, to answer a request or not. As long as no
    two threads transmit the same thing at the same time, the others never go back to what a device
    told earlier (`views_in_order`). What the handlers of some vendors assume about their devices, a
    power status, a version and a language, is not told. -/

namespace CEC
open Schemes

namespace Information

variable {ι τ : Type}

/-! ### The bus -/

/-- A call that has built its command, and has not transmitted it. -/
structure Pending where
  device : Fin 16
  call : TransmitCall
  command : Command

/-- The libraries: what they hold, the handlers of their devices, their threads, and what they have
    received and not handled yet. -/
structure Network (ι τ : Type) where
  records : ι → Records
  handlers : ι → Fin 16 → Handler
  threads : ι → τ → Option Pending
  queues : ι → Fin 16 → List Received

/-- Everything is as the constructors leave it. -/
def Network.start : Network ι τ :=
  ⟨fun _ => DeviceInfo.initial, fun _ _ => .base, fun _ _ => none, fun _ _ => []⟩

/-- What happens next: a library changes what a device of its own holds; a thread builds a command; it
    transmits it, and some libraries receive it; a library handles what a device of another one has
    sent, with the clients that it has then; it makes a handler for the vendor of the device; or it
    resets the record of a device that has left. -/
inductive BusEvent (ι τ : Type)
  | configure (a : Fin 16) (d : DeviceInfo)
  | build (a : Fin 16) (t : τ) (x : TransmitCall)
  | transmit (i : ι) (t : τ) (receivers : ι → Bool)
  | handle (j : ι) (a : Fin 16) (l : Listener)
  | replaceHandler (j : ι) (a : Fin 16)
  | reset (j : ι) (a : Fin 16)

/-- What the constructor of a handler stores about its device: LG's knows better than the device. -/
def DeviceInfo.preset (d : DeviceInfo) : Handler → DeviceInfo
  | .sl => (d.setCecVersion 0x05).setMenuLanguage [0x65, 0x6E, 0x67]
  | _ => d

namespace Network

variable (n : Network ι τ)

/-- The record that a library has of a device is changed. -/
def setRecord [DecidableEq ι] (i : ι) (a : Fin 16) (d : DeviceInfo) : Network ι τ :=
  { n with records := Function.update n.records i (Function.update (n.records i) a d) }

def setThread [DecidableEq ι] [DecidableEq τ] (i : ι) (t : τ) (p : Option Pending) : Network ι τ :=
  { n with threads := Function.update n.threads i (Function.update (n.threads i) t p) }

/-- A command is queued by the libraries that receive it. -/
def push [DecidableEq ι] (i : ι) (receivers : ι → Bool) (r : Received) : Network ι τ :=
  { n with queues := fun j a =>
      if j ≠ i ∧ receivers j = true ∧ a = r.initiator then n.queues j a ++ [r] else n.queues j a }

def setQueue [DecidableEq ι] (j : ι) (a : Fin 16) (rs : List Received) : Network ι τ :=
  { n with queues := Function.update n.queues j (Function.update (n.queues j) a rs) }

def setHandler [DecidableEq ι] (j : ι) (a : Fin 16) (h : Handler) : Network ι τ :=
  { n with handlers := Function.update n.handlers j (Function.update (n.handlers j) a h) }

/-- One step, for the libraries that handle the devices. -/
def step [DecidableEq ι] [DecidableEq τ] (owner : Fin 16 → Option ι) (n : Network ι τ) :
    BusEvent ι τ → Option (Network ι τ)
  | .configure a d => (owner a).map fun i => n.setRecord i a d
  | .build a t x => (owner a).bind fun i =>
      if (n.threads i t).isNone then
        some (n.setThread i t (((n.records i a).transmit a x).map fun c => ⟨a, x, c⟩))
      else none
  | .transmit i t receivers => (n.threads i t).bind fun p =>
      (arrived p.command).map fun r => (n.setThread i t none).push i receivers r
  | .handle j a l =>
      match n.queues j a with
      | [] => none
      | r :: rs => ((n.records j).handle r (n.handlers j a) l).map fun p =>
          { n.setQueue j a rs with records := Function.update n.records j p.1 }
  | .replaceHandler j a =>
      if owner a = some j ∨ a = 15 then none
      else (specificHandler (n.records j a).vendor).bind fun h =>
        if n.handlers j a = h then none
        else some ((n.setHandler j a h).setRecord j a ((n.records j a).preset h))
  | .reset j a =>
      if owner a = some j then none else some (n.setRecord j a ((n.records j a).resetDeviceStatus a))

/-- The topics that no handler makes an assumption about. -/
def OnlyTold (t : Topic) : Prop := t ≠ .powerStatus ∧ t ≠ .cecVersion ∧ t ≠ .menuLanguage

/-- What is configured fits where it is stored, and a thread only builds a command when no other one
    is about to transmit the same thing about the device. Where a handler may assume something about
    the topic, no handler is replaced. -/
def Alone (owner : Fin 16 → Option ι) (t : Topic) (n : Network ι τ) : BusEvent ι τ → Prop
  | .configure _ d => d.Fits
  | .build a u x => ∀ i, owner a = some i → ∀ u' p, u' ≠ u → n.threads i u' = some p → p.device = a →
      p.call.topic ≠ x.topic
  | .replaceHandler _ _ => OnlyTold t
  | _ => True

/-- What a library has known about a device. -/
def views (j : ι) (a : Fin 16) (t : Topic) (trace : List (Network ι τ)) : List Told :=
  (trace.map fun n => (n.records j a).get t).filter (· ≠ (DeviceInfo.initial a).get t)

/-- What the library that handles a device could tell about it. -/
def tellings (i : ι) (a : Fin 16) (t : Topic) (trace : List (Network ι τ)) : List Told :=
  trace.filterMap fun n => (n.records i a).told t

/-- What is on the way to a library. -/
def onTheWay (t : Topic) (rs : List Received) : List Told :=
  (rs.filterMap heardIn).filter (·.topic = t)

variable {owner : Fin 16 → Option ι} {n m : Network ι τ} {i j : ι} {a b : Fin 16} {t : Topic}

theorem views_concat (trace : List (Network ι τ)) (m : Network ι τ) :
    views j a t (trace ++ [m]) = views j a t trace ++
      [(m.records j a).get t].filter (· ≠ (DeviceInfo.initial a).get t) := by
  rw [views, List.map_append, List.filter_append]
  rfl

theorem tellings_concat (trace : List (Network ι τ)) (m : Network ι τ) :
    tellings i a t (trace ++ [m]) = tellings i a t trace ++ ((m.records i a).told t).toList := by
  rw [tellings, List.filterMap_append]
  cases htold : (m.records i a).told t with
  | none => simp [tellings, htold]
  | some v => simp [tellings, htold]

/-- Nothing new is known. -/
theorem picked_of_kept {before : List (Network ι τ)} {more later : List Told}
    {history : List Told} (h : PickedFrom (views j a t (before ++ [n]) ++ more) history)
    (hkept : (m.records j a).get t = (n.records j a).get t ∨
      (m.records j a).get t = (DeviceInfo.initial a).get t) :
    PickedFrom (views j a t (before ++ [n] ++ [m]) ++ more) (history ++ later) := by
  refine PickedFrom.append ?_ later
  rw [views_concat (before ++ [n])]
  by_cases hunknown : (m.records j a).get t = (DeviceInfo.initial a).get t
  · simpa [hunknown] using h
  · have hsame := hkept.resolve_right hunknown
    rw [views_concat] at h ⊢
    have hknown : (n.records j a).get t ≠ (DeviceInfo.initial a).get t := hsame ▸ hunknown
    simp only [hsame, List.filter_cons, List.filter_nil, hknown, ne_eq, not_false_eq_true,
      decide_true, if_true, List.append_assoc, List.singleton_append] at h ⊢
    exact h.again

/-! ### What the commands carry -/

/-- A command of the device that is handled by its record learning what it tells. -/
def Readable (a : Fin 16) (r : Received) : Prop :=
  r.initiator = a ∧ ∀ s : Records, ∃ k, s.baseHandle r = some (s.hear a (heardIn r), k)

/-- The command that was built tells what the record held, about the topic of the call or nothing. -/
def Carries (p : Pending) (r : Received) : Prop :=
  Readable p.device r ∧ ∀ v, heardIn r = some v → v.topic = p.call.topic

theorem exists_carried {d : DeviceInfo} {a : Fin 16} {x : TransmitCall} {c : Command}
    (h : d.transmit a x = some c) (hfits : d.Fits) :
    ∃ r, arrived c = some r ∧ Carries ⟨a, x, c⟩ r ∧ heardIn r = d.told x.topic := by
  obtain ⟨dest, opcode, parameters, rfl, hopcode, hlen, -, htells⟩ := exists_built h hfits
  obtain ⟨r, harrived, hinitiator, hr, hparameters, -⟩ :=
    @arrived_built a dest opcode parameters hopcode hlen
  obtain ⟨hheard, hhandle⟩ := htells r hinitiator hr hparameters
  refine ⟨r, harrived, ⟨⟨hinitiator, fun s => ?_⟩, fun v hv => ?_⟩, hheard⟩
  · rw [hheard]
    exact ⟨_, hhandle s⟩
  · exact topic_of_told (hheard.symm.trans hv)

/-- The state of the bus is as the functions of the devices leave it. -/
structure Sound (owner : Fin 16 → Option ι) (n : Network ι τ) : Prop where
  fits : ∀ a i, owner a = some i → (n.records i a).Fits
  pending : ∀ i u p, n.threads i u = some p → owner p.device = some i ∧
    ∃ r, arrived p.command = some r ∧ Carries p r
  queued : ∀ j a, ∀ r ∈ n.queues j a, Readable a r
  ownQueue : ∀ a i, owner a = some i → n.queues i a = []

theorem sound_start : Sound owner (start : Network ι τ) where
  fits a _ _ := ⟨Nat.le_refl 3, OSDNames.length_logicalAddressName_lt a⟩
  pending _ _ _ h := absurd h (Option.some_ne_none _).symm
  queued _ _ _ h := absurd h List.not_mem_nil
  ownQueue _ _ _ := rfl

/-- A record that has learnt what was heard, if anything. -/
def hearing (d : DeviceInfo) : Option Told → DeviceInfo
  | some v => d.learn v
  | none => d

theorem hear_eq_update (s : Records) (a : Fin 16) (g : Option Told) :
    s.hear a g = Function.update s a (hearing (s a) g) := by
  cases g with
  | none => exact (Function.update_eq_self a s).symm
  | some v => rfl

theorem hear_woken_eq_update (s : Records) (h : Handler) (l : Listener) (r : Received)
    (g : Option Told) : (s.woken h l r).hear r.initiator g =
      Function.update s r.initiator (hearing (s.woken h l r r.initiator) g) := by
  rw [hear_eq_update, Records.woken]
  by_cases hwakes : l.wakes h r
  · rw [if_pos hwakes, Records.powerOn, Function.update_idem]
  · rw [if_neg hwakes]

/-! ### The order of what is known -/

/-- Two libraries, a device that the first one handles, and a topic: what the second one has known, what
    is on the way to it and what a thread is about to transmit is what the device held, in order. -/
structure Ordered (i j : ι) (a : Fin 16) (t : Topic) (trace : List (Network ι τ)) (n : Network ι τ) :
    Prop where
  alone : ∀ u u' p p', n.threads i u = some p → n.threads i u' = some p' → p.device = a →
    p'.device = a → p.call.topic = t → p'.call.topic = t → u = u'
  known : PickedFrom (views j a t trace ++ onTheWay t (n.queues j a)) (tellings i a t trace)
  building : ∀ u p r, n.threads i u = some p → p.device = a → p.call.topic = t →
    arrived p.command = some r → PickedFrom
      (views j a t trace ++ (onTheWay t (n.queues j a) ++ onTheWay t [r])) (tellings i a t trace)

/-- No handler assumes anything about the topic. -/
def Naive (t : Topic) (n : Network ι τ) : Prop := OnlyTold t ∨ ∀ k b, n.handlers k b = .base

theorem Naive.get_woken (h : Naive t n) (s : Records) (k : ι) (a : Fin 16) (l : Listener) (r : Received)
    (b : Fin 16) : (s.woken (n.handlers k a) l r b).get t = (s b).get t := by
  refine (Information.get_woken s _ l r b t).resolve_right fun ⟨_, ht, hwakes⟩ => ?_
  rcases h with h | h
  · exact h.1 ht
  · rw [h] at hwakes
    cases hwakes

theorem get_preset (h : OnlyTold t) (d : DeviceInfo) (v : Handler) : (d.preset v).get t = d.get t := by
  obtain ⟨-, hversion, hlanguage⟩ := h
  cases v with
  | sl =>
    cases t with
    | cecVersion => exact absurd rfl hversion
    | menuLanguage => exact absurd rfl hlanguage
    | _ => rfl
  | _ => rfl

/-- Nothing that this is about changes, but that the library forgets. -/
theorem Ordered.kept {before : List (Network ι τ)} (h : Ordered i j a t (before ++ [n]) n)
    (hrecord : (m.records j a).get t = (n.records j a).get t ∨
      (m.records j a).get t = (DeviceInfo.initial a).get t)
    (hqueue : onTheWay t (m.queues j a) = onTheWay t (n.queues j a))
    (hthreads : ∀ u p, m.threads i u = some p → p.device = a → p.call.topic = t →
      n.threads i u = some p) : Ordered i j a t (before ++ [n] ++ [m]) m := by
  refine ⟨fun u u' p p' hp hp' hd hd' ht ht' => ?_, ?_, fun u p r hp hd ht hr => ?_⟩
  · exact h.alone u u' p p' (hthreads u p hp hd ht) (hthreads u' p' hp' hd' ht') hd hd' ht ht'
  · rw [hqueue, tellings_concat]
    exact picked_of_kept h.known hrecord
  · rw [hqueue, tellings_concat]
    exact picked_of_kept (h.building u p r (hthreads u p hp hd ht) hd ht hr) hrecord

theorem onTheWay_append (rs qs : List Received) :
    onTheWay t (rs ++ qs) = onTheWay t rs ++ onTheWay t qs := by
  rw [onTheWay, List.filterMap_append, List.filter_append]
  rfl

/-- A command about something else. -/
theorem onTheWay_other {p : Pending} {r : Received} (hr : Carries p r) (ht : p.call.topic ≠ t) :
    onTheWay t [r] = [] := by
  cases hheard : heardIn r with
  | none => simp [onTheWay, hheard]
  | some v =>
    have hv : v.topic ≠ t := by rwa [hr.2 v hheard]
    simp [onTheWay, hheard, hv]

/-- The record after it has heard a command. -/
theorem get_hearing (d : DeviceInfo) (r : Received) :
    onTheWay t [r] = [(hearing d (heardIn r)).get t] ∨
      onTheWay t [r] = [] ∧ (hearing d (heardIn r)).get t = d.get t := by
  cases hheard : heardIn r with
  | none => exact .inr ⟨by simp [onTheWay, hheard], rfl⟩
  | some v =>
    obtain ⟨hself, hothers⟩ := get_learn d v
    by_cases hv : v.topic = t
    · subst hv
      exact .inl (by simp [onTheWay, hheard, hearing, hself])
    · exact .inr ⟨by simp [onTheWay, hheard, hv], hothers t (Ne.symm hv)⟩

/-- A record that is reset forgets what a device has told, or keeps it. -/
theorem get_reset (d : DeviceInfo) : (d.resetDeviceStatus a).get t = d.get t ∨
    (d.resetDeviceStatus a).get t = (DeviceInfo.initial a).get t := by
  cases t with
  | cecVersion | osdName | powerStatus | vendorId => exact .inr rfl
  | _ => exact .inl rfl

/-- A library learns what was on the way. -/
theorem Ordered.learnt {before : List (Network ι τ)} (h : Ordered i j a t (before ++ [n]) n)
    {r : Received} {rs : List Received} (hqueue : n.queues j a = r :: rs)
    (hrest : m.queues j a = rs) (htold : onTheWay t [r] = [(m.records j a).get t])
    (hthreads : m.threads = n.threads) : Ordered i j a t (before ++ [n] ++ [m]) m := by
  have hway : onTheWay t (n.queues j a) = [(m.records j a).get t] ++ onTheWay t rs := by
    rw [hqueue, ← htold, ← onTheWay_append]
    rfl
  -- what is known now was told, unless it is what is known of no device
  have hviews : ∀ more, (views j a t (before ++ [n] ++ [m]) ++ more).Sublist
      (views j a t (before ++ [n]) ++ ([(m.records j a).get t] ++ more)) := by
    intro more
    rw [views_concat (before ++ [n]), List.append_assoc]
    exact (List.Sublist.refl _).append (List.filter_sublist.append (List.Sublist.refl _))
  refine ⟨?_, ?_, fun u p q hp hd ht hq => ?_⟩
  · rw [hthreads]
    exact h.alone
  · rw [hrest, tellings_concat]
    refine (h.known.sublist ?_).append _
    rw [hway]
    exact hviews _
  · rw [hthreads] at hp
    rw [hrest, tellings_concat]
    refine ((h.building u p q hp hd ht hq).sublist ?_).append _
    rw [hway, List.append_assoc [_]]
    exact hviews _

/-! ### The steps -/

variable [DecidableEq ι]

theorem setRecord_self (d : DeviceInfo) : (n.setRecord i a d).records i a = d := by
  simp [setRecord]

theorem setRecord_other {d : DeviceInfo} (h : ¬(j = i ∧ b = a)) :
    (n.setRecord i a d).records j b = n.records j b := by
  rcases eq_or_ne j i with rfl | hj
  · have hb : b ≠ a := fun hb => h ⟨rfl, hb⟩
    simp [setRecord, hb]
  · simp [setRecord, hj]

theorem setQueue_self (rs : List Received) : (n.setQueue i a rs).queues i a = rs := by
  simp [setQueue]

theorem setQueue_other {rs : List Received} (h : ¬(j = i ∧ b = a)) :
    (n.setQueue i a rs).queues j b = n.queues j b := by
  rcases eq_or_ne j i with rfl | hj
  · have hb : b ≠ a := fun hb => h ⟨rfl, hb⟩
    simp [setQueue, hb]
  · simp [setQueue, hj]

/-- Only the library that handles a device changes what it holds about itself. -/
theorem Sound.setRecord (h : Sound owner n) {d : DeviceInfo}
    (hd : owner a = some i → d.Fits) : Sound owner (n.setRecord i a d) := by
  refine ⟨fun b k hb => ?_, h.pending, h.queued, h.ownQueue⟩
  by_cases hk : k = i ∧ b = a
  · obtain ⟨rfl, rfl⟩ := hk
    rw [setRecord_self]
    exact hd hb
  · rw [setRecord_other hk]
    exact h.fits b k hb

theorem Sound.push (h : Sound owner n) {r : Received} (hi : owner r.initiator = some i)
    (hr : Readable r.initiator r) (receivers : ι → Bool) : Sound owner (n.push i receivers r) := by
  refine ⟨h.fits, h.pending, fun k b q hq => ?_, fun b k hb => ?_⟩
  · rw [Network.push] at hq
    simp only at hq
    split at hq
    · next hto =>
      rcases List.mem_append.mp hq with hq | hq
      · exact h.queued k b q hq
      · obtain rfl := List.mem_singleton.mp hq
        rw [hto.2.2]
        exact hr
    · exact h.queued k b q hq
  · rw [Network.push]
    simp only
    split
    · next hto =>
      -- the library that transmits does not receive its own command
      rw [hto.2.2] at hb
      exact absurd (Option.some.inj (hb.symm.trans hi)) hto.1
    · exact h.ownQueue b k hb

theorem Sound.setQueue (h : Sound owner n) {r : Received} {rs : List Received}
    (hqueue : n.queues j a = r :: rs) : Sound owner (n.setQueue j a rs) := by
  refine ⟨h.fits, h.pending, fun k b q hq => ?_, fun b k hb => ?_⟩
  · by_cases hk : k = j ∧ b = a
    · obtain ⟨rfl, rfl⟩ := hk
      rw [setQueue_self] at hq
      exact h.queued k b q (hqueue ▸ List.mem_cons_of_mem r hq)
    · rw [setQueue_other hk] at hq
      exact h.queued k b q hq
  · by_cases hk : k = j ∧ b = a
    · obtain ⟨rfl, rfl⟩ := hk
      rw [h.ownQueue b k hb] at hqueue
      cases hqueue
    · rw [setQueue_other hk]
      exact h.ownQueue b k hb

theorem Sound.setHandler (h : Sound owner n) {v : Handler} : Sound owner (n.setHandler j a v) :=
  ⟨h.fits, h.pending, h.queued, h.ownQueue⟩

variable [DecidableEq τ]

theorem setThread_self (u : τ) (p : Option Pending) : (n.setThread i u p).threads i u = p := by
  simp [setThread]

theorem setThread_other {u u' : τ} {p : Option Pending} (h : ¬(j = i ∧ u' = u)) :
    (n.setThread i u p).threads j u' = n.threads j u' := by
  rcases eq_or_ne j i with rfl | hj
  · have hu : u' ≠ u := fun hu => h ⟨rfl, hu⟩
    simp [setThread, hu]
  · simp [setThread, hj]

theorem Sound.setThread (h : Sound owner n) {u : τ} {p : Option Pending}
    (hp : ∀ q, p = some q → owner q.device = some i ∧ ∃ r, arrived q.command = some r ∧ Carries q r) :
    Sound owner (n.setThread i u p) := by
  refine ⟨h.fits, fun k u' q hq => ?_, h.queued, h.ownQueue⟩
  by_cases hk : k = i ∧ u' = u
  · obtain ⟨rfl, rfl⟩ := hk
    rw [setThread_self] at hq
    exact hp q hq
  · rw [setThread_other hk] at hq
    exact h.pending k u' q hq

/-- All that a step can do. -/
theorem step_cases {e : BusEvent ι τ} (h : Sound owner n) (hstep : n.step owner e = some m) :
    (∃ a d i, e = .configure a d ∧ owner a = some i ∧ m = n.setRecord i a d) ∨
    (∃ a u x i, e = .build a u x ∧ owner a = some i ∧
      m = n.setThread i u (((n.records i a).transmit a x).map fun c => ⟨a, x, c⟩)) ∨
    (∃ i u receivers p r, e = .transmit i u receivers ∧ n.threads i u = some p ∧
      owner p.device = some i ∧ arrived p.command = some r ∧ Carries p r ∧
      m = (n.setThread i u none).push i receivers r) ∨
    (∃ j a l r rs, e = .handle j a l ∧ owner a ≠ some j ∧ n.queues j a = r :: rs ∧
      m = (n.setQueue j a rs).setRecord j a
        (hearing ((n.records j).woken (n.handlers j a) l r a) (heardIn r))) ∨
    (∃ j a h, e = .replaceHandler j a ∧ owner a ≠ some j ∧
      m = (n.setHandler j a h).setRecord j a ((n.records j a).preset h)) ∨
    (∃ j a, e = .reset j a ∧ owner a ≠ some j ∧
      m = n.setRecord j a ((n.records j a).resetDeviceStatus a)) := by
  cases e with
  | configure a d =>
    obtain ⟨i, hi, rfl⟩ := Option.map_eq_some_iff.mp hstep
    exact .inl ⟨a, d, i, rfl, hi, rfl⟩
  | build a u x =>
    obtain ⟨i, hi, hbuild⟩ := Option.bind_eq_some_iff.mp hstep
    obtain ⟨-, hm⟩ := Option.ite_none_right_eq_some.mp hbuild
    exact .inr (.inl ⟨a, u, x, i, rfl, hi, (Option.some.inj hm).symm⟩)
  | transmit i u receivers =>
    obtain ⟨p, hp, hsent⟩ := Option.bind_eq_some_iff.mp hstep
    obtain ⟨r, hr, rfl⟩ := Option.map_eq_some_iff.mp hsent
    obtain ⟨howner, r', hr', hcarries⟩ := h.pending i u p hp
    obtain rfl := Option.some.inj (hr.symm.trans hr')
    exact .inr (.inr (.inl ⟨i, u, receivers, p, r, rfl, hp, howner, hr, hcarries, rfl⟩))
  | handle j a l =>
    rw [step] at hstep
    cases hqueue : n.queues j a with
    | nil =>
      rw [hqueue] at hstep
      cases hstep
    | cons r rs =>
      rw [hqueue] at hstep
      obtain ⟨p, hp, rfl⟩ := Option.map_eq_some_iff.mp hstep
      obtain ⟨rfl, hhandle⟩ := h.queued j a r (hqueue ▸ List.mem_cons_self)
      rw [Records.handle_eq] at hp
      obtain ⟨-, hp⟩ := Option.ite_none_left_eq_some.mp hp
      obtain ⟨k, hk⟩ := hhandle ((n.records j).woken (n.handlers j r.initiator) l r)
      obtain rfl := Option.some.inj (hp.symm.trans hk)
      have hforeign : owner r.initiator ≠ some j := fun hown => by
        rw [h.ownQueue r.initiator j hown] at hqueue
        cases hqueue
      refine .inr (.inr (.inr (.inl ⟨j, r.initiator, l, r, rs, rfl, hforeign, hqueue, ?_⟩)))
      simp only [setRecord, setQueue, hear_woken_eq_update]
  | replaceHandler j a =>
    obtain ⟨hforeign, hmade⟩ := Option.ite_none_left_eq_some.mp hstep
    obtain ⟨h', -, hmade⟩ := Option.bind_eq_some_iff.mp hmade
    obtain ⟨-, hm⟩ := Option.ite_none_left_eq_some.mp hmade
    exact .inr (.inr (.inr (.inr (.inl
      ⟨j, a, h', rfl, (not_or.mp hforeign).1, (Option.some.inj hm).symm⟩))))
  | reset j a =>
    obtain ⟨hforeign, hm⟩ := Option.ite_none_left_eq_some.mp hstep
    exact .inr (.inr (.inr (.inr (.inr ⟨j, a, rfl, hforeign, (Option.some.inj hm).symm⟩))))

theorem Sound.step {e : BusEvent ι τ} (h : Sound owner n) (halone : Alone owner t n e)
    (hstep : n.step owner e = some m) : Sound owner m := by
  obtain ⟨a, d, i, rfl, -, rfl⟩ | ⟨a, u, x, i, rfl, hi, rfl⟩ |
    ⟨i, u, receivers, p, r, rfl, -, howner, -, ⟨hreadable, -⟩, rfl⟩ |
    ⟨j, a, l, r, rs, rfl, hforeign, hqueue, rfl⟩ | ⟨j, a, h', rfl, hforeign, rfl⟩ |
    ⟨j, a, rfl, hforeign, rfl⟩ := step_cases h hstep
  · exact h.setRecord fun _ => halone
  · refine h.setThread fun q hq => ?_
    obtain ⟨c, hc, rfl⟩ := Option.map_eq_some_iff.mp hq
    obtain ⟨r, hr, hcarries, -⟩ := exists_carried hc (h.fits a i hi)
    exact ⟨hi, r, hr, hcarries⟩
  · have hto := hreadable.1
    have hclear : Sound owner (n.setThread i u none) := h.setThread fun q hq => by cases hq
    refine hclear.push ?_ ?_ receivers
    · rwa [hto]
    · rwa [hto]
  · exact (h.setQueue hqueue).setRecord fun hown => absurd hown hforeign
  · exact h.setHandler.setRecord fun hown => absurd hown hforeign
  · exact h.setRecord fun hown => absurd hown hforeign

/-! ### The order of what is known -/

/-- A thread builds a command about the topic. -/
theorem Ordered.built {before : List (Network ι τ)} (h : Ordered i j a t (before ++ [n]) n)
    (hfits : (n.records i a).Fits) {u : τ} {x : TransmitCall} (hx : x.topic = t)
    (halone : ∀ u' p, u' ≠ u → n.threads i u' = some p → p.device = a → p.call.topic ≠ t) :
    Ordered i j a t
      (before ++ [n] ++ [n.setThread i u (((n.records i a).transmit a x).map fun c => ⟨a, x, c⟩)])
      (n.setThread i u (((n.records i a).transmit a x).map fun c => ⟨a, x, c⟩)) := by
  have honly : ∀ u' p, (n.setThread i u (((n.records i a).transmit a x).map fun c =>
      ⟨a, x, c⟩)).threads i u' = some p → p.device = a → p.call.topic = t → u' = u := by
    intro u' p hp hd ht
    by_contra hne
    rw [setThread_other fun hself => hne hself.2] at hp
    exact halone u' p hne hp hd ht
  refine ⟨fun u₁ u₂ p₁ p₂ hp₁ hp₂ hd₁ hd₂ ht₁ ht₂ => ?_, ?_, fun u' p r hp hd ht hr => ?_⟩
  · rw [honly u₁ p₁ hp₁ hd₁ ht₁, honly u₂ p₂ hp₂ hd₂ ht₂]
  · rw [tellings_concat]
    exact picked_of_kept h.known (.inl rfl)
  · obtain rfl := honly u' p hp hd ht
    rw [setThread_self] at hp
    obtain ⟨c, hc, rfl⟩ := Option.map_eq_some_iff.mp hp
    obtain ⟨r', hr', -, hheard⟩ := exists_carried hc hfits
    obtain rfl := Option.some.inj (hr.symm.trans hr')
    rw [tellings_concat]
    -- the command tells what the record holds now
    cases htold : (n.records i a).told t with
    | none =>
      have hnothing : onTheWay t [r] = [] := by simp [onTheWay, hheard, hx, htold]
      rw [hnothing, List.append_nil]
      exact picked_of_kept h.known (.inl rfl)
    | some v =>
      have hone : onTheWay t [r] = [v] := by
        simp [onTheWay, hheard, hx, htold, topic_of_told htold]
      have htoldNow : ((n.setThread i u' (((n.records i a).transmit a x).map fun c =>
          ⟨a, x, c⟩)).records i a).told t = some v := htold
      rw [hone, ← List.append_assoc, htoldNow]
      refine PickedFrom.concat (picked_of_kept h.known ?_)
      exact .inl rfl

/-- A thread transmits what it has built. -/
theorem Ordered.sent {before : List (Network ι τ)} (h : Ordered i j a t (before ++ [n]) n)
    {k : ι} {u : τ} {p : Pending} {r : Received} (hp : n.threads k u = some p)
    (hown : p.device = a → k = i) (hr : arrived p.command = some r) (hcarries : Carries p r)
    (receivers : ι → Bool) : Ordered i j a t
      (before ++ [n] ++ [(n.setThread k u none).push k receivers r])
      ((n.setThread k u none).push k receivers r) := by
  have hthreads : ∀ u' p', ((n.setThread k u none).push k receivers r).threads i u' = some p' →
      n.threads i u' = some p' ∧ ¬(i = k ∧ u' = u) := by
    intro u' p' hp'
    by_cases hself : i = k ∧ u' = u
    · obtain ⟨rfl, rfl⟩ := hself
      exact absurd ((setThread_self u' none).symm.trans hp') (Option.some_ne_none _).symm
    · exact ⟨(setThread_other hself).symm.trans hp', hself⟩
  by_cases hto : j ≠ k ∧ receivers j = true ∧ a = r.initiator
  · have hqueue : ((n.setThread k u none).push k receivers r).queues j a = n.queues j a ++ [r] :=
      if_pos hto
    have hd : p.device = a := hcarries.1.1.symm.trans hto.2.2.symm
    obtain rfl := hown hd
    by_cases ht : p.call.topic = t
    · have hknown := h.building u p r hp hd ht hr
      refine ⟨fun u₁ u₂ p₁ p₂ hp₁ hp₂ => h.alone u₁ u₂ p₁ p₂ (hthreads u₁ p₁ hp₁).1
        (hthreads u₂ p₂ hp₂).1, ?_, fun u' p' q hp' hd' ht' _ => ?_⟩
      · rw [hqueue, onTheWay_append, tellings_concat]
        exact picked_of_kept hknown (.inl rfl)
      · obtain ⟨hp', hother⟩ := hthreads u' p' hp'
        exact absurd ⟨rfl, h.alone u' u p' p hp' hp hd' hd ht' ht⟩ hother
    · refine h.kept (.inl rfl) ?_ fun u' p' hp' _ _ => (hthreads u' p' hp').1
      rw [hqueue, onTheWay_append, onTheWay_other hcarries ht, List.append_nil]
  · exact h.kept (.inl rfl) (congrArg (onTheWay t) (if_neg hto))
      fun u' p' hp' _ _ => (hthreads u' p' hp').1

theorem Ordered.step {before : List (Network ι τ)} {e : BusEvent ι τ} (hsound : Sound owner n)
    (hnaive : Naive t n) (h : Ordered i j a t (before ++ [n]) n) (hi : owner a = some i) (hij : i ≠ j)
    (halone : Alone owner t n e) (hstep : n.step owner e = some m) :
    Ordered i j a t (before ++ [n] ++ [m]) m := by
  have hforeign : owner a ≠ some j := fun hj => hij (Option.some.inj (hi.symm.trans hj))
  obtain ⟨b, d, k, rfl, hk, rfl⟩ | ⟨b, u, x, k, rfl, hk, rfl⟩ |
    ⟨k, u, receivers, p, r, rfl, hp, hk, hr, hcarries, rfl⟩ |
    ⟨k, b, l, r, rs, rfl, hk, hqueue, rfl⟩ | ⟨k, b, v, rfl, hk, rfl⟩ | ⟨k, b, rfl, hk, rfl⟩ :=
    step_cases hsound hstep
  · -- `configure`
    have hrecord : (n.setRecord k b d).records j a = n.records j a := setRecord_other fun hjk => by
      rw [hjk.1, hjk.2] at hforeign
      exact hforeign hk
    exact h.kept (.inl (by rw [hrecord])) rfl fun _ _ hp _ _ => hp
  · -- `build`
    by_cases hbt : b = a ∧ x.topic = t
    · obtain ⟨rfl, hx⟩ := hbt
      obtain rfl := Option.some.inj (hi.symm.trans hk)
      refine h.built (hsound.fits b i hi) hx fun u' p hne hp hd => ?_
      rw [← hx]
      exact halone i hi u' p hne hp hd
    · refine h.kept (.inl rfl) rfl fun u' p hp hd ht => ?_
      by_cases hself : i = k ∧ u' = u
      · obtain ⟨rfl, rfl⟩ := hself
        rw [setThread_self] at hp
        obtain ⟨c, -, rfl⟩ := Option.map_eq_some_iff.mp hp
        exact absurd ⟨hd, ht⟩ hbt
      · exact (setThread_other hself).symm.trans hp
  · -- `transmit`
    refine h.sent hp (fun hd => ?_) hr hcarries receivers
    rw [hd] at hk
    exact Option.some.inj (hk.symm.trans hi)
  · -- `handle`
    by_cases hjk : j = k ∧ a = b
    · obtain ⟨rfl, rfl⟩ := hjk
      have hwoken := hnaive.get_woken (n.records j) j a l r a
      rcases get_hearing (t := t) ((n.records j).woken (n.handlers j a) l r a) r with
        htold | ⟨hnothing, hsame⟩
      · refine h.learnt hqueue (setQueue_self rs) ?_ rfl
        rw [setRecord_self]
        exact htold
      · refine h.kept (.inl ?_) ?_ fun _ _ hp _ _ => hp
        · rw [setRecord_self]
          exact hsame.trans hwoken
        · have hrest : ((n.setQueue j a rs).setRecord j a (hearing ((n.records j).woken (n.handlers j a)
              l r a) (heardIn r))).queues j a = rs := setQueue_self rs
          have hone : onTheWay t (r :: rs) = onTheWay t [r] ++ onTheWay t rs := onTheWay_append [r] rs
          rw [hrest, hqueue, hone, hnothing, List.nil_append]
    · refine h.kept (.inl ?_) ?_ fun _ _ hp _ _ => hp
      · rw [setRecord_other hjk]
        rfl
      · exact congrArg (onTheWay t) (setQueue_other hjk)
  · -- `replaceHandler`
    refine h.kept (.inl ?_) rfl fun _ _ hp _ _ => hp
    by_cases hjk : j = k ∧ a = b
    · obtain ⟨rfl, rfl⟩ := hjk
      rw [setRecord_self]
      exact get_preset halone (n.records j a) v
    · rw [setRecord_other hjk]
      rfl
  · -- `reset`
    by_cases hjk : j = k ∧ a = b
    · obtain ⟨rfl, rfl⟩ := hjk
      refine h.kept ?_ rfl fun _ _ hp _ _ => hp
      rw [setRecord_self]
      exact get_reset _
    · exact h.kept (.inl (by rw [setRecord_other hjk])) rfl fun _ _ hp _ _ => hp

/-- A step that keeps the handlers. -/
theorem Naive.step {e : BusEvent ι τ} (hsound : Sound owner n) (h : Naive t n)
    (halone : Alone owner t n e) (hstep : n.step owner e = some m) : Naive t m := by
  obtain ⟨b, d, k, rfl, -, rfl⟩ | ⟨b, u, x, k, rfl, -, rfl⟩ | ⟨k, u, receivers, p, r, rfl, -, -, -, -, rfl⟩ |
    ⟨k, b, l, r, rs, rfl, -, -, rfl⟩ | ⟨k, b, v, rfl, -, rfl⟩ | ⟨k, b, rfl, -, rfl⟩ :=
    step_cases hsound hstep
  · exact h
  · exact h
  · exact h
  · exact h
  · exact .inl halone
  · exact h

theorem sound_of_traces {trace : List (Network ι τ)}
    (h : Traces (step owner) (Alone owner t) start trace n) : Sound owner n := by
  induction h with
  | start => exact sound_start
  | tail e _ halone hstep ih => exact ih.step halone hstep

theorem naive_of_traces {trace : List (Network ι τ)}
    (h : Traces (step owner) (Alone owner t) start trace n) : Naive t n := by
  induction h with
  | start => exact .inr fun _ _ => rfl
  | tail e htrace halone hstep ih => exact ih.step (sound_of_traces htrace) halone hstep

theorem ordered_of_traces {trace : List (Network ι τ)} (hi : owner a = some i) (hij : i ≠ j)
    (h : Traces (step owner) (Alone owner t) start trace n) : Ordered i j a t trace n := by
  induction h with
  | start =>
    refine ⟨fun u _ p _ hp => ?_, ?_, fun u p r hp => ?_⟩
    · cases hp
    · have hviews : views j a t [(start : Network ι τ)] = [] := by simp [views, start]
      have hway : onTheWay t ((start : Network ι τ).queues j a) = [] := rfl
      rw [hviews, hway]
      exact PickedFrom.nil _
    · cases hp
  | tail e htrace halone hstep ih =>
    obtain ⟨before, rfl⟩ := htrace.exists_last
    exact ih.step (sound_of_traces htrace) (naive_of_traces htrace) hi hij halone hstep

/-- What a library knows about a device while the bus runs is, unless it knows nothing, what the device
    could tell, and in the order in which the device held it: nothing is made up, and no library goes
    back to an older value. -/
theorem views_in_order {trace : List (Network ι τ)}
    (h : Traces (step owner) (Alone owner t) start trace n) (hi : owner a = some i) (hij : i ≠ j) :
    PickedFrom (views j a t trace) (tellings i a t trace) :=
  (ordered_of_traces hi hij h).known.sublist (List.sublist_append_left _ _)

/-- The first of two libraries handles the player. -/
def playerOwner (a : Fin 16) : Option Bool := if a = 4 then some false else none

/-- The player gets its name, tells the TV, and the other library hears of it. -/
theorem views_in_order_player : ∃ (trace : List (Network Bool Unit)) (n : Network Bool Unit),
    Traces (step playerOwner) (Alone playerOwner .osdName) start trace n ∧
      (n.records true 4).deviceName = player.deviceName ∧
      PickedFrom (views true 4 .osdName trace) (tellings false 4 .osdName trace) := by
  have hconfigured : Traces (step playerOwner) (Alone playerOwner .osdName) (start : Network Bool Unit) _ _ :=
    .tail (BusEvent.configure 4 player) .start ⟨by decide, by decide⟩ rfl
  have halone : ∀ n : Network Bool Unit,
      Alone playerOwner .osdName n (.build 4 () (.transmitOSDName 0)) :=
    fun n _ _ u _ hne => absurd (Subsingleton.elim u ()) hne
  have hbuilt := hconfigured.tail _ (halone _) rfl
  have hsent := hbuilt.tail (BusEvent.transmit false () fun _ => true) trivial rfl
  have hheard := hsent.tail (BusEvent.handle true 4 viewer) trivial rfl
  exact ⟨_, _, hheard, rfl, views_in_order hheard rfl Bool.false_ne_true⟩

end Network

end Information

end CEC
