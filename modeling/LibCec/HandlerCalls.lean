import LibCec.HandlerUse
import Mathlib.Data.List.Infix

/-! The calls of a command handler, and its replacement.

    A handler is deleted when no use of it is counted, whoever is in one of its methods:

        MarkBusy ──▶ m_handler->… ──────────────▶ MarkReady        nobody replaces it
                     m_handler->… ── delete ──▶ use after free     TransmitDeckStatus, …

    The functions that do not mark the handler busy rely on a caller that does. -/

namespace CEC
open Schemes

namespace HandlerUse

variable {T : Type}

/-! ### Calls that are guarded -/

/-- The functions that call a method of `m_handler`, and do not mark it busy. -/
def Operation.unguarded : Operation → Bool
  | systemAudioModeRequest | transmitAudioStatus | transmitSetSystemAudioMode
  | transmitSystemAudioModeStatus | audioEnable | transmitDeckStatus => true
  | _ => false

/-- These are called only by a function that uses the handler of the same device. -/
def Covers (s : HandlerUse T) : Action T → Prop
  | .call t o d => o.unguarded → 0 < held d (s.threads t)
  | _ => True

/-- Whoever is in a method of a handler holds a use of it, and it is not deleted before the method
    returns. -/
structure Undisturbed (s : HandlerUse T) : Prop where
  unfaulted : s.handlers.fault = false
  running : ∀ t f below r, f :: below <:+ s.threads t → f.calling = some r →
    s.handlers.isLive r ∧ 0 < s.useCount f.device ∧ 0 < held f.device (f :: below)

/-- The script calls a handler only where it holds a use, unless a caller does. -/
def Script.guards (inUse : Bool) : Script → ℤ → Bool
  | callHandler, n => inUse || 0 < n
  | seq a b, n => a.guards inUse n && (a.after n).any (b.guards inUse)
  | choose a b, n => a.guards inUse n && b.guards inUse n
  | _, _ => true

def guardsAll (inUse : Bool) : List Script → ℤ → Bool
  | [], _ => true
  | s :: rest, n => s.guards inUse n && (s.after n).any (guardsAll inUse rest)

theorem guardsAll_cons {inUse : Bool} {s : Script} {rest : List Script} {n : ℤ} :
    guardsAll inUse (s :: rest) n ↔
      s.guards inUse n ∧ ∃ m, s.after n = some m ∧ guardsAll inUse rest m := by
  rw [guardsAll, Bool.and_eq_true, Option.any_eq_true]

theorem guards_init {n : ℤ} (inUse : Bool) (hn : 0 < n) : Script.init.guards inUse n := by
  simp [Script.init, Script.perhaps, Script.block, Script.guards, Script.after, hn]

/-- Six functions need a caller that uses the handler, the others do not. -/
theorem guards_body {inUse : Bool} (o : Operation) (h : o.unguarded → inUse) :
    o.body.guards inUse 0 := by
  cases o with
  | isLibCECActiveSource handled => cases handled <;> cases inUse <;> rfl
  | _ => cases inUse <;> first | rfl | exact absurd (h rfl) Bool.false_ne_true

/-! ### The invariant -/

/-- A call of a function, and its callers: where it calls a handler one of them uses it. -/
structure Frame.Guarded (handler : Fin 16 → ℕ) (f : Frame) (below : List Frame) : Prop where
  guards : guardsAll (0 < held f.device below) f.rest f.used
  entered : ∀ r, f.calling = some r →
    r = handler f.device ∧ ∃ rest, f.rest = .callHandler :: rest

namespace Frame.Guarded

variable {handler : Fin 16 → ℕ} {f : Frame} {below : List Frame} {c : Script} {rest : List Script}

/-- A function that is in no method of a handler. -/
theorem of_outside (hcalling : f.calling = none)
    (hguards : guardsAll (0 < held f.device below) f.rest f.used) : f.Guarded handler below :=
  ⟨hguards, fun r hr => by rw [hcalling] at hr; cases hr⟩

/-- Only a call of a handler is in a method of it. -/
theorem outside (h : f.Guarded handler below) (hrest : f.rest = c :: rest)
    (hc : c ≠ .callHandler) : f.calling = none := by
  by_contra hcalling
  obtain ⟨r, hr⟩ := Option.ne_none_iff_exists'.mp hcalling
  obtain ⟨-, rest', hrest'⟩ := h.entered r hr
  exact hc (List.cons.inj (hrest.symm.trans hrest')).1

/-- What is left to do after a statement. -/
theorem goesOn (h : f.Guarded handler below) (hrest : f.rest = c :: rest) :
    ∃ m, c.after f.used = some m ∧ guardsAll (0 < held f.device below) rest m := by
  have hguards := h.guards
  rw [hrest, guardsAll_cons] at hguards
  exact hguards.2

/-- A statement that calls no handler. -/
theorem next {m : ℤ} (h : f.Guarded handler below) (hrest : f.rest = c :: rest)
    (hc : c ≠ .callHandler) (hm : c.after f.used = some m) :
    ({ f with rest, used := m } : Frame).Guarded handler below := by
  obtain ⟨m', hm', hguards⟩ := h.goesOn hrest
  obtain rfl := Option.some.inj (hm'.symm.trans hm)
  exact .of_outside (h.outside hrest hc) hguards

end Frame.Guarded

/-- Every device has its own handler, and whoever calls it uses it. -/
structure Guarded (s : HandlerUse T) : Prop where
  unfaulted : s.handlers.fault = false
  live : ∀ d, s.handlers.isLive (s.handler d)
  distinct : Function.Injective s.handler
  frames : ∀ t f below, f :: below <:+ s.threads t → f.Guarded s.handler below

theorem guarded_initial : Guarded (initial : HandlerUse T) where
  unfaulted := rfl
  live d := by simp [initial, ManualHeap.isLive]
  distinct _ _ h := Fin.val_injective h
  frames t f below hsuffix := by cases List.suffix_nil.mp hsuffix

theorem held_le_of_suffix {below frames : List Frame} (d : Fin 16) (h : below <:+ frames)
    (hnonneg : ∀ f ∈ frames, 0 ≤ f.used) : held d below ≤ held d frames := by
  obtain ⟨above, rfl⟩ := h
  induction above with
  | nil => exact le_rfl
  | cons f above ih =>
    have hf := hnonneg f List.mem_cons_self
    have hbelow := ih fun g hg => hnonneg g (List.mem_cons_of_mem f hg)
    rw [List.cons_append, held_cons]
    split <;> omega

section guarding

variable {s u : HandlerUse T} {t : T} {f f' : Frame} {below : List Frame} {d : Fin 16} {r : ℕ}

namespace Guarded

section counting

variable [Fintype T]

/-- Whoever is in a method of a handler holds a use of it. -/
theorem held_pos (hs : Guarded s) (hc : Counted true s) (h : f :: below <:+ s.threads t)
    (hr : f.calling = some r) : 0 < held f.device (f :: below) := by
  have hframe := hs.frames t f below h
  obtain ⟨-, rest, hrest⟩ := hframe.entered r hr
  have hguards := hframe.guards
  rw [hrest, guardsAll_cons, Script.guards, Bool.or_eq_true, decide_eq_true_eq,
    decide_eq_true_eq] at hguards
  have hnonneg : ∀ g ∈ f :: below, 0 ≤ g.used := fun g hg => (hc.returns t g (h.subset hg)).1
  have hf := hnonneg f List.mem_cons_self
  have hbelow : 0 ≤ held f.device below :=
    held_nonneg _ fun g hg => hnonneg g (List.mem_cons_of_mem f hg)
  rw [held_cons, if_pos rfl]
  rcases hguards.1 with hpos | hpos <;> omega

/-- That use is counted. -/
theorem useCount_pos (hs : Guarded s) (hc : Counted true s) (h : f :: below <:+ s.threads t)
    (hr : f.calling = some r) : 0 < s.useCount f.device := by
  have hpos := hs.held_pos hc h hr
  have hsuffix := held_le_of_suffix f.device h fun g hg => (hc.returns t g hg).1
  have hcount := hc.held_le t f.device
  omega

theorem undisturbed (hs : Guarded s) (hc : Counted true s) : s.Undisturbed where
  unfaulted := hs.unfaulted
  running t f below r h hr := by
    obtain ⟨rfl, -⟩ := (hs.frames t f below h).entered r hr
    exact ⟨hs.live f.device, hs.useCount_pos hc h hr, hs.held_pos hc h hr⟩

/-- Nobody is in a method of a handler that can be replaced. -/
theorem idle (hs : Guarded s) (hc : Counted true s) (hcan : s.canReplace d)
    (h : f :: below <:+ s.threads t) (hd : f.device = d) : f.calling = none := by
  rw [canReplace, Bool.and_eq_true, decide_eq_true_eq, decide_eq_true_eq] at hcan
  by_contra hcalling
  obtain ⟨r, hr⟩ := Option.ne_none_iff_exists'.mp hcalling
  have hpos := hs.useCount_pos hc h hr
  rw [hd, hcan.2] at hpos
  cases hpos

end counting

theorem mark (hs : Guarded s) (d : Fin 16) (f : ℕ → ℕ) : Guarded (s.mark d f) :=
  ⟨hs.unfaulted, hs.live, hs.distinct, hs.frames⟩

/-- A handler that a device has is there to be used. -/
theorem touch (hs : Guarded s) (d : Fin 16) : Guarded (s.touch (s.handler d)) where
  unfaulted := (ManualHeap.fault_use (hs.live d) id).trans hs.unfaulted
  live d' := (ManualHeap.isLive_use ..).trans (hs.live d')
  distinct := hs.distinct
  frames := hs.frames

/-- A handler that nobody is in a method of is replaced. -/
theorem renew (hs : Guarded s)
    (hidle : ∀ t f below, f :: below <:+ s.threads t → f.device = d → f.calling = none) :
    Guarded (s.renew d) where
  unfaulted := (ManualHeap.fault_delete (hs.live d)).trans hs.unfaulted
  live d' := by
    rcases eq_or_ne d' d with rfl | hd
    · simp [HandlerUse.renew, ManualHeap.delete]
    · have hlive := hs.live d'
      have hne : s.handler d' ≠ s.handler d := fun h => hd (hs.distinct h)
      simp [HandlerUse.renew, hd, hlive, hne]
  distinct d₁ d₂ h := by
    have hold : ∀ d', s.handler d' ≠ s.handlers.next := fun d' =>
      (ManualHeap.lt_next_of_isLive (hs.live d')).ne
    simp only [HandlerUse.renew, Function.update_apply] at h
    split at h <;> split at h
    · next h₁ h₂ => rw [h₁, h₂]
    · exact absurd h.symm (hold d₂)
    · exact absurd h (hold d₁)
    · exact hs.distinct h
  frames t f below hsuffix := by
    obtain ⟨hguards, hentered⟩ := hs.frames t f below hsuffix
    refine ⟨hguards, fun r hr => ?_⟩
    have hne : f.device ≠ d := fun hd => by
      rw [hidle t f below hsuffix hd] at hr
      cases hr
    simp only [HandlerUse.renew, Function.update_of_ne hne]
    exact hentered r hr

variable [DecidableEq T]

theorem setFrames {frames : List Frame} (hs : Guarded s) (t : T)
    (h : ∀ f below, f :: below <:+ frames → f.Guarded s.handler below) :
    Guarded (s.setFrames t frames) where
  unfaulted := hs.unfaulted
  live := hs.live
  distinct := hs.distinct
  frames t' f below hsuffix := by
    rw [setFrames_threads] at hsuffix
    split at hsuffix
    · exact h f below hsuffix
    · exact hs.frames t' f below hsuffix

/-- A function is called. -/
theorem push (hs : Guarded s) (t : T) (h : f.Guarded s.handler (s.threads t)) :
    Guarded (s.setFrames t (f :: s.threads t)) := by
  refine hs.setFrames t fun g under hsuffix => ?_
  rcases List.suffix_cons_iff.mp hsuffix with heq | hsuffix
  · obtain ⟨rfl, rfl⟩ := List.cons.inj heq
    exact h
  · exact hs.frames t g under hsuffix

/-- A function returns. -/
theorem pop (hs : Guarded s) (ht : s.threads t = f :: below) : Guarded (s.setFrames t below) := by
  refine hs.setFrames t fun g under hsuffix => hs.frames t g under ?_
  rw [ht]
  exact hsuffix.trans (List.suffix_cons f below)

/-- A function goes on. -/
theorem top (hs : Guarded s) (ht : s.threads t = f :: below) (h : f'.Guarded s.handler below) :
    Guarded (s.setFrames t (f' :: below)) := by
  refine hs.setFrames t fun g under hsuffix => ?_
  rcases List.suffix_cons_iff.mp hsuffix with heq | hsuffix
  · obtain ⟨rfl, rfl⟩ := List.cons.inj heq
    exact h
  · refine hs.frames t g under ?_
    rw [ht]
    exact hsuffix.trans (List.suffix_cons f below)

/-- `ReplaceHandler` of a handler that is not in use. -/
theorem replace [Fintype T] {rest : List Script} (hs : Guarded s) (hc : Counted true s)
    (ht : s.threads t = f :: below)
    (hrest : f.rest = .replaceHandler :: rest ∨ f.rest = .untilReplaced :: rest)
    (hcan : s.canReplace f.device) : Guarded (s.replace t f rest below) := by
  have hframe := hs.frames t f below (by rw [ht])
  have hused : 0 ≤ f.used := (hc.returns t f (by rw [ht]; exact List.mem_cons_self)).1
  have hafter : f.calling = none ∧ guardsAll (0 < held f.device below) rest f.used := by
    rcases hrest with hrest | hrest
    · obtain ⟨m, hm, hguards⟩ := hframe.goesOn hrest
      obtain rfl := Option.some.inj hm
      exact ⟨hframe.outside hrest (by simp), hguards⟩
    · obtain ⟨m, hm, hguards⟩ := hframe.goesOn hrest
      rw [hc.waits ht hrest] at hm ⊢
      obtain rfl := Option.some.inj hm
      exact ⟨hframe.outside hrest (by simp), hguards⟩
  have hready : guardsAll (0 < held f.device below) (.markReady :: rest) (f.used + 1) :=
    guardsAll_cons.mpr ⟨rfl, f.used, by rw [Script.after, if_pos (by omega), Int.add_sub_cancel],
      hafter.2⟩
  have hmarked : Guarded ((s.mark f.device (· + 1)).touch (s.handler f.device)) :=
    (hs.mark f.device (· + 1)).touch f.device
  simp only [HandlerUse.replace]
  split
  · refine (hmarked.renew fun t' g under hsuffix hd => ?_).top ht (.of_outside hafter.1 ?_)
    · exact hs.idle hc hcan hsuffix hd
    · have hpos : 0 < f.used + 1 := by omega
      exact guardsAll_cons.mpr ⟨guards_init _ hpos, _, after_init _, hready⟩
  · exact hmarked.top ht (.of_outside hafter.1 hready)

theorem advance [Fintype T] (hs : Guarded s) (hc : Counted true s) (ht : s.threads t = f :: below)
    (h : Advances s t f below u) : Guarded u := by
  have hframe := hs.frames t f below (by rw [ht])
  cases h with
  | returns hrest => exact hs.pop ht
  | passes hrest =>
    rcases hrest with hrest | hrest
    · exact hs.top ht (hframe.next hrest (by simp) rfl)
    · exact hs.top ht (hframe.next hrest (by simp) rfl)
  | marksBusy hrest => exact (hs.mark ..).top ht (hframe.next hrest (by simp) rfl)
  | marksReady hrest =>
    obtain ⟨m, hm, -⟩ := hframe.goesOn hrest
    have hpos : 0 < f.used := by
      rw [Script.after, Option.ite_none_right_eq_some] at hm
      exact hm.1
    exact (hs.mark ..).top ht (hframe.next hrest (by simp) (if_pos hpos))
  | enters hrest hcalling =>
    exact (hs.touch f.device).top ht
      ⟨hframe.guards, fun r hr => ⟨(Option.some.inj hr).symm, _, hrest⟩⟩
  | leaves hrest hcalling =>
    obtain ⟨rfl, -⟩ := hframe.entered _ hcalling
    obtain ⟨m, hm, hguards⟩ := hframe.goesOn hrest
    obtain rfl := Option.some.inj hm
    exact (hs.touch f.device).top ht (.of_outside rfl hguards)
  | replaces hrest hcan => exact hs.replace hc ht hrest hcan
  | declined hrest hcan => exact hs.top ht (hframe.next hrest (by simp) rfl)
  | waits hrest hcan => exact hs
  | unfolds hrest =>
    have hguards := hframe.guards
    rw [hrest, guardsAll_cons, Script.guards, Bool.and_eq_true, Option.any_eq_true] at hguards
    obtain ⟨⟨hfirst, m, hm, hsecond⟩, k, hk, hguards⟩ := hguards
    rw [Script.after, hm, Option.bind_some] at hk
    refine hs.top ht (.of_outside (hframe.outside hrest (by simp)) ?_)
    exact guardsAll_cons.mpr ⟨hfirst, m, hm, guardsAll_cons.mpr ⟨hsecond, k, hk, hguards⟩⟩

theorem step [Fintype T] {a : Action T} (hs : Guarded s) (hc : Counted true s) (ha : Covers s a)
    (h : s.step a = some u) : Guarded u := by
  cases a with
  | setVendorId d iVendorId =>
    obtain rfl := Option.some.inj h
    exact ⟨hs.unfaulted, hs.live, hs.distinct, hs.frames⟩
  | call t o d =>
    obtain ⟨-, rfl⟩ := enabled_iff.mp h
    refine hs.push t (.of_outside rfl (guardsAll_cons.mpr ⟨guards_body o ?_, _, after_body o, rfl⟩))
    exact fun ho => decide_eq_true (ha ho)
  | next t =>
    obtain ⟨f, below, ht, h⟩ := step_next_iff.mp h
    exact hs.advance hc ht (advances_of_advance h)
  | choose t first =>
    obtain ⟨f, below, a, b, rest, ht, hrest, rfl⟩ := step_choose_iff.mp h
    have hframe := hs.frames t f below (by rw [ht])
    have hguards := hframe.guards
    rw [hrest, guardsAll_cons, Script.guards, Bool.and_eq_true] at hguards
    obtain ⟨⟨hfirst, hsecond⟩, m, hm, hguards⟩ := hguards
    rw [Script.after] at hm
    refine hs.top ht (.of_outside (hframe.outside hrest (by simp)) (guardsAll_cons.mpr ?_))
    split at hm
    · next hsame =>
      cases first with
      | true => exact ⟨hfirst, m, hm, hguards⟩
      | false => exact ⟨hsecond, m, hsame ▸ hm, hguards⟩
    · cases hm

end Guarded

end guarding

/-! ### Runs -/

/-- A function that does not use the handler comes to call it. -/
theorem exists_disturbed [DecidableEq T] {s : HandlerUse T} {t : T} {d : Fin 16}
    {rest : List Script} {below : List Frame}
    (ht : s.threads t = ⟨d, .callHandler :: rest, 0, none⟩ :: below) (hbelow : ¬0 < held d below) :
    ∃ v, Schedule step s v ∧ ¬v.Undisturbed := by
  let f : Frame := ⟨d, .callHandler :: rest, 0, some (s.handler d)⟩
  refine ⟨(s.touch (s.handler d)).setFrames t (f :: below), schedule_next ht rfl (.refl _), ?_⟩
  intro hundisturbed
  have hthreads : ((s.touch (s.handler d)).setFrames t (f :: below)).threads t = f :: below :=
    setFrames_self ..
  have hheld : 0 < held d (f :: below) :=
    (hundisturbed.running t f below (s.handler d) (by rw [hthreads]) rfl).2.2
  rw [held_cons, if_pos rfl, zero_add] at hheld
  exact hbelow hheld

/-- As long as the functions that do not mark the handler busy are called only by a function that
    uses it, no handler is deleted while somebody is in one of its methods; any other call of them
    comes to a method that nobody guards. -/
theorem handlers_undisturbed [DecidableEq T] [Fintype T] {s : HandlerUse T}
    (h : Reaches step Covers initial s) :
    s.Undisturbed ∧
      ∀ a u, s.step a = some u → ¬Covers s a → ∃ v, Schedule step u v ∧ ¬v.Undisturbed := by
  have hstep : ∀ {w : HandlerUse T} {a : Action T} {u : HandlerUse T}, Counted true w ∧ Guarded w →
      Covers w a → w.step a = some u → Counted true u ∧ Guarded u := fun hw ha h =>
    ⟨hw.1.step (fun hleaky => by cases hleaky) h, hw.2.step hw.1 ha h⟩
  obtain ⟨hcounted, hguarded⟩ := h.invariant hstep ⟨counted_initial true, guarded_initial⟩
  refine ⟨hguarded.undisturbed hcounted, fun a u hstep hnot => ?_⟩
  cases a with
  | call t o d =>
    obtain ⟨-, rfl⟩ := enabled_iff.mp hstep
    obtain ⟨ho, hheld⟩ := Classical.not_imp.mp hnot
    have hcalled : (s.setFrames t (⟨d, [o.body], 0, none⟩ :: s.threads t)).threads t =
        ⟨d, [o.body], 0, none⟩ :: s.threads t := setFrames_self ..
    cases o with
    | transmitAudioStatus | transmitSetSystemAudioMode | transmitSystemAudioModeStatus | audioEnable
    | transmitDeckStatus => exact exists_disturbed hcalled hheld
    | systemAudioModeRequest =>
      -- with a physical address
      let w := s.setFrames t (⟨d, [Script.perhaps .callHandler], 0, none⟩ :: s.threads t)
      have hcalling : (w.setFrames t (⟨d, [.callHandler], 0, none⟩ :: s.threads t)).threads t =
          ⟨d, [.callHandler], 0, none⟩ :: s.threads t := setFrames_self ..
      obtain ⟨v, hv, hdisturbed⟩ := exists_disturbed hcalling hheld
      exact ⟨v, schedule_choose true hcalled hv, hdisturbed⟩
    | _ => cases ho
  | setVendorId d iVendorId | next t | choose t first => exact absurd trivial hnot

instance (s : HandlerUse T) : ∀ a : Action T, Decidable (Covers s a)
  | .call t o d => inferInstanceAs (Decidable (o.unguarded → 0 < held d (s.threads t)))
  | .setVendorId .. | .next _ | .choose .. => isTrue trivial

/-- The primary device activates the source and asks for the system audio mode; `ReplaceHandler`
    returns false in the meantime. -/
theorem handlers_undisturbed_activateSource :
    ∃ s : HandlerUse (Fin 2), Reaches step Covers initial s ∧ s.Undisturbed := by
  let schedule : List (Action (Fin 2)) :=
    [.call 0 .activateSource 4, .next 0, .next 0, .next 0, .next 0, .next 0, .next 0,
      .choose 0 true, .next 0, .choose 0 true, .choose 0 true, .next 0, .setVendorId 4 0x00E091,
      .call 1 .replaceHandler 4, .next 1, .next 1, .next 0]
  have hperform : (perform step initial schedule).isSome := by decide
  obtain ⟨s, hs⟩ := Option.isSome_iff_exists.mp hperform
  have hmeets : Meets step Covers initial schedule := by decide
  have hrun := reaches_of_perform hmeets hs
  exact ⟨s, hrun, (handlers_undisturbed hrun).1⟩

/-- A client sets the deck status, and the handler of the playback device is replaced while it is
    transmitted. -/
theorem handler_deleted_during_call :
    ¬∀ s : HandlerUse (Fin 2), Schedule step initial s → s.Undisturbed := by
  intro hall
  have hperform : (perform step (initial : HandlerUse (Fin 2))
      [.call 0 .transmitDeckStatus 4, .next 0, .setVendorId 4 0x00E091, .call 1 .replaceHandler 4,
        .next 1, .next 0]).any (·.handlers.fault) := by decide
  obtain ⟨s, hs, hfault⟩ := (Option.any_eq_true _ _).mp hperform
  exact Bool.false_ne_true ((hall s (schedule_of_perform hs)).unfaulted.symm.trans hfault)

end HandlerUse

end CEC
