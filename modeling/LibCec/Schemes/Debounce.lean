import Mathlib.Data.List.Induction
import Mathlib.Tactic.Common

/-! Debouncing a value.

    A value that arrives is held until it is due, and reported at the first look that finds it due.
    A value that arrives while another one is held replaces it, and the one replaced is dropped:

        arrival ──▶ held ──look, due──▶ reported
                    │  ▲
                    └──┘ arrival

    A look may be deaf: what is due then is held on to. -/

namespace Schemes

variable {V : Type*}

/-- A value that waits, and when it is due. -/
structure HeldBack (V : Type*) where
  value : V
  due : ℕ

/-- One look at the clock, with what arrives right before it. -/
structure Look (V : Type*) where
  arrival : Option (HeldBack V)
  time : ℕ
  deaf : Bool

/-- The look finds the value due. -/
def Look.Finds (l : Look V) (x : HeldBack V) : Prop := x.due ≤ l.time ∧ l.deaf = false

instance (l : Look V) (x : HeldBack V) : Decidable (l.Finds x) := inferInstanceAs (Decidable (_ ∧ _))

/-- What is held when the clock is looked at. -/
def Look.held (l : Look V) (h : Option (HeldBack V)) : Option (HeldBack V) := l.arrival.or h

/-- One look: what it leaves, and what it reports. -/
def debounce (h : Option (HeldBack V)) (l : Look V) : Option (HeldBack V) × Option V :=
  match l.held h with
  | none => (none, none)
  | some x => if l.Finds x then (none, some x.value) else (some x, none)

/-- What is held after some looks. -/
def heldAfter (looks : List (Look V)) : Option (HeldBack V) :=
  looks.foldl (fun h l => (debounce h l).1) none

/-- What the looks report, one after the other. -/
def reported : Option (HeldBack V) → List (Look V) → List V
  | _, [] => []
  | h, l :: ls => (debounce h l).2.toList ++ reported (debounce h l).1 ls

/-- The values that arrive. -/
def arrivals (looks : List (Look V)) : List V :=
  looks.filterMap fun l => l.arrival.map HeldBack.value

/-- The value arrived in one of the looks; none has arrived since then, and no look has found it
    due. -/
def Waits (looks : List (Look V)) (x : HeldBack V) : Prop :=
  ∃ before l between, looks = before ++ l :: between ∧ l.arrival = some x ∧
    (∀ q ∈ between, q.arrival = none) ∧ ∀ q ∈ l :: between, ¬q.Finds x

/-- The value waits when the clock is looked at after some looks. -/
def Waits.At (past : List (Look V)) (l : Look V) (x : HeldBack V) : Prop :=
  l.arrival = some x ∨ l.arrival = none ∧ Waits past x

variable {h : Option (HeldBack V)} {l : Look V} {x : HeldBack V} {v : V} {looks past : List (Look V)}

theorem held_eq_some_iff : l.held h = some x ↔ l.arrival = some x ∨ l.arrival = none ∧ h = some x := by
  rw [Look.held, Option.or_eq_some_iff]

/-- A look reports the value that it finds due. -/
theorem debounce_reports_iff :
    (debounce h l).2 = some v ↔ ∃ x, l.held h = some x ∧ l.Finds x ∧ x.value = v := by
  rw [debounce]
  cases l.held h with
  | none => simp
  | some x =>
    by_cases hfinds : l.Finds x
    · simp [hfinds]
    · simp [hfinds]

/-- A look leaves the value that it does not find due. -/
theorem debounce_holds_iff :
    (debounce h l).1 = some x ↔ l.held h = some x ∧ ¬l.Finds x := by
  rw [debounce]
  cases l.held h with
  | none => simp
  | some y =>
    simp only [Option.some.injEq]
    split
    · rename_i hfinds
      simp only [reduceCtorEq, false_iff, not_and, not_not]
      rintro rfl
      exact hfinds
    · rename_i hfinds
      simp only [Option.some.injEq, iff_self_and]
      rintro rfl
      exact hfinds

/-! ### What is held -/

theorem waits_concat : Waits (looks ++ [l]) x ↔ Waits.At looks l x ∧ ¬l.Finds x := by
  constructor
  · rintro ⟨before, l', between, hlooks, harrival, hnone, hfinds⟩
    rcases List.eq_nil_or_concat between with rfl | ⟨between, l'', rfl⟩
    · obtain ⟨rfl, hl⟩ := List.append_inj' hlooks rfl
      obtain rfl := List.singleton_inj.mp hl
      exact ⟨.inl harrival, hfinds l List.mem_cons_self⟩
    · rw [List.concat_eq_append, ← List.cons_append, ← List.append_assoc] at hlooks
      obtain ⟨rfl, hl⟩ := List.append_inj' hlooks rfl
      obtain rfl := List.singleton_inj.mp hl
      rw [List.concat_eq_append] at hnone hfinds
      refine ⟨.inr ⟨hnone l (by simp), before, l', between, rfl, harrival, ?_, ?_⟩,
        hfinds l (by simp)⟩
      · exact fun q hq => hnone q (List.mem_append_left _ hq)
      · intro q hq
        rw [← List.cons_append] at hfinds
        exact hfinds q (List.mem_append_left _ hq)
  · rintro ⟨harrival | ⟨hnone, before, l', between, rfl, harrival, hnone', hfinds'⟩, hfinds⟩
    · exact ⟨looks, l, [], rfl, harrival, by simp, by simpa using hfinds⟩
    · refine ⟨before, l', between ++ [l], by simp, harrival, ?_, ?_⟩
      · intro q hq
        rcases List.mem_append.mp hq with hq | hq
        · exact hnone' q hq
        · rwa [List.mem_singleton.mp hq]
      · intro q hq
        rw [← List.cons_append] at hq
        rcases List.mem_append.mp hq with hq | hq
        · exact hfinds' q hq
        · rwa [List.mem_singleton.mp hq]

/-- The value that is held is the one that waits. -/
theorem heldAfter_eq_some_iff : heldAfter looks = some x ↔ Waits looks x := by
  induction looks using List.reverseRecOn generalizing x with
  | nil =>
    constructor
    · intro hheld
      cases hheld
    · rintro ⟨before, l, between, hlooks, -⟩
      cases before with
      | nil => cases hlooks
      | cons _ _ => cases hlooks
  | append_singleton looks l ih =>
    rw [heldAfter, List.foldl_append, List.foldl_cons, List.foldl_nil, debounce_holds_iff,
      held_eq_some_iff, waits_concat, Waits.At, ← ih, heldAfter]

/-- A look reports a value iff the value waits, and is due. -/
theorem reports_iff :
    (debounce (heldAfter past) l).2 = some v ↔ ∃ x, Waits.At past l x ∧ l.Finds x ∧ x.value = v := by
  simp only [debounce_reports_iff, held_eq_some_iff, heldAfter_eq_some_iff, Waits.At]

/-! ### What is reported -/

theorem reported_append : ∀ (h : Option (HeldBack V)) (ls ls' : List (Look V)),
    reported h (ls ++ ls') = reported h ls ++
      reported (ls.foldl (fun h l => (debounce h l).1) h) ls'
  | _, [], _ => rfl
  | h, l :: ls, ls' => by
    rw [List.cons_append, reported, reported_append _ ls ls', reported, List.foldl_cons,
      List.append_assoc]

/-- Each arrival is reported once at most, in the order of the arrivals. -/
theorem reported_sublist : ∀ (h : Option (HeldBack V)) (ls : List (Look V)),
    (reported h ls).Sublist ((h.map HeldBack.value).toList ++ arrivals ls)
  | _, [] => List.nil_sublist _
  | h, l :: ls => by
    -- what the first look holds is what was held, or what arrives
    have hheld : ((l.held h).map HeldBack.value).toList.Sublist
        ((h.map HeldBack.value).toList ++ (l.arrival.map HeldBack.value).toList) := by
      cases harrival : l.arrival with
      | none => simp [Look.held, harrival]
      | some x => simp [Look.held, harrival]
    have hlook : ((debounce h l).2.toList ++ ((debounce h l).1.map HeldBack.value).toList) =
        ((l.held h).map HeldBack.value).toList := by
      rw [debounce]
      cases l.held h with
      | none => rfl
      | some x =>
        simp only
        split
        · rfl
        · rfl
    have harrivals : arrivals (l :: ls) = (l.arrival.map HeldBack.value).toList ++ arrivals ls := by
      rw [arrivals, List.filterMap_cons, arrivals]
      cases l.arrival with
      | none => rfl
      | some x => rfl
    have hrest := (reported_sublist (debounce h l).1 ls).append_left (debounce h l).2.toList
    rw [← List.append_assoc, hlook] at hrest
    rw [reported, harrivals, ← List.append_assoc]
    exact hrest.trans (hheld.append_right _)

/-- The value arrived in the first of the looks and nothing since then, and the last look is the first
    one to find it due. -/
def FallsDue (waiting : List (Look V)) (l : Look V) (x : HeldBack V) : Prop :=
  ∃ first rest, waiting ++ [l] = first :: rest ∧ first.arrival = some x ∧
    (∀ q ∈ rest, q.arrival = none) ∧ (∀ q ∈ waiting, ¬q.Finds x) ∧ l.Finds x

theorem waits_at_iff : Waits.At past l x ∧ l.Finds x ↔
    ∃ before waiting, past = before ++ waiting ∧ FallsDue waiting l x := by
  constructor
  · rintro ⟨harrival | ⟨hnone, before, l', between, rfl, harrival, hnone', hwaiting⟩, hfinds⟩
    · exact ⟨past, [], by simp, l, [], rfl, harrival, by simp, by simp, hfinds⟩
    · refine ⟨before, l' :: between, rfl, l', between ++ [l], rfl, harrival, ?_, hwaiting, hfinds⟩
      intro q hq
      rcases List.mem_append.mp hq with hq | hq
      · exact hnone' q hq
      · rwa [List.mem_singleton.mp hq]
  · rintro ⟨before, waiting, rfl, first, rest, hsplit, harrival, hnone, hwaiting, hfinds⟩
    refine ⟨?_, hfinds⟩
    cases waiting with
    | nil =>
      obtain ⟨rfl, -⟩ := List.cons.inj hsplit
      exact .inl harrival
    | cons w waiting =>
      obtain ⟨rfl, rfl⟩ := List.cons.inj hsplit
      refine .inr ⟨hnone l (by simp), before, w, waiting, rfl, harrival, ?_, hwaiting⟩
      exact fun q hq => hnone q (List.mem_append_left _ hq)

/-- What is reported in the end is reported by one of the looks. -/
theorem mem_reported : v ∈ reported none looks ↔
    ∃ past l later, looks = past ++ l :: later ∧ (debounce (heldAfter past) l).2 = some v := by
  induction looks using List.reverseRecOn with
  | nil =>
    constructor
    · intro hv
      cases hv
    · rintro ⟨past, l, later, hlooks, -⟩
      cases past with
      | nil => cases hlooks
      | cons _ _ => cases hlooks
  | append_singleton looks l ih =>
    have hlast : reported (looks.foldl (fun h l => (debounce h l).1) none) [l] =
        (debounce (heldAfter looks) l).2.toList := by
      rw [reported, reported, List.append_nil, heldAfter]
    rw [reported_append, List.mem_append, ih, hlast, Option.mem_toList]
    constructor
    · rintro (⟨past, l', later, rfl, hv⟩ | hv)
      · exact ⟨past, l', later ++ [l], by simp, hv⟩
      · exact ⟨looks, l, [], rfl, hv⟩
    · rintro ⟨past, l', later, hlooks, hv⟩
      rcases List.eq_nil_or_concat later with rfl | ⟨later, l'', rfl⟩
      · obtain ⟨rfl, hl⟩ := List.append_inj' hlooks rfl
        obtain rfl := List.singleton_inj.mp hl
        exact .inr hv
      · rw [List.concat_eq_append, ← List.cons_append, ← List.append_assoc] at hlooks
        exact .inl ⟨past, l', later, (List.append_inj' hlooks rfl).1, hv⟩

/-- The values reported are those that settle. -/
theorem mem_reported_iff : v ∈ reported none looks ↔
    ∃ before waiting l later x, looks = before ++ (waiting ++ l :: later) ∧ FallsDue waiting l x ∧
      x.value = v := by
  rw [mem_reported]
  constructor
  · rintro ⟨past, l, later, rfl, hv⟩
    obtain ⟨x, hwaits, hfinds, hx⟩ := reports_iff.mp hv
    obtain ⟨before, waiting, rfl, hsettles⟩ := waits_at_iff.mp ⟨hwaits, hfinds⟩
    exact ⟨before, waiting, l, later, x, List.append_assoc _ _ _, hsettles, hx⟩
  · rintro ⟨before, waiting, l, later, x, rfl, hsettles, hx⟩
    obtain ⟨hwaits, hfinds⟩ := waits_at_iff.mpr ⟨before, waiting, rfl, hsettles⟩
    exact ⟨before ++ waiting, l, later, (List.append_assoc _ _ _).symm,
      reports_iff.mpr ⟨x, hwaits, hfinds, hx⟩⟩

end Schemes
