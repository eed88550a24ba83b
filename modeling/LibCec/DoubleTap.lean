import LibCec.Keypress

/-! The double tap filter (`CCECClient::CallbackAddKey`).

    The thread of the client passes the queued keys on to the application. A press and a release
    that come soon after the last one of the same key are dropped, each by its own clock.

        press    dropped while the last press passed on is of this key and younger than the timeout
        release  dropped while the last key passed on is this one and its release is younger

    The first release after a press that is passed on is always passed on. The release of a press
    that was dropped is not always dropped: `forwardedInPairs_iff` says that it has to follow its
    press at once, and within the timeout of the release before. -/

namespace CEC
open Schemes

/-- What the filter remembers, and the keys that were passed to the application so far. -/
structure TapState where
  lastKeypress : Keypress
  iLastKeypressTime : ℤ
  iLastKeyreleaseTime : ℤ
  forwarded : List Keypress

/-- A key and the time at which it is taken off the queue. -/
structure TapEvent where
  now : ℤ
  key : Keypress

namespace DoubleTap

variable (iDoubleTapTimeoutMs : UInt32)

/-- The state of a new client. -/
def init : TapState := ⟨⟨keyUnknown, 0⟩, 0, 0, []⟩

/-- A repeated press of the same key. -/
def dropsPress (s : TapState) (e : TapEvent) : Prop :=
  e.key.duration = 0 ∧ iDoubleTapTimeoutMs ≠ 0 ∧ s.lastKeypress.keycode = e.key.keycode ∧
    e.now - s.iLastKeypressTime < iDoubleTapTimeoutMs.toNat

/-- A repeated release of the same key. -/
def dropsRelease (s : TapState) (e : TapEvent) : Prop :=
  e.key.duration ≠ 0 ∧ iDoubleTapTimeoutMs ≠ 0 ∧ s.lastKeypress.keycode = e.key.keycode ∧
    s.iLastKeyreleaseTime ≠ 0 ∧ e.now - s.iLastKeyreleaseTime < iDoubleTapTimeoutMs.toNat

instance (s : TapState) (e : TapEvent) : Decidable (dropsPress iDoubleTapTimeoutMs s e) :=
  inferInstanceAs (Decidable (_ ∧ _ ∧ _ ∧ _))

instance (s : TapState) (e : TapEvent) : Decidable (dropsRelease iDoubleTapTimeoutMs s e) :=
  inferInstanceAs (Decidable (_ ∧ _ ∧ _ ∧ _ ∧ _))

/-- `CallbackAddKey`, for an application that listens to `keyPress`. -/
def callbackAddKey (s : TapState) (e : TapEvent) : TapState :=
  if dropsPress iDoubleTapTimeoutMs s e then s
  else if dropsRelease iDoubleTapTimeoutMs s e then s
  else if e.key.duration = 0 then
    { lastKeypress := e.key, iLastKeypressTime := e.now, iLastKeyreleaseTime := 0
      forwarded := s.forwarded ++ [e.key] }
  else
    { s with
      lastKeypress := e.key, iLastKeyreleaseTime := e.now, forwarded := s.forwarded ++ [e.key] }

/-- The filter after a run. -/
abbrev run (es : List TapEvent) : TapState := es.foldl (callbackAddKey iDoubleTapTimeoutMs) init

/-- The key is passed on. -/
def forwards (s : TapState) (e : TapEvent) : Prop :=
  ¬ dropsPress iDoubleTapTimeoutMs s e ∧ ¬ dropsRelease iDoubleTapTimeoutMs s e

instance (s : TapState) (e : TapEvent) : Decidable (forwards iDoubleTapTimeoutMs s e) :=
  inferInstanceAs (Decidable (_ ∧ _))

/-- There was a press of `k` since its last release. -/
def pressed (k : UInt8) (keys : List Keypress) : Bool :=
  keys.foldl (fun b key => if key.keycode = k then key.duration = 0 else b) false

/-- Per key, presses and releases alternate, with a press first. -/
def Alternating (es : List TapEvent) : Prop :=
  ∀ past e later, es = past ++ e :: later →
    (e.key.duration ≠ 0 ↔ pressed e.key.keycode (past.map TapEvent.key))

instance (es : List TapEvent) : Decidable (Alternating es) :=
  decidable_of_iff' _ (forall_split_iff
    (P := fun past (e : TapEvent) => e.key.duration ≠ 0 ↔ pressed e.key.keycode (past.map TapEvent.key)))

/-- No release is passed on without a press of its key since its previous one. -/
def Paired (keys : List Keypress) : Prop :=
  ∀ past r later, keys = past ++ r :: later → r.duration ≠ 0 → pressed r.keycode past

/-- What the application sees of each key are pairs: no release comes without a press, and the first
    release after a press is passed on. -/
def ForwardedInPairs (es : List TapEvent) : Prop :=
  Paired (run iDoubleTapTimeoutMs es).forwarded ∧
  ∀ past p mid r later, es = past ++ p :: mid ++ r :: later →
    p.key.duration = 0 → forwards iDoubleTapTimeoutMs (run iDoubleTapTimeoutMs past) p →
    (∀ m ∈ mid, m.key.keycode = p.key.keycode → m.key.duration = 0) →
    r.key.keycode = p.key.keycode → r.key.duration ≠ 0 →
    forwards iDoubleTapTimeoutMs (run iDoubleTapTimeoutMs (past ++ p :: mid)) r

/-- A press that is dropped is followed at once by its release, within the timeout of the release
    that was passed on before. -/
def DoubleTapsWhole (es : List TapEvent) : Prop :=
  ∀ past p mid r later, es = past ++ p :: mid ++ r :: later →
    dropsPress iDoubleTapTimeoutMs (run iDoubleTapTimeoutMs past) p →
    (∀ m ∈ mid, m.key.keycode ≠ p.key.keycode) →
    r.key.keycode = p.key.keycode → r.key.duration ≠ 0 →
    mid = [] ∧ (run iDoubleTapTimeoutMs past).iLastKeyreleaseTime ≠ 0 ∧
      r.now - (run iDoubleTapTimeoutMs past).iLastKeyreleaseTime < iDoubleTapTimeoutMs.toNat

/-! ### The last event of a key -/

section Keys

variable {k : UInt8}

theorem pressed_concat (keys : List Keypress) (key : Keypress) : pressed k (keys ++ [key]) =
    if key.keycode = k then decide (key.duration = 0) else pressed k keys := by
  rw [pressed, List.foldl_append, List.foldl_cons, List.foldl_nil]
  rfl

/-- A press stays one as long as no release of the key comes. -/
theorem pressed_append_held {keys mid : List Keypress} (h : pressed k keys)
    (hmid : ∀ m ∈ mid, m.keycode = k → m.duration = 0) : pressed k (keys ++ mid) := by
  induction mid using List.reverseRecOn with
  | nil => rwa [List.append_nil]
  | append_singleton mid m ih =>
    rw [← List.append_assoc, pressed_concat]
    split
    · next hk => exact decide_eq_true (hmid m (by simp) hk)
    · exact ih fun m' hm' => hmid m' (List.mem_append_left _ hm')

/-- A key that is pressed was pressed last, with other keys since. -/
theorem exists_press {es : List TapEvent} (h : pressed k (es.map TapEvent.key)) :
    ∃ past p mid, es = past ++ p :: mid ∧ p.key.keycode = k ∧ p.key.duration = 0 ∧
      ∀ m ∈ mid, m.key.keycode ≠ k := by
  induction es using List.reverseRecOn with
  | nil => exact absurd h Bool.false_ne_true
  | append_singleton es e ih =>
    rw [List.map_append, List.map_singleton, pressed_concat] at h
    by_cases hk : e.key.keycode = k
    · rw [if_pos hk] at h
      exact ⟨es, e, [], rfl, hk, of_decide_eq_true h, by simp⟩
    · rw [if_neg hk] at h
      obtain ⟨past, p, mid, rfl, hp, hd, hmid⟩ := ih h
      refine ⟨past, p, mid ++ [e], by simp, hp, hd, ?_⟩
      intro m hm
      rcases List.mem_append.mp hm with hm | hm
      · exact hmid m hm
      · rw [List.mem_singleton.mp hm]
        exact hk

theorem paired_concat (keys : List Keypress) (key : Keypress) : Paired (keys ++ [key]) ↔
    Paired keys ∧ (key.duration ≠ 0 → pressed key.keycode keys) :=
  forall_split_concat (P := fun past (r : Keypress) => r.duration ≠ 0 → pressed r.keycode past)

end Keys

/-! ### One event -/

section Steps

variable {iDoubleTapTimeoutMs} {s : TapState} {e : TapEvent} {k : UInt8}

theorem run_concat (es : List TapEvent) (e : TapEvent) : run iDoubleTapTimeoutMs (es ++ [e]) =
    callbackAddKey iDoubleTapTimeoutMs (run iDoubleTapTimeoutMs es) e := by
  rw [run, List.foldl_append, List.foldl_cons, List.foldl_nil]

/-- A key that is dropped leaves no trace. -/
theorem callbackAddKey_dropped (h : ¬ forwards iDoubleTapTimeoutMs s e) :
    callbackAddKey iDoubleTapTimeoutMs s e = s := by
  unfold callbackAddKey
  by_cases hpress : dropsPress iDoubleTapTimeoutMs s e
  · rw [if_pos hpress]
  · have hrelease : dropsRelease iDoubleTapTimeoutMs s e := by
      by_contra hrelease
      exact h ⟨hpress, hrelease⟩
    rw [if_neg hpress, if_pos hrelease]

/-- A key that is passed on is the last one, and its release is young from then on. -/
theorem callbackAddKey_forwarded (h : forwards iDoubleTapTimeoutMs s e) :
    (callbackAddKey iDoubleTapTimeoutMs s e).forwarded = s.forwarded ++ [e.key] ∧
      (callbackAddKey iDoubleTapTimeoutMs s e).lastKeypress = e.key ∧
      (e.key.duration = 0 → (callbackAddKey iDoubleTapTimeoutMs s e).iLastKeyreleaseTime = 0) := by
  unfold callbackAddKey
  rw [if_neg h.1, if_neg h.2]
  split
  · exact ⟨rfl, rfl, fun _ => rfl⟩
  · next hd => exact ⟨rfl, rfl, fun h => absurd h hd⟩

/-- A key other than the last one is passed on. -/
theorem forwards_other (h : s.lastKeypress.keycode ≠ e.key.keycode) :
    forwards iDoubleTapTimeoutMs s e :=
  ⟨fun hd => h hd.2.2.1, fun hd => h hd.2.2.1⟩

/-- A press does not get lost to the window of the releases, nor a release to that of the presses. -/
theorem not_forwards_press (hd : e.key.duration = 0) :
    ¬ forwards iDoubleTapTimeoutMs s e ↔ dropsPress iDoubleTapTimeoutMs s e := by
  constructor
  · intro h
    by_contra hpress
    exact h ⟨hpress, fun hrelease => hrelease.1 hd⟩
  · exact fun hpress h => h.1 hpress

theorem not_forwards_release (hd : e.key.duration ≠ 0) :
    ¬ forwards iDoubleTapTimeoutMs s e ↔ dropsRelease iDoubleTapTimeoutMs s e := by
  constructor
  · intro h
    by_contra hrelease
    exact h ⟨fun hpress => hd hpress.1, hrelease⟩
  · exact fun hrelease h => h.2 hrelease

/-- Among events of other keys, the first one takes the place of the last key. -/
theorem lastKeypress_other {mid : List TapEvent} (hmid : ∀ m ∈ mid, m.key.keycode ≠ k)
    (hne : mid ≠ []) (hlast : s.lastKeypress.keycode = k) :
    (mid.foldl (callbackAddKey iDoubleTapTimeoutMs) s).lastKeypress.keycode ≠ k := by
  induction mid using List.reverseRecOn with
  | nil => exact absurd rfl hne
  | append_singleton mid m ih =>
    have hm : m.key.keycode ≠ k := hmid m (by simp)
    rw [List.foldl_append, List.foldl_cons, List.foldl_nil]
    set s' := mid.foldl (callbackAddKey iDoubleTapTimeoutMs) s with hs'
    by_cases hforward : forwards iDoubleTapTimeoutMs s' m
    · rw [(callbackAddKey_forwarded hforward).2.1]
      exact hm
    · rw [callbackAddKey_dropped hforward]
      by_cases hnil : mid = []
      · -- the first event of another key is not dropped
        have hs : s' = s := by rw [hs', hnil, List.foldl_nil]
        exact absurd (forwards_other (by rw [hs, hlast]; exact hm.symm)) hforward
      · exact ih (fun m' hm' => hmid m' (List.mem_append_left _ hm')) hnil

/-- Events of other keys do not change what the application saw of a key. -/
theorem pressed_forwarded_other {mid : List TapEvent} (hmid : ∀ m ∈ mid, m.key.keycode ≠ k) :
    pressed k (mid.foldl (callbackAddKey iDoubleTapTimeoutMs) s).forwarded =
      pressed k s.forwarded := by
  induction mid using List.reverseRecOn with
  | nil => rw [List.foldl_nil]
  | append_singleton mid m ih =>
    rw [List.foldl_append, List.foldl_cons, List.foldl_nil]
    have ih := ih fun m' hm' => hmid m' (List.mem_append_left _ hm')
    set s' := mid.foldl (callbackAddKey iDoubleTapTimeoutMs) s
    by_cases hforward : forwards iDoubleTapTimeoutMs s' m
    · rw [(callbackAddKey_forwarded hforward).1, pressed_concat, if_neg (hmid m (by simp)), ih]
    · rw [callbackAddKey_dropped hforward, ih]

end Steps

/-! ### Runs -/

section Runs

variable {iDoubleTapTimeoutMs} {es : List TapEvent}

/-- The release of a press that was passed on is not dropped: a release is young only when it is the
    last thing that was passed on. -/
structure Synced (es : List TapEvent) (s : TapState) : Prop where
  young : s.iLastKeyreleaseTime ≠ 0 → ¬ pressed s.lastKeypress.keycode s.forwarded
  seen : ∀ k, pressed k s.forwarded → pressed k (es.map TapEvent.key)

theorem synced_step {s : TapState} {e : TapEvent} (h : Synced es s) :
    Synced (es ++ [e]) (callbackAddKey iDoubleTapTimeoutMs s e) := by
  by_cases hforward : forwards iDoubleTapTimeoutMs s e
  · obtain ⟨hkeys, hlast, hrelease⟩ := callbackAddKey_forwarded hforward
    constructor
    · intro hyoung hpressed
      rw [hkeys, hlast, pressed_concat, if_pos rfl] at hpressed
      exact hyoung (hrelease (of_decide_eq_true hpressed))
    · intro k hpressed
      rw [hkeys, pressed_concat] at hpressed
      rw [List.map_append, List.map_singleton, pressed_concat]
      split
      · next hk => rwa [if_pos hk] at hpressed
      · next hk =>
        rw [if_neg hk] at hpressed
        exact h.seen k hpressed
  · rw [callbackAddKey_dropped hforward]
    refine ⟨h.young, fun k hpressed => ?_⟩
    rw [List.map_append, List.map_singleton, pressed_concat]
    split
    · next hk =>
      -- a release that is dropped belongs to a press that was dropped
      by_contra hd
      have hd : e.key.duration ≠ 0 := fun h => hd (decide_eq_true h)
      obtain ⟨-, -, hlast, hyoung, -⟩ := (not_forwards_release hd).mp hforward
      rw [← hk, ← hlast] at hpressed
      exact h.young hyoung hpressed
    · exact h.seen k hpressed

theorem synced_run (es : List TapEvent) : Synced es (run iDoubleTapTimeoutMs es) := by
  induction es using List.reverseRecOn with
  | nil => exact ⟨fun h => absurd rfl h, fun k h => absurd h Bool.false_ne_true⟩
  | append_singleton es e ih =>
    rw [run_concat]
    exact synced_step ih

/-- The releases that were passed on, one by one. -/
theorem paired_run (es : List TapEvent) : Paired (run iDoubleTapTimeoutMs es).forwarded ↔
    ∀ past e later, es = past ++ e :: later → e.key.duration ≠ 0 →
      forwards iDoubleTapTimeoutMs (run iDoubleTapTimeoutMs past) e →
      pressed e.key.keycode (run iDoubleTapTimeoutMs past).forwarded := by
  induction es using List.reverseRecOn with
  | nil =>
    constructor
    · rintro - past e later h
      simp at h
    · rintro - past r later h
      change [] = _ at h
      simp at h
  | append_singleton es e ih =>
    rw [forall_split_concat (P := fun past e => e.key.duration ≠ 0 →
      forwards iDoubleTapTimeoutMs (run iDoubleTapTimeoutMs past) e →
      pressed e.key.keycode (run iDoubleTapTimeoutMs past).forwarded), ← ih, run_concat]
    by_cases hforward : forwards iDoubleTapTimeoutMs (run iDoubleTapTimeoutMs es) e
    · rw [(callbackAddKey_forwarded hforward).1, paired_concat]
      exact and_congr_right fun _ => ⟨fun h hd _ => h hd, fun h hd => h hd hforward⟩
    · rw [callbackAddKey_dropped hforward]
      exact ⟨fun h => ⟨h, fun _ hf => absurd hf hforward⟩, fun h => h.1⟩

/-- The release of a press that was dropped is dropped iff it comes at once, and within the timeout
    of the release before. The application saw no press for it. -/
theorem release_of_dropped {past mid : List TapEvent} {p r : TapEvent} {later : List TapEvent}
    (halt : Alternating (past ++ p :: mid ++ r :: later))
    (hdrop : dropsPress iDoubleTapTimeoutMs (run iDoubleTapTimeoutMs past) p)
    (hmid : ∀ m ∈ mid, m.key.keycode ≠ p.key.keycode) (hkey : r.key.keycode = p.key.keycode)
    (hd : r.key.duration ≠ 0) :
    ¬ pressed p.key.keycode (run iDoubleTapTimeoutMs (past ++ p :: mid)).forwarded ∧
    (¬ forwards iDoubleTapTimeoutMs (run iDoubleTapTimeoutMs (past ++ p :: mid)) r ↔
      mid = [] ∧ (run iDoubleTapTimeoutMs past).iLastKeyreleaseTime ≠ 0 ∧
        r.now - (run iDoubleTapTimeoutMs past).iLastKeyreleaseTime <
          iDoubleTapTimeoutMs.toNat) := by
  obtain ⟨hpress, henabled, hlast, -⟩ := id hdrop
  have hrun : run iDoubleTapTimeoutMs (past ++ p :: mid) =
      mid.foldl (callbackAddKey iDoubleTapTimeoutMs) (run iDoubleTapTimeoutMs past) := by
    rw [run, List.foldl_append, List.foldl_cons,
      callbackAddKey_dropped ((not_forwards_press hpress).mpr hdrop)]
  have hseen : ¬ pressed p.key.keycode (run iDoubleTapTimeoutMs past).forwarded := by
    intro h
    have hopen := (synced_run past).seen p.key.keycode h
    have hrelease := (halt past p (mid ++ r :: later) (by simp)).mpr hopen
    exact hrelease hpress
  rw [hrun]
  refine ⟨by rwa [pressed_forwarded_other hmid], ?_⟩
  rw [not_forwards_release hd]
  by_cases hnil : mid = []
  · rw [hnil, List.foldl_nil, dropsRelease]
    exact ⟨fun h => ⟨rfl, h.2.2.2.1, h.2.2.2.2⟩,
      fun h => ⟨hd, henabled, hlast.trans hkey.symm, h.2.1, h.2.2⟩⟩
  · have hother := @lastKeypress_other iDoubleTapTimeoutMs _ _ mid hmid hnil hlast
    exact ⟨fun h => absurd (h.2.2.1.trans hkey) hother, fun h => absurd h.1 hnil⟩

/-- The first release after a press that was passed on is passed on. -/
theorem release_of_forwarded {past mid : List TapEvent} {p r : TapEvent} {later : List TapEvent}
    (halt : Alternating (past ++ p :: mid ++ r :: later)) (hpress : p.key.duration = 0)
    (hforward : forwards iDoubleTapTimeoutMs (run iDoubleTapTimeoutMs past) p)
    (hmid : ∀ m ∈ mid, m.key.keycode = p.key.keycode → m.key.duration = 0)
    (hkey : r.key.keycode = p.key.keycode) (hd : r.key.duration ≠ 0) :
    forwards iDoubleTapTimeoutMs (run iDoubleTapTimeoutMs (past ++ p :: mid)) r := by
  obtain ⟨-, hlast, hrelease⟩ := callbackAddKey_forwarded hforward
  have hrun : run iDoubleTapTimeoutMs (past ++ p :: mid) =
      mid.foldl (callbackAddKey iDoubleTapTimeoutMs)
        (callbackAddKey iDoubleTapTimeoutMs (run iDoubleTapTimeoutMs past) p) := by
    rw [run, List.foldl_append, List.foldl_cons]
  -- without a release there is no second press either
  have hother : ∀ m ∈ mid, m.key.keycode ≠ p.key.keycode := by
    intro m hm hk
    obtain ⟨mid₁, mid₂, rfl⟩ := List.append_of_mem hm
    have hheld : pressed p.key.keycode ((past ++ p :: mid₁).map TapEvent.key) := by
      rw [List.append_cons, List.map_append]
      refine pressed_append_held ?_ fun key hkey' hk' => ?_
      · rw [List.map_append, List.map_singleton, pressed_concat, if_pos rfl]
        exact decide_eq_true hpress
      · obtain ⟨m', hm', rfl⟩ := List.mem_map.mp hkey'
        exact hmid m' (List.mem_append_left _ hm') hk'
    have hrelease := (halt (past ++ p :: mid₁) m (mid₂ ++ r :: later) (by simp)).mpr (hk ▸ hheld)
    exact hrelease (hmid m hm hk)
  rw [hrun]
  by_contra hdrop
  obtain ⟨-, -, hkey', hyoung, -⟩ := (not_forwards_release hd).mp hdrop
  by_cases hnil : mid = []
  · rw [hnil, List.foldl_nil] at hyoung
    exact hyoung (hrelease hpress)
  · exact lastKeypress_other hother hnil (by rw [hlast]) (hkey'.trans hkey)

/-- The application sees pairs iff every press that is dropped is followed at once by its release,
    which comes within the timeout of the release that was passed on before. -/
theorem forwardedInPairs_iff (halt : Alternating es) :
    ForwardedInPairs iDoubleTapTimeoutMs es ↔ DoubleTapsWhole iDoubleTapTimeoutMs es := by
  constructor
  · rintro ⟨hpaired, -⟩ past p mid r later hes hdrop hmid hkey hd
    subst hes
    obtain ⟨hnone, hiff⟩ := release_of_dropped halt hdrop hmid hkey hd
    refine hiff.mp fun hforward => ?_
    have hseen := (paired_run _).mp hpaired (past ++ p :: mid) r later rfl hd hforward
    exact hnone (hkey ▸ hseen)
  · intro hwhole
    refine ⟨(paired_run es).mpr fun before r later hes hd hforward => ?_, ?_⟩
    · -- the press before the release was passed on, or both are dropped
      have hheld := (halt before r later hes).mp hd
      obtain ⟨past, p, mid, rfl, hkey, hpress, hmid⟩ := exists_press hheld
      subst hes
      rw [← hkey] at hmid ⊢
      by_cases hp : forwards iDoubleTapTimeoutMs (run iDoubleTapTimeoutMs past) p
      · rw [run, List.foldl_append, List.foldl_cons, pressed_forwarded_other hmid,
          (callbackAddKey_forwarded hp).1, pressed_concat, if_pos rfl]
        exact decide_eq_true hpress
      · have hdrop := (not_forwards_press hpress).mp hp
        have hwhole := hwhole past p mid r later rfl hdrop hmid hkey.symm hd
        exact absurd hforward ((release_of_dropped halt hdrop hmid hkey.symm hd).2.mpr hwhole)
    · rintro past p mid r later rfl hpress hforward hmid hkey hd
      exact release_of_forwarded halt hpress hforward hmid hkey hd

/-- A press that is reported twice, with both of its releases, is seen once. -/
theorem forwardedInPairs_twice : ForwardedInPairs 200
    [⟨1000, 1, 0⟩, ⟨1080, 1, 80⟩, ⟨1100, 1, 0⟩, ⟨1150, 1, 50⟩] := by
  refine (forwardedInPairs_iff (by decide)).mpr ?_
  rintro (_ | ⟨e₁, _ | ⟨e₂, _ | ⟨e₃, past⟩⟩⟩) p mid r later hes hdrop hmid hkey hd
  all_goals
    simp only [List.nil_append, List.cons_append, List.cons.injEq] at hes
  · obtain ⟨rfl, -⟩ := hes
    exact absurd hdrop (by decide)
  · obtain ⟨-, rfl, -⟩ := hes
    exact absurd hdrop.1 (by decide)
  · obtain ⟨rfl, rfl, rfl, hes⟩ := hes
    obtain ⟨rfl, rfl, -⟩ | ⟨m, mid, rfl⟩ : mid = [] ∧ r = ⟨1150, 1, 50⟩ ∧ later = [] ∨
        ∃ m mid', mid = m :: mid' := by
      cases mid with
      | nil => simpa [eq_comm] using hes
      | cons m mid => exact .inr ⟨m, mid, rfl⟩
    · exact ⟨rfl, by decide, by decide⟩
    · simp at hes
  · have hlen := congrArg List.length hes.2.2.2
    simp only [List.length_nil, List.length_append, List.length_cons] at hlen
    omega

/-- A press that is dropped while its release, 250 ms after the one before, is not. -/
theorem not_forwardedInPairs : ¬ ∀ (iDoubleTapTimeoutMs : UInt32) (es : List TapEvent),
    Alternating es → (es.map TapEvent.now).Pairwise (· ≤ ·) →
    ForwardedInPairs iDoubleTapTimeoutMs es := by
  intro h
  have hpaired := (h 200 [⟨1000, 1, 0⟩, ⟨1050, 1, 50⟩, ⟨1100, 1, 0⟩, ⟨1300, 1, 200⟩] (by decide)
    (by decide)).1
  have hlast := hpaired [⟨1, 0⟩, ⟨1, 50⟩] ⟨1, 200⟩ [] (by decide) (by decide)
  exact absurd hlast (by decide)

end Runs

end DoubleTap

end CEC
