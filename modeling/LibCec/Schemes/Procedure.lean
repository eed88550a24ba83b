import LibCec.Schemes.GuardedRun

/-! Procedures that read and change a state and may never return.

    A procedure is a state transformer with a result; `none` stands for a call that does not come
    back, such as a loop that waits for a flag nobody clears. `Returns x s a s'` says that `x`,
    called in `s`, comes back with `a` and leaves `s'`. Two kinds of facts are derived from it.

    * `Keeps R x`: every return of `x` leaves a state that `R` relates to the one it was called in.
      For a relation that composes this is closed under everything a procedure is made of.
    * `Guarded` runs of procedures: what every guarded call preserves holds after every run. -/

namespace Schemes

/-- A state transformer that may not return. -/
abbrev Procedure (S α : Type) := StateT S Option α

namespace Procedure

variable {S α β ι : Type}

/-- Read something off the state. -/
def ask (f : S → α) : Procedure S α := fun s => some (f s, s)

/-- Change the state. -/
def update (f : S → S) : Procedure S Unit := fun s => some ((), f s)

/-- A call that never comes back. -/
def stuck : Procedure S α := fun _ => none

/-- Call `x` if the condition holds; the result is `d` if it does not. -/
def callOr (c : Prop) [Decidable c] (d : α) (x : Procedure S α) : Procedure S α :=
  if c then x else pure d

/-- Call `x` if the condition holds. -/
abbrev callWhen (c : Prop) [Decidable c] (x : Procedure S Unit) : Procedure S Unit := callOr c () x

/-- Call `f` for each element of a list, in order. -/
def forEach (f : ι → Procedure S Unit) : List ι → Procedure S Unit
  | [] => pure ()
  | i :: is => do
    f i
    forEach f is

/-- Call a procedure on a part of the state. -/
def zoom {T : Type} (get : S → T) (set : T → S → S) (x : Procedure T α) : Procedure S α :=
  fun s => (x (get s)).map fun p => (p.1, set p.2 s)

/-- `x`, called in `s`, returns `a` and leaves `s'`. -/
def Returns (x : Procedure S α) (s : S) (a : α) (s' : S) : Prop := x s = some (a, s')

section returns

variable {s s' : S} {a : α} {b : β}

@[simp] theorem returns_pure {b' : β} :
    Returns (pure b : Procedure S β) s b' s' ↔ b' = b ∧ s' = s := by
  constructor
  · intro h
    have h := Option.some.inj h
    exact ⟨(congrArg Prod.fst h).symm, (congrArg Prod.snd h).symm⟩
  · rintro ⟨rfl, rfl⟩
    rfl

/-- A sequence returns when both of its parts do, one after the other. -/
theorem returns_bind {x : Procedure S α} {f : α → Procedure S β} :
    Returns (x >>= f) s b s' ↔ ∃ a s₁, Returns x s a s₁ ∧ Returns (f a) s₁ b s' := by
  constructor
  · intro h
    obtain ⟨⟨a, s₁⟩, hx, hf⟩ := Option.bind_eq_some_iff.mp h
    exact ⟨a, s₁, hx, hf⟩
  · rintro ⟨a, s₁, hx, hf⟩
    exact Option.bind_eq_some_iff.mpr ⟨(a, s₁), hx, hf⟩

theorem returns_discard {x : Procedure S α} {u : Unit} :
    Returns (discard x) s u s' ↔ ∃ a, Returns x s a s' := by
  have hrun : discard x s = (x s).bind fun p => some ((), p.2) := rfl
  simp only [Returns, hrun, Option.bind_eq_some_iff, Option.some.injEq, Prod.mk.injEq, true_and,
    Prod.exists]
  constructor
  · rintro ⟨a, _, h, rfl⟩
    exact ⟨a, h⟩
  · rintro ⟨a, h⟩
    exact ⟨a, s', h, rfl⟩

@[simp] theorem returns_ask {f : S → α} : Returns (ask f) s a s' ↔ a = f s ∧ s' = s := by
  constructor
  · intro h
    have h := Option.some.inj h
    exact ⟨(congrArg Prod.fst h).symm, (congrArg Prod.snd h).symm⟩
  · rintro ⟨rfl, rfl⟩
    rfl

@[simp] theorem returns_update {f : S → S} {u : Unit} :
    Returns (update f) s u s' ↔ s' = f s := by
  refine ⟨fun h => ?_, fun h => h ▸ rfl⟩
  exact (congrArg Prod.snd (Option.some.inj h)).symm

/-- Reading first does not change what comes after. -/
theorem returns_ask_bind {f : S → α} {k : α → Procedure S β} :
    Returns (ask f >>= k) s b s' ↔ Returns (k (f s)) s b s' := Iff.rfl

theorem returns_update_bind {f : S → S} {k : Unit → Procedure S β} :
    Returns (update f >>= k) s b s' ↔ Returns (k ()) (f s) b s' := Iff.rfl

theorem returns_callOr {c : Prop} [Decidable c] {d : α} {x : Procedure S α} :
    Returns (callOr c d x) s a s' ↔ c ∧ Returns x s a s' ∨ ¬c ∧ a = d ∧ s' = s := by
  unfold callOr
  split
  · next h => simp [h]
  · next h => simp [h]

/-- A call on a part of the state leaves the rest as it is. -/
theorem returns_zoom {T : Type} {get : S → T} {set : T → S → S} {x : Procedure T α} :
    Returns (zoom get set x) s a s' ↔ ∃ t, Returns x (get s) a t ∧ s' = set t s := by
  simp only [Returns, zoom, Option.map_eq_some_iff, Prod.mk.injEq, Prod.exists]
  constructor
  · rintro ⟨_, t, hx, rfl, rfl⟩
    exact ⟨t, hx, rfl⟩
  · rintro ⟨t, hx, rfl⟩
    exact ⟨a, t, hx, rfl, rfl⟩

/-- A call returns in one way only. -/
theorem Returns.unique {x : Procedure S α} {a' : α} {s'' : S} (h : Returns x s a s')
    (h' : Returns x s a' s'') : a' = a ∧ s'' = s' := by
  have heq := Option.some.inj (h'.symm.trans h)
  exact ⟨congrArg Prod.fst heq, congrArg Prod.snd heq⟩

/-- A call whose result was computed returns. -/
theorem exists_returns {x : Procedure S α} (h : (x s).isSome) : ∃ a s', Returns x s a s' := by
  obtain ⟨⟨a, s'⟩, hs⟩ := Option.isSome_iff_exists.mp h
  exact ⟨a, s', hs⟩

/-- What was computed of a call holds of the way in which it returns. -/
theorem Returns.of_all {x : Procedure S α} {p : α → S → Bool} (h : Returns x s a s')
    (hall : (x s).all fun r => p r.1 r.2) : p a s' := by
  rw [show x s = some (a, s') from h] at hall
  exact hall

@[simp] theorem not_returns_stuck : ¬Returns (stuck : Procedure S α) s a s' := nofun

end returns

/-! ### Sequencing equations, for calls whose result is computed -/

@[simp] theorem ask_bind (f : S → α) (k : α → Procedure S β) (s : S) :
    (ask f >>= k) s = k (f s) s := rfl

@[simp] theorem update_bind (f : S → S) (k : Unit → Procedure S β) (s : S) :
    (update f >>= k) s = k () (f s) := rfl

@[simp] theorem pure_run (a : α) (s : S) : (pure a : Procedure S α) s = some (a, s) := rfl

@[simp] theorem update_run (f : S → S) (s : S) : update f s = some ((), f s) := rfl

@[simp] theorem ask_run (f : S → α) (s : S) : ask f s = some (f s, s) := rfl

@[simp] theorem stuck_run (s : S) : (stuck : Procedure S α) s = none := rfl

theorem bind_run (x : Procedure S α) (k : α → Procedure S β) (s : S) :
    (x >>= k) s = (x s).bind fun p => k p.1 p.2 := rfl

/-- A call whose first part comes back goes on in the state that part leaves. -/
theorem bind_run_of_returns {x : Procedure S α} {k : α → Procedure S β} {s s₁ : S} {a : α}
    (h : Returns x s a s₁) : (x >>= k) s = k a s₁ := by
  rw [bind_run, show x s = some (a, s₁) from h]
  rfl

/-- Only what is reached matters to what comes after. -/
theorem bind_congr_returns {x : Procedure S α} {f g : α → Procedure S β} {s : S}
    (h : ∀ a s₁, Returns x s a s₁ → f a s₁ = g a s₁) : (x >>= f) s = (x >>= g) s := by
  rw [bind_run, bind_run]
  cases hx : x s with
  | none => rfl
  | some r => exact h r.1 r.2 hx

/-! ### Parts of the state -/

/-- `get` reads a part of the state and `set` writes the same part. -/
structure IsPart {T : Type} (get : S → T) (set : T → S → S) : Prop where
  get_set : ∀ t s, get (set t s) = t
  set_get : ∀ s, set (get s) s = s
  set_set : ∀ t t' s, set t' (set t s) = set t' s

section parts

variable {T : Type} {get : S → T} {set : T → S → S} (h : IsPart get set)
include h

theorem zoom_pure (a : α) : zoom get set (pure a) = pure a := by
  funext s
  exact congrArg (fun u => some (a, u)) (h.set_get s)

theorem zoom_ask (f : T → α) : zoom get set (ask f) = ask fun s => f (get s) := by
  funext s
  exact congrArg (fun u => some (f (get s), u)) (h.set_get s)

/-- A sequence on a part is a sequence of calls on the part. -/
theorem zoom_bind (x : Procedure T α) (f : α → Procedure T β) :
    zoom get set (x >>= f) = zoom get set x >>= fun a => zoom get set (f a) := by
  funext s
  rw [bind_run, zoom, zoom, bind_run]
  cases x (get s) with
  | none => rfl
  | some p =>
    simp only [Option.bind_some, Option.map_some, zoom, h.get_set]
    cases f p.1 p.2 with
    | none => rfl
    | some q => simp only [Option.map_some, h.set_set]

theorem zoom_callOr {c : Prop} [Decidable c] (d : α) (x : Procedure T α) :
    zoom get set (callOr c d x) = callOr c d (zoom get set x) := by
  unfold callOr
  split
  · rfl
  · exact zoom_pure h d

theorem zoom_discard (x : Procedure T α) :
    zoom get set (discard x) = discard (zoom get set x) := by
  have hbind := zoom_bind h x fun _ => pure ()
  rw [zoom_pure h] at hbind
  exact hbind

end parts

theorem zoom_ite {T : Type} {get : S → T} {set : T → S → S} {c : Prop} [Decidable c]
    (x y : Procedure T α) :
    zoom get set (if c then x else y) = if c then zoom get set x else zoom get set y := by
  split <;> rfl

/-! ### What a procedure keeps -/

/-- A relation between states that nothing and one thing after another keep. -/
structure Composable (R : S → S → Prop) : Prop where
  refl : ∀ s, R s s
  trans : ∀ {s t u}, R s t → R t u → R s u

/-- What `x` does in the state `s`, when it returns, keeps `R`. -/
def KeepsAt (R : S → S → Prop) (s : S) (x : Procedure S α) : Prop :=
  ∀ a s', Returns x s a s' → R s s'

/-- What `x` does, when it returns, keeps `R`. -/
def Keeps (R : S → S → Prop) (x : Procedure S α) : Prop := ∀ s, KeepsAt R s x

theorem Keeps.mono {Q R : S → S → Prop} {x : Procedure S α} (h : Keeps Q x)
    (hQ : ∀ {s t}, Q s t → R s t) : Keeps R x := fun s a s' hx => hQ (h s a s' hx)

section keeps

variable {R : S → S → Prop} (hR : Composable R)
include hR

theorem keeps_pure (a : α) : Keeps R (pure a : Procedure S α) := by
  intro s b s' h
  rw [(returns_pure.mp h).2]
  exact hR.refl s

theorem keepsAt_pure (a : α) (s : S) : KeepsAt R s (pure a : Procedure S α) := keeps_pure hR a s

theorem keepsAt_bind {s : S} {x : Procedure S α} {f : α → Procedure S β} (hx : KeepsAt R s x)
    (hf : ∀ a s₁, Returns x s a s₁ → KeepsAt R s₁ (f a)) : KeepsAt R s (x >>= f) := by
  intro b s' h
  obtain ⟨a, s₁, hxs, hfs⟩ := returns_bind.mp h
  exact hR.trans (hx a s₁ hxs) (hf a s₁ hxs b s' hfs)

theorem keeps_bind {x : Procedure S α} {f : α → Procedure S β} (hx : Keeps R x)
    (hf : ∀ a, Keeps R (f a)) : Keeps R (x >>= f) :=
  fun s => keepsAt_bind hR (hx s) fun a s₁ _ => hf a s₁

theorem keeps_ask (f : S → α) : Keeps R (ask f) := by
  intro s a s' h
  rw [(returns_ask.mp h).2]
  exact hR.refl s

theorem keeps_forEach {f : ι → Procedure S Unit} (hf : ∀ i, Keeps R (f i)) :
    ∀ is : List ι, Keeps R (forEach f is)
  | [] => keeps_pure hR ()
  | i :: is => keeps_bind hR (hf i) fun _ => keeps_forEach hf is

end keeps

variable {R : S → S → Prop}

/-- What is read first is what holds where the rest goes on. -/
theorem keeps_ask_bind {f : S → α} {k : α → Procedure S β} (hk : ∀ s, KeepsAt R s (k (f s))) :
    Keeps R (ask f >>= k) := fun s _ _ h => hk s _ _ h

theorem keepsAt_ask_bind {f : S → α} {k : α → Procedure S β} {s : S}
    (hk : KeepsAt R s (k (f s))) : KeepsAt R s (ask f >>= k) := hk

theorem keepsAt_update {f : S → S} {s : S} (h : R s (f s)) : KeepsAt R s (update f) := by
  intro _ s' hs
  rw [returns_update.mp hs]
  exact h

theorem keeps_update {f : S → S} (h : ∀ s, R s (f s)) : Keeps R (update f) :=
  fun s => keepsAt_update (h s)

theorem keeps_stuck : Keeps R (stuck : Procedure S α) := fun _ _ _ h => (not_returns_stuck h).elim

theorem keepsAt_ite {c : Prop} [Decidable c] {s : S} {x y : Procedure S α}
    (hx : c → KeepsAt R s x) (hy : ¬c → KeepsAt R s y) : KeepsAt R s (if c then x else y) := by
  split
  · next h => exact hx h
  · next h => exact hy h

theorem keeps_ite {c : Prop} [Decidable c] {x y : Procedure S α}
    (hx : c → Keeps R x) (hy : ¬c → Keeps R y) : Keeps R (if c then x else y) :=
  fun s => keepsAt_ite (fun h => hx h s) (fun h => hy h s)

theorem keepsAt_callOr (hR : Composable R) {c : Prop} [Decidable c] {s : S} {x : Procedure S α}
    {d : α} (hx : c → KeepsAt R s x) : KeepsAt R s (callOr c d x) :=
  keepsAt_ite hx fun _ => keepsAt_pure hR d s

theorem keeps_callOr (hR : Composable R) {c : Prop} [Decidable c] {x : Procedure S α} {d : α}
    (hx : Keeps R x) : Keeps R (callOr c d x) := fun s => keepsAt_callOr hR fun _ => hx s

theorem keeps_discard {x : Procedure S α} (hx : Keeps R x) :
    Keeps R (discard x) := by
  intro s u s' h
  obtain ⟨a, ha⟩ := returns_discard.mp h
  exact hx s a s' ha

/-- What a call keeps of a part of the state, it keeps of the whole. -/
theorem keeps_zoom {T : Type} {Q : T → T → Prop} {get : S → T} {set : T → S → S}
    {x : Procedure T α} (hx : Keeps Q x) (h : ∀ s t, Q (get s) t → R s (set t s)) :
    Keeps R (zoom get set x) := by
  intro s a s' hs
  obtain ⟨t, ht, rfl⟩ := returns_zoom.mp hs
  exact h s t (hx (get s) a t ht)

/-! ### What a procedure returns -/

/-- What `x`, called in the state `s`, returns when it does satisfies `p`. -/
def Yields (p : α → Prop) (s : S) (x : Procedure S α) : Prop := ∀ a s', Returns x s a s' → p a

section yields

variable {p : β → Prop} {s : S}

theorem yields_pure {b : β} (h : p b) : Yields p s (pure b : Procedure S β) := by
  intro b' s' hs
  rw [(returns_pure.mp hs).1]
  exact h

/-- What the second part returns does not depend on where the first one leaves the state. -/
theorem yields_bind {x : Procedure S α} {f : α → Procedure S β}
    (hf : ∀ a s₁, Returns x s a s₁ → Yields p s₁ (f a)) : Yields p s (x >>= f) := by
  intro b s' h
  obtain ⟨a, s₁, hx, hs⟩ := returns_bind.mp h
  exact hf a s₁ hx b s' hs

theorem yields_ask_bind {f : S → α} {k : α → Procedure S β} (hk : Yields p s (k (f s))) :
    Yields p s (ask f >>= k) := hk

theorem yields_ite {c : Prop} [Decidable c] {x y : Procedure S β} (hx : c → Yields p s x)
    (hy : ¬c → Yields p s y) : Yields p s (if c then x else y) := by
  split
  · next h => exact hx h
  · next h => exact hy h

theorem yields_zoom {T : Type} {get : S → T} {set : T → S → S} {x : Procedure T β}
    (hx : Yields p (get s) x) : Yields p s (zoom get set x) := by
  intro b s' h
  obtain ⟨t, ht, -⟩ := returns_zoom.mp h
  exact hx b t ht

end yields

/-! ### Procedures that always return -/

/-- `x` comes back from every state. -/
def Terminates (x : Procedure S α) : Prop := ∀ s, ∃ a s', Returns x s a s'

theorem terminates_pure (a : α) : Terminates (pure a : Procedure S α) :=
  fun s => ⟨a, s, returns_pure.mpr ⟨rfl, rfl⟩⟩

theorem terminates_ask (f : S → α) : Terminates (ask f) :=
  fun s => ⟨f s, s, returns_ask.mpr ⟨rfl, rfl⟩⟩

theorem terminates_update (f : S → S) : Terminates (update f) :=
  fun s => ⟨(), f s, returns_update.mpr rfl⟩

theorem terminates_bind {x : Procedure S α} {f : α → Procedure S β} (hx : Terminates x)
    (hf : ∀ a, Terminates (f a)) : Terminates (x >>= f) := by
  intro s
  obtain ⟨a, s₁, hxs⟩ := hx s
  obtain ⟨b, s₂, hfs⟩ := hf a s₁
  exact ⟨b, s₂, returns_bind.mpr ⟨a, s₁, hxs, hfs⟩⟩

theorem terminates_ite {c : Prop} [Decidable c] {x y : Procedure S α} (hx : Terminates x)
    (hy : Terminates y) : Terminates (if c then x else y) := by
  split
  · exact hx
  · exact hy

theorem terminates_callOr {c : Prop} [Decidable c] {d : α} {x : Procedure S α}
    (hx : Terminates x) : Terminates (callOr c d x) := terminates_ite hx (terminates_pure d)

theorem terminates_discard {x : Procedure S α} (hx : Terminates x) : Terminates (discard x) := by
  intro s
  obtain ⟨a, s', h⟩ := hx s
  exact ⟨(), s', returns_discard.mpr ⟨a, h⟩⟩

theorem terminates_forEach {f : ι → Procedure S Unit} (hf : ∀ i, Terminates (f i)) :
    ∀ is : List ι, Terminates (forEach f is)
  | [] => terminates_pure ()
  | i :: is => terminates_bind (hf i) fun _ => terminates_forEach hf is

/-! ### Runs of calls -/

/-- Every call of the run that is reached meets its guard. -/
def GuardedCalls (call : ι → Procedure S Unit) (guard : S → ι → Prop) : S → List ι → Prop
  | _, [] => True
  | s, i :: is => guard s i ∧ ∀ s₁, Returns (call i) s () s₁ → GuardedCalls call guard s₁ is

/-- What every guarded call preserves holds in the state a guarded run leaves. -/
theorem GuardedCalls.invariant {call : ι → Procedure S Unit} {guard : S → ι → Prop}
    {Inv : S → Prop}
    (hcall : ∀ s i s', Inv s → guard s i → Returns (call i) s () s' → Inv s') :
    ∀ {is : List ι} {s s' : S}, GuardedCalls call guard s is → Inv s →
      Returns (forEach call is) s () s' → Inv s'
  | [], s, s', _, hs, hret => by rw [(returns_pure.mp hret).2]; exact hs
  | i :: is, s, s', h, hs, hret => by
    obtain ⟨_, s₁, hi, his⟩ := returns_bind.mp hret
    exact invariant hcall (h.2 s₁ hi) (hcall s i s₁ hs h.1 hi) his

end Procedure

end Schemes
