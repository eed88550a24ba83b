import LibCec.Schemes.Procedure

/-! Procedures that keep a record on the side.

    `get` takes the state of a procedure with a record to that of one without. `Erases get t x` says
    that `t` is `x` with a record: without the record it does the same and returns the same, or does
    not return either. It is closed under everything a procedure is made of, so that a function with
    a record is compared with the one without it line by line. -/

namespace Schemes

namespace Procedure

variable {S T α β ι : Type} {get : T → S}

/-- Without its record `t` is `x`. -/
def Erases (get : T → S) (t : Procedure T α) (x : Procedure S α) : Prop :=
  ∀ s, (t s).map (fun p => (p.1, get p.2)) = x (get s)

theorem erases_pure (a : α) : Erases get (pure a) (pure a) := fun _ => rfl

theorem erases_stuck : Erases get (stuck : Procedure T α) stuck := fun _ => rfl

theorem erases_bind {t : Procedure T α} {x : Procedure S α} {f : α → Procedure T β}
    {g : α → Procedure S β} (h : Erases get t x) (hf : ∀ a, Erases get (f a) (g a)) :
    Erases get (t >>= f) (x >>= g) := by
  intro s
  rw [bind_run, bind_run, ← h s]
  cases t s with
  | none => rfl
  | some p => exact hf p.1 p.2

theorem erases_ask (f : S → α) : Erases get (ask fun s => f (get s)) (ask f) := fun _ => rfl

/-- What only changes the record is not there without it. -/
theorem erases_record {g : T → T} (h : ∀ s, get (g s) = get s) {t : Procedure T α}
    {x : Procedure S α} (ht : Erases get t x) : Erases get (update g >>= fun _ => t) x := by
  intro s
  rw [update_bind, ht (g s), h]

/-- What is only read for the record is not there without it. -/
theorem erases_read {f : T → β} {t : β → Procedure T α} {x : Procedure S α}
    (h : ∀ b, Erases get (t b) x) : Erases get (ask f >>= t) x := by
  intro s
  rw [ask_bind]
  exact h (f s) s

/-- Where `t` returns more than `x` does, what follows may make use of it. -/
theorem erases_bind_map {g : α → ι} {t : Procedure T α} {x : Procedure S ι}
    {f : α → Procedure T β} {k : ι → Procedure S β} (h : Erases get (t >>= fun a => pure (g a)) x)
    (hf : ∀ a, Erases get (f a) (k (g a))) : Erases get (t >>= f) (x >>= k) := by
  intro s
  rw [bind_run, bind_run, ← h s, bind_run]
  cases t s with
  | none => rfl
  | some p => exact hf p.1 p.2

theorem erases_ite {c : Prop} [Decidable c] {t t' : Procedure T α} {x x' : Procedure S α}
    (h : Erases get t x) (h' : Erases get t' x') :
    Erases get (if c then t else t') (if c then x else x') := by
  split
  · exact h
  · exact h'

theorem erases_callOr {c : Prop} [Decidable c] {d : α} {t : Procedure T α} {x : Procedure S α}
    (h : Erases get t x) : Erases get (callOr c d t) (callOr c d x) := erases_ite h (erases_pure d)

theorem erases_discard {t : Procedure T α} {x : Procedure S α} (h : Erases get t x) :
    Erases get (discard t) (discard x) := erases_bind h fun _ => erases_pure ()

/-- A procedure without a record, called beside one. -/
theorem erases_zoom {set : S → T → T} (h : ∀ u s, get (set u s) = u) (x : Procedure S α) :
    Erases get (zoom get set x) x := by
  intro s
  rw [zoom]
  cases x (get s) with
  | none => rfl
  | some p => simp [h]

/-- What holds of every return of `x` holds of every return of `t`. -/
theorem Erases.returns {t : Procedure T α} {x : Procedure S α} (h : Erases get t x) {s s' : T}
    {a : α} (ht : Returns t s a s') : Returns x (get s) a (get s') := by
  have hs := h s
  rw [show t s = some (a, s') from ht] at hs
  exact hs.symm

/-- A return of `x` is one of `t`, with some record. -/
theorem Erases.exists_returns {t : Procedure T α} {x : Procedure S α} (h : Erases get t x) {s : T}
    {s₁ : S} {a : α} (hx : Returns x (get s) a s₁) : ∃ s', Returns t s a s' ∧ get s' = s₁ := by
  have hs := h s
  rw [show x (get s) = some (a, s₁) from hx, Option.map_eq_some_iff] at hs
  obtain ⟨⟨b, s'⟩, ht, heq⟩ := hs
  obtain ⟨rfl, rfl⟩ := Prod.mk.inj heq
  exact ⟨s', ht, rfl⟩

end Procedure

end Schemes
