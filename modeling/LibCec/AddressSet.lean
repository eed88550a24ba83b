import LibCec.Configuration
import LibCec.Schemes.GuardedRun

/-! The set of logical addresses as its two kinds of readers see it.

    A `cec_logical_addresses` has a primary address beside its array. `IsEmpty` looks at the primary
    address alone, `AckMask` at the array alone:

        Set(a)      primary := a, when there is none      addresses[a] := 1
        Unset(a)    no primary, when it is a              addresses[a] := 0

    Taking away the primary address leaves the others in the array without making one of them the
    primary one. `addressSet_consistent_iff` says that only this sets the two readings apart. -/

namespace CEC
open Schemes

namespace LogicalAddresses

/-- `Unset`. -/
def unset (l : LogicalAddresses) (a : Fin 16) : LogicalAddresses where
  primary := if l.primary = a then 15 else l.primary
  addresses := Function.update l.addresses a false

theorem isSet_unset {l : LogicalAddresses} {a b : Fin 16} :
    (l.unset a).isSet b ↔ b ≠ a ∧ l.isSet b := by
  rcases eq_or_ne b a with rfl | h
  · simp [isSet, unset]
  · simp [isSet, unset, h]

/-- What is done to a set of the addresses `0..14`. -/
inductive Change where
  | clear
  | set (a : Fin 15)
  | unset (a : Fin 15)
  deriving DecidableEq

def change (l : LogicalAddresses) : Change → LogicalAddresses
  | .clear => .clear
  | .set a => l.set a.castSucc
  | .unset a => l.unset a.castSucc

/-- The two readings agree, and the primary address of a set that is not empty is in it. -/
structure Consistent (l : LogicalAddresses) : Prop where
  empty : l.isEmpty ↔ l.ackMask = 0
  primary : l.isEmpty = false → l.isSet l.primary

/-- The primary address is only taken away as the last one. -/
def KeepsPrimary (l : LogicalAddresses) : Change → Prop
  | .unset a => l.primary = a.castSucc → ∀ b, l.isSet b → b = a.castSucc
  | _ => True

instance (l : LogicalAddresses) : Decidable l.Consistent :=
  decidable_of_iff ((l.isEmpty ↔ l.ackMask = 0) ∧ (l.isEmpty = false → l.isSet l.primary))
    ⟨fun h => ⟨h.1, h.2⟩, fun h => ⟨h.empty, h.primary⟩⟩

/-! ### The two readings -/

/-- A mask is zero when none of its bits was set. -/
theorem foldl_mask_eq_zero_iff : ∀ (places : List ℕ) (mask : UInt16), (∀ n ∈ places, n < 16) →
    (places.foldl (fun mask n => mask ||| 1 <<< UInt16.ofNat n) mask = 0 ↔
      mask = 0 ∧ places = [])
  | [], mask, _ => by simp
  | n :: places, mask, h => by
    have hbit : ∀ a : Fin 16, (1 <<< UInt16.ofNat a : UInt16) ≠ 0 := by decide
    obtain ⟨hn, hplaces⟩ := List.forall_mem_cons.mp h
    rw [List.foldl_cons, foldl_mask_eq_zero_iff places _ hplaces]
    simp [hbit ⟨n, hn⟩]

theorem ackMask_eq_zero_iff {l : LogicalAddresses} : l.ackMask = 0 ↔ ∀ a, l.isSet a = false := by
  have hplaces : (l.toList >>= fun a => pure a.val) = l.toList.map Fin.val :=
    bind_pure_comp _ _
  have hbounds : ∀ n ∈ l.toList.map Fin.val, n < 16 := by
    intro n hn
    obtain ⟨a, -, rfl⟩ := List.mem_map.mp hn
    exact a.isLt
  rw [ackMask, hplaces, foldl_mask_eq_zero_iff _ _ hbounds, List.map_eq_nil_iff,
    List.eq_nil_iff_forall_not_mem]
  simp

/-- What holds of the set after any changes: 15 is not in it, and a primary address is. -/
structure Sound (l : LogicalAddresses) : Prop where
  unregistered : l.isSet 15 = false
  primary : l.primary ≠ 15 → l.isSet l.primary

theorem sound_clear : Sound .clear := ⟨rfl, fun h => absurd rfl h⟩

theorem Sound.set {l : LogicalAddresses} (h : l.Sound) (a : Fin 15) : (l.set a.castSucc).Sound := by
  have ha : (15 : Fin 16) ≠ a.castSucc := (Fin.castSucc_lt_last a).ne'
  refine ⟨?_, fun _ => ?_⟩
  · rw [← Bool.not_eq_true, isSet_set, h.unregistered]
    simp [ha]
  · rw [isSet_set]
    by_cases hnone : l.primary = 15
    · exact .inl (if_pos hnone)
    · have hprimary : (l.set a.castSucc).primary = l.primary := if_neg hnone
      rw [hprimary]
      exact .inr (h.primary hnone)

theorem Sound.unset {l : LogicalAddresses} (h : l.Sound) (a : Fin 15) :
    (l.unset a.castSucc).Sound := by
  refine ⟨?_, fun hprimary => ?_⟩
  · rw [← Bool.not_eq_true, isSet_unset, h.unregistered]
    simp
  · rw [isSet_unset]
    by_cases ha : l.primary = a.castSucc
    · exact absurd (if_pos ha) hprimary
    · have hsame : (l.unset a.castSucc).primary = l.primary := if_neg ha
      rw [hsame] at hprimary ⊢
      exact ⟨ha, h.primary hprimary⟩

theorem Sound.change {l : LogicalAddresses} (h : l.Sound) (c : Change) : (l.change c).Sound := by
  cases c with
  | clear => exact sound_clear
  | set a => exact h.set a
  | unset a => exact h.unset a

/-- The two readings agree when a set without a primary address is empty. -/
theorem Sound.consistent_iff {l : LogicalAddresses} (h : l.Sound) :
    l.Consistent ↔ (l.primary = 15 → ∀ a, l.isSet a = false) := by
  have hempty : l.isEmpty ↔ l.primary = 15 := decide_eq_true_iff
  constructor
  · intro hl hnone
    exact ackMask_eq_zero_iff.mp (hl.empty.mp (hempty.mpr hnone))
  · intro hall
    refine ⟨⟨fun he => ackMask_eq_zero_iff.mpr (hall (hempty.mp he)), fun hmask => ?_⟩, fun he => ?_⟩
    · rw [hempty]
      by_contra hprimary
      have hset := h.primary hprimary
      rw [ackMask_eq_zero_iff.mp hmask] at hset
      exact absurd hset Bool.false_ne_true
    · refine h.primary fun hnone => ?_
      rw [hempty.mpr hnone] at he
      exact absurd he (by decide)

/-! ### Runs -/

/-- From a consistent set, a change leads to a consistent one iff it keeps the primary address. -/
theorem consistent_change_iff {l : LogicalAddresses} (hsound : l.Sound) (hl : l.Consistent)
    (c : Change) : (l.change c).Consistent ↔ l.KeepsPrimary c := by
  rw [(hsound.change c).consistent_iff]
  have hempty := hsound.consistent_iff.mp hl
  cases c with
  | clear => exact iff_of_true (fun _ _ => rfl) trivial
  | set a =>
    refine iff_of_true (fun hnone => ?_) trivial
    have hset := (hsound.set a).primary
    simp only [change, LogicalAddresses.set] at hnone
    split at hnone
    · exact absurd hnone (Fin.castSucc_lt_last a).ne
    · next h => exact absurd hnone h
  | unset a =>
    have hiff : ∀ b, (l.unset a.castSucc).isSet b = false ↔ (l.isSet b → b = a.castSucc) := by
      intro b
      rw [← Bool.not_eq_true, isSet_unset]
      tauto
    simp only [change, KeepsPrimary, hiff]
    constructor
    · intro h hprimary
      exact h (if_pos hprimary)
    · intro h hnone b hb
      by_cases hprimary : l.primary = a.castSucc
      · exact h hprimary b hb
      · have hsame : (l.unset a.castSucc).primary = l.primary := if_neg hprimary
        rw [hempty (hsame ▸ hnone) b] at hb
        exact absurd hb Bool.false_ne_true

/-- Along any changes, the two readings agree all the time iff none of the changes takes away the
    primary address of a set in which there is another one. -/
theorem addressSet_consistent_iff (changes : List Change) :
    (∀ past later, changes = past ++ later → (past.foldl change clear).Consistent) ↔
      Guarded change KeepsPrimary clear changes := by
  have hclear : clear.Consistent := sound_clear.consistent_iff.mpr fun _ _ => rfl
  rw [forall_prefix_iff, and_iff_right hclear]
  refine guarded_iff (fun l => l.Sound ∧ l.Consistent) (fun l c h => ?_) (fun l c h hkeeps => ?_)
    changes ⟨sound_clear, hclear⟩
  · exact consistent_change_iff h.1 h.2 c
  · exact ⟨h.1.change c, (consistent_change_iff h.1 h.2 c).mpr hkeeps⟩

/-- A recorder and a player, of which the recorder is taken away: the set counts as empty, and its
    mask is the player's. -/
theorem not_consistent_without_primary :
    ¬ ∀ changes : List Change, (changes.foldl change clear).Consistent := by
  intro h
  exact absurd (h [.set 1, .set 4, .unset 1]) (by decide)

end LogicalAddresses

end CEC
