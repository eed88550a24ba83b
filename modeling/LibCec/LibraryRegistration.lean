import LibCec.LibraryFrame
import LibCec.MaskRecord
import LibCec.Ownership

/-! Registering a client with the library (`CLibCEC::RegisterClient`).

    The new client is entered in the library before the processor is asked to register it:

        new CCECClient ─▶ m_clients ─▶ m_client, if unset ─▶ RegisterClient of the processor
                                                               │
                            newClient = CECClientPtr() ◀─ false ┘

    When that fails the client is not returned, but it stays where it was entered. -/

namespace CEC
open Schemes Procedure

/-- `LIBCEC_VERSION_TO_UINT`. -/
def libcecVersionToUint (major minor patch : UInt32) : UInt32 :=
  if major < 2 ∨ major = 2 ∧ minor ≤ 2 then major <<< 8 ||| minor <<< 4 ||| patch
  else major <<< 16 ||| minor <<< 8 ||| patch

/-- `CLibCEC`. Its clients are part of the world, where the processor sees them. -/
structure Library where
  /-- whether there is a processor, `m_cec` -/
  hasProcessor : Bool
  /-- whether `m_client` is set -/
  hasClient : Bool
  masking : Masking

/-- A call of the library. -/
abbrev LibraryProc (α : Type) := Procedure Library α

namespace Library

/-- The processor, its devices and the clients. -/
def world (s : Library) : World := s.masking.world

/-- `m_clients`. -/
def clients (s : Library) : List ClientId := s.world.libClients

/-- `m_client`. -/
def client (s : Library) : Option ClientId := if s.hasClient then some s.world.libClient else none

/-- A call into the processor or a client. -/
def within {α : Type} (x : MaskingProc α) : LibraryProc α :=
  zoom Library.masking (fun m s => { s with masking := m }) x

/-- The constructor of `CCECClient`. While it takes over its settings the client cannot be
    registered, as it is looked for among the clients of the library. -/
def newClient (n : ℕ) (c : ClientId) (configuration : Configuration) : LibraryProc Unit := do
  within (Masking.quietly (update (World.updateClient c fun _ => ⟨.clear, false, false⟩)))
  within (Masking.setConfiguration (react n) (fun _ => pure false) c configuration)

/-- `RegisterClient`, where `c` is the object that is created: the client that is returned, if one
    is, and the configuration of the caller. -/
def registerClient (n : ℕ) (c : ClientId) (configuration : Configuration) :
    LibraryProc (Option ClientId × Configuration) := do
  let s ← ask id
  if !s.hasProcessor then pure (none, configuration)
  else if configuration.clientVersion < libcecVersionToUint 4 0 0 then pure (none, configuration)
  else
    newClient n c configuration
    within (Masking.quietly (update fun w => { w with libClients := w.libClients ++ [c] }))
    -- if the default client isn't set, set it
    callWhen (!s.hasClient) do
      within (Masking.quietly (update fun w => { w with libClient := c }))
      update fun s => { s with hasClient := true }
    let initialised ← ask fun s => s.world.initialised
    if !initialised then pure (some c, configuration)
    else
      let registered ← within (Masking.registerClient n c)
      if !registered then pure (none, configuration)
      else
        -- update the current configuration
        let m ← ask fun s => s.world.configuration c
        pure (some c, m.getCurrentConfiguration configuration)

end Library

/-! ### Traces -/

/-- The library and its processor are as they were. -/
structure LeavesNoTrace (s s' : Library) : Prop where
  clients : s'.clients = s.clients
  client : s'.client = s.client
  free : ∀ a, s.world.isHandled a = false → s'.world.isHandled a = false
  entries : s'.world.clients = s.world.clients
  mask : s'.masking.lastMask = s.masking.lastMask

theorem leavesNoTrace_refl (s : Library) : LeavesNoTrace s s := ⟨rfl, rfl, fun _ h => h, rfl, rfl⟩

/-- A call that keeps the clients of the library in the world. -/
theorem clients_within {α : Type} {x : MaskingProc α} {y : Proc α} {s s' : Library} {r : α}
    (herases : Erases Masking.world x y) (hkeeps : Keeps SameLibrary y)
    (h : Returns (Library.within x) s r s') : s'.clients = s.clients := by
  obtain ⟨m, hm, rfl⟩ := returns_zoom.mp h
  exact (hkeeps _ _ _ (herases.returns hm)).clients

theorem clients_update {f : World → World} {s s' : Library} {u : Unit}
    (h : Returns (Library.within (Masking.quietly (update f))) s u s') :
    s'.clients = (f s.world).libClients := by
  obtain ⟨m, hm, rfl⟩ := returns_zoom.mp h
  obtain ⟨w, hw, rfl⟩ := returns_zoom.mp hm
  exact congrArg World.libClients (returns_update.mp hw)

theorem clients_newClient {n : ℕ} {c : ClientId} {x : Configuration} {s s' : Library}
    (h : Returns (Library.newClient n c x) s () s') : s'.clients = s.clients := by
  obtain ⟨_, s₁, h₁, h₂⟩ := returns_bind.mp h
  have hcreated : s₁.clients = s.clients := clients_update h₁
  have hset : Keeps SameLibrary (setConfiguration (react n) (fun _ => pure false) c x) :=
    sameLibrary_setConfiguration (reactionsKeep_react n) (keeps_pure sameLibrary_composable false) x
  exact (clients_within (Masking.erases_setConfiguration _ (erases_pure false) x) hset h₂).trans
    hcreated

/-- A client that the processor could not register is in the list all the same. -/
theorem listed_of_failed {n : ℕ} {c : ClientId} {x x' : Configuration} {s s' : Library}
    (hprocessor : s.hasProcessor = true) (hversion : ¬x.clientVersion < libcecVersionToUint 4 0 0)
    (h : Returns (Library.registerClient n c x) s (none, x') s') :
    s'.clients = s.clients ++ [c] := by
  have h := returns_ask_bind.mp h
  rw [if_neg (by simpa using hprocessor), if_neg hversion] at h
  obtain ⟨_, s₁, h₁, h⟩ := returns_bind.mp h
  obtain ⟨_, s₂, h₂, h⟩ := returns_bind.mp h
  obtain ⟨_, s₃, h₃, h⟩ := returns_bind.mp h
  have hentered : s₂.clients = s.clients ++ [c] := by
    rw [← clients_newClient h₁]
    exact clients_update h₂
  have hdefault : s₃.clients = s₂.clients := by
    rcases returns_callOr.mp h₃ with ⟨-, h₃⟩ | ⟨-, -, rfl⟩
    · obtain ⟨_, s₄, h₄, h₃⟩ := returns_bind.mp h₃
      rw [returns_update.mp h₃]
      exact clients_update h₄
    · rfl
  have h := returns_ask_bind.mp h
  split at h
  · exact absurd (returns_pure.mp h).1 nofun
  obtain ⟨registered, s₄, h₄, h⟩ := returns_bind.mp h
  have hkept : s₄.clients = s₃.clients :=
    clients_within (Masking.erases_registerClient n c) (sameLibrary_registerClient n c) h₄
  split at h
  · rw [(returns_pure.mp h).2, hkept, hdefault, hentered]
  · exact absurd (returns_pure.mp (returns_ask_bind.mp h)).1 nofun

/-- A call that returns no client leaves no trace just when it did not get to create one. -/
theorem leavesNoTrace_iff {n : ℕ} {c : ClientId} {x x' : Configuration} {s s' : Library}
    (h : Returns (Library.registerClient n c x) s (none, x') s') :
    LeavesNoTrace s s' ↔
      s.hasProcessor = false ∨ x.clientVersion < libcecVersionToUint 4 0 0 := by
  constructor
  · intro htrace
    by_contra hcreates
    obtain ⟨hprocessor, hversion⟩ := not_or.mp hcreates
    have hlisted := listed_of_failed (Bool.not_eq_false _ ▸ hprocessor) hversion h
    exact absurd (hlisted.symm.trans htrace.clients) (by simp)
  · have h := returns_ask_bind.mp h
    rintro (hnone | hold)
    · rw [if_pos (by simpa using hnone)] at h
      rw [(returns_pure.mp h).2]
      exact leavesNoTrace_refl _
    · rw [if_pos hold] at h
      have h : s' = s := by
        split at h <;> exact (returns_pure.mp h).2
      rw [h]
      exact leavesNoTrace_refl s

/-- A library with an open adapter and no clients yet. -/
def Library.opened (outside : Outside) : Library where
  hasProcessor := true
  hasClient := false
  masking := ⟨{ World.start (fun _ => .clear) fun _ => outside with libClients := [] }, none⟩

/-- A client that was built against version 3 is turned away. -/
theorem leavesNoTrace_iff_version3 : ∃ s',
    Returns (Library.registerClient 1 0 { clientFor [.playbackDevice] with clientVersion := 0x030000 })
      (.opened .silent) (none, { clientFor [.playbackDevice] with clientVersion := 0x030000 }) s' ∧
    LeavesNoTrace (.opened .silent) s' := by
  have h : Returns
      (Library.registerClient 1 0 { clientFor [.playbackDevice] with clientVersion := 0x030000 })
      (.opened .silent) (none, { clientFor [.playbackDevice] with clientVersion := 0x030000 })
      (.opened .silent) := rfl
  exact ⟨_, h, (leavesNoTrace_iff h).mpr (.inr (by decide))⟩

/-- A client that asks for a playback device and an audio system, on a bus with another audio
    system, is not returned, and is the default client afterwards. -/
theorem failedRegistration_leaves_client :
    ¬∀ (n : ℕ) (c : ClientId) (x x' : Configuration) (s s' : Library),
      Returns (Library.registerClient n c x) s (none, x') s' → LeavesNoTrace s s' := by
  intro hall
  let s := Library.opened { Outside.silent with pollAcked := (· = 5) }
  obtain ⟨⟨r, x'⟩, s', h⟩ := exists_returns
    (x := Library.registerClient 1 0 (clientFor [.playbackDevice, .audioSystem])) (s := s)
    (by decide +kernel)
  have hfailed := h.of_all (p := fun r t => r.1.isNone && decide (t.client = some 0))
    (by decide +kernel)
  simp only [Bool.and_eq_true, Option.isNone_iff_eq_none, decide_eq_true_eq] at hfailed
  obtain ⟨rfl, hclient⟩ := hfailed
  have hnone : s'.client = none := (hall 1 0 _ x' s s' h).client
  exact absurd (hclient.symm.trans hnone) nofun

end CEC
