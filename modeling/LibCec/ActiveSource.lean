import LibCec.CommandFrame
import LibCec.Ownership

/-! At most one active source.

    The flag of a device is set by `MarkAsActiveSource`, which clears those of all the others
    before anything else happens; every other path only clears flags. `uniqueSource_of_run` puts
    this together for every order of received commands, local source switches and resets:

        received, ActivateSource, MarkAs(In)ActiveSource, SetActiveRoute, SetStreamPath,
        TransmitPendingActiveSourceCommands, ResetDeviceStatus, SetDeviceStatus, GetStatus -/

namespace CEC
open Schemes Procedure

/-- What happens to the active source. -/
inductive SourceEvent where
  | received (command : Command)
  | activateSource (a : Fin 16) (iDelay : ℕ)
  | markAsActiveSource (a : Fin 16)
  | markAsInactiveSource (a : Fin 16)
  | setActiveRoute (a : Fin 16) (iRoute : UInt16)
  | setStreamPath (a : Fin 16) (iNewAddress iOldAddress : UInt16)
  | transmitPendingActiveSourceCommands
  | setPowerStatus (a : Fin 16) (p : PowerStatus)
  | resetDeviceStatus (a : Fin 16)
  | setDeviceStatus (a : Fin 16) (newStatus : DeviceStatus)
  | getStatus (a : Fin 16) (bForcePoll : Bool)

/-- The call that the event makes; `n` bounds the depth of the reactions. -/
def SourceEvent.run (n : ℕ) : SourceEvent → HandlerProc Unit
  | received command => processCommand (react n) command
  | activateSource a iDelay => onWorld (discard (CEC.activateSource (react n) a iDelay))
  | markAsActiveSource a => onWorld (CEC.markAsActiveSource (react n) a)
  | markAsInactiveSource a => onWorld (CEC.markAsInactiveSource a)
  | setActiveRoute a iRoute => onWorld (CEC.setActiveRoute (react n) a iRoute)
  | setStreamPath a new old => onWorld (CEC.setStreamPath (react n) a new old)
  | transmitPendingActiveSourceCommands => onWorld
      (forEach (fun a => discard (handlerActivateSource (react n) a true)) (List.finRange 16))
  | setPowerStatus a p => onWorld (CEC.setPowerStatus (react n) a p)
  | resetDeviceStatus a => onWorld (CEC.resetDeviceStatus a)
  | setDeviceStatus a newStatus => onWorld (CEC.setDeviceStatus a newStatus)
  | getStatus a bForcePoll => onWorld (discard (CEC.getStatus a bForcePoll))

/-! ### What keeps the active source unique -/

/-- At most one device is active afterwards, if at most one was. -/
def KeepsUnique (s s' : World) : Prop := UniqueSource s → UniqueSource s'

theorem keepsUnique_composable : Composable KeepsUnique :=
  ⟨fun _ => id, fun h₁ h₂ hs => h₂ (h₁ hs)⟩

theorem keeps_unique {α : Type} {x : Proc α} (h : Keeps (BusFrame ∅) x) : Keeps KeepsUnique x :=
  h.mono fun h => h.unique

/-- A change of one device that sets no flag. -/
theorem keepsUnique_updateDevice {a : Fin 16} {f : Device → Device} (s : World)
    (hactive : ∀ d, (f d).activeSource → d.activeSource) : KeepsUnique s (s.updateDevice a f) := by
  intro hs b c hb hc
  refine hs b c ?_ ?_
  · rw [updateDevice_devices] at hb
    split at hb
    · next h => exact h ▸ hactive _ hb
    · exact hb
  · rw [updateDevice_devices] at hc
    split at hc
    · next h => exact h ▸ hactive _ hc
    · exact hc

theorem keepsUnique_storePowerStatus (s : World) (a : Fin 16) (p : PowerStatus) :
    KeepsUnique s (s.storePowerStatus a p) := (busFrame_storePowerStatus (K := ∅) s a p).unique

theorem keeps_unique_resetDeviceStatus (a : Fin 16) :
    Keeps KeepsUnique (resetDeviceStatus a) :=
  keeps_resetDeviceStatus keepsUnique_composable (fun s => keepsUnique_storePowerStatus s a)
    fun s _ => keepsUnique_updateDevice s

theorem keeps_unique_setDeviceStatus (a : Fin 16) (newStatus : DeviceStatus) :
    Keeps KeepsUnique (setDeviceStatus a newStatus) :=
  keeps_setDeviceStatus keepsUnique_composable (fun s => keepsUnique_storePowerStatus s a)
    (fun _ s _ => keepsUnique_updateDevice s) newStatus

theorem keeps_unique_getStatus (a : Fin 16) (bForcePoll : Bool) :
    Keeps KeepsUnique (getStatus a bForcePoll) := by
  have hU := keepsUnique_composable
  refine keeps_ite (fun _ => keeps_pure hU _) fun _ => ?_
  refine keeps_bind hU (keeps_ask hU _) fun needsPoll => ?_
  refine keeps_ite (fun _ => ?_) fun _ => keeps_ask hU _
  refine keeps_bind hU ?_ fun acked => ?_
  · refine keeps_bind hU (keeps_ask hU _) fun handled => ?_
    refine keeps_ite (fun _ => keeps_pure hU _) fun _ => ?_
    refine keeps_bind hU (keeps_unique keeps_observe) fun o => ?_
    exact keeps_bind hU (keeps_unique_setDeviceStatus a _) fun _ => keeps_pure hU _
  · exact keeps_bind hU (keeps_unique_setDeviceStatus a _) fun _ => keeps_pure hU _

/-! ### Runs -/

theorem keeps_unique_onWorld {α : Type} {x : Proc α} (h : Keeps KeepsUnique x) :
    Keeps (fun s s' : Session => KeepsUnique s.world s'.world) (onWorld x) :=
  keeps_zoom h fun _ _ h => h

/-- Every event keeps the active source unique. -/
theorem keeps_unique_run (n : ℕ) (e : SourceEvent) :
    Keeps (fun s s' => KeepsUnique s.world s'.world) (e.run n) := by
  have hreact : ReactionsKeep (BusFrame ∅) (react n) := reactionsKeep_react n
  have hU := keepsUnique_composable
  cases e with
  | received command =>
    exact fun s a s' h =>
      (keeps_processCommand (fun _ => reactionsKeep_react n) command s a s' h).unique
  | activateSource a iDelay =>
    exact keeps_unique_onWorld (keeps_unique (keeps_discard (keeps_activateSource hreact a iDelay)))
  | markAsActiveSource a =>
    exact keeps_unique_onWorld (keeps_unique (keeps_markAsActiveSource hreact a))
  | markAsInactiveSource a =>
    exact keeps_unique_onWorld (keeps_unique (keeps_markAsInactiveSource a))
  | setActiveRoute a iRoute =>
    exact keeps_unique_onWorld (keeps_unique (keeps_setActiveRoute hreact a iRoute))
  | setStreamPath a new old =>
    exact keeps_unique_onWorld (keeps_unique (keeps_setStreamPath hreact a new old))
  | transmitPendingActiveSourceCommands =>
    refine keeps_unique_onWorld (keeps_forEach hU (fun a => ?_) _)
    exact keeps_unique (keeps_discard (keeps_handlerActivateSource hreact a true))
  | setPowerStatus a p =>
    exact keeps_unique_onWorld (keeps_unique (keeps_setPowerStatus hreact a p))
  | resetDeviceStatus a => exact keeps_unique_onWorld (keeps_unique_resetDeviceStatus a)
  | setDeviceStatus a newStatus =>
    exact keeps_unique_onWorld (keeps_unique_setDeviceStatus a newStatus)
  | getStatus a bForcePoll =>
    exact keeps_unique_onWorld (keeps_discard (keeps_unique_getStatus a bForcePoll))

/-- After any run from the start at most one device is the active source. -/
theorem uniqueSource_of_run {n : ℕ} {events : List SourceEvent} {s s' : Session}
    (hstart : s.world.AtStart) (h : Returns (forEach (SourceEvent.run n) events) s () s') :
    UniqueSource s'.world := by
  have hcomposable : Composable fun s s' : Session => KeepsUnique s.world s'.world :=
    ⟨fun s => keepsUnique_composable.refl s.world, fun h₁ h₂ hs => h₂ (h₁ hs)⟩
  have hkeep := keeps_forEach hcomposable (fun e => keeps_unique_run n e) events s () s' h
  refine hkeep fun a b ha _ => ?_
  rw [hstart.activeSource a] at ha
  exact absurd ha nofun

/-- Two devices report that they are the active source, a third one is activated here and one of
    the first two is reset. -/
def threeSources : List SourceEvent :=
  [.received { Command.clear with
      initiator := .addr 4, destination := .addr 15, opcodeSet := true, opcode := 0x82
      parameters := BoundedBuffer.empty.pushAll [0x20, 0x00] },
    .received { Command.clear with
      initiator := .addr 3, destination := .addr 15, opcodeSet := true, opcode := 0x82
      parameters := BoundedBuffer.empty.pushAll [0x30, 0x00] },
    .markAsActiveSource 8, .resetDeviceStatus 3]

/-- A session with a playback device that nobody answers. -/
def quietSession : Session :=
  .start (.start (fun _ => clientFor [.playbackDevice]) fun _ => .silent)

theorem uniqueSource_of_three_sources : ∃ s',
    Returns (forEach (SourceEvent.run 2) threeSources) quietSession () s' ∧
    UniqueSource s'.world := by
  obtain ⟨u, s', h⟩ := exists_returns (x := forEach (SourceEvent.run 2) threeSources)
    (s := quietSession) (by decide +kernel)
  exact ⟨s', h, uniqueSource_of_run (atStart_start _ _ fun _ => rfl) h⟩

end CEC
