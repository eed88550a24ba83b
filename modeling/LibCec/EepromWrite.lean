import LibCec.AdapterSettings
import Mathlib.Data.Fintype.Option

/-! Writing changed settings to the EEPROM.

    The adapter forgets its settings unless they are written to the EEPROM. `m_bNeedsWrite` says
    that there is something to write. The calls that set it and those that clear it run in any
    number of threads, and no lock is held while a command is out:

        SetSetting     check ──▶ m_bNeedsWrite ──▶ send ──▶ answer ──▶ keep the value
        WriteEEPROM    m_bNeedsWrite? ──▶ send ──▶ answer ──▶ clear m_bNeedsWrite

    `CAdapterEepromWriteThread` calls `WriteEEPROM` when it was asked to, at once or later, and
    again when that failed; `Close` calls it, too. `noLostUpdate_of_run` says which interleavings
    lose nothing. -/

namespace CEC
open Schemes

/-- `CEC_ADAPTER_EEPROM_WRITE_INTERVAL`. -/
def eepromWriteInterval : ℕ := 30000

/-- `CEC_ADAPTER_EEPROM_WRITE_RETRY`. -/
def eepromWriteRetry : ℕ := 5000

/-- How far a thread is with a `SetSetting` or a `WriteEEPROM` call; `since` is when the command to
    write was sent. -/
inductive EepromCall where
  | idle
  | set (x : Setting)
  | setSent (x : Setting)
  | setAnswered (x : Setting) (bReturn : Bool)
  | write
  | writeSent (since : ℕ)
  | writeAnswered (since : ℕ) (bReturn : Bool)
  deriving DecidableEq

/-- `k` threads and the EEPROM write thread, which is `none`. The last three fields are history: the
    number of steps, the last one in which the adapter took a setting, and the one in which the last
    write that it acknowledged was sent. -/
structure EepromState (k : ℕ) where
  commands : AdapterCommands
  calls : Option (Fin k) → EepromCall
  bWrite : Bool
  iScheduleEepromWrite : ℕ
  iLastEepromWrite : ℕ
  clock : ℕ
  acceptedAt : ℕ
  writtenAt : ℕ

/-- What happens next; `now` is the time in milliseconds. -/
inductive EepromEvent (k : ℕ) where
  | request (t : Fin k) (kind : SettingKind) (data : List UInt8)
  | setSetting (t : Fin k) (x : Setting)
  | writeEEPROM (t : Fin k)
  | schedule (now : ℕ)
  | process (now : ℕ)
  | send (t : Option (Fin k))
  | answer (t : Option (Fin k)) (outcome : SetOutcome)
  | finish (t : Option (Fin k)) (now : ℕ)

namespace EepromState

variable {k : ℕ}

def initial (iFirmwareVersion : ℕ) : EepromState k where
  commands := .initial iFirmwareVersion
  calls _ := .idle
  bWrite := false
  iScheduleEepromWrite := 0
  iLastEepromWrite := 0
  clock := 0
  acceptedAt := 0
  writtenAt := 0

def setCall (s : EepromState k) (t : Option (Fin k)) (c : EepromCall) : EepromState k :=
  { s with calls := Function.update s.calls t c }

/-- The check that a `SetSetting` call begins with. -/
def beginSet (s : EepromState k) (t : Fin k) (x : Setting) : EepromState k :=
  -- only supported by version 10 and later
  if x.kind = .autoPowerOn ∧ s.commands.iFirmwareVersion < 10 then s
  else if s.commands.saved.holds x then s
  -- `SetSettingOSDName` does not set the flag
  else if x.kind = .osdName then s.setCall t (.set x)
  else { s.setCall t (.set x) with commands := s.commands.markChanged }

/-- `Process` goes on after `WriteEEPROM`. -/
def afterWrite (s : EepromState k) (bReturn : Bool) (now : ℕ) : EepromState k :=
  if bReturn then { s with iLastEepromWrite := now, iScheduleEepromWrite := 0 }
  else { s with iScheduleEepromWrite := now + eepromWriteRetry }

/-- `CAdapterEepromWriteThread::Write`. -/
def scheduleWrite (s : EepromState k) (now : ℕ) : EepromState k :=
  if s.iScheduleEepromWrite = 0 then
    if s.iLastEepromWrite + eepromWriteInterval > now then
      { s with iScheduleEepromWrite := s.iLastEepromWrite + eepromWriteInterval }
    else { s with bWrite := true }
  else s

/-- An iteration of `Process`, up to the command that `WriteEEPROM` sends. -/
def process (s : EepromState k) (now : ℕ) : EepromState k :=
  if 0 < s.iScheduleEepromWrite ∧ s.iScheduleEepromWrite < now ∨ s.bWrite then
    let s := { s with bWrite := false }
    if s.commands.bNeedsWrite then s.setCall none .write else s.afterWrite true now
  else s

/-- What an event does, without the count. The write thread holds its lock while it writes. -/
def next (s : EepromState k) : EepromEvent k → EepromState k
  | .request t kind data =>
    if s.calls t = .idle then
      { s with commands := { s.commands with saved := (s.commands.saved.requestSetting kind data).2 } }
    else s
  | .setSetting t x => if s.calls t = .idle then s.beginSet t x else s
  | .writeEEPROM t =>
    if s.calls t = .idle ∧ s.commands.bNeedsWrite then s.setCall t .write else s
  | .schedule now => if s.calls none = .idle then s.scheduleWrite now else s
  | .process now => if s.calls none = .idle then s.process now else s
  | .send t =>
    match s.calls t with
    | .set x => s.setCall t (.setSent x)
    | .write => s.setCall t (.writeSent s.clock)
    | _ => s
  | .answer t outcome =>
    match s.calls t with
    | .setSent x =>
      { s.setCall t (.setAnswered x (outcome = .accepted)) with
        acceptedAt := if outcome = .refused then s.acceptedAt else s.clock }
    | .writeSent since =>
      { s.setCall t (.writeAnswered since (outcome = .accepted)) with
        writtenAt := if outcome = .accepted then max s.writtenAt since else s.writtenAt }
    | _ => s
  | .finish t now =>
    match s.calls t with
    | .setAnswered x bReturn =>
      { s.setCall t .idle with commands := if bReturn then s.commands.store x else s.commands }
    | .writeAnswered _ bReturn =>
      let s := { s.setCall t .idle with
        commands := { s.commands with bNeedsWrite := s.commands.bNeedsWrite && !bReturn } }
      if t = none then s.afterWrite bReturn now else s
    | _ => s

def step (s : EepromState k) (e : EepromEvent k) : EepromState k :=
  { s.next e with clock := s.clock + 1 }

/-- While no call is in progress, `m_bNeedsWrite` is true if a setting was accepted after the last
    acknowledged write was sent. -/
def NoLostUpdate (s : EepromState k) : Prop :=
  (∀ t, s.calls t = .idle) → s.writtenAt < s.acceptedAt → s.commands.bNeedsWrite

instance (s : EepromState k) : Decidable s.NoLostUpdate := inferInstanceAs (Decidable (_ → _ → _))

end EepromState

/-- The setting that a call waits for the answer to. -/
def EepromCall.sent : EepromCall → Option Setting
  | .setSent x => some x
  | _ => none

/-- When the write that was acknowledged to a call was sent. -/
def EepromCall.acknowledged : EepromCall → Option ℕ
  | .writeAnswered since true => some since
  | _ => none

namespace EepromState

variable {k : ℕ}

/-- A setting is only taken while the flag is set, and the flag is only cleared when no setting was
    taken since the write was sent. -/
def Careful (s : EepromState k) : EepromEvent k → Prop
  | .answer t outcome => (s.calls t).sent ≠ none → outcome ≠ .refused → s.commands.bNeedsWrite
  | .finish t _ => ∀ since ∈ (s.calls t).acknowledged, s.acceptedAt ≤ since
  | _ => True

instance (s : EepromState k) : ∀ e : EepromEvent k, Decidable (s.Careful e)
  | .answer _ _ => inferInstanceAs (Decidable (_ → _ → _))
  | .finish _ _ => inferInstanceAs (Decidable (∀ since ∈ _, _))
  | .request _ _ _ | .setSetting _ _ | .writeEEPROM _ | .schedule _ | .process _ | .send _ =>
    inferInstanceAs (Decidable True)

/-! ### A call of its own -/

/-- A setting that is sent, answered and kept without interruption. -/
theorem commands_sent {s : EepromState k} {t : Fin k} {x : Setting} (ht : s.calls t = .set x)
    (outcome : SetOutcome) (now : ℕ) :
    ([.send (some t), .answer (some t) outcome, .finish (some t) now].foldl step s).commands =
      if outcome = .accepted then s.commands.store x else s.commands := by
  simp [step, next, ht, setCall]

/-- A thread that nobody interrupts does what the `SetSetting` call does. -/
theorem commands_setSetting (s : EepromState k) {t : Fin k} (ht : s.calls t = .idle) (x : Setting)
    (outcome : SetOutcome) (now : ℕ) {w : SettingsWorld} (hw : w.commands = s.commands) :
    ([.setSetting t x, .send (some t), .answer (some t) outcome, .finish (some t) now].foldl step
      s).commands = (w.setSetting x outcome).2.commands := by
  rw [SettingsWorld.commands_setSetting, hw, List.foldl_cons]
  have hbegin : s.step (.setSetting t x) = { s.beginSet t x with clock := s.clock + 1 } := by
    simp only [step, next, if_pos ht]
  split
  · next hskip =>
    have hsame : s.beginSet t x = s := by
      unfold beginSet
      rcases hskip with h | h
      · rw [if_pos h]
      · simp [h]
    rw [hbegin, hsame]
    simp [step, next, ht]
  · next hsend =>
    obtain ⟨hknown, hchanged⟩ := not_or.mp hsend
    have hcall : (s.step (.setSetting t x)).calls t = .set x := by
      rw [hbegin, beginSet, if_neg hknown, if_neg hchanged]
      split <;> simp [setCall]
    rw [commands_sent hcall, hbegin, beginSet, if_neg hknown, if_neg hchanged]
    by_cases hname : x.kind = .osdName
    · rw [if_pos hname, if_pos hname]
      rfl
    · rw [if_neg hname, if_neg hname]

/-! ### Nothing is lost -/

/-- The flag covers every setting that was taken since the last acknowledged write was sent, and
    what a thread knows to be acknowledged has been counted. -/
structure Inv (s : EepromState k) : Prop where
  flag : s.writtenAt < s.acceptedAt → s.commands.bNeedsWrite
  acknowledged : ∀ t, ∀ since ∈ (s.calls t).acknowledged, since ≤ s.writtenAt

theorem inv_initial (iFirmwareVersion : ℕ) : (initial iFirmwareVersion : EepromState k).Inv where
  flag h := absurd h (lt_irrefl 0)
  acknowledged _ _ h := absurd h nofun

section steps

variable {s : EepromState k} {t : Option (Fin k)}

theorem calls_setCall (s : EepromState k) (t u : Option (Fin k)) (c : EepromCall) :
    (s.setCall t c).calls u = if u = t then c else s.calls u := by
  simp only [setCall, Function.update_apply]

/-- A call that learns of no acknowledgement keeps what the others know. -/
theorem Inv.acknowledged_setCall {c : EepromCall} (h : s.Inv) (hc : c.acknowledged = none)
    (u : Option (Fin k)) : ∀ since ∈ ((s.setCall t c).calls u).acknowledged, since ≤ s.writtenAt := by
  rw [calls_setCall]
  split
  · rw [hc]
    exact fun _ hmem => absurd hmem nofun
  · exact h.acknowledged u

/-- A step that takes nothing and clears nothing. -/
theorem Inv.setCall {c : EepromCall} (h : s.Inv) (hc : c.acknowledged = none) :
    (s.setCall t c).Inv := ⟨h.flag, h.acknowledged_setCall hc⟩

theorem inv_beginSet {u : Fin k} {x : Setting} (h : s.Inv) : (s.beginSet u x).Inv := by
  unfold beginSet
  split_ifs
  · exact h
  · exact h
  · exact h.setCall rfl
  · exact ⟨fun _ => rfl, h.acknowledged_setCall rfl⟩

theorem inv_afterWrite {bReturn : Bool} {now : ℕ} (h : s.Inv) : (s.afterWrite bReturn now).Inv := by
  unfold afterWrite
  split
  · exact ⟨h.flag, h.acknowledged⟩
  · exact ⟨h.flag, h.acknowledged⟩

theorem inv_scheduleWrite {now : ℕ} (h : s.Inv) : (s.scheduleWrite now).Inv := by
  unfold scheduleWrite
  split_ifs
  · exact ⟨h.flag, h.acknowledged⟩
  · exact ⟨h.flag, h.acknowledged⟩
  · exact h

theorem inv_process {now : ℕ} (h : s.Inv) : (s.process now).Inv := by
  have hwoken : ({ s with bWrite := false } : EepromState k).Inv := ⟨h.flag, h.acknowledged⟩
  unfold process
  split
  · dsimp only
    split
    · exact hwoken.setCall rfl
    · exact inv_afterWrite hwoken
  · exact h

theorem inv_send (h : s.Inv) : (s.next (.send t)).Inv := by
  simp only [next]
  split
  · exact h.setCall rfl
  · exact h.setCall rfl
  · exact h

/-- The adapter takes a setting, or acknowledges a write. -/
theorem inv_answer {outcome : SetOutcome} (h : s.Inv) (hcareful : s.Careful (.answer t outcome)) :
    (s.next (.answer t outcome)).Inv := by
  simp only [next]
  split
  · next x hx =>
    refine ⟨fun hlate => ?_, h.acknowledged_setCall rfl⟩
    cases outcome with
    | refused => exact h.flag hlate
    | accepted => exact hcareful (by simp [hx, EepromCall.sent]) nofun
    | lost => exact hcareful (by simp [hx, EepromCall.sent]) nofun
  · next since hx =>
    have hle : s.writtenAt ≤ (if outcome = .accepted then max s.writtenAt since else s.writtenAt) := by
      split
      · exact le_max_left _ _
      · exact le_rfl
    refine ⟨fun hlate => h.flag (hle.trans_lt hlate), fun u since' hmem => ?_⟩
    change since' ∈ ((s.setCall t _).calls u).acknowledged at hmem
    rw [calls_setCall] at hmem
    split at hmem
    · -- only an acknowledged write is known to be one
      by_cases hout : outcome = .accepted
      · simp only [hout, decide_true, EepromCall.acknowledged, Option.mem_def,
          Option.some.injEq] at hmem
        simp [hout, hmem]
      · simp [hout, EepromCall.acknowledged] at hmem
    · exact (h.acknowledged u since' hmem).trans hle
  · exact h

/-- A call keeps the value, or clears the flag, and returns. -/
theorem inv_finish {now : ℕ} (h : s.Inv) (hcareful : s.Careful (.finish t now)) :
    (s.next (.finish t now)).Inv := by
  simp only [next]
  split
  · refine ⟨fun hlate => ?_, h.acknowledged_setCall rfl⟩
    have hflag := h.flag hlate
    split
    · exact hflag
    · exact hflag
  · next since bReturn hx =>
    have hcleared : ({ s.setCall t .idle with commands :=
        { s.commands with bNeedsWrite := s.commands.bNeedsWrite && !bReturn } } :
          EepromState k).Inv := by
      refine ⟨fun hlate => ?_, h.acknowledged_setCall rfl⟩
      cases bReturn with
      | false => simpa using h.flag hlate
      | true =>
        -- nothing was taken since the write was sent
        have hknown : since ∈ (s.calls t).acknowledged := by rw [hx]; rfl
        have hsince := hcareful since hknown
        have hwritten := h.acknowledged t since hknown
        have hlate : s.writtenAt < s.acceptedAt := hlate
        omega
    split
    · exact inv_afterWrite hcleared
    · exact hcleared
  · exact h

/-- One careful step keeps the invariant. -/
theorem Inv.step {e : EepromEvent k} (h : s.Inv) (hcareful : s.Careful e) : (s.step e).Inv := by
  have hnext : (s.next e).Inv := by
    cases e with
    | request t kind data =>
      simp only [next]
      split
      · exact ⟨h.flag, h.acknowledged⟩
      · exact h
    | setSetting t x =>
      simp only [next]
      split
      · exact inv_beginSet h
      · exact h
    | writeEEPROM t =>
      simp only [next]
      split
      · exact h.setCall rfl
      · exact h
    | schedule now =>
      simp only [next]
      split
      · exact inv_scheduleWrite h
      · exact h
    | process now =>
      simp only [next]
      split
      · exact inv_process h
      · exact h
    | send t => exact inv_send h
    | answer t outcome => exact inv_answer h hcareful
    | finish t now => exact inv_finish h hcareful
  exact ⟨hnext.flag, hnext.acknowledged⟩

end steps

/-- In a careful run no setting that the adapter took is forgotten. -/
theorem noLostUpdate_of_run (iFirmwareVersion : ℕ) {es : List (EepromEvent k)}
    (h : Guarded step Careful (initial iFirmwareVersion) es) :
    (es.foldl step (initial iFirmwareVersion)).NoLostUpdate := by
  have hinv := Guarded.invariant (fun _ (s : EepromState k) => s.Inv) (inv_initial iFirmwareVersion)
    (fun _ s e hs he => hs.step he) h
  exact fun _ => hinv.flag

/-- A physical address is set and written, and the next one has to wait. -/
def addressSaved : List (EepromEvent 1) :=
  [.setSetting 0 (.physicalAddress 0x1000), .send (some 0), .answer (some 0) .accepted,
    .finish (some 0) 50000, .schedule 50000, .process 50000, .send none, .answer none .accepted,
    .finish none 50100, .setSetting 0 (.physicalAddress 0x2000), .send (some 0),
    .answer (some 0) .accepted, .finish (some 0) 50200, .schedule 50200]

theorem noLostUpdate_addressSaved :
    (addressSaved.foldl step (initial 12)).NoLostUpdate ∧
      (addressSaved.foldl step (initial 12)).commands.bNeedsWrite ∧
      (addressSaved.foldl step (initial 12)).iScheduleEepromWrite = 80100 :=
  ⟨noLostUpdate_of_run 12 (by decide +kernel), by decide +kernel, by decide +kernel⟩

/-- A changed OSD name is accepted, and `WriteEEPROM` has nothing to write. -/
def nameSaved : List (EepromEvent 1) :=
  [.setSetting 0 (.osdName (BoundedBuffer.empty.pushAll [0x54, 0x56])), .send (some 0),
    .answer (some 0) .accepted, .finish (some 0) 50000, .schedule 50000, .process 50000]

/-- The physical address is changed again while the write of the first change is out. -/
def addressRaced : List (EepromEvent 1) :=
  [.setSetting 0 (.physicalAddress 0x1000), .send (some 0), .answer (some 0) .accepted,
    .finish (some 0) 50000, .schedule 50000, .process 50000, .send none,
    .setSetting 0 (.physicalAddress 0x2000), .send (some 0), .answer (some 0) .accepted,
    .finish (some 0) 50050, .answer none .accepted, .finish none 50100]

/-- Both changes are taken by the adapter and not marked as something to write. -/
theorem updates_lost : ¬(nameSaved.foldl step (initial 12)).NoLostUpdate ∧
    ¬(addressRaced.foldl step (initial 12)).NoLostUpdate := by
  decide +kernel

end EepromState

end CEC
