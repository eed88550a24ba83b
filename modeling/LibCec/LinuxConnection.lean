import LibCec.AdapterMessage
import LibCec.AddressSet
import LibCec.Schemes.Handles
import LibCec.Schemes.Schedule
import LibCec.SerialPort
import LibCec.Serialization

/-! The descriptor of the Linux adapter, which two threads use.

    The processor opens and closes the adapter and makes calls on its descriptor. The thread of the
    adapter waits for messages on it, and closes it when the device is gone:

        processor   Open ──▶ Write, SetLogicalAddresses, … ──▶ Close (waits for the thread)
        thread           ──▶ select, ioctl ──device gone──▶ close(m_fd) ──▶ m_fd = -1
                                           ──other errno of select──▶ ends, m_fd is left

    Between `close(m_fd)` and `m_fd = -1` the processor still takes the descriptor for an open one. -/

namespace CEC
open Schemes

/-! ### Opening -/

/-- `ENXIO`, `EBADF`, `ENODEV`. -/
def enxio : ℕ := 6
def ebadf : ℕ := 9
def enodev : ℕ := 19

/-- `CEC_LINUX_MAX_DEVICES`. -/
def linuxMaxDevices : ℕ := 32

/-- What `IsCapableDevice` finds at a node. -/
inductive Probe where
  | absent
  | opened (fd : ℕ) (capable : Bool)

namespace Probe

def isCapable : Probe → Bool
  | absent => false
  | opened _ capable => capable

def calls : Probe → List (HandleCall ℕ)
  | absent => []
  | opened fd _ => [.acquire fd, .use fd, .release fd]

end Probe

/-- What the calls in `Open` result in: at the node that was selected, if one was, and at the others,
    the tries to open it, the calls of `ioctl` in their order, and `CreateThread`. -/
structure Opening where
  selected : Option Probe
  nodes : Fin linuxMaxDevices → Probe
  opens : List (Option ℕ)
  bStartListening : Bool
  capable : Bool
  mode : Bool
  physAddr : Bool
  cleared : Bool
  configured : Bool
  thread : Bool

/-- `primary_device_type`, `log_addr_type` and `all_device_types` of `cec_log_addrs`, which go
    together. -/
inductive LogAddrKind where
  | tv | record | tuner | playback | audioSystem | unregistered
  deriving DecidableEq

/-- The `switch` in `SetLogicalAddresses`. -/
def LogAddrKind.ofPrimary (a : Fin 16) : LogAddrKind :=
  match a.val with
  | 5 => .audioSystem
  | 4 | 8 | 11 => .playback
  | 1 | 2 | 9 => .record
  | 3 | 6 | 7 | 10 => .tuner
  | 0 => .tv
  | _ => .unregistered

/-- `cec_log_addrs` with one address. -/
structure LogAddrs where
  logAddr : Fin 16
  kind : LogAddrKind
  unregFallback : Bool
  deriving DecidableEq

/-- What `SetLogicalAddresses` asks the kernel for. -/
def LogAddrs.wanted (addresses : LogicalAddresses) : Option LogAddrs :=
  if addresses.isEmpty then none
  else some ⟨addresses.primary, .ofPrimary addresses.primary, false⟩

/-- Whether the calls in `SetLogicalAddresses` succeed, and whether the kernel claims the address. -/
structure Configuring where
  got : Bool
  cleared : Bool
  set : Bool
  claimed : Bool

/-- Where the thread of the adapter is: it has found the device gone and closed the descriptor, but
    not yet noted it, when it is `leaving`. -/
inductive Listener where
  | stopped | running | leaving
  deriving DecidableEq

/-- `CLinuxCECAdapterCommunication` and the addresses that the kernel has for it. The calls are all
    that were made so far, `late` is set once the processor has used a descriptor that the thread has
    closed, and `deaf` while the thread has left an open descriptor. -/
structure LinuxConnection where
  fd : Option ℕ
  listener : Listener
  kernel : Option LogAddrs
  calls : List (HandleCall ℕ)
  late : Bool
  deaf : Bool

namespace LinuxConnection

def initial : LinuxConnection := ⟨none, .stopped, none, [], false, false⟩

variable (s : LinuxConnection)

def isOpen : Bool := s.fd.isSome

def made (calls : List (HandleCall ℕ)) : LinuxConnection := { s with calls := s.calls ++ calls }

/-- A call of the processor on its descriptor. -/
def ioctl (fd : ℕ) : LinuxConnection :=
  { s.made [.use fd] with late := s.late || s.listener = .leaving }

/-- `Close`. A thread that is leaving has noted that by then. -/
def close : LinuxConnection :=
  let fd := if s.listener = .leaving then none else s.fd
  { s.made (fd.toList.map .release) with fd := none, listener := .stopped, deaf := false }

/-- `Open`, once it has found a node. -/
def openNode (o : Opening) : Bool × LinuxConnection :=
  match o.opens.findSome? id with
  | none => (false, { s with fd := none })
  | some fd =>
    let s := ({ s with fd := some fd }.made [.acquire fd]).ioctl fd
    if !o.capable then (false, s.close)
    else if !o.bStartListening then (true, s.close)
    else
      let s := s.ioctl fd
      if !o.mode then (false, s.close)
      else
        let s := s.ioctl fd
        if !o.physAddr then (false, s.close)
        else
          let s := s.ioctl fd
          if !o.cleared then (false, s.close)
          else
            let s := { s with kernel := none }.ioctl fd
            if !o.configured then (false, s.close)
            else
              let s := { s with kernel := some ⟨15, .unregistered, true⟩ }
              if o.thread then (true, { s with listener := .running }) else (false, s.close)

/-- `Open`. The nodes are only looked at when the selected one is not there. -/
def openAdapter (o : Opening) : Bool × LinuxConnection :=
  let s := if s.isOpen then s.close else s
  let s := s.made (o.selected.toList.flatMap Probe.calls)
  if o.selected.any Probe.isCapable then s.openNode o
  else
    let s := s.made ((List.ofFn o.nodes).flatMap Probe.calls)
    if (List.ofFn o.nodes).any Probe.isCapable then s.openNode o else (false, s)

/-! ### Calls on the descriptor -/

/-- `CEC_TX_STATUS_OK`, `CEC_TX_STATUS_NACK`. -/
def txStatusOk : UInt8 := 0x01
def txStatusNack : UInt8 := 0x04

/-- `Write`: its result, and whether it may be tried again. The kernel's `tx_status` is missing when
    the call fails. -/
def write (data : Command) (txStatus : Option UInt8) (bRetry : Bool) :
    MessageState × Bool × LinuxConnection :=
  match s.fd with
  | none => (.unknown, bRetry, s)
  | some fd =>
    if (data.serialize 16 true).1 < 0 then (.error, bRetry, s)
    else
      let s := s.ioctl fd
      match txStatus with
      | none => (.error, bRetry, s)
      | some status =>
        if status &&& txStatusOk ≠ 0 then (.sentAcked, false, s)
        else if status &&& txStatusNack ≠ 0 then (.sentNotAcked, false, s)
        else (.error, false, s)

/-- `SetLogicalAddresses`. The kernel only takes an address when it has none. -/
def setLogicalAddresses (addresses : LogicalAddresses) (o : Configuring) : Bool × LinuxConnection :=
  match s.fd with
  | none => (false, s)
  | some fd =>
    let s := s.ioctl fd
    if !o.got then (false, s)
    else
      let configured := s.kernel.isSome
      let s := if configured then s.ioctl fd else s
      if configured && !o.cleared then (false, s)
      else
        let s := { s with kernel := none }.ioctl fd
        if !o.set then (false, s)
        else
          let wanted := LogAddrs.wanted addresses
          (!(wanted.isSome && !o.claimed), { s with kernel := wanted })

/-- `GetLogicalAddresses`. -/
def getLogicalAddresses (got : Bool) : LogicalAddresses × LinuxConnection :=
  match s.fd with
  | none => (.clear, s)
  | some fd =>
    (if got then s.kernel.toList.foldl (fun l a => l.set a.logAddr) .clear else .clear, s.ioctl fd)

/-- `GetPhysicalAddress` and `GetVendorId` read something else from the kernel. -/
def getFromKernel : LinuxConnection :=
  match s.fd with
  | none => s
  | some fd => s.ioctl fd

/-! ### The thread of the adapter -/

/-- A call of the thread fails or not. -/
def threadCall (fd : ℕ) (error : Option Errno) (select : Bool) : LinuxConnection :=
  let s := s.made [.use fd]
  match error with
  | none => s
  | some e =>
    if e.val = ebadf ∨ e.val = enodev ∨ e.val = enxio then
      { s.made [.release fd] with listener := .leaving }
    else if select then { s with listener := .stopped, deaf := true }
    else s

/-! ### Interleavings -/

/-- What happens next; the calls of the processor are atomic. -/
inductive Action where
  | openAdapter (o : Opening)
  | close
  | write (data : Command) (txStatus : Option UInt8) (bRetry : Bool)
  | setLogicalAddresses (addresses : LogicalAddresses) (o : Configuring)
  | getLogicalAddresses (got : Bool)
  | getFromKernel
  /-- The thread calls `select`, or `ioctl`. -/
  | threadCall (error : Option Errno) (select : Bool)
  /-- The thread has noted that the device is gone, and ends. -/
  | left

def step (s : LinuxConnection) : Action → Option LinuxConnection
  | .openAdapter o => some (s.openAdapter o).2
  | .close => some s.close
  | .write data txStatus bRetry => some (s.write data txStatus bRetry).2.2
  | .setLogicalAddresses addresses o => some (s.setLogicalAddresses addresses o).2
  | .getLogicalAddresses got => some (s.getLogicalAddresses got).2
  | .getFromKernel => some s.getFromKernel
  | .threadCall error select =>
    match s.listener, s.fd with
    | .running, some fd => some (s.threadCall fd error select)
    | _, _ => none
  | .left => if s.listener = .leaving then some { s with fd := none, listener := .stopped } else none

/-! ### The descriptor -/

/-- The descriptor that the adapter has, which is nobody's any more while the thread leaves. -/
def mine : List ℕ := if s.listener = .leaving then [] else s.fd.toList

/-- The calls are in order unless one was late, and the adapter holds its descriptor and no other. -/
structure Held (s : LinuxConnection) : Prop where
  disciplined : Disciplined [] s.calls ↔ s.late = false
  held : s.late = false → holding [] s.calls = s.mine
  kind : ∀ l, s.kernel = some l → l.kind = .ofPrimary l.logAddr

section held

variable {s u : LinuxConnection} {fd : ℕ}

theorem held_initial : Held initial where
  disciplined := iff_of_true trivial rfl
  held _ := rfl
  kind l h := by cases h

/-- Some more calls. -/
theorem Held.next {calls : List (HandleCall ℕ)} (hs : Held s) (hcalls : u.calls = s.calls ++ calls)
    (hlate : s.late = true → u.late = true)
    (hdisciplined : s.late = false → (Disciplined s.mine calls ↔ u.late = false))
    (hheld : s.late = false → u.late = false → holding s.mine calls = u.mine)
    (hkind : ∀ l, u.kernel = some l → l.kind = .ofPrimary l.logAddr) : Held u := by
  refine ⟨?_, fun h => ?_, hkind⟩
  · rw [hcalls, disciplined_append, hs.disciplined]
    cases hs' : s.late with
    | true => simp [hlate hs']
    | false => rw [hs.held hs', hdisciplined hs', and_iff_right rfl]
  · have hs' : s.late = false := by
      by_contra hs'
      exact absurd (h.symm.trans (hlate (by simpa using hs'))) (by decide)
    rw [hcalls, holding_append, hs.held hs', hheld hs' h]

/-- Calls that give back what they take, at a time when nothing is held. -/
theorem Held.made {calls : List (HandleCall ℕ)} (hs : Held s) (hfd : s.fd = none)
    (hcalls : Disciplined [] calls ∧ holding [] calls = []) : Held (s.made calls) := by
  have hmine : s.mine = [] := by
    rw [mine, hfd]
    exact ite_self _
  refine hs.next rfl id (fun h => ?_) (fun _ _ => ?_) hs.kind
  · rw [hmine]
    exact iff_of_true hcalls.1 h
  · rw [hmine, hcalls.2]
    exact hmine.symm

/-- A call is late when the thread is leaving. -/
theorem Held.ioctl (hs : Held s) (hfd : s.fd = some fd) : Held (s.ioctl fd) := by
  have hmine : (s.ioctl fd).mine = s.mine := rfl
  have hnext : (s.ioctl fd).late = (s.late || s.listener = .leaving) := rfl
  refine hs.next rfl (fun h => by simp [hnext, h]) (fun h => ?_) (fun _ _ => hmine.symm) hs.kind
  rw [hnext, h, Bool.false_or, Disciplined, Disciplined, and_true, mine, hfd, decide_eq_false_iff_not]
  split
  · next hleaving => simp [hleaving]
  · next hleaving => simp [hleaving]

theorem Held.close (hs : Held s) : Held s.close := by
  have hcalls : s.close.calls = s.calls ++ s.mine.map .release := by
    rw [LinuxConnection.close, mine]
    split <;> rfl
  have hmine : Disciplined s.mine (s.mine.map .release) ∧
      holding s.mine (s.mine.map .release) = [] := by
    rw [mine]
    split
    · exact ⟨trivial, rfl⟩
    · cases s.fd <;> simp [Disciplined, holding]
  exact hs.next hcalls id (fun h => iff_of_true hmine.1 h) (fun _ _ => hmine.2) hs.kind

theorem fd_close (s : LinuxConnection) : s.close.fd = none ∧ s.close.listener = .stopped ∧
    s.close.deaf = false := ⟨rfl, rfl, rfl⟩

/-- Another configuration. -/
theorem Held.configured (hs : Held s) (kernel : Option LogAddrs)
    (hkind : ∀ l, kernel = some l → l.kind = .ofPrimary l.logAddr) : Held { s with kernel } :=
  ⟨hs.disciplined, hs.held, hkind⟩

/-- The probes close what they open. -/
theorem probe_calls (p : Probe) : Disciplined [] p.calls ∧ holding [] p.calls = [] := by
  cases p with
  | absent => exact ⟨trivial, rfl⟩
  | opened fd capable => simp [Probe.calls, Disciplined, holding]

end held

/-! ### Between two calls -/

/-- An adapter that is open has a thread that listens, unless that has left it. -/
structure Safe (s : LinuxConnection) : Prop extends Held s where
  listening : s.fd.isSome ↔ s.listener ≠ .stopped ∨ s.deaf
  ended : s.deaf → s.listener = .stopped

section safe

variable {s u : LinuxConnection}

theorem safe_initial : Safe initial where
  toHeld := held_initial
  listening := by simp [initial]
  ended h := by cases h

/-- A closed adapter. -/
theorem Safe.of_closed (h : Held s) (hclosed : s.fd = none ∧ s.listener = .stopped ∧ s.deaf = false) :
    Safe s := by
  obtain ⟨hfd, hlistener, hdeaf⟩ := hclosed
  exact ⟨h, by simp [hfd, hlistener, hdeaf], fun h => by simp [hdeaf] at h⟩

theorem Safe.close (hs : Safe s) : Safe s.close := .of_closed hs.toHeld.close (fd_close s)

theorem Safe.openNode (hs : Held s) (hclosed : s.fd = none ∧ s.listener = .stopped ∧ s.deaf = false)
    (o : Opening) : Safe (s.openNode o).2 := by
  obtain ⟨hfd, hlistener, hdeaf⟩ := hclosed
  have hdone : ∀ {t : LinuxConnection}, Held t → Safe t.close := fun ht =>
    .of_closed ht.close (fd_close _)
  rw [LinuxConnection.openNode]
  split
  · exact .of_closed ⟨hs.disciplined, fun h => (hs.held h).trans (by simp [mine, hfd]), hs.kind⟩
      ⟨rfl, hlistener, hdeaf⟩
  · next fd _ =>
    have hacquired : Held ({ s with fd := some fd }.made [.acquire fd]) := by
      have hmine : s.mine = [] := by simp [mine, hfd]
      refine hs.next rfl id (fun h => ?_) (fun _ _ => ?_) hs.kind
      · rw [hmine]
        exact iff_of_true ⟨List.not_mem_nil, trivial⟩ h
      · rw [hmine]
        simp [mine, holding, LinuxConnection.made, hlistener]
    have hopened : some fd = some fd := rfl
    have hcaps := hacquired.ioctl hopened
    have hmode := hcaps.ioctl hopened
    have haddress := hmode.ioctl hopened
    have hclear := haddress.ioctl hopened
    have hset := (hclear.configured none (fun l h => by cases h)).ioctl hopened
    have hall := hset.configured (some ⟨15, .unregistered, true⟩) fun l h => by
      obtain rfl := Option.some.inj h
      rfl
    dsimp only
    split
    · exact hdone hcaps
    · split
      · exact hdone hcaps
      · split
        · exact hdone hmode
        · split
          · exact hdone haddress
          · split
            · exact hdone hclear
            · split
              · exact hdone hset
              · split
                · refine ⟨⟨hall.disciplined, fun h => (hall.held h).trans ?_, hall.kind⟩, ?_, ?_⟩
                  · simp [mine, LinuxConnection.ioctl, LinuxConnection.made, hlistener]
                  · simp [LinuxConnection.ioctl, LinuxConnection.made]
                  · simp [LinuxConnection.ioctl, LinuxConnection.made, hdeaf]
                · exact hdone hall

theorem Safe.openAdapter (hs : Safe s) (o : Opening) : Safe (s.openAdapter o).2 := by
  have hclosed : ∃ t, t = (if s.isOpen then s.close else s) ∧ Held t ∧ t.fd = none ∧
      t.listener = .stopped ∧ t.deaf = false := by
    refine ⟨_, rfl, ?_⟩
    split
    · exact ⟨hs.toHeld.close, fd_close s⟩
    · next hopen =>
      have hnot : ¬(s.listener ≠ .stopped ∨ s.deaf) := fun h => hopen (hs.listening.mpr h)
      rw [not_or, not_not, Bool.not_eq_true] at hnot
      exact ⟨hs.toHeld, by simpa [isOpen] using hopen, hnot⟩
  obtain ⟨t, ht, hheld, hfd, hlistener, hdeaf⟩ := hclosed
  have hprobes : ∀ ps : List Probe, Disciplined [] (ps.flatMap Probe.calls) ∧
      holding [] (ps.flatMap Probe.calls) = [] := fun ps => disciplined_flatMap fun p _ => probe_calls p
  have hselected := hheld.made hfd (hprobes o.selected.toList)
  rw [LinuxConnection.openAdapter, ← ht]
  dsimp only
  split
  · exact .openNode hselected ⟨hfd, hlistener, hdeaf⟩ o
  · have hnodes := hselected.made hfd (hprobes (List.ofFn o.nodes))
    split
    · exact .openNode hnodes ⟨hfd, hlistener, hdeaf⟩ o
    · exact .of_closed hnodes ⟨hfd, hlistener, hdeaf⟩

/-- A call on the descriptor. -/
theorem Safe.ioctl {fd : ℕ} (hs : Safe s) (hfd : s.fd = some fd) : Safe (s.ioctl fd) :=
  ⟨hs.toHeld.ioctl hfd, hs.listening, hs.ended⟩

theorem Safe.configured (hs : Safe s) (kernel : Option LogAddrs)
    (hkind : ∀ l, kernel = some l → l.kind = .ofPrimary l.logAddr) : Safe { s with kernel } :=
  ⟨hs.toHeld.configured kernel hkind, hs.listening, hs.ended⟩

theorem Safe.write (hs : Safe s) (data : Command) (txStatus : Option UInt8) (bRetry : Bool) :
    Safe (s.write data txStatus bRetry).2.2 := by
  rw [LinuxConnection.write]
  split
  · exact hs
  · next fd hfd =>
    split
    · exact hs
    · have hioctl := hs.ioctl hfd
      cases txStatus with
      | none => exact hioctl
      | some status =>
        dsimp only
        split
        · exact hioctl
        · split <;> exact hioctl

theorem Safe.setLogicalAddresses (hs : Safe s) (addresses : LogicalAddresses) (o : Configuring) :
    Safe (s.setLogicalAddresses addresses o).2 := by
  have hwanted : ∀ l, LogAddrs.wanted addresses = some l → l.kind = .ofPrimary l.logAddr := by
    intro l hl
    rw [LogAddrs.wanted] at hl
    split at hl
    · cases hl
    · obtain rfl := Option.some.inj hl
      rfl
  rw [LinuxConnection.setLogicalAddresses]
  split
  · exact hs
  · next fd hfd =>
    have hgot := hs.ioctl hfd
    dsimp only
    split
    · exact hgot
    · have hclear : Safe (if (s.ioctl fd).kernel.isSome then (s.ioctl fd).ioctl fd else s.ioctl fd) := by
        split
        · exact hgot.ioctl hfd
        · exact hgot
      have hfd' : (if (s.ioctl fd).kernel.isSome then (s.ioctl fd).ioctl fd else s.ioctl fd).fd =
          some fd := by
        split <;> exact hfd
      split
      · exact hclear
      · have hset := (hclear.configured none (fun l h => by cases h)).ioctl hfd'
        split
        · exact hset
        · exact hset.configured _ hwanted

/-- A call of the thread. -/
theorem Safe.threadCall {fd : ℕ} (hs : Safe s) (hfd : s.fd = some fd) (hlistener : s.listener = .running)
    (error : Option Errno) (select : Bool) : Safe (s.threadCall fd error select) := by
  have hmine : s.mine = [fd] := by simp [mine, hfd, hlistener]
  have hdeaf : s.deaf = false := by
    by_contra h
    have := hs.ended (by simpa using h)
    rw [hlistener] at this
    cases this
  have hused : Safe (s.made [.use fd]) := by
    refine ⟨hs.toHeld.next rfl id (fun h => ?_) (fun _ _ => rfl) hs.kind, hs.listening, hs.ended⟩
    rw [hmine]
    exact iff_of_true ⟨List.mem_cons_self, trivial⟩ h
  unfold LinuxConnection.threadCall
  cases error with
  | none => exact hused
  | some e =>
    dsimp only
    split
    · refine ⟨hused.toHeld.next rfl id (fun h => ?_) (fun _ _ => ?_) hs.kind, ?_, ?_⟩
      · have : (s.made [.use fd]).mine = [fd] := hmine
        rw [this]
        exact iff_of_true ⟨List.mem_cons_self, trivial⟩ h
      · have : (s.made [.use fd]).mine = [fd] := hmine
        rw [this]
        simp [holding, mine]
      · simp [LinuxConnection.made, hfd]
      · simp [LinuxConnection.made, hdeaf]
    · split
      · refine ⟨⟨hused.disciplined, fun h => (hused.held h).trans ?_, hs.kind⟩, ?_, ?_⟩
        · simp [mine, LinuxConnection.made, hlistener]
        · simp [LinuxConnection.made, hfd]
        · simp
      · exact hused

theorem Safe.step {a : Action} (hs : Safe s) (h : s.step a = some u) : Safe u := by
  cases a with
  | openAdapter o =>
    obtain rfl := Option.some.inj h
    exact hs.openAdapter o
  | close =>
    obtain rfl := Option.some.inj h
    exact hs.close
  | write data txStatus bRetry =>
    obtain rfl := Option.some.inj h
    exact hs.write data txStatus bRetry
  | setLogicalAddresses addresses o =>
    obtain rfl := Option.some.inj h
    exact hs.setLogicalAddresses addresses o
  | getLogicalAddresses got =>
    obtain rfl := Option.some.inj h
    rw [LinuxConnection.getLogicalAddresses]
    split
    · exact hs
    · next fd hfd => exact hs.ioctl hfd
  | getFromKernel =>
    obtain rfl := Option.some.inj h
    rw [LinuxConnection.getFromKernel]
    split
    · exact hs
    · next fd hfd => exact hs.ioctl hfd
  | threadCall error select =>
    simp only [LinuxConnection.step] at h
    split at h
    · next fd hlistener hfd =>
      obtain rfl := Option.some.inj h
      exact hs.threadCall hfd hlistener error select
    · cases h
  | left =>
    obtain ⟨hlistener, rfl⟩ := enabled_iff.mp h
    have hdeaf : s.deaf = false := by
      by_contra hdeaf
      have := hs.ended (by simpa using hdeaf)
      rw [hlistener] at this
      cases this
    refine .of_closed ⟨hs.disciplined, fun h => (hs.held h).trans ?_, hs.kind⟩ ⟨rfl, rfl, hdeaf⟩
    simp [mine, hlistener]

end safe

/-- A call that returns true has put the primary address into effect, or taken all away. -/
theorem setLogicalAddresses_spec (s : LinuxConnection) (addresses : LogicalAddresses)
    (o : Configuring) : ((s.setLogicalAddresses addresses o).1 = true ↔ s.isOpen ∧ o.got ∧
      (s.kernel.isSome → o.cleared) ∧ o.set ∧ (addresses.isEmpty = false → o.claimed)) ∧
    ((s.setLogicalAddresses addresses o).1 = true →
      (s.setLogicalAddresses addresses o).2.kernel = LogAddrs.wanted addresses) := by
  have hwanted : (LogAddrs.wanted addresses).isSome = !addresses.isEmpty := by
    rw [LogAddrs.wanted]
    cases addresses.isEmpty <;> rfl
  rw [LinuxConnection.setLogicalAddresses, isOpen]
  cases hfd : s.fd with
  | none => simp
  | some fd =>
    dsimp only
    have hkernel : (s.ioctl fd).kernel = s.kernel := rfl
    rw [hkernel]
    cases hgot : o.got with
    | false => simp
    | true =>
      cases hconfigured : s.kernel.isSome <;> cases hcleared : o.cleared <;> cases hset : o.set <;>
        simp [hwanted]
      all_goals
        cases addresses.isEmpty <;> simp

/-- In any interleaving, each descriptor is used and closed only while it is open, and closed once,
    exactly if the processor has made no call after the thread had closed a descriptor and before it
    noted that. As long as it has not, the adapter holds the descriptor it has and no other one, so
    that none is left open after `Close`. An adapter that is open has a thread that listens, unless
    `select` has failed with another error than those of a device that is gone. -/
theorem descriptors_in_order {s : LinuxConnection} (h : Schedule step initial s) :
    (Disciplined [] s.calls ↔ s.late = false) ∧ (s.late = false → holding [] s.calls = s.mine) ∧
      (s.isOpen ↔ s.listener ≠ .stopped ∨ s.deaf) ∧
        ∀ l, s.kernel = some l → l.kind = .ofPrimary l.logAddr := by
  obtain ⟨⟨hdisciplined, hheld, hkind⟩, hlistening, -⟩ :=
    h.invariant (fun hs _ hstep => Safe.step hs hstep) safe_initial
  exact ⟨hdisciplined, hheld, hlistening, hkind⟩

/-- The adapter is opened with the descriptor 3. -/
def openThree : Opening where
  selected := some (.opened 3 true)
  nodes _ := .absent
  opens := [none, some 3]
  bStartListening := true
  capable := true
  mode := true
  physAddr := true
  cleared := true
  configured := true
  thread := true

/-- The device is gone, and the processor sends a poll before the thread has noted that. -/
def lateWrite : List Action :=
  [.openAdapter openThree, .threadCall (some ⟨enodev, by decide⟩) false,
    .write (.formatReceived 0x40 opcodeNone []) none true, .left, .close]

theorem descriptors_in_order_lateWrite : ∃ s, perform step initial lateWrite = some s ∧
    ¬Disciplined [] s.calls ∧ s.isOpen = false := by
  refine ⟨_, rfl, fun hdisciplined => ?_, rfl⟩
  have hlate := (descriptors_in_order (@schedule_of_perform _ _ step initial _ lateWrite rfl)).1.mp
    hdisciplined
  exact absurd hlate (by decide)

end LinuxConnection

end CEC
