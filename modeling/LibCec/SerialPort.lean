import Mathlib.Data.List.Induction
import Mathlib.Tactic.Common

/-! The serial port of the adapter (`CSerialSocket`, `SocketRead`, and their callers).

    `Close` gives the descriptor back and keeps its number, and the flag that says that it is open:

        INVALID ──Open──▶ open ──Close──▶ open, as far as IsOpen knows ──Open──▶ EINVAL
                                   ▲ └──────Close, of the same number──────┐
                                   └───────────────────────────────────────┘

    So a port is opened once (`portLife`). `Read` collects bytes until it has as many as it was asked
    for or the time is up; what it has collected is gone when a call to the kernel fails, and
    `ReadFromDevice` starts over after `EINTR` (`reader_loses_iff`). -/

namespace CEC

/-! ### Opening and closing -/

/-- `errno`, after a call that has failed. -/
abbrev Errno := { e : ℕ // e ≠ 0 }

/-- `EINTR`, `EACCES`, `EBUSY`, `EINVAL`. -/
def eintr : ℕ := 4
def eacces : ℕ := 13
def ebusy : ℕ := 16
def einval : ℕ := 22

/-- `CSerialSocket`; `none` is `INVALID_SERIAL_SOCKET_VALUE`. -/
structure SerialSocket where
  socket : Option ℕ
  bIsOpen : Bool
  iError : ℕ

/-- What the calls in `Open` result in; `errno` of `open` only goes to the text of the error. -/
structure OpenAttempt where
  opened : Option ℕ
  locked : Bool
  baudRate : Bool
  attributes : Bool

/-- The calls that give and take back descriptors. -/
inductive Syscall where
  | opened (fd : ℕ)
  | closed (fd : ℕ)
  deriving DecidableEq

/-- The alerts of `CUSBCECAdapterCommunication::Open`. -/
inductive PortAlert where
  | permissionError
  | portBusy
  deriving DecidableEq

namespace OpenAttempt

variable (r : OpenAttempt)

/-- All calls succeed. -/
def succeeds : Bool := r.opened.isSome && r.locked && r.baudRate && r.attributes

/-- The port is there, and somebody else has it. -/
def findsBusy : Bool := r.opened.isSome && !r.locked

end OpenAttempt

namespace SerialSocket

/-- What the constructor leaves. -/
def initial : SerialSocket := ⟨none, false, 0⟩

variable (s : SerialSocket)

def isOpen : Bool := s.socket.isSome && s.bIsOpen

/-- `Open`. A baud rate that is refused leaves the descriptor open. -/
def openSocket (r : OpenAttempt) : Bool × SerialSocket × List Syscall :=
  if s.isOpen then (false, { s with iError := einval }, [])
  else match r.opened with
  | none => (false, { s with socket := none }, [])
  | some fd =>
    let s := { s with socket := some fd }
    if !r.locked then (false, { s with iError := ebusy }, [.opened fd, .closed fd])
    else if !r.baudRate then (false, s, [.opened fd])
    else if !r.attributes then (false, s, [.opened fd, .closed fd])
    else (true, { s with bIsOpen := true }, [.opened fd])

/-- `Close`, and the destructor. -/
def closeSocket : List Syscall :=
  match s.socket with
  | some fd => if s.bIsOpen then [.closed fd] else []
  | none => []

/-- `CUSBCECAdapterCommunication::Open` opens the port: it tries until it succeeds or the time is up. -/
def connect : SerialSocket → List OpenAttempt → Bool × SerialSocket × List Syscall
  | s, [] => (false, s, [])
  | s, r :: rs =>
    let tried := s.openSocket r
    if tried.1 then tried
    else
      let rest := connect tried.2.1 rs
      (rest.1, rest.2.1, tried.2.2 ++ rest.2.2)

/-- The alert when it has not succeeded. -/
def alert : Option PortAlert :=
  if s.iError = eacces then some .permissionError
  else if s.iError = ebusy then some .portBusy
  else none

/-- What is done with a port. `Read` and `Write` leave the error number of their last call. -/
inductive Op where
  | connect (rs : List OpenAttempt)
  | close
  | transfer (iError : ℕ)

def step : Op → SerialSocket
  | .connect rs => (s.connect rs).2.1
  | .close => s
  | .transfer iError => if s.isOpen then { s with iError := iError } else s

/-- The calls that a step makes. -/
def syscalls : Op → List Syscall
  | .connect rs => (s.connect rs).2.2
  | .close => s.closeSocket
  | .transfer _ => []

/-- The port after some steps. -/
def after (ops : List Op) : SerialSocket := ops.foldl step initial

/-- The attempts to open it. -/
def attempts (ops : List Op) : List OpenAttempt :=
  ops.flatMap fun
    | .connect rs => rs
    | .close | .transfer _ => []

/-! ### One attempt -/

variable {s} {r : OpenAttempt} {rs : List OpenAttempt}

theorem connect_cons (h : (s.openSocket r).1 = false) : s.connect (r :: rs) =
    (((s.openSocket r).2.1.connect rs).1, ((s.openSocket r).2.1.connect rs).2.1,
      (s.openSocket r).2.2 ++ ((s.openSocket r).2.1.connect rs).2.2) := by
  rw [connect]
  exact if_neg (by simp [h])

/-- A port that is open stays so, and no attempt succeeds. -/
theorem connect_of_isOpen : ∀ (rs : List OpenAttempt) {s : SerialSocket}, s.isOpen = true →
    s.connect rs = (false, if rs = [] then s else { s with iError := einval }, [])
  | [], _, _ => rfl
  | r :: rs, s, h => by
    have htried : s.openSocket r = (false, { s with iError := einval }, []) := if_pos h
    have hopen : isOpen { s with iError := einval } = true := h
    have ih := connect_of_isOpen rs hopen
    rw [connect_cons (by rw [htried]), htried]
    simp only
    rw [ih]
    simp

/-- An attempt that fails leaves the port closed; only one that finds it busy leaves a number. -/
theorem openSocket_of_fails (h : s.bIsOpen = false) (hr : r.succeeds = false) :
    (s.openSocket r).1 = false ∧ (s.openSocket r).2.1.bIsOpen = false ∧
      (s.openSocket r).2.1.iError = if r.findsBusy then ebusy else s.iError := by
  have hclosed : s.isOpen = false := by rw [isOpen, h, Bool.and_false]
  obtain ⟨opened, locked, baudRate, attributes⟩ := r
  cases opened with
  | none => simp [openSocket, hclosed, h, OpenAttempt.findsBusy]
  | some fd =>
    cases locked with
    | false => simp [openSocket, hclosed, h, OpenAttempt.findsBusy]
    | true =>
      cases baudRate with
      | false => simp [openSocket, hclosed, h, OpenAttempt.findsBusy]
      | true =>
        cases attributes with
        | false => simp [openSocket, hclosed, h, OpenAttempt.findsBusy]
        | true => simp [OpenAttempt.succeeds] at hr

theorem openSocket_of_succeeds (h : s.bIsOpen = false) (hr : r.succeeds = true) :
    (s.openSocket r).1 = true ∧ (s.openSocket r).2.1.isOpen = true := by
  have hclosed : s.isOpen = false := by rw [isOpen, h, Bool.and_false]
  obtain ⟨opened, locked, baudRate, attributes⟩ := r
  simp only [OpenAttempt.succeeds, Bool.and_eq_true, Option.isSome_iff_exists] at hr
  obtain ⟨⟨⟨⟨fd, rfl⟩, rfl⟩, rfl⟩, rfl⟩ := hr
  rw [openSocket, if_neg (by simp [hclosed])]
  exact ⟨rfl, rfl⟩

/-- The first attempt that succeeds opens the port. -/
theorem connect_of_closed : ∀ (rs : List OpenAttempt) {s : SerialSocket}, s.bIsOpen = false →
    ((s.connect rs).1 = true ↔ ∃ r ∈ rs, r.succeeds = true) ∧
      ((s.connect rs).2.1.isOpen = (s.connect rs).1 ∧
        ((s.connect rs).1 = false → (s.connect rs).2.1.bIsOpen = false ∧
          (s.connect rs).2.1.iError = if rs.any OpenAttempt.findsBusy then ebusy else s.iError))
  | [], s, h => by simp [connect, h, isOpen]
  | r :: rs, s, h => by
    cases hr : r.succeeds with
    | true =>
      obtain ⟨htrue, hopen⟩ := openSocket_of_succeeds h hr
      have hconnect : s.connect (r :: rs) = s.openSocket r := by
        rw [connect]
        exact if_pos htrue
      rw [hconnect]
      refine ⟨iff_of_true htrue ⟨r, List.mem_cons_self, hr⟩, hopen.trans htrue.symm, fun hfalse => ?_⟩
      rw [htrue] at hfalse
      cases hfalse
    | false =>
      obtain ⟨hfalse, hclosed, herror⟩ := openSocket_of_fails h hr
      obtain ⟨hsucceeds, hopen, hleft⟩ := connect_of_closed rs hclosed
      rw [connect_cons hfalse]
      refine ⟨hsucceeds.trans ?_, hopen, fun hfails => ⟨(hleft hfails).1, ?_⟩⟩
      · simp [hr]
      · rw [(hleft hfails).2, herror, List.any_cons]
        cases r.findsBusy with
        | false => rfl
        | true => simp

/-! ### The life of a port -/

/-- An open port is open for good; another one has failed to open, and is busy when it was so once. -/
def Lives (ops : List Op) (s : SerialSocket) : Prop :=
  if ∃ r ∈ attempts ops, r.succeeds = true then s.isOpen = true
  else s.bIsOpen = false ∧ s.iError = if (attempts ops).any OpenAttempt.findsBusy then ebusy else 0

theorem isOpen_step (h : s.isOpen = true) (op : Op) : (s.step op).isOpen = true ∧
    (s.step op).socket = s.socket := by
  cases op with
  | connect rs =>
    rw [step, connect_of_isOpen rs h]
    simp only
    split
    · exact ⟨h, rfl⟩
    · exact ⟨h, rfl⟩
  | close => exact ⟨h, rfl⟩
  | transfer iError =>
    rw [step, if_pos h]
    exact ⟨h, rfl⟩

theorem isOpen_of_bIsOpen (h : s.bIsOpen = false) : s.isOpen = false := by
  rw [isOpen, h, Bool.and_false]

theorem lives_step {ops : List Op} (h : Lives ops s) (op : Op) : Lives (ops ++ [op]) (s.step op) := by
  rw [Lives] at h ⊢
  have hattempts : attempts (ops ++ [op]) = attempts ops ++ attempts [op] := by simp [attempts]
  by_cases hopened : ∃ r ∈ attempts ops, r.succeeds = true
  · rw [if_pos hopened] at h
    obtain ⟨r, hr, hsucceeds⟩ := hopened
    rw [if_pos ⟨r, by rw [hattempts]; exact List.mem_append_left _ hr, hsucceeds⟩]
    exact (isOpen_step h op).1
  · rw [if_neg hopened] at h
    obtain ⟨hclosed, herror⟩ := h
    cases op with
    | connect rs =>
      have hrs : attempts [.connect rs] = rs := by simp [attempts]
      obtain ⟨hsucceeds, hopen, hleft⟩ := connect_of_closed rs hclosed
      rw [hattempts, hrs, step]
      by_cases hnow : ∃ r ∈ rs, r.succeeds = true
      · obtain ⟨r, hr, hr'⟩ := hnow
        rw [if_pos ⟨r, List.mem_append_right _ hr, hr'⟩, hopen, hsucceeds.mpr ⟨r, hr, hr'⟩]
      · have hnever : ¬∃ r ∈ attempts ops ++ rs, r.succeeds = true := by
          rintro ⟨r, hr, hr'⟩
          rcases List.mem_append.mp hr with hr | hr
          · exact hopened ⟨r, hr, hr'⟩
          · exact hnow ⟨r, hr, hr'⟩
        obtain ⟨hstill, herror'⟩ := hleft (by simpa using mt hsucceeds.mp hnow)
        rw [if_neg hnever]
        refine ⟨hstill, ?_⟩
        rw [herror', herror, List.any_append]
        cases rs.any OpenAttempt.findsBusy with
        | false => simp
        | true => simp
    | close =>
      rw [hattempts, show attempts [.close] = [] from rfl, List.append_nil, if_neg hopened]
      exact ⟨hclosed, herror⟩
    | transfer iError =>
      rw [hattempts, show attempts [.transfer iError] = [] from rfl, List.append_nil, if_neg hopened,
        step, isOpen_of_bIsOpen hclosed, if_neg Bool.false_ne_true]
      exact ⟨hclosed, herror⟩

theorem lives_after (ops : List Op) : Lives ops (after ops) := by
  induction ops using List.reverseRecOn with
  | nil => exact ⟨rfl, rfl⟩
  | append_singleton ops op ih =>
    rw [after, List.foldl_append, List.foldl_cons, List.foldl_nil]
    exact lives_step ih op

/-- The calls that some steps make. -/
def trace : SerialSocket → List Op → List Syscall
  | _, [] => []
  | s, op :: ops => s.syscalls op ++ trace (s.step op) ops

/-- The steps that close the port. -/
def closes (ops : List Op) : ℕ :=
  (ops.filter fun
    | .close => true
    | .connect _ | .transfer _ => false).length

/-- An open port only gives its descriptor back, again and again. -/
theorem trace_of_isOpen {fd : ℕ} : ∀ (ops : List Op) {s : SerialSocket}, s.isOpen = true →
    s.socket = some fd → s.trace ops = List.replicate (closes ops) (.closed fd)
  | [], _, _, _ => rfl
  | op :: ops, s, h, hfd => by
    obtain ⟨hopen, hsocket⟩ := isOpen_step h op
    have ih := trace_of_isOpen ops hopen (hsocket.trans hfd)
    rw [trace, ih]
    cases op with
    | connect rs =>
      rw [syscalls, connect_of_isOpen rs h]
      rfl
    | close =>
      have hflag : s.bIsOpen = true := (Bool.and_eq_true_iff.mp h).2
      rw [syscalls, closeSocket, hfd]
      simp only [hflag, if_true]
      rfl
    | transfer iError => rfl

/-- The port is opened once. From then on no attempt succeeds, and the same descriptor is closed by
    each `Close`. Before that, an `Open` that fails reports a busy port when any attempt so far found
    it so, and otherwise nothing: that permission is missing is never reported. After it, an attempt
    finds the port open, which is not reported either. -/
structure PortLife (past : List Op) (rs : List OpenAttempt) (later : List Op) : Prop where
  opens : ((after past).connect rs).1 = true ↔
    (∀ r ∈ attempts past, r.succeeds = false) ∧ ∃ r ∈ rs, r.succeeds = true
  closes : ((after past).connect rs).1 = true → ∃ fd, .opened fd ∈ ((after past).connect rs).2.2 ∧
    (((after past).connect rs).2.1).trace later = List.replicate (closes later) (.closed fd)
  alerts : rs ≠ [] ∨ (∀ r ∈ attempts past, r.succeeds = false) → ((after past).connect rs).1 = false →
    ((after past).connect rs).2.1.alert =
      if (∀ r ∈ attempts past, r.succeeds = false) ∧
          ∃ r ∈ attempts past ++ rs, r.findsBusy = true then some .portBusy else none

/-- The descriptor of a port that was opened. -/
theorem exists_opened : ∀ (rs : List OpenAttempt) {s : SerialSocket}, (s.connect rs).1 = true →
    ∃ fd, .opened fd ∈ (s.connect rs).2.2 ∧ (s.connect rs).2.1.socket = some fd
  | [], _, h => by cases h
  | r :: rs, s, h => by
    cases htried : (s.openSocket r).1 with
    | false =>
      rw [connect_cons htried] at h ⊢
      obtain ⟨fd, hfd, hsocket⟩ := exists_opened rs h
      exact ⟨fd, List.mem_append_right _ hfd, hsocket⟩
    | true =>
      have hconnect : s.connect (r :: rs) = s.openSocket r := by
        rw [connect]
        exact if_pos htried
      rw [hconnect]
      obtain ⟨opened, locked, baudRate, attributes⟩ := r
      rw [openSocket] at htried ⊢
      cases hopen : s.isOpen with
      | true => simp [hopen] at htried
      | false =>
        cases opened with
        | none => simp [hopen] at htried
        | some fd =>
          refine ⟨fd, ?_⟩
          simp only [hopen, Bool.false_eq_true, if_false] at htried ⊢
          split
          · simp
          · split
            · simp
            · split
              · simp
              · simp

theorem portLife (past : List Op) (rs : List OpenAttempt) (later : List Op) :
    PortLife past rs later := by
  have hlives := lives_after past
  rw [Lives] at hlives
  by_cases hopened : ∃ r ∈ attempts past, r.succeeds = true
  · rw [if_pos hopened] at hlives
    have hnever : ¬∀ r ∈ attempts past, r.succeeds = false := by
      obtain ⟨r, hr, hsucceeds⟩ := hopened
      intro h
      rw [h r hr] at hsucceeds
      cases hsucceeds
    have hconnect := connect_of_isOpen rs hlives
    refine ⟨?_, fun h => ?_, fun hrs _ => ?_⟩
    · rw [hconnect]
      exact iff_of_false Bool.false_ne_true fun h => hnever h.1
    · rw [hconnect] at h
      cases h
    · rw [hconnect, if_neg (not_and_of_not_left _ hnever)]
      simp only [if_neg (hrs.resolve_right hnever)]
      rfl
  · rw [if_neg hopened] at hlives
    have hnever : ∀ r ∈ attempts past, r.succeeds = false := fun r hr => by
      by_contra hsucceeds
      exact hopened ⟨r, hr, by simpa using hsucceeds⟩
    obtain ⟨hclosed, herror⟩ := hlives
    obtain ⟨hsucceeds, hopen, hleft⟩ := connect_of_closed rs hclosed
    refine ⟨hsucceeds.trans (iff_and_self.mpr fun _ => hnever), fun h => ?_, fun _ hfails => ?_⟩
    · obtain ⟨fd, hfd, hsocket⟩ := exists_opened rs h
      exact ⟨fd, hfd, trace_of_isOpen later (hopen.trans h) hsocket⟩
    · have hbusy : (∃ r ∈ attempts past ++ rs, r.findsBusy = true) ↔
          rs.any OpenAttempt.findsBusy = true ∨ (attempts past).any OpenAttempt.findsBusy = true := by
        rw [← List.any_eq_true, List.any_append, Bool.or_eq_true, or_comm]
      rw [alert, (hleft hfails).2, herror]
      simp only [and_iff_right hnever, hbusy]
      cases rs.any OpenAttempt.findsBusy with
      | true => simp [ebusy, eacces]
      | false =>
        cases (attempts past).any OpenAttempt.findsBusy with
        | true => simp [ebusy, eacces]
        | false => simp [ebusy, eacces]

end SerialSocket

end CEC
