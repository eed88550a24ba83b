import LibCec.LinuxAddress
import Mathlib

/-! Opening the library without the name of a port, and the time that this takes.

    What is left of the timeout is shared among the adapters that are left, and one adapter is tried
    again and again until its share is used up:

        OpenFirstAdapter ──share──▶ OpenPort ──▶ OpenConnection ⟲ Open, Close, sleep
                ▲                      ├──▶ CreateThread
                └──── next adapter ─✗──┴──▶ RegisterClient … ✗ Close

    Times are in nanoseconds and timeouts in milliseconds. -/

namespace CEC

/-- `CEC_CONNECT_TRIES`, `CEC_DEFAULT_TRANSMIT_WAIT`, `CEC_DEFAULT_CONNECT_RETRY_WAIT`. -/
def connectTries : ℕ := 3
def defaultTransmitWait : ℕ := 1000
def connectRetryWait : ℕ := 1000

/-- How long a call takes, and whether it succeeds. -/
structure TimedCall where
  took : ℕ
  succeeds : Bool

/-- What `OpenPort` meets at a port: the time to close the previous connection, what each `Open` of
    its adapter comes to, given its number and its timeout, with the `Close` that follows a failure,
    what becomes of the thread of the processor and of the clients that are registered, and the time
    to close it again if one of them is not. -/
structure PortOpening where
  closing : ℕ
  opens : ℕ → ℕ → TimedCall
  thread : TimedCall
  clients : List TimedCall
  abandoning : ℕ

/-- Whether a call has succeeded, and when it returns. -/
structure Returned where
  bReturn : Bool
  time : ℕ

/-- The loop of `OpenConnection`, for at most `n` passes. -/
def connectLoop (timeout : CTimeout) (opens : ℕ → ℕ → TimedCall) : ℕ → ℕ → ℕ → Returned
  | 0, _, now => ⟨false, now⟩
  | n + 1, iConnectTry, now =>
    if timeout.timeLeft now = 0 then ⟨false, now⟩
    else
      let call := opens iConnectTry (timeout.timeLeft now / connectTries)
      if call.succeeds then ⟨true, now + call.took⟩
      else
        connectLoop timeout opens n (iConnectTry + 1)
          (now + call.took + connectRetryWait * nsPerMs)

/-- The timeout of `OpenConnection`, in milliseconds. -/
def connectTimeout (iTimeoutMs : ℕ) : ℕ := if iTimeoutMs > 0 then iTimeoutMs else defaultTransmitWait

namespace PortOpening

variable (p : PortOpening)

/-- `OpenConnection`. There is no room for more passes, as each of them waits for a second. -/
def openConnection (iTimeoutMs now : ℕ) : Returned :=
  connectLoop (.init now (connectTimeout iTimeoutMs)) p.opens (connectTimeout iTimeoutMs) 0
    (now + p.closing)

/-- `Start`. -/
def start (iTimeoutMs now : ℕ) : Returned :=
  let r := p.openConnection iTimeoutMs now
  if !r.bReturn then r else ⟨p.thread.succeeds, r.time + p.thread.took⟩

/-- The clients are registered until one is not. -/
def registerClients : List TimedCall → ℕ → Returned
  | [], now => ⟨true, now⟩
  | c :: cs, now => if !c.succeeds then ⟨false, now + c.took⟩ else registerClients cs (now + c.took)

/-- `OpenPort`. -/
def openPort (iTimeoutMs now : ℕ) : Returned :=
  let r := p.start iTimeoutMs now
  if !r.bReturn then r
  else
    let registered := registerClients p.clients r.time
    if registered.bReturn then registered else ⟨false, registered.time + p.abandoning⟩

end PortOpening

/-- The adapter that was opened, by its place in the list, and when the call returns. -/
structure FirstAdapter where
  adapter : Option ℕ
  time : ℕ

/-- The loop of `OpenFirstAdapter`, with the adapters that are left. -/
def openAdapters (iTimeoutMs : ℕ) (timeout : CTimeout) : List PortOpening → ℕ → FirstAdapter
  | [], now => ⟨none, now⟩
  | p :: ports, now =>
    if iTimeoutMs > 0 ∧ timeout.timeLeft now = 0 then ⟨none, now⟩
    else
      let iAdapterTimeoutMs :=
        if iTimeoutMs > 0 then timeout.timeLeft now / (ports.length + 1) else 0
      let r := p.openPort iAdapterTimeoutMs now
      if r.bReturn then ⟨some 0, r.time⟩
      else
        let rest := openAdapters iTimeoutMs timeout ports r.time
        ⟨rest.adapter.map (· + 1), rest.time⟩

/-- `OpenFirstAdapter`, for the adapters that were found. -/
def openFirstAdapter (ports : List PortOpening) (iTimeoutMs now : ℕ) : FirstAdapter :=
  openAdapters iTimeoutMs (.init now iTimeoutMs) ports now

/-! ### How long it takes -/

namespace CTimeout

theorem target_init (now iTimeout : ℕ) : (init now iTimeout).target = now + iTimeout * nsPerMs := rfl

/-- What is left ends at the target. -/
theorem add_timeLeft_le {t : CTimeout} {now : ℕ} (h : t.timeLeft now ≠ 0) :
    now + t.timeLeft now * nsPerMs ≤ t.target := by
  rw [timeLeft] at h ⊢
  split at h
  · exact absurd rfl h
  · next hset =>
    split at h
    · exact absurd rfl h
    · next hopen =>
      rw [if_neg hset, if_neg hopen]
      have hdiv := Nat.div_mul_le_self (t.target - now) nsPerMs
      omega

theorem timeLeft_init (start iTimeout now : ℕ) :
    (init start iTimeout).timeLeft now = (start + iTimeout * nsPerMs - now) / nsPerMs := by
  have hset : (!(init start iTimeout).bSet) = false := rfl
  rw [timeLeft, hset, if_neg Bool.false_ne_true, target_init]
  split
  · next h => rw [Nat.sub_eq_zero_of_le h, Nat.zero_div]
  · rfl

end CTimeout

/-- No `Open` takes more than `late` longer than it is given. -/
def PortOpening.OpensWithin (p : PortOpening) (late : ℕ) : Prop :=
  ∀ i iTimeoutMs, (p.opens i iTimeoutMs).took ≤ iTimeoutMs * nsPerMs + late

/-- The time for what `OpenPort` does besides the loop. -/
def PortOpening.besides (p : PortOpening) : ℕ :=
  p.closing + p.thread.took + (p.clients.map (·.took)).sum + p.abandoning

/-- The last try begins before the time is up, with a third of what is left, and is followed by a
    wait. -/
theorem connectLoop_time_le {p : PortOpening} {late : ℕ} (hopens : p.OpensWithin late)
    (timeout : CTimeout) (n iConnectTry now : ℕ) :
    (connectLoop timeout p.opens n iConnectTry now).time ≤
      max now (timeout.target + 999 * nsPerMs + late) := by
  induction n generalizing iConnectTry now with
  | zero => exact Nat.le_max_left _ _
  | succ n ih =>
    have htook := hopens iConnectTry (timeout.timeLeft now / connectTries)
    rw [connectLoop]
    generalize p.opens iConnectTry (timeout.timeLeft now / connectTries) = call at htook
    by_cases hleft : timeout.timeLeft now = 0
    · rw [if_pos hleft]
      exact Nat.le_max_left _ _
    · have hend := CTimeout.add_timeLeft_le hleft
      have hthird : (timeout.timeLeft now / connectTries + 1) * nsPerMs ≤
          timeout.timeLeft now * nsPerMs :=
        Nat.mul_le_mul_right _ (by simp only [connectTries]; omega)
      rw [Nat.succ_mul] at hthird
      rw [if_neg hleft]
      obtain ⟨took, succeeds⟩ := call
      cases succeeds with
      | true =>
        dsimp only at htook ⊢
        simp only [if_true]
        omega
      | false =>
        have hlater := ih (iConnectTry + 1) (now + took + connectRetryWait * nsPerMs)
        dsimp only at htook ⊢
        simp only [connectRetryWait, Bool.false_eq_true, if_false] at hlater ⊢
        omega

theorem connectLoop_passes (timeout : CTimeout) (opens : ℕ → ℕ → TimedCall) {n m now : ℕ}
    (hn : timeout.target ≤ now + n * (connectRetryWait * nsPerMs)) (hm : n ≤ m) (iConnectTry : ℕ) :
    connectLoop timeout opens m iConnectTry now = connectLoop timeout opens n iConnectTry now := by
  induction n generalizing m iConnectTry now with
  | zero =>
    have hover : timeout.timeLeft now = 0 := by
      by_contra h
      have hend := CTimeout.add_timeLeft_le h
      have hpos : 0 < timeout.timeLeft now * nsPerMs := Nat.mul_pos (Nat.pos_of_ne_zero h) (by decide)
      omega
    cases m with
    | zero => rfl
    | succ m => simp only [connectLoop, hover, if_true]
  | succ n ih =>
    rw [Nat.succ_mul] at hn
    cases m with
    | zero => exact absurd hm (Nat.not_succ_le_zero n)
    | succ m =>
      simp only [connectLoop]
      rw [ih (by omega) (Nat.le_of_succ_le_succ hm)]

namespace PortOpening

variable {p : PortOpening} {late : ℕ}

theorem registerClients_time_le (cs : List TimedCall) (now : ℕ) :
    (registerClients cs now).time ≤ now + (cs.map (·.took)).sum := by
  induction cs generalizing now with
  | nil => exact Nat.le_refl _
  | cons c cs ih =>
    have hrest := ih (now + c.took)
    rw [registerClients, List.map_cons, List.sum_cons]
    split
    · dsimp only
      omega
    · omega

/-- More passes than `openConnection` has make no difference. -/
theorem openConnection_passes (p : PortOpening) {iTimeoutMs n : ℕ}
    (hn : connectTimeout iTimeoutMs ≤ n) (now : ℕ) :
    connectLoop (.init now (connectTimeout iTimeoutMs)) p.opens n 0 (now + p.closing) =
      p.openConnection iTimeoutMs now := by
  refine connectLoop_passes _ _ ?_ hn 0
  have hpasses : connectTimeout iTimeoutMs * nsPerMs ≤
      connectTimeout iTimeoutMs * (connectRetryWait * nsPerMs) :=
    Nat.mul_le_mul_left _ (by decide)
  rw [CTimeout.target_init]
  omega

theorem openConnection_time_le (hopens : p.OpensWithin late) (iTimeoutMs now : ℕ) :
    (p.openConnection iTimeoutMs now).time ≤
      now + (connectTimeout iTimeoutMs + 999) * nsPerMs + late + p.closing := by
  refine (connectLoop_time_le hopens _ _ _ _).trans ?_
  rw [CTimeout.target_init, Nat.add_mul]
  omega

theorem start_time_le (iTimeoutMs now : ℕ) :
    (p.start iTimeoutMs now).time ≤ (p.openConnection iTimeoutMs now).time + p.thread.took := by
  rw [start]
  split
  · exact Nat.le_add_right _ _
  · exact Nat.le_refl _

theorem openPort_time_le (hopens : p.OpensWithin late) (iTimeoutMs now : ℕ) :
    (p.openPort iTimeoutMs now).time ≤
      now + (connectTimeout iTimeoutMs + 999) * nsPerMs + late + p.besides := by
  have hconnect := openConnection_time_le hopens iTimeoutMs now
  have hstart := start_time_le (p := p) iTimeoutMs now
  have hclients := registerClients_time_le p.clients (p.start iTimeoutMs now).time
  rw [openPort, besides]
  dsimp only
  split
  · omega
  · split
    · omega
    · dsimp only
      omega

end PortOpening

/-- An adapter gets no more than what is left, but a second if that is too little to be shared. -/
theorem share_le {left n : ℕ} (hleft : left ≠ 0) :
    (connectTimeout (left / n) + 999) * nsPerMs ≤ left * nsPerMs + 1998 * nsPerMs := by
  rw [← Nat.add_mul, connectTimeout]
  refine Nat.mul_le_mul_right _ ?_
  have hdiv := Nat.div_le_self left n
  split
  · omega
  · simp only [defaultTransmitWait]
    omega

/-- The search ends with the first of the adapters, or goes on among the others. -/
theorem openAdapters_cons {iTimeoutMs : ℕ} {timeout : CTimeout} (p : PortOpening)
    (ports : List PortOpening) {now : ℕ} (h : ¬(iTimeoutMs > 0 ∧ timeout.timeLeft now = 0)) :
    let first := p.openPort
      (if iTimeoutMs > 0 then timeout.timeLeft now / (ports.length + 1) else 0) now
    let others := openAdapters iTimeoutMs timeout ports first.time
    openAdapters iTimeoutMs timeout (p :: ports) now =
      if first.bReturn then ⟨some 0, first.time⟩
      else ⟨others.adapter.map (· + 1), others.time⟩ := by
  rw [openAdapters, if_neg h]

theorem openAdapters_time {iTimeoutMs : ℕ} {timeout : CTimeout} (p : PortOpening)
    (ports : List PortOpening) {now : ℕ} (h : ¬(iTimeoutMs > 0 ∧ timeout.timeLeft now = 0)) :
    let first := p.openPort
      (if iTimeoutMs > 0 then timeout.timeLeft now / (ports.length + 1) else 0) now
    (openAdapters iTimeoutMs timeout (p :: ports) now).time =
      if first.bReturn then first.time
      else (openAdapters iTimeoutMs timeout ports first.time).time := by
  rw [openAdapters_cons p ports h, apply_ite FirstAdapter.time]

theorem openAdapters_adapter {iTimeoutMs : ℕ} {timeout : CTimeout} (p : PortOpening)
    (ports : List PortOpening) {now : ℕ} (h : ¬(iTimeoutMs > 0 ∧ timeout.timeLeft now = 0)) :
    let first := p.openPort
      (if iTimeoutMs > 0 then timeout.timeLeft now / (ports.length + 1) else 0) now
    (openAdapters iTimeoutMs timeout (p :: ports) now).adapter =
      if first.bReturn then some 0
      else (openAdapters iTimeoutMs timeout ports first.time).adapter.map (· + 1) := by
  rw [openAdapters_cons p ports h, apply_ite FirstAdapter.adapter]

/-- The whole search ends at most two seconds late. -/
theorem openAdapters_time_le {late rest : ℕ} {ports : List PortOpening}
    (hopens : ∀ p ∈ ports, p.OpensWithin late) (hrest : ∀ p ∈ ports, p.besides ≤ rest)
    {iTimeoutMs : ℕ} (htimed : iTimeoutMs > 0) (timeout : CTimeout) (now : ℕ) :
    (openAdapters iTimeoutMs timeout ports now).time ≤
      max now (timeout.target + 1998 * nsPerMs + late + rest) := by
  induction ports generalizing now with
  | nil =>
    rw [openAdapters]
    exact Nat.le_max_left _ _
  | cons p ports ih =>
    have hport := hrest p List.mem_cons_self
    have hothers := ih (fun q hq => hopens q (List.mem_cons_of_mem p hq))
      fun q hq => hrest q (List.mem_cons_of_mem p hq)
    by_cases hleft : timeout.timeLeft now = 0
    · rw [openAdapters, if_pos ⟨htimed, hleft⟩]
      exact Nat.le_max_left _ _
    · have hend := CTimeout.add_timeLeft_le hleft
      have hshare := share_le (n := ports.length + 1) hleft
      have hfirst := PortOpening.openPort_time_le (hopens p List.mem_cons_self)
        (timeout.timeLeft now / (ports.length + 1)) now
      rw [openAdapters_time p ports fun h => hleft h.2, if_pos htimed]
      split
      · omega
      · have hothers := hothers (p.openPort (timeout.timeLeft now / (ports.length + 1)) now).time
        omega

/-- Without a timeout each adapter is tried for a second. -/
theorem openAdapters_untimed_time_le {late rest : ℕ} {ports : List PortOpening}
    (hopens : ∀ p ∈ ports, p.OpensWithin late) (hrest : ∀ p ∈ ports, p.besides ≤ rest)
    (timeout : CTimeout) (now : ℕ) :
    (openAdapters 0 timeout ports now).time ≤
      now + ports.length * (1999 * nsPerMs + late + rest) := by
  induction ports generalizing now with
  | nil =>
    rw [openAdapters]
    exact Nat.le_add_right _ _
  | cons p ports ih =>
    have hport := hrest p List.mem_cons_self
    have hfirst := PortOpening.openPort_time_le (hopens p List.mem_cons_self) 0 now
    have hothers := ih (fun q hq => hopens q (List.mem_cons_of_mem p hq))
      (fun q hq => hrest q (List.mem_cons_of_mem p hq)) (p.openPort 0 now).time
    have hshare : connectTimeout 0 = 1000 := rfl
    rw [hshare] at hfirst
    rw [openAdapters_time p ports fun h => Nat.lt_irrefl 0 h.1, if_neg (Nat.lt_irrefl 0),
      List.length_cons, Nat.succ_mul]
    split
    · omega
    · omega

/-! ### Which adapter is opened -/

namespace PortOpening

/-- Nobody else has the adapter, and the clients can be registered. -/
def Usable (p : PortOpening) : Prop :=
  (∀ i iTimeoutMs, (p.opens i iTimeoutMs).succeeds) ∧ p.thread.succeeds ∧
    ∀ c ∈ p.clients, c.succeeds

/-- `OpenPort` fails, whatever time there is. -/
def Unusable (p : PortOpening) : Prop :=
  (∀ i iTimeoutMs, (p.opens i iTimeoutMs).succeeds = false) ∨ p.thread.succeeds = false ∨
    ∃ c ∈ p.clients, c.succeeds = false

variable {p : PortOpening}

theorem registerClients_bReturn (cs : List TimedCall) (now : ℕ) :
    (registerClients cs now).bReturn = cs.all (·.succeeds) := by
  induction cs generalizing now with
  | nil => rfl
  | cons c cs ih =>
    rw [registerClients, List.all_cons]
    cases c.succeeds with
    | false => rfl
    | true => exact ih _

theorem connectLoop_fails (hopens : ∀ i iTimeoutMs, (p.opens i iTimeoutMs).succeeds = false)
    (timeout : CTimeout) (n iConnectTry now : ℕ) :
    (connectLoop timeout p.opens n iConnectTry now).bReturn = false := by
  induction n generalizing iConnectTry now with
  | zero => rfl
  | succ n ih =>
    rw [connectLoop]
    split
    · rfl
    · simp only [hopens, Bool.false_eq_true, if_false, ih]

/-- A port is open when the three stages have succeeded. -/
theorem openPort_bReturn (iTimeoutMs now : ℕ) :
    (p.openPort iTimeoutMs now).bReturn =
      ((p.openConnection iTimeoutMs now).bReturn && p.thread.succeeds &&
        p.clients.all (·.succeeds)) := by
  have hclients := registerClients_bReturn p.clients (p.start iTimeoutMs now).time
  rw [openPort, start] at *
  generalize p.openConnection iTimeoutMs now = r at *
  obtain ⟨bReturn, time⟩ := r
  cases bReturn with
  | false => rfl
  | true =>
    cases hthread : p.thread.succeeds with
    | false => simp
    | true =>
      simp only [hthread, Bool.not_true, Bool.false_eq_true, if_false] at hclients ⊢
      rw [← hclients]
      split
      · next hall => rw [hall]; rfl
      · next hall => simpa using hall

theorem Unusable.openPort (h : p.Unusable) (iTimeoutMs now : ℕ) :
    (p.openPort iTimeoutMs now).bReturn = false := by
  rw [openPort_bReturn]
  rcases h with hopens | hthread | ⟨c, hc, hfails⟩
  · rw [openConnection, connectLoop_fails hopens]
    rfl
  · rw [hthread, Bool.and_false, Bool.false_and]
  · rw [List.all_eq_false.mpr ⟨c, hc, by simp [hfails]⟩, Bool.and_false]

/-- A usable adapter is opened, if closing the previous connection leaves any time for it. -/
theorem Usable.openPort (h : p.Usable) {iTimeoutMs now : ℕ}
    (htime : p.closing + nsPerMs ≤ connectTimeout iTimeoutMs * nsPerMs) :
    (p.openPort iTimeoutMs now).bReturn = true := by
  obtain ⟨hopens, hthread, hclients⟩ := h
  have hleft : (CTimeout.init now (connectTimeout iTimeoutMs)).timeLeft (now + p.closing) ≠ 0 := by
    rw [CTimeout.timeLeft_init, ← Nat.pos_iff_ne_zero]
    exact Nat.div_pos (by omega) (by decide)
  have hpasses : connectTimeout iTimeoutMs ≠ 0 := fun hnone => by
    rw [hnone, Nat.zero_mul] at htime
    exact absurd htime (Nat.not_le_of_gt (Nat.add_pos_right _ (by decide)))
  obtain ⟨n, hn⟩ := Nat.exists_eq_succ_of_ne_zero hpasses
  rw [openPort_bReturn, openConnection, hthread, List.all_eq_true.mpr hclients, Bool.and_true,
    Bool.and_true]
  rw [hn] at hleft ⊢
  rw [connectLoop, if_neg hleft]
  simp only [hopens, if_true]

end PortOpening

/-- Everything that is done at a port takes that much longer than its part of the timeout, at most. -/
def overrun (late rest : ℕ) : ℕ := 1000 * nsPerMs + late + rest

/-- What is left for the others when one of `n + 1` adapters has used its part of `left`, and more. -/
theorem left_for_others {n left used more y : ℕ} (hn : 0 < n) (hused : (n + 1) * used ≤ left)
    (hleft : (n + 1) * (y + more) ≤ left) : n * y + used + more ≤ left := by
  have hmore : n * y + more ≤ n * (y + more) := by
    rw [Nat.mul_add]
    exact Nat.add_le_add_left (Nat.le_mul_of_pos_left more hn) _
  rw [Nat.succ_mul] at hused hleft
  rcases Nat.le_total used (y + more) with hle | hle
  · omega
  · have hothers := Nat.mul_le_mul_left n hle
    omega

/-- A part of what is left, in whole milliseconds. -/
theorem part_bounds {n left y : ℕ} (hleft : (n + 1) * y ≤ left) :
    (n + 1) * (left / nsPerMs / (n + 1) * nsPerMs) ≤ left ∧
      y < left / nsPerMs / (n + 1) * nsPerMs + nsPerMs := by
  have hns : 0 < nsPerMs := by decide
  rw [Nat.div_div_eq_div_mul]
  constructor
  · calc (n + 1) * (left / (nsPerMs * (n + 1)) * nsPerMs)
        = left / (nsPerMs * (n + 1)) * (nsPerMs * (n + 1)) := by ac_rfl
      _ ≤ left := Nat.div_mul_le_self ..
  · refine Nat.lt_of_mul_lt_mul_left (a := n + 1) (hleft.trans_lt ?_)
    calc left < nsPerMs * (n + 1) * (left / (nsPerMs * (n + 1)) + 1) :=
          Nat.lt_mul_div_succ _ (Nat.mul_pos hns (Nat.succ_pos n))
      _ = (n + 1) * ((left / (nsPerMs * (n + 1)) + 1) * nsPerMs) := by ac_rfl
      _ = (n + 1) * (left / (nsPerMs * (n + 1)) * nsPerMs + nsPerMs) := by
        rw [Nat.succ_mul (left / (nsPerMs * (n + 1)))]

/-- There is a part of the time for an adapter as long as the ones in front of it do not use it up. -/
theorem openAdapters_found {late rest : ℕ} {ports : List PortOpening}
    (hopens : ∀ p ∈ ports, p.OpensWithin late) (hrest : ∀ p ∈ ports, p.besides ≤ rest)
    {k : ℕ} {p : PortOpening} (hp : ports[k]? = some p) (husable : p.Usable)
    (hbefore : ∀ j < k, ∀ q, ports[j]? = some q → q.Unusable)
    {iTimeoutMs : ℕ} (htimed : iTimeoutMs > 0) {start now : ℕ}
    (hleft : ports.length * ((k + 1) * overrun late rest) ≤ start + iTimeoutMs * nsPerMs - now) :
    (openAdapters iTimeoutMs (.init start iTimeoutMs) ports now).adapter = some k := by
  induction ports generalizing k now with
  | nil => cases hp
  | cons q ports ih =>
    rw [List.length_cons] at hleft
    obtain ⟨hused, hpart⟩ := part_bounds hleft
    have hmore : overrun late rest ≤ (k + 1) * overrun late rest :=
      Nat.le_mul_of_pos_left _ (Nat.succ_pos k)
    have hoverrun : overrun late rest = 1000 * nsPerMs + late + rest := rfl
    have hpos : 0 < nsPerMs := by decide
    have htimeLeft : (CTimeout.init start iTimeoutMs).timeLeft now =
        (start + iTimeoutMs * nsPerMs - now) / nsPerMs := CTimeout.timeLeft_init ..
    have hgiven : (CTimeout.init start iTimeoutMs).timeLeft now / (ports.length + 1) ≠ 0 := by
      intro h
      rw [← htimeLeft, h] at hpart
      omega
    have hleft' : ¬(iTimeoutMs > 0 ∧ (CTimeout.init start iTimeoutMs).timeLeft now = 0) := fun h =>
      hgiven (by rw [h.2, Nat.zero_div])
    have htimeout : connectTimeout ((CTimeout.init start iTimeoutMs).timeLeft now /
        (ports.length + 1)) = (CTimeout.init start iTimeoutMs).timeLeft now / (ports.length + 1) :=
      if_pos (Nat.pos_of_ne_zero hgiven)
    have hbesides := hrest q List.mem_cons_self
    rw [openAdapters_adapter q ports hleft', if_pos htimed]
    cases k with
    | zero =>
      obtain rfl := Option.some.inj hp
      have hclosing : q.closing ≤ q.besides := by
        rw [PortOpening.besides]
        omega
      rw [husable.openPort (by rw [htimeout, htimeLeft]; omega), if_pos rfl]
    | succ k =>
      have hothers : 0 < ports.length := List.length_pos_of_mem (List.mem_of_getElem? hp)
      have hend := PortOpening.openPort_time_le (hopens q List.mem_cons_self)
        ((CTimeout.init start iTimeoutMs).timeLeft now / (ports.length + 1)) now
      rw [htimeout, Nat.add_mul] at hend
      rw [(hbefore 0 (Nat.succ_pos k) q rfl).openPort]
      rw [Nat.succ_mul (k + 1)] at hleft
      have hnext := left_for_others hothers hused hleft
      rw [ih (fun r hr => hopens r (List.mem_cons_of_mem q hr))
        (fun r hr => hrest r (List.mem_cons_of_mem q hr)) hp
        (fun j hj r hr => hbefore (j + 1) (Nat.succ_lt_succ hj) r hr)]
      · rfl
      · rw [← htimeLeft] at hnext
        omega

/-- Without a timeout every adapter is tried. -/
theorem openAdapters_untimed_found {rest : ℕ} {ports : List PortOpening}
    (hrest : ∀ p ∈ ports, p.besides ≤ rest) (hshort : rest + nsPerMs ≤ 1000 * nsPerMs)
    {k : ℕ} {p : PortOpening} (hp : ports[k]? = some p) (husable : p.Usable)
    (hbefore : ∀ j < k, ∀ q, ports[j]? = some q → q.Unusable) (timeout : CTimeout) (now : ℕ) :
    (openAdapters 0 timeout ports now).adapter = some k := by
  induction ports generalizing k now with
  | nil => cases hp
  | cons q ports ih =>
    rw [openAdapters_adapter q ports fun h => Nat.lt_irrefl 0 h.1, if_neg (Nat.lt_irrefl 0)]
    cases k with
    | zero =>
      obtain rfl := Option.some.inj hp
      have hbesides := hrest q List.mem_cons_self
      have hclosing : q.closing ≤ q.besides := by
        rw [PortOpening.besides]
        omega
      have htimeout : connectTimeout 0 = 1000 := rfl
      rw [husable.openPort (by rw [htimeout]; omega), if_pos rfl]
    | succ k =>
      rw [(hbefore 0 (Nat.succ_pos k) q rfl).openPort,
        ih (fun r hr => hrest r (List.mem_cons_of_mem q hr)) hp
          fun j hj r hr => hbefore (j + 1) (Nat.succ_lt_succ hj) r hr]
      rfl

/-- The adapter that is opened is one of those that can be. -/
theorem openAdapters_opened (iTimeoutMs : ℕ) (timeout : CTimeout) (ports : List PortOpening)
    (now : ℕ) {i : ℕ} (h : (openAdapters iTimeoutMs timeout ports now).adapter = some i) :
    ∃ p, ports[i]? = some p ∧ ¬p.Unusable := by
  induction ports generalizing now i with
  | nil => cases h
  | cons q ports ih =>
    by_cases hover : iTimeoutMs > 0 ∧ timeout.timeLeft now = 0
    · rw [openAdapters, if_pos hover] at h
      cases h
    · rw [openAdapters_adapter q ports hover] at h
      generalize hr : q.openPort
        (if iTimeoutMs > 0 then timeout.timeLeft now / (ports.length + 1) else 0) now = r at h
      by_cases hopen : r.bReturn
      · rw [if_pos hopen] at h
        obtain rfl := Option.some.inj h
        refine ⟨q, rfl, fun hunusable => ?_⟩
        rw [← hr, hunusable.openPort] at hopen
        cases hopen
      · rw [if_neg hopen] at h
        obtain ⟨j, hj, rfl⟩ := Option.map_eq_some_iff.mp h
        exact ih _ hj

/-- The search ends in time, opens an adapter only if that is possible, and finds the first one that
    can be opened if those in front of it leave any time. -/
structure OpensFirst (ports : List PortOpening) (iTimeoutMs start late rest : ℕ) (r : FirstAdapter) :
    Prop where
  inTime : iTimeoutMs > 0 → r.time ≤ start + (iTimeoutMs + 1998) * nsPerMs + late + rest
  untimed : iTimeoutMs = 0 → r.time ≤ start + ports.length * (1999 * nsPerMs + late + rest)
  opened : ∀ i, r.adapter = some i → ∃ p, ports[i]? = some p ∧ ¬p.Unusable
  found : ∀ k p, ports[k]? = some p → p.Usable → (∀ j < k, ∀ q, ports[j]? = some q → q.Unusable) →
    (if iTimeoutMs > 0 then ports.length * ((k + 1) * overrun late rest) ≤ iTimeoutMs * nsPerMs
      else rest + nsPerMs ≤ 1000 * nsPerMs) → r.adapter = some k

/-- `OpenFirstAdapter` walks past the adapters that are in use, within the timeout of the caller. -/
theorem opens_first {ports : List PortOpening} {late rest : ℕ}
    (hopens : ∀ p ∈ ports, p.OpensWithin late) (hrest : ∀ p ∈ ports, p.besides ≤ rest)
    (iTimeoutMs start : ℕ) :
    OpensFirst ports iTimeoutMs start late rest (openFirstAdapter ports iTimeoutMs start) where
  inTime := fun htimed => by
    have htime := openAdapters_time_le hopens hrest htimed (.init start iTimeoutMs) start
    rw [CTimeout.target_init] at htime
    rw [openFirstAdapter, Nat.add_mul]
    omega
  untimed := fun huntimed => by
    subst huntimed
    exact openAdapters_untimed_time_le hopens hrest _ start
  opened := fun i h => openAdapters_opened iTimeoutMs _ ports start h
  found := fun k p hp husable hbefore htime => by
    split at htime
    · next htimed =>
      exact openAdapters_found hopens hrest hp husable hbefore htimed
        (by rw [Nat.add_sub_cancel_left]; exact htime)
    · next huntimed =>
      obtain rfl := Nat.eq_zero_of_not_pos huntimed
      exact openAdapters_untimed_found hrest htime hp husable hbefore _ start

/-- An adapter that is in use, each `Open` of which takes its whole timeout. -/
def inUse : PortOpening :=
  ⟨0, fun _ iTimeoutMs => ⟨iTimeoutMs * nsPerMs, false⟩, ⟨0, true⟩, [], 0⟩

/-- An adapter that nobody uses. -/
def unused : PortOpening := ⟨0, fun _ _ => ⟨nsPerMs, true⟩, ⟨0, true⟩, [⟨nsPerMs, true⟩], 0⟩

theorem opens_first_second :
    (openFirstAdapter [inUse, unused] 10000 0).adapter = some 1 ∧
      (openFirstAdapter [inUse, unused] 10000 0).time ≤ 12000 * nsPerMs := by
  have hopens : ∀ p ∈ [inUse, unused], p.OpensWithin nsPerMs := by
    intro p hp i iTimeoutMs
    rcases List.mem_cons.mp hp with rfl | hp
    · exact Nat.le_add_right _ _
    · obtain rfl := List.mem_singleton.mp hp
      exact Nat.le_add_left _ _
  have hrest : ∀ p ∈ [inUse, unused], p.besides ≤ nsPerMs := by
    intro p hp
    rcases List.mem_cons.mp hp with rfl | hp
    · exact Nat.zero_le _
    · obtain rfl := List.mem_singleton.mp hp
      decide
  have hfirst := opens_first hopens hrest 10000 0
  refine ⟨hfirst.found 1 unused rfl ⟨fun _ _ => rfl, rfl, by decide⟩ ?_ (by decide), ?_⟩
  · intro j hj q hq
    obtain rfl := Nat.lt_one_iff.mp hj
    obtain rfl := Option.some.inj hq
    exact .inl fun _ _ => rfl
  · exact (hfirst.inTime (by decide)).trans (by decide)

/-- Those that are in use can use up all the time. -/
example : (openFirstAdapter [inUse, inUse, unused] 1500 0).adapter = none := by decide +kernel

end CEC
