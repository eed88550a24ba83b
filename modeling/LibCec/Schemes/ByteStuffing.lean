import LibCec.Schemes.BoundedBuffer
import Mathlib.Algebra.Group.End
import Mathlib.Data.List.Count
import Mathlib.Data.List.Flatten

/-! Byte-stuffed framing over an arbitrary alphabet.

    A payload travels as `start, escaped payload, stop`. A payload symbol that is one of the three
    marks is sent as `esc` followed by a stand-in, so that no mark appears between a `start` and
    the `stop` that ends it. The receiver keeps a bounded buffer and one flag (the next symbol is
    escaped), hands the buffer over on every `stop`, and starts afresh on a `start` only when the
    buffer already begins with one.

        start ──▶ payload symbols, marks as `esc stuff(a)` ──▶ stop
          ↑ drops a buffer that begins with `start`             ↓ delivers and clears

    The main results: a frame fed to a receiver that is `Ready` is delivered whole (`run_frame`),
    to one that is not it is never delivered (`run_frame_stale`), and a list of frames cut off
    after `n` symbols arrives complete exactly when nothing was cut off (`run_frames_take`). -/

namespace Schemes

/-- Three distinct marks and a permutation that gives the stand-in of an escaped symbol. -/
structure Framing (α : Type*) where
  start : α
  stop : α
  esc : α
  stuff : Equiv.Perm α
  start_ne_stop : start ≠ stop
  start_ne_esc : start ≠ esc
  stop_ne_esc : stop ≠ esc
  stuff_plain : ∀ a, a = start ∨ a = stop ∨ a = esc →
    stuff a ≠ start ∧ stuff a ≠ stop ∧ stuff a ≠ esc
  stuff_ne : ∀ a, stuff a ≠ a

namespace Framing

variable {α : Type*} (f : Framing α)

/-- The symbols that may not travel as they are. -/
def Special (a : α) : Prop := a = f.start ∨ a = f.stop ∨ a = f.esc

instance [DecidableEq α] (a : α) : Decidable (f.Special a) :=
  inferInstanceAs (Decidable (a = f.start ∨ a = f.stop ∨ a = f.esc))

theorem stuff_not_special {a : α} (h : f.Special a) : ¬ f.Special (f.stuff a) := by
  have := f.stuff_plain a h
  rintro (h | h | h) <;> simp_all

theorem unstuff_ne (a : α) : f.stuff.symm a ≠ a := fun h =>
  f.stuff_ne (f.stuff.symm a) (by rw [Equiv.apply_symm_apply]; exact h.symm)

/-- A mark is never the escaped form of a mark. -/
theorem unstuff_not_special {a : α} (h : f.Special a) : ¬ f.Special (f.stuff.symm a) := fun h' =>
  f.stuff_not_special h' (by rw [Equiv.apply_symm_apply]; exact h)

variable [DecidableEq α]

/-! ### Sending -/

/-- One payload symbol on the wire. -/
def escapeOne (a : α) : List α := if f.Special a then [f.esc, f.stuff a] else [a]

/-- A payload on the wire, without its delimiters. -/
def escape (as : List α) : List α := as.flatMap f.escapeOne

/-- A payload with its delimiters, as the receiver hands it over. -/
def delimited (as : List α) : List α := f.start :: (as ++ [f.stop])

/-- A payload on the wire. -/
def frame (as : List α) : List α := f.start :: (f.escape as ++ [f.stop])

@[simp] theorem escape_nil : f.escape [] = [] := rfl

@[simp] theorem escape_cons (a : α) (as : List α) :
    f.escape (a :: as) = f.escapeOne a ++ f.escape as := rfl

theorem escapeOne_plain {a : α} (h : ¬ f.Special a) : f.escapeOne a = [a] := if_neg h

theorem escapeOne_special {a : α} (h : f.Special a) : f.escapeOne a = [f.esc, f.stuff a] := if_pos h

/-- No delimiter occurs among escaped symbols. -/
theorem not_mem_escapeOne (a : α) : f.start ∉ f.escapeOne a ∧ f.stop ∉ f.escapeOne a := by
  by_cases h : f.Special a
  · have hs := f.stuff_plain a h
    rw [escapeOne_special f h]
    simp [f.start_ne_esc, f.stop_ne_esc, hs.1.symm, hs.2.1.symm]
  · rw [escapeOne_plain f h]
    simp only [Special, not_or] at h
    simp [Ne.symm h.1, Ne.symm h.2.1]

theorem not_mem_escape (as : List α) : f.start ∉ f.escape as ∧ f.stop ∉ f.escape as := by
  simp only [escape, List.mem_flatMap, not_exists, not_and]
  exact ⟨fun a _ => (f.not_mem_escapeOne a).1, fun a _ => (f.not_mem_escapeOne a).2⟩

theorem count_stop_frame (as : List α) : (f.frame as).count f.stop = 1 := by
  rw [frame, List.count_cons_of_ne f.start_ne_stop, List.count_append,
    List.count_eq_zero.mpr (f.not_mem_escape as).2, List.count_singleton_self]

theorem count_stop_frames : ∀ ps : List (List α), (ps.flatMap f.frame).count f.stop = ps.length
  | [] => rfl
  | p :: ps => by
    rw [List.flatMap_cons, List.count_append, count_stop_frame, count_stop_frames ps,
      List.length_cons, Nat.add_comm]

/-- A nonempty list of frames ends with the mark that delivers the last one. -/
theorem getLast?_frames {ps : List (List α)} (h : ps ≠ []) :
    (ps.flatMap f.frame).getLast? = some f.stop := by
  obtain ⟨qs, q, rfl⟩ := (List.eq_nil_or_concat ps).resolve_left h
  rw [List.concat_eq_append, List.flatMap_append, List.flatMap_singleton, frame, ← List.cons_append,
    ← List.append_assoc, List.getLast?_concat]

/-! ### Counting packets -/

/-- The number of stretches that begin with a `start` and reach a `stop`; a second `start` begins
    the stretch again. The flag says whether one has begun. -/
def packetCount : Bool → List α → ℕ
  | _, [] => 0
  | inside, a :: as =>
    if a = f.start then packetCount true as
    else if inside = true ∧ a = f.stop then packetCount false as + 1
    else packetCount inside as

/-- Symbols that are no delimiters are passed over. -/
theorem packetCount_body (inside : Bool) (rest : List α) : ∀ {as : List α},
    f.start ∉ as ∧ f.stop ∉ as → f.packetCount inside (as ++ rest) = f.packetCount inside rest
  | [], _ => rfl
  | a :: as, h => by
    have ha : a ≠ f.start ∧ a ≠ f.stop :=
      ⟨fun e => h.1 (e ▸ List.mem_cons_self), fun e => h.2 (e ▸ List.mem_cons_self)⟩
    have hbody := packetCount_body inside rest
      ⟨fun hm => h.1 (List.mem_cons_of_mem a hm), fun hm => h.2 (List.mem_cons_of_mem a hm)⟩
    rw [List.cons_append, packetCount, if_neg ha.1, if_neg fun e => ha.2 e.2, hbody]

/-- A frame is one packet, whatever came before it. -/
theorem packetCount_frame (inside : Bool) (as rest : List α) :
    f.packetCount inside (f.frame as ++ rest) = f.packetCount false rest + 1 := by
  rw [frame, List.cons_append, List.append_assoc, packetCount, if_pos rfl,
    packetCount_body f true _ (f.not_mem_escape as), List.singleton_append, packetCount,
    if_neg f.start_ne_stop.symm, if_pos ⟨rfl, rfl⟩]

theorem packetCount_frames (rest : List α) : ∀ ps : List (List α),
    f.packetCount false (ps.flatMap f.frame ++ rest) = f.packetCount false rest + ps.length
  | [] => rfl
  | p :: ps => by
    rw [List.flatMap_cons, List.append_assoc, packetCount_frame, packetCount_frames rest ps,
      List.length_cons, Nat.add_assoc]

/-- So is a pair that is sent as it is, even when its second symbol is a mark. -/
theorem packetCount_raw {a : α} (ha : ¬ f.Special a) (inside : Bool) (b : α) (rest : List α) :
    f.packetCount inside (f.start :: a :: b :: f.stop :: rest) = f.packetCount false rest + 1 := by
  simp only [Special, not_or] at ha
  simp only [packetCount, ha, and_false, if_false, if_true, f.start_ne_stop.symm, and_self]
  by_cases hs : b = f.start
  · simp [hs]
  · by_cases he : b = f.stop <;> simp [hs, he]

/-- A stream that is cut off has no more packets than the whole one. -/
theorem packetCount_take_le : ∀ (n : ℕ) (inside : Bool) (as : List α),
    f.packetCount inside (as.take n) ≤ f.packetCount inside as
  | 0, _, _ => Nat.zero_le _
  | _ + 1, _, [] => le_rfl
  | n + 1, inside, a :: as => by
    rw [List.take_succ_cons, packetCount, packetCount]
    split_ifs
    · exact packetCount_take_le n true as
    · exact Nat.add_le_add_right (packetCount_take_le n false as) 1
    · exact packetCount_take_le n inside as

end Framing

/-! ### Receiving -/

/-- What the receiver remembers between two symbols. -/
structure Receiver (α : Type*) (cap : ℕ) where
  buffer : BoundedBuffer α cap
  pending : Bool
  deriving DecidableEq

namespace Receiver

variable {α : Type*} {cap : ℕ}

/-- The receiver before the first symbol, and after every delivery. -/
def empty : Receiver α cap := ⟨.empty, false⟩

variable [DecidableEq α] (f : Framing α)

/-- The buffer begins with the start mark. -/
def hasStart (r : Receiver α cap) : Bool := r.buffer.toList.head? = some f.start

/-- Take one symbol in. -/
def feed (r : Receiver α cap) (a : α) : Receiver α cap :=
  if a = f.start then
    let r := if r.hasStart f then empty else r
    { r with buffer := r.buffer.push a }
  else if r.pending then { buffer := r.buffer.push (f.stuff.symm a), pending := false }
  else if a = f.esc then { r with pending := true }
  else { r with buffer := r.buffer.push a }

/-- Take one symbol in and, on the stop mark, hand the buffer over and clear it. -/
def accept (r : Receiver α cap) (a : α) : Receiver α cap × List (List α) :=
  let r' := r.feed f a
  if a = f.stop then (empty, [r'.buffer.toList]) else (r', [])

/-- Take symbols in one after the other, collecting what is handed over. -/
def run (r : Receiver α cap) : List α → Receiver α cap × List (List α)
  | [] => (r, [])
  | a :: as =>
    let x := r.accept f a
    let y := run x.1 as
    (y.1, x.2 ++ y.2)

@[simp] theorem run_nil (r : Receiver α cap) : r.run f [] = (r, []) := rfl

theorem run_cons (r : Receiver α cap) (a : α) (as : List α) :
    r.run f (a :: as) = (((r.accept f a).1.run f as).1,
      (r.accept f a).2 ++ ((r.accept f a).1.run f as).2) := rfl

theorem run_append : ∀ (as bs : List α) (r : Receiver α cap),
    r.run f (as ++ bs) = (((r.run f as).1.run f bs).1,
      (r.run f as).2 ++ ((r.run f as).1.run f bs).2)
  | [], _, _ => by simp
  | a :: as, bs, r => by
    simp only [List.cons_append, run_cons, run_append as bs, List.append_assoc]

theorem accept_of_ne_stop (r : Receiver α cap) {a : α} (h : a ≠ f.stop) :
    r.accept f a = (r.feed f a, []) := if_neg h

theorem accept_stop (r : Receiver α cap) :
    r.accept f f.stop = (empty, [(r.feed f f.stop).buffer.toList]) := if_pos rfl

/-- What has been handed over stays handed over. -/
theorem run_prefix (as bs : List α) (r : Receiver α cap) :
    (r.run f as).2 <+: (r.run f (as ++ bs)).2 := by
  rw [run_append]
  exact List.prefix_append _ _

/-- One message is handed over for each stop mark. -/
theorem length_run : ∀ (as : List α) (r : Receiver α cap),
    (r.run f as).2.length = as.count f.stop
  | [], _ => rfl
  | a :: as, r => by
    rw [run_cons, List.length_append, length_run as]
    by_cases h : a = f.stop
    · rw [h, accept_stop, List.count_cons_self, List.length_singleton, Nat.add_comm]
    · rw [accept_of_ne_stop f r h, List.count_cons_of_ne h, List.length_nil, Nat.zero_add]

/-! ### Feeding a frame -/

/-- A receiver that the next start mark leaves with just that mark. -/
def Ready (r : Receiver α cap) : Prop :=
  r.hasStart f = true ∨ (r.buffer.toList = [] ∧ r.pending = false)

instance (r : Receiver α cap) : Decidable (r.Ready f) :=
  inferInstanceAs (Decidable (_ ∨ _))

theorem ready_empty : (empty : Receiver α cap).Ready f := .inr ⟨rfl, rfl⟩

theorem feed_start_ready {r : Receiver α cap} (h : r.Ready f) :
    r.feed f f.start = ⟨BoundedBuffer.empty.push f.start, false⟩ := by
  rcases h with h | ⟨hb, hp⟩
  · simp [feed, h, empty]
  · have hb' : r.buffer = .empty := BoundedBuffer.ext hb
    simp [feed, hasStart, hb', hp]

theorem feed_start_of_not_hasStart {r : Receiver α cap} (h : r.hasStart f = false) :
    r.feed f f.start = { r with buffer := r.buffer.push f.start } := by
  simp [feed, h]

theorem feed_pending {r : Receiver α cap} {a : α} (ha : a ≠ f.start) (hp : r.pending = true) :
    r.feed f a = ⟨r.buffer.push (f.stuff.symm a), false⟩ := by
  simp [feed, ha, hp]

theorem feed_esc {r : Receiver α cap} (hp : r.pending = false) :
    r.feed f f.esc = { r with pending := true } := by
  simp [feed, f.start_ne_esc.symm, hp]

theorem feed_plain {r : Receiver α cap} {a : α} (ha : a ≠ f.start) (he : a ≠ f.esc)
    (hp : r.pending = false) : r.feed f a = { r with buffer := r.buffer.push a } := by
  simp [feed, ha, he, hp]

/-- An escaped symbol is pushed as it was before escaping. -/
theorem run_escapeOne {r : Receiver α cap} (hp : r.pending = false) (a : α) :
    r.run f (f.escapeOne a) = ({ r with buffer := r.buffer.push a }, []) := by
  by_cases h : f.Special a
  · obtain ⟨hs, ht, _⟩ := f.stuff_plain a h
    rw [f.escapeOne_special h, run_cons, accept_of_ne_stop f r f.stop_ne_esc.symm, feed_esc f hp,
      run_cons, accept_of_ne_stop f _ ht, feed_pending f hs rfl, Equiv.symm_apply_apply]
    simp [hp]
  · rw [f.escapeOne_plain h]
    simp only [Framing.Special, not_or] at h
    rw [run_cons, accept_of_ne_stop f r h.2.1, feed_plain f h.1 h.2.2 hp]
    simp

/-- An escaped payload is pushed as it was before escaping, and nothing is handed over. -/
theorem run_escape : ∀ (as : List α) {r : Receiver α cap}, r.pending = false →
    r.run f (f.escape as) = ({ r with buffer := r.buffer.pushAll as }, [])
  | [], _, _ => rfl
  | a :: as, r, hp => by
    rw [Framing.escape_cons, run_append, run_escapeOne f hp, run_escape as (by exact hp)]
    rfl

/-- A ready receiver delivers the next frame whole and is empty afterwards. -/
theorem run_frame {r : Receiver α cap} (hr : r.Ready f) {as : List α} (hc : as.length + 2 ≤ cap) :
    r.run f (f.frame as) = (empty, [f.delimited as]) := by
  have hstop : ∀ {r : Receiver α cap}, r.pending = false →
      r.run f [f.stop] = (empty, [(r.buffer.push f.stop).toList]) := by
    intro r hp
    rw [run_cons, accept_stop, feed_plain f f.start_ne_stop.symm f.stop_ne_esc hp]
    simp
  rw [Framing.frame, run_cons, accept_of_ne_stop f r f.start_ne_stop, feed_start_ready f hr,
    run_append, run_escape f as rfl, hstop rfl]
  have hfit : (f.delimited as).length ≤ cap := by
    simp only [Framing.delimited, List.length_cons, List.length_append, List.length_nil]
    omega
  have hlist : (((BoundedBuffer.empty.push f.start).pushAll as).push f.stop :
      BoundedBuffer α cap).toList = f.delimited as := by
    rw [← BoundedBuffer.pushAll_cons, ← BoundedBuffer.pushAll_nil (BoundedBuffer.push _ _),
      ← BoundedBuffer.pushAll_cons, ← BoundedBuffer.pushAll_append, BoundedBuffer.toList_pushAll]
    exact List.take_of_length_le hfit
  rw [hlist]
  rfl

/-- A list of frames arrives as the list of their payloads. -/
theorem run_frames : ∀ (ps : List (List α)), (∀ p ∈ ps, p.length + 2 ≤ cap) →
    (empty : Receiver α cap).run f (ps.flatMap f.frame) = (empty, ps.map f.delimited)
  | [], _ => rfl
  | p :: ps, h => by
    rw [List.flatMap_cons, run_append, run_frame f (ready_empty f) (h p List.mem_cons_self),
      run_frames ps fun q hq => h q (List.mem_cons_of_mem p hq)]
    rfl

/-- A list of frames cut off after `n` symbols arrives complete iff nothing was cut off. -/
theorem run_frames_take {ps : List (List α)} (h : ∀ p ∈ ps, p.length + 2 ≤ cap) (n : ℕ) :
    (empty : Receiver α cap).run f ((ps.flatMap f.frame).take n) = (empty, ps.map f.delimited) ↔
      (ps.flatMap f.frame).length ≤ n := by
  refine ⟨fun hrun => ?_, fun hn => by rw [List.take_of_length_le hn, run_frames f ps h]⟩
  by_contra hn
  -- the cut removes the last stop mark, and with it a delivery
  have hcount : ((ps.flatMap f.frame).take n).count f.stop = ps.length := by
    rw [← length_run f _ empty, hrun, List.length_map]
  have hsplit := f.count_stop_frames ps
  rw [← List.take_append_drop n (ps.flatMap f.frame), List.count_append, hcount] at hsplit
  have hps : ps ≠ [] := by rintro rfl; simp at hn
  have hlast : ((ps.flatMap f.frame).drop n).getLast? = some f.stop := by
    rw [List.getLast?_drop, if_neg hn, f.getLast?_frames hps]
  have hpos := List.count_pos_iff.mpr (List.mem_of_getLast? hlast)
  omega

/-! ### What goes wrong -/

/-- Away from the start mark the receiver only ever appends. -/
theorem prefix_feed (r : Receiver α cap) {a : α} (ha : a ≠ f.start) :
    r.buffer.toList <+: (r.feed f a).buffer.toList := by
  unfold feed
  rw [if_neg ha]
  split
  · exact BoundedBuffer.prefix_push _ _
  · split
    · exact List.prefix_rfl
    · exact BoundedBuffer.prefix_push _ _

/-- Up to the next stop mark, one message that continues the present buffer is handed over. -/
theorem run_to_stop : ∀ (as : List α) (r : Receiver α cap), f.start ∉ as → f.stop ∉ as →
    ∃ m, r.run f (as ++ [f.stop]) = (empty, [m]) ∧ r.buffer.toList <+: m
  | [], r, _, _ => ⟨_, by rw [List.nil_append, run_cons, accept_stop]; rfl,
      prefix_feed f r f.start_ne_stop.symm⟩
  | a :: as, r, hs, ht => by
    simp only [List.mem_cons, not_or] at hs ht
    obtain ⟨m, hm, hpre⟩ := run_to_stop as (r.feed f a) hs.2 ht.2
    refine ⟨m, ?_, (prefix_feed f r (Ne.symm hs.1)).trans hpre⟩
    rw [List.cons_append, run_cons, accept_of_ne_stop f r (Ne.symm ht.1), hm]
    rfl

/-- With an escape pending, the symbol after the start mark is read as a stand-in. -/
theorem feed_pending_start {r : Receiver α cap} (hb : r.buffer.toList = [f.start])
    (hp : r.pending = true) (hc : 2 ≤ cap) {b : α} (hbs : b ≠ f.start) :
    (r.feed f b).buffer.toList = [f.start, f.stuff.symm b] := by
  have hlt : r.buffer.toList.length < cap := by rw [hb]; exact hc
  rw [feed_pending f hbs hp, BoundedBuffer.toList_push_of_lt hlt, hb]
  rfl

theorem run_pending_start {r : Receiver α cap} (hb : r.buffer.toList = [f.start])
    (hp : r.pending = true) (hc : 2 ≤ cap) (b : α) (cs : List α) (hbs : b ≠ f.start)
    (hbt : b ≠ f.stop) (hcs : f.start ∉ cs) (hct : f.stop ∉ cs) :
    ∃ u, (r.run f (b :: (cs ++ [f.stop]))).2 = [f.start :: f.stuff.symm b :: u] := by
  obtain ⟨m, hm, u, rfl⟩ := run_to_stop f cs (r.feed f b) hcs hct
  rw [run_cons, accept_of_ne_stop f r hbt, hm, feed_pending_start f hb hp hc hbs]
  exact ⟨u, rfl⟩

/-- A pending escape survives the start mark and spoils the first symbol after it. -/
theorem run_frame_pending {r : Receiver α cap} (hb : r.buffer.toList = [f.start])
    (hp : r.pending = true) (hc : 2 ≤ cap) :
    ∀ as : List α, (r.run f (f.escape as ++ [f.stop])).2 ≠ [f.delimited as]
  | [] => by
    rw [Framing.escape_nil, List.nil_append, run_cons, accept_stop,
      feed_pending_start f hb hp hc f.start_ne_stop.symm]
    simp [Framing.delimited, f.unstuff_ne]
  | a :: as => by
    have htail := f.not_mem_escape as
    have hhead := f.not_mem_escapeOne a
    by_cases h : f.Special a
    · rw [f.escape_cons, f.escapeOne_special h] at *
      simp only [List.mem_cons, not_or, List.not_mem_nil, not_false_eq_true, and_true] at hhead
      obtain ⟨u, hu⟩ := run_pending_start f hb hp hc f.esc (f.stuff a :: f.escape as)
        f.start_ne_esc.symm f.stop_ne_esc.symm (by simp [hhead.1.2, htail.1])
        (by simp [hhead.2.2, htail.2])
      have hne : f.stuff.symm f.esc ≠ a := fun he =>
        f.unstuff_not_special (.inr (.inr rfl)) (he ▸ h)
      simp only [List.cons_append, List.nil_append] at hu ⊢
      simp [hu, Framing.delimited, hne]
    · rw [f.escape_cons, f.escapeOne_plain h] at *
      simp only [List.mem_cons, not_or, List.not_mem_nil, not_false_eq_true, and_true] at hhead
      obtain ⟨u, hu⟩ := run_pending_start f hb hp hc a (f.escape as) (Ne.symm hhead.1)
        (Ne.symm hhead.2) htail.1 htail.2
      simp only [List.cons_append, List.nil_append] at hu ⊢
      simp [hu, Framing.delimited, f.unstuff_ne]

/-- Garbage in front of the start mark stays in front of it. -/
theorem run_frame_garbage {r : Receiver α cap} {x : α} {t : List α} (hb : r.buffer.toList = x :: t)
    (hx : x ≠ f.start) (as : List α) : (r.run f (f.frame as)).2 ≠ [f.delimited as] := by
  have hns : r.hasStart f = false := by simp [hasStart, hb, hx]
  have hmem := f.not_mem_escape as
  obtain ⟨m, hm, hpre⟩ := run_to_stop f (f.escape as) { r with buffer := r.buffer.push f.start }
    hmem.1 hmem.2
  obtain ⟨u, rfl⟩ := (BoundedBuffer.prefix_push r.buffer f.start).trans hpre
  rw [Framing.frame, run_cons, accept_of_ne_stop f r f.start_ne_stop,
    feed_start_of_not_hasStart f hns, hm, hb]
  simp [Framing.delimited, hx]

/-- A receiver that is not ready never delivers the next frame. -/
theorem run_frame_stale {r : Receiver α cap} (hr : ¬ r.Ready f) {as : List α}
    (hc : as.length + 2 ≤ cap) : (r.run f (f.frame as)).2 ≠ [f.delimited as] := by
  simp only [Ready, not_or, not_and, Bool.not_eq_true, Bool.not_eq_false] at hr
  obtain ⟨hns, hpend⟩ := hr
  cases hb : r.buffer.toList with
  | cons x t => exact run_frame_garbage f hb (by rintro rfl; simp [hasStart, hb] at hns) as
  | nil =>
    have hpush : (r.buffer.push f.start).toList = [f.start] := by
      rw [BoundedBuffer.toList_push_of_lt (by rw [hb]; simp only [List.length_nil]; omega), hb]
      rfl
    rw [Framing.frame, run_cons, accept_of_ne_stop f r f.start_ne_stop,
      feed_start_of_not_hasStart f hns, List.nil_append]
    exact run_frame_pending f (r := { r with buffer := r.buffer.push f.start }) hpush (hpend hb)
      (by omega) as

/-- A receiver delivers the next frame, for every payload that fits, exactly when it is ready. -/
theorem run_frame_iff {r : Receiver α cap} {as : List α} (hc : as.length + 2 ≤ cap) :
    (r.run f (f.frame as)).2 = [f.delimited as] ↔ r.Ready f :=
  ⟨fun h => by_contra fun hr => run_frame_stale f hr hc h, fun hr => by rw [run_frame f hr hc]⟩

/-- A mark sent unescaped as the second symbol of a payload cuts the message short. -/
theorem run_raw_special {c b : α} (hc : ¬ f.Special c) (hb : f.Special b) (hcap : 4 ≤ cap) :
    ∃ m ms, ((empty : Receiver α cap).run f [f.start, c, b, f.stop]).2 = m :: ms ∧
      m.length < 4 := by
  simp only [Framing.Special, not_or] at hc
  have h1 : (BoundedBuffer.empty.push f.start : BoundedBuffer α cap).toList = [f.start] :=
    BoundedBuffer.toList_push_of_lt (Nat.lt_of_lt_of_le (by simp) hcap) _
  have h2 : ((BoundedBuffer.empty.push f.start).push c : BoundedBuffer α cap).toList
      = [f.start, c] := by
    rw [BoundedBuffer.toList_push_of_lt (by rw [h1]; simp only [List.length_singleton]; omega), h1]
    rfl
  rw [run_cons, accept_of_ne_stop f _ f.start_ne_stop, feed_start_ready f (ready_empty f), run_cons,
    accept_of_ne_stop f _ hc.2.1, feed_plain f hc.1 hc.2.2 rfl]
  rcases hb with rfl | rfl | rfl
  · -- a second start mark drops what was collected
    have hready : (Receiver.mk ((BoundedBuffer.empty.push f.start).push c) false :
        Receiver α cap).Ready f := .inl (by simp [hasStart, h2])
    rw [run_cons, accept_of_ne_stop f _ f.start_ne_stop, feed_start_ready f hready, run_cons,
      accept_stop, feed_plain f f.start_ne_stop.symm f.stop_ne_esc rfl]
    exact ⟨_, _, rfl, Nat.lt_of_le_of_lt (BoundedBuffer.length_push_le _ _) (by rw [h1]; simp)⟩
  · -- a stop mark ends the message here
    rw [run_cons, accept_stop, feed_plain f f.start_ne_stop.symm f.stop_ne_esc rfl]
    exact ⟨_, _, rfl, Nat.lt_of_le_of_lt (BoundedBuffer.length_push_le _ _) (by rw [h2]; simp)⟩
  · -- an escape mark eats the stop mark
    rw [run_cons, accept_of_ne_stop f _ f.stop_ne_esc.symm, feed_esc f rfl, run_cons, accept_stop,
      feed_pending f f.start_ne_stop.symm rfl]
    exact ⟨_, _, rfl, Nat.lt_of_le_of_lt (BoundedBuffer.length_push_le _ _) (by rw [h2]; simp)⟩

/-- Whatever follows, a payload that was sent with an unescaped mark does not arrive. -/
theorem run_frames_raw {ps : List (List α)} (h : ∀ p ∈ ps, p.length + 2 ≤ cap) {c b : α}
    (hc : ¬ f.Special c) (hb : f.Special b) (hcap : 4 ≤ cap) (rest : List α) (qs : List (List α)) :
    ((empty : Receiver α cap).run f (ps.flatMap f.frame ++ ([f.start, c, b, f.stop] ++ rest))).2 ≠
      (ps ++ [c, b] :: qs).map f.delimited := by
  obtain ⟨m, ms, hm, hlen⟩ := run_raw_special f hc hb hcap
  obtain ⟨rs, hrs⟩ := run_prefix f [f.start, c, b, f.stop] rest (empty : Receiver α cap)
  rw [run_append, run_frames f ps h, ← hrs, hm, List.map_append]
  simp only [List.cons_append, List.map_cons, ne_eq, List.append_cancel_left_eq, List.cons.injEq,
    not_and]
  rintro rfl
  simp [Framing.delimited] at hlen

end Receiver

end Schemes
