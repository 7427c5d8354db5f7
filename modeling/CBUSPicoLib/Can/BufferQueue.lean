import CBUSPicoLib.Can.CircularBuffer
import CBUSPicoLib.Library.DropOldest
import CBUSPicoLib.Library.Ring

/-!
# The circular buffer is a bounded queue

Head, tail, full flag and cached size are four views of one length. `Represents`
ties them to a queue that drops its oldest entry; every call keeps the tie, and
what it returns is read off the queue.
-/

namespace CBUSPicoLib

open Runs

/-- A call of one of the buffer's methods. -/
inductive BufferCall
  | put (item : CANFrame) (micros : UInt32)
  | get
  | peek
  | insertTime
  | clear
  | size
  | available
  | full
  | empty
  | freeSlots

/-- What a call returns; a pointer is the frame behind it. -/
inductive BufferAnswer
  | unit
  | frame (f : Option CANFrame)
  | time (micros : UInt32)
  | count (n : UInt8)
  | flag (b : Bool)
  deriving DecidableEq

def BufferCall.toOp : BufferCall → DropOldest.Op BufferItem
  | .put item micros => .put ⟨micros, item⟩
  | .get => .get
  | .clear => .clear
  | _ => .look

namespace CBUSCircularBuffer

def call (b : CBUSCircularBuffer) : BufferCall → BufferAnswer × CBUSCircularBuffer
  | .put item micros => (.unit, b.put item micros)
  | .get => (.frame (b.get.1.map fun p => b.get.2.frameAt (some p)), b.get.2)
  | .peek => (.frame (b.peek.map fun p => b.frameAt (some p)), b)
  | .insertTime => (.time b.insertTime, b)
  | .clear => (.unit, b.clear)
  | .size => (.count b.callSize.1, b.callSize.2)
  | .available => (.flag b.available, b)
  | .full => (.flag b.full, b)
  | .empty => (.flag b.empty, b)
  | .freeSlots => (.count b.freeSlots, b)

def contents (b : CBUSCircularBuffer) : List BufferItem :=
  match b.buffer with
  | some items => Ring.window items b.tail.toNat b.size.toNat
  | none => []

/-- The answers that a queue of entries with insert times gives. The time of an
empty queue is left open. -/
def Answers {n : ℕ} (q : DropOldest BufferItem n) : BufferCall → BufferAnswer → Prop
  | .put _ _, a => a = .unit
  | .get, a => a = .frame (q.entries.head?.map (·.item))
  | .peek, a => a = .frame (q.entries.head?.map (·.item))
  | .insertTime, a => ∀ x ∈ q.entries.head?, a = .time x.itemInsertTime
  | .clear, a => a = .unit
  | .size, a => a = .count (UInt8.ofNat q.entries.length)
  | .available, a => a = .flag (decide (0 < q.entries.length))
  | .full, a => a = .flag (decide (q.entries.length = n))
  | .empty, a => a = .flag (decide (q.entries.length = 0))
  | .freeSlots, a => a = .count (UInt8.ofNat (n - q.entries.length))

/-- Head, tail and full flag place the entries in the slots from the tail on. -/
structure Places (b : CBUSCircularBuffer) (items : List BufferItem) (n : ℕ)
    (entries : List BufferItem) : Prop where
  buffer : b.buffer = some items
  slots : items.length = n
  capacity : b.capacity.toNat = n
  positive : 0 < n
  bounded : entries.length ≤ n
  tail : b.tail.toNat < n
  head : b.head.toNat = (b.tail.toNat + entries.length) % n
  full : b.full = decide (entries.length = n)
  window : Ring.window items b.tail.toNat entries.length = entries

/-- The buffer holds the entries of the queue and counts as it does. -/
structure Represents (b : CBUSCircularBuffer) (items : List BufferItem) {n : ℕ}
    (q : DropOldest BufferItem n) : Prop extends Places b items n q.entries where
  size : b.size.toNat = q.entries.length
  puts : b.puts = UInt32.ofNat q.puts
  gets : b.gets = UInt32.ofNat q.gets
  overflows : b.overflows = UInt32.ofNat q.dropped
  highWaterMark : b.highWaterMark.toNat = q.peak

theorem toNat_nextIndex {b : CBUSCircularBuffer} (h : 0 < b.capacity.toNat) (index : UInt8) :
    (b.nextIndex index).toNat = (index.toNat + 1) % b.capacity.toNat := by
  have hmod := Nat.mod_lt (index.toNat + 1) h
  have hcap := b.capacity.toNat_lt
  simp only [nextIndex, UInt8.toNat_ofNat']
  omega

namespace Places

variable {b : CBUSCircularBuffer} {items entries : List BufferItem} {n : ℕ}

theorem toNat_countItems (h : Places b items n entries) : b.countItems.toNat = entries.length := by
  have hcap := h.capacity
  have hlt := b.capacity.toNat_lt
  have hbound := h.bounded
  have htail := h.tail
  have hhead := h.head
  unfold countItems
  by_cases hn : entries.length = n
  · simp [h.full, hn, hcap]
  · have hnot : b.full = false := by simp [h.full, hn]
    rw [hnot]
    by_cases hround : b.tail.toNat + entries.length < n
    · rw [Nat.mod_eq_of_lt hround] at hhead
      have hle : b.tail ≤ b.head := UInt8.le_iff_toNat_le.mpr (by omega)
      simp [hle, UInt8.toNat_sub_of_le _ _ hle]
      omega
    · rw [Nat.mod_eq_sub_mod (by omega), Nat.mod_eq_of_lt (by omega)] at hhead
      have hgt : ¬ b.tail ≤ b.head := fun hle => by
        have := UInt8.le_iff_toNat_le.mp hle
        omega
      simp [hgt, UInt8.toNat_sub, UInt8.toNat_add]
      omega

theorem head?_entries (h : Places b items n entries) (hne : entries ≠ []) :
    entries.head? = some (items.getD b.tail.toNat {}) := by
  have hlt : b.tail.toNat < items.length := by
    rw [h.slots]
    exact h.tail
  obtain ⟨x, rest, hq⟩ := List.exists_cons_of_ne_nil hne
  have hwin := h.window
  rw [hq, List.length_cons, Ring.window, Nat.mod_eq_of_lt hlt, List.getElem?_eq_getElem hlt] at hwin
  simp only [Option.toList_some, List.cons_append, List.nil_append, List.cons.injEq] at hwin
  simp [hq, hlt, hwin.1]

theorem head_beq_tail {head tail : UInt8} {len : ℕ} (hpos : 0 < len) (hlen : len ≤ n)
    (htail : tail.toNat < n) (hhead : head.toNat = (tail.toNat + len) % n) :
    (head == tail) = decide (len = n) := by
  have hmeet := Ring.add_mod_eq_self htail hpos hlen
  rw [← hhead, UInt8.toNat_inj] at hmeet
  by_cases h : len = n
  · simp [h, hmeet.mpr h]
  · simp [h, mt hmeet.mp h]

theorem put_of_lt (h : Places b items n entries) (hlt : entries.length < n) (x : BufferItem) :
    Places { b with
      buffer := some (items.set b.head.toNat x)
      head := b.nextIndex b.head
      full := b.nextIndex b.head == b.tail } (items.set b.head.toNat x) n (entries ++ [x]) := by
  have hcap := h.capacity
  have hslots := h.slots
  have hpos := h.positive
  subst hcap
  have hhead : (b.nextIndex b.head).toNat =
      (b.tail.toNat + (entries.length + 1)) % b.capacity.toNat := by
    rw [toNat_nextIndex hpos, h.head, Nat.mod_add_mod, Nat.add_assoc]
  have hwin := Ring.window_put (lt_of_lt_of_eq hlt hslots.symm) b.tail.toNat x
  rw [hslots, h.window, ← h.head] at hwin
  have hfull := head_beq_tail (by omega) hlt h.tail hhead
  constructor
  all_goals simp [*, h.tail, Nat.succ_le_of_lt hlt]

theorem put_of_full (h : Places b items n entries) (hfull : entries.length = n) (x : BufferItem) :
    Places { b with
      buffer := some (items.set b.head.toNat x)
      tail := b.nextIndex b.tail
      head := b.nextIndex b.head
      full := b.nextIndex b.head == b.nextIndex b.tail
      overflows := b.overflows + 1 } (items.set b.head.toNat x) n
      (entries ++ [x]).tail := by
  have hcap := h.capacity
  have hslots := h.slots
  have hpos := h.positive
  subst hcap
  have hround : b.head = b.tail := by
    apply UInt8.toNat_inj.mp
    rw [h.head, hfull, Nat.add_mod_right, Nat.mod_eq_of_lt h.tail]
  have hne : entries ≠ [] := List.length_pos_iff.mp (hfull ▸ hpos)
  have hwin := Ring.window_put_full (lt_of_lt_of_eq hpos hslots.symm) b.tail.toNat x
  have hmod := Ring.window_mod (items.set b.tail.toNat x) (b.tail.toNat + 1) b.capacity.toNat
  rw [hslots, Nat.mod_eq_of_lt h.tail, ← hfull, h.window, hfull,
    ← List.tail_append_of_ne_nil hne] at hwin
  rw [List.length_set, hslots] at hmod
  have hlen : (entries ++ [x]).tail.length = b.capacity.toNat := by simp [hfull]
  constructor
  case window => rw [hlen, toNat_nextIndex hpos, hround, hmod, hwin]
  all_goals simp [-List.length_tail, hlen, hround, hslots, hpos, toNat_nextIndex hpos, Nat.mod_lt _ hpos]

theorem get (h : Places b items n entries) {x : BufferItem} {rest : List BufferItem}
    (hcons : entries = x :: rest) :
    Places { b with full := false, tail := b.nextIndex b.tail } items n rest := by
  have hcap := h.capacity
  have hslots := h.slots
  have hpos := h.positive
  have hbound := h.bounded
  have hhead := h.head
  have hwin := h.window
  subst hcap hcons
  have hlt : b.tail.toNat < items.length := lt_of_lt_of_eq h.tail hslots.symm
  rw [List.length_cons] at hbound hhead
  rw [List.length_cons, Ring.window, Nat.mod_eq_of_lt hlt, List.getElem?_eq_getElem hlt] at hwin
  have hmod := Ring.window_mod items (b.tail.toNat + 1) rest.length
  rw [hslots] at hmod
  constructor
  case window => simpa [toNat_nextIndex hpos, hmod] using (List.cons.inj hwin).2
  case head => simp [toNat_nextIndex hpos, hhead, Nat.add_right_comm, Nat.add_assoc]
  case full => simp; omega
  case bounded => omega
  all_goals simp [h.buffer, hslots, hpos, toNat_nextIndex hpos, Nat.mod_lt _ hpos]

theorem clear (h : Places b items n entries) :
    Places { b with head := 0, tail := 0, full := false } items n [] := by
  have hpos := h.positive
  constructor
  all_goals simp [h.buffer, h.slots, h.capacity, hpos, hpos.ne]

end Places

namespace Represents

variable {b : CBUSCircularBuffer} {items : List BufferItem} {n : ℕ} {q : DropOldest BufferItem n}

theorem construct {numItems : UInt8} (h : 0 < numItems.toNat) :
    Represents (CBUSCircularBuffer.construct numItems) (List.replicate numItems.toNat {})
      (DropOldest.empty : DropOldest BufferItem numItems.toNat) := by
  have hpos : 0 < numItems := UInt8.lt_iff_toNat_lt.mpr h
  constructor
  case toPlaces =>
    constructor
    all_goals simp [CBUSCircularBuffer.construct, DropOldest.empty, h, h.ne, hpos]
  all_goals simp [CBUSCircularBuffer.construct, DropOldest.empty]

theorem recount (h : Places b items n q.entries) (hputs : b.puts + 1 = UInt32.ofNat q.puts)
    (hgets : b.gets = UInt32.ofNat q.gets) (hoverflows : b.overflows = UInt32.ofNat q.dropped)
    (hpeak : max b.highWaterMark.toNat q.entries.length = q.peak) :
    Represents { b with
      size := b.countItems
      highWaterMark := if b.highWaterMark < b.countItems then b.countItems else b.highWaterMark
      puts := b.puts + 1 } items q := by
  have hcount := h.toNat_countItems
  constructor
  case toPlaces => exact { h with }
  case highWaterMark =>
    rw [← hpeak, ← hcount]
    dsimp only
    split_ifs with hlt
    · exact (max_eq_right (UInt8.lt_iff_toNat_lt.mp hlt).le).symm
    · exact (max_eq_left (not_lt.mp fun h => hlt (UInt8.lt_iff_toNat_lt.mpr h))).symm
  all_goals simp [*]

theorem put (h : Represents b items q) (x : BufferItem) :
    Represents (b.put x.item x.itemInsertTime) (items.set b.head.toNat x) (q.put x) := by
  have hpeak := q.peak_step (.put x)
  by_cases hlt : q.entries.length < n
  · obtain ⟨hentries, hputs, hgets, hdropped, -⟩ := q.put_of_lt hlt x
    have hplaces := h.toPlaces.put_of_lt hlt x
    have hnot : b.full = false := by simp [h.full, hlt.ne]
    rw [← hentries] at hplaces
    simp only [CBUSCircularBuffer.put, h.buffer, hnot]
    exact recount hplaces (by simp [h.puts, hputs]) (by simp [h.gets, hgets])
      (by simp [h.overflows, hdropped]) (by rw [h.highWaterMark]; exact hpeak.symm)
  · have hfull : q.entries.length = n := le_antisymm q.bounded (not_lt.mp hlt)
    obtain ⟨hentries, hputs, hgets, hdropped, -⟩ := q.put_of_full hfull x
    have hplaces := h.toPlaces.put_of_full hfull x
    have hflag : b.full = true := by simp [h.full, hfull]
    rw [← hentries] at hplaces
    simp only [CBUSCircularBuffer.put, h.buffer, hflag]
    exact recount hplaces (by simp [h.puts, hputs]) (by simp [h.gets, hgets])
      (by simp [h.overflows, hdropped]) (by rw [h.highWaterMark]; exact hpeak.symm)

theorem get_of_nil (h : Represents b items q) (hnil : q.entries = []) : b.get = (none, b) := by
  have hsize : b.size = 0 := by
    apply UInt8.toNat_inj.mp
    simp [h.size, hnil]
  simp [CBUSCircularBuffer.get, hsize]

/-- A get from a buffer that is not empty: the tail slot, which holds the oldest entry. -/
theorem get_of_cons (h : Represents b items q) {x : BufferItem} {rest : List BufferItem}
    (hcons : q.entries = x :: rest) :
    b.get.1 = some b.tail.toNat ∧ Represents b.get.2 items q.get := by
  have hsize : 0 < b.size := by
    apply UInt8.lt_iff_toNat_lt.mpr
    simp [h.size, hcons]
  obtain ⟨hentries, hputs, hgets, hdropped, hpeak⟩ := q.get_of_cons hcons
  have hplaces := h.toPlaces.get hcons
  rw [← hentries] at hplaces
  have hcount := hplaces.toNat_countItems
  have hget : b.get = (some b.tail.toNat, { b with
      full := false
      tail := b.nextIndex b.tail
      size := CBUSCircularBuffer.countItems { b with full := false, tail := b.nextIndex b.tail }
      gets := b.gets + 1 }) := by
    simp [CBUSCircularBuffer.get, h.buffer, hsize]
  rw [hget]
  refine ⟨rfl, ?_⟩
  constructor
  case toPlaces => exact { hplaces with }
  case size => exact hcount
  all_goals simp [h.puts, h.gets, h.overflows, h.highWaterMark, hputs, hgets, hdropped, hpeak]

theorem get (h : Represents b items q) : Represents b.get.2 items q.get := by
  cases hq : q.entries with
  | nil =>
    rw [h.get_of_nil hq, q.get_of_nil hq]
    exact h
  | cons x rest => exact (h.get_of_cons hq).2

theorem clear (h : Represents b items q) : Represents b.clear items q.clear := by
  have hplaces := h.toPlaces.clear
  constructor
  case toPlaces => exact { hplaces with }
  all_goals simp [CBUSCircularBuffer.clear, DropOldest.clear, h.puts, h.gets, h.overflows, h.highWaterMark]

theorem callSize (h : Represents b items q) : b.callSize = (b.size, b) := by
  have hcount : b.countItems = b.size := by
    apply UInt8.toNat_inj.mp
    rw [h.toNat_countItems, h.size]
  simp [CBUSCircularBuffer.callSize, hcount]

theorem call (h : Represents b items q) (c : BufferCall) :
    ∃ items', Represents (b.call c).2 items' (q.step c.toOp) := by
  cases c with
  | put item micros => exact ⟨_, h.put ⟨micros, item⟩⟩
  | get => exact ⟨_, h.get⟩
  | clear => exact ⟨_, h.clear⟩
  | size =>
    simp only [CBUSCircularBuffer.call, h.callSize]
    exact ⟨_, h⟩
  | peek => exact ⟨_, h⟩
  | insertTime => exact ⟨_, h⟩
  | available => exact ⟨_, h⟩
  | full => exact ⟨_, h⟩
  | empty => exact ⟨_, h⟩
  | freeSlots => exact ⟨_, h⟩

theorem contents (h : Represents b items q) : b.contents = q.entries := by
  simp [CBUSCircularBuffer.contents, h.buffer, h.size, h.window]

/-- The frame and the time in the tail slot are those of the oldest entry. -/
theorem tail_slot (h : Represents b items q) {x : BufferItem} {rest : List BufferItem}
    (hcons : q.entries = x :: rest) :
    b.frameAt (some b.tail.toNat) = x.item ∧ b.insertTime = x.itemInsertTime ∧
      b.get.2.frameAt (some b.tail.toNat) = x.item := by
  have hhead := h.head?_entries (by simp [hcons])
  have hget := (h.get_of_cons hcons).2.buffer
  simp only [hcons, List.head?_cons, Option.some.injEq] at hhead
  simp [frameAt, insertTime, h.buffer, hget, hhead]

theorem size_eq_zero (h : Represents b items q) : b.size = 0 ↔ q.entries = [] := by
  rw [← UInt8.toNat_inj, h.size]
  simp

theorem available_iff (h : Represents b items q) : b.available = true ↔ q.entries ≠ [] := by
  simp [CBUSCircularBuffer.available, UInt8.lt_iff_toNat_lt, h.size, List.length_pos_iff]

theorem empty_eq (h : Represents b items q) : b.empty = decide (q.entries.length = 0) := by
  have hpos := h.positive
  cases hq : q.entries.length with
  | zero =>
    have hmeet : b.head = b.tail := by
      apply UInt8.toNat_inj.mp
      rw [h.head, hq, Nat.add_zero, Nat.mod_eq_of_lt h.tail]
    simp [CBUSCircularBuffer.empty, h.full, hq, hmeet, hpos.ne]
  | succ len =>
    have hmeet := Places.head_beq_tail (hq ▸ len.succ_pos) q.bounded h.tail h.head
    simp [CBUSCircularBuffer.empty, h.full, hmeet]

theorem answers (h : Represents b items q) (c : BufferCall) : Answers q c (b.call c).1 := by
  have hlen : b.size = UInt8.ofNat q.entries.length := by
    simp [← h.size]
  cases c with
  | put item micros => rfl
  | clear => rfl
  | get =>
    cases hq : q.entries with
    | nil => simp [Answers, CBUSCircularBuffer.call, h.get_of_nil hq, hq]
    | cons x rest =>
      have hget := (h.get_of_cons hq).1
      simp [Answers, CBUSCircularBuffer.call, hget, hq, h.tail_slot hq]
  | peek =>
    cases hq : q.entries with
    | nil => simp [Answers, CBUSCircularBuffer.call, peek, h.size_eq_zero, hq]
    | cons x rest =>
      simp [Answers, CBUSCircularBuffer.call, peek, h.size_eq_zero, h.buffer, hq, h.tail_slot hq]
  | insertTime =>
    cases hq : q.entries with
    | nil => simp [Answers, hq]
    | cons x rest => simp [Answers, CBUSCircularBuffer.call, hq, h.tail_slot hq]
  | size => simp [Answers, CBUSCircularBuffer.call, h.callSize, hlen]
  | available =>
    simp [Answers, CBUSCircularBuffer.call, CBUSCircularBuffer.available, UInt8.lt_iff_toNat_lt, h.size]
  | full => simp [Answers, CBUSCircularBuffer.call, h.full]
  | empty => simp [Answers, CBUSCircularBuffer.call, h.empty_eq]
  | freeSlots =>
    have hle : b.size ≤ b.capacity := by
      rw [UInt8.le_iff_toNat_le, h.size, h.capacity]
      exact q.bounded
    have hfree : b.freeSlots = UInt8.ofNat (n - q.entries.length) := by
      apply UInt8.toNat_inj.mp
      have hlt := b.capacity.toNat_lt
      rw [h.capacity] at hlt
      simp [freeSlots, UInt8.toNat_sub_of_le _ _ hle, h.size, h.capacity]
      omega
    simp [Answers, CBUSCircularBuffer.call, hfree]

end Represents

def queueAfter (capacity : ℕ) (calls : List BufferCall) : DropOldest BufferItem capacity :=
  run DropOldest.step DropOldest.empty (calls.map BufferCall.toOp)

theorem represents_run {capacity : UInt8} (h : 0 < capacity.toNat) (calls : List BufferCall) :
    ∃ items, Represents (run (fun b c => (call b c).2) (construct capacity) calls) items
      (queueAfter capacity.toNat calls) := by
  induction calls using List.reverseRecOn with
  | nil => exact ⟨_, Represents.construct h⟩
  | append_singleton calls c ih =>
    obtain ⟨items, hrep⟩ := ih
    simpa [queueAfter, run] using hrep.call c

/-- After any calls the buffer is the queue after the same calls: it holds its
entries, answers every further call as the queue does, and its counters account
for every frame. -/
theorem refines_run (capacity : UInt8) (h : 0 < capacity.toNat) (calls : List BufferCall) :
    let b := run (fun b c => (call b c).2) (construct capacity) calls
    let q := queueAfter capacity.toNat calls
    b.contents = q.entries ∧ q.entries.length ≤ capacity.toNat ∧
      (∀ c, Answers q c (b.call c).1) ∧
      IsGreatest {k | ∃ ps, ps <+: calls ∧ k = (queueAfter capacity.toNat ps).entries.length}
        b.highWaterMark.toNat ∧
      b.puts = b.gets + b.overflows + UInt32.ofNat q.entries.length + UInt32.ofNat q.discarded := by
  intro b q
  obtain ⟨items, hrep⟩ := represents_run h calls
  refine ⟨hrep.contents, q.bounded, hrep.answers, ?_, ?_⟩
  · rw [hrep.highWaterMark]
    have hpeak := DropOldest.peak_run capacity.toNat (calls.map BufferCall.toOp)
    simpa [List.prefix_map_iff, queueAfter] using hpeak
  · rw [hrep.puts, hrep.gets, hrep.overflows, (queueAfter capacity.toNat calls).balance]
    simp only [UInt32.ofNat_add]
    rfl

theorem refines_run_wrap :
    let calls := [.put { id := 1 } 10, .put { id := 2 } 20, .put { id := 3 } 30, .get]
    let b := run (fun b c => (call b c).2) (construct 2) calls
    let q := queueAfter (2 : UInt8).toNat calls
    b.contents = q.entries ∧ q.entries.length ≤ (2 : UInt8).toNat ∧
      (∀ c, Answers q c (b.call c).1) ∧
      IsGreatest {k | ∃ ps, ps <+: calls ∧ k = (queueAfter (2 : UInt8).toNat ps).entries.length}
        b.highWaterMark.toNat ∧
      b.puts = b.gets + b.overflows + UInt32.ofNat q.entries.length + UInt32.ofNat q.discarded :=
  refines_run 2 (by decide) [.put { id := 1 } 10, .put { id := 2 } 20, .put { id := 3 } 30, .get]

end CBUSCircularBuffer
end CBUSPicoLib
