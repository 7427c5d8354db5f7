import CBUSPicoLib.Can.BufferQueue

/-!
# Reading the receive buffer under interrupts

`get` gives a slot back to the buffer before its caller has copied the frame out
of it, and the receive interrupt may put a frame in between. The copy is the
frame that was oldest at the time of the `get` unless a put has landed on that
very slot.
-/

namespace CBUSPicoLib

open Runs

/-- The atomic steps: a put by the interrupt, a get, the copy through its pointer. -/
inductive ReadStep
  | put (item : CANFrame) (micros : UInt32)
  | get
  | copy

/-- What has become of a frame that is no longer in the buffer. -/
inductive Fate
  | taken
  | overwritten
  deriving DecidableEq

/-- The buffer and its reader; `oldest` records the oldest frame at each get. -/
structure ReadPath where
  buffer : CBUSCircularBuffer
  pointer : Option ℕ := none
  copied : List CANFrame := []
  oldest : List CANFrame := []

namespace ReadPath

/-- The caller of `get` has made sure that a frame is available. -/
def step (r : ReadPath) : ReadStep → ReadPath
  | .put item micros => { r with buffer := r.buffer.put item micros }
  | .get =>
    if r.pointer.isNone && r.buffer.available then
      { r with
        buffer := r.buffer.get.2
        pointer := r.buffer.get.1
        oldest := r.oldest ++ (r.buffer.contents.head?.map (·.item)).toList }
    else r
  | .copy =>
    match r.pointer with
    | some p => { r with copied := r.copied ++ [r.buffer.frameAt (some p)], pointer := none }
    | none => r

def inHand (r : ReadPath) : List CANFrame := r.pointer.toList.map fun p => r.buffer.frameAt (some p)

def putFrames (es : List ReadStep) : List CANFrame :=
  es.filterMap fun
    | .put item _ => some item
    | _ => none

/-- A put does not land on the slot whose pointer the reader holds. -/
def Spares (r : ReadPath) : ReadStep → Prop
  | .put _ _ => ∀ p ∈ r.pointer, r.buffer.head.toNat ≠ p
  | _ => True

/-- Every frame put is in the buffer or has its fate: the reader copies those it took,
each as it was, and the overwritten ones are counted. -/
structure Accounts (r : ReadPath) (puts : List CANFrame) (fates : List (CANFrame × Fate)) :
    Prop where
  puts : puts = fates.map (·.1) ++ r.buffer.contents.map (·.item)
  taken : r.oldest = (fates.filter (·.2 = .taken)).map (·.1)
  overwritten : r.buffer.overflows = UInt32.ofNat (fates.countP (·.2 = .overwritten))
  copied : r.copied ++ r.inHand = r.oldest

/-- The accounts of a buffer that stands for a queue. -/
structure Sound {n : ℕ} (r : ReadPath) (puts : List CANFrame) (fates : List (CANFrame × Fate))
    (items : List BufferItem) (q : DropOldest BufferItem n) : Prop extends Accounts r puts fates where
  queue : r.buffer.Represents items q
  dropped : q.dropped = fates.countP (·.2 = .overwritten)

namespace Sound

variable {n : ℕ} {r : ReadPath} {puts : List CANFrame} {fates : List (CANFrame × Fate)}
  {items : List BufferItem} {q : DropOldest BufferItem n}

theorem start {capacity : UInt8} (h : 0 < capacity.toNat) :
    Sound { buffer := .construct capacity } [] [] (List.replicate capacity.toNat {})
      (DropOldest.empty : DropOldest BufferItem capacity.toNat) := by
  have hrep := CBUSCircularBuffer.Represents.construct h
  constructor
  case toAccounts =>
    constructor
    all_goals simp [hrep.contents, hrep.overflows, inHand, DropOldest.empty]
  case queue => exact hrep
  case dropped => rfl

theorem inHand_put (h : Sound r puts fates items q) (x : BufferItem)
    (hspare : r.Spares (.put x.item x.itemInsertTime)) :
    (r.step (.put x.item x.itemInsertTime)).inHand = r.inHand := by
  have hput := (h.queue.put x).buffer
  unfold inHand
  apply List.map_congr_left
  intro p hp
  have hne : r.buffer.head.toNat ≠ p := hspare p (by simpa [step] using hp)
  simp [step, CBUSCircularBuffer.frameAt, hput, h.queue.buffer, hne]

theorem put (h : Sound r puts fates items q) (x : BufferItem)
    (hspare : r.Spares (.put x.item x.itemInsertTime)) :
    ∃ fates', Sound (r.step (.put x.item x.itemInsertTime)) (puts ++ [x.item]) fates'
      (items.set r.buffer.head.toNat x) (q.put x) := by
  have hrep := h.queue.put x
  have hhand := h.inHand_put x hspare
  have hpos := h.queue.positive
  by_cases hlt : q.entries.length < n
  · obtain ⟨hentries, -, -, hdropped, -⟩ := q.put_of_lt hlt x
    refine ⟨fates, ?_, hrep, ?_⟩
    · constructor
      case copied => rw [hhand]; exact h.copied
      all_goals simp [step, hrep.contents, hrep.overflows, hentries, h.puts, h.queue.contents,
        h.taken, hdropped, h.dropped]
    · rw [hdropped, h.dropped]
  · have hfull : q.entries.length = n := le_antisymm q.bounded (not_lt.mp hlt)
    obtain ⟨hentries, -, -, hdropped, -⟩ := q.put_of_full hfull x
    obtain ⟨y, rest, hq⟩ := List.exists_cons_of_length_pos (hfull ▸ hpos)
    refine ⟨fates ++ [(y.item, .overwritten)], ?_, hrep, ?_⟩
    · constructor
      case copied => rw [hhand]; exact h.copied
      all_goals simp [step, hrep.contents, hrep.overflows, hentries, h.puts, h.queue.contents,
        h.taken, hq, hdropped, h.dropped]
    · simp [hdropped, h.dropped]

theorem get (h : Sound r puts fates items q) :
    ∃ fates' q', Sound (n := n) (r.step .get) puts fates' items q' := by
  by_cases hget : r.pointer = none ∧ r.buffer.available = true
  · obtain ⟨hfree, havail⟩ := hget
    obtain ⟨x, rest, hq⟩ := List.exists_cons_of_ne_nil (h.queue.available_iff.mp havail)
    obtain ⟨hptr, hrep⟩ := h.queue.get_of_cons hq
    obtain ⟨hentries, -, -, hdropped, -⟩ := q.get_of_cons hq
    obtain ⟨-, -, hframe⟩ := h.queue.tail_slot hq
    have hcopied := h.copied
    simp only [inHand, hfree, Option.toList_none, List.map_nil, List.append_nil] at hcopied
    refine ⟨fates ++ [(x.item, .taken)], q.get, ?_, ?_, ?_⟩
    · constructor
      case copied => simp [step, hfree, havail, inHand, hptr, hframe, hcopied, h.queue.contents, hq]
      all_goals simp [step, hfree, havail, hrep.contents, hrep.overflows, hentries, h.puts,
        h.queue.contents, h.taken, hq, hdropped, h.dropped]
    · simpa [step, hfree, havail] using hrep
    · simp [hdropped, h.dropped]
  · have hstay : r.step .get = r := by
      simp only [step, Bool.and_eq_true, Option.isNone_iff_eq_none, hget, if_false]
    rw [hstay]
    exact ⟨fates, q, h⟩

theorem copy (h : Sound r puts fates items q) :
    Sound (r.step .copy) puts fates items q := by
  unfold step
  dsimp only
  split
  · rename_i p hp
    have hcopied := h.copied
    simp [inHand, hp] at hcopied
    exact { h with copied := by simp [inHand, hcopied] }
  · exact h

theorem step (h : Sound r puts fates items q) {e : ReadStep} (hspare : r.Spares e) :
    ∃ fates' items' q', Sound (n := n) (r.step e) (puts ++ putFrames [e]) fates' items' q' := by
  cases e with
  | put item micros =>
    obtain ⟨fates', h'⟩ := h.put ⟨micros, item⟩ hspare
    exact ⟨fates', _, _, h'⟩
  | get =>
    obtain ⟨fates', q', h'⟩ := h.get
    exact ⟨fates', items, q', by simpa [putFrames] using h'⟩
  | copy => exact ⟨fates, items, q, by simpa [putFrames] using h.copy⟩

/-- The first put after a get lands on the held slot exactly if the buffer was full. -/
theorem not_spares_iff (h : Sound r puts fates items q) (hfree : r.pointer = none)
    (havail : r.buffer.available = true) (item : CANFrame) (micros : UInt32) :
    ¬ (r.step .get).Spares (.put item micros) ↔ r.buffer.full = true := by
  obtain ⟨x, rest, hq⟩ := List.exists_cons_of_ne_nil (h.queue.available_iff.mp havail)
  have hptr := (h.queue.get_of_cons hq).1
  have hhead : r.buffer.get.2.head = r.buffer.head := by
    unfold CBUSCircularBuffer.get
    split_ifs <;> rfl
  have hmeet := Ring.add_mod_eq_self h.queue.tail (by simp [hq]) q.bounded
  rw [← h.queue.head] at hmeet
  simp [ReadPath.step, hfree, havail, Spares, hptr, hhead, h.queue.full, hmeet]

end Sound

/-- In every run in which no put lands on a held slot, the frames copied are those
that were oldest at their gets, and every frame put is still in the buffer, or was
taken by exactly one get, or is counted as an overflow. -/
theorem accounts_run (capacity : UInt8) (h : 0 < capacity.toNat) (es : List ReadStep)
    (hspare : Guarded step Spares { buffer := .construct capacity } es) :
    ∃ fates, Accounts (run step { buffer := .construct capacity } es) (putFrames es) fates := by
  have hsound : ∃ fates items, ∃ q : DropOldest BufferItem capacity.toNat,
      Sound (run step { buffer := .construct capacity } es) (putFrames es) fates items q := by
    induction es using List.reverseRecOn with
    | nil => exact ⟨[], _, _, Sound.start h⟩
    | append_singleton es e ih =>
      obtain ⟨fates, items, q, hs⟩ := ih hspare.of_append
      simpa [run, putFrames] using hs.step hspare.last
  obtain ⟨fates, items, q, hs⟩ := hsound
  exact ⟨fates, hs.toAccounts⟩

/-- Two frames fill the buffer, the third arrives while the first is being taken. -/
def fullBufferSteps : List ReadStep :=
  [.put { id := 1 } 0, .put { id := 2 } 0, .get, .put { id := 3 } 0, .copy]

theorem not_oldest_fullBuffer :
    let r := run step { buffer := .construct 2 } fullBufferSteps
    r.oldest = [{ id := 1 }] ∧ r.copied = [{ id := 3 }] ∧ r.buffer.overflows = 0 ∧
      ¬ ∃ fates, Accounts r (putFrames fullBufferSteps) fates := by
  intro r
  have hold : r.oldest = [{ id := 1 }] := by decide +kernel
  have hcopied : r.copied ++ r.inHand = [{ id := 3 }] := by decide +kernel
  refine ⟨hold, by decide +kernel, by decide +kernel, ?_⟩
  rintro ⟨fates, h⟩
  have hsame := h.copied
  rw [hold, hcopied] at hsame
  exact absurd hsame (by decide)

theorem accounts_run_spared :
    ∃ fates, Accounts (run step { buffer := .construct 3 } fullBufferSteps)
      (putFrames fullBufferSteps) fates :=
  accounts_run 3 (by decide) fullBufferSteps (by
    simp only [fullBufferSteps, Guarded, Spares]
    decide +kernel)

end ReadPath
end CBUSPicoLib
