import CBUSPicoLib.Can.BufferQueue
import Mathlib.Logic.Function.Iterate

/-!
# A get interrupted by a put

`get` is called from the main loop and `put` from the CAN interrupt, and `get` does not suspend
interrupts. Here `get` runs one statement at a time, so that a `put` can fall between any two of
them. No statement of `get` accesses more than one member that `put` writes at that point, so finer
steps would add no outcome.
-/

namespace CBUSPicoLib

open Runs

namespace CBUSCircularBuffer

def clearFull (b : CBUSCircularBuffer) : CBUSCircularBuffer := { b with full := false }

def advance (b : CBUSCircularBuffer) : CBUSCircularBuffer := { b with tail := b.nextIndex b.tail }

/-- The buffer without its oldest entry, its size not yet counted. -/
def taken (b : CBUSCircularBuffer) : CBUSCircularBuffer := b.clearFull.advance

theorem clearFull_of_not {b : CBUSCircularBuffer} (h : b.full = false) : b.clearFull = b := by
  rw [clearFull, ← h]

theorem countItems_of_meet {b : CBUSCircularBuffer} (h : b.full = false) (hmeet : b.head = b.tail) :
    b.countItems = 0 := by
  simp [countItems, h, hmeet]

theorem nextIndex_congr {b c : CBUSCircularBuffer} (h : c.capacity = b.capacity) (index : UInt8) :
    c.nextIndex index = b.nextIndex index := by
  rw [nextIndex, nextIndex, h]

@[simp] theorem taken_full (b : CBUSCircularBuffer) : b.taken.full = false := rfl

@[simp] theorem taken_gets (b : CBUSCircularBuffer) : b.taken.gets = b.gets := rfl

@[simp] theorem taken_capacity (b : CBUSCircularBuffer) : b.taken.capacity = b.capacity := rfl

@[simp] theorem taken_overflows (b : CBUSCircularBuffer) : b.taken.overflows = b.overflows := rfl

def endGet (b : CBUSCircularBuffer) : CBUSCircularBuffer :=
  { b with size := b.countItems, gets := b.gets + 1 }

theorem get_of_found {b : CBUSCircularBuffer} (hfound : b.buffer.isSome ∧ 0 < b.size) :
    b.get = (some b.tail.toNat, b.taken.endGet) := by
  simp only [get, if_pos hfound]
  rfl

end CBUSCircularBuffer

/-- What `get` has done so far, with `size()` inlined. -/
inductive GetPoint
  | start
  /-- `m_size > 0` held. -/
  | checked
  | pointed
  /-- `m_full` is false. -/
  | cleared
  | advanced
  /-- In `size()`: `m_full` was false. -/
  | notFull
  /-- In `size()`: `m_head >= m_tail` held. -/
  | ordered
  | wrapped
  | counted
  | stored
  /-- `size()` has returned. -/
  | returned
  | resized
  | done
  deriving DecidableEq

def GetPoint.left : GetPoint → ℕ
  | .start => 11
  | .checked => 10
  | .pointed => 9
  | .cleared => 8
  | .advanced => 7
  | .notFull => 6
  | .ordered | .wrapped => 5
  | .counted => 4
  | .stored => 3
  | .returned => 2
  | .resized => 1
  | .done => 0

theorem GetPoint.left_eq_zero {p : GetPoint} (h : p.left = 0) : p = .done := by
  cases p with
  | done => rfl
  | _ => cases h

/-- The tail has moved. -/
def GetPoint.Late : GetPoint → Prop
  | .start | .checked | .pointed | .cleared => False
  | _ => True

/-- A call of `get` with its local variables `p` and `size`. -/
structure GetCall where
  buffer : CBUSCircularBuffer
  pointer : Option ℕ := none
  size : UInt8 := 0
  point : GetPoint := .start

namespace GetCall

def step (g : GetCall) : GetCall :=
  let b := g.buffer
  match g.point with
  | .start => { g with point := if b.buffer.isSome ∧ 0 < b.size then .checked else .done }
  | .checked => { g with pointer := some b.tail.toNat, point := .pointed }
  | .pointed => { g with buffer := b.clearFull, point := .cleared }
  | .cleared => { g with buffer := b.advance, point := .advanced }
  | .advanced => { g with size := b.capacity, point := if b.full then .counted else .notFull }
  | .notFull => { g with point := if b.tail ≤ b.head then .ordered else .wrapped }
  | .ordered => { g with size := b.head - b.tail, point := .counted }
  | .wrapped => { g with size := b.capacity + b.head - b.tail, point := .counted }
  | .counted => { g with buffer := { b with size := g.size }, point := .stored }
  | .stored => { g with size := b.size, point := .returned }
  | .returned => { g with buffer := { b with size := g.size }, point := .resized }
  | .resized => { g with buffer := { b with gets := b.gets + 1 }, point := .done }
  | .done => g

def finish (g : GetCall) : Option ℕ × CBUSCircularBuffer :=
  let last := step^[11] g
  (last.pointer, last.buffer)

def interrupt (g : GetCall) (item : CANFrame) (micros : UInt32) : GetCall :=
  { g with buffer := g.buffer.put item micros }

variable {g : GetCall}

/-! What the rest of the call does, point by point. -/

theorem left_step (g : GetCall) : g.step.point.left ≤ g.point.left - 1 := by
  cases hp : g.point with
  | start => simp only [step, hp]; split_ifs <;> decide
  | advanced => simp only [step, hp]; split_ifs <;> decide
  | notFull => simp only [step, hp]; split_ifs <;> decide
  | _ => simp [step, hp, GetPoint.left]

theorem left_iterate (g : GetCall) (k : ℕ) : (step^[k] g).point.left ≤ g.point.left - k := by
  induction k with
  | zero => exact le_rfl
  | succ k ih =>
    have hstep := left_step (step^[k] g)
    rw [Function.iterate_succ_apply']
    omega

theorem step_iterate_eleven (g : GetCall) : (step^[11] g).step = step^[11] g := by
  have hleft := left_iterate g 11
  have hmost : g.point.left ≤ 11 := by cases g.point <;> decide
  have hdone : (step^[11] g).point = .done := GetPoint.left_eq_zero (by omega)
  rw [step, hdone]

theorem finish_step (g : GetCall) : g.step.finish = g.finish := by
  rw [finish, finish, ← Function.iterate_succ_apply, Function.iterate_succ_apply',
    step_iterate_eleven]

theorem finish_done (h : g.point = .done) : g.finish = (g.pointer, g.buffer) := by
  have hfix : Function.IsFixedPt step g := by simp [Function.IsFixedPt, step, h]
  rw [finish, hfix.iterate 11]

theorem finish_resized (h : g.point = .resized) :
    g.finish = (g.pointer, { g.buffer with gets := g.buffer.gets + 1 }) := by
  simp [← finish_step g, step, h, finish_done]

theorem finish_returned (h : g.point = .returned) :
    g.finish = (g.pointer, { g.buffer with size := g.size, gets := g.buffer.gets + 1 }) := by
  simp [← finish_step g, step, h, finish_resized]

theorem finish_stored (h : g.point = .stored) :
    g.finish = (g.pointer, { g.buffer with gets := g.buffer.gets + 1 }) := by
  simp [← finish_step g, step, h, finish_returned]

theorem finish_counted (h : g.point = .counted) :
    g.finish = (g.pointer, { g.buffer with size := g.size, gets := g.buffer.gets + 1 }) := by
  simp [← finish_step g, step, h, finish_stored]

theorem finish_ordered (h : g.point = .ordered) : g.finish = (g.pointer, { g.buffer with
    size := g.buffer.head - g.buffer.tail, gets := g.buffer.gets + 1 }) := by
  simp [← finish_step g, step, h, finish_counted]

theorem finish_wrapped (h : g.point = .wrapped) : g.finish = (g.pointer, { g.buffer with
    size := g.buffer.capacity + g.buffer.head - g.buffer.tail, gets := g.buffer.gets + 1 }) := by
  simp [← finish_step g, step, h, finish_counted]

theorem finish_notFull (h : g.point = .notFull) : g.finish = (g.pointer, { g.buffer with
    size := g.buffer.clearFull.countItems, gets := g.buffer.gets + 1 }) := by
  by_cases hle : g.buffer.tail ≤ g.buffer.head
  · simp [← finish_step g, step, h, hle, finish_ordered, CBUSCircularBuffer.countItems,
      CBUSCircularBuffer.clearFull]
  · simp [← finish_step g, step, h, hle, finish_wrapped, CBUSCircularBuffer.countItems,
      CBUSCircularBuffer.clearFull]

theorem finish_advanced (h : g.point = .advanced) : g.finish = (g.pointer, g.buffer.endGet) := by
  cases hfull : g.buffer.full
  · simp [← finish_step g, step, h, hfull, finish_notFull, CBUSCircularBuffer.endGet,
      CBUSCircularBuffer.clearFull_of_not]
  · simp [← finish_step g, step, h, hfull, finish_counted, CBUSCircularBuffer.endGet,
      CBUSCircularBuffer.countItems]

theorem finish_cleared (h : g.point = .cleared) :
    g.finish = (g.pointer, g.buffer.advance.endGet) := by
  simp [← finish_step g, step, h, finish_advanced]

theorem finish_pointed (h : g.point = .pointed) :
    g.finish = (g.pointer, g.buffer.taken.endGet) := by
  simp [← finish_step g, step, h, finish_cleared, CBUSCircularBuffer.taken]

theorem finish_checked (h : g.point = .checked) :
    g.finish = (some g.buffer.tail.toNat, g.buffer.taken.endGet) := by
  simp [← finish_step g, step, h, finish_pointed]

theorem finish_start (h : g.point = .start) (hp : g.pointer = none) :
    g.finish = g.buffer.get := by
  by_cases hfound : g.buffer.buffer.isSome ∧ 0 < g.buffer.size
  · rw [← finish_step g]
    simp [step, h, hfound, finish_checked, CBUSCircularBuffer.get_of_found]
  · rw [← finish_step g]
    simp [step, h, hfound, finish_done, CBUSCircularBuffer.get, hp]

end GetCall

namespace CBUSCircularBuffer

/-- The call of `get` after its first `k` statements. -/
def getAfter (b : CBUSCircularBuffer) (k : ℕ) : GetCall := GetCall.step^[k] { buffer := b }

/-- A `get` that is interrupted by a `put` after `k` statements. -/
def interruptedGet (b : CBUSCircularBuffer) (k : ℕ) (item : CANFrame) (micros : UInt32) :
    Option ℕ × CBUSCircularBuffer :=
  ((b.getAfter k).interrupt item micros).finish

def putThenGet (b : CBUSCircularBuffer) (item : CANFrame) (micros : UInt32) :
    Option ℕ × CBUSCircularBuffer :=
  (b.put item micros).get

def getThenPut (b : CBUSCircularBuffer) (item : CANFrame) (micros : UInt32) :
    Option ℕ × CBUSCircularBuffer :=
  (b.get.1, b.get.2.put item micros)

/-- A `get` that finds a frame, at each of its points. -/
def getAt (b : CBUSCircularBuffer) (point : GetPoint) : GetCall :=
  let pointer := some b.tail.toNat
  let counted := { b.taken with size := b.taken.countItems }
  match point with
  | .start => { buffer := b }
  | .checked => { buffer := b, point }
  | .pointed => { buffer := b, pointer, point }
  | .cleared => { buffer := b.clearFull, pointer, point }
  | .advanced => { buffer := b.taken, pointer, point }
  | .notFull | .ordered | .wrapped => { buffer := b.taken, pointer, size := b.capacity, point }
  | .counted => { buffer := b.taken, pointer, size := counted.size, point }
  | .stored | .returned | .resized => { buffer := counted, pointer, size := counted.size, point }
  | .done => { buffer := { counted with gets := b.gets + 1 }, pointer, size := counted.size, point }

/-- `size()` takes the branch of the buffer without its oldest entry. -/
def Branch (b : CBUSCircularBuffer) : GetPoint → Prop
  | .ordered => b.taken.tail ≤ b.head
  | .wrapped => ¬ b.taken.tail ≤ b.head
  | _ => True

variable {b : CBUSCircularBuffer}

theorem step_getAt (hfound : b.buffer.isSome ∧ 0 < b.size) {p : GetPoint} (hp : b.Branch p) :
    ∃ p', b.Branch p' ∧ (b.getAt p).step = b.getAt p' := by
  cases p with
  | start => exact ⟨.checked, trivial, by simp [getAt, GetCall.step, hfound]⟩
  | checked => exact ⟨.pointed, trivial, rfl⟩
  | pointed => exact ⟨.cleared, trivial, rfl⟩
  | cleared => exact ⟨.advanced, trivial, rfl⟩
  | advanced => exact ⟨.notFull, trivial, rfl⟩
  | notFull =>
    have hstep : (b.getAt .notFull).step = { b.getAt .notFull with
        point := if b.taken.tail ≤ b.head then .ordered else .wrapped } := rfl
    by_cases hle : b.taken.tail ≤ b.head
    · exact ⟨.ordered, hle, by rw [hstep, if_pos hle]; rfl⟩
    · exact ⟨.wrapped, hle, by rw [hstep, if_neg hle]; rfl⟩
  | ordered =>
    have hcount : b.taken.countItems = b.head - b.taken.tail := if_pos hp
    have hstep : (b.getAt .ordered).step =
        { b.getAt .counted with size := b.head - b.taken.tail } := rfl
    exact ⟨.counted, trivial, by rw [hstep, ← hcount]; rfl⟩
  | wrapped =>
    have hcount : b.taken.countItems = b.capacity + b.head - b.taken.tail := if_neg hp
    have hstep : (b.getAt .wrapped).step =
        { b.getAt .counted with size := b.capacity + b.head - b.taken.tail } := rfl
    exact ⟨.counted, trivial, by rw [hstep, ← hcount]; rfl⟩
  | counted => exact ⟨.stored, trivial, rfl⟩
  | stored => exact ⟨.returned, trivial, rfl⟩
  | returned => exact ⟨.resized, trivial, rfl⟩
  | resized => exact ⟨.done, trivial, rfl⟩
  | done => exact ⟨.done, trivial, rfl⟩

theorem getAfter_eq_getAt (hfound : b.buffer.isSome ∧ 0 < b.size) (k : ℕ) :
    ∃ p, b.Branch p ∧ b.getAfter k = b.getAt p := by
  induction k with
  | zero => exact ⟨.start, trivial, rfl⟩
  | succ k ih =>
    obtain ⟨p, hp, hk⟩ := ih
    obtain ⟨p', hp', hstep⟩ := step_getAt hfound hp
    refine ⟨p', hp', ?_⟩
    rw [← hstep, ← hk]
    exact Function.iterate_succ_apply' GetCall.step k _

theorem getAfter_succ_of_not (hnone : ¬ (b.buffer.isSome ∧ 0 < b.size)) (k : ℕ) :
    b.getAfter (k + 1) = { buffer := b, point := .done } := by
  have hdone : Function.IsFixedPt GetCall.step { buffer := b, point := .done } := rfl
  have hfirst : GetCall.step { buffer := b } = { buffer := b, point := .done } := by
    simp [GetCall.step, hnone]
  rw [getAfter, Function.iterate_succ_apply, hfirst]
  exact hdone.iterate k

theorem put_counts (hb : b.buffer.isSome) (item : CANFrame) (micros : UInt32) :
    (b.put item micros).size = (b.put item micros).countItems := by
  obtain ⟨items, hb⟩ := Option.isSome_iff_exists.mp hb
  simp [put, hb, countItems]

@[simp] theorem put_capacity (b : CBUSCircularBuffer) (item : CANFrame) (micros : UInt32) :
    (b.put item micros).capacity = b.capacity := by
  cases hb : b.buffer with
  | none => simp [put, hb]
  | some items => cases hfull : b.full <;> simp [put, hb, hfull]

@[simp] theorem put_gets (b : CBUSCircularBuffer) (item : CANFrame) (micros : UInt32) :
    (b.put item micros).gets = b.gets := by
  cases hb : b.buffer with
  | none => simp [put, hb]
  | some items => cases hfull : b.full <;> simp [put, hb, hfull]

theorem put_tail (hb : b.buffer.isSome) (item : CANFrame) (micros : UInt32) :
    (b.put item micros).tail = if b.full then b.nextIndex b.tail else b.tail := by
  obtain ⟨items, hb⟩ := Option.isSome_iff_exists.mp hb
  cases hfull : b.full <;> simp [put, hb, hfull, nextIndex]

theorem put_head (hb : b.buffer.isSome) (item : CANFrame) (micros : UInt32) :
    (b.put item micros).head = b.nextIndex b.head := by
  obtain ⟨items, hb⟩ := Option.isSome_iff_exists.mp hb
  cases hfull : b.full <;> simp [put, hb, hfull, nextIndex]

theorem put_full (hb : b.buffer.isSome) (item : CANFrame) (micros : UInt32) :
    (b.put item micros).full = ((b.put item micros).head == (b.put item micros).tail) := by
  obtain ⟨items, hb⟩ := Option.isSome_iff_exists.mp hb
  cases hfull : b.full <;> simp [put, hb, hfull]

theorem put_overflows (hb : b.buffer.isSome) (item : CANFrame) (micros : UInt32) :
    (b.put item micros).overflows = if b.full then b.overflows + 1 else b.overflows := by
  obtain ⟨items, hb⟩ := Option.isSome_iff_exists.mp hb
  cases hfull : b.full <;> simp [put, hb, hfull]

theorem putThenGet_overflows (hb : b.buffer.isSome) (item : CANFrame) (micros : UInt32) :
    (b.putThenGet item micros).2.overflows =
      if b.full then b.overflows + 1 else b.overflows := by
  rw [← put_overflows hb item micros, putThenGet, get]
  split_ifs <;> rfl

theorem put_of_size_gets (hb : b.buffer.isSome) (size : UInt8) (gets : UInt32) (item : CANFrame)
    (micros : UInt32) : put { b with size, gets } item micros =
      { b.put item micros with gets } := by
  obtain ⟨items, hb⟩ := Option.isSome_iff_exists.mp hb
  cases hfull : b.full
  · simp [put, hb, hfull, countItems, nextIndex]
  · simp [put, hb, hfull, countItems, nextIndex]

def putBehind (b : CBUSCircularBuffer) (size : UInt8) (item : CANFrame) (micros : UInt32) :
    Option ℕ × CBUSCircularBuffer :=
  (some b.tail.toNat, { b.taken.put item micros with size, gets := b.gets + 1 })

theorem getThenPut_eq (hfound : b.buffer.isSome ∧ 0 < b.size) (item : CANFrame)
    (micros : UInt32) : b.getThenPut item micros =
      b.putBehind (b.taken.put item micros).size item micros := by
  have hb : b.taken.buffer.isSome := hfound.1
  rw [getThenPut, get_of_found hfound, endGet, put_of_size_gets hb, putBehind]
  rfl

theorem getThenPut_overflows (hfound : b.buffer.isSome ∧ 0 < b.size) (item : CANFrame)
    (micros : UInt32) : (b.getThenPut item micros).2.overflows = b.overflows := by
  rw [getThenPut_eq hfound]
  exact put_overflows (b := b.taken) hfound.1 item micros

/-- The size that an interrupted `get` stores once it has moved the tail. -/
def storedSize (b : CBUSCircularBuffer) (item : CANFrame) (micros : UInt32) : GetPoint → UInt8
  | .notFull => (b.taken.put item micros).clearFull.countItems
  | .ordered => (b.taken.put item micros).head - (b.taken.put item micros).tail
  | .wrapped => b.capacity + (b.taken.put item micros).head - (b.taken.put item micros).tail
  | .counted | .returned => b.taken.countItems
  | _ => (b.taken.put item micros).size

/-- Behind the statement that moves the tail only the size can go wrong. -/
theorem finish_late (hb : b.buffer.isSome) {p : GetPoint} (hp : p.Late) (item : CANFrame)
    (micros : UInt32) : ((b.getAt p).interrupt item micros).finish =
      b.putBehind (b.storedSize item micros p) item micros := by
  have hcounts : (b.taken.put item micros).countItems = (b.taken.put item micros).size :=
    (put_counts (b := b.taken) hb item micros).symm
  have hput : ∀ size gets, put { b.taken with size, gets } item micros =
      { b.taken.put item micros with gets } :=
    fun size gets => put_of_size_gets (b := b.taken) hb size gets item micros
  cases p with
  | start | checked | pointed | cleared => exact hp.elim
  | advanced =>
    rw [GetCall.finish_advanced rfl]
    simp [GetCall.interrupt, getAt, putBehind, storedSize, endGet, hcounts]
  | notFull =>
    rw [GetCall.finish_notFull rfl]
    simp [GetCall.interrupt, getAt, putBehind, storedSize]
  | ordered =>
    rw [GetCall.finish_ordered rfl]
    simp [GetCall.interrupt, getAt, putBehind, storedSize]
  | wrapped =>
    rw [GetCall.finish_wrapped rfl]
    simp [GetCall.interrupt, getAt, putBehind, storedSize]
  | counted =>
    rw [GetCall.finish_counted rfl]
    simp [GetCall.interrupt, getAt, putBehind, storedSize]
  | stored =>
    rw [GetCall.finish_stored rfl]
    simp only [GetCall.interrupt, getAt]
    rw [hput]
    rfl
  | returned =>
    rw [GetCall.finish_returned rfl]
    simp only [GetCall.interrupt, getAt]
    rw [hput]
    rfl
  | resized =>
    rw [GetCall.finish_resized rfl]
    simp only [GetCall.interrupt, getAt]
    rw [hput]
    rfl
  | done =>
    rw [GetCall.finish_done rfl]
    simp only [GetCall.interrupt, getAt]
    rw [hput]
    rfl

theorem put_behind (hb : b.buffer.isSome) (item : CANFrame) (micros : UInt32) :
    (b.taken.put item micros).head = b.nextIndex b.head ∧
      (b.taken.put item micros).tail = b.taken.tail :=
  ⟨put_head (b := b.taken) hb item micros, put_tail (b := b.taken) hb item micros⟩

/-- An interrupt here leaves a wrong count or a wrong frame behind the pointer. -/
def Exposed (b : CBUSCircularBuffer) : GetPoint → Prop
  | .pointed => b.full = true ∧ 1 < b.capacity.toNat
  | .cleared => b.capacity.toNat ≤ b.size.toNat + 1 ∧ 1 < b.capacity.toNat
  | .notFull => b.full = true
  | .ordered => b.head.toNat + 1 = b.capacity.toNat
  | .counted | .returned => True
  | _ => False

instance (b : CBUSCircularBuffer) : DecidablePred b.Exposed
  | .pointed => inferInstanceAs (Decidable (b.full = true ∧ 1 < b.capacity.toNat))
  | .cleared =>
    inferInstanceAs (Decidable (b.capacity.toNat ≤ b.size.toNat + 1 ∧ 1 < b.capacity.toNat))
  | .notFull => inferInstanceAs (Decidable (b.full = true))
  | .ordered => inferInstanceAs (Decidable (b.head.toNat + 1 = b.capacity.toNat))
  | .counted | .returned => .isTrue trivial
  | .start | .checked | .advanced | .wrapped | .stored | .resized | .done => .isFalse id

namespace Represents

variable {items : List BufferItem} {n : ℕ} {q : DropOldest BufferItem n} {x : BufferItem}
  {rest : List BufferItem}

theorem found (h : Represents b items q) (hcons : q.entries = x :: rest) :
    b.buffer.isSome ∧ 0 < b.size := by
  have hsize := h.size
  rw [hcons, List.length_cons] at hsize
  exact ⟨by simp [h.buffer], UInt8.lt_iff_toNat_lt.mpr (by simp; omega)⟩

theorem toNat_nextIndex (h : Represents b items q) (index : UInt8) :
    (b.nextIndex index).toNat = (index.toNat + 1) % n := by
  rw [CBUSCircularBuffer.toNat_nextIndex (h.capacity ▸ h.positive), h.capacity]

theorem put_size (h : Represents b items q) (y : BufferItem) :
    (b.put y.item y.itemInsertTime).size.toNat = min n (q.entries.length + 1) := by
  rw [(h.put y).size]
  by_cases hlt : q.entries.length < n
  · rw [(q.put_of_lt hlt y).1, List.length_append, List.length_singleton]
    omega
  · have hbound := q.bounded
    rw [(q.put_of_full (by omega) y).1, List.length_tail, List.length_append, List.length_singleton]
    omega

theorem places_putBehind (h : Represents b items q) (hcons : q.entries = x :: rest)
    (item : CANFrame) (micros : UInt32) : ∃ items', Places (b.taken.put item micros) items' n
      (rest ++ [⟨micros, item⟩]) ∧ (b.taken.put item micros).size.toNat = rest.length + 1 := by
  have hfound := h.found hcons
  have hlt : rest.length < n := by
    have hbound := q.bounded
    rw [hcons, List.length_cons] at hbound
    omega
  have hget := (h.get_of_cons hcons).2
  have hentries : q.get.entries = rest := (q.get_of_cons hcons).1
  have hput := hget.put ⟨micros, item⟩
  have hplaces := hput.toPlaces
  have hsize := hput.size
  rw [(q.get.put_of_lt (hentries ▸ hlt) _).1, hentries] at hplaces hsize
  have hbehind := congrArg Prod.snd (getThenPut_eq hfound item micros)
  have hbuffer : b.get.2.put item micros = _ := hbehind
  rw [hbuffer] at hplaces hsize
  exact ⟨_, { hplaces with }, by simpa [putBehind] using hsize⟩

/-- Once the tail has moved, the size comes out right exactly at the points that are not exposed. -/
theorem storedSize_eq_iff (h : Represents b items q) (hcons : q.entries = x :: rest) {p : GetPoint}
    (hlate : p.Late) (hp : b.Branch p) (item : CANFrame) (micros : UInt32) :
    b.storedSize item micros p = (b.taken.put item micros).size ↔ ¬ b.Exposed p := by
  obtain ⟨hb, -⟩ := h.found hcons
  obtain ⟨items', hplaces, hsize⟩ := h.places_putBehind hcons item micros
  have htaken := h.toPlaces.get hcons
  have hbound := hplaces.bounded
  have hfull : b.full = decide (rest.length + 1 = n) := by rw [h.full, hcons, List.length_cons]
  have hcounts := put_counts (b := b.taken) hb item micros
  have hbehind := put_behind hb item micros
  have hhead : b.head.toNat = (b.taken.tail.toNat + rest.length) % n := htaken.head
  have htail : b.taken.tail.toNat < n := htaken.tail
  have hnext := h.toNat_nextIndex b.head
  have hcap : n < 256 := h.capacity ▸ b.capacity.toNat_lt
  rw [List.length_append, List.length_singleton] at hbound
  cases p with
  | start | checked | pointed | cleared => exact hlate.elim
  | advanced | stored | resized | done => exact iff_of_true rfl id
  | counted | returned =>
    refine iff_of_false (fun heq => ?_) (fun hnot => hnot trivial)
    have hcount := htaken.toNat_countItems
    have hnat : b.taken.countItems.toNat = _ := congrArg UInt8.toNat heq
    exact absurd (hcount.symm.trans (hnat.trans hsize)) (by omega)
  | notFull =>
    by_cases hk : rest.length + 1 = n
    · refine iff_of_false (fun heq => ?_) (fun hnot => hnot (by simp [Exposed, hfull, hk]))
      -- head meets tail again, and the count takes the buffer for empty
      have hmeet : (b.taken.put item micros).head = (b.taken.put item micros).tail := by
        have hflag := hplaces.full
        rw [put_full (b := b.taken) hb] at hflag
        simpa [hk] using hflag
      have hzero : b.storedSize item micros .notFull = 0 := countItems_of_meet rfl hmeet
      rw [← heq, hzero] at hsize
      exact absurd hsize (by simp)
    · have hnot : (b.taken.put item micros).full = false := by
        simpa [hk] using hplaces.full
      refine iff_of_true ?_ (by simp [Exposed, hfull, hk])
      rw [hcounts, storedSize, clearFull_of_not hnot]
  | ordered =>
    have hle : b.taken.tail.toNat ≤ b.head.toNat := UInt8.le_iff_toNat_le.mp hp
    rw [← UInt8.toNat_inj, hsize]
    simp only [storedSize, Exposed, hbehind, UInt8.toNat_sub, hnext, h.capacity]
    have hround : b.taken.tail.toNat + rest.length < n := by
      by_contra hnot
      rw [Nat.mod_eq_sub_mod (by omega), Nat.mod_eq_of_lt (by omega)] at hhead
      omega
    rw [Nat.mod_eq_of_lt hround] at hhead
    by_cases hlast : b.head.toNat + 1 = n
    · rw [hlast, Nat.mod_self]
      omega
    · rw [Nat.mod_eq_of_lt (by omega : b.head.toNat + 1 < n)]
      omega
  | wrapped =>
    have hlt : b.head.toNat < b.taken.tail.toNat := UInt8.not_le.mp hp
    refine iff_of_true ?_ id
    rw [← UInt8.toNat_inj, hsize]
    simp only [storedSize, hbehind, UInt8.toNat_sub, UInt8.toNat_add, hnext, h.capacity]
    have hround : n ≤ b.taken.tail.toNat + rest.length := by
      by_contra hnot
      rw [Nat.mod_eq_of_lt (by omega)] at hhead
      omega
    rw [Nat.mod_eq_sub_mod hround, Nat.mod_eq_of_lt (by omega)] at hhead
    rw [Nat.mod_eq_of_lt (by omega : b.head.toNat + 1 < n)]
    omega

theorem putThenGet_size (h : Represents b items q) (hcons : q.entries = x :: rest)
    (item : CANFrame) (micros : UInt32) :
    (b.putThenGet item micros).2.size.toNat = min n (rest.length + 2) - 1 := by
  have hput := h.put ⟨micros, item⟩
  have hlen : q.entries.length = rest.length + 1 := by rw [hcons, List.length_cons]
  have hsize := (hput.size).symm.trans (h.put_size ⟨micros, item⟩)
  rw [hlen] at hsize
  have hpos := h.positive
  obtain ⟨y, ys, hq⟩ := List.exists_cons_of_length_pos (by omega :
    0 < (q.put ⟨micros, item⟩).entries.length)
  rw [hq, List.length_cons] at hsize
  have hget := (hput.get_of_cons hq).2.size
  rw [(DropOldest.get_of_cons _ hq).1] at hget
  exact hget.trans (by omega)

/-- Behind the statement that moves the tail, the interrupt counts as a put behind the get exactly
at the points that are not exposed. -/
theorem late_iff (h : Represents b items q) (hcons : q.entries = x :: rest) {p : GetPoint}
    (hlate : p.Late) (hp : b.Branch p) (item : CANFrame) (micros : UInt32) :
    (((b.getAt p).interrupt item micros).finish = b.putThenGet item micros ∨
      ((b.getAt p).interrupt item micros).finish = b.getThenPut item micros) ↔ ¬ b.Exposed p := by
  have hfound := h.found hcons
  have hiff := h.storedSize_eq_iff hcons hlate hp item micros
  have hsize := (h.places_putBehind hcons item micros).choose_spec.2
  rw [finish_late hfound.1 hlate, getThenPut_eq hfound, ← hiff]
  constructor
  · rintro (heq | heq)
    · have hcount : b.storedSize item micros p = (b.putThenGet item micros).2.size :=
        congrArg (·.2.size) heq
      have hover : (b.taken.put item micros).overflows = (b.putThenGet item micros).2.overflows :=
        congrArg (·.2.overflows) heq
      rw [putThenGet_overflows hfound.1, put_overflows (b := b.taken) hfound.1] at hover
      have hnot : b.full = false := by
        by_contra hfull
        rw [if_pos (eq_true_of_ne_false hfull)] at hover
        exact absurd hover (by simp)
      have hroom : rest.length + 1 ≠ n := by
        have hfull := h.full
        rw [hnot, hcons, List.length_cons] at hfull
        exact of_decide_eq_false hfull.symm
      have hbound := q.bounded
      rw [hcons, List.length_cons] at hbound
      rw [← UInt8.toNat_inj, hcount, h.putThenGet_size hcons, hsize]
      omega
    · exact congrArg (·.2.size) heq
  · intro heq
    rw [heq]
    exact .inr rfl

theorem putThenGet_eq (h : Represents b items q) (item : CANFrame) (micros : UInt32) :
    b.putThenGet item micros =
      (some (b.put item micros).tail.toNat, (b.put item micros).taken.endGet) := by
  have hbuffer := (h.put ⟨micros, item⟩).buffer
  have hsize : (b.put item micros).size.toNat = min n (q.entries.length + 1) :=
    h.put_size ⟨micros, item⟩
  have hpos : 0 < min n (q.entries.length + 1) := lt_min h.positive (Nat.succ_pos _)
  exact get_of_found ⟨by simp [hbuffer], UInt8.lt_iff_toNat_lt.mpr (hsize ▸ hpos)⟩

theorem pointed_iff (h : Represents b items q) (hcons : q.entries = x :: rest) (item : CANFrame)
    (micros : UInt32) :
    (((b.getAt .pointed).interrupt item micros).finish = b.putThenGet item micros ∨
      ((b.getAt .pointed).interrupt item micros).finish = b.getThenPut item micros) ↔
      ¬ b.Exposed .pointed := by
  have hfound := h.found hcons
  have htail := put_tail hfound.1 item micros
  have hnext := h.toNat_nextIndex b.tail
  have hlt := h.tail
  rw [GetCall.finish_pointed rfl, h.putThenGet_eq, Exposed, h.capacity]
  constructor
  · rintro (heq | heq) ⟨hfull, hn⟩
    · -- the tail that the pointer was taken from has been overwritten
      have hpointer : b.tail.toNat = (b.put item micros).tail.toNat :=
        Option.some.inj (congrArg Prod.fst heq)
      rw [htail, if_pos hfull, hnext] at hpointer
      have hmeet := Ring.add_mod_eq_self hlt (by omega : 0 < 1) (by omega)
      omega
    · have hover : (b.put item micros).overflows = (b.getThenPut item micros).2.overflows :=
        congrArg (·.2.overflows) heq
      rw [getThenPut_overflows hfound, put_overflows hfound.1, if_pos hfull] at hover
      exact absurd hover (by simp)
  · intro hnot
    refine .inl (Prod.ext (congrArg some ?_) rfl)
    rw [htail]
    split_ifs with hfull
    · have hone : n = 1 := by
        have hn := not_and.mp hnot hfull
        omega
      rw [hnext, hone, Nat.mod_one]
      omega
    · rfl

theorem getThenPut_size (h : Represents b items q) (hcons : q.entries = x :: rest)
    (item : CANFrame) (micros : UInt32) :
    (b.getThenPut item micros).2.size.toNat = rest.length + 1 := by
  obtain ⟨_, -, hsize⟩ := h.places_putBehind hcons item micros
  rw [getThenPut_eq (h.found hcons)]
  exact hsize

theorem put_full_eq (h : Represents b items q) (item : CANFrame) (micros : UInt32) :
    (b.put item micros).full = decide (n ≤ q.entries.length + 1) := by
  have hput := h.put ⟨micros, item⟩
  have hfull := hput.full
  rw [← hput.size, h.put_size] at hfull
  exact hfull.trans (decide_eq_decide.mpr (by omega))

/-- With the full flag cleared and the tail not yet moved, the put takes the full buffer for an
empty one and the last free place for a full buffer. -/
theorem cleared_size (h : Represents b items q) (hcons : q.entries = x :: rest)
    (hexposed : b.Exposed .cleared) (item : CANFrame) (micros : UInt32) :
    ((b.getAt .cleared).interrupt item micros).finish.2.size.toNat =
      if b.full then 0 else n := by
  obtain ⟨hnear, hn⟩ := hexposed
  have hbuffer := (h.found hcons).1
  have hput := h.put_full_eq item micros
  rw [h.capacity] at hnear hn
  rw [h.size] at hnear
  let c := b.clearFull.put item micros
  have hfinish : ((b.getAt .cleared).interrupt item micros).finish.2.size =
      c.advance.countItems := by
    rw [GetCall.finish_cleared rfl]
    rfl
  rw [hfinish]
  cases hfull : b.full
  · have hc : c = b.put item micros := congrArg (·.put item micros) (clearFull_of_not hfull)
    have hflag : c.full = true := by rw [hc, hput, decide_eq_true hnear]
    have hcap : c.capacity = b.capacity := put_capacity _ _ _
    have hcount : c.advance.countItems = c.capacity := if_pos hflag
    rw [hcount, hcap, h.capacity]
    rfl
  · have hlen : q.entries.length = n := by simpa [hfull] using h.full
    have hmeet : b.head = b.tail := by
      rw [← UInt8.toNat_inj, h.head, hlen, Nat.add_mod_right, Nat.mod_eq_of_lt h.tail]
    have hhead : c.head = b.nextIndex b.tail :=
      hmeet ▸ put_head (b := b.clearFull) hbuffer item micros
    have htail : c.tail = b.tail := put_tail (b := b.clearFull) hbuffer item micros
    have hflag : c.full = false := by
      rw [put_full (b := b.clearFull) hbuffer, beq_eq_false_iff_ne, hhead, htail]
      intro heq
      have hround := (h.toNat_nextIndex b.tail).symm.trans (congrArg UInt8.toNat heq)
      have hone := (Ring.add_mod_eq_self h.tail one_pos hn.le).mp hround
      omega
    have hcount : c.advance.countItems = 0 := by
      refine countItems_of_meet hflag (hhead.trans ?_)
      rw [advance, nextIndex_congr (put_capacity b.clearFull item micros), htail]
      rfl
    rw [hcount]
    rfl

theorem advance_of_one (h : Represents b items q) (hone : n = 1) {c : CBUSCircularBuffer}
    (hcap : c.capacity = b.capacity) (htail : c.tail = b.tail) : c.advance = c := by
  have hlt := h.tail
  have hnext : c.nextIndex c.tail = c.tail := by
    rw [nextIndex_congr hcap, htail, ← UInt8.toNat_inj, h.toNat_nextIndex, hone, Nat.mod_one]
    omega
  rw [advance, hnext]

theorem cleared_of_one (h : Represents b items q) (hcons : q.entries = x :: rest) (hone : n = 1)
    (item : CANFrame) (micros : UInt32) :
    ((b.getAt .cleared).interrupt item micros).finish = b.getThenPut item micros := by
  have hfound := h.found hcons
  have htaken : b.taken = b.clearFull := h.advance_of_one hone rfl rfl
  have hput : (b.clearFull.put item micros).advance = b.clearFull.put item micros :=
    h.advance_of_one hone (put_capacity _ _ _) (put_tail (b := b.clearFull) hfound.1 item micros)
  rw [GetCall.finish_cleared rfl, getThenPut_eq hfound, putBehind,
    put_counts (b := b.taken) hfound.1, htaken]
  simp only [GetCall.interrupt, getAt]
  rw [hput, endGet, put_gets]
  rfl

theorem cleared_iff (h : Represents b items q) (hcons : q.entries = x :: rest) (item : CANFrame)
    (micros : UInt32) :
    (((b.getAt .cleared).interrupt item micros).finish = b.putThenGet item micros ∨
      ((b.getAt .cleared).interrupt item micros).finish = b.getThenPut item micros) ↔
      ¬ b.Exposed .cleared := by
  have hfound := h.found hcons
  have hfull : b.full = decide (rest.length + 1 = n) := by rw [h.full, hcons, List.length_cons]
  have hsize : b.size.toNat = rest.length + 1 := by rw [h.size, hcons, List.length_cons]
  have hbound := q.bounded
  rw [hcons, List.length_cons] at hbound
  constructor
  · intro hor hexposed
    have hcleared := h.cleared_size hcons hexposed item micros
    obtain ⟨hnear, hn⟩ := hexposed
    rw [h.capacity, hsize] at hnear
    rw [h.capacity] at hn
    simp only [hfull, decide_eq_true_eq] at hcleared
    rcases hor with heq | heq
    · rw [heq, h.putThenGet_size hcons] at hcleared
      split_ifs at hcleared with hk
      · omega
      · omega
    · rw [heq, h.getThenPut_size hcons] at hcleared
      split_ifs at hcleared with hk
      omega
  · intro hnot
    rw [Exposed, h.capacity, hsize] at hnot
    by_cases hk : rest.length + 1 = n
    · exact .inr (h.cleared_of_one hcons (by omega) item micros)
    · have hflag : (b.put item micros).full = false := by
        rw [h.put_full_eq, hcons, List.length_cons]
        exact decide_eq_false (by omega)
      have htail := put_tail hfound.1 item micros
      refine .inl ?_
      rw [GetCall.finish_cleared rfl, h.putThenGet_eq, taken, clearFull_of_not hflag, htail,
        if_neg (by simp [hfull, hk])]
      simp only [GetCall.interrupt, getAt, clearFull_of_not (by simp [hfull, hk] : b.full = false)]

/-- A put that interrupts a get counts as a put before or behind it exactly at the points that are
not exposed. -/
theorem interruptedGet_iff (h : Represents b items q) (k : ℕ) (item : CANFrame) (micros : UInt32) :
    (b.interruptedGet k item micros = b.putThenGet item micros ∨
      b.interruptedGet k item micros = b.getThenPut item micros) ↔
      ¬ b.Exposed (b.getAfter k).point := by
  cases hq : q.entries with
  | nil =>
    have hnone : ¬ (b.buffer.isSome ∧ 0 < b.size) := by
      rintro ⟨-, hpos⟩
      exact absurd (h.size_eq_zero.mpr hq) (UInt8.pos_iff_ne_zero.mp hpos)
    cases k with
    | zero => exact iff_of_true (.inl (GetCall.finish_start rfl rfl)) id
    | succ k =>
      rw [interruptedGet, getAfter_succ_of_not hnone]
      refine iff_of_true (.inr ?_) id
      rw [GetCall.finish_done rfl, getThenPut, h.get_of_nil hq]
      rfl
  | cons x rest =>
    have hfound := h.found hq
    obtain ⟨p, hp, hk⟩ := getAfter_eq_getAt hfound k
    have hpoint : (b.getAt p).point = p := by cases p <;> rfl
    rw [interruptedGet, hk, hpoint]
    cases p with
    | start => exact iff_of_true (.inl (GetCall.finish_start rfl rfl)) id
    | checked =>
      refine iff_of_true (.inl ?_) id
      rw [GetCall.finish_checked rfl, h.putThenGet_eq]
      rfl
    | pointed => exact h.pointed_iff hq item micros
    | cleared => exact h.cleared_iff hq item micros
    | _ =>
      refine h.late_iff hq ?_ hp item micros
      trivial

end Represents

abbrev History := CBUSCircularBuffer × List (Option ℕ)

def History.call (s : History) (c : BufferCall) : History :=
  ((s.1.call c).2, match c with
    | .get => s.2 ++ [s.1.get.1]
    | _ => s.2)

/-- A call, or a `get` with a `put` behind its first `k` statements. -/
inductive Step
  | call (c : BufferCall)
  | interruptedGet (k : ℕ) (item : CANFrame) (micros : UInt32)

def History.step (s : History) : Step → History
  | .call c => s.call c
  | .interruptedGet k item micros =>
    let r := s.1.interruptedGet k item micros
    (r.2, s.2 ++ [r.1])

/-- No interrupt at an exposed point. -/
def Step.Harmless (s : History) : Step → Prop
  | .call _ => True
  | .interruptedGet k _ _ => ¬ s.1.Exposed (s.1.getAfter k).point

instance (s : History) : DecidablePred (Step.Harmless s)
  | .call _ => .isTrue trivial
  | .interruptedGet k _ _ => inferInstanceAs (Decidable (¬ s.1.Exposed (s.1.getAfter k).point))

/-- The calls in an order in which they could have been made one after the other. -/
inductive Step.Order : Step → List BufferCall → Prop
  | call (c : BufferCall) : Order (.call c) [c]
  | putFirst (k : ℕ) (item : CANFrame) (micros : UInt32) :
    Order (.interruptedGet k item micros) [.put item micros, .get]
  | getFirst (k : ℕ) (item : CANFrame) (micros : UInt32) :
    Order (.interruptedGet k item micros) [.get, .put item micros]

theorem Step.Harmless.order {s : History} {items : List BufferItem} {n : ℕ}
    {q : DropOldest BufferItem n} (h : Represents s.1 items q) {e : Step} (he : e.Harmless s) :
    ∃ calls, e.Order calls ∧ s.step e = run History.call s calls := by
  cases e with
  | call c => exact ⟨_, .call c, rfl⟩
  | interruptedGet k item micros =>
    rcases (h.interruptedGet_iff k item micros).mpr he with heq | heq
    · refine ⟨_, .putFirst k item micros, ?_⟩
      rw [History.step, heq]
      rfl
    · refine ⟨_, .getFirst k item micros, ?_⟩
      rw [History.step, heq]
      rfl

theorem Represents.history {items : List BufferItem} {n : ℕ} {q : DropOldest BufferItem n}
    {s : History} (h : Represents s.1 items q) (calls : List BufferCall) :
    ∃ items', ∃ q' : DropOldest BufferItem n, Represents (run History.call s calls).1 items' q' := by
  induction calls generalizing s items q with
  | nil => exact ⟨items, q, h⟩
  | cons c calls ih =>
    obtain ⟨items', hcall⟩ := h.call c
    exact ih hcall

/-- Every run whose interrupts fall on harmless points returns the same pointers and leaves the same
buffer as the calls one after the other in some order. -/
theorem Represents.linearizes {items : List BufferItem} {n : ℕ} {q : DropOldest BufferItem n}
    {s : History} (h : Represents s.1 items q) {steps : List Step}
    (hg : Guarded History.step Step.Harmless s steps) :
    ∃ orders, List.Forall₂ Step.Order steps orders ∧
      run History.step s steps = run History.call s orders.flatten := by
  induction steps generalizing s items q with
  | nil => exact ⟨[], .nil, rfl⟩
  | cons e steps ih =>
    obtain ⟨calls, horder, heq⟩ := hg.1.order h
    have hrest := hg.2
    rw [heq] at hrest
    obtain ⟨items', q', hcalls⟩ := h.history calls
    obtain ⟨orders, horders, hrun⟩ := ih hcalls hrest
    refine ⟨calls :: orders, .cons horder horders, ?_⟩
    rw [run_cons, heq, hrun, List.flatten_cons, run_append]

/-- As long as no put has interrupted a get at an exposed point, the pointers returned and the buffer
are those of the same calls one after the other, each get before or behind the put that interrupted
it; and the next interrupt keeps it so exactly if it falls on a point that is not exposed. -/
theorem interrupted_run {capacity : UInt8} (h : 0 < capacity.toNat) {steps : List Step}
    (hg : Guarded History.step Step.Harmless (construct capacity, []) steps) :
    let s := run History.step (construct capacity, []) steps
    (∃ orders, List.Forall₂ Step.Order steps orders ∧
      s = run History.call (construct capacity, []) orders.flatten) ∧
      ∀ k item micros, (s.1.interruptedGet k item micros = s.1.putThenGet item micros ∨
        s.1.interruptedGet k item micros = s.1.getThenPut item micros) ↔
        ¬ s.1.Exposed (s.1.getAfter k).point := by
  intro s
  have hstart := Represents.construct h
  obtain ⟨orders, horders, hrun⟩ :=
    Represents.linearizes (s := (construct capacity, [])) hstart hg
  obtain ⟨items, q, hrep⟩ :=
    Represents.history (s := (construct capacity, [])) hstart orders.flatten
  rw [← hrun] at hrep
  exact ⟨⟨orders, horders, hrun⟩, hrep.interruptedGet_iff⟩

theorem interrupted_run_twoFrames :
    let steps : List Step := [.call (.put { id := 1 } 10), .call (.put { id := 2 } 20),
      .interruptedGet 5 { id := 3 } 30, .interruptedGet 11 { id := 4 } 40]
    let s := run History.step (construct 3, []) steps
    (∃ orders, List.Forall₂ Step.Order steps orders ∧
      s = run History.call (construct 3, []) orders.flatten) ∧
      ∀ k item micros, (s.1.interruptedGet k item micros = s.1.putThenGet item micros ∨
        s.1.interruptedGet k item micros = s.1.getThenPut item micros) ↔
        ¬ s.1.Exposed (s.1.getAfter k).point :=
  interrupted_run (by decide) ⟨trivial, trivial, by decide, by decide, trivial⟩

/-- Three frames wait, and the interrupt falls between `m_full = false` and the move of the tail. -/
example :
    let full := ((construct 3).put {} 10).put {} 20 |>.put {} 30
    (full.size, (full.interruptedGet 3 {} 40).2.size) = (3, 0) := by decide

end CBUSCircularBuffer
end CBUSPicoLib
