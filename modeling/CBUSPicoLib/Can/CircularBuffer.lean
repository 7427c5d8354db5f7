import CBUSPicoLib.Can.Frame

/-!
# The circular buffer of CAN frames

`put` appends and overwrites the oldest frame of a full buffer; `get` returns a
pointer into the buffer, here the index of the slot. A buffer of capacity zero
allocates nothing and ignores every call.
-/

namespace CBUSPicoLib

/-- `cbus_frame_buffer_t`. -/
structure BufferItem where
  itemInsertTime : UInt32 := 0
  item : CANFrame := {}

structure CBUSCircularBuffer where
  full : Bool := false
  head : UInt8 := 0
  tail : UInt8 := 0
  capacity : UInt8
  size : UInt8 := 0
  highWaterMark : UInt8 := 0
  puts : UInt32 := 0
  gets : UInt32 := 0
  overflows : UInt32 := 0
  buffer : Option (List BufferItem)

namespace CBUSCircularBuffer

def construct (numItems : UInt8) : CBUSCircularBuffer where
  capacity := numItems
  buffer := if 0 < numItems then some (List.replicate numItems.toNat {}) else none

def available (b : CBUSCircularBuffer) : Bool := 0 < b.size

def nextIndex (b : CBUSCircularBuffer) (index : UInt8) : UInt8 :=
  UInt8.ofNat ((index.toNat + 1) % b.capacity.toNat)

def countItems (b : CBUSCircularBuffer) : UInt8 :=
  if b.full then b.capacity
  else if b.tail ≤ b.head then b.head - b.tail
  else b.capacity + b.head - b.tail

/-- Store an item, overwriting the oldest one if the buffer is full. -/
def put (b : CBUSCircularBuffer) (item : CANFrame) (micros : UInt32) : CBUSCircularBuffer :=
  match b.buffer with
  | none => b
  | some items =>
    let b := { b with buffer := some (items.set b.head.toNat ⟨micros, item⟩) }
    let b := if b.full then { b with tail := b.nextIndex b.tail, overflows := b.overflows + 1 } else b
    let b := { b with head := b.nextIndex b.head }
    let b := { b with full := b.head == b.tail }
    let b := { b with size := b.countItems }
    { b with
      highWaterMark := if b.highWaterMark < b.size then b.size else b.highWaterMark
      puts := b.puts + 1 }

/-- Retrieve the next item: the slot the returned pointer refers to. -/
def get (b : CBUSCircularBuffer) : Option ℕ × CBUSCircularBuffer :=
  if b.buffer.isSome ∧ 0 < b.size then
    let p := b.tail.toNat
    let b := { b with full := false, tail := b.nextIndex b.tail }
    (some p, { b with size := b.countItems, gets := b.gets + 1 })
  else (none, b)

def insertTime (b : CBUSCircularBuffer) : UInt32 :=
  match b.buffer with
  | some items => (items.getD b.tail.toNat {}).itemInsertTime
  | none => 0

/-- Peek at the next item without removing it: the slot the returned pointer refers to. -/
def peek (b : CBUSCircularBuffer) : Option ℕ :=
  if b.buffer.isNone ∨ b.size = 0 then none else some b.tail.toNat

def clear (b : CBUSCircularBuffer) : CBUSCircularBuffer :=
  { b with head := 0, tail := 0, full := false, size := 0 }

/-- The call of `size()`, which stores what it returns. -/
def callSize (b : CBUSCircularBuffer) : UInt8 × CBUSCircularBuffer :=
  (b.countItems, { b with size := b.countItems })

def empty (b : CBUSCircularBuffer) : Bool := !b.full && b.head == b.tail

def freeSlots (b : CBUSCircularBuffer) : UInt8 := b.capacity - b.size

/-- Read the frame behind a pointer returned by `get`. -/
def frameAt (b : CBUSCircularBuffer) (p : Option ℕ) : CANFrame :=
  match b.buffer, p with
  | some items, some i => (items.getD i {}).item
  | _, _ => {}

/-- `get` and a copy of the frame through the pointer. -/
def getFrame (b : CBUSCircularBuffer) : CANFrame × CBUSCircularBuffer :=
  let (p, b) := b.get
  (b.frameAt p, b)

end CBUSCircularBuffer
end CBUSPicoLib
