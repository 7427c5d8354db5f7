import CBUSPicoLib.Can.Frame

/-!
# The GridConnect text of a CAN frame

`encodeGC` and `decodeGC` with their helpers. An index outside an array is
`none`. `decodeGC` yields no frame where the source returns false; what it has
written into its argument until then is not used by its caller.
-/

namespace CBUSPicoLib

def chColon : UInt8 := 0x3A
def chSemicolon : UInt8 := 0x3B
def chN : UInt8 := 0x4E
def chR : UInt8 := 0x52
def chS : UInt8 := 0x53
def chX : UInt8 := 0x58

def islower (c : UInt8) : Bool := 0x61 ≤ c && c ≤ 0x7A

def isxdigit (c : UInt8) : Bool :=
  (0x30 ≤ c && c ≤ 0x39) || (0x41 ≤ c && c ≤ 0x46) || (0x61 ≤ c && c ≤ 0x66)

/-- The upper and lower nibble characters of a byte. -/
structure HexByteChars where
  lowerNibble : UInt8
  upperNibble : UInt8

def hexChars : List UInt8 :=
  [0x30, 0x31, 0x32, 0x33, 0x34, 0x35, 0x36, 0x37, 0x38, 0x39, 0x41, 0x42, 0x43, 0x44, 0x45, 0x46]

def uint8ToHex (u8 : UInt8) : HexByteChars where
  lowerNibble := hexChars.getD (u8 &&& 0x0f).toNat 0
  upperNibble := hexChars.getD ((u8 >>> 4) &&& 0x0f).toNat 0

def hexToUint8 (hexChar : HexByteChars) : UInt8 :=
  let result :=
    if hexChar.lowerNibble < 0x41 then hexChar.lowerNibble - 0x30
    else hexChar.lowerNibble - 0x41 + 10
  if hexChar.upperNibble < 0x41 then result + (hexChar.upperNibble - 0x30) <<< 4
  else result + (hexChar.upperNibble - 0x41 + 10) <<< 4

/-- The value of a hex digit, as `strtol` takes it. -/
def digitValue (c : UInt8) : ℕ :=
  if c < 0x41 then c.toNat - 0x30 else if c < 0x61 then c.toNat - 0x41 + 10 else c.toNat - 0x61 + 10

/-- `strtol(s, nullptr, 16)` on a string that starts with a hex digit and has no
`0x` in front; `long` has 32 bits. -/
def strtol16 (s : List UInt8) : Option ℕ :=
  let digits := s.takeWhile isxdigit
  if digits.length < s.length then
    some (min (digits.foldl (fun v c => 16 * v + digitValue c) 0) 0x7FFFFFFF)
  else none

/-- `gcMessage_t`: a GridConnect message and its length. -/
structure GcMessage where
  byte : Vector UInt8 28
  len : UInt8
  deriving DecidableEq, Repr

/-- A literal is an index of a character, as in `byte.get 1`. -/
instance neZeroMessage : NeZero 28 := ⟨Nat.succ_ne_zero 27⟩

namespace GcMessage

def empty : GcMessage := ⟨Vector.replicate 28 0, 0⟩

def put (m : GcMessage) (index : ℕ) (c : UInt8) : Option GcMessage :=
  if h : index < 28 then some { m with byte := m.byte.set index c } else none

def putChars (m : GcMessage) (offset : ℕ) : List UInt8 → Option GcMessage
  | [] => some m
  | c :: cs => do
    let m ← m.put offset c
    m.putChars (offset + 1) cs

def checkHexChars (m : GcMessage) (start : ℕ) : ℕ → Option Bool
  | 0 => some true
  | count + 1 => do
    let c ← m.byte[start]?
    if islower c || !isxdigit c then some false else m.checkHexChars (start + 1) count

/-- The byte whose two characters start at `offset`. -/
def hexByte (m : GcMessage) (offset : ℕ) : UInt8 :=
  hexToUint8 ⟨m.byte[offset + 1]?.getD 0, m.byte[offset]?.getD 0⟩

end GcMessage

def hexPair (u8 : UInt8) : List UInt8 := [(uint8ToHex u8).upperNibble, (uint8ToHex u8).lowerNibble]

/-- Characters 2 to 9 of an extended frame: the 29-bit identifier. -/
def extendedId (id : UInt32) : List UInt8 :=
  hexPair (id >>> 21).toUInt8 ++
    [(uint8ToHex ((id >>> 17) &&& 0xE).toUInt8).lowerNibble,
      (uint8ToHex ((id >>> 16) &&& 0x3).toUInt8).lowerNibble] ++
    hexPair ((id &&& 0xff00) >>> 8).toUInt8 ++ hexPair (id &&& 0x00ff).toUInt8

/-- Characters 2 to 5 of a standard frame: the 11-bit identifier in the highest bits. -/
def standardId (id : UInt32) : List UInt8 :=
  let canId := (id <<< 5).toUInt16
  hexPair ((canId &&& 0xff00) >>> 8).toUInt8 ++ hexPair (canId &&& 0x00ff).toUInt8

def hexData (canMsg : CANFrame) : List UInt8 :=
  (canMsg.data.toList.take canMsg.len.toNat).flatMap hexPair

/-- Encode a frame: the result and the message, whose buffer is cleared first. -/
def encodeGC (canMsg : CANFrame) : Option (Bool × GcMessage) :=
  if 8 < canMsg.len ∨ (canMsg.ext = false ∧ 0x7FF < canMsg.id) ∨
      (canMsg.ext = true ∧ 0x1FFFFFFF < canMsg.id) then
    some (false, .empty)
  else do
    let m ← GcMessage.empty.put 0 chColon
    let m ← m.putChars 1
      (if canMsg.ext then chX :: extendedId canMsg.id else chS :: standardId canMsg.id)
    let offset := if canMsg.ext then 10 else 6
    let m ← m.put offset (if canMsg.rtr then chR else chN)
    let m ← m.putChars (offset + 1) (hexData canMsg)
    let offset := offset + 1 + 2 * canMsg.len.toNat
    let m ← m.put offset chSemicolon
    return (true, { m with len := UInt8.ofNat (offset + 1) })

/-- The data loop: `i` is the next data byte, the last argument how many are left. -/
def decodeBytes (m : GcMessage) (data : Vector UInt8 8) (offset i : ℕ) :
    ℕ → Option (Option (Vector UInt8 8))
  | 0 => some (some data)
  | count + 1 => do
    let hex ← m.checkHexChars offset 2
    if hex then
      if h : i < 8 then decodeBytes m (data.set i (m.hexByte offset)) (offset + 2) (i + 1) count
      else none
    else return none

/-- The part behind the identifier: RTR flag, data and end of message. -/
def decodeData (m : GcMessage) (offset : ℕ) (canMsg : CANFrame) : Option (Option CANFrame) := do
  let flag ← m.byte[offset]?
  if flag = chR ∨ flag = chN then
    let offset := offset + 1
    let dataLength : ℤ := (m.len.toNat : ℤ) - offset - 1
    if dataLength.tmod 2 ≠ 0 ∨ 16 < dataLength then return none
    else
      let len := UInt8.ofNat (dataLength.tdiv 2 % 256).toNat
      match ← decodeBytes m canMsg.data offset 0 len.toNat with
      | none => return none
      | some data =>
        if 0 < m.len then do
          let last ← m.byte[m.len.toNat - 1]?
          if last = chSemicolon then
            return some { canMsg with rtr := flag = chR, len := len, data := data }
          else return none
        else none
  else return none

def decodeGC (m : GcMessage) (canMsg : CANFrame) : Option (Option CANFrame) :=
  if 28 < m.len then some none
  else if m.byte.get 0 ≠ chColon then some none
  else if m.byte.get 1 = chX then do
    let hex ← m.checkHexChars 2 8
    if hex then
      let id := (m.hexByte 2).toUInt32 <<< 21
      let id := id + (m.hexByte 4 &&& 0xE0).toUInt32 <<< 13
      let id := id + (m.hexByte 4 &&& 0x3).toUInt32 <<< 16
      let id := id + (m.hexByte 6).toUInt32 <<< 8
      let id := id + (m.hexByte 8).toUInt32
      decodeData m 10 { canMsg with ext := true, id := id }
    else return none
  else if m.byte.get 1 = chS then do
    let hex ← m.checkHexChars 2 4
    if hex then do
      let value ← strtol16 (m.byte.toList.drop 2)
      decodeData m 6 { canMsg with ext := false, id := UInt32.ofNat (value >>> 5) }
    else return none
  else some none

end CBUSPicoLib
