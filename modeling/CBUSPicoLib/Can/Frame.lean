import Mathlib.Data.Nat.Bitwise
import Mathlib.Tactic

/-!
# CAN frames and the CBUS opcodes the module handles

`CANFrame` is the source's class: every field starts out zero. Node and event
numbers travel as two bytes, high byte first; `bytesToWord` is the expression
`(hi << 8) + lo` that every parser of the module uses to read them back.
-/

namespace CBUSPicoLib

/-- A CAN/CBUS frame. -/
structure CANFrame where
  id : UInt32 := 0
  ext : Bool := false
  rtr : Bool := false
  len : UInt8 := 0
  data : Vector UInt8 8 := Vector.replicate 8 0
  deriving DecidableEq, Repr

/-- A literal is an index of a data byte, as in `data.get 1`. -/
instance neZeroEight : NeZero 8 := ⟨Nat.succ_ne_zero 7⟩

def lowByte (w : ℕ) : UInt8 := UInt8.ofNat (w &&& 0xff)

def highByte (w : ℕ) : UInt8 := UInt8.ofNat (w >>> 8)

def bytesToWord (hi lo : UInt8) : UInt16 := UInt16.ofNat ((hi.toNat <<< 8) + lo.toNat)

@[simp] theorem toNat_lowByte (w : ℕ) : (lowByte w).toNat = w % 256 := by
  have h : w &&& 0xff = w % 256 := Nat.and_two_pow_sub_one_eq_mod w 8
  simp [lowByte, h]

@[simp] theorem toNat_highByte (w : ℕ) : (highByte w).toNat = w / 256 % 256 := by
  simp [highByte, Nat.shiftRight_eq_div_pow]

@[simp] theorem toNat_bytesToWord (hi lo : UInt8) :
    (bytesToWord hi lo).toNat = 256 * hi.toNat + lo.toNat := by
  have h1 := hi.toNat_lt
  have h2 := lo.toNat_lt
  simp only [bytesToWord, Nat.shiftLeft_eq, UInt16.toNat_ofNat']
  omega

/-- Splitting a word into its bytes and reading it back is the identity. -/
@[simp] theorem bytesToWord_high_low (w : UInt16) :
    bytesToWord (highByte w.toNat) (lowByte w.toNat) = w := by
  have h := w.toNat_lt
  apply UInt16.toNat_inj.mp
  simp only [toNat_bytesToWord, toNat_highByte, toNat_lowByte]
  omega

theorem bytesToWord_inj {a b c d : UInt8} :
    bytesToWord a b = bytesToWord c d ↔ a = c ∧ b = d := by
  have hb := b.toNat_lt
  have hd := d.toNat_lt
  rw [← UInt16.toNat_inj, ← UInt8.toNat_inj, ← UInt8.toNat_inj, toNat_bytesToWord,
    toNat_bytesToWord]
  omega

def opcQnn : UInt8 := 0x0d
def opcRqnp : UInt8 := 0x10
def opcRqmn : UInt8 := 0x11
def opcSnn : UInt8 := 0x42
def opcRqnn : UInt8 := 0x50
def opcNnrel : UInt8 := 0x51
def opcNnack : UInt8 := 0x52
def opcNnlrn : UInt8 := 0x53
def opcNnuln : UInt8 := 0x54
def opcNnclr : UInt8 := 0x55
def opcNnevn : UInt8 := 0x56
def opcNerd : UInt8 := 0x57
def opcRqevn : UInt8 := 0x58
def opcWrack : UInt8 := 0x59
def opcEnum : UInt8 := 0x5D
def opcCmderr : UInt8 := 0x6F
def opcEvnlf : UInt8 := 0x70
def opcNvrd : UInt8 := 0x71
def opcNenrd : UInt8 := 0x72
def opcRqnpn : UInt8 := 0x73
def opcNumev : UInt8 := 0x74
def opcCanid : UInt8 := 0x75
def opcAcon : UInt8 := 0x90
def opcEvuln : UInt8 := 0x95
def opcNvset : UInt8 := 0x96
def opcNvans : UInt8 := 0x97
def opcParan : UInt8 := 0x9B
def opcReval : UInt8 := 0x9C
def opcReqev : UInt8 := 0xB2
def opcNeval : UInt8 := 0xB5
def opcPnn : UInt8 := 0xB6
def opcEvlrn : UInt8 := 0xD2
def opcName : UInt8 := 0xE2
def opcDtxc : UInt8 := 0xE9
def opcParams : UInt8 := 0xEF
def opcEnrsp : UInt8 := 0xF2
def opcEvlrni : UInt8 := 0xF5

def cmderrNotLrn : UInt8 := 2
def cmderrInvEvIdx : UInt8 := 6
def cmderrInvalidEvent : UInt8 := 7
def cmderrInvParamIdx : UInt8 := 9
def cmderrInvNvIdx : UInt8 := 10
def cmderrInvNvValue : UInt8 := 12

def defaultPriority : UInt8 := 0xB

/-- The 11-bit header of a standard frame: four priority bits above the seven
bits of the CAN ID. -/
def makeHeaderImpl (msg : CANFrame) (id priority : UInt8) : CANFrame :=
  { msg with id := UInt32.ofNat ((priority.toNat <<< 7) + (id &&& 0x7f).toNat) }

theorem and_flag_eq_zero {id flag : UInt32} {k : ℕ} (hflag : flag.toNat = 2 ^ k)
    (h : id.toNat < 2 ^ k) : id &&& flag = 0 := by
  apply UInt32.toNat_inj.mp
  rw [UInt32.toNat_and, hflag, Nat.and_two_pow, Nat.testBit_lt_two_pow h]
  simp

theorem or_and_distrib (x y z : UInt32) : (x ||| y) &&& z = (x &&& z) ||| (y &&& z) :=
  UInt32.toBitVec_inj.mp BitVec.and_or_distrib_right

end CBUSPicoLib
