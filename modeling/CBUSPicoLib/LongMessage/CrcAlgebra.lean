import CBUSPicoLib.Library.ShiftRegister
import CBUSPicoLib.LongMessage.Extended

/-!
# The algebra of `crc16`

`crc16` is a shift register of 16 bits that takes in the bits of a message from the lowest one of
each byte on. The register is affine in the message, and a burst of at most 16 bits is seen in it,
however long the message is; the complement and the exchange of bytes at its end change neither.
-/

namespace CBUSPicoLib

open ShiftRegister

/-- The bits of a byte in the order in which `crc16` takes them in. -/
def byteBits (byte : UInt8) : List Bool := (List.range 8).map byte.toBitVec.getLsbD

def messageBits (msg : List UInt8) : List Bool := msg.flatMap byteBits

def crcPoly : BitVec 16 := 0x8408#16

theorem crcPoly_msb : crcPoly.msb = true := by decide

theorem lowBits_ne (crc data : UInt16) : (crc &&& 1) ^^^ (data &&& 1) ≠ 0 ↔
    (crc.toBitVec.getLsbD 0 ^^ data.toBitVec.getLsbD 0) = true := by
  have hlow : ((crc &&& 1) ^^^ (data &&& 1)).toBitVec =
      BitVec.setWidth 16 (BitVec.ofBool (crc.toBitVec.getLsbD 0 ^^ data.toBitVec.getLsbD 0)) := by
    rw [UInt16.toBitVec_xor, UInt16.toBitVec_and, UInt16.toBitVec_and]
    change (crc.toBitVec &&& 1#16) ^^^ (data.toBitVec &&& 1#16) = _
    rw [BitVec.and_one_eq_setWidth_ofBool_getLsbD, BitVec.and_one_eq_setWidth_ofBool_getLsbD]
    cases crc.toBitVec.getLsbD 0 <;> cases data.toBitVec.getLsbD 0 <;> rfl
  rw [ne_eq, ← UInt16.toBitVec_inj, hlow]
  cases crc.toBitVec.getLsbD 0 ^^ data.toBitVec.getLsbD 0 <;> decide

theorem toBitVec_crcBits (k : ℕ) (crc data : UInt16) : (crcBits k crc data).toBitVec =
    feedAll crcPoly crc.toBitVec ((List.range k).map data.toBitVec.getLsbD) := by
  induction k generalizing crc data with
  | zero => rfl
  | succ k ih =>
    have hbits : (List.range (k + 1)).map data.toBitVec.getLsbD =
        data.toBitVec.getLsbD 0 :: (List.range k).map (data >>> 1).toBitVec.getLsbD := by
      rw [List.range_succ_eq_map, List.map_cons, List.map_map]
      refine congrArg _ (List.map_congr_left fun i _ => ?_)
      have hshift : (data >>> 1).toBitVec = data.toBitVec >>> 1 := rfl
      rw [hshift, BitVec.getLsbD_ushiftRight, Function.comp_apply, Nat.add_comm 1 i]
    rw [hbits, feedAll_cons]
    unfold crcBits
    rw [ih]
    apply congrArg fun s => feedAll crcPoly s _
    unfold feed
    simp only [lowBits_ne]
    split_ifs <;> rfl

theorem toBitVec_crcByte (crc : UInt16) (byte : UInt8) : (crcByte crc byte).toBitVec =
    feedAll crcPoly crc.toBitVec (byteBits byte) := by
  unfold crcByte byteBits
  rw [toBitVec_crcBits]
  refine congrArg _ (List.map_congr_left fun i hi => ?_)
  have hlt := List.mem_range.mp hi
  change (byte.toBitVec.setWidth 16).getLsbD i = _
  rw [BitVec.getLsbD_setWidth]
  simp
  omega

theorem toBitVec_foldl_crcByte (msg : List UInt8) (crc : UInt16) :
    (msg.foldl crcByte crc).toBitVec = feedAll crcPoly crc.toBitVec (messageBits msg) := by
  induction msg generalizing crc with
  | nil => rfl
  | cons byte msg ih =>
    rw [List.foldl_cons, ih, toBitVec_crcByte, ← feedAll_append]
    rfl

/-- The end of `crc16`: the complement with its bytes exchanged. -/
def crcResult (crc : UInt16) : UInt16 := (~~~crc <<< 8) ||| (~~~crc >>> 8 &&& 0xff)

theorem getLsbD_exchanged (x : BitVec 16) {i : ℕ} (hi : i < 16) :
    ((x <<< 8) ||| ((x >>> 8) &&& 0xff#16)).getLsbD ((i + 8) % 16) = x.getLsbD i := by
  have hmask : ∀ j, (0xff#16).getLsbD j = decide (j < 8) := by
    intro j
    rw [BitVec.getLsbD_ofNat, show 0xff = 2 ^ 8 - 1 from rfl, Nat.testBit_two_pow_sub_one]
    by_cases hj : j < 8
    · simp [hj, show j < 16 by omega]
    · simp [hj]
  rw [BitVec.getLsbD_or, BitVec.getLsbD_shiftLeft, BitVec.getLsbD_and, BitVec.getLsbD_ushiftRight,
    hmask]
  by_cases hlow : i < 8
  · rw [show (i + 8) % 16 = i + 8 by omega]
    simp [show i + 8 < 16 by omega]
  · rw [show (i + 8) % 16 = i - 8 by omega, show 8 + (i - 8) = i by omega]
    simp [show i - 8 < 8 by omega]

theorem crcResult_injective {a b : UInt16} (h : crcResult a = crcResult b) : a = b := by
  have hbits := congrArg UInt16.toBitVec h
  apply UInt16.toBitVec_inj.mp
  apply BitVec.not_inj.mp
  apply BitVec.eq_of_getLsbD_eq
  intro i hi
  rw [← getLsbD_exchanged (~~~a.toBitVec) hi, ← getLsbD_exchanged (~~~b.toBitVec) hi]
  exact congrArg (fun x : BitVec 16 => x.getLsbD ((i + 8) % 16)) hbits

theorem crc16_eq {msg : List UInt8} (hpos : 1 ≤ msg.length) (hmax : msg.length ≤ 65535) :
    crc16 msg (UInt16.ofNat msg.length) = some (crcResult (msg.foldl crcByte 0xffff)) := by
  have hlen : (UInt16.ofNat msg.length).toNat = msg.length := by
    rw [UInt16.toNat_ofNat']
    omega
  have hne : UInt16.ofNat msg.length ≠ 0 := by
    intro h
    rw [h] at hlen
    simp at hlen
    omega
  unfold crc16
  dsimp only
  rw [if_neg hne, if_pos (le_of_eq hlen), hlen, List.take_length]
  rfl

/-- The messages differ in a burst of at most 16 consecutive bits. -/
def Burst (msg altered : List UInt8) : Prop :=
  ∃ before u v after, messageBits msg = before ++ u ++ after ∧
    messageBits altered = before ++ v ++ after ∧ u.length = v.length ∧ 1 ≤ u.length ∧
    u.length ≤ 16 ∧ u ≠ v

theorem length_messageBits (msg : List UInt8) : (messageBits msg).length = 8 * msg.length := by
  induction msg with
  | nil => rfl
  | cons byte msg ih =>
    have hsplit : messageBits (byte :: msg) = byteBits byte ++ messageBits msg := rfl
    rw [hsplit, List.length_append, ih, byteBits, List.length_map, List.length_range,
      List.length_cons]
    ring

theorem Burst.length_eq {msg altered : List UInt8} (h : Burst msg altered) :
    altered.length = msg.length := by
  obtain ⟨before, u, v, after, hmsg, haltered, hlen, -⟩ := h
  have hbits : (messageBits altered).length = (messageBits msg).length := by
    simp [hmsg, haltered, hlen]
  rw [length_messageBits, length_messageBits] at hbits
  omega

theorem Burst.crc16_ne {msg altered : List UInt8} (h : Burst msg altered) (hpos : 1 ≤ msg.length)
    (hmax : msg.length ≤ 65535) :
    crc16 altered (UInt16.ofNat altered.length) ≠ crc16 msg (UInt16.ofNat msg.length) := by
  have hlength := h.length_eq
  rw [crc16_eq hpos hmax, crc16_eq (by omega) (by omega)]
  intro heq
  have hfold := crcResult_injective (Option.some.inj heq)
  obtain ⟨before, u, v, after, hmsg, haltered, hlen, -, hshort, hne⟩ := h
  have hregister := congrArg UInt16.toBitVec hfold
  rw [toBitVec_foldl_crcByte, toBitVec_foldl_crcByte, hmsg, haltered] at hregister
  exact burst_ne crcPoly_msb before after hlen hshort hne hregister.symm

theorem exists_burst {msg : List UInt8} (hpos : 1 ≤ msg.length) : ∃ altered, Burst msg altered := by
  obtain ⟨byte, rest, rfl⟩ := List.exists_cons_of_length_pos hpos
  have hbits : ∀ b : UInt8, byteBits b = b.toBitVec.getLsbD 0 ::
      (List.range 7).map fun i => b.toBitVec.getLsbD (i + 1) := by
    intro b
    rw [byteBits, List.range_succ_eq_map, List.map_cons, List.map_map]
    rfl
  have hflip : byteBits (byte ^^^ 1) = (!byte.toBitVec.getLsbD 0) ::
      (List.range 7).map fun i => byte.toBitVec.getLsbD (i + 1) := by
    rw [hbits, UInt8.toBitVec_xor]
    change _ :: (List.range 7).map (fun i => (byte.toBitVec ^^^ 1#8).getLsbD (i + 1)) = _
    simp [BitVec.getLsbD_one]
  refine ⟨(byte ^^^ 1) :: rest, [], [byte.toBitVec.getLsbD 0], [!byte.toBitVec.getLsbD 0],
    (List.range 7).map (fun i => byte.toBitVec.getLsbD (i + 1)) ++ messageBits rest, ?_, ?_, rfl,
    le_rfl, by simp, by simp⟩
  · rw [messageBits, List.flatMap_cons, hbits]
    rfl
  · rw [messageBits, List.flatMap_cons, hflip]
    rfl

theorem byteBits_injective {a b : UInt8} (h : byteBits a = byteBits b) : a = b := by
  apply UInt8.toBitVec_inj.mp
  apply BitVec.eq_of_getLsbD_eq
  intro i hi
  have hbit := congrArg (·[i]?) h
  simpa [byteBits, hi] using hbit

theorem messageBits_injective {msg altered : List UInt8}
    (h : messageBits msg = messageBits altered) : msg = altered := by
  induction msg generalizing altered with
  | nil =>
    have hlen := congrArg List.length h
    rw [length_messageBits, length_messageBits] at hlen
    exact (List.length_eq_zero_iff.mp (by simpa using hlen.symm)).symm
  | cons byte msg ih =>
    cases altered with
    | nil => simp [messageBits, byteBits] at h
    | cons byte' altered =>
      obtain ⟨hbyte, hrest⟩ := List.append_inj h (by simp [byteBits])
      rw [byteBits_injective hbyte, ih hrest]

theorem getElem?_messageBits (msg : List UInt8) (j : ℕ) {k : ℕ} (hk : k < 8) :
    (messageBits msg)[8 * j + k]? = msg[j]?.map fun byte => byte.toBitVec.getLsbD k := by
  induction msg generalizing j with
  | nil => rfl
  | cons byte msg ih =>
    have hlen : (byteBits byte).length = 8 := by simp [byteBits]
    have hsplit : messageBits (byte :: msg) = byteBits byte ++ messageBits msg := rfl
    rw [hsplit]
    cases j with
    | zero =>
      rw [List.getElem?_append_left (by omega)]
      simp [byteBits, hk]
    | succ j =>
      rw [List.getElem?_append_right (by omega), hlen, List.getElem?_cons_succ, ← ih]
      congr 1
      omega

/-- The messages differ in the bit that `crc16` takes in at position `i`. -/
def DifferAt (msg altered : List UInt8) (i : ℕ) : Prop :=
  (messageBits msg)[i]? ≠ (messageBits altered)[i]?

/-- The message with a wrong bit at position `i`. -/
def flipBit (msg : List UInt8) (i : ℕ) : List UInt8 :=
  msg.modify (i / 8) (· ^^^ UInt8.ofNat (2 ^ (i % 8)))

@[simp] theorem length_flipBit (msg : List UInt8) (i : ℕ) :
    (flipBit msg i).length = msg.length := by simp [flipBit]

theorem getLsbD_ofNat_two_pow {j k : ℕ} (hk : k < 8) :
    (UInt8.ofNat (2 ^ j)).toBitVec.getLsbD k = decide (j = k) := by
  change (BitVec.ofNat 8 (2 ^ j)).getLsbD k = _
  rw [BitVec.getLsbD_ofNat, Nat.testBit_two_pow]
  simp [hk]

theorem differAt_flipBit_iff {msg : List UInt8} {i : ℕ} (hi : i < 8 * msg.length) (j : ℕ) :
    DifferAt msg (flipBit msg i) j ↔ j = i := by
  unfold DifferAt flipBit
  rw [← Nat.div_add_mod j 8, getElem?_messageBits _ _ (Nat.mod_lt j (by omega)),
    getElem?_messageBits _ _ (Nat.mod_lt j (by omega)), List.getElem?_modify]
  by_cases hbyte : i / 8 = j / 8
  · have hget : msg[j / 8]? = some msg[j / 8] := List.getElem?_eq_getElem (by omega)
    have hsame : i % 8 = j % 8 ↔ 8 * (j / 8) + j % 8 = i := by omega
    have hflips : ∀ b c : Bool, ¬ b = (b ^^ c) ↔ c = true := by decide
    simp [hbyte, hget, getLsbD_ofNat_two_pow (Nat.mod_lt j (by omega)), hsame, hflips]
  · have hother : 8 * (j / 8) + j % 8 ≠ i := by omega
    simp [hbyte, hother]

/-- Messages whose wrong bits lie within 16 positions have different CRCs. -/
theorem crc16_ne_of_window {n : ℕ} (hpos : 1 ≤ n) (hmax : n ≤ 65535) {msg altered : List UInt8}
    (hmsg : msg.length = n) (haltered : altered.length = n) (hne : msg ≠ altered) {start : ℕ}
    (hwindow : ∀ i, DifferAt msg altered i → start ≤ i ∧ i < start + 16) :
    crc16 msg (UInt16.ofNat n) ≠ crc16 altered (UInt16.ofNat n) := by
  have hbits : messageBits msg ≠ messageBits altered := fun h => hne (messageBits_injective h)
  have hlen : (messageBits msg).length = (messageBits altered).length := by
    rw [length_messageBits, length_messageBits, hmsg, haltered]
  have hregister := feedAll_ne_of_window (s := 0xffff#16) crcPoly_msb hlen hbits hwindow
  intro heq
  subst hmsg
  rw [crc16_eq hpos hmax, ← haltered, crc16_eq (by omega) (by omega)] at heq
  apply hregister
  have hfold := congrArg UInt16.toBitVec (crcResult_injective (Option.some.inj heq))
  rwa [toBitVec_foldl_crcByte, toBitVec_foldl_crcByte] at hfold

def xorBytes (a b : List UInt8) : List UInt8 := List.zipWith (· ^^^ ·) a b

theorem byteBits_xor (a b : UInt8) :
    byteBits (a ^^^ b) = List.zipWith xor (byteBits a) (byteBits b) := by
  unfold byteBits
  rw [List.zipWith_map, List.zipWith_self]
  simp

theorem messageBits_xorBytes {a b : List UInt8} (hlen : a.length = b.length) :
    messageBits (xorBytes a b) = List.zipWith xor (messageBits a) (messageBits b) := by
  induction a generalizing b with
  | nil => rfl
  | cons x a ih =>
    cases b with
    | nil => simp at hlen
    | cons y b =>
      have hsplit : ∀ (z : UInt8) (c : List UInt8),
          messageBits (z :: c) = byteBits z ++ messageBits c := fun _ _ => rfl
      change messageBits ((x ^^^ y) :: xorBytes a b) = _
      rw [hsplit, hsplit, hsplit, ih (Nat.succ.inj hlen), byteBits_xor,
        List.zipWith_append (by simp [byteBits])]

theorem foldl_crcByte_xor {a b : List UInt8} (hlen : a.length = b.length) (s t : UInt16) :
    (xorBytes a b).foldl crcByte (s ^^^ t) = a.foldl crcByte s ^^^ b.foldl crcByte t := by
  apply UInt16.toBitVec_inj.mp
  rw [toBitVec_foldl_crcByte, UInt16.toBitVec_xor, UInt16.toBitVec_xor, toBitVec_foldl_crcByte,
    toBitVec_foldl_crcByte, messageBits_xorBytes hlen]
  refine feedAll_xor ?_ _ _
  rw [length_messageBits, length_messageBits, hlen]

def exchanged (crc : UInt16) : UInt16 := (crc <<< 8) ||| (crc >>> 8 &&& 0xff)

theorem exchanged_xor (a b : UInt16) : exchanged (a ^^^ b) = exchanged a ^^^ exchanged b := by
  apply UInt16.toBitVec_inj.mp
  apply BitVec.eq_of_getLsbD_eq
  intro i hi
  obtain ⟨k, hk, rfl⟩ : ∃ k < 16, (k + 8) % 16 = i := ⟨(i + 8) % 16, by omega, by omega⟩
  have hbit : ∀ x : UInt16,
      (exchanged x).toBitVec.getLsbD ((k + 8) % 16) = x.toBitVec.getLsbD k :=
    fun x => getLsbD_exchanged x.toBitVec hk
  rw [UInt16.toBitVec_xor, BitVec.getLsbD_xor, hbit, hbit, hbit, UInt16.toBitVec_xor,
    BitVec.getLsbD_xor]

theorem crcResult_xor (a b : UInt16) : crcResult (a ^^^ b) = exchanged a ^^^ crcResult b := by
  have hnot : ~~~(a ^^^ b) = a ^^^ ~~~b := by
    rw [UInt16.xor_comm, ← UInt16.not_xor, UInt16.xor_comm]
  change exchanged (~~~(a ^^^ b)) = _
  rw [hnot, exchanged_xor]
  rfl

def crcLinear (msg : List UInt8) : UInt16 := exchanged (msg.foldl crcByte 0)

theorem crcLinear_xorBytes {a b : List UInt8} (hlen : a.length = b.length) :
    crcLinear (xorBytes a b) = crcLinear a ^^^ crcLinear b := by
  unfold crcLinear
  rw [← exchanged_xor, ← foldl_crcByte_xor hlen, UInt16.xor_self]

theorem xorBytes_zeros (msg : List UInt8) :
    xorBytes msg (List.replicate msg.length 0) = msg := by
  induction msg with
  | nil => rfl
  | cons byte msg ih => simpa [xorBytes, List.replicate_succ] using ih

theorem crcResult_foldl (msg : List UInt8) :
    crcResult (msg.foldl crcByte 0xffff) =
      crcLinear msg ^^^ crcResult ((List.replicate msg.length 0).foldl crcByte 0xffff) := by
  have hsum := foldl_crcByte_xor (a := msg) (b := List.replicate msg.length 0) (by simp) 0 0xffff
  rw [xorBytes_zeros, UInt16.zero_xor] at hsum
  rw [hsum, crcResult_xor]
  rfl

/-- `crc16` tells messages of one length apart whose wrong bits lie within 16 positions, finds each
wrong bit, and is affine. -/
theorem crc16_bursts_and_affine {n : ℕ} (hpos : 1 ≤ n) (hmax : n ≤ 65535) :
    (∀ msg altered : List UInt8, msg.length = n → altered.length = n → msg ≠ altered →
      ∀ start, (∀ i, DifferAt msg altered i → start ≤ i ∧ i < start + 16) →
        crc16 msg (UInt16.ofNat n) ≠ crc16 altered (UInt16.ofNat n)) ∧
    (∀ msg : List UInt8, msg.length = n → ∀ i < 8 * n,
      crc16 (flipBit msg i) (UInt16.ofNat n) ≠ crc16 msg (UInt16.ofNat n)) ∧
    ∃ (linear : List UInt8 → UInt16) (const : UInt16),
      (∀ a b : List UInt8, a.length = n → b.length = n →
        linear (xorBytes a b) = linear a ^^^ linear b) ∧
      ∀ a : List UInt8, a.length = n →
        crc16 a (UInt16.ofNat n) = some (linear a ^^^ const) := by
  refine ⟨?_, ?_, crcLinear, crcResult ((List.replicate n 0).foldl crcByte 0xffff), ?_, ?_⟩
  · intro msg altered hmsg haltered hne start hwindow
    exact crc16_ne_of_window hpos hmax hmsg haltered hne hwindow
  · intro msg hmsg i hi
    subst hmsg
    have hdiffer := differAt_flipBit_iff hi
    have hne : msg ≠ flipBit msg i := by
      intro heq
      have hself := (hdiffer i).mpr rfl
      rw [← heq] at hself
      exact hself rfl
    have hwindow : ∀ j, DifferAt msg (flipBit msg i) j → i ≤ j ∧ j < i + 16 := by
      intro j hj
      have := (hdiffer j).mp hj
      omega
    exact (crc16_ne_of_window hpos hmax rfl (length_flipBit msg i) hne hwindow).symm
  · intro a b ha hb
    exact crcLinear_xorBytes (ha.trans hb.symm)
  · intro a ha
    subst ha
    rw [crc16_eq hpos hmax, crcResult_foldl]

/-- Two bytes: a burst of 16 bits from the lowest bit of the first on, one bit, and a sum. -/
theorem crc16_bursts_and_affine_two :
    crc16 [0x01, 0x00] 2 ≠ crc16 [0x00, 0x80] 2 ∧
    crc16 (flipBit [0x12, 0x34] 11) 2 ≠ crc16 [0x12, 0x34] 2 ∧
    ∃ (linear : List UInt8 → UInt16) (const : UInt16),
      linear (xorBytes [0x12, 0x34] [0x01, 0x80]) =
        linear [0x12, 0x34] ^^^ linear [0x01, 0x80] ∧
      crc16 [0x12, 0x34] 2 = some (linear [0x12, 0x34] ^^^ const) := by
  obtain ⟨hbursts, hflips, linear, const, hlinear, hcrc⟩ :=
    crc16_bursts_and_affine (n := 2) (by decide) (by decide)
  refine ⟨hbursts [0x01, 0x00] [0x00, 0x80] rfl rfl (by decide) 0 fun i hi => ⟨i.zero_le, ?_⟩,
    hflips [0x12, 0x34] rfl 11 (by decide), linear, const,
    hlinear [0x12, 0x34] [0x01, 0x80] rfl rfl, hcrc [0x12, 0x34] rfl⟩
  by_contra hbehind
  apply hi
  rw [List.getElem?_eq_none, List.getElem?_eq_none]
  · rw [length_messageBits]
    exact Nat.not_lt.mp hbehind
  · rw [length_messageBits]
    exact Nat.not_lt.mp hbehind

end CBUSPicoLib
