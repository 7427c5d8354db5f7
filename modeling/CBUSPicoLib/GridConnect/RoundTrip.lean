import CBUSPicoLib.GridConnect.Codec

/-!
# Decoding what was encoded

`gcText` is the GridConnect text of a frame. `encodeGC` writes it into the
buffer, and `decodeGC` reads the frame back from any buffer that starts with it,
whatever stands behind the text.
-/

namespace CBUSPicoLib

/-- The frames that have a GridConnect text. -/
structure CANFrame.Encodable (f : CANFrame) : Prop where
  len : f.len ≤ 8
  standard : f.ext = false → f.id ≤ 0x7FF
  extended : f.ext = true → f.id ≤ 0x1FFFFFFF

theorem encodable_iff {f : CANFrame} : f.Encodable ↔
    ¬ (8 < f.len ∨ (f.ext = false ∧ 0x7FF < f.id) ∨ (f.ext = true ∧ 0x1FFFFFFF < f.id)) := by
  constructor
  · rintro h (h8 | ⟨he, hi⟩ | ⟨he, hi⟩)
    · exact UInt8.not_lt.mpr h.len h8
    · exact UInt32.not_lt.mpr (h.standard he) hi
    · exact UInt32.not_lt.mpr (h.extended he) hi
  · intro h
    refine ⟨UInt8.not_lt.mp fun h8 => h (Or.inl h8), fun he => UInt32.not_lt.mp fun hi => ?_,
      fun he => UInt32.not_lt.mp fun hi => ?_⟩
    · exact h (Or.inr (Or.inl ⟨he, hi⟩))
    · exact h (Or.inr (Or.inr ⟨he, hi⟩))

instance (f : CANFrame) : Decidable f.Encodable := decidable_of_iff _ encodable_iff.symm

/-- What a frame says: the data bytes behind the length are not part of it. -/
def CANFrame.content (f : CANFrame) : UInt32 × Bool × Bool × UInt8 × List UInt8 :=
  (f.id, f.ext, f.rtr, f.len, f.data.toList.take f.len.toNat)

def idChars (f : CANFrame) : List UInt8 :=
  if f.ext then chX :: extendedId f.id else chS :: standardId f.id

def flagChar (f : CANFrame) : UInt8 := if f.rtr then chR else chN

def flagOffset (f : CANFrame) : ℕ := if f.ext then 10 else 6

def gcText (f : CANFrame) : List UInt8 :=
  [chColon] ++ idChars f ++ [flagChar f] ++ hexData f ++ [chSemicolon]

theorem length_flatMap_hexPair (bs : List UInt8) : (bs.flatMap hexPair).length = 2 * bs.length := by
  induction bs with
  | nil => rfl
  | cons b bs ih =>
    rw [List.flatMap_cons, List.length_append, ih, List.length_cons]
    change 2 + _ = _
    omega

theorem length_hexData {f : CANFrame} (h : f.len ≤ 8) :
    (hexData f).length = 2 * f.len.toNat := by
  have hlen : f.len.toNat ≤ 8 := UInt8.le_iff_toNat_le.mp h
  unfold hexData
  rw [length_flatMap_hexPair, List.length_take, Vector.length_toList]
  omega

theorem length_idChars (f : CANFrame) : (idChars f).length + 1 = flagOffset f := by
  unfold idChars flagOffset
  split_ifs <;> rfl

theorem length_gcText {f : CANFrame} (h : f.len ≤ 8) :
    (gcText f).length = flagOffset f + 2 * f.len.toNat + 2 := by
  have hid := length_idChars f
  simp only [gcText, List.length_append, List.length_cons, List.length_nil, length_hexData h]
  omega

theorem length_gcText_le {f : CANFrame} (h : f.len ≤ 8) : (gcText f).length ≤ 28 := by
  have hlen : f.len.toNat ≤ 8 := UInt8.le_iff_toNat_le.mp h
  rw [length_gcText h]
  unfold flagOffset
  split_ifs <;> omega

theorem toNat_lowNibble (b : UInt8) : (b &&& 0x0f).toNat = b.toNat % 16 := by
  rw [UInt8.toNat_and]
  exact Nat.and_two_pow_sub_one_eq_mod b.toNat 4

theorem toNat_highNibble (b : UInt8) : ((b >>> 4) &&& 0x0f).toNat = b.toNat / 16 := by
  have hb := b.toNat_lt
  rw [toNat_lowNibble, UInt8.toNat_shiftRight, Nat.shiftRight_eq_div_pow]
  change b.toNat / 16 % 16 = b.toNat / 16
  omega

theorem hexChars_spec : ∀ n < 16, isxdigit (hexChars.getD n 0) = true ∧
    islower (hexChars.getD n 0) = false ∧ digitValue (hexChars.getD n 0) = n := by
  decide

theorem hexToUint8_hexChars : ∀ hi < 16, ∀ lo < 16,
    hexToUint8 ⟨hexChars.getD lo 0, hexChars.getD hi 0⟩ = UInt8.ofNat (16 * hi + lo) := by
  decide +kernel

theorem hexToUint8_uint8ToHex (b : UInt8) : hexToUint8 (uint8ToHex b) = b := by
  have hlo := toNat_lowNibble b
  have hhi := toNat_highNibble b
  have hb := b.toNat_lt
  unfold uint8ToHex
  rw [hexToUint8_hexChars _ (by omega) _ (by omega), hlo, hhi]
  apply UInt8.toNat_inj.mp
  rw [UInt8.toNat_ofNat']
  omega

/-- Upper-case hex digits, the only characters `checkHexChars` accepts. -/
def IsHex (c : UInt8) : Prop := isxdigit c = true ∧ islower c = false

theorem IsHex.ne_semicolon {c : UInt8} (h : IsHex c) : c ≠ chSemicolon := by
  rintro rfl
  exact absurd h.1 (by decide)

theorem isHex_hexChars {n : ℕ} (h : n < 16) : IsHex (hexChars.getD n 0) :=
  ⟨(hexChars_spec n h).1, (hexChars_spec n h).2.1⟩

theorem isHex_lowerNibble (b : UInt8) : IsHex (uint8ToHex b).lowerNibble :=
  isHex_hexChars (by rw [toNat_lowNibble]; omega)

theorem isHex_upperNibble (b : UInt8) : IsHex (uint8ToHex b).upperNibble :=
  isHex_hexChars (by rw [toNat_highNibble]; have := b.toNat_lt; omega)

theorem isHex_of_mem_hexPair {b c : UInt8} (h : c ∈ hexPair b) : IsHex c := by
  simp only [hexPair, List.mem_cons, List.not_mem_nil, or_false] at h
  rcases h with rfl | rfl
  · exact isHex_upperNibble b
  · exact isHex_lowerNibble b

theorem isHex_of_mem_hexData {f : CANFrame} {c : UInt8} (h : c ∈ hexData f) : IsHex c := by
  obtain ⟨b, -, hc⟩ := List.mem_flatMap.mp h
  exact isHex_of_mem_hexPair hc

theorem isHex_of_mem_extendedId {id : UInt32} {c : UInt8} (h : c ∈ extendedId id) : IsHex c := by
  simp only [extendedId, List.mem_append, List.mem_cons, List.not_mem_nil, or_false] at h
  rcases h with ((h | rfl | rfl) | h) | h
  · exact isHex_of_mem_hexPair h
  · exact isHex_lowerNibble _
  · exact isHex_lowerNibble _
  · exact isHex_of_mem_hexPair h
  · exact isHex_of_mem_hexPair h

theorem isHex_of_mem_standardId {id : UInt32} {c : UInt8} (h : c ∈ standardId id) : IsHex c := by
  simp only [standardId, List.mem_append] at h
  rcases h with h | h <;> exact isHex_of_mem_hexPair h

namespace GcMessage

theorem put_text {m : GcMessage} {text : List UInt8} (h : text <+: m.byte.toList)
    (hlt : text.length < 28) (c : UInt8) :
    ∃ m', m.put text.length c = some m' ∧ text ++ [c] <+: m'.byte.toList ∧ m'.len = m.len := by
  refine ⟨{ m with byte := m.byte.set text.length c }, dif_pos hlt, ?_, rfl⟩
  obtain ⟨rest, hrest⟩ := h
  have hlen : (text ++ rest).length = 28 := by
    rw [hrest]
    exact Vector.length_toList
  rw [List.length_append] at hlen
  obtain ⟨x, rest', rfl⟩ := List.exists_cons_of_length_pos (by omega : 0 < rest.length)
  change text ++ [c] <+: (m.byte.set text.length c).toList
  rw [Vector.toList_set, ← hrest, List.set_append_right _ _ le_rfl, Nat.sub_self]
  exact ⟨rest', by simp⟩

theorem putChars_text {m : GcMessage} {text : List UInt8} (cs : List UInt8)
    (h : text <+: m.byte.toList) (hle : text.length + cs.length ≤ 28) :
    ∃ m', m.putChars text.length cs = some m' ∧ text ++ cs <+: m'.byte.toList ∧
      m'.len = m.len := by
  induction cs generalizing m text with
  | nil => exact ⟨m, rfl, by rwa [List.append_nil], rfl⟩
  | cons c cs ih =>
    rw [List.length_cons] at hle
    obtain ⟨m1, hput, h1, hlen1⟩ := put_text h (by omega) c
    obtain ⟨m', hputs, h', hlen'⟩ := ih h1 (by
      simp only [List.length_append, List.length_cons, List.length_nil]
      omega)
    refine ⟨m', ?_, by simpa using h', hlen'.trans hlen1⟩
    unfold putChars
    rw [hput, Option.bind_eq_bind, Option.bind_some]
    rw [List.length_append] at hputs
    exact hputs

end GcMessage

theorem encodeGC_text {f : CANFrame} (h : f.Encodable) :
    ∃ m : GcMessage, encodeGC f = some (true, m) ∧ gcText f <+: m.byte.toList ∧
      m.len.toNat = (gcText f).length := by
  have hbound := length_gcText_le h.len
  have hlen := length_gcText h.len
  have hid := length_idChars f
  have hdata := length_hexData h.len
  obtain ⟨m1, hput1, ht1, hl1⟩ := GcMessage.put_text (List.nil_prefix (l := GcMessage.empty.byte.toList))
    (by decide) chColon
  obtain ⟨m2, hput2, ht2, hl2⟩ := GcMessage.putChars_text (idChars f) ht1
    (by simp only [List.length_append, List.length_cons, List.length_nil]; omega)
  have hlen2 : ([] ++ [chColon] ++ idChars f).length = flagOffset f := by
    simp only [List.length_append, List.length_cons, List.length_nil]
    omega
  obtain ⟨m3, hput3, ht3, hl3⟩ := GcMessage.put_text ht2 (by omega) (flagChar f)
  have hlen3 : ([] ++ [chColon] ++ idChars f ++ [flagChar f]).length = flagOffset f + 1 := by
    rw [List.length_append, hlen2]
    rfl
  obtain ⟨m4, hput4, ht4, hl4⟩ := GcMessage.putChars_text (hexData f) ht3 (by omega)
  have hlen4 : ([] ++ [chColon] ++ idChars f ++ [flagChar f] ++ hexData f).length =
      flagOffset f + 1 + 2 * f.len.toNat := by
    rw [List.length_append, hlen3, hdata]
  obtain ⟨m5, hput5, ht5, hl5⟩ := GcMessage.put_text ht4 (by omega) chSemicolon
  rw [hlen2] at hput3
  rw [hlen3] at hput4
  rw [hlen4] at hput5
  refine ⟨{ m5 with len := UInt8.ofNat (flagOffset f + 1 + 2 * f.len.toNat + 1) }, ?_, ht5, ?_⟩
  · unfold encodeGC
    rw [if_neg (encodable_iff.mp h)]
    change (do
      let m ← GcMessage.empty.put 0 chColon
      let m ← m.putChars 1 (idChars f)
      let m ← m.put (flagOffset f) (flagChar f)
      let m ← m.putChars (flagOffset f + 1) (hexData f)
      let m ← m.put (flagOffset f + 1 + 2 * f.len.toNat) chSemicolon
      return (true, { m with len := UInt8.ofNat (flagOffset f + 1 + 2 * f.len.toNat + 1) })) = _
    have hput1' : GcMessage.empty.put 0 chColon = some m1 := hput1
    have hput2' : m1.putChars 1 (idChars f) = some m2 := hput2
    simp only [Option.bind_eq_bind, hput1', Option.bind_some, hput2', hput3, hput4, hput5]
    rfl
  · change (UInt8.ofNat _).toNat = _
    rw [UInt8.toNat_ofNat', hlen]
    omega

theorem encodeGC_refused {f : CANFrame} (h : ¬ f.Encodable) : encodeGC f = some (false, .empty) := by
  unfold encodeGC
  rw [if_pos (not_not.mp (mt encodable_iff.mpr h))]

namespace GcMessage

variable {m : GcMessage} {before cs behind : List UInt8}

theorem byte_of_text {c : UInt8} (h : before ++ c :: behind <+: m.byte.toList) :
    m.byte[before.length]? = some c := by
  obtain ⟨rest, hrest⟩ := h
  rw [← Vector.getElem?_toList, ← hrest, List.append_assoc, List.getElem?_append_right le_rfl,
    Nat.sub_self]
  rfl

theorem checkHexChars_text (h : before ++ cs ++ behind <+: m.byte.toList)
    (hhex : ∀ c ∈ cs, IsHex c) : m.checkHexChars before.length cs.length = some true := by
  induction cs generalizing before with
  | nil => rfl
  | cons c cs ih =>
    obtain ⟨hx, hl⟩ := hhex c List.mem_cons_self
    have hget := byte_of_text (by simpa using h : before ++ c :: (cs ++ behind) <+: _)
    have hrest := @ih (before ++ [c]) (by simpa using h) fun d hd =>
      hhex d (List.mem_cons_of_mem _ hd)
    rw [List.length_append] at hrest
    rw [List.length_cons]
    unfold checkHexChars
    rw [hget, Option.bind_eq_bind, Option.bind_some, hx, hl]
    exact hrest

theorem hexByte_text {u l : UInt8} (h : before ++ u :: l :: behind <+: m.byte.toList) :
    m.hexByte before.length = hexToUint8 ⟨l, u⟩ := by
  have hl := byte_of_text (by simpa using h : (before ++ [u]) ++ l :: behind <+: _)
  rw [List.length_append] at hl
  unfold hexByte
  rw [byte_of_text h, show before.length + 1 = before.length + [u].length from rfl, hl]
  rfl

theorem hexByte_hexPair {b : UInt8} (h : before ++ hexPair b ++ behind <+: m.byte.toList) :
    m.hexByte before.length = b := by
  rw [hexByte_text (by simpa [hexPair] using h : before ++ _ :: _ :: behind <+: _)]
  exact hexToUint8_uint8ToHex b

end GcMessage

theorem decodeBytes_text {m : GcMessage} {behind : List UInt8} (bs : List UInt8)
    {before : List UInt8} {i : ℕ} {data : Vector UInt8 8}
    (h : before ++ bs.flatMap hexPair ++ behind <+: m.byte.toList) (hi : i + bs.length ≤ 8) :
    ∃ data' : Vector UInt8 8, decodeBytes m data before.length i bs.length = some (some data') ∧
      ∀ (p : ℕ) (hp : p < 8), data'[p] =
        if i ≤ p ∧ p < i + bs.length then bs.getD (p - i) 0 else data[p] := by
  induction bs generalizing before i data with
  | nil =>
    refine ⟨data, rfl, fun p hp => ?_⟩
    rw [if_neg]
    rw [List.length_nil]
    omega
  | cons b bs ih =>
    rw [List.length_cons] at hi
    have hpair : before ++ hexPair b ++ (bs.flatMap hexPair ++ behind) <+: m.byte.toList := by
      simpa using h
    have hhex := GcMessage.checkHexChars_text hpair fun c hc => isHex_of_mem_hexPair hc
    have hbyte := GcMessage.hexByte_hexPair hpair
    obtain ⟨data', hrest, hdata⟩ := @ih (before ++ hexPair b) (i + 1) (data.set i b)
      (by simpa using h) (by omega)
    refine ⟨data', ?_, fun p hp => ?_⟩
    · rw [List.length_cons]
      unfold decodeBytes
      rw [show 2 = (hexPair b).length from rfl, hhex, Option.bind_eq_bind, Option.bind_some,
        if_pos rfl, dif_pos (by omega), hbyte]
      rw [List.length_append] at hrest
      exact hrest
    · rw [hdata p hp, List.length_cons]
      by_cases hpi : p = i
      · subst hpi
        rw [if_neg (by omega), if_pos (by omega), Nat.sub_self, Vector.getElem_set_self]
        rfl
      · rw [Vector.getElem_set_ne _ _ (Ne.symm hpi)]
        by_cases hin : i + 1 ≤ p ∧ p < i + 1 + bs.length
        · rw [if_pos hin, if_pos (by omega), show p - i = p - (i + 1) + 1 by omega,
            List.getD_cons_succ]
        · rw [if_neg hin, if_neg (by omega)]

/-- The data bytes of the frame, over what the given frame holds. -/
def overlay (f canMsg : CANFrame) : CANFrame where
  id := f.id
  ext := f.ext
  rtr := f.rtr
  len := f.len
  data := Vector.ofFn fun p => if p.val < f.len.toNat then f.data[p] else canMsg.data[p]

theorem eq_overlay_data {f canMsg : CANFrame} {data : Vector UInt8 8}
    (h : ∀ (p : ℕ) (hp : p < 8), data[p] = if 0 ≤ p ∧ p < 0 + f.len.toNat then
      (f.data.toList.take f.len.toNat).getD (p - 0) 0 else canMsg.data[p]) :
    data = (overlay f canMsg).data := by
  apply Vector.ext
  intro p hp
  rw [h p hp]
  unfold overlay
  rw [Vector.getElem_ofFn]
  by_cases hin : p < f.len.toNat
  · rw [if_pos (by omega), if_pos hin, Nat.sub_zero, List.getD_eq_getElem?_getD,
      List.getElem?_take_of_lt hin, Vector.getElem?_toList, Vector.getElem?_eq_getElem hp]
    rfl
  · rw [if_neg (by omega), if_neg hin]
    rfl

theorem flagChar_eq (f : CANFrame) :
    (flagChar f = chR ∨ flagChar f = chN) ∧ decide (flagChar f = chR) = f.rtr := by
  unfold flagChar
  cases f.rtr <;> decide

/-- Two characters for each data byte: the length check passes and finds their number. -/
theorem dataLength_spec {n : ℕ} (h : n ≤ 8) :
    ¬ ((2 * (n : ℤ)).tmod 2 ≠ 0 ∨ 16 < 2 * (n : ℤ)) ∧
      (UInt8.ofNat ((2 * (n : ℤ)).tdiv 2 % 256).toNat).toNat = n := by
  constructor
  · rintro (hodd | hbig)
    · exact hodd (Int.mul_tmod_right 2 _)
    · omega
  · rw [UInt8.toNat_ofNat', Int.tdiv_eq_ediv_of_nonneg (by omega)]
    omega

theorem decodeData_text {f : CANFrame} (hf : f.len ≤ 8) {m : GcMessage}
    (h : gcText f <+: m.byte.toList) (hlen : m.len.toNat = (gcText f).length) (canMsg : CANFrame) :
    decodeData m (flagOffset f) { canMsg with ext := f.ext, id := f.id } =
      some (some (overlay f canMsg)) := by
  have h8 : f.len.toNat ≤ 8 := UInt8.le_iff_toNat_le.mp hf
  have hid : ([chColon] ++ idChars f).length = flagOffset f := by
    rw [List.length_append, ← length_idChars f, Nat.add_comm]
    rfl
  have hcount : (f.data.toList.take f.len.toNat).length = f.len.toNat := by
    rw [List.length_take, Vector.length_toList]
    omega
  have hflag : m.byte[flagOffset f]? = some (flagChar f) := by
    rw [← hid]
    exact GcMessage.byte_of_text (by simpa [gcText] using h :
      ([chColon] ++ idChars f) ++ flagChar f :: (hexData f ++ [chSemicolon]) <+: _)
  have hgt := length_gcText hf
  have hlength : (m.len.toNat : ℤ) - ((flagOffset f + 1 : ℕ) : ℤ) - 1 = 2 * (f.len.toNat : ℤ) := by
    rw [hlen, hgt]
    push_cast
    ring
  obtain ⟨heven, hcountByte⟩ := dataLength_spec h8
  have hlenByte : UInt8.ofNat ((2 * (f.len.toNat : ℤ)).tdiv 2 % 256).toNat = f.len :=
    UInt8.toNat_inj.mp hcountByte
  obtain ⟨data, hdata, hbytes⟩ := @decodeBytes_text m [chSemicolon]
    (f.data.toList.take f.len.toNat) ([chColon] ++ idChars f ++ [flagChar f]) 0 canMsg.data
    (by simpa [gcText, hexData] using h) (by omega)
  rw [hcount, List.length_append, hid] at hdata
  have hlast : m.byte[m.len.toNat - 1]? = some chSemicolon := by
    have hpre : ([chColon] ++ idChars f ++ [flagChar f] ++ hexData f) ++ chSemicolon :: [] <+:
        m.byte.toList := h
    have := GcMessage.byte_of_text hpre
    rwa [show ([chColon] ++ idChars f ++ [flagChar f] ++ hexData f).length = m.len.toNat - 1 by
      rw [hlen]
      simp [gcText]
      omega] at this
  have hpos : 0 < m.len := by
    rw [UInt8.lt_iff_toNat_lt, hlen, hgt]
    exact Nat.succ_pos _
  have hoverlay := eq_overlay_data fun p hp => hcount ▸ hbytes p hp
  obtain ⟨hchar, hrtr⟩ := flagChar_eq f
  unfold decodeData
  rw [hflag, Option.bind_eq_bind, Option.bind_some, if_pos hchar]
  dsimp only
  rw [hlength, if_neg heven, hlenByte,
    show flagOffset f + 1 = flagOffset f + [flagChar f].length from rfl, hdata]
  simp only [Option.bind_eq_bind, Option.bind_some, if_pos hpos, hlast, if_true, hrtr, hoverlay]
  rfl

section Identifier

variable {m : GcMessage} {behind : List UInt8} {id : UInt32}

theorem toNat_and_two_pow (a : UInt32) (k : ℕ) (hk : k < 32) :
    (a &&& UInt32.ofNat (2 ^ k - 1)).toNat = a.toNat % 2 ^ k := by
  have hlt : 2 ^ k ≤ 2 ^ 31 := Nat.pow_le_pow_right (by omega) (by omega)
  rw [UInt32.toNat_and, UInt32.toNat_ofNat', Nat.mod_eq_of_lt (by omega)]
  exact Nat.and_two_pow_sub_one_eq_mod _ _

theorem highByte_mask (n : ℕ) : (n &&& 0xff00) >>> 8 = n / 256 % 256 := by
  rw [Nat.shiftRight_eq_div_pow, Nat.and_div_two_pow]
  exact Nat.and_two_pow_sub_one_eq_mod (n / 2 ^ 8) 8

/-- The two digits between the identifier bytes carry bits 18 to 20 and bits 16 and 17. -/
theorem toNat_middleDigits (id : UInt32) :
    ((id >>> 17) &&& 0xE).toUInt8.toNat = 2 * (id.toNat / 2 ^ 18 % 8) ∧
      ((id >>> 16) &&& 0x3).toUInt8.toNat = id.toNat / 2 ^ 16 % 4 := by
  constructor
  · rw [UInt32.toNat_toUInt8, UInt32.toNat_and, UInt32.toNat_shiftRight, Nat.shiftRight_eq_div_pow]
    change (id.toNat / 2 ^ 17 &&& 14) % 2 ^ 8 = 2 * (id.toNat / 2 ^ 18 % 8)
    have hhalf : (id.toNat / 2 ^ 17 &&& 14) / 2 = id.toNat / 2 ^ 17 / 2 &&& (2 ^ 3 - 1) :=
      Nat.and_div_two
    have heven : (id.toNat / 2 ^ 17 &&& 14) % 2 = 0 := by
      have := @Nat.and_mod_two_pow (id.toNat / 2 ^ 17) 14 1
      simpa using this
    rw [Nat.and_two_pow_sub_one_eq_mod] at hhalf
    omega
  · rw [UInt32.toNat_toUInt8, show (0x3 : UInt32) = UInt32.ofNat (2 ^ 2 - 1) from rfl,
      toNat_and_two_pow _ 2 (by omega), UInt32.toNat_shiftRight, Nat.shiftRight_eq_div_pow]
    change id.toNat / 2 ^ 16 % 4 % 256 = _
    omega

/-- The masks of the decoder split a digit pair the way the encoder joined it. -/
theorem middleByte_masks : ∀ p < 8, ∀ q < 4,
    (UInt8.ofNat (16 * (2 * p) + q) &&& 0xE0).toNat = 32 * p ∧
      (UInt8.ofNat (16 * (2 * p) + q) &&& 0x3).toNat = q := by
  decide

theorem hexByte_fields {a b c u l : UInt8}
    (h : [chColon, chX] ++ (hexPair a ++ [u, l] ++ hexPair b ++ hexPair c) ++ behind <+:
      m.byte.toList) :
    m.hexByte 2 = a ∧ m.hexByte 4 = hexToUint8 ⟨l, u⟩ ∧ m.hexByte 6 = b ∧ m.hexByte 8 = c := by
  have ha : [chColon, chX] ++ hexPair a ++ ([u, l] ++ hexPair b ++ hexPair c ++ behind) <+:
      m.byte.toList := by
    simpa only [List.append_assoc, List.cons_append, List.nil_append] using h
  have hul : ([chColon, chX] ++ hexPair a) ++ u :: l :: (hexPair b ++ hexPair c ++ behind) <+:
      m.byte.toList := by
    simpa only [List.append_assoc, List.cons_append, List.nil_append] using h
  have hb : ([chColon, chX] ++ hexPair a ++ [u, l]) ++ hexPair b ++ (hexPair c ++ behind) <+:
      m.byte.toList := by
    simpa only [List.append_assoc, List.cons_append, List.nil_append] using h
  have hc : ([chColon, chX] ++ hexPair a ++ [u, l] ++ hexPair b) ++ hexPair c ++ behind <+:
      m.byte.toList := by
    simpa only [List.append_assoc, List.cons_append, List.nil_append] using h
  exact ⟨GcMessage.hexByte_hexPair ha, GcMessage.hexByte_text hul, GcMessage.hexByte_hexPair hb,
    GcMessage.hexByte_hexPair hc⟩

theorem extendedId_decoded (hid : id.toNat < 2 ^ 29)
    (h : [chColon, chX] ++ extendedId id ++ behind <+: m.byte.toList) :
    (m.hexByte 2).toUInt32 <<< 21 + (m.hexByte 4 &&& 0xE0).toUInt32 <<< 13 +
      (m.hexByte 4 &&& 0x3).toUInt32 <<< 16 + (m.hexByte 6).toUInt32 <<< 8 +
      (m.hexByte 8).toUInt32 = id := by
  obtain ⟨h2, h4, h6, h8⟩ := hexByte_fields h
  obtain ⟨hhigh, hlow⟩ := toNat_middleDigits id
  have hp : id.toNat / 2 ^ 18 % 8 < 8 := Nat.mod_lt _ (by omega)
  have hq : id.toNat / 2 ^ 16 % 4 < 4 := Nat.mod_lt _ (by omega)
  have hmiddle : m.hexByte 4 =
      UInt8.ofNat (16 * (2 * (id.toNat / 2 ^ 18 % 8)) + id.toNat / 2 ^ 16 % 4) := by
    rw [h4]
    unfold uint8ToHex
    rw [hexToUint8_hexChars _ (by rw [toNat_lowNibble]; omega) _ (by rw [toNat_lowNibble]; omega),
      toNat_lowNibble, toNat_lowNibble, hhigh, hlow]
    congr 1
    omega
  obtain ⟨hE0, h3⟩ := middleByte_masks _ hp _ hq
  rw [← hmiddle] at hE0 h3
  have ha : (m.hexByte 2).toNat = id.toNat / 2 ^ 21 := by
    rw [h2, UInt32.toNat_toUInt8, UInt32.toNat_shiftRight, Nat.shiftRight_eq_div_pow]
    change id.toNat / 2 ^ 21 % 256 = _
    omega
  have hb : (m.hexByte 6).toNat = id.toNat / 256 % 256 := by
    rw [h6, UInt32.toNat_toUInt8, UInt32.toNat_shiftRight, UInt32.toNat_and]
    change ((id.toNat &&& 0xff00) >>> 8) % 256 = _
    rw [highByte_mask, Nat.mod_mod]
  have hc : (m.hexByte 8).toNat = id.toNat % 256 := by
    rw [h8, UInt32.toNat_toUInt8, show (0x00ff : UInt32) = UInt32.ofNat (2 ^ 8 - 1) from rfl,
      toNat_and_two_pow _ 8 (by omega)]
    omega
  apply UInt32.toNat_inj.mp
  simp only [UInt32.toNat_add, UInt32.toNat_shiftLeft, UInt8.toNat_toUInt32, ha, hE0, h3, hb, hc,
    Nat.shiftLeft_eq]
  change ((((id.toNat / 2 ^ 21 * 2 ^ 21 % 2 ^ 32 + 32 * (id.toNat / 2 ^ 18 % 8) * 2 ^ 13 % 2 ^ 32) %
    2 ^ 32 + id.toNat / 2 ^ 16 % 4 * 2 ^ 16 % 2 ^ 32) % 2 ^ 32 +
    id.toNat / 256 % 256 * 2 ^ 8 % 2 ^ 32) % 2 ^ 32 + id.toNat % 256) % 2 ^ 32 = id.toNat
  omega

theorem standardId_bytes (hid : id ≤ 0x7FF) :
    ∃ hi lo : UInt8, standardId id = hexPair hi ++ hexPair lo ∧
      256 * hi.toNat + lo.toNat = 32 * id.toNat := by
  have hid' : id.toNat ≤ 0x7FF := UInt32.le_iff_toNat_le.mp hid
  have hcanId : (id <<< 5).toUInt16.toNat = 32 * id.toNat := by
    rw [UInt32.toNat_toUInt16, UInt32.toNat_shiftLeft, Nat.shiftLeft_eq]
    change id.toNat * 2 ^ 5 % 2 ^ 32 % 2 ^ 16 = _
    omega
  refine ⟨_, _, rfl, ?_⟩
  rw [UInt16.toNat_toUInt8, UInt16.toNat_toUInt8, UInt16.toNat_shiftRight, UInt16.toNat_and,
    UInt16.toNat_and, hcanId]
  have hlow : 32 * id.toNat &&& 0xff = 32 * id.toNat % 256 :=
    Nat.and_two_pow_sub_one_eq_mod _ 8
  change 256 * (((32 * id.toNat &&& 0xff00) >>> 8) % 256) + (32 * id.toNat &&& 0xff) % 256 = _
  rw [highByte_mask, hlow]
  omega

theorem digits_hexPair (b : UInt8) :
    isxdigit (uint8ToHex b).upperNibble = true ∧ isxdigit (uint8ToHex b).lowerNibble = true ∧
      16 * digitValue (uint8ToHex b).upperNibble + digitValue (uint8ToHex b).lowerNibble =
        b.toNat := by
  have hb := b.toNat_lt
  have hup := hexChars_spec ((b >>> 4) &&& 0x0f).toNat (by rw [toNat_highNibble]; omega)
  have hlo := hexChars_spec (b &&& 0x0f).toNat (by rw [toNat_lowNibble]; omega)
  refine ⟨hup.1, hlo.1, ?_⟩
  change 16 * digitValue (hexChars.getD _ 0) + digitValue (hexChars.getD _ 0) = _
  rw [hup.2.2, hlo.2.2, toNat_highNibble, toNat_lowNibble]
  omega

theorem strtol16_text {hi lo flag : UInt8} {rest : List UInt8} (hflag : isxdigit flag = false) :
    strtol16 (hexPair hi ++ hexPair lo ++ flag :: rest) = some (256 * hi.toNat + lo.toNat) := by
  obtain ⟨hhu, hhl, hhi⟩ := digits_hexPair hi
  obtain ⟨hlu, hll, hlo⟩ := digits_hexPair lo
  have hdigits : (hexPair hi ++ hexPair lo ++ flag :: rest).takeWhile isxdigit =
      hexPair hi ++ hexPair lo := by
    simp [hexPair, hhu, hhl, hlu, hll, hflag]
  have hbhi := hi.toNat_lt
  have hblo := lo.toNat_lt
  unfold strtol16
  rw [hdigits]
  dsimp only
  rw [if_pos (by simp)]
  simp only [hexPair, List.cons_append, List.nil_append, List.foldl_cons, List.foldl_nil]
  congr 1
  omega

end Identifier

theorem gcText_eq (f : CANFrame) : gcText f =
    chColon :: (if f.ext then chX else chS) ::
      ((if f.ext then extendedId f.id else standardId f.id) ++
        flagChar f :: (hexData f ++ [chSemicolon])) := by
  unfold gcText idChars
  split_ifs <;> simp

/-- Decoding a buffer that starts with the text of a frame yields the frame. -/
theorem decodeGC_text {f : CANFrame} (hf : f.Encodable) {m : GcMessage}
    (h : gcText f <+: m.byte.toList) (hlen : m.len.toNat = (gcText f).length) (canMsg : CANFrame) :
    decodeGC m canMsg = some (some (overlay f canMsg)) := by
  have hbound := length_gcText_le hf.len
  have hdata := decodeData_text hf.len h hlen canMsg
  have hle : ¬ 28 < m.len := by
    rw [UInt8.lt_iff_toNat_lt, hlen]
    exact not_lt.mpr hbound
  rw [gcText_eq] at h
  have hfirst : m.byte.get 0 = chColon :=
    Option.some.inj ((Vector.getElem?_eq_getElem _).symm.trans
      (@GcMessage.byte_of_text m [] _ _ h))
  have hsecond : m.byte.get 1 = if f.ext then chX else chS :=
    Option.some.inj ((Vector.getElem?_eq_getElem _).symm.trans
      (@GcMessage.byte_of_text m [chColon] _ _ h))
  unfold decodeGC
  rw [if_neg hle, if_neg (not_not.mpr hfirst)]
  unfold flagOffset at hdata
  cases hext : f.ext with
  | true =>
    simp only [hext, if_true] at h hsecond hdata
    have hid : f.id.toNat < 2 ^ 29 :=
      Nat.lt_succ_of_le (UInt32.le_iff_toNat_le.mp (hf.extended hext))
    have htext : [chColon, chX] ++ extendedId f.id ++ flagChar f :: (hexData f ++ [chSemicolon]) <+:
        m.byte.toList := h
    have hhex := GcMessage.checkHexChars_text htext fun c hc => isHex_of_mem_extendedId hc
    rw [if_pos hsecond]
    change m.checkHexChars 2 8 = some true at hhex
    rw [hhex, Option.bind_eq_bind, Option.bind_some, if_pos rfl, ← hdata]
    dsimp only
    rw [extendedId_decoded hid htext]
  | false =>
    simp only [hext, Bool.false_eq_true, if_false] at h hsecond hdata
    have htext : [chColon, chS] ++ standardId f.id ++ flagChar f :: (hexData f ++ [chSemicolon]) <+:
        m.byte.toList := h
    have hhex := GcMessage.checkHexChars_text htext fun c hc => isHex_of_mem_standardId hc
    change m.checkHexChars 2 4 = some true at hhex
    obtain ⟨hi, lo, hbytes, hvalue⟩ := standardId_bytes (hf.standard hext)
    obtain ⟨rest, hrest⟩ := htext
    have hflag : isxdigit (flagChar f) = false := by
      unfold flagChar
      cases f.rtr <;> rfl
    have hdrop : m.byte.toList.drop 2 = hexPair hi ++ hexPair lo ++ flagChar f ::
        (hexData f ++ [chSemicolon] ++ rest) := by
      rw [← hrest, hbytes]
      simp
    have hshift : UInt32.ofNat ((256 * hi.toNat + lo.toNat) >>> 5) = f.id := by
      rw [hvalue, Nat.shiftRight_eq_div_pow, Nat.mul_div_cancel_left _ (by omega)]
      exact UInt32.ofNat_toNat
    rw [if_neg (by rw [hsecond]; decide), if_pos hsecond, hhex, Option.bind_eq_bind,
      Option.bind_some, if_pos rfl, hdrop, strtol16_text hflag, Option.bind_eq_bind,
      Option.bind_some, hshift, ← hdata]

theorem content_overlay (f canMsg : CANFrame) : (overlay f canMsg).content = f.content := by
  have hdata : (overlay f canMsg).data.toList.take f.len.toNat =
      f.data.toList.take f.len.toNat := by
    apply List.ext_getElem?
    intro p
    rw [List.getElem?_take, List.getElem?_take]
    split_ifs with hp
    · rw [Vector.getElem?_toList, Vector.getElem?_toList]
      by_cases hp8 : p < 8
      · rw [Vector.getElem?_eq_getElem hp8, Vector.getElem?_eq_getElem hp8]
        unfold overlay
        rw [Vector.getElem_ofFn, if_pos hp]
        rfl
      · rw [Vector.getElem?_eq_none (not_lt.mp hp8), Vector.getElem?_eq_none (not_lt.mp hp8)]
    · rfl
  unfold CANFrame.content
  exact congrArg _ (congrArg _ (congrArg _ (congrArg _ hdata)))

/-- Decoding undoes encoding for every frame that has a text; all others are refused. -/
theorem gridConnect_roundTrip (f canMsg : CANFrame) :
    (f.Encodable → ∃ m : GcMessage, encodeGC f = some (true, m) ∧
      ∃ g : CANFrame, decodeGC m canMsg = some (some g) ∧ g.content = f.content) ∧
    (¬ f.Encodable → ∃ m : GcMessage, encodeGC f = some (false, m)) := by
  constructor
  · intro hf
    obtain ⟨m, hencode, htext, hlen⟩ := encodeGC_text hf
    exact ⟨m, hencode, overlay f canMsg, decodeGC_text hf htext hlen canMsg,
      content_overlay f canMsg⟩
  · intro hf
    exact ⟨_, encodeGC_refused hf⟩

end CBUSPicoLib
