import Mathlib.Data.List.TakeWhile
import CBUSPicoLib.GridConnect.RoundTrip

/-!
# Decoding what was received

A message whose last character is `;` is decoded without an access outside an
array, whatever its other characters are. The conditions under which a frame comes
out are stated for the characters at their positions; the frame has the length of
its own text and an identifier that fits its kind.
-/

namespace CBUSPicoLib

namespace GcMessage

/-- A message as it is cut out of the stream. -/
structure Terminated (m : GcMessage) : Prop where
  pos : 0 < m.len.toNat
  le : m.len.toNat ≤ 28
  last : m.byte[m.len.toNat - 1]? = some chSemicolon

theorem exists_byte (m : GcMessage) {i : ℕ} (h : i < 28) : ∃ c, m.byte[i]? = some c :=
  ⟨m.byte[i], Vector.getElem?_eq_getElem h⟩

/-- Upper-case hex digits stand at these positions. -/
def HexAt (m : GcMessage) (start count : ℕ) : Prop :=
  ∀ i, start ≤ i → i < start + count → ∃ c, m.byte[i]? = some c ∧ IsHex c

theorem hexAt_zero (m : GcMessage) (start : ℕ) : m.HexAt start 0 := by
  intro i hi hlt
  omega

theorem hexAt_add (m : GcMessage) (start a b : ℕ) :
    m.HexAt start (a + b) ↔ m.HexAt start a ∧ m.HexAt (start + a) b := by
  constructor
  · intro h
    exact ⟨fun i hi hlt => h i hi (by omega), fun i hi hlt => h i (by omega) (by omega)⟩
  · rintro ⟨hleft, hright⟩ i hi hlt
    rcases Nat.lt_or_ge i (start + a) with hia | hia
    · exact hleft i hi hia
    · exact hright i hia (by omega)

theorem checkHexChars_total (m : GcMessage) {start count : ℕ} (h : start + count ≤ 28) :
    ∃ hex : Bool, m.checkHexChars start count = some hex ∧
      (hex = true ↔ m.HexAt start count) := by
  induction count generalizing start with
  | zero => exact ⟨true, rfl, by simpa using m.hexAt_zero start⟩
  | succ count ih =>
    obtain ⟨c, hc⟩ := m.exists_byte (show start < 28 by omega)
    obtain ⟨hex, hrest, hiff⟩ := @ih (start + 1) (by omega)
    unfold checkHexChars
    rw [hc, Option.bind_eq_bind, Option.bind_some]
    by_cases hx : IsHex c
    · refine ⟨hex, ?_, hiff.trans ⟨fun hall i hi hlt => ?_, fun hall i hi hlt => ?_⟩⟩
      · rw [hx.1, hx.2]
        exact hrest
      · rcases hi.eq_or_lt with rfl | hi
        · exact ⟨c, hc, hx⟩
        · exact hall i hi (by omega)
      · exact hall i (by omega) (by omega)
    · refine ⟨false, ?_, ?_⟩
      · rw [if_pos]
        unfold IsHex at hx
        cases hlow : islower c with
        | true => rfl
        | false =>
          rw [hlow] at hx
          simpa using hx
      · simp only [Bool.false_eq_true, false_iff]
        intro hall
        obtain ⟨d, hd, hdx⟩ := hall start le_rfl (by omega)
        rw [hc] at hd
        exact hx (Option.some.inj hd ▸ hdx)

end GcMessage

theorem decodeBytes_total (m : GcMessage) {data : Vector UInt8 8} {offset i count : ℕ}
    (hi : i + count ≤ 8) (hoff : offset + 2 * count ≤ 28) :
    ∃ r, decodeBytes m data offset i count = some r ∧
      (r.isSome = true ↔ m.HexAt offset (2 * count)) := by
  induction count generalizing data offset i with
  | zero => exact ⟨_, rfl, by simpa using m.hexAt_zero offset⟩
  | succ count ih =>
    obtain ⟨hex, hcheck, hiff⟩ := m.checkHexChars_total (show offset + 2 ≤ 28 by omega)
    have hsplit : m.HexAt offset (2 * (count + 1)) ↔
        m.HexAt offset 2 ∧ m.HexAt (offset + 2) (2 * count) := by
      rw [Nat.mul_succ, Nat.add_comm]
      exact m.hexAt_add offset 2 (2 * count)
    unfold decodeBytes
    rw [hcheck, Option.bind_eq_bind, Option.bind_some, dif_pos (by omega), hsplit, ← hiff]
    cases hex with
    | true => simpa using ih (by omega) (by omega)
    | false => exact ⟨none, rfl, by simp⟩

theorem GcMessage.Terminated.ne_last {m : GcMessage} (h : m.Terminated) {i : ℕ} {c : UInt8}
    (hc : m.byte[i]? = some c) (hne : c ≠ chSemicolon) : i ≠ m.len.toNat - 1 := by
  rintro rfl
  exact hne (Option.some.inj (hc.symm.trans h.last))

theorem GcMessage.Terminated.lt_len {m : GcMessage} (h : m.Terminated) {offset : ℕ}
    (hne : ∀ i < offset, ∃ c, m.byte[i]? = some c ∧ c ≠ chSemicolon) : offset < m.len.toNat := by
  have hpos := h.pos
  by_contra hle
  obtain ⟨c, hc, hcne⟩ := hne (m.len.toNat - 1) (by omega)
  exact h.ne_last hc hcne rfl

/-- Flag, hex digits for at most eight bytes and the last character stand behind the identifier. -/
def GcMessage.Tail (m : GcMessage) (offset : ℕ) : Prop :=
  (m.byte[offset]? = some chR ∨ m.byte[offset]? = some chN) ∧
    ∃ n ≤ 8, m.len.toNat = offset + 2 * n + 2 ∧ m.HexAt (offset + 1) (2 * n)

/-- Behind the identifier nothing is read or written outside, a frame comes out of a proper tail
and of no other, and its length is that of the text. -/
theorem decodeData_total {m : GcMessage} (hm : m.Terminated) {offset : ℕ}
    (hoff : offset < m.len.toNat) (canMsg : CANFrame) :
    ∃ r, decodeData m offset canMsg = some r ∧ (r.isSome = true ↔ m.Tail offset) ∧ ∀ g ∈ r,
      g.ext = canMsg.ext ∧ g.id = canMsg.id ∧ m.len.toNat = offset + 2 * g.len.toNat + 2 := by
  have hle := hm.le
  obtain ⟨flag, hflag⟩ := m.exists_byte (show offset < 28 by omega)
  have hrefused : ¬ m.Tail offset → ∃ r : Option CANFrame, some none = some r ∧
      (r.isSome = true ↔ m.Tail offset) ∧ ∀ g ∈ r,
      g.ext = canMsg.ext ∧ g.id = canMsg.id ∧ m.len.toNat = offset + 2 * g.len.toNat + 2 :=
    fun ht => ⟨none, rfl, by simp [ht], by simp⟩
  unfold decodeData
  rw [hflag, Option.bind_eq_bind, Option.bind_some]
  by_cases hchar : flag = chR ∨ flag = chN
  · have hlast : offset ≠ m.len.toNat - 1 :=
      hm.ne_last hflag (by rcases hchar with rfl | rfl <;> decide)
    rw [if_pos hchar]
    dsimp only
    by_cases hodd : ((m.len.toNat : ℤ) - ((offset + 1 : ℕ) : ℤ) - 1).tmod 2 ≠ 0 ∨
        16 < (m.len.toNat : ℤ) - ((offset + 1 : ℕ) : ℤ) - 1
    · rw [if_pos hodd]
      apply hrefused
      rintro ⟨-, n, hn, hlen, -⟩
      apply (dataLength_spec hn).1
      rwa [show (m.len.toNat : ℤ) - ((offset + 1 : ℕ) : ℤ) - 1 = 2 * n by omega] at hodd
    · obtain ⟨heven, h16⟩ := not_or.mp hodd
      -- the flag stands before the last character, so the data length is not negative
      obtain ⟨n, hn⟩ : ∃ n : ℕ, (m.len.toNat : ℤ) - ((offset + 1 : ℕ) : ℤ) - 1 = 2 * n := by
        rw [Int.tmod_eq_emod_of_nonneg (by omega)] at heven
        exact ⟨(m.len.toNat - offset - 2) / 2, by omega⟩
      rw [hn] at h16 hodd ⊢
      rw [if_neg hodd]
      obtain ⟨-, hlen⟩ := @dataLength_spec n (by omega)
      rw [hlen]
      obtain ⟨data, hdata, hiff⟩ := @decodeBytes_total m canMsg.data (offset + 1) 0 n
        (by omega) (by omega)
      have htail : m.Tail offset ↔ m.HexAt (offset + 1) (2 * n) := by
        constructor
        · rintro ⟨-, k, -, hk, hhex⟩
          rwa [show k = n by omega] at hhex
        · intro hhex
          exact ⟨by simpa [hflag] using hchar, n, by omega, by omega, hhex⟩
      rw [hdata, Option.bind_eq_bind, Option.bind_some, htail, ← hiff]
      cases data with
      | none => exact ⟨none, rfl, by simp, by simp⟩
      | some data =>
        have hpos : 0 < m.len := UInt8.lt_iff_toNat_lt.mpr hm.pos
        dsimp only
        rw [if_pos hpos, hm.last, Option.bind_some, if_pos rfl]
        refine ⟨_, rfl, by simp, fun g hg => ?_⟩
        obtain rfl := Option.some.inj hg
        exact ⟨rfl, rfl, by dsimp only; omega⟩
  · rw [if_neg hchar]
    apply hrefused
    rintro ⟨h, -⟩
    exact hchar (by simpa [hflag] using h)

theorem strtol16_total {s : List UInt8} (h : ∃ c ∈ s, isxdigit c = false) :
    ∃ value, strtol16 s = some value := by
  have hlt : (s.takeWhile isxdigit).length < s.length := by
    by_contra hge
    have hall := List.takeWhile_eq_self_iff.mp
      ((List.takeWhile_prefix isxdigit).eq_of_length_le (not_lt.mp hge))
    obtain ⟨c, hc, hx⟩ := h
    rw [hall c hc] at hx
    exact absurd hx (by decide)
  unfold strtol16
  dsimp only
  rw [if_pos hlt]
  exact ⟨_, rfl⟩

/-- Hex digits behind the first two characters put the end of the message behind them. -/
theorem GcMessage.Terminated.lt_len_of_hex {m : GcMessage} (h : m.Terminated) {count : ℕ}
    (hfirst : m.byte.get 0 = chColon) (hsecond : m.byte.get 1 ≠ chSemicolon)
    (hhex : m.HexAt 2 count) : 2 + count < m.len.toNat := by
  refine h.lt_len fun i hi => ?_
  rcases Nat.lt_or_ge i 2 with hlt | hge
  · rcases Nat.le_one_iff_eq_zero_or_eq_one.mp (Nat.le_of_lt_succ hlt) with rfl | rfl
    · have hcolon : m.byte.get 0 ≠ chSemicolon := by
        rw [hfirst]
        decide
      exact ⟨_, Vector.getElem?_eq_getElem (by omega), hcolon⟩
    · exact ⟨_, Vector.getElem?_eq_getElem (by omega), hsecond⟩
  · obtain ⟨c, hc, hx⟩ := hhex i hge hi
    exact ⟨c, hc, hx.ne_semicolon⟩

theorem digitValue_lt {c : UInt8} (h : isxdigit c = true) : digitValue c < 16 := by
  have hall : ∀ n < 256, isxdigit (UInt8.ofNat n) = true → digitValue (UInt8.ofNat n) < 16 := by
    decide +kernel
  have hc := hall c.toNat c.toNat_lt
  rw [UInt8.ofNat_toNat] at hc
  exact hc h

theorem foldl_digitValue_lt {ds : List UInt8} (h : ∀ c ∈ ds, isxdigit c = true) :
    ds.foldl (fun v c => 16 * v + digitValue c) 0 < 16 ^ ds.length := by
  induction ds using List.reverseRecOn with
  | nil => simp
  | append_singleton ds c ih =>
    have hds := ih fun d hd => h d (List.mem_append_left _ hd)
    have hc := digitValue_lt (h c (by simp))
    rw [List.foldl_append, List.length_append, List.foldl_cons, List.foldl_nil, List.length_singleton,
      pow_succ]
    omega

theorem strtol16_lt {ds rest : List UInt8} {flag : UInt8} {value : ℕ}
    (hds : ∀ c ∈ ds, isxdigit c = true) (hflag : isxdigit flag = false)
    (h : strtol16 (ds ++ flag :: rest) = some value) : value < 16 ^ ds.length := by
  have hdigits : (ds ++ flag :: rest).takeWhile isxdigit = ds := by
    rw [List.takeWhile_append_of_pos hds, List.takeWhile_cons_of_neg (by simp [hflag]),
      List.append_nil]
  have hfold := foldl_digitValue_lt hds
  unfold strtol16 at h
  rw [hdigits] at h
  dsimp only at h
  split_ifs at h
  obtain rfl := Option.some.inj h
  exact lt_of_le_of_lt (min_le_left _ _) hfold

namespace GcMessage

theorem drop_of_byte {m : GcMessage} {start : ℕ} {c : UInt8} (h : m.byte[start]? = some c) :
    m.byte.toList.drop start = c :: m.byte.toList.drop (start + 1) := by
  rw [← Vector.getElem?_toList] at h
  obtain ⟨hlt, rfl⟩ := List.getElem?_eq_some_iff.mp h
  exact List.drop_eq_getElem_cons hlt

theorem HexAt.split {m : GcMessage} {start count : ℕ} (h : m.HexAt start count) {flag : UInt8}
    (hflag : m.byte[start + count]? = some flag) :
    ∃ ds, m.byte.toList.drop start = ds ++ flag :: m.byte.toList.drop (start + count + 1) ∧
      ds.length = count ∧ ∀ c ∈ ds, IsHex c := by
  induction count generalizing start with
  | zero => exact ⟨[], drop_of_byte hflag, rfl, by simp⟩
  | succ count ih =>
    obtain ⟨c, hc, hx⟩ := h start le_rfl (by omega)
    have hrest : m.HexAt (start + 1) count := fun i hi hlt => h i (by omega) (by omega)
    have hbehind : start + 1 + count = start + (count + 1) := by omega
    obtain ⟨ds, hdrop, hlen, hall⟩ := ih hrest (by rwa [hbehind])
    rw [hbehind] at hdrop
    refine ⟨c :: ds, ?_, by simp [hlen], ?_⟩
    · rw [drop_of_byte hc, hdrop, List.cons_append]
    · intro d hd
      rcases List.mem_cons.mp hd with rfl | hd
      · exact hx
      · exact hall d hd

end GcMessage

theorem extendedSum_le (a b c d : UInt8) :
    a.toUInt32 <<< 21 + (b &&& 0xE0).toUInt32 <<< 13 + (b &&& 0x3).toUInt32 <<< 16 +
      c.toUInt32 <<< 8 + d.toUInt32 ≤ 0x1FFFFFFF := by
  have ha := a.toNat_lt
  have hc := c.toNat_lt
  have hd := d.toNat_lt
  have hhigh : (b &&& 0xE0).toNat ≤ 0xE0 := by
    rw [UInt8.toNat_and]
    exact Nat.and_le_right
  have hlow : (b &&& 0x3).toNat ≤ 0x3 := by
    rw [UInt8.toNat_and]
    exact Nat.and_le_right
  rw [UInt32.le_iff_toNat_le]
  simp only [UInt32.toNat_add, UInt32.toNat_shiftLeft, UInt8.toNat_toUInt32, Nat.shiftLeft_eq]
  change ((((a.toNat * 2 ^ 21 % 2 ^ 32 + (b &&& 0xE0).toNat * 2 ^ 13 % 2 ^ 32) % 2 ^ 32 +
    (b &&& 0x3).toNat * 2 ^ 16 % 2 ^ 32) % 2 ^ 32 + c.toNat * 2 ^ 8 % 2 ^ 32) % 2 ^ 32 +
    d.toNat) % 2 ^ 32 ≤ 0x1FFFFFFF
  omega

theorem standardId_le {m : GcMessage} (hhex : m.HexAt 2 4) (htail : m.Tail 6) {value : ℕ}
    (h : strtol16 (m.byte.toList.drop 2) = some value) : UInt32.ofNat (value >>> 5) ≤ 0x7FF := by
  obtain ⟨flag, hflag, hnot⟩ : ∃ flag, m.byte[2 + 4]? = some flag ∧ isxdigit flag = false := by
    rcases htail.1 with hr | hn
    · exact ⟨chR, hr, by decide⟩
    · exact ⟨chN, hn, by decide⟩
  obtain ⟨ds, hdrop, hlen, hall⟩ := hhex.split hflag
  rw [hdrop] at h
  have hvalue := strtol16_lt (fun c hc => (hall c hc).1) hnot h
  rw [hlen] at hvalue
  rw [UInt32.le_iff_toNat_le, UInt32.toNat_ofNat', Nat.shiftRight_eq_div_pow]
  change value / 2 ^ 5 % 2 ^ 32 ≤ 0x7FF
  omega

/-- The characters at their positions are those of an extended or of a standard frame. -/
def GcMessage.Accepted (m : GcMessage) : Prop :=
  m.byte.get 0 = chColon ∧ (m.byte.get 1 = chX ∧ m.HexAt 2 8 ∧ m.Tail 10 ∨
    m.byte.get 1 = chS ∧ m.HexAt 2 4 ∧ m.Tail 6)

/-- A frame that was decoded: its length is that of the text, its identifier fits its kind. -/
structure DecodedFrom (m : GcMessage) (g : CANFrame) : Prop where
  ext : g.ext = decide (m.byte.get 1 = chX)
  encodable : g.Encodable
  len : m.len.toNat = flagOffset g + 2 * g.len.toNat + 2

theorem decodeData_from {m : GcMessage} (hm : m.Terminated) {offset : ℕ} {canMsg : CANFrame}
    (hoff : offset < m.len.toNat) (haccepted : m.Accepted ↔ m.Tail offset)
    (hoffset : offset = flagOffset canMsg) (hext : canMsg.ext = decide (m.byte.get 1 = chX))
    (hid : m.Tail offset → canMsg.id ≤ if canMsg.ext then 0x1FFFFFFF else 0x7FF) :
    ∃ r, decodeData m offset canMsg = some r ∧ (r.isSome = true ↔ m.Accepted) ∧
      ∀ g ∈ r, DecodedFrom m g := by
  obtain ⟨r, hr, htail, hframes⟩ := decodeData_total hm hoff canMsg
  refine ⟨r, hr, htail.trans haccepted.symm, fun g hg => ?_⟩
  obtain ⟨hgext, hgid, hlen⟩ := hframes g hg
  have ht := htail.mp (Option.isSome_of_mem hg)
  have hle := hid ht
  rw [← hgid, ← hgext] at hle
  obtain ⟨-, n, hn, hn', -⟩ := ht
  have hflag : flagOffset g = offset := by
    rw [hoffset]
    unfold flagOffset
    rw [hgext]
  refine ⟨hgext.trans hext, ⟨?_, fun he => ?_, fun he => ?_⟩, hflag.symm ▸ hlen⟩
  · rw [UInt8.le_iff_toNat_le]
    change g.len.toNat ≤ 8
    omega
  · simpa [he] using hle
  · simpa [he] using hle

theorem decodeGC_total {m : GcMessage} (hm : m.Terminated) (canMsg : CANFrame) :
    ∃ r, decodeGC m canMsg = some r ∧ (r.isSome = true ↔ m.Accepted) ∧
      ∀ g ∈ r, DecodedFrom m g := by
  have hle := hm.le
  have hpos := hm.pos
  have hrefused : ¬ m.Accepted → ∃ r : Option CANFrame, some none = some r ∧
      (r.isSome = true ↔ m.Accepted) ∧ ∀ g ∈ r, DecodedFrom m g :=
    fun hnot => ⟨none, rfl, by simp [hnot], by simp⟩
  have hnot : ¬ 28 < m.len := UInt8.not_lt.mpr (UInt8.le_iff_toNat_le.mpr hle)
  unfold decodeGC
  rw [if_neg hnot]
  split_ifs with hfirst hX hS
  · exact hrefused fun h => hfirst h.1
  · have haccepted : m.Accepted ↔ m.HexAt 2 8 ∧ m.Tail 10 := by
      simp [GcMessage.Accepted, not_not.mp hfirst, hX, show chX ≠ chS by decide]
    obtain ⟨hex, hcheck, hiff⟩ := m.checkHexChars_total (show 2 + 8 ≤ 28 by omega)
    rw [hcheck, Option.bind_eq_bind, Option.bind_some]
    cases hex with
    | false => exact hrefused fun h => Bool.false_ne_true (hiff.mpr (haccepted.mp h).1)
    | true =>
      have hhex := hiff.mp rfl
      have hlt := hm.lt_len_of_hex (not_not.mp hfirst) (by rw [hX]; decide) hhex
      rw [if_pos rfl]
      apply decodeData_from hm hlt (by simp [haccepted, hhex]) rfl
      · simp [hX]
      · exact fun _ => extendedSum_le _ _ _ _
  · have haccepted : m.Accepted ↔ m.HexAt 2 4 ∧ m.Tail 6 := by
      simp [GcMessage.Accepted, not_not.mp hfirst, hS, show chS ≠ chX by decide]
    obtain ⟨hex, hcheck, hiff⟩ := m.checkHexChars_total (show 2 + 4 ≤ 28 by omega)
    rw [hcheck, Option.bind_eq_bind, Option.bind_some]
    cases hex with
    | false => exact hrefused fun h => Bool.false_ne_true (hiff.mpr (haccepted.mp h).1)
    | true =>
      have hhex := hiff.mp rfl
      have hlt := hm.lt_len_of_hex (not_not.mp hfirst) (by rw [hS]; decide) hhex
      obtain ⟨value, hvalue⟩ := @strtol16_total (m.byte.toList.drop 2) (by
        refine ⟨chSemicolon, List.mem_iff_getElem?.mpr ⟨m.len.toNat - 3, ?_⟩, by decide⟩
        rw [List.getElem?_drop, Vector.getElem?_toList, ← hm.last]
        congr 1
        omega)
      rw [if_pos rfl, hvalue, Option.bind_eq_bind, Option.bind_some]
      apply decodeData_from hm hlt (by simp [haccepted, hhex]) rfl
      · simp [hS, show chS ≠ chX by decide]
      · exact fun htail => standardId_le hhex htail hvalue
  · exact hrefused fun h => by
      rcases h.2 with h' | h'
      · exact hX h'.1
      · exact hS h'.1

end CBUSPicoLib
