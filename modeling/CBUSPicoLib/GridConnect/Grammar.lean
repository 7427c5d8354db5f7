import CBUSPicoLib.GridConnect.Decoding

/-!
# The GridConnect grammar

The texts of the grammar are stated without positions: kind, digits of the identifier, flag,
pairs of digits for the data and the terminator. `decodeGC` accepts exactly these, and what
it makes of one can be encoded and decoded again.
-/

namespace CBUSPicoLib

/-- So many upper-case hex digits. -/
def HexDigits (count : ℕ) (ds : List UInt8) : Prop := ds.length = count ∧ ∀ c ∈ ds, c ∈ hexChars

/-- Identifier digits, flag, data of at most eight bytes and terminator. -/
inductive FrameBody (count : ℕ) : List UInt8 → Prop
  | mk {ids ds : List UInt8} {flag : UInt8} {n : ℕ} (hids : HexDigits count ids)
      (hflag : flag = chR ∨ flag = chN) (hn : n ≤ 8) (hds : HexDigits (2 * n) ds) :
      FrameBody count (ids ++ flag :: (ds ++ [chSemicolon]))

/-- The texts of extended and of standard frames. -/
inductive Grammar : List UInt8 → Prop
  | extended {w : List UInt8} (h : FrameBody 8 w) : Grammar (chColon :: chX :: w)
  | standard {w : List UInt8} (h : FrameBody 4 w) : Grammar (chColon :: chS :: w)

theorem isHex_iff (c : UInt8) : IsHex c ↔ c ∈ hexChars := by
  have hall : ∀ n < 256, (isxdigit (UInt8.ofNat n) = true ∧ islower (UInt8.ofNat n) = false) ↔
      UInt8.ofNat n ∈ hexChars := by
    decide +kernel
  have hc := hall c.toNat c.toNat_lt
  rwa [UInt8.ofNat_toNat] at hc

theorem grammar_cons_iff (a b : UInt8) (w : List UInt8) :
    Grammar (a :: b :: w) ↔
      a = chColon ∧ (b = chX ∧ FrameBody 8 w ∨ b = chS ∧ FrameBody 4 w) := by
  constructor
  · intro h
    cases h with
    | extended h => exact ⟨rfl, Or.inl ⟨rfl, h⟩⟩
    | standard h => exact ⟨rfl, Or.inr ⟨rfl, h⟩⟩
  · rintro ⟨rfl, ⟨rfl, h⟩ | ⟨rfl, h⟩⟩
    · exact Grammar.extended h
    · exact Grammar.standard h

namespace GcMessage

def text (m : GcMessage) : List UInt8 := m.byte.toList.take m.len.toNat

variable {m : GcMessage}

theorem text_eq (h : 2 ≤ m.len.toNat) :
    m.text = m.byte.get 0 :: m.byte.get 1 :: (m.byte.toList.drop 2).take (m.len.toNat - 2) := by
  have hzero : m.byte[0]? = some (m.byte.get 0) := Vector.getElem?_eq_getElem (by decide)
  have hone : m.byte[1]? = some (m.byte.get 1) := Vector.getElem?_eq_getElem (by decide)
  obtain ⟨l, hl⟩ : ∃ l, m.len.toNat = l + 2 := ⟨m.len.toNat - 2, by omega⟩
  have hbytes := drop_of_byte hzero
  rw [drop_of_byte hone, List.drop_zero] at hbytes
  unfold text
  rw [hl, hbytes]
  rfl

theorem hexAt_text {before cs behind : List UInt8} (h : before ++ cs ++ behind <+: m.byte.toList)
    (hhex : ∀ c ∈ cs, c ∈ hexChars) : m.HexAt before.length cs.length := by
  have hle := h.length_le
  rw [List.length_append, List.length_append, Vector.length_toList] at hle
  obtain ⟨hex, hcheck, hiff⟩ :=
    m.checkHexChars_total (show before.length + cs.length ≤ 28 by omega)
  have htrue := checkHexChars_text h fun c hc => (isHex_iff c).mpr (hhex c hc)
  exact hiff.mp (Option.some.inj (hcheck.symm.trans htrue))

/-- Digits, flag, data and terminator at their positions are a body of the grammar. -/
theorem frameBody_iff (hm : m.Terminated) (htwo : 2 ≤ m.len.toNat) (count : ℕ) :
    m.HexAt 2 count ∧ m.Tail (2 + count) ↔
      FrameBody count ((m.byte.toList.drop 2).take (m.len.toNat - 2)) := by
  have hle := hm.le
  constructor
  · rintro ⟨hids, hflag, n, hn, hlen, hdata⟩
    obtain ⟨flag, hflag, hkind⟩ :
        ∃ flag, m.byte[2 + count]? = some flag ∧ (flag = chR ∨ flag = chN) := by
      rcases hflag with h | h
      · exact ⟨chR, h, Or.inl rfl⟩
      · exact ⟨chN, h, Or.inr rfl⟩
    have hlast : m.byte[2 + count + 1 + 2 * n]? = some chSemicolon := by
      rw [← hm.last]
      congr 1
      omega
    obtain ⟨ids, hdrop, hidsLen, hidsHex⟩ := hids.split hflag
    obtain ⟨ds, hdrop', hdsLen, hdsHex⟩ := hdata.split hlast
    rw [hdrop'] at hdrop
    have htake : (m.byte.toList.drop 2).take (m.len.toNat - 2) =
        ids ++ flag :: (ds ++ [chSemicolon]) := by
      rw [hdrop, show ∀ rest, ids ++ flag :: (ds ++ chSemicolon :: rest) =
        (ids ++ flag :: (ds ++ [chSemicolon])) ++ rest by simp]
      apply List.take_left'
      simp only [List.length_append, List.length_cons, List.length_nil]
      omega
    rw [htake]
    exact FrameBody.mk ⟨hidsLen, fun c hc => (isHex_iff c).mp (hidsHex c hc)⟩ hkind hn
      ⟨hdsLen, fun c hc => (isHex_iff c).mp (hdsHex c hc)⟩
  · intro h
    generalize hw : (m.byte.toList.drop 2).take (m.len.toNat - 2) = w at h
    have hlen : w.length = m.len.toNat - 2 := by
      rw [← hw, List.length_take, List.length_drop, Vector.length_toList]
      omega
    have hpre : [m.byte.get 0, m.byte.get 1] ++ w <+: m.byte.toList := by
      have htext := text_eq htwo
      rw [hw] at htext
      rw [show [m.byte.get 0, m.byte.get 1] ++ w = m.text from htext.symm]
      exact List.take_prefix _ _
    cases h with
    | @mk ids ds flag n hids hflag hn hds =>
      obtain ⟨rfl, hidsHex⟩ := hids
      obtain ⟨hdsLen, hdsHex⟩ := hds
      simp only [List.length_append, List.length_cons, List.length_nil] at hlen
      have hbyte := byte_of_text (by simpa using hpre :
        ([m.byte.get 0, m.byte.get 1] ++ ids) ++ flag :: (ds ++ [chSemicolon]) <+: _)
      have hdata := hexAt_text (by simpa using hpre :
        ([m.byte.get 0, m.byte.get 1] ++ ids ++ [flag]) ++ ds ++ [chSemicolon] <+: _) hdsHex
      refine ⟨hexAt_text (by simpa using hpre : [m.byte.get 0, m.byte.get 1] ++ ids ++
        flag :: (ds ++ [chSemicolon]) <+: _) hidsHex, ?_, n, hn, by omega, ?_⟩
      · rw [show 2 + ids.length = ([m.byte.get 0, m.byte.get 1] ++ ids).length by simp; omega, hbyte]
        simpa using hflag
      · rw [← hdsLen, show 2 + ids.length + 1 =
          ([m.byte.get 0, m.byte.get 1] ++ ids ++ [flag]).length by simp; omega]
        exact hdata

theorem accepted_iff_grammar (hm : m.Terminated) (htwo : 2 ≤ m.len.toNat) :
    m.Accepted ↔ Grammar m.text := by
  rw [text_eq htwo, grammar_cons_iff, ← frameBody_iff hm htwo, ← frameBody_iff hm htwo]
  rfl

/-- What `extractAndQueueGC` cuts out of the stream: from a `:` to the first `;` behind it. -/
structure Extractable (m : GcMessage) : Prop where
  two : 2 ≤ m.len.toNat
  le : m.len.toNat ≤ 28
  first : m.byte.get 0 = chColon
  last : m.byte[m.len.toNat - 1]? = some chSemicolon
  only : ∀ i < m.len.toNat - 1, m.byte[i]? ≠ some chSemicolon

theorem Extractable.terminated (h : m.Extractable) : m.Terminated :=
  ⟨Nat.lt_of_lt_of_le Nat.zero_lt_two h.two, h.le, h.last⟩

end GcMessage

/-- A frame that comes out of a message: its identifier fits the kind, and encoding it and
decoding the text again gives the same frame. -/
structure Recoded (m : GcMessage) (g : CANFrame) : Prop where
  len : g.len ≤ 8
  standard : m.byte.get 1 = chS → g.ext = false ∧ g.id ≤ 0x7FF
  extended : m.byte.get 1 = chX → g.ext = true ∧ g.id ≤ 0x1FFFFFFF
  roundTrip : ∃ m', encodeGC g = some (true, m') ∧
    ∀ canMsg, ∃ g', decodeGC m' canMsg = some (some g') ∧ g'.content = g.content

theorem DecodedFrom.recoded {m : GcMessage} {g : CANFrame} (h : DecodedFrom m g) :
    Recoded m g := by
  have hext := h.ext
  refine ⟨h.encodable.len, fun hs => ?_, fun hx => ?_, ?_⟩
  · have hstandard : g.ext = false := by
      rw [hext, hs]
      decide
    exact ⟨hstandard, h.encodable.standard hstandard⟩
  · have hextended : g.ext = true := by
      rw [hext, hx]
      decide
    exact ⟨hextended, h.encodable.extended hextended⟩
  · obtain ⟨m', hencode, htext, hlen⟩ := encodeGC_text h.encodable
    refine ⟨m', hencode, fun canMsg => ?_⟩
    exact ⟨overlay g canMsg, decodeGC_text h.encodable htext hlen canMsg, content_overlay g canMsg⟩

/-- `decodeGC` returns on every message that is cut out of the stream, without an access outside
an array; it accepts exactly the grammar, and what it returns can be encoded again. -/
theorem decodeGC_iff_grammar (m : GcMessage) (hm : m.Extractable) (canMsg : CANFrame) :
    ∃ r, decodeGC m canMsg = some r ∧ (r.isSome = true ↔ Grammar m.text) ∧ ∀ g ∈ r, Recoded m g := by
  obtain ⟨r, hr, haccepted, hframes⟩ := decodeGC_total hm.terminated canMsg
  refine ⟨r, hr, haccepted.trans (GcMessage.accepted_iff_grammar hm.terminated hm.two), ?_⟩
  intro g hg
  exact (hframes g hg).recoded

/-- A standard frame without data, with other characters behind it. -/
def shortMessage : GcMessage where
  byte := Vector.ofFn fun i => [chColon, chS, 0x42, 0x30, 0x41, 0x30, chN, chSemicolon, chX].getD i 0
  len := 8

theorem decodeGC_iff_grammar_shortMessage :
    ∃ r, decodeGC shortMessage {} = some r ∧ (r.isSome = true ↔ Grammar shortMessage.text) ∧
      ∀ g ∈ r, Recoded shortMessage g :=
  decodeGC_iff_grammar shortMessage
    ⟨by decide, by decide, by decide, by decide, by decide⟩ {}

end CBUSPicoLib
