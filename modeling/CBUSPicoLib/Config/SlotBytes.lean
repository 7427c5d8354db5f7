import CBUSPicoLib.Config.EventTable

/-!
# The bytes of a slot

A slot has four identity bytes and one byte for each of its variables. The source computes their
addresses with 32 bits, from the number of the slot and a size of 8 bits. The bytes of one slot are
different wherever it lies; those of two slots are as long as the size does not wrap.
-/

namespace CBUSPicoLib

/-- The bytes that `writeEvent` stores, in the order of their addresses. -/
def EventInfo.byte (e : EventInfo) : ℕ → UInt8
  | 0 => highByte e.nodeNumber.toNat
  | 1 => lowByte e.nodeNumber.toNat
  | 2 => highByte e.eventNumber.toNat
  | _ => lowByte e.eventNumber.toNat

theorem byte_evInfoUnused (k : ℕ) : evInfoUnused.byte k = 0xFF := by
  unfold EventInfo.byte
  split <;> decide

/-- Different slots share no byte: the size of a slot fits into its byte, or there is one slot. -/
def Layout.SlotsApart (l : Layout) : Prop := l.eeNumEvs ≤ 251 ∨ l.eeMaxEvents ≤ 1

namespace CBUSConfig

variable {c c' : CBUSConfig} {idx : UInt8} {e : EventInfo}

def slotByte (c : CBUSConfig) (idx : UInt8) (k : ℕ) : ℕ :=
  (c.eventAddress idx (UInt32.ofNat k)).toNat

theorem slotByte_congr (hu : c'.eventRam = c.eventRam) : c'.slotByte = c.slotByte := by
  have hl : c'.toLayout = c.toLayout := congrArg Prod.fst hu
  have hb : c'.eeBytesPerEvent = c.eeBytesPerEvent := congrArg (·.2.1) hu
  funext idx k
  simp only [slotByte, eventAddress, hl, hb]

def identityBytes (c : CBUSConfig) (idx : UInt8) : List ℕ := (List.range 4).map (c.slotByte idx)

theorem mem_identityBytes {a : ℕ} :
    a ∈ c.identityBytes idx ↔ ∃ k < 4, c.slotByte idx k = a := by
  simp [identityBytes]

theorem toNat_variableOffset (evNum : UInt8) : (3 + evNum.toUInt32).toNat = 3 + evNum.toNat := by
  have hn := evNum.toNat_lt
  rw [UInt32.toNat_add, UInt8.toNat_toUInt32]
  exact Nat.mod_eq_of_lt (by simp; omega)

theorem eventAddress_variable (c : CBUSConfig) (idx evNum : UInt8) :
    (c.eventAddress idx (3 + evNum.toUInt32)).toNat = c.slotByte idx (3 + evNum.toNat) := by
  rw [slotByte, ← toNat_variableOffset, UInt32.ofNat_toNat]

theorem slotByte_inj (c : CBUSConfig) (idx : UInt8) {k m : ℕ} (hk : k < 2 ^ 32) (hm : m < 2 ^ 32)
    (he : c.slotByte idx k = c.slotByte idx m) : k = m := by
  have hofs := (UInt32.add_right_inj _).mp (UInt32.toNat_inj.mp he)
  have hval := congrArg UInt32.toNat hofs
  rwa [UInt32.toNat_ofNat', UInt32.toNat_ofNat', Nat.mod_eq_of_lt hk, Nat.mod_eq_of_lt hm] at hval

/-- A slot ends with its last event variable. -/
def InSlot (c : CBUSConfig) (idx : UInt8) (a : ℕ) : Prop :=
  ∃ k < c.eeNumEvs.toNat + 4, a = c.slotByte idx k

theorem bytes_eq_iff (b : ℕ → UInt8) (e : EventInfo) :
    (⟨bytesToWord (b 0) (b 1), bytesToWord (b 2) (b 3)⟩ : EventInfo) = e ↔
      ∀ k < 4, b k = e.byte k := by
  have hhigh : ∀ (w : UInt16) (hi lo : UInt8),
      bytesToWord hi lo = w ↔ hi = highByte w.toNat ∧ lo = lowByte w.toNat := by
    intro w hi lo
    conv_lhs => rw [← bytesToWord_high_low w]
    exact bytesToWord_inj
  rw [← show (⟨e.nodeNumber, e.eventNumber⟩ : EventInfo) = e from rfl, EventInfo.mk.injEq, hhigh,
    hhigh]
  constructor
  · rintro ⟨⟨h0, h1⟩, h2, h3⟩ k hk
    interval_cases k <;> assumption
  · intro h
    exact ⟨⟨h 0 (by omega), h 1 (by omega)⟩, h 2 (by omega), h 3 (by omega)⟩

theorem readEvent_eq_iff : c.readEvent idx = e ↔
    ∀ k < 4, c.flashBuf.read 0xFF (c.slotByte idx k) = e.byte k :=
  bytes_eq_iff (fun k => c.flashBuf.read 0xFF (c.slotByte idx k)) e

theorem readEvent_congr (hu : c'.eventRam = c.eventRam)
    (hbytes : ∀ k < 4, c'.flashBuf.read 0xFF (c.slotByte idx k) =
      c.flashBuf.read 0xFF (c.slotByte idx k)) : c'.readEvent idx = c.readEvent idx := by
  rw [readEvent_eq_iff, slotByte_congr hu]
  intro k hk
  rw [hbytes k hk]
  exact readEvent_eq_iff.mp rfl k hk

theorem readEvent_eq_unused_iff :
    c.readEvent idx = evInfoUnused ↔ ∀ k < 4, c.flashBuf.read 0xFF (c.slotByte idx k) = 0xFF := by
  simp only [readEvent_eq_iff, byte_evInfoUnused]

theorem getEventEVval_eq (c : CBUSConfig) (idx evNum : UInt8) :
    c.getEventEVval idx evNum = c.flashBuf.read 0xFF (c.slotByte idx (3 + evNum.toNat)) := by
  change c.readEEPROM (c.eventAddress idx (3 + evNum.toUInt32)) = _
  rw [readEEPROM, getChipEEPROMVal, eventAddress_variable]

@[simp] theorem writeEventEV_eventRam (c : CBUSConfig) (idx evnum evval : UInt8) :
    (c.writeEventEV idx evnum evval).eventRam = c.eventRam :=
  writeEEPROM_eventRam _ _ _ _

@[simp] theorem writeEvent_eventRam (c : CBUSConfig) (idx : UInt8) (e : EventInfo) (f : Bool) :
    (c.writeEvent idx e f).eventRam = c.eventRam := by
  cases f <;> simp [writeEvent, ByteStore.writeEvent]

/-- The four bytes that `writeEvent` writes, at the addresses it computes. -/
theorem writeEvent_flashBuf (c : CBUSConfig) (idx : UInt8) (e : EventInfo) (f : Bool) :
    (c.writeEvent idx e f).flashBuf =
      (((c.flashBuf.write (c.slotByte idx 0) (e.byte 0)).write (c.slotByte idx 1) (e.byte 1)).write
        (c.slotByte idx 2) (e.byte 2)).write (c.slotByte idx 3) (e.byte 3) := by
  cases f <;> simp [writeEvent, ByteStore.writeEvent, slotByte, EventInfo.byte]

theorem read_writeEvent_ne (f : Bool) {a : ℕ} (ha : ∀ k < 4, a ≠ c.slotByte idx k) :
    (c.writeEvent idx e f).flashBuf.read 0xFF a = c.flashBuf.read 0xFF a := by
  rw [writeEvent_flashBuf, Memory.read_write_ne (ha 3 (by omega)),
    Memory.read_write_ne (ha 2 (by omega)), Memory.read_write_ne (ha 1 (by omega))]
  exact Memory.read_write_ne (ha 0 (by omega))

/-- What is written to an identity byte is read back if the byte lies in the sector. -/
theorem read_writeEvent_slotByte (f : Bool) {k : ℕ} (hk : k < 4) :
    (c.writeEvent idx e f).flashBuf.read 0xFF (c.slotByte idx k) =
      if c.slotByte idx k < flashSectorSize then e.byte k else 0xFF := by
  have hne : ∀ m < 4, m ≠ k → c.slotByte idx k ≠ c.slotByte idx m := by
    intro m hm hmk he
    exact hmk (c.slotByte_inj idx (by omega) (by omega) he).symm
  have hread : ∀ m : FlashImage, (m.write (c.slotByte idx k) (e.byte k)).read 0xFF
      (c.slotByte idx k) = if c.slotByte idx k < flashSectorSize then e.byte k else 0xFF := by
    intro m
    split_ifs with hlt
    · rw [Memory.read_write, if_pos ⟨rfl, hlt⟩]
    · exact dif_neg hlt
  rw [writeEvent_flashBuf]
  interval_cases k
  · rw [Memory.read_write_ne (hne 3 (by omega) (by omega)),
      Memory.read_write_ne (hne 2 (by omega) (by omega)),
      Memory.read_write_ne (hne 1 (by omega) (by omega)), hread]
  · rw [Memory.read_write_ne (hne 3 (by omega) (by omega)),
      Memory.read_write_ne (hne 2 (by omega) (by omega)), hread]
  · rw [Memory.read_write_ne (hne 3 (by omega) (by omega)), hread]
  · rw [hread]

/-- What the slot reads once the event is written: beyond the sector erased bytes. -/
def heldAs (c : CBUSConfig) (idx : UInt8) (e : EventInfo) : EventInfo :=
  let byte := fun k => if c.slotByte idx k < flashSectorSize then e.byte k else 0xFF
  ⟨bytesToWord (byte 0) (byte 1), bytesToWord (byte 2) (byte 3)⟩

theorem heldAs_eq_iff {e' : EventInfo} : c.heldAs idx e = e' ↔
    ∀ k < 4, (if c.slotByte idx k < flashSectorSize then e.byte k else 0xFF) = e'.byte k :=
  bytes_eq_iff (fun k => if c.slotByte idx k < flashSectorSize then e.byte k else 0xFF) e'

theorem readEvent_writeEvent (f : Bool) :
    (c.writeEvent idx e f).readEvent idx = c.heldAs idx e := by
  rw [readEvent_eq_iff, slotByte_congr (c.writeEvent_eventRam idx e f)]
  intro k hk
  rw [read_writeEvent_slotByte f hk]
  exact heldAs_eq_iff.mp rfl k hk

@[simp] theorem heldAs_evInfoUnused (c : CBUSConfig) (idx : UInt8) :
    c.heldAs idx evInfoUnused = evInfoUnused := by
  rw [heldAs_eq_iff]
  intro k _
  rw [byte_evInfoUnused, ite_self]

theorem heldAs_of_readEvent (h : c.readEvent idx = e) : c.heldAs idx e = e := by
  rw [heldAs_eq_iff]
  intro k hk
  rw [ite_eq_left_iff]
  intro hout
  have hread : c.flashBuf.read 0xFF (c.slotByte idx k) = 0xFF := dif_neg hout
  exact hread.symm.trans (readEvent_eq_iff.mp h k hk)

/-- The layout keeps the slots apart, and `begin` has computed the size of a slot. -/
structure Spaced (c : CBUSConfig) : Prop where
  apart : c.SlotsApart
  bytesPerEvent : c.eeBytesPerEvent = c.eeNumEvs + 4

theorem Spaced.of_eventRam (h : c.Spaced) (hu : c'.eventRam = c.eventRam) : c'.Spaced := by
  have hl : c'.toLayout = c.toLayout := congrArg Prod.fst hu
  have hb : c'.eeBytesPerEvent = c.eeBytesPerEvent := congrArg (·.2.1) hu
  exact ⟨hl ▸ h.apart, by rw [hb, hl]; exact h.bytesPerEvent⟩

theorem Spaced.slotByte_ne (h : c.Spaced) {j : UInt8} (hi : idx.toNat < c.eeMaxEvents.toNat)
    (hj : j.toNat < c.eeMaxEvents.toNat) (hne : idx ≠ j) {k m : ℕ}
    (hk : k < c.eeNumEvs.toNat + 4) (hm : m < c.eeNumEvs.toNat + 4) :
    c.slotByte idx k ≠ c.slotByte j m := by
  have hne' : idx.toNat ≠ j.toNat := fun he => hne (UInt8.toNat_inj.mp he)
  rcases h.apart with hle | hone
  · have hn : c.eeNumEvs.toNat + 4 < 256 := Nat.add_lt_add_right (k := 4)
      (Nat.lt_succ_of_le (UInt8.le_iff_toNat_le.mp hle))
    have hb : c.eeBytesPerEvent.toNat = c.eeNumEvs.toNat + 4 := by
      rw [h.bytesPerEvent, UInt8.toNat_add]
      exact Nat.mod_eq_of_lt hn
    intro he
    have hsum : idx.toUInt32 * c.eeBytesPerEvent.toUInt32 + UInt32.ofNat k =
        j.toUInt32 * c.eeBytesPerEvent.toUInt32 + UInt32.ofNat m := by
      have haddr := UInt32.toNat_inj.mp he
      unfold eventAddress at haddr
      rw [UInt32.add_assoc, UInt32.add_assoc] at haddr
      exact (UInt32.add_right_inj _).mp haddr
    have hval := congrArg UInt32.toNat hsum
    -- the offsets of both bytes lie in the first 2 ^ 16 bytes of the event area
    have hsmall : ∀ i : UInt8, i.toNat * (c.eeNumEvs.toNat + 4) ≤ 255 * 255 := by
      intro i
      have hi' := i.toNat_lt
      exact Nat.mul_le_mul (by omega) (by omega)
    have hi' := hsmall idx
    have hj' := hsmall j
    simp only [UInt32.toNat_add, UInt32.toNat_mul, UInt8.toNat_toUInt32, hb,
      UInt32.toNat_ofNat'] at hval
    have hlt : ∀ i : UInt8, i.toNat * (c.eeNumEvs.toNat + 4) + 256 < 2 ^ 32 := by
      intro i
      have := hsmall i
      omega
    rw [Nat.mod_eq_of_lt (show idx.toNat * (c.eeNumEvs.toNat + 4) < 2 ^ 32 by omega),
      Nat.mod_eq_of_lt (show j.toNat * (c.eeNumEvs.toNat + 4) < 2 ^ 32 by omega),
      Nat.mod_eq_of_lt (show k < 2 ^ 32 by omega), Nat.mod_eq_of_lt (show m < 2 ^ 32 by omega),
      Nat.mod_eq_of_lt (by omega), Nat.mod_eq_of_lt (by omega)] at hval
    rcases lt_or_gt_of_ne hne' with hlt | hlt
    · have hstep := Nat.mul_le_mul_right (c.eeNumEvs.toNat + 4) (Nat.succ_le_of_lt hlt)
      rw [Nat.succ_mul] at hstep
      omega
    · have hstep := Nat.mul_le_mul_right (c.eeNumEvs.toNat + 4) (Nat.succ_le_of_lt hlt)
      rw [Nat.succ_mul] at hstep
      omega
  · have hone' : c.eeMaxEvents.toNat ≤ 1 := UInt8.le_iff_toNat_le.mp hone
    omega

theorem Spaced.readEvent_writeEvent_ne (h : c.Spaced) {j : UInt8}
    (hi : idx.toNat < c.eeMaxEvents.toNat) (hj : j.toNat < c.eeMaxEvents.toNat) (hne : j ≠ idx)
    (f : Bool) : (c.writeEvent idx e f).readEvent j = c.readEvent j := by
  apply readEvent_congr (c.writeEvent_eventRam idx e f)
  intro k hk
  apply read_writeEvent_ne
  intro m hm
  exact h.slotByte_ne hj hi hne (by omega) (by omega)

theorem Spaced.not_inSlot_of_ne (h : c.Spaced) {j : UInt8} (hi : idx.toNat < c.eeMaxEvents.toNat)
    (hj : j.toNat < c.eeMaxEvents.toNat) (hne : idx ≠ j) {k : ℕ} (hk : k < c.eeNumEvs.toNat + 4) :
    ¬ c.InSlot j (c.slotByte idx k) := by
  rintro ⟨m, hm, he⟩
  exact h.slotByte_ne hi hj hne hk hm he

/-- A byte write leaves an event readable as before if it changes no identity byte. -/
theorem readEvent_writeEEPROM {a : UInt32} {v : UInt8} (f : Bool)
    (hsame : ∀ k < 4, a.toNat = c.slotByte idx k → a.toNat < flashSectorSize →
      c.flashBuf.read 0xFF a.toNat = v) :
    (c.writeEEPROM a v f).readEvent idx = c.readEvent idx := by
  apply readEvent_congr (c.writeEEPROM_eventRam a v f)
  intro k hk
  rw [writeEEPROM_flashBuf, Memory.read_write]
  split_ifs with ha
  · rw [ha.1, hsame k hk ha.1.symm (ha.1 ▸ ha.2)]
  · rfl

end CBUSConfig
end CBUSPicoLib
