import CBUSPicoLib.Library.IndependentCells
import CBUSPicoLib.Config.Coherence
import CBUSPicoLib.Config.Identity

/-!
# The cells of the event table

A slot has a cell for its event and one for each of its variables. `begin` keeps the size of
a slot in a byte; from 252 variables on the size wraps, and slots that should lie one behind
the other lie upon each other.
-/

namespace CBUSPicoLib

open IndependentCells

/-- The cells that `readEvent` and `getEventEVval` read. -/
inductive EventCell
  | event (idx : UInt8)
  | eventVariable (idx evnum : UInt8)
  deriving DecidableEq

namespace EventCell

def Value : EventCell → Type
  | event _ => EventInfo
  | eventVariable _ _ => UInt8

/-- The slot is one of the table, the index one of its variables. -/
def Valid (l : Layout) : EventCell → Prop
  | event idx => idx < l.eeMaxEvents
  | eventVariable idx evnum => idx < l.eeMaxEvents ∧ 1 ≤ evnum ∧ evnum ≤ l.eeNumEvs

def slot : EventCell → UInt8
  | event idx => idx
  | eventVariable idx _ => idx

/-- The bytes of a cell, counted from the start of its slot. -/
def Offset : EventCell → ℕ → Prop
  | event _, k => k < 4
  | eventVariable _ evnum, k => k = 3 + evnum.toNat

variable {l : Layout}

theorem Valid.slot_lt {a : EventCell} (ha : a.Valid l) :
    a.slot.toNat < l.eeMaxEvents.toNat := by
  cases a with
  | event idx => exact UInt8.lt_iff_toNat_lt.mp ha
  | eventVariable idx evnum => exact UInt8.lt_iff_toNat_lt.mp ha.1

theorem Valid.offset_lt {a : EventCell} (ha : a.Valid l) {k : ℕ} (hk : a.Offset k) :
    k < l.eeNumEvs.toNat + 4 := by
  cases a with
  | event idx =>
    have hk4 : k < 4 := hk
    omega
  | eventVariable idx evnum =>
    have hke : k = 3 + evnum.toNat := hk
    have hle := UInt8.le_iff_toNat_le.mp ha.2.2
    omega

end EventCell

/-- The calls that write to the event table. -/
inductive EventWrite
  | writeEvent (idx : UInt8) (evInfo : EventInfo) (bFlush : Bool)
  | writeEventEV (idx evnum evval : UInt8)

namespace EventWrite

def cell : EventWrite → EventCell
  | writeEvent idx _ _ => .event idx
  | writeEventEV idx evnum _ => .eventVariable idx evnum

def value : (w : EventWrite) → w.cell.Value
  | writeEvent _ evInfo _ => evInfo
  | writeEventEV _ _ evval => evval

end EventWrite

namespace CBUSConfig

def applyWrite (c : CBUSConfig) : EventWrite → CBUSConfig
  | .writeEvent idx evInfo bFlush => c.writeEvent idx evInfo bFlush
  | .writeEventEV idx evnum evval => c.writeEventEV idx evnum evval

def readCell (c : CBUSConfig) : (a : EventCell) → a.Value
  | .event idx => c.readEvent idx
  | .eventVariable idx evnum => c.getEventEVval idx evnum

/-- Whatever the flash holds when the module starts, after any writes to cells of the table
every cell is read as the value last written to it. -/
def CellsIndependent (l : Layout) : Prop :=
  ∀ (flash : FlashImage) (ws : List EventWrite), (∀ w ∈ ws, w.cell.Valid l) →
    ∀ a : EventCell, a.Valid l →
      (ws.foldl applyWrite (construct l flash).begin).readCell a =
        latest EventWrite.cell EventWrite.value (construct l flash).begin.readCell ws a

/-- The configuration of a module with this layout once `begin` has run. -/
def Begun (l : Layout) (c : CBUSConfig) : Prop :=
  c.toLayout = l ∧ c.eeBytesPerEvent = l.eeNumEvs + 4

theorem begun_begin (l : Layout) (flash : FlashImage) : Begun l (construct l flash).begin := by
  have hram := (sameTables_loadNVs (construct l flash).loaded).ram
  constructor
  · exact congrArg Prod.fst hram
  · exact congrArg (·.2.1) hram

theorem Begun.of_eventRam {l : Layout} {c c' : CBUSConfig} (h : Begun l c)
    (hu : c'.eventRam = c.eventRam) : Begun l c' :=
  ⟨(congrArg Prod.fst hu).trans h.1, (congrArg (·.2.1) hu).trans h.2⟩

/-- The event area lies inside the sector and its slots are found at multiples of their size. -/
structure Addressable (l : Layout) : Prop where
  inside : l.eeEventsStart.toNat + l.eeMaxEvents.toNat * (l.eeNumEvs.toNat + 4) ≤ flashSectorSize
  stride : l.eeNumEvs.toNat ≤ 251 ∨ l.eeMaxEvents.toNat ≤ 1

variable {l : Layout} {c : CBUSConfig}

theorem Addressable.slotBase_add (h : Addressable l) {i k : ℕ} (hi : i < l.eeMaxEvents.toNat)
    (hk : k < l.eeNumEvs.toNat + 4) : l.slotBase i + k < flashSectorSize := by
  have hin := (Layout.slotBase_add_inEvents hi hk).2
  have hend := h.inside
  omega

/-- The address computation of the source, with its 8-bit size of a slot. -/
theorem Begun.eventAddress_toNat (hb : Begun l c) {idx : UInt8} {ofs : UInt32}
    (hsum : l.eeEventsStart.toNat + idx.toNat * (l.eeNumEvs + 4).toNat + ofs.toNat < 2 ^ 32) :
    (c.eventAddress idx ofs).toNat =
      l.eeEventsStart.toNat + idx.toNat * (l.eeNumEvs + 4).toNat + ofs.toNat := by
  simp only [CBUSConfig.eventAddress, hb.1, hb.2, UInt32.toNat_add, UInt32.toNat_mul,
    UInt8.toNat_toUInt32]
  generalize idx.toNat * (l.eeNumEvs + 4).toNat = m at hsum ⊢
  omega

theorem Addressable.spaced (h : Addressable l) (hb : Begun l c) : c.Spaced := by
  refine ⟨?_, by rw [hb.1]; exact hb.2⟩
  rw [hb.1]
  rcases h.stride with hsmall | hone
  · exact Or.inl (UInt8.le_iff_toNat_le.mpr hsmall)
  · exact Or.inr (UInt8.le_iff_toNat_le.mpr hone)

theorem Addressable.slotByte_lt (h : Addressable l) (hb : Begun l c) {idx : UInt8}
    (hi : idx.toNat < l.eeMaxEvents.toNat) {k : ℕ} (hk : k < l.eeNumEvs.toNat + 4) :
    c.slotByte idx k < flashSectorSize := by
  have hin := h.slotBase_add hi hk
  have hn := l.eeNumEvs.toNat_lt
  have hofs : (UInt32.ofNat k).toNat = k := by
    rw [UInt32.toNat_ofNat', Nat.mod_eq_of_lt (by omega)]
  have hstride : idx.toNat * (l.eeNumEvs + 4).toNat = idx.toNat * (l.eeNumEvs.toNat + 4) := by
    rcases h.stride with hsmall | hone
    · have hsum : (l.eeNumEvs + 4).toNat = l.eeNumEvs.toNat + 4 := by
        rw [UInt8.toNat_add]
        exact Nat.mod_eq_of_lt (by simp; omega)
      rw [hsum]
    · have hzero : idx.toNat = 0 := by omega
      rw [hzero, Nat.zero_mul, Nat.zero_mul]
  simp only [Layout.slotBase, flashSectorSize] at hin ⊢
  rw [← hstride] at hin
  rw [slotByte, hb.eventAddress_toNat (by rw [hofs]; omega), hofs]
  exact hin

/-- An address of a cell. -/
def CellByte (c : CBUSConfig) (a : EventCell) (b : ℕ) : Prop :=
  ∃ k, a.Offset k ∧ b = c.slotByte a.slot k

theorem cellByte_disjoint (hs : c.Spaced) {a b : EventCell} (ha : a.Valid c.toLayout)
    (hb : b.Valid c.toLayout) (hne : a ≠ b) {x : ℕ} (hx : CellByte c a x) : ¬ CellByte c b x := by
  obtain ⟨k, hk, rfl⟩ := hx
  rintro ⟨m, hm, he⟩
  have hka := ha.offset_lt hk
  have hmb := hb.offset_lt hm
  have hn := c.eeNumEvs.toNat_lt
  by_cases hslot : a.slot = b.slot
  · rw [hslot] at he
    have hkm : k = m := c.slotByte_inj b.slot (by omega) (by omega) he
    subst hkm
    cases a with
    | event i =>
      cases b with
      | event j => exact hne (congrArg EventCell.event hslot)
      | eventVariable j evnum =>
        have h1 := UInt8.le_iff_toNat_le.mp hb.2.1
        have hk4 : k < 4 := hk
        have hke : k = 3 + evnum.toNat := hm
        simp at h1
        omega
    | eventVariable i evnum =>
      cases b with
      | event j =>
        have h1 := UInt8.le_iff_toNat_le.mp ha.2.1
        have hk4 : k < 4 := hm
        have hke : k = 3 + evnum.toNat := hk
        simp at h1
        omega
      | eventVariable j evnum' =>
        have hke : k = 3 + evnum.toNat := hk
        have hke' : k = 3 + evnum'.toNat := hm
        have hev : evnum = evnum' := UInt8.toNat_inj.mp (by omega)
        have hij : i = j := hslot
        exact hne (by rw [hij, hev])
  · exact hs.slotByte_ne ha.slot_lt hb.slot_lt hslot hka hmb he

theorem readCell_congr {c' : CBUSConfig} (hu : c'.eventRam = c.eventRam) {a : EventCell}
    (hbytes : ∀ x, CellByte c a x → c'.flashBuf.read 0xFF x = c.flashBuf.read 0xFF x) :
    c'.readCell a = c.readCell a := by
  cases a with
  | event idx => exact readEvent_congr hu fun k hk => hbytes _ ⟨k, hk, rfl⟩
  | eventVariable idx evnum =>
    change c'.getEventEVval idx evnum = c.getEventEVval idx evnum
    rw [getEventEVval_eq, getEventEVval_eq, slotByte_congr hu]
    exact hbytes _ ⟨3 + evnum.toNat, rfl, rfl⟩

@[simp] theorem applyWrite_eventRam (c : CBUSConfig) (w : EventWrite) :
    (c.applyWrite w).eventRam = c.eventRam := by
  cases w with
  | writeEvent idx evInfo bFlush => exact c.writeEvent_eventRam idx evInfo bFlush
  | writeEventEV idx evnum evval => exact c.writeEventEV_eventRam idx evnum evval

theorem read_applyWrite_ne {w : EventWrite} {x : ℕ} (hx : ¬ CellByte c w.cell x) :
    (c.applyWrite w).flashBuf.read 0xFF x = c.flashBuf.read 0xFF x := by
  cases w with
  | writeEvent idx e f => exact read_writeEvent_ne f fun k hk he => hx ⟨k, hk, he⟩
  | writeEventEV idx evnum evval =>
    change (c.writeEventEV idx evnum evval).flashBuf.read 0xFF x = _
    rw [writeEventEV_eq, writeEEPROM_flashBuf, eventAddress_variable]
    apply Memory.read_write_ne
    exact fun he => hx ⟨3 + evnum.toNat, rfl, he⟩

theorem Addressable.readCell_applyWrite (h : Addressable l) (hb : Begun l c) {w : EventWrite}
    (hw : w.cell.Valid l) : (c.applyWrite w).readCell w.cell = w.value := by
  have hlt : ∀ k, w.cell.Offset k → c.slotByte w.cell.slot k < flashSectorSize :=
    fun k hk => h.slotByte_lt hb hw.slot_lt (hw.offset_lt hk)
  cases w with
  | writeEvent idx e f =>
    refine (readEvent_writeEvent f).trans (heldAs_eq_iff.mpr fun k hk => ?_)
    exact if_pos (hlt k hk)
  | writeEventEV idx evnum evval =>
    change (c.writeEventEV idx evnum evval).getEventEVval idx evnum = evval
    rw [getEventEVval_eq, slotByte_congr (c.writeEventEV_eventRam idx evnum evval), writeEventEV_eq,
      writeEEPROM_flashBuf, eventAddress_variable, Memory.read_write]
    exact if_pos ⟨rfl, hlt _ rfl⟩

theorem Addressable.independent (h : Addressable l) :
    Independent (Begun l) (EventCell.Valid l) readCell applyWrite EventWrite.cell
      EventWrite.value where
  keeps c w hb _ := hb.of_eventRam (c.applyWrite_eventRam w)
  read_step c w a hb hw ha := by
    have hb' : Begun l (c.applyWrite w) := hb.of_eventRam (c.applyWrite_eventRam w)
    by_cases he : a = w.cell
    · subst he
      rw [Function.update_self]
      exact h.readCell_applyWrite hb hw
    · rw [Function.update_of_ne he]
      apply readCell_congr (c.applyWrite_eventRam w)
      intro x hx
      apply read_applyWrite_ne
      exact cellByte_disjoint (h.spaced hb) (hb.1.symm ▸ ha) (hb.1.symm ▸ hw) he hx

/-- With a wrapped size the second slot starts at most three bytes behind the first, so that
its event overwrites the last byte of the first one's. -/
theorem not_cellsIndependent_of_wrap (hevs : 252 ≤ l.eeNumEvs.toNat)
    (hmax : 2 ≤ l.eeMaxEvents.toNat) : ¬ CellsIndependent l := by
  intro h
  let ws : List EventWrite := [.writeEvent 0 ⟨0, 0⟩ true, .writeEvent 1 evInfoUnused true]
  have hvalid : ∀ w ∈ ws, w.cell.Valid l := by
    have hone : (0 : UInt8) < l.eeMaxEvents ∧ (1 : UInt8) < l.eeMaxEvents := by
      constructor <;> rw [UInt8.lt_iff_toNat_lt] <;> simp <;> omega
    intro w hw
    rcases List.mem_pair.mp hw with rfl | rfl
    · exact hone.1
    · exact hone.2
  let c1 := (construct l (Memory.const 0)).begin.writeEvent 0 ⟨0, 0⟩ true
  let c2 := c1.writeEvent 1 evInfoUnused true
  have hread : c2.readEvent 0 = ⟨0, 0⟩ :=
    h (Memory.const 0) ws hvalid (.event 0) (hvalid (.writeEvent 0 ⟨0, 0⟩ true) List.mem_cons_self)
  have hb1 : Begun l c1 := (begun_begin l _).of_eventRam (writeEvent_eventRam _ _ _ _)
  have hsize : (l.eeNumEvs + 4).toNat ≤ 3 := by
    have hlt := l.eeNumEvs.toNat_lt
    rw [UInt8.toNat_add]
    simp
    omega
  have hshared : c1.slotByte 0 3 = c1.slotByte 1 (3 - (l.eeNumEvs + 4).toNat) := by
    simp only [slotByte, CBUSConfig.eventAddress, hb1.1, hb1.2, UInt32.toNat_add, UInt32.toNat_mul,
      UInt8.toNat_toUInt32, UInt32.toNat_ofNat']
    generalize (l.eeNumEvs + 4).toNat = size at hsize ⊢
    simp
    omega
  have hbyte : c2.flashBuf.read 0xFF (c2.slotByte 0 3) = 0xFF := by
    have herased := c1.read_clearEventEEPROM 1 true (c1.slotByte 0 3)
    rw [if_pos (mem_identityBytes.mpr ⟨3 - (l.eeNumEvs + 4).toNat, by omega, hshared.symm⟩)]
      at herased
    rw [slotByte_congr (writeEvent_eventRam c1 1 evInfoUnused true)]
    exact herased
  have hzero := readEvent_eq_iff.mp hread 3 (by omega)
  exact absurd (hbyte.symm.trans hzero) (by decide)

/-- For every layout whose event area lies inside the sector, computed without wrapping: the
cells do not overlap exactly if the size of a slot fits into a byte or there is one slot. -/
theorem cellsIndependent_iff (l : Layout)
    (hin : l.eeEventsStart.toNat + l.eeMaxEvents.toNat * (l.eeNumEvs.toNat + 4) ≤ 4096) :
    CellsIndependent l ↔ l.eeNumEvs ≤ 251 ∨ l.eeMaxEvents ≤ 1 := by
  have hiff : l.eeNumEvs ≤ 251 ∨ l.eeMaxEvents ≤ 1 ↔
      l.eeNumEvs.toNat ≤ 251 ∨ l.eeMaxEvents.toNat ≤ 1 := by
    rw [UInt8.le_iff_toNat_le, UInt8.le_iff_toNat_le]
    rfl
  rw [hiff]
  constructor
  · intro h
    by_contra hbad
    rw [not_or] at hbad
    exact not_cellsIndependent_of_wrap (by omega) (by omega) h
  · intro hstride flash ws hws a ha
    have haddr : Addressable l := ⟨hin, hstride⟩
    exact haddr.independent.read_run (begun_begin l flash) hws ha

/-- Three slots of 255 bytes from the start of the sector on, the largest size. -/
def largestSlots : Layout where
  eeEventsStart := 0
  eeMaxEvents := 3
  eeNumEvs := 251
  eeNvsStart := 4000
  eeNumNvs := 10

theorem cellsIndependent_iff_largestSlots :
    CellsIndependent largestSlots ↔ largestSlots.eeNumEvs ≤ 251 ∨ largestSlots.eeMaxEvents ≤ 1 :=
  cellsIndependent_iff largestSlots (by decide)

/-- Two slots of one variable more. -/
theorem not_cellsIndependent_wrapped :
    let l : Layout := { largestSlots with eeMaxEvents := 2, eeNumEvs := 252 }
    l.eeEventsStart.toNat + l.eeMaxEvents.toNat * (l.eeNumEvs.toNat + 4) ≤ 4096 ∧
      ¬ CellsIndependent l :=
  ⟨by decide, not_cellsIndependent_of_wrap (by decide) (by decide)⟩

end CBUSConfig
end CBUSPicoLib
