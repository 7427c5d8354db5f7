import CBUSPicoLib.Config.ByteStore

/-!
# Event table and RAM hash table

An event slot is `EE_BYTES_PER_EVENT` bytes of the image: node number, event
number, event variables. `evhashtbl` keeps one hash byte for each slot, zero
for a slot whose four identity bytes are `0xFF`. The two are written by
separate calls; `Coherent` is what keeps a lookup through the hash table equal
to a search of the storage.
-/

namespace CBUSPicoLib

open TaggedTable

/-- The object over the flash. -/
instance : ByteStore CBUSConfig where
  config c := c
  setConfig _ c := c
  readEEPROM := CBUSConfig.readEEPROM
  writeEEPROM c a v f := c.writeEEPROM a v f
  commitChanges := CBUSConfig.commitChanges
  loadCache c := { c with flashBuf := c.flash }
  erase := CBUSConfig.flashRangeErase

@[simp] theorem ByteStore.config_flash (c : CBUSConfig) : config c = c := rfl

@[simp] theorem ByteStore.readEEPROM_flash (c : CBUSConfig) (a : UInt32) :
    readEEPROM c a = c.readEEPROM a := rfl

@[simp] theorem ByteStore.writeEEPROM_flash (c : CBUSConfig) (a : UInt32) (v : UInt8) (f : Bool) :
    writeEEPROM c a v f = c.writeEEPROM a v f := rfl

@[simp] theorem ByteStore.commitChanges_flash (c : CBUSConfig) :
    commitChanges c = c.commitChanges := rfl

namespace CBUSConfig

def readEvent (c : CBUSConfig) (idx : UInt8) : EventInfo := ByteStore.readEvent c idx

def getEventEVval (c : CBUSConfig) (idx evnum : UInt8) : UInt8 :=
  ByteStore.getEventEVval c idx evnum

def writeEventEV (c : CBUSConfig) (idx evnum evval : UInt8) : CBUSConfig :=
  ByteStore.writeEventEV c idx evnum evval

def writeEvent (c : CBUSConfig) (index : UInt8) (evInfo : EventInfo) (bFlush : Bool := true) :
    CBUSConfig := ByteStore.writeEvent c index evInfo bFlush

def clearEventEEPROM (c : CBUSConfig) (index : UInt8) (bFlush : Bool := true) : CBUSConfig :=
  ByteStore.clearEventEEPROM c index bFlush

def clearEventsEEPROM (c : CBUSConfig) : CBUSConfig := ByteStore.clearEventsEEPROM c

def eventHash (c : CBUSConfig) (idx : UInt8) : UInt8 := ByteStore.eventHash c idx

def makeEvHashTable (c : CBUSConfig) : CBUSConfig := ByteStore.makeEvHashTable c

def updateEvHashEntry (c : CBUSConfig) (idx : UInt8) : CBUSConfig :=
  ByteStore.updateEvHashEntry c idx

def findExistingEvent (c : CBUSConfig) (nn en : UInt16) : UInt8 :=
  ByteStore.findExistingEvent c nn en

def learnSlot (c : CBUSConfig) (nn en : UInt16) : UInt8 := ByteStore.learnSlot c nn en

def learnEvent (c : CBUSConfig) (index : UInt8) (evInfo : EventInfo) (evNum evVal : UInt8) :
    CBUSConfig := ByteStore.learnEvent c index evInfo evNum evVal

def unlearnEvent (c : CBUSConfig) (index : UInt8) : CBUSConfig := ByteStore.unlearnEvent c index

@[simp] theorem readEvent_flash (c : CBUSConfig) (idx : UInt8) :
    ByteStore.readEvent c idx = c.readEvent idx := rfl

theorem writeEventEV_eq (c : CBUSConfig) (idx evnum evval : UInt8) :
    c.writeEventEV idx evnum evval = c.writeEEPROM (c.eventAddress idx (3 + evnum.toUInt32)) evval := rfl

theorem writeEvent_flushed (c : CBUSConfig) (index : UInt8) (e : EventInfo) :
    c.writeEvent index e = (c.writeEvent index e false).commitChanges := by
  simp [writeEvent, ByteStore.writeEvent]

theorem clearEventEEPROM_eq (c : CBUSConfig) (index : UInt8) (f : Bool) :
    c.clearEventEEPROM index f = c.writeEvent index evInfoUnused f := rfl

theorem clearEventsEEPROM_eq (c : CBUSConfig) : c.clearEventsEEPROM =
    ((List.range c.eeMaxEvents.toNat).foldl
      (fun c e => c.clearEventEEPROM (UInt8.ofNat e) false) c).commitChanges := rfl

theorem learnSlot_eq (c : CBUSConfig) (nn en : UInt16) : c.learnSlot nn en =
    if (c.findExistingEvent nn en).toNat < c.eeMaxEvents.toNat then c.findExistingEvent nn en
    else c.findEventSpace := rfl

theorem learnEvent_eq (c : CBUSConfig) (index : UInt8) (e : EventInfo) (evNum evVal : UInt8) :
    c.learnEvent index e evNum evVal =
      ((if evNum < 2 then c.writeEvent index e else c).writeEventEV index evNum
        evVal).updateEvHashEntry index := rfl

theorem length_updateEvHashEntry (c : CBUSConfig) (idx : UInt8) :
    (c.updateEvHashEntry idx).evhashtbl.length = c.evhashtbl.length := List.length_set

theorem makeEvHashTable_evhashtbl (c : CBUSConfig) : c.makeEvHashTable.evhashtbl =
    (List.range c.eeMaxEvents.toNat).map fun idx => c.eventHash (UInt8.ofNat idx) := rfl

theorem length_makeEvHashTable (c : CBUSConfig) :
    c.makeEvHashTable.evhashtbl.length = c.eeMaxEvents.toNat := by
  rw [makeEvHashTable_evhashtbl, List.length_map, List.length_range]

theorem eventHash_eq (c : CBUSConfig) (idx : UInt8) : c.eventHash idx =
    if c.readEvent idx = evInfoUnused then 0 else makeHash (c.readEvent idx) := rfl

/-- The RAM hash table says about every slot what its stored bytes say, the
collision flag is exact, and no event is stored twice. -/
structure Coherent (c : CBUSConfig) : Prop where
  allocated : c.evhashtbl.length = c.eeMaxEvents.toNat
  unused : ∀ i < c.eeMaxEvents.toNat,
    c.hashEntry i = 0 ↔ c.readEvent (UInt8.ofNat i) = evInfoUnused
  used : ∀ i < c.eeMaxEvents.toNat, c.readEvent (UInt8.ofNat i) ≠ evInfoUnused →
    c.hashEntry i = makeHash (c.readEvent (UInt8.ofNat i))
  collisions : c.bHashCollisions = true ↔ ∃ i < c.eeMaxEvents.toNat, ∃ j < c.eeMaxEvents.toNat,
    i ≠ j ∧ c.hashEntry i = c.hashEntry j ∧ c.hashEntry i ≠ 0
  distinct : ∀ i < c.eeMaxEvents.toNat, ∀ j < c.eeMaxEvents.toNat,
    c.readEvent (UInt8.ofNat i) ≠ evInfoUnused →
      c.readEvent (UInt8.ofNat i) = c.readEvent (UInt8.ofNat j) → i = j

def slot (c : CBUSConfig) (i : ℕ) : Option EventInfo := ByteStore.slot c i

theorem slot_eq_some {c : CBUSConfig} {i : ℕ} {e : EventInfo} :
    c.slot i = some e ↔ c.readEvent (UInt8.ofNat i) = e ∧ e ≠ evInfoUnused :=
  ByteStore.slot_eq_some

theorem slot_eq_none {c : CBUSConfig} {i : ℕ} :
    c.slot i = none ↔ c.readEvent (UInt8.ofNat i) = evInfoUnused := ByteStore.slot_eq_none

theorem slot_congr {c c' : CBUSConfig} {i : ℕ}
    (h : c'.readEvent (UInt8.ofNat i) = c.readEvent (UInt8.ofNat i)) : c'.slot i = c.slot i := by
  unfold slot ByteStore.slot
  rw [readEvent_flash, readEvent_flash, h]

theorem eventHash_eq_elim (c : CBUSConfig) (i : ℕ) :
    c.eventHash (UInt8.ofNat i) = (c.slot i).elim 0 makeHash := ByteStore.eventHash_eq_elim c i

theorem checkHashCollisions_iff (c : CBUSConfig) :
    c.checkHashCollisions = true ↔ Clashing c.eeMaxEvents.toNat 0 c.hashEntry := by
  simp only [checkHashCollisions, List.any_eq_true, List.mem_range, List.mem_range'_1,
    Bool.and_eq_true, beq_iff_eq, bne_iff_ne, Clashing]
  constructor
  · rintro ⟨i, hi, j, hj, he, hz⟩
    exact ⟨i, by omega, j, by omega, by omega, he, hz⟩
  · rintro ⟨i, hi, j, hj, hij, he, hz⟩
    exact ⟨i, by omega, j, by omega, he, hz⟩

theorem exists_ne_iff_clashing (c : CBUSConfig) :
    (∃ i < c.eeMaxEvents.toNat, ∃ j < c.eeMaxEvents.toNat,
      i ≠ j ∧ c.hashEntry i = c.hashEntry j ∧ c.hashEntry i ≠ 0) ↔
      Clashing c.eeMaxEvents.toNat 0 c.hashEntry := by
  constructor
  · rintro ⟨i, hi, j, hj, hij, he, hz⟩
    rcases lt_or_gt_of_ne hij with h | h
    · exact ⟨i, hi, j, hj, h, he, hz⟩
    · exact ⟨j, hj, i, hi, h, he.symm, he ▸ hz⟩
  · rintro ⟨i, hi, j, hj, hij, he, hz⟩
    exact ⟨i, hi, j, hj, hij.ne, he, hz⟩

theorem coherent_iff (c : CBUSConfig) :
    c.Coherent ↔ c.evhashtbl.length = c.eeMaxEvents.toNat ∧
      Describes c.eeMaxEvents.toNat makeHash 0 c.slot c.hashEntry ∧
      c.bHashCollisions = c.checkHashCollisions ∧ Distinct c.eeMaxEvents.toNat c.slot := by
  have hclash := c.exists_ne_iff_clashing.trans c.checkHashCollisions_iff.symm
  have hcoll : (c.bHashCollisions = true ↔ ∃ i < c.eeMaxEvents.toNat,
      ∃ j < c.eeMaxEvents.toNat, i ≠ j ∧ c.hashEntry i = c.hashEntry j ∧ c.hashEntry i ≠ 0) ↔
      c.bHashCollisions = c.checkHashCollisions :=
    ⟨fun h => Bool.eq_iff_iff.mpr (h.trans hclash),
      fun h => (Bool.eq_iff_iff.mp h).trans hclash.symm⟩
  constructor
  · intro h
    refine ⟨h.allocated, ?_, hcoll.mp h.collisions, ?_⟩
    · intro i hi
      by_cases hu : c.readEvent (UInt8.ofNat i) = evInfoUnused
      · rw [slot_eq_none.mpr hu, (h.unused i hi).mpr hu]
        rfl
      · rw [slot_eq_some.mpr ⟨rfl, hu⟩, h.used i hi hu]
        rfl
    · intro i hi j hj k hki hkj
      rw [slot_eq_some] at hki hkj
      exact h.distinct i hi j hj (hki.1 ▸ hki.2) (hki.1.trans hkj.1.symm)
  · rintro ⟨hlen, hd, hc, hdist⟩
    refine ⟨hlen, ?_, ?_, hcoll.mpr hc, ?_⟩
    · intro i hi
      rw [hd i hi, ← slot_eq_none]
      cases hs : c.slot i with
      | none => simp
      | some e => simp [makeHash_ne_zero]
    · intro i hi hu
      rw [hd i hi, slot_eq_some.mpr ⟨rfl, hu⟩]
      rfl
    · intro i hi j hj hu he
      exact hdist i hi j hj _ (slot_eq_some.mpr ⟨rfl, hu⟩) (slot_eq_some.mpr ⟨he.symm, hu⟩)

theorem findExistingEvent_toNat_eq_lookup {c : CBUSConfig}
    (hd : Describes c.eeMaxEvents.toNat makeHash 0 c.slot c.hashEntry) (nn en : UInt16) :
    (c.findExistingEvent nn en).toNat =
      lookup c.eeMaxEvents.toNat makeHash c.bHashCollisions c.slot c.hashEntry ⟨nn, en⟩ :=
  ByteStore.findExistingEvent_toNat hd nn en

/-- With coherent tables a lookup is the plain search of the stored events,
whatever hashes collide. -/
theorem Coherent.findExistingEvent_toNat {c : CBUSConfig} (h : c.Coherent) (nn en : UInt16) :
    (c.findExistingEvent nn en).toNat =
      firstIndex c.eeMaxEvents.toNat fun i => c.slot i = some ⟨nn, en⟩ := by
  obtain ⟨-, hd, hc, -⟩ := c.coherent_iff.mp h
  rw [findExistingEvent_toNat_eq_lookup hd]
  exact lookup_eq hd makeHash_ne_zero (by rw [hc, checkHashCollisions_iff]) _

end CBUSConfig
end CBUSPicoLib
