import CBUSPicoLib.Config.Coherence

/-!
# Node identity, node variables, power-up and factory reset

The first six bytes of the image hold the FLiM mode, the CAN ID, the node
number and the reset flag; RAM copies of them are loaded by `begin`. A factory
reset erases the flash and writes the defaults through the cache, which still
holds the old image.
-/

namespace CBUSPicoLib
namespace CBUSConfig

def setFLiM (c : CBUSConfig) (flim : Bool) : CBUSConfig := ByteStore.setFLiM c flim

def setCANID (c : CBUSConfig) (canid : UInt8) : Bool × CBUSConfig := ByteStore.setCANID c canid

def setNodeNum (c : CBUSConfig) (nn : UInt32) : CBUSConfig := ByteStore.setNodeNum c nn

def setResetFlag (c : CBUSConfig) : CBUSConfig := ByteStore.setResetFlag c

def clearResetFlag (c : CBUSConfig) : CBUSConfig := ByteStore.clearResetFlag c

def readNV (c : CBUSConfig) (idx : UInt8) : UInt8 := ByteStore.readNV c idx

def writeNV (c : CBUSConfig) (idx val : UInt8) : CBUSConfig := ByteStore.writeNV c idx val

def loadNVs (c : CBUSConfig) : CBUSConfig := ByteStore.loadNVs c

def begin (c : CBUSConfig) : CBUSConfig := ByteStore.begin c

def resetModule (c : CBUSConfig) : CBUSConfig := ByteStore.resetModule c

theorem setCANID_eq (c : CBUSConfig) (canid : UInt8) : c.setCANID canid =
    if 1 ≤ canid ∧ canid ≤ 99 then (true, { c with canId := canid }.writeEEPROM ofsCanId canid)
    else (false, c) := rfl

theorem setNodeNum_eq (c : CBUSConfig) (nn : UInt32) : c.setNodeNum nn =
    (({ c with nodeNum := nn }.writeEEPROM ofsNodeNumHb (highByte nn.toNat) false).writeEEPROM
      ofsNodeNumLb (lowByte nn.toNat) false).commitChanges := rfl

theorem setResetFlag_eq (c : CBUSConfig) : c.setResetFlag = c.writeEEPROM ofsResetFlag resetFlag :=
  rfl

theorem clearResetFlag_eq (c : CBUSConfig) : c.clearResetFlag = c.writeEEPROM ofsResetFlag 0 := rfl

theorem readNV_eq (c : CBUSConfig) (idx : UInt8) :
    c.readNV idx = c.readEEPROM (c.eeNvsStart + (idx.toUInt32 - 1)) := rfl

theorem writeNV_eq (c : CBUSConfig) (idx val : UInt8) :
    c.writeNV idx val = c.writeEEPROM (c.eeNvsStart + (idx.toUInt32 - 1)) val := rfl

theorem loadNVs_of_blank {c : CBUSConfig} (h : c.readEEPROM ofsResetFlag = 0xFF) : c.loadNVs =
    (((c.setFLiM false).setCANID defaultCanid).2.setNodeNum defaultNn).clearResetFlag := if_pos h

theorem loadNVs_of_marked {c : CBUSConfig} (h : c.readEEPROM ofsResetFlag ≠ 0xFF) : c.loadNVs =
    { c with
      bFLiM := c.readEEPROM ofsFlimMode != 0
      canId := c.readEEPROM ofsCanId
      nodeNum := (bytesToWord (c.readEEPROM ofsNodeNumHb)
        (c.readEEPROM ofsNodeNumLb)).toUInt32 } := if_neg h

/-- The module after a restart: a new object, started on the flash content. -/
def powerUp (c : CBUSConfig) : CBUSConfig := (construct c.toLayout c.flash).begin

/-- `c'` differs from `c` in the identity only: bytes 0 to 5 and their RAM copies. -/
structure SameTables (c c' : CBUSConfig) : Prop where
  ram : c'.eventRam = c.eventRam
  image : ∀ a, 6 ≤ a → c'.flashBuf.read 0xFF a = c.flashBuf.read 0xFF a

theorem SameTables.refl (c : CBUSConfig) : SameTables c c := ⟨rfl, fun _ _ => rfl⟩

theorem SameTables.trans {c d e : CBUSConfig} (h : SameTables c d) (k : SameTables d e) :
    SameTables c e :=
  ⟨k.ram.trans h.ram, fun a ha => (k.image a ha).trans (h.image a ha)⟩

theorem SameTables.toLayout {c c' : CBUSConfig} (h : SameTables c c') :
    c'.toLayout = c.toLayout := congrArg Prod.fst h.ram

theorem sameTables_writeEEPROM (c : CBUSConfig) {a : UInt32} (ha : a.toNat < 6) (v : UInt8)
    (f : Bool) : SameTables c (c.writeEEPROM a v f) := by
  refine ⟨c.writeEEPROM_eventRam a v f, fun b hb => ?_⟩
  rw [writeEEPROM_flashBuf, Memory.read_write_ne (by omega)]

theorem sameTables_setFLiM (c : CBUSConfig) (flim : Bool) : SameTables c (c.setFLiM flim) := by
  have h0 : SameTables c { c with bFLiM := flim } := ⟨rfl, fun _ _ => rfl⟩
  exact h0.trans (sameTables_writeEEPROM _ (by decide : ofsFlimMode.toNat < 6) _ true)

theorem sameTables_setCANID (c : CBUSConfig) (canid : UInt8) :
    SameTables c (c.setCANID canid).2 := by
  have h0 : SameTables c { c with canId := canid } := ⟨rfl, fun _ _ => rfl⟩
  rw [setCANID_eq]
  split_ifs
  · exact h0.trans (sameTables_writeEEPROM _ (by decide : ofsCanId.toNat < 6) canid true)
  · exact SameTables.refl c

theorem sameTables_setNodeNum (c : CBUSConfig) (nn : UInt32) :
    SameTables c (c.setNodeNum nn) := by
  have h0 : SameTables c { c with nodeNum := nn } := ⟨rfl, fun _ _ => rfl⟩
  have h1 := h0.trans (sameTables_writeEEPROM _ (by decide : ofsNodeNumHb.toNat < 6)
    (highByte nn.toNat) false)
  have h2 := h1.trans (sameTables_writeEEPROM _ (by decide : ofsNodeNumLb.toNat < 6)
    (lowByte nn.toNat) false)
  exact h2.trans ⟨commitChanges_eventRam _, fun a _ =>
    congrArg (Memory.read · 0xFF a) (commitChanges_flashBuf _)⟩

theorem sameTables_loadNVs (c : CBUSConfig) : SameTables c c.loadNVs := by
  by_cases hflag : c.readEEPROM ofsResetFlag = 0xFF
  · rw [loadNVs_of_blank hflag, clearResetFlag_eq]
    exact (((sameTables_setFLiM _ _).trans (sameTables_setCANID _ _)).trans
      (sameTables_setNodeNum _ _)).trans
      (sameTables_writeEEPROM _ (by decide : ofsResetFlag.toNat < 6) _ _)
  · rw [loadNVs_of_marked hflag]
    exact ⟨rfl, fun _ _ => rfl⟩

theorem SameTables.readEvent {c c' : CBUSConfig} (h : SameTables c c') (hp : c.Placed)
    {idx : UInt8} (hi : idx.toNat < c.eeMaxEvents.toNat) :
    c'.readEvent idx = c.readEvent idx := by
  apply hp.readEvent_congr h.ram hi
  intro k hk
  exact h.image _ (hp.fits.slotBase_add hi (by omega)).1

theorem SameTables.coherent {c c' : CBUSConfig} (h : SameTables c c') (hp : c.Placed)
    (hc : c.Coherent) : c'.Coherent :=
  hc.congr h.ram fun _ hi => h.readEvent hp (by rwa [toNat_ofNat_index hi])

@[simp] theorem setFLiM_identityRam (c : CBUSConfig) (flim : Bool) :
    (c.setFLiM flim).identityRam = (c.canId, flim, c.nodeNum) :=
  writeEEPROM_identityRam _ _ _ _

theorem setCANID_identityRam (c : CBUSConfig) {canid : UInt8} (h : 1 ≤ canid ∧ canid ≤ 99) :
    (c.setCANID canid).2.identityRam = (canid, c.bFLiM, c.nodeNum) := by
  rw [setCANID_eq, if_pos h]
  exact writeEEPROM_identityRam _ _ _ _

@[simp] theorem setNodeNum_identityRam (c : CBUSConfig) (nn : UInt32) :
    (c.setNodeNum nn).identityRam = (c.canId, c.bFLiM, nn) := by
  rw [setNodeNum_eq]
  simp only [commitChanges_identityRam, writeEEPROM_identityRam]
  rfl

theorem loadNVs_of_resetFlag {c : CBUSConfig} (h : c.readEEPROM ofsResetFlag = 0xFF) :
    c.loadNVs.identityRam = (defaultCanid, false, defaultNn) := by
  have hflim := c.setFLiM_identityRam false
  have hcan := (c.setFLiM false).setCANID_identityRam
    (by decide : 1 ≤ defaultCanid ∧ defaultCanid ≤ 99)
  have hnn := ((c.setFLiM false).setCANID defaultCanid).2.setNodeNum_identityRam defaultNn
  rw [loadNVs_of_blank h, clearResetFlag_eq, writeEEPROM_identityRam, hnn]
  simp only [identityRam, Prod.mk.injEq] at hflim hcan ⊢
  exact ⟨hcan.1, hcan.2.1.trans hflim.2.1, trivial⟩

theorem loadNVs_of_initialized {c : CBUSConfig} (h : c.readEEPROM ofsResetFlag ≠ 0xFF) :
    c.loadNVs.identityRam = (c.readEEPROM ofsCanId, c.readEEPROM ofsFlimMode != 0,
      (bytesToWord (c.readEEPROM ofsNodeNumHb) (c.readEEPROM ofsNodeNumLb)).toUInt32) := by
  rw [loadNVs_of_marked h]
  rfl

@[simp] theorem setCANID_mode (c : CBUSConfig) (canid : UInt8) :
    (c.setCANID canid).2.bFLiM = c.bFLiM ∧ (c.setCANID canid).2.nodeNum = c.nodeNum := by
  by_cases h : 1 ≤ canid ∧ canid ≤ 99
  · have hram := c.setCANID_identityRam h
    simp only [identityRam, Prod.mk.injEq] at hram
    exact hram.2
  · simp [setCANID_eq, h]

@[simp] theorem writeEvent_identityRam (c : CBUSConfig) (index : UInt8) (e : EventInfo)
    (bFlush : Bool) : (c.writeEvent index e bFlush).identityRam = c.identityRam := by
  cases bFlush <;> simp [writeEvent, ByteStore.writeEvent]

@[simp] theorem clearEventEEPROM_identityRam (c : CBUSConfig) (index : UInt8) (bFlush : Bool) :
    (c.clearEventEEPROM index bFlush).identityRam = c.identityRam := by
  simp [clearEventEEPROM_eq]

@[simp] theorem clearEventsEEPROM_identityRam (c : CBUSConfig) :
    c.clearEventsEEPROM.identityRam = c.identityRam := by
  rw [clearEventsEEPROM_eq, commitChanges_identityRam]
  induction List.range c.eeMaxEvents.toNat generalizing c with
  | nil => rfl
  | cons e es ih => simp [ih]

theorem learnEvent_identityRam (c : CBUSConfig) (index : UInt8) (e : EventInfo)
    (evNum evVal : UInt8) : (c.learnEvent index e evNum evVal).identityRam = c.identityRam := by
  rw [learnEvent_eq]
  by_cases h : evNum < 2
  · simp only [h, if_true]
    exact (writeEEPROM_identityRam _ _ _ _).trans (writeEvent_identityRam _ _ _ _)
  · simp only [h, if_false]
    exact writeEEPROM_identityRam _ _ _ _

@[simp] theorem writeNV_identityRam (c : CBUSConfig) (idx val : UInt8) :
    (c.writeNV idx val).identityRam = c.identityRam := writeEEPROM_identityRam _ _ _ _

/-- The object that `begin` hands to `loadNVs`. -/
def loaded (c : CBUSConfig) : CBUSConfig :=
  { c with eeBytesPerEvent := c.eeNumEvs + 4, flashBuf := c.flash }.makeEvHashTable

theorem begin_eq (c : CBUSConfig) : c.begin = c.loaded.loadNVs := rfl

theorem placed_loaded {c : CBUSConfig} (h : c.toLayout.Fits) : c.loaded.Placed := ⟨h, rfl⟩

theorem loaded_hashEntry (c : CBUSConfig) {i : ℕ} (hi : i < c.eeMaxEvents.toNat) :
    c.loaded.hashEntry i = c.loaded.eventHash (UInt8.ofNat i) :=
  makeEvHashTable_hashEntry { c with
    eeBytesPerEvent := c.eeNumEvs + 4, flashBuf := c.flash } hi

theorem placed_begin {c : CBUSConfig} (h : c.toLayout.Fits) : c.begin.Placed :=
  (placed_loaded h).of_eventRam (sameTables_loadNVs c.loaded).ram

end CBUSConfig
end CBUSPicoLib
