import CBUSPicoLib.Library.Memory
import CBUSPicoLib.Can.Frame

/-!
# Configuration storage: the RAM cache of a flash sector

`CBUSConfig` with `EEPROM_USES_FLASH`. All bytes are written to `flashBuf`;
`flushToFlash` programs the sector from it, erasing first when some write
raised a bit. Erasing sets the sector to `0xFF`, programming clears bits only.
The two flags are kept per write against the cache, so the erase is skipped
soundly only under `CacheSound`, which every write preserves and every flush
turns into `Synced`.
-/

namespace CBUSPicoLib

/-- `FLASH_SECTOR_SIZE`, the size of `m_flashBuf`. -/
abbrev flashSectorSize : ℕ := 4096

abbrev FlashImage := Memory flashSectorSize UInt8

/-- The variables that the application sets before `begin`. -/
structure Layout where
  eeEventsStart : UInt32
  eeMaxEvents : UInt8
  eeNumEvs : UInt8
  eeNvsStart : UInt32
  eeNumNvs : UInt8

/-- The configuration object together with the flash sector it owns. The
defaults are those of the constructor. -/
structure CBUSConfig extends Layout where
  eeBytesPerEvent : UInt8 := 0
  evhashtbl : List UInt8 := []
  bHashCollisions : Bool := false
  bFlashModified : Bool := false
  bFlashZeroToOne : Bool := false
  flashBuf : FlashImage := Memory.const 0
  canId : UInt8 := 0
  bFLiM : Bool := false
  nodeNum : UInt32 := 0
  flash : FlashImage

namespace CBUSConfig

/-- A newly constructed object over the content of the flash sector. -/
def construct (l : Layout) (flash : FlashImage) : CBUSConfig := { l with flash }

def flashRangeErase (c : CBUSConfig) : CBUSConfig := { c with flash := Memory.const 0xFF }

def flashRangeProgram (c : CBUSConfig) : CBUSConfig :=
  { c with flash := c.flash.zipWith (· &&& ·) c.flashBuf }

def setChipEEPROMVal (c : CBUSConfig) (eeaddress : UInt32) (val : UInt8) : CBUSConfig :=
  if eeaddress.toNat < flashSectorSize then
    let curVal := c.flashBuf.read 0xFF eeaddress.toNat
    { c with
      bFlashModified := c.bFlashModified || val != curVal
      bFlashZeroToOne := c.bFlashZeroToOne || val &&& ~~~curVal != 0
      flashBuf := c.flashBuf.write eeaddress.toNat val }
  else c

def flushToFlash (c : CBUSConfig) : CBUSConfig :=
  let c :=
    if c.bFlashModified then
      (if c.bFlashZeroToOne then c.flashRangeErase else c).flashRangeProgram
    else c
  { c with bFlashModified := false, bFlashZeroToOne := false }

/-- Read a byte from the cache, `0xFF` beyond the flash bounds. -/
def getChipEEPROMVal (c : CBUSConfig) (eeaddress : UInt32) : UInt8 :=
  c.flashBuf.read 0xFF eeaddress.toNat

def readEEPROM (c : CBUSConfig) (eeaddress : UInt32) : UInt8 := c.getChipEEPROMVal eeaddress

def writeEEPROM (c : CBUSConfig) (eeaddress : UInt32) (data : UInt8) (bFlush : Bool := true) :
    CBUSConfig :=
  let c := c.setChipEEPROMVal eeaddress data
  if bFlush then c.flushToFlash else c

def commitChanges (c : CBUSConfig) : CBUSConfig := c.flushToFlash

@[simp] theorem setChipEEPROMVal_flashBuf (c : CBUSConfig) (a : UInt32) (v : UInt8) :
    (c.setChipEEPROMVal a v).flashBuf = c.flashBuf.write a.toNat v := by
  unfold setChipEEPROMVal
  split_ifs with h
  · rfl
  · funext i
    have hi : i.val ≠ a.toNat := fun e => h (e ▸ i.isLt)
    simp [Memory.write, hi]

@[simp] theorem setChipEEPROMVal_flash (c : CBUSConfig) (a : UInt32) (v : UInt8) :
    (c.setChipEEPROMVal a v).flash = c.flash := by
  unfold setChipEEPROMVal
  split_ifs <;> rfl

@[simp] theorem flushToFlash_flashBuf (c : CBUSConfig) :
    c.flushToFlash.flashBuf = c.flashBuf := by
  unfold flushToFlash
  split_ifs <;> rfl

@[simp] theorem writeEEPROM_flashBuf (c : CBUSConfig) (a : UInt32) (v : UInt8) (f : Bool) :
    (c.writeEEPROM a v f).flashBuf = c.flashBuf.write a.toNat v := by
  cases f <;> simp [writeEEPROM]

@[simp] theorem commitChanges_flashBuf (c : CBUSConfig) :
    c.commitChanges.flashBuf = c.flashBuf := c.flushToFlash_flashBuf

/-- The part of the object that belongs to the event table and is kept in RAM. -/
def eventRam (c : CBUSConfig) : Layout × UInt8 × List UInt8 × Bool :=
  (c.toLayout, c.eeBytesPerEvent, c.evhashtbl, c.bHashCollisions)

def identityRam (c : CBUSConfig) : UInt8 × Bool × UInt32 := (c.canId, c.bFLiM, c.nodeNum)

theorem setChipEEPROMVal_ram (c : CBUSConfig) (a : UInt32) (v : UInt8) :
    (c.setChipEEPROMVal a v).eventRam = c.eventRam ∧
      (c.setChipEEPROMVal a v).identityRam = c.identityRam := by
  unfold setChipEEPROMVal
  split_ifs <;> exact ⟨rfl, rfl⟩

theorem flushToFlash_ram (c : CBUSConfig) :
    c.flushToFlash.eventRam = c.eventRam ∧ c.flushToFlash.identityRam = c.identityRam := by
  unfold flushToFlash
  split_ifs <;> exact ⟨rfl, rfl⟩

@[simp] theorem commitChanges_eventRam (c : CBUSConfig) :
    c.commitChanges.eventRam = c.eventRam := c.flushToFlash_ram.1

@[simp] theorem commitChanges_identityRam (c : CBUSConfig) :
    c.commitChanges.identityRam = c.identityRam := c.flushToFlash_ram.2

@[simp] theorem writeEEPROM_eventRam (c : CBUSConfig) (a : UInt32) (v : UInt8) (f : Bool) :
    (c.writeEEPROM a v f).eventRam = c.eventRam := by
  cases f <;> simp [writeEEPROM, setChipEEPROMVal_ram, flushToFlash_ram]

@[simp] theorem writeEEPROM_identityRam (c : CBUSConfig) (a : UInt32) (v : UInt8) (f : Bool) :
    (c.writeEEPROM a v f).identityRam = c.identityRam := by
  cases f <;> simp [writeEEPROM, setChipEEPROMVal_ram, flushToFlash_ram]

/-- An unmodified cache equals the flash; without a raised bit it is a bitwise
subset of the flash, so that programming alone reaches it. -/
structure CacheSound (c : CBUSConfig) : Prop where
  clean : c.bFlashModified = false → c.flashBuf = c.flash
  lowered : c.bFlashZeroToOne = false → ∀ i, c.flash i &&& c.flashBuf i = c.flashBuf i

/-- Cache and flash agree and no write is pending. -/
structure Synced (c : CBUSConfig) : Prop where
  flash_eq : c.flash = c.flashBuf
  modified : c.bFlashModified = false
  zeroToOne : c.bFlashZeroToOne = false

theorem Synced.cacheSound {c : CBUSConfig} (h : c.Synced) : c.CacheSound :=
  ⟨fun _ => h.flash_eq.symm, fun _ i => by rw [h.flash_eq]; exact UInt8.and_self⟩

theorem and_eq_of_not_raising {v cur : UInt8} (h : v &&& ~~~cur = 0) : cur &&& v = v := by
  have hb := congrArg UInt8.toBitVec h
  apply UInt8.eq_of_toBitVec_eq
  ext i hi
  have := congrArg (·.getLsbD i) hb
  simp at this ⊢
  grind

theorem erased_and (v : UInt8) : 0xFF &&& v = v := by
  apply and_eq_of_not_raising
  rw [show ~~~(0xFF : UInt8) = 0 from by decide, UInt8.and_zero]

theorem CacheSound.setChipEEPROMVal {c : CBUSConfig} (h : c.CacheSound) (a : UInt32)
    (v : UInt8) : (c.setChipEEPROMVal a v).CacheSound := by
  unfold CBUSConfig.setChipEEPROMVal
  split_ifs with ha
  · constructor
    · intro hm
      simp only [Bool.or_eq_false_iff, bne_eq_false_iff_eq] at hm
      rw [← h.clean hm.1]
      exact Memory.write_eq_self hm.2.symm
    · intro hz i
      simp only [Bool.or_eq_false_iff, bne_eq_false_iff_eq] at hz
      have hlow := h.lowered hz.1 i
      by_cases hi : i.val = a.toNat
      · -- the byte is contained in the cached one, which is contained in the flash
        have hcur : c.flashBuf.read 0xFF a.toNat = c.flashBuf i := by
          rw [Memory.read_of_lt ha]
          exact congrArg c.flashBuf (Fin.ext hi.symm)
        have hv := and_eq_of_not_raising hz.2
        rw [hcur] at hv
        simp only [Memory.write, hi, if_true]
        rw [← hv, ← UInt8.and_assoc, hlow]
      · simpa [Memory.write, hi] using hlow
  · exact h

/-- Whatever was written since the last flush, a flush makes the flash equal to
the cache. -/
theorem CacheSound.flushToFlash {c : CBUSConfig} (h : c.CacheSound) :
    c.flushToFlash.Synced := by
  refine ⟨?_, rfl, rfl⟩
  unfold CBUSConfig.flushToFlash
  dsimp only
  split_ifs with hm hz
  · funext i
    exact erased_and (c.flashBuf i)
  · funext i
    exact h.lowered (by simpa using hz) i
  · exact (h.clean (by simpa using hm)).symm

theorem CacheSound.writeEEPROM {c : CBUSConfig} (h : c.CacheSound) (a : UInt32) (v : UInt8)
    (f : Bool) : (c.writeEEPROM a v f).CacheSound := by
  cases f
  · exact h.setChipEEPROMVal a v
  · exact (h.setChipEEPROMVal a v).flushToFlash.cacheSound

theorem CacheSound.commitChanges {c : CBUSConfig} (h : c.CacheSound) :
    c.commitChanges.Synced := h.flushToFlash

theorem Synced.writeEEPROM {c : CBUSConfig} (h : c.Synced) (a : UInt32) (v : UInt8) :
    (c.writeEEPROM a v).Synced := (h.cacheSound.setChipEEPROMVal a v).flushToFlash

end CBUSConfig
end CBUSPicoLib
