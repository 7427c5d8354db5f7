import CBUSPicoLib.Config.Persistence

/-!
# What a factory reset leaves behind

`resetModule` erases the sector but keeps the RAM cache, which still holds the
old image. As soon as one of the following byte writes changes the cache, the
flush programs the whole old image back; if none does, the sector stays erased.
Both outcomes are followed through the next power-up.
-/

namespace CBUSPicoLib
namespace CBUSConfig

open TaggedTable

/-- No event, SLiM with node number 0, and node variables that read 0. -/
structure FactoryFresh (c : CBUSConfig) : Prop where
  noEvents : c.numEvents = 0
  notFound : ∀ nn en, ¬ (c.findExistingEvent nn en).toNat < c.eeMaxEvents.toNat
  slim : c.bFLiM = false
  nodeNum : c.nodeNum = 0
  nvs : ∀ idx : UInt8, 0 < idx.toNat → idx.toNat ≤ c.eeNumNvs.toNat → c.readNV idx = 0

/-- Some slot of the image holds an event. -/
def StoresEvent (c : CBUSConfig) : Prop :=
  ∃ i < c.eeMaxEvents.toNat, c.readEvent (UInt8.ofNat i) ≠ evInfoUnused

/-- A pending write, or an identity byte that the reset has to change. -/
def ChangesHeader (c : CBUSConfig) : Prop :=
  c.bFlashModified = true ∨ (∃ a < 4, c.flashBuf.read 0xFF a ≠ 0) ∨
    c.flashBuf.read 0xFF 5 ≠ resetFlag

/-- The reset has to change some byte of the cache, so that it programs the
cached image into the erased sector. -/
def RewritesImage (c : CBUSConfig) : Prop :=
  c.ChangesHeader ∨ ∃ a, c.InNvs a ∧ c.flashBuf.read 0xFF a ≠ 0

/-- The sector is erased although the cache holds an image. -/
structure Erased (c : CBUSConfig) : Prop where
  flash_eq : c.flash = Memory.const 0xFF
  modified : c.bFlashModified = false
  zeroToOne : c.bFlashZeroToOne = false

theorem flushToFlash_synced {c : CBUSConfig} (h : c.flash = Memory.const 0xFF)
    (hm : c.bFlashModified = true) : c.flushToFlash.Synced := by
  refine ⟨?_, rfl, rfl⟩
  unfold flushToFlash
  simp only [hm, if_true]
  funext i
  split_ifs
  · exact erased_and (c.flashBuf i)
  · change c.flash i &&& c.flashBuf i = c.flashBuf i
    rw [h]
    exact erased_and (c.flashBuf i)

theorem flushToFlash_erased {c : CBUSConfig} (h : c.flash = Memory.const 0xFF)
    (hm : c.bFlashModified = false) : c.flushToFlash.Erased := by
  refine ⟨?_, rfl, rfl⟩
  simp [flushToFlash, hm, h]

theorem setChipEEPROMVal_modified (c : CBUSConfig) {a : UInt32} (ha : a.toNat < flashSectorSize)
    (v : UInt8) : (c.setChipEEPROMVal a v).bFlashModified =
      (c.bFlashModified || v != c.flashBuf.read 0xFF a.toNat) := by
  unfold setChipEEPROMVal
  rw [if_pos ha]

theorem Erased.writeEEPROM_of_ne {c : CBUSConfig} (h : c.Erased) {a : UInt32}
    (ha : a.toNat < flashSectorSize) {v : UInt8} (hv : c.flashBuf.read 0xFF a.toNat ≠ v) :
    (c.writeEEPROM a v).Synced := by
  apply flushToFlash_synced
  · rw [setChipEEPROMVal_flash, h.flash_eq]
  · rw [setChipEEPROMVal_modified c ha, h.modified]
    simpa using Ne.symm hv

theorem Erased.writeEEPROM_of_eq {c : CBUSConfig} (h : c.Erased) {a : UInt32}
    (ha : a.toNat < flashSectorSize) {v : UInt8} (hv : c.flashBuf.read 0xFF a.toNat = v) :
    (c.writeEEPROM a v).Erased := by
  apply flushToFlash_erased
  · rw [setChipEEPROMVal_flash, h.flash_eq]
  · rw [setChipEEPROMVal_modified c ha, h.modified, hv]
    simp

/-- `resetModule` before the node variables. -/
def resetHeader (c : CBUSConfig) : CBUSConfig :=
  (((((c.flashRangeErase.writeEEPROM 0 0 false).writeEEPROM 1 0 false).writeEEPROM 2 0
    false).writeEEPROM 3 0 false).setResetFlag).commitChanges

/-- The loop of `resetModule` over the first `n` node variables. -/
def zeroNVs (c : CBUSConfig) (n : ℕ) : CBUSConfig :=
  (List.range n).foldl (fun c i => c.writeNV (UInt8.ofNat (i + 1)) 0) c

@[simp] theorem resetHeader_eventRam (c : CBUSConfig) : c.resetHeader.eventRam = c.eventRam := by
  simp only [resetHeader, setResetFlag_eq, commitChanges_eventRam, writeEEPROM_eventRam]
  rfl

theorem resetModule_eq (c : CBUSConfig) :
    c.resetModule = c.resetHeader.zeroNVs c.eeNumNvs.toNat := by
  have hl : c.resetHeader.toLayout = c.toLayout := congrArg Prod.fst c.resetHeader_eventRam
  change c.resetHeader.zeroNVs c.resetHeader.eeNumNvs.toNat = _
  rw [hl]

theorem resetHeader_read (c : CBUSConfig) {a : ℕ} (ha : a < flashSectorSize) :
    c.resetHeader.flashBuf.read 0xFF a =
      if a < 4 then 0 else if a = 5 then resetFlag else c.flashBuf.read 0xFF a := by
  have hbuf : c.resetHeader.flashBuf =
      ((((c.flashBuf.write 0 0).write 1 0).write 2 0).write 3 0).write 5 resetFlag := by
    simp only [resetHeader, setResetFlag_eq, commitChanges_flashBuf, writeEEPROM_flashBuf]
    rfl
  rw [hbuf]
  simp only [Memory.read_write]
  split_ifs <;> first | rfl | omega

theorem resetHeader_eq_flush (c : CBUSConfig) : ∃ d : CBUSConfig,
    c.resetHeader = d.flushToFlash.flushToFlash ∧ d.flash = Memory.const 0xFF ∧
      (d.bFlashModified = true ↔ c.ChangesHeader) := by
  refine ⟨((((c.flashRangeErase.setChipEEPROMVal 0 0).setChipEEPROMVal 1 0).setChipEEPROMVal 2
    0).setChipEEPROMVal 3 0).setChipEEPROMVal ofsResetFlag resetFlag, rfl, ?_, ?_⟩
  · simp only [setChipEEPROMVal_flash]
    rfl
  · have hsz : ∀ a : UInt32, a.toNat < 6 → a.toNat < flashSectorSize := by
      intro a ha
      simp only [flashSectorSize]
      omega
    rw [setChipEEPROMVal_modified _ (hsz ofsResetFlag (by decide)),
      setChipEEPROMVal_modified _ (hsz 3 (by decide)),
      setChipEEPROMVal_modified _ (hsz 2 (by decide)),
      setChipEEPROMVal_modified _ (hsz 1 (by decide)),
      setChipEEPROMVal_modified _ (hsz 0 (by decide))]
    simp only [setChipEEPROMVal_flashBuf]
    have h0 : (0 : UInt32).toNat = 0 := rfl
    have h1 : (1 : UInt32).toNat = 1 := rfl
    have h2 : (2 : UInt32).toNat = 2 := rfl
    have h3 : (3 : UInt32).toNat = 3 := rfl
    have h5 : ofsResetFlag.toNat = 5 := rfl
    simp (disch := decide) only [h0, h1, h2, h3, h5, Memory.read_write_ne, Bool.or_eq_true,
      bne_iff_ne, ne_comm, flashRangeErase, ChangesHeader]
    constructor
    · rintro (((((h | h) | h) | h) | h) | h)
      · exact Or.inl h
      · exact Or.inr (Or.inl ⟨0, by decide, h⟩)
      · exact Or.inr (Or.inl ⟨1, by decide, h⟩)
      · exact Or.inr (Or.inl ⟨2, by decide, h⟩)
      · exact Or.inr (Or.inl ⟨3, by decide, h⟩)
      · exact Or.inr (Or.inr h)
    · rintro (h | ⟨a, ha, h⟩ | h)
      · exact Or.inl (Or.inl (Or.inl (Or.inl (Or.inl h))))
      · interval_cases a
        · exact Or.inl (Or.inl (Or.inl (Or.inl (Or.inr h))))
        · exact Or.inl (Or.inl (Or.inl (Or.inr h)))
        · exact Or.inl (Or.inl (Or.inr h))
        · exact Or.inl (Or.inr h)
      · exact Or.inr h

theorem resetHeader_synced {c : CBUSConfig} (h : c.ChangesHeader) : c.resetHeader.Synced := by
  obtain ⟨d, hd, hflash, hm⟩ := c.resetHeader_eq_flush
  rw [hd]
  exact (flushToFlash_synced hflash (hm.mpr h)).cacheSound.flushToFlash

theorem resetHeader_erased {c : CBUSConfig} (h : ¬ c.ChangesHeader) : c.resetHeader.Erased := by
  obtain ⟨d, hd, hflash, hm⟩ := c.resetHeader_eq_flush
  rw [hd]
  have hfirst := flushToFlash_erased hflash (Bool.eq_false_iff.mpr (mt hm.mp h))
  exact flushToFlash_erased hfirst.flash_eq hfirst.modified

theorem writeNV_toNat {c : CBUSConfig} (hp : c.Placed) {i : ℕ} (hi : i < c.eeNumNvs.toNat) :
    (c.eeNvsStart + ((UInt8.ofNat (i + 1)).toUInt32 - 1)).toNat = c.eeNvsStart.toNat + i ∧
      c.eeNvsStart.toNat + i < flashSectorSize := by
  have hin : c.InNvs (c.eeNvsStart.toNat + i) := ⟨by omega, by omega⟩
  have hfit := hp.fits.nvs _ hin
  have hn := c.eeNumNvs.toNat_lt
  refine ⟨?_, hfit.2⟩
  have hidx : (UInt8.ofNat (i + 1)).toUInt32 - 1 = UInt32.ofNat i := by
    apply UInt32.toNat_inj.mp
    simp only [UInt32.toNat_sub, UInt8.toNat_toUInt32, UInt8.toNat_ofNat', UInt32.toNat_ofNat']
    change (4294967296 - 1 + (i + 1) % 256) % 4294967296 = i % 4294967296
    omega
  rw [hidx, UInt32.toNat_add, UInt32.toNat_ofNat']
  have hsz := hfit.2
  simp only [flashSectorSize] at hsz
  omega

@[simp] theorem writeNV_eventRam (c : CBUSConfig) (idx val : UInt8) :
    (c.writeNV idx val).eventRam = c.eventRam := writeEEPROM_eventRam _ _ _ _

theorem zeroNVs_succ (c : CBUSConfig) (n : ℕ) :
    c.zeroNVs (n + 1) = (c.zeroNVs n).writeNV (UInt8.ofNat (n + 1)) 0 := by
  simp [zeroNVs, List.range_succ, List.foldl_append]

theorem zeroNVs_eventRam (c : CBUSConfig) (n : ℕ) : (c.zeroNVs n).eventRam = c.eventRam := by
  induction n with
  | zero => rfl
  | succ n ih => rw [zeroNVs_succ, writeNV_eventRam, ih]

theorem zeroNVs_address {c : CBUSConfig} (hp : c.Placed) {n : ℕ} (hn : n < c.eeNumNvs.toNat) :
    ((c.zeroNVs n).eeNvsStart + ((UInt8.ofNat (n + 1)).toUInt32 - 1)).toNat =
      c.eeNvsStart.toNat + n := by
  have hl : (c.zeroNVs n).toLayout = c.toLayout := congrArg Prod.fst (c.zeroNVs_eventRam n)
  rw [hl]
  exact (writeNV_toNat hp hn).1

theorem zeroNVs_read {c : CBUSConfig} (hp : c.Placed) {n : ℕ} (hn : n ≤ c.eeNumNvs.toNat) {a : ℕ}
    (ha : a < flashSectorSize) :
    (c.zeroNVs n).flashBuf.read 0xFF a =
      if c.eeNvsStart.toNat ≤ a ∧ a < c.eeNvsStart.toNat + n then 0
      else c.flashBuf.read 0xFF a := by
  induction n with
  | zero =>
    rw [if_neg (by omega)]
    rfl
  | succ n ih =>
    rw [zeroNVs_succ, writeNV_eq, writeEEPROM_flashBuf, zeroNVs_address hp (by omega),
      Memory.read_write, ih (by omega)]
    split_ifs <;> first | rfl | omega

theorem zeroNVs_synced {c : CBUSConfig} (h : c.Synced) (n : ℕ) : (c.zeroNVs n).Synced := by
  induction n with
  | zero => exact h
  | succ n ih =>
    rw [zeroNVs_succ]
    exact ih.writeNV _ 0

/-- Starting from an erased sector, the loop leaves it erased as long as it
finds zeros only. -/
theorem zeroNVs_erased {c : CBUSConfig} (hp : c.Placed) (h : c.Erased) {n : ℕ}
    (hn : n ≤ c.eeNumNvs.toNat) :
    ((∀ i < n, c.flashBuf.read 0xFF (c.eeNvsStart.toNat + i) = 0) ∧ (c.zeroNVs n).Erased) ∨
      (∃ i < n, c.flashBuf.read 0xFF (c.eeNvsStart.toNat + i) ≠ 0) ∧ (c.zeroNVs n).Synced := by
  induction n with
  | zero => exact Or.inl ⟨fun i hi => absurd hi (Nat.not_lt_zero i), h⟩
  | succ n ih =>
    rw [zeroNVs_succ, writeNV_eq]
    rcases ih (by omega) with ⟨hz, he⟩ | ⟨⟨i, hi, hne⟩, hs⟩
    · have haddr := zeroNVs_address hp (show n < c.eeNumNvs.toNat by omega)
      have hsz := (writeNV_toNat hp (show n < c.eeNumNvs.toNat by omega)).2
      have hread := zeroNVs_read hp (show n ≤ c.eeNumNvs.toNat by omega) hsz
      rw [if_neg (by omega)] at hread
      by_cases hv : c.flashBuf.read 0xFF (c.eeNvsStart.toNat + n) = 0
      · refine Or.inl ⟨fun i hi => ?_, he.writeEEPROM_of_eq (by rwa [haddr]) ?_⟩
        · rcases Nat.lt_succ_iff_lt_or_eq.mp hi with hlt | rfl
          · exact hz i hlt
          · exact hv
        · rw [haddr, hread, hv]
      · refine Or.inr ⟨⟨n, Nat.lt_succ_self n, hv⟩, he.writeEEPROM_of_ne (by rwa [haddr]) ?_⟩
        rwa [haddr, hread]
    · exact Or.inr ⟨⟨i, by omega, hne⟩, hs.writeEEPROM _ 0⟩

theorem resetModule_eventRam (c : CBUSConfig) : c.resetModule.eventRam = c.eventRam := by
  rw [resetModule_eq, zeroNVs_eventRam, resetHeader_eventRam]

theorem resetHeader_read_nvs {c : CBUSConfig} (hp : c.Placed) {a : ℕ} (ha : c.InNvs a) :
    c.resetHeader.flashBuf.read 0xFF a = c.flashBuf.read 0xFF a := by
  have hfit := hp.fits.nvs a ha
  rw [resetHeader_read c hfit.2, if_neg (by omega), if_neg (by omega)]

theorem resetModule_read {c : CBUSConfig} (hp : c.Placed) {a : ℕ} (ha : a < flashSectorSize) :
    c.resetModule.flashBuf.read 0xFF a =
      if c.eeNvsStart.toNat ≤ a ∧ a < c.eeNvsStart.toNat + c.eeNumNvs.toNat then 0
      else if a < 4 then 0 else if a = 5 then resetFlag else c.flashBuf.read 0xFF a := by
  have hl : c.resetHeader.toLayout = c.toLayout := congrArg Prod.fst c.resetHeader_eventRam
  have hph : c.resetHeader.Placed := hp.of_eventRam c.resetHeader_eventRam
  have hn : c.eeNumNvs.toNat ≤ c.resetHeader.eeNumNvs.toNat := by rw [hl]
  rw [resetModule_eq, zeroNVs_read hph hn ha, hl, resetHeader_read c ha]

theorem resetModule_read_events {c : CBUSConfig} (hp : c.Placed) {a : ℕ} (ha : c.InEvents a) :
    c.resetModule.flashBuf.read 0xFF a = c.flashBuf.read 0xFF a := by
  have hfit := hp.fits.events a ha
  have hnv : ¬ (c.eeNvsStart.toNat ≤ a ∧ a < c.eeNvsStart.toNat + c.eeNumNvs.toNat) :=
    hp.fits.disjoint a ha
  rw [resetModule_read hp hfit.2, if_neg hnv, if_neg (by omega), if_neg (by omega)]

/-- The old image is programmed again exactly if the reset has to change it. -/
theorem resetModule_flash {c : CBUSConfig} (hp : c.Placed) :
    (c.RewritesImage ∧ c.resetModule.flash = c.resetModule.flashBuf) ∨
      (¬ c.RewritesImage ∧ c.resetModule.flash = Memory.const 0xFF) := by
  have hl : c.resetHeader.toLayout = c.toLayout := congrArg Prod.fst c.resetHeader_eventRam
  have hph : c.resetHeader.Placed := hp.of_eventRam c.resetHeader_eventRam
  rw [resetModule_eq]
  by_cases hc : c.ChangesHeader
  · exact Or.inl ⟨Or.inl hc, (zeroNVs_synced (resetHeader_synced hc) _).flash_eq⟩
  · have hn : c.eeNumNvs.toNat ≤ c.resetHeader.eeNumNvs.toNat := by rw [hl]
    have hread : ∀ i < c.eeNumNvs.toNat,
        c.resetHeader.flashBuf.read 0xFF (c.resetHeader.eeNvsStart.toNat + i) =
          c.flashBuf.read 0xFF (c.eeNvsStart.toNat + i) := by
      intro i hi
      rw [hl]
      exact resetHeader_read_nvs hp ⟨by omega, by omega⟩
    rcases zeroNVs_erased hph (resetHeader_erased hc) hn with ⟨hz, he⟩ | ⟨⟨i, hi, hne⟩, hs⟩
    · refine Or.inr ⟨?_, he.flash_eq⟩
      rintro (hh | ⟨a, ha, hne⟩)
      · exact hc hh
      · have hi : a - c.eeNvsStart.toNat < c.eeNumNvs.toNat := by
          have := ha.2
          have := ha.1
          omega
        have hzero := hz _ hi
        rw [hread _ hi, Nat.add_sub_cancel' ha.1] at hzero
        exact hne hzero
    · refine Or.inl ⟨Or.inr ⟨c.eeNvsStart.toNat + i, ⟨by omega, by omega⟩, ?_⟩, hs.flash_eq⟩
      rwa [hread i hi] at hne

theorem eventHash_eq_zero {c : CBUSConfig} {idx : UInt8} :
    c.eventHash idx = 0 ↔ c.readEvent idx = evInfoUnused := by
  rw [eventHash_eq]
  split_ifs with h
  · exact ⟨fun _ => h, fun _ => rfl⟩
  · exact ⟨fun hz => absurd hz (makeHash_ne_zero _), fun hu => absurd hu h⟩

theorem numEvents_eq_zero {c : CBUSConfig} :
    c.numEvents = 0 ↔ ∀ i < c.eeMaxEvents.toNat, c.hashEntry i = 0 := by
  have hle : (List.range c.eeMaxEvents.toNat).countP (fun i => c.hashEntry i != 0) < 256 := by
    have := List.countP_le_length (p := fun i => c.hashEntry i != 0)
      (l := List.range c.eeMaxEvents.toNat)
    rw [List.length_range] at this
    exact lt_of_le_of_lt this c.eeMaxEvents.toNat_lt
  have hzero : c.numEvents = 0 ↔
      (List.range c.eeMaxEvents.toNat).countP (fun i => c.hashEntry i != 0) = 0 := by
    rw [← UInt8.toNat_inj, numEvents, UInt8.toNat_ofNat', Nat.mod_eq_of_lt hle]
    rfl
  rw [hzero, List.countP_eq_zero]
  simp

theorem findExistingEvent_of_empty {c : CBUSConfig}
    (h : ∀ i < c.eeMaxEvents.toNat, c.hashEntry i = 0) (nn en : UInt16) :
    c.findExistingEvent nn en = c.eeMaxEvents := by
  have hnone : firstIndex c.eeMaxEvents.toNat
      (fun i => decide (c.hashEntry i = makeHash ⟨nn, en⟩)) = c.eeMaxEvents.toNat := by
    apply firstIndex_eq_self
    intro i hi
    rw [h i hi, decide_eq_false_iff_not]
    exact (makeHash_ne_zero _).symm
  exact if_neg (not_lt.mpr hnone.ge)

theorem powerUp_eq (c : CBUSConfig) :
    c.powerUp = (construct c.toLayout c.flash).loaded.loadNVs := rfl

theorem powerUp_sameTables (c : CBUSConfig) :
    SameTables (construct c.toLayout c.flash).loaded c.powerUp := by
  rw [powerUp_eq]
  exact sameTables_loadNVs _

/-- After a restart the event table is empty exactly if the flash holds no event. -/
theorem powerUp_noEvents {c : CBUSConfig} (hp : c.Placed) :
    (∀ i < c.eeMaxEvents.toNat, c.powerUp.hashEntry i = 0) ↔
      ∀ i < c.eeMaxEvents.toNat, ∀ k < 4, c.flash.read 0xFF (c.slotBase i + k) = 0xFF := by
  have hpl : (construct c.toLayout c.flash).loaded.Placed := placed_loaded hp.fits
  apply forall₂_congr
  intro i hi
  have hidx : (UInt8.ofNat i).toNat = i := toNat_ofNat_index hi
  have hlt : (UInt8.ofNat i).toNat <
      (construct c.toLayout c.flash).loaded.eeMaxEvents.toNat := hidx.symm ▸ hi
  have hslot := hpl.readEvent_eq_unused hlt
  rw [hidx] at hslot
  rw [hashEntry_congr c.powerUp_sameTables.ram, 
    loaded_hashEntry (construct c.toLayout c.flash) hi, eventHash_eq_zero]
  exact hslot

theorem powerUp_eeNumNvs (c : CBUSConfig) : c.powerUp.eeNumNvs = c.eeNumNvs :=
  congrArg (·.1.eeNumNvs) c.powerUp_sameTables.ram

theorem powerUp_readNV {c : CBUSConfig} (hp : c.Placed) {i : ℕ} (hi : i < c.eeNumNvs.toNat) :
    c.powerUp.readNV (UInt8.ofNat (i + 1)) = c.flash.read 0xFF (c.eeNvsStart.toNat + i) := by
  have hl : c.powerUp.toLayout = c.toLayout := c.powerUp_sameTables.toLayout
  have hfit := hp.fits.nvs (c.eeNvsStart.toNat + i) ⟨by omega, by omega⟩
  rw [readNV_eq, readEEPROM, getChipEEPROMVal, hl, (writeNV_toNat hp hi).1]
  exact c.powerUp_sameTables.image _ hfit.1

theorem forall_nv_iff {n : ℕ} (hn : n < 256) (P : UInt8 → Prop) :
    (∀ idx : UInt8, 0 < idx.toNat → idx.toNat ≤ n → P idx) ↔
      ∀ i < n, P (UInt8.ofNat (i + 1)) := by
  constructor
  · intro h i hi
    apply h <;> rw [UInt8.toNat_ofNat'] <;> omega
  · intro h idx h0 hle
    have := h (idx.toNat - 1) (by omega)
    rwa [Nat.sub_add_cancel h0, UInt8.ofNat_toNat] at this

theorem loaded_readEEPROM (l : Layout) (flash : FlashImage) (a : UInt32) :
    (construct l flash).loaded.readEEPROM a = flash.read 0xFF a.toNat := rfl

theorem powerUp_of_resetFlag {c : CBUSConfig} (h : c.flash.read 0xFF 5 = 0xFF) :
    c.powerUp.bFLiM = false ∧ c.powerUp.nodeNum = 0 := by
  have hflag : (construct c.toLayout c.flash).loaded.readEEPROM ofsResetFlag = 0xFF := by
    rw [loaded_readEEPROM]
    exact h
  have hram := loadNVs_of_resetFlag hflag
  rw [← powerUp_eq] at hram
  exact ⟨congrArg (·.2.1) hram, congrArg (·.2.2) hram⟩

theorem powerUp_of_initialized {c : CBUSConfig} (h : c.flash.read 0xFF 5 ≠ 0xFF)
    (hz : ∀ a < 4, c.flash.read 0xFF a = 0) :
    c.powerUp.bFLiM = false ∧ c.powerUp.nodeNum = 0 := by
  have hflag : (construct c.toLayout c.flash).loaded.readEEPROM ofsResetFlag ≠ 0xFF := by
    rw [loaded_readEEPROM]
    exact h
  have hram := loadNVs_of_initialized hflag
  rw [← powerUp_eq] at hram
  simp only [loaded_readEEPROM] at hram
  have h0 : c.flash.read 0xFF ofsFlimMode.toNat = 0 := hz 0 (by decide)
  have h2 : c.flash.read 0xFF ofsNodeNumHb.toNat = 0 := hz 2 (by decide)
  have h3 : c.flash.read 0xFF ofsNodeNumLb.toNat = 0 := hz 3 (by decide)
  rw [h0, h2, h3] at hram
  exact ⟨congrArg (·.2.1) hram, congrArg (·.2.2) hram⟩

theorem factoryFresh_powerUp {c : CBUSConfig} (hp : c.Placed)
    (hid : c.powerUp.bFLiM = false ∧ c.powerUp.nodeNum = 0) :
    c.powerUp.FactoryFresh ↔
      (∀ i < c.eeMaxEvents.toNat, ∀ k < 4, c.flash.read 0xFF (c.slotBase i + k) = 0xFF) ∧
        ∀ i < c.eeNumNvs.toNat, c.flash.read 0xFF (c.eeNvsStart.toNat + i) = 0 := by
  have hmax : c.powerUp.eeMaxEvents = c.eeMaxEvents :=
    congrArg (·.1.eeMaxEvents) c.powerUp_sameTables.ram
  have hnvs : (∀ idx : UInt8, 0 < idx.toNat → idx.toNat ≤ c.powerUp.eeNumNvs.toNat →
      c.powerUp.readNV idx = 0) ↔
      ∀ i < c.eeNumNvs.toNat, c.flash.read 0xFF (c.eeNvsStart.toNat + i) = 0 := by
    rw [powerUp_eeNumNvs, forall_nv_iff c.eeNumNvs.toNat_lt (fun idx => c.powerUp.readNV idx = 0)]
    apply forall₂_congr
    intro i hi
    rw [powerUp_readNV hp hi]
  rw [← powerUp_noEvents hp, ← hnvs, ← hmax]
  constructor
  · intro h
    exact ⟨numEvents_eq_zero.mp h.noEvents, h.nvs⟩
  · rintro ⟨he, hn⟩
    refine ⟨numEvents_eq_zero.mpr he, fun nn en => ?_, hid.1, hid.2, hn⟩
    rw [findExistingEvent_of_empty he]
    exact lt_irrefl _

theorem not_storesEvent_iff {c : CBUSConfig} (hp : c.Placed) :
    ¬ c.StoresEvent ↔
      ∀ i < c.eeMaxEvents.toNat, ∀ k < 4, c.flashBuf.read 0xFF (c.slotBase i + k) = 0xFF := by
  unfold StoresEvent
  push Not
  apply forall₂_congr
  intro i hi
  have hidx : (UInt8.ofNat i).toNat = i := toNat_ofNat_index hi
  rw [hp.readEvent_eq_unused (hidx.symm ▸ hi), hidx]

theorem factoryFresh_of_rewrites {c : CBUSConfig} (hp : c.Placed)
    (hf : c.resetModule.flash = c.resetModule.flashBuf) :
    c.resetModule.powerUp.FactoryFresh ↔ ¬ c.StoresEvent := by
  have hl : c.resetModule.toLayout = c.toLayout := congrArg Prod.fst c.resetModule_eventRam
  have hp' : c.resetModule.Placed := hp.of_eventRam c.resetModule_eventRam
  have hid : c.resetModule.powerUp.bFLiM = false ∧ c.resetModule.powerUp.nodeNum = 0 := by
    have hnv : ∀ a < 6, ¬ (c.eeNvsStart.toNat ≤ a ∧
        a < c.eeNvsStart.toNat + c.eeNumNvs.toNat) := by
      intro a ha hin
      have := (hp.fits.nvs a hin).1
      omega
    apply powerUp_of_initialized
    · rw [hf, resetModule_read hp (by decide), if_neg (hnv 5 (by decide)), if_neg (by decide),
        if_pos rfl]
      decide
    · intro a ha
      have hsz : a < flashSectorSize := by
        simp only [flashSectorSize]
        omega
      rw [hf, resetModule_read hp hsz, if_neg (hnv a (by omega)), if_pos ha]
  rw [factoryFresh_powerUp hp' hid, not_storesEvent_iff hp, hf, hl]
  have hslot : ∀ i < c.eeMaxEvents.toNat, ∀ k < 4,
      c.resetModule.flashBuf.read 0xFF (c.slotBase i + k) =
        c.flashBuf.read 0xFF (c.slotBase i + k) := by
    intro i hi k hk
    exact resetModule_read_events hp (Layout.slotBase_add_inEvents hi (by omega))
  constructor
  · rintro ⟨he, -⟩ i hi k hk
    rw [← hslot i hi k hk]
    exact he i hi k hk
  · intro he
    refine ⟨fun i hi k hk => (hslot i hi k hk).trans (he i hi k hk), fun i hi => ?_⟩
    have hfit := hp.fits.nvs (c.eeNvsStart.toNat + i) ⟨by omega, by omega⟩
    rw [resetModule_read hp hfit.2, if_pos ⟨by omega, by omega⟩]

/-- If the sector stays erased, the restart falls back to the defaults and every
node variable reads `0xFF`. -/
theorem factoryFresh_of_erased {c : CBUSConfig} (hp : c.Placed)
    (hf : c.resetModule.flash = Memory.const 0xFF) :
    c.resetModule.powerUp.FactoryFresh ↔ c.eeNumNvs = 0 := by
  have hl : c.resetModule.toLayout = c.toLayout := congrArg Prod.fst c.resetModule_eventRam
  have hp' : c.resetModule.Placed := hp.of_eventRam c.resetModule_eventRam
  have hread : ∀ a, c.resetModule.flash.read 0xFF a = 0xFF := by
    intro a
    rw [hf, Memory.read_const]
    split_ifs <;> rfl
  rw [factoryFresh_powerUp hp' (powerUp_of_resetFlag (hread 5)), hl, ← UInt8.toNat_inj]
  constructor
  · rintro ⟨-, hn⟩
    by_contra hne
    have := hn 0 (Nat.pos_of_ne_zero hne)
    rw [hread] at this
    exact absurd this (by decide)
  · intro hz
    refine ⟨fun i _ k _ => hread _, fun i hi => ?_⟩
    rw [hz] at hi
    exact absurd hi (Nat.not_lt_zero i)

/-- A factory reset followed by a restart gives a fresh module exactly if the
reset rewrites an image without events, or rewrites nothing on a module without
node variables. -/
theorem factoryFresh_powerUp_resetModule_iff (c : CBUSConfig) (hp : c.Placed) :
    c.resetModule.powerUp.FactoryFresh ↔
      (c.RewritesImage ∧ ¬ c.StoresEvent) ∨ (¬ c.RewritesImage ∧ c.eeNumNvs = 0) := by
  rcases resetModule_flash hp with ⟨hr, hf⟩ | ⟨hr, hf⟩
  · rw [factoryFresh_of_rewrites hp hf]
    constructor
    · exact fun h => Or.inl ⟨hr, h⟩
    · rintro (⟨-, h⟩ | ⟨h, -⟩)
      · exact h
      · exact absurd hr h
  · rw [factoryFresh_of_erased hp hf]
    constructor
    · exact fun h => Or.inr ⟨hr, h⟩
    · rintro (⟨h, -⟩ | ⟨-, h⟩)
      · exact absurd h hr
      · exact h

/-- Three event slots of one variable each behind two node variables. -/
def smallLayout : Layout where
  eeEventsStart := 20
  eeMaxEvents := 3
  eeNumEvs := 1
  eeNvsStart := 10
  eeNumNvs := 2

theorem smallLayout_fits : smallLayout.Fits := by
  constructor
  · decide
  · rintro a ⟨hlo, hhi⟩
    simp only [smallLayout, flashSectorSize] at hlo hhi ⊢
    constructor
    · exact le_trans (by decide) hlo
    · exact lt_of_lt_of_le hhi (by decide)
  · rintro a ⟨hlo, hhi⟩
    simp only [smallLayout, flashSectorSize] at hlo hhi ⊢
    constructor
    · exact le_trans (by decide) hlo
    · exact lt_of_lt_of_le hhi (by decide)
  · rintro a ⟨hlo, -⟩ ⟨-, hhi⟩
    exact absurd (lt_of_le_of_lt hlo hhi) (by decide)

def smallStarted : CBUSConfig := (construct smallLayout (Memory.const 0xFF)).begin

def smallLearned : CBUSConfig :=
  smallStarted.learnEvent (smallStarted.learnSlot 1 2) ⟨1, 2⟩ 1 5

theorem smallStarted_placed : smallStarted.Placed :=
  placed_begin (c := construct smallLayout (Memory.const 0xFF)) smallLayout_fits

theorem smallLearned_placed : smallLearned.Placed := by
  obtain ⟨hl, hb, -⟩ := learnEvent_toLayout smallStarted (smallStarted.learnSlot 1 2) ⟨1, 2⟩ 1 5
  refine ⟨?_, ?_⟩
  · rw [smallLearned, hl]
    exact smallStarted_placed.fits
  · rw [smallLearned, hb, hl]
    exact smallStarted_placed.bytesPerEvent

theorem factoryFresh_smallLearned_iff :
    smallLearned.resetModule.powerUp.FactoryFresh ↔
      (smallLearned.RewritesImage ∧ ¬ smallLearned.StoresEvent) ∨
        (¬ smallLearned.RewritesImage ∧ smallLearned.eeNumNvs = 0) :=
  factoryFresh_powerUp_resetModule_iff smallLearned smallLearned_placed

theorem not_factoryFresh_smallLearned :
    smallLearned.Placed ∧ smallLearned.Synced ∧
      ¬ smallLearned.resetModule.powerUp.FactoryFresh := by
  refine ⟨smallLearned_placed, (synced_begin smallLayout _).learnEvent _ _ _ _, fun h => ?_⟩
  have hnum : smallLearned.resetModule.powerUp.numEvents = 1 := by decide +kernel
  exact absurd (hnum.symm.trans h.noEvents) (by decide)

end CBUSConfig
end CBUSPicoLib
