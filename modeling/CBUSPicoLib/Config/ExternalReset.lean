import CBUSPicoLib.Config.ExternalEeprom

/-!
# A factory reset of an external EEPROM

`resetEEPROM` clears cells 10 to 15 only, so an event outside of them is found again after a factory
reset and the restart, and a slot that lies there in part may come back as another event. The
identity and the node variables are reset wherever they lie.
-/

namespace CBUSPicoLib
namespace ExternalConfig

variable {n : ℕ} {l : Layout} {x : ExternalConfig n} {s : Set ℕ}

/-- The addresses of a layout and those that `resetEEPROM` clears select different cells. -/
def ResetDecoded (x : ExternalConfig n) : Prop :=
  Set.InjOn (fun a => x.eeprom.cell (UInt8.ofNat a)) {a | x.config.Used a ∨ 10 ≤ a ∧ a < 16}

theorem byteAt_clear (hd : Set.InjOn (fun a => x.eeprom.cell (UInt8.ofNat a)) s) (v : UInt8)
    (as : List ℕ) (has : ∀ a ∈ as, a ∈ s ∧ a < 256) {b : ℕ} (hb : b ∈ s) :
    (as.foldl (fun x addr => x.writeEEPROM (UInt32.ofNat addr) v) x).byteAt b =
      if b ∈ as then v else x.byteAt b := by
  induction as generalizing x with
  | nil => rw [List.foldl_nil, if_neg List.not_mem_nil]
  | cons a as ih =>
    obtain ⟨ha, hlt⟩ := has a List.mem_cons_self
    have haddr : (UInt32.ofNat a).toNat = a := by
      rw [UInt32.toNat_ofNat']
      omega
    have hone := byteAt_writeEEPROM hd (a := UInt32.ofNat a) (by rw [haddr]; exact ha) v hb
    rw [haddr] at hone
    rw [List.foldl_cons, ih (x := x.writeEEPROM (UInt32.ofNat a) v) hd
      (fun a' ha' => has a' (List.mem_cons_of_mem a ha')), hone]
    by_cases hmem : b ∈ as
    · rw [if_pos hmem, if_pos (List.mem_cons_of_mem a hmem)]
    · rw [if_neg hmem]
      simp [hmem]

@[simp] theorem writeEEPROM_config (x : ExternalConfig n) (a : UInt32) (v : UInt8) :
    (x.writeEEPROM a v).config = x.config := rfl

@[simp] theorem writeEEPROM_cell (x : ExternalConfig n) (a : UInt32) (v : UInt8) :
    (x.writeEEPROM a v).eeprom.cell = x.eeprom.cell := rfl

theorem foldl_writeEEPROM_config (x : ExternalConfig n) (v : UInt8) (as : List ℕ) :
    (as.foldl (fun x addr => x.writeEEPROM (UInt32.ofNat addr) v) x).config = x.config ∧
      (as.foldl (fun x addr => x.writeEEPROM (UInt32.ofNat addr) v) x).eeprom.cell =
        x.eeprom.cell := by
  induction as generalizing x with
  | nil => exact ⟨rfl, rfl⟩
  | cons a as ih => exact ih (x.writeEEPROM (UInt32.ofNat a) v)

/-- The loop of `resetModule` over the first `m` node variables. -/
def zeroNVs (x : ExternalConfig n) (m : ℕ) : ExternalConfig n :=
  (List.range m).foldl (fun x i => x.writeNV (UInt8.ofNat (i + 1)) 0) x

theorem zeroNVs_succ (x : ExternalConfig n) (m : ℕ) :
    x.zeroNVs (m + 1) = (x.zeroNVs m).writeNV (UInt8.ofNat (m + 1)) 0 := by
  simp [zeroNVs, List.range_succ, List.foldl_append]

theorem zeroNVs_config (x : ExternalConfig n) (m : ℕ) :
    (x.zeroNVs m).config = x.config ∧ (x.zeroNVs m).eeprom.cell = x.eeprom.cell := by
  induction m with
  | zero => exact ⟨rfl, rfl⟩
  | succ m ih =>
    rw [zeroNVs_succ]
    exact ih

theorem toNat_nvAddress (hl : l.Fits) {i : ℕ} (hi : i < l.eeNumNvs.toNat) :
    (l.eeNvsStart + ((UInt8.ofNat (i + 1)).toUInt32 - 1)).toNat = l.eeNvsStart.toNat + i := by
  let c : CBUSConfig := { CBUSConfig.construct l (Memory.const 0) with
    eeBytesPerEvent := l.eeNumEvs + 4 }
  have hp : c.Placed := ⟨hl, rfl⟩
  exact (CBUSConfig.writeNV_toNat hp hi).1

theorem byteAt_zeroNVs (hl : x.config.Fits)
    (hd : Set.InjOn (fun a => x.eeprom.cell (UInt8.ofNat a)) s) (hs : ∀ a, x.config.InNvs a → a ∈ s)
    {m : ℕ} (hm : m ≤ x.config.eeNumNvs.toNat) {b : ℕ} (hb : b ∈ s) :
    (x.zeroNVs m).byteAt b =
      if x.config.eeNvsStart.toNat ≤ b ∧ b < x.config.eeNvsStart.toNat + m then 0
      else x.byteAt b := by
  induction m with
  | zero =>
    rw [if_neg (by omega)]
    rfl
  | succ m ih =>
    obtain ⟨hconfig, hcell⟩ := x.zeroNVs_config m
    have haddr := toNat_nvAddress hl (show m < x.config.eeNumNvs.toNat by omega)
    have hin : x.config.eeNvsStart.toNat + m ∈ s := hs _ ⟨by omega, by omega⟩
    rw [zeroNVs_succ, writeNV_eq, hconfig, byteAt_writeEEPROM (hcell ▸ hd) (haddr ▸ hin) 0 hb, haddr,
      ih (by omega)]
    split_ifs <;> first | rfl | omega

/-- `resetModule` before the node variables. -/
def resetHeader (x : ExternalConfig n) : ExternalConfig n :=
  (((((x.resetEEPROM.writeEEPROM 0 0).writeEEPROM 1 0).writeEEPROM 2 0).writeEEPROM 3
    0).setResetFlag).commitChanges

theorem resetHeader_config (x : ExternalConfig n) :
    x.resetHeader.config = x.config ∧ x.resetHeader.eeprom.cell = x.eeprom.cell := by
  simp only [resetHeader, setResetFlag_eq, commitChanges, writeEEPROM_config, writeEEPROM_cell]
  exact x.foldl_writeEEPROM_config 0xFF (List.range' 10 6)

theorem resetModule_eq (x : ExternalConfig n) :
    x.resetModule = x.resetHeader.zeroNVs x.config.eeNumNvs.toNat := by
  have hconfig := x.resetHeader_config.1
  change x.resetHeader.zeroNVs x.resetHeader.config.eeNumNvs.toNat = _
  rw [hconfig]

theorem resetModule_config (x : ExternalConfig n) :
    x.resetModule.config = x.config ∧ x.resetModule.eeprom.cell = x.eeprom.cell := by
  obtain ⟨hconfig, hcell⟩ := x.resetHeader.zeroNVs_config x.config.eeNumNvs.toNat
  rw [x.resetModule_eq]
  exact ⟨hconfig.trans x.resetHeader_config.1, hcell.trans x.resetHeader_config.2⟩

/-- A byte that is neither of the identity nor a node variable. -/
def clearedByte (x : ExternalConfig n) (a : ℕ) : UInt8 :=
  if 10 ≤ a ∧ a < 16 then 0xFF else x.byteAt a

theorem byteAt_resetHeader (hd : x.ResetDecoded) {b : ℕ}
    (hb : x.config.Used b ∨ 10 ≤ b ∧ b < 16) : x.resetHeader.byteAt b =
      if b < 4 then 0 else if b = 5 then CBUSConfig.resetFlag else x.clearedByte b := by
  have hcell := x.foldl_writeEEPROM_config 0xFF (List.range' 10 6)
  have hd0 : Set.InjOn (fun a => x.resetEEPROM.eeprom.cell (UInt8.ofNat a))
      {a | x.config.Used a ∨ 10 ≤ a ∧ a < 16} := by
    rw [resetEEPROM, hcell.2]
    exact hd
  have hused : ∀ a : UInt32, a.toNat < 4 → x.config.Used a.toNat ∨ 10 ≤ a.toNat ∧ a.toNat < 16 :=
    fun a ha => Or.inl (Or.inl ha)
  have hclear : x.resetEEPROM.byteAt b = x.clearedByte b := by
    have hfold := byteAt_clear hd 0xFF (List.range' 10 6) (b := b)
      (fun a ha => by
        rw [List.mem_range'_1] at ha
        exact ⟨Or.inr ha, by omega⟩) hb
    simp only [List.mem_range'_1] at hfold
    exact hfold
  have h0 := byteAt_writeEEPROM hd0 (hused 0 (by decide)) 0 hb
  have h1 := byteAt_writeEEPROM (x := x.resetEEPROM.writeEEPROM 0 0) hd0 (hused 1 (by decide)) 0 hb
  have h2 := byteAt_writeEEPROM (x := (x.resetEEPROM.writeEEPROM 0 0).writeEEPROM 1 0) hd0
    (hused 2 (by decide)) 0 hb
  have h3 := byteAt_writeEEPROM
    (x := ((x.resetEEPROM.writeEEPROM 0 0).writeEEPROM 1 0).writeEEPROM 2 0) hd0
    (hused 3 (by decide)) 0 hb
  have h5 := byteAt_writeEEPROM
    (x := (((x.resetEEPROM.writeEEPROM 0 0).writeEEPROM 1 0).writeEEPROM 2 0).writeEEPROM 3 0) hd0
    (a := CBUSConfig.ofsResetFlag) (Or.inl (Or.inr (Or.inl rfl))) CBUSConfig.resetFlag hb
  rw [h3, h2, h1, h0, hclear] at h5
  have hheader : x.resetHeader =
      (((((x.resetEEPROM.writeEEPROM 0 0).writeEEPROM 1 0).writeEEPROM 2 0).writeEEPROM 3
        0).writeEEPROM CBUSConfig.ofsResetFlag CBUSConfig.resetFlag) := rfl
  rw [hheader, h5]
  change (if b = 5 then _ else if b = 3 then _ else if b = 2 then _ else if b = 1 then _ else
    if b = 0 then _ else _) = _
  split_ifs <;> first | rfl | omega

/-- The reset leaves its values in the identity and zeros in the node variables, and of the other
bytes it clears those from 10 to 15 only. -/
theorem byteAt_resetModule (hl : x.config.Fits) (hd : x.ResetDecoded) {b : ℕ}
    (hb : x.config.Used b) : x.resetModule.byteAt b =
      if x.config.eeNvsStart.toNat ≤ b ∧ b < x.config.eeNvsStart.toNat + x.config.eeNumNvs.toNat
      then 0 else if b < 4 then 0 else if b = 5 then CBUSConfig.resetFlag else x.clearedByte b := by
  obtain ⟨hconfig, hcell⟩ := x.resetHeader_config
  have hd' : Set.InjOn (fun a => x.resetHeader.eeprom.cell (UInt8.ofNat a))
      {a | x.config.Used a ∨ 10 ≤ a ∧ a < 16} := by
    rw [hcell]
    exact hd
  have hl' : x.resetHeader.config.Fits := by
    rw [hconfig]
    exact hl
  have hnvs : ∀ a, x.resetHeader.config.InNvs a → a ∈ {a | x.config.Used a ∨ 10 ≤ a ∧ a < 16} := by
    intro a ha
    rw [hconfig] at ha
    exact Or.inl (Or.inr (Or.inr (Or.inr ha)))
  have hm : x.config.eeNumNvs.toNat ≤ x.resetHeader.config.eeNumNvs.toNat := by rw [hconfig]
  rw [resetModule_eq, byteAt_zeroNVs hl' hd' hnvs hm (Or.inl hb), hconfig,
    byteAt_resetHeader hd (Or.inl hb)]

end ExternalConfig

namespace CBUSConfig

theorem SameTables.hashed {c c' : CBUSConfig} (h : SameTables c c') (hp : c.Placed)
    (hh : c.Hashed) : c'.Hashed := by
  have ht : c'.evhashtbl = c.evhashtbl := congrArg (·.2.2.1) h.ram
  have hb : c'.bHashCollisions = c.bHashCollisions := congrArg (·.2.2.2) h.ram
  have he : c'.hashEntry = c.hashEntry := funext (hashEntry_congr h.ram)
  refine ⟨?_, ?_, ?_⟩
  · rw [ht, h.toLayout]
    exact hh.allocated
  · intro i hi
    rw [h.toLayout] at hi
    rw [he, h.readEvent hp (by rwa [toNat_ofNat_index hi])]
    exact hh.entries i hi
  · rw [hb, he, h.toLayout]
    exact hh.collisions

theorem hashed_powerUp {c : CBUSConfig} (hp : c.Placed) : c.powerUp.Hashed :=
  c.powerUp_sameTables.hashed (placed_loaded hp.fits) (hashed_makeEvHashTable _)

theorem powerUp_readEvent {c : CBUSConfig} (hp : c.Placed) {i : ℕ} (hi : i < c.eeMaxEvents.toNat) :
    c.powerUp.readEvent (UInt8.ofNat i) =
      ⟨bytesToWord (c.flash.read 0xFF (c.slotBase i)) (c.flash.read 0xFF (c.slotBase i + 1)),
        bytesToWord (c.flash.read 0xFF (c.slotBase i + 2))
          (c.flash.read 0xFF (c.slotBase i + 3))⟩ := by
  have hpl : (construct c.toLayout c.flash).loaded.Placed := placed_loaded hp.fits
  have hidx : (UInt8.ofNat i).toNat = i := toNat_ofNat_index hi
  have hlt : (UInt8.ofNat i).toNat <
      (construct c.toLayout c.flash).loaded.eeMaxEvents.toNat := hidx.symm ▸ hi
  have hbytes := hpl.readEvent_bytes hlt
  rw [hidx] at hbytes
  rw [c.powerUp_sameTables.readEvent hpl hlt, hbytes]
  rfl

end CBUSConfig

namespace ExternalConfig

variable {n : ℕ} {x : ExternalConfig n}

def overFlash (x : ExternalConfig n) : CBUSConfig :=
  { CBUSConfig.construct x.config.toLayout (fun a => x.byteAt a) with
    eeBytesPerEvent := x.config.eeNumEvs + 4 }

theorem overFlash_toLayout (x : ExternalConfig n) : x.overFlash.toLayout = x.config.toLayout := rfl

theorem overFlash_read (hl : x.config.Fits) {a : ℕ} (ha : x.config.Used a) :
    x.overFlash.flash.read 0xFF a = x.byteAt a := Memory.read_of_lt (hl.used_lt ha)

theorem placed_overFlash (hl : x.config.Fits) : x.overFlash.Placed := ⟨hl, rfl⟩

theorem mirrors_powerUp_overFlash (hl : x.config.Fits)
    (hd : x.config.DecodedBy x.eeprom.cell) :
    Mirrors x.config.toLayout x.powerUp x.overFlash.powerUp :=
  Mirrors.start hl hd (fun _ ha => (overFlash_read hl ha).symm) x.config.flash

/-- The event that a slot holds once cells 10 to 15 are cleared. -/
def survivor (x : ExternalConfig n) (i : ℕ) : EventInfo where
  nodeNumber := bytesToWord (x.clearedByte (x.config.slotBase i))
    (x.clearedByte (x.config.slotBase i + 1))
  eventNumber := bytesToWord (x.clearedByte (x.config.slotBase i + 2))
    (x.clearedByte (x.config.slotBase i + 3))

theorem fits_resetModule (hl : x.config.Fits) : x.resetModule.config.Fits := by
  rw [x.resetModule_config.1]
  exact hl

theorem ResetDecoded.decodedBy (hd : x.ResetDecoded) :
    x.resetModule.config.DecodedBy x.resetModule.eeprom.cell := by
  obtain ⟨hconfig, hcell⟩ := x.resetModule_config
  rw [hconfig, hcell]
  exact hd.mono fun a ha => Or.inl ha

theorem overFlash_resetModule_read (hl : x.config.Fits) (hd : x.ResetDecoded) {b : ℕ}
    (hb : x.config.Used b) : x.resetModule.overFlash.flash.read 0xFF b =
      if x.config.eeNvsStart.toNat ≤ b ∧ b < x.config.eeNvsStart.toNat + x.config.eeNumNvs.toNat
      then 0 else if b < 4 then 0 else if b = 5 then CBUSConfig.resetFlag else x.clearedByte b := by
  have hb' : x.resetModule.config.Used b := by
    rw [x.resetModule_config.1]
    exact hb
  rw [overFlash_read (fits_resetModule hl) hb', byteAt_resetModule hl hd hb]

theorem overFlash_resetModule_toLayout (x : ExternalConfig n) :
    x.resetModule.overFlash.toLayout = x.config.toLayout :=
  x.resetModule.overFlash_toLayout.trans (congrArg CBUSConfig.toLayout x.resetModule_config.1)

theorem placed_overFlash_resetModule (hl : x.config.Fits) : x.resetModule.overFlash.Placed :=
  placed_overFlash (fits_resetModule hl)

theorem overFlash_resetModule_readEvent (hl : x.config.Fits) (hd : x.ResetDecoded) {i : ℕ}
    (hi : i < x.config.eeMaxEvents.toNat) :
    x.resetModule.overFlash.powerUp.readEvent (UInt8.ofNat i) = x.survivor i := by
  have hlayout := x.overFlash_resetModule_toLayout
  have hbyte : ∀ k < 4, x.resetModule.overFlash.flash.read 0xFF (x.config.slotBase i + k) =
      x.clearedByte (x.config.slotBase i + k) := by
    intro k hk
    have hin : x.config.InEvents (x.config.slotBase i + k) :=
      Layout.slotBase_add_inEvents hi (by omega)
    have hlow := (hl.events _ hin).1
    have hnv : ¬ (x.config.eeNvsStart.toNat ≤ x.config.slotBase i + k ∧
        x.config.slotBase i + k < x.config.eeNvsStart.toNat + x.config.eeNumNvs.toNat) :=
      hl.disjoint _ hin
    rw [overFlash_resetModule_read hl hd (Or.inr (Or.inr (Or.inl hin))), if_neg hnv,
      if_neg (by omega), if_neg (by omega)]
  have hread := CBUSConfig.powerUp_readEvent (placed_overFlash_resetModule hl) (i := i)
    (by rwa [hlayout])
  have h0 := hbyte 0 (by omega)
  rw [Nat.add_zero] at h0
  rw [hlayout, h0, hbyte 1 (by omega), hbyte 2 (by omega), hbyte 3 (by omega)] at hread
  exact hread

theorem overFlash_resetModule_identity (hl : x.config.Fits) (hd : x.ResetDecoded) :
    x.resetModule.overFlash.powerUp.identityRam = (0, false, 0) := by
  have hbyte : ∀ a, a < 4 ∨ a = 5 → x.resetModule.overFlash.flash.read 0xFF a =
      if a < 4 then 0 else CBUSConfig.resetFlag := by
    intro a ha
    have hnv : ¬ (x.config.eeNvsStart.toNat ≤ a ∧
        a < x.config.eeNvsStart.toNat + x.config.eeNumNvs.toNat) := by
      intro hin
      have hlow := (hl.nvs a hin).1
      omega
    rw [overFlash_resetModule_read hl hd (ha.elim Or.inl fun h => Or.inr (Or.inl h)), if_neg hnv]
    split_ifs <;> first | rfl | omega
  -- The reset flag is not `0xFF`, so that the defaults are not stored again.
  have hflag : (CBUSConfig.construct x.resetModule.overFlash.toLayout
      x.resetModule.overFlash.flash).loaded.readEEPROM CBUSConfig.ofsResetFlag ≠ 0xFF := by
    have h5 := hbyte 5 (Or.inr rfl)
    rw [if_neg (by decide)] at h5
    rw [CBUSConfig.loaded_readEEPROM, show CBUSConfig.ofsResetFlag.toNat = 5 from rfl, h5]
    decide
  have hram := CBUSConfig.loadNVs_of_initialized hflag
  have h0 : x.resetModule.overFlash.flash.read 0xFF CBUSConfig.ofsFlimMode.toNat = 0 :=
    hbyte 0 (Or.inl (by decide))
  have h1 : x.resetModule.overFlash.flash.read 0xFF CBUSConfig.ofsCanId.toNat = 0 :=
    hbyte 1 (Or.inl (by decide))
  have h2 : x.resetModule.overFlash.flash.read 0xFF CBUSConfig.ofsNodeNumHb.toNat = 0 :=
    hbyte 2 (Or.inl (by decide))
  have h3 : x.resetModule.overFlash.flash.read 0xFF CBUSConfig.ofsNodeNumLb.toNat = 0 :=
    hbyte 3 (Or.inl (by decide))
  simp only [← CBUSConfig.powerUp_eq, CBUSConfig.loaded_readEEPROM, h0, h1, h2, h3] at hram
  exact hram

theorem overFlash_resetModule_readNV (hl : x.config.Fits) (hd : x.ResetDecoded) {i : ℕ}
    (hi : i < x.config.eeNumNvs.toNat) :
    x.resetModule.overFlash.powerUp.readNV (UInt8.ofNat (i + 1)) = 0 := by
  have hlayout := x.overFlash_resetModule_toLayout
  have hin : x.config.InNvs (x.config.eeNvsStart.toNat + i) := ⟨by omega, by omega⟩
  rw [CBUSConfig.powerUp_readNV (placed_overFlash_resetModule hl) (by rwa [hlayout]), hlayout,
    overFlash_resetModule_read hl hd (Or.inr (Or.inr (Or.inr hin))),
    if_pos ⟨by omega, by omega⟩]

/-- After a factory reset and a restart the identity and the node variables are zero, and the
events that are found are those that a slot spells once cells 10 to 15 are cleared. -/
theorem restart_resetModule (hl : x.config.Fits) (hd : x.ResetDecoded) :
    x.resetModule.powerUp.config.identityRam = (0, false, 0) ∧
      (∀ idx : UInt8, idx ≠ 0 → idx ≤ x.config.eeNumNvs → x.resetModule.powerUp.readNV idx = 0) ∧
      ∀ nn en : UInt16,
        (x.resetModule.powerUp.findExistingEvent nn en).toNat < x.config.eeMaxEvents.toNat ↔
          (⟨nn, en⟩ : EventInfo) ≠ evInfoUnused ∧
            ∃ i < x.config.eeMaxEvents.toNat, x.survivor i = ⟨nn, en⟩ := by
  have hmirror : Mirrors x.config.toLayout x.resetModule.powerUp
      x.resetModule.overFlash.powerUp := by
    have hrestart := mirrors_powerUp_overFlash (fits_resetModule hl) hd.decodedBy
    rwa [x.resetModule_config.1] at hrestart
  refine ⟨?_, ?_, ?_⟩
  · rw [hmirror.identityRam]
    exact overFlash_resetModule_identity hl hd
  · intro idx h0 hle
    have hle' := UInt8.le_iff_toNat_le.mp hle
    have hpos : 0 < idx.toNat := Nat.pos_of_ne_zero fun hz => h0 (UInt8.toNat_inj.mp hz)
    have hzero := overFlash_resetModule_readNV hl hd (show idx.toNat - 1 < _ by omega)
    rw [Nat.sub_add_cancel hpos, UInt8.ofNat_toNat] at hzero
    exact (hmirror.readNV h0 hle).trans hzero
  · intro nn en
    have hhashed := CBUSConfig.hashed_powerUp (placed_overFlash_resetModule hl)
    rw [hmirror.findExistingEvent, ← hmirror.eeMaxEvents, hhashed.find_lt_iff, CBUSConfig.Known,
      hmirror.eeMaxEvents]
    constructor
    · rintro ⟨i, hi, hs⟩
      obtain ⟨hread, hne⟩ := CBUSConfig.slot_eq_some.mp hs
      exact ⟨hne, i, hi, (overFlash_resetModule_readEvent hl hd hi).symm.trans hread⟩
    · rintro ⟨hne, i, hi, hs⟩
      exact ⟨i, hi, CBUSConfig.slot_eq_some.mpr
        ⟨(overFlash_resetModule_readEvent hl hd hi).trans hs, hne⟩⟩

/-- Two events with one variable each behind two node variables, the first one across address
16. -/
def straddlingLayout : Layout where
  eeEventsStart := 13
  eeMaxEvents := 2
  eeNumEvs := 1
  eeNvsStart := 6
  eeNumNvs := 2

theorem straddlingLayout_fits : straddlingLayout.Fits := by
  constructor
  · decide
  · rintro a ⟨hlo, hhi⟩
    change 13 ≤ a at hlo
    change a < 23 at hhi
    simp only [flashSectorSize]
    omega
  · rintro a ⟨hlo, hhi⟩
    change 6 ≤ a at hlo
    change a < 8 at hhi
    simp only [flashSectorSize]
    omega
  · rintro a ⟨hlo, -⟩ ⟨-, hhi⟩
    change 13 ≤ a at hlo
    change a < 8 at hhi
    omega

def straddlingEeprom : SerialEeprom 128 where
  cell := fun a => ⟨a.toNat % 128, Nat.mod_lt _ (by decide)⟩
  data := fun _ => 0xFF

def straddlingTaught : ExternalConfig 128 :=
  ((start straddlingLayout (Memory.const 0) straddlingEeprom).learnEvent 0 ⟨1, 2⟩ 1 5).learnEvent 1
    ⟨3, 4⟩ 1 6

theorem straddlingTaught_toLayout : straddlingTaught.config.toLayout = straddlingLayout := by
  rfl

theorem resetDecoded_straddlingTaught : straddlingTaught.ResetDecoded := by
  have hlt : ∀ a, straddlingTaught.config.Used a ∨ 10 ≤ a ∧ a < 16 → a < 23 := by
    intro a ha
    rw [straddlingTaught_toLayout] at ha
    change (a < 4 ∨ a = 5 ∨ (13 ≤ a ∧ a < 23) ∨ (6 ≤ a ∧ a < 8)) ∨ 10 ≤ a ∧ a < 16 at ha
    omega
  intro a ha b hb hcell
  have ha' := hlt a ha
  have hb' := hlt b hb
  have hmod : (UInt8.ofNat a).toNat % 128 = (UInt8.ofNat b).toNat % 128 := congrArg Fin.val hcell
  rw [UInt8.toNat_ofNat', UInt8.toNat_ofNat'] at hmod
  omega

/-- The second event is found after the reset, and another one in the place of the first. -/
theorem restart_resetModule_straddling :
    (straddlingTaught.resetModule.powerUp.findExistingEvent 3 4).toNat < 2 ∧
      (straddlingTaught.resetModule.powerUp.findExistingEvent 0xFFFF 0xFF02).toNat < 2 ∧
      ¬ (straddlingTaught.resetModule.powerUp.findExistingEvent 1 2).toNat < 2 := by
  have hl : straddlingTaught.config.Fits := straddlingTaught_toLayout ▸ straddlingLayout_fits
  obtain ⟨-, -, hfind⟩ := restart_resetModule hl resetDecoded_straddlingTaught
  have hmax : straddlingTaught.config.eeMaxEvents.toNat = 2 :=
    congrArg (·.eeMaxEvents.toNat) straddlingTaught_toLayout
  have hfirst : straddlingTaught.survivor 0 = ⟨0xFFFF, 0xFF02⟩ := by decide +kernel
  have hsecond : straddlingTaught.survivor 1 = ⟨3, 4⟩ := by decide +kernel
  rw [hmax] at hfind
  refine ⟨?_, ?_, fun hlt => ?_⟩
  · rw [hfind 3 4]
    exact ⟨by decide, 1, by decide, hsecond⟩
  · rw [hfind 0xFFFF 0xFF02]
    exact ⟨by decide, 0, by decide, hfirst⟩
  obtain ⟨-, i, hi, hs⟩ := (hfind 1 2).mp hlt
  interval_cases i
  · exact absurd (hfirst.symm.trans hs) (by decide)
  · exact absurd (hsecond.symm.trans hs) (by decide)

end ExternalConfig
end CBUSPicoLib
