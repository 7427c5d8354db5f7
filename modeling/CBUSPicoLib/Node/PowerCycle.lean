import CBUSPicoLib.Library.Runs
import CBUSPicoLib.Node.Storage

/-!
# The identity of the module survives a power cycle

CAN ID, FLiM mode and node number are kept three times: in RAM, in the cache of the
image and in the flash. `Mirrored` says that the three agree and that the image is
marked as initialized; every operation of the module keeps it, and `begin` on the
flash content then reads back what the RAM held.
-/

namespace CBUSPicoLib

open Runs

/-- No byte of a slot or of a node variable is one of bytes 0 to 5, as the source computes the
addresses with 32 bits and from an index of an event variable that is not checked. -/
structure Layout.SparesIdentity (l : Layout) : Prop where
  events : ∀ idx < l.eeMaxEvents, ∀ ofs : UInt32, ofs.toNat ≤ 258 →
    6 ≤ (l.eeEventsStart + idx.toUInt32 * (l.eeNumEvs + 4).toUInt32 + ofs).toNat
  nvs : ∀ idx, 1 ≤ idx → idx ≤ l.eeNumNvs → 6 ≤ (l.eeNvsStart + (idx.toUInt32 - 1)).toNat

namespace CBUSConfig

def storedIdentity (c : CBUSConfig) : UInt8 × Bool × UInt32 :=
  (c.readEEPROM ofsCanId, c.readEEPROM ofsFlimMode != 0,
    (bytesToWord (c.readEEPROM ofsNodeNumHb) (c.readEEPROM ofsNodeNumLb)).toUInt32)

/-- RAM, cache and flash hold the same identity, and the next start will read it. -/
structure Mirrored (c : CBUSConfig) : Prop where
  synced : c.Synced
  initialized : c.readEEPROM ofsResetFlag ≠ 0xFF
  identity : c.identityRam = c.storedIdentity

theorem readEEPROM_congr {c c' : CBUSConfig} (h : c'.flashBuf = c.flashBuf) (a : UInt32) :
    c'.readEEPROM a = c.readEEPROM a := by
  unfold readEEPROM getChipEEPROMVal
  rw [h]

theorem readEEPROM_writeEEPROM (c : CBUSConfig) {a : UInt32} (ha : a.toNat < flashSectorSize)
    (v : UInt8) (f : Bool) : (c.writeEEPROM a v f).readEEPROM a = v := by
  unfold readEEPROM getChipEEPROMVal
  rw [writeEEPROM_flashBuf, Memory.read_write, if_pos ⟨rfl, ha⟩]

theorem readEEPROM_writeEEPROM_ne (c : CBUSConfig) {a b : UInt32} (hab : b ≠ a) (v : UInt8)
    (f : Bool) : (c.writeEEPROM a v f).readEEPROM b = c.readEEPROM b := by
  unfold readEEPROM getChipEEPROMVal
  rw [writeEEPROM_flashBuf, Memory.read_write_ne fun h => hab (UInt32.toNat_inj.mp h)]

theorem setFLiM_readEEPROM_ne (c : CBUSConfig) (flim : Bool) {b : UInt32} (hb : b ≠ ofsFlimMode) :
    (c.setFLiM flim).readEEPROM b = c.readEEPROM b :=
  readEEPROM_writeEEPROM_ne _ hb _ _

theorem setFLiM_storedIdentity (c : CBUSConfig) (flim : Bool) :
    (c.setFLiM flim).storedIdentity = (c.storedIdentity.1, flim, c.storedIdentity.2.2) := by
  have hmode : (c.setFLiM flim).readEEPROM ofsFlimMode = if flim then 1 else 0 :=
    readEEPROM_writeEEPROM _ (by decide) _ _
  unfold storedIdentity
  rw [hmode, c.setFLiM_readEEPROM_ne flim (by decide), c.setFLiM_readEEPROM_ne flim (by decide),
    c.setFLiM_readEEPROM_ne flim (by decide)]
  cases flim <;> rfl

theorem setCANID_readEEPROM_ne (c : CBUSConfig) (canid : UInt8) {b : UInt32} (hb : b ≠ ofsCanId) :
    (c.setCANID canid).2.readEEPROM b = c.readEEPROM b := by
  rw [setCANID_eq]
  split_ifs
  · exact readEEPROM_writeEEPROM_ne _ hb _ _
  · rfl

theorem setCANID_storedIdentity (c : CBUSConfig) {canid : UInt8} (h : 1 ≤ canid ∧ canid ≤ 99) :
    (c.setCANID canid).2.storedIdentity = (canid, c.storedIdentity.2) := by
  have hcan : (c.setCANID canid).2.readEEPROM ofsCanId = canid := by
    rw [setCANID_eq, if_pos h]
    exact readEEPROM_writeEEPROM _ (by decide) _ _
  unfold storedIdentity
  rw [hcan, c.setCANID_readEEPROM_ne canid (by decide), c.setCANID_readEEPROM_ne canid (by decide),
    c.setCANID_readEEPROM_ne canid (by decide)]

theorem setNodeNum_readEEPROM_ne (c : CBUSConfig) (nn : UInt32) {b : UInt32}
    (hh : b ≠ ofsNodeNumHb) (hl : b ≠ ofsNodeNumLb) :
    (c.setNodeNum nn).readEEPROM b = c.readEEPROM b := by
  rw [setNodeNum_eq, readEEPROM_congr (commitChanges_flashBuf _), readEEPROM_writeEEPROM_ne _ hl,
    readEEPROM_writeEEPROM_ne _ hh]
  rfl

theorem setNodeNum_storedIdentity (c : CBUSConfig) (nn : UInt16) :
    (c.setNodeNum nn.toUInt32).storedIdentity =
      (c.storedIdentity.1, c.storedIdentity.2.1, nn.toUInt32) := by
  have hlow : (c.setNodeNum nn.toUInt32).readEEPROM ofsNodeNumLb = lowByte nn.toNat := by
    rw [setNodeNum_eq, readEEPROM_congr (commitChanges_flashBuf _),
      readEEPROM_writeEEPROM _ (by decide)]
    rfl
  have hhigh : (c.setNodeNum nn.toUInt32).readEEPROM ofsNodeNumHb = highByte nn.toNat := by
    rw [setNodeNum_eq, readEEPROM_congr (commitChanges_flashBuf _),
      readEEPROM_writeEEPROM_ne _ (by decide), readEEPROM_writeEEPROM _ (by decide)]
    rfl
  unfold storedIdentity
  rw [hlow, hhigh, bytesToWord_high_low, c.setNodeNum_readEEPROM_ne _ (by decide) (by decide),
    c.setNodeNum_readEEPROM_ne _ (by decide) (by decide)]

/-- An operation that leaves the identity alone, in RAM and in the image. -/
theorem Mirrored.congr {c c' : CBUSConfig} (h : c.Mirrored) (hs : c'.Synced)
    (hram : c'.identityRam = c.identityRam)
    (hread : ∀ a : UInt32, a.toNat < 6 → c'.readEEPROM a = c.readEEPROM a) : c'.Mirrored := by
  refine ⟨hs, ?_, ?_⟩
  · rw [hread _ (by decide)]
    exact h.initialized
  · rw [hram, h.identity]
    unfold storedIdentity
    rw [hread ofsCanId (by decide), hread ofsFlimMode (by decide), hread ofsNodeNumHb (by decide),
      hread ofsNodeNumLb (by decide)]

theorem Mirrored.setFLiM {c : CBUSConfig} (h : c.Mirrored) (flim : Bool) :
    (c.setFLiM flim).Mirrored := by
  refine ⟨h.synced.setFLiM flim, ?_, ?_⟩
  · rw [c.setFLiM_readEEPROM_ne flim (by decide)]
    exact h.initialized
  · rw [setFLiM_identityRam, setFLiM_storedIdentity, ← h.identity]
    rfl

theorem Mirrored.setCANID {c : CBUSConfig} (h : c.Mirrored) (canid : UInt8) :
    (c.setCANID canid).2.Mirrored := by
  by_cases hv : 1 ≤ canid ∧ canid ≤ 99
  · refine ⟨h.synced.setCANID canid, ?_, ?_⟩
    · rw [c.setCANID_readEEPROM_ne canid (by decide)]
      exact h.initialized
    · rw [setCANID_identityRam c hv, setCANID_storedIdentity c hv, ← h.identity]
      rfl
  · rw [setCANID_eq, if_neg hv]
    exact h

theorem Mirrored.setNodeNum {c : CBUSConfig} (h : c.Mirrored) (nn : UInt16) :
    (c.setNodeNum nn.toUInt32).Mirrored := by
  refine ⟨h.synced.setNodeNum _, ?_, ?_⟩
  · rw [c.setNodeNum_readEEPROM_ne _ (by decide) (by decide)]
    exact h.initialized
  · rw [setNodeNum_identityRam, setNodeNum_storedIdentity, ← h.identity]
    rfl

/-- The object is placed by layout `l`, whose areas spare the identity bytes. -/
structure Spared (l : Layout) (c : CBUSConfig) : Prop where
  spares : l.SparesIdentity
  toLayout : c.toLayout = l
  bytesPerEvent : c.eeBytesPerEvent = l.eeNumEvs + 4

theorem Spared.of_eventRam {l : Layout} {c c' : CBUSConfig} (h : c.Spared l)
    (hu : c'.eventRam = c.eventRam) : c'.Spared l := by
  have hl : c'.toLayout = c.toLayout := congrArg Prod.fst hu
  have hb : c'.eeBytesPerEvent = c.eeBytesPerEvent := congrArg (·.2.1) hu
  exact ⟨h.spares, hl.trans h.toLayout, hb.trans h.bytesPerEvent⟩

theorem Spared.eventAddress {l : Layout} {c : CBUSConfig} (h : c.Spared l) {idx : UInt8}
    (hi : idx < c.eeMaxEvents) {ofs : UInt32} (ho : ofs.toNat ≤ 258) :
    6 ≤ (c.eventAddress idx ofs).toNat := by
  rw [h.toLayout] at hi
  rw [CBUSConfig.eventAddress, h.toLayout, h.bytesPerEvent]
  exact h.spares.events idx hi ofs ho

theorem readEEPROM_write_far {c : CBUSConfig} {a : UInt32} (ha : 6 ≤ a.toNat) (v : UInt8) (f : Bool)
    {b : UInt32} (hb : b.toNat < 6) : (c.writeEEPROM a v f).readEEPROM b = c.readEEPROM b := by
  apply readEEPROM_writeEEPROM_ne
  rintro rfl
  omega

theorem Spared.readEEPROM_writeEvent {l : Layout} {c : CBUSConfig} (h : c.Spared l) {idx : UInt8}
    (hi : idx < c.eeMaxEvents) (e : EventInfo) (f : Bool) {b : UInt32} (hb : b.toNat < 6) :
    (c.writeEvent idx e f).readEEPROM b = c.readEEPROM b := by
  apply read_writeEvent_ne
  intro k hk he
  have hofs : (UInt32.ofNat k).toNat ≤ 258 := by
    rw [UInt32.toNat_ofNat', Nat.mod_eq_of_lt (by omega)]
    omega
  have hfar := h.eventAddress hi hofs
  rw [slotByte] at he
  omega

theorem Mirrored.learnEvent {l : Layout} {c : CBUSConfig} (h : c.Mirrored) (hl : c.Spared l)
    {index : UInt8} (hi : index < c.eeMaxEvents) (e : EventInfo) (evNum evVal : UInt8) :
    (c.learnEvent index e evNum evVal).Mirrored := by
  have hn := evNum.toNat_lt
  have hofs : (3 + evNum.toUInt32).toNat ≤ 258 := by
    rw [UInt32.toNat_add, UInt8.toNat_toUInt32]
    simp
    omega
  refine h.congr (h.synced.learnEvent index e evNum evVal)
    (c.learnEvent_identityRam index e evNum evVal) fun a ha => ?_
  rw [learnEvent_eq]
  split_ifs
  · have hl' := hl.of_eventRam (writeEvent_eventRam c index e true)
    have hmax : (c.writeEvent index e).eeMaxEvents = c.eeMaxEvents :=
      congrArg (·.1.eeMaxEvents) (writeEvent_eventRam c index e true)
    exact (readEEPROM_write_far (hl'.eventAddress (hmax ▸ hi) hofs) _ _ ha).trans
      (hl.readEEPROM_writeEvent hi e true ha)
  · exact readEEPROM_write_far (hl.eventAddress hi hofs) _ _ ha

theorem Mirrored.updateEvHashEntry {c : CBUSConfig} (h : c.Mirrored) (index : UInt8) :
    (c.updateEvHashEntry index).Mirrored :=
  h.congr (h.synced.updateEvHashEntry index) rfl fun _ _ => rfl

theorem Mirrored.clearEvent {l : Layout} {c : CBUSConfig} (h : c.Mirrored) (hl : c.Spared l)
    {index : UInt8} (hi : index < c.eeMaxEvents) :
    ((c.clearEventEEPROM index).updateEvHashEntry index).Mirrored := by
  have hcleared : (c.clearEventEEPROM index).Mirrored := by
    apply h.congr (h.synced.clearEventEEPROM index) (c.clearEventEEPROM_identityRam index true)
    intro a ha
    exact hl.readEEPROM_writeEvent hi _ _ ha
  exact hcleared.updateEvHashEntry index

theorem Mirrored.writeNV {l : Layout} {c : CBUSConfig} (h : c.Mirrored) (hl : c.Spared l)
    {idx : UInt8} (h1 : 1 ≤ idx) (hi : idx ≤ l.eeNumNvs) (val : UInt8) :
    (c.writeNV idx val).Mirrored := by
  have hnv := h.congr (h.synced.writeNV idx val) (c.writeNV_identityRam idx val)
  apply hnv
  intro a ha
  rw [writeNV_eq]
  apply readEEPROM_write_far _ _ _ ha
  rw [hl.toLayout]
  exact hl.spares.nvs idx h1 hi

/-- The first boot from an image without the mark writes the defaults; any other boot
reads the image. -/
theorem mirrored_begin (l : Layout) (flash : FlashImage) : (construct l flash).begin.Mirrored := by
  have hsync := synced_begin l flash
  rw [begin_eq] at hsync ⊢
  generalize (construct l flash).loaded = d at hsync ⊢
  by_cases hflag : d.readEEPROM ofsResetFlag = 0xFF
  · -- the identity that the defaults leave in the image
    let d₂ := ((d.setFLiM false).setCANID defaultCanid).2.setNodeNum (0 : UInt16).toUInt32
    have hcan := (d.setFLiM false).setCANID_storedIdentity
      (by decide : 1 ≤ defaultCanid ∧ defaultCanid ≤ 99)
    have hstored : d₂.storedIdentity = (defaultCanid, false, defaultNn) := by
      rw [setNodeNum_storedIdentity, hcan, setFLiM_storedIdentity]
      rfl
    have hload : d.loadNVs = d₂.clearResetFlag := loadNVs_of_blank hflag
    have hread : ∀ b : UInt32, b ≠ ofsResetFlag →
        d₂.clearResetFlag.readEEPROM b = d₂.readEEPROM b :=
      fun b hb => readEEPROM_writeEEPROM_ne _ hb _ _
    have hsame : d₂.clearResetFlag.storedIdentity = d₂.storedIdentity := by
      unfold storedIdentity
      rw [hread _ (by decide), hread _ (by decide), hread _ (by decide), hread _ (by decide)]
    refine ⟨hsync, ?_, ?_⟩
    · rw [hload, clearResetFlag_eq, readEEPROM_writeEEPROM _ (by decide)]
      decide
    · rw [loadNVs_of_resetFlag hflag, hload, hsame, hstored]
  · have hread : ∀ b, d.loadNVs.readEEPROM b = d.readEEPROM b := by
      intro b
      rw [loadNVs_of_marked hflag]
      rfl
    refine ⟨hsync, ?_, ?_⟩
    · rw [hread]
      exact hflag
    · rw [loadNVs_of_initialized hflag]
      unfold storedIdentity
      rw [hread, hread, hread, hread]

theorem Mirrored.begin {c : CBUSConfig} (h : c.Mirrored) : c.begin.identityRam = c.identityRam := by
  have hread : ∀ a, c.loaded.readEEPROM a = c.readEEPROM a := by
    intro a
    change c.flash.read 0xFF a.toNat = c.flashBuf.read 0xFF a.toNat
    rw [h.synced.flash_eq]
  have hflag : c.loaded.readEEPROM ofsResetFlag ≠ 0xFF := by
    rw [hread]
    exact h.initialized
  rw [begin_eq, loadNVs_of_initialized hflag, hread, hread, hread, hread]
  exact h.identity.symm

theorem Mirrored.powerUp {c : CBUSConfig} (h : c.Mirrored) :
    c.powerUp.identityRam = c.identityRam := by
  have hread : ∀ a, (construct c.toLayout c.flash).loaded.readEEPROM a = c.readEEPROM a := by
    intro a
    change c.flash.read 0xFF a.toNat = c.flashBuf.read 0xFF a.toNat
    rw [h.synced.flash_eq]
  have hflag : (construct c.toLayout c.flash).loaded.readEEPROM ofsResetFlag ≠ 0xFF := by
    rw [hread]
    exact h.initialized
  rw [powerUp_eq, loadNVs_of_initialized hflag, hread, hread, hread, hread]
  exact h.identity.symm

theorem sparesIdentity_of_fits {l : Layout} (h : l.Fits) : l.SparesIdentity := by
  have hp : (construct l (Memory.const 0)).loaded.Placed := placed_loaded h
  constructor
  · intro idx hi ofs ho
    have hlt : idx.toNat < l.eeMaxEvents.toNat := UInt8.lt_iff_toNat_lt.mp hi
    have haddr := hp.eventAddress_toNat hlt (by omega : ofs.toNat < 512)
    change 6 ≤ ((construct l (Memory.const 0)).loaded.eventAddress idx ofs).toNat
    rw [haddr]
    exact le_add_right (h.slotBase_add hlt (Nat.succ_pos _)).1
  · intro idx h1 hi
    have h0 : idx ≠ 0 := by
      rintro rfl
      exact absurd h1 (by decide)
    exact (h.nvs _ (writeNV_inNvs hp h0 hi)).1

theorem spared_begin {l : Layout} (h : l.SparesIdentity) (flash : FlashImage) :
    (construct l flash).begin.Spared l := by
  have h0 : (construct l flash).loaded.Spared l := ⟨h, rfl, rfl⟩
  rw [begin_eq]
  exact h0.of_eventRam (sameTables_loadNVs _).ram

theorem Spared.updateEvHashEntry {l : Layout} {c : CBUSConfig} (h : c.Spared l) (idx : UInt8) :
    (c.updateEvHashEntry idx).Spared l := ⟨h.spares, h.toLayout, h.bytesPerEvent⟩

theorem Spared.learnEvent {l : Layout} {c : CBUSConfig} (h : c.Spared l) (index : UInt8)
    (e : EventInfo) (evNum evVal : UInt8) : (c.learnEvent index e evNum evVal).Spared l := by
  obtain ⟨hl, hb, -⟩ := c.learnEvent_toLayout index e evNum evVal
  exact ⟨h.spares, hl.trans h.toLayout, hb.trans h.bytesPerEvent⟩

end CBUSConfig

namespace CBUSbase

/-- An operation that changes the stored configuration. A node number and an event number
that the source takes from the frame come with the operation. -/
inductive ConfigCall
  | setCANID (canid : UInt8)
  | setFLiM (flim : Bool)
  | setNodeNum (nn : UInt16)
  | doSnn (nodeNumber : UInt16)
  | revertSLiM
  | doEvlrn (nodeNumber eventNumber : UInt16) (evNum evVal : UInt8)
  | doEvuln (nodeNumber eventNumber : UInt16)
  | writeNV (idx val : UInt8)

/-- The node variable that is written exists. -/
def ConfigCall.InRange (l : Layout) : ConfigCall → Prop
  | .writeNV idx _ => 1 ≤ idx ∧ idx ≤ l.eeNumNvs
  | _ => True

def configStep (n : CBUSbase) : ConfigCall → CBUSbase
  | .setCANID canid => { n with moduleConfig := (n.moduleConfig.setCANID canid).2 }
  | .setFLiM flim => { n with moduleConfig := n.moduleConfig.setFLiM flim }
  | .setNodeNum nn => { n with moduleConfig := n.moduleConfig.setNodeNum nn.toUInt32 }
  | .doSnn nodeNumber => doSnn { n with nodeNumber }
  | .revertSLiM => n.revertSLiM
  | .doEvlrn nodeNumber eventNumber evNum evVal =>
    doEvlrn { n with nodeNumber, eventNumber } evNum evVal
  | .doEvuln nodeNumber eventNumber => doEvuln { n with nodeNumber, eventNumber }
  | .writeNV idx val => { n with moduleConfig := n.moduleConfig.writeNV idx val }

theorem doSnn_moduleConfig (n : CBUSbase) :
    n.doSnn.moduleConfig = (n.moduleConfig.setNodeNum n.nodeNumber.toUInt32).setFLiM true := by
  unfold doSnn
  dsimp only
  rw [(replies_sendOpcMyNN _ _ _ _ _ _ _ _).moduleConfig, indicateFLiMMode_moduleConfig]

theorem revertSLiM_moduleConfig (n : CBUSbase) :
    n.revertSLiM.moduleConfig =
      (((n.moduleConfig.setNodeNum (0 : UInt16).toUInt32).setFLiM false).setCANID 1).2 := by
  unfold revertSLiM setSLiM
  dsimp only
  rw [indicateFLiMMode_moduleConfig, (n.replies_sendOpcMyNN _ _ _ _ _ _ _).moduleConfig]
  rfl

/-- What every operation keeps. -/
structure KeepsIdentity (l : Layout) (n : CBUSbase) : Prop where
  mirrored : n.moduleConfig.Mirrored
  spared : n.moduleConfig.Spared l

theorem KeepsIdentity.of_moduleConfig {l : Layout} {m : CBUSbase} {c : CBUSConfig}
    (hconf : m.moduleConfig = c) (hm : c.Mirrored) (hs : c.Spared l) : m.KeepsIdentity l := by
  constructor
  · rwa [hconf]
  · rwa [hconf]

theorem KeepsIdentity.configStep {l : Layout} {n : CBUSbase} (h : n.KeepsIdentity l)
    {call : ConfigCall} (hc : call.InRange l) : (n.configStep call).KeepsIdentity l := by
  obtain ⟨hm, hs⟩ := h
  cases call with
  | setCANID canid =>
    exact ⟨hm.setCANID canid, hs.of_eventRam (CBUSConfig.sameTables_setCANID _ canid).ram⟩
  | setFLiM flim =>
    exact ⟨hm.setFLiM flim, hs.of_eventRam (CBUSConfig.sameTables_setFLiM _ flim).ram⟩
  | setNodeNum nn =>
    exact ⟨hm.setNodeNum nn, hs.of_eventRam (CBUSConfig.sameTables_setNodeNum _ _).ram⟩
  | doSnn nodeNumber =>
    apply of_moduleConfig (doSnn_moduleConfig { n with nodeNumber })
    · exact (hm.setNodeNum nodeNumber).setFLiM true
    · exact hs.of_eventRam ((CBUSConfig.sameTables_setNodeNum _ _).trans
        (CBUSConfig.sameTables_setFLiM _ true)).ram
  | revertSLiM =>
    apply of_moduleConfig n.revertSLiM_moduleConfig
    · exact ((hm.setNodeNum 0).setFLiM false).setCANID 1
    · exact hs.of_eventRam (((CBUSConfig.sameTables_setNodeNum _ _).trans
        (CBUSConfig.sameTables_setFLiM _ false)).trans (CBUSConfig.sameTables_setCANID _ 1)).ram
  | doEvlrn nodeNumber eventNumber evNum evVal =>
    have hconf := doEvlrn_moduleConfig { n with nodeNumber, eventNumber } evNum evVal
    dsimp only at hconf
    split_ifs at hconf with hi
    · exact of_moduleConfig hconf (hm.learnEvent hs hi.2 _ evNum evVal)
        (hs.learnEvent _ _ evNum evVal)
    · exact of_moduleConfig hconf hm hs
  | doEvuln nodeNumber eventNumber =>
    have hconf := doEvuln_moduleConfig { n with nodeNumber, eventNumber }
    dsimp only at hconf
    split_ifs at hconf with hi
    · apply of_moduleConfig hconf (hm.clearEvent hs hi)
      exact (hs.of_eventRam (CBUSConfig.writeEvent_eventRam _ _ _ _)).updateEvHashEntry _
    · exact of_moduleConfig hconf hm hs
  | writeNV idx val =>
    exact ⟨hm.writeNV hs hc.1 hc.2 val,
      hs.of_eventRam (CBUSConfig.writeNV_eventRam _ idx val)⟩

theorem KeepsIdentity.run {l : Layout} {n : CBUSbase} (h : n.KeepsIdentity l)
    {calls : List ConfigCall} (hc : ∀ call ∈ calls, call.InRange l) :
    (run CBUSbase.configStep n calls).KeepsIdentity l := by
  induction calls generalizing n with
  | nil => exact h
  | cons call calls ih =>
    have hstep := h.configStep (hc call List.mem_cons_self)
    exact ih hstep fun call' hm => hc call' (List.mem_cons_of_mem _ hm)

/-- After any operations, a new object started on the flash content has the same CAN ID,
FLiM mode and node number, and a second start changes none of them. -/
theorem identity_survives (n : CBUSbase) (l : Layout) (hl : l.SparesIdentity) (flash : FlashImage)
    (hn : n.moduleConfig = (CBUSConfig.construct l flash).begin) (calls : List ConfigCall)
    (hc : ∀ call ∈ calls, call.InRange l) :
    let c := (run configStep n calls).moduleConfig
    c.powerUp.identityRam = c.identityRam ∧ c.begin.identityRam = c.identityRam := by
  intro c
  have h0 : n.KeepsIdentity l := by
    constructor
    · rw [hn]
      exact CBUSConfig.mirrored_begin l flash
    · rw [hn]
      exact CBUSConfig.spared_begin hl flash
  have hrun := (h0.run hc).mirrored
  exact ⟨hrun.powerUp, hrun.begin⟩

def firstBoot : CBUSbase := { smallModule with moduleConfig := CBUSConfig.smallStarted }

/-- It is given a node number, teaches itself an event past the last variable, and is sent
a CAN ID that it rejects. -/
def firstSession : List ConfigCall :=
  [.setCANID 42, .doSnn 0x0102, .doEvlrn 1 2 1 5, .doEvlrn 1 2 200 9, .writeNV 1 7, .setCANID 100]

theorem identity_survives_firstSession :
    let c := (run configStep firstBoot firstSession).moduleConfig
    c.powerUp.identityRam = c.identityRam ∧ c.begin.identityRam = c.identityRam :=
  identity_survives firstBoot CBUSConfig.smallLayout
    (CBUSConfig.sparesIdentity_of_fits CBUSConfig.smallLayout_fits)
    (Memory.const 0xFF) rfl firstSession (by simp [firstSession, ConfigCall.InRange]; decide)

/-- The areas avoid bytes 0 to 5, but behind the events the addresses wrap around. -/
def lastBytesLayout : Layout :=
  { CBUSConfig.smallLayout with eeEventsStart := 0xFFFFFF00, eeMaxEvents := 1 }

def lastBytesBoot : CBUSbase := { smallModule with
  moduleConfig := (CBUSConfig.construct lastBytesLayout (Memory.const 0xFF)).begin }

/-- Event variable 255 is the high byte of the node number. -/
theorem not_identity_survives_lastBytes :
    (∀ a, lastBytesLayout.InEvents a → 6 ≤ a) ∧ (∀ a, lastBytesLayout.InNvs a → 6 ≤ a) ∧
      lastBytesBoot.moduleConfig = (CBUSConfig.construct lastBytesLayout (Memory.const 0xFF)).begin ∧
      (∀ call ∈ [ConfigCall.doEvlrn 1 2 255 9], call.InRange lastBytesLayout) ∧
      let c := (run configStep lastBytesBoot [.doEvlrn 1 2 255 9]).moduleConfig
      c.powerUp.identityRam ≠ c.identityRam := by
  refine ⟨?_, ?_, rfl, ?_, by decide +kernel⟩
  · rintro a ⟨hlo, -⟩
    exact le_trans (by decide) hlo
  · rintro a ⟨hlo, -⟩
    exact le_trans (by decide) hlo
  · intro call hcall
    rw [List.mem_singleton.mp hcall]
    trivial

end CBUSbase
end CBUSPicoLib
