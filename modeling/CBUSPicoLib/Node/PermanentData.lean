import CBUSPicoLib.Config.PowerFailure
import CBUSPicoLib.Node.EventStoreRuns
import CBUSPicoLib.Node.NodeVariables

/-!
# What a module keeps while it is switched off

Events, node variables, CAN ID, FLiM mode and node number, in the terms of the module: which
operation changes what, and what an erased flash stands for. Every operation is a list of
transactions on the flash and does to the configuration what it means for the data.
-/

namespace CBUSPicoLib

open Runs TaggedTable

/-- The data that a module keeps in its flash. -/
structure PermanentData (capacity : ℕ) where
  events : EventStore capacity
  canId : UInt8
  bFLiM : Bool
  nodeNum : UInt32
  nodeVariable : UInt8 → UInt8

namespace PermanentData

variable {capacity : ℕ}

def erased : PermanentData capacity where
  events := .empty
  canId := CBUSConfig.defaultCanid
  bFLiM := false
  nodeNum := CBUSConfig.defaultNn
  nodeVariable := fun _ => 0xFF

end PermanentData

/-- An operation that writes to the flash. -/
inductive WriteOp
  | command (cmd : StoreCommand)
  | writeNV (idx val : UInt8)
  | setCANID (canid : UInt8)
  | setFLiM (flim : Bool)
  | setNodeNum (nn : UInt16)
  deriving DecidableEq

namespace WriteOp

variable {capacity : ℕ}

def apply (s : PermanentData capacity) : WriteOp → PermanentData capacity
  | .command cmd => { s with events := cmd.apply s.events }
  | .writeNV idx val => { s with nodeVariable := Function.update s.nodeVariable idx val }
  | .setCANID canid => if 1 ≤ canid ∧ canid ≤ 99 then { s with canId := canid } else s
  | .setFLiM flim => { s with bFLiM := flim }
  | .setNodeNum nn => { s with nodeNum := nn.toUInt32 }

/-- The variable that is written exists. -/
def InRange (l : Layout) : WriteOp → Prop
  | .command cmd => cmd.InRange l
  | .writeNV idx _ => idx ≠ 0 ∧ idx ≤ l.eeNumNvs
  | _ => True

end WriteOp

def ByteStore.writeOp {σ : Type} [ByteStore σ] (s : σ) : WriteOp → σ
  | .command cmd => storeCommand s cmd
  | .writeNV idx val => writeNV s idx val
  | .setCANID canid => (setCANID s canid).2
  | .setFLiM flim => setFLiM s flim
  | .setNodeNum nn => setNodeNum s nn.toUInt32

namespace CBUSConfig

def writeOp (c : CBUSConfig) (op : WriteOp) : CBUSConfig := ByteStore.writeOp c op

def commandTransactions (c : CBUSConfig) : StoreCommand → List Transaction
  | .clear => [c.clearWrites (List.range c.eeMaxEvents.toNat)]
  | .remove e =>
    let index := c.findExistingEvent e.nodeNumber e.eventNumber
    if index < c.eeMaxEvents then [c.eventWrites index evInfoUnused] else []
  | .teach e evNum evVal =>
    let index := c.learnSlot e.nodeNumber e.eventNumber
    if evNum ≠ 0 ∧ index < c.eeMaxEvents then
      (if evNum < 2 then [c.eventWrites index e] else []) ++
        [[(c.eventAddress index (3 + evNum.toUInt32), evVal)]]
    else []

/-- The transactions of an operation, in the order of its flushes. -/
def transactions (c : CBUSConfig) : WriteOp → List Transaction
  | .command cmd => c.commandTransactions cmd
  | .writeNV idx val => [[(c.eeNvsStart + (idx.toUInt32 - 1), val)]]
  | .setCANID canid => if 1 ≤ canid ∧ canid ≤ 99 then [[(ofsCanId, canid)]] else []
  | .setFLiM flim => [[(ofsFlimMode, if flim then 1 else 0)]]
  | .setNodeNum nn =>
    [[(ofsNodeNumHb, highByte nn.toUInt32.toNat), (ofsNodeNumLb, lowByte nn.toUInt32.toNat)]]

variable {capacity : ℕ} {c c' : CBUSConfig} {s : PermanentData capacity}

theorem storage_learnEvent (c : CBUSConfig) (index : UInt8) (e : EventInfo) (evNum evVal : UInt8) :
    (c.learnEvent index e evNum evVal).storage =
      (run transact c ((if evNum < 2 then [c.eventWrites index e] else []) ++
        [[(c.eventAddress index (3 + evNum.toUInt32), evVal)]])).storage := by
  rw [learnEvent_eq]
  split_ifs with hev
  · rw [writeEvent_eq_transact]
    have hu := c.writeEvent_eventRam index e true
    rw [writeEvent_eq_transact] at hu
    have haddr : (c.transact (c.eventWrites index e)).eventAddress index (3 + evNum.toUInt32) =
        c.eventAddress index (3 + evNum.toUInt32) := by
      have hl : (c.transact (c.eventWrites index e)).toLayout = c.toLayout := congrArg Prod.fst hu
      have hb : (c.transact (c.eventWrites index e)).eeBytesPerEvent = c.eeBytesPerEvent :=
        congrArg (·.2.1) hu
      unfold eventAddress
      rw [hl, hb]
    change ((c.transact (c.eventWrites index e)).writeEventEV index evNum evVal).storage = _
    rw [writeEventEV_eq, haddr]
    rfl
  · rfl

theorem storage_storeCommand (c : CBUSConfig) (cmd : StoreCommand) :
    (c.storeCommand cmd).storage = (run transact c (c.commandTransactions cmd)).storage := by
  cases cmd with
  | clear =>
    change c.clearEventsEEPROM.storage = _
    rw [clearEventsEEPROM_eq_transact]
    rfl
  | remove e =>
    rw [storeCommand_remove]
    unfold commandTransactions
    dsimp only
    split_ifs
    · change (c.writeEvent _ evInfoUnused).storage = _
      rw [writeEvent_eq_transact]
      rfl
    · rfl
  | teach e evNum evVal =>
    rw [storeCommand_teach]
    unfold commandTransactions
    dsimp only
    by_cases h : evNum ≠ 0 ∧ c.learnSlot e.nodeNumber e.eventNumber < c.eeMaxEvents
    · rw [if_pos h, if_pos h]
      exact c.storage_learnEvent _ e evNum evVal
    · rw [if_neg h, if_neg h]
      rfl

/-- What an operation does to cache and flash is what its transactions do. -/
theorem storage_writeOp (c : CBUSConfig) (op : WriteOp) :
    (c.writeOp op).storage = (run transact c (c.transactions op)).storage := by
  have hram : ∀ canId bFLiM nodeNum,
      ({ c with canId := canId, bFLiM := bFLiM, nodeNum := nodeNum } : CBUSConfig).storage =
        c.storage := fun _ _ _ => rfl
  cases op with
  | command cmd => exact c.storage_storeCommand cmd
  | writeNV idx val => rfl
  | setCANID canid =>
    change (c.setCANID canid).2.storage = _
    rw [setCANID_eq]
    unfold transactions
    dsimp only
    split_ifs
    · exact storage_transact (hram canid c.bFLiM c.nodeNum) [(ofsCanId, canid)]
    · rfl
  | setFLiM flim =>
    exact storage_transact (hram c.canId flim c.nodeNum) [(ofsFlimMode, if flim then 1 else 0)]
  | setNodeNum nn =>
    exact storage_transact (hram c.canId c.bFLiM nn.toUInt32)
      [(ofsNodeNumHb, highByte nn.toUInt32.toNat), (ofsNodeNumLb, lowByte nn.toUInt32.toNat)]

/-- The configuration holds the data, and the next start will find them. -/
structure Holds (c : CBUSConfig) (s : PermanentData capacity) : Prop where
  represents : c.Represents s.events
  mirrored : c.Mirrored
  identity : c.identityRam = (s.canId, s.bFLiM, s.nodeNum)
  nodeVariable : ∀ idx, c.ValidIndex idx → c.readNV idx = s.nodeVariable idx

theorem ValidIndex.inNvs {idx : UInt8} (h : c.ValidIndex idx) (hp : c.Placed) :
    c.InNvs (c.nvByte idx) := by
  obtain ⟨hpos, hle⟩ := h.bounds
  rw [(h.address hp).1]
  constructor <;> omega

theorem ValidIndex.readNV_congr {idx : UInt8} (h : c'.ValidIndex idx) (hp : c.Placed)
    (hl : c'.toLayout = c.toLayout)
    (himage : ∀ a, c.InNvs a → c'.flashBuf.read 0xFF a = c.flashBuf.read 0xFF a) :
    c'.readNV idx = c.readNV idx := by
  have hv : c.ValidIndex idx := by
    unfold ValidIndex at h ⊢
    rwa [hl] at h
  rw [readNV_nvByte, readNV_nvByte, nvByte_congr hl]
  exact himage _ (hv.inNvs hp)

/-- A change of the event area or of the RAM copies keeps what the others read. -/
theorem Holds.of_image (h : c.Holds s) {t : EventStore capacity} (hr : c'.Represents t)
    (hl : c'.toLayout = c.toLayout) (hram : c'.identityRam = c.identityRam)
    (himage : ∀ a, ¬ c.InEvents a → c'.flashBuf.read 0xFF a = c.flashBuf.read 0xFF a) :
    c'.Holds { s with events := t } := by
  have hp := h.represents.placed
  refine ⟨hr, h.mirrored.congr hr.intact.synced hram ?_, hram.trans h.identity, ?_⟩
  · intro a ha
    apply himage
    intro hin
    exact absurd (hp.fits.events _ hin).1 (by omega)
  · intro idx hv
    have hv' : c.ValidIndex idx := by
      unfold ValidIndex at hv ⊢
      rwa [hl] at hv
    rw [hv.readNV_congr hp hl fun a ha => himage a fun hin => hp.fits.disjoint a hin ha]
    exact h.nodeVariable idx hv'

theorem Placed.eventWrites_inEvents (hp : c.Placed) {index : UInt8}
    (hi : index.toNat < c.eeMaxEvents.toNat) (e : EventInfo) :
    ∀ w ∈ c.eventWrites index e, c.InEvents w.1.toNat := by
  have haddr : ∀ k : UInt32, k.toNat < 4 → c.InEvents (c.eventAddress index k).toNat := by
    intro k hk
    rw [hp.eventAddress_toNat hi (by omega)]
    exact Layout.slotBase_add_inEvents hi (by omega)
  intro w hw
  simp only [eventWrites, List.mem_cons, List.not_mem_nil, or_false] at hw
  rcases hw with rfl | rfl | rfl | rfl
  · exact haddr 0 (by decide)
  · exact haddr 1 (by decide)
  · exact haddr 2 (by decide)
  · exact haddr 3 (by decide)

theorem Placed.commandTransactions_inEvents (hp : c.Placed) {cmd : StoreCommand}
    (hr : cmd.InRange c.toLayout) :
    ∀ t ∈ c.commandTransactions cmd, ∀ w ∈ t, c.InEvents w.1.toNat := by
  intro t ht w hw
  cases cmd with
  | clear =>
    rw [List.mem_singleton.mp ht] at hw
    obtain ⟨i, hi, hwi⟩ := List.mem_flatMap.mp hw
    have hlt := List.mem_range.mp hi
    exact hp.eventWrites_inEvents (by rwa [toNat_ofNat_index hlt]) evInfoUnused w hwi
  | remove e =>
    simp only [commandTransactions] at ht
    split_ifs at ht with hi
    · rw [List.mem_singleton.mp ht] at hw
      exact hp.eventWrites_inEvents (UInt8.lt_iff_toNat_lt.mp hi) evInfoUnused w hw
    · exact absurd ht List.not_mem_nil
  | teach e evNum evVal =>
    simp only [commandTransactions] at ht
    by_cases hi : evNum ≠ 0 ∧ c.learnSlot e.nodeNumber e.eventNumber < c.eeMaxEvents
    · have hslot := UInt8.lt_iff_toNat_lt.mp hi.2
      rw [if_pos hi, List.mem_append] at ht
      rcases ht with hfirst | hvar
      · split_ifs at hfirst
        · rw [List.mem_singleton.mp hfirst] at hw
          exact hp.eventWrites_inEvents hslot e w hw
        · exact absurd hfirst List.not_mem_nil
      · rw [List.mem_singleton.mp hvar, List.mem_singleton] at hw
        have hev : evNum.toNat ≤ c.eeNumEvs.toNat := UInt8.le_iff_toNat_le.mp hr
        rw [hw, hp.eventAddress_variable hslot]
        exact Layout.slotBase_add_inEvents hslot (by omega)
    · rw [if_neg hi] at ht
      exact absurd ht List.not_mem_nil

theorem Placed.read_storeCommand (hp : c.Placed) {cmd : StoreCommand}
    (hr : cmd.InRange c.toLayout) {a : ℕ} (ha : ¬ c.InEvents a) :
    (c.storeCommand cmd).flashBuf.read 0xFF a = c.flashBuf.read 0xFF a := by
  have hstorage := (storage_eq_iff.mp (c.storage_storeCommand cmd)).2.1
  rw [hstorage]
  apply read_run_transact
  intro t ht w hw he
  exact ha (he ▸ hp.commandTransactions_inEvents hr t ht w hw)

theorem storeCommand_ram (c : CBUSConfig) (cmd : StoreCommand) :
    (c.storeCommand cmd).toLayout = c.toLayout ∧
      (c.storeCommand cmd).identityRam = c.identityRam := by
  cases cmd with
  | clear =>
    have hl : c.clearEventsEEPROM.toLayout = c.toLayout :=
      congrArg Prod.fst c.clearEventsEEPROM_eventRam
    exact ⟨hl, c.clearEventsEEPROM_identityRam⟩
  | remove e =>
    rw [storeCommand_remove]
    split_ifs
    · exact ⟨c.unlearnEvent_toLayout _, c.clearEventEEPROM_identityRam _ true⟩
    · exact ⟨rfl, rfl⟩
  | teach e evNum evVal =>
    rw [storeCommand_teach]
    split_ifs
    · exact ⟨(c.learnEvent_toLayout _ e evNum evVal).1, c.learnEvent_identityRam _ e evNum evVal⟩
    · exact ⟨rfl, rfl⟩

theorem Holds.command (h : c.Holds s) {cmd : StoreCommand} (hr : cmd.InRange c.toLayout) :
    (c.writeOp (.command cmd)).Holds ((WriteOp.command cmd).apply s) := by
  have hp := h.represents.placed
  obtain ⟨hl, hram⟩ := c.storeCommand_ram cmd
  exact h.of_image (h.represents.storeCommand hr) hl hram fun a ha => hp.read_storeCommand hr ha

theorem Holds.writeNV (h : c.Holds s) {idx : UInt8} (hv : c.ValidIndex idx) (val : UInt8) :
    (c.writeOp (.writeNV idx val)).Holds ((WriteOp.writeNV idx val).apply s) := by
  have hp := h.represents.placed
  have hl : (c.writeNV idx val).toLayout = c.toLayout :=
    congrArg Prod.fst (writeNV_eventRam c idx val)
  refine ⟨h.represents.writeNV hv.1 hv.2 val, ?_, ?_, ?_⟩
  · apply h.mirrored.congr (h.mirrored.synced.writeNV idx val) (c.writeNV_identityRam idx val)
    intro a ha
    have hin := (hp.fits.nvs _ (hv.inNvs hp)).1
    unfold readEEPROM getChipEEPROMVal
    rw [(hv.readsBack hp val).read_writeNV, if_neg (by omega)]
  · exact (c.writeNV_identityRam idx val).trans h.identity
  · intro j hj
    have hj' : c.ValidIndex j := by
      change (c.writeNV idx val).ValidIndex j at hj
      unfold ValidIndex at hj ⊢
      rwa [hl] at hj
    change (c.writeNV idx val).readNV j = Function.update s.nodeVariable idx val j
    rw [hv.readNV_writeNV hp]
    by_cases he : j = idx
    · rw [if_pos he, he, Function.update_self]
    · rw [if_neg he, Function.update_of_ne he]
      exact h.nodeVariable j hj'

theorem Holds.sameTables (h : c.Holds s) {t : PermanentData capacity} (hs : SameTables c c')
    (hm : c'.Mirrored) (hid : c'.identityRam = (t.canId, t.bFLiM, t.nodeNum))
    (hevents : t.events = s.events) (hnvs : t.nodeVariable = s.nodeVariable) : c'.Holds t := by
  have hp := h.represents.placed
  refine ⟨hevents ▸ h.represents.sameTables hs hm.synced, hm, hid, ?_⟩
  intro idx hv
  have hv' : c.ValidIndex idx := by
    unfold ValidIndex at hv ⊢
    rwa [hs.toLayout] at hv
  rw [hv.readNV_congr hp hs.toLayout fun a ha => hs.image a (hp.fits.nvs a ha).1, hnvs]
  exact h.nodeVariable idx hv'

/-- Every operation does to the configuration what it means for the data. -/
theorem Holds.writeOp (h : c.Holds s) {op : WriteOp} (hr : op.InRange c.toLayout) :
    (c.writeOp op).Holds (op.apply s) := by
  have hcan : c.canId = s.canId := congrArg (·.1) h.identity
  have hflim : c.bFLiM = s.bFLiM := congrArg (·.2.1) h.identity
  have hnum : c.nodeNum = s.nodeNum := congrArg (·.2.2) h.identity
  cases op with
  | command cmd => exact h.command hr
  | writeNV idx val => exact h.writeNV hr val
  | setCANID canid =>
    by_cases hv : 1 ≤ canid ∧ canid ≤ 99
    · have happly : (WriteOp.setCANID canid).apply s = { s with canId := canid } := if_pos hv
      have hid : (c.setCANID canid).2.identityRam = (canid, s.bFLiM, s.nodeNum) := by
        rw [setCANID_identityRam c hv, hflim, hnum]
      rw [happly]
      exact h.sameTables (sameTables_setCANID c canid) (h.mirrored.setCANID canid) hid rfl rfl
    · have happly : (WriteOp.setCANID canid).apply s = s := if_neg hv
      have hkeep : c.writeOp (.setCANID canid) = c := by
        change (c.setCANID canid).2 = c
        rw [setCANID_eq, if_neg hv]
      rw [happly, hkeep]
      exact h
  | setFLiM flim =>
    have hid : (c.setFLiM flim).identityRam = (s.canId, flim, s.nodeNum) := by
      rw [setFLiM_identityRam, hcan, hnum]
    exact h.sameTables (sameTables_setFLiM c flim) (h.mirrored.setFLiM flim) hid rfl rfl
  | setNodeNum nn =>
    have hid : (c.setNodeNum nn.toUInt32).identityRam = (s.canId, s.bFLiM, nn.toUInt32) := by
      rw [setNodeNum_identityRam, hcan, hflim]
    exact h.sameTables (sameTables_setNodeNum c _) (h.mirrored.setNodeNum nn) hid rfl rfl

theorem mirrored_powerUp (c : CBUSConfig) : c.powerUp.Mirrored := mirrored_begin c.toLayout c.flash

theorem Holds.powerUp (h : c.Holds s) : c.powerUp.Holds s := by
  have hp := h.represents.placed
  have hsame := c.powerUp_sameTables
  refine ⟨h.represents.powerUp, c.mirrored_powerUp, h.mirrored.powerUp.trans h.identity, ?_⟩
  intro idx hv
  have hv' : c.ValidIndex idx := by
    unfold ValidIndex at hv ⊢
    rwa [hsame.toLayout] at hv
  rw [hv.readNV_congr hp hsame.toLayout, h.nodeVariable idx hv']
  intro a ha
  rw [← h.represents.intact.synced.flash_eq]
  exact hsame.image a (hp.fits.nvs a ha).1

theorem holds_erased {l : Layout} (hl : l.Fits) (hcap : l.eeMaxEvents.toNat = capacity) :
    (construct l (Memory.const 0xFF)).begin.Holds (PermanentData.erased : PermanentData capacity) := by
  let c := construct l (Memory.const 0xFF : FlashImage)
  have hp : c.loaded.Placed := placed_loaded hl
  have hsame : SameTables c.loaded c.begin := sameTables_loadNVs c.loaded
  have hblank : ∀ a, c.loaded.flashBuf.read 0xFF a = 0xFF := by
    intro a
    exact (Memory.read_const 0xFF 0xFF a).trans (ite_self _)
  have hunused : ∀ i < c.eeMaxEvents.toNat, c.loaded.readEvent (UInt8.ofNat i) = evInfoUnused := by
    intro i hi
    have hidx : (UInt8.ofNat i).toNat < c.eeMaxEvents.toNat := by rwa [toNat_ofNat_index hi]
    exact (hp.readEvent_eq_unused hidx).mpr fun k _ => hblank _
  have hcoherent : c.begin.Coherent := by
    apply coherent_begin hl
    intro i hi j hj hu
    exact absurd (hunused i hi) hu
  refine ⟨⟨intact_begin hl _, hcoherent, ?_, ?_, ?_⟩, mirrored_begin l _, ?_, ?_⟩
  · rw [← hcap, hsame.toLayout]
    rfl
  · intro e
    refine iff_of_false (Finset.notMem_empty e) ?_
    rintro ⟨i, hi, hs⟩
    rw [hsame.toLayout] at hi
    have hidx : (UInt8.ofNat i).toNat < c.loaded.eeMaxEvents.toNat := by rwa [toNat_ofNat_index hi]
    have hread := hsame.readEvent hp hidx
    obtain ⟨hown, hne⟩ := slot_eq_some.mp hs
    exact hne (hown.symm.trans (hread.trans (hunused i hi)))
  · intro e k v hv
    exact absurd hv (by simp [PermanentData.erased, BoundedStore.empty])
  · have hflag : c.loaded.readEEPROM ofsResetFlag = 0xFF := hblank ofsResetFlag.toNat
    exact loadNVs_of_resetFlag hflag
  · intro idx hv
    rw [hv.readNV_congr hp hsame.toLayout fun a ha => hsame.image a (hl.nvs a ha).1]
    exact hblank _

end CBUSConfig
end CBUSPicoLib
