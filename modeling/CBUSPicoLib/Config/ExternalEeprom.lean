import CBUSPicoLib.Config.EventUnlearning
import CBUSPicoLib.Config.FactoryReset
import Mathlib.Data.Set.Function

/-!
# Configuration storage in an external EEPROM

`CBUSConfig` with `EEPROM_EXTERNAL_I2C`. A byte goes to the memory on the I2C bus at once, and the
address that is sent has eight bits, of which a small memory uses fewer still. Where the addresses
that a layout uses select different cells, the object does what it does over the flash. A factory
reset writes to cells 10 to 15 and to those of the identity and of the node variables only.
-/

namespace CBUSPicoLib

/-- A memory on the I2C bus that acknowledges what is sent to it, with the cell that an address
byte selects. -/
structure SerialEeprom (n : ℕ) where
  cell : UInt8 → Fin n
  data : Fin n → UInt8

/-- The configuration object with its external memory. The flash cache of the object is not used. -/
structure ExternalConfig (n : ℕ) where
  config : CBUSConfig
  eeprom : SerialEeprom n

namespace ExternalConfig

variable {n : ℕ}

def readEEPROM (x : ExternalConfig n) (eeaddress : UInt32) : UInt8 :=
  x.eeprom.data (x.eeprom.cell eeaddress.toUInt8)

def writeEEPROM (x : ExternalConfig n) (eeaddress : UInt32) (data : UInt8) : ExternalConfig n :=
  { x with eeprom := { x.eeprom with
      data := Function.update x.eeprom.data (x.eeprom.cell eeaddress.toUInt8) data } }

def commitChanges (x : ExternalConfig n) : ExternalConfig n := x

/-- Clears the cells of a memory of 16 bytes behind the identity. -/
def resetEEPROM (x : ExternalConfig n) : ExternalConfig n :=
  (List.range' 10 6).foldl (fun x addr => x.writeEEPROM (UInt32.ofNat addr) 0xFF) x

/-- The object over the external memory. -/
instance : ByteStore (ExternalConfig n) where
  config := config
  setConfig x config := { x with config }
  readEEPROM := readEEPROM
  writeEEPROM x eeaddress data _ := x.writeEEPROM eeaddress data
  commitChanges := commitChanges
  loadCache x := x
  erase := resetEEPROM

def readEvent (x : ExternalConfig n) (idx : UInt8) : EventInfo := ByteStore.readEvent x idx

def getEventEVval (x : ExternalConfig n) (idx evnum : UInt8) : UInt8 :=
  ByteStore.getEventEVval x idx evnum

def writeEventEV (x : ExternalConfig n) (idx evnum evval : UInt8) : ExternalConfig n :=
  ByteStore.writeEventEV x idx evnum evval

def writeEvent (x : ExternalConfig n) (index : UInt8) (evInfo : EventInfo) (bFlush : Bool := true) :
    ExternalConfig n := ByteStore.writeEvent x index evInfo bFlush

def clearEventEEPROM (x : ExternalConfig n) (index : UInt8) (bFlush : Bool := true) :
    ExternalConfig n := ByteStore.clearEventEEPROM x index bFlush

def clearEventsEEPROM (x : ExternalConfig n) : ExternalConfig n := ByteStore.clearEventsEEPROM x

def eventHash (x : ExternalConfig n) (idx : UInt8) : UInt8 := ByteStore.eventHash x idx

def setHashTable (x : ExternalConfig n) (evhashtbl : List UInt8) : ExternalConfig n :=
  ByteStore.setHashTable x evhashtbl

def makeEvHashTable (x : ExternalConfig n) : ExternalConfig n := ByteStore.makeEvHashTable x

def updateEvHashEntry (x : ExternalConfig n) (idx : UInt8) : ExternalConfig n :=
  ByteStore.updateEvHashEntry x idx

def clearEvHashTable (x : ExternalConfig n) : ExternalConfig n :=
  { x with config := x.config.clearEvHashTable }

def findExistingEvent (x : ExternalConfig n) (nn en : UInt16) : UInt8 :=
  ByteStore.findExistingEvent x nn en

def learnSlot (x : ExternalConfig n) (nn en : UInt16) : UInt8 := ByteStore.learnSlot x nn en

def learnEvent (x : ExternalConfig n) (index : UInt8) (evInfo : EventInfo) (evNum evVal : UInt8) :
    ExternalConfig n := ByteStore.learnEvent x index evInfo evNum evVal

def unlearnEvent (x : ExternalConfig n) (index : UInt8) : ExternalConfig n :=
  ByteStore.unlearnEvent x index

def readNV (x : ExternalConfig n) (idx : UInt8) : UInt8 := ByteStore.readNV x idx

def writeNV (x : ExternalConfig n) (idx val : UInt8) : ExternalConfig n :=
  ByteStore.writeNV x idx val

def setFLiM (x : ExternalConfig n) (flim : Bool) : ExternalConfig n := ByteStore.setFLiM x flim

def setCANID (x : ExternalConfig n) (canid : UInt8) : Bool × ExternalConfig n :=
  ByteStore.setCANID x canid

def setNodeNum (x : ExternalConfig n) (nn : UInt32) : ExternalConfig n := ByteStore.setNodeNum x nn

def setResetFlag (x : ExternalConfig n) : ExternalConfig n := ByteStore.setResetFlag x

def clearResetFlag (x : ExternalConfig n) : ExternalConfig n := ByteStore.clearResetFlag x

def loadNVs (x : ExternalConfig n) : ExternalConfig n := ByteStore.loadNVs x

def begin (x : ExternalConfig n) : ExternalConfig n := ByteStore.begin x

/-- A newly constructed object that is started with the memory. -/
def start (l : Layout) (flash : FlashImage) (eeprom : SerialEeprom n) : ExternalConfig n :=
  { config := CBUSConfig.construct l flash, eeprom : ExternalConfig n }.begin

def powerUp (x : ExternalConfig n) : ExternalConfig n :=
  start x.config.toLayout x.config.flash x.eeprom

def resetModule (x : ExternalConfig n) : ExternalConfig n := ByteStore.resetModule x

@[simp] theorem config_eq (x : ExternalConfig n) : ByteStore.config x = x.config := rfl

theorem readEvent_eq (x : ExternalConfig n) (idx : UInt8) : x.readEvent idx =
    ⟨bytesToWord (x.readEEPROM (x.config.eventAddress idx 0))
        (x.readEEPROM (x.config.eventAddress idx 1)),
      bytesToWord (x.readEEPROM (x.config.eventAddress idx 2))
        (x.readEEPROM (x.config.eventAddress idx 3))⟩ := rfl

theorem writeEventEV_eq (x : ExternalConfig n) (idx evnum evval : UInt8) :
    x.writeEventEV idx evnum evval =
      x.writeEEPROM (x.config.eventAddress idx (3 + evnum.toUInt32)) evval := rfl

theorem clearEventEEPROM_eq (x : ExternalConfig n) (index : UInt8) (f : Bool) :
    x.clearEventEEPROM index f = x.writeEvent index evInfoUnused f := rfl

theorem clearEventsEEPROM_eq (x : ExternalConfig n) : x.clearEventsEEPROM =
    ((List.range x.config.eeMaxEvents.toNat).foldl
      (fun x e => x.clearEventEEPROM (UInt8.ofNat e) false) x).commitChanges := rfl

theorem eventHash_eq (x : ExternalConfig n) (idx : UInt8) : x.eventHash idx =
    if x.readEvent idx = evInfoUnused then 0 else CBUSConfig.makeHash (x.readEvent idx) := rfl

theorem makeEvHashTable_eq (x : ExternalConfig n) : x.makeEvHashTable = x.setHashTable
    ((List.range x.config.eeMaxEvents.toNat).map fun idx => x.eventHash (UInt8.ofNat idx)) := rfl

theorem updateEvHashEntry_eq (x : ExternalConfig n) (idx : UInt8) : x.updateEvHashEntry idx =
    x.setHashTable (x.config.evhashtbl.set idx.toNat (x.eventHash idx)) := rfl

theorem learnSlot_eq (x : ExternalConfig n) (nn en : UInt16) : x.learnSlot nn en =
    if (x.findExistingEvent nn en).toNat < x.config.eeMaxEvents.toNat then
      x.findExistingEvent nn en else x.config.findEventSpace := rfl

theorem learnEvent_eq (x : ExternalConfig n) (index : UInt8) (e : EventInfo)
    (evNum evVal : UInt8) : x.learnEvent index e evNum evVal =
      ((if evNum < 2 then x.writeEvent index e else x).writeEventEV index evNum
        evVal).updateEvHashEntry index := rfl

theorem readNV_eq (x : ExternalConfig n) (idx : UInt8) :
    x.readNV idx = x.readEEPROM (x.config.eeNvsStart + (idx.toUInt32 - 1)) := rfl

theorem writeNV_eq (x : ExternalConfig n) (idx val : UInt8) :
    x.writeNV idx val = x.writeEEPROM (x.config.eeNvsStart + (idx.toUInt32 - 1)) val := rfl

theorem setCANID_eq (x : ExternalConfig n) (canid : UInt8) : x.setCANID canid =
    if 1 ≤ canid ∧ canid ≤ 99 then (true, { x with config := { x.config with canId := canid }
      }.writeEEPROM CBUSConfig.ofsCanId canid) else (false, x) := rfl

theorem setResetFlag_eq (x : ExternalConfig n) :
    x.setResetFlag = x.writeEEPROM CBUSConfig.ofsResetFlag CBUSConfig.resetFlag := rfl

theorem loadNVs_of_blank {x : ExternalConfig n}
    (h : x.readEEPROM CBUSConfig.ofsResetFlag = 0xFF) : x.loadNVs =
      (((x.setFLiM false).setCANID CBUSConfig.defaultCanid).2.setNodeNum
        CBUSConfig.defaultNn).clearResetFlag := if_pos h

theorem loadNVs_of_marked {x : ExternalConfig n}
    (h : x.readEEPROM CBUSConfig.ofsResetFlag ≠ 0xFF) : x.loadNVs =
      { x with config := { x.config with
        bFLiM := x.readEEPROM CBUSConfig.ofsFlimMode != 0
        canId := x.readEEPROM CBUSConfig.ofsCanId
        nodeNum := (bytesToWord (x.readEEPROM CBUSConfig.ofsNodeNumHb)
          (x.readEEPROM CBUSConfig.ofsNodeNumLb)).toUInt32 } } := if_neg h

def byteAt (x : ExternalConfig n) (a : ℕ) : UInt8 := x.eeprom.data (x.eeprom.cell (UInt8.ofNat a))

theorem readEEPROM_eq (x : ExternalConfig n) (a : UInt32) : x.readEEPROM a = x.byteAt a.toNat := by
  have hbyte : a.toUInt8 = UInt8.ofNat a.toNat := by simp
  rw [readEEPROM, hbyte, byteAt]

/-- A write changes the byte at its own address only, among addresses that select different
cells. -/
theorem byteAt_writeEEPROM {x : ExternalConfig n} {s : Set ℕ}
    (hd : Set.InjOn (fun a => x.eeprom.cell (UInt8.ofNat a)) s) {a : UInt32} (ha : a.toNat ∈ s)
    (v : UInt8) {b : ℕ} (hb : b ∈ s) :
    (x.writeEEPROM a v).byteAt b = if b = a.toNat then v else x.byteAt b := by
  have hbyte : a.toUInt8 = UInt8.ofNat a.toNat := by simp
  rw [writeEEPROM, hbyte]
  split_ifs with hab
  · rw [hab]
    exact Function.update_self ..
  · exact Function.update_of_ne (fun hcell => hab (hd hb ha hcell)) v x.eeprom.data

end ExternalConfig

namespace Layout

/-- An address at which the configuration object reads or writes. -/
def Used (l : Layout) (a : ℕ) : Prop := a < 4 ∨ a = 5 ∨ l.InEvents a ∨ l.InNvs a

/-- The addresses that are used select different cells of the memory. -/
def DecodedBy {n : ℕ} (l : Layout) (cell : UInt8 → Fin n) : Prop :=
  Set.InjOn (fun a => cell (UInt8.ofNat a)) {a | l.Used a}

theorem Fits.used_lt {l : Layout} (h : l.Fits) {a : ℕ} (ha : l.Used a) : a < flashSectorSize := by
  rcases ha with ha | ha | ha | ha
  · exact lt_trans ha (by decide)
  · exact ha ▸ (by decide)
  · exact (h.events a ha).2
  · exact (h.nvs a ha).2

end Layout

namespace ExternalConfig

open TaggedTable

variable {n : ℕ} {l : Layout} {x : ExternalConfig n} {c : CBUSConfig} {idx evNum evVal : UInt8}
  {e : EventInfo}

/-- The object with the external memory has the RAM of the one over the flash, and the cells that
its layout uses hold the bytes of the flash cache. -/
structure Mirrors (l : Layout) (x : ExternalConfig n) (c : CBUSConfig) : Prop where
  placed : c.Placed
  layout : c.toLayout = l
  eventRam : x.config.eventRam = c.eventRam
  identityRam : x.config.identityRam = c.identityRam
  decoded : l.DecodedBy x.eeprom.cell
  image : ∀ a, l.Used a → x.byteAt a = c.flashBuf.read 0xFF a

namespace Mirrors

theorem toLayout (h : Mirrors l x c) : x.config.toLayout = l :=
  (congrArg Prod.fst h.eventRam).trans h.layout

theorem eeMaxEvents (h : Mirrors l x c) : c.eeMaxEvents = l.eeMaxEvents :=
  congrArg Layout.eeMaxEvents h.layout

theorem evhashtbl (h : Mirrors l x c) : x.config.evhashtbl = c.evhashtbl :=
  congrArg (·.2.2.1) h.eventRam

theorem eventAddress (h : Mirrors l x c) (idx : UInt8) (ofs : UInt32) :
    x.config.eventAddress idx ofs = c.eventAddress idx ofs := by
  have hb : x.config.eeBytesPerEvent = c.eeBytesPerEvent := congrArg (·.2.1) h.eventRam
  simp only [CBUSConfig.eventAddress, h.toLayout, h.layout, hb]

theorem used_identity (h : Mirrors l x c) (hi : idx.toNat < l.eeMaxEvents.toNat) {k : UInt32}
    (hk : k.toNat < 4) : l.Used (c.eventAddress idx k).toNat := by
  have hi' : idx.toNat < c.eeMaxEvents.toNat := h.eeMaxEvents ▸ hi
  rw [h.placed.eventAddress_toNat hi' (by omega), h.layout]
  exact Or.inr (Or.inr (Or.inl (Layout.slotBase_add_inEvents hi (by omega))))

theorem used_variable (h : Mirrors l x c) (hi : idx.toNat < l.eeMaxEvents.toNat)
    (hev : evNum ≤ l.eeNumEvs) : l.Used (c.eventAddress idx (3 + evNum.toUInt32)).toNat := by
  have hle := UInt8.le_iff_toNat_le.mp hev
  have hi' : idx.toNat < c.eeMaxEvents.toNat := h.eeMaxEvents ▸ hi
  rw [h.placed.eventAddress_variable hi', h.layout]
  exact Or.inr (Or.inr (Or.inl (Layout.slotBase_add_inEvents hi (by omega))))

theorem used_nv (h : Mirrors l x c) (h0 : idx ≠ 0) (hidx : idx ≤ l.eeNumNvs) :
    l.Used (l.eeNvsStart + (idx.toUInt32 - 1)).toNat := by
  have hle := UInt8.le_iff_toNat_le.mp hidx
  have hpos : 0 < idx.toNat := Nat.pos_of_ne_zero fun hz => h0 (UInt8.toNat_inj.mp hz)
  have hsucc : UInt8.ofNat (idx.toNat - 1 + 1) = idx := by
    rw [Nat.sub_add_cancel hpos, UInt8.ofNat_toNat]
  have hlt : idx.toNat - 1 < c.eeNumNvs.toNat := by
    rw [h.layout]
    omega
  have haddr := (CBUSConfig.writeNV_toNat h.placed hlt).1
  rw [hsucc, h.layout] at haddr
  rw [haddr]
  exact Or.inr (Or.inr (Or.inr ⟨by omega, by omega⟩))

theorem of_ram (h : Mirrors l x c) {x' : ExternalConfig n} {c' : CBUSConfig}
    (heeprom : x'.eeprom = x.eeprom) (hbuf : c'.flashBuf = c.flashBuf)
    (hl : c'.toLayout = c.toLayout) (hb : c'.eeBytesPerEvent = c.eeBytesPerEvent)
    (hevent : x'.config.eventRam = c'.eventRam)
    (hidentity : x'.config.identityRam = c'.identityRam) : Mirrors l x' c' := by
  refine ⟨⟨hl ▸ h.placed.fits, ?_⟩, hl.trans h.layout, hevent, hidentity, ?_, ?_⟩
  · rw [hb, hl]
    exact h.placed.bytesPerEvent
  · rw [heeprom]
    exact h.decoded
  · intro a ha
    rw [byteAt, heeprom, hbuf]
    exact h.image a ha

theorem readEEPROM (h : Mirrors l x c) {a : UInt32} (ha : l.Used a.toNat) :
    x.readEEPROM a = c.readEEPROM a := by
  rw [x.readEEPROM_eq, h.image a.toNat ha]
  rfl

theorem writeEEPROM (h : Mirrors l x c) {a : UInt32} (ha : l.Used a.toNat) (v : UInt8) (f : Bool) :
    Mirrors l (x.writeEEPROM a v) (c.writeEEPROM a v f) := by
  have hram := c.writeEEPROM_eventRam a v f
  have hl : (c.writeEEPROM a v f).toLayout = l := (congrArg Prod.fst hram).trans h.layout
  refine ⟨h.placed.of_eventRam hram, hl, h.eventRam.trans hram.symm,
    h.identityRam.trans (c.writeEEPROM_identityRam a v f).symm, h.decoded, ?_⟩
  intro b hb
  have hlt : b < flashSectorSize := (h.layout ▸ h.placed.fits).used_lt hb
  rw [CBUSConfig.writeEEPROM_flashBuf, Memory.read_write, byteAt_writeEEPROM h.decoded ha v hb,
    h.image b hb]
  simp only [hlt, and_true]

theorem commitChanges (h : Mirrors l x c) : Mirrors l x.commitChanges c.commitChanges := by
  have hram := c.commitChanges_eventRam
  exact h.of_ram rfl c.commitChanges_flashBuf (congrArg Prod.fst hram) (congrArg (·.2.1) hram)
    (h.eventRam.trans hram.symm) (h.identityRam.trans c.commitChanges_identityRam.symm)

theorem readEvent (h : Mirrors l x c) (hi : idx.toNat < l.eeMaxEvents.toNat) :
    x.readEvent idx = c.readEvent idx := by
  have hbyte : ∀ k : UInt32, k.toNat < 4 → x.readEEPROM (x.config.eventAddress idx k) =
      c.readEEPROM (c.eventAddress idx k) := by
    intro k hk
    rw [h.eventAddress]
    exact h.readEEPROM (h.used_identity hi hk)
  exact congrArg₂ EventInfo.mk
    (congrArg₂ bytesToWord (hbyte 0 (by decide)) (hbyte 1 (by decide)))
    (congrArg₂ bytesToWord (hbyte 2 (by decide)) (hbyte 3 (by decide)))

theorem getEventEVval (h : Mirrors l x c) (hi : idx.toNat < l.eeMaxEvents.toNat)
    (hev : evNum ≤ l.eeNumEvs) : x.getEventEVval idx evNum = c.getEventEVval idx evNum := by
  change x.readEEPROM (x.config.eventAddress idx (3 + evNum.toUInt32)) = _
  rw [h.eventAddress]
  exact h.readEEPROM (h.used_variable hi hev)

theorem writeEventEV (h : Mirrors l x c) (hi : idx.toNat < l.eeMaxEvents.toNat)
    (hev : evNum ≤ l.eeNumEvs) (evVal : UInt8) :
    Mirrors l (x.writeEventEV idx evNum evVal) (c.writeEventEV idx evNum evVal) := by
  rw [ExternalConfig.writeEventEV_eq, h.eventAddress]
  exact h.writeEEPROM (h.used_variable hi hev) evVal true

theorem writeEvent (h : Mirrors l x c) (hi : idx.toNat < l.eeMaxEvents.toNat) (e : EventInfo)
    (f : Bool) : Mirrors l (x.writeEvent idx e f) (c.writeEvent idx e f) := by
  have hused : ∀ k : UInt32, k.toNat < 4 → l.Used (c.eventAddress idx k).toNat :=
    fun k hk => h.used_identity hi hk
  have h0 := h.writeEEPROM (hused 0 (by decide)) (highByte e.nodeNumber.toNat) false
  have h1 := h0.writeEEPROM (hused 1 (by decide)) (lowByte e.nodeNumber.toNat) false
  have h2 := h1.writeEEPROM (hused 2 (by decide)) (highByte e.eventNumber.toNat) false
  have h3 := h2.writeEEPROM (hused 3 (by decide)) (lowByte e.eventNumber.toNat) false
  simp only [ExternalConfig.writeEvent, CBUSConfig.writeEvent, ByteStore.writeEvent, config_eq,
    ByteStore.config_flash, h.eventAddress]
  cases f
  · exact h3
  · exact h3.commitChanges

theorem clearEvents (h : Mirrors l x c) (m : ℕ) (hm : m ≤ l.eeMaxEvents.toNat) :
    Mirrors l ((List.range m).foldl (fun x e => x.clearEventEEPROM (UInt8.ofNat e) false) x)
      ((List.range m).foldl (fun c e => c.clearEventEEPROM (UInt8.ofNat e) false) c) := by
  induction m with
  | zero => exact h
  | succ m ih =>
    simp only [List.range_succ, List.foldl_append, List.foldl_cons, List.foldl_nil]
    have hmax := l.eeMaxEvents.toNat_lt
    apply (ih (by omega)).writeEvent
    rw [UInt8.toNat_ofNat', Nat.mod_eq_of_lt (by omega)]
    omega

theorem clearEventsEEPROM (h : Mirrors l x c) :
    Mirrors l x.clearEventsEEPROM c.clearEventsEEPROM := by
  rw [ExternalConfig.clearEventsEEPROM_eq, CBUSConfig.clearEventsEEPROM_eq, h.toLayout, h.layout]
  exact (h.clearEvents l.eeMaxEvents.toNat le_rfl).commitChanges

theorem eventHash (h : Mirrors l x c) (hi : idx.toNat < l.eeMaxEvents.toNat) :
    x.eventHash idx = c.eventHash idx := by
  rw [ExternalConfig.eventHash_eq, h.readEvent hi, CBUSConfig.eventHash_eq]

theorem setHashTable (h : Mirrors l x c) (t : List UInt8) : Mirrors l (x.setHashTable t)
    { c with evhashtbl := t, bHashCollisions := { c with evhashtbl := t }.checkHashCollisions } := by
  have hclash : { x.config with evhashtbl := t }.checkHashCollisions =
      { c with evhashtbl := t }.checkHashCollisions := by
    unfold CBUSConfig.checkHashCollisions CBUSConfig.hashEntry
    dsimp only
    rw [h.toLayout, h.layout]
  have hl : x.config.toLayout = c.toLayout := h.toLayout.trans h.layout.symm
  have hb : x.config.eeBytesPerEvent = c.eeBytesPerEvent := congrArg (·.2.1) h.eventRam
  exact h.of_ram rfl rfl rfl rfl (Prod.ext hl (Prod.ext hb (Prod.ext rfl hclash))) h.identityRam

theorem makeEvHashTable (h : Mirrors l x c) : Mirrors l x.makeEvHashTable c.makeEvHashTable := by
  have htable : (List.range x.config.eeMaxEvents.toNat).map (fun i => x.eventHash (UInt8.ofNat i)) =
      (List.range c.eeMaxEvents.toNat).map fun i => c.eventHash (UInt8.ofNat i) := by
    rw [h.toLayout, h.layout]
    apply List.map_congr_left
    intro i hi
    have hmax := l.eeMaxEvents.toNat_lt
    have hlt := List.mem_range.mp hi
    apply h.eventHash
    rwa [UInt8.toNat_ofNat', Nat.mod_eq_of_lt (by omega)]
  rw [ExternalConfig.makeEvHashTable_eq, htable]
  exact h.setHashTable _

theorem updateEvHashEntry (h : Mirrors l x c) (hi : idx.toNat < l.eeMaxEvents.toNat) :
    Mirrors l (x.updateEvHashEntry idx) (c.updateEvHashEntry idx) := by
  rw [ExternalConfig.updateEvHashEntry_eq, h.eventHash hi, h.evhashtbl]
  exact h.setHashTable _

theorem clearEvHashTable (h : Mirrors l x c) :
    Mirrors l x.clearEvHashTable c.clearEvHashTable := by
  refine h.of_ram rfl rfl rfl rfl ?_ h.identityRam
  have hl : x.config.toLayout = c.toLayout := h.toLayout.trans h.layout.symm
  have hb : x.config.eeBytesPerEvent = c.eeBytesPerEvent := congrArg (·.2.1) h.eventRam
  simp only [ExternalConfig.clearEvHashTable, CBUSConfig.clearEvHashTable, CBUSConfig.eventRam,
    hl, hb]

theorem findExistingEvent (h : Mirrors l x c) (nn en : UInt16) :
    x.findExistingEvent nn en = c.findExistingEvent nn en := by
  apply ByteStore.findExistingEvent_congr h.eventRam
  intro i hi
  apply h.readEvent
  rw [CBUSConfig.toNat_ofNat_index hi]
  exact h.eeMaxEvents ▸ hi

theorem findEventSpace (h : Mirrors l x c) : x.config.findEventSpace = c.findEventSpace := by
  unfold CBUSConfig.findEventSpace
  simp only [CBUSConfig.hashEntry_congr h.eventRam, h.toLayout, h.layout]

theorem numEvents (h : Mirrors l x c) : x.config.numEvents = c.numEvents := by
  unfold CBUSConfig.numEvents
  simp only [CBUSConfig.hashEntry_congr h.eventRam, h.toLayout, h.layout]

theorem learnSlot (h : Mirrors l x c) (nn en : UInt16) : x.learnSlot nn en = c.learnSlot nn en := by
  rw [ExternalConfig.learnSlot_eq, CBUSConfig.learnSlot_eq, h.findExistingEvent, h.findEventSpace,
    h.toLayout, h.layout]

theorem learnEvent (h : Mirrors l x c) (hi : idx.toNat < l.eeMaxEvents.toNat)
    (hev : evNum ≤ l.eeNumEvs) (e : EventInfo) (evVal : UInt8) :
    Mirrors l (x.learnEvent idx e evNum evVal) (c.learnEvent idx e evNum evVal) := by
  rw [ExternalConfig.learnEvent_eq, CBUSConfig.learnEvent_eq]
  split_ifs
  · exact ((h.writeEvent hi e true).writeEventEV hi hev evVal).updateEvHashEntry hi
  · exact (h.writeEventEV hi hev evVal).updateEvHashEntry hi

theorem unlearnEvent (h : Mirrors l x c) (hi : idx.toNat < l.eeMaxEvents.toNat) :
    Mirrors l (x.unlearnEvent idx) (c.unlearnEvent idx) :=
  (h.writeEvent hi evInfoUnused true).updateEvHashEntry hi

theorem readNV (h : Mirrors l x c) (h0 : idx ≠ 0) (hidx : idx ≤ l.eeNumNvs) :
    x.readNV idx = c.readNV idx := by
  rw [ExternalConfig.readNV_eq, CBUSConfig.readNV_eq, h.toLayout, h.layout]
  exact h.readEEPROM (h.used_nv h0 hidx)

theorem writeNV (h : Mirrors l x c) (h0 : idx ≠ 0) (hidx : idx ≤ l.eeNumNvs) (val : UInt8) :
    Mirrors l (x.writeNV idx val) (c.writeNV idx val) := by
  rw [ExternalConfig.writeNV_eq, CBUSConfig.writeNV_eq, h.toLayout, h.layout]
  exact h.writeEEPROM (h.used_nv h0 hidx) val true

theorem canId (h : Mirrors l x c) : x.config.canId = c.canId := congrArg (·.1) h.identityRam

theorem bFLiM (h : Mirrors l x c) : x.config.bFLiM = c.bFLiM := congrArg (·.2.1) h.identityRam

theorem nodeNum (h : Mirrors l x c) : x.config.nodeNum = c.nodeNum :=
  congrArg (·.2.2) h.identityRam

theorem setFLiM (h : Mirrors l x c) (flim : Bool) : Mirrors l (x.setFLiM flim) (c.setFLiM flim) := by
  have hram : Mirrors l { x with config := { x.config with bFLiM := flim } }
      { c with bFLiM := flim } :=
    h.of_ram rfl rfl rfl rfl h.eventRam (Prod.ext h.canId (Prod.ext rfl h.nodeNum))
  exact hram.writeEEPROM (a := CBUSConfig.ofsFlimMode) (Or.inl (by decide)) _ true

theorem setCANID (h : Mirrors l x c) (canid : UInt8) :
    Mirrors l (x.setCANID canid).2 (c.setCANID canid).2 := by
  have hram : Mirrors l { x with config := { x.config with canId := canid } }
      { c with canId := canid } :=
    h.of_ram rfl rfl rfl rfl h.eventRam (Prod.ext rfl (Prod.ext h.bFLiM h.nodeNum))
  rw [ExternalConfig.setCANID_eq, CBUSConfig.setCANID_eq]
  split_ifs
  · exact hram.writeEEPROM (a := CBUSConfig.ofsCanId) (Or.inl (by decide)) canid true
  · exact h

theorem setNodeNum (h : Mirrors l x c) (nn : UInt32) :
    Mirrors l (x.setNodeNum nn) (c.setNodeNum nn) := by
  have hram : Mirrors l { x with config := { x.config with nodeNum := nn } }
      { c with nodeNum := nn } :=
    h.of_ram rfl rfl rfl rfl h.eventRam (Prod.ext h.canId (Prod.ext h.bFLiM rfl))
  have hhigh := hram.writeEEPROM (a := CBUSConfig.ofsNodeNumHb) (Or.inl (by decide))
    (highByte nn.toNat) false
  have hlow := hhigh.writeEEPROM (a := CBUSConfig.ofsNodeNumLb) (Or.inl (by decide))
    (lowByte nn.toNat) false
  exact hlow.commitChanges

theorem loadNVs (h : Mirrors l x c) : Mirrors l x.loadNVs c.loadNVs := by
  have hread : ∀ a : UInt32, a.toNat < 4 ∨ a.toNat = 5 → x.readEEPROM a = c.readEEPROM a := by
    rintro a (ha | ha)
    · exact h.readEEPROM (Or.inl ha)
    · exact h.readEEPROM (Or.inr (Or.inl ha))
  have hreset := hread CBUSConfig.ofsResetFlag (Or.inr rfl)
  by_cases hflag : c.readEEPROM CBUSConfig.ofsResetFlag = 0xFF
  · rw [ExternalConfig.loadNVs_of_blank (hreset.trans hflag), CBUSConfig.loadNVs_of_blank hflag]
    have hset := ((h.setFLiM false).setCANID CBUSConfig.defaultCanid).setNodeNum
      CBUSConfig.defaultNn
    exact hset.writeEEPROM (a := CBUSConfig.ofsResetFlag) (Or.inr (Or.inl rfl)) 0 true
  · rw [ExternalConfig.loadNVs_of_marked (hreset ▸ hflag), CBUSConfig.loadNVs_of_marked hflag,
      hread CBUSConfig.ofsFlimMode (Or.inl (by decide)),
      hread CBUSConfig.ofsCanId (Or.inl (by decide)),
      hread CBUSConfig.ofsNodeNumHb (Or.inl (by decide)),
      hread CBUSConfig.ofsNodeNumLb (Or.inl (by decide))]
    exact h.of_ram rfl rfl rfl rfl h.eventRam rfl

theorem start (hl : l.Fits) {eeprom : SerialEeprom n} (hd : l.DecodedBy eeprom.cell)
    {flash : FlashImage} (himage : ∀ a, l.Used a →
      eeprom.data (eeprom.cell (UInt8.ofNat a)) = flash.read 0xFF a) (unused : FlashImage) :
    Mirrors l (ExternalConfig.start l unused eeprom) (CBUSConfig.construct l flash).begin := by
  have hraw : Mirrors l
      { config := { CBUSConfig.construct l unused with eeBytesPerEvent := l.eeNumEvs + 4 },
        eeprom : ExternalConfig n }
      { CBUSConfig.construct l flash with eeBytesPerEvent := l.eeNumEvs + 4, flashBuf := flash } :=
    ⟨⟨hl, rfl⟩, rfl, rfl, rfl, hd, himage⟩
  exact hraw.makeEvHashTable.loadNVs

theorem powerUp (h : Mirrors l x c) (hs : c.Synced) : Mirrors l x.powerUp c.powerUp := by
  have hl : l.Fits := h.layout ▸ h.placed.fits
  unfold ExternalConfig.powerUp CBUSConfig.powerUp
  rw [h.toLayout, h.layout]
  apply start hl h.decoded
  intro a ha
  rw [hs.flash_eq]
  exact h.image a ha

end Mirrors
end ExternalConfig
end CBUSPicoLib
