import CBUSPicoLib.Library.TaggedTable
import CBUSPicoLib.Config.Flash

/-!
# The configuration over any byte store

`readEEPROM`, `writeEEPROM` and `commitChanges` choose between the flash and a memory on the I2C
bus, and so do the first statements of `begin` and `resetModule`. Everything else that the
configuration does with its bytes is written with these, and stands here for any memory.
-/

namespace CBUSPicoLib

open TaggedTable

/-- `EVENT_INFO_t`. -/
structure EventInfo where
  nodeNumber : UInt16
  eventNumber : UInt16
  deriving DecidableEq, Repr

def evInfoUnused : EventInfo := ⟨0xFFFF, 0xFFFF⟩

def hashLength : UInt8 := 128

namespace CBUSConfig

def resetFlag : UInt8 := 99

def ofsFlimMode : UInt32 := 0
def ofsCanId : UInt32 := 1
def ofsNodeNumHb : UInt32 := 2
def ofsNodeNumLb : UInt32 := 3
def ofsResetFlag : UInt32 := 5

def defaultCanid : UInt8 := 1
def defaultNn : UInt32 := 0

/-- `EE_EVENTS_START + (idx * EE_BYTES_PER_EVENT) + ofs`, in 32-bit arithmetic. -/
def eventAddress (c : CBUSConfig) (idx : UInt8) (ofs : UInt32) : UInt32 :=
  c.eeEventsStart + idx.toUInt32 * c.eeBytesPerEvent.toUInt32 + ofs

/-- Create an 8-bit hash from the combination of node number and event number. -/
def makeHash (evInfo : EventInfo) : UInt8 :=
  let hash : UInt8 := (evInfo.eventNumber ^^^ (evInfo.eventNumber >>> 8)).toUInt8
  let hash : UInt8 := (7 : UInt8) * hash + (evInfo.nodeNumber ^^^ (evInfo.nodeNumber >>> 8)).toUInt8
  let hash : UInt8 := hash % hashLength
  if hash = 0 then 255 else hash

theorem makeHash_ne_zero (evInfo : EventInfo) : makeHash evInfo ≠ 0 := by
  unfold makeHash
  dsimp only
  split_ifs with h
  · decide
  · exact h

def hashEntry (c : CBUSConfig) (i : ℕ) : UInt8 := c.evhashtbl.getD i 0

theorem hashEntry_congr {c c' : CBUSConfig} (h : c'.eventRam = c.eventRam) (i : ℕ) :
    c'.hashEntry i = c.hashEntry i := by
  have ht : c'.evhashtbl = c.evhashtbl := congrArg (·.2.2.1) h
  rw [hashEntry, ht, hashEntry]

def getEvTableEntry (c : CBUSConfig) (tindex : UInt8) : UInt8 :=
  if tindex < c.eeMaxEvents then c.hashEntry tindex.toNat else 0

/-- Check for hash clashes between different configured events. -/
def checkHashCollisions (c : CBUSConfig) : Bool :=
  let n := c.eeMaxEvents.toNat
  (List.range (n - 1)).any fun i =>
    (List.range' (i + 1) (n - (i + 1))).any fun j =>
      c.hashEntry i == c.hashEntry j && c.hashEntry i != 0

def clearEvHashTable (c : CBUSConfig) : CBUSConfig :=
  { c with evhashtbl := List.replicate c.eeMaxEvents.toNat 0, bHashCollisions := false }

def numEvents (c : CBUSConfig) : UInt8 :=
  UInt8.ofNat ((List.range c.eeMaxEvents.toNat).countP fun i => c.hashEntry i != 0)

/-- Find the first empty slot in the event table; `EE_MAX_EVENTS` if there is none. -/
def findEventSpace (c : CBUSConfig) : UInt8 :=
  UInt8.ofNat (firstIndex c.eeMaxEvents.toNat fun i => c.hashEntry i = 0)

end CBUSConfig

/-- An object of the configuration with its memory: the RAM of the object, and the functions that
choose by the type of the memory. -/
class ByteStore (σ : Type) where
  config : σ → CBUSConfig
  setConfig : σ → CBUSConfig → σ
  readEEPROM : σ → UInt32 → UInt8
  writeEEPROM : σ → UInt32 → UInt8 → (bFlush : Bool) → σ
  commitChanges : σ → σ
  /-- What `begin` does first. -/
  loadCache : σ → σ
  /-- What `resetModule` does first. -/
  erase : σ → σ

namespace ByteStore

variable {σ : Type} [ByteStore σ]

def readEvent (s : σ) (idx : UInt8) : EventInfo where
  nodeNumber := bytesToWord (readEEPROM s ((config s).eventAddress idx 0))
    (readEEPROM s ((config s).eventAddress idx 1))
  eventNumber := bytesToWord (readEEPROM s ((config s).eventAddress idx 2))
    (readEEPROM s ((config s).eventAddress idx 3))

def getEventEVval (s : σ) (idx evnum : UInt8) : UInt8 :=
  readEEPROM s ((config s).eventAddress idx (3 + evnum.toUInt32))

def writeEventEV (s : σ) (idx evnum evval : UInt8) : σ :=
  writeEEPROM s ((config s).eventAddress idx (3 + evnum.toUInt32)) evval true

def writeEvent (s : σ) (index : UInt8) (evInfo : EventInfo) (bFlush : Bool) : σ :=
  let eeaddress := (config s).eventAddress index
  let s := writeEEPROM s (eeaddress 0) (highByte evInfo.nodeNumber.toNat) false
  let s := writeEEPROM s (eeaddress 1) (lowByte evInfo.nodeNumber.toNat) false
  let s := writeEEPROM s (eeaddress 2) (highByte evInfo.eventNumber.toNat) false
  let s := writeEEPROM s (eeaddress 3) (lowByte evInfo.eventNumber.toNat) false
  if bFlush then commitChanges s else s

def clearEventEEPROM (s : σ) (index : UInt8) (bFlush : Bool) : σ :=
  writeEvent s index evInfoUnused bFlush

def clearEventsEEPROM (s : σ) : σ :=
  commitChanges ((List.range (config s).eeMaxEvents.toNat).foldl
    (fun s e => clearEventEEPROM s (UInt8.ofNat e) false) s)

/-- The hash table entry that the stored bytes of slot `idx` call for. -/
def eventHash (s : σ) (idx : UInt8) : UInt8 :=
  let evInfo := readEvent s idx
  if evInfo = evInfoUnused then 0 else CBUSConfig.makeHash evInfo

def setHashTable (s : σ) (evhashtbl : List UInt8) : σ :=
  let c := { config s with evhashtbl }
  setConfig s { c with bHashCollisions := c.checkHashCollisions }

def makeEvHashTable (s : σ) : σ :=
  setHashTable s
    ((List.range (config s).eeMaxEvents.toNat).map fun idx => eventHash s (UInt8.ofNat idx))

def updateEvHashEntry (s : σ) (idx : UInt8) : σ :=
  setHashTable s ((config s).evhashtbl.set idx.toNat (eventHash s idx))

/-- Lookup an event by node number and event number, using the hash table;
`EE_MAX_EVENTS` if it is not found. -/
def findExistingEvent (s : σ) (nn en : UInt16) : UInt8 :=
  let c := config s
  let n := c.eeMaxEvents.toNat
  let tmphash := CBUSConfig.makeHash ⟨nn, en⟩
  let i := firstIndex n fun i => c.hashEntry i = tmphash
  if i < n then
    if c.bHashCollisions ∧ 1 < (List.range n).countP fun j => c.hashEntry j = tmphash then
      -- the very slow way: compare every event with this hash
      UInt8.ofNat (firstIndex n fun j =>
        c.hashEntry j = tmphash ∧ readEvent s (UInt8.ofNat j) = ⟨nn, en⟩)
    else if readEvent s (UInt8.ofNat i) = ⟨nn, en⟩ then UInt8.ofNat i else c.eeMaxEvents
  else c.eeMaxEvents

/-- The slot `doEvlrn` uses: the event's own one, else the first empty one. -/
def learnSlot (s : σ) (nn en : UInt16) : UInt8 :=
  let index := findExistingEvent s nn en
  if index.toNat < (config s).eeMaxEvents.toNat then index else (config s).findEventSpace

/-- What `doEvlrn` stores once it has a slot: the event itself with the first
event variable only, then the variable and the hash table entry. -/
def learnEvent (s : σ) (index : UInt8) (evInfo : EventInfo) (evNum evVal : UInt8) : σ :=
  let s := if evNum < 2 then writeEvent s index evInfo true else s
  updateEvHashEntry (writeEventEV s index evNum evVal) index

/-- What `doEvuln` does once it has found the event. -/
def unlearnEvent (s : σ) (index : UInt8) : σ :=
  updateEvHashEntry (clearEventEEPROM s index true) index

/-- Read a node variable; `idx` is one based. -/
def readNV (s : σ) (idx : UInt8) : UInt8 :=
  readEEPROM s ((config s).eeNvsStart + (idx.toUInt32 - 1))

/-- Write a node variable; `idx` is one based. -/
def writeNV (s : σ) (idx val : UInt8) : σ :=
  writeEEPROM s ((config s).eeNvsStart + (idx.toUInt32 - 1)) val true

def setFLiM (s : σ) (flim : Bool) : σ :=
  writeEEPROM (setConfig s { config s with bFLiM := flim }) CBUSConfig.ofsFlimMode
    (if flim then 1 else 0) true

/-- Store the CAN ID and cache the value; IDs outside 1 to 99 are rejected. -/
def setCANID (s : σ) (canid : UInt8) : Bool × σ :=
  if 1 ≤ canid ∧ canid ≤ 99 then
    let s := setConfig s { config s with canId := canid }
    (true, writeEEPROM s CBUSConfig.ofsCanId canid true)
  else (false, s)

def setNodeNum (s : σ) (nn : UInt32) : σ :=
  let s := setConfig s { config s with nodeNum := nn }
  let s := writeEEPROM s CBUSConfig.ofsNodeNumHb (highByte nn.toNat) false
  let s := writeEEPROM s CBUSConfig.ofsNodeNumLb (lowByte nn.toNat) false
  commitChanges s

def setResetFlag (s : σ) : σ := writeEEPROM s CBUSConfig.ofsResetFlag CBUSConfig.resetFlag true

def clearResetFlag (s : σ) : σ := writeEEPROM s CBUSConfig.ofsResetFlag 0 true

/-- Load the identity from the image, or set defaults if it is uninitialized. -/
def loadNVs (s : σ) : σ :=
  if readEEPROM s CBUSConfig.ofsResetFlag = 0xFF then
    let s := setFLiM s false
    let s := (setCANID s CBUSConfig.defaultCanid).2
    let s := setNodeNum s CBUSConfig.defaultNn
    clearResetFlag s
  else
    setConfig s { config s with
      bFLiM := readEEPROM s CBUSConfig.ofsFlimMode != 0
      canId := readEEPROM s CBUSConfig.ofsCanId
      nodeNum := (bytesToWord (readEEPROM s CBUSConfig.ofsNodeNumHb)
        (readEEPROM s CBUSConfig.ofsNodeNumLb)).toUInt32 }

def begin (s : σ) : σ :=
  loadNVs (makeEvHashTable
    (loadCache (setConfig s { config s with eeBytesPerEvent := (config s).eeNumEvs + 4 })))

def resetModule (s : σ) : σ :=
  let s := erase s
  let s := writeEEPROM s 0 0 false
  let s := writeEEPROM s 1 0 false
  let s := writeEEPROM s 2 0 false
  let s := writeEEPROM s 3 0 false
  let s := setResetFlag s
  let s := commitChanges s
  (List.range (config s).eeNumNvs.toNat).foldl (fun s i => writeNV s (UInt8.ofNat (i + 1)) 0) s

/-- The event that slot `i` stores. -/
def slot (s : σ) (i : ℕ) : Option EventInfo :=
  if readEvent s (UInt8.ofNat i) = evInfoUnused then none else some (readEvent s (UInt8.ofNat i))

theorem slot_eq_some {s : σ} {i : ℕ} {e : EventInfo} :
    slot s i = some e ↔ readEvent s (UInt8.ofNat i) = e ∧ e ≠ evInfoUnused := by
  unfold slot
  split_ifs with h
  · simp only [false_iff, not_and, not_not]
    exact fun he => he.symm.trans h
  · simp only [Option.some.injEq]
    exact ⟨fun he => ⟨he, he ▸ h⟩, fun he => he.1⟩

theorem slot_eq_none {s : σ} {i : ℕ} :
    slot s i = none ↔ readEvent s (UInt8.ofNat i) = evInfoUnused := by
  unfold slot
  split_ifs with h <;> simp [h]

theorem eventHash_eq_elim (s : σ) (i : ℕ) :
    eventHash s (UInt8.ofNat i) = (slot s i).elim 0 CBUSConfig.makeHash := by
  unfold eventHash slot
  dsimp only
  split_ifs <;> rfl

/-- Over any memory, `findExistingEvent` is the lookup in a table with tags. -/
theorem findExistingEvent_toNat {s : σ} (hd : Describes (config s).eeMaxEvents.toNat
      CBUSConfig.makeHash 0 (slot s) (config s).hashEntry) (nn en : UInt16) :
    (findExistingEvent s nn en).toNat = lookup (config s).eeMaxEvents.toNat CBUSConfig.makeHash
      (config s).bHashCollisions (slot s) (config s).hashEntry ⟨nn, en⟩ := by
  have hmax := (config s).eeMaxEvents.toNat_lt
  -- a slot whose entry is a hash is in use, so its stored pair is what it holds
  have hread : ∀ i < (config s).eeMaxEvents.toNat,
      (config s).hashEntry i = CBUSConfig.makeHash ⟨nn, en⟩ →
      (slot s i = some ⟨nn, en⟩ ↔ readEvent s (UInt8.ofNat i) = ⟨nn, en⟩) := by
    intro i hi he
    rw [slot_eq_some]
    refine ⟨And.left, fun h => ⟨h, fun hu => ?_⟩⟩
    have hz := hd i hi
    rw [slot_eq_none.mpr (h.trans hu)] at hz
    exact CBUSConfig.makeHash_ne_zero _ (he.symm.trans hz)
  have hle : ∀ p, (UInt8.ofNat (firstIndex (config s).eeMaxEvents.toNat p)).toNat =
      firstIndex (config s).eeMaxEvents.toNat p := by
    intro p
    have := firstIndex_le (config s).eeMaxEvents.toNat p
    rw [UInt8.toNat_ofNat', Nat.mod_eq_of_lt (by omega)]
  unfold findExistingEvent lookup
  dsimp only
  by_cases hlt : firstIndex (config s).eeMaxEvents.toNat
      (fun i => decide ((config s).hashEntry i = CBUSConfig.makeHash ⟨nn, en⟩)) <
        (config s).eeMaxEvents.toNat
  · rw [if_pos hlt, if_pos hlt]
    have hcand := firstIndex_spec hlt
    simp only [decide_eq_true_eq] at hcand
    rw [apply_ite UInt8.toNat, hle]
    congr 1
    · apply firstIndex_congr
      intro i hi
      by_cases he : (config s).hashEntry i = CBUSConfig.makeHash ⟨nn, en⟩
      · simp [he, hread i hi he]
      · simp [he]
    · simp only [apply_ite UInt8.toNat, hle, hread _ hlt hcand]
  · rw [if_neg hlt, if_neg hlt]

/-- What is looked up depends on the table and on the stored events, not on the memory. -/
theorem findExistingEvent_congr {τ : Type} [ByteStore τ] {s : σ} {t : τ}
    (hram : (config s).eventRam = (config t).eventRam)
    (hread : ∀ i < (config t).eeMaxEvents.toNat,
      readEvent s (UInt8.ofNat i) = readEvent t (UInt8.ofNat i)) (nn en : UInt16) :
    findExistingEvent s nn en = findExistingEvent t nn en := by
  have hentry := CBUSConfig.hashEntry_congr hram
  have hmax : (config s).eeMaxEvents = (config t).eeMaxEvents := congrArg (·.1.eeMaxEvents) hram
  have hcollisions : (config s).bHashCollisions = (config t).bHashCollisions :=
    congrArg (·.2.2.2) hram
  have hslow : firstIndex (config t).eeMaxEvents.toNat (fun j =>
        (config t).hashEntry j = CBUSConfig.makeHash ⟨nn, en⟩ ∧
          readEvent s (UInt8.ofNat j) = ⟨nn, en⟩) =
      firstIndex (config t).eeMaxEvents.toNat fun j =>
        (config t).hashEntry j = CBUSConfig.makeHash ⟨nn, en⟩ ∧
          readEvent t (UInt8.ofNat j) = ⟨nn, en⟩ :=
    firstIndex_congr fun i hi => by rw [hread i hi]
  unfold findExistingEvent
  simp only [hentry, hmax, hcollisions, hslow]
  by_cases hi : firstIndex (config t).eeMaxEvents.toNat
      (fun i => (config t).hashEntry i = CBUSConfig.makeHash ⟨nn, en⟩) <
        (config t).eeMaxEvents.toNat
  · rw [if_pos hi, if_pos hi, hread _ hi]
  · rw [if_neg hi, if_neg hi]

end ByteStore
end CBUSPicoLib
