import CBUSPicoLib.Config.ExternalEeprom
import CBUSPicoLib.Node.PermanentData

/-!
# A module with an external EEPROM

The commands of learn mode and the other operations that write, on an object with an external
memory. In every run of operations and restarts such an object answers what one over the flash
answers, if the addresses that its layout uses select different cells of the memory.
-/

namespace CBUSPicoLib

open Runs

namespace ExternalConfig

variable {n : ℕ} {l : Layout} {x : ExternalConfig n} {c : CBUSConfig}

def storeCommand (x : ExternalConfig n) (cmd : StoreCommand) : ExternalConfig n :=
  ByteStore.storeCommand x cmd

def writeOp (x : ExternalConfig n) (op : WriteOp) : ExternalConfig n := ByteStore.writeOp x op

theorem writeOp_command (x : ExternalConfig n) (cmd : StoreCommand) :
    x.writeOp (.command cmd) = x.storeCommand cmd := rfl

theorem writeOp_setCANID (x : ExternalConfig n) (canid : UInt8) :
    x.writeOp (.setCANID canid) = (x.setCANID canid).2 := rfl

theorem storeCommand_clear (x : ExternalConfig n) :
    x.storeCommand .clear = x.clearEventsEEPROM.clearEvHashTable := rfl

theorem storeCommand_remove (x : ExternalConfig n) (e : EventInfo) : x.storeCommand (.remove e) =
    if x.findExistingEvent e.nodeNumber e.eventNumber < x.config.eeMaxEvents then
      x.unlearnEvent (x.findExistingEvent e.nodeNumber e.eventNumber) else x := rfl

theorem storeCommand_teach (x : ExternalConfig n) (e : EventInfo) (evNum evVal : UInt8) :
    x.storeCommand (.teach e evNum evVal) =
      if evNum ≠ 0 ∧ x.learnSlot e.nodeNumber e.eventNumber < x.config.eeMaxEvents then
        x.learnEvent (x.learnSlot e.nodeNumber e.eventNumber) e evNum evVal else x := rfl

end ExternalConfig

/-- An operation that writes, or a restart. -/
inductive ConfigEvent
  | write (op : WriteOp)
  | restart

namespace ConfigEvent

/-- The variable that is written exists. -/
def InRange (l : Layout) : ConfigEvent → Prop
  | .write op => op.InRange l
  | .restart => True

def onFlash (c : CBUSConfig) : ConfigEvent → CBUSConfig
  | .write op => c.writeOp op
  | .restart => c.powerUp

def onExternal {n : ℕ} (x : ExternalConfig n) : ConfigEvent → ExternalConfig n
  | .write op => x.writeOp op
  | .restart => x.powerUp

end ConfigEvent

theorem CBUSConfig.Synced.writeOp {c : CBUSConfig} (h : c.Synced) (op : WriteOp) :
    (c.writeOp op).Synced := by
  cases op with
  | command cmd =>
    cases cmd with
    | clear => exact h.clearEventsEEPROM.clearEvHashTable
    | remove e =>
      change (c.storeCommand (.remove e)).Synced
      rw [CBUSConfig.storeCommand_remove]
      split_ifs
      · exact (h.clearEventEEPROM _).updateEvHashEntry _
      · exact h
    | teach e evNum evVal =>
      change (c.storeCommand (.teach e evNum evVal)).Synced
      rw [CBUSConfig.storeCommand_teach]
      split_ifs
      · exact h.learnEvent _ e evNum evVal
      · exact h
  | writeNV idx val => exact h.writeNV idx val
  | setCANID canid => exact h.setCANID canid
  | setFLiM flim => exact h.setFLiM flim
  | setNodeNum nn => exact h.setNodeNum nn.toUInt32

namespace ExternalConfig

namespace Mirrors

theorem storeCommand (h : Mirrors l x c) {cmd : StoreCommand} (hr : cmd.InRange l) :
    Mirrors l (x.storeCommand cmd) (c.storeCommand cmd) := by
  have hmax : x.config.eeMaxEvents = c.eeMaxEvents :=
    congrArg Layout.eeMaxEvents (h.toLayout.trans h.layout.symm)
  have hlt : ∀ {i : UInt8}, i < c.eeMaxEvents → i.toNat < l.eeMaxEvents.toNat := by
    intro i hi
    rw [h.eeMaxEvents] at hi
    exact UInt8.lt_iff_toNat_lt.mp hi
  cases cmd with
  | clear => exact h.clearEventsEEPROM.clearEvHashTable
  | remove e =>
    rw [ExternalConfig.storeCommand_remove, CBUSConfig.storeCommand_remove, h.findExistingEvent,
      hmax]
    split_ifs with hi
    · exact h.unlearnEvent (hlt hi)
    · exact h
  | teach e evNum evVal =>
    rw [ExternalConfig.storeCommand_teach, CBUSConfig.storeCommand_teach, h.learnSlot, hmax]
    split_ifs with hi
    · exact h.learnEvent (hlt hi.2) hr e evVal
    · exact h

theorem writeOp (h : Mirrors l x c) {op : WriteOp} (hr : op.InRange l) :
    Mirrors l (x.writeOp op) (c.writeOp op) := by
  cases op with
  | command cmd => exact h.storeCommand hr
  | writeNV idx val => exact h.writeNV hr.1 hr.2 val
  | setCANID canid => exact h.setCANID canid
  | setFLiM flim => exact h.setFLiM flim
  | setNodeNum nn => exact h.setNodeNum nn.toUInt32

theorem step (h : Mirrors l x c) (hs : c.Synced) {ev : ConfigEvent} (hr : ev.InRange l) :
    Mirrors l (ev.onExternal x) (ev.onFlash c) ∧ (ev.onFlash c).Synced := by
  cases ev with
  | write op => exact ⟨h.writeOp hr, hs.writeOp op⟩
  | restart => exact ⟨h.powerUp hs, CBUSConfig.synced_begin c.toLayout c.flash⟩

theorem run (h : Mirrors l x c) (hs : c.Synced) {evs : List ConfigEvent}
    (hr : ∀ ev ∈ evs, ev.InRange l) :
    Mirrors l (Runs.run ConfigEvent.onExternal x evs) (Runs.run ConfigEvent.onFlash c evs) := by
  induction evs generalizing x c with
  | nil => exact h
  | cons ev evs ih =>
    obtain ⟨hone, hsynced⟩ := h.step hs (hr ev List.mem_cons_self)
    exact ih hone hsynced fun ev' hev => hr ev' (List.mem_cons_of_mem ev hev)

end Mirrors

/-- Two objects that answer alike: which slot an event has, whether there is room, what a slot and
its variables hold, and the node variables and the identity. -/
structure AnswersLike (l : Layout) (x : ExternalConfig n) (c : CBUSConfig) : Prop where
  find : ∀ nn en, x.findExistingEvent nn en = c.findExistingEvent nn en
  space : x.config.findEventSpace = c.findEventSpace
  numEvents : x.config.numEvents = c.numEvents
  entry : ∀ idx, x.config.getEvTableEntry idx = c.getEvTableEntry idx
  event : ∀ idx < l.eeMaxEvents, x.readEvent idx = c.readEvent idx
  value : ∀ idx < l.eeMaxEvents, ∀ evNum ≤ l.eeNumEvs,
    x.getEventEVval idx evNum = c.getEventEVval idx evNum
  nodeVariable : ∀ idx ≠ 0, idx ≤ l.eeNumNvs → x.readNV idx = c.readNV idx
  identity : x.config.identityRam = c.identityRam

theorem Mirrors.answersLike (h : Mirrors l x c) : AnswersLike l x c where
  find := h.findExistingEvent
  space := h.findEventSpace
  numEvents := h.numEvents
  entry := fun idx => by
    unfold CBUSConfig.getEvTableEntry
    rw [CBUSConfig.hashEntry_congr h.eventRam, h.toLayout, h.layout]
  event := fun _ hi => h.readEvent (UInt8.lt_iff_toNat_lt.mp hi)
  value := fun _ hi _ hev => h.getEventEVval (UInt8.lt_iff_toNat_lt.mp hi) hev
  nodeVariable := fun _ h0 hidx => h.readNV h0 hidx
  identity := h.identityRam

/-- Whatever an external memory contains: after every run of operations and restarts the object
answers what one answers that has been started on a flash with the same bytes and has met the same
events. -/
theorem answersLike_run (hl : l.Fits) {eeprom : SerialEeprom n} (hd : l.DecodedBy eeprom.cell)
    {flash : FlashImage} (himage : ∀ a, l.Used a →
      eeprom.data (eeprom.cell (UInt8.ofNat a)) = flash.read 0xFF a) (unused : FlashImage)
    {evs : List ConfigEvent} (hr : ∀ ev ∈ evs, ev.InRange l) :
    AnswersLike l (run ConfigEvent.onExternal (start l unused eeprom) evs)
      (run ConfigEvent.onFlash (CBUSConfig.construct l flash).begin evs) := by
  have hstart := Mirrors.start hl hd himage unused
  exact (hstart.run (CBUSConfig.synced_begin l flash) hr).answersLike

/-- One event with two variables and four node variables, for a memory of 16 bytes. -/
def tinyLayout : Layout where
  eeEventsStart := 10
  eeMaxEvents := 1
  eeNumEvs := 2
  eeNvsStart := 6
  eeNumNvs := 4

theorem tinyLayout_used_iff (a : ℕ) : tinyLayout.Used a ↔ a < 16 ∧ a ≠ 4 := by
  unfold Layout.Used Layout.InEvents Layout.InNvs
  simp only [tinyLayout]
  change a < 4 ∨ a = 5 ∨ (10 ≤ a ∧ a < 10 + 1 * (2 + 4)) ∨ (6 ≤ a ∧ a < 6 + 4) ↔ _
  omega

theorem tinyLayout_fits : tinyLayout.Fits := by
  constructor
  · decide
  · rintro a ⟨hlo, hhi⟩
    change 10 ≤ a at hlo
    change a < 16 at hhi
    simp only [flashSectorSize]
    omega
  · rintro a ⟨hlo, hhi⟩
    change 6 ≤ a at hlo
    change a < 10 at hhi
    simp only [flashSectorSize]
    omega
  · rintro a ⟨hlo, -⟩ ⟨-, hhi⟩
    change 10 ≤ a at hlo
    change a < 10 at hhi
    omega

/-- An erased memory of 16 bytes, which uses four bits of the address. -/
def tinyEeprom : SerialEeprom 16 where
  cell := fun a => ⟨a.toNat % 16, Nat.mod_lt _ (by decide)⟩
  data := fun _ => 0xFF

theorem decodedBy_tinyEeprom : tinyLayout.DecodedBy tinyEeprom.cell := by
  intro a ha b hb hcell
  have ha' := ((tinyLayout_used_iff a).mp ha).1
  have hb' := ((tinyLayout_used_iff b).mp hb).1
  have hmod : (UInt8.ofNat a).toNat % 16 = (UInt8.ofNat b).toNat % 16 := congrArg Fin.val hcell
  rw [UInt8.toNat_ofNat', UInt8.toNat_ofNat'] at hmod
  omega

/-- An event is taught, the CAN ID and a node variable are set, and the module is restarted. -/
def teachAndSet : List ConfigEvent :=
  [.write (.command (.teach ⟨1, 2⟩ 1 5)), .write (.setCANID 7), .write (.writeNV 2 9), .restart]

theorem answersLike_run_teachAndSet :
    AnswersLike tinyLayout
        (run ConfigEvent.onExternal (start tinyLayout (Memory.const 0) tinyEeprom) teachAndSet)
        (run ConfigEvent.onFlash (CBUSConfig.construct tinyLayout (Memory.const 0xFF)).begin
          teachAndSet) ∧
      (run ConfigEvent.onExternal (start tinyLayout (Memory.const 0) tinyEeprom)
        teachAndSet).findExistingEvent 1 2 = 0 := by
  refine ⟨?_, by decide +kernel⟩
  apply answersLike_run tinyLayout_fits decodedBy_tinyEeprom
  · intro a ha
    have hlt := tinyLayout_fits.used_lt ha
    rw [Memory.read_const, if_pos hlt]
    rfl
  · intro ev hev
    simp only [teachAndSet, List.mem_cons, List.not_mem_nil, or_false] at hev
    rcases hev with rfl | rfl | rfl | rfl
    · exact show (1 : UInt8) ≤ 2 by decide
    · trivial
    · exact show (2 : UInt8) ≠ 0 ∧ (2 : UInt8) ≤ 4 by decide
    · trivial

end ExternalConfig
end CBUSPicoLib
