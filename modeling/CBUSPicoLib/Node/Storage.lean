import CBUSPicoLib.Library.Runs
import CBUSPicoLib.Node.CommandSteps
import CBUSPicoLib.Config.Coherence

/-!
# Storage and hash table over runs of received frames

`NVSET` and the teach commands compute the address of the byte they write from
an index in the frame that is not compared with the number of variables. A run
in which no such write changes an identity byte of an event slot keeps the event
table coherent.
-/

namespace CBUSPicoLib

open Runs

namespace CBUSConfig

/-- No event is stored in two slots. -/
def NoPairTwice (c : CBUSConfig) : Prop :=
  ∀ i < c.eeMaxEvents.toNat, ∀ j < c.eeMaxEvents.toNat,
    c.readEvent (UInt8.ofNat i) ≠ evInfoUnused →
      c.readEvent (UInt8.ofNat i) = c.readEvent (UInt8.ofNat j) → i = j

theorem NoPairTwice.distinct {c : CBUSConfig} (h : c.NoPairTwice) :
    TaggedTable.Distinct c.eeMaxEvents.toNat c.slot := by
  intro i hi j hj k hki hkj
  rw [slot_eq_some] at hki hkj
  exact h i hi j hj (fun hu => hki.2 (hki.1.symm.trans hu)) (hki.1.trans hkj.1.symm)

theorem coherent_begin {l : Layout} {flash : FlashImage} (hl : l.Fits)
    (hd : (construct l flash).loaded.NoPairTwice) : (construct l flash).begin.Coherent := by
  have hc : (construct l flash).loaded.Coherent := by
    apply coherent_makeEvHashTable
    exact hd.distinct
  rw [begin_eq]
  exact (sameTables_loadNVs _).coherent (placed_loaded hl) hc

theorem Coherent.makeEvHashTable_find {c : CBUSConfig} (h : c.Coherent) (nn en : UInt16) :
    c.makeEvHashTable.findExistingEvent nn en = c.findExistingEvent nn en := by
  have hd := (c.coherent_iff.mp h).2.2.2
  have hm := coherent_makeEvHashTable hd
  apply UInt8.toNat_inj.mp
  rw [hm.findExistingEvent_toNat, h.findExistingEvent_toNat]
  rfl

theorem Coherent.writeNV {c : CBUSConfig} (h : c.Coherent) {idx v : UInt8}
    (hk : c.KeepsEvents (c.eeNvsStart + (idx.toUInt32 - 1)) v) : (c.writeNV idx v).Coherent := by
  rw [CBUSConfig.writeNV_eq]
  exact h.writeEEPROM hk

theorem writeNV_inNvs {c : CBUSConfig} (hp : c.Placed) {idx : UInt8} (h0 : idx ≠ 0)
    (hi : idx ≤ c.eeNumNvs) : c.InNvs (c.eeNvsStart + (idx.toUInt32 - 1)).toNat := by
  have h0' : idx.toNat ≠ 0 := fun h => h0 (UInt8.toNat_inj.mp h)
  have hi' : idx.toNat ≤ c.eeNumNvs.toNat := UInt8.le_iff_toNat_le.mp hi
  have hidx : UInt8.ofNat (idx.toNat - 1 + 1) = idx := by
    rw [Nat.sub_add_cancel (Nat.pos_of_ne_zero h0'), UInt8.ofNat_toNat]
  have hlt : idx.toNat - 1 < c.eeNumNvs.toNat := by omega
  have haddr := (writeNV_toNat hp hlt).1
  rw [hidx] at haddr
  rw [haddr]
  exact ⟨by omega, by omega⟩

theorem keepsEvents_nv {c : CBUSConfig} (hp : c.Placed) {idx : UInt8} (h0 : idx ≠ 0)
    (hi : idx ≤ c.eeNumNvs) (v : UInt8) :
    c.KeepsEvents (c.eeNvsStart + (idx.toUInt32 - 1)) v := by
  intro i hi' k hk ha _
  have hev := Layout.slotBase_add_inEvents (l := c.toLayout) hi' (by omega : k < _)
  rw [hp.slotByte (by rwa [toNat_ofNat_index hi']) (by omega), toNat_ofNat_index hi'] at ha
  rw [← ha] at hev
  exact absurd (writeNV_inNvs hp h0 hi) (hp.fits.disjoint _ hev)

end CBUSConfig

namespace CBUSbase

/-- A received frame handled by `parseFLiMCmd`. -/
def receiveCmd (n : CBUSbase) (msg : CANFrame) : CBUSbase :=
  ({ n with bThisNN := n.isThisNN msg }.parseFLiMCmd msg).2

def taughtVariable (msg : CANFrame) : Option (UInt8 × UInt8) :=
  if msg.data.get 0 = opcEvlrn then some (msg.data.get 5, msg.data.get 6)
  else if msg.data.get 0 = opcEvlrni then some (msg.data.get 6, msg.data.get 7)
  else none

/-- The byte a teach command or `NVSET` writes by index changes no identity byte
of an event slot. -/
def WritesInPlace (n : CBUSbase) (msg : CANFrame) : Prop :=
  let c := n.moduleConfig
  let index := c.learnSlot (bytesToWord (msg.data.get 1) (msg.data.get 2))
    (bytesToWord (msg.data.get 3) (msg.data.get 4))
  (∀ evNum evVal, n.bLearn = true → taughtVariable msg = some (evNum, evVal) → evNum ≠ 0 →
    index.toNat < c.eeMaxEvents.toNat →
      c.KeepsEvents (c.eventAddress index (3 + evNum.toUInt32)) evVal) ∧
    (n.isThisNN msg = true → msg.data.get 0 = opcNvset →
      c.KeepsEvents (c.eeNvsStart + ((msg.data.get 3).toUInt32 - 1)) (msg.data.get 4))

theorem writesInPlace_of_inRange {n : CBUSbase} (hp : n.moduleConfig.Placed) {msg : CANFrame}
    (hev : ∀ evNum evVal, taughtVariable msg = some (evNum, evVal) →
      evNum ≤ n.moduleConfig.eeNumEvs)
    (hnv : msg.data.get 0 = opcNvset → msg.data.get 3 ≠ 0 ∧ msg.data.get 3 ≤ n.moduleConfig.eeNumNvs) :
    n.WritesInPlace msg := by
  constructor
  · intro evNum evVal _ ht h0 hi
    exact CBUSConfig.keepsEvents_ev hp.spaced hi h0 (hev evNum evVal ht) evVal
  · intro _ hopc
    exact CBUSConfig.keepsEvents_nv hp (hnv hopc).1 (hnv hopc).2 _

theorem indicateFLiMMode_moduleConfig (n : CBUSbase) (bFLiM : Bool) :
    (n.indicateFLiMMode bFLiM).moduleConfig = n.moduleConfig := by
  cases bFLiM <;> rfl

theorem doEnum_moduleConfig (n : CBUSbase) (b : Bool) :
    (n.doEnum b).moduleConfig = n.moduleConfig := by
  unfold doEnum
  dsimp only
  split_ifs <;> rfl

/-- The coherent configurations of a given placement. -/
structure Stored (n : CBUSbase) : Prop where
  placed : n.moduleConfig.Placed
  coherent : n.moduleConfig.Coherent

theorem Stored.congr {n m : CBUSbase} (h : n.Stored) (hc : m.moduleConfig = n.moduleConfig) :
    m.Stored := ⟨hc ▸ h.placed, hc ▸ h.coherent⟩

theorem CommandStep.stored {n m : CBUSbase} {msg : CANFrame} (step : CommandStep n msg m)
    (h : n.Stored)
    (hlearn : ∀ evNum evVal, n.bLearn = true → taughtVariable msg = some (evNum, evVal) →
      evNum ≠ 0 → (n.moduleConfig.learnSlot n.nodeNumber n.eventNumber).toNat <
        n.moduleConfig.eeMaxEvents.toNat →
      n.moduleConfig.KeepsEvents (n.moduleConfig.eventAddress
        (n.moduleConfig.learnSlot n.nodeNumber n.eventNumber) (3 + evNum.toUInt32)) evVal)
    (hnv : n.bThisNN = true → msg.data.get 0 = opcNvset →
      n.moduleConfig.KeepsEvents (n.moduleConfig.eeNvsStart + ((msg.data.get 3).toUInt32 - 1))
        (msg.data.get 4)) : m.Stored := by
  cases step with
  | keep => exact h
  | leaveLearn => exact h.congr rfl
  | enterLearn => exact h.congr rfl
  | nnclr =>
    have hp : n.moduleConfig.clearEventsEEPROM.Placed :=
      h.placed.of_eventRam n.moduleConfig.clearEventsEEPROM_eventRam
    exact ⟨⟨hp.fits, hp.bytesPerEvent⟩, n.moduleConfig.coherent_clearEvents⟩
  | evuln _ _ index _ valid =>
    have hp : (n.moduleConfig.clearEventEEPROM index).Placed :=
      h.placed.of_eventRam (CBUSConfig.writeEvent_eventRam _ _ _ _)
    exact ⟨⟨hp.fits, hp.bytesPerEvent⟩, h.coherent.clearEvent h.placed.spaced valid⟩
  | evlrn learn evNum evVal opc nonzero valid =>
    have ht : taughtVariable msg = some (evNum, evVal) := by
      rcases opc with ⟨ho, rfl, rfl⟩ | ⟨ho, rfl, rfl⟩
      · rw [taughtVariable, if_pos ho]
      · rw [taughtVariable, if_neg (by rw [ho]; decide), if_pos ho]
    have hk := hlearn evNum evVal learn ht nonzero valid
    obtain ⟨hl, hb, -⟩ := CBUSConfig.learnEvent_toLayout n.moduleConfig
      (n.moduleConfig.learnSlot n.nodeNumber n.eventNumber) ⟨n.nodeNumber, n.eventNumber⟩
      evNum evVal
    refine ⟨⟨?_, ?_⟩, h.coherent.learnEvent h.placed nonzero valid hk⟩
    · rw [hl]
      exact h.placed.fits
    · rw [hb, hl]
      exact h.placed.bytesPerEvent
  | nvset this opc =>
    exact ⟨h.placed.of_eventRam (CBUSConfig.writeNV_eventRam _ _ _),
      h.coherent.writeNV (hnv this opc)⟩
  | canid =>
    have hs := CBUSConfig.sameTables_setCANID n.moduleConfig (msg.data.get 3)
    exact ⟨h.placed.of_eventRam hs.ram, hs.coherent h.placed h.coherent⟩
  | enum => exact h.congr (n.doEnum_moduleConfig true)
  | snn =>
    have hs := (CBUSConfig.sameTables_setNodeNum n.moduleConfig n.nodeNumber.toUInt32).trans
      (CBUSConfig.sameTables_setFLiM _ true)
    refine Stored.congr ?_ (indicateFLiMMode_moduleConfig _ true)
    exact ⟨h.placed.of_eventRam hs.ram, hs.coherent h.placed h.coherent⟩

theorem Stored.receiveCmd {n : CBUSbase} (h : n.Stored) {msg : CANFrame}
    (hw : n.WritesInPlace msg) : (n.receiveCmd msg).Stored := by
  obtain ⟨m, step, hr⟩ := parseFLiMCmd_handles { n with bThisNN := n.isThisNN msg } msg
  have hm : m.Stored := step.stored (h.congr rfl) hw.1 hw.2
  exact hm.congr hr.moduleConfig

/-- In every run whose writes stay in place, every state reached has a coherent
event table, and rebuilding the table would change no lookup. -/
theorem coherent_run (n : CBUSbase) (l : Layout) (flash : FlashImage) (hl : l.Fits)
    (hd : (CBUSConfig.construct l flash).loaded.NoPairTwice)
    (hn : n.moduleConfig = (CBUSConfig.construct l flash).begin) (msgs : List CANFrame)
    (hw : Guarded receiveCmd WritesInPlace n msgs) (ps : List CANFrame) (hps : ps <+: msgs) :
    (run receiveCmd n ps).moduleConfig.Coherent ∧
      ∀ nn en, (run receiveCmd n ps).moduleConfig.makeEvHashTable.findExistingEvent nn en =
        (run receiveCmd n ps).moduleConfig.findExistingEvent nn en := by
  have h0 : n.Stored := by
    constructor
    · rw [hn]
      exact CBUSConfig.placed_begin hl
    · rw [hn]
      exact CBUSConfig.coherent_begin hl hd
  have hps' := hw.invariant_prefix (fun _ _ h hg => h.receiveCmd hg) h0 hps
  exact ⟨hps'.coherent, hps'.coherent.makeEvHashTable_find⟩

def learnFrame : CANFrame := { len := 3, data := #v[opcNnlrn, 1, 2, 0, 0, 0, 0, 0] }

def teachFrame : CANFrame := { len := 7, data := #v[opcEvlrn, 0, 1, 0, 2, 1, 5, 0] }

/-- Teach variable 2 of the same event; slots have one variable. -/
def teachPastEnd : CANFrame := { len := 7, data := #v[opcEvlrn, 0, 1, 0, 2, 2, 0, 0] }

theorem smallFlash_noPairTwice :
    (CBUSConfig.construct CBUSConfig.smallLayout smallFlash).loaded.NoPairTwice := by
  unfold CBUSConfig.NoPairTwice
  decide +kernel

theorem smallModule_stored : smallModule.Stored :=
  ⟨CBUSConfig.placed_begin (c := CBUSConfig.construct CBUSConfig.smallLayout smallFlash)
    CBUSConfig.smallLayout_fits,
    CBUSConfig.coherent_begin CBUSConfig.smallLayout_fits smallFlash_noPairTwice⟩

theorem guarded_teach : Guarded receiveCmd WritesInPlace smallModule [learnFrame, teachFrame] := by
  have hlearn : smallModule.WritesInPlace learnFrame := by
    apply writesInPlace_of_inRange smallModule_stored.placed
    · intro evNum evVal h
      exact absurd h (by rw [show taughtVariable learnFrame = none from by decide]; simp)
    · intro h
      exact absurd h (by decide)
  refine ⟨hlearn, ?_, trivial⟩
  apply writesInPlace_of_inRange (smallModule_stored.receiveCmd hlearn).placed
  · intro evNum evVal h
    rw [show taughtVariable teachFrame = some (1, 5) from by decide] at h
    cases h
    decide +kernel
  · intro h
    exact absurd h (by decide)

theorem coherent_run_teach :
    (run receiveCmd smallModule [learnFrame, teachFrame]).moduleConfig.Coherent ∧
      ∀ nn en,
        (run receiveCmd smallModule [learnFrame, teachFrame]).moduleConfig.makeEvHashTable.findExistingEvent
            nn en =
          (run receiveCmd smallModule [learnFrame, teachFrame]).moduleConfig.findExistingEvent nn en :=
  coherent_run smallModule CBUSConfig.smallLayout smallFlash CBUSConfig.smallLayout_fits
    smallFlash_noPairTwice rfl [learnFrame, teachFrame] guarded_teach [learnFrame, teachFrame]
    List.prefix_rfl

theorem not_coherent_teachPastEnd :
    CBUSConfig.smallLayout.Fits ∧
      (CBUSConfig.construct CBUSConfig.smallLayout smallFlash).loaded.NoPairTwice ∧
      smallModule.moduleConfig =
        (CBUSConfig.construct CBUSConfig.smallLayout smallFlash).begin ∧
      ¬ (run receiveCmd smallModule [learnFrame, teachFrame, teachPastEnd]).moduleConfig.Coherent := by
  refine ⟨CBUSConfig.smallLayout_fits, smallFlash_noPairTwice, rfl, fun h => ?_⟩
  have hread : (run receiveCmd smallModule
      [learnFrame, teachFrame, teachPastEnd]).moduleConfig.readEvent (UInt8.ofNat 1) ≠
        evInfoUnused := by decide +kernel
  have hentry : (run receiveCmd smallModule
      [learnFrame, teachFrame, teachPastEnd]).moduleConfig.hashEntry 1 = 0 := by decide +kernel
  exact hread ((h.unused 1 (by decide +kernel)).mp hentry)

end CBUSbase
end CBUSPicoLib
