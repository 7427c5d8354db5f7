import CBUSPicoLib.Config.Identity

/-!
# Cache and flash agree between commands

Every operation that a received frame can trigger ends with a flush, so a
configuration that was `Synced` before it is `Synced` after it: what the module
would read after a restart is what it works with now.
-/

namespace CBUSPicoLib
namespace CBUSConfig

theorem CacheSound.writeEvent {c : CBUSConfig} (h : c.CacheSound) (index : UInt8)
    (e : EventInfo) (f : Bool) : (c.writeEvent index e f).CacheSound := by
  have h4 := (((h.writeEEPROM (c.eventAddress index 0) (highByte e.nodeNumber.toNat) false).writeEEPROM
    (c.eventAddress index 1) (lowByte e.nodeNumber.toNat) false).writeEEPROM
    (c.eventAddress index 2) (highByte e.eventNumber.toNat) false).writeEEPROM
    (c.eventAddress index 3) (lowByte e.eventNumber.toNat) false
  cases f
  · exact h4
  · exact h4.commitChanges.cacheSound

theorem Synced.writeEvent {c : CBUSConfig} (h : c.Synced) (index : UInt8) (e : EventInfo) :
    (c.writeEvent index e).Synced := by
  rw [writeEvent_flushed]
  exact (h.cacheSound.writeEvent index e false).commitChanges

theorem Synced.clearEventEEPROM {c : CBUSConfig} (h : c.Synced) (index : UInt8) :
    (c.clearEventEEPROM index).Synced := h.writeEvent index evInfoUnused

theorem CacheSound.foldl_clearEventEEPROM (l : List ℕ) {c : CBUSConfig} (h : c.CacheSound) :
    (l.foldl (fun c e => c.clearEventEEPROM (UInt8.ofNat e) false) c).CacheSound := by
  induction l generalizing c with
  | nil => exact h
  | cons e l ih => exact ih (h.writeEvent (UInt8.ofNat e) evInfoUnused false)

theorem Synced.clearEventsEEPROM {c : CBUSConfig} (h : c.Synced) : c.clearEventsEEPROM.Synced :=
  (h.cacheSound.foldl_clearEventEEPROM _).commitChanges

theorem Synced.updateEvHashEntry {c : CBUSConfig} (h : c.Synced) (idx : UInt8) :
    (c.updateEvHashEntry idx).Synced := ⟨h.flash_eq, h.modified, h.zeroToOne⟩

theorem Synced.clearEvHashTable {c : CBUSConfig} (h : c.Synced) : c.clearEvHashTable.Synced :=
  ⟨h.flash_eq, h.modified, h.zeroToOne⟩

theorem Synced.learnEvent {c : CBUSConfig} (h : c.Synced) (index : UInt8) (e : EventInfo)
    (evNum evVal : UInt8) : (c.learnEvent index e evNum evVal).Synced := by
  rw [learnEvent_eq]
  split_ifs
  · exact ((h.writeEvent index e).writeEEPROM _ evVal).updateEvHashEntry index
  · exact (h.writeEEPROM _ evVal).updateEvHashEntry index

theorem Synced.writeNV {c : CBUSConfig} (h : c.Synced) (idx val : UInt8) :
    (c.writeNV idx val).Synced := h.writeEEPROM _ val

theorem Synced.setFLiM {c : CBUSConfig} (h : c.Synced) (flim : Bool) : (c.setFLiM flim).Synced := by
  have h0 : ({ c with bFLiM := flim } : CBUSConfig).Synced :=
    ⟨h.flash_eq, h.modified, h.zeroToOne⟩
  exact h0.writeEEPROM _ _

theorem Synced.setCANID {c : CBUSConfig} (h : c.Synced) (canid : UInt8) :
    (c.setCANID canid).2.Synced := by
  have h0 : ({ c with canId := canid } : CBUSConfig).Synced :=
    ⟨h.flash_eq, h.modified, h.zeroToOne⟩
  rw [setCANID_eq]
  split_ifs
  · exact h0.writeEEPROM _ _
  · exact h

theorem Synced.setNodeNum {c : CBUSConfig} (h : c.Synced) (nn : UInt32) :
    (c.setNodeNum nn).Synced := by
  have h0 : ({ c with nodeNum := nn } : CBUSConfig).Synced :=
    ⟨h.flash_eq, h.modified, h.zeroToOne⟩
  exact ((h0.cacheSound.writeEEPROM ofsNodeNumHb (highByte nn.toNat) false).writeEEPROM
    ofsNodeNumLb (lowByte nn.toNat) false).commitChanges

theorem Synced.loadNVs {c : CBUSConfig} (h : c.Synced) : c.loadNVs.Synced := by
  by_cases hflag : c.readEEPROM ofsResetFlag = 0xFF
  · rw [loadNVs_of_blank hflag, clearResetFlag_eq]
    exact (((h.setFLiM false).setCANID defaultCanid).setNodeNum defaultNn).writeEEPROM _ 0
  · rw [loadNVs_of_marked hflag]
    exact ⟨h.flash_eq, h.modified, h.zeroToOne⟩

theorem synced_begin (l : Layout) (flash : FlashImage) : (construct l flash).begin.Synced := by
  have h0 : (construct l flash).loaded.Synced := ⟨rfl, rfl, rfl⟩
  exact h0.loadNVs

theorem learnEvent_toLayout (c : CBUSConfig) (index : UInt8) (e : EventInfo) (evNum evVal : UInt8) :
    (c.learnEvent index e evNum evVal).toLayout = c.toLayout ∧
      (c.learnEvent index e evNum evVal).eeBytesPerEvent = c.eeBytesPerEvent ∧
      (c.learnEvent index e evNum evVal).evhashtbl.length = c.evhashtbl.length := by
  have hu : (((if evNum < 2 then c.writeEvent index e else c).writeEventEV index evNum
      evVal)).eventRam = c.eventRam := by
    rw [writeEventEV_eventRam]
    split_ifs
    · exact writeEvent_eventRam _ _ _ _
    · rfl
  refine ⟨congrArg Prod.fst hu, congrArg (·.2.1) hu, ?_⟩
  have ht := congrArg (·.2.2.1.length) hu
  exact (length_updateEvHashEntry _ index).trans ht

end CBUSConfig
end CBUSPicoLib
