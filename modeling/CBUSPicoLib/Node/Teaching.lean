import CBUSPicoLib.Config.EventLearning
import CBUSPicoLib.Node.Answers
import CBUSPicoLib.Node.Storage

/-!
# Teaching events

`doEvlrn` acknowledges on one path whatever it has stored: a variable index beyond the
last event variable writes behind the slot, a later variable of a new event stores no
event, and an event with the pattern of an unused slot is lost.
-/

namespace CBUSPicoLib
namespace CBUSbase

def taughtEvent (msg : CANFrame) : EventInfo :=
  ⟨bytesToWord (msg.data.get 1) (msg.data.get 2), bytesToWord (msg.data.get 3) (msg.data.get 4)⟩

/-- The slot that a teach command uses, if it is one of the table. -/
def taughtSlot (n : CBUSbase) (msg : CANFrame) : UInt8 :=
  n.moduleConfig.learnSlot (taughtEvent msg).nodeNumber (taughtEvent msg).eventNumber

theorem receiveMsg_teach {n : CBUSbase} (hlearn : n.bLearn = true) {msg : CANFrame}
    {evNum evVal : UInt8} (ht : taughtVariable msg = some (evNum, evVal)) :
    n.receiveMsg msg =
      ({ n with bThisNN := n.isThisNN msg }.cacheNumbers msg).doEvlrn evNum evVal := by
  let k := { n with bThisNN := n.isThisNN msg }.cacheNumbers msg
  have hcases : msg.data.get 0 = opcEvlrn ∧ evNum = msg.data.get 5 ∧ evVal = msg.data.get 6 ∨
      msg.data.get 0 = opcEvlrni ∧ evNum = msg.data.get 6 ∧ evVal = msg.data.get 7 := by
    unfold taughtVariable at ht
    split_ifs at ht with h1 h2
    · cases ht
      exact Or.inl ⟨h1, rfl, rfl⟩
    · cases ht
      exact Or.inr ⟨h2, rfl, rfl⟩
  have hcmd : k.learnCmd msg = (true, k.doEvlrn evNum evVal) := by
    unfold learnCmd
    rcases hcases with ⟨hopc, rfl, rfl⟩ | ⟨hopc, rfl, rfl⟩
    · simp [hopc, opcEvlrn, opcNnlrn, opcNnuln, opcNnclr, opcEvuln]
    · simp [hopc, opcEvlrni, opcEvlrn, opcNnlrn, opcNnuln, opcNnclr, opcEvuln]
  have hevent : isEvent msg = false := by
    unfold isEvent
    rcases hcases with ⟨hopc, -⟩ | ⟨hopc, -⟩
    · rw [hopc]
      decide
    · rw [hopc]
      decide
  rw [receiveMsg_command hevent]
  exact parseFLiMCmd_learn hlearn hcmd

theorem receiveMsg_teach_cases {n : CBUSbase} (hlearn : n.bLearn = true) {msg : CANFrame}
    {evNum evVal : UInt8} (ht : taughtVariable msg = some (evNum, evVal)) :
    (evNum ≠ 0 ∧ (n.taughtSlot msg).toNat < n.moduleConfig.eeMaxEvents.toNat ∧
      n.Answers (n.receiveMsg msg) opcWrack [] ∧ (n.receiveMsg msg).moduleConfig =
        n.moduleConfig.learnEvent (n.taughtSlot msg) (taughtEvent msg) evNum evVal) ∨
    ((evNum = 0 ∨ ¬ (n.taughtSlot msg).toNat < n.moduleConfig.eeMaxEvents.toNat) ∧
      n.Answers (n.receiveMsg msg) opcCmderr [cmderrInvNvIdx] ∧
      (n.receiveMsg msg).moduleConfig = n.moduleConfig) := by
  rw [receiveMsg_teach hlearn ht]
  let k := { n with bThisNN := n.isThisNN msg }.cacheNumbers msg
  have hsame : n.SendsNothing k := SendsNothing.of_trace rfl
  have hconfig := k.doEvlrn_moduleConfig evNum evVal
  change (k.doEvlrn evNum evVal).moduleConfig = if evNum ≠ 0 ∧ n.taughtSlot msg <
    n.moduleConfig.eeMaxEvents then n.moduleConfig.learnEvent (n.taughtSlot msg) (taughtEvent msg)
      evNum evVal else n.moduleConfig at hconfig
  by_cases hz : evNum = 0
  · refine Or.inr ⟨Or.inl hz, ?_, hconfig.trans (if_neg fun h => h.1 hz)⟩
    have hans : k.doEvlrn evNum evVal = k.sendCMDERR cmderrInvNvIdx := if_pos hz
    rw [hans]
    exact answers_sendCMDERR hsame _
  · by_cases hlt : n.taughtSlot msg < n.moduleConfig.eeMaxEvents
    · refine Or.inl ⟨hz, UInt8.lt_iff_toNat_lt.mp hlt, ?_, hconfig.trans (if_pos ⟨hz, hlt⟩)⟩
      let c' := n.moduleConfig.learnEvent (n.taughtSlot msg) (taughtEvent msg) evNum evVal
      have hans : k.doEvlrn evNum evVal = { k with moduleConfig := c' }.sendWRACK :=
        (if_neg hz).trans (if_pos hlt)
      rw [hans]
      exact answers_sendWRACK hsame
    · refine Or.inr ⟨Or.inr fun h => hlt (UInt8.lt_iff_toNat_lt.mpr h), ?_,
        hconfig.trans (if_neg fun h => hlt h.2)⟩
      have hans : k.doEvlrn evNum evVal = k.sendCMDERR cmderrInvNvIdx :=
        (if_neg hz).trans (if_neg hlt)
      rw [hans]
      exact answers_sendCMDERR hsame _

theorem doReval_stored (m : CBUSbase) (hh : m.moduleConfig.Hashed) {i evNum : UInt8}
    (hev : evNum ≤ m.moduleConfig.eeNumEvs) (hi : i.toNat < m.moduleConfig.eeMaxEvents.toNat)
    (hused : m.moduleConfig.readEvent i ≠ evInfoUnused) :
    m.doReval i evNum =
      m.sendOpcMyNN opcNeval 3 i evNum (m.moduleConfig.getEventEVval i evNum) := by
  have hentry : m.moduleConfig.getEvTableEntry i ≠ 0 := by
    have he := hh.entries i.toNat hi
    rw [UInt8.ofNat_toNat, if_neg hused] at he
    rw [CBUSConfig.getEvTableEntry, if_pos (UInt8.lt_iff_toNat_lt.mpr hi), he]
    exact CBUSConfig.makeHash_ne_zero _
  rw [doReval, if_neg (UInt8.not_lt.mpr hev), if_pos hentry]

/-- A variable of another slot is untouched if nothing outside the taught slot changes. -/
theorem getEventEVval_learnEvent_other {c : CBUSConfig} (hs : c.Spaced) {idx : UInt8}
    {e : EventInfo} {evNum evVal : UInt8}
    (himage : ∀ a, ¬ c.InSlot idx a →
      (c.learnEvent idx e evNum evVal).flashBuf.read 0xFF a = c.flashBuf.read 0xFF a)
    {i k : UInt8} (hidx : idx.toNat < c.eeMaxEvents.toNat) (hi : i.toNat < c.eeMaxEvents.toNat)
    (hne : i ≠ idx) (hk : k ≤ c.eeNumEvs) :
    (c.learnEvent idx e evNum evVal).getEventEVval i k = c.getEventEVval i k := by
  have hle : k.toNat ≤ c.eeNumEvs.toNat := UInt8.le_iff_toNat_le.mp hk
  rw [CBUSConfig.getEventEVval_eq, CBUSConfig.getEventEVval_eq, CBUSConfig.slotByte_learnEvent]
  exact himage _ (hs.not_inSlot_of_ne hi hidx hne (by omega))

end CBUSbase
end CBUSPicoLib
