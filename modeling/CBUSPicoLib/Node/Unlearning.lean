import CBUSPicoLib.Config.EventUnlearning
import CBUSPicoLib.Node.Teaching

/-!
# Unlearning events

`EVULN` looks its event up and clears the slot found. With a coherent table that is the
only slot that stores the event, so exactly this event goes; for an event that is not
stored, the pattern of an unused slot among them, nothing is done.
-/

namespace CBUSPicoLib
namespace CBUSbase

theorem receiveMsg_evuln {n : CBUSbase} (hlearn : n.bLearn = true) {msg : CANFrame}
    (hopc : msg.data.get 0 = opcEvuln) :
    n.receiveMsg msg = ({ n with bThisNN := n.isThisNN msg }.cacheNumbers msg).doEvuln := by
  let k := { n with bThisNN := n.isThisNN msg }.cacheNumbers msg
  have hcmd : k.learnCmd msg = (true, k.doEvuln) := by
    simp [learnCmd, hopc, opcEvuln, opcNnlrn, opcNnuln, opcNnclr]
  have hevent : isEvent msg = false := by
    unfold isEvent
    rw [hopc]
    decide
  rw [receiveMsg_command hevent]
  exact parseFLiMCmd_learn hlearn hcmd

/-- The configuration after `EVULN`: the event's slot is cleared if the event is stored. -/
theorem receiveMsg_evuln_moduleConfig {n : CBUSbase} (hlearn : n.bLearn = true)
    (hh : n.moduleConfig.Hashed) {msg : CANFrame} (hopc : msg.data.get 0 = opcEvuln) :
    (n.moduleConfig.Known (taughtEvent msg) → (n.receiveMsg msg).moduleConfig =
      n.moduleConfig.unlearnEvent (n.moduleConfig.findExistingEvent (taughtEvent msg).nodeNumber
        (taughtEvent msg).eventNumber)) ∧
    (¬ n.moduleConfig.Known (taughtEvent msg) →
      (n.receiveMsg msg).moduleConfig = n.moduleConfig) := by
  let k := { n with bThisNN := n.isThisNN msg }.cacheNumbers msg
  rw [receiveMsg_evuln hlearn hopc]
  have hfound : k.moduleConfig.findExistingEvent k.nodeNumber k.eventNumber <
      k.moduleConfig.eeMaxEvents ↔ n.moduleConfig.Known (taughtEvent msg) := by
    rw [UInt8.lt_iff_toNat_lt]
    exact hh.find_lt_iff
  constructor
  · intro hk
    change k.doEvuln.moduleConfig = _
    unfold doEvuln
    rw [if_pos (hfound.mpr hk)]
    rfl
  · intro hk
    change k.doEvuln.moduleConfig = _
    unfold doEvuln
    rw [if_neg fun h => hk (hfound.mp h)]
    rfl

/-- `c'` is `c` with the event `e` removed and nothing else changed. -/
structure RemovesEvent (c c' : CBUSConfig) (e : EventInfo) : Prop where
  layout : c'.toLayout = c.toLayout
  gone : c'.findExistingEvent e.nodeNumber e.eventNumber = c.eeMaxEvents
  others : ∀ nn en, (⟨nn, en⟩ : EventInfo) ≠ e → c.Known ⟨nn, en⟩ →
    let i := c.findExistingEvent nn en
    c'.findExistingEvent nn en = i ∧ c'.readEvent i = ⟨nn, en⟩ ∧
      ∀ k, k ≠ 0 → k ≤ c.eeNumEvs → c'.getEventEVval i k = c.getEventEVval i k
  coherent : c'.Coherent
  /-- The search for a free slot ends at the freed one once all slots before it are used. -/
  stored : c.Known e →
    let i := c.findExistingEvent e.nodeNumber e.eventNumber
    c'.numEvents.toNat + 1 = c.numEvents.toNat ∧ c'.getEvTableEntry i = 0 ∧
      c'.findEventSpace ≤ i ∧ (c'.findEventSpace = i ↔ ∀ j < i.toNat, c'.slot j ≠ none)
  notStored : ¬ c.Known e → c'.flash = c.flash ∧ c'.flashBuf = c.flashBuf ∧
    c'.evhashtbl = c.evhashtbl ∧ c'.bHashCollisions = c.bHashCollisions

theorem removesEvent_of_known {c : CBUSConfig} (h : c.Coherent) (hs : c.Spaced) {nn en : UInt16}
    (hk : c.Known ⟨nn, en⟩) :
    RemovesEvent c (c.unlearnEvent (c.findExistingEvent nn en)) ⟨nn, en⟩ := by
  have hi := h.hashed.find_lt_iff.mpr hk
  let c' := c.unlearnEvent (c.findExistingEvent nn en)
  have hl : c'.toLayout = c.toLayout := c.unlearnEvent_toLayout _
  have hi' : (c.findExistingEvent nn en).toNat < c'.eeMaxEvents.toNat := hl ▸ hi
  have hc : c'.Coherent := h.clearEvent hs hi
  have hfree : c'.slot (c.findExistingEvent nn en).toNat = none := by
    have hcleared := hs.slot_unlearnEvent hi hi
    rwa [if_pos rfl] at hcleared
  refine ⟨hl, h.find_unlearnEvent hs hk, ?_, hc, ?_, fun hn => absurd hk hn⟩
  · intro nn' en' hne hk' i
    have hlt : i.toNat < c.eeMaxEvents.toNat := h.hashed.find_lt_iff.mpr hk'
    have hstores := h.hashed.slot_find hk'
    have hother : i ≠ c.findExistingEvent nn en := by
      intro he
      have hown := h.hashed.slot_find hk
      rw [← he] at hown
      exact hne (Option.some.inj (hstores.symm.trans hown))
    have hkeep := hs.slot_unlearnEvent hi hlt
    rw [if_neg fun he => hother (UInt8.toNat_inj.mp he)] at hkeep
    have hread := (CBUSConfig.slot_eq_some.mp (hkeep.trans hstores)).1
    rw [UInt8.ofNat_toNat] at hread
    refine ⟨h.find_unlearnEvent_ne hs hk hne, hread, ?_⟩
    intro k _ hkev
    exact hs.getEventEVval_unlearnEvent hi hlt hother hkev
  · intro _ i
    have hspace := hc.hashed.findEventSpace_toNat
    refine ⟨h.numEvents_unlearnEvent hs hk, ?_, ?_, ?_⟩
    · exact (hc.hashed.getEvTableEntry_eq_zero_iff hi').mpr hfree
    · rw [UInt8.le_iff_toNat_le, hspace]
      exact TaggedTable.firstIndex_le_of (decide_eq_true hfree)
    · rw [hc.hashed.findEventSpace_eq_iff hi']
      exact ⟨fun hs => hs.2, fun hs => ⟨hfree, hs⟩⟩

theorem removesEvent_of_not_known {c : CBUSConfig} (h : c.Coherent) {nn en : UInt16}
    (hk : ¬ c.Known ⟨nn, en⟩) : RemovesEvent c c ⟨nn, en⟩ := by
  constructor
  · rfl
  · have hle := TaggedTable.firstIndex_le c.eeMaxEvents.toNat
      fun i => decide (c.slot i = some ⟨nn, en⟩)
    have hnot := mt h.hashed.find_lt_iff.mp hk
    have hfind := h.findExistingEvent_toNat nn en
    change c.findExistingEvent nn en = c.eeMaxEvents
    apply UInt8.toNat_inj.mp
    omega
  · intro nn' en' _ hk' i
    have hread := (CBUSConfig.slot_eq_some.mp (h.hashed.slot_find hk')).1
    rw [UInt8.ofNat_toNat] at hread
    exact ⟨rfl, hread, fun _ _ _ => rfl⟩
  · exact h
  · exact fun hk' => absurd hk' hk
  · exact fun _ => ⟨rfl, rfl, rfl, rfl⟩

/-- In every learn-mode state with a coherent table and slots apart an `EVULN` removes exactly its
event. -/
theorem removesEvent_evuln (n : CBUSbase) (hlearn : n.bLearn = true) (hs : n.moduleConfig.Spaced)
    (hc : n.moduleConfig.Coherent) (msg : CANFrame) (hopc : msg.data.get 0 = opcEvuln) :
    RemovesEvent n.moduleConfig (n.receiveMsg msg).moduleConfig (taughtEvent msg) ∧
      ¬ n.moduleConfig.Known evInfoUnused := by
  obtain ⟨hstored, hnot⟩ := receiveMsg_evuln_moduleConfig hlearn hc.hashed hopc
  refine ⟨?_, n.moduleConfig.not_known_evInfoUnused⟩
  by_cases hk : n.moduleConfig.Known (taughtEvent msg)
  · rw [hstored hk]
    exact removesEvent_of_known hc hs hk
  · rw [hnot hk]
    exact removesEvent_of_not_known hc hk

/-- The small flash with short events 1 and 129, whose hashes are equal, in the first and the
last slot; their variables are 7 and 9. -/
def learnedFlash : FlashImage :=
  ((((smallFlash.write 20 0).write 21 0).write 22 0).write 23 1).write 24 7
    |>.write 30 0 |>.write 31 0 |>.write 32 0 |>.write 33 129 |>.write 34 9

def learnedModule : CBUSbase := { smallModule with
  moduleConfig := (CBUSConfig.construct CBUSConfig.smallLayout learnedFlash).begin
  bLearn := true }

theorem learnedModule_stored : learnedModule.Stored := by
  have hpairs : (CBUSConfig.construct CBUSConfig.smallLayout learnedFlash).loaded.NoPairTwice := by
    unfold CBUSConfig.NoPairTwice
    decide +kernel
  exact ⟨CBUSConfig.placed_begin (c := CBUSConfig.construct CBUSConfig.smallLayout learnedFlash)
    CBUSConfig.smallLayout_fits, CBUSConfig.coherent_begin CBUSConfig.smallLayout_fits hpairs⟩

def unlearnFrame : CANFrame := { len := 5, data := #v[opcEvuln, 0, 0, 0, 129, 0, 0, 0] }

theorem removesEvent_evuln_colliding :
    RemovesEvent learnedModule.moduleConfig (learnedModule.receiveMsg unlearnFrame).moduleConfig
        (taughtEvent unlearnFrame) ∧
      ¬ learnedModule.moduleConfig.Known evInfoUnused :=
  removesEvent_evuln learnedModule rfl learnedModule_stored.placed.spaced learnedModule_stored.coherent
    unlearnFrame (by decide)

/-- Slots of 253 variables, whose size of 257 bytes is kept as 1. -/
def wrappedLayout : Layout := { CBUSConfig.smallLayout with eeMaxEvents := 2, eeNumEvs := 253 }

/-- Short event 1 in the first slot; one byte further the second slot has short event 263. -/
def wrappedFlash : FlashImage :=
  ((((smallFlash.write 20 0).write 21 0).write 22 0).write 23 1).write 24 7

def wrappedModule : CBUSbase := { smallModule with
  moduleConfig := (CBUSConfig.construct wrappedLayout wrappedFlash).begin
  bLearn := true }

def unlearnFirst : CANFrame := { len := 5, data := #v[opcEvuln, 0, 0, 0, 1, 0, 0, 0] }

theorem wrappedModule_coherent : wrappedModule.moduleConfig.Coherent := by
  constructor <;> decide +kernel

/-- The event of the second slot is damaged. -/
theorem not_removesEvent_wrapped :
    wrappedModule.bLearn = true ∧ wrappedModule.moduleConfig.Coherent ∧
      unlearnFirst.data.get 0 = opcEvuln ∧ wrappedModule.moduleConfig.Known ⟨0, 263⟩ ∧
      ¬ RemovesEvent wrappedModule.moduleConfig
        (wrappedModule.receiveMsg unlearnFirst).moduleConfig (taughtEvent unlearnFirst) := by
  refine ⟨rfl, wrappedModule_coherent, by decide, ⟨1, by decide, ?_⟩, fun h => ?_⟩
  · decide +kernel
  · have hread := (h.others 0 263 (by decide) ⟨1, by decide, by decide +kernel⟩).2.1
    exact absurd hread (by decide +kernel)

end CBUSbase
end CBUSPicoLib
