import CBUSPicoLib.Config.Coherence
import CBUSPicoLib.Config.EventLookup
import CBUSPicoLib.Config.Persistence

/-!
# What a teach command leaves in the event table

The slot is the event's own one or the first that is unused. The identity bytes are
written with the first event variable only, the variable at an offset computed from an
index that is not compared with the number of variables.
-/

namespace CBUSPicoLib

open TaggedTable

namespace CBUSConfig

/-- Some slot stores the event. -/
def Known (c : CBUSConfig) (e : EventInfo) : Prop := ∃ i < c.eeMaxEvents.toNat, c.slot i = some e

/-- Some slot is unused. -/
def HasSpace (c : CBUSConfig) : Prop := ∃ i < c.eeMaxEvents.toNat, c.slot i = none

theorem Coherent.hashed {c : CBUSConfig} (h : c.Coherent) : c.Hashed := by
  refine ⟨h.allocated, ?_, h.collisions⟩
  intro i hi
  split_ifs with hu
  · exact (h.unused i hi).mpr hu
  · exact h.used i hi hu

variable {c : CBUSConfig} {nn en : UInt16}

theorem Hashed.findEventSpace_toNat (h : c.Hashed) :
    c.findEventSpace.toNat = firstIndex c.eeMaxEvents.toNat fun i => c.slot i = none := by
  have hle := firstIndex_le c.eeMaxEvents.toNat fun i => decide (c.hashEntry i = 0)
  have hmax := c.eeMaxEvents.toNat_lt
  unfold findEventSpace
  rw [UInt8.toNat_ofNat', Nat.mod_eq_of_lt (by omega)]
  apply firstIndex_congr
  intro i hi
  rw [h.describes i hi]
  cases c.slot i with
  | none => simp
  | some e => simp [makeHash_ne_zero]

theorem Hashed.find_lt_iff (h : c.Hashed) :
    (c.findExistingEvent nn en).toNat < c.eeMaxEvents.toNat ↔ c.Known ⟨nn, en⟩ := by
  rw [h.findExistingEvent_toNat, firstIndex_lt_iff]
  simp only [decide_eq_true_eq]
  rfl

theorem Hashed.slot_find (h : c.Hashed) (hk : c.Known ⟨nn, en⟩) :
    c.slot (c.findExistingEvent nn en).toNat = some ⟨nn, en⟩ := by
  have hlt := h.find_lt_iff.mpr hk
  rw [h.findExistingEvent_toNat] at hlt ⊢
  exact of_decide_eq_true (firstIndex_spec hlt)

theorem Hashed.learnSlot_known (h : c.Hashed) (hk : c.Known ⟨nn, en⟩) :
    (c.learnSlot nn en).toNat < c.eeMaxEvents.toNat ∧
      c.slot (c.learnSlot nn en).toNat = some ⟨nn, en⟩ ∧
      ∀ j < (c.learnSlot nn en).toNat, c.slot j ≠ some ⟨nn, en⟩ := by
  have hlt := h.find_lt_iff.mpr hk
  have hslot : c.learnSlot nn en = c.findExistingEvent nn en := if_pos hlt
  rw [hslot]
  refine ⟨hlt, h.slot_find hk, ?_⟩
  · intro j hj
    rw [h.findExistingEvent_toNat] at hj
    exact of_decide_eq_false (not_of_lt_firstIndex hj)

theorem Hashed.learnSlot_unknown (h : c.Hashed) (hk : ¬ c.Known ⟨nn, en⟩) :
    ((c.learnSlot nn en).toNat < c.eeMaxEvents.toNat ↔ c.HasSpace) ∧
      ((c.learnSlot nn en).toNat < c.eeMaxEvents.toNat →
        c.slot (c.learnSlot nn en).toNat = none) := by
  have hslot : c.learnSlot nn en = c.findEventSpace := if_neg fun hlt => hk (h.find_lt_iff.mp hlt)
  rw [hslot, h.findEventSpace_toNat]
  constructor
  · rw [firstIndex_lt_iff]
    simp only [decide_eq_true_eq]
    rfl
  · intro hlt
    exact of_decide_eq_true (firstIndex_spec hlt)

theorem Hashed.learnSlot_lt_iff (h : c.Hashed) :
    (c.learnSlot nn en).toNat < c.eeMaxEvents.toNat ↔ c.Known ⟨nn, en⟩ ∨ c.HasSpace := by
  by_cases hk : c.Known ⟨nn, en⟩
  · exact iff_of_true (h.learnSlot_known hk).1 (Or.inl hk)
  · rw [(h.learnSlot_unknown hk).1]
    exact ⟨Or.inr, fun hs => hs.resolve_left hk⟩

variable {idx evNum evVal : UInt8} {e : EventInfo}

theorem slotByte_learnEvent (c : CBUSConfig) (idx : UInt8) (e : EventInfo) (evNum evVal : UInt8) :
    (c.learnEvent idx e evNum evVal).slotByte = c.slotByte := by
  obtain ⟨hl, hb, -⟩ := c.learnEvent_toLayout idx e evNum evVal
  funext j k
  simp only [slotByte, eventAddress, hl, hb]

theorem read_learnEvent {a : ℕ} (ha : ∀ k < 4, a ≠ c.slotByte idx k) :
    (c.learnEvent idx e evNum evVal).flashBuf.read 0xFF a =
      if a = c.slotByte idx (3 + evNum.toNat) ∧ a < flashSectorSize then evVal
      else c.flashBuf.read 0xFF a := by
  have hu := c.identified_eventRam idx e evNum
  change ((c.identified idx e evNum).writeEventEV idx evNum evVal).flashBuf.read 0xFF a = _
  rw [writeEventEV_eq, writeEEPROM_flashBuf, eventAddress_variable, slotByte_congr hu,
    Memory.read_write, read_identified e evNum ha]

/-- The variable byte is one of the slot, or lies outside the image, or has the value already. -/
def InPlace (c : CBUSConfig) (idx evNum evVal : UInt8) : Prop :=
  evNum ≤ c.eeNumEvs ∨ flashSectorSize ≤ c.slotByte idx (3 + evNum.toNat) ∨
    c.flashBuf.read 0xFF (c.slotByte idx (3 + evNum.toNat)) = evVal

/-- Nothing outside the slot changes exactly if the variable byte is in place. -/
theorem learnEvent_outside_iff :
    (∀ a, ¬ c.InSlot idx a →
      (c.learnEvent idx e evNum evVal).flashBuf.read 0xFF a = c.flashBuf.read 0xFF a) ↔
      c.InPlace idx evNum evVal := by
  have hbehind : ∀ a, ¬ c.InSlot idx a → ∀ k < 4, a ≠ c.slotByte idx k :=
    fun a ha k hk he => ha ⟨k, by omega, he⟩
  constructor
  · intro h
    by_cases hle : evNum ≤ c.eeNumEvs
    · exact Or.inl hle
    · by_cases hin : c.slotByte idx (3 + evNum.toNat) < flashSectorSize
      · have hlt : c.eeNumEvs.toNat < evNum.toNat := UInt8.lt_iff_toNat_lt.mp (UInt8.not_le.mp hle)
        have hev := evNum.toNat_lt
        have hout : ¬ c.InSlot idx (c.slotByte idx (3 + evNum.toNat)) := by
          rintro ⟨k, hk, he⟩
          have hsame := c.slotByte_inj idx (by omega) (by omega) he
          omega
        have hkeep := h _ hout
        rw [read_learnEvent (hbehind _ hout), if_pos ⟨rfl, hin⟩] at hkeep
        exact Or.inr (Or.inr hkeep.symm)
      · exact Or.inr (Or.inl (Nat.le_of_not_lt hin))
  · intro h a ha
    rw [read_learnEvent (hbehind a ha)]
    split_ifs with hat
    · obtain ⟨rfl, hin⟩ := hat
      rcases h with hle | hout | hsame
      · have hle' : evNum.toNat ≤ c.eeNumEvs.toNat := UInt8.le_iff_toNat_le.mp hle
        exact absurd ⟨3 + evNum.toNat, by omega, rfl⟩ ha
      · omega
      · exact hsame.symm
    · rfl

/-- A byte in place is no identity byte of a slot, or does not change it. -/
theorem InPlace.keepsEvents (h : c.InPlace idx evNum evVal) (hs : c.Spaced)
    (hi : idx.toNat < c.eeMaxEvents.toNat) (h0 : evNum ≠ 0) :
    c.KeepsEvents (c.eventAddress idx (3 + evNum.toUInt32)) evVal := by
  rcases h with hle | hout | hsame
  · exact keepsEvents_ev hs hi h0 hle evVal
  · intro j hj k hk _ hin
    rw [eventAddress_variable] at hin
    omega
  · intro j hj k hk _ _
    rw [eventAddress_variable]
    exact hsame

theorem Placed.learnEvent (hp : c.Placed) : (c.learnEvent idx e evNum evVal).Placed := by
  obtain ⟨hl, hb, -⟩ := c.learnEvent_toLayout idx e evNum evVal
  constructor
  · rw [hl]
    exact hp.fits
  · rw [hb, hl]
    exact hp.bytesPerEvent

/-- The variable has a byte in the sector, or the value is the one that reads beyond it give. -/
def VariableReadsBack (c : CBUSConfig) (idx evNum evVal : UInt8) : Prop :=
  c.slotByte idx (3 + evNum.toNat) < flashSectorSize ∨ evVal = 0xFF

theorem Placed.variableReadsBack (hp : c.Placed) (hi : idx.toNat < c.eeMaxEvents.toNat)
    (hev : evNum ≤ c.eeNumEvs) : c.VariableReadsBack idx evNum evVal := by
  have hle : evNum.toNat ≤ c.eeNumEvs.toNat := UInt8.le_iff_toNat_le.mp hev
  have hn := evNum.toNat_lt
  left
  rw [hp.slotByte hi (by omega)]
  exact (hp.fits.slotBase_add hi (by omega)).2

theorem getEventEVval_learnEvent_iff (h0 : evNum ≠ 0) :
    (c.learnEvent idx e evNum evVal).getEventEVval idx evNum = evVal ↔
      c.VariableReadsBack idx evNum evVal := by
  rw [getEventEVval_eq, slotByte_learnEvent, read_learnEvent (c.variableByte_ne idx h0)]
  unfold VariableReadsBack
  by_cases hin : c.slotByte idx (3 + evNum.toNat) < flashSectorSize
  · simp [hin]
  · have hout : c.flashBuf.read 0xFF (c.slotByte idx (3 + evNum.toNat)) = 0xFF := dif_neg hin
    simp [hin, hout, eq_comm]

theorem hashed_updateEvHashEntry (hlen : c.evhashtbl.length = c.eeMaxEvents.toNat)
    (hother : ∀ i < c.eeMaxEvents.toNat, i ≠ idx.toNat →
      c.hashEntry i = c.eventHash (UInt8.ofNat i)) : (c.updateEvHashEntry idx).Hashed := by
  refine ⟨(length_updateEvHashEntry c idx).trans hlen, ?_, ?_⟩
  · intro i hi
    change (c.evhashtbl.set idx.toNat (c.eventHash idx)).getD i 0 = c.eventHash (UInt8.ofNat i)
    rw [hashEntry_set c _ _ _ (hlen ▸ hi)]
    split_ifs with he
    · rw [← he, UInt8.ofNat_toNat]
    · exact hother i hi (Ne.symm he)
  · rw [exists_ne_iff_clashing]
    exact checkHashCollisions_iff _

/-- What a teach command leaves if its variable byte is in place. -/
structure Learned (c c' : CBUSConfig) (idx : UInt8) (e : EventInfo) (evNum evVal : UInt8) :
    Prop where
  hashed : c'.Hashed
  layout : c'.toLayout = c.toLayout
  slots : ∀ j < c.eeMaxEvents.toNat, c'.readEvent (UInt8.ofNat j) =
    if j = idx.toNat ∧ evNum < 2 then c.heldAs idx e else c.readEvent (UInt8.ofNat j)
  value : c'.getEventEVval idx evNum = evVal ↔ c.VariableReadsBack idx evNum evVal

theorem Hashed.learnEvent (h : c.Hashed) (hs : c.Spaced) (hi : idx.toNat < c.eeMaxEvents.toNat)
    (h0 : evNum ≠ 0) (hin : c.InPlace idx evNum evVal) :
    Learned c (c.learnEvent idx e evNum evVal) idx e evNum evVal := by
  obtain ⟨hu, hslots⟩ := hs.learnEvent_slots e h0 hi (hin.keepsEvents hs hi h0)
  let c2 := (c.identified idx e evNum).writeEventEV idx evNum evVal
  have hl : c2.toLayout = c.toLayout := congrArg Prod.fst hu
  have ht : c2.evhashtbl = c.evhashtbl := congrArg (·.2.2.1) hu
  refine ⟨?_, hl, hslots, getEventEVval_learnEvent_iff h0⟩
  change (c2.updateEvHashEntry idx).Hashed
  apply hashed_updateEvHashEntry
  · rw [ht, hl]
    exact h.allocated
  · intro j hj hji
    rw [hl] at hj
    have hread : c2.readEvent (UInt8.ofNat j) = c.readEvent (UInt8.ofNat j) :=
      (hslots j hj).trans (if_neg fun hc => hji hc.1)
    rw [eventHash_eq, hread, hashEntry, ht]
    exact h.entries j hj

theorem Learned.slot_ne {c' : CBUSConfig} (h : Learned c c' idx e evNum evVal) {j : ℕ}
    (hj : j < c.eeMaxEvents.toNat) (hne : j ≠ idx.toNat) : c'.slot j = c.slot j := by
  apply slot_congr
  exact (h.slots j hj).trans (if_neg fun hw => hne hw.1)

theorem lt_two_iff (h0 : evNum ≠ 0) : evNum < 2 ↔ evNum = 1 := by
  have h0' : evNum.toNat ≠ 0 := fun hz => h0 (UInt8.toNat_inj.mp hz)
  have h1 : (1 : UInt8).toNat = 1 := rfl
  have h2 : (2 : UInt8).toNat = 2 := rfl
  rw [UInt8.lt_iff_toNat_lt, ← UInt8.toNat_inj, h1, h2]
  omega

theorem Learned.own {c' : CBUSConfig} (h : Learned c c' idx e evNum evVal)
    (hi : idx.toNat < c.eeMaxEvents.toNat) (h0 : evNum ≠ 0) :
    c'.readEvent idx = if evNum = 1 then c.heldAs idx e else c.readEvent idx := by
  have hread := h.slots idx.toNat hi
  rw [UInt8.ofNat_toNat] at hread
  rw [hread]
  simp only [true_and, lt_two_iff h0]

theorem Learned.own_known {c' : CBUSConfig}
    (h : Learned c c' (c.learnSlot nn en) ⟨nn, en⟩ evNum evVal) (hc : c.Hashed) (h0 : evNum ≠ 0)
    (hk : c.Known ⟨nn, en⟩) : c'.readEvent (c.learnSlot nn en) = ⟨nn, en⟩ := by
  obtain ⟨hi, hs, -⟩ := hc.learnSlot_known hk
  have hread := (slot_eq_some.mp hs).1
  rw [UInt8.ofNat_toNat] at hread
  rw [h.own hi h0]
  split_ifs
  · exact heldAs_of_readEvent hread
  · exact hread

/-- After teaching a variable of the slot the event is stored exactly if it was stored before, or
if its identity bytes were written and the slot holds them, and they are not those of an unused
slot. -/
theorem Learned.known_iff {c' : CBUSConfig}
    (h : Learned c c' (c.learnSlot nn en) ⟨nn, en⟩ evNum evVal) (hc : c.Hashed)
    (hi : (c.learnSlot nn en).toNat < c.eeMaxEvents.toNat) (h0 : evNum ≠ 0) :
    c'.Known ⟨nn, en⟩ ↔ c.Known ⟨nn, en⟩ ∨
      evNum = 1 ∧ (⟨nn, en⟩ : EventInfo) ≠ evInfoUnused ∧
        c.heldAs (c.learnSlot nn en) ⟨nn, en⟩ = ⟨nn, en⟩ := by
  have hmax : c'.eeMaxEvents = c.eeMaxEvents := congrArg Layout.eeMaxEvents h.layout
  have hown := h.own hi h0
  have hslot : c'.readEvent (c.learnSlot nn en) = ⟨nn, en⟩ →
      (⟨nn, en⟩ : EventInfo) ≠ evInfoUnused → c'.Known ⟨nn, en⟩ := by
    intro hread hu
    refine ⟨(c.learnSlot nn en).toNat, hmax ▸ hi, slot_eq_some.mpr ⟨?_, hu⟩⟩
    rwa [UInt8.ofNat_toNat]
  constructor
  · rintro ⟨j, hj, hs⟩
    rw [hmax] at hj
    by_cases hji : j = (c.learnSlot nn en).toNat
    · obtain ⟨hread, hu⟩ := slot_eq_some.mp hs
      rw [hji, UInt8.ofNat_toNat, hown] at hread
      split_ifs at hread with hone
      · exact Or.inr ⟨hone, hu, hread⟩
      · refine Or.inl ⟨(c.learnSlot nn en).toNat, hi, slot_eq_some.mpr ⟨?_, hu⟩⟩
        rwa [UInt8.ofNat_toNat]
    · rw [h.slot_ne hj hji] at hs
      exact Or.inl ⟨j, hj, hs⟩
  · rintro (hk | ⟨hone, hu, hheld⟩)
    · have hread := h.own_known hc h0 hk
      obtain ⟨_, -, hs⟩ := hk
      exact hslot hread (slot_eq_some.mp hs).2
    · exact hslot (by rw [hown, if_pos hone, hheld]) hu

theorem Learned.find {c' : CBUSConfig}
    (h : Learned c c' (c.learnSlot nn en) ⟨nn, en⟩ evNum evVal) (hc : c.Hashed)
    (hi : (c.learnSlot nn en).toNat < c.eeMaxEvents.toNat) (h0 : evNum ≠ 0)
    (hk : c'.Known ⟨nn, en⟩) :
    c'.findExistingEvent nn en = c.learnSlot nn en ∧
      c'.readEvent (c.learnSlot nn en) = ⟨nn, en⟩ := by
  have hmax : c'.eeMaxEvents = c.eeMaxEvents := congrArg Layout.eeMaxEvents h.layout
  -- no slot before the one taught stores the event
  have hbefore : ∀ j < (c.learnSlot nn en).toNat, c'.slot j ≠ some ⟨nn, en⟩ := by
    intro j hj
    rw [h.slot_ne (by omega) (by omega)]
    by_cases hold : c.Known ⟨nn, en⟩
    · exact (hc.learnSlot_known hold).2.2 j hj
    · exact fun hs => hold ⟨j, by omega, hs⟩
  have hu : (⟨nn, en⟩ : EventInfo) ≠ evInfoUnused := by
    obtain ⟨_, -, hs⟩ := hk
    exact (slot_eq_some.mp hs).2
  have hread : c'.readEvent (c.learnSlot nn en) = ⟨nn, en⟩ := by
    rcases (h.known_iff hc hi h0).mp hk with hold | ⟨hone, -, hheld⟩
    · exact h.own_known hc h0 hold
    · rw [h.own hi h0, if_pos hone, hheld]
  have hown : c'.slot (c.learnSlot nn en).toNat = some ⟨nn, en⟩ := by
    rw [slot_eq_some, UInt8.ofNat_toNat]
    exact ⟨hread, hu⟩
  refine ⟨UInt8.toNat_inj.mp ?_, hread⟩
  rw [h.hashed.findExistingEvent_toNat, hmax]
  apply firstIndex_eq_of hi
  · exact decide_eq_true hown
  · intro j hj
    exact decide_eq_false (hbefore j hj)

theorem Hashed.learnSlot_ne (h : c.Hashed) (hi : (c.learnSlot nn en).toNat < c.eeMaxEvents.toNat)
    {e' : EventInfo} (hne : e' ≠ ⟨nn, en⟩) : c.slot (c.learnSlot nn en).toNat ≠ some e' := by
  intro hs
  by_cases hk : c.Known ⟨nn, en⟩
  · have hown := (h.learnSlot_known hk).2.1
    exact hne (Option.some.inj (hs.symm.trans hown))
  · have hnone := (h.learnSlot_unknown hk).2 hi
    exact absurd (hs.symm.trans hnone) (by simp)

/-- The slots of another event, unless the slot of the command reads it now. -/
theorem Learned.slot_iff {c' : CBUSConfig}
    (h : Learned c c' (c.learnSlot nn en) ⟨nn, en⟩ evNum evVal) (hc : c.Hashed)
    (hi : (c.learnSlot nn en).toNat < c.eeMaxEvents.toNat) (h0 : evNum ≠ 0) {e' : EventInfo}
    (hne : e' ≠ ⟨nn, en⟩) {j : ℕ} (hj : j < c.eeMaxEvents.toNat) :
    c'.slot j = some e' ↔ c.slot j = some e' ∨ (j = (c.learnSlot nn en).toNat ∧ evNum = 1 ∧
      e' ≠ evInfoUnused ∧ c.heldAs (c.learnSlot nn en) ⟨nn, en⟩ = e') := by
  by_cases hji : j = (c.learnSlot nn en).toNat
  · subst hji
    have hfree : c.slot (c.learnSlot nn en).toNat ≠ some e' := hc.learnSlot_ne hi hne
    rw [slot_eq_some, UInt8.ofNat_toNat, h.own hi h0]
    split_ifs with hone
    · simp only [hfree, hone, true_and, false_or]
      exact and_comm
    · simp only [hone, false_and, and_false, or_false, iff_false_right hfree]
      rintro ⟨hread, hu⟩
      exact hfree (slot_eq_some.mpr ⟨by rwa [UInt8.ofNat_toNat], hu⟩)
  · rw [h.slot_ne hj hji]
    simp only [hji, false_and, or_false]

end CBUSConfig
end CBUSPicoLib
