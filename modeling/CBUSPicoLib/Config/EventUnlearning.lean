import CBUSPicoLib.Config.EventLearning

/-!
# Removing an event from the table

`doEvuln` clears the four identity bytes of the slot that the lookup has found and
updates its hash entry. The slot is unused afterwards and nothing else is written, so
the counts and the searches of the table change at this slot only.
-/

namespace CBUSPicoLib

open TaggedTable

namespace CBUSConfig

variable {c : CBUSConfig} {idx : UInt8}

@[simp] theorem unlearnEvent_toLayout (c : CBUSConfig) (idx : UInt8) :
    (c.unlearnEvent idx).toLayout = c.toLayout :=
  congrArg Prod.fst (c.writeEvent_eventRam idx evInfoUnused true)

theorem Placed.unlearnEvent (hp : c.Placed) : (c.unlearnEvent idx).Placed := by
  have h := hp.of_eventRam (c.writeEvent_eventRam idx evInfoUnused true)
  exact ⟨h.fits, h.bytesPerEvent⟩

theorem slotByte_unlearnEvent (c : CBUSConfig) (idx : UInt8) :
    (c.unlearnEvent idx).slotByte = c.slotByte := by
  change (c.clearEventEEPROM idx).slotByte = c.slotByte
  exact slotByte_congr (c.writeEvent_eventRam idx evInfoUnused true)

theorem read_unlearnEvent_ne {a : ℕ} (ha : ∀ k < 4, a ≠ c.slotByte idx k) :
    (c.unlearnEvent idx).flashBuf.read 0xFF a = c.flashBuf.read 0xFF a :=
  read_writeEvent_ne true ha

theorem readEvent_updateEvHashEntry (c : CBUSConfig) (idx j : UInt8) :
    (c.updateEvHashEntry idx).readEvent j = c.readEvent j := rfl

theorem Spaced.readEvent_unlearnEvent (hs : c.Spaced) (hi : idx.toNat < c.eeMaxEvents.toNat)
    {j : ℕ} (hj : j < c.eeMaxEvents.toNat) : (c.unlearnEvent idx).readEvent (UInt8.ofNat j) =
      if j = idx.toNat then evInfoUnused else c.readEvent (UInt8.ofNat j) := by
  change ((c.writeEvent idx evInfoUnused).updateEvHashEntry idx).readEvent (UInt8.ofNat j) = _
  rw [readEvent_updateEvHashEntry]
  have hidx : (UInt8.ofNat j).toNat = j := toNat_ofNat_index hj
  by_cases hji : j = idx.toNat
  · rw [if_pos hji, hji, UInt8.ofNat_toNat]
    rw [readEvent_writeEvent, heldAs_evInfoUnused]
  · rw [if_neg hji]
    have hne : UInt8.ofNat j ≠ idx := fun he => hji (hidx.symm.trans (congrArg UInt8.toNat he))
    exact hs.readEvent_writeEvent_ne hi (by rwa [hidx]) hne _

theorem Spaced.slot_unlearnEvent (hs : c.Spaced) (hi : idx.toNat < c.eeMaxEvents.toNat) {j : ℕ}
    (hj : j < c.eeMaxEvents.toNat) :
    (c.unlearnEvent idx).slot j = if j = idx.toNat then none else c.slot j := by
  have hread := hs.readEvent_unlearnEvent hi hj
  by_cases hji : j = idx.toNat
  · rw [if_pos hji] at hread ⊢
    exact slot_eq_none.mpr hread
  · rw [if_neg hji] at hread ⊢
    exact slot_congr hread

theorem Spaced.getEventEVval_unlearnEvent (hs : c.Spaced) (hi : idx.toNat < c.eeMaxEvents.toNat)
    {j k : UInt8} (hj : j.toNat < c.eeMaxEvents.toNat) (hne : j ≠ idx) (hk : k ≤ c.eeNumEvs) :
    (c.unlearnEvent idx).getEventEVval j k = c.getEventEVval j k := by
  have hk' : k.toNat ≤ c.eeNumEvs.toNat := UInt8.le_iff_toNat_le.mp hk
  rw [getEventEVval_eq, getEventEVval_eq, slotByte_unlearnEvent]
  apply read_unlearnEvent_ne
  intro m hm
  exact hs.slotByte_ne hj hi hne (by omega) (by omega)

theorem Hashed.numEvents_toNat (h : c.Hashed) :
    c.numEvents.toNat = occupied c.eeMaxEvents.toNat c.slot := by
  have hle := occupied_le c.eeMaxEvents.toNat c.slot
  have hmax := c.eeMaxEvents.toNat_lt
  have hcount : (List.range c.eeMaxEvents.toNat).countP (fun i => c.hashEntry i != 0) =
      occupied c.eeMaxEvents.toNat c.slot := by
    apply List.countP_congr
    intro i hi
    rw [h.describes i (List.mem_range.mp hi)]
    cases c.slot i with
    | none => simp
    | some e => simp [makeHash_ne_zero]
  unfold numEvents
  rw [hcount, UInt8.toNat_ofNat', Nat.mod_eq_of_lt (by omega)]

theorem Hashed.getEvTableEntry_eq_zero_iff (h : c.Hashed) (hi : idx.toNat < c.eeMaxEvents.toNat) :
    c.getEvTableEntry idx = 0 ↔ c.slot idx.toNat = none := by
  unfold getEvTableEntry
  rw [if_pos (UInt8.lt_iff_toNat_lt.mpr hi), h.describes idx.toNat hi]
  cases c.slot idx.toNat with
  | none => simp
  | some e => simp [makeHash_ne_zero]

/-- The same for a slot number, as the loops over the table compute its entry. -/
theorem Hashed.getEvTableEntry_ofNat (h : c.Hashed) {i : ℕ} (hi : i < c.eeMaxEvents.toNat) :
    c.getEvTableEntry (UInt8.ofNat i) = 0 ↔ c.slot i = none := by
  have hidx : (UInt8.ofNat i).toNat = i := toNat_ofNat_index hi
  have hentry := @Hashed.getEvTableEntry_eq_zero_iff c (UInt8.ofNat i) h (by rwa [hidx])
  rwa [hidx] at hentry

/-- The search for a free slot ends at this one exactly if it is free and all before it are used. -/
theorem Hashed.findEventSpace_eq_iff (h : c.Hashed) (hi : idx.toNat < c.eeMaxEvents.toNat) :
    c.findEventSpace = idx ↔ c.slot idx.toNat = none ∧ ∀ j < idx.toNat, c.slot j ≠ none := by
  have hspace := h.findEventSpace_toNat
  constructor
  · intro he
    rw [he] at hspace
    constructor
    · rw [hspace]
      exact of_decide_eq_true (firstIndex_spec (hspace ▸ hi))
    · intro j hj
      exact of_decide_eq_false (not_of_lt_firstIndex (hspace ▸ hj))
  · rintro ⟨hfree, hused⟩
    apply UInt8.toNat_inj.mp
    rw [hspace]
    apply firstIndex_eq_of hi
    · exact decide_eq_true hfree
    · intro j hj
      exact decide_eq_false (hused j hj)

theorem Coherent.distinct_slot (h : c.Coherent) : Distinct c.eeMaxEvents.toNat c.slot :=
  (c.coherent_iff.mp h).2.2.2

variable {nn en : UInt16}

theorem Coherent.find_unlearnEvent (h : c.Coherent) (hs : c.Spaced) (hk : c.Known ⟨nn, en⟩) :
    (c.unlearnEvent (c.findExistingEvent nn en)).findExistingEvent nn en = c.eeMaxEvents := by
  have hi := h.hashed.find_lt_iff.mpr hk
  have hown := h.hashed.slot_find hk
  have hc : (c.unlearnEvent (c.findExistingEvent nn en)).Coherent := h.clearEvent hs hi
  apply UInt8.toNat_inj.mp
  rw [hc.findExistingEvent_toNat, unlearnEvent_toLayout]
  apply firstIndex_eq_self
  intro j hj
  rw [hs.slot_unlearnEvent hi hj]
  split_ifs with hji
  · rfl
  · -- another slot does not store the event, since no event is stored twice
    refine decide_eq_false fun hsj => hji ?_
    exact h.distinct_slot j hj _ hi _ hsj hown

theorem Coherent.find_unlearnEvent_ne (h : c.Coherent) (hs : c.Spaced) (hk : c.Known ⟨nn, en⟩)
    {nn' en' : UInt16} (hne : (⟨nn', en'⟩ : EventInfo) ≠ ⟨nn, en⟩) :
    (c.unlearnEvent (c.findExistingEvent nn en)).findExistingEvent nn' en' =
      c.findExistingEvent nn' en' := by
  have hi := h.hashed.find_lt_iff.mpr hk
  have hown := h.hashed.slot_find hk
  have hc : (c.unlearnEvent (c.findExistingEvent nn en)).Coherent := h.clearEvent hs hi
  apply UInt8.toNat_inj.mp
  rw [hc.findExistingEvent_toNat, h.findExistingEvent_toNat, unlearnEvent_toLayout]
  apply firstIndex_congr
  intro j hj
  rw [hs.slot_unlearnEvent hi hj]
  by_cases hji : j = (c.findExistingEvent nn en).toNat
  · have hother : c.slot j ≠ some ⟨nn', en'⟩ := by
      rw [hji, hown]
      exact fun he => hne (Option.some.inj he).symm
    rw [if_pos hji, decide_eq_false hother]
    rfl
  · rw [if_neg hji]

theorem Coherent.numEvents_unlearnEvent (h : c.Coherent) (hs : c.Spaced)
    (hk : c.Known ⟨nn, en⟩) :
    (c.unlearnEvent (c.findExistingEvent nn en)).numEvents.toNat + 1 = c.numEvents.toNat := by
  have hi := h.hashed.find_lt_iff.mpr hk
  have hc : (c.unlearnEvent (c.findExistingEvent nn en)).Coherent := h.clearEvent hs hi
  rw [hc.hashed.numEvents_toNat, h.hashed.numEvents_toNat, unlearnEvent_toLayout]
  apply occupied_free hi (h.hashed.slot_find hk)
  intro j hj
  exact hs.slot_unlearnEvent hi hj

theorem not_known_evInfoUnused (c : CBUSConfig) : ¬ c.Known evInfoUnused := by
  rintro ⟨j, -, hs⟩
  exact (slot_eq_some.mp hs).2 rfl

end CBUSConfig
end CBUSPicoLib
