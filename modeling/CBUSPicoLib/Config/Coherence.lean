import CBUSPicoLib.Config.Layout

/-!
# How the event commands keep storage and hash table coherent

One lemma for each way the module touches the event table: an entry updated
after its slot was written, the whole table cleared, the table rebuilt, and a
byte written elsewhere. What the writes must respect is in `KeepsEvents`: the
byte lands on no identity byte of a slot, or does not change it.
-/

namespace CBUSPicoLib

open TaggedTable

namespace CBUSConfig

/-- Writing `v` at address `a` changes no identity byte of any event slot. -/
def KeepsEvents (c : CBUSConfig) (a : UInt32) (v : UInt8) : Prop :=
  ∀ i < c.eeMaxEvents.toNat, ∀ k < 4, a.toNat = c.slotByte (UInt8.ofNat i) k →
    a.toNat < flashSectorSize → c.flashBuf.read 0xFF a.toNat = v

/-- The loops of the source visit `idx` as a byte; below `EE_MAX_EVENTS` that is
no restriction. -/
@[simp] theorem toNat_ofNat_index {c : CBUSConfig} {i : ℕ} (hi : i < c.eeMaxEvents.toNat) :
    (UInt8.ofNat i).toNat = i := by
  have := c.eeMaxEvents.toNat_lt
  rw [UInt8.toNat_ofNat', Nat.mod_eq_of_lt (by omega)]

theorem hashEntry_set (c : CBUSConfig) (idx i : ℕ) (v : UInt8) (hi : i < c.evhashtbl.length) :
    (c.evhashtbl.set idx v).getD i 0 = if idx = i then v else c.hashEntry i := by
  simp only [hashEntry, List.getD_eq_getElem?_getD, List.getElem?_set]
  split_ifs <;> simp_all

theorem Coherent.congr {c c' : CBUSConfig} (h : c.Coherent) (hu : c'.eventRam = c.eventRam)
    (hev : ∀ i < c.eeMaxEvents.toNat,
      c'.readEvent (UInt8.ofNat i) = c.readEvent (UInt8.ofNat i)) : c'.Coherent := by
  have hl : c'.toLayout = c.toLayout := congrArg Prod.fst hu
  have ht : c'.evhashtbl = c.evhashtbl := congrArg (·.2.2.1) hu
  have hb : c'.bHashCollisions = c.bHashCollisions := congrArg (·.2.2.2) hu
  have he : c'.hashEntry = c.hashEntry := by
    funext i
    simp only [hashEntry, ht]
  refine ⟨?_, ?_, ?_, ?_, ?_⟩
  · rw [ht, hl]
    exact h.allocated
  · intro i hi
    rw [hl] at hi
    rw [he, hev i hi]
    exact h.unused i hi
  · intro i hi
    rw [hl] at hi
    rw [he, hev i hi]
    exact h.used i hi
  · rw [hb, he, hl]
    exact h.collisions
  · intro i hi j hj
    rw [hl] at hi hj
    rw [hev i hi, hev j hj]
    exact h.distinct i hi j hj

theorem Coherent.writeEEPROM {c : CBUSConfig} (h : c.Coherent) {a : UInt32} {v : UInt8} {f : Bool}
    (hk : c.KeepsEvents a v) : (c.writeEEPROM a v f).Coherent := by
  apply h.congr (c.writeEEPROM_eventRam a v f)
  intro i hi
  exact readEvent_writeEEPROM f (hk i hi)

/-- Updating one entry restores coherence after a write to its slot, if the
other entries were right and the stored events are distinct. -/
theorem coherent_updateEvHashEntry {c : CBUSConfig} {idx : UInt8}
    (hlen : c.evhashtbl.length = c.eeMaxEvents.toNat)
    (hother : ∀ i < c.eeMaxEvents.toNat, i ≠ idx.toNat →
      c.hashEntry i = c.eventHash (UInt8.ofNat i))
    (hdist : Distinct c.eeMaxEvents.toNat c.slot) : (c.updateEvHashEntry idx).Coherent := by
  rw [coherent_iff]
  refine ⟨?_, ?_, rfl, hdist⟩
  · exact (length_updateEvHashEntry c idx).trans hlen
  · intro i hi
    change (c.evhashtbl.set idx.toNat (c.eventHash idx)).getD i 0 = (c.slot i).elim 0 makeHash
    rw [hashEntry_set c _ _ _ (hlen ▸ hi), ← eventHash_eq_elim]
    split_ifs with he
    · rw [← he, UInt8.ofNat_toNat]
    · exact hother i hi (Ne.symm he)

theorem makeEvHashTable_hashEntry (c : CBUSConfig) {i : ℕ} (hi : i < c.eeMaxEvents.toNat) :
    c.makeEvHashTable.hashEntry i = c.eventHash (UInt8.ofNat i) := by
  change (((List.range c.eeMaxEvents.toNat).map fun idx => c.eventHash (UInt8.ofNat idx)).getD
    i 0) = c.eventHash (UInt8.ofNat i)
  simp [hi]

/-- The rebuilt table is coherent with any image that stores no event twice. -/
theorem coherent_makeEvHashTable {c : CBUSConfig}
    (hdist : Distinct c.eeMaxEvents.toNat c.slot) : c.makeEvHashTable.Coherent := by
  rw [coherent_iff]
  refine ⟨?_, ?_, rfl, hdist⟩
  · exact length_makeEvHashTable c
  · intro i hi
    rw [makeEvHashTable_hashEntry c hi, eventHash_eq_elim]
    rfl

/-- A table of zero entries is coherent with an image whose slots are all unused. -/
theorem coherent_clearEvHashTable {c : CBUSConfig}
    (hall : ∀ i < c.eeMaxEvents.toNat, c.readEvent (UInt8.ofNat i) = evInfoUnused) :
    c.clearEvHashTable.Coherent := by
  have hnone : ∀ i < c.eeMaxEvents.toNat, c.slot i = none := fun i hi =>
    slot_eq_none.mpr (hall i hi)
  have hzero : ∀ i, c.clearEvHashTable.hashEntry i = 0 := by
    intro i
    simp [hashEntry, clearEvHashTable, List.getD_eq_getElem?_getD, List.getElem?_replicate]
    split_ifs <;> rfl
  rw [coherent_iff]
  refine ⟨by simp [clearEvHashTable], ?_, ?_, ?_⟩
  · intro i hi
    rw [hzero]
    change 0 = (c.slot i).elim 0 makeHash
    rw [hnone i hi]
    rfl
  · refine (Bool.eq_false_iff.mpr fun ht => ?_).symm
    obtain ⟨i, -, j, -, -, -, hz⟩ := (checkHashCollisions_iff _).mp ht
    exact hz (hzero i)
  · intro i hi j hj k hk
    change c.slot i = some k at hk
    simp [hnone i hi] at hk

theorem read_clearEventEEPROM (c : CBUSConfig) (idx : UInt8) (f : Bool) (a : ℕ) :
    (c.clearEventEEPROM idx f).flashBuf.read 0xFF a =
      if a ∈ c.identityBytes idx then 0xFF else c.flashBuf.read 0xFF a := by
  rw [clearEventEEPROM_eq]
  split_ifs with ha
  · obtain ⟨k, hk, rfl⟩ := mem_identityBytes.mp ha
    rw [read_writeEvent_slotByte f hk, byte_evInfoUnused, ite_self]
  · exact read_writeEvent_ne f fun k hk he => ha (mem_identityBytes.mpr ⟨k, hk, he.symm⟩)

/-- Clearing the slots one by one erases their identity bytes and nothing else. -/
theorem foldl_clearEventEEPROM (c : CBUSConfig) (n : ℕ) :
    let c' := (List.range n).foldl (fun c e => c.clearEventEEPROM (UInt8.ofNat e) false) c
    c'.eventRam = c.eventRam ∧ ∀ a, c'.flashBuf.read 0xFF a =
      if ∃ i < n, a ∈ c.identityBytes (UInt8.ofNat i) then 0xFF else c.flashBuf.read 0xFF a := by
  induction n with
  | zero => exact ⟨rfl, fun a => by simp⟩
  | succ n ih =>
    obtain ⟨hu, hr⟩ := ih
    simp only [List.range_succ, List.foldl_append, List.foldl_cons, List.foldl_nil]
    generalize (List.range n).foldl (fun c e => c.clearEventEEPROM (UInt8.ofNat e) false) c = d
      at hu hr
    refine ⟨(writeEvent_eventRam _ _ _ _).trans hu, fun a => ?_⟩
    rw [read_clearEventEEPROM, hr, identityBytes, slotByte_congr hu]
    change (if a ∈ c.identityBytes _ then _ else _) = _
    simp only [Nat.lt_succ_iff_lt_or_eq, or_and_right, exists_or, exists_eq_left]
    by_cases hn : a ∈ c.identityBytes (UInt8.ofNat n)
    · rw [if_pos hn, if_pos (Or.inr hn)]
    · simp only [hn, if_false, or_false]

@[simp] theorem commitChanges_readEvent (c : CBUSConfig) (idx : UInt8) :
    c.commitChanges.readEvent idx = c.readEvent idx := by
  apply readEvent_congr c.commitChanges_eventRam
  intro k _
  rw [commitChanges_flashBuf]

theorem clearEventsEEPROM_eventRam (c : CBUSConfig) :
    c.clearEventsEEPROM.eventRam = c.eventRam :=
  (commitChanges_eventRam _).trans (c.foldl_clearEventEEPROM _).1

theorem read_clearEventsEEPROM (c : CBUSConfig) (a : ℕ) :
    c.clearEventsEEPROM.flashBuf.read 0xFF a =
      if ∃ i < c.eeMaxEvents.toNat, a ∈ c.identityBytes (UInt8.ofNat i) then 0xFF
      else c.flashBuf.read 0xFF a := by
  rw [clearEventsEEPROM_eq, commitChanges_flashBuf]
  exact (c.foldl_clearEventEEPROM _).2 a

/-- Wherever the slots lie, clearing the events leaves all of them unused. -/
theorem clearEventsEEPROM_spec (c : CBUSConfig) :
    c.clearEventsEEPROM.eventRam = c.eventRam ∧ ∀ i < c.eeMaxEvents.toNat,
      c.clearEventsEEPROM.readEvent (UInt8.ofNat i) = evInfoUnused := by
  refine ⟨c.clearEventsEEPROM_eventRam, fun i hi => ?_⟩
  rw [readEvent_eq_unused_iff, slotByte_congr c.clearEventsEEPROM_eventRam]
  intro k hk
  rw [read_clearEventsEEPROM, if_pos ⟨i, hi, mem_identityBytes.mpr ⟨k, hk, rfl⟩⟩]

theorem coherent_clearEvents (c : CBUSConfig) : c.clearEventsEEPROM.clearEvHashTable.Coherent := by
  obtain ⟨hu, hr⟩ := c.clearEventsEEPROM_spec
  have hl : c.clearEventsEEPROM.toLayout = c.toLayout := congrArg Prod.fst hu
  apply coherent_clearEvHashTable
  intro i hi
  exact hr i (hl ▸ hi)

theorem Coherent.rehash {c c2 : CBUSConfig} (h : c.Coherent) (hu : c2.eventRam = c.eventRam)
    {e : EventInfo} {idx : UInt8}
    (hother : ∀ j < c.eeMaxEvents.toNat, j ≠ idx.toNat →
      c2.readEvent (UInt8.ofNat j) = c.readEvent (UInt8.ofNat j))
    (hown : c2.readEvent idx = e ∨ c2.readEvent idx = c.readEvent idx)
    (hfree : ∀ j < c.eeMaxEvents.toNat, j ≠ idx.toNat → c.slot j ≠ some e) :
    (c2.updateEvHashEntry idx).Coherent := by
  obtain ⟨hlen, hd, -, hdist⟩ := c.coherent_iff.mp h
  have hl : c2.toLayout = c.toLayout := congrArg Prod.fst hu
  have ht : c2.evhashtbl = c.evhashtbl := congrArg (·.2.2.1) hu
  have hidx : UInt8.ofNat idx.toNat = idx := UInt8.ofNat_toNat
  apply coherent_updateEvHashEntry
  · rw [ht, hl]
    exact hlen
  · intro j hj hji
    rw [hl] at hj
    rw [hashEntry, ht, eventHash_eq, hother j hj hji]
    exact (hd j hj).trans (c.eventHash_eq_elim j).symm
  · rw [hl]
    have hsame : ∀ j < c.eeMaxEvents.toNat, j ≠ idx.toNat → c2.slot j = c.slot j := by
      intro j hj hji
      exact slot_congr (hother j hj hji)
    by_cases hs : c2.slot idx.toNat = some e
    · exact hdist.set hfree hs hsame
    · apply hdist.of_imp
      intro j hj k hjk
      by_cases hji : j = idx.toNat
      · subst hji
        rw [slot_eq_some, hidx] at hs hjk
        rcases hown with ho | ho
        · exact absurd ⟨ho, fun hz => hjk.2 (hjk.1.symm.trans (ho.trans hz))⟩ hs
        · rw [slot_eq_some, hidx]
          exact ⟨ho.symm.trans hjk.1, hjk.2⟩
      · rwa [hsame j hj hji] at hjk

theorem Coherent.clearEvent {c : CBUSConfig} (h : c.Coherent) (hs : c.Spaced) {idx : UInt8}
    (hi : idx.toNat < c.eeMaxEvents.toNat) :
    ((c.clearEventEEPROM idx).updateEvHashEntry idx).Coherent := by
  have hother : ∀ j < c.eeMaxEvents.toNat, j ≠ idx.toNat →
      (c.clearEventEEPROM idx).readEvent (UInt8.ofNat j) = c.readEvent (UInt8.ofNat j) := by
    intro j hj hji
    have hidx : (UInt8.ofNat j).toNat = j := toNat_ofNat_index hj
    exact hs.readEvent_writeEvent_ne hi (by rwa [hidx]) (fun he => hji (by rw [← he, hidx])) true
  have hunused : (c.clearEventEEPROM idx).readEvent idx = evInfoUnused :=
    (readEvent_writeEvent true).trans (c.heldAs_evInfoUnused idx)
  exact h.rehash (c.writeEvent_eventRam idx _ true) hother (Or.inl hunused)
    fun j _ _ hs => (slot_eq_some.mp hs).2 rfl

/-- The slot that `EVLRN` uses is the only one that may hold the event already. -/
theorem Coherent.learnSlot_other {c : CBUSConfig} (h : c.Coherent) {nn en : UInt16} {j : ℕ}
    (hj : j < c.eeMaxEvents.toNat) (hne : j ≠ (c.learnSlot nn en).toNat) :
    c.slot j ≠ some ⟨nn, en⟩ := by
  intro hs
  apply hne
  have hfind := h.findExistingEvent_toNat nn en
  have hlt : firstIndex c.eeMaxEvents.toNat (fun i => decide (c.slot i = some ⟨nn, en⟩)) <
      c.eeMaxEvents.toNat := firstIndex_lt_iff.mpr ⟨j, hj, by simpa using hs⟩
  have hcand := firstIndex_spec hlt
  simp only [decide_eq_true_eq] at hcand
  have hlearn : c.learnSlot nn en = c.findExistingEvent nn en := by
    rw [learnSlot_eq, if_pos (by rw [hfind]; exact hlt)]
  rw [hlearn, hfind]
  obtain ⟨-, -, -, hdist⟩ := c.coherent_iff.mp h
  exact hdist j hj _ hlt _ hs hcand

/-- A write to one of the event variables of a slot leaves the events alone. -/
theorem keepsEvents_ev {c : CBUSConfig} (hs : c.Spaced) {idx evNum : UInt8}
    (hi : idx.toNat < c.eeMaxEvents.toNat) (h0 : evNum ≠ 0) (hev : evNum ≤ c.eeNumEvs)
    (v : UInt8) : c.KeepsEvents (c.eventAddress idx (3 + evNum.toUInt32)) v := by
  intro j hj k hk ha _
  have h0' : evNum.toNat ≠ 0 := fun h => h0 (UInt8.toNat_inj.mp h)
  have hev' : evNum.toNat ≤ c.eeNumEvs.toNat := UInt8.le_iff_toNat_le.mp hev
  have hn := evNum.toNat_lt
  have hidx : (UInt8.ofNat j).toNat = j := toNat_ofNat_index hj
  rw [eventAddress_variable] at ha
  exfalso
  by_cases hij : idx = UInt8.ofNat j
  · rw [← hij] at ha
    have hsame := c.slotByte_inj idx (by omega) (by omega) ha
    omega
  · exact hs.slotByte_ne hi (by rwa [hidx]) hij (by omega) (by omega) ha

/-- The state of `learnEvent` once the identity bytes are written. -/
def identified (c : CBUSConfig) (idx : UInt8) (e : EventInfo) (evNum : UInt8) : CBUSConfig :=
  if evNum < 2 then c.writeEvent idx e else c

@[simp] theorem identified_eventRam (c : CBUSConfig) (idx : UInt8) (e : EventInfo)
    (evNum : UInt8) : (c.identified idx e evNum).eventRam = c.eventRam := by
  unfold identified
  split_ifs
  · exact writeEvent_eventRam _ _ _ _
  · rfl

theorem read_identified {c : CBUSConfig} {idx : UInt8} (e : EventInfo) (evNum : UInt8) {a : ℕ}
    (ha : ∀ k < 4, a ≠ c.slotByte idx k) :
    (c.identified idx e evNum).flashBuf.read 0xFF a = c.flashBuf.read 0xFF a := by
  unfold identified
  split_ifs
  · exact read_writeEvent_ne true ha
  · rfl

theorem variableByte_ne (c : CBUSConfig) (idx : UInt8) {evNum : UInt8} (h0 : evNum ≠ 0) :
    ∀ k < 4, c.slotByte idx (3 + evNum.toNat) ≠ c.slotByte idx k := by
  intro k hk he
  have h0' : evNum.toNat ≠ 0 := fun hz => h0 (UInt8.toNat_inj.mp hz)
  have hn := evNum.toNat_lt
  have hsame := c.slotByte_inj idx (by omega) (by omega) he
  omega

theorem Spaced.readEvent_identified {c : CBUSConfig} (hs : c.Spaced) {idx : UInt8}
    (hi : idx.toNat < c.eeMaxEvents.toNat) (e : EventInfo) (evNum : UInt8) {j : ℕ}
    (hj : j < c.eeMaxEvents.toNat) : (c.identified idx e evNum).readEvent (UInt8.ofNat j) =
      if j = idx.toNat ∧ evNum < 2 then c.heldAs idx e else c.readEvent (UInt8.ofNat j) := by
  have hidx : (UInt8.ofNat j).toNat = j := toNat_ofNat_index hj
  unfold identified
  by_cases hfirst : evNum < 2
  · rw [if_pos hfirst]
    by_cases hji : j = idx.toNat
    · rw [if_pos ⟨hji, hfirst⟩, hji, UInt8.ofNat_toNat]
      exact readEvent_writeEvent true
    · rw [if_neg fun hc => hji hc.1]
      exact hs.readEvent_writeEvent_ne hi (by rwa [hidx]) (fun he => hji (by rw [← he, hidx])) true
  · rw [if_neg hfirst, if_neg fun hc => hfirst hc.2]

/-- Writing the identity bytes and a variable byte of one slot: the other slots keep their events,
and this one has the bytes of the new event if its first variable is written. -/
theorem Spaced.learnEvent_slots {c : CBUSConfig} (hs : c.Spaced) (e : EventInfo) {idx : UInt8}
    {evNum evVal : UInt8} (hev : evNum ≠ 0) (hi : idx.toNat < c.eeMaxEvents.toNat)
    (hk : c.KeepsEvents (c.eventAddress idx (3 + evNum.toUInt32)) evVal) :
    let c2 := (c.identified idx e evNum).writeEventEV idx evNum evVal
    c2.eventRam = c.eventRam ∧
      ∀ j < c.eeMaxEvents.toNat, c2.readEvent (UInt8.ofNat j) =
        if j = idx.toNat ∧ evNum < 2 then c.heldAs idx e else c.readEvent (UInt8.ofNat j) := by
  intro c2
  let c1 := c.identified idx e evNum
  have hu1 : c1.eventRam = c.eventRam := c.identified_eventRam idx e evNum
  refine ⟨(writeEventEV_eventRam _ _ _ _).trans hu1, ?_⟩
  intro j hj
  rw [← hs.readEvent_identified hi e evNum hj]
  apply readEvent_writeEEPROM true
  intro k hk4 ha hin
  change (c1.eventAddress idx (3 + evNum.toUInt32)).toNat = c1.slotByte (UInt8.ofNat j) k at ha
  change (c1.eventAddress idx (3 + evNum.toUInt32)).toNat < flashSectorSize at hin
  change c1.flashBuf.read 0xFF (c1.eventAddress idx (3 + evNum.toUInt32)).toNat = evVal
  rw [eventAddress_variable, slotByte_congr hu1] at ha hin ⊢
  rw [read_identified e evNum (c.variableByte_ne idx hev)]
  rw [← eventAddress_variable] at ha hin ⊢
  exact hk j hj k hk4 ha hin

/-- `EVLRN`: storing the event and the variable byte in the slot found for it. -/
theorem Coherent.learnEvent {c : CBUSConfig} (h : c.Coherent) (hp : c.Placed)
    {nn en : UInt16} {evNum evVal : UInt8} (hev : evNum ≠ 0)
    (hi : (c.learnSlot nn en).toNat < c.eeMaxEvents.toNat)
    (hk : c.KeepsEvents (c.eventAddress (c.learnSlot nn en) (3 + evNum.toUInt32)) evVal) :
    (c.learnEvent (c.learnSlot nn en) ⟨nn, en⟩ evNum evVal).Coherent := by
  obtain ⟨hu, hslots⟩ := hp.spaced.learnEvent_slots ⟨nn, en⟩ hev hi hk
  rw [hp.heldAs hi] at hslots
  refine h.rehash hu ?_ ?_ fun j hj hne => h.learnSlot_other hj hne
  · intro j hj hji
    rw [hslots j hj, if_neg fun hc => hji hc.1]
  · have hown := hslots _ hi
    rw [UInt8.ofNat_toNat] at hown
    rw [hown]
    split_ifs
    · exact Or.inl rfl
    · exact Or.inr rfl

end CBUSConfig
end CBUSPicoLib
