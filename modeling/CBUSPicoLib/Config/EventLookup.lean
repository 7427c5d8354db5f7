import CBUSPicoLib.Config.Identity

/-!
# The loops of the event lookup

`findExistingEvent` scans the hash table, counts how often the hash occurs, and then
either checks one candidate or scans again, with the loop variable of the first
scan, comparing the stored events. The loops are kept here as the source has them
and shown to compute the least slot that stores the event.
-/

namespace CBUSPicoLib

open TaggedTable

namespace CBUSConfig

/-- A loop variable below `EE_MAX_EVENTS` is incremented without wrapping. -/
theorem toNat_succ_index {c : CBUSConfig} {i : UInt8} (h : i < c.eeMaxEvents) :
    (i + 1).toNat = i.toNat + 1 := by
  have hmax := c.eeMaxEvents.toNat_lt
  have hlt := UInt8.lt_iff_toNat_lt.mp h
  rw [UInt8.toNat_add]
  exact Nat.mod_eq_of_lt (by simp; omega)

theorem sub_succ_index_lt {c : CBUSConfig} {i : UInt8} (h : i < c.eeMaxEvents) :
    c.eeMaxEvents.toNat - (i + 1).toNat < c.eeMaxEvents.toNat - i.toNat := by
  have hlt := UInt8.lt_iff_toNat_lt.mp h
  rw [toNat_succ_index h]
  omega

section Loops

variable (c : CBUSConfig) (nn en : UInt16) (tmphash : UInt8)

/-- The loop that counts in `matches` how often the hash occurs. -/
def countMatches (j count : UInt8) : UInt8 :=
  if h : j < c.eeMaxEvents then
    countMatches (j + 1) (if c.hashEntry j.toNat = tmphash then count + 1 else count)
  else count
termination_by c.eeMaxEvents.toNat - j.toNat
decreasing_by exact sub_succ_index_lt h

/-- The very slow way: the inner loop over `i`, and whether it has confirmed the event. -/
def searchStorage (i : UInt8) : UInt8 × Bool :=
  if h : i < c.eeMaxEvents then
    if c.hashEntry i.toNat = tmphash ∧ (c.readEvent i).nodeNumber = nn ∧
        (c.readEvent i).eventNumber = en then (i, true)
    else searchStorage (i + 1)
  else (i, false)
termination_by c.eeMaxEvents.toNat - i.toNat
decreasing_by exact sub_succ_index_lt h

/-- The outer loop over `i`; it is left at the first slot with this hash. -/
def searchTable (i : UInt8) : UInt8 × Bool :=
  if h : i < c.eeMaxEvents then
    if c.hashEntry i.toNat = tmphash then
      if !c.bHashCollisions then (i, false)
      else if 1 < c.countMatches tmphash 0 0 then c.searchStorage nn en tmphash 0
      else (i, false)
    else searchTable (i + 1)
  else (i, false)
termination_by c.eeMaxEvents.toNat - i.toNat
decreasing_by exact sub_succ_index_lt h

def findExistingEventLoop : UInt8 :=
  let (i, confirmed) := c.searchTable nn en (makeHash ⟨nn, en⟩) 0
  if i < c.eeMaxEvents ∧ !confirmed then
    if (c.readEvent i).nodeNumber = nn ∧ (c.readEvent i).eventNumber = en then i
    else c.eeMaxEvents
  else i

end Loops

theorem eventInfo_eq_iff {e : EventInfo} {nn en : UInt16} :
    e = ⟨nn, en⟩ ↔ e.nodeNumber = nn ∧ e.eventNumber = en := by
  cases e
  rw [EventInfo.mk.injEq]

theorem toNat_countMatches (c : CBUSConfig) (tmphash j count : UInt8)
    (hj : j.toNat ≤ c.eeMaxEvents.toNat)
    (hcount : count.toNat = (List.range j.toNat).countP fun k => c.hashEntry k = tmphash) :
    (c.countMatches tmphash j count).toNat =
      (List.range c.eeMaxEvents.toNat).countP fun k => c.hashEntry k = tmphash := by
  induction j, count using countMatches.induct c tmphash with
  | case1 j count h ih =>
    have hlt := UInt8.lt_iff_toNat_lt.mp h
    rw [countMatches, dif_pos h]
    apply ih
    · rw [toNat_succ_index h]
      omega
    · have hle : count.toNat ≤ j.toNat := by
        rw [hcount]
        exact List.countP_le_length.trans_eq List.length_range
      have hmax := c.eeMaxEvents.toNat_lt
      rw [toNat_succ_index h, List.range_succ, List.countP_append, ← hcount]
      split_ifs with he
      · rw [UInt8.toNat_add]
        simp [he]
        omega
      · simp [he]
  | case2 j count h =>
    have hle : j.toNat = c.eeMaxEvents.toNat := by
      have := mt UInt8.lt_iff_toNat_lt.mpr h
      omega
    rw [countMatches, dif_neg h, hcount, hle]

/-- The scan of the storage ends at the least slot with this hash and this event, which
it has confirmed, or at the end of the table. -/
theorem searchStorage_eq (c : CBUSConfig) (nn en : UInt16) (tmphash i : UInt8)
    (hi : i.toNat ≤ c.eeMaxEvents.toNat)
    (hbefore : ∀ j < i.toNat,
      ¬ (c.hashEntry j = tmphash ∧ c.readEvent (UInt8.ofNat j) = ⟨nn, en⟩)) :
    let k := firstIndex c.eeMaxEvents.toNat fun j =>
      c.hashEntry j = tmphash ∧ c.readEvent (UInt8.ofNat j) = ⟨nn, en⟩
    c.searchStorage nn en tmphash i = (UInt8.ofNat k, decide (k < c.eeMaxEvents.toNat)) := by
  intro k
  induction i using searchStorage.induct c nn en tmphash with
  | case1 i h hmatch =>
    have hlt := UInt8.lt_iff_toNat_lt.mp h
    have hk : k = i.toNat := by
      apply firstIndex_eq_of hlt
      · simpa [eventInfo_eq_iff] using hmatch
      · intro j hj
        exact decide_eq_false (hbefore j hj)
    rw [searchStorage, dif_pos h, if_pos hmatch, hk, UInt8.ofNat_toNat, decide_eq_true hlt]
  | case2 i h hne ih =>
    have hlt := UInt8.lt_iff_toNat_lt.mp h
    rw [searchStorage, dif_pos h, if_neg hne]
    apply ih
    · rw [toNat_succ_index h]
      omega
    · intro j hj
      rw [toNat_succ_index h] at hj
      rcases Nat.lt_succ_iff_lt_or_eq.mp hj with hj | rfl
      · exact hbefore j hj
      · simpa [eventInfo_eq_iff] using hne
  | case3 i h =>
    have hend : i.toNat = c.eeMaxEvents.toNat := by
      have := mt UInt8.lt_iff_toNat_lt.mpr h
      omega
    have hk : k = i.toNat := by
      rw [hend]
      apply firstIndex_eq_self
      intro j hj
      exact decide_eq_false (hbefore j (hend ▸ hj))
    rw [searchStorage, dif_neg h, hk, UInt8.ofNat_toNat, decide_eq_false (by omega)]

/-- The scan of the hash table ends at the least slot with this hash, unless it has
handed over to the scan of the storage. -/
theorem searchTable_eq (c : CBUSConfig) (nn en : UInt16) (tmphash i : UInt8)
    (hi : i.toNat ≤ c.eeMaxEvents.toNat) (hbefore : ∀ j < i.toNat, c.hashEntry j ≠ tmphash) :
    let k := firstIndex c.eeMaxEvents.toNat fun j => c.hashEntry j = tmphash
    c.searchTable nn en tmphash i =
      if k < c.eeMaxEvents.toNat ∧ c.bHashCollisions = true ∧
          1 < (List.range c.eeMaxEvents.toNat).countP (fun j => c.hashEntry j = tmphash) then
        c.searchStorage nn en tmphash 0
      else (UInt8.ofNat k, false) := by
  intro k
  have hcount := c.toNat_countMatches tmphash 0 0 (Nat.zero_le _) rfl
  have hmany : 1 < c.countMatches tmphash 0 0 ↔
      1 < (List.range c.eeMaxEvents.toNat).countP fun j => c.hashEntry j = tmphash := by
    rw [UInt8.lt_iff_toNat_lt, hcount]
    rfl
  -- the slot at which the loop is left is the first one with this hash
  have hfirst : ∀ i : UInt8, i < c.eeMaxEvents → c.hashEntry i.toNat = tmphash →
      (∀ j < i.toNat, c.hashEntry j ≠ tmphash) → k = i.toNat := by
    intro i h he hbefore
    apply firstIndex_eq_of (UInt8.lt_iff_toNat_lt.mp h)
    · exact decide_eq_true he
    · intro j hj
      exact decide_eq_false (hbefore j hj)
  induction i using searchTable.induct c tmphash with
  | case1 i h he hcoll =>
    have hk := hfirst i h he hbefore
    have hnone : c.bHashCollisions ≠ true := by simpa using hcoll
    rw [searchTable, dif_pos h, if_pos he, if_pos hcoll, if_neg fun hc => hnone hc.2.1, hk,
      UInt8.ofNat_toNat]
  | case2 i h he hcoll hm =>
    have hk := hfirst i h he hbefore
    have hsome : c.bHashCollisions = true := by simpa using hcoll
    have hlt : k < c.eeMaxEvents.toNat := hk ▸ UInt8.lt_iff_toNat_lt.mp h
    rw [searchTable, dif_pos h, if_pos he, if_neg hcoll, if_pos hm,
      if_pos ⟨hlt, hsome, hmany.mp hm⟩]
  | case3 i h he hcoll hm =>
    have hk := hfirst i h he hbefore
    rw [searchTable, dif_pos h, if_pos he, if_neg hcoll, if_neg hm,
      if_neg fun hc => hm (hmany.mpr hc.2.2), hk, UInt8.ofNat_toNat]
  | case4 i h he ih =>
    rw [searchTable, dif_pos h, if_neg he]
    apply ih
    · have hlt := UInt8.lt_iff_toNat_lt.mp h
      rw [toNat_succ_index h]
      omega
    · intro j hj
      rw [toNat_succ_index h] at hj
      rcases Nat.lt_succ_iff_lt_or_eq.mp hj with hj | rfl
      · exact hbefore j hj
      · exact he
  | case5 i h =>
    have hend : i.toNat = c.eeMaxEvents.toNat := by
      have := mt UInt8.lt_iff_toNat_lt.mpr h
      omega
    have hk : k = i.toNat := by
      rw [hend]
      apply firstIndex_eq_self
      intro j hj
      exact decide_eq_false (hbefore j (hend ▸ hj))
    rw [searchTable, dif_neg h, if_neg fun hc => by omega, hk, UInt8.ofNat_toNat]

theorem findExistingEventLoop_eq (c : CBUSConfig) (nn en : UInt16) :
    c.findExistingEventLoop nn en = c.findExistingEvent nn en := by
  have hnone : ∀ j < (0 : UInt8).toNat, c.hashEntry j ≠ makeHash ⟨nn, en⟩ := by
    intro j hj
    exact absurd hj (Nat.not_lt_zero j)
  have hnone' : ∀ j < (0 : UInt8).toNat, ¬ (c.hashEntry j = makeHash ⟨nn, en⟩ ∧
      c.readEvent (UInt8.ofNat j) = ⟨nn, en⟩) := by
    intro j hj
    exact absurd hj (Nat.not_lt_zero j)
  have htable := c.searchTable_eq nn en (makeHash ⟨nn, en⟩) 0 (Nat.zero_le _) hnone
  have hstorage := c.searchStorage_eq nn en (makeHash ⟨nn, en⟩) 0 (Nat.zero_le _) hnone'
  have hidx : ∀ p, (UInt8.ofNat (firstIndex c.eeMaxEvents.toNat p) < c.eeMaxEvents ↔
      firstIndex c.eeMaxEvents.toNat p < c.eeMaxEvents.toNat) := by
    intro p
    have hle := firstIndex_le c.eeMaxEvents.toNat p
    have hmax := c.eeMaxEvents.toNat_lt
    rw [UInt8.lt_iff_toNat_lt, UInt8.toNat_ofNat', Nat.mod_eq_of_lt (by omega)]
  dsimp only at htable hstorage
  unfold findExistingEventLoop
  dsimp only
  by_cases hlt : firstIndex c.eeMaxEvents.toNat
      (fun j => decide (c.hashEntry j = makeHash ⟨nn, en⟩)) < c.eeMaxEvents.toNat
  · by_cases hmany : c.bHashCollisions = true ∧ 1 < (List.range c.eeMaxEvents.toNat).countP
        fun j => c.hashEntry j = makeHash ⟨nn, en⟩
    · have hclosed : c.findExistingEvent nn en = UInt8.ofNat (firstIndex c.eeMaxEvents.toNat
          fun j => c.hashEntry j = makeHash ⟨nn, en⟩ ∧ c.readEvent (UInt8.ofNat j) = ⟨nn, en⟩) :=
        (if_pos hlt).trans (if_pos hmany)
      rw [if_pos ⟨hlt, hmany⟩, hstorage] at htable
      rw [htable, hclosed]
      simp only [hidx]
      exact if_neg fun h => absurd h.2 (by rw [decide_eq_true h.1]; decide)
    · have hclosed : c.findExistingEvent nn en =
          if c.readEvent (UInt8.ofNat (firstIndex c.eeMaxEvents.toNat fun j =>
            c.hashEntry j = makeHash ⟨nn, en⟩)) = ⟨nn, en⟩
          then UInt8.ofNat (firstIndex c.eeMaxEvents.toNat fun j =>
            c.hashEntry j = makeHash ⟨nn, en⟩) else c.eeMaxEvents :=
        (if_pos hlt).trans (if_neg hmany)
      rw [if_neg fun h => hmany h.2] at htable
      rw [htable, hclosed]
      simp only [hidx, hlt, Bool.not_false, and_self, if_true, eventInfo_eq_iff]
  · have hend : firstIndex c.eeMaxEvents.toNat
        (fun j => decide (c.hashEntry j = makeHash ⟨nn, en⟩)) = c.eeMaxEvents.toNat :=
      le_antisymm (firstIndex_le _ _) (Nat.le_of_not_lt hlt)
    have hclosed : c.findExistingEvent nn en = c.eeMaxEvents := if_neg hlt
    rw [if_neg fun h => hlt h.1] at htable
    rw [hclosed, htable]
    simp only [hidx, hlt, false_and, if_false]
    rw [hend, UInt8.ofNat_toNat]

/-- The hash table says about every slot what its stored bytes say and the collision
flag is exact; an event may be stored twice. -/
structure Hashed (c : CBUSConfig) : Prop where
  allocated : c.evhashtbl.length = c.eeMaxEvents.toNat
  entries : ∀ i < c.eeMaxEvents.toNat, c.hashEntry i =
    if c.readEvent (UInt8.ofNat i) = evInfoUnused then 0 else makeHash (c.readEvent (UInt8.ofNat i))
  collisions : c.bHashCollisions = true ↔ ∃ i < c.eeMaxEvents.toNat, ∃ j < c.eeMaxEvents.toNat,
    i ≠ j ∧ c.hashEntry i = c.hashEntry j ∧ c.hashEntry i ≠ 0

/-- Slot `i` is in use and stores exactly this pair. -/
def Stores (c : CBUSConfig) (i : ℕ) (nn en : UInt16) : Prop :=
  c.readEvent (UInt8.ofNat i) ≠ evInfoUnused ∧ c.readEvent (UInt8.ofNat i) = ⟨nn, en⟩

theorem stores_iff {c : CBUSConfig} {i : ℕ} {nn en : UInt16} :
    c.Stores i nn en ↔ c.slot i = some ⟨nn, en⟩ := by
  rw [slot_eq_some]
  constructor
  · rintro ⟨hu, he⟩
    exact ⟨he, he ▸ hu⟩
  · rintro ⟨he, hu⟩
    exact ⟨he ▸ hu, he⟩

theorem Hashed.describes {c : CBUSConfig} (h : c.Hashed) :
    Describes c.eeMaxEvents.toNat makeHash 0 c.slot c.hashEntry := by
  intro i hi
  rw [h.entries i hi, ← eventHash_eq]
  exact c.eventHash_eq_elim i

theorem hashed_makeEvHashTable (c : CBUSConfig) : c.makeEvHashTable.Hashed := by
  refine ⟨length_makeEvHashTable c, ?_, ?_⟩
  · intro i hi
    exact makeEvHashTable_hashEntry c hi
  · rw [exists_ne_iff_clashing]
    exact checkHashCollisions_iff _

/-- The closed form of the lookup is a plain search of the stored events. -/
theorem Hashed.findExistingEvent_toNat {c : CBUSConfig} (h : c.Hashed) (nn en : UInt16) :
    (c.findExistingEvent nn en).toNat =
      firstIndex c.eeMaxEvents.toNat fun i => c.slot i = some ⟨nn, en⟩ := by
  rw [findExistingEvent_toNat_eq_lookup h.describes]
  exact lookup_eq h.describes makeHash_ne_zero (h.collisions.trans c.exists_ne_iff_clashing) _

/-- Whatever hashes collide, the lookup ends, and ends with the least slot in use that stores
the event, or with `EE_MAX_EVENTS` if there is none. -/
theorem findExistingEventLoop_search (c : CBUSConfig) (h : c.Hashed) (nn en : UInt16) :
    let i := c.findExistingEventLoop nn en
    (i < c.eeMaxEvents ∧ c.Stores i.toNat nn en ∧ ∀ j < i.toNat, ¬ c.Stores j nn en) ∨
      (i = c.eeMaxEvents ∧ ∀ j < c.eeMaxEvents.toNat, ¬ c.Stores j nn en) := by
  intro i
  have hi : i.toNat = firstIndex c.eeMaxEvents.toNat fun j => c.slot j = some ⟨nn, en⟩ := by
    rw [show i = c.findExistingEvent nn en from c.findExistingEventLoop_eq nn en]
    exact h.findExistingEvent_toNat nn en
  by_cases hlt : i.toNat < c.eeMaxEvents.toNat
  · refine Or.inl ⟨UInt8.lt_iff_toNat_lt.mpr hlt, ?_, ?_⟩
    · have hspec := firstIndex_spec (hi ▸ hlt)
      rw [stores_iff, hi]
      exact of_decide_eq_true hspec
    · intro j hj
      rw [stores_iff]
      exact of_decide_eq_false (not_of_lt_firstIndex (hi ▸ hj))
  · refine Or.inr ⟨UInt8.toNat_inj.mp ?_, ?_⟩
    · have hle := firstIndex_le c.eeMaxEvents.toNat fun j => decide (c.slot j = some ⟨nn, en⟩)
      omega
    · intro j hj hs
      rw [stores_iff] at hs
      have hfound : firstIndex c.eeMaxEvents.toNat (fun j => c.slot j = some ⟨nn, en⟩) <
          c.eeMaxEvents.toNat := firstIndex_lt_iff.mpr ⟨j, hj, decide_eq_true hs⟩
      omega

def threeSlots : Layout where
  eeEventsStart := 6
  eeMaxEvents := 3
  eeNumEvs := 0
  eeNvsStart := 20
  eeNumNvs := 0

/-- Short events 1 and 129, whose hashes are equal, in the first and the last slot. -/
def collidingFlash : FlashImage :=
  (((((Memory.const 0xFF).write 6 0).write 7 0).write 8 0).write 9 1).write 14 0
    |>.write 15 0 |>.write 16 0 |>.write 17 129

/-- The configuration as `begin` builds it from that flash, before `loadNVs`. -/
def collidingTable : CBUSConfig := (construct threeSlots collidingFlash).loaded

example : collidingTable.bHashCollisions = true ∧ collidingTable.findExistingEvent 0 129 = 2 := by
  decide +kernel

theorem findExistingEventLoop_search_colliding :
    let i := collidingTable.findExistingEventLoop 0 129
    (i < collidingTable.eeMaxEvents ∧ collidingTable.Stores i.toNat 0 129 ∧
        ∀ j < i.toNat, ¬ collidingTable.Stores j 0 129) ∨
      (i = collidingTable.eeMaxEvents ∧
        ∀ j < collidingTable.eeMaxEvents.toNat, ¬ collidingTable.Stores j 0 129) :=
  findExistingEventLoop_search collidingTable (hashed_makeEvHashTable _) 0 129

end CBUSConfig
end CBUSPicoLib
