import Mathlib.Data.List.Basic
import Mathlib.Data.List.Count
import Mathlib.Tactic

/-!
# Tables searched through short tags

A table of `n` slots holds keys; a second table holds one short tag per slot,
`free` for an unused slot. Tags are not injective, so a search by tag needs a
confirmation against the keys. `lookup` is the search that pays for a full scan
only where tags are known to clash; `lookup_eq` says that it is the plain
search, and `Distinct` is the no-duplicates discipline that callers keep.
-/

namespace TaggedTable

/-- The least index below `n` satisfying `p`, and `n` when there is none. -/
def firstIndex (n : ℕ) (p : ℕ → Bool) : ℕ := (List.range n).findIdx p

theorem firstIndex_le (n : ℕ) (p : ℕ → Bool) : firstIndex n p ≤ n := by
  have h : (List.range n).findIdx p ≤ (List.range n).length := List.findIdx_le_length
  simpa [firstIndex] using h

theorem firstIndex_spec {n : ℕ} {p : ℕ → Bool} (h : firstIndex n p < n) :
    p (firstIndex n p) = true := by
  have hl : (List.range n).findIdx p < (List.range n).length := by simpa [firstIndex] using h
  simpa [firstIndex] using List.findIdx_getElem (w := hl)

theorem not_of_lt_firstIndex {n i : ℕ} {p : ℕ → Bool} (h : i < firstIndex n p) :
    p i = false := by
  have hr : i < (List.range n).findIdx p := h
  simpa using List.not_of_lt_findIdx hr

theorem firstIndex_le_of {n i : ℕ} {p : ℕ → Bool} (hp : p i = true) :
    firstIndex n p ≤ i := by
  by_contra hlt
  have := not_of_lt_firstIndex (Nat.lt_of_not_le hlt)
  simp [hp] at this

theorem firstIndex_lt_iff {n : ℕ} {p : ℕ → Bool} :
    firstIndex n p < n ↔ ∃ i < n, p i = true := by
  constructor
  · exact fun h => ⟨_, h, firstIndex_spec h⟩
  · rintro ⟨i, hi, hp⟩
    exact (firstIndex_le_of hp).trans_lt hi

theorem firstIndex_eq_of {n i : ℕ} {p : ℕ → Bool} (hi : i < n) (hp : p i = true)
    (hmin : ∀ j < i, p j = false) : firstIndex n p = i := by
  apply le_antisymm (firstIndex_le_of hp)
  by_contra hlt
  have hlt := Nat.lt_of_not_le hlt
  have hs := firstIndex_spec (hlt.trans hi)
  simp [hmin _ hlt] at hs

theorem firstIndex_eq_self {n : ℕ} {p : ℕ → Bool} (h : ∀ i < n, p i = false) :
    firstIndex n p = n := by
  apply le_antisymm (firstIndex_le n p)
  by_contra hlt
  obtain ⟨i, hi, hp⟩ := firstIndex_lt_iff.mp (Nat.lt_of_not_le hlt)
  simp [h i hi] at hp

theorem firstIndex_congr {n : ℕ} {p q : ℕ → Bool} (h : ∀ i < n, p i = q i) :
    firstIndex n p = firstIndex n q := by
  by_cases hp : firstIndex n p < n
  · refine (firstIndex_eq_of hp ?_ ?_).symm
    · rw [← h _ hp]
      exact firstIndex_spec hp
    · intro j hj
      rw [← h _ (hj.trans hp)]
      exact not_of_lt_firstIndex hj
  · have hn := fun i hi => Bool.eq_false_iff.mpr fun ht =>
      hp (firstIndex_lt_iff.mpr ⟨i, hi, ht⟩)
    rw [firstIndex_eq_self hn, firstIndex_eq_self fun i hi => (h i hi) ▸ hn i hi]

theorem countP_le_one_of_unique {n : ℕ} {p : ℕ → Bool}
    (h : ¬ 1 < (List.range n).countP p) {i j : ℕ} (hi : i < n) (hj : j < n)
    (hpi : p i = true) (hpj : p j = true) : i = j := by
  by_contra hne
  apply h
  rw [List.countP_eq_length_filter]
  have hsub : [i, j].Subperm ((List.range n).filter p) := by
    apply List.subperm_of_subset
    · simpa using hne
    · intro x hx
      rcases List.mem_pair.mp hx with rfl | rfl <;> simp [*]
  exact hsub.length_le

variable {κ τ : Type*}

/-- Every tag is the one its slot calls for. -/
def Describes (n : ℕ) (tag : κ → τ) (free : τ) (slots : ℕ → Option κ) (tags : ℕ → τ) : Prop :=
  ∀ i < n, tags i = (slots i).elim free tag

/-- No key occupies two slots. -/
def Distinct (n : ℕ) (slots : ℕ → Option κ) : Prop :=
  ∀ i < n, ∀ j < n, ∀ k, slots i = some k → slots j = some k → i = j

/-- Two different used slots carry one tag. -/
def Clashing (n : ℕ) (free : τ) (tags : ℕ → τ) : Prop :=
  ∃ i < n, ∃ j < n, i < j ∧ tags i = tags j ∧ tags i ≠ free

variable {n : ℕ} {tag : κ → τ} {free : τ} {slots : ℕ → Option κ} {tags : ℕ → τ}

theorem Describes.slot_tag (hd : Describes n tag free slots tags) {i : ℕ} (hi : i < n) {k : κ}
    (hk : slots i = some k) : tags i = tag k := by
  rw [hd i hi, hk]
  rfl

/-- Putting a key that no slot holds into one slot keeps the keys distinct. -/
theorem Distinct.set (h : Distinct n slots) {i : ℕ} {k : κ}
    (hk : ∀ j < n, j ≠ i → slots j ≠ some k) {slots' : ℕ → Option κ}
    (hi : slots' i = some k) (hother : ∀ j < n, j ≠ i → slots' j = slots j) :
    Distinct n slots' := by
  intro a ha b hb x hxa hxb
  by_cases hai : a = i <;> by_cases hbi : b = i
  · exact hai.trans hbi.symm
  · subst hai
    rw [hother b hb hbi] at hxb
    exact absurd (hxb.trans (hxa.symm.trans hi)) (hk b hb hbi)
  · subst hbi
    rw [hother a ha hai] at hxa
    exact absurd (hxa.trans (hxb.symm.trans hi)) (hk a ha hai)
  · rw [hother a ha hai] at hxa
    rw [hother b hb hbi] at hxb
    exact h a ha b hb x hxa hxb

theorem Distinct.of_imp (h : Distinct n slots) {slots' : ℕ → Option κ}
    (himp : ∀ i < n, ∀ k, slots' i = some k → slots i = some k) : Distinct n slots' :=
  fun i hi j hj k hki hkj => h i hi j hj k (himp i hi k hki) (himp j hj k hkj)

def occupied (n : ℕ) (slots : ℕ → Option κ) : ℕ :=
  (List.range n).countP fun i => (slots i).isSome

theorem occupied_le (n : ℕ) (slots : ℕ → Option κ) : occupied n slots ≤ n :=
  List.countP_le_length.trans (by rw [List.length_range])

theorem occupied_add_free (n : ℕ) (slots : ℕ → Option κ) :
    occupied n slots + (List.range n).countP (fun i => (slots i).isNone) = n := by
  induction n with
  | zero => rfl
  | succ n ih =>
    unfold occupied at ih ⊢
    rw [List.range_succ, List.countP_append, List.countP_append, List.countP_singleton,
      List.countP_singleton]
    cases slots n with
    | none => simp only [Option.isSome_none, Option.isNone_none]; simp; omega
    | some k => simp only [Option.isSome_some, Option.isNone_some]; simp; omega

theorem occupied_free {i : ℕ} (hi : i < n) {k : κ} (hk : slots i = some k)
    {slots' : ℕ → Option κ} (hfree : ∀ j < n, slots' j = if j = i then none else slots j) :
    occupied n slots' + 1 = occupied n slots := by
  induction n with
  | zero => exact absurd hi (Nat.not_lt_zero i)
  | succ n ih =>
    have hlast := hfree n (Nat.lt_succ_self n)
    have hrest : ∀ j < n, slots' j = if j = i then none else slots j :=
      fun j hj => hfree j (Nat.lt_succ_of_lt hj)
    unfold occupied at ih ⊢
    rw [List.range_succ, List.countP_append, List.countP_append, List.countP_singleton,
      List.countP_singleton, hlast]
    by_cases hin : n = i
    · have hsame : (List.range n).countP (fun j => (slots' j).isSome) =
          (List.range n).countP fun j => (slots j).isSome := by
        apply List.countP_congr
        intro j hj
        have hlt := List.mem_range.mp hj
        rw [hrest j hlt, if_neg (by omega)]
      rw [if_pos hin, hsame, hin, hk]
      rfl
    · have hlt : i < n := lt_of_le_of_ne (Nat.le_of_lt_succ hi) (Ne.symm hin)
      have hcount := ih hlt hrest
      rw [if_neg hin]
      omega

section Lookup

variable [DecidableEq κ] [DecidableEq τ]

/-- Search by tag. Without clashes the first hit is the only candidate; with a
clash of this very tag every candidate is compared with the key. -/
def lookup (n : ℕ) (tag : κ → τ) (clash : Bool) (slots : ℕ → Option κ) (tags : ℕ → τ)
    (k : κ) : ℕ :=
  let i := firstIndex n fun i => tags i = tag k
  if i < n then
    if clash ∧ 1 < (List.range n).countP fun j => tags j = tag k then
      firstIndex n fun j => tags j = tag k ∧ slots j = some k
    else if slots i = some k then i else n
  else n

/-- The search by tag is the plain search by key, whatever clashes there are. -/
theorem lookup_eq {clash : Bool} (hd : Describes n tag free slots tags)
    (hfree : ∀ k, tag k ≠ free) (hclash : clash = true ↔ Clashing n free tags) (k : κ) :
    lookup n tag clash slots tags k = firstIndex n fun i => slots i = some k := by
  have hboth : firstIndex n (fun j => tags j = tag k ∧ slots j = some k) =
      firstIndex n fun i => slots i = some k := by
    apply firstIndex_congr
    intro i hi
    by_cases hs : slots i = some k
    · simp [hs, hd.slot_tag hi hs]
    · simp [hs]
  unfold lookup
  dsimp only
  split_ifs with hlt hmany hhit
  · exact hboth
  · -- the candidate is the key's slot, and any earlier slot of the key would be a candidate
    refine (firstIndex_eq_of hlt (by simpa using hhit) ?_).symm
    intro j hj
    have hne := not_of_lt_firstIndex hj
    simp only [decide_eq_false_iff_not] at hne ⊢
    exact fun hs => hne (hd.slot_tag (hj.trans hlt) hs)
  · -- the only slot with this tag holds another key
    refine (firstIndex_eq_self ?_).symm
    intro j hj
    simp only [decide_eq_false_iff_not]
    intro hs
    have hcand := firstIndex_spec hlt
    simp only [decide_eq_true_eq] at hcand
    have htag := hd.slot_tag hj hs
    have hne : firstIndex n (fun i => tags i = tag k) ≠ j := fun e => hhit (e ▸ hs)
    apply hmany
    constructor
    · rw [hclash]
      rcases lt_or_gt_of_ne hne with hij | hij
      · exact ⟨_, hlt, j, hj, hij, hcand.trans htag.symm,
          fun e => hfree k (hcand.symm.trans e)⟩
      · exact ⟨j, hj, _, hlt, hij, htag.trans hcand.symm,
          fun e => hfree k (htag.symm.trans e)⟩
    · by_contra hone
      exact hne (countP_le_one_of_unique hone hlt hj (by simpa using hcand) (by simpa using htag))
  · refine (firstIndex_eq_self ?_).symm
    intro j hj
    simp only [decide_eq_false_iff_not]
    intro hs
    exact hlt (firstIndex_lt_iff.mpr ⟨j, hj, by simpa using hd.slot_tag hj hs⟩)

end Lookup

end TaggedTable
