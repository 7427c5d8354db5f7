import Mathlib.Data.Finset.Card
import CBUSPicoLib.Library.TaggedTable

/-!
# Stores of at most so many keys

A bounded store has a set of keys and, for each of them, the fields that have been put since the
key was added. A put under a new key is refused once the store is full. A table of slots in which
no key occurs twice has as many slots in use as the store has keys.
-/

/-- At most `capacity` keys with fields of their own; a key that is not stored has none. -/
structure BoundedStore (κ ι ν : Type*) (capacity : ℕ) where
  keys : Finset κ
  field : κ → ι → Option ν
  bounded : keys.card ≤ capacity
  fresh : ∀ k ∉ keys, ∀ i, field k i = none

namespace BoundedStore

variable {κ ι ν : Type*} {capacity : ℕ} {s : BoundedStore κ ι ν capacity} {k k' : κ} {i i' : ι}
  {v : ν}

def empty : BoundedStore κ ι ν capacity where
  keys := ∅
  field := fun _ _ => none
  bounded := Nat.zero_le _
  fresh := fun _ _ _ => rfl

/-- There is room for the key. -/
def Accepts (s : BoundedStore κ ι ν capacity) (k : κ) : Prop := k ∈ s.keys ∨ s.keys.card < capacity

theorem mem_of_field (h : s.field k i = some v) : k ∈ s.keys := by
  by_contra hk
  rw [s.fresh k hk i] at h
  exact absurd h (by simp)

section Updates

variable [DecidableEq κ]

instance (s : BoundedStore κ ι ν capacity) (k : κ) : Decidable (s.Accepts k) :=
  inferInstanceAs (Decidable (k ∈ s.keys ∨ s.keys.card < capacity))

theorem card_insert_le (h : s.Accepts k) : (insert k s.keys).card ≤ capacity := by
  rcases h with hk | hroom
  · rw [Finset.insert_eq_of_mem hk]
    exact s.bounded
  · exact (Finset.card_insert_le k s.keys).trans hroom

def remove (s : BoundedStore κ ι ν capacity) (k : κ) : BoundedStore κ ι ν capacity where
  keys := s.keys.erase k
  field := Function.update s.field k fun _ => none
  bounded := (Finset.card_erase_le).trans s.bounded
  fresh := by
    intro k' hk' i'
    by_cases hkk : k' = k
    · rw [hkk, Function.update_self]
    · rw [Function.update_of_ne hkk]
      exact s.fresh k' (fun hmem => hk' (Finset.mem_erase.mpr ⟨hkk, hmem⟩)) i'

@[simp] theorem remove_keys (s : BoundedStore κ ι ν capacity) (k : κ) :
    (s.remove k).keys = s.keys.erase k := rfl

theorem remove_field (s : BoundedStore κ ι ν capacity) (k k' : κ) (i : ι) :
    (s.remove k).field k' i = if k' = k then none else s.field k' i := by
  change Function.update s.field k (fun _ => none) k' i = _
  by_cases hk : k' = k
  · rw [if_pos hk, hk, Function.update_self]
  · rw [if_neg hk, Function.update_of_ne hk]

variable [DecidableEq ι]

/-- Set one field of a key, which is added if it is new and there is room. -/
def put (s : BoundedStore κ ι ν capacity) (k : κ) (i : ι) (v : ν) : BoundedStore κ ι ν capacity :=
  if h : s.Accepts k then
    { keys := insert k s.keys
      field := Function.update s.field k (Function.update (s.field k) i (some v))
      bounded := card_insert_le h
      fresh := by
        intro k' hk' i'
        rw [Finset.mem_insert, not_or] at hk'
        rw [Function.update_of_ne hk'.1]
        exact s.fresh k' hk'.2 i' }
  else s

theorem put_keys (h : s.Accepts k) : (s.put k i v).keys = insert k s.keys := by
  unfold put
  rw [dif_pos h]

theorem put_of_refused (h : ¬ s.Accepts k) : s.put k i v = s := dif_neg h

theorem put_field (h : s.Accepts k) : (s.put k i v).field k' i' =
    if k' = k ∧ i' = i then some v else s.field k' i' := by
  unfold put
  rw [dif_pos h]
  by_cases hk : k' = k
  · subst hk
    by_cases hi : i' = i
    · rw [if_pos ⟨rfl, hi⟩, hi]
      simp
    · rw [if_neg fun hc => hi hc.2]
      simp [hi]
  · rw [if_neg fun hc => hk hc.1]
    simp [hk]

end Updates

open TaggedTable

/-- The keys are those that some slot holds. -/
def HeldIn (keys : Finset κ) (n : ℕ) (slots : ℕ → Option κ) : Prop :=
  ∀ k, k ∈ keys ↔ ∃ i < n, slots i = some k

theorem HeldIn.card_eq {keys : Finset κ} {n : ℕ} {slots : ℕ → Option κ}
    (h : HeldIn keys n slots) (hd : Distinct n slots) : keys.card = occupied n slots := by
  classical
  let used := (Finset.range n).filter fun i => (slots i).isSome
  have hcount : used.card = occupied n slots := by
    unfold occupied
    rw [List.countP_eq_length_filter]
    change ((List.range n).filter fun i => decide ((slots i).isSome = true)).length = _
    simp only [Bool.decide_eq_true]
  have himage : used.image slots = keys.map Function.Embedding.some := by
    ext o
    simp only [used, Finset.mem_image, Finset.mem_filter, Finset.mem_range, Finset.mem_map,
      Function.Embedding.some_apply]
    constructor
    · rintro ⟨i, ⟨hi, hused⟩, rfl⟩
      obtain ⟨k, hk⟩ := Option.isSome_iff_exists.mp hused
      exact ⟨k, (h k).mpr ⟨i, hi, hk⟩, hk.symm⟩
    · rintro ⟨k, hk, rfl⟩
      obtain ⟨i, hi, hs⟩ := (h k).mp hk
      exact ⟨i, ⟨hi, by rw [hs]; rfl⟩, hs⟩
  have hinj : Set.InjOn slots used := by
    intro i hi j hj hij
    simp only [used, Finset.coe_filter, Finset.mem_range, Set.mem_ofPred_eq] at hi hj
    obtain ⟨k, hk⟩ := Option.isSome_iff_exists.mp hi.2
    exact hd i hi.1 j hj.1 k hk (hij ▸ hk)
  rw [← hcount, ← Finset.card_image_of_injOn hinj, himage, Finset.card_map]

theorem HeldIn.exists_free_iff {keys : Finset κ} {n : ℕ} {slots : ℕ → Option κ}
    (h : HeldIn keys n slots) (hd : Distinct n slots) :
    (∃ i < n, slots i = none) ↔ keys.card < n := by
  have hsum := occupied_add_free n slots
  have hcard := h.card_eq hd
  have hpos : 0 < (List.range n).countP (fun i => (slots i).isNone) ↔
      ∃ i < n, slots i = none := by
    rw [List.countP_pos_iff]
    simp only [List.mem_range, Option.isNone_iff_eq_none]
  rw [← hpos]
  omega

end BoundedStore
