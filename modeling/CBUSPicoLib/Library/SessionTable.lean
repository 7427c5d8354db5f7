import Mathlib.Data.List.Nodup
import Mathlib.Logic.Function.Basic
import Mathlib.Tactic

/-!
# Tables of sessions

A table has a fixed number of slots. A slot is free, or it serves the session of
one key; both a free slot and the slot of a key are found by a linear search.
While no key is served twice the table is a map from keys to slots: to write one
slot is to update the session of one key, and the others do not notice.
-/

namespace SessionTable

variable {σ κ : Type*} {key : σ → Option κ} {slots : List σ} {i : ℕ} {s s' : σ} {k : κ}

def keys (key : σ → Option κ) (slots : List σ) : List κ := slots.filterMap key

/-- No key is served twice. -/
def Distinct (key : σ → Option κ) (slots : List σ) : Prop := (keys key slots).Nodup

theorem mem_keys : k ∈ keys key slots ↔ ∃ s ∈ slots, key s = some k := List.mem_filterMap

theorem distinct_of_free (h : ∀ s ∈ slots, key s = none) : Distinct key slots := by
  have hnil : keys key slots = [] := List.filterMap_eq_nil_iff.mpr h
  simp [Distinct, hnil]

theorem pred_of_found {p : σ → Bool} (h : slots[slots.findIdx p]? = some s) : p s = true :=
  List.find?_some (List.find?_eq_getElem?_findIdx.trans h)

theorem getElem?_set_cases {j : ℕ} {t : σ} (h : (slots.set i s)[j]? = some t) :
    j = i ∧ t = s ∨ j ≠ i ∧ slots[j]? = some t := by
  by_cases hj : j = i
  · obtain ⟨hlt, hset⟩ := List.getElem?_eq_some_iff.mp h
    rw [List.getElem_set, if_pos hj.symm] at hset
    exact Or.inl ⟨hj, hset.symm⟩
  · rw [List.getElem?_set_ne (Ne.symm hj)] at h
    exact Or.inr ⟨hj, h⟩

theorem exists_split (h : slots[i]? = some s) :
    ∃ before after, slots = before ++ s :: after ∧
      ∀ s', slots.set i s' = before ++ s' :: after := by
  obtain ⟨hi, rfl⟩ := List.getElem?_eq_some_iff.mp h
  refine ⟨slots.take i, slots.drop (i + 1), ?_, fun s' => ?_⟩
  · simp
  · rw [List.set_eq_take_append_cons_drop, if_pos hi]

theorem distinct_split {before after : List σ} :
    Distinct key (before ++ s :: after) ↔
      (∀ k, key s = some k → k ∉ keys key (before ++ after)) ∧ Distinct key (before ++ after) := by
  unfold Distinct keys
  rw [List.filterMap_append, List.filterMap_append]
  cases hs : key s with
  | none => simp [hs]
  | some k =>
    rw [List.filterMap_cons_some hs, List.nodup_middle, List.nodup_cons]
    simp

theorem Distinct.unique (h : Distinct key slots) {t : σ} (hs : s ∈ slots) (hsk : key s = some k)
    (ht : t ∈ slots) (htk : key t = some k) : s = t := by
  obtain ⟨before, after, rfl⟩ := List.append_of_mem hs
  have hother := (distinct_split.mp h).1 k hsk
  by_contra hne
  apply hother
  rw [mem_keys]
  refine ⟨t, ?_, htk⟩
  simpa [Ne.symm hne] using ht

theorem Distinct.index_unique (h : Distinct key slots) {j : ℕ} {t : σ} (hi : slots[i]? = some s)
    (hs : key s = some k) (hj : slots[j]? = some t) (ht : key t = some k) : i = j := by
  have hpair := List.pairwise_iff_getElem.mp (List.pairwise_filterMap.mp h)
  obtain ⟨hi', rfl⟩ := List.getElem?_eq_some_iff.mp hi
  obtain ⟨hj', rfl⟩ := List.getElem?_eq_some_iff.mp hj
  rcases lt_trichotomy i j with hlt | heq | hgt
  · exact absurd rfl (hpair i j hi' hj' hlt k hs k ht)
  · exact heq
  · exact absurd rfl (hpair j i hj' hi' hgt k ht k hs)

/-- If fewer keys are served than there are slots, the search for a free one succeeds. -/
theorem exists_free (h : (keys key slots).length < slots.length) :
    ∃ s, slots[slots.findIdx fun s => (key s).isNone]? = some s ∧ key s = none := by
  obtain ⟨t, ht, hfree⟩ := List.length_filterMap_lt_length_iff_exists.mp h
  have hex : ∃ s ∈ slots, (key s).isNone = true := ⟨t, ht, by simp [hfree]⟩
  have hlt := List.findIdx_lt_length_of_exists hex
  refine ⟨_, List.getElem?_eq_getElem hlt, ?_⟩
  simpa using List.findIdx_getElem (w := hlt)

variable [DecidableEq κ]

def session (key : σ → Option κ) (slots : List σ) (k : κ) : Option σ :=
  slots[slots.findIdx fun s => key s = some k]?

theorem key_of_session (h : session key slots k = some s) : key s = some k := by
  simpa using pred_of_found h

theorem session_eq_some (h : Distinct key slots) :
    session key slots k = some s ↔ s ∈ slots ∧ key s = some k := by
  constructor
  · exact fun hs => ⟨List.mem_of_getElem? hs, key_of_session hs⟩
  · rintro ⟨hs, hk⟩
    have hex : ∃ s ∈ slots, decide (key s = some k) = true := ⟨s, hs, by simpa using hk⟩
    have hfound : session key slots k = some _ := List.findIdx_getElem?_eq_getElem_of_exists hex
    rw [hfound, h.unique hs hk (List.getElem_mem _) (key_of_session hfound)]

theorem session_eq_none : session key slots k = none ↔ k ∉ keys key slots := by
  constructor
  · intro h hk
    obtain ⟨s, hs, hsk⟩ := mem_keys.mp hk
    have hlt := List.findIdx_lt_length_of_exists (p := fun s => decide (key s = some k))
      ⟨s, hs, by simpa using hsk⟩
    exact absurd hlt (Nat.not_lt.mpr (List.getElem?_eq_none_iff.mp h))
  · intro h
    by_contra hne
    obtain ⟨s, hs⟩ := Option.ne_none_iff_exists'.mp hne
    exact h (mem_keys.mpr ⟨s, List.mem_of_getElem? hs, key_of_session hs⟩)

theorem session_set (hi : i < slots.length)
    (hbefore : ∀ (j : ℕ) (t : σ), j < i → slots[j]? = some t → key t ≠ some k)
    (hs' : key s' = some k) : session key (slots.set i s') k = some s' := by
  have hlt : i < (slots.set i s').length := by rwa [List.length_set]
  have hfind : (slots.set i s').findIdx (fun s => key s = some k) = i := by
    rw [List.findIdx_eq hlt]
    refine ⟨by simp [hs'], fun j hj => ?_⟩
    have hj' : j < slots.length := hj.trans hi
    rw [List.getElem_set_ne (Nat.ne_of_gt hj)]
    simpa using hbefore j slots[j] hj (List.getElem?_eq_getElem hj')
  unfold session
  rw [hfind, List.getElem?_set_self hi]

theorem session_split {before after : List σ} (h : Distinct key (before ++ s :: after)) (x : κ) :
    session key (before ++ s :: after) x =
      if key s = some x then some s else session key (before ++ after) x := by
  split_ifs with hx
  · rw [session_eq_some h]
    exact ⟨by simp, hx⟩
  · apply Option.ext
    intro t
    rw [session_eq_some h, session_eq_some (distinct_split.mp h).2]
    constructor
    · rintro ⟨ht, htx⟩
      have hne : t ≠ s := fun e => hx (e ▸ htx)
      exact ⟨by simpa [hne] using ht, htx⟩
    · rintro ⟨ht, htx⟩
      have hmem : t ∈ before ∨ t = s ∨ t ∈ after := (List.mem_append.mp ht).imp_right Or.inr
      exact ⟨by simpa using hmem, htx⟩

/-- A slot that is written serves the same key before and after, if any; no other
slot serves this key. -/
theorem Distinct.set (h : Distinct key slots) (hi : slots[i]? = some s)
    (hs : key s = some k ∨ key s = none ∧ session key slots k = none)
    (hs' : key s' = some k ∨ key s' = none) :
    Distinct key (slots.set i s') ∧ session key (slots.set i s') =
      Function.update (session key slots) k (if key s' = some k then some s' else none) := by
  obtain ⟨before, after, rfl, hset⟩ := exists_split hi
  have hothers : k ∉ keys key (before ++ after) := by
    rcases hs with hs | ⟨hs, hnone⟩
    · exact (distinct_split.mp h).1 k hs
    · rw [session_split h, if_neg (by simp [hs])] at hnone
      exact session_eq_none.mp hnone
  have hkey : ∀ {u x}, (key u = some k ∨ key u = none) → key u = some x → x = k := by
    rintro u x (hu | hu) hx
    · exact Option.some.inj (hx.symm.trans hu)
    · simp [hu] at hx
  have hnew : Distinct key (before ++ s' :: after) := by
    rw [distinct_split]
    refine ⟨fun x hx => ?_, (distinct_split.mp h).2⟩
    rwa [hkey hs' hx]
  rw [hset]
  refine ⟨hnew, ?_⟩
  funext x
  rw [session_split hnew]
  by_cases hx : x = k
  · subst hx
    rw [Function.update_self, session_eq_none.mpr hothers]
  · have hold : key s ≠ some x := fun e => hx (hkey (hs.imp_right And.left) e)
    have hnew' : key s' ≠ some x := fun e => hx (hkey hs' e)
    rw [Function.update_of_ne hx, session_split h, if_neg hold, if_neg hnew']

/-- A slot is written for a key: a free slot for a key that is not served yet, or
the slot that already serves it. -/
theorem Distinct.serve (h : Distinct key slots) (hi : slots[i]? = some s)
    (hs : key s = some k ∨ key s = none ∧ session key slots k = none) (hs' : key s' = some k) :
    Distinct key (slots.set i s') ∧
      session key (slots.set i s') = Function.update (session key slots) k (some s') := by
  have hset := h.set hi hs (Or.inl hs')
  rwa [if_pos hs'] at hset

theorem Distinct.release (h : Distinct key slots) (hi : slots[i]? = some s)
    (hs : key s = some k) (hs' : key s' = none) :
    Distinct key (slots.set i s') ∧
      session key (slots.set i s') = Function.update (session key slots) k none := by
  have hset := h.set hi (Or.inl hs) (Or.inr hs')
  rwa [if_neg (by simp [hs'])] at hset

def abandon (key : σ → Option κ) (free : σ → σ) (slots : List σ) (k : κ) : List σ :=
  slots.map fun s => if key s = some k then free s else s

theorem keys_abandon {free : σ → σ} (hfree : ∀ s, key (free s) = none) (slots : List σ) (k : κ) :
    keys key (abandon key free slots k) = (keys key slots).filter (· ≠ k) := by
  unfold keys abandon
  induction slots with
  | nil => rfl
  | cons s slots ih =>
    rw [List.map_cons]
    cases hs : key s with
    | none => simp [hs, ih]
    | some x =>
      by_cases hx : x = k
      · simp [hs, hx, hfree, ih]
      · simp [hs, hx, ih]

theorem Distinct.abandon {free : σ → σ} (hfree : ∀ s, key (free s) = none)
    (h : Distinct key slots) (k : κ) :
    Distinct key (abandon key free slots k) ∧
      session key (SessionTable.abandon key free slots k) k = none := by
  constructor
  · unfold Distinct
    rw [keys_abandon hfree]
    exact h.filter _
  · rw [session_eq_none, keys_abandon hfree]
    simp

theorem abandon_eq_self {free : σ → σ} (h : session key slots k = none) :
    abandon key free slots k = slots := by
  have hsame : ∀ s ∈ slots, (if key s = some k then free s else s) = id s := by
    intro s hs
    exact if_neg fun hk => session_eq_none.mp h (mem_keys.mpr ⟨s, hs, hk⟩)
  exact (List.map_congr_left hsame).trans (List.map_id slots)

theorem exists_free_abandon {free : σ → σ} (hfree : ∀ s, key (free s) = none)
    (h : session key slots k ≠ none) : ∃ s ∈ abandon key free slots k, key s = none := by
  obtain ⟨s, hs⟩ := Option.ne_none_iff_exists'.mp h
  refine ⟨free s, List.mem_map.mpr ⟨s, List.mem_of_getElem? hs, ?_⟩, hfree s⟩
  rw [if_pos (key_of_session hs)]

end SessionTable
