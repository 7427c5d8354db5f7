import Mathlib.Data.List.Nodup
import Mathlib.Logic.Function.Basic

/-!
# Writes that are interrupted

A list of writes to different cells of a memory, of which a failure carries out the first ones only.
Whenever the failure comes, all of the writes or none of them seem to have happened, exactly if at
most one of them changes its cell.
-/

namespace InterruptedWrites

variable {γ β : Type*} [DecidableEq γ] {m m' : γ → β} {ws : List (γ × β)}

def storeAll (m : γ → β) : List (γ × β) → γ → β
  | [] => m
  | w :: ws => storeAll (Function.update m w.1 w.2) ws

theorem storeAll_of_notMem {a : γ} (h : a ∉ ws.map Prod.fst) : storeAll m ws a = m a := by
  induction ws generalizing m with
  | nil => rfl
  | cons w ws ih =>
    rw [List.map_cons, List.mem_cons, not_or] at h
    exact (ih h.2).trans (Function.update_of_ne h.1 w.2 m)

theorem storeAll_congr (h : ∀ a ∉ ws.map Prod.fst, m a = m' a) :
    storeAll m ws = storeAll m' ws := by
  induction ws generalizing m m' with
  | nil => exact funext fun a => h a List.not_mem_nil
  | cons w ws ih =>
    apply ih
    intro a ha
    by_cases haw : a = w.1
    · rw [haw, Function.update_self, Function.update_self]
    · rw [Function.update_of_ne haw, Function.update_of_ne haw]
      exact h a fun hmem => (List.mem_cons.mp hmem).elim haw ha

theorem storeAll_resume (m : γ → β) (ws : List (γ × β)) (k : ℕ) :
    storeAll (storeAll m (ws.take k)) ws = storeAll m ws := by
  apply storeAll_congr
  intro a ha
  apply storeAll_of_notMem
  intro hmem
  rw [List.map_take] at hmem
  exact ha (List.mem_of_mem_take hmem)

theorem storeAll_of_mem (hnd : (ws.map Prod.fst).Nodup) {w : γ × β} (hw : w ∈ ws) :
    storeAll m ws w.1 = w.2 := by
  induction ws generalizing m with
  | nil => exact absurd hw List.not_mem_nil
  | cons v ws ih =>
    obtain ⟨hv, hnd⟩ := List.nodup_cons.mp hnd
    rcases List.mem_cons.mp hw with rfl | hw
    · rw [storeAll, storeAll_of_notMem hv, Function.update_self]
    · exact ih hnd hw

/-- After any number of writes either nothing has happened or all. -/
def Atomic (m : γ → β) (ws : List (γ × β)) : Prop :=
  ∀ k, storeAll m (ws.take k) = m ∨ storeAll m (ws.take k) = storeAll m ws

variable [DecidableEq β]

def changing (m : γ → β) (ws : List (γ × β)) : List (γ × β) := ws.filter fun w => m w.1 ≠ w.2

theorem changing_update {a : γ} (h : a ∉ ws.map Prod.fst) (v : β) :
    changing (Function.update m a v) ws = changing m ws := by
  apply List.filter_congr
  intro w hw
  have hne : w.1 ≠ a := fun he => h (he ▸ List.mem_map_of_mem hw)
  rw [Function.update_of_ne hne]

/-- Writes to different cells change nothing together only if none of them does. -/
theorem storeAll_eq_self_iff (hnd : (ws.map Prod.fst).Nodup) :
    storeAll m ws = m ↔ changing m ws = [] := by
  induction ws generalizing m with
  | nil => simp [storeAll, changing]
  | cons w ws ih =>
    obtain ⟨hw, hnd⟩ := List.nodup_cons.mp hnd
    by_cases hm : m w.1 = w.2
    · have hself : Function.update m w.1 w.2 = m := by rw [← hm, Function.update_eq_self]
      rw [storeAll, hself, ih hnd, changing, changing, List.filter_cons_of_neg (by simp [hm])]
    · have hcell : storeAll m (w :: ws) w.1 = w.2 := by
        rw [storeAll, storeAll_of_notMem hw, Function.update_self]
      rw [changing, List.filter_cons_of_pos (by simp [hm])]
      refine iff_of_false (fun h => hm ?_) (List.cons_ne_nil _ _)
      rw [← hcell, h]

/-- A failure between writes to different cells can be seen exactly if two of them change
something. -/
theorem atomic_iff (hnd : (ws.map Prod.fst).Nodup) :
    Atomic m ws ↔ (changing m ws).length ≤ 1 := by
  induction ws generalizing m with
  | nil => simp [Atomic, storeAll, changing]
  | cons w ws ih =>
    obtain ⟨hw, hnd⟩ := List.nodup_cons.mp hnd
    by_cases hm : m w.1 = w.2
    · have hself : Function.update m w.1 w.2 = m := by rw [← hm, Function.update_eq_self]
      rw [changing, List.filter_cons_of_neg (by simp [hm]), ← changing, ← ih hnd]
      constructor
      · intro h k
        have hk := h (k + 1)
        rwa [List.take_succ_cons, storeAll, storeAll, hself] at hk
      · rintro h (- | k)
        · exact Or.inl rfl
        · rw [List.take_succ_cons, storeAll, storeAll, hself]
          exact h k
    · -- the first write changes its cell, so that nothing may change behind it
      have hrest := storeAll_eq_self_iff (m := Function.update m w.1 w.2) hnd
      rw [changing_update hw] at hrest
      rw [changing, List.filter_cons_of_pos (by simp [hm]), ← changing, List.length_cons,
        Nat.add_le_add_iff_right (n := 1) (m := (changing m ws).length) (k := 0),
        Nat.le_zero, List.length_eq_zero_iff, ← hrest]
      constructor
      · intro h
        rcases h 1 with h1 | h1
        · have hcell := congrFun h1 w.1
          rw [List.take_succ_cons, List.take_zero, storeAll, storeAll, Function.update_self]
            at hcell
          exact absurd hcell.symm hm
        · rw [List.take_succ_cons, List.take_zero, storeAll, storeAll, storeAll] at h1
          exact h1.symm
      · rintro h (- | k)
        · exact Or.inl rfl
        · right
          have hnone : changing (Function.update m w.1 w.2) (ws.take k) = [] := by
            have hall := (storeAll_eq_self_iff hnd).mp h
            rw [changing, List.filter_eq_nil_iff] at hall ⊢
            exact fun v hv => hall v (List.mem_of_mem_take hv)
          have hsub : ((ws.take k).map Prod.fst).Nodup :=
            hnd.sublist ((List.take_sublist k ws).map Prod.fst)
          rw [List.take_succ_cons, storeAll, storeAll, h]
          exact (storeAll_eq_self_iff hsub).mpr hnone

end InterruptedWrites
