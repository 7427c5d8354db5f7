import Mathlib.Data.List.Basic

/-!
# Signals known by their samples

A signal is known at the times at which it was sampled, and the samples are kept in a list,
the latest at its end. What is said about a stretch of time is said about the samples in it.
-/

namespace SampledSignal

variable {α β : Type*} {value : α → β} {v : β} {x y : α} {past : List α}

/-- Every sample from `y` to the latest one has the value `v`. -/
def HeldSince (value : α → β) (v : β) (y : α) (past : List α) : Prop :=
  ∃ earlier during, past = earlier ++ y :: during ∧ ∀ z ∈ y :: during, value z = v

theorem HeldSince.begin (past : List α) (h : value x = v) : HeldSince value v x (past ++ [x]) :=
  ⟨past, [], rfl, by simpa using h⟩

theorem HeldSince.concat (h : HeldSince value v y past) (hx : value x = v) :
    HeldSince value v y (past ++ [x]) := by
  obtain ⟨earlier, during, rfl, hheld⟩ := h
  refine ⟨earlier, during ++ [x], by simp, fun z hz => ?_⟩
  rw [← List.cons_append, List.mem_append, List.mem_singleton] at hz
  rcases hz with hz | rfl
  · exact hheld z hz
  · exact hx

theorem HeldSince.mem (h : HeldSince value v y past) : y ∈ past := by
  obtain ⟨earlier, during, rfl, -⟩ := h
  simp

theorem HeldSince.latest (h : HeldSince value v y (past ++ [x])) : value x = v := by
  obtain ⟨earlier, during, hsplit, hheld⟩ := h
  have hlast : (y :: during).getLast? = some x := by
    rw [← List.getLast?_append_cons earlier, ← hsplit, List.getLast?_concat]
  exact hheld x (List.mem_of_getLast? hlast)

theorem le_of_mem_concat {time : α → ℕ} (hclock : (past ++ [x]).Pairwise (time · ≤ time ·))
    (hy : y ∈ past ++ [x]) : time y ≤ time x := by
  rcases List.mem_append.mp hy with hy | hy
  · exact (List.pairwise_append.mp hclock).2.2 y hy x (List.mem_singleton_self x)
  · exact Nat.le_of_eq (congrArg time (List.mem_singleton.mp hy))

end SampledSignal
