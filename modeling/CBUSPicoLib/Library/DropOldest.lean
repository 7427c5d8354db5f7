import CBUSPicoLib.Library.Runs
import Mathlib.Data.List.Induction
import Mathlib.Order.Bounds.Basic
import Mathlib.Order.MinMax

/-!
# Bounded queues that drop their oldest entry

A queue of at most `capacity` entries in the order of their arrival. The counters
account for every entry that was ever put, and `peak` is the largest length that
the queue has had.
-/

open Runs

structure DropOldest (α : Type*) (capacity : ℕ) where
  entries : List α
  puts : ℕ
  gets : ℕ
  dropped : ℕ
  discarded : ℕ
  peak : ℕ
  bounded : entries.length ≤ capacity
  reached : entries.length ≤ peak
  balance : puts = gets + dropped + entries.length + discarded

namespace DropOldest

variable {α : Type*} {capacity : ℕ} (q : DropOldest α capacity)

def empty : DropOldest α capacity where
  entries := []
  puts := 0
  gets := 0
  dropped := 0
  discarded := 0
  peak := 0
  bounded := capacity.zero_le
  reached := le_rfl
  balance := rfl

/-- Append an entry; the oldest one goes if the queue was full. -/
def put (x : α) : DropOldest α capacity :=
  if h : q.entries.length < capacity then
    { entries := q.entries ++ [x]
      puts := q.puts + 1
      gets := q.gets
      dropped := q.dropped
      discarded := q.discarded
      peak := max q.peak (q.entries.length + 1)
      bounded := by simpa [Nat.succ_le_iff] using h
      reached := by simp
      balance := by have := q.balance; simp; omega }
  else
    { entries := (q.entries ++ [x]).tail
      puts := q.puts + 1
      gets := q.gets
      dropped := q.dropped + 1
      discarded := q.discarded
      peak := q.peak
      bounded := by simpa using q.bounded
      reached := by simpa using q.reached
      balance := by have := q.balance; simp; omega }

def get : DropOldest α capacity :=
  match h : q.entries with
  | [] => q
  | _ :: rest =>
    { entries := rest
      puts := q.puts
      gets := q.gets + 1
      dropped := q.dropped
      discarded := q.discarded
      peak := q.peak
      bounded := by have := q.bounded; simp [h] at this; omega
      reached := by have := q.reached; simp [h] at this; omega
      balance := by have := q.balance; simp [h] at this; omega }

def clear : DropOldest α capacity where
  entries := []
  puts := q.puts
  gets := q.gets
  dropped := q.dropped
  discarded := q.discarded + q.entries.length
  peak := q.peak
  bounded := capacity.zero_le
  reached := q.peak.zero_le
  balance := by have := q.balance; simp; omega

theorem put_of_lt (h : q.entries.length < capacity) (x : α) :
    (q.put x).entries = q.entries ++ [x] ∧ (q.put x).puts = q.puts + 1 ∧
      (q.put x).gets = q.gets ∧ (q.put x).dropped = q.dropped ∧
      (q.put x).peak = max q.peak (q.entries.length + 1) := by
  simp [put, h]

theorem put_of_full (h : q.entries.length = capacity) (x : α) :
    (q.put x).entries = (q.entries ++ [x]).tail ∧ (q.put x).puts = q.puts + 1 ∧
      (q.put x).gets = q.gets ∧ (q.put x).dropped = q.dropped + 1 ∧
      (q.put x).peak = q.peak := by
  simp [put, h]

theorem get_of_nil (h : q.entries = []) : q.get = q := by
  unfold get
  split
  · rfl
  · simp_all

theorem get_of_cons {x : α} {rest : List α} (h : q.entries = x :: rest) :
    q.get.entries = rest ∧ q.get.puts = q.puts ∧ q.get.gets = q.gets + 1 ∧
      q.get.dropped = q.dropped ∧ q.get.peak = q.peak := by
  unfold get
  split
  · simp_all
  · simp_all

/-- What can be done to a queue. -/
inductive Op (α : Type*)
  | put (x : α)
  | get
  | clear
  | look

def step : Op α → DropOldest α capacity
  | .put x => q.put x
  | .get => q.get
  | .clear => q.clear
  | .look => q

theorem peak_step (op : Op α) : (q.step op).peak = max q.peak (q.step op).entries.length := by
  have hreached := q.reached
  cases op with
  | put x =>
    by_cases h : q.entries.length < capacity
    · simp [step, q.put_of_lt h x]
    · have hfull : q.entries.length = capacity := le_antisymm q.bounded (not_lt.mp h)
      simp [step, q.put_of_full hfull x, hreached]
  | get =>
    cases h : q.entries with
    | nil => simp [step, q.get_of_nil h, h]
    | cons x rest =>
      have hle : rest.length ≤ q.peak := by
        simp only [h, List.length_cons] at hreached
        omega
      simp [step, q.get_of_cons h, hle]
  | clear => simp [step, clear]
  | look => simp [step, hreached]

theorem peak_run (capacity : ℕ) (ops : List (Op α)) :
    IsGreatest {k | ∃ ps, ps <+: ops ∧ k = (run step (empty : DropOldest α capacity) ps).entries.length}
      (run step (empty : DropOldest α capacity) ops).peak := by
  induction ops using List.reverseRecOn with
  | nil => simp [IsGreatest, upperBounds, empty]
  | append_singleton ops op ih =>
    obtain ⟨⟨ps, hps, hlen⟩, hub⟩ := ih
    have hrun : run step (empty : DropOldest α capacity) (ops ++ [op]) =
        (run step (empty : DropOldest α capacity) ops).step op := by
      simp [run]
    rw [hrun, peak_step]
    constructor
    · rcases max_choice (run step (empty : DropOldest α capacity) ops).peak
        ((run step (empty : DropOldest α capacity) ops).step op).entries.length with h | h
      · exact ⟨ps, hps.trans (List.prefix_append _ _), by rw [h, hlen]⟩
      · exact ⟨ops ++ [op], List.prefix_rfl, by rw [h, hrun]⟩
    · rintro k ⟨qs, hqs, rfl⟩
      rcases List.prefix_concat_iff.mp hqs with rfl | hqs
      · simp [hrun]
      · exact le_max_of_le_left (hub ⟨qs, hqs, rfl⟩)

end DropOldest
