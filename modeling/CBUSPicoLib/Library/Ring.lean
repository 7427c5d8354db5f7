import Mathlib.Data.List.Basic
import Mathlib.Data.Nat.ModEq

/-!
# Rings of slots

A window onto a list of slots: the entries of the first `n` slots from `tail` on,
taken round the end. Positions are natural numbers; only their remainder by the
number of slots counts.
-/
namespace Ring

variable {α : Type*}

def window (slots : List α) (tail : ℕ) : ℕ → List α
  | 0 => []
  | n + 1 => slots[tail % slots.length]?.toList ++ window slots (tail + 1) n

@[simp] theorem window_zero (slots : List α) (tail : ℕ) : window slots tail 0 = [] := rfl

theorem getElem?_mod {slots : List α} (h : 0 < slots.length) (tail : ℕ) :
    ∃ x, slots[tail % slots.length]? = some x :=
  ⟨_, List.getElem?_eq_getElem (Nat.mod_lt tail h)⟩

theorem window_succ {slots : List α} {tail : ℕ} {x : α}
    (hx : slots[tail % slots.length]? = some x) (n : ℕ) :
    window slots tail (n + 1) = x :: window slots (tail + 1) n := by
  simp [window, hx]

@[simp] theorem length_window {slots : List α} (h : 0 < slots.length) (tail n : ℕ) :
    (window slots tail n).length = n := by
  induction n generalizing tail with
  | zero => rfl
  | succ n ih =>
    obtain ⟨x, hx⟩ := getElem?_mod h tail
    simp [window_succ hx, ih]

theorem window_congr {slots : List α} {tail tail' : ℕ} (n : ℕ)
    (h : tail % slots.length = tail' % slots.length) :
    window slots tail n = window slots tail' n := by
  induction n generalizing tail tail' with
  | zero => rfl
  | succ n ih =>
    have hnext : (tail + 1) % slots.length = (tail' + 1) % slots.length := Nat.ModEq.add_right 1 h
    simp [window, h, ih hnext]

@[simp] theorem window_mod (slots : List α) (tail n : ℕ) :
    window slots (tail % slots.length) n = window slots tail n :=
  window_congr n (Nat.mod_mod _ _)

theorem window_succ_last (slots : List α) (tail n : ℕ) :
    window slots tail (n + 1) =
      window slots tail n ++ slots[(tail + n) % slots.length]?.toList := by
  induction n generalizing tail with
  | zero => simp [window]
  | succ n ih =>
    have hpos : tail + 1 + n = tail + (n + 1) := by omega
    rw [window, ih (tail + 1), hpos]
    simp [window]

theorem add_mod_ne {capacity i n : ℕ} (hi : i < n) (hn : n < capacity) (tail : ℕ) :
    (tail + i) % capacity ≠ (tail + n) % capacity := by
  intro h
  have hmod : i % capacity = n % capacity := Nat.ModEq.add_left_cancel' tail h
  rw [Nat.mod_eq_of_lt (hi.trans hn), Nat.mod_eq_of_lt hn] at hmod
  omega

theorem add_mod_eq_self {capacity tail n : ℕ} (ht : tail < capacity) (h0 : 0 < n)
    (hn : n ≤ capacity) : (tail + n) % capacity = tail ↔ n = capacity := by
  constructor
  · intro h
    by_contra hne
    have hback := add_mod_ne h0 (lt_of_le_of_ne hn hne) tail
    rw [h, Nat.add_zero, Nat.mod_eq_of_lt ht] at hback
    exact hback rfl
  · rintro rfl
    rw [Nat.add_mod_right, Nat.mod_eq_of_lt ht]

theorem window_set_outside (slots : List α) {tail n j : ℕ} (x : α)
    (h : ∀ i < n, (tail + i) % slots.length ≠ j) :
    window (slots.set j x) tail n = window slots tail n := by
  induction n with
  | zero => rfl
  | succ n ih =>
    have hlast := h n n.lt_succ_self
    rw [window_succ_last, window_succ_last, ih fun i hi => h i (hi.trans n.lt_succ_self)]
    simp [hlast.symm]

theorem window_put {slots : List α} {n : ℕ} (hn : n < slots.length) (tail : ℕ) (x : α) :
    window (slots.set ((tail + n) % slots.length) x) tail (n + 1) =
      window slots tail n ++ [x] := by
  have hlt : (tail + n) % slots.length < slots.length := Nat.mod_lt _ (by omega)
  rw [window_succ_last, window_set_outside slots x fun i hi => add_mod_ne hi hn tail]
  simp [hlt]

theorem window_put_full {slots : List α} (h : 0 < slots.length) (tail : ℕ) (x : α) :
    window (slots.set (tail % slots.length) x) (tail + 1) slots.length =
      (window slots tail slots.length).tail ++ [x] := by
  obtain ⟨n, hn⟩ := Nat.exists_eq_succ_of_ne_zero h.ne'
  obtain ⟨y, hy⟩ := getElem?_mod h tail
  have hslot : tail % slots.length = (tail + 1 + n) % slots.length := by
    have hround : tail + 1 + n = tail + slots.length := by omega
    rw [hround, Nat.add_mod_right]
  have hroom : n < slots.length := by omega
  have hput := window_put hroom (tail + 1) x
  rw [hslot, hn, Nat.succ_eq_add_one, window_succ hy, List.tail_cons, ← hput, hn]

end Ring
