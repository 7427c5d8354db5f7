import Mathlib.Data.Fin.Basic

/-!
# Fixed-size memories with guarded access

A memory of `n` cells is read and written through natural addresses. An access
beyond the last cell reads a default value and writes nothing, the convention
of bounds-checked accessors over a raw array.
-/

abbrev Memory (n : ℕ) (β : Type*) := Fin n → β

namespace Memory

variable {n : ℕ} {β : Type*}

def read (m : Memory n β) (outside : β) (a : ℕ) : β :=
  if h : a < n then m ⟨a, h⟩ else outside

/-- No cell has an address beyond the last one, so such a write changes nothing. -/
def write (m : Memory n β) (a : ℕ) (v : β) : Memory n β :=
  fun i => if i.val = a then v else m i

/-- Cell-wise combination, the shape of every whole-memory device operation. -/
def zipWith (f : β → β → β) (m k : Memory n β) : Memory n β :=
  fun i => f (m i) (k i)

def const (v : β) : Memory n β := fun _ => v

theorem read_of_lt {m : Memory n β} {outside : β} {a : ℕ} (h : a < n) :
    m.read outside a = m ⟨a, h⟩ := dif_pos h

@[simp] theorem read_const (v outside : β) (a : ℕ) :
    (const v : Memory n β).read outside a = if a < n then v else outside := by
  unfold read const
  split_ifs <;> rfl

theorem read_write (m : Memory n β) (a b : ℕ) (v outside : β) :
    (m.write a v).read outside b = if b = a ∧ b < n then v else m.read outside b := by
  unfold read write
  by_cases hb : b < n <;> simp [hb]

theorem read_write_ne {m : Memory n β} {a b : ℕ} {v outside : β} (h : b ≠ a) :
    (m.write a v).read outside b = m.read outside b := by
  rw [read_write, if_neg fun hb => h hb.1]

theorem ext_read {m k : Memory n β} (outside : β) (h : ∀ a, m.read outside a = k.read outside a) :
    m = k := by
  funext i
  have hi := h i
  rwa [read_of_lt i.isLt, read_of_lt i.isLt] at hi

theorem write_eq_self {m : Memory n β} {a : ℕ} {v outside : β} (h : m.read outside a = v) :
    m.write a v = m := by
  funext i
  by_cases hi : i.val = a
  · subst hi
    simpa [write, read, i.isLt] using h.symm
  · simp [write, hi]

end Memory
