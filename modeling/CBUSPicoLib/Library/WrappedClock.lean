import Mathlib.Tactic

/-!
# Clocks that wrap

Time goes on without bound, and a clock shows it modulo `2 ^ 32`. The difference of two readings is
the time between them as long as that is below `2 ^ 32`, and never more than it.
-/

namespace WrappedClock

variable {a b : ℕ} {d : UInt32}

theorem toNat_elapsed (hle : a ≤ b) :
    (UInt32.ofNat b - UInt32.ofNat a).toNat = (b - a) % 2 ^ 32 := by
  rw [← UInt32.ofNat_sub hle, UInt32.toNat_ofNat']

theorem add_le_of_elapsed (hle : a ≤ b) (h : d ≤ UInt32.ofNat b - UInt32.ofNat a) :
    a + d.toNat ≤ b := by
  rw [UInt32.le_iff_toNat_le, toNat_elapsed hle] at h
  have hmod := Nat.mod_le (b - a) (2 ^ 32)
  omega

theorem add_lt_of_elapsed (hle : a ≤ b) (h : d < UInt32.ofNat b - UInt32.ofNat a) :
    a + d.toNat < b := by
  rw [UInt32.lt_iff_toNat_lt, toNat_elapsed hle] at h
  have hmod := Nat.mod_le (b - a) (2 ^ 32)
  omega

end WrappedClock
