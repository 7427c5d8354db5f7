import Mathlib.Tactic

/-!
# A set of small numbers kept as a table of bytes

Number `k` is a member if bit `k % 8` of byte `k / 8` is set. `insertAt` sets a
bit given by byte index and bit index; `scanFree` shifts through one byte until
it meets a clear bit.
-/
namespace ByteBitmap

variable {n : ℕ}

/-- Is `k` a member? Numbers beyond the table are not. -/
def mem (t : Vector UInt8 n) (k : ℕ) : Bool := ((t[k / 8]?).getD 0).toNat.testBit (k % 8)

def setBit (b : UInt8) (j : ℕ) : UInt8 := b ||| UInt8.ofNat (1 <<< j)

def insertAt (t : Vector UInt8 n) (i j : ℕ) (hi : i < n) : Vector UInt8 n :=
  t.set i (setBit t[i] j)

theorem testBit_setBit (b : UInt8) {i j : ℕ} (hj : j < 8) :
    (setBit b j).toNat.testBit i = (b.toNat.testBit i || decide (i = j)) := by
  have hpow : 1 <<< j % 2 ^ 8 = 2 ^ j := by
    rw [Nat.one_shiftLeft, Nat.mod_eq_of_lt (Nat.pow_lt_pow_right (by decide) hj)]
  rw [setBit, UInt8.toNat_or, UInt8.toNat_ofNat', hpow, Nat.testBit_or, Nat.testBit_two_pow]
  simp only [eq_comm]

/-- Inserting adds exactly the number that byte and bit index stand for. -/
theorem mem_insertAt (t : Vector UInt8 n) {i j : ℕ} (hi : i < n) (hj : j < 8) (k : ℕ) :
    mem (insertAt t i j hi) k = (mem t k || decide (k = 8 * i + j)) := by
  unfold mem insertAt
  by_cases hk : k / 8 = i
  · have hbyte : (t.set i (setBit t[i] j))[k / 8]? = some (setBit t[i] j) := by
      subst hk
      simp [hi]
    have hold : t[k / 8]? = some t[i] := by
      subst hk
      simp [hi]
    rw [hbyte, hold, Option.getD_some, Option.getD_some, testBit_setBit _ hj]
    congr 1
    rw [decide_eq_decide]
    omega
  · have hbyte : (t.set i (setBit t[i] j))[k / 8]? = t[k / 8]? :=
      Vector.getElem?_set_ne (by omega) (Ne.symm hk)
    have hne : k ≠ 8 * i + j := by omega
    rw [hbyte, decide_eq_false hne, Bool.or_false]

/-- Shift through the byte, counting up from `k`, until the lowest bit is clear. -/
def scanFree (k b : UInt8) : UInt8 :=
  if _h : b &&& 1 ≠ 0 then scanFree (k + 1) (b >>> 1) else k
termination_by b.toNat
decreasing_by
  have hb : b.toNat ≠ 0 := by
    intro hz
    have hzero : b = 0 := UInt8.toNat_inj.mp hz
    exact _h (by rw [hzero]; decide)
  rw [UInt8.toNat_shiftRight, Nat.shiftRight_eq_div_pow]
  change b.toNat / 2 ^ 1 < b.toNat
  omega

theorem and_one_eq_zero {b : UInt8} : b &&& 1 = 0 ↔ b.toNat.testBit 0 = false := by
  rw [← UInt8.toNat_inj, UInt8.toNat_and]
  change b.toNat &&& 1 = 0 ↔ _
  rw [Nat.and_one_is_mod, Nat.testBit_zero]
  simp

theorem scanFree_spec {b : UInt8} {j : ℕ} (hj : b.toNat.testBit j = false) (k : UInt8) :
    ∃ i ≤ j, b.toNat.testBit i = false ∧ scanFree k b = k + UInt8.ofNat i := by
  induction j generalizing b k with
  | zero =>
    refine ⟨0, le_rfl, hj, ?_⟩
    rw [scanFree, dif_neg (not_not.mpr (and_one_eq_zero.mpr hj))]
    simp
  | succ j ih =>
    by_cases h : b &&& 1 = 0
    · refine ⟨0, Nat.zero_le _, and_one_eq_zero.mp h, ?_⟩
      rw [scanFree, dif_neg (not_not.mpr h)]
      simp
    · have hshift : ∀ i, (b >>> 1).toNat.testBit i = b.toNat.testBit (i + 1) := by
        intro i
        rw [UInt8.toNat_shiftRight, Nat.testBit_shiftRight]
        congr 1
        exact Nat.add_comm 1 i
      obtain ⟨i, hi, hclear, hscan⟩ := ih (by rw [hshift]; exact hj) (k + 1)
      refine ⟨i + 1, by omega, by rw [← hshift]; exact hclear, ?_⟩
      rw [scanFree, dif_pos h, hscan, UInt8.ofNat_add, UInt8.add_assoc, UInt8.add_comm 1]
      rfl

theorem exists_clear {b : UInt8} (h : b ≠ 0xFF) : ∃ j < 8, b.toNat.testBit j = false := by
  have hall : ∀ m < 256, m ≠ 255 → ∃ j < 8, m.testBit j = false := by decide +kernel
  exact hall b.toNat b.toNat_lt fun hb => h (UInt8.toNat_inj.mp hb)

theorem scanFree_least {b : UInt8} (h : b ≠ 0xFF) (k : UInt8) :
    ∃ i < 8, b.toNat.testBit i = false ∧ (∀ j < i, b.toNat.testBit j = true) ∧
      scanFree k b = k + UInt8.ofNat i := by
  obtain ⟨j, hj, hclear⟩ := exists_clear h
  have hex : ∃ j, b.toNat.testBit j = false := ⟨j, hclear⟩
  obtain ⟨i, hi, hbit, hscan⟩ := scanFree_spec (Nat.find_spec hex) k
  have hleast : i = Nat.find hex := le_antisymm hi (Nat.find_min' hex hbit)
  refine ⟨i, (hi.trans (Nat.find_min' hex hclear)).trans_lt hj, hbit, ?_, hscan⟩
  intro m hm
  exact Bool.eq_true_of_not_eq_false (Nat.find_min hex (hleast ▸ hm))

theorem mem_of_full {t : Vector UInt8 n} {k : ℕ} (h : (t[k / 8]?).getD 0 = 0xFF) :
    mem t k = true := by
  have hall : ∀ j < 8, (0xFF : UInt8).toNat.testBit j = true := by decide
  unfold mem
  rw [h]
  exact hall _ (Nat.mod_lt _ (by decide))

end ByteBitmap
