import Mathlib.Data.BitVec

/-!
# Feedback shift registers

A register of `w` bits takes in one bit at a time: it is shifted down, and the bit that leaves it,
plus the one that comes in, decides whether the polynomial is added. While the polynomial has its
top bit, a window of at most `w` bits can be told from the register behind it: the registers that
two different windows leave are different, and stay so.
-/

namespace ShiftRegister

variable {w : ℕ} {p s t : BitVec w} {b : Bool}

def feed (p s : BitVec w) (b : Bool) : BitVec w :=
  if s.getLsbD 0 ^^ b then (s >>> 1) ^^^ p else s >>> 1

def feedAll (p s : BitVec w) (bits : List Bool) : BitVec w := bits.foldl (feed p) s

@[simp] theorem feedAll_nil (p s : BitVec w) : feedAll p s [] = s := rfl

@[simp] theorem feedAll_cons (p s : BitVec w) (b : Bool) (bits : List Bool) :
    feedAll p s (b :: bits) = feedAll p (feed p s b) bits := rfl

theorem feedAll_append (p s : BitVec w) (bits bits' : List Bool) :
    feedAll p s (bits ++ bits') = feedAll p (feedAll p s bits) bits' := List.foldl_append

theorem getLsbD_feed (p s : BitVec w) (b : Bool) (i : ℕ) : (feed p s b).getLsbD i =
    (s.getLsbD (i + 1) ^^ ((s.getLsbD 0 ^^ b) && p.getLsbD i)) := by
  unfold feed
  split_ifs with h <;> simp [h, Nat.add_comm 1 i]

theorem feed_xor (p s t : BitVec w) (a b : Bool) :
    feed p (s ^^^ t) (a ^^ b) = feed p s a ^^^ feed p t b := by
  apply BitVec.eq_of_getLsbD_eq
  intro i _
  simp only [getLsbD_feed, BitVec.getLsbD_xor]
  cases s.getLsbD (i + 1) <;> cases t.getLsbD (i + 1) <;> cases s.getLsbD 0 <;>
    cases t.getLsbD 0 <;> cases a <;> cases b <;> simp

theorem feedAll_xor {u v : List Bool} (hlen : u.length = v.length) (s t : BitVec w) :
    feedAll p (s ^^^ t) (List.zipWith xor u v) = feedAll p s u ^^^ feedAll p t v := by
  induction u generalizing s t v with
  | nil => simp [List.length_eq_zero_iff.mp hlen.symm]
  | cons a u ih =>
    cases v with
    | nil => simp at hlen
    | cons b v =>
      simp only [List.zipWith_cons_cons, feedAll_cons, feed_xor]
      exact ih (Nat.succ.inj hlen) _ _

/-- The register is zero from bit `j` on. -/
def Below (j : ℕ) (s : BitVec w) : Prop := ∀ i, j ≤ i → s.getLsbD i = false

theorem Below.of_feed (hp : p.msb = true) {j : ℕ} (hj : j < w) (h : Below j (feed p s b)) :
    s.getLsbD 0 = b ∧ Below (j + 1) s := by
  have htop : (s.getLsbD 0 ^^ b) = false := by
    have hmsb : p.getLsbD (w - 1) = true := by rwa [← BitVec.msb_eq_getLsbD_last]
    have hlast := h (w - 1) (by omega)
    rw [getLsbD_feed, hmsb, BitVec.getLsbD_of_ge s (w - 1 + 1) (by omega)] at hlast
    simpa using hlast
  refine ⟨by simpa using htop, fun i hi => ?_⟩
  obtain ⟨i, rfl⟩ := Nat.exists_eq_add_of_le' (Nat.le_trans (Nat.le_add_left 1 j) hi)
  have hbit := h i (by omega)
  rw [getLsbD_feed, htop] at hbit
  simpa using hbit

theorem Below.of_feedAll (hp : p.msb = true) {j : ℕ} (bits : List Bool)
    (hj : j + bits.length ≤ w) (h : Below j (feedAll p s bits)) : Below (j + bits.length) s := by
  induction bits generalizing s with
  | nil => exact h
  | cons b bits ih =>
    rw [List.length_cons] at hj
    exact ((ih (by omega) h).of_feed hp (by omega)).2

theorem below_zero : Below 0 (0#w) := fun _ _ => BitVec.getLsbD_zero

theorem eq_zero_of_below (h : Below 0 s) : s = 0#w := by
  apply BitVec.eq_of_getLsbD_eq
  intro i _
  rw [h i (Nat.zero_le i), BitVec.getLsbD_zero]

/-- Only zeros lead from an empty register to an empty one, within its width. -/
theorem eq_false_of_feedAll (hp : p.msb = true) (bits : List Bool) (hw : bits.length ≤ w)
    (h : feedAll p 0#w bits = 0#w) : ∀ b ∈ bits, b = false := by
  induction bits with
  | nil => simp
  | cons b bits ih =>
    rw [List.length_cons] at hw
    rw [feedAll_cons] at h
    have hbelow : Below 0 (feedAll p (feed p 0#w b) bits) := by
      rw [h]
      exact below_zero
    have hfirst := (hbelow.of_feedAll hp bits (by omega)).of_feed hp (by omega)
    have hb : b = false := by simpa [eq_comm] using hfirst.1
    subst hb
    have hsame : feed p 0#w false = 0#w := by simp [feed]
    rw [hsame] at h
    intro b' hb'
    rcases List.mem_cons.mp hb' with rfl | hmem
    · rfl
    · exact ih (by omega) h b' hmem

theorem feed_injective (hp : p.msb = true) (b : Bool) (h : feed p s b = feed p t b) : s = t := by
  have hw : 0 < w := by
    by_contra hzero
    obtain rfl : w = 0 := by omega
    simp [BitVec.msb] at hp
  have hzero : feed p (s ^^^ t) (b ^^ b) = 0#w := by rw [feed_xor, h, BitVec.xor_self]
  have hbelow : Below 0 (feed p (s ^^^ t) (b ^^ b)) := by
    rw [hzero]
    exact below_zero
  obtain ⟨hbit, hrest⟩ := hbelow.of_feed hp hw
  have hxor : s ^^^ t = 0#w := by
    apply eq_zero_of_below
    intro i _
    cases i with
    | zero => simpa using hbit
    | succ i => exact hrest (i + 1) (by omega)
  rwa [BitVec.xor_eq_zero_iff] at hxor

theorem feedAll_injective (hp : p.msb = true) (bits : List Bool)
    (h : feedAll p s bits = feedAll p t bits) : s = t := by
  induction bits generalizing s t with
  | nil => exact h
  | cons b bits ih => exact feed_injective hp b (ih h)

theorem window_ne (hp : p.msb = true) {u v : List Bool} (hlen : u.length = v.length)
    (hw : u.length ≤ w) (hne : u ≠ v) : feedAll p s u ≠ feedAll p s v := by
  intro heq
  have hzero : feedAll p 0#w (List.zipWith xor u v) = 0#w := by
    have hxor := feedAll_xor (p := p) hlen s s
    rwa [BitVec.xor_self, heq, BitVec.xor_self] at hxor
  have hall := eq_false_of_feedAll hp _ (by simpa [← hlen] using hw) hzero
  apply hne
  apply List.ext_getElem hlen
  intro i hu hv
  have hi : i < (List.zipWith xor u v).length := by simp [← hlen, hu]
  have hbit := hall _ (List.getElem_mem hi)
  rw [List.getElem_zipWith] at hbit
  simpa using hbit

/-- A burst of at most `w` bits is seen in the register behind it, however many bits follow. -/
theorem burst_ne (hp : p.msb = true) (before after : List Bool) {u v : List Bool}
    (hlen : u.length = v.length) (hw : u.length ≤ w) (hne : u ≠ v) :
    feedAll p s (before ++ u ++ after) ≠ feedAll p s (before ++ v ++ after) := by
  intro heq
  rw [feedAll_append, feedAll_append, feedAll_append, feedAll_append] at heq
  exact window_ne hp hlen hw hne (feedAll_injective hp after heq)

/-- Lists that agree outside of a window are told apart by the register. -/
theorem feedAll_ne_of_window (hp : p.msb = true) {u v : List Bool} (hlen : u.length = v.length)
    (hne : u ≠ v) {start : ℕ} (hwindow : ∀ i, u[i]? ≠ v[i]? → start ≤ i ∧ i < start + w) :
    feedAll p s u ≠ feedAll p s v := by
  have hsplit : ∀ l : List Bool,
      l = l.take start ++ (l.drop start).take w ++ l.drop (start + w) := by
    intro l
    rw [← List.drop_drop, List.append_assoc, List.take_append_drop, List.take_append_drop]
  have hbefore : u.take start = v.take start := by
    apply List.ext_getElem?
    intro i
    by_cases hi : i < start
    · have hsame : u[i]? = v[i]? := by
        by_contra hi'
        have := hwindow i hi'
        omega
      simp [hi, hsame]
    · simp [hi]
  have hafter : u.drop (start + w) = v.drop (start + w) := by
    apply List.ext_getElem?
    intro i
    rw [List.getElem?_drop, List.getElem?_drop]
    by_contra hi
    have := hwindow _ hi
    omega
  have hwindow_ne : (u.drop start).take w ≠ (v.drop start).take w := by
    intro heq
    apply hne
    rw [hsplit u, hsplit v, hbefore, heq, hafter]
  rw [hsplit u, hsplit v, hbefore, hafter]
  refine burst_ne hp _ _ ?_ ?_ hwindow_ne
  · simp [hlen]
  · simp

end ShiftRegister
