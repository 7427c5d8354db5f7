import Mathlib.Data.List.Basic
import Mathlib.Logic.Function.Basic

/-!
# Cells that do not overlap

A state is read cell by cell, with values of a type of their own for each cell, and changed by
writes that name one cell. If every single write updates the reading of its cell and of no
other, then a run of writes leaves in every cell the value last written to it.
-/

namespace IndependentCells

variable {σ κ ω : Type*} [DecidableEq κ] {V : κ → Type*}

/-- The contents of all cells after some writes, each cell with the value last written to it. -/
def latest (cell : ω → κ) (value : (w : ω) → V (cell w)) (m : (a : κ) → V a) (ws : List ω) :
    (a : κ) → V a :=
  ws.foldl (fun m w => Function.update m (cell w) (value w)) m

/-- A write in a state of this invariant changes the valid cell that it names and no other
valid cell. -/
structure Independent (Inv : σ → Prop) (Valid : κ → Prop) (read : σ → (a : κ) → V a)
    (step : σ → ω → σ) (cell : ω → κ) (value : (w : ω) → V (cell w)) : Prop where
  keeps : ∀ s w, Inv s → Valid (cell w) → Inv (step s w)
  read_step : ∀ s w a, Inv s → Valid (cell w) → Valid a →
    read (step s w) a = Function.update (read s) (cell w) (value w) a

variable {Inv : σ → Prop} {Valid : κ → Prop} {read : σ → (a : κ) → V a} {step : σ → ω → σ}
  {cell : ω → κ} {value : (w : ω) → V (cell w)}

/-- What a cell has after some writes depends on the writes and on what it had. -/
theorem latest_congr {m m' : (a : κ) → V a} {a : κ} (h : m a = m' a) (ws : List ω) :
    latest cell value m ws a = latest cell value m' ws a := by
  unfold latest
  induction ws generalizing m m' with
  | nil => exact h
  | cons w ws ih =>
    rw [List.foldl_cons, List.foldl_cons]
    apply ih
    by_cases ha : a = cell w
    · subst ha
      rw [Function.update_self, Function.update_self]
    · rw [Function.update_of_ne ha, Function.update_of_ne ha, h]

/-- After a run of writes every cell is read as the value last written to it. -/
theorem Independent.read_run (h : Independent Inv Valid read step cell value) {s : σ} (hs : Inv s)
    {ws : List ω} (hws : ∀ w ∈ ws, Valid (cell w)) {a : κ} (ha : Valid a) :
    read (ws.foldl step s) a = latest cell value (read s) ws a := by
  induction ws generalizing s with
  | nil => rfl
  | cons w ws ih =>
    have hw : Valid (cell w) := hws w List.mem_cons_self
    have hrest : ∀ x ∈ ws, Valid (cell x) := fun x hx => hws x (List.mem_cons_of_mem w hx)
    rw [List.foldl_cons, ih (h.keeps s w hs hw) hrest]
    exact latest_congr (h.read_step s w a hs hw ha) ws

end IndependentCells
