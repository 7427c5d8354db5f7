import Mathlib.Tactic

/-!
# Ledgers of claims and reports

Every slot of a table is free or held for a key. A ledger lists the claims of slots and the
reports that release them, in order. It leads from one table to another if only free slots are
claimed, and every report releases a slot that is held for the key it is about.
-/

namespace SlotLedger

variable {κ ρ : Type*} {keyOf : ρ → κ} {table table' table'' : List (Option κ)}

/-- One entry: a slot is claimed for a key, or released with a report. -/
inductive Entry (κ ρ : Type*)
  | claimed (slot : ℕ) (key : κ)
  | released (slot : ℕ) (report : ρ)

def Entry.report? : Entry κ ρ → Option ρ
  | .claimed _ _ => none
  | .released _ r => some r

def Entry.isClaim : Entry κ ρ → Bool
  | .claimed _ _ => true
  | .released _ _ => false

def reports (log : List (Entry κ ρ)) : List ρ := log.filterMap Entry.report?

def claims (log : List (Entry κ ρ)) : ℕ := log.countP Entry.isClaim

def held (table : List (Option κ)) : ℕ := table.countP (·.isSome)

@[simp] theorem reports_nil : reports ([] : List (Entry κ ρ)) = [] := rfl

@[simp] theorem reports_claimed (i : ℕ) (k : κ) (log : List (Entry κ ρ)) :
    reports (.claimed i k :: log) = reports log := rfl

@[simp] theorem reports_released (i : ℕ) (r : ρ) (log : List (Entry κ ρ)) :
    reports (.released i r :: log) = r :: reports log := rfl

@[simp] theorem reports_append (log log' : List (Entry κ ρ)) :
    reports (log ++ log') = reports log ++ reports log' := List.filterMap_append

@[simp] theorem claims_nil : claims ([] : List (Entry κ ρ)) = 0 := rfl

@[simp] theorem claims_claimed (i : ℕ) (k : κ) (log : List (Entry κ ρ)) :
    claims (.claimed i k :: log) = claims log + 1 := List.countP_cons_of_pos rfl

@[simp] theorem claims_released (i : ℕ) (r : ρ) (log : List (Entry κ ρ)) :
    claims (.released i r :: log) = claims log :=
  List.countP_cons_of_neg Bool.false_ne_true

/-- The ledger leads from one table to the other. -/
inductive Leads (keyOf : ρ → κ) :
    List (Option κ) → List (Entry κ ρ) → List (Option κ) → Prop
  | nil (table : List (Option κ)) : Leads keyOf table [] table
  | claim {table table' : List (Option κ)} {log : List (Entry κ ρ)} {i : ℕ} (k : κ) :
      table[i]? = some none → Leads keyOf (table.set i (some k)) log table' →
      Leads keyOf table (.claimed i k :: log) table'
  | release {table table' : List (Option κ)} {log : List (Entry κ ρ)} {i : ℕ} (r : ρ) :
      table[i]? = some (some (keyOf r)) → Leads keyOf (table.set i none) log table' →
      Leads keyOf table (.released i r :: log) table'

theorem Leads.claimed {i : ℕ} {k : κ} (h : table[i]? = some none) :
    Leads keyOf table [.claimed i k] (table.set i (some k)) := .claim k h (.nil _)

theorem Leads.released {i : ℕ} {r : ρ} (h : table[i]? = some (some (keyOf r))) :
    Leads keyOf table [.released i r] (table.set i none) := .release r h (.nil _)

theorem Leads.append {log log' : List (Entry κ ρ)} (h : Leads keyOf table log table')
    (h' : Leads keyOf table' log' table'') : Leads keyOf table (log ++ log') table'' := by
  induction h with
  | nil table => exact h'
  | claim k hfree hrest ih => exact .claim k hfree (ih h')
  | release r hheld hrest ih => exact .release r hheld (ih h')

theorem Leads.split {log log' : List (Entry κ ρ)} (h : Leads keyOf table (log ++ log') table'') :
    ∃ table', Leads keyOf table log table' ∧ Leads keyOf table' log' table'' := by
  induction log generalizing table with
  | nil => exact ⟨table, .nil table, h⟩
  | cons e log ih =>
    cases h with
    | claim k hfree hrest =>
      obtain ⟨table', hlog, hlog'⟩ := ih hrest
      exact ⟨table', .claim k hfree hlog, hlog'⟩
    | release r hheld hrest =>
      obtain ⟨table', hlog, hlog'⟩ := ih hrest
      exact ⟨table', .release r hheld hlog, hlog'⟩

theorem held_set {i : ℕ} {slot : Option κ} (h : table[i]? = some slot) (slot' : Option κ) :
    held (table.set i slot') + (if slot.isSome then 1 else 0) =
      held table + (if slot'.isSome then 1 else 0) := by
  obtain ⟨hi, rfl⟩ := List.getElem?_eq_some_iff.mp h
  have hpos : table[i].isSome = true → 0 < held table := fun hs =>
    List.countP_pos_iff.mpr ⟨_, List.getElem_mem hi, hs⟩
  unfold held at hpos ⊢
  rw [List.countP_set hi]
  split_ifs with hold hnew hnew <;> simp_all

theorem Leads.conserved {log : List (Entry κ ρ)} (h : Leads keyOf table log table') :
    held table + claims log = (reports log).length + held table' := by
  induction h with
  | nil table => simp
  | claim k hfree hrest ih =>
    have hset := held_set hfree (some k)
    simp at hset ⊢
    omega
  | release r hheld hrest ih =>
    have hset := held_set hheld none
    simp at hset ⊢
    omega

theorem Leads.stays_free {log : List (Entry κ ρ)} {i : ℕ} (h : Leads keyOf table log table')
    (hfree : table[i]? = some none) (hnone : ∀ k, .claimed i k ∉ log) :
    table'[i]? = some none := by
  induction h with
  | nil table => exact hfree
  | @claim table table' log j k hj hrest ih =>
    have hne : j ≠ i := fun he => hnone k (by simp [he])
    apply ih
    · rw [List.getElem?_set_ne hne, hfree]
    · exact fun k' hmem => hnone k' (List.mem_cons_of_mem _ hmem)
  | @release table table' log j r hj hrest ih =>
    have hne : j ≠ i := by
      rintro rfl
      simp [hfree] at hj
    apply ih
    · rw [List.getElem?_set_ne hne, hfree]
    · exact fun k' hmem => hnone k' (List.mem_cons_of_mem _ hmem)

theorem Leads.reported_once {before between after : List (Entry κ ρ)} {i : ℕ} {r r' : ρ}
    (h : Leads keyOf table (before ++ .released i r :: (between ++ .released i r' :: after))
      table') : ∃ k, .claimed i k ∈ between := by
  obtain ⟨first, -, hrest⟩ := h.split
  cases hrest with
  | release _ hheld hrest =>
    obtain ⟨second, hbetween, hrest⟩ := hrest.split
    cases hrest with
    | release _ hheld' _ =>
      by_contra hnone
      have hfree : (first.set i none)[i]? = some none := by
        rw [List.getElem?_set_self (List.getElem?_eq_some_iff.mp hheld).1]
      have hfree' := hbetween.stays_free hfree fun k hmem => hnone ⟨k, hmem⟩
      simp [hfree'] at hheld'

end SlotLedger
