import Mathlib.Data.List.Basic

/-!
# Runs of a deterministic system

A run feeds a list of events to a step function. What one step preserves, every
run preserves; if a step preserves it only under a guard on the state and the
event, then every run whose steps all meet their guard does. A step that can
fault yields an option, and a run with a fault has no result.
-/
namespace Runs

variable {σ ε : Type*} {step : σ → ε → σ} {guard : σ → ε → Prop} {inv : σ → Prop}

def run (step : σ → ε → σ) (s : σ) (es : List ε) : σ := es.foldl step s

@[simp] theorem run_nil (s : σ) : run step s [] = s := rfl

@[simp] theorem run_cons (s : σ) (e : ε) (es : List ε) :
    run step s (e :: es) = run step (step s e) es := rfl

theorem run_append (s : σ) (es fs : List ε) :
    run step s (es ++ fs) = run step (run step s es) fs := List.foldl_append

/-- Every event meets the guard in the state in which it is taken. -/
def Guarded (step : σ → ε → σ) (guard : σ → ε → Prop) : σ → List ε → Prop
  | _, [] => True
  | s, e :: es => guard s e ∧ Guarded step guard (step s e) es

theorem Guarded.of_append {s : σ} {es fs : List ε} (h : Guarded step guard s (es ++ fs)) :
    Guarded step guard s es := by
  induction es generalizing s with
  | nil => trivial
  | cons e es ih => exact ⟨h.1, ih h.2⟩

theorem Guarded.append {s : σ} {es fs : List ε} (h : Guarded step guard s es)
    (h' : Guarded step guard (run step s es) fs) : Guarded step guard s (es ++ fs) := by
  induction es generalizing s with
  | nil => exact h'
  | cons e es ih => exact ⟨h.1, ih h.2 h'⟩

theorem Guarded.and {guard' : σ → ε → Prop} {s : σ} {es : List ε} (h : Guarded step guard s es)
    (h' : Guarded step guard' s es) : Guarded step (fun s e => guard s e ∧ guard' s e) s es := by
  induction es generalizing s with
  | nil => trivial
  | cons e es ih => exact ⟨⟨h.1, h'.1⟩, ih h.2 h'.2⟩

theorem Guarded.last {s : σ} {e : ε} {es : List ε} (h : Guarded step guard s (es ++ [e])) :
    guard (run step s es) e := by
  induction es generalizing s with
  | nil => exact h.1
  | cons e' es ih => exact ih h.2

theorem guarded_iff_forall_last {s : σ} {es : List ε} :
    Guarded step guard s es ↔ ∀ ps e, ps ++ [e] <+: es → guard (run step s ps) e := by
  constructor
  · rintro hg ps e ⟨fs, rfl⟩
    exact hg.of_append.last
  · intro hall
    induction es generalizing s with
    | nil => trivial
    | cons e es ih =>
      refine ⟨hall [] e (by simp), ih fun ps e' hps => ?_⟩
      exact hall (e :: ps) e' (List.cons_prefix_cons.mpr ⟨rfl, hps⟩)

/-- A run that does not move under its guard is guarded in the state it starts from. -/
theorem guarded_iff_forall_mem {s : σ} (hfix : ∀ e, guard s e → step s e = s) (es : List ε) :
    Guarded step guard s es ↔ ∀ e ∈ es, guard s e := by
  induction es with
  | nil => simp [Guarded]
  | cons e es ih =>
    rw [List.forall_mem_cons, ← ih]
    refine and_congr_right fun hg => ?_
    rw [hfix e hg]

theorem Guarded.invariant (hstep : ∀ s e, inv s → guard s e → inv (step s e)) {s : σ}
    {es : List ε} (hg : Guarded step guard s es) (h : inv s) : inv (run step s es) := by
  induction es generalizing s with
  | nil => exact h
  | cons e es ih => exact ih hg.2 (hstep s e h hg.1)

/-- The invariant holds in every state that a guarded run passes through. -/
theorem Guarded.invariant_prefix (hstep : ∀ s e, inv s → guard s e → inv (step s e)) {s : σ}
    {es ps : List ε} (hg : Guarded step guard s es) (h : inv s) (hp : ps <+: es) :
    inv (run step s ps) := by
  obtain ⟨fs, rfl⟩ := hp
  exact hg.of_append.invariant hstep h

/-- If every unguarded step leads out of the good states, they are never left exactly
in the guarded runs. -/
theorem forall_prefix_iff_guarded {good : σ → Prop}
    (hstep : ∀ s e, inv s → guard s e → inv (step s e)) (hgood : ∀ s, inv s → good s)
    (hbad : ∀ s e, inv s → ¬ guard s e → ¬ good (step s e)) {s : σ} (h : inv s) (es : List ε) :
    (∀ ps, ps <+: es → good (run step s ps)) ↔ Guarded step guard s es := by
  constructor
  · intro hall
    induction es generalizing s with
    | nil => trivial
    | cons e es ih =>
      have hg : guard s e := by
        by_contra hng
        exact hbad s e h hng (hall [e] (by simp))
      refine ⟨hg, ih (hstep s e h hg) fun ps hps => ?_⟩
      exact hall (e :: ps) (List.cons_prefix_cons.mpr ⟨rfl, hps⟩)
  · intro hg ps hps
    exact hgood _ (hg.invariant_prefix hstep h hps)

theorem run_invariant (hstep : ∀ s e, inv s → inv (step s e)) {s : σ} (h : inv s)
    (es : List ε) : inv (run step s es) := by
  induction es generalizing s with
  | nil => exact h
  | cons e es ih => exact ih (hstep s e h)

section Simulation

variable {τ α : Type*} {astep : τ → α → τ} {emits : σ → ε → List α} {rel : σ → τ → Prop}

def emitted (step : σ → ε → σ) (emits : σ → ε → List α) : σ → List ε → List α
  | _, [] => []
  | s, e :: es => emits s e ++ emitted step emits (step s e) es

/-- If every guarded step keeps a relation to the other system, every guarded run does. -/
theorem Guarded.simulates
    (hstep : ∀ s e t, rel s t → guard s e → rel (step s e) (run astep t (emits s e))) {s : σ}
    {t : τ} {es : List ε} (hg : Guarded step guard s es) (h : rel s t) :
    rel (run step s es) (run astep t (emitted step emits s es)) := by
  induction es generalizing s t with
  | nil => exact h
  | cons e es ih =>
    rw [emitted, run_append, run_cons]
    exact ih hg.2 (hstep s e t h hg.1)

/-- A run of a system whose steps leave a choice. -/
inductive Trace (rstep : τ → α → τ → Prop) : τ → List α → τ → Prop
  | nil (t : τ) : Trace rstep t [] t
  | cons {t t' t'' : τ} {a : α} {as : List α} (first : rstep t a t')
      (rest : Trace rstep t' as t'') : Trace rstep t (a :: as) t''

variable {rstep : τ → α → τ → Prop}

theorem Trace.append {t t' t'' : τ} {as bs : List α} (h : Trace rstep t as t')
    (k : Trace rstep t' bs t'') : Trace rstep t (as ++ bs) t'' := by
  induction h with
  | nil _ => exact k
  | cons first _ ih => exact .cons first (ih k)

end Simulation

section Faulting

variable {step : σ → ε → Option σ}

def runOption (step : σ → ε → Option σ) (s : σ) (es : List ε) : Option σ := es.foldlM step s

@[simp] theorem runOption_nil (s : σ) : runOption step s [] = some s := rfl

theorem runOption_cons {s s' : σ} {e : ε} (h : step s e = some s') (es : List ε) :
    runOption step s (e :: es) = runOption step s' es := by
  unfold runOption
  rw [List.foldlM_cons, h]
  rfl

theorem runOption_cons_eq_some {s t : σ} {e : ε} {es : List ε} :
    runOption step s (e :: es) = some t ↔
      ∃ s', step s e = some s' ∧ runOption step s' es = some t := by
  unfold runOption
  rw [List.foldlM_cons]
  exact Option.bind_eq_some_iff

/-- Every event meets the guard in the state in which it is taken. -/
def GuardedOption (step : σ → ε → Option σ) (guard : σ → ε → Prop) : σ → List ε → Prop
  | _, [] => True
  | s, e :: es => guard s e ∧ ∀ s', step s e = some s' → GuardedOption step guard s' es

theorem guardedOption_true (s : σ) (es : List ε) :
    GuardedOption step (fun _ _ => True) s es := by
  induction es generalizing s with
  | nil => trivial
  | cons e es ih => exact ⟨trivial, fun s' _ => ih s'⟩

theorem GuardedOption.of_prefix {s : σ} {es ps : List ε} (h : GuardedOption step guard s es)
    (hp : ps <+: es) : GuardedOption step guard s ps := by
  induction ps generalizing s es with
  | nil => trivial
  | cons e ps ih =>
    obtain ⟨rest, rfl⟩ := hp
    exact ⟨h.1, fun s' hs' => ih (h.2 s' hs') (List.prefix_append ps rest)⟩

theorem runOption_invariant (hstep : ∀ s e s', inv s → step s e = some s' → inv s') {s t : σ}
    {es : List ε} (h : inv s) (hrun : runOption step s es = some t) : inv t := by
  induction es generalizing s with
  | nil => exact Option.some.inj hrun ▸ h
  | cons e es ih =>
    obtain ⟨s', hs', hrest⟩ := runOption_cons_eq_some.mp hrun
    exact ih (hstep s e s' h hs') hrest

theorem runOption_total {es : List ε}
    (hstep : ∀ s, ∀ e ∈ es, inv s → ∃ s', step s e = some s' ∧ inv s') {s : σ} (h : inv s) :
    ∃ t, runOption step s es = some t ∧ inv t := by
  induction es generalizing s with
  | nil => exact ⟨s, rfl, h⟩
  | cons e es ih =>
    obtain ⟨s', hs', h'⟩ := hstep s e List.mem_cons_self h
    rw [runOption_cons hs']
    exact ih (fun s e he => hstep s e (List.mem_cons_of_mem _ he)) h'

/-- If the guard says which events do not fault, a run has a result exactly if it is guarded. -/
theorem exists_runOption_iff_guardedOption (hguard : ∀ s e, (step s e).isSome = true ↔ guard s e)
    (s : σ) (es : List ε) : (∃ t, runOption step s es = some t) ↔ GuardedOption step guard s es := by
  induction es generalizing s with
  | nil => exact ⟨fun _ => trivial, fun _ => ⟨s, rfl⟩⟩
  | cons e es ih =>
    constructor
    · rintro ⟨t, ht⟩
      obtain ⟨s', hs', hrest⟩ := runOption_cons_eq_some.mp ht
      refine ⟨(hguard s e).mp (Option.isSome_iff_exists.mpr ⟨s', hs'⟩), fun s'' hs'' => ?_⟩
      cases hs'.symm.trans hs''
      exact (ih s').mp ⟨t, hrest⟩
    · rintro ⟨hg, hrest⟩
      obtain ⟨s', hs'⟩ := Option.isSome_iff_exists.mp ((hguard s e).mpr hg)
      obtain ⟨t, ht⟩ := (ih s').mpr (hrest s' hs')
      exact ⟨t, runOption_cons_eq_some.mpr ⟨s', hs', ht⟩⟩

theorem runOption_fixed {s : σ} {es : List ε} (hstep : ∀ e ∈ es, step s e = some s) :
    runOption step s es = some s := by
  induction es with
  | nil => rfl
  | cons e es ih =>
    rw [runOption_cons (hstep e List.mem_cons_self)]
    exact ih fun e he => hstep e (List.mem_cons_of_mem _ he)

/-- If every legal but unguarded step leads out of the good states, a legal run
passes through good states only, without a fault, exactly if it is guarded. -/
theorem forall_prefix_iff_guardedOption {legal : σ → ε → Prop} {good : σ → Prop}
    (hstep : ∀ s e, inv s → legal s e → guard s e → ∃ s', step s e = some s' ∧ inv s')
    (hgood : ∀ s, inv s → good s)
    (hbad : ∀ s e s', inv s → legal s e → ¬ guard s e → step s e = some s' → ¬ good s') {s : σ}
    (h : inv s) {es : List ε} (hl : GuardedOption step legal s es) :
    (∀ ps, ps <+: es → ∃ s', runOption step s ps = some s' ∧ good s') ↔
      GuardedOption step guard s es := by
  induction es generalizing s with
  | nil =>
    constructor
    · exact fun _ => trivial
    · intro _ ps hps
      rw [List.prefix_nil.mp hps]
      exact ⟨s, rfl, hgood s h⟩
  | cons e es ih =>
    constructor
    · intro hall
      obtain ⟨s', hrun, hs'⟩ := hall [e] (by simp)
      obtain ⟨s₁, hs₁, heq⟩ := runOption_cons_eq_some.mp hrun
      cases heq
      have hg : guard s e := by
        by_contra hng
        exact hbad s e s' h hl.1 hng hs₁ hs'
      obtain ⟨s₂, hs₂, hinv⟩ := hstep s e h hl.1 hg
      refine ⟨hg, fun s₃ hs₃ => ?_⟩
      cases hs₂.symm.trans hs₃
      apply (ih hinv (hl.2 _ hs₂)).mp
      intro ps hps
      obtain ⟨t, ht, hgt⟩ := hall (e :: ps) (List.cons_prefix_cons.mpr ⟨rfl, hps⟩)
      rw [runOption_cons hs₂] at ht
      exact ⟨t, ht, hgt⟩
    · rintro ⟨hg, hrest⟩ ps hps
      obtain ⟨s₁, hs₁, hinv⟩ := hstep s e h hl.1 hg
      cases ps with
      | nil => exact ⟨s, rfl, hgood s h⟩
      | cons e' ps =>
        obtain ⟨rfl, htail⟩ := List.cons_prefix_cons.mp hps
        rw [runOption_cons hs₁]
        exact (ih hinv (hl.2 _ hs₁)).mpr (hrest _ hs₁) ps htail

/-- If in the states of an invariant the safe events are the guarded ones, a run meets only safe
events exactly if it is guarded. -/
theorem forall_reached_iff_guardedOption {good : σ → Prop} {safe : σ → ε → Prop}
    (hstep : ∀ s e s', inv s → step s e = some s' → inv s') (hgood : ∀ s, inv s → good s)
    (hsafe : ∀ s e, inv s → (safe s e ↔ guard s e)) {s : σ} (h : inv s) (es : List ε) :
    (∀ ps, ps <+: es → ∀ t, runOption step s ps = some t →
      good t ∧ ∀ e, ps ++ [e] <+: es → safe t e) ↔ GuardedOption step guard s es := by
  induction es generalizing s with
  | nil =>
    constructor
    · exact fun _ => trivial
    · intro _ ps hps t ht
      rw [List.prefix_nil.mp hps] at ht ⊢
      refine ⟨Option.some.inj ht ▸ hgood s h, fun e he => ?_⟩
      exact absurd (List.prefix_nil.mp he) (List.cons_ne_nil e [])
  | cons e es ih =>
    constructor
    · intro hall
      refine ⟨(hsafe s e h).mp ((hall [] List.nil_prefix s rfl).2 e (by simp)), ?_⟩
      intro s' hs'
      apply (ih (hstep s e s' h hs')).mp
      intro ps hps t ht
      obtain ⟨hg, hnext⟩ := hall (e :: ps) (List.cons_prefix_cons.mpr ⟨rfl, hps⟩) t
        (runOption_cons_eq_some.mpr ⟨s', hs', ht⟩)
      exact ⟨hg, fun e' he' => hnext e' (List.cons_prefix_cons.mpr ⟨rfl, he'⟩)⟩
    · rintro ⟨hg, hrest⟩ ps hps t ht
      cases ps with
      | nil =>
        cases Option.some.inj ht
        refine ⟨hgood s h, fun e' he' => ?_⟩
        obtain ⟨rfl, -⟩ := List.cons_prefix_cons.mp he'
        exact (hsafe s _ h).mpr hg
      | cons e' ps =>
        obtain ⟨rfl, htail⟩ := List.cons_prefix_cons.mp hps
        obtain ⟨s', hs', hrun⟩ := runOption_cons_eq_some.mp ht
        obtain ⟨hgt, hnext⟩ := (ih (hstep s _ s' h hs')).mpr (hrest s' hs') ps htail t hrun
        exact ⟨hgt, fun x hx => hnext x (List.cons_prefix_cons.mp hx).2⟩

/-- Every event that is taken, without a fault, meets the guard in its state. -/
def GuardedTaken (step : σ → ε → Option σ) (guard : σ → ε → Prop) : σ → List ε → Prop
  | _, [] => True
  | s, e :: es => ∀ s', step s e = some s' → guard s e ∧ GuardedTaken step guard s' es

/-- If every unguarded step is unsafe or leads out of the good states, only good states are reached
and only safe steps are taken exactly if every step taken is guarded. -/
theorem forall_taken_iff_guardedTaken {good : σ → Prop} {safe : σ → ε → Prop}
    (hstep : ∀ s e s', inv s → guard s e → step s e = some s' → inv s')
    (hgood : ∀ s, inv s → good s) (hsafe : ∀ s e, inv s → guard s e → safe s e)
    (hbad : ∀ s e s', inv s → ¬ guard s e → step s e = some s' → safe s e → ¬ good s') {s : σ}
    (h : inv s) (es : List ε) :
    (∀ ps, ps <+: es → ∀ t, runOption step s ps = some t →
      good t ∧ ∀ e, ps ++ [e] <+: es → ∀ t', step t e = some t' → safe t e) ↔
      GuardedTaken step guard s es := by
  induction es generalizing s with
  | nil =>
    constructor
    · exact fun _ => trivial
    · intro _ ps hps t ht
      rw [List.prefix_nil.mp hps] at ht ⊢
      refine ⟨Option.some.inj ht ▸ hgood s h, fun e he => ?_⟩
      exact absurd (List.prefix_nil.mp he) (List.cons_ne_nil e [])
  | cons e es ih =>
    constructor
    · intro hall s' hs'
      have hsafe' := (hall [] List.nil_prefix s rfl).2 e (by simp) s' hs'
      have hreached := hall [e] (by simp) s' (runOption_cons_eq_some.mpr ⟨s', hs', rfl⟩)
      have hg : guard s e := by
        by_contra hng
        exact hbad s e s' h hng hs' hsafe' hreached.1
      refine ⟨hg, (ih (hstep s e s' h hg hs')).mp ?_⟩
      intro ps hps t ht
      obtain ⟨hgt, hnext⟩ := hall (e :: ps) (List.cons_prefix_cons.mpr ⟨rfl, hps⟩) t
        (runOption_cons_eq_some.mpr ⟨s', hs', ht⟩)
      exact ⟨hgt, fun e' he' => hnext e' (List.cons_prefix_cons.mpr ⟨rfl, he'⟩)⟩
    · intro hg ps hps t ht
      cases ps with
      | nil =>
        cases Option.some.inj ht
        refine ⟨hgood s h, fun e' he' t' ht' => ?_⟩
        obtain ⟨rfl, -⟩ := List.cons_prefix_cons.mp he'
        exact hsafe s _ h (hg t' ht').1
      | cons e' ps =>
        obtain ⟨rfl, htail⟩ := List.cons_prefix_cons.mp hps
        obtain ⟨s', hs', hrun⟩ := runOption_cons_eq_some.mp ht
        obtain ⟨hguard, htaken⟩ := hg s' hs'
        obtain ⟨hgt, hnext⟩ := (ih (hstep s _ s' h hguard hs')).mpr htaken ps htail t hrun
        exact ⟨hgt, fun x hx => hnext x (List.cons_prefix_cons.mp hx).2⟩

/-- If every unguarded step leads out of the good states, all states that are reached are good
exactly if every step taken is guarded. -/
theorem forall_reached_iff_guardedTaken {good : σ → Prop}
    (hstep : ∀ s e s', inv s → guard s e → step s e = some s' → inv s')
    (hgood : ∀ s, inv s → good s)
    (hbad : ∀ s e s', inv s → ¬ guard s e → step s e = some s' → ¬ good s') {s : σ} (h : inv s)
    (es : List ε) :
    (∀ ps, ps <+: es → ∀ t, runOption step s ps = some t → good t) ↔
      GuardedTaken step guard s es := by
  have htaken := forall_taken_iff_guardedTaken hstep hgood
    (fun _ _ _ _ => trivial) (fun s e s' hs hg hs' _ => hbad s e s' hs hg hs') h es
  simpa using htaken

end Faulting

end Runs
