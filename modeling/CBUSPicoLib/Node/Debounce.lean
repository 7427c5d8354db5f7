import CBUSPicoLib.Library.Runs
import CBUSPicoLib.Library.SampledSignal
import CBUSPicoLib.Library.WrappedClock
import CBUSPicoLib.Node.SwitchAndLeds

/-!
# Debouncing

Whatever the levels of the pin are, and however the calls are spaced, the switch accepts a new state
only if every sample has shown it for the debounce duration at least. That it has changed stays
reported until a call finds the new state confirmed.
-/

namespace CBUSPicoLib

open SampledSignal WrappedClock

/-- What a call of `run` sees: the level of the pin and the time in milliseconds. -/
structure SwitchSample where
  pin : Bool
  time : ℕ

namespace CBUSSwitch

@[simp] theorem run_configured (s : CBUSSwitch) (pin : Bool) (clock : Clock) :
    (s.run pin clock).configured = s.configured := by
  rw [run_eq]
  split_ifs <;> rfl

@[simp] theorem run_debounceDuration (s : CBUSSwitch) (pin : Bool) (clock : Clock) :
    (s.run pin clock).debounceDuration = s.debounceDuration := by
  rw [run_eq]
  split_ifs <;> rfl

@[simp] theorem run_lastState (s : CBUSSwitch) (pin : Bool) (clock : Clock) :
    (s.run pin clock).lastState = s.readPin pin := by
  rw [run_eq]
  split_ifs <;> rfl

@[simp] theorem run_debounceStartTime (s : CBUSSwitch) (pin : Bool) (clock : Clock) :
    (s.run pin clock).debounceStartTime = s.debounceStart pin (clock 0) := by
  rw [run_eq]
  split_ifs <;> rfl

def sample (s : CBUSSwitch) (x : SwitchSample) : CBUSSwitch :=
  s.run x.pin fun _ => UInt32.ofNat x.time

/-- A change of the debounced state. -/
structure Change where
  time : ℕ
  pressed : Bool

def changeOf (s : CBUSSwitch) (x : SwitchSample) : Option Change :=
  if (s.sample x).getState = s.getState then none else some ⟨x.time, (s.sample x).isPressed⟩

/-- Either nothing is accepted, or the level of the pin, which is stable and new. -/
theorem sample_cases (s : CBUSSwitch) (x : SwitchSample) :
    (s.changeOf x = none ∧ (s.sample x).activeState = s.activeState ∧
      (s.sample x).isPressed = s.isPressed ∧
      (s.sample x).lastStateChangeTime = s.lastStateChangeTime) ∨
    (s.changeOf x = some ⟨x.time, !s.isPressed⟩ ∧ (s.sample x).isPressed = (!s.isPressed) ∧
      s.Stable x.pin (fun _ => UInt32.ofNat x.time) ∧ s.readPin x.pin ≠ s.activeState ∧
      s.sample x = s.accepted x.pin fun _ => UInt32.ofNat x.time) := by
  have hflip : ∀ level active pressed : Bool, level ≠ active →
      (level == pressed) = !(active == pressed) := by decide
  unfold changeOf sample
  rcases s.run_cases x.pin fun _ => UInt32.ofNat x.time with
    ⟨-, hrun⟩ | ⟨-, -, hrun⟩ | ⟨hstable, hnew, hrun⟩
  · rw [hrun]
    exact .inl ⟨if_pos rfl, rfl, rfl, rfl⟩
  · rw [hrun]
    exact .inl ⟨if_pos rfl, rfl, rfl, rfl⟩
  · have hpressed : (s.accepted x.pin fun _ => UInt32.ofNat x.time).isPressed = !s.isPressed :=
      hflip _ _ _ hnew
    have hstate : (s.accepted x.pin fun _ => UInt32.ofNat x.time).getState ≠ s.getState := hnew
    rw [hrun, if_neg hstate, hpressed]
    exact .inr ⟨rfl, rfl, hstable, hnew, rfl⟩

def after (s : CBUSSwitch) (past : List SwitchSample) : CBUSSwitch := Runs.run sample s past

@[simp] theorem after_nil (s : CBUSSwitch) : s.after [] = s := rfl

@[simp] theorem after_cons (s : CBUSSwitch) (x : SwitchSample) (past : List SwitchSample) :
    s.after (x :: past) = (s.sample x).after past := rfl

@[simp] theorem after_concat (s : CBUSSwitch) (past : List SwitchSample) (x : SwitchSample) :
    s.after (past ++ [x]) = (s.after past).sample x := Runs.run_append s past [x]

def changes : CBUSSwitch → List SwitchSample → List Change
  | _, [] => []
  | s, x :: xs => (s.changeOf x).toList ++ (s.sample x).changes xs

theorem changes_concat (s : CBUSSwitch) (past : List SwitchSample) (x : SwitchSample) :
    s.changes (past ++ [x]) = s.changes past ++ ((s.after past).changeOf x).toList := by
  induction past generalizing s with
  | nil => simp [changes]
  | cons z past ih => simp [changes, ih]

/-- When the last change was accepted: before the first one, at the zero of the clock. -/
def lastChange (s : CBUSSwitch) (past : List SwitchSample) : ℕ :=
  ((s.changes past).getLast?.map (·.time)).getD 0

theorem exists_sample_of_change {s : CBUSSwitch} {past : List SwitchSample} {c : Change}
    (hc : c ∈ s.changes past) : ∃ x ∈ past, x.time = c.time := by
  induction past generalizing s with
  | nil => simp [changes] at hc
  | cons x past ih =>
    rcases List.mem_append.mp hc with hnow | hlater
    · refine ⟨x, List.mem_cons_self, ?_⟩
      rcases s.sample_cases x with ⟨hnone, -⟩ | ⟨hsome, -⟩
      · simp [hnone] at hnow
      · simp only [hsome, Option.toList_some, List.mem_singleton] at hnow
        rw [hnow]
    · obtain ⟨z, hz, htime⟩ := ih hlater
      exact ⟨z, List.mem_cons_of_mem _ hz, htime⟩

theorem lastChange_le {s : CBUSSwitch} {past : List SwitchSample} {x : SwitchSample}
    (hclock : (past ++ [x]).Pairwise (·.time ≤ ·.time)) : s.lastChange past ≤ x.time := by
  unfold lastChange
  cases hlast : (s.changes past).getLast? with
  | none => exact Nat.zero_le _
  | some c =>
    obtain ⟨z, hz, htime⟩ := exists_sample_of_change (List.mem_of_getLast? hlast)
    have hle := le_of_mem_concat hclock (List.mem_append_left [x] hz)
    rwa [htime] at hle

theorem isChain_changes (s : CBUSSwitch) (t : ℕ) (xs : List SwitchSample) :
    (⟨t, s.isPressed⟩ :: s.changes xs).IsChain fun c c' => c'.pressed = !c.pressed := by
  induction xs generalizing s t with
  | nil => simp [changes]
  | cons x xs ih =>
    unfold changes
    rcases s.sample_cases x with ⟨hnone, -, hkeep, -⟩ | ⟨hsome, hflip, -⟩
    · rw [hnone, ← hkeep]
      exact ih (s.sample x) t
    · rw [hsome, ← hflip]
      exact List.isChain_cons_cons.mpr ⟨hflip, ih (s.sample x) x.time⟩

/-- What the switch knows about the samples it has seen since its start. -/
structure Debouncing (start : CBUSSwitch) (past : List SwitchSample) : Prop where
  configured : (start.after past).configured = true
  duration : (start.after past).debounceDuration = start.debounceDuration
  pending : (start.after past).lastState ≠ (start.after past).activeState →
    ∃ y, HeldSince (·.pin) (start.after past).lastState y past ∧
      (start.after past).debounceStartTime = UInt32.ofNat y.time
  since : (start.after past).lastStateChangeTime = UInt32.ofNat (start.lastChange past)

variable {start : CBUSSwitch} {past : List SwitchSample} {x : SwitchSample}

theorem Debouncing.readPin (h : start.Debouncing past) (pin : Bool) :
    (start.after past).readPin pin = pin := by
  rw [CBUSSwitch.readPin, if_pos h.configured]

/-- A level other than the debounced state has been seen since the debounce time began. -/
theorem Debouncing.held (h : start.Debouncing past)
    (hnew : x.pin ≠ (start.after past).activeState) :
    ∃ y, HeldSince (·.pin) x.pin y (past ++ [x]) ∧
      (start.after past).debounceStart x.pin (UInt32.ofNat x.time) = UInt32.ofNat y.time := by
  unfold debounceStart
  rw [h.readPin]
  split_ifs with hsame
  · rw [hsame] at hnew
    obtain ⟨y, hheld, htime⟩ := h.pending hnew
    rw [← hsame] at hheld
    exact ⟨y, hheld.concat rfl, htime⟩
  · exact ⟨x, HeldSince.begin past rfl, rfl⟩

theorem Debouncing.concat (h : start.Debouncing past) (x : SwitchSample) :
    start.Debouncing (past ++ [x]) := by
  have hpin := h.readPin x.pin
  have hlast : ((start.after past).sample x).lastState = x.pin := (run_lastState ..).trans hpin
  have hcases := (start.after past).sample_cases x
  refine ⟨?_, ?_, ?_, ?_⟩
  · rw [after_concat]
    exact (run_configured ..).trans h.configured
  · rw [after_concat]
    exact (run_debounceDuration ..).trans h.duration
  · rw [after_concat, hlast]
    intro hpending
    obtain ⟨y, hheld, htime⟩ : ∃ y, HeldSince (·.pin) x.pin y (past ++ [x]) ∧
        (start.after past).debounceStart x.pin (UInt32.ofNat x.time) = UInt32.ofNat y.time := by
      apply h.held
      rcases hcases with ⟨-, hkeep, -⟩ | ⟨-, -, -, -, hrun⟩
      · rwa [hkeep] at hpending
      · rw [hrun] at hpending
        exact absurd hpin.symm hpending
    exact ⟨y, hheld, (run_debounceStartTime ..).trans htime⟩
  · unfold lastChange
    rw [changes_concat, after_concat]
    rcases hcases with ⟨hnone, -, -, hkeep⟩ | ⟨hsome, -, -, -, hrun⟩
    · rw [hnone, hkeep, Option.toList_none, List.append_nil]
      exact h.since
    · rw [hsome, hrun]
      simp [accepted]

theorem debouncing_setPin (s : CBUSSwitch) (pressedState level : Bool) (d : UInt32)
    (past : List SwitchSample) :
    ((s.setPin pressedState level).setDebounceDuration d).Debouncing past := by
  induction past using List.reverseRecOn with
  | nil => exact ⟨rfl, rfl, fun h => absurd rfl h, rfl⟩
  | append_singleton past x ih => exact ih.concat x

/-- The last sample changes the debounced state as it should. -/
structure Accepts (start : CBUSSwitch) (past : List SwitchSample) (x : SwitchSample) : Prop where
  stable : ∃ y, HeldSince (·.pin) (start.after (past ++ [x])).getState y (past ++ [x]) ∧
    y.time + start.debounceDuration.toNat ≤ x.time
  stamped : (start.after (past ++ [x])).lastStateChangeTime = UInt32.ofNat x.time
  lasted : (start.after (past ++ [x])).getLastStateDuration =
    UInt32.ofNat (x.time - start.lastChange past)

theorem Debouncing.accepts (h : start.Debouncing past)
    (hclock : (past ++ [x]).Pairwise (·.time ≤ ·.time))
    (hchange : (start.after (past ++ [x])).getState ≠ (start.after past).getState) :
    start.Accepts past x := by
  have hpin := h.readPin x.pin
  rw [after_concat] at hchange
  rcases (start.after past).sample_cases x with ⟨-, hkeep, -⟩ | ⟨-, -, hstable, hnew, hrun⟩
  · exact absurd hkeep hchange
  have hstate : (start.after (past ++ [x])).getState = x.pin := by
    rw [after_concat, hrun]
    exact hpin
  refine ⟨?_, ?_, ?_⟩
  · rw [hpin] at hnew
    obtain ⟨y, hheld, htime⟩ := h.held hnew
    unfold Stable at hstable
    rw [htime, h.duration] at hstable
    rw [hstate]
    exact ⟨y, hheld, add_le_of_elapsed (le_of_mem_concat hclock hheld.mem) hstable⟩
  · rw [after_concat, hrun]
    rfl
  · rw [after_concat, hrun, UInt32.ofNat_sub (lastChange_le hclock), ← h.since]
    rfl

/-- After `setPin` no change is accepted without a pin that has been stable for the debounce
duration; presses and releases take turns, a press first. -/
theorem debounces (s : CBUSSwitch) (pressedState level : Bool) (d : UInt32)
    {xs : List SwitchSample} (hclock : xs.Pairwise (·.time ≤ ·.time)) :
    let start := (s.setPin pressedState level).setDebounceDuration d
    (∀ past x, past ++ [x] <+: xs →
      (start.after (past ++ [x])).getState ≠ (start.after past).getState → start.Accepts past x) ∧
    (⟨0, false⟩ :: start.changes xs).IsChain fun c c' => c'.pressed = !c.pressed := by
  intro start
  constructor
  · intro past x hpast hchange
    exact (debouncing_setPin s pressedState level d past).accepts
      (hclock.sublist hpast.sublist) hchange
  · have hreleased : start.isPressed = false := s.isPressed_setPin pressedState level
    rw [← hreleased]
    exact start.isChain_changes 0 xs

def wrappingSamples : List SwitchSample :=
  [⟨true, 2 ^ 32 - 10⟩, ⟨false, 2 ^ 32 - 10⟩, ⟨false, 2 ^ 32⟩, ⟨false, 2 ^ 32 + 10⟩]

theorem debounces_wrapping :
    let start := (({} : CBUSSwitch).setPin false true).setDebounceDuration 20
    start.Accepts (wrappingSamples.take 3) ⟨false, 2 ^ 32 + 10⟩ ∧
    (⟨0, false⟩ :: start.changes wrappingSamples).IsChain fun c c' => c'.pressed = !c.pressed := by
  obtain ⟨haccepts, htakes⟩ := @debounces {} false true 20 wrappingSamples (by decide)
  exact ⟨haccepts _ _ List.prefix_rfl (by decide), htakes⟩

/-- A call of `run`, with the readings it makes of the clock. -/
structure Call where
  pin : Bool
  clock : Clock

def call (s : CBUSSwitch) (c : Call) : CBUSSwitch := s.run c.pin c.clock

/-- The call changes the debounced state. -/
def Changes (s : CBUSSwitch) (c : Call) : Prop := (s.call c).getState ≠ s.getState

instance (s : CBUSSwitch) (c : Call) : Decidable (s.Changes c) :=
  inferInstanceAs (Decidable (_ ≠ _))

/-- The presses and releases, as the debounced state shows them. -/
def transitions : CBUSSwitch → List Call → List Bool
  | _, [] => []
  | s, c :: calls =>
    (if s.Changes c then [(s.call c).isPressed] else []) ++ (s.call c).transitions calls

/-- The presses and releases that a caller counts who asks `stateChanged` after every call. -/
def counted : CBUSSwitch → List Call → List Bool
  | _, [] => []
  | s, c :: calls =>
    (if (s.call c).stateChanged then [(s.call c).isPressed] else []) ++ (s.call c).counted calls

/-- After each call it is reported whether that call has changed the debounced state, and every
press and release is counted once. -/
structure CountsOnce (s : CBUSSwitch) (calls : List Call) : Prop where
  reports : ∀ past c, past ++ [c] <+: calls →
    (((Runs.run call s past).call c).stateChanged = true ↔ (Runs.run call s past).Changes c)
  once : ∀ past, past <+: calls → s.counted past = s.transitions past

/-- A change that is still reported is behind the debounce time of the next call. -/
def Confirms (s : CBUSSwitch) (c : Call) : Prop := s.stateChanged = true → s.Stable c.pin c.clock

theorem stateChanged_call_iff (s : CBUSSwitch) (c : Call) :
    ((s.call c).stateChanged = true ↔ s.Changes c) ↔ s.Confirms c := by
  unfold Changes Confirms call
  rcases s.run_cases c.pin c.clock with ⟨hwaits, hrun⟩ | ⟨hstable, -, hrun⟩ | ⟨hstable, hnew, hrun⟩
  · rw [hrun]
    simp [sampled, getState, hwaits]
  · rw [hrun]
    simp [sampled, getState, hstable]
  · rw [hrun]
    simp [accepted, getState, hstable, hnew]

theorem counted_eq_transitions {s : CBUSSwitch} {calls : List Call}
    (h : Runs.Guarded call Confirms s calls) : s.counted calls = s.transitions calls := by
  induction calls generalizing s with
  | nil => rfl
  | cons c calls ih =>
    have hreports := (s.stateChanged_call_iff c).mpr h.1
    simp only [counted, transitions, hreports, ih h.2]

/-- Each change is reported and counted once exactly if, whenever a change is still reported, the
pin has been stable for the debounce duration at the next call. -/
theorem countsOnce_iff (s : CBUSSwitch) (calls : List Call) :
    s.CountsOnce calls ↔ Runs.Guarded call Confirms s calls := by
  constructor
  · intro h
    apply Runs.guarded_iff_forall_last.mpr
    intro past c hpast
    exact ((Runs.run call s past).stateChanged_call_iff c).mp (h.reports past c hpast)
  · intro h
    constructor
    · intro past c hpast
      apply ((Runs.run call s past).stateChanged_call_iff c).mpr
      exact Runs.guarded_iff_forall_last.mp h past c hpast
    · rintro past ⟨rest, rfl⟩
      exact counted_eq_transitions h.of_append

/-- A press that is accepted at 120 ms and bounces at 125 ms: it is counted twice. -/
theorem not_countsOnce_bounce :
    ¬ ∀ (s : CBUSSwitch) (pressedState level : Bool) (d : UInt32) (calls : List Call),
      ((s.setPin pressedState level).setDebounceDuration d).CountsOnce calls := by
  intro h
  let bounce : List Call :=
    [⟨false, fun _ => 100⟩, ⟨false, fun _ => 120⟩, ⟨true, fun _ => 125⟩]
  have hcounts := (h {} false true 20 bounce).once bounce List.prefix_rfl
  revert hcounts
  decide

end CBUSSwitch
end CBUSPicoLib
