import CBUSPicoLib.Config.FactoryReset
import CBUSPicoLib.Library.Runs
import CBUSPicoLib.Library.SampledSignal
import CBUSPicoLib.Library.WrappedClock
import CBUSPicoLib.Node.SwitchAndLeds

/-!
# The guard of a factory reset

`resetModule` with LEDs and a switch waits for a press of five seconds, for 30 seconds at most. The
switch measures a press from its last change. `reset` sets that time to zero and leaves the
debounced state as it is, so a press that goes on from before the call counts from clock zero.
-/

namespace CBUSPicoLib

open Runs SampledSignal WrappedClock

/-- One turn of the loop: the level of the pin and the clock at each reading, in milliseconds. -/
structure ResetTurn where
  pin : Bool
  start : ℕ
  swTime : ℕ → ℕ
  grnTime : ℕ
  ylwTime : ℕ
  held : ℕ

def ResetTurn.readings (t : ResetTurn) : List ℕ :=
  [t.start, t.swTime 0, t.swTime 1, t.swTime 2, t.swTime 3, t.grnTime, t.ylwTime, t.held]

/-- What the loop polls. -/
structure ResetPanel where
  ledGrn : CBUSLED
  ledYlw : CBUSLED
  pbSwitch : CBUSSwitch

def CBUSSwitch.turn (s : CBUSSwitch) (t : ResetTurn) : CBUSSwitch :=
  s.run t.pin fun i => UInt32.ofNat (t.swTime i)

def ResetPanel.poll (p : ResetPanel) (t : ResetTurn) : ResetPanel where
  pbSwitch := p.pbSwitch.turn t
  ledGrn := p.ledGrn.run (UInt32.ofNat t.grnTime)
  ledYlw := p.ledYlw.run (UInt32.ofNat t.ylwTime)

/-- The timeout has expired at the start of the turn. -/
def ResetTurn.Late (t : ResetTurn) (waittime : UInt32) : Prop :=
  30000 < UInt32.ofNat t.start - waittime

instance (t : ResetTurn) (waittime : UInt32) : Decidable (t.Late waittime) :=
  inferInstanceAs (Decidable (_ < _))

/-- The switch is held and has been for five seconds, as far as it knows. -/
def CBUSSwitch.HeldAt (s : CBUSSwitch) (now : UInt32) : Prop :=
  s.isPressed = true ∧ 5000 < s.getCurrentStateDuration now

instance (s : CBUSSwitch) (now : UInt32) : Decidable (s.HeldAt now) :=
  inferInstanceAs (Decidable (_ ∧ _))

/-- The loop that waits for a press; when it returns, whether the reset is to be done. -/
def waitForPress (waittime : UInt32) : ResetPanel → List ResetTurn → Option (Bool × ResetPanel)
  | _, [] => none
  | p, t :: ts =>
    if t.Late waittime then some (false, p)
    else
      let p := p.poll t
      if p.pbSwitch.HeldAt (UInt32.ofNat t.held) then some (true, p)
      else waitForPress waittime p ts

/-- What a call of `resetModule` has done when it returns. -/
structure ResetResult where
  performed : Bool
  config : CBUSConfig
  panel : ResetPanel

namespace CBUSConfig

/-- `resetModule` with LEDs and a switch, entered at `entry`; without a result it still waits. -/
def resetModuleOnPress (c : CBUSConfig) (p : ResetPanel) (entry : ℕ) (turns : List ResetTurn)
    (grnOff ylwOff : UInt32) : Option ResetResult :=
  let p : ResetPanel := ⟨p.ledGrn.blink, p.ledYlw.blink, p.pbSwitch.reset⟩
  match waitForPress (UInt32.ofNat entry) p turns with
  | none => none
  | some (false, p) => some ⟨false, c, p⟩
  | some (true, p) =>
    let p := { p with ledGrn := p.ledGrn.off.run grnOff, ledYlw := p.ledYlw.off.run ylwOff }
    some ⟨true, c.resetModule, p⟩

end CBUSConfig

def turnResult (waittime : UInt32) (p : ResetPanel) (t : ResetTurn) : Option (Bool × ResetPanel) :=
  if t.Late waittime then some (false, p)
  else if (p.poll t).pbSwitch.HeldAt (UInt32.ofNat t.held) then some (true, p.poll t)
  else none

variable {waittime : UInt32} {p : ResetPanel} {ds ps turns : List ResetTurn} {t : ResetTurn}

theorem waitForPress_cons (waittime : UInt32) (p : ResetPanel) (t : ResetTurn)
    (ts : List ResetTurn) : waitForPress waittime p (t :: ts) =
      (turnResult waittime p t).or (waitForPress waittime (p.poll t) ts) := by
  unfold turnResult
  rw [waitForPress]
  dsimp only
  split_ifs <;> rfl

theorem waitForPress_concat (waittime : UInt32) (p : ResetPanel) (ds : List ResetTurn)
    (t : ResetTurn) : waitForPress waittime p (ds ++ [t]) =
      (waitForPress waittime p ds).or (turnResult waittime (run ResetPanel.poll p ds) t) := by
  induction ds generalizing p with
  | nil =>
    rw [List.nil_append, waitForPress_cons]
    simp [waitForPress]
  | cons d ds ih => rw [List.cons_append, waitForPress_cons, waitForPress_cons, ih, Option.or_assoc,
      run_cons]

theorem exists_turn_of_return {r : Bool × ResetPanel} (h : waitForPress waittime p ps = some r) :
    ∃ ds t, ds ++ [t] <+: ps ∧ waitForPress waittime p ds = none ∧
      turnResult waittime (run ResetPanel.poll p ds) t = some r := by
  induction ps using List.reverseRecOn with
  | nil => cases h
  | append_singleton ds t ih =>
    rw [waitForPress_concat] at h
    cases hwait : waitForPress waittime p ds with
    | none =>
      rw [hwait, Option.none_or] at h
      exact ⟨ds, t, List.prefix_rfl, hwait, h⟩
    | some r' =>
      rw [hwait, Option.some_or] at h
      obtain ⟨ds', t', hprefix, hrest⟩ := ih (hwait.trans h)
      exact ⟨ds', t', hprefix.trans (List.prefix_append ds [t]), hrest⟩

theorem not_late_of_waiting (h : waitForPress waittime p ds = none) :
    ∀ t ∈ ds, ¬ t.Late waittime := by
  induction ds generalizing p with
  | nil => simp
  | cons d ds ih =>
    rw [waitForPress_cons, Option.or_eq_none_iff] at h
    intro t ht
    rcases List.mem_cons.mp ht with rfl | ht
    · intro hlate
      simp [turnResult, hlate] at h
    · exact ih h.2 t ht

theorem pbSwitch_run (p : ResetPanel) (ds : List ResetTurn) :
    (run ResetPanel.poll p ds).pbSwitch = run CBUSSwitch.turn p.pbSwitch ds := by
  induction ds generalizing p with
  | nil => rfl
  | cons d ds ih =>
    rw [run_cons, ih]
    rfl

/-- The debounced switch as a turn finds it. -/
structure Observation where
  turn : ResetTurn
  pressed : Bool

namespace CBUSSwitch

def observe : CBUSSwitch → List ResetTurn → List Observation
  | _, [] => []
  | s, t :: ts => ⟨t, (s.turn t).isPressed⟩ :: (s.turn t).observe ts

theorem observe_concat (s : CBUSSwitch) (ds : List ResetTurn) (t : ResetTurn) :
    s.observe (ds ++ [t]) =
      s.observe ds ++ [⟨t, ((Runs.run turn s ds).turn t).isPressed⟩] := by
  induction ds generalizing s with
  | nil => rfl
  | cons d ds ih => simp [observe, ih]

theorem turn_mem_of_observe {s : CBUSSwitch} {o : Observation} (h : o ∈ s.observe ds) :
    o.turn ∈ ds := by
  induction ds generalizing s with
  | nil => simp [observe] at h
  | cons d ds ih =>
    rcases List.mem_cons.mp h with rfl | h
    · exact List.mem_cons_self
    · exact List.mem_cons_of_mem _ (ih h)

theorem turn_isPressed (s : CBUSSwitch) (t : ResetTurn) :
    (s.turn t).isPressed = s.isPressed ∧
        (s.turn t).lastStateChangeTime = s.lastStateChangeTime ∨
      (s.turn t).isPressed = !s.isPressed ∧
        (s.turn t).lastStateChangeTime = UInt32.ofNat (t.swTime 3) :=
  s.run_isPressed t.pin _

/-- A press that has not ended is measured from where it was measured before. -/
theorem since_of_pressed {s : CBUSSwitch} (hbefore : s.isPressed = true)
    (hheld : ∀ o ∈ s.observe ds, o.pressed = true) :
    (Runs.run turn s ds).isPressed = true ∧
      (Runs.run turn s ds).lastStateChangeTime = s.lastStateChangeTime := by
  induction ds generalizing s with
  | nil => exact ⟨hbefore, rfl⟩
  | cons d ds ih =>
    obtain ⟨hnow, hlater⟩ := List.forall_mem_cons.mp hheld
    obtain ⟨hpressed, hsince⟩ := ih hnow hlater
    refine ⟨hpressed, hsince.trans ?_⟩
    rcases s.turn_isPressed d with ⟨-, hkeep⟩ | ⟨hflip, -⟩
    · exact hkeep
    · rw [hflip, hbefore] at hnow
      exact absurd hnow Bool.false_ne_true

/-- The switch measures a press from the turn that began it, or it is one from before the turns. -/
inductive Watched (s : CBUSSwitch) (ds : List ResetTurn) : Prop
  | released (released : (Runs.run turn s ds).isPressed = false)
  | fresh (o : Observation) (pressed : (Runs.run turn s ds).isPressed = true)
      (held : HeldSince (·.pressed) true o (s.observe ds))
      (since : (Runs.run turn s ds).lastStateChangeTime = UInt32.ofNat (o.turn.swTime 3))
  | stale (before : s.isPressed = true) (held : ∀ o ∈ s.observe ds, o.pressed = true)

theorem watched (s : CBUSSwitch) (ds : List ResetTurn) : s.Watched ds := by
  induction ds using List.reverseRecOn with
  | nil =>
    cases h : s.isPressed with
    | false => exact .released h
    | true => exact .stale h (by simp [observe])
  | append_singleton ds t ih =>
    have hrun : Runs.run turn s (ds ++ [t]) = (Runs.run turn s ds).turn t :=
      Runs.run_append s ds [t]
    rcases (Runs.run turn s ds).turn_isPressed t with ⟨hkeep, htime⟩ | ⟨hflip, htime⟩
    · cases ih with
      | released released => exact .released (by rw [hrun, hkeep, released])
      | fresh o pressed held since =>
        refine .fresh o (by rw [hrun, hkeep, pressed]) ?_ (by rw [hrun, htime, since])
        rw [observe_concat]
        exact held.concat (hkeep.trans pressed)
      | stale before held =>
        refine .stale before ?_
        rw [observe_concat, List.forall_mem_append]
        refine ⟨held, ?_⟩
        simpa using hkeep.trans (since_of_pressed before held).1
    · cases hbefore : (Runs.run turn s ds).isPressed with
      | true => exact .released (by rw [hrun, hflip, hbefore]; rfl)
      | false =>
        have hpressed : ((Runs.run turn s ds).turn t).isPressed = true := by
          rw [hflip, hbefore]
          rfl
        refine .fresh ⟨t, true⟩ (by rw [hrun, hpressed]) ?_ (by rw [hrun, htime])
        rw [observe_concat, hpressed]
        exact HeldSince.begin _ rfl

/-- At the end of the turn the switch has been seen pressed for more than five seconds. -/
def LongPress (s : CBUSSwitch) (ds : List ResetTurn) (t : ResetTurn) : Prop :=
  ∃ o, HeldSince (·.pressed) true o (s.observe (ds ++ [t])) ∧ o.turn.swTime 3 + 5000 < t.held

/-- A long press is seen in a turn that begins within 30 seconds. -/
def PressedWithin (s : CBUSSwitch) (entry : ℕ) (ps : List ResetTurn) : Prop :=
  ∃ ds t, ds ++ [t] <+: ps ∧ t.start ≤ entry + 30000 ∧ s.LongPress ds t

theorem PressedWithin.mono {s : CBUSSwitch} {entry : ℕ} (h : s.PressedWithin entry ds)
    (hp : ds <+: ps) : s.PressedWithin entry ps := by
  obtain ⟨ds', t, hprefix, hrest⟩ := h
  exact ⟨ds', t, hprefix.trans hp, hrest⟩

/-- A press from before the call does not count as a long one before it is one in the call: while
the switch has not been released, the clock shows no more than five seconds in any turn. -/
def StaleHarmless (s : CBUSSwitch) (entry : ℕ) (turns : List ResetTurn) : Prop :=
  s.isPressed = true → ∀ ds t, ds ++ [t] <+: turns →
    (∀ u ∈ ds ++ [t], ¬ u.Late (UInt32.ofNat entry)) →
    (∀ o ∈ s.reset.observe (ds ++ [t]), o.pressed = true) → 5000 < UInt32.ofNat t.held →
      ∀ first ∈ (ds ++ [t]).head?, first.swTime 3 + 5000 < t.held

/-- The clock does not go round between two turns, so that the 30 seconds seem not to be over. -/
def TimeoutSeen (s : CBUSSwitch) (entry : ℕ) (turns : List ResetTurn) : Prop :=
  ∀ ds t, ds ++ [t] <+: turns → (∀ u ∈ ds ++ [t], ¬ u.Late (UInt32.ofNat entry)) →
    ¬ s.reset.PressedWithin entry ds → t.start ≤ entry + 30000

end CBUSSwitch

/-- The clock of the call does not go back. -/
def ClockForward (entry : ℕ) (turns : List ResetTurn) : Prop :=
  (entry :: turns.flatMap ResetTurn.readings).Pairwise (· ≤ ·)

/-- The reset is performed after a long press in the call only, and the call returns without it if
there is none within 30 seconds. -/
structure GuardsReset (c : CBUSConfig) (p : ResetPanel) (entry : ℕ) (turns : List ResetTurn) :
    Prop where
  performed : ∀ ps grnOff ylwOff r, ps <+: turns →
    c.resetModuleOnPress p entry ps grnOff ylwOff = some r → r.performed = true →
      ∃ ds t, ds ++ [t] <+: ps ∧ p.pbSwitch.reset.LongPress ds t
  returns : ∀ ps grnOff ylwOff, ps <+: turns → (∃ t ∈ ps, entry + 30000 < t.start) →
    ¬ p.pbSwitch.reset.PressedWithin entry ps →
      ∃ r, c.resetModuleOnPress p entry ps grnOff ylwOff = some r ∧ r.performed = false ∧
        r.config = c

theorem ClockForward.pairwise {entry : ℕ} (hclock : ClockForward entry turns)
    (hds : ds <+: turns) :
    (∀ u ∈ ds, u.readings.Pairwise (· ≤ ·)) ∧
      ds.Pairwise fun u v => ∀ a ∈ u.readings, ∀ b ∈ v.readings, a ≤ b := by
  have hturns := (List.pairwise_cons.mp hclock).2
  rw [List.pairwise_flatMap] at hturns
  exact ⟨fun u hu => hturns.1 u (hds.subset hu), hturns.2.sublist hds.sublist⟩

theorem ClockForward.le_held {entry : ℕ} (hclock : ClockForward entry turns)
    (hds : ds ++ [t] <+: turns) {u : ResetTurn} (hu : u ∈ ds ++ [t]) :
    u.swTime 3 ≤ t.held ∧ u.held ≤ t.held := by
  obtain ⟨hown, hacross⟩ := hclock.pairwise hds
  rcases List.mem_append.mp hu with hu | hu
  · have hle := (List.pairwise_append.mp hacross).2.2 u hu t (List.mem_singleton_self t)
    exact ⟨hle _ (by simp [ResetTurn.readings]) _ (by simp [ResetTurn.readings]),
      hle _ (by simp [ResetTurn.readings]) _ (by simp [ResetTurn.readings])⟩
  · have ht := hown t (by simp)
    rw [List.mem_singleton.mp hu]
    simp [ResetTurn.readings] at ht
    exact ⟨by omega, le_rfl⟩

theorem ClockForward.head_le {entry : ℕ} (hclock : ClockForward entry turns) (hds : ds <+: turns)
    {first u : ResetTurn} (hfirst : first ∈ ds.head?) (hu : u ∈ ds) :
    first.swTime 3 ≤ u.swTime 3 := by
  cases ds with
  | nil => simp at hu
  | cons d ds =>
    obtain rfl : d = first := by simpa using hfirst
    rcases List.mem_cons.mp hu with rfl | hu
    · exact le_rfl
    · have hle := (List.pairwise_cons.mp (hclock.pairwise hds).2).1 u hu
      exact hle _ (by simp [ResetTurn.readings]) _ (by simp [ResetTurn.readings])

section Guard

variable {s : CBUSSwitch} {entry : ℕ}

/-- A turn in which the loop is told to do the reset is the end of a long press. -/
theorem CBUSSwitch.StaleHarmless.pressedWithin (hstale : s.StaleHarmless entry turns)
    (htimeout : s.TimeoutSeen entry turns) (hclock : ClockForward entry turns)
    (hds : ds ++ [t] <+: turns) (hintime : ∀ u ∈ ds ++ [t], ¬ u.Late (UInt32.ofNat entry))
    (hheld : (Runs.run CBUSSwitch.turn s.reset (ds ++ [t])).HeldAt (UInt32.ofNat t.held)) :
    s.reset.PressedWithin entry (ds ++ [t]) := by
  by_cases hearlier : s.reset.PressedWithin entry ds
  · exact hearlier.mono (List.prefix_append ds [t])
  refine ⟨ds, t, List.prefix_rfl, htimeout ds t hds hintime hearlier, ?_⟩
  obtain ⟨hpressed, hlong⟩ := hheld
  unfold CBUSSwitch.getCurrentStateDuration at hlong
  cases s.reset.watched (ds ++ [t]) with
  | released released =>
    rw [released] at hpressed
    exact absurd hpressed Bool.false_ne_true
  | fresh o _ held since =>
    rw [since] at hlong
    have hturn := CBUSSwitch.turn_mem_of_observe held.mem
    exact ⟨o, held, add_lt_of_elapsed (hclock.le_held hds hturn).1 hlong⟩
  | stale before held =>
    have hzero : (Runs.run CBUSSwitch.turn s.reset (ds ++ [t])).lastStateChangeTime = 0 :=
      (CBUSSwitch.since_of_pressed before held).2
    rw [hzero, UInt32.sub_zero] at hlong
    obtain ⟨first, rest, hsplit⟩ := List.exists_cons_of_ne_nil
      (show ds ++ [t] ≠ [] by simp)
    have hfirst := hstale before ds t hds hintime held hlong first (by simp [hsplit])
    unfold CBUSSwitch.LongPress
    rw [hsplit] at held ⊢
    exact ⟨⟨first, (s.reset.turn first).isPressed⟩, ⟨[], _, rfl, held⟩, hfirst⟩

end Guard

namespace CBUSConfig

theorem resetModuleOnPress_eq_some {c : CBUSConfig} {entry : ℕ} {grnOff ylwOff : UInt32}
    {r : ResetResult} (h : c.resetModuleOnPress p entry ps grnOff ylwOff = some r) :
    (∃ q, waitForPress (UInt32.ofNat entry)
      ⟨p.ledGrn.blink, p.ledYlw.blink, p.pbSwitch.reset⟩ ps = some (r.performed, q)) ∧
    r.config = if r.performed then c.resetModule else c := by
  unfold resetModuleOnPress at h
  dsimp only at h
  split at h
  case h_1 => cases h
  case h_2 q hwait =>
    cases h
    exact ⟨⟨q, hwait⟩, rfl⟩
  case h_3 q hwait =>
    cases h
    exact ⟨⟨q, hwait⟩, rfl⟩

theorem resetModuleOnPress_of_return {c : CBUSConfig} {entry : ℕ} (grnOff ylwOff : UInt32)
    {performed : Bool} {q : ResetPanel} (h : waitForPress (UInt32.ofNat entry)
      ⟨p.ledGrn.blink, p.ledYlw.blink, p.pbSwitch.reset⟩ ps = some (performed, q)) :
    ∃ r, c.resetModuleOnPress p entry ps grnOff ylwOff = some r ∧ r.performed = performed := by
  unfold resetModuleOnPress
  dsimp only
  rw [h]
  cases performed with
  | true => exact ⟨_, rfl, rfl⟩
  | false => exact ⟨_, rfl, rfl⟩

end CBUSConfig

theorem exists_late_of_timeout {q : ResetPanel} (h : waitForPress waittime p ps = some (false, q)) :
    ∃ u ∈ ps, u.Late waittime := by
  obtain ⟨ds, t, hds, -, hturn⟩ := exists_turn_of_return h
  unfold turnResult at hturn
  split_ifs at hturn with hlate
  · exact ⟨t, hds.subset (by simp), hlate⟩
  · cases hturn

theorem pbSwitch_poll_run (p : ResetPanel) (ds : List ResetTurn) (t : ResetTurn) :
    ((run ResetPanel.poll p ds).poll t).pbSwitch = run CBUSSwitch.turn p.pbSwitch (ds ++ [t]) := by
  rw [run_append, ← pbSwitch_run]
  rfl

theorem exists_held_turn {q : ResetPanel} (h : waitForPress waittime p ps = some (true, q)) :
    ∃ ds t, ds ++ [t] <+: ps ∧ (∀ u ∈ ds ++ [t], ¬ u.Late waittime) ∧
      (run CBUSSwitch.turn p.pbSwitch (ds ++ [t])).HeldAt (UInt32.ofNat t.held) := by
  obtain ⟨ds, t, hds, hwait, hturn⟩ := exists_turn_of_return h
  unfold turnResult at hturn
  split_ifs at hturn with hlate hheld
  · cases hturn
  · refine ⟨ds, t, hds, ?_, ?_⟩
    · intro u hu
      rcases List.mem_append.mp hu with hu | hu
      · exact not_late_of_waiting hwait u hu
      · rwa [List.mem_singleton.mp hu]
    · rwa [← pbSwitch_poll_run]

/-- If all turns are in time, the last of which finds the switch held, the loop has returned. -/
theorem waitForPress_of_held (hintime : ∀ u ∈ ds ++ [t], ¬ u.Late waittime)
    (hheld : (run CBUSSwitch.turn p.pbSwitch (ds ++ [t])).HeldAt (UInt32.ofNat t.held)) :
    ∃ q, waitForPress waittime p (ds ++ [t]) = some (true, q) := by
  cases hwait : waitForPress waittime p (ds ++ [t]) with
  | none =>
    rw [waitForPress_concat, Option.or_eq_none_iff] at hwait
    rw [← pbSwitch_poll_run] at hheld
    simp [turnResult, hintime t (by simp), hheld] at hwait
  | some r =>
    obtain ⟨performed, q⟩ := r
    cases performed with
    | true => exact ⟨q, rfl⟩
    | false =>
      obtain ⟨u, hu, hlate⟩ := exists_late_of_timeout hwait
      exact absurd hlate (hintime u hu)

section Guard

variable {c : CBUSConfig} {entry : ℕ}

theorem GuardsReset.staleHarmless (h : GuardsReset c p entry turns)
    (hclock : ClockForward entry turns) : p.pbSwitch.StaleHarmless entry turns := by
  intro hbefore ds t hds hintime hheld hlong first hfirst
  obtain ⟨hpressed, hzero⟩ := CBUSSwitch.since_of_pressed (s := p.pbSwitch.reset) hbefore hheld
  have hasked :
      (run CBUSSwitch.turn p.pbSwitch.reset (ds ++ [t])).HeldAt (UInt32.ofNat t.held) := by
    refine ⟨hpressed, ?_⟩
    rw [CBUSSwitch.getCurrentStateDuration, hzero]
    change 5000 < UInt32.ofNat t.held - 0
    rwa [UInt32.sub_zero]
  obtain ⟨q, hwait⟩ := waitForPress_of_held
    (p := ⟨p.ledGrn.blink, p.ledYlw.blink, p.pbSwitch.reset⟩) hintime hasked
  obtain ⟨r, hr, hdone⟩ := CBUSConfig.resetModuleOnPress_of_return (c := c) 0 0 hwait
  obtain ⟨ds', t', hds', o, hsince, hlasted⟩ := h.performed _ 0 0 r hds hr hdone
  have hbegan := hclock.head_le hds hfirst
    (hds'.subset (CBUSSwitch.turn_mem_of_observe hsince.mem))
  have hended := (hclock.le_held hds (hds'.subset (show t' ∈ ds' ++ [t'] by simp))).2
  omega

theorem GuardsReset.timeoutSeen (h : GuardsReset c p entry turns) :
    p.pbSwitch.TimeoutSeen entry turns := by
  intro ds t hds hintime hnone
  by_contra hover
  have hnone' : ¬ p.pbSwitch.reset.PressedWithin entry (ds ++ [t]) := by
    rintro ⟨ds', t', hds', hstart, hlong⟩
    rcases List.prefix_concat_iff.mp hds' with heq | hds'
    · obtain ⟨-, hlast⟩ := List.append_inj' heq rfl
      rw [List.singleton_inj.mp hlast] at hstart
      exact hover hstart
    · exact hnone ⟨ds', t', hds', hstart, hlong⟩
  obtain ⟨r, hr, hdone, -⟩ := h.returns _ 0 0 hds ⟨t, by simp, Nat.not_le.mp hover⟩ hnone'
  obtain ⟨⟨q, hwait⟩, -⟩ := CBUSConfig.resetModuleOnPress_eq_some hr
  rw [hdone] at hwait
  obtain ⟨u, hu, hlate⟩ := exists_late_of_timeout hwait
  exact hintime u hu hlate

/-- The loop does not wait for more than 30 seconds, unless a long press has been seen. -/
theorem CBUSSwitch.TimeoutSeen.pressedWithin_of_waiting (h : p.pbSwitch.TimeoutSeen entry turns)
    (hps : ps <+: turns) (hlate : ∃ t ∈ ps, entry + 30000 < t.start)
    (hwait : waitForPress (UInt32.ofNat entry)
      ⟨p.ledGrn.blink, p.ledYlw.blink, p.pbSwitch.reset⟩ ps = none) :
    p.pbSwitch.reset.PressedWithin entry ps := by
  by_contra hnone
  obtain ⟨t, ht, hover⟩ := hlate
  obtain ⟨ds, rest, rfl⟩ := List.append_of_mem ht
  have hds : ds ++ [t] <+: ds ++ t :: rest := ⟨rest, by simp⟩
  have hintime : ∀ u ∈ ds ++ [t], ¬ u.Late (UInt32.ofNat entry) := fun u hu =>
    not_late_of_waiting hwait u (hds.subset hu)
  have hstart := h ds t (hds.trans hps) hintime fun hearlier =>
    hnone (hearlier.mono (List.prefix_append ds (t :: rest)))
  omega

/-- The call asks for a new press of five seconds exactly if a press from before it is harmless
and the timeout is seen. -/
theorem guardsReset_iff (c : CBUSConfig) (p : ResetPanel) {entry : ℕ} {turns : List ResetTurn}
    (hclock : ClockForward entry turns) :
    GuardsReset c p entry turns ↔
      p.pbSwitch.StaleHarmless entry turns ∧ p.pbSwitch.TimeoutSeen entry turns := by
  constructor
  · intro h
    exact ⟨h.staleHarmless hclock, h.timeoutSeen⟩
  · rintro ⟨hstale, htimeout⟩
    have hwithin : ∀ ps grnOff ylwOff r, ps <+: turns →
        c.resetModuleOnPress p entry ps grnOff ylwOff = some r → r.performed = true →
          p.pbSwitch.reset.PressedWithin entry ps := by
      intro ps grnOff ylwOff r hps hr hdone
      obtain ⟨⟨q, hwait⟩, -⟩ := CBUSConfig.resetModuleOnPress_eq_some hr
      rw [hdone] at hwait
      obtain ⟨ds, t, hds, hintime, hheld⟩ := exists_held_turn hwait
      exact (hstale.pressedWithin htimeout hclock (hds.trans hps) hintime hheld).mono hds
    constructor
    · intro ps grnOff ylwOff r hps hr hdone
      obtain ⟨ds, t, hds, -, hlong⟩ := hwithin ps grnOff ylwOff r hps hr hdone
      exact ⟨ds, t, hds, hlong⟩
    · rintro ps grnOff ylwOff hps hlate hnone
      cases hwait : waitForPress (UInt32.ofNat entry)
          ⟨p.ledGrn.blink, p.ledYlw.blink, p.pbSwitch.reset⟩ ps with
      | none => exact absurd (htimeout.pressedWithin_of_waiting hps hlate hwait) hnone
      | some result =>
        obtain ⟨r, hr, -⟩ :=
          CBUSConfig.resetModuleOnPress_of_return (c := c) grnOff ylwOff hwait
        have hdone : r.performed = false := by
          by_contra hperformed
          exact hnone (hwithin ps grnOff ylwOff r hps hr (by simpa using hperformed))
        have hconfig := (CBUSConfig.resetModuleOnPress_eq_some hr).2
        rw [hdone] at hconfig
        exact ⟨r, hr, hdone, hconfig⟩

def turnAt (pin : Bool) (ms : ℕ) : ResetTurn := ⟨pin, ms, fun _ => ms, ms, ms, ms⟩

def newPress : List ResetTurn := [turnAt false 10000, turnAt false 10020, turnAt false 15021]

def releasedPanel : ResetPanel := ⟨{}, {}, ({} : CBUSSwitch).setPin false true⟩

def erasedConfig : CBUSConfig :=
  CBUSConfig.construct CBUSConfig.smallLayout (Memory.const 0xff)

theorem guardsReset_iff_newPress : GuardsReset erasedConfig releasedPanel 10000 newPress ↔
    releasedPanel.pbSwitch.StaleHarmless 10000 newPress ∧
      releasedPanel.pbSwitch.TimeoutSeen 10000 newPress := by
  refine guardsReset_iff erasedConfig releasedPanel ?_
  unfold ClockForward
  decide

/-- Both LEDs, and a switch that has been pressed since start-up. -/
def heldPanel : ResetPanel :=
  ⟨{}, {}, ((({} : CBUSSwitch).setPin false false).turn (turnAt false 0)).turn (turnAt false 20)⟩

/-- The button has been held for six seconds since start-up when the call is entered: the first
turn does the reset. -/
theorem not_guardsReset_held : ¬ ∀ (c : CBUSConfig) (p : ResetPanel) (entry : ℕ)
    (turns : List ResetTurn), ClockForward entry turns → GuardsReset c p entry turns := by
  intro h
  have hguards := h erasedConfig heldPanel 6000 [turnAt false 6000] (by unfold ClockForward; decide)
  obtain ⟨q, hwait⟩ : ∃ q, waitForPress (UInt32.ofNat 6000)
      ⟨heldPanel.ledGrn.blink, heldPanel.ledYlw.blink, heldPanel.pbSwitch.reset⟩
        [turnAt false 6000] = some (true, q) := ⟨_, rfl⟩
  obtain ⟨r, hr, hdone⟩ := CBUSConfig.resetModuleOnPress_of_return (c := erasedConfig) 0 0 hwait
  obtain ⟨ds, t, hds, o, hsince, hlasted⟩ :=
    hguards.performed _ 0 0 r List.prefix_rfl hr hdone
  have hturns : ∀ u ∈ [turnAt false 6000], u.swTime 3 = 6000 ∧ u.held = 6000 := by decide
  have hbegan := (hturns o.turn (hds.subset (CBUSSwitch.turn_mem_of_observe hsince.mem))).1
  have hended := (hturns t (hds.subset (by simp))).2
  omega

end Guard

end CBUSPicoLib
