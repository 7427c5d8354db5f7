import Mathlib.Tactic

/-!
# The FLiM push button and the two mode LEDs

Both objects are polled. A call takes the clock reading it makes as an argument;
the switch also takes the level of its pin, and it reads the clock several times.
-/

namespace CBUSPicoLib

/-- Successive readings of the millisecond clock during one call. -/
abbrev Clock := ℕ → UInt32

/-- The state of a `CBUSLED`; the defaults are those of the constructor. -/
structure CBUSLED where
  state : Bool := false
  blinking : Bool := false
  pulsing : Bool := false
  lastTime : UInt32 := 0
  pulseStart : UInt32 := 0
  pulseDuration : UInt32 := 0
  msBlinkDuration : UInt16 := 500
  msPulseShortDuration : UInt16 := 100
  msPulseLongDuration : UInt16 := 500

namespace CBUSLED

def on (l : CBUSLED) : CBUSLED := { l with state := true, blinking := false }

def off (l : CBUSLED) : CBUSLED := { l with state := false, blinking := false }

def toggle (l : CBUSLED) : CBUSLED := { l with state := !l.state }

def blink (l : CBUSLED) : CBUSLED := { l with blinking := true }

def run (l : CBUSLED) (now : UInt32) : CBUSLED :=
  let l :=
    if l.blinking ∧ l.msBlinkDuration.toUInt32 ≤ now - l.lastTime then
      { l.toggle with lastTime := now }
    else l
  if l.pulsing ∧ l.pulseDuration ≤ now - l.pulseStart then
    { l with pulsing := false, state := false }
  else l

def pulse (l : CBUSLED) (bShort : Bool) (now : UInt32) : CBUSLED :=
  let l := { l with
    pulseDuration :=
      if bShort then l.msPulseShortDuration.toUInt32 else l.msPulseLongDuration.toUInt32 }
  { l with pulsing := true, state := true, pulseStart := now }.run now

end CBUSLED

/-- The state of a `CBUSSwitch`; the defaults are those of the constructor. -/
structure CBUSSwitch where
  configured : Bool := false
  pressedState : Bool := false
  currentState : Bool := true
  lastState : Bool := false
  activeState : Bool := true
  stateChanged : Bool := false
  debounceStartTime : UInt32 := 0
  lastStateChangeTime : UInt32 := 0
  lastStateDuration : UInt32 := 0
  prevReleaseTime : UInt32 := 0
  prevStateDuration : UInt32 := 0
  debounceDuration : UInt32 := 20

namespace CBUSSwitch

/-- The physical pin state; an unconfigured switch reads high. -/
def readPin (s : CBUSSwitch) (pin : Bool) : Bool := if s.configured then pin else true

def run (s : CBUSSwitch) (pin : Bool) (clock : Clock) : CBUSSwitch :=
  let s := { s with currentState := s.readPin pin }
  let s := if s.currentState != s.lastState then { s with debounceStartTime := clock 0 } else s
  let s :=
    if s.debounceDuration ≤ clock 1 - s.debounceStartTime then
      if s.currentState != s.activeState then
        let s := { s with
          activeState := s.currentState
          prevStateDuration := s.lastStateDuration
          lastStateDuration := clock 2 - s.lastStateChangeTime
          lastStateChangeTime := clock 3
          stateChanged := true }
        if s.currentState != s.pressedState then { s with prevReleaseTime := s.lastStateChangeTime }
        else s
      else { s with stateChanged := false }
    else s
  { s with lastState := s.currentState }

def reset (s : CBUSSwitch) : CBUSSwitch :=
  { s with
    lastState := !s.pressedState
    stateChanged := false
    lastStateChangeTime := 0
    lastStateDuration := 0
    prevReleaseTime := 0
    prevStateDuration := 0 }

/-- Configure the switch and read the present level of its pin. -/
def setPin (s : CBUSSwitch) (pressedState pin : Bool) : CBUSSwitch :=
  let s := { s with pressedState, activeState := !pressedState, configured := true }.reset
  { s with currentState := s.readPin pin }

def getState (s : CBUSSwitch) : Bool := s.activeState

def isPressed (s : CBUSSwitch) : Bool := s.activeState == s.pressedState

def getCurrentStateDuration (s : CBUSSwitch) (now : UInt32) : UInt32 := now - s.lastStateChangeTime

def getLastStateDuration (s : CBUSSwitch) : UInt32 := s.lastStateDuration

def setDebounceDuration (s : CBUSSwitch) (debounceDuration : UInt32) : CBUSSwitch :=
  { s with debounceDuration }

theorem isPressed_setPin (s : CBUSSwitch) (pressedState pin : Bool) :
    (s.setPin pressedState pin).isPressed = false := by
  cases pressedState <;> rfl

/-- Since when the pin is at its level, for a call that reads it. -/
def debounceStart (s : CBUSSwitch) (pin : Bool) (now : UInt32) : UInt32 :=
  if s.readPin pin = s.lastState then s.debounceStartTime else now

/-- The call finds that the pin has kept its level for the debounce duration. -/
def Stable (s : CBUSSwitch) (pin : Bool) (clock : Clock) : Prop :=
  s.debounceDuration ≤ clock 1 - s.debounceStart pin (clock 0)

instance (s : CBUSSwitch) (pin : Bool) (clock : Clock) : Decidable (s.Stable pin clock) :=
  inferInstanceAs (Decidable (_ ≤ _))

def sampled (s : CBUSSwitch) (pin : Bool) (now : UInt32) : CBUSSwitch :=
  { s with
    currentState := s.readPin pin
    debounceStartTime := s.debounceStart pin now
    lastState := s.readPin pin }

def accepted (s : CBUSSwitch) (pin : Bool) (clock : Clock) : CBUSSwitch :=
  { s.sampled pin (clock 0) with
    activeState := s.readPin pin
    prevStateDuration := s.lastStateDuration
    lastStateDuration := clock 2 - s.lastStateChangeTime
    lastStateChangeTime := clock 3
    stateChanged := true
    prevReleaseTime := if s.readPin pin = s.pressedState then s.prevReleaseTime else clock 3 }

theorem run_eq (s : CBUSSwitch) (pin : Bool) (clock : Clock) : s.run pin clock =
    if s.Stable pin clock then
      if s.readPin pin = s.activeState then { s.sampled pin (clock 0) with stateChanged := false }
      else s.accepted pin clock
    else s.sampled pin (clock 0) := by
  unfold run Stable accepted sampled debounceStart
  simp only [bne_iff_ne, ne_eq, ite_not]
  split_ifs <;> rfl

/-- A call waits for a stable level, finds the debounced state confirmed, or changes it. -/
theorem run_cases (s : CBUSSwitch) (pin : Bool) (clock : Clock) :
    ¬ s.Stable pin clock ∧ s.run pin clock = s.sampled pin (clock 0) ∨
    s.Stable pin clock ∧ s.readPin pin = s.activeState ∧
      s.run pin clock = { s.sampled pin (clock 0) with stateChanged := false } ∨
    s.Stable pin clock ∧ s.readPin pin ≠ s.activeState ∧
      s.run pin clock = s.accepted pin clock := by
  rw [run_eq]
  split_ifs with hstable hsettled
  · exact .inr (.inl ⟨hstable, hsettled, rfl⟩)
  · exact .inr (.inr ⟨hstable, hsettled, rfl⟩)
  · exact .inl ⟨hstable, rfl⟩

/-- The debounced state is kept with the time of its last change, or it changes now. -/
theorem run_isPressed (s : CBUSSwitch) (pin : Bool) (clock : Clock) :
    (s.run pin clock).isPressed = s.isPressed ∧
        (s.run pin clock).lastStateChangeTime = s.lastStateChangeTime ∨
      (s.run pin clock).isPressed = !s.isPressed ∧
        (s.run pin clock).lastStateChangeTime = clock 3 := by
  have hflip : ∀ level active pressed : Bool, level ≠ active →
      (level == pressed) = !(active == pressed) := by decide
  rcases s.run_cases pin clock with ⟨-, hrun⟩ | ⟨-, -, hrun⟩ | ⟨-, hnew, hrun⟩
  · rw [hrun]
    exact .inl ⟨rfl, rfl⟩
  · rw [hrun]
    exact .inl ⟨rfl, rfl⟩
  · rw [hrun]
    exact .inr ⟨hflip _ _ _ hnew, rfl⟩

end CBUSSwitch
end CBUSPicoLib
