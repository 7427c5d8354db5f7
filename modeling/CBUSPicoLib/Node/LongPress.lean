import CBUSPicoLib.Library.WrappedClock
import CBUSPicoLib.Node.FlimConsistency

/-!
# A node number is released by a long press only

The state machine gives up the node number in one place, when it finds the
switch released in `fsFlashing`. What has happened before is read off the run:
where the press began, in which state, and how long it had lasted at some poll.
-/

namespace CBUSPicoLib

open Runs WrappedClock

/-- A call of `sendMessage` with an `NNREL` frame. -/
def Effect.isNnrel : Effect → Bool
  | .sendMessage msg => msg.data.get 0 == opcNnrel
  | _ => false

namespace CBUSbase

def nnrels (n : CBUSbase) : ℕ := n.port.trace.countP Effect.isNnrel

theorem nnrels_emit (n : CBUSbase) (e : Effect) :
    (n.emit e).nnrels = n.nnrels + if e.isNnrel then 1 else 0 := by
  simp [nnrels, emit, List.countP_append, List.countP_cons]

theorem nnrels_forward (n : CBUSbase) (msg : CANFrame) (bMore : Bool) :
    (n.forward msg bMore).nnrels = n.nnrels := by
  unfold forward
  split_ifs
  · exact n.nnrels_emit _
  · rfl

theorem nnrels_of_port {n m : CBUSbase} (h : m.port = n.port) : m.nnrels = n.nnrels := by
  unfold nnrels
  rw [h]

theorem nnrels_sendMessage (n : CBUSbase) (msg : CANFrame) (rtr ext : Bool) (priority : UInt8) :
    (n.sendMessage msg rtr ext priority).2.2.nnrels =
      n.nnrels + if msg.data.get 0 = opcNnrel then 1 else 0 := by
  have hsent : (n.emit (.sendMessage msg)).nnrels =
      n.nnrels + if msg.data.get 0 = opcNnrel then 1 else 0 := by
    simp [nnrels_emit, Effect.isNnrel]
  unfold sendMessage
  dsimp only
  split
  · exact hsent
  · exact (nnrels_forward _ msg false).trans hsent
  · exact (nnrels_emit _ _).trans ((nnrels_forward _ msg false).trans hsent)

theorem nnrels_sendOpcMyNN (n : CBUSbase) (opc dataLen d1 d2 d3 d4 d5 : UInt8) :
    (n.sendOpcMyNN opc dataLen d1 d2 d3 d4 d5).nnrels =
      n.nnrels + if opc = opcNnrel then 1 else 0 := by
  exact n.nnrels_sendMessage _ false false defaultPriority

theorem nnrels_initFLiM (n : CBUSbase) : n.initFLiM.nnrels = n.nnrels := by
  unfold initFLiM
  rw [nnrels_sendOpcMyNN]
  exact nnrels_of_port (n.indicateModeOnLEDs_port _)

theorem nnrels_revertSLiM (n : CBUSbase) : n.revertSLiM.nnrels = n.nnrels + 1 := by
  have hset : n.revertSLiM.nnrels = (n.sendOpcMyNN opcNnrel).nnrels :=
    nnrels_of_port (indicateModeOnLEDs_port _ _)
  rw [hset, nnrels_sendOpcMyNN, if_pos rfl]

theorem nnrels_processEnumeration (n : CBUSbase) (now : UInt32) :
    (n.processEnumeration now).nnrels = n.nnrels := by
  unfold processEnumeration
  split_ifs
  · exact nnrels_sendMessage _ _ _ _ _
  · unfold concludeEnumeration
    split
    · dsimp only
      split_ifs
      · exact nnrels_sendOpcMyNN _ _ _ _ _ _ _ _
      · rfl
      · rfl
    · dsimp only
      split_ifs
      · exact nnrels_sendOpcMyNN _ _ _ _ _ _ _ _
      · rfl
  · rfl

/-- From `n` to `m` the module has sent `NNREL` or changed node number or FLiM flag. -/
def Releases (n m : CBUSbase) : Prop :=
  n.nnrels < m.nnrels ∨ m.moduleConfig.bFLiM ≠ n.moduleConfig.bFLiM ∨
    m.moduleConfig.nodeNum ≠ n.moduleConfig.nodeNum

theorem nnrels_flimSWCheck {n : CBUSbase} (hknown : n.flimState ≠ .fsUnknown)
    (hend : ¬ (n.flimState = .fsFlashing ∧ n.prevFlimState ≠ .fsSLiM ∧ n.sw.isPressed = false))
    (now : UInt32) : (n.flimSWCheck now).nnrels = n.nnrels := by
  have hstep := n.flimStep_flimSWCheck now
  generalize n.flimSWCheck now = m at hstep ⊢
  cases hstep with
  | move => rfl
  | flash => exact nnrels_of_port (indicateModeOnLEDs_port _ _)
  | setup => exact nnrels_initFLiM _
  | revert ends => exact absurd ends hend
  | resume => exact nnrels_of_port (indicateModeOnLEDs_port _ _)
  | unknown h => exact absurd h hknown

/-- In a known state, a poll releases the node number exactly if it ends a long press. -/
theorem releases_poll_iff {n : CBUSbase} (hknown : n.flimState ≠ .fsUnknown) (i : PollInput) :
    n.Releases (n.poll i) ↔ n.mode.EndsLongPress i.pin i.swClock := by
  let m : CBUSbase := { n with
    ledGrn := n.ledGrn.run i.grnTime
    ledYlw := n.ledYlw.run i.ylwTime
    sw := n.sw.run i.pin i.swClock }
  have hpoll : (n.poll i).nnrels = (m.flimSWCheck i.flimTime).nnrels :=
    nnrels_processEnumeration _ _
  constructor
  · intro h
    by_contra hend
    obtain ⟨hflim, hnode, -⟩ := Mode.poll_keeps (s := n.mode) hknown hend i.flimTime
    rw [← mode_poll] at hflim hnode
    have hsent : (n.poll i).nnrels = n.nnrels := by
      rw [hpoll, nnrels_flimSWCheck (n := m) hknown hend]
      rfl
    rcases h with h | h | h
    · omega
    · exact h hflim
    · exact h hnode
  · rintro ⟨hflash, hprev, hreleased⟩
    have hflash' : m.flimState = .fsFlashing := hflash
    have hprev' : m.prevFlimState ≠ .fsSLiM := hprev
    have hreleased' : m.sw.isPressed = false := hreleased
    have hcheck :
        m.flimSWCheck i.flimTime = CBUSbase.revertSLiM { m with flimState := .fsSLiM } := by
      simp [flimSWCheck, hflash', hprev', hreleased']
    have hsent : (n.poll i).nnrels = n.nnrels + 1 := by
      rw [hpoll, hcheck, nnrels_revertSLiM]
      rfl
    left
    omega

end CBUSbase

/-- A frame leaves the switch alone, and the state machine outside setup. -/
theorem Mode.FrameStep.sameSwitch {s t : Mode} (h : s.FrameStep t) :
    t.sw = s.sw ∧ t.prevFlimState = s.prevFlimState ∧
      (t.flimState = s.flimState ∨ s.flimState = .fsFLiMSetup ∧ t.flimState = .fsFLiM) := by
  cases h with
  | keep => exact ⟨rfl, rfl, .inl rfl⟩
  | leaveLearn => exact ⟨rfl, rfl, .inl rfl⟩
  | enterLearn => exact ⟨rfl, rfl, .inl rfl⟩
  | snn setup => exact ⟨rfl, rfl, .inr ⟨setup, rfl⟩⟩

theorem Mode.poll_sw (s : Mode) (pin : Bool) (clock : Clock) (now : UInt32) :
    (s.poll pin clock now).sw = s.sw.run pin clock := by
  unfold Mode.poll Mode.flimCheck
  split
  case h_7 => rfl
  all_goals split_ifs <;> rfl

section Polls

variable {s : Mode} {pin : Bool} {clock : Clock} (now : UInt32)

theorem Mode.poll_rests (hs : s.flimState = .fsFLiM ∨ s.flimState = .fsSLiM)
    (hp : (s.sw.run pin clock).isPressed = false) :
    (s.poll pin clock now).flimState = s.flimState := by
  rcases hs with hs | hs <;> simp [Mode.poll, Mode.flimCheck, hs, hp]

theorem Mode.poll_begins (hs : s.flimState = .fsFLiM ∨ s.flimState = .fsSLiM)
    (hp : (s.sw.run pin clock).isPressed = true) :
    (s.poll pin clock now).flimState = .fsPressed ∧
      (s.poll pin clock now).prevFlimState = s.flimState := by
  rcases hs with hs | hs <;> simp [Mode.poll, Mode.flimCheck, hs, hp]

theorem Mode.poll_holds (hs : s.flimState = .fsPressed)
    (hp : (s.sw.run pin clock).isPressed = true) :
    (s.poll pin clock now).prevFlimState = s.prevFlimState ∧
      ((s.poll pin clock now).flimState = .fsPressed ∨
        (s.poll pin clock now).flimState = .fsFlashing ∧
          flimHoldTime < now - (s.sw.run pin clock).lastStateChangeTime) := by
  simp only [Mode.poll, Mode.flimCheck, hs, hp, if_true]
  split_ifs with hold
  · exact ⟨rfl, .inr ⟨rfl, hold⟩⟩
  · exact ⟨rfl, .inl rfl⟩

theorem Mode.poll_flashes (hs : s.flimState = .fsFlashing)
    (hp : (s.sw.run pin clock).isPressed = true) :
    (s.poll pin clock now).prevFlimState = s.prevFlimState ∧
      (s.poll pin clock now).flimState = .fsFlashing := by
  simp [Mode.poll, Mode.flimCheck, hs, hp]

theorem Mode.poll_setup (hs : s.flimState = .fsFLiMSetup ∨ s.flimState = .fsPressedSetup)
    (hp : (s.sw.run pin clock).isPressed = true) :
    (s.poll pin clock now).prevFlimState = s.prevFlimState ∧
      (s.poll pin clock now).flimState = .fsPressedSetup := by
  rcases hs with hs | hs <;> simp [Mode.poll, Mode.flimCheck, hs, hp]

/-- Once the switch is released, a busy state machine is at rest or in setup. -/
theorem Mode.poll_ends (hs : s.flimState.busy = true)
    (hp : (s.sw.run pin clock).isPressed = false) :
    (s.poll pin clock now).prevFlimState = s.prevFlimState ∧
      ((s.poll pin clock now).flimState = .fsFLiMSetup ∨
        (s.poll pin clock now).flimState = s.prevFlimState ∨
        (s.poll pin clock now).flimState = .fsSLiM) := by
  simp only [Mode.poll, Mode.flimCheck, hp, Bool.false_eq_true, if_false]
  cases hstate : s.flimState with
  | fsFLiM => simp [FsState.busy, hstate] at hs
  | fsSLiM => simp [FsState.busy, hstate] at hs
  | fsPressed => split_ifs <;> simp
  | fsFlashing => split_ifs <;> simp [Mode.revert]
  | fsFLiMSetup => simp
  | fsPressedSetup => split_ifs <;> simp
  | fsUnknown => simp [FsState.busy, hstate] at hs

end Polls

/-- A poll with the clock readings in full; the module sees them modulo `2 ^ 32`. -/
structure TimedPoll where
  pin : Bool
  grnTime : ℕ
  ylwTime : ℕ
  swClock : ℕ → ℕ
  flimTime : ℕ
  enumTime : ℕ

namespace TimedPoll

/-- The readings of one poll in the order in which it takes them. -/
def readings (p : TimedPoll) : List ℕ :=
  [p.grnTime, p.ylwTime, p.swClock 0, p.swClock 1, p.swClock 2, p.swClock 3, p.flimTime, p.enumTime]

def input (p : TimedPoll) : PollInput where
  pin := p.pin
  grnTime := UInt32.ofNat p.grnTime
  ylwTime := UInt32.ofNat p.ylwTime
  swClock := fun k => UInt32.ofNat (p.swClock k)
  flimTime := UInt32.ofNat p.flimTime
  enumTime := UInt32.ofNat p.enumTime

end TimedPoll

/-- A poll, or anything else that happens to the module. -/
inductive TimedEvent
  | poll (p : TimedPoll)
  | other (e : CBUSbase.ModuleEvent) (he : ∀ i, e ≠ .poll i)

namespace TimedEvent

def readings : TimedEvent → List ℕ
  | .poll p => p.readings
  | .other _ _ => []

def event : TimedEvent → CBUSbase.ModuleEvent
  | .poll p => .poll p.input
  | .other e _ => e

end TimedEvent

/-- The readings of all polls, in order, never go back. -/
def ClockRuns (es : List TimedEvent) : Prop := (es.flatMap TimedEvent.readings).Pairwise (· ≤ ·)

theorem ClockRuns.of_append {es fs : List TimedEvent} (h : ClockRuns (es ++ fs)) :
    ClockRuns es := by
  unfold ClockRuns at h
  rw [List.flatMap_append, List.pairwise_append] at h
  exact h.1

/-- A later poll checks the state machine after an earlier one has run the switch. -/
theorem ClockRuns.le {before during : List TimedEvent} {first p : TimedPoll}
    (h : ClockRuns (before ++ .poll first :: (during ++ [TimedEvent.poll p]))) :
    first.swClock 3 ≤ p.flimTime := by
  unfold ClockRuns at h
  rw [List.flatMap_append, List.flatMap_cons, List.flatMap_append] at h
  have hrest := (List.pairwise_append.mp (List.pairwise_append.mp h).2.1).2.2
  refine hrest (first.swClock 3) ?_ p.flimTime ?_
  · simp [TimedEvent.readings, TimedPoll.readings]
  · simp [TimedEvent.readings, TimedPoll.readings]

namespace CBUSbase

def timedStep (n : CBUSbase) (e : TimedEvent) : CBUSbase := n.moduleStep e.event

theorem run_timedStep_concat (n : CBUSbase) (es : List TimedEvent) (e : TimedEvent) :
    run timedStep n (es ++ [e]) = (run timedStep n es).moduleStep e.event := run_append n es [e]

variable (n : CBUSbase)

/-- A press of the switch: released after `before`, pressed from the poll `first` on. -/
structure Press (before : List TimedEvent) (first : TimedPoll) (during : List TimedEvent) :
    Prop where
  released : (run timedStep n before).sw.isPressed = false
  pressed : ∀ ps, ps <+: during →
    (run timedStep n (before ++ .poll first :: ps)).sw.isPressed = true

/-- At some poll of the press it had lasted for more than 4000 ms. -/
def Held (first : TimedPoll) (during : List TimedEvent) : Prop :=
  ∃ p, TimedEvent.poll p ∈ during ∧ first.swClock 3 + 4000 < p.flimTime

/-- The press in progress after `es`, as the module remembers it. -/
structure Pressing (es before : List TimedEvent) (first : TimedPoll) (during : List TimedEvent) :
    Prop extends Press n before first during where
  split : es = before ++ .poll first :: during
  rest : (run timedStep n before).flimState = .fsFLiM ∨ (run timedStep n before).flimState = .fsSLiM
  prev : (run timedStep n es).prevFlimState = (run timedStep n before).flimState
  since : (run timedStep n es).sw.lastStateChangeTime = UInt32.ofNat (first.swClock 3)

/-- How the state machine follows the switch. -/
inductive Tracked (es : List TimedEvent) : Prop
  | rest (state : (run timedStep n es).flimState = .fsFLiM ∨ (run timedStep n es).flimState = .fsSLiM)
      (released : (run timedStep n es).sw.isPressed = false)
  | pressed (state : (run timedStep n es).flimState = .fsPressed) {before : List TimedEvent}
      {first : TimedPoll} {during : List TimedEvent} (press : n.Pressing es before first during)
  | flashing (state : (run timedStep n es).flimState = .fsFlashing) {before : List TimedEvent}
      {first : TimedPoll} {during : List TimedEvent} (press : n.Pressing es before first during)
      (held : Held first during)
  | setup (state : (run timedStep n es).flimState = .fsFLiMSetup)
      (prev : (run timedStep n es).prevFlimState = .fsFLiM ∨
        (run timedStep n es).prevFlimState = .fsSLiM)
      (released : (run timedStep n es).sw.isPressed = false)
  | pressedSetup (state : (run timedStep n es).flimState = .fsPressedSetup)
      (prev : (run timedStep n es).prevFlimState = .fsFLiM ∨
        (run timedStep n es).prevFlimState = .fsSLiM)
      (pressed : (run timedStep n es).sw.isPressed = true)

variable {n}

theorem Pressing.isPressed {es before : List TimedEvent} {first : TimedPoll}
    {during : List TimedEvent} (h : n.Pressing es before first during) :
    (run timedStep n es).sw.isPressed = true := by
  rw [h.split]
  exact h.pressed during List.prefix_rfl

theorem Pressing.concat {es before : List TimedEvent} {first : TimedPoll}
    {during : List TimedEvent} (h : n.Pressing es before first during) {e : TimedEvent}
    (hpressed : (run timedStep n (es ++ [e])).sw.isPressed = true)
    (hprev : (run timedStep n (es ++ [e])).prevFlimState = (run timedStep n es).prevFlimState)
    (hsince : (run timedStep n (es ++ [e])).sw.lastStateChangeTime =
      (run timedStep n es).sw.lastStateChangeTime) :
    n.Pressing (es ++ [e]) before first (during ++ [e]) := by
  have hsplit : es ++ [e] = before ++ .poll first :: (during ++ [e]) := by
    rw [h.split, List.append_assoc, List.cons_append]
  refine ⟨⟨h.released, fun ps hps => ?_⟩, hsplit, h.rest, hprev.trans h.prev, hsince.trans h.since⟩
  rcases List.prefix_concat_iff.mp hps with rfl | hps
  · rwa [← hsplit]
  · exact h.pressed ps hps

theorem Tracked.other {es : List TimedEvent} (h : n.Tracked es) {e : ModuleEvent}
    (he : ∀ i, e ≠ .poll i) : n.Tracked (es ++ [TimedEvent.other e he]) := by
  have hrun := n.run_timedStep_concat es (.other e he)
  obtain ⟨hsw, hprev, hstate⟩ := ((run timedStep n es).frameStep_moduleStep he).sameSwitch
  have hsw' : (run timedStep n (es ++ [TimedEvent.other e he])).sw = (run timedStep n es).sw :=
    (congrArg CBUSbase.sw hrun).trans hsw
  have hprev' : (run timedStep n (es ++ [TimedEvent.other e he])).prevFlimState =
      (run timedStep n es).prevFlimState := (congrArg CBUSbase.prevFlimState hrun).trans hprev
  have hkeep : (run timedStep n es).flimState ≠ .fsFLiMSetup →
      (run timedStep n (es ++ [TimedEvent.other e he])).flimState =
        (run timedStep n es).flimState :=
    fun hne => (congrArg CBUSbase.flimState hrun).trans
      (hstate.resolve_right fun hsetup => hne hsetup.1)
  have hpress : ∀ {before first during}, n.Pressing es before first during →
      n.Pressing (es ++ [TimedEvent.other e he]) before first
        (during ++ [TimedEvent.other e he]) := fun press =>
    press.concat (by rw [hsw']; exact press.isPressed) hprev' (by rw [hsw'])
  cases h with
  | rest state released =>
    refine .rest ?_ (by rwa [hsw'])
    rwa [hkeep (by rcases state with h | h <;> simp [h])]
  | pressed state press => exact .pressed ((hkeep (by simp [state])).trans state) (hpress press)
  | flashing state press held =>
    obtain ⟨p, hp, hheld⟩ := held
    exact .flashing ((hkeep (by simp [state])).trans state) (hpress press)
      ⟨p, List.mem_append_left _ hp, hheld⟩
  | setup state prev released =>
    rcases hstate with hstate | ⟨-, hstate⟩
    · exact .setup ((congrArg CBUSbase.flimState hrun).trans (hstate.trans state))
        (by rwa [hprev']) (by rwa [hsw'])
    · exact .rest (.inl ((congrArg CBUSbase.flimState hrun).trans hstate)) (by rwa [hsw'])
  | pressedSetup state prev pressed =>
    exact .pressedSetup ((hkeep (by simp [state])).trans state) (by rwa [hprev']) (by rwa [hsw'])

theorem run_concat_poll (es : List TimedEvent) (p : TimedPoll) :
    (run timedStep n (es ++ [TimedEvent.poll p])).mode =
      (run timedStep n es).mode.poll p.pin p.input.swClock p.input.flimTime := by
  rw [run_timedStep_concat]
  exact mode_poll _ p.input

theorem run_concat_poll_sw (es : List TimedEvent) (p : TimedPoll) :
    (run timedStep n (es ++ [TimedEvent.poll p])).sw =
      (run timedStep n es).mode.sw.run p.pin p.input.swClock :=
  (congrArg Mode.sw (run_concat_poll es p)).trans (Mode.poll_sw _ _ _ _)

theorem run_concat_poll_flimState (es : List TimedEvent) (p : TimedPoll) :
    (run timedStep n (es ++ [TimedEvent.poll p])).flimState =
      ((run timedStep n es).mode.poll p.pin p.input.swClock p.input.flimTime).flimState :=
  congrArg Mode.flimState (run_concat_poll es p)

theorem run_concat_poll_prev (es : List TimedEvent) (p : TimedPoll) :
    (run timedStep n (es ++ [TimedEvent.poll p])).prevFlimState =
      ((run timedStep n es).mode.poll p.pin p.input.swClock p.input.flimTime).prevFlimState :=
  congrArg Mode.prevFlimState (run_concat_poll es p)

theorem Tracked.poll_released {es : List TimedEvent} (h : n.Tracked es) {p : TimedPoll}
    (hp : (run timedStep n (es ++ [TimedEvent.poll p])).sw.isPressed = false) :
    n.Tracked (es ++ [TimedEvent.poll p]) := by
  have hreleased := hp
  rw [run_concat_poll_sw] at hreleased
  have hbusy : (run timedStep n es).flimState.busy = true →
      ((run timedStep n es).prevFlimState = .fsFLiM ∨
        (run timedStep n es).prevFlimState = .fsSLiM) → n.Tracked (es ++ [TimedEvent.poll p]) := by
    intro hb hknown
    obtain ⟨hkeep, hends⟩ := Mode.poll_ends p.input.flimTime
      (show (run timedStep n es).mode.flimState.busy = true from hb) hreleased
    rw [← run_concat_poll_flimState] at hends
    rcases hends with hends | hends | hends
    · refine .setup hends ?_ hp
      rw [run_concat_poll_prev, hkeep]
      exact hknown
    · refine .rest ?_ hp
      rw [hends]
      exact hknown
    · exact .rest (.inr hends) hp
  cases h with
  | rest state released =>
    refine .rest ?_ hp
    rw [run_concat_poll_flimState, Mode.poll_rests _ state hreleased]
    exact state
  | pressed state press =>
    apply hbusy (by rw [state]; rfl)
    rw [press.prev]
    exact press.rest
  | flashing state press held =>
    apply hbusy (by rw [state]; rfl)
    rw [press.prev]
    exact press.rest
  | setup state prev released => exact hbusy (by rw [state]; rfl) prev
  | pressedSetup state prev pressed => exact hbusy (by rw [state]; rfl) prev

theorem Pressing.held {es before : List TimedEvent} {first : TimedPoll} {during : List TimedEvent}
    {p : TimedPoll}
    (h : n.Pressing (es ++ [TimedEvent.poll p]) before first (during ++ [TimedEvent.poll p]))
    (hclock : ClockRuns (es ++ [TimedEvent.poll p]))
    (hold : flimHoldTime < p.input.flimTime -
      (run timedStep n (es ++ [TimedEvent.poll p])).sw.lastStateChangeTime) :
    Held first (during ++ [TimedEvent.poll p]) := by
  rw [h.split] at hclock
  rw [h.since] at hold
  exact ⟨p, by simp, add_lt_of_elapsed hclock.le hold⟩

theorem Pressing.poll {es before : List TimedEvent} {first : TimedPoll} {during : List TimedEvent}
    (h : n.Pressing es before first during) {p : TimedPoll}
    (hp : (run timedStep n (es ++ [TimedEvent.poll p])).sw.isPressed = true)
    (hprev : (run timedStep n (es ++ [TimedEvent.poll p])).prevFlimState =
      (run timedStep n es).prevFlimState) :
    n.Pressing (es ++ [TimedEvent.poll p]) before first (during ++ [TimedEvent.poll p]) := by
  have hchange := (run timedStep n es).mode.sw.run_isPressed p.pin p.input.swClock
  rw [← run_concat_poll_sw, hp] at hchange
  refine h.concat hp hprev ?_
  rcases hchange with ⟨-, htime⟩ | ⟨hflip, -⟩
  · exact htime
  · rw [show (run timedStep n es).mode.sw = (run timedStep n es).sw from rfl, h.isPressed] at hflip
    exact absurd hflip Bool.false_ne_true.symm

theorem Tracked.poll_pressed {es : List TimedEvent} (h : n.Tracked es) {p : TimedPoll}
    (hclock : ClockRuns (es ++ [TimedEvent.poll p]))
    (hp : (run timedStep n (es ++ [TimedEvent.poll p])).sw.isPressed = true) :
    n.Tracked (es ++ [TimedEvent.poll p]) := by
  have hpressed := hp
  rw [run_concat_poll_sw] at hpressed
  cases h with
  | rest state released =>
    have hchange := (run timedStep n es).mode.sw.run_isPressed p.pin p.input.swClock
    rw [← run_concat_poll_sw, hp] at hchange
    obtain ⟨hbegins, hprev⟩ := Mode.poll_begins p.input.flimTime state hpressed
    rw [← run_concat_poll_flimState] at hbegins
    rw [← run_concat_poll_prev] at hprev
    have hpress : n.Pressing (es ++ [TimedEvent.poll p]) es p [] := by
      refine ⟨⟨released, fun ps hps => ?_⟩, rfl, state, hprev, ?_⟩
      · rw [List.prefix_nil.mp hps]
        exact hp
      · rcases hchange with ⟨hsame, -⟩ | ⟨-, htime⟩
        · exact absurd (released.symm.trans hsame.symm) Bool.false_ne_true
        · exact htime
    exact .pressed hbegins hpress
  | pressed state press =>
    obtain ⟨hprev, hholds⟩ := @Mode.poll_holds (run timedStep n es).mode _ _
      p.input.flimTime state hpressed
    rw [← run_concat_poll_prev] at hprev
    rw [← run_concat_poll_flimState, ← run_concat_poll_sw] at hholds
    have hgoes := press.poll hp hprev
    rcases hholds with hholds | ⟨hholds, hlong⟩
    · exact .pressed hholds hgoes
    · exact .flashing hholds hgoes (hgoes.held hclock hlong)
  | flashing state press held =>
    obtain ⟨hprev, hflash⟩ := @Mode.poll_flashes (run timedStep n es).mode _ _
      p.input.flimTime state hpressed
    rw [← run_concat_poll_prev] at hprev
    rw [← run_concat_poll_flimState] at hflash
    obtain ⟨q, hq, hlong⟩ := held
    exact .flashing hflash (press.poll hp hprev) ⟨q, List.mem_append_left _ hq, hlong⟩
  | setup state prev released =>
    obtain ⟨hprev, hsetup⟩ := @Mode.poll_setup (run timedStep n es).mode _ _
      p.input.flimTime (.inl state) hpressed
    rw [← run_concat_poll_prev] at hprev
    refine .pressedSetup ((run_concat_poll_flimState es p).trans hsetup) ?_ hp
    rw [hprev]
    exact prev
  | pressedSetup state prev pressed =>
    obtain ⟨hprev, hsetup⟩ := @Mode.poll_setup (run timedStep n es).mode _ _
      p.input.flimTime (.inr state) hpressed
    rw [← run_concat_poll_prev] at hprev
    refine .pressedSetup ((run_concat_poll_flimState es p).trans hsetup) ?_ hp
    rw [hprev]
    exact prev

theorem tracked_run (hreleased : n.sw.isPressed = false)
    (hrest : n.flimState = .fsFLiM ∨ n.flimState = .fsSLiM) (es : List TimedEvent)
    (hclock : ClockRuns es) : n.Tracked es := by
  induction es using List.reverseRecOn with
  | nil => exact .rest hrest hreleased
  | append_singleton es e ih =>
    have h := ih hclock.of_append
    cases e with
    | other e he => exact h.other he
    | poll p =>
      cases hp : (run timedStep n (es ++ [TimedEvent.poll p])).sw.isPressed with
      | false => exact h.poll_released hp
      | true => exact h.poll_pressed hclock hp

theorem Tracked.known {es : List TimedEvent} (h : n.Tracked es) :
    (run timedStep n es).flimState ≠ .fsUnknown := by
  cases h with
  | rest state => rcases state with h | h <;> simp [h]
  | pressed state => simp [state]
  | flashing state => simp [state]
  | setup state => simp [state]
  | pressedSetup state => simp [state]

/-- Whenever a poll releases the node number, the switch has just been released from a
press that began in FLiM and had lasted for more than 4000 ms at an earlier poll. -/
theorem held_of_releases (n : CBUSbase) {s : CBUSSwitch} {pressedState level : Bool}
    (hsw : n.sw = s.setPin pressedState level)
    (hrest : n.flimState = .fsFLiM ∨ n.flimState = .fsSLiM) (es : List TimedEvent) (p : TimedPoll)
    (hclock : ClockRuns (es ++ [.poll p]))
    (hreleases : (run timedStep n es).Releases (run timedStep n (es ++ [.poll p]))) :
    ∃ before first during, es = before ++ .poll first :: during ∧ n.Press before first during ∧
      (run timedStep n before).flimState = .fsFLiM ∧ Held first during ∧
      (run timedStep n (es ++ [.poll p])).sw.isPressed = false := by
  have hreleased : n.sw.isPressed = false := by rw [hsw, CBUSSwitch.isPressed_setPin]
  have h := tracked_run hreleased hrest es hclock.of_append
  rw [run_timedStep_concat] at hreleases
  obtain ⟨hflash, hprev, hend⟩ := (releases_poll_iff h.known p.input).mp hreleases
  change (run timedStep n es).flimState = .fsFlashing at hflash
  cases h with
  | flashing state press held =>
    refine ⟨_, _, _, press.split, press.toPress, ?_, held, ?_⟩
    · refine press.rest.resolve_right fun hslim => hprev ?_
      exact press.prev.trans hslim
    · rw [run_concat_poll_sw]
      exact hend
  | rest state => rcases state with h | h <;> simp [h] at hflash
  | pressed state => simp [state] at hflash
  | setup state => simp [state] at hflash
  | pressedSetup state => simp [state] at hflash

/-- The long press again, on a clock that wraps while the button is held. -/
def wrappingPress : List TimedEvent :=
  [(100, false), (200, false), (4300, false), (4400, true)].map fun (ms, pin) =>
    let now := 2 ^ 32 - 1000 + ms
    .poll ⟨pin, now, now, fun _ => now, now, now⟩

theorem held_of_releases_wrapping :
    let start := { smallModule with sw := smallModule.sw.setPin false true }
    let now := 2 ^ 32 - 1000 + 4500
    let p : TimedPoll := ⟨true, now, now, fun _ => now, now, now⟩
    ∃ before first during, wrappingPress = before ++ .poll first :: during ∧
      start.Press before first during ∧ (run timedStep start before).flimState = .fsFLiM ∧
      Held first during ∧
      (run timedStep start (wrappingPress ++ [.poll p])).sw.isPressed = false := by
  intro start now p
  refine start.held_of_releases rfl (.inl rfl) wrappingPress p ?_ (.inl ?_)
  · unfold ClockRuns
    decide
  · decide +kernel

end CBUSbase

end CBUSPicoLib
