import CBUSPicoLib.Node.Process

/-!
# The mode of the module

Learn mode, the FLiM state machine, the FLiM flag, the node number and the switch:
what decides how the module behaves on the bus. `Mode` is this part of the module
by itself; a poll steps it as `Mode.poll` says and a frame in one of four ways.
-/

namespace CBUSPicoLib

open Runs

/-- What decides the mode. -/
@[ext] structure Mode where
  bLearn : Bool
  flimState : FsState
  prevFlimState : FsState
  bFLiM : Bool
  nodeNum : UInt32
  sw : CBUSSwitch

namespace Mode

def revert (s : Mode) : Mode := { s with flimState := .fsSLiM, bFLiM := false, nodeNum := 0 }

def flimCheck (s : Mode) (now : UInt32) : Mode :=
  match s.flimState with
  | .fsFLiM | .fsSLiM =>
    if s.sw.isPressed then { s with prevFlimState := s.flimState, flimState := .fsPressed } else s
  | .fsPressed =>
    if s.sw.isPressed then
      if flimHoldTime < s.sw.getCurrentStateDuration now then { s with flimState := .fsFlashing }
      else s
    else if s.prevFlimState = .fsFLiM ∧ flimDebounceTime < s.sw.getLastStateDuration then
      { s with flimState := .fsFLiMSetup }
    else { s with flimState := s.prevFlimState }
  | .fsFlashing =>
    if s.sw.isPressed then s
    else if s.prevFlimState = .fsSLiM then { s with flimState := .fsFLiMSetup }
    else s.revert
  | .fsFLiMSetup => if s.sw.isPressed then { s with flimState := .fsPressedSetup } else s
  | .fsPressedSetup =>
    if s.sw.isPressed then s
    else if flimDebounceTime < s.sw.getLastStateDuration then
      { s with flimState := s.prevFlimState }
    else { s with flimState := .fsFLiMSetup }
  | .fsUnknown => s.revert

def poll (s : Mode) (pin : Bool) (clock : Clock) (now : UInt32) : Mode :=
  flimCheck { s with sw := s.sw.run pin clock } now

/-- What a frame can do. -/
inductive FrameStep (s : Mode) : Mode → Prop
  | keep : FrameStep s s
  | leaveLearn : FrameStep s { s with bLearn := false }
  | enterLearn (flim : s.bFLiM = true) : FrameStep s { s with bLearn := true }
  | snn (setup : s.flimState = .fsFLiMSetup) (nn : UInt32) :
      FrameStep s { s with flimState := .fsFLiM, bFLiM := true, nodeNum := nn }

end Mode

namespace CBUSbase

def mode (n : CBUSbase) : Mode where
  bLearn := n.bLearn
  flimState := n.flimState
  prevFlimState := n.prevFlimState
  bFLiM := n.moduleConfig.bFLiM
  nodeNum := n.moduleConfig.nodeNum
  sw := n.sw

theorem Replies.mode {n m : CBUSbase} (h : Replies n m) : m.mode = n.mode := by
  obtain ⟨port, es, rfl, -⟩ := h
  rfl

@[simp] theorem mode_sendOpcMyNN (n : CBUSbase) (opc dataLen d1 d2 d3 d4 d5 : UInt8) :
    (n.sendOpcMyNN opc dataLen d1 d2 d3 d4 d5).mode = n.mode :=
  (n.replies_sendOpcMyNN opc dataLen d1 d2 d3 d4 d5).mode

@[simp] theorem mode_indicateModeOnLEDs (n : CBUSbase) (mode : LedMode) :
    (n.indicateModeOnLEDs mode).mode = n.mode := by
  cases mode <;> rfl

@[simp] theorem mode_initFLiM (n : CBUSbase) : n.initFLiM.mode = n.mode := by
  simp [initFLiM]

theorem mode_config {n : CBUSbase} {c : CBUSConfig} (hflim : c.bFLiM = n.moduleConfig.bFLiM)
    (hnode : c.nodeNum = n.moduleConfig.nodeNum) :
    CBUSbase.mode { n with moduleConfig := c } = n.mode := by
  simp [CBUSbase.mode, hflim, hnode]

@[simp] theorem mode_doEnum (n : CBUSbase) (b : Bool) : (n.doEnum b).mode = n.mode := by
  unfold doEnum
  dsimp only
  split_ifs <;> rfl

theorem mode_setCANID (n : CBUSbase) (canid : UInt8) :
    CBUSbase.mode { n with moduleConfig := (n.moduleConfig.setCANID canid).2 } = n.mode :=
  mode_config (n.moduleConfig.setCANID_mode canid).1 (n.moduleConfig.setCANID_mode canid).2

@[simp] theorem mode_processEnumeration (n : CBUSbase) (now : UInt32) :
    (n.processEnumeration now).mode = n.mode := by
  have hstep := n.enumerationStep_processEnumeration now
  generalize n.processEnumeration now = m at hstep ⊢
  cases hstep with
  | keep => rfl
  | start _ _ replies => exact replies.mode
  | conclude c config replies =>
    refine replies.mode.trans ?_
    rcases config with rfl | ⟨canId, rfl⟩
    · rfl
    · exact n.mode_setCANID canId

theorem mode_indicateFLiMMode (n : CBUSbase) (bFLiM : Bool) :
    (n.indicateFLiMMode bFLiM).mode =
      { n.mode with flimState := if bFLiM then .fsFLiM else .fsSLiM } := by
  simp [indicateFLiMMode]
  rfl

theorem mode_revertSLiM (n : CBUSbase) : n.revertSLiM.mode = n.mode.revert := by
  have hslim : ∀ m : CBUSbase, m.setSLiM.mode = m.mode.revert := by
    intro m
    let c := ((m.moduleConfig.setNodeNum 0).setFLiM false).setCANID 1
    have hmode := ((m.moduleConfig.setNodeNum 0).setFLiM false).setCANID_mode 1
    have hflim := (m.moduleConfig.setNodeNum 0).setFLiM_identityRam false
    have hnode := m.moduleConfig.setNodeNum_identityRam 0
    simp only [CBUSConfig.identityRam, Prod.mk.injEq] at hflim hnode
    have hslim : c.2.bFLiM = false := hmode.1.trans hflim.2.1
    have hzero : c.2.nodeNum = 0 := hmode.2.trans (hflim.2.2.trans hnode.2.2)
    change (CBUSbase.indicateFLiMMode { m with moduleConfig := c.2 } c.2.bFLiM).mode = _
    rw [mode_indicateFLiMMode]
    simp [CBUSbase.mode, Mode.revert, hslim, hzero]
  simp [revertSLiM, hslim]

theorem mode_flimSWCheck (n : CBUSbase) (now : UInt32) :
    (n.flimSWCheck now).mode = n.mode.flimCheck now := by
  have hstate : n.mode.flimState = n.flimState := rfl
  have hsw : n.mode.sw = n.sw := rfl
  have hprev : n.mode.prevFlimState = n.prevFlimState := rfl
  unfold flimSWCheck Mode.flimCheck
  rw [hstate]
  cases n.flimState with
  | fsFLiM => simp only [hsw]; split_ifs <;> rfl
  | fsSLiM => simp only [hsw]; split_ifs <;> rfl
  | fsPressed =>
    simp only [hsw, hprev]
    split_ifs
    · simp
      rfl
    · rfl
    · simp
      rfl
    · rfl
  | fsFlashing =>
    simp only [hsw, hprev]
    cases n.sw.isPressed with
    | true => rfl
    | false =>
      simp only [Bool.not_false, if_true, Bool.false_eq_true, if_false]
      split_ifs
      · simp
        rfl
      · exact mode_revertSLiM _
  | fsFLiMSetup => simp only [hsw]; split_ifs <;> rfl
  | fsPressedSetup =>
    simp only [hsw, hprev]
    cases n.sw.isPressed with
    | true => rfl
    | false =>
      simp only [Bool.not_false, if_true, Bool.false_eq_true, if_false]
      split_ifs
      · exact mode_indicateModeOnLEDs _ _
      · exact mode_indicateModeOnLEDs _ _
      · rfl
  | fsUnknown => exact n.mode_revertSLiM

theorem mode_poll (n : CBUSbase) (i : PollInput) :
    (n.poll i).mode = n.mode.poll i.pin i.swClock i.flimTime := by
  simp [CBUSbase.poll, mode_flimSWCheck]
  rfl

theorem CommandStep.mode {n m : CBUSbase} {msg : CANFrame} (h : CommandStep n msg m) :
    n.mode.FrameStep m.mode := by
  have hkeep : ∀ {c : CBUSConfig}, c.identityRam = n.moduleConfig.identityRam →
      n.mode.FrameStep (CBUSbase.mode { n with moduleConfig := c }) := by
    intro c hc
    simp only [CBUSConfig.identityRam, Prod.mk.injEq] at hc
    rw [mode_config hc.2.1 hc.2.2]
    exact .keep
  cases h with
  | keep => exact .keep
  | leaveLearn => exact .leaveLearn
  | enterLearn _ flim => exact .enterLearn flim
  | nnclr => exact hkeep n.moduleConfig.clearEventsEEPROM_identityRam
  | evuln => exact hkeep (n.moduleConfig.clearEventEEPROM_identityRam _ _)
  | evlrn => exact hkeep (n.moduleConfig.learnEvent_identityRam _ _ _ _)
  | nvset => exact hkeep (n.moduleConfig.writeNV_identityRam _ _)
  | canid =>
    rw [mode_setCANID]
    exact .keep
  | enum =>
    rw [mode_doEnum]
    exact .keep
  | snn setup =>
    have hflim := (n.moduleConfig.setNodeNum n.nodeNumber.toUInt32).setFLiM_identityRam true
    have hnode := n.moduleConfig.setNodeNum_identityRam n.nodeNumber.toUInt32
    simp only [CBUSConfig.identityRam, Prod.mk.injEq] at hflim hnode
    rw [mode_indicateFLiMMode]
    simpa [CBUSbase.mode, hflim, hnode] using
      Mode.FrameStep.snn (s := n.mode) setup n.nodeNumber.toUInt32

theorem mode_parseCBUSEvent (n : CBUSbase) (msg : CANFrame) :
    (n.parseCBUSEvent msg).2.mode = n.mode := by
  unfold parseCBUSEvent
  dsimp only
  split_ifs <;> rfl

theorem mode_callFrameHandler (n : CBUSbase) (msg : CANFrame) :
    (n.callFrameHandler msg).2.mode = n.mode := by
  obtain ⟨port, h⟩ := n.callFrameHandler_frame msg
  rw [h]
  rfl

theorem frameStep_parseCBUSMsg (n : CBUSbase) (msg : CANFrame) :
    n.mode.FrameStep (n.parseCBUSMsg msg).2.mode := by
  unfold parseCBUSMsg
  split_ifs
  · rw [mode_parseCBUSEvent]
    exact .keep
  · obtain ⟨m, step, hr⟩ := n.parseFLiMCmd_handles msg
    rw [hr.mode]
    exact step.mode

theorem frameStep_handleFrame (n : CBUSbase) (msg : CANFrame) (pulseTime : UInt32) :
    n.mode.FrameStep (n.handleFrame msg pulseTime).mode := by
  let m := { n with bThisNN := n.isThisNN msg }
  let k := (m.callFrameHandler msg).2.emit (.parseCBUSMsg (m.callFrameHandler msg).1)
  have hk : k.mode = n.mode := m.mode_callFrameHandler msg
  have hparse := k.frameStep_parseCBUSMsg (m.callFrameHandler msg).1
  rw [hk] at hparse
  unfold handleFrame
  dsimp only
  split_ifs <;> exact hparse

theorem mode_takeFrame (n : CBUSbase) (canSend : Bool) :
    (n.takeFrame canSend).2.mode = n.mode := by
  obtain ⟨_, _, _, _, h⟩ := n.takeFrame_frame canSend
  rw [h]
  rfl

theorem mode_checkIncomingFrame {n : CBUSbase} {msg : CANFrame} {now : UInt32}
    {r : Bool × CANFrame × CBUSbase} (h : n.checkIncomingFrame msg now = some r) :
    r.2.2.mode = n.mode := by
  obtain ⟨_, _, _, _, _, hframe⟩ := checkIncomingFrame_frame h
  rw [hframe]
  rfl

def iterate (n : CBUSbase) (i : FrameInput) : CBUSbase :=
  let n := n.arrive i
  if n.available || n.gcAvailable || n.coeAvailable then
    let (msg, n) := n.takeFrame i.canSend
    match msg with
    | some msg => n.handleFrame msg i.pulseTime
    | none => n
  else n

/-- What happens to the module: a poll, an iteration of the message loop, the handling
of any one frame, and the receive interrupt. -/
inductive ModuleEvent
  | poll (i : PollInput)
  | iterate (i : FrameInput)
  | received (msg : CANFrame) (pulseTime : UInt32)
  | notify (msg : CANFrame) (now : UInt32)

/-- A record outside the response table, which is a fault, is left out. -/
def moduleStep (n : CBUSbase) : ModuleEvent → CBUSbase
  | .poll i => n.poll i
  | .iterate i => n.iterate i
  | .received msg pulseTime => n.handleFrame msg pulseTime
  | .notify msg now => (n.checkIncomingFrame msg now).elim n (·.2.2)

theorem exists_messageLoop_eq_run (n : CBUSbase) (frames : ℕ → FrameInput) (k : ℕ) :
    ∃ inputs : List FrameInput, n.messageLoop frames k = run moduleStep n (inputs.map .iterate) := by
  induction k generalizing n with
  | zero => exact ⟨[], rfl⟩
  | succ k ih =>
    by_cases h : ((n.arrive (frames k)).available || (n.arrive (frames k)).gcAvailable ||
        (n.arrive (frames k)).coeAvailable) = true
    · obtain ⟨inputs, hrun⟩ := ih (n.iterate (frames k))
      refine ⟨frames k :: inputs, ?_⟩
      rw [List.map_cons, run_cons]
      have hiter : n.iterate (frames k) = _ := if_pos h
      change _ = run moduleStep (n.iterate (frames k)) (inputs.map .iterate)
      rw [← hrun, hiter]
      exact if_pos h
    · refine ⟨[frames k], ?_⟩
      simp [messageLoop, moduleStep, iterate, h]

/-- A call of `process` is a poll and some iterations of the message loop. -/
theorem exists_process_eq_run (n : CBUSbase) (call : ProcessCall) :
    ∃ inputs : List FrameInput, n.process call = run moduleStep n (.poll call.poll :: inputs.map .iterate) :=
  exists_messageLoop_eq_run (n.poll call.poll) call.frames call.numMessages.toNat

theorem frameStep_moduleStep (n : CBUSbase) {e : ModuleEvent} (h : ∀ i, e ≠ .poll i) :
    n.mode.FrameStep (n.moduleStep e).mode := by
  cases e with
  | poll i => exact absurd rfl (h i)
  | received msg pulseTime => exact n.frameStep_handleFrame msg pulseTime
  | notify msg now =>
    cases hr : n.checkIncomingFrame msg now with
    | none => simpa [moduleStep, hr] using Mode.FrameStep.keep
    | some r => simpa [moduleStep, hr, mode_checkIncomingFrame hr] using Mode.FrameStep.keep
  | iterate i =>
    have htake : ((n.arrive i).takeFrame i.canSend).2.mode = n.mode := mode_takeFrame _ _
    simp only [moduleStep, iterate]
    split_ifs
    · rw [← htake]
      split
      · exact frameStep_handleFrame _ _ _
      · exact .keep
    · exact .keep

end CBUSbase
end CBUSPicoLib
