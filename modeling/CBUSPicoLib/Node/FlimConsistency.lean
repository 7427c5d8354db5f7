import CBUSPicoLib.Node.Authority
import CBUSPicoLib.Node.Modes

/-!
# FLiM state, stored mode and learn mode

The FLiM state machine, the stored FLiM flag and the node number agree in every
state that a started module reaches. Learn mode does not: it is entered in FLiM
only, but a long press of the button leaves FLiM without leaving learn mode.
-/

namespace CBUSPicoLib

open Runs

def FsState.settled (bFLiM : Bool) : FsState := if bFLiM then .fsFLiM else .fsSLiM

def FsState.busy : FsState → Bool
  | .fsPressed | .fsFlashing | .fsFLiMSetup | .fsPressedSetup => true
  | _ => false

namespace Mode

/-- The state machine, or in a busy state the state it remembers, agrees with the flag. -/
inductive Consistent (s : Mode) : Prop
  | settled (h : s.flimState = .settled s.bFLiM)
  | busy (h : s.flimState.busy = true) (prev : s.prevFlimState = .settled s.bFLiM)

/-- A module in SLiM has no node number. -/
def Unnumbered (s : Mode) : Prop := s.bFLiM = false → s.nodeNum = 0

theorem Consistent.flimCheck {s : Mode} (h : s.Consistent) (now : UInt32) :
    (s.flimCheck now).Consistent := by
  obtain ⟨bLearn, flimState, prev, bFLiM, nodeNum, sw⟩ := s
  cases h with
  | settled h =>
    simp only at h
    subst h
    cases bFLiM with
    | true =>
      simp only [Mode.flimCheck, FsState.settled, if_true]
      split_ifs
      · exact .busy rfl rfl
      · exact .settled rfl
    | false =>
      simp only [Mode.flimCheck, FsState.settled, Bool.false_eq_true, if_false]
      split_ifs
      · exact .busy rfl rfl
      · exact .settled rfl
  | busy h hprev =>
    simp only at h hprev
    subst hprev
    cases flimState with
    | fsFLiM => exact absurd h Bool.false_ne_true
    | fsSLiM => exact absurd h Bool.false_ne_true
    | fsUnknown => exact absurd h Bool.false_ne_true
    | fsPressed =>
      simp only [Mode.flimCheck]
      split_ifs
      · exact .busy rfl rfl
      · exact .busy rfl rfl
      · exact .busy rfl rfl
      · exact .settled rfl
    | fsFlashing =>
      simp only [Mode.flimCheck]
      split_ifs
      · exact .busy rfl rfl
      · exact .busy rfl rfl
      · exact .settled rfl
    | fsFLiMSetup =>
      simp only [Mode.flimCheck]
      split_ifs
      · exact .busy rfl rfl
      · exact .busy rfl rfl
    | fsPressedSetup =>
      simp only [Mode.flimCheck]
      split_ifs
      · exact .busy rfl rfl
      · exact .settled rfl
      · exact .busy rfl rfl

theorem Consistent.poll {s : Mode} (h : s.Consistent) (pin : Bool) (clock : Clock) (now : UInt32) :
    (s.poll pin clock now).Consistent := by
  have hsw : Consistent { s with sw := s.sw.run pin clock } := by
    cases h with
    | settled h => exact .settled h
    | busy h prev => exact .busy h prev
  exact hsw.flimCheck now

theorem Consistent.frameStep {s t : Mode} (h : s.Consistent) (step : s.FrameStep t) :
    t.Consistent := by
  cases step with
  | keep => exact h
  | leaveLearn => cases h with
    | settled h => exact .settled h
    | busy h prev => exact .busy h prev
  | enterLearn => cases h with
    | settled h => exact .settled h
    | busy h prev => exact .busy h prev
  | snn => exact .settled rfl

/-- This poll finds the switch released after a long press that has not begun in SLiM. -/
def EndsLongPress (s : Mode) (pin : Bool) (clock : Clock) : Prop :=
  s.flimState = .fsFlashing ∧ s.prevFlimState ≠ .fsSLiM ∧ (s.sw.run pin clock).isPressed = false

theorem poll_of_endsLongPress {s : Mode} {pin : Bool} {clock : Clock}
    (h : s.EndsLongPress pin clock) (now : UInt32) :
    s.poll pin clock now = revert { s with sw := s.sw.run pin clock } := by
  obtain ⟨hflash, hprev, hreleased⟩ := h
  simp [poll, Mode.flimCheck, hflash, hprev, hreleased]

theorem Consistent.known {s : Mode} (h : s.Consistent) : s.flimState ≠ .fsUnknown := by
  intro hunknown
  cases h with
  | settled h =>
    rw [hunknown] at h
    cases hb : s.bFLiM <;> simp [FsState.settled, hb] at h
  | busy h =>
    rw [hunknown] at h
    exact Bool.false_ne_true h

/-- Nothing else that a poll does changes flag, node number or learn mode. -/
theorem poll_keeps {s : Mode} (hknown : s.flimState ≠ .fsUnknown) {pin : Bool} {clock : Clock}
    (hend : ¬ s.EndsLongPress pin clock) (now : UInt32) :
    (s.poll pin clock now).bFLiM = s.bFLiM ∧ (s.poll pin clock now).nodeNum = s.nodeNum ∧
      (s.poll pin clock now).bLearn = s.bLearn := by
  simp only [Mode.poll, Mode.flimCheck]
  split
  case h_4 hflash =>
    split_ifs with hp hprev
    · exact ⟨rfl, rfl, rfl⟩
    · exact ⟨rfl, rfl, rfl⟩
    · exact absurd ⟨hflash, hprev, by simpa using hp⟩ hend
  case h_7 hunknown => exact absurd hunknown hknown
  all_goals split_ifs <;> exact ⟨rfl, rfl, rfl⟩

theorem Unnumbered.poll {s : Mode} (h : s.Unnumbered) (hc : s.Consistent) (pin : Bool)
    (clock : Clock) (now : UInt32) : (s.poll pin clock now).Unnumbered := by
  by_cases hend : s.EndsLongPress pin clock
  · rw [poll_of_endsLongPress hend now]
    exact fun _ => rfl
  · obtain ⟨hflim, hnode, -⟩ := poll_keeps hc.known hend now
    unfold Unnumbered
    rwa [hflim, hnode]

theorem Unnumbered.frameStep {s t : Mode} (h : s.Unnumbered) (step : s.FrameStep t) :
    t.Unnumbered := by
  cases step with
  | keep => exact h
  | leaveLearn => exact h
  | enterLearn => exact h
  | snn => exact fun hslim => absurd hslim.symm Bool.false_ne_true

theorem FrameStep.learnsInFlim {s t : Mode} (step : FrameStep s t)
    (h : s.bLearn = true → s.bFLiM = true) : t.bLearn = true → t.bFLiM = true := by
  cases step with
  | keep => exact h
  | leaveLearn => exact nofun
  | enterLearn flim => exact fun _ => flim
  | snn => exact fun _ => rfl

end Mode

namespace CBUSbase

/-- A module just started: `begin()` on this flash image, then `indicateFLiMMode(getFLiM())`.
What the application has registered is taken from `n`. -/
def startUp (n : CBUSbase) (l : Layout) (flash : FlashImage) : CBUSbase :=
  let c := (CBUSConfig.construct l flash).begin
  { n with moduleConfig := c, bLearn := false }.indicateFLiMMode c.bFLiM

theorem mode_startUp (n : CBUSbase) (l : Layout) (flash : FlashImage) :
    (n.startUp l flash).mode.Consistent ∧ (n.startUp l flash).bLearn = false := by
  constructor
  · refine .settled ?_
    unfold startUp
    dsimp only
    rw [mode_indicateFLiMMode]
    rfl
  · exact congrArg Mode.bLearn (mode_indicateFLiMMode _ _)

theorem consistent_moduleStep {n : CBUSbase} (h : n.mode.Consistent) (e : ModuleEvent) :
    (n.moduleStep e).mode.Consistent := by
  cases e with
  | poll i =>
    rw [moduleStep, mode_poll]
    exact h.poll _ _ _
  | iterate i => exact h.frameStep (n.frameStep_moduleStep (by simp))
  | received msg pulseTime => exact h.frameStep (n.frameStep_moduleStep (by simp))
  | notify msg now => exact h.frameStep (n.frameStep_moduleStep (by simp))

theorem unnumbered_moduleStep {n : CBUSbase} (hc : n.mode.Consistent) (h : n.mode.Unnumbered)
    (e : ModuleEvent) : (n.moduleStep e).mode.Unnumbered := by
  cases e with
  | poll i =>
    rw [moduleStep, mode_poll]
    exact h.poll hc _ _ _
  | iterate i => exact h.frameStep (n.frameStep_moduleStep (by simp))
  | received msg pulseTime => exact h.frameStep (n.frameStep_moduleStep (by simp))
  | notify msg now => exact h.frameStep (n.frameStep_moduleStep (by simp))

/-- An image that was written by this library and says SLiM has node number zero. -/
def SlimUnnumbered (flash : FlashImage) : Prop :=
  flash.read 0xFF 5 ≠ 0xFF → flash.read 0xFF 0 = 0 → flash.read 0xFF 2 = 0 ∧ flash.read 0xFF 3 = 0

theorem SlimUnnumbered.begin {flash : FlashImage} (h : SlimUnnumbered flash) (l : Layout) :
    (CBUSConfig.construct l flash).begin.bFLiM = false →
      (CBUSConfig.construct l flash).begin.nodeNum = 0 := by
  intro hslim
  rw [CBUSConfig.begin_eq] at hslim ⊢
  by_cases hflag : (CBUSConfig.construct l flash).loaded.readEEPROM CBUSConfig.ofsResetFlag = 0xFF
  · exact congrArg (·.2.2) (CBUSConfig.loadNVs_of_resetFlag hflag)
  · have hram := CBUSConfig.loadNVs_of_initialized hflag
    simp only [CBUSConfig.identityRam, Prod.mk.injEq] at hram
    obtain ⟨-, hmode, hnode⟩ := hram
    have hzero : (CBUSConfig.construct l flash).loaded.readEEPROM CBUSConfig.ofsFlimMode = 0 := by
      rw [hslim] at hmode
      simpa using hmode
    obtain ⟨hhigh, hlow⟩ := h hflag hzero
    rw [hnode, CBUSConfig.loaded_readEEPROM, CBUSConfig.loaded_readEEPROM]
    change (bytesToWord (flash.read 0xFF 2) (flash.read 0xFF 3)).toUInt32 = 0
    rw [hhigh, hlow]
    rfl

theorem unnumbered_startUp (n : CBUSbase) (l : Layout) {flash : FlashImage}
    (h : SlimUnnumbered flash) : (n.startUp l flash).mode.Unnumbered := by
  unfold startUp Mode.Unnumbered
  dsimp only
  rw [mode_indicateFLiMMode]
  exact h.begin l

/-- The FLiM state machine agrees with what is stored. -/
structure FlimConsistent (n : CBUSbase) : Prop where
  flim : n.flimState = .fsFLiM → n.moduleConfig.bFLiM = true
  slim : n.flimState = .fsSLiM → n.moduleConfig.bFLiM = false
  prev : n.flimState.busy = true → (n.prevFlimState = .fsSLiM ∨ n.prevFlimState = .fsFLiM) ∧
    (n.prevFlimState = .fsFLiM ↔ n.moduleConfig.bFLiM = true)
  known : n.flimState ≠ .fsUnknown
  unnumbered : n.moduleConfig.bFLiM = false → n.moduleConfig.nodeNum = 0

theorem flimConsistent_of_mode {n : CBUSbase} (hc : n.mode.Consistent) (hu : n.mode.Unnumbered) :
    n.FlimConsistent := by
  cases hc with
  | settled h =>
    cases hb : n.moduleConfig.bFLiM with
    | true =>
      have hstate : n.flimState = .fsFLiM := by simpa [mode, hb, FsState.settled] using h
      constructor <;> simp [hstate, hb, FsState.busy]
    | false =>
      have hstate : n.flimState = .fsSLiM := by simpa [mode, hb, FsState.settled] using h
      have hnode : n.moduleConfig.nodeNum = 0 := hu hb
      constructor <;> simp [hstate, hb, hnode, FsState.busy]
  | busy h hp =>
    have hbusy : n.flimState.busy = true := h
    constructor
    · intro hs
      simp [hs, FsState.busy] at hbusy
    · intro hs
      simp [hs, FsState.busy] at hbusy
    · intro _
      have hp' : n.prevFlimState = .settled n.moduleConfig.bFLiM := hp
      cases hb : n.moduleConfig.bFLiM <;> simp [hp', hb, FsState.settled]
    · intro hs
      simp [hs, FsState.busy] at hbusy
    · exact hu

/-- From an image in which SLiM implies node number zero, in every state that any
polls, frames and interrupts lead to. -/
theorem flimConsistent_run (n : CBUSbase) (l : Layout) (flash : FlashImage)
    (hboot : SlimUnnumbered flash) (es : List ModuleEvent) :
    (run moduleStep (n.startUp l flash) es).FlimConsistent := by
  have hstep : ∀ (m : CBUSbase) e, m.mode.Consistent ∧ m.mode.Unnumbered →
      (m.moduleStep e).mode.Consistent ∧ (m.moduleStep e).mode.Unnumbered :=
    fun m e h => ⟨consistent_moduleStep h.1 e, unnumbered_moduleStep h.1 h.2 e⟩
  have hrun := run_invariant hstep
    ⟨(n.mode_startUp l flash).1, n.unnumbered_startUp l hboot⟩ es
  exact flimConsistent_of_mode hrun.1 hrun.2

def slimFlash : FlashImage :=
  ((((Memory.const 0xFF).write 0 0).write 1 5).write 2 0).write 3 0 |>.write 5 0

theorem flimConsistent_run_slim :
    SlimUnnumbered slimFlash ∧
      (run moduleStep (smallModule.startUp CBUSConfig.smallLayout slimFlash)
        [.poll quietCall.poll, .received learnFrame 0]).FlimConsistent := by
  have hboot : SlimUnnumbered slimFlash := fun _ _ => by decide +kernel
  exact ⟨hboot, flimConsistent_run smallModule CBUSConfig.smallLayout slimFlash hboot _⟩

/-- The commands that learn, unlearn and clear events. -/
def TeachesEvents (msg : CANFrame) : Prop :=
  msg.data.get 0 ∈ [opcEvlrn, opcEvlrni, opcEvuln, opcNnclr]

/-- Learn mode is a mode of FLiM: the parameter flags show it, and the event table
changes in FLiM only. -/
structure LearnsInFlim (n : CBUSbase) : Prop where
  learn : n.bLearn = true → n.moduleConfig.bFLiM = true
  flags : n.param parFlags &&& (pfFLiM ||| pfLrn) = 0 →
    (n.getParFlags &&& pfFLiM ≠ 0 ↔ n.moduleConfig.bFLiM = true)
  slim : n.moduleConfig.bFLiM = false → ∀ msg pulseTime, TeachesEvents (n.callFrameHandler msg).1 →
    (n.handleFrame msg pulseTime).moduleConfig = n.moduleConfig

theorem parseCBUSMsg_moduleConfig {n : CBUSbase} (hlearn : n.bLearn = false) {msg : CANFrame}
    (hteach : TeachesEvents msg) : (n.parseCBUSMsg msg).2.moduleConfig = n.moduleConfig := by
  have hopc : ∀ opc, opc ∉ [opcEvlrn, opcEvlrni, opcEvuln, opcNnclr] → msg.data.get 0 ≠ opc := by
    intro opc hnot heq
    exact hnot (heq ▸ hteach)
  unfold parseCBUSMsg
  split_ifs
  · exact parseCBUSEvent_moduleConfig n msg
  · obtain ⟨m, step, hr⟩ := n.parseFLiMCmd_handles msg
    rw [hr.moduleConfig]
    cases step with
    | keep => rfl
    | leaveLearn => rfl
    | enterLearn => rfl
    | nnclr learn => exact absurd (hlearn.symm.trans learn) Bool.false_ne_true
    | evuln learn => exact absurd (hlearn.symm.trans learn) Bool.false_ne_true
    | evlrn learn => exact absurd (hlearn.symm.trans learn) Bool.false_ne_true
    | nvset this opc => exact absurd opc (hopc _ (by decide))
    | canid this opc => exact absurd opc (hopc _ (by decide))
    | enum => exact doEnum_moduleConfig _ true
    | snn setup opc => exact absurd opc (hopc _ (by decide))

theorem handleFrame_moduleConfig (n : CBUSbase) (msg : CANFrame) (pulseTime : UInt32) :
    (n.handleFrame msg pulseTime).moduleConfig =
      ((({ n with bThisNN := n.isThisNN msg }.callFrameHandler msg).2.emit
        (.parseCBUSMsg (n.callFrameHandler msg).1)).parseCBUSMsg
          (n.callFrameHandler msg).1).2.moduleConfig := by
  have hmsg : (CBUSbase.callFrameHandler { n with bThisNN := n.isThisNN msg } msg).1 =
      (n.callFrameHandler msg).1 := by
    cases hf : n.frameHandler with
    | none => simp [callFrameHandler, hf]
    | some handler =>
      simp only [callFrameHandler, hf]
      split_ifs <;> rfl
  unfold handleFrame
  dsimp only
  rw [hmsg]
  split_ifs <;> rfl

theorem getParFlags_flim {n : CBUSbase} (hlearn : n.bLearn = true → n.moduleConfig.bFLiM = true)
    (hparam : n.param parFlags &&& (pfFLiM ||| pfLrn) = 0) :
    n.getParFlags &&& pfFLiM ≠ 0 ↔ n.moduleConfig.bFLiM = true := by
  have hdistrib : ∀ x y z : UInt8, (x ||| y) &&& z = (x &&& z) ||| (y &&& z) :=
    fun x y z => UInt8.toBitVec_inj.mp BitVec.and_or_distrib_right
  have hset : ∀ p : UInt8, (pfFLiM ||| p) &&& pfFLiM ≠ 0 := by
    intro p
    simp [hdistrib, pfFLiM]
  have hunset : n.param parFlags &&& pfFLiM = 0 := by
    rw [UInt8.and_comm, hdistrib, UInt8.or_eq_zero_iff, UInt8.and_comm] at hparam
    exact hparam.1
  unfold getParFlags
  split_ifs with hon hflim
  · rw [UInt8.or_comm pfLrn, UInt8.or_assoc]
    simp [hset, hlearn hon]
  · simp [hset, hflim]
  · simp [hunset, hflim]

/-- What learn mode shows of itself is right wherever it is on in FLiM only. -/
theorem learnsInFlim_iff (n : CBUSbase) :
    n.LearnsInFlim ↔ (n.mode.bLearn = true → n.mode.bFLiM = true) := by
  constructor
  · exact fun h => h.learn
  · intro hlearn
    refine ⟨hlearn, getParFlags_flim hlearn, fun hslim msg pulseTime hteach => ?_⟩
    have hoff : n.bLearn = false := by
      cases hon : n.bLearn with
      | false => rfl
      | true => exact absurd (hslim.symm.trans (hlearn hon)) Bool.false_ne_true
    let m := { n with bThisNN := n.isThisNN msg }
    let k := (m.callFrameHandler msg).2.emit (.parseCBUSMsg (n.callFrameHandler msg).1)
    have hcall : k.bLearn = false :=
      (congrArg Mode.bLearn (m.mode_callFrameHandler msg)).trans hoff
    rw [handleFrame_moduleConfig, parseCBUSMsg_moduleConfig (n := k) hcall hteach]
    exact m.callFrameHandler_moduleConfig msg

/-- The poll that reverts the module finds it in learn mode. -/
def RevertsLearning (n : CBUSbase) : ModuleEvent → Prop
  | .poll i => n.bLearn = true ∧ n.mode.EndsLongPress i.pin i.swClock
  | _ => False

theorem learn_moduleStep {n : CBUSbase} (hc : n.mode.Consistent)
    (h : n.mode.bLearn = true → n.mode.bFLiM = true) {e : ModuleEvent}
    (hguard : ¬ n.RevertsLearning e) :
    (n.moduleStep e).mode.bLearn = true → (n.moduleStep e).mode.bFLiM = true := by
  cases e with
  | poll i =>
    rw [moduleStep, mode_poll]
    by_cases hend : n.mode.EndsLongPress i.pin i.swClock
    · rw [Mode.poll_of_endsLongPress hend]
      exact fun hon => absurd ⟨hon, hend⟩ hguard
    · obtain ⟨hflim, -, hlearn⟩ := Mode.poll_keeps hc.known hend i.flimTime
      rwa [hflim, hlearn]
  | iterate i => exact Mode.FrameStep.learnsInFlim (n.frameStep_moduleStep (by simp)) h
  | received msg pulseTime => exact Mode.FrameStep.learnsInFlim (n.frameStep_moduleStep (by simp)) h
  | notify msg now => exact Mode.FrameStep.learnsInFlim (n.frameStep_moduleStep (by simp)) h

theorem not_learnsInFlim_of_reverts {n : CBUSbase} {e : ModuleEvent} (h : n.RevertsLearning e) :
    ¬ (n.moduleStep e).LearnsInFlim := by
  cases e with
  | poll i =>
    obtain ⟨hon, hend⟩ := h
    intro hgood
    have hmode : (n.moduleStep (.poll i)).mode =
        Mode.revert { n.mode with sw := n.mode.sw.run i.pin i.swClock } := by
      rw [moduleStep, mode_poll, Mode.poll_of_endsLongPress hend]
    have hlearn := (learnsInFlim_iff _).mp hgood
    rw [hmode] at hlearn
    exact Bool.false_ne_true (hlearn hon)
  | iterate i => exact absurd h id
  | received msg pulseTime => exact absurd h id
  | notify msg now => exact absurd h id

/-- Learn mode stays in FLiM exactly in the runs that never end a long press in
learn mode. -/
theorem learnsInFlim_run_iff (n : CBUSbase) (l : Layout) (flash : FlashImage)
    (es : List ModuleEvent) :
    (∀ ps, ps <+: es → (run moduleStep (n.startUp l flash) ps).LearnsInFlim) ↔
      Guarded moduleStep (fun m e => ¬ m.RevertsLearning e) (n.startUp l flash) es := by
  obtain ⟨hc, hoff⟩ := n.mode_startUp l flash
  have hlearn : (n.startUp l flash).mode.bLearn = true → (n.startUp l flash).mode.bFLiM = true :=
    fun hon => absurd (hoff.symm.trans hon) Bool.false_ne_true
  have hkeep : ∀ (m : CBUSbase) e,
      m.mode.Consistent ∧ (m.mode.bLearn = true → m.mode.bFLiM = true) → ¬ m.RevertsLearning e →
        (m.moduleStep e).mode.Consistent ∧
          ((m.moduleStep e).mode.bLearn = true → (m.moduleStep e).mode.bFLiM = true) :=
    fun m e h hguard => ⟨consistent_moduleStep h.1 e, learn_moduleStep h.1 h.2 hguard⟩
  have hlose : ∀ (m : CBUSbase) e,
      m.mode.Consistent ∧ (m.mode.bLearn = true → m.mode.bFLiM = true) → ¬ ¬ m.RevertsLearning e →
        ¬ (m.moduleStep e).LearnsInFlim :=
    fun m e _ hguard => not_learnsInFlim_of_reverts (not_not.mp hguard)
  exact forall_prefix_iff_guarded hkeep (fun m h => (learnsInFlim_iff m).mpr h.2) hlose
    ⟨hc, hlearn⟩ es

def longPress : List ModuleEvent :=
  [(100, false), (200, false), (4300, false), (4400, true), (4500, true)].map fun (now, pin) =>
    .poll ⟨pin, now, now, fun _ => now, now, now⟩

theorem not_learnsInFlim_longPress :
    let start := { smallModule with sw := smallModule.sw.setPin false true
      }.startUp CBUSConfig.smallLayout smallFlash
    let last := run moduleStep start (.received learnFrame 0 :: longPress)
    last.flimState = .fsSLiM ∧ ¬ last.LearnsInFlim := by
  refine ⟨by decide +kernel, fun h => ?_⟩
  exact absurd (h.learn (by decide +kernel)) (by decide +kernel)

end CBUSbase
end CBUSPicoLib
