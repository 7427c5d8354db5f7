import CBUSPicoLib.Node.FlimConsistency

/-!
# The LED of the mode

An LED that has been switched off stays off while it is only polled. One that has been switched on
stays on unless a pulse is in progress: `on` ends the blinking, but not the pulse, and the LED goes
out with it. A module shows its mode by a steady LED, which the traffic before may have pulsed.
-/

namespace CBUSPicoLib

open Runs

/-- A call of a method of an LED, with the clock it reads. -/
inductive LedCall
  | on
  | off
  | toggle
  | blink
  | pulse (bShort : Bool) (now : UInt32)
  | run (now : UInt32)

namespace CBUSLED

def call (l : CBUSLED) : LedCall → CBUSLED
  | .on => l.on
  | .off => l.off
  | .toggle => l.toggle
  | .blink => l.blink
  | .pulse bShort now => l.pulse bShort now
  | .run now => l.run now

/-- The LED after calls of `run` at these times. -/
def polled (l : CBUSLED) (times : List UInt32) : CBUSLED := Runs.run run l times

/-- A pulse is in progress that is over at `now`. -/
def PulseOver (l : CBUSLED) (now : UInt32) : Prop :=
  l.pulsing = true ∧ l.pulseDuration ≤ now - l.pulseStart

instance (l : CBUSLED) (now : UInt32) : Decidable (l.PulseOver now) :=
  inferInstanceAs (Decidable (_ ∧ _))

theorem run_of_steady {l : CBUSLED} (h : l.blinking = false) (now : UInt32) : l.run now =
    if l.PulseOver now then { l with pulsing := false, state := false } else l := by
  simp [run, PulseOver, h]

/-- A steady LED that is on stays on exactly if no call finds its pulse over. -/
theorem polled_lit_iff {l : CBUSLED} (hlit : l.state = true) (hsteady : l.blinking = false)
    (times : List UInt32) :
    (∀ ps, ps <+: times → (l.polled ps).state = true) ↔ ∀ t ∈ times, ¬ l.PulseOver t := by
  have hfix : ∀ m : CBUSLED, m.blinking = false → ∀ t, ¬ m.PulseOver t → m.run t = m := by
    intro m hm t ht
    rw [run_of_steady hm, if_neg ht]
  have hguarded := @guarded_iff_forall_mem _ _ run (fun m t => ¬ m.PulseOver t) l
    (hfix l hsteady) times
  rw [← hguarded]
  refine @forall_prefix_iff_guarded _ _ run (fun m t => ¬ m.PulseOver t)
    (fun m => m.state = true ∧ m.blinking = false) (fun m => m.state = true) ?_ (fun m h => h.1) ?_
    l ⟨hlit, hsteady⟩ times
  · intro m t h ht
    rwa [hfix m h.2 t ht]
  · intro m t h ht
    rw [run_of_steady h.2, if_pos (not_not.mp ht)]
    simp

theorem polled_off {l : CBUSLED} (hdark : l.state = false) (hsteady : l.blinking = false)
    (times : List UInt32) : (l.polled times).state = false := by
  refine (@run_invariant _ _ run (fun m => m.state = false ∧ m.blinking = false) ?_ l
    ⟨hdark, hsteady⟩ times).1
  intro m t h
  rw [run_of_steady h.2]
  split_ifs
  · exact ⟨rfl, h.2⟩
  · exact h

end CBUSLED

theorem Mode.FrameStep.keepsFlag {s t : Mode} (h : s.FrameStep t)
    (hrest : s.flimState ≠ .fsFLiMSetup) : t.bFLiM = s.bFLiM := by
  cases h with
  | snn setup => exact absurd setup hrest
  | _ => rfl

def PollInput.modeLedTime (i : PollInput) (bFLiM : Bool) : UInt32 :=
  if bFLiM then i.ylwTime else i.grnTime

namespace CBUSbase

def modeLed (n : CBUSbase) (bFLiM : Bool) : CBUSLED := if bFLiM then n.ledYlw else n.ledGrn

def modeLedTimes (bFLiM : Bool) (es : List ModuleEvent) : List UInt32 :=
  es.filterMap fun
    | .poll i => some (i.modeLedTime bFLiM)
    | _ => none

/-- The mode stays as it is: the button may be pressed, but not for long. -/
def Rests (n : CBUSbase) (es : List ModuleEvent) : Prop :=
  ∀ ps, ps <+: es → (run moduleStep n ps).flimState = n.flimState ∨
    (run moduleStep n ps).flimState = .fsPressed

def leds (n : CBUSbase) : CBUSLED × CBUSLED := (n.ledGrn, n.ledYlw)

theorem modeLed_of_leds {n m : CBUSbase} (h : m.leds = n.leds) (bFLiM : Bool) :
    m.modeLed bFLiM = n.modeLed bFLiM := by
  obtain ⟨hgrn, hylw⟩ := Prod.mk.injEq .. ▸ h
  unfold modeLed
  rw [hgrn, hylw]

theorem Replies.leds {n m : CBUSbase} (h : Replies n m) : m.leds = n.leds := by
  obtain ⟨port, es, rfl, -⟩ := h
  rfl

theorem leds_doEnum (n : CBUSbase) (b : Bool) : (n.doEnum b).leds = n.leds := by
  unfold doEnum
  dsimp only
  split_ifs <;> rfl

theorem CommandStep.leds {n m : CBUSbase} {msg : CANFrame} (h : CommandStep n msg m)
    (hrest : n.flimState ≠ .fsFLiMSetup) : m.leds = n.leds := by
  cases h with
  | enum => exact n.leds_doEnum true
  | snn setup => exact absurd setup hrest
  | _ => rfl

theorem leds_parseCBUSMsg {n : CBUSbase} (hrest : n.flimState ≠ .fsFLiMSetup) (msg : CANFrame) :
    (n.parseCBUSMsg msg).2.leds = n.leds := by
  unfold parseCBUSMsg
  split_ifs
  · unfold parseCBUSEvent
    dsimp only
    split_ifs <;> rfl
  · obtain ⟨m, step, hr⟩ := n.parseFLiMCmd_handles msg
    rw [hr.leds]
    exact step.leds hrest

theorem leds_callFrameHandler (n : CBUSbase) (msg : CANFrame) :
    (n.callFrameHandler msg).2.leds = n.leds := by
  obtain ⟨port, h⟩ := n.callFrameHandler_frame msg
  rw [h]
  rfl

theorem leds_takeFrame (n : CBUSbase) (canSend : Bool) :
    (n.takeFrame canSend).2.leds = n.leds := by
  obtain ⟨_, _, _, _, h⟩ := n.takeFrame_frame canSend
  rw [h]
  rfl

theorem leds_checkIncomingFrame {n : CBUSbase} {msg : CANFrame} {now : UInt32}
    {r : Bool × CANFrame × CBUSbase} (h : n.checkIncomingFrame msg now = some r) :
    r.2.2.leds = n.leds := by
  obtain ⟨_, _, _, _, _, hframe⟩ := checkIncomingFrame_frame h
  rw [hframe]
  rfl

theorem leds_processEnumeration (n : CBUSbase) (now : UInt32) :
    (n.processEnumeration now).leds = n.leds := by
  have hstep := n.enumerationStep_processEnumeration now
  generalize n.processEnumeration now = m at hstep ⊢
  cases hstep with
  | keep => rfl
  | start _ _ replies => exact replies.leds
  | conclude _ _ replies => exact replies.leds

section Resting

variable {n : CBUSbase} {bFLiM : Bool}

/-- The mode that is shown is the one the module is in. -/
structure Shows (n : CBUSbase) (bFLiM : Bool) : Prop where
  flag : n.moduleConfig.bFLiM = bFLiM
  consistent : n.mode.Consistent
  rests : n.flimState = .settled bFLiM ∨ n.flimState = .fsPressed

theorem Shows.known (h : n.Shows bFLiM) : n.flimState ≠ .fsFLiMSetup := by
  rcases h.rests with hs | hs
  · rw [hs]
    cases bFLiM <;> simp [FsState.settled]
  · simp [hs]

theorem Shows.handleFrame_led (h : n.Shows bFLiM) (msg : CANFrame) (pulseTime : UInt32) :
    (n.handleFrame msg pulseTime).modeLed bFLiM = n.modeLed bFLiM := by
  let m := { n with bThisNN := n.isThisNN msg }
  let k := (m.callFrameHandler msg).2.emit (.parseCBUSMsg (m.callFrameHandler msg).1)
  have hmode : k.mode = n.mode := m.mode_callFrameHandler msg
  have hrest : k.flimState ≠ .fsFLiMSetup := by
    exact fun hsetup => h.known ((congrArg Mode.flimState hmode).symm.trans hsetup)
  have hleds : (k.parseCBUSMsg (m.callFrameHandler msg).1).2.leds = n.leds :=
    (leds_parseCBUSMsg hrest _).trans (m.leds_callFrameHandler msg)
  have hflag : (k.parseCBUSMsg (m.callFrameHandler msg).1).2.moduleConfig.bFLiM = bFLiM := by
    have hstep := k.frameStep_parseCBUSMsg (m.callFrameHandler msg).1
    rw [hmode] at hstep
    exact (hstep.keepsFlag h.known).trans h.flag
  have hkept := modeLed_of_leds hleds bFLiM
  unfold handleFrame
  dsimp only
  rw [hflag]
  cases bFLiM with
  | true => exact hkept
  | false => exact hkept

theorem Shows.flimSWCheck_leds (h : n.Shows bFLiM) {now : UInt32}
    (hnext : (n.flimSWCheck now).flimState = .settled bFLiM ∨
      (n.flimSWCheck now).flimState = .fsPressed) : (n.flimSWCheck now).leds = n.leds := by
  have hsettled : FsState.settled bFLiM ≠ .fsFlashing ∧ FsState.settled bFLiM ≠ .fsFLiMSetup ∧
      FsState.settled bFLiM ≠ .fsPressedSetup ∧ FsState.settled bFLiM ≠ .fsUnknown := by
    cases bFLiM <;> simp [FsState.settled]
  have hrests := h.rests
  generalize hm : n.flimSWCheck now = m at hnext ⊢
  have hstep := n.flimStep_flimSWCheck now
  rw [hm] at hstep
  cases hstep with
  | move => rfl
  | flash =>
    have hstate := congrArg Mode.flimState
      (mode_indicateModeOnLEDs { n with flimState := .fsFlashing } .modeChanging)
    change CBUSbase.flimState _ = FsState.fsFlashing at hstate
    simp [hstate, hsettled.1.symm] at hnext
  | setup =>
    have hstate := congrArg Mode.flimState (mode_initFLiM { n with flimState := .fsFLiMSetup })
    change CBUSbase.flimState _ = FsState.fsFLiMSetup at hstate
    simp [hstate, hsettled.2.1.symm] at hnext
  | revert ends => simp [ends.1, hsettled.1.symm] at hrests
  | resume setup => simp [setup, hsettled.2.2.1.symm] at hrests
  | unknown hunknown => simp [hunknown, hsettled.2.2.2.symm] at hrests

theorem Shows.poll_led (h : n.Shows bFLiM) {i : PollInput}
    (hnext : (n.poll i).flimState = .settled bFLiM ∨ (n.poll i).flimState = .fsPressed) :
    (n.poll i).Shows bFLiM ∧
      (n.poll i).modeLed bFLiM = (n.modeLed bFLiM).run (i.modeLedTime bFLiM) := by
  let m : CBUSbase := { n with
    ledGrn := n.ledGrn.run i.grnTime
    ledYlw := n.ledYlw.run i.ylwTime
    sw := n.sw.run i.pin i.swClock }
  have hflash : n.mode.flimState ≠ .fsFlashing := by
    change n.flimState ≠ _
    rcases h.rests with hs | hs
    · rw [hs]
      cases bFLiM <;> simp [FsState.settled]
    · simp [hs]
  have hflag : (n.poll i).mode.bFLiM = n.mode.bFLiM := by
    rw [mode_poll]
    exact (Mode.poll_keeps h.consistent.known (fun hend => hflash hend.1) i.flimTime).1
  have hm : m.Shows bFLiM := by
    refine ⟨h.flag, ?_, h.rests⟩
    cases h.consistent with
    | settled hs => exact .settled hs
    | busy hs prev => exact .busy hs prev
  have hcheck : (m.flimSWCheck i.flimTime).flimState = .settled bFLiM ∨
      (m.flimSWCheck i.flimTime).flimState = .fsPressed := by
    have hkept : (n.poll i).flimState = (m.flimSWCheck i.flimTime).flimState :=
      congrArg Mode.flimState (mode_processEnumeration _ i.enumTime)
    rwa [← hkept]
  have hleds : (n.poll i).leds = m.leds :=
    (leds_processEnumeration _ i.enumTime).trans (hm.flimSWCheck_leds hcheck)
  refine ⟨⟨hflag.trans h.flag, consistent_moduleStep h.consistent (.poll i), hnext⟩, ?_⟩
  rw [modeLed_of_leds hleds]
  cases bFLiM <;> rfl

theorem Shows.iterate_led (h : n.Shows bFLiM) (i : FrameInput) :
    (n.iterate i).modeLed bFLiM = n.modeLed bFLiM := by
  have hmode : ((n.arrive i).takeFrame i.canSend).2.mode = n.mode := mode_takeFrame _ _
  have htaken : ((n.arrive i).takeFrame i.canSend).2.Shows bFLiM := by
    refine ⟨(congrArg Mode.bFLiM hmode).trans h.flag, hmode ▸ h.consistent, ?_⟩
    have hstate : ((n.arrive i).takeFrame i.canSend).2.flimState = n.flimState :=
      congrArg Mode.flimState hmode
    rw [hstate]
    exact h.rests
  have hled := modeLed_of_leds ((n.arrive i).leds_takeFrame i.canSend) bFLiM
  unfold iterate
  dsimp only
  split_ifs
  · split
    · exact (htaken.handleFrame_led _ _).trans hled
    · exact hled
  · rfl

theorem Shows.step_led (h : n.Shows bFLiM) {e : ModuleEvent}
    (hnext : (n.moduleStep e).flimState = .settled bFLiM ∨
      (n.moduleStep e).flimState = .fsPressed) :
    (n.moduleStep e).Shows bFLiM ∧
      (n.moduleStep e).modeLed bFLiM = (n.modeLed bFLiM).polled (modeLedTimes bFLiM [e]) := by
  have hconsistent := consistent_moduleStep h.consistent e
  have hshows : (∀ i, e ≠ .poll i) → (n.moduleStep e).Shows bFLiM := fun he =>
    ⟨((n.frameStep_moduleStep he).keepsFlag h.known).trans h.flag, hconsistent, hnext⟩
  cases e with
  | poll i => exact h.poll_led hnext
  | iterate i => exact ⟨hshows (by simp), h.iterate_led i⟩
  | received msg pulseTime => exact ⟨hshows (by simp), h.handleFrame_led msg pulseTime⟩
  | notify msg now =>
    refine ⟨hshows (by simp), ?_⟩
    change ((n.checkIncomingFrame msg now).elim n (·.2.2)).modeLed bFLiM = n.modeLed bFLiM
    cases hr : n.checkIncomingFrame msg now with
    | none => rfl
    | some r => exact modeLed_of_leds (leds_checkIncomingFrame hr) bFLiM

theorem Shows.run_led (h : n.Shows bFLiM) (hs : n.flimState = .settled bFLiM)
    {es : List ModuleEvent} (hrests : n.Rests es) :
    (run moduleStep n es).Shows bFLiM ∧ (run moduleStep n es).modeLed bFLiM =
      (n.modeLed bFLiM).polled (modeLedTimes bFLiM es) := by
  induction es using List.reverseRecOn with
  | nil => exact ⟨h, rfl⟩
  | append_singleton es e ih =>
    obtain ⟨hshows, hled⟩ := ih fun ps hps => hrests ps (hps.trans (List.prefix_append es [e]))
    have hnext := hrests (es ++ [e]) List.prefix_rfl
    rw [run_append, hs] at hnext
    obtain ⟨hshows', hled'⟩ := hshows.step_led hnext
    refine ⟨?_, ?_⟩
    · rw [run_append]
      exact hshows'
    · rw [run_append]
      refine hled'.trans ?_
      rw [hled, CBUSLED.polled, CBUSLED.polled, CBUSLED.polled, ← run_append, modeLedTimes,
        modeLedTimes, modeLedTimes, List.filterMap_append]

/-- The LED that has been switched on for the mode stays on exactly if no poll finds a pulse
over. -/
theorem Shows.lit_iff (h : n.Shows bFLiM) (hs : n.flimState = .settled bFLiM)
    (hlit : (n.modeLed bFLiM).state = true) (hsteady : (n.modeLed bFLiM).blinking = false)
    {es : List ModuleEvent} (hrests : n.Rests es) :
    (∀ ps, ps <+: es → ((run moduleStep n ps).modeLed bFLiM).state = true) ↔
      ∀ t ∈ modeLedTimes bFLiM es, ¬ (n.modeLed bFLiM).PulseOver t := by
  have hpolled : ∀ ps, ps <+: es → (run moduleStep n ps).modeLed bFLiM =
      (n.modeLed bFLiM).polled (modeLedTimes bFLiM ps) := fun ps hps =>
    (h.run_led hs fun qs hqs => hrests qs (hqs.trans hps)).2
  rw [← CBUSLED.polled_lit_iff hlit hsteady]
  constructor
  · intro hall ts hts
    obtain ⟨ps, hps, rfl⟩ := List.prefix_filterMap_iff.mp hts
    exact (congrArg CBUSLED.state (hpolled ps hps)).symm.trans (hall ps hps)
  · intro hall ps hps
    rw [hpolled ps hps]
    exact hall _ (hps.filterMap _)

end Resting

theorem shows_indicateFLiMMode {n : CBUSbase} {bFLiM : Bool}
    (hflag : n.moduleConfig.bFLiM = bFLiM) :
    (n.indicateFLiMMode bFLiM).Shows bFLiM ∧
      (n.indicateFLiMMode bFLiM).flimState = .settled bFLiM ∧
      (n.indicateFLiMMode bFLiM).modeLed bFLiM = (n.modeLed bFLiM).on := by
  have hmode := n.mode_indicateFLiMMode bFLiM
  have hflag' : (n.indicateFLiMMode bFLiM).moduleConfig.bFLiM = bFLiM :=
    (congrArg Mode.bFLiM hmode).trans hflag
  have hstate : (n.indicateFLiMMode bFLiM).flimState = .settled bFLiM :=
    congrArg Mode.flimState hmode
  refine ⟨⟨hflag', .settled (hstate.trans (congrArg _ hflag'.symm)), .inl hstate⟩, hstate, ?_⟩
  cases bFLiM <;> rfl

theorem Replies.shows {n m : CBUSbase} {bFLiM : Bool} (h : Replies n m) (hs : n.Shows bFLiM) :
    m.Shows bFLiM := by
  obtain ⟨port, es, rfl, -⟩ := h
  exact ⟨hs.flag, hs.consistent, hs.rests⟩

theorem shows_revertSLiM (n : CBUSbase) : n.revertSLiM.Shows false ∧
    n.revertSLiM.flimState = .settled false ∧ n.revertSLiM.modeLed false = n.ledGrn.on := by
  let m := n.sendOpcMyNN opcNnrel
  let c := (((m.moduleConfig.setNodeNum 0).setFLiM false).setCANID 1).2
  have hc : c.bFLiM = false :=
    (CBUSConfig.setCANID_mode _ 1).1.trans
      (congrArg (·.2.1) ((m.moduleConfig.setNodeNum 0).setFLiM_identityRam false))
  have hrevert : n.revertSLiM = { m with moduleConfig := c }.indicateFLiMMode false :=
    congrArg (CBUSbase.indicateFLiMMode { m with moduleConfig := c }) hc
  have hled : m.modeLed false = n.ledGrn :=
    modeLed_of_leds (n.replies_sendOpcMyNN opcNnrel 0 0 0 0 0 0).leds false
  rw [hrevert, ← hled]
  exact shows_indicateFLiMMode hc

theorem shows_doSnn (n : CBUSbase) : n.doSnn.Shows true ∧ n.doSnn.flimState = .settled true ∧
    n.doSnn.modeLed true = n.ledYlw.on := by
  let c := (n.moduleConfig.setNodeNum n.nodeNumber.toUInt32).setFLiM true
  let m : CBUSbase := { n with moduleConfig := c }
  have hc : c.bFLiM = true := congrArg (·.2.1) (CBUSConfig.setFLiM_identityRam _ true)
  have hsnn : n.doSnn = (m.indicateFLiMMode true).sendOpcMyNN opcNnack :=
    congrArg (fun b => (m.indicateFLiMMode b).sendOpcMyNN opcNnack) hc
  have hreplies := (m.indicateFLiMMode true).replies_sendOpcMyNN opcNnack 0 0 0 0 0 0
  obtain ⟨hshows, hstate, hled⟩ := shows_indicateFLiMMode (n := m) hc
  rw [hsnn]
  exact ⟨hreplies.shows hshows, (congrArg Mode.flimState hreplies.mode).trans hstate,
    (modeLed_of_leds hreplies.leds true).trans hled⟩

theorem forall_modeLedTimes {bFLiM : Bool} {es : List ModuleEvent} {P : UInt32 → Prop} :
    (∀ t ∈ modeLedTimes bFLiM es, P t) ↔ ∀ i, .poll i ∈ es → P (i.modeLedTime bFLiM) := by
  simp only [modeLedTimes, List.mem_filterMap]
  constructor
  · intro hall i hi
    exact hall _ ⟨.poll i, hi, rfl⟩
  · rintro hall t ⟨e, he, ht⟩
    cases e with
    | poll i => exact Option.some.inj ht ▸ hall i he
    | _ => cases ht

/-- An LED stays on while it is polled, and off; and the LED of a mode stays on while the module
stays in the mode: the former two exactly if no poll finds a pulse over that was in progress. -/
theorem modeLed_lit_iff (start : CBUSLED) (history : List LedCall) (times : List UInt32)
    (n : CBUSbase) (es : List ModuleEvent) :
    let l := run CBUSLED.call start history
    (((∀ ps, ps <+: times → (l.on.polled ps).state = true) ↔ ∀ t ∈ times, ¬ l.PulseOver t) ∧
      ∀ ps, ps <+: times → (l.off.polled ps).state = false) ∧
    (n.revertSLiM.Rests es →
      ((∀ ps, ps <+: es → (run moduleStep n.revertSLiM ps).ledGrn.state = true) ↔
        ∀ i, .poll i ∈ es → ¬ n.ledGrn.PulseOver i.grnTime)) ∧
    (n.doSnn.Rests es →
      ((∀ ps, ps <+: es → (run moduleStep n.doSnn ps).ledYlw.state = true) ↔
        ∀ i, .poll i ∈ es → ¬ n.ledYlw.PulseOver i.ylwTime)) := by
  refine ⟨?_, fun hrests => ?_, fun hrests => ?_⟩
  · exact ⟨CBUSLED.polled_lit_iff rfl rfl times, fun ps _ => CBUSLED.polled_off rfl rfl ps⟩
  · obtain ⟨hshows, hstate, hled⟩ := n.shows_revertSLiM
    have hiff := hshows.lit_iff hstate (by rw [hled]; rfl) (by rw [hled]; rfl) hrests
    rw [hled, forall_modeLedTimes] at hiff
    exact hiff
  · obtain ⟨hshows, hstate, hled⟩ := n.shows_doSnn
    have hiff := hshows.lit_iff hstate (by rw [hled]; rfl) (by rw [hled]; rfl) hrests
    rw [hled, forall_modeLedTimes] at hiff
    exact hiff

/-- A FLiM module that has handled a frame at time zero, shown by the green LED. -/
def pulsedModule : CBUSbase := smallModule.handleFrame {} 0

/-- A poll of everything at one time, with the button released. -/
def quietPoll (now : UInt32) : PollInput := ⟨true, now, now, fun _ => now, now, now⟩

theorem rests_poll {n : CBUSbase} {i : PollInput} (hrest : (n.poll i).flimState = n.flimState) :
    n.Rests [.poll i] := by
  intro ps hps
  left
  rcases List.prefix_cons_iff.mp hps with rfl | ⟨ps', rfl, hps'⟩
  · rfl
  · rw [List.prefix_nil.mp hps']
    exact hrest

theorem modeLed_lit_iff_pulsed :
    ((∀ ps, ps <+: [99, 100] → ((({} : CBUSLED).pulse true 0).on.polled ps).state = true) ↔
      ∀ t ∈ [99, 100], ¬ (({} : CBUSLED).pulse true 0).PulseOver t) ∧
    ((∀ ps, ps <+: [.poll (quietPoll 100)] →
        (run moduleStep pulsedModule.revertSLiM ps).ledGrn.state = true) ↔
      ∀ i, .poll i ∈ [ModuleEvent.poll (quietPoll 100)] →
        ¬ pulsedModule.ledGrn.PulseOver i.grnTime) ∧
    ((∀ ps, ps <+: [.poll (quietPoll 100)] →
        (run moduleStep pulsedModule.doSnn ps).ledYlw.state = true) ↔
      ∀ i, .poll i ∈ [ModuleEvent.poll (quietPoll 100)] →
        ¬ pulsedModule.ledYlw.PulseOver i.ylwTime) := by
  obtain ⟨hled, hslim, hflim⟩ := modeLed_lit_iff {} [.pulse true 0] [99, 100] pulsedModule
    [.poll (quietPoll 100)]
  exact ⟨hled.1, hslim (rests_poll (by decide +kernel)), hflim (rests_poll (by decide +kernel))⟩

/-- The end of a pulse switches off an LED that has been switched on since, and the green LED of
a module that has gone back to SLiM. -/
theorem not_lit_pulsed :
    (¬ ∀ (history : List LedCall) (times : List UInt32), ∀ ps, ps <+: times →
      ((run CBUSLED.call {} history).on.polled ps).state = true) ∧
    ¬ ∀ (n : CBUSbase) (es : List ModuleEvent), n.revertSLiM.Rests es →
      ∀ ps, ps <+: es → (run moduleStep n.revertSLiM ps).ledGrn.state = true := by
  constructor
  · intro h
    have hlit := h [.pulse true 0] [100] [100] List.prefix_rfl
    revert hlit
    decide
  · intro h
    have hlit := h pulsedModule [.poll (quietPoll 100)]
      (rests_poll (by decide +kernel)) _ List.prefix_rfl
    revert hlit
    decide +kernel

end CBUSbase
end CBUSPicoLib
