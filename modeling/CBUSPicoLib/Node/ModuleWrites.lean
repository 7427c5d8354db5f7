import CBUSPicoLib.Node.PowerFailure

/-!
# What a module writes to its flash

Whatever a module does with frames, polls and restarts changes its configuration by the operations
that a device knows, so a run of a module is a run of a device, and the power may fail in the
middle of it.
-/

namespace CBUSPicoLib

open Runs

/-- Operations on variables that exist lead from one configuration to the other. -/
def Writes (l : Layout) (c c' : CBUSConfig) : Prop :=
  ∃ ops : List WriteOp, (∀ op ∈ ops, op.InRange l) ∧ run CBUSConfig.writeOp c ops = c'

variable {l : Layout} {c c' d : CBUSConfig}

theorem Writes.refl (l : Layout) (c : CBUSConfig) : Writes l c c :=
  ⟨[], fun _ h => absurd h List.not_mem_nil, rfl⟩

theorem Writes.of_op (op : WriteOp) (h : op.InRange l) : Writes l c (c.writeOp op) :=
  ⟨[op], fun _ hm => List.mem_singleton.mp hm ▸ h, rfl⟩

theorem Writes.trans (h : Writes l c c') (h' : Writes l c' d) : Writes l c d := by
  obtain ⟨ops, hr, rfl⟩ := h
  obtain ⟨ops', hr', rfl⟩ := h'
  refine ⟨ops ++ ops', ?_, run_append c ops ops'⟩
  intro op hop
  rcases List.mem_append.mp hop with hop | hop
  · exact hr op hop
  · exact hr' op hop

theorem writes_setCANID (l : Layout) (c : CBUSConfig) (canid : UInt8) :
    Writes l c (c.setCANID canid).2 := .of_op (.setCANID canid) trivial

theorem writes_numberAndMode (l : Layout) (c : CBUSConfig) (nn : UInt16) (flim : Bool) :
    Writes l c ((c.setNodeNum nn.toUInt32).setFLiM flim) :=
  (Writes.of_op (.setNodeNum nn) trivial).trans (.of_op (.setFLiM flim) trivial)

namespace CBUSbase

variable {n m : CBUSbase} {msg : CANFrame}

theorem CommandStep.writes (step : CommandStep n msg m)
    (hcmd : n.bLearn = true → carriedCommand msg = none) (hx : n.IndexesExist msg) :
    Writes n.moduleConfig.toLayout n.moduleConfig m.moduleConfig := by
  have hrefl := Writes.refl n.moduleConfig.toLayout n.moduleConfig
  cases step with
  | keep => exact hrefl
  | leaveLearn => exact hrefl
  | enterLearn => exact hrefl
  | nnclr learn opc =>
    have hnone := hcmd learn
    rw [carriedCommand, if_pos opc] at hnone
    exact absurd hnone (by simp)
  | evuln learn opc =>
    have hnone := hcmd learn
    rw [carriedCommand, if_neg (opc ▸ by decide), if_pos opc] at hnone
    exact absurd hnone (by simp)
  | evlrn learn evNum evVal opc =>
    have hnone := hcmd learn
    rw [carriedCommand_teach (taughtVariable_eq_some.mpr opc)] at hnone
    exact absurd hnone (by simp)
  | nvset this opc =>
    exact .of_op (.writeNV (msg.data.get 3) (msg.data.get 4)) (hx.nodeVariable this opc)
  | canid => exact writes_setCANID _ _ _
  | enum =>
    rw [n.doEnum_moduleConfig true]
    exact hrefl
  | snn =>
    rw [indicateFLiMMode_moduleConfig]
    exact writes_numberAndMode _ _ n.nodeNumber true

theorem writes_other (hcmd : n.bLearn = true → carriedCommand msg = none)
    (hx : n.IndexesExist msg) :
    Writes n.moduleConfig.toLayout n.moduleConfig (n.parseCBUSMsg msg).2.moduleConfig := by
  unfold parseCBUSMsg
  split_ifs
  · rw [parseCBUSEvent_moduleConfig]
    exact .refl _ _
  · obtain ⟨k, step, hr⟩ := n.parseFLiMCmd_handles msg
    rw [hr.moduleConfig]
    exact step.writes hcmd ⟨hx.taught, hx.nodeVariable⟩

theorem writes_parseCBUSMsg (hx : n.IndexesExist msg) :
    Writes n.moduleConfig.toLayout n.moduleConfig (n.parseCBUSMsg msg).2.moduleConfig := by
  by_cases hlearn : n.bLearn = true
  · cases hcmd : carriedCommand msg with
    | some cmd =>
      rw [parseCBUSMsg_carriedCommand hlearn hcmd]
      exact .of_op (.command cmd) (hx.inRange hlearn hcmd)
    | none => exact writes_other (fun _ => hcmd) hx
  · exact writes_other (fun h => absurd h hlearn) hx

theorem writes_revertSLiM (l : Layout) (n : CBUSbase) :
    Writes l n.moduleConfig n.revertSLiM.moduleConfig := by
  rw [revertSLiM_moduleConfig]
  exact (writes_numberAndMode l n.moduleConfig 0 false).trans (writes_setCANID l _ 1)

theorem writes_flimSWCheck (l : Layout) (n : CBUSbase) (now : UInt32) :
    Writes l n.moduleConfig (n.flimSWCheck now).moduleConfig := by
  have hrefl := Writes.refl l n.moduleConfig
  have hstep := n.flimStep_flimSWCheck now
  generalize n.flimSWCheck now = m at hstep ⊢
  cases hstep with
  | move => exact hrefl
  | flash => rwa [indicateModeOnLEDs_moduleConfig]
  | setup => rwa [initFLiM_moduleConfig]
  | revert => exact writes_revertSLiM l { n with flimState := .fsSLiM }
  | resume => rwa [indicateModeOnLEDs_moduleConfig]
  | unknown => exact writes_revertSLiM l n

theorem writes_processEnumeration (l : Layout) (n : CBUSbase) (now : UInt32) :
    Writes l n.moduleConfig (n.processEnumeration now).moduleConfig := by
  have hrefl := Writes.refl l n.moduleConfig
  have hstep := n.enumerationStep_processEnumeration now
  generalize n.processEnumeration now = m at hstep ⊢
  cases hstep with
  | keep => exact hrefl
  | start _ _ replies => rwa [replies.moduleConfig]
  | conclude c config replies =>
    rw [replies.moduleConfig]
    rcases config with rfl | ⟨canId, rfl⟩
    · exact hrefl
    · exact writes_setCANID l _ canId

theorem writes_poll (l : Layout) (n : CBUSbase) (i : PollInput) :
    Writes l n.moduleConfig (n.poll i).moduleConfig := by
  let k := { n with
    ledGrn := n.ledGrn.run i.grnTime
    ledYlw := n.ledYlw.run i.ylwTime
    sw := n.sw.run i.pin i.swClock }
  exact (writes_flimSWCheck l k i.flimTime).trans (writes_processEnumeration l _ i.enumTime)

/-- Whatever the module does, its configuration is changed by operations of a device. -/
theorem writes_moduleStep {e : ModuleEvent} (hx : n.IndexesInBounds (.event e)) :
    Writes n.moduleConfig.toLayout n.moduleConfig (n.moduleStep e).moduleConfig := by
  cases hmsg : n.handledFrame e with
  | some msg =>
    obtain ⟨m, hconfig, hlearn, hthis, hstep⟩ := moduleStep_parses hmsg
    have hindex : m.IndexesExist (n.parsedFrame msg) := by
      constructor
      · rw [hconfig, hlearn]
        exact (hx msg hmsg).taught
      · rw [hconfig, hthis]
        exact (hx msg hmsg).nodeVariable
    have hwrites := writes_parseCBUSMsg hindex
    rw [hconfig] at hwrites
    rwa [hstep]
  | none =>
    have hrefl := Writes.refl n.moduleConfig.toLayout n.moduleConfig
    cases e with
    | poll i => exact writes_poll _ n i
    | received msg pulseTime => exact absurd hmsg (by simp [handledFrame])
    | notify msg now =>
      cases hr : n.checkIncomingFrame msg now with
      | none => simpa [moduleStep, hr] using hrefl
      | some r =>
        obtain ⟨_, _, _, _, _, hframe⟩ := checkIncomingFrame_frame hr
        simpa [moduleStep, hr, hframe] using hrefl
    | iterate i =>
      simp only [handledFrame] at hmsg
      simp only [moduleStep, iterate]
      split_ifs at hmsg ⊢ with havail
      · rw [hmsg]
        dsimp only
        rw [takeFrame_moduleConfig]
        exact hrefl
      · exact hrefl

end CBUSbase

/-- The power does not fail in an operation or a start. -/
def DeviceEvent.Completes : DeviceEvent → Prop
  | .write _ | .switchOff | .start => True
  | .failure _ _ | .failedStart _ => False

/-- Storing operations, none of them interrupted, and restarts bring the device to the
configuration. -/
def DeviceRun (l : Layout) (d : Device) (c : CBUSConfig) : Prop :=
  ∃ ds : List DeviceEvent, (∀ e ∈ ds, e.InRange l ∧ e.Completes) ∧
    run (Device.step l) d ds = .on c

theorem DeviceRun.trans {d : Device} (h : DeviceRun l d c) (h' : DeviceRun l (.on c) c') :
    DeviceRun l d c' := by
  obtain ⟨ds, hr, hrun⟩ := h
  obtain ⟨ds', hr', hrun'⟩ := h'
  refine ⟨ds ++ ds', ?_, ?_⟩
  · intro e he
    rcases List.mem_append.mp he with he | he
    · exact hr e he
    · exact hr' e he
  · rw [run_append, hrun, hrun']

theorem Writes.deviceRun (h : Writes l c c') : DeviceRun l (.on c) c' := by
  obtain ⟨ops, hr, rfl⟩ := h
  refine ⟨ops.map .write, ?_, ?_⟩
  · intro e he
    obtain ⟨op, hop, rfl⟩ := List.mem_map.mp he
    exact ⟨hr op hop, trivial⟩
  · induction ops generalizing c with
    | nil => rfl
    | cons op ops ih => exact ih fun op' hop' => hr op' (List.mem_cons_of_mem _ hop')

namespace CBUSbase

variable {n : CBUSbase}

theorem deviceRun_storageStep {e : StorageEvent} (hlayout : n.moduleConfig.toLayout = l)
    (hx : n.IndexesInBounds e) :
    DeviceRun l (.on n.moduleConfig) (n.storageStep e).moduleConfig := by
  cases e with
  | event e => exact (hlayout ▸ writes_moduleStep hx).deviceRun
  | restart ram =>
    refine ⟨[.switchOff, .start], ?_, ?_⟩
    · intro e he
      rcases List.mem_cons.mp he with rfl | he
      · exact ⟨trivial, trivial⟩
      · rw [List.mem_singleton.mp he]
        exact ⟨trivial, trivial⟩
    · change Device.on (CBUSConfig.construct l n.moduleConfig.flash).begin = _
      rw [← hlayout, ← startUp_moduleConfig ram]
      rfl

theorem storageStep_toLayout (n : CBUSbase) (e : StorageEvent) :
    (n.storageStep e).moduleConfig.toLayout = n.moduleConfig.toLayout := by
  cases e with
  | event e => exact (n.keeps_moduleStep e).layout
  | restart ram =>
    change (ram.startUp n.moduleConfig.toLayout n.moduleConfig.flash).moduleConfig.toLayout = _
    rw [startUp_moduleConfig, CBUSConfig.begin_toLayout]

theorem deviceRun_storageRun (n : CBUSbase) (l : Layout) (flash : FlashImage)
    (es : List StorageEvent) (hg : Guarded storageStep IndexesInBounds (n.startUp l flash) es) :
    DeviceRun l (.off flash) (run storageStep (n.startUp l flash) es).moduleConfig := by
  have hstart : (n.startUp l flash).moduleConfig = (CBUSConfig.construct l flash).begin :=
    n.startUp_moduleConfig l flash
  have hrun : DeviceRun l (.off flash) (n.startUp l flash).moduleConfig := by
    refine ⟨[.start], fun e he => List.mem_singleton.mp he ▸ ⟨trivial, trivial⟩, ?_⟩
    rw [hstart]
    rfl
  have hlayout : (n.startUp l flash).moduleConfig.toLayout = l := by
    rw [hstart, CBUSConfig.begin_toLayout]
  have hstep : ∀ (k : CBUSbase) e,
      (DeviceRun l (.off flash) k.moduleConfig ∧ k.moduleConfig.toLayout = l) →
      k.IndexesInBounds e → DeviceRun l (.off flash) (k.storageStep e).moduleConfig ∧
        (k.storageStep e).moduleConfig.toLayout = l := by
    rintro k e ⟨hk, hl⟩ hx
    exact ⟨hk.trans (deviceRun_storageStep hl hx), (k.storageStep_toLayout e).trans hl⟩
  exact (hg.invariant hstep ⟨hrun, hlayout⟩).1

theorem deviceRun_storageRun_teachAndRestart :
    DeviceRun CBUSConfig.smallLayout (.off smallFlash)
      (run storageStep (smallModule.startUp CBUSConfig.smallLayout smallFlash)
        teachAndRestart).moduleConfig :=
  deviceRun_storageRun smallModule CBUSConfig.smallLayout smallFlash teachAndRestart
    indexesInBounds_teachAndRestart

end CBUSbase

end CBUSPicoLib
