import CBUSPicoLib.Library.Runs
import CBUSPicoLib.Node.Enumeration

/-!
# The main loop: `process()`

One call polls LEDs, switch, FLiM state machine and enumeration, then handles up
to `num_messages` frames from the three receive queues. What the hardware does
meanwhile is the input of the call: the level of the pin, the clock readings,
the frames that arrive before each iteration and whether the GridConnect server
can send.
-/

namespace CBUSPicoLib

open Runs

def flimDebounceTime : UInt32 := 100
def flimHoldTime : UInt32 := 4000

/-- What the polled objects read in one call. -/
structure PollInput where
  pin : Bool
  grnTime : UInt32
  ylwTime : UInt32
  swClock : Clock
  flimTime : UInt32
  enumTime : UInt32

/-- What one iteration of the message loop meets: frames that have arrived, each
with its time stamp, the answer of `canSend`, and the clock at the LED pulse. -/
structure FrameInput where
  canArrivals : List (CANFrame × UInt32)
  gcArrivals : List (CANFrame × UInt32)
  canSend : Bool
  pulseTime : UInt32

/-- One call of `process`. -/
structure ProcessCall where
  numMessages : UInt8
  poll : PollInput
  frames : ℕ → FrameInput

namespace CBUSbase

/-- Monitor the FLiM switch and process FLiM state machine actions. -/
def flimSWCheck (n : CBUSbase) (now : UInt32) : CBUSbase :=
  match n.flimState with
  | .fsFLiM | .fsSLiM =>
    if n.sw.isPressed then { n with prevFlimState := n.flimState, flimState := .fsPressed } else n
  | .fsPressed =>
    if n.sw.isPressed then
      if flimHoldTime < n.sw.getCurrentStateDuration now then
        { n with flimState := .fsFlashing }.indicateModeOnLEDs .modeChanging
      else n
    else if n.prevFlimState = FsState.fsFLiM ∧ flimDebounceTime < n.sw.getLastStateDuration then
      { n with flimState := .fsFLiMSetup }.initFLiM
    else { n with flimState := n.prevFlimState }
  | .fsFlashing =>
    if !n.sw.isPressed then
      if n.prevFlimState = FsState.fsSLiM then { n with flimState := .fsFLiMSetup }.initFLiM
      else { n with flimState := .fsSLiM }.revertSLiM
    else n
  | .fsFLiMSetup => if n.sw.isPressed then { n with flimState := .fsPressedSetup } else n
  | .fsPressedSetup =>
    if !n.sw.isPressed then
      if flimDebounceTime < n.sw.getLastStateDuration then
        { n with flimState := n.prevFlimState }.indicateModeOnLEDs
          (if n.prevFlimState = FsState.fsFLiM then .modeFlim else .modeSlim)
      else { n with flimState := .fsFLiMSetup }
    else n
  | .fsUnknown => n.revertSLiM

/-- What the state machine can do. -/
inductive FlimStep (n : CBUSbase) : CBUSbase → Prop
  | move (state prev : FsState) : FlimStep n { n with flimState := state, prevFlimState := prev }
  | flash (pressed : n.flimState = .fsPressed) :
      FlimStep n (indicateModeOnLEDs { n with flimState := .fsFlashing } .modeChanging)
  | setup (busy : n.flimState = .fsPressed ∨ n.flimState = .fsFlashing) :
      FlimStep n (initFLiM { n with flimState := .fsFLiMSetup })
  | revert (ends : n.flimState = .fsFlashing ∧ n.prevFlimState ≠ .fsSLiM ∧ n.sw.isPressed = false) :
      FlimStep n (revertSLiM { n with flimState := .fsSLiM })
  | resume (setup : n.flimState = .fsPressedSetup) (mode : LedMode) :
      FlimStep n (indicateModeOnLEDs { n with flimState := n.prevFlimState } mode)
  | unknown (h : n.flimState = .fsUnknown) : FlimStep n n.revertSLiM

theorem flimStep_flimSWCheck (n : CBUSbase) (now : UInt32) : FlimStep n (n.flimSWCheck now) := by
  unfold flimSWCheck
  split
  case h_1 => split_ifs <;> exact .move _ _
  case h_2 => split_ifs <;> exact .move _ _
  case h_3 hpressed =>
    split_ifs
    · exact .flash hpressed
    · exact .move _ _
    · exact .setup (.inl hpressed)
    · exact .move _ _
  case h_4 hflash =>
    split_ifs with hreleased hprev
    · exact .setup (.inr hflash)
    · exact .revert ⟨hflash, hprev, by simpa using hreleased⟩
    · exact .move _ _
  case h_5 => split_ifs <;> exact .move _ _
  case h_6 hsetup =>
    split_ifs
    · exact .resume hsetup _
    · exact .resume hsetup _
    · exact .move _ _
    · exact .move _ _
  case h_7 hunknown => exact .unknown hunknown

/-- The part of `process` before the message loop. -/
def poll (n : CBUSbase) (i : PollInput) : CBUSbase :=
  let n := { n with ledGrn := n.ledGrn.run i.grnTime, ledYlw := n.ledYlw.run i.ylwTime }
  let n := { n with sw := n.sw.run i.pin i.swClock }
  (n.flimSWCheck i.flimTime).processEnumeration i.enumTime

def coeAvailable (n : CBUSbase) : Bool :=
  n.coeObj.any fun coe => coe.coeBuff.any (·.available)

def gcAvailable (n : CBUSbase) : Bool := n.gcServer.any (·.available)

def available (n : CBUSbase) : Bool := n.rxBuffer.any (·.available)

def arrive (n : CBUSbase) (i : FrameInput) : CBUSbase :=
  { n with
    rxBuffer := n.rxBuffer.map fun b => i.canArrivals.foldl (fun b f => b.put f.1 f.2) b
    gcServer := n.gcServer.map fun b => i.gcArrivals.foldl (fun b f => b.put f.1 f.2) b }

/-- Take the next frame: consumed own events first, then GridConnect, then CAN,
which is left alone while its frame could not be forwarded. -/
def takeFrame (n : CBUSbase) (canSend : Bool) : Option CANFrame × CBUSbase :=
  if n.coeAvailable then
    match n.coeObj with
    | some ⟨some b⟩ =>
      let (msg, b) := b.getFrame
      (some msg, { n with coeObj := some ⟨some b⟩ }.emit (.taken msg))
    | _ => (none, n)
  else if n.gcAvailable then
    match n.gcServer with
    | some b =>
      let (msg, b) := b.getFrame
      (some msg, { n with gcServer := some b }.emit (.taken msg))
    | none => (none, n)
  else if n.available then
    match n.rxBuffer with
    | some b =>
      if n.gcServer.isNone || canSend then
        let (msg, b) := b.getFrame
        let n := { n with rxBuffer := some b }.emit (.taken msg)
        (some msg, n.forward msg n.available)
      else (none, n)
    | none => (none, n)
  else (none, n)

/-- Call the frame handler, if it is registered for this opcode. -/
def callFrameHandler (n : CBUSbase) (msg : CANFrame) : CANFrame × CBUSbase :=
  match n.frameHandler with
  | some handler =>
    if n.opcodes = [] ∨ msg.data.get 0 ∈ n.opcodes then (handler msg, n.emit (.frameHandler msg))
    else (msg, n)
  | none => (msg, n)

theorem callFrameHandler_frame (n : CBUSbase) (msg : CANFrame) :
    ∃ port, (n.callFrameHandler msg).2 = { n with port := port } := by
  unfold callFrameHandler
  split
  · split_ifs
    · exact ⟨_, rfl⟩
    · exact ⟨n.port, rfl⟩
  · exact ⟨n.port, rfl⟩

theorem takeFrame_frame (n : CBUSbase) (canSend : Bool) : ∃ rxBuffer gcServer coeObj port,
    (n.takeFrame canSend).2 =
      { n with rxBuffer := rxBuffer, gcServer := gcServer, coeObj := coeObj, port := port } := by
  have hsame : ∃ rxBuffer gcServer coeObj port, n =
      { n with rxBuffer := rxBuffer, gcServer := gcServer, coeObj := coeObj, port := port } :=
    ⟨_, _, _, _, rfl⟩
  unfold takeFrame
  split_ifs
  · split
    · exact ⟨_, _, _, _, rfl⟩
    · exact hsame
  · split
    · exact ⟨_, _, _, _, rfl⟩
    · exact hsame
  · split
    · obtain ⟨port, hforward⟩ := forward_frame _ _ _
      exact ⟨_, _, _, port, hforward⟩
    · exact hsame
  · split <;> exact hsame
  · exact hsame

/-- Handle one frame: address check, frame handler, parser, activity LED. -/
def handleFrame (n : CBUSbase) (msg : CANFrame) (pulseTime : UInt32) : CBUSbase :=
  let n := { n with bThisNN := n.isThisNN msg }
  let (msg, n) := n.callFrameHandler msg
  let (bConsumed, n) := (n.emit (.parseCBUSMsg msg)).parseCBUSMsg msg
  if n.moduleConfig.bFLiM then { n with ledGrn := n.ledGrn.pulse (!bConsumed) pulseTime }
  else { n with ledYlw := n.ledYlw.pulse (!bConsumed) pulseTime }

def messageLoop (n : CBUSbase) (frames : ℕ → FrameInput) : ℕ → CBUSbase
  | 0 => n
  | k + 1 =>
    let n := n.arrive (frames k)
    if n.available || n.gcAvailable || n.coeAvailable then
      let (msg, n) := n.takeFrame (frames k).canSend
      let n :=
        match msg with
        | some msg => n.handleFrame msg (frames k).pulseTime
        | none => n
      n.messageLoop frames k
    else n

def process (n : CBUSbase) (call : ProcessCall) : CBUSbase :=
  (n.poll call.poll).messageLoop call.frames call.numMessages.toNat

def setLongMessageHandler (n : CBUSbase) : CBUSbase := { n with longMessageHandler := true }

/-- The frames passed to `processReceivedMessageFragment`, in order. -/
def deliveredFragments (trace : List Effect) : List CANFrame :=
  trace.filterMap fun
    | .processReceivedMessageFragment msg => some msg
    | _ => none

def takenFrames (trace : List Effect) : List CANFrame :=
  trace.filterMap fun
    | .taken msg => some msg
    | _ => none

/-- `m` has passed no further frame to the long message object. -/
def Silent (n m : CBUSbase) : Prop :=
  deliveredFragments m.port.trace = deliveredFragments n.port.trace

theorem Silent.trans {n m k : CBUSbase} (h : Silent n m) (h' : Silent m k) : Silent n k :=
  Eq.trans h' h

theorem silent_emit (n : CBUSbase) {e : Effect}
    (he : ∀ msg, e ≠ .processReceivedMessageFragment msg) : Silent n (n.emit e) := by
  unfold Silent deliveredFragments emit
  rw [List.filterMap_append]
  cases e with
  | processReceivedMessageFragment msg => exact absurd rfl (he msg)
  | _ => simp

theorem Replies.silent {n m : CBUSbase} (h : Replies n m) : Silent n m := by
  obtain ⟨p, es, rfl, ht, he⟩ := h
  have hnone : deliveredFragments es = [] := by
    unfold deliveredFragments
    rw [List.filterMap_eq_nil_iff]
    intro e hm
    rcases he.of_mem hm with hreply | ⟨msg, bMore, rfl⟩
    · cases e with
      | processReceivedMessageFragment msg => exact absurd hreply Bool.false_ne_true
      | _ => rfl
    · rfl
  unfold Silent
  rw [ht, deliveredFragments, List.filterMap_append]
  exact (congrArg (deliveredFragments n.port.trace ++ ·) hnone).trans (List.append_nil _)

theorem silent_of_port {n m : CBUSbase} (h : m.port = n.port) : Silent n m := by
  unfold Silent
  rw [h]

theorem indicateModeOnLEDs_port (n : CBUSbase) (mode : LedMode) :
    (n.indicateModeOnLEDs mode).port = n.port := by
  cases mode <;> rfl

theorem doEnum_port (n : CBUSbase) (b : Bool) : (n.doEnum b).port = n.port := by
  unfold doEnum
  dsimp only
  split_ifs <;> rfl

theorem CommandStep.port {n m : CBUSbase} {msg : CANFrame} (h : CommandStep n msg m) :
    m.port = n.port := by
  cases h with
  | enum => exact n.doEnum_port true
  | _ => rfl

theorem silent_parseFLiMCmd (n : CBUSbase) (msg : CANFrame) :
    Silent n (n.parseFLiMCmd msg).2 := by
  obtain ⟨m, step, hr⟩ := n.parseFLiMCmd_handles msg
  have hm : Silent n m := silent_of_port step.port
  exact hm.trans hr.silent

theorem silent_parseCBUSEvent (n : CBUSbase) (msg : CANFrame) :
    Silent n (n.parseCBUSEvent msg).2 := by
  have h0 : Silent n { n with
      nodeNumber := (eventKey msg).1, eventNumber := (eventKey msg).2 } := silent_of_port rfl
  unfold parseCBUSEvent
  dsimp only
  split_ifs
  · exact h0.trans (silent_emit _ nofun)
  · exact h0.trans (silent_emit _ nofun)
  · exact h0.trans (silent_emit _ nofun)
  · exact h0
  · exact h0

theorem silent_parseCBUSMsg (n : CBUSbase) (msg : CANFrame) :
    Silent n (n.parseCBUSMsg msg).2 := by
  unfold parseCBUSMsg
  split_ifs
  · exact n.silent_parseCBUSEvent msg
  · exact n.silent_parseFLiMCmd msg

theorem silent_callFrameHandler (n : CBUSbase) (msg : CANFrame) :
    Silent n (n.callFrameHandler msg).2 := by
  unfold callFrameHandler
  split
  · split_ifs
    · exact n.silent_emit nofun
    · exact silent_of_port rfl
  · exact silent_of_port rfl

theorem silent_handleFrame (n : CBUSbase) (msg : CANFrame) (pulseTime : UInt32) :
    Silent n (n.handleFrame msg pulseTime) := by
  let m := { n with bThisNN := n.isThisNN msg }
  have hm : Silent n m := silent_of_port rfl
  have hcall := hm.trans (m.silent_callFrameHandler msg)
  have hlogged := hcall.trans (silent_emit _ (e := .parseCBUSMsg (m.callFrameHandler msg).1) nofun)
  have hparse := hlogged.trans (silent_parseCBUSMsg _ (m.callFrameHandler msg).1)
  unfold handleFrame
  dsimp only
  split_ifs
  · exact hparse.trans (silent_of_port rfl)
  · exact hparse.trans (silent_of_port rfl)

theorem silent_initFLiM (n : CBUSbase) : Silent n n.initFLiM := by
  have h0 := silent_of_port (n.indicateModeOnLEDs_port .modeChanging)
  exact h0.trans (replies_sendOpcMyNN _ _ _ _ _ _ _ _).silent

theorem silent_revertSLiM (n : CBUSbase) : Silent n n.revertSLiM := by
  have h0 := (n.replies_sendOpcMyNN opcNnrel 0 0 0 0 0 0).silent
  exact h0.trans (silent_of_port (indicateModeOnLEDs_port _ _))

theorem silent_flimSWCheck (n : CBUSbase) (now : UInt32) : Silent n (n.flimSWCheck now) := by
  have hport : ∀ m : CBUSbase, m.port = n.port → Silent n m := fun _ h => silent_of_port h
  have hstep := n.flimStep_flimSWCheck now
  generalize n.flimSWCheck now = m at hstep ⊢
  cases hstep with
  | move => exact hport _ rfl
  | flash => exact hport _ (indicateModeOnLEDs_port _ _)
  | setup => exact (hport { n with flimState := .fsFLiMSetup } rfl).trans (silent_initFLiM _)
  | revert => exact (hport { n with flimState := .fsSLiM } rfl).trans (silent_revertSLiM _)
  | resume => exact hport _ (indicateModeOnLEDs_port _ _)
  | unknown => exact n.silent_revertSLiM

theorem silent_processEnumeration (n : CBUSbase) (now : UInt32) :
    Silent n (n.processEnumeration now) := by
  have hstep := n.enumerationStep_processEnumeration now
  generalize n.processEnumeration now = m at hstep ⊢
  cases hstep with
  | keep => exact silent_of_port rfl
  | start _ _ replies => exact Silent.trans (silent_of_port rfl) replies.silent
  | conclude _ _ replies => exact Silent.trans (silent_of_port rfl) replies.silent

theorem silent_poll (n : CBUSbase) (i : PollInput) : Silent n (n.poll i) := by
  have h0 : Silent n { n with
      ledGrn := n.ledGrn.run i.grnTime
      ledYlw := n.ledYlw.run i.ylwTime
      sw := n.sw.run i.pin i.swClock } := silent_of_port rfl
  exact (h0.trans (silent_flimSWCheck _ i.flimTime)).trans (silent_processEnumeration _ i.enumTime)

theorem silent_taken (n : CBUSbase) (msg : CANFrame) : Silent n (n.emit (.taken msg)) :=
  n.silent_emit fun _ h => Effect.noConfusion h

theorem silent_forward (n : CBUSbase) (msg : CANFrame) (bMore : Bool) :
    Silent n (n.forward msg bMore) := by
  unfold forward
  split_ifs
  · exact n.silent_emit nofun
  · exact silent_of_port rfl

theorem silent_takeFrame (n : CBUSbase) (canSend : Bool) : Silent n (n.takeFrame canSend).2 := by
  unfold takeFrame
  split_ifs
  · split
    · exact Silent.trans (silent_of_port rfl) (silent_taken { n with coeObj := _ } _)
    · exact silent_of_port rfl
  · split
    · exact Silent.trans (silent_of_port rfl) (silent_taken { n with gcServer := _ } _)
    · exact silent_of_port rfl
  · split
    · exact (Silent.trans (silent_of_port rfl) (silent_taken { n with rxBuffer := _ } _)).trans
        (silent_forward _ _ _)
    · exact silent_of_port rfl
  · split <;> exact silent_of_port rfl
  · exact silent_of_port rfl

theorem silent_messageLoop (n : CBUSbase) (frames : ℕ → FrameInput) (k : ℕ) :
    Silent n (n.messageLoop frames k) := by
  induction k generalizing n with
  | zero => exact silent_of_port rfl
  | succ k ih =>
    have harrive : Silent n (n.arrive (frames k)) := silent_of_port rfl
    unfold messageLoop
    dsimp only
    split_ifs
    · have htake := harrive.trans (silent_takeFrame (n.arrive (frames k)) (frames k).canSend)
      split
      · exact (htake.trans (silent_handleFrame _ _ _)).trans (ih _)
      · exact htake.trans (ih _)
    · exact harrive

theorem silent_process (n : CBUSbase) (call : ProcessCall) : Silent n (n.process call) :=
  (n.silent_poll call.poll).trans (silent_messageLoop _ _ _)

/-- In every run of `process` the long message object receives the long message
frames that were taken exactly if none was taken. -/
theorem deliveredFragments_run_iff (n : CBUSbase) (calls : List ProcessCall) :
    let start := { n with port := { n.port with trace := [] } }.setLongMessageHandler
    let trace := (run process start calls).port.trace
    deliveredFragments trace = (takenFrames trace).filter (fun msg => msg.data.get 0 = opcDtxc) ↔
      ∀ msg ∈ takenFrames trace, msg.data.get 0 ≠ opcDtxc := by
  intro start trace
  have hnone : deliveredFragments trace = [] :=
    @run_invariant _ _ process (Silent start) (fun m call h => h.trans (m.silent_process call))
      start rfl calls
  rw [hnone, eq_comm, List.filter_eq_nil_iff]
  simp only [decide_eq_true_eq, ne_eq]

/-- A long message header that is waiting in the CAN receive buffer. -/
def headerFrame : CANFrame := { len := 8, data := #v[opcDtxc, 7, 0, 0, 5, 0, 0, 0] }

/-- A call that finds the switch released and no further frames. -/
def quietCall : ProcessCall where
  numMessages := 3
  poll := ⟨true, 0, 0, fun _ => 0, 0, 0⟩
  frames := fun _ => ⟨[], [], true, 0⟩

/-- The header is taken, but not delivered. -/
theorem not_delivered_headerFrame :
    let start := { smallModule with
      rxBuffer := some ((CBUSCircularBuffer.construct 8).put headerFrame 0)
      }.setLongMessageHandler
    let trace := (run process start [quietCall]).port.trace
    takenFrames trace = [headerFrame] ∧ deliveredFragments trace = [] := by
  decide +kernel

end CBUSbase
end CBUSPicoLib
