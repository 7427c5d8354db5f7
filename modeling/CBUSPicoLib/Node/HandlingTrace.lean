import CBUSPicoLib.Node.Process

/-!
# The trace of handling a frame

A frame that `process` takes is handed to the frame handler, if one is registered for its
opcode, and then to `parseCBUSMsg`. What is sent meanwhile is sent by `sendMessage`, which
calls `sendCANFrame` right behind its own call.
-/

namespace CBUSPicoLib

/-- The steps of handling a frame in `process`. -/
def Effect.handles : Effect → Bool
  | .taken _ => true
  | .frameHandler _ => true
  | .parseCBUSMsg _ => true
  | _ => false

/-- The frames passed to `sendCANFrame` by others than `sendMessage`. -/
def passedOn : List Effect → List CANFrame
  | [] => []
  | .sendMessage _ :: .sendCANFrame _ _ :: es => passedOn es
  | .sendCANFrame msg _ :: es => msg :: passedOn es
  | _ :: es => passedOn es

/-- The trace does not begin with a call of `sendCANFrame`. -/
def StartsApart (es : List Effect) : Prop := ∀ msg bMore rest, es ≠ .sendCANFrame msg bMore :: rest

/-- Whatever follows, the frames passed on are these and those that follow. -/
structure PassesOn (es : List Effect) (fs : List CANFrame) : Prop where
  start : StartsApart es
  append : ∀ rest, StartsApart rest → passedOn (es ++ rest) = fs ++ passedOn rest

theorem startsApart_nil : StartsApart [] := fun _ _ _ h => List.cons_ne_nil _ _ h.symm

theorem PassesOn.nil : PassesOn [] [] := ⟨startsApart_nil, fun _ _ => rfl⟩

theorem PassesOn.trans {es es' : List Effect} {fs fs' : List CANFrame} (h : PassesOn es fs)
    (h' : PassesOn es' fs') : PassesOn (es ++ es') (fs ++ fs') := by
  have happend : ∀ rest, StartsApart rest → StartsApart (es' ++ rest) := by
    intro rest hrest
    cases es' with
    | nil => exact hrest
    | cons e tail =>
      intro msg bMore rest' heq
      rw [List.cons_append] at heq
      exact h'.start msg bMore tail (by rw [(List.cons.inj heq).1])
  constructor
  · cases es with
    | nil => exact h'.start
    | cons e tail =>
      intro msg bMore rest heq
      rw [List.cons_append] at heq
      exact h.start msg bMore tail (by rw [(List.cons.inj heq).1])
  · intro rest hrest
    rw [List.append_assoc, h.append _ (happend rest hrest), h'.append rest hrest,
      List.append_assoc]

theorem PassesOn.passedOn {es : List Effect} {fs : List CANFrame} (h : PassesOn es fs) :
    CBUSPicoLib.passedOn es = fs := by
  have hend := h.append [] startsApart_nil
  simpa [CBUSPicoLib.passedOn] using hend

namespace CBUSbase

variable {n m k : CBUSbase} {msg : CANFrame}

/-- The event handlers, and the frame handler with its opcodes. -/
def callbacks (n : CBUSbase) : Bool × Bool × Option (CANFrame → CANFrame) × List UInt8 :=
  (n.eventHandler, n.eventHandlerEx, n.frameHandler, n.opcodes)

theorem Replies.callbacks (h : Replies n m) : m.callbacks = n.callbacks := by
  obtain ⟨p, es, rfl, -⟩ := h
  rfl

theorem indicateModeOnLEDs_callbacks (n : CBUSbase) (mode : LedMode) :
    (n.indicateModeOnLEDs mode).callbacks = n.callbacks := by
  cases mode <;> rfl

theorem doEnum_callbacks (n : CBUSbase) (b : Bool) : (n.doEnum b).callbacks = n.callbacks := by
  unfold doEnum
  dsimp only
  split_ifs <;> rfl

theorem CommandStep.callbacks (h : CommandStep n msg m) : m.callbacks = n.callbacks := by
  cases h with
  | enum => exact n.doEnum_callbacks true
  | _ => rfl

theorem parseCBUSMsg_callbacks (n : CBUSbase) (msg : CANFrame) :
    (n.parseCBUSMsg msg).2.callbacks = n.callbacks := by
  unfold parseCBUSMsg
  split_ifs
  · unfold parseCBUSEvent
    dsimp only
    split_ifs <;> rfl
  · obtain ⟨m, hstep, hreplies⟩ := n.parseFLiMCmd_handles msg
    exact hreplies.callbacks.trans hstep.callbacks

theorem handleFrame_callbacks (n : CBUSbase) (msg : CANFrame) (pulseTime : UInt32) :
    (n.handleFrame msg pulseTime).callbacks = n.callbacks := by
  let k := { n with bThisNN := n.isThisNN msg }
  obtain ⟨port, hcall⟩ := k.callFrameHandler_frame msg
  let k' := (k.callFrameHandler msg).2.emit (.parseCBUSMsg (k.callFrameHandler msg).1)
  have hk : (k.callFrameHandler msg).2.callbacks = n.callbacks := by
    rw [hcall]
    rfl
  have hparse := (k'.parseCBUSMsg_callbacks (k.callFrameHandler msg).1).trans hk
  unfold handleFrame
  dsimp only
  split_ifs <;> exact hparse

theorem revertSLiM_callbacks (n : CBUSbase) : n.revertSLiM.callbacks = n.callbacks := by
  have hsend := (n.replies_sendOpcMyNN opcNnrel 0 0 0 0 0 0).callbacks
  unfold revertSLiM setSLiM indicateFLiMMode
  exact (indicateModeOnLEDs_callbacks _ _).trans hsend

theorem flimSWCheck_callbacks (n : CBUSbase) (now : UInt32) :
    (n.flimSWCheck now).callbacks = n.callbacks := by
  have hstep := n.flimStep_flimSWCheck now
  generalize n.flimSWCheck now = m at hstep ⊢
  cases hstep with
  | move => rfl
  | flash => exact indicateModeOnLEDs_callbacks _ _
  | setup =>
    exact (replies_sendOpcMyNN _ _ _ _ _ _ _ _).callbacks.trans
      (indicateModeOnLEDs_callbacks _ .modeChanging)
  | revert => exact revertSLiM_callbacks _
  | resume => exact indicateModeOnLEDs_callbacks _ _
  | unknown => exact n.revertSLiM_callbacks

theorem processEnumeration_callbacks (n : CBUSbase) (now : UInt32) :
    (n.processEnumeration now).callbacks = n.callbacks := by
  have hstep := n.enumerationStep_processEnumeration now
  generalize n.processEnumeration now = m at hstep ⊢
  cases hstep with
  | keep => rfl
  | start _ _ replies => exact replies.callbacks
  | conclude _ _ replies => exact replies.callbacks

theorem poll_callbacks (n : CBUSbase) (i : PollInput) : (n.poll i).callbacks = n.callbacks :=
  (processEnumeration_callbacks _ i.enumTime).trans (flimSWCheck_callbacks _ i.flimTime)

/-- The trace has grown by replies. -/
def OnlyReplies (n m : CBUSbase) : Prop :=
  ∃ es, m.port.trace = n.port.trace ++ es ∧ ReplyTrace es

theorem OnlyReplies.trans (h : OnlyReplies n m) (h' : OnlyReplies m k) : OnlyReplies n k := by
  obtain ⟨es, ht, hes⟩ := h
  obtain ⟨es', ht', hes'⟩ := h'
  exact ⟨es ++ es', by rw [ht', ht, List.append_assoc], hes.append hes'⟩

/-- What the frame handler makes of a frame is a matter of the registered callbacks. -/
theorem callFrameHandler_congr (hhandler : m.frameHandler = n.frameHandler)
    (hopcodes : m.opcodes = n.opcodes) (msg : CANFrame) :
    (m.callFrameHandler msg).1 = (n.callFrameHandler msg).1 := by
  unfold callFrameHandler
  rw [hhandler, hopcodes]
  cases n.frameHandler with
  | none => rfl
  | some handler =>
    dsimp only
    split_ifs <;> rfl

end CBUSbase
end CBUSPicoLib
