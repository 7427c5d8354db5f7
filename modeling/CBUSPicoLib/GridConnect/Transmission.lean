import CBUSPicoLib.GridConnect.Bridge
import CBUSPicoLib.Node.AddressConflict

/-!
# From a frame to the controller and back

`sendCANMessage` merges the two flags into the identifier word of the caller's own frame,
and `notify_cb` reads them out of the word but leaves them in it. Everything but the
identifier comes back as it was.
-/

namespace CBUSPicoLib

namespace CBUSACAN2040

def flaggedId (id : UInt32) (rtr ext : Bool) : UInt32 :=
  let id := if rtr then id ||| can2040IdRtr else id
  if ext then id ||| can2040IdEff else id

variable {id : UInt32}

theorem flaggedId_and (h : id.toNat < 2 ^ 29) (rtr ext : Bool) :
    decide (flaggedId id rtr ext &&& can2040IdRtr ≠ 0) = rtr ∧
      decide (flaggedId id rtr ext &&& can2040IdEff ≠ 0) = ext := by
  have hrtr : id &&& can2040IdRtr = 0 := and_flag_eq_zero (k := 30) rfl (by omega)
  have hext : id &&& can2040IdEff = 0 := and_flag_eq_zero (k := 31) rfl (by omega)
  have hset : can2040IdRtr ≠ 0 ∧ can2040IdEff ≠ 0 := by decide
  have hcross : can2040IdRtr &&& can2040IdEff = 0 ∧ can2040IdEff &&& can2040IdRtr = 0 := by decide
  cases rtr <;> cases ext <;> simp [flaggedId, or_and_distrib, hrtr, hext, hset, hcross]

theorem flaggedId_eq_iff (h : id.toNat < 2 ^ 29) (rtr ext : Bool) :
    flaggedId id rtr ext = id ↔ rtr = false ∧ ext = false := by
  constructor
  · intro he
    obtain ⟨hrtr, hext⟩ := flaggedId_and h rtr ext
    rw [he, and_flag_eq_zero (k := 30) rfl (by omega)] at hrtr
    rw [he, and_flag_eq_zero (k := 31) rfl (by omega)] at hext
    exact ⟨by simpa using hrtr.symm, by simpa using hext.symm⟩
  · rintro ⟨rfl, rfl⟩
    rfl

/-- `CBUSACAN2040::sendCANMessage`: the result, the caller's frame afterwards and the message
for the driver, whose bytes behind the payload are whatever the stack holds. -/
def sendCANMessage (outcome : SendOutcome) (stack : Vector UInt8 8) (msg : CANFrame) :
    Bool × CANFrame × Option Can2040Msg :=
  if !outcome.okToSend then (false, msg, none)
  else
    let msg := canWord msg
    let txMsg : Can2040Msg := {
      id := msg.id
      dlc := msg.len.toUInt32
      data := Vector.ofFn fun i => if i.val < msg.len.toNat then msg.data.get i else stack.get i }
    (outcome.sendMessage, msg, some txMsg)

/-- A frame for the bus: at most eight bytes and an identifier of 11 or 29 bits. -/
structure OnBus (msg : CANFrame) : Prop where
  len : msg.len ≤ 8
  id : msg.id.toNat < if msg.ext then 2 ^ 29 else 2 ^ 11

/-- The same identifier, flags, length and payload. -/
structure SameMessage (f g : CANFrame) : Prop where
  id : f.id = g.id
  ext : f.ext = g.ext
  rtr : f.rtr = g.rtr
  len : f.len = g.len
  data : ∀ i : Fin 8, i.val < g.len.toNat → f.data.get i = g.data.get i

/-- Whatever message for the driver the call makes of the frame, another node makes the frame
of it, and the caller's frame is as before. -/
def Inverse (msg : CANFrame) : Prop :=
  ∀ outcome stack result after txMsg,
    sendCANMessage outcome stack msg = (result, after, some txMsg) →
      SameMessage (CBUSbase.receivedFrame txMsg) msg ∧ after = msg

variable {msg : CANFrame}

theorem OnBus.id_lt (h : OnBus msg) : msg.id.toNat < 2 ^ 29 := by
  have hid := h.id
  split_ifs at hid
  · exact hid
  · omega

theorem canWord_eq (msg : CANFrame) :
    canWord msg = { msg with id := flaggedId msg.id msg.rtr msg.ext } := by
  obtain ⟨id, ext, rtr, len, data⟩ := msg
  cases rtr <;> cases ext <;> rfl

/-- What arrives: flags, length and payload of the frame, under the flagged identifier. -/
theorem sendCANMessage_received (h : OnBus msg) {outcome : SendOutcome} {stack : Vector UInt8 8}
    {result : Bool} {after : CANFrame} {txMsg : Can2040Msg}
    (hsend : sendCANMessage outcome stack msg = (result, after, some txMsg)) :
    SameMessage (CBUSbase.receivedFrame txMsg)
        { msg with id := flaggedId msg.id msg.rtr msg.ext } ∧
      after = { msg with id := flaggedId msg.id msg.rtr msg.ext } := by
  unfold sendCANMessage at hsend
  split_ifs at hsend
  · simp at hsend
  · simp only [canWord_eq, Prod.mk.injEq, Option.some.injEq] at hsend
    obtain ⟨-, rfl, rfl⟩ := hsend
    obtain ⟨hrtr, hext⟩ := flaggedId_and h.id_lt msg.rtr msg.ext
    refine ⟨?_, rfl⟩
    constructor
    · rfl
    · exact hext
    · exact hrtr
    · simp [CBUSbase.receivedFrame]
    · intro i hi
      have hget : ∀ (f : Fin 8 → UInt8), (Vector.ofFn f).get i = f i := fun f =>
        Vector.getElem_ofFn i.isLt
      simp only at hi
      simp [CBUSbase.receivedFrame, hget, hi]

theorem sendCANMessage_hands {outcome : SendOutcome} (h : outcome.okToSend = true)
    (stack : Vector UInt8 8) (msg : CANFrame) :
    ∃ result after txMsg, sendCANMessage outcome stack msg = (result, after, some txMsg) := by
  unfold sendCANMessage
  simp [h]

/-- The server's call of `sendCANMessage` answers as this one does, and the frame that the
driver takes is the caller's as this one leaves it. -/
theorem sendCANMessage_bridge (b : Bridge) (stack : Vector UInt8 8) (msg : CANFrame) :
    (b.sendCANMessage msg).1 = (sendCANMessage (b.outcomes 0) stack msg).1 ∧
      (b.sendCANMessage msg).2.accepted =
        if (b.sendCANMessage msg).1 then
          b.accepted ++ [(sendCANMessage (b.outcomes 0) stack msg).2.1]
        else b.accepted := by
  unfold Bridge.sendCANMessage sendCANMessage
  cases hok : (b.outcomes 0).okToSend <;> cases hsend : (b.outcomes 0).sendMessage <;>
    simp [hok, hsend]

/-- Sending and receiving are inverse for a standard data frame, and for no other. -/
theorem inverse_iff (msg : CANFrame) (h : OnBus msg) :
    Inverse msg ↔ msg.rtr = false ∧ msg.ext = false := by
  constructor
  · intro hinv
    obtain ⟨result, after, txMsg, hsend⟩ :=
      @sendCANMessage_hands ⟨0, true, true⟩ rfl msg.data msg
    have hafter := (sendCANMessage_received h hsend).2
    have hid : flaggedId msg.id msg.rtr msg.ext = msg.id :=
      congrArg (·.id) (hafter.symm.trans (hinv _ _ _ _ _ hsend).2)
    exact (flaggedId_eq_iff h.id_lt msg.rtr msg.ext).mp hid
  · intro hplain outcome stack result after txMsg hsend
    have hid : flaggedId msg.id msg.rtr msg.ext = msg.id :=
      (flaggedId_eq_iff h.id_lt msg.rtr msg.ext).mpr hplain
    have hreceived := sendCANMessage_received h hsend
    rwa [hid] at hreceived

def standardFrame : CANFrame :=
  { id := 0x585, len := 5, data := #v[opcAcon, 0, 1, 0, 2, 0, 0, 0] }

theorem inverse_iff_standardFrame :
    Inverse standardFrame ↔ standardFrame.rtr = false ∧ standardFrame.ext = false :=
  inverse_iff standardFrame ⟨by decide, by decide⟩

def extendedFrame : CANFrame := { id := 0x80004, ext := true }

theorem not_inverse_extendedFrame : OnBus extendedFrame ∧ ¬ Inverse extendedFrame := by
  have hbus : OnBus extendedFrame := ⟨by decide, by decide⟩
  refine ⟨hbus, fun h => ?_⟩
  obtain ⟨result, after, txMsg, hsend⟩ :=
    @sendCANMessage_hands ⟨0, true, true⟩ rfl extendedFrame.data extendedFrame
  obtain ⟨hreceived, -⟩ := sendCANMessage_received hbus hsend
  have hid := hreceived.id.symm.trans (h _ _ _ _ _ hsend).1.id
  exact absurd hid (by decide)

end CBUSACAN2040
end CBUSPicoLib
