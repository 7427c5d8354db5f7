import CBUSPicoLib.Node.EventWire

/-!
# What a module answers

The answer to a command is the first frame the module sends while it handles it. The
frames of `sendOpcMyNN` are known by their opcode and the bytes behind the node number.
-/

namespace CBUSPicoLib
namespace CBUSbase

def answer (n m : CBUSbase) : Option CANFrame :=
  (m.port.trace.drop n.port.trace.length).findSome? Effect.sent

/-- The frame has this opcode, the module's node number and these bytes. -/
structure Carries (m : CBUSbase) (msg : CANFrame) (opc : UInt8) (bytes : List UInt8) : Prop where
  opc : msg.data.get 0 = opc
  node : bytesToWord (msg.data.get 1) (msg.data.get 2) = UInt16.ofNat m.moduleConfig.nodeNum.toNat
  payload : (msg.data.toList.drop 3).take bytes.length = bytes
  len : msg.len.toNat = 3 + bytes.length

def Answers (n m : CBUSbase) (opc : UInt8) (bytes : List UInt8) : Prop :=
  ∃ f, n.answer m = some f ∧ m.Carries f opc bytes

theorem Answers.unique {n m : CBUSbase} {opc opc' : UInt8} {bytes bytes' : List UInt8}
    (h : n.Answers m opc bytes) (h' : n.Answers m opc' bytes') : opc = opc' ∧ bytes = bytes' := by
  obtain ⟨f, hf, hc⟩ := h
  obtain ⟨f', hf', hc'⟩ := h'
  cases hf.symm.trans hf'
  have hlen : bytes.length = bytes'.length := by
    have hl := hc.len
    have hl' := hc'.len
    omega
  refine ⟨hc.opc.symm.trans hc'.opc, ?_⟩
  rw [← hc.payload, ← hc'.payload, hlen]

/-- Nothing is sent between `n` and `k`. -/
def SendsNothing (n k : CBUSbase) : Prop := SendsOnly (fun _ => False) n k

variable {n k : CBUSbase}

theorem SendsNothing.of_trace (h : k.port.trace = n.port.trace) : n.SendsNothing k :=
  SendsOnly.of_trace _ h

theorem SendsNothing.emit (hk : n.SendsNothing k) {e : Effect} (he : e.sent = none) :
    n.SendsNothing (k.emit e) := by
  apply SendsOnly.trans hk
  apply sendsOnly_emit
  intro f hf
  exact absurd (he.symm.trans hf) (Option.some_ne_none f).symm

theorem answer_sendMessage (hk : n.SendsNothing k) (msg : CANFrame) (rtr ext : Bool)
    (priority : UInt8) :
    n.answer (k.sendMessage msg rtr ext priority).2.2 = some msg := by
  obtain ⟨es, ht, hes⟩ := hk
  obtain ⟨rest, hrest⟩ := k.sendMessage_trace msg rtr ext priority
  have hnone : es.findSome? Effect.sent = none := by
    apply List.findSome?_eq_none_iff.mpr
    intro e he
    exact Option.eq_none_iff_forall_not_mem.mpr fun f hf => hes e he f hf
  unfold answer
  rw [hrest, ht, List.append_assoc, List.drop_left, List.findSome?_append, hnone]
  rfl

theorem highLow_nodeNum (w : ℕ) : bytesToWord (highByte w) (lowByte w) = UInt16.ofNat w := by
  apply UInt16.toNat_inj.mp
  rw [toNat_bytesToWord, toNat_highByte, toNat_lowByte, UInt16.toNat_ofNat']
  omega

theorem answers_sendOpcMyNN (hk : n.SendsNothing k) (opc : UInt8) {dataLen : UInt8}
    (hlen : dataLen ≤ 5) (d1 d2 d3 d4 d5 : UInt8) :
    n.Answers (k.sendOpcMyNN opc dataLen d1 d2 d3 d4 d5) opc
      ([d1, d2, d3, d4, d5].take dataLen.toNat) := by
  let msg : CANFrame := {
    id := k.moduleConfig.canId.toUInt32
    len := 3 + dataLen
    data := #v[opc, 0, 0, d1, d2, d3, d4, d5] }
  have hle : dataLen.toNat ≤ 5 := UInt8.le_iff_toNat_le.mp hlen
  have htake : ([d1, d2, d3, d4, d5].take dataLen.toNat).length = dataLen.toNat := by
    rw [List.length_take]
    exact min_eq_left hle
  obtain ⟨hhigh, hlow, hkeep⟩ := withNode_get msg k.moduleConfig.nodeNum.toNat
  refine ⟨withNode msg k.moduleConfig.nodeNum.toNat, answer_sendMessage hk _ _ _ _, ?_⟩
  constructor
  · exact hkeep 0 (by decide) (by decide)
  · rw [hhigh, hlow, highLow_nodeNum, (k.replies_sendOpcMyNN _ _ _ _ _ _ _).moduleConfig]
  · rw [htake]
    rfl
  · have hthree : (3 : UInt8).toNat = 3 := rfl
    rw [htake]
    change (3 + dataLen).toNat = _
    rw [UInt8.toNat_add, hthree]
    omega

theorem answers_sendWRACK (hk : n.SendsNothing k) : n.Answers k.sendWRACK opcWrack [] :=
  answers_sendOpcMyNN hk opcWrack (by decide) 0 0 0 0 0

theorem answers_sendCMDERR (hk : n.SendsNothing k) (cerrno : UInt8) :
    n.Answers (k.sendCMDERR cerrno) opcCmderr [cerrno] :=
  answers_sendOpcMyNN hk opcCmderr (by decide) cerrno 0 0 0 0

theorem answer_sendOpcMyNN_congr {n' k' : CBUSbase} (hk : n.SendsNothing k)
    (hk' : n'.SendsNothing k') (hcanId : k'.moduleConfig.canId = k.moduleConfig.canId)
    (hnodeNum : k'.moduleConfig.nodeNum = k.moduleConfig.nodeNum)
    (opc dataLen d1 d2 d3 d4 d5 : UInt8) :
    n'.answer (k'.sendOpcMyNN opc dataLen d1 d2 d3 d4 d5) =
      n.answer (k.sendOpcMyNN opc dataLen d1 d2 d3 d4 d5) := by
  unfold sendOpcMyNN sendMsgMyNN
  rw [answer_sendMessage hk, answer_sendMessage hk', hcanId, hnodeNum]

end CBUSbase
end CBUSPicoLib
