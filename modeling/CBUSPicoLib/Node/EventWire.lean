import CBUSPicoLib.Node.CommandSteps

/-!
# Events over the wire

The opcode of an event carries three independent properties: short or long, ON or OFF,
and the number of data bytes. `parseCBUSMsg` recognises the sixteen opcodes by two masks
and reads the properties back; every opcode that `parseFLiMCmd` handles, and every one the
module replies with, misses the masks.
-/

namespace CBUSPicoLib

/-- The opcodes that the two masks let through. -/
def EventOpc (opc : UInt8) : Prop :=
  opc &&& eventSetMask = eventSetMask ∧ ~~~opc &&& eventClrMask = eventClrMask

instance : DecidablePred EventOpc := fun opc =>
  inferInstanceAs (Decidable (opc &&& eventSetMask = eventSetMask ∧
    ~~~opc &&& eventClrMask = eventClrMask))

theorem isEvent_iff (msg : CANFrame) : isEvent msg = true ↔ EventOpc (msg.data.get 0) :=
  decide_eq_true_iff

/-- The frame that an effect sends to the CAN controller or to GridConnect clients. -/
def Effect.sent : Effect → Option CANFrame
  | .sendMessage msg => some msg
  | .sendCANFrame msg _ => some msg
  | .transmitted msg => some msg
  | _ => none

namespace CBUSbase

/-- Every frame that is sent between `n` and `m` has the property. -/
def SendsOnly (p : CANFrame → Prop) (n m : CBUSbase) : Prop :=
  ∃ es, m.port.trace = n.port.trace ++ es ∧ ∀ e ∈ es, ∀ f, e.sent = some f → p f

variable {p : CANFrame → Prop} {n m k : CBUSbase}

theorem SendsOnly.refl (p : CANFrame → Prop) (n : CBUSbase) : SendsOnly p n n :=
  ⟨[], (List.append_nil _).symm, fun _ h => absurd h List.not_mem_nil⟩

theorem SendsOnly.of_trace (p : CANFrame → Prop) (h : m.port.trace = n.port.trace) :
    SendsOnly p n m :=
  ⟨[], h.trans (List.append_nil _).symm, fun _ h => absurd h List.not_mem_nil⟩

theorem SendsOnly.trans (h : SendsOnly p n m) (h' : SendsOnly p m k) : SendsOnly p n k := by
  obtain ⟨es, ht, he⟩ := h
  obtain ⟨es', ht', he'⟩ := h'
  refine ⟨es ++ es', by rw [ht', ht, List.append_assoc], ?_⟩
  intro e hm
  rcases List.mem_append.mp hm with hm | hm
  · exact he e hm
  · exact he' e hm

theorem sendsOnly_emit (n : CBUSbase) {e : Effect} (h : ∀ f, e.sent = some f → p f) :
    SendsOnly p n (n.emit e) :=
  ⟨[e], rfl, fun x hx => by rwa [List.mem_singleton.mp hx]⟩

/-- A property of the data part that the frame has, all its forms on the wire have. -/
theorem sendsOnly_sendMessage (n : CBUSbase) {msg : CANFrame} (rtr ext : Bool) (priority : UInt8)
    (h : ∀ g : CANFrame, g.len = msg.len → g.data = msg.data → p g) :
    SendsOnly p n (n.sendMessage msg rtr ext priority).2.2 := by
  have hmsg : p msg := h msg rfl rfl
  have hheader : ∀ k : CBUSbase, p (k.sendHeader msg rtr ext priority) := by
    intro k
    apply h
    · unfold sendHeader makeHeader makeHeaderImpl
      split_ifs <;> rfl
    · unfold sendHeader makeHeader makeHeaderImpl
      split_ifs <;> rfl
  have h0 : SendsOnly p n (n.emit (.sendMessage msg)) := by
    apply sendsOnly_emit
    rintro f ⟨⟩
    exact hmsg
  have h1 : SendsOnly p n ((n.emit (.sendMessage msg)).forward msg false) := by
    unfold forward
    split_ifs
    · apply h0.trans
      apply sendsOnly_emit
      rintro f ⟨⟩
      exact hmsg
    · exact h0
  unfold sendMessage
  dsimp only
  split
  · exact h0.trans (.of_trace p rfl)
  · exact h1.trans (.of_trace p rfl)
  · refine (h1.trans (.of_trace p rfl)).trans (sendsOnly_emit _ ?_)
    rintro f ⟨⟩
    exact hheader _

theorem withNode_get (frame : CANFrame) (w : ℕ) :
    (withNode frame w).data.get 1 = highByte w ∧ (withNode frame w).data.get 2 = lowByte w ∧
      ∀ i : Fin 8, i ≠ 1 → i ≠ 2 → (withNode frame w).data.get i = frame.data.get i := by
  refine ⟨?_, ?_, ?_⟩
  · change (withNode frame w).data[1] = _
    simp [withNode]
  · change (withNode frame w).data[2] = _
    simp [withNode]
  · intro i h1 h2
    have h1' : (1 : ℕ) ≠ i.val := fun h => h1 (Fin.ext h.symm)
    have h2' : (2 : ℕ) ≠ i.val := fun h => h2 (Fin.ext h.symm)
    change (withNode frame w).data[i.val] = frame.data[i.val]
    simp [withNode, h1', h2']

/-- The opcode that `sendEventWithData` sends. -/
def sentEventOpc (short onEvent : Bool) (dataLen : UInt8) : UInt8 :=
  let opc := if short then opcAcon ||| 0x08 else opcAcon
  let opc := if onEvent then opc else opc ||| 0x01
  if 0 < dataLen then opc ||| UInt8.ofNat (dataLen.toNat <<< 5) else opc

theorem eventFrame_opc (n : CBUSbase) (eventNode eventNum : UInt16) (onEvent : Bool)
    (dataLen d1 d2 d3 : UInt8) :
    (n.eventFrame eventNode eventNum onEvent dataLen d1 d2 d3).1.data.get 0 =
      sentEventOpc (eventNode == 0) onEvent dataLen := by
  by_cases h : eventNode = 0
  · subst h
    rfl
  · have hb : (eventNode == 0) = false := by simpa using h
    rw [hb]
    simp only [eventFrame, if_neg h]
    rfl

theorem sentEventOpc_spec (short onEvent : Bool) {dataLen : UInt8} (h : dataLen ≤ 3) :
    let opc := sentEventOpc short onEvent dataLen
    EventOpc opc ∧ (opc &&& eventShortMask ≠ 0 ↔ short = true) ∧ (opc % 2 == 0) = onEvent := by
  have hlen : dataLen = 0 ∨ dataLen = 1 ∨ dataLen = 2 ∨ dataLen = 3 := by
    have hle : dataLen.toNat ≤ 3 := UInt8.le_iff_toNat_le.mp h
    simp only [← UInt8.toNat_inj, UInt8.reduceToNat]
    omega
  rcases hlen with rfl | rfl | rfl | rfl
  · revert short onEvent
    decide
  · revert short onEvent
    decide
  · revert short onEvent
    decide
  · revert short onEvent
    decide

/-- What a receiver tells the application about an event stored at `index`. -/
def notifications (r : CBUSbase) (index : UInt8) (msg : CANFrame) (onEvent : Bool) : List Effect :=
  if index < r.moduleConfig.eeMaxEvents then
    if r.eventHandler then [.eventHandler index msg]
    else if r.eventHandlerEx then
      [.eventHandlerEx index msg onEvent
        (if 0 < r.moduleConfig.eeNumEvs then r.moduleConfig.getEventEVval index 1 else 0)]
    else []
  else []

/-- The receiver takes the frame for this event, with these data bytes. -/
structure Decodes (r : CBUSbase) (msg : CANFrame) (eventNode eventNum : UInt16) (onEvent : Bool)
    (bytes : List UInt8) : Prop where
  isEvent : isEvent msg = true
  numbers : (r.parseCBUSMsg msg).2.nodeNumber = eventNode ∧
    (r.parseCBUSMsg msg).2.eventNumber = eventNum
  notified : (r.parseCBUSMsg msg).2.port.trace = r.port.trace ++
    r.notifications (r.moduleConfig.findExistingEvent eventNode eventNum) msg onEvent
  len : msg.len.toNat = 5 + bytes.length
  bytes : (msg.data.toList.drop 5).take bytes.length = bytes

/-- A receiver sees of an event its key, the ON flag and the data bytes. -/
theorem parseCBUSEvent_notified (r : CBUSbase) (msg : CANFrame) :
    ((r.parseCBUSEvent msg).2.nodeNumber, (r.parseCBUSEvent msg).2.eventNumber) = eventKey msg ∧
      (r.parseCBUSEvent msg).2.port.trace = r.port.trace ++ r.notifications
        (r.moduleConfig.findExistingEvent (eventKey msg).1 (eventKey msg).2) msg
        (isOnEvent msg) := by
  unfold parseCBUSEvent notifications
  dsimp only
  split_ifs <;> exact ⟨rfl, by simp [emit]⟩

/-- The data part of an event frame, with the node number filled in, names the event. -/
theorem eventFrame_key (n : CBUSbase) (eventNode eventNum : UInt16) (onEvent : Bool)
    {dataLen : UInt8} (d1 d2 d3 : UInt8) (hlen : dataLen ≤ 3) {msg : CANFrame}
    (hdata : msg.data = (withNode (n.eventFrame eventNode eventNum onEvent dataLen d1 d2 d3).1
      (n.eventFrame eventNode eventNum onEvent dataLen d1 d2 d3).2.toNat).data) :
    CBUSPicoLib.isEvent msg = true ∧ eventKey msg = (eventNode, eventNum) ∧
      isOnEvent msg = onEvent := by
  let frame := (n.eventFrame eventNode eventNum onEvent dataLen d1 d2 d3).1
  let node := (n.eventFrame eventNode eventNum onEvent dataLen d1 d2 d3).2
  obtain ⟨hw1, hw2, hw⟩ := withNode_get frame node.toNat
  have hkeep : ∀ i : Fin 8, i ≠ 1 → i ≠ 2 → msg.data.get i = frame.data.get i := by
    intro i h1 h2
    rw [hdata]
    exact hw i h1 h2
  have hopc : msg.data.get 0 = sentEventOpc (eventNode == 0) onEvent dataLen :=
    (hkeep 0 (by decide) (by decide)).trans
      (n.eventFrame_opc eventNode eventNum onEvent dataLen d1 d2 d3)
  obtain ⟨hevent, hshort, hon⟩ := sentEventOpc_spec (eventNode == 0) onEvent hlen
  refine ⟨?_, ?_, ?_⟩
  · rw [isEvent_iff, hopc]
    exact hevent
  · have hnum : bytesToWord (msg.data.get 3) (msg.data.get 4) = eventNum := by
      have h3 : msg.data.get 3 = highByte eventNum.toNat := hkeep 3 (by decide) (by decide)
      have h4 : msg.data.get 4 = lowByte eventNum.toNat := hkeep 4 (by decide) (by decide)
      rw [h3, h4, bytesToWord_high_low]
    unfold eventKey
    rw [hnum, hopc]
    by_cases h : eventNode = 0
    · rw [if_pos (hshort.mpr (by simpa using h)), h]
    · rw [if_neg fun hs => h (by simpa using hshort.mp hs)]
      have hnode : node = eventNode := by
        simp [node, eventFrame, h]
      have h1 : msg.data.get 1 = highByte node.toNat := by
        rw [hdata]
        exact hw1
      have h2 : msg.data.get 2 = lowByte node.toNat := by
        rw [hdata]
        exact hw2
      rw [h1, h2, hnode, bytesToWord_high_low]
  · unfold isOnEvent
    rw [hopc]
    exact hon

theorem eventFrame_decodes (n : CBUSbase) (eventNode eventNum : UInt16) (onEvent : Bool)
    {dataLen : UInt8} (d1 d2 d3 : UInt8) (hlen : dataLen ≤ 3) {msg : CANFrame}
    (hmsglen : msg.len = (n.eventFrame eventNode eventNum onEvent dataLen d1 d2 d3).1.len)
    (hdata : msg.data = (withNode (n.eventFrame eventNode eventNum onEvent dataLen d1 d2 d3).1
      (n.eventFrame eventNode eventNum onEvent dataLen d1 d2 d3).2.toNat).data) (r : CBUSbase) :
    r.Decodes msg eventNode eventNum onEvent ([d1, d2, d3].take dataLen.toNat) := by
  obtain ⟨hisevent, hkey, hison⟩ := n.eventFrame_key eventNode eventNum onEvent d1 d2 d3 hlen hdata
  have hparse : r.parseCBUSMsg msg = r.parseCBUSEvent msg := if_pos hisevent
  obtain ⟨hnumbers, htrace⟩ := r.parseCBUSEvent_notified msg
  rw [hkey] at hnumbers htrace
  rw [hison] at htrace
  have hle : dataLen.toNat ≤ 3 := UInt8.le_iff_toNat_le.mp hlen
  have htake : ([d1, d2, d3].take dataLen.toNat).length = dataLen.toNat := by
    rw [List.length_take]
    exact min_eq_left hle
  constructor
  · exact hisevent
  · rw [hparse]
    exact ⟨congrArg (·.1) hnumbers, congrArg (·.2) hnumbers⟩
  · rw [hparse]
    exact htrace
  · have hfive : (5 : UInt8).toNat = 5 := rfl
    have hframelen : msg.len = 5 + dataLen := hmsglen
    rw [hframelen, htake, UInt8.toNat_add, hfive]
    omega
  · have hbytes : msg.data.toList.drop 5 = [d1, d2, d3] := by
      rw [hdata]
      rfl
    rw [hbytes, htake]

/-- What `sendEventWithData` sends is sent at least once, and nothing else is. -/
theorem sendEventWithData_sends (n : CBUSbase) (micros : UInt32) (eventNode eventNum : UInt16)
    (onEvent : Bool) {dataLen : UInt8} (d1 d2 d3 : UInt8) (hlen : dataLen ≤ 3) :
    let m := (n.sendEventWithData micros eventNode eventNum onEvent dataLen d1 d2 d3).2.2
    (∃ f, .sendMessage f ∈ m.port.trace.drop n.port.trace.length) ∧
      SendsOnly (fun f => ∀ r : CBUSbase,
        r.Decodes f eventNode eventNum onEvent ([d1, d2, d3].take dataLen.toNat)) n m := by
  intro m
  let frame := (n.eventFrame eventNode eventNum onEvent dataLen d1 d2 d3).1
  let node := (n.eventFrame eventNode eventNum onEvent dataLen d1 d2 d3).2
  -- the module after the copy has been queued, if there is a queue
  obtain ⟨start, es, hm, htrace, hes⟩ : ∃ (start : CBUSbase) (es : List Effect),
      m = (start.sendMessage (withNode frame node.toNat)).2.2 ∧
        start.port.trace = n.port.trace ++ es ∧ ∀ e ∈ es, e.sent = none := by
    cases hcoe : n.coeObj with
    | none =>
      refine ⟨n, [], ?_, (List.append_nil _).symm, fun e he => absurd he List.not_mem_nil⟩
      simp only [m, sendEventWithData, hcoe]
      rfl
    | some coe =>
      refine ⟨{ n with coeObj := some (coe.put frame micros) }.emit (.coePut frame),
        [.coePut frame], ?_, rfl, ?_⟩
      · simp only [m, sendEventWithData, hcoe]
        rfl
      · intro e he
        rw [List.mem_singleton.mp he]
        rfl
  obtain ⟨rest, hrest⟩ := start.sendMessage_trace (withNode frame node.toNat) false false
    defaultPriority
  constructor
  · refine ⟨withNode frame node.toNat, ?_⟩
    rw [hm, hrest, htrace, List.append_assoc, List.drop_left]
    simp
  · rw [hm]
    apply SendsOnly.trans (m := start)
    · refine ⟨es, htrace, fun e he f hf => ?_⟩
      rw [hes e he] at hf
      cases hf
    · apply sendsOnly_sendMessage
      exact fun g hglen hgdata r =>
        n.eventFrame_decodes eventNode eventNum onEvent d1 d2 d3 hlen hglen hgdata r

/-- The frame is not an event. -/
def NoEvent (msg : CANFrame) : Prop := isEvent msg = false

theorem noEvent_iff (msg : CANFrame) : NoEvent msg ↔ ¬ EventOpc (msg.data.get 0) := by
  rw [← isEvent_iff, Bool.not_eq_true]
  rfl

theorem sendsOnly_command (n : CBUSbase) {msg : CANFrame} (rtr ext : Bool) (priority : UInt8)
    (h : ¬ EventOpc (msg.data.get 0)) :
    SendsOnly NoEvent n (n.sendMessage msg rtr ext priority).2.2 := by
  apply sendsOnly_sendMessage
  intro g _ hdata
  rw [noEvent_iff, hdata]
  exact h

theorem sendsOnly_withNode (n : CBUSbase) {msg : CANFrame} (w : ℕ)
    (h : ¬ EventOpc (msg.data.get 0)) :
    SendsOnly NoEvent n (n.sendMessage (withNode msg w)).2.2 := by
  apply sendsOnly_command
  rw [(withNode_get msg w).2.2 0 (by decide) (by decide)]
  exact h

theorem sendsOnly_sendOpcMyNN (n : CBUSbase) {opc : UInt8} (dataLen d1 d2 d3 d4 d5 : UInt8)
    (h : ¬ EventOpc opc) : SendsOnly NoEvent n (n.sendOpcMyNN opc dataLen d1 d2 d3 d4 d5) :=
  n.sendsOnly_withNode _ h

theorem sendsOnly_sendWRACK (n : CBUSbase) : SendsOnly NoEvent n n.sendWRACK :=
  n.sendsOnly_sendOpcMyNN _ _ _ _ _ _ (by decide)

theorem sendsOnly_sendCMDERR (n : CBUSbase) (cerrno : UInt8) :
    SendsOnly NoEvent n (n.sendCMDERR cerrno) :=
  n.sendsOnly_sendOpcMyNN _ _ _ _ _ _ (by decide)

/-- A call of a command helper. -/
inductive HelperCall
  | sendSingleOpc (opc : UInt8)
  | sendOpcMyNN (opc dataLen d1 d2 d3 d4 d5 : UInt8)
  | sendOpcNN (opc : UInt8) (nodeId : UInt16) (dataLen d1 d2 d3 d4 d5 : UInt8)
  | sendMsgMyNN (frame : CANFrame)
  | sendMsgNN (frame : CANFrame) (nodeId : UInt16)

def HelperCall.opc : HelperCall → UInt8
  | .sendSingleOpc opc => opc
  | .sendOpcMyNN opc .. => opc
  | .sendOpcNN opc .. => opc
  | .sendMsgMyNN frame => frame.data.get 0
  | .sendMsgNN frame _ => frame.data.get 0

def helperCall (n : CBUSbase) : HelperCall → CBUSbase
  | .sendSingleOpc opc => (n.sendSingleOpc opc).2.2
  | .sendOpcMyNN opc dataLen d1 d2 d3 d4 d5 => n.sendOpcMyNN opc dataLen d1 d2 d3 d4 d5
  | .sendOpcNN opc nodeId dataLen d1 d2 d3 d4 d5 =>
    (n.sendOpcNN opc nodeId dataLen d1 d2 d3 d4 d5).2.2
  | .sendMsgMyNN frame => (n.sendMsgMyNN frame).2.2
  | .sendMsgNN frame nodeId => (n.sendMsgNN frame nodeId).2.2

theorem helperCall_sendsOnly (n : CBUSbase) (call : HelperCall) (h : ¬ EventOpc call.opc) :
    SendsOnly NoEvent n (n.helperCall call) := by
  cases call with
  | sendSingleOpc opc => exact n.sendsOnly_command _ _ _ h
  | sendOpcMyNN opc dataLen d1 d2 d3 d4 d5 => exact n.sendsOnly_sendOpcMyNN _ _ _ _ _ _ h
  | sendOpcNN opc nodeId dataLen d1 d2 d3 d4 d5 => exact n.sendsOnly_withNode _ h
  | sendMsgMyNN frame => exact n.sendsOnly_withNode _ h
  | sendMsgNN frame nodeId => exact n.sendsOnly_withNode _ h

theorem sendsOnly_doRqnpn (n : CBUSbase) (index : UInt8) :
    SendsOnly NoEvent n (n.doRqnpn index) := by
  unfold doRqnpn
  split
  · exact n.sendsOnly_sendOpcMyNN _ _ _ _ _ _ (by decide)
  · exact n.sendsOnly_sendCMDERR _

theorem sendsOnly_doNvrd (n : CBUSbase) (nvIndex : UInt8) :
    SendsOnly NoEvent n (n.doNvrd nvIndex) := by
  unfold doNvrd
  split_ifs
  · exact n.sendsOnly_sendCMDERR _
  · exact n.sendsOnly_sendOpcMyNN _ _ _ _ _ _ (by decide)

/-- An accepted node variable: the call of `actUponNVchange` and the acknowledgement. -/
theorem sendsOnly_doNvset (n : CBUSbase) (nvIndex nvValue : UInt8) :
    SendsOnly NoEvent n (n.doNvset nvIndex nvValue) := by
  let m := { n with moduleConfig := n.moduleConfig.writeNV nvIndex nvValue }
  let e := Effect.actUponNVchange nvIndex (n.moduleConfig.readNV nvIndex) nvValue
  have hset : SendsOnly NoEvent n (m.emit e).sendWRACK := by
    apply SendsOnly.trans _ (m.emit e).sendsOnly_sendWRACK
    apply SendsOnly.trans (.of_trace NoEvent rfl) (m.sendsOnly_emit _)
    intro f hf
    cases hf
  unfold doNvset
  dsimp only
  split_ifs
  · exact n.sendsOnly_sendCMDERR _
  · exact hset
  · exact n.sendsOnly_sendCMDERR _
  · exact n.sendsOnly_sendCMDERR _
  · exact hset
  · exact n.sendsOnly_sendCMDERR _

theorem sendsOnly_doSnn (n : CBUSbase) : SendsOnly NoEvent n n.doSnn := by
  unfold doSnn
  dsimp only
  apply SendsOnly.trans (.of_trace NoEvent _) (sendsOnly_sendOpcMyNN _ _ _ _ _ _ _ (by decide))
  unfold indicateFLiMMode
  cases ((n.moduleConfig.setNodeNum n.nodeNumber.toUInt32).setFLiM true).bFLiM <;> rfl

theorem sendsOnly_doNnclr (n : CBUSbase) : SendsOnly NoEvent n n.doNnclr := by
  unfold doNnclr
  split_ifs
  · exact SendsOnly.trans (.of_trace NoEvent rfl) (sendsOnly_sendWRACK _)
  · exact n.sendsOnly_sendCMDERR _

theorem sendsOnly_doEvlrn (n : CBUSbase) (evNum evVal : UInt8) :
    SendsOnly NoEvent n (n.doEvlrn evNum evVal) := by
  unfold doEvlrn
  dsimp only
  split_ifs
  · exact n.sendsOnly_sendCMDERR _
  · exact SendsOnly.trans (.of_trace NoEvent rfl) (sendsOnly_sendWRACK _)
  · exact n.sendsOnly_sendCMDERR _

theorem sendsOnly_doEvuln (n : CBUSbase) : SendsOnly NoEvent n n.doEvuln := by
  unfold doEvuln
  dsimp only
  split_ifs
  · exact .of_trace NoEvent rfl
  · exact .refl NoEvent n

theorem sendsOnly_doReval (n : CBUSbase) (enNum evNum : UInt8) :
    SendsOnly NoEvent n (n.doReval enNum evNum) := by
  unfold doReval
  split_ifs
  · exact n.sendsOnly_sendCMDERR _
  · exact n.sendsOnly_sendOpcMyNN _ _ _ _ _ _ (by decide)
  · exact n.sendsOnly_sendCMDERR _

theorem sendsOnly_doReqev (n : CBUSbase) (evNum : UInt8) :
    SendsOnly NoEvent n (n.doReqev evNum) := by
  unfold doReqev
  dsimp only
  split_ifs
  · exact n.sendsOnly_sendCMDERR _
  · exact n.sendsOnly_sendOpcMyNN _ _ _ _ _ _ (by decide)
  · exact n.sendsOnly_sendCMDERR _

/-- The bytes that are put into a frame for one event leave its opcode alone. -/
theorem enrspFrame_opc (msg : CANFrame) (evInfo : EventInfo) (index : UInt8) :
    (enrspFrame msg evInfo index).data.get 0 = msg.data.get 0 := by
  change (enrspFrame msg evInfo index).data[0] = msg.data[0]
  simp [enrspFrame]

theorem sendsOnly_doNenrd (n : CBUSbase) (index : UInt8) :
    SendsOnly NoEvent n (n.doNenrd index) := by
  unfold doNenrd
  split_ifs
  · exact n.sendsOnly_sendCMDERR _
  · apply n.sendsOnly_command
    rw [enrspFrame_opc]
    exact (by decide : ¬ EventOpc opcEnrsp)

theorem sendMessage_data (n : CBUSbase) (msg : CANFrame) (rtr ext : Bool) (priority : UInt8) :
    (n.sendMessage msg rtr ext priority).2.1.data = msg.data := by
  unfold sendMessage
  dsimp only
  split
  · rfl
  · unfold sendHeader makeHeader makeHeaderImpl
    split_ifs <;> rfl
  · unfold sendHeader makeHeader makeHeaderImpl
    split_ifs <;> rfl

theorem sendsOnly_sendBusyWaiting (n : CBUSbase) {msg : CANFrame} (h : ¬ EventOpc (msg.data.get 0))
    (k : ℕ) : SendsOnly NoEvent n (n.sendBusyWaiting msg k).2 ∧
      (n.sendBusyWaiting msg k).1.data = msg.data := by
  induction k generalizing n msg with
  | zero => exact ⟨n.sendsOnly_command _ _ _ h, n.sendMessage_data msg _ _ _⟩
  | succ k ih =>
    have hdata := n.sendMessage_data msg false false defaultPriority
    unfold sendBusyWaiting
    dsimp only
    split_ifs
    · exact ⟨n.sendsOnly_command _ _ _ h, hdata⟩
    · have hopc : ¬ EventOpc ((n.sendMessage msg).2.1.data.get 0) := by rwa [hdata]
      obtain ⟨hs, hd⟩ := ih (n.sendMessage msg).2.2 hopc
      exact ⟨(n.sendsOnly_command _ _ _ h).trans hs, hd.trans hdata⟩

theorem sendsOnly_doNerd (n : CBUSbase) : SendsOnly NoEvent n n.doNerd := by
  unfold doNerd
  have hopc : ¬ EventOpc (n.enrspHeader.data.get 0) := (by decide : ¬ EventOpc opcEnrsp)
  generalize n.enrspHeader = msg at hopc
  generalize List.range n.moduleConfig.eeMaxEvents.toNat = slots
  induction slots generalizing n msg with
  | nil => exact .refl NoEvent n
  | cons i slots ih =>
    rw [List.foldl_cons]
    dsimp only
    split_ifs
    · have hev : ¬ EventOpc ((enrspFrame msg (n.moduleConfig.readEvent (UInt8.ofNat i))
          (UInt8.ofNat i)).data.get 0) := by rwa [enrspFrame_opc]
      obtain ⟨hs, hd⟩ := n.sendsOnly_sendBusyWaiting hev (n.port.tx 0).length
      exact hs.trans (ih _ _ (by rwa [hd]))
    · exact ih _ _ hopc

/-- A switch sends no event, and processes no frame whose opcode is one of an event. -/
def Speaks (n : CBUSbase) (msg : CANFrame) (r : Bool × CBUSbase) : Prop :=
  SendsOnly NoEvent n r.2 ∧ (r.1 = true → ¬ EventOpc (msg.data.get 0))

theorem speaks_pass (n : CBUSbase) (msg : CANFrame) : Speaks n msg (false, n) :=
  ⟨.refl NoEvent n, fun h => absurd h Bool.false_ne_true⟩

theorem speaks_case {msg : CANFrame} {r r' : Bool × CBUSbase} {opc : UInt8}
    (hopc : ¬ EventOpc opc) (h : SendsOnly NoEvent n r.2) (h' : Speaks n msg r') :
    Speaks n msg (if msg.data.get 0 = opc then r else r') := by
  split_ifs with hc
  · exact ⟨h, fun _ => by rwa [hc]⟩
  · exact h'

theorem speaks_tryCmd {msg : CANFrame} {r : Bool × CBUSbase} (h : Speaks n msg r)
    (gate : CBUSbase → Bool) {cmd : CBUSbase → Bool × CBUSbase}
    (hcmd : ∀ m, Speaks m msg (cmd m)) : Speaks n msg (tryCmd gate cmd r) := by
  unfold tryCmd
  split_ifs
  · exact h
  · exact ⟨h.1.trans (hcmd r.2).1, (hcmd r.2).2⟩
  · exact h

theorem speaks_learnCmd (n : CBUSbase) (msg : CANFrame) : Speaks n msg (n.learnCmd msg) := by
  have hnnlrn : SendsOnly NoEvent n
      (if n.bThisNN then (true, n) else (true, { n with bLearn := false })).2 := by
    split_ifs
    · exact .refl NoEvent n
    · exact .of_trace NoEvent rfl
  exact speaks_case (by decide) hnnlrn <|
    speaks_case (by decide) (.of_trace NoEvent rfl) <|
    speaks_case (by decide) n.sendsOnly_doNnclr <|
    speaks_case (by decide) n.sendsOnly_doEvuln <|
    speaks_case (by decide) (n.sendsOnly_doEvlrn _ _) <|
    speaks_case (by decide) (n.sendsOnly_doEvlrn _ _) <|
    speaks_case (by decide) (n.sendsOnly_doReqev _) <|
    n.speaks_pass msg

theorem speaks_thisNNCmd (n : CBUSbase) (msg : CANFrame) : Speaks n msg (n.thisNNCmd msg) := by
  have henter : SendsOnly NoEvent n
      (if n.moduleConfig.bFLiM then { n with bLearn := true } else n) := by
    split_ifs
    · exact .of_trace NoEvent rfl
    · exact .refl NoEvent n
  let m := { n with moduleConfig := (n.moduleConfig.setCANID (msg.data.get 3)).2 }
  have hcanid : SendsOnly NoEvent n (if (n.moduleConfig.setCANID (msg.data.get 3)).1 then m
      else m.sendCMDERR cmderrInvalidEvent) := by
    split_ifs
    · exact .of_trace NoEvent rfl
    · exact SendsOnly.trans (.of_trace NoEvent rfl) (m.sendsOnly_sendCMDERR _)
  have henum : SendsOnly NoEvent n (n.doEnum true) := by
    unfold doEnum
    dsimp only
    split_ifs <;> exact .of_trace NoEvent rfl
  exact speaks_case (by decide) (n.sendsOnly_doRqnpn _) <|
    speaks_case (by decide) henter <|
    speaks_case (by decide) (n.sendsOnly_sendOpcMyNN _ _ _ _ _ _ (by decide)) <|
    speaks_case (by decide) n.sendsOnly_doNerd <|
    speaks_case (by decide) (n.sendsOnly_doNenrd _) <|
    speaks_case (by decide) (n.sendsOnly_sendOpcMyNN _ _ _ _ _ _ (by decide)) <|
    speaks_case (by decide) (n.sendsOnly_doNvrd _) <|
    speaks_case (by decide) (n.sendsOnly_doNvset _ _) <|
    speaks_case (by decide) (n.sendsOnly_doReval _ _) <|
    speaks_case (by decide) hcanid <|
    speaks_case (by decide) henum <|
    n.speaks_pass msg

theorem speaks_anyNNCmd (n : CBUSbase) (msg : CANFrame) : Speaks n msg (n.anyNNCmd msg) :=
  speaks_case (by decide) (n.sendsOnly_sendOpcMyNN _ _ _ _ _ _ (by decide)) (n.speaks_pass msg)

theorem speaks_setupCmd (n : CBUSbase) (msg : CANFrame) : Speaks n msg (n.setupCmd msg) :=
  have hparams : ¬ EventOpc opcParams := by decide
  have hname : ¬ EventOpc opcName := by decide
  speaks_case (by decide) (n.sendsOnly_command _ _ _ hparams) <|
    speaks_case (by decide) (n.sendsOnly_command _ _ _ hname) <|
    speaks_case (by decide) n.sendsOnly_doSnn <|
    n.speaks_pass msg

/-- `parseFLiMCmd` answers no frame with an event, and processes none that is one. -/
theorem speaks_parseFLiMCmd (n : CBUSbase) (msg : CANFrame) :
    Speaks n msg (n.parseFLiMCmd msg) := by
  have hstart : Speaks n msg (false, n.cacheNumbers msg) :=
    ⟨.of_trace NoEvent rfl, fun h => absurd h Bool.false_ne_true⟩
  have hlearn := speaks_tryCmd hstart (·.bLearn) fun m => m.speaks_learnCmd msg
  have hthis := speaks_tryCmd hlearn (·.bThisNN) fun m => m.speaks_thisNNCmd msg
  have hany := speaks_tryCmd hthis (fun _ => true) fun m => m.speaks_anyNNCmd msg
  exact speaks_tryCmd hany (·.flimState = .fsFLiMSetup) fun m => m.speaks_setupCmd msg

/-- An opcode of a frame that some module processes as a command. -/
def HandledCommand (opc : UInt8) : Prop :=
  ∃ (n : CBUSbase) (msg : CANFrame), msg.data.get 0 = opc ∧ (n.parseFLiMCmd msg).1 = true

/-- Every frame of `sendEventWithData` is the event that was asked for to every receiver;
no frame that a helper sends with the opcode of a command, and none that answers a
command, is an event. -/
theorem events_wire :
    (∀ (n : CBUSbase) (micros : UInt32) (eventNode eventNum : UInt16) (onEvent : Bool)
      (dataLen d1 d2 d3 : UInt8), dataLen ≤ 3 →
      let m := (n.sendEventWithData micros eventNode eventNum onEvent dataLen d1 d2 d3).2.2
      (∃ f, .sendMessage f ∈ m.port.trace.drop n.port.trace.length) ∧
        SendsOnly (fun f => ∀ r : CBUSbase,
          r.Decodes f eventNode eventNum onEvent ([d1, d2, d3].take dataLen.toNat)) n m) ∧
      (∀ (n : CBUSbase) (call : HelperCall), HandledCommand call.opc →
        SendsOnly NoEvent n (n.helperCall call)) ∧
      ∀ (n : CBUSbase) (msg : CANFrame), SendsOnly NoEvent n (n.parseFLiMCmd msg).2 := by
  refine ⟨?_, ?_, ?_⟩
  · intro n micros eventNode eventNum onEvent dataLen d1 d2 d3 hlen
    exact n.sendEventWithData_sends micros eventNode eventNum onEvent d1 d2 d3 hlen
  · rintro n call ⟨r, msg, hopc, hhandled⟩
    apply n.helperCall_sendsOnly
    rw [← hopc]
    exact (r.speaks_parseFLiMCmd msg).2 hhandled
  · exact fun n msg => (n.speaks_parseFLiMCmd msg).1

def qnnFrame : CANFrame := { len := 1, data := #v[opcQnn, 0, 0, 0, 0, 0, 0, 0] }

theorem events_wire_smallModule :
    (∃ f, .sendMessage f ∈ (smallModule.sendEventWithData 0 0 5 true 2 7 8 9).2.2.port.trace.drop
        smallModule.port.trace.length) ∧
      SendsOnly (fun f => ∀ r : CBUSbase, r.Decodes f 0 5 true [7, 8]) smallModule
        (smallModule.sendEventWithData 0 0 5 true 2 7 8 9).2.2 ∧
      SendsOnly NoEvent smallModule (smallModule.helperCall (.sendSingleOpc opcQnn)) :=
  have hevent := events_wire.1 smallModule 0 0 5 true 2 7 8 9 (by decide)
  ⟨hevent.1, hevent.2, events_wire.2.1 smallModule (.sendSingleOpc opcQnn)
    ⟨smallModule, qnnFrame, rfl, rfl⟩⟩

end CBUSbase
end CBUSPicoLib
