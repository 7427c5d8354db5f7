import CBUSPicoLib.Node.Commands

/-!
# What a command can do

Most commands only reply. `CommandStep` lists the others with the guards under
which they are reached; `parseFLiMCmd_step` says that every frame is handled by
one of these steps followed by replies.
-/

namespace CBUSPicoLib

/-- Calls that neither take a frame from a queue nor hand one on. -/
def Effect.isReply : Effect → Bool
  | .taken _ => false
  | .parseCBUSMsg _ => false
  | .coePut _ => false
  | .sendCANFrame _ _ => false
  | .frameHandler _ => false
  | .processReceivedMessageFragment _ => false
  | _ => true

/-- The trace of replies, in which only `sendMessage` hands a frame to the GridConnect server. -/
inductive ReplyTrace : List Effect → Prop
  | nil : ReplyTrace []
  | reply {e : Effect} {es : List Effect} (h : e.isReply = true) (rest : ReplyTrace es) :
      ReplyTrace (e :: es)
  | forwarded (msg : CANFrame) (bMore : Bool) {es : List Effect} (rest : ReplyTrace es) :
      ReplyTrace (.sendMessage msg :: .sendCANFrame msg bMore :: es)

theorem ReplyTrace.append {es es' : List Effect} (h : ReplyTrace es) (h' : ReplyTrace es') :
    ReplyTrace (es ++ es') := by
  induction h with
  | nil => exact h'
  | reply he _ ih => exact .reply he ih
  | forwarded msg bMore _ ih => exact .forwarded msg bMore ih

theorem ReplyTrace.of_mem {es : List Effect} (h : ReplyTrace es) {e : Effect} (he : e ∈ es) :
    e.isReply = true ∨ ∃ msg bMore, e = .sendCANFrame msg bMore := by
  induction h with
  | nil => exact absurd he List.not_mem_nil
  | reply hreply _ ih =>
    rcases List.mem_cons.mp he with rfl | he
    · exact Or.inl hreply
    · exact ih he
  | forwarded msg bMore _ ih =>
    rcases List.mem_cons.mp he with rfl | he
    · exact Or.inl rfl
    · rcases List.mem_cons.mp he with rfl | he
      · exact Or.inr ⟨msg, bMore, rfl⟩
      · exact ih he

namespace CBUSbase

/-- `m` differs from `n` in the port only, whose trace has grown by replies. -/
def Replies (n m : CBUSbase) : Prop :=
  ∃ port es, m = { n with port := port } ∧ port.trace = n.port.trace ++ es ∧
    ReplyTrace es

theorem Replies.refl (n : CBUSbase) : Replies n n :=
  ⟨n.port, [], rfl, (List.append_nil _).symm, .nil⟩

theorem Replies.trans {n m k : CBUSbase} (h : Replies n m) (h' : Replies m k) : Replies n k := by
  obtain ⟨p, es, rfl, ht, he⟩ := h
  obtain ⟨p', es', rfl, ht', he'⟩ := h'
  refine ⟨p', es ++ es', rfl, ?_, he.append he'⟩
  rw [ht', ht, List.append_assoc]

theorem Replies.moduleConfig {n m : CBUSbase} (h : Replies n m) :
    m.moduleConfig = n.moduleConfig := by
  obtain ⟨p, es, rfl, -⟩ := h
  rfl

theorem replies_emit (n : CBUSbase) {e : Effect} (he : e.isReply = true) : Replies n (n.emit e) :=
  ⟨_, [e], rfl, rfl, .reply he .nil⟩

theorem replies_tx (n : CBUSbase) (tx : ℕ → List Refusal) :
    Replies n { n with port := { n.port with tx := tx } } :=
  ⟨_, [], rfl, (List.append_nil _).symm, .nil⟩

theorem forward_frame (n : CBUSbase) (msg : CANFrame) (bMore : Bool) :
    ∃ port, n.forward msg bMore = { n with port := port } := by
  unfold forward
  split_ifs
  · exact ⟨_, rfl⟩
  · exact ⟨n.port, rfl⟩

theorem replies_send (n : CBUSbase) (msg : CANFrame) :
    Replies n ((n.emit (.sendMessage msg)).forward msg false) := by
  unfold forward
  split_ifs
  · refine ⟨_, [.sendMessage msg, .sendCANFrame msg false], rfl, ?_, .forwarded msg false .nil⟩
    simp [emit]
  · exact n.replies_emit rfl

theorem replies_sendMessage (n : CBUSbase) (msg : CANFrame) (rtr ext : Bool) (priority : UInt8) :
    Replies n (n.sendMessage msg rtr ext priority).2.2 := by
  have h0 := n.replies_emit (e := .sendMessage msg) rfl
  unfold sendMessage
  dsimp only
  split
  · exact h0.trans (replies_tx _ _)
  · exact (n.replies_send msg).trans (replies_tx _ _)
  · exact ((n.replies_send msg).trans (replies_tx _ _)).trans (replies_emit _ rfl)

theorem replies_sendOpcMyNN (n : CBUSbase) (opc dataLen d1 d2 d3 d4 d5 : UInt8) :
    Replies n (n.sendOpcMyNN opc dataLen d1 d2 d3 d4 d5) := by
  unfold sendOpcMyNN sendMsgMyNN
  exact n.replies_sendMessage _ false false defaultPriority

theorem replies_sendWRACK (n : CBUSbase) : Replies n n.sendWRACK := by
  unfold sendWRACK
  exact n.replies_sendOpcMyNN _ _ _ _ _ _ _

theorem replies_sendCMDERR (n : CBUSbase) (cerrno : UInt8) : Replies n (n.sendCMDERR cerrno) := by
  unfold sendCMDERR
  exact n.replies_sendOpcMyNN _ _ _ _ _ _ _

theorem replies_doRqnpn (n : CBUSbase) (index : UInt8) : Replies n (n.doRqnpn index) := by
  unfold doRqnpn
  split
  · exact n.replies_sendOpcMyNN _ _ _ _ _ _ _
  · exact n.replies_sendCMDERR _

theorem replies_doNvrd (n : CBUSbase) (nvIndex : UInt8) : Replies n (n.doNvrd nvIndex) := by
  unfold doNvrd
  split_ifs
  · exact n.replies_sendCMDERR _
  · exact n.replies_sendOpcMyNN _ _ _ _ _ _ _

theorem replies_doReval (n : CBUSbase) (enNum evNum : UInt8) :
    Replies n (n.doReval enNum evNum) := by
  unfold doReval
  split_ifs
  · exact n.replies_sendCMDERR _
  · exact n.replies_sendOpcMyNN _ _ _ _ _ _ _
  · exact n.replies_sendCMDERR _

theorem replies_doReqev (n : CBUSbase) (evNum : UInt8) : Replies n (n.doReqev evNum) := by
  unfold doReqev
  dsimp only
  split_ifs
  · exact n.replies_sendCMDERR _
  · exact n.replies_sendOpcMyNN _ _ _ _ _ _ _
  · exact n.replies_sendCMDERR _

theorem replies_doNenrd (n : CBUSbase) (index : UInt8) : Replies n (n.doNenrd index) := by
  unfold doNenrd
  split_ifs
  · exact n.replies_sendCMDERR _
  · exact n.replies_sendMessage _ _ _ _

theorem replies_sendBusyWaiting (n : CBUSbase) (msg : CANFrame) (k : ℕ) :
    Replies n (n.sendBusyWaiting msg k).2 := by
  induction k generalizing n msg with
  | zero => exact n.replies_sendMessage _ _ _ _
  | succ k ih =>
    unfold sendBusyWaiting
    dsimp only
    split_ifs
    · exact n.replies_sendMessage _ _ _ _
    · exact (n.replies_sendMessage msg false false defaultPriority).trans (ih _ _)

theorem replies_doNerd (n : CBUSbase) : Replies n n.doNerd := by
  unfold doNerd
  generalize n.enrspHeader = msg
  generalize List.range n.moduleConfig.eeMaxEvents.toNat = slots
  induction slots generalizing n msg with
  | nil => exact Replies.refl n
  | cons i slots ih =>
    rw [List.foldl_cons]
    dsimp only
    split_ifs
    · exact (n.replies_sendBusyWaiting _ _).trans (ih _ _)
    · exact ih _ _

/-- What a teach command stores, if the variable index is not zero and there is a slot. -/
theorem doEvlrn_moduleConfig (n : CBUSbase) (evNum evVal : UInt8) :
    let c := n.moduleConfig
    let index := c.learnSlot n.nodeNumber n.eventNumber
    (n.doEvlrn evNum evVal).moduleConfig =
      if evNum ≠ 0 ∧ index < c.eeMaxEvents then
        c.learnEvent index ⟨n.nodeNumber, n.eventNumber⟩ evNum evVal
      else c := by
  intro c index
  unfold doEvlrn
  dsimp only
  by_cases hz : evNum = 0
  · rw [if_pos hz, if_neg fun h => h.1 hz]
    exact (n.replies_sendCMDERR _).moduleConfig
  · rw [if_neg hz]
    by_cases h : index < c.eeMaxEvents
    · rw [if_pos h, if_pos ⟨hz, h⟩]
      exact (replies_sendWRACK _).moduleConfig
    · rw [if_neg h, if_neg fun hc => h hc.2]
      exact (n.replies_sendCMDERR _).moduleConfig

theorem doEvuln_moduleConfig (n : CBUSbase) :
    let c := n.moduleConfig
    let index := c.findExistingEvent n.nodeNumber n.eventNumber
    n.doEvuln.moduleConfig =
      if index < c.eeMaxEvents then (c.clearEventEEPROM index).updateEvHashEntry index else c := by
  unfold doEvuln
  dsimp only
  split_ifs <;> rfl

/-- One way in which a frame changes the module, replies left out. -/
inductive CommandStep (n : CBUSbase) (msg : CANFrame) : CBUSbase → Prop
  | keep : CommandStep n msg n
  | leaveLearn (learn : n.bLearn = true) : CommandStep n msg { n with bLearn := false }
  | enterLearn (this : n.bThisNN = true) (flim : n.moduleConfig.bFLiM = true) :
      CommandStep n msg { n with bLearn := true }
  | nnclr (learn : n.bLearn = true) (opc : msg.data.get 0 = opcNnclr) :
      CommandStep n msg
        { n with moduleConfig := n.moduleConfig.clearEventsEEPROM.clearEvHashTable }
  | evuln (learn : n.bLearn = true) (opc : msg.data.get 0 = opcEvuln) (index : UInt8)
      (found : index = n.moduleConfig.findExistingEvent n.nodeNumber n.eventNumber)
      (valid : index.toNat < n.moduleConfig.eeMaxEvents.toNat) :
      CommandStep n msg
        { n with moduleConfig := (n.moduleConfig.clearEventEEPROM index).updateEvHashEntry index }
  | evlrn (learn : n.bLearn = true) (evNum evVal : UInt8)
      (opc : msg.data.get 0 = opcEvlrn ∧ evNum = msg.data.get 5 ∧ evVal = msg.data.get 6 ∨
        msg.data.get 0 = opcEvlrni ∧ evNum = msg.data.get 6 ∧ evVal = msg.data.get 7)
      (nonzero : evNum ≠ 0)
      (valid : (n.moduleConfig.learnSlot n.nodeNumber n.eventNumber).toNat <
        n.moduleConfig.eeMaxEvents.toNat) :
      CommandStep n msg { n with
        moduleConfig := (n.moduleConfig.learnEvent
          (n.moduleConfig.learnSlot n.nodeNumber n.eventNumber) ⟨n.nodeNumber, n.eventNumber⟩
          evNum evVal) }
  | nvset (this : n.bThisNN = true) (opc : msg.data.get 0 = opcNvset) :
      CommandStep n msg
        { n with moduleConfig := n.moduleConfig.writeNV (msg.data.get 3) (msg.data.get 4) }
  | canid (this : n.bThisNN = true) (opc : msg.data.get 0 = opcCanid) :
      CommandStep n msg { n with moduleConfig := (n.moduleConfig.setCANID (msg.data.get 3)).2 }
  | enum (this : n.bThisNN = true) : CommandStep n msg (n.doEnum true)
  | snn (setup : n.flimState = .fsFLiMSetup) (opc : msg.data.get 0 = opcSnn) :
      CommandStep n msg ({ n with
        moduleConfig := (n.moduleConfig.setNodeNum n.nodeNumber.toUInt32).setFLiM true
        }.indicateFLiMMode true)

/-- `m` is reached from `n` by one step and replies. -/
def Handles (n : CBUSbase) (msg : CANFrame) (m : CBUSbase) : Prop :=
  ∃ k, CommandStep n msg k ∧ Replies k m

theorem Replies.handles {n m : CBUSbase} (h : Replies n m) (msg : CANFrame) : Handles n msg m :=
  ⟨n, .keep, h⟩

theorem CommandStep.handles {n m : CBUSbase} {msg : CANFrame} (h : CommandStep n msg m) :
    Handles n msg m := ⟨m, h, Replies.refl m⟩

theorem handles_doNnclr {n : CBUSbase} {msg : CANFrame} (learn : n.bLearn = true)
    (opc : msg.data.get 0 = opcNnclr) : Handles n msg n.doNnclr := by
  unfold doNnclr
  rw [if_pos learn]
  exact ⟨_, .nnclr learn opc, replies_sendWRACK _⟩

theorem handles_doEvuln {n : CBUSbase} {msg : CANFrame} (learn : n.bLearn = true)
    (opc : msg.data.get 0 = opcEvuln) : Handles n msg n.doEvuln := by
  unfold doEvuln
  dsimp only
  split_ifs with h
  · exact (CommandStep.evuln learn opc _ rfl (UInt8.lt_iff_toNat_lt.mp h)).handles
  · exact (Replies.refl n).handles msg

theorem handles_doEvlrn {n : CBUSbase} {msg : CANFrame} (learn : n.bLearn = true)
    {evNum evVal : UInt8}
    (opc : msg.data.get 0 = opcEvlrn ∧ evNum = msg.data.get 5 ∧ evVal = msg.data.get 6 ∨
      msg.data.get 0 = opcEvlrni ∧ evNum = msg.data.get 6 ∧ evVal = msg.data.get 7) :
    Handles n msg (n.doEvlrn evNum evVal) := by
  unfold doEvlrn
  dsimp only
  split_ifs with hz h
  · exact (n.replies_sendCMDERR _).handles msg
  · exact ⟨_, .evlrn learn evNum evVal opc hz (UInt8.lt_iff_toNat_lt.mp h), replies_sendWRACK _⟩
  · exact (n.replies_sendCMDERR _).handles msg

theorem handles_doNvset {n : CBUSbase} {msg : CANFrame} (this : n.bThisNN = true)
    (opc : msg.data.get 0 = opcNvset) :
    Handles n msg (n.doNvset (msg.data.get 3) (msg.data.get 4)) := by
  let m := { n with moduleConfig := n.moduleConfig.writeNV (msg.data.get 3) (msg.data.get 4) }
  let e := Effect.actUponNVchange (msg.data.get 3) (n.moduleConfig.readNV (msg.data.get 3))
    (msg.data.get 4)
  have hm : Handles n msg (m.emit e).sendWRACK :=
    ⟨m, .nvset this opc, (m.replies_emit rfl).trans (m.emit e).replies_sendWRACK⟩
  have herr : ∀ code, Handles n msg (n.sendCMDERR code) :=
    fun code => (n.replies_sendCMDERR code).handles msg
  unfold doNvset
  dsimp only
  split_ifs
  · exact herr _
  · exact hm
  · exact herr _
  · exact herr _
  · exact hm
  · exact herr _

theorem replies_qnnRespond (n : CBUSbase) : Replies n n.qnnRespond := by
  unfold qnnRespond
  exact n.replies_sendOpcMyNN _ _ _ _ _ _ _

theorem replies_doNnevn (n : CBUSbase) : Replies n n.doNnevn := by
  unfold doNnevn
  exact n.replies_sendOpcMyNN _ _ _ _ _ _ _

theorem replies_doRqevn (n : CBUSbase) : Replies n n.doRqevn := by
  unfold doRqevn
  exact n.replies_sendOpcMyNN _ _ _ _ _ _ _

theorem replies_doRqnp (n : CBUSbase) : Replies n n.doRqnp := by
  unfold doRqnp
  exact n.replies_sendMessage _ _ _ _

theorem replies_doRqmn (n : CBUSbase) : Replies n n.doRqmn := by
  unfold doRqmn
  exact n.replies_sendMessage _ _ _ _

/-- What holds of the result of a switch entered with `n`: a frame that is not
processed leaves the module as it is. -/
def Switches (n : CBUSbase) (msg : CANFrame) (r : Bool × CBUSbase) : Prop :=
  Handles n msg r.2 ∧ (r.1 = false → r.2 = n)

theorem Handles.switches {n m : CBUSbase} {msg : CANFrame} (h : Handles n msg m) :
    Switches n msg (true, m) := ⟨h, nofun⟩

theorem Replies.switches {n m : CBUSbase} (h : Replies n m) (msg : CANFrame) :
    Switches n msg (true, m) := (h.handles msg).switches

theorem CommandStep.switches {n m : CBUSbase} {msg : CANFrame} (h : CommandStep n msg m) :
    Switches n msg (true, m) := h.handles.switches

theorem switches_pass (n : CBUSbase) (msg : CANFrame) : Switches n msg (false, n) :=
  ⟨(Replies.refl n).handles msg, fun _ => rfl⟩

theorem switches_ite {n : CBUSbase} {msg : CANFrame} {p : Prop} [Decidable p]
    {r r' : Bool × CBUSbase} (h : p → Switches n msg r) (h' : ¬ p → Switches n msg r') :
    Switches n msg (if p then r else r') := by
  split_ifs with hp
  · exact h hp
  · exact h' hp

theorem switches_tryCmd {n : CBUSbase} {msg : CANFrame} {r : Bool × CBUSbase}
    (h : Switches n msg r) (gate : CBUSbase → Bool) (cmd : CBUSbase → Bool × CBUSbase)
    (hcmd : gate n = true → Switches n msg (cmd n)) : Switches n msg (tryCmd gate cmd r) := by
  unfold CBUSbase.tryCmd
  refine switches_ite (fun _ => h) fun hr => ?_
  have hn : r.2 = n := h.2 (Bool.eq_false_iff.mpr hr)
  rw [hn]
  exact switches_ite hcmd fun _ => h

theorem learnCmd_switches {n : CBUSbase} (learn : n.bLearn = true) (msg : CANFrame) :
    Switches n msg (n.learnCmd msg) :=
  switches_ite
    (fun _ => switches_ite (fun _ => (Replies.refl n).switches msg) fun _ =>
      (CommandStep.leaveLearn learn).switches) fun _ =>
  switches_ite (fun _ => (CommandStep.leaveLearn learn).switches) fun _ =>
  switches_ite (fun opc => (handles_doNnclr learn opc).switches) fun _ =>
  switches_ite (fun opc => (handles_doEvuln learn opc).switches) fun _ =>
  switches_ite (fun opc => (handles_doEvlrn learn (Or.inl ⟨opc, rfl, rfl⟩)).switches) fun _ =>
  switches_ite (fun opc => (handles_doEvlrn learn (Or.inr ⟨opc, rfl, rfl⟩)).switches) fun _ =>
  switches_ite (fun _ => (n.replies_doReqev _).switches msg) fun _ =>
  switches_pass n msg

theorem handles_setCANID {n : CBUSbase} {msg : CANFrame} (this : n.bThisNN = true)
    (opc : msg.data.get 0 = opcCanid) :
    let m := { n with moduleConfig := (n.moduleConfig.setCANID (msg.data.get 3)).2 }
    Handles n msg (if (n.moduleConfig.setCANID (msg.data.get 3)).1 then m
      else m.sendCMDERR cmderrInvalidEvent) := by
  intro m
  split_ifs
  · exact (CommandStep.canid this opc).handles
  · exact ⟨m, .canid this opc, m.replies_sendCMDERR _⟩

theorem handles_enterLearn {n : CBUSbase} (this : n.bThisNN = true) (msg : CANFrame) :
    Handles n msg (if n.moduleConfig.bFLiM then { n with bLearn := true } else n) := by
  split_ifs with flim
  · exact (CommandStep.enterLearn this flim).handles
  · exact (Replies.refl n).handles msg

theorem thisNNCmd_switches {n : CBUSbase} (this : n.bThisNN = true) (msg : CANFrame) :
    Switches n msg (n.thisNNCmd msg) :=
  switches_ite (fun _ => (n.replies_doRqnpn _).switches msg) fun _ =>
  switches_ite (fun _ => (handles_enterLearn this msg).switches) fun _ =>
  switches_ite (fun _ => n.replies_doNnevn.switches msg) fun _ =>
  switches_ite (fun _ => n.replies_doNerd.switches msg) fun _ =>
  switches_ite (fun _ => (n.replies_doNenrd _).switches msg) fun _ =>
  switches_ite (fun _ => n.replies_doRqevn.switches msg) fun _ =>
  switches_ite (fun _ => (n.replies_doNvrd _).switches msg) fun _ =>
  switches_ite (fun opc => (handles_doNvset this opc).switches) fun _ =>
  switches_ite (fun _ => (n.replies_doReval _ _).switches msg) fun _ =>
  switches_ite (fun opc => (handles_setCANID this opc).switches) fun _ =>
  switches_ite (fun _ => (CommandStep.enum this).switches) fun _ =>
  switches_pass n msg

theorem anyNNCmd_switches (n : CBUSbase) (msg : CANFrame) : Switches n msg (n.anyNNCmd msg) :=
  switches_ite (fun _ => n.replies_qnnRespond.switches msg) fun _ => switches_pass n msg

theorem handles_doSnn {n : CBUSbase} {msg : CANFrame} (setup : n.flimState = .fsFLiMSetup)
    (opc : msg.data.get 0 = opcSnn) : Handles n msg n.doSnn := by
  refine ⟨_, .snn setup opc, ?_⟩
  have hflim : ((n.moduleConfig.setNodeNum n.nodeNumber.toUInt32).setFLiM true).bFLiM = true :=
    congrArg (·.2.1) (CBUSConfig.setFLiM_identityRam _ true)
  unfold doSnn
  dsimp only
  rw [hflim]
  exact replies_sendOpcMyNN _ _ _ _ _ _ _ _

theorem setupCmd_switches {n : CBUSbase} (setup : n.flimState = .fsFLiMSetup) (msg : CANFrame) :
    Switches n msg (n.setupCmd msg) :=
  switches_ite (fun _ => n.replies_doRqnp.switches msg) fun _ =>
  switches_ite (fun _ => n.replies_doRqmn.switches msg) fun _ =>
  switches_ite (fun opc => (handles_doSnn setup opc).switches) fun _ =>
  switches_pass n msg

theorem parseFLiMCmd_handles (n : CBUSbase) (msg : CANFrame) :
    Handles (n.cacheNumbers msg) msg (n.parseFLiMCmd msg).2 := by
  have hlearn := switches_tryCmd (switches_pass (n.cacheNumbers msg) msg) (·.bLearn)
    (·.learnCmd msg) fun learn => learnCmd_switches learn msg
  have hthis := switches_tryCmd hlearn (·.bThisNN) (·.thisNNCmd msg)
    fun this => thisNNCmd_switches this msg
  have hany := switches_tryCmd hthis (fun _ => true) (·.anyNNCmd msg)
    fun _ => anyNNCmd_switches _ msg
  have hsetup := switches_tryCmd hany (·.flimState = .fsFLiMSetup) (·.setupCmd msg)
    fun setup => setupCmd_switches (of_decide_eq_true setup) msg
  exact hsetup.1

theorem receiveMsg_command {n : CBUSbase} {msg : CANFrame} (h : isEvent msg = false) :
    n.receiveMsg msg = ({ n with bThisNN := n.isThisNN msg }.parseFLiMCmd msg).2 := by
  unfold receiveMsg parseCBUSMsg
  rw [h, if_neg Bool.false_ne_true]

theorem tryCmd_open {gate : CBUSbase → Bool} {cmd : CBUSbase → Bool × CBUSbase} {n : CBUSbase}
    (h : gate n = true) : tryCmd gate cmd (false, n) = cmd n := by
  unfold tryCmd
  rw [if_neg Bool.false_ne_true, if_pos h]

theorem tryCmd_pass {gate : CBUSbase → Bool} {cmd : CBUSbase → Bool × CBUSbase} {n : CBUSbase}
    (h : cmd n = (false, n)) : tryCmd gate cmd (false, n) = (false, n) := by
  unfold tryCmd
  rw [if_neg Bool.false_ne_true, h, ite_self]

theorem parseFLiMCmd_learn {n m : CBUSbase} {msg : CANFrame} (learn : n.bLearn = true)
    (h : (n.cacheNumbers msg).learnCmd msg = (true, m)) : (n.parseFLiMCmd msg).2 = m := by
  have hlearn : tryCmd (·.bLearn) (·.learnCmd msg) (false, n.cacheNumbers msg) = (true, m) :=
    (tryCmd_open (show (n.cacheNumbers msg).bLearn = true from learn)).trans h
  unfold parseFLiMCmd
  rw [hlearn]
  rfl

theorem parseFLiMCmd_thisNN {n m : CBUSbase} {msg : CANFrame} (this : n.bThisNN = true)
    (hpass : ∀ k : CBUSbase, k.learnCmd msg = (false, k))
    (h : (n.cacheNumbers msg).thisNNCmd msg = (true, m)) : (n.parseFLiMCmd msg).2 = m := by
  have hthis : tryCmd (·.bThisNN) (·.thisNNCmd msg) (false, n.cacheNumbers msg) = (true, m) :=
    (tryCmd_open (show (n.cacheNumbers msg).bThisNN = true from this)).trans h
  unfold parseFLiMCmd
  rw [tryCmd_pass (hpass _), hthis]
  rfl

end CBUSbase
end CBUSPicoLib
