import CBUSPicoLib.Node.AddressConflict
import CBUSPicoLib.Node.EventStoreAnswers
import CBUSPicoLib.Node.QueueSelection

/-!
# What a module contributes to the traffic of events

An application hands an event to `sendEventWithData`, another one is told of it through an event
handler. Nothing else that a module does puts an event on the bus, and nothing but an event that is
taken from a queue calls an event handler: neither the switch, the enumeration, the receive interrupt
nor any command.
-/

namespace CBUSPicoLib

open Runs

/-- An event as applications see it. -/
structure AppEvent where
  node : UInt16
  event : UInt16
  on : Bool
  bytes : List UInt8
  deriving DecidableEq, Repr

def appEvent (f : CANFrame) : AppEvent where
  node := (eventKey f).1
  event := (eventKey f).2
  on := isOnEvent f
  bytes := (f.data.toList.drop 5).take (f.len.toNat - 5)

def eventOf (f : CANFrame) : Option AppEvent :=
  if 0 < f.len ∧ isEvent f = true then some (appEvent f) else none

/-- What an application is told by a call of its event handler. -/
def Effect.told : Effect → Option AppEvent
  | .eventHandler _ msg => some (appEvent msg)
  | .eventHandlerEx _ msg ison _ => some { appEvent msg with on := ison }
  | _ => none

/-- The events that the application has been told of, in order. -/
def toldEvents (trace : List Effect) : List AppEvent := trace.filterMap Effect.told

theorem toldEvents_append (trace es : List Effect) :
    toldEvents (trace ++ es) = toldEvents trace ++ toldEvents es := List.filterMap_append

theorem transmittedFrames_append (trace es : List Effect) :
    transmittedFrames (trace ++ es) = transmittedFrames trace ++ transmittedFrames es :=
  List.filterMap_append

namespace CBUSbase

variable {n m k : CBUSbase} {msg : CANFrame}

/-- The application has been told of nothing further. -/
def TellsNothing (n m : CBUSbase) : Prop := toldEvents m.port.trace = toldEvents n.port.trace

theorem TellsNothing.refl (n : CBUSbase) : TellsNothing n n := rfl

theorem TellsNothing.trans (h : TellsNothing n m) (h' : TellsNothing m k) : TellsNothing n k :=
  Eq.trans h' h

theorem tellsNothing_of_port (h : m.port = n.port) : TellsNothing n m := by
  unfold TellsNothing
  rw [h]

theorem tellsNothing_emit (n : CBUSbase) {e : Effect} (he : e.told = none) :
    TellsNothing n (n.emit e) := by
  unfold TellsNothing emit
  rw [toldEvents_append]
  simp [toldEvents, he]

theorem tellsNothing_forward (n : CBUSbase) (msg : CANFrame) (bMore : Bool) :
    TellsNothing n (n.forward msg bMore) := by
  unfold forward
  split_ifs
  · exact n.tellsNothing_emit rfl
  · exact .refl n

theorem tellsNothing_sendMessage (n : CBUSbase) (msg : CANFrame) (rtr ext : Bool)
    (priority : UInt8) : TellsNothing n (n.sendMessage msg rtr ext priority).2.2 := by
  have h0 := n.tellsNothing_emit (e := .sendMessage msg) rfl
  have h1 := h0.trans (tellsNothing_forward _ msg false)
  unfold sendMessage
  dsimp only
  split
  · exact h0
  · exact h1
  · exact h1.trans (tellsNothing_emit _ rfl)

theorem tellsNothing_sendOpcMyNN (n : CBUSbase) (opc dataLen d1 d2 d3 d4 d5 : UInt8) :
    TellsNothing n (n.sendOpcMyNN opc dataLen d1 d2 d3 d4 d5) :=
  n.tellsNothing_sendMessage _ _ _ _

theorem tellsNothing_sendWRACK (n : CBUSbase) : TellsNothing n n.sendWRACK :=
  n.tellsNothing_sendOpcMyNN _ _ _ _ _ _ _

theorem tellsNothing_sendCMDERR (n : CBUSbase) (cerrno : UInt8) :
    TellsNothing n (n.sendCMDERR cerrno) :=
  n.tellsNothing_sendOpcMyNN _ _ _ _ _ _ _

theorem tellsNothing_doRqnpn (n : CBUSbase) (index : UInt8) : TellsNothing n (n.doRqnpn index) := by
  unfold doRqnpn
  split
  · exact n.tellsNothing_sendOpcMyNN _ _ _ _ _ _ _
  · exact n.tellsNothing_sendCMDERR _

theorem tellsNothing_doNvrd (n : CBUSbase) (nvIndex : UInt8) :
    TellsNothing n (n.doNvrd nvIndex) := by
  unfold doNvrd
  split_ifs
  · exact n.tellsNothing_sendCMDERR _
  · exact n.tellsNothing_sendOpcMyNN _ _ _ _ _ _ _

/-- An accepted node variable: the call of `actUponNVchange` and the acknowledgement. -/
theorem tellsNothing_doNvset (n : CBUSbase) (nvIndex nvValue : UInt8) :
    TellsNothing n (n.doNvset nvIndex nvValue) := by
  let m := { n with moduleConfig := n.moduleConfig.writeNV nvIndex nvValue }
  let e := Effect.actUponNVchange nvIndex (n.moduleConfig.readNV nvIndex) nvValue
  have hm : TellsNothing n m := tellsNothing_of_port rfl
  have hset : TellsNothing n (m.emit e).sendWRACK :=
    (hm.trans (m.tellsNothing_emit rfl)).trans (m.emit e).tellsNothing_sendWRACK
  unfold doNvset
  dsimp only
  split_ifs
  · exact n.tellsNothing_sendCMDERR _
  · exact hset
  · exact n.tellsNothing_sendCMDERR _
  · exact n.tellsNothing_sendCMDERR _
  · exact hset
  · exact n.tellsNothing_sendCMDERR _

theorem tellsNothing_doSnn (n : CBUSbase) : TellsNothing n n.doSnn := by
  unfold doSnn
  dsimp only
  apply TellsNothing.trans (tellsNothing_of_port _) (tellsNothing_sendOpcMyNN _ _ _ _ _ _ _ _)
  exact indicateModeOnLEDs_port _ _

theorem tellsNothing_doNnclr (n : CBUSbase) : TellsNothing n n.doNnclr := by
  unfold doNnclr
  split_ifs
  · exact TellsNothing.trans (tellsNothing_of_port rfl) (tellsNothing_sendWRACK _)
  · exact n.tellsNothing_sendCMDERR _

theorem tellsNothing_doEvlrn (n : CBUSbase) (evNum evVal : UInt8) :
    TellsNothing n (n.doEvlrn evNum evVal) := by
  unfold doEvlrn
  dsimp only
  split_ifs
  · exact n.tellsNothing_sendCMDERR _
  · exact TellsNothing.trans (tellsNothing_of_port rfl) (tellsNothing_sendWRACK _)
  · exact n.tellsNothing_sendCMDERR _

theorem tellsNothing_doEvuln (n : CBUSbase) : TellsNothing n n.doEvuln := by
  unfold doEvuln
  dsimp only
  split_ifs <;> exact tellsNothing_of_port rfl

theorem tellsNothing_doReval (n : CBUSbase) (enNum evNum : UInt8) :
    TellsNothing n (n.doReval enNum evNum) := by
  unfold doReval
  split_ifs
  · exact n.tellsNothing_sendCMDERR _
  · exact n.tellsNothing_sendOpcMyNN _ _ _ _ _ _ _
  · exact n.tellsNothing_sendCMDERR _

theorem tellsNothing_doReqev (n : CBUSbase) (evNum : UInt8) :
    TellsNothing n (n.doReqev evNum) := by
  unfold doReqev
  dsimp only
  split_ifs
  · exact n.tellsNothing_sendCMDERR _
  · exact n.tellsNothing_sendOpcMyNN _ _ _ _ _ _ _
  · exact n.tellsNothing_sendCMDERR _

theorem tellsNothing_doNenrd (n : CBUSbase) (index : UInt8) :
    TellsNothing n (n.doNenrd index) := by
  unfold doNenrd
  split_ifs
  · exact n.tellsNothing_sendCMDERR _
  · exact n.tellsNothing_sendMessage _ _ _ _

theorem tellsNothing_sendBusyWaiting (n : CBUSbase) (msg : CANFrame) (k : ℕ) :
    TellsNothing n (n.sendBusyWaiting msg k).2 := by
  induction k generalizing n msg with
  | zero => exact n.tellsNothing_sendMessage _ _ _ _
  | succ k ih =>
    have hsend := n.tellsNothing_sendMessage msg false false defaultPriority
    unfold sendBusyWaiting
    dsimp only
    split_ifs
    · exact hsend
    · exact hsend.trans (ih _ _)

theorem tellsNothing_doNerd (n : CBUSbase) : TellsNothing n n.doNerd := by
  unfold doNerd
  generalize n.enrspHeader = msg
  generalize List.range n.moduleConfig.eeMaxEvents.toNat = slots
  induction slots generalizing n msg with
  | nil => exact .refl n
  | cons i slots ih =>
    rw [List.foldl_cons]
    dsimp only
    split_ifs
    · exact (n.tellsNothing_sendBusyWaiting _ _).trans (ih _ _)
    · exact ih _ _

theorem tellsNothing_case {p : Prop} [Decidable p] {r r' : Bool × CBUSbase}
    (h : TellsNothing n r.2) (h' : TellsNothing n r'.2) :
    TellsNothing n (if p then r else r').2 := by
  split_ifs
  · exact h
  · exact h'

theorem tellsNothing_learnCmd (n : CBUSbase) (msg : CANFrame) :
    TellsNothing n (n.learnCmd msg).2 :=
  tellsNothing_case (tellsNothing_case (.refl n) (tellsNothing_of_port rfl)) <|
  tellsNothing_case (tellsNothing_of_port rfl) <|
  tellsNothing_case n.tellsNothing_doNnclr <|
  tellsNothing_case n.tellsNothing_doEvuln <|
  tellsNothing_case (n.tellsNothing_doEvlrn _ _) <|
  tellsNothing_case (n.tellsNothing_doEvlrn _ _) <|
  tellsNothing_case (n.tellsNothing_doReqev _) <|
  .refl n

theorem tellsNothing_thisNNCmd (n : CBUSbase) (msg : CANFrame) :
    TellsNothing n (n.thisNNCmd msg).2 := by
  let m := { n with moduleConfig := (n.moduleConfig.setCANID (msg.data.get 3)).2 }
  have henter : TellsNothing n
      (if n.moduleConfig.bFLiM then { n with bLearn := true } else n) := by
    split_ifs
    · exact tellsNothing_of_port rfl
    · exact .refl n
  have hcanid : TellsNothing n (if (n.moduleConfig.setCANID (msg.data.get 3)).1 then m
      else m.sendCMDERR cmderrInvalidEvent) := by
    split_ifs
    · exact tellsNothing_of_port rfl
    · exact TellsNothing.trans (tellsNothing_of_port rfl) (m.tellsNothing_sendCMDERR _)
  exact tellsNothing_case (n.tellsNothing_doRqnpn _) <|
    tellsNothing_case henter <|
    tellsNothing_case (n.tellsNothing_sendOpcMyNN _ _ _ _ _ _ _) <|
    tellsNothing_case n.tellsNothing_doNerd <|
    tellsNothing_case (n.tellsNothing_doNenrd _) <|
    tellsNothing_case (n.tellsNothing_sendOpcMyNN _ _ _ _ _ _ _) <|
    tellsNothing_case (n.tellsNothing_doNvrd _) <|
    tellsNothing_case (n.tellsNothing_doNvset _ _) <|
    tellsNothing_case (n.tellsNothing_doReval _ _) <|
    tellsNothing_case hcanid <|
    tellsNothing_case (tellsNothing_of_port (n.doEnum_port true)) <|
    .refl n

theorem tellsNothing_anyNNCmd (n : CBUSbase) (msg : CANFrame) :
    TellsNothing n (n.anyNNCmd msg).2 :=
  tellsNothing_case (n.tellsNothing_sendOpcMyNN _ _ _ _ _ _ _) (.refl n)

theorem tellsNothing_setupCmd (n : CBUSbase) (msg : CANFrame) :
    TellsNothing n (n.setupCmd msg).2 :=
  tellsNothing_case (n.tellsNothing_sendMessage _ _ _ _) <|
  tellsNothing_case (n.tellsNothing_sendMessage _ _ _ _) <|
  tellsNothing_case n.tellsNothing_doSnn <|
  .refl n

theorem tellsNothing_tryCmd {r : Bool × CBUSbase} (h : TellsNothing n r.2)
    (gate : CBUSbase → Bool) {cmd : CBUSbase → Bool × CBUSbase}
    (hcmd : ∀ m, TellsNothing m (cmd m).2) : TellsNothing n (tryCmd gate cmd r).2 := by
  unfold tryCmd
  split_ifs
  · exact h
  · exact h.trans (hcmd r.2)
  · exact h

theorem tellsNothing_parseFLiMCmd (n : CBUSbase) (msg : CANFrame) :
    TellsNothing n (n.parseFLiMCmd msg).2 := by
  have hstart : TellsNothing n (n.cacheNumbers msg) := tellsNothing_of_port rfl
  have hlearn := tellsNothing_tryCmd (r := (false, n.cacheNumbers msg)) hstart (·.bLearn)
    fun m => m.tellsNothing_learnCmd msg
  have hthis := tellsNothing_tryCmd hlearn (·.bThisNN) fun m => m.tellsNothing_thisNNCmd msg
  have hany := tellsNothing_tryCmd hthis (fun _ => true) fun m => m.tellsNothing_anyNNCmd msg
  exact tellsNothing_tryCmd hany (·.flimState = .fsFLiMSetup) fun m => m.tellsNothing_setupCmd msg

theorem tellsNothing_revertSLiM (n : CBUSbase) : TellsNothing n n.revertSLiM := by
  have hsend := n.tellsNothing_sendOpcMyNN opcNnrel 0 0 0 0 0 0
  exact hsend.trans (tellsNothing_of_port (indicateModeOnLEDs_port _ _))

theorem tellsNothing_initFLiM (n : CBUSbase) : TellsNothing n n.initFLiM := by
  have hleds := tellsNothing_of_port (n.indicateModeOnLEDs_port .modeChanging)
  exact hleds.trans (tellsNothing_sendOpcMyNN _ _ _ _ _ _ _ _)

theorem tellsNothing_flimSWCheck (n : CBUSbase) (now : UInt32) :
    TellsNothing n (n.flimSWCheck now) := by
  have hport : ∀ m : CBUSbase, m.port = n.port → TellsNothing n m :=
    fun _ h => tellsNothing_of_port h
  have hstep := n.flimStep_flimSWCheck now
  generalize n.flimSWCheck now = m at hstep ⊢
  cases hstep with
  | move => exact hport _ rfl
  | flash => exact hport _ (indicateModeOnLEDs_port _ _)
  | setup =>
    exact (hport { n with flimState := .fsFLiMSetup } rfl).trans (tellsNothing_initFLiM _)
  | revert => exact (hport { n with flimState := .fsSLiM } rfl).trans (tellsNothing_revertSLiM _)
  | resume => exact hport _ (indicateModeOnLEDs_port _ _)
  | unknown => exact n.tellsNothing_revertSLiM

theorem tellsNothing_processEnumeration (n : CBUSbase) (now : UInt32) :
    TellsNothing n (n.processEnumeration now) := by
  unfold processEnumeration
  split_ifs
  · exact TellsNothing.trans (tellsNothing_of_port rfl) (tellsNothing_sendMessage _ _ _ _ _)
  · unfold concludeEnumeration
    dsimp only
    split
    · split_ifs
      · exact TellsNothing.trans (tellsNothing_of_port rfl)
          (tellsNothing_sendOpcMyNN _ _ _ _ _ _ _ _)
      · exact tellsNothing_of_port rfl
      · exact tellsNothing_of_port rfl
    · split_ifs
      · exact n.tellsNothing_sendCMDERR _
      · exact tellsNothing_of_port rfl
  · exact .refl n

theorem tellsNothing_poll (n : CBUSbase) (i : PollInput) : TellsNothing n (n.poll i) := by
  let k := { n with
    ledGrn := n.ledGrn.run i.grnTime
    ledYlw := n.ledYlw.run i.ylwTime
    sw := n.sw.run i.pin i.swClock }
  have hk : TellsNothing n k := tellsNothing_of_port rfl
  exact (hk.trans (k.tellsNothing_flimSWCheck i.flimTime)).trans
    (tellsNothing_processEnumeration _ i.enumTime)

theorem tellsNothing_checkIncomingFrame {now : UInt32} {r : Bool × CANFrame × CBUSbase}
    (h : n.checkIncomingFrame msg now = some r) : TellsNothing n r.2.2 := by
  obtain ⟨k, hk, rfl⟩ := Option.map_eq_some_iff.mp h
  have hport : TellsNothing n k := by
    unfold recordFrame at hk
    split_ifs at hk
    · cases hk
      exact tellsNothing_of_port rfl
    · cases hk
      exact tellsNothing_of_port (n.doEnum_port false)
    · cases hk
      exact .refl n
  unfold answerFrame
  split_ifs
  · exact hport.trans (k.tellsNothing_sendMessage _ _ _ _)
  · exact hport
  · exact hport
  · exact hport

/-- The frames that `send_message` accepts between `n` and `m` carry no event. -/
def OffersNoEvent (n m : CBUSbase) : Prop :=
  ∃ fs, CBUSPicoLib.transmittedFrames m.port.trace =
      CBUSPicoLib.transmittedFrames n.port.trace ++ fs ∧
    ∀ f ∈ fs, eventOf f = none

theorem OffersNoEvent.trans (h : OffersNoEvent n m) (h' : OffersNoEvent m k) :
    OffersNoEvent n k := by
  obtain ⟨fs, ht, hf⟩ := h
  obtain ⟨fs', ht', hf'⟩ := h'
  refine ⟨fs ++ fs', by rw [ht', ht, List.append_assoc], ?_⟩
  intro f hm
  rcases List.mem_append.mp hm with hm | hm
  · exact hf f hm
  · exact hf' f hm

theorem offersNoEvent_of_trace
    (h : CBUSPicoLib.transmittedFrames m.port.trace =
      CBUSPicoLib.transmittedFrames n.port.trace) : OffersNoEvent n m :=
  ⟨[], h.trans (List.append_nil _).symm, fun _ h => absurd h List.not_mem_nil⟩

theorem eventOf_of_noEvent {f : CANFrame} (h : NoEvent f) : eventOf f = none :=
  if_neg fun he => Bool.false_ne_true (h.symm.trans he.2)

theorem eventOf_of_len {f : CANFrame} (h : f.len = 0) : eventOf f = none := by
  apply if_neg
  rintro ⟨hlen, -⟩
  rw [h] at hlen
  exact absurd hlen (by decide)

/-- A property of everything that is sent is one of everything that is accepted. -/
theorem SendsOnly.offersNoEvent {p : CANFrame → Prop} (h : SendsOnly p n m)
    (hp : ∀ f, p f → eventOf f = none) : OffersNoEvent n m := by
  obtain ⟨es, ht, he⟩ := h
  refine ⟨CBUSPicoLib.transmittedFrames es, by rw [ht, transmittedFrames_append], fun f hf => ?_⟩
  obtain ⟨e, hmem, hsome⟩ := List.mem_filterMap.mp hf
  cases e with
  | transmitted msg =>
    cases hsome
    exact hp _ (he _ hmem _ rfl)
  | _ => simp at hsome

theorem sendsOnly_flimSWCheck (n : CBUSbase) (now : UInt32) :
    SendsOnly NoEvent n (n.flimSWCheck now) := by
  have hport : ∀ m : CBUSbase, m.port = n.port → SendsOnly NoEvent n m :=
    fun _ h => .of_trace NoEvent (congrArg Port.trace h)
  have hrevert : ∀ k : CBUSbase, k.port = n.port → SendsOnly NoEvent n k.revertSLiM := by
    intro k hk
    have hrel : ¬ EventOpc opcNnrel := by decide
    have hsend := (hport k hk).trans (k.sendsOnly_sendOpcMyNN 0 0 0 0 0 0 hrel)
    exact hsend.trans (.of_trace NoEvent (congrArg Port.trace (indicateModeOnLEDs_port _ _)))
  have hinit : ∀ k : CBUSbase, k.port = n.port → SendsOnly NoEvent n k.initFLiM := by
    intro k hk
    have hleds := hport (k.indicateModeOnLEDs .modeChanging) ((indicateModeOnLEDs_port _ _).trans hk)
    exact hleds.trans (sendsOnly_sendOpcMyNN _ _ _ _ _ _ _ (by decide))
  have hstep := n.flimStep_flimSWCheck now
  generalize n.flimSWCheck now = m at hstep ⊢
  cases hstep with
  | move => exact hport _ rfl
  | flash => exact hport _ (indicateModeOnLEDs_port _ _)
  | setup => exact hinit _ rfl
  | revert => exact hrevert _ rfl
  | resume => exact hport _ (indicateModeOnLEDs_port _ _)
  | unknown => exact hrevert n rfl

theorem sendsOnly_processEnumeration (n : CBUSbase) (now : UInt32) :
    SendsOnly NoEvent n (n.processEnumeration now) := by
  have hack : ¬ EventOpc opcNnack := by decide
  unfold processEnumeration
  split_ifs
  · exact SendsOnly.trans (.of_trace NoEvent rfl) (sendsOnly_command _ _ _ _ (by decide))
  · unfold concludeEnumeration
    dsimp only
    split
    · split_ifs
      · exact SendsOnly.trans (.of_trace NoEvent rfl) (sendsOnly_sendOpcMyNN _ _ _ _ _ _ _ hack)
      · exact .of_trace NoEvent rfl
      · exact .of_trace NoEvent rfl
    · split_ifs
      · exact n.sendsOnly_sendCMDERR _
      · exact .of_trace NoEvent rfl
  · exact .refl NoEvent n

theorem offersNoEvent_poll (n : CBUSbase) (i : PollInput) : OffersNoEvent n (n.poll i) := by
  let k := { n with
    ledGrn := n.ledGrn.run i.grnTime
    ledYlw := n.ledYlw.run i.ylwTime
    sw := n.sw.run i.pin i.swClock }
  have hk : SendsOnly NoEvent n k := .of_trace NoEvent rfl
  exact ((hk.trans (k.sendsOnly_flimSWCheck i.flimTime)).trans
    (sendsOnly_processEnumeration _ i.enumTime)).offersNoEvent fun _ => eventOf_of_noEvent

theorem offersNoEvent_checkIncomingFrame {now : UInt32} {r : Bool × CANFrame × CBUSbase}
    (h : n.checkIncomingFrame msg now = some r) : OffersNoEvent n r.2.2 := by
  obtain ⟨k, hk, rfl⟩ := Option.map_eq_some_iff.mp h
  have hport : k.port = n.port := by
    unfold recordFrame at hk
    split_ifs at hk
    · cases hk
      rfl
    · cases hk
      exact n.doEnum_port false
    · cases hk
      rfl
  have hsame : OffersNoEvent n k := offersNoEvent_of_trace (by rw [hport])
  have hanswer : OffersNoEvent k (k.sendMessage { msg with len := 0 }).2.2 :=
    (k.sendsOnly_sendMessage false false defaultPriority (p := fun f => f.len = 0)
      fun g hg _ => hg).offersNoEvent fun _ => eventOf_of_len
  unfold answerFrame
  split_ifs
  · exact hsame.trans hanswer
  · exact hsame
  · exact hsame
  · exact hsame

theorem offersNoEvent_emit (n : CBUSbase) {e : Effect} (he : ∀ f, e ≠ .transmitted f) :
    OffersNoEvent n (n.emit e) := by
  apply offersNoEvent_of_trace
  unfold emit
  rw [transmittedFrames_append]
  cases e with
  | transmitted f => exact absurd rfl (he f)
  | _ => simp [CBUSPicoLib.transmittedFrames]

theorem offersNoEvent_forward (n : CBUSbase) (msg : CANFrame) (bMore : Bool) :
    OffersNoEvent n (n.forward msg bMore) := by
  unfold forward
  split_ifs
  · exact n.offersNoEvent_emit nofun
  · exact offersNoEvent_of_trace rfl

theorem offersNoEvent_taken (n : CBUSbase) (msg : CANFrame) :
    OffersNoEvent n (n.emit (.taken msg)) :=
  n.offersNoEvent_emit fun _ h => Effect.noConfusion h

/-- A frame from CAN is passed on to GridConnect clients, not to the bus. -/
theorem offersNoEvent_takeFrame (n : CBUSbase) (canSend : Bool) :
    OffersNoEvent n (n.takeFrame canSend).2 := by
  have hsame : OffersNoEvent n n := offersNoEvent_of_trace rfl
  unfold takeFrame
  split_ifs
  · split
    · exact OffersNoEvent.trans (offersNoEvent_of_trace rfl) (offersNoEvent_taken _ _)
    · exact hsame
  · split
    · exact OffersNoEvent.trans (offersNoEvent_of_trace rfl) (offersNoEvent_taken _ _)
    · exact hsame
  · split
    · exact (OffersNoEvent.trans (offersNoEvent_of_trace rfl) (offersNoEvent_taken _ _)).trans
        (offersNoEvent_forward _ _ _)
    · exact hsame
  · split <;> exact hsame
  · exact hsame

theorem callFrameHandler_traffic (n : CBUSbase) (msg : CANFrame) :
    TellsNothing n (n.callFrameHandler msg).2 ∧ OffersNoEvent n (n.callFrameHandler msg).2 := by
  unfold callFrameHandler
  split
  · split_ifs
    · exact ⟨n.tellsNothing_emit rfl, n.offersNoEvent_emit nofun⟩
    · exact ⟨.refl n, offersNoEvent_of_trace rfl⟩
  · exact ⟨.refl n, offersNoEvent_of_trace rfl⟩

/-- The application is told of an event that is in the table, if it has registered a handler. -/
def tells (n : CBUSbase) (e : AppEvent) : Bool :=
  n.moduleConfig.findExistingEvent e.node e.event < n.moduleConfig.eeMaxEvents ∧
    (n.eventHandler = true ∨ n.eventHandlerEx = true)

theorem parseCBUSEvent_traffic (n : CBUSbase) (msg : CANFrame) :
    toldEvents (n.parseCBUSEvent msg).2.port.trace = toldEvents n.port.trace ++
        (if n.tells (appEvent msg) then [appEvent msg] else []) ∧
      OffersNoEvent n (n.parseCBUSEvent msg).2 := by
  have htrace := (n.parseCBUSEvent_notified msg).2
  have hnotes : toldEvents (n.notifications (n.moduleConfig.findExistingEvent (eventKey msg).1
      (eventKey msg).2) msg (isOnEvent msg)) =
        (if n.tells (appEvent msg) then [appEvent msg] else []) ∧
      CBUSPicoLib.transmittedFrames (n.notifications (n.moduleConfig.findExistingEvent (eventKey msg).1
        (eventKey msg).2) msg (isOnEvent msg)) = [] := by
    unfold notifications tells
    by_cases hfind : n.moduleConfig.findExistingEvent (eventKey msg).1 (eventKey msg).2 <
        n.moduleConfig.eeMaxEvents
    · by_cases hh : n.eventHandler = true
      · simp [toldEvents, CBUSPicoLib.transmittedFrames, Effect.told, appEvent, hfind, hh]
      · by_cases hx : n.eventHandlerEx = true
        · simp [toldEvents, CBUSPicoLib.transmittedFrames, Effect.told, appEvent, hfind, hh, hx]
        · simp [toldEvents, CBUSPicoLib.transmittedFrames, appEvent, hfind, hh, hx]
    · simp [toldEvents, CBUSPicoLib.transmittedFrames, appEvent, hfind]
  constructor
  · rw [htrace, toldEvents_append, hnotes.1]
  · apply offersNoEvent_of_trace
    rw [htrace, transmittedFrames_append, hnotes.2, List.append_nil]

theorem offersNoEvent_parseCBUSMsg (n : CBUSbase) (msg : CANFrame) :
    OffersNoEvent n (n.parseCBUSMsg msg).2 := by
  unfold parseCBUSMsg
  split_ifs
  · exact (n.parseCBUSEvent_traffic msg).2
  · exact (n.speaks_parseFLiMCmd msg).1.offersNoEvent fun _ => eventOf_of_noEvent

/-- The application is told of the event of a frame with data, if it is one of the table. -/
theorem told_parseCBUSMsg (n : CBUSbase) {msg : CANFrame} (hlen : 0 < msg.len) :
    toldEvents (n.parseCBUSMsg msg).2.port.trace =
      toldEvents n.port.trace ++ ((eventOf msg).filter n.tells).toList := by
  unfold parseCBUSMsg eventOf
  by_cases hevent : isEvent msg = true
  · rw [if_pos hevent, if_pos ⟨hlen, hevent⟩, (n.parseCBUSEvent_traffic msg).1, Option.filter_some]
    split_ifs <;> rfl
  · rw [if_neg hevent, if_neg fun h => hevent h.2, n.tellsNothing_parseFLiMCmd msg]
    exact (List.append_nil _).symm

theorem offersNoEvent_handleFrame (n : CBUSbase) (msg : CANFrame) (pulseTime : UInt32) :
    OffersNoEvent n (n.handleFrame msg pulseTime) := by
  let k := { n with bThisNN := n.isThisNN msg }
  have hk : OffersNoEvent n k := offersNoEvent_of_trace rfl
  let k' := (k.callFrameHandler msg).2.emit (.parseCBUSMsg (k.callFrameHandler msg).1)
  have hcall : OffersNoEvent k k' := (k.callFrameHandler_traffic msg).2.trans
    (offersNoEvent_of_trace (by simp [k', emit, CBUSPicoLib.transmittedFrames]))
  have hparse := (hk.trans hcall).trans
    (k'.offersNoEvent_parseCBUSMsg (k.callFrameHandler msg).1)
  unfold handleFrame
  dsimp only
  split_ifs <;> exact hparse

theorem told_handleFrame (n : CBUSbase) {msg : CANFrame} (hlen : 0 < msg.len)
    (hframe : (n.callFrameHandler msg).1 = msg) (pulseTime : UInt32) :
    toldEvents (n.handleFrame msg pulseTime).port.trace =
      toldEvents n.port.trace ++ ((eventOf msg).filter n.tells).toList := by
  let k := { n with bThisNN := n.isThisNN msg }
  obtain ⟨port, hcall⟩ := k.callFrameHandler_frame msg
  have hsame : (k.callFrameHandler msg).1 = (n.callFrameHandler msg).1 :=
    callFrameHandler_congr (m := k) (n := n) rfl rfl msg
  let k' := (k.callFrameHandler msg).2.emit (.parseCBUSMsg msg)
  have htells : k'.tells = n.tells := by
    unfold k'
    rw [hcall]
    rfl
  have htold : TellsNothing n k' := by
    have hcalled : TellsNothing k (k.callFrameHandler msg).2 := (k.callFrameHandler_traffic msg).1
    exact hcalled.trans (tellsNothing_emit _ rfl)
  have hparse := k'.told_parseCBUSMsg hlen
  rw [htells, htold] at hparse
  rw [← hparse]
  unfold handleFrame
  dsimp only
  rw [hsame, hframe]
  split_ifs <;> rfl

theorem offersNoEvent_iterate (n : CBUSbase) (i : FrameInput) : OffersNoEvent n (n.iterate i) := by
  have harrive : OffersNoEvent n (n.arrive i) := offersNoEvent_of_trace rfl
  have htake := harrive.trans ((n.arrive i).offersNoEvent_takeFrame i.canSend)
  unfold iterate
  dsimp only
  split_ifs
  · split
    · exact htake.trans (offersNoEvent_handleFrame _ _ _)
    · exact htake
  · exact harrive

theorem transmitted_sendMessage (n : CBUSbase) (msg : CANFrame) (rtr ext : Bool)
    (priority : UInt8) :
    CBUSPicoLib.transmittedFrames (n.sendMessage msg rtr ext priority).2.2.port.trace =
      CBUSPicoLib.transmittedFrames n.port.trace ++
        if (n.sendMessage msg rtr ext priority).1 then [n.sendHeader msg rtr ext priority] else [] := by
  have hforward : ∀ k : CBUSbase, CBUSPicoLib.transmittedFrames (k.forward msg false).port.trace =
      CBUSPicoLib.transmittedFrames k.port.trace := by
    intro k
    unfold forward
    split_ifs
    · simp [emit, CBUSPicoLib.transmittedFrames]
    · rfl
  have hcall : CBUSPicoLib.transmittedFrames (n.emit (.sendMessage msg)).port.trace =
      CBUSPicoLib.transmittedFrames n.port.trace := by
    simp [emit, CBUSPicoLib.transmittedFrames]
  cases htx : n.port.tx 0 with
  | nil =>
    have hheader : sendHeader ((n.emit (.sendMessage msg)).forward msg false) msg rtr ext priority =
        n.sendHeader msg rtr ext priority := by
      have hconfig : ((n.emit (.sendMessage msg)).forward msg false).moduleConfig = n.moduleConfig :=
        (n.replies_send msg).moduleConfig
      unfold sendHeader makeHeader
      rw [hconfig]
    have hemit : (n.emit (.sendMessage msg)).port.tx 0 = [] := htx
    simp only [sendMessage, hemit, hheader, if_true]
    rw [emit, transmittedFrames_append, hforward, hcall]
    rfl
  | cons r rest =>
    have hemit : (n.emit (.sendMessage msg)).port.tx 0 = r :: rest := htx
    cases r with
    | notOkToSend =>
      simp only [sendMessage, hemit, Bool.false_eq_true, if_false, List.append_nil]
      exact hcall
    | sendFailed =>
      simp only [sendMessage, hemit, Bool.false_eq_true, if_false, List.append_nil]
      exact (hforward _).trans hcall

/-- A frame as receivers expect one that carries an event. -/
structure Standard (f : CANFrame) : Prop where
  id : f.id.toNat < 2048
  len : 5 ≤ f.len.toNat ∧ f.len.toNat ≤ 8

/-- What an application puts on the bus with `sendEventWithData`: the event, if the call succeeds. -/
theorem sendEventWithData_offers (n : CBUSbase) (micros : UInt32) (eventNode eventNum : UInt16)
    (onEvent : Bool) {dataLen : UInt8} (d1 d2 d3 : UInt8) (hlen : dataLen ≤ 3) :
    let r := n.sendEventWithData micros eventNode eventNum onEvent dataLen d1 d2 d3
    ∃ fs, CBUSPicoLib.transmittedFrames r.2.2.port.trace =
        CBUSPicoLib.transmittedFrames n.port.trace ++ fs ∧
      (∀ f ∈ fs, Standard f) ∧ fs.filterMap eventOf =
        if r.1 then [⟨eventNode, eventNum, onEvent, [d1, d2, d3].take dataLen.toNat⟩] else [] := by
  intro r
  let frame := (n.eventFrame eventNode eventNum onEvent dataLen d1 d2 d3).1
  let node := (n.eventFrame eventNode eventNum onEvent dataLen d1 d2 d3).2
  -- the module after the copy has been queued, if there is a queue
  obtain ⟨start, hr, hconfig, htrace⟩ : ∃ start : CBUSbase,
      r = start.sendMessage (withNode frame node.toNat) ∧ start.moduleConfig = n.moduleConfig ∧
        CBUSPicoLib.transmittedFrames start.port.trace =
          CBUSPicoLib.transmittedFrames n.port.trace := by
    cases hcoe : n.coeObj with
    | none =>
      refine ⟨n, ?_, rfl, rfl⟩
      simp only [r, sendEventWithData, hcoe]
      rfl
    | some coe =>
      refine ⟨{ n with coeObj := some (coe.put frame micros) }.emit (.coePut frame), ?_, rfl, ?_⟩
      · simp only [r, sendEventWithData, hcoe]
        rfl
      · simp [emit, CBUSPicoLib.transmittedFrames]
  let tx := start.sendHeader (withNode frame node.toNat) false false defaultPriority
  have hoffers := start.transmitted_sendMessage (withNode frame node.toNat) false false
    defaultPriority
  rw [← hr, htrace] at hoffers
  have htxlen : tx.len = 5 + dataLen := rfl
  have hle : dataLen.toNat ≤ 3 := UInt8.le_iff_toNat_le.mp hlen
  have hnat : tx.len.toNat = 5 + dataLen.toNat := by
    have hfive : (5 : UInt8).toNat = 5 := rfl
    rw [htxlen, UInt8.toNat_add, hfive]
    omega
  have hstandard : Standard tx := by
    refine ⟨?_, by omega, by omega⟩
    have hp : defaultPriority.toNat < 16 := by decide
    have hid := start.toNat_makeHeader (withNode frame node.toNat) hp
    change (start.makeHeader (withNode frame node.toNat) defaultPriority).id.toNat < 2048
    have := Nat.mod_lt start.moduleConfig.canId.toNat (show 0 < 128 by decide)
    omega
  have hdata : tx.data = (withNode frame node.toNat).data := rfl
  obtain ⟨hevent, hkey, hon⟩ := n.eventFrame_key eventNode eventNum onEvent d1 d2 d3 hlen hdata
  have happ : eventOf tx =
      some ⟨eventNode, eventNum, onEvent, [d1, d2, d3].take dataLen.toNat⟩ := by
    have hpos : 0 < tx.len := UInt8.lt_iff_toNat_lt.mpr (by rw [hnat]; simp)
    have hbytes : tx.data.toList.drop 5 = [d1, d2, d3] := rfl
    unfold eventOf
    rw [if_pos ⟨hpos, hevent⟩]
    unfold appEvent
    rw [hkey, hon, hbytes, hnat, Nat.add_sub_cancel_left]
  refine ⟨_, hoffers, ?_, ?_⟩
  · intro f hf
    split_ifs at hf
    · rw [List.mem_singleton.mp hf]
      exact hstandard
    · exact absurd hf List.not_mem_nil
  · split_ifs
    · exact List.filterMap_cons_some happ
    · rfl

end CBUSbase
end CBUSPicoLib
