import CBUSPicoLib.Node.Base
import CBUSPicoLib.Config.FactoryReset

/-!
# Events: consuming them, and consuming the module's own ones

`parseCBUSEvent` looks an event up by the node and event number of the frame.
With a consume-own-events object the module also consumes what it sends, but the
copy for the queue is taken before `sendMsgNN` has put the node number in.
-/

namespace CBUSPicoLib

/-- The opcode bits common to all events, those clear in all of them, and the
bit of the short ones. -/
def eventSetMask : UInt8 := 0b10010000
def eventClrMask : UInt8 := 0b00000110
def eventShortMask : UInt8 := 0b00001000

def isEvent (msg : CANFrame) : Bool :=
  msg.data.get 0 &&& eventSetMask = eventSetMask ∧ ~~~msg.data.get 0 &&& eventClrMask = eventClrMask

def eventKey (msg : CANFrame) : UInt16 × UInt16 :=
  (if msg.data.get 0 &&& eventShortMask ≠ 0 then 0
    else bytesToWord (msg.data.get 1) (msg.data.get 2),
    bytesToWord (msg.data.get 3) (msg.data.get 4))

def isOnEvent (msg : CANFrame) : Bool := msg.data.get 0 % 2 == 0

namespace CBUSbase

def parseCBUSEvent (n : CBUSbase) (msg : CANFrame) : Bool × CBUSbase :=
  let (nodeNumber, eventNumber) := eventKey msg
  let n := { n with nodeNumber, eventNumber }
  let index := n.moduleConfig.findExistingEvent n.nodeNumber n.eventNumber
  if index < n.moduleConfig.eeMaxEvents then
    if n.eventHandler then (true, n.emit (.eventHandler index msg))
    else if n.eventHandlerEx then
      (true, n.emit (.eventHandlerEx index msg (isOnEvent msg)
        (if 0 < n.moduleConfig.eeNumEvs then n.moduleConfig.getEventEVval index 1 else 0)))
    else (false, n)
  else (false, n)

theorem sendMessage_trace (n : CBUSbase) (msg : CANFrame) (rtr ext : Bool) (priority : UInt8) :
    ∃ rest, (n.sendMessage msg rtr ext priority).2.2.port.trace =
      n.port.trace ++ .sendMessage msg :: rest := by
  unfold sendMessage
  dsimp only
  split
  · exact ⟨[], rfl⟩
  · unfold forward
    split_ifs
    · exact ⟨[.sendCANFrame msg false], by simp [emit]⟩
    · exact ⟨[], rfl⟩
  · unfold forward
    split_ifs
    · exact ⟨[.sendCANFrame msg false, .transmitted (sendHeader _ msg rtr ext priority)],
        by simp [emit]; rfl⟩
    · exact ⟨[.transmitted (sendHeader _ msg rtr ext priority)], by simp [emit]; rfl⟩

theorem sendMessage_state (n : CBUSbase) (msg : CANFrame) (rtr ext : Bool) (priority : UInt8) :
    (n.sendMessage msg rtr ext priority).2.2 =
      { n with port := (n.sendMessage msg rtr ext priority).2.2.port } := by
  unfold sendMessage forward
  dsimp only
  split
  · rfl
  · split_ifs <;> rfl
  · split_ifs <;> rfl

theorem event_congr {q f : CANFrame} (h : q.data = f.data) :
    eventKey q = eventKey f ∧ isOnEvent q = isOnEvent f := by
  simp only [eventKey, isOnEvent, h, and_self]

/-- The bytes of the node number are still zero in the frame that is queued. -/
theorem eventFrame_data (n : CBUSbase) (eventNode eventNum : UInt16) (onEvent : Bool)
    (dataLen d1 d2 d3 : UInt8) :
    let frame := (n.eventFrame eventNode eventNum onEvent dataLen d1 d2 d3).1
    frame.data.get 1 = 0 ∧ frame.data.get 2 = 0 := ⟨rfl, rfl⟩

theorem eventFrame_node (n : CBUSbase) (eventNode eventNum : UInt16) (onEvent : Bool)
    (dataLen d1 d2 d3 : UInt8) :
    (n.eventFrame eventNode eventNum onEvent dataLen d1 d2 d3).2 = 0 ↔
      eventNode = 0 ∧ n.moduleConfig.nodeNum.toNat % 65536 = 0 := by
  by_cases h : eventNode = 0
  · simp only [eventFrame, h, if_true, true_and]
    rw [← UInt16.toNat_inj, UInt16.toNat_ofNat']
    rfl
  · simp [eventFrame, h]

/-- Putting a node number into two zero bytes leaves them alone only if it is zero. -/
theorem withNode_data_eq {frame : CANFrame} (h1 : frame.data.get 1 = 0) (h2 : frame.data.get 2 = 0)
    (w : UInt16) : frame.data = (withNode frame w.toNat).data ↔ w = 0 := by
  constructor
  · intro h
    have e1 : frame.data.get 1 = (withNode frame w.toNat).data.get 1 := congrArg (·.get 1) h
    have e2 : frame.data.get 2 = (withNode frame w.toNat).data.get 2 := congrArg (·.get 2) h
    have g1 : (withNode frame w.toNat).data.get 1 = highByte w.toNat := by
      change (withNode frame w.toNat).data[1] = _
      simp [withNode]
    have g2 : (withNode frame w.toNat).data.get 2 = lowByte w.toNat := by
      change (withNode frame w.toNat).data[2] = _
      simp [withNode]
    rw [← bytesToWord_high_low w, ← g1, ← g2, ← e1, ← e2, h1, h2]
    rfl
  · rintro rfl
    have hz : highByte (0 : UInt16).toNat = 0 ∧ lowByte (0 : UInt16).toNat = 0 := by decide
    change frame.data[1] = 0 at h1
    change frame.data[2] = 0 at h2
    simp only [withNode, hz.1, hz.2]
    ext i hi
    by_cases hi2 : i = 2
    · subst hi2
      simp [h2]
    · by_cases hi1 : i = 1
      · subst hi1
        simp [h1]
      · simp [Ne.symm hi1, Ne.symm hi2]

/-- The queued frame agrees with the one passed on to `sendMessage` exactly for
a short event of a module whose node number is zero. -/
theorem sendEventWithData_consumed_iff (n : CBUSbase) (coe : CBUScoe) (micros : UInt32)
    (eventNode eventNum : UInt16) (onEvent : Bool) (dataLen d1 d2 d3 : UInt8) :
    let m := { n with coeObj := some coe }.sendEventWithData micros eventNode eventNum onEvent
      dataLen d1 d2 d3
    ∃ q f rest, m.2.2.port.trace = n.port.trace ++ .coePut q :: .sendMessage f :: rest ∧
      m.2.2.coeObj = some (coe.put q micros) ∧
      ((q.len = f.len ∧ q.data = f.data ∧ eventKey q = eventKey f ∧
          isOnEvent q = isOnEvent f) ↔
        eventNode = 0 ∧ n.moduleConfig.nodeNum.toNat % 65536 = 0) := by
  intro m
  let frame := (n.eventFrame eventNode eventNum onEvent dataLen d1 d2 d3).1
  let node := (n.eventFrame eventNode eventNum onEvent dataLen d1 d2 d3).2
  let start := { n with coeObj := some (coe.put frame micros) }.emit (.coePut frame)
  obtain ⟨rest, hrest⟩ := start.sendMessage_trace (withNode frame node.toNat) false false
    defaultPriority
  have hstate := start.sendMessage_state (withNode frame node.toNat) false false defaultPriority
  refine ⟨frame, withNode frame node.toNat, rest, ?_, ?_, ?_⟩
  · exact hrest.trans (by simp [start, emit])
  · exact congrArg (·.coeObj) hstate
  · obtain ⟨h1, h2⟩ := n.eventFrame_data eventNode eventNum onEvent dataLen d1 d2 d3
    rw [← eventFrame_node n eventNode eventNum onEvent dataLen d1 d2 d3,
      ← withNode_data_eq h1 h2 node]
    constructor
    · exact fun h => h.2.1
    · exact fun h => ⟨rfl, h, event_congr h⟩

/-- The flash of a module in FLiM with CAN ID 5 and node number 0x0102. -/
def smallFlash : FlashImage :=
  ((((Memory.const 0xFF).write 0 1).write 1 5).write 2 1).write 3 2 |>.write 5 0

def smallModule : CBUSbase where
  moduleConfig := (CBUSConfig.construct CBUSConfig.smallLayout smallFlash).begin
  flimState := .fsFLiM
  moduleParams := Vector.replicate 21 0
  moduleName := Vector.replicate 7 0

theorem not_consumed_long_event :
    let m := { smallModule with coeObj := some ⟨some (CBUSCircularBuffer.construct 4)⟩
      }.sendEventWithData 0 0x0304 5 true
    ∃ q f, m.2.2.port.trace = [.coePut q, .sendMessage f, .transmitted m.2.1] ∧
      q.data ≠ f.data ∧ eventKey q = (0, 5) ∧ eventKey f = (0x0304, 5) := by
  refine ⟨_, _, rfl, ?_, ?_, ?_⟩ <;> decide +kernel

end CBUSbase
end CBUSPicoLib
