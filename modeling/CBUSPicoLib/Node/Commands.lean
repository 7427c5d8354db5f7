import CBUSPicoLib.Node.Events

/-!
# The FLiM commands

One function for each command processor, then `parseFLiMCmd`, whose four
switches are gated by learn mode, by the address of the frame and by the FLiM
state; a later switch is reached only if no earlier one has processed the frame.
-/

namespace CBUSPicoLib

def parNparams : ℕ := 0
def parManu : ℕ := 1
def parMinver : ℕ := 2
def parMtyp : ℕ := 3
def parEvnum : ℕ := 5
def parNvnum : ℕ := 6
def parMajver : ℕ := 7
def parFlags : ℕ := 8

def pfFLiM : UInt8 := 4
def pfLrn : UInt8 := 32

/-- What the LEDs show. -/
inductive LedMode
  | modeSlim
  | modeFlim
  | modeChanging
  deriving DecidableEq, Repr

namespace CBUSbase

def indicateModeOnLEDs (n : CBUSbase) : LedMode → CBUSbase
  | .modeFlim => { n with ledYlw := n.ledYlw.on, ledGrn := n.ledGrn.off }
  | .modeSlim => { n with ledYlw := n.ledYlw.off, ledGrn := n.ledGrn.on }
  | .modeChanging => { n with
      ledYlw := n.ledYlw.blink
      ledGrn := if n.moduleConfig.bFLiM then n.ledGrn.off else n.ledGrn.on }

def indicateFLiMMode (n : CBUSbase) (bFLiM : Bool) : CBUSbase :=
  let n := { n with flimState := if bFLiM then .fsFLiM else .fsSLiM }
  n.indicateModeOnLEDs (if bFLiM then .modeFlim else .modeSlim)

def setSLiM (n : CBUSbase) : CBUSbase :=
  let c := n.moduleConfig.setNodeNum 0
  let c := c.setFLiM false
  let c := (c.setCANID 1).2
  { n with moduleConfig := c }.indicateFLiMMode c.bFLiM

def initFLiM (n : CBUSbase) : CBUSbase := (n.indicateModeOnLEDs .modeChanging).sendOpcMyNN opcRqnn

def revertSLiM (n : CBUSbase) : CBUSbase := (n.sendOpcMyNN opcNnrel).setSLiM

def doEnum (n : CBUSbase) (bSendResult : Bool) : CBUSbase :=
  let n := { n with bResultRequired := bSendResult }
  if !n.bEnumerationInProgress then { n with bEnumerationRequired := true } else n

def param (n : CBUSbase) (index : ℕ) : UInt8 := (n.moduleParams[index]?).getD 0

def getParFlags (n : CBUSbase) : UInt8 :=
  if n.bLearn then pfLrn ||| pfFLiM ||| n.param parFlags
  else if n.moduleConfig.bFLiM then pfFLiM ||| n.param parFlags
  else n.param parFlags

def qnnRespond (n : CBUSbase) : CBUSbase :=
  n.sendOpcMyNN opcPnn 3 (n.param parManu) (n.param parMtyp) n.getParFlags

def doRqnpn (n : CBUSbase) (index : UInt8) : CBUSbase :=
  if index ≤ n.param parNparams then
    let val := if index.toNat = parFlags then n.getParFlags else n.param index.toNat
    n.sendOpcMyNN opcParan 2 index val
  else n.sendCMDERR cmderrInvParamIdx

def doNvrd (n : CBUSbase) (nvIndex : UInt8) : CBUSbase :=
  if nvIndex = 0 ∨ n.moduleConfig.eeNumNvs < nvIndex then n.sendCMDERR cmderrInvNvIdx
  else n.sendOpcMyNN opcNvans 2 nvIndex (n.moduleConfig.readNV nvIndex)

/-- Set a node variable. The bound check of the source is
`(NVindex == 0) > EE_NUM_NVS`. -/
def doNvset (n : CBUSbase) (nvIndex nvValue : UInt8) : CBUSbase :=
  if (if nvIndex = 0 then 1 else 0) > n.moduleConfig.eeNumNvs then n.sendCMDERR cmderrInvNvIdx
  else
    let oldValue := n.moduleConfig.readNV nvIndex
    if n.validateNV nvIndex oldValue nvValue then
      let n := { n with moduleConfig := n.moduleConfig.writeNV nvIndex nvValue }
      let n := n.emit (.actUponNVchange nvIndex oldValue nvValue)
      n.sendWRACK
    else n.sendCMDERR cmderrInvNvValue

def doRqnp (n : CBUSbase) : CBUSbase :=
  (n.sendMessage {
    len := 8
    data := #v[opcParams, n.param parManu, n.param parMinver, n.param parMtyp, n.param parEvnum,
      n.param parEvnum, n.param parNvnum, n.param parMajver] }).2.2

def doRqmn (n : CBUSbase) : CBUSbase :=
  let name := n.moduleName
  (n.sendMessage {
    len := 8
    data := #v[opcName, name.get 0, name.get 1, name.get 2, name.get 3, name.get 4, name.get 5,
      name.get 6] }).2.2

/-- Set and save the assigned node number; the module is now in FLiM. -/
def doSnn (n : CBUSbase) : CBUSbase :=
  let c := n.moduleConfig.setNodeNum n.nodeNumber.toUInt32
  let c := c.setFLiM true
  let n := { n with moduleConfig := c }.indicateFLiMMode c.bFLiM
  n.sendOpcMyNN opcNnack

def doNnclr (n : CBUSbase) : CBUSbase :=
  if n.bLearn then
    { n with moduleConfig := n.moduleConfig.clearEventsEEPROM.clearEvHashTable }.sendWRACK
  else n.sendCMDERR cmderrNotLrn

def doEvlrn (n : CBUSbase) (evNum evVal : UInt8) : CBUSbase :=
  if evNum = 0 then n.sendCMDERR cmderrInvNvIdx
  else
    let index := n.moduleConfig.learnSlot n.nodeNumber n.eventNumber
    if index < n.moduleConfig.eeMaxEvents then
      { n with moduleConfig :=
          n.moduleConfig.learnEvent index ⟨n.nodeNumber, n.eventNumber⟩ evNum evVal }.sendWRACK
    else n.sendCMDERR cmderrInvNvIdx

def doEvuln (n : CBUSbase) : CBUSbase :=
  let index := n.moduleConfig.findExistingEvent n.nodeNumber n.eventNumber
  if index < n.moduleConfig.eeMaxEvents then
    { n with moduleConfig := (n.moduleConfig.clearEventEEPROM index).updateEvHashEntry index }
  else n

def doReval (n : CBUSbase) (enNum evNum : UInt8) : CBUSbase :=
  if n.moduleConfig.eeNumEvs < evNum then n.sendCMDERR cmderrInvEvIdx
  else if n.moduleConfig.getEvTableEntry enNum ≠ 0 then
    n.sendOpcMyNN opcNeval 3 enNum evNum (n.moduleConfig.getEventEVval enNum evNum)
  else n.sendCMDERR cmderrInvalidEvent

/-- Read an event variable in learn mode; the event number is narrowed to a slot
index. -/
def doReqev (n : CBUSbase) (evNum : UInt8) : CBUSbase :=
  if n.moduleConfig.eeNumEvs < evNum then n.sendCMDERR cmderrInvEvIdx
  else
    let index := n.eventNumber.toUInt8
    if n.moduleConfig.getEvTableEntry index ≠ 0 then
      n.sendOpcMyNN opcNeval 3 index evNum (n.moduleConfig.getEventEVval index evNum)
    else n.sendCMDERR cmderrInvalidEvent

def doNnevn (n : CBUSbase) : CBUSbase :=
  let freeSlots := (List.range n.moduleConfig.eeMaxEvents.toNat).countP fun i =>
    n.moduleConfig.getEvTableEntry (UInt8.ofNat i) == 0
  n.sendOpcMyNN opcEvnlf 1 (UInt8.ofNat freeSlots)

/-- `while (!sendMessage(msg))`, with one call for each pending refusal and the
accepted one. -/
def sendBusyWaiting (n : CBUSbase) (msg : CANFrame) : ℕ → CANFrame × CBUSbase
  | 0 => (n.sendMessage msg).2
  | k + 1 =>
    let (ok, msg, n) := n.sendMessage msg
    if ok then (msg, n) else n.sendBusyWaiting msg k

def enrspFrame (msg : CANFrame) (evInfo : EventInfo) (index : UInt8) : CANFrame :=
  { msg with data := ((((msg.data.setIfInBounds 3 (highByte evInfo.nodeNumber.toNat)).setIfInBounds 4
      (lowByte evInfo.nodeNumber.toNat)).setIfInBounds 5
      (highByte evInfo.eventNumber.toNat)).setIfInBounds 6
      (lowByte evInfo.eventNumber.toNat)).setIfInBounds 7 index }

/-- The part of an `ENRSP` frame that is the same for every event. -/
def enrspHeader (n : CBUSbase) : CANFrame where
  len := 8
  data := #v[opcEnrsp, highByte n.nodeNumber.toNat, lowByte n.nodeNumber.toNat, 0, 0, 0, 0, 0]

def doNerd (n : CBUSbase) : CBUSbase :=
  ((List.range n.moduleConfig.eeMaxEvents.toNat).foldl (fun (msg, n) i =>
    let index := UInt8.ofNat i
    if n.moduleConfig.getEvTableEntry index ≠ 0 then
      n.sendBusyWaiting (enrspFrame msg (n.moduleConfig.readEvent index) index)
        (n.port.tx 0).length
    else (msg, n)) (n.enrspHeader, n)).2

def doNenrd (n : CBUSbase) (index : UInt8) : CBUSbase :=
  if n.moduleConfig.getEvTableEntry index = 0 then n.sendCMDERR cmderrInvalidEvent
  else (n.sendMessage (enrspFrame n.enrspHeader (n.moduleConfig.readEvent index) index)).2.2

def doRqevn (n : CBUSbase) : CBUSbase := n.sendOpcMyNN opcNumev 1 n.moduleConfig.numEvents

def learnCmd (n : CBUSbase) (msg : CANFrame) : Bool × CBUSbase :=
  let opc := msg.data.get 0
  if opc = opcNnlrn then
    -- for another node: falls through to the release from learn mode
    if n.bThisNN then (true, n) else (true, { n with bLearn := false })
  else if opc = opcNnuln then (true, { n with bLearn := false })
  else if opc = opcNnclr then (true, n.doNnclr)
  else if opc = opcEvuln then (true, n.doEvuln)
  else if opc = opcEvlrn then (true, n.doEvlrn (msg.data.get 5) (msg.data.get 6))
  else if opc = opcEvlrni then (true, n.doEvlrn (msg.data.get 6) (msg.data.get 7))
  else if opc = opcReqev then (true, n.doReqev (msg.data.get 5))
  else (false, n)

def thisNNCmd (n : CBUSbase) (msg : CANFrame) : Bool × CBUSbase :=
  let opc := msg.data.get 0
  if opc = opcRqnpn then (true, n.doRqnpn (msg.data.get 3))
  else if opc = opcNnlrn then
    (true, if n.moduleConfig.bFLiM then { n with bLearn := true } else n)
  else if opc = opcNnevn then (true, n.doNnevn)
  else if opc = opcNerd then (true, n.doNerd)
  else if opc = opcNenrd then (true, n.doNenrd (msg.data.get 3))
  else if opc = opcRqevn then (true, n.doRqevn)
  else if opc = opcNvrd then (true, n.doNvrd (msg.data.get 3))
  else if opc = opcNvset then (true, n.doNvset (msg.data.get 3) (msg.data.get 4))
  else if opc = opcReval then (true, n.doReval (msg.data.get 3) (msg.data.get 4))
  else if opc = opcCanid then
    let (ok, c) := n.moduleConfig.setCANID (msg.data.get 3)
    let n := { n with moduleConfig := c }
    (true, if ok then n else n.sendCMDERR cmderrInvalidEvent)
  else if opc = opcEnum then (true, n.doEnum true)
  else (false, n)

/-- The commands not sent specifically to us that still need action. -/
def anyNNCmd (n : CBUSbase) (msg : CANFrame) : Bool × CBUSbase :=
  if msg.data.get 0 = opcQnn then (true, n.qnnRespond) else (false, n)

def setupCmd (n : CBUSbase) (msg : CANFrame) : Bool × CBUSbase :=
  let opc := msg.data.get 0
  if opc = opcRqnp then (true, n.doRqnp)
  else if opc = opcRqmn then (true, n.doRqmn)
  else if opc = opcSnn then (true, n.doSnn)
  else (false, n)

/-- Cache node number and event number of a frame for the command processors. -/
def cacheNumbers (n : CBUSbase) (msg : CANFrame) : CBUSbase :=
  { n with
    nodeNumber := bytesToWord (msg.data.get 1) (msg.data.get 2)
    eventNumber := bytesToWord (msg.data.get 3) (msg.data.get 4) }

/-- One of the four switches: entered unless the command has been processed, if
its gate is open. -/
def tryCmd (gate : CBUSbase → Bool) (cmd : CBUSbase → Bool × CBUSbase) (r : Bool × CBUSbase) :
    Bool × CBUSbase :=
  if r.1 then r else if gate r.2 then cmd r.2 else r

def parseFLiMCmd (n : CBUSbase) (msg : CANFrame) : Bool × CBUSbase :=
  (false, n.cacheNumbers msg)
    |> tryCmd (·.bLearn) (·.learnCmd msg)
    |> tryCmd (·.bThisNN) (·.thisNNCmd msg)
    |> tryCmd (fun _ => true) (·.anyNNCmd msg)
    |> tryCmd (·.flimState = .fsFLiMSetup) (·.setupCmd msg)

def parseCBUSMsg (n : CBUSbase) (msg : CANFrame) : Bool × CBUSbase :=
  if isEvent msg then n.parseCBUSEvent msg else n.parseFLiMCmd msg

/-- `process` determines if a frame is directed at this node number. -/
def isThisNN (n : CBUSbase) (msg : CANFrame) : Bool :=
  (2 : UInt8) ≤ msg.data.get 0 >>> 5 ∧
    (bytesToWord (msg.data.get 1) (msg.data.get 2)).toUInt32 = n.moduleConfig.nodeNum

/-- A frame handed to `parseCBUSMsg` once `process` has computed `m_bThisNN`. -/
def receiveMsg (n : CBUSbase) (msg : CANFrame) : CBUSbase :=
  ({ n with bThisNN := n.isThisNN msg }.parseCBUSMsg msg).2

end CBUSbase
end CBUSPicoLib
