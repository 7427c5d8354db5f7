import CBUSPicoLib.Can.CircularBuffer
import CBUSPicoLib.Config.Persistence
import CBUSPicoLib.Node.SwitchAndLeds

/-!
# The module object and how it sends

`CBUSbase` together with the parts of `CBUSACAN2040` it calls. What the module
does to the outside (frames given to the CAN controller and to GridConnect
clients, user callbacks, frames passed to the long message object) is recorded
in `trace`, oldest first. Whether a send succeeds is decided by the CAN
controller: `tx k` lists the refusals before the `k`-th accepted send.
-/

namespace CBUSPicoLib

/-- The FLiM state machine of the module. -/
inductive FsState
  | fsSLiM
  | fsFLiM
  | fsPressed
  | fsFlashing
  | fsFLiMSetup
  | fsPressedSetup
  | fsUnknown
  deriving DecidableEq, Repr

/-- Why `CBUSACAN2040::sendMessage` returns false: no space in the controller,
found before or after the call of `sendCANFrame`. -/
inductive Refusal
  | notOkToSend
  | sendFailed
  deriving DecidableEq, Repr

/-- What is observed of the module: the frames it takes from its receive queues and those
it hands to `parseCBUSMsg`, and the calls that leave the module object. -/
inductive Effect
  | taken (msg : CANFrame)
  | parseCBUSMsg (msg : CANFrame)
  | coePut (msg : CANFrame)
  | sendMessage (msg : CANFrame)
  | sendCANFrame (msg : CANFrame) (bMore : Bool)
  | transmitted (msg : CANFrame)
  | frameHandler (msg : CANFrame)
  | eventHandler (index : UInt8) (msg : CANFrame)
  | eventHandlerEx (index : UInt8) (msg : CANFrame) (ison : Bool) (evval : UInt8)
  | actUponNVchange (nvIndex oldValue nvValue : UInt8)
  | processReceivedMessageFragment (msg : CANFrame)
  deriving DecidableEq, Repr

/-- The consume-own-events object; no buffer if its allocation failed. -/
structure CBUScoe where
  coeBuff : Option CBUSCircularBuffer

def CBUScoe.put (coe : CBUScoe) (msg : CANFrame) (micros : UInt32) : CBUScoe :=
  { coe with coeBuff := coe.coeBuff.map (·.put msg micros) }

/-- The connection to the outside. -/
structure Port where
  tx : ℕ → List Refusal := fun _ => []
  trace : List Effect := []

/-- The module object; null pointers are `none`, callbacks without results are
recorded in the trace only. -/
structure CBUSbase where
  moduleConfig : CBUSConfig
  moduleParams : Vector UInt8 21
  moduleName : Vector UInt8 7
  eventHandler : Bool := false
  eventHandlerEx : Bool := false
  frameHandler : Option (CANFrame → CANFrame) := none
  opcodes : List UInt8 := []
  validateNV : UInt8 → UInt8 → UInt8 → Bool := fun _ _ _ => true
  enumResponses : Vector UInt8 16 := Vector.replicate 16 0
  bLearn : Bool := false
  bThisNN : Bool := false
  nodeNumber : UInt16 := 0
  eventNumber : UInt16 := 0
  enumStartTime : UInt32 := 0
  bEnumerationRequired : Bool := false
  bEnumerationInProgress : Bool := false
  bResultRequired : Bool := false
  flimState : FsState := .fsUnknown
  prevFlimState : FsState := .fsUnknown
  ledGrn : CBUSLED := {}
  ledYlw : CBUSLED := {}
  sw : CBUSSwitch := {}
  longMessageHandler : Bool := false
  gcServer : Option CBUSCircularBuffer := none
  coeObj : Option CBUScoe := none
  rxBuffer : Option CBUSCircularBuffer := none
  port : Port := {}

namespace CBUSbase

def emit (n : CBUSbase) (e : Effect) : CBUSbase :=
  { n with port := { n.port with trace := n.port.trace ++ [e] } }

def makeHeader (n : CBUSbase) (msg : CANFrame) (priority : UInt8) : CANFrame :=
  makeHeaderImpl msg n.moduleConfig.canId priority

/-- The CAN ID word for the controller, with the RTR and EXT bits of the call. -/
def sendHeader (n : CBUSbase) (msg : CANFrame) (rtr ext : Bool) (priority : UInt8) : CANFrame :=
  let msg := n.makeHeader msg priority
  let msg := if rtr then { msg with id := msg.id ||| 0x40000000 } else msg
  if ext then { msg with id := msg.id ||| 0x80000000 } else msg

/-- Call `sendCANFrame` of the GridConnect server, if there is one. -/
def forward (n : CBUSbase) (msg : CANFrame) (bMore : Bool) : CBUSbase :=
  if n.gcServer.isSome then n.emit (.sendCANFrame msg bMore) else n

/-- `CBUSACAN2040::sendMessage`: the result, the frame as the call leaves it
behind, and the module. -/
def sendMessage (n : CBUSbase) (msg : CANFrame) (rtr : Bool := false) (ext : Bool := false)
    (priority : UInt8 := defaultPriority) : Bool × CANFrame × CBUSbase :=
  let n := n.emit (.sendMessage msg)
  let retry rest (n : CBUSbase) : CBUSbase :=
    { n with port := { n.port with tx := fun k => if k = 0 then rest else n.port.tx k } }
  match n.port.tx 0 with
  | .notOkToSend :: rest => (false, msg, retry rest n)
  | .sendFailed :: rest =>
    (false, n.sendHeader msg rtr ext priority, retry rest (n.forward msg false))
  | [] =>
    let n := n.forward msg false
    let msg := n.sendHeader msg rtr ext priority
    let n := { n with port := { n.port with tx := fun k => n.port.tx (k + 1) } }
    (true, msg, n.emit (.transmitted msg))

def withNode (msg : CANFrame) (nodeId : ℕ) : CANFrame :=
  { msg with data := (msg.data.setIfInBounds 1 (highByte nodeId)).setIfInBounds 2 (lowByte nodeId) }

def sendMsgMyNN (n : CBUSbase) (frame : CANFrame) : Bool × CANFrame × CBUSbase :=
  n.sendMessage (withNode frame n.moduleConfig.nodeNum.toNat)

def sendMsgNN (n : CBUSbase) (frame : CANFrame) (nodeId : UInt16) : Bool × CANFrame × CBUSbase :=
  n.sendMessage (withNode frame nodeId.toNat)

def sendSingleOpc (n : CBUSbase) (opc : UInt8) : Bool × CANFrame × CBUSbase :=
  n.sendMessage {
    id := n.moduleConfig.canId.toUInt32
    len := 1
    data := #v[opc, 0, 0, 0, 0, 0, 0, 0] }

/-- Send opcode plus our node number and up to five further bytes. -/
def sendOpcMyNN (n : CBUSbase) (opc : UInt8) (dataLen : UInt8 := 0) (d1 : UInt8 := 0)
    (d2 : UInt8 := 0) (d3 : UInt8 := 0) (d4 : UInt8 := 0) (d5 : UInt8 := 0) : CBUSbase :=
  (n.sendMsgMyNN {
    id := n.moduleConfig.canId.toUInt32
    len := 3 + dataLen
    data := #v[opc, 0, 0, d1, d2, d3, d4, d5] }).2.2

/-- Send opcode plus a node number and up to five further bytes. -/
def sendOpcNN (n : CBUSbase) (opc : UInt8) (nodeId : UInt16) (dataLen : UInt8 := 0)
    (d1 : UInt8 := 0) (d2 : UInt8 := 0) (d3 : UInt8 := 0) (d4 : UInt8 := 0) (d5 : UInt8 := 0) :
    Bool × CANFrame × CBUSbase :=
  n.sendMsgNN {
    id := n.moduleConfig.canId.toUInt32
    len := 3 + dataLen
    data := #v[opc, 0, 0, d1, d2, d3, d4, d5] } nodeId

def sendWRACK (n : CBUSbase) : CBUSbase := n.sendOpcMyNN opcWrack

def sendCMDERR (n : CBUSbase) (cerrno : UInt8) : CBUSbase := n.sendOpcMyNN opcCmderr 1 cerrno

/-- The frame that `sendEventWithData` fills in, and the node number it then
sends it with: for a short event our own. -/
def eventFrame (n : CBUSbase) (eventNode eventNum : UInt16) (onEvent : Bool)
    (dataLen d1 d2 d3 : UInt8) : CANFrame × UInt16 :=
  let opc := opcAcon
  let (opc, eventNode) :=
    if eventNode = 0 then (opc ||| 0x08, UInt16.ofNat n.moduleConfig.nodeNum.toNat)
    else (opc, eventNode)
  let opc := if onEvent then opc else opc ||| 0x01
  let opc := if 0 < dataLen then opc ||| UInt8.ofNat (dataLen.toNat <<< 5) else opc
  ({ id := n.moduleConfig.canId.toUInt32
     len := 5 + dataLen
     data := #v[opc, 0, 0, highByte eventNum.toNat, lowByte eventNum.toNat, d1, d2, d3] }, eventNode)

/-- Send a CBUS event with optional data bytes; a copy of the frame goes to the
consume-own-events queue. -/
def sendEventWithData (n : CBUSbase) (micros : UInt32) (eventNode eventNum : UInt16)
    (onEvent : Bool) (dataLen : UInt8 := 0) (d1 : UInt8 := 0) (d2 : UInt8 := 0) (d3 : UInt8 := 0) :
    Bool × CANFrame × CBUSbase :=
  let (frame, eventNode) := n.eventFrame eventNode eventNum onEvent dataLen d1 d2 d3
  let n :=
    match n.coeObj with
    | some coe => { n with coeObj := some (coe.put frame micros) }.emit (.coePut frame)
    | none => n
  n.sendMsgNN frame eventNode

end CBUSbase
end CBUSPicoLib
