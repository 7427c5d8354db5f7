import CBUSPicoLib.Node.Process

/-!
# `CBUSLongMessage`: one long message out, one in

The class is the product of a receiving and a sending side, which share no field.
Pointers are the bytes of the object from the pointer on; reading or writing past
them, and calling a handler that was never set, is `none`. Calls of the handler
are recorded in `handled`, oldest first. `Clock` supplies the readings of
`SystemTick::GetMilli()` that one call makes.
-/

namespace CBUSPicoLib

/-- The long message status codes. -/
inductive LongMessageStatus
  | incomplete
  | complete
  | sequenceError
  | timeoutError
  | crcError
  | truncated
  deriving DecidableEq, Repr

/-- One call of the user's handler: the buffer it can see and the arguments. -/
structure HandlerCall where
  fragment : List UInt8
  fragmentLen : UInt32
  streamId : UInt8
  status : LongMessageStatus
  deriving DecidableEq, Repr

/-- The call hands the complete message over. -/
structure HandlerCall.HandsOver (call : HandlerCall) (msg : List UInt8) (streamId : UInt8) :
    Prop where
  status : call.status = .complete
  stream : call.streamId = streamId
  length : call.fragmentLen.toNat = msg.length
  fragment : call.fragment.take msg.length = msg

/-- The call passes these bytes with this status. -/
structure HandlerCall.Passes (call : HandlerCall) (status : LongMessageStatus) (streamId : UInt8)
    (bytes : List UInt8) : Prop where
  status : call.status = status
  stream : call.streamId = streamId
  length : call.fragmentLen.toNat = bytes.length
  fragment : call.fragment.take bytes.length = bytes

def memset (buffer : List UInt8) (len : UInt32) : Option (List UInt8) :=
  if len.toNat ≤ buffer.length then
    some (List.replicate len.toNat 0 ++ buffer.drop len.toNat)
  else none

def store (buffer : List UInt8) (index : UInt32) (byte : UInt8) : Option (List UInt8) :=
  if index.toNat < buffer.length then some (buffer.set index.toNat byte) else none

theorem memset_eq_some {buffer : List UInt8} {len : UInt32} (h : len.toNat ≤ buffer.length) :
    ∃ b, memset buffer len = some b ∧ b.length = buffer.length := by
  refine ⟨_, if_pos h, ?_⟩
  simp only [List.length_append, List.length_replicate, List.length_drop]
  omega

theorem store_eq_some {buffer : List UInt8} {index : UInt32} (byte : UInt8)
    (h : index.toNat < buffer.length) : store buffer index byte = some (buffer.set index.toNat byte) :=
  if_pos h

/-- The receiving side. -/
structure LongMessageReceiver where
  isReceiving : Bool := false
  receiveBuffer : List UInt8 := []
  receiveStreamId : UInt8 := 0
  streamIds : List UInt8 := []
  senderCanid : UInt8 := 0
  incomingMessageLength : UInt32 := 0
  receiveBufferLen : UInt32 := 0
  receiveBufferIndex : UInt32 := 0
  incomingMessageCrc : UInt32 := 0
  incomingBytesReceived : UInt32 := 0
  receiveTimeout : UInt32 := 5000
  expectedNextReceiveSequenceNum : UInt32 := 0
  lastFragmentReceived : UInt32 := 0
  messagehandler : Bool := false
  handled : List HandlerCall := []

/-- The sending side. -/
structure LongMessageSender where
  sendBuffer : List UInt8 := []
  sendStreamId : UInt8 := 0
  sendPriority : UInt8 := defaultPriority
  msgDelay : UInt8 := 20
  sendBufferLen : UInt32 := 0
  sendBufferIndex : UInt32 := 0
  sendSequenceNum : UInt32 := 0
  lastFragmentSent : UInt32 := 0
  cbusObject : CBUSbase

structure CBUSLongMessage extends LongMessageReceiver, LongMessageSender

namespace LongMessageReceiver

def callHandler (r : LongMessageReceiver) (call : HandlerCall) : Option LongMessageReceiver :=
  if r.messagehandler then some { r with handled := r.handled ++ [call] } else none

theorem callHandler_eq {r : LongMessageReceiver} (h : r.messagehandler = true) (call : HandlerCall) :
    r.callHandler call = some { r with handled := r.handled ++ [call] } := if_pos h

def report (r : LongMessageReceiver) (status : LongMessageStatus) : HandlerCall where
  fragment := r.receiveBuffer
  fragmentLen := r.receiveBufferIndex
  streamId := r.receiveStreamId
  status := status

def subscribe (r : LongMessageReceiver) (streamIds receiveBuffer : List UInt8)
    (receiveBuffLen : UInt32) (messageHandler : Bool) : LongMessageReceiver :=
  { r with
    streamIds := streamIds
    receiveBuffer := receiveBuffer
    receiveBufferLen := receiveBuffLen
    messagehandler := messageHandler }

def setTimeout (r : LongMessageReceiver) (timeoutInMillis : UInt32) : LongMessageReceiver :=
  { r with receiveTimeout := timeoutInMillis }

def timedOut (r : LongMessageReceiver) (now : UInt32) : Bool :=
  r.isReceiving && decide (r.receiveTimeout ≤ now - r.lastFragmentReceived)

def checkTimeout (r : LongMessageReceiver) (now : UInt32) : Option LongMessageReceiver :=
  if r.timedOut now then do
    let r ← r.callHandler (r.report .timeoutError)
    return { r with
      isReceiving := false
      incomingMessageLength := 0
      incomingBytesReceived := 0 }
  else some r

def flushBuffer (r : LongMessageReceiver) (status : LongMessageStatus) :
    Option LongMessageReceiver := do
  let r ← r.callHandler (r.report status)
  let buffer ← memset r.receiveBuffer r.receiveBufferLen
  return { r with receiveBufferIndex := 0, receiveBuffer := buffer }

/-- The payload loop, with the number of bytes of the frame still to look at. -/
def takeBytes (frame : CANFrame) : ℕ → LongMessageReceiver → Option LongMessageReceiver
  | 0, r => some r
  | k + 1, r =>
    if r.receiveBufferLen ≤ r.receiveBufferIndex then
      -- the user's buffer is full
      r.flushBuffer .incomplete
    else do
      let buffer ← store r.receiveBuffer r.receiveBufferIndex (frame.data.getD (7 - k) 0)
      let r := { r with
        receiveBuffer := buffer
        receiveBufferIndex := r.receiveBufferIndex + 1
        incomingBytesReceived := r.incomingBytesReceived + 1 }
      if r.incomingMessageLength ≤ r.incomingBytesReceived then r.flushBuffer .complete
      else takeBytes frame k r

/-- A fragment that arrives while no message is being received. -/
def receiveHeader (r : LongMessageReceiver) (frame : CANFrame) : Option LongMessageReceiver :=
  if frame.data.get 2 = 0 ∧ frame.data.get 7 = 0 ∧ frame.data.get 1 ∈ r.streamIds then do
    let buffer ← memset r.receiveBuffer r.receiveBufferLen
    return { r with
      isReceiving := true
      receiveStreamId := frame.data.get 1
      incomingMessageLength := ((frame.data.get 3).toUInt32 <<< 8) + (frame.data.get 4).toUInt32
      incomingMessageCrc := ((frame.data.get 5).toUInt32 <<< 8) + (frame.data.get 6).toUInt32
      incomingBytesReceived := 0
      receiveBuffer := buffer
      receiveBufferIndex := 0
      expectedNextReceiveSequenceNum := 0
      senderCanid := (frame.id &&& 0x7f).toUInt8 }
  else some r

def receiveFragment (r : LongMessageReceiver) (frame : CANFrame) : Option LongMessageReceiver :=
  if (frame.id &&& 0x7f) = r.senderCanid.toUInt32 then
    if frame.data.get 1 = r.receiveStreamId then
      if (frame.data.get 2).toUInt32 = r.expectedNextReceiveSequenceNum then takeBytes frame 5 r
      else do
        let r ← r.callHandler (r.report .sequenceError)
        return { r with
          incomingMessageLength := 0
          incomingBytesReceived := 0
          isReceiving := false }
    else some r
  else some r

/-- The end of `processReceivedMessageFragment`: the message has been received completely. -/
def finishMessage (r : LongMessageReceiver) : Option LongMessageReceiver :=
  if 0 < r.incomingMessageLength ∧ r.incomingMessageLength ≤ r.incomingBytesReceived then do
    let r ← if 0 < r.receiveBufferIndex then r.callHandler (r.report .complete) else some r
    return { r with
      incomingMessageLength := 0
      incomingBytesReceived := 0
      receiveBufferIndex := 0
      isReceiving := false }
  else some r

def processReceivedMessageFragment (r : LongMessageReceiver) (frame : CANFrame) (clock : Clock) :
    Option LongMessageReceiver := do
  let r := { r with lastFragmentReceived := clock 0 }
  let r ← if r.isReceiving then r.receiveFragment frame else r.receiveHeader frame
  { r with expectedNextReceiveSequenceNum := r.expectedNextReceiveSequenceNum + 1 }.finishMessage

end LongMessageReceiver

/-- The payload loop of both senders, with the number of bytes of the frame still
free: fill the frame from the message, as far as it goes. -/
def fillPayload (buffer : List UInt8) (len : UInt32) : ℕ → Vector UInt8 8 → UInt32 →
    Option (Vector UInt8 8 × UInt32)
  | 0, data, index => some (data, index)
  | k + 1, data, index =>
    if index < len then do
      let byte ← buffer[index.toNat]?
      fillPayload buffer len k (data.setIfInBounds (7 - k) byte) (index + 1)
    else some (data, index)

namespace LongMessageSender

def isSending (s : LongMessageSender) : Bool := decide (s.sendBufferIndex < s.sendBufferLen)

def setDelay (s : LongMessageSender) (delayInMillis : UInt8) : LongMessageSender :=
  { s with msgDelay := delayInMillis }

/-- Send the next fragment: what all fragments have in common. -/
def sendMessageFragment (s : LongMessageSender) (frame : CANFrame) (priority : UInt8) :
    Bool × LongMessageSender :=
  let frame := { frame with len := 8, data := frame.data.setIfInBounds 0 opcDtxc }
  let (ret, _, n) := s.cbusObject.sendMessage frame false false priority
  (ret, { s with cbusObject := n })

def sendLongMessage (s : LongMessageSender) (msg : List UInt8) (msgLen : UInt32)
    (streamId : UInt8) (priority : UInt8 := defaultPriority) : Bool × LongMessageSender :=
  if s.isSending then (false, s)
  else
    let s := { s with
      sendBuffer := msg
      sendBufferLen := msgLen
      sendStreamId := streamId
      sendPriority := priority
      sendBufferIndex := 0
      sendSequenceNum := 0 }
    let frame : CANFrame := {
      data := #v[0, s.sendStreamId, s.sendSequenceNum.toUInt8, highByte msgLen.toNat,
        lowByte msgLen.toNat, 0, 0, 0] }
    let (ret, s) := s.sendMessageFragment frame s.sendPriority
    (ret, { s with sendSequenceNum := s.sendSequenceNum + 1 })

/-- The sending part of `process`: the next fragment, after the configured delay. -/
def sendNext (s : LongMessageSender) (now sent : UInt32) : Option (Bool × LongMessageSender) :=
  if s.sendBufferIndex < s.sendBufferLen ∧ s.msgDelay.toUInt32 ≤ now - s.lastFragmentSent then do
    let s := { s with lastFragmentSent := sent }
    let (data, index) ← fillPayload s.sendBuffer s.sendBufferLen 5
      #v[0, s.sendStreamId, s.sendSequenceNum.toUInt8, 0, 0, 0, 0, 0] s.sendBufferIndex
    let s := { s with sendBufferIndex := index }
    let (ret, s) := s.sendMessageFragment { data := data } s.sendPriority
    return (ret, { s with sendSequenceNum := s.sendSequenceNum + 1 })
  else some (true, s)

end LongMessageSender

namespace CBUSLongMessage

/-- The constructor: the object makes itself known to the module. -/
def construct (cbusObject : CBUSbase) : CBUSLongMessage where
  cbusObject := cbusObject.setLongMessageHandler

/-- Called regularly: check the receive timeout, send the next fragment. -/
def process (lm : CBUSLongMessage) (clock : Clock) : Option (Bool × CBUSLongMessage) := do
  let r ← lm.checkTimeout (clock 0)
  let (ret, s) ← lm.sendNext (clock 1) (clock 2)
  return (ret, { toLongMessageReceiver := r, toLongMessageSender := s })

end CBUSLongMessage
end CBUSPicoLib
