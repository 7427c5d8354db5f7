import CBUSPicoLib.LongMessage.Plain

/-!
# `CBUSLongMessageEx`: several long messages at a time

The derived class keeps a context for each message in progress. The arrays of
contexts are as long as the source's counters say; an index past their end is
`none`, like any other fault. The counter `context` of `process` is a static
variable there, one for the program.
-/

namespace CBUSPicoLib

def crcBits : ℕ → UInt16 → UInt16 → UInt16
  | 0, crc, _ => crc
  | k + 1, crc, data =>
    let crc' := if (crc &&& 1) ^^^ (data &&& 1) ≠ 0 then (crc >>> 1) ^^^ 0x8408 else crc >>> 1
    crcBits k crc' (data >>> 1)

def crcByte (crc : UInt16) (byte : UInt8) : UInt16 := crcBits 8 crc byte.toUInt16

/-- CCITT CRC 16 of the first `length` bytes. -/
def crc16 (data : List UInt8) (length : UInt16) : Option UInt16 :=
  let crc : UInt16 := 0xffff
  if length = 0 then some (~~~crc)
  else if length.toNat ≤ data.length then
    let crc := ~~~((data.take length.toNat).foldl crcByte crc)
    some ((crc <<< 8) ||| (crc >>> 8 &&& 0xff))
  else none

def messageCrc (useCrc : Bool) (msg : List UInt8) (msgLen : UInt32) : Option UInt16 :=
  if useCrc then crc16 msg (UInt16.ofNat msgLen.toNat) else some 0

/-- `strdup`: the bytes up to the terminating zero. -/
def strdup (mem : List UInt8) : Option (List UInt8) :=
  if 0 ∈ mem then some (mem.takeWhile (· ≠ 0) ++ [0]) else none

/-- Receive context for long messages. -/
structure ReceiveContext where
  inUse : Bool
  receiveStreamId : UInt8
  senderCanid : UInt8
  buffer : List UInt8
  receiveBufferIndex : UInt32
  incomingBytesReceived : UInt32
  incomingMessageLength : UInt32
  expectedNextReceiveSequenceNum : UInt32
  incomingMessageCrc : UInt32
  lastFragmentReceived : UInt32

/-- Send context for long messages. -/
structure SendContext where
  inUse : Bool
  sendStreamId : UInt8
  sendPriority : UInt8
  buffer : List UInt8
  sendBufferLen : UInt32
  sendBufferIndex : UInt32
  sendSequenceNum : UInt32
  lastFragmentSent : UInt32

structure CBUSLongMessageEx extends CBUSLongMessage where
  useCrc : Bool := false
  receiveContext : List ReceiveContext := []
  sendContext : List SendContext := []
  context : UInt8 := 0

namespace ReceiveContext

def report (c : ReceiveContext) (status : LongMessageStatus) : HandlerCall where
  fragment := c.buffer
  fragmentLen := c.receiveBufferIndex
  streamId := c.receiveStreamId
  status := status

def timedOut (c : ReceiveContext) (receiveTimeout now : UInt32) : Bool :=
  c.inUse && decide (receiveTimeout ≤ now - c.lastFragmentReceived)

/-- Does this context receive the message the frame belongs to? -/
def matchesFrame (c : ReceiveContext) (frame : CANFrame) : Bool :=
  c.inUse && c.receiveStreamId == frame.data.get 1 && c.senderCanid.toUInt32 == frame.id &&& 0x7f

def receivedCrc (c : ReceiveContext) (useCrc : Bool) : Option UInt16 :=
  if useCrc ∧ c.incomingMessageCrc ≠ 0 then
    crc16 c.buffer (UInt16.ofNat c.receiveBufferIndex.toNat)
  else some 0

/-- The payload loop, with the number of bytes of the frame still to look at; if
the message ends, the context is free again and the handler is to be called. -/
def takeBytes (useCrc : Bool) (receiveBufferLen : UInt32) (frame : CANFrame) (clock : Clock) :
    ℕ → ReceiveContext → Option (ReceiveContext × Option HandlerCall)
  | 0, c => some (c, none)
  | k + 1, c => do
    let buffer ← store c.buffer c.receiveBufferIndex (frame.data.getD (7 - k) 0)
    let c := { c with
      buffer := buffer
      receiveBufferIndex := c.receiveBufferIndex + 1
      incomingBytesReceived := c.incomingBytesReceived + 1
      lastFragmentReceived := clock (4 - k) }
    if c.incomingMessageLength ≤ c.incomingBytesReceived then do
      let tmpcrc ← c.receivedCrc useCrc
      let status := if c.incomingMessageCrc ≠ tmpcrc.toUInt32 then .crcError else .complete
      return ({ c with inUse := false }, some (c.report status))
    else if receiveBufferLen ≤ c.receiveBufferIndex then
      return ({ c with inUse := false }, some (c.report .truncated))
    else takeBytes useCrc receiveBufferLen frame clock k c

end ReceiveContext

namespace CBUSLongMessageEx

def callHandler (lm : CBUSLongMessageEx) (call : HandlerCall) : Option CBUSLongMessageEx :=
  if lm.messagehandler then some { lm with handled := lm.handled ++ [call] } else none

/-- Set whether to calculate and compare a CRC of the message. -/
def setUseCrc (lm : CBUSLongMessageEx) (useCrc : Bool) : CBUSLongMessageEx :=
  { lm with useCrc := useCrc }

/-- Allocate memory for the contexts, as `malloc` finds it. -/
def allocateContexts (lm : CBUSLongMessageEx) (numReceiveContexts : UInt8)
    (receiveBufferLen : UInt32) (numSendContexts : UInt8) (receiveHeap : ℕ → ReceiveContext)
    (sendHeap : ℕ → SendContext) (bufferHeap : ℕ → ℕ → UInt8) : CBUSLongMessageEx :=
  { lm with
    receiveBufferLen := receiveBufferLen
    receiveContext := (List.range numReceiveContexts.toNat).map fun i => { receiveHeap i with
      inUse := false
      buffer := (List.range receiveBufferLen.toNat).map (bufferHeap i) }
    sendContext := (List.range numSendContexts.toNat).map fun i => { sendHeap i with
      inUse := false } }

def subscribe (lm : CBUSLongMessageEx) (streamIds : List UInt8) (messagehandler : Bool) :
    CBUSLongMessageEx :=
  { lm with streamIds := streamIds, messagehandler := messagehandler }

def isSending (lm : CBUSLongMessageEx) : ℕ := lm.sendContext.countP (·.inUse)

def sendLongMessage (lm : CBUSLongMessageEx) (msg : List UInt8) (msgLen : UInt32)
    (streamId : UInt8) (priority : UInt8 := defaultPriority) : Option (Bool × CBUSLongMessageEx) :=
  if lm.sendContext.any fun c => c.inUse && c.sendStreamId == streamId then some (false, lm)
  else
    let i := lm.sendContext.findIdx (!·.inUse)
    if lm.sendContext.length < i then some (false, lm)
    else do
      let c ← lm.sendContext[i]?
      let buffer ← strdup msg
      let c := { c with
        inUse := true
        buffer := buffer
        sendBufferLen := msgLen
        sendStreamId := streamId
        sendPriority := priority
        sendBufferIndex := 0 }
      let msgCrc ← messageCrc lm.useCrc msg msgLen
      let frame : CANFrame := {
        data := #v[0, c.sendStreamId, 0, highByte c.sendBufferLen.toNat,
          lowByte c.sendBufferLen.toNat, highByte msgCrc.toNat, lowByte msgCrc.toNat, 0] }
      let (ret, s) := lm.sendMessageFragment frame c.sendPriority
      return (ret, { lm with
        cbusObject := s.cbusObject
        sendContext := lm.sendContext.set i { c with sendSequenceNum := 1 } })

def timeOutContext (clock : Clock) (lm : CBUSLongMessageEx) (i : ℕ) : Option CBUSLongMessageEx := do
  let c ← lm.receiveContext[i]?
  if c.timedOut lm.receiveTimeout (clock i) then do
    let lm ← lm.callHandler (c.report .timeoutError)
    return { lm with receiveContext := lm.receiveContext.set i { c with inUse := false } }
  else some lm

def checkTimeouts (lm : CBUSLongMessageEx) (clock : Clock) : Option CBUSLongMessageEx :=
  (List.range lm.receiveContext.length).foldlM (timeOutContext clock) lm

def sendNext (lm : CBUSLongMessageEx) (now sent : UInt32) : Option (Bool × CBUSLongMessageEx) := do
  let c ← lm.sendContext[lm.context.toNat]?
  if c.inUse ∧ lm.msgDelay.toUInt32 ≤ now - c.lastFragmentSent then do
    let (data, index) ← fillPayload c.buffer c.sendBufferLen 5
      #v[0, c.sendStreamId, c.sendSequenceNum.toUInt8, 0, 0, 0, 0, 0] c.sendBufferIndex
    let c := { c with sendBufferIndex := index }
    let (ret, s) := lm.sendMessageFragment { data := data } c.sendPriority
    let c :=
      if c.sendBufferLen ≤ c.sendBufferIndex then
        -- the copy of the message is freed
        { c with inUse := false, sendBufferLen := 0, buffer := [] }
      else { c with sendSequenceNum := c.sendSequenceNum + 1, lastFragmentSent := sent }
    return (ret, { lm with
      cbusObject := s.cbusObject
      sendContext := lm.sendContext.set lm.context.toNat c })
  else some (true, lm)

def nextContext (lm : CBUSLongMessageEx) : CBUSLongMessageEx :=
  let context := lm.context + 1
  { lm with context := if lm.sendContext.length ≤ context.toNat then 0 else context }

/-- Called regularly: check the receive timeouts, send the next fragment. The
clock is read once for each receive context and twice for the send context. -/
def process (lm : CBUSLongMessageEx) (clock : Clock) : Option (Bool × CBUSLongMessageEx) := do
  let lm ← lm.checkTimeouts clock
  let n := lm.receiveContext.length
  let (ret, lm) ← lm.sendNext (clock n) (clock (n + 1))
  return (ret, lm.nextContext)

def receiveHeader (lm : CBUSLongMessageEx) (frame : CANFrame) (clock : Clock) :
    Option CBUSLongMessageEx :=
  if frame.data.get 7 = 0 ∧ frame.data.get 1 ∈ lm.streamIds then
    let i := lm.receiveContext.findIdx (!·.inUse)
    match lm.receiveContext[i]? with
    | none => some lm
    | some c => do
      let buffer ← memset c.buffer lm.receiveBufferLen
      return { lm with
        receiveContext := lm.receiveContext.set i {
          inUse := true
          receiveStreamId := frame.data.get 1
          incomingMessageLength := ((frame.data.get 3).toUInt32 <<< 8) + (frame.data.get 4).toUInt32
          incomingMessageCrc := ((frame.data.get 5).toUInt32 <<< 8) + (frame.data.get 6).toUInt32
          incomingBytesReceived := 0
          buffer := buffer
          receiveBufferIndex := 0
          expectedNextReceiveSequenceNum := 1
          senderCanid := (frame.id &&& 0x7f).toUInt8
          lastFragmentReceived := clock 0 } }
  else some lm

def receiveFragment (lm : CBUSLongMessageEx) (frame : CANFrame) (clock : Clock) :
    Option CBUSLongMessageEx :=
  let i := lm.receiveContext.findIdx (·.matchesFrame frame)
  match lm.receiveContext[i]? with
  | none => some lm
  | some c =>
    if (frame.data.get 2).toUInt32 ≠ c.expectedNextReceiveSequenceNum then do
      let lm ← lm.callHandler (c.report .sequenceError)
      return { lm with receiveContext := lm.receiveContext.set i { c with inUse := false } }
    else do
      let (c, call) ← c.takeBytes lm.useCrc lm.receiveBufferLen frame clock 5
      let lm ← match call with
        | some call => lm.callHandler call
        | none => some lm
      return { lm with
        receiveContext := lm.receiveContext.set i { c with
          expectedNextReceiveSequenceNum := c.expectedNextReceiveSequenceNum + 1 } }

def processReceivedMessageFragment (lm : CBUSLongMessageEx) (frame : CANFrame) (clock : Clock) :
    Option CBUSLongMessageEx :=
  if frame.data.get 2 = 0 then lm.receiveHeader frame clock else lm.receiveFragment frame clock

end CBUSLongMessageEx
end CBUSPicoLib
