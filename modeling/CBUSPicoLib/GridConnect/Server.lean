import CBUSPicoLib.GridConnect.RoundTrip
import CBUSPicoLib.Library.DelimitedStream
import CBUSPicoLib.Library.Runs

/-!
# The GridConnect TCP server

The callbacks that lwIP makes for the server and its client, with the state
they share. A `pbuf` is the list of its bytes, `tot_len` their number. Buffers
are allocated, what goes back to lwIP (result codes, window updates) is left
out, and `none` is an access outside an array or a failed assertion of lwIP.
-/

namespace CBUSPicoLib

/-- `pbuf_memfind` for one byte: its first index from `startOffset` on, or 0xFFFF. -/
def pbufMemfind (p : List UInt8) (c : UInt8) (startOffset : ℕ) : ℕ :=
  match (p.drop startOffset).findIdx? (· == c) with
  | some i => startOffset + i
  | none => 0xFFFF

/-- `pbuf_cat`: the total length still has to fit its 16 bits. -/
def pbufCat (h t : List UInt8) : Option (List UInt8) :=
  if h.length + t.length ≤ 0xFFFF then some (h ++ t) else none

/-- `pbuf_copy_partial` into a message: how many bytes were copied, and the message. -/
def pbufCopyPartial (p : List UInt8) (m : GcMessage) (len offset : ℕ) :
    Option (ℕ × GcMessage) := do
  let m ← m.putChars 0 ((p.drop offset).take len)
  return (((p.drop offset).take len).length, m)

def GcMessage.chars (m : GcMessage) : Option (List UInt8) :=
  if m.len ≤ 28 then some (m.byte.toList.take m.len.toNat) else none

theorem le_pbufMemfind {p : List UInt8} {c : UInt8} {startOffset : ℕ}
    (h : pbufMemfind p c startOffset ≠ 0xFFFF) : startOffset ≤ pbufMemfind p c startOffset := by
  unfold pbufMemfind at h ⊢
  split at h
  · omega
  · exact absurd rfl h

inductive ClientState
  | csNone
  | csAccepted
  | csReceived
  | csClosing
  deriving DecidableEq, Repr

/-- The results of lwIP calls that the server tells apart. -/
inductive ErrT
  | errOk
  | errMem
  | errOther
  deriving DecidableEq, Repr

/-- `TCPServer_t`, with the frames put into the CAN queue so far (each is then handed to
`sendCANMessage`) and the bytes that `tcp_write` has accepted. -/
structure CBUSGridConnect where
  pClientCB : Bool := false
  clientState : ClientState := .csNone
  bufferRecv : GcMessage := .empty
  bufferSent : GcMessage := .empty
  sentLen : ℕ := 0
  queued : List CANFrame := []
  written : List UInt8 := []

namespace CBUSGridConnect

/-- Copy a complete message out of the buffer, decode and queue it. -/
def queueMessage (state : CBUSGridConnect) (p : List UInt8) (gcMsgLen nStart : ℕ) :
    Option CBUSGridConnect := do
  let (copied, m) ← pbufCopyPartial p state.bufferRecv gcMsgLen nStart
  if copied ≠ 0 then do
    let canMsg ← decodeGC { m with len := UInt8.ofNat gcMsgLen } {}
    return { state with queued := state.queued ++ canMsg.toList, bufferRecv := .empty }
  else return { state with bufferRecv := .empty }

/-- Keep the beginning of a message whose end has not come yet. -/
def savePartial (state : CBUSGridConnect) (p : List UInt8) (bufLeft nStart : ℕ) :
    Option CBUSGridConnect := do
  let (_, m) ← pbufCopyPartial p state.bufferRecv bufLeft nStart
  return { state with bufferRecv := { m with len := UInt8.ofNat bufLeft } }

/-- Extract the messages of the incoming stream from `nStart` on. -/
def extractAndQueueGC (state : CBUSGridConnect) (nStart : ℕ) (p : List UInt8) :
    Option CBUSGridConnect :=
  if _hStart : pbufMemfind p chColon nStart ≠ 0xFFFF then
    let start := pbufMemfind p chColon nStart
    if _hEnd : pbufMemfind p chSemicolon start ≠ 0xFFFF then
      let gcMsgLen := pbufMemfind p chSemicolon start + 1 - start
      let next := if gcMsgLen ≤ 28 then state.queueMessage p gcMsgLen start else some state
      if _hLeft : gcMsgLen + start < p.length then do
        let state ← next
        state.extractAndQueueGC (gcMsgLen + start) p
      else next
    else
      let bufLeft := p.length - start
      if bufLeft ≤ 28 then state.savePartial p bufLeft start else some state
  else some state
termination_by p.length - nStart
decreasing_by
  have hfirst := le_pbufMemfind _hStart
  have hlast : pbufMemfind p chColon nStart ≤
    pbufMemfind p chSemicolon (pbufMemfind p chColon nStart) := le_pbufMemfind _hEnd
  change pbufMemfind p chSemicolon (pbufMemfind p chColon nStart) + 1 - pbufMemfind p chColon nStart +
    pbufMemfind p chColon nStart < p.length at _hLeft
  omega

/-- Hand a message to `tcp_write`; one that finds no memory is kept for later. -/
def serverSend (state : CBUSGridConnect) (msg : GcMessage) (write : ErrT) :
    Option CBUSGridConnect := do
  let chars ← msg.chars
  match write with
  | .errOk => return { state with sentLen := 0, written := state.written ++ chars }
  | .errMem => return { state with sentLen := 0, bufferSent := msg }
  | .errOther => return { state with sentLen := 0 }

def sendCANFrame (state : CBUSGridConnect) (msg : CANFrame) (write : ErrT) :
    Option CBUSGridConnect := do
  let (encoded, gcMsg) ← encodeGC msg
  if encoded && state.pClientCB then state.serverSend gcMsg write else return state

def serverCloseConn (state : CBUSGridConnect) : CBUSGridConnect := { state with pClientCB := false }

def serverShutdown (state : CBUSGridConnect) : CBUSGridConnect :=
  if state.pClientCB then state.serverCloseConn else state

/-- A client connects; the argument is the error code, a missing control block is one too. -/
def serverAccept (state : CBUSGridConnect) (err : ErrT) : CBUSGridConnect :=
  if err ≠ .errOk then state.serverShutdown
  else { state with pClientCB := true, clientState := .csAccepted }

/-- Data from the client, or `none` when it has closed the connection; `write` is what
`tcp_write` would return. -/
def serverRecv (state : CBUSGridConnect) (p : Option (List UInt8)) (err write : ErrT) :
    Option CBUSGridConnect :=
  match p with
  | none =>
    let state : CBUSGridConnect := { state with clientState := .csClosing }
    if state.bufferSent.len = 0 then some state.serverCloseConn
    else state.serverSend state.bufferSent write
  | some p =>
    if err ≠ .errOk then some { state with bufferSent := { state.bufferSent with len := 0 } }
    else
      match state.clientState with
      | .csAccepted =>
        let state : CBUSGridConnect := { state with clientState := .csReceived }
        if 0 < p.length then state.extractAndQueueGC 0 p else some state
      | .csReceived =>
        if 0 < p.length then
          if state.bufferRecv.len ≠ 0 then do
            let pFragment ← state.bufferRecv.chars
            let p ← pbufCat pFragment p
            state.extractAndQueueGC 0 p
          else state.extractAndQueueGC 0 p
        else some state
      | .csClosing => some state
      | .csNone => some state

def serverSent (state : CBUSGridConnect) (len : ℕ) : CBUSGridConnect :=
  let state : CBUSGridConnect := { state with sentLen := state.sentLen + len }
  if state.bufferSent.len.toNat ≤ state.sentLen then
    { state with bufferSent := .empty, sentLen := 0 }
  else state

def serverPoll (state : CBUSGridConnect) (write : ErrT) : Option CBUSGridConnect :=
  if state.bufferSent.len ≠ 0 then state.serverSend state.bufferSent write
  else if state.clientState = .csClosing then some state.serverCloseConn
  else some state

def serverErr (state : CBUSGridConnect) (aborted : Bool) : CBUSGridConnect :=
  if aborted then state else state.serverShutdown

/-- What happens to the server, with the results of the lwIP calls that matter. -/
inductive Event
  | accept (err : ErrT)
  | recv (p : Option (List UInt8)) (err write : ErrT)
  | sent (len : ℕ)
  | poll (write : ErrT)
  | err (aborted : Bool)
  | send (msg : CANFrame) (write : ErrT)

def step (state : CBUSGridConnect) : Event → Option CBUSGridConnect
  | .accept err => some (state.serverAccept err)
  | .recv p err write => state.serverRecv p err write
  | .sent len => some (state.serverSent len)
  | .poll write => state.serverPoll write
  | .err aborted => some (state.serverErr aborted)
  | .send msg write => state.sendCANFrame msg write

end CBUSGridConnect
end CBUSPicoLib
