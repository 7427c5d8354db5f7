import CBUSPicoLib.LongMessage.Fragments

/-!
# Receiving a message with `CBUSLongMessage`

The receiver counts the fragments in a 32-bit variable and compares it with the
byte in the frame. Up to the 255th data packet both agree; the 256th carries a
zero, and the receiver reports a sequence error.
-/

namespace CBUSPicoLib

/-- Storing the next byte of a message behind those already in the buffer. -/
theorem take_store {msg buffer : List UInt8} {a : ℕ} (ha : a < msg.length) (hb : a < buffer.length)
    (h : buffer.take a = msg.take a) :
    (buffer.set a (msg.getD a 0)).take (a + 1) = msg.take (a + 1) := by
  rw [List.take_add_one, List.take_add_one, List.take_set_of_le (le_refl a), h,
    List.getElem?_set_self hb, List.getElem?_eq_getElem ha, List.getD_eq_getElem?_getD,
    List.getElem?_eq_getElem ha]
  rfl

/-- The byte that the payload loop takes next, and what the frame carries behind it. -/
theorem payload_succ {frame : CANFrame} {msg : List UInt8} {a k : ℕ} (hk : k + 1 ≤ 5)
    (hpay : ∀ j < k + 1, frame.data.getD (8 - (k + 1) + j) 0 = msg.getD (a + j) 0) :
    frame.data.getD (7 - k) 0 = msg.getD a 0 ∧
      ∀ j < k, frame.data.getD (8 - k + j) 0 = msg.getD (a + 1 + j) 0 := by
  constructor
  · have hfirst := hpay 0 (by omega)
    rwa [show 8 - (k + 1) + 0 = 7 - k by omega, Nat.add_zero] at hfirst
  · intro j hj
    have hrest := hpay (j + 1) (by omega)
    rwa [show 8 - (k + 1) + (j + 1) = 8 - k + j by omega,
      show a + (j + 1) = a + 1 + j by omega] at hrest

theorem toNat_sequence {k : ℕ} (hk : k + 1 < 256) : (UInt8.ofNat (k + 1)).toUInt32.toNat = k + 1 := by
  rw [UInt8.toNat_toUInt32, UInt8.toNat_ofNat']
  exact Nat.mod_eq_of_lt hk

theorem toNat_sequence_succ {seq : UInt32} {k : ℕ} (hseq : seq.toNat = k + 1) (hk : k + 1 < 256) :
    (seq + 1).toNat = k + 1 + 1 := by
  rw [UInt32.toNat_add, hseq]
  exact Nat.mod_eq_of_lt (by simp; omega)

namespace LongMessageReceiver

variable {msg : List UInt8} {streamId : UInt8} {r : LongMessageReceiver}

/-- The first `a` bytes of the message are in the buffer. -/
structure Collecting (r : LongMessageReceiver) (msg : List UInt8) (a : ℕ) : Prop where
  length : r.incomingMessageLength.toNat = msg.length
  received : r.incomingBytesReceived.toNat = a
  index : r.receiveBufferIndex.toNat = a
  taken : r.receiveBuffer.take a = msg.take a
  room : msg.length ≤ r.receiveBufferLen.toNat
  allocated : r.receiveBufferLen.toNat ≤ r.receiveBuffer.length
  handler : r.messagehandler = true

theorem Collecting.store {a : ℕ} (h : r.Collecting msg a) (ha : a < msg.length) :
    ∃ buffer, CBUSPicoLib.store r.receiveBuffer r.receiveBufferIndex (msg.getD a 0) = some buffer ∧
      Collecting { r with
        receiveBuffer := buffer
        receiveBufferIndex := r.receiveBufferIndex + 1
        incomingBytesReceived := r.incomingBytesReceived + 1 } msg (a + 1) := by
  have hroom := h.room
  have halloc := h.allocated
  have hlt := r.incomingMessageLength.toNat_lt
  have hlen := h.length
  have hone : (1 : UInt32).toNat = 1 := rfl
  refine ⟨_, store_eq_some _ (by rw [h.index]; omega), h.length, ?_, ?_, ?_, h.room, ?_, h.handler⟩
  · change (r.incomingBytesReceived + 1).toNat = _
    rw [UInt32.toNat_add, h.received, hone]
    exact Nat.mod_eq_of_lt (by omega)
  · change (r.receiveBufferIndex + 1).toNat = _
    rw [UInt32.toNat_add, h.index, hone]
    exact Nat.mod_eq_of_lt (by omega)
  · change (r.receiveBuffer.set r.receiveBufferIndex.toNat (msg.getD a 0)).take (a + 1) = _
    rw [h.index]
    exact take_store ha (by omega) h.taken
  · change _ ≤ (r.receiveBuffer.set r.receiveBufferIndex.toNat (msg.getD a 0)).length
    rw [List.length_set]
    exact h.allocated

theorem Collecting.flushBuffer (h : r.Collecting msg msg.length) :
    ∃ call buffer, r.flushBuffer .complete = some { r with
        handled := r.handled ++ [call]
        receiveBufferIndex := 0
        receiveBuffer := buffer } ∧
      call.HandsOver msg r.receiveStreamId := by
  obtain ⟨buffer, hbuffer, -⟩ := memset_eq_some h.allocated
  refine ⟨r.report .complete, buffer, ?_, rfl, rfl, h.index, ?_⟩
  · unfold LongMessageReceiver.flushBuffer
    rw [callHandler_eq h.handler, Option.bind_eq_bind, Option.bind_some]
    dsimp only
    rw [hbuffer]
    rfl
  · exact h.taken.trans List.take_length

/-- The payload loop: collect what the frame carries, hand the message over when
it is complete. -/
theorem Collecting.takeBytes {frame : CANFrame} (k : ℕ) {a : ℕ} (h : r.Collecting msg a)
    (ha : a < msg.length) (hk : k ≤ 5)
    (hpay : ∀ j < k, frame.data.getD (8 - k + j) 0 = msg.getD (a + j) 0) :
    ∃ (buffer : List UInt8) (index bytes : UInt32),
      if a + k < msg.length then
        takeBytes frame k r = some { r with
          receiveBuffer := buffer
          receiveBufferIndex := index
          incomingBytesReceived := bytes } ∧
        Collecting { r with
          receiveBuffer := buffer
          receiveBufferIndex := index
          incomingBytesReceived := bytes } msg (a + k)
      else
        bytes.toNat = msg.length ∧ ∃ call, call.HandsOver msg r.receiveStreamId ∧
          takeBytes frame k r = some { r with
            receiveBuffer := buffer
            receiveBufferIndex := 0
            incomingBytesReceived := bytes
            handled := r.handled ++ [call] } := by
  induction k generalizing r a with
  | zero => exact ⟨_, _, _, by rw [if_pos (by omega)]; exact ⟨rfl, h⟩⟩
  | succ k ih =>
    have hroom := h.room
    have hfull : ¬ r.receiveBufferLen ≤ r.receiveBufferIndex := by
      rw [UInt32.le_iff_toNat_le, h.index]
      omega
    obtain ⟨hbyte, hpay'⟩ := payload_succ hk hpay
    obtain ⟨buffer, hstore, hnext⟩ := h.store ha
    unfold LongMessageReceiver.takeBytes
    rw [if_neg hfull, hbyte, hstore, Option.bind_eq_bind, Option.bind_some]
    dsimp only
    by_cases hend : a + 1 = msg.length
    · rw [hend] at hnext
      rw [if_pos (by
        rw [UInt32.le_iff_toNat_le]
        exact le_of_eq (hnext.length.trans hnext.received.symm))]
      obtain ⟨call, buffer', hflush, hcall⟩ := hnext.flushBuffer
      refine ⟨buffer', 0, r.incomingBytesReceived + 1, ?_⟩
      rw [if_neg (by omega)]
      exact ⟨hnext.received, call, hcall, hflush⟩
    · rw [if_neg (by
        rw [UInt32.le_iff_toNat_le]
        have h1 := hnext.length
        have h2 := hnext.received
        dsimp only at h1 h2
        omega)]
      obtain ⟨buffer', index, bytes, hcase⟩ := ih hnext (by omega) (by omega) hpay'
      refine ⟨buffer', index, bytes, ?_⟩
      rw [show a + (k + 1) = a + 1 + k by omega]
      exact hcase

/-- A receiver that waits for a message of this length on a stream it is subscribed to. -/
structure Waiting (r : LongMessageReceiver) (len : ℕ) (streamId : UInt8) : Prop where
  idle : r.isReceiving = false
  subscribed : streamId ∈ r.streamIds
  room : len ≤ r.receiveBufferLen.toNat
  allocated : r.receiveBufferLen.toNat ≤ r.receiveBuffer.length
  handler : r.messagehandler = true

/-- `k` data packets of the message have been received. -/
structure Receiving (r : LongMessageReceiver) (msg : List UInt8) (streamId : UInt8) (id : UInt32)
    (handled : List HandlerCall) (k : ℕ) : Prop where
  receiving : r.isReceiving = true
  stream : r.receiveStreamId = streamId
  sender : id &&& 0x7f = r.senderCanid.toUInt32
  seq : r.expectedNextReceiveSequenceNum.toNat = k + 1
  more : 5 * k < msg.length
  collecting : r.Collecting msg (5 * k)
  log : r.handled = handled

theorem finishMessage_of_lt {r : LongMessageReceiver}
    (h : r.incomingBytesReceived.toNat < r.incomingMessageLength.toNat) :
    r.finishMessage = some r :=
  if_neg fun hc => absurd (UInt32.le_iff_toNat_le.mp hc.2) (by omega)

theorem finishMessage_of_zero {r : LongMessageReceiver} (h : r.incomingMessageLength = 0) :
    r.finishMessage = some r :=
  if_neg fun hc => by
    rw [h] at hc
    exact absurd hc.1 (by decide)

theorem toNat_word (hi lo : UInt8) :
    ((hi.toUInt32 <<< 8) + lo.toUInt32).toNat = 256 * hi.toNat + lo.toNat := by
  have h1 := hi.toNat_lt
  have h2 := lo.toNat_lt
  have h8 : (8 : UInt32).toNat % 32 = 8 := rfl
  rw [UInt32.toNat_add, UInt32.toNat_shiftLeft, h8, UInt8.toNat_toUInt32, UInt8.toNat_toUInt32,
    Nat.shiftLeft_eq]
  omega

theorem toNat_word_bytes {n : ℕ} (h : n ≤ 65535) :
    (((highByte n).toUInt32 <<< 8) + (lowByte n).toUInt32).toNat = n := by
  rw [toNat_word, toNat_highByte, toNat_lowByte]
  omega

def afterFragment (r : LongMessageReceiver) : Option LongMessageReceiver :=
  { r with expectedNextReceiveSequenceNum := r.expectedNextReceiveSequenceNum + 1 }.finishMessage

theorem processReceivedMessageFragment_idle (h : r.isReceiving = false) (frame : CANFrame)
    (clock : Clock) : r.processReceivedMessageFragment frame clock =
      ({ r with lastFragmentReceived := clock 0 }.receiveHeader frame).bind afterFragment := by
  unfold processReceivedMessageFragment
  dsimp only
  rw [if_neg (by rw [h]; exact Bool.false_ne_true)]
  rfl

theorem processReceivedMessageFragment_receiving (h : r.isReceiving = true) (frame : CANFrame)
    (clock : Clock) : r.processReceivedMessageFragment frame clock =
      ({ r with lastFragmentReceived := clock 0 }.receiveFragment frame).bind afterFragment := by
  unfold processReceivedMessageFragment
  dsimp only
  rw [if_pos h]
  rfl

theorem receiveFragment_expected {frame : CANFrame}
    (hid : frame.id &&& 0x7f = r.senderCanid.toUInt32) (hstream : frame.data.get 1 = r.receiveStreamId)
    (hseq : (frame.data.get 2).toUInt32 = r.expectedNextReceiveSequenceNum) :
    r.receiveFragment frame = takeBytes frame 5 r := by
  unfold receiveFragment
  rw [if_pos hid, if_pos hstream, if_pos hseq]

theorem receiveFragment_unexpected {frame : CANFrame}
    (hid : frame.id &&& 0x7f = r.senderCanid.toUInt32) (hstream : frame.data.get 1 = r.receiveStreamId)
    (hseq : (frame.data.get 2).toUInt32 ≠ r.expectedNextReceiveSequenceNum)
    (hhandler : r.messagehandler = true) :
    r.receiveFragment frame = some { r with
      handled := r.handled ++ [r.report .sequenceError]
      incomingMessageLength := 0
      incomingBytesReceived := 0
      isReceiving := false } := by
  unfold receiveFragment
  rw [if_pos hid, if_pos hstream, if_neg hseq, callHandler_eq hhandler]
  rfl

theorem receiveHeader_subscribed (hsub : streamId ∈ r.streamIds) {buffer : List UInt8}
    (hbuffer : memset r.receiveBuffer r.receiveBufferLen = some buffer) (id : UInt32) (len : ℕ)
    (crc : UInt16) :
    r.receiveHeader (headerFrame id streamId len crc) = some { r with
      isReceiving := true
      receiveStreamId := streamId
      incomingMessageLength := ((highByte len).toUInt32 <<< 8) + (lowByte len).toUInt32
      incomingMessageCrc := ((highByte crc.toNat).toUInt32 <<< 8) + (lowByte crc.toNat).toUInt32
      incomingBytesReceived := 0
      receiveBuffer := buffer
      receiveBufferIndex := 0
      expectedNextReceiveSequenceNum := 0
      senderCanid := (id &&& 0x7f).toUInt8 } := by
  unfold receiveHeader
  rw [if_pos ⟨rfl, rfl, hsub⟩, hbuffer]
  rfl

/-- A data packet of the message that is received goes to the payload loop. -/
theorem receiveFragment_dataFrame {id : UInt32} {k : ℕ} (hstream : r.receiveStreamId = streamId)
    (hsender : id &&& 0x7f = r.senderCanid.toUInt32)
    (hseq : r.expectedNextReceiveSequenceNum.toNat = k + 1) (hk : k + 1 < 256) :
    r.receiveFragment (dataFrame id streamId msg k) =
      takeBytes (dataFrame id streamId msg k) 5 r := by
  have hstream' : (dataFrame id streamId msg k).data.get 1 = r.receiveStreamId := hstream.symm
  apply receiveFragment_expected hsender hstream'
  apply UInt32.toNat_inj.mp
  exact (toNat_sequence hk).trans hseq.symm

theorem Waiting.header {canId priority : UInt8} (h : r.Waiting msg.length streamId)
    (hpos : 0 < msg.length) (hmax : msg.length ≤ 65535) (crc : UInt16) (clock : Clock) :
    ∃ r', r.processReceivedMessageFragment
        (headerFrame (fragmentId canId priority) streamId msg.length crc) clock = some r' ∧
      r'.Receiving msg streamId (fragmentId canId priority) r.handled 0 := by
  obtain ⟨buffer, hbuffer, hblen⟩ := memset_eq_some h.allocated
  have hlen := toNat_word_bytes hmax
  have hcanid := (toUInt32_toUInt8_canid (fragmentId canId priority)).symm
  have hheader := @receiveHeader_subscribed streamId { r with lastFragmentReceived := clock 0 }
    h.subscribed buffer hbuffer (fragmentId canId priority) msg.length crc
  rw [processReceivedMessageFragment_idle h.idle, hheader, Option.bind_some]
  unfold afterFragment
  rw [finishMessage_of_lt (by dsimp only; rw [hlen]; exact hpos)]
  refine ⟨_, rfl, rfl, rfl, hcanid, rfl, hpos, ⟨hlen, rfl, rfl, rfl, h.room, ?_, h.handler⟩, rfl⟩
  rw [hblen]
  exact h.allocated

theorem Receiving.next {id : UInt32} {handled : List HandlerCall} {k : ℕ}
    (h : r.Receiving msg streamId id handled k) (hk : k + 1 < 256) (clock : Clock) :
    if 5 * (k + 1) < msg.length then
      ∃ r', r.processReceivedMessageFragment (dataFrame id streamId msg k) clock = some r' ∧
        r'.Receiving msg streamId id handled (k + 1)
    else
      ∃ r' call, r.processReceivedMessageFragment (dataFrame id streamId msg k) clock = some r' ∧
        r'.isReceiving = false ∧ r'.handled = handled ++ [call] ∧ call.HandsOver msg streamId := by
  have hcollect : Collecting { r with lastFragmentReceived := clock 0 } msg (5 * k) :=
    ⟨h.collecting.length, h.collecting.received, h.collecting.index, h.collecting.taken,
      h.collecting.room, h.collecting.allocated, h.collecting.handler⟩
  obtain ⟨buffer, index, bytes, hcase⟩ := @Collecting.takeBytes msg _
    (dataFrame id streamId msg k) 5 _ hcollect h.more le_rfl
    fun j hj => dataFrame_payload id streamId msg k hj
  have hfragment := @receiveFragment_dataFrame msg streamId
    { r with lastFragmentReceived := clock 0 } id k h.stream h.sender h.seq hk
  rw [processReceivedMessageFragment_receiving h.receiving, hfragment,
    show 5 * (k + 1) = 5 * k + 5 by ring]
  split_ifs at hcase ⊢ with hlt
  · obtain ⟨htake, hnext⟩ := hcase
    rw [htake, Option.bind_some]
    unfold afterFragment
    have hl := hnext.length
    have hb := hnext.received
    dsimp only at hl hb
    rw [finishMessage_of_lt (by dsimp only; rw [hb, hl]; exact hlt)]
    refine ⟨_, rfl, h.receiving, h.stream, h.sender, toNat_sequence_succ h.seq hk, hlt, ?_, h.log⟩
    · exact ⟨hl, hb, hnext.index, hnext.taken, hnext.room, hnext.allocated, hnext.handler⟩
  · obtain ⟨hb, call, hcall, htake⟩ := hcase
    rw [htake, Option.bind_some]
    unfold afterFragment
    have hl := h.collecting.length
    have hmore := h.more
    have hfin : (0 : UInt32) < r.incomingMessageLength ∧ r.incomingMessageLength ≤ bytes := by
      rw [UInt32.lt_iff_toNat_lt, UInt32.le_iff_toNat_le, hl, hb]
      exact ⟨by change 0 < _; omega, le_rfl⟩
    unfold finishMessage
    rw [if_pos hfin]
    have hlog : r.handled = handled := h.log
    have hstream : r.receiveStreamId = streamId := h.stream
    refine ⟨_, call, rfl, rfl, ?_, hstream ▸ hcall⟩
    rw [← hlog]

/-- The 256th data packet carries a zero, which is not what the receiver expects. -/
theorem Receiving.wraps {id : UInt32} {handled : List HandlerCall} {k : ℕ}
    (h : r.Receiving msg streamId id handled k) (hk : 256 ≤ k + 1) (clock : Clock) :
    ∃ r' call, r.processReceivedMessageFragment (dataFrame id streamId msg k) clock = some r' ∧
      r'.handled = handled ++ [call] ∧ call.status = .sequenceError := by
  have hseq : (UInt8.ofNat (k + 1)).toUInt32 ≠ r.expectedNextReceiveSequenceNum := by
    intro he
    have := congrArg UInt32.toNat he
    rw [UInt8.toNat_toUInt32, UInt8.toNat_ofNat', h.seq] at this
    omega
  have hfragment : { r with lastFragmentReceived := clock 0 }.receiveFragment
      (dataFrame id streamId msg k) = some { r with
        lastFragmentReceived := clock 0
        handled := r.handled ++ [r.report .sequenceError]
        incomingMessageLength := 0
        incomingBytesReceived := 0
        isReceiving := false } :=
    receiveFragment_unexpected h.sender h.stream.symm hseq h.collecting.handler
  rw [processReceivedMessageFragment_receiving h.receiving, hfragment, Option.bind_some]
  unfold afterFragment
  rw [finishMessage_of_zero rfl]
  exact ⟨_, r.report .sequenceError, rfl, by rw [← h.log], rfl⟩

theorem handled_callHandler {r' : LongMessageReceiver} {call : HandlerCall}
    (h : r.callHandler call = some r') : r.handled <+: r'.handled := by
  unfold callHandler at h
  split_ifs at h
  exact Option.some.inj h ▸ List.prefix_append _ _

theorem handled_flushBuffer {r' : LongMessageReceiver} {status : LongMessageStatus}
    (h : r.flushBuffer status = some r') : r.handled <+: r'.handled := by
  obtain ⟨m, hm, hrest⟩ := Option.bind_eq_some_iff.mp h
  obtain ⟨buffer, -, heq⟩ := Option.bind_eq_some_iff.mp hrest
  have hlog := handled_callHandler hm
  cases heq
  exact hlog

theorem handled_takeBytes {frame : CANFrame} (k : ℕ) {r r' : LongMessageReceiver}
    (h : takeBytes frame k r = some r') : r.handled <+: r'.handled := by
  induction k generalizing r with
  | zero => exact Option.some.inj h ▸ List.prefix_rfl
  | succ k ih =>
    unfold takeBytes at h
    split_ifs at h
    · exact handled_flushBuffer h
    · obtain ⟨buffer, -, h⟩ := Option.bind_eq_some_iff.mp h
      dsimp only at h
      split_ifs at h
      · exact @handled_flushBuffer { r with
          receiveBuffer := buffer
          receiveBufferIndex := r.receiveBufferIndex + 1
          incomingBytesReceived := r.incomingBytesReceived + 1 } r' _ h
      · exact @ih { r with
          receiveBuffer := buffer
          receiveBufferIndex := r.receiveBufferIndex + 1
          incomingBytesReceived := r.incomingBytesReceived + 1 } h

theorem handled_receiveHeader {r' : LongMessageReceiver} {frame : CANFrame}
    (h : r.receiveHeader frame = some r') : r.handled <+: r'.handled := by
  unfold receiveHeader at h
  split_ifs at h
  · obtain ⟨buffer, -, heq⟩ := Option.bind_eq_some_iff.mp h
    exact Option.some.inj heq ▸ List.prefix_rfl
  · exact Option.some.inj h ▸ List.prefix_rfl

theorem handled_receiveFragment {r' : LongMessageReceiver} {frame : CANFrame}
    (h : r.receiveFragment frame = some r') : r.handled <+: r'.handled := by
  unfold receiveFragment at h
  split_ifs at h
  · exact handled_takeBytes 5 h
  · obtain ⟨m, hm, heq⟩ := Option.bind_eq_some_iff.mp h
    have hlog := handled_callHandler hm
    cases heq
    exact hlog
  · exact Option.some.inj h ▸ List.prefix_rfl
  · exact Option.some.inj h ▸ List.prefix_rfl

theorem handled_finishMessage {r' : LongMessageReceiver} (h : r.finishMessage = some r') :
    r.handled <+: r'.handled := by
  unfold finishMessage at h
  split_ifs at h
  · obtain ⟨m, hm, heq⟩ := Option.bind_eq_some_iff.mp h
    have hlog := handled_callHandler hm
    cases heq
    exact hlog
  · obtain ⟨m, hm, heq⟩ := Option.bind_eq_some_iff.mp h
    cases hm
    cases heq
    exact List.prefix_rfl
  · exact Option.some.inj h ▸ List.prefix_rfl

theorem handled_afterFragment {r' : LongMessageReceiver} (h : r.afterFragment = some r') :
    r.handled <+: r'.handled :=
  @handled_finishMessage
    { r with expectedNextReceiveSequenceNum := r.expectedNextReceiveSequenceNum + 1 } r' h

theorem handled_processReceivedMessageFragment {r' : LongMessageReceiver} {frame : CANFrame}
    {clock : Clock} (h : r.processReceivedMessageFragment frame clock = some r') :
    r.handled <+: r'.handled := by
  cases hrec : r.isReceiving with
  | false =>
    rw [processReceivedMessageFragment_idle hrec] at h
    obtain ⟨m, hm, hrest⟩ := Option.bind_eq_some_iff.mp h
    have hlog := handled_receiveHeader hm
    exact hlog.trans (handled_afterFragment hrest)
  | true =>
    rw [processReceivedMessageFragment_receiving hrec] at h
    obtain ⟨m, hm, hrest⟩ := Option.bind_eq_some_iff.mp h
    have hlog := handled_receiveFragment hm
    exact hlog.trans (handled_afterFragment hrest)

theorem handled_checkTimeout {r' : LongMessageReceiver} {now : UInt32}
    (h : r.checkTimeout now = some r') : r.handled <+: r'.handled := by
  unfold checkTimeout at h
  split_ifs at h
  · obtain ⟨m, hm, heq⟩ := Option.bind_eq_some_iff.mp h
    have hlog := handled_callHandler hm
    cases heq
    exact hlog
  · exact Option.some.inj h ▸ List.prefix_rfl

end LongMessageReceiver

/-- One call on the receiving object. -/
inductive ReceiverCall
  | fragment (frame : CANFrame) (clock : Clock)
  | process (clock : Clock)

def fragments (calls : List ReceiverCall) : List CANFrame :=
  calls.filterMap fun
    | .fragment frame _ => some frame
    | .process _ => none

namespace CBUSLongMessage

open Runs

def receive (lm : CBUSLongMessage) : ReceiverCall → Option CBUSLongMessage
  | .fragment frame clock => do
    let r ← lm.processReceivedMessageFragment frame clock
    return { lm with toLongMessageReceiver := r }
  | .process clock => (lm.process clock).map (·.2)

/-- The receive timeout does not strike in this call. -/
def InTime (lm : CBUSLongMessage) : ReceiverCall → Prop
  | .fragment _ _ => True
  | .process clock => lm.timedOut (clock 0) = false

theorem handled_receive {lm lm' : CBUSLongMessage} {call : ReceiverCall}
    (h : lm.receive call = some lm') : lm.handled <+: lm'.handled := by
  cases call with
  | fragment frame clock =>
    obtain ⟨r, hr, heq⟩ := Option.bind_eq_some_iff.mp h
    exact Option.some.inj heq ▸ LongMessageReceiver.handled_processReceivedMessageFragment hr
  | process clock =>
    obtain ⟨⟨ret, m⟩, hm, heq⟩ := Option.map_eq_some_iff.mp h
    obtain ⟨r, hr, hrest⟩ := Option.bind_eq_some_iff.mp hm
    obtain ⟨s, -, heq'⟩ := Option.bind_eq_some_iff.mp hrest
    cases Option.some.inj heq'
    exact heq ▸ LongMessageReceiver.handled_checkTimeout hr

/-- Polling an object that sends nothing and has not timed out does nothing. -/
theorem receive_process {lm : CBUSLongMessage} {clock : Clock} (hs : lm.isSending = false)
    (ht : lm.timedOut (clock 0) = false) : lm.receive (.process clock) = some lm := by
  have hcheck : lm.checkTimeout (clock 0) = some lm.toLongMessageReceiver := by
    unfold LongMessageReceiver.checkTimeout
    rw [if_neg (by rw [ht]; exact Bool.false_ne_true)]
  have hnext : lm.sendNext (clock 1) (clock 2) = some (true, lm.toLongMessageSender) :=
    if_neg fun hc => absurd (decide_eq_true hc.1) (by
      change ¬ lm.isSending = true
      rw [hs]
      exact Bool.false_ne_true)
  have hprocess : lm.process clock = some (true, lm) := by
    unfold process
    rw [hcheck, Option.bind_eq_bind, Option.bind_some, hnext]
    rfl
  change (lm.process clock).map (·.2) = _
  rw [hprocess]
  rfl

variable {msg : List UInt8} {streamId : UInt8} {id : UInt32} {handled : List HandlerCall}

theorem run_idle (calls : List ReceiverCall) {lm : CBUSLongMessage} (hs : lm.isSending = false)
    (hr : lm.isReceiving = false) (hfr : fragments calls = []) :
    runOption receive lm calls = some lm := by
  induction calls with
  | nil => rfl
  | cons call calls ih =>
    cases call with
    | fragment frame clock => exact absurd hfr (List.cons_ne_nil _ _)
    | process clock =>
      have ht : lm.timedOut (clock 0) = false := by
        unfold LongMessageReceiver.timedOut
        rw [hr]
        rfl
      rw [runOption_cons (receive_process hs ht)]
      exact ih hfr

/-- What the data packets lead to, from the `k`-th on: the complete message, if
there are at most 255, and a sequence error otherwise. -/
theorem run_receiving (calls : List ReceiverCall) {lm : CBUSLongMessage} {k : ℕ}
    (hs : lm.isSending = false) (hk : k ≤ 255)
    (h : lm.Receiving msg streamId id handled k)
    (hfr : fragments calls = (dataFrames id streamId msg (fragmentCount msg.length)).drop k)
    (ht : GuardedOption receive InTime lm calls) :
    if fragmentCount msg.length ≤ 255 then
      ∃ lm' call, runOption receive lm calls = some lm' ∧ lm'.isReceiving = false ∧
        lm'.handled = handled ++ [call] ∧ call.HandsOver msg streamId
    else
      ∀ lm', runOption receive lm calls = some lm' →
        ∃ call, call.status = .sequenceError ∧ handled ++ [call] <+: lm'.handled := by
  induction calls generalizing lm k with
  | nil =>
    have hkn := lt_fragmentCount.mpr h.more
    have hempty := congrArg List.length hfr
    simp only [dataFrames, List.length_drop, List.length_map, List.length_range] at hempty
    change 0 = _ at hempty
    omega
  | cons call calls ih =>
    cases call with
    | process clock =>
      have hcall := receive_process hs ht.1
      rw [runOption_cons hcall]
      exact ih hs hk h hfr (ht.2 lm hcall)
    | fragment frame clock =>
      have hkn := lt_fragmentCount.mpr h.more
      rw [dataFrames_drop hkn] at hfr
      obtain ⟨rfl, hrest⟩ := List.cons.inj hfr
      have hcall : ∀ r, lm.processReceivedMessageFragment (dataFrame id streamId msg k) clock =
          some r → lm.receive (.fragment (dataFrame id streamId msg k) clock) =
            some { lm with toLongMessageReceiver := r } := by
        intro r hr
        unfold receive
        dsimp only
        rw [hr]
        rfl
      by_cases hwrap : k + 1 < 256
      · have hnext := h.next hwrap clock
        split_ifs at hnext with hmore
        · obtain ⟨r, hr, hrec⟩ := hnext
          rw [runOption_cons (hcall r hr)]
          exact ih hs (by omega) hrec hrest (ht.2 _ (hcall r hr))
        · obtain ⟨r, c, hr, hidle, hlog, hover⟩ := hnext
          have hlast : fragmentCount msg.length = k + 1 := by
            have : ¬ k + 1 < fragmentCount msg.length := fun hc => hmore (lt_fragmentCount.mp hc)
            omega
          have hnone : fragments calls = [] := hrest.trans (by rw [hlast]; simp [dataFrames])
          rw [if_pos (by omega), runOption_cons (hcall r hr)]
          exact ⟨_, c, run_idle calls hs hidle hnone, hidle, hlog, hover⟩
      · obtain ⟨r, c, hr, hlog, hstatus⟩ := h.wraps (by omega) clock
        rw [if_neg (by omega), runOption_cons (hcall r hr)]
        intro lm' hrun
        have hgrow : ∀ (m : CBUSLongMessage) (e : ReceiverCall) (m' : CBUSLongMessage),
            handled ++ [c] <+: m.handled → m.receive e = some m' →
              handled ++ [c] <+: m'.handled :=
          fun m e m' hm he => hm.trans (handled_receive he)
        exact ⟨c, hstatus, runOption_invariant hgrow (hlog ▸ List.prefix_rfl) hrun⟩

end CBUSLongMessage
end CBUSPicoLib
