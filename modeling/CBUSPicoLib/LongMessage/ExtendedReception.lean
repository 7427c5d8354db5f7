import CBUSPicoLib.LongMessage.ExtendedSending
import CBUSPicoLib.LongMessage.ReceptionSteps
import CBUSPicoLib.LongMessage.Reception

/-!
# Receiving a message with `CBUSLongMessageEx`

The sequence number is compared as in `CBUSLongMessage`, but a zero is looked at
first: the 256th data packet is taken for the header of another message. The
context of the message in progress then stays behind for good.
-/

namespace CBUSPicoLib

open Runs

/-- A header CRC that the receiver does not object to: none at all, or the CRC of
the message if it is to be checked. -/
def AcceptedCrc (useCrc : Bool) (msg : List UInt8) (crc : UInt16) : Prop :=
  crc = 0 ∨ useCrc = true ∧ crc16 msg (UInt16.ofNat msg.length) = some crc

theorem acceptedCrc_of_messageCrc {useCrc : Bool} {msg : List UInt8} {crc : UInt16}
    (hmax : msg.length ≤ 65535)
    (h : messageCrc useCrc msg (UInt32.ofNat msg.length) = some crc) :
    AcceptedCrc useCrc msg crc := by
  have hlen : (UInt32.ofNat msg.length).toNat = msg.length := by
    rw [UInt32.toNat_ofNat']
    omega
  unfold messageCrc at h
  rw [hlen] at h
  split_ifs at h with huse
  · exact Or.inr ⟨huse, h⟩
  · exact Or.inl (Option.some.inj h).symm

instance (useCrc : Bool) (msg : List UInt8) (crc : UInt16) :
    Decidable (AcceptedCrc useCrc msg crc) := inferInstanceAs (Decidable (_ ∨ _ ∧ _))

/-- What is reported of a message that has been received completely. -/
def crcVerdict (useCrc : Bool) (msg : List UInt8) (crc : UInt16) : LongMessageStatus :=
  if AcceptedCrc useCrc msg crc then .complete else .crcError

theorem HandlerCall.Passes.handsOver {call : HandlerCall} {useCrc : Bool} {msg : List UInt8}
    {crc : UInt16} {streamId : UInt8} (h : call.Passes (crcVerdict useCrc msg crc) streamId msg)
    (hcrc : AcceptedCrc useCrc msg crc) : call.HandsOver msg streamId :=
  ⟨h.status.trans (if_pos hcrc), h.stream, h.length, h.fragment⟩

namespace ReceiveContext

variable {msg : List UInt8} {c : ReceiveContext} {bufferLen : UInt32} {crc : UInt16}

/-- The first `a` bytes of the message are in the buffer of the context. -/
structure Collecting (c : ReceiveContext) (msg : List UInt8) (bufferLen : UInt32) (a : ℕ) :
    Prop where
  length : c.incomingMessageLength.toNat = msg.length
  received : c.incomingBytesReceived.toNat = a
  index : c.receiveBufferIndex.toNat = a
  taken : c.buffer.take a = msg.take a
  room : msg.length ≤ bufferLen.toNat
  allocated : bufferLen.toNat ≤ c.buffer.length

theorem Collecting.store {a : ℕ} (h : c.Collecting msg bufferLen a) (ha : a < msg.length)
    (time : UInt32) :
    ∃ buffer, CBUSPicoLib.store c.buffer c.receiveBufferIndex (msg.getD a 0) = some buffer ∧
      Collecting { c with
        buffer := buffer
        receiveBufferIndex := c.receiveBufferIndex + 1
        incomingBytesReceived := c.incomingBytesReceived + 1
        lastFragmentReceived := time } msg bufferLen (a + 1) := by
  have hroom := h.room
  have halloc := h.allocated
  have hlt := c.incomingMessageLength.toNat_lt
  have hlen := h.length
  have hone : (1 : UInt32).toNat = 1 := rfl
  refine ⟨_, store_eq_some _ (by rw [h.index]; omega), h.length, ?_, ?_, ?_, h.room, ?_⟩
  · change (c.incomingBytesReceived + 1).toNat = _
    rw [UInt32.toNat_add, h.received, hone]
    exact Nat.mod_eq_of_lt (by omega)
  · change (c.receiveBufferIndex + 1).toNat = _
    rw [UInt32.toNat_add, h.index, hone]
    exact Nat.mod_eq_of_lt (by omega)
  · change (c.buffer.set c.receiveBufferIndex.toNat (msg.getD a 0)).take (a + 1) = _
    rw [h.index]
    exact take_store ha (by omega) h.taken
  · change _ ≤ (c.buffer.set c.receiveBufferIndex.toNat (msg.getD a 0)).length
    rw [List.length_set]
    exact h.allocated

theorem Collecting.receivedCrc_eq (h : c.Collecting msg bufferLen msg.length) (useCrc : Bool)
    (hmax : msg.length ≤ 65535) (hheader : c.incomingMessageCrc = crc.toUInt32) :
    ∃ tmpcrc, c.receivedCrc useCrc = some tmpcrc ∧
      (c.incomingMessageCrc = tmpcrc.toUInt32 ↔ AcceptedCrc useCrc msg crc) := by
  have hzero : c.incomingMessageCrc = 0 ↔ crc = 0 := by
    rw [hheader, ← UInt16.toUInt32_inj]
    rfl
  unfold receivedCrc
  rw [hheader] at hzero ⊢
  by_cases hcheck : useCrc = true ∧ crc.toUInt32 ≠ 0
  · have hlen : (UInt16.ofNat c.receiveBufferIndex.toNat).toNat = msg.length := by
      rw [UInt16.toNat_ofNat', h.index]
      omega
    have hsplit : c.buffer = msg ++ c.buffer.drop msg.length := by
      conv_lhs => rw [← List.take_append_drop msg.length c.buffer, h.taken, List.take_length]
    obtain ⟨hcrc, hsome⟩ := @crc16_append msg (c.buffer.drop msg.length) _ (le_of_eq hlen)
    obtain ⟨tmpcrc, htmp⟩ := Option.isSome_iff_exists.mp hsome
    rw [if_pos hcheck, hsplit, hcrc, htmp]
    rw [h.index] at htmp
    refine ⟨tmpcrc, rfl, ?_⟩
    rw [UInt16.toUInt32_inj]
    unfold AcceptedCrc
    rw [htmp, ← hzero]
    simp [hcheck, eq_comm]
  · rw [if_neg hcheck]
    refine ⟨0, rfl, ?_⟩
    rw [show (0 : UInt16).toUInt32 = 0 from rfl, hzero]
    unfold AcceptedCrc
    refine ⟨Or.inl, ?_⟩
    rintro (h0 | ⟨huse, -⟩)
    · exact h0
    · exact hzero.mp (by simpa [huse] using hcheck)

/-- The payload loop: collect what the frame carries, pass the message on when
it is complete. -/
theorem Collecting.takeBytes {useCrc : Bool} {frame : CANFrame} {clock : Clock} (k : ℕ) {a : ℕ}
    (h : c.Collecting msg bufferLen a) (ha : a < msg.length) (hk : k ≤ 5)
    (hmax : msg.length ≤ 65535) (hheader : c.incomingMessageCrc = crc.toUInt32)
    (hpay : ∀ j < k, frame.data.getD (8 - k + j) 0 = msg.getD (a + j) 0) :
    ∃ (buffer : List UInt8) (index bytes time : UInt32),
      let c' := { c with
        buffer := buffer
        receiveBufferIndex := index
        incomingBytesReceived := bytes
        lastFragmentReceived := time }
      if a + k < msg.length then
        takeBytes useCrc bufferLen frame clock k c = some (c', none) ∧
          c'.Collecting msg bufferLen (a + k)
      else
        ∃ call : HandlerCall, call.Passes (crcVerdict useCrc msg crc) c.receiveStreamId msg ∧
          takeBytes useCrc bufferLen frame clock k c = some ({ c' with inUse := false }, some call) := by
  induction k generalizing c a with
  | zero =>
    refine ⟨c.buffer, c.receiveBufferIndex, c.incomingBytesReceived, c.lastFragmentReceived, ?_⟩
    dsimp only
    rw [if_pos (by omega)]
    exact ⟨rfl, h⟩
  | succ k ih =>
    have hroom := h.room
    obtain ⟨hbyte, hpay'⟩ := payload_succ hk hpay
    obtain ⟨buffer, hstore, hnext⟩ := h.store ha (clock (4 - k))
    unfold ReceiveContext.takeBytes
    rw [hbyte, hstore, Option.bind_eq_bind, Option.bind_some]
    dsimp only
    by_cases hend : a + 1 = msg.length
    · rw [hend] at hnext
      have hdone : c.incomingMessageLength ≤ c.incomingBytesReceived + 1 :=
        UInt32.le_iff_toNat_le.mpr (le_of_eq (hnext.length.trans hnext.received.symm))
      obtain ⟨tmpcrc, htmp, hstatus⟩ := hnext.receivedCrc_eq useCrc hmax hheader
      refine ⟨buffer, c.receiveBufferIndex + 1, c.incomingBytesReceived + 1, clock (4 - k), ?_⟩
      rw [if_pos hdone, htmp, Option.bind_eq_bind, Option.bind_some, if_neg (by omega)]
      refine ⟨_, ⟨?_, rfl, hnext.index, hnext.taken.trans List.take_length⟩, rfl⟩
      unfold crcVerdict report
      simp only [← hstatus, ite_not]
    · have hopen : ¬ c.incomingMessageLength ≤ c.incomingBytesReceived + 1 := by
        have h1 := hnext.length
        have h2 := hnext.received
        dsimp only at h1 h2
        rw [UInt32.le_iff_toNat_le]
        omega
      have hfits : ¬ bufferLen ≤ c.receiveBufferIndex + 1 := by
        have h3 := hnext.index
        dsimp only at h3
        rw [UInt32.le_iff_toNat_le]
        omega
      obtain ⟨buffer', index, bytes, time, hcase⟩ :=
        ih hnext (by omega) (by omega) hheader hpay'
      refine ⟨buffer', index, bytes, time, ?_⟩
      rw [if_neg hopen, if_neg hfits, show a + (k + 1) = a + 1 + k by omega]
      exact hcase

theorem length_takeBytes {useCrc : Bool} {frame : CANFrame} {clock : Clock} {k : ℕ}
    {c' : ReceiveContext} {call : Option HandlerCall}
    (h : takeBytes useCrc bufferLen frame clock k c = some (c', call)) :
    c'.buffer.length = c.buffer.length := by
  induction k generalizing c with
  | zero =>
    cases h
    rfl
  | succ k ih =>
    obtain ⟨buffer, hstore, h⟩ := Option.bind_eq_some_iff.mp h
    have hlen : buffer.length = c.buffer.length := by
      unfold store at hstore
      split_ifs at hstore
      cases hstore
      exact List.length_set
    rw [← hlen]
    dsimp only at h
    split_ifs at h
    · obtain ⟨tmpcrc, -, heq⟩ := Option.bind_eq_some_iff.mp h
      cases heq
      rfl
    · cases h
      rfl
    · exact ih h

/-- `k` data packets of the message have been received. -/
structure Receiving (c : ReceiveContext) (msg : List UInt8) (streamId : UInt8) (id : UInt32)
    (crc : UInt16) (bufferLen : UInt32) (k : ℕ) : Prop where
  inUse : c.inUse = true
  stream : c.receiveStreamId = streamId
  sender : id &&& 0x7f = c.senderCanid.toUInt32
  seq : c.expectedNextReceiveSequenceNum.toNat = k + 1
  crc : c.incomingMessageCrc = crc.toUInt32
  collecting : c.Collecting msg bufferLen (5 * k)

variable {streamId : UInt8} {id : UInt32}

theorem receiving_header {buffer : List UInt8} (hroom : msg.length ≤ bufferLen.toNat)
    (halloc : bufferLen.toNat ≤ buffer.length) (hmax : msg.length ≤ 65535) (id : UInt32)
    (streamId : UInt8) (crc : UInt16) (time : UInt32) :
    Receiving {
      inUse := true
      receiveStreamId := streamId
      incomingMessageLength :=
        ((highByte msg.length).toUInt32 <<< 8) + (lowByte msg.length).toUInt32
      incomingMessageCrc := ((highByte crc.toNat).toUInt32 <<< 8) + (lowByte crc.toNat).toUInt32
      incomingBytesReceived := 0
      buffer := buffer
      receiveBufferIndex := 0
      expectedNextReceiveSequenceNum := 1
      senderCanid := (id &&& 0x7f).toUInt8
      lastFragmentReceived := time } msg streamId id crc bufferLen 0 where
  inUse := rfl
  stream := rfl
  sender := (toUInt32_toUInt8_canid id).symm
  seq := rfl
  crc := by
    apply UInt32.toNat_inj.mp
    rw [LongMessageReceiver.toNat_word_bytes (Nat.le_of_lt_succ crc.toNat_lt), UInt16.toNat_toUInt32]
  collecting := {
    length := LongMessageReceiver.toNat_word_bytes hmax
    received := rfl
    index := rfl
    taken := rfl
    room := hroom
    allocated := halloc }

theorem Receiving.seq_eq {k : ℕ} (h : c.Receiving msg streamId id crc bufferLen k)
    (hk : k + 1 < 256) :
    ((dataFrame id streamId msg k).data.get 2).toUInt32 = c.expectedNextReceiveSequenceNum := by
  apply UInt32.toNat_inj.mp
  exact (toNat_sequence hk).trans h.seq.symm

theorem Receiving.next {k : ℕ} (h : c.Receiving msg streamId id crc bufferLen k)
    (hmore : 5 * k < msg.length) (hmax : msg.length ≤ 65535) (hk : k + 1 < 256) (useCrc : Bool)
    (clock : Clock) :
    ∃ c' call, c.takeBytes useCrc bufferLen (dataFrame id streamId msg k) clock 5 = some (c', call) ∧
      let next := { c' with expectedNextReceiveSequenceNum := c'.expectedNextReceiveSequenceNum + 1 }
      if 5 * (k + 1) < msg.length then
        call = none ∧ next.Receiving msg streamId id crc bufferLen (k + 1)
      else next.inUse = false ∧ bufferLen.toNat ≤ next.buffer.length ∧
        ∃ last : HandlerCall, call = some last ∧
          last.Passes (crcVerdict useCrc msg crc) streamId msg := by
  obtain ⟨buffer, index, bytes, time, hcase⟩ := @Collecting.takeBytes msg c bufferLen crc useCrc
    (dataFrame id streamId msg k) clock 5 _ h.collecting hmore le_rfl hmax h.crc
    fun j hj => dataFrame_payload id streamId msg k hj
  dsimp only at hcase ⊢
  rw [show 5 * (k + 1) = 5 * k + 5 by ring]
  split_ifs at hcase ⊢ with hlt
  · obtain ⟨htake, hnext⟩ := hcase
    refine ⟨_, none, htake, rfl, h.inUse, h.stream, h.sender, toNat_sequence_succ h.seq hk, h.crc,
      ?_⟩
    · exact ⟨hnext.length, hnext.received, hnext.index, hnext.taken, hnext.room, hnext.allocated⟩
  · obtain ⟨call, hover, htake⟩ := hcase
    refine ⟨_, _, htake, rfl, ?_, call, rfl, h.stream ▸ hover⟩
    exact le_of_le_of_eq h.collecting.allocated (length_takeBytes htake).symm

theorem matchesFrame_eq {streamId : UInt8} {frame : CANFrame} (huse : c.inUse = true)
    (hstream : c.receiveStreamId = streamId) (hsender : frame.id &&& 0x7f = c.senderCanid.toUInt32)
    (hframe : frame.data.get 1 = streamId) : c.matchesFrame frame = true := by
  unfold matchesFrame
  rw [huse, hstream, hframe, hsender, beq_self_eq_true, beq_self_eq_true]
  rfl

end ReceiveContext

namespace CBUSLongMessageEx

variable {msg : List UInt8} {streamId : UInt8} {id : UInt32} {crc : UInt16}
  {handled : List HandlerCall} {lm : CBUSLongMessageEx}

/-- A receiver that waits for a message of this length on a stream it is subscribed to. -/
structure Waiting (lm : CBUSLongMessageEx) (len : ℕ) (streamId : UInt8) : Prop where
  idle : ∀ c ∈ lm.receiveContext, c.inUse = false
  exists_context : lm.receiveContext ≠ []
  subscribed : streamId ∈ lm.streamIds
  room : len ≤ lm.receiveBufferLen.toNat
  allocated : ∀ c ∈ lm.receiveContext, lm.receiveBufferLen.toNat ≤ c.buffer.length
  handler : lm.messagehandler = true

/-- The first context receives the message; the others are free. -/
structure Receiving (lm : CBUSLongMessageEx) (msg : List UInt8) (streamId : UInt8) (id : UInt32)
    (crc : UInt16) (handled : List HandlerCall) (k : ℕ) : Prop where
  context : ∃ c rest, lm.receiveContext = c :: rest ∧ (∀ d ∈ rest, d.inUse = false) ∧
    c.Receiving msg streamId id crc lm.receiveBufferLen k
  more : 5 * k < msg.length
  crc : messageCrc lm.useCrc msg (UInt32.ofNat msg.length) = some crc
  handler : lm.messagehandler = true
  log : lm.handled = handled

theorem receiveHeader_starts {i : ℕ} {c : ReceiveContext}
    (hi : lm.receiveContext.findIdx (!·.inUse) = i) (hc : lm.receiveContext[i]? = some c)
    (hsub : streamId ∈ lm.streamIds) (hroom : msg.length ≤ lm.receiveBufferLen.toNat)
    (halloc : lm.receiveBufferLen.toNat ≤ c.buffer.length) (hmax : msg.length ≤ 65535)
    (id : UInt32) (crc : UInt16) (clock : Clock) :
    ∃ c', lm.processReceivedMessageFragment (headerFrame id streamId msg.length crc) clock =
        some { lm with receiveContext := lm.receiveContext.set i c' } ∧
      c'.Receiving msg streamId id crc lm.receiveBufferLen 0 := by
  obtain ⟨buffer, hbuffer, hblen⟩ := memset_eq_some halloc
  have hzero : (headerFrame id streamId msg.length crc).data.get 2 = 0 := rfl
  have haccept : (headerFrame id streamId msg.length crc).data.get 7 = 0 ∧
      (headerFrame id streamId msg.length crc).data.get 1 ∈ lm.streamIds := ⟨rfl, hsub⟩
  unfold processReceivedMessageFragment receiveHeader
  rw [if_pos hzero, if_pos haccept]
  dsimp only
  rw [hi, hc]
  dsimp only
  rw [hbuffer]
  exact ⟨_, rfl, ReceiveContext.receiving_header hroom (hblen ▸ halloc) hmax id streamId crc _⟩

theorem receiveFragment_continues {i k : ℕ} {c : ReceiveContext}
    (hi : lm.receiveContext.findIdx (·.matchesFrame (dataFrame id streamId msg k)) = i)
    (hc : lm.receiveContext[i]? = some c)
    (h : c.Receiving msg streamId id crc lm.receiveBufferLen k) (hmore : 5 * k < msg.length)
    (hmax : msg.length ≤ 65535) (hk : k + 1 < 256) (hhandler : lm.messagehandler = true)
    (clock : Clock) :
    ∃ c' calls, lm.processReceivedMessageFragment (dataFrame id streamId msg k) clock =
        some { lm with
          receiveContext := lm.receiveContext.set i c'
          handled := lm.handled ++ calls } ∧
      if 5 * (k + 1) < msg.length then
        calls = [] ∧ c'.Receiving msg streamId id crc lm.receiveBufferLen (k + 1)
      else c'.inUse = false ∧ lm.receiveBufferLen.toNat ≤ c'.buffer.length ∧
        ∃ call : HandlerCall, calls = [call] ∧
          call.Passes (crcVerdict lm.useCrc msg crc) streamId msg := by
  have hdata := dataFrame_seq_ne id streamId msg hk
  obtain ⟨c', call, htake, hcase⟩ := h.next hmore hmax hk lm.useCrc clock
  unfold processReceivedMessageFragment receiveFragment
  rw [if_neg hdata]
  dsimp only
  rw [hi, hc]
  dsimp only
  rw [if_neg (not_not.mpr (h.seq_eq hk)), htake, Option.bind_eq_bind, Option.bind_some]
  dsimp only at hcase ⊢
  split_ifs at hcase ⊢ with hlt
  · obtain ⟨rfl, hnext⟩ := hcase
    refine ⟨_, [], ?_, rfl, hnext⟩
    rw [List.append_nil]
    rfl
  · obtain ⟨hfree, halloc, last, rfl, hover⟩ := hcase
    dsimp only
    rw [callHandler_eq hhandler]
    exact ⟨_, [last], rfl, hfree, halloc, last, rfl, hover⟩

theorem Waiting.header {canId priority : UInt8} (h : lm.Waiting msg.length streamId)
    (hpos : 0 < msg.length) (hmax : msg.length ≤ 65535)
    (hcrc : messageCrc lm.useCrc msg (UInt32.ofNat msg.length) = some crc) (clock : Clock) :
    ∃ rs, let lm' := { lm with receiveContext := rs }
      lm.processReceivedMessageFragment
        (headerFrame (fragmentId canId priority) streamId msg.length crc) clock = some lm' ∧
      lm'.Receiving msg streamId (fragmentId canId priority) crc lm.handled 0 := by
  obtain ⟨c, rest, hcs⟩ := List.exists_cons_of_ne_nil h.exists_context
  have hcidle : c.inUse = false := h.idle c (by simp [hcs])
  have hfind : lm.receiveContext.findIdx (!·.inUse) = 0 := by
    rw [hcs, List.findIdx_cons, hcidle]
    rfl
  have hget : lm.receiveContext[0]? = some c := by simp [hcs]
  obtain ⟨c', hstep, hc'⟩ := receiveHeader_starts hfind hget h.subscribed h.room
    (h.allocated c (by simp [hcs])) hmax (fragmentId canId priority) crc clock
  refine ⟨_, hstep, ⟨c', rest, by simp [hcs], ?_, hc'⟩, hpos, hcrc, h.handler, rfl⟩
  exact fun d hd => h.idle d (by simp [hcs, hd])

theorem Receiving.next {k : ℕ} (h : lm.Receiving msg streamId id crc handled k)
    (hmax : msg.length ≤ 65535) (hk : k + 1 < 256) (clock : Clock) :
    ∃ rs hs, let lm' := { lm with receiveContext := rs, handled := hs }
      lm.processReceivedMessageFragment (dataFrame id streamId msg k) clock = some lm' ∧
        if 5 * (k + 1) < msg.length then lm'.Receiving msg streamId id crc handled (k + 1)
        else (∀ c ∈ rs, c.inUse = false) ∧
          ∃ call : HandlerCall, hs = handled ++ [call] ∧ call.HandsOver msg streamId := by
  obtain ⟨c, rest, hcs, hrest, hc⟩ := h.context
  have hfind : lm.receiveContext.findIdx (·.matchesFrame (dataFrame id streamId msg k)) = 0 := by
    rw [hcs, List.findIdx_cons, ReceiveContext.matchesFrame_eq hc.inUse hc.stream hc.sender rfl]
    rfl
  have hget : lm.receiveContext[0]? = some c := by simp [hcs]
  obtain ⟨c', calls, hstep, hcase⟩ := receiveFragment_continues hfind hget hc h.more hmax hk
    h.handler clock
  refine ⟨_, _, hstep, ?_⟩
  split_ifs at hcase ⊢ with hlt
  · obtain ⟨rfl, hnext⟩ := hcase
    exact ⟨⟨c', rest, by simp [hcs], hrest, hnext⟩, hlt, h.crc, h.handler, by simp [h.log]⟩
  · obtain ⟨hfree, -, call, rfl, hpasses⟩ := hcase
    refine ⟨?_, call, by rw [h.log], hpasses.handsOver (acceptedCrc_of_messageCrc hmax h.crc)⟩
    simpa [hcs, hfree] using hrest

/-- The first context waits for a sequence number that no frame can carry; or it
did, and a sequence error was reported. -/
def Stuck (lm : CBUSLongMessageEx) (streamId : UInt8) (id : UInt32) (handled : List HandlerCall) :
    Prop :=
  (∃ c rest, lm.receiveContext = c :: rest ∧ c.inUse = true ∧ c.receiveStreamId = streamId ∧
      id &&& 0x7f = c.senderCanid.toUInt32 ∧ 256 ≤ c.expectedNextReceiveSequenceNum.toNat ∧
      lm.handled = handled) ∨
    ∃ call : HandlerCall, call.status = .sequenceError ∧ handled ++ [call] <+: lm.handled

theorem Receiving.stuck (h : lm.Receiving msg streamId id crc handled 255) :
    lm.Stuck streamId id handled := by
  obtain ⟨c, rest, hcs, -, hc⟩ := h.context
  exact Or.inl ⟨c, rest, hcs, hc.inUse, hc.stream, hc.sender, le_of_eq hc.seq.symm, h.log⟩

theorem Stuck.fragment {lm' : CBUSLongMessageEx} (h : lm.Stuck streamId id handled)
    {frame : CANFrame} (hid : frame.id = id) (hstream : frame.data.get 1 = streamId) {clock : Clock}
    (hstep : lm.processReceivedMessageFragment frame clock = some lm') :
    lm'.Stuck streamId id handled := by
  rcases h with ⟨c, rest, hcs, huse, hcstream, hsender, hseq, hhandled⟩ | ⟨call, hstatus, hpre⟩
  · have hget : lm.receiveContext[0]? = some c := by
      rw [hcs]
      rfl
    unfold processReceivedMessageFragment at hstep
    split_ifs at hstep
    · -- taken for a header: at most a second context is used
      rcases receiveHeader_cases hstep with rfl | ⟨i, d, buffer, hd, hfree, -, rfl⟩
      · exact Or.inl ⟨c, rest, hcs, huse, hcstream, hsender, hseq, hhandled⟩
      · cases i with
        | zero =>
          cases hget.symm.trans hd
          exact absurd (huse.symm.trans hfree) (by simp)
        | succ i =>
          have hset : ∀ c', lm.receiveContext.set (i + 1) c' = c :: rest.set i c' := by
            intro c'
            rw [hcs, List.set_cons_succ]
          exact Or.inl ⟨c, _, hset _, huse, hcstream, hsender, hseq, hhandled⟩
    · have hfind : lm.receiveContext.findIdx (·.matchesFrame frame) = 0 := by
        rw [hcs, List.findIdx_cons,
          ReceiveContext.matchesFrame_eq huse hcstream (hid ▸ hsender) hstream]
        rfl
      have hne : (frame.data.get 2).toUInt32 ≠ c.expectedNextReceiveSequenceNum := by
        intro heq
        have hbyte := (frame.data.get 2).toNat_lt
        have hnat := congrArg UInt32.toNat heq
        rw [UInt8.toNat_toUInt32] at hnat
        omega
      rcases receiveFragment_cases hstep with ⟨hnone, -⟩ | ⟨d, hd, -, hcase⟩
      · rw [hfind, hget] at hnone
        exact absurd hnone (by simp)
      · rw [hfind, hget] at hd
        cases hd
        rw [if_neg hne] at hcase
        refine Or.inr ⟨c.report .sequenceError, rfl, ?_⟩
        rw [hcase, ← hhandled]
  · obtain ⟨rs, hs, rfl, hlog⟩ := processReceivedMessageFragment_frame hstep
    exact Or.inr ⟨call, hstatus, hpre.trans hlog⟩

def receive (lm : CBUSLongMessageEx) : ReceiverCall → Option CBUSLongMessageEx
  | .fragment frame clock => lm.processReceivedMessageFragment frame clock
  | .process clock => (lm.process clock).map (·.2)

/-- No receive timeout strikes in this call. -/
def InTime (lm : CBUSLongMessageEx) : ReceiverCall → Prop
  | .fragment _ _ => True
  | .process clock => ∀ (i : ℕ) (c : ReceiveContext), lm.receiveContext[i]? = some c →
      c.timedOut lm.receiveTimeout (clock i) = false

/-- Nothing is being sent. -/
structure Quiet (lm : CBUSLongMessageEx) : Prop where
  idle : ∀ c ∈ lm.sendContext, c.inUse = false
  turn : lm.context.toNat < lm.sendContext.length

theorem Quiet.nextContext (h : lm.Quiet) : lm.nextContext.Quiet :=
  ⟨h.idle, nextContext_turn h.turn⟩

theorem checkTimeouts_inTime {clock : Clock} (ht : lm.InTime (.process clock)) :
    lm.checkTimeouts clock = some lm := by
  apply runOption_fixed
  intro i hi
  have hget := List.getElem?_eq_getElem (List.mem_range.mp hi)
  unfold timeOutContext
  rw [hget, Option.bind_eq_bind, Option.bind_some, if_neg]
  rw [ht i _ hget]
  exact Bool.false_ne_true

/-- Polling an object that sends nothing and has not timed out only moves its counter. -/
theorem receive_process (h : lm.Quiet) {clock : Clock} (ht : lm.InTime (.process clock)) :
    lm.receive (.process clock) = some lm.nextContext := by
  have hget := List.getElem?_eq_getElem h.turn
  have hnext : lm.sendNext (clock lm.receiveContext.length) (clock (lm.receiveContext.length + 1)) =
      some (true, lm) := by
    unfold sendNext
    rw [hget, Option.bind_eq_bind, Option.bind_some, if_neg]
    rintro ⟨huse, -⟩
    rw [h.idle _ (List.getElem_mem h.turn)] at huse
    exact Bool.false_ne_true huse
  have hprocess : lm.process clock = some (true, lm.nextContext) := by
    unfold process
    rw [checkTimeouts_inTime ht, Option.bind_eq_bind, Option.bind_some]
    dsimp only
    rw [hnext]
    rfl
  change (lm.process clock).map (·.2) = _
  rw [hprocess]
  rfl

theorem run_idle (calls : List ReceiverCall) (hs : lm.Quiet)
    (hr : ∀ c ∈ lm.receiveContext, c.inUse = false) (hfr : fragments calls = []) :
    ∃ lm', runOption receive lm calls = some lm' ∧ lm'.receiveContext = lm.receiveContext ∧
      lm'.handled = lm.handled := by
  induction calls generalizing lm with
  | nil => exact ⟨lm, rfl, rfl, rfl⟩
  | cons call calls ih =>
    cases call with
    | fragment frame clock => exact absurd hfr (List.cons_ne_nil _ _)
    | process clock =>
      have ht : lm.InTime (.process clock) := by
        intro i c hget
        unfold ReceiveContext.timedOut
        rw [hr c (List.mem_of_getElem? hget)]
        rfl
      rw [runOption_cons (receive_process hs ht)]
      exact @ih lm.nextContext hs.nextContext hr hfr

theorem Stuck.run (calls : List ReceiverCall) (hs : lm.Quiet) (h : lm.Stuck streamId id handled)
    (hfr : ∀ f ∈ fragments calls, f.id = id ∧ f.data.get 1 = streamId)
    (ht : GuardedOption receive InTime lm calls) {lm' : CBUSLongMessageEx}
    (hrun : runOption receive lm calls = some lm') : lm'.Stuck streamId id handled := by
  induction calls generalizing lm with
  | nil => exact Option.some.inj hrun ▸ h
  | cons call calls ih =>
    obtain ⟨m, hm, hrest⟩ := runOption_cons_eq_some.mp hrun
    cases call with
    | fragment frame clock =>
      obtain ⟨hid, hstream⟩ := hfr frame List.mem_cons_self
      obtain ⟨rs, log, rfl, -⟩ := processReceivedMessageFragment_frame hm
      exact @ih { lm with receiveContext := rs, handled := log } ⟨hs.idle, hs.turn⟩
        (h.fragment hid hstream hm) (fun f hf => hfr f (List.mem_cons_of_mem _ hf)) (ht.2 _ hm) hrest
    | process clock =>
      rw [receive_process hs ht.1] at hm
      cases hm
      exact ih hs.nextContext h hfr (ht.2 _ (receive_process hs ht.1)) hrest

/-- What the data packets lead to, from the `k`-th on: the complete message, if
there are at most 255, and a context that is stuck otherwise. -/
theorem run_receiving (calls : List ReceiverCall) {k : ℕ} (hs : lm.Quiet)
    (hmax : msg.length ≤ 65535) (hk : k ≤ 255)
    (h : lm.Receiving msg streamId id crc handled k)
    (hfr : fragments calls = (dataFrames id streamId msg (fragmentCount msg.length)).drop k)
    (ht : GuardedOption receive InTime lm calls) :
    if fragmentCount msg.length ≤ 255 then
      ∃ lm' call, runOption receive lm calls = some lm' ∧
        (∀ c ∈ lm'.receiveContext, c.inUse = false) ∧ lm'.handled = handled ++ [call] ∧
        call.HandsOver msg streamId
    else ∀ lm', runOption receive lm calls = some lm' → lm'.Stuck streamId id handled := by
  induction calls generalizing lm k with
  | nil =>
    have hkn := lt_fragmentCount.mpr h.more
    have hempty := congrArg List.length hfr
    simp only [dataFrames, List.length_drop, List.length_map, List.length_range] at hempty
    change 0 = _ at hempty
    omega
  | cons call calls ih =>
    cases call with
    | process clock =>
      have hcall := receive_process hs ht.1
      have hnext : lm.nextContext.Receiving msg streamId id crc handled k :=
        ⟨h.context, h.more, h.crc, h.handler, h.log⟩
      rw [runOption_cons hcall]
      exact ih hs.nextContext hk hnext hfr (ht.2 _ hcall)
    | fragment frame clock =>
      have hkn := lt_fragmentCount.mpr h.more
      by_cases hwrap : k + 1 < 256
      · rw [dataFrames_drop hkn] at hfr
        obtain ⟨rfl, hrest⟩ := List.cons.inj hfr
        obtain ⟨rs, log, hcall, hcase⟩ := h.next hmax hwrap clock
        have hcall' : lm.receive (.fragment (dataFrame id streamId msg k) clock) = _ := hcall
        rw [runOption_cons hcall']
        split_ifs at hcase with hmore
        · exact @ih { lm with receiveContext := rs, handled := log } _ ⟨hs.idle, hs.turn⟩ (by omega)
            hcase hrest (ht.2 _ hcall')
        · obtain ⟨hidle, c, rfl, hover⟩ := hcase
          have hlast : fragmentCount msg.length = k + 1 := by
            have : ¬ k + 1 < fragmentCount msg.length := fun hc => hmore (lt_fragmentCount.mp hc)
            omega
          have hnone : fragments calls = [] := hrest.trans (by rw [hlast]; simp [dataFrames])
          obtain ⟨lm', hrun, hrs, hlog⟩ := @run_idle
            { lm with receiveContext := rs, handled := handled ++ [c] } calls ⟨hs.idle, hs.turn⟩
            hidle hnone
          rw [if_pos (by omega)]
          exact ⟨lm', c, hrun, by rw [hrs]; exact hidle, hlog, hover⟩
      · have h255 : k = 255 := by omega
        subst h255
        rw [if_neg (by omega)]
        intro lm' hrun
        refine Stuck.run _ hs h.stuck (fun f hf => ?_) ht hrun
        rw [hfr] at hf
        obtain ⟨j, -, rfl⟩ := List.mem_map.mp (List.mem_of_mem_drop hf)
        exact ⟨rfl, rfl⟩

end CBUSLongMessageEx
end CBUSPicoLib
