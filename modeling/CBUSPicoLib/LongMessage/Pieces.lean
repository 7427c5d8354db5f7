import Mathlib.Data.List.GetD
import CBUSPicoLib.LongMessage.ForeignFragments
import CBUSPicoLib.LongMessage.SendingRuns

/-!
# Messages longer than the receive buffer

A full buffer is handed to the user with status `INCOMPLETE` and used again. The payload loop
is left there, so what the fragment carries behind that point is lost. The bytes that
are stored are counted; the message counts as complete when as many bytes as it has are stored.
-/

namespace CBUSPicoLib

def HandlerCall.bytes (call : HandlerCall) : List UInt8 :=
  call.fragment.take call.fragmentLen.toNat

theorem HandlerCall.Passes.bytes_eq {call : HandlerCall} {status : LongMessageStatus}
    {streamId : UInt8} {bytes : List UInt8} (h : call.Passes status streamId bytes) :
    call.bytes = bytes := by
  rw [HandlerCall.bytes, h.length, h.fragment]

theorem getElem_eq_getD {data : Vector UInt8 8} {i : ℕ} (h : i < 8) :
    data[i] = data.getD i 0 := by
  unfold Vector.getD Array.getD
  rw [dif_pos (by rw [Vector.size_toArray]; exact h)]
  rfl

theorem drop_payload_succ (frame : CANFrame) {k : ℕ} (hk : k + 1 ≤ 5) :
    frame.data.toList.drop (8 - (k + 1)) =
      frame.data.getD (7 - k) 0 :: frame.data.toList.drop (8 - k) := by
  have hlt : 7 - k < frame.data.toList.length := by
    rw [Vector.length_toList]
    omega
  rw [show 8 - (k + 1) = 7 - k by omega, List.drop_eq_getElem_cons hlt,
    show 7 - k + 1 = 8 - k by omega, Vector.getElem_toList, getElem_eq_getD (by omega)]

theorem take_set_append {buffer bytes : List UInt8} (p : UInt8) (hb : bytes.length < buffer.length)
    (h : buffer.take bytes.length = bytes) :
    (buffer.set bytes.length p).take (bytes ++ [p]).length = bytes ++ [p] := by
  rw [List.length_append, List.length_singleton, List.take_add_one,
    List.take_set_of_le (le_refl _), h, List.getElem?_set_self hb]
  rfl

def stretch (room : ℕ) : ℕ := room / 5 + 1

/-- The bytes stored after `k` data packets. -/
def stored (room k : ℕ) : ℕ := k / stretch room * room + 5 * (k % stretch room)

/-- Where in the padded message the `j`-th stored byte stands. -/
def source (room j : ℕ) : ℕ := 5 * stretch room * (j / room) + j % room

theorem index_le_room (room k : ℕ) : 5 * (k % stretch room) ≤ room := by
  have hlt := Nat.mod_lt k (show 0 < stretch room from Nat.succ_pos _)
  unfold stretch at hlt ⊢
  omega

/-- One more data packet: five bytes, or as many as the buffer has room for. -/
theorem stored_succ (room k : ℕ) :
    if room - 5 * (k % stretch room) < 5 then
      stored room (k + 1) = stored room k + (room - 5 * (k % stretch room)) ∧
        (k + 1) % stretch room = 0
    else stored room (k + 1) = stored room k + 5 ∧ (k + 1) % stretch room = k % stretch room + 1 := by
  have hpos : 0 < stretch room := Nat.succ_pos _
  have hlt := Nat.mod_lt k hpos
  have hsplit := Nat.div_add_mod k (stretch room)
  have hidx := index_le_room room k
  unfold stored
  split_ifs with hfull
  · -- the last fragment of the stretch
    have hlast : k + 1 = stretch room * (k / stretch room + 1) := by
      have hs : k % stretch room + 1 = stretch room := by
        unfold stretch at hlt hfull ⊢
        omega
      rw [Nat.mul_succ]
      omega
    have hmod : (k + 1) % stretch room = 0 := by rw [hlast, Nat.mul_mod_right]
    have hdiv : (k + 1) / stretch room = k / stretch room + 1 := by
      rw [hlast, Nat.mul_div_cancel_left _ hpos]
    refine ⟨?_, hmod⟩
    rw [hmod, hdiv, Nat.succ_mul]
    omega
  · have hs : k % stretch room + 1 < stretch room := by
      unfold stretch at hlt hfull ⊢
      omega
    have hnext : k + 1 = k % stretch room + 1 + stretch room * (k / stretch room) := by omega
    have hmod : (k + 1) % stretch room = k % stretch room + 1 := by
      rw [hnext, Nat.add_mul_mod_self_left, Nat.mod_eq_of_lt hs]
    have hdiv : (k + 1) / stretch room = k / stretch room := by
      rw [hnext, Nat.add_mul_div_left _ _ hpos, Nat.div_eq_of_lt hs, Nat.zero_add]
    refine ⟨?_, hmod⟩
    rw [hmod, hdiv]
    omega

theorem stored_le (room k : ℕ) : stored room k ≤ 5 * k := by
  induction k with
  | zero => exact le_of_eq (by simp [stored])
  | succ k ih =>
    have hstep := stored_succ room k
    split_ifs at hstep <;> omega

/-- The bytes taken from the `k`-th data packet stand in the message where the packet starts. -/
theorem source_stored {room k i : ℕ} (hi : 5 * (k % stretch room) + i < room) :
    source room (stored room k + i) = 5 * k + i := by
  have hsplit := Nat.div_add_mod k (stretch room)
  unfold source stored
  have hj : k / stretch room * room + 5 * (k % stretch room) + i =
      5 * (k % stretch room) + i + room * (k / stretch room) := by ring
  rw [hj, Nat.add_mul_div_left _ _ (by omega), Nat.add_mul_mod_self_left, Nat.div_eq_of_lt hi,
    Nat.mod_eq_of_lt hi, Nat.zero_add]
  calc 5 * stretch room * (k / stretch room) + (5 * (k % stretch room) + i)
      = 5 * (stretch room * (k / stretch room) + k % stretch room) + i := by ring
    _ = 5 * k + i := by rw [hsplit]

theorem source_of_lt {room j : ℕ} (h : j < room) : source room j = j := by
  unfold source
  rw [Nat.div_eq_of_lt h, Nat.mod_eq_of_lt h, Nat.mul_zero, Nat.zero_add]

theorem lt_source {room j : ℕ} (hroom : 0 < room) (h : room ≤ j) : j < source room j := by
  have hsplit := Nat.div_add_mod j room
  have hlt : room < 5 * stretch room := by
    unfold stretch
    omega
  have hdiv : 0 < j / room := Nat.div_pos h hroom
  have hmul := Nat.mul_lt_mul_of_pos_right hlt hdiv
  unfold source
  omega

/-- The stored bytes of a message: those of the message, if the lost ones are zeros. -/
def storedBytes (room : ℕ) (msg : List UInt8) (n : ℕ) : List UInt8 :=
  (List.range n).map fun j => msg.getD (source room j) 0

theorem length_storedBytes (room : ℕ) (msg : List UInt8) (n : ℕ) :
    (storedBytes room msg n).length = n := by
  rw [storedBytes, List.length_map, List.length_range]

/-- The stored bytes are the message if and only if no byte of it from the first full buffer on
is anything but zero. -/
theorem storedBytes_eq_iff {room : ℕ} (hroom : 0 < room) (msg : List UInt8) :
    storedBytes room msg msg.length = msg ↔ ∀ j, room ≤ j → msg.getD j 0 = 0 := by
  have hget : ∀ j, j < msg.length →
      (storedBytes room msg msg.length).getD j 0 = msg.getD (source room j) 0 := by
    intro j hj
    have hlen : j < (storedBytes room msg msg.length).length := by
      rwa [length_storedBytes]
    rw [List.getD_eq_getElem _ _ hlen]
    simp only [storedBytes, List.getElem_map, List.getElem_range]
  constructor
  · intro heq
    rw [heq] at hget
    -- from the end of the message down: each byte is equal to one further back
    have hdown : ∀ n j, msg.length ≤ j + n → room ≤ j → msg.getD j 0 = 0 := by
      intro n
      induction n with
      | zero =>
        intro j hj _
        exact List.getD_eq_default _ _ hj
      | succ n ih =>
        intro j hj hle
        by_cases hlt : j < msg.length
        · have hnext := lt_source hroom hle
          rw [hget j hlt]
          exact ih _ (by omega) (by omega)
        · exact List.getD_eq_default _ _ (by omega)
    intro j hj
    exact hdown msg.length j (by omega) hj
  · intro hzero
    apply List.ext_getElem
    · exact length_storedBytes room msg _
    · intro j hj hj'
      rw [← List.getD_eq_getElem _ 0 hj, ← List.getD_eq_getElem _ 0 hj', hget j hj']
      by_cases hlt : j < room
      · rw [source_of_lt hlt]
      · have hnext := lt_source hroom (Nat.le_of_not_lt hlt)
        rw [hzero j (by omega), hzero _ (by omega)]

/-- The payload of a data packet continues the stored bytes, as far as the buffer has room. -/
theorem storedBytes_packet {room k t : ℕ} (id : UInt32) (streamId : UInt8) (msg : List UInt8)
    (ht : t ≤ 5) (hroom : 5 * (k % stretch room) + t ≤ room) :
    storedBytes room msg (stored room k + t) =
      storedBytes room msg (stored room k) ++ (dataFrame id streamId msg k).payload.take t := by
  have hpayload : (dataFrame id streamId msg k).payload =
      (List.range 5).map fun i => msg.getD (5 * k + i) 0 := rfl
  rw [hpayload, ← List.map_take, List.take_range, min_eq_left ht, storedBytes, List.range_add,
    List.map_append, List.map_map, storedBytes]
  congr 1
  apply List.map_congr_left
  intro i hi
  rw [Function.comp_apply, source_stored (by have := List.mem_range.mp hi; omega)]

namespace LongMessageReceiver

variable {r : LongMessageReceiver} {len n : ℕ} {bytes : List UInt8}

/-- `n` bytes of a message have been stored, of which `bytes` are still in the buffer. -/
structure Holding (r : LongMessageReceiver) (len : ℕ) (bytes : List UInt8) (n : ℕ) : Prop where
  length : r.incomingMessageLength.toNat = len
  received : r.incomingBytesReceived.toNat = n
  index : r.receiveBufferIndex.toNat = bytes.length
  taken : r.receiveBuffer.take bytes.length = bytes
  room : bytes.length ≤ r.receiveBufferLen.toNat
  allocated : r.receiveBufferLen.toNat ≤ r.receiveBuffer.length
  handler : r.messagehandler = true

theorem Holding.flushBuffer (h : r.Holding len bytes n) (status : LongMessageStatus) :
    ∃ call buffer, r.flushBuffer status = some { r with
        handled := r.handled ++ [call]
        receiveBufferIndex := 0
        receiveBuffer := buffer } ∧
      buffer.length = r.receiveBuffer.length ∧ call.Passes status r.receiveStreamId bytes := by
  obtain ⟨buffer, hbuffer, hblen⟩ := memset_eq_some h.allocated
  refine ⟨r.report status, buffer, ?_, hblen, rfl, rfl, h.index, h.taken⟩
  unfold LongMessageReceiver.flushBuffer
  rw [callHandler_eq h.handler, Option.bind_eq_bind, Option.bind_some]
  dsimp only
  rw [hbuffer]
  rfl

theorem Holding.store (h : r.Holding len bytes n) (hn : n < len)
    (hroom : bytes.length < r.receiveBufferLen.toNat) (p : UInt8) :
    ∃ buffer, CBUSPicoLib.store r.receiveBuffer r.receiveBufferIndex p = some buffer ∧
      Holding { r with
        receiveBuffer := buffer
        receiveBufferIndex := r.receiveBufferIndex + 1
        incomingBytesReceived := r.incomingBytesReceived + 1 } len (bytes ++ [p]) (n + 1) := by
  have halloc := h.allocated
  have hlt := r.incomingMessageLength.toNat_lt
  have hlt' := r.receiveBufferLen.toNat_lt
  have hlen := h.length
  have hone : (1 : UInt32).toNat = 1 := rfl
  have hsucc : (bytes ++ [p]).length = bytes.length + 1 := by
    rw [List.length_append, List.length_singleton]
  refine ⟨_, store_eq_some _ (by rw [h.index]; omega), h.length, ?_, ?_, ?_, ?_, ?_, h.handler⟩
  · change (r.incomingBytesReceived + 1).toNat = _
    rw [UInt32.toNat_add, h.received, hone]
    exact Nat.mod_eq_of_lt (by omega)
  · change (r.receiveBufferIndex + 1).toNat = _
    rw [UInt32.toNat_add, h.index, hone, hsucc]
    exact Nat.mod_eq_of_lt (by omega)
  · change (r.receiveBuffer.set r.receiveBufferIndex.toNat p).take _ = _
    rw [h.index]
    exact take_set_append p (by omega) h.taken
  · change (bytes ++ [p]).length ≤ r.receiveBufferLen.toNat
    omega
  · change _ ≤ (r.receiveBuffer.set r.receiveBufferIndex.toNat p).length
    rw [List.length_set]
    exact h.allocated

theorem Holding.takeBytes_full {frame : CANFrame} (h : r.Holding len bytes n)
    (hfull : bytes.length = r.receiveBufferLen.toNat) (k : ℕ) :
    ∃ buffer call, LongMessageReceiver.takeBytes frame (k + 1) r = some { r with
        receiveBuffer := buffer
        receiveBufferIndex := 0
        handled := r.handled ++ [call] } ∧
      Holding { r with
        receiveBuffer := buffer
        receiveBufferIndex := 0
        handled := r.handled ++ [call] } len [] n ∧
      call.Passes .incomplete r.receiveStreamId bytes := by
  obtain ⟨call, buffer, hflush, hblen, hcall⟩ := h.flushBuffer .incomplete
  have hle : r.receiveBufferLen ≤ r.receiveBufferIndex := by
    rw [UInt32.le_iff_toNat_le, h.index, hfull]
  unfold LongMessageReceiver.takeBytes
  rw [if_pos hle, hflush]
  refine ⟨buffer, call, rfl, ⟨h.length, h.received, rfl, rfl, Nat.zero_le _, ?_, h.handler⟩, hcall⟩
  change r.receiveBufferLen.toNat ≤ buffer.length
  rw [hblen]
  exact h.allocated

/-- The last byte of the message is stored, and what is in the buffer goes to the handler. -/
theorem Holding.takeBytes_last {frame : CANFrame} (h : r.Holding len bytes n) (hn : n + 1 = len)
    (hroom : bytes.length < r.receiveBufferLen.toNat) (k : ℕ) :
    ∃ buffer call, LongMessageReceiver.takeBytes frame (k + 1) r = some { r with
        receiveBuffer := buffer
        receiveBufferIndex := 0
        incomingBytesReceived := r.incomingBytesReceived + 1
        handled := r.handled ++ [call] } ∧
      (r.incomingBytesReceived + 1).toNat = len ∧
      call.Passes .complete r.receiveStreamId (bytes ++ [frame.data.getD (7 - k) 0]) := by
  obtain ⟨buffer, hstore, hnext⟩ := h.store (by omega) hroom (frame.data.getD (7 - k) 0)
  obtain ⟨call, buffer', hflush, -, hcall⟩ := hnext.flushBuffer .complete
  have hreceived : (r.incomingBytesReceived + 1).toNat = len := hnext.received.trans hn
  have hfull : ¬ r.receiveBufferLen ≤ r.receiveBufferIndex := by
    rw [UInt32.le_iff_toNat_le, h.index]
    omega
  have hdone : r.incomingMessageLength ≤ r.incomingBytesReceived + 1 := by
    rw [UInt32.le_iff_toNat_le, h.length, hreceived]
  unfold LongMessageReceiver.takeBytes
  rw [if_neg hfull, hstore, Option.bind_eq_bind, Option.bind_some]
  dsimp only
  rw [if_pos hdone, hflush]
  exact ⟨buffer', call, rfl, hreceived, hcall⟩

theorem Holding.takeBytes_more {frame : CANFrame} (h : r.Holding len bytes n) (hn : n + 1 < len)
    (hroom : bytes.length < r.receiveBufferLen.toNat) (k : ℕ) :
    ∃ buffer, LongMessageReceiver.takeBytes frame (k + 1) r =
        LongMessageReceiver.takeBytes frame k { r with
          receiveBuffer := buffer
          receiveBufferIndex := r.receiveBufferIndex + 1
          incomingBytesReceived := r.incomingBytesReceived + 1 } ∧
      Holding { r with
        receiveBuffer := buffer
        receiveBufferIndex := r.receiveBufferIndex + 1
        incomingBytesReceived := r.incomingBytesReceived + 1 } len
          (bytes ++ [frame.data.getD (7 - k) 0]) (n + 1) := by
  obtain ⟨buffer, hstore, hnext⟩ := h.store (by omega) hroom (frame.data.getD (7 - k) 0)
  have hreceived : (r.incomingBytesReceived + 1).toNat = n + 1 := hnext.received
  have hfull : ¬ r.receiveBufferLen ≤ r.receiveBufferIndex := by
    rw [UInt32.le_iff_toNat_le, h.index]
    omega
  have hopen : ¬ r.incomingMessageLength ≤ r.incomingBytesReceived + 1 := by
    rw [UInt32.le_iff_toNat_le, h.length, hreceived]
    omega
  refine ⟨buffer, ?_, hnext⟩
  conv_lhs => unfold LongMessageReceiver.takeBytes
  rw [if_neg hfull, hstore, Option.bind_eq_bind, Option.bind_some]
  dsimp only
  rw [if_neg hopen]

/-- What the payload loop makes of the bytes `ps` that it still has to look at. -/
theorem Holding.takeBytes {frame : CANFrame} (k : ℕ) {ps : List UInt8} (h : r.Holding len bytes n)
    (hn : n < len) (hk : k ≤ 5) (hps : frame.data.toList.drop (8 - k) = ps) :
    ∃ (buffer : List UInt8) (index received : UInt32) (handled : List HandlerCall),
      LongMessageReceiver.takeBytes frame k r = some { r with
        receiveBuffer := buffer
        receiveBufferIndex := index
        incomingBytesReceived := received
        handled := handled } ∧
      let room := r.receiveBufferLen.toNat - bytes.length
      let r' := { r with
        receiveBuffer := buffer
        receiveBufferIndex := index
        incomingBytesReceived := received
        handled := handled }
      if len - n ≤ min k room then
        received.toNat = len ∧ index = 0 ∧ ∃ call, handled = r.handled ++ [call] ∧
          call.Passes .complete r.receiveStreamId (bytes ++ ps.take (len - n))
      else if room < k then
        r'.Holding len [] (n + room) ∧ ∃ call, handled = r.handled ++ [call] ∧
          call.Passes .incomplete r.receiveStreamId (bytes ++ ps.take room)
      else r'.Holding len (bytes ++ ps) (n + k) ∧ handled = r.handled := by
  induction k generalizing r bytes n ps with
  | zero =>
    have hnil : ps = [] := by
      rw [← hps]
      exact List.drop_eq_nil_of_le (by simp)
    refine ⟨_, _, _, _, rfl, ?_⟩
    dsimp only
    rw [if_neg (by omega), if_neg (by omega), hnil, List.append_nil]
    exact ⟨h, rfl⟩
  | succ k ih =>
    have hcons := drop_payload_succ frame hk
    rw [hps] at hcons
    rcases Nat.eq_or_lt_of_le h.room with hfull | hroom
    · obtain ⟨buffer, call, htake, hnext, hcall⟩ := @Holding.takeBytes_full _ _ _ _ frame h hfull k
      refine ⟨buffer, _, _, _, htake, ?_⟩
      dsimp only
      rw [hfull, Nat.sub_self, if_neg (by omega), if_pos (by omega), List.take_zero,
        List.append_nil]
      exact ⟨hnext, call, rfl, hcall⟩
    · by_cases hend : n + 1 = len
      · obtain ⟨buffer, call, htake, hreceived, hcall⟩ :=
          @Holding.takeBytes_last _ _ _ _ frame h hend hroom k
        have hone : len - n = 1 := by omega
        refine ⟨buffer, _, _, _, htake, ?_⟩
        rw [if_pos (by omega), hone, hcons]
        exact ⟨hreceived, rfl, call, rfl, hcall⟩
      · obtain ⟨buffer, htake, hnext⟩ :=
          @Holding.takeBytes_more _ _ _ _ frame h (by omega) hroom k
        obtain ⟨buffer', index, received, handled, hloop, hcase⟩ :=
          ih hnext (by omega) (by omega) rfl
        refine ⟨buffer', index, received, handled, htake.trans hloop, ?_⟩
        have hsucc : (bytes ++ [frame.data.getD (7 - k) 0]).length = bytes.length + 1 := by
          rw [List.length_append, List.length_singleton]
        -- the bytes taken with the first one, and without it
        have htake : ∀ m, bytes ++ ps.take (m + 1) = bytes ++ [frame.data.getD (7 - k) 0] ++
            (frame.data.toList.drop (8 - k)).take m := by
          intro m
          rw [hcons, List.take_succ_cons, List.append_assoc]
          rfl
        dsimp only at hcase ⊢
        rw [hsucc] at hcase
        split_ifs at hcase with hdone hover
        · rw [if_pos (by omega), show len - n = len - (n + 1) + 1 by omega, htake]
          exact hcase
        · rw [if_neg (by omega), if_pos (by omega),
            show r.receiveBufferLen.toNat - bytes.length =
              r.receiveBufferLen.toNat - (bytes.length + 1) + 1 by omega, htake,
            ← Nat.add_assoc, Nat.add_right_comm]
          exact hcase
        · rw [if_neg (by omega), if_neg (by omega), hcons, Nat.add_comm k 1, ← Nat.add_assoc,
            List.append_cons]
          exact hcase

/-- A receiver that is subscribed to the stream, with a buffer of `room` bytes. -/
structure Listening (r : LongMessageReceiver) (room : ℕ) (streamId : UInt8) : Prop
    extends Subscribed r where
  idle : r.isReceiving = false
  subscribed : streamId ∈ r.streamIds
  size : r.receiveBufferLen.toNat = room

/-- The handler has got pieces of the message, and the buffer holds more of it. -/
def HasPassed (r : LongMessageReceiver) (room : ℕ) (msg : List UInt8) (handled : List HandlerCall)
    (k : ℕ) : Prop :=
  ∃ (pieces : List HandlerCall) (bytes : List UInt8),
    r.Holding msg.length bytes (stored room k) ∧ bytes.length = 5 * (k % stretch room) ∧
    r.handled = handled ++ pieces ∧ (∀ piece ∈ pieces, piece.status = .incomplete) ∧
    pieces.flatMap HandlerCall.bytes ++ bytes = storedBytes room msg (stored room k)

/-- `k` data packets of the message have been received, and it is not complete. -/
structure Cutting (r : LongMessageReceiver) (room : ℕ) (msg : List UInt8) (streamId : UInt8)
    (id : UInt32) (handled : List HandlerCall) (k : ℕ) : Prop where
  receiving : r.isReceiving = true
  stream : r.receiveStreamId = streamId
  sender : id &&& 0x7f = r.senderCanid.toUInt32
  seq : r.expectedNextReceiveSequenceNum.toNat = k + 1
  more : stored room k < msg.length
  size : r.receiveBufferLen.toNat = room
  passed : r.HasPassed room msg handled k

/-- The message has gone to the handler in pieces with these bytes, and the receiver is idle. -/
def Delivered (r : LongMessageReceiver) (handled : List HandlerCall) (bytes : List UInt8) : Prop :=
  r.isReceiving = false ∧ ∃ (pieces : List HandlerCall) (last : HandlerCall),
    r.handled = handled ++ pieces ++ [last] ∧ (∀ piece ∈ pieces, piece.status = .incomplete) ∧
    last.status = .complete ∧ (pieces ++ [last]).flatMap HandlerCall.bytes = bytes

variable {msg : List UInt8} {streamId : UInt8} {id : UInt32} {handled : List HandlerCall}
  {room k : ℕ}

theorem Listening.header (h : r.Listening room streamId) (hpos : 0 < msg.length)
    (hmax : msg.length ≤ 65535) (id : UInt32) (crc : UInt16) (clock : Clock) :
    ∃ r', r.processReceivedMessageFragment (headerFrame id streamId msg.length crc) clock =
        some r' ∧ r'.Cutting room msg streamId id r.handled 0 := by
  obtain ⟨buffer, hbuffer, hblen⟩ := memset_eq_some h.allocated
  have hlen := toNat_word_bytes hmax
  have hheader := @receiveHeader_subscribed streamId { r with lastFragmentReceived := clock 0 }
    h.subscribed buffer hbuffer id msg.length crc
  rw [processReceivedMessageFragment_idle h.idle, hheader, Option.bind_some]
  unfold afterFragment
  rw [finishMessage_of_lt (by dsimp only; rw [hlen]; exact hpos)]
  have hnone : stored room 0 = 0 := by
    rw [stored, Nat.zero_div, Nat.zero_mod, Nat.zero_mul]
  refine ⟨_, rfl, rfl, rfl, (toUInt32_toUInt8_canid id).symm, rfl, by rwa [hnone], h.size, [], [],
    ⟨hlen, hnone.symm, rfl, rfl, Nat.zero_le _, ?_, h.handler⟩, ?_, ?_, ?_, ?_⟩
  · rw [hblen]
    exact h.allocated
  · rw [Nat.zero_mod]
    rfl
  · rw [List.append_nil]
  · intro piece hp
    exact absurd hp List.not_mem_nil
  · rw [hnone]
    rfl

/-- The pieces passed, when one more call passes what the buffer holds and the first bytes of the
next packet. -/
theorem flatMap_pieces {pieces : List HandlerCall} {call : HandlerCall} {status : LongMessageStatus}
    {t : ℕ} (h : pieces.flatMap HandlerCall.bytes ++ bytes = storedBytes room msg (stored room k))
    (ht : t ≤ 5) (hroom : 5 * (k % stretch room) + t ≤ room)
    (hcall : call.Passes status r.receiveStreamId
      (bytes ++ (dataFrame id streamId msg k).payload.take t)) :
    (pieces ++ [call]).flatMap HandlerCall.bytes = storedBytes room msg (stored room k + t) := by
  rw [List.flatMap_append, List.flatMap_singleton, hcall.bytes_eq, ← List.append_assoc, h,
    storedBytes_packet id streamId msg ht hroom]

/-- A data packet that arrives when it is expected: the message goes on, or is complete. -/
theorem Cutting.next (h : r.Cutting room msg streamId id handled k) (hk : k + 1 < 256)
    (clock : Clock) :
    ∃ r', r.processReceivedMessageFragment (dataFrame id streamId msg k) clock = some r' ∧
      if stored room (k + 1) < msg.length then r'.Cutting room msg streamId id handled (k + 1)
      else r'.Delivered handled (storedBytes room msg msg.length) := by
  have hfragment := @receiveFragment_dataFrame msg streamId
    { r with lastFragmentReceived := clock 0 } id k h.stream h.sender h.seq hk
  have hcount := toNat_sequence_succ h.seq hk
  obtain ⟨pieces, bytes, hold, hbytes, hlog, hpieces, hstored⟩ := h.passed
  have hold' : Holding { r with lastFragmentReceived := clock 0 } msg.length bytes
      (stored room k) :=
    ⟨hold.length, hold.received, hold.index, hold.taken, hold.room, hold.allocated, hold.handler⟩
  obtain ⟨buffer, index, received, handled', htake, hcase⟩ := @Holding.takeBytes _ _ _ _
    (dataFrame id streamId msg k) 5 _ hold' h.more le_rfl rfl
  have hmore := h.more
  have hidx := index_le_room room k
  have hstep := stored_succ room k
  have hpayload : (dataFrame id streamId msg k).data.toList.drop (8 - 5) =
      (dataFrame id streamId msg k).payload := rfl
  dsimp only at hcase
  rw [hpayload, h.size, hbytes] at hcase
  rw [processReceivedMessageFragment_receiving h.receiving, hfragment, htake, Option.bind_some]
  unfold afterFragment
  split_ifs at hcase with hdone hfull
  · obtain ⟨hreceived, hindex, call, hcalls, hcall⟩ := hcase
    have hfin : (0 : UInt32) < r.incomingMessageLength ∧ r.incomingMessageLength ≤ received := by
      rw [UInt32.lt_iff_toNat_lt, UInt32.le_iff_toNat_le, hold.length, hreceived]
      exact ⟨by change 0 < _; omega, le_rfl⟩
    unfold finishMessage
    rw [if_pos hfin, hindex]
    refine ⟨_, rfl, ?_⟩
    rw [if_neg (by split_ifs at hstep <;> omega)]
    refine ⟨rfl, pieces, call, ?_, hpieces, hcall.status, ?_⟩
    · rw [← hlog]
      exact hcalls
    · rw [flatMap_pieces hstored (by omega) (by omega) hcall,
        Nat.add_sub_cancel' (Nat.le_of_lt hmore)]
  · obtain ⟨hnext, call, hcalls, hcall⟩ := hcase
    rw [if_pos hfull] at hstep
    have hl := hnext.length
    have hb := hnext.received
    dsimp only at hl hb
    rw [finishMessage_of_lt (by dsimp only; rw [hl, hb]; omega)]
    refine ⟨_, rfl, ?_⟩
    rw [if_pos (by omega)]
    refine ⟨h.receiving, h.stream, h.sender, hcount, by omega, h.size, pieces ++ [call], [], ?_, ?_,
      ?_, ?_, ?_⟩
    · rw [hstep.1]
      exact ⟨hl, hb, hnext.index, hnext.taken, hnext.room, hnext.allocated, hnext.handler⟩
    · rw [hstep.2]
      rfl
    · rw [← List.append_assoc, ← hlog]
      exact hcalls
    · intro piece hp
      rcases List.mem_append.mp hp with hp | hp
      · exact hpieces piece hp
      · rw [List.mem_singleton.mp hp]
        exact hcall.status
    · rw [List.append_nil, hstep.1, flatMap_pieces hstored (by omega) (by omega) hcall]
  · obtain ⟨hnext, hcalls⟩ := hcase
    rw [if_neg hfull] at hstep
    have hl := hnext.length
    have hb := hnext.received
    dsimp only at hl hb
    rw [finishMessage_of_lt (by dsimp only; rw [hl, hb]; omega)]
    refine ⟨_, rfl, ?_⟩
    rw [if_pos (by omega)]
    refine ⟨h.receiving, h.stream, h.sender, hcount, by omega, h.size, pieces,
      bytes ++ (dataFrame id streamId msg k).payload, ?_, ?_, ?_, hpieces, ?_⟩
    · rw [hstep.1]
      exact ⟨hl, hb, hnext.index, hnext.taken, hnext.room, hnext.allocated, hnext.handler⟩
    · rw [hstep.2, List.length_append, hbytes]
      rfl
    · rw [← hlog]
      exact hcalls
    · rw [← List.append_assoc, hstored, hstep.1, storedBytes_packet id streamId msg le_rfl (by omega)]
      rfl

end LongMessageReceiver

namespace CBUSLongMessage

open Runs

variable {lm : CBUSLongMessage} {msg : List UInt8} {streamId : UInt8} {id : UInt32}
  {handled : List HandlerCall} {room k : ℕ}

theorem receive_process_inTime (h : lm.InBuffer) {clock : Clock}
    (ht : lm.timedOut (clock 0) = false) :
    ∃ s, lm.receive (.process clock) = some { lm with toLongMessageSender := s } ∧ s.InBuffer := by
  obtain ⟨ret, s, hs, hbuffer⟩ := h.sendNext (clock 1) (clock 2)
  have hcheck : lm.checkTimeout (clock 0) = some lm.toLongMessageReceiver := by
    unfold LongMessageReceiver.checkTimeout
    rw [if_neg (by rw [ht]; exact Bool.false_ne_true)]
  exact ⟨s, receive_process_eq hcheck hs, hbuffer⟩

theorem run_delivered (calls : List ReceiverCall) {bytes : List UInt8} (hs : lm.InBuffer)
    (h : lm.Delivered handled bytes) (hfr : fragments calls = []) :
    ∃ lm', runOption receive lm calls = some lm' ∧ lm'.Delivered handled bytes := by
  induction calls generalizing lm with
  | nil => exact ⟨lm, rfl, h⟩
  | cons call calls ih =>
    cases call with
    | fragment frame clock => exact absurd hfr (List.cons_ne_nil _ _)
    | process clock =>
      have ht : lm.timedOut (clock 0) = false := by
        unfold LongMessageReceiver.timedOut
        rw [h.1]
        rfl
      obtain ⟨s, hcall, hs'⟩ := receive_process_inTime hs ht
      rw [runOption_cons hcall]
      exact @ih { lm with toLongMessageSender := s } hs' h hfr

theorem run_cutting (calls : List ReceiverCall) (hs : lm.InBuffer) (hmax : msg.length ≤ 1275)
    (h : lm.Cutting room msg streamId id handled k) (hk : k ≤ fragmentCount msg.length)
    (hfr : fragments calls = (dataFrames id streamId msg (fragmentCount msg.length)).drop k)
    (ht : GuardedOption receive InTime lm calls) :
    ∃ lm', runOption receive lm calls = some lm' ∧
      if stored room (fragmentCount msg.length) < msg.length then lm'.isReceiving = true
      else lm'.Delivered handled (storedBytes room msg msg.length) := by
  induction calls generalizing lm k with
  | nil =>
    have hempty := congrArg List.length hfr
    rw [List.length_drop, length_dataFrames] at hempty
    change 0 = _ at hempty
    obtain rfl : k = fragmentCount msg.length := by omega
    refine ⟨lm, rfl, ?_⟩
    rw [if_pos h.more]
    exact h.receiving
  | cons call calls ih =>
    cases call with
    | process clock =>
      obtain ⟨s, hcall, hs'⟩ := receive_process_inTime hs ht.1
      rw [runOption_cons hcall]
      exact @ih { lm with toLongMessageSender := s } _ hs' h hk hfr (ht.2 _ hcall)
    | fragment frame clock =>
      have hkn : k < fragmentCount msg.length := by
        by_contra hle
        rw [List.drop_eq_nil_of_le (by rw [length_dataFrames]; omega)] at hfr
        exact absurd hfr (List.cons_ne_nil _ _)
      have hcount : fragmentCount msg.length ≤ 255 := fragmentCount_le_iff.mpr hmax
      rw [dataFrames_drop hkn] at hfr
      obtain ⟨rfl, hrest⟩ := List.cons.inj hfr
      obtain ⟨r, hr, hcase⟩ := h.next (by omega) clock
      have hcall := receive_fragment_eq hr
      rw [runOption_cons hcall]
      split_ifs at hcase with hmore
      · exact @ih { lm with toLongMessageReceiver := r } _ hs hcase hkn hrest (ht.2 _ hcall)
      · -- only the last data packet can complete the message
        have hle := stored_le room (k + 1)
        have hlast : fragmentCount msg.length = k + 1 := by
          have hnot : ¬ k + 1 < fragmentCount msg.length := fun hc => by
            have := lt_fragmentCount.mp hc
            omega
          omega
        have hnone : fragments calls = [] := by
          refine hrest.trans (List.drop_eq_nil_of_le ?_)
          rw [length_dataFrames, hlast]
        obtain ⟨lm', hrun, hdone⟩ :=
          @run_delivered { lm with toLongMessageReceiver := r } _ calls _ hs hcase hnone
        refine ⟨lm', hrun, ?_⟩
        rw [hlast, if_neg hmore]
        exact hdone

theorem run_listening (calls : List ReceiverCall) (hs : lm.InBuffer)
    (h : lm.Listening room streamId) (hpos : 0 < msg.length) (hmax : msg.length ≤ 1275)
    {crc : UInt16} (hfr : fragments calls = messageFrames id streamId msg crc)
    (ht : GuardedOption receive InTime lm calls) :
    ∃ lm', runOption receive lm calls = some lm' ∧
      if stored room (fragmentCount msg.length) < msg.length then lm'.isReceiving = true
      else lm'.Delivered lm.handled (storedBytes room msg msg.length) := by
  induction calls generalizing lm with
  | nil => exact absurd hfr (List.cons_ne_nil _ _).symm
  | cons call calls ih =>
    cases call with
    | process clock =>
      obtain ⟨s, hcall, hs'⟩ := receive_process_inTime hs ht.1
      rw [runOption_cons hcall]
      exact @ih { lm with toLongMessageSender := s } hs' h hfr (ht.2 _ hcall)
    | fragment frame clock =>
      obtain ⟨rfl, hrest⟩ := List.cons.inj hfr
      obtain ⟨r, hr, hcut⟩ := h.header hpos (by omega) id crc clock
      have hcall := receive_fragment_eq hr
      rw [runOption_cons hcall]
      exact @run_cutting { lm with toLongMessageReceiver := r } _ _ _ _ _ _ calls hs hmax hcut
        (Nat.zero_le _) hrest (ht.2 _ hcall)

/-- The handler has got the message in pieces: all but the last with status `INCOMPLETE`, the last
with status `COMPLETE`, nothing lost, and the object waits for the next message. -/
def DeliversInPieces (lm : CBUSLongMessage) (msg : List UInt8) (calls : List ReceiverCall) : Prop :=
  ∃ lm', runOption receive lm calls = some lm' ∧ lm'.Delivered lm.handled msg

/-- A message of at most 1275 bytes that arrives in order and in time is delivered in pieces exactly
if the last packet brings as many bytes as are lost at the ends of the full buffers, and the message
has nothing but zeros behind the first of them. -/
theorem deliversInPieces_iff (lm : CBUSLongMessage) (hs : lm.InBuffer) (room : ℕ)
    (hroom : 0 < room) (streamId : UInt8) (h : lm.Listening room streamId) (msg : List UInt8)
    (hpos : 0 < msg.length) (hmax : msg.length ≤ 1275) (id : UInt32) (crc : UInt16)
    (calls : List ReceiverCall) (hfr : fragments calls = messageFrames id streamId msg crc)
    (ht : GuardedOption receive InTime lm calls) :
    lm.DeliversInPieces msg calls ↔
      msg.length ≤ stored room (fragmentCount msg.length) ∧ ∀ j, room ≤ j → msg.getD j 0 = 0 := by
  obtain ⟨lm', hrun, hcase⟩ := run_listening calls hs h hpos hmax hfr ht
  rw [← storedBytes_eq_iff hroom msg]
  constructor
  · rintro ⟨lm'', hrun', hidle, pieces, last, hlog, hpieces, hlast, hbytes⟩
    cases Option.some.inj (hrun.symm.trans hrun')
    split_ifs at hcase with hmore
    · exact absurd (hcase.symm.trans hidle) (by decide)
    · refine ⟨Nat.le_of_not_lt hmore, ?_⟩
      obtain ⟨-, pieces', last', hlog', -, -, hbytes'⟩ := hcase
      rw [hlog, List.append_assoc, List.append_assoc] at hlog'
      rw [← hbytes', ← List.append_cancel_left hlog', hbytes]
  · rintro ⟨hle, heq⟩
    rw [if_neg (by omega), heq] at hcase
    exact ⟨lm', hrun, hcase⟩

theorem deliversInPieces_iff_zeros :
    (smallReceiver 4).DeliversInPieces [1, 2, 3, 4, 0, 0]
        (handOver (messageFrames 1 7 [1, 2, 3, 4, 0, 0] 0)) ↔
      6 ≤ stored 4 (fragmentCount 6) ∧
        ∀ j, 4 ≤ j → ([1, 2, 3, 4, 0, 0] : List UInt8).getD j 0 = 0 :=
  deliversInPieces_iff (smallReceiver 4) (fun h => absurd h (by decide)) 4 (by decide) 7
    ⟨⟨rfl, le_rfl⟩, rfl, List.mem_singleton.mpr rfl, rfl⟩ [1, 2, 3, 4, 0, 0] (by decide) (by decide)
    1 0 _ (fragments_handOver _) (guarded_handOver _ _)

/-- The last byte of eleven is lost when the buffer is full with ten, and the message is never
complete. -/
theorem not_deliversInPieces_eleven :
    let msg : List UInt8 := [0, 1, 2, 3, 4, 5, 6, 7, 8, 9, 10]
    let calls := handOver (messageFrames 1 7 msg 0)
    (smallReceiver 10).InBuffer ∧ (smallReceiver 10).Listening 10 7 ∧
      GuardedOption receive InTime (smallReceiver 10) calls ∧
      ¬ (smallReceiver 10).DeliversInPieces msg calls := by
  intro msg calls
  refine ⟨fun h => absurd h (by decide), ⟨⟨rfl, le_rfl⟩, rfl, List.mem_singleton.mpr rfl, rfl⟩,
    guarded_handOver _ _, ?_⟩
  rintro ⟨lm', hrun, hidle, -⟩
  have hreceiving : (runOption receive (smallReceiver 10) calls).map (·.isReceiving) =
      some true := by decide +kernel
  rw [hrun, Option.map_some, hidle] at hreceiving
  exact absurd hreceiving (by decide)

end CBUSLongMessage
end CBUSPicoLib
