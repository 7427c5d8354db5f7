import CBUSPicoLib.LongMessage.Plain

/-!
# The fragments of a long message

A message travels as a header frame and one data frame for every five bytes. The
sequence number of a data frame is a single byte. The sending side of
`CBUSLongMessage` emits exactly these frames.
-/

namespace CBUSPicoLib

namespace CBUSbase

def transmittedFrames (n : CBUSbase) : List CANFrame :=
  n.port.trace.filterMap fun
    | .transmitted f => some f
    | _ => none

/-- The CAN controller accepts every frame. -/
def Transmits (n : CBUSbase) : Prop := ∀ k, n.port.tx k = []

/-- What sending a frame does when the controller accepts it. -/
structure Sends (n : CBUSbase) (msg : CANFrame) (m : CBUSbase) : Prop where
  transmits : m.Transmits
  moduleConfig : m.moduleConfig = n.moduleConfig
  frames : m.transmittedFrames = n.transmittedFrames ++ [msg]

theorem sendMessage_transmits {n : CBUSbase} (h : n.Transmits) (msg : CANFrame) (priority : UInt8) :
    (n.sendMessage msg false false priority).1 = true ∧
      n.Sends (n.makeHeader msg priority) (n.sendMessage msg false false priority).2.2 := by
  have htx : (n.emit (.sendMessage msg)).port.tx 0 = [] := h 0
  have hfwd : ∀ m : CBUSbase, m.forward msg false = m ∨
      m.forward msg false = m.emit (.sendCANFrame msg false) := by
    intro m
    unfold forward
    split_ifs
    · exact Or.inr rfl
    · exact Or.inl rfl
  unfold sendMessage
  simp only [htx]
  refine ⟨trivial, ?_⟩
  rcases hfwd (n.emit (.sendMessage msg)) with hf | hf <;> rw [hf]
  · exact ⟨fun k => h (k + 1), rfl, by simp [transmittedFrames, emit, sendHeader, makeHeader]⟩
  · exact ⟨fun k => h (k + 1), rfl, by simp [transmittedFrames, emit, sendHeader, makeHeader]⟩

end CBUSbase

def fragmentId (canId priority : UInt8) : UInt32 :=
  UInt32.ofNat ((priority.toNat <<< 7) + (canId &&& 0x7f).toNat)

def headerFrame (id : UInt32) (streamId : UInt8) (len : ℕ) (crc : UInt16) : CANFrame where
  id := id
  len := 8
  data := #v[opcDtxc, streamId, 0, highByte len, lowByte len, highByte crc.toNat,
    lowByte crc.toNat, 0]

/-- The `k`-th data packet, counted from zero, padded with zeros. -/
def dataFrame (id : UInt32) (streamId : UInt8) (msg : List UInt8) (k : ℕ) : CANFrame where
  id := id
  len := 8
  data := #v[opcDtxc, streamId, UInt8.ofNat (k + 1), msg.getD (5 * k) 0, msg.getD (5 * k + 1) 0,
    msg.getD (5 * k + 2) 0, msg.getD (5 * k + 3) 0, msg.getD (5 * k + 4) 0]

def fragmentCount (len : ℕ) : ℕ := (len + 4) / 5

def dataFrames (id : UInt32) (streamId : UInt8) (msg : List UInt8) (k : ℕ) : List CANFrame :=
  (List.range k).map (dataFrame id streamId msg)

theorem dataFrames_succ (id : UInt32) (streamId : UInt8) (msg : List UInt8) (k : ℕ) :
    dataFrames id streamId msg (k + 1) =
      dataFrames id streamId msg k ++ [dataFrame id streamId msg k] := by
  simp [dataFrames, List.range_succ]

def messageFrames (id : UInt32) (streamId : UInt8) (msg : List UInt8) (crc : UInt16) :
    List CANFrame :=
  headerFrame id streamId msg.length crc :: dataFrames id streamId msg (fragmentCount msg.length)

theorem lt_fragmentCount {len k : ℕ} : k < fragmentCount len ↔ 5 * k < len := by
  unfold fragmentCount
  omega

theorem dataFrames_drop {id : UInt32} {streamId : UInt8} {msg : List UInt8} {k n : ℕ} (h : k < n) :
    (dataFrames id streamId msg n).drop k =
      dataFrame id streamId msg k :: (dataFrames id streamId msg n).drop (k + 1) := by
  rw [List.drop_eq_getElem_cons (by simpa [dataFrames] using h)]
  simp [dataFrames]

theorem dataFrame_seq_ne (id : UInt32) (streamId : UInt8) (msg : List UInt8) {k : ℕ}
    (hk : k + 1 < 256) : (dataFrame id streamId msg k).data.get 2 ≠ 0 := by
  intro h0
  have hseq : (UInt8.ofNat (k + 1)).toNat = 0 := congrArg UInt8.toNat h0
  rw [UInt8.toNat_ofNat'] at hseq
  omega

theorem toUInt32_toUInt8_canid (id : UInt32) : (id &&& 0x7f).toUInt8.toUInt32 = id &&& 0x7f := by
  have hlt : (id &&& 0x7f).toNat < 2 ^ 7 := by
    rw [UInt32.toNat_and]
    exact Nat.and_lt_two_pow _ (by decide)
  apply UInt32.toNat_inj.mp
  rw [UInt8.toNat_toUInt32, UInt32.toNat_toUInt8]
  exact Nat.mod_eq_of_lt (by omega)

theorem dataFrame_payload (id : UInt32) (streamId : UInt8) (msg : List UInt8) (k : ℕ) {j : ℕ}
    (hj : j < 5) : (dataFrame id streamId msg k).data.getD (3 + j) 0 = msg.getD (5 * k + j) 0 := by
  have hcases : j = 0 ∨ j = 1 ∨ j = 2 ∨ j = 3 ∨ j = 4 := by omega
  rcases hcases with rfl | rfl | rfl | rfl | rfl <;> rfl

theorem fillPayload_isSome_iff (buffer : List UInt8) (len : UInt32) (k : ℕ) (data : Vector UInt8 8)
    (index : UInt32) :
    (fillPayload buffer len k data index).isSome = true ↔
      ∀ i, index.toNat ≤ i → i < index.toNat + k → i < len.toNat → i < buffer.length := by
  induction k generalizing data index with
  | zero =>
    refine ⟨fun _ i hle hlt => ?_, fun _ => rfl⟩
    omega
  | succ k ih =>
    have hlen := len.toNat_lt
    unfold fillPayload
    split_ifs with hmore
    · have hmore' := UInt32.lt_iff_toNat_lt.mp hmore
      have hone : (1 : UInt32).toNat = 1 := rfl
      have hnext : (index + 1).toNat = index.toNat + 1 := by
        rw [UInt32.toNat_add, hone]
        exact Nat.mod_eq_of_lt (by omega)
      by_cases hin : index.toNat < buffer.length
      · rw [List.getElem?_eq_getElem hin, Option.bind_eq_bind, Option.bind_some, ih, hnext]
        constructor
        · intro h i hle hlt hi
          rcases Nat.eq_or_lt_of_le hle with rfl | hle
          · exact hin
          · exact h i hle (by omega) hi
        · exact fun h i hle hlt hi => h i (by omega) (by omega) hi
      · rw [List.getElem?_eq_none (Nat.le_of_not_lt hin)]
        constructor
        · exact fun h => absurd h Bool.false_ne_true
        · exact fun h => absurd (h index.toNat le_rfl (by omega) hmore') hin
    · refine ⟨fun _ i hle _ hi => ?_, fun _ => rfl⟩
      have hmore' := mt UInt32.lt_iff_toNat_lt.mpr hmore
      omega

theorem fillPayload_isSome {buffer : List UInt8} {len : UInt32} (h : len.toNat ≤ buffer.length)
    (k : ℕ) (data : Vector UInt8 8) (index : UInt32) :
    ∃ p, fillPayload buffer len k data index = some p := by
  apply Option.isSome_iff_exists.mp
  exact (fillPayload_isSome_iff buffer len k data index).mpr fun i _ _ hi => hi.trans_le h

theorem fillPayload_spec {msg buffer : List UInt8} {len : UInt32} (k : ℕ) (hk : k ≤ 5)
    {index : UInt32} {data : Vector UInt8 8} (hbuf : msg <+: buffer) (hlen : len.toNat = msg.length)
    (hidx : index.toNat ≤ msg.length)
    (hzero : ∀ (p : ℕ) (hp : p < 8), 8 - k ≤ p → data[p] = 0) :
    ∃ (data' : Vector UInt8 8) (i : UInt32),
      fillPayload buffer len k data index = some (data', i) ∧
        i.toNat = min (index.toNat + k) msg.length ∧
        ∀ (p : ℕ) (hp : p < 8), data'[p] =
          if p < 8 - k then data[p] else msg.getD (index.toNat + (p - (8 - k))) 0 := by
  induction k generalizing index data with
  | zero =>
    refine ⟨data, index, rfl, by omega, fun p hp => ?_⟩
    rw [if_pos (by omega)]
  | succ k ih =>
    unfold fillPayload
    by_cases hlt : index < len
    · have ha : index.toNat < msg.length := hlen ▸ UInt32.lt_iff_toNat_lt.mp hlt
      have hsucc : (index + 1).toNat = index.toNat + 1 := by
        have := len.toNat_lt
        rw [UInt32.toNat_add]
        exact Nat.mod_eq_of_lt (by simp; omega)
      have hbyte : buffer[index.toNat]? = some (msg.getD index.toNat 0) := by
        obtain ⟨rest, hrest⟩ := hbuf
        rw [← hrest, List.getElem?_append_left ha, List.getD_eq_getElem?_getD,
          List.getElem?_eq_getElem ha]
        rfl
      have hzero' : ∀ (p : ℕ) (hp : p < 8), 8 - k ≤ p →
          (data.setIfInBounds (7 - k) (msg.getD index.toNat 0))[p] = 0 := by
        intro p hp hge
        rw [Vector.getElem_setIfInBounds, if_neg (by omega)]
        exact hzero p hp (by omega)
      obtain ⟨data', i, hfill, hi, hdata⟩ := ih (by omega) (by omega : (index + 1).toNat ≤ _) hzero'
      refine ⟨data', i, ?_, ?_, ?_⟩
      · rw [if_pos hlt, hbyte]
        exact hfill
      · rw [hi, hsucc]
        congr 1
        omega
      · intro p hp
        rw [hdata p hp, Vector.getElem_setIfInBounds, hsucc]
        by_cases h1 : p < 8 - (k + 1)
        · rw [if_pos (by omega), if_pos h1, if_neg (by omega)]
        · rw [if_neg h1]
          by_cases h2 : p < 8 - k
          · have hp7 : 7 - k = p := by omega
            rw [if_pos h2, if_pos hp7]
            congr 1
            omega
          · rw [if_neg h2]
            congr 1
            omega
    · have ha : index.toNat = msg.length := by
        rw [UInt32.lt_iff_toNat_lt] at hlt
        omega
      refine ⟨data, index, if_neg hlt, by omega, fun p hp => ?_⟩
      split_ifs with h1
      · rfl
      · rw [hzero p hp (by omega), List.getD_eq_getElem?_getD, List.getElem?_eq_none (by omega)]
        rfl

theorem fillPayload_dataFrame {msg buffer : List UInt8} {len index seq : UInt32} {k : ℕ}
    (hbuf : msg <+: buffer) (hlen : len.toNat = msg.length) (hidx : index.toNat = 5 * k)
    (hk : 5 * k < msg.length) (hseq : seq.toNat = k + 1) (id : UInt32) (streamId : UInt8) :
    ∃ (data : Vector UInt8 8) (i : UInt32),
      fillPayload buffer len 5 #v[0, streamId, seq.toUInt8, 0, 0, 0, 0, 0] index = some (data, i) ∧
        i.toNat = min (5 * (k + 1)) msg.length ∧
        data.setIfInBounds 0 opcDtxc = (dataFrame id streamId msg k).data := by
  obtain ⟨data, i, hfill, hi, hdata⟩ := @fillPayload_spec msg buffer len 5 le_rfl index
    #v[0, streamId, seq.toUInt8, 0, 0, 0, 0, 0] hbuf hlen (by omega)
    (by intro p hp hge; interval_cases p <;> rfl)
  refine ⟨data, i, hfill, ?_, ?_⟩
  · rw [hi, hidx]
    rfl
  · have hbyte : seq.toUInt8 = UInt8.ofNat (k + 1) := by
      apply UInt8.toNat_inj.mp
      rw [UInt32.toNat_toUInt8, hseq, UInt8.toNat_ofNat']
    apply Vector.ext
    intro p hp
    rw [Vector.getElem_setIfInBounds, hdata p hp, hidx, hbyte]
    change (if 0 = p then _ else if p < 3 then _ else msg.getD (5 * k + (p - 3)) 0) = _
    interval_cases p <;> rfl

namespace LongMessageSender

/-- The frames carry our CAN ID and the priority of the message. -/
def frameId (s : LongMessageSender) : UInt32 :=
  fragmentId s.cbusObject.moduleConfig.canId s.sendPriority

theorem sendMessageFragment_sends {s : LongMessageSender} (h : s.cbusObject.Transmits)
    (data : Vector UInt8 8) (priority : UInt8) :
    ∃ n : CBUSbase, s.sendMessageFragment { data := data } priority =
        (true, { s with cbusObject := n }) ∧
      s.cbusObject.Sends {
        id := fragmentId s.cbusObject.moduleConfig.canId priority
        len := 8
        data := data.setIfInBounds 0 opcDtxc } n := by
  obtain ⟨hret, hsends⟩ := CBUSbase.sendMessage_transmits h
    { len := 8, data := data.setIfInBounds 0 opcDtxc } priority
  refine ⟨_, ?_, hsends⟩
  unfold sendMessageFragment
  dsimp only
  rw [← hret]

/-- What is being sent lies in the memory that it was given with. -/
def InBuffer (s : LongMessageSender) : Prop :=
  s.isSending = true → s.sendBufferLen.toNat ≤ s.sendBuffer.length

theorem InBuffer.sendNext {s : LongMessageSender} (h : s.InBuffer) (now sent : UInt32) :
    ∃ ret s', s.sendNext now sent = some (ret, s') ∧ s'.InBuffer := by
  unfold LongMessageSender.sendNext
  split_ifs with hsend
  · have hbuffer := h (decide_eq_true hsend.1)
    obtain ⟨⟨data, index⟩, hfill⟩ := fillPayload_isSome hbuffer 5
      #v[0, s.sendStreamId, s.sendSequenceNum.toUInt8, 0, 0, 0, 0, 0] s.sendBufferIndex
    dsimp only
    rw [hfill]
    exact ⟨_, _, rfl, fun _ => hbuffer⟩
  · exact ⟨true, _, rfl, h⟩

/-- `k` data packets of the message have been sent. -/
structure Sending (s : LongMessageSender) (msg : List UInt8) (streamId : UInt8) (id : UInt32)
    (sent : List CANFrame) (k : ℕ) : Prop where
  buffer : msg <+: s.sendBuffer
  length : s.sendBufferLen.toNat = msg.length
  index : s.sendBufferIndex.toNat = min (5 * k) msg.length
  seq : s.sendSequenceNum.toNat = k + 1
  bound : k ≤ fragmentCount msg.length
  stream : s.sendStreamId = streamId
  header : s.frameId = id
  transmits : s.cbusObject.Transmits
  frames : s.cbusObject.transmittedFrames = sent ++ dataFrames id streamId msg k

theorem sendLongMessage_sending {s : LongMessageSender} (hidle : s.isSending = false)
    (htx : s.cbusObject.Transmits) {msg mem : List UInt8} (hmem : msg <+: mem) {len : UInt32}
    (hlen : len.toNat = msg.length) (streamId priority : UInt8) :
    ∃ s' : LongMessageSender, s.sendLongMessage mem len streamId priority = (true, s') ∧
      let id := fragmentId s.cbusObject.moduleConfig.canId priority
      s'.Sending msg streamId id
        (s.cbusObject.transmittedFrames ++ [headerFrame id streamId msg.length 0]) 0 ∧
      s'.msgDelay = s.msgDelay ∧ s'.lastFragmentSent = s.lastFragmentSent := by
  unfold sendLongMessage
  rw [hidle, if_neg Bool.false_ne_true]
  obtain ⟨n, heq, hsends⟩ := @sendMessageFragment_sends { s with
      sendBuffer := mem
      sendBufferLen := len
      sendStreamId := streamId
      sendPriority := priority
      sendBufferIndex := 0
      sendSequenceNum := 0 } htx
    #v[0, streamId, (0 : UInt32).toUInt8, highByte len.toNat, lowByte len.toNat, 0, 0, 0] priority
  dsimp only
  rw [heq]
  refine ⟨_, rfl, ⟨hmem, hlen, ?_, rfl, Nat.zero_le _, rfl, ?_, hsends.transmits, ?_⟩, rfl, rfl⟩
  · change 0 = _
    omega
  · change fragmentId n.moduleConfig.canId priority = _
    rw [hsends.moduleConfig]
  · change n.transmittedFrames = _
    rw [hsends.frames, hlen]
    simp only [dataFrames, List.range_zero, List.map_nil, List.append_nil]
    rfl

/-- One call either sends the next data packet or changes nothing that is sent. -/
theorem Sending.sendNext_sending {s : LongMessageSender} {msg : List UInt8} {streamId : UInt8} {id : UInt32}
    {sent : List CANFrame} {k : ℕ} (h : s.Sending msg streamId id sent k)
    (hmax : msg.length ≤ 65535) (now time : UInt32) :
    if s.isSending ∧ s.msgDelay.toUInt32 ≤ now - s.lastFragmentSent then
      ∃ s' : LongMessageSender, s.sendNext now time = some (true, s') ∧
        s'.Sending msg streamId id sent (k + 1) ∧ s'.msgDelay = s.msgDelay ∧
        s'.lastFragmentSent = time
    else s.sendNext now time = some (true, s) := by
  split_ifs with hc
  · have hlt : s.sendBufferIndex < s.sendBufferLen := of_decide_eq_true hc.1
    have h5 : 5 * k < msg.length := by
      have := UInt32.lt_iff_toNat_lt.mp hlt
      rw [h.index, h.length] at this
      omega
    have hidx : s.sendBufferIndex.toNat = 5 * k := by
      rw [h.index]
      omega
    obtain ⟨data, i, hfill, hi, hpayload⟩ :=
      fillPayload_dataFrame h.buffer h.length hidx h5 h.seq id s.sendStreamId
    rw [h.stream] at hpayload
    obtain ⟨n, heq, hsends⟩ := @sendMessageFragment_sends
      { s with lastFragmentSent := time, sendBufferIndex := i } h.transmits data s.sendPriority
    unfold sendNext
    rw [if_pos ⟨hlt, hc.2⟩]
    dsimp only
    rw [hfill, Option.bind_eq_bind, Option.bind_some]
    dsimp only
    rw [heq]
    have hid : fragmentId s.cbusObject.moduleConfig.canId s.sendPriority = id := h.header
    refine ⟨_, rfl, ⟨h.buffer, h.length, ?_, ?_, lt_fragmentCount.mpr h5, h.stream, ?_,
      hsends.transmits, ?_⟩, rfl, rfl⟩
    · exact hi
    · change (s.sendSequenceNum + 1).toNat = _
      rw [UInt32.toNat_add, h.seq]
      exact Nat.mod_eq_of_lt (by simp; omega)
    · change fragmentId n.moduleConfig.canId s.sendPriority = id
      rw [hsends.moduleConfig]
      exact hid
    · change n.transmittedFrames = _
      rw [hsends.frames]
      change s.cbusObject.transmittedFrames ++ [_] = _
      rw [h.frames, dataFrames_succ, List.append_assoc, hid, hpayload]
      rfl
  · unfold sendNext
    exact if_neg fun hs => hc ⟨decide_eq_true hs.1, hs.2⟩

/-- The message is sent completely exactly when all its data packets are. -/
theorem Sending.isSending_eq {s : LongMessageSender} {msg : List UInt8} {streamId : UInt8}
    {id : UInt32} {sent : List CANFrame} {k : ℕ} (h : s.Sending msg streamId id sent k) :
    s.isSending = decide (k < fragmentCount msg.length) := by
  unfold isSending
  rw [decide_eq_decide, UInt32.lt_iff_toNat_lt, h.index, h.length, lt_fragmentCount]
  omega

end LongMessageSender

namespace CBUSLongMessage

/-- The handler is there when the receiver needs it to report a timeout. -/
def CanReport (lm : CBUSLongMessage) : Prop := lm.isReceiving = true → lm.messagehandler = true

def polls (lm : CBUSLongMessage) (clocks : List Clock) : Option CBUSLongMessage :=
  clocks.foldlM (fun lm clock => (lm.process clock).map (·.2)) lm

/-- `sendLongMessage`, then repeated calls of `process`. -/
def sendAndPoll (lm : CBUSLongMessage) (mem : List UInt8) (len : UInt32) (streamId priority : UInt8)
    (clocks : List Clock) : Option CBUSLongMessage :=
  { lm with toLongMessageSender := (lm.sendLongMessage mem len streamId priority).2 }.polls clocks

/-- Every call finds the delay since the last fragment over. -/
def Spaced (delay : UInt8) : UInt32 → List Clock → Prop
  | _, [] => True
  | last, c :: cs => delay.toUInt32 ≤ c 1 - last ∧ Spaced delay (c 2) cs

theorem checkTimeout_canReport {lm : CBUSLongMessage} (h : lm.CanReport) (now : UInt32) :
    ∃ r, lm.checkTimeout now = some r ∧ (r.isReceiving = true → r.messagehandler = true) := by
  unfold LongMessageReceiver.checkTimeout
  split_ifs with ht
  · have hrec : lm.isReceiving = true := by
      unfold LongMessageReceiver.timedOut at ht
      exact (Bool.and_eq_true_iff.mp ht).1
    rw [LongMessageReceiver.callHandler_eq (h hrec)]
    exact ⟨_, rfl, fun hr => absurd hr Bool.false_ne_true⟩
  · exact ⟨_, rfl, h⟩

variable {msg : List UInt8} {streamId : UInt8} {id : UInt32} {sent : List CANFrame}

theorem process_sending {lm : CBUSLongMessage} {k : ℕ} (hr : lm.CanReport)
    (h : lm.Sending msg streamId id sent k) (hmax : msg.length ≤ 65535) (c : Clock) :
    ∃ lm' : CBUSLongMessage, lm.process c = some (true, lm') ∧ lm'.CanReport ∧
      lm'.msgDelay = lm.msgDelay ∧
      if lm.isSending ∧ lm.msgDelay.toUInt32 ≤ c 1 - lm.lastFragmentSent then
        lm'.Sending msg streamId id sent (k + 1) ∧ lm'.lastFragmentSent = c 2
      else lm'.toLongMessageSender = lm.toLongMessageSender := by
  obtain ⟨r, hcheck, hreport⟩ := checkTimeout_canReport hr (c 0)
  have hnext := h.sendNext_sending hmax (c 1) (c 2)
  unfold process
  rw [hcheck]
  split_ifs at hnext ⊢ with hc
  · obtain ⟨s', heq, hs, hdelay, hlast⟩ := hnext
    rw [Option.bind_eq_bind, Option.bind_some, heq]
    exact ⟨_, rfl, hreport, hdelay, hs, hlast⟩
  · rw [Option.bind_eq_bind, Option.bind_some, hnext]
    exact ⟨_, rfl, hreport, rfl, rfl⟩

/-- Calls of `process` never fault, send the data packets in order, and send all
of them if there are enough of them with the delay in between. -/
theorem polls_sending (clocks : List Clock) {lm : CBUSLongMessage} {k : ℕ} (hr : lm.CanReport)
    (h : lm.Sending msg streamId id sent k) (hmax : msg.length ≤ 65535) :
    ∃ (lm' : CBUSLongMessage) (k' : ℕ), lm.polls clocks = some lm' ∧
      lm'.Sending msg streamId id sent k' ∧ k ≤ k' ∧
      (Spaced lm.msgDelay lm.lastFragmentSent clocks →
        k' = min (k + clocks.length) (fragmentCount msg.length)) := by
  induction clocks generalizing lm k with
  | nil =>
    refine ⟨lm, k, rfl, h, le_rfl, fun _ => ?_⟩
    rw [List.length_nil, Nat.add_zero, Nat.min_eq_left h.bound]
  | cons c cs ih =>
    obtain ⟨lm1, heq, hr1, hdelay, hcase⟩ := process_sending hr h hmax c
    have hpolls : lm.polls (c :: cs) = lm1.polls cs := by
      unfold polls
      rw [List.foldlM_cons, heq]
      rfl
    rw [hpolls]
    split_ifs at hcase with hc
    · obtain ⟨lm', k', hrun, hs, hle, hall⟩ := ih hr1 hcase.1
      refine ⟨lm', k', hrun, hs, by omega, fun hsp => ?_⟩
      rw [hall (by rw [hdelay, hcase.2]; exact hsp.2), List.length_cons]
      congr 1
      omega
    · have hs1 : lm1.Sending msg streamId id sent k := by
        rw [hcase]
        exact h
      obtain ⟨lm', k', hrun, hs, hle, hall⟩ := ih hr1 hs1
      refine ⟨lm', k', hrun, hs, hle, fun hsp => ?_⟩
      have hdone : ¬ k < fragmentCount msg.length := by
        intro hk
        exact hc ⟨by rw [h.isSending_eq, decide_eq_true hk], hsp.1⟩
      have hb := hs.bound
      omega

end CBUSLongMessage
end CBUSPicoLib
