import CBUSPicoLib.LongMessage.Extended
import CBUSPicoLib.LongMessage.Fragments

/-!
# What the extended sender emits

With one message in progress, the round robin over the send contexts emits the
same data packets as `CBUSLongMessage`, from the copy that `strdup` made.
-/

namespace CBUSPicoLib

open Runs

theorem strdup_eq {msg rest : List UInt8} (hmsg : 0 ∉ msg) (hrest : 0 ∈ rest) :
    ∃ copy, strdup (msg ++ rest) = some copy ∧ msg <+: copy := by
  have htake : (msg ++ rest).takeWhile (· ≠ 0) = msg ++ rest.takeWhile (· ≠ 0) := by
    apply List.takeWhile_append_of_pos
    intro b hb
    exact decide_eq_true fun h0 => hmsg (h0 ▸ hb)
  refine ⟨_, if_pos (List.mem_append_right _ hrest), ?_⟩
  rw [htake, List.append_assoc]
  exact List.prefix_append _ _

theorem crc16_append {msg rest : List UInt8} {len : UInt16} (hlen : len.toNat ≤ msg.length) :
    crc16 (msg ++ rest) len = crc16 msg len ∧ (crc16 msg len).isSome := by
  have htake : (msg ++ rest).take len.toNat = msg.take len.toNat := List.take_append_of_le_length hlen
  have hle : len.toNat ≤ (msg ++ rest).length := by
    rw [List.length_append]
    omega
  unfold crc16
  dsimp only
  by_cases h0 : len = 0
  · rw [if_pos h0, if_pos h0]
    exact ⟨rfl, rfl⟩
  · rw [if_neg h0, if_neg h0, if_pos hle, if_pos hlen, htake]
    exact ⟨rfl, rfl⟩

theorem messageCrc_append {msg rest : List UInt8} {len : UInt32} (hlen : len.toNat = msg.length)
    (useCrc : Bool) :
    messageCrc useCrc (msg ++ rest) len = messageCrc useCrc msg len ∧
      (messageCrc useCrc msg len).isSome := by
  have hlen16 : (UInt16.ofNat len.toNat).toNat ≤ msg.length := by
    rw [UInt16.toNat_ofNat', hlen]
    exact Nat.mod_le _ _
  unfold messageCrc
  cases useCrc with
  | false => exact ⟨rfl, rfl⟩
  | true => exact crc16_append hlen16

namespace SendContext

/-- `k` data packets of the message have been sent. -/
structure Progress (c : SendContext) (msg : List UInt8) (streamId priority : UInt8) (k : ℕ) :
    Prop where
  buffer : msg <+: c.buffer
  length : c.sendBufferLen.toNat = msg.length
  index : c.sendBufferIndex.toNat = 5 * k
  seq : c.sendSequenceNum.toNat = k + 1
  stream : c.sendStreamId = streamId
  priority : c.sendPriority = priority

/-- The next data packet, if it is not the last one, counts on index and sequence number. -/
theorem Progress.next {c : SendContext} {msg : List UInt8} {streamId priority : UInt8} {k : ℕ}
    (h : c.Progress msg streamId priority k) (hmax : msg.length ≤ 65535)
    (hmore : 5 * (k + 1) < msg.length) {i : UInt32}
    (hi : i.toNat = min (5 * (k + 1)) msg.length) (time : UInt32) :
    Progress { c with
      sendBufferIndex := i
      sendSequenceNum := c.sendSequenceNum + 1
      lastFragmentSent := time } msg streamId priority (k + 1) := by
  refine ⟨h.buffer, h.length, ?_, ?_, h.stream, h.priority⟩
  · change i.toNat = _
    omega
  · change (c.sendSequenceNum + 1).toNat = _
    rw [UInt32.toNat_add, h.seq]
    exact Nat.mod_eq_of_lt (by simp; omega)

end SendContext

namespace CBUSLongMessageEx

variable {msg : List UInt8} {streamId priority : UInt8} {id : UInt32} {sent : List CANFrame}

/-- `k` data packets of the message have been sent, and nothing else is in progress. -/
structure Sending (lm : CBUSLongMessageEx) (msg : List UInt8) (streamId priority : UInt8)
    (id : UInt32) (sent : List CANFrame) (k : ℕ) : Prop where
  contexts : ∃ c rest, lm.sendContext = c :: rest ∧ (∀ d ∈ rest, d.inUse = false) ∧
    c.inUse = decide (k < fragmentCount msg.length) ∧
    (k < fragmentCount msg.length → c.Progress msg streamId priority k)
  turn : lm.context.toNat < lm.sendContext.length
  bound : k ≤ fragmentCount msg.length
  header : fragmentId lm.cbusObject.moduleConfig.canId priority = id
  transmits : lm.cbusObject.Transmits
  frames : lm.cbusObject.transmittedFrames = sent ++ dataFrames id streamId msg k

theorem Sending.isSending_eq_zero_iff {lm : CBUSLongMessageEx} {k : ℕ}
    (h : lm.Sending msg streamId priority id sent k) :
    lm.isSending = 0 ↔ k = fragmentCount msg.length := by
  obtain ⟨c, rest, heq, hrest, hc, -⟩ := h.contexts
  have hzero : rest.countP (·.inUse) = 0 := by
    rw [List.countP_eq_zero]
    intro d hd
    rw [hrest d hd]
    exact Bool.false_ne_true
  have hb := h.bound
  unfold isSending
  rw [heq, List.countP_cons, hzero, hc]
  by_cases hk : k < fragmentCount msg.length
  · simp only [hk, decide_true, if_true]
    omega
  · simp only [hk, decide_false, Bool.false_eq_true, if_false, true_iff]
    omega

theorem sendLongMessage_sending {lm : CBUSLongMessageEx}
    (hidle : ∀ c ∈ lm.sendContext, c.inUse = false) (hturn : lm.context.toNat < lm.sendContext.length)
    (htx : lm.cbusObject.Transmits) {rest : List UInt8} (hmsg : 0 ∉ msg) (hrest : 0 ∈ rest)
    (hpos : 0 < msg.length) {len : UInt32} (hlen : len.toNat = msg.length)
    (streamId priority : UInt8) :
    ∃ (lm' : CBUSLongMessageEx) (crc : UInt16),
      lm.sendLongMessage (msg ++ rest) len streamId priority = some (true, lm') ∧
      messageCrc lm.useCrc msg len = some crc ∧
      (let id := fragmentId lm.cbusObject.moduleConfig.canId priority
       lm'.Sending msg streamId priority id
        (lm.cbusObject.transmittedFrames ++ [headerFrame id streamId msg.length crc]) 0) ∧
      lm' = { lm with cbusObject := lm'.cbusObject, sendContext := lm'.sendContext } ∧
      lm'.sendContext.length = lm.sendContext.length := by
  obtain ⟨c, cs, hcs⟩ := List.exists_cons_of_length_pos (lt_of_le_of_lt (Nat.zero_le _) hturn)
  obtain ⟨copy, hcopy, hbegins⟩ := strdup_eq hmsg hrest
  have hcidle : c.inUse = false := hidle c (hcs ▸ List.mem_cons_self)
  have hnone : ¬ (lm.sendContext.any fun c => c.inUse && c.sendStreamId == streamId) = true := by
    rw [List.any_eq_true]
    rintro ⟨d, hd, hin⟩
    rw [hidle d hd] at hin
    exact Bool.false_ne_true hin
  have hfind : lm.sendContext.findIdx (!·.inUse) = 0 := by
    rw [hcs, List.findIdx_cons, hcidle]
    rfl
  have hget : lm.sendContext[0]? = some c := by
    rw [hcs]
    rfl
  have hset : ∀ c', lm.sendContext.set 0 c' = c' :: cs := by
    intro c'
    rw [hcs]
    rfl
  obtain ⟨hcrc, hsome⟩ := @messageCrc_append msg rest len hlen lm.useCrc
  obtain ⟨crc, hcrc16⟩ := Option.isSome_iff_exists.mp hsome
  obtain ⟨n, heq, hsends⟩ := LongMessageSender.sendMessageFragment_sends htx
    #v[0, streamId, 0, highByte len.toNat, lowByte len.toNat, highByte crc.toNat,
      lowByte crc.toNat, 0] priority
  unfold sendLongMessage
  rw [if_neg hnone]
  dsimp only
  rw [hfind, if_neg (Nat.not_lt_zero _), hget, hcopy, hcrc, hcrc16]
  simp only [Option.bind_eq_bind, Option.bind_some]
  rw [heq]
  refine ⟨_, crc, rfl, rfl, ⟨⟨_, cs, hset _, ?_, ?_, ?_⟩, ?_, Nat.zero_le _, ?_, hsends.transmits, ?_⟩,
    rfl, ?_⟩
  · exact fun d hd => hidle d (hcs ▸ List.mem_cons_of_mem _ hd)
  · exact (decide_eq_true (lt_fragmentCount.mpr (by omega))).symm
  · exact fun _ => ⟨hbegins, hlen, rfl, rfl, rfl, rfl⟩
  · rw [List.length_set]
    exact hturn
  · change fragmentId n.moduleConfig.canId priority = _
    rw [hsends.moduleConfig]
  · change n.transmittedFrames = _
    rw [hsends.frames, hlen]
    simp only [dataFrames, List.range_zero, List.map_nil, List.append_nil]
    rfl
  · rw [List.length_set]

/-- The handler is there when a receive context needs it to report a timeout. -/
def CanReport (lm : CBUSLongMessageEx) : Prop :=
  lm.messagehandler = true ∨ ∀ c ∈ lm.receiveContext, c.inUse = false

/-- The timeout checks do not fault, and they leave the sending side alone. -/
theorem checkTimeouts_total {lm : CBUSLongMessageEx} (h : lm.CanReport) (clock : Clock) :
    ∃ rs hs, lm.checkTimeouts clock = some { lm with receiveContext := rs, handled := hs } ∧
      CanReport { lm with receiveContext := rs, handled := hs } := by
  let inv : CBUSLongMessageEx → Prop := fun m =>
    ∃ rs hs, m = { lm with receiveContext := rs, handled := hs } ∧
      rs.length = lm.receiveContext.length ∧ CanReport m
  have hstep : ∀ m, ∀ i ∈ List.range lm.receiveContext.length, inv m →
      ∃ m', timeOutContext clock m i = some m' ∧ inv m' := by
    rintro m i hi ⟨rs, hs, rfl, hlen, hreport⟩
    have hi' : i < rs.length := hlen ▸ List.mem_range.mp hi
    have hget : rs[i]? = some rs[i] := List.getElem?_eq_getElem hi'
    unfold timeOutContext
    dsimp only
    rw [hget, Option.bind_eq_bind, Option.bind_some]
    split_ifs with ht
    · have huse : rs[i].inUse = true := (Bool.and_eq_true_iff.mp ht).1
      have hhandler : lm.messagehandler = true := by
        rcases hreport with hm | hall
        · exact hm
        · exact absurd (hall _ (List.getElem_mem hi')) (by rw [huse]; exact Bool.noConfusion)
      unfold callHandler
      rw [if_pos hhandler]
      exact ⟨_, rfl, _, _, rfl, (List.length_set ..).trans hlen, Or.inl hhandler⟩
    · exact ⟨_, rfl, rs, hs, rfl, hlen, hreport⟩
  obtain ⟨m, hrun, rs, hs, rfl, -, hreport⟩ :=
    runOption_total hstep (⟨_, _, rfl, rfl, h⟩ : inv lm)
  exact ⟨rs, hs, hrun, hreport⟩

/-- The context whose turn it is sends its next data packet, or nothing happens. -/
theorem Sending.sendNext_sending {lm : CBUSLongMessageEx} {k : ℕ}
    (h : lm.Sending msg streamId priority id sent k) (hmax : msg.length ≤ 65535)
    (now time : UInt32) :
    ∃ (lm' : CBUSLongMessageEx) (k' : ℕ), lm.sendNext now time = some (true, lm') ∧
      lm'.Sending msg streamId priority id sent k' ∧ k ≤ k' ∧
      (lm.msgDelay = 0 → lm.context.toNat = 0 → k < fragmentCount msg.length → k' = k + 1) ∧
      lm' = { lm with cbusObject := lm'.cbusObject, sendContext := lm'.sendContext } ∧
      lm'.sendContext.length = lm.sendContext.length := by
  obtain ⟨c, rest, hcs, hrest, hc, hprogress⟩ := h.contexts
  obtain ⟨d, hget⟩ : ∃ d, lm.sendContext[lm.context.toNat]? = some d :=
    ⟨_, List.getElem?_eq_getElem h.turn⟩
  -- only the first context is in use
  have hturn : lm.context.toNat = 0 ∧ d = c ∨ d.inUse = false := by
    rw [hcs] at hget
    cases hidx : lm.context.toNat with
    | zero =>
      rw [hidx] at hget
      exact Or.inl ⟨rfl, (Option.some.inj hget).symm⟩
    | succ j =>
      rw [hidx, List.getElem?_cons_succ] at hget
      exact Or.inr (hrest d (List.mem_of_getElem? hget))
  unfold sendNext
  rw [hget, Option.bind_eq_bind, Option.bind_some]
  split_ifs with hsend
  · obtain ⟨hzero, rfl⟩ := hturn.resolve_right (by rw [hsend.1]; exact Bool.noConfusion)
    have hset : ∀ c', lm.sendContext.set lm.context.toNat c' = c' :: rest := by
      intro c'
      rw [hcs, hzero]
      rfl
    have hk : k < fragmentCount msg.length := of_decide_eq_true (hc ▸ hsend.1)
    have hp := hprogress hk
    obtain ⟨data, i, hfill, hi, hpayload⟩ := fillPayload_dataFrame hp.buffer hp.length hp.index
      (lt_fragmentCount.mp hk) hp.seq id d.sendStreamId
    rw [hp.stream] at hpayload
    obtain ⟨n, heq, hsends⟩ :=
      LongMessageSender.sendMessageFragment_sends h.transmits data d.sendPriority
    rw [hfill, Option.bind_eq_bind, Option.bind_some]
    dsimp only
    rw [heq]
    have hid : fragmentId lm.cbusObject.moduleConfig.canId d.sendPriority = id := by
      rw [hp.priority]
      exact h.header
    have hframes : n.transmittedFrames = sent ++ dataFrames id streamId msg (k + 1) := by
      rw [hsends.frames, h.frames, dataFrames_succ, List.append_assoc, hid, hpayload]
      rfl
    have hheader : fragmentId n.moduleConfig.canId priority = id := by
      rw [hsends.moduleConfig]
      exact h.header
    have hlast : d.sendBufferLen ≤ i ↔ ¬ k + 1 < fragmentCount msg.length := by
      rw [UInt32.le_iff_toNat_le, hp.length, hi, lt_fragmentCount]
      omega
    refine ⟨_, k + 1, rfl, ⟨⟨_, rest, hset _, hrest, ?_, ?_⟩, ?_, hk, hheader, hsends.transmits,
      hframes⟩, Nat.le_succ k, fun _ _ _ => rfl, rfl, List.length_set ..⟩
    · rw [apply_ite SendContext.inUse]
      split_ifs with hend
      · exact (decide_eq_false (hlast.mp hend)).symm
      · exact hsend.1.trans (decide_eq_true (not_not.mp (mt hlast.mpr hend))).symm
    · intro hmore
      rw [if_neg (fun hend => hlast.mp hend hmore)]
      exact hp.next hmax (lt_fragmentCount.mp hmore) hi time
    · rw [List.length_set]
      exact h.turn
  · refine ⟨lm, k, rfl, h, le_rfl, fun hdelay hfirst hk => ?_, rfl, rfl⟩
    have hd : d = c := by
      rw [hcs, hfirst] at hget
      exact (Option.some.inj hget).symm
    refine absurd ⟨?_, ?_⟩ hsend
    · rw [hd, hc]
      exact decide_eq_true hk
    · rw [hdelay]
      exact UInt32.le_iff_toNat_le.mpr (Nat.zero_le _)

/-- How many calls it takes until it is the first context's turn. -/
def waitFirst (lm : CBUSLongMessageEx) : ℕ :=
  if lm.context.toNat = 0 then 0 else lm.sendContext.length - lm.context.toNat

theorem nextContext_turn {lm : CBUSLongMessageEx} (h : lm.context.toNat < lm.sendContext.length) :
    lm.nextContext.context.toNat < lm.nextContext.sendContext.length := by
  have hctx : lm.nextContext.context =
      if lm.sendContext.length ≤ (lm.context + 1).toNat then 0 else lm.context + 1 := rfl
  have hlen : lm.nextContext.sendContext.length = lm.sendContext.length := rfl
  rw [hctx, hlen]
  split_ifs with hwrap
  · exact lt_of_le_of_lt (Nat.zero_le _) h
  · omega

theorem nextContext_waitFirst {lm : CBUSLongMessageEx}
    (h : lm.context.toNat < lm.sendContext.length) (hmax : lm.sendContext.length ≤ 255) :
    lm.nextContext.waitFirst < lm.sendContext.length ∧
      (lm.context.toNat ≠ 0 → lm.nextContext.waitFirst + 1 = lm.waitFirst) := by
  have hsucc : (lm.context + 1).toNat = lm.context.toNat + 1 := by
    have hone : (1 : UInt8).toNat = 1 := rfl
    rw [UInt8.toNat_add, hone]
    exact Nat.mod_eq_of_lt (by omega)
  have hctx : lm.nextContext.context.toNat =
      if lm.sendContext.length ≤ lm.context.toNat + 1 then 0 else lm.context.toNat + 1 := by
    unfold nextContext
    dsimp only
    rw [apply_ite UInt8.toNat, hsucc]
    rfl
  have hlen : lm.nextContext.sendContext.length = lm.sendContext.length := rfl
  unfold waitFirst
  rw [hctx, hlen]
  by_cases hwrap : lm.sendContext.length ≤ lm.context.toNat + 1
  · rw [if_pos hwrap, if_pos rfl]
    split_ifs <;> omega
  · rw [if_neg hwrap, if_neg (Nat.succ_ne_zero _)]
    split_ifs <;> omega

/-- One call of `process`, in relation to the message being sent. -/
structure Polled (lm lm' : CBUSLongMessageEx) (k k' : ℕ) (count : ℕ) : Prop where
  canReport : lm'.CanReport
  forward : k ≤ k'
  msgDelay : lm'.msgDelay = lm.msgDelay
  size : lm'.sendContext.length = lm.sendContext.length
  waitFirst : lm'.waitFirst = lm.nextContext.waitFirst
  sends : lm.msgDelay = 0 → lm.context.toNat = 0 → k < count → k' = k + 1

theorem process_sending {lm : CBUSLongMessageEx} {k : ℕ} (hr : lm.CanReport)
    (h : lm.Sending msg streamId priority id sent k) (hmax : msg.length ≤ 65535) (clock : Clock) :
    ∃ (lm' : CBUSLongMessageEx) (k' : ℕ), lm.process clock = some (true, lm') ∧
      lm'.Sending msg streamId priority id sent k' ∧
      Polled lm lm' k k' (fragmentCount msg.length) := by
  obtain ⟨rs, hs, hcheck, hreport⟩ := checkTimeouts_total hr clock
  have hchecked : Sending { lm with receiveContext := rs, handled := hs } msg streamId priority id
      sent k := ⟨h.contexts, h.turn, h.bound, h.header, h.transmits, h.frames⟩
  obtain ⟨m, k', hnext, hm, hle, hsends, heq, hlen⟩ :=
    hchecked.sendNext_sending hmax (clock rs.length) (clock (rs.length + 1))
  have hctx : m.context = lm.context := congrArg (·.context) heq
  refine ⟨m.nextContext, k', ?_, ?_, ?_⟩
  · unfold process
    rw [hcheck, Option.bind_eq_bind, Option.bind_some]
    dsimp only
    rw [hnext]
    rfl
  · exact ⟨hm.contexts, nextContext_turn hm.turn, hm.bound, hm.header, hm.transmits, hm.frames⟩
  · refine ⟨?_, hle, congrArg (·.msgDelay) heq, hlen, ?_, hsends⟩
    · rw [heq]
      exact hreport
    · have hlen' : m.sendContext.length = lm.sendContext.length := hlen
      unfold waitFirst nextContext
      dsimp only
      rw [hlen', hctx]

def polls (lm : CBUSLongMessageEx) (clocks : List Clock) : Option CBUSLongMessageEx :=
  runOption (fun lm clock => (lm.process clock).map (·.2)) lm clocks

/-- `sendLongMessage`, then repeated calls of `process`. -/
def sendAndPoll (lm : CBUSLongMessageEx) (mem : List UInt8) (len : UInt32)
    (streamId priority : UInt8) (clocks : List Clock) : Option CBUSLongMessageEx := do
  let (_, lm) ← lm.sendLongMessage mem len streamId priority
  lm.polls clocks

/-- Calls of `process` never fault and send the data packets in order; without a
delay, enough calls send all of them. -/
theorem polls_sending (clocks : List Clock) {lm : CBUSLongMessageEx} {k : ℕ} (hr : lm.CanReport)
    (h : lm.Sending msg streamId priority id sent k) (hmax : msg.length ≤ 65535) :
    ∃ (lm' : CBUSLongMessageEx) (k' : ℕ), lm.polls clocks = some lm' ∧
      lm'.Sending msg streamId priority id sent k' ∧ k ≤ k' ∧
      (lm.msgDelay = 0 → lm.sendContext.length ≤ 255 →
        lm.waitFirst + lm.sendContext.length * (fragmentCount msg.length - k) ≤ clocks.length →
        k' = fragmentCount msg.length) := by
  induction clocks generalizing lm k with
  | nil =>
    refine ⟨lm, k, rfl, h, le_rfl, fun _ _ hn => ?_⟩
    have hb := h.bound
    have hpos : 0 < lm.sendContext.length := lt_of_le_of_lt (Nat.zero_le _) h.turn
    rw [List.length_nil] at hn
    have hzero : lm.sendContext.length * (fragmentCount msg.length - k) = 0 := by omega
    rcases Nat.mul_eq_zero.mp hzero with h0 | h0 <;> omega
  | cons c cs ih =>
    obtain ⟨lm1, k1, hprocess, h1, hp⟩ := process_sending hr h hmax c
    have hstep : (lm.process c).map (·.2) = some lm1 := by
      rw [hprocess]
      rfl
    obtain ⟨lm', k', hrun, hs, hle, hall⟩ := ih hp.canReport h1
    refine ⟨lm', k', (runOption_cons hstep cs).trans hrun, hs, hp.forward.trans hle,
      fun hdelay hsize hn => ?_⟩
    obtain ⟨hwait, hnear⟩ := nextContext_waitFirst h.turn hsize
    have hb := hs.bound
    have hf := hp.forward
    by_cases hk : k < fragmentCount msg.length
    · apply hall (hp.msgDelay.trans hdelay) (hp.size ▸ hsize)
      rw [hp.waitFirst, hp.size]
      rw [List.length_cons] at hn
      by_cases hfirst : lm.context.toNat = 0
      · -- the first context sends one more data packet
        have hmul : lm.sendContext.length * (fragmentCount msg.length - k) =
            lm.sendContext.length * (fragmentCount msg.length - k1) + lm.sendContext.length := by
          rw [hp.sends hdelay hfirst hk,
            show fragmentCount msg.length - k = fragmentCount msg.length - (k + 1) + 1 by omega]
          ring
        omega
      · have hmono : lm.sendContext.length * (fragmentCount msg.length - k1) ≤
            lm.sendContext.length * (fragmentCount msg.length - k) :=
          Nat.mul_le_mul_left _ (by omega)
        have hw := hnear hfirst
        omega
    · omega

end CBUSLongMessageEx
end CBUSPicoLib
