import CBUSPicoLib.LongMessage.ExtendedReception

/-!
# Sending a long message and receiving it

Both classes deliver a message of up to 1275 bytes, that is of up to 255 data
packets. A longer one is never delivered: the sequence number on the wire wraps
to zero, the number the receiver waits for does not.
-/

namespace CBUSPicoLib

open Runs

theorem fragmentCount_le_iff {len : ℕ} : fragmentCount len ≤ 255 ↔ len ≤ 1275 := by
  unfold fragmentCount
  omega

theorem toNat_ofNat_length {len : ℕ} (h : len ≤ 65535) : (UInt32.ofNat len).toNat = len := by
  rw [UInt32.toNat_ofNat']
  exact Nat.mod_eq_of_lt (by omega)

/-- A log that ends with a sequence error is not one that ends with the message. -/
theorem not_handsOver_of_sequenceError {log handled : List HandlerCall} {call last : HandlerCall}
    {msg : List UInt8} {streamId : UInt8} (hstatus : call.status = .sequenceError)
    (hpre : log ++ [call] <+: handled) (hover : last.HandsOver msg streamId) :
    handled ≠ log ++ [last] := by
  rintro rfl
  have heq := hpre.eq_of_length (by simp)
  have : call = last := by simpa using heq
  rw [this, hover.status] at hstatus
  exact LongMessageStatus.noConfusion hstatus

/-- The fragments of a message, handed over one after the other. -/
def handOver (frames : List CANFrame) : List ReceiverCall :=
  frames.map fun frame => .fragment frame fun _ => 0

theorem fragments_handOver (frames : List CANFrame) : fragments (handOver frames) = frames := by
  induction frames with
  | nil => rfl
  | cons frame frames ih => exact congrArg (frame :: ·) ih

namespace CBUSLongMessage

/-- A message that is sent completely, and whose frames, all transmitted, are
handed to a waiting receiver in order and in time. -/
structure Transfer where
  sender : CBUSLongMessage
  receiver : CBUSLongMessage
  msg : List UInt8
  behind : List UInt8
  streamId : UInt8
  priority : UInt8
  clocks : List Clock
  sent : CBUSLongMessage
  calls : List ReceiverCall
  nonempty : 0 < msg.length
  length_le : msg.length ≤ 65535
  ready : sender.isSending = false
  canReport : sender.CanReport
  transmits : sender.cbusObject.Transmits
  run : sender.sendAndPoll (msg ++ behind) (UInt32.ofNat msg.length) streamId priority clocks =
    some sent
  completed : sent.isSending = false
  emitted : sent.cbusObject.transmittedFrames =
    sender.cbusObject.transmittedFrames ++ fragments calls
  waiting : receiver.Waiting msg.length streamId
  quiet : receiver.isSending = false
  inTime : GuardedOption receive InTime receiver calls

/-- The handler is called exactly once, with the whole message, and the receiver
is idle again. -/
def Transfer.Delivered (t : Transfer) : Prop :=
  ∃ r call, runOption receive t.receiver t.calls = some r ∧ r.isReceiving = false ∧
    r.handled = t.receiver.handled ++ [call] ∧ call.HandsOver t.msg t.streamId

/-- Sending never faults; when it is completed, all frames of the message are out. -/
theorem sendAndPoll_frames {lm : CBUSLongMessage} {msg : List UInt8} (hready : lm.isSending = false)
    (hreport : lm.CanReport) (htx : lm.cbusObject.Transmits) (hmax : msg.length ≤ 65535)
    (behind : List UInt8) (streamId priority : UInt8) (clocks : List Clock) :
    ∃ lm' : CBUSLongMessage,
      lm.sendAndPoll (msg ++ behind) (UInt32.ofNat msg.length) streamId priority clocks =
        some lm' ∧
      (lm'.isSending = false → lm'.cbusObject.transmittedFrames =
        lm.cbusObject.transmittedFrames ++
          messageFrames (fragmentId lm.cbusObject.moduleConfig.canId priority) streamId msg 0) ∧
      (Spaced lm.msgDelay lm.lastFragmentSent clocks → fragmentCount msg.length ≤ clocks.length →
        lm'.isSending = false) := by
  obtain ⟨s, heq, hs, hdelay, hlast⟩ := LongMessageSender.sendLongMessage_sending hready htx
    (List.prefix_append msg behind) (toNat_ofNat_length hmax) streamId priority
  obtain ⟨lm', k, hrun, hk, -, hall⟩ :=
    @polls_sending _ _ _ _ clocks { lm with toLongMessageSender := s } 0 hreport hs hmax
  have hb := hk.bound
  refine ⟨lm', ?_, fun hdone => ?_, fun hsp hn => ?_⟩
  · unfold sendAndPoll
    rw [heq]
    exact hrun
  · rw [hk.isSending_eq, decide_eq_false_iff_not] at hdone
    rw [hk.frames, show k = fragmentCount msg.length by omega, List.append_assoc]
    rfl
  · have hk' := hall (by
      change Spaced s.msgDelay s.lastFragmentSent clocks
      rw [hdelay, hlast]
      exact hsp)
    rw [hk.isSending_eq, decide_eq_false_iff_not]
    omega

theorem run_waiting (calls : List ReceiverCall) {lm : CBUSLongMessage} {msg : List UInt8}
    {streamId canId priority : UInt8} (hs : lm.isSending = false)
    (hr : lm.Waiting msg.length streamId) (hpos : 0 < msg.length) (hmax : msg.length ≤ 65535)
    (hfr : fragments calls = messageFrames (fragmentId canId priority) streamId msg 0)
    (ht : GuardedOption receive InTime lm calls) :
    if fragmentCount msg.length ≤ 255 then
      ∃ lm' call, runOption receive lm calls = some lm' ∧ lm'.isReceiving = false ∧
        lm'.handled = lm.handled ++ [call] ∧ call.HandsOver msg streamId
    else
      ∀ lm', runOption receive lm calls = some lm' →
        ∃ call, call.status = .sequenceError ∧ lm.handled ++ [call] <+: lm'.handled := by
  induction calls with
  | nil => exact absurd hfr (List.cons_ne_nil _ _).symm
  | cons call calls ih =>
    cases call with
    | process clock =>
      have hcall := receive_process hs ht.1
      rw [runOption_cons hcall]
      exact ih hfr (ht.2 _ hcall)
    | fragment frame clock =>
      obtain ⟨rfl, hrest⟩ := List.cons.inj hfr
      obtain ⟨r, hheader, hrec⟩ :=
        @LongMessageReceiver.Waiting.header msg streamId _ canId priority hr hpos hmax 0 clock
      have hcall : lm.receive (.fragment
          (headerFrame (fragmentId canId priority) streamId msg.length 0) clock) =
            some { lm with toLongMessageReceiver := r } := by
        unfold receive
        dsimp only
        rw [hheader]
        rfl
      rw [runOption_cons hcall]
      exact @run_receiving _ _ _ _ calls { lm with toLongMessageReceiver := r } 0 hs (by omega) hrec
        hrest (ht.2 _ hcall)

theorem Transfer.delivered_iff (t : Transfer) : t.Delivered ↔ t.msg.length ≤ 1275 := by
  obtain ⟨sent, hrun, hframes, -⟩ := sendAndPoll_frames t.ready t.canReport t.transmits t.length_le
    t.behind t.streamId t.priority t.clocks
  obtain rfl : sent = t.sent := Option.some.inj (hrun.symm.trans t.run)
  have hfr : fragments t.calls = messageFrames
      (fragmentId t.sender.cbusObject.moduleConfig.canId t.priority) t.streamId t.msg 0 :=
    List.append_cancel_left (t.emitted.symm.trans (hframes t.completed))
  have hout := run_waiting t.calls t.quiet t.waiting t.nonempty t.length_le hfr t.inTime
  rw [← fragmentCount_le_iff]
  split_ifs at hout with hlen
  · exact ⟨fun _ => hlen, fun _ => hout⟩
  · refine ⟨?_, fun h => absurd h hlen⟩
    rintro ⟨r, last, hr, -, hlog, hover⟩
    obtain ⟨call, hstatus, hpre⟩ := hout r hr
    exact absurd hlog (not_handsOver_of_sequenceError hstatus hpre hover)

theorem guarded_handOver (frames : List CANFrame) (lm : CBUSLongMessage) :
    GuardedOption receive InTime lm (handOver frames) := by
  induction frames generalizing lm with
  | nil => trivial
  | cons frame frames ih => exact ⟨trivial, fun lm' _ => ih lm'⟩

theorem spaced_zero (clocks : List Clock) (last : UInt32) : Spaced 0 last clocks := by
  induction clocks generalizing last with
  | nil => trivial
  | cons c cs ih => exact ⟨UInt32.le_iff_toNat_le.mpr (Nat.zero_le _), ih _⟩

/-- A receiver on stream 7 with a buffer for `len` bytes. -/
def smallReceiver (len : ℕ) : CBUSLongMessage where
  cbusObject := CBUSbase.smallModule
  streamIds := [7]
  receiveBuffer := List.replicate len 0
  receiveBufferLen := UInt32.ofNat len
  messagehandler := true

theorem exists_transfer {msg : List UInt8} (hpos : 0 < msg.length) (hmax : msg.length ≤ 65535) :
    ∃ t : Transfer, t.msg = msg := by
  let sender : CBUSLongMessage := { cbusObject := CBUSbase.smallModule, msgDelay := 0 }
  obtain ⟨sent, hrun, hframes, hdone⟩ := @sendAndPoll_frames sender msg (by decide)
    (fun h => absurd h Bool.false_ne_true) (fun _ => rfl) hmax [] 7 defaultPriority
    (List.replicate (fragmentCount msg.length) fun _ => 0)
  have hcompleted := hdone (spaced_zero _ _) (le_of_eq List.length_replicate.symm)
  refine ⟨{
    sender := sender
    receiver := smallReceiver msg.length
    msg := msg
    behind := []
    streamId := 7
    priority := defaultPriority
    clocks := List.replicate (fragmentCount msg.length) fun _ => 0
    sent := sent
    calls := handOver (messageFrames (fragmentId sender.cbusObject.moduleConfig.canId
      defaultPriority) 7 msg 0)
    nonempty := hpos
    length_le := hmax
    ready := by decide
    canReport := fun h => absurd h Bool.false_ne_true
    transmits := fun _ => rfl
    run := hrun
    completed := hcompleted
    emitted := by rw [fragments_handOver, hframes hcompleted]
    waiting := ⟨rfl, List.mem_singleton.mpr rfl, ?_, ?_, rfl⟩
    quiet := rfl
    inTime := guarded_handOver _ _ }, rfl⟩
  · exact le_of_eq (toNat_ofNat_length hmax).symm
  · change (UInt32.ofNat msg.length).toNat ≤ (List.replicate msg.length (0 : UInt8)).length
    rw [toNat_ofNat_length hmax, List.length_replicate]

end CBUSLongMessage

namespace CBUSLongMessageEx

/-- A message without zero bytes that is sent completely while no other is, and
whose frames, all transmitted, are handed to a waiting receiver with the same
CRC setting, in order and in time. Behind the message there is a terminating
zero, as `strdup` needs it. -/
structure Transfer where
  sender : CBUSLongMessageEx
  receiver : CBUSLongMessageEx
  msg : List UInt8
  behind : List UInt8
  streamId : UInt8
  priority : UInt8
  clocks : List Clock
  sent : CBUSLongMessageEx
  calls : List ReceiverCall
  nonempty : 0 < msg.length
  length_le : msg.length ≤ 65535
  noZero : 0 ∉ msg
  terminated : 0 ∈ behind
  sameCrc : sender.useCrc = receiver.useCrc
  ready : sender.Quiet
  canReport : sender.CanReport
  transmits : sender.cbusObject.Transmits
  run : sender.sendAndPoll (msg ++ behind) (UInt32.ofNat msg.length) streamId priority clocks =
    some sent
  completed : sent.isSending = 0
  emitted : sent.cbusObject.transmittedFrames =
    sender.cbusObject.transmittedFrames ++ fragments calls
  waiting : receiver.Waiting msg.length streamId
  quiet : receiver.Quiet
  inTime : GuardedOption receive InTime receiver calls

/-- The handler is called exactly once, with the whole message, and all contexts
of the receiver are free again. -/
def Transfer.Delivered (t : Transfer) : Prop :=
  ∃ r call, runOption receive t.receiver t.calls = some r ∧
    (∀ c ∈ r.receiveContext, c.inUse = false) ∧
    r.handled = t.receiver.handled ++ [call] ∧ call.HandsOver t.msg t.streamId

/-- Sending never faults; when it is completed, all frames of the message are out. -/
theorem sendAndPoll_frames {lm : CBUSLongMessageEx} {msg behind : List UInt8} (hready : lm.Quiet)
    (hreport : lm.CanReport) (htx : lm.cbusObject.Transmits) (hpos : 0 < msg.length)
    (hmax : msg.length ≤ 65535) (hmsg : 0 ∉ msg) (hbehind : 0 ∈ behind)
    (streamId priority : UInt8) (clocks : List Clock) :
    ∃ (lm' : CBUSLongMessageEx) (crc : UInt16),
      lm.sendAndPoll (msg ++ behind) (UInt32.ofNat msg.length) streamId priority clocks =
        some lm' ∧
      messageCrc lm.useCrc msg (UInt32.ofNat msg.length) = some crc ∧
      (lm'.isSending = 0 → lm'.cbusObject.transmittedFrames =
        lm.cbusObject.transmittedFrames ++
          messageFrames (fragmentId lm.cbusObject.moduleConfig.canId priority) streamId msg crc) ∧
      (lm.msgDelay = 0 → lm.sendContext.length ≤ 255 →
        lm.sendContext.length * (fragmentCount msg.length + 1) ≤ clocks.length →
        lm'.isSending = 0) := by
  obtain ⟨m, crc, heq, hcrc, hm, hsame, hlen⟩ := sendLongMessage_sending hready.idle hready.turn htx
    hmsg hbehind hpos (toNat_ofNat_length hmax) streamId priority
  have hreport' : m.CanReport := by
    rw [hsame]
    exact hreport
  obtain ⟨lm', k, hrun, hk, -, hall⟩ := polls_sending clocks hreport' hm hmax
  refine ⟨lm', crc, ?_, hcrc, fun hdone => ?_, fun hdelay hsize hn => ?_⟩
  · unfold sendAndPoll
    rw [heq]
    exact hrun
  · rw [hk.frames, hk.isSending_eq_zero_iff.mp hdone, List.append_assoc]
    rfl
  · have hmdelay : m.msgDelay = 0 := (congrArg (·.msgDelay) hsame).trans hdelay
    have hwait : m.waitFirst ≤ lm.sendContext.length := by
      unfold waitFirst
      split_ifs <;> omega
    rw [Nat.mul_add, Nat.mul_one] at hn
    rw [hk.isSending_eq_zero_iff]
    apply hall hmdelay (hlen ▸ hsize)
    rw [hlen, Nat.sub_zero]
    omega

theorem run_waiting (calls : List ReceiverCall) {lm : CBUSLongMessageEx} {msg : List UInt8}
    {streamId canId priority : UInt8} {crc : UInt16} (hs : lm.Quiet)
    (hr : lm.Waiting msg.length streamId) (hpos : 0 < msg.length) (hmax : msg.length ≤ 65535)
    (hcrc : messageCrc lm.useCrc msg (UInt32.ofNat msg.length) = some crc)
    (hfr : fragments calls = messageFrames (fragmentId canId priority) streamId msg crc)
    (ht : GuardedOption receive InTime lm calls) :
    if fragmentCount msg.length ≤ 255 then
      ∃ lm' call, runOption receive lm calls = some lm' ∧
        (∀ c ∈ lm'.receiveContext, c.inUse = false) ∧ lm'.handled = lm.handled ++ [call] ∧
        call.HandsOver msg streamId
    else ∀ lm', runOption receive lm calls = some lm' →
      lm'.Stuck streamId (fragmentId canId priority) lm.handled := by
  induction calls generalizing lm with
  | nil => exact absurd hfr (List.cons_ne_nil _ _).symm
  | cons call calls ih =>
    cases call with
    | process clock =>
      have hcall := receive_process hs ht.1
      have hnext : lm.nextContext.Waiting msg.length streamId :=
        ⟨hr.idle, hr.exists_context, hr.subscribed, hr.room, hr.allocated, hr.handler⟩
      rw [runOption_cons hcall]
      exact @ih lm.nextContext hs.nextContext hnext hcrc hfr (ht.2 _ hcall)
    | fragment frame clock =>
      obtain ⟨rfl, hrest⟩ := List.cons.inj hfr
      obtain ⟨rs, hheader, hrec⟩ :=
        @Waiting.header msg streamId crc lm canId priority hr hpos hmax hcrc clock
      have hcall : lm.receive (.fragment
          (headerFrame (fragmentId canId priority) streamId msg.length crc) clock) = _ := hheader
      rw [runOption_cons hcall]
      exact @run_receiving msg streamId _ crc _ { lm with receiveContext := rs } calls 0
        ⟨hs.idle, hs.turn⟩ hmax (by omega) hrec hrest (ht.2 _ hcall)

theorem Transfer.delivered_iff (t : Transfer) : t.Delivered ↔ t.msg.length ≤ 1275 := by
  obtain ⟨sent, crc, hrun, hcrc, hframes, -⟩ := sendAndPoll_frames t.ready t.canReport t.transmits
    t.nonempty t.length_le t.noZero t.terminated t.streamId t.priority t.clocks
  obtain rfl : sent = t.sent := Option.some.inj (hrun.symm.trans t.run)
  have hfr : fragments t.calls = messageFrames
      (fragmentId t.sender.cbusObject.moduleConfig.canId t.priority) t.streamId t.msg crc :=
    List.append_cancel_left (t.emitted.symm.trans (hframes t.completed))
  have hout := run_waiting t.calls t.quiet t.waiting t.nonempty t.length_le (t.sameCrc ▸ hcrc) hfr
    t.inTime
  rw [← fragmentCount_le_iff]
  split_ifs at hout with hlen
  · exact ⟨fun _ => hlen, fun _ => hout⟩
  · refine ⟨?_, fun h => absurd h hlen⟩
    rintro ⟨r, last, hr, hidle, hlog, hover⟩
    rcases hout r hr with ⟨c, rest, hcs, huse, -⟩ | ⟨call, hstatus, hpre⟩
    · have hfree := hidle c (hcs ▸ List.mem_cons_self)
      rw [huse] at hfree
      exact Bool.noConfusion hfree
    · exact absurd hlog (not_handsOver_of_sequenceError hstatus hpre hover)

theorem guarded_handOver (frames : List CANFrame) (lm : CBUSLongMessageEx) :
    GuardedOption receive InTime lm (handOver frames) := by
  induction frames generalizing lm with
  | nil => trivial
  | cons frame frames ih => exact ⟨trivial, fun lm' _ => ih lm'⟩

/-- What `allocateContexts` leaves behind: free contexts with buffers of the length asked for. -/
theorem allocateContexts_free (lm : CBUSLongMessageEx) (numReceive : UInt8) (len : UInt32)
    (numSend : UInt8) (receiveHeap : ℕ → ReceiveContext) (sendHeap : ℕ → SendContext)
    (bufferHeap : ℕ → ℕ → UInt8) :
    let lm' := lm.allocateContexts numReceive len numSend receiveHeap sendHeap bufferHeap
    (∀ c ∈ lm'.receiveContext, c.inUse = false ∧ c.buffer.length = len.toNat) ∧
      (∀ c ∈ lm'.sendContext, c.inUse = false) ∧
      lm'.receiveContext.length = numReceive.toNat ∧ lm'.sendContext.length = numSend.toNat := by
  refine ⟨?_, ?_, ?_, ?_⟩
  · intro c hc
    obtain ⟨i, -, rfl⟩ := List.mem_map.mp hc
    exact ⟨rfl, (List.length_map ..).trans List.length_range⟩
  · intro c hc
    obtain ⟨i, -, rfl⟩ := List.mem_map.mp hc
    rfl
  · exact (List.length_map ..).trans List.length_range
  · exact (List.length_map ..).trans List.length_range

/-- A fresh object with four contexts each way and buffers of `len` bytes. -/
def smallObject (len : ℕ) : CBUSLongMessageEx :=
  let context : ReceiveContext := ⟨false, 0, 0, [], 0, 0, 0, 0, 0, 0⟩
  let fresh : CBUSLongMessageEx := {
    cbusObject := CBUSbase.smallModule
    msgDelay := 0
    streamIds := [7]
    messagehandler := true }
  fresh.allocateContexts 4 (UInt32.ofNat len) 4 (fun _ => context)
    (fun _ => ⟨false, 0, 0, [], 0, 0, 0, 0⟩) fun _ _ => 0

theorem smallObject_quiet (len : ℕ) : (smallObject len).Quiet := by
  obtain ⟨-, hsend, -, hlen⟩ := allocateContexts_free { cbusObject := CBUSbase.smallModule } 4 0 4
    (fun _ => ⟨false, 0, 0, [], 0, 0, 0, 0, 0, 0⟩) (fun _ => ⟨false, 0, 0, [], 0, 0, 0, 0⟩)
    fun _ _ => 0
  have hlen4 : (smallObject len).sendContext.length = 4 := hlen
  refine ⟨hsend, ?_⟩
  rw [hlen4]
  exact Nat.zero_lt_succ 3

theorem exists_transfer {msg : List UInt8} (hpos : 0 < msg.length) (hmax : msg.length ≤ 65535)
    (hmsg : 0 ∉ msg) : ∃ t : Transfer, t.msg = msg := by
  let lm := smallObject msg.length
  obtain ⟨hreceive, hsend, hrlen, hslen⟩ := allocateContexts_free {
    cbusObject := CBUSbase.smallModule
    msgDelay := 0
    streamIds := [7]
    messagehandler := true } 4 (UInt32.ofNat msg.length) 4
    (fun _ => ⟨false, 0, 0, [], 0, 0, 0, 0, 0, 0⟩) (fun _ => ⟨false, 0, 0, [], 0, 0, 0, 0⟩)
    fun _ _ => 0
  have hlm : lm.sendContext.length = 4 := hslen
  obtain ⟨sent, crc, hrun, hcrc, hframes, hdone⟩ := @sendAndPoll_frames lm msg [0]
    (smallObject_quiet _) (Or.inl rfl) (fun _ => rfl) hpos hmax hmsg (List.mem_singleton.mpr rfl)
    7 defaultPriority (List.replicate (4 * (fragmentCount msg.length + 1)) fun _ => 0)
  have hcompleted := hdone rfl (by rw [hlm]; decide) (by rw [hlm, List.length_replicate])
  refine ⟨{
    sender := lm
    receiver := lm
    msg := msg
    behind := [0]
    streamId := 7
    priority := defaultPriority
    clocks := List.replicate (4 * (fragmentCount msg.length + 1)) fun _ => 0
    sent := sent
    calls := handOver (messageFrames (fragmentId lm.cbusObject.moduleConfig.canId
      defaultPriority) 7 msg crc)
    nonempty := hpos
    length_le := hmax
    noZero := hmsg
    terminated := List.mem_singleton.mpr rfl
    sameCrc := rfl
    ready := smallObject_quiet _
    canReport := Or.inl rfl
    transmits := fun _ => rfl
    run := hrun
    completed := hcompleted
    emitted := by rw [fragments_handOver, hframes hcompleted]
    waiting := ⟨fun c hc => (hreceive c hc).1, ?_, List.mem_singleton.mpr rfl, ?_, ?_, rfl⟩
    quiet := smallObject_quiet _
    inTime := guarded_handOver _ _ }, rfl⟩
  · exact List.ne_nil_of_length_eq_add_one (n := 3) hrlen
  · exact le_of_eq (toNat_ofNat_length hmax).symm
  · exact fun c hc => le_of_eq (hreceive c hc).2.symm

end CBUSLongMessageEx

/-- Both classes deliver a message exactly if it has at most 1275 bytes. -/
theorem longMessage_roundTrip_iff (plain : CBUSLongMessage.Transfer)
    (extended : CBUSLongMessageEx.Transfer) :
    (plain.Delivered ↔ plain.msg.length ≤ 1275) ∧
      (extended.Delivered ↔ extended.msg.length ≤ 1275) :=
  ⟨plain.delivered_iff, extended.delivered_iff⟩

theorem longMessage_roundTrip_iff_300 :
    ∃ (plain : CBUSLongMessage.Transfer) (extended : CBUSLongMessageEx.Transfer),
      plain.msg = List.replicate 300 1 ∧ extended.msg = List.replicate 300 1 ∧
        plain.Delivered ∧ extended.Delivered := by
  have hlen : (List.replicate 300 (1 : UInt8)).length = 300 := List.length_replicate
  have hzero : 0 ∉ List.replicate 300 (1 : UInt8) := fun h =>
    absurd (List.eq_of_mem_replicate h) (by decide)
  obtain ⟨plain, hplain⟩ := @CBUSLongMessage.exists_transfer (List.replicate 300 1)
    (by omega) (by omega)
  obtain ⟨extended, hextended⟩ := @CBUSLongMessageEx.exists_transfer (List.replicate 300 1)
    (by omega) (by omega) hzero
  obtain ⟨hfirst, hsecond⟩ := longMessage_roundTrip_iff plain extended
  refine ⟨plain, extended, hplain, hextended, hfirst.mpr ?_, hsecond.mpr ?_⟩
  · rw [hplain]
    omega
  · rw [hextended]
    omega

/-- A message of 1276 bytes is delivered by neither class. -/
theorem not_delivered_1276 :
    (∃ t : CBUSLongMessage.Transfer, t.msg = List.replicate 1276 1 ∧ ¬ t.Delivered) ∧
      ∃ t : CBUSLongMessageEx.Transfer, t.msg = List.replicate 1276 1 ∧ ¬ t.Delivered := by
  have hlen : (List.replicate 1276 (1 : UInt8)).length = 1276 := List.length_replicate
  have hpos : 0 < (List.replicate 1276 (1 : UInt8)).length := by omega
  have hmax : (List.replicate 1276 (1 : UInt8)).length ≤ 65535 := by omega
  have hzero : 0 ∉ List.replicate 1276 (1 : UInt8) := fun h =>
    absurd (List.eq_of_mem_replicate h) (by decide)
  constructor
  · obtain ⟨t, ht⟩ := CBUSLongMessage.exists_transfer hpos hmax
    exact ⟨t, ht, fun h => by have := t.delivered_iff.mp h; rw [ht] at this; omega⟩
  · obtain ⟨t, ht⟩ := CBUSLongMessageEx.exists_transfer hpos hmax hzero
    exact ⟨t, ht, fun h => by have := t.delivered_iff.mp h; rw [ht] at this; omega⟩

end CBUSPicoLib
