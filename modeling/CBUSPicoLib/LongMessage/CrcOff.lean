import CBUSPicoLib.LongMessage.Restarts
import CBUSPicoLib.LongMessage.Verdicts

/-!
# CRC checking switched off

With `use_crc(false)` no CRC is computed, but the header CRC is still compared: with the zero that
stands in for the computed one. A message with a header CRC is then reported with `CRC_ERROR`.
-/

namespace CBUSPicoLib

open Runs

namespace ReceiveContext

variable {c c' : ReceiveContext} {bufferLen : UInt32} {frame : CANFrame} {clock : Clock}
  {call : Option HandlerCall}

/-- One fragment brings all bytes that are missing, and there is room for them. -/
def Completes (c : ReceiveContext) (bufferLen : UInt32) : Prop :=
  c.incomingMessageLength.toNat ≤
    c.incomingBytesReceived.toNat + min 5 (bufferLen.toNat - c.receiveBufferIndex.toNat)

instance (c : ReceiveContext) (bufferLen : UInt32) : Decidable (c.Completes bufferLen) :=
  inferInstanceAs (Decidable (_ ≤ _))

def uncheckedStatus (c : ReceiveContext) : LongMessageStatus :=
  if c.incomingMessageCrc = 0 then .complete else .crcError

/-- The counters of a message that is being received. -/
structure Counting (c : ReceiveContext) (bufferLen : UInt32) : Prop where
  allocated : c.buffer.length = bufferLen.toNat
  received : c.inUse = true → c.incomingBytesReceived.toNat ≤ 65535
  announced : c.inUse = true → c.incomingMessageLength.toNat ≤ 65535

theorem Counting.released (h : c.Counting bufferLen) : c.released.Counting bufferLen :=
  ⟨h.allocated, fun huse => absurd huse Bool.false_ne_true,
    fun huse => absurd huse Bool.false_ne_true⟩

theorem takeBytes_turn {k : ℕ} (hlen : c.buffer.length = bufferLen.toNat)
    (hbound : c.incomingBytesReceived.toNat + 1 < 2 ^ 32)
    (h : takeBytes false bufferLen frame clock (k + 1) c = some (c', call)) :
    ∃ next : ReceiveContext, c.receiveBufferIndex.toNat < bufferLen.toNat ∧
      next.buffer.length = bufferLen.toNat ∧
      next.receiveBufferIndex.toNat = c.receiveBufferIndex.toNat + 1 ∧
      next.incomingBytesReceived.toNat = c.incomingBytesReceived.toNat + 1 ∧
      next.incomingMessageLength = c.incomingMessageLength ∧
      next.uncheckedStatus = c.uncheckedStatus ∧
      if c.incomingMessageLength.toNat ≤ c.incomingBytesReceived.toNat + 1 then
        ∃ x, call = some x ∧ x.status = c.uncheckedStatus
      else if bufferLen.toNat ≤ c.receiveBufferIndex.toNat + 1 then
        ∃ x, call = some x ∧ x.status = .truncated
      else takeBytes false bufferLen frame clock k next = some (c', call) := by
  obtain ⟨buffer, hbuffer, hrest⟩ := Option.bind_eq_some_iff.mp h
  unfold store at hbuffer
  split_ifs at hbuffer with hindex
  have hblen : buffer.length = c.buffer.length := by
    rw [← Option.some.inj hbuffer, List.length_set]
  have hone : (1 : UInt32).toNat = 1 := rfl
  have hlt := bufferLen.toNat_lt
  have hreceived : (c.incomingBytesReceived + 1).toNat = c.incomingBytesReceived.toNat + 1 := by
    rw [UInt32.toNat_add, hone]
    exact Nat.mod_eq_of_lt hbound
  have hnext : (c.receiveBufferIndex + 1).toNat = c.receiveBufferIndex.toNat + 1 := by
    rw [UInt32.toNat_add, hone]
    exact Nat.mod_eq_of_lt (by omega)
  refine ⟨{ c with
    buffer := buffer
    receiveBufferIndex := c.receiveBufferIndex + 1
    incomingBytesReceived := c.incomingBytesReceived + 1
    lastFragmentReceived := clock (4 - k) }, by omega, hblen.trans hlen, hnext, hreceived, rfl, rfl,
    ?_⟩
  dsimp only at hrest
  simp only [UInt32.le_iff_toNat_le, hreceived, hnext] at hrest
  split_ifs at hrest ⊢
  · obtain ⟨tmpcrc, htmp, heq⟩ := Option.bind_eq_some_iff.mp hrest
    have hzero : tmpcrc = 0 := by
      unfold receivedCrc at htmp
      simpa [eq_comm] using htmp
    cases heq
    refine ⟨_, rfl, ?_⟩
    simp [report, uncheckedStatus, hzero]
  · cases hrest
    exact ⟨_, rfl, rfl⟩
  · exact hrest

/-- The payload loop without a check of the CRC: the status is that of the header CRC if all
missing bytes arrive; if they do not, the buffer is full or nothing is reported. -/
theorem takeBytes_unchecked (k : ℕ) (hlen : c.buffer.length = bufferLen.toNat)
    (hbound : c.incomingBytesReceived.toNat + (k + 1) < 2 ^ 32)
    (h : takeBytes false bufferLen frame clock (k + 1) c = some (c', call)) :
    if c.incomingMessageLength.toNat ≤ c.incomingBytesReceived.toNat +
        min (k + 1) (bufferLen.toNat - c.receiveBufferIndex.toNat) then
      ∃ x, call = some x ∧ x.status = c.uncheckedStatus
    else (∀ x ∈ call, x.status = .truncated) ∧
      (call = none → c'.incomingBytesReceived.toNat < c.incomingMessageLength.toNat ∧
        c'.incomingMessageLength = c.incomingMessageLength) := by
  induction k generalizing c with
  | zero =>
    obtain ⟨next, hroom, -, -, hreceived, hlength, -, hturn⟩ := takeBytes_turn hlen (by omega) h
    split_ifs at hturn with hdone hfull
    · rw [if_pos (by omega)]
      exact hturn
    · obtain ⟨x, rfl, hx⟩ := hturn
      rw [if_neg (by omega)]
      exact ⟨by simpa using hx, by simp⟩
    · cases hturn
      rw [if_neg (by omega)]
      exact ⟨by simp, fun _ => ⟨by omega, hlength⟩⟩
  | succ k ih =>
    obtain ⟨next, hroom, hnextlen, hindex, hreceived, hlength, hstatus, hturn⟩ :=
      takeBytes_turn hlen (by omega) h
    split_ifs at hturn with hdone hfull
    · rw [if_pos (by omega)]
      exact hturn
    · obtain ⟨x, rfl, hx⟩ := hturn
      rw [if_neg (by omega)]
      exact ⟨by simpa using hx, by simp⟩
    · have hrest := ih hnextlen (by omega) hturn
      rw [hlength, hreceived, hindex, hstatus] at hrest
      split_ifs at hrest ⊢
      · exact hrest
      · omega
      · omega
      · exact hrest

end ReceiveContext

namespace CBUSLongMessageEx

variable {lm lm' : CBUSLongMessageEx} {handled : List HandlerCall} {frame : CANFrame}
  {clock : Clock} {call : ReceiverCall}

/-- The handler is called exactly once, with the whole message. -/
def Delivers (lm : CBUSLongMessageEx) (calls : List ReceiverCall) (msg : List UInt8)
    (streamId : UInt8) : Prop :=
  ∃ lm' call, runOption receive lm calls = some lm' ∧ lm'.handled = lm.handled ++ [call] ∧
    call.HandsOver msg streamId

/-- No CRC error has been reported. -/
def NoCrcError (lm : CBUSLongMessageEx) (handled : List HandlerCall) : Prop :=
  ∃ calls, lm.handled = handled ++ calls ∧ ∀ call ∈ calls, call.status ≠ .crcError

/-- A fragment that completes its message belongs to a header without a CRC. -/
def CompletesWithoutCrc (lm : CBUSLongMessageEx) : ReceiverCall → Prop
  | .fragment frame _ => frame.data.get 2 ≠ 0 → ∀ c : ReceiveContext,
    lm.receiveContext[lm.receiveContext.findIdx (·.matchesFrame frame)]? = some c →
      (frame.data.get 2).toUInt32 = c.expectedNextReceiveSequenceNum →
        c.Completes lm.receiveBufferLen → c.incomingMessageCrc = 0
  | .process _ => True

/-- What holds between two calls. -/
structure Unchecked (lm : CBUSLongMessageEx) (handled : List HandlerCall) : Prop where
  off : lm.useCrc = false
  counting : ∀ c ∈ lm.receiveContext, c.Counting lm.receiveBufferLen
  calls : lm.NoCrcError handled

theorem NoCrcError.append (h : lm.NoCrcError handled) {calls : List HandlerCall}
    (hcalls : ∀ call ∈ calls, call.status ≠ .crcError)
    (hlog : lm'.handled = lm.handled ++ calls) : lm'.NoCrcError handled := by
  obtain ⟨old, hold, hno⟩ := h
  refine ⟨old ++ calls, by rw [hlog, hold, List.append_assoc], ?_⟩
  intro call hmem
  rcases List.mem_append.mp hmem with hmem | hmem
  · exact hno call hmem
  · exact hcalls call hmem

theorem not_noCrcError {call : HandlerCall} (h : lm.NoCrcError handled)
    (hcall : call.status = .crcError) (hlog : lm'.handled = lm.handled ++ [call]) :
    ¬ lm'.NoCrcError handled := by
  obtain ⟨old, hold, -⟩ := h
  rintro ⟨calls, hcalls, hno⟩
  have heq : calls = old ++ [call] := by
    rw [hlog, hold, List.append_assoc] at hcalls
    exact (List.append_cancel_left hcalls).symm
  exact hno call (by simp [heq]) hcall

theorem Unchecked.set (h : lm.Unchecked handled) (i : ℕ) {c : ReceiveContext}
    (hc : c.Counting lm.receiveBufferLen) {calls : List HandlerCall}
    (hcalls : ∀ call ∈ calls, call.status ≠ .crcError) :
    Unchecked { lm with
      handled := lm.handled ++ calls
      receiveContext := lm.receiveContext.set i c } handled := by
  refine ⟨h.off, fun d hd => ?_, h.calls.append hcalls rfl⟩
  rcases List.mem_or_eq_of_mem_set hd with hd | rfl
  · exact h.counting d hd
  · exact hc

theorem started_counting (len : UInt32) (frame : CANFrame) (clock : Clock) :
    (ReceiveContext.started len frame clock).Counting len where
  allocated := List.length_replicate
  received := fun _ => Nat.zero_le _
  announced := fun _ => by
    have hhi := (frame.data.get 3).toNat_lt
    have hlo := (frame.data.get 4).toNat_lt
    simp only [ReceiveContext.started, LongMessageReceiver.toNat_word]
    omega

theorem Unchecked.header (h : lm.Unchecked handled) (hzero : frame.data.get 2 = 0)
    (hcall : lm.receive (.fragment frame clock) = some lm') : lm'.Unchecked handled := by
  rcases receive_header (fun c hc => (h.counting c hc).allocated) hzero clock with
    ⟨-, hsame⟩ | ⟨-, -, hsame⟩ | ⟨-, i, c, -, -, hset⟩
  · rwa [← Option.some.inj (hcall.symm.trans hsame)] at h
  · rwa [← Option.some.inj (hcall.symm.trans hsame)] at h
  · rw [Option.some.inj (hcall.symm.trans hset)]
    simpa using h.set i (started_counting lm.receiveBufferLen frame clock)
      (List.forall_mem_nil fun call : HandlerCall => call.status ≠ .crcError)

theorem Unchecked.takeBytes (h : lm.Unchecked handled) {c c' : ReceiveContext}
    {call : Option HandlerCall} {i : ℕ} (hget : lm.receiveContext[i]? = some c)
    (huse : c.inUse = true)
    (htake : c.takeBytes lm.useCrc lm.receiveBufferLen frame clock 5 = some (c', call)) :
    (if c.Completes lm.receiveBufferLen then ∃ x, call = some x ∧ x.status = c.uncheckedStatus
      else ∀ x ∈ call, x.status = .truncated) ∧ c'.Counting lm.receiveBufferLen := by
  have hcount := h.counting c (List.mem_of_getElem? hget)
  have hreceived := hcount.received huse
  have hannounced := hcount.announced huse
  have hopen := ReceiveContext.takeBytes_openStream 5 huse htake
  have hlen := ReceiveContext.length_takeBytes htake
  rw [h.off] at htake
  have hcase := ReceiveContext.takeBytes_unchecked 4 hcount.allocated (by omega) htake
  have hfree : ∀ x, call = some x → c'.inUse = false := by
    rintro x rfl
    rcases hopen with ⟨hnone, -⟩ | ⟨y, -, hc', -⟩
    · exact absurd hnone (by simp)
    · exact hc'
  have hcount' : (call = none → c'.incomingBytesReceived.toNat < c.incomingMessageLength.toNat ∧
      c'.incomingMessageLength = c.incomingMessageLength) → c'.Counting lm.receiveBufferLen := by
    intro hnone
    cases call with
    | none =>
      obtain ⟨hless, hlength⟩ := hnone rfl
      exact ⟨hlen.trans hcount.allocated, fun _ => by omega, fun _ => by rw [hlength]; exact hannounced⟩
    | some x =>
      have hidle := hfree x rfl
      exact ⟨hlen.trans hcount.allocated, by simp [hidle], by simp [hidle]⟩
  by_cases hdone : c.Completes lm.receiveBufferLen
  · rw [if_pos hdone]
    obtain ⟨x, rfl, hx⟩ := (if_pos hdone).mp hcase
    exact ⟨⟨x, rfl, hx⟩, hcount' (by simp)⟩
  · rw [if_neg hdone]
    obtain ⟨hfull, hnone⟩ := (if_neg hdone).mp hcase
    exact ⟨hfull, hcount' hnone⟩

theorem Unchecked.packet (h : lm.Unchecked handled) (hdata : frame.data.get 2 ≠ 0)
    (hguard : lm.CompletesWithoutCrc (.fragment frame clock))
    (hcall : lm.receiveFragment frame clock = some lm') : lm'.Unchecked handled := by
  rcases receiveFragment_cases hcall with ⟨-, rfl⟩ | ⟨c, hget, huse, hcase⟩
  · exact h
  · split_ifs at hcase with hseq
    · obtain ⟨c', call, htake, rfl⟩ := hcase
      obtain ⟨hstatus, hcount⟩ := h.takeBytes hget huse htake
      have hnext : ReceiveContext.Counting { c' with
          expectedNextReceiveSequenceNum := c'.expectedNextReceiveSequenceNum + 1 }
          lm.receiveBufferLen := ⟨hcount.allocated, hcount.received, hcount.announced⟩
      refine h.set _ hnext fun x hx => ?_
      rw [Option.mem_toList] at hx
      split_ifs at hstatus with hdone
      · obtain ⟨y, rfl, hy⟩ := hstatus
        cases hx
        rw [hy, ReceiveContext.uncheckedStatus, if_pos (hguard hdata c hget hseq hdone)]
        simp
      · rw [hstatus x hx]
        simp
    · rw [hcase]
      refine h.set _ (h.counting c (List.mem_of_getElem? hget)).released ?_
      simp [ReceiveContext.report]

theorem Unchecked.completesWithCrc (h : lm.Unchecked handled)
    (hguard : ¬ lm.CompletesWithoutCrc call) (hcall : lm.receive call = some lm') :
    ¬ lm'.NoCrcError handled := by
  cases call with
  | process clock => exact absurd trivial hguard
  | fragment frame clock =>
    simp only [CompletesWithoutCrc, not_forall] at hguard
    obtain ⟨hdata, c, hget, hseq, hdone, hcrc⟩ := hguard
    have hpacket : lm.receiveFragment frame clock = some lm' := (if_neg hdata).symm.trans hcall
    rcases receiveFragment_cases hpacket with ⟨hnone, -⟩ | ⟨d, hd, huse, hcase⟩
    · simp [hget] at hnone
    · cases hget.symm.trans hd
      rw [if_pos hseq] at hcase
      obtain ⟨c', call, htake, rfl⟩ := hcase
      obtain ⟨hstatus, -⟩ := h.takeBytes hget huse htake
      rw [if_pos hdone] at hstatus
      obtain ⟨x, rfl, hx⟩ := hstatus
      rw [ReceiveContext.uncheckedStatus, if_neg hcrc] at hx
      exact not_noCrcError h.calls hx rfl

theorem Unchecked.process (h : lm.Unchecked handled) {ret : Bool}
    (hcall : lm.process clock = some (ret, lm')) : lm'.Unchecked handled := by
  refine process_invariant (Unchecked · handled) (fun a i c ha hget huse => ?_)
    (fun a n cs i ha => ?_) h hcall
  · refine ha.set i (ha.counting c (List.mem_of_getElem? hget)).released ?_
    simp [ReceiveContext.report]
  · exact ⟨ha.off, ha.counting, ha.calls⟩

theorem Unchecked.step (h : lm.Unchecked handled) (hguard : lm.CompletesWithoutCrc call)
    (hcall : lm.receive call = some lm') : lm'.Unchecked handled := by
  cases call with
  | fragment frame clock =>
    by_cases hzero : frame.data.get 2 = 0
    · exact h.header hzero hcall
    · exact h.packet hzero hguard ((if_neg hzero).symm.trans hcall)
  | process clock =>
    obtain ⟨⟨ret, b⟩, hb, rfl⟩ := Option.map_eq_some_iff.mp hcall
    exact h.process hb

/-- Without a check exactly the messages without a header CRC are delivered. -/
theorem Awaiting.delivers_iff {id : UInt32} {streamId : UInt8} {msg : List UInt8} {crc : UInt16}
    {calls : List ReceiverCall} (h : lm.Awaiting id streamId msg.length)
    (hoff : lm.useCrc = false) (hpos : 1 ≤ msg.length) (hmax : msg.length ≤ 1275)
    (hfr : fragments calls = messageFrames id streamId msg crc)
    (ht : GuardedOption receive InTime lm calls) : lm.Delivers calls msg streamId ↔ crc = 0 := by
  obtain ⟨t, call, hrun, hlog, hpasses⟩ := h.run calls hpos hmax hfr ht
  have haccepted : AcceptedCrc lm.useCrc msg crc ↔ crc = 0 := by simp [AcceptedCrc, hoff]
  rw [← haccepted]
  constructor
  · rintro ⟨t', call', hrun', hlog', hover⟩
    cases hrun.symm.trans hrun'
    have heq : call = call' := by
      rw [hlog] at hlog'
      exact List.singleton_inj.mp (List.append_cancel_left hlog')
    by_contra hrefused
    have hstatus := hpasses.status
    rw [heq, hover.status, crcVerdict, if_neg hrefused] at hstatus
    exact absurd hstatus (by simp)
  · exact fun hacc => ⟨t, call, hrun, hlog, hpasses.handsOver hacc⟩

/-- With CRC checking switched off, a message that arrives in order and in time is delivered
exactly if its header carries no CRC; and whatever is received after an allocation and whenever
`process` is called, no CRC error is reported exactly if no message with a header CRC is
completed. -/
theorem crcOff_iff (lm : CBUSLongMessageEx) (hoff : lm.useCrc = false) :
    (∀ (id : UInt32) (streamId : UInt8) (msg : List UInt8) (crc : UInt16)
      (calls : List ReceiverCall), lm.Awaiting id streamId msg.length → 1 ≤ msg.length →
        msg.length ≤ 1275 → fragments calls = messageFrames id streamId msg crc →
          GuardedOption receive InTime lm calls → (lm.Delivers calls msg streamId ↔ crc = 0)) ∧
    ∀ (numReceive : UInt8) (len : UInt32) (numSend : UInt8) (receiveHeap : ℕ → ReceiveContext)
      (sendHeap : ℕ → SendContext) (bufferHeap : ℕ → ℕ → UInt8) (calls : List ReceiverCall),
      (∀ ps, ps <+: calls → ∀ t, runOption receive
          (lm.allocateContexts numReceive len numSend receiveHeap sendHeap bufferHeap) ps =
            some t → t.NoCrcError lm.handled) ↔
        GuardedTaken receive CompletesWithoutCrc
          (lm.allocateContexts numReceive len numSend receiveHeap sendHeap bufferHeap) calls := by
  refine ⟨fun id streamId msg crc calls h hpos hmax hfr ht => h.delivers_iff hoff hpos hmax hfr ht,
    fun numReceive len numSend receiveHeap sendHeap bufferHeap calls => ?_⟩
  obtain ⟨hfree, -⟩ :=
    lm.allocateContexts_free numReceive len numSend receiveHeap sendHeap bufferHeap
  have hstart : (lm.allocateContexts numReceive len numSend receiveHeap sendHeap
      bufferHeap).Unchecked lm.handled := by
    refine ⟨hoff, fun c hc => ?_, [], by simp [allocateContexts], by simp⟩
    obtain ⟨hidle, hlen⟩ := hfree c hc
    exact ⟨hlen, by simp [hidle], by simp [hidle]⟩
  have hgood : ∀ a : CBUSLongMessageEx, a.Unchecked lm.handled → a.NoCrcError lm.handled :=
    fun a ha => ha.calls
  have hbad : ∀ (a : CBUSLongMessageEx) (call : ReceiverCall) (b : CBUSLongMessageEx),
      a.Unchecked lm.handled → ¬ a.CompletesWithoutCrc call → a.receive call = some b →
        ¬ b.NoCrcError lm.handled := fun a call b ha hg hb => ha.completesWithCrc hg hb
  exact forall_reached_iff_guardedTaken (fun a call b ha hg hb => ha.step hg hb) hgood hbad hstart
    calls

def uncheckingObject : CBUSLongMessageEx := { checkingObject with useCrc := false }

theorem uncheckingObject_awaiting : uncheckingObject.Awaiting 1 7 1 where
  subscribed := by decide
  room := by decide
  free := ⟨_, List.mem_cons_self, rfl⟩
  unserved := rfl
  allocated := by decide
  handler := rfl
  safely := ⟨by decide, by decide⟩

/-- One byte with the CRC that a sender computes for it, and without a CRC. -/
theorem crcOff_iff_oneByte :
    (uncheckingObject.Delivers (handOver (messageFrames 1 7 [9] 0xb96d)) [9] 7 ↔
      (0xb96d : UInt16) = 0) ∧
    (uncheckingObject.Delivers (handOver (messageFrames 1 7 [9] 0)) [9] 7 ↔ (0 : UInt16) = 0) :=
  ⟨(crcOff_iff uncheckingObject rfl).1 1 7 [9] 0xb96d _ uncheckingObject_awaiting (by decide)
      (by decide) (by decide) (guarded_handOver _ _),
    (crcOff_iff uncheckingObject rfl).1 1 7 [9] 0 _ uncheckingObject_awaiting (by decide)
      (by decide) (by decide) (guarded_handOver _ _)⟩

/-- The message of one byte is not delivered: a CRC error is reported. -/
theorem not_delivers_crcOff :
    ¬ (∀ (lm : CBUSLongMessageEx) (id : UInt32) (streamId : UInt8) (msg : List UInt8)
      (crc : UInt16), lm.useCrc = false → lm.Awaiting id streamId msg.length →
        1 ≤ msg.length → msg.length ≤ 1275 →
          lm.Delivers (handOver (messageFrames id streamId msg crc)) msg streamId) := by
  intro h
  obtain ⟨t, call, hrun, hlog, hover⟩ :=
    h uncheckingObject 1 7 [9] 0xb96d rfl uncheckingObject_awaiting (by decide) (by decide)
  have hstatus : (runOption receive uncheckingObject (handOver (messageFrames 1 7 [9] 0xb96d))).map
      (fun t => t.handled.map (·.status)) = some [.crcError] := rfl
  have hempty : uncheckingObject.handled = [] := rfl
  rw [hrun, Option.map_some, hlog, hempty, List.nil_append, List.map_singleton, hover.status]
    at hstatus
  exact absurd hstatus (by decide)

end CBUSLongMessageEx
end CBUSPicoLib
