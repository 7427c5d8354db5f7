import CBUSPicoLib.LongMessage.SendContexts

/-!
# The receive buffers are never overrun

The payload loop of `CBUSLongMessageEx` writes a byte and tests afterwards whether the buffer is
full. A context whose buffer is full is released at once, so a context in use always has room for
the next byte, whatever the frames announce. The loop that also lists where it writes is the loop
itself.
-/

namespace CBUSPicoLib

open Runs

namespace ReceiveContext

variable {c : ReceiveContext} {useCrc : Bool} {bufferLen : UInt32} {frame : CANFrame}
  {clock : Clock}

def takeBytesLogged (useCrc : Bool) (receiveBufferLen : UInt32) (frame : CANFrame)
    (clock : Clock) :
    ℕ → ReceiveContext → List ℕ × Option (ReceiveContext × Option HandlerCall)
  | 0, c => ([], some (c, none))
  | k + 1, c =>
    let index := c.receiveBufferIndex.toNat
    match store c.buffer c.receiveBufferIndex (frame.data.getD (7 - k) 0) with
    | none => ([index], none)
    | some buffer =>
      let c := { c with
        buffer := buffer
        receiveBufferIndex := c.receiveBufferIndex + 1
        incomingBytesReceived := c.incomingBytesReceived + 1
        lastFragmentReceived := clock (4 - k) }
      if c.incomingMessageLength ≤ c.incomingBytesReceived then
        ([index], do
          let tmpcrc ← c.receivedCrc useCrc
          let status := if c.incomingMessageCrc ≠ tmpcrc.toUInt32 then .crcError else .complete
          return ({ c with inUse := false }, some (c.report status)))
      else if receiveBufferLen ≤ c.receiveBufferIndex then
        ([index], some ({ c with inUse := false }, some (c.report .truncated)))
      else
        let r := takeBytesLogged useCrc receiveBufferLen frame clock k c
        (index :: r.1, r.2)

theorem takeBytesLogged_value (k : ℕ) (c : ReceiveContext) :
    (takeBytesLogged useCrc bufferLen frame clock k c).2 =
      takeBytes useCrc bufferLen frame clock k c := by
  induction k generalizing c with
  | zero => rfl
  | succ k ih =>
    unfold takeBytesLogged takeBytes
    cases store c.buffer c.receiveBufferIndex (frame.data.getD (7 - k) 0) with
    | none => rfl
    | some buffer =>
      simp only [Option.bind_eq_bind, Option.bind_some]
      split_ifs
      · rfl
      · rfl
      · exact ih _

/-- The buffer has the length it was allocated with, and a context in use has room in it. -/
structure Inside (c : ReceiveContext) (bufferLen : UInt32) : Prop where
  allocated : c.buffer.length = bufferLen.toNat
  room : c.inUse = true → c.receiveBufferIndex < bufferLen

theorem Inside.released (h : c.Inside bufferLen) : Inside { c with inUse := false } bufferLen :=
  ⟨h.allocated, fun hc => absurd hc Bool.false_ne_true⟩

theorem receivedCrc_isSome (h : c.receiveBufferIndex.toNat ≤ c.buffer.length) (useCrc : Bool) :
    ∃ crc, c.receivedCrc useCrc = some crc := by
  unfold receivedCrc
  split_ifs
  · have hlen : (UInt16.ofNat c.receiveBufferIndex.toNat).toNat ≤ c.buffer.length := by
      rw [UInt16.toNat_ofNat']
      exact (Nat.mod_le _ _).trans h
    exact Option.isSome_iff_exists.mp (@crc16_append c.buffer [] _ hlen).2
  · exact ⟨0, rfl⟩

theorem Inside.store (h : c.Inside bufferLen) (huse : c.inUse = true) (byte : UInt8) :
    c.receiveBufferIndex.toNat < bufferLen.toNat ∧
      (c.receiveBufferIndex + 1).toNat = c.receiveBufferIndex.toNat + 1 ∧
      ∃ buffer, CBUSPicoLib.store c.buffer c.receiveBufferIndex byte = some buffer ∧
        buffer.length = bufferLen.toNat := by
  have hroom := UInt32.lt_iff_toNat_lt.mp (h.room huse)
  refine ⟨hroom, ?_, c.buffer.set c.receiveBufferIndex.toNat byte, store_eq_some byte ?_, ?_⟩
  · have hlt := bufferLen.toNat_lt
    have hone : (1 : UInt32).toNat = 1 := rfl
    rw [UInt32.toNat_add, hone]
    exact Nat.mod_eq_of_lt (by omega)
  · rw [h.allocated]
    exact hroom
  · rw [List.length_set]
    exact h.allocated

/-- The payload loop writes inside the buffer, does not fault, and leaves room in a context that
stays in use. -/
theorem Inside.takeBytes (k : ℕ) (h : c.Inside bufferLen) (huse : c.inUse = true) :
    (∀ i ∈ (takeBytesLogged useCrc bufferLen frame clock k c).1, i < bufferLen.toNat) ∧
    ∃ c' call, ReceiveContext.takeBytes useCrc bufferLen frame clock k c = some (c', call) ∧
      c'.Inside bufferLen ∧ ∀ x ∈ call, x.fragmentLen ≤ bufferLen := by
  induction k generalizing c with
  | zero => exact ⟨fun i hi => absurd hi List.not_mem_nil, c, none, rfl, h, fun x hx => by cases hx⟩
  | succ k ih =>
    obtain ⟨hroom, hindex, buffer, hstore, hlen⟩ := h.store huse (frame.data.getD (7 - k) 0)
    have hle : c.receiveBufferIndex + 1 ≤ bufferLen := by
      rw [UInt32.le_iff_toNat_le, hindex]
      exact hroom
    have hlast : ∀ i ∈ [c.receiveBufferIndex.toNat], i < bufferLen.toNat := by
      intro i hi
      rw [List.mem_singleton.mp hi]
      exact hroom
    unfold takeBytesLogged ReceiveContext.takeBytes
    rw [hstore]
    simp only [Option.bind_eq_bind, Option.bind_some]
    split_ifs with hdone hfull
    · obtain ⟨crc, hcrc⟩ := @receivedCrc_isSome { c with
          buffer := buffer
          receiveBufferIndex := c.receiveBufferIndex + 1
          incomingBytesReceived := c.incomingBytesReceived + 1
          lastFragmentReceived := clock (4 - k) } (by rw [hlen, hindex]; exact hroom) useCrc
      rw [hcrc]
      refine ⟨hlast, _, _, rfl, ⟨hlen, fun hc => absurd hc Bool.false_ne_true⟩, ?_⟩
      intro x hx
      cases hx
      exact hle
    · refine ⟨hlast, _, _, rfl, ⟨hlen, fun hc => absurd hc Bool.false_ne_true⟩, ?_⟩
      intro x hx
      cases hx
      exact hle
    · -- the byte just written was not the last one of the buffer
      obtain ⟨hwrites, hrest⟩ := @ih { c with
        buffer := buffer
        receiveBufferIndex := c.receiveBufferIndex + 1
        incomingBytesReceived := c.incomingBytesReceived + 1
        lastFragmentReceived := clock (4 - k) } ⟨hlen, fun _ => UInt32.not_le.mp hfull⟩ huse
      refine ⟨?_, hrest⟩
      intro i hi
      rcases List.mem_cons.mp hi with rfl | hi
      · exact hroom
      · exact hwrites i hi

end ReceiveContext

namespace CBUSLongMessageEx

variable {lm lm' : CBUSLongMessageEx} {len : UInt32} {handled : List HandlerCall}
  {frame : CANFrame} {clock : Clock}

/-- The indices at which a call writes into a receive buffer: a header that takes a context
clears its buffer, a data packet writes its payload. -/
def writtenIndices (lm : CBUSLongMessageEx) : ReceiverCall → List ℕ
  | .fragment frame clock =>
    if frame.data.get 2 = 0 then
      if (frame.data.get 7 = 0 ∧ frame.data.get 1 ∈ lm.streamIds) ∧
          lm.receiveContext.any (!·.inUse) then
        List.range lm.receiveBufferLen.toNat
      else []
    else
      match lm.receiveContext[lm.receiveContext.findIdx (·.matchesFrame frame)]? with
      | none => []
      | some c =>
        if (frame.data.get 2).toUInt32 ≠ c.expectedNextReceiveSequenceNum then []
        else (c.takeBytesLogged lm.useCrc lm.receiveBufferLen frame clock 5).1
  | .process _ => []

/-- Every context is inside its buffer, and the handler has been called with no more bytes than
there are in a buffer. -/
structure BuffersKept (lm : CBUSLongMessageEx) (len : UInt32) (handled : List HandlerCall) :
    Prop where
  size : lm.receiveBufferLen = len
  inside : ∀ c ∈ lm.receiveContext, c.Inside len
  calls : ∃ calls, lm.handled = handled ++ calls ∧ ∀ call ∈ calls, call.fragmentLen ≤ len

theorem BuffersKept.set (h : lm.BuffersKept len handled) (i : ℕ) {c : ReceiveContext}
    (hc : c.Inside len) : BuffersKept { lm with receiveContext := lm.receiveContext.set i c } len
      handled := by
  refine ⟨h.size, fun d hd => ?_, h.calls⟩
  rcases List.mem_or_eq_of_mem_set hd with hd | rfl
  · exact h.inside d hd
  · exact hc

theorem BuffersKept.report (h : lm.BuffersKept len handled) {call : HandlerCall}
    (hcall : call.fragmentLen ≤ len) :
    BuffersKept { lm with handled := lm.handled ++ [call] } len handled := by
  obtain ⟨calls, hlog, hbound⟩ := h.calls
  refine ⟨h.size, h.inside, calls ++ [call], ?_, ?_⟩
  · rw [← List.append_assoc, ← hlog]
  · intro x hx
    rcases List.mem_append.mp hx with hx | hx
    · exact hbound x hx
    · rw [List.mem_singleton.mp hx]
      exact hcall

theorem BuffersKept.release (h : lm.BuffersKept len handled) {i : ℕ} {c : ReceiveContext}
    (hget : lm.receiveContext[i]? = some c) (huse : c.inUse = true) (status : LongMessageStatus) :
    BuffersKept { lm with
      handled := lm.handled ++ [c.report status]
      receiveContext := lm.receiveContext.set i { c with inUse := false } } len handled := by
  have hinside := h.inside c (List.mem_of_getElem? hget)
  have hroom : c.receiveBufferIndex ≤ len := by
    have hlt := UInt32.lt_iff_toNat_lt.mp (hinside.room huse)
    rw [UInt32.le_iff_toNat_le]
    omega
  exact (@BuffersKept.report lm len handled h (c.report status) hroom).set i hinside.released

/-- A header takes a free context, if there is one; a buffer has room for a byte. -/
theorem BuffersKept.header (h : lm.BuffersKept len handled) (hlen : 0 < len) (frame : CANFrame)
    (clock : Clock) :
    ∃ lm', lm.receiveHeader frame clock = some lm' ∧ lm'.BuffersKept len handled := by
  unfold receiveHeader
  split_ifs
  · dsimp only
    cases hget : lm.receiveContext[lm.receiveContext.findIdx (!·.inUse)]? with
    | none => exact ⟨lm, rfl, h⟩
    | some c =>
      have hinside := h.inside c (List.mem_of_getElem? hget)
      obtain ⟨buffer, hbuffer, hblen⟩ := @memset_eq_some c.buffer lm.receiveBufferLen
        (by rw [hinside.allocated, h.size])
      dsimp only
      rw [hbuffer]
      exact ⟨_, rfl, h.set _ ⟨hblen.trans hinside.allocated, fun _ => hlen⟩⟩
  · exact ⟨lm, rfl, h⟩

theorem BuffersKept.packet (h : lm.BuffersKept len handled)
    (hcall : lm.receiveFragment frame clock = some lm') : lm'.BuffersKept len handled := by
  rcases receiveFragment_cases hcall with ⟨-, rfl⟩ | ⟨c, hget, huse, hcase⟩
  · exact h
  · split_ifs at hcase
    · obtain ⟨c', call, htake, rfl⟩ := hcase
      obtain ⟨-, d, call', htake', hinside, hreport⟩ := @ReceiveContext.Inside.takeBytes _ lm.useCrc _
        frame clock 5 (h.inside c (List.mem_of_getElem? hget)) huse
      rw [h.size] at htake
      cases htake.symm.trans htake'
      have hnext : ReceiveContext.Inside { c' with
          expectedNextReceiveSequenceNum := c'.expectedNextReceiveSequenceNum + 1 } len :=
        ⟨hinside.allocated, hinside.room⟩
      cases call with
      | none => simpa using h.set _ hnext
      | some call => exact (h.report (hreport call rfl)).set _ hnext
    · rw [hcase]
      exact h.release hget huse .sequenceError

theorem BuffersKept.exists_packet (h : lm.BuffersKept len handled)
    (hhandler : lm.messagehandler = true) (frame : CANFrame) (clock : Clock) :
    ∃ lm', lm.receiveFragment frame clock = some lm' := by
  unfold receiveFragment
  dsimp only
  cases hget : lm.receiveContext[lm.receiveContext.findIdx (·.matchesFrame frame)]? with
  | none => exact ⟨lm, rfl⟩
  | some c =>
    dsimp only
    split_ifs
    · rw [callHandler_eq hhandler]
      exact ⟨_, rfl⟩
    · obtain ⟨-, c', call, htake, -⟩ := @ReceiveContext.Inside.takeBytes _ lm.useCrc _
        frame clock 5 (h.inside c (List.mem_of_getElem? hget)) (inUse_of_matchesFrame hget)
      rw [h.size, htake, Option.bind_eq_bind, Option.bind_some]
      cases call with
      | none => exact ⟨_, rfl⟩
      | some call =>
        dsimp only
        rw [callHandler_eq hhandler]
        exact ⟨_, rfl⟩

theorem BuffersKept.writtenIndices_lt (h : lm.BuffersKept len handled) (call : ReceiverCall) :
    ∀ i ∈ lm.writtenIndices call, i < len.toNat := by
  cases call with
  | process clock => exact fun i hi => absurd hi List.not_mem_nil
  | fragment frame clock =>
    unfold writtenIndices
    dsimp only
    split_ifs
    · rw [h.size]
      exact fun i hi => List.mem_range.mp hi
    · exact fun i hi => absurd hi List.not_mem_nil
    · cases hget : lm.receiveContext[lm.receiveContext.findIdx (·.matchesFrame frame)]? with
      | none => exact fun i hi => absurd hi List.not_mem_nil
      | some c =>
        dsimp only
        split_ifs
        · exact fun i hi => absurd hi List.not_mem_nil
        · rw [h.size]
          exact (ReceiveContext.Inside.takeBytes 5 (h.inside c (List.mem_of_getElem? hget))
            (inUse_of_matchesFrame hget)).1

/-- The timeout checks report what is in the buffers and release their contexts. -/
theorem BuffersKept.process (h : lm.BuffersKept len handled) {ret : Bool}
    (hcall : lm.process clock = some (ret, lm')) : lm'.BuffersKept len handled := by
  refine process_invariant (BuffersKept · len handled) (fun a i c ha hget huse => ?_)
    (fun a n cs i ha => ?_) h hcall
  · exact ha.release hget huse .timeoutError
  · exact ⟨ha.size, ha.inside, ha.calls⟩

theorem BuffersKept.step (h : lm.BuffersKept len handled) (hlen : 0 < len) (call : ReceiverCall)
    (hcall : lm.receive call = some lm') : lm'.BuffersKept len handled := by
  cases call with
  | process clock =>
    obtain ⟨⟨ret, b⟩, hb, rfl⟩ := Option.map_eq_some_iff.mp hcall
    exact h.process hb
  | fragment frame clock =>
    change lm.processReceivedMessageFragment frame clock = some lm' at hcall
    unfold processReceivedMessageFragment at hcall
    split_ifs at hcall
    · obtain ⟨m, hm, hkept⟩ := h.header hlen frame clock
      cases Option.some.inj (hm.symm.trans hcall)
      exact hkept
    · exact h.packet hcall

/-- Nothing is written or passed to the handler that lies outside of the buffers: not by the calls
that led to this state, not by the next call. With a handler neither a frame nor a timeout
faults. -/
structure StaysInside (lm : CBUSLongMessageEx) (len : UInt32) (handled : List HandlerCall) :
    Prop where
  indices : ∀ c ∈ lm.receiveContext, c.inUse = true → c.receiveBufferIndex < len
  buffers : ∀ c ∈ lm.receiveContext, c.buffer.length = len.toNat
  writes : ∀ call, ∀ i ∈ lm.writtenIndices call, i < len.toNat
  calls : ∃ calls, lm.handled = handled ++ calls ∧ ∀ call ∈ calls, call.fragmentLen ≤ len
  fragments : lm.messagehandler = true → ∀ frame clock,
    ∃ lm', lm.processReceivedMessageFragment frame clock = some lm'
  timeouts : lm.messagehandler = true → ∀ clock, ∃ lm', lm.checkTimeouts clock = some lm'

theorem BuffersKept.staysInside (h : lm.BuffersKept len handled) (hlen : 0 < len) :
    lm.StaysInside len handled where
  indices := fun c hc => (h.inside c hc).room
  buffers := fun c hc => (h.inside c hc).allocated
  writes := h.writtenIndices_lt
  calls := h.calls
  fragments := by
    intro hhandler frame clock
    unfold processReceivedMessageFragment
    split_ifs
    · obtain ⟨lm', hm, -⟩ := h.header hlen frame clock
      exact ⟨lm', hm⟩
    · exact h.exists_packet hhandler frame clock
  timeouts := by
    intro hhandler clock
    obtain ⟨rs, hs, hm, -⟩ := checkTimeouts_total (Or.inl hhandler) clock
    exact ⟨_, hm⟩

theorem allocateContexts_kept (lm : CBUSLongMessageEx) (numReceive : UInt8) (len : UInt32)
    (numSend : UInt8) (receiveHeap : ℕ → ReceiveContext) (sendHeap : ℕ → SendContext)
    (bufferHeap : ℕ → ℕ → UInt8) :
    (lm.allocateContexts numReceive len numSend receiveHeap sendHeap bufferHeap).BuffersKept len
      lm.handled := by
  obtain ⟨hfree, -⟩ :=
    lm.allocateContexts_free numReceive len numSend receiveHeap sendHeap bufferHeap
  refine ⟨rfl, fun c hc => ⟨(hfree c hc).2, fun huse => ?_⟩, [], (List.append_nil _).symm, ?_⟩
  · exact absurd (huse.symm.trans (hfree c hc).1) (by decide)
  · exact fun call hc => absurd hc List.not_mem_nil

/-- After an allocation with buffers of at least one byte, whatever frames are received and
whenever `process` is called, everything stays inside the buffers. -/
theorem receive_staysInside (lm : CBUSLongMessageEx) (numReceive : UInt8) (len : UInt32)
    (hlen : 1 ≤ len) (numSend : UInt8) (receiveHeap : ℕ → ReceiveContext)
    (sendHeap : ℕ → SendContext) (bufferHeap : ℕ → ℕ → UInt8) (calls : List ReceiverCall) :
    ∀ lm', runOption receive
        (lm.allocateContexts numReceive len numSend receiveHeap sendHeap bufferHeap) calls =
          some lm' → lm'.StaysInside len lm.handled := by
  intro lm' hrun
  have hpos : 0 < len := by
    rw [UInt32.lt_iff_toNat_lt]
    exact UInt32.le_iff_toNat_le.mp hlen
  have hstep : ∀ (a : CBUSLongMessageEx) (call : ReceiverCall) (b : CBUSLongMessageEx),
      a.BuffersKept len lm.handled → a.receive call = some b → b.BuffersKept len lm.handled := by
    intro a call b ha hb
    exact ha.step hpos call hb
  have hstart := lm.allocateContexts_kept numReceive len numSend receiveHeap sendHeap bufferHeap
  have hkept : lm'.BuffersKept len lm.handled := runOption_invariant hstep hstart hrun
  exact hkept.staysInside hpos

def listeningObject : CBUSLongMessageEx :=
  { cbusObject := CBUSbase.smallModule, streamIds := [7], messagehandler := true }

/-- Two contexts of three bytes, and a message of seven that does not fit. -/
theorem receive_staysInside_three : ∃ lm,
    runOption receive (listeningObject.allocateContexts 2 3 1 rawReceive rawSend fun _ _ => 0)
        [.fragment (headerFrame 1 7 7 0) fun _ => 0,
          .fragment (dataFrame 1 7 [1, 2, 3, 4, 5, 6, 7] 0) fun _ => 0, .process fun _ => 0] =
      some lm ∧ lm.StaysInside 3 [] := by
  have hrun := receive_staysInside listeningObject 2 3 (by decide) 1 rawReceive rawSend
    (fun _ _ => 0) [.fragment (headerFrame 1 7 7 0) fun _ => 0,
      .fragment (dataFrame 1 7 [1, 2, 3, 4, 5, 6, 7] 0) fun _ => 0, .process fun _ => 0]
  exact ⟨_, rfl, hrun _ rfl⟩

end CBUSLongMessageEx
end CBUSPicoLib
