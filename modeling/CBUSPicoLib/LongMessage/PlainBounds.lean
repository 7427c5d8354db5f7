import CBUSPicoLib.LongMessage.ForeignFragments

/-!
# The user's buffer is never overrun

`CBUSLongMessage` tests whether the buffer is full before it writes a byte. The index, the
count of bytes and the announced length are reset in different branches; what they have in
common is kept by each of them, and the end of every fragment restores that no complete
message is kept. The loop that also lists where it writes is the loop itself.
-/

namespace CBUSPicoLib

open Runs

namespace LongMessageReceiver

variable {r r' : LongMessageReceiver} {len : UInt32} {handled : List HandlerCall}
  {frame : CANFrame} {clock : Clock}

/-- The indices that clearing the buffer writes, once the handler has returned. -/
def clearedIndices (r : LongMessageReceiver) : List ℕ :=
  if r.messagehandler then List.range r.receiveBufferLen.toNat else []

def takeBytesLogged (frame : CANFrame) :
    ℕ → LongMessageReceiver → List ℕ × Option LongMessageReceiver
  | 0, r => ([], some r)
  | k + 1, r =>
    if r.receiveBufferLen ≤ r.receiveBufferIndex then
      (r.clearedIndices, r.flushBuffer .incomplete)
    else
      let index := r.receiveBufferIndex.toNat
      match store r.receiveBuffer r.receiveBufferIndex (frame.data.getD (7 - k) 0) with
      | none => ([index], none)
      | some buffer =>
        let r := { r with
          receiveBuffer := buffer
          receiveBufferIndex := r.receiveBufferIndex + 1
          incomingBytesReceived := r.incomingBytesReceived + 1 }
        if r.incomingMessageLength ≤ r.incomingBytesReceived then
          (index :: r.clearedIndices, r.flushBuffer .complete)
        else
          let rest := takeBytesLogged frame k r
          (index :: rest.1, rest.2)

theorem takeBytesLogged_value (k : ℕ) (r : LongMessageReceiver) :
    (takeBytesLogged frame k r).2 = takeBytes frame k r := by
  induction k generalizing r with
  | zero => rfl
  | succ k ih =>
    unfold takeBytesLogged takeBytes
    split_ifs
    · rfl
    · cases store r.receiveBuffer r.receiveBufferIndex (frame.data.getD (7 - k) 0) with
      | none => rfl
      | some buffer =>
        simp only [Option.bind_eq_bind, Option.bind_some]
        split_ifs
        · rfl
        · exact ih _

/-- The index is within the buffer of the given length, and so is every length that the
handler has been called with. -/
structure Inside (r : LongMessageReceiver) (len : UInt32) (handled : List HandlerCall) : Prop where
  size : r.receiveBufferLen = len
  allocated : len.toNat ≤ r.receiveBuffer.length
  index : r.receiveBufferIndex ≤ len
  calls : ∃ calls, r.handled = handled ++ calls ∧ ∀ call ∈ calls, call.fragmentLen ≤ len

/-- What holds between two calls. -/
structure Kept (r : LongMessageReceiver) (len : UInt32) (handled : List HandlerCall) : Prop
    extends Inside r len handled where
  incomplete :
    ¬ (0 < r.incomingMessageLength ∧ r.incomingMessageLength ≤ r.incomingBytesReceived)

theorem Inside.callHandler (h : r.Inside len handled) (status : LongMessageStatus)
    (hcall : r.callHandler (r.report status) = some r') : r'.Inside len handled := by
  unfold LongMessageReceiver.callHandler at hcall
  split_ifs at hcall
  cases hcall
  obtain ⟨calls, hlog, hbound⟩ := h.calls
  refine ⟨h.size, h.allocated, h.index, calls ++ [r.report status], by simp [hlog], ?_⟩
  intro call hmem
  rcases List.mem_append.mp hmem with hmem | hmem
  · exact hbound call hmem
  · rw [List.mem_singleton.mp hmem]
    exact h.index

theorem Inside.flushBuffer (h : r.Inside len handled) (status : LongMessageStatus)
    (hflush : r.flushBuffer status = some r') : r'.Inside len handled := by
  obtain ⟨m, hm, hrest⟩ := Option.bind_eq_some_iff.mp hflush
  have hinside := h.callHandler status hm
  obtain ⟨buffer, hbuffer, heq⟩ := Option.bind_eq_some_iff.mp hrest
  obtain ⟨b, hb, hlen⟩ := @memset_eq_some m.receiveBuffer m.receiveBufferLen
    (by rw [hinside.size]; exact hinside.allocated)
  cases hb.symm.trans hbuffer
  cases heq
  exact ⟨hinside.size, hlen ▸ hinside.allocated, UInt32.zero_le, hinside.calls⟩

theorem Inside.cleared (h : r.Inside len handled) : ∀ i ∈ r.clearedIndices, i < len.toNat := by
  unfold clearedIndices
  split_ifs
  · rw [h.size]
    exact fun i hi => List.mem_range.mp hi
  · simp

/-- The payload loop writes inside the buffer and leaves the index inside it. -/
theorem Inside.takeBytes (k : ℕ) (h : r.Inside len handled) :
    (∀ i ∈ (takeBytesLogged frame k r).1, i < len.toNat) ∧
      ∀ r', LongMessageReceiver.takeBytes frame k r = some r' → r'.Inside len handled := by
  induction k generalizing r with
  | zero => exact ⟨by simp [takeBytesLogged], fun r' heq => by cases heq; exact h⟩
  | succ k ih =>
    unfold takeBytesLogged LongMessageReceiver.takeBytes
    split_ifs with hfull
    · exact ⟨h.cleared, fun r' hflush => h.flushBuffer .incomplete hflush⟩
    · -- there is room for one more byte
      have hroom : r.receiveBufferIndex.toNat < len.toNat := by
        rw [h.size] at hfull
        exact UInt32.lt_iff_toNat_lt.mp (UInt32.not_le.mp hfull)
      have hstored := store_eq_some (frame.data.getD (7 - k) 0)
        (Nat.lt_of_lt_of_le hroom h.allocated)
      rw [hstored, Option.bind_eq_bind, Option.bind_some]
      dsimp only
      have hnext : Inside { r with
          receiveBuffer := r.receiveBuffer.set r.receiveBufferIndex.toNat
            (frame.data.getD (7 - k) 0)
          receiveBufferIndex := r.receiveBufferIndex + 1
          incomingBytesReceived := r.incomingBytesReceived + 1 } len handled := by
        refine ⟨h.size, le_of_le_of_eq h.allocated List.length_set.symm, ?_, h.calls⟩
        have hone : (1 : UInt32).toNat = 1 := rfl
        rw [UInt32.le_iff_toNat_le, UInt32.toNat_add, hone]
        exact (Nat.mod_le _ _).trans hroom
      split_ifs
      · refine ⟨?_, fun r' hflush => hnext.flushBuffer .complete hflush⟩
        intro i hi
        rcases List.mem_cons.mp hi with rfl | hi
        · exact hroom
        · exact hnext.cleared i hi
      · obtain ⟨hwrites, hrest⟩ := ih hnext
        refine ⟨?_, hrest⟩
        intro i hi
        rcases List.mem_cons.mp hi with rfl | hi
        · exact hroom
        · exact hwrites i hi

theorem Inside.receiveHeader (h : r.Inside len handled)
    (hcall : r.receiveHeader frame = some r') : r'.Inside len handled := by
  unfold LongMessageReceiver.receiveHeader at hcall
  split_ifs at hcall
  · obtain ⟨buffer, hbuffer, heq⟩ := Option.bind_eq_some_iff.mp hcall
    obtain ⟨b, hb, hlen⟩ := @memset_eq_some r.receiveBuffer r.receiveBufferLen
      (by rw [h.size]; exact h.allocated)
    cases hb.symm.trans hbuffer
    cases heq
    exact ⟨h.size, hlen ▸ h.allocated, UInt32.zero_le, h.calls⟩
  · cases hcall
    exact h

theorem Inside.receiveFragment (h : r.Inside len handled)
    (hcall : r.receiveFragment frame = some r') : r'.Inside len handled := by
  unfold LongMessageReceiver.receiveFragment at hcall
  split_ifs at hcall
  · exact (h.takeBytes 5).2 r' hcall
  · obtain ⟨m, hm, heq⟩ := Option.bind_eq_some_iff.mp hcall
    have hinside := h.callHandler .sequenceError hm
    cases heq
    exact ⟨hinside.size, hinside.allocated, hinside.index, hinside.calls⟩
  · cases hcall
    exact h
  · cases hcall
    exact h

theorem Inside.finishMessage (h : r.Inside len handled) (hcall : r.finishMessage = some r') :
    r'.Kept len handled := by
  unfold LongMessageReceiver.finishMessage at hcall
  split_ifs at hcall with hdone hindex
  · obtain ⟨m, hm, heq⟩ := Option.bind_eq_some_iff.mp hcall
    have hinside := h.callHandler .complete hm
    cases heq
    exact ⟨⟨hinside.size, hinside.allocated, UInt32.zero_le, hinside.calls⟩, by simp⟩
  · cases hcall
    exact ⟨⟨h.size, h.allocated, UInt32.zero_le, h.calls⟩, by simp⟩
  · cases hcall
    exact ⟨h, hdone⟩

theorem Inside.afterFragment (h : r.Inside len handled) (hcall : r.afterFragment = some r') :
    r'.Kept len handled := by
  have hcounted : Inside { r with
      expectedNextReceiveSequenceNum := r.expectedNextReceiveSequenceNum + 1 } len handled :=
    ⟨h.size, h.allocated, h.index, h.calls⟩
  exact hcounted.finishMessage hcall

theorem Inside.fragment (h : r.Inside len handled)
    (hcall : r.processReceivedMessageFragment frame clock = some r') : r'.Kept len handled := by
  have hstamped : Inside { r with lastFragmentReceived := clock 0 } len handled :=
    ⟨h.size, h.allocated, h.index, h.calls⟩
  cases hrec : r.isReceiving with
  | false =>
    rw [processReceivedMessageFragment_idle hrec] at hcall
    obtain ⟨m, hm, hafter⟩ := Option.bind_eq_some_iff.mp hcall
    exact (hstamped.receiveHeader hm).afterFragment hafter
  | true =>
    rw [processReceivedMessageFragment_receiving hrec] at hcall
    obtain ⟨m, hm, hafter⟩ := Option.bind_eq_some_iff.mp hcall
    exact (hstamped.receiveFragment hm).afterFragment hafter

theorem Kept.checkTimeout (h : r.Kept len handled) {now : UInt32}
    (hcall : r.checkTimeout now = some r') : r'.Kept len handled := by
  unfold LongMessageReceiver.checkTimeout at hcall
  split_ifs at hcall
  · obtain ⟨m, hm, heq⟩ := Option.bind_eq_some_iff.mp hcall
    have hinside := h.toInside.callHandler .timeoutError hm
    cases heq
    exact ⟨⟨hinside.size, hinside.allocated, hinside.index, hinside.calls⟩, by simp⟩
  · cases hcall
    exact h

/-- With a handler what is kept is what the other results on this class rest on. -/
theorem Kept.sound (h : r.Kept len handled) (hhandler : r.messagehandler = true) : r.Sound where
  handler := hhandler
  allocated := by
    rw [h.size]
    exact h.allocated
  incomplete := h.incomplete

end LongMessageReceiver

namespace CBUSLongMessage

variable {lm lm' : CBUSLongMessage} {len : UInt32} {handled : List HandlerCall}

/-- The indices at which a call writes into the user's buffer: a header that is accepted
clears it, a fragment of the message writes its payload. -/
def writtenIndices (lm : CBUSLongMessage) : ReceiverCall → List ℕ
  | .fragment frame clock =>
    let r := { lm.toLongMessageReceiver with lastFragmentReceived := clock 0 }
    if r.isReceiving then
      if r.Owns frame ∧ (frame.data.get 2).toUInt32 = r.expectedNextReceiveSequenceNum then
        (r.takeBytesLogged frame 5).1
      else []
    else if frame.data.get 2 = 0 ∧ frame.data.get 7 = 0 ∧ frame.data.get 1 ∈ r.streamIds then
      List.range r.receiveBufferLen.toNat
    else []
  | .process _ => []

/-- Nothing is written or passed to the handler that lies outside of the buffer: not by the
calls that led to this state, not by the next call. With a handler neither a frame nor the
timeout faults. -/
structure StaysInside (lm : CBUSLongMessage) (len : UInt32) (handled : List HandlerCall) :
    Prop where
  size : lm.receiveBufferLen = len
  index : lm.receiveBufferIndex ≤ lm.receiveBufferLen
  writes : ∀ call, ∀ i ∈ lm.writtenIndices call, i < len.toNat
  calls : ∃ calls, lm.handled = handled ++ calls ∧ ∀ call ∈ calls, call.fragmentLen ≤ len
  missing : lm.isReceiving = true → lm.incomingMessageLength ≠ 0 →
    lm.incomingBytesReceived < lm.incomingMessageLength
  fragments : lm.messagehandler = true → ∀ frame clock,
    ∃ r, lm.processReceivedMessageFragment frame clock = some r
  timeouts : lm.messagehandler = true → ∀ now, ∃ r, lm.checkTimeout now = some r

theorem writtenIndices_lt (h : lm.toLongMessageReceiver.Kept len handled) (call : ReceiverCall) :
    ∀ i ∈ lm.writtenIndices call, i < len.toNat := by
  cases call with
  | process clock => simp [writtenIndices]
  | fragment frame clock =>
    have hstamped : LongMessageReceiver.Inside { lm.toLongMessageReceiver with
        lastFragmentReceived := clock 0 } len handled := ⟨h.size, h.allocated, h.index, h.calls⟩
    unfold writtenIndices
    dsimp only
    split_ifs
    · exact (hstamped.takeBytes 5).1
    · simp
    · rw [h.size]
      exact fun i hi => List.mem_range.mp hi
    · simp

theorem staysInside_of_kept (h : lm.toLongMessageReceiver.Kept len handled) :
    lm.StaysInside len handled where
  size := h.size
  index := by
    rw [h.size]
    exact h.index
  writes := writtenIndices_lt h
  calls := h.calls
  missing := by
    intro _ hne
    have hpos : 0 < lm.incomingMessageLength := UInt32.pos_iff_ne_zero.mpr hne
    exact UInt32.not_le.mp fun hle => h.incomplete ⟨hpos, hle⟩
  fragments := by
    intro hhandler frame clock
    obtain ⟨r, seq, hr, -⟩ := @LongMessageReceiver.Sound.fragment_restamp _
      lm.expectedNextReceiveSequenceNum (h.sound hhandler) frame clock 0 0 (fun _ => by simp)
      (fun _ _ => Iff.rfl)
    exact ⟨r, hr⟩
  timeouts := by
    intro hhandler now
    obtain ⟨r, hr, -⟩ := (h.sound hhandler).checkTimeout now
    exact ⟨r, hr⟩

theorem kept_receive (h : lm.toLongMessageReceiver.Kept len handled) {call : ReceiverCall}
    (hcall : lm.receive call = some lm') : lm'.toLongMessageReceiver.Kept len handled := by
  cases call with
  | fragment frame clock =>
    obtain ⟨r, hr, heq⟩ := Option.bind_eq_some_iff.mp hcall
    cases heq
    exact h.toInside.fragment hr
  | process clock =>
    obtain ⟨⟨ret, m⟩, hm, rfl⟩ := Option.map_eq_some_iff.mp hcall
    obtain ⟨r, hr, hrest⟩ := Option.bind_eq_some_iff.mp hm
    obtain ⟨s, -, heq⟩ := Option.bind_eq_some_iff.mp hrest
    cases heq
    exact h.checkTimeout hr

def subscribed (s : LongMessageSender) (streamIds receiveBuffer : List UInt8)
    (receiveBuffLen : UInt32) (messageHandler : Bool) (timeout : UInt32) : CBUSLongMessage where
  toLongMessageReceiver :=
    (({} : LongMessageReceiver).subscribe streamIds receiveBuffer receiveBuffLen messageHandler
      ).setTimeout timeout
  toLongMessageSender := s

/-- Whatever frames are received and whenever `process` is called, everything stays inside a
buffer that is as long as the user said. -/
theorem run_staysInside (s : LongMessageSender) (streamIds receiveBuffer : List UInt8)
    (len : UInt32) (hlen : len.toNat ≤ receiveBuffer.length) (messageHandler : Bool)
    (timeout : UInt32) (calls : List ReceiverCall) :
    ∀ lm, runOption receive (subscribed s streamIds receiveBuffer len messageHandler timeout) calls =
      some lm → lm.StaysInside len [] := by
  intro lm hrun
  have hstart : (subscribed s streamIds receiveBuffer len messageHandler timeout
      ).toLongMessageReceiver.Kept len [] :=
    ⟨⟨rfl, hlen, UInt32.zero_le, [], rfl, by simp⟩, by simp [subscribed,
      LongMessageReceiver.subscribe, LongMessageReceiver.setTimeout]⟩
  have hstep : ∀ (a : CBUSLongMessage) (call : ReceiverCall) (b : CBUSLongMessage),
      a.toLongMessageReceiver.Kept len [] → a.receive call = some b →
        b.toLongMessageReceiver.Kept len [] := fun a call b ha hb => kept_receive ha hb
  exact staysInside_of_kept (runOption_invariant hstep hstart hrun)

theorem run_staysInside_empty : ∃ lm,
    runOption receive (subscribed { cbusObject := CBUSbase.smallModule } [7] [] 0 true 5000)
        [.fragment (headerFrame 1 7 7 0) fun _ => 0,
          .fragment (dataFrame 1 7 [1, 2, 3, 4, 5, 6, 7] 0) fun _ => 0, .process fun _ => 0] =
      some lm ∧ lm.StaysInside 0 [] := by
  have hrun := run_staysInside { cbusObject := CBUSbase.smallModule } [7] [] 0 (by decide) true
    5000 [.fragment (headerFrame 1 7 7 0) fun _ => 0,
      .fragment (dataFrame 1 7 [1, 2, 3, 4, 5, 6, 7] 0) fun _ => 0, .process fun _ => 0]
  exact ⟨_, rfl, hrun _ rfl⟩

end CBUSLongMessage
end CBUSPicoLib
