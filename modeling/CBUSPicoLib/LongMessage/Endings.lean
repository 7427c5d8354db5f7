import CBUSPicoLib.LongMessage.PlainBounds

/-!
# How a message ends

A message ends with one call of the handler: it is complete, a fragment is out of sequence,
or the timeout has passed. `Watch` counts these calls since the last accepted header. The end
of a fragment tests for a message of at least one byte, so a message announced with length 0
is reported complete and is still being received.
-/

namespace CBUSPicoLib

open Runs

def LongMessageStatus.isTerminal : LongMessageStatus → Bool
  | .complete => true
  | .sequenceError => true
  | .timeoutError => true
  | _ => false

def terminalCalls (calls : List HandlerCall) : ℕ := calls.countP (·.status.isTerminal)

namespace LongMessageReceiver

variable {r r' : LongMessageReceiver} {frame : CANFrame} {clock : Clock}

/-- The frame is a header that an idle receiver accepts. -/
def Accepts (r : LongMessageReceiver) (frame : CANFrame) : Prop :=
  r.isReceiving = false ∧ frame.data.get 2 = 0 ∧ frame.data.get 7 = 0 ∧
    frame.data.get 1 ∈ r.streamIds

instance (r : LongMessageReceiver) (frame : CANFrame) : Decidable (r.Accepts frame) :=
  inferInstanceAs (Decidable (_ ∧ _))

/-- The frame continues the message that is being received. -/
def Continues (r : LongMessageReceiver) (frame : CANFrame) : Prop :=
  r.isReceiving = true ∧ r.Owns frame ∧
    (frame.data.get 2).toUInt32 = r.expectedNextReceiveSequenceNum

instance (r : LongMessageReceiver) (frame : CANFrame) : Decidable (r.Continues frame) :=
  inferInstanceAs (Decidable (_ ∧ (_ ∧ _) ∧ _))

/-- A message of length 0 is continued, and there is room for a byte. -/
def CompletesNothing (r : LongMessageReceiver) (frame : CANFrame) : Prop :=
  r.Continues frame ∧ r.incomingMessageLength = 0 ∧ r.receiveBufferIndex < r.receiveBufferLen

instance (r : LongMessageReceiver) (frame : CANFrame) : Decidable (r.CompletesNothing frame) :=
  inferInstanceAs (Decidable (_ ∧ _))

/-- Between two calls no complete message is kept, and an idle receiver waits for no bytes. -/
def Incomplete (r : LongMessageReceiver) : Prop :=
  ¬ (0 < r.incomingMessageLength ∧ r.incomingMessageLength ≤ r.incomingBytesReceived)

theorem flushBuffer_eq_some {status : LongMessageStatus} (h : r.flushBuffer status = some r') :
    ∃ buffer, r' = { r with
      handled := r.handled ++ [r.report status]
      receiveBufferIndex := 0
      receiveBuffer := buffer } := by
  obtain ⟨m, hm, hrest⟩ := Option.bind_eq_some_iff.mp h
  unfold LongMessageReceiver.callHandler at hm
  split_ifs at hm
  cases hm
  obtain ⟨buffer, -, heq⟩ := Option.bind_eq_some_iff.mp hrest
  cases heq
  exact ⟨buffer, rfl⟩

/-- What the payload loop leaves: the message goes on, or it has been reported complete. -/
structure GoesOn (r r' : LongMessageReceiver) : Prop where
  receiving : r'.isReceiving = r.isReceiving
  length : r'.incomingMessageLength = r.incomingMessageLength
  incomplete : r'.Incomplete
  calls : ∃ calls, r'.handled = r.handled ++ calls ∧ terminalCalls calls = 0

structure Completed (r r' : LongMessageReceiver) : Prop where
  receiving : r'.isReceiving = r.isReceiving
  length : r'.incomingMessageLength = r.incomingMessageLength
  received : r.incomingMessageLength ≤ r'.incomingBytesReceived
  index : r'.receiveBufferIndex = 0
  calls : ∃ call, r'.handled = r.handled ++ [call] ∧ call.status = .complete

/-- Unless a message of length 0 meets a buffer with room, the message goes on as long as
bytes are missing. -/
theorem takeBytes_cases (k : ℕ) (hr : r.Incomplete)
    (h : takeBytes frame k r = some r') : GoesOn r r' ∨ Completed r r' := by
  induction k generalizing r with
  | zero =>
    cases h
    exact Or.inl ⟨rfl, rfl, hr, [], by simp, rfl⟩
  | succ k ih =>
    unfold takeBytes at h
    split_ifs at h with hfull
    · obtain ⟨buffer, rfl⟩ := flushBuffer_eq_some h
      exact Or.inl ⟨rfl, rfl, hr, _, rfl, by simp [terminalCalls, report,
        LongMessageStatus.isTerminal]⟩
    · obtain ⟨buffer, hstore, h⟩ := Option.bind_eq_some_iff.mp h
      dsimp only at h
      split_ifs at h with hdone
      · obtain ⟨buffer', rfl⟩ := flushBuffer_eq_some h
        exact Or.inr ⟨rfl, rfl, hdone, rfl, _, rfl, rfl⟩
      · have hnext : Incomplete { r with
            receiveBuffer := buffer
            receiveBufferIndex := r.receiveBufferIndex + 1
            incomingBytesReceived := r.incomingBytesReceived + 1 } := fun hc => hdone hc.2
        rcases ih hnext h with hgo | hcomp
        · exact Or.inl ⟨hgo.receiving, hgo.length, hgo.incomplete, hgo.calls⟩
        · exact Or.inr ⟨hcomp.receiving, hcomp.length, hcomp.received, hcomp.index, hcomp.calls⟩

/-- A message of length 0 is complete with the first byte, if there is room for it. -/
theorem takeBytes_zero {k : ℕ} (hzero : r.incomingMessageLength = 0)
    (h : takeBytes frame (k + 1) r = some r') :
    if r.receiveBufferLen ≤ r.receiveBufferIndex then GoesOn r r' else Completed r r' := by
  unfold takeBytes at h
  split_ifs at h ⊢ with hfull
  · obtain ⟨buffer, rfl⟩ := flushBuffer_eq_some h
    exact ⟨rfl, rfl, by simp [Incomplete, hzero], _, rfl, by simp [terminalCalls, report,
      LongMessageStatus.isTerminal]⟩
  · obtain ⟨buffer, hstore, h⟩ := Option.bind_eq_some_iff.mp h
    dsimp only at h
    rw [if_pos (by rw [hzero]; exact UInt32.zero_le)] at h
    obtain ⟨buffer', rfl⟩ := flushBuffer_eq_some h
    exact ⟨rfl, rfl, by rw [hzero]; exact UInt32.zero_le, rfl, _, rfl, rfl⟩

/-- The call of the object that leads from `r` to `r'` makes so many terminal calls of the
handler. -/
structure Ends (r r' : LongMessageReceiver) (count : ℕ) : Prop where
  incomplete : r'.Incomplete
  calls : ∃ calls, r'.handled = r.handled ++ calls ∧ terminalCalls calls = count

theorem afterFragment_of_incomplete (h : r.Incomplete) : r.afterFragment =
    some { r with expectedNextReceiveSequenceNum := r.expectedNextReceiveSequenceNum + 1 } :=
  if_neg h

theorem GoesOn.ends (h : GoesOn r r') : ∃ r'', r'.afterFragment = some r'' ∧ Ends r r'' 0 :=
  ⟨_, afterFragment_of_incomplete h.incomplete, h.incomplete, h.calls⟩

/-- The end of the fragment stops receiving a message of at least one byte, and only that. -/
theorem Completed.ends (h : Completed r r') :
    ∃ r'', r'.afterFragment = some r'' ∧ Ends r r'' 1 ∧
      r''.isReceiving = if r.incomingMessageLength = 0 then r.isReceiving else false := by
  obtain ⟨call, hlog, hstatus⟩ := h.calls
  have hcount : terminalCalls [call] = 1 := by
    simp [terminalCalls, hstatus, LongMessageStatus.isTerminal]
  have hlength := h.length
  have hreceived := h.received
  rw [← hlength] at hreceived ⊢
  unfold afterFragment LongMessageReceiver.finishMessage
  dsimp only
  rw [if_neg (by rw [h.index]; decide : ¬ 0 < r'.receiveBufferIndex)]
  split_ifs with hdone hzero hzero
  · exact absurd hzero (UInt32.pos_iff_ne_zero.mp hdone.1)
  · exact ⟨_, rfl, ⟨by simp [Incomplete], [call], hlog, hcount⟩, rfl⟩
  · exact ⟨_, rfl, ⟨hdone, [call], hlog, hcount⟩, h.receiving⟩
  · exact absurd ⟨UInt32.pos_iff_ne_zero.mpr hzero, hreceived⟩ hdone

theorem Incomplete.stamped (h : r.Incomplete) (clock : Clock) :
    Incomplete { r with lastFragmentReceived := clock 0 } := h

/-- An idle receiver makes no call, and starts to receive with an accepted header only. -/
theorem Incomplete.idle (h : r.Incomplete) (hidle : r.isReceiving = false)
    (hcall : r.processReceivedMessageFragment frame clock = some r') :
    Ends r r' 0 ∧ (r.Accepts frame ∨ r'.isReceiving = false) := by
  rw [processReceivedMessageFragment_idle hidle] at hcall
  obtain ⟨m, hm, hafter⟩ := Option.bind_eq_some_iff.mp hcall
  unfold receiveHeader at hm
  split_ifs at hm with haccept
  · obtain ⟨buffer, -, heq⟩ := Option.bind_eq_some_iff.mp hm
    cases heq
    have hnone : Incomplete { r with
        lastFragmentReceived := clock 0
        isReceiving := true
        receiveStreamId := frame.data.get 1
        incomingMessageLength := ((frame.data.get 3).toUInt32 <<< 8) + (frame.data.get 4).toUInt32
        incomingMessageCrc := ((frame.data.get 5).toUInt32 <<< 8) + (frame.data.get 6).toUInt32
        incomingBytesReceived := 0
        receiveBuffer := buffer
        receiveBufferIndex := 0
        expectedNextReceiveSequenceNum := 0
        senderCanid := (frame.id &&& 0x7f).toUInt8 } :=
      fun hc => UInt32.not_le.mpr hc.1 hc.2
    rw [afterFragment_of_incomplete hnone] at hafter
    cases hafter
    exact ⟨⟨hnone, [], by simp, rfl⟩, Or.inl ⟨hidle, haccept⟩⟩
  · cases hm
    rw [afterFragment_of_incomplete (h.stamped clock)] at hafter
    cases hafter
    exact ⟨⟨h, [], by simp, rfl⟩, Or.inr hidle⟩

theorem Incomplete.foreign (h : r.Incomplete) (hrec : r.isReceiving = true)
    (howns : ¬ r.Owns frame)
    (hcall : r.processReceivedMessageFragment frame clock = some r') : Ends r r' 0 := by
  rw [processReceivedMessageFragment_receiving hrec] at hcall
  obtain ⟨m, hm, hafter⟩ := Option.bind_eq_some_iff.mp hcall
  unfold receiveFragment at hm
  split_ifs at hm with hid hstream
  · exact absurd ⟨hid, hstream⟩ howns
  · exact absurd ⟨hid, hstream⟩ howns
  all_goals
    cases hm
    rw [afterFragment_of_incomplete (h.stamped clock)] at hafter
    cases hafter
    exact ⟨h, [], by simp, rfl⟩

theorem Incomplete.outOfSequence (hrec : r.isReceiving = true) (howns : r.Owns frame)
    (hseq : (frame.data.get 2).toUInt32 ≠ r.expectedNextReceiveSequenceNum)
    (hcall : r.processReceivedMessageFragment frame clock = some r') :
    Ends r r' 1 ∧ r'.isReceiving = false := by
  rw [processReceivedMessageFragment_receiving hrec] at hcall
  obtain ⟨m, hm, hafter⟩ := Option.bind_eq_some_iff.mp hcall
  unfold receiveFragment at hm
  rw [if_pos howns.1, if_pos howns.2, if_neg hseq] at hm
  obtain ⟨m', hm', heq⟩ := Option.bind_eq_some_iff.mp hm
  unfold LongMessageReceiver.callHandler at hm'
  split_ifs at hm'
  cases hm'
  cases heq
  rw [afterFragment_of_incomplete (by simp [Incomplete])] at hafter
  cases hafter
  exact ⟨⟨by simp [Incomplete], _, rfl, rfl⟩, rfl⟩

/-- A fragment that continues the message: the message goes on, or it is complete. It is still
being received after that if it was announced with length 0. -/
theorem Incomplete.continued (h : r.Incomplete) (hcont : r.Continues frame)
    (hcall : r.processReceivedMessageFragment frame clock = some r') :
    if r.CompletesNothing frame then Ends r r' 1 ∧ r'.isReceiving = true
    else Ends r r' 0 ∨ (Ends r r' 1 ∧ r'.isReceiving = false) := by
  obtain ⟨hrec, howns, hseq⟩ := hcont
  rw [processReceivedMessageFragment_receiving hrec] at hcall
  obtain ⟨m, hm, hafter⟩ := Option.bind_eq_some_iff.mp hcall
  have hfragment : { r with lastFragmentReceived := clock 0 }.receiveFragment frame =
      takeBytes frame 5 { r with lastFragmentReceived := clock 0 } :=
    receiveFragment_expected howns.1 howns.2 hseq
  rw [hfragment] at hm
  have hgo : ∀ hgo : GoesOn { r with lastFragmentReceived := clock 0 } m, Ends r r' 0 := by
    intro hgo
    obtain ⟨r'', hr'', hends⟩ := hgo.ends
    cases hr''.symm.trans hafter
    exact ⟨hends.incomplete, hends.calls⟩
  have hcomp : ∀ hcomp : Completed { r with lastFragmentReceived := clock 0 } m, Ends r r' 1 ∧
      r'.isReceiving = if r.incomingMessageLength = 0 then r.isReceiving else false := by
    intro hcomp
    obtain ⟨r'', hr'', hends, hr⟩ := hcomp.ends
    cases hr''.symm.trans hafter
    exact ⟨⟨hends.incomplete, hends.calls⟩, hr⟩
  by_cases hzero : r.incomingMessageLength = 0
  · have hstamped : { r with lastFragmentReceived := clock 0 }.incomingMessageLength = 0 := hzero
    have hcases := takeBytes_zero hstamped hm
    dsimp only at hcases
    by_cases hfull : r.receiveBufferLen ≤ r.receiveBufferIndex
    · rw [if_pos hfull] at hcases
      rw [if_neg fun hnothing => UInt32.not_le.mpr hnothing.2.2 hfull]
      exact Or.inl (hgo hcases)
    · rw [if_neg hfull] at hcases
      rw [if_pos ⟨⟨hrec, howns, hseq⟩, hzero, UInt32.not_le.mp hfull⟩]
      obtain ⟨hends, hr⟩ := hcomp hcases
      exact ⟨hends, by rw [hr, if_pos hzero, hrec]⟩
  · rw [if_neg fun hnothing => hzero hnothing.2.1]
    rcases takeBytes_cases 5 (h.stamped clock) hm with hcase | hcase
    · exact Or.inl (hgo hcase)
    · obtain ⟨hends, hr⟩ := hcomp hcase
      exact Or.inr ⟨hends, by rw [hr, if_neg hzero]⟩

/-- What a fragment does: no terminal call, or one that ends the message, unless a message of
length 0 is reported complete. -/
theorem Incomplete.fragment (h : r.Incomplete)
    (hcall : r.processReceivedMessageFragment frame clock = some r') :
    if r.CompletesNothing frame then Ends r r' 1 ∧ r'.isReceiving = true
    else (Ends r r' 0 ∧ (r.isReceiving = true ∨ r.Accepts frame ∨ r'.isReceiving = false)) ∨
      (r.isReceiving = true ∧ Ends r r' 1 ∧ r'.isReceiving = false) := by
  cases hrec : r.isReceiving with
  | false =>
    rw [if_neg fun hc => Bool.false_ne_true (hrec.symm.trans hc.1.1)]
    obtain ⟨hends, hstate⟩ := h.idle hrec hcall
    exact Or.inl ⟨hends, Or.inr hstate⟩
  | true =>
    by_cases howns : r.Owns frame
    · by_cases hseq : (frame.data.get 2).toUInt32 = r.expectedNextReceiveSequenceNum
      · have hcases := h.continued ⟨hrec, howns, hseq⟩ hcall
        split_ifs at hcases ⊢
        · exact hcases
        · rcases hcases with hends | hends
          · exact Or.inl ⟨hends, Or.inl rfl⟩
          · exact Or.inr ⟨rfl, hends⟩
      · rw [if_neg fun hc => hseq hc.1.2.2]
        exact Or.inr ⟨rfl, Incomplete.outOfSequence hrec howns hseq hcall⟩
    · rw [if_neg fun hc => howns hc.1.2.1]
      exact Or.inl ⟨h.foreign hrec howns hcall, Or.inl rfl⟩

theorem Incomplete.timeout (h : r.Incomplete) {now : UInt32}
    (hcall : r.checkTimeout now = some r') :
    (Ends r r' 0 ∧ r'.isReceiving = r.isReceiving) ∨
      (r.isReceiving = true ∧ Ends r r' 1 ∧ r'.isReceiving = false) := by
  unfold checkTimeout at hcall
  split_ifs at hcall with htimed
  · obtain ⟨m, hm, heq⟩ := Option.bind_eq_some_iff.mp hcall
    unfold LongMessageReceiver.callHandler at hm
    split_ifs at hm
    cases hm
    cases heq
    have hrec := (Bool.and_eq_true_iff.mp htimed).1
    exact Or.inr ⟨hrec, ⟨by simp [Incomplete], _, rfl, rfl⟩, rfl⟩
  · cases hcall
    exact Or.inl ⟨⟨h, [], by simp, rfl⟩, rfl⟩

end LongMessageReceiver

/-- The object, with the number of terminal calls since it has accepted a header. -/
structure Watch where
  object : CBUSLongMessage
  ended : ℕ := 0

namespace Watch

def accepts (w : Watch) : ReceiverCall → Bool
  | .fragment frame _ => decide (w.object.Accepts frame)
  | .process _ => false

def step (w : Watch) (call : ReceiverCall) : Option Watch := do
  let object ← w.object.receive call
  return {
    object := object
    ended := (if w.accepts call then 0 else w.ended) +
      terminalCalls (object.handled.drop w.object.handled.length) }

/-- At most one terminal call since the last accepted header, and an idle receiver after it. -/
def EndsOnce (w : Watch) : Prop := w.ended ≤ 1 ∧ (w.ended = 1 → w.object.isReceiving = false)

/-- The call does not complete a message of length 0. -/
def CompletesSomething (w : Watch) : ReceiverCall → Prop
  | .fragment frame _ => ¬ w.object.CompletesNothing frame
  | .process _ => True

variable {w w' : Watch} {call : ReceiverCall}

theorem step_eq_some (h : w.step call = some w') : w.object.receive call = some w'.object ∧
    w'.ended = (if w.accepts call then 0 else w.ended) +
      terminalCalls (w'.object.handled.drop w.object.handled.length) := by
  obtain ⟨object, hobject, heq⟩ := Option.bind_eq_some_iff.mp h
  cases heq
  exact ⟨hobject, rfl⟩

theorem ended_of_ends {count : ℕ} (h : w.step call = some w')
    (hends : w.object.Ends w'.object.toLongMessageReceiver count) :
    w'.ended = (if w.accepts call then 0 else w.ended) + count := by
  obtain ⟨calls, hlog, hcount⟩ := hends.calls
  rw [(step_eq_some h).2, hlog, List.drop_left, hcount]

theorem EndsOnce.receiving (h : w.EndsOnce) (hrec : w.object.isReceiving = true) :
    w.ended = 0 := by
  by_contra hne
  have hone : w.ended = 1 := by
    have hle := h.1
    omega
  exact Bool.false_ne_true ((h.2 hone).symm.trans hrec)

/-- What holds between two calls. -/
structure Inv (w : Watch) : Prop where
  incomplete : w.object.Incomplete
  endsOnce : w.EndsOnce

theorem Inv.silent (h : w.Inv) (hcall : w.step call = some w')
    (hends : w.object.Ends w'.object.toLongMessageReceiver 0)
    (hstate : w.object.isReceiving = true ∨ w.accepts call = true ∨
      w'.object.isReceiving = false) : w'.Inv := by
  refine ⟨hends.incomplete, ?_⟩
  have hended := ended_of_ends hcall hends
  have hle := h.endsOnce.1
  have hzero : w.object.isReceiving = true → w.ended = 0 := h.endsOnce.receiving
  rw [Nat.add_zero] at hended
  unfold EndsOnce
  split_ifs at hended with hacc
  · simp [hended]
  · refine ⟨hended ▸ hle, fun hone => ?_⟩
    rcases hstate with hrec | hacc' | hidle
    · have hnone := hzero hrec
      omega
    · exact absurd hacc' hacc
    · exact hidle

theorem Inv.final (h : w.Inv) (hcall : w.step call = some w')
    (hrec : w.object.isReceiving = true)
    (hends : w.object.Ends w'.object.toLongMessageReceiver 1)
    (hidle : w'.object.isReceiving = false) : w'.Inv := by
  refine ⟨hends.incomplete, ?_, fun _ => hidle⟩
  have hended := ended_of_ends hcall hends
  have hzero := h.endsOnce.receiving hrec
  split_ifs at hended <;> omega

theorem Inv.step (h : w.Inv) (hguard : w.CompletesSomething call)
    (hcall : w.step call = some w') : w'.Inv := by
  cases call with
  | fragment frame clock =>
    obtain ⟨r, hr, heq⟩ := Option.bind_eq_some_iff.mp (step_eq_some hcall).1
    have hobject : w'.object.toLongMessageReceiver = r := by rw [← Option.some.inj heq]
    have hfragment := h.incomplete.fragment hr
    rw [if_neg hguard, ← hobject] at hfragment
    rcases hfragment with ⟨hends, hstate⟩ | ⟨hrec, hends, hidle⟩
    · refine h.silent hcall hends ?_
      rcases hstate with hrec | hacc | hidle
      · exact Or.inl hrec
      · exact Or.inr (Or.inl (decide_eq_true hacc))
      · exact Or.inr (Or.inr hidle)
    · exact h.final hcall hrec hends hidle
  | process clock =>
    obtain ⟨⟨ret, m⟩, hm, hobject⟩ := Option.map_eq_some_iff.mp (step_eq_some hcall).1
    obtain ⟨r, hr, hrest⟩ := Option.bind_eq_some_iff.mp hm
    obtain ⟨s, -, heq⟩ := Option.bind_eq_some_iff.mp hrest
    cases heq
    have hreceiver : w'.object.toLongMessageReceiver = r := by rw [← hobject]
    have htimeout := h.incomplete.timeout hr
    rw [← hreceiver] at htimeout
    rcases htimeout with ⟨hends, hsame⟩ | ⟨hrec, hends, hidle⟩
    · refine h.silent hcall hends ?_
      cases hrec : w.object.isReceiving with
      | true => exact Or.inl rfl
      | false => exact Or.inr (Or.inr (hsame.trans hrec))
    · exact h.final hcall hrec hends hidle

theorem Inv.completesNothing (h : w.Inv) (hguard : ¬ w.CompletesSomething call)
    (hcall : w.step call = some w') : ¬ w'.EndsOnce := by
  cases call with
  | process clock => exact absurd trivial hguard
  | fragment frame clock =>
    obtain ⟨r, hr, heq⟩ := Option.bind_eq_some_iff.mp (step_eq_some hcall).1
    have hobject : w'.object.toLongMessageReceiver = r := by rw [← Option.some.inj heq]
    have hfragment := h.incomplete.fragment hr
    rw [if_pos (not_not.mp hguard), ← hobject] at hfragment
    intro hw'
    have hzero := hw'.receiving hfragment.2
    have hended := ended_of_ends hcall hfragment.1
    omega

/-- Whatever is received and whenever `process` is called: every message ends once, and then the
receiver is idle, exactly if no message that was announced with length 0 is continued while
there is room in the buffer. -/
theorem endsOnce_iff (s : LongMessageSender) (streamIds receiveBuffer : List UInt8)
    (len : UInt32) (messageHandler : Bool) (timeout : UInt32) (calls : List ReceiverCall) :
    (∀ ps, ps <+: calls → ∀ w, runOption Watch.step
        ⟨.subscribed s streamIds receiveBuffer len messageHandler timeout, 0⟩ ps = some w →
      w.EndsOnce) ↔
    GuardedTaken Watch.step CompletesSomething
      ⟨.subscribed s streamIds receiveBuffer len messageHandler timeout, 0⟩ calls := by
  have hstart : Inv ⟨.subscribed s streamIds receiveBuffer len messageHandler timeout, 0⟩ := by
    constructor
    · simp [LongMessageReceiver.Incomplete, CBUSLongMessage.subscribed,
        LongMessageReceiver.subscribe, LongMessageReceiver.setTimeout]
    · simp [EndsOnce]
  exact forall_reached_iff_guardedTaken (fun w call w' h hguard hcall => h.step hguard hcall)
    (fun w h => h.endsOnce) (fun w call w' h hguard hcall => h.completesNothing hguard hcall)
    hstart calls

/-- A header that announces length 0, and two fragments behind it. -/
def emptyMessage : List ReceiverCall :=
  [.fragment (headerFrame 1 7 0 0) fun _ => 0, .fragment (dataFrame 1 7 [1, 2, 3, 4, 5] 0) fun _ => 0,
    .fragment (dataFrame 1 7 [1, 2, 3, 4, 5] 1) fun _ => 0]

/-- Both fragments complete the message of length 0. -/
theorem not_endsOnce_emptyMessage :
    ¬ ∀ (s : LongMessageSender) (streamIds receiveBuffer : List UInt8) (len : UInt32)
      (messageHandler : Bool) (timeout : UInt32) (calls : List ReceiverCall),
      len.toNat ≤ receiveBuffer.length →
      ∀ w, runOption Watch.step
          ⟨.subscribed s streamIds receiveBuffer len messageHandler timeout, 0⟩ calls = some w →
        w.EndsOnce := by
  intro h
  have hrun : ∃ w, runOption Watch.step ⟨.subscribed { cbusObject := CBUSbase.smallModule } [7]
      (List.replicate 16 0) 16 true 5000, 0⟩ emptyMessage = some w ∧ w.ended = 2 := ⟨_, rfl, rfl⟩
  obtain ⟨w, hw, htwo⟩ := hrun
  have hle := (h _ _ _ _ _ _ _ (by decide) w hw).1
  omega

end Watch
end CBUSPicoLib
