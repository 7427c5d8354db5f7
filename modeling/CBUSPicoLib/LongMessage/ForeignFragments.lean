import CBUSPicoLib.LongMessage.RoundTrip

/-!
# Fragments of other messages

While `CBUSLongMessage` receives a message it means to ignore the fragments of
other senders and other streams. It does call no handler for them, but each one
is counted as a fragment of the message and restarts the receive timeout. Two
runs of one object are compared here, one with such fragments inserted.
-/

namespace CBUSPicoLib

open Runs

namespace LongMessageReceiver

variable {r r' : LongMessageReceiver} {frame : CANFrame} {clock : Clock} {last seq now : UInt32}

def restamp (r : LongMessageReceiver) (last seq : UInt32) : LongMessageReceiver :=
  { r with lastFragmentReceived := last, expectedNextReceiveSequenceNum := seq }

/-- The frame has the sender and the stream of the message that is being received. -/
def Owns (r : LongMessageReceiver) (frame : CANFrame) : Prop :=
  frame.id &&& 0x7f = r.senderCanid.toUInt32 ∧ frame.data.get 1 = r.receiveStreamId

instance (r : LongMessageReceiver) (frame : CANFrame) : Decidable (r.Owns frame) :=
  inferInstanceAs (Decidable (_ ∧ _))

/-- There is a handler, and a buffer of the length it was given with. -/
structure Subscribed (r : LongMessageReceiver) : Prop where
  handler : r.messagehandler = true
  allocated : r.receiveBufferLen.toNat ≤ r.receiveBuffer.length

/-- Between two calls no complete message is kept. -/
structure Sound (r : LongMessageReceiver) : Prop extends Subscribed r where
  incomplete :
    ¬ (0 < r.incomingMessageLength ∧ r.incomingMessageLength ≤ r.incomingBytesReceived)

/-- The calls tell of what was received, not of an error. -/
def NoSequenceError (calls : List HandlerCall) : Prop :=
  ∀ call ∈ calls, call.status ≠ .sequenceError

theorem Subscribed.flushBuffer (h : r.Subscribed) (status : LongMessageStatus) :
    ∃ r', r.flushBuffer status = some r' ∧ r'.Subscribed ∧
      r'.handled = r.handled ++ [r.report status] := by
  obtain ⟨buffer, hbuffer, hlen⟩ := memset_eq_some h.allocated
  unfold LongMessageReceiver.flushBuffer
  rw [callHandler_eq h.handler, Option.bind_eq_bind, Option.bind_some]
  dsimp only
  rw [hbuffer]
  exact ⟨_, rfl, ⟨h.handler, hlen ▸ h.allocated⟩, rfl⟩

theorem Subscribed.takeBytes (h : r.Subscribed) (frame : CANFrame) (k : ℕ) :
    ∃ r' calls, takeBytes frame k r = some r' ∧ r'.Subscribed ∧
      r'.handled = r.handled ++ calls ∧ NoSequenceError calls := by
  induction k generalizing r with
  | zero => exact ⟨r, [], rfl, h, by simp, by simp [NoSequenceError]⟩
  | succ k ih =>
    unfold LongMessageReceiver.takeBytes
    split_ifs with hfull
    · obtain ⟨r', hflush, hsub, hlog⟩ := h.flushBuffer .incomplete
      exact ⟨r', _, hflush, hsub, hlog, by simp [NoSequenceError, report]⟩
    · have hlt : r.receiveBufferIndex.toNat < r.receiveBuffer.length := by
        have halloc := h.allocated
        rw [UInt32.le_iff_toNat_le] at hfull
        omega
      rw [store_eq_some _ hlt, Option.bind_eq_bind, Option.bind_some]
      dsimp only
      have hnext : Subscribed { r with
          receiveBuffer := r.receiveBuffer.set r.receiveBufferIndex.toNat
            (frame.data.getD (7 - k) 0)
          receiveBufferIndex := r.receiveBufferIndex + 1
          incomingBytesReceived := r.incomingBytesReceived + 1 } :=
        ⟨h.handler, le_of_le_of_eq h.allocated List.length_set.symm⟩
      split_ifs
      · obtain ⟨r', hflush, hsub, hlog⟩ := hnext.flushBuffer .complete
        exact ⟨r', _, hflush, hsub, hlog, by simp [NoSequenceError, report]⟩
      · exact ih hnext

theorem Subscribed.receiveHeader (h : r.Subscribed) (frame : CANFrame) :
    ∃ r', r.receiveHeader frame = some r' ∧ r'.Subscribed ∧ r'.handled = r.handled := by
  unfold LongMessageReceiver.receiveHeader
  split_ifs
  · obtain ⟨buffer, hbuffer, hlen⟩ := memset_eq_some h.allocated
    rw [hbuffer]
    exact ⟨_, rfl, ⟨h.handler, hlen ▸ h.allocated⟩, rfl⟩
  · exact ⟨r, rfl, h, rfl⟩

theorem Subscribed.finishMessage (h : r.Subscribed) :
    ∃ r' calls, r.finishMessage = some r' ∧ r'.Sound ∧ r'.handled = r.handled ++ calls ∧
      NoSequenceError calls := by
  unfold LongMessageReceiver.finishMessage
  split_ifs with hdone hindex
  · rw [callHandler_eq h.handler]
    exact ⟨_, _, rfl, ⟨⟨h.handler, h.allocated⟩, by simp⟩, rfl, by simp [NoSequenceError, report]⟩
  · exact ⟨_, [], rfl, ⟨⟨h.handler, h.allocated⟩, by simp⟩, by simp, by simp [NoSequenceError]⟩
  · exact ⟨r, [], rfl, ⟨h, hdone⟩, by simp, by simp [NoSequenceError]⟩

theorem Subscribed.afterFragment (h : r.Subscribed) :
    ∃ r' calls, r.afterFragment = some r' ∧ r'.Sound ∧ r'.handled = r.handled ++ calls ∧
      NoSequenceError calls := by
  have hcounted : Subscribed { r with
      expectedNextReceiveSequenceNum := r.expectedNextReceiveSequenceNum + 1 } :=
    ⟨h.handler, h.allocated⟩
  exact hcounted.finishMessage

theorem Sound.expected (h : r.Sound) (hrec : r.isReceiving = true) (howns : r.Owns frame)
    (hseq : (frame.data.get 2).toUInt32 = r.expectedNextReceiveSequenceNum) :
    ∃ r' calls, r.processReceivedMessageFragment frame clock = some r' ∧ r'.Sound ∧
      r'.handled = r.handled ++ calls ∧ NoSequenceError calls := by
  have hsub : Subscribed { r with lastFragmentReceived := clock 0 } := ⟨h.handler, h.allocated⟩
  obtain ⟨m, calls, htake, hm, hlog, hno⟩ := hsub.takeBytes frame 5
  obtain ⟨r', calls', hafter, hr', hlog', hno'⟩ := hm.afterFragment
  have hfragment : { r with lastFragmentReceived := clock 0 }.receiveFragment frame =
      LongMessageReceiver.takeBytes frame 5 { r with lastFragmentReceived := clock 0 } :=
    receiveFragment_expected howns.1 howns.2 hseq
  refine ⟨r', calls ++ calls', ?_, hr', ?_, ?_⟩
  · rw [processReceivedMessageFragment_receiving hrec, hfragment, htake, Option.bind_some, hafter]
  · rw [hlog', hlog, List.append_assoc]
  · intro call hcall
    rcases List.mem_append.mp hcall with hcall | hcall
    · exact hno call hcall
    · exact hno' call hcall

theorem Sound.unexpected (h : r.Sound) (hrec : r.isReceiving = true) (howns : r.Owns frame)
    (hseq : (frame.data.get 2).toUInt32 ≠ r.expectedNextReceiveSequenceNum) :
    r.processReceivedMessageFragment frame clock = some { r with
      lastFragmentReceived := clock 0
      handled := r.handled ++ [r.report .sequenceError]
      incomingMessageLength := 0
      incomingBytesReceived := 0
      isReceiving := false
      expectedNextReceiveSequenceNum := r.expectedNextReceiveSequenceNum + 1 } := by
  have hfragment := @receiveFragment_unexpected { r with lastFragmentReceived := clock 0 } frame
    howns.1 howns.2 hseq h.handler
  rw [processReceivedMessageFragment_receiving hrec, hfragment, Option.bind_some]
  exact finishMessage_of_zero rfl

/-- A fragment of another message: it is counted, and the timeout starts again. -/
theorem Sound.foreign (h : r.Sound) (hrec : r.isReceiving = true) (howns : ¬ r.Owns frame) :
    r.processReceivedMessageFragment frame clock =
      some (r.restamp (clock 0) (r.expectedNextReceiveSequenceNum + 1)) := by
  have hfragment : { r with lastFragmentReceived := clock 0 }.receiveFragment frame =
      some { r with lastFragmentReceived := clock 0 } := by
    unfold receiveFragment
    split_ifs with hid hstream
    · exact absurd ⟨hid, hstream⟩ howns
    · exact absurd ⟨hid, hstream⟩ howns
    · rfl
    · rfl
  rw [processReceivedMessageFragment_receiving hrec, hfragment, Option.bind_some]
  exact if_neg h.incomplete

theorem Sound.restamp (h : r.Sound) (last seq : UInt32) : (r.restamp last seq).Sound :=
  ⟨⟨h.handler, h.allocated⟩, h.incomplete⟩

/-- A fragment that finds no message in progress wipes the difference out, unless
it changes nothing. -/
theorem Sound.idle_restamp (h : r.Sound) (hidle : r.isReceiving = false) (frame : CANFrame)
    (clock : Clock) (last seq : UInt32) :
    ∃ r' seq', r.processReceivedMessageFragment frame clock = some r' ∧ r'.Sound ∧
      (r.restamp last seq).processReceivedMessageFragment frame clock =
        some (r'.restamp r'.lastFragmentReceived seq') ∧
      (r'.isReceiving = true → seq' = r'.expectedNextReceiveSequenceNum) := by
  have hidle' : (r.restamp last seq).isReceiving = false := hidle
  have hsub : Subscribed { r with lastFragmentReceived := clock 0 } := ⟨h.handler, h.allocated⟩
  rw [processReceivedMessageFragment_idle hidle, processReceivedMessageFragment_idle hidle']
  by_cases haccept : frame.data.get 2 = 0 ∧ frame.data.get 7 = 0 ∧ frame.data.get 1 ∈ r.streamIds
  · have hsame : { r.restamp last seq with lastFragmentReceived := clock 0 }.receiveHeader frame =
        { r with lastFragmentReceived := clock 0 }.receiveHeader frame := by
      unfold LongMessageReceiver.receiveHeader
      rw [if_pos haccept]
      exact if_pos haccept
    obtain ⟨m, hm, hmsub, -⟩ := hsub.receiveHeader frame
    obtain ⟨r', calls, hafter, hr', -, -⟩ := hmsub.afterFragment
    rw [hsame, hm, Option.bind_some, hafter]
    exact ⟨r', r'.expectedNextReceiveSequenceNum, rfl, hr', rfl, fun _ => rfl⟩
  · have hkeep : { r with lastFragmentReceived := clock 0 }.receiveHeader frame =
        some { r with lastFragmentReceived := clock 0 } := if_neg haccept
    have hkeep' : { r.restamp last seq with lastFragmentReceived := clock 0 }.receiveHeader frame =
        some (r.restamp (clock 0) seq) := if_neg haccept
    rw [hkeep, hkeep', Option.bind_some, Option.bind_some]
    have hafter : ∀ seq, (r.restamp (clock 0) seq).afterFragment =
        some (r.restamp (clock 0) (seq + 1)) := fun _ => if_neg h.incomplete
    refine ⟨_, seq + 1, hafter _, h.restamp _ _, hafter seq, fun hrec => ?_⟩
    exact absurd (hidle.symm.trans hrec) Bool.false_ne_true

/-- One fragment, in two states that differ in the two fields only: if the test of
the sequence number has the same outcome in both, nothing else comes to differ. -/
theorem Sound.fragment_restamp (h : r.Sound) (frame : CANFrame) (clock : Clock) (last : UInt32)
    {n : UInt32} (hn : r.isReceiving = true → seq = r.expectedNextReceiveSequenceNum + n)
    (hguard : r.isReceiving = true → r.Owns frame →
      ((frame.data.get 2).toUInt32 = r.expectedNextReceiveSequenceNum ↔
        (frame.data.get 2).toUInt32 = seq)) :
    ∃ r' seq', r.processReceivedMessageFragment frame clock = some r' ∧ r'.Sound ∧
      (r.restamp last seq).processReceivedMessageFragment frame clock =
        some (r'.restamp r'.lastFragmentReceived seq') ∧
      (r'.isReceiving = true →
        seq' = r'.expectedNextReceiveSequenceNum + if r.isReceiving then n else 0) := by
  cases hrec : r.isReceiving with
  | false => simpa using h.idle_restamp hrec frame clock last seq
  | true =>
    have hrec' : (r.restamp last seq).isReceiving = true := hrec
    have hseq := hn hrec
    by_cases howns : r.Owns frame
    · have howns' : (r.restamp last seq).Owns frame := howns
      have hsame := hguard hrec howns
      by_cases hexp : (frame.data.get 2).toUInt32 = r.expectedNextReceiveSequenceNum
      · -- both tests succeed, so that the two numbers are equal
        have heq : seq = r.expectedNextReceiveSequenceNum := (hsame.mp hexp).symm.trans hexp
        have hzero : n = 0 := by simpa [heq] using hseq
        obtain ⟨r', calls, hstep, hr', -, -⟩ := h.expected hrec howns hexp
        have hstep' : (r.restamp last seq).processReceivedMessageFragment frame clock = some r' := by
          rw [heq]
          exact hstep
        exact ⟨r', r'.expectedNextReceiveSequenceNum, hstep, hr', hstep', by simp [hzero]⟩
      · have hexp' : (frame.data.get 2).toUInt32 ≠
            (r.restamp last seq).expectedNextReceiveSequenceNum := fun e => hexp (hsame.mpr e)
        refine ⟨_, seq + 1, h.unexpected hrec howns hexp, ⟨⟨h.handler, h.allocated⟩, by simp⟩,
          (h.restamp last seq).unexpected hrec' howns' hexp', fun hrec => ?_⟩
        exact absurd hrec Bool.false_ne_true
    · have howns' : ¬ (r.restamp last seq).Owns frame := howns
      refine ⟨_, seq + 1, h.foreign hrec howns, h.restamp _ _,
        (h.restamp last seq).foreign hrec' howns', fun _ => ?_⟩
      change seq + 1 = r.expectedNextReceiveSequenceNum + 1 + n
      rw [hseq, UInt32.add_assoc, UInt32.add_assoc, UInt32.add_comm n]

/-- Of two receivers that have called the handler alike, one expects the fragment and
the other does not. -/
theorem Sound.handled_ne {d d' : LongMessageReceiver} (h : r.Sound) (hd : d.Sound)
    (hlog : r.handled = d.handled) (hrec : r.isReceiving = true) (hdrec : d.isReceiving = true)
    (howns : r.Owns frame) (hdowns : d.Owns frame)
    (hseq : (frame.data.get 2).toUInt32 = r.expectedNextReceiveSequenceNum)
    (hdseq : (frame.data.get 2).toUInt32 ≠ d.expectedNextReceiveSequenceNum)
    (hr' : r.processReceivedMessageFragment frame clock = some r')
    (hd' : d.processReceivedMessageFragment frame clock = some d') : r'.handled ≠ d'.handled := by
  obtain ⟨m, calls, hstep, -, hcalls, hno⟩ := h.expected hrec howns hseq
  cases hstep.symm.trans hr'
  cases (hd.unexpected hdrec hdowns hdseq).symm.trans hd'
  intro heq
  rw [hcalls, hlog] at heq
  have herror : calls = [d.report .sequenceError] := List.append_cancel_left heq
  apply hno (d.report .sequenceError)
  · simp [herror]
  · rfl

theorem timedOut_restamp (r : LongMessageReceiver) : (r.restamp last seq).timedOut now =
    (r.isReceiving && decide (r.receiveTimeout ≤ now - last)) := rfl

theorem Sound.checkTimeout (h : r.Sound) (now : UInt32) :
    ∃ r', r.checkTimeout now = some r' ∧ r'.Sound ∧ r'.handled =
      r.handled ++ if r.timedOut now then [r.report .timeoutError] else [] := by
  unfold LongMessageReceiver.checkTimeout
  split_ifs with ht
  · rw [callHandler_eq h.handler]
    exact ⟨_, rfl, ⟨⟨h.handler, h.allocated⟩, by simp⟩, rfl⟩
  · exact ⟨r, rfl, h, by simp⟩

/-- The timeout check, in two states that differ in the two fields only. -/
theorem Sound.checkTimeout_restamp (h : r.Sound)
    (hguard : (r.restamp last seq).timedOut now = r.timedOut now) :
    ∃ r', r.checkTimeout now = some r' ∧ r'.Sound ∧
      (r.restamp last seq).checkTimeout now = some (r'.restamp last seq) ∧
      (r'.isReceiving = true → r' = r) := by
  unfold LongMessageReceiver.checkTimeout
  rw [hguard]
  split_ifs with ht
  · have hhandler : (r.restamp last seq).messagehandler = true := h.handler
    rw [callHandler_eq h.handler, callHandler_eq hhandler]
    refine ⟨_, rfl, ⟨⟨h.handler, h.allocated⟩, by simp⟩, rfl, fun hrec => ?_⟩
    exact absurd hrec Bool.false_ne_true
  · exact ⟨r, rfl, h, rfl, fun _ => rfl⟩

end LongMessageReceiver

namespace CBUSLongMessage

variable {lm : CBUSLongMessage} {frame : CANFrame} {clock : Clock}

/-- The object can be called: it is subscribed, and what it sends lies in its buffer. -/
structure Sound (lm : CBUSLongMessage) : Prop where
  receiver : lm.toLongMessageReceiver.Sound
  sender : lm.isSending = true → lm.sendBufferLen.toNat ≤ lm.sendBuffer.length

/-- One call in the run with insertions: a call that is made in both runs, or a
fragment that is inserted. -/
inductive InsertionCall
  | shared (call : ReceiverCall)
  | inserted (frame : CANFrame) (clock : Clock)

/-- The two runs. How many fragments were inserted into the message in progress is
counted in 32 bits; `lastInserted` is the reading of the clock at the last of them,
unless a shared fragment has come after it. -/
structure Insertion where
  undisturbed : CBUSLongMessage
  disturbed : CBUSLongMessage
  count : UInt32 := 0
  lastInserted : Option UInt32 := none

namespace Insertion

def start (lm : CBUSLongMessage) : Insertion := { undisturbed := lm, disturbed := lm }

def step (t : Insertion) : InsertionCall → Option Insertion
  | .shared (.fragment frame clock) => do
    let u ← t.undisturbed.receive (.fragment frame clock)
    let d ← t.disturbed.receive (.fragment frame clock)
    return {
      undisturbed := u
      disturbed := d
      count := if t.undisturbed.isReceiving then t.count else 0 }
  | .shared (.process clock) => do
    let u ← t.undisturbed.receive (.process clock)
    let d ← t.disturbed.receive (.process clock)
    return { t with undisturbed := u, disturbed := d }
  | .inserted frame clock => do
    let d ← t.disturbed.receive (.fragment frame clock)
    return { t with disturbed := d, count := t.count + 1, lastInserted := some (clock 0) }

/-- What is inserted has another sender or another stream than the message that is
being received. -/
def Foreign (t : Insertion) : InsertionCall → Prop
  | .shared _ => True
  | .inserted frame _ => t.undisturbed.isReceiving = true ∧ ¬ t.undisturbed.Owns frame

/-- The call cannot tell the two runs apart: the number of a fragment of the message
is not the one that is due in one of the two counts only, and the timeout has passed
since the last fragment, inserted or not, as it has since the last shared one. -/
def Harmless (t : Insertion) : InsertionCall → Prop
  | .shared (.fragment frame _) => t.undisturbed.isReceiving = true → t.undisturbed.Owns frame →
      ((frame.data.get 2).toUInt32 = t.undisturbed.expectedNextReceiveSequenceNum ↔
        (frame.data.get 2).toUInt32 = t.undisturbed.expectedNextReceiveSequenceNum + t.count)
  | .shared (.process clock) => t.undisturbed.isReceiving = true → ∀ time ∈ t.lastInserted,
      (t.undisturbed.receiveTimeout ≤ clock 0 - t.undisturbed.lastFragmentReceived ↔
        t.undisturbed.receiveTimeout ≤ clock 0 - time)
  | .inserted _ _ => True

/-- The runs differ in the two fields only, and while a message is being received
the insertions say how. -/
structure Tandem (t : Insertion) : Prop where
  sound : t.undisturbed.Sound
  sender : t.disturbed.toLongMessageSender = t.undisturbed.toLongMessageSender
  receiver : ∃ last seq,
    t.disturbed.toLongMessageReceiver = t.undisturbed.toLongMessageReceiver.restamp last seq ∧
    (t.undisturbed.isReceiving = true →
      last = t.lastInserted.getD t.undisturbed.lastFragmentReceived ∧
      seq = t.undisturbed.expectedNextReceiveSequenceNum + t.count)

/-- The handler has been called alike in both runs. -/
def Agrees (t : Insertion) : Prop := t.disturbed.handled = t.undisturbed.handled

theorem Tandem.agrees {t : Insertion} (h : t.Tandem) : t.Agrees := by
  obtain ⟨last, seq, heq, -⟩ := h.receiver
  exact congrArg (·.handled) heq

end Insertion

/-- The insertions change no call of the handler: after every call both runs have
called it alike. -/
def Undisturbed (lm : CBUSLongMessage) (calls : List InsertionCall) : Prop :=
  ∀ past, past <+: calls →
    ∃ t, runOption Insertion.step (Insertion.start lm) past = some t ∧ t.Agrees

theorem receive_fragment_eq {r : LongMessageReceiver}
    (h : lm.processReceivedMessageFragment frame clock = some r) :
    lm.receive (.fragment frame clock) = some { lm with toLongMessageReceiver := r } := by
  unfold receive
  dsimp only
  rw [h]
  rfl

theorem receive_process_eq {r : LongMessageReceiver} {ret : Bool} {s : LongMessageSender}
    (hr : lm.checkTimeout (clock 0) = some r)
    (hs : lm.sendNext (clock 1) (clock 2) = some (ret, s)) :
    lm.receive (.process clock) =
      some { toLongMessageReceiver := r, toLongMessageSender := s } := by
  unfold receive process
  dsimp only
  rw [hr, Option.bind_eq_bind, Option.bind_some, hs]
  rfl

namespace Insertion

variable {t t' : Insertion}

/-- In tandem, both runs have the same sending side and go on with it alike. -/
theorem Tandem.process (h : t.Tandem) (clock : Clock)
    (hguard : t.Harmless (.shared (.process clock))) :
    ∃ t', t.step (.shared (.process clock)) = some t' ∧ t'.Tandem := by
  obtain ⟨last, seq, hd, hfields⟩ := h.receiver
  have htimed : (t.undisturbed.restamp last seq).timedOut (clock 0) =
      t.undisturbed.timedOut (clock 0) := by
    rw [LongMessageReceiver.timedOut_restamp]
    unfold LongMessageReceiver.timedOut
    cases hrec : t.undisturbed.isReceiving with
    | false => rfl
    | true =>
      rw [(hfields hrec).1]
      cases hlast : t.lastInserted with
      | none => rfl
      | some time => simp [hguard hrec time hlast]
  obtain ⟨r', hr', hsound, hr'', hsame⟩ := h.sound.receiver.checkTimeout_restamp htimed
  obtain ⟨ret, s', hs', hsends⟩ :=
    @LongMessageSender.InBuffer.sendNext t.undisturbed.toLongMessageSender h.sound.sender
      (clock 1) (clock 2)
  have hdr : t.disturbed.checkTimeout (clock 0) = some (r'.restamp last seq) := by
    rw [hd]
    exact hr''
  have hds : t.disturbed.sendNext (clock 1) (clock 2) = some (ret, s') := by
    rw [h.sender]
    exact hs'
  unfold step
  dsimp only
  rw [receive_process_eq hr' hs', receive_process_eq hdr hds]
  refine ⟨_, rfl, ⟨hsound, hsends⟩, rfl, last, seq, rfl, fun hrec => ?_⟩
  have hr : r' = t.undisturbed.toLongMessageReceiver := hsame hrec
  subst hr
  exact hfields hrec

theorem Tandem.fragment (h : t.Tandem) (frame : CANFrame) (clock : Clock)
    (hguard : t.Harmless (.shared (.fragment frame clock))) :
    ∃ t', t.step (.shared (.fragment frame clock)) = some t' ∧ t'.Tandem := by
  obtain ⟨last, seq, hd, hfields⟩ := h.receiver
  have htest : t.undisturbed.isReceiving = true → t.undisturbed.Owns frame →
      ((frame.data.get 2).toUInt32 = t.undisturbed.expectedNextReceiveSequenceNum ↔
        (frame.data.get 2).toUInt32 = seq) := by
    intro hrec howns
    rw [(hfields hrec).2]
    exact hguard hrec howns
  obtain ⟨r', seq', hr', hsound, hr'', hseq'⟩ := h.sound.receiver.fragment_restamp frame clock last
    (fun hrec => (hfields hrec).2) htest
  have hdr : t.disturbed.processReceivedMessageFragment frame clock =
      some (r'.restamp r'.lastFragmentReceived seq') := by
    rw [hd]
    exact hr''
  unfold step
  dsimp only
  rw [receive_fragment_eq hr', receive_fragment_eq hdr]
  exact ⟨_, rfl, ⟨hsound, h.sound.sender⟩, h.sender, _, seq', rfl, fun hrec => ⟨rfl, hseq' hrec⟩⟩

theorem Tandem.inserted (h : t.Tandem) (frame : CANFrame) (clock : Clock)
    (hforeign : t.Foreign (.inserted frame clock)) :
    ∃ t', t.step (.inserted frame clock) = some t' ∧ t'.Tandem := by
  obtain ⟨last, seq, hd, hfields⟩ := h.receiver
  obtain ⟨hrec, howns⟩ := hforeign
  have hdr : t.disturbed.processReceivedMessageFragment frame clock =
      some (t.undisturbed.restamp (clock 0) (seq + 1)) := by
    rw [hd]
    exact (h.sound.receiver.restamp last seq).foreign hrec howns
  unfold step
  dsimp only
  rw [receive_fragment_eq hdr]
  refine ⟨_, rfl, h.sound, h.sender, _, _, rfl, fun _ => ⟨rfl, ?_⟩⟩
  rw [(hfields hrec).2, UInt32.add_assoc]

theorem Tandem.step (h : t.Tandem) (call : InsertionCall) (hforeign : t.Foreign call)
    (hguard : t.Harmless call) : ∃ t', t.step call = some t' ∧ t'.Tandem := by
  cases call with
  | shared call =>
    cases call with
    | fragment frame clock => exact h.fragment frame clock hguard
    | process clock => exact h.process clock hguard
  | inserted frame clock => exact h.inserted frame clock hforeign

theorem Tandem.not_agrees_process (h : t.Tandem) {clock : Clock}
    (hguard : ¬ t.Harmless (.shared (.process clock)))
    (hstep : t.step (.shared (.process clock)) = some t') : ¬ t'.Agrees := by
  obtain ⟨last, seq, hd, hfields⟩ := h.receiver
  have htimed : t.disturbed.timedOut (clock 0) ≠ t.undisturbed.timedOut (clock 0) := by
    intro heq
    apply hguard
    intro hrec time hlast
    have hlast' : last = time := by rw [(hfields hrec).1, Option.mem_def.mp hlast, Option.getD_some]
    rw [hd, LongMessageReceiver.timedOut_restamp, hlast'] at heq
    unfold LongMessageReceiver.timedOut at heq
    simpa [hrec] using heq.symm
  have hdsound : t.disturbed.toLongMessageReceiver.Sound := by
    rw [hd]
    exact h.sound.receiver.restamp last seq
  obtain ⟨u, hu, -, hulog⟩ := h.sound.receiver.checkTimeout (clock 0)
  obtain ⟨d, hdis, -, hdlog⟩ := hdsound.checkTimeout (clock 0)
  obtain ⟨ret, s', hs', -⟩ :=
    @LongMessageSender.InBuffer.sendNext t.undisturbed.toLongMessageSender h.sound.sender
      (clock 1) (clock 2)
  have hds : t.disturbed.sendNext (clock 1) (clock 2) = some (ret, s') := by
    rw [h.sender]
    exact hs'
  unfold Insertion.step at hstep
  dsimp only at hstep
  rw [receive_process_eq hu hs', receive_process_eq hdis hds] at hstep
  cases hstep
  intro hagrees
  have hlen : d.handled.length = u.handled.length := congrArg List.length hagrees
  have hold : t.disturbed.handled = t.undisturbed.handled := h.agrees
  rw [hulog, hdlog, hold] at hlen
  cases hut : t.undisturbed.timedOut (clock 0) <;> cases hdt : t.disturbed.timedOut (clock 0)
  · exact htimed (hdt.trans hut.symm)
  · simp [hut, hdt] at hlen
  · simp [hut, hdt] at hlen
  · exact htimed (hdt.trans hut.symm)

/-- A fragment of the message that is taken in one run only is a sequence error in
the other. -/
theorem Tandem.not_agrees_fragment (h : t.Tandem) {frame : CANFrame} {clock : Clock}
    (hguard : ¬ t.Harmless (.shared (.fragment frame clock)))
    (hstep : t.step (.shared (.fragment frame clock)) = some t') : ¬ t'.Agrees := by
  obtain ⟨last, seq, hd, hfields⟩ := h.receiver
  unfold Harmless at hguard
  push Not at hguard
  obtain ⟨hrec, howns, htest⟩ := hguard
  rw [← (hfields hrec).2] at htest
  have hdsound : t.disturbed.toLongMessageReceiver.Sound := by
    rw [hd]
    exact h.sound.receiver.restamp last seq
  have hdrec : t.disturbed.isReceiving = true := by
    rw [hd]
    exact hrec
  have hdowns : t.disturbed.Owns frame := by
    rw [hd]
    exact howns
  have hdseq : t.disturbed.expectedNextReceiveSequenceNum = seq := by
    rw [hd]
    rfl
  have hold : t.disturbed.handled = t.undisturbed.handled := h.agrees
  unfold Insertion.step at hstep
  dsimp only at hstep
  obtain ⟨u, hu, hstep⟩ := Option.bind_eq_some_iff.mp hstep
  obtain ⟨d, hdis, hstep⟩ := Option.bind_eq_some_iff.mp hstep
  cases hstep
  obtain ⟨u', hu', heq⟩ := Option.bind_eq_some_iff.mp hu
  cases heq
  obtain ⟨d', hdis', heq⟩ := Option.bind_eq_some_iff.mp hdis
  cases heq
  have hsound := h.sound.receiver
  intro hagrees
  rcases htest with ⟨hseq, hne⟩ | ⟨hne, hseq⟩
  · rw [← hdseq] at hne
    exact hsound.handled_ne hdsound hold.symm hrec hdrec howns hdowns hseq hne hu' hdis' hagrees.symm
  · rw [← hdseq] at hseq
    exact hdsound.handled_ne hsound hold hdrec hrec hdowns howns hseq hne hdis' hu' hagrees

theorem Tandem.not_agrees (h : t.Tandem) {call : InsertionCall} (hguard : ¬ t.Harmless call)
    (hstep : t.step call = some t') : ¬ t'.Agrees := by
  cases call with
  | shared call =>
    cases call with
    | fragment frame clock => exact h.not_agrees_fragment hguard hstep
    | process clock => exact h.not_agrees_process hguard hstep
  | inserted frame clock => exact absurd trivial hguard

theorem start_tandem (h : lm.Sound) : (start lm).Tandem where
  sound := h
  sender := rfl
  receiver := ⟨_, _, rfl, fun _ => ⟨rfl, by simp [start]⟩⟩

end Insertion

/-- Fragments of other messages, inserted while a message is being received, change
no call of the handler exactly if every later call is one that cannot tell. -/
theorem undisturbed_iff (h : lm.Sound) {calls : List InsertionCall}
    (hforeign : GuardedOption Insertion.step Insertion.Foreign (Insertion.start lm) calls) :
    lm.Undisturbed calls ↔
      GuardedOption Insertion.step Insertion.Harmless (Insertion.start lm) calls :=
  forall_prefix_iff_guardedOption (fun _ call ht hf hg => ht.step call hf hg)
    (fun _ ht => ht.agrees) (fun _ _ _ ht _ hg hstep => ht.not_agrees hg hstep)
    (Insertion.start_tandem h) hforeign

def shortHeader : CANFrame := headerFrame (fragmentId 1 defaultPriority) 7 1 0

def otherSender : CANFrame := dataFrame (fragmentId 2 defaultPriority) 7 [9] 0

theorem smallReceiver_sound : (smallReceiver 1).Sound :=
  ⟨⟨⟨rfl, le_rfl⟩, by decide⟩, fun hsending => absurd hsending (by decide)⟩

/-- After the header the insertion is allowed, whatever call comes next. -/
theorem foreign_otherSender (call : ReceiverCall) :
    GuardedOption Insertion.step Insertion.Foreign (Insertion.start (smallReceiver 1))
      [.shared (.fragment shortHeader fun _ => 0), .inserted otherSender fun _ => 0, .shared call] := by
  refine ⟨trivial, fun t ht => ⟨?_, fun _ _ => ⟨trivial, fun _ _ => trivial⟩⟩⟩
  have hfields : ((Insertion.start (smallReceiver 1)).step
      (.shared (.fragment shortHeader fun _ => 0))).map
        (fun t => (t.undisturbed.isReceiving, t.undisturbed.senderCanid)) = some (true, 1) := rfl
  rw [ht, Option.map_some, Option.some.injEq, Prod.mk.injEq] at hfields
  refine ⟨hfields.1, fun howns => ?_⟩
  have hsender := howns.1
  rw [hfields.2] at hsender
  exact absurd hsender (by decide)

theorem undisturbed_iff_polled :
    (smallReceiver 1).Undisturbed [.shared (.fragment shortHeader fun _ => 0),
        .inserted otherSender fun _ => 0, .shared (.process fun _ => 10)] ↔
      GuardedOption Insertion.step Insertion.Harmless (Insertion.start (smallReceiver 1))
        [.shared (.fragment shortHeader fun _ => 0), .inserted otherSender fun _ => 0,
          .shared (.process fun _ => 10)] :=
  undisturbed_iff smallReceiver_sound (foreign_otherSender _)

/-- After one fragment of another sender the next fragment of the message is taken
for one out of sequence. -/
theorem not_undisturbed_otherSender :
    let calls : List InsertionCall := [.shared (.fragment shortHeader fun _ => 0),
      .inserted otherSender fun _ => 0,
      .shared (.fragment (dataFrame (fragmentId 1 defaultPriority) 7 [5] 0) fun _ => 0)]
    (smallReceiver 1).Sound ∧
      GuardedOption Insertion.step Insertion.Foreign (Insertion.start (smallReceiver 1)) calls ∧
      ¬ (smallReceiver 1).Undisturbed calls := by
  refine ⟨smallReceiver_sound, foreign_otherSender _, fun h => ?_⟩
  obtain ⟨t, ht, hagrees⟩ := h _ List.prefix_rfl
  have hstatus : (runOption Insertion.step (Insertion.start (smallReceiver 1))
      [.shared (.fragment shortHeader fun _ => 0), .inserted otherSender fun _ => 0,
        .shared (.fragment (dataFrame (fragmentId 1 defaultPriority) 7 [5] 0) fun _ => 0)]).map
        (fun t => (t.undisturbed.handled.map (·.status), t.disturbed.handled.map (·.status))) =
      some ([.complete], [.sequenceError]) := rfl
  rw [ht, Option.map_some, Option.some.injEq, Prod.mk.injEq] at hstatus
  unfold Insertion.Agrees at hagrees
  rw [hagrees, hstatus.1] at hstatus
  exact absurd hstatus.2 (by decide)

end CBUSLongMessage
end CBUSPicoLib
