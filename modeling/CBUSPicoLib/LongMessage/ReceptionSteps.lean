import CBUSPicoLib.Library.Runs
import CBUSPicoLib.Library.SessionTable
import CBUSPicoLib.LongMessage.Extended

/-!
# What a call does to the receiving side

A call that takes a fragment and does not fault writes one receive context at most, and may call
the handler: which context, what is written and what is reported. `process` only releases contexts
that have timed out.
-/

namespace CBUSPicoLib

open Runs SessionTable

namespace ReceiveContext

def started (bufferLen : UInt32) (frame : CANFrame) (clock : Clock) : ReceiveContext where
  inUse := true
  receiveStreamId := frame.data.get 1
  incomingMessageLength := ((frame.data.get 3).toUInt32 <<< 8) + (frame.data.get 4).toUInt32
  incomingMessageCrc := ((frame.data.get 5).toUInt32 <<< 8) + (frame.data.get 6).toUInt32
  incomingBytesReceived := 0
  buffer := List.replicate bufferLen.toNat 0
  receiveBufferIndex := 0
  expectedNextReceiveSequenceNum := 1
  senderCanid := (frame.id &&& 0x7f).toUInt8
  lastFragmentReceived := clock 0

end ReceiveContext

namespace CBUSLongMessageEx

variable {lm lm' : CBUSLongMessageEx} {frame : CANFrame} {clock : Clock}

theorem callHandler_eq (h : lm.messagehandler = true) (call : HandlerCall) :
    lm.callHandler call = some { lm with handled := lm.handled ++ [call] } := if_pos h

theorem handled_callHandler {lm' : CBUSLongMessageEx} {call : HandlerCall}
    (h : lm.callHandler call = some lm') : lm' = { lm with handled := lm.handled ++ [call] } := by
  unfold callHandler at h
  split_ifs at h
  exact (Option.some.inj h).symm

theorem receiveHeader_cases (hcall : lm.receiveHeader frame clock = some lm') :
    lm' = lm ∨ ∃ i c buffer, lm.receiveContext[i]? = some c ∧ c.inUse = false ∧
      lm.receiveBufferLen.toNat ≤ buffer.length ∧ lm' = { lm with
        receiveContext := lm.receiveContext.set i
          { ReceiveContext.started lm.receiveBufferLen frame clock with buffer := buffer } } := by
  unfold receiveHeader at hcall
  split_ifs at hcall
  · dsimp only at hcall
    cases hget : lm.receiveContext[lm.receiveContext.findIdx (!·.inUse)]? with
    | none =>
      rw [hget] at hcall
      exact Or.inl (Option.some.inj hcall).symm
    | some c =>
      rw [hget] at hcall
      obtain ⟨buffer, hbuffer, heq⟩ := Option.bind_eq_some_iff.mp hcall
      have hfree : c.inUse = false := by simpa using pred_of_found hget
      refine Or.inr ⟨_, c, buffer, hget, hfree, ?_, (Option.some.inj heq).symm⟩
      unfold memset at hbuffer
      split_ifs at hbuffer with hlen
      simp [← Option.some.inj hbuffer]
  · exact Or.inl (Option.some.inj hcall).symm

theorem inUse_of_matchesFrame {c : ReceiveContext}
    (hget : lm.receiveContext[lm.receiveContext.findIdx (·.matchesFrame frame)]? = some c) :
    c.inUse = true := by
  have hmatch := pred_of_found (p := fun d : ReceiveContext => d.matchesFrame frame) hget
  exact (Bool.and_eq_true_iff.mp (Bool.and_eq_true_iff.mp hmatch).1).1

/-- What a continuation packet does, if it does not fault: without a context nothing; out of its
sequence it is reported; otherwise the payload loop decides. -/
theorem receiveFragment_cases (hcall : lm.receiveFragment frame clock = some lm') :
    (lm.receiveContext[lm.receiveContext.findIdx (·.matchesFrame frame)]? = none ∧ lm' = lm) ∨
    ∃ c, lm.receiveContext[lm.receiveContext.findIdx (·.matchesFrame frame)]? = some c ∧
      c.inUse = true ∧
      if (frame.data.get 2).toUInt32 = c.expectedNextReceiveSequenceNum then
        ∃ c' call, c.takeBytes lm.useCrc lm.receiveBufferLen frame clock 5 = some (c', call) ∧
          lm' = { lm with
            handled := lm.handled ++ call.toList
            receiveContext := lm.receiveContext.set
              (lm.receiveContext.findIdx (·.matchesFrame frame)) { c' with
                expectedNextReceiveSequenceNum := c'.expectedNextReceiveSequenceNum + 1 } }
      else lm' = { lm with
        handled := lm.handled ++ [c.report .sequenceError]
        receiveContext := lm.receiveContext.set
          (lm.receiveContext.findIdx (·.matchesFrame frame)) { c with inUse := false } } := by
  unfold receiveFragment at hcall
  dsimp only at hcall
  cases hget : lm.receiveContext[lm.receiveContext.findIdx (·.matchesFrame frame)]? with
  | none =>
    rw [hget] at hcall
    exact Or.inl ⟨rfl, (Option.some.inj hcall).symm⟩
  | some c =>
    refine Or.inr ⟨c, rfl, inUse_of_matchesFrame hget, ?_⟩
    rw [hget] at hcall
    dsimp only at hcall
    rw [ite_not] at hcall
    split_ifs at hcall ⊢
    · obtain ⟨⟨c', call⟩, htake, hrest⟩ := Option.bind_eq_some_iff.mp hcall
      refine ⟨c', call, htake, ?_⟩
      cases call with
      | none =>
        rw [Option.toList_none, List.append_nil]
        exact (Option.some.inj hrest).symm
      | some call =>
        obtain ⟨m, hm, heq⟩ := Option.bind_eq_some_iff.mp hrest
        rw [handled_callHandler hm] at heq
        exact (Option.some.inj heq).symm
    · obtain ⟨m, hm, heq⟩ := Option.bind_eq_some_iff.mp hcall
      rw [handled_callHandler hm] at heq
      exact (Option.some.inj heq).symm

/-- A frame changes the receive contexts and appends to the log of handler calls. -/
theorem processReceivedMessageFragment_frame
    (hcall : lm.processReceivedMessageFragment frame clock = some lm') :
    ∃ rs hs, lm' = { lm with receiveContext := rs, handled := hs } ∧ lm.handled <+: hs := by
  unfold processReceivedMessageFragment at hcall
  split_ifs at hcall
  · rcases receiveHeader_cases hcall with rfl | ⟨i, c, buffer, -, -, -, rfl⟩
    · exact ⟨_, _, rfl, List.prefix_rfl⟩
    · exact ⟨_, _, rfl, List.prefix_rfl⟩
  · rcases receiveFragment_cases hcall with ⟨-, rfl⟩ | ⟨c, -, -, hcase⟩
    · exact ⟨_, _, rfl, List.prefix_rfl⟩
    · split_ifs at hcase
      · obtain ⟨c', call, -, rfl⟩ := hcase
        exact ⟨_, _, rfl, List.prefix_append _ _⟩
      · exact ⟨_, _, hcase, List.prefix_append _ _⟩

theorem inUse_of_timedOut {c : ReceiveContext} {timeout now : UInt32}
    (h : c.timedOut timeout now = true) : c.inUse = true := (Bool.and_eq_true_iff.mp h).1

theorem timeOutContext_cases {i : ℕ} (hcall : timeOutContext clock lm i = some lm') :
    ∃ c, lm.receiveContext[i]? = some c ∧
      if c.timedOut lm.receiveTimeout (clock i) then lm' = { lm with
        handled := lm.handled ++ [c.report .timeoutError]
        receiveContext := lm.receiveContext.set i { c with inUse := false } }
      else lm' = lm := by
  obtain ⟨c, hget, hrest⟩ := Option.bind_eq_some_iff.mp hcall
  refine ⟨c, hget, ?_⟩
  split_ifs at hrest ⊢
  · obtain ⟨m, hm, heq⟩ := Option.bind_eq_some_iff.mp hrest
    rw [handled_callHandler hm] at heq
    exact (Option.some.inj heq).symm
  · exact (Option.some.inj hrest).symm

theorem sendNext_sending {now sent : UInt32} {ret : Bool}
    (hcall : lm.sendNext now sent = some (ret, lm')) :
    ∃ n cs, lm' = { lm with cbusObject := n, sendContext := cs } := by
  obtain ⟨c, -, hrest⟩ := Option.bind_eq_some_iff.mp hcall
  split_ifs at hrest
  · obtain ⟨⟨data, index⟩, -, heq⟩ := Option.bind_eq_some_iff.mp hrest
    cases heq
    exact ⟨_, _, rfl⟩
  · cases hrest
    exact ⟨_, _, rfl⟩

/-- What holds however contexts are released after a timeout and whatever is sent, holds after
`process`. -/
theorem process_invariant (inv : CBUSLongMessageEx → Prop)
    (hrelease : ∀ (a : CBUSLongMessageEx) (i : ℕ) (c : ReceiveContext), inv a →
      a.receiveContext[i]? = some c → c.inUse = true → inv { a with
        handled := a.handled ++ [c.report .timeoutError]
        receiveContext := a.receiveContext.set i { c with inUse := false } })
    (hsend : ∀ (a : CBUSLongMessageEx) n cs i, inv a →
      inv { a with cbusObject := n, sendContext := cs, context := i })
    (h : inv lm) {ret : Bool} (hcall : lm.process clock = some (ret, lm')) : inv lm' := by
  have hstep : ∀ (a : CBUSLongMessageEx) (i : ℕ) (b : CBUSLongMessageEx), inv a →
      timeOutContext clock a i = some b → inv b := by
    intro a i b ha hb
    obtain ⟨c, hget, hcase⟩ := timeOutContext_cases hb
    split_ifs at hcase with htime
    · rw [hcase]
      exact hrelease a i c ha hget (inUse_of_timedOut htime)
    · rwa [hcase]
  obtain ⟨a, ha, hrest⟩ := Option.bind_eq_some_iff.mp hcall
  obtain ⟨⟨ret', b⟩, hb, heq⟩ := Option.bind_eq_some_iff.mp hrest
  cases heq
  obtain ⟨n, cs, rfl⟩ := sendNext_sending hb
  exact hsend a n cs _ (runOption_invariant hstep h ha)

end CBUSLongMessageEx
end CBUSPicoLib
