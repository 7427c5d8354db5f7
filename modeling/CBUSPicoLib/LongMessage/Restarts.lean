import CBUSPicoLib.LongMessage.ContextAccount

/-!
# Messages that are started again

A continuation packet is matched with the first context of its sender and stream. A header only
looks for a free context: if the message before it has been given up by its sender, its context is
still in use, and then there are two of them for one session.
-/

namespace CBUSPicoLib

open Runs SessionTable

namespace ReceiveContext

variable {c c' : ReceiveContext} {useCrc : Bool} {bufferLen : UInt32} {frame : CANFrame}
  {clock : Clock} {call : Option HandlerCall}

theorem started_sessionKey (bufferLen : UInt32) (frame : CANFrame) (clock : Clock) :
    (started bufferLen frame clock).sessionKey = some frame.sessionKey := rfl

def released (c : ReceiveContext) : ReceiveContext := { c with inUse := false }

theorem released_sessionKey (c : ReceiveContext) : c.released.sessionKey = none := rfl

theorem sessionKey_of_inUse (h : c.inUse = true) :
    c.sessionKey = some (c.senderCanid, c.receiveStreamId) := if_pos h

/-- A context goes on with its session, or it is released. -/
structure Continues (c c' : ReceiveContext) : Prop where
  sender : c'.senderCanid = c.senderCanid
  stream : c'.receiveStreamId = c.receiveStreamId
  allocated : c'.buffer.length = c.buffer.length

theorem Continues.sessionKey (h : c.Continues c') {k : UInt8 × UInt8} (hk : c.sessionKey = some k) :
    c'.sessionKey = some k ∨ c'.sessionKey = none := by
  unfold ReceiveContext.sessionKey at *
  split_ifs at hk
  rw [h.sender, h.stream, hk]
  split_ifs <;> simp

theorem continues_released (c : ReceiveContext) : c.Continues c.released := ⟨rfl, rfl, rfl⟩

theorem takeBytes_continues (k : ℕ)
    (h : takeBytes useCrc bufferLen frame clock k c = some (c', call)) : c.Continues c' := by
  suffices hkey : c'.senderCanid = c.senderCanid ∧ c'.receiveStreamId = c.receiveStreamId from
    ⟨hkey.1, hkey.2, length_takeBytes h⟩
  induction k generalizing c with
  | zero =>
    cases h
    exact ⟨rfl, rfl⟩
  | succ k ih =>
    obtain ⟨buffer, hbuffer, hrest⟩ := Option.bind_eq_some_iff.mp h
    dsimp only at hrest
    split_ifs at hrest
    · obtain ⟨crc, hcrc, heq⟩ := Option.bind_eq_some_iff.mp hrest
      cases heq
      exact ⟨rfl, rfl⟩
    · cases hrest
      exact ⟨rfl, rfl⟩
    · exact @ih { c with
        buffer := buffer
        receiveBufferIndex := c.receiveBufferIndex + 1
        incomingBytesReceived := c.incomingBytesReceived + 1
        lastFragmentReceived := clock (4 - k) } hrest

end ReceiveContext

namespace CBUSLongMessageEx

variable {lm lm' : CBUSLongMessageEx} {frame : CANFrame} {clock : Clock}

/-- No two contexts in use have the same sender and stream, so that a packet matches one context
at most. -/
structure OnePerSession (lm : CBUSLongMessageEx) : Prop where
  sessions : ∀ (i j : ℕ) (c d : ReceiveContext), lm.receiveContext[i]? = some c →
    lm.receiveContext[j]? = some d → c.inUse = true → d.inUse = true →
      c.senderCanid = d.senderCanid → c.receiveStreamId = d.receiveStreamId → i = j
  matching : ∀ frame (i j : ℕ) (c d : ReceiveContext), lm.receiveContext[i]? = some c →
    lm.receiveContext[j]? = some d → c.matchesFrame frame = true → d.matchesFrame frame = true →
      i = j

/-- The frame is a header that the object takes if a context is free. -/
def StartsStream (lm : CBUSLongMessageEx) (frame : CANFrame) : Prop :=
  frame.data.get 2 = 0 ∧ frame.data.get 7 = 0 ∧ frame.data.get 1 ∈ lm.streamIds

def abandon (lm : CBUSLongMessageEx) (k : UInt8 × UInt8) : CBUSLongMessageEx :=
  { lm with
    receiveContext := SessionTable.abandon ReceiveContext.sessionKey ReceiveContext.released
      lm.receiveContext k }

/-- A header leaves its session as if the message before it had not been started. -/
def RestartsAfresh (lm : CBUSLongMessageEx) : ReceiverCall → Prop
  | .fragment frame clock => lm.StartsStream frame →
    ∀ lm' a, lm.receive (.fragment frame clock) = some lm' →
      (lm.abandon frame.sessionKey).receive (.fragment frame clock) = some a →
        lm'.serving frame.sessionKey = a.serving frame.sessionKey
  | .process _ => True

/-- The session of a header is not served, or its context is what the header would make of it and
no other context is free. -/
def StartsOnce (lm : CBUSLongMessageEx) : ReceiverCall → Prop
  | .fragment frame clock => lm.StartsStream frame →
    lm.serving frame.sessionKey = none ∨
      (∀ c ∈ lm.receiveContext, c.inUse = true) ∧
        lm.serving frame.sessionKey = some (.started lm.receiveBufferLen frame clock)
  | .process _ => True

theorem receive_header
    (h : ∀ c ∈ lm.receiveContext, c.buffer.length = lm.receiveBufferLen.toNat)
    (hzero : frame.data.get 2 = 0) (clock : Clock) :
    (¬ lm.StartsStream frame ∧ lm.receive (.fragment frame clock) = some lm) ∨
    (lm.StartsStream frame ∧ (∀ c ∈ lm.receiveContext, c.inUse = true) ∧
      lm.receive (.fragment frame clock) = some lm) ∨
    (lm.StartsStream frame ∧ ∃ i c, lm.receiveContext[i]? = some c ∧ c.inUse = false ∧
      lm.receive (.fragment frame clock) = some { lm with
        receiveContext := lm.receiveContext.set i (.started lm.receiveBufferLen frame clock) }) := by
  have hcall : lm.receive (.fragment frame clock) = lm.receiveHeader frame clock := if_pos hzero
  rw [hcall]
  unfold receiveHeader
  by_cases haccept : frame.data.get 7 = 0 ∧ frame.data.get 1 ∈ lm.streamIds
  · rw [if_pos haccept]
    dsimp only
    cases hget : lm.receiveContext[lm.receiveContext.findIdx (!·.inUse)]? with
    | none =>
      refine Or.inr (Or.inl ⟨⟨hzero, haccept⟩, fun c hc => ?_, rfl⟩)
      by_contra hfree
      have hlt := List.findIdx_lt_length_of_exists (p := fun c : ReceiveContext => !c.inUse)
        ⟨c, hc, by simpa using hfree⟩
      exact absurd hlt (Nat.not_lt.mpr (List.getElem?_eq_none_iff.mp hget))
    | some c =>
      have hfree : c.inUse = false := by simpa using pred_of_found hget
      have hlen := h c (List.mem_of_getElem? hget)
      have hclear : memset c.buffer lm.receiveBufferLen =
          some (List.replicate lm.receiveBufferLen.toNat 0) := by
        unfold memset
        rw [if_pos (le_of_eq hlen.symm), List.drop_eq_nil_iff.mpr (le_of_eq hlen), List.append_nil]
      dsimp only
      rw [hclear]
      exact Or.inr (Or.inr ⟨⟨hzero, haccept⟩, _, c, hget, hfree, rfl⟩)
  · rw [if_neg haccept]
    exact Or.inl ⟨fun hs => haccept hs.2, rfl⟩

/-- What holds between two calls. -/
structure Unshared (lm : CBUSLongMessageEx) : Prop where
  distinct : Distinct ReceiveContext.sessionKey lm.receiveContext
  allocated : ∀ c ∈ lm.receiveContext, c.buffer.length = lm.receiveBufferLen.toNat

theorem Unshared.onePerSession (h : lm.Unshared) : lm.OnePerSession where
  sessions := by
    intro i j c d hi hj hc hd hsender hstream
    have hkey : c.sessionKey = some (d.senderCanid, d.receiveStreamId) := by
      rw [ReceiveContext.sessionKey_of_inUse hc, hsender, hstream]
    exact h.distinct.index_unique hi hkey hj (ReceiveContext.sessionKey_of_inUse hd)
  matching := by
    intro frame i j c d hi hj hc hd
    rw [ReceiveContext.matchesFrame_eq_decide] at hc hd
    exact h.distinct.index_unique hi (of_decide_eq_true hc) hj (of_decide_eq_true hd)

theorem Unshared.set (h : lm.Unshared) {i : ℕ} {c c' : ReceiveContext}
    (hget : lm.receiveContext[i]? = some c) (huse : c.inUse = true) (hcont : c.Continues c')
    (handled : List HandlerCall) : Unshared { lm with
      handled := handled
      receiveContext := lm.receiveContext.set i c' } := by
  have hkey := ReceiveContext.sessionKey_of_inUse huse
  refine ⟨(h.distinct.set hget (Or.inl hkey) (hcont.sessionKey hkey)).1, fun d hd => ?_⟩
  rcases List.mem_or_eq_of_mem_set hd with hd | rfl
  · exact h.allocated d hd
  · exact hcont.allocated.trans (h.allocated c (List.mem_of_getElem? hget))

theorem Unshared.start (h : lm.Unshared) {i : ℕ} {c : ReceiveContext}
    (hget : lm.receiveContext[i]? = some c) (hfree : c.inUse = false)
    (hnone : lm.serving frame.sessionKey = none) (clock : Clock) :
    Unshared { lm with
      receiveContext := lm.receiveContext.set i (.started lm.receiveBufferLen frame clock) } ∧
    serving { lm with
      receiveContext := lm.receiveContext.set i (.started lm.receiveBufferLen frame clock) }
        frame.sessionKey = some (.started lm.receiveBufferLen frame clock) := by
  have hkey : c.sessionKey = none := by simp [ReceiveContext.sessionKey, hfree]
  obtain ⟨hdistinct, hserving⟩ := h.distinct.serve hget (Or.inr ⟨hkey, hnone⟩)
    (ReceiveContext.started_sessionKey lm.receiveBufferLen frame clock)
  refine ⟨⟨hdistinct, fun d hd => ?_⟩, ?_⟩
  · rcases List.mem_or_eq_of_mem_set hd with hd | rfl
    · exact h.allocated d hd
    · exact List.length_replicate
  · unfold serving
    rw [hserving, Function.update_self]

theorem Unshared.header_abandon (h : lm.Unshared) (hstart : lm.StartsStream frame)
    (hserved : lm.serving frame.sessionKey ≠ none) (clock : Clock) :
    ∃ a, (lm.abandon frame.sessionKey).receive (.fragment frame clock) = some a ∧
      a.serving frame.sessionKey = some (.started lm.receiveBufferLen frame clock) := by
  obtain ⟨hdistinct, hnone⟩ :=
    h.distinct.abandon ReceiveContext.released_sessionKey frame.sessionKey
  have habandoned : (lm.abandon frame.sessionKey).Unshared := by
    refine ⟨hdistinct, fun d hd => ?_⟩
    obtain ⟨c, hc, rfl⟩ := List.mem_map.mp hd
    split_ifs <;> exact h.allocated c hc
  obtain ⟨d, hd, hfree⟩ := exists_free_abandon ReceiveContext.released_sessionKey hserved
  rcases receive_header habandoned.allocated hstart.1 clock with
    ⟨hno, -⟩ | ⟨-, hfull, -⟩ | ⟨-, i, c, hget, hc, ha⟩
  · exact absurd hstart hno
  · exact absurd (hfull d hd) (by simp [ReceiveContext.inUse_eq_false_of_sessionKey hfree])
  · exact ⟨_, ha, (habandoned.start hget hc hnone clock).2⟩

theorem Unshared.restartsAfresh (h : lm.Unshared) {call : ReceiverCall}
    (hguard : lm.StartsOnce call) : lm.RestartsAfresh call := by
  cases call with
  | process clock => trivial
  | fragment frame clock =>
    intro hstart lm' a hlm' ha
    rcases hguard hstart with hnone | ⟨hfull, hserved⟩
    · have hsame : lm.abandon frame.sessionKey = lm := by
        unfold abandon
        rw [abandon_eq_self hnone]
      rw [hsame, hlm'] at ha
      rw [Option.some.inj ha]
    · obtain ⟨a', ha', hafresh⟩ := h.header_abandon hstart (by simp [hserved]) clock
      rw [Option.some.inj (ha.symm.trans ha'), hafresh, ← hserved]
      rcases receive_header h.allocated hstart.1 clock with
        ⟨hno, -⟩ | ⟨-, -, hsame⟩ | ⟨-, i, c, hget, hc, -⟩
      · exact absurd hstart hno
      · rw [Option.some.inj (hlm'.symm.trans hsame)]
      · exact absurd (hfull c (List.mem_of_getElem? hget)) (by simp [hc])

/-- A header for a session that is served spoils what is received, or makes a second context for
the session. -/
theorem Unshared.notOnce (h : lm.Unshared) {call : ReceiverCall} (hguard : ¬ lm.StartsOnce call)
    (hcall : lm.receive call = some lm') (hafresh : lm.RestartsAfresh call) :
    ¬ lm'.OnePerSession := by
  cases call with
  | process clock => exact absurd trivial hguard
  | fragment frame clock =>
    have hstart : lm.StartsStream frame := by
      by_contra hno
      exact hguard fun hs => absurd hs hno
    have hserved : lm.serving frame.sessionKey ≠ none := fun hn => hguard fun _ => Or.inl hn
    rcases receive_header h.allocated hstart.1 clock with
      ⟨hno, -⟩ | ⟨-, hfull, hsame⟩ | ⟨-, i, c, hget, hc, hset⟩
    · exact absurd hstart hno
    · -- no context is free: the old one stays
      obtain ⟨a, ha, hserving⟩ := h.header_abandon hstart hserved clock
      have heq := hafresh hstart lm a hsame ha
      exact absurd (fun _ => Or.inr ⟨hfull, heq.trans hserving⟩) hguard
    · -- a second context is taken
      intro hone
      obtain ⟨d, hd⟩ := Option.ne_none_iff_exists'.mp hserved
      have hkey := key_of_session hd
      have huse : d.inUse = true := by
        by_contra hfree
        simp [ReceiveContext.sessionKey, hfree] at hkey
      rw [ReceiveContext.sessionKey_of_inUse huse] at hkey
      obtain ⟨hsender, hstream⟩ := Prod.mk.inj (Option.some.inj hkey)
      have hi := (List.getElem?_eq_some_iff.mp hget).1
      have hne : i ≠ lm.receiveContext.findIdx fun s => s.sessionKey = some frame.sessionKey := by
        intro he
        have hsame : c = d := Option.some.inj (hget.symm.trans (he ▸ hd))
        simp [hsame, huse] at hc
      have hlm' := Option.some.inj (hcall.symm.trans hset)
      apply hne
      apply hone.sessions i _ (.started lm.receiveBufferLen frame clock) d
      · rw [hlm']
        exact List.getElem?_set_self hi
      · rw [hlm']
        exact (List.getElem?_set_ne hne).trans hd
      · rfl
      · exact huse
      · exact hsender.symm
      · exact hstream.symm

theorem Unshared.packet (h : lm.Unshared) (hcall : lm.receiveFragment frame clock = some lm') :
    lm'.Unshared := by
  rcases receiveFragment_cases hcall with ⟨-, rfl⟩ | ⟨c, hget, huse, hcase⟩
  · exact h
  · split_ifs at hcase
    · obtain ⟨c', call, htake, rfl⟩ := hcase
      have hcont := ReceiveContext.takeBytes_continues 5 htake
      have hnext : c.Continues { c' with
          expectedNextReceiveSequenceNum := c'.expectedNextReceiveSequenceNum + 1 } :=
        ⟨hcont.sender, hcont.stream, hcont.allocated⟩
      exact h.set hget huse hnext _
    · rw [hcase]
      exact h.set hget huse c.continues_released _

theorem Unshared.process (h : lm.Unshared) {ret : Bool}
    (hcall : lm.process clock = some (ret, lm')) : lm'.Unshared := by
  refine process_invariant Unshared (fun a i c ha hget huse => ?_)
    (fun a n cs i ha => ?_) h hcall
  · exact ha.set hget huse c.continues_released _
  · exact ⟨ha.distinct, ha.allocated⟩

theorem Unshared.step (h : lm.Unshared) {call : ReceiverCall} (hguard : lm.StartsOnce call)
    (hcall : lm.receive call = some lm') : lm'.Unshared := by
  cases call with
  | process clock =>
    obtain ⟨⟨ret, b⟩, hb, rfl⟩ := Option.map_eq_some_iff.mp hcall
    exact h.process hb
  | fragment frame clock =>
    by_cases hzero : frame.data.get 2 = 0
    · rcases receive_header h.allocated hzero clock with
        ⟨-, hsame⟩ | ⟨-, -, hsame⟩ | ⟨hstart, i, c, hget, hc, hset⟩
      · rwa [← Option.some.inj (hcall.symm.trans hsame)] at h
      · rwa [← Option.some.inj (hcall.symm.trans hsame)] at h
      · rcases hguard hstart with hnone | ⟨hfull, -⟩
        · rw [Option.some.inj (hcall.symm.trans hset)]
          exact (h.start hget hc hnone clock).1
        · exact absurd (hfull c (List.mem_of_getElem? hget)) (by simp [hc])
    · have hpacket : lm.receiveFragment frame clock = some lm' := (if_neg hzero).symm.trans hcall
      exact h.packet hpacket

/-- After an allocation, whatever frames are received and whenever `process` is called: in every
state reached each session has one context, and every header starts its message as if the one
before it had not been started, exactly if no header arrives for a session that is being served. -/
theorem onePerSession_iff (lm : CBUSLongMessageEx) (numReceive : UInt8) (len : UInt32)
    (numSend : UInt8) (receiveHeap : ℕ → ReceiveContext) (sendHeap : ℕ → SendContext)
    (bufferHeap : ℕ → ℕ → UInt8) (calls : List ReceiverCall) :
    (∀ ps, ps <+: calls → ∀ t, runOption receive
        (lm.allocateContexts numReceive len numSend receiveHeap sendHeap bufferHeap) ps = some t →
      t.OnePerSession ∧ ∀ call, ps ++ [call] <+: calls → ∀ t', t.receive call = some t' →
        t.RestartsAfresh call) ↔
    GuardedTaken receive StartsOnce
      (lm.allocateContexts numReceive len numSend receiveHeap sendHeap bufferHeap) calls := by
  obtain ⟨hfree, -⟩ :=
    lm.allocateContexts_free numReceive len numSend receiveHeap sendHeap bufferHeap
  have hstart : (lm.allocateContexts numReceive len numSend receiveHeap sendHeap
      bufferHeap).Unshared := by
    refine ⟨distinct_of_free fun c hc => ?_, fun c hc => (hfree c hc).2⟩
    simp [ReceiveContext.sessionKey, (hfree c hc).1]
  exact forall_taken_iff_guardedTaken (fun a call b ha hg hb => ha.step hg hb)
    (fun a ha => ha.onePerSession) (fun a call ha hg => ha.restartsAfresh hg)
    (fun a call b ha hg hb hs => ha.notOnce hg hb hs) hstart calls

def twoContexts : CBUSLongMessageEx :=
  allocateContexts { cbusObject := CBUSbase.smallModule, streamIds := [7], messagehandler := true }
    2 7 1 rawReceive rawSend fun _ _ => 0

/-- A message of seven bytes that is given up behind its first data packet and started again. -/
def startedAgain : List ReceiverCall :=
  [.fragment (headerFrame 1 7 7 0) fun _ => 0,
    .fragment (dataFrame 1 7 [1, 2, 3, 4, 5, 6, 7] 0) fun _ => 0,
    .fragment (headerFrame 1 7 7 0) fun _ => 0]

/-- Both contexts are in use for the session, and the message that is started again is not
received: each context is released by a packet that is out of its sequence. -/
theorem not_onePerSession_startedAgain :
    (∃ t, runOption receive twoContexts startedAgain = some t ∧ ¬ t.OnePerSession) ∧
    (runOption receive twoContexts (startedAgain ++
      [.fragment (dataFrame 1 7 [1, 2, 3, 4, 5, 6, 7] 0) fun _ => 0,
        .fragment (dataFrame 1 7 [1, 2, 3, 4, 5, 6, 7] 1) fun _ => 0])).map
      (fun t => t.handled.map (·.status)) =
        some [LongMessageStatus.sequenceError, .sequenceError] := by
  refine ⟨?_, rfl⟩
  have hrun : (runOption receive twoContexts startedAgain).map
      (fun t => t.receiveContext.map (·.sessionKey)) = some [some (1, 7), some (1, 7)] := rfl
  obtain ⟨t, ht, hkeys⟩ := Option.map_eq_some_iff.mp hrun
  refine ⟨t, ht, fun hone => ?_⟩
  obtain ⟨c, hc, hckey⟩ : ∃ c, t.receiveContext[0]? = some c ∧ c.sessionKey = some (1, 7) := by
    rw [← Option.map_eq_some_iff, ← List.getElem?_map, hkeys]
    rfl
  obtain ⟨d, hd, hdkey⟩ : ∃ d, t.receiveContext[1]? = some d ∧ d.sessionKey = some (1, 7) := by
    rw [← Option.map_eq_some_iff, ← List.getElem?_map, hkeys]
    rfl
  have hmatch : ∀ e : ReceiveContext, e.sessionKey = some (1, 7) →
      e.matchesFrame (headerFrame 1 7 7 0) = true := by
    intro e he
    rw [ReceiveContext.matchesFrame_eq_decide, decide_eq_true_eq, he]
    rfl
  have heq := hone.matching (headerFrame 1 7 7 0) 0 1 c d hc hd (hmatch c hckey) (hmatch d hdkey)
  exact absurd heq (by decide)

end CBUSLongMessageEx
end CBUSPicoLib
