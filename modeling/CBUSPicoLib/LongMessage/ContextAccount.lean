import CBUSPicoLib.Library.SlotLedger
import CBUSPicoLib.LongMessage.BufferBounds

/-!
# The receive contexts are conserved

A header claims a context. It is released at four places, each of which calls the handler: the
timeout, a fragment out of sequence, and two exits of the payload loop. `Ledger` lists the claims
and the releases of a run; the context of every entry is the one the code works on.
-/

namespace CBUSPicoLib

open Runs SessionTable SlotLedger

def ReceiveContext.openStream (c : ReceiveContext) : Option UInt8 :=
  if c.inUse then some c.receiveStreamId else none

/-- The handler is told why the context is released. -/
def HandlerCall.Releases (call : HandlerCall) : Prop :=
  call.status ∈ [LongMessageStatus.timeoutError, .sequenceError, .complete, .crcError, .truncated]

namespace ReceiveContext

variable {c c' : ReceiveContext} {useCrc : Bool} {bufferLen : UInt32} {frame : CANFrame}
  {clock : Clock} {call : Option HandlerCall}

theorem openStream_eq_some (h : c.inUse = true) : c.openStream = some c.receiveStreamId :=
  if_pos h

theorem openStream_eq_none (h : c.inUse = false) : c.openStream = none := by
  simp [openStream, h]

/-- The payload loop releases the context exactly if the handler is to be called. -/
theorem takeBytes_openStream (k : ℕ) (huse : c.inUse = true)
    (h : takeBytes useCrc bufferLen frame clock k c = some (c', call)) :
    (call = none ∧ c'.openStream = some c.receiveStreamId) ∨
      ∃ x, call = some x ∧ c'.inUse = false ∧ x.streamId = c.receiveStreamId ∧ x.Releases := by
  induction k generalizing c with
  | zero =>
    cases h
    exact Or.inl ⟨rfl, openStream_eq_some huse⟩
  | succ k ih =>
    obtain ⟨buffer, hbuffer, hrest⟩ := Option.bind_eq_some_iff.mp h
    dsimp only at hrest
    split_ifs at hrest
    · obtain ⟨crc, hcrc, heq⟩ := Option.bind_eq_some_iff.mp hrest
      cases heq
      refine Or.inr ⟨_, rfl, rfl, rfl, ?_⟩
      unfold HandlerCall.Releases report
      dsimp only
      split_ifs <;> simp
    · cases hrest
      exact Or.inr ⟨_, rfl, rfl, rfl, by simp [HandlerCall.Releases, report]⟩
    · exact @ih { c with
        buffer := buffer
        receiveBufferIndex := c.receiveBufferIndex + 1
        incomingBytesReceived := c.incomingBytesReceived + 1
        lastFragmentReceived := clock (4 - k) } huse hrest

end ReceiveContext

namespace CBUSLongMessageEx

variable {lm lm' : CBUSLongMessageEx} {frame : CANFrame} {clock : Clock}

def openStreams (lm : CBUSLongMessageEx) : List (Option UInt8) :=
  lm.receiveContext.map (·.openStream)

def timeoutEntries (lm : CBUSLongMessageEx) (clock : Clock) (i : ℕ) :
    List (Entry UInt8 HandlerCall) :=
  match lm.receiveContext[i]? with
  | none => []
  | some c =>
    if c.timedOut lm.receiveTimeout (clock i) then [.released i (c.report .timeoutError)] else []

def headerEntries (lm : CBUSLongMessageEx) (frame : CANFrame) : List (Entry UInt8 HandlerCall) :=
  if (frame.data.get 7 = 0 ∧ frame.data.get 1 ∈ lm.streamIds) ∧
      lm.receiveContext.any (!·.inUse) then
    [.claimed (lm.receiveContext.findIdx (!·.inUse)) (frame.data.get 1)]
  else []

def packetEntries (lm : CBUSLongMessageEx) (frame : CANFrame) (clock : Clock) :
    List (Entry UInt8 HandlerCall) :=
  let i := lm.receiveContext.findIdx (·.matchesFrame frame)
  match lm.receiveContext[i]? with
  | none => []
  | some c =>
    if (frame.data.get 2).toUInt32 ≠ c.expectedNextReceiveSequenceNum then
      [.released i (c.report .sequenceError)]
    else
      match c.takeBytes lm.useCrc lm.receiveBufferLen frame clock 5 with
      | some (_, some call) => [.released i call]
      | _ => []

def entries (lm : CBUSLongMessageEx) : ReceiverCall → List (Entry UInt8 HandlerCall)
  | .fragment frame clock =>
    if frame.data.get 2 = 0 then lm.headerEntries frame else lm.packetEntries frame clock
  | .process clock => (List.range lm.receiveContext.length).flatMap (lm.timeoutEntries clock)

/-- The entries lead from one state to the other: its contexts, and the log of the handler. -/
structure Settles (lm : CBUSLongMessageEx) (log : List (Entry UInt8 HandlerCall))
    (lm' : CBUSLongMessageEx) : Prop where
  leads : Leads HandlerCall.streamId lm.openStreams log lm'.openStreams
  calls : lm'.handled = lm.handled ++ reports log
  releases : ∀ call ∈ reports log, call.Releases

theorem Settles.nil (lm : CBUSLongMessageEx) : lm.Settles [] lm :=
  ⟨.nil _, by simp, by simp⟩

theorem Settles.append {lm'' : CBUSLongMessageEx} {log log' : List (Entry UInt8 HandlerCall)}
    (h : lm.Settles log lm') (h' : lm'.Settles log' lm'') : lm.Settles (log ++ log') lm'' := by
  refine ⟨h.leads.append h'.leads, by simp [h'.calls, h.calls], ?_⟩
  intro call hmem
  rw [reports_append] at hmem
  rcases List.mem_append.mp hmem with hmem | hmem
  · exact h.releases call hmem
  · exact h'.releases call hmem

theorem openStreams_getElem? {i : ℕ} {c : ReceiveContext} (h : lm.receiveContext[i]? = some c) :
    lm.openStreams[i]? = some c.openStream := by simp [openStreams, h]

theorem Settles.release {i : ℕ} {c c' : ReceiveContext} {call : HandlerCall}
    (hget : lm.receiveContext[i]? = some c) (huse : c.inUse = true)
    (hstream : call.streamId = c.receiveStreamId) (hstatus : call.Releases)
    (hfree : c'.inUse = false) :
    lm.Settles [.released i call] { lm with
      handled := lm.handled ++ [call]
      receiveContext := lm.receiveContext.set i c' } := by
  have hheld : lm.openStreams[i]? = some (some call.streamId) := by
    rw [openStreams_getElem? hget, ReceiveContext.openStream_eq_some huse, hstream]
  refine ⟨?_, by simp, by simpa using hstatus⟩
  have hset : openStreams { lm with
      handled := lm.handled ++ [call]
      receiveContext := lm.receiveContext.set i c' } = lm.openStreams.set i none := by
    simp [openStreams, List.map_set, ReceiveContext.openStream_eq_none hfree]
  rw [hset]
  exact Leads.released hheld

theorem receiveHeader_settles (h : lm.receiveHeader frame clock = some lm') :
    lm.Settles (lm.headerEntries frame) lm' := by
  unfold receiveHeader at h
  unfold headerEntries
  by_cases haccept : frame.data.get 7 = 0 ∧ frame.data.get 1 ∈ lm.streamIds
  · rw [if_pos haccept] at h
    dsimp only at h
    cases hget : lm.receiveContext[lm.receiveContext.findIdx (!·.inUse)]? with
    | none =>
      have hfull : ¬ lm.receiveContext.any (!·.inUse) = true := by
        rw [List.any_eq_true, ← List.findIdx_lt_length]
        exact Nat.not_lt.mpr (List.getElem?_eq_none_iff.mp hget)
      rw [if_neg fun hc => hfull hc.2]
      rw [hget] at h
      cases h
      exact .nil lm
    | some c =>
      have hfree : c.inUse = false := by simpa using pred_of_found hget
      have hany : lm.receiveContext.any (!·.inUse) = true :=
        List.any_eq_true.mpr ⟨c, List.mem_of_getElem? hget, by simp [hfree]⟩
      rw [if_pos ⟨haccept, hany⟩]
      rw [hget] at h
      obtain ⟨buffer, -, heq⟩ := Option.bind_eq_some_iff.mp h
      cases heq
      refine ⟨?_, by simp, by simp⟩
      have hopen : lm.openStreams[lm.receiveContext.findIdx (!·.inUse)]? = some none := by
        rw [openStreams_getElem? hget, ReceiveContext.openStream_eq_none hfree]
      simpa [openStreams, List.map_set, ReceiveContext.openStream] using
        @Leads.claimed _ _ HandlerCall.streamId _ _ (frame.data.get 1) hopen
  · rw [if_neg haccept] at h
    rw [if_neg fun hc => haccept hc.1]
    cases h
    exact .nil lm

/-- A continuation packet releases its context exactly if it calls the handler. -/
theorem receiveFragment_settles (h : lm.receiveFragment frame clock = some lm') :
    lm.Settles (lm.packetEntries frame clock) lm' := by
  unfold packetEntries
  dsimp only
  rcases receiveFragment_cases h with ⟨hget, rfl⟩ | ⟨c, hget, huse, hcase⟩
  · rw [hget]
    exact .nil lm'
  · rw [hget]
    dsimp only
    rw [ite_not]
    split_ifs at hcase ⊢ with hseq
    · obtain ⟨c', call, htake, rfl⟩ := hcase
      rw [htake]
      rcases ReceiveContext.takeBytes_openStream 5 huse htake with
        ⟨rfl, hopen⟩ | ⟨x, rfl, hfree, hstream, hstatus⟩
      · refine ⟨?_, by simp, by simp⟩
        obtain ⟨hi, heq⟩ := List.getElem?_eq_some_iff.mp (openStreams_getElem? hget)
        have hstream : ReceiveContext.openStream { c' with
            expectedNextReceiveSequenceNum := c'.expectedNextReceiveSequenceNum + 1 } =
            lm.openStreams[lm.receiveContext.findIdx (·.matchesFrame frame)] := by
          rw [heq, ReceiveContext.openStream_eq_some huse]
          exact hopen
        have hsame : lm.openStreams = openStreams { lm with
            handled := lm.handled ++ (none : Option HandlerCall).toList
            receiveContext := lm.receiveContext.set
              (lm.receiveContext.findIdx (·.matchesFrame frame)) { c' with
                expectedNextReceiveSequenceNum := c'.expectedNextReceiveSequenceNum + 1 } } := by
          unfold openStreams
          rw [List.map_set, hstream]
          exact (List.set_getElem_self hi).symm
        rw [← hsame]
        exact .nil _
      · exact .release hget huse hstream hstatus hfree
    · rw [hcase]
      exact .release hget huse rfl (by simp [HandlerCall.Releases, ReceiveContext.report]) rfl

/-- The timeout check of one context, if the checks before it have left that context alone. -/
theorem timeOutContext_settles {a b : CBUSLongMessageEx} {i : ℕ}
    (hget : a.receiveContext[i]? = lm.receiveContext[i]?)
    (htimeout : a.receiveTimeout = lm.receiveTimeout) (h : timeOutContext clock a i = some b) :
    a.Settles (lm.timeoutEntries clock i) b ∧ b.receiveTimeout = lm.receiveTimeout ∧
      ∀ j, i ≠ j → b.receiveContext[j]? = a.receiveContext[j]? := by
  obtain ⟨c, hc, hcase⟩ := timeOutContext_cases h
  unfold timeoutEntries
  rw [← hget, hc, ← htimeout]
  dsimp only
  split_ifs at hcase ⊢ with htime
  · rw [hcase]
    refine ⟨?_, rfl, fun j hj => List.getElem?_set_ne hj⟩
    exact .release hc (inUse_of_timedOut htime) rfl
      (by simp [HandlerCall.Releases, ReceiveContext.report]) rfl
  · rw [hcase]
    exact ⟨.nil _, rfl, fun j _ => rfl⟩

theorem checkTimeouts_settles (indices : List ℕ) (hnodup : indices.Nodup)
    {a b : CBUSLongMessageEx}
    (hget : ∀ i ∈ indices, a.receiveContext[i]? = lm.receiveContext[i]?)
    (htimeout : a.receiveTimeout = lm.receiveTimeout)
    (h : indices.foldlM (timeOutContext clock) a = some b) :
    a.Settles (indices.flatMap (lm.timeoutEntries clock)) b := by
  induction indices generalizing a with
  | nil =>
    cases h
    exact .nil _
  | cons i indices ih =>
    obtain ⟨hi, hrestNodup⟩ := List.nodup_cons.mp hnodup
    obtain ⟨m, hm, hrest⟩ := runOption_cons_eq_some.mp h
    obtain ⟨hfirst, htimeout', hother⟩ :=
      timeOutContext_settles (hget i List.mem_cons_self) htimeout hm
    have hget' : ∀ j ∈ indices, m.receiveContext[j]? = lm.receiveContext[j]? := by
      intro j hj
      have hne : i ≠ j := fun he => hi (he ▸ hj)
      rw [hother j hne, hget j (List.mem_cons_of_mem _ hj)]
    exact hfirst.append (ih hrestNodup hget' htimeout' hrest)

/-- What a call claims and releases leads from the state before it to the state behind it. -/
theorem receive_settles {call : ReceiverCall} (h : lm.receive call = some lm') :
    lm.Settles (lm.entries call) lm' := by
  cases call with
  | fragment frame clock =>
    change lm.processReceivedMessageFragment frame clock = some lm' at h
    unfold processReceivedMessageFragment at h
    unfold entries
    dsimp only
    split_ifs at h ⊢
    · exact receiveHeader_settles h
    · exact receiveFragment_settles h
  | process clock =>
    obtain ⟨⟨ret, b⟩, hb, rfl⟩ := Option.map_eq_some_iff.mp h
    obtain ⟨a, ha, hrest⟩ := Option.bind_eq_some_iff.mp hb
    obtain ⟨⟨ret', s⟩, hs, heq⟩ := Option.bind_eq_some_iff.mp hrest
    cases Option.some.inj heq
    have hsettles := checkTimeouts_settles _ List.nodup_range (fun i _ => rfl) rfl ha
    -- the sending part touches neither the contexts nor the log of the handler
    have hsame : s.receiveContext = a.receiveContext ∧ s.handled = a.handled := by
      obtain ⟨c, -, hcase⟩ := sendNext_eq_some hs
      split_ifs at hcase
      · obtain ⟨data, index, n, -, -, -, rfl⟩ := hcase
        exact ⟨rfl, rfl⟩
      · rw [hcase.2]
        exact ⟨rfl, rfl⟩
    refine ⟨?_, hsame.2.trans hsettles.calls, hsettles.releases⟩
    have hopen : s.nextContext.openStreams = a.openStreams := congrArg (List.map _) hsame.1
    rw [hopen]
    exact hsettles.leads

end CBUSLongMessageEx

/-- The object, with the list of claims and releases. -/
structure ContextLedger where
  object : CBUSLongMessageEx
  log : List (Entry UInt8 HandlerCall) := []

namespace ContextLedger

def step (w : ContextLedger) (call : ReceiverCall) : Option ContextLedger := do
  let object ← w.object.receive call
  return { object := object, log := w.log ++ w.object.entries call }

/-- The contexts are conserved: the handler has been called once for every release, with a reason
and the stream ID that the context was claimed for; what has been claimed is reported or in use;
and a context that has been reported is reported again only after it is claimed again. -/
structure Conserved (w : ContextLedger) (contexts : ℕ) (handled : List HandlerCall) : Prop where
  calls : w.object.handled = handled ++ reports w.log
  count : claims w.log = (reports w.log).length + w.object.receiveContext.countP (·.inUse)
  reasons : ∀ call ∈ reports w.log, call.Releases
  leads : Leads HandlerCall.streamId (List.replicate contexts none) w.log w.object.openStreams
  once : ∀ before i call between call' after,
    w.log = before ++ .released i call :: (between ++ .released i call' :: after) →
      ∃ streamId, .claimed i streamId ∈ between

/-- The run so far accounts for the state. -/
def Inv (start : CBUSLongMessageEx) (w : ContextLedger) : Prop := start.Settles w.log w.object

variable {start : CBUSLongMessageEx} {w w' : ContextLedger} {call : ReceiverCall}

theorem Inv.step (h : w.Inv start) (hcall : w.step call = some w') : w'.Inv start := by
  obtain ⟨object, hobject, heq⟩ := Option.bind_eq_some_iff.mp hcall
  cases heq
  exact h.append (CBUSLongMessageEx.receive_settles hobject)

theorem held_openStreams (lm : CBUSLongMessageEx) :
    held lm.openStreams = lm.receiveContext.countP (·.inUse) := by
  unfold held CBUSLongMessageEx.openStreams
  rw [List.countP_map]
  apply List.countP_congr
  intro c _
  cases h : c.inUse <;> simp [ReceiveContext.openStream, h]

theorem Inv.conserved {contexts : ℕ} (h : w.Inv start)
    (hstart : start.openStreams = List.replicate contexts none) :
    w.Conserved contexts start.handled where
  calls := h.calls
  count := by
    have hcount := h.leads.conserved
    rw [hstart, held_openStreams] at hcount
    simpa [held, List.countP_replicate] using hcount
  reasons := h.releases
  leads := hstart ▸ h.leads
  once := by
    intro before i call between call' after heq
    have hleads := h.leads
    rw [heq] at hleads
    exact hleads.reported_once

theorem allocateContexts_openStreams (lm : CBUSLongMessageEx) (numReceive : UInt8) (len : UInt32)
    (numSend : UInt8) (receiveHeap : ℕ → ReceiveContext) (sendHeap : ℕ → SendContext)
    (bufferHeap : ℕ → ℕ → UInt8) :
    (lm.allocateContexts numReceive len numSend receiveHeap sendHeap bufferHeap).openStreams =
      List.replicate numReceive.toNat none := by
  unfold CBUSLongMessageEx.openStreams CBUSLongMessageEx.allocateContexts
  simp [List.eq_replicate_iff, ReceiveContext.openStream]

/-- After an allocation, whatever frames are received and whenever `process` is called, the receive
contexts are conserved. -/
theorem receive_conserved (lm : CBUSLongMessageEx) (numReceive : UInt8) (len : UInt32)
    (numSend : UInt8) (receiveHeap : ℕ → ReceiveContext) (sendHeap : ℕ → SendContext)
    (bufferHeap : ℕ → ℕ → UInt8) (calls : List ReceiverCall) :
    ∀ w, runOption ContextLedger.step
        ⟨lm.allocateContexts numReceive len numSend receiveHeap sendHeap bufferHeap, []⟩ calls =
          some w → w.Conserved numReceive.toNat lm.handled := by
  intro w hrun
  have hstep : ∀ (a : ContextLedger) (call : ReceiverCall) (b : ContextLedger),
      a.Inv (lm.allocateContexts numReceive len numSend receiveHeap sendHeap bufferHeap) →
        a.step call = some b →
          b.Inv (lm.allocateContexts numReceive len numSend receiveHeap sendHeap bufferHeap) :=
    fun a call b ha hb => ha.step hb
  have hstart : Inv (lm.allocateContexts numReceive len numSend receiveHeap sendHeap bufferHeap)
      ⟨lm.allocateContexts numReceive len numSend receiveHeap sendHeap bufferHeap, []⟩ := .nil _
  exact (runOption_invariant hstep hstart hrun).conserved (allocateContexts_openStreams ..)

/-- Two headers for one context, a fragment that does not fit its buffer, a header again, and the
timeout. -/
def crowded : List ReceiverCall :=
  [.fragment (headerFrame 1 7 7 0) fun _ => 0, .fragment (headerFrame 2 7 7 0) fun _ => 0,
    .fragment (dataFrame 1 7 [1, 2, 3, 4, 5, 6, 7] 0) fun _ => 0,
    .fragment (headerFrame 1 7 7 0) fun _ => 0, .process fun _ => 3]

def oneContext : CBUSLongMessageEx where
  cbusObject := CBUSbase.smallModule
  streamIds := [7]
  messagehandler := true
  receiveTimeout := 2

theorem receive_conserved_crowded :
    ∃ w, runOption ContextLedger.step
        ⟨oneContext.allocateContexts 1 3 1 CBUSLongMessageEx.rawReceive CBUSLongMessageEx.rawSend
          fun _ _ => 0, []⟩ crowded = some w ∧
      claims w.log = 2 ∧ w.Conserved 1 [] := by
  have hrun : (runOption ContextLedger.step
      ⟨oneContext.allocateContexts 1 3 1 CBUSLongMessageEx.rawReceive CBUSLongMessageEx.rawSend
        fun _ _ => 0, []⟩ crowded).map (fun w => claims w.log) = some 2 := rfl
  obtain ⟨w, hw, hclaims⟩ := Option.map_eq_some_iff.mp hrun
  exact ⟨w, hw, hclaims, receive_conserved oneContext 1 3 1 CBUSLongMessageEx.rawReceive
    CBUSLongMessageEx.rawSend (fun _ _ => 0) crowded w hw⟩

end ContextLedger
end CBUSPicoLib
