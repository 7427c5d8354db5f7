import CBUSPicoLib.Library.SessionTable
import CBUSPicoLib.LongMessage.RoundTrip

/-!
# Several streams at a time

The receive contexts of `CBUSLongMessageEx` are a table of sessions. A session is
known by the CAN ID of the sender and the stream ID; a context that is in use
serves one session. However the frames of several messages are interleaved, each
message finds its own context as it left it.
-/

namespace CBUSPicoLib

open Runs SessionTable

/-- The session a frame belongs to: the CAN ID of the sender and the stream ID. -/
def CANFrame.sessionKey (frame : CANFrame) : UInt8 × UInt8 :=
  ((frame.id &&& 0x7f).toUInt8, frame.data.get 1)

def ReceiveContext.sessionKey (c : ReceiveContext) : Option (UInt8 × UInt8) :=
  if c.inUse then some (c.senderCanid, c.receiveStreamId) else none

/-- A long message as its frames show it. -/
structure StreamMessage where
  id : UInt32
  streamId : UInt8
  bytes : List UInt8
  crc : UInt16

namespace StreamMessage

def frames (m : StreamMessage) : List CANFrame := messageFrames m.id m.streamId m.bytes m.crc

def sessionKey (m : StreamMessage) : UInt8 × UInt8 := ((m.id &&& 0x7f).toUInt8, m.streamId)

/-- The frames of the session of a message that were handed over. -/
def arrived (m : StreamMessage) (calls : List ReceiverCall) : List CANFrame :=
  (fragments calls).filter fun frame => frame.sessionKey = m.sessionKey

def isOpen (m : StreamMessage) (calls : List ReceiverCall) : Bool :=
  0 < (m.arrived calls).length && (m.arrived calls).length < m.frames.length

/-- A message that the receiver has subscribed to and has room for. -/
structure Fits (m : StreamMessage) (lm : CBUSLongMessageEx) : Prop where
  subscribed : m.streamId ∈ lm.streamIds
  nonempty : 1 ≤ m.bytes.length
  room : m.bytes.length ≤ min lm.receiveBufferLen.toNat 1275
  crc : AcceptedCrc lm.useCrc m.bytes m.crc

theorem Fits.of_eq {m : StreamMessage} {lm lm' : CBUSLongMessageEx} (h : m.Fits lm)
    (hstreams : lm'.streamIds = lm.streamIds) (hlen : lm'.receiveBufferLen = lm.receiveBufferLen)
    (hcrc : lm'.useCrc = lm.useCrc) : m.Fits lm' where
  subscribed := hstreams ▸ h.subscribed
  nonempty := h.nonempty
  room := hlen ▸ h.room
  crc := hcrc ▸ h.crc

end StreamMessage

/-- The calls hand over the frames of the messages and no others. The messages
belong to different sessions, the frames of each arrive in order, and at no time
are more messages open than there are contexts. -/
structure Interleaves (messages : List StreamMessage) (contexts : ℕ) (calls : List ReceiverCall) :
    Prop where
  distinct : (messages.map (·.sessionKey)).Nodup
  inOrder : ∀ m ∈ messages, m.arrived calls = m.frames
  known : ∀ frame ∈ fragments calls, ∃ m ∈ messages, frame.sessionKey = m.sessionKey
  bounded : ∀ past, past <+: calls → messages.countP (·.isOpen past) ≤ contexts

namespace StreamMessage

variable {m : StreamMessage} {past : List ReceiverCall} {frame : CANFrame} {clock : Clock}

theorem length_frames (m : StreamMessage) :
    m.frames.length = fragmentCount m.bytes.length + 1 := by
  simp [frames, messageFrames, dataFrames]

theorem frames_zero (h : m.frames[0]? = some frame) :
    frame = headerFrame m.id m.streamId m.bytes.length m.crc := by
  simpa [frames, messageFrames, eq_comm] using h

theorem frames_succ {k : ℕ} (h : m.frames[k + 1]? = some frame) :
    5 * k < m.bytes.length ∧ frame = dataFrame m.id m.streamId m.bytes k := by
  have hk : k + 1 < m.frames.length := (List.getElem?_eq_some_iff.mp h).1
  rw [length_frames] at hk
  have hlt : k < fragmentCount m.bytes.length := by omega
  refine ⟨lt_fragmentCount.mp hlt, ?_⟩
  simpa [frames, messageFrames, dataFrames, hlt, eq_comm] using h

theorem arrived_process (m : StreamMessage) (past : List ReceiverCall) (clock : Clock) :
    m.arrived (past ++ [ReceiverCall.process clock]) = m.arrived past := by
  simp [arrived, fragments]

theorem arrived_fragment (h : frame.sessionKey = m.sessionKey) :
    m.arrived (past ++ [ReceiverCall.fragment frame clock]) = m.arrived past ++ [frame] := by
  simp [arrived, fragments, h]

theorem arrived_other (h : frame.sessionKey ≠ m.sessionKey) :
    m.arrived (past ++ [ReceiverCall.fragment frame clock]) = m.arrived past := by
  simp [arrived, fragments, h]

end StreamMessage

namespace ReceiveContext

variable {c : ReceiveContext} {msg : List UInt8} {streamId : UInt8} {id : UInt32} {crc : UInt16}
  {bufferLen : UInt32} {k : ℕ}

theorem Receiving.sessionKey_eq (h : c.Receiving msg streamId id crc bufferLen k) :
    c.sessionKey = some ((id &&& 0x7f).toUInt8, streamId) := by
  have hcanid : c.senderCanid = (id &&& 0x7f).toUInt8 := by
    rw [h.sender, UInt8.toUInt8_toUInt32]
  simp [ReceiveContext.sessionKey, h.inUse, h.stream, hcanid]

theorem isNone_sessionKey (c : ReceiveContext) : c.sessionKey.isNone = !c.inUse := by
  unfold ReceiveContext.sessionKey
  cases c.inUse <;> rfl

theorem inUse_eq_false_of_sessionKey (h : c.sessionKey = none) : c.inUse = false := by
  have hnone := c.isNone_sessionKey
  simpa [h] using hnone

theorem matchesFrame_eq_decide (c : ReceiveContext) (frame : CANFrame) :
    c.matchesFrame frame = decide (c.sessionKey = some frame.sessionKey) := by
  have hcanid : (c.senderCanid.toUInt32 == frame.id &&& 0x7f) =
      decide (c.senderCanid = (frame.id &&& 0x7f).toUInt8) := by
    rw [Bool.eq_iff_iff, beq_iff_eq, decide_eq_true_eq, ← UInt8.toUInt32_inj,
      toUInt32_toUInt8_canid]
  unfold matchesFrame ReceiveContext.sessionKey CANFrame.sessionKey
  rw [hcanid]
  cases c.inUse
  · rfl
  · simp [Bool.beq_eq_decide_eq, Bool.and_comm]

end ReceiveContext

namespace CBUSLongMessageEx

variable {lm lm' : CBUSLongMessageEx}

/-- What is being sent lies in its buffer, so that sending does not fault. -/
structure SendsSafely (lm : CBUSLongMessageEx) : Prop where
  buffers : ∀ c ∈ lm.sendContext, c.inUse = true → c.sendBufferLen.toNat ≤ c.buffer.length
  turn : lm.context.toNat < lm.sendContext.length

/-- Only the sending side differs. -/
def SameReception (lm lm' : CBUSLongMessageEx) : Prop :=
  ∃ n cs i, lm' = { lm with cbusObject := n, sendContext := cs, context := i }

theorem SendsSafely.sendNext (h : lm.SendsSafely) (now sent : UInt32) :
    ∃ ret lm', lm.sendNext now sent = some (ret, lm') ∧ lm'.SendsSafely ∧ lm.SameReception lm' := by
  obtain ⟨c, hget⟩ : ∃ c, lm.sendContext[lm.context.toNat]? = some c :=
    ⟨_, List.getElem?_eq_getElem h.turn⟩
  unfold CBUSLongMessageEx.sendNext
  rw [hget, Option.bind_eq_bind, Option.bind_some]
  split_ifs with hsend
  · have hbuf := h.buffers c (List.mem_of_getElem? hget) hsend.1
    obtain ⟨⟨data, index⟩, hfill⟩ := fillPayload_isSome hbuf 5
      #v[0, c.sendStreamId, c.sendSequenceNum.toUInt8, 0, 0, 0, 0, 0] c.sendBufferIndex
    rw [hfill, Option.bind_eq_bind, Option.bind_some]
    refine ⟨_, _, rfl, ⟨?_, ?_⟩, _, _, _, rfl⟩
    · intro d hd huse
      rcases List.mem_or_eq_of_mem_set hd with hd | rfl
      · exact h.buffers d hd huse
      · -- the context is released or keeps its buffer
        split_ifs at huse ⊢
        exact hbuf
    · exact lt_of_lt_of_eq h.turn List.length_set.symm
  · exact ⟨true, lm, rfl, h, _, _, _, rfl⟩

theorem receive_process_inTime (h : lm.SendsSafely) {clock : Clock}
    (ht : lm.InTime (.process clock)) :
    ∃ lm', lm.receive (.process clock) = some lm' ∧ lm'.SendsSafely ∧ lm.SameReception lm' := by
  obtain ⟨ret, m, hm, hsafe, n, cs, i, rfl⟩ := h.sendNext (clock lm.receiveContext.length)
    (clock (lm.receiveContext.length + 1))
  refine ⟨_, ?_, ⟨?_, nextContext_turn hsafe.turn⟩, n, cs, _, rfl⟩
  · change (lm.process clock).map (·.2) = _
    unfold process
    rw [checkTimeouts_inTime ht, Option.bind_eq_bind, Option.bind_some]
    dsimp only
    rw [hm]
    rfl
  · exact hsafe.buffers

variable {messages : List StreamMessage} {handled : List HandlerCall} {past : List ReceiverCall}
  {m : StreamMessage} {frame : CANFrame} {clock : Clock}

def serving (lm : CBUSLongMessageEx) (k : UInt8 × UInt8) : Option ReceiveContext :=
  session ReceiveContext.sessionKey lm.receiveContext k

/-- The state of a session: no context before the header and after the last data
packet, and in between a context that holds the bytes that have arrived. -/
def Stage (bufferLen : UInt32) (m : StreamMessage) (past : List ReceiverCall)
    (context : Option ReceiveContext) : Prop :=
  if m.isOpen past then
    ∃ c, context = some c ∧
      c.Receiving m.bytes m.streamId m.id m.crc bufferLen ((m.arrived past).length - 1)
  else context = none

/-- The messages that have been received completely were handed over, each once. -/
def Logged (messages : List StreamMessage) (past : List ReceiverCall) (handled : List HandlerCall) :
    Prop :=
  ∃ order : List StreamMessage, order.Nodup ∧
    (∀ m, m ∈ order ↔ m ∈ messages ∧ m.frames.length ≤ (m.arrived past).length) ∧
    List.Forall₂ (fun m call => call.HandsOver m.bytes m.streamId) order handled

/-- The table of contexts mirrors the messages that are open. -/
structure Demultiplexes (lm : CBUSLongMessageEx) (messages : List StreamMessage)
    (handled : List HandlerCall) (past : List ReceiverCall) : Prop where
  fits : ∀ m ∈ messages, m.Fits lm
  handler : lm.messagehandler = true
  safely : lm.SendsSafely
  allocated : ∀ c ∈ lm.receiveContext, lm.receiveBufferLen.toNat ≤ c.buffer.length
  distinct : Distinct ReceiveContext.sessionKey lm.receiveContext
  known : ∀ k, lm.serving k ≠ none → ∃ m ∈ messages, m.sessionKey = k
  stage : ∀ m ∈ messages, Stage lm.receiveBufferLen m past (lm.serving m.sessionKey)
  log : ∃ calls, lm.handled = handled ++ calls ∧ Logged messages past calls

theorem Logged.of_arrived {past' : List ReceiverCall} (h : Logged messages past handled)
    (harrived : ∀ m ∈ messages, m.frames.length ≤ (m.arrived past').length ↔
      m.frames.length ≤ (m.arrived past).length) : Logged messages past' handled := by
  obtain ⟨order, hnodup, hmem, hover⟩ := h
  refine ⟨order, hnodup, fun m => ?_, hover⟩
  rw [hmem]
  exact and_congr_right fun hm => (harrived m hm).symm

theorem sessionKey_ne (hdistinct : (messages.map (·.sessionKey)).Nodup) (hm : m ∈ messages)
    (hkey : frame.sessionKey = m.sessionKey) {m' : StreamMessage} (hm' : m' ∈ messages)
    (hne : m' ≠ m) : frame.sessionKey ≠ m'.sessionKey :=
  fun e => hne (List.inj_on_of_nodup_map hdistinct hm' hm (e.symm.trans hkey))

theorem Logged.complete (h : Logged messages past handled)
    (hdistinct : (messages.map (·.sessionKey)).Nodup) (hm : m ∈ messages)
    (hkey : frame.sessionKey = m.sessionKey) (hlast : (m.arrived past).length + 1 = m.frames.length)
    {call : HandlerCall} (hcall : call.HandsOver m.bytes m.streamId) :
    Logged messages (past ++ [ReceiverCall.fragment frame clock]) (handled ++ [call]) := by
  obtain ⟨order, hnodup, hmem, hover⟩ := h
  have hnew : m ∉ order := by
    rw [hmem]
    omega
  refine ⟨order ++ [m], ?_, fun m' => ?_, List.rel_append hover (by simpa using hcall)⟩
  · exact hnodup.append (List.nodup_singleton m) (by simpa using hnew)
  · rw [List.mem_append, List.mem_singleton, hmem]
    by_cases hmm : m' = m
    · subst hmm
      rw [StreamMessage.arrived_fragment hkey, List.length_append, List.length_singleton]
      simp [hm, hlast]
    · have hother : m' ∈ messages → m'.arrived (past ++ [ReceiverCall.fragment frame clock]) =
          m'.arrived past := fun hm' =>
        StreamMessage.arrived_other (sessionKey_ne hdistinct hm hkey hm' hmm)
      constructor
      · rintro (⟨hm', hle⟩ | rfl)
        · exact ⟨hm', by rwa [hother hm']⟩
        · exact absurd rfl hmm
      · rintro ⟨hm', hle⟩
        rw [hother hm'] at hle
        exact Or.inl ⟨hm', hle⟩

/-- A frame of one message either opens it, carries on with it or ends it; the
other messages keep their contexts. -/
theorem Demultiplexes.update (h : lm.Demultiplexes messages handled past)
    (hdistinct : (messages.map (·.sessionKey)).Nodup) (hm : m ∈ messages)
    (hkey : frame.sessionKey = m.sessionKey) {i : ℕ} {c : ReceiveContext}
    {context : Option ReceiveContext} {calls : List HandlerCall}
    (hset : Distinct ReceiveContext.sessionKey (lm.receiveContext.set i c) ∧
      session ReceiveContext.sessionKey (lm.receiveContext.set i c) =
        Function.update lm.serving m.sessionKey context)
    (halloc : lm.receiveBufferLen.toNat ≤ c.buffer.length)
    (hstage : Stage lm.receiveBufferLen m (past ++ [ReceiverCall.fragment frame clock]) context)
    (hlog : calls = [] ∧ (m.arrived past).length + 1 < m.frames.length ∨
      (m.arrived past).length + 1 = m.frames.length ∧
        ∃ call : HandlerCall, calls = [call] ∧ call.HandsOver m.bytes m.streamId) :
    Demultiplexes { lm with
      receiveContext := lm.receiveContext.set i c
      handled := lm.handled ++ calls } messages handled
        (past ++ [ReceiverCall.fragment frame clock]) where
  fits m' hm' := (h.fits m' hm').of_eq rfl rfl rfl
  handler := h.handler
  safely := ⟨h.safely.buffers, h.safely.turn⟩
  allocated := by
    intro d hd
    rcases List.mem_or_eq_of_mem_set hd with hd | rfl
    · exact h.allocated d hd
    · exact halloc
  distinct := hset.1
  known := by
    intro k hk
    by_cases hkm : k = m.sessionKey
    · exact ⟨m, hm, hkm.symm⟩
    · apply h.known k
      unfold serving at hk
      rwa [hset.2, Function.update_of_ne hkm] at hk
  stage := by
    intro m' hm'
    unfold serving
    rw [hset.2]
    by_cases hmm : m' = m
    · subst hmm
      rw [Function.update_self]
      exact hstage
    · have hne := sessionKey_ne hdistinct hm hkey hm' hmm
      have hold := h.stage m' hm'
      rw [Function.update_of_ne (hkey ▸ hne.symm)]
      unfold Stage StreamMessage.isOpen at hold ⊢
      rwa [StreamMessage.arrived_other hne]
  log := by
    obtain ⟨calls₀, hhandled, hlogged⟩ := h.log
    rcases hlog with ⟨rfl, hmore⟩ | ⟨hlast, call, rfl, hover⟩
    · refine ⟨calls₀, by simpa using hhandled, hlogged.of_arrived fun m' hm' => ?_⟩
      by_cases hmm : m' = m
      · subst hmm
        rw [StreamMessage.arrived_fragment hkey, List.length_append, List.length_singleton]
        omega
      · rw [StreamMessage.arrived_other (sessionKey_ne hdistinct hm hkey hm' hmm)]
    · refine ⟨calls₀ ++ [call], ?_, hlogged.complete hdistinct hm hkey hlast hover⟩
      simp [hhandled]

theorem Demultiplexes.exists_free (h : lm.Demultiplexes messages handled past)
    (hdistinct : (messages.map (·.sessionKey)).Nodup) (hm : m ∈ messages)
    (hkey : frame.sessionKey = m.sessionKey) (hnone : lm.serving m.sessionKey = none)
    (hopen : m.isOpen (past ++ [ReceiverCall.fragment frame clock]) = true)
    (hbound : messages.countP (·.isOpen (past ++ [ReceiverCall.fragment frame clock])) ≤
      lm.receiveContext.length) :
    ∃ c, lm.receiveContext[lm.receiveContext.findIdx (!·.inUse)]? = some c ∧
      c.sessionKey = none := by
  have hnodup : (m.sessionKey :: keys ReceiveContext.sessionKey lm.receiveContext).Nodup :=
    List.nodup_cons.mpr ⟨session_eq_none.mp hnone, h.distinct⟩
  have hsub : m.sessionKey :: keys ReceiveContext.sessionKey lm.receiveContext ⊆
      (messages.filter (·.isOpen (past ++ [ReceiverCall.fragment frame clock]))).map
        (·.sessionKey) := by
    intro k hk
    rw [List.mem_map]
    rcases List.mem_cons.mp hk with rfl | hk
    · exact ⟨m, List.mem_filter.mpr ⟨hm, hopen⟩, rfl⟩
    · have hserved : lm.serving k ≠ none := fun hnil => session_eq_none.mp hnil hk
      obtain ⟨m', hm', rfl⟩ := h.known k hserved
      have hstage := h.stage m' hm'
      unfold Stage at hstage
      split_ifs at hstage with hopen'
      · have hne : m' ≠ m := by
          rintro rfl
          exact hserved hnone
        refine ⟨m', List.mem_filter.mpr ⟨hm', ?_⟩, rfl⟩
        unfold StreamMessage.isOpen at hopen' ⊢
        rwa [StreamMessage.arrived_other (sessionKey_ne hdistinct hm hkey hm' hne)]
      · exact absurd hstage hserved
  have hlt : (keys ReceiveContext.sessionKey lm.receiveContext).length <
      lm.receiveContext.length := by
    have hle := (List.subperm_of_subset hnodup hsub).length_le
    rw [List.length_cons, List.length_map, ← List.countP_eq_length_filter] at hle
    omega
  simpa only [ReceiveContext.isNone_sessionKey] using SessionTable.exists_free hlt

theorem Demultiplexes.header (h : lm.Demultiplexes messages handled past)
    (hdistinct : (messages.map (·.sessionKey)).Nodup) (hm : m ∈ messages)
    (hfirst : (m.arrived past).length = 0)
    (hframe : frame = headerFrame m.id m.streamId m.bytes.length m.crc)
    (hbound : messages.countP (·.isOpen (past ++ [ReceiverCall.fragment frame clock])) ≤
      lm.receiveContext.length) :
    ∃ lm', lm.processReceivedMessageFragment frame clock = some lm' ∧
      lm'.Demultiplexes messages handled (past ++ [ReceiverCall.fragment frame clock]) ∧
      lm'.receiveContext.length = lm.receiveContext.length := by
  have hkey : frame.sessionKey = m.sessionKey := by
    rw [hframe]
    rfl
  have hfits := h.fits m hm
  have hroom := hfits.room
  have hcount : 0 < fragmentCount m.bytes.length := lt_fragmentCount.mpr hfits.nonempty
  have hframes := m.length_frames
  have harrived : (m.arrived (past ++ [ReceiverCall.fragment frame clock])).length = 1 := by
    rw [StreamMessage.arrived_fragment hkey, List.length_append, hfirst]
    rfl
  have hopen : m.isOpen (past ++ [ReceiverCall.fragment frame clock]) = true := by
    simp [StreamMessage.isOpen, harrived, hframes, hcount]
  have hnone : lm.serving m.sessionKey = none := by
    have hstage := h.stage m hm
    simpa [Stage, StreamMessage.isOpen, hfirst] using hstage
  obtain ⟨c, hc, hfree⟩ := h.exists_free hdistinct hm hkey hnone hopen hbound
  have hfit : m.bytes.length ≤ lm.receiveBufferLen.toNat := by omega
  have hmax : m.bytes.length ≤ 65535 := by omega
  obtain ⟨c', hstep, hc'⟩ := receiveHeader_starts rfl hc hfits.subscribed hfit
    (h.allocated c (List.mem_of_getElem? hc)) hmax m.id m.crc clock
  have hset := h.distinct.serve hc (Or.inr ⟨hfree, hnone⟩) hc'.sessionKey_eq
  have hstage :
      Stage lm.receiveBufferLen m (past ++ [ReceiverCall.fragment frame clock]) (some c') := by
    simpa [Stage, hopen, harrived] using hc'
  have hnil : ([] : List HandlerCall) = [] := rfl
  have hnext := h.update hdistinct hm hkey hset hc'.collecting.allocated hstage
    (Or.inl ⟨hnil, by omega⟩)
  rw [List.append_nil] at hnext
  rw [← hframe] at hstep
  exact ⟨_, hstep, hnext, List.length_set⟩

theorem Demultiplexes.data (h : lm.Demultiplexes messages handled past)
    (hdistinct : (messages.map (·.sessionKey)).Nodup) (hm : m ∈ messages) {k : ℕ}
    (hcount : (m.arrived past).length = k + 1) (hmore : 5 * k < m.bytes.length)
    (hframe : frame = dataFrame m.id m.streamId m.bytes k) :
    ∃ lm', lm.processReceivedMessageFragment frame clock = some lm' ∧
      lm'.Demultiplexes messages handled (past ++ [ReceiverCall.fragment frame clock]) ∧
      lm'.receiveContext.length = lm.receiveContext.length := by
  have hkey : frame.sessionKey = m.sessionKey := by
    rw [hframe]
    rfl
  have hfits := h.fits m hm
  have hroom := hfits.room
  have hk : k < fragmentCount m.bytes.length := lt_fragmentCount.mpr hmore
  have hframes := m.length_frames
  have harrived : (m.arrived (past ++ [ReceiverCall.fragment frame clock])).length = k + 2 := by
    rw [StreamMessage.arrived_fragment hkey, List.length_append, hcount]
    rfl
  obtain ⟨c, hserving, hc⟩ : ∃ c, lm.serving m.sessionKey = some c ∧
      c.Receiving m.bytes m.streamId m.id m.crc lm.receiveBufferLen k := by
    have hstage := h.stage m hm
    simpa [Stage, StreamMessage.isOpen, hcount, hframes, hk] using hstage
  have hget : lm.receiveContext[lm.receiveContext.findIdx (·.matchesFrame frame)]? = some c := by
    simp only [ReceiveContext.matchesFrame_eq_decide, hkey]
    exact hserving
  rw [hframe] at hget
  have hmax : m.bytes.length ≤ 65535 := by omega
  have hwrap : k + 1 < 256 := by omega
  obtain ⟨c', calls, hstep, hcase⟩ := receiveFragment_continues rfl hget hc hmore hmax hwrap
    h.handler clock
  rw [← hframe] at hget hstep
  have hlt : 5 * (k + 1) < m.bytes.length ↔ k + 2 < m.frames.length := by
    rw [← lt_fragmentCount, hframes]
    omega
  refine ⟨_, hstep, ?_, List.length_set⟩
  split_ifs at hcase with hgoes
  · obtain ⟨hnil, hc'⟩ := hcase
    have hset := h.distinct.serve hget (Or.inl hc.sessionKey_eq) hc'.sessionKey_eq
    refine h.update hdistinct hm hkey hset hc'.collecting.allocated ?_ (Or.inl ⟨hnil, ?_⟩)
    · simpa [Stage, StreamMessage.isOpen, harrived, hlt.mp hgoes] using hc'
    · have := hlt.mp hgoes
      omega
  · obtain ⟨hfree, halloc, call, hcall, hpasses⟩ := hcase
    have hover := hpasses.handsOver hfits.crc
    have hnone : c'.sessionKey = none := by simp [ReceiveContext.sessionKey, hfree]
    have hset := h.distinct.release hget hc.sessionKey_eq hnone
    have hend : ¬ k + 2 < m.frames.length := fun hl => hgoes (hlt.mpr hl)
    refine h.update hdistinct hm hkey hset halloc ?_ (Or.inr ⟨by omega, call, hcall, hover⟩)
    simp [Stage, StreamMessage.isOpen, harrived, hend]

/-- A receiver that waits for messages: all contexts are free, and there is a
handler to call. -/
structure Ready (lm : CBUSLongMessageEx) : Prop where
  free : ∀ c ∈ lm.receiveContext, c.inUse = false
  allocated : ∀ c ∈ lm.receiveContext, lm.receiveBufferLen.toNat ≤ c.buffer.length
  handler : lm.messagehandler = true
  safely : lm.SendsSafely

theorem Ready.demultiplexes (h : lm.Ready) (hfits : ∀ m ∈ messages, m.Fits lm) :
    lm.Demultiplexes messages lm.handled [] := by
  have hfree : ∀ c ∈ lm.receiveContext, c.sessionKey = none := by
    intro c hc
    simp [ReceiveContext.sessionKey, h.free c hc]
  have hnone : ∀ k, lm.serving k = none := by
    intro k
    unfold serving
    rw [session_eq_none, mem_keys]
    rintro ⟨c, hc, hk⟩
    simp [hfree c hc] at hk
  refine ⟨hfits, h.handler, h.safely, h.allocated, distinct_of_free hfree,
    fun k hk => absurd (hnone k) hk, fun m _ => ?_, [], by simp, [], List.nodup_nil, fun m => ?_,
    List.Forall₂.nil⟩
  · simp [Stage, StreamMessage.isOpen, StreamMessage.arrived, fragments, hnone]
  · simp [StreamMessage.arrived, fragments, StreamMessage.length_frames]

theorem Demultiplexes.process (h : lm.Demultiplexes messages handled past)
    (hsafe : lm'.SendsSafely) (hsame : lm.SameReception lm') (clock : Clock) :
    lm'.Demultiplexes messages handled (past ++ [ReceiverCall.process clock]) := by
  obtain ⟨n, cs, i, rfl⟩ := hsame
  obtain ⟨calls, hhandled, hlogged⟩ := h.log
  refine ⟨fun m hm => (h.fits m hm).of_eq rfl rfl rfl, h.handler, hsafe, h.allocated, h.distinct,
    h.known, fun m hm => ?_, calls, hhandled, hlogged.of_arrived fun m _ => ?_⟩
  · have hstage := h.stage m hm
    unfold Stage StreamMessage.isOpen at hstage ⊢
    rwa [m.arrived_process]
  · rw [m.arrived_process]

theorem Demultiplexes.step {call : ReceiverCall} {rest : List ReceiverCall}
    (h : lm.Demultiplexes messages handled past)
    (hcalls : Interleaves messages lm.receiveContext.length (past ++ call :: rest))
    (ht : lm.InTime call) :
    ∃ lm', lm.receive call = some lm' ∧ lm'.Demultiplexes messages handled (past ++ [call]) ∧
      lm'.receiveContext.length = lm.receiveContext.length := by
  cases call with
  | process clock =>
    obtain ⟨lm', hstep, hsafe, hsame⟩ := receive_process_inTime h.safely ht
    refine ⟨lm', hstep, h.process hsafe hsame clock, ?_⟩
    obtain ⟨n, cs, i, rfl⟩ := hsame
    rfl
  | fragment frame clock =>
    have hbound := hcalls.bounded (past ++ [ReceiverCall.fragment frame clock]) ⟨rest, by simp⟩
    obtain ⟨m, hm, hkey⟩ := hcalls.known frame (by simp [fragments])
    have hframe : m.frames[(m.arrived past).length]? = some frame := by
      rw [← hcalls.inOrder m hm]
      simp [StreamMessage.arrived, fragments, hkey]
    -- the header or a data packet, by the number of frames that have arrived
    cases hcount : (m.arrived past).length with
    | zero =>
      rw [hcount] at hframe
      exact h.header hcalls.distinct hm hcount (StreamMessage.frames_zero hframe) hbound
    | succ k =>
      rw [hcount] at hframe
      obtain ⟨hmore, hdata⟩ := StreamMessage.frames_succ hframe
      exact h.data hcalls.distinct hm hcount hmore hdata

theorem Demultiplexes.run (calls : List ReceiverCall) (h : lm.Demultiplexes messages handled past)
    (hcalls : Interleaves messages lm.receiveContext.length (past ++ calls))
    (ht : GuardedOption receive InTime lm calls) :
    ∃ lm', runOption receive lm calls = some lm' ∧
      lm'.Demultiplexes messages handled (past ++ calls) := by
  induction calls generalizing lm past with
  | nil =>
    rw [List.append_nil]
    exact ⟨lm, rfl, h⟩
  | cons call calls ih =>
    obtain ⟨m, hm, hnext, hlen⟩ := h.step hcalls ht.1
    rw [List.append_cons] at hcalls ⊢
    rw [runOption_cons hm]
    exact ih hnext (hlen ▸ hcalls) (ht.2 m hm)

theorem ready_allocateContexts (lm : CBUSLongMessageEx) (numReceive : UInt8) (len : UInt32)
    {numSend : UInt8} (hturn : lm.context < numSend) (receiveHeap : ℕ → ReceiveContext)
    (sendHeap : ℕ → SendContext) (bufferHeap : ℕ → ℕ → UInt8) (streamIds : List UInt8) :
    ((lm.allocateContexts numReceive len numSend receiveHeap sendHeap bufferHeap).subscribe
      streamIds true).Ready := by
  obtain ⟨hreceive, hsend, -, hlen⟩ := allocateContexts_free lm numReceive len numSend receiveHeap
    sendHeap bufferHeap
  refine ⟨fun c hc => (hreceive c hc).1, fun c hc => (hreceive c hc).2.ge, rfl, ?_, ?_⟩
  · intro c hc huse
    simp [hsend c hc] at huse
  · exact lt_of_lt_of_eq (UInt8.lt_iff_toNat_lt.mp hturn) hlen.symm

/-- However the frames of the messages are interleaved, the handler is called
exactly once for each message, with the whole message, and all contexts are free
at the end. -/
theorem demultiplexes_run (hready : lm.Ready) (hfits : ∀ m ∈ messages, m.Fits lm)
    {calls : List ReceiverCall} (hcalls : Interleaves messages lm.receiveContext.length calls)
    (ht : GuardedOption receive InTime lm calls) :
    ∃ (lm' : CBUSLongMessageEx) (order : List StreamMessage) (handed : List HandlerCall),
      runOption receive lm calls = some lm' ∧ order.Perm messages ∧
      lm'.handled = lm.handled ++ handed ∧
      List.Forall₂ (fun m call => call.HandsOver m.bytes m.streamId) order handed ∧
      ∀ c ∈ lm'.receiveContext, c.inUse = false := by
  obtain ⟨lm', hrun, h⟩ := (hready.demultiplexes hfits).run calls hcalls ht
  rw [List.nil_append] at h
  have hcompleted : ∀ m ∈ messages, (m.arrived calls).length = m.frames.length :=
    fun m hm => congrArg List.length (hcalls.inOrder m hm)
  obtain ⟨handed, hhandled, order, hnodup, hmem, hover⟩ := h.log
  refine ⟨lm', order, handed, hrun, ?_, hhandled, hover, fun c hc => ?_⟩
  · rw [List.perm_ext_iff_of_nodup hnodup hcalls.distinct.of_map]
    intro m
    rw [hmem]
    exact and_iff_left_of_imp fun hm => (hcompleted m hm).ge
  · apply ReceiveContext.inUse_eq_false_of_sessionKey
    by_contra hne
    obtain ⟨k, hk⟩ := Option.ne_none_iff_exists'.mp hne
    have hserved : lm'.serving k = some c := (session_eq_some h.distinct).mpr ⟨hc, hk⟩
    obtain ⟨m, hm, rfl⟩ := h.known k (by simp [hserved])
    have hstage := h.stage m hm
    simp [Stage, StreamMessage.isOpen, hcompleted m hm, hserved] at hstage

def checkingObject : CBUSLongMessageEx :=
  ((CBUSLongMessageEx.allocateContexts { cbusObject := CBUSbase.smallModule, useCrc := true } 4 8 4
    (fun _ => ⟨false, 0, 0, [], 0, 0, 0, 0, 0, 0⟩) (fun _ => ⟨false, 0, 0, [], 0, 0, 0, 0⟩)
    fun _ _ => 0).subscribe [7] true)

def firstMessage : StreamMessage := ⟨fragmentId 1 defaultPriority, 7, [1, 2, 3, 4, 5, 6], 0⟩

def secondMessage : StreamMessage := ⟨fragmentId 2 defaultPriority, 7, [9], 0xb96d⟩

theorem demultiplexes_run_two :
    ∃ (lm' : CBUSLongMessageEx) (order : List StreamMessage) (handed : List HandlerCall),
      runOption receive checkingObject (.process (fun _ => 0) :: handOver (
        firstMessage.frames.take 1 ++ secondMessage.frames.take 1 ++
        (firstMessage.frames.drop 1).take 1 ++ secondMessage.frames.drop 1 ++
        firstMessage.frames.drop 2)) = some lm' ∧
      order.Perm [firstMessage, secondMessage] ∧
      lm'.handled = checkingObject.handled ++ handed ∧
      List.Forall₂ (fun m call => call.HandsOver m.bytes m.streamId) order handed ∧
      ∀ c ∈ lm'.receiveContext, c.inUse = false := by
  have hready : checkingObject.Ready := ready_allocateContexts _ 4 8 (by decide) _ _ _ [7]
  refine demultiplexes_run hready ?_ ⟨?_, ?_, ?_, ?_⟩ ⟨?_, fun lm _ => guarded_handOver _ lm⟩
  · intro m hm
    rcases List.mem_pair.mp hm with rfl | rfl
    · exact ⟨by decide, by decide, by decide, Or.inl rfl⟩
    · exact ⟨by decide, by decide, by decide, Or.inr ⟨rfl, by decide⟩⟩
  · decide
  · decide
  · decide
  · intro past _
    exact List.countP_le_length.trans (by decide)
  · intro i c hc
    simp [ReceiveContext.timedOut, hready.free c (List.mem_of_getElem? hc)]

end CBUSLongMessageEx
end CBUSPicoLib
