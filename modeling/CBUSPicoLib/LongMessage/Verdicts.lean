import CBUSPicoLib.LongMessage.Demultiplexing

/-!
# What becomes of a message under any header CRC

The CRC of the header is looked at when the last byte has arrived, and decides about the status
only: a message that arrives in order is passed to the handler once, with its bytes.
-/

namespace CBUSPicoLib

open Runs SessionTable

namespace CBUSLongMessageEx

variable {lm lm' : CBUSLongMessageEx} {msg : List UInt8} {streamId : UInt8} {id : UInt32}
  {crc : UInt16} {handled : List HandlerCall} {k : ℕ} {useCrc : Bool}

/-- There is a free context for a message of this length, and none that receives from its sender
and stream. -/
structure Awaiting (lm : CBUSLongMessageEx) (id : UInt32) (streamId : UInt8) (len : ℕ) : Prop where
  subscribed : streamId ∈ lm.streamIds
  room : len ≤ lm.receiveBufferLen.toNat
  free : ∃ c ∈ lm.receiveContext, c.inUse = false
  unserved : lm.serving ((id &&& 0x7f).toUInt8, streamId) = none
  allocated : ∀ c ∈ lm.receiveContext, lm.receiveBufferLen.toNat ≤ c.buffer.length
  handler : lm.messagehandler = true
  safely : lm.SendsSafely

/-- The context of its session has received `k` data packets of the message. -/
structure Collects (lm : CBUSLongMessageEx) (msg : List UInt8) (streamId : UInt8) (id : UInt32)
    (crc : UInt16) (useCrc : Bool) (handled : List HandlerCall) (k : ℕ) : Prop where
  context : ∃ c, lm.serving ((id &&& 0x7f).toUInt8, streamId) = some c ∧
    c.Receiving msg streamId id crc lm.receiveBufferLen k
  crcSetting : lm.useCrc = useCrc
  handler : lm.messagehandler = true
  safely : lm.SendsSafely
  log : lm.handled = handled

theorem Awaiting.header (h : lm.Awaiting id streamId msg.length) (hmax : msg.length ≤ 65535)
    (crc : UInt16) (clock : Clock) :
    ∃ lm', lm.receive (.fragment (headerFrame id streamId msg.length crc) clock) = some lm' ∧
      lm'.Collects msg streamId id crc lm.useCrc lm.handled 0 := by
  obtain ⟨d, hd, hfree⟩ := h.free
  have hlt : lm.receiveContext.findIdx (!·.inUse) < lm.receiveContext.length :=
    List.findIdx_lt_length_of_exists ⟨d, hd, by simp [hfree]⟩
  have hget := List.getElem?_eq_getElem hlt
  obtain ⟨c', hstep, hc'⟩ := receiveHeader_starts rfl hget h.subscribed h.room
    (h.allocated _ (List.getElem_mem hlt)) hmax id crc clock
  refine ⟨_, hstep, ⟨c', ?_, hc'⟩, rfl, h.handler, ⟨h.safely.buffers, h.safely.turn⟩, rfl⟩
  -- no context before the free one serves the session
  apply session_set hlt _ hc'.sessionKey_eq
  intro j t _ ht hkey
  exact session_eq_none.mp h.unserved (mem_keys.mpr ⟨t, List.mem_of_getElem? ht, hkey⟩)

/-- The next data packet: the message goes on, or it is passed to the handler. -/
theorem Collects.packet (h : lm.Collects msg streamId id crc useCrc handled k)
    (hmore : 5 * k < msg.length) (hmax : msg.length ≤ 65535) (hk : k + 1 < 256) (clock : Clock) :
    ∃ lm', lm.receive (.fragment (dataFrame id streamId msg k) clock) = some lm' ∧
      if 5 * (k + 1) < msg.length then lm'.Collects msg streamId id crc useCrc handled (k + 1)
      else lm'.SendsSafely ∧ ∃ call : HandlerCall, lm'.handled = handled ++ [call] ∧
        call.Passes (crcVerdict useCrc msg crc) streamId msg := by
  obtain ⟨c, hserving, hc⟩ := h.context
  have hget : lm.receiveContext[lm.receiveContext.findIdx
      (·.matchesFrame (dataFrame id streamId msg k))]? = some c := by
    simp only [ReceiveContext.matchesFrame_eq_decide]
    exact hserving
  obtain ⟨c', calls, hstep, hcase⟩ :=
    receiveFragment_continues rfl hget hc hmore hmax hk h.handler clock
  refine ⟨_, hstep, ?_⟩
  have hsafely : SendsSafely { lm with
      receiveContext := lm.receiveContext.set (lm.receiveContext.findIdx
        (·.matchesFrame (dataFrame id streamId msg k))) c'
      handled := lm.handled ++ calls } := ⟨h.safely.buffers, h.safely.turn⟩
  rw [h.crcSetting] at hcase
  split_ifs at hcase ⊢ with hgoes
  · obtain ⟨rfl, hc'⟩ := hcase
    refine ⟨⟨c', ?_, hc'⟩, h.crcSetting, h.handler, hsafely, by simp [h.log]⟩
    apply session_set (List.getElem?_eq_some_iff.mp hget).1 _ hc'.sessionKey_eq
    intro j t hj ht hkey
    have hno := List.not_of_lt_findIdx hj
    rw [ReceiveContext.matchesFrame_eq_decide, (List.getElem?_eq_some_iff.mp ht).2, hkey] at hno
    exact of_decide_eq_false hno rfl
  · obtain ⟨-, -, call, rfl, hpasses⟩ := hcase
    exact ⟨hsafely, call, by simp [h.log], hpasses⟩

theorem Collects.process (h : lm.Collects msg streamId id crc useCrc handled k)
    (hsafe : lm'.SendsSafely) (hsame : lm.SameReception lm') :
    lm'.Collects msg streamId id crc useCrc handled k := by
  obtain ⟨n, cs, i, rfl⟩ := hsame
  exact ⟨h.context, h.crcSetting, h.handler, hsafe, h.log⟩

theorem Awaiting.process {len : ℕ} (h : lm.Awaiting id streamId len) (hsafe : lm'.SendsSafely)
    (hsame : lm.SameReception lm') : lm'.Awaiting id streamId len := by
  obtain ⟨n, cs, i, rfl⟩ := hsame
  exact ⟨h.subscribed, h.room, h.free, h.unserved, h.allocated, h.handler, hsafe⟩

theorem run_polls (calls : List ReceiverCall) (h : lm.SendsSafely) (hfr : fragments calls = [])
    (ht : GuardedOption receive InTime lm calls) :
    ∃ lm', runOption receive lm calls = some lm' ∧ lm'.handled = lm.handled := by
  induction calls generalizing lm with
  | nil => exact ⟨lm, rfl, rfl⟩
  | cons call calls ih =>
    cases call with
    | fragment frame clock => exact absurd hfr (List.cons_ne_nil _ _)
    | process clock =>
      obtain ⟨m, hm, hsafe, hsame⟩ := receive_process_inTime h ht.1
      obtain ⟨lm', hrun, hlog⟩ := ih hsafe hfr (ht.2 m hm)
      obtain ⟨n, cs, i, rfl⟩ := hsame
      exact ⟨lm', (runOption_cons hm calls).trans hrun, hlog⟩

theorem Collects.run (calls : List ReceiverCall)
    (h : lm.Collects msg streamId id crc useCrc handled k) (hmore : 5 * k < msg.length)
    (hmax : msg.length ≤ 1275)
    (hfr : fragments calls = (dataFrames id streamId msg (fragmentCount msg.length)).drop k)
    (ht : GuardedOption receive InTime lm calls) :
    ∃ lm' call, runOption receive lm calls = some lm' ∧ lm'.handled = handled ++ [call] ∧
      call.Passes (crcVerdict useCrc msg crc) streamId msg := by
  have hkn := lt_fragmentCount.mpr hmore
  induction calls generalizing lm k with
  | nil =>
    have hempty := congrArg List.length hfr
    simp [dataFrames, fragments] at hempty
    omega
  | cons call calls ih =>
    cases call with
    | process clock =>
      obtain ⟨m, hm, hsafe, hsame⟩ := receive_process_inTime h.safely ht.1
      rw [runOption_cons hm]
      exact ih (h.process hsafe hsame) hmore hfr (ht.2 m hm) hkn
    | fragment frame clock =>
      have hwrap : k + 1 < 256 := by omega
      rw [dataFrames_drop hkn] at hfr
      obtain ⟨rfl, hrest⟩ := List.cons.inj hfr
      obtain ⟨m, hm, hcase⟩ := h.packet hmore (by omega) hwrap clock
      rw [runOption_cons hm]
      split_ifs at hcase with hgoes
      · exact ih hcase hgoes hrest (ht.2 m hm) (lt_fragmentCount.mpr hgoes)
      · obtain ⟨hsafe, last, hlog, hpasses⟩ := hcase
        have hlast : fragmentCount msg.length = k + 1 := by
          have hnot : ¬ k + 1 < fragmentCount msg.length := fun hc => hgoes (lt_fragmentCount.mp hc)
          omega
        have hnone : fragments calls = [] := hrest.trans (by rw [hlast]; simp [dataFrames])
        obtain ⟨lm', hrun, hsame⟩ := run_polls calls hsafe hnone (ht.2 m hm)
        exact ⟨lm', last, hrun, hsame.trans hlog, hpasses⟩

/-- A message that arrives in order and in time, whatever the CRC in its header, is passed to the
handler once, with its bytes and with what the CRC says. -/
theorem Awaiting.run (calls : List ReceiverCall) (h : lm.Awaiting id streamId msg.length)
    (hpos : 1 ≤ msg.length) (hmax : msg.length ≤ 1275)
    (hfr : fragments calls = messageFrames id streamId msg crc)
    (ht : GuardedOption receive InTime lm calls) :
    ∃ lm' call, runOption receive lm calls = some lm' ∧ lm'.handled = lm.handled ++ [call] ∧
      call.Passes (crcVerdict lm.useCrc msg crc) streamId msg := by
  induction calls generalizing lm with
  | nil => exact absurd hfr.symm (List.cons_ne_nil _ _)
  | cons call calls ih =>
    cases call with
    | process clock =>
      obtain ⟨m, hm, hsafe, hsame⟩ := receive_process_inTime h.safely ht.1
      obtain ⟨lm', last, hrun, hrest⟩ := ih (h.process hsafe hsame) hfr (ht.2 m hm)
      obtain ⟨n, cs, i, rfl⟩ := hsame
      exact ⟨lm', last, (runOption_cons hm calls).trans hrun, hrest⟩
    | fragment frame clock =>
      obtain ⟨rfl, hrest⟩ := List.cons.inj hfr
      obtain ⟨m, hm, hcollects⟩ := h.header (by omega) crc clock
      rw [runOption_cons hm]
      exact hcollects.run calls hpos hmax hrest (ht.2 m hm)

end CBUSLongMessageEx
end CBUSPicoLib
