import CBUSPicoLib.LongMessage.SendContexts

/-!
# Interleaved streams

The send contexts take turns, one data packet a call. What each of them still has to send does not
depend on the others, so on every stream the frames are those of its messages, as long as
the controller takes them. `strdup` copies a message up to its first zero byte only; what lies
behind it is read past the end of the copy.
-/

namespace CBUSPicoLib

open Runs SessionTable TaggedLog

theorem takeWhile_zero_prefix {mem : List UInt8} (h : 0 ∈ mem) :
    mem.takeWhile (· ≠ 0) ++ [0] <+: mem := by
  induction mem with
  | nil => exact absurd h List.not_mem_nil
  | cons b rest ih =>
    by_cases hb : b = 0
    · rw [hb, List.takeWhile_cons_of_neg (by simp)]
      exact List.prefix_append [0] rest
    · rw [List.takeWhile_cons_of_pos (by simpa using hb), List.cons_append]
      have hrest : 0 ∈ rest := (List.mem_cons.mp h).resolve_left (Ne.symm hb)
      exact List.cons_prefix_cons.mpr ⟨rfl, ih hrest⟩

theorem strdup_prefix {mem copy : List UInt8} (h : strdup mem = some copy) : copy <+: mem := by
  unfold strdup at h
  split_ifs at h with hzero
  exact Option.some.inj h ▸ takeWhile_zero_prefix hzero

theorem strdup_complete {bytes behind : List UInt8} (h : 0 ∉ bytes.dropLast)
    (hmem : 0 ∈ bytes ++ behind) :
    ∃ copy, strdup (bytes ++ behind) = some copy ∧ bytes.length ≤ copy.length := by
  refine ⟨_, if_pos hmem, ?_⟩
  rw [List.length_append, List.length_singleton]
  rcases List.eq_nil_or_concat bytes with rfl | ⟨start, last, rfl⟩
  · exact Nat.zero_le _
  · rw [List.concat_eq_append, List.dropLast_concat] at h
    have htake : (start ++ ([last] ++ behind)).takeWhile (· ≠ 0) =
        start ++ ([last] ++ behind).takeWhile (· ≠ 0) := by
      apply List.takeWhile_append_of_pos
      intro b hb
      exact decide_eq_true fun h0 => h (h0 ▸ hb)
    rw [List.concat_eq_append, List.append_assoc, htake]
    simp only [List.length_append, List.length_singleton]
    omega

theorem fillPayload_mono {buffer mem : List UInt8} (hpre : buffer <+: mem) {len : UInt32} (k : ℕ)
    {data : Vector UInt8 8} {index : UInt32} {p : Vector UInt8 8 × UInt32}
    (h : fillPayload buffer len k data index = some p) :
    fillPayload mem len k data index = some p := by
  induction k generalizing data index with
  | zero => exact h
  | succ k ih =>
    unfold fillPayload at h ⊢
    split_ifs at h ⊢
    · obtain ⟨byte, hbyte, hrest⟩ := Option.bind_eq_some_iff.mp h
      have hmem : mem[index.toNat]? = some byte := by
        obtain ⟨rest, rfl⟩ := hpre
        rw [List.getElem?_append_left (List.getElem?_eq_some_iff.mp hbyte).1]
        exact hbyte
      rw [hmem, Option.bind_eq_bind, Option.bind_some]
      exact ih hrest
    · exact h

namespace SendContext

/-- `k` data packets of the message have been offered. The copy of the message may be too short. An
empty message keeps its context until the next turn. -/
structure Carries (c : SendContext) (msg : List UInt8) (k : ℕ) : Prop where
  copy : ∃ mem, c.buffer <+: mem ∧ msg <+: mem
  length : c.sendBufferLen.toNat = msg.length
  index : c.sendBufferIndex.toNat = 5 * k
  seq : c.sendSequenceNum.toNat = k + 1
  bound : 5 * k < msg.length ∨ msg = [] ∧ k = 0

variable {c : SendContext} {msg : List UInt8} {k : ℕ} {m : OutgoingMessage} {copy : List UInt8}

theorem Carries.index_lt_iff (h : c.Carries msg k) :
    c.sendBufferIndex < c.sendBufferLen ↔ 5 * k < msg.length := by
  rw [UInt32.lt_iff_toNat_lt, h.index, h.length]

theorem claim_carries (hcopy : strdup m.mem = some copy) : (c.claim copy m).Carries m.bytes 0 where
  copy := ⟨m.mem, strdup_prefix hcopy, List.prefix_append _ _⟩
  length := m.toNat_len
  index := rfl
  seq := rfl
  bound := by
    cases hbytes : m.bytes with
    | nil => exact Or.inr ⟨rfl, rfl⟩
    | cons b bs => exact Or.inl (Nat.succ_pos _)

theorem Carries.advance (h : c.Carries msg k) (hmore : 5 * (k + 1) < msg.length) {index : UInt32}
    (hi : index.toNat = min (5 * (k + 1)) msg.length) (sent : UInt32) :
    (c.advance index sent).Carries msg (k + 1) := by
  have hnot : ¬ c.sendBufferLen ≤ index := by
    rw [UInt32.le_iff_toNat_le, h.length, hi]
    omega
  have hlen := c.sendBufferLen.toNat_lt
  rw [h.length] at hlen
  unfold SendContext.advance
  rw [if_neg hnot]
  refine ⟨h.copy, h.length, ?_, ?_, Or.inl hmore⟩
  · change index.toNat = _
    omega
  · change (c.sendSequenceNum + 1).toNat = _
    rw [UInt32.toNat_add, h.seq]
    exact Nat.mod_eq_of_lt (by simp; omega)

theorem Carries.fillPayload (h : c.Carries msg k) (id : UInt32) {data : Vector UInt8 8}
    {index : UInt32} (hfill : CBUSPicoLib.fillPayload c.buffer c.sendBufferLen 5
      #v[0, c.sendStreamId, c.sendSequenceNum.toUInt8, 0, 0, 0, 0, 0] c.sendBufferIndex =
        some (data, index)) :
    if 5 * k < msg.length then
      index.toNat = min (5 * (k + 1)) msg.length ∧
        data.setIfInBounds 0 opcDtxc = (dataFrame id c.sendStreamId msg k).data
    else index = c.sendBufferIndex ∧ (data.setIfInBounds 0 opcDtxc).get 1 = c.sendStreamId := by
  split_ifs with hmore
  · obtain ⟨mem, hpre, hmsg⟩ := h.copy
    obtain ⟨data', index', hfill', hi, hdata⟩ :=
      fillPayload_dataFrame hmsg h.length h.index hmore h.seq id c.sendStreamId
    obtain ⟨rfl, rfl⟩ :=
      Prod.mk.inj (Option.some.inj ((fillPayload_mono hpre 5 hfill).symm.trans hfill'))
    exact ⟨hi, hdata⟩
  · unfold CBUSPicoLib.fillPayload at hfill
    rw [if_neg (mt h.index_lt_iff.mp hmore)] at hfill
    obtain ⟨rfl, rfl⟩ := Prod.mk.inj (Option.some.inj hfill)
    exact ⟨rfl, rfl⟩

/-- The packet of a context is the next of those of its message, if there is a next one. -/
theorem Carries.packet (h : c.Carries msg k) (id : UInt32) {data : Vector UInt8 8} {index : UInt32}
    (hfill : CBUSPicoLib.fillPayload c.buffer c.sendBufferLen 5
      #v[0, c.sendStreamId, c.sendSequenceNum.toUInt8, 0, 0, 0, 0, 0] c.sendBufferIndex =
        some (data, index)) :
    let frame : CANFrame := { id := id, len := 8, data := data.setIfInBounds 0 opcDtxc }
    let frames := dataFrames id c.sendStreamId msg (fragmentCount msg.length)
    frame.streamId = c.sendStreamId ∧
      if c.sendBufferIndex < c.sendBufferLen then
        frames.drop k = frame :: frames.drop (k + 1) ∧ index ≠ c.sendBufferIndex
      else frames.drop k = [] ∧ frames.drop (k + 1) = [] ∧ index = c.sendBufferIndex := by
  intro frame frames
  have hdata := h.fillPayload id hfill
  by_cases hmore : 5 * k < msg.length
  · rw [if_pos hmore] at hdata
    have hframe : frame = dataFrame id c.sendStreamId msg k := by
      change CANFrame.mk _ _ _ _ _ = CANFrame.mk _ _ _ _ _
      rw [hdata.2]
      rfl
    rw [if_pos (h.index_lt_iff.mpr hmore), hframe]
    refine ⟨rfl, dataFrames_drop (lt_fragmentCount.mpr hmore), ?_⟩
    intro he
    have hindex := hdata.1
    rw [he, h.index] at hindex
    omega
  · rw [if_neg hmore] at hdata
    rw [if_neg (mt h.index_lt_iff.mp hmore)]
    have hnone : ∀ j, frames.drop j = [] := by
      intro j
      apply List.drop_eq_nil_of_le
      change (dataFrames id c.sendStreamId msg (fragmentCount msg.length)).length ≤ j
      rw [(h.bound.resolve_left hmore).1]
      exact Nat.zero_le _
    exact ⟨hdata.2, hnone k, hnone (k + 1), hdata.1⟩

/-- After its packet a context is released, with nothing left to send, or carries the rest. -/
theorem Carries.after (h : c.Carries msg k) (id : UInt32) {data : Vector UInt8 8} {index : UInt32}
    (hfill : CBUSPicoLib.fillPayload c.buffer c.sendBufferLen 5
      #v[0, c.sendStreamId, c.sendSequenceNum.toUInt8, 0, 0, 0, 0, 0] c.sendBufferIndex =
        some (data, index)) (sent : UInt32) :
    if c.sendBufferLen ≤ index then fragmentCount msg.length ≤ k + 1
    else (c.advance index sent).Carries msg (k + 1) := by
  have hdata := h.fillPayload id hfill
  have hend : c.sendBufferLen ≤ index ↔ msg.length ≤ index.toNat := by
    rw [UInt32.le_iff_toNat_le, h.length]
  unfold fragmentCount
  by_cases hmore : 5 * k < msg.length
  · rw [if_pos hmore] at hdata
    split_ifs with hle
    · have hle' := hend.mp hle
      omega
    · have hle' := mt hend.mpr hle
      exact h.advance (by omega) hdata.1 sent
  · rw [if_neg hmore] at hdata
    have hindex := h.index
    rw [if_pos (hend.mpr (by rw [hdata.1]; omega))]
    omega

end SendContext

namespace CBUSLongMessageEx

variable {lm lm' first : CBUSLongMessageEx} {m : OutgoingMessage} {ret : Bool} {clock : Clock}
  {pending : UInt8 → List CANFrame}

/-- What is still to come from the context of a stream. -/
def Lane (canId : UInt8) (context : Option SendContext) (frames : List CANFrame) : Prop :=
  match context with
  | none => frames = []
  | some c => ∃ msg k, c.Carries msg k ∧ frames =
      (dataFrames (fragmentId canId c.sendPriority) c.sendStreamId msg
        (fragmentCount msg.length)).drop k

/-- What is still to come on each stream. -/
def Lanes (lm : CBUSLongMessageEx) (pending : UInt8 → List CANFrame) : Prop :=
  ∀ t, Lane lm.cbusObject.moduleConfig.canId
    (session SendContext.sessionKey lm.sendContext t) (pending t)

theorem Lanes.free (h : lm.Lanes pending) {t : UInt8} (ht : lm.inProgress t = false) :
    pending t = [] := by
  have hlane := h t
  rw [inProgress_eq_false.mp ht] at hlane
  exact hlane

theorem Lanes.set (h : lm.Lanes pending) (hd : Distinct SendContext.sessionKey lm.sendContext)
    {i : ℕ} {c c' : SendContext} (hget : lm.sendContext[i]? = some c) {t : UInt8}
    (hc : c.sessionKey = some t ∨
      c.sessionKey = none ∧ session SendContext.sessionKey lm.sendContext t = none)
    (hc' : c'.sessionKey = some t ∨ c'.sessionKey = none) {n : CBUSbase}
    (hn : n.moduleConfig = lm.cbusObject.moduleConfig) {rest : List CANFrame}
    (hlane : Lane lm.cbusObject.moduleConfig.canId
      (if c'.sessionKey = some t then some c' else none) rest) :
    Lanes { lm with cbusObject := n, sendContext := lm.sendContext.set i c' }
      (Function.update pending t rest) := by
  intro s
  change Lane n.moduleConfig.canId (session SendContext.sessionKey (lm.sendContext.set i c') s) _
  rw [hn, (hd.set hget hc hc').2]
  by_cases hs : s = t
  · rw [hs, Function.update_self, Function.update_self]
    exact hlane
  · rw [Function.update_of_ne hs, Function.update_of_ne hs]
    exact h s

theorem Lanes.claim (h : lm.Lanes pending) (hd : Distinct SendContext.sessionKey lm.sendContext)
    {i : ℕ} {c : SendContext} (hget : lm.sendContext[i]? = some c) (hfree : c.inUse = false)
    (hidle : lm.inProgress m.streamId = false) {copy : List UInt8}
    (hcopy : strdup m.mem = some copy) {n : CBUSbase}
    (hn : n.moduleConfig = lm.cbusObject.moduleConfig) :
    Lanes { lm with cbusObject := n, sendContext := lm.sendContext.set i (c.claim copy m) }
      (Function.update pending m.streamId
        (dataFrames (fragmentId lm.cbusObject.moduleConfig.canId m.priority) m.streamId m.bytes
          (fragmentCount m.bytes.length))) := by
  have hkey : c.sessionKey = none ∧
      session SendContext.sessionKey lm.sendContext m.streamId = none :=
    ⟨SendContext.sessionKey_eq_none.mpr hfree, inProgress_eq_false.mp hidle⟩
  have hkey' : (c.claim copy m).sessionKey = some m.streamId :=
    SendContext.sessionKey_eq_some.mpr ⟨rfl, rfl⟩
  apply h.set hd hget (Or.inr hkey) (Or.inl hkey') hn
  rw [if_pos hkey']
  exact ⟨m.bytes, 0, SendContext.claim_carries hcopy, rfl⟩

theorem Lanes.packet (h : lm.Lanes pending) (hd : Distinct SendContext.sessionKey lm.sendContext)
    {i : ℕ} {c : SendContext} (hget : lm.sendContext[i]? = some c) (huse : c.inUse = true)
    {data : Vector UInt8 8} {index : UInt32}
    (hfill : fillPayload c.buffer c.sendBufferLen 5
      #v[0, c.sendStreamId, c.sendSequenceNum.toUInt8, 0, 0, 0, 0, 0] c.sendBufferIndex =
        some (data, index))
    {n : CBUSbase} (hn : n.moduleConfig = lm.cbusObject.moduleConfig) (sent : UInt32) :
    let frame : CANFrame := {
      id := fragmentId lm.cbusObject.moduleConfig.canId c.sendPriority
      len := 8
      data := data.setIfInBounds 0 opcDtxc }
    ∃ rest, Lanes { lm with
        cbusObject := n
        sendContext := lm.sendContext.set i (c.advance index sent) }
          (Function.update pending c.sendStreamId rest) ∧
      frame.streamId = c.sendStreamId ∧
      if c.sendBufferIndex < c.sendBufferLen then
        pending c.sendStreamId = frame :: rest ∧ index ≠ c.sendBufferIndex
      else pending c.sendStreamId = [] ∧ rest = [] ∧ index = c.sendBufferIndex := by
  intro frame
  have hkey : c.sessionKey = some c.sendStreamId := SendContext.sessionKey_eq_some.mpr ⟨huse, rfl⟩
  have hserves : session SendContext.sessionKey lm.sendContext c.sendStreamId = some c :=
    (session_eq_some hd).mpr ⟨List.mem_of_getElem? hget, hkey⟩
  have hlane := h c.sendStreamId
  rw [hserves] at hlane
  obtain ⟨msg, k, hcarries, hpending⟩ := hlane
  have hadvance := SendContext.sessionKey_advance huse index sent
  have hkey' := c.sessionKey_advance_cases huse index sent
  have hafter := hcarries.after (fragmentId lm.cbusObject.moduleConfig.canId c.sendPriority) hfill
    sent
  have hpacket := hcarries.packet (fragmentId lm.cbusObject.moduleConfig.canId c.sendPriority) hfill
  dsimp only at hpacket
  rw [← hpending] at hpacket
  refine ⟨(dataFrames (fragmentId lm.cbusObject.moduleConfig.canId c.sendPriority) c.sendStreamId msg
    (fragmentCount msg.length)).drop (k + 1), h.set hd hget (Or.inl hkey) hkey' hn ?_, hpacket⟩
  rw [hadvance]
  by_cases hend : c.sendBufferLen ≤ index
  · rw [if_pos hend] at hafter
    rw [if_pos hend, if_neg (by simp)]
    apply List.drop_eq_nil_of_le
    simpa [dataFrames] using hafter
  · rw [if_neg hend] at hafter
    rw [if_neg hend, if_pos rfl]
    refine ⟨msg, k + 1, hafter, ?_⟩
    unfold SendContext.advance
    rw [if_neg hend]

variable {w w' : Watched CBUSLongMessageEx}

/-- The account of the sender: the messages it has accepted, what went out and what is to come. -/
structure Accounts (first : CBUSLongMessageEx) (w : Watched CBUSLongMessageEx) : Prop where
  kept : w.kept = true
  distinct : Distinct SendContext.sessionKey w.object.sendContext
  balanced : ∃ pending, w.object.Lanes pending ∧
    Balanced CANFrame.streamId first.cbusObject.transmittedFrames
      w.object.cbusObject.transmittedFrames pending w.accepted

/-- The controller takes what this call sends, if it sends anything. For a message without bytes
the code sends a data packet that is none of the message, which should be refused. -/
def Taken (w : Watched CBUSLongMessageEx) : SenderCall → Prop
  | .send m => w.object.inProgress m.streamId = true ∨ w.object.cbusObject.takes = true
  | .process clock => ∀ c, w.object.sendContext[w.object.context.toNat]? = some c →
      c.inUse = true → w.object.msgDelay.toUInt32 ≤
        clock w.object.receiveContext.length - c.lastFragmentSent →
      (w.object.cbusObject.takes = true ↔ c.sendBufferIndex < c.sendBufferLen)

theorem Accounts.losesNothing (h : Accounts first w) : sending.LosesNothing first w := by
  obtain ⟨pending, -, hbal⟩ := h.balanced
  exact ⟨h.kept, hbal.ofTag_prefix⟩

theorem headerCrc_eq {crc : UInt16} (h : messageCrc lm.useCrc m.mem m.len = some crc) :
    sending.headerCrc lm m = crc := by
  have hbytes : messageCrc lm.useCrc m.bytes m.len = some crc :=
    (@messageCrc_append m.bytes m.behind m.len m.toNat_len lm.useCrc).1.symm.trans h
  change (messageCrc lm.useCrc m.bytes m.len).getD 0 = crc
  rw [hbytes]
  rfl

theorem Accounts.send (h : Accounts first w) (hcall : sending.step w (.send m) = some w') :
    (Taken w (.send m) → Accounts first w') ∧
      (¬ Taken w (.send m) → ¬ sending.LosesNothing first w') := by
  obtain ⟨ret, lm', hsend, rfl⟩ := SendingClass.step_send hcall
  obtain ⟨pending, hlanes, hbal⟩ := h.balanced
  rcases sendLongMessage_eq_some hsend with ⟨hprogress, rfl, rfl⟩ |
    ⟨hidle, i, c, copy, crc, n, hget, hfree, hcopy, hcrc, rfl, hoffers, rfl⟩
  · refine ⟨fun _ => ⟨?_, h.distinct, pending, hlanes, hbal⟩,
      fun hrefused => absurd (Or.inl hprogress) hrefused⟩
    rw [h.kept, beq_self_eq_true]
    rfl
  · have hkey : c.sessionKey = none ∧
        session SendContext.sessionKey w.object.sendContext m.streamId = none :=
      ⟨SendContext.sessionKey_eq_none.mpr hfree, inProgress_eq_false.mp hidle⟩
    have hkey' : (c.claim copy m).sessionKey = some m.streamId :=
      SendContext.sessionKey_eq_some.mpr ⟨rfl, rfl⟩
    have hserve := h.distinct.serve hget (Or.inr hkey) hkey'
    have hframes := hoffers.frames
    constructor
    · intro htaken
      have htakes := htaken.resolve_left (by rw [hidle]; exact Bool.false_ne_true)
      rw [htakes, if_pos rfl] at hframes
      refine ⟨by rw [h.kept, htakes]; rfl, hserve.1, _,
        hlanes.claim h.distinct hget hfree hidle hcopy hoffers.moduleConfig, ?_⟩
      · have href : sending.reference w.object m = headerFrame
            (fragmentId w.object.cbusObject.moduleConfig.canId m.priority) m.streamId
              m.bytes.length crc :: dataFrames
                (fragmentId w.object.cbusObject.moduleConfig.canId m.priority) m.streamId m.bytes
                  (fragmentCount m.bytes.length) := by
          rw [← headerCrc_eq hcrc]
          rfl
        change Balanced _ _ n.transmittedFrames _ _
        rw [hframes, htakes, if_pos rfl, href]
        exact hbal.begin rfl (hlanes.free hidle)
    · rintro hrefused ⟨hkept, -⟩
      have htakes : w.object.cbusObject.takes = false :=
        Bool.eq_false_of_not_eq_true fun ht => hrefused (Or.inr ht)
      have hprogress : inProgress { w.object with
          cbusObject := n
          sendContext := w.object.sendContext.set i (c.claim copy m) } m.streamId = true := by
        rw [inProgress_eq_true, mem_keys]
        have hlt := (List.getElem?_eq_some_iff.mp hget).1
        exact ⟨_, List.mem_set hlt _, hkey'⟩
      change (w.kept && (w.object.cbusObject.takes || inProgress _ m.streamId ==
        w.object.inProgress m.streamId)) = true at hkept
      rw [htakes, hprogress, hidle, h.kept] at hkept
      exact absurd hkept (by decide)

/-- Writing one context shows in the marks of the table exactly if its own mark changes. -/
theorem marks_set_iff {cs : List SendContext} {i : ℕ} {c c' : SendContext} (hget : cs[i]? = some c) :
    (cs.set i c').map SendContext.mark = cs.map SendContext.mark ↔ c'.mark = c.mark := by
  constructor
  · intro he
    have hat := congrArg (·[i]?) he
    have hlt := (List.getElem?_eq_some_iff.mp hget).1
    rw [List.getElem?_map, List.getElem?_map, List.getElem?_set_self hlt, hget] at hat
    exact Option.some.inj hat
  · intro heq
    obtain ⟨before, after, hsplit, hset⟩ := exists_split hget
    rw [hset, hsplit]
    simp [heq]

theorem Accounts.process (h : Accounts first w)
    (hcall : sending.step w (.process clock) = some w') :
    (Taken w (.process clock) → Accounts first w') ∧
      (¬ Taken w (.process clock) → ¬ sending.LosesNothing first w') := by
  obtain ⟨ret, lm', hprocess, rfl⟩ := SendingClass.step_process hcall
  obtain ⟨pending, hlanes, hbal⟩ := h.balanced
  obtain ⟨a, b, ⟨rs, hs, hlen, rfl⟩, hb, rfl⟩ := process_eq_some hprocess
  obtain ⟨c, hget, hcase⟩ := sendNext_eq_some hb
  split_ifs at hcase with hsend
  · obtain ⟨data, index, n, hfill, rfl, hoffers, rfl⟩ := hcase
    obtain ⟨rest, hlanes', htag, hnext⟩ := hlanes.packet h.distinct hget hsend.1 hfill
      hoffers.moduleConfig (clock (w.object.receiveContext.length + 1))
    have hframes := hoffers.frames
    have hdistinct := SendContext.distinct_advance h.distinct hget hsend.1 index
      (clock (w.object.receiveContext.length + 1))
    by_cases hmore : c.sendBufferIndex < c.sendBufferLen
    · rw [if_pos hmore] at hnext
      constructor
      · intro htaken
        have htakes := (htaken c hget hsend.1 hsend.2).mpr hmore
        refine ⟨by rw [h.kept, htakes]; rfl, hdistinct, _, hlanes', ?_⟩
        change Balanced _ _ n.transmittedFrames _ _
        rw [hframes, if_pos htakes]
        exact hbal.emit htag hnext.1
      · rintro hrefused ⟨hkept, -⟩
        have htakes : w.object.cbusObject.takes = false := by
          apply Bool.eq_false_of_not_eq_true
          intro ht
          refine hrefused fun d hd _ _ => ?_
          cases Option.some.inj (hget.symm.trans hd)
          exact ⟨fun _ => hmore, fun _ => ht⟩
        have hmark := SendContext.mark_advance_ne hnext.2
          (clock (w.object.receiveContext.length + 1))
        change (w.kept && (w.object.cbusObject.takes ||
          (w.object.sendContext.set w.object.context.toNat
            (c.advance index (clock (w.object.receiveContext.length + 1)))).map SendContext.mark ==
              w.object.sendContext.map SendContext.mark)) = true at hkept
        rw [htakes, h.kept, beq_eq_false_iff_ne.mpr (mt (marks_set_iff hget).mp hmark)] at hkept
        exact absurd hkept (by decide)
    · rw [if_neg hmore] at hnext
      obtain ⟨hnone, rfl, rfl⟩ := hnext
      constructor
      · intro htaken
        have htakes : w.object.cbusObject.takes = false :=
          Bool.eq_false_of_not_eq_true fun ht => hmore ((htaken c hget hsend.1 hsend.2).mp ht)
        rw [htakes, if_neg Bool.false_ne_true, List.append_nil] at hframes
        refine ⟨?_, hdistinct, _, hlanes', ?_⟩
        · have hmark := c.mark_advance (Nat.not_lt.mp (mt UInt32.lt_iff_toNat_lt.mpr hmore))
            (clock (w.object.receiveContext.length + 1))
          have hsame := (marks_set_iff hget).mpr hmark
          change (w.kept && (w.object.cbusObject.takes ||
            (w.object.sendContext.set w.object.context.toNat (c.advance c.sendBufferIndex
              (clock (w.object.receiveContext.length + 1)))).map SendContext.mark ==
                w.object.sendContext.map SendContext.mark)) = true
          rw [htakes, h.kept, beq_iff_eq.mpr hsame]
          rfl
        · change Balanced _ _ n.transmittedFrames _ _
          rw [hframes, ← hnone, Function.update_eq_self]
          exact hbal
      · rintro hrefused ⟨-, hall⟩
        have htakes : w.object.cbusObject.takes = true := by
          by_contra ht
          refine hrefused fun d hd _ _ => ?_
          cases Option.some.inj (hget.symm.trans hd)
          exact ⟨fun hc => absurd hc ht, fun hc => absurd hc hmore⟩
        apply hbal.not_prefix_of_free htag hnone
        have hpre := hall c.sendStreamId
        change ofTag _ _ n.transmittedFrames <+: _ at hpre
        rwa [hframes, if_pos htakes] at hpre
  · obtain ⟨rfl, rfl⟩ := hcase
    refine ⟨fun _ => ⟨by rw [h.kept]; rfl, h.distinct, pending, hlanes, hbal⟩, fun hrefused => ?_⟩
    refine absurd (fun d hd huse hover => ?_) hrefused
    cases Option.some.inj (hget.symm.trans hd)
    exact absurd ⟨huse, hover⟩ hsend

theorem Accounts.step (h : Accounts first w) (call : SenderCall)
    (hcall : sending.step w call = some w') :
    (Taken w call → Accounts first w') ∧ (¬ Taken w call → ¬ sending.LosesNothing first w') := by
  cases call with
  | send m => exact h.send hcall
  | process clock => exact h.process hcall

theorem accounts_start (hfree : ∀ c ∈ first.sendContext, c.inUse = false) :
    Accounts first { object := first } where
  kept := rfl
  distinct := distinct_of_free fun c hc => SendContext.sessionKey_eq_none.mpr (hfree c hc)
  balanced := by
    refine ⟨fun _ => [], fun t => ?_, balanced_start _⟩
    have hnone : first.inProgress t = false := by
      unfold inProgress
      rw [List.any_eq_false]
      intro c hc
      rw [hfree c hc]
      exact Bool.false_ne_true
    rw [inProgress_eq_false.mp hnone]
    rfl

end CBUSLongMessageEx

/-- No call faults, and in every state that the calls lead to nothing has been lost. -/
def SendingClass.NeverLoses {σ : Type} (C : SendingClass σ) (first : σ) (calls : List SenderCall) :
    Prop :=
  ∀ past, past <+: calls → ∃ w, runOption C.step { object := first } past = some w ∧
    C.LosesNothing first w

/-- Neither class faults or loses anything in a run exactly if all its calls find the memory they
need and the controller takes what they send. -/
theorem neverLoses_iff (plain : CBUSLongMessage) (hidle : plain.isSending = false)
    (extended : CBUSLongMessageEx) (hfree : ∀ c ∈ extended.sendContext, c.inUse = false)
    (calls : List SenderCall) :
    (CBUSLongMessage.sending.NeverLoses plain calls ↔
      GuardedOption CBUSLongMessage.sending.step
        (fun w call => w.object.Faultless call ∧ CBUSLongMessage.Taken w call)
        { object := plain } calls) ∧
    (CBUSLongMessageEx.sending.NeverLoses extended calls ↔
      GuardedOption CBUSLongMessageEx.sending.step
        (fun w call => w.object.Faultless call ∧ CBUSLongMessageEx.Taken w call)
        { object := extended } calls) := by
  constructor
  · refine forall_prefix_iff_guardedOption ?_ (fun w h => h.losesNothing) ?_
      (CBUSLongMessage.accounts_start hidle) (guardedOption_true _ calls)
    · rintro w call h - ⟨hfault, htaken⟩
      have hsome := (h.call_isSome_iff call).mpr hfault
      rw [← SendingClass.step_isSome] at hsome
      obtain ⟨w', hcall⟩ := Option.isSome_iff_exists.mp hsome
      exact ⟨w', hcall, (h.step call hcall).1 htaken⟩
    · intro w call w' h _ hbad hcall hgood
      have hsome := Option.isSome_iff_exists.mpr ⟨w', hcall⟩
      rw [SendingClass.step_isSome] at hsome
      have hrefused : ¬ CBUSLongMessage.Taken w call := fun htaken =>
        hbad ⟨(h.call_isSome_iff call).mp hsome, htaken⟩
      exact absurd (((h.step call hcall).2 hrefused).symm.trans hgood.1) (by decide)
  · refine forall_prefix_iff_guardedOption ?_ (fun w h => h.losesNothing) ?_
      (CBUSLongMessageEx.accounts_start hfree) (guardedOption_true _ calls)
    · rintro w call h - ⟨hfault, htaken⟩
      have hsome := (CBUSLongMessageEx.call_isSome_iff call).mpr hfault
      rw [← SendingClass.step_isSome] at hsome
      obtain ⟨w', hcall⟩ := Option.isSome_iff_exists.mp hsome
      exact ⟨w', hcall, (h.step call hcall).1 htaken⟩
    · intro w call w' h _ hbad hcall
      have hsome := Option.isSome_iff_exists.mpr ⟨w', hcall⟩
      rw [SendingClass.step_isSome] at hsome
      exact (h.step call hcall).2 fun htaken =>
        hbad ⟨(CBUSLongMessageEx.call_isSome_iff call).mp hsome, htaken⟩

def refusingModule : CBUSbase :=
  { CBUSbase.smallModule with port := { tx := fun k => if k = 1 then [.sendFailed] else [] } }

def sixBytes : OutgoingMessage := ⟨[65, 66, 67, 68, 69, 70], [0], 7, defaultPriority, by simp⟩

def refusedObject : CBUSLongMessageEx :=
  { CBUSLongMessageEx.smallObject 20 with cbusObject := refusingModule }

theorem neverLoses_iff_refused :
    let plain : CBUSLongMessage := { cbusObject := refusingModule }
    let calls := [SenderCall.send sixBytes, .process fun _ => 100, .process fun _ => 200]
    (CBUSLongMessage.sending.NeverLoses plain calls ↔
      GuardedOption CBUSLongMessage.sending.step
        (fun w call => w.object.Faultless call ∧ CBUSLongMessage.Taken w call)
        { object := plain } calls) ∧
    (CBUSLongMessageEx.sending.NeverLoses refusedObject calls ↔
      GuardedOption CBUSLongMessageEx.sending.step
        (fun w call => w.object.Faultless call ∧ CBUSLongMessageEx.Taken w call)
        { object := refusedObject } calls) :=
  neverLoses_iff { cbusObject := refusingModule } rfl refusedObject
    (CBUSLongMessageEx.smallObject_quiet 20).idle _

/-- The first data packet is refused, and both classes go on behind it. -/
theorem not_neverLoses_refused :
    let plain : CBUSLongMessage := { cbusObject := refusingModule }
    let calls := [SenderCall.send sixBytes, .process fun _ => 100, .process fun _ => 200]
    ¬ CBUSLongMessage.sending.NeverLoses plain calls ∧
      ¬ CBUSLongMessageEx.sending.NeverLoses refusedObject calls := by
  intro plain calls
  constructor
  · intro hnever
    have hlost : (runOption CBUSLongMessage.sending.step { object := plain } calls).map
        (·.kept) = some false := by decide +kernel
    obtain ⟨w, hrun, hkept, -⟩ := hnever calls List.prefix_rfl
    rw [hrun, Option.map_some, hkept] at hlost
    exact absurd hlost (by decide)
  · intro hnever
    have hlost : (runOption CBUSLongMessageEx.sending.step { object := refusedObject } calls).map
        (·.kept) = some false := by decide +kernel
    obtain ⟨w, hrun, hkept, -⟩ := hnever calls List.prefix_rfl
    rw [hrun, Option.map_some, hkept] at hlost
    exact absurd hlost (by decide)

end CBUSPicoLib
