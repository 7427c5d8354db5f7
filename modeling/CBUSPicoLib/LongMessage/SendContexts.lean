import CBUSPicoLib.LongMessage.Demultiplexing
import CBUSPicoLib.LongMessage.Outgoing

/-!
# The send contexts

The send contexts of `CBUSLongMessageEx` are a table of sessions, known by their stream IDs. A
message takes the first context that is free; the search for it ends behind the table
if none is, and the test that follows does not notice.
-/

namespace CBUSPicoLib

open Runs SessionTable

def SendContext.sessionKey (c : SendContext) : Option UInt8 :=
  if c.inUse then some c.sendStreamId else none

namespace SendContext

variable {c : SendContext} {t : UInt8}

theorem sessionKey_eq_some : c.sessionKey = some t ↔ c.inUse = true ∧ c.sendStreamId = t := by
  unfold sessionKey
  cases c.inUse <;> simp

theorem sessionKey_eq_none : c.sessionKey = none ↔ c.inUse = false := by
  unfold sessionKey
  cases c.inUse <;> simp

def mark (c : SendContext) : UInt32 × UInt32 := (c.sendBufferIndex, c.sendSequenceNum)

/-- The context after a data packet: released behind the last one. -/
def advance (c : SendContext) (index sent : UInt32) : SendContext :=
  if c.sendBufferLen ≤ index then
    { c with sendBufferIndex := index, inUse := false, sendBufferLen := 0, buffer := [] }
  else
    { c with
      sendBufferIndex := index
      sendSequenceNum := c.sendSequenceNum + 1
      lastFragmentSent := sent }

theorem sessionKey_advance (h : c.inUse = true) (index sent : UInt32) :
    (c.advance index sent).sessionKey =
      if c.sendBufferLen ≤ index then none else some c.sendStreamId := by
  unfold advance
  split_ifs
  · rfl
  · exact if_pos h

theorem sessionKey_advance_cases (c : SendContext) (h : c.inUse = true) (index sent : UInt32) :
    (c.advance index sent).sessionKey = some c.sendStreamId ∨
      (c.advance index sent).sessionKey = none := by
  rw [sessionKey_advance h]
  split_ifs
  · exact Or.inr rfl
  · exact Or.inl rfl

theorem mark_advance_ne {c : SendContext} {index : UInt32} (h : index ≠ c.sendBufferIndex)
    (sent : UInt32) : (c.advance index sent).mark ≠ c.mark := by
  have hindex : (c.advance index sent).mark.1 = index := by
    unfold advance
    split_ifs <;> rfl
  intro he
  rw [he] at hindex
  exact h hindex.symm

theorem mark_advance (c : SendContext) (h : c.sendBufferLen.toNat ≤ c.sendBufferIndex.toNat)
    (sent : UInt32) :
    (c.advance c.sendBufferIndex sent).mark = c.mark := by
  unfold advance
  rw [if_pos (UInt32.le_iff_toNat_le.mpr h)]
  rfl

theorem distinct_advance {cs : List SendContext} {i : ℕ} {c : SendContext}
    (hd : Distinct sessionKey cs) (hget : cs[i]? = some c) (huse : c.inUse = true)
    (index sent : UInt32) : Distinct sessionKey (cs.set i (c.advance index sent)) := by
  have hkey : c.sessionKey = some c.sendStreamId := sessionKey_eq_some.mpr ⟨huse, rfl⟩
  exact (hd.set hget (Or.inl hkey) (c.sessionKey_advance_cases huse index sent)).1

/-- The copy of the message holds the bytes of the next data packet. -/
def HoldsNext (c : SendContext) : Prop :=
  ∀ i, c.sendBufferIndex.toNat ≤ i → i < c.sendBufferIndex.toNat + 5 → i < c.sendBufferLen.toNat →
    i < c.buffer.length

def claim (c : SendContext) (copy : List UInt8) (m : OutgoingMessage) : SendContext :=
  { c with
    inUse := true
    buffer := copy
    sendBufferLen := m.len
    sendStreamId := m.streamId
    sendPriority := m.priority
    sendBufferIndex := 0
    sendSequenceNum := 1 }

end SendContext

namespace CBUSLongMessageEx

variable {lm lm' : CBUSLongMessageEx} {m : OutgoingMessage} {ret : Bool} {clock : Clock}

def inProgress (lm : CBUSLongMessageEx) (t : UInt8) : Bool :=
  lm.sendContext.any fun c => c.inUse && c.sendStreamId == t

theorem inProgress_eq_true {t : UInt8} :
    lm.inProgress t = true ↔ t ∈ keys SendContext.sessionKey lm.sendContext := by
  rw [mem_keys]
  simp [inProgress, SendContext.sessionKey_eq_some]

theorem inProgress_eq_false {t : UInt8} :
    lm.inProgress t = false ↔ session SendContext.sessionKey lm.sendContext t = none := by
  rw [session_eq_none, ← inProgress_eq_true, Bool.not_eq_true]

theorem sendLongMessage_refused (h : lm.inProgress m.streamId = true) :
    lm.sendLongMessage m.mem m.len m.streamId m.priority = some (false, lm) := if_pos h

theorem findIdx_free_le : lm.sendContext.findIdx (!·.inUse) ≤ lm.sendContext.length :=
  List.findIdx_le_length

theorem sendLongMessage_full (h : lm.inProgress m.streamId = false)
    (hfull : ∀ c ∈ lm.sendContext, c.inUse = true) :
    lm.sendContext.findIdx (!·.inUse) = lm.sendContext.length ∧
      lm.sendLongMessage m.mem m.len m.streamId m.priority = none := by
  have hend : lm.sendContext.findIdx (!·.inUse) = lm.sendContext.length :=
    List.findIdx_eq_length.mpr fun c hc => by rw [hfull c hc]; rfl
  refine ⟨hend, ?_⟩
  unfold sendLongMessage
  rw [if_neg (by change ¬ lm.inProgress m.streamId = true; rw [h]; exact Bool.false_ne_true)]
  dsimp only
  rw [hend, if_neg (Nat.lt_irrefl _), List.getElem?_eq_none le_rfl]
  rfl

/-- Otherwise the message takes the first free context, and its header is offered. -/
theorem sendLongMessage_claims (h : lm.inProgress m.streamId = false) {c : SendContext}
    (hget : lm.sendContext[lm.sendContext.findIdx (!·.inUse)]? = some c) {copy : List UInt8}
    (hcopy : strdup m.mem = some copy) {crc : UInt16}
    (hcrc : messageCrc lm.useCrc m.mem m.len = some crc) :
    ∃ n, lm.sendLongMessage m.mem m.len m.streamId m.priority =
        some (lm.cbusObject.takes, { lm with
          cbusObject := n
          sendContext := lm.sendContext.set (lm.sendContext.findIdx (!·.inUse)) (c.claim copy m) }) ∧
      lm.cbusObject.Offers (headerFrame (fragmentId lm.cbusObject.moduleConfig.canId m.priority)
        m.streamId m.bytes.length crc) n := by
  obtain ⟨n, heq, hoffers⟩ := lm.sendMessageFragment_offers
    #v[0, m.streamId, 0, highByte m.len.toNat, lowByte m.len.toNat, highByte crc.toNat,
      lowByte crc.toNat, 0] m.priority
  rw [m.toNat_len] at hoffers
  refine ⟨n, ?_, hoffers⟩
  unfold sendLongMessage
  rw [if_neg (by change ¬ lm.inProgress m.streamId = true; rw [h]; exact Bool.false_ne_true)]
  dsimp only
  rw [if_neg (Nat.not_lt.mpr findIdx_free_le), hget, hcopy, hcrc]
  simp only [Option.bind_eq_bind, Option.bind_some]
  rw [heq]
  rfl

/-- A call that does not fault has been refused, or it has taken a free context. -/
theorem sendLongMessage_eq_some
    (hcall : lm.sendLongMessage m.mem m.len m.streamId m.priority = some (ret, lm')) :
    (lm.inProgress m.streamId = true ∧ ret = false ∧ lm' = lm) ∨
    (lm.inProgress m.streamId = false ∧ ∃ i c copy crc n,
      lm.sendContext[i]? = some c ∧ c.inUse = false ∧ strdup m.mem = some copy ∧
      messageCrc lm.useCrc m.mem m.len = some crc ∧ ret = lm.cbusObject.takes ∧
      lm.cbusObject.Offers (headerFrame (fragmentId lm.cbusObject.moduleConfig.canId m.priority)
        m.streamId m.bytes.length crc) n ∧
      lm' = { lm with
        cbusObject := n
        sendContext := lm.sendContext.set i (c.claim copy m) }) := by
  cases hprogress : lm.inProgress m.streamId with
  | true =>
    rw [sendLongMessage_refused hprogress] at hcall
    obtain ⟨rfl, rfl⟩ := Prod.mk.inj (Option.some.inj hcall)
    exact Or.inl ⟨rfl, rfl, rfl⟩
  | false =>
    right
    have hcall' := hcall
    unfold sendLongMessage at hcall'
    rw [if_neg (by
      change ¬ lm.inProgress m.streamId = true
      rw [hprogress]
      exact Bool.false_ne_true)] at hcall'
    dsimp only at hcall'
    rw [if_neg (Nat.not_lt.mpr findIdx_free_le)] at hcall'
    obtain ⟨c, hget, hrest⟩ := Option.bind_eq_some_iff.mp hcall'
    obtain ⟨copy, hcopy, hrest⟩ := Option.bind_eq_some_iff.mp hrest
    obtain ⟨crc, hcrc, -⟩ := Option.bind_eq_some_iff.mp hrest
    obtain ⟨n, heq, hoffers⟩ := sendLongMessage_claims hprogress hget hcopy hcrc
    obtain ⟨rfl, rfl⟩ := Prod.mk.inj (Option.some.inj (heq.symm.trans hcall))
    have hfree : c.inUse = false := by simpa using pred_of_found hget
    exact ⟨rfl, _, c, copy, crc, n, hget, hfree, hcopy, hcrc, rfl, hoffers, rfl⟩

/-- The sending part of `process`, if it does not fault: nothing is due, or the context whose turn
it is offers a data packet and goes on. -/
theorem sendNext_eq_some {now sent : UInt32} (hcall : lm.sendNext now sent = some (ret, lm')) :
    ∃ c, lm.sendContext[lm.context.toNat]? = some c ∧
      if c.inUse ∧ lm.msgDelay.toUInt32 ≤ now - c.lastFragmentSent then
        ∃ data index n, fillPayload c.buffer c.sendBufferLen 5
            #v[0, c.sendStreamId, c.sendSequenceNum.toUInt8, 0, 0, 0, 0, 0] c.sendBufferIndex =
              some (data, index) ∧
          ret = lm.cbusObject.takes ∧
          lm.cbusObject.Offers {
            id := fragmentId lm.cbusObject.moduleConfig.canId c.sendPriority
            len := 8
            data := data.setIfInBounds 0 opcDtxc } n ∧
          lm' = { lm with
            cbusObject := n
            sendContext := lm.sendContext.set lm.context.toNat (c.advance index sent) }
      else ret = true ∧ lm' = lm := by
  obtain ⟨c, hget, hrest⟩ := Option.bind_eq_some_iff.mp hcall
  refine ⟨c, hget, ?_⟩
  split_ifs at hrest ⊢ with hsend
  · obtain ⟨⟨data, index⟩, hfill, hrest⟩ := Option.bind_eq_some_iff.mp hrest
    obtain ⟨n, heq, hoffers⟩ := lm.sendMessageFragment_offers data c.sendPriority
    dsimp only at hrest
    rw [heq] at hrest
    obtain ⟨rfl, rfl⟩ := Prod.mk.inj (Option.some.inj hrest)
    refine ⟨data, index, n, hfill, rfl, hoffers, ?_⟩
    unfold SendContext.advance
    rfl
  · obtain ⟨rfl, rfl⟩ := Prod.mk.inj (Option.some.inj hrest)
    exact ⟨rfl, rfl⟩

/-- Only the receiving side differs. -/
def SameSending (lm lm' : CBUSLongMessageEx) : Prop :=
  ∃ rs hs, rs.length = lm.receiveContext.length ∧
    lm' = { lm with receiveContext := rs, handled := hs }

theorem checkTimeouts_sameSending (h : lm.checkTimeouts clock = some lm') : lm.SameSending lm' := by
  have hstep : ∀ (a : CBUSLongMessageEx) (i : ℕ) (b : CBUSLongMessageEx), lm.SameSending a →
      timeOutContext clock a i = some b → lm.SameSending b := by
    rintro a i b ⟨rs, hs, hlen, rfl⟩ hb
    obtain ⟨c, -, hcase⟩ := timeOutContext_cases hb
    split_ifs at hcase
    · exact ⟨_, _, List.length_set.trans hlen, hcase⟩
    · exact ⟨rs, hs, hlen, hcase⟩
  exact runOption_invariant hstep ⟨_, _, rfl, rfl⟩ h

theorem process_eq_some (hcall : lm.process clock = some (ret, lm')) :
    ∃ a b, lm.SameSending a ∧ a.sendNext (clock lm.receiveContext.length)
        (clock (lm.receiveContext.length + 1)) = some (ret, b) ∧ lm' = b.nextContext := by
  obtain ⟨a, ha, hrest⟩ := Option.bind_eq_some_iff.mp hcall
  obtain ⟨⟨ret', b⟩, hb, heq⟩ := Option.bind_eq_some_iff.mp hrest
  have hsame := checkTimeouts_sameSending ha
  obtain ⟨rs, hs, hlen, rfl⟩ := hsame
  cases Option.some.inj heq
  rw [hlen] at hb
  exact ⟨_, b, ⟨rs, hs, hlen, rfl⟩, hb, rfl⟩

/-- `CBUSLongMessageEx` as a sender: one message for each context. -/
def sending : SendingClass CBUSLongMessageEx where
  call lm
    | .send m => lm.sendLongMessage m.mem m.len m.streamId m.priority
    | .process clock => lm.process clock
  node lm := lm.cbusObject
  marks lm := lm.sendContext.map SendContext.mark
  inProgress lm t := lm.inProgress t
  headerCrc lm m := (messageCrc lm.useCrc m.bytes m.len).getD 0

/-- No stream is sent by two contexts, and it is the turn of one of them. -/
structure Claimed (lm : CBUSLongMessageEx) (contexts : ℕ) : Prop where
  size : lm.sendContext.length = contexts
  distinct : Distinct SendContext.sessionKey lm.sendContext
  turn : lm.context.toNat < lm.sendContext.length

theorem Claimed.sendLongMessage {contexts : ℕ} (h : lm.Claimed contexts)
    (hcall : lm.sendLongMessage m.mem m.len m.streamId m.priority = some (ret, lm')) :
    lm'.Claimed contexts := by
  rcases sendLongMessage_eq_some hcall with ⟨-, -, rfl⟩ |
    ⟨hprogress, i, c, copy, crc, n, hget, hfree, -, -, -, -, rfl⟩
  · exact h
  · refine ⟨List.length_set.trans h.size, ?_, lt_of_lt_of_eq h.turn List.length_set.symm⟩
    have hkey : c.sessionKey = none := SendContext.sessionKey_eq_none.mpr hfree
    exact (h.distinct.serve hget (Or.inr ⟨hkey, inProgress_eq_false.mp hprogress⟩)
      (SendContext.sessionKey_eq_some.mpr ⟨rfl, rfl⟩)).1

theorem Claimed.process {contexts : ℕ} (h : lm.Claimed contexts)
    (hcall : lm.process clock = some (ret, lm')) : lm'.Claimed contexts := by
  obtain ⟨a, b, ⟨rs, hs, -, rfl⟩, hb, rfl⟩ := process_eq_some hcall
  obtain ⟨c, hget, hcase⟩ := sendNext_eq_some hb
  suffices hsent : b.Claimed contexts from
    ⟨hsent.size, hsent.distinct, nextContext_turn hsent.turn⟩
  split_ifs at hcase with hsend
  · obtain ⟨data, index, n, -, -, -, rfl⟩ := hcase
    exact ⟨List.length_set.trans h.size, SendContext.distinct_advance h.distinct hget hsend.1 index _,
      lt_of_lt_of_eq h.turn List.length_set.symm⟩
  · rw [hcase.2]
    exact ⟨h.size, h.distinct, h.turn⟩

def sendStep (lm : CBUSLongMessageEx) (call : SenderCall) : Option CBUSLongMessageEx :=
  (sending.call lm call).map (·.2)

theorem Claimed.step {contexts : ℕ} (h : lm.Claimed contexts) {call : SenderCall}
    (hcall : lm.sendStep call = some lm') : lm'.Claimed contexts := by
  obtain ⟨⟨ret, b⟩, hb, rfl⟩ := Option.map_eq_some_iff.mp hcall
  cases call with
  | send m => exact h.sendLongMessage hb
  | process clock => exact h.process hb

/-- Every receive timeout that the call finds is reported to a handler. -/
def ReportsTimeouts (lm : CBUSLongMessageEx) (clock : Clock) : Prop :=
  ∀ (i : ℕ) (c : ReceiveContext), lm.receiveContext[i]? = some c →
    c.timedOut lm.receiveTimeout (clock i) = true → lm.messagehandler = true

/-- Without a handler a timeout check that does not fault finds no timeout. -/
theorem not_timedOut_of_foldlM (hnone : lm.messagehandler = false) {indices : List ℕ}
    (h : (indices.foldlM (timeOutContext clock) lm).isSome = true) :
    ∀ i ∈ indices, ∀ c, lm.receiveContext[i]? = some c →
      c.timedOut lm.receiveTimeout (clock i) = false := by
  induction indices with
  | nil => exact fun i hi => absurd hi List.not_mem_nil
  | cons j indices ih =>
    obtain ⟨lm', hrun⟩ := Option.isSome_iff_exists.mp h
    rw [List.foldlM_cons] at hrun
    obtain ⟨a, ha, hrest⟩ := Option.bind_eq_some_iff.mp hrun
    obtain ⟨d, hd, hnext⟩ := Option.bind_eq_some_iff.mp ha
    split_ifs at hnext with htime
    · simp [callHandler, hnone] at hnext
    · cases Option.some.inj hnext
      intro i hi c hc
      rcases List.mem_cons.mp hi with rfl | hi
      · cases Option.some.inj (hd.symm.trans hc)
        exact Bool.eq_false_of_not_eq_true htime
      · exact ih (Option.isSome_iff_exists.mpr ⟨lm', hrest⟩) i hi c hc

theorem checkTimeouts_isSome_iff :
    (lm.checkTimeouts clock).isSome = true ↔ lm.ReportsTimeouts clock := by
  cases hhandler : lm.messagehandler with
  | true =>
    obtain ⟨rs, hs, hcheck, -⟩ := @checkTimeouts_total lm (Or.inl hhandler) clock
    rw [hcheck]
    exact ⟨fun _ _ _ _ _ => hhandler, fun _ => rfl⟩
  | false =>
    constructor
    · intro h i c hc htime
      have hlt := (List.getElem?_eq_some_iff.mp hc).1
      have hin := not_timedOut_of_foldlM hhandler h i (List.mem_range.mpr hlt) c hc
      exact absurd (hin.symm.trans htime) Bool.false_ne_true
    · intro h
      have htime : lm.InTime (.process clock) := by
        intro i c hc
        by_contra hlate
        have hset := h i c hc (Bool.eq_true_of_not_eq_false hlate)
        exact absurd (hhandler.symm.trans hset) Bool.false_ne_true
      rw [checkTimeouts_inTime htime]
      rfl

theorem sendNext_isSome_iff {now sent : UInt32} :
    (lm.sendNext now sent).isSome = true ↔ ∃ c, lm.sendContext[lm.context.toNat]? = some c ∧
      (c.inUse = true → lm.msgDelay.toUInt32 ≤ now - c.lastFragmentSent → c.HoldsNext) := by
  unfold sendNext
  cases hget : lm.sendContext[lm.context.toNat]? with
  | none => simp
  | some c =>
    have hfill := fillPayload_isSome_iff c.buffer c.sendBufferLen 5
      #v[0, c.sendStreamId, c.sendSequenceNum.toUInt8, 0, 0, 0, 0, 0] c.sendBufferIndex
    rw [Option.bind_eq_bind, Option.bind_some]
    split_ifs with hsend
    · cases hdata : fillPayload c.buffer c.sendBufferLen 5
        #v[0, c.sendStreamId, c.sendSequenceNum.toUInt8, 0, 0, 0, 0, 0] c.sendBufferIndex with
      | none =>
        rw [hdata] at hfill
        constructor
        · exact fun h => absurd h Bool.false_ne_true
        · rintro ⟨d, hd, hholds⟩
          cases Option.some.inj hd
          exact absurd (hfill.mpr (hholds hsend.1 hsend.2)) Bool.false_ne_true
      | some r =>
        rw [hdata] at hfill
        exact ⟨fun _ => ⟨c, rfl, fun _ _ => hfill.mp rfl⟩, fun _ => rfl⟩
    · exact ⟨fun _ => ⟨c, rfl, fun huse hover => absurd ⟨huse, hover⟩ hsend⟩, fun _ => rfl⟩

theorem process_isSome_iff : (lm.process clock).isSome = true ↔
    (lm.checkTimeouts clock).isSome = true ∧
      (lm.sendNext (clock lm.receiveContext.length)
        (clock (lm.receiveContext.length + 1))).isSome = true := by
  unfold process
  cases hcheck : lm.checkTimeouts clock with
  | none => simp
  | some a =>
    obtain ⟨rs, hs, hlen, rfl⟩ := checkTimeouts_sameSending hcheck
    simp only [Option.bind_eq_bind, Option.bind_some, hlen, Option.isSome_some, true_and,
      Option.isSome_bind, Option.pure_def, Option.any_true]
    rw [sendNext_isSome_iff, sendNext_isSome_iff]

theorem sendLongMessage_isSome_iff :
    (lm.sendLongMessage m.mem m.len m.streamId m.priority).isSome = true ↔
      lm.inProgress m.streamId = true ∨ (∃ c ∈ lm.sendContext, c.inUse = false) ∧ 0 ∈ m.mem := by
  constructor
  · intro h
    obtain ⟨⟨ret, lm'⟩, hcall⟩ := Option.isSome_iff_exists.mp h
    rcases sendLongMessage_eq_some hcall with ⟨hprogress, -⟩ |
      ⟨-, i, c, copy, crc, n, hget, hfree, hcopy, -⟩
    · exact Or.inl hprogress
    · refine Or.inr ⟨⟨c, List.mem_of_getElem? hget, hfree⟩, ?_⟩
      by_contra hzero
      rw [strdup, if_neg hzero] at hcopy
      cases hcopy
  · intro h
    cases hprogress : lm.inProgress m.streamId with
    | true =>
      rw [sendLongMessage_refused hprogress]
      rfl
    | false =>
      obtain ⟨⟨c, hc, hfree⟩, hzero⟩ := h.resolve_left (by rw [hprogress]; exact Bool.false_ne_true)
      have hlt := List.findIdx_lt_length_of_exists (p := fun c : SendContext => !c.inUse)
        ⟨c, hc, by rw [hfree]; rfl⟩
      have hsome := @messageCrc_append m.bytes m.behind m.len m.toNat_len lm.useCrc
      obtain ⟨crc, hcrc⟩ := Option.isSome_iff_exists.mp hsome.2
      obtain ⟨n, hcall, -⟩ := sendLongMessage_claims hprogress (List.getElem?_eq_getElem hlt)
        (if_pos hzero) (hsome.1.trans hcrc)
      rw [hcall]
      rfl

/-- The call finds the memory it needs: a context of the table, a message that ends with a zero
byte, the next bytes in the copy, and a handler for the timeouts. -/
def Faultless (lm : CBUSLongMessageEx) : SenderCall → Prop
  | .send m =>
    lm.inProgress m.streamId = true ∨ (∃ c ∈ lm.sendContext, c.inUse = false) ∧ 0 ∈ m.mem
  | .process clock =>
    lm.ReportsTimeouts clock ∧ ∃ c, lm.sendContext[lm.context.toNat]? = some c ∧
      (c.inUse = true → lm.msgDelay.toUInt32 ≤
        clock lm.receiveContext.length - c.lastFragmentSent → c.HoldsNext)

theorem call_isSome_iff (call : SenderCall) :
    (sending.call lm call).isSome = true ↔ lm.Faultless call := by
  cases call with
  | send m => exact sendLongMessage_isSome_iff
  | process clock =>
    refine process_isSome_iff.trans ?_
    rw [checkTimeouts_isSome_iff, sendNext_isSome_iff]
    rfl

/-- The index of the context that a call works on, behind its searches of the table. -/
def usedContext (lm : CBUSLongMessageEx) : SenderCall → Option ℕ
  | .send m =>
    let i := lm.sendContext.findIdx (!·.inUse)
    if lm.inProgress m.streamId ∨ lm.sendContext.length < i then none else some i
  | .process _ => some lm.context.toNat

/-- The stream is not being sent, or there is a context for it. -/
def HasRoom (lm : CBUSLongMessageEx) : SenderCall → Prop
  | .send m => lm.inProgress m.streamId = true ∨ ∃ c ∈ lm.sendContext, c.inUse = false
  | .process _ => True

/-- No stream is sent by two contexts, and not more streams than there are contexts. -/
structure WellClaimed (lm : CBUSLongMessageEx) (contexts : ℕ) : Prop where
  distinct : ∀ (i j : ℕ) (c d : SendContext), lm.sendContext[i]? = some c →
    lm.sendContext[j]? = some d → c.inUse = true → d.inUse = true →
      c.sendStreamId = d.sendStreamId → i = j
  size : lm.sendContext.length = contexts
  isSending_le : lm.isSending ≤ contexts

/-- The call works on a context of the table; a message for which there is none, or whose stream is
being sent, is refused without any change. -/
structure SafeCall (lm : CBUSLongMessageEx) (call : SenderCall) : Prop where
  inside : ∀ i ∈ lm.usedContext call, i < lm.sendContext.length
  refused : ∀ m, call = .send m →
    (lm.inProgress m.streamId = true ∨ ∀ c ∈ lm.sendContext, c.inUse = true) →
      sending.call lm call = some (false, lm)

/-- In every state that the calls lead to the contexts are claimed well, and the next call is
safe. A call that reads outside a copy of a message leads to no state. -/
def ClaimsSafely (lm : CBUSLongMessageEx) (contexts : ℕ) (calls : List SenderCall) : Prop :=
  ∀ past, past <+: calls → ∀ lm', runOption sendStep lm past = some lm' →
    lm'.WellClaimed contexts ∧ ∀ call, past ++ [call] <+: calls → lm'.SafeCall call

theorem Claimed.wellClaimed {contexts : ℕ} (h : lm.Claimed contexts) : lm.WellClaimed contexts where
  distinct := by
    intro i j c d hi hj hc hd hstream
    by_contra hne
    have hci : c.sessionKey = some c.sendStreamId :=
      SendContext.sessionKey_eq_some.mpr ⟨hc, rfl⟩
    have hdj : d.sessionKey = some c.sendStreamId :=
      SendContext.sessionKey_eq_some.mpr ⟨hd, hstream.symm⟩
    exact hne (h.distinct.index_unique hi hci hj hdj)
  size := h.size
  isSending_le := h.size ▸ List.countP_le_length

theorem Claimed.safeCall_iff {contexts : ℕ} (h : lm.Claimed contexts) (call : SenderCall) :
    lm.SafeCall call ↔ lm.HasRoom call := by
  cases call with
  | process clock =>
    refine ⟨fun _ => trivial, fun _ => ⟨?_, fun m hm => by cases hm⟩⟩
    intro i hi
    cases hi
    exact h.turn
  | send m =>
    constructor
    · intro hsafe
      by_contra hroom
      obtain ⟨hprogress, hfull⟩ := not_or.mp hroom
      have hbusy : ∀ c ∈ lm.sendContext, c.inUse = true := by
        intro c hc
        by_contra hfree
        exact hfull ⟨c, hc, Bool.eq_false_of_not_eq_true hfree⟩
      have hfault := (sendLongMessage_full (Bool.eq_false_of_not_eq_true hprogress) hbusy).2
      have hrefused := hsafe.refused m rfl (Or.inr hbusy)
      exact absurd (hfault.symm.trans hrefused) (by simp)
    · intro hroom
      constructor
      · intro i hi
        unfold usedContext at hi
        dsimp only at hi
        split_ifs at hi with hnone
        · cases hi
        · cases hi
          rcases hroom with hprogress | ⟨c, hc, hfree⟩
          · exact absurd (Or.inl hprogress) hnone
          · exact List.findIdx_lt_length_of_exists ⟨c, hc, by rw [hfree]; rfl⟩
      · intro m' hm hcase
        cases hm
        rcases hcase with hprogress | hbusy
        · exact sendLongMessage_refused hprogress
        · rcases hroom with hprogress | ⟨c, hc, hfree⟩
          · exact sendLongMessage_refused hprogress
          · exact absurd ((hbusy c hc).symm.trans hfree) (by decide)

/-- After the allocation all contexts are free. The counter of `process` is zero when the program
starts. -/
theorem allocateContexts_claimed (lm : CBUSLongMessageEx) (numReceive : UInt8) (len : UInt32)
    {numSend : UInt8} (hturn : lm.context < numSend) (receiveHeap : ℕ → ReceiveContext)
    (sendHeap : ℕ → SendContext) (bufferHeap : ℕ → ℕ → UInt8) :
    (lm.allocateContexts numReceive len numSend receiveHeap sendHeap bufferHeap).Claimed
      numSend.toNat := by
  obtain ⟨-, hfree, -, hsize⟩ :=
    lm.allocateContexts_free numReceive len numSend receiveHeap sendHeap bufferHeap
  refine ⟨hsize, distinct_of_free fun c hc => ?_, hsize ▸ UInt8.lt_iff_toNat_lt.mp hturn⟩
  exact SendContext.sessionKey_eq_none.mpr (hfree c hc)

theorem sendStep_isSome_iff (lm : CBUSLongMessageEx) (call : SenderCall) :
    (lm.sendStep call).isSome = true ↔ lm.Faultless call := by
  unfold sendStep
  rw [Option.isSome_map]
  exact call_isSome_iff call

/-- After an allocation with a send context the contexts are claimed safely, whatever calls are
made, exactly if every message finds its stream in use or a context free. No call faults exactly
if all find the memory they need. -/
theorem claimsSafely_iff (lm : CBUSLongMessageEx) (numReceive : UInt8) (len : UInt32)
    (numSend : UInt8) (hturn : lm.context < numSend) (receiveHeap : ℕ → ReceiveContext)
    (sendHeap : ℕ → SendContext) (bufferHeap : ℕ → ℕ → UInt8) (calls : List SenderCall) :
    let start := lm.allocateContexts numReceive len numSend receiveHeap sendHeap bufferHeap
    (start.ClaimsSafely numSend.toNat calls ↔ GuardedOption sendStep HasRoom start calls) ∧
      ((∃ lm', runOption sendStep start calls = some lm') ↔
        GuardedOption sendStep Faultless start calls) := by
  intro start
  have hstart : start.Claimed numSend.toNat :=
    lm.allocateContexts_claimed numReceive len hturn receiveHeap sendHeap bufferHeap
  constructor
  · exact @forall_reached_iff_guardedOption _ _ _ (fun s => s.Claimed numSend.toNat) _ _ _
      (fun _ _ _ h hcall => h.step hcall) (fun _ h => h.wellClaimed)
      (fun _ call h => h.safeCall_iff call) _ hstart calls
  · exact exists_runOption_iff_guardedOption sendStep_isSome_iff start calls

def rawReceive (_ : ℕ) : ReceiveContext := ⟨true, 0, 0, [], 0, 0, 0, 0, 0, 0⟩

def rawSend (_ : ℕ) : SendContext := ⟨true, 0, 0, [], 0, 0, 0, 0⟩

def oneByte (streamId : UInt8) : OutgoingMessage := ⟨[65], [0], streamId, defaultPriority, by simp⟩

theorem claimsSafely_iff_two :
    let lm : CBUSLongMessageEx := { cbusObject := CBUSbase.smallModule }
    let start := lm.allocateContexts 1 20 2 rawReceive rawSend fun _ _ => 0
    let calls := [.send (oneByte 1), .send (oneByte 2), .process fun _ => 0, .send (oneByte 3)]
    (start.ClaimsSafely (2 : UInt8).toNat calls ↔ GuardedOption sendStep HasRoom start calls) ∧
      ((∃ lm', runOption sendStep start calls = some lm') ↔
        GuardedOption sendStep Faultless start calls) :=
  claimsSafely_iff { cbusObject := CBUSbase.smallModule } 1 20 2 (by decide) rawReceive rawSend
    (fun _ _ => 0) _

/-- With one context in use, a message on a second stream gets the context behind the table. -/
theorem not_claimsSafely_second :
    let lm : CBUSLongMessageEx := { cbusObject := CBUSbase.smallModule }
    let start := lm.allocateContexts 1 20 1 rawReceive rawSend fun _ _ => 0
    lm.context < 1 ∧ ¬ start.ClaimsSafely (1 : UInt8).toNat [.send (oneByte 1), .send (oneByte 2)] := by
  intro lm start
  refine ⟨by decide, fun hsafe => ?_⟩
  have hused : (runOption sendStep start [.send (oneByte 1)]).map
      (fun lm' => (lm'.usedContext (.send (oneByte 2)), lm'.sendContext.length)) =
        some (some 1, 1) := by decide +kernel
  obtain ⟨lm', hrun, hfields⟩ := Option.map_eq_some_iff.mp hused
  obtain ⟨hindex, hlength⟩ := Prod.mk.inj hfields
  have hinside := ((hsafe _ (List.prefix_append _ _) lm' hrun).2 (.send (oneByte 2))
    List.prefix_rfl).inside 1 hindex
  rw [hlength] at hinside
  exact absurd hinside (Nat.lt_irrefl 1)

end CBUSLongMessageEx
end CBUSPicoLib
