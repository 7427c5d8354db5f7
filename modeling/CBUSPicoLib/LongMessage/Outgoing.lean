import CBUSPicoLib.Library.TaggedLog
import CBUSPicoLib.LongMessage.Fragments

/-!
# Sending when the controller refuses frames

Both classes are watched alike: which messages were accepted and of what frames they
consist, what went out, and whether an object that could not transmit has moved on all the same.
Here `CBUSLongMessage` is the object; it moves on whatever the controller answers.
-/

namespace CBUSPicoLib

open Runs TaggedLog

def CANFrame.streamId (frame : CANFrame) : UInt8 := frame.data.get 1

/-- A message of the user's program, and what lies behind it in memory. -/
structure OutgoingMessage where
  bytes : List UInt8
  behind : List UInt8
  streamId : UInt8
  priority : UInt8
  length_lt : bytes.length < 2 ^ 32

namespace OutgoingMessage

def mem (m : OutgoingMessage) : List UInt8 := m.bytes ++ m.behind

def len (m : OutgoingMessage) : UInt32 := UInt32.ofNat m.bytes.length

theorem toNat_len (m : OutgoingMessage) : m.len.toNat = m.bytes.length := by
  rw [len, UInt32.toNat_ofNat']
  exact Nat.mod_eq_of_lt m.length_lt

end OutgoingMessage

/-- One call on the sending object. -/
inductive SenderCall
  | send (m : OutgoingMessage)
  | process (clock : Clock)

/-- What the two classes have in common as senders: their calls, the module they send through, the
send indices and sequence numbers, which streams are being sent, and the CRC for the header. -/
structure SendingClass (σ : Type) where
  call : σ → SenderCall → Option (Bool × σ)
  node : σ → CBUSbase
  marks : σ → List (UInt32 × UInt32)
  inProgress : σ → UInt8 → Bool
  headerCrc : σ → OutgoingMessage → UInt16

/-- A sending object with the frames of the messages it has accepted; `kept` as long as no call
whose frame was refused has moved the object on. -/
structure Watched (σ : Type) where
  object : σ
  accepted : List (UInt8 × List CANFrame) := []
  kept : Bool := true

namespace SendingClass

variable {σ : Type}

/-- The frames of a message, as they are due when the object is asked to send it. -/
def reference (C : SendingClass σ) (s : σ) (m : OutgoingMessage) : List CANFrame :=
  messageFrames (fragmentId (C.node s).moduleConfig.canId m.priority) m.streamId m.bytes
    (C.headerCrc s m)

def step (C : SendingClass σ) (w : Watched σ) : SenderCall → Option (Watched σ)
  | .send m => do
    let (ret, s) ← C.call w.object (.send m)
    return {
      object := s
      accepted := if ret then w.accepted ++ [(m.streamId, C.reference w.object m)] else w.accepted
      kept := w.kept && (ret || C.inProgress s m.streamId == C.inProgress w.object m.streamId) }
  | .process clock => do
    let (ret, s) ← C.call w.object (.process clock)
    return { w with
      object := s
      kept := w.kept && (ret || C.marks s == C.marks w.object) }

theorem step_isSome (C : SendingClass σ) (w : Watched σ) (call : SenderCall) :
    (C.step w call).isSome = (C.call w.object call).isSome := by
  cases call with
  | send m =>
    unfold step
    dsimp only
    cases C.call w.object (.send m) <;> rfl
  | process clock =>
    unfold step
    dsimp only
    cases C.call w.object (.process clock) <;> rfl

theorem step_send {C : SendingClass σ} {w w' : Watched σ} {m : OutgoingMessage}
    (h : C.step w (.send m) = some w') :
    ∃ ret s, C.call w.object (.send m) = some (ret, s) ∧ w' = {
      object := s
      accepted := if ret then w.accepted ++ [(m.streamId, C.reference w.object m)] else w.accepted
      kept := w.kept && (ret || C.inProgress s m.streamId == C.inProgress w.object m.streamId) } := by
  obtain ⟨⟨ret, s⟩, hcall, heq⟩ := Option.bind_eq_some_iff.mp h
  exact ⟨ret, s, hcall, (Option.some.inj heq).symm⟩

theorem step_process {C : SendingClass σ} {w w' : Watched σ} {clock : Clock}
    (h : C.step w (.process clock) = some w') :
    ∃ ret s, C.call w.object (.process clock) = some (ret, s) ∧ w' = { w with
      object := s
      kept := w.kept && (ret || C.marks s == C.marks w.object) } := by
  obtain ⟨⟨ret, s⟩, hcall, heq⟩ := Option.bind_eq_some_iff.mp h
  exact ⟨ret, s, hcall, (Option.some.inj heq).symm⟩

/-- Nothing is lost since the object was like `first`: no call without a frame sent has moved it on,
and on each stream the frames that went out are the first of those of the accepted messages. -/
def LosesNothing (C : SendingClass σ) (first : σ) (w : Watched σ) : Prop :=
  w.kept = true ∧ ∀ t, ofTag CANFrame.streamId t (C.node w.object).transmittedFrames <+:
    ofTag CANFrame.streamId t (C.node first).transmittedFrames ++ itemsOf t w.accepted

end SendingClass

namespace CBUSbase

def takes (n : CBUSbase) : Bool := (n.port.tx 0).isEmpty

/-- What offering a frame to the controller does. -/
structure Offers (n : CBUSbase) (msg : CANFrame) (m : CBUSbase) : Prop where
  moduleConfig : m.moduleConfig = n.moduleConfig
  frames : m.transmittedFrames = n.transmittedFrames ++ if n.takes then [msg] else []
  rest : n.takes = true → ∀ k, m.port.tx k = n.port.tx (k + 1)

theorem Offers.transmits {n m : CBUSbase} {msg : CANFrame} (h : n.Offers msg m)
    (htx : n.Transmits) : m.Transmits := by
  intro k
  rw [h.rest (by rw [takes, htx 0]; rfl)]
  exact htx (k + 1)

theorem transmittedFrames_emit (n : CBUSbase) (e : Effect) :
    (n.emit e).transmittedFrames = n.transmittedFrames ++
      [e].filterMap fun | .transmitted f => some f | _ => none := List.filterMap_append ..

theorem transmittedFrames_forward (n : CBUSbase) (msg : CANFrame) (bMore : Bool) :
    (n.forward msg bMore).transmittedFrames = n.transmittedFrames := by
  unfold forward
  split_ifs
  · rw [transmittedFrames_emit]
    exact List.append_nil _
  · rfl

theorem moduleConfig_forward (n : CBUSbase) (msg : CANFrame) (bMore : Bool) :
    (n.forward msg bMore).moduleConfig = n.moduleConfig := by
  unfold forward
  split_ifs <;> rfl

theorem sendMessage_offers (n : CBUSbase) (msg : CANFrame) (priority : UInt8) :
    (n.sendMessage msg false false priority).1 = n.takes ∧
      n.Offers (n.makeHeader msg priority) (n.sendMessage msg false false priority).2.2 := by
  have hquiet : ∀ m : CBUSbase, (m.emit (.sendMessage msg)).transmittedFrames =
      m.transmittedFrames := by
    intro m
    rw [transmittedFrames_emit]
    exact List.append_nil _
  have htx : (n.emit (.sendMessage msg)).port.tx 0 = n.port.tx 0 := rfl
  unfold sendMessage takes
  simp only [htx]
  cases hrefusals : n.port.tx 0 with
  | nil =>
    refine ⟨rfl, moduleConfig_forward _ _ _, ?_, ?_⟩
    · have hout := transmittedFrames_forward (n.emit (.sendMessage msg)) msg false
      have hheader : ((n.emit (.sendMessage msg)).forward msg false).sendHeader msg false false
          priority = n.makeHeader msg priority := by
        unfold sendHeader makeHeader
        rw [moduleConfig_forward]
        rfl
      rw [takes, hrefusals, transmittedFrames_emit, hheader]
      change ((n.emit (.sendMessage msg)).forward msg false).transmittedFrames ++ _ = _
      rw [hout, hquiet]
      rfl
    · intro _ k
      change ((n.emit (.sendMessage msg)).forward msg false).port.tx (k + 1) = _
      unfold forward
      split_ifs <;> rfl
  | cons refusal rest =>
    have hnone : (if n.takes then [n.makeHeader msg priority] else []) = [] := by
      rw [takes, hrefusals]
      rfl
    have hrefused : ¬ n.takes = true := by
      rw [takes, hrefusals]
      exact Bool.false_ne_true
    cases refusal with
    | notOkToSend =>
      refine ⟨rfl, rfl, ?_, fun ht => absurd ht hrefused⟩
      rw [hnone, List.append_nil]
      exact hquiet n
    | sendFailed =>
      refine ⟨rfl, moduleConfig_forward _ _ _, ?_, fun ht => absurd ht hrefused⟩
      rw [hnone, List.append_nil]
      change ((n.emit (.sendMessage msg)).forward msg false).transmittedFrames = _
      rw [transmittedFrames_forward]
      exact hquiet n

end CBUSbase

namespace LongMessageSender

theorem sendMessageFragment_offers (s : LongMessageSender) (data : Vector UInt8 8)
    (priority : UInt8) :
    ∃ n, s.sendMessageFragment { data := data } priority =
        (s.cbusObject.takes, { s with cbusObject := n }) ∧
      s.cbusObject.Offers {
        id := fragmentId s.cbusObject.moduleConfig.canId priority
        len := 8
        data := data.setIfInBounds 0 opcDtxc } n := by
  obtain ⟨hret, hoffers⟩ := s.cbusObject.sendMessage_offers
    { len := 8, data := data.setIfInBounds 0 opcDtxc } priority
  refine ⟨_, ?_, hoffers⟩
  unfold sendMessageFragment
  dsimp only
  rw [← hret]

/-- `k` data packets of the message are behind the sender, more are to come. -/
structure Underway (s : LongMessageSender) (msg : List UInt8) (k : ℕ) : Prop where
  buffer : msg <+: s.sendBuffer
  length : s.sendBufferLen.toNat = msg.length
  index : s.sendBufferIndex.toNat = 5 * k
  seq : s.sendSequenceNum.toNat = k + 1
  more : 5 * k < msg.length

/-- What is still to come from the sender, on each stream. -/
def Pending (s : LongMessageSender) (pending : UInt8 → List CANFrame) : Prop :=
  if s.isSending then
    ∃ msg k, s.Underway msg k ∧ pending = Function.update (fun _ => []) s.sendStreamId
      ((dataFrames s.frameId s.sendStreamId msg (fragmentCount msg.length)).drop k)
  else pending = fun _ => []

theorem Pending.free {s : LongMessageSender} {pending : UInt8 → List CANFrame}
    (h : s.Pending pending) (hidle : s.isSending = false) : pending = fun _ => [] := by
  unfold Pending at h
  rwa [if_neg (by rw [hidle]; exact Bool.false_ne_true)] at h

theorem Underway.isSending {s : LongMessageSender} {msg : List UInt8} {k : ℕ}
    (h : s.Underway msg k) : s.isSending = true := by
  apply decide_eq_true
  rw [UInt32.lt_iff_toNat_lt, h.index, h.length]
  exact h.more

theorem pending_drop {s : LongMessageSender} {msg : List UInt8} {k : ℕ}
    (h : if 5 * k < msg.length then s.Underway msg k else s.isSending = false) :
    s.Pending (Function.update (fun _ => []) s.sendStreamId
      ((dataFrames s.frameId s.sendStreamId msg (fragmentCount msg.length)).drop k)) := by
  unfold Pending
  split_ifs at h with hmore
  · rw [if_pos h.isSending]
    exact ⟨msg, k, h, rfl⟩
  · rw [if_neg (by rw [h]; exact Bool.false_ne_true)]
    have hlast : fragmentCount msg.length ≤ k := by
      have hnot : ¬ k < fragmentCount msg.length := fun hc => hmore (lt_fragmentCount.mp hc)
      omega
    have hnone : (dataFrames s.frameId s.sendStreamId msg (fragmentCount msg.length)).drop k = [] :=
      List.drop_eq_nil_of_le (by simpa [dataFrames] using hlast)
    rw [hnone]
    exact Function.update_eq_self _ _

theorem Underway.sendNext {s : LongMessageSender} {msg : List UInt8} {k : ℕ}
    (h : s.Underway msg k) {now : UInt32} (sent : UInt32)
    (hover : s.msgDelay.toUInt32 ≤ now - s.lastFragmentSent) :
    ∃ s' : LongMessageSender, s.sendNext now sent = some (s.cbusObject.takes, s') ∧
      s.cbusObject.Offers (dataFrame s.frameId s.sendStreamId msg k) s'.cbusObject ∧
      s'.frameId = s.frameId ∧ s'.sendStreamId = s.sendStreamId ∧
      s'.sendBufferIndex ≠ s.sendBufferIndex ∧
      if 5 * (k + 1) < msg.length then s'.Underway msg (k + 1) else s'.isSending = false := by
  have hlt : s.sendBufferIndex < s.sendBufferLen := of_decide_eq_true h.isSending
  obtain ⟨data, i, hfill, hi, hpayload⟩ :=
    fillPayload_dataFrame h.buffer h.length h.index h.more h.seq s.frameId s.sendStreamId
  obtain ⟨n, heq, hoffers⟩ := sendMessageFragment_offers
    { s with lastFragmentSent := sent, sendBufferIndex := i } data s.sendPriority
  rw [hpayload] at hoffers
  unfold LongMessageSender.sendNext
  rw [if_pos ⟨hlt, hover⟩]
  dsimp only
  rw [hfill, Option.bind_eq_bind, Option.bind_some]
  dsimp only
  rw [heq]
  have hmore := h.more
  refine ⟨_, rfl, hoffers, ?_, rfl, ?_, ?_⟩
  · change fragmentId n.moduleConfig.canId s.sendPriority = _
    rw [hoffers.moduleConfig]
    rfl
  · intro he
    change i = s.sendBufferIndex at he
    rw [he, h.index] at hi
    omega
  · split_ifs with hnext
    · refine ⟨h.buffer, h.length, ?_, ?_, hnext⟩
      · change i.toNat = _
        omega
      · have hlen := s.sendBufferLen.toNat_lt
        rw [h.length] at hlen
        change (s.sendSequenceNum + 1).toNat = _
        rw [UInt32.toNat_add, h.seq]
        exact Nat.mod_eq_of_lt (by simp; omega)
    · apply decide_eq_false
      change ¬ i < s.sendBufferLen
      rw [UInt32.lt_iff_toNat_lt, hi, h.length]
      omega

theorem sendLongMessage_offers {s : LongMessageSender} (hidle : s.isSending = false)
    (m : OutgoingMessage) :
    ∃ s' : LongMessageSender, s.sendLongMessage m.mem m.len m.streamId m.priority =
        (s.cbusObject.takes, s') ∧
      s.cbusObject.Offers (headerFrame (fragmentId s.cbusObject.moduleConfig.canId m.priority)
        m.streamId m.bytes.length 0) s'.cbusObject ∧
      s'.frameId = fragmentId s.cbusObject.moduleConfig.canId m.priority ∧
      s'.sendStreamId = m.streamId ∧
      if 5 * 0 < m.bytes.length then s'.Underway m.bytes 0 else s'.isSending = false := by
  obtain ⟨n, heq, hoffers⟩ := sendMessageFragment_offers { s with
      sendBuffer := m.mem
      sendBufferLen := m.len
      sendStreamId := m.streamId
      sendPriority := m.priority
      sendBufferIndex := 0
      sendSequenceNum := 0 }
    #v[0, m.streamId, (0 : UInt32).toUInt8, highByte m.len.toNat, lowByte m.len.toNat, 0, 0, 0]
    m.priority
  unfold sendLongMessage
  rw [hidle, if_neg Bool.false_ne_true]
  dsimp only
  rw [heq]
  rw [m.toNat_len] at hoffers
  refine ⟨_, rfl, hoffers, ?_, rfl, ?_⟩
  · change fragmentId n.moduleConfig.canId m.priority = _
    rw [hoffers.moduleConfig]
  · split_ifs with hpos
    · exact ⟨List.prefix_append _ _, m.toNat_len, rfl, rfl, hpos⟩
    · apply decide_eq_false
      change ¬ (0 : UInt32) < m.len
      rw [UInt32.lt_iff_toNat_lt, m.toNat_len]
      exact hpos

end LongMessageSender

namespace CBUSLongMessage

/-- `CBUSLongMessage` as a sender: one message at a time, and no CRC. -/
def sending : SendingClass CBUSLongMessage where
  call lm
    | .send m =>
      let (ret, s) := lm.sendLongMessage m.mem m.len m.streamId m.priority
      some (ret, { lm with toLongMessageSender := s })
    | .process clock => lm.process clock
  node lm := lm.cbusObject
  marks lm := [(lm.sendBufferIndex, lm.sendSequenceNum)]
  inProgress lm t := lm.isSending && lm.sendStreamId == t
  headerCrc _ _ := 0

theorem sending_send {lm : CBUSLongMessage} {m : OutgoingMessage} {ret : Bool}
    {s : LongMessageSender}
    (h : lm.sendLongMessage m.mem m.len m.streamId m.priority = (ret, s)) :
    sending.call lm (.send m) = some (ret, { lm with toLongMessageSender := s }) := by
  unfold sending
  dsimp only
  rw [h]

/-- The call finds the handler for a receive timeout. -/
def Faultless (lm : CBUSLongMessage) : SenderCall → Prop
  | .send _ => True
  | .process clock => lm.timedOut (clock 0) = true → lm.messagehandler = true

/-- The controller takes what this call sends, if it sends anything. The header of an empty message
may be refused. -/
def Taken (w : Watched CBUSLongMessage) : SenderCall → Prop
  | .send m => w.object.isSending = true ∨ m.bytes = [] ∨ w.object.cbusObject.takes = true
  | .process clock => w.object.isSending = true →
      w.object.msgDelay.toUInt32 ≤ clock 1 - w.object.lastFragmentSent →
      w.object.cbusObject.takes = true

/-- The account of the sender: the messages it has accepted, what went out and what is to come. -/
structure Accounts (first : CBUSLongMessage) (w : Watched CBUSLongMessage) : Prop where
  kept : w.kept = true
  balanced : ∃ pending, w.object.Pending pending ∧
    Balanced CANFrame.streamId first.cbusObject.transmittedFrames
      w.object.cbusObject.transmittedFrames pending w.accepted

variable {first : CBUSLongMessage} {w w' : Watched CBUSLongMessage}

theorem Accounts.losesNothing (h : Accounts first w) : sending.LosesNothing first w := by
  obtain ⟨pending, -, hbal⟩ := h.balanced
  exact ⟨h.kept, hbal.ofTag_prefix⟩

theorem process_eq_some {lm lm' : CBUSLongMessage} {clock : Clock} {ret : Bool}
    (h : lm.process clock = some (ret, lm')) :
    lm.sendNext (clock 1) (clock 2) = some (ret, lm'.toLongMessageSender) := by
  obtain ⟨r, -, hrest⟩ := Option.bind_eq_some_iff.mp h
  obtain ⟨⟨ret', s⟩, hs, heq⟩ := Option.bind_eq_some_iff.mp hrest
  cases Option.some.inj heq
  exact hs

theorem Accounts.process (h : Accounts first w) {clock : Clock}
    (hcall : sending.step w (.process clock) = some w') :
    (Taken w (.process clock) → Accounts first w') ∧
      (¬ Taken w (.process clock) → w'.kept = false) := by
  obtain ⟨ret, lm', hprocess, rfl⟩ := SendingClass.step_process hcall
  have hnext := process_eq_some hprocess
  obtain ⟨pending, hpending, hbal⟩ := h.balanced
  by_cases hsends : w.object.isSending = true ∧
      w.object.msgDelay.toUInt32 ≤ clock 1 - w.object.lastFragmentSent
  · have hahead := hpending
    unfold LongMessageSender.Pending at hahead
    rw [if_pos hsends.1] at hahead
    obtain ⟨msg, k, hunder, rfl⟩ := hahead
    obtain ⟨s', hs', hoffers, hid, hstream, hmoved, hrest⟩ := hunder.sendNext (clock 2) hsends.2
    cases Option.some.inj (hs'.symm.trans hnext)
    have hk : k < fragmentCount msg.length := lt_fragmentCount.mpr hunder.more
    rw [dataFrames_drop hk] at hbal
    constructor
    · intro htaken
      have htakes := htaken hsends.1 hsends.2
      have hframes := hoffers.frames
      rw [htakes, if_pos rfl] at hframes
      have hnew := hbal.emit (t := w.object.sendStreamId) rfl (Function.update_self ..)
      rw [Function.update_idem, ← hframes] at hnew
      have hcome := LongMessageSender.pending_drop hrest
      rw [hid, hstream] at hcome
      refine ⟨?_, _, hcome, hnew⟩
      rw [h.kept, htakes]
      rfl
    · intro hrefused
      have htakes : w.object.cbusObject.takes = false := by
        by_contra hne
        exact hrefused fun _ _ => Bool.eq_true_of_not_eq_false hne
      have hmarks : (sending.marks lm' == sending.marks w.object) = false := by
        rw [beq_eq_false_iff_ne]
        intro he
        exact hmoved (Prod.mk.inj (List.cons.inj he).1).1
      rw [htakes, hmarks, h.kept]
      rfl
  · have hsame : w.object.sendNext (clock 1) (clock 2) =
        some (true, w.object.toLongMessageSender) :=
      if_neg fun hc => hsends ⟨decide_eq_true hc.1, hc.2⟩
    obtain ⟨rfl, hs⟩ := Prod.mk.inj (Option.some.inj (hsame.symm.trans hnext))
    constructor
    · intro _
      refine ⟨by rw [h.kept]; rfl, pending, ?_, ?_⟩
      · change lm'.toLongMessageSender.Pending pending
        rw [← hs]
        exact hpending
      · change Balanced _ _ lm'.toLongMessageSender.cbusObject.transmittedFrames _ _
        rw [← hs]
        exact hbal
    · intro hrefused
      exact absurd (fun hs ho => absurd ⟨hs, ho⟩ hsends) hrefused

theorem Accounts.send (h : Accounts first w) {m : OutgoingMessage}
    (hcall : sending.step w (.send m) = some w') :
    (Taken w (.send m) → Accounts first w') ∧ (¬ Taken w (.send m) → w'.kept = false) := by
  obtain ⟨ret, lm', hsend, rfl⟩ := SendingClass.step_send hcall
  obtain ⟨pending, hpending, hbal⟩ := h.balanced
  cases hs : w.object.isSending with
  | true =>
    have hsame : w.object.sendLongMessage m.mem m.len m.streamId m.priority =
        (false, w.object.toLongMessageSender) := if_pos hs
    obtain ⟨rfl, rfl⟩ := Prod.mk.inj (Option.some.inj (hsend.symm.trans (sending_send hsame)))
    refine ⟨fun _ => ⟨?_, pending, hpending, hbal⟩, fun hrefused => absurd (Or.inl hs) hrefused⟩
    rw [h.kept, beq_self_eq_true]
    rfl
  | false =>
    obtain ⟨s', hs', hoffers, hid, hstream, hrest⟩ :=
      LongMessageSender.sendLongMessage_offers hs m
    obtain ⟨rfl, rfl⟩ := Prod.mk.inj (Option.some.inj (hsend.symm.trans (sending_send hs')))
    obtain rfl := hpending.free hs
    have hcome := LongMessageSender.pending_drop hrest
    rw [hid, hstream, List.drop_zero] at hcome
    have hframes := hoffers.frames
    cases htakes : w.object.cbusObject.takes with
    | true =>
      rw [htakes, if_pos rfl] at hframes
      refine ⟨fun _ => ⟨?_, _, hcome, ?_⟩, fun hrefused => absurd (Or.inr (Or.inr htakes)) hrefused⟩
      · rw [h.kept]
        rfl
      · change Balanced _ _ s'.cbusObject.transmittedFrames _ _
        rw [hframes]
        exact hbal.begin rfl rfl
    | false =>
      rw [htakes, if_neg Bool.false_ne_true, List.append_nil] at hframes
      by_cases hempty : m.bytes = []
      · rw [if_neg (by rw [hempty]; exact Nat.lt_irrefl 0)] at hrest
        refine ⟨fun _ => ⟨?_, fun _ => [], ?_, ?_⟩,
          fun hrefused => absurd (Or.inr (Or.inl hempty)) hrefused⟩
        · change (w.kept && (false || (s'.isSending && _) == (w.object.isSending && _))) = true
          rw [h.kept, hrest, hs]
          rfl
        · unfold LongMessageSender.Pending
          rw [if_neg (by rw [hrest]; exact Bool.false_ne_true)]
        · change Balanced _ _ s'.cbusObject.transmittedFrames _ _
          rw [hframes]
          exact hbal
      · rw [if_pos (List.length_pos_of_ne_nil hempty)] at hrest
        constructor
        · rintro (hc | hc | hc)
          · exact absurd (hs.symm.trans hc) Bool.false_ne_true
          · exact absurd hc hempty
          · exact absurd (htakes.symm.trans hc) Bool.false_ne_true
        · intro _
          change (w.kept && (false || (s'.isSending && s'.sendStreamId == m.streamId) ==
            (w.object.isSending && w.object.sendStreamId == m.streamId))) = false
          rw [h.kept, hs, hrest.isSending, hstream, beq_self_eq_true]
          rfl

theorem checkTimeout_isSome_iff (lm : CBUSLongMessage) (now : UInt32) :
    (lm.checkTimeout now).isSome = true ↔ (lm.timedOut now = true → lm.messagehandler = true) := by
  unfold LongMessageReceiver.checkTimeout LongMessageReceiver.callHandler
  cases lm.timedOut now <;> cases lm.messagehandler <;> simp

/-- The buffer of the sender is the memory of the message, so sending does not fault. -/
theorem Accounts.call_isSome_iff (h : Accounts first w) (call : SenderCall) :
    (sending.call w.object call).isSome = true ↔ w.object.Faultless call := by
  cases call with
  | send m => exact ⟨fun _ => trivial, fun _ => rfl⟩
  | process clock =>
    obtain ⟨pending, hpending, -⟩ := h.balanced
    have hnext : (w.object.sendNext (clock 1) (clock 2)).isSome = true := by
      by_cases hsends : w.object.isSending = true ∧
          w.object.msgDelay.toUInt32 ≤ clock 1 - w.object.lastFragmentSent
      · unfold LongMessageSender.Pending at hpending
        rw [if_pos hsends.1] at hpending
        obtain ⟨msg, k, hunder, -⟩ := hpending
        obtain ⟨s', hs', -⟩ := hunder.sendNext (clock 2) hsends.2
        rw [hs']
        rfl
      · have hsame : w.object.sendNext (clock 1) (clock 2) =
            some (true, w.object.toLongMessageSender) :=
          if_neg fun hc => hsends ⟨decide_eq_true hc.1, hc.2⟩
        rw [hsame]
        rfl
    have hcheck := checkTimeout_isSome_iff w.object (clock 0)
    have hcall : (w.object.process clock).isSome = (w.object.checkTimeout (clock 0)).isSome := by
      obtain ⟨r, hr⟩ := Option.isSome_iff_exists.mp hnext
      unfold CBUSLongMessage.process
      rw [hr]
      cases w.object.checkTimeout (clock 0) <;> rfl
    exact (Bool.eq_iff_iff.mp hcall).trans hcheck

/-- A call keeps the account if its frame is taken, and otherwise something is lost. -/
theorem Accounts.step (h : Accounts first w) (call : SenderCall)
    (hcall : sending.step w call = some w') :
    (Taken w call → Accounts first w') ∧ (¬ Taken w call → w'.kept = false) := by
  cases call with
  | send m => exact h.send hcall
  | process clock => exact h.process hcall

theorem accounts_start (hidle : first.isSending = false) : Accounts first { object := first } where
  kept := rfl
  balanced := ⟨fun _ => [], by
    unfold LongMessageSender.Pending
    rw [if_neg (by rw [hidle]; exact Bool.false_ne_true)], balanced_start _⟩

end CBUSLongMessage
end CBUSPicoLib
