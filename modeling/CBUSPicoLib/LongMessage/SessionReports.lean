import CBUSPicoLib.LongMessage.Restarts
import CBUSPicoLib.LongMessage.Verdicts

/-!
# What the fragments of a session report

Between the frames of a message others may arrive, from other senders and on other streams, and
`process` may be called at any time. Whatever the frames of the message then make the receiver
report has the status that the header CRC gives the bytes that arrived.
-/

namespace CBUSPicoLib

open Runs SessionTable

variable {m : StreamMessage} {frame : CANFrame} {clock : Clock} {calls : List ReceiverCall}

namespace StreamMessage

theorem arrived_cons_process (m : StreamMessage) (clock : Clock) (calls : List ReceiverCall) :
    m.arrived (.process clock :: calls) = m.arrived calls := by simp [arrived, fragments]

theorem arrived_cons_fragment (h : frame.sessionKey = m.sessionKey) :
    m.arrived (.fragment frame clock :: calls) = frame :: m.arrived calls := by
  simp [arrived, fragments, h]

theorem arrived_cons_other (h : frame.sessionKey ≠ m.sessionKey) :
    m.arrived (.fragment frame clock :: calls) = m.arrived calls := by
  simp [arrived, fragments, h]

end StreamMessage

namespace CBUSLongMessageEx

variable {lm lm' : CBUSLongMessageEx} {useCrc : Bool} {n : ℕ} {k : UInt8 × UInt8}

/-- What one call reports, if it hands over a fragment of the session. -/
def callReports (k : UInt8 × UInt8) (lm lm' : CBUSLongMessageEx) : ReceiverCall → List HandlerCall
  | .fragment frame _ =>
    if frame.sessionKey = k then lm'.handled.drop lm.handled.length else []
  | .process _ => []

def sessionReports (k : UInt8 × UInt8) : CBUSLongMessageEx → List ReceiverCall → List HandlerCall
  | _, [] => []
  | lm, call :: calls => match lm.receive call with
    | some lm' => callReports k lm lm' call ++ sessionReports k lm' calls
    | none => []

theorem sessionReports_cons {call : ReceiverCall} (h : lm.receive call = some lm')
    (calls : List ReceiverCall) : sessionReports k lm (call :: calls) =
      callReports k lm lm' call ++ sessionReports k lm' calls := by simp [sessionReports, h]

theorem mem_sessionReports_cons {call : ReceiverCall} {x : HandlerCall}
    (hx : x ∈ sessionReports k lm (call :: calls)) : ∃ lm', lm.receive call = some lm' ∧
      (x ∈ callReports k lm lm' call ∨ x ∈ sessionReports k lm' calls) := by
  cases hcall : lm.receive call with
  | none => simp [sessionReports, hcall] at hx
  | some lm' =>
    rw [sessionReports_cons hcall] at hx
    exact ⟨lm', rfl, List.mem_append.mp hx⟩

theorem handled_eq_sessionReports {frames : List CANFrame} (h : ∀ f ∈ frames, f.sessionKey = k)
    (hrun : runOption receive lm (handOver frames) = some lm') :
    lm'.handled = lm.handled ++ lm.sessionReports k (handOver frames) := by
  induction frames generalizing lm with
  | nil =>
    cases Option.some.inj hrun
    simp [handOver, sessionReports]
  | cons f frames ih =>
    obtain ⟨s, hs, hrest⟩ := runOption_cons_eq_some.mp hrun
    obtain ⟨rs, hd, rfl, logged, rfl⟩ := processReceivedMessageFragment_frame hs
    have hreports := sessionReports_cons (k := k) hs (handOver frames)
    have hhead := h f List.mem_cons_self
    rw [ih (fun f hf => h f (List.mem_cons_of_mem _ hf)) hrest]
    simp only [callReports, hhead, if_true, List.drop_left] at hreports
    simp [handOver] at hreports ⊢
    exact hreports.symm

/-- The session has at most one context, and this one has received what arrived: for `n` frames
the header and `n - 1` data packets. -/
structure Follows (lm : CBUSLongMessageEx) (m : StreamMessage) (useCrc : Bool) (n : ℕ) :
    Prop where
  crcSetting : lm.useCrc = useCrc
  room : m.bytes.length ≤ lm.receiveBufferLen.toNat
  alone : ∀ (i j : ℕ) (c d : ReceiveContext), lm.receiveContext[i]? = some c →
    lm.receiveContext[j]? = some d → c.sessionKey = some m.sessionKey →
      d.sessionKey = some m.sessionKey → i = j
  received : ∀ c ∈ lm.receiveContext, c.sessionKey = some m.sessionKey → ∃ k, n = k + 1 ∧
    5 * k < m.bytes.length ∧ c.Receiving m.bytes m.streamId m.id m.crc lm.receiveBufferLen k

theorem Follows.unserved (h : lm.Follows m useCrc n)
    (hnone : ∀ c ∈ lm.receiveContext, c.sessionKey ≠ some m.sessionKey) (n' : ℕ) :
    lm.Follows m useCrc n' where
  crcSetting := h.crcSetting
  room := h.room
  alone := h.alone
  received := fun c hc hkey => absurd hkey (hnone c hc)

theorem Follows.setOther (h : lm.Follows m useCrc n) (i : ℕ) {c' : ReceiveContext}
    (hc' : c'.sessionKey ≠ some m.sessionKey) (handled : List HandlerCall) :
    Follows { lm with
      handled := handled
      receiveContext := lm.receiveContext.set i c' } m useCrc n := by
  have hold : ∀ (j : ℕ) (d : ReceiveContext), (lm.receiveContext.set i c')[j]? = some d →
      d.sessionKey = some m.sessionKey → lm.receiveContext[j]? = some d := by
    intro j d hd hkey
    rcases getElem?_set_cases hd with ⟨-, rfl⟩ | ⟨-, hd⟩
    · exact absurd hkey hc'
    · exact hd
  refine ⟨h.crcSetting, h.room, fun a b c d hc hd hck hdk => ?_, fun c hc hkey => ?_⟩
  · exact h.alone a b c d (hold a c hc hck) (hold b d hd hdk) hck hdk
  · obtain ⟨j, hj⟩ := List.mem_iff_getElem?.mp hc
    exact h.received c (List.mem_of_getElem? (hold j c hj hkey)) hkey

/-- The context of the session is written, which no other context serves: it has received the next
frame, or it is free. -/
theorem Follows.setOwn (h : lm.Follows m useCrc n) {i k : ℕ} {c' : ReceiveContext}
    (hothers : ∀ (j : ℕ) (d : ReceiveContext), lm.receiveContext[j]? = some d →
      d.sessionKey = some m.sessionKey → j = i)
    (hc' : c'.sessionKey = some m.sessionKey → 5 * k < m.bytes.length ∧
      c'.Receiving m.bytes m.streamId m.id m.crc lm.receiveBufferLen k)
    (handled : List HandlerCall) :
    Follows { lm with
      handled := handled
      receiveContext := lm.receiveContext.set i c' } m useCrc (k + 1) := by
  have hold : ∀ (j : ℕ) (d : ReceiveContext), (lm.receiveContext.set i c')[j]? = some d →
      d.sessionKey = some m.sessionKey → j = i ∧ d = c' := by
    intro j d hd hkey
    rcases getElem?_set_cases hd with hown | ⟨hj, hd⟩
    · exact hown
    · exact absurd (hothers j d hd hkey) hj
  refine ⟨h.crcSetting, h.room, fun a b c d hc hd hck hdk => ?_, fun c hc hkey => ?_⟩
  · rw [(hold a c hc hck).1, (hold b d hd hdk).1]
  · obtain ⟨j, hj⟩ := List.mem_iff_getElem?.mp hc
    obtain ⟨-, rfl⟩ := hold j c hj hkey
    exact ⟨k, rfl, hc' hkey⟩

theorem sessionKey_of_matchesFrame {c : ReceiveContext}
    (hget : lm.receiveContext[lm.receiveContext.findIdx (·.matchesFrame frame)]? = some c) :
    c.sessionKey = some frame.sessionKey := by
  have hmatch := pred_of_found (p := fun d : ReceiveContext => d.matchesFrame frame) hget
  rw [ReceiveContext.matchesFrame_eq_decide] at hmatch
  exact of_decide_eq_true hmatch

theorem Follows.other (h : lm.Follows m useCrc n) (hne : frame.sessionKey ≠ m.sessionKey)
    (hcall : lm.receive (.fragment frame clock) = some lm') : lm'.Follows m useCrc n := by
  by_cases hzero : frame.data.get 2 = 0
  · have hheader : lm.receiveHeader frame clock = some lm' := (if_pos hzero).symm.trans hcall
    rcases receiveHeader_cases hheader with rfl | ⟨i, c, buffer, -, -, -, rfl⟩
    · exact h
    · refine h.setOther i (fun hkey => ?_) lm.handled
      exact hne (Option.some.inj hkey)
  · have hpacket : lm.receiveFragment frame clock = some lm' := (if_neg hzero).symm.trans hcall
    rcases receiveFragment_cases hpacket with ⟨-, rfl⟩ | ⟨c, hget, huse, hcase⟩
    · exact h
    · have hmatch := sessionKey_of_matchesFrame hget
      have hkey : ∀ c' : ReceiveContext, c.Continues c' →
          c'.sessionKey ≠ some m.sessionKey := by
        intro c' hcont heq
        rcases hcont.sessionKey hmatch with hsame | hnone
        · exact hne (Option.some.inj (hsame.symm.trans heq))
        · exact absurd (hnone.symm.trans heq) (by simp)
      split_ifs at hcase
      · obtain ⟨c', call, htake, rfl⟩ := hcase
        have hcont := ReceiveContext.takeBytes_continues 5 htake
        have hnext : c.Continues { c' with
            expectedNextReceiveSequenceNum := c'.expectedNextReceiveSequenceNum + 1 } :=
          ⟨hcont.sender, hcont.stream, hcont.allocated⟩
        exact h.setOther _ (hkey _ hnext) _
      · rw [hcase]
        exact h.setOther _ (hkey _ c.continues_released) _

theorem Follows.header (h : lm.Follows m useCrc 0) (hpos : 1 ≤ m.bytes.length)
    (hmax : m.bytes.length ≤ 65535)
    (hcall : lm.receive (.fragment (headerFrame m.id m.streamId m.bytes.length m.crc) clock) =
      some lm') : lm'.Follows m useCrc 1 ∧ lm'.handled = lm.handled := by
  have hnone : ∀ c ∈ lm.receiveContext, c.sessionKey ≠ some m.sessionKey := by
    intro c hc hkey
    obtain ⟨k, hk, -⟩ := h.received c hc hkey
    omega
  have hheader : lm.receiveHeader (headerFrame m.id m.streamId m.bytes.length m.crc) clock =
      some lm' := hcall
  rcases receiveHeader_cases hheader with rfl | ⟨i, c, buffer, -, -, halloc, rfl⟩
  · exact ⟨h.unserved hnone 1, rfl⟩
  · refine ⟨h.setOwn (k := 0) ?_ (fun _ => ⟨hpos, ?_⟩) lm.handled, rfl⟩
    · exact fun j d hd hkey => absurd hkey (hnone d (List.mem_of_getElem? hd))
    · exact ReceiveContext.receiving_header h.room halloc hmax m.id m.streamId m.crc (clock 0)

theorem Follows.packet {k : ℕ} (h : lm.Follows m useCrc (k + 1)) (hmore : 5 * k < m.bytes.length)
    (hmax : m.bytes.length ≤ 1275)
    (hcall : lm.receive (.fragment (dataFrame m.id m.streamId m.bytes k) clock) = some lm') :
    lm'.Follows m useCrc (k + 2) ∧ ∀ call ∈ lm'.handled.drop lm.handled.length,
      call.status = crcVerdict useCrc m.bytes m.crc := by
  have hdata := dataFrame_seq_ne m.id m.streamId m.bytes (show k + 1 < 256 by omega)
  have hpacket : lm.receiveFragment (dataFrame m.id m.streamId m.bytes k) clock = some lm' :=
    (if_neg hdata).symm.trans hcall
  rcases receiveFragment_cases hpacket with ⟨hnone, rfl⟩ | ⟨c, hget, huse, hcase⟩
  · -- no context serves the session
    refine ⟨h.unserved (fun c hc hkey => ?_) _, by simp⟩
    have hlt := List.findIdx_lt_length_of_exists
      (p := (·.matchesFrame (dataFrame m.id m.streamId m.bytes k)))
      ⟨c, hc, by rw [ReceiveContext.matchesFrame_eq_decide]; exact decide_eq_true hkey⟩
    exact absurd hlt (Nat.not_lt.mpr (List.getElem?_eq_none_iff.mp hnone))
  · have hkey : c.sessionKey = some m.sessionKey := sessionKey_of_matchesFrame hget
    have hothers : ∀ (j : ℕ) (d : ReceiveContext), lm.receiveContext[j]? = some d →
        d.sessionKey = some m.sessionKey → j = lm.receiveContext.findIdx
          (·.matchesFrame (dataFrame m.id m.streamId m.bytes k)) :=
      fun j d hd hdk => h.alone _ _ d c hd hget hdk hkey
    obtain ⟨k', hk', -, hc⟩ := h.received c (List.mem_of_getElem? hget) hkey
    obtain rfl := Nat.succ.inj hk'
    obtain ⟨c', call, htake, hnext⟩ := hc.next hmore (by omega) (by omega) lm.useCrc clock
    rw [if_pos (hc.seq_eq (by omega))] at hcase
    obtain ⟨d, call', htake', rfl⟩ := hcase
    cases htake.symm.trans htake'
    rw [h.crcSetting] at hnext
    dsimp only at hnext
    split_ifs at hnext with hgoes
    · obtain ⟨rfl, hc'⟩ := hnext
      exact ⟨h.setOwn hothers (fun _ => ⟨hgoes, hc'⟩) _, by simp⟩
    · obtain ⟨hidle, -, last, rfl, hpasses⟩ := hnext
      refine ⟨h.setOwn hothers (fun hserves => ?_) _, by simpa using hpasses.status⟩
      simp [ReceiveContext.sessionKey, hidle] at hserves

theorem Follows.process (h : lm.Follows m useCrc n)
    (hcall : lm.receive (.process clock) = some lm') : lm'.Follows m useCrc n := by
  obtain ⟨⟨ret, b⟩, hb, rfl⟩ := Option.map_eq_some_iff.mp hcall
  refine process_invariant (Follows · m useCrc n) (fun a i c ha hget huse => ?_)
    (fun a n cs i ha => ?_) h hb
  · exact ha.setOther i (by simp [ReceiveContext.sessionKey]) _
  · exact ⟨ha.crcSetting, ha.room, ha.alone, ha.received⟩

theorem Follows.ownFrame (h : lm.Follows m useCrc n) (hpos : 1 ≤ m.bytes.length)
    (hmax : m.bytes.length ≤ 1275) (hframe : m.frames[n]? = some frame)
    (hcall : lm.receive (.fragment frame clock) = some lm') :
    lm'.Follows m useCrc (n + 1) ∧ ∀ call ∈ lm'.handled.drop lm.handled.length,
      call.status = crcVerdict useCrc m.bytes m.crc := by
  cases n with
  | zero =>
    rw [StreamMessage.frames_zero hframe] at hcall
    obtain ⟨hnext, hsame⟩ := h.header hpos (by omega) hcall
    exact ⟨hnext, by simp [hsame]⟩
  | succ k =>
    obtain ⟨hmore, rfl⟩ := StreamMessage.frames_succ hframe
    exact h.packet hmore hmax hcall

/-- All that the frames of the message make the receiver report has the status that the CRC of the
header gives the bytes. -/
theorem Follows.run (h : lm.Follows m useCrc n) (hpos : 1 ≤ m.bytes.length)
    (hmax : m.bytes.length ≤ 1275) (hframes : m.arrived calls = m.frames.drop n) :
    ∀ call ∈ lm.sessionReports m.sessionKey calls,
      call.status = crcVerdict useCrc m.bytes m.crc := by
  induction calls generalizing lm n with
  | nil => simp [sessionReports]
  | cons call calls ih =>
    intro x hx
    obtain ⟨lm', hcall, hx⟩ := mem_sessionReports_cons hx
    cases call with
    | process clock =>
      rw [StreamMessage.arrived_cons_process] at hframes
      rcases hx with hx | hx
      · simp [callReports] at hx
      · exact ih (h.process hcall) hframes x hx
    | fragment frame clock =>
      by_cases hkey : frame.sessionKey = m.sessionKey
      · rw [StreamMessage.arrived_cons_fragment hkey] at hframes
        have hframe : m.frames[n]? = some frame := by
          rw [← List.head?_drop, ← hframes, List.head?_cons]
        have hrest : m.arrived calls = m.frames.drop (n + 1) := by
          rw [← List.tail_drop, ← hframes, List.tail_cons]
        obtain ⟨hnext, hreports⟩ := h.ownFrame hpos hmax hframe hcall
        rcases hx with hx | hx
        · exact hreports x (by simpa [callReports, hkey] using hx)
        · exact ih hnext hrest x hx
      · rw [StreamMessage.arrived_cons_other hkey] at hframes
        rcases hx with hx | hx
        · simp [callReports, hkey] at hx
        · exact ih (h.other hkey hcall) hframes x hx

theorem Awaiting.follows (h : lm.Awaiting m.id m.streamId m.bytes.length) :
    lm.Follows m lm.useCrc 0 := by
  have hnone : ∀ c ∈ lm.receiveContext, c.sessionKey ≠ some m.sessionKey :=
    fun c hc hkey => session_eq_none.mp h.unserved (mem_keys.mpr ⟨c, hc, hkey⟩)
  refine ⟨rfl, h.room, fun i j c d hi _ hc _ => ?_, fun c hc hkey => absurd hkey (hnone c hc)⟩
  exact absurd hc (hnone c (List.mem_of_getElem? hi))

end CBUSLongMessageEx
end CBUSPicoLib
