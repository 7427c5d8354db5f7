import CBUSPicoLib.Library.WrappedClock
import CBUSPicoLib.LongMessage.Fragments

/-!
# A message sent by `CBUSLongMessage` over a whole schedule

`process` sends the next data packet when the delay since the last one is over on a clock of
32 bits. Whatever the times of the calls are, what has been sent is the beginning of one
sequence of frames, and on the true clock the data packets are at least the delay apart.
-/

namespace CBUSPicoLib

def CANFrame.payload (f : CANFrame) : List UInt8 := f.data.toList.drop 3

/-- The fragments of a message: a header with its length and CRC, and a data packet for every
five bytes, numbered from 1 on modulo 256. -/
structure ReferenceFragments (streamId : UInt8) (msg : List UInt8) (crc : UInt16)
    (header : CANFrame) (packets : List CANFrame) : Prop where
  headerLen : header.len = 8
  headerData : header.data.toList = [opcDtxc, streamId, 0, highByte msg.length, lowByte msg.length,
    highByte crc.toNat, lowByte crc.toNat, 0]
  count : packets.length = (msg.length + 4) / 5
  packet : ∀ f ∈ packets, f.len = 8 ∧ f.data.get 0 = opcDtxc ∧ f.data.get 1 = streamId
  sequence : packets.map (fun f => f.data.get 2) =
    (List.range packets.length).map fun k => UInt8.ofNat (k + 1)
  payload : packets.flatMap CANFrame.payload =
    msg ++ List.replicate (5 * packets.length - msg.length) 0

theorem length_dataFrames (id : UInt32) (streamId : UInt8) (msg : List UInt8) (k : ℕ) :
    (dataFrames id streamId msg k).length = k := by
  rw [dataFrames, List.length_map, List.length_range]

/-- The payloads of the first packets are the first bytes of the message, padded with zeros. -/
theorem payload_dataFrames (id : UInt32) (streamId : UInt8) (msg : List UInt8) (k : ℕ) :
    (dataFrames id streamId msg k).flatMap CANFrame.payload =
      (List.range (5 * k)).map fun j => msg.getD j 0 := by
  induction k with
  | zero => rfl
  | succ k ih =>
    have hpacket : (dataFrame id streamId msg k).payload =
        (List.range 5).map fun j => msg.getD (5 * k + j) 0 := rfl
    rw [dataFrames_succ, List.flatMap_append, ih, List.flatMap_singleton, hpacket,
      show 5 * (k + 1) = 5 * k + 5 by ring, List.range_add, List.map_append, List.map_map]
    rfl

theorem range_map_getD {msg : List UInt8} {n : ℕ} (h : msg.length ≤ n) :
    (List.range n).map (fun j => msg.getD j 0) = msg ++ List.replicate (n - msg.length) 0 := by
  apply List.ext_getElem
  · simp
    omega
  · intro j hj hj'
    rw [List.getElem_map, List.getElem_range, List.getElem_append, List.getD_eq_getElem?_getD]
    split_ifs with hlt
    · rw [List.getElem?_eq_getElem hlt]
      rfl
    · rw [List.getElem?_eq_none (by omega), List.getElem_replicate]
      rfl

theorem referenceFragments_frames (id : UInt32) (streamId : UInt8) (msg : List UInt8)
    (crc : UInt16) : ReferenceFragments streamId msg crc (headerFrame id streamId msg.length crc)
      (dataFrames id streamId msg (fragmentCount msg.length)) := by
  constructor
  · rfl
  · rfl
  · exact length_dataFrames id streamId msg _
  · intro f hf
    obtain ⟨k, -, rfl⟩ := List.mem_map.mp hf
    exact ⟨rfl, rfl, rfl⟩
  · rw [length_dataFrames, dataFrames, List.map_map]
    rfl
  · rw [payload_dataFrames, length_dataFrames]
    apply range_map_getD
    unfold fragmentCount
    omega

namespace CBUSLongMessage

/-- The readings of one call, taken at true times, on a clock that shows them modulo 2³². -/
def wrapped (times : ℕ → ℕ) : Clock := fun i => UInt32.ofNat (times i)

/-- The readings that a schedule of `process` calls takes, in order. -/
def readings (calls : List (ℕ → ℕ)) : List ℕ := calls.flatMap fun times => [times 0, times 1, times 2]

/-- The true times at which a schedule of `process` calls sends frames, one for each frame. -/
def emissionTimes (lm : CBUSLongMessage) : List (ℕ → ℕ) → List ℕ
  | [] => []
  | times :: calls =>
    match lm.process (wrapped times) with
    | none => []
    | some (_, lm') =>
      List.replicate (lm'.cbusObject.transmittedFrames.length -
        lm.cbusObject.transmittedFrames.length) (times 2) ++ lm'.emissionTimes calls

variable {msg : List UInt8} {streamId : UInt8} {id : UInt32} {sent : List CANFrame} {k : ℕ}
  {lm : CBUSLongMessage}

theorem length_frames_sending (h : lm.Sending msg streamId id sent k) :
    lm.cbusObject.transmittedFrames.length = sent.length + k := by
  rw [h.frames, List.length_append, length_dataFrames]

/-- The first call of a schedule: it sends the next data packet, if the delay is over, and
nothing else. -/
theorem emissionTimes_cons (hr : lm.CanReport) (h : lm.Sending msg streamId id sent k)
    (hmax : msg.length ≤ 65535) (times : ℕ → ℕ) (calls : List (ℕ → ℕ)) :
    ∃ lm' : CBUSLongMessage, lm.process (wrapped times) = some (true, lm') ∧ lm'.CanReport ∧
      lm'.msgDelay = lm.msgDelay ∧
      if lm.isSending ∧ lm.msgDelay.toUInt32 ≤ UInt32.ofNat (times 1) - lm.lastFragmentSent then
        lm'.Sending msg streamId id sent (k + 1) ∧
          lm'.lastFragmentSent = UInt32.ofNat (times 2) ∧
          lm.emissionTimes (times :: calls) = times 2 :: lm'.emissionTimes calls
      else lm'.Sending msg streamId id sent k ∧ lm'.lastFragmentSent = lm.lastFragmentSent ∧
        lm.emissionTimes (times :: calls) = lm'.emissionTimes calls := by
  obtain ⟨lm', heq, hr', hdelay, hcase⟩ := process_sending hr h hmax (wrapped times)
  have hlog : lm.emissionTimes (times :: calls) =
      List.replicate (lm'.cbusObject.transmittedFrames.length -
        lm.cbusObject.transmittedFrames.length) (times 2) ++ lm'.emissionTimes calls := by
    simp only [emissionTimes, heq]
  refine ⟨lm', heq, hr', hdelay, ?_⟩
  have hlen := length_frames_sending h
  change if lm.isSending ∧ lm.msgDelay.toUInt32 ≤
    UInt32.ofNat (times 1) - lm.lastFragmentSent then _ else _ at hcase
  split_ifs at hcase ⊢
  · refine ⟨hcase.1, hcase.2, ?_⟩
    rw [hlog, length_frames_sending hcase.1, hlen, show sent.length + (k + 1) -
      (sent.length + k) = 1 by omega]
    rfl
  · have hs : lm'.Sending msg streamId id sent k := by
      rw [hcase]
      exact h
    refine ⟨hs, by rw [hcase], ?_⟩
    rw [hlog, length_frames_sending hs, hlen, Nat.sub_self]
    rfl

/-- The readings of a schedule that begins with this call, after an earlier reading. -/
theorem readings_cons {last : ℕ} {times : ℕ → ℕ} {calls : List (ℕ → ℕ)}
    (h : (last :: readings (times :: calls)).Pairwise (· ≤ ·)) :
    last ≤ times 1 ∧ times 1 ≤ times 2 ∧ (times 2 :: readings calls).Pairwise (· ≤ ·) ∧
      (last :: readings calls).Pairwise (· ≤ ·) := by
  have hsplit : readings (times :: calls) = times 0 :: times 1 :: times 2 :: readings calls := rfl
  rw [hsplit] at h
  have h0 := h.of_cons
  have h1 := h0.of_cons
  refine ⟨List.rel_of_pairwise_cons h (by simp), List.rel_of_pairwise_cons h1 (by simp),
    h1.of_cons, List.pairwise_cons.mpr ⟨?_, h1.of_cons.of_cons⟩⟩
  intro b hb
  exact List.rel_of_pairwise_cons h (by simp [hb])

theorem length_emissionTimes (calls : List (ℕ → ℕ)) (hr : lm.CanReport)
    (h : lm.Sending msg streamId id sent k) (hmax : msg.length ≤ 65535) {lm' : CBUSLongMessage}
    {k' : ℕ} (hrun : lm.polls (calls.map wrapped) = some lm')
    (h' : lm'.Sending msg streamId id sent k') : k + (lm.emissionTimes calls).length = k' := by
  induction calls generalizing lm k with
  | nil =>
    cases Option.some.inj hrun
    have hl := length_frames_sending h
    have hl' := length_frames_sending h'
    simp only [emissionTimes, List.length_nil]
    omega
  | cons times calls ih =>
    obtain ⟨lm1, heq, hr1, -, hcase⟩ := emissionTimes_cons hr h hmax times calls
    have hpolls : lm.polls ((times :: calls).map wrapped) = lm1.polls (calls.map wrapped) := by
      unfold polls
      rw [List.map_cons, List.foldlM_cons, heq]
      rfl
    rw [hpolls] at hrun
    split_ifs at hcase
    · obtain ⟨hs1, -, hlog⟩ := hcase
      have hlen := ih hr1 hs1 hrun
      rw [hlog, List.length_cons]
      omega
    · obtain ⟨hs1, -, hlog⟩ := hcase
      rw [hlog]
      exact ih hr1 hs1 hrun

/-- After a data packet sent at time `last`, the further ones keep the delay from it and from
each other. -/
theorem emissionTimes_since {last : ℕ} (calls : List (ℕ → ℕ)) (hr : lm.CanReport)
    (h : lm.Sending msg streamId id sent k) (hmax : msg.length ≤ 65535)
    (hlast : lm.lastFragmentSent = UInt32.ofNat last)
    (htimes : (last :: readings calls).Pairwise (· ≤ ·)) :
    (last :: lm.emissionTimes calls).Pairwise fun a b => a + lm.msgDelay.toNat ≤ b := by
  induction calls generalizing lm k last with
  | nil => exact List.pairwise_singleton _ _
  | cons times calls ih =>
    obtain ⟨lm1, -, hr1, hdelay, hcase⟩ := emissionTimes_cons hr h hmax times calls
    obtain ⟨hle, hle', hsent, hrest⟩ := readings_cons htimes
    rw [hlast] at hcase
    split_ifs at hcase with hc
    · obtain ⟨hs1, hlast1, hlog⟩ := hcase
      have hover := WrappedClock.add_le_of_elapsed hle hc.2
      rw [UInt8.toNat_toUInt32] at hover
      have hnext := ih hr1 hs1 hlast1 hsent
      rw [hdelay] at hnext
      rw [hlog]
      refine List.pairwise_cons.mpr ⟨?_, hnext⟩
      intro b hb
      rcases List.mem_cons.mp hb with rfl | hb
      · omega
      · have hlater := List.rel_of_pairwise_cons hnext hb
        omega
    · obtain ⟨hs1, hlast1, hlog⟩ := hcase
      rw [hlog, ← hdelay]
      exact ih hr1 hs1 hlast1 hrest

theorem emissionTimes_spaced (calls : List (ℕ → ℕ)) (hr : lm.CanReport)
    (h : lm.Sending msg streamId id sent k) (hmax : msg.length ≤ 65535)
    (htimes : (readings calls).Pairwise (· ≤ ·)) :
    (lm.emissionTimes calls).Pairwise fun a b => a + lm.msgDelay.toNat ≤ b := by
  induction calls generalizing lm k with
  | nil => exact List.Pairwise.nil
  | cons times calls ih =>
    obtain ⟨lm1, -, hr1, hdelay, hcase⟩ := emissionTimes_cons hr h hmax times calls
    have hzero : (0 :: readings (times :: calls)).Pairwise (· ≤ ·) :=
      List.pairwise_cons.mpr ⟨fun b _ => Nat.zero_le b, htimes⟩
    obtain ⟨-, -, hsent, hrest⟩ := readings_cons hzero
    split_ifs at hcase
    · obtain ⟨hs1, hlast1, hlog⟩ := hcase
      rw [hlog, ← hdelay]
      exact emissionTimes_since calls hr1 hs1 hmax hlast1 hsent
    · obtain ⟨hs1, -, hlog⟩ := hcase
      rw [hlog, ← hdelay]
      exact ih hr1 hs1 hrest.of_cons

/-- A call that is refused because a message is being sent changes nothing. -/
theorem sendLongMessage_refused {s : LongMessageSender} (h : s.isSending = true) (mem : List UInt8)
    (len : UInt32) (streamId priority : UInt8) :
    s.sendLongMessage mem len streamId priority = (false, s) := if_pos h

/-- What a schedule of `process` calls makes of a message that `lm` has accepted: the first of its
packets, at least the delay apart, with `isSending` until the last one, and no other message
accepted before. The packets are all sent if there are enough calls with the delay over. -/
def EmitsFragments (lm started : CBUSLongMessage) (header : CANFrame) (packets : List CANFrame)
    (calls : List (ℕ → ℕ)) : Prop :=
  ∃ (lm' : CBUSLongMessage) (k : ℕ), started.polls (calls.map wrapped) = some lm' ∧
    k ≤ packets.length ∧
    lm'.cbusObject.transmittedFrames =
      lm.cbusObject.transmittedFrames ++ header :: packets.take k ∧
    (lm'.isSending = true ↔ k < packets.length) ∧
    (started.emissionTimes calls).length = k ∧
    ((started.emissionTimes calls).Pairwise fun a b => a + lm.msgDelay.toNat ≤ b) ∧
    (Spaced lm.msgDelay lm.lastFragmentSent (calls.map wrapped) →
      k = min calls.length packets.length) ∧
    (lm'.isSending = true → ∀ (mem : List UInt8) (len : UInt32) (streamId priority : UInt8),
      lm'.sendLongMessage mem len streamId priority = (false, lm'.toLongMessageSender))

/-- For every message of at most 65535 bytes and every schedule of `process` calls on a true
clock that never goes back: a message that is accepted is sent as its fragments. -/
theorem sendLongMessage_emits (lm : CBUSLongMessage) (hr : lm.CanReport)
    (htx : lm.cbusObject.Transmits) (msg mem : List UInt8) (hmem : msg <+: mem)
    (hmax : msg.length ≤ 65535) (len : UInt32) (hlen : len.toNat = msg.length)
    (streamId priority : UInt8)
    (haccepted : (lm.sendLongMessage mem len streamId priority).1 = true)
    (calls : List (ℕ → ℕ)) (htimes : (readings calls).Pairwise (· ≤ ·)) :
    let id := fragmentId lm.cbusObject.moduleConfig.canId priority
    let header := headerFrame id streamId msg.length 0
    let packets := dataFrames id streamId msg (fragmentCount msg.length)
    ReferenceFragments streamId msg 0 header packets ∧
      lm.EmitsFragments { lm with
        toLongMessageSender := (lm.sendLongMessage mem len streamId priority).2 }
        header packets calls := by
  intro id header packets
  let started : CBUSLongMessage :=
    { lm with toLongMessageSender := (lm.sendLongMessage mem len streamId priority).2 }
  refine ⟨referenceFragments_frames id streamId msg 0, ?_⟩
  have hidle : lm.isSending = false := by
    cases hs : lm.isSending with
    | false => rfl
    | true =>
      rw [sendLongMessage_refused hs] at haccepted
      exact absurd haccepted Bool.false_ne_true
  obtain ⟨s', hstart, hsending, hdelay, hlast⟩ := LongMessageSender.sendLongMessage_sending hidle
    htx hmem hlen streamId priority
  have hs : started.toLongMessageSender = s' := congrArg Prod.snd hstart
  have h0 : started.Sending msg streamId id
      (lm.cbusObject.transmittedFrames ++ [header]) 0 := hs ▸ hsending
  have hdelay0 : started.msgDelay = lm.msgDelay := hs ▸ hdelay
  have hlast0 : started.lastFragmentSent = lm.lastFragmentSent := hs ▸ hlast
  have hr0 : started.CanReport := hr
  obtain ⟨lm', k, hrun, hk, -, hall⟩ := polls_sending (calls.map wrapped) hr0 h0 hmax
  have hpackets : packets.length = fragmentCount msg.length := length_dataFrames id streamId msg _
  have htake : packets.take k = dataFrames id streamId msg k := by
    have hbound := hk.bound
    change ((List.range _).map _).take k = _
    rw [← List.map_take, List.take_range, min_eq_left hbound]
    rfl
  refine ⟨lm', k, hrun, hpackets ▸ hk.bound, ?_, ?_, ?_, ?_, ?_, ?_⟩
  · rw [hk.frames, htake, List.append_assoc]
    rfl
  · rw [hk.isSending_eq, hpackets, decide_eq_true_iff]
  · have hcount := length_emissionTimes calls hr0 h0 hmax hrun hk
    exact (Nat.zero_add _).symm.trans hcount
  · rw [← hdelay0]
    exact emissionTimes_spaced calls hr0 h0 hmax htimes
  · intro hspaced
    rw [hpackets, hall (by rwa [hdelay0, hlast0]), Nat.zero_add, List.length_map]
  · intro hsend mem' len' streamId' priority'
    exact sendLongMessage_refused hsend mem' len' streamId' priority'

/-- Seven bytes, sent by calls every 25 ms around the wrap of the clock. -/
theorem sendLongMessage_emits_wrapping :
    let lm : CBUSLongMessage := { cbusObject := CBUSbase.smallModule }
    let msg : List UInt8 := [1, 2, 3, 4, 5, 6, 7]
    let id := fragmentId lm.cbusObject.moduleConfig.canId defaultPriority
    let header := headerFrame id 3 msg.length 0
    let packets := dataFrames id 3 msg (fragmentCount msg.length)
    ReferenceFragments 3 msg 0 header packets ∧
      lm.EmitsFragments { lm with
        toLongMessageSender := (lm.sendLongMessage msg 7 3 defaultPriority).2 } header packets
        [fun _ => 2 ^ 32 - 30, fun _ => 2 ^ 32 - 5, fun _ => 2 ^ 32 + 20] :=
  sendLongMessage_emits { cbusObject := CBUSbase.smallModule }
    (fun h => absurd h Bool.false_ne_true) (fun _ => rfl) [1, 2, 3, 4, 5, 6, 7]
    [1, 2, 3, 4, 5, 6, 7] List.prefix_rfl (by decide) 7 rfl 3 defaultPriority rfl _ (by decide)

end CBUSLongMessage
end CBUSPicoLib
