import CBUSPicoLib.LongMessage.CrcAlgebra
import CBUSPicoLib.LongMessage.SendContexts
import CBUSPicoLib.LongMessage.SessionReports

/-!
# Bursts of wrong bits

A burst of at most 16 bits changes the CRC. The receiver then finds another CRC than the header has,
unless the header has none: a CRC of zero stands for that too.
-/

namespace CBUSPicoLib

open Runs

namespace CBUSLongMessageEx

variable {lm lm' : CBUSLongMessageEx} {m : OutgoingMessage}

/-- The message is never reported as complete when a burst has altered it, whatever arrives between
its frames. Header and sequence numbers arrive as they were sent. -/
def CatchesBursts (lm : CBUSLongMessageEx) (header : CANFrame) (msg : List UInt8) : Prop :=
  ∀ altered, Burst msg altered → ∀ calls,
    ((fragments calls).filter fun frame => frame.sessionKey = header.sessionKey) = header ::
      dataFrames header.id header.streamId altered (fragmentCount altered.length) →
        ∀ call ∈ lm.sessionReports header.sessionKey calls, call.status ≠ .complete

theorem header_sent (huse : lm.useCrc = true) {header : CANFrame}
    (hsend : lm.sendLongMessage m.mem m.len m.streamId m.priority = some (true, lm'))
    (hheader : lm'.cbusObject.transmittedFrames =
      lm.cbusObject.transmittedFrames ++ [header]) :
    ∃ id crc, header = headerFrame id m.streamId m.bytes.length crc ∧
      crc16 m.bytes (UInt16.ofNat m.bytes.length) = some crc := by
  rcases sendLongMessage_eq_some hsend with ⟨-, hfalse, -⟩ |
    ⟨-, i, c, copy, crc, n, -, -, -, hcrc, htakes, hoffers, rfl⟩
  · exact absurd hfalse (by simp)
  · refine ⟨fragmentId lm.cbusObject.moduleConfig.canId m.priority, crc, ?_, ?_⟩
    · have hframes := hheader.symm.trans hoffers.frames
      rw [← htakes, if_pos rfl] at hframes
      exact List.singleton_inj.mp (List.append_cancel_left hframes)
    · have hbytes : messageCrc lm.useCrc m.bytes m.len = some crc :=
        (@messageCrc_append m.bytes m.behind m.len m.toNat_len lm.useCrc).1.symm.trans hcrc
      rwa [messageCrc, if_pos huse, m.toNat_len] at hbytes

/-- A receiver that checks CRCs catches every burst exactly if the header has a CRC. -/
theorem Awaiting.catches_iff {id : UInt32} {streamId : UInt8} {msg : List UInt8}
    {crc : UInt16} (h : lm.Awaiting id streamId msg.length) (huse : lm.useCrc = true)
    (hpos : 1 ≤ msg.length) (hmax : msg.length ≤ 1275)
    (hcrc : crc16 msg (UInt16.ofNat msg.length) = some crc) :
    lm.CatchesBursts (headerFrame id streamId msg.length crc) msg ↔ crc ≠ 0 := by
  have haccepted : ∀ altered, Burst msg altered → (AcceptedCrc lm.useCrc altered crc ↔ crc = 0) := by
    intro altered hburst
    have hne := hburst.crc16_ne hpos (by omega)
    rw [hcrc] at hne
    simp [AcceptedCrc, huse, hne]
  have hframes : ∀ altered, Burst msg altered → headerFrame id streamId msg.length crc ::
      dataFrames id streamId altered (fragmentCount altered.length) =
        messageFrames id streamId altered crc := by
    intro altered hburst
    rw [messageFrames, hburst.length_eq]
  constructor
  · -- without a CRC in the header, nothing is checked
    rintro hcatches rfl
    obtain ⟨altered, hburst⟩ := exists_burst hpos
    have hlen := hburst.length_eq
    have hwaits : lm.Awaiting id streamId altered.length := hlen ▸ h
    obtain ⟨t, call, hrun, hlog, hpasses⟩ :=
      hwaits.run (handOver (messageFrames id streamId altered 0)) (by omega) (by omega)
        (fragments_handOver _) (guarded_handOver _ _)
    have hkeys : ∀ f ∈ messageFrames id streamId altered 0,
        f.sessionKey = ((id &&& 0x7f).toUInt8, streamId) := by
      intro f hf
      simp only [messageFrames, dataFrames, List.mem_cons, List.mem_map] at hf
      rcases hf with rfl | ⟨k, -, rfl⟩ <;> rfl
    have hreports := handled_eq_sessionReports hkeys hrun
    rw [hlog, List.append_cancel_left_eq] at hreports
    apply hcatches altered hburst (handOver (messageFrames id streamId altered 0))
    · rw [fragments_handOver, List.filter_eq_self.mpr]
      · exact (hframes altered hburst).symm
      · intro f hf
        exact decide_eq_true (hkeys f hf)
    · exact (congrArg (call ∈ ·) hreports).mp (List.mem_singleton_self call)
    · exact hpasses.status.trans (if_pos ((haccepted altered hburst).mpr rfl))
  · intro hne altered hburst calls hcalls call hmem
    have hlen := hburst.length_eq
    have hfollows : lm.Follows ⟨id, streamId, altered, crc⟩ lm.useCrc 0 :=
      Awaiting.follows (m := ⟨id, streamId, altered, crc⟩) (hlen ▸ h)
    have hstatus := hfollows.run (by rwa [hlen]) (by rwa [hlen])
      (hcalls.trans (hframes altered hburst)) call hmem
    rw [hstatus, crcVerdict, if_neg fun hacc => hne ((haccepted altered hburst).mp hacc)]
    simp

/-- Between a sender and a receiver that both use CRCs, a message arrives altered by a burst without
being reported as complete, whatever else is received, exactly if its CRC is not zero. -/
theorem catchesBursts_iff {sender sent receiver : CBUSLongMessageEx} {m : OutgoingMessage}
    {header : CANFrame} (hsender : sender.useCrc = true) (hreceiver : receiver.useCrc = true)
    (hpos : 1 ≤ m.bytes.length) (hmax : m.bytes.length ≤ 1275)
    (hsend : sender.sendLongMessage m.mem m.len m.streamId m.priority = some (true, sent))
    (hheader : sent.cbusObject.transmittedFrames =
      sender.cbusObject.transmittedFrames ++ [header])
    (h : receiver.Awaiting header.id m.streamId m.bytes.length) :
    receiver.CatchesBursts header m.bytes ↔
      crc16 m.bytes (UInt16.ofNat m.bytes.length) ≠ some 0 := by
  obtain ⟨id, crc, rfl, hcrc⟩ := header_sent hsender hsend hheader
  have hiff := @Awaiting.catches_iff receiver id m.streamId m.bytes crc h hreceiver hpos hmax hcrc
  rw [hiff, hcrc]
  simp

def zeroCrc : OutgoingMessage := ⟨[222, 12], [0], 7, defaultPriority, by simp⟩

def smallHeader (len : ℕ) (crc : UInt16) : CANFrame :=
  headerFrame (fragmentId CBUSbase.smallModule.moduleConfig.canId defaultPriority) 7 len crc

theorem checkingObject_awaiting {len : ℕ} (hlen : len ≤ 8) (crc : UInt16) :
    checkingObject.Awaiting (smallHeader len crc).id 7 len where
  subscribed := by decide
  room := hlen
  free := ⟨_, List.mem_cons_self, rfl⟩
  unserved := rfl
  allocated := by decide
  handler := rfl
  safely := ⟨by decide, by decide⟩

theorem checkingObject_sends_zeroCrc : ∃ sent,
    checkingObject.sendLongMessage zeroCrc.mem zeroCrc.len zeroCrc.streamId zeroCrc.priority =
      some (true, sent) ∧
    sent.cbusObject.transmittedFrames =
      checkingObject.cbusObject.transmittedFrames ++ [smallHeader 2 0] :=
  ⟨_, rfl, by decide +kernel⟩

theorem catchesBursts_iff_two :
    (checkingObject.CatchesBursts (smallHeader 1 62883) (oneByte 7).bytes ↔
      crc16 (oneByte 7).bytes 1 ≠ some 0) ∧
    (checkingObject.CatchesBursts (smallHeader 2 0) zeroCrc.bytes ↔
      crc16 zeroCrc.bytes 2 ≠ some 0) := by
  constructor
  · obtain ⟨sent, hsend, hheader⟩ : ∃ sent, checkingObject.sendLongMessage (oneByte 7).mem
        (oneByte 7).len (oneByte 7).streamId (oneByte 7).priority = some (true, sent) ∧
          sent.cbusObject.transmittedFrames =
            checkingObject.cbusObject.transmittedFrames ++ [smallHeader 1 62883] :=
      ⟨_, rfl, by decide +kernel⟩
    exact catchesBursts_iff rfl rfl (by decide) (by decide) hsend hheader
      (checkingObject_awaiting (by decide) 62883)
  · obtain ⟨sent, hsend, hheader⟩ := checkingObject_sends_zeroCrc
    exact catchesBursts_iff rfl rfl (by decide) (by decide) hsend hheader
      (checkingObject_awaiting (by decide) 0)

/-- One wrong bit in two bytes whose CRC is zero: they are reported as complete. -/
theorem not_catchesBursts_zeroCrc :
    ¬ (∀ (sender sent receiver : CBUSLongMessageEx) (m : OutgoingMessage) (header : CANFrame),
      sender.useCrc = true → receiver.useCrc = true → 1 ≤ m.bytes.length →
        m.bytes.length ≤ 1275 →
          sender.sendLongMessage m.mem m.len m.streamId m.priority = some (true, sent) →
            sent.cbusObject.transmittedFrames =
              sender.cbusObject.transmittedFrames ++ [header] →
                receiver.Awaiting header.id m.streamId m.bytes.length →
                  receiver.CatchesBursts header m.bytes) := by
  intro h
  obtain ⟨sent, hsend, hheader⟩ := checkingObject_sends_zeroCrc
  have hcatches := h checkingObject sent checkingObject zeroCrc _ rfl rfl (by decide) (by decide)
    hsend hheader (checkingObject_awaiting (by decide) 0)
  have hburst : Burst zeroCrc.bytes [223, 12] :=
    ⟨[], [false], [true], (messageBits zeroCrc.bytes).drop 1, by decide, by decide, rfl, le_rfl,
      by decide, by decide⟩
  have hreports : (checkingObject.sessionReports (smallHeader 2 0).sessionKey
      (handOver (messageFrames (smallHeader 2 0).id 7 [223, 12] 0))).map (·.status) =
        [.complete] := by decide +kernel
  obtain ⟨call, hmem, hstatus⟩ := List.mem_map.mp
    ((congrArg (LongMessageStatus.complete ∈ ·) hreports).mpr (List.mem_singleton_self _))
  exact hcatches [223, 12] hburst _ (by decide +kernel) call hmem hstatus

end CBUSLongMessageEx
end CBUSPicoLib
