import CBUSPicoLib.GridConnect.RoundTrip
import CBUSPicoLib.Node.Commands

/-!
# What GridConnect clients see of the frames a module sends

`sendMessage` hands a frame to the GridConnect server before it composes the
header, and before it knows whether the controller will take the frame. The
server drops a frame that `encodeGC` refuses.
-/

namespace CBUSPicoLib

/-- Does `sendCANFrame` pass the frame on to the clients? -/
def isForwarded (msg : CANFrame) : Bool := (encodeGC msg).any Prod.fst

theorem isForwarded_iff (msg : CANFrame) : isForwarded msg = true ↔ msg.Encodable := by
  by_cases h : msg.Encodable
  · obtain ⟨m, hencode, -⟩ := encodeGC_text h
    simp [isForwarded, hencode, h]
  · simp [isForwarded, encodeGC_refused h, h]

/-- The frames that calls of `sendCANFrame` pass on to the clients, in order. -/
def forwardedFrames (trace : List Effect) : List CANFrame :=
  trace.filterMap fun
    | .sendCANFrame msg _ => if isForwarded msg then some msg else none
    | _ => none

/-- The frames that `send_message` accepted, in order. -/
def transmittedFrames (trace : List Effect) : List CANFrame :=
  trace.filterMap fun
    | .transmitted msg => some msg
    | _ => none

/-- A standard frame with the header, the RTR flag, the length and the data of the
frame given to the controller, whose identifier word carries the flag in bit 30. -/
structure SameFrame (f tx : CANFrame) : Prop where
  standard : f.ext = false
  header : f.id &&& 0x7FF = tx.id &&& 0x7FF
  rtr : f.rtr = decide (tx.id &&& 0x40000000 ≠ 0)
  len : f.len = tx.len
  data : f.data = tx.data

namespace CBUSbase

/-- One call of `sendMessage`: a frame that is sent is forwarded once and as it is sent,
a frame that is refused is not forwarded. -/
def ForwardsWhatItSends (n : CBUSbase) (msg : CANFrame) (rtr : Bool) (priority : UInt8) : Prop :=
  ∃ es, (n.sendMessage msg rtr false priority).2.2.port.trace = n.port.trace ++ es ∧
    if (n.sendMessage msg rtr false priority).1 then
      ∃ f tx, forwardedFrames es = [f] ∧ transmittedFrames es = [tx] ∧ SameFrame f tx
    else forwardedFrames es = []

/-- The frame already looks as `sendMessage` will send it. -/
structure Composed (n : CBUSbase) (msg : CANFrame) (rtr : Bool) (priority : UInt8) : Prop where
  standard : msg.ext = false
  header : msg.id.toNat = 128 * priority.toNat + n.moduleConfig.canId.toNat % 128
  rtr : msg.rtr = rtr

theorem toNat_makeHeader (n : CBUSbase) (msg : CANFrame) {priority : UInt8}
    (h : priority.toNat < 16) :
    (n.makeHeader msg priority).id.toNat =
      128 * priority.toNat + n.moduleConfig.canId.toNat % 128 := by
  have hlow : (n.moduleConfig.canId &&& 0x7f).toNat = n.moduleConfig.canId.toNat % 128 :=
    (UInt8.toNat_and _ _).trans (Nat.and_two_pow_sub_one_eq_mod _ 7)
  simp only [makeHeader, makeHeaderImpl, hlow, Nat.shiftLeft_eq, UInt32.toNat_ofNat']
  omega

/-- Bit 30 of an identifier word does not touch an 11-bit header, which does not touch it. -/
theorem header_with_rtr {id : UInt32} (h : id.toNat < 2048) (rtr : Bool) :
    let word := if rtr then id ||| 0x40000000 else id
    word &&& 0x7FF = id ∧ decide (word &&& 0x40000000 ≠ 0) = rtr := by
  have hid : id &&& 0x7FF = id := by
    apply UInt32.toNat_inj.mp
    rw [UInt32.toNat_and]
    exact (Nat.and_two_pow_sub_one_eq_mod _ 11).trans (Nat.mod_eq_of_lt h)
  have hbit : id &&& 0x40000000 = 0 := and_flag_eq_zero (k := 30) rfl (by omega)
  have hmask : (0x40000000 : UInt32) &&& 0x7FF = 0 := by decide
  cases rtr with
  | false => simp [hid, hbit]
  | true => simp [or_and_distrib, hid, hbit, hmask]

theorem toNat_makeHeader_lt (n : CBUSbase) (msg : CANFrame) {priority : UInt8}
    (h : priority.toNat < 16) : (n.makeHeader msg priority).id.toNat < 2048 := by
  have hid := n.toNat_makeHeader msg h
  have hlt := Nat.mod_lt n.moduleConfig.canId.toNat (by decide : 0 < 128)
  omega

theorem Composed.encodable {n : CBUSbase} {msg : CANFrame} {rtr : Bool} {priority : UInt8}
    (h : n.Composed msg rtr priority) (hpriority : priority.toNat < 16) (hlen : msg.len ≤ 8) :
    msg.Encodable := by
  refine ⟨hlen, fun _ => ?_, fun hext => ?_⟩
  · have hlt := Nat.mod_lt n.moduleConfig.canId.toNat (by decide : 0 < 128)
    rw [UInt32.le_iff_toNat_le, h.header]
    change _ ≤ 2047
    omega
  · cases h.standard.symm.trans hext

theorem sameFrame_sendHeader_iff (n : CBUSbase) {msg : CANFrame} (rtr : Bool) {priority : UInt8}
    (h : priority.toNat < 16) (hlen : msg.len ≤ 8) :
    msg.Encodable ∧ SameFrame msg (n.sendHeader msg rtr false priority) ↔
      n.Composed msg rtr priority := by
  have hid := n.toNat_makeHeader msg h
  obtain ⟨hheader, hrtr⟩ := header_with_rtr (n.toNat_makeHeader_lt msg h) rtr
  have hword : (n.sendHeader msg rtr false priority).id =
      if rtr then (n.makeHeader msg priority).id ||| 0x40000000
      else (n.makeHeader msg priority).id := by
    cases rtr <;> rfl
  have hrest : (n.sendHeader msg rtr false priority).len = msg.len ∧
      (n.sendHeader msg rtr false priority).data = msg.data := by
    cases rtr <;> exact ⟨rfl, rfl⟩
  rw [← hword] at hheader hrtr
  constructor
  · rintro ⟨he, hs⟩
    have hmask : msg.id &&& 0x7FF = msg.id := by
      have hlt : msg.id.toNat < 2048 := Nat.lt_succ_of_le (he.standard hs.standard)
      exact (header_with_rtr hlt false).1
    refine ⟨hs.standard, ?_, hs.rtr.trans hrtr⟩
    rw [← hmask, hs.header, hheader, hid]
  · intro hc
    have hsame : msg.id = (n.makeHeader msg priority).id :=
      UInt32.toNat_inj.mp (hc.header.trans hid.symm)
    have hmask := (header_with_rtr (n.toNat_makeHeader_lt msg h) false).1
    refine ⟨hc.encodable h hlen, hc.standard, ?_, hc.rtr.trans hrtr.symm, hrest.1.symm,
      hrest.2.symm⟩
    rw [hheader, hsame]
    exact hmask

/-- What a refused call leaves behind: `sendCANFrame` was called if the transmission failed. -/
theorem sendMessage_refused {n : CBUSbase} (hserver : n.gcServer.isSome = true) {r : Refusal}
    {rest : List Refusal} (htx : n.port.tx 0 = r :: rest) (msg : CANFrame) (rtr ext : Bool)
    (priority : UInt8) :
    let m := n.sendMessage msg rtr ext priority
    m.1 = false ∧ m.2.2.gcServer = n.gcServer ∧ m.2.2.port.tx 0 = rest ∧
      m.2.2.port.trace = n.port.trace ++
        .sendMessage msg :: if r = .sendFailed then [.sendCANFrame msg false] else [] := by
  cases r with
  | notOkToSend => simp [sendMessage, emit, htx]
  | sendFailed => simp [sendMessage, forward, emit, htx, hserver]

theorem sendMessage_accepted {n : CBUSbase} (hserver : n.gcServer.isSome = true)
    (htx : n.port.tx 0 = []) (msg : CANFrame) (rtr ext : Bool) (priority : UInt8) :
    let m := n.sendMessage msg rtr ext priority
    m.1 = true ∧ m.2.2.port.trace = n.port.trace ++ [.sendMessage msg, .sendCANFrame msg false,
      .transmitted (n.sendHeader msg rtr ext priority)] := by
  simp [sendMessage, forward, emit, htx, hserver]
  rfl

/-- With a GridConnect server, a call forwards what it sends exactly if the controller
has no space, or the transmission of a frame that no client is sent fails, or the
controller takes a frame that was composed before the call. -/
theorem forwardsWhatItSends_iff (n : CBUSbase) (hserver : n.gcServer.isSome = true)
    (msg : CANFrame) (hlen : msg.len ≤ 8) (rtr : Bool) {priority : UInt8}
    (hpriority : priority.toNat < 16) :
    n.ForwardsWhatItSends msg rtr priority ↔
      (n.port.tx 0).head? = some .notOkToSend ∨
        (n.port.tx 0).head? = some .sendFailed ∧ ¬ msg.Encodable ∨
        n.port.tx 0 = [] ∧ n.Composed msg rtr priority := by
  unfold ForwardsWhatItSends
  cases htx : n.port.tx 0 with
  | nil =>
    obtain ⟨hok, htrace⟩ := sendMessage_accepted hserver htx msg rtr false priority
    rw [← sameFrame_sendHeader_iff n rtr hpriority hlen, ← isForwarded_iff]
    simp only [hok, htrace, List.append_cancel_left_eq]
    cases hf : isForwarded msg with
    | false => simp [forwardedFrames, hf]
    | true => simp [forwardedFrames, transmittedFrames, hf]
  | cons r rest =>
    obtain ⟨hno, -, -, htrace⟩ := sendMessage_refused hserver htx msg rtr false priority
    cases r with
    | notOkToSend => simp [hno, htrace, forwardedFrames]
    | sendFailed => simp [hno, htrace, forwardedFrames, ← isForwarded_iff]

theorem encodable_sendHeader {msg : CANFrame} (n : CBUSbase) (h : msg.Encodable) {priority : UInt8}
    (hpriority : priority.toNat < 16) : (n.sendHeader msg false false priority).Encodable := by
  have hlt := n.toNat_makeHeader_lt msg hpriority
  have hid : (n.makeHeader msg priority).id ≤ 0x7FF := Nat.le_of_lt_succ hlt
  exact ⟨h.len, fun _ => hid, fun _ => UInt32.le_trans hid (by decide)⟩

/-- A caller that retries forwards the frame once for every failed transmission, and
once when it is sent. -/
theorem forwardedFrames_sendBusyWaiting {n : CBUSbase} (hserver : n.gcServer.isSome = true)
    {refusals : List Refusal} (htx : n.port.tx 0 = refusals) {msg : CANFrame}
    (hmsg : msg.Encodable) :
    ∃ es, (n.sendBusyWaiting msg refusals.length).2.port.trace = n.port.trace ++ es ∧
      (forwardedFrames es).length = refusals.count .sendFailed + 1 := by
  have hf := (isForwarded_iff msg).mpr hmsg
  induction refusals generalizing n msg with
  | nil =>
    refine ⟨_, (sendMessage_accepted hserver htx msg false false defaultPriority).2, ?_⟩
    simp [forwardedFrames, hf]
  | cons r rest ih =>
    obtain ⟨hno, hkeep, htx', htrace⟩ :=
      sendMessage_refused hserver htx msg false false defaultPriority
    have hmsg' : (n.sendMessage msg).2.1.Encodable := by
      cases r with
      | notOkToSend => simpa [sendMessage, emit, htx] using hmsg
      | sendFailed =>
        simpa [sendMessage, emit, htx] using encodable_sendHeader _ hmsg (by decide)
    obtain ⟨es, hes, hcount⟩ := ih (by rwa [hkeep]) htx' hmsg' ((isForwarded_iff _).mpr hmsg')
    have hretry : n.sendBusyWaiting msg (r :: rest).length =
        (n.sendMessage msg).2.2.sendBusyWaiting (n.sendMessage msg).2.1 rest.length := by
      simp [sendBusyWaiting, hno]
    rw [hretry, hes, htrace, List.append_assoc]
    refine ⟨_, rfl, ?_⟩
    unfold forwardedFrames at hcount ⊢
    cases r with
    | notOkToSend => simpa using hcount
    | sendFailed => simpa [hf] using hcount

/-- A write acknowledge as `sendOpcMyNN` passes it on: the identifier is the CAN ID alone. -/
def wrackFrame : CANFrame := { id := 5, len := 3, data := #v[opcWrack, 1, 2, 0, 0, 0, 0, 0] }

def servedModule : CBUSbase :=
  { smallModule with gcServer := some (CBUSCircularBuffer.construct 4) }

theorem forwardsWhatItSends_iff_wrack :
    servedModule.ForwardsWhatItSends wrackFrame false defaultPriority ↔
      (servedModule.port.tx 0).head? = some .notOkToSend ∨
        (servedModule.port.tx 0).head? = some .sendFailed ∧ ¬ wrackFrame.Encodable ∨
        servedModule.port.tx 0 = [] ∧ servedModule.Composed wrackFrame false defaultPriority :=
  forwardsWhatItSends_iff servedModule rfl wrackFrame (by decide) false (by decide)

def failingModule : CBUSbase := { servedModule with port := { tx := fun _ => [.sendFailed] } }

/-- The client sees another header, and sees a frame that is not sent. -/
theorem not_forwardsWhatItSends_wrack :
    ¬ servedModule.ForwardsWhatItSends wrackFrame false defaultPriority ∧
      ¬ failingModule.ForwardsWhatItSends { wrackFrame with id := 0x585 } false
        defaultPriority := by
  constructor
  · rintro ⟨es, htrace, h⟩
    obtain ⟨hok, hsent⟩ := sendMessage_accepted (n := servedModule) rfl rfl wrackFrame false false
      defaultPriority
    obtain rfl := List.append_cancel_left (hsent.symm.trans htrace)
    rw [if_pos hok] at h
    obtain ⟨f, tx, hf, htx, hsame⟩ := h
    obtain rfl : wrackFrame = f := by
      simpa [forwardedFrames, (isForwarded_iff wrackFrame).mpr (by decide)] using hf
    obtain rfl : servedModule.sendHeader wrackFrame false false defaultPriority = tx := by
      simpa [transmittedFrames] using htx
    exact absurd hsame.header (by decide +kernel)
  · rintro ⟨es, htrace, h⟩
    have htx : failingModule.port.tx 0 = [.sendFailed] := rfl
    obtain ⟨hno, -, -, hsent⟩ := sendMessage_refused (rfl : failingModule.gcServer.isSome = true)
      htx { wrackFrame with id := 0x585 } false false defaultPriority
    obtain rfl := List.append_cancel_left (hsent.symm.trans htrace)
    have hf := (isForwarded_iff { wrackFrame with id := 0x585 }).mpr (by decide)
    simp [hno, forwardedFrames, hf] at h

end CBUSbase
end CBUSPicoLib
