import CBUSPicoLib.Library.Broadcast
import CBUSPicoLib.Node.EventTraffic

/-!
# How events reach an application

The receive interrupt queues every standard frame with data that goes over the bus, and an event
frame arrives as the event that was sent. A module that gets its frames from the bus alone takes
them from the receive buffer one by one, and its application is told of those that carry an event
which the module has learned.
-/

namespace CBUSPicoLib

open Runs Broadcast

namespace CBUSCircularBuffer

/-- A put appends, or loses the oldest frame of a full buffer; without memory it loses the frame. -/
theorem Used.frames_put {b : CBUSCircularBuffer} (h : Used b) (item : CANFrame) (micros : UInt32) :
    (b.put item micros).frames =
      Medium.arrivals (b.buffer.isNone || b.full) b.frames item := by
  rcases h.unallocated_or with hu | ⟨n, items, q, hrep⟩
  · have hput : b.put item micros = b := by
      rw [put, hu.buffer]
    have hnil : b.frames = [] := by
      simp [frames, contents, hu.buffer]
    simp [hput, hnil, hu.buffer, Medium.arrivals]
  · have hput := hrep.put ⟨micros, item⟩
    rw [frames, frames, hput.contents, hrep.contents, hrep.buffer, hrep.full]
    unfold Medium.arrivals
    by_cases hlt : q.entries.length < n
    · simp [(q.put_of_lt hlt _).1, hlt.ne]
    · have hfull : q.entries.length = n := le_antisymm q.bounded (not_lt.mp hlt)
      simp [(q.put_of_full hfull _).1, hfull, List.map_tail]

theorem Used.used_put {b : CBUSCircularBuffer} (h : Used b) (item : CANFrame) (micros : UInt32) :
    Used (b.put item micros) := by
  obtain ⟨capacity, calls, h⟩ := h
  refine ⟨capacity, calls ++ [.put item micros], ?_⟩
  simp only [run_append, run_cons, run_nil]
  rcases h with rfl | rfl
  · exact Or.inl rfl
  · exact Or.inr rfl

end CBUSCircularBuffer

/-- The message that `sendMessage` hands to the controller. -/
def canMessage (f : CANFrame) : Can2040Msg := ⟨f.id, f.len.toUInt32, f.data⟩

/-- The frame that the receive interrupt queues: no RTR frame, no extended one, and none that is
empty. -/
def hear (f : CANFrame) : Option CANFrame :=
  let msg := CBUSbase.receivedFrame (canMessage f)
  if msg.rtr ∨ msg.ext ∨ msg.len = 0 then none
  else some (if 8 < msg.len then { msg with len := 8 } else msg)

theorem receivedFrame_len (f : CANFrame) :
    (CBUSbase.receivedFrame (canMessage f)).len = f.len := by
  change f.len.toUInt32.toUInt8 = f.len
  simp

theorem receivedFrame_data (f : CANFrame) {i : Fin 8} (hi : i.val < f.len.toNat) :
    (CBUSbase.receivedFrame (canMessage f)).data.get i = f.data.get i := by
  have hlen : f.len.toUInt32.toUInt8 = f.len := by simp
  change (Vector.ofFn fun i : Fin 8 =>
    if i.val < f.len.toUInt32.toUInt8.toNat then f.data.get i else 0)[i.val] = f.data.get i
  rw [Vector.getElem_ofFn, hlen, if_pos hi]

theorem isEvent_receivedFrame {f : CANFrame} (h : 0 < f.len) :
    isEvent (CBUSbase.receivedFrame (canMessage f)) = isEvent f := by
  unfold isEvent
  rw [receivedFrame_data f (i := 0) (UInt8.lt_iff_toNat_lt.mp h)]

theorem appEvent_receivedFrame {f : CANFrame} (h : 5 ≤ f.len.toNat) :
    appEvent (CBUSbase.receivedFrame (canMessage f)) = appEvent f := by
  have hget : ∀ i : Fin 8, i.val < 5 →
      (CBUSbase.receivedFrame (canMessage f)).data.get i = f.data.get i :=
    fun i hi => receivedFrame_data f (lt_of_lt_of_le hi h)
  have hkey : eventKey (CBUSbase.receivedFrame (canMessage f)) = eventKey f := by
    unfold eventKey
    rw [hget 0 (by decide), hget 1 (by decide), hget 2 (by decide), hget 3 (by decide),
      hget 4 (by decide)]
  have hon : isOnEvent (CBUSbase.receivedFrame (canMessage f)) = isOnEvent f := by
    unfold isOnEvent
    rw [hget 0 (by decide)]
  have htake : (CBUSbase.receivedFrame (canMessage f)).data.toList.take f.len.toNat =
      f.data.toList.take f.len.toNat := by
    apply List.ext_getElem (by simp)
    intro i h1 h2
    simp only [List.length_take, Vector.length_toList, Nat.lt_min] at h1
    rw [List.getElem_take, List.getElem_take]
    exact receivedFrame_data f (i := ⟨i, h1.2⟩) h1.1
  unfold appEvent
  rw [hkey, hon, receivedFrame_len, ← List.drop_take, ← List.drop_take, htake]

theorem and_bit_eq_zero {id : UInt32} (h : id.toNat < 2048) :
    id &&& can2040IdRtr = 0 ∧ id &&& can2040IdEff = 0 := by
  have hbit : ∀ k, 11 ≤ k → id.toNat &&& 2 ^ k = 0 := by
    intro k hk
    have hlt : id.toNat < 2 ^ k := lt_of_lt_of_le h (Nat.pow_le_pow_right (show 0 < 2 by decide) hk)
    rw [Nat.and_two_pow, Nat.testBit_lt_two_pow hlt]
    simp
  constructor
  · apply UInt32.toNat_inj.mp
    rw [UInt32.toNat_and]
    exact hbit 30 (by decide)
  · apply UInt32.toNat_inj.mp
    rw [UInt32.toNat_and]
    exact hbit 31 (by decide)

/-- Receivers make of a frame on the bus the event that it carries, if it is a standard frame. -/
theorem eventOf_hear {f : CANFrame} (h : (eventOf f).isSome = true → CBUSbase.Standard f) :
    (hear f).bind eventOf = eventOf f := by
  let g := CBUSbase.receivedFrame (canMessage f)
  have hlen : g.len = f.len := receivedFrame_len f
  cases hf : eventOf f with
  | some e =>
    have hstd := h (by rw [hf]; rfl)
    have hboth : 0 < f.len ∧ isEvent f = true := by
      by_contra hno
      rw [eventOf, if_neg hno] at hf
      cases hf
    obtain ⟨hrtr, heff⟩ := and_bit_eq_zero hstd.id
    have hflags : ¬ (g.rtr = true ∨ g.ext = true ∨ g.len = 0) := by
      rintro (hr | he | hz)
      · exact absurd hrtr (of_decide_eq_true hr)
      · exact absurd heff (of_decide_eq_true he)
      · rw [hlen] at hz
        exact absurd hboth.1 (by rw [hz]; decide)
    have hshort : ¬ 8 < g.len := by
      rw [hlen, UInt8.lt_iff_toNat_lt]
      exact not_lt.mpr hstd.len.2
    have hhear : hear f = some g := by
      unfold hear
      exact (if_neg hflags).trans (congrArg some (if_neg hshort))
    rw [hhear, Option.bind_some, ← hf, eventOf, eventOf, hlen, isEvent_receivedFrame hboth.1,
      appEvent_receivedFrame hstd.len.1]
  | none =>
    have hno : ¬ (0 < f.len ∧ isEvent f = true) := by
      intro hboth
      rw [eventOf, if_pos hboth] at hf
      cases hf
    unfold hear
    dsimp only
    split_ifs with hflags hlong
    · rfl
    · have hpos : 0 < f.len := by
        rw [← hlen]
        rw [UInt8.lt_iff_toNat_lt] at hlong ⊢
        exact lt_trans (show 0 < 8 by decide) hlong
      refine if_neg fun he => hno ⟨hpos, ?_⟩
      rw [← isEvent_receivedFrame hpos]
      exact he.2
    · refine if_neg fun he => hno ⟨hlen ▸ he.1, ?_⟩
      rw [← isEvent_receivedFrame (hlen ▸ he.1)]
      exact he.2

namespace CBUSbase

open CBUSCircularBuffer

variable {n m : CBUSbase} {capacity : ℕ} {s : EventStore capacity}

def rxFrames (n : CBUSbase) : List CANFrame := n.rxBuffer.elim [] frames

/-- The next frame will cost the oldest one in the receive buffer, or is lost itself. -/
def rxFull (n : CBUSbase) : Bool := n.rxBuffer.all fun b => b.buffer.isNone || b.full

/-- The receive buffer is as its methods leave it. -/
def RxUsed (n : CBUSbase) : Prop := ∀ b ∈ n.rxBuffer, Used b

theorem answerFrame_hear (k : CBUSbase) (f : CANFrame) (now : UInt32) :
    (if (k.answerFrame (receivedFrame (canMessage f)) now).1 then
      some (k.answerFrame (receivedFrame (canMessage f)) now).2.1 else none) = hear f := by
  unfold hear answerFrame
  generalize receivedFrame (canMessage f) = msg
  dsimp only
  by_cases hrtr : msg.rtr = true
  · simp [hrtr]
  · by_cases hext : msg.ext = true
    · simp [hrtr, hext]
    · have hlen : 0 < msg.len ↔ ¬ msg.len = 0 := by
        rw [UInt8.lt_iff_toNat_lt, ← UInt8.toNat_inj]
        exact Nat.pos_iff_ne_zero
      by_cases hz : msg.len = 0 <;> simp [hrtr, hext, hlen, hz]

/-- The receive interrupt: what is queued, and that no event is sent in answer. -/
theorem notifyCb_traffic (hu : n.RxUsed) {f : CANFrame} {now micros : UInt32}
    (h : n.notifyCb (canMessage f) now micros = some m) :
    m.rxFrames = Medium.hearing hear n.rxFull n.rxFrames f ∧ m.RxUsed ∧ OffersNoEvent n m := by
  unfold notifyCb at h
  cases hb : n.rxBuffer with
  | none =>
    rw [hb] at h
    cases h
    have hlost : Medium.hearing hear true [] f = [] := by
      unfold Medium.hearing
      cases hear f <;> rfl
    exact ⟨by simp [rxFrames, rxFull, hb, hlost], hu, offersNoEvent_of_trace rfl⟩
  | some b =>
    have hused := hu b hb
    rw [hb] at h
    obtain ⟨r, hr, hm⟩ := Option.map_eq_some_iff.mp h
    have hoffers := offersNoEvent_checkIncomingFrame hr
    have hrx : r.2.2.rxBuffer = some b := by
      obtain ⟨_, _, _, _, _, hframe⟩ := checkIncomingFrame_frame hr
      rw [hframe]
      exact hb
    obtain ⟨k, -, rfl⟩ := Option.map_eq_some_iff.mp hr
    have hhear := k.answerFrame_hear f now
    have hframes : ∀ c : CBUSbase, c.rxBuffer = some b → c.rxFrames = b.frames := by
      intro c hc
      rw [rxFrames, hc, Option.elim_some]
    cases hm
    dsimp only
    by_cases hfound : (k.answerFrame (receivedFrame (canMessage f)) now).1 = true
    · rw [if_pos hfound] at hhear
      rw [if_pos hfound]
      refine ⟨?_, ?_, hoffers⟩
      · rw [rxFrames, Option.elim_some, hused.frames_put, hframes n hb, rxFull, hb,
          Option.all_some, Medium.hearing, ← hhear, Option.elim_some]
      · intro b' hb'
        cases hb'
        exact hused.used_put _ _
    · rw [if_neg hfound] at hhear
      rw [if_neg hfound]
      refine ⟨?_, ?_, hoffers⟩
      · rw [hframes _ hrx, hframes n hb, Medium.hearing, ← hhear, Option.elim_none]
      · intro b' hb'
        rw [hrx] at hb'
        cases hb'
        exact hused

/-- What a module does by itself: it offers the frames `fs` to the bus, which carry the events `es`,
and takes the first frame of its receive buffer or not. -/
structure LocalStep (n m : CBUSbase) (takes : Bool) (es : List AppEvent) : Prop where
  offers : ∃ fs, CBUSPicoLib.transmittedFrames m.port.trace =
      CBUSPicoLib.transmittedFrames n.port.trace ++ fs ∧
    (∀ f ∈ fs, (eventOf f).isSome = true → Standard f) ∧ fs.filterMap eventOf = es
  rx : m.rxFrames = if takes then n.rxFrames.tail else n.rxFrames
  used : n.RxUsed → m.RxUsed

theorem OffersNoEvent.localStep {takes : Bool} (h : OffersNoEvent n m)
    (hrx : m.rxFrames = if takes then n.rxFrames.tail else n.rxFrames)
    (hu : n.RxUsed → m.RxUsed) : LocalStep n m takes [] := by
  obtain ⟨fs, ht, hnone⟩ := h
  refine ⟨⟨fs, ht, fun f hf hs => ?_, List.filterMap_eq_nil_iff.mpr hnone⟩, hrx, hu⟩
  rw [hnone f hf] at hs
  exact absurd hs Bool.false_ne_true

theorem rxFrames_congr (h : m.rxBuffer = n.rxBuffer) : m.rxFrames = n.rxFrames := by
  rw [rxFrames, h, rxFrames]

theorem rxUsed_congr (h : m.rxBuffer = n.rxBuffer) (hu : n.RxUsed) : m.RxUsed := by
  unfold RxUsed
  rw [h]
  exact hu

theorem localStep_poll (n : CBUSbase) (i : PollInput) : LocalStep n (n.poll i) false [] := by
  have hsame := (n.poll_sameQueues i).2.2
  exact (n.offersNoEvent_poll i).localStep (rxFrames_congr hsame) (rxUsed_congr hsame)

theorem takeFrame_rx (hu : n.RxUsed) (canSend : Bool) : ∃ takes : Bool,
    ((n.takeFrame canSend).2.rxFrames = if takes then n.rxFrames.tail else n.rxFrames) ∧
      (n.takeFrame canSend).2.RxUsed := by
  have hkeep : ∀ k : CBUSbase, k.rxBuffer = n.rxBuffer → ∃ takes : Bool,
      (k.rxFrames = if takes then n.rxFrames.tail else n.rxFrames) ∧ k.RxUsed :=
    fun k hk => ⟨false, rxFrames_congr hk, rxUsed_congr hk hu⟩
  unfold takeFrame
  split_ifs with hcoe hgc hcan hsend
  · split
    · exact hkeep _ rfl
    · exact hkeep _ rfl
  · split
    · exact hkeep _ rfl
    · exact hkeep _ rfl
  · split
    · rename_i b hb
      let k := { n with rxBuffer := some b.getFrame.2 }.emit (.taken b.getFrame.1)
      have hforward : (k.forward b.getFrame.1 k.available).rxBuffer = some b.getFrame.2 :=
        (k.forward_sameQueues _ _).2.2
      have hne : b.frames ≠ [] := by
        rw [available, hb, Option.any_some] at hcan
        exact (hu b hb).available_iff.mp hcan
      obtain ⟨f, rest, hcons⟩ := List.exists_cons_of_ne_nil hne
      refine ⟨true, ?_, ?_⟩
      · rw [rxFrames, hforward, rxFrames, hb]
        exact ((hu b hb).getFrame hcons).2.trans (by simp [hcons])
      · intro b' hb'
        rw [hforward] at hb'
        cases hb'
        exact (hu b hb).used_getFrame
    · exact hkeep _ rfl
  · split <;> exact hkeep _ rfl
  · exact hkeep _ rfl

theorem localStep_iterate (hu : n.RxUsed) {i : FrameInput} (hcan : i.canArrivals = []) :
    ∃ takes, LocalStep n (n.iterate i) takes [] := by
  have harrive : (n.arrive i).rxBuffer = n.rxBuffer := by
    unfold arrive
    rw [hcan]
    cases n.rxBuffer <;> rfl
  have hstep : ∃ takes : Bool, ((n.iterate i).rxFrames =
      if takes then n.rxFrames.tail else n.rxFrames) ∧ (n.iterate i).RxUsed := by
    obtain ⟨takes, hrx, hused⟩ := takeFrame_rx (rxUsed_congr harrive hu) i.canSend
    rw [rxFrames_congr harrive] at hrx
    unfold iterate
    dsimp only
    split_ifs
    · split
      · have hsame := (handleFrame_sameQueues ((n.arrive i).takeFrame i.canSend).2 ‹_›
          i.pulseTime).2.2
        exact ⟨takes, (rxFrames_congr hsame).trans hrx, rxUsed_congr hsame hused⟩
      · exact ⟨takes, hrx, hused⟩
    · exact ⟨false, rxFrames_congr harrive, rxUsed_congr harrive hu⟩
  obtain ⟨takes, hrx, hused⟩ := hstep
  exact ⟨takes, (n.offersNoEvent_iterate i).localStep hrx fun _ => hused⟩

/-- `sendEventWithData` leaves the module as it is but for the port and the queue of own events. -/
theorem sendEventWithData_frame (n : CBUSbase) (micros : UInt32) (eventNode eventNum : UInt16)
    (onEvent : Bool) (dataLen d1 d2 d3 : UInt8) : ∃ coeObj port,
    (n.sendEventWithData micros eventNode eventNum onEvent dataLen d1 d2 d3).2.2 =
      { n with coeObj := coeObj, port := port } ∧ (n.coeObj = none → coeObj = none) ∧
      toldEvents port.trace = toldEvents n.port.trace := by
  let frame := (n.eventFrame eventNode eventNum onEvent dataLen d1 d2 d3).1
  let node := (n.eventFrame eventNode eventNum onEvent dataLen d1 d2 d3).2
  cases hcoe : n.coeObj with
  | none =>
    have hsend : n.sendEventWithData micros eventNode eventNum onEvent dataLen d1 d2 d3 =
        n.sendMsgNN frame node := by
      simp only [sendEventWithData, hcoe]
      rfl
    rw [hsend]
    refine ⟨none, (n.sendMessage (withNode frame node.toNat)).2.2.port, ?_, fun _ => rfl,
      n.tellsNothing_sendMessage _ false false defaultPriority⟩
    rw [← hcoe]
    exact n.sendMessage_state _ false false defaultPriority
  | some coe =>
    let k := { n with coeObj := some (coe.put frame micros) }.emit (.coePut frame)
    have hsend : n.sendEventWithData micros eventNode eventNum onEvent dataLen d1 d2 d3 =
        k.sendMsgNN frame node := by
      simp only [sendEventWithData, hcoe]
      rfl
    have hk : TellsNothing n k :=
      TellsNothing.trans (tellsNothing_of_port rfl) (tellsNothing_emit _ rfl)
    rw [hsend]
    exact ⟨_, _, k.sendMessage_state _ false false defaultPriority,
      fun hnone => absurd hnone (Option.some_ne_none _),
      hk.trans (k.tellsNothing_sendMessage _ false false defaultPriority)⟩

theorem localStep_produce (n : CBUSbase) (micros : UInt32) (eventNode eventNum : UInt16)
    (onEvent : Bool) {dataLen : UInt8} (d1 d2 d3 : UInt8) (hlen : dataLen ≤ 3) :
    let r := n.sendEventWithData micros eventNode eventNum onEvent dataLen d1 d2 d3
    LocalStep n r.2.2 false
      (if r.1 then [⟨eventNode, eventNum, onEvent, [d1, d2, d3].take dataLen.toNat⟩] else []) := by
  intro r
  obtain ⟨fs, ht, hstd, hes⟩ :=
    n.sendEventWithData_offers micros eventNode eventNum onEvent d1 d2 d3 hlen
  obtain ⟨coeObj, port, hframe, -⟩ :=
    n.sendEventWithData_frame micros eventNode eventNum onEvent dataLen d1 d2 d3
  have hsame : r.2.2.rxBuffer = n.rxBuffer := congrArg (·.rxBuffer) hframe
  exact ⟨⟨fs, ht, fun f hf _ => hstd f hf, hes⟩, rxFrames_congr hsame, rxUsed_congr hsame⟩

theorem localStep_send (n : CBUSbase) {msg : CANFrame} (hmsg : NoEvent msg) (rtr ext : Bool)
    (priority : UInt8) : LocalStep n (n.sendMessage msg rtr ext priority).2.2 false [] := by
  have hsame : (n.sendMessage msg rtr ext priority).2.2.rxBuffer = n.rxBuffer :=
    congrArg (·.rxBuffer) (n.sendMessage_state msg rtr ext priority)
  have hsends := n.sendsOnly_command rtr ext priority ((noEvent_iff msg).mp hmsg)
  exact (hsends.offersNoEvent fun _ => eventOf_of_noEvent).localStep (rxFrames_congr hsame)
    (rxUsed_congr hsame)

def knows (s : EventStore capacity) (e : AppEvent) : Bool := (⟨e.node, e.event⟩ : EventInfo) ∈ s.keys

/-- A module with an event handler that has learned the events of the store, and that gets its frames
from the CAN bus alone. A frame handler may look at them. -/
structure Consumer (n : CBUSbase) (s : EventStore capacity) : Prop where
  represents : n.moduleConfig.Represents s
  handler : n.eventHandler = true ∨ n.eventHandlerEx = true
  frames : ∀ msg, (n.callFrameHandler msg).1 = msg
  noServer : n.gcServer = none
  noOwn : n.coeObj = none

theorem Consumer.tells_eq (h : n.Consumer s) : n.tells = knows s := by
  funext e
  have hfind := h.represents.find_lt_iff ⟨e.node, e.event⟩
  rw [← UInt8.lt_iff_toNat_lt] at hfind
  simp [tells, knows, hfind, h.handler]

theorem Consumer.congr (h : n.Consumer s) (hr : m.moduleConfig.Represents s)
    (hc : m.callbacks = n.callbacks) (hgc : m.gcServer = none) (hcoe : m.coeObj = none) :
    m.Consumer s := by
  obtain ⟨heh, hex, hfh, hopc⟩ : m.eventHandler = n.eventHandler ∧
      m.eventHandlerEx = n.eventHandlerEx ∧ m.frameHandler = n.frameHandler ∧
      m.opcodes = n.opcodes := by
    simpa [callbacks] using hc
  refine ⟨hr, ?_, fun msg => ?_, hgc, hcoe⟩
  · rw [heh, hex]
    exact h.handler
  · rw [callFrameHandler_congr hfh hopc]
    exact h.frames msg

/-- Frames with data wait in the receive buffer. -/
def RxData (n : CBUSbase) : Prop := ∀ f ∈ n.rxFrames, 0 < f.len

theorem eventCommand_of_not_learn (hlearn : n.bLearn = false) (e : ModuleEvent) :
    n.eventCommand (.event e) = [] := by
  have hnone : ∀ msg, n.executedCommand msg = none := by
    intro msg
    rw [executedCommand, hlearn]
    rfl
  unfold eventCommand
  simp [hnone]

theorem Consumer.queuesUsed (h : n.Consumer s) (hu : n.RxUsed) : n.QueuesUsed := by
  refine ⟨?_, ?_, hu⟩
  · intro b hb
    rw [coeBuffer, h.noOwn] at hb
    cases hb
  · intro b hb
    rw [h.noServer] at hb
    cases hb

theorem Consumer.arrive (h : n.Consumer s) {i : FrameInput} (hcan : i.canArrivals = []) :
    n.arrive i = n := by
  have hgc : n.gcServer.map (fun b => i.gcArrivals.foldl (fun b f => b.put f.1 f.2) b) =
      n.gcServer := by
    rw [h.noServer]
    rfl
  unfold CBUSbase.arrive
  rw [hcan, hgc]
  simp

theorem Consumer.queues (h : n.Consumer s) (hu : n.RxUsed) :
    taggedFrames .own n.coeBuffer = [] ∧ taggedFrames .gridConnect n.gcServer = [] ∧
      ((n.available || n.gcAvailable || n.coeAvailable) = false ↔ n.rxFrames = []) := by
  have hown : taggedFrames .own n.coeBuffer = [] := by
    rw [coeBuffer, h.noOwn]
    rfl
  have hgc : taggedFrames .gridConnect n.gcServer = [] := by
    rw [h.noServer]
    rfl
  refine ⟨hown, hgc, ?_⟩
  rw [← queued_eq_nil_iff (h.queuesUsed hu), CBUSbase.queued, hown, hgc]
  exact List.map_eq_nil_iff

theorem Consumer.remove (h : n.Consumer s) (f : CANFrame) : n.remove .can f =
    { n with rxBuffer := n.rxBuffer.map fun b : CBUSCircularBuffer => b.getFrame.2 }.emit
      (.taken f) := by
  unfold CBUSbase.remove forward
  dsimp only
  rw [if_neg (by rw [emit, h.noServer]; exact Bool.false_ne_true)]

theorem Consumer.iterate_cons (h : n.Consumer s) (hu : n.RxUsed) {i : FrameInput}
    (hcan : i.canArrivals = []) {f : CANFrame} {rest : List CANFrame}
    (hrx : n.rxFrames = f :: rest) :
    n.iterate i = (n.remove .can f).handleFrame f i.pulseTime ∧
      (n.remove .can f).rxFrames = rest ∧ (n.remove .can f).RxUsed := by
  obtain ⟨hown, hgc, havail⟩ := h.queues hu
  have htagged : taggedFrames .can n.rxBuffer = (.can, f) :: rest.map fun g => (.can, g) := by
    change n.rxFrames.map _ = _
    rw [hrx]
    rfl
  have hany : ¬ (n.available || n.gcAvailable || n.coeAvailable) = false := by
    rw [havail, hrx]
    exact List.cons_ne_nil f rest
  have htakes : n.TakesFirst i.canSend .can f (rest.map fun g => (.can, g)) :=
    takeFrame_can (h.queuesUsed hu) (by rw [h.noServer]; rfl) hown hgc htagged
  refine ⟨?_, ?_, htakes.queuesUsed.can⟩
  · unfold CBUSbase.iterate
    dsimp only
    rw [h.arrive hcan, if_pos (Bool.not_eq_false _ ▸ hany), htakes.taken]
  · rw [h.remove]
    cases hb : n.rxBuffer with
    | none =>
      rw [rxFrames, hb] at hrx
      cases hrx
    | some b =>
      rw [rxFrames, hb] at hrx
      exact ((hu b hb).getFrame hrx).2

/-- What the application of a consumer is told in an iteration of the message loop. -/
theorem Consumer.iterate (h : n.Consumer s) (hu : n.RxUsed) (hdata : n.RxData) {i : FrameInput}
    (hcan : i.canArrivals = []) (hlearn : n.bLearn = false)
    (hx : n.IndexesInBounds (.event (.iterate i))) :
    (n.iterate i).Consumer s ∧ LocalStep n (n.iterate i) true [] ∧
      toldEvents (n.iterate i).port.trace = toldEvents n.port.trace ++
        (n.rxFrames.head?.toList.filterMap eventOf).filter (knows s) := by
  have hrepresents : (n.iterate i).moduleConfig.Represents s := by
    have hstep := represents_storageStep h.represents hx
    rw [eventCommand_of_not_learn hlearn] at hstep
    exact hstep
  cases hrx : n.rxFrames with
  | nil =>
    have hnone : (n.available || n.gcAvailable || n.coeAvailable) = false :=
      (h.queues hu).2.2.mpr hrx
    have hsame : n.iterate i = n := by
      unfold CBUSbase.iterate
      dsimp only
      rw [h.arrive hcan, if_neg (Bool.eq_false_iff.mp hnone)]
    rw [hsame]
    refine ⟨h, (offersNoEvent_of_trace rfl).localStep ?_ id, (List.append_nil _).symm⟩
    rw [hrx]
    rfl
  | cons f rest =>
    obtain ⟨hiter, hrest, hused⟩ := h.iterate_cons hu hcan hrx
    have hremove := h.remove f
    have hoffers := n.offersNoEvent_iterate i
    have hqueues := (n.remove .can f).handleFrame_sameQueues f i.pulseTime
    rw [hiter] at hoffers hrepresents ⊢
    refine ⟨h.congr hrepresents ?_ ?_ ?_, hoffers.localStep ?_ fun _ => ?_, ?_⟩
    · rw [handleFrame_callbacks, hremove]
      rfl
    · rw [hqueues.2.1, hremove]
      exact h.noServer
    · rw [hqueues.1, hremove]
      exact h.noOwn
    · rw [rxFrames_congr hqueues.2.2, hrest, hrx]
      rfl
    · exact rxUsed_congr hqueues.2.2 hused
    · have hlen : 0 < f.len := hdata f (by rw [hrx]; exact List.mem_cons_self)
      have htells : (n.remove .can f).tells = knows s := by
        rw [hremove]
        exact h.tells_eq
      have hframe : ((n.remove .can f).callFrameHandler f).1 = f := by
        rw [hremove]
        refine (callFrameHandler_congr ?_ ?_ f).trans (h.frames f)
        · rfl
        · rfl
      have htold : toldEvents (n.remove .can f).port.trace = toldEvents n.port.trace := by
        rw [hremove]
        exact tellsNothing_emit _ rfl
      rw [told_handleFrame _ hlen hframe, htells, htold]
      cases hf : eventOf f with
      | none => simp [hf]
      | some e => cases he : knows s e <;> simp [hf, he]

theorem Consumer.poll (h : n.Consumer s) (i : PollInput) : (n.poll i).Consumer s := by
  have hstep := represents_storageStep h.represents (e := .event (.poll i)) fun _ hm => nomatch hm
  obtain ⟨hcoe, hgc, -⟩ := n.poll_sameQueues i
  exact h.congr hstep (n.poll_callbacks i) (hgc.trans h.noServer) (hcoe.trans h.noOwn)

theorem Consumer.sendMessage (h : n.Consumer s) (msg : CANFrame) (rtr ext : Bool)
    (priority : UInt8) : (n.sendMessage msg rtr ext priority).2.2.Consumer s := by
  rw [n.sendMessage_state]
  exact h.congr h.represents rfl h.noServer h.noOwn

theorem Consumer.sendEventWithData (h : n.Consumer s) (micros : UInt32)
    (eventNode eventNum : UInt16) (onEvent : Bool) (dataLen d1 d2 d3 : UInt8) :
    (n.sendEventWithData micros eventNode eventNum onEvent dataLen d1 d2 d3).2.2.Consumer s := by
  obtain ⟨coeObj, port, hframe, hcoe, -⟩ :=
    n.sendEventWithData_frame micros eventNode eventNum onEvent dataLen d1 d2 d3
  rw [hframe]
  exact h.congr h.represents rfl h.noServer (hcoe h.noOwn)

theorem len_of_hear {f g : CANFrame} (h : hear f = some g) : 0 < g.len := by
  unfold hear at h
  dsimp only at h
  split_ifs at h with hflags hlong
  · cases h
    exact (by decide : (0 : UInt8) < 8)
  · cases h
    rw [not_or, not_or] at hflags
    rw [UInt8.lt_iff_toNat_lt]
    exact Nat.pos_of_ne_zero fun hz => hflags.2.2 (UInt8.toNat_inj.mp hz)

theorem mem_hearing {full : Bool} {inbox : List CANFrame} {f g : CANFrame}
    (h : g ∈ Medium.hearing hear full inbox f) : g ∈ inbox ∨ hear f = some g := by
  unfold Medium.hearing at h
  cases hf : hear f with
  | none =>
    rw [hf] at h
    exact Or.inl h
  | some y =>
    rw [hf, Option.elim_some] at h
    rcases List.mem_append.mp ((Medium.arrivals_sublist full inbox y).mem h) with hg | hg
    · exact Or.inl hg
    · exact Or.inr (congrArg some (List.mem_singleton.mp hg).symm)

theorem Consumer.notifyCb (h : n.Consumer s) {amsg : Can2040Msg} {now micros : UInt32}
    (hm : n.notifyCb amsg now micros = some m) : m.Consumer s ∧ TellsNothing n m := by
  unfold CBUSbase.notifyCb at hm
  cases hb : n.rxBuffer with
  | none =>
    rw [hb] at hm
    cases hm
    exact ⟨h, .refl n⟩
  | some b =>
    rw [hb] at hm
    obtain ⟨r, hr, hm⟩ := Option.map_eq_some_iff.mp hm
    have htells := tellsNothing_checkIncomingFrame hr
    obtain ⟨_, _, _, _, _, hframe⟩ := checkIncomingFrame_frame hr
    have hr' : r.2.2.Consumer s := by
      rw [hframe]
      exact h.congr h.represents rfl h.noServer h.noOwn
    cases hm
    dsimp only
    split_ifs
    · exact ⟨hr'.congr hr'.represents rfl hr'.noServer hr'.noOwn, htells⟩
    · exact ⟨hr', htells⟩

end CBUSbase
end CBUSPicoLib
