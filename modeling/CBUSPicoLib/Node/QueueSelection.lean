import CBUSPicoLib.Can.BufferQueue
import CBUSPicoLib.Library.Service
import CBUSPicoLib.Node.HandlingTrace

/-!
# Which frames `process()` takes

While nothing arrives the three receive queues are one: the module's own events, then
GridConnect, then CAN. An iteration of the message loop serves its first frame, or leaves
it there if it is one from CAN and the GridConnect server cannot send.
-/

namespace CBUSPicoLib

open Runs Service

namespace CBUSCircularBuffer

/-- A buffer as its methods leave it, allocated or not. -/
def Used (b : CBUSCircularBuffer) : Prop :=
  ∃ capacity calls, b = run (fun b c => (call b c).2) (construct capacity) calls ∨
    b = run (fun b c => (call b c).2) { capacity := capacity, buffer := none } calls

def frames (b : CBUSCircularBuffer) : List CANFrame := b.contents.map (·.item)

/-- No call makes a buffer without memory look filled. -/
structure Unallocated (b : CBUSCircularBuffer) : Prop where
  buffer : b.buffer = none
  size : b.size = 0
  full : b.full = false
  head : b.head = b.tail

theorem Unallocated.call {b : CBUSCircularBuffer} (h : Unallocated b) (c : BufferCall) :
    Unallocated (b.call c).2 := by
  cases c with
  | put item micros =>
    have hput : b.put item micros = b := by
      rw [CBUSCircularBuffer.put, h.buffer]
    exact (congrArg Unallocated hput).mpr h
  | get =>
    have hget : b.get = (none, b) := if_neg fun hb => by simp [h.buffer] at hb
    exact (congrArg (fun r => Unallocated r.2) hget).mpr h
  | clear => exact ⟨h.buffer, rfl, rfl, rfl⟩
  | size =>
    have hcount : b.countItems = 0 := by
      simp [countItems, h.full, h.head]
    exact ⟨h.buffer, hcount, h.full, h.head⟩
  | _ => exact h

theorem Used.unallocated_or {b : CBUSCircularBuffer} (h : Used b) :
    Unallocated b ∨ ∃ (n : ℕ) (items : List BufferItem) (q : DropOldest BufferItem n),
      Represents b items q := by
  obtain ⟨capacity, calls, h⟩ := h
  have hnone : ∀ start, Unallocated start →
      Unallocated (run (fun b c => (CBUSCircularBuffer.call b c).2) start calls) :=
    fun start hs => run_invariant (fun b c hb => hb.call c) hs calls
  rcases h with rfl | rfl
  · by_cases hc : 0 < capacity.toNat
    · obtain ⟨items, hrep⟩ := represents_run hc calls
      exact Or.inr ⟨_, items, _, hrep⟩
    · apply Or.inl
      apply hnone
      have hn : ¬ 0 < capacity := fun hlt => hc (UInt8.lt_iff_toNat_lt.mp hlt)
      exact ⟨if_neg hn, rfl, rfl, rfl⟩
  · exact Or.inl (hnone _ ⟨rfl, rfl, rfl, rfl⟩)

theorem Used.available_iff {b : CBUSCircularBuffer} (h : Used b) :
    b.available = true ↔ b.frames ≠ [] := by
  rcases h.unallocated_or with hu | ⟨n, items, q, hrep⟩
  · have hnil : b.frames = [] := by
      simp [frames, contents, hu.buffer]
    simp [available, hu.size, hnil]
  · rw [hrep.available_iff, frames, hrep.contents, ne_eq, ne_eq, List.map_eq_nil_iff]

theorem Used.getFrame {b : CBUSCircularBuffer} (h : Used b) {msg : CANFrame}
    {rest : List CANFrame} (hf : b.frames = msg :: rest) :
    b.getFrame.1 = msg ∧ b.getFrame.2.frames = rest := by
  rcases h.unallocated_or with hu | ⟨n, items, q, hrep⟩
  · simp [frames, contents, hu.buffer] at hf
  · rw [frames, hrep.contents] at hf
    obtain ⟨x, entries, hq, rfl, rfl⟩ := List.map_eq_cons_iff.mp hf
    obtain ⟨hslot, hget⟩ := hrep.get_of_cons hq
    constructor
    · change b.get.2.frameAt b.get.1 = x.item
      rw [hslot]
      exact (hrep.tail_slot hq).2.2
    · change b.get.2.frames = entries.map (·.item)
      rw [frames, hget.contents, (q.get_of_cons hq).1]

theorem Used.used_getFrame {b : CBUSCircularBuffer} (h : Used b) : Used b.getFrame.2 := by
  obtain ⟨capacity, calls, h⟩ := h
  refine ⟨capacity, calls ++ [.get], ?_⟩
  simp only [run_append, run_cons, run_nil]
  rcases h with rfl | rfl
  · exact Or.inl rfl
  · exact Or.inr rfl

end CBUSCircularBuffer

/-- The three receive queues. -/
inductive Source
  | own
  | gridConnect
  | can
  deriving DecidableEq, Repr

namespace CBUSbase

open CBUSCircularBuffer

def coeBuffer (n : CBUSbase) : Option CBUSCircularBuffer := n.coeObj.bind (·.coeBuff)

/-- The frames of a queue that may not exist, each with its source. -/
def taggedFrames (source : Source) (buffer : Option CBUSCircularBuffer) :
    List (Source × CANFrame) :=
  (buffer.elim [] frames).map fun msg => (source, msg)

def queued (n : CBUSbase) : List (Source × CANFrame) :=
  taggedFrames .own n.coeBuffer ++ taggedFrames .gridConnect n.gcServer ++
    taggedFrames .can n.rxBuffer

/-- Every receive queue is a buffer in use. -/
structure QueuesUsed (n : CBUSbase) : Prop where
  own : ∀ b ∈ n.coeBuffer, Used b
  gridConnect : ∀ b ∈ n.gcServer, Used b
  can : ∀ b ∈ n.rxBuffer, Used b

/-- Take the first frame from its queue; one from CAN is passed on to GridConnect. -/
def remove (n : CBUSbase) (source : Source) (msg : CANFrame) : CBUSbase :=
  match source with
  | .own =>
    let coeObj := n.coeObj.map fun coe => ⟨coe.coeBuff.map fun b => b.getFrame.2⟩
    { n with coeObj }.emit (.taken msg)
  | .gridConnect =>
    let gcServer := n.gcServer.map fun b => b.getFrame.2
    { n with gcServer }.emit (.taken msg)
  | .can =>
    let rxBuffer := n.rxBuffer.map fun b => b.getFrame.2
    let n := { n with rxBuffer }.emit (.taken msg)
    n.forward msg n.available

/-- The two have the same receive queues. -/
def SameQueues (n m : CBUSbase) : Prop :=
  m.coeObj = n.coeObj ∧ m.gcServer = n.gcServer ∧ m.rxBuffer = n.rxBuffer

theorem SameQueues.refl (n : CBUSbase) : SameQueues n n := ⟨rfl, rfl, rfl⟩

theorem SameQueues.trans {n m k : CBUSbase} (h : SameQueues n m) (h' : SameQueues m k) :
    SameQueues n k := ⟨h'.1.trans h.1, h'.2.1.trans h.2.1, h'.2.2.trans h.2.2⟩

theorem SameQueues.queued {n m : CBUSbase} (h : SameQueues n m) : m.queued = n.queued := by
  unfold CBUSbase.queued coeBuffer
  rw [h.1, h.2.1, h.2.2]

theorem SameQueues.queuesUsed {n m : CBUSbase} (h : SameQueues n m) (hq : n.QueuesUsed) :
    m.QueuesUsed := by
  obtain ⟨hcoe, hgc, hcan⟩ := h
  constructor
  · unfold coeBuffer
    rw [hcoe]
    exact hq.own
  · rw [hgc]
    exact hq.gridConnect
  · rw [hcan]
    exact hq.can

theorem Replies.sameQueues {n m : CBUSbase} (h : Replies n m) : SameQueues n m := by
  obtain ⟨p, es, rfl, -⟩ := h
  exact ⟨rfl, rfl, rfl⟩

theorem indicateModeOnLEDs_sameQueues (n : CBUSbase) (mode : LedMode) :
    SameQueues n (n.indicateModeOnLEDs mode) := by
  cases mode <;> exact ⟨rfl, rfl, rfl⟩

theorem doEnum_sameQueues (n : CBUSbase) (b : Bool) : SameQueues n (n.doEnum b) := by
  unfold doEnum
  dsimp only
  split_ifs <;> exact ⟨rfl, rfl, rfl⟩

theorem CommandStep.sameQueues {n m : CBUSbase} {msg : CANFrame} (h : CommandStep n msg m) :
    SameQueues n m := by
  cases h with
  | enum => exact n.doEnum_sameQueues true
  | _ => exact ⟨rfl, rfl, rfl⟩

theorem parseCBUSMsg_sameQueues (n : CBUSbase) (msg : CANFrame) :
    SameQueues n (n.parseCBUSMsg msg).2 := by
  unfold parseCBUSMsg
  split_ifs
  · unfold parseCBUSEvent
    dsimp only
    split_ifs <;> exact ⟨rfl, rfl, rfl⟩
  · obtain ⟨m, hstep, hreplies⟩ := n.parseFLiMCmd_handles msg
    have hcache : SameQueues n (n.cacheNumbers msg) := ⟨rfl, rfl, rfl⟩
    exact (hcache.trans hstep.sameQueues).trans hreplies.sameQueues

theorem callFrameHandler_sameQueues (n : CBUSbase) (msg : CANFrame) :
    SameQueues n (n.callFrameHandler msg).2 := by
  unfold callFrameHandler
  split
  · split_ifs <;> exact ⟨rfl, rfl, rfl⟩
  · exact SameQueues.refl n

/-- Handling a frame adds nothing to the queues and takes nothing from them. -/
theorem handleFrame_sameQueues (n : CBUSbase) (msg : CANFrame) (pulseTime : UInt32) :
    SameQueues n (n.handleFrame msg pulseTime) := by
  let m := { n with bThisNN := n.isThisNN msg }
  have hm : SameQueues n m := ⟨rfl, rfl, rfl⟩
  let k := (m.callFrameHandler msg).2.emit (.parseCBUSMsg (m.callFrameHandler msg).1)
  have hk : SameQueues n k := hm.trans (m.callFrameHandler_sameQueues msg)
  have hparse := hk.trans (k.parseCBUSMsg_sameQueues (m.callFrameHandler msg).1)
  unfold handleFrame
  dsimp only
  split_ifs <;> exact hparse

theorem initFLiM_sameQueues (n : CBUSbase) : SameQueues n n.initFLiM :=
  (n.indicateModeOnLEDs_sameQueues .modeChanging).trans
    (replies_sendOpcMyNN _ _ _ _ _ _ _ _).sameQueues

theorem revertSLiM_sameQueues (n : CBUSbase) : SameQueues n n.revertSLiM := by
  let m := n.sendOpcMyNN opcNnrel
  have hrel : SameQueues n m := (n.replies_sendOpcMyNN opcNnrel 0 0 0 0 0 0).sameQueues
  have hslim : SameQueues m m.setSLiM := by
    unfold setSLiM indicateFLiMMode
    apply SameQueues.trans _ (indicateModeOnLEDs_sameQueues _ _)
    exact ⟨rfl, rfl, rfl⟩
  exact hrel.trans hslim

theorem flimSWCheck_sameQueues (n : CBUSbase) (now : UInt32) :
    SameQueues n (n.flimSWCheck now) := by
  have hstate : ∀ state, SameQueues n { n with flimState := state } := fun _ => ⟨rfl, rfl, rfl⟩
  have hstep := n.flimStep_flimSWCheck now
  generalize n.flimSWCheck now = m at hstep ⊢
  cases hstep with
  | move => exact ⟨rfl, rfl, rfl⟩
  | flash => exact (hstate _).trans (indicateModeOnLEDs_sameQueues _ _)
  | setup => exact (hstate _).trans (initFLiM_sameQueues _)
  | revert => exact (hstate _).trans (revertSLiM_sameQueues _)
  | resume => exact (hstate _).trans (indicateModeOnLEDs_sameQueues _ _)
  | unknown => exact n.revertSLiM_sameQueues

theorem processEnumeration_sameQueues (n : CBUSbase) (now : UInt32) :
    SameQueues n (n.processEnumeration now) := by
  have hstep := n.enumerationStep_processEnumeration now
  generalize n.processEnumeration now = m at hstep ⊢
  cases hstep with
  | keep => exact SameQueues.refl n
  | start _ _ replies => exact replies.sameQueues
  | conclude _ _ replies => exact replies.sameQueues

theorem poll_sameQueues (n : CBUSbase) (i : PollInput) : SameQueues n (n.poll i) := by
  let m := { n with
    ledGrn := n.ledGrn.run i.grnTime
    ledYlw := n.ledYlw.run i.ylwTime
    sw := n.sw.run i.pin i.swClock }
  have hm : SameQueues n m := ⟨rfl, rfl, rfl⟩
  exact (hm.trans (m.flimSWCheck_sameQueues i.flimTime)).trans
    (processEnumeration_sameQueues _ i.enumTime)

theorem taggedFrames_eq_nil_iff {source : Source} {buffer : Option CBUSCircularBuffer}
    (h : ∀ b ∈ buffer, Used b) :
    taggedFrames source buffer = [] ↔ buffer.any (·.available) = false := by
  cases buffer with
  | none => exact ⟨fun _ => rfl, fun _ => rfl⟩
  | some b =>
    have hb := (h b rfl).available_iff
    simp only [taggedFrames, Option.elim_some, List.map_eq_nil_iff, Option.any_some]
    rw [← Bool.not_eq_true, hb, not_not]

theorem taggedFrames_cons {source s : Source} {buffer : Option CBUSCircularBuffer}
    (h : ∀ b ∈ buffer, Used b) {msg : CANFrame} {rest : List (Source × CANFrame)}
    (hf : taggedFrames source buffer = (s, msg) :: rest) :
    ∃ b, buffer = some b ∧ s = source ∧ b.getFrame.1 = msg ∧
      taggedFrames source (some b.getFrame.2) = rest ∧ Used b.getFrame.2 := by
  cases buffer with
  | none => exact absurd hf (by simp [taggedFrames])
  | some b =>
    obtain ⟨msg', msgs, hframes, hhead, hrest⟩ := List.map_eq_cons_iff.mp hf
    obtain ⟨rfl, rfl⟩ := Prod.mk.inj hhead
    obtain ⟨hmsg, htail⟩ := (h b rfl).getFrame hframes
    refine ⟨b, rfl, rfl, hmsg, ?_, (h b rfl).used_getFrame⟩
    rw [← hrest, ← htail]
    rfl

theorem taggedFrames_eq_nil {n : CBUSbase} (hq : n.QueuesUsed) :
    (taggedFrames .own n.coeBuffer = [] ↔ n.coeAvailable = false) ∧
      (taggedFrames .gridConnect n.gcServer = [] ↔ n.gcAvailable = false) ∧
      (taggedFrames .can n.rxBuffer = [] ↔ n.available = false) := by
  refine ⟨?_, taggedFrames_eq_nil_iff hq.gridConnect, taggedFrames_eq_nil_iff hq.can⟩
  have hcoe : n.coeAvailable = n.coeBuffer.any (·.available) := by
    unfold coeAvailable coeBuffer
    cases n.coeObj <;> rfl
  rw [hcoe]
  exact taggedFrames_eq_nil_iff hq.own

theorem queued_eq_nil_iff {n : CBUSbase} (hq : n.QueuesUsed) :
    n.queued = [] ↔ (n.available || n.gcAvailable || n.coeAvailable) = false := by
  obtain ⟨hown, hgc, hcan⟩ := taggedFrames_eq_nil hq
  unfold queued
  rw [List.append_eq_nil_iff, List.append_eq_nil_iff, hown, hgc, hcan, Bool.or_eq_false_iff,
    Bool.or_eq_false_iff]
  constructor
  · rintro ⟨⟨hown, hgc⟩, hcan⟩
    exact ⟨⟨hcan, hgc⟩, hown⟩
  · rintro ⟨⟨hcan, hgc⟩, hown⟩
    exact ⟨⟨hown, hgc⟩, hcan⟩

/-- What taking the first frame of a queue leaves. -/
structure TakesFirst (n : CBUSbase) (canSend : Bool) (s : Source) (msg : CANFrame)
    (rest : List (Source × CANFrame)) : Prop where
  taken : n.takeFrame canSend = (some msg, n.remove s msg)
  queued : (n.remove s msg).queued = rest
  queuesUsed : (n.remove s msg).QueuesUsed
  server : (n.remove s msg).gcServer.isNone = n.gcServer.isNone

theorem forward_sameQueues (n : CBUSbase) (msg : CANFrame) (bMore : Bool) :
    SameQueues n (n.forward msg bMore) := by
  obtain ⟨port, h⟩ := n.forward_frame msg bMore
  rw [h]
  exact ⟨rfl, rfl, rfl⟩

theorem takeFrame_can {n : CBUSbase} (hq : n.QueuesUsed) {canSend : Bool}
    (hsend : (n.gcServer.isNone || canSend) = true) {s : Source}
    {msg : CANFrame} {rest : List (Source × CANFrame)}
    (hown : taggedFrames .own n.coeBuffer = [])
    (hgc : taggedFrames .gridConnect n.gcServer = [])
    (h : taggedFrames .can n.rxBuffer = (s, msg) :: rest) :
    n.TakesFirst canSend s msg rest := by
  obtain ⟨b, hb, rfl, rfl, rfl, hused⟩ := taggedFrames_cons hq.can h
  have hnoOwn : n.coeAvailable = false := (taggedFrames_eq_nil hq).1.mp hown
  have hnoGc : n.gcAvailable = false := (taggedFrames_eq_nil hq).2.1.mp hgc
  have hne : n.available = true := by
    rw [← Bool.not_eq_false, ← (taggedFrames_eq_nil hq).2.2, h]
    simp
  let m := { n with rxBuffer := some b.getFrame.2 }.emit (.taken b.getFrame.1)
  have hremove : n.remove .can b.getFrame.1 = m.forward b.getFrame.1 m.available := by
    simp only [remove, hb, Option.map_some]
    rfl
  have hsame := m.forward_sameQueues b.getFrame.1 m.available
  refine ⟨?_, ?_, ?_, ?_⟩
  · rw [hremove, takeFrame, if_neg (Bool.eq_false_iff.mp hnoOwn),
      if_neg (Bool.eq_false_iff.mp hnoGc), if_pos hne, hb]
    exact if_pos hsend
  · rw [hremove, hsame.queued]
    unfold CBUSbase.queued
    change taggedFrames .own n.coeBuffer ++ taggedFrames .gridConnect n.gcServer ++ _ = _
    rw [hown, hgc]
    rfl
  · rw [hremove]
    apply hsame.queuesUsed
    exact ⟨hq.own, hq.gridConnect, fun b' hb' => by cases hb'; exact hused⟩
  · rw [hremove, hsame.2.1]
    rfl

/-- No frame arrives during the iterations. -/
def Quiet (frames : ℕ → FrameInput) (k : ℕ) : Prop :=
  ∀ i < k, (frames i).canArrivals = [] ∧ (frames i).gcArrivals = []

end CBUSbase
end CBUSPicoLib
