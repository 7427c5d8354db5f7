import CBUSPicoLib.GridConnect.Recovery
import CBUSPicoLib.Library.RetrySlot

/-!
# The outgoing stream of one connection

`bufferSent` is the one slot for a message that `tcp_write` refused. Every send
may overwrite it, a retry leaves it filled, and any acknowledgement may clear it:
the stream keeps its order exactly while the callbacks come at the right time.
-/

namespace CBUSPicoLib

open Runs

/-- A frame that the encoder takes. -/
structure EncodableFrame where
  frame : CANFrame
  encodable : frame.Encodable

namespace CBUSGridConnect

/-- What `tcp_write` returns. -/
inductive WriteResult
  | ok
  | mem
  deriving DecidableEq, Repr

def WriteResult.err : WriteResult → ErrT
  | .ok => .errOk
  | .mem => .errMem

/-- What happens on an open connection. -/
inductive OutEvent
  | send (f : EncodableFrame) (write : WriteResult)
  | poll (write : WriteResult)
  | sent (len : ℕ)

namespace OutEvent

def event : OutEvent → Event
  | .send f write => .send f.frame write.err
  | .poll write => .poll write.err
  | .sent len => .sent len

def frame? : OutEvent → Option EncodableFrame
  | .send f _ => some f
  | _ => none

end OutEvent

/-- An open connection, with the frames passed to `sendCANFrame` since it was opened. -/
structure Connection where
  server : CBUSGridConnect
  frames : List EncodableFrame
  isOpen : server.Open
  fits : server.bufferSent.len ≤ 28

theorem encodeGC_encodable (f : EncodableFrame) : ∃ m : GcMessage,
    encodeGC f.frame = some (true, m) ∧ m.len ≤ 28 ∧
      m.byte.toList.take m.len.toNat = f.frame.encoded := by
  obtain ⟨m, hencode, -, hlen⟩ := encodeGC_text f.encodable
  refine ⟨m, hencode, ?_, ?_⟩
  · rw [UInt8.le_iff_toNat_le, hlen]
    exact length_gcText_le f.encodable.len
  · simp [CANFrame.encoded, hencode]

theorem serverSend_ok {state : CBUSGridConnect} {msg : GcMessage} (h : msg.len ≤ 28) :
    state.serverSend msg .errOk = some { state with
      sentLen := 0, written := state.written ++ msg.byte.toList.take msg.len.toNat } := by
  simp [serverSend, GcMessage.chars, h]

theorem serverSend_mem {state : CBUSGridConnect} {msg : GcMessage} (h : msg.len ≤ 28) :
    state.serverSend msg .errMem = some { state with sentLen := 0, bufferSent := msg } := by
  simp [serverSend, GcMessage.chars, h]

def held (state : CBUSGridConnect) : List UInt8 :=
  state.bufferSent.byte.toList.take state.bufferSent.len.toNat

namespace Connection

def stream (c : Connection) : RetrySlot UInt8 where
  written := c.server.written
  texts := c.frames.map (·.frame.encoded)
  slot := c.server.held
  nonempty := by
    intro t ht
    obtain ⟨f, -, rfl⟩ := List.mem_map.mp ht
    exact encoded_ne_nil f.encodable

/-- What an event does to the stream; an acknowledgement empties the slot once the
bytes acknowledged since the last send are as many as the slot has. -/
def op (c : Connection) : OutEvent → RetrySlot.Op UInt8
  | .send f .ok => .accepted f.frame.encoded (encoded_ne_nil f.encodable)
  | .send f .mem => .refused f.frame.encoded (encoded_ne_nil f.encodable)
  | .poll .ok => .retried
  | .poll .mem => .idle
  | .sent len =>
    if c.server.bufferSent.len.toNat ≤ c.server.sentLen + len then .emptied else .idle

theorem exists_step_send (c : Connection) (f : EncodableFrame) (write : WriteResult) :
    ∃ s, c.server.step (.send f.frame write.err) = some s ∧ (s.Open ∧ s.bufferSent.len ≤ 28) ∧
      s.written = (c.stream.step (c.op (.send f write))).written ∧
      s.held = (c.stream.step (c.op (.send f write))).slot := by
  obtain ⟨m, hencode, hm, htext⟩ := encodeGC_encodable f
  have hsend : c.server.step (.send f.frame write.err) = c.server.serverSend m write.err := by
    simp [CBUSGridConnect.step, sendCANFrame, hencode, c.isOpen.1]
  rw [hsend]
  cases write with
  | ok =>
    refine ⟨_, serverSend_ok hm, ⟨c.isOpen, c.fits⟩, ?_, rfl⟩
    rw [htext]
    rfl
  | mem => exact ⟨_, serverSend_mem hm, ⟨c.isOpen, hm⟩, rfl, htext⟩

theorem exists_step_poll (c : Connection) (write : WriteResult) :
    ∃ s, c.server.step (.poll write.err) = some s ∧ (s.Open ∧ s.bufferSent.len ≤ 28) ∧
      s.written = (c.stream.step (c.op (.poll write))).written ∧
      s.held = (c.stream.step (c.op (.poll write))).slot := by
  by_cases hlen : c.server.bufferSent.len = 0
  · have hclosing : c.server.clientState ≠ .csClosing := by
      rcases c.isOpen.2 with h | h <;> simp [h]
    have hheld : c.server.held = [] := by simp [held, hlen]
    refine ⟨c.server, by simp [CBUSGridConnect.step, serverPoll, hlen, hclosing],
      ⟨c.isOpen, c.fits⟩, ?_, ?_⟩
    · cases write <;> simp [op, RetrySlot.step, stream, hheld]
    · cases write <;> rfl
  · have hpoll : c.server.step (.poll write.err) =
        c.server.serverSend c.server.bufferSent write.err := by
      simp [CBUSGridConnect.step, serverPoll, hlen]
    rw [hpoll]
    cases write with
    | ok => exact ⟨_, serverSend_ok c.fits, ⟨c.isOpen, c.fits⟩, rfl, rfl⟩
    | mem => exact ⟨_, serverSend_mem c.fits, ⟨c.isOpen, c.fits⟩, rfl, rfl⟩

theorem exists_step_sent (c : Connection) (len : ℕ) :
    ∃ s, c.server.step (.sent len) = some s ∧ (s.Open ∧ s.bufferSent.len ≤ 28) ∧
      s.written = (c.stream.step (c.op (.sent len))).written ∧
      s.held = (c.stream.step (c.op (.sent len))).slot := by
  refine ⟨_, rfl, ?_⟩
  unfold serverSent op
  dsimp only
  split_ifs with h
  · exact ⟨⟨c.isOpen, (by decide : GcMessage.empty.len ≤ 28)⟩, rfl, rfl⟩
  · exact ⟨⟨c.isOpen, c.fits⟩, rfl, rfl⟩

/-- A callback or a send does not fault, keeps the connection open and steps the stream. -/
theorem exists_step (c : Connection) (e : OutEvent) : ∃ s, c.server.step e.event = some s ∧
    (s.Open ∧ s.bufferSent.len ≤ 28) ∧ s.written = (c.stream.step (c.op e)).written ∧
      s.held = (c.stream.step (c.op e)).slot := by
  cases e with
  | send f write => exact c.exists_step_send f write
  | poll write => exact c.exists_step_poll write
  | sent len => exact c.exists_step_sent len

def step (c : Connection) (e : OutEvent) : Connection where
  server := (c.server.step e.event).get (by
    obtain ⟨s, hs, -⟩ := c.exists_step e
    simp [hs])
  frames := c.frames ++ e.frame?.toList
  isOpen := by
    obtain ⟨s, hs, h, -⟩ := c.exists_step e
    simpa [hs] using h.1
  fits := by
    obtain ⟨s, hs, h, -⟩ := c.exists_step e
    simpa [hs] using h.2

theorem step_texts (c : Connection) (e : OutEvent) :
    (c.step e).stream.texts = (c.stream.step (c.op e)).texts := by
  cases e with
  | send f write => cases write <;> simp [step, stream, op, RetrySlot.step, OutEvent.frame?]
  | poll write => cases write <;> simp [step, stream, op, RetrySlot.step, OutEvent.frame?]
  | sent len =>
    unfold op
    dsimp only
    split_ifs <;> simp [step, stream, RetrySlot.step, OutEvent.frame?]

theorem stream_step (c : Connection) (e : OutEvent) :
    (c.step e).stream = c.stream.step (c.op e) := by
  obtain ⟨s, hs, -, hwritten, hheld⟩ := c.exists_step e
  have hserver : (c.step e).server = s := by simp [step, hs]
  ext1
  · exact (congrArg written hserver).trans hwritten
  · exact c.step_texts e
  · exact (congrArg CBUSGridConnect.held hserver).trans hheld

/-- What the client has been sent is the frames passed on so far, in order and each at
most once, but for at most one, which is held. -/
def InOrder (c : Connection) : Prop :=
  ∃ k, c.server.written = (c.frames.take k).flatMap (·.frame.encoded) ∧
    (c.frames.drop k = [] ∨ ∃ f, c.frames.drop k = [f] ∧ c.server.held = f.frame.encoded)

/-- The client has been sent all frames passed on so far. -/
def AllSent (c : Connection) : Prop := c.server.written = c.frames.flatMap (·.frame.encoded)

/-- The event comes at the right time: a send or a clearing acknowledgement when all
frames are sent (or a send when the frame that waits has the same text), a retry when
one is not. -/
def KeepsOrder (c : Connection) : OutEvent → Prop
  | .send f .ok => c.AllSent ∨ f.frame.encoded = c.server.held
  | .send _ .mem => c.AllSent
  | .poll .ok => ¬ c.AllSent ∨ c.server.held = []
  | .poll .mem => True
  | .sent len => c.AllSent ∨ c.server.sentLen + len < c.server.bufferSent.len.toNat

theorem inOrder_stream (c : Connection) : c.stream.InOrder ↔ c.InOrder := by
  unfold RetrySlot.InOrder InOrder
  refine exists_congr fun k => and_congr ?_ (or_congr ?_ ?_)
  · simp [stream, List.flatMap_def]
  · simp [stream]
  · simp only [stream, ← List.map_drop, List.map_eq_singleton_iff]
    exact exists_congr fun f => and_congr_right fun _ => eq_comm

theorem keeps_stream (c : Connection) (e : OutEvent) :
    c.stream.Keeps (c.op e) ↔ c.KeepsOrder e := by
  cases e with
  | send f write => cases write <;> rfl
  | poll write => cases write <;> rfl
  | sent len =>
    unfold op KeepsOrder
    dsimp only
    split_ifs with h
    · have hnot : ¬ c.server.sentLen + len < c.server.bufferSent.len.toNat := Nat.not_lt.mpr h
      simp [hnot]
      rfl
    · have hlt : c.server.sentLen + len < c.server.bufferSent.len.toNat := Nat.not_le.mp h
      simp [hlt, RetrySlot.Keeps]

theorem step_inOrder_iff {c : Connection} (h : c.InOrder) (e : OutEvent) :
    (c.step e).InOrder ↔ c.KeepsOrder e := by
  rw [← inOrder_stream, stream_step, RetrySlot.step_inOrder_iff ((inOrder_stream c).mpr h),
    keeps_stream]

/-- The stream of a connection stays in order exactly if every event comes in time. -/
theorem inOrder_run_iff (c : Connection) (hnew : c.frames = [] ∧ c.server.written = [])
    (es : List OutEvent) :
    (∀ ps, ps <+: es → (run step c ps).InOrder) ↔ Guarded step KeepsOrder c es := by
  have hstart : c.InOrder := ⟨0, by simp [hnew.2], .inl (by simp [hnew.1])⟩
  have hkeep : ∀ d e, InOrder d → KeepsOrder d e → (step d e).InOrder :=
    fun d e h hkeeps => (step_inOrder_iff h e).mpr hkeeps
  have hlose : ∀ d e, InOrder d → ¬ KeepsOrder d e → ¬ (step d e).InOrder :=
    fun d e h hnot hbad => hnot ((step_inOrder_iff h e).mp hbad)
  exact forall_prefix_iff_guarded hkeep (fun _ h => h) hlose hstart es

def accepted : Connection where
  server := CBUSGridConnect.serverAccept {} .errOk
  frames := []
  isOpen := ⟨rfl, .inl rfl⟩
  fits := by decide

def sampleFrame : EncodableFrame where
  frame := { id := 0x585, len := 5, data := #v[opcAcon, 1, 2, 0, 3, 0, 0, 0] }
  encodable := by decide

theorem inOrder_run_iff_accepted :
    let es := [.send sampleFrame .mem, .poll .mem, .poll .ok]
    (∀ ps, ps <+: es → (run step accepted ps).InOrder) ↔ Guarded step KeepsOrder accepted es :=
  inOrder_run_iff accepted ⟨rfl, rfl⟩ _

/-- A message that was refused once is sent again with every poll. -/
theorem not_inOrder_pollTwice :
    ¬ (run step accepted [.send sampleFrame .mem, .poll .ok, .poll .ok]).InOrder := by
  rintro ⟨k, hwritten, -⟩
  have hframes : (run step accepted [.send sampleFrame .mem, .poll .ok, .poll .ok]).frames =
      [sampleFrame] := rfl
  rw [hframes] at hwritten
  cases k with
  | zero => exact absurd hwritten (by decide +kernel)
  | succ k =>
    rw [List.take_succ_cons, List.take_nil] at hwritten
    exact absurd hwritten (by decide +kernel)

end Connection
end CBUSGridConnect
end CBUSPicoLib
