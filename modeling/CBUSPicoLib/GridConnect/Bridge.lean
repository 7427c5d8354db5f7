import CBUSPicoLib.GridConnect.Recovery
import CBUSPicoLib.Node.Modes

/-!
# From GridConnect clients to the CAN bus

A frame decoded from the stream is put into the GridConnect queue of the module,
which `process` empties for its own use, and is passed to `sendCANMessage` once.
The result of that call is ignored, so what the controller refuses is lost.
-/

namespace CBUSPicoLib

open Runs

/-- What is met while one decoded frame is handled: the clock at `put`, and the answers
of the controller. -/
structure SendOutcome where
  micros : UInt32
  okToSend : Bool
  sendMessage : Bool

/-- The controller takes the frame. -/
def SendOutcome.Accepts (o : SendOutcome) : Prop := o.okToSend = true ∧ o.sendMessage = true

instance (o : SendOutcome) : Decidable o.Accepts :=
  inferInstanceAs (Decidable (o.okToSend = true ∧ o.sendMessage = true))

def canWord (msg : CANFrame) : CANFrame :=
  let msg := if msg.rtr then { msg with id := msg.id ||| 0x40000000 } else msg
  if msg.ext then { msg with id := msg.id ||| 0x80000000 } else msg

/-- Server and module together. The frames passed to `sendCANMessage` and those that
`send_message` has accepted are recorded, oldest first. -/
structure Bridge where
  server : CBUSGridConnect
  node : CBUSbase
  outcomes : ℕ → SendOutcome
  attempted : List CANFrame := []
  accepted : List CANFrame := []
  sound : server.Sound

namespace Bridge

/-- `CBUSACAN2040::sendCANMessage`, with the next answers of the controller. -/
def sendCANMessage (b : Bridge) (msg : CANFrame) : Bool × Bridge :=
  let b := { b with attempted := b.attempted ++ [msg] }
  if !(b.outcomes 0).okToSend then (false, b)
  else
    let msg := canWord msg
    if (b.outcomes 0).sendMessage then (true, { b with accepted := b.accepted ++ [msg] })
    else (false, b)

def queueAndSend (b : Bridge) (msg : CANFrame) : Bridge :=
  let b := { b with node := { b.node with
    gcServer := b.node.gcServer.map (CBUSCircularBuffer.put · msg (b.outcomes 0).micros) } }
  let b := (b.sendCANMessage msg).2
  { b with outcomes := fun k => b.outcomes (k + 1) }

/-- What happens to server and module. -/
inductive BridgeEvent
  | server (e : CBUSGridConnect.Event) (he : e.Fits)
  | module (e : CBUSbase.ModuleEvent)

def callback (b : Bridge) (e : CBUSGridConnect.Event) (he : e.Fits) : Bridge :=
  { b with
    server := (b.server.step e).get (by
      obtain ⟨s, hs, -⟩ := b.sound.step he
      simp [hs])
    sound := by
      obtain ⟨s, hs, hsound⟩ := b.sound.step he
      simpa [hs] using hsound }

/-- What becomes of a frame does not matter to the callbacks of the server, so the frames
that one of them decodes can be handled behind it, one after the other. -/
def step (b : Bridge) : BridgeEvent → Bridge
  | .server e he =>
    let next := b.callback e he
    (next.server.queued.drop b.server.queued.length).foldl queueAndSend next
  | .module e => { b with node := b.node.moduleStep e }

end Bridge

namespace CBUSGridConnect

theorem queued_queueMessage {state state' : CBUSGridConnect} {p : List UInt8}
    {gcMsgLen nStart : ℕ} (h : state.queueMessage p gcMsgLen nStart = some state') :
    state.queued <+: state'.queued := by
  unfold queueMessage at h
  simp only [Option.bind_eq_bind, Option.bind_eq_some_iff] at h
  obtain ⟨⟨copied, m⟩, -, h⟩ := h
  dsimp only at h
  split_ifs at h
  · obtain ⟨canMsg, -, h⟩ := Option.bind_eq_some_iff.mp h
    cases h
    exact List.prefix_append _ _
  · cases h
    exact List.prefix_rfl

theorem queued_savePartial {state state' : CBUSGridConnect} {p : List UInt8} {bufLeft nStart : ℕ}
    (h : state.savePartial p bufLeft nStart = some state') : state'.queued = state.queued := by
  unfold savePartial at h
  simp only [Option.bind_eq_bind, Option.bind_eq_some_iff] at h
  obtain ⟨⟨copied, m⟩, -, h⟩ := h
  cases h
  rfl

theorem queued_extractAndQueueGC {state state' : CBUSGridConnect} {nStart : ℕ} {p : List UInt8}
    (h : state.extractAndQueueGC nStart p = some state') : state.queued <+: state'.queued := by
  have hmessage : ∀ {s s' : CBUSGridConnect} {len start : ℕ},
      (if len ≤ 28 then s.queueMessage p len start else some s) = some s' →
        s.queued <+: s'.queued := by
    intro s s' len start h
    split_ifs at h
    · exact queued_queueMessage h
    · cases h
      exact List.prefix_rfl
  fun_induction extractAndQueueGC state nStart p generalizing state' with
  | case1 state nStart hstart start hend gcMsgLen next hleft =>
    rename_i ih
    obtain ⟨s, hs, hrest⟩ := Option.bind_eq_some_iff.mp h
    exact (hmessage hs).trans (ih s hrest)
  | case2 state nStart hstart start hend gcMsgLen next => exact hmessage h
  | case3 state nStart hstart start hend bufLeft =>
    rw [queued_savePartial h]
  | case4 state nStart hstart start hend bufLeft =>
    cases h
    exact List.prefix_rfl
  | case5 state nStart hstart =>
    cases h
    exact List.prefix_rfl

theorem queued_serverSend {state state' : CBUSGridConnect} {msg : GcMessage} {write : ErrT}
    (h : state.serverSend msg write = some state') : state'.queued = state.queued := by
  obtain ⟨chars, -, h⟩ := Option.bind_eq_some_iff.mp h
  cases write <;> cases h <;> rfl

theorem queued_serverRecv {state state' : CBUSGridConnect} {p : List UInt8} {err write : ErrT}
    (h : state.serverRecv (some p) err write = some state') : state.queued <+: state'.queued := by
  unfold serverRecv at h
  dsimp only at h
  by_cases herr : err ≠ .errOk
  · rw [if_pos herr] at h
    cases h
    exact List.prefix_rfl
  · rw [if_neg herr] at h
    cases hstate : state.clientState with
    | csAccepted =>
      rw [hstate] at h
      dsimp only at h
      split_ifs at h
      · have hpre := queued_extractAndQueueGC h
        exact hpre
      · cases h
        exact List.prefix_rfl
    | csReceived =>
      rw [hstate] at h
      dsimp only at h
      split_ifs at h
      · simp only [Option.bind_eq_bind, Option.bind_eq_some_iff] at h
        obtain ⟨q, -, r, -, h⟩ := h
        exact queued_extractAndQueueGC h
      · exact queued_extractAndQueueGC h
      · cases h
        exact List.prefix_rfl
    | csClosing =>
      rw [hstate] at h
      cases h
      exact List.prefix_rfl
    | csNone =>
      rw [hstate] at h
      cases h
      exact List.prefix_rfl

namespace Event

/-- The event brings bytes of the client. -/
def FromClient : Event → Prop
  | .recv (some _) _ _ => True
  | _ => False

end Event

theorem queued_step_eq {state state' : CBUSGridConnect} {e : Event} (he : ¬ e.FromClient)
    (h : state.step e = some state') : state'.queued = state.queued := by
  cases e with
  | accept err =>
    cases h
    unfold serverAccept serverShutdown serverCloseConn
    split_ifs <;> rfl
  | recv p err write =>
    cases p with
    | some p => exact absurd trivial he
    | none =>
      unfold step serverRecv at h
      dsimp only at h
      split_ifs at h
      · cases h
        rfl
      · exact Eq.trans (queued_serverSend h) rfl
  | sent len =>
    cases h
    unfold serverSent
    dsimp only
    split_ifs <;> rfl
  | poll write =>
    unfold step serverPoll at h
    dsimp only at h
    split_ifs at h
    · exact queued_serverSend h
    · cases h
      rfl
    · cases h
      rfl
  | err aborted =>
    cases h
    unfold serverErr serverShutdown serverCloseConn
    split_ifs <;> rfl
  | send msg write =>
    unfold step sendCANFrame at h
    dsimp only at h
    obtain ⟨⟨encoded, m⟩, -, h⟩ := Option.bind_eq_some_iff.mp h
    dsimp only at h
    split_ifs at h
    · exact queued_serverSend h
    · cases h
      rfl

theorem queued_step {state state' : CBUSGridConnect} {e : Event}
    (h : state.step e = some state') : state.queued <+: state'.queued := by
  by_cases he : e.FromClient
  · cases e with
    | recv p err write =>
      cases p with
      | some p => exact queued_serverRecv (show state.serverRecv (some p) err write = _ from h)
      | none => exact absurd he id
    | accept err => exact absurd he id
    | sent len => exact absurd he id
    | poll write => exact absurd he id
    | err aborted => exact absurd he id
    | send msg write => exact absurd he id
  · rw [queued_step_eq he h]

end CBUSGridConnect

namespace Bridge

def start (node : CBUSbase) (outcomes : ℕ → SendOutcome) : Bridge where
  server := {}
  node := node
  outcomes := outcomes
  sound := CBUSGridConnect.sound_init

def BridgeEvent.FromClient : BridgeEvent → Prop
  | .server e _ => e.FromClient
  | .module _ => False

/-- The module will try to send the frame on the CAN bus, whatever the client does. -/
def Held (b : Bridge) (f : CANFrame) : Prop :=
  ∃ es : List BridgeEvent, (∀ e ∈ es, ¬ e.FromClient) ∧
    ∃ later, (run step b es).attempted = b.attempted ++ later ∧ f ∈ later

/-- Of the frames decoded so far, in order, each has been accepted once or is held. -/
def Delivered (b : Bridge) : Prop :=
  ∃ marks : List (CANFrame × Bool), marks.map Prod.fst = b.server.queued ∧
    (marks.filter Prod.snd).map (canWord ·.1) = b.accepted ∧
    ∀ m ∈ marks, m.2 = false → b.Held m.1

theorem sendCANMessage_spec (b : Bridge) (msg : CANFrame) :
    let r := (b.sendCANMessage msg).2
    r.server = b.server ∧ r.outcomes = b.outcomes ∧ r.attempted = b.attempted ++ [msg] ∧
      r.accepted = b.accepted ++ if (b.outcomes 0).Accepts then [canWord msg] else [] := by
  unfold sendCANMessage SendOutcome.Accepts
  dsimp only
  split_ifs with hno _ hsent hall hall <;> simp_all

/-- A decoded frame is passed to `sendCANMessage` once, and the answer decides. -/
theorem queueAndSend_spec (b : Bridge) (msg : CANFrame) :
    let r := b.queueAndSend msg
    r.server = b.server ∧ r.outcomes = (fun k => b.outcomes (k + 1)) ∧
      r.attempted = b.attempted ++ [msg] ∧
      r.accepted = b.accepted ++ if (b.outcomes 0).Accepts then [canWord msg] else [] := by
  obtain ⟨hserver, houtcomes, hattempted, haccepted⟩ := sendCANMessage_spec { b with
    node := { b.node with
      gcServer := b.node.gcServer.map (CBUSCircularBuffer.put · msg (b.outcomes 0).micros) } } msg
  refine ⟨hserver, ?_, hattempted, haccepted⟩
  funext k
  exact congrFun houtcomes (k + 1)

theorem foldl_queueAndSend (b : Bridge) (fs : List CANFrame) :
    (fs.foldl queueAndSend b).server = b.server ∧
      (fs.foldl queueAndSend b).attempted = b.attempted ++ fs := by
  induction fs generalizing b with
  | nil => simp
  | cons f fs ih =>
    obtain ⟨hserver, -, hattempted, -⟩ := b.queueAndSend_spec f
    rw [List.foldl_cons, (ih _).1, (ih _).2, hserver, hattempted]
    simp

/-- What is accepted of the frames passed to `sendCANMessage`, by the answers. -/
def acceptedBy (outcomes : ℕ → SendOutcome) (fs : List CANFrame) : List CANFrame :=
  (fs.zipIdx.filter fun p => (outcomes p.2).Accepts).map (canWord ·.1)

theorem length_acceptedBy (outcomes : ℕ → SendOutcome) (fs : List CANFrame) :
    (acceptedBy outcomes fs).length = fs.length ↔ ∀ k < fs.length, (outcomes k).Accepts := by
  have hfilter := List.length_filter_eq_length_iff (l := fs.zipIdx)
    (p := fun p => decide (outcomes p.2).Accepts)
  rw [List.length_zipIdx] at hfilter
  unfold acceptedBy
  rw [List.length_map, hfilter]
  constructor
  · intro h k hk
    simpa using h (fs[k], k) (by simp [List.mk_mem_zipIdx_iff_getElem?])
  · rintro h ⟨f, k⟩ hmem
    simpa using h k (List.mem_zipIdx' hmem).1

theorem acceptedBy_of_all {outcomes : ℕ → SendOutcome} {fs : List CANFrame}
    (h : ∀ k < fs.length, (outcomes k).Accepts) : acceptedBy outcomes fs = fs.map canWord := by
  have hfilter : (fs.zipIdx.filter fun p => (outcomes p.2).Accepts) = fs.zipIdx := by
    rw [List.filter_eq_self]
    rintro ⟨f, k⟩ hmem
    simpa using h k (List.mem_zipIdx' hmem).1
  have hmap : fs.zipIdx.map (canWord ∘ Prod.fst) = fs.map canWord := by
    rw [← List.map_map, List.zipIdx_map_fst]
  unfold acceptedBy
  rw [hfilter]
  exact hmap

/-- The frames decoded are those passed on, and the answers decide which are accepted. -/
structure Accounted (outcomes : ℕ → SendOutcome) (b : Bridge) : Prop where
  answers : ∀ k, b.outcomes k = outcomes (b.attempted.length + k)
  accepted : b.accepted = acceptedBy outcomes b.attempted

variable {outcomes : ℕ → SendOutcome}

theorem Accounted.queueAndSend {b : Bridge} (h : Accounted outcomes b) (msg : CANFrame) :
    Accounted outcomes (b.queueAndSend msg) := by
  obtain ⟨-, houtcomes, hattempted, haccepted⟩ := b.queueAndSend_spec msg
  have hanswer : b.outcomes 0 = outcomes b.attempted.length := h.answers 0
  constructor
  · intro k
    rw [houtcomes, hattempted, List.length_append, List.length_singleton, Nat.add_assoc,
      Nat.add_comm 1 k]
    exact h.answers (k + 1)
  · rw [haccepted, hattempted, h.accepted, hanswer]
    unfold acceptedBy
    rw [List.zipIdx_append, List.filter_append, List.map_append]
    congr 1
    split_ifs with hok
    · simp [hok]
    · simp [hok]

theorem Accounted.foldl {b : Bridge} (h : Accounted outcomes b) (fs : List CANFrame) :
    Accounted outcomes (fs.foldl Bridge.queueAndSend b) := by
  induction fs generalizing b with
  | nil => exact h
  | cons f fs ih => exact ih (h.queueAndSend f)

/-- After every event, the frames decoded are those passed on. -/
structure Bridged (outcomes : ℕ → SendOutcome) (b : Bridge) : Prop
    extends Accounted outcomes b where
  all : b.attempted = b.server.queued

theorem exists_step_server (b : Bridge) (e : CBUSGridConnect.Event) (he : e.Fits) :
    ∃ s, b.server.step e = some s ∧ (b.step (.server e he)).server = s ∧
      (b.step (.server e he)).attempted =
        b.attempted ++ s.queued.drop b.server.queued.length := by
  obtain ⟨s, hs, -⟩ := b.sound.step he
  have hcallback : (b.callback e he).server = s := by simp [callback, hs]
  obtain ⟨hserver, hattempted⟩ := foldl_queueAndSend (b.callback e he)
    ((b.callback e he).server.queued.drop b.server.queued.length)
  refine ⟨s, hs, hserver.trans hcallback, hattempted.trans ?_⟩
  rw [hcallback]
  rfl

theorem queued_step (b : Bridge) (e : BridgeEvent) :
    b.server.queued <+: (b.step e).server.queued := by
  cases e with
  | server e he =>
    obtain ⟨s, hs, hserver, -⟩ := b.exists_step_server e he
    rw [hserver]
    exact CBUSGridConnect.queued_step hs
  | module e => exact List.prefix_rfl

theorem Bridged.step {b : Bridge} (h : Bridged outcomes b) (e : BridgeEvent) :
    Bridged outcomes (b.step e) := by
  cases e with
  | server e he =>
    obtain ⟨s, hs, hserver, hattempted⟩ := b.exists_step_server e he
    refine ⟨?_, ?_⟩
    · have hcallback : Accounted outcomes (b.callback e he) := ⟨h.answers, h.accepted⟩
      exact hcallback.foldl _
    · obtain ⟨new, hnew⟩ := CBUSGridConnect.queued_step hs
      rw [hattempted, hserver, h.all, ← hnew, List.drop_left]
  | module e => exact ⟨⟨h.answers, h.accepted⟩, h.all⟩

theorem attempted_quiet {b : Bridge} {es : List BridgeEvent}
    (h : ∀ e ∈ es, ¬ e.FromClient) : (run step b es).attempted = b.attempted := by
  induction es generalizing b with
  | nil => rfl
  | cons e es ih =>
    rw [run_cons, ih fun e' he' => h e' (List.mem_cons_of_mem _ he')]
    have hquiet := h e List.mem_cons_self
    cases e with
    | server e he =>
      obtain ⟨s, hs, -, hattempted⟩ := b.exists_step_server e he
      rw [hattempted, CBUSGridConnect.queued_step_eq hquiet hs]
      simp
    | module e => rfl

theorem not_held (b : Bridge) (f : CANFrame) : ¬ b.Held f := by
  rintro ⟨es, hquiet, later, hlater, hf⟩
  rw [attempted_quiet hquiet] at hlater
  rw [List.self_eq_append_right.mp hlater] at hf
  exact List.not_mem_nil hf

theorem delivered_iff (b : Bridge) : b.Delivered ↔ b.accepted = b.server.queued.map canWord := by
  constructor
  · rintro ⟨marks, hfst, hsnd, hheld⟩
    have hall : marks.filter Prod.snd = marks := by
      rw [List.filter_eq_self]
      intro m hm
      by_contra hno
      exact b.not_held m.1 (hheld m hm (by simpa using hno))
    rw [hall] at hsnd
    rw [← hsnd, ← hfst, List.map_map]
    rfl
  · intro h
    refine ⟨b.server.queued.map (·, true), by simp [Function.comp_def], ?_, ?_⟩
    · rw [h]
      simp [List.filter_map, Function.comp_def]
    · simp

theorem bridged_run (node : CBUSbase) (outcomes : ℕ → SendOutcome) (es : List BridgeEvent) :
    Bridged outcomes (run step (start node outcomes) es) := by
  have hstart : Bridged outcomes (start node outcomes) :=
    ⟨⟨fun k => by simp [start], rfl⟩, rfl⟩
  have hstep : ∀ b e, Bridged outcomes b → Bridged outcomes (b.step e) := fun _ e h => h.step e
  exact run_invariant hstep hstart es

theorem queued_run (b : Bridge) (es : List BridgeEvent) :
    b.server.queued <+: (run step b es).server.queued := by
  have hstep : ∀ (c : Bridge) e, b.server.queued <+: c.server.queued →
      b.server.queued <+: (c.step e).server.queued := fun c e h => h.trans (c.queued_step e)
  exact run_invariant hstep List.prefix_rfl es

/-- Over every run, the frames decoded are all accepted, in order, exactly if the
controller has accepted every call. -/
theorem delivered_run_iff (node : CBUSbase) (outcomes : ℕ → SendOutcome) (es : List BridgeEvent) :
    (∀ ps, ps <+: es → (run step (start node outcomes) ps).Delivered) ↔
      ∀ k < (run step (start node outcomes) es).server.queued.length, (outcomes k).Accepts := by
  have hrun := bridged_run node outcomes
  constructor
  · intro hall
    have hlast := (delivered_iff _).mp (hall es List.prefix_rfl)
    rw [(hrun es).accepted, (hrun es).all] at hlast
    rw [← length_acceptedBy, hlast, List.length_map]
  · rintro hall ps ⟨rest, rfl⟩
    have hgrow := queued_run (run step (start node outcomes) ps) rest
    rw [← run_append] at hgrow
    have hsofar : ∀ k < (run step (start node outcomes) ps).server.queued.length,
        (outcomes k).Accepts := fun k hk => hall k (hk.trans_le hgrow.length_le)
    rw [delivered_iff, (hrun ps).accepted, (hrun ps).all]
    exact acceptedBy_of_all hsofar

def aconFrame : CANFrame := { id := 0x585, len := 5, data := #v[opcAcon, 1, 2, 0, 4, 0, 0, 0] }

def oneFrame : List BridgeEvent :=
  [.server (.accept .errOk) trivial,
    .server (.recv (some aconFrame.encoded) .errOk .errOk) (by decide)]

/-- The controller has no space at that moment. -/
theorem not_delivered_oneFrame :
    ¬ (run step (start CBUSbase.smallModule fun _ => ⟨0, false, false⟩) oneFrame).Delivered := by
  have haccount := bridged_run CBUSbase.smallModule (fun _ => ⟨0, false, false⟩) oneFrame
  have hqueued : (run step (start CBUSbase.smallModule fun _ => ⟨0, false, false⟩)
      oneFrame).server.queued = [overlay aconFrame {}] := by
    let b := (start CBUSbase.smallModule fun _ => ⟨0, false, false⟩).step
      (.server (.accept .errOk) trivial)
    obtain ⟨s, hs, hserver, -⟩ := b.exists_step_server
      (.recv (some aconFrame.encoded) .errOk .errOk) (by decide)
    obtain ⟨s', hs', hqueued, -⟩ := CBUSGridConnect.deliver_encoded
      (show CBUSGridConnect.Carries b.server [] from .inl ⟨rfl, rfl⟩)
      (by decide : aconFrame.Encodable)
    have hsame : s = s' := Option.some.inj (hs.symm.trans hs')
    exact (congrArg CBUSGridConnect.queued (hserver.trans hsame)).trans hqueued
  rw [delivered_iff, haccount.accepted, haccount.all, hqueued]
  simp [acceptedBy, SendOutcome.Accepts]

end Bridge
end CBUSPicoLib
