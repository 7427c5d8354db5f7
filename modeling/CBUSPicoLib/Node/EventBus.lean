import CBUSPicoLib.Node.EventReception

/-!
# Events on a bus of modules

Any number of modules on one CAN bus. A frame that a module's controller has accepted waits there
until it goes over the bus, and then the receive interrupt of every other module meets it. The
events that the applications produce get one order on the bus, in which each module's own are in
the order of its calls. The application of a module that is not being taught is told of the events
that its module has learned, each once and in the order of the bus, and of no other; it misses one
only if the receive buffer overflows.
-/

namespace CBUSPicoLib

open Runs Broadcast CBUSbase

/-- The modules on a bus. Of the frames that a module's controller has accepted, the first `sent`
have gone over the bus. -/
structure Bus (ι : Type*) where
  node : ι → CBUSbase
  sent : ι → ℕ
  wire : List (ι × CANFrame)

/-- What happens on a bus: a poll, an iteration of a message loop, an event that an application
produces or another frame that it sends, and a frame that goes over the bus, with the clocks of the
receivers. -/
inductive BusEvent (ι : Type*)
  | poll (i : ι) (input : PollInput)
  | iterate (i : ι) (input : FrameInput)
  | produce (i : ι) (micros : UInt32) (eventNode eventNum : UInt16) (onEvent : Bool)
      (dataLen d1 d2 d3 : UInt8)
  | send (i : ι) (msg : CANFrame) (rtr ext : Bool) (priority : UInt8)
  | transmit (i : ι) (now micros : ι → UInt32)

namespace Bus

variable {ι : Type*} {b c : Bus ι} {i j : ι}

def accepted (b : Bus ι) (i : ι) : List CANFrame :=
  CBUSPicoLib.transmittedFrames (b.node i).port.trace

def backlog (b : Bus ι) (i : ι) : List CANFrame := (b.accepted i).drop (b.sent i)

theorem backlog_append (hsent : b.sent i ≤ (b.accepted i).length) (hsame : c.sent i = b.sent i)
    {fs : List CANFrame} (hacc : c.accepted i = b.accepted i ++ fs) :
    c.backlog i = b.backlog i ++ fs := by
  rw [backlog, backlog, hsame, hacc, List.drop_append_of_le_length hsent]

variable [DecidableEq ι]

def update (b : Bus ι) (i : ι) (n : CBUSbase) : Bus ι :=
  { b with node := fun k => if k = i then n else b.node k }

/-- The first frame that waits in a controller goes over the bus. A record outside the response
table, which is a fault, is left out. -/
def transmit (b : Bus ι) (i : ι) (now micros : ι → UInt32) : Bus ι :=
  match b.backlog i with
  | [] => b
  | f :: _ =>
    { node := fun k =>
        if k = i then b.node k
        else ((b.node k).notifyCb (canMessage f) (now k) (micros k)).getD (b.node k)
      sent := fun k => if k = i then b.sent k + 1 else b.sent k
      wire := b.wire ++ [(i, f)] }

def step (b : Bus ι) : BusEvent ι → Bus ι
  | .poll i input => b.update i ((b.node i).poll input)
  | .iterate i input => b.update i ((b.node i).iterate input)
  | .produce i micros eventNode eventNum onEvent dataLen d1 d2 d3 =>
    b.update i ((b.node i).sendEventWithData micros eventNode eventNum onEvent dataLen d1 d2 d3).2.2
  | .send i msg rtr ext priority => b.update i ((b.node i).sendMessage msg rtr ext priority).2.2
  | .transmit i now micros => b.transmit i now micros

/-- The event that an application produces, if its call succeeds. -/
def produced (i : ι) (b : Bus ι) : BusEvent ι → List AppEvent
  | .produce k micros eventNode eventNum onEvent dataLen d1 d2 d3 =>
    if k = i ∧ ((b.node k).sendEventWithData micros eventNode eventNum onEvent dataLen d1 d2
        d3).1 = true then
      [⟨eventNode, eventNum, onEvent, [d1, d2, d3].take dataLen.toNat⟩]
    else []
  | _ => []

/-- Frames reach a receive buffer over the bus only, and no receiver records a frame outside its
response table. Applications give at most three data bytes with an event, and send events with
`sendEventWithData`. -/
def Legal (b : Bus ι) : BusEvent ι → Prop
  | .iterate _ input => input.canArrivals = []
  | .produce _ _ _ _ _ dataLen _ _ _ => dataLen ≤ 3
  | .send _ msg _ _ _ => NoEvent msg
  | .transmit i now micros => ∀ f ∈ (b.backlog i).head?, ∀ k ≠ i,
      ((b.node k).notifyCb (canMessage f) (now k) (micros k)).isSome = true
  | _ => True

/-- The module `j` is not being taught when it handles a frame, and no frame writes a node variable
that does not exist. -/
def Attentive (j : ι) (b : Bus ι) : BusEvent ι → Prop
  | .iterate i input => i = j → (b.node j).bLearn = false ∧
      (b.node j).IndexesInBounds (.event (.iterate input))
  | _ => True

/-- The receive buffer of `j` has room for every frame of another module. -/
def Roomy (j : ι) (b : Bus ι) : BusEvent ι → Prop
  | .transmit i _ _ => i ≠ j → (b.node j).rxFull = false
  | _ => True

/-- Nothing has been sent, and nothing waits. -/
structure Started (b : Bus ι) : Prop where
  trace : ∀ i, (b.node i).port.trace = []
  rx : ∀ i, (b.node i).rxFrames = []
  used : ∀ i, (b.node i).RxUsed
  sent : ∀ i, b.sent i = 0
  wire : b.wire = []

/-- The medium has the frames that wait in the controllers and in the receive buffers. -/
structure Carries (b : Bus ι) (m : Medium ι hear) : Prop where
  offered : ∀ i, m.offered i = b.accepted i
  outbox : ∀ i, m.outbox i = b.backlog i
  wire : m.wire = b.wire
  inbox : ∀ j, m.inbox j = (b.node j).rxFrames
  used : ∀ j, (b.node j).RxUsed
  standard : ∀ i, ∀ f ∈ b.accepted i, (eventOf f).isSome = true → Standard f
  sent : ∀ i, b.sent i ≤ (b.accepted i).length

theorem Started.carries (h : b.Started) : Carries b (Medium.idle hear) := by
  have hnone : ∀ i, b.accepted i = [] := by
    intro i
    rw [accepted, h.trace]
    rfl
  refine ⟨fun i => (hnone i).symm, fun i => ?_, h.wire.symm, fun j => (h.rx j).symm, h.used, ?_, ?_⟩
  · rw [backlog, hnone, h.sent]
    rfl
  · intro i f hf
    rw [hnone] at hf
    exact absurd hf List.not_mem_nil
  · intro i
    rw [h.sent]
    exact Nat.zero_le _

variable {m : Medium ι hear}

/-- A step of one module takes a frame or not, and offers the frames it sends. -/
theorem Carries.update (h : Carries b m) {n : CBUSbase} {takes : Bool} {es : List AppEvent}
    (hs : LocalStep (b.node i) n takes es) : (∃ fs, Carries (b.update i n)
      ((if takes then m.take i else m).offer fun k => if k = i then fs else [])) ∧
    ∀ k, ((b.update i n).accepted k).filterMap eventOf =
      (b.accepted k).filterMap eventOf ++ if k = i then es else [] := by
  obtain ⟨fs, ht, hstd, hes⟩ := hs.offers
  have hacc : ∀ k, (b.update i n).accepted k = b.accepted k ++ if k = i then fs else [] := by
    intro k
    unfold accepted Bus.update
    dsimp only
    split_ifs with hk
    · rw [hk]
      exact ht
    · exact (List.append_nil _).symm
  have hother : (if takes then m.take i else m).offered = m.offered ∧
      (if takes then m.take i else m).outbox = m.outbox ∧
      (if takes then m.take i else m).wire = m.wire := by
    cases takes <;> exact ⟨rfl, rfl, rfl⟩
  constructor
  case right =>
    intro k
    rw [hacc, List.filterMap_append]
    split_ifs
    · rw [hes]
    · rfl
  refine ⟨fs, ?_⟩
  constructor
  · intro k
    rw [hacc, ← h.offered, ← hother.1]
    rfl
  · intro k
    rw [backlog_append (c := b.update i n) (h.sent k) rfl (hacc k), ← h.outbox, ← hother.2.1]
    rfl
  · exact hother.2.2.trans h.wire
  · intro k
    by_cases hk : k = i
    · subst hk
      have hrx := hs.rx
      rw [← h.inbox] at hrx
      cases takes <;> simpa [Medium.offer, Medium.take, Bus.update] using hrx.symm
    · have hsame := h.inbox k
      cases takes <;> simpa [Medium.offer, Medium.take, Bus.update, hk] using hsame
  · intro k
    unfold Bus.update
    dsimp only
    split_ifs with hk
    · rw [hk] at *
      exact hs.used (h.used i)
    · exact h.used k
  · intro k f hf
    rw [hacc] at hf
    rcases List.mem_append.mp hf with hf | hf
    · exact h.standard k f hf
    · split_ifs at hf with hk
      · exact hstd f hf
      · exact absurd hf List.not_mem_nil
  · intro k
    rw [hacc, List.length_append]
    exact le_trans (h.sent k) (Nat.le_add_right _ _)

theorem transmit_of_nil (h : b.backlog i = []) (now micros : ι → UInt32) :
    b.transmit i now micros = b := by
  unfold transmit
  rw [h]

/-- A frame goes over the bus: the receivers queue it, and answer with frames without events. -/
theorem Carries.transmit (h : Carries b m) {now micros : ι → UInt32} {f : CANFrame}
    {rest : List CANFrame} (hlog : b.backlog i = f :: rest)
    (hok : ∀ k ≠ i, ((b.node k).notifyCb (canMessage f) (now k) (micros k)).isSome = true) :
    (∃ hout answers, Carries (b.transmit i now micros)
      ((m.transmit i (fun k => (b.node k).rxFull) hout).offer answers)) ∧
    ∀ k, ((b.transmit i now micros).accepted k).filterMap eventOf =
      (b.accepted k).filterMap eventOf := by
  have hnode : ∀ k, ∃ fs, (∀ g ∈ fs, eventOf g = none) ∧
      (b.transmit i now micros).accepted k = b.accepted k ++ fs ∧
      ((b.transmit i now micros).node k).RxUsed ∧
      ((b.transmit i now micros).node k).rxFrames = if k = i then (b.node k).rxFrames
        else Medium.hearing hear (b.node k).rxFull (b.node k).rxFrames f := by
    intro k
    unfold accepted Bus.transmit
    rw [hlog]
    dsimp only
    by_cases hk : k = i
    · rw [if_pos hk, if_pos hk]
      exact ⟨[], fun _ hg => absurd hg List.not_mem_nil, (List.append_nil _).symm, h.used k, rfl⟩
    · rw [if_neg hk, if_neg hk]
      obtain ⟨n, hn⟩ := Option.isSome_iff_exists.mp (hok k hk)
      obtain ⟨hrx, hused, fs, ht, hnone⟩ := notifyCb_traffic (h.used k) hn
      rw [hn]
      exact ⟨fs, hnone, ht, hused, hrx⟩
  choose answers hnone hacc hused hrx using hnode
  have hout : m.outbox i = f :: rest := (h.outbox i).trans hlog
  have hne : m.outbox i ≠ [] := hout ▸ List.cons_ne_nil f rest
  have hhead : (m.outbox i).head hne = f := by simp only [hout, List.head_cons]
  have hsent : ∀ k, (b.transmit i now micros).sent k = if k = i then b.sent k + 1 else b.sent k := by
    intro k
    unfold Bus.transmit
    rw [hlog]
  have hlen : b.sent i < (b.accepted i).length := by
    have hpos := congrArg List.length hlog
    rw [backlog, List.length_drop, List.length_cons] at hpos
    omega
  have hdrop : (b.accepted i).drop (b.sent i).succ = rest := by
    have htail := congrArg List.tail hlog
    rw [backlog, List.tail_drop] at htail
    exact htail
  constructor
  case right =>
    intro k
    rw [hacc, List.filterMap_append, List.filterMap_eq_nil_iff.mpr (hnone k), List.append_nil]
  refine ⟨hne, answers, ?_⟩
  constructor
  · intro k
    rw [hacc, ← h.offered]
    rfl
  · intro k
    have hrest : ((m.transmit i (fun k => (b.node k).rxFull) hne).offer answers).outbox k =
        (if k = i then (m.outbox k).tail else m.outbox k) ++ answers k := rfl
    rw [hrest, backlog, hsent, hacc]
    split_ifs with hk
    · subst hk
      rw [List.drop_append_of_le_length hlen, hdrop, hout, List.tail_cons]
    · rw [List.drop_append_of_le_length (h.sent k), h.outbox]
      rfl
  · have hon : (b.transmit i now micros).wire = b.wire ++ [(i, f)] := by
      unfold Bus.transmit
      rw [hlog]
    rw [hon, ← h.wire, ← hhead]
    rfl
  · intro k
    rw [hrx, ← h.inbox, ← hhead]
    rfl
  · exact hused
  · intro k g hg
    rw [hacc] at hg
    rcases List.mem_append.mp hg with hg | hg
    · exact h.standard k g hg
    · rw [hnone k g hg]
      exact fun hs => absurd hs Bool.false_ne_true
  · intro k
    rw [hsent, hacc, List.length_append]
    have := h.sent k
    split_ifs with hk
    · subst hk
      omega
    · omega

/-- One step of the bus: it stays a medium, and the events that the controllers accept are those
that applications produce. -/
theorem Carries.step (h : Carries b m) {e : BusEvent ι} (hlegal : b.Legal e) :
    (∃ m' : Medium ι hear, Carries (b.step e) m') ∧
      ∀ k, ((b.step e).accepted k).filterMap eventOf =
        (b.accepted k).filterMap eventOf ++ produced k b e := by
  -- a step of one module that offers the events `es`
  have hlocal : ∀ {i n takes es}, LocalStep (b.node i) n takes es →
      (∀ k, produced k b e = if k = i then es else []) →
      (∃ m' : Medium ι hear, Carries (b.update i n) m') ∧
        ∀ k, ((b.update i n).accepted k).filterMap eventOf =
          (b.accepted k).filterMap eventOf ++ produced k b e := by
    intro i n takes es hs hes
    obtain ⟨⟨fs, hcarries⟩, hevents⟩ := h.update hs
    exact ⟨⟨_, hcarries⟩, fun k => by rw [hevents, hes]⟩
  cases e with
  | poll i input => exact hlocal ((b.node i).localStep_poll input) fun k => by simp [produced]
  | iterate i input =>
    obtain ⟨takes, hs⟩ := localStep_iterate (h.used i) hlegal
    exact hlocal hs fun k => by simp [produced]
  | produce i micros eventNode eventNum onEvent dataLen d1 d2 d3 =>
    apply hlocal ((b.node i).localStep_produce micros eventNode eventNum onEvent d1 d2 d3 hlegal)
    intro k
    by_cases hk : k = i
    · subst hk
      simp [produced]
    · simp [produced, hk, Ne.symm hk]
  | send i msg rtr ext priority =>
    exact hlocal ((b.node i).localStep_send hlegal rtr ext priority) fun k => by simp [produced]
  | transmit i now micros =>
    have hnone : ∀ k, produced k b (.transmit i now micros) = [] := fun _ => rfl
    cases hlog : b.backlog i with
    | nil =>
      have hsame : b.step (.transmit i now micros) = b := b.transmit_of_nil hlog now micros
      rw [hsame]
      exact ⟨⟨m, h⟩, fun k => by rw [hnone, List.append_nil]⟩
    | cons f rest =>
      obtain ⟨⟨_, answers, hcarries⟩, hevents⟩ := h.transmit hlog (hlegal f (by rw [hlog]; rfl))
      exact ⟨⟨_, hcarries⟩, fun k => (hevents k).trans (by rw [hnone, List.append_nil])⟩

theorem Carries.run (h : Carries b m) {es : List (BusEvent ι)}
    (hg : Guarded Bus.step Legal b es) :
    (∃ m' : Medium ι hear, Carries (Runs.run Bus.step b es) m') ∧
      ∀ k, ((Runs.run Bus.step b es).accepted k).filterMap eventOf =
        (b.accepted k).filterMap eventOf ++ emitted Bus.step (produced k) b es := by
  induction es generalizing b m with
  | nil => exact ⟨⟨m, h⟩, fun k => (List.append_nil _).symm⟩
  | cons e es ih =>
    obtain ⟨⟨m', hcarries⟩, hevents⟩ := h.step hg.1
    obtain ⟨hcarried, hrest⟩ := ih hcarries hg.2
    refine ⟨hcarried, fun k => ?_⟩
    rw [run_cons, hrest, hevents, List.append_assoc]
    rfl

variable {capacity : ℕ} {s : EventStore capacity} {m' : Medium ι hear}

/-- What a consumer's application has been told are the events it knows among the frames taken. -/
structure Listens (j : ι) (s : EventStore capacity) (b : Bus ι) (m : Medium ι hear) : Prop where
  consumer : (b.node j).Consumer s
  data : (b.node j).RxData
  told : toldEvents (b.node j).port.trace = ((m.taken j).filterMap eventOf).filter (knows s)

theorem Listens.keep (h : Listens j s b m) (hc : (c.node j).Consumer s)
    (hrx : (c.node j).rxFrames = (b.node j).rxFrames)
    (htold : TellsNothing (b.node j) (c.node j)) (htaken : m'.taken j = m.taken j) :
    Listens j s c m' where
  consumer := hc
  data := by
    unfold RxData
    rw [hrx]
    exact h.data
  told := by rw [htold, htaken, h.told]

theorem Listens.other (h : Listens j s b m) (hi : i ≠ j) {n : CBUSbase} (takes : Bool)
    (xs : ι → List CANFrame) :
    Listens j s (b.update i n) ((if takes then m.take i else m).offer xs) := by
  have hnode : (b.update i n).node j = b.node j := if_neg hi.symm
  apply h.keep
  · rw [hnode]
    exact h.consumer
  · rw [hnode]
  · rw [hnode]
    exact .refl _
  · cases takes
    · rfl
    · exact if_neg hi.symm

/-- A step of one module that takes no frame and tells its application nothing. -/
theorem Listens.update (h : Listens j s b m) {n : CBUSbase} (xs : ι → List CANFrame)
    (hn : i = j → n.Consumer s ∧ n.rxFrames = (b.node j).rxFrames ∧ TellsNothing (b.node j) n) :
    Listens j s (b.update i n) (m.offer xs) := by
  by_cases hi : i = j
  · subst hi
    obtain ⟨hc, hrx, htold⟩ := hn rfl
    have hnode : (b.update i n).node i = n := if_pos rfl
    refine h.keep ?_ ?_ ?_ rfl
    · rwa [hnode]
    · rwa [hnode]
    · rwa [hnode]
  · exact h.other hi false xs

/-- A frame of another module reaches the receive buffer, or one of this module leaves it. -/
theorem Listens.transmit (h : Listens j s b m) {now micros : ι → UInt32} {f : CANFrame}
    {rest : List CANFrame} (hlog : b.backlog i = f :: rest)
    (hok : ∀ k ≠ i, ((b.node k).notifyCb (canMessage f) (now k) (micros k)).isSome = true)
    (hu : (b.node j).RxUsed) (htaken : m'.taken j = m.taken j) :
    Listens j s (b.transmit i now micros) m' := by
  by_cases hj : j = i
  · have hnode : (b.transmit i now micros).node j = b.node j := by
      unfold Bus.transmit
      rw [hlog]
      exact if_pos hj
    apply h.keep
    · rw [hnode]
      exact h.consumer
    · rw [hnode]
    · rw [hnode]
      exact .refl _
    · exact htaken
  · obtain ⟨n, hn⟩ := Option.isSome_iff_exists.mp (hok j hj)
    have hnode : (b.transmit i now micros).node j = n := by
      unfold Bus.transmit
      rw [hlog]
      dsimp only
      rw [if_neg hj, hn]
      rfl
    obtain ⟨hconsumer, htold⟩ := h.consumer.notifyCb hn
    obtain ⟨hrx, -, -⟩ := notifyCb_traffic hu hn
    constructor
    · rwa [hnode]
    · rw [hnode]
      intro g hg
      rw [hrx] at hg
      rcases mem_hearing hg with hg | hg
      · exact h.data g hg
      · exact len_of_hear hg
    · rw [hnode, htold, htaken, h.told]

/-- One step of the bus, with what it means for the medium and for one consumer. -/
theorem Listens.step (hc : Carries b m) (h : Listens j s b m) {e : BusEvent ι} (hlegal : b.Legal e)
    (hatt : Attentive j b e) : ∃ m', Carries (b.step e) m' ∧ Listens j s (b.step e) m' ∧
      (Roomy j b e → m'.lost j = m.lost j) := by
  cases e with
  | poll i input =>
    obtain ⟨⟨fs, hcarries⟩, -⟩ := hc.update ((b.node i).localStep_poll input)
    refine ⟨_, hcarries, h.update _ fun hi => ?_, fun _ => rfl⟩
    subst hi
    exact ⟨h.consumer.poll input, rxFrames_congr ((b.node i).poll_sameQueues input).2.2,
      (b.node i).tellsNothing_poll input⟩
  | produce i micros eventNode eventNum onEvent dataLen d1 d2 d3 =>
    obtain ⟨⟨fs, hcarries⟩, -⟩ := hc.update
      ((b.node i).localStep_produce micros eventNode eventNum onEvent d1 d2 d3 hlegal)
    refine ⟨_, hcarries, h.update _ fun hi => ?_, fun _ => rfl⟩
    subst hi
    obtain ⟨_, _, hframe, -, htold⟩ :=
      (b.node i).sendEventWithData_frame micros eventNode eventNum onEvent dataLen d1 d2 d3
    refine ⟨h.consumer.sendEventWithData _ _ _ _ _ _ _ _, ?_, ?_⟩
    · rw [hframe]
      rfl
    · rw [hframe]
      exact htold
  | send i msg rtr ext priority =>
    obtain ⟨⟨fs, hcarries⟩, -⟩ := hc.update ((b.node i).localStep_send hlegal rtr ext priority)
    refine ⟨_, hcarries, h.update _ fun hi => ?_, fun _ => rfl⟩
    subst hi
    refine ⟨h.consumer.sendMessage msg rtr ext priority, ?_,
      (b.node i).tellsNothing_sendMessage msg rtr ext priority⟩
    rw [(b.node i).sendMessage_state]
    rfl
  | iterate i input =>
    by_cases hi : i = j
    · subst hi
      obtain ⟨hlearn, hx⟩ := hatt rfl
      obtain ⟨hconsumer, hlocal, htold⟩ :=
        h.consumer.iterate (hc.used i) h.data hlegal hlearn hx
      obtain ⟨⟨fs, hcarries⟩, -⟩ := hc.update hlocal
      have hnode : (b.step (.iterate i input)).node i = (b.node i).iterate input := if_pos rfl
      refine ⟨_, hcarries, ⟨?_, ?_, ?_⟩, fun _ => rfl⟩
      · rwa [hnode]
      · rw [hnode]
        intro f hf
        rw [hlocal.rx] at hf
        exact h.data f (List.mem_of_mem_tail hf)
      · have htaken : ((m.take i).offer fun k => if k = i then fs else []).taken i =
            m.taken i ++ (m.inbox i).head?.toList := if_pos rfl
        rw [hnode, htold, h.told, if_pos rfl, htaken, hc.inbox, List.filterMap_append,
          List.filter_append]
    · obtain ⟨takes, hlocal⟩ := localStep_iterate (hc.used i) hlegal
      obtain ⟨⟨fs, hcarries⟩, -⟩ := hc.update hlocal
      refine ⟨_, hcarries, h.other hi takes _, fun _ => ?_⟩
      cases takes <;> rfl
  | transmit i now micros =>
    cases hlog : b.backlog i with
    | nil =>
      have hsame : b.step (.transmit i now micros) = b := b.transmit_of_nil hlog now micros
      rw [hsame]
      exact ⟨m, hc, h, fun _ => rfl⟩
    | cons f rest =>
      have hok := hlegal f (by rw [hlog]; rfl)
      obtain ⟨⟨hout, answers, hcarries⟩, -⟩ := hc.transmit hlog hok
      refine ⟨_, hcarries, h.transmit hlog hok (hc.used j) rfl, fun hroom => ?_⟩
      apply m.lost_transmit _ hout
      by_cases hi : i = j
      · exact Or.inl hi.symm
      · exact Or.inr (hroom hi)

theorem Listens.run (hc : Carries b m) (h : Listens j s b m) {es : List (BusEvent ι)}
    (hg : Guarded Bus.step (fun b e => b.Legal e ∧ Attentive j b e) b es) :
    ∃ m', Carries (Runs.run Bus.step b es) m' ∧ Listens j s (Runs.run Bus.step b es) m' ∧
      (Guarded Bus.step (Roomy j) b es → m'.lost j = m.lost j) := by
  induction es generalizing b m with
  | nil => exact ⟨m, hc, h, fun _ => rfl⟩
  | cons e es ih =>
    obtain ⟨m₁, hc₁, h₁, hlost₁⟩ := Listens.step hc h hg.1.1 hg.1.2
    obtain ⟨m₂, hc₂, h₂, hlost₂⟩ := ih hc₁ h₁ hg.2
    exact ⟨m₂, hc₂, h₂, fun hroom => (hlost₂ hroom.2).trans (hlost₁ hroom.1)⟩

def events (b : Bus ι) : List (ι × AppEvent) :=
  b.wire.filterMap fun t => (eventOf t.2).map (t.1, ·)

/-- A module's events on the bus, before those that wait in its controller. -/
theorem Carries.sentBy_events (h : Carries b m) (i : ι) :
    sentBy i b.events ++ (b.backlog i).filterMap eventOf = (b.accepted i).filterMap eventOf := by
  rw [events, sentBy_filterMap, ← List.filterMap_append, ← h.wire, ← h.outbox, m.fifo, h.offered]

theorem Carries.standard_of_mem (h : Carries b m) {t : ι × CANFrame} (ht : t ∈ b.wire)
    (hs : (eventOf t.2).isSome = true) : Standard t.2 := by
  refine h.standard t.1 t.2 ?_ hs
  rw [← h.offered, ← m.fifo, h.wire]
  refine List.mem_append_left _ (List.mem_filterMap.mpr ⟨t, ht, ?_⟩)
  rw [if_pos rfl]

theorem Carries.heardBy_events (h : Carries b m) (j : ι) :
    ((heardBy j m.wire).filterMap hear).filterMap eventOf = heardBy j b.events := by
  rw [events, heardBy_filterMap, h.wire, List.filterMap_filterMap]
  apply List.filterMap_congr
  intro f hf
  obtain ⟨t, ht, heq⟩ := List.mem_filterMap.mp hf
  split_ifs at heq
  cases heq
  exact eventOf_hear (h.standard_of_mem ht)

/-- What a consumer has been told and what still waits for it, against the order of the bus. -/
theorem Listens.told_append (hc : Carries b m) (h : Listens j s b m) :
    toldEvents (b.node j).port.trace ++
        ((b.node j).rxFrames.filterMap eventOf).filter (knows s) =
      ((m.taken j ++ m.inbox j).filterMap eventOf).filter (knows s) := by
  rw [h.told, hc.inbox, List.filterMap_append, List.filter_append]

/-- The modules' events get one order on the bus: each module's own in the order in which its
application produced them, up to those that still wait in its controller. A consumer's application
is told of events that its module knows, each once and in this order, up to those that still wait in
its receive buffer; it misses none if that buffer never overflows. -/
theorem events_delivered (hb : b.Started) {es : List (BusEvent ι)}
    (hg : Guarded step Legal b es) : ∃ order : List (ι × AppEvent),
      (∀ i, sentBy i order ++ ((run step b es).backlog i).filterMap eventOf =
        emitted step (produced i) b es) ∧
      ∀ (j : ι) (capacity : ℕ) (s : EventStore capacity), (b.node j).Consumer s →
        Guarded step (Attentive j) b es →
        (toldEvents ((run step b es).node j).port.trace ++
            (((run step b es).node j).rxFrames.filterMap eventOf).filter (knows s)).Sublist
          ((heardBy j order).filter (knows s)) ∧
        (Guarded step (Roomy j) b es →
          toldEvents ((run step b es).node j).port.trace ++
              (((run step b es).node j).rxFrames.filterMap eventOf).filter (knows s) =
            (heardBy j order).filter (knows s)) := by
  refine ⟨(run step b es).events, fun i => ?_, fun j capacity s hs hatt => ?_⟩
  · obtain ⟨⟨m, hm⟩, hevents⟩ := hb.carries.run hg
    have hnone : (b.accepted i).filterMap eventOf = [] := by
      rw [accepted, hb.trace]
      rfl
    rw [hm.sentBy_events, hevents, hnone, List.nil_append]
  · have hstart : Listens j s b (Medium.idle hear) := by
      refine ⟨hs, ?_, ?_⟩
      · unfold RxData
        rw [hb.rx]
        exact fun _ hf => absurd hf List.not_mem_nil
      · rw [hb.trace]
        rfl
    obtain ⟨m, hm, hl, hlost⟩ := hstart.run hb.carries (hg.and hatt)
    rw [hl.told_append hm, ← hm.heardBy_events]
    refine ⟨((m.order j).filterMap eventOf).filter (knows s), fun hroom => ?_⟩
    rw [m.taken_append_inbox (hlost hroom)]

/-- The small module, taught event 2 of node 1, with an event handler and a receive buffer. -/
def smallConsumer : CBUSbase :=
  { smallModule with
    moduleConfig := (run storageStep
      (smallModule.startUp CBUSConfig.smallLayout smallFlash) teachAndRestart).moduleConfig
    eventHandler := true
    rxBuffer := some (.construct 4) }

theorem represents_smallConsumer :
    smallConsumer.moduleConfig.Represents smallConsumer.moduleConfig.eventStore := by
  have hrun := represents_storageSteps
    (smallModule.represents_startUp CBUSConfig.smallLayout_fits smallFlash_noPairTwice)
    indexesInBounds_teachAndRestart
  exact CBUSConfig.represents_eventStore hrun.intact hrun.coherent

theorem consumer_smallConsumer : smallConsumer.Consumer smallConsumer.moduleConfig.eventStore where
  represents := represents_smallConsumer
  handler := Or.inl rfl
  frames := fun _ => rfl
  noServer := rfl
  noOwn := rfl

def smallBus : Bus Bool where
  node := fun consumer => if consumer then smallConsumer else smallModule
  sent := fun _ => 0
  wire := []

theorem started_smallBus : smallBus.Started where
  trace := fun i => by cases i <;> rfl
  rx := fun i => by cases i <;> rfl
  used := fun i b hb => by
    cases i
    · cases hb
    · cases hb
      exact ⟨4, [], Or.inl rfl⟩
  sent := fun _ => rfl
  wire := rfl

/-- The first module produces the event and sends it, and the other one takes it. -/
def produceAndConsume : List (BusEvent Bool) :=
  [.produce false 0 1 2 true 0 0 0 0, .transmit false (fun _ => 0) fun _ => 0,
    .iterate true { canArrivals := [], gcArrivals := [], canSend := true, pulseTime := 0 }]

theorem legal_produceAndConsume : Guarded step Legal smallBus produceAndConsume := by
  refine ⟨show (0 : UInt8) ≤ 3 by decide, ?_, rfl, trivial⟩
  rintro f hf (_ | _) hk
  · exact absurd rfl hk
  · have hfirst : ((smallBus.step (.produce false 0 1 2 true 0 0 0 0)).backlog false).head? =
        some { id := 1413, len := 5, data := #v[0x90, 0, 1, 0, 2, 0, 0, 0] } := by
      decide +kernel
    cases hfirst.symm.trans hf
    decide +kernel

theorem attentive_produceAndConsume :
    Guarded step (Attentive true) smallBus produceAndConsume := by
  refine ⟨trivial, trivial, fun _ => ⟨rfl, ?_⟩, trivial⟩
  intro msg hmsg
  have hhandled : (run step smallBus (produceAndConsume.take 2) |>.node true).handledFrame
      (.iterate { canArrivals := [], gcArrivals := [], canSend := true, pulseTime := 0 }) =
        some { id := 1413, len := 5, data := #v[0x90, 0, 1, 0, 2, 0, 0, 0] } := by
    decide +kernel
  cases hhandled.symm.trans hmsg
  constructor
  · intro hlearn
    exact absurd hlearn (by decide +kernel)
  · intro _ hopc
    exact absurd hopc (by decide +kernel)

theorem roomy_produceAndConsume : Guarded step (Roomy true) smallBus produceAndConsume := by
  refine ⟨trivial, fun _ => ?_, trivial, trivial⟩
  decide +kernel

theorem events_delivered_produceAndConsume :
    let after := run step smallBus produceAndConsume
    toldEvents (after.node true).port.trace = [⟨1, 2, true, []⟩] ∧
      ∃ order : List (Bool × AppEvent),
        (∀ i, sentBy i order ++ (after.backlog i).filterMap eventOf =
          emitted step (produced i) smallBus produceAndConsume) ∧
        toldEvents (after.node true).port.trace ++
            ((after.node true).rxFrames.filterMap eventOf).filter
              (knows smallConsumer.moduleConfig.eventStore) =
          (heardBy true order).filter (knows smallConsumer.moduleConfig.eventStore) := by
  obtain ⟨order, hsent, htold⟩ := events_delivered started_smallBus legal_produceAndConsume
  have hconsumer := htold true _ _ consumer_smallConsumer attentive_produceAndConsume
  exact ⟨by decide +kernel, order, hsent, hconsumer.2 roomy_produceAndConsume⟩

end Bus
end CBUSPicoLib
