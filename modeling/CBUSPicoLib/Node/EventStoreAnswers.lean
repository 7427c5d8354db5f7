import CBUSPicoLib.Node.EventListing
import CBUSPicoLib.Node.EventStoreRuns

/-!
# What a module answers about its event store

The acknowledgements of the teach commands, the counts, the listing, the variables that are read
back and the calls of the event handler are all those of the abstract store, in every state that a
run leads to.
-/

namespace CBUSPicoLib

open Runs TaggedTable

namespace CBUSbase

variable {n : CBUSbase} {msg : CANFrame} {capacity : ℕ} {s : EventStore capacity}

/-- The event that a response to `NERD` or `NENRD` names. -/
def listedEvent (f : CANFrame) : EventInfo :=
  ⟨bytesToWord (f.data.get 3) (f.data.get 4), bytesToWord (f.data.get 5) (f.data.get 6)⟩

def consumedEvent (msg : CANFrame) : EventInfo := ⟨(eventKey msg).1, (eventKey msg).2⟩

/-- The module behaves as the store says, whatever frame comes next. -/
structure AnswersFrom (n : CBUSbase) (s : EventStore capacity) : Prop where
  /-- A teach command is acknowledged if there is room for its event. -/
  taught : ∀ msg evNum evVal, n.bLearn = true → taughtVariable msg = some (evNum, evVal) →
    if evNum ≠ 0 ∧ s.Accepts (taughtEvent msg) then n.Answers (n.receiveMsg msg) opcWrack []
    else n.Answers (n.receiveMsg msg) opcCmderr [cmderrInvNvIdx]
  counted : ∀ msg, n.isThisNN msg = true → msg.data.get 0 = opcRqevn →
    n.Answers (n.receiveMsg msg) opcNumev [UInt8.ofNat s.keys.card]
  room : ∀ msg, n.isThisNN msg = true → msg.data.get 0 = opcNnevn →
    n.Answers (n.receiveMsg msg) opcEvnlf [UInt8.ofNat (capacity - s.keys.card)]
  /-- `NERD` lists every event of the store, and each of them once. -/
  listed : ∀ msg, n.isThisNN msg = true → msg.data.get 0 = opcNerd →
    ∃ fs, Accepted n (n.receiveMsg msg) fs ∧ (fs.map listedEvent).Nodup ∧
      ∀ e, e ∈ fs.map listedEvent ↔ e ∈ s.keys
  read : ∀ e k v, s.field e k = some v → ∀ msg, n.isThisNN msg = true →
    msg.data.get 0 = opcReval →
    msg.data.get 3 = n.moduleConfig.findExistingEvent e.nodeNumber e.eventNumber →
    msg.data.get 4 = k → n.Answers (n.receiveMsg msg) opcNeval [msg.data.get 3, k, v]
  /-- The event handler is called for the events of the store, and for no other. -/
  ignored : ∀ msg, isEvent msg = true → consumedEvent msg ∉ s.keys →
    (n.receiveMsg msg).port.trace = n.port.trace
  consumed : ∀ msg, isEvent msg = true → consumedEvent msg ∈ s.keys → n.eventHandler = true →
    ∃ i, (n.receiveMsg msg).port.trace = n.port.trace ++ [.eventHandler i msg]
  consumedEx : ∀ msg v, isEvent msg = true → n.eventHandler = false → n.eventHandlerEx = true →
    s.field (consumedEvent msg) 1 = some v → ∃ i,
      (n.receiveMsg msg).port.trace =
        n.port.trace ++ [.eventHandlerEx i msg (isOnEvent msg) v]

theorem receiveMsg_rqevn (hthis : n.isThisNN msg = true) (hopc : msg.data.get 0 = opcRqevn) :
    n.receiveMsg msg = ({ n with bThisNN := true }.cacheNumbers msg).doRqevn := by
  apply receiveMsg_thisNN hthis
  · unfold isEvent
    rw [hopc]
    decide
  · intro k
    simp [learnCmd, hopc, opcRqevn, opcNnlrn, opcNnuln, opcNnclr, opcEvuln, opcEvlrn, opcEvlrni,
      opcReqev]
  · simp [thisNNCmd, hopc, opcRqevn, opcRqnpn, opcNnlrn, opcNnevn, opcNerd, opcNenrd]

theorem receiveMsg_nnevn (hthis : n.isThisNN msg = true) (hopc : msg.data.get 0 = opcNnevn) :
    n.receiveMsg msg = ({ n with bThisNN := true }.cacheNumbers msg).doNnevn := by
  apply receiveMsg_thisNN hthis
  · unfold isEvent
    rw [hopc]
    decide
  · intro k
    simp [learnCmd, hopc, opcNnevn, opcNnlrn, opcNnuln, opcNnclr, opcEvuln, opcEvlrn, opcEvlrni,
      opcReqev]
  · simp [thisNNCmd, hopc, opcNnevn, opcRqnpn, opcNnlrn]

theorem receiveMsg_nerd (hthis : n.isThisNN msg = true) (hopc : msg.data.get 0 = opcNerd) :
    n.receiveMsg msg = ({ n with bThisNN := true }.cacheNumbers msg).doNerd := by
  apply receiveMsg_thisNN hthis
  · unfold isEvent
    rw [hopc]
    decide
  · intro k
    simp [learnCmd, hopc, opcNerd, opcNnlrn, opcNnuln, opcNnclr, opcEvuln, opcEvlrn, opcEvlrni,
      opcReqev]
  · simp [thisNNCmd, hopc, opcNerd, opcRqnpn, opcNnlrn, opcNnevn]

theorem answers_rqevn (h : n.moduleConfig.Represents s) (hthis : n.isThisNN msg = true)
    (hopc : msg.data.get 0 = opcRqevn) :
    n.Answers (n.receiveMsg msg) opcNumev [UInt8.ofNat s.keys.card] := by
  let k := { n with bThisNN := true }.cacheNumbers msg
  have hcount : n.moduleConfig.numEvents = UInt8.ofNat s.keys.card := by
    apply UInt8.toNat_inj.mp
    have hmax := n.moduleConfig.eeMaxEvents.toNat_lt
    have hle := s.bounded
    have hcap := h.capacity_eq
    rw [h.coherent.hashed.numEvents_toNat, hcap, ← h.card_eq, UInt8.toNat_ofNat',
      Nat.mod_eq_of_lt (by omega)]
  rw [receiveMsg_rqevn hthis hopc, ← hcount]
  have hsame : n.SendsNothing k := SendsNothing.of_trace rfl
  exact answers_sendOpcMyNN hsame opcNumev (by decide) n.moduleConfig.numEvents 0 0 0 0

theorem answers_nnevn (h : n.moduleConfig.Represents s) (hthis : n.isThisNN msg = true)
    (hopc : msg.data.get 0 = opcNnevn) :
    n.Answers (n.receiveMsg msg) opcEvnlf [UInt8.ofNat (capacity - s.keys.card)] := by
  let k := { n with bThisNN := true }.cacheNumbers msg
  have hsame : n.SendsNothing k := SendsNothing.of_trace rfl
  obtain ⟨free, hfree, hsum⟩ := k.doNnevn_eq h.coherent.hashed
  change occupied n.moduleConfig.eeMaxEvents.toNat n.moduleConfig.slot + free.toNat =
    n.moduleConfig.eeMaxEvents.toNat at hsum
  have hroom : free = UInt8.ofNat (capacity - s.keys.card) := by
    apply UInt8.toNat_inj.mp
    have hmax := n.moduleConfig.eeMaxEvents.toNat_lt
    have hcap := h.capacity_eq
    rw [hcap, ← h.card_eq] at hsum
    rw [UInt8.toNat_ofNat', Nat.mod_eq_of_lt (by omega)]
    omega
  rw [receiveMsg_nnevn hthis hopc, hfree, ← hroom]
  exact answers_sendOpcMyNN hsame opcEvnlf (by decide) free 0 0 0 0

theorem listedEvent_slotResponse {f : CANFrame} {i : ℕ}
    (h : (f.len, f.data) = n.slotResponse i) :
    listedEvent f = n.moduleConfig.readEvent (UInt8.ofNat i) := by
  have hdata : f.data = enrspData n.nodeNumber (n.moduleConfig.readEvent (UInt8.ofNat i))
      (UInt8.ofNat i) := congrArg Prod.snd h
  have hnode : bytesToWord (f.data.get 3) (f.data.get 4) =
      (n.moduleConfig.readEvent (UInt8.ofNat i)).nodeNumber := by
    rw [hdata]
    exact bytesToWord_high_low _
  have hevent : bytesToWord (f.data.get 5) (f.data.get 6) =
      (n.moduleConfig.readEvent (UInt8.ofNat i)).eventNumber := by
    rw [hdata]
    exact bytesToWord_high_low _
  unfold listedEvent
  rw [hnode, hevent]

theorem map_listedEvent {fs : List CANFrame} {slots : List ℕ}
    (h : fs.map (fun f => (f.len, f.data)) = slots.map n.slotResponse) :
    fs.map listedEvent = slots.map fun i => n.moduleConfig.readEvent (UInt8.ofNat i) := by
  induction fs generalizing slots with
  | nil =>
    cases slots with
    | nil => rfl
    | cons i slots => exact absurd h (by simp)
  | cons f fs ih =>
    cases slots with
    | nil => exact absurd h (by simp)
    | cons i slots =>
      obtain ⟨hf, hfs⟩ := List.cons.inj h
      rw [List.map_cons, List.map_cons, ih hfs, listedEvent_slotResponse hf]

theorem accepted_nerd (h : n.moduleConfig.Represents s) (hthis : n.isThisNN msg = true)
    (hopc : msg.data.get 0 = opcNerd) :
    ∃ fs, Accepted n (n.receiveMsg msg) fs ∧ (fs.map listedEvent).Nodup ∧
      ∀ e, e ∈ fs.map listedEvent ↔ e ∈ s.keys := by
  let k := { n with bThisNN := true }.cacheNumbers msg
  have hc : k.moduleConfig.Coherent := h.coherent
  obtain ⟨fs, hfs, hmap, -⟩ := (k.listsEvents_of_coherent hc).listed
  have hslot : ∀ i ∈ usedSlots n.moduleConfig, i < n.moduleConfig.eeMaxEvents.toNat ∧
      n.moduleConfig.slot i = some (n.moduleConfig.readEvent (UInt8.ofNat i)) := by
    intro i hi
    obtain ⟨hlt, hused⟩ := mem_usedSlots.mp hi
    exact ⟨hlt, CBUSConfig.slot_eq_some.mpr ⟨rfl, mt CBUSConfig.slot_eq_none.mpr hused⟩⟩
  refine ⟨fs, ?_, ?_, ?_⟩
  · rw [receiveMsg_nerd hthis hopc]
    exact hfs
  · rw [map_listedEvent hmap]
    -- two slots with one event would be one slot
    apply List.Nodup.map_on
    · intro i hi j hj he
      obtain ⟨hi, hsi⟩ := hslot i hi
      obtain ⟨hj, hsj⟩ := hslot j hj
      have he : n.moduleConfig.readEvent (UInt8.ofNat i) =
        n.moduleConfig.readEvent (UInt8.ofNat j) := he
      exact h.coherent.distinct_slot i hi j hj _ hsi (he ▸ hsj)
    · exact (usedSlots_increasing n.moduleConfig).imp fun hlt => Nat.ne_of_lt hlt
  · intro e
    rw [map_listedEvent hmap, List.mem_map, h.keys]
    constructor
    · rintro ⟨i, hi, rfl⟩
      exact ⟨i, hslot i hi⟩
    · rintro ⟨i, hi, hs⟩
      refine ⟨i, mem_usedSlots.mpr ⟨hi, ?_⟩, (CBUSConfig.slot_eq_some.mp hs).1⟩
      change n.moduleConfig.slot i ≠ none
      rw [hs]
      simp

theorem answers_teach (h : n.moduleConfig.Represents s) (hlearn : n.bLearn = true)
    {evNum evVal : UInt8} (ht : taughtVariable msg = some (evNum, evVal)) :
    if evNum ≠ 0 ∧ s.Accepts (taughtEvent msg) then n.Answers (n.receiveMsg msg) opcWrack []
    else n.Answers (n.receiveMsg msg) opcCmderr [cmderrInvNvIdx] := by
  have hroom := h.accepts_iff (taughtEvent msg)
  rcases receiveMsg_teach_cases hlearn ht with ⟨h0, hi, hack, -⟩ | ⟨hno, herr, -⟩
  · rw [if_pos ⟨h0, hroom.mpr hi⟩]
    exact hack
  · rw [if_neg]
    · exact herr
    · rintro ⟨h0, hacc⟩
      rcases hno with hz | hfull
      · exact h0 hz
      · exact hfull (hroom.mp hacc)

theorem answers_reval (h : n.moduleConfig.Represents s) {e : EventInfo} {k v : UInt8}
    (hv : s.field e k = some v) (hthis : n.isThisNN msg = true) (hopc : msg.data.get 0 = opcReval)
    (hslot : msg.data.get 3 = n.moduleConfig.findExistingEvent e.nodeNumber e.eventNumber)
    (hk : msg.data.get 4 = k) :
    n.Answers (n.receiveMsg msg) opcNeval [msg.data.get 3, k, v] := by
  let p := { n with bThisNN := true }.cacheNumbers msg
  obtain ⟨-, hle, hholds⟩ := h.fields e k v hv
  have hknown : n.moduleConfig.Known ⟨e.nodeNumber, e.eventNumber⟩ :=
    (h.keys e).mp (BoundedStore.mem_of_field hv)
  have hlt := h.coherent.hashed.find_lt_iff.mpr hknown
  have hs := h.coherent.hashed.slot_find hknown
  have hvalue := (h.coherent.holdsVariable_iff hlt hs).mp hholds
  have hused : SlotUsed n.moduleConfig (msg.data.get 3) := by
    rw [hslot]
    exact ⟨hlt, by rw [hs]; simp⟩
  have hsame : n.SendsNothing p := SendsNothing.of_trace rfl
  have hanswer := answers_doReval h.coherent.hashed hsame rfl hle hused
  rw [← hvalue, ← hslot, receiveMsg_reval hthis hopc, hk]
  exact hanswer

theorem receiveMsg_event (hevent : isEvent msg = true) :
    (n.receiveMsg msg).port.trace = n.port.trace ++
      n.notifications (n.moduleConfig.findExistingEvent (consumedEvent msg).nodeNumber
        (consumedEvent msg).eventNumber) msg (isOnEvent msg) := by
  unfold receiveMsg parseCBUSMsg
  rw [if_pos hevent]
  exact (parseCBUSEvent_notified { n with bThisNN := n.isThisNN msg } msg).2

theorem answersFrom (h : n.moduleConfig.Represents s) : n.AnswersFrom s := by
  constructor
  · exact fun msg _ _ hlearn ht => answers_teach h hlearn ht
  · exact fun msg hthis hopc => answers_rqevn h hthis hopc
  · exact fun msg hthis hopc => answers_nnevn h hthis hopc
  · exact fun msg hthis hopc => accepted_nerd h hthis hopc
  · exact fun e k v hv msg hthis hopc hslot hk => answers_reval h hv hthis hopc hslot hk
  · intro msg hevent hunknown
    have hfind : ¬ n.moduleConfig.findExistingEvent (consumedEvent msg).nodeNumber
        (consumedEvent msg).eventNumber < n.moduleConfig.eeMaxEvents :=
      fun hlt => hunknown ((h.find_lt_iff _).mp (UInt8.lt_iff_toNat_lt.mp hlt))
    rw [receiveMsg_event hevent, notifications, if_neg hfind, List.append_nil]
  · intro msg hevent hstored hhandler
    have hfind := UInt8.lt_iff_toNat_lt.mpr ((h.find_lt_iff _).mpr hstored)
    refine ⟨n.moduleConfig.findExistingEvent (consumedEvent msg).nodeNumber
      (consumedEvent msg).eventNumber, ?_⟩
    rw [receiveMsg_event hevent, notifications, if_pos hfind, if_pos hhandler]
  · intro msg v hevent hno hhandler hv
    have hstored := BoundedStore.mem_of_field hv
    have hfind := (h.find_lt_iff (consumedEvent msg)).mpr hstored
    obtain ⟨-, hle, hholds⟩ := h.fields _ _ _ hv
    have hs := h.coherent.hashed.slot_find ((h.keys (consumedEvent msg)).mp hstored)
    have hvalue := (h.coherent.holdsVariable_iff hfind hs).mp hholds
    have hpos : 0 < n.moduleConfig.eeNumEvs := by
      have hone := UInt8.le_iff_toNat_le.mp hle
      rw [UInt8.lt_iff_toNat_lt]
      simp at hone ⊢
      omega
    refine ⟨n.moduleConfig.findExistingEvent (consumedEvent msg).nodeNumber
      (consumedEvent msg).eventNumber, ?_⟩
    rw [receiveMsg_event hevent, notifications, if_pos (UInt8.lt_iff_toNat_lt.mpr hfind), hno,
      if_neg Bool.false_ne_true, if_pos hhandler, if_pos hpos, hvalue]

/-- In every state of a run, whatever restarts and other frames it contains, the module answers
from the store that the commands so far leave. -/
theorem answersFrom_run (n : CBUSbase) (l : Layout) (flash : FlashImage) (hl : l.Fits)
    (hd : (CBUSConfig.construct l flash).loaded.NoPairTwice) (es : List StorageEvent)
    (hg : Guarded storageStep IndexesInBounds (n.startUp l flash) es) (ps : List StorageEvent)
    (hps : ps <+: es) :
    (run storageStep (n.startUp l flash) ps).AnswersFrom
      (run StoreCommand.apply (n.startUp l flash).moduleConfig.eventStore
        (emitted storageStep eventCommand (n.startUp l flash) ps)) := by
  obtain ⟨rest, rfl⟩ := hps
  exact answersFrom (represents_storageSteps (n.represents_startUp hl hd) hg.of_append)

theorem answersFrom_run_teachAndRestart :
    (run storageStep (smallModule.startUp CBUSConfig.smallLayout smallFlash)
      teachAndRestart).AnswersFrom
      (run StoreCommand.apply
        (smallModule.startUp CBUSConfig.smallLayout smallFlash).moduleConfig.eventStore
        (emitted storageStep eventCommand (smallModule.startUp CBUSConfig.smallLayout smallFlash)
          teachAndRestart)) :=
  answersFrom_run smallModule CBUSConfig.smallLayout smallFlash CBUSConfig.smallLayout_fits
    smallFlash_noPairTwice teachAndRestart indexesInBounds_teachAndRestart teachAndRestart
    List.prefix_rfl

end CBUSbase
end CBUSPicoLib
