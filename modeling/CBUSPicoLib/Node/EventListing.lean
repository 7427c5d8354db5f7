import CBUSPicoLib.Node.Forwarding
import CBUSPicoLib.Node.Unlearning

/-!
# Listing the stored events

`NERD` walks the hash table and sends one response for each slot in use, repeating a send
until the controller takes the frame. The counts of `RQEVN` and `NNEVN` come from walks of
their own over the same table, and `NENRD` sends the response of one slot.
-/

namespace CBUSPicoLib

open TaggedTable

namespace CBUSbase

/-- The frames that the controller has taken between `n` and `m`. -/
def Accepted (n m : CBUSbase) (fs : List CANFrame) : Prop :=
  ∃ es, m.port.trace = n.port.trace ++ es ∧ CBUSPicoLib.transmittedFrames es = fs

variable {n m k : CBUSbase}

theorem Accepted.refl (n : CBUSbase) : Accepted n n [] := ⟨[], (List.append_nil _).symm, rfl⟩

theorem Accepted.trans {fs gs : List CANFrame} (h : Accepted n m fs) (h' : Accepted m k gs) :
    Accepted n k (fs ++ gs) := by
  obtain ⟨es, ht, rfl⟩ := h
  obtain ⟨es', ht', rfl⟩ := h'
  refine ⟨es ++ es', by rw [ht', ht, List.append_assoc], ?_⟩
  exact List.filterMap_append

theorem accepted_emit (n : CBUSbase) {e : Effect} (he : CBUSPicoLib.transmittedFrames [e] = []) :
    Accepted n (n.emit e) [] := ⟨[e], rfl, he⟩

theorem accepted_forward (n : CBUSbase) (msg : CANFrame) (bMore : Bool) :
    Accepted n (n.forward msg bMore) [] := by
  unfold forward
  split_ifs
  · exact n.accepted_emit rfl
  · exact Accepted.refl n

/-- A call that is refused has nothing accepted and uses up one refusal. -/
theorem accepted_sendMessage_refused {n : CBUSbase} {r : Refusal} {rest : List Refusal}
    (htx : n.port.tx 0 = r :: rest) (msg : CANFrame) :
    (n.sendMessage msg).1 = false ∧ Accepted n (n.sendMessage msg).2.2 [] ∧
      (n.sendMessage msg).2.2.port.tx 0 = rest := by
  have hemit : Accepted n (n.emit (.sendMessage msg)) [] := n.accepted_emit rfl
  have hemit' : (n.emit (.sendMessage msg)).port.tx 0 = r :: rest := htx
  unfold sendMessage
  simp only [hemit']
  cases r with
  | notOkToSend => exact ⟨rfl, hemit, rfl⟩
  | sendFailed => exact ⟨rfl, hemit.trans (accepted_forward _ msg false), rfl⟩

/-- A call without a refusal has one frame accepted, with the data of the message. -/
theorem accepted_sendMessage {n : CBUSbase} (htx : n.port.tx 0 = []) (msg : CANFrame) :
    (n.sendMessage msg).1 = true ∧ ∃ f : CANFrame, Accepted n (n.sendMessage msg).2.2 [f] ∧
      f.len = msg.len ∧ f.data = msg.data := by
  have hemit : Accepted n (n.emit (.sendMessage msg)) [] := n.accepted_emit rfl
  have hemit' : (n.emit (.sendMessage msg)).port.tx 0 = [] := htx
  have hforward := hemit.trans ((n.emit (.sendMessage msg)).accepted_forward msg false)
  unfold sendMessage
  simp only [hemit']
  refine ⟨trivial, ?_⟩
  let p := (n.emit (.sendMessage msg)).forward msg false
  let sent := p.sendHeader msg false false defaultPriority
  let next := { p with port := { p.port with tx := fun k => p.port.tx (k + 1) } }
  have htransmitted : Accepted p (next.emit (.transmitted sent)) [sent] := ⟨_, rfl, rfl⟩
  exact ⟨sent, hforward.trans htransmitted, rfl, rfl⟩

theorem sendMessage_len (n : CBUSbase) (msg : CANFrame) :
    (n.sendMessage msg).2.1.len = msg.len := by
  unfold sendMessage
  dsimp only
  split <;> rfl

/-- Whatever the refusals are, a repeated send has its frame accepted once. -/
theorem accepted_sendBusyWaiting {n : CBUSbase} {refusals : List Refusal}
    (htx : n.port.tx 0 = refusals) (msg : CANFrame) :
    ∃ f : CANFrame, Accepted n (n.sendBusyWaiting msg refusals.length).2 [f] ∧
      f.len = msg.len ∧ f.data = msg.data ∧
      (n.sendBusyWaiting msg refusals.length).1.len = msg.len ∧
      (n.sendBusyWaiting msg refusals.length).1.data = msg.data := by
  induction refusals generalizing n msg with
  | nil =>
    obtain ⟨-, f, hf, hlen, hdata⟩ := accepted_sendMessage htx msg
    exact ⟨f, hf, hlen, hdata, n.sendMessage_len msg, n.sendMessage_data msg _ _ _⟩
  | cons r rest ih =>
    obtain ⟨hno, hnone, htx'⟩ := accepted_sendMessage_refused htx msg
    obtain ⟨f, hf, hlen, hdata, hlen', hdata'⟩ := ih htx' (n.sendMessage msg).2.1
    have hretry : n.sendBusyWaiting msg (r :: rest).length =
        (n.sendMessage msg).2.2.sendBusyWaiting (n.sendMessage msg).2.1 rest.length := by
      simp [sendBusyWaiting, hno]
    have hl := n.sendMessage_len msg
    have hd := n.sendMessage_data msg false false defaultPriority
    rw [hretry]
    exact ⟨f, hnone.trans hf, hlen.trans hl, hdata.trans hd, hlen'.trans hl, hdata'.trans hd⟩

/-- The data of the response for the event of slot `index`. -/
def enrspData (nodeNumber : UInt16) (evInfo : EventInfo) (index : UInt8) : Vector UInt8 8 :=
  #v[opcEnrsp, highByte nodeNumber.toNat, lowByte nodeNumber.toNat,
    highByte evInfo.nodeNumber.toNat, lowByte evInfo.nodeNumber.toNat,
    highByte evInfo.eventNumber.toNat, lowByte evInfo.eventNumber.toNat, index]

/-- The frame starts with the bytes of the response that are the same for every event. -/
structure Prepared (n : CBUSbase) (msg : CANFrame) : Prop where
  len : msg.len = 8
  opc : msg.data.get 0 = opcEnrsp
  high : msg.data.get 1 = highByte n.nodeNumber.toNat
  low : msg.data.get 2 = lowByte n.nodeNumber.toNat

theorem prepared_enrspHeader (n : CBUSbase) : n.Prepared n.enrspHeader := ⟨rfl, rfl, rfl, rfl⟩

theorem Prepared.enrspFrame_data {msg : CANFrame} (h : n.Prepared msg) (evInfo : EventInfo)
    (index : UInt8) : (enrspFrame msg evInfo index).data = enrspData n.nodeNumber evInfo index := by
  obtain ⟨-, hopc, hhigh, hlow⟩ := h
  simp only [Vector.get] at hopc hhigh hlow
  ext i hi
  interval_cases i <;> simp_all [enrspFrame, enrspData]

theorem enrspFrame_len (msg : CANFrame) (evInfo : EventInfo) (index : UInt8) :
    (enrspFrame msg evInfo index).len = msg.len := by
  unfold enrspFrame
  rfl

theorem Prepared.enrspFrame {msg : CANFrame} (h : n.Prepared msg) (evInfo : EventInfo)
    (index : UInt8) : n.Prepared (enrspFrame msg evInfo index) := by
  have hdata := h.enrspFrame_data evInfo index
  constructor
  · rw [enrspFrame_len, h.len]
  · rw [hdata]
    rfl
  · rw [hdata]
    rfl
  · rw [hdata]
    rfl

def usedSlots (c : CBUSConfig) : List ℕ :=
  (List.range c.eeMaxEvents.toNat).filter fun i => (c.slot i).isSome

theorem mem_usedSlots {c : CBUSConfig} {i : ℕ} :
    i ∈ usedSlots c ↔ i < c.eeMaxEvents.toNat ∧ c.slot i ≠ none := by
  unfold usedSlots
  rw [List.mem_filter, List.mem_range, Option.isSome_iff_ne_none]

theorem length_usedSlots (c : CBUSConfig) :
    (usedSlots c).length = occupied c.eeMaxEvents.toNat c.slot :=
  List.countP_eq_length_filter.symm

theorem usedSlots_increasing (c : CBUSConfig) : (usedSlots c).Pairwise (· < ·) :=
  List.pairwise_lt_range.filter _

/-- The response for slot `i` of the module's own table. -/
def slotResponse (n : CBUSbase) (i : ℕ) : UInt8 × Vector UInt8 8 :=
  (8, enrspData n.nodeNumber (n.moduleConfig.readEvent (UInt8.ofNat i)) (UInt8.ofNat i))

/-- The walk of `doNerd` over some slots: one response for each of them that is in use. -/
theorem accepted_walk {n : CBUSbase} (hh : n.moduleConfig.Hashed) {slots : List ℕ}
    (hslots : ∀ i ∈ slots, i < n.moduleConfig.eeMaxEvents.toNat) {msg : CANFrame}
    (hmsg : n.Prepared msg) :
    ∃ fs, Accepted n (slots.foldl (fun (msg, n) i =>
        let index := UInt8.ofNat i
        if n.moduleConfig.getEvTableEntry index ≠ 0 then
          n.sendBusyWaiting (CBUSbase.enrspFrame msg (n.moduleConfig.readEvent index) index)
            (n.port.tx 0).length
        else (msg, n)) (msg, n)).2 fs ∧
      fs.map (fun f => (f.len, f.data)) =
        (slots.filter fun i => (n.moduleConfig.slot i).isSome).map n.slotResponse := by
  induction slots generalizing n msg with
  | nil => exact ⟨[], Accepted.refl n, rfl⟩
  | cons i slots ih =>
    have hi : i < n.moduleConfig.eeMaxEvents.toNat := hslots i List.mem_cons_self
    have hrest : ∀ j ∈ slots, j < n.moduleConfig.eeMaxEvents.toNat :=
      fun j hj => hslots j (List.mem_cons_of_mem i hj)
    have hentry := hh.getEvTableEntry_ofNat hi
    rw [List.foldl_cons]
    dsimp only
    by_cases hused : n.moduleConfig.slot i = none
    · rw [if_neg (not_not.mpr (hentry.mpr hused)), List.filter_cons_of_neg (by simp [hused])]
      exact ih hh hrest hmsg
    · have hsome : (n.moduleConfig.slot i).isSome = true := Option.isSome_iff_ne_none.mpr hused
      rw [if_pos (mt hentry.mp hused), List.filter_cons_of_pos (by simp [hsome])]
      let e := n.moduleConfig.readEvent (UInt8.ofNat i)
      let sent := enrspFrame msg e (UInt8.ofNat i)
      have hsent : n.Prepared sent := hmsg.enrspFrame e (UInt8.ofNat i)
      obtain ⟨f, hf, hlen, hdata, hlen', hdata'⟩ := accepted_sendBusyWaiting rfl sent
      -- the retries change the port only
      obtain ⟨p, es, hport, -⟩ := n.replies_sendBusyWaiting sent (n.port.tx 0).length
      let m := (n.sendBusyWaiting sent (n.port.tx 0).length).2
      have hm : m = { n with port := p } := hport
      have hnext : m.Prepared (n.sendBusyWaiting sent (n.port.tx 0).length).1 := by
        rw [hm]
        exact ⟨hlen'.trans hsent.len, by rw [hdata']; exact hsent.opc,
          by rw [hdata']; exact hsent.high, by rw [hdata']; exact hsent.low⟩
      have hhm : m.moduleConfig.Hashed := by
        rw [hm]
        exact hh
      have hrestm : ∀ j ∈ slots, j < m.moduleConfig.eeMaxEvents.toNat := by
        rw [hm]
        exact hrest
      obtain ⟨fs, hfs, hmap⟩ := ih hhm hrestm hnext
      refine ⟨f :: fs, hf.trans hfs, ?_⟩
      have hresponse : m.slotResponse = n.slotResponse := by
        rw [hm]
        rfl
      have hslot : m.moduleConfig.slot = n.moduleConfig.slot := by
        rw [hm]
      rw [List.map_cons, List.map_cons, hmap, hresponse, hslot, hlen, hdata, hsent.len,
        hmsg.enrspFrame_data]
      rfl

theorem doNnevn_eq (n : CBUSbase) (hh : n.moduleConfig.Hashed) :
    ∃ free : UInt8, n.doNnevn = n.sendOpcMyNN opcEvnlf 1 free ∧
      occupied n.moduleConfig.eeMaxEvents.toNat n.moduleConfig.slot + free.toNat =
        n.moduleConfig.eeMaxEvents.toNat := by
  have hcount : (List.range n.moduleConfig.eeMaxEvents.toNat).countP (fun i =>
      n.moduleConfig.getEvTableEntry (UInt8.ofNat i) == 0) =
      (List.range n.moduleConfig.eeMaxEvents.toNat).countP fun i =>
        (n.moduleConfig.slot i).isNone := by
    apply List.countP_congr
    intro i hi
    have hentry := hh.getEvTableEntry_ofNat (List.mem_range.mp hi)
    rw [beq_iff_eq, Option.isNone_iff_eq_none, hentry]
  have hsum := occupied_add_free n.moduleConfig.eeMaxEvents.toNat n.moduleConfig.slot
  have hmax := n.moduleConfig.eeMaxEvents.toNat_lt
  refine ⟨_, rfl, ?_⟩
  rw [hcount, UInt8.toNat_ofNat', Nat.mod_eq_of_lt (by omega)]
  exact hsum

/-- What the listing commands say about the table of a module. -/
structure ListsEvents (n : CBUSbase) : Prop where
  /-- `NERD` gets one response accepted for each slot in use, in increasing slot order. -/
  listed : ∃ fs, Accepted n n.doNerd fs ∧
    fs.map (fun f => (f.len, f.data)) = (usedSlots n.moduleConfig).map n.slotResponse ∧
    n.Answers n.doRqevn opcNumev [n.moduleConfig.numEvents] ∧
    n.moduleConfig.numEvents.toNat = fs.length ∧
    ∃ free, n.Answers n.doNnevn opcEvnlf [free] ∧
      fs.length + free.toNat = n.moduleConfig.eeMaxEvents.toNat
  increasing : (usedSlots n.moduleConfig).Pairwise (· < ·)
  complete : ∀ i, i ∈ usedSlots n.moduleConfig ↔ i < n.moduleConfig.eeMaxEvents.toNat ∧
    n.moduleConfig.readEvent (UInt8.ofNat i) ≠ evInfoUnused
  /-- The lookup leads back to the slot, and `NENRD` sends the same response. -/
  consistent : ∀ i ∈ usedSlots n.moduleConfig,
    let e := n.moduleConfig.readEvent (UInt8.ofNat i)
    n.moduleConfig.findExistingEvent e.nodeNumber e.eventNumber = UInt8.ofNat i ∧
      ∃ f, n.answer (n.doNenrd (UInt8.ofNat i)) = some f ∧ (f.len, f.data) = n.slotResponse i

/-- The lookup of a slot's event ends at the slot, since no event is stored twice. -/
theorem find_usedSlot {c : CBUSConfig} (h : c.Coherent) {i : ℕ} (hi : i ∈ usedSlots c) :
    c.findExistingEvent (c.readEvent (UInt8.ofNat i)).nodeNumber
      (c.readEvent (UInt8.ofNat i)).eventNumber = UInt8.ofNat i := by
  obtain ⟨hlt, hused⟩ := mem_usedSlots.mp hi
  have hs : c.slot i = some (c.readEvent (UInt8.ofNat i)) :=
    CBUSConfig.slot_eq_some.mpr ⟨rfl, mt CBUSConfig.slot_eq_none.mpr hused⟩
  apply UInt8.toNat_inj.mp
  rw [h.findExistingEvent_toNat, CBUSConfig.toNat_ofNat_index hlt]
  apply firstIndex_eq_of hlt
  · exact decide_eq_true hs
  · intro j hj
    refine decide_eq_false fun hsj => ?_
    exact absurd (h.distinct_slot j (hj.trans hlt) i hlt _ hsj hs) hj.ne

/-- With a coherent table, and whatever sends are refused before others are accepted, the
listing commands agree with the table and with each other. -/
theorem listsEvents_of_coherent (n : CBUSbase) (hc : n.moduleConfig.Coherent) :
    n.ListsEvents := by
  have hh := hc.hashed
  have hsame : n.SendsNothing n := SendsNothing.of_trace rfl
  constructor
  · obtain ⟨fs, hfs, hmap⟩ := accepted_walk hh (fun i hi => List.mem_range.mp hi)
      n.prepared_enrspHeader
    have hlen : fs.length = occupied n.moduleConfig.eeMaxEvents.toNat n.moduleConfig.slot := by
      have hl := congrArg List.length hmap
      rw [List.length_map, List.length_map] at hl
      exact hl.trans (length_usedSlots n.moduleConfig)
    obtain ⟨free, hfree, hsum⟩ := n.doNnevn_eq hh
    refine ⟨fs, hfs, hmap, ?_, hh.numEvents_toNat.trans hlen.symm, free, ?_, ?_⟩
    · exact answers_sendOpcMyNN hsame opcNumev (by decide) n.moduleConfig.numEvents 0 0 0 0
    · rw [hfree]
      exact answers_sendOpcMyNN hsame opcEvnlf (by decide) free 0 0 0 0
    · rwa [hlen]
  · exact usedSlots_increasing n.moduleConfig
  · intro i
    rw [mem_usedSlots, ne_eq, CBUSConfig.slot_eq_none]
  · intro i hi e
    obtain ⟨hlt, hused⟩ := mem_usedSlots.mp hi
    have hentry := hh.getEvTableEntry_ofNat hlt
    refine ⟨find_usedSlot hc hi, enrspFrame n.enrspHeader e (UInt8.ofNat i), ?_, ?_⟩
    · rw [doNenrd, if_neg (mt hentry.mp hused)]
      exact answer_sendMessage hsame _ _ _ _
    · exact Prod.ext rfl (n.prepared_enrspHeader.enrspFrame_data e (UInt8.ofNat i))

/-- Both kinds of refusal, before the first and before the second response. -/
theorem listsEvents_learnedModule :
    CBUSbase.ListsEvents { learnedModule with
      port := { tx := fun k => if k = 0 then [.notOkToSend, .sendFailed] else [.sendFailed] } } :=
  listsEvents_of_coherent { learnedModule with
    port := { tx := fun k => if k = 0 then [.notOkToSend, .sendFailed] else [.sendFailed] } }
    learnedModule_stored.coherent

end CBUSbase
end CBUSPicoLib
