import CBUSPicoLib.Node.EventStoreAnswers
import CBUSPicoLib.Node.PermanentData

/-!
# Events read out of one module and taught to another

`NERD` lists the events of a module and `REVAL` reads their variables. What these answers say,
put into `EVLRN` frames, gives a module that has been cleared the same events with the same
variables, whatever slots they had before.
-/

namespace CBUSPicoLib

open Runs

namespace StoreCommand

variable {capacity : ℕ} {s : EventStore capacity} {e : EventInfo}

/-- The module acknowledges the command. -/
def Acknowledged (s : EventStore capacity) : StoreCommand → Prop
  | .clear => True
  | .remove _ => False
  | .teach e evNum _ => evNum ≠ 0 ∧ s.Accepts e

/-- Teach an event its variables from number `k` on. -/
def teachFrom (e : EventInfo) : ℕ → List UInt8 → List StoreCommand
  | _, [] => []
  | k, v :: vs => .teach e (UInt8.ofNat k) v :: teachFrom e (k + 1) vs

/-- Event `e` is stored with these variables from number `k` on, and nothing else has changed. -/
structure Taught (s t : EventStore capacity) (e : EventInfo) (k : ℕ) (vs : List UInt8) : Prop where
  keys : t.keys = insert e s.keys
  own : ∀ i : UInt8, k ≤ i.toNat → i.toNat < k + vs.length → t.field e i = vs[i.toNat - k]?
  others : ∀ e' i, e' ≠ e ∨ i.toNat < k → t.field e' i = s.field e' i

theorem toNat_ofNat_of_lt {k : ℕ} (h : k < 256) : (UInt8.ofNat k).toNat = k := by
  rw [UInt8.toNat_ofNat', Nat.mod_eq_of_lt h]

theorem ofNat_ne_zero {k : ℕ} (hk : 0 < k) (hlt : k < 256) : UInt8.ofNat k ≠ 0 := by
  intro hzero
  have hnat := toNat_ofNat_of_lt hlt
  rw [hzero] at hnat
  exact hk.ne hnat

/-- Teaching an event variable by variable, a new one from its first variable on. -/
theorem run_teachFrom {k : ℕ} {vs : List UInt8} (hk : 0 < k) (hlen : k + vs.length ≤ 256)
    (hroom : s.Accepts e) (he : e ∈ s.keys ∨ k = 1 ∧ e ≠ evInfoUnused ∧ vs ≠ []) :
    Guarded apply Acknowledged s (teachFrom e k vs) ∧
      Taught s (run apply s (teachFrom e k vs)) e k vs := by
  induction vs generalizing s k with
  | nil =>
    refine ⟨trivial, ?_, fun i hi hlt => ?_, fun _ _ _ => rfl⟩
    · rcases he with hmem | ⟨-, -, hne⟩
      · exact (Finset.insert_eq_of_mem hmem).symm
      · exact absurd rfl hne
    · exact absurd hlt (by simp; omega)
  | cons v vs ih =>
    rw [List.length_cons] at hlen
    have hnat := toNat_ofNat_of_lt (by omega : k < 256)
    have h0 := ofNat_ne_zero hk (by omega)
    have hput : (teach e (UInt8.ofNat k) v).apply s = s.put e (UInt8.ofNat k) v :=
      if_pos ⟨h0, he.imp_right fun h => ⟨by rw [h.1]; rfl, h.2.1⟩⟩
    have hkeys : (s.put e (UInt8.ofNat k) v).keys = insert e s.keys := BoundedStore.put_keys hroom
    have hmem : e ∈ (s.put e (UInt8.ofNat k) v).keys := hkeys ▸ Finset.mem_insert_self e s.keys
    obtain ⟨hack, hrest⟩ := ih (s := s.put e (UInt8.ofNat k) v) (k := k + 1) (by omega) (by omega)
      (.inl hmem) (.inl hmem)
    rw [teachFrom, run_cons, hput]
    refine ⟨⟨⟨h0, hroom⟩, hput ▸ hack⟩, ?_, ?_, ?_⟩
    · rw [hrest.keys, Finset.insert_eq_of_mem hmem, hkeys]
    · intro i hi hlt
      rw [List.length_cons] at hlt
      rcases Nat.eq_or_lt_of_le hi with heq | hlater
      · have hown : i = UInt8.ofNat k := UInt8.toNat_inj.mp (heq.symm.trans hnat.symm)
        rw [hrest.others e i (.inr (by omega)), BoundedStore.put_field hroom, if_pos ⟨rfl, hown⟩,
          ← heq, Nat.sub_self]
        rfl
      · have hsub : i.toNat - k = (i.toNat - (k + 1)) + 1 := by omega
        rw [hrest.own i hlater (by omega), hsub, List.getElem?_cons_succ]
    · intro e' i hother
      rw [hrest.others e' i (hother.imp_right (by omega)), BoundedStore.put_field hroom, if_neg]
      rintro ⟨rfl, rfl⟩
      rcases hother with hne | hlt
      · exact hne rfl
      · omega

def teachRecords (records : List (EventInfo × List UInt8)) : List StoreCommand :=
  records.flatMap fun r => teachFrom r.1 1 r.2

/-- The records are stored, and no other event has changed. -/
structure Restored (s t : EventStore capacity) (records : List (EventInfo × List UInt8)) :
    Prop where
  keys : ∀ e, e ∈ t.keys ↔ e ∈ s.keys ∨ ∃ r ∈ records, r.1 = e
  own : ∀ r ∈ records, ∀ i : UInt8, 1 ≤ i.toNat → i.toNat ≤ r.2.length →
    t.field r.1 i = r.2[i.toNat - 1]?
  others : ∀ e i, (∀ r ∈ records, r.1 ≠ e) → t.field e i = s.field e i

theorem mem_teachFrom {k : ℕ} {vs : List UInt8} {cmd : StoreCommand} (h : cmd ∈ teachFrom e k vs) :
    ∃ i v, k ≤ i ∧ i < k + vs.length ∧ cmd = teach e (UInt8.ofNat i) v := by
  induction vs generalizing k with
  | nil => exact absurd h List.not_mem_nil
  | cons v vs ih =>
    rw [List.length_cons]
    rcases List.mem_cons.mp h with rfl | hlater
    · exact ⟨k, v, le_rfl, by omega, rfl⟩
    · obtain ⟨i, w, hki, hlt, hcmd⟩ := ih hlater
      exact ⟨i, w, by omega, by omega, hcmd⟩

theorem run_teachRecords {records : List (EventInfo × List UInt8)}
    (hd : (records.map (·.1)).Nodup) (hnew : ∀ r ∈ records, r.1 ∉ s.keys ∧ r.1 ≠ evInfoUnused)
    (hlen : ∀ r ∈ records, r.2 ≠ [] ∧ r.2.length < 256)
    (hroom : s.keys.card + records.length ≤ capacity) :
    Guarded apply Acknowledged s (teachRecords records) ∧
      Restored s (run apply s (teachRecords records)) records := by
  induction records generalizing s with
  | nil => exact ⟨trivial, fun e => by simp [teachRecords], by simp, fun _ _ _ => rfl⟩
  | cons r records ih =>
    obtain ⟨hr, hd⟩ := List.nodup_cons.mp hd
    obtain ⟨⟨hfresh, hused⟩, hnew⟩ := List.forall_mem_cons.mp hnew
    obtain ⟨⟨hne, hlt⟩, hlen⟩ := List.forall_mem_cons.mp hlen
    rw [List.length_cons] at hroom
    have hcount : 1 + r.2.length ≤ 256 := by omega
    have hfits : s.Accepts r.1 := .inr (by omega)
    obtain ⟨hack, htaught⟩ := run_teachFrom one_pos hcount hfits (.inr ⟨rfl, hused, hne⟩)
    let s' := run apply s (teachFrom r.1 1 r.2)
    have hkeys : s'.keys = insert r.1 s.keys := htaught.keys
    have hcard : s'.keys.card = s.keys.card + 1 := by
      rw [hkeys, Finset.card_insert_of_notMem hfresh]
    have hnot : ∀ r' ∈ records, r'.1 ≠ r.1 :=
      fun r' hr' he => hr (List.mem_map.mpr ⟨r', hr', he⟩)
    obtain ⟨hack', hrest⟩ := ih (s := s') hd (fun r' hr' => ⟨by
      rw [hkeys, Finset.mem_insert, not_or]
      exact ⟨hnot r' hr', (hnew r' hr').1⟩, (hnew r' hr').2⟩) hlen (by omega)
    have hrun : run apply s (teachRecords (r :: records)) = run apply s' (teachRecords records) :=
      run_append s (teachFrom r.1 1 r.2) _
    rw [hrun]
    refine ⟨hack.append hack', ?_, ?_, ?_⟩
    · intro e
      rw [hrest.keys, hkeys, Finset.mem_insert, List.exists_mem_cons_iff]
      tauto
    · intro r' hr' i hi hle
      rcases List.mem_cons.mp hr' with rfl | hlater
      · rw [hrest.others _ i hnot]
        exact htaught.own i hi (by omega)
      · exact hrest.own r' hlater i hi hle
    · intro e i hother
      rw [List.forall_mem_cons] at hother
      rw [hrest.others e i hother.2]
      exact htaught.others e i (.inl hother.1.symm)

end StoreCommand

theorem CBUSConfig.Represents.eventStore_keys {capacity : ℕ} {c : CBUSConfig}
    {s : EventStore capacity} (h : c.Represents s) : c.eventStore.keys = s.keys := by
  ext e
  rw [c.mem_eventStore, h.keys]

theorem CBUSConfig.Represents.eventStore_field {capacity : ℕ} {c : CBUSConfig}
    {s : EventStore capacity} {e : EventInfo} {k v : UInt8} (h : c.Represents s)
    (hv : s.field e k = some v) : c.eventStore.field e k = some v := by
  obtain ⟨h0, hle, hholds⟩ := h.fields e k v hv
  have hkey : e ∈ s.keys := BoundedStore.mem_of_field hv
  have hknown : c.Known ⟨e.nodeNumber, e.eventNumber⟩ := (h.keys e).mp hkey
  have hlt := h.coherent.hashed.find_lt_iff.mpr hknown
  have hs := h.coherent.hashed.slot_find hknown
  rw [c.eventStore_field, if_pos ⟨h.eventStore_keys.symm ▸ hkey, h0, hle⟩,
    (h.coherent.holdsVariable_iff hlt hs).mp hholds]

theorem CBUSConfig.Represents.numEvents_toNat {capacity : ℕ} {c : CBUSConfig}
    {s : EventStore capacity} (h : c.Represents s) : c.numEvents.toNat = s.keys.card := by
  rw [h.coherent.hashed.numEvents_toNat, h.capacity_eq, h.card_eq]

namespace CBUSbase

variable {n : CBUSbase} {msg : CANFrame} {capacity : ℕ} {s : EventStore capacity}

theorem Replies.bLearn {n m : CBUSbase} (h : Replies n m) : m.bLearn = n.bLearn := by
  obtain ⟨p, es, rfl, -⟩ := h
  rfl

theorem doEvlrn_bLearn (n : CBUSbase) (evNum evVal : UInt8) :
    (n.doEvlrn evNum evVal).bLearn = n.bLearn := by
  unfold doEvlrn
  dsimp only
  split_ifs
  · exact (replies_sendCMDERR _ _).bLearn
  · exact (replies_sendWRACK _).bLearn
  · exact (replies_sendCMDERR _ _).bLearn

theorem receiveMsg_clear (hlearn : n.bLearn = true) (hopc : msg.data.get 0 = opcNnclr) :
    n.Answers (n.receiveMsg msg) opcWrack [] ∧ (n.receiveMsg msg).bLearn = true := by
  let k := { n with bThisNN := n.isThisNN msg }.cacheNumbers msg
  have hk : n.receiveMsg msg =
      { k with moduleConfig := k.moduleConfig.clearEventsEEPROM.clearEvHashTable }.sendWRACK := by
    have hk : k.bLearn = true := hlearn
    rw [receiveMsg_command (not_isEvent_command hopc (by decide)),
      parseFLiMCmd_nnclr (n := { n with bThisNN := n.isThisNN msg }) hlearn hopc]
    exact if_pos hk
  have hsame : n.SendsNothing
      { k with moduleConfig := k.moduleConfig.clearEventsEEPROM.clearEvHashTable } :=
    SendsNothing.of_trace rfl
  rw [hk]
  exact ⟨answers_sendWRACK hsame, (replies_sendWRACK _).bLearn.trans hlearn⟩

/-- A command that the store acknowledges, in a module that represents the store. -/
theorem receiveMsg_acknowledged (h : n.moduleConfig.Represents s) (hlearn : n.bLearn = true)
    {cmd : StoreCommand} (hcmd : carriedCommand msg = some cmd)
    (hr : cmd.InRange n.moduleConfig.toLayout) (hack : cmd.Acknowledged s) :
    n.Answers (n.receiveMsg msg) opcWrack [] ∧ (n.receiveMsg msg).bLearn = true ∧
      (n.receiveMsg msg).moduleConfig.Represents (cmd.apply s) ∧
      (n.receiveMsg msg).moduleConfig.toLayout = n.moduleConfig.toLayout := by
  have hconfig : (n.receiveMsg msg).moduleConfig = n.moduleConfig.storeCommand cmd :=
    parseCBUSMsg_carriedCommand (n := { n with bThisNN := n.isThisNN msg }) hlearn hcmd
  have hrep := h.storeCommand hr
  have hlayout : (n.moduleConfig.storeCommand cmd).toLayout = n.moduleConfig.toLayout :=
    (CBUSConfig.storeCommand_ram _ cmd).1
  rw [hconfig]
  suffices hanswer : n.Answers (n.receiveMsg msg) opcWrack [] ∧ (n.receiveMsg msg).bLearn = true from
    ⟨hanswer.1, hanswer.2, hrep, hlayout⟩
  unfold carriedCommand at hcmd
  split_ifs at hcmd with hclr huln
  · exact receiveMsg_clear hlearn hclr
  · cases hcmd
    exact hack.elim
  · obtain ⟨⟨evNum, evVal⟩, ht, rfl⟩ := Option.map_eq_some_iff.mp hcmd
    have hans := answers_teach h hlearn ht
    have hroom : evNum ≠ 0 ∧ s.Accepts (taughtEvent msg) := hack
    rw [if_pos hroom] at hans
    refine ⟨hans, ?_⟩
    rw [receiveMsg_teach hlearn ht, doEvlrn_bLearn]
    exact hlearn

/-- The module acknowledges the frame. -/
def Acknowledges (n : CBUSbase) (msg : CANFrame) : Prop := n.Answers (n.receiveMsg msg) opcWrack []

theorem run_acknowledged (h : n.moduleConfig.Represents s) (hlearn : n.bLearn = true)
    {frames : List CANFrame} {cmds : List StoreCommand}
    (hcmds : frames.map carriedCommand = cmds.map some)
    (hr : ∀ cmd ∈ cmds, cmd.InRange n.moduleConfig.toLayout)
    (hack : Guarded StoreCommand.apply StoreCommand.Acknowledged s cmds) :
    Guarded receiveMsg Acknowledges n frames ∧
      (run receiveMsg n frames).moduleConfig.Represents (run StoreCommand.apply s cmds) := by
  induction frames generalizing n s cmds with
  | nil =>
    rw [List.map_eq_nil_iff.mp hcmds.symm]
    exact ⟨trivial, h⟩
  | cons msg frames ih =>
    cases cmds with
    | nil => exact absurd hcmds (by simp)
    | cons cmd cmds =>
      obtain ⟨hcmd, hcmds⟩ := List.cons.inj hcmds
      obtain ⟨hfirst, hrest⟩ := List.forall_mem_cons.mp hr
      obtain ⟨hans, hlearn', hrep, hlayout⟩ := receiveMsg_acknowledged h hlearn hcmd hfirst hack.1
      obtain ⟨hall, hrun⟩ := ih hrep hlearn' hcmds (hlayout.symm ▸ hrest) hack.2
      exact ⟨⟨hans, hall⟩, hrun⟩

/-- The `EVLRN` frame for an event that was listed and a variable that was read. -/
def restoreFrame (listed read : CANFrame) : CANFrame where
  len := 7
  data := #v[opcEvlrn, listed.data.get 3, listed.data.get 4, listed.data.get 5, listed.data.get 6,
    read.data.get 4, read.data.get 5, 0]

theorem carriedCommand_restoreFrame (listed read : CANFrame) :
    carriedCommand (restoreFrame listed read) =
      some (.teach (listedEvent listed) (read.data.get 4) (read.data.get 5)) := by
  have ht : taughtVariable (restoreFrame listed read) = some (read.data.get 4, read.data.get 5) :=
    taughtVariable_eq_some.mpr (.inl ⟨rfl, rfl, rfl⟩)
  exact carriedCommand_teach ht

def variableNumbers (c : CBUSConfig) : List UInt8 :=
  (List.range' 1 c.eeNumEvs.toNat).map UInt8.ofNat

/-- The frame is the answer to a request for a variable of a slot. -/
def ReadFrom (c : CBUSConfig) (slot k : UInt8) (f : CANFrame) : Prop :=
  ∃ n msg, CBUSbase.moduleConfig n = c ∧ n.isThisNN msg = true ∧ msg.data.get 0 = opcReval ∧
    msg.data.get 3 = slot ∧ msg.data.get 4 = k ∧ n.answer (n.receiveMsg msg) = some f

/-- What a module with this configuration answers to a `NERD` and, for each slot that is listed, to
a `REVAL` of every variable. -/
structure Backup (c : CBUSConfig) (records : List (CANFrame × List CANFrame)) : Prop where
  listed : ∃ n msg, CBUSbase.moduleConfig n = c ∧ n.isThisNN msg = true ∧
    msg.data.get 0 = opcNerd ∧ Accepted n (n.receiveMsg msg) (records.map (·.1))
  read : ∀ r ∈ records, List.Forall₂ (ReadFrom c (r.1.data.get 7)) (variableNumbers c) r.2

def restoreFrames (records : List (CANFrame × List CANFrame)) : List CANFrame :=
  records.flatMap fun r => r.2.map (restoreFrame r.1)

def savedRecord (r : CANFrame × List CANFrame) : EventInfo × List UInt8 :=
  (listedEvent r.1, r.2.map (·.data.get 5))

variable {c : CBUSConfig} {records : List (CANFrame × List CANFrame)}

theorem Accepted.unique {n m : CBUSbase} {fs gs : List CANFrame} (h : Accepted n m fs)
    (h' : Accepted n m gs) : fs = gs := by
  obtain ⟨es, ht, rfl⟩ := h
  obtain ⟨es', ht', rfl⟩ := h'
  rw [List.append_cancel_left (ht.symm.trans ht')]

theorem Carries.get {m : CBUSbase} {f : CANFrame} {opc : UInt8} {bytes : List UInt8}
    (h : m.Carries f opc bytes) {i : ℕ} (hi : i < bytes.length) (h8 : 3 + i < 8) :
    f.data.get ⟨3 + i, h8⟩ = bytes[i] := by
  have hget : (f.data.toList.drop 3).take bytes.length = bytes := h.payload
  have hbyte : ((f.data.toList.drop 3).take bytes.length)[i]? = some bytes[i] := by
    rw [hget, List.getElem?_eq_getElem hi]
  rw [List.getElem?_take_of_lt hi, List.getElem?_drop] at hbyte
  have hindex : f.data[3 + i] = bytes[i] := by simpa [h8] using hbyte
  exact hindex

theorem ReadFrom.value (hc : c.Coherent) {slot k : UInt8} {f : CANFrame} (h : ReadFrom c slot k f)
    (hk : k ≤ c.eeNumEvs) (hused : SlotUsed c slot) :
    f.data.get 4 = k ∧ f.data.get 5 = c.getEventEVval slot k := by
  obtain ⟨n, msg, rfl, hthis, hopc, rfl, rfl, hanswer⟩ := h
  have hsame : n.SendsNothing ({ n with bThisNN := true }.cacheNumbers msg) :=
    SendsNothing.of_trace rfl
  have hreval := answers_doReval hc.hashed hsame rfl hk hused
  rw [← receiveMsg_reval hthis hopc] at hreval
  obtain ⟨f', hf', hcarries⟩ := hreval
  cases hanswer.symm.trans hf'
  exact ⟨hcarries.get (i := 1) (by simp) (by decide), hcarries.get (i := 2) (by simp) (by decide)⟩

theorem Backup.slot (hb : Backup c records) (hc : c.Coherent) :
    ∀ r ∈ records, SlotUsed c (r.1.data.get 7) ∧ c.findExistingEvent (listedEvent r.1).nodeNumber
      (listedEvent r.1).eventNumber = r.1.data.get 7 := by
  obtain ⟨n, msg, rfl, hthis, hopc, hlisted⟩ := hb.listed
  let k := { n with bThisNN := true }.cacheNumbers msg
  have hk : k.moduleConfig.Coherent := hc
  obtain ⟨fs, hfs, hmap, -⟩ := (k.listsEvents_of_coherent hk).listed
  rw [receiveMsg_nerd hthis hopc] at hlisted
  have heq := hlisted.unique hfs
  intro r hr
  have hmem : (r.1.len, r.1.data) ∈ (usedSlots k.moduleConfig).map k.slotResponse := by
    rw [← hmap, ← heq]
    exact List.mem_map_of_mem (List.mem_map_of_mem hr)
  obtain ⟨i, hi, hresponse⟩ := List.mem_map.mp hmem
  have hindex : r.1.data.get 7 = UInt8.ofNat i := by
    rw [← (Prod.mk.inj hresponse).2]
    rfl
  obtain ⟨hlt, hused⟩ := mem_usedSlots.mp hi
  have hnat : (UInt8.ofNat i).toNat = i := by
    have hmax := n.moduleConfig.eeMaxEvents.toNat_lt
    exact StoreCommand.toNat_ofNat_of_lt (hlt.trans hmax)
  have hs : n.moduleConfig.slot i = some (listedEvent r.1) := by
    rw [listedEvent_slotResponse hresponse.symm]
    exact CBUSConfig.slot_eq_some.mpr ⟨rfl, mt CBUSConfig.slot_eq_none.mpr hused⟩
  have hknown : n.moduleConfig.Known
      ⟨(listedEvent r.1).nodeNumber, (listedEvent r.1).eventNumber⟩ := ⟨i, hlt, hs⟩
  have hfind := hc.hashed.find_lt_iff.mpr hknown
  have hsame := hc.distinct_slot i hlt _ hfind _ hs (hc.hashed.slot_find hknown)
  rw [hindex]
  refine ⟨⟨hnat.symm ▸ hlt, hnat.symm ▸ hused⟩, UInt8.toNat_inj.mp ?_⟩
  rw [← hsame, hnat]

theorem mem_variableNumbers {k : UInt8} (h : k ∈ variableNumbers c) : k ≤ c.eeNumEvs := by
  obtain ⟨i, hi, rfl⟩ := List.mem_map.mp h
  have hlt := c.eeNumEvs.toNat_lt
  rw [List.mem_range'_1] at hi
  rw [UInt8.le_iff_toNat_le, StoreCommand.toNat_ofNat_of_lt (by omega)]
  omega

/-- The frames of one slot: the numbers of the variables and their values. -/
theorem Backup.values (hb : Backup c records) (hc : c.Coherent) {r : CANFrame × List CANFrame}
    (hr : r ∈ records) : r.2.map (·.data.get 4) = variableNumbers c ∧
      r.2.map (·.data.get 5) =
        (variableNumbers c).map fun k => c.getEventEVval (r.1.data.get 7) k := by
  have hused := (hb.slot hc r hr).1
  have hread : ∀ {ks fs}, List.Forall₂ (ReadFrom c (r.1.data.get 7)) ks fs →
      (∀ k ∈ ks, k ≤ c.eeNumEvs) → fs.map (·.data.get 4) = ks ∧
        fs.map (·.data.get 5) = ks.map fun k => c.getEventEVval (r.1.data.get 7) k := by
    intro ks fs h
    induction h with
    | nil => exact fun _ => ⟨rfl, rfl⟩
    | cons hf _ ih =>
      intro hle
      obtain ⟨hk, hks⟩ := List.forall_mem_cons.mp hle
      obtain ⟨hnumber, hvalue⟩ := hf.value hc hk hused
      obtain ⟨hnumbers, hvalues⟩ := ih hks
      simp [hnumber, hvalue, hnumbers, hvalues]
  exact hread (hb.read r hr) fun k hk => mem_variableNumbers hk

theorem map_carriedCommand_restoreFrame (listed : CANFrame) {fs : List CANFrame} {k : ℕ}
    (h : fs.map (·.data.get 4) = (List.range' k fs.length).map UInt8.ofNat) :
    (fs.map (restoreFrame listed)).map carriedCommand =
      (StoreCommand.teachFrom (listedEvent listed) k (fs.map (·.data.get 5))).map some := by
  induction fs generalizing k with
  | nil => rfl
  | cons f fs ih =>
    rw [List.length_cons, List.range'_succ, List.map_cons, List.map_cons] at h
    obtain ⟨hf, hfs⟩ := List.cons.inj h
    rw [List.map_cons, List.map_cons, ih hfs, carriedCommand_restoreFrame, hf]
    rfl

theorem Backup.map_carriedCommand (hb : Backup c records) (hc : c.Coherent) :
    (restoreFrames records).map carriedCommand =
      (StoreCommand.teachRecords (records.map savedRecord)).map some := by
  have hall := fun r hr => (hb.values hc (r := r) hr).1
  clear hb
  induction records with
  | nil => rfl
  | cons r records ih =>
    obtain ⟨hfirst, hrest⟩ := List.forall_mem_cons.mp hall
    have hlen : r.2.length = c.eeNumEvs.toNat := by
      have hcount := congrArg List.length hfirst
      simpa [variableNumbers] using hcount
    have hnumbers : r.2.map (·.data.get 4) = (List.range' 1 r.2.length).map UInt8.ofNat := by
      rw [hfirst, hlen]
      rfl
    have hcons := ih hrest
    simp only [restoreFrames, StoreCommand.teachRecords] at hcons ⊢
    rw [List.flatMap_cons, List.map_append, List.map_cons, List.flatMap_cons, List.map_append, hcons,
      map_carriedCommand_restoreFrame r.1 hnumbers]
    rfl

/-- A state of a module that was started on an image without doubles. -/
def Reached (n : CBUSbase) : Prop :=
  ∃ (ram : CBUSbase) (l : Layout) (flash : FlashImage) (es : List StorageEvent), l.Fits ∧
    (CBUSConfig.construct l flash).loaded.NoPairTwice ∧
    Guarded storageStep IndexesInBounds (ram.startUp l flash) es ∧
    n = run storageStep (ram.startUp l flash) es

theorem Reached.represents (h : n.Reached) :
    n.moduleConfig.Represents n.moduleConfig.eventStore := by
  obtain ⟨ram, l, flash, es, hl, hd, hg, rfl⟩ := h
  have hrep := represents_storageSteps (ram.represents_startUp hl hd) hg
  exact CBUSConfig.represents_eventStore hrep.intact hrep.coherent

theorem Backup.records_spec (hb : Backup c records) (h : c.Represents c.eventStore) :
    (records.map fun r => listedEvent r.1).Nodup ∧
      (∀ e, (∃ r ∈ records, listedEvent r.1 = e) ↔ e ∈ c.eventStore.keys) ∧
      records.length = c.numEvents.toNat ∧
      ∀ r ∈ records, ∀ k : UInt8, 1 ≤ k.toNat → k ≤ c.eeNumEvs →
        (savedRecord r).2[k.toNat - 1]? = c.eventStore.field (listedEvent r.1) k := by
  obtain ⟨n, msg, rfl, hthis, hopc, hlisted⟩ := hb.listed
  obtain ⟨fs, hfs, hnodup, hmem⟩ := accepted_nerd h hthis hopc
  cases hlisted.unique hfs
  rw [List.map_map] at hnodup hmem
  have hkeys : ∀ e, (∃ r ∈ records, listedEvent r.1 = e) ↔
      e ∈ n.moduleConfig.eventStore.keys := by
    intro e
    rw [← hmem, List.mem_map]
    rfl
  refine ⟨hnodup, hkeys, ?_, ?_⟩
  · have hset : (records.map fun r => listedEvent r.1).toFinset = n.moduleConfig.eventStore.keys := by
      ext e
      rw [← hkeys, List.mem_toFinset, List.mem_map]
    have hcount := List.toFinset_card_of_nodup hnodup
    rw [List.length_map] at hcount
    rw [h.numEvents_toNat, ← hset]
    exact hcount.symm
  · intro r hr k hk hle
    have hlt := UInt8.le_iff_toNat_le.mp hle
    have h0 : k ≠ 0 := fun hzero => by simp [hzero] at hk
    have hnumber : UInt8.ofNat (1 + (k.toNat - 1)) = k := by
      rw [Nat.add_sub_cancel' hk, UInt8.ofNat_toNat]
    have hvalues : (savedRecord r).2 = _ := (hb.values h.coherent hr).2
    rw [hvalues, variableNumbers, List.map_map, List.getElem?_map, List.getElem?_range' (by omega),
      CBUSConfig.eventStore_field, if_pos ⟨(hkeys _).mp ⟨r, hr, rfl⟩, h0, hle⟩,
      (hb.slot h.coherent r hr).2, Nat.one_mul, Option.map_some, Function.comp_apply, hnumber]

theorem Backup.length_saved (hb : Backup c records) (hc : c.Coherent)
    {r : CANFrame × List CANFrame} (hr : r ∈ records) :
    (savedRecord r).2.length = c.eeNumEvs.toNat := by
  have hvalues : (savedRecord r).2 = _ := (hb.values hc hr).2
  rw [hvalues, variableNumbers, List.length_map, List.length_map, List.length_range']

theorem Backup.inRange (hb : Backup c records) (hc : c.Coherent) {l : Layout}
    (hle : c.eeNumEvs ≤ l.eeNumEvs) :
    ∀ cmd ∈ StoreCommand.teachRecords (records.map savedRecord), cmd.InRange l := by
  intro cmd hcmd
  obtain ⟨record, hrecord, hfrom⟩ := List.mem_flatMap.mp hcmd
  obtain ⟨r, hr, rfl⟩ := List.mem_map.mp hrecord
  obtain ⟨i, v, -, hlt, rfl⟩ := StoreCommand.mem_teachFrom hfrom
  have hmax := c.eeNumEvs.toNat_lt
  rw [hb.length_saved hc hr] at hlt
  refine UInt8.le_trans (UInt8.le_iff_toNat_le.mpr ?_) hle
  rw [UInt8.toNat_ofNat']
  omega

/-- A module that is in learn mode and has room is taught what was read out of another one: it
acknowledges every frame, and then it has the same events with the same variables. -/
theorem restore_backup {a b : CBUSbase} (ha : a.Reached) (hb : b.Reached)
    (hlearn : b.bLearn = true) (hevs : 0 < a.moduleConfig.eeNumEvs)
    (hle : a.moduleConfig.eeNumEvs ≤ b.moduleConfig.eeNumEvs)
    (hroom : a.moduleConfig.numEvents ≤ b.moduleConfig.eeMaxEvents)
    (hbackup : Backup a.moduleConfig records) {clear : CANFrame}
    (hclear : clear.data.get 0 = opcNnclr) :
    Guarded receiveMsg Acknowledges b (clear :: restoreFrames records) ∧
      let c := (run receiveMsg b (clear :: restoreFrames records)).moduleConfig
      c.eventStore.keys = a.moduleConfig.eventStore.keys ∧
        ∀ e k, k ≤ a.moduleConfig.eeNumEvs →
          c.eventStore.field e k = a.moduleConfig.eventStore.field e k := by
  have hrepA := ha.represents
  have hrepB := hb.represents
  obtain ⟨hnodup, hkeys, hcount, hvalues⟩ := hbackup.records_spec hrepA
  have hlength : ∀ r ∈ records.map savedRecord, r.2.length = a.moduleConfig.eeNumEvs.toNat := by
    intro r hr
    obtain ⟨r', hr', rfl⟩ := List.mem_map.mp hr
    exact hbackup.length_saved hrepA.coherent hr'
  have hunused : ∀ r ∈ records.map savedRecord, r.1 ≠ evInfoUnused := by
    intro r hr
    obtain ⟨r', hr', rfl⟩ := List.mem_map.mp hr
    obtain ⟨i, -, hs⟩ := (hrepA.keys _).mp ((hkeys _).mp ⟨r', hr', rfl⟩)
    exact (CBUSConfig.slot_eq_some.mp hs).2
  have hpos := UInt8.lt_iff_toNat_lt.mp hevs
  have hmax := a.moduleConfig.eeNumEvs.toNat_lt
  obtain ⟨hack, hrestored⟩ := StoreCommand.run_teachRecords
    (s := (.empty : EventStore b.moduleConfig.eeMaxEvents.toNat))
    (by rwa [List.map_map]) (fun r hr => ⟨Finset.notMem_empty r.1, hunused r hr⟩)
    (fun r hr => ⟨List.length_pos_iff.mp (hlength r hr ▸ hpos), hlength r hr ▸ hmax⟩)
    (by
      rw [List.length_map, hcount]
      exact (Nat.zero_add _).trans_le (UInt8.le_iff_toNat_le.mp hroom))
  have hcmds : (clear :: restoreFrames records).map carriedCommand =
      (.clear :: StoreCommand.teachRecords (records.map savedRecord)).map some := by
    rw [List.map_cons, List.map_cons, hbackup.map_carriedCommand hrepA.coherent]
    exact congrArg (· :: _) (if_pos hclear)
  obtain ⟨hall, hrep⟩ := run_acknowledged hrepB hlearn hcmds
    (List.forall_mem_cons.mpr ⟨trivial, hbackup.inRange hrepA.coherent hle⟩) ⟨trivial, hack⟩
  refine ⟨hall, ?_⟩
  intro c
  have hsame : c.eventStore.keys = a.moduleConfig.eventStore.keys := by
    ext e
    rw [hrep.eventStore_keys, ← hkeys]
    refine (hrestored.keys e).trans ?_
    constructor
    · rintro (hnone | ⟨_, hmem, rfl⟩)
      · exact absurd hnone (Finset.notMem_empty e)
      · obtain ⟨r, hr, rfl⟩ := List.mem_map.mp hmem
        exact ⟨r, hr, rfl⟩
    · rintro ⟨r, hr, rfl⟩
      exact .inr ⟨_, List.mem_map_of_mem hr, rfl⟩
  refine ⟨hsame, fun e k hk => ?_⟩
  by_cases hstored : e ∈ a.moduleConfig.eventStore.keys ∧ k ≠ 0
  · obtain ⟨r, hr, rfl⟩ := (hkeys e).mpr hstored.1
    have hone : 1 ≤ k.toNat :=
      Nat.one_le_iff_ne_zero.mpr fun hz => hstored.2 (UInt8.toNat_inj.mp hz)
    have hmem := List.mem_map_of_mem (f := savedRecord) hr
    have hfield := hrestored.own _ hmem k hone (hlength _ hmem ▸ UInt8.le_iff_toNat_le.mp hk)
    rw [hvalues r hr k hone hk] at hfield
    have hsome := a.moduleConfig.eventStore_field (listedEvent r.1) k
    rw [if_pos ⟨hstored.1, hstored.2, hk⟩] at hsome
    exact (hrep.eventStore_field (hfield.trans hsome)).trans hsome.symm
  · rw [c.eventStore_field, a.moduleConfig.eventStore_field, hsame,
      if_neg fun h => hstored ⟨h.1, h.2.1⟩, if_neg fun h => hstored ⟨h.1, h.2.1⟩]

def blankModule : CBUSbase :=
  run storageStep (smallModule.startUp CBUSConfig.smallLayout smallFlash)
    [.event (.received learnFrame 0)]

def savedModule : CBUSbase :=
  run storageStep (smallModule.startUp CBUSConfig.smallLayout smallFlash)
    [.event (.received learnFrame 0), .event (.received teachFrame 0)]

/-- The answers of the small module to `NERD` and `REVAL`. -/
def savedRecords : List (CANFrame × List CANFrame) :=
  [({ id := 1413, len := 8, data := #v[opcEnrsp, 1, 2, 0, 1, 0, 2, 0] },
    [{ id := 5, len := 6, data := #v[opcNeval, 1, 2, 0, 1, 5, 0, 0] }])]

theorem reached_of_append (ps rest : List StorageEvent) (h : ps ++ rest = teachAndRestart) :
    (run storageStep (smallModule.startUp CBUSConfig.smallLayout smallFlash) ps).Reached := by
  have hg := indexesInBounds_teachAndRestart
  rw [← h] at hg
  exact ⟨smallModule, CBUSConfig.smallLayout, smallFlash, ps, CBUSConfig.smallLayout_fits,
    smallFlash_noPairTwice, hg.of_append, rfl⟩

theorem backup_savedModule : Backup savedModule.moduleConfig savedRecords := by
  constructor
  · refine ⟨savedModule, { len := 3, data := #v[opcNerd, 1, 2, 0, 0, 0, 0, 0] }, rfl,
      by decide +kernel, rfl,
      [.sendMessage { len := 8, data := #v[opcEnrsp, 1, 2, 0, 1, 0, 2, 0] },
        .transmitted { id := 1413, len := 8, data := #v[opcEnrsp, 1, 2, 0, 1, 0, 2, 0] }],
      by decide +kernel, rfl⟩
  · rintro r hr
    cases List.mem_singleton.mp hr
    have hnumbers : variableNumbers savedModule.moduleConfig = [1] := by decide +kernel
    rw [hnumbers]
    refine .cons ⟨savedModule, { len := 5, data := #v[opcReval, 1, 2, 0, 1, 0, 0, 0] }, rfl,
      by decide +kernel, rfl, rfl, rfl, by decide +kernel⟩ .nil

theorem restore_backup_savedModule :
    Guarded receiveMsg Acknowledges blankModule
        ({ len := 3, data := #v[opcNnclr, 1, 2, 0, 0, 0, 0, 0] } :: restoreFrames savedRecords) ∧
      let c := (run receiveMsg blankModule
        ({ len := 3, data := #v[opcNnclr, 1, 2, 0, 0, 0, 0, 0] } ::
          restoreFrames savedRecords)).moduleConfig
      c.eventStore.keys = savedModule.moduleConfig.eventStore.keys ∧
        ∀ e k, k ≤ savedModule.moduleConfig.eeNumEvs →
          c.eventStore.field e k = savedModule.moduleConfig.eventStore.field e k :=
  restore_backup
    (reached_of_append [.event (.received learnFrame 0), .event (.received teachFrame 0)]
      [.restart smallModule] rfl)
    (reached_of_append [.event (.received learnFrame 0)]
      [.event (.received teachFrame 0), .restart smallModule] rfl)
    (by decide +kernel) (by decide +kernel) (by decide +kernel) (by decide +kernel)
    backup_savedModule rfl

end CBUSbase
end CBUSPicoLib
