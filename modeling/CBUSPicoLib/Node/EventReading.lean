import CBUSPicoLib.Node.NodeVariables
import CBUSPicoLib.Node.Unlearning

/-!
# Reading event variables

`REVAL` names a slot of the table, `REQEV` an event. `doReqev` does not look the event up:
it takes the low byte of the event number for the slot. What it answers is the variable of
whatever event is stored there.
-/

namespace CBUSPicoLib

open TaggedTable

namespace CBUSConfig

/-- Some slot stores the event, with this value of the variable. -/
def HoldsVariable (c : CBUSConfig) (e : EventInfo) (k v : UInt8) : Prop :=
  ∃ i : UInt8, i.toNat < c.eeMaxEvents.toNat ∧ c.slot i.toNat = some e ∧ c.getEventEVval i k = v

variable {c c' : CBUSConfig} {e : EventInfo} {k v : UInt8}

theorem HoldsVariable.congr (h : c.HoldsVariable e k v) (hp : c.Placed) (hk : k ≤ c.eeNumEvs)
    (hu : c'.eventRam = c.eventRam)
    (himage : ∀ a, c.InEvents a → c'.flashBuf.read 0xFF a = c.flashBuf.read 0xFF a) :
    c'.HoldsVariable e k v := by
  obtain ⟨i, hi, hs, hv⟩ := h
  have hl : c'.toLayout = c.toLayout := congrArg Prod.fst hu
  have hk' : k.toNat ≤ c.eeNumEvs.toNat := UInt8.le_iff_toNat_le.mp hk
  have hlt := k.toNat_lt
  refine ⟨i, hl ▸ hi, ?_, ?_⟩
  · have hread : c'.readEvent i = c.readEvent i := by
      apply hp.readEvent_congr hu hi
      intro m hm
      exact himage _ (Layout.slotBase_add_inEvents hi (by omega))
    rw [slot_eq_some, UInt8.ofNat_toNat] at hs ⊢
    rwa [hread]
  · rw [getEventEVval_eq, slotByte_congr hu, ← hv, getEventEVval_eq, hp.slotByte hi (by omega)]
    exact himage _ (Layout.slotBase_add_inEvents hi (by omega))

theorem HoldsVariable.sameTables (h : c.HoldsVariable e k v) (hp : c.Placed) (hk : k ≤ c.eeNumEvs)
    (hs : SameTables c c') : c'.HoldsVariable e k v :=
  h.congr hp hk hs.ram fun a ha => hs.image a (hp.fits.events a ha).1

theorem HoldsVariable.writeNV (h : c.HoldsVariable e k v) (hp : c.Placed) (hk : k ≤ c.eeNumEvs)
    {idx w : UInt8} (h0 : idx ≠ 0) (hi : idx ≤ c.eeNumNvs) :
    (c.writeNV idx w).HoldsVariable e k v := by
  apply h.congr hp hk (c.writeNV_eventRam idx w)
  intro a ha
  rw [CBUSConfig.writeNV_eq]
  rw [writeEEPROM_flashBuf]
  apply Memory.read_write_ne
  intro he
  apply hp.fits.disjoint a ha
  rw [he]
  exact writeNV_inNvs hp h0 hi

theorem HoldsVariable.unlearnEvent (h : c.HoldsVariable e k v) (hc : c.Coherent) (hp : c.Placed)
    (hk : k ≤ c.eeNumEvs) {nn en : UInt16} (hknown : c.Known ⟨nn, en⟩) (hne : e ≠ ⟨nn, en⟩) :
    (c.unlearnEvent (c.findExistingEvent nn en)).HoldsVariable e k v := by
  obtain ⟨i, hi, hs, hv⟩ := h
  have hfind := hc.hashed.find_lt_iff.mpr hknown
  have hother : i ≠ c.findExistingEvent nn en := by
    intro he
    rw [he, hc.hashed.slot_find hknown] at hs
    exact hne (Option.some.inj hs).symm
  refine ⟨i, ?_, ?_, ?_⟩
  · rwa [unlearnEvent_toLayout]
  · rw [hp.spaced.slot_unlearnEvent hfind hi, if_neg fun he => hother (UInt8.toNat_inj.mp he)]
    exact hs
  · rw [hp.spaced.getEventEVval_unlearnEvent hfind hi hother hk]
    exact hv

theorem getEventEVval_learnEvent_ne {idx evNum evVal : UInt8} (hk0 : k ≠ 0) (hne : k ≠ evNum) :
    (c.learnEvent idx e evNum evVal).getEventEVval idx k = c.getEventEVval idx k := by
  have hk := k.toNat_lt
  have hev := evNum.toNat_lt
  have hne' : k.toNat ≠ evNum.toNat := fun he => hne (UInt8.toNat_inj.mp he)
  rw [getEventEVval_eq, getEventEVval_eq, slotByte_learnEvent,
    read_learnEvent (c.variableByte_ne idx hk0), if_neg]
  rintro ⟨he, -⟩
  have hsame := c.slotByte_inj idx (by omega) (by omega) he
  omega

theorem HoldsVariable.learnEvent (h : c.HoldsVariable e k v) (hc : c.Coherent) (hp : c.Placed)
    (hk0 : k ≠ 0) (hk : k ≤ c.eeNumEvs) {nn en : UInt16} {evNum evVal : UInt8} (h0 : evNum ≠ 0)
    (hev : evNum ≤ c.eeNumEvs) (hslot : (c.learnSlot nn en).toNat < c.eeMaxEvents.toNat)
    (hne : e ≠ ⟨nn, en⟩ ∨ k ≠ evNum) :
    (c.learnEvent (c.learnSlot nn en) ⟨nn, en⟩ evNum evVal).HoldsVariable e k v := by
  obtain ⟨i, hi, hs, hv⟩ := h
  have hh := hc.hashed
  have hlearned : Learned c (c.learnEvent (c.learnSlot nn en) ⟨nn, en⟩ evNum evVal)
      (c.learnSlot nn en) ⟨nn, en⟩ evNum evVal := hh.learnEvent hp.spaced hslot h0 (Or.inl hev)
  have hl := hlearned.layout
  -- if this slot is the taught one, the event is the taught one
  have hown : i.toNat = (c.learnSlot nn en).toNat → e = ⟨nn, en⟩ := by
    intro hsame
    by_contra hother
    exact hh.learnSlot_ne hslot hother (hsame ▸ hs)
  refine ⟨i, hl ▸ hi, ?_, ?_⟩
  · by_cases hsame : i.toNat = (c.learnSlot nn en).toNat
    · have he := hown hsame
      have hread := hlearned.own_known hh h0 ⟨i.toNat, hi, he ▸ hs⟩
      rw [he, hsame, slot_eq_some, UInt8.ofNat_toNat]
      exact ⟨hread, he ▸ (slot_eq_some.mp hs).2⟩
    · rw [hlearned.slot_ne hi hsame]
      exact hs
  · rw [← hv]
    by_cases hsame : i = c.learnSlot nn en
    · have hkne : k ≠ evNum := hne.resolve_left (not_not.mpr (hown (congrArg UInt8.toNat hsame)))
      rw [hsame]
      exact getEventEVval_learnEvent_ne hk0 hkne
    · have himage := (@learnEvent_outside_iff c (c.learnSlot nn en) evNum evVal ⟨nn, en⟩).mpr
        (Or.inl hev)
      exact CBUSbase.getEventEVval_learnEvent_other hp.spaced himage hslot hi hsame hk

theorem Coherent.holdsVariable_iff (hc : c.Coherent) {i : UInt8}
    (hi : i.toNat < c.eeMaxEvents.toNat) (hs : c.slot i.toNat = some e) :
    c.HoldsVariable e k v ↔ c.getEventEVval i k = v := by
  constructor
  · rintro ⟨j, hj, hsj, hv⟩
    have he := hc.distinct_slot j.toNat hj i.toNat hi e hsj hs
    rwa [UInt8.toNat_inj.mp he] at hv
  · exact fun hv => ⟨i, hi, hs, hv⟩

end CBUSConfig

namespace CBUSbase

/-- The variable indexes that a frame writes through are in range. -/
def IndexesInRange (n : CBUSbase) (msg : CANFrame) : Prop :=
  (∀ evNum evVal, taughtVariable msg = some (evNum, evVal) → evNum ≤ n.moduleConfig.eeNumEvs) ∧
    (msg.data.get 0 = opcNvset →
      msg.data.get 3 ≠ 0 ∧ msg.data.get 3 ≤ n.moduleConfig.eeNumNvs)

/-- The frame teaches this variable of the event anew, or removes the event. -/
def Overrides (n : CBUSbase) (msg : CANFrame) (e : EventInfo) (k : UInt8) : Prop :=
  n.bLearn = true ∧ (msg.data.get 0 = opcNnclr ∨
    taughtEvent msg = e ∧ (msg.data.get 0 = opcEvuln ∨ ∃ v, taughtVariable msg = some (k, v)))

/-- `v` is the value last taught for variable `k` of the event: a teach command has stored it,
and since then no frame has overridden it. -/
inductive LastTaught (e : EventInfo) (k v : UInt8) : CBUSbase → Prop
  | teach {n : CBUSbase} {msg : CANFrame} (stored : n.Stored) (learn : n.bLearn = true)
      (event : taughtEvent msg = e) (taught : taughtVariable msg = some (k, v))
      (inRange : n.IndexesInRange msg) (ack : n.Answers (n.receiveMsg msg) opcWrack [])
      (known : (n.receiveMsg msg).moduleConfig.Known e) : LastTaught e k v (n.receiveMsg msg)
  | frame {n : CBUSbase} {msg : CANFrame} (before : LastTaught e k v n)
      (inRange : n.IndexesInRange msg) (keeps : ¬ n.Overrides msg e k) :
      LastTaught e k v (n.receiveMsg msg)
  | identity {n m : CBUSbase} (before : LastTaught e k v n)
      (tables : CBUSConfig.SameTables n.moduleConfig m.moduleConfig) : LastTaught e k v m

/-- What is taught last is what the event's slot holds. -/
structure HoldsTaught (n : CBUSbase) (e : EventInfo) (k v : UInt8) : Prop where
  stored : n.Stored
  nonzero : k ≠ 0
  inRange : k ≤ n.moduleConfig.eeNumEvs
  value : n.moduleConfig.HoldsVariable e k v

variable {n m : CBUSbase} {e : EventInfo} {k v : UInt8} {msg : CANFrame}

theorem HoldsTaught.congr (h : n.HoldsTaught e k v) (hc : m.moduleConfig = n.moduleConfig) :
    m.HoldsTaught e k v :=
  ⟨h.stored.congr hc, h.nonzero, hc ▸ h.inRange, hc ▸ h.value⟩

theorem HoldsTaught.sameTables (h : n.HoldsTaught e k v)
    (hs : CBUSConfig.SameTables n.moduleConfig m.moduleConfig) : m.HoldsTaught e k v := by
  have hp := h.stored.placed
  refine ⟨⟨hp.of_eventRam hs.ram, hs.coherent hp h.stored.coherent⟩, h.nonzero, ?_, ?_⟩
  · rw [hs.toLayout]
    exact h.inRange
  · exact h.value.sameTables hp h.inRange hs

/-- A step for a frame that does not override the variable keeps its value. -/
theorem CommandStep.holdsVariable (step : CommandStep n msg m) (h : n.HoldsTaught e k v)
    (hcached : (⟨n.nodeNumber, n.eventNumber⟩ : EventInfo) = taughtEvent msg)
    (hr : n.IndexesInRange msg) (hkeep : ¬ n.Overrides msg e k) :
    m.moduleConfig.HoldsVariable e k v := by
  have hp := h.stored.placed
  have hc := h.stored.coherent
  cases step with
  | keep => exact h.value
  | leaveLearn => exact h.value
  | enterLearn => exact h.value
  | nnclr learn opc => exact absurd ⟨learn, Or.inl opc⟩ hkeep
  | evuln learn opc index found valid =>
    have hne : e ≠ ⟨n.nodeNumber, n.eventNumber⟩ := by
      intro he
      exact hkeep ⟨learn, Or.inr ⟨hcached.symm.trans he.symm, Or.inl opc⟩⟩
    have hknown := hc.hashed.find_lt_iff.mp (found ▸ valid)
    rw [found]
    exact h.value.unlearnEvent hc hp h.inRange hknown hne
  | evlrn learn evNum evVal opc nonzero valid =>
    have ht : taughtVariable msg = some (evNum, evVal) := by
      rcases opc with ⟨ho, rfl, rfl⟩ | ⟨ho, rfl, rfl⟩
      · rw [taughtVariable, if_pos ho]
      · rw [taughtVariable, if_neg (by rw [ho]; decide), if_pos ho]
    have hne : e ≠ ⟨n.nodeNumber, n.eventNumber⟩ ∨ k ≠ evNum := by
      by_contra hboth
      rw [not_or, not_not, not_not] at hboth
      obtain ⟨he, rfl⟩ := hboth
      exact hkeep ⟨learn, Or.inr ⟨hcached.symm.trans he.symm, Or.inr ⟨evVal, ht⟩⟩⟩
    exact h.value.learnEvent hc hp h.nonzero h.inRange nonzero (hr.1 evNum evVal ht) valid hne
  | nvset _ opc => exact h.value.writeNV hp h.inRange (hr.2 opc).1 (hr.2 opc).2
  | canid => exact h.value.sameTables hp h.inRange (CBUSConfig.sameTables_setCANID _ _)
  | enum =>
    rw [n.doEnum_moduleConfig true]
    exact h.value
  | snn =>
    rw [indicateFLiMMode_moduleConfig]
    exact h.value.sameTables hp h.inRange
      ((CBUSConfig.sameTables_setNodeNum n.moduleConfig n.nodeNumber.toUInt32).trans
        (CBUSConfig.sameTables_setFLiM _ true))

/-- A received frame whose indexes are in range keeps the table coherent and placed. -/
theorem Stored.receiveMsg (h : n.Stored) (hr : n.IndexesInRange msg) :
    (n.receiveMsg msg).Stored := by
  unfold CBUSbase.receiveMsg CBUSbase.parseCBUSMsg
  split_ifs
  · exact h.congr (parseCBUSEvent_moduleConfig _ msg)
  · exact h.receiveCmd (writesInPlace_of_inRange h.placed hr.1 hr.2)

theorem HoldsTaught.receiveMsg (h : n.HoldsTaught e k v) (hr : n.IndexesInRange msg)
    (hkeep : ¬ n.Overrides msg e k) : (n.receiveMsg msg).HoldsTaught e k v := by
  have hstored := h.stored.receiveMsg hr
  unfold CBUSbase.receiveMsg CBUSbase.parseCBUSMsg at hstored ⊢
  split_ifs at hstored ⊢
  · exact h.congr (parseCBUSEvent_moduleConfig _ msg)
  · obtain ⟨m, step, hreplies⟩ := parseFLiMCmd_handles { n with bThisNN := n.isThisNN msg } msg
    have hcached : ({ n with bThisNN := n.isThisNN msg }.cacheNumbers msg).HoldsTaught e k v :=
      h.congr rfl
    refine ⟨hstored, h.nonzero, ?_, ?_⟩
    · rw [hreplies.moduleConfig, step.keeps.layout]
      exact h.inRange
    · rw [hreplies.moduleConfig]
      exact step.holdsVariable hcached rfl hr hkeep

theorem holdsTaught_teach (h : n.Stored) (hlearn : n.bLearn = true)
    (ht : taughtVariable msg = some (k, v)) (hr : n.IndexesInRange msg)
    (hack : n.Answers (n.receiveMsg msg) opcWrack [])
    (hknown : (n.receiveMsg msg).moduleConfig.Known (taughtEvent msg)) :
    (n.receiveMsg msg).HoldsTaught (taughtEvent msg) k v := by
  have hh := h.coherent.hashed
  rcases receiveMsg_teach_cases hlearn ht with ⟨h0, hi, -, hconfig⟩ | ⟨-, herr, -⟩
  · have hev := hr.1 k v ht
    have hlearned := @CBUSConfig.Hashed.learnEvent _ _ k v (taughtEvent msg) hh h.placed.spaced hi
      h0 (Or.inl hev)
    rw [← hconfig] at hlearned
    obtain ⟨hfind, hread⟩ := hlearned.find hh hi h0 hknown
    have hvalue := hlearned.value.mpr (h.placed.variableReadsBack hi hev)
    have hl := hlearned.layout
    obtain ⟨_, _, hs⟩ := hknown
    have hused : taughtEvent msg ≠ evInfoUnused := (CBUSConfig.slot_eq_some.mp hs).2
    refine ⟨h.receiveMsg hr, h0, hl ▸ hev, n.taughtSlot msg, hl ▸ hi, ?_, hvalue⟩
    rw [CBUSConfig.slot_eq_some, UInt8.ofNat_toNat]
    exact ⟨hread, hused⟩
  · exact absurd (hack.unique herr).1 (by decide)

theorem LastTaught.holdsTaught (h : LastTaught e k v n) : n.HoldsTaught e k v := by
  induction h with
  | teach stored learn event taught inRange ack known =>
    subst event
    exact holdsTaught_teach stored learn taught inRange ack known
  | frame _ inRange keeps ih => exact ih.receiveMsg inRange keeps
  | identity _ tables ih => exact ih.sameTables tables

theorem receiveMsg_reqev (hlearn : n.bLearn = true) (hopc : msg.data.get 0 = opcReqev) :
    n.receiveMsg msg =
      ({ n with bThisNN := n.isThisNN msg }.cacheNumbers msg).doReqev (msg.data.get 5) := by
  let p := { n with bThisNN := n.isThisNN msg }.cacheNumbers msg
  have hcmd : p.learnCmd msg = (true, p.doReqev (msg.data.get 5)) := by
    simp [learnCmd, hopc, opcReqev, opcNnlrn, opcNnuln, opcNnclr, opcEvuln, opcEvlrn, opcEvlrni]
  have hevent : isEvent msg = false := by
    unfold isEvent
    rw [hopc]
    decide
  rw [receiveMsg_command hevent]
  exact parseFLiMCmd_learn hlearn hcmd

theorem receiveMsg_reval (hthis : n.isThisNN msg = true) (hopc : msg.data.get 0 = opcReval) :
    n.receiveMsg msg = ({ n with bThisNN := true }.cacheNumbers msg).doReval (msg.data.get 3)
      (msg.data.get 4) := by
  apply receiveMsg_thisNN hthis
  · unfold isEvent
    rw [hopc]
    decide
  · intro p
    simp [learnCmd, hopc, opcReval, opcNnlrn, opcNnuln, opcNnclr, opcEvuln, opcEvlrn, opcEvlrni,
      opcReqev]
  · simp [thisNNCmd, hopc, opcReval, opcRqnpn, opcNnlrn, opcNnevn, opcNerd, opcNenrd, opcRqevn,
      opcNvrd, opcNvset]

/-- The slot that `doReqev` reads: the low byte of the event number. -/
def reqevSlot (msg : CANFrame) : UInt8 := (taughtEvent msg).eventNumber.toUInt8

/-- The slot is one of the table and stores an event. -/
def SlotUsed (c : CBUSConfig) (i : UInt8) : Prop :=
  i.toNat < c.eeMaxEvents.toNat ∧ c.slot i.toNat ≠ none

theorem getEvTableEntry_ne_zero_iff {c : CBUSConfig} (hh : c.Hashed) (i : UInt8) :
    c.getEvTableEntry i ≠ 0 ↔ SlotUsed c i := by
  by_cases hi : i.toNat < c.eeMaxEvents.toNat
  · rw [ne_eq, hh.getEvTableEntry_eq_zero_iff hi]
    exact ⟨fun h => ⟨hi, h⟩, fun h => h.2⟩
  · have hout : c.getEvTableEntry i = 0 := if_neg (mt UInt8.lt_iff_toNat_lt.mp hi)
    exact iff_of_false (not_not.mpr hout) fun h => hi h.1

theorem receiveMsg_reqev_cases (hlearn : n.bLearn = true) (hh : n.moduleConfig.Hashed)
    (hopc : msg.data.get 0 = opcReqev) :
    (msg.data.get 5 ≤ n.moduleConfig.eeNumEvs → SlotUsed n.moduleConfig (reqevSlot msg) →
      n.Answers (n.receiveMsg msg) opcNeval [reqevSlot msg, msg.data.get 5,
        n.moduleConfig.getEventEVval (reqevSlot msg) (msg.data.get 5)]) ∧
    (¬ (msg.data.get 5 ≤ n.moduleConfig.eeNumEvs ∧ SlotUsed n.moduleConfig (reqevSlot msg)) →
      ∃ cerrno, n.Answers (n.receiveMsg msg) opcCmderr [cerrno]) := by
  rw [receiveMsg_reqev hlearn hopc]
  let p := { n with bThisNN := n.isThisNN msg }.cacheNumbers msg
  have hsame : n.SendsNothing p := SendsNothing.of_trace rfl
  have hentry := getEvTableEntry_ne_zero_iff hh (reqevSlot msg)
  constructor
  · intro hev hused
    have hans : p.doReqev (msg.data.get 5) = p.sendOpcMyNN opcNeval 3 (reqevSlot msg)
        (msg.data.get 5) (n.moduleConfig.getEventEVval (reqevSlot msg) (msg.data.get 5)) :=
      (if_neg (UInt8.not_lt.mpr hev)).trans (if_pos (hentry.mpr hused))
    rw [hans]
    exact answers_sendOpcMyNN hsame opcNeval (by decide) _ _ _ 0 0
  · intro hno
    by_cases hev : msg.data.get 5 ≤ n.moduleConfig.eeNumEvs
    · have hans : p.doReqev (msg.data.get 5) = p.sendCMDERR cmderrInvalidEvent :=
        (if_neg (UInt8.not_lt.mpr hev)).trans (if_neg fun h => hno ⟨hev, hentry.mp h⟩)
      rw [hans]
      exact ⟨_, answers_sendCMDERR hsame _⟩
    · have hans : p.doReqev (msg.data.get 5) = p.sendCMDERR cmderrInvEvIdx :=
        if_pos (UInt8.not_le.mp hev)
      rw [hans]
      exact ⟨_, answers_sendCMDERR hsame _⟩

theorem answers_doReval (hh : n.moduleConfig.Hashed) {p : CBUSbase} (hsame : n.SendsNothing p)
    (hc : p.moduleConfig = n.moduleConfig) {i k : UInt8} (hk : k ≤ n.moduleConfig.eeNumEvs)
    (hi : SlotUsed n.moduleConfig i) :
    n.Answers (p.doReval i k) opcNeval [i, k, n.moduleConfig.getEventEVval i k] := by
  have hused : n.moduleConfig.readEvent i ≠ evInfoUnused := by
    have hs := mt CBUSConfig.slot_eq_none.mpr hi.2
    rwa [UInt8.ofNat_toNat] at hs
  rw [doReval_stored p (hc ▸ hh) (hc ▸ hk) (hc ▸ hi.1) (by rw [hc]; exact hused), hc]
  exact answers_sendOpcMyNN hsame opcNeval (by decide) _ _ _ 0 0

/-- `REQEV` of a variable of an event, against `REVAL` of its slot. -/
structure ReadsByEvent (n : CBUSbase) (msg : CANFrame) : Prop where
  learned : ∀ i : UInt8, i.toNat < n.moduleConfig.eeMaxEvents.toNat →
    n.moduleConfig.slot i.toNat = some (taughtEvent msg) →
    msg.data.get 5 ≠ 0 → msg.data.get 5 ≤ n.moduleConfig.eeNumEvs →
    ∃ index v, n.Answers (n.receiveMsg msg) opcNeval [index, msg.data.get 5, v] ∧
      n.Answers (n.doReval i (msg.data.get 5)) opcNeval [i, msg.data.get 5, v] ∧
      (∀ r, n.isThisNN r = true → r.data.get 0 = opcReval → r.data.get 3 = i →
        r.data.get 4 = msg.data.get 5 →
        n.Answers (n.receiveMsg r) opcNeval [i, msg.data.get 5, v]) ∧
      ∀ w, LastTaught (taughtEvent msg) (msg.data.get 5) w n → w = v
  notLearned : ¬ n.moduleConfig.Known (taughtEvent msg) →
    ∃ cerrno, n.Answers (n.receiveMsg msg) opcCmderr [cerrno]

/-- The slot numbered by the low byte of the event number holds what it should: for a learned
event the same variable, for another event nothing. -/
structure LowByteAgrees (c : CBUSConfig) (e : EventInfo) (k : UInt8) : Prop where
  learned : ∀ i : UInt8, i.toNat < c.eeMaxEvents.toNat → c.slot i.toNat = some e →
    k ≠ 0 → k ≤ c.eeNumEvs → SlotUsed c e.eventNumber.toUInt8 ∧
      c.getEventEVval e.eventNumber.toUInt8 k = c.getEventEVval i k
  notLearned : ¬ c.Known e → k ≤ c.eeNumEvs → ¬ SlotUsed c e.eventNumber.toUInt8

/-- In every learn-mode state with a coherent table: `REQEV` reads what `REVAL` reads, the value
last taught, exactly if the slot numbered by the low byte of the event number agrees. -/
theorem readsByEvent_iff (n : CBUSbase) (hlearn : n.bLearn = true) (hc : n.moduleConfig.Coherent)
    (msg : CANFrame) (hopc : msg.data.get 0 = opcReqev) :
    n.ReadsByEvent msg ↔ LowByteAgrees n.moduleConfig (taughtEvent msg) (msg.data.get 5) := by
  have hh := hc.hashed
  obtain ⟨hvalue, herr⟩ := receiveMsg_reqev_cases hlearn hh hopc
  constructor
  · intro h
    constructor
    · intro i hi hs h0 hev
      have hused : SlotUsed n.moduleConfig i := ⟨hi, by rw [hs]; simp⟩
      obtain ⟨index, v, hreqev, hreval, -⟩ := h.learned i hi hs h0 hev
      have hv := (hreval.unique (answers_doReval hh (SendsNothing.of_trace rfl) rfl hev hused)).2
      by_cases hlow : SlotUsed n.moduleConfig (reqevSlot msg)
      · have hw := (hreqev.unique (hvalue hev hlow)).2
        simp only [List.cons.injEq, and_true, true_and] at hv hw
        exact ⟨hlow, hw.2.symm.trans hv⟩
      · obtain ⟨cerrno, hans⟩ := herr fun hboth => hlow hboth.2
        exact absurd (hreqev.unique hans).1 (by decide)
    · intro hk hev hlow
      obtain ⟨cerrno, hans⟩ := h.notLearned hk
      exact absurd (hans.unique (hvalue hev hlow)).1 (by decide)
  · intro h
    constructor
    · intro i hi hs h0 hev
      have hused : SlotUsed n.moduleConfig i := ⟨hi, by rw [hs]; simp⟩
      obtain ⟨hlow, hsame⟩ := h.learned i hi hs h0 hev
      refine ⟨reqevSlot msg, n.moduleConfig.getEventEVval i (msg.data.get 5), ?_, ?_, ?_, ?_⟩
      · rw [← hsame]
        exact hvalue hev hlow
      · exact answers_doReval hh (SendsNothing.of_trace rfl) rfl hev hused
      · intro r hthis hopcr hr3 hr4
        let p := { n with bThisNN := true }.cacheNumbers r
        have hsilent : n.SendsNothing p := SendsNothing.of_trace rfl
        rw [receiveMsg_reval hthis hopcr, hr3, hr4]
        exact answers_doReval hh hsilent rfl hev hused
      · intro w hw
        exact ((hc.holdsVariable_iff hi hs).mp hw.holdsTaught.value).symm
    · intro hk
      apply herr
      rintro ⟨hev, hlow⟩
      exact h.notLearned hk hev hlow

def reqevFrame : CANFrame := { len := 6, data := #v[opcReqev, 0, 0, 0, 1, 1, 0, 0] }

theorem readsByEvent_iff_reqevFrame :
    learnedModule.ReadsByEvent reqevFrame ↔
      LowByteAgrees learnedModule.moduleConfig (taughtEvent reqevFrame) (reqevFrame.data.get 5) :=
  readsByEvent_iff learnedModule rfl learnedModule_stored.coherent reqevFrame (by decide)

/-- Event 1 is in slot 0, and slot 1 is unused. -/
theorem not_readsByEvent_reqevFrame :
    learnedModule.bLearn = true ∧ learnedModule.moduleConfig.Coherent ∧
      reqevFrame.data.get 0 = opcReqev ∧ ¬ learnedModule.ReadsByEvent reqevFrame := by
  refine ⟨rfl, learnedModule_stored.coherent, by decide, fun h => ?_⟩
  have hslot : learnedModule.moduleConfig.slot (0 : UInt8).toNat = some (taughtEvent reqevFrame) := by
    decide +kernel
  obtain ⟨index, v, hans, -⟩ := h.learned 0 (by decide +kernel) hslot (by decide) (by decide)
  have hfree : ¬ SlotUsed learnedModule.moduleConfig (reqevSlot reqevFrame) := by
    rintro ⟨-, hused⟩
    exact hused (by decide +kernel)
  obtain ⟨cerrno, herr⟩ := (@receiveMsg_reqev_cases learnedModule reqevFrame rfl
    learnedModule_stored.coherent.hashed (by decide)).2 fun hboth => hfree hboth.2
  exact absurd (hans.unique herr).1 (by decide)

end CBUSbase
end CBUSPicoLib
