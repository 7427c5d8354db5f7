import CBUSPicoLib.Node.Process
import CBUSPicoLib.Node.Storage

/-!
# Which frames may change the stored configuration

`NNCLR` is the one command of learn mode that does not compare the node number
of the frame with our own. Every other frame that changes the flash image or the
hash table is one of those listed in `Permitted`.
-/

namespace CBUSPicoLib

namespace CBUSConfig

/-- Cache and flash agree, and the hash table has an entry for every slot. -/
structure Settled (c : CBUSConfig) : Prop where
  synced : c.Synced
  allocated : c.evhashtbl.length = c.eeMaxEvents.toNat

/-- The same of a module whose layout fits. -/
structure Intact (c : CBUSConfig) : Prop extends Settled c where
  placed : c.Placed

/-- What every operation of the module does, wherever the areas lie: they stay where they are,
and a settled configuration stays settled. -/
structure Keeps (c c' : CBUSConfig) : Prop where
  layout : c'.toLayout = c.toLayout
  bytesPerEvent : c'.eeBytesPerEvent = c.eeBytesPerEvent
  settled : c.Settled → c'.Settled

theorem Keeps.refl (c : CBUSConfig) : Keeps c c := ⟨rfl, rfl, id⟩

theorem Keeps.trans {c d e : CBUSConfig} (h : Keeps c d) (h' : Keeps d e) : Keeps c e :=
  ⟨h'.layout.trans h.layout, h'.bytesPerEvent.trans h.bytesPerEvent, fun hc =>
    h'.settled (h.settled hc)⟩

theorem Keeps.of_eq {c c' : CBUSConfig} (h : c' = c) : Keeps c c' := h ▸ Keeps.refl c

theorem Keeps.of_eventRam {c c' : CBUSConfig} (hu : c'.eventRam = c.eventRam)
    (hs : c.Synced → c'.Synced) : Keeps c c' := by
  have hl : c'.toLayout = c.toLayout := congrArg Prod.fst hu
  have ht : c'.evhashtbl = c.evhashtbl := congrArg (·.2.2.1) hu
  refine ⟨hl, congrArg (·.2.1) hu, fun h => ⟨hs h.synced, ?_⟩⟩
  rw [ht, hl]
  exact h.allocated

theorem Intact.keeps {c c' : CBUSConfig} (h : c.Intact) (k : Keeps c c') : c'.Intact := by
  refine ⟨k.settled h.toSettled, ⟨?_, ?_⟩⟩
  · rw [k.layout]
    exact h.placed.fits
  · rw [k.bytesPerEvent, k.layout]
    exact h.placed.bytesPerEvent

theorem keeps_setNodeNum (c : CBUSConfig) (nn : UInt32) : Keeps c (c.setNodeNum nn) :=
  .of_eventRam (sameTables_setNodeNum c nn).ram fun h => h.setNodeNum nn

theorem keeps_setFLiM (c : CBUSConfig) (flim : Bool) : Keeps c (c.setFLiM flim) :=
  .of_eventRam (sameTables_setFLiM c flim).ram fun h => h.setFLiM flim

theorem keeps_setCANID (c : CBUSConfig) (canid : UInt8) : Keeps c (c.setCANID canid).2 :=
  .of_eventRam (sameTables_setCANID c canid).ram fun h => h.setCANID canid

theorem keeps_writeNV (c : CBUSConfig) (idx val : UInt8) : Keeps c (c.writeNV idx val) :=
  .of_eventRam (writeNV_eventRam c idx val) fun h => h.writeNV idx val

theorem keeps_updateEvHashEntry (c : CBUSConfig) (idx : UInt8) :
    Keeps c (c.updateEvHashEntry idx) :=
  ⟨rfl, rfl, fun h => ⟨h.synced.updateEvHashEntry idx,
    (length_updateEvHashEntry c idx).trans h.allocated⟩⟩

theorem keeps_clearEvHashTable (c : CBUSConfig) : Keeps c c.clearEvHashTable :=
  ⟨rfl, rfl, fun h => ⟨h.synced.clearEvHashTable, List.length_replicate⟩⟩

theorem keeps_unlearnEvent (c : CBUSConfig) (index : UInt8) :
    Keeps c ((c.clearEventEEPROM index).updateEvHashEntry index) := by
  have hclear : Keeps c (c.clearEventEEPROM index) :=
    .of_eventRam (writeEvent_eventRam c index evInfoUnused true) fun h => h.clearEventEEPROM index
  exact hclear.trans (keeps_updateEvHashEntry _ index)

theorem keeps_clearEvents (c : CBUSConfig) : Keeps c c.clearEventsEEPROM.clearEvHashTable := by
  have hclear : Keeps c c.clearEventsEEPROM :=
    .of_eventRam c.clearEventsEEPROM_eventRam fun h => h.clearEventsEEPROM
  exact hclear.trans (keeps_clearEvHashTable _)

theorem keeps_learnEvent (c : CBUSConfig) (index : UInt8) (e : EventInfo) (evNum evVal : UInt8) :
    Keeps c (c.learnEvent index e evNum evVal) := by
  obtain ⟨hl, hb, hlen⟩ := c.learnEvent_toLayout index e evNum evVal
  refine ⟨hl, hb, fun h => ⟨h.synced.learnEvent index e evNum evVal, ?_⟩⟩
  rw [hlen, hl]
  exact h.allocated

theorem settled_begin (l : Layout) (flash : FlashImage) :
    (construct l flash).begin.Settled := by
  have hram := (sameTables_loadNVs (construct l flash).loaded).ram
  have hlen : (construct l flash).loaded.evhashtbl.length = l.eeMaxEvents.toNat := by
    change ((List.range l.eeMaxEvents.toNat).map _).length = _
    rw [List.length_map, List.length_range]
  refine ⟨synced_begin l flash, ?_⟩
  rw [begin_eq]
  have ht := congrArg (·.2.2.1) hram
  have hm := congrArg (·.1.eeMaxEvents) hram
  simp only [eventRam] at ht hm
  rw [ht, hm]
  exact hlen

theorem begin_toLayout (l : Layout) (flash : FlashImage) :
    (construct l flash).begin.toLayout = l :=
  (sameTables_loadNVs (construct l flash).loaded).toLayout

theorem intact_begin {l : Layout} (hl : l.Fits) (flash : FlashImage) :
    (construct l flash).begin.Intact :=
  ⟨settled_begin l flash, placed_begin hl⟩

/-- Clearing the events leaves image and flash alone exactly if none is stored. -/
theorem Settled.clearEventsEEPROM_eq_iff {c : CBUSConfig} (h : c.Settled) :
    (c.clearEventsEEPROM.flash = c.flash ∧ c.clearEventsEEPROM.flashBuf = c.flashBuf) ↔
      ¬ c.StoresEvent := by
  constructor
  · rintro ⟨-, hbuf⟩ ⟨i, hi, hne⟩
    have hu := readEvent_eq_unused_iff.mp (c.clearEventsEEPROM_spec.2 i hi)
    rw [slotByte_congr c.clearEventsEEPROM_eventRam, hbuf] at hu
    exact hne (readEvent_eq_unused_iff.mpr hu)
  · intro hnone
    have hbuf : c.clearEventsEEPROM.flashBuf = c.flashBuf := by
      refine Memory.ext_read 0xFF fun a => ?_
      rw [read_clearEventsEEPROM]
      split_ifs with ha
      · obtain ⟨i, hi, hbyte⟩ := ha
        obtain ⟨k, hk, rfl⟩ := mem_identityBytes.mp hbyte
        have hu : c.readEvent (UInt8.ofNat i) = evInfoUnused := by
          by_contra hne
          exact hnone ⟨i, hi, hne⟩
        exact (readEvent_eq_unused_iff.mp hu k hk).symm
      · rfl
    refine ⟨?_, hbuf⟩
    rw [h.synced.clearEventsEEPROM.flash_eq, hbuf, h.synced.flash_eq]

theorem Settled.clearEvHashTable_eq_iff {c : CBUSConfig} (h : c.Settled) :
    c.clearEvHashTable.evhashtbl = c.evhashtbl ↔ ∀ i < c.eeMaxEvents.toNat, c.hashEntry i = 0 := by
  constructor
  · intro heq i hi
    rw [hashEntry, ← heq]
    change (List.replicate c.eeMaxEvents.toNat (0 : UInt8)).getD i 0 = 0
    simp [hi]
  · intro hz
    change List.replicate c.eeMaxEvents.toNat (0 : UInt8) = c.evhashtbl
    symm
    rw [List.eq_replicate_iff]
    refine ⟨h.allocated, fun b hb => ?_⟩
    obtain ⟨i, hi, rfl⟩ := List.mem_iff_getElem.mp hb
    have := hz i (h.allocated ▸ hi)
    rwa [hashEntry, List.getD_eq_getElem?_getD, List.getElem?_eq_getElem hi] at this

end CBUSConfig

namespace CBUSbase

theorem CommandStep.keeps {n m : CBUSbase} {msg : CANFrame} (step : CommandStep n msg m) :
    CBUSConfig.Keeps n.moduleConfig m.moduleConfig := by
  cases step with
  | keep => exact .refl _
  | leaveLearn => exact .refl _
  | enterLearn => exact .refl _
  | nnclr => exact CBUSConfig.keeps_clearEvents _
  | evuln => exact CBUSConfig.keeps_unlearnEvent _ _
  | evlrn => exact CBUSConfig.keeps_learnEvent _ _ _ _ _
  | nvset => exact CBUSConfig.keeps_writeNV _ _ _
  | canid => exact CBUSConfig.keeps_setCANID _ _
  | enum => exact .of_eq (doEnum_moduleConfig _ _)
  | snn =>
    rw [indicateFLiMMode_moduleConfig]
    exact (CBUSConfig.keeps_setNodeNum _ _).trans (CBUSConfig.keeps_setFLiM _ true)

theorem parseCBUSEvent_moduleConfig (n : CBUSbase) (msg : CANFrame) :
    (n.parseCBUSEvent msg).2.moduleConfig = n.moduleConfig := by
  unfold parseCBUSEvent
  dsimp only
  split_ifs <;> rfl

theorem keeps_parseCBUSMsg (n : CBUSbase) (msg : CANFrame) :
    CBUSConfig.Keeps n.moduleConfig (n.parseCBUSMsg msg).2.moduleConfig := by
  unfold parseCBUSMsg
  split_ifs
  · exact .of_eq (parseCBUSEvent_moduleConfig _ _)
  · obtain ⟨m, step, hr⟩ := n.parseFLiMCmd_handles msg
    rw [hr.moduleConfig]
    exact step.keeps

theorem keeps_setSLiM (n : CBUSbase) :
    CBUSConfig.Keeps n.moduleConfig n.setSLiM.moduleConfig := by
  unfold setSLiM
  dsimp only
  rw [indicateFLiMMode_moduleConfig]
  exact ((CBUSConfig.keeps_setNodeNum _ 0).trans (CBUSConfig.keeps_setFLiM _ false)).trans
    (CBUSConfig.keeps_setCANID _ 1)

theorem keeps_revertSLiM (n : CBUSbase) :
    CBUSConfig.Keeps n.moduleConfig n.revertSLiM.moduleConfig := by
  unfold revertSLiM
  refine .trans (.of_eq ?_) (keeps_setSLiM _)
  exact (n.replies_sendOpcMyNN _ _ _ _ _ _ _).moduleConfig

theorem initFLiM_moduleConfig (n : CBUSbase) : n.initFLiM.moduleConfig = n.moduleConfig := by
  unfold initFLiM
  rw [(replies_sendOpcMyNN _ _ _ _ _ _ _ _).moduleConfig]
  rfl

theorem indicateModeOnLEDs_moduleConfig (n : CBUSbase) (mode : LedMode) :
    (n.indicateModeOnLEDs mode).moduleConfig = n.moduleConfig := by
  cases mode <;> rfl

theorem keeps_flimSWCheck (n : CBUSbase) (now : UInt32) :
    CBUSConfig.Keeps n.moduleConfig (n.flimSWCheck now).moduleConfig := by
  have hstep := n.flimStep_flimSWCheck now
  generalize n.flimSWCheck now = m at hstep ⊢
  cases hstep with
  | move => exact .refl _
  | flash => exact .of_eq (indicateModeOnLEDs_moduleConfig _ _)
  | setup => exact .of_eq (initFLiM_moduleConfig _)
  | revert => exact keeps_revertSLiM { n with flimState := .fsSLiM }
  | resume => exact .of_eq (indicateModeOnLEDs_moduleConfig _ _)
  | unknown => exact keeps_revertSLiM _

theorem keeps_processEnumeration (n : CBUSbase) (now : UInt32) :
    CBUSConfig.Keeps n.moduleConfig (n.processEnumeration now).moduleConfig := by
  have hstep := n.enumerationStep_processEnumeration now
  generalize n.processEnumeration now = m at hstep ⊢
  cases hstep with
  | keep => exact .refl _
  | start _ _ replies => exact .of_eq replies.moduleConfig
  | conclude c config replies =>
    rw [replies.moduleConfig]
    rcases config with rfl | ⟨canId, rfl⟩
    · exact .refl _
    · exact CBUSConfig.keeps_setCANID _ canId

theorem keeps_poll (n : CBUSbase) (i : PollInput) :
    CBUSConfig.Keeps n.moduleConfig (n.poll i).moduleConfig := by
  let m := { n with
    ledGrn := n.ledGrn.run i.grnTime
    ledYlw := n.ledYlw.run i.ylwTime
    sw := n.sw.run i.pin i.swClock }
  exact (m.keeps_flimSWCheck i.flimTime).trans (keeps_processEnumeration _ i.enumTime)

theorem takeFrame_moduleConfig (n : CBUSbase) (canSend : Bool) :
    (n.takeFrame canSend).2.moduleConfig = n.moduleConfig := by
  obtain ⟨_, _, _, _, h⟩ := n.takeFrame_frame canSend
  rw [h]

theorem callFrameHandler_moduleConfig (n : CBUSbase) (msg : CANFrame) :
    (n.callFrameHandler msg).2.moduleConfig = n.moduleConfig := by
  obtain ⟨port, h⟩ := n.callFrameHandler_frame msg
  rw [h]

theorem keeps_handleFrame (n : CBUSbase) (msg : CANFrame) (pulseTime : UInt32) :
    CBUSConfig.Keeps n.moduleConfig (n.handleFrame msg pulseTime).moduleConfig := by
  let m := { n with bThisNN := n.isThisNN msg }
  let k := (m.callFrameHandler msg).2.emit (.parseCBUSMsg (m.callFrameHandler msg).1)
  have hcall : k.moduleConfig = n.moduleConfig := m.callFrameHandler_moduleConfig msg
  have hparse := (CBUSConfig.Keeps.of_eq hcall).trans
    (k.keeps_parseCBUSMsg (m.callFrameHandler msg).1)
  unfold handleFrame
  dsimp only
  split_ifs <;> exact hparse

theorem keeps_messageLoop (n : CBUSbase) (frames : ℕ → FrameInput) (k : ℕ) :
    CBUSConfig.Keeps n.moduleConfig (n.messageLoop frames k).moduleConfig := by
  induction k generalizing n with
  | zero => exact .refl _
  | succ k ih =>
    have htake : ((n.arrive (frames k)).takeFrame (frames k).canSend).2.moduleConfig =
        n.moduleConfig := takeFrame_moduleConfig _ _
    unfold messageLoop
    dsimp only
    split_ifs
    · split
      · exact ((CBUSConfig.Keeps.of_eq htake).trans (keeps_handleFrame _ _ _)).trans (ih _)
      · exact (CBUSConfig.Keeps.of_eq htake).trans (ih _)
    · exact .refl _

/-- What can happen to a module: its own polling and frame handling, the mode
changes an application may ask for, and anything that leaves the configuration
alone (interrupts, registrations, events sent). -/
inductive ModuleStep (n : CBUSbase) : CBUSbase → Prop
  | poll (i : PollInput) : ModuleStep n (n.poll i)
  | handleFrame (msg : CANFrame) (pulseTime : UInt32) : ModuleStep n (n.handleFrame msg pulseTime)
  | process (call : ProcessCall) : ModuleStep n (n.process call)
  | setSLiM : ModuleStep n n.setSLiM
  | revertSLiM : ModuleStep n n.revertSLiM
  | other (m : CBUSbase) (same : m.moduleConfig = n.moduleConfig) : ModuleStep n m

theorem ModuleStep.keeps {n m : CBUSbase} (step : ModuleStep n m) :
    CBUSConfig.Keeps n.moduleConfig m.moduleConfig := by
  cases step with
  | poll i => exact keeps_poll _ i
  | handleFrame msg pulseTime => exact keeps_handleFrame _ msg pulseTime
  | process call => exact (keeps_poll _ call.poll).trans (keeps_messageLoop _ _ _)
  | setSLiM => exact keeps_setSLiM _
  | revertSLiM => exact keeps_revertSLiM _
  | other m same => exact .of_eq same

/-- The states of a module that was started on a flash image, with whatever layout. -/
inductive Reachable : CBUSbase → Prop
  | start (n : CBUSbase) (l : Layout) (flash : FlashImage)
      (started : n.moduleConfig = (CBUSConfig.construct l flash).begin) : Reachable n
  | step {n m : CBUSbase} (reached : Reachable n) (next : ModuleStep n m) : Reachable m

theorem Reachable.settled {n : CBUSbase} (h : Reachable n) : n.moduleConfig.Settled := by
  induction h with
  | start n l flash started =>
    rw [started]
    exact CBUSConfig.settled_begin l flash
  | step _ next ih => exact next.keeps.settled ih

/-- The node number of the frame is ours. -/
def CarriesOwnNumber (n : CBUSbase) (msg : CANFrame) : Prop :=
  (bytesToWord (msg.data.get 1) (msg.data.get 2)).toUInt32 = n.moduleConfig.nodeNum

/-- The frames that may change the stored configuration. -/
def Permitted (n : CBUSbase) (msg : CANFrame) : Prop :=
  n.bLearn = true ∧ (msg.data.get 0 = opcEvlrn ∨ msg.data.get 0 = opcEvlrni ∨ msg.data.get 0 = opcEvuln) ∨
    n.bLearn = true ∧ msg.data.get 0 = opcNnclr ∧ n.CarriesOwnNumber msg ∨
    n.isThisNN msg = true ∧ (msg.data.get 0 = opcNvset ∨ msg.data.get 0 = opcCanid) ∨
    n.flimState = .fsFLiMSetup ∧ msg.data.get 0 = opcSnn

/-- Flash image, its cache and the hash table are the same. -/
structure SameStorage (n m : CBUSbase) : Prop where
  flash : m.moduleConfig.flash = n.moduleConfig.flash
  flashBuf : m.moduleConfig.flashBuf = n.moduleConfig.flashBuf
  evhashtbl : m.moduleConfig.evhashtbl = n.moduleConfig.evhashtbl

theorem SameStorage.of_eq {n m : CBUSbase} (h : m.moduleConfig = n.moduleConfig) :
    SameStorage n m := by
  constructor <;> rw [h]

/-- An `NNCLR` for another node, received in learn mode while there is something
to clear. -/
def ClearsForeign (n : CBUSbase) (msg : CANFrame) : Prop :=
  n.bLearn = true ∧ msg.data.get 0 = opcNnclr ∧ ¬ n.CarriesOwnNumber msg ∧
    (n.moduleConfig.StoresEvent ∨
      ∃ i < n.moduleConfig.eeMaxEvents.toNat, n.moduleConfig.hashEntry i ≠ 0)

theorem parseFLiMCmd_nnclr {n : CBUSbase} {msg : CANFrame} (learn : n.bLearn = true)
    (opc : msg.data.get 0 = opcNnclr) :
    (n.parseFLiMCmd msg).2 = (n.cacheNumbers msg).doNnclr := by
  have h1 : opcNnclr ≠ opcNnlrn := by decide
  have h2 : opcNnclr ≠ opcNnuln := by decide
  apply parseFLiMCmd_learn learn
  simp only [learnCmd, opc, h1, h2, if_false, if_true]

theorem doNnclr_moduleConfig {n : CBUSbase} (learn : n.bLearn = true) :
    n.doNnclr.moduleConfig = n.moduleConfig.clearEventsEEPROM.clearEvHashTable := by
  unfold doNnclr
  rw [if_pos learn, (replies_sendWRACK _).moduleConfig]

theorem receiveMsg_nnclr {n : CBUSbase} {msg : CANFrame} (learn : n.bLearn = true)
    (opc : msg.data.get 0 = opcNnclr) :
    (n.receiveMsg msg).moduleConfig = n.moduleConfig.clearEventsEEPROM.clearEvHashTable := by
  have hev : isEvent msg = false := by
    unfold isEvent
    rw [opc]
    decide
  have hlearn : CBUSbase.bLearn { n with bThisNN := n.isThisNN msg } = true := learn
  rw [receiveMsg_command hev, parseFLiMCmd_nnclr hlearn opc]
  exact doNnclr_moduleConfig learn

theorem receiveMsg_nnclr_sameStorage {n : CBUSbase} (h : n.moduleConfig.Settled) {msg : CANFrame}
    (learn : n.bLearn = true) (opc : msg.data.get 0 = opcNnclr) :
    SameStorage n (n.receiveMsg msg) ↔ ¬ n.moduleConfig.StoresEvent ∧
      ∀ i < n.moduleConfig.eeMaxEvents.toNat, n.moduleConfig.hashEntry i = 0 := by
  have hc := receiveMsg_nnclr learn opc
  rw [← h.clearEventsEEPROM_eq_iff, ← h.clearEvHashTable_eq_iff]
  have hmax : n.moduleConfig.clearEventsEEPROM.eeMaxEvents = n.moduleConfig.eeMaxEvents :=
    congrArg (·.1.eeMaxEvents) n.moduleConfig.clearEventsEEPROM_eventRam
  have htable : n.moduleConfig.clearEventsEEPROM.clearEvHashTable.evhashtbl =
      n.moduleConfig.clearEvHashTable.evhashtbl := by
    change List.replicate _ _ = List.replicate _ _
    rw [hmax]
  constructor
  · rintro ⟨hf, hb, ht⟩
    rw [hc] at hf hb ht
    exact ⟨⟨hf, hb⟩, htable.symm.trans ht⟩
  · rintro ⟨⟨hf, hb⟩, ht⟩
    constructor <;> rw [hc]
    · exact hf
    · exact hb
    · exact htable.trans ht

/-- Every frame that is not permitted and not such an `NNCLR` leaves the
configuration alone. -/
theorem receiveMsg_moduleConfig {n : CBUSbase} {msg : CANFrame} (hp : ¬ n.Permitted msg)
    (hc : ¬ (n.bLearn = true ∧ msg.data.get 0 = opcNnclr)) :
    (n.receiveMsg msg).moduleConfig = n.moduleConfig := by
  unfold receiveMsg parseCBUSMsg
  split_ifs
  · rw [parseCBUSEvent_moduleConfig]
  · obtain ⟨m, step, hr⟩ := parseFLiMCmd_handles { n with bThisNN := n.isThisNN msg } msg
    rw [hr.moduleConfig]
    cases step with
    | keep => rfl
    | leaveLearn => rfl
    | enterLearn => rfl
    | nnclr learn opc => exact absurd ⟨learn, opc⟩ hc
    | evuln learn opc => exact absurd (Or.inl ⟨learn, Or.inr (Or.inr opc)⟩) hp
    | evlrn learn _ _ opc =>
      rcases opc with ⟨opc, -⟩ | ⟨opc, -⟩
      · exact absurd (Or.inl ⟨learn, Or.inl opc⟩) hp
      · exact absurd (Or.inl ⟨learn, Or.inr (Or.inl opc)⟩) hp
    | nvset this opc => exact absurd (Or.inr (Or.inr (Or.inl ⟨this, Or.inl opc⟩))) hp
    | canid this opc => exact absurd (Or.inr (Or.inr (Or.inl ⟨this, Or.inr opc⟩))) hp
    | enum => exact doEnum_moduleConfig _ true
    | snn setup opc => exact absurd (Or.inr (Or.inr (Or.inr ⟨setup, opc⟩))) hp

/-- In every reachable state a frame that is not permitted leaves the storage
unchanged, unless it is an `NNCLR` for another node that finds something to clear. -/
theorem sameStorage_iff (n : CBUSbase) (h : Reachable n) (msg : CANFrame) :
    (¬ n.Permitted msg → SameStorage n (n.receiveMsg msg)) ↔ ¬ n.ClearsForeign msg := by
  constructor
  · rintro hs ⟨learn, opc, hown, hclear⟩
    have hp : ¬ n.Permitted msg := by
      rintro (⟨-, ho | ho | ho⟩ | ⟨-, -, ho⟩ | ⟨-, ho | ho⟩ | ⟨-, ho⟩)
      · exact absurd (opc.symm.trans ho) (by decide)
      · exact absurd (opc.symm.trans ho) (by decide)
      · exact absurd (opc.symm.trans ho) (by decide)
      · exact hown ho
      · exact absurd (opc.symm.trans ho) (by decide)
      · exact absurd (opc.symm.trans ho) (by decide)
      · exact absurd (opc.symm.trans ho) (by decide)
    obtain ⟨hnone, hzero⟩ := (receiveMsg_nnclr_sameStorage h.settled learn opc).mp (hs hp)
    rcases hclear with hst | ⟨i, hi, hne⟩
    · exact hnone hst
    · exact hne (hzero i hi)
  · intro hnot hp
    by_cases hc : n.bLearn = true ∧ msg.data.get 0 = opcNnclr
    · have hown : ¬ n.CarriesOwnNumber msg := fun ho =>
        hp (Or.inr (Or.inl ⟨hc.1, hc.2, ho⟩))
      rw [receiveMsg_nnclr_sameStorage h.settled hc.1 hc.2]
      constructor
      · exact fun hst => hnot ⟨hc.1, hc.2, hown, Or.inl hst⟩
      · intro i hi
        by_contra hne
        exact hnot ⟨hc.1, hc.2, hown, Or.inr ⟨i, hi, hne⟩⟩
    · exact SameStorage.of_eq (receiveMsg_moduleConfig hp hc)

theorem smallModule_reachable : Reachable smallModule :=
  .start smallModule CBUSConfig.smallLayout smallFlash rfl

theorem sameStorage_iff_teach :
    (¬ smallModule.Permitted teachFrame →
        SameStorage smallModule (smallModule.receiveMsg teachFrame)) ↔
      ¬ smallModule.ClearsForeign teachFrame :=
  sameStorage_iff smallModule smallModule_reachable teachFrame

def taughtModule : CBUSbase := (smallModule.handleFrame learnFrame 0).handleFrame teachFrame 0

def clearForeign : CANFrame := { len := 3, data := #v[opcNnclr, 0, 9, 0, 0, 0, 0, 0] }

theorem not_sameStorage_clearForeign :
    Reachable taughtModule ∧ ¬ taughtModule.isThisNN clearForeign ∧
      ¬ taughtModule.Permitted clearForeign ∧
      ¬ SameStorage taughtModule (taughtModule.receiveMsg clearForeign) := by
  refine ⟨?_, ?_, ?_, ?_⟩
  · exact (smallModule_reachable.step (.handleFrame learnFrame 0)).step (.handleFrame teachFrame 0)
  · decide +kernel
  · unfold Permitted CarriesOwnNumber
    decide +kernel
  · intro h
    exact absurd h.evhashtbl (by decide +kernel)

end CBUSbase
end CBUSPicoLib
