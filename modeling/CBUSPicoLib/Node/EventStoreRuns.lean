import CBUSPicoLib.Node.EventStore
import CBUSPicoLib.Node.FlimConsistency
import CBUSPicoLib.Node.PowerCycle

/-!
# The event store over runs of a module

Polls, frames from all queues, interrupts and restarts: whatever happens to a module, its event
table holds what replaying the commands of learn mode on an abstract store gives, as long as the
indexes that the source does not check are those of existing variables.
-/

namespace CBUSPicoLib

open Runs TaggedTable

namespace CBUSConfig

variable {capacity : ℕ} {c c' : CBUSConfig} {s : EventStore capacity}

theorem Placed.readEvent_of_image (h : c.Placed) (h' : c'.Placed) (hl : c'.toLayout = c.toLayout)
    (himage : ∀ a, c.InEvents a → c'.flashBuf.read 0xFF a = c.flashBuf.read 0xFF a) {i : ℕ}
    (hi : i < c.eeMaxEvents.toNat) :
    c'.readEvent (UInt8.ofNat i) = c.readEvent (UInt8.ofNat i) := by
  have hidx : (UInt8.ofNat i).toNat < c.eeMaxEvents.toNat := by rwa [toNat_ofNat_index hi]
  have hin : ∀ k < 4, c.InEvents (c.slotBase (UInt8.ofNat i).toNat + k) :=
    fun k hk => Layout.slotBase_add_inEvents hidx (by omega)
  rw [h'.readEvent_bytes (hl ▸ hidx), h.readEvent_bytes hidx, hl,
    himage (c.slotBase (UInt8.ofNat i).toNat) (hin 0 (by omega)), himage _ (hin 1 (by omega)),
    himage _ (hin 2 (by omega)), himage _ (hin 3 (by omega))]

theorem Represents.of_image (h : c.Represents s) (hi : c'.Intact) (hc : c'.Coherent)
    (hl : c'.toLayout = c.toLayout)
    (himage : ∀ a, c.InEvents a → c'.flashBuf.read 0xFF a = c.flashBuf.read 0xFF a) :
    c'.Represents s := by
  have hslot : ∀ i < c.eeMaxEvents.toNat, c'.slot i = c.slot i := by
    intro i hi'
    exact slot_congr (h.placed.readEvent_of_image hi.placed hl himage hi')
  have hknown : ∀ e, c'.Known e ↔ c.Known e := by
    intro e
    unfold Known
    rw [hl]
    exact exists_congr fun i => and_congr_right fun hi' => by rw [hslot i hi']
  refine ⟨hi, hc, ?_, fun e => (h.keys e).trans (hknown e).symm, ?_⟩
  · rw [← h.capacity_eq, hl]
  · intro e k v hv
    obtain ⟨h0, hk, i, hlt, hs, hval⟩ := h.fields e k v hv
    have hk' : k.toNat ≤ c.eeNumEvs.toNat := UInt8.le_iff_toNat_le.mp hk
    have hk256 := k.toNat_lt
    refine ⟨h0, hl.symm ▸ hk, i, hl.symm ▸ hlt, (hslot _ hlt).trans hs, ?_⟩
    rw [← hval, getEventEVval_eq, getEventEVval_eq, hi.placed.slotByte (hl ▸ hlt) (by omega),
      h.placed.slotByte hlt (by omega), hl]
    exact himage _ (Layout.slotBase_add_inEvents hlt (by omega))

theorem Represents.congr (h : c.Represents s) (hu : c'.eventRam = c.eventRam) (hs : c'.Synced)
    (himage : ∀ a, c.InEvents a → c'.flashBuf.read 0xFF a = c.flashBuf.read 0xFF a) :
    c'.Represents s := by
  refine h.of_image (h.intact.keeps (.of_eventRam hu fun _ => hs)) (h.coherent.congr hu ?_)
    (congrArg Prod.fst hu) himage
  intro i hi
  have hidx : (UInt8.ofNat i).toNat < c.eeMaxEvents.toNat := by rwa [toNat_ofNat_index hi]
  apply h.placed.readEvent_congr hu hidx
  intro k hk
  exact himage _ (Layout.slotBase_add_inEvents hidx (by omega))

theorem Represents.sameTables (h : c.Represents s) (hs : SameTables c c') (hsync : c'.Synced) :
    c'.Represents s :=
  h.congr hs.ram hsync fun a ha => hs.image a (h.placed.fits.events a ha).1

theorem Represents.writeNV (h : c.Represents s) {idx : UInt8} (h0 : idx ≠ 0)
    (hi : idx ≤ c.eeNumNvs) (v : UInt8) : (c.writeNV idx v).Represents s := by
  apply h.congr (writeNV_eventRam c idx v) (h.intact.synced.writeNV idx v)
  intro a ha
  rw [CBUSConfig.writeNV_eq, writeEEPROM_flashBuf]
  apply Memory.read_write_ne
  intro he
  exact h.placed.fits.disjoint a ha (he ▸ writeNV_inNvs h.placed h0 hi)

theorem Represents.powerUp (h : c.Represents s) : c.powerUp.Represents s := by
  have hsame := c.powerUp_sameTables
  have himage : ∀ a, 6 ≤ a → c.powerUp.flashBuf.read 0xFF a = c.flashBuf.read 0xFF a := by
    intro a ha
    rw [← h.intact.synced.flash_eq]
    exact hsame.image a ha
  have hplaced : (construct c.toLayout c.flash).loaded.Placed := placed_loaded h.placed.fits
  have hloaded : ∀ i < c.eeMaxEvents.toNat,
      (construct c.toLayout c.flash).loaded.readEvent (UInt8.ofNat i) =
        c.readEvent (UInt8.ofNat i) := by
    intro i hi
    apply h.placed.readEvent_of_image hplaced rfl ?_ hi
    intro a _
    rw [← h.intact.synced.flash_eq]
    rfl
  have hpairs : (construct c.toLayout c.flash).loaded.NoPairTwice := by
    intro i hi j hj hu he
    rw [hloaded i hi] at hu he
    rw [hloaded j hj] at he
    exact h.coherent.distinct i hi j hj hu he
  exact h.of_image (intact_begin h.placed.fits c.flash) (coherent_begin h.placed.fits hpairs)
    hsame.toLayout fun a ha => himage a (h.placed.fits.events a ha).1

def eventStore (c : CBUSConfig) : EventStore c.eeMaxEvents.toNat where
  keys := ((List.range c.eeMaxEvents.toNat).filterMap c.slot).toFinset
  field e k :=
    if e ∈ ((List.range c.eeMaxEvents.toNat).filterMap c.slot).toFinset ∧ k ≠ 0 ∧ k ≤ c.eeNumEvs then
      some (c.getEventEVval (c.findExistingEvent e.nodeNumber e.eventNumber) k)
    else none
  bounded := by
    have hcard := List.toFinset_card_le ((List.range c.eeMaxEvents.toNat).filterMap c.slot)
    have hlen := List.length_filterMap_le c.slot (List.range c.eeMaxEvents.toNat)
    rw [List.length_range] at hlen
    exact hcard.trans hlen
  fresh := by
    intro e he k
    rw [if_neg fun hc => he hc.1]

theorem mem_eventStore (c : CBUSConfig) (e : EventInfo) : e ∈ c.eventStore.keys ↔ c.Known e := by
  change e ∈ ((List.range c.eeMaxEvents.toNat).filterMap c.slot).toFinset ↔ _
  rw [List.mem_toFinset, List.mem_filterMap]
  simp only [List.mem_range]
  rfl

theorem eventStore_field (c : CBUSConfig) (e : EventInfo) (k : UInt8) : c.eventStore.field e k =
    if e ∈ c.eventStore.keys ∧ k ≠ 0 ∧ k ≤ c.eeNumEvs then
      some (c.getEventEVval (c.findExistingEvent e.nodeNumber e.eventNumber) k)
    else none := rfl

theorem represents_eventStore (hi : c.Intact) (hc : c.Coherent) : c.Represents c.eventStore := by
  refine ⟨hi, hc, rfl, c.mem_eventStore, ?_⟩
  intro e k v hv
  rw [eventStore_field] at hv
  split_ifs at hv with hstored
  obtain ⟨hk, h0, hle⟩ := hstored
  have hknown : c.Known ⟨e.nodeNumber, e.eventNumber⟩ := (c.mem_eventStore e).mp hk
  exact ⟨h0, hle, _, hc.hashed.find_lt_iff.mpr hknown, hc.hashed.slot_find hknown,
    Option.some.inj hv⟩

end CBUSConfig

namespace CBUSbase

variable {n m : CBUSbase} {msg : CANFrame}

def carriedCommand (msg : CANFrame) : Option StoreCommand :=
  if msg.data.get 0 = opcNnclr then some .clear
  else if msg.data.get 0 = opcEvuln then some (.remove (taughtEvent msg))
  else (taughtVariable msg).map fun v => .teach (taughtEvent msg) v.1 v.2

theorem taughtVariable_eq_some {evNum evVal : UInt8} :
    taughtVariable msg = some (evNum, evVal) ↔
      msg.data.get 0 = opcEvlrn ∧ evNum = msg.data.get 5 ∧ evVal = msg.data.get 6 ∨
        msg.data.get 0 = opcEvlrni ∧ evNum = msg.data.get 6 ∧ evVal = msg.data.get 7 := by
  have hne : opcEvlrni ≠ opcEvlrn := by decide
  unfold taughtVariable
  constructor
  · intro h
    split_ifs at h with h1 h2
    · cases h
      exact Or.inl ⟨h1, rfl, rfl⟩
    · cases h
      exact Or.inr ⟨h2, rfl, rfl⟩
  · rintro (⟨h1, rfl, rfl⟩ | ⟨h2, rfl, rfl⟩)
    · rw [if_pos h1]
    · rw [if_neg (h2 ▸ hne), if_pos h2]

theorem carriedCommand_teach {evNum evVal : UInt8} (h : taughtVariable msg = some (evNum, evVal)) :
    carriedCommand msg = some (.teach (taughtEvent msg) evNum evVal) := by
  unfold carriedCommand
  rcases taughtVariable_eq_some.mp h with ⟨hopc, -⟩ | ⟨hopc, -⟩
  · rw [if_neg (hopc ▸ by decide), if_neg (hopc ▸ by decide), h]
    rfl
  · rw [if_neg (hopc ▸ by decide), if_neg (hopc ▸ by decide), h]
    rfl

theorem parseCBUSMsg_learn (learn : n.bLearn = true) (hevent : isEvent msg = false)
    (h : (n.cacheNumbers msg).learnCmd msg = (true, m)) : (n.parseCBUSMsg msg).2 = m := by
  unfold parseCBUSMsg
  rw [hevent, if_neg Bool.false_ne_true]
  exact parseFLiMCmd_learn learn h

theorem not_isEvent_command {opc : UInt8} (h : msg.data.get 0 = opc)
    (hopc : opc ∈ [opcNnclr, opcEvuln, opcEvlrn, opcEvlrni]) : isEvent msg = false := by
  unfold isEvent
  rw [h]
  apply decide_eq_false
  simp only [List.mem_cons, List.not_mem_nil, or_false] at hopc
  rcases hopc with rfl | rfl | rfl | rfl <;> decide

/-- In learn mode a frame with a command changes the configuration as the command says. -/
theorem parseCBUSMsg_carriedCommand (learn : n.bLearn = true) {cmd : StoreCommand}
    (h : carriedCommand msg = some cmd) :
    (n.parseCBUSMsg msg).2.moduleConfig = n.moduleConfig.storeCommand cmd := by
  have hlearn : (n.cacheNumbers msg).bLearn = true := learn
  unfold carriedCommand at h
  split_ifs at h with hclr huln
  · cases h
    rw [parseCBUSMsg_learn learn (not_isEvent_command hclr (by decide)) (m := (n.cacheNumbers msg).doNnclr)]
    · exact doNnclr_moduleConfig hlearn
    · simp [learnCmd, hclr, opcNnclr, opcNnlrn, opcNnuln]
  · cases h
    rw [parseCBUSMsg_learn learn (not_isEvent_command huln (by decide)) (m := (n.cacheNumbers msg).doEvuln)]
    · exact doEvuln_moduleConfig (n.cacheNumbers msg)
    · simp [learnCmd, huln, opcEvuln, opcNnlrn, opcNnuln, opcNnclr]
  · obtain ⟨⟨evNum, evVal⟩, ht, hcmd⟩ := Option.map_eq_some_iff.mp h
    cases hcmd
    have hteach : (n.cacheNumbers msg).learnCmd msg =
        (true, (n.cacheNumbers msg).doEvlrn evNum evVal) := by
      rcases taughtVariable_eq_some.mp ht with ⟨hopc, rfl, rfl⟩ | ⟨hopc, rfl, rfl⟩
      · simp [learnCmd, hopc, opcEvlrn, opcNnlrn, opcNnuln, opcNnclr, opcEvuln]
      · simp [learnCmd, hopc, opcEvlrni, opcEvlrn, opcNnlrn, opcNnuln, opcNnclr, opcEvuln]
    have hfalse : isEvent msg = false := by
      rcases taughtVariable_eq_some.mp ht with ⟨hopc, -⟩ | ⟨hopc, -⟩
      · exact not_isEvent_command hopc (by decide)
      · exact not_isEvent_command hopc (by decide)
    rw [parseCBUSMsg_learn learn hfalse hteach]
    exact doEvlrn_moduleConfig (n.cacheNumbers msg) evNum evVal

variable {capacity : ℕ} {s : EventStore capacity}

/-- The variables that a frame writes by index exist. -/
structure IndexesExist (n : CBUSbase) (msg : CANFrame) : Prop where
  taught : n.bLearn = true → ∀ evNum evVal, taughtVariable msg = some (evNum, evVal) →
    evNum ≤ n.moduleConfig.eeNumEvs
  nodeVariable : n.bThisNN = true → msg.data.get 0 = opcNvset →
    msg.data.get 3 ≠ 0 ∧ msg.data.get 3 ≤ n.moduleConfig.eeNumNvs

def executedCommand (n : CBUSbase) (msg : CANFrame) : Option StoreCommand :=
  if n.bLearn then carriedCommand msg else none

theorem CommandStep.represents (step : CommandStep n msg m) (h : n.moduleConfig.Represents s)
    (hcmd : n.bLearn = true → carriedCommand msg = none) (hx : n.IndexesExist msg) :
    m.moduleConfig.Represents s := by
  have hsync := (h.intact.keeps step.keeps).synced
  cases step with
  | keep => exact h
  | leaveLearn => exact h
  | enterLearn => exact h
  | nnclr learn opc =>
    have hnone := hcmd learn
    rw [carriedCommand, if_pos opc] at hnone
    exact absurd hnone (by simp)
  | evuln learn opc =>
    have hnone := hcmd learn
    rw [carriedCommand, if_neg (opc ▸ by decide), if_pos opc] at hnone
    exact absurd hnone (by simp)
  | evlrn learn evNum evVal opc =>
    have hnone := hcmd learn
    rw [carriedCommand_teach (taughtVariable_eq_some.mpr opc)] at hnone
    exact absurd hnone (by simp)
  | nvset this opc => exact h.writeNV (hx.nodeVariable this opc).1 (hx.nodeVariable this opc).2 _
  | canid => exact h.sameTables (CBUSConfig.sameTables_setCANID _ _) hsync
  | enum =>
    rw [n.doEnum_moduleConfig true]
    exact h
  | snn =>
    rw [indicateFLiMMode_moduleConfig] at hsync ⊢
    exact h.sameTables ((CBUSConfig.sameTables_setNodeNum _ _).trans
      (CBUSConfig.sameTables_setFLiM _ true)) hsync

theorem represents_other (h : n.moduleConfig.Represents s)
    (hcmd : n.bLearn = true → carriedCommand msg = none) (hx : n.IndexesExist msg) :
    (n.parseCBUSMsg msg).2.moduleConfig.Represents s := by
  unfold parseCBUSMsg
  split_ifs
  · rw [parseCBUSEvent_moduleConfig]
    exact h
  · obtain ⟨k, step, hr⟩ := n.parseFLiMCmd_handles msg
    rw [hr.moduleConfig]
    exact step.represents h hcmd ⟨hx.taught, hx.nodeVariable⟩

theorem IndexesExist.inRange (hx : n.IndexesExist msg) (hlearn : n.bLearn = true)
    {cmd : StoreCommand} (h : carriedCommand msg = some cmd) :
    cmd.InRange n.moduleConfig.toLayout := by
  unfold carriedCommand at h
  split_ifs at h
  · cases h
    trivial
  · cases h
    trivial
  · obtain ⟨v, ht, hcmd⟩ := Option.map_eq_some_iff.mp h
    cases hcmd
    exact hx.taught hlearn v.1 v.2 ht

theorem represents_parseCBUSMsg (h : n.moduleConfig.Represents s) (hx : n.IndexesExist msg) :
    (n.parseCBUSMsg msg).2.moduleConfig.Represents
      (run StoreCommand.apply s (n.executedCommand msg).toList) := by
  unfold executedCommand
  split_ifs with hlearn
  · cases hcmd : carriedCommand msg with
    | some cmd =>
      rw [parseCBUSMsg_carriedCommand hlearn hcmd]
      exact h.storeCommand (hx.inRange hlearn hcmd)
    | none => exact represents_other h (fun _ => hcmd) hx
  · exact represents_other h (fun hl => absurd hl hlearn) hx

theorem sameTables_revertSLiM (n : CBUSbase) :
    CBUSConfig.SameTables n.moduleConfig n.revertSLiM.moduleConfig := by
  rw [revertSLiM_moduleConfig]
  exact ((CBUSConfig.sameTables_setNodeNum _ _).trans (CBUSConfig.sameTables_setFLiM _ _)).trans
    (CBUSConfig.sameTables_setCANID _ _)

theorem sameTables_flimSWCheck (n : CBUSbase) (now : UInt32) :
    CBUSConfig.SameTables n.moduleConfig (n.flimSWCheck now).moduleConfig := by
  have hrefl := CBUSConfig.SameTables.refl n.moduleConfig
  have hstep := n.flimStep_flimSWCheck now
  generalize n.flimSWCheck now = m at hstep ⊢
  cases hstep with
  | move => exact hrefl
  | flash => rwa [indicateModeOnLEDs_moduleConfig]
  | setup => rwa [initFLiM_moduleConfig]
  | revert => exact sameTables_revertSLiM { n with flimState := .fsSLiM }
  | resume => rwa [indicateModeOnLEDs_moduleConfig]
  | unknown => exact n.sameTables_revertSLiM

theorem sameTables_processEnumeration (n : CBUSbase) (now : UInt32) :
    CBUSConfig.SameTables n.moduleConfig (n.processEnumeration now).moduleConfig := by
  have hrefl := CBUSConfig.SameTables.refl n.moduleConfig
  have hstep := n.enumerationStep_processEnumeration now
  generalize n.processEnumeration now = m at hstep ⊢
  cases hstep with
  | keep => exact hrefl
  | start _ _ replies => rwa [replies.moduleConfig]
  | conclude c config replies =>
    rw [replies.moduleConfig]
    rcases config with rfl | ⟨canId, rfl⟩
    · exact hrefl
    · exact CBUSConfig.sameTables_setCANID _ canId

theorem sameTables_poll (n : CBUSbase) (i : PollInput) :
    CBUSConfig.SameTables n.moduleConfig (n.poll i).moduleConfig := by
  let k := { n with
    ledGrn := n.ledGrn.run i.grnTime
    ledYlw := n.ledYlw.run i.ylwTime
    sw := n.sw.run i.pin i.swClock }
  exact (k.sameTables_flimSWCheck i.flimTime).trans
    ((k.flimSWCheck i.flimTime).sameTables_processEnumeration i.enumTime)

/-- The frame that is handled in an event of the module, as it was taken. -/
def handledFrame (n : CBUSbase) : ModuleEvent → Option CANFrame
  | .poll _ => none
  | .notify _ _ => none
  | .received msg _ => some msg
  | .iterate i =>
    let n := n.arrive i
    if n.available || n.gcAvailable || n.coeAvailable then (n.takeFrame i.canSend).1 else none

def parsedFrame (n : CBUSbase) (msg : CANFrame) : CANFrame := (n.callFrameHandler msg).1

theorem handleFrame_parses {n k : CBUSbase} (hk : ∃ rxBuffer gcServer coeObj port, k =
      { n with rxBuffer := rxBuffer, gcServer := gcServer, coeObj := coeObj, port := port })
    (msg : CANFrame) (pulseTime : UInt32) :
    ∃ m : CBUSbase, m.moduleConfig = n.moduleConfig ∧ m.bLearn = n.bLearn ∧
      m.bThisNN = n.isThisNN msg ∧ (k.handleFrame msg pulseTime).moduleConfig =
        (m.parseCBUSMsg (n.parsedFrame msg)).2.moduleConfig := by
  obtain ⟨rxBuffer, gcServer, coeObj, port, rfl⟩ := hk
  let k : CBUSbase :=
    { n with rxBuffer := rxBuffer, gcServer := gcServer, coeObj := coeObj, port := port }
  let k1 : CBUSbase := { k with bThisNN := k.isThisNN msg }
  obtain ⟨port1, hm⟩ := k1.callFrameHandler_frame msg
  have hframe : (k1.callFrameHandler msg).1 = n.parsedFrame msg := by
    have hsame : k1.frameHandler = n.frameHandler := rfl
    unfold parsedFrame callFrameHandler
    rw [hsame]
    cases n.frameHandler with
    | none => rfl
    | some handler =>
      dsimp only
      split_ifs <;> rfl
  refine ⟨(k1.callFrameHandler msg).2.emit (.parseCBUSMsg (k1.callFrameHandler msg).1),
    ?_, ?_, ?_, ?_⟩
  · rw [hm]
    rfl
  · rw [hm]
    rfl
  · rw [hm]
    rfl
  · rw [← hframe]
    unfold handleFrame
    dsimp only
    split_ifs <;> rfl

theorem moduleStep_parses {e : ModuleEvent} (h : n.handledFrame e = some msg) :
    ∃ m : CBUSbase, m.moduleConfig = n.moduleConfig ∧ m.bLearn = n.bLearn ∧
      m.bThisNN = n.isThisNN msg ∧ (n.moduleStep e).moduleConfig =
        (m.parseCBUSMsg (n.parsedFrame msg)).2.moduleConfig := by
  cases e with
  | poll i => exact absurd h (by simp [handledFrame])
  | notify msg now => exact absurd h (by simp [handledFrame])
  | received msg' pulseTime =>
    cases h
    exact handleFrame_parses ⟨n.rxBuffer, n.gcServer, n.coeObj, n.port, rfl⟩ _ pulseTime
  | iterate i =>
    have htake : ∃ rxBuffer gcServer coeObj port, ((n.arrive i).takeFrame i.canSend).2 =
        { n with rxBuffer := rxBuffer, gcServer := gcServer, coeObj := coeObj, port := port } :=
      (n.arrive i).takeFrame_frame i.canSend
    simp only [handledFrame] at h
    simp only [moduleStep, iterate]
    split_ifs at h ⊢ with havail
    rw [h]
    exact handleFrame_parses htake _ i.pulseTime

theorem keeps_iterate (n : CBUSbase) (i : FrameInput) :
    CBUSConfig.Keeps n.moduleConfig (n.iterate i).moduleConfig := by
  have htake : CBUSConfig.Keeps n.moduleConfig
      ((n.arrive i).takeFrame i.canSend).2.moduleConfig := .of_eq (takeFrame_moduleConfig _ _)
  unfold iterate
  dsimp only
  split_ifs
  · split
    · exact htake.trans (keeps_handleFrame _ _ _)
    · exact htake
  · exact .refl _

theorem keeps_moduleStep (n : CBUSbase) (e : ModuleEvent) :
    CBUSConfig.Keeps n.moduleConfig (n.moduleStep e).moduleConfig := by
  cases e with
  | poll i => exact n.keeps_poll i
  | iterate i => exact n.keeps_iterate i
  | received msg pulseTime => exact n.keeps_handleFrame msg pulseTime
  | notify msg now =>
    cases hr : n.checkIncomingFrame msg now with
    | none => exact .of_eq (by simp [moduleStep, hr])
    | some r =>
      obtain ⟨_, _, _, _, _, hframe⟩ := checkIncomingFrame_frame hr
      exact .of_eq (by simp [moduleStep, hr, hframe])

/-- An event that handles no frame changes the identity of the module only. -/
theorem moduleStep_sameTables {e : ModuleEvent} (h : n.handledFrame e = none) :
    CBUSConfig.SameTables n.moduleConfig (n.moduleStep e).moduleConfig := by
  have hrefl := CBUSConfig.SameTables.refl n.moduleConfig
  cases e with
  | poll i => exact n.sameTables_poll i
  | received msg pulseTime => exact absurd h (by simp [handledFrame])
  | notify msg now =>
    cases hr : n.checkIncomingFrame msg now with
    | none => simpa [moduleStep, hr] using hrefl
    | some r =>
      obtain ⟨_, _, _, _, _, hframe⟩ := checkIncomingFrame_frame hr
      simpa [moduleStep, hr, hframe] using hrefl
  | iterate i =>
    simp only [handledFrame] at h
    simp only [moduleStep, iterate]
    split_ifs at h ⊢ with havail
    · rw [h]
      dsimp only
      rw [takeFrame_moduleConfig]
      exact hrefl
    · exact hrefl

/-- What happens to the stored events: an event of the module, or a restart from the flash, with
whatever the RAM of the new object holds. -/
inductive StorageEvent
  | event (e : ModuleEvent)
  | restart (ram : CBUSbase)

def storageStep (n : CBUSbase) : StorageEvent → CBUSbase
  | .event e => n.moduleStep e
  | .restart ram => ram.startUp n.moduleConfig.toLayout n.moduleConfig.flash

def eventCommand (n : CBUSbase) : StorageEvent → List StoreCommand
  | .event e => ((n.handledFrame e).bind fun msg => n.executedCommand (n.parsedFrame msg)).toList
  | .restart _ => []

def IndexesInBounds (n : CBUSbase) : StorageEvent → Prop
  | .event e => ∀ msg, n.handledFrame e = some msg →
      IndexesExist { n with bThisNN := n.isThisNN msg } (n.parsedFrame msg)
  | .restart _ => True

theorem startUp_moduleConfig (n : CBUSbase) (l : Layout) (flash : FlashImage) :
    (n.startUp l flash).moduleConfig = (CBUSConfig.construct l flash).begin := by
  unfold startUp
  dsimp only
  rw [indicateFLiMMode_moduleConfig]

theorem represents_storageStep (h : n.moduleConfig.Represents s) {e : StorageEvent}
    (hg : n.IndexesInBounds e) : (n.storageStep e).moduleConfig.Represents
      (run StoreCommand.apply s (n.eventCommand e)) := by
  cases e with
  | restart ram =>
    change (ram.startUp n.moduleConfig.toLayout n.moduleConfig.flash).moduleConfig.Represents s
    rw [startUp_moduleConfig]
    exact h.powerUp
  | event e =>
    cases hmsg : n.handledFrame e with
    | none =>
      have hsame := moduleStep_sameTables hmsg
      have hcmd : n.eventCommand (.event e) = [] := by simp [eventCommand, hmsg]
      rw [hcmd]
      exact h.sameTables hsame (h.intact.keeps (n.keeps_moduleStep e)).synced
    | some msg =>
      obtain ⟨m, hconfig, hlearn, hthis, hstep⟩ := moduleStep_parses hmsg
      have hx := hg msg hmsg
      have hcmd : n.eventCommand (.event e) = (m.executedCommand (n.parsedFrame msg)).toList := by
        simp [eventCommand, hmsg, executedCommand, hlearn]
      have hindex : m.IndexesExist (n.parsedFrame msg) := by
        constructor
        · rw [hconfig, hlearn]
          exact hx.taught
        · rw [hconfig, hthis]
          exact hx.nodeVariable
      rw [hcmd]
      change (n.moduleStep e).moduleConfig.Represents _
      rw [hstep]
      exact represents_parseCBUSMsg (hconfig ▸ h) hindex

theorem represents_storageSteps (h : n.moduleConfig.Represents s) {es : List StorageEvent}
    (hg : Guarded storageStep IndexesInBounds n es) :
    (run storageStep n es).moduleConfig.Represents
      (run StoreCommand.apply s (emitted storageStep eventCommand n es)) := by
  have hstep : ∀ (m : CBUSbase) e (s : EventStore capacity),
      m.moduleConfig.Represents s → m.IndexesInBounds e →
        (m.storageStep e).moduleConfig.Represents (run StoreCommand.apply s (m.eventCommand e)) :=
    fun m e s h hx => represents_storageStep h hx
  exact Guarded.simulates hstep hg h

theorem represents_startUp (n : CBUSbase) {l : Layout} {flash : FlashImage} (hl : l.Fits)
    (hd : (CBUSConfig.construct l flash).loaded.NoPairTwice) :
    (n.startUp l flash).moduleConfig.Represents (n.startUp l flash).moduleConfig.eventStore := by
  have hconfig := n.startUp_moduleConfig l flash
  apply CBUSConfig.represents_eventStore
  · rw [hconfig]
    exact CBUSConfig.intact_begin hl flash
  · rw [hconfig]
    exact CBUSConfig.coherent_begin hl hd

/-- From a flash image without doubles on, in every state that polls, frames, interrupts and
restarts lead to: the table holds the events and variables that the commands so far, replayed on
the store of the image, leave. -/
theorem represents_storageRun (n : CBUSbase) (l : Layout) (flash : FlashImage) (hl : l.Fits)
    (hd : (CBUSConfig.construct l flash).loaded.NoPairTwice) (es : List StorageEvent)
    (hg : Guarded storageStep IndexesInBounds (n.startUp l flash) es) (ps : List StorageEvent)
    (hps : ps <+: es) :
    (run storageStep (n.startUp l flash) ps).moduleConfig.Represents
      (run StoreCommand.apply (n.startUp l flash).moduleConfig.eventStore
        (emitted storageStep eventCommand (n.startUp l flash) ps)) := by
  obtain ⟨rest, rfl⟩ := hps
  exact represents_storageSteps (n.represents_startUp hl hd) hg.of_append

/-- The small module, started, is taught an event and restarted. -/
def teachAndRestart : List StorageEvent :=
  [.event (.received learnFrame 0), .event (.received teachFrame 0), .restart smallModule]

theorem indexesInBounds_teachAndRestart : Guarded storageStep IndexesInBounds
    (smallModule.startUp CBUSConfig.smallLayout smallFlash) teachAndRestart := by
  refine ⟨?_, ?_, trivial, trivial⟩
  · rintro msg ⟨⟩
    constructor
    · intro hlearn
      exact absurd hlearn (by decide +kernel)
    · intro _ hopc
      exact absurd hopc (by decide +kernel)
  · rintro msg ⟨⟩
    constructor
    · intro _ evNum evVal ht
      have hfirst : taughtVariable ((smallModule.startUp CBUSConfig.smallLayout smallFlash).storageStep
          (.event (.received learnFrame 0)) |>.parsedFrame teachFrame) = some (1, 5) := by
        decide +kernel
      cases hfirst.symm.trans ht
      decide +kernel
    · intro _ hopc
      exact absurd hopc (by decide +kernel)

theorem represents_storageRun_teachAndRestart :
    (run storageStep (smallModule.startUp CBUSConfig.smallLayout smallFlash)
      teachAndRestart).moduleConfig.Represents
      (run StoreCommand.apply
        (smallModule.startUp CBUSConfig.smallLayout smallFlash).moduleConfig.eventStore
        (emitted storageStep eventCommand (smallModule.startUp CBUSConfig.smallLayout smallFlash)
          teachAndRestart)) :=
  represents_storageRun smallModule CBUSConfig.smallLayout smallFlash CBUSConfig.smallLayout_fits
    smallFlash_noPairTwice teachAndRestart indexesInBounds_teachAndRestart teachAndRestart
    List.prefix_rfl

end CBUSbase
end CBUSPicoLib
