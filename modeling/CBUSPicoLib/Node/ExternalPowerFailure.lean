import CBUSPicoLib.Node.ExternalBytes

/-!
# Power failures of a module with an external EEPROM

The power may fail between any two bytes of an operation or of a start. After an operation the
memory is that from before it or from behind it wherever the failure comes, exactly if the operation
changes at most one byte. A start sends the mark of an initialised memory last and is carried out
again. In every run in which the operations that are cut short change at most one byte, the module
is in a state to which a run without failures leads.
-/

namespace CBUSPicoLib

open Runs InterruptedWrites

namespace ExternalConfig

variable {n : ℕ} {l : Layout} {x : ExternalConfig n} {op : WriteOp}

/-- The power fails when some bytes of the operation have been sent, and comes back. -/
def failure (x : ExternalConfig n) (op : WriteOp) (sent : ℕ) : ExternalConfig n :=
  (x.afterBytes ((x.sentBytes op).take sent)).powerUp

/-- Wherever the power fails, the memory is that from before the operation or from behind it. -/
def Seamless (x : ExternalConfig n) (op : WriteOp) : Prop :=
  ∀ sent, (x.afterBytes ((x.sentBytes op).take sent)).eeprom = x.eeprom ∨
    (x.afterBytes ((x.sentBytes op).take sent)).eeprom = (x.writeOp op).eeprom

/-- The bytes of an operation that the memory does not hold yet. -/
def changedBytes (x : ExternalConfig n) (op : WriteOp) : List (UInt32 × UInt8) :=
  (x.sentBytes op).filter fun b => x.readEEPROM b.1 ≠ b.2

/-- The bytes of the identity that a start gives to a memory without the mark. -/
def identityBytes : List (UInt32 × UInt8) :=
  [(CBUSConfig.ofsFlimMode, 0), (CBUSConfig.ofsCanId, CBUSConfig.defaultCanid),
    (CBUSConfig.ofsNodeNumHb, highByte CBUSConfig.defaultNn.toNat),
    (CBUSConfig.ofsNodeNumLb, lowByte CBUSConfig.defaultNn.toNat), (CBUSConfig.ofsResetFlag, 0)]

def startBytes (x : ExternalConfig n) : List (UInt32 × UInt8) :=
  if x.readEEPROM CBUSConfig.ofsResetFlag = 0xFF then identityBytes else []

def failedStart (x : ExternalConfig n) (sent : ℕ) : ExternalConfig n :=
  (x.afterBytes (x.startBytes.take sent)).powerUp

/-- A failure cannot be seen exactly if the writes to the cells are atomic. -/
theorem seamless_iff_atomic (x : ExternalConfig n) (op : WriteOp) :
    x.Seamless op ↔ Atomic x.eeprom.data (x.cellBytes (x.sentBytes op)) := by
  obtain ⟨hcell, hdata⟩ := x.afterBytes_eeprom (x.sentBytes op)
  rw [← (x.writeOp_eq op).1] at hcell hdata
  apply forall_congr'
  intro sent
  obtain ⟨hcell', hdata'⟩ := x.afterBytes_eeprom ((x.sentBytes op).take sent)
  have htake : x.cellBytes ((x.sentBytes op).take sent) =
      (x.cellBytes (x.sentBytes op)).take sent := List.map_take
  rw [eeprom_eq_iff hcell', eeprom_eq_iff (hcell'.trans hcell.symm), hdata', hdata, htake]

theorem length_changing (x : ExternalConfig n) (op : WriteOp) :
    (changing x.eeprom.data (x.cellBytes (x.sentBytes op))).length =
      (x.changedBytes op).length := by
  rw [changing, cellBytes, List.filter_map, List.length_map]
  rfl

theorem Apart.atomic_iff (h : Apart l x) (hr : op.InRange l) :
    Atomic x.eeprom.data (x.cellBytes (x.sentBytes op)) ↔ (x.changedBytes op).length ≤ 1 := by
  have hsent := wellSent_sentBytes h.placed (h.inRange hr)
  rw [InterruptedWrites.atomic_iff (hsent.nodup_cells h.decoded'), length_changing]

theorem changedBytes_of_sentBytes (h : (x.sentBytes op).length ≤ 1) :
    (x.changedBytes op).length ≤ 1 := (List.length_filter_le _ _).trans h

theorem filter_eventBytes {idx : UInt8} {e : EventInfo} (hread : x.readEvent idx = e) :
    (x.eventBytes idx e).filter (fun b => x.readEEPROM b.1 ≠ b.2) = [] := by
  rw [readEvent_eq] at hread
  have hnode := (bytesToWord_high_low e.nodeNumber).trans
    (congrArg EventInfo.nodeNumber hread).symm
  have hevent := (bytesToWord_high_low e.eventNumber).trans
    (congrArg EventInfo.eventNumber hread).symm
  obtain ⟨h0, h1⟩ := bytesToWord_inj.mp hnode
  obtain ⟨h2, h3⟩ := bytesToWord_inj.mp hevent
  simp [eventBytes, h0, h1, h2, h3]

theorem changedBytes_teach {e : EventInfo} {evNum evVal : UInt8}
    (hread : x.readEvent (x.learnSlot e.nodeNumber e.eventNumber) = e) :
    (x.changedBytes (.command (.teach e evNum evVal))).length ≤ 1 := by
  have hone : ∀ b : UInt32 × UInt8,
      ([b].filter fun b => x.readEEPROM b.1 ≠ b.2).length ≤ 1 := fun b => List.length_filter_le _ _
  unfold changedBytes sentBytes commandBytes
  dsimp only
  split_ifs
  · rw [List.filter_append, filter_eventBytes hread, List.nil_append]
    exact hone _
  · rw [List.nil_append]
    exact hone _
  · exact Nat.zero_le 1

/-- A failure in an operation that changes one byte at most is a restart before it or behind it. -/
theorem Apart.failure_cases (h : Apart l x) (hr : op.InRange l)
    (hone : (x.changedBytes op).length ≤ 1) (sent : ℕ) :
    x.failure op sent = x.powerUp ∨ x.failure op sent = (x.writeOp op).powerUp := by
  obtain ⟨-, hlayout, -, hflash⟩ := x.writeOp_eq op
  have hseamless := (x.seamless_iff_atomic op).mpr ((h.atomic_iff hr).mpr hone)
  unfold failure ExternalConfig.powerUp
  rw [afterBytes_config, hlayout, hflash]
  rcases hseamless sent with heeprom | heeprom
  · exact Or.inl (by rw [heeprom])
  · exact Or.inr (by rw [heeprom])

theorem wellSent_identityBytes (x : ExternalConfig n) : x.WellSent identityBytes := by
  change ([0, 1, 2, 3, 5] : List ℕ).Nodup ∧ ∀ a ∈ ([0, 1, 2, 3, 5] : List ℕ), x.config.Used a
  refine ⟨by decide, fun a ha => ?_⟩
  have hmem : a < 4 ∨ a = 5 := by
    simp only [List.mem_cons, List.not_mem_nil, or_false] at ha
    omega
  exact hmem.elim Or.inl fun h => Or.inr (Or.inl h)

def beforeStart (x : ExternalConfig n) : ExternalConfig n where
  config := { CBUSConfig.construct x.config.toLayout x.config.flash with
    eeBytesPerEvent := x.config.eeNumEvs + 4 }
  eeprom := x.eeprom

theorem powerUp_eq (x : ExternalConfig n) : x.powerUp = x.beforeStart.makeEvHashTable.loadNVs := rfl

theorem powerUp_of_blank (h : x.readEEPROM CBUSConfig.ofsResetFlag = 0xFF) :
    x.powerUp = ⟨{ x.beforeStart.makeEvHashTable.config with
        bFLiM := false
        canId := CBUSConfig.defaultCanid
        nodeNum := CBUSConfig.defaultNn }, (x.afterBytes identityBytes).eeprom⟩ := by
  have hblank : x.beforeStart.makeEvHashTable.readEEPROM CBUSConfig.ofsResetFlag = 0xFF := h
  rw [powerUp_eq, loadNVs_of_blank hblank]
  rfl

theorem powerUp_of_marked (h : x.readEEPROM CBUSConfig.ofsResetFlag ≠ 0xFF) :
    x.powerUp = ⟨{ x.beforeStart.makeEvHashTable.config with
        bFLiM := x.readEEPROM CBUSConfig.ofsFlimMode != 0
        canId := x.readEEPROM CBUSConfig.ofsCanId
        nodeNum := (bytesToWord (x.readEEPROM CBUSConfig.ofsNodeNumHb)
          (x.readEEPROM CBUSConfig.ofsNodeNumLb)).toUInt32 }, x.eeprom⟩ := by
  have hmarked : x.beforeStart.makeEvHashTable.readEEPROM CBUSConfig.ofsResetFlag ≠ 0xFF := h
  rw [powerUp_eq, loadNVs_of_marked hmarked]
  rfl

theorem makeEvHashTable_beforeStart {y : ExternalConfig n} (hl : x.config.Fits)
    (hconfig : y.config = x.config) (hbyte : ∀ a, x.config.InEvents a → y.byteAt a = x.byteAt a) :
    y.beforeStart.makeEvHashTable.config = x.beforeStart.makeEvHashTable.config := by
  have hbefore : y.beforeStart.config = x.beforeStart.config := by
    simp only [beforeStart, hconfig]
  have hp : x.beforeStart.config.Placed := ⟨hl, rfl⟩
  have hhash : ∀ i < x.config.eeMaxEvents.toNat,
      y.beforeStart.eventHash (UInt8.ofNat i) = x.beforeStart.eventHash (UInt8.ofNat i) := by
    intro i hi
    have hidx : (UInt8.ofNat i).toNat < x.beforeStart.config.eeMaxEvents.toNat :=
      (CBUSConfig.toNat_ofNat_index hi).symm ▸ hi
    have hread : ∀ k : UInt32, k.toNat < 4 →
        y.beforeStart.readEEPROM (x.beforeStart.config.eventAddress (UInt8.ofNat i) k) =
          x.beforeStart.readEEPROM (x.beforeStart.config.eventAddress (UInt8.ofNat i) k) := by
      intro k hk
      rw [readEEPROM_eq, readEEPROM_eq, hp.eventAddress_toNat hidx (by omega)]
      exact hbyte _ (Layout.slotBase_add_inEvents hidx (by omega))
    have hevent : y.beforeStart.readEvent (UInt8.ofNat i) =
        x.beforeStart.readEvent (UInt8.ofNat i) := by
      rw [readEvent_eq, hbefore, hread 0 (by decide), hread 1 (by decide), hread 2 (by decide),
        hread 3 (by decide), readEvent_eq]
    rw [eventHash_eq, hevent, eventHash_eq]
  have htable : (List.range x.config.eeMaxEvents.toNat).map
        (fun i => y.beforeStart.eventHash (UInt8.ofNat i)) =
      (List.range x.config.eeMaxEvents.toNat).map
        fun i => x.beforeStart.eventHash (UInt8.ofNat i) :=
    List.map_congr_left fun i hi => hhash i (List.mem_range.mp hi)
  have hmax : y.beforeStart.config.eeMaxEvents = x.config.eeMaxEvents := by rw [hbefore]; rfl
  rw [makeEvHashTable_eq, hmax, htable]
  simp only [setHashTable, ByteStore.setHashTable, config_eq, hbefore]
  rfl

namespace Apart

theorem mem_addresses {b : UInt32 × UInt8} {sent : ℕ} (hb : b ∈ identityBytes.take sent) :
    b.1.toNat ∈ ([0, 1, 2, 3, 5] : List ℕ).take sent := by
  have haddresses : identityBytes.map (·.1.toNat) = [0, 1, 2, 3, 5] := rfl
  rw [← haddresses, ← List.map_take]
  exact List.mem_map_of_mem hb

theorem used_identityBytes (x : ExternalConfig n) (sent : ℕ) :
    ∀ b ∈ identityBytes.take sent, x.config.Used b.1.toNat := fun _ hb =>
  x.wellSent_identityBytes.2 _ (List.mem_map_of_mem (f := fun b : UInt32 × UInt8 => b.1.toNat)
    (List.mem_of_mem_take hb))

theorem makeEvHashTable_identityBytes (h : Apart l x) (sent : ℕ) :
    (x.afterBytes (identityBytes.take sent)).beforeStart.makeEvHashTable.config =
      x.beforeStart.makeEvHashTable.config := by
  have hl : x.config.Fits := h.placed.fits
  refine makeEvHashTable_beforeStart hl (x.afterBytes_config _) fun a ha => ?_
  apply byteAt_afterBytes h.decoded' (used_identityBytes x sent) (Or.inr (Or.inr (Or.inl ha)))
  intro b hb heq
  have hhigh := (hl.events a ha).1
  have hmem := List.mem_of_mem_take (mem_addresses hb)
  simp only [List.mem_cons, List.not_mem_nil, or_false] at hmem
  omega

theorem readEEPROM_short (h : Apart l x) {sent : ℕ} (hshort : sent < 5) :
    (x.afterBytes (identityBytes.take sent)).readEEPROM CBUSConfig.ofsResetFlag =
      x.readEEPROM CBUSConfig.ofsResetFlag := by
  rw [readEEPROM_eq, readEEPROM_eq]
  apply byteAt_afterBytes h.decoded' (used_identityBytes x sent) (Or.inr (Or.inl rfl))
  intro b hb heq
  have hmem := mem_addresses hb
  rw [← heq] at hmem
  change 5 ∈ ([0, 1, 2, 3, 5] : List ℕ).take sent at hmem
  interval_cases sent <;> simp at hmem

theorem powerUp_identityBytes (h : Apart l x) :
    (x.afterBytes identityBytes).powerUp = ⟨{ x.beforeStart.makeEvHashTable.config with
      bFLiM := false
      canId := CBUSConfig.defaultCanid
      nodeNum := CBUSConfig.defaultNn }, (x.afterBytes identityBytes).eeprom⟩ := by
  have hread : ∀ b ∈ identityBytes, (x.afterBytes identityBytes).readEEPROM b.1 = b.2 :=
    fun b hb => readEEPROM_afterBytes x.wellSent_identityBytes h.decoded' hb
  have hmark := hread (CBUSConfig.ofsResetFlag, 0) (by decide)
  have h0 := hread (CBUSConfig.ofsFlimMode, 0) (by decide)
  have h1 := hread (CBUSConfig.ofsCanId, CBUSConfig.defaultCanid) (by decide)
  have h2 := hread (CBUSConfig.ofsNodeNumHb, highByte CBUSConfig.defaultNn.toNat) (by decide)
  have h3 := hread (CBUSConfig.ofsNodeNumLb, lowByte CBUSConfig.defaultNn.toNat) (by decide)
  have hconfig := h.makeEvHashTable_identityBytes identityBytes.length
  rw [List.take_length] at hconfig
  dsimp only at hmark h0 h1 h2 h3
  rw [powerUp_of_marked (by rw [hmark]; decide), hconfig, h0, h1, h2, h3]
  rfl

theorem failedStart_eq (h : Apart l x) (sent : ℕ) : x.failedStart sent = x.powerUp := by
  by_cases hflag : x.readEEPROM CBUSConfig.ofsResetFlag = 0xFF
  · rw [failedStart, startBytes, if_pos hflag, powerUp_of_blank hflag]
    by_cases hshort : sent < 5
    · rw [powerUp_of_blank ((h.readEEPROM_short hshort).trans hflag),
        h.makeEvHashTable_identityBytes, afterBytes_resume]
    · rw [List.take_of_length_le (show identityBytes.length ≤ sent from Nat.le_of_not_lt hshort)]
      exact h.powerUp_identityBytes
  · rw [failedStart, startBytes, if_neg hflag, List.take_nil]
    rfl

end Apart

end ExternalConfig

/-- An operation that writes or a restart, in which the power may fail. -/
inductive SupplyEvent
  | write (op : WriteOp)
  | restart
  | failure (op : WriteOp) (sent : ℕ)
  | failedStart (sent : ℕ)

namespace SupplyEvent

variable {n : ℕ} {l : Layout} {x : ExternalConfig n}

def step (x : ExternalConfig n) : SupplyEvent → ExternalConfig n
  | .write op => x.writeOp op
  | .restart => x.powerUp
  | .failure op sent => x.failure op sent
  | .failedStart sent => x.failedStart sent

/-- An operation that is cut short changes one byte at most. -/
def Bounded (x : ExternalConfig n) : SupplyEvent → Prop
  | .failure op _ => op.InRange x.config.toLayout ∧ (x.changedBytes op).length ≤ 1
  | _ => True

end SupplyEvent

/-- Every operation that was cut short has happened or not, before the restart, and every start
that was cut short is carried out. -/
inductive Resolves : List SupplyEvent → List ConfigEvent → Prop
  | nil : Resolves [] []
  | write {evs : List SupplyEvent} {es : List ConfigEvent} (op : WriteOp) (h : Resolves evs es) :
      Resolves (.write op :: evs) (.write op :: es)
  | restart {evs : List SupplyEvent} {es : List ConfigEvent} (h : Resolves evs es) :
      Resolves (.restart :: evs) (.restart :: es)
  | failedStart {evs : List SupplyEvent} {es : List ConfigEvent} (sent : ℕ)
      (h : Resolves evs es) : Resolves (.failedStart sent :: evs) (.restart :: es)
  | dropped {evs : List SupplyEvent} {es : List ConfigEvent} (op : WriteOp) (sent : ℕ)
      (h : Resolves evs es) : Resolves (.failure op sent :: evs) (.restart :: es)
  | done {evs : List SupplyEvent} {es : List ConfigEvent} (op : WriteOp) (sent : ℕ)
      (h : Resolves evs es) : Resolves (.failure op sent :: evs) (.write op :: .restart :: es)

namespace ExternalConfig

variable {n : ℕ} {l : Layout} {x : ExternalConfig n} {op : WriteOp}

/-- In every run in which the operations that are cut short change one byte at most, the module is
where a run without failures leads. -/
theorem run_resolved (h : Apart l x) {evs : List SupplyEvent}
    (hb : Guarded SupplyEvent.step SupplyEvent.Bounded x evs) :
    ∃ es, Resolves evs es ∧
      run SupplyEvent.step x evs = run ConfigEvent.onExternal x es := by
  induction evs generalizing x with
  | nil => exact ⟨[], .nil, rfl⟩
  | cons ev evs ih =>
    cases ev with
    | write op =>
      obtain ⟨es, hes, hrun⟩ := ih (h.writeOp op) hb.2
      exact ⟨.write op :: es, hes.write op, hrun⟩
    | restart =>
      obtain ⟨es, hes, hrun⟩ := ih h.powerUp hb.2
      exact ⟨.restart :: es, hes.restart, hrun⟩
    | failedStart sent =>
      obtain ⟨-, hrest⟩ := hb
      change Guarded _ _ (x.failedStart sent) evs at hrest
      rw [h.failedStart_eq] at hrest
      obtain ⟨es, hes, hrun⟩ := ih h.powerUp hrest
      refine ⟨.restart :: es, hes.failedStart sent, ?_⟩
      rw [run_cons, SupplyEvent.step, h.failedStart_eq, hrun]
      rfl
    | failure op sent =>
      obtain ⟨⟨hr, hone⟩, hrest⟩ := hb
      rw [h.layout] at hr
      change Guarded _ _ (x.failure op sent) evs at hrest
      rcases h.failure_cases hr hone sent with hfail | hfail
      · rw [hfail] at hrest
        obtain ⟨es, hes, hrun⟩ := ih h.powerUp hrest
        refine ⟨.restart :: es, hes.dropped op sent, ?_⟩
        rw [run_cons, SupplyEvent.step, hfail, hrun]
        rfl
      · rw [hfail] at hrest
        obtain ⟨es, hes, hrun⟩ := ih (h.writeOp op).powerUp hrest
        refine ⟨.write op :: .restart :: es, hes.done op sent, ?_⟩
        rw [run_cons, SupplyEvent.step, hfail, hrun]
        rfl

def teachFirst : WriteOp := .command (.teach ⟨1, 2⟩ 1 5)

def tinyBlank : ExternalConfig 16 where
  config := { CBUSConfig.construct tinyLayout (Memory.const 0) with eeBytesPerEvent := 6 }
  eeprom := tinyEeprom

theorem apart_tinyBlank : Apart tinyLayout tinyBlank where
  layout := rfl
  placed := ⟨tinyLayout_fits, rfl⟩
  decoded := decodedBy_tinyEeprom

/-- The power fails in the first start, and when a variable of the event and the CAN ID are
written. -/
def failingSupply : List SupplyEvent :=
  [.failedStart 2, .write teachFirst, .failure (.command (.teach ⟨1, 2⟩ 2 7)) 1,
    .failure (.setCANID 9) 0]

theorem run_resolved_failingSupply :
    (∃ es, Resolves failingSupply es ∧
      run SupplyEvent.step tinyBlank failingSupply = run ConfigEvent.onExternal tinyBlank es) ∧
      (run SupplyEvent.step tinyBlank failingSupply).getEventEVval 0 2 = 7 := by
  refine ⟨run_resolved apart_tinyBlank ?_, by decide +kernel⟩
  have hstarted : Apart tinyLayout (tinyBlank.failedStart 2) := by
    rw [apart_tinyBlank.failedStart_eq]
    exact apart_tinyBlank.powerUp
  have htaught := hstarted.writeOp teachFirst
  refine ⟨trivial, trivial, ⟨htaught.inRange (show (2 : UInt8) ≤ 2 by decide), ?_⟩, ⟨trivial, ?_⟩,
    trivial⟩
  · exact changedBytes_teach (by decide +kernel)
  · exact changedBytes_of_sentBytes (by decide)

/-- A power failure in an operation cannot be seen exactly if it changes one byte at most. -/
theorem seamless_iff (h : Apart l x) (hr : op.InRange l) :
    x.Seamless op ↔ (x.changedBytes op).length ≤ 1 :=
  (x.seamless_iff_atomic op).trans (h.atomic_iff hr)

/-- If the power fails in the middle of a new event, another one is found. -/
theorem not_seamless_teachFirst : ¬ tinyBlank.powerUp.Seamless teachFirst ∧
    ((tinyBlank.powerUp.failure teachFirst 2).findExistingEvent 1 0xFFFF).toNat = 0 := by
  have hr : teachFirst.InRange tinyLayout := show (1 : UInt8) ≤ 2 by decide
  refine ⟨?_, by decide +kernel⟩
  rw [seamless_iff apart_tinyBlank.powerUp hr]
  decide +kernel

end ExternalConfig
end CBUSPicoLib
