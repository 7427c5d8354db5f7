import CBUSPicoLib.Library.InterruptedWrites
import CBUSPicoLib.Node.ExternalStorage

/-!
# The bytes that reach an external EEPROM

An operation sends its bytes to the memory one by one, with a byte for the address and one for the
value. No operation sends two bytes to one address, so its writes go to different cells where the
addresses of the layout select different cells.
-/

namespace CBUSPicoLib

open InterruptedWrites

namespace ExternalConfig

variable {n : ℕ} {l : Layout} {x : ExternalConfig n} {op : WriteOp}

def eventBytes (x : ExternalConfig n) (index : UInt8) (evInfo : EventInfo) :
    List (UInt32 × UInt8) :=
  [(x.config.eventAddress index 0, highByte evInfo.nodeNumber.toNat),
    (x.config.eventAddress index 1, lowByte evInfo.nodeNumber.toNat),
    (x.config.eventAddress index 2, highByte evInfo.eventNumber.toNat),
    (x.config.eventAddress index 3, lowByte evInfo.eventNumber.toNat)]

def commandBytes (x : ExternalConfig n) : StoreCommand → List (UInt32 × UInt8)
  | .clear => (List.range x.config.eeMaxEvents.toNat).flatMap fun e =>
      x.eventBytes (UInt8.ofNat e) evInfoUnused
  | .remove e =>
    let index := x.findExistingEvent e.nodeNumber e.eventNumber
    if index < x.config.eeMaxEvents then x.eventBytes index evInfoUnused else []
  | .teach e evNum evVal =>
    let index := x.learnSlot e.nodeNumber e.eventNumber
    if evNum ≠ 0 ∧ index < x.config.eeMaxEvents then
      (if evNum < 2 then x.eventBytes index e else []) ++
        [(x.config.eventAddress index (3 + evNum.toUInt32), evVal)]
    else []

/-- The bytes that an operation sends to the memory, in order. -/
def sentBytes (x : ExternalConfig n) : WriteOp → List (UInt32 × UInt8)
  | .command cmd => x.commandBytes cmd
  | .writeNV idx val => [(x.config.eeNvsStart + (idx.toUInt32 - 1), val)]
  | .setCANID canid => if 1 ≤ canid ∧ canid ≤ 99 then [(CBUSConfig.ofsCanId, canid)] else []
  | .setFLiM flim => [(CBUSConfig.ofsFlimMode, if flim then 1 else 0)]
  | .setNodeNum nn => [(CBUSConfig.ofsNodeNumHb, highByte nn.toUInt32.toNat),
      (CBUSConfig.ofsNodeNumLb, lowByte nn.toUInt32.toNat)]

def afterBytes (x : ExternalConfig n) (bytes : List (UInt32 × UInt8)) : ExternalConfig n :=
  bytes.foldl (fun x b => x.writeEEPROM b.1 b.2) x

theorem afterBytes_append (x : ExternalConfig n) (bytes rest : List (UInt32 × UInt8)) :
    x.afterBytes (bytes ++ rest) = (x.afterBytes bytes).afterBytes rest := List.foldl_append

@[simp] theorem afterBytes_config (x : ExternalConfig n) (bytes : List (UInt32 × UInt8)) :
    (x.afterBytes bytes).config = x.config := by
  induction bytes generalizing x with
  | nil => rfl
  | cons b bytes ih => exact ih (x.writeEEPROM b.1 b.2)

theorem writeEvent_eq (x : ExternalConfig n) (index : UInt8) (e : EventInfo) (bFlush : Bool) :
    x.writeEvent index e bFlush = x.afterBytes (x.eventBytes index e) := by
  cases bFlush <;> rfl

theorem clearEvents_eq (x : ExternalConfig n) (slots : List ℕ) :
    slots.foldl (fun x e => x.clearEventEEPROM (UInt8.ofNat e) false) x =
      x.afterBytes (slots.flatMap fun e => x.eventBytes (UInt8.ofNat e) evInfoUnused) := by
  induction slots generalizing x with
  | nil => rfl
  | cons e slots ih =>
    rw [List.foldl_cons, ih, List.flatMap_cons, afterBytes_append, clearEventEEPROM_eq,
      writeEvent_eq]
    simp only [eventBytes, afterBytes_config]

/-- What an operation leaves in the memory, and that the layout is kept. -/
theorem writeOp_eq (x : ExternalConfig n) (op : WriteOp) :
    (x.writeOp op).eeprom = (x.afterBytes (x.sentBytes op)).eeprom ∧
      (x.writeOp op).config.toLayout = x.config.toLayout ∧
      (x.writeOp op).config.eeBytesPerEvent = x.config.eeBytesPerEvent ∧
      (x.writeOp op).config.flash = x.config.flash := by
  cases op with
  | command cmd =>
    cases cmd with
    | clear =>
      have hconfig := x.afterBytes_config (x.sentBytes (.command .clear))
      rw [writeOp_command, storeCommand_clear, clearEventsEEPROM_eq, clearEvents_eq]
      have hlayout := congrArg CBUSConfig.toLayout hconfig
      have hsize := congrArg CBUSConfig.eeBytesPerEvent hconfig
      have hflash := congrArg CBUSConfig.flash hconfig
      exact ⟨rfl, hlayout, hsize, hflash⟩
    | remove e =>
      rw [writeOp_command, storeCommand_remove]
      unfold sentBytes commandBytes
      dsimp only
      split_ifs
      · exact ⟨rfl, rfl, rfl, rfl⟩
      · exact ⟨rfl, rfl, rfl, rfl⟩
    | teach e evNum evVal =>
      rw [writeOp_command, storeCommand_teach]
      unfold sentBytes commandBytes
      simp only [learnEvent_eq]
      split_ifs
      · exact ⟨rfl, rfl, rfl, rfl⟩
      · exact ⟨rfl, rfl, rfl, rfl⟩
      · exact ⟨rfl, rfl, rfl, rfl⟩
  | writeNV idx val => exact ⟨rfl, rfl, rfl, rfl⟩
  | setCANID canid =>
    rw [writeOp_setCANID, setCANID_eq]
    unfold sentBytes
    dsimp only
    split_ifs
    · exact ⟨rfl, rfl, rfl, rfl⟩
    · exact ⟨rfl, rfl, rfl, rfl⟩
  | setFLiM flim => exact ⟨rfl, rfl, rfl, rfl⟩
  | setNodeNum nn => exact ⟨rfl, rfl, rfl, rfl⟩

def cellBytes (x : ExternalConfig n) (bytes : List (UInt32 × UInt8)) : List (Fin n × UInt8) :=
  bytes.map fun b => (x.eeprom.cell b.1.toUInt8, b.2)

theorem afterBytes_eeprom (x : ExternalConfig n) (bytes : List (UInt32 × UInt8)) :
    (x.afterBytes bytes).eeprom.cell = x.eeprom.cell ∧
      (x.afterBytes bytes).eeprom.data = storeAll x.eeprom.data (x.cellBytes bytes) := by
  induction bytes generalizing x with
  | nil => exact ⟨rfl, rfl⟩
  | cons b bytes ih => exact ih (x.writeEEPROM b.1 b.2)

theorem eeprom_eq_iff {e e' : SerialEeprom n} (h : e.cell = e'.cell) :
    e = e' ↔ e.data = e'.data := by
  obtain ⟨cell, data⟩ := e
  obtain ⟨cell', data'⟩ := e'
  subst h
  simp

theorem map_eventBytes (hp : x.config.Placed) {idx : UInt8}
    (hi : idx.toNat < x.config.eeMaxEvents.toNat) (e : EventInfo) :
    (x.eventBytes idx e).map (·.1.toNat) =
      (List.range 4).map (x.config.slotBase idx.toNat + ·) := by
  have haddr : ∀ k : UInt32, k.toNat < 4 → (x.config.eventAddress idx k).toNat =
      x.config.slotBase idx.toNat + k.toNat :=
    fun k hk => hp.eventAddress_toNat hi (by omega)
  simp only [eventBytes, List.map_cons, List.map_nil, haddr 0 (by decide), haddr 1 (by decide),
    haddr 2 (by decide), haddr 3 (by decide)]
  rfl

theorem mem_eventBytes (hp : x.config.Placed) {idx : UInt8}
    (hi : idx.toNat < x.config.eeMaxEvents.toNat) {e : EventInfo} {a : ℕ}
    (ha : a ∈ (x.eventBytes idx e).map (·.1.toNat)) :
    ∃ k < 4, a = x.config.slotBase idx.toNat + k := by
  rw [map_eventBytes hp hi] at ha
  obtain ⟨k, hk, rfl⟩ := List.mem_map.mp ha
  exact ⟨k, List.mem_range.mp hk, rfl⟩

theorem used_variable (hp : x.config.Placed) {idx evNum : UInt8}
    (hi : idx.toNat < x.config.eeMaxEvents.toNat) (hev : evNum ≤ x.config.eeNumEvs) :
    x.config.Used (x.config.eventAddress idx (3 + evNum.toUInt32)).toNat := by
  have hle := UInt8.le_iff_toNat_le.mp hev
  rw [hp.eventAddress_variable hi]
  exact Or.inr (Or.inr (Or.inl (Layout.slotBase_add_inEvents hi (by omega))))

/-- No byte is sent twice, and all bytes belong to the layout. -/
def WellSent (x : ExternalConfig n) (bytes : List (UInt32 × UInt8)) : Prop :=
  (bytes.map (·.1.toNat)).Nodup ∧ ∀ a ∈ bytes.map (·.1.toNat), x.config.Used a

theorem wellSent_nil (x : ExternalConfig n) : x.WellSent [] :=
  ⟨List.nodup_nil, fun _ ha => absurd ha List.not_mem_nil⟩

theorem wellSent_singleton {b : UInt32 × UInt8} (h : x.config.Used b.1.toNat) :
    x.WellSent [b] := by
  refine ⟨List.nodup_singleton _, fun a ha => ?_⟩
  rwa [List.mem_singleton.mp ha]

theorem wellSent_eventBytes (hp : x.config.Placed) {idx : UInt8}
    (hi : idx.toNat < x.config.eeMaxEvents.toNat) (e : EventInfo) :
    x.WellSent (x.eventBytes idx e) := by
  refine ⟨?_, fun a ha => ?_⟩
  · rw [map_eventBytes hp hi]
    exact List.nodup_range.map fun _ _ h => Nat.add_left_cancel h
  · obtain ⟨k, hk, rfl⟩ := mem_eventBytes hp hi ha
    exact Or.inr (Or.inr (Or.inl (Layout.slotBase_add_inEvents hi (by omega))))

theorem wellSent_commandBytes (hp : x.config.Placed) {cmd : StoreCommand}
    (hr : cmd.InRange x.config.toLayout) : x.WellSent (x.commandBytes cmd) := by
  cases cmd with
  | clear =>
    have hslot : ∀ i ∈ List.range x.config.eeMaxEvents.toNat,
        (UInt8.ofNat i).toNat = i ∧ (UInt8.ofNat i).toNat < x.config.eeMaxEvents.toNat := by
      intro i hi
      have hidx := CBUSConfig.toNat_ofNat_index (List.mem_range.mp hi)
      exact ⟨hidx, hidx.symm ▸ List.mem_range.mp hi⟩
    rw [WellSent, commandBytes, List.map_flatMap, List.nodup_flatMap]
    refine ⟨⟨fun i hi => (wellSent_eventBytes hp (hslot i hi).2 _).1, ?_⟩, fun a ha => ?_⟩
    · apply List.nodup_range.pairwise_of_forall_ne
      intro i hi j hj hne a ha ha'
      obtain ⟨k, hk, rfl⟩ := mem_eventBytes hp (hslot i hi).2 ha
      obtain ⟨m, hm, heq⟩ := mem_eventBytes hp (hslot j hj).2 ha'
      rw [(hslot i hi).1, (hslot j hj).1] at heq
      exact Layout.slotBase_add_ne hne (by omega) (by omega) heq
    · obtain ⟨i, hi, ha⟩ := List.mem_flatMap.mp ha
      exact (wellSent_eventBytes hp (hslot i hi).2 _).2 a ha
  | remove e =>
    unfold commandBytes
    dsimp only
    split_ifs with hi
    · exact wellSent_eventBytes hp (UInt8.lt_iff_toNat_lt.mp hi) _
    · exact x.wellSent_nil
  | teach e evNum evVal =>
    unfold commandBytes
    dsimp only
    split_ifs with hi hone
    · -- the variable lies behind the identity
      have hi' := UInt8.lt_iff_toNat_lt.mp hi.2
      have haddr := hp.eventAddress_variable hi' evNum
      have hpos : 0 < evNum.toNat := Nat.pos_of_ne_zero fun hz => hi.1 (UInt8.toNat_inj.mp hz)
      obtain ⟨hnodup, hused⟩ := wellSent_eventBytes hp hi' e
      rw [WellSent, List.map_append]
      refine ⟨hnodup.append (List.nodup_singleton _) ?_, fun a ha => ?_⟩
      · intro a ha ha'
        obtain ⟨k, hk, rfl⟩ := mem_eventBytes hp hi' ha
        rw [List.map_singleton, List.mem_singleton, haddr] at ha'
        omega
      · rcases List.mem_append.mp ha with ha | ha
        · exact hused a ha
        · exact (wellSent_singleton (used_variable hp hi' hr)).2 a ha
    · exact wellSent_singleton (used_variable hp (UInt8.lt_iff_toNat_lt.mp hi.2) hr)
    · exact x.wellSent_nil

theorem wellSent_sentBytes (hp : x.config.Placed) (hr : op.InRange x.config.toLayout) :
    x.WellSent (x.sentBytes op) := by
  cases op with
  | command cmd => exact wellSent_commandBytes hp hr
  | writeNV idx val =>
    have hle := UInt8.le_iff_toNat_le.mp hr.2
    have hpos : 0 < idx.toNat := Nat.pos_of_ne_zero fun hz => hr.1 (UInt8.toNat_inj.mp hz)
    have haddr := (CBUSConfig.writeNV_toNat hp (show idx.toNat - 1 < _ by omega)).1
    rw [Nat.sub_add_cancel hpos, UInt8.ofNat_toNat] at haddr
    apply wellSent_singleton
    rw [haddr]
    exact Or.inr (Or.inr (Or.inr ⟨by omega, by omega⟩))
  | setCANID canid =>
    unfold sentBytes
    dsimp only
    split_ifs
    · exact wellSent_singleton (Or.inl (show (1 : ℕ) < 4 by decide))
    · exact x.wellSent_nil
  | setFLiM flim => exact wellSent_singleton (Or.inl (show (0 : ℕ) < 4 by decide))
  | setNodeNum nn =>
    change ([2, 3] : List ℕ).Nodup ∧ ∀ a ∈ ([2, 3] : List ℕ), x.config.Used a
    refine ⟨by decide, fun a ha => Or.inl ?_⟩
    have hmem : a = 2 ∨ a = 3 := by simpa using ha
    omega

theorem WellSent.nodup_cells {bytes : List (UInt32 × UInt8)} (h : x.WellSent bytes)
    (hd : x.config.DecodedBy x.eeprom.cell) : ((x.cellBytes bytes).map Prod.fst).Nodup := by
  have hcells : (x.cellBytes bytes).map Prod.fst =
      (bytes.map (·.1.toNat)).map fun a => x.eeprom.cell (UInt8.ofNat a) := by
    simp [cellBytes, Function.comp_def]
  rw [hcells]
  exact h.1.map_on fun a ha b hb heq => hd (h.2 a ha) (h.2 b hb) heq

theorem byteAt_afterBytes {bytes : List (UInt32 × UInt8)} (hd : x.config.DecodedBy x.eeprom.cell)
    (hused : ∀ b ∈ bytes, x.config.Used b.1.toNat) {a : ℕ} (ha : x.config.Used a)
    (hne : ∀ b ∈ bytes, a ≠ b.1.toNat) : (x.afterBytes bytes).byteAt a = x.byteAt a := by
  induction bytes generalizing x with
  | nil => rfl
  | cons b bytes ih =>
    have hrest := ih (x := x.writeEEPROM b.1 b.2) hd
      (fun b' hb' => hused b' (List.mem_cons_of_mem b hb')) ha
      fun b' hb' => hne b' (List.mem_cons_of_mem b hb')
    have hone := byteAt_writeEEPROM hd (hused b List.mem_cons_self) b.2 ha
    rw [if_neg (hne b List.mem_cons_self)] at hone
    exact hrest.trans hone

theorem readEEPROM_afterBytes {bytes : List (UInt32 × UInt8)} (h : x.WellSent bytes)
    (hd : x.config.DecodedBy x.eeprom.cell) {b : UInt32 × UInt8} (hb : b ∈ bytes) :
    (x.afterBytes bytes).readEEPROM b.1 = b.2 := by
  obtain ⟨hcell, hdata⟩ := x.afterBytes_eeprom bytes
  have hmem : (x.eeprom.cell b.1.toUInt8, b.2) ∈ x.cellBytes bytes :=
    List.mem_map_of_mem (f := fun b => (x.eeprom.cell b.1.toUInt8, b.2)) hb
  rw [readEEPROM, hcell, hdata]
  exact storeAll_of_mem (h.nodup_cells hd) hmem

theorem afterBytes_resume (x : ExternalConfig n) (bytes : List (UInt32 × UInt8)) (k : ℕ) :
    ((x.afterBytes (bytes.take k)).afterBytes bytes).eeprom = (x.afterBytes bytes).eeprom := by
  obtain ⟨hcell, hdata⟩ := x.afterBytes_eeprom bytes
  obtain ⟨hcell', hdata'⟩ := x.afterBytes_eeprom (bytes.take k)
  obtain ⟨hcell'', hdata''⟩ := (x.afterBytes (bytes.take k)).afterBytes_eeprom bytes
  have hcells : (x.afterBytes (bytes.take k)).cellBytes bytes = x.cellBytes bytes := by
    rw [cellBytes, hcell', cellBytes]
  have htake : x.cellBytes (bytes.take k) = (x.cellBytes bytes).take k := List.map_take
  rw [eeprom_eq_iff ((hcell''.trans hcell').trans hcell.symm), hdata'', hdata', hdata, hcells,
    htake, storeAll_resume]

/-- The layout is placed in a memory that keeps its addresses apart. -/
structure Apart (l : Layout) (x : ExternalConfig n) : Prop where
  layout : x.config.toLayout = l
  placed : x.config.Placed
  decoded : l.DecodedBy x.eeprom.cell

theorem Apart.decoded' (h : Apart l x) : x.config.DecodedBy x.eeprom.cell := by
  rw [h.layout]
  exact h.decoded

theorem Apart.inRange (h : Apart l x) (hr : op.InRange l) : op.InRange x.config.toLayout := by
  rw [h.layout]
  exact hr

theorem Apart.writeOp (h : Apart l x) (op : WriteOp) : Apart l (x.writeOp op) := by
  obtain ⟨heeprom, hlayout, hsize, -⟩ := x.writeOp_eq op
  have hcell := (x.afterBytes_eeprom (x.sentBytes op)).1
  refine ⟨hlayout.trans h.layout, ⟨hlayout ▸ h.placed.fits, ?_⟩, ?_⟩
  · rw [hsize, hlayout]
    exact h.placed.bytesPerEvent
  · rw [heeprom, hcell]
    exact h.decoded

theorem Mirrors.apart {c : CBUSConfig} (h : Mirrors l x c) : Apart l x where
  layout := h.toLayout
  placed := h.placed.of_eventRam h.eventRam
  decoded := h.decoded

theorem Apart.start (hl : l.Fits) {eeprom : SerialEeprom n} (hd : l.DecodedBy eeprom.cell)
    (unused : FlashImage) : Apart l (ExternalConfig.start l unused eeprom) := by
  let flash : FlashImage := fun a => eeprom.data (eeprom.cell (UInt8.ofNat a))
  have himage : ∀ a, l.Used a → eeprom.data (eeprom.cell (UInt8.ofNat a)) = flash.read 0xFF a :=
    fun a ha => (Memory.read_of_lt (m := flash) (hl.used_lt ha)).symm
  exact (Mirrors.start hl hd himage unused).apart

theorem Apart.powerUp (h : Apart l x) : Apart l x.powerUp := by
  unfold ExternalConfig.powerUp
  rw [h.layout]
  exact Apart.start (h.layout ▸ h.placed.fits) h.decoded _

end ExternalConfig
end CBUSPicoLib
