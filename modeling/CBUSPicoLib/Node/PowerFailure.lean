import CBUSPicoLib.Node.PermanentData

/-!
# A module whose power may fail at any time

The device runs, or is switched off and has its flash only. The power may fail during any
operation and during the start, before or after any call of the flash library. Whatever happens,
the next start finds the data of the operations so far, where an operation that was cut short has
happened or not, except that a new event may have come without its variable, and that everything
is lost in the time between an erase and the program behind it.
-/

namespace CBUSPicoLib

open Runs

/-- A module with or without power. -/
inductive Device
  | off (flash : FlashImage)
  | on (c : CBUSConfig)

/-- What happens to a device. A failure comes after a number of calls of the flash library. -/
inductive DeviceEvent
  | write (op : WriteOp)
  | failure (op : WriteOp) (calls : ℕ)
  | switchOff
  | start
  | failedStart (calls : ℕ)

/-- What the start means for the data, and what an operation means whose power may fail. -/
inductive PowerEvent
  | write (op : WriteOp)
  | failure (op : WriteOp) (erases : Bool)
  | failedStart (erases : Bool)

/-- What may become of the data. -/
inductive PowerStep {capacity : ℕ} :
    PermanentData capacity → PowerEvent → PermanentData capacity → Prop
  | write (s : PermanentData capacity) (op : WriteOp) : PowerStep s (.write op) (op.apply s)
  | before (s : PermanentData capacity) (op : WriteOp) (erases : Bool) :
      PowerStep s (.failure op erases) s
  | after (s : PermanentData capacity) (op : WriteOp) (erases : Bool) :
      PowerStep s (.failure op erases) (op.apply s)
  /-- The event is stored, with the variable that its slot had before. -/
  | half (s : PermanentData capacity) (e : EventInfo) (evVal stale : UInt8) (erases : Bool)
      (new : e ∉ s.events.keys) :
      PowerStep s (.failure (.command (.teach e 1 evVal)) erases)
        ((WriteOp.command (.teach e 1 stale)).apply s)
  | erased (s : PermanentData capacity) (op : WriteOp) :
      PowerStep s (.failure op true) .erased
  | startKept (s : PermanentData capacity) (erases : Bool) : PowerStep s (.failedStart erases) s
  | startErased (s : PermanentData capacity) : PowerStep s (.failedStart true) .erased

namespace CBUSConfig

/-- The transactions of a start: an image without the mark is given an identity. -/
def startTransactions (c : CBUSConfig) : List Transaction :=
  if c.readEEPROM ofsResetFlag = 0xFF then
    c.transactions (.setFLiM false) ++ c.transactions (.setCANID defaultCanid) ++
      c.transactions (.setNodeNum 0) ++ [[(ofsResetFlag, 0)]]
  else []

end CBUSConfig

namespace Device

open CBUSConfig

def step (l : Layout) : Device → DeviceEvent → Device
  | .on c, .write op => .on (c.writeOp op)
  | .on c, .failure op calls =>
    .off ((c.failureImages (c.transactions op)).getD calls (c.writeOp op).flash)
  | .on c, .switchOff => .off c.flash
  | .off flash, .start => .on (construct l flash).begin
  | .off flash, .failedStart calls =>
    let c := (construct l flash).loaded
    .off ((c.failureImages c.startTransactions).getD calls (construct l flash).begin.flash)
  | d, _ => d

def means (l : Layout) : Device → DeviceEvent → List PowerEvent
  | .on _, .write op => [.write op]
  | .on c, .failure op _ => [.failure op (c.erasesDuring (c.transactions op))]
  | .off flash, .failedStart _ =>
    let c := (construct l flash).loaded
    [.failedStart (c.erasesDuring c.startTransactions)]
  | _, _ => []

/-- The configuration holds the data, or a start would find them. -/
def Keeps {capacity : ℕ} (l : Layout) : Device → PermanentData capacity → Prop
  | .on c, s => c.toLayout = l ∧ c.Holds s
  | .off flash, s => (construct l flash).begin.Holds s

end Device

/-- The variables that are written exist. -/
def DeviceEvent.InRange (l : Layout) : DeviceEvent → Prop
  | .write op => op.InRange l
  | .failure op _ => op.InRange l
  | _ => True

namespace CBUSConfig

variable {capacity : ℕ} {c : CBUSConfig} {s : PermanentData capacity}

theorem writeOp_toLayout (c : CBUSConfig) (op : WriteOp) :
    (c.writeOp op).toLayout = c.toLayout := by
  cases op with
  | command cmd => exact (c.storeCommand_ram cmd).1
  | writeNV idx val => exact congrArg Prod.fst (writeNV_eventRam c idx val)
  | setCANID canid => exact (sameTables_setCANID c canid).toLayout
  | setFLiM flim => exact (sameTables_setFLiM c flim).toLayout
  | setNodeNum nn => exact (sameTables_setNodeNum c nn.toUInt32).toLayout

/-- An operation that is cut short has done nothing or everything, or it has stored an event and
not yet its variable. -/
theorem prefix_transactions {op : WriteOp} {ps : List Transaction}
    (h : ps <+: c.transactions op) : ps = [] ∨ ps = c.transactions op ∨
      ∃ e evVal, op = .command (.teach e 1 evVal) ∧
        c.learnSlot e.nodeNumber e.eventNumber < c.eeMaxEvents ∧
        ps = [c.eventWrites (c.learnSlot e.nodeNumber e.eventNumber) e] := by
  have hone : ∀ t : Transaction, ps <+: [t] → ps = [] ∨ ps = [t] := by
    intro t ht
    simpa [List.prefix_cons_iff] using ht
  have hnone : ps <+: [] → ps = [] := List.prefix_nil.mp
  cases op with
  | command cmd =>
    cases cmd with
    | clear => exact (hone _ h).imp_right Or.inl
    | remove e =>
      simp only [transactions, commandTransactions] at h ⊢
      split_ifs at h ⊢
      · exact (hone _ h).imp_right Or.inl
      · exact Or.inl (hnone h)
    | teach e evNum evVal =>
      simp only [transactions, commandTransactions] at h ⊢
      by_cases hi : evNum ≠ 0 ∧ c.learnSlot e.nodeNumber e.eventNumber < c.eeMaxEvents
      · rw [if_pos hi] at h ⊢
        by_cases hfirst : evNum < 2
        · have hev : evNum = 1 := by
            have h0 : evNum.toNat ≠ 0 := fun hz => hi.1 (UInt8.toNat_inj.mp hz)
            have h2 : evNum.toNat < 2 := UInt8.lt_iff_toNat_lt.mp hfirst
            exact UInt8.toNat_inj.mp (by change evNum.toNat = 1; omega)
          subst hev
          rw [if_pos hfirst, List.singleton_append] at h ⊢
          rcases List.prefix_cons_iff.mp h with hz | ⟨qs, rfl, hqs⟩
          · exact Or.inl hz
          · rcases List.prefix_cons_iff.mp hqs with rfl | ⟨rs, rfl, hrs⟩
            · exact Or.inr (Or.inr ⟨e, evVal, rfl, hi.2, rfl⟩)
            · rw [List.prefix_nil.mp hrs]
              exact Or.inr (Or.inl rfl)
        · rw [if_neg hfirst, List.nil_append] at h ⊢
          exact (hone _ h).imp_right Or.inl
      · rw [if_neg hi] at h
        exact Or.inl (hnone h)
  | writeNV idx val => exact (hone _ h).imp_right Or.inl
  | setCANID canid =>
    simp only [transactions] at h ⊢
    split_ifs at h ⊢
    · exact (hone _ h).imp_right Or.inl
    · exact Or.inl (hnone h)
  | setFLiM flim => exact (hone _ h).imp_right Or.inl
  | setNodeNum nn => exact (hone _ h).imp_right Or.inl

theorem eventWrites_stored {index : UInt8} {e : EventInfo} (h : c.readEvent index = e) :
    ∀ w ∈ c.eventWrites index e, c.readEEPROM w.1 = w.2 := by
  have hbytes : ∀ {hi lo : UInt8} {w : UInt16}, bytesToWord hi lo = w →
      hi = highByte w.toNat ∧ lo = lowByte w.toNat :=
    fun {_ _ w} hw => bytesToWord_inj.mp (hw.trans (bytesToWord_high_low w).symm)
  obtain ⟨hnh, hnl⟩ := hbytes (congrArg EventInfo.nodeNumber h)
  obtain ⟨heh, hel⟩ := hbytes (congrArg EventInfo.eventNumber h)
  intro w hw
  simp only [eventWrites, List.mem_cons, List.not_mem_nil, or_false] at hw
  rcases hw with rfl | rfl | rfl | rfl
  · exact hnh
  · exact hnl
  · exact heh
  · exact hel

theorem Holds.restart (h : c.Holds s) : (construct c.toLayout c.flash).begin.Holds s := h.powerUp

theorem Holds.halfTaught (h : c.Holds s) {e : EventInfo} {evVal : UInt8} {erases : Bool}
    (hr : (1 : UInt8) ≤ c.eeNumEvs)
    (hi : c.learnSlot e.nodeNumber e.eventNumber < c.eeMaxEvents) :
    ∃ t, PowerStep s (.failure (.command (.teach e 1 evVal)) erases) t ∧
      (construct c.toLayout
        (c.transact (c.eventWrites (c.learnSlot e.nodeNumber e.eventNumber) e)).flash).begin.Holds
          t := by
  let index := c.learnSlot e.nodeNumber e.eventNumber
  let d := c.transact (c.eventWrites index e)
  have hsync := h.represents.intact.synced
  by_cases hknown : e ∈ s.events.keys
  · have hstored : c.Known ⟨e.nodeNumber, e.eventNumber⟩ := (h.represents.keys e).mp hknown
    have hslot := (h.represents.coherent.hashed.learnSlot_known hstored).2.1
    have hread := (slot_eq_some.mp hslot).1
    rw [UInt8.ofNat_toNat] at hread
    have hflash : d.flash = c.flash := hsync.transact_same (eventWrites_stored hread)
    refine ⟨s, .before s _ erases, ?_⟩
    rw [hflash]
    exact h.restart
  · -- as if the event had been taught with the variable that its slot has
    let a := c.eventAddress index (3 + (1 : UInt8).toUInt32)
    let stale := d.readEEPROM a
    let op := WriteOp.command (.teach e 1 stale)
    refine ⟨op.apply s, .half s e evVal stale erases hknown, ?_⟩
    have hd : d.Synced := by
      have hwrite := hsync.writeEvent index e
      rwa [writeEvent_eq_transact] at hwrite
    have hts : c.transactions op = [c.eventWrites index e, [(a, stale)]] := by
      simp only [op, transactions, commandTransactions]
      rw [if_pos ⟨by decide, hi⟩, if_pos (by decide)]
      rfl
    have hflash : (c.writeOp op).flash = d.flash := by
      have hstorage := (storage_eq_iff.mp (c.storage_writeOp op)).1
      rw [hts] at hstorage
      refine hstorage.trans (hd.transact_same fun w hw => ?_)
      rw [List.mem_singleton.mp hw]
    have hop : op.InRange c.toLayout := hr
    have hdone := (h.writeOp hop).restart
    rwa [writeOp_toLayout, hflash] at hdone

theorem Holds.failure (h : c.Holds s) {op : WriteOp} (hr : op.InRange c.toLayout) {img : FlashImage}
    (himg : img ∈ c.failureImages (c.transactions op)) :
    ∃ t, PowerStep s (.failure op (c.erasesDuring (c.transactions op))) t ∧
      (construct c.toLayout img).begin.Holds t := by
  have hp := h.represents.placed
  rcases mem_failureImages himg with ⟨ps, hps, rfl⟩ | ⟨herase, rfl⟩
  · rcases prefix_transactions hps with rfl | rfl | ⟨e, evVal, rfl, hi, rfl⟩
    · exact ⟨s, .before s op _, h.restart⟩
    · refine ⟨op.apply s, .after s op _, ?_⟩
      have hdone := (h.writeOp hr).restart
      rwa [writeOp_toLayout, (storage_eq_iff.mp (c.storage_writeOp op)).1] at hdone
    · exact h.halfTaught hr hi
  · rw [herase]
    exact ⟨_, .erased s op, holds_erased hp.fits h.represents.capacity_eq⟩

theorem Holds.failureAt (h : c.Holds s) {op : WriteOp} (hr : op.InRange c.toLayout) (calls : ℕ) :
    ∃ t, PowerStep s (.failure op (c.erasesDuring (c.transactions op))) t ∧
      (construct c.toLayout ((c.failureImages (c.transactions op)).getD calls
        (c.writeOp op).flash)).begin.Holds t := by
  by_cases hc : calls < (c.failureImages (c.transactions op)).length
  · rw [List.getD_eq_getElem _ _ hc]
    exact h.failure hr (List.getElem_mem hc)
  · rw [List.getD_eq_default _ _ (by omega)]
    have hdone := (h.writeOp hr).restart
    rw [writeOp_toLayout] at hdone
    exact ⟨_, .after s op _, hdone⟩

theorem Holds.unmarked {l : Layout} {flash img : FlashImage}
    (h : (construct l flash).begin.Holds s) (hl : l.Fits) (hflag : flash.read 0xFF 5 = 0xFF)
    (hflag' : img.read 0xFF 5 = 0xFF)
    (himage : ∀ a, 6 ≤ a → img.read 0xFF a = flash.read 0xFF a) :
    (construct l img).begin.Holds s := by
  let c := (construct l flash).begin
  let c' := (construct l img).begin
  have hsame : SameTables (construct l flash).loaded c := sameTables_loadNVs _
  have hsame' : SameTables (construct l img).loaded c' := sameTables_loadNVs _
  have hlc : c.toLayout = l := hsame.toLayout
  have hlayout : c'.toLayout = c.toLayout := hsame'.toLayout.trans hlc.symm
  have hloaded : ∀ a, 6 ≤ a →
      (construct l img).loaded.flashBuf.read 0xFF a = c.flashBuf.read 0xFF a :=
    fun a ha => (himage a ha).trans (hsame.image a ha).symm
  have hbegun : ∀ a, 6 ≤ a → c'.flashBuf.read 0xFF a = c.flashBuf.read 0xFF a :=
    fun a ha => (hsame'.image a ha).trans (hloaded a ha)
  have hp := h.represents.placed
  have hsix : ∀ a, c.InEvents a → 6 ≤ a := fun a ha => (hp.fits.events a ha).1
  have hpairs : (construct l img).loaded.NoPairTwice := by
    have hread : ∀ i < l.eeMaxEvents.toNat, (construct l img).loaded.readEvent (UInt8.ofNat i) =
        c.readEvent (UInt8.ofNat i) := by
      intro i hi
      have hplaced : (construct l img).loaded.Placed := placed_loaded hl
      have hll : (construct l img).loaded.toLayout = c.toLayout := hlc.symm
      apply hp.readEvent_of_image hplaced hll fun a ha => hloaded a (hsix a ha)
      rwa [hlc]
    intro i hi j hj hu he
    rw [hread i hi] at hu he
    rw [hread j hj] at he
    refine h.represents.coherent.distinct i ?_ j ?_ hu he
    · rwa [hlc]
    · rwa [hlc]
  refine ⟨?_, mirrored_begin l img, ?_, ?_⟩
  · exact h.represents.of_image (intact_begin hl img) (coherent_begin hl hpairs) hlayout
      fun a ha => hbegun a (hsix a ha)
  · have hdefault : c.identityRam = (defaultCanid, false, defaultNn) := loadNVs_of_resetFlag hflag
    have hdefault' : c'.identityRam = (defaultCanid, false, defaultNn) :=
      loadNVs_of_resetFlag hflag'
    exact hdefault'.trans (hdefault.symm.trans h.identity)
  · intro idx hv
    have hv' : c.ValidIndex idx := by
      unfold ValidIndex at hv ⊢
      rwa [hlayout] at hv
    rw [hv.readNV_congr hp hlayout fun a ha => hbegun a (hp.fits.nvs a ha).1]
    exact h.nodeVariable idx hv'

theorem storage_begin (c : CBUSConfig) :
    c.begin.storage = (run transact c.loaded c.loaded.startTransactions).storage := by
  rw [begin_eq]
  generalize c.loaded = d
  unfold startTransactions
  by_cases hflag : d.readEEPROM ofsResetFlag = 0xFF
  · rw [loadNVs_of_blank hflag, if_pos hflag]
    have hflim := d.storage_writeOp (.setFLiM false)
    have hcan := ((d.setFLiM false).storage_writeOp (.setCANID defaultCanid)).trans
      (storage_run_transact hflim _)
    have hnum := (((d.setFLiM false).setCANID defaultCanid).2.storage_writeOp (.setNodeNum 0)).trans
      (storage_run_transact hcan _)
    have hmark := storage_transact hnum [(ofsResetFlag, 0)]
    simp only [run_append]
    exact hmark
  · rw [loadNVs_of_marked hflag, if_neg hflag]
    rfl

theorem Holds.failedStart {l : Layout} {flash : FlashImage}
    (h : (construct l flash).begin.Holds s) (hl : l.Fits) {img : FlashImage}
    (himg : img ∈ (construct l flash).loaded.failureImages
      (construct l flash).loaded.startTransactions) :
    ∃ t, PowerStep s (.failedStart ((construct l flash).loaded.erasesDuring
        (construct l flash).loaded.startTransactions)) t ∧ (construct l img).begin.Holds t := by
  let d := (construct l flash).loaded
  have hlayout := begin_toLayout l flash
  have hdone : (construct l (run transact d d.startTransactions).flash).begin.Holds s := by
    have hrestart := h.restart
    have hflash : (construct l flash).begin.flash = (run transact d d.startTransactions).flash :=
      (storage_eq_iff.mp (construct l flash).storage_begin).1
    rwa [hlayout, hflash] at hrestart
  rcases mem_failureImages himg with ⟨ps, hps, rfl⟩ | ⟨herase, rfl⟩
  · refine ⟨s, .startKept s _, ?_⟩
    by_cases hflag : d.readEEPROM ofsResetFlag = 0xFF
    · -- all but the last transaction write to the first four bytes
      let identity : List Transaction := d.transactions (.setFLiM false) ++
        d.transactions (.setCANID defaultCanid) ++ d.transactions (.setNodeNum 0)
      have hts : d.startTransactions = identity ++ [[(ofsResetFlag, 0)]] := if_pos hflag
      have hfour : ∀ t ∈ identity, ∀ w ∈ t, w.1.toNat < 4 := by
        have hlist : identity = [[(ofsFlimMode, 0)], [(ofsCanId, defaultCanid)],
            [(ofsNodeNumHb, 0), (ofsNodeNumLb, 0)]] := rfl
        simp only [hlist, List.forall_mem_cons, List.not_mem_nil, false_implies, implies_true,
          and_true]
        exact ⟨by decide, by decide, by decide, by decide⟩
      rw [hts, List.prefix_concat_iff] at hps
      rcases hps with rfl | hps
      · rwa [← hts]
      · have hsync : d.Synced := ⟨rfl, rfl, rfl⟩
        have hread : ∀ a, 4 ≤ a →
            (run transact d ps).flash.read 0xFF a = flash.read 0xFF a := by
          intro a ha
          have hkept : (run transact d ps).flashBuf.read 0xFF a = d.flashBuf.read 0xFF a :=
            read_run_transact fun t ht w hw he =>
              absurd (hfour t (hps.subset ht) w hw) (by omega)
          rw [(hsync.transactions ps).flash_eq]
          exact hkept
        have hflag' : flash.read 0xFF 5 = 0xFF := hflag
        exact h.unmarked hl hflag' ((hread 5 (by omega)).trans hflag')
          fun a ha => hread a (by omega)
    · have hnone : d.startTransactions = [] := if_neg hflag
      rw [hnone] at hps hdone
      rw [List.prefix_nil.mp hps]
      exact hdone
  · rw [herase]
    have hcap := h.represents.capacity_eq
    rw [hlayout] at hcap
    exact ⟨_, .startErased s, holds_erased hl hcap⟩

theorem Holds.failedStartAt {l : Layout} {flash : FlashImage}
    (h : (construct l flash).begin.Holds s) (hl : l.Fits) (calls : ℕ) :
    let d := (construct l flash).loaded
    ∃ t, PowerStep s (.failedStart (d.erasesDuring d.startTransactions)) t ∧
      (construct l ((d.failureImages d.startTransactions).getD calls
        (construct l flash).begin.flash)).begin.Holds t := by
  intro d
  by_cases hc : calls < (d.failureImages d.startTransactions).length
  · rw [List.getD_eq_getElem _ _ hc]
    exact h.failedStart hl (List.getElem_mem hc)
  · rw [List.getD_eq_default _ _ (by omega)]
    have hlayout := begin_toLayout l flash
    have hdone := h.restart
    rw [hlayout] at hdone
    exact ⟨s, .startKept s _, hdone⟩

end CBUSConfig

namespace CBUSConfig

end CBUSConfig

namespace Device

open CBUSConfig

variable {capacity : ℕ} {s : PermanentData capacity} {l : Layout}

theorem Keeps.step {d : Device} (h : d.Keeps l s) (hl : l.Fits) {e : DeviceEvent}
    (hr : e.InRange l) :
    ∃ t, Trace PowerStep s (d.means l e) t ∧ (d.step l e).Keeps l t := by
  have hone : ∀ {a t}, PowerStep s a t → Trace PowerStep s [a] t :=
    fun hstep => .cons hstep (.nil _)
  cases d with
  | on c =>
    obtain ⟨hlayout, hc⟩ := h
    have hp := hc.represents.placed
    cases e with
    | write op =>
      have hdone := hc.writeOp (hlayout ▸ hr : op.InRange c.toLayout)
      exact ⟨_, hone (.write s op), (writeOp_toLayout _ op).trans hlayout, hdone⟩
    | failure op calls =>
      obtain ⟨t, hstep, hfound⟩ := hc.failureAt (hlayout ▸ hr : op.InRange c.toLayout) calls
      rw [hlayout] at hfound
      exact ⟨t, hone hstep, hfound⟩
    | switchOff =>
      have hdone := hc.restart
      rw [hlayout] at hdone
      exact ⟨s, .nil s, hdone⟩
    | start => exact ⟨s, .nil s, hlayout, hc⟩
    | failedStart calls => exact ⟨s, .nil s, hlayout, hc⟩
  | off flash =>
    cases e with
    | write op => exact ⟨s, .nil s, h⟩
    | failure op calls => exact ⟨s, .nil s, h⟩
    | switchOff => exact ⟨s, .nil s, h⟩
    | start => exact ⟨s, .nil s, (sameTables_loadNVs _).toLayout, h⟩
    | failedStart calls =>
      obtain ⟨t, hstep, hfound⟩ := Holds.failedStartAt h hl calls
      exact ⟨t, hone hstep, hfound⟩

end Device

end CBUSPicoLib
