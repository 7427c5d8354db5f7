import CBUSPicoLib.Config.Identity
import CBUSPicoLib.Library.Runs

/-!
# What a power failure leaves in the flash

All writes go to the cache, and a flush erases and programs the whole sector, so an operation is a
list of transactions: bytes that are written to the cache, with one flush behind them. The power is
taken to fail before or after a call of the flash library, not in the middle of one. What is found
in the flash then is what a part of the transactions left, or an erased sector.
-/

namespace CBUSPicoLib
namespace CBUSConfig

open Runs

/-- Addresses and values that are written to the cache before a flush. -/
abbrev Transaction := List (UInt32 × UInt8)

def cached (c : CBUSConfig) (t : Transaction) : CBUSConfig :=
  t.foldl (fun c w => c.setChipEEPROMVal w.1 w.2) c

def transact (c : CBUSConfig) (t : Transaction) : CBUSConfig := (c.cached t).flushToFlash

/-- The flush of the transaction erases the sector. -/
def Erases (c : CBUSConfig) (t : Transaction) : Prop :=
  (c.cached t).bFlashModified = true ∧ (c.cached t).bFlashZeroToOne = true

instance (c : CBUSConfig) (t : Transaction) : Decidable (c.Erases t) :=
  inferInstanceAs (Decidable (_ ∧ _))

/-- What is in the flash after each call of the flash library. -/
def flashCalls (c : CBUSConfig) (t : Transaction) : List FlashImage :=
  let c := c.cached t
  if c.bFlashModified then
    if c.bFlashZeroToOne then
      [c.flashRangeErase.flash, c.flashRangeErase.flashRangeProgram.flash]
    else [c.flashRangeProgram.flash]
  else []

def erasesDuring (c : CBUSConfig) : List Transaction → Bool
  | [] => false
  | t :: ts => decide (c.Erases t) || (c.transact t).erasesDuring ts

/-- What a power failure during the transactions can leave in the flash. -/
def failureImages (c : CBUSConfig) (ts : List Transaction) : List FlashImage :=
  c.flash :: emitted transact flashCalls c ts

theorem cached_flash (c : CBUSConfig) (t : Transaction) : (c.cached t).flash = c.flash := by
  induction t generalizing c with
  | nil => rfl
  | cons w t ih =>
    change ((c.setChipEEPROMVal w.1 w.2).cached t).flash = _
    rw [ih, setChipEEPROMVal_flash]

theorem mem_flashCalls {c : CBUSConfig} {t : Transaction} {img : FlashImage}
    (h : img ∈ c.flashCalls t) :
    img = (c.transact t).flash ∨ c.Erases t ∧ img = Memory.const 0xFF := by
  unfold flashCalls at h
  dsimp only at h
  split_ifs at h with hm hz
  · rcases List.mem_cons.mp h with rfl | hprog
    · exact Or.inr ⟨⟨hm, hz⟩, rfl⟩
    · left
      rw [List.mem_singleton.mp hprog]
      simp [transact, flushToFlash, hm, hz]
  · left
    rw [List.mem_singleton.mp h]
    simp [transact, flushToFlash, hm, hz]
  · exact absurd h List.not_mem_nil

theorem read_run_transact {c : CBUSConfig} {ts : List Transaction} {a : ℕ}
    (h : ∀ t ∈ ts, ∀ w ∈ t, w.1.toNat ≠ a) :
    (run transact c ts).flashBuf.read 0xFF a = c.flashBuf.read 0xFF a := by
  have hcached : ∀ (t : Transaction) (c : CBUSConfig), (∀ w ∈ t, w.1.toNat ≠ a) →
      (c.cached t).flashBuf.read 0xFF a = c.flashBuf.read 0xFF a := by
    intro t
    induction t with
    | nil => exact fun _ _ => rfl
    | cons w t ih =>
      intro c hw
      have hrest := ih (c.setChipEEPROMVal w.1 w.2) fun w' hw' => hw w' (List.mem_cons_of_mem _ hw')
      refine hrest.trans ?_
      rw [setChipEEPROMVal_flashBuf]
      exact Memory.read_write_ne (hw w List.mem_cons_self).symm
  induction ts generalizing c with
  | nil => rfl
  | cons t ts ih =>
    have hrest := ih (c := c.transact t) fun t' ht' => h t' (List.mem_cons_of_mem _ ht')
    refine hrest.trans ?_
    unfold transact
    rw [flushToFlash_flashBuf]
    exact hcached t c (h t List.mem_cons_self)

/-- A failure leaves what the first transactions did, unless it comes between the erase and the
program of one of them. -/
theorem mem_failureImages {c : CBUSConfig} {ts : List Transaction} {img : FlashImage}
    (h : img ∈ c.failureImages ts) :
    (∃ ps, ps <+: ts ∧ img = (run transact c ps).flash) ∨
      c.erasesDuring ts = true ∧ img = Memory.const 0xFF := by
  induction ts generalizing c with
  | nil => exact Or.inl ⟨[], List.prefix_rfl, List.mem_singleton.mp h⟩
  | cons t ts ih =>
    have hcons : ∀ ps, ps <+: ts → t :: ps <+: t :: ts :=
      fun ps hps => List.cons_prefix_cons.mpr ⟨rfl, hps⟩
    rcases List.mem_cons.mp h with rfl | hcall
    · exact Or.inl ⟨[], List.nil_prefix, rfl⟩
    · rcases List.mem_append.mp hcall with hfirst | hrest
      · rcases mem_flashCalls hfirst with hdone | ⟨herase, hblank⟩
        · exact Or.inl ⟨[t], hcons [] List.nil_prefix, hdone⟩
        · exact Or.inr ⟨by simp [erasesDuring, herase], hblank⟩
      · rcases ih (List.mem_cons_of_mem _ hrest) with ⟨ps, hps, himg⟩ | ⟨herase, hblank⟩
        · exact Or.inl ⟨t :: ps, hcons ps hps, himg⟩
        · exact Or.inr ⟨by simp [erasesDuring, herase], hblank⟩

theorem CacheSound.cached {c : CBUSConfig} (h : c.CacheSound) (t : Transaction) :
    (c.cached t).CacheSound := by
  induction t generalizing c with
  | nil => exact h
  | cons w t ih => exact ih (h.setChipEEPROMVal w.1 w.2)

theorem Synced.transactions {c : CBUSConfig} (h : c.Synced) (ts : List Transaction) :
    (run transact c ts).Synced :=
  run_invariant (fun _ t hs => (hs.cacheSound.cached t).flushToFlash) h ts

theorem Synced.transact_same {c : CBUSConfig} (h : c.Synced) {t : Transaction}
    (hsame : ∀ w ∈ t, c.readEEPROM w.1 = w.2) : (c.transact t).flash = c.flash := by
  have hcached : ∀ d : CBUSConfig, d.flashBuf = c.flashBuf → d.bFlashModified = false →
      (d.cached t).bFlashModified = false := by
    induction t with
    | nil => exact fun _ _ hm => hm
    | cons w t ih =>
      intro d hbuf hm
      have hread : d.flashBuf.read 0xFF w.1.toNat = w.2 := by
        rw [hbuf]
        exact hsame w List.mem_cons_self
      refine ih (fun w' hw' => hsame w' (List.mem_cons_of_mem _ hw')) _ ?_ ?_
      · rw [setChipEEPROMVal_flashBuf, Memory.write_eq_self hread, hbuf]
      · change (d.setChipEEPROMVal w.1 w.2).bFlashModified = false
        unfold setChipEEPROMVal
        split_ifs
        · simp [hm, hread]
        · exact hm
  unfold transact flushToFlash
  dsimp only
  rw [hcached c rfl h.modified, if_neg Bool.false_ne_true]
  exact c.cached_flash t

def storage (c : CBUSConfig) : FlashImage × FlashImage × Bool × Bool :=
  (c.flash, c.flashBuf, c.bFlashModified, c.bFlashZeroToOne)

theorem storage_eq_iff {c d : CBUSConfig} : c.storage = d.storage ↔
    c.flash = d.flash ∧ c.flashBuf = d.flashBuf ∧ c.bFlashModified = d.bFlashModified ∧
      c.bFlashZeroToOne = d.bFlashZeroToOne := by
  simp [storage]

theorem storage_setChipEEPROMVal {c d : CBUSConfig} (h : c.storage = d.storage) (a : UInt32)
    (v : UInt8) : (c.setChipEEPROMVal a v).storage = (d.setChipEEPROMVal a v).storage := by
  obtain ⟨hf, hb, hm, hz⟩ := storage_eq_iff.mp h
  unfold setChipEEPROMVal
  split_ifs
  · simp [storage, hf, hb, hm, hz]
  · exact h

theorem storage_flushToFlash {c d : CBUSConfig} (h : c.storage = d.storage) :
    c.flushToFlash.storage = d.flushToFlash.storage := by
  obtain ⟨hf, hb, hm, hz⟩ := storage_eq_iff.mp h
  unfold flushToFlash
  dsimp only
  rw [hm, hz]
  split_ifs <;> simp [storage, flashRangeErase, flashRangeProgram, hf, hb]

theorem storage_cached {c d : CBUSConfig} (h : c.storage = d.storage) (t : Transaction) :
    (c.cached t).storage = (d.cached t).storage := by
  induction t generalizing c d with
  | nil => exact h
  | cons w t ih => exact ih (storage_setChipEEPROMVal h w.1 w.2)

theorem storage_transact {c d : CBUSConfig} (h : c.storage = d.storage) (t : Transaction) :
    (c.transact t).storage = (d.transact t).storage :=
  storage_flushToFlash (storage_cached h t)

theorem storage_run_transact {c d : CBUSConfig} (h : c.storage = d.storage)
    (ts : List Transaction) : (run transact c ts).storage = (run transact d ts).storage := by
  induction ts generalizing c d with
  | nil => exact h
  | cons t ts ih => exact ih (storage_transact h t)

theorem cached_append (c : CBUSConfig) (t u : Transaction) :
    c.cached (t ++ u) = (c.cached t).cached u := List.foldl_append

def eventWrites (c : CBUSConfig) (index : UInt8) (e : EventInfo) : Transaction :=
  [(c.eventAddress index 0, highByte e.nodeNumber.toNat),
    (c.eventAddress index 1, lowByte e.nodeNumber.toNat),
    (c.eventAddress index 2, highByte e.eventNumber.toNat),
    (c.eventAddress index 3, lowByte e.eventNumber.toNat)]

theorem writeEvent_eq_cached (c : CBUSConfig) (index : UInt8) (e : EventInfo) :
    c.writeEvent index e false = c.cached (c.eventWrites index e) := by
  simp [writeEvent, ByteStore.writeEvent, writeEEPROM, cached, eventWrites]

theorem writeEvent_eq_transact (c : CBUSConfig) (index : UInt8) (e : EventInfo) :
    c.writeEvent index e = c.transact (c.eventWrites index e) := by
  rw [writeEvent_flushed, writeEvent_eq_cached]
  rfl

theorem eventWrites_congr {c d : CBUSConfig} (h : d.eventRam = c.eventRam) (index : UInt8)
    (e : EventInfo) : d.eventWrites index e = c.eventWrites index e := by
  have hl : d.toLayout = c.toLayout := congrArg Prod.fst h
  have hb : d.eeBytesPerEvent = c.eeBytesPerEvent := congrArg (·.2.1) h
  unfold eventWrites eventAddress
  rw [hl, hb]

/-- The bytes that `clearEventsEEPROM` writes. -/
def clearWrites (c : CBUSConfig) (slots : List ℕ) : Transaction :=
  slots.flatMap fun i => c.eventWrites (UInt8.ofNat i) evInfoUnused

theorem foldl_clearEvent_eq_cached (slots : List ℕ) {c d : CBUSConfig}
    (h : d.eventRam = c.eventRam) :
    slots.foldl (fun c e => c.clearEventEEPROM (UInt8.ofNat e) false) d =
      d.cached (c.clearWrites slots) := by
  induction slots generalizing d with
  | nil => rfl
  | cons i slots ih =>
    have hi := (writeEvent_eventRam d (UInt8.ofNat i) evInfoUnused false).trans h
    have hw := eventWrites_congr h (UInt8.ofNat i) evInfoUnused
    calc slots.foldl _ (d.clearEventEEPROM (UInt8.ofNat i) false)
        = (d.writeEvent (UInt8.ofNat i) evInfoUnused false).cached (c.clearWrites slots) := ih hi
      _ = d.cached (c.eventWrites (UInt8.ofNat i) evInfoUnused ++ c.clearWrites slots) := by
          rw [cached_append, ← hw]
          rfl

theorem clearEventsEEPROM_eq_transact (c : CBUSConfig) :
    c.clearEventsEEPROM = c.transact (c.clearWrites (List.range c.eeMaxEvents.toNat)) :=
  congrArg flushToFlash (foldl_clearEvent_eq_cached _ rfl)

end CBUSConfig
end CBUSPicoLib
