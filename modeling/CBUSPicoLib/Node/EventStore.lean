import CBUSPicoLib.Library.BoundedStore
import CBUSPicoLib.Node.Authority
import CBUSPicoLib.Node.EventReading

/-!
# The event table as a store of events

What the event table is for: a set of events, no more than the table has slots, and for each of
them the variables taught since it was added. Slots, hash entries, the collision flag and the
order of the slots do not appear in it. A variable that has not been taught is left open, since
the slot keeps the bytes of the event that had it before.
-/

namespace CBUSPicoLib

open TaggedTable

/-- The events that a module has learned, with the variables taught for them. -/
abbrev EventStore (capacity : ℕ) := BoundedStore EventInfo UInt8 UInt8 capacity

/-- A command of learn mode that is about the stored events. -/
inductive StoreCommand
  | clear
  | remove (e : EventInfo)
  | teach (e : EventInfo) (evNum evVal : UInt8)
  deriving DecidableEq

namespace StoreCommand

variable {capacity : ℕ}

/-- A new event comes with its first variable, and it is not the pattern of an unused slot. -/
def Teaches (s : EventStore capacity) (e : EventInfo) (evNum : UInt8) : Prop :=
  evNum ≠ 0 ∧ (e ∈ s.keys ∨ evNum = 1 ∧ e ≠ evInfoUnused)

instance (s : EventStore capacity) (e : EventInfo) (evNum : UInt8) : Decidable (Teaches s e evNum) :=
  inferInstanceAs (Decidable (evNum ≠ 0 ∧ (e ∈ s.keys ∨ evNum = 1 ∧ e ≠ evInfoUnused)))

def apply (s : EventStore capacity) : StoreCommand → EventStore capacity
  | .clear => .empty
  | .remove e => s.remove e
  | .teach e evNum evVal => if Teaches s e evNum then s.put e evNum evVal else s

/-- The variable that is taught exists. -/
def InRange (l : Layout) : StoreCommand → Prop
  | .teach _ evNum _ => evNum ≤ l.eeNumEvs
  | _ => True

end StoreCommand

def ByteStore.storeCommand {σ : Type} [ByteStore σ] (s : σ) : StoreCommand → σ
  | .clear =>
    let s := clearEventsEEPROM s
    setConfig s (config s).clearEvHashTable
  | .remove e =>
    let index := findExistingEvent s e.nodeNumber e.eventNumber
    if index < (config s).eeMaxEvents then unlearnEvent s index else s
  | .teach e evNum evVal =>
    let index := learnSlot s e.nodeNumber e.eventNumber
    if evNum ≠ 0 ∧ index < (config s).eeMaxEvents then learnEvent s index e evNum evVal else s

namespace CBUSConfig

def storeCommand (c : CBUSConfig) (cmd : StoreCommand) : CBUSConfig := ByteStore.storeCommand c cmd

theorem storeCommand_remove (c : CBUSConfig) (e : EventInfo) : c.storeCommand (.remove e) =
    if c.findExistingEvent e.nodeNumber e.eventNumber < c.eeMaxEvents then
      c.unlearnEvent (c.findExistingEvent e.nodeNumber e.eventNumber) else c := rfl

theorem storeCommand_teach (c : CBUSConfig) (e : EventInfo) (evNum evVal : UInt8) :
    c.storeCommand (.teach e evNum evVal) =
      if evNum ≠ 0 ∧ c.learnSlot e.nodeNumber e.eventNumber < c.eeMaxEvents then
        c.learnEvent (c.learnSlot e.nodeNumber e.eventNumber) e evNum evVal else c := rfl

/-- The table holds exactly the events of the store, and their taught variables. -/
structure Represents {capacity : ℕ} (c : CBUSConfig) (s : EventStore capacity) : Prop where
  intact : c.Intact
  coherent : c.Coherent
  capacity_eq : c.eeMaxEvents.toNat = capacity
  keys : ∀ e, e ∈ s.keys ↔ c.Known e
  fields : ∀ e k v, s.field e k = some v →
    k ≠ 0 ∧ k ≤ c.eeNumEvs ∧ c.HoldsVariable e k v

variable {capacity : ℕ} {c c' : CBUSConfig} {s : EventStore capacity} {e : EventInfo}
  {evNum evVal : UInt8}

theorem Represents.placed (h : c.Represents s) : c.Placed := h.intact.placed

theorem Represents.card_eq (h : c.Represents s) : s.keys.card = occupied capacity c.slot := by
  have hcard := BoundedStore.HeldIn.card_eq h.keys h.coherent.distinct_slot
  rwa [h.capacity_eq] at hcard

theorem Represents.hasSpace_iff (h : c.Represents s) : c.HasSpace ↔ s.keys.card < capacity := by
  have hfree := BoundedStore.HeldIn.exists_free_iff h.keys h.coherent.distinct_slot
  exact hfree.trans (by rw [h.capacity_eq])

/-- The slot of a teach command exists if the store has room for the event. -/
theorem Represents.accepts_iff (h : c.Represents s) (e : EventInfo) :
    s.Accepts e ↔ (c.learnSlot e.nodeNumber e.eventNumber).toNat < c.eeMaxEvents.toNat := by
  rw [h.coherent.hashed.learnSlot_lt_iff, h.hasSpace_iff, ← h.keys]
  rfl

theorem Represents.find_lt_iff (h : c.Represents s) (e : EventInfo) :
    (c.findExistingEvent e.nodeNumber e.eventNumber).toNat < c.eeMaxEvents.toNat ↔ e ∈ s.keys := by
  rw [h.coherent.hashed.find_lt_iff, h.keys]

theorem Represents.clear (h : c.Represents s) :
    (c.storeCommand .clear).Represents (.empty : EventStore capacity) := by
  obtain ⟨hram, hunused⟩ := c.clearEventsEEPROM_spec
  have hl : c.clearEventsEEPROM.toLayout = c.toLayout := congrArg Prod.fst hram
  refine ⟨h.intact.keeps (keeps_clearEvents c), c.coherent_clearEvents, ?_, ?_, ?_⟩
  · rw [← h.capacity_eq]
    exact congrArg (fun l : Layout => l.eeMaxEvents.toNat) hl
  · intro e
    refine iff_of_false (Finset.notMem_empty e) ?_
    rintro ⟨i, hi, hs⟩
    change i < c.clearEventsEEPROM.eeMaxEvents.toNat at hi
    rw [hl] at hi
    exact (slot_eq_some.mp hs).2 ((slot_eq_some.mp hs).1.symm.trans (hunused i hi))
  · intro e k v hv
    exact absurd hv (by simp [BoundedStore.empty])

theorem unlearnEvent_eeNumEvs (c : CBUSConfig) (idx : UInt8) :
    (c.unlearnEvent idx).eeNumEvs = c.eeNumEvs :=
  congrArg Layout.eeNumEvs (c.unlearnEvent_toLayout idx)

theorem Represents.remove (h : c.Represents s) (e : EventInfo) :
    (c.storeCommand (.remove e)).Represents (s.remove e) := by
  have hp := h.placed
  by_cases hk : e ∈ s.keys
  · let i := c.findExistingEvent e.nodeNumber e.eventNumber
    have hi : i.toNat < c.eeMaxEvents.toNat := (h.find_lt_iff e).mpr hk
    have hknown : c.Known ⟨e.nodeNumber, e.eventNumber⟩ := (h.keys e).mp hk
    have hown : c.slot i.toNat = some e := h.coherent.hashed.slot_find hknown
    have hl : (c.unlearnEvent i).toLayout = c.toLayout := c.unlearnEvent_toLayout i
    have hc : c.storeCommand (.remove e) = c.unlearnEvent i := if_pos (UInt8.lt_iff_toNat_lt.mpr hi)
    rw [hc]
    refine ⟨h.intact.keeps (keeps_unlearnEvent c i), h.coherent.clearEvent hp.spaced hi, ?_, ?_, ?_⟩
    · rw [← h.capacity_eq, hl]
    · intro e'
      rw [BoundedStore.remove_keys, Finset.mem_erase, h.keys]
      constructor
      · rintro ⟨hne, j, hj, hs⟩
        refine ⟨j, hl ▸ hj, ?_⟩
        rw [hp.spaced.slot_unlearnEvent hi hj, if_neg fun hji => hne ?_, hs]
        rw [hji, hown] at hs
        exact (Option.some.inj hs).symm
      · rintro ⟨j, hj, hs⟩
        rw [hl] at hj
        rw [hp.spaced.slot_unlearnEvent hi hj] at hs
        split_ifs at hs with hji
        -- the event is stored in this slot only
        refine ⟨fun he => hji ?_, j, hj, hs⟩
        exact h.coherent.distinct_slot j hj _ hi e (he ▸ hs) hown
    · intro e' k v hv
      rw [BoundedStore.remove_field] at hv
      split_ifs at hv with hne
      obtain ⟨h0, hk', hholds⟩ := h.fields e' k v hv
      refine ⟨h0, (c.unlearnEvent_eeNumEvs i).symm ▸ hk', ?_⟩
      exact hholds.unlearnEvent h.coherent hp hk' hknown hne
  · have hi : ¬ c.findExistingEvent e.nodeNumber e.eventNumber < c.eeMaxEvents :=
      fun hlt => hk ((h.find_lt_iff e).mp (UInt8.lt_iff_toNat_lt.mp hlt))
    have hc : c.storeCommand (.remove e) = c := if_neg hi
    rw [hc]
    refine ⟨h.intact, h.coherent, h.capacity_eq, ?_, ?_⟩
    · intro e'
      rw [BoundedStore.remove_keys, Finset.erase_eq_of_notMem hk, h.keys]
    · intro e' k v hv
      rw [BoundedStore.remove_field] at hv
      split_ifs at hv
      exact h.fields e' k v hv

theorem Represents.known_learnEvent (h : c.Represents s) (h0 : evNum ≠ 0) (hev : evNum ≤ c.eeNumEvs)
    (hi : (c.learnSlot e.nodeNumber e.eventNumber).toNat < c.eeMaxEvents.toNat) (e' : EventInfo) :
    (c.learnEvent (c.learnSlot e.nodeNumber e.eventNumber) e evNum evVal).Known e' ↔
      e' ∈ s.keys ∨ e' = e ∧ StoreCommand.Teaches s e evNum := by
  have hp := h.placed
  have hh := h.coherent.hashed
  have hlearned : Learned c (c.learnEvent (c.learnSlot e.nodeNumber e.eventNumber) e evNum evVal)
      (c.learnSlot e.nodeNumber e.eventNumber) e evNum evVal :=
    hh.learnEvent hp.spaced hi h0 (Or.inl hev)
  have hheld : c.heldAs (c.learnSlot e.nodeNumber e.eventNumber) e = e := hp.heldAs hi e
  by_cases he : e' = e
  · subst he
    have hknown := hlearned.known_iff hh hi h0
    rw [hknown, h.keys]
    constructor
    · rintro (hk | ⟨hone, hused, -⟩)
      · exact Or.inl hk
      · exact Or.inr ⟨rfl, h0, Or.inr ⟨hone, hused⟩⟩
    · rintro (hk | ⟨-, -, hk | ⟨hone, hused⟩⟩)
      · exact Or.inl hk
      · exact Or.inl ((h.keys e').mp hk)
      · exact Or.inr ⟨hone, hused, hheld⟩
  · have hothers : ∀ j < c.eeMaxEvents.toNat,
        (c.learnEvent (c.learnSlot e.nodeNumber e.eventNumber) e evNum evVal).slot j = some e' ↔
          c.slot j = some e' := by
      intro j hj
      rw [hlearned.slot_iff hh hi h0 he hj]
      refine or_iff_left ?_
      rintro ⟨-, -, -, hread⟩
      exact he (hread.symm.trans hheld)
    rw [h.keys]
    constructor
    · rintro ⟨j, hj, hs⟩
      have hj' : j < c.eeMaxEvents.toNat := hlearned.layout ▸ hj
      exact Or.inl ⟨j, hj', (hothers j hj').mp hs⟩
    · rintro (⟨j, hj, hs⟩ | ⟨he', -⟩)
      · exact ⟨j, hlearned.layout.symm ▸ hj, (hothers j hj).mpr hs⟩
      · exact absurd he' he

theorem Represents.holds_learnEvent (h : c.Represents s) (h0 : evNum ≠ 0)
    (hev : evNum ≤ c.eeNumEvs)
    (hi : (c.learnSlot e.nodeNumber e.eventNumber).toNat < c.eeMaxEvents.toNat) {e' : EventInfo}
    {k v : UInt8} (hv : s.field e' k = some v) (hne : e' ≠ e ∨ k ≠ evNum) :
    k ≠ 0 ∧ k ≤ (c.learnEvent (c.learnSlot e.nodeNumber e.eventNumber) e evNum evVal).eeNumEvs ∧
      (c.learnEvent (c.learnSlot e.nodeNumber e.eventNumber) e evNum evVal).HoldsVariable e' k v := by
  obtain ⟨hk0, hk, hholds⟩ := h.fields e' k v hv
  have hl := (c.learnEvent_toLayout (c.learnSlot e.nodeNumber e.eventNumber) e evNum evVal).1
  exact ⟨hk0, hl.symm ▸ hk, hholds.learnEvent h.coherent h.placed hk0 hk h0 hev hi hne⟩

theorem Represents.teach (h : c.Represents s) (hev : evNum ≤ c.eeNumEvs) :
    (c.storeCommand (.teach e evNum evVal)).Represents ((StoreCommand.teach e evNum evVal).apply s) := by
  let i := c.learnSlot e.nodeNumber e.eventNumber
  have hp := h.placed
  by_cases hdone : evNum ≠ 0 ∧ i < c.eeMaxEvents
  · obtain ⟨h0, hlt⟩ := hdone
    have hi : i.toNat < c.eeMaxEvents.toNat := UInt8.lt_iff_toNat_lt.mp hlt
    let c' := c.learnEvent i e evNum evVal
    have hc : c.storeCommand (.teach e evNum evVal) = c' := if_pos ⟨h0, hlt⟩
    have hl : c'.toLayout = c.toLayout := (c.learnEvent_toLayout i e evNum evVal).1
    have hcoherent : c'.Coherent :=
      h.coherent.learnEvent hp h0 hi (keepsEvents_ev hp.spaced hi h0 hev evVal)
    have hcap : c'.eeMaxEvents.toNat = capacity :=
      (congrArg (fun l : Layout => l.eeMaxEvents.toNat) hl).trans h.capacity_eq
    have hknown : ∀ e', c'.Known e' ↔ e' ∈ s.keys ∨ e' = e ∧ StoreCommand.Teaches s e evNum :=
      h.known_learnEvent h0 hev hi
    rw [hc]
    by_cases ht : StoreCommand.Teaches s e evNum
    · have hroom : s.Accepts e := (h.accepts_iff e).mpr hi
      have happly : (StoreCommand.teach e evNum evVal).apply s = s.put e evNum evVal := if_pos ht
      rw [happly]
      refine ⟨h.intact.keeps (keeps_learnEvent c i e evNum evVal), hcoherent, hcap, ?_, ?_⟩
      · intro e'
        rw [BoundedStore.put_keys hroom, Finset.mem_insert, hknown]
        tauto
      · intro e' k v hv
        rw [BoundedStore.put_field hroom] at hv
        split_ifs at hv with hown
        · obtain ⟨rfl, rfl⟩ := hown
          cases hv
          have hlearned : Learned c c' i e' k evVal :=
            h.coherent.hashed.learnEvent hp.spaced hi h0 (Or.inl hev)
          have hvalue := hlearned.value.mpr (hp.variableReadsBack hi hev)
          have hfound := hlearned.find h.coherent.hashed hi h0 ((hknown e').mpr (Or.inr ⟨rfl, ht⟩))
          obtain ⟨_, _, hs⟩ := (hknown e').mpr (Or.inr ⟨rfl, ht⟩)
          refine ⟨h0, hl.symm ▸ hev, i, hl.symm ▸ hi, ?_, hvalue⟩
          rw [slot_eq_some, UInt8.ofNat_toNat]
          exact ⟨hfound.2, (slot_eq_some.mp hs).2⟩
        · exact h.holds_learnEvent h0 hev hi hv (not_and_or.mp hown)
    · have happly : (StoreCommand.teach e evNum evVal).apply s = s := if_neg ht
      rw [happly]
      refine ⟨h.intact.keeps (keeps_learnEvent c i e evNum evVal), hcoherent, hcap, ?_, ?_⟩
      · intro e'
        rw [hknown]
        tauto
      · intro e' k v hv
        refine h.holds_learnEvent h0 hev hi hv (Or.inl fun he => ht ⟨h0, Or.inl ?_⟩)
        exact he ▸ BoundedStore.mem_of_field hv
  · have hc : c.storeCommand (.teach e evNum evVal) = c := if_neg hdone
    have happly : (StoreCommand.teach e evNum evVal).apply s = s := by
      unfold StoreCommand.apply
      dsimp only
      split_ifs with ht
      · apply BoundedStore.put_of_refused
        rw [h.accepts_iff]
        exact fun hi => hdone ⟨ht.1, UInt8.lt_iff_toNat_lt.mpr hi⟩
      · rfl
    rw [hc, happly]
    exact h

theorem Represents.storeCommand (h : c.Represents s) {cmd : StoreCommand}
    (hr : cmd.InRange c.toLayout) : (c.storeCommand cmd).Represents (cmd.apply s) := by
  cases cmd with
  | clear => exact h.clear
  | remove e => exact h.remove e
  | teach e evNum evVal => exact h.teach hr

end CBUSConfig
end CBUSPicoLib
