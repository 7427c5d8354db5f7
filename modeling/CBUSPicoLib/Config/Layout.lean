import CBUSPicoLib.Config.SlotBytes

/-!
# Where the areas of the image lie

`Layout.Fits` says that the event area, the NV area and the identity bytes 0 to
5 are disjoint parts of the sector. Under it the 32-bit address computations of
the source are plain arithmetic, event cells are disjoint, and a byte write
changes a stored event exactly where it lands on one of its four identity bytes.
-/

namespace CBUSPicoLib

namespace Layout

/-- Address `a` belongs to the event area, computed without wrapping. -/
def InEvents (l : Layout) (a : ℕ) : Prop :=
  l.eeEventsStart.toNat ≤ a ∧
    a < l.eeEventsStart.toNat + l.eeMaxEvents.toNat * (l.eeNumEvs.toNat + 4)

/-- Address `a` belongs to the node variable area. -/
def InNvs (l : Layout) (a : ℕ) : Prop :=
  l.eeNvsStart.toNat ≤ a ∧ a < l.eeNvsStart.toNat + l.eeNumNvs.toNat

/-- The areas are disjoint, avoid the identity bytes 0 to 5 and lie inside the sector. -/
structure Fits (l : Layout) : Prop where
  numEvs : l.eeNumEvs.toNat + 4 < 256
  events : ∀ a, l.InEvents a → 6 ≤ a ∧ a < flashSectorSize
  nvs : ∀ a, l.InNvs a → 6 ≤ a ∧ a < flashSectorSize
  disjoint : ∀ a, l.InEvents a → ¬ l.InNvs a

def slotBase (l : Layout) (i : ℕ) : ℕ :=
  l.eeEventsStart.toNat + i * (l.eeNumEvs.toNat + 4)

variable {l : Layout}

theorem slotBase_add_inEvents {i k : ℕ} (hi : i < l.eeMaxEvents.toNat)
    (hk : k < l.eeNumEvs.toNat + 4) : l.InEvents (l.slotBase i + k) := by
  have hm := Nat.mul_le_mul_right (l.eeNumEvs.toNat + 4) (Nat.succ_le_of_lt hi)
  rw [Nat.succ_mul] at hm
  constructor <;> unfold slotBase <;> omega

theorem slotBase_add_ne {i j k m : ℕ} (hij : i ≠ j) (hk : k < l.eeNumEvs.toNat + 4)
    (hm : m < l.eeNumEvs.toNat + 4) : l.slotBase i + k ≠ l.slotBase j + m := by
  unfold slotBase
  rcases lt_or_gt_of_ne hij with h | h
  · have := Nat.mul_le_mul_right (l.eeNumEvs.toNat + 4) (Nat.succ_le_of_lt h)
    rw [Nat.succ_mul] at this
    omega
  · have := Nat.mul_le_mul_right (l.eeNumEvs.toNat + 4) (Nat.succ_le_of_lt h)
    rw [Nat.succ_mul] at this
    omega

theorem Fits.slotBase_add (h : l.Fits) {i k : ℕ} (hi : i < l.eeMaxEvents.toNat)
    (hk : k < l.eeNumEvs.toNat + 4) : 6 ≤ l.slotBase i + k ∧ l.slotBase i + k < flashSectorSize :=
  h.events _ (slotBase_add_inEvents hi hk)

end Layout

namespace CBUSConfig

/-- The layout fits and `begin` has computed the size of a slot. -/
structure Placed (c : CBUSConfig) : Prop where
  fits : c.toLayout.Fits
  bytesPerEvent : c.eeBytesPerEvent = c.eeNumEvs + 4

theorem Placed.of_eventRam {c c' : CBUSConfig} (h : c.Placed) (hu : c'.eventRam = c.eventRam) :
    c'.Placed := by
  have hl : c'.toLayout = c.toLayout := congrArg Prod.fst hu
  have hb : c'.eeBytesPerEvent = c.eeBytesPerEvent := congrArg (·.2.1) hu
  exact ⟨hl ▸ h.fits, by rw [hb, hl]; exact h.bytesPerEvent⟩

/-- The address computation of the source does not wrap inside the event table,
whatever byte is used as the offset. -/
theorem Placed.eventAddress_toNat {c : CBUSConfig} (h : c.Placed) {idx : UInt8}
    (hi : idx.toNat < c.eeMaxEvents.toNat) {k : UInt32} (hk : k.toNat < 512) :
    (c.eventAddress idx k).toNat = c.slotBase idx.toNat + k.toNat := by
  have h0 := h.fits.slotBase_add hi (Nat.succ_pos _)
  have hn := h.fits.numEvs
  have hb : c.eeBytesPerEvent.toNat = c.eeNumEvs.toNat + 4 := by
    rw [h.bytesPerEvent, UInt8.toNat_add]
    exact Nat.mod_eq_of_lt (by simpa using hn)
  simp only [eventAddress, Layout.slotBase, UInt32.toNat_add, UInt32.toNat_mul,
    UInt8.toNat_toUInt32, hb] at h0 ⊢
  simp only [flashSectorSize] at h0
  generalize idx.toNat * (c.eeNumEvs.toNat + 4) = m at h0 ⊢
  omega

theorem Placed.slotByte {c : CBUSConfig} (h : c.Placed) {idx : UInt8}
    (hi : idx.toNat < c.eeMaxEvents.toNat) {k : ℕ} (hk : k < 512) :
    c.slotByte idx k = c.slotBase idx.toNat + k := by
  have hofs : (UInt32.ofNat k).toNat = k := by
    rw [UInt32.toNat_ofNat', Nat.mod_eq_of_lt (by omega)]
  have haddr := h.eventAddress_toNat hi (hofs.symm ▸ hk : (UInt32.ofNat k).toNat < 512)
  rwa [hofs] at haddr

theorem Placed.spaced {c : CBUSConfig} (h : c.Placed) : c.Spaced := by
  have hn := h.fits.numEvs
  refine ⟨Or.inl (UInt8.le_iff_toNat_le.mpr ?_), h.bytesPerEvent⟩
  change c.eeNumEvs.toNat ≤ 251
  omega

theorem Placed.heldAs {c : CBUSConfig} (h : c.Placed) {idx : UInt8}
    (hi : idx.toNat < c.eeMaxEvents.toNat) (e : EventInfo) : c.heldAs idx e = e := by
  rw [heldAs_eq_iff]
  intro k hk
  rw [h.slotByte hi (by omega), if_pos (h.fits.slotBase_add hi (by omega)).2]

theorem Placed.eventAddress_variable {c : CBUSConfig} (h : c.Placed) {idx : UInt8}
    (hi : idx.toNat < c.eeMaxEvents.toNat) (evNum : UInt8) :
    (c.eventAddress idx (3 + evNum.toUInt32)).toNat =
      c.slotBase idx.toNat + (3 + evNum.toNat) := by
  have hn := evNum.toNat_lt
  rw [CBUSConfig.eventAddress_variable, h.slotByte hi (by omega)]

theorem Placed.readEvent_congr {c c' : CBUSConfig} (h : c.Placed) (hu : c'.eventRam = c.eventRam)
    {idx : UInt8} (hi : idx.toNat < c.eeMaxEvents.toNat)
    (hbytes : ∀ k < 4, c'.flashBuf.read 0xFF (c.slotBase idx.toNat + k) =
      c.flashBuf.read 0xFF (c.slotBase idx.toNat + k)) : c'.readEvent idx = c.readEvent idx := by
  apply CBUSConfig.readEvent_congr hu
  intro k hk
  rw [h.slotByte hi (by omega)]
  exact hbytes k hk

theorem Placed.readEvent_bytes {c : CBUSConfig} (h : c.Placed) {idx : UInt8}
    (hi : idx.toNat < c.eeMaxEvents.toNat) :
    c.readEvent idx =
      ⟨bytesToWord (c.flashBuf.read 0xFF (c.slotBase idx.toNat))
          (c.flashBuf.read 0xFF (c.slotBase idx.toNat + 1)),
        bytesToWord (c.flashBuf.read 0xFF (c.slotBase idx.toNat + 2))
          (c.flashBuf.read 0xFF (c.slotBase idx.toNat + 3))⟩ := by
  have hbyte : ∀ k < 4, c.slotByte idx k = c.slotBase idx.toNat + k :=
    fun k hk => h.slotByte hi (by omega)
  rw [← hbyte 1 (by omega), ← hbyte 2 (by omega), ← hbyte 3 (by omega),
    ← Nat.add_zero (c.slotBase idx.toNat), ← hbyte 0 (by omega)]
  rfl

theorem Placed.readEvent_eq_unused {c : CBUSConfig} (h : c.Placed) {idx : UInt8}
    (hi : idx.toNat < c.eeMaxEvents.toNat) :
    c.readEvent idx = evInfoUnused ↔
      ∀ k < 4, c.flashBuf.read 0xFF (c.slotBase idx.toNat + k) = 0xFF := by
  rw [readEvent_eq_unused_iff]
  refine forall₂_congr fun k hk => ?_
  rw [h.slotByte hi (by omega)]

end CBUSConfig
end CBUSPicoLib
