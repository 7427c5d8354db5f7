import CBUSPicoLib.Library.Runs
import CBUSPicoLib.Config.Persistence

/-!
# The erase before programming is skipped soundly

Writes to the cache and flushes in any order, from a start on any flash content.
The decision to erase is accumulated per write against the cache; what makes it
right for the flash is `CacheSound`, which holds between the flushes.
-/

namespace CBUSPicoLib

open Runs

/-- A call that writes the cache or programs the flash. -/
inductive CacheCall
  | setChipEEPROMVal (eeaddress : UInt32) (val : UInt8)
  | flushToFlash

namespace CBUSConfig

def cacheStep (c : CBUSConfig) : CacheCall → CBUSConfig
  | .setChipEEPROMVal eeaddress val => c.setChipEEPROMVal eeaddress val
  | .flushToFlash => c.flushToFlash

/-- Write the bytes of `src` to the cache, then flush. -/
def writeBytesEEPROM (c : CBUSConfig) (eeaddress : UInt32) (src : List UInt8) : CBUSConfig :=
  (src.zipIdx.foldl (fun c p => c.setChipEEPROMVal (eeaddress + UInt32.ofNat p.2) p.1)
    c).flushToFlash

theorem CacheSound.cacheStep {c : CBUSConfig} (h : c.CacheSound) (call : CacheCall) :
    (c.cacheStep call).CacheSound := by
  cases call with
  | setChipEEPROMVal eeaddress val => exact h.setChipEEPROMVal eeaddress val
  | flushToFlash => exact h.flushToFlash.cacheSound

theorem CacheSound.run {c : CBUSConfig} (h : c.CacheSound) (calls : List CacheCall) :
    (run CBUSConfig.cacheStep c calls).CacheSound :=
  run_invariant (fun _ call h => h.cacheStep call) h calls

theorem writeBytesEEPROM_eq_run (c : CBUSConfig) (eeaddress : UInt32) (src : List UInt8) :
    c.writeBytesEEPROM eeaddress src = run cacheStep c (src.zipIdx.map (fun p =>
      CacheCall.setChipEEPROMVal (eeaddress + UInt32.ofNat p.2) p.1) ++ [.flushToFlash]) := by
  rw [run_append]
  unfold Runs.run
  rw [List.foldl_map]
  rfl

theorem CacheSound.writeBytesEEPROM {c : CBUSConfig} (h : c.CacheSound) (eeaddress : UInt32)
    (src : List UInt8) : (c.writeBytesEEPROM eeaddress src).Synced := by
  rw [writeBytesEEPROM_eq_run, run_append]
  exact (h.run _).flushToFlash

/-- Whatever is written between two flushes, and wherever: an unmodified cache is the
flash, without a raised bit the cache is contained in the flash, and a flush makes
them equal. -/
theorem flash_run (l : Layout) (flash : FlashImage) (calls : List CacheCall) :
    let c := run cacheStep (construct l flash).begin calls
    (c.bFlashModified = false → c.flashBuf = c.flash) ∧
      (c.bFlashZeroToOne = false → ∀ i, c.flash i &&& c.flashBuf i = c.flashBuf i) ∧
      (c.cacheStep .flushToFlash).flash = (c.cacheStep .flushToFlash).flashBuf := by
  intro c
  have hsound : c.CacheSound := (synced_begin l flash).cacheSound.run calls
  exact ⟨hsound.clean, hsound.lowered, hsound.flushToFlash.flash_eq⟩

end CBUSConfig
end CBUSPicoLib
