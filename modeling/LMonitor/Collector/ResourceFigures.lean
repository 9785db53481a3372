import LMonitor.Collector.DiskCollector
import LMonitor.Collector.MemoryCollector

namespace LMonitor
open Library

/-- The used memory is a part of the total memory. -/
structure MemoryInfo.Consistent (info : MemoryInfo) : Prop where
  used : info.usedKB ≤ info.totalKB
  usage : IsPercentage info.usagePercent

/-- The used bytes of a disk are a part of its total bytes. -/
structure DiskInfo.Consistent (info : DiskInfo) : Prop where
  used : info.usedBytes ≤ info.totalBytes
  usage : IsPercentage info.usagePercent

/-- The figures of the memory agree as long as no more is available than there is. -/
theorem MemoryInfo.consistent_iff (info : MemoryInfo) :
    info.Consistent ↔ info.availableKB ≤ info.totalKB := by
  have used : info.usedKB ≤ info.totalKB ↔ info.availableKB ≤ info.totalKB := sub_le_iff _ _
  constructor
  · intro consistent
    exact used.mp consistent.used
  · intro available
    exact ⟨used.mpr available, (isPercentage_iff _ _).mpr (.inr (used.mpr available))⟩

namespace Statvfs

/-- A number of blocks has so many bytes modulo 2^64. -/
def bytes (fsInfo : Statvfs) (blocks : UInt64) : UInt64 := blocks * fsInfo.f_frsize

/-- The free bytes do not exceed the total bytes, and the used and the available bytes together do
not exceed 2^64. -/
def Moderate (fsInfo : Statvfs) : Prop :=
  fsInfo.bytes fsInfo.f_bfree ≤ fsInfo.bytes fsInfo.f_blocks ∧
    (fsInfo.bytes fsInfo.f_blocks).toNat + (fsInfo.bytes fsInfo.f_bavail).toNat ≤
      18446744073709551616 + (fsInfo.bytes fsInfo.f_bfree).toNat

/-- The counts of an ordinary file system are ordered, and its size fits in 64 bits. -/
structure Ordinary (fsInfo : Statvfs) : Prop where
  free : fsInfo.f_bfree ≤ fsInfo.f_blocks
  available : fsInfo.f_bavail ≤ fsInfo.f_bfree
  fits : fsInfo.f_blocks.toNat * fsInfo.f_frsize.toNat < 18446744073709551616

/-- The bytes of an ordinary file system do not overflow. -/
theorem Ordinary.bytes_toNat {fsInfo : Statvfs} (ordinary : fsInfo.Ordinary) {blocks : UInt64}
    (few : blocks ≤ fsInfo.f_blocks) :
    (fsInfo.bytes blocks).toNat = blocks.toNat * fsInfo.f_frsize.toNat := by
  have bound := Nat.mul_le_mul_right fsInfo.f_frsize.toNat (UInt64.le_iff_toNat_le.mp few)
  rw [bytes, UInt64.toNat_mul]
  exact Nat.mod_eq_of_lt (bound.trans_lt ordinary.fits)

/-- An ordinary file system is moderate. -/
theorem Ordinary.moderate {fsInfo : Statvfs} (ordinary : fsInfo.Ordinary) : fsInfo.Moderate := by
  have freeBound := Nat.mul_le_mul_right fsInfo.f_frsize.toNat
    (UInt64.le_iff_toNat_le.mp ordinary.free)
  have availableBound := Nat.mul_le_mul_right fsInfo.f_frsize.toNat
    (UInt64.le_iff_toNat_le.mp ordinary.available)
  have fits := ordinary.fits
  rw [Moderate, UInt64.le_iff_toNat_le, ordinary.bytes_toNat (UInt64.le_refl _),
    ordinary.bytes_toNat ordinary.free,
    ordinary.bytes_toNat (UInt64.le_trans ordinary.available ordinary.free)]
  omega

end Statvfs

/-- The figures of a disk are consistent exactly for moderate results. -/
theorem DiskInfo.consistent_iff (path : Bytes) (fsInfo : Statvfs) :
    ∃ info, DiskCollector.collect path (some fsInfo) = .ok info ∧
      (info.Consistent ↔ fsInfo.Moderate) := by
  refine ⟨_, rfl, ?_⟩
  have figures := remainder_share_iff (fsInfo.bytes fsInfo.f_blocks) (fsInfo.bytes fsInfo.f_bfree)
    (fsInfo.bytes fsInfo.f_bavail)
  constructor
  · intro consistent
    exact figures.mp ⟨consistent.used, consistent.usage⟩
  · intro moderate
    obtain ⟨used, usage⟩ := figures.mpr moderate
    exact ⟨used, usage⟩

/-- The figures of an ordinary file system agree. -/
theorem DiskInfo.consistent_of_ordinary (path : Bytes) {fsInfo : Statvfs}
    (ordinary : fsInfo.Ordinary) :
    ∃ info, DiskCollector.collect path (some fsInfo) = .ok info ∧ info.Consistent := by
  obtain ⟨info, collected, consistent⟩ := DiskInfo.consistent_iff path fsInfo
  exact ⟨info, collected, consistent.mpr ordinary.moderate⟩

/-- The memory collector accepts these numbers. -/
abbrev CollectedMemory := { info : MemoryInfo // ∃ file, MemoryCollector.collect file = .ok info }

/-- The figures of the memory are consistent exactly if the available memory does not exceed the
total memory, and those of a disk exactly if its result is moderate. -/
theorem figures_consistent_iff (memory : CollectedMemory) (path : Bytes) (fsInfo : Statvfs) :
    (memory.val.Consistent ↔ memory.val.availableKB ≤ memory.val.totalKB) ∧
      ∃ info, DiskCollector.collect path (some fsInfo) = .ok info ∧
        (info.Consistent ↔ fsInfo.Moderate) :=
  ⟨memory.val.consistent_iff, DiskInfo.consistent_iff path fsInfo⟩

/-- More available than total memory and more free than total blocks give huge figures. -/
theorem inconsistent_figures :
    (∃ memory : CollectedMemory, memory.val = ⟨1, 2⟩ ∧
      memory.val.usedKB = 18446744073709551615 ∧ ¬ memory.val.Consistent) ∧
    ∃ info, DiskCollector.collect (ascii "/") (some ⟨1, 1, 2, 0⟩) = .ok info ∧
      info.usedBytes = 18446744073709551615 ∧ ¬ info.Consistent := by
  constructor
  · have accepted := (MemoryCollector.collects_iff ⟨1, 2⟩).mpr ⟨by decide, by decide⟩
    have more : ¬ (2 : UInt64) ≤ 1 := by decide
    refine ⟨⟨⟨1, 2⟩, accepted⟩, rfl, rfl, ?_⟩
    intro consistent
    exact more ((MemoryInfo.consistent_iff _).mp consistent)
  · refine ⟨_, rfl, by decide, ?_⟩
    intro consistent
    exact absurd consistent.used (by decide)

end LMonitor
