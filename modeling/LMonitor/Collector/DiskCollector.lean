import LMonitor.Library.Bytes
import LMonitor.Library.Percentage

namespace LMonitor
open Library

/-- The system call `statvfs` counts the blocks of a file system. -/
structure Statvfs where
  f_frsize : UInt64
  f_blocks : UInt64
  f_bfree : UInt64
  f_bavail : UInt64
  deriving DecidableEq

structure DiskInfo where
  mountPoint : Bytes
  totalBytes : UInt64 := 0
  usedBytes : UInt64 := 0
  availableBytes : UInt64 := 0
  deriving DecidableEq

def DiskInfo.usagePercent (info : DiskInfo) : ℚ :=
  let usableBytes := info.usedBytes + info.availableBytes
  percentage info.usedBytes usableBytes

namespace DiskCollector

/-- A failed call has no result. -/
def collect (path : Bytes) (result : Option Statvfs) : Except Bytes DiskInfo :=
  match result with
  | none => .error (ascii "Failed to get disk information for: " ++ path)
  | some fsInfo =>
      let blockSize := fsInfo.f_frsize
      let totalBytes := fsInfo.f_blocks * blockSize
      let availableBytes := fsInfo.f_bavail * blockSize
      let freeBytes := fsInfo.f_bfree * blockSize
      .ok ⟨path, totalBytes, totalBytes - freeBytes, availableBytes⟩

end DiskCollector
end LMonitor
