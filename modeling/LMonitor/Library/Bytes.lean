import Mathlib.Data.List.Basic
import Mathlib.Tactic.Common

namespace LMonitor

/-- A byte string has any bytes, as `std::string` has. -/
abbrev Bytes := List UInt8

/-- This function gives the bytes of an ASCII literal. -/
def ascii (text : String) : Bytes := text.toList.map fun c => c.toNat.toUInt8

/-- This is the memory of a 32-bit value in network byte order. -/
def htonl (value : UInt32) : Bytes :=
  [(value.toNat / 16777216).toUInt8, (value.toNat / 65536).toUInt8,
    (value.toNat / 256).toUInt8, value.toNat.toUInt8]

/-- This function reads bytes in network byte order. -/
def ntohl (memory : Bytes) : UInt32 :=
  UInt32.ofNat (memory.foldl (fun value byte => 256 * value + byte.toNat) 0)

@[simp] theorem htonl_length (value : UInt32) : (htonl value).length = 4 := rfl

theorem ntohl_htonl (value : UInt32) : ntohl (htonl value) = value := by
  have small := value.toNat_lt
  apply UInt32.toNat.inj
  simp only [ntohl, htonl, List.foldl_cons, List.foldl_nil, Nat.toUInt8, UInt8.toNat_ofNat',
    UInt32.toNat_ofNat']
  omega

theorem htonl_ntohl (memory : Bytes) (four : memory.length = 4) :
    htonl (ntohl memory) = memory := by
  match memory, four with
  | [a, b, c, d], _ =>
      have := a.toNat_lt
      have := b.toNat_lt
      have := c.toNat_lt
      have := d.toNat_lt
      simp only [ntohl, htonl, List.foldl_cons, List.foldl_nil, UInt32.toNat_ofNat',
        List.cons.injEq, and_true, ← UInt8.toNat_inj, Nat.toUInt8, UInt8.toNat_ofNat']
      omega

end LMonitor
