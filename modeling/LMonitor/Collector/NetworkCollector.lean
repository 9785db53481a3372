import LMonitor.Agent.TopProcesses
import LMonitor.Library.PaddedText
import LMonitor.Library.Split

namespace LMonitor
open Library

structure NetworkStats where
  interfaceName : Bytes
  rxBytes : UInt64 := 0
  txBytes : UInt64 := 0
  deriving DecidableEq

namespace NetworkCollector

/-- A route has an interface, a destination, a gateway and hexadecimal flags. -/
def readRoute : Extraction (Bytes × Bytes) := do
  let interfaceName ← extractWord
  let destination ← extractWord
  let _gateway ← extractWord
  let _flags ← extractHex
  return (interfaceName, destination)

/-- The loop skips lines of another form and returns at the first default route. -/
def firstDefault : List Bytes → Except Bytes Bytes
  | [] => .error (ascii "Default network interface not found")
  | line :: lines =>
      match readRoute line with
      | none => firstDefault lines
      | some ((interfaceName, destination), _) =>
          if destination = ascii "00000000" then .ok interfaceName else firstDefault lines

/-- The first line is the header of the table. -/
def detectDefaultInterface (file : Option Bytes) : Except Bytes Bytes :=
  match file with
  | none => .error (ascii "Failed to open /proc/net/route")
  | some text => firstDefault ((linesFrom 10 [] text).drop 1)

/-- The stream reads sixteen counters and keeps the received and the transmitted bytes. -/
def readCounters : Extraction (UInt64 × UInt64) := do
  let rxBytes ← extractUnsigned
  let _rxPackets ← extractUnsigned
  let _rxErrs ← extractUnsigned
  let _rxDrop ← extractUnsigned
  let _rxFifo ← extractUnsigned
  let _rxFrame ← extractUnsigned
  let _rxCompressed ← extractUnsigned
  let _rxMulticast ← extractUnsigned
  let txBytes ← extractUnsigned
  let _txPackets ← extractUnsigned
  let _txErrs ← extractUnsigned
  let _txDrop ← extractUnsigned
  let _txFifo ← extractUnsigned
  let _txColls ← extractUnsigned
  let _txCarrier ← extractUnsigned
  let _txCompressed ← extractUnsigned
  return (rxBytes, txBytes)

/-- The name of an interface loses the blanks and tabs around it. -/
def isBlank (byte : UInt8) : Bool := byte = 32 ∨ byte = 9

/-- The loop skips the lines of other interfaces and ends at the line of this one. -/
def findInterface (interfaceName : Bytes) : List Bytes → Except Bytes NetworkStats
  | [] => .error (ascii "Network interface not found: " ++ interfaceName)
  | line :: lines =>
      match splitFirst 58 line with
      | none => findInterface interfaceName lines
      | some (front, data) =>
          let name := trim isBlank front
          if name = [] then findInterface interfaceName lines
          else if name ≠ interfaceName then findInterface interfaceName lines
          else
            match readCounters data with
            | none => .error (ascii "Failed to parse network interface: " ++ interfaceName)
            | some ((rxBytes, txBytes), _) => .ok ⟨name, rxBytes, txBytes⟩

/-- The first two lines are the header of the table. -/
def collect (file : Option Bytes) (interfaceName : Bytes) : Except Bytes NetworkStats :=
  match file with
  | none => .error (ascii "Failed to open /proc/net/dev")
  | some text => findInterface interfaceName ((linesFrom 10 [] text).drop 2)

/-- A counter that went back has the rate zero. The quotient is exact, where the code rounds it to a
double. -/
def rate (previous current : UInt64) (intervalSeconds : ℚ) : ℚ :=
  if previous ≤ current then (current - previous).toNat / intervalSeconds else 0

def calculateRate (previous current : NetworkStats) (intervalSeconds : ℚ) :
    Except Bytes NetworkRate :=
  if intervalSeconds ≤ 0 then .error (ascii "Invalid network sampling interval")
  else .ok ⟨rate previous.rxBytes current.rxBytes intervalSeconds,
    rate previous.txBytes current.txBytes intervalSeconds⟩

end NetworkCollector
end LMonitor
