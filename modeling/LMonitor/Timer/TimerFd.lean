import LMonitor.Library.Bytes

namespace LMonitor

/-- The kernel counts the expirations of an armed timer since its last read. -/
structure TimerFd where
  intervalSeconds : Option UInt32
  expirationCount : Nat
  deriving DecidableEq

namespace TimerFd

def construct : TimerFd := ⟨none, 0⟩

/-- A new setting of the timer clears its count. -/
def start (intervalSeconds : UInt32) (_timer : TimerFd) : Except Bytes TimerFd :=
  if intervalSeconds = 0 then .error (ascii "Timer interval cannot be zero")
  else .ok ⟨some intervalSeconds, 0⟩

/-- Only an armed timer expires. -/
def expire (timer : TimerFd) : Option TimerFd :=
  timer.intervalSeconds.map fun _ => { timer with expirationCount := timer.expirationCount + 1 }

/-- A read without an expiration fails with `EAGAIN`, and the function returns zero for it. -/
def readExpirationCount (timer : TimerFd) : Nat × TimerFd :=
  (timer.expirationCount, { timer with expirationCount := 0 })

end TimerFd
end LMonitor
