import Mathlib.Data.Int.Notation

namespace LMonitor

/-- Clock readings count nanoseconds. -/
def nanosecondsPerSecond : Int := 1000000000

/-- The conversion of a duration to seconds truncates toward zero. -/
def durationCastSeconds (nanoseconds : Int) : Int := nanoseconds.tdiv nanosecondsPerSecond

def nanosecondsPerMillisecond : Int := 1000000

/-- The conversion to milliseconds truncates toward zero as well. -/
def durationCastMilliseconds (nanoseconds : Int) : Int :=
  nanoseconds.tdiv nanosecondsPerMillisecond

/-- The milliseconds go forward with the clock. -/
theorem durationCastMilliseconds_mono {earlier later : Int} (order : earlier ≤ later) :
    durationCastMilliseconds earlier ≤ durationCastMilliseconds later :=
  Int.tdiv_le_tdiv (by decide) order

end LMonitor
