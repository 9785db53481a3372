import LMonitor.Library.Bytes

namespace LMonitor

/-- A function object returns, throws a `std::exception`, or throws another type. -/
inductive Outcome where
  | returned
  | threw (what : Bytes)
  | threwUnknown

/-- Both exception handlers write one error line, and execution continues after them. -/
def Outcome.errorLines (subject : Bytes) : Outcome → List Bytes
  | .returned => []
  | .threw what => [subject ++ ascii " exception: " ++ what]
  | .threwUnknown => [subject ++ ascii " threw unknown exception"]

end LMonitor
