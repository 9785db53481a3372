import Mathlib.Data.List.Basic
import Mathlib.Data.List.Infix

namespace LMonitor.Library
variable {Piece : Type}

/-- A rotated log keeps its two newest blocks of whole pieces and drops the older ones. -/
structure RotatedLog (Piece : Type) where
  dropped : List Piece
  older : List Piece
  newer : List Piece

namespace RotatedLog

/-- The history has every piece that was ever added. -/
def history (log : RotatedLog Piece) : List Piece := log.dropped ++ log.older ++ log.newer

def kept (log : RotatedLog Piece) : List Piece := log.older ++ log.newer

def append (piece : Piece) (log : RotatedLog Piece) : RotatedLog Piece :=
  { log with newer := log.newer ++ [piece] }

def rotate (log : RotatedLog Piece) : RotatedLog Piece :=
  ⟨log.dropped ++ log.older, log.newer, []⟩

@[simp] theorem history_append (piece : Piece) (log : RotatedLog Piece) :
    (log.append piece).history = log.history ++ [piece] := by
  simp only [history, append, List.append_assoc]

@[simp] theorem history_rotate (log : RotatedLog Piece) : log.rotate.history = log.history := by
  simp only [history, rotate, List.append_nil]

/-- The two blocks are the end of the history. -/
theorem kept_suffix (log : RotatedLog Piece) : log.kept <:+ log.history :=
  ⟨log.dropped, by rw [kept, history, List.append_assoc]⟩

end RotatedLog
end LMonitor.Library
