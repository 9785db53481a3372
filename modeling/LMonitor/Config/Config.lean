import LMonitor.Alert.AlertManager
import LMonitor.Library.Split
import LMonitor.Serializer.DoubleText

namespace LMonitor
open Library

/-- A configuration maps section-qualified keys to the texts of their values. -/
structure Config where
  values : UnorderedMap Bytes Bytes

namespace Config

/-- The loop over the lines carries the current section and the values. -/
structure Load where
  currentSection : Bytes
  values : UnorderedMap Bytes Bytes

def fullKey (currentSection key : Bytes) : Bytes :=
  if currentSection ≠ [] then currentSection ++ ascii "." ++ key else key

/-- A header stands in brackets and names the section of the lines after it. -/
def isSection (line : Bytes) : Bool := line.head? = some 91 ∧ line.getLast? = some 93

/-- Each line is empty, a comment, a header, an assignment or ignored. -/
def loadLine (s : Load) (line : Bytes) : Load :=
  if line = [] then s
  else if line.head? = some 35 then s
  else if isSection line then { s with currentSection := (line.drop 1).take (line.length - 2) }
  else
    match splitFirst 61 line with
    | none => s
    | some (key, value) => { s with values := s.values.insert (fullKey s.currentSection key) value }

/-- A file that does not open leaves the values alone. -/
def load (file : Option Bytes) (config : Config) : Bool × Config :=
  match file with
  | none => (false, config)
  | some text => (true, ⟨((linesFrom 10 [] text).foldl loadLine ⟨[], ∅⟩).values⟩)

def get (config : Config) (key defaultValue : Bytes) : Bytes :=
  (config.values.lookup key).getD defaultValue

/-- A missing value has the empty text, and an empty text means the default. -/
def readInt (text : Bytes) (defaultValue : Int) : Except Bytes Int :=
  if text = [] then .ok defaultValue
  else
    match stoi text with
    | none => .error (ascii "stoi")
    | some (value, _) => .ok value

def readDouble {D : Type} [DoubleText D] (text : Bytes) (defaultValue : D) : Except Bytes D :=
  if text = [] then .ok defaultValue
  else
    match DoubleText.stod text with
    | none => .error (ascii "stod")
    | some (value, _) => .ok value

def getInt (config : Config) (key : Bytes) (defaultValue : Int) : Except Bytes Int :=
  readInt (config.get key []) defaultValue

def getDouble {D : Type} [DoubleText D] (config : Config) (key : Bytes) (defaultValue : D) :
    Except Bytes D :=
  readDouble (config.get key []) defaultValue

/-- These are the assignments of the lines with their sections. -/
def assignments (currentSection : Bytes) : List Bytes → List (Bytes × Bytes × Bytes)
  | [] => []
  | line :: lines =>
      if line = [] ∨ line.head? = some 35 then assignments currentSection lines
      else if isSection line then assignments ((line.drop 1).take (line.length - 2)) lines
      else
        match splitFirst 61 line with
        | none => assignments currentSection lines
        | some (key, value) => (currentSection, key, value) :: assignments currentSection lines

/-- The last assignment to a key inside a section counts, and an absent one has no text. -/
def lastAssigned (text sectionName key : Bytes) : Bytes :=
  (((assignments [] (linesFrom 10 [] text)).filter fun assigned =>
    assigned.1 = sectionName ∧ assigned.2.1 = key).getLast?.map fun assigned =>
      assigned.2.2).getD []

end Config

/-- The constructor of the manager reads its three settings from the configuration. -/
def AlertManager.ofConfig {D : Type} [DoubleText D] (config : Config) :
    Except Bytes (AlertManager D) := do
  let fireDuration ← config.getInt (ascii "fire_duration") 5
  let cpuThreshold ← config.getDouble (ascii "cpu_threshold") (Double.ofNat 80)
  let memoryThreshold ← config.getDouble (ascii "memory_threshold") (Double.ofNat 90)
  return .construct fireDuration cpuThreshold memoryThreshold

end LMonitor
