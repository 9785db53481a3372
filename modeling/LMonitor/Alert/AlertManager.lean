import LMonitor.Alert.AlertEvaluator
import LMonitor.Library.UnorderedMap
import LMonitor.Model.Clock

namespace LMonitor
open Library
variable {D : Type} [Double D]

inductive AlertState where
  | normal
  | pending
  | firing
  deriving DecidableEq

/-- A managed alert keeps the state of one metric of one host. -/
structure ManagedAlert (D : Type) where
  hostname : Bytes
  metric : Bytes
  level : AlertLevel
  state : AlertState
  currentValue : D
  threshold : D
  message : Bytes
  firstDetected : Int
  lastUpdate : Int
  deriving DecidableEq

structure AlertManager (D : Type) where
  alerts : UnorderedMap Bytes (ManagedAlert D)
  fireDuration : Int
  cpuThreshold : D
  memoryThreshold : D

namespace AlertManager

/-- The manager starts without alerts and takes its three settings from the configuration. -/
def construct (fireDuration : Int) (cpuThreshold memoryThreshold : D) : AlertManager D :=
  ⟨∅, fireDuration, cpuThreshold, memoryThreshold⟩

def makeKey (hostname metric : Bytes) : Bytes := hostname ++ ascii "_" ++ metric

/-- The detection loop carries the table, the keys of the sample and the newly firing alerts. -/
structure Detection (D : Type) where
  alerts : UnorderedMap Bytes (ManagedAlert D)
  currentAlertKeys : UnorderedMap Bytes Bool
  result : List (ManagedAlert D)

/-- One pass of the detection loop handles one raw alert. -/
def detect (fireDuration now : Int) (d : Detection D) (alert : Alert D) :
    Detection D :=
  let key := makeKey alert.hostname alert.metric
  let currentAlertKeys := d.currentAlertKeys.insert key true
  match d.alerts.lookup key with
  | none =>
      let managed : ManagedAlert D :=
        ⟨alert.hostname, alert.metric, alert.level, .pending, alert.currentValue,
          alert.threshold, alert.message, now, now⟩
      { d with
        alerts := d.alerts.insert key managed
        currentAlertKeys := currentAlertKeys }
  | some managed =>
      let managed := { managed with
        currentValue := alert.currentValue
        lastUpdate := now }
      let duration := durationCastSeconds (now - managed.firstDetected)
      if fireDuration ≤ duration ∧ managed.state ≠ .firing then
        let managed := { managed with state := .firing }
        ⟨d.alerts.insert key managed, currentAlertKeys, d.result ++ [managed]⟩
      else ⟨d.alerts.insert key managed, currentAlertKeys, d.result⟩

/-- One pass of the resolve loop handles one entry of the table. -/
def resolve (currentAlertKeys : UnorderedMap Bytes Bool) (key : Bytes) (alert : ManagedAlert D) :
    ManagedAlert D :=
  match currentAlertKeys.lookup key with
  | none => if alert.state = .firing then { alert with state := .normal } else alert
  | some _ => alert

/-- The resolve loop logs the entries that it changes. -/
def Resolves (currentAlertKeys : UnorderedMap Bytes Bool)
    (entry : Sigma fun _ : Bytes => ManagedAlert D) : Prop :=
  currentAlertKeys.lookup entry.1 = none ∧ entry.2.state = .firing

instance (currentAlertKeys : UnorderedMap Bytes Bool) :
    DecidablePred (Resolves (D := D) currentAlertKeys) :=
  fun _ => inferInstanceAs (Decidable (_ ∧ _))

def resolvedLine (alert : ManagedAlert D) : Bytes :=
  ascii "Alert resolved: " ++ alert.hostname ++ ascii " " ++ alert.metric

/-- The detection loop has handled the raw alerts of a sample. -/
def detection (now : Int) (metrics : SystemMetrics D) (manager : AlertManager D) : Detection D :=
  (AlertEvaluator.evaluate metrics manager.cpuThreshold manager.memoryThreshold).foldl
    (detect manager.fireDuration now) ⟨manager.alerts, ∅, []⟩

/-- An update has the newly firing alerts, the alerts that it logs as resolved, and the next state
of the manager. -/
structure Update (D : Type) where
  result : List (ManagedAlert D)
  resolved : List (ManagedAlert D)
  manager : AlertManager D

/-- The update takes the lock once for both loops. -/
def runUpdate (now : Int) (metrics : SystemMetrics D) (manager : AlertManager D) : Update D :=
  let d := detection now metrics manager
  -- The loop visits every entry, whichever host it belongs to.
  let alerts := UnorderedMap.mapValues (resolve d.currentAlertKeys) d.alerts
  let resolved := d.alerts.entries.filter fun entry => Resolves d.currentAlertKeys entry
  ⟨d.result, resolved.map Sigma.snd, { manager with alerts := alerts }⟩

/-- The update returns the newly firing alerts and the next state of the manager. -/
def update (now : Int) (metrics : SystemMetrics D) (manager : AlertManager D) :
    List (ManagedAlert D) × AlertManager D :=
  ((runUpdate now metrics manager).result, (runUpdate now metrics manager).manager)

def getActiveAlerts (manager : AlertManager D) : List (ManagedAlert D) :=
  (UnorderedMap.values manager.alerts).filter fun alert => alert.state ≠ .normal

end AlertManager
end LMonitor
