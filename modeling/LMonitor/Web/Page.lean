import LMonitor.Http.HostAddresses
import LMonitor.Library.JsonParser

namespace LMonitor.Dashboard
open Library

/-- A property that an object does not have is undefined. -/
abbrev Value := Option Json

/-- A promise of the browser is rejected, a response is no success, or a function throws. -/
inductive Failure where
  | rejected
  | http (status : Nat)
  | syntaxError
  | typeError
  deriving DecidableEq

/-- The last member of a name decides. -/
def property (value : Value) (key : String) : Except Failure Value :=
  match value with
  | none => .error .typeError
  | some .null => .error .typeError
  | some (.object members) => .ok (members.reverse.lookup (ascii key))
  | some _ => .ok none

/-- A string counts the units of its characters. -/
def lengthOf : Value → Except Failure Value
  | some (.array values) => .ok (some (.number (decimal values.length)))
  | some (.string text) => .ok (some (.number (decimal
      (text.countP (fun byte => byte < 128 ∨ 192 ≤ byte) + text.countP fun byte => 240 ≤ byte))))
  | value => property value "length"

/-- A cell keeps the value and the way in which the page formats it. -/
inductive Cell where
  | text (value : Value)
  | percent (value : Value)
  | fixed2 (value : Value)
  | uptime (value : Value)
  | bytes (value : Value)
  | kilobytes (value : Value)
  | bytesPerSecond (value : Value)

/-- An entry of the host list is an object with the name of a host. -/
structure HostEntry where
  members : List (Bytes × Json)
  hostname : Bytes
  named : members.reverse.lookup (ascii "hostname") = some (.string hostname)

def HostEntry.get (host : HostEntry) (key : String) : Value :=
  host.members.reverse.lookup (ascii key)

def hostEntry : Json → Option HostEntry
  | .object members =>
      match named : members.reverse.lookup (ascii "hostname") with
      | some (.string hostname) => some ⟨members, hostname, named⟩
      | _ => none
  | _ => none

def isText (text : String) : Value → Bool
  | some (.string value) => value = ascii text
  | _ => false

structure Summary where
  hostCount : Nat
  onlineCount : Nat
  staleCount : Nat
  offlineCount : Nat

def renderSummary (hosts : List HostEntry) : Summary where
  hostCount := hosts.length
  onlineCount := hosts.countP fun host => isText "ONLINE" (host.get "status")
  staleCount := hosts.countP fun host => isText "STALE" (host.get "status")
  offlineCount := hosts.countP fun host => isText "OFFLINE" (host.get "status")

structure HostRow where
  selected : Bool
  hostname : Bytes
  status : Value
  cells : List Cell

def hostRow (selectedHostname : Option Bytes) (host : HostEntry) : HostRow where
  selected := selectedHostname = some host.hostname
  hostname := host.hostname
  status := host.get "status"
  cells := [.percent (host.get "cpu"), .percent (host.get "memory"), .fixed2 (host.get "load1"),
    .uptime (host.get "uptime")]

/-- The detail items are computed one after the other, and the first error ends the function. -/
def detailItems (host : Value) : Except Failure (List (String × Cell)) := do
  let hostname ← property host "hostname"
  let status ← property host "status"
  let cpu ← property host "cpu"
  let memory ← property (← property host "memory") "usage_percent"
  let logicalCpus ← property host "logical_cpus"
  let uptime ← property host "uptime_seconds"
  let load1 ← property (← property host "load") "load1"
  let load5 ← property (← property host "load") "load5"
  let diskUsage ← property (← property host "disk") "usage_percent"
  let diskUsed ← property (← property host "disk") "used_bytes"
  let interface ← property (← property host "network") "interface"
  let networkRx ← property (← property host "network") "rx_bytes_per_second"
  let networkTx ← property (← property host "network") "tx_bytes_per_second"
  let processes ← lengthOf (← property host "processes")
  return [("Hostname", .text hostname), ("Status", .text status), ("CPU", .percent cpu),
    ("Memory", .percent memory), ("Logical CPUs", .text logicalCpus), ("Uptime", .uptime uptime),
    ("Load 1m", .fixed2 load1), ("Load 5m", .fixed2 load5), ("Disk Usage", .percent diskUsage),
    ("Disk Used", .bytes diskUsed), ("Interface", .text interface),
    ("Network RX", .bytesPerSecond networkRx), ("Network TX", .bytesPerSecond networkTx),
    ("Processes", .text processes)]

def processRow (process : Json) : Except Failure (List Cell) := do
  let pid ← property (some process) "pid"
  let name ← property (some process) "name"
  let cpu ← property (some process) "cpu"
  let memory ← property (some process) "memory"
  let rss ← property (some process) "rss_kb"
  return [.text pid, .text name, .percent cpu, .percent memory, .kilobytes rss]

/-- The loop over the processes needs an array, or it goes over the characters of a string. -/
def processRows : Value → Except Failure (List (List Cell))
  | some (.array processes) => processes.mapM processRow
  | some (.string text) =>
      (List.replicate (text.countP fun byte => byte < 128 ∨ 192 ≤ byte) (.string [])).mapM
        processRow
  | _ => .error .typeError

structure AlertItem where
  metric : Value
  state : Value
  hostname : Value
  current : Cell
  threshold : Cell
  message : Value


def alertItem (alert : Json) : Except Failure AlertItem := do
  let state ← property (some alert) "state"
  let metric ← property (some alert) "metric"
  let hostname ← property (some alert) "hostname"
  let current ← property (some alert) "current_value"
  let threshold ← property (some alert) "threshold"
  let message ← property (some alert) "message"
  return ⟨metric, state, hostname, .fixed2 current, .fixed2 threshold, message⟩

/-- In markup, a text without references and tags stands for itself. -/
def isPlainText (text : Bytes) : Bool := text.all fun byte => byte ∉ ([0, 13, 38, 60] : Bytes)

def isPlainValue : Value → Bool
  | some (.string text) => isPlainText text
  | some (.array _) => false
  | _ => true

/-- The page writes these values of an alert into its markup. -/
def isPlainAlert (alert : Json) : Bool :=
  match alertItem alert with
  | .ok item =>
      isPlainValue item.metric && isPlainValue item.state && isPlainValue item.hostname &&
        isPlainValue item.message
  | .error _ => true

structure ChartPoint where
  timestamp : Value
  cpu : Value
  memory : Value

def chartPoint (point : Json) : Except Failure ChartPoint := do
  let cpu ← property (some point) "cpu"
  let memory ← property (some point) "memory"
  let timestamp ← property (some point) "timestamp"
  return ⟨timestamp, cpu, memory⟩

inductive DetailPanel where
  | prompt
  | shown (items : List (String × Cell))
  | failed (failure : Failure)

/-- A failure may leave the title without the table. -/
inductive ProcessPanel where
  | empty
  | title
  | shown (rows : List (List Cell))

inductive AlertPanel where
  | loading
  | shown (items : List AlertItem)
  | failed (failure : Failure)

inductive ChartTitle where
  | prompt
  | current (hostname : Bytes) (count : Nat)
  | failed (failure : Failure)

inductive Call where
  | loadHosts
  | loadAlerts
  | loadHostDetail (hostname : Bytes)
  | loadHistory (hostname : Bytes)
  deriving DecidableEq

def Call.path : Call → Bytes
  | loadHosts => ascii "/api/hosts"
  | loadAlerts => ascii "/api/alerts"
  | loadHostDetail hostname => detailPath hostname
  | loadHistory hostname => historyPath hostname

/-- A call awaits its response, or it awaits the value of this body. -/
inductive Awaits where
  | fetch
  | json (body : Bytes)

/-- The page gives its calls numbers, which have no counterpart in the source. -/
structure Suspended where
  number : Nat
  call : Call
  awaits : Awaits

/-- The call of this number goes on to read a body. -/
def Suspended.answer (number : Nat) (body : Bytes) (suspended : Suspended) : Suspended :=
  if suspended.number = number then { suspended with awaits := .json body } else suspended

@[simp] theorem Suspended.answer_number (number : Nat) (body : Bytes) (suspended : Suspended) :
    (suspended.answer number body).number = suspended.number := by
  unfold answer
  split <;> rfl

@[simp] theorem Suspended.answer_call (number : Nat) (body : Bytes) (suspended : Suspended) :
    (suspended.answer number body).call = suspended.call := by
  unfold answer
  split <;> rfl

structure Page where
  selectedHostname : Option Bytes
  latestHistory : List Json
  errorMessage : Option Failure
  summary : Summary
  hosts : List HostEntry
  hostsTable : List HostRow
  alertCount : Nat
  alertsContainer : AlertPanel
  hostDetail : DetailPanel
  processContainer : ProcessPanel
  chartHostName : ChartTitle
  cpuCurrent : Option Cell
  memoryCurrent : Option Cell
  points : List ChartPoint
  calls : List Suspended
  count : Nat

namespace Page

/-- A function runs up to its first `await` at once. -/
def invoke (call : Call) (page : Page) : Page :=
  { page with
    calls := page.calls ++ [⟨page.count, call, .fetch⟩]
    count := page.count + 1 }

def loadHost (hostname : Bytes) (page : Page) : Page :=
  (page.invoke (.loadHostDetail hostname)).invoke (.loadHistory hostname)

def renderHosts (hosts : List HostEntry) (page : Page) : Page :=
  { page with
    hosts := hosts
    hostsTable := hosts.map (hostRow page.selectedHostname) }

def select (hostname : Bytes) (page : Page) : Page :=
  ({ page with selectedHostname := some hostname }).renderHosts page.hosts

/-- The rows keep the hosts for the clicks that follow. -/
def click (row : Nat) (page : Page) : Option Page :=
  (page.hosts[row]?).map fun host => (page.select host.hostname).loadHost host.hostname

/-- No name and the empty name are false in a condition. -/
def selected (page : Page) : Option Bytes :=
  page.selectedHostname.filter fun hostname => hostname ≠ []

def listHosts (hosts : List HostEntry) (page : Page) : Page :=
  ({ page with errorMessage := none, summary := renderSummary hosts }).renderHosts hosts

/-- The first host is selected when none was. -/
def selectFirst (hosts : List HostEntry) (page : Page) : Page :=
  match page.selected, hosts with
  | none, host :: _ => { page with selectedHostname := some host.hostname }
  | _, _ => page

def loadSelected (page : Page) : Page :=
  match page.selected with
  | none => page
  | some hostname => page.loadHost hostname

def showHosts (hosts : List HostEntry) (page : Page) : Page :=
  ((page.listHosts hosts).selectFirst hosts).loadSelected

def showAlerts (alerts : List Json) (page : Page) : Page :=
  { page with
    alertCount := alerts.length
    alertsContainer :=
      match alerts.mapM alertItem with
      | .error failure => .failed failure
      | .ok items => .shown items }

/-- The detail stays behind a process list that cannot be shown. -/
def showDetail (host : Value) (page : Page) : Page :=
  match detailItems host with
  | .error failure => { page with hostDetail := .failed failure }
  | .ok items =>
      match (property host "processes").bind processRows with
      | .error failure => { page with hostDetail := .failed failure, processContainer := .title }
      | .ok rows => { page with hostDetail := .shown items, processContainer := .shown rows }

/-- Both charts are drawn from the points, and the last point is the current one. -/
def renderCharts (page : Page) : Except Failure Page := do
  let points ← page.latestHistory.mapM chartPoint
  return { page with
    cpuCurrent := points.getLast?.map fun point => .percent point.cpu
    memoryCurrent := points.getLast?.map fun point => .percent point.memory
    points := points }

/-- The charts of no points are drawn without fail. -/
def dropHistory (failure : Failure) (page : Page) : Page :=
  { page with
    latestHistory := []
    chartHostName := .failed failure
    cpuCurrent := none
    memoryCurrent := none
    points := [] }

def showHistory (hostname : Bytes) (history : Json) (page : Page) : Page :=
  match history with
  | .array points =>
      match ({ page with
          latestHistory := points
          chartHostName := .current hostname points.length }).renderCharts with
      | .error failure => page.dropHistory failure
      | .ok page => page
  | _ => page.dropHistory .typeError

/-- Each function has its own handler of errors. -/
def fail (failure : Failure) (page : Page) : Call → Page
  | .loadHosts => { page with errorMessage := some failure }
  | .loadAlerts => { page with alertsContainer := .failed failure }
  | .loadHostDetail _ => { page with hostDetail := .failed failure }
  | .loadHistory _ => page.dropHistory failure

/-- A list of hosts or alerts that is no array is not modelled, nor is a host without a name, nor
are alerts whose markup could change the page at will. -/
def finish (value : Json) (page : Page) : Call → Option Page
  | .loadHosts =>
      match value with
      | .array values => (values.mapM hostEntry).map page.showHosts
      | _ => none
  | .loadAlerts =>
      match value with
      | .array values =>
          if values.all isPlainAlert then some (page.showAlerts values) else none
      | _ => none
  | .loadHostDetail _ => some (page.showDetail (some value))
  | .loadHistory hostname => some (page.showHistory hostname value)

end Page

/-- The timers, the user and the network take turns. -/
inductive Event where
  | refreshHosts
  | refreshAlerts
  | click (row : Nat)
  | resize
  | responded (number : Nat) (status : Nat) (body : Bytes)
  | read (number : Nat)
  | rejected (number : Nat)

namespace Page

def suspended? (number : Nat) (page : Page) : Option Suspended :=
  page.calls.find? fun suspended => suspended.number = number

def without (number : Nat) (page : Page) : Page :=
  { page with calls := page.calls.filter fun suspended => suspended.number ≠ number }

/-- The browser repairs a body that is no UTF-8, which is not modelled. -/
def isUtf8 (body : Bytes) : Bool := (ByteArray.mk body.toArray).validateUTF8

/-- A response that is no success throws. -/
def respond (suspended : Suspended) (status : Nat) (body : Bytes) (page : Page) : Page :=
  if 200 ≤ status ∧ status ≤ 299 then
    { page with calls := page.calls.map (Suspended.answer suspended.number body) }
  else (page.without suspended.number).fail (.http status) suspended.call

def read (suspended : Suspended) (body : Bytes) (page : Page) : Option Page :=
  match Json.parse body with
  | none => some ((page.without suspended.number).fail .syntaxError suspended.call)
  | some value => (page.without suspended.number).finish value suspended.call

def step (page : Page) : Event → Option Page
  | .refreshHosts => some (page.invoke .loadHosts)
  | .refreshAlerts => some (page.invoke .loadAlerts)
  | .click row => page.click row
  | .resize => some (page.renderCharts.toOption.getD page)
  | .responded number status body =>
      (page.suspended? number).bind fun suspended =>
        match suspended.awaits with
        | .fetch => if isUtf8 body then some (page.respond suspended status body) else none
        | .json _ => none
  | .read number =>
      (page.suspended? number).bind fun suspended =>
        match suspended.awaits with
        | .fetch => none
        | .json body => page.read suspended body
  | .rejected number =>
      (page.suspended? number).map fun suspended =>
        (page.without number).fail .rejected suspended.call

/-- The script ends with the first calls. -/
def opened : Page :=
  let page : Page :=
    { selectedHostname := none
      latestHistory := []
      errorMessage := none
      summary := ⟨0, 0, 0, 0⟩
      hosts := []
      hostsTable := []
      alertCount := 0
      alertsContainer := .loading
      hostDetail := .prompt
      processContainer := .empty
      chartHostName := .prompt
      cpuCurrent := none
      memoryCurrent := none
      points := []
      calls := []
      count := 0 }
  (page.invoke .loadHosts).invoke .loadAlerts

end Page

end LMonitor.Dashboard
