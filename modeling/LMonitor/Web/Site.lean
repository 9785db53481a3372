import LMonitor.Http.Exchange
import LMonitor.Web.PageEvents
import LMonitor.Web.RequestTarget
import LMonitor.Web.ServerDocuments

namespace LMonitor
open Library Dashboard
variable {D : Type} [DoubleText D] [DoubleStream D]

/-- One browser has the page open while the workers of the server ingest messages. The past of the
server has no counterpart in the source. -/
structure Site (D : Type) [Double D] (threadCount : Nat) where
  server : Ingest D threadCount
  past : List (Ingest D threadCount)
  page : Page
  answers : Nat → Option HttpServer.Document

namespace Site
variable {threadCount : Nat}

/-- A step of the server, the answer to the request of a call, or an event of the page. -/
inductive Action (threadCount : Nat) where
  | ingest (action : Ingest.Action threadCount)
  | answer (number : Nat) (headers : Bytes) (received : Bytes)
  | page (event : Dashboard.Event)

def httpServer (dashboardHtml : Bytes) (stores : Stores D) : HttpServer D :=
  ⟨stores.metricsStore, stores.historyStore, stores.alertManager, dashboardHtml⟩

/-- The browser hands out the response that the server gave to the call. -/
def Delivers (s : Site D threadCount) : Dashboard.Event → Prop
  | .responded number status body =>
      ((s.answers number).map fun document => (document.statusCode, document.body)) =
        some (status, body)
  | _ => True

instance (s : Site D threadCount) (event : Dashboard.Event) : Decidable (s.Delivers event) := by
  unfold Delivers
  split <;> infer_instance

/-- The handler answers from the first bytes of the request that it receives. -/
def step (dashboardHtml : Bytes) (s : Site D threadCount) :
    Action threadCount → Option (Site D threadCount)
  | .ingest action =>
      (Ingest.step s.server action).map fun server =>
        { s with server := server, past := s.past ++ [server] }
  | .answer number headers received =>
      (s.page.suspended? number).bind fun suspended =>
        if received ≠ [] ∧ received <+: request (target suspended.call.path) headers ∧
            s.answers number = none then
          some { s with
            answers := Function.update s.answers number
              (some ((httpServer dashboardHtml s.server.stores).document
                (HttpServer.requestPath received))) }
        else none
  | .page event =>
      if s.Delivers event then (s.page.step event).map fun page => { s with page := page }
      else none

def start (server : Ingest D threadCount) : Site D threadCount where
  server := server
  past := [server]
  page := Page.opened
  answers := fun _ => none

end Site

/-- The server started with empty stores and finite thresholds, and the page was opened. -/
structure SiteRun (D : Type) [DoubleText D] [DoubleStream D] where
  threadCount : Nat
  maxQueueSize : Nat
  maxPointsPerHost : Nat
  fireDuration : Int
  cpuThreshold : D
  memoryThreshold : D
  cpuFinite : Double.isFinite cpuThreshold = true
  memoryFinite : Double.isFinite memoryThreshold = true
  incoming : List Bytes
  dashboardHtml : Bytes
  trace : List (Site.Action threadCount)
  final : Site D threadCount
  reached : run (Site.step dashboardHtml) (Site.start (Ingest.start threadCount maxQueueSize
    (Stores.construct maxPointsPerHost fireDuration cpuThreshold memoryThreshold) incoming)) trace =
      some final

namespace Site

/-- What the server receives of a request has no path yet, or it has the path of the request. -/
theorem requestPath_request {path headers received : Bytes} (plain : HttpServer.PlainPath path)
    (front : received <+: request path headers) :
    HttpServer.requestPath received = none ∨ HttpServer.requestPath received = some path := by
  cases asked : HttpServer.requestPath received with
  | none => exact .inl rfl
  | some word =>
      obtain ⟨lineEnd, found, method, target⟩ := HttpServer.requestPath_cases asked
      obtain ⟨more, whole⟩ := (List.take_prefix (HttpServer.bufferSize - 1) received).trans front
      have extended := find_extended more found
      have first := find_first 13 [10] (HttpServer.requestLine path) headers
        (HttpServer.not_mem_requestLine
          (fun member => absurd (plain.2 13 member) (by decide)) (by decide))
      have line : request path headers = HttpServer.requestLine path ++ ([13, 10] ++ headers) := by
        simp [request, HttpServer.requestLine, ascii]
      rw [whole, line] at extended
      obtain rfl := Option.some.inj (first.symm.trans extended)
      have taken : (received.take (HttpServer.bufferSize - 1)).take
          (HttpServer.requestLine path).length = HttpServer.requestLine path := by
        obtain ⟨before, after, split, length⟩ := find_split found
        have same : HttpServer.requestLine path ++ ([13, 10] ++ headers) =
            before ++ (ascii "\r\n" ++ after ++ more) := by
          rw [← line, ← whole, split]
          simp
        rw [split, List.take_append_of_le_length (by omega), List.take_of_length_le (by omega)]
        exact (List.append_inj same length.symm).1.symm
      rw [taken, (HttpServer.readWord_requestLine plain).1] at target
      dsimp only at target
      rw [(HttpServer.readWord_requestLine plain).2] at target
      rw [← target]
      exact .inr rfl

end Site
end LMonitor
