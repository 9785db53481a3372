import LMonitor.Http.HttpResponse
import LMonitor.Http.HttpServer
import LMonitor.Library.Find

namespace LMonitor
open Library
variable {D : Type} [Double D]

/-- The server answers from the shared stores and from the text of its dashboard. -/
structure HttpServer (D : Type) [Double D] where
  store : MetricsStore D
  historyStore : MetricsHistoryStore D
  alertManager : AlertManager D
  dashboardHtml : Bytes

namespace HttpServer

/-- The buffer keeps one byte free. -/
def bufferSize : Nat := 8192

/-- A formatted read skips blanks and takes the bytes up to the next blank. -/
def readWord (text : Bytes) : Bytes × Bytes :=
  let text := text.dropWhile isSpace
  (text.takeWhile fun byte => !isSpace byte, text.dropWhile fun byte => !isSpace byte)

/-- Each request path asks for one document. -/
inductive Route where
  | dashboard
  | alerts
  | hosts
  | history (hostname : Bytes)
  | detail (hostname : Bytes)
  | notFound
  deriving DecidableEq

/-- The difference of two positions wraps around modulo 2^64. -/
def substrLength (start stop : Nat) : Nat :=
  (stop + 18446744073709551616 - start) % 18446744073709551616

def route (path : Bytes) : Route :=
  if path = ascii "/" ∨ path = ascii "/index.html" then .dashboard
  else if path = ascii "/api/alerts" then .alerts
  else if path = ascii "/api/hosts" then .hosts
  else if (ascii "/api/hosts/").isPrefixOf path then
    match find (ascii "/history") path with
    | some stop =>
        let start := (ascii "/api/hosts/").length
        .history ((path.drop start).take (substrLength start stop))
    | none => .detail (path.drop (ascii "/api/hosts/").length)
  else .notFound

variable [DoubleStream D]

def respond (s : HttpServer D) : Route → Bytes
  | .dashboard => HttpResponse.okHtml s.dashboardHtml
  | .alerts => HttpResponse.okJson (buildAlertsJson s.alertManager)
  | .hosts => HttpResponse.okJson (buildHostsJson s.store)
  | .history hostname => HttpResponse.okJson (buildHostHistoryJson hostname s.historyStore)
  | .detail hostname => HttpResponse.okJson (buildHostDetailJson hostname s.store)
  | .notFound => HttpResponse.notFound

/-- One `recv` call reads what fits into the buffer, and only the request line counts. -/
def handleClient (sent : Bytes) (s : HttpServer D) : Option Bytes :=
  let request := sent.take (bufferSize - 1)
  if request = [] then none
  else
    match find (ascii "\r\n") request with
    | none => some HttpResponse.badRequest
    | some lineEnd =>
        let stream := request.take lineEnd
        let (method, stream) := readWord stream
        let (path, _) := readWord stream
        if method ≠ ascii "GET" then some HttpResponse.badRequest else some (s.respond (route path))

end HttpServer
end LMonitor
