import LMonitor.Http.HostRoutes
import LMonitor.Library.HttpMessage
import LMonitor.Library.Machine
import LMonitor.Network.TcpClient

namespace LMonitor.HttpServer
open Library HttpMessage
open TcpClient (SendResult)

/-- The loop of `sendAll` stands before its next `send` call, or the function has returned. -/
inductive Sending where
  | sending (sent : Nat)
  | returned (sent : Nat) (complete : Bool)
  deriving DecidableEq

def Sending.sent : Sending → Nat
  | .sending sent => sent
  | .returned sent _ => sent

def loopHead (data : Bytes) (sent : Nat) : Sending :=
  if sent < data.length then .sending sent else .returned sent true

/-- One pass of the loop reacts to the result of its `send` call. -/
def sendPass (data : Bytes) (state : Sending) (result : SendResult) : Option Sending :=
  match state with
  | .returned _ _ => none
  | .sending sent =>
      if result.Possible (data.length - sent) then
        match result with
        | .sent count => some (loopHead data (sent + count))
        | .interrupted => some (.sending sent)
        | .zero | .failed _ => some (.returned sent false)
      else none

/-- The function returns true exactly behind the last byte. -/
def Counted (data : Bytes) : Sending → Prop
  | .sending sent => sent < data.length
  | .returned sent complete => sent ≤ data.length ∧ (complete = true ↔ sent = data.length)

theorem counted_loopHead {data : Bytes} {sent : Nat} (inside : sent ≤ data.length) :
    Counted data (loopHead data sent) := by
  unfold loopHead
  split
  · rename_i more
    exact more
  · rename_i last
    exact ⟨inside, fun _ => by omega, fun _ => rfl⟩

/-- Every pass counts the bytes that it sent. -/
theorem counted_sendPass (data : Bytes) (state : Sending) (result : SendResult) (next : Sending)
    (taken : sendPass data state result = some next) (known : Counted data state) :
    Counted data next := by
  cases state with
  | returned sent complete => cases taken
  | sending sent =>
      have more : sent < data.length := known
      simp only [sendPass, Option.ite_none_right_eq_some] at taken
      obtain ⟨possible, taken⟩ := taken
      cases result with
      | sent count =>
          obtain rfl := Option.some.inj taken
          have most : count ≤ data.length - sent := possible.2
          exact counted_loopHead (by omega)
      | interrupted =>
          obtain rfl := Option.some.inj taken
          exact more
      | zero | failed =>
          obtain rfl := Option.some.inj taken
          have unequal : sent ≠ data.length := by omega
          exact ⟨Nat.le_of_lt more, by simp [unequal]⟩

/-- A client should read this document from a response. -/
structure Document where
  statusCode : Nat
  statusText : Bytes
  contentType : Bytes
  body : Bytes

theorem writtenField_jsonType : WrittenField (ascii "Content-Type", HttpResponse.jsonType) :=
  writtenField_of_clean (by decide)

theorem writtenField_html :
    WrittenField (ascii "Content-Type", ascii "text/html; charset=utf-8") :=
  writtenField_of_clean (by decide)

theorem writtenField_length (length : Nat) :
    WrittenField (ascii "Content-Length", decimal length) := by
  have visible : ∀ byte ∈ decimal length, isBlank byte = false := by
    intro byte member
    have ordinary := (isDigit_ordinary (decimal_isDigit _ byte member)).1
    simp only [isSpace, isBlank, decide_eq_false_iff_not, not_or, not_and] at ordinary ⊢
    exact ⟨ordinary.1, fun tab => ordinary.2 (tab ▸ UInt8.le_refl 9) (tab ▸ by decide)⟩
  have name : 58 ∉ ascii "Content-Length" ∧ OneLine (ascii "Content-Length") := by decide
  refine ⟨name.1, name.2, oneLine_decimal _, ?_, ?_⟩
  · exact fun byte member => visible byte (List.mem_of_mem_head? member)
  · exact fun byte member => visible byte (List.mem_of_getLast? member)

namespace Document

def message (document : Document) : HttpMessage where
  status := document.statusCode
  reason := document.statusText
  fields := [(ascii "Content-Type", document.contentType),
    (ascii "Content-Length", decimal document.body.length), (ascii "Connection", ascii "close"),
    (ascii "Cache-Control", ascii "no-cache")]
  body := document.body

/-- The texts of the document can stand in a header. -/
structure Clean (document : Document) : Prop where
  statusText : OneLine document.statusText
  contentType : WrittenField (ascii "Content-Type", document.contentType)

/-- The response of a document is the text of its message. -/
theorem build_eq (document : Document) :
    HttpResponse.build document.statusCode document.statusText document.contentType document.body =
      document.message.text := by
  simp only [HttpResponse.build, HttpMessage.text, headLines, statusLine, fieldLine, message,
    ended, List.flatten_cons, List.flatten_nil, List.map_cons, List.map_nil, List.flatMap_cons,
    List.flatMap_nil, List.append_assoc, List.append_nil, List.cons_append, List.nil_append]
  rfl

theorem written {document : Document} (clean : document.Clean) : Written document.message where
  reason := clean.statusText
  fields := by
    have connection : WrittenField (ascii "Connection", ascii "close") :=
      writtenField_of_clean (by decide)
    have cache : WrittenField (ascii "Cache-Control", ascii "no-cache") :=
      writtenField_of_clean (by decide)
    simp only [message, List.forall_mem_cons]
    exact ⟨clean.contentType, writtenField_length _, connection, cache,
      fun _ none => absurd none List.not_mem_nil⟩
  announced := by
    have other : ¬ (ascii "Content-Type").map lowerByte = ascii "content-length" := by decide
    have same : (ascii "Content-Length").map lowerByte = ascii "content-length" := by decide
    simp only [announced, message, List.find?_cons, other, same, decide_true, decide_false,
      Option.bind_some, readNumber_decimal]

end Document

variable {D : Type} [Double D] [DoubleStream D]

def jsonDocument (body : Bytes) : Document := ⟨200, ascii "OK", HttpResponse.jsonType, body⟩

/-- The documents behind the routes of the server. -/
def routeDocument (s : HttpServer D) : Route → Document
  | .dashboard => ⟨200, ascii "OK", ascii "text/html; charset=utf-8", s.dashboardHtml⟩
  | .alerts => jsonDocument (buildAlertsJson s.alertManager)
  | .hosts => jsonDocument (buildHostsJson s.store)
  | .history hostname => jsonDocument (buildHostHistoryJson hostname s.historyStore)
  | .detail hostname => jsonDocument (buildHostDetailJson hostname s.store)
  | .notFound =>
      ⟨404, ascii "Not Found", HttpResponse.jsonType, ascii "\x7b\"error\":\"not found\"\x7d"⟩

/-- A request without a path is a bad one. -/
def document (s : HttpServer D) : Option Bytes → Document
  | none => ⟨400, ascii "Bad Request", HttpResponse.jsonType,
      ascii "\x7b\"error\":\"bad request\"\x7d"⟩
  | some path => s.routeDocument (route path)

/-- The answer is the text of the message of the document. -/
theorem answer_eq (s : HttpServer D) (path : Option Bytes) :
    s.answer path = (s.document path).message.text := by
  rw [← Document.build_eq]
  cases path with
  | none => rfl
  | some path =>
      rw [answer, document]
      cases route path <;> rfl

/-- A document with a clean status is clean. -/
theorem clean_json (statusCode : Nat) {statusText : Bytes} (clean : OneLine statusText)
    (body : Bytes) : (Document.mk statusCode statusText HttpResponse.jsonType body).Clean :=
  ⟨clean, writtenField_jsonType⟩

/-- Every document of the server is clean. -/
theorem clean_document (s : HttpServer D) (path : Option Bytes) : (s.document path).Clean := by
  cases path with
  | none => exact clean_json 400 (by decide) _
  | some path =>
      rw [document]
      cases route path with
      | dashboard => exact ⟨show OneLine (ascii "OK") by decide, writtenField_html⟩
      | notFound => exact clean_json 404 (by decide) _
      | alerts | hosts | history | detail => exact clean_json 200 (by decide) _

/-- A client sends a request, the server sends its answer with some results of `send`, and the
client receives a first part of the bytes that were sent. -/
structure Exchange (D : Type) [Double D] [DoubleStream D] where
  server : HttpServer D
  request : Bytes
  answer : Bytes
  answered : handleClient request server = some answer
  results : List SendResult
  final : Sending
  reached : run (sendPass answer) (loopHead answer 0) results = some final
  received : Bytes
  delivered : received <+: answer.take final.sent

namespace Exchange

/-- The server should answer with this document. -/
def document (e : Exchange D) : Document := e.server.document (requestPath e.request)

theorem answer_text (e : Exchange D) : e.answer = e.document.message.text := by
  have nonempty : e.request ≠ [] := by
    intro empty
    have answered := e.answered
    rw [empty] at answered
    cases answered
  have answered := e.answered
  rw [handleClient_eq nonempty, Option.some.injEq] at answered
  rw [← answered, answer_eq]
  rfl

/-- The send loop counted what the client received. -/
theorem counted (e : Exchange D) : Counted e.answer e.final :=
  run_invariant (sendPass e.answer) (Counted e.answer) (counted_sendPass e.answer) e.reached
    (counted_loopHead (Nat.zero_le _))

/-- The message of an exchange can be read. -/
theorem written (e : Exchange D) : Written e.document.message :=
  Document.written (clean_document e.server (requestPath e.request))

/-- A complete answer is read as its message. -/
theorem read_whole (e : Exchange D) (whole : e.received = e.answer) :
    decoder.verdict e.received = .item e.document.message [] := by
  have read := verdict_text e.written []
  rw [List.append_nil] at read
  rw [whole, e.answer_text, read]

/-- A part of the answer is no message yet. -/
theorem read_part (e : Exchange D) (part : e.received ≠ e.answer) :
    decoder.verdict e.received = .wait := by
  have front : e.received <+: e.answer := e.delivered.trans (List.take_prefix _ _)
  rw [e.answer_text] at front part
  exact verdict_part e.written front part

/-- The whole answer arrives only after `sendAll` returned true. -/
theorem returned_true (e : Exchange D) (whole : e.received = e.answer) :
    e.final = .returned e.answer.length true := by
  have counted := e.counted
  have arrived := e.delivered.length_le
  rw [whole, List.length_take] at arrived
  cases final : e.final with
  | sending sent =>
      rw [final] at counted arrived
      have more : sent < e.answer.length := counted
      simp only [Sending.sent] at arrived
      omega
  | returned sent complete =>
      rw [final] at counted arrived
      simp only [Sending.sent] at arrived
      obtain rfl : sent = e.answer.length := Nat.le_antisymm counted.1 (by omega)
      rw [counted.2.mpr rfl]

end Exchange

/-- A client reads exactly the document of its request when all bytes of the answer arrived, and
`sendAll` has then returned true. Otherwise it waits for the rest of a response that broke off, and
`sendAll` has not returned true if all sent bytes arrived. -/
theorem exchange_read (e : Exchange D) :
    (decoder.verdict e.received = .item e.document.message [] ∧ e.received = e.answer ∧
        e.final = .returned e.answer.length true) ∨
      (decoder.verdict e.received = .wait ∧ e.received ≠ e.answer ∧
        (e.received = e.answer.take e.final.sent → ∀ sent, e.final ≠ .returned sent true)) := by
  by_cases whole : e.received = e.answer
  · exact .inl ⟨e.read_whole whole, whole, e.returned_true whole⟩
  · refine .inr ⟨e.read_part whole, whole, ?_⟩
    intro all sent final
    have counted := e.counted
    rw [final] at counted all
    apply whole
    rw [all, Sending.sent, counted.2.mp rfl, List.take_length]

end LMonitor.HttpServer
