import LMonitor.Http.HostRoutes

namespace LMonitor.HttpServer
open Library
variable {D : Type} [Double D] [DoubleStream D]

/-- No route is answered with a refusal. -/
theorem respond_ne_badRequest (s : HttpServer D) (target : Route) :
    s.respond target ≠ HttpResponse.badRequest := by
  cases target with
  | dashboard => exact HttpResponse.okHtml_ne_badRequest _
  | alerts => exact HttpResponse.okJson_ne_badRequest _
  | hosts => exact HttpResponse.okJson_ne_badRequest _
  | history hostname => exact HttpResponse.okJson_ne_badRequest _
  | detail hostname => exact HttpResponse.okJson_ne_badRequest _
  | notFound => exact HttpResponse.notFound_ne_badRequest

omit [DoubleStream D] [Double D] in
/-- The first line of a request decides its path as soon as it has arrived. -/
theorem requestPath_extended {first : Bytes} {lineEnd : Nat}
    (bounded : first.length ≤ bufferSize - 1) (found : find (ascii "\r\n") first = some lineEnd)
    (more : Bytes) : requestPath (first ++ more) = requestPath first := by
  obtain ⟨before, after, whole, position⟩ := find_split found
  have inside : lineEnd ≤ first.length := by
    rw [whole, List.length_append, position]
    exact Nat.le_add_right _ _
  have received : (first ++ more).take (bufferSize - 1) =
      first ++ more.take (bufferSize - 1 - first.length) := by
    rw [List.take_append, List.take_of_length_le bounded]
  have extended := find_extended (more.take (bufferSize - 1 - first.length)) found
  simp only [requestPath, received, extended, List.take_of_length_le bounded, found,
    List.take_append_of_le_length inside]

/-- The socket hands out a request in pieces that fit into the buffer. -/
structure Delivery where
  first : Bytes
  others : List Bytes
  nonempty : ∀ piece ∈ first :: others, piece ≠ []
  bounded : ∀ piece ∈ first :: others, piece.length ≤ bufferSize - 1

def Delivery.pieces (delivery : Delivery) : List Bytes := delivery.first :: delivery.others

def Delivery.request (delivery : Delivery) : Bytes := delivery.pieces.flatten

/-- The handler calls `recv` once and answers from its result. -/
def handlePieces (pieces : List Bytes) (s : HttpServer D) : Option Bytes :=
  match pieces with
  | [] => none
  | received :: _ => handleClient received s

/-- A delivery is answered like the whole request exactly if its first piece contains the line end,
or if no delivery of the request is answered by a document. -/
theorem handlePieces_eq_iff (delivery : Delivery) (s : HttpServer D) :
    handlePieces delivery.pieces s = handleClient delivery.request s ↔
      find (ascii "\r\n") delivery.first ≠ none ∨ requestPath delivery.request = none := by
  have nonempty : delivery.first ≠ [] := delivery.nonempty _ List.mem_cons_self
  have bounded : delivery.first.length ≤ bufferSize - 1 := delivery.bounded _ List.mem_cons_self
  have request : delivery.request = delivery.first ++ delivery.others.flatten := rfl
  have wholeNonempty : delivery.request ≠ [] := by
    rw [request]
    exact List.append_ne_nil_of_left_ne_nil nonempty _
  have answered : handlePieces delivery.pieces s =
      some (s.answer (requestPath delivery.first)) := handleClient_eq nonempty s
  rw [answered, handleClient_eq wholeNonempty, Option.some.injEq]
  cases lineEnd : find (ascii "\r\n") delivery.first with
  | some position =>
      rw [request, requestPath_extended bounded lineEnd]
      simp
  | none =>
      have refused : requestPath delivery.first = none := by
        simp only [requestPath, List.take_of_length_le bounded, lineEnd]
      rw [refused]
      cases asked : requestPath delivery.request with
      | none => simp
      | some path =>
          simp only [ne_eq, not_true_eq_false, false_or, reduceCtorEq, iff_false]
          exact (respond_ne_badRequest s (route path)).symm

/-- The dashboard is refused if its request line arrives in two pieces. -/
theorem split_request_refused :
    ∃ delivery : Delivery, delivery.pieces = [ascii "GET / HT", ascii "TP/1.1\r\n\r\n"] ∧
      ∀ s : HttpServer Int,
        handlePieces delivery.pieces s = some HttpResponse.badRequest ∧
        handleClient delivery.request s = some (HttpResponse.okHtml s.dashboardHtml) ∧
        handlePieces delivery.pieces s ≠ handleClient delivery.request s := by
  refine ⟨⟨ascii "GET / HT", [ascii "TP/1.1\r\n\r\n"], by decide, by decide⟩, rfl, ?_⟩
  intro s
  have silent : requestPath (ascii "GET / HT") = none := by decide
  have refused : handlePieces [ascii "GET / HT", ascii "TP/1.1\r\n\r\n"] s =
      some HttpResponse.badRequest := by
    rw [handlePieces, handleClient_eq (by decide), silent, answer]
  have asked : requestPath (ascii "GET / HTTP/1.1\r\n\r\n") = some (ascii "/") := by decide
  have served : handleClient (ascii "GET / HTTP/1.1\r\n\r\n") s =
      some (HttpResponse.okHtml s.dashboardHtml) := by
    rw [handleClient_eq (by decide), asked]
    rfl
  refine ⟨refused, served, ?_⟩
  intro same
  have equal := refused.symm.trans (same.trans served)
  exact HttpResponse.okHtml_ne_badRequest _ (Option.some.inj equal).symm

end LMonitor.HttpServer
