import LMonitor.Library.Decimal
import LMonitor.Library.Split

namespace LMonitor.HttpResponse
open Library

def build (statusCode : Nat) (statusText contentType body : Bytes) : Bytes :=
  [ascii "HTTP/1.1 ", decimal statusCode, ascii " ", statusText, ascii "\r\n",
    ascii "Content-Type: ", contentType, ascii "\r\n",
    ascii "Content-Length: ", decimal body.length, ascii "\r\n",
    ascii "Connection: close\r\n", ascii "Cache-Control: no-cache\r\n", ascii "\r\n",
    body].flatten

def jsonType : Bytes := ascii "application/json; charset=utf-8"

def okJson (body : Bytes) : Bytes := build 200 (ascii "OK") jsonType body

def okHtml (body : Bytes) : Bytes := build 200 (ascii "OK") (ascii "text/html; charset=utf-8") body

def notFound : Bytes :=
  build 404 (ascii "Not Found") jsonType (ascii "\x7b\"error\":\"not found\"\x7d")

def badRequest : Bytes :=
  build 400 (ascii "Bad Request") jsonType (ascii "\x7b\"error\":\"bad request\"\x7d")

/-- The announced length ends before the body, which a JSON response therefore determines. -/
theorem okJson_inj {first second : Bytes} (same : okJson first = okJson second) :
    first = second := by
  have clean (value : Nat) : 13 ∉ decimal value := by
    intro member
    have digits := isDigit_ordinary (decimal_isDigit value 13 member)
    exact digits.2.2.2.2.2 rfl
  have lineEnd : ascii "\r\n" = [13, 10] := rfl
  have shape (body : Bytes) : okJson body =
      [ascii "HTTP/1.1 ", decimal 200, ascii " ", ascii "OK", ascii "\r\n",
        ascii "Content-Type: ", jsonType, ascii "\r\n", ascii "Content-Length: "].flatten ++
      (decimal body.length ++ 13 :: (10 ::
        ([ascii "Connection: close\r\n", ascii "Cache-Control: no-cache\r\n",
          ascii "\r\n"].flatten ++ body))) := by
    simp only [okJson, build, List.flatten_cons, List.flatten_nil, List.append_nil,
      List.append_assoc, lineEnd, List.cons_append, List.nil_append]
  rw [shape, shape] at same
  have rest := (cut_unique (clean _) (clean _) (List.append_cancel_left same)).2
  exact List.append_cancel_left (List.cons.inj rest).2

/-- The status line of a good answer differs from the one of a refusal. -/
theorem ok_ne_badRequest (contentType body : Bytes) :
    build 200 (ascii "OK") contentType body ≠ badRequest := by
  intro same
  have accepted : (build 200 (ascii "OK") contentType body)[9]? = some 50 := rfl
  have rejected : badRequest[9]? = some 52 := rfl
  rw [same, rejected] at accepted
  cases accepted

theorem okJson_ne_badRequest (body : Bytes) : okJson body ≠ badRequest :=
  ok_ne_badRequest jsonType body

theorem okHtml_ne_badRequest (body : Bytes) : okHtml body ≠ badRequest :=
  ok_ne_badRequest _ body

theorem notFound_ne_badRequest : notFound ≠ badRequest := by
  intro same
  have missing : notFound[11]? = some 52 := rfl
  have rejected : badRequest[11]? = some 48 := rfl
  rw [same, rejected] at missing
  cases missing

end LMonitor.HttpResponse
