import LMonitor.Http.RequestRouting
import LMonitor.Server.IngestTask
import LMonitor.Server.SampleOrder

namespace LMonitor

namespace Dashboard

/-- The web page keeps these bytes of a host name in its request paths. -/
def isUnreserved (byte : UInt8) : Bool :=
  isDigit byte ∨ (65 ≤ byte ∧ byte ≤ 90) ∨ (97 ≤ byte ∧ byte ≤ 122) ∨
    byte ∈ ascii "-_.!~*'()"

def hexDigit (value : Nat) : UInt8 := (if value < 10 then 48 + value else 55 + value).toUInt8

def encodeByte (byte : UInt8) : Bytes :=
  if isUnreserved byte then [byte]
  else [37, hexDigit (byte.toNat / 16), hexDigit (byte.toNat % 16)]

/-- The page escapes every other byte with a percent sign and two digits. -/
def encodeURIComponent (text : Bytes) : Bytes := text.flatMap encodeByte

def detailPath (hostname : Bytes) : Bytes := ascii "/api/hosts/" ++ encodeURIComponent hostname

def historyPath (hostname : Bytes) : Bytes :=
  ascii "/api/hosts/" ++ encodeURIComponent hostname ++ ascii "/history"

/-- A browser sends the request line first and then the headers. -/
def request (path headers : Bytes) : Bytes :=
  ascii "GET " ++ path ++ ascii " HTTP/1.1" ++ ascii "\r\n" ++ headers

/-- The bytes of an encoded name are no blanks and no slashes. -/
def isPathByte (byte : UInt8) : Bool := isUnreserved byte ∨ byte = 37

/-- A byte of an encoded name is no space and no slash. -/
theorem isPathByte_ordinary {byte : UInt8} (known : isPathByte byte = true) :
    isSpace byte = false ∧ byte ≠ 47 := by
  simp only [isPathByte, isUnreserved, isDigit, isSpace, decide_eq_true_eq,
    decide_eq_false_iff_not, ne_eq, UInt8.le_iff_toNat_le, ← UInt8.toNat_inj,
    show ascii "-_.!~*'()" = [45, 95, 46, 33, 126, 42, 39, 40, 41] from rfl, List.mem_cons,
    List.not_mem_nil, or_false] at known ⊢
  simp only [UInt8.reduceToNat] at known ⊢
  omega

theorem hexDigit_isPathByte {value : Nat} (small : value < 16) :
    isPathByte (hexDigit value) = true := by
  have all : ∀ value < 16, isPathByte (hexDigit value) = true := by decide
  exact all value small

theorem encode_isPathByte (text : Bytes) :
    ∀ byte ∈ encodeURIComponent text, isPathByte byte = true := by
  intro byte member
  obtain ⟨source, _, piece⟩ := List.mem_flatMap.mp member
  have bound := source.toNat_lt
  unfold encodeByte at piece
  split at piece
  · rename_i unreserved
    rw [List.mem_singleton.mp piece]
    simp [isPathByte, unreserved]
  · simp only [List.mem_cons, List.not_mem_nil, or_false] at piece
    obtain rfl | rfl | rfl := piece
    · rfl
    · exact hexDigit_isPathByte (by omega)
    · exact hexDigit_isPathByte (by omega)

/-- An encoded name is not shorter. -/
theorem length_le_encode (text : Bytes) : text.length ≤ (encodeURIComponent text).length := by
  induction text with
  | nil => exact Nat.le_refl _
  | cons byte text ih =>
      have positive : 1 ≤ (encodeByte byte).length := by
        unfold encodeByte
        split <;> simp
      simp only [encodeURIComponent, List.flatMap_cons, List.length_append, List.length_cons]
        at ih ⊢
      omega

/-- The encoding keeps exactly the texts of unreserved bytes. -/
theorem encode_eq_self_iff (text : Bytes) :
    encodeURIComponent text = text ↔ ∀ byte ∈ text, isUnreserved byte = true := by
  induction text with
  | nil => simp [encodeURIComponent]
  | cons byte text ih =>
      have step : encodeURIComponent (byte :: text) = encodeByte byte ++ encodeURIComponent text :=
        List.flatMap_cons
      rw [step, List.forall_mem_cons, ← ih]
      by_cases unreserved : isUnreserved byte = true
      · simp [encodeByte, unreserved]
      · have longer := length_le_encode text
        simp only [encodeByte, unreserved, Bool.false_eq_true, if_false, false_and, iff_false]
        intro same
        have lengths := congrArg List.length same
        simp only [List.length_append, List.length_cons, List.length_nil] at lengths
        omega

end Dashboard

namespace HttpServer
open Library Dashboard

/-- A word ends at the next blank. -/
theorem readWord_word {word : Bytes} (nonempty : word ≠ [])
    (visible : ∀ byte ∈ word, (!isSpace byte) = true) (rest : Bytes) :
    readWord (word ++ 32 :: rest) = (word, 32 :: rest) := by
  obtain ⟨first, others, rfl⟩ := List.exists_cons_of_ne_nil nonempty
  have start : isSpace first = false := by simpa using visible first List.mem_cons_self
  have kept : (first :: others ++ 32 :: rest).dropWhile isSpace =
      first :: others ++ 32 :: rest := by
    simp [start]
  simp only [readWord, kept]
  rw [List.takeWhile_append_of_pos visible, List.dropWhile_append_of_pos visible]
  simp [show isSpace 32 = true from rfl]

theorem readWord_blank (text : Bytes) : readWord (32 :: text) = readWord text := by
  simp [readWord, show isSpace 32 = true from rfl]

/-- The request line of a path ends in the version and a line end. -/
def requestLine (path : Bytes) : Bytes := ascii "GET " ++ path ++ ascii " HTTP/1.1"

/-- These bytes may stand in a request path. -/
def PlainPath (path : Bytes) : Prop :=
  path ≠ [] ∧ ∀ byte ∈ path, (!isSpace byte) = true

/-- A byte that is in no part of the request line is not in the line. -/
theorem not_mem_requestLine {path : Bytes} {byte : UInt8} (absent : byte ∉ path)
    (fixed : byte ∉ ascii "GET " ++ ascii " HTTP/1.1") : byte ∉ requestLine path := by
  simp only [requestLine, List.mem_append, not_or] at fixed ⊢
  exact ⟨⟨fixed.1, absent⟩, fixed.2⟩

/-- The words of the request line are the method and the path. -/
theorem readWord_requestLine {path : Bytes} (plain : PlainPath path) :
    readWord (requestLine path) = (ascii "GET", 32 :: (path ++ ascii " HTTP/1.1")) ∧
      readWord (32 :: (path ++ ascii " HTTP/1.1")) = (path, ascii " HTTP/1.1") := by
  constructor
  · have method : ∀ byte ∈ ascii "GET", (!isSpace byte) = true := List.all_eq_true.mp rfl
    exact readWord_word (by decide) method (path ++ ascii " HTTP/1.1")
  · rw [readWord_blank]
    exact readWord_word plain.1 plain.2 (ascii "HTTP/1.1")

section Requests
variable {D : Type} [Double D] [DoubleStream D]

/-- A request whose line fits into the buffer reaches its route. -/
theorem handleClient_fits {path : Bytes} (plain : PlainPath path)
    (fits : (requestLine path).length + 2 ≤ bufferSize - 1) (headers : Bytes) (s : HttpServer D) :
    handleClient (request path headers) s = some (s.respond (route path)) := by
  have received : (request path headers).take (bufferSize - 1) =
      requestLine path ++ (ascii "\r\n" ++
        headers.take (bufferSize - 1 - (requestLine path).length - 2)) := by
    change (requestLine path ++ ascii "\r\n" ++ headers).take (bufferSize - 1) = _
    rw [List.append_assoc, List.take_append, List.take_of_length_le (by omega), List.take_append,
      List.take_of_length_le (by simp [ascii]; omega)]
    rfl
  have nonempty : requestLine path ++ (ascii "\r\n" ++
      headers.take (bufferSize - 1 - (requestLine path).length - 2)) ≠ [] := by
    simp [requestLine, ascii]
  have lineEnd := find_first 13 [10] (requestLine path)
    (headers.take (bufferSize - 1 - (requestLine path).length - 2))
    (not_mem_requestLine (fun member => absurd (plain.2 13 member) (by decide)) (by decide))
  obtain ⟨method, target⟩ := readWord_requestLine plain
  simp only [handleClient, received, nonempty, if_false]
  rw [show ascii "\r\n" = [13, 10] from rfl, lineEnd]
  simp only [List.take_left, method, target]
  rfl

/-- A request whose line does not fit is refused. -/
theorem handleClient_long {path : Bytes} (plain : PlainPath path)
    (long : bufferSize - 1 < (requestLine path).length + 2) (headers : Bytes) (s : HttpServer D) :
    handleClient (request path headers) s = some HttpResponse.badRequest := by
  have received : (request path headers).take (bufferSize - 1) =
      (requestLine path ++ [13]).take (bufferSize - 1) := by
    have split : request path headers = (requestLine path ++ [13]) ++ (10 :: headers) := by
      simp [request, requestLine, ascii]
    rw [split, List.take_append_of_le_length]
    simp only [List.length_append, List.length_singleton]
    omega
  have noLineFeed : 10 ∉ (requestLine path ++ [13]).take (bufferSize - 1) := by
    intro member
    obtain inLine | last := List.mem_append.mp (List.mem_of_mem_take member)
    · have clean : 10 ∉ path := fun member => absurd (plain.2 10 member) (by decide)
      exact not_mem_requestLine clean (by decide) inLine
    · simp at last
  have nonempty : (requestLine path ++ [13]).take (bufferSize - 1) ≠ [] := by
    simp [requestLine, ascii, bufferSize]
  have absent : find (ascii "\r\n") ((requestLine path ++ [13]).take (bufferSize - 1)) = none :=
    find_absent (by decide) noLineFeed
  simp only [handleClient, received, nonempty, if_false, absent]

end Requests

/-- The slash of the path prefix can begin the suffix too. -/
theorem find_history (rest : Bytes) :
    find (ascii "/history") (ascii "/api/hosts/" ++ rest) =
      if (ascii "history").isPrefixOf rest then some 10
      else (find (ascii "/history") rest).map (· + 11) := by
  have api := find_append 47 (ascii "history") (ascii "api") (ascii "/hosts/" ++ rest) (by decide)
  have hosts := find_append 47 (ascii "history") (ascii "hosts") (47 :: rest) (by decide)
  have first : find (ascii "/history") (ascii "/api/hosts/" ++ rest) =
      (find (ascii "/history") (ascii "api" ++ (ascii "/hosts/" ++ rest))).map (· + 1) := rfl
  have second : find (ascii "/history") (ascii "/hosts/" ++ rest) =
      (find (ascii "/history") (ascii "hosts" ++ 47 :: rest)).map (· + 1) := rfl
  have third : find (ascii "/history") (47 :: rest) =
      if (ascii "history").isPrefixOf rest then some 0
      else (find (ascii "/history") rest).map (· + 1) := rfl
  have pattern : ascii "/history" = 47 :: ascii "history" := rfl
  rw [first, pattern, api, ← pattern, second, pattern, hosts, ← pattern, third]
  split
  · rfl
  · simp only [Option.map_map]
    rfl

/-- Every path below the hosts asks for a detail or a history. -/
theorem route_hosts (rest : Bytes) :
    route (ascii "/api/hosts/" ++ rest) =
      match find (ascii "/history") (ascii "/api/hosts/" ++ rest) with
      | some stop => .history (rest.take (substrLength 11 stop))
      | none => .detail rest := by
  have root : ascii "/api/hosts/" ++ rest ≠ ascii "/" := by simp [ascii]
  have index : ascii "/api/hosts/" ++ rest ≠ ascii "/index.html" := by simp [ascii]
  have alerts : ascii "/api/hosts/" ++ rest ≠ ascii "/api/alerts" := by simp [ascii]
  have hosts : ascii "/api/hosts/" ++ rest ≠ ascii "/api/hosts" := by simp [ascii]
  have below : (ascii "/api/hosts/").isPrefixOf (ascii "/api/hosts/" ++ rest) = true :=
    List.isPrefixOf_iff_prefix.mpr (List.prefix_append _ _)
  simp only [route, root, index, alerts, hosts, below, or_self, if_false, if_true, List.drop_left]
  rfl

/-- A name without slashes is looked up as it is unless it begins like the suffix. -/
theorem route_detail {name : Bytes} (noSlash : 47 ∉ name) :
    route (ascii "/api/hosts/" ++ name) =
      if (ascii "history").isPrefixOf name then .history (name.take 18446744073709551615)
      else .detail name := by
  have absent : find (ascii "/history") name = none := find_absent (by decide) noSlash
  rw [route_hosts, find_history, absent]
  by_cases starts : (ascii "history").isPrefixOf name = true
  · rw [if_pos starts, if_pos starts]
    rfl
  · rw [if_neg starts, if_neg starts]
    rfl

/-- A name without a slash that does not begin like the suffix is found in front of it. -/
theorem route_history {name : Bytes} (noSlash : 47 ∉ name)
    (other : (ascii "history").isPrefixOf name = false)
    (short : name.length < 18446744073709551616) :
    route (ascii "/api/hosts/" ++ name ++ ascii "/history") = .history name := by
  have start : (ascii "history").isPrefixOf (name ++ ascii "/history") = false :=
    (isPrefixOf_separator (ascii "history") name (ascii "history") 47 (by decide)).trans other
  have stop : find (ascii "/history") (name ++ ascii "/history") = some name.length := by
    have first := find_first 47 (ascii "history") name [] noSlash
    rw [List.append_nil] at first
    exact first
  have length : substrLength 11 (name.length + 11) = name.length := by
    unfold substrLength
    omega
  rw [List.append_assoc, route_hosts, find_history, start, stop]
  simp only [Bool.false_eq_true, if_false, Option.map_some, length, List.take_left]

/-- The name needs no escape, does not begin like the suffix, and its request line fits. -/
def PlainName (hostname : Bytes) : Prop :=
  (∀ byte ∈ hostname, isUnreserved byte = true) ∧ (ascii "history").isPrefixOf hostname = false ∧
    hostname.length ≤ 8157

/-- An encoded name has no slash. -/
theorem noSlash (hostname : Bytes) : 47 ∉ encodeURIComponent hostname := by
  intro member
  exact (isPathByte_ordinary (encode_isPathByte hostname 47 member)).2 rfl

/-- The paths of a host are plain. -/
theorem plainPath_hosts (hostname : Bytes) {suffix : Bytes}
    (visible : ∀ byte ∈ suffix, (!isSpace byte) = true) :
    PlainPath (ascii "/api/hosts/" ++ encodeURIComponent hostname ++ suffix) := by
  refine ⟨by simp [ascii], ?_⟩
  intro byte member
  obtain front | last := List.mem_append.mp member
  · obtain fixed | name := List.mem_append.mp front
    · have all : ∀ byte ∈ ascii "/api/hosts/", (!isSpace byte) = true := List.all_eq_true.mp rfl
      exact all byte fixed
    · rw [(isPathByte_ordinary (encode_isPathByte hostname byte name)).1]
      rfl
  · exact visible byte last

theorem plainPath_history (hostname : Bytes) : PlainPath (historyPath hostname) :=
  plainPath_hosts hostname (List.all_eq_true.mp rfl)

theorem plainPath_detail (hostname : Bytes) : PlainPath (detailPath hostname) := by
  have plain := plainPath_hosts hostname (List.forall_mem_nil fun byte => (!isSpace byte) = true)
  rwa [List.append_nil] at plain

/-- The encoded name decides the length of the request line. -/
theorem requestLine_length (hostname : Bytes) :
    (requestLine (historyPath hostname)).length = 32 + (encodeURIComponent hostname).length ∧
      (requestLine (detailPath hostname)).length = 24 + (encodeURIComponent hostname).length := by
  simp only [requestLine, historyPath, detailPath, List.length_append, ascii, List.length_map]
  constructor
  · change 4 + (11 + _ + 8) + 9 = _
    omega
  · change 4 + (11 + _) + 9 = _
    omega

section Answers
variable {D : Type} [DoubleText D] [DoubleStream D]

/-- The two paths of a host make the server answer from the records of this host. -/
def AnswersFor (hostname : Bytes) (s : HttpServer D) : Prop :=
  ∀ headers,
    handleClient (request (detailPath hostname) headers) s =
        some (HttpResponse.okJson (buildHostDetailJson hostname s.store)) ∧
      handleClient (request (historyPath hostname) headers) s =
        some (HttpResponse.okJson (buildHostHistoryJson hostname s.historyStore))

/-- The store holds a sample that the parser accepted from the host. -/
def HoldsHost (hostname : Bytes) (s : HttpServer D) : Prop :=
  ∃ (message : Ingest.HostMessage D hostname) (updatedAt : Int),
    s.store.getLatest hostname = some ⟨message.metrics, updatedAt⟩

/-- The page and the server agree on the address of a host. -/
def Addressable (D : Type) [DoubleText D] [DoubleStream D] (hostname : Bytes) : Prop :=
  ∀ s : HttpServer D, s.HoldsHost hostname → s.AnswersFor hostname

/-- The server has handled its first message. -/
def serving {hostname : Bytes} (message : Ingest.HostMessage D hostname) : HttpServer D :=
  let stores := Task.ingest (fun _ => 0) message.metrics
    (Stores.construct 120 5 (Double.ofNat 80) (Double.ofNat 90))
  ⟨stores.metricsStore, stores.historyStore, stores.alertManager, []⟩

omit [DoubleStream D] in
/-- The server knows this host and no other one. -/
theorem serving_getLatest {hostname : Bytes} (message : Ingest.HostMessage D hostname)
    (other : Bytes) :
    (serving message).store.getLatest other =
      if other = hostname then some ⟨message.metrics, 0⟩ else none := by
  simp only [serving, Task.ingest, MetricsStore.getLatest, message.host]
  split
  · rename_i same
    rw [same, AList.lookup_insert]
  · rename_i different
    rw [AList.lookup_insert_ne different]
    exact AList.lookup_empty other

omit [DoubleStream D] in
/-- The server that ingested one message holds its host. -/
theorem serving_holds {hostname : Bytes} (message : Ingest.HostMessage D hostname) :
    (serving message).HoldsHost hostname :=
  ⟨message, 0, by rw [serving_getLatest, if_pos rfl]⟩

/-- Neither a history nor an unknown host gives the detail document of a sample. -/
theorem writeDetail_ne (metrics : SystemMetrics D) :
    writeDetail metrics ≠ ascii "\x7b\x7d" ∧
      ∀ hostname (historyStore : MetricsHistoryStore D),
        writeDetail metrics ≠ buildHostHistoryJson hostname historyStore := by
  have first : (writeDetail metrics)[0]? = some 123 := rfl
  have second : (writeDetail metrics)[1]? = some 34 := rfl
  constructor
  · intro same
    rw [same] at second
    cases second
  · intro hostname historyStore same
    have bracket : (buildHostHistoryJson hostname historyStore)[0]? = some 91 := rfl
    rw [← same, first] at bracket
    cases bracket

/-- The server looks a plain name up as it is. -/
theorem answersFor_plain {hostname : Bytes} (plain : PlainName hostname) (s : HttpServer D) :
    s.AnswersFor hostname := by
  obtain ⟨unreserved, other, short⟩ := plain
  obtain ⟨historyLength, detailLength⟩ := requestLine_length hostname
  intro headers
  have same := (encode_eq_self_iff hostname).mpr unreserved
  have noSlash := noSlash hostname
  rw [same] at historyLength detailLength noSlash
  constructor
  · rw [handleClient_fits (plainPath_detail hostname) (by unfold bufferSize; omega), detailPath,
      same, route_detail noSlash, if_neg (by simp [other])]
    rfl
  · rw [handleClient_fits (plainPath_history hostname) (by unfold bufferSize; omega), historyPath,
      same, route_history noSlash other (by omega)]
    rfl

/-- The page and the server agree on a host that sends messages exactly if its name is plain. The
path is the one that the page builds: a browser that resolves dot segments asks for another one if
the name is one dot or two. -/
theorem addressable_iff {hostname : Bytes} (message : Ingest.HostMessage D hostname) :
    Addressable D hostname ↔ PlainName hostname := by
  obtain ⟨historyLength, detailLength⟩ := requestLine_length hostname
  constructor
  · intro addressable
    obtain ⟨detail, history⟩ := addressable (serving message) (serving_holds message) []
    have fits : (requestLine (historyPath hostname)).length + 2 ≤ bufferSize - 1 := by
      by_contra long
      rw [handleClient_long (plainPath_history hostname) (Nat.lt_of_not_le long)] at history
      exact HttpResponse.okJson_ne_badRequest _ (Option.some.inj history).symm
    rw [handleClient_fits (plainPath_detail hostname) (by omega), detailPath,
      route_detail (noSlash hostname)] at detail
    have document := Option.some.inj detail
    simp only [buildHostDetailJson, serving_getLatest, if_true] at document
    split at document
    · exact absurd (HttpResponse.okJson_inj document).symm ((writeDetail_ne _).2 _ _)
    · rename_i other
      have found := HttpResponse.okJson_inj document
      simp only [buildHostDetailJson, serving_getLatest] at found
      by_cases same : encodeURIComponent hostname = hostname
      · rw [same] at other historyLength
        unfold bufferSize at fits
        exact ⟨(encode_eq_self_iff hostname).mp same, (Bool.not_eq_true _).mp other, by omega⟩
      · rw [if_neg same] at found
        exact absurd found.symm (writeDetail_ne _).1
  · exact fun plain s _ => answersFor_plain plain s

end Answers

/-- The page asks for `web%201`, and the server knows no host of this name. -/
theorem space_not_addressable : ¬ Addressable Int (ascii "web 1") := by
  intro addressable
  have message : Ingest.HostMessage Int (ascii "web 1") :=
    Ingest.loadMessage (ascii "web 1") 10 (by decide)
  have answer := (addressable (serving message) (serving_holds message) []).1
  have missing : handleClient (request (detailPath (ascii "web 1")) []) (serving message) =
      some (HttpResponse.okJson (ascii "\x7b\x7d")) := by
    rw [handleClient_fits (plainPath_detail _) (by decide), detailPath, route_detail (noSlash _),
      if_neg (by decide)]
    simp only [respond, buildHostDetailJson, serving_getLatest]
    rfl
  rw [missing] at answer
  have document := HttpResponse.okJson_inj (Option.some.inj answer)
  simp only [buildHostDetailJson, serving_getLatest, if_true] at document
  exact (writeDetail_ne _).1 document.symm

end HttpServer
end LMonitor
