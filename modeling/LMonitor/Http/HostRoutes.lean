import LMonitor.Http.HostAddresses

namespace LMonitor.HttpServer
open Library

/-- The string functions throw this exception for a position behind the end. -/
inductive StringError where
  | outOfRange
  deriving DecidableEq

/-- The largest position asks for the rest of a text. -/
def npos : Nat := 18446744073709551615

def substr (text : Bytes) (start count : Nat) : Except StringError Bytes :=
  if start ≤ text.length then .ok ((text.drop start).take count) else .error .outOfRange

/-- The chain of conditions with the calls of `substr` that may throw. -/
def tryRoute (path : Bytes) : Except StringError Route := do
  if path = ascii "/" ∨ path = ascii "/index.html" then return .dashboard
  else if path = ascii "/api/alerts" then return .alerts
  else if path = ascii "/api/hosts" then return .hosts
  else if (ascii "/api/hosts/").isPrefixOf path then
    let start := (ascii "/api/hosts/").length
    match find (ascii "/history") path with
    | some stop => return .history (← substr path start (substrLength start stop))
    | none => return .detail (← substr path start npos)
  else return .notFound

/-- A substring that starts inside the text is a part of it. -/
theorem substr_eq {text : Bytes} {start : Nat} (inside : start ≤ text.length) (count : Nat) :
    substr text start count = .ok ((text.drop start).take count) := if_pos inside

/-- No path of a possible length makes the chain of conditions throw. -/
theorem tryRoute_eq {path : Bytes} (short : path.length ≤ npos) :
    tryRoute path = .ok (route path) := by
  unfold tryRoute route
  split_ifs with dashboard alerts hosts below
  · rfl
  · rfl
  · rfl
  · have inside : (ascii "/api/hosts/").length ≤ path.length :=
      (List.isPrefixOf_iff_prefix.mp below).length_le
    have whole : (path.drop (ascii "/api/hosts/").length).take npos =
        path.drop (ascii "/api/hosts/").length := by
      apply List.take_of_length_le
      rw [List.length_drop]
      omega
    cases find (ascii "/history") path with
    | some stop => simp only [substr_eq inside]; rfl
    | none => simp only [substr_eq inside, whole]; rfl
  · rfl

section Requests
variable {D : Type} [Double D] [DoubleStream D]

/-- The request handler with the calls of `substr` that may throw. -/
def tryHandleClient (sent : Bytes) (s : HttpServer D) : Except StringError (Option Bytes) := do
  let request := sent.take (bufferSize - 1)
  if request = [] then return none
  else
    match find (ascii "\r\n") request with
    | none => return some HttpResponse.badRequest
    | some lineEnd =>
        let stream ← substr request 0 lineEnd
        let (method, stream) := readWord stream
        let (path, _) := readWord stream
        if method ≠ ascii "GET" then return some HttpResponse.badRequest
        else return some (s.respond (← tryRoute path))

/-- The path of a request whose first line arrives and has the method `GET`. -/
def requestPath (sent : Bytes) : Option Bytes :=
  let request := sent.take (bufferSize - 1)
  match find (ascii "\r\n") request with
  | none => none
  | some lineEnd =>
      let (method, stream) := readWord (request.take lineEnd)
      let (path, _) := readWord stream
      if method ≠ ascii "GET" then none else some path

theorem readWord_length (text : Bytes) :
    (readWord text).1.length ≤ text.length ∧ (readWord text).2.length ≤ text.length := by
  have skipped : (text.dropWhile isSpace).length ≤ text.length :=
    (List.dropWhile_sublist isSpace).length_le
  constructor
  · exact (List.takeWhile_sublist _).length_le.trans skipped
  · exact (List.dropWhile_sublist _).length_le.trans skipped

/-- Both words of a request line fit into the buffer. -/
theorem requestLine_words (sent : Bytes) (lineEnd : Nat) :
    (readWord (readWord ((sent.take (bufferSize - 1)).take lineEnd)).2).1.length < bufferSize := by
  have first := (readWord_length ((sent.take (bufferSize - 1)).take lineEnd)).2
  have second := (readWord_length (readWord ((sent.take (bufferSize - 1)).take lineEnd)).2).1
  have received : ((sent.take (bufferSize - 1)).take lineEnd).length ≤ bufferSize - 1 := by
    simp only [List.length_take]
    omega
  have positive : 0 < bufferSize := by decide
  omega

/-- No request makes the handler throw, which would end the thread of the server. -/
theorem tryHandleClient_eq (sent : Bytes) (s : HttpServer D) :
    tryHandleClient sent s = .ok (handleClient sent s) := by
  unfold tryHandleClient handleClient
  by_cases empty : sent.take (bufferSize - 1) = []
  · simp only [empty, if_true]
    rfl
  · simp only [empty, if_false]
    cases find (ascii "\r\n") (sent.take (bufferSize - 1)) with
    | none => rfl
    | some lineEnd =>
        have words := requestLine_words sent lineEnd
        have short : (readWord (readWord ((sent.take (bufferSize - 1)).take lineEnd)).2).1.length ≤
            npos := by
          unfold npos
          unfold bufferSize at words ⊢
          omega
        simp only [substr_eq (Nat.zero_le _), List.drop_zero, bind, Except.bind, tryRoute_eq short]
        split <;> rfl

/-- A request with a path has its line end in the buffer and the method `GET`. -/
theorem requestPath_cases {sent path : Bytes} (asked : requestPath sent = some path) :
    ∃ lineEnd, find (ascii "\r\n") (sent.take (bufferSize - 1)) = some lineEnd ∧
      (readWord ((sent.take (bufferSize - 1)).take lineEnd)).1 = ascii "GET" ∧
      (readWord (readWord ((sent.take (bufferSize - 1)).take lineEnd)).2).1 = path := by
  unfold requestPath at asked
  cases lineEnd : find (ascii "\r\n") (sent.take (bufferSize - 1)) with
  | none =>
      simp only [lineEnd] at asked
      contradiction
  | some position =>
      simp only [lineEnd] at asked
      split at asked
      · contradiction
      · rename_i method
        exact ⟨position, rfl, not_not.mp method, Option.some.inj asked⟩

/-- The answer to a request depends on its path only. -/
def answer (s : HttpServer D) : Option Bytes → Bytes
  | none => HttpResponse.badRequest
  | some path => s.respond (route path)

/-- A request with a byte is answered. -/
theorem handleClient_eq {sent : Bytes} (nonempty : sent ≠ []) (s : HttpServer D) :
    handleClient sent s = some (s.answer (requestPath sent)) := by
  have received : sent.take (bufferSize - 1) ≠ [] := by
    simp [List.take_eq_nil_iff, nonempty, bufferSize]
  cases lineEnd : find (ascii "\r\n") (sent.take (bufferSize - 1)) with
  | none => simp only [handleClient, requestPath, received, if_false, lineEnd, answer]
  | some position =>
      simp only [handleClient, requestPath, received, if_false, lineEnd]
      split <;> rfl

/-- A path fits into the buffer. -/
theorem requestPath_length {sent path : Bytes} (asked : requestPath sent = some path) :
    path.length < bufferSize := by
  obtain ⟨lineEnd, _, _, word⟩ := requestPath_cases asked
  rw [← word]
  exact requestLine_words sent lineEnd

end Requests

/-- A client asks for a path below the hosts. -/
structure HostRequest where
  sent : Bytes
  target : Bytes
  asked : requestPath sent = some (ascii "/api/hosts/" ++ target)

def HostRequest.path (request : HostRequest) : Bytes := ascii "/api/hosts/" ++ request.target

/-- The target of a history request is a name with the suffix. -/
def IsHistoryOf (hostname target : Bytes) : Prop :=
  hostname ≠ [] ∧ target = hostname ++ ascii "/history"

/-- A path below the hosts names a host, whose history it asks for by the suffix. -/
structure RoutesHost (target : Bytes) : Prop where
  noWrap : ∀ stop, find (ascii "/history") (ascii "/api/hosts/" ++ target) = some stop →
    (ascii "/api/hosts/").length ≤ stop
  history : ∀ hostname,
    route (ascii "/api/hosts/" ++ target) = .history hostname ↔ IsHistoryOf hostname target
  detail : (∀ hostname, ¬ IsHistoryOf hostname target) →
    route (ascii "/api/hosts/" ++ target) = .detail target

/-- The suffix stands at the end of the path and behind a name, or nowhere. -/
def OnlySuffix (path : Bytes) : Prop :=
  ∀ before after, path = before ++ (ascii "/history" ++ after) →
    after = [] ∧ (ascii "/api/hosts/").length < before.length

/-- A path without the suffix elsewhere is cut right before the suffix. -/
theorem OnlySuffix.found {target : Bytes} {stop : Nat}
    (only : OnlySuffix (ascii "/api/hosts/" ++ target))
    (found : find (ascii "/history") (ascii "/api/hosts/" ++ target) = some stop) :
    ∃ hostname, IsHistoryOf hostname target ∧ stop = 11 + hostname.length := by
  obtain ⟨before, after, whole, length⟩ := find_split found
  obtain ⟨rfl, behind⟩ := only before after whole
  rw [List.append_nil] at whole
  have fixed : (ascii "/api/hosts/").length = 11 := rfl
  -- The prefix and the text before the suffix both begin the path, and the prefix is shorter.
  have front : ascii "/api/hosts/" <+: before :=
    List.prefix_of_prefix_length_le ⟨target, rfl⟩ ⟨_, whole.symm⟩ (Nat.le_of_lt behind)
  obtain ⟨hostname, rfl⟩ := front
  rw [List.append_assoc] at whole
  rw [List.length_append, fixed] at length behind
  refine ⟨hostname, ⟨?_, List.append_cancel_left whole⟩, length.symm⟩
  rintro rfl
  exact absurd behind (Nat.lt_irrefl 11)

/-- A path is the history path of one name. -/
theorem IsHistoryOf.unique {first second target : Bytes} (one : IsHistoryOf first target)
    (other : IsHistoryOf second target) : first = second :=
  List.append_cancel_right (one.2.symm.trans other.2)

/-- A path without the suffix is a detail path, as it should be. -/
theorem routesHost_of_absent {target : Bytes}
    (absent : find (ascii "/history") (ascii "/api/hosts/" ++ target) = none) :
    RoutesHost target := by
  have served : route (ascii "/api/hosts/" ++ target) = .detail target := by
    rw [route_hosts, absent]
  have other : ∀ hostname, ¬ IsHistoryOf hostname target := by
    rintro hostname ⟨_, rfl⟩
    apply find_none absent (ascii "/api/hosts/" ++ hostname) []
    rw [List.append_nil, List.append_assoc]
  constructor
  · intro stop occurs
    rw [absent] at occurs
    cases occurs
  · intro hostname
    rw [served]
    exact ⟨fun same => Route.noConfusion same, fun asked => absurd asked (other hostname)⟩
  · exact fun _ => served

/-- A path whose first suffix follows the whole name is a history path, as it should be. -/
theorem routesHost_of_suffix {hostname target : Bytes} (short : target.length ≤ npos)
    (asked : IsHistoryOf hostname target)
    (found : find (ascii "/history") (ascii "/api/hosts/" ++ target) =
      some (11 + hostname.length)) : RoutesHost target := by
  have inside : hostname.length ≤ npos := by
    rw [asked.2, List.length_append] at short
    omega
  have length : substrLength 11 (11 + hostname.length) = hostname.length := by
    unfold npos at inside
    unfold substrLength
    omega
  have served : route (ascii "/api/hosts/" ++ target) = .history hostname := by
    rw [route_hosts, found]
    simp only [length, asked.2, List.take_left]
  constructor
  · intro stop occurs
    rw [found] at occurs
    rw [← Option.some.inj occurs]
    exact Nat.le_add_right 11 _
  · intro other
    rw [served]
    constructor
    · intro same
      rwa [← Route.history.inj same]
    · intro otherAsked
      rw [asked.unique otherAsked]
  · exact fun none => absurd asked (none hostname)

/-- A path with the suffix at its end only is routed to its host. -/
theorem routesHost_of_onlySuffix {target : Bytes} (short : target.length ≤ npos)
    (only : OnlySuffix (ascii "/api/hosts/" ++ target)) : RoutesHost target := by
  cases found : find (ascii "/history") (ascii "/api/hosts/" ++ target) with
  | none => exact routesHost_of_absent found
  | some stop =>
      obtain ⟨hostname, asked, rfl⟩ := only.found found
      exact routesHost_of_suffix short asked found

/-- A path that is routed to its host has the suffix at its end only. -/
theorem onlySuffix_of_routesHost {target : Bytes} (short : target.length ≤ npos)
    (routes : RoutesHost target) : OnlySuffix (ascii "/api/hosts/" ++ target) := by
  intro before after whole
  obtain ⟨stop, first, found⟩ := find_le (ascii "/history") before after
  rw [← whole] at found
  have fixed : (ascii "/api/hosts/").length = 11 := rfl
  have suffix : (ascii "/history").length = 8 := rfl
  have start := routes.noWrap stop found
  -- The found suffix lies inside the path, so the name is cut there.
  obtain ⟨front, back, split, position⟩ := find_split found
  have total := congrArg List.length whole
  have parts := congrArg List.length split
  simp only [List.length_append, fixed, suffix] at total parts start
  have length : substrLength 11 stop = stop - 11 := by
    unfold npos at short
    unfold substrLength
    omega
  have served : route (ascii "/api/hosts/" ++ target) = .history (target.take (stop - 11)) := by
    rw [route_hosts, found]
    simp only [length]
  obtain ⟨named, asked⟩ := (routes.history _).mp served
  -- The law then leaves nothing behind the first suffix, and no later one fits.
  have ends := congrArg List.length asked
  have positive := List.length_pos_iff.mpr named
  simp only [List.length_append, List.length_take, suffix] at ends positive
  have nothing : after.length = 0 := by omega
  exact ⟨List.length_eq_zero_iff.mp nothing, by omega⟩

section Requests
variable {D : Type} [Double D] [DoubleStream D]

/-- No host path makes the handler throw, and the host routing is right for exactly those paths
whose only `/history` is the suffix behind a name. -/
theorem hostRoutes_iff (request : HostRequest) (s : HttpServer D) :
    tryHandleClient request.sent s = .ok (some (s.respond (route request.path))) ∧
      (RoutesHost request.target ↔ OnlySuffix request.path) := by
  have short : request.target.length ≤ npos := by
    have bound := requestPath_length request.asked
    rw [List.length_append] at bound
    unfold bufferSize at bound
    unfold npos
    omega
  have nonempty : request.sent ≠ [] := by
    intro empty
    have asked := request.asked
    rw [empty] at asked
    cases asked
  constructor
  · rw [tryHandleClient_eq, handleClient_eq nonempty, request.asked]
    rfl
  · exact ⟨onlySuffix_of_routesHost short, routesHost_of_onlySuffix short⟩

end Requests

/-- The detail path of the host `history` is served as its history path after a wrap. -/
theorem history_name_wraps :
    ∃ request : HostRequest, request.sent = ascii "GET /api/hosts/history HTTP/1.1\r\n\r\n" ∧
      request.target = ascii "history" ∧
      find (ascii "/history") request.path = some 10 ∧
      route request.path = .history (ascii "history") ∧ ¬ RoutesHost request.target := by
  have served : route (ascii "/api/hosts/history") = .history (ascii "history") := by decide
  refine ⟨⟨ascii "GET /api/hosts/history HTTP/1.1\r\n\r\n", ascii "history", by decide⟩,
    rfl, rfl, by decide, served, ?_⟩
  intro routes
  have asked : IsHistoryOf (ascii "history") (ascii "history") := (routes.history _).mp served
  exact absurd asked.2 (by decide)

end LMonitor.HttpServer
