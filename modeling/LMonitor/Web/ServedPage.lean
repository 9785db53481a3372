import LMonitor.Web.Site

namespace LMonitor.Site
open Library Json HttpServer Dashboard
open AlertManager (getActiveAlerts)
variable {D : Type} [DoubleText D] [DoubleStream D] {threadCount : Nat}

/-- The body was written for the call from these stores. -/
def WrittenFor (stores : Stores D) (body : Bytes) : Call → Prop
  | .loadHosts => body = buildHostsJson stores.metricsStore
  | .loadAlerts => body = buildAlertsJson stores.alertManager
  | .loadHostDetail _ => ∃ looked, body = buildHostDetailJson looked stores.metricsStore ∨
      body = buildHostHistoryJson looked stores.historyStore
  | .loadHistory hostname => ∃ looked, route (target (historyPath hostname)) = .history looked ∧
      body = buildHostHistoryJson looked stores.historyStore

theorem target_lists : target (ascii "/api/hosts") = ascii "/api/hosts" ∧
    target (ascii "/api/alerts") = ascii "/api/alerts" := by
  decide

/-- Every call requests a plain path. -/
theorem plainPath_call (call : Call) : PlainPath (target call.path) := by
  cases call with
  | loadHosts =>
      rw [Call.path, target_lists.1]
      exact ⟨by decide, List.all_eq_true.mp rfl⟩
  | loadAlerts =>
      rw [Call.path, target_lists.2]
      exact ⟨by decide, List.all_eq_true.mp rfl⟩
  | loadHostDetail hostname => exact (plainPath_target hostname).1
  | loadHistory hostname => exact (plainPath_target hostname).2

/-- A path below the hosts with the suffix asks for a history, and any other for one of two. -/
theorem route_below (rest : Bytes) :
    (∃ looked, route (ascii "/api/hosts/" ++ rest) = .history looked) ∨
      route (ascii "/api/hosts/" ++ rest) = .detail rest := by
  rw [route_hosts]
  split
  · exact .inl ⟨_, rfl⟩
  · exact .inr rfl

/-- Every path of a history asks for some history. -/
theorem route_historyPath (hostname : Bytes) :
    ∃ looked, route (historyPath hostname) = .history looked := by
  obtain ⟨position, _, found⟩ :=
    find_le (ascii "/history") (ascii "/api/hosts/" ++ encodeURIComponent hostname) []
  rw [List.append_nil, List.append_assoc] at found
  rw [historyPath, List.append_assoc, route_hosts, found]
  exact ⟨_, rfl⟩

/-- The request for a detail asks for a host, or it leaves the hosts behind. -/
theorem route_detailTarget (hostname : Bytes) :
    (∃ looked, route (target (detailPath hostname)) = .history looked) ∨
      (∃ looked, route (target (detailPath hostname)) = .detail looked) ∨
        route (target (detailPath hostname)) = .notFound := by
  obtain ⟨first, _, third, _⟩ := target_dots
  by_cases single : hostname = ascii "."
  · rw [single, first]
    exact .inr (.inl ⟨[], by decide⟩)
  by_cases double : hostname = ascii ".."
  · rw [double, third]
    exact .inr (.inr (by decide))
  · rw [(target_host single double).1, detailPath]
    exact (route_below _).imp id fun routed => .inl ⟨_, routed⟩

/-- The request for a history asks for one, or it leaves the hosts behind. -/
theorem route_historyTarget (hostname : Bytes) :
    (∃ looked, route (target (historyPath hostname)) = .history looked) ∨
      route (target (historyPath hostname)) = .notFound := by
  obtain ⟨_, second, _, fourth⟩ := target_dots
  by_cases single : hostname = ascii "."
  · rw [single, second]
    exact .inl (route_below (ascii "history") |>.elim id fun detail => absurd detail (by decide))
  by_cases double : hostname = ascii ".."
  · rw [double, fourth]
    exact .inr (by decide)
  · rw [(target_host single double).2]
    exact .inl (route_historyPath hostname)

/-- A successful answer to a call has a body that was written for it. -/
theorem writtenFor_document (dashboardHtml : Bytes) (stores : Stores D) (call : Call)
    {path : Option Bytes} (asked : path = none ∨ path = some (target call.path))
    (ok : ((httpServer dashboardHtml stores).document path).statusCode ≤ 299) :
    WrittenFor stores ((httpServer dashboardHtml stores).document path).body call := by
  obtain rfl | rfl := asked
  · exact absurd ok (by decide : ¬ (400 : Nat) ≤ 299)
  · cases call with
    | loadHosts =>
        rw [Call.path, target_lists.1]
        rfl
    | loadAlerts =>
        rw [Call.path, target_lists.2]
        rfl
    | loadHostDetail hostname =>
        rw [document, Call.path] at ok ⊢
        obtain ⟨looked, routed⟩ | ⟨looked, routed⟩ | routed := route_detailTarget hostname
        · exact ⟨looked, .inr (by rw [routed]; rfl)⟩
        · exact ⟨looked, .inl (by rw [routed]; rfl)⟩
        · rw [routed] at ok
          exact absurd ok (by decide : ¬ (404 : Nat) ≤ 299)
    | loadHistory hostname =>
        rw [document, Call.path] at ok ⊢
        obtain ⟨looked, routed⟩ | routed := route_historyTarget hostname
        · exact ⟨looked, routed, by rw [routed]; rfl⟩
        · rw [routed] at ok
          exact absurd ok (by decide : ¬ (404 : Nat) ≤ 299)

/-- Whatever the page shows came from the server in the past, and it shows no detail. -/
structure Shown (past : List (Ingest D threadCount)) (page : Page) : Prop where
  detail : ∀ items, page.hostDetail ≠ .shown items
  processes : page.processContainer = .empty
  hosts : page.hosts = [] ∨ ∃ server ∈ past, page.hosts.map HostEntry.value =
    server.stores.metricsStore.getAll.map fun host => hostValue host.metrics
  rows : ∃ selected, page.hostsTable = page.hosts.map (hostRow selected)
  summary : page.summary = renderSummary page.hosts
  alerts : ∀ items, page.alertsContainer = .shown items → ∃ server ∈ past,
    items = (getActiveAlerts server.stores.alertManager).map shownAlert
  chart : ∀ hostname count, page.chartHostName = .current hostname count →
    ∃ server ∈ past, ∃ looked, route (target (historyPath hostname)) = .history looked ∧
      page.latestHistory = (server.stores.historyStore.get looked).map pointValue

theorem Shown.mono {before after : List (Ingest D threadCount)} {page : Page}
    (shown : Shown before page) (le : ∀ server ∈ before, server ∈ after) : Shown after page := by
  refine ⟨shown.detail, shown.processes, ?_, shown.rows, shown.summary, ?_, ?_⟩
  · exact shown.hosts.imp id fun ⟨server, member, same⟩ => ⟨server, le server member, same⟩
  · intro items known
    obtain ⟨server, member, same⟩ := shown.alerts items known
    exact ⟨server, le server member, same⟩
  · intro hostname count known
    obtain ⟨server, member, looked⟩ := shown.chart hostname count known
    exact ⟨server, le server member, looked⟩

section Page
variable {past : List (Ingest D threadCount)} {page : Page}

theorem Shown.invoke (shown : Shown past page) (call : Call) : Shown past (page.invoke call) :=
  ⟨shown.detail, shown.processes, shown.hosts, shown.rows, shown.summary, shown.alerts,
    shown.chart⟩

theorem Shown.without (shown : Shown past page) (number : Nat) :
    Shown past (page.without number) :=
  ⟨shown.detail, shown.processes, shown.hosts, shown.rows, shown.summary, shown.alerts,
    shown.chart⟩

theorem Shown.dropHistory (shown : Shown past page) (failure : Failure) :
    Shown past (page.dropHistory failure) :=
  ⟨shown.detail, shown.processes, shown.hosts, shown.rows, shown.summary, shown.alerts,
    fun _ _ title => by cases title⟩

theorem Shown.failDetail (shown : Shown past page) (failure : Failure) :
    Shown past { page with hostDetail := .failed failure } :=
  ⟨fun _ panel => (by cases panel), shown.processes, shown.hosts, shown.rows, shown.summary,
    shown.alerts, shown.chart⟩

/-- A failure keeps the page faithful. -/
theorem Shown.fail (shown : Shown past page) (failure : Failure) (call : Call) :
    Shown past (page.fail failure call) := by
  cases call with
  | loadHosts =>
      exact ⟨shown.detail, shown.processes, shown.hosts, shown.rows, shown.summary, shown.alerts,
        shown.chart⟩
  | loadAlerts =>
      exact ⟨shown.detail, shown.processes, shown.hosts, shown.rows, shown.summary,
        fun _ panel => (by cases panel), shown.chart⟩
  | loadHostDetail hostname => exact shown.failDetail failure
  | loadHistory hostname => exact shown.dropHistory failure

/-- The list of hosts is shown with its summary, and a host is selected. -/
theorem Shown.showHosts (shown : Shown past page) {hosts : List HostEntry}
    (known : ∃ server ∈ past, hosts.map HostEntry.value =
      server.stores.metricsStore.getAll.map fun host => hostValue host.metrics) :
    Shown past (page.showHosts hosts) := by
  have listed : Shown past (page.listHosts hosts) :=
    ⟨shown.detail, shown.processes, .inr known, ⟨_, rfl⟩, rfl, shown.alerts, shown.chart⟩
  have selected : Shown past ((page.listHosts hosts).selectFirst hosts) := by
    unfold Page.selectFirst
    split
    · exact ⟨listed.detail, listed.processes, listed.hosts, listed.rows, listed.summary,
        listed.alerts, listed.chart⟩
    · exact listed
  unfold Page.showHosts Page.loadSelected
  split
  · exact selected
  · exact (selected.invoke _).invoke _

/-- The end of a call that reads a body of the server keeps the page faithful. -/
theorem Shown.finish [LawfulDoubleStream D] (shown : Shown past page) {next : Page}
    {server : Ingest D threadCount} (member : server ∈ past)
    (finite : FiniteStores server.stores) {body : Bytes} {value : Json} {call : Call}
    (parsed : Json.parse body = some value) (written : WrittenFor server.stores body call)
    (done : page.finish value call = some next) : Shown past next := by
  cases call with
  | loadHosts =>
      obtain rfl : body = buildHostsJson server.stores.metricsStore := written
      obtain rfl := hosts_parsed finite parsed
      obtain ⟨hosts, read, rfl⟩ := Option.map_eq_some_iff.mp done
      exact shown.showHosts ⟨server, member, hostEntries_values read⟩
  | loadAlerts =>
      obtain rfl : body = buildAlertsJson server.stores.alertManager := written
      obtain rfl := alerts_parsed finite parsed
      obtain ⟨_, rfl⟩ := Option.ite_none_right_eq_some.mp done |>.imp id Option.some.inj
      rw [Page.showAlerts, alertItems_values]
      refine ⟨shown.detail, shown.processes, shown.hosts, shown.rows, shown.summary, ?_,
        shown.chart⟩
      intro items panel
      exact ⟨server, member, (AlertPanel.shown.inj panel).symm⟩
  | loadHostDetail hostname =>
      have failed : detailItems (some value) = .error .typeError := by
        obtain ⟨looked, rfl | rfl⟩ := written
        · obtain rfl | ⟨metrics, rfl⟩ := detail_parsed finite parsed
          · exact detailItems_empty
          · exact detailItems_detail metrics
        · rw [history_parsed finite parsed]
          exact detailItems_array _
      rw [← Option.some.inj done, Page.showDetail, failed]
      exact shown.failDetail .typeError
  | loadHistory hostname =>
      obtain ⟨looked, routed, rfl⟩ := written
      obtain rfl := history_parsed finite parsed
      rw [← Option.some.inj done]
      obtain ⟨failure, _, same⟩ | ⟨values, points, array, _, same⟩ :=
        Page.showHistory_cases hostname
          (.array ((server.stores.historyStore.get looked).map pointValue)) page
      · rw [same]
        exact shown.dropHistory failure
      · rw [same]
        refine ⟨shown.detail, shown.processes, shown.hosts, shown.rows, shown.summary,
          shown.alerts, ?_⟩
        intro other count title
        cases title
        exact ⟨server, member, looked, routed, (Json.array.inj array).symm⟩

end Page

/-- The numbers, the answers and the bodies of the calls go with what the page shows. -/
structure Served (s : Site D threadCount) : Prop where
  numbered : s.page.Numbered
  drawn : s.page.Drawn
  current : s.server ∈ s.past
  unanswered : ∀ number, s.page.count ≤ number → s.answers number = none
  answers : ∀ suspended ∈ s.page.calls, ∀ document, s.answers suspended.number = some document →
    document.statusCode ≤ 299 →
      ∃ server ∈ s.past, WrittenFor server.stores document.body suspended.call
  bodies : ∀ suspended ∈ s.page.calls, ∀ body, suspended.awaits = .json body →
    ∃ server ∈ s.past, WrittenFor server.stores body suspended.call
  shown : Shown s.past s.page

/-- A step of the server adds its state to the past. -/
theorem served_ingest {s : Site D threadCount} (server : Ingest D threadCount)
    (known : Served s) : Served { s with server := server, past := s.past ++ [server] } := by
  have le : ∀ earlier ∈ s.past, earlier ∈ s.past ++ [server] := fun _ => List.mem_append_left _
  refine ⟨known.numbered, known.drawn, List.mem_append_right _ (List.mem_singleton.mpr rfl),
    known.unanswered, ?_, ?_, known.shown.mono le⟩
  · intro suspended member document answered ok
    obtain ⟨earlier, found, written⟩ := known.answers suspended member document answered ok
    exact ⟨earlier, le earlier found, written⟩
  · intro suspended member body awaits
    obtain ⟨earlier, found, written⟩ := known.bodies suspended member body awaits
    exact ⟨earlier, le earlier found, written⟩

/-- An answer is written from the current state. -/
theorem served_answer {s : Site D threadCount} {suspended : Suspended} {headers received : Bytes}
    (dashboardHtml : Bytes) (member : suspended ∈ s.page.calls)
    (front : received <+: request (target suspended.call.path) headers) (known : Served s) :
    Served { s with
      answers := Function.update s.answers suspended.number
        (some ((httpServer dashboardHtml s.server.stores).document (requestPath received))) } := by
  have small := known.numbered.below suspended member
  refine ⟨known.numbered, known.drawn, known.current, ?_, ?_, known.bodies, known.shown⟩
  · intro number large
    have other : number ≠ suspended.number := by
      rintro rfl
      exact absurd large (Nat.not_le.mpr small)
    exact (Function.update_of_ne other _ _).trans (known.unanswered number large)
  · intro asking found document answered ok
    dsimp only at answered found ⊢
    by_cases same : asking.number = suspended.number
    · obtain rfl := known.numbered.unique found member same
      rw [Function.update_self] at answered
      obtain rfl := Option.some.inj answered
      exact ⟨s.server, known.current, writtenFor_document dashboardHtml s.server.stores asking.call
        (requestPath_request (plainPath_call _) front) ok⟩
    · rw [Function.update_of_ne same] at answered
      exact known.answers asking found document answered ok

/-- Every event of the page keeps it faithful. -/
theorem shown_moved [LawfulDoubleStream D] {s : Site D threadCount} {event : Dashboard.Event}
    {next : Page} (moved : s.page.Moved event next) (known : Served s)
    (finite : ∀ server ∈ s.past, FiniteStores server.stores) : Shown s.past next := by
  have shown := known.shown
  cases moved with
  | timer _ call renews => exact shown.invoke call
  | clicked row host listed =>
      have selected : Shown s.past (s.page.select host.hostname) :=
        ⟨shown.detail, shown.processes, shown.hosts, ⟨_, rfl⟩, shown.summary, shown.alerts,
          shown.chart⟩
      exact (selected.invoke _).invoke _
  | resized =>
      rw [known.drawn.resized]
      exact shown
  | answered suspended member _ status ok body =>
      exact ⟨shown.detail, shown.processes, shown.hosts, shown.rows, shown.summary, shown.alerts,
        shown.chart⟩
  | failed _ suspended member failure _ => exact (shown.without _).fail failure _
  | finished suspended member body awaits value parsed _ done =>
      obtain ⟨server, found, written⟩ := known.bodies suspended member body awaits
      exact (shown.without _).finish found (finite server found) parsed written done

/-- An event of the page keeps account of the bodies. -/
theorem served_page [LawfulDoubleStream D] {s : Site D threadCount} {event : Dashboard.Event}
    {next : Page} (delivers : s.Delivers event) (taken : s.page.step event = some next)
    (known : Served s) (finite : ∀ server ∈ s.past, FiniteStores server.stores) :
    Served { s with page := next } := by
  have moved := Page.step_moved taken
  have shown := shown_moved moved known finite
  obtain ⟨ended, carried, drawn, _⟩ := Page.moved_effect moved known.numbered known.drawn
  have answered : ∀ suspended ∈ next.calls, ∀ document,
      s.answers suspended.number = some document → document.statusCode ≤ 299 →
        ∃ server ∈ s.past, WrittenFor server.stores document.body suspended.call := by
    intro suspended member document given ok
    obtain ⟨earlier, found, number, call, _⟩ | ⟨large, _⟩ := carried.origin suspended member
    · rw [← number] at given
      rw [← call]
      exact known.answers earlier found document given ok
    · rw [known.unanswered _ large] at given
      cases given
  refine ⟨carried.numbered known.numbered, drawn, known.current,
    fun number large => known.unanswered number (carried.count.trans large), answered, ?_, shown⟩
  intro suspended member body awaits
  obtain earlier | ⟨status, ⟨_, ok⟩, rfl, _⟩ := carried.bodies suspended member body awaits
  · exact known.bodies suspended earlier body awaits
  · obtain ⟨document, given, same⟩ := Option.map_eq_some_iff.mp delivers
    obtain ⟨rfl, rfl⟩ := Prod.mk.inj same
    exact answered suspended member document given ok

end LMonitor.Site

namespace LMonitor.SiteRun
open Library HttpServer Dashboard Site
open AlertManager (getActiveAlerts)
variable {D : Type} [DoubleText D] [DoubleStream D]

/-- The server took the state after some steps of its own. -/
def Reached (r : SiteRun D) (server : Ingest D r.threadCount) : Prop :=
  ∃ actions, run Ingest.step (Ingest.start r.threadCount r.maxQueueSize
    (Stores.construct r.maxPointsPerHost r.fireDuration r.cpuThreshold r.memoryThreshold)
      r.incoming) actions = some server

/-- The stores of the server hold finite doubles only. -/
theorem Reached.finite [LawfulDouble D] {r : SiteRun D} {server : Ingest D r.threadCount}
    (reached : r.Reached server) : FiniteStores server.stores := by
  obtain ⟨actions, taken⟩ := reached
  exact finite_ingest ⟨⟨r.threadCount, r.maxQueueSize, r.maxPointsPerHost, r.fireDuration,
    r.cpuThreshold, r.memoryThreshold, r.incoming, actions, server, taken⟩, r.cpuFinite,
    r.memoryFinite⟩

/-- The opened page shows nothing of the server. -/
theorem served_opened (r : SiteRun D) (server : Ingest D r.threadCount) :
    Served (Site.start server) := by
  refine ⟨Page.numbered_opened, Page.drawn_opened, List.mem_singleton.mpr rfl, fun _ _ => rfl,
    ?_, ?_, ?_⟩
  · intro suspended _ document answered
    cases answered
  · intro suspended member body awaits
    simp only [Site.start, Page.opened, Page.invoke, List.nil_append, List.cons_append,
      List.mem_cons, List.not_mem_nil, or_false] at member
    obtain rfl | rfl := member <;> cases awaits
  · exact ⟨fun _ panel => (by cases panel), rfl, .inl rfl, ⟨none, rfl⟩, rfl,
      fun _ panel => (by cases panel), fun _ _ title => by cases title⟩

/-- The page stays faithful to states that the server took. -/
theorem served [LawfulDouble D] [LawfulDoubleStream D] (r : SiteRun D) :
    Served r.final ∧ ∀ server ∈ r.final.past, r.Reached server := by
  apply run_invariant (step r.dashboardHtml)
    (fun s => Served s ∧ ∀ server ∈ s.past, r.Reached server) _ r.reached
  · refine ⟨r.served_opened _, fun server member => ?_⟩
    rw [List.mem_singleton.mp member]
    exact ⟨[], rfl⟩
  · intro s action next taken known
    obtain ⟨known, reached⟩ := known
    cases action with
    | ingest action =>
        obtain ⟨server, moved, rfl⟩ := Option.map_eq_some_iff.mp taken
        refine ⟨served_ingest server known, fun earlier member => ?_⟩
        obtain old | new := List.mem_append.mp member
        · exact reached earlier old
        · obtain ⟨actions, before⟩ := reached s.server known.current
          rw [List.mem_singleton.mp new]
          exact ⟨actions ++ [action], run_trans Ingest.step before
            ((run_cons_eq_some Ingest.step).mpr ⟨server, moved, rfl⟩)⟩
    | answer number headers received =>
        obtain ⟨suspended, found, given⟩ := Option.bind_eq_some_iff.mp taken
        obtain ⟨member, rfl⟩ := Page.suspended_mem found
        rw [Option.ite_none_right_eq_some, Option.some.injEq] at given
        obtain ⟨⟨_, front, _⟩, rfl⟩ := given
        exact ⟨served_answer r.dashboardHtml member front known, reached⟩
    | page event =>
        simp only [step, Option.ite_none_right_eq_some] at taken
        obtain ⟨delivers, taken⟩ := taken
        obtain ⟨page, moved, rfl⟩ := Option.map_eq_some_iff.mp taken
        exact ⟨served_page delivers moved known fun server member => (reached server member).finite,
          reached⟩

def loadStart : Site Int 1 :=
  Site.start (Ingest.start 1 1 Ingest.emptyStores [(Ingest.loadOfA 95).payload])

end LMonitor.SiteRun
