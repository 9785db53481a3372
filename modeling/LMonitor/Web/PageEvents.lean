import LMonitor.Library.Machine
import LMonitor.Web.Page

namespace LMonitor.Dashboard
open Library

namespace Page

/-- The promise of a call is rejected, its response is no success, or its body is no JSON. -/
inductive Fails (suspended : Suspended) : Event → Failure → Prop where
  | rejected : Fails suspended (.rejected suspended.number) .rejected
  | http (awaits : suspended.awaits = .fetch) (status : Nat) (body : Bytes)
      (bad : ¬ (200 ≤ status ∧ status ≤ 299)) :
      Fails suspended (.responded suspended.number status body) (.http status)
  | malformed (body : Bytes) (awaits : suspended.awaits = .json body)
      (bad : Json.parse body = none) : Fails suspended (.read suspended.number) .syntaxError

/-- These are the possible effects of an event. -/
inductive Moved (page : Page) : Event → Page → Prop where
  | timer (event : Event) (call : Call) (renews : call = .loadHosts ∨ call = .loadAlerts) :
      Moved page event (page.invoke call)
  | clicked (row : Nat) (host : HostEntry) (listed : host ∈ page.hosts) :
      Moved page (.click row) ((page.select host.hostname).loadHost host.hostname)
  | resized : Moved page .resize (page.renderCharts.toOption.getD page)
  | answered (suspended : Suspended) (member : suspended ∈ page.calls)
      (awaits : suspended.awaits = .fetch) (status : Nat) (ok : 200 ≤ status ∧ status ≤ 299)
      (body : Bytes) :
      Moved page (.responded suspended.number status body)
        { page with calls := page.calls.map (Suspended.answer suspended.number body) }
  | failed (event : Event) (suspended : Suspended) (member : suspended ∈ page.calls)
      (failure : Failure) (fails : Fails suspended event failure) :
      Moved page event ((page.without suspended.number).fail failure suspended.call)
  | finished (suspended : Suspended) (member : suspended ∈ page.calls) (body : Bytes)
      (awaits : suspended.awaits = .json body) (value : Json)
      (parsed : Json.parse body = some value) (next : Page)
      (done : (page.without suspended.number).finish value suspended.call = some next) :
      Moved page (.read suspended.number) next

theorem suspended_mem {page : Page} {number : Nat} {suspended : Suspended}
    (found : page.suspended? number = some suspended) :
    suspended ∈ page.calls ∧ suspended.number = number :=
  ⟨List.mem_of_find?_eq_some found, by simpa using List.find?_some found⟩

/-- Every event has one of the effects. -/
theorem step_moved {page next : Page} {event : Event} (taken : page.step event = some next) :
    Moved page event next := by
  cases event with
  | refreshHosts => exact Option.some.inj taken ▸ .timer _ _ (.inl rfl)
  | refreshAlerts => exact Option.some.inj taken ▸ .timer _ _ (.inr rfl)
  | click row =>
      obtain ⟨host, found, rfl⟩ := Option.map_eq_some_iff.mp taken
      exact .clicked row host (List.mem_of_getElem? found)
  | resize => exact Option.some.inj taken ▸ .resized
  | responded number status body =>
      obtain ⟨suspended, found, reply⟩ := Option.bind_eq_some_iff.mp taken
      obtain ⟨member, rfl⟩ := suspended_mem found
      split at reply
      case h_2 => cases reply
      case h_1 awaits =>
        rw [Option.ite_none_right_eq_some] at reply
        rw [← Option.some.inj reply.2, respond]
        split
        case isTrue ok => exact .answered suspended member awaits status ok body
        case isFalse bad => exact .failed _ suspended member _ (.http awaits status body bad)
  | read number =>
      obtain ⟨suspended, found, reply⟩ := Option.bind_eq_some_iff.mp taken
      obtain ⟨member, rfl⟩ := suspended_mem found
      split at reply
      case h_1 => cases reply
      case h_2 body awaits =>
        unfold read at reply
        split at reply
        case h_1 malformed =>
          rw [← Option.some.inj reply]
          exact .failed _ suspended member _ (.malformed body awaits malformed)
        case h_2 value parsed =>
          exact .finished suspended member body awaits value parsed next reply
  | rejected number =>
      obtain ⟨suspended, found, rfl⟩ := Option.map_eq_some_iff.mp taken
      obtain ⟨member, rfl⟩ := suspended_mem found
      exact .failed _ suspended member _ .rejected

/-- The calls have different numbers, and new calls get larger ones. -/
structure Numbered (page : Page) : Prop where
  distinct : (page.calls.map Suspended.number).Nodup
  below : ∀ suspended ∈ page.calls, suspended.number < page.count

/-- A number belongs to one call. -/
theorem Numbered.unique {page : Page} (known : Numbered page) {one other : Suspended}
    (first : one ∈ page.calls) (second : other ∈ page.calls) (same : one.number = other.number) :
    one = other :=
  List.inj_on_of_nodup_map known.distinct first second same

/-- The two pages show the same charts. -/
structure SameChart (before after : Page) : Prop where
  chartHostName : after.chartHostName = before.chartHostName
  latestHistory : after.latestHistory = before.latestHistory
  cpuCurrent : after.cpuCurrent = before.cpuCurrent
  memoryCurrent : after.memoryCurrent = before.memoryCurrent
  points : after.points = before.points

theorem SameChart.refl (page : Page) : SameChart page page := ⟨rfl, rfl, rfl, rfl, rfl⟩

theorem SameChart.trans {first second third : Page} (one : SameChart first second)
    (two : SameChart second third) : SameChart first third :=
  ⟨two.chartHostName.trans one.chartHostName, two.latestHistory.trans one.latestHistory,
    two.cpuCurrent.trans one.cpuCurrent, two.memoryCurrent.trans one.memoryCurrent,
    two.points.trans one.points⟩

/-- The charts show the points of the history that the title tells. -/
structure Drawn (page : Page) : Prop where
  points : page.latestHistory.mapM chartPoint = .ok page.points
  cpuCurrent : page.cpuCurrent = page.points.getLast?.map fun point => .percent point.cpu
  memoryCurrent : page.memoryCurrent = page.points.getLast?.map fun point => .percent point.memory
  current : ∀ hostname count, page.chartHostName = .current hostname count →
    count = page.latestHistory.length
  otherwise : (∀ hostname count, page.chartHostName ≠ .current hostname count) →
    page.latestHistory = []

theorem Drawn.same {before after : Page} (drawn : Drawn before) (same : SameChart before after) :
    Drawn after := by
  constructor
  · rw [same.latestHistory, same.points]
    exact drawn.points
  · rw [same.cpuCurrent, same.points]
    exact drawn.cpuCurrent
  · rw [same.memoryCurrent, same.points]
    exact drawn.memoryCurrent
  · rw [same.chartHostName, same.latestHistory]
    exact drawn.current
  · rw [same.chartHostName, same.latestHistory]
    exact drawn.otherwise

theorem drawn_dropHistory (failure : Failure) (page : Page) : Drawn (page.dropHistory failure) := by
  constructor
  · rfl
  · rfl
  · rfl
  · intro hostname count same
    cases same
  · exact fun _ => rfl

/-- A history is a list of points. -/
def pointsOf : Json → Except Failure (List Json)
  | .array points => (points.mapM chartPoint).map fun _ => points
  | _ => .error .typeError

/-- The body of a response tells a history, or it fails to. -/
def historyOf (body : Bytes) : Except Failure (List Json) :=
  match Json.parse body with
  | none => .error .syntaxError
  | some history => pointsOf history

theorem historyOf_parsed {body : Bytes} {history : Json} (parsed : Json.parse body = some history) :
    historyOf body = pointsOf history := by
  rw [historyOf, parsed]

/-- A history is shown under the name of its host, or its failure is shown. -/
theorem showHistory_cases (hostname : Bytes) (history : Json) (page : Page) :
    (∃ failure, pointsOf history = .error failure ∧
        page.showHistory hostname history = page.dropHistory failure) ∨
      ∃ values points, history = .array values ∧ values.mapM chartPoint = .ok points ∧
        page.showHistory hostname history = { page with
          latestHistory := values
          chartHostName := .current hostname values.length
          cpuCurrent := points.getLast?.map fun point => .percent point.cpu
          memoryCurrent := points.getLast?.map fun point => .percent point.memory
          points := points } := by
  unfold showHistory
  split
  case h_2 other =>
    refine .inl ⟨_, ?_, rfl⟩
    unfold pointsOf
    split
    · exact absurd rfl (other _)
    · rfl
  case h_1 values =>
    cases charted : values.mapM chartPoint with
    | error failure =>
        refine .inl ⟨failure, by rw [pointsOf, charted]; rfl, ?_⟩
        simp only [renderCharts, charted]
        rfl
    | ok points =>
        exact .inr ⟨values, points, rfl, charted, by simp only [renderCharts, charted]; rfl⟩

theorem drawn_showHistory (hostname : Bytes) (history : Json) (page : Page) :
    Drawn (page.showHistory hostname history) := by
  obtain ⟨failure, _, shown⟩ | ⟨values, points, _, charted, shown⟩ :=
    showHistory_cases hostname history page
  · rw [shown]
    exact drawn_dropHistory failure page
  · rw [shown]
    refine ⟨charted, rfl, rfl, ?_, fun none => absurd rfl (none hostname values.length)⟩
    rintro other count same
    cases same
    rfl

/-- Drawing the charts again changes nothing. -/
theorem Drawn.resized {page : Page} (drawn : Drawn page) :
    page.renderCharts.toOption.getD page = page := by
  have again : page.renderCharts = .ok page := by
    simp only [renderCharts, drawn.points]
    show Except.ok _ = _
    rw [← drawn.cpuCurrent, ← drawn.memoryCurrent]
  rw [again]
  rfl

/-- The event is a successful response that brings the body of a call. -/
def Brings (event : Event) (page : Page) (suspended : Suspended) (body : Bytes) : Prop :=
  ∃ status, (200 ≤ status ∧ status ≤ 299) ∧ event = .responded suspended.number status body ∧
    ⟨suspended.number, suspended.call, .fetch⟩ ∈ page.calls

/-- Calls go on under their numbers, except for the one that ends, and new calls are issued. A call
gets a body only if it was brought. -/
structure Carried (brought : Suspended → Bytes → Prop) (page next : Page) (ended : Option Nat)
    (issued : Call → Prop) : Prop where
  numbered : Numbered page → Numbered next
  count : page.count ≤ next.count
  origin : ∀ suspended ∈ next.calls,
    (∃ earlier ∈ page.calls, earlier.number = suspended.number ∧ earlier.call = suspended.call ∧
      ended ≠ some earlier.number) ∨ page.count ≤ suspended.number ∧ issued suspended.call
  stays : ∀ earlier ∈ page.calls, ended ≠ some earlier.number →
    ∃ suspended ∈ next.calls, suspended.number = earlier.number ∧ suspended.call = earlier.call
  bodies : ∀ suspended ∈ next.calls, ∀ body, suspended.awaits = .json body →
    suspended ∈ page.calls ∨ brought suspended body

section Carrying
variable {event : Event} {brought : Suspended → Bytes → Prop}

/-- Calls are issued after one has ended. -/
theorem Carried.trans {first second third : Page} {ended : Option Nat} {issued : Call → Prop}
    (one : Carried brought first second ended issued)
    (two : Carried (fun _ _ => False) second third none issued) :
    Carried brought first third ended issued := by
  constructor
  · exact fun known => two.numbered (one.numbered known)
  · exact one.count.trans two.count
  · intro suspended member
    obtain ⟨middle, found, number, call, _⟩ | ⟨large, new⟩ := two.origin suspended member
    · obtain ⟨earlier, known, sameNumber, sameCall, live⟩ | ⟨large, new⟩ := one.origin middle found
      · exact .inl ⟨earlier, known, sameNumber.trans number, sameCall.trans call, live⟩
      · exact .inr ⟨number ▸ large, call ▸ new⟩
    · exact .inr ⟨one.count.trans large, new⟩
  · intro earlier member live
    obtain ⟨middle, found, number, call⟩ := one.stays earlier member live
    obtain ⟨suspended, last, sameNumber, sameCall⟩ := two.stays middle found (by simp)
    exact ⟨suspended, last, sameNumber.trans number, sameCall.trans call⟩
  · intro suspended member body awaits
    obtain earlier | nothing := two.bodies suspended member body awaits
    · exact one.bodies suspended earlier body awaits
    · exact nothing.elim

theorem carried_same {page next : Page} {issued : Call → Prop} (calls : next.calls = page.calls)
    (count : next.count = page.count) : Carried brought page next none issued := by
  constructor
  · exact fun known => ⟨calls ▸ known.distinct, by rw [calls, count]; exact known.below⟩
  · exact count.ge
  · intro suspended member
    exact .inl ⟨suspended, calls ▸ member, rfl, rfl, by simp⟩
  · intro earlier member _
    exact ⟨earlier, calls ▸ member, rfl, rfl⟩
  · exact fun suspended member _ _ => .inl (calls ▸ member)

/-- A new call is issued under the next number. -/
theorem carried_invoke (page : Page) {call : Call} {issued : Call → Prop} (allowed : issued call) :
    Carried brought page (page.invoke call) none issued := by
  constructor
  · intro known
    constructor
    · simp only [invoke, List.map_append, List.map_cons, List.map_nil]
      apply List.Nodup.append known.distinct (List.nodup_singleton _)
      intro number member new
      obtain ⟨suspended, inCalls, rfl⟩ := List.mem_map.mp member
      exact absurd (known.below suspended inCalls) (by rw [List.mem_singleton.mp new]; omega)
    · intro suspended member
      obtain old | new := List.mem_append.mp member
      · exact (known.below suspended old).trans (Nat.lt_succ_self _)
      · rw [List.mem_singleton.mp new]
        exact Nat.lt_succ_self _
  · exact Nat.le_succ _
  · intro suspended member
    obtain old | new := List.mem_append.mp member
    · exact .inl ⟨suspended, old, rfl, rfl, by simp⟩
    · rw [List.mem_singleton.mp new]
      exact .inr ⟨le_rfl, allowed⟩
  · intro earlier member _
    exact ⟨earlier, List.mem_append_left _ member, rfl, rfl⟩
  · intro suspended member body awaits
    obtain old | new := List.mem_append.mp member
    · exact .inl old
    · rw [List.mem_singleton.mp new] at awaits
      cases awaits

/-- A call that ends leaves the others alone. -/
theorem carried_without (page : Page) (number : Nat) (issued : Call → Prop) :
    Carried brought page (page.without number) (some number) issued := by
  constructor
  · intro known
    constructor
    · exact known.distinct.sublist (List.filter_sublist.map _)
    · exact fun suspended member => known.below suspended (List.mem_of_mem_filter member)
  · exact le_rfl
  · intro suspended member
    obtain ⟨old, other⟩ := List.mem_filter.mp member
    refine .inl ⟨suspended, old, rfl, rfl, ?_⟩
    simpa using Ne.symm (of_decide_eq_true other)
  · intro earlier member live
    have other : earlier.number ≠ number := fun same => live (congrArg some same.symm)
    exact ⟨earlier, List.mem_filter.mpr ⟨member, decide_eq_true other⟩, rfl, rfl⟩
  · exact fun suspended member _ _ => .inl (List.mem_of_mem_filter member)

/-- The response brings the body of its own call. -/
theorem carried_answered {page : Page} (numbered : Numbered page) {asked : Suspended}
    (asks : asked ∈ page.calls) (awaiting : asked.awaits = .fetch) {status : Nat}
    (ok : 200 ≤ status ∧ status ≤ 299) (body : Bytes) (issued : Call → Prop) :
    Carried (Brings (.responded asked.number status body) page) page
      { page with calls := page.calls.map (Suspended.answer asked.number body) } none issued := by
  constructor
  · intro known
    constructor
    · simpa [Function.comp_def] using known.distinct
    · intro suspended member
      obtain ⟨other, old, rfl⟩ := List.mem_map.mp member
      rw [Suspended.answer_number]
      exact known.below other old
  · exact le_rfl
  · intro suspended member
    obtain ⟨other, old, rfl⟩ := List.mem_map.mp member
    exact .inl ⟨other, old, by simp, by simp, by simp⟩
  · intro earlier member _
    exact ⟨_, List.mem_map_of_mem member, by simp, by simp⟩
  · intro suspended member text awaits
    obtain ⟨other, old, rfl⟩ := List.mem_map.mp member
    unfold Suspended.answer at awaits ⊢
    split at awaits
    case isTrue same =>
      rw [if_pos same]
      cases awaits
      obtain rfl := numbered.unique old asks same
      obtain ⟨number, call, state⟩ := other
      obtain rfl : state = .fetch := awaiting
      exact .inr ⟨status, ok, rfl, old⟩
    case isFalse apart =>
      rw [if_neg apart]
      exact .inl old

/-- Of the calls, only the timers' own and those of the selected host are issued. -/
def Issued (page : Page) (call : Call) : Prop :=
  call = .loadHosts ∨ call = .loadAlerts ∨ ∃ hostname, page.selectedHostname = some hostname ∧
    (call = .loadHostDetail hostname ∨ call = .loadHistory hostname)

/-- The calls for the selected host are issued. -/
theorem carried_loadHost {page : Page} {hostname : Bytes}
    (selected : page.selectedHostname = some hostname) :
    Carried brought page (page.loadHost hostname) none (page.loadHost hostname).Issued :=
  (carried_invoke page (.inr (.inr ⟨hostname, selected, .inl rfl⟩))).trans
    (carried_invoke _ (.inr (.inr ⟨hostname, selected, .inr rfl⟩)))

/-- The list of hosts changes no chart, and calls are issued for the host that is then selected. -/
theorem showHosts_effect (hosts : List HostEntry) (page : Page) :
    SameChart page (page.showHosts hosts) ∧
      Carried brought page (page.showHosts hosts) none (page.showHosts hosts).Issued := by
  have first : SameChart page ((page.listHosts hosts).selectFirst hosts) ∧
      ((page.listHosts hosts).selectFirst hosts).calls = page.calls ∧
      ((page.listHosts hosts).selectFirst hosts).count = page.count := by
    unfold selectFirst
    split <;> exact ⟨⟨rfl, rfl, rfl, rfl, rfl⟩, rfl, rfl⟩
  obtain ⟨same, calls, count⟩ := first
  unfold showHosts loadSelected
  split
  · exact ⟨same, carried_same calls count⟩
  case h_2 hostname selected =>
    exact ⟨same.trans ⟨rfl, rfl, rfl, rfl, rfl⟩, (carried_same calls count).trans
      (carried_loadHost (Option.mem_filter_iff.mp selected).1)⟩

/-- The charts show the history that the call read, or they tell why there is none. -/
def Charted (event : Event) (suspended : Suspended) (hostname : Bytes) (next : Page) : Prop :=
  (∃ body, suspended.awaits = .json body ∧ historyOf body = .ok next.latestHistory ∧
      next.chartHostName = .current hostname next.latestHistory.length) ∨
    ∃ failure, next.chartHostName = .failed failure ∧
      (Fails suspended event failure ∨
        ∃ body, suspended.awaits = .json body ∧ historyOf body = .error failure)

/-- A shown history is the one in the body. -/
theorem charted_showHistory {suspended : Suspended} {body : Bytes} {history : Json}
    (awaits : suspended.awaits = .json body) (parsed : Json.parse body = some history)
    (hostname : Bytes) (page : Page) :
    Charted event suspended hostname (page.showHistory hostname history) := by
  have told := historyOf_parsed parsed
  obtain ⟨failure, none, shown⟩ | ⟨values, points, rfl, charted, shown⟩ :=
    showHistory_cases hostname history page
  · rw [shown]
    exact .inr ⟨failure, rfl, .inr ⟨body, awaits, told.trans none⟩⟩
  · rw [shown]
    refine .inl ⟨body, awaits, told.trans ?_, rfl⟩
    rw [pointsOf, charted]
    rfl

theorem showHistory_calls (hostname : Bytes) (history : Json) (page : Page) :
    (page.showHistory hostname history).calls = page.calls ∧
      (page.showHistory hostname history).count = page.count := by
  obtain ⟨failure, _, shown⟩ | ⟨values, points, _, _, shown⟩ :=
    showHistory_cases hostname history page
  · rw [shown]
    exact ⟨rfl, rfl⟩
  · rw [shown]
    exact ⟨rfl, rfl⟩

theorem fail_calls (failure : Failure) (page : Page) (call : Call) :
    (page.fail failure call).calls = page.calls ∧ (page.fail failure call).count = page.count := by
  cases call <;> exact ⟨rfl, rfl⟩

/-- An event ends one call at most, and only the end of a history changes the charts. -/
def Effect (event : Event) (page next : Page) : Prop :=
  ∃ ended, Carried (Brings event page) page next ended next.Issued ∧ Drawn next ∧
    (SameChart page next ∧
        (∀ suspended ∈ page.calls, ended = some suspended.number →
          ∀ hostname, suspended.call ≠ .loadHistory hostname) ∨
      ∃ suspended ∈ page.calls, ∃ hostname, suspended.call = .loadHistory hostname ∧
        ended = some suspended.number ∧ Charted event suspended hostname next)

theorem without_chart (page : Page) (number : Nat) : SameChart page (page.without number) :=
  ⟨rfl, rfl, rfl, rfl, rfl⟩

/-- A call that ends without a history leaves the charts alone. -/
theorem effect_ended {page next : Page} {suspended : Suspended} (numbered : Numbered page)
    (drawn : Drawn page) (member : suspended ∈ page.calls)
    (carried : Carried (Brings event page) page next (some suspended.number) next.Issued)
    (same : SameChart page next) (other : ∀ hostname, suspended.call ≠ .loadHistory hostname) :
    Effect event page next := by
  refine ⟨_, carried, drawn.same same, .inl ⟨same, ?_⟩⟩
  intro ending found number
  rw [← numbered.unique member found (Option.some.inj number)]
  exact other

/-- A call that fails has one of the effects. -/
theorem effect_failed {page : Page} {suspended : Suspended} (numbered : Numbered page)
    (drawn : Drawn page) (member : suspended ∈ page.calls) {failure : Failure}
    (fails : Fails suspended event failure) :
    Effect event page ((page.without suspended.number).fail failure suspended.call) := by
  obtain ⟨calls, count⟩ := fail_calls failure (page.without suspended.number) suspended.call
  have carried : Carried (Brings event page) page
      ((page.without suspended.number).fail failure suspended.call) (some suspended.number)
      ((page.without suspended.number).fail failure suspended.call).Issued :=
    (carried_without page suspended.number _).trans (carried_same calls count)
  cases call : suspended.call with
  | loadHistory hostname =>
      rw [call] at carried
      exact ⟨_, carried, drawn_dropHistory failure _, .inr ⟨suspended, member, hostname, call, rfl,
        .inr ⟨failure, rfl, .inl fails⟩⟩⟩
  | loadHosts | loadAlerts | loadHostDetail hostname =>
      rw [call] at carried
      exact effect_ended numbered drawn member carried ⟨rfl, rfl, rfl, rfl, rfl⟩ (by simp [call])

/-- A call that reads its body has one of the effects. -/
theorem effect_finished {page next : Page} {suspended : Suspended} {body : Bytes} {value : Json}
    (numbered : Numbered page) (drawn : Drawn page) (member : suspended ∈ page.calls)
    (awaits : suspended.awaits = .json body) (parsed : Json.parse body = some value)
    (done : (page.without suspended.number).finish value suspended.call = some next) :
    Effect event page next := by
  have ended : Carried (Brings event page) page (page.without suspended.number)
      (some suspended.number) next.Issued := carried_without page suspended.number _
  cases call : suspended.call with
  | loadHosts =>
      rw [call] at done
      unfold finish at done
      dsimp only at done
      split at done
      case h_2 => cases done
      case h_1 values =>
        obtain ⟨hosts, _, rfl⟩ := Option.map_eq_some_iff.mp done
        obtain ⟨same, carried⟩ := showHosts_effect hosts (page.without suspended.number)
        exact effect_ended numbered drawn member (ended.trans carried)
          ((without_chart page _).trans same) (by simp [call])
  | loadAlerts =>
      rw [call] at done
      unfold finish at done
      dsimp only at done
      split at done
      case h_2 => cases done
      case h_1 values =>
        rw [Option.ite_none_right_eq_some, Option.some.injEq] at done
        rw [← done.2] at ended ⊢
        exact effect_ended numbered drawn member (ended.trans (carried_same rfl rfl))
          ⟨rfl, rfl, rfl, rfl, rfl⟩ (by simp [call])
  | loadHostDetail hostname =>
      rw [call] at done
      have shown : SameChart (page.without suspended.number) next ∧
          next.calls = (page.without suspended.number).calls ∧
          next.count = (page.without suspended.number).count := by
        rw [← Option.some.inj done, showDetail]
        split
        · exact ⟨⟨rfl, rfl, rfl, rfl, rfl⟩, rfl, rfl⟩
        · split <;> exact ⟨⟨rfl, rfl, rfl, rfl, rfl⟩, rfl, rfl⟩
      obtain ⟨same, calls, count⟩ := shown
      exact effect_ended numbered drawn member (ended.trans (carried_same calls count))
        ((without_chart page _).trans same) (by simp [call])
  | loadHistory hostname =>
      rw [call] at done
      obtain rfl := Option.some.inj done
      obtain ⟨calls, count⟩ := showHistory_calls hostname value (page.without suspended.number)
      exact ⟨_, ended.trans (carried_same calls count), drawn_showHistory hostname value _,
        .inr ⟨suspended, member, hostname, call, rfl, charted_showHistory awaits parsed hostname _⟩⟩

/-- Every event has such an effect. -/
theorem moved_effect {page next : Page} (moved : Moved page event next) (numbered : Numbered page)
    (drawn : Drawn page) : Effect event page next := by
  have quiet : ∀ after : Page, Carried (Brings event page) page after none after.Issued →
      SameChart page after → Effect event page after := by
    intro after carried same
    exact ⟨none, carried, drawn.same same, .inl ⟨same, fun _ _ ended => by cases ended⟩⟩
  cases moved with
  | timer _ call renews =>
      apply quiet _ (carried_invoke page _) ⟨rfl, rfl, rfl, rfl, rfl⟩
      obtain rfl | rfl := renews
      · exact .inl rfl
      · exact .inr (.inl rfl)
  | clicked row host listed =>
      have selected : Carried (Brings (.click row) page) page (page.select host.hostname) none
          ((page.select host.hostname).loadHost host.hostname).Issued := carried_same rfl rfl
      exact quiet _ (selected.trans (carried_loadHost rfl)) ⟨rfl, rfl, rfl, rfl, rfl⟩
  | resized =>
      rw [drawn.resized]
      exact quiet _ (carried_same rfl rfl) (SameChart.refl page)
  | answered suspended member awaits status ok body =>
      exact quiet _ (carried_answered numbered member awaits ok body _) ⟨rfl, rfl, rfl, rfl, rfl⟩
  | failed _ suspended member failure fails => exact effect_failed numbered drawn member fails
  | finished suspended member body awaits value parsed _ done =>
      exact effect_finished numbered drawn member awaits parsed done

end Carrying

theorem numbered_opened : Numbered opened := by
  constructor
  · decide
  · intro suspended member
    simp only [opened, invoke, List.nil_append, List.cons_append, List.mem_cons,
      List.not_mem_nil, or_false] at member
    obtain rfl | rfl := member <;> decide

theorem drawn_opened : Drawn opened := by
  refine ⟨rfl, rfl, rfl, ?_, fun _ => rfl⟩
  intro hostname count same
  cases same

/-- The numbers are in order and the charts are drawn after any events. -/
theorem orderly {trace : List Event} {page : Page} (reached : run step opened trace = some page) :
    Numbered page ∧ Drawn page := by
  apply run_invariant step (fun page => Numbered page ∧ Drawn page) _ reached
    ⟨numbered_opened, drawn_opened⟩
  intro page event next taken known
  obtain ⟨ended, carried, drawn, _⟩ := moved_effect (step_moved taken) known.1 known.2
  exact ⟨carried.numbered known.1, drawn⟩

end Page
end LMonitor.Dashboard
