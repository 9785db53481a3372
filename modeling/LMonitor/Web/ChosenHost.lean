import LMonitor.Web.PageEvents

namespace LMonitor.Dashboard
open Library

/-- The call is about another host. -/
def Call.Foreign (hostname : Bytes) (call : Call) : Prop :=
  ∃ other, other ≠ hostname ∧ (call = .loadHostDetail other ∨ call = .loadHistory other)

namespace Page

/-- The events lead to the page, and then to this event. -/
def At (events : List Event) (page : Page) (event : Event) : Prop :=
  ∃ before after, events = before ++ event :: after ∧ run step opened before = some page

/-- While the call awaited its response, it came as a success with this body. -/
def Responded (events : List Event) (number : Nat) (call : Call) (body : Bytes) : Prop :=
  ∃ page status, At events page (.responded number status body) ∧
    (200 ≤ status ∧ status ≤ 299) ∧ ⟨number, call, .fetch⟩ ∈ page.calls

/-- The call failed at one of the events. -/
def Failed (events : List Event) (number : Nat) (call : Call) (failure : Failure) : Prop :=
  ∃ page event suspended, At events page event ∧ suspended ∈ page.calls ∧
    suspended.number = number ∧ suspended.call = call ∧ Fails suspended event failure

/-- The charts show the history in the response to this call, under the name of the host, or they
tell why the call brought none. -/
def ChartFrom (events : List Event) (number : Nat) (hostname : Bytes) (page : Page) : Prop :=
  (∃ body, Responded events number (.loadHistory hostname) body ∧
      historyOf body = .ok page.latestHistory ∧
      page.chartHostName = .current hostname page.latestHistory.length) ∨
    ∃ failure, page.chartHostName = .failed failure ∧
      (Failed events number (.loadHistory hostname) failure ∨
        ∃ body, Responded events number (.loadHistory hostname) body ∧
          historyOf body = .error failure)

section Origin
variable {events : List Event} {page next : Page} {number : Nat} {hostname : Bytes}

theorem At.mono {event : Event} (known : At events page event) (later : List Event) :
    At (events ++ later) page event := by
  obtain ⟨before, after, rfl, reached⟩ := known
  exact ⟨before, after ++ later, by simp, reached⟩

theorem at_last {event : Event} (reached : run step opened events = some page) :
    At (events ++ [event]) page event :=
  ⟨events, [], rfl, reached⟩

theorem Responded.mono {call : Call} {body : Bytes} (known : Responded events number call body)
    (later : List Event) : Responded (events ++ later) number call body := by
  obtain ⟨page, status, happened, rest⟩ := known
  exact ⟨page, status, happened.mono later, rest⟩

/-- Later events do not change where the charts come from. -/
theorem ChartFrom.mono (known : ChartFrom events number hostname page) (later : List Event) :
    ChartFrom (events ++ later) number hostname page := by
  obtain ⟨body, responded, shown⟩ | ⟨failure, title, failed | ⟨body, responded, none⟩⟩ := known
  · exact .inl ⟨body, responded.mono later, shown⟩
  · obtain ⟨asking, event, suspended, happened, rest⟩ := failed
    exact .inr ⟨failure, title, .inl ⟨asking, event, suspended, happened.mono later, rest⟩⟩
  · exact .inr ⟨failure, title, .inr ⟨body, responded.mono later, none⟩⟩

/-- The same charts come from the same call. -/
theorem ChartFrom.same (known : ChartFrom events number hostname page)
    (same : SameChart page next) : ChartFrom events number hostname next := by
  unfold ChartFrom
  rw [same.chartHostName, same.latestHistory]
  exact known

/-- The bodies that calls await came in responses to them, and the charts come from a call. -/
structure Traced (events : List Event) (page : Page) : Prop where
  reached : run step opened events = some page
  bodies : ∀ suspended ∈ page.calls, ∀ body, suspended.awaits = .json body →
    Responded events suspended.number suspended.call body
  title : page.chartHostName = .prompt ∨
    ∃ number hostname, ChartFrom events number hostname page

/-- A call for a history that ends draws what came in the response to it. -/
theorem Traced.charted (traced : Traced events page) {event : Event} {suspended : Suspended}
    (member : suspended ∈ page.calls) (history : suspended.call = .loadHistory hostname)
    (charted : Charted event suspended hostname next) :
    ChartFrom (events ++ [event]) suspended.number hostname next := by
  have came : ∀ body, suspended.awaits = .json body →
      Responded (events ++ [event]) suspended.number (.loadHistory hostname) body := by
    intro body awaits
    rw [← history]
    exact (traced.bodies suspended member body awaits).mono [event]
  obtain ⟨body, awaits, read, title⟩ | ⟨failure, title, fails | ⟨body, awaits, none⟩⟩ := charted
  · exact .inl ⟨body, came body awaits, read, title⟩
  · exact .inr ⟨failure, title, .inl ⟨page, event, suspended, at_last traced.reached, member, rfl,
      history, fails⟩⟩
  · exact .inr ⟨failure, title, .inr ⟨body, came body awaits, none⟩⟩

/-- Every event keeps the page traced. -/
theorem Traced.step (traced : Traced events page) {event : Event}
    (taken : page.step event = some next) : Traced (events ++ [event]) next := by
  obtain ⟨numbered, drawn⟩ := orderly traced.reached
  obtain ⟨ended, carried, _, shown⟩ := moved_effect (step_moved taken) numbered drawn
  refine ⟨?_, ?_, ?_⟩
  · exact run_trans Page.step traced.reached
      ((run_cons_eq_some Page.step).mpr ⟨next, taken, rfl⟩)
  · intro suspended member body awaits
    obtain earlier | ⟨status, ok, rfl, asked⟩ := carried.bodies suspended member body awaits
    · exact (traced.bodies suspended earlier body awaits).mono [event]
    · exact ⟨page, status, at_last traced.reached, ok, asked⟩
  · obtain ⟨same, _⟩ | ⟨suspended, member, hostname, history, _, charted⟩ := shown
    · obtain prompt | ⟨number, hostname, chart⟩ := traced.title
      · exact .inl (same.chartHostName.trans prompt)
      · exact .inr ⟨number, hostname, (chart.mono [event]).same same⟩
    · exact .inr ⟨suspended.number, hostname, traced.charted member history charted⟩

theorem traced_opened : Traced [] opened := by
  refine ⟨rfl, ?_, .inl rfl⟩
  intro suspended member body awaits
  simp only [opened, invoke, List.nil_append, List.cons_append, List.mem_cons,
    List.not_mem_nil, or_false] at member
  obtain rfl | rfl := member <;> cases awaits

/-- After any events, everything on the page comes from the responses to its calls. -/
theorem traced (reached : run step opened events = some page) : Traced events page :=
  run_history step Traced (fun _ _ _ _ taken known => known.step taken) reached traced_opened

end Origin

/-- The host is still selected after these events. -/
def keeping (hostname : Bytes) (page : Page) (event : Event) : Option Page :=
  (page.step event).filter fun next => next.selectedHostname = some hostname

/-- The page was opened, and after some events a host is selected. It stays selected while the
responses to all calls arrive or fail in any order. -/
structure Choice where
  past : List Event
  middle : Page
  reached : run step opened past = some middle
  hostname : Bytes
  later : List Event
  final : Page
  kept : run (keeping hostname) middle later = some final

/-- The call went on from the moment of the choice, or it was issued for the chosen host. -/
def Known (middle : Page) (hostname : Bytes) (suspended : Suspended) : Prop :=
  (∃ earlier ∈ middle.calls, earlier.number = suspended.number ∧ earlier.call = suspended.call) ∨
    middle.count ≤ suspended.number ∧ ¬ suspended.call.Foreign hostname

/-- The charts come from a call of the moment of the choice that has ended. -/
def Stale (middle : Page) (events : List Event) (page : Page) : Prop :=
  ∃ earlier ∈ middle.calls, ∃ other, earlier.call = .loadHistory other ∧
    ChartFrom events earlier.number other page ∧
    ∀ suspended ∈ page.calls, suspended.number ≠ earlier.number

/-- The charts of the chosen host arrive if no other history was under way. -/
def Arrives (middle : Page) (hostname : Bytes) (events : List Event) (page : Page) : Prop :=
  (∀ earlier ∈ middle.calls, ∀ other, earlier.call = .loadHistory other → other = hostname) →
    ∀ own ∈ middle.calls, own.call = .loadHistory hostname →
      (∃ suspended ∈ page.calls, suspended.number = own.number ∧ suspended.call = own.call) ∨
        ∃ number, ChartFrom events number hostname page

structure Kept (middle : Page) (hostname : Bytes) (events : List Event) (page : Page) : Prop where
  traced : Traced events page
  count : middle.count ≤ page.count
  known : ∀ suspended ∈ page.calls, Known middle hostname suspended
  chart : SameChart middle page ∨ (∃ number, ChartFrom events number hostname page) ∨
    Stale middle events page
  arrives : Arrives middle hostname events page

/-- A call that is issued for the selected host is not about another one. -/
theorem not_foreign_issued {hostname : Bytes} {page : Page} {call : Call}
    (selected : page.selectedHostname = some hostname) (issued : page.Issued call) :
    ¬ call.Foreign hostname := by
  rintro ⟨other, different, named⟩
  obtain rfl | rfl | ⟨host, chosen, rfl | rfl⟩ := issued
  · simp at named
  · simp at named
  · obtain rfl := Option.some.inj (selected.symm.trans chosen)
    simp at named
    exact different named.symm
  · obtain rfl := Option.some.inj (selected.symm.trans chosen)
    simp at named
    exact different named.symm

section Step
variable {middle page next : Page} {events : List Event} {event : Event} {hostname : Bytes}
  {brought : Suspended → Bytes → Prop} {ended : Option Nat}

/-- The calls stay known in every step. -/
theorem known_carried (kept : Kept middle hostname events page)
    (carried : Carried brought page next ended next.Issued)
    (selected : next.selectedHostname = some hostname) :
    ∀ suspended ∈ next.calls, Known middle hostname suspended := by
  intro suspended member
  obtain ⟨before, found, number, call, _⟩ | ⟨large, issued⟩ := carried.origin suspended member
  · obtain ⟨earlier, known, sameNumber, sameCall⟩ | ⟨large, own⟩ := kept.known before found
    · exact .inl ⟨earlier, known, sameNumber.trans number, sameCall.trans call⟩
    · exact .inr ⟨number ▸ large, call ▸ own⟩
  · exact .inr ⟨kept.count.trans large, not_foreign_issued selected issued⟩

/-- A number that no call has any more is not given again. -/
theorem gone_carried (numbered : Numbered middle) (kept : Kept middle hostname events page)
    (carried : Carried brought page next ended next.Issued) {earlier : Suspended}
    (member : earlier ∈ middle.calls)
    (gone : ended = some earlier.number ∨
      ∀ suspended ∈ page.calls, suspended.number ≠ earlier.number) :
    ∀ suspended ∈ next.calls, suspended.number ≠ earlier.number := by
  intro suspended found same
  obtain ⟨before, inPage, number, _, live⟩ | ⟨large, _⟩ := carried.origin suspended found
  · obtain finished | absent := gone
    · exact live (by rw [finished, ← same, number])
    · exact absent before inPage (number.trans same)
  · have small := numbered.below earlier member
    have grown := kept.count
    omega

/-- A history that ends is the chosen host's, or it was under way before. -/
theorem ended_history (kept : Kept middle hostname events page) {suspended : Suspended}
    (member : suspended ∈ page.calls) {other : Bytes}
    (history : suspended.call = .loadHistory other) :
    other = hostname ∨ ∃ earlier ∈ middle.calls, earlier.number = suspended.number ∧
      earlier.call = .loadHistory other := by
  obtain ⟨earlier, known, number, call⟩ | ⟨_, own⟩ := kept.known suspended member
  · exact .inr ⟨earlier, known, number, call.trans history⟩
  · by_cases same : other = hostname
    · exact .inl same
    · exact absurd ⟨other, same, .inr history⟩ own

/-- Every step under the choice keeps its promises. -/
theorem kept_step (numbered : Numbered middle)
    (taken : keeping hostname page event = some next) (kept : Kept middle hostname events page) :
    Kept middle hostname (events ++ [event]) next := by
  obtain ⟨taken, selected⟩ := Option.filter_eq_some_iff.mp taken
  have selected : next.selectedHostname = some hostname := of_decide_eq_true selected
  obtain ⟨ordered, drawn⟩ := orderly kept.traced.reached
  obtain ⟨ended, carried, _, shown⟩ := moved_effect (step_moved taken) ordered drawn
  refine ⟨kept.traced.step taken, kept.count.trans carried.count,
    known_carried kept carried selected, ?_, ?_⟩
  · obtain ⟨same, _⟩ | ⟨suspended, member, other, history, rfl, charted⟩ := shown
    · obtain unchanged | ⟨number, chart⟩ | ⟨earlier, known, other, history, chart, gone⟩ :=
        kept.chart
      · exact .inl (unchanged.trans same)
      · exact .inr (.inl ⟨number, (chart.mono [event]).same same⟩)
      · exact .inr (.inr ⟨earlier, known, other, history, (chart.mono [event]).same same,
          gone_carried numbered kept carried known (.inr gone)⟩)
    · have chart := kept.traced.charted member history charted
      obtain rfl | ⟨earlier, known, number, history⟩ := ended_history kept member history
      · exact .inr (.inl ⟨suspended.number, chart⟩)
      · exact .inr (.inr ⟨earlier, known, other, history, number ▸ chart,
          gone_carried numbered kept carried known (.inl (congrArg some number.symm))⟩)
  · intro alone own owned history
    obtain ⟨suspended, member, number, call⟩ | ⟨number, chart⟩ :=
      kept.arrives alone own owned history
    · by_cases finished : ended = some suspended.number
      · obtain ⟨_, others⟩ | ⟨last, found, other, named, _, charted⟩ := shown
        · exact absurd (call.trans history) (others suspended member finished hostname)
        · have chart := kept.traced.charted found named charted
          obtain rfl | ⟨earlier, known, _, before⟩ := ended_history kept found named
          · exact .inr ⟨last.number, chart⟩
          · exact .inr ⟨last.number, alone earlier known other before ▸ chart⟩
      · obtain ⟨later, found, sameNumber, sameCall⟩ := carried.stays suspended member finished
        exact .inl ⟨later, found, sameNumber.trans number, sameCall.trans call⟩
    · obtain ⟨same, _⟩ | ⟨last, found, other, named, _, charted⟩ := shown
      · exact .inr ⟨number, (chart.mono [event]).same same⟩
      · have renewed := kept.traced.charted found named charted
        obtain rfl | ⟨earlier, known, _, before⟩ := ended_history kept found named
        · exact .inr ⟨last.number, renewed⟩
        · exact .inr ⟨last.number, alone earlier known other before ▸ renewed⟩

end Step

/-- All events of the page. -/
def Choice.events (c : Choice) : List Event := c.past ++ c.later

/-- The charts show exactly the points in the response to a call for the history of the host that
their title tells, or the failure of a call. No call for another host is issued any more, and the
charts change only to those of the selected host or to those of a call that was under way at the
moment of the choice. If none of another host was, they are the selected host's once its call
ended. -/
structure Prevails (c : Choice) : Prop where
  drawn : Drawn c.final
  title : c.final.chartHostName = .prompt ∨
    ∃ number hostname, ChartFrom c.events number hostname c.final
  calls : ∀ suspended ∈ c.final.calls, suspended.call.Foreign c.hostname →
    ∃ earlier ∈ c.middle.calls, earlier.number = suspended.number ∧ earlier.call = suspended.call
  chart : SameChart c.middle c.final ∨ (∃ number, ChartFrom c.events number c.hostname c.final) ∨
    Stale c.middle c.events c.final
  arrives : (∀ earlier ∈ c.middle.calls, ∀ other, earlier.call = .loadHistory other →
      other = c.hostname) →
    ∀ own ∈ c.middle.calls, own.call = .loadHistory c.hostname →
      (∀ suspended ∈ c.final.calls, suspended.number ≠ own.number) →
        ∃ number, ChartFrom c.events number c.hostname c.final

/-- A selected host prevails in whatever order the responses arrive. -/
theorem chosen_host_prevails (c : Choice) : Prevails c := by
  have start : Kept c.middle c.hostname c.past c.middle := by
    refine ⟨traced c.reached, le_rfl, ?_, .inl (SameChart.refl _), ?_⟩
    · exact fun suspended member => .inl ⟨suspended, member, rfl, rfl⟩
    · exact fun _ own owned _ => .inl ⟨own, owned, rfl, rfl⟩
  have kept : Kept c.middle c.hostname c.events c.final := by
    apply run_history (keeping c.hostname)
      (fun later page => Kept c.middle c.hostname (c.past ++ later) page) _ c.kept
      ((List.append_nil c.past).symm ▸ start)
    intro later page event next taken known
    rw [← List.append_assoc]
    exact kept_step (orderly c.reached).1 taken known
  refine ⟨(orderly kept.traced.reached).2, kept.traced.title, ?_, kept.chart, ?_⟩
  · intro suspended member foreign
    obtain earlier | ⟨_, own⟩ := kept.known suspended member
    · exact earlier
    · exact absurd foreign own
  · intro alone own owned history gone
    obtain ⟨suspended, member, number, _⟩ | chart := kept.arrives alone own owned history
    · exact absurd number (gone suspended member)
    · exact chart

/-- The first of two hosts is selected, and the user clicks on the second. -/
def loadPast : List Event :=
  [.responded 0 200 (ascii "[\x7b\"hostname\":\"a\"\x7d,\x7b\"hostname\":\"b\"\x7d]"), .read 0,
    .click 1]

theorem loadPast_runs : (run step opened loadPast).isSome = true := by decide +kernel

def loadMiddle : Page := (run step opened loadPast).get loadPast_runs

/-- The history of the first host comes behind that of the second. -/
def loadLater : List Event :=
  [.responded 5 200 (ascii "[\x7b\"timestamp\":7,\"cpu\":2,\"memory\":3\x7d]"), .read 5,
    .responded 3 200 (ascii "[]"), .read 3, .refreshHosts, .rejected 4]

theorem loadLater_runs : (run (keeping (ascii "b")) loadMiddle loadLater).isSome = true := by
  decide +kernel

def loadChoice : Choice where
  past := loadPast
  middle := loadMiddle
  reached := (Option.some_get loadPast_runs).symm
  hostname := ascii "b"
  later := loadLater
  final := (run (keeping (ascii "b")) loadMiddle loadLater).get loadLater_runs
  kept := (Option.some_get loadLater_runs).symm

/-- The history of the first host hides that of the second one. -/
theorem chosen_host_prevails_load : Prevails loadChoice := chosen_host_prevails loadChoice

end Page
end LMonitor.Dashboard
