import LMonitor.Store.TimeLog

namespace LMonitor.StoreCalls
open Library
variable {Caller D : Type} [DecidableEq Caller] [Double D]

/-- The threads start their calls from empty stores. -/
structure StoreRun (Caller D : Type) [DecidableEq Caller] [Double D] where
  clock : Int
  maxPointsPerHost : Nat
  trace : List (Action Caller D)
  final : StoreCalls Caller D
  reached : run step (start clock maxPointsPerHost) trace = some final

namespace StoreRun

def first (r : StoreRun Caller D) : StoreCalls Caller D := start r.clock r.maxPointsPerHost

/-- The constructor of the history store replaces zero. -/
def limit (r : StoreRun Caller D) : Nat :=
  (MetricsHistoryStore.construct r.maxPointsPerHost : MetricsHistoryStore D).maxPointsPerHost

/-- The run passes through this state after this part of its trace. -/
def Passes (r : StoreRun Caller D) (past : List (Action Caller D)) (s : StoreCalls Caller D) :
    Prop :=
  past <+: r.trace ∧ run step r.first past = some s

/-- In every state of the run the points of each host are sorted. -/
def HistoriesSorted (r : StoreRun Caller D) : Prop :=
  ∀ past s, r.Passes past s → ∀ hostname, (s.historyStore.get hostname).Pairwise
    fun earlier later => earlier.timestampMs ≤ later.timestampMs

/-- No record is older than the record of its host in an earlier state of the run. -/
def RecordsAdvance (r : StoreRun Caller D) : Prop :=
  ∀ past between s t, r.Passes past s → r.Passes (past ++ between) t →
    ∀ hostname old, s.metricsStore.getLatest hostname = some old →
      ∃ new, t.metricsStore.getLatest hostname = some new ∧ old.updatedAt ≤ new.updatedAt

structure OrderedTimes (r : StoreRun Caller D) : Prop where
  histories : r.HistoriesSorted
  records : r.RecordsAdvance

end StoreRun

/-- The call that inserts has the oldest clock reading of all calls that wait with it for the
same store and the same host. -/
def InTurn (s : StoreCalls Caller D) : Action Caller D → Prop
  | .insert caller => ∀ call reading other waiting older, s.calls caller = some (call, reading) →
      s.calls other = some (waiting, older) → waiting.kind = call.kind →
      waiting.hostname = call.hostname → call.kind.stamp reading ≤ call.kind.stamp older
  | _ => True

omit [DecidableEq Caller] in
/-- Calls in turn write their stamps in turn. -/
theorem inTurn_related {maxPointsPerHost : Nat} {kind : StoreKind} {hostname : Bytes}
    {s : StoreCalls Caller D} {log : StampedLog Caller Int} {action : Action Caller D}
    (related : Related maxPointsPerHost kind hostname s log) (inTurn : InTurn s action) :
    StampedLog.InTurn log (translate kind hostname action) := by
  cases action with
  | read caller call now =>
      simp only [translate]
      split <;> trivial
  | insert caller =>
      intro stamp other older own waits
      rw [related.pending] at own waits
      obtain ⟨call, reading, held, ⟨rfl, rfl⟩, rfl⟩ := waiting_eq_some.mp own
      obtain ⟨next, later, otherHeld, ⟨kind, host⟩, rfl⟩ := waiting_eq_some.mp waits
      exact inTurn call reading other next later held otherHeld kind host

/-- The store and the host have a log at every state of the run. -/
theorem related_passes (r : StoreRun Caller D) (kind : StoreKind) (hostname : Bytes)
    {past : List (Action Caller D)} {s : StoreCalls Caller D} (passes : r.Passes past s) :
    ∃ log, run StampedLog.step (StampedLog.start (kind.stamp r.clock))
        (past.map (translate kind hostname)) = some log ∧
      Related r.limit kind hostname s log :=
  run_simulates step StampedLog.step (simulates r.limit kind hostname) passes.2
    (related_start r.clock r.maxPointsPerHost kind hostname)

/-- The stamps of a host are in order after every part of the run. -/
theorem sorted_passes (r : StoreRun Caller D) (inTurn : StepsMeet step InTurn r.first r.trace)
    (kind : StoreKind) (hostname : Bytes) {past : List (Action Caller D)}
    {s : StoreCalls Caller D} (passes : r.Passes past s) {log : StampedLog Caller Int}
    (logged : run StampedLog.step (StampedLog.start (kind.stamp r.clock))
      (past.map (translate kind hostname)) = some log) :
    log.log.Pairwise fun earlier later => earlier ≤ later := by
  have meets := stepsMeet_simulates step StampedLog.step (simulates r.limit kind hostname)
    (fun s log action => inTurn_related) passes.2
    (related_start r.clock r.maxPointsPerHost kind hostname)
    (stepsMeet_part step passes.1 inTurn)
  exact StampedLog.sorted_of_inTurn logged meets

omit [DecidableEq Caller] in
/-- The record has the last stamp of its log. -/
theorem latest_eq {maxPointsPerHost : Nat} {hostname : Bytes} {s : StoreCalls Caller D}
    {log : StampedLog Caller Int} (related : Related maxPointsPerHost .metrics hostname s log) :
    (s.metricsStore.getLatest hostname).map StoredMetrics.updatedAt = log.log.getLast? := by
  have shown := related.shown
  rw [StoreKind.room, rtake_one] at shown
  have heads := congrArg List.head? shown
  rwa [stamps, Option.head?_toList, Option.head?_toList] at heads

/-- Calls in turn keep the times in order. -/
theorem orderedTimes_of_inTurn (r : StoreRun Caller D)
    (inTurn : StepsMeet step InTurn r.first r.trace) : r.OrderedTimes where
  histories := by
    intro past s passes hostname
    obtain ⟨log, logged, related⟩ := related_passes r .history hostname passes
    have sorted := sorted_passes r inTurn .history hostname passes logged
    have shown := related.shown
    rw [List.rtake] at shown
    have window := sorted.sublist (List.drop_sublist
      (log.log.length - StoreKind.room r.limit .history) log.log)
    rw [← shown, stamps, List.pairwise_map] at window
    exact window
  records := by
    intro past between s t before after hostname old stored
    obtain ⟨log, logged, related⟩ := related_passes r .metrics hostname before
    obtain ⟨later, laterLogged, laterRelated⟩ := related_passes r .metrics hostname after
    have sorted := sorted_passes r inTurn .metrics hostname after laterLogged
    rw [List.map_append] at laterLogged
    have rest := run_rest StampedLog.step laterLogged logged
    obtain ⟨more, grown, _⟩ := StampedLog.run_pending rest
    have last := latest_eq related
    have laterLast := latest_eq laterRelated
    rw [stored, Option.map_some] at last
    rw [grown] at sorted laterLast
    cases more with
    | nil =>
        rw [List.append_nil, ← last] at laterLast
        obtain ⟨new, found, same⟩ := Option.map_eq_some_iff.mp laterLast
        exact ⟨new, found, same.ge⟩
    | cons stamp more =>
        have newest := List.getLast?_eq_some_getLast (List.cons_ne_nil stamp more)
        rw [List.getLast?_append, newest, Option.some_or] at laterLast
        obtain ⟨new, found, same⟩ := Option.map_eq_some_iff.mp laterLast
        refine ⟨new, found, same ▸ (List.pairwise_append.mp sorted).2.2 _ ?_ _ ?_⟩
        · exact List.mem_of_getLast? last.symm
        · exact List.getLast_mem _

/-- The newest time of a store is not older than the one before it. -/
theorem newest_le (r : StoreRun Caller D) (ordered : r.OrderedTimes) (wide : 2 ≤ r.limit)
    {kind : StoreKind} {hostname : Bytes} {past : List (Action Caller D)}
    {action : Action Caller D} {s next : StoreCalls Caller D} {log logNext : StampedLog Caller Int}
    (before : r.Passes past s) (after : r.Passes (past ++ [action]) next)
    (related : Related r.limit kind hostname s log)
    (relatedNext : Related r.limit kind hostname next logNext)
    {front : List Int} {newest stamp : Int} (content : log.log = front ++ [newest])
    (appended : logNext.log = log.log ++ [stamp]) : newest ≤ stamp := by
  cases kind with
  | history =>
      have sorted : (stamps next hostname .history).Pairwise fun earlier later => earlier ≤ later :=
        List.pairwise_map.mpr (ordered.histories _ next after hostname)
      have shown := relatedNext.shown
      obtain ⟨room, size⟩ := Nat.exists_eq_add_of_le' wide
      rw [StoreKind.room, size, appended, content, List.rtake_concat_succ,
        List.rtake_concat_succ] at shown
      rw [shown] at sorted
      exact (List.pairwise_append.mp sorted).2.2 newest (by simp) stamp (by simp)
  | metrics =>
      have last := latest_eq related
      have lastNext := latest_eq relatedNext
      rw [content, List.getLast?_concat] at last
      rw [appended, List.getLast?_concat] at lastNext
      obtain ⟨old, stored, rfl⟩ := Option.map_eq_some_iff.mp last
      obtain ⟨new, found, rfl⟩ := Option.map_eq_some_iff.mp lastNext
      obtain ⟨other, same, order⟩ := ordered.records past [action] s next before after hostname old
        stored
      obtain rfl := Option.some.inj (found.symm.trans same)
      exact order

/-- Stores whose times never go back come from sorted logs. -/
theorem sorted_of_ordered (r : StoreRun Caller D) (ordered : r.OrderedTimes) (wide : 2 ≤ r.limit)
    (kind : StoreKind) (hostname : Bytes) {past : List (Action Caller D)}
    {s : StoreCalls Caller D} (passes : r.Passes past s) {log : StampedLog Caller Int}
    (logged : run StampedLog.step (StampedLog.start (kind.stamp r.clock))
      (past.map (translate kind hostname)) = some log) :
    log.log.Pairwise fun earlier later => earlier ≤ later := by
  induction past using List.reverseRecOn generalizing s log with
  | nil =>
      obtain rfl := Option.some.inj logged
      exact List.Pairwise.nil
  | append_singleton past action ih =>
      obtain ⟨middle, reached, _⟩ := run_snoc step passes.2
      have before : r.Passes past middle :=
        ⟨(List.prefix_append past [action]).trans passes.1, reached⟩
      obtain ⟨old, oldLogged, related⟩ := related_passes r kind hostname before
      obtain ⟨same, sameLogged, relatedNext⟩ := related_passes r kind hostname passes
      obtain rfl := Option.some.inj (logged.symm.trans sameLogged)
      have sorted := ih before oldLogged
      rw [List.map_append] at logged
      have last := run_rest StampedLog.step logged oldLogged
      obtain ⟨next, taken, done⟩ := (run_cons_eq_some StampedLog.step).mp last
      obtain rfl := Option.some.inj done
      obtain ⟨written, grown, _⟩ := StampedLog.step_pending taken
      cases written with
      | none => rwa [grown, Option.toList_none, List.append_nil]
      | some stamp =>
          rw [Option.toList_some] at grown
          rw [grown]
          refine List.pairwise_append.mpr ⟨sorted, List.pairwise_singleton _ _, ?_⟩
          intro earlier member later single
          obtain rfl := List.mem_singleton.mp single
          rcases List.eq_nil_or_concat old.log with empty | ⟨front, newest, content⟩
          · rw [empty] at member
            cases member
          · rw [List.concat_eq_append] at content
            have le := newest_le r ordered wide before passes related relatedNext content grown
            rw [content] at sorted member
            rcases List.mem_append.mp member with inFront | last
            · exact ((List.pairwise_append.mp sorted).2.2 earlier inFront newest (by simp)).trans le
            · obtain rfl := List.mem_singleton.mp last
              exact le

/-- Times in order come from calls in turn. -/
theorem inTurn_of_orderedTimes (r : StoreRun Caller D)
    (complete : ∀ caller, r.final.calls caller = none) (wide : 2 ≤ r.limit)
    (ordered : r.OrderedTimes) : StepsMeet step InTurn r.first r.trace := by
  intro past action s part before
  cases action with
  | read => trivial
  | insert caller =>
      intro call reading other waiting older held otherHeld kind host
      have whole : r.Passes r.trace r.final := ⟨List.prefix_rfl, r.reached⟩
      obtain ⟨log, logged, related⟩ := related_passes r call.kind call.hostname whole
      have sorted := sorted_of_ordered r ordered wide call.kind call.hostname whole logged
      have inTurn := StampedLog.inTurn_of_sorted logged (fun caller => by
        rw [related.pending, StoreCalls.waiting, complete caller]
        rfl) sorted
      have passes : r.Passes past s := ⟨(List.prefix_append past _).trans part, before⟩
      obtain ⟨now, nowLogged, nowRelated⟩ := related_passes r call.kind call.hostname passes
      have mapped := part.map (translate call.kind call.hostname)
      rw [List.map_append] at mapped
      refine inTurn _ (.append caller) now mapped nowLogged _ other _ ?_ ?_
      · rw [nowRelated.pending, waiting_eq_some]
        exact ⟨call, reading, held, ⟨rfl, rfl⟩, rfl⟩
      · rw [nowRelated.pending, waiting_eq_some]
        exact ⟨waiting, older, otherHeld, ⟨kind, host⟩, rfl⟩

/-- The times of a run never go back when each call inserts in its turn. With room for two points
and without a call left, they never go back only then. -/
theorem orderedTimes_inTurn (r : StoreRun Caller D) :
    (StepsMeet step InTurn r.first r.trace → r.OrderedTimes) ∧
      ((∀ caller, r.final.calls caller = none) → 2 ≤ r.maxPointsPerHost → r.OrderedTimes →
        StepsMeet step InTurn r.first r.trace) := by
  refine ⟨orderedTimes_of_inTurn r, fun complete wide => inTurn_of_orderedTimes r complete ?_⟩
  have limit : r.limit = r.maxPointsPerHost := by
    have positive : r.maxPointsPerHost ≠ 0 := by omega
    simp [StoreRun.limit, MetricsHistoryStore.construct, positive]
  exact limit ▸ wide

/-- Twice two calls for one host meet, and the one with the older reading inserts last. -/
def delayedCalls : List (Action (Fin 2) Int) :=
  [.read 0 (.add (ascii "a") 0 0) 1000000, .read 1 (.add (ascii "a") 0 0) 2000000,
    .insert 1, .insert 0,
    .read 0 (.update { hostname := ascii "a" }) 3000000,
    .read 1 (.update { hostname := ascii "a" }) 4000000, .insert 1, .insert 0]

/-- The older point ends up last in the history, and the older record replaces the newer one. -/
theorem delayed_calls_go_back :
    ∃ r : StoreRun (Fin 2) Int, ¬ r.HistoriesSorted ∧ ¬ r.RecordsAdvance := by
  have points : (run step (start 0 120) delayedCalls).map
      (fun s => (s.historyStore.get (ascii "a")).map MetricsHistoryPoint.timestampMs) =
        some [2, 1] := by decide
  have before : (run step (start 0 120) (delayedCalls.take 7)).map
      (fun s => s.metricsStore.getLatest (ascii "a")) =
        some (some ⟨{ hostname := ascii "a" }, 4000000⟩) := by decide
  have after : (run step (start 0 120) delayedCalls).map
      (fun s => s.metricsStore.getLatest (ascii "a")) =
        some (some ⟨{ hostname := ascii "a" }, 3000000⟩) := by decide
  obtain ⟨final, reached, shown⟩ := Option.map_eq_some_iff.mp points
  obtain ⟨middle, passed, newer⟩ := Option.map_eq_some_iff.mp before
  rw [reached, Option.map_some, Option.some.injEq] at after
  refine ⟨⟨0, 120, delayedCalls, final, reached⟩, fun sorted => ?_, fun advance => ?_⟩
  · have window := sorted delayedCalls final ⟨List.prefix_rfl, reached⟩ (ascii "a")
    rw [← List.pairwise_map, shown] at window
    simp at window
  · obtain ⟨new, found, order⟩ := advance (delayedCalls.take 7) [.insert 0] middle final
      ⟨List.take_prefix 7 delayedCalls, passed⟩ ⟨List.prefix_rfl, reached⟩ (ascii "a") _ newer
    obtain rfl := Option.some.inj (after.symm.trans found)
    revert order
    decide

end LMonitor.StoreCalls
