import LMonitor.Alert.AlertTable

namespace LMonitor.AlertManager
open Library
variable {D : Type} [Double D]

/-- The notice of an alert names its host and its metric. -/
def Names (hostname : Bytes) (metric : Metric) (alert : ManagedAlert D) : Prop :=
  alert.hostname = hostname ∧ alert.metric = metric.name

instance (hostname : Bytes) (metric : Metric) :
    DecidablePred (Names hostname metric : ManagedAlert D → Prop) :=
  fun _ => inferInstanceAs (Decidable (_ ∧ _))

/-- An update first logs the resolved alerts, and its caller logs the returned ones as firing. -/
def notices (hostname : Bytes) (metric : Metric) (now : Int) (metrics : SystemMetrics D)
    (manager : AlertManager D) : List AlertState :=
  ((runUpdate now metrics manager).resolved.filter fun alert => Names hostname metric alert).map
      (fun _ => .normal) ++
    ((runUpdate now metrics manager).result.filter fun alert => Names hostname metric alert).map
      fun _ => .firing

/-- These are the notices about one metric of one host in a run. -/
def noticesOf (hostname : Bytes) (metric : Metric) :
    AlertManager D → List (Sample D) → List AlertState
  | _, [] => []
  | manager, sample :: samples =>
      notices hostname metric sample.time sample.metrics manager ++
        noticesOf hostname metric (step manager sample) samples

/-- The alert of the cell fires. -/
def fires (manager : AlertManager D) (hostname : Bytes) (metric : Metric) : Bool :=
  (manager.cell hostname metric).any fun alert => alert.state = .firing

/-- The entry of a cell is in this state, if there is one. -/
def cellState (manager : AlertManager D) (hostname : Bytes) (metric : Metric) :
    Option AlertState :=
  (manager.cell hostname metric).map fun alert => alert.state

theorem detection_eq (now : Int) (metrics : SystemMetrics D) (manager : AlertManager D) :
    detection now metrics manager = (rawAlerts manager.settings metrics).foldl
      (detect manager.fireDuration now) ⟨manager.alerts, ∅, []⟩ := by
  have evaluated := evaluate_eq manager.settings metrics
  simp only [settings] at evaluated
  simp only [detection, evaluated, rawAlerts, settings]

/-- A key is not current exactly if no breach of the sample has it, and then its entry is old. -/
theorem current_eq_none_iff (now : Int) (metrics : SystemMetrics D) (manager : AlertManager D)
    (key : Bytes) :
    (detection now metrics manager).currentAlertKeys.lookup key = none ↔
      ∀ metric, Breaches manager.settings metric metrics →
        makeKey metrics.hostname metric.name ≠ key := by
  rw [detection_eq]
  constructor
  · rintro absent metric breach rfl
    have member := (mem_rawAlerts manager.settings metrics _).mpr ⟨metric, breach, rfl⟩
    have current := (detect_member manager.fireDuration now _ ⟨manager.alerts, ∅, []⟩
      (rawAlerts_distinct manager.settings metrics) _ member).2
    simp only [keyOf, rawAlert] at current
    rw [absent] at current
    cases current
  · intro quiet
    refine (detect_others manager.fireDuration now _ _ key fun alert member => ?_).2
    obtain ⟨metric, breach, rfl⟩ := (mem_rawAlerts manager.settings metrics alert).mp member
    exact quiet metric breach

/-- An alert that the detection did not note keeps its entry. -/
theorem lookup_detection {now : Int} {metrics : SystemMetrics D} {manager : AlertManager D}
    {key : Bytes} (absent : (detection now metrics manager).currentAlertKeys.lookup key = none) :
    (detection now metrics manager).alerts.lookup key = manager.alerts.lookup key := by
  have quiet := (current_eq_none_iff now metrics manager key).mp absent
  rw [detection_eq]
  refine (detect_others manager.fireDuration now _ _ key fun alert member => ?_).1
  obtain ⟨metric, breach, rfl⟩ := (mem_rawAlerts manager.settings metrics alert).mp member
  exact quiet metric breach

omit [Double D] in
/-- The manager fires about a metric exactly when its cell does. -/
theorem fires_iff {manager : AlertManager D} {hostname : Bytes} {metric : Metric} :
    fires manager hostname metric = true ↔
      ∃ alert, manager.cell hostname metric = some alert ∧ alert.state = .firing := by
  cases stored : manager.cell hostname metric <;> simp [fires, stored]

/-- A cell stops firing exactly at a sample without its breach. -/
theorem fires_update_of_fires (now : Int) (metrics : SystemMetrics D) {manager : AlertManager D}
    {hostname : Bytes} {metric : Metric} (firing : fires manager hostname metric = true) :
    fires (update now metrics manager).2 hostname metric = true ↔
      metrics.hostname = hostname ∧ Breaches manager.settings metric metrics := by
  obtain ⟨alert, stored, state⟩ := fires_iff.mp firing
  rw [fires_iff, cell_update, stored]
  split
  · rename_i own
    exact ⟨fun _ => own, fun _ => ⟨_, rfl, touch_firing _ _ _ _ (.inl state)⟩⟩
  · rename_i foreign
    simp only [Option.map_some, Option.some.injEq, exists_eq_left', calm_state, state, if_true,
      reduceCtorEq, false_iff]
    exact foreign

omit [Double D] in
/-- A named entry of a well-keyed table is the cell of its name. -/
theorem cell_of_names {manager : AlertManager D} (keyed : manager.WellKeyed) {key : Bytes}
    {alert : ManagedAlert D} (stored : manager.alerts.lookup key = some alert) {hostname : Bytes}
    {metric : Metric} (named : Names hostname metric alert) :
    key = makeKey hostname metric.name := by
  obtain ⟨other, name, rfl⟩ := keyed key alert stored
  obtain ⟨rfl, same⟩ := named
  rw [Metric.name_injective (name.symm.trans same)]

/-- A notice of a resolved alert is due exactly if its cell stops firing. -/
theorem exists_resolved_iff (now : Int) (metrics : SystemMetrics D) {manager : AlertManager D}
    (keyed : manager.WellKeyed) (hostname : Bytes) (metric : Metric) :
    (∃ alert ∈ (runUpdate now metrics manager).resolved, Names hostname metric alert) ↔
      fires manager hostname metric = true ∧
        fires (update now metrics manager).2 hostname metric = false := by
  constructor
  · rintro ⟨alert, member, named⟩
    obtain ⟨⟨key, entry⟩, inside, rfl⟩ := List.mem_map.mp member
    obtain ⟨found, holds⟩ := List.mem_filter.mp inside
    obtain ⟨absent, state⟩ := of_decide_eq_true holds
    have stored := (lookup_detection absent).symm.trans (AList.mem_lookup_iff.mpr found)
    obtain rfl := cell_of_names keyed stored named
    have firing : fires manager hostname metric = true := fires_iff.mpr ⟨entry, stored, state⟩
    refine ⟨firing, Bool.eq_false_iff.mpr fun still => ?_⟩
    obtain ⟨rfl, breach⟩ := (fires_update_of_fires now metrics firing).mp still
    exact (current_eq_none_iff now metrics manager _).mp absent metric breach rfl
  · rintro ⟨firing, ended⟩
    obtain ⟨alert, stored, state⟩ := fires_iff.mp firing
    have quiet := mt (fires_update_of_fires now metrics firing).mpr (Bool.eq_false_iff.mp ended)
    have absent : (detection now metrics manager).currentAlertKeys.lookup
        (makeKey hostname metric.name) = none := by
      rw [current_eq_none_iff]
      intro other breach same
      obtain ⟨rfl, rfl⟩ := makeKey_inj.mp same
      exact quiet ⟨rfl, breach⟩
    have found := AList.mem_lookup_iff.mp ((lookup_detection absent).trans stored)
    refine ⟨alert, List.mem_map.mpr ⟨⟨makeKey hostname metric.name, alert⟩, ?_, rfl⟩,
      cell_names keyed stored⟩
    exact List.mem_filter.mpr ⟨found, decide_eq_true ⟨absent, state⟩⟩

/-- A notice of a firing alert is due exactly if its cell starts to fire. -/
theorem exists_fired_iff (now : Int) (metrics : SystemMetrics D) {manager : AlertManager D}
    (keyed : manager.WellKeyed) (hostname : Bytes) (metric : Metric) :
    (∃ alert ∈ (update now metrics manager).1, Names hostname metric alert) ↔
      fires manager hostname metric = false ∧
        fires (update now metrics manager).2 hostname metric = true := by
  have after := wellKeyed_update now metrics manager keyed
  constructor
  · rintro ⟨alert, member, named⟩
    obtain ⟨key, old, stored, quiet, found, state⟩ := (mem_update_iff _ _ _ _).mp member
    obtain rfl := cell_of_names after found named
    refine ⟨Bool.eq_false_iff.mpr fun firing => ?_, fires_iff.mpr ⟨alert, found, state⟩⟩
    obtain ⟨other, same, otherState⟩ := fires_iff.mp firing
    rw [cell, stored, Option.some.injEq] at same
    exact quiet (same ▸ otherState)
  · rintro ⟨quiet, firing⟩
    obtain ⟨alert, found, state⟩ := fires_iff.mp firing
    refine ⟨alert, (mem_update_iff _ _ _ _).mpr ?_, cell_names after found⟩
    have known := cell_update now metrics manager hostname metric
    rw [found] at known
    cases stored : manager.cell hostname metric with
    | none =>
        rw [stored] at known
        split at known
        · rw [Option.some.inj known] at state
          cases state
        · cases known
    | some old =>
        refine ⟨_, old, stored, fun other => ?_, found, state⟩
        rw [fires_iff.mpr ⟨old, stored, other⟩] at quiet
        cases quiet

omit [Double D] in
/-- A list with at most one item of a kind gives at most one value for this kind. -/
theorem map_filter_once {A B : Type} {items : List A} (kind : A → Prop) [DecidablePred kind]
    (once : items.Pairwise fun first second => ¬ (kind first ∧ kind second)) (value : B) :
    (items.filter fun item => kind item).map (fun _ => value) =
      if ∃ item ∈ items, kind item then [value] else [] := by
  induction items with
  | nil => simp
  | cons item items ih =>
      obtain ⟨own, others⟩ := List.pairwise_cons.mp once
      by_cases known : kind item
      · have none : items.filter (fun item => kind item) = [] := by
          rw [List.filter_eq_nil_iff]
          intro other member
          rw [decide_eq_true_eq]
          exact fun also => own other member ⟨known, also⟩
        simp [known, none]
      · simp [known, ih others]

/-- No two entries of the table have one name. -/
theorem resolved_once (now : Int) (metrics : SystemMetrics D) {manager : AlertManager D}
    (keyed : manager.WellKeyed) (hostname : Bytes) (metric : Metric) :
    (runUpdate now metrics manager).resolved.Pairwise fun first second =>
      ¬ (Names hostname metric first ∧ Names hostname metric second) := by
  have key {entry : Sigma fun _ : Bytes => ManagedAlert D}
      (member : entry ∈ (detection now metrics manager).alerts.entries.filter fun entry =>
        Resolves (detection now metrics manager).currentAlertKeys entry)
      (named : Names hostname metric entry.2) : entry.1 = makeKey hostname metric.name := by
    obtain ⟨found, holds⟩ := List.mem_filter.mp member
    obtain ⟨absent, _⟩ := of_decide_eq_true holds
    exact cell_of_names keyed
      ((lookup_detection absent).symm.trans (AList.mem_lookup_iff.mpr found)) named
  have keys := List.nodupKeys_iff_pairwise.mp (detection now metrics manager).alerts.nodupKeys
  rw [runUpdate, List.pairwise_map]
  refine (keys.filter _).imp_of_mem fun {first second} left right different named => ?_
  exact different ((key left named.1).trans (key right named.2).symm)

/-- One update returns at most one alert about a metric. -/
theorem fired_once (now : Int) (metrics : SystemMetrics D) {manager : AlertManager D}
    (keyed : manager.WellKeyed) (hostname : Bytes) (metric : Metric) :
    (update now metrics manager).1.Pairwise fun first second =>
      ¬ (Names hostname metric first ∧ Names hostname metric second) := by
  have after := wellKeyed_update now metrics manager keyed
  refine (update_nodup now metrics keyed).imp_of_mem
    fun {first second} left right different named => different ?_
  obtain ⟨firstKey, _, _, _, firstFound, _⟩ := (mem_update_iff _ _ _ _).mp left
  obtain ⟨secondKey, _, _, _, secondFound, _⟩ := (mem_update_iff _ _ _ _).mp right
  rw [cell_of_names after firstFound named.1] at firstFound
  rw [cell_of_names after secondFound named.2] at secondFound
  exact Option.some.inj (firstFound.symm.trans secondFound)

/-- A notice would tell this about a cell that fires or does not. -/
def toldState (manager : AlertManager D) (hostname : Bytes) (metric : Metric) : AlertState :=
  if fires manager hostname metric then .firing else .normal

/-- An update gives a cell a notice exactly if it begins or ceases to fire. -/
theorem notices_eq (now : Int) (metrics : SystemMetrics D) {manager : AlertManager D}
    (keyed : manager.WellKeyed) (hostname : Bytes) (metric : Metric) :
    notices hostname metric now metrics manager =
      if toldState manager hostname metric =
          toldState (update now metrics manager).2 hostname metric then []
      else [toldState (update now metrics manager).2 hostname metric] := by
  have fired : ((runUpdate now metrics manager).result.filter fun alert =>
      Names hostname metric alert).map (fun _ => AlertState.firing) = _ :=
    map_filter_once _ (fired_once now metrics keyed hostname metric) AlertState.firing
  rw [notices, map_filter_once _ (resolved_once now metrics keyed hostname metric), fired]
  simp only [exists_resolved_iff now metrics keyed, exists_fired_iff now metrics keyed, toldState]
  rcases Bool.eq_false_or_eq_true (fires manager hostname metric) with before | before <;>
    rcases Bool.eq_false_or_eq_true (fires (update now metrics manager).2 hostname metric)
      with after | after <;> simp [before, after]

omit [Double D] in
/-- A cell that does not fire tells normal, whether it is normal, pending or absent. -/
theorem toldState_eq (manager : AlertManager D) (hostname : Bytes) (metric : Metric) :
    toldState manager hostname metric =
      if cellState manager hostname metric = some .firing then .firing else .normal := by
  have firing : fires manager hostname metric = true ↔
      cellState manager hostname metric = some .firing := by
    rw [fires_iff, cellState, Option.map_eq_some_iff]
  simp only [toldState, firing]

/-- An update fires a cell, ends its firing, leaves its state or opens it as pending. -/
theorem cellState_update (now : Int) (metrics : SystemMetrics D) (manager : AlertManager D)
    (hostname : Bytes) (metric : Metric) :
    let before := cellState manager hostname metric
    let after := cellState (update now metrics manager).2 hostname metric
    after = some .firing ∨ (before = some .firing ∧ after = some .normal) ∨ after = before ∨
      (before = none ∧ after = some .pending) := by
  simp only [cellState, cell_update]
  split
  · cases stored : manager.cell hostname metric with
    | none => exact .inr (.inr (.inr ⟨rfl, rfl⟩))
    | some old =>
        by_cases due : Due manager.fireDuration now old
        · exact .inl (congrArg some (touch_firing _ _ _ _ (.inr due)))
        · exact .inr (.inr (.inl (by simp [touch, due])))
  · cases stored : manager.cell hostname metric with
    | none => exact .inr (.inr (.inl rfl))
    | some old =>
        by_cases firing : old.state = .firing
        · exact .inr (.inl (by simp [calm_state, firing]))
        · exact .inr (.inr (.inl (by simp [calm_state, firing])))

/-- The notice of an update tells the new state of its cell, and without a notice the state stays
or the cell is opened as pending. -/
theorem notices_cellState (now : Int) (metrics : SystemMetrics D) {manager : AlertManager D}
    (keyed : manager.WellKeyed) (hostname : Bytes) (metric : Metric) :
    let told := notices hostname metric now metrics manager
    let before := cellState manager hostname metric
    let after := cellState (update now metrics manager).2 hostname metric
    (∀ state, told = [state] → after = some state) ∧
      (told = [] → after = before ∨ (before = none ∧ after = some .pending)) := by
  have changes := cellState_update now metrics manager hostname metric
  simp only [notices_eq now metrics keyed, toldState_eq]
  simp only at changes
  obtain firing | ⟨firing, normal⟩ | same | ⟨absent, pending⟩ := changes
  · rw [firing]
    by_cases before : cellState manager hostname metric = some .firing <;> simp [before]
  · simp [firing, normal]
  · simp [same]
  · simp [absent, pending]

/-- From a state of the cell on, the notices of a run tell each begin and end of its firing, the
last one tells its state, and without any the state stays or the cell is opened as pending. -/
theorem noticesOf_follow (hostname : Bytes) (metric : Metric) (samples : List (Sample D))
    {manager : AlertManager D} (keyed : manager.WellKeyed) :
    let told := noticesOf hostname metric manager samples
    let before := cellState manager hostname metric
    let after := cellState (samples.foldl step manager) hostname metric
    (toldState manager hostname metric :: told).IsChain (· ≠ ·) ∧
      (∀ state, told.getLast? = some state → after = some state) ∧
      (told = [] → after = before ∨ (before = none ∧ after = some .pending)) := by
  induction samples generalizing manager with
  | nil => exact ⟨.singleton _, by simp [noticesOf], fun _ => .inl rfl⟩
  | cons sample samples ih =>
      obtain ⟨chain, last, quiet⟩ := ih (wellKeyed_update sample.time sample.metrics manager keyed)
      obtain ⟨single, silent⟩ := notices_cellState sample.time sample.metrics keyed hostname metric
      have own := notices_eq sample.time sample.metrics keyed hostname metric
      have split : noticesOf hostname metric manager (sample :: samples) =
          notices hostname metric sample.time sample.metrics manager ++
            noticesOf hostname metric (update sample.time sample.metrics manager).2 samples := rfl
      simp only [split, List.foldl_cons]
      by_cases same : toldState manager hostname metric =
          toldState (update sample.time sample.metrics manager).2 hostname metric
      · rw [if_pos same] at own
        rw [own, List.nil_append, same]
        refine ⟨chain, last, fun none => ?_⟩
        obtain stays | ⟨absent, pending⟩ := silent own
        · rw [← stays]
          exact quiet none
        · obtain stays | ⟨other, _⟩ := quiet none
          · exact .inr ⟨absent, stays.trans pending⟩
          · rw [pending] at other
            cases other
      · rw [if_neg same] at own
        rw [own, List.singleton_append]
        refine ⟨List.isChain_cons_cons.mpr ⟨same, chain⟩, ?_, fun none => by cases none⟩
        intro state final
        cases later : noticesOf hostname metric (update sample.time sample.metrics manager).2
          samples with
        | nil =>
            rw [later, List.getLast?_singleton, Option.some.injEq] at final
            have now := single state (own.trans (congrArg ([·]) final))
            obtain stays | ⟨absent, _⟩ := quiet later
            · exact stays.trans now
            · rw [now] at absent
              cases absent
        | cons first others =>
            rw [later, List.getLast?_cons_cons] at final
            exact last state (by rw [later]; exact final)

/-- In every run, what the manager returns as firing and logs as resolved about one metric of one
host alternates and begins with firing. The last notice is the state of the alert, and before the
first one there is no alert or a pending one. -/
theorem notices_alternate (settings : AlertSettings D) (samples : List (Sample D))
    (hostname : Bytes) (metric : Metric) :
    let told := noticesOf hostname metric (reached settings []) samples
    let now := cellState (reached settings samples) hostname metric
    (AlertState.normal :: told).IsChain (· ≠ ·) ∧
      (∀ state, told.getLast? = some state → now = some state) ∧
      (told = [] → now = none ∨ now = some .pending) := by
  obtain ⟨chain, last, quiet⟩ :=
    noticesOf_follow hostname metric samples (wellKeyed_reached settings [])
  refine ⟨chain, last, fun none => ?_⟩
  obtain stays | ⟨_, pending⟩ := quiet none
  · exact .inl stays
  · exact .inr pending

end LMonitor.AlertManager
