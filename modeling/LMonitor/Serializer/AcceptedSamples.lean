import LMonitor.Serializer.RoundTrip

namespace LMonitor.MetricsDeserializer
open Library
variable {D : Type} [DoubleText D]

theorem key_of_ofKey {key : Bytes} {field : Field} (found : Field.ofKey key = some field) :
    field.key = key := by
  simpa using List.find?_some found

theorem bind_eq_ok {A B : Type} {first : Except Bytes A} {second : A → Except Bytes B} {result : B}
    (success : first >>= second = .ok result) :
    ∃ value, first = .ok value ∧ second value = .ok result := by
  cases first with
  | error message => cases success
  | ok value => exact ⟨value, rfl, success⟩

/-- A loop over a list succeeds in its last pass after the passes before it. -/
theorem foldlM_snoc_eq_ok {A B : Type} {body : B → A → Except Bytes B} {start result : B}
    {items : List A} {last : A} (success : (items ++ [last]).foldlM body start = .ok result) :
    ∃ middle, items.foldlM body start = .ok middle ∧ body middle last = .ok result := by
  rw [List.foldlM_append] at success
  obtain ⟨middle, first, final⟩ := bind_eq_ok success
  rw [List.foldlM_cons] at final
  obtain ⟨value, pass, stored⟩ := bind_eq_ok final
  obtain rfl := Except.ok.inj stored
  exact ⟨middle, first, pass⟩

/-- A check that throws lets only the rest succeed. -/
theorem guard_eq_ok {A : Type} {refused : Prop} [Decidable refused] {message : Bytes}
    {rest : Except Bytes A} {result : A}
    (success : (if refused then Except.error message >>= fun _ : PUnit => rest else rest) =
      .ok result) : rest = .ok result := by
  split at success
  · cases success
  · exact success

/-- An accepted line is blank, appends one process or stores one fresh field. -/
theorem parseLine_cases {p next : Parse D} {line : Bytes} (success : parseLine p line = .ok next) :
    (stripCarriageReturn line = [] ∧ next = p) ∨
    (∃ value process, stripCarriageReturn line = ascii "process" ++ 61 :: value ∧
      parseProcess value = .ok process ∧ next = { p with metrics :=
        { p.metrics with topProcesses := p.metrics.topProcesses ++ [process] } }) ∨
    ∃ field value, stripCarriageReturn line = field.key ++ 61 :: value ∧
      field.key ∉ p.receivedFields ∧ assign field value (mark p field) = .ok next := by
  simp only [parseLine] at success
  split at success
  · rename_i blank
    exact .inl ⟨blank, (Except.ok.inj success).symm⟩
  · split at success
    · cases success
    · rename_i key value cut
      have whole := (splitFirst_eq_some cut).1
      split at success
      · cases success
      · split at success
        · rename_i process
          obtain ⟨record, parsed, stored⟩ := bind_eq_ok success
          exact .inr (.inl ⟨value, record, by rw [whole, process], parsed,
            (Except.ok.inj stored).symm⟩)
        · obtain ⟨received, marked, stored⟩ := bind_eq_ok success
          simp only [markRequiredField] at marked
          split at marked
          · cases marked
          · rename_i fresh
            obtain rfl := Except.ok.inj marked
            split at stored
            · rename_i field found
              obtain rfl := key_of_ofKey found
              exact .inr (.inr ⟨field, value, whole, fresh, stored⟩)
            · cases stored

/-- An assignment keeps the received fields, and only one field changes the host name. -/
theorem assign_hostname {p next : Parse D} {field : Field} {value : Bytes}
    (success : assign field value p = .ok next) :
    next.receivedFields = p.receivedFields ∧
      if field = .hostname then next.metrics.hostname ≠ []
      else next.metrics.hostname = p.metrics.hostname := by
  cases field
  case hostname =>
    obtain ⟨text, required, stored⟩ := bind_eq_ok success
    obtain rfl := Except.ok.inj stored
    simp only [requireText] at required
    split at required
    · cases required
    · rename_i nonempty
      obtain rfl := Except.ok.inj required
      exact ⟨rfl, nonempty⟩
  case logicalCpus =>
    obtain ⟨number, _, stored⟩ := bind_eq_ok success
    obtain rfl := Except.ok.inj (guard_eq_ok stored)
    exact ⟨rfl, rfl⟩
  case sampleIntervalSeconds =>
    obtain ⟨number, _, stored⟩ := bind_eq_ok success
    obtain rfl := Except.ok.inj (guard_eq_ok stored)
    exact ⟨rfl, rfl⟩
  all_goals
    obtain ⟨number, _, stored⟩ := bind_eq_ok success
    obtain rfl := Except.ok.inj stored
    exact ⟨rfl, rfl⟩

/-- A received host name is not empty. -/
def Named (p : Parse D) : Prop :=
  Field.hostname.key ∈ p.receivedFields → p.metrics.hostname ≠ []

/-- Every parsed line keeps the host name nonempty. -/
theorem named_parseLine {p next : Parse D} {line : Bytes} (success : parseLine p line = .ok next)
    (named : Named p) : Named next := by
  rcases parseLine_cases success with ⟨_, rfl⟩ | ⟨value, process, _, _, rfl⟩ |
    ⟨field, value, _, _, stored⟩
  · exact named
  · exact named
  · obtain ⟨received, hostname⟩ := assign_hostname stored
    intro member
    split at hostname
    · exact hostname
    · rename_i other
      rw [hostname]
      rw [received] at member
      rcases List.mem_cons.mp member with same | earlier
      · exact absurd (key_injective same).symm other
      · exact named earlier

theorem parseDouble_finite {value fieldName : Bytes} {number : D}
    (success : parseDouble value fieldName = .ok number) : Double.isFinite number = true := by
  simp only [parseDouble] at success
  split at success
  · cases success
  · split at success
    · cases success
    · split at success
      · cases success
      · split at success
        · rename_i finite
          rw [← Except.ok.inj success]
          exact finite
        · cases success

/-- The doubles of a parsed process are finite. -/
theorem parseProcess_finite {value : Bytes} {process : ProcessMetric D}
    (success : parseProcess value = .ok process) :
    Double.isFinite process.cpuUsagePercent = true ∧
      Double.isFinite process.memoryUsagePercent = true := by
  simp only [parseProcess] at success
  split at success
  · cases success
  · obtain ⟨pid, _, rest⟩ := bind_eq_ok success
    obtain ⟨cpu, first, rest⟩ := bind_eq_ok (guard_eq_ok rest)
    obtain ⟨memory, second, rest⟩ := bind_eq_ok rest
    obtain ⟨resident, _, rest⟩ := bind_eq_ok rest
    obtain rfl := Except.ok.inj (guard_eq_ok rest)
    exact ⟨parseDouble_finite first, parseDouble_finite second⟩
  · cases success

/-- All doubles of the sample are finite. -/
def FiniteDoubles (metrics : SystemMetrics D) : Prop :=
  ∀ value ∈ doubles metrics, Double.isFinite value = true

/-- An assignment replaces at most one double, and it checks the new one. -/
theorem finiteDoubles_assign {p next : Parse D} {field : Field} {value : Bytes}
    (success : assign field value p = .ok next) (finite : FiniteDoubles p.metrics) :
    FiniteDoubles next.metrics := by
  cases field
  case logicalCpus =>
    obtain ⟨number, _, stored⟩ := bind_eq_ok success
    obtain rfl := Except.ok.inj (guard_eq_ok stored)
    exact finite
  case sampleIntervalSeconds =>
    obtain ⟨number, parsed, stored⟩ := bind_eq_ok success
    obtain rfl := Except.ok.inj (guard_eq_ok stored)
    have known := parseDouble_finite parsed
    simp only [FiniteDoubles, doubles, List.cons_append, List.forall_mem_cons] at finite ⊢
    simp only [finite, known, true_and]
    exact finite.2.2.2.2.2.2.2.2.2
  case hostname | uptimeSeconds | memoryTotalKb | memoryUsedKb | memoryAvailableKb | diskMount |
      diskTotalBytes | diskUsedBytes | diskAvailableBytes | networkInterface | processCount =>
    obtain ⟨number, _, stored⟩ := bind_eq_ok success
    obtain rfl := Except.ok.inj stored
    exact finite
  all_goals
    obtain ⟨number, parsed, stored⟩ := bind_eq_ok success
    obtain rfl := Except.ok.inj stored
    have known := parseDouble_finite parsed
    simp only [FiniteDoubles, doubles, List.cons_append, List.forall_mem_cons] at finite ⊢
    simp only [finite, known, true_and]
    exact finite.2.2.2.2.2.2.2.2.2

/-- Every parsed line keeps the doubles finite. -/
theorem finiteDoubles_parseLine {p next : Parse D} {line : Bytes}
    (success : parseLine p line = .ok next) (finite : FiniteDoubles p.metrics) :
    FiniteDoubles next.metrics := by
  rcases parseLine_cases success with ⟨_, rfl⟩ | ⟨value, process, _, parsed, rfl⟩ |
    ⟨field, value, _, _, stored⟩
  · exact finite
  · obtain ⟨cpu, memory⟩ := parseProcess_finite parsed
    intro double member
    simp only [doubles, List.flatMap_append, List.mem_append] at member
    rcases member with old | old | new
    · exact finite double (List.mem_append.mpr (.inl old))
    · exact finite double (List.mem_append.mpr (.inr old))
    · simp only [List.flatMap_cons, List.flatMap_nil, List.append_nil, List.mem_cons,
        List.not_mem_nil, or_false] at new
      rcases new with rfl | rfl
      · exact cpu
      · exact memory
  · exact finiteDoubles_assign stored finite

/-- What every line keeps holds at the end of the parse loop. -/
theorem fold_invariant (Invariant : Parse D → Prop)
    (kept : ∀ p line next, parseLine p line = .ok next → Invariant p → Invariant next)
    {lines : List Bytes} {p final : Parse D} (success : lines.foldlM parseLine p = .ok final)
    (known : Invariant p) : Invariant final := by
  induction lines generalizing p with
  | nil =>
      obtain rfl := Except.ok.inj success
      exact known
  | cons line lines ih =>
      rw [List.foldlM_cons] at success
      obtain ⟨next, first, rest⟩ := bind_eq_ok success
      exact ih rest (kept p line next first known)

/-- The check passes exactly if no field is missing. -/
theorem verifyRequiredFields_eq_ok {fields : List Bytes} {result : Unit} :
    verifyRequiredFields fields = .ok result ↔ ∀ field : Field, field.key ∈ fields := by
  unfold verifyRequiredFields
  split
  · rename_i field missing
    have absent := List.find?_some missing
    simp only [decide_eq_true_eq] at absent
    exact iff_of_false (by simp) fun complete => absent (complete field)
  · rename_i none
    refine iff_of_true rfl fun field => ?_
    simpa using List.find?_eq_none.mp none field (mem_allFields field)

/-- The final checks pass the sample on when every field was received. -/
theorem finish_eq_ok {p : Parse D} {metrics : SystemMetrics D} (success : finish p = .ok metrics) :
    metrics = p.metrics ∧ ∀ field : Field, field.key ∈ p.receivedFields := by
  obtain ⟨_, verified, rest⟩ := bind_eq_ok success
  exact ⟨(Except.ok.inj (guard_eq_ok (guard_eq_ok rest))).symm,
    verifyRequiredFields_eq_ok.mp verified⟩

/-- An accepted payload went through the parse loop and the final checks. -/
theorem deserialize_eq_ok {payload : Bytes} {metrics : SystemMetrics D}
    (success : deserialize payload = .ok metrics) :
    ∃ (lines : List Bytes) (p : Parse D), lines.foldlM parseLine initial = .ok p ∧
      finish p = .ok metrics := by
  simp only [deserialize] at success
  split at success
  · cases success
  · split at success
    · cases success
    · split at success
      · cases success
      · obtain ⟨p, parsed, finished⟩ := bind_eq_ok success
        exact ⟨_, p, parsed, finished⟩

/-- Every accepted sample has a host name. -/
theorem deserialize_hostname {payload : Bytes} {metrics : SystemMetrics D}
    (success : deserialize payload = .ok metrics) : metrics.hostname ≠ [] := by
  obtain ⟨lines, p, parsed, finished⟩ := deserialize_eq_ok success
  obtain ⟨rfl, received⟩ := finish_eq_ok finished
  have named : Named p := fold_invariant Named (fun _ _ _ => named_parseLine) parsed fun member =>
    absurd member List.not_mem_nil
  exact named (received .hostname)

/-- Every accepted sample has finite doubles. -/
theorem deserialize_finite [LawfulDouble D] {payload : Bytes} {metrics : SystemMetrics D}
    (success : deserialize payload = .ok metrics) : FiniteDoubles metrics := by
  obtain ⟨lines, p, parsed, finished⟩ := deserialize_eq_ok success
  obtain ⟨rfl, _⟩ := finish_eq_ok finished
  refine fold_invariant (fun p => FiniteDoubles p.metrics) (fun _ _ _ => finiteDoubles_parseLine)
    parsed ?_
  have zero := LawfulDouble.finite_ofNat (D := D) 0
  simp [FiniteDoubles, doubles, initial, zero]

end LMonitor.MetricsDeserializer
