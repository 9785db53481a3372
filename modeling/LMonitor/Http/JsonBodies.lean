import LMonitor.Http.HttpServer

namespace LMonitor.HttpServer
open Library Json
open MetricsSerializer (printUnsigned)
open DoubleStream (general)

/-- An escaped text denotes the text itself when all of its bytes are visible. -/
theorem characters_jsonEscape {text : Bytes} (visible : AllVisible text) :
    Characters (jsonEscape text) text := by
  induction text with
  | nil => exact .nil
  | cons byte text ih =>
      obtain ⟨first, rest⟩ := (allVisible_cons byte text).mp visible
      have tail := ih rest
      show Characters (escapeByte byte ++ jsonEscape text) (byte :: text)
      unfold escapeByte
      split
      · exact Characters.short (show shortEscape 92 = some 92 from rfl) tail
      · exact Characters.short (show shortEscape 34 = some 34 from rfl) tail
      · exact Characters.short (show shortEscape 110 = some 10 from rfl) tail
      · exact Characters.short (show shortEscape 114 = some 13 from rfl) tail
      · exact Characters.short (show shortEscape 116 = some 9 from rfl) tail
      · rename_i backslash quote lineFeed carriageReturn tab
        refine Characters.plain ⟨?_, quote, backslash⟩ tail
        rcases first with printable | rfl | rfl | rfl
        · exact printable
        · exact absurd rfl tab
        · exact absurd rfl lineFeed
        · exact absurd rfl carriageReturn

/-- The escape copies every other control character. -/
theorem visible_of_jsonEscape {text : Bytes} (visible : AllVisible (jsonEscape text)) :
    AllVisible text := by
  induction text with
  | nil => simp
  | cons byte text ih =>
      have whole : AllVisible (escapeByte byte ++ jsonEscape text) := visible
      rw [allVisible_append] at whole
      refine (allVisible_cons byte text).mpr ⟨?_, ih whole.2⟩
      have front := whole.1
      unfold escapeByte at front
      split at front
      case h_6 => exact ((allVisible_cons _ _).mp front).1
      all_goals decide

/-- A visible text is written as a string. -/
theorem denotes_jsonEscape {text : Bytes} (visible : AllVisible text) :
    Denotes (stringText (jsonEscape text)) (.value (.string text)) :=
  .string (characters_jsonEscape visible)

/-- The items are separated by commas. -/
theorem writeItems_eq {A : Type} (write : A → Bytes) (items : List A) :
    writeItems write true items = commaSeparated (items.map write) := by
  have rest : ∀ items : List A, ∀ item,
      write item ++ writeItems write false items = commaSeparated ((item :: items).map write) := by
    intro items
    induction items with
    | nil => simp [writeItems, commaSeparated]
    | cons second items ih =>
        intro item
        rw [List.map_cons, List.map_cons, commaSeparated, ← List.map_cons, ← ih second]
        rfl
  cases items with
  | nil => rfl
  | cons item items => simpa [writeItems] using rest items item

/-- The member has this key, and its value is the string. -/
theorem stringMember (key : String) {text : Bytes} (plain : Plain (ascii key))
    (visible : AllVisible text) :
    MemberDenotes (ascii key, stringText (jsonEscape text)) (ascii key, .string text) :=
  ⟨characters_plain plain, denotes_jsonEscape visible⟩

theorem objectMember (key : String) {texts : List (Bytes × Bytes)}
    {members : List (Bytes × Json)} (plain : Plain (ascii key))
    (known : List.Forall₂ MemberDenotes texts members) :
    MemberDenotes (ascii key, objectText texts) (ascii key, .object members) :=
  ⟨characters_plain plain, denotes_objectText known⟩

theorem unsignedMember (key : String) (value : UInt64)
    (plain : Plain (ascii key)) :
    MemberDenotes (ascii key, printUnsigned value) (ascii key, .number (printUnsigned value)) :=
  ⟨characters_plain plain, .number ⟨[], printUnsigned value, [], [], .inl rfl,
    GridDouble.integer_decimal _, .inl rfl, .inl rfl, by simp⟩⟩

variable {D : Type} [Double D] [DoubleStream D]

theorem doubleMember [LawfulDoubleStream D] (key : String) {value : D}
    (plain : Plain (ascii key)) (finite : Double.isFinite value = true) :
    MemberDenotes (ascii key, general value) (ascii key, .number (general value)) :=
  ⟨characters_plain plain, .number (LawfulDoubleStream.number_general value finite)⟩

/-- The list of hosts should show this object for a record. -/
def hostValue (metrics : SystemMetrics D) : Json :=
  .object [(ascii "hostname", .string metrics.hostname),
    (ascii "cpu", .number (general metrics.cpuUsagePercent)),
    (ascii "memory", .number (general metrics.memoryUsagePercent)),
    (ascii "load1", .number (general metrics.load1)),
    (ascii "uptime", .number (printUnsigned metrics.uptimeSeconds))]

/-- The detail of a host should show this object for its record. -/
def detailValue (metrics : SystemMetrics D) : Json :=
  .object [(ascii "hostname", .string metrics.hostname),
    (ascii "cpu", .number (general metrics.cpuUsagePercent)),
    (ascii "memory", .number (general metrics.memoryUsagePercent)),
    (ascii "uptime_seconds", .number (printUnsigned metrics.uptimeSeconds)),
    (ascii "logical_cpus", .number (printUnsigned metrics.logicalCpuCount)),
    (ascii "load", .object [(ascii "load1", .number (general metrics.load1)),
      (ascii "load5", .number (general metrics.load5)),
      (ascii "load15", .number (general metrics.load15))]),
    (ascii "disk", .object [(ascii "usage_percent", .number (general metrics.diskUsagePercent))]),
    (ascii "network", .object [(ascii "interface", .string metrics.networkInterface)])]

omit [Double D] in
/-- The list of alerts should show this object for an active alert. -/
def alertValue (alert : ManagedAlert D) : Json :=
  .object [(ascii "hostname", .string alert.hostname),
    (ascii "metric", .string alert.metric),
    (ascii "state", .string (stateText alert.state)),
    (ascii "current_value", .number (general alert.currentValue)),
    (ascii "threshold", .number (general alert.threshold)),
    (ascii "message", .string alert.message)]

/-- The pieces of a host form one object. -/
theorem writeHost_eq (host : StoredMetrics D) :
    writeHost host = objectText
      [(ascii "hostname", stringText (jsonEscape host.metrics.hostname)),
        (ascii "cpu", general host.metrics.cpuUsagePercent),
        (ascii "memory", general host.metrics.memoryUsagePercent),
        (ascii "load1", general host.metrics.load1),
        (ascii "uptime", printUnsigned host.metrics.uptimeSeconds)] := by
  simp only [objectText, commaSeparated, memberText, stringText, List.map_cons, List.map_nil,
    List.append_assoc, List.cons_append, List.nil_append]
  rfl

/-- The pieces of a detail form one object. -/
theorem writeDetail_eq (metrics : SystemMetrics D) :
    writeDetail metrics = objectText
      [(ascii "hostname", stringText (jsonEscape metrics.hostname)),
        (ascii "cpu", general metrics.cpuUsagePercent),
        (ascii "memory", general metrics.memoryUsagePercent),
        (ascii "uptime_seconds", printUnsigned metrics.uptimeSeconds),
        (ascii "logical_cpus", printUnsigned metrics.logicalCpuCount),
        (ascii "load", objectText [(ascii "load1", general metrics.load1),
          (ascii "load5", general metrics.load5), (ascii "load15", general metrics.load15)]),
        (ascii "disk", objectText [(ascii "usage_percent", general metrics.diskUsagePercent)]),
        (ascii "network",
          objectText [(ascii "interface", stringText (jsonEscape metrics.networkInterface))])] := by
  simp only [objectText, commaSeparated, memberText, stringText, List.map_cons, List.map_nil,
    List.append_assoc, List.cons_append, List.nil_append]
  rfl

omit [Double D] in
/-- The pieces of an alert form one object. -/
theorem writeAlert_eq (alert : ManagedAlert D) :
    writeAlert alert = objectText
      [(ascii "hostname", stringText (jsonEscape alert.hostname)),
        (ascii "metric", stringText (jsonEscape alert.metric)),
        (ascii "state", stringText (stateText alert.state)),
        (ascii "current_value", general alert.currentValue),
        (ascii "threshold", general alert.threshold),
        (ascii "message", stringText (jsonEscape alert.message))] := by
  simp only [objectText, commaSeparated, memberText, stringText, List.map_cons, List.map_nil,
    List.append_assoc, List.cons_append, List.nil_append]
  rfl

end LMonitor.HttpServer
