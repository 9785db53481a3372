import LMonitor.Http.HostAddresses
import LMonitor.Library.HttpMessage

namespace LMonitor.Dashboard
open Library HttpServer
open HttpMessage (lowerByte)

/-- The comparison with dot segments ignores the case of letters. -/
def lowerCase (text : Bytes) : Bytes := text.map lowerByte

def isSingleDot (segment : Bytes) : Bool :=
  lowerCase segment = ascii "." ∨ lowerCase segment = ascii "%2e"

def isDoubleDot (segment : Bytes) : Bool :=
  lowerCase segment = ascii ".." ∨ lowerCase segment = ascii ".%2e" ∨
    lowerCase segment = ascii "%2e." ∨ lowerCase segment = ascii "%2e%2e"

/-- Two dots take the segment before them away, and dots at the end leave an empty segment. -/
def removeDots (kept : List Bytes) : List Bytes → List Bytes
  | [] => kept
  | segment :: rest =>
      let ended := if rest = [] then [[]] else []
      if isDoubleDot segment then removeDots (kept.dropLast ++ ended) rest
      else if isSingleDot segment then removeDots (kept ++ ended) rest
      else removeDots (kept ++ [segment]) rest

/-- The browser requests the path of a URL without its dot segments. -/
def target (path : Bytes) : Bytes :=
  47 :: ([47] : Bytes).intercalate (removeDots [] ((path.drop 1).splitOn 47))

/-- The segment is no dot segment. -/
def Undotted (segment : Bytes) : Prop := isDoubleDot segment = false ∧ isSingleDot segment = false

/-- Other segments are kept in order. -/
theorem removeDots_undotted {segments : List Bytes} (plain : ∀ segment ∈ segments, Undotted segment)
    (kept : List Bytes) : removeDots kept segments = kept ++ segments := by
  induction segments generalizing kept with
  | nil => rw [removeDots, List.append_nil]
  | cons segment rest ih =>
      obtain ⟨⟨double, single⟩, others⟩ := List.forall_mem_cons.mp plain
      rw [removeDots]
      simp only [double, single, Bool.false_eq_true, if_false]
      rw [ih others, List.append_assoc, List.singleton_append]

/-- A path without dot segments is requested as it is. -/
theorem target_undotted {rest : Bytes} (plain : ∀ segment ∈ rest.splitOn 47, Undotted segment) :
    target (47 :: rest) = 47 :: rest := by
  rw [target, List.drop_one, List.tail_cons, removeDots_undotted plain, List.nil_append,
    List.intercalate_splitOn]

/-- An encoded byte is one byte, which is a dot only for the dot itself, or it is a percent sign
with two digits, which are not those of the dot. -/
theorem lowerCase_encodeByte (byte : UInt8) :
    (∃ low, lowerCase (encodeByte byte) = [low] ∧ low ≠ 37 ∧ (low = 46 → byte = 46)) ∨
      ∃ high low, lowerCase (encodeByte byte) = [37, high, low] ∧ ¬ (high = 50 ∧ low = 101) := by
  unfold encodeByte
  split
  · rename_i unreserved
    have percent : byte ≠ 37 := by
      rintro rfl
      revert unreserved
      decide
    refine .inl ⟨lowerByte byte, rfl, ?_⟩
    simp only [lowerByte, ne_eq, UInt8.le_iff_toNat_le, ← UInt8.toNat_inj] at percent ⊢
    split
    · rename_i capital
      have bound := byte.toNat_lt
      simp only [UInt8.toNat_add, UInt8.reduceToNat] at capital ⊢
      omega
    · exact ⟨percent, id⟩
  · rename_i reserved
    refine .inr ⟨_, _, rfl, ?_⟩
    rintro ⟨high, low⟩
    have digits : ∀ value < 16, (lowerByte (hexDigit value) = 50 → value = 2) ∧
        (lowerByte (hexDigit value) = 101 → value = 14) := by decide
    have bound := byte.toNat_lt
    have first := (digits (byte.toNat / 16) (by omega)).1 high
    have second := (digits (byte.toNat % 16) (by omega)).2 low
    have dot : byte = 46 := UInt8.toNat_inj.mp (show byte.toNat = 46 by omega)
    rw [dot] at reserved
    exact reserved (by decide)

theorem lowerCase_encode_cons (byte : UInt8) (text : Bytes) :
    lowerCase (encodeURIComponent (byte :: text)) =
      lowerCase (encodeByte byte) ++ lowerCase (encodeURIComponent text) := by
  simp [lowerCase, encodeURIComponent]

/-- An encoded name begins with a dot only if the name does. -/
theorem lowerCase_encode_dot {text rest : Bytes}
    (starts : lowerCase (encodeURIComponent text) = 46 :: rest) :
    ∃ others, text = 46 :: others ∧ lowerCase (encodeURIComponent others) = rest := by
  cases text with
  | nil => cases starts
  | cons byte text =>
      rw [lowerCase_encode_cons] at starts
      obtain ⟨low, single, _, dot⟩ | ⟨high, low, triple, _⟩ := lowerCase_encodeByte byte
      · rw [single] at starts
        obtain ⟨rfl, same⟩ := List.cons.inj starts
        exact ⟨text, by rw [dot rfl], same⟩
      · rw [triple] at starts
        cases starts

/-- No encoded name begins with the encoded dot. -/
theorem lowerCase_encode_percent (text rest : Bytes) :
    lowerCase (encodeURIComponent text) ≠ 37 :: 50 :: 101 :: rest := by
  intro starts
  cases text with
  | nil => cases starts
  | cons byte text =>
      rw [lowerCase_encode_cons] at starts
      obtain ⟨low, single, percent, _⟩ | ⟨high, low, triple, other⟩ := lowerCase_encodeByte byte
      · rw [single] at starts
        exact percent (List.cons.inj starts).1
      · rw [triple] at starts
        simp only [List.cons_append, List.cons.injEq] at starts
        exact other ⟨starts.2.1, starts.2.2.1⟩

/-- Only the empty name is encoded as nothing. -/
theorem lowerCase_encode_nil {text : Bytes} (empty : lowerCase (encodeURIComponent text) = []) :
    text = [] := by
  have longer := length_le_encode text
  have length := congrArg List.length empty
  rw [lowerCase, List.length_map, List.length_nil] at length
  exact List.length_eq_zero_iff.mp (by omega)

/-- Only the names that are dots themselves become dot segments. -/
theorem undotted_encode {hostname : Bytes} (single : hostname ≠ ascii ".")
    (double : hostname ≠ ascii "..") : Undotted (encodeURIComponent hostname) := by
  constructor
  · refine decide_eq_false fun dotted => ?_
    obtain dots | mixed | percent | percent := dotted
    · obtain ⟨rest, rfl, dot⟩ := lowerCase_encode_dot dots
      obtain ⟨last, rfl, empty⟩ := lowerCase_encode_dot dot
      rw [lowerCase_encode_nil empty] at double
      exact double rfl
    · obtain ⟨rest, rfl, percent⟩ := lowerCase_encode_dot mixed
      exact lowerCase_encode_percent rest [] percent
    · exact lowerCase_encode_percent hostname _ percent
    · exact lowerCase_encode_percent hostname _ percent
  · refine decide_eq_false fun dotted => ?_
    obtain dot | percent := dotted
    · obtain ⟨rest, rfl, empty⟩ := lowerCase_encode_dot dot
      rw [lowerCase_encode_nil empty] at single
      exact single rfl
    · exact lowerCase_encode_percent hostname [] percent

instance (segment : Bytes) : Decidable (Undotted segment) :=
  inferInstanceAs (Decidable (_ ∧ _))

/-- The paths of a host are requested as they are unless its name consists of one or two dots. -/
theorem target_host {hostname : Bytes} (single : hostname ≠ ascii ".")
    (double : hostname ≠ ascii "..") :
    target (detailPath hostname) = detailPath hostname ∧
      target (historyPath hostname) = historyPath hostname := by
  have api : Undotted (ascii "api") ∧ Undotted (ascii "hosts") ∧ Undotted (ascii "history") := by
    decide
  have name := undotted_encode single double
  have slash := noSlash hostname
  have bare : 47 ∉ ascii "api" ∧ 47 ∉ ascii "hosts" ∧ 47 ∉ ascii "history" := by decide
  have detail : detailPath hostname =
      47 :: (ascii "api" ++ 47 :: (ascii "hosts" ++ 47 :: encodeURIComponent hostname)) := by
    simp [detailPath, ascii]
  have history : historyPath hostname = 47 :: (ascii "api" ++ 47 :: (ascii "hosts" ++
      47 :: (encodeURIComponent hostname ++ 47 :: ascii "history"))) := by
    simp [historyPath, ascii]
  constructor
  · rw [detail]
    apply target_undotted
    rw [List.splitOn_append_cons_self_of_not_mem bare.1,
      List.splitOn_append_cons_self_of_not_mem bare.2.1, List.splitOn_eq_singleton slash]
    simp only [List.forall_mem_cons, List.not_mem_nil, false_implies, implies_true, and_true]
    exact ⟨api.1, api.2.1, name⟩
  · rw [history]
    apply target_undotted
    rw [List.splitOn_append_cons_self_of_not_mem bare.1,
      List.splitOn_append_cons_self_of_not_mem bare.2.1,
      List.splitOn_append_cons_self_of_not_mem slash, List.splitOn_eq_singleton bare.2.2]
    simp only [List.forall_mem_cons, List.not_mem_nil, false_implies, implies_true, and_true]
    exact ⟨api.1, api.2.1, name, api.2.2⟩

/-- The names that are dots lead to other paths. -/
theorem target_dots :
    target (detailPath (ascii ".")) = ascii "/api/hosts/" ∧
      target (historyPath (ascii ".")) = ascii "/api/hosts/history" ∧
        target (detailPath (ascii "..")) = ascii "/api/" ∧
          target (historyPath (ascii "..")) = ascii "/api/history" := by
  decide

/-- What is requested for a host is a plain path. -/
theorem plainPath_target (hostname : Bytes) :
    PlainPath (target (detailPath hostname)) ∧ PlainPath (target (historyPath hostname)) := by
  obtain ⟨first, second, third, fourth⟩ := target_dots
  by_cases single : hostname = ascii "."
  · rw [single, first, second]
    exact ⟨⟨by decide, List.all_eq_true.mp rfl⟩, by decide, List.all_eq_true.mp rfl⟩
  by_cases double : hostname = ascii ".."
  · rw [double, third, fourth]
    exact ⟨⟨by decide, List.all_eq_true.mp rfl⟩, by decide, List.all_eq_true.mp rfl⟩
  · rw [(target_host single double).1, (target_host single double).2]
    exact ⟨plainPath_detail hostname, plainPath_history hostname⟩

end LMonitor.Dashboard
