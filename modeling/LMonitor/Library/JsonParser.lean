import LMonitor.Library.JsonTokens

namespace LMonitor.Library.Json

def skip (text : Bytes) : Bytes := text.dropWhile isBlank

def readLiteral (text : Bytes) : Option (Json × Bytes) :=
  if (ascii "null").isPrefixOf text then some (.null, text.drop 4)
  else if (ascii "true").isPrefixOf text then some (.boolean true, text.drop 4)
  else if (ascii "false").isPrefixOf text then some (.boolean false, text.drop 5)
  else none

section Sequences
variable {A : Type}

/-- A comma stands behind every item but the last one. -/
def readItems (item : Bytes → Option (A × Bytes)) (close : UInt8) :
    Nat → Bytes → Option (List A × Bytes)
  | 0, _ => none
  | count + 1, text =>
      (item text).bind fun (first, after) =>
        match skip after with
        | [] => none
        | byte :: rest =>
            if byte = 44 then behind first (readItems item close count rest)
            else if byte = close then some ([first], rest)
            else none

/-- Every item has a byte, so the length of the text bounds their number. -/
def readSequence (item : Bytes → Option (A × Bytes)) (close : UInt8) (text : Bytes) :
    Option (List A × Bytes) :=
  match skip text with
  | [] => none
  | byte :: rest =>
      if byte = close then some ([], rest) else readItems item close text.length text

end Sequences

def readPair (readValue : Bytes → Option (Json × Bytes)) (text : Bytes) :
    Option ((Bytes × Json) × Bytes) :=
  match skip text with
  | 34 :: text =>
      (readPieces text).bind fun (pieces, text) =>
        match skip text with
        | 58 :: text => (readValue (skip text)).map fun (value, text) =>
            ((decode pieces, value), text)
        | _ => none
  | _ => none

/-- The number bounds the depth of the value. -/
def readValue : Nat → Bytes → Option (Json × Bytes)
  | 0, _ => none
  | _ + 1, 34 :: text =>
      (readPieces text).map fun (pieces, text) => (.string (decode pieces), text)
  | depth + 1, 91 :: text =>
      (readSequence (fun text => readValue depth (skip text)) 93 text).map
        fun (values, text) => (.array values, text)
  | depth + 1, 123 :: text =>
      (readSequence (readPair (readValue depth)) 125 text).map
        fun (members, text) => (.object members, text)
  | _ + 1, text => (readLiteral text).or (readNumber text)

/-- The whole text is one value between blanks. -/
def parse (text : Bytes) : Option Json :=
  (readValue text.length (skip text)).bind fun (value, rest) =>
    if skip rest = [] then some value else none

theorem skip_blank {blank : Bytes} (known : Blank blank) (text : Bytes) :
    skip (blank ++ text) = skip text :=
  List.dropWhile_append_of_pos known

theorem skip_visible {byte : UInt8} (visible : isBlank byte = false) (text : Bytes) :
    skip (byte :: text) = byte :: text := by
  rw [skip, List.dropWhile_cons_of_neg (by simp [visible])]

/-- What is skipped is blank. -/
theorem skip_cases (text : Bytes) : ∃ blank, Blank blank ∧ text = blank ++ skip text :=
  ⟨_, fun _ => List.mem_takeWhile_imp, List.takeWhile_append_dropWhile.symm⟩

/-- The text has a visible byte first, and it is not this one. -/
def Starts (close : UInt8) (text : Bytes) : Prop :=
  ∃ byte rest, text = byte :: rest ∧ isBlank byte = false ∧ byte ≠ close

/-- A digit is distinct from all other first bytes of a value. -/
theorem digit_first {byte : UInt8} (digit : isDigit byte = true) :
    isBlank byte = false ∧ byte ≠ 93 ∧ byte ≠ 34 ∧ byte ≠ 91 ∧ byte ≠ 123 ∧ byte ≠ 110 ∧
      byte ≠ 116 ∧ byte ≠ 102 := by
  simp only [isDigit, decide_eq_true_eq, UInt8.le_iff_toNat_le] at digit
  have large : 48 ≤ byte.toNat := digit.1
  have small : byte.toNat ≤ 57 := digit.2
  have apart : ∀ other : UInt8, other.toNat < 48 ∨ 57 < other.toNat → byte ≠ other := by
    rintro other range rfl
    omega
  refine ⟨?_, apart _ (by decide), apart _ (by decide), apart _ (by decide), apart _ (by decide),
    apart _ (by decide), apart _ (by decide), apart _ (by decide)⟩
  simp [isBlank, apart 32 (by decide), apart 9 (by decide), apart 10 (by decide),
    apart 13 (by decide)]

/-- A number starts with a sign or a digit. -/
theorem number_first {text : Bytes} (known : Number text) :
    ∃ byte rest, text = byte :: rest ∧ (byte = 45 ∨ isDigit byte = true) := by
  obtain ⟨sign, whole, fraction, exponent, signed, integer, _, _, rfl⟩ := known
  obtain rfl | rfl := signed
  · cases whole with
    | nil => exact absurd rfl integer.1.1
    | cons byte whole => exact ⟨byte, _, rfl, .inr (integer.1.2 byte List.mem_cons_self)⟩
  · exact ⟨45, _, rfl, .inl rfl⟩

/-- A value does not begin with a closing bracket. -/
theorem value_starts {text : Bytes} {value : Json} (known : Denotes text (.value value)) :
    Starts 93 text := by
  cases known with
  | null => exact ⟨_, _, rfl, by decide, by decide⟩
  | boolean value => cases value <;> exact ⟨_, _, rfl, by decide, by decide⟩
  | number known =>
      obtain ⟨byte, rest, rfl, rfl | digit⟩ := number_first known
      · exact ⟨_, _, rfl, by decide, by decide⟩
      · exact ⟨_, _, rfl, (digit_first digit).1, (digit_first digit).2.1⟩
  | string known => exact ⟨34, _, rfl, by decide, by decide⟩
  | array known => exact ⟨91, _, rfl, by decide, by decide⟩
  | object known => exact ⟨123, _, rfl, by decide, by decide⟩

section Complete
variable {A : Type} {item : Nat → Bytes → Option (A × Bytes)} {close : UInt8}

/-- An item is read up to the next delimiter if the depth suffices. -/
def ItemReads (item : Nat → Bytes → Option (A × Bytes)) (text : Bytes) (value : A) : Prop :=
  ∀ depth byte rest, text.length ≤ depth → isNumberByte byte = false → isBlank byte = false →
    ∃ after, item depth (text ++ byte :: rest) = some (value, after) ∧ skip after = byte :: rest

/-- Something other than the closing byte stands behind the blanks. -/
def Opens (close : UInt8) (text : Bytes) : Prop :=
  ∃ blank visible, Blank blank ∧ Starts close visible ∧ text = blank ++ visible

/-- The items are read up to the closing byte if the depth and the count suffice. -/
def ItemsRead (item : Nat → Bytes → Option (A × Bytes)) (close : UInt8) (text : Bytes)
    (items : List A) : Prop :=
  (items = [] ∧ Blank text) ∨
    Opens close text ∧ ∀ depth count rest, text.length ≤ depth → text.length ≤ count →
      readItems (item depth) close count (text ++ close :: rest) = some (items, rest)

theorem starts_append {text : Bytes} (starts : Starts close text) (rest : Bytes) :
    Starts close (text ++ rest) := by
  obtain ⟨byte, more, rfl, visible, apart⟩ := starts
  exact ⟨byte, more ++ rest, rfl, visible, apart⟩

theorem Opens.append {text : Bytes} (opens : Opens close text) (rest : Bytes) :
    Opens close (text ++ rest) := by
  obtain ⟨blank, visible, known, starts, rfl⟩ := opens
  exact ⟨blank, _, known, starts_append starts rest, List.append_assoc _ _ _⟩

theorem Opens.length_pos {text : Bytes} (opens : Opens close text) : 0 < text.length := by
  obtain ⟨blank, visible, _, ⟨byte, more, rfl, _⟩, rfl⟩ := opens
  rw [List.length_append, List.length_cons]
  omega

/-- The last item ends in front of the closing byte. -/
theorem itemsRead_last {text : Bytes} {value : A} (apart : close ≠ 44)
    (delimits : isNumberByte close = false) (visible : isBlank close = false)
    (reads : ItemReads item text value) (opens : Opens close text) :
    ItemsRead item close text [value] := by
  refine .inr ⟨opens, ?_⟩
  intro depth count rest deep many
  obtain ⟨after, read, next⟩ := reads depth close rest deep delimits visible
  have nonempty := opens.length_pos
  cases count with
  | zero => omega
  | succ count => simp [readItems, read, next, apart]

/-- An item in front of a comma is followed by the other items. -/
theorem itemsRead_next {text later : Bytes} {value second : A} {items : List A}
    (reads : ItemReads item text value) (opens : Opens close text)
    (others : ItemsRead item close later (second :: items)) :
    ItemsRead item close (text ++ 44 :: later) (value :: second :: items) := by
  obtain ⟨none, _⟩ | ⟨_, others⟩ := others
  · cases none
  · refine .inr ⟨opens.append _, ?_⟩
    intro depth count rest deep many
    simp only [List.length_append, List.length_cons] at deep many
    obtain ⟨after, read, next⟩ :=
      reads depth 44 (later ++ close :: rest) (by omega) (by decide) (by decide)
    cases count with
    | zero => omega
    | succ count =>
        have follow := others depth count rest (by omega) (by omega)
        rw [List.append_assoc, List.cons_append, readItems, read, Option.bind_some]
        simp [next, follow]

/-- Every sequence of the grammar is read. -/
theorem readSequence_complete {text : Bytes} {items : List A} (visible : isBlank close = false)
    (known : ItemsRead item close text items) {depth : Nat} (deep : text.length ≤ depth)
    (rest : Bytes) :
    readSequence (item depth) close (text ++ close :: rest) = some (items, rest) := by
  obtain ⟨rfl, blank⟩ | ⟨⟨blank, shown, known, starts, same⟩, read⟩ := known
  · simp [readSequence, skip_blank blank, skip_visible visible]
  · have whole := read depth (text ++ close :: rest).length rest deep (by simp)
    obtain ⟨byte, more, first, seen, apart⟩ := starts_append starts (close :: rest)
    have front : skip (text ++ close :: rest) = byte :: more := by
      rw [same, List.append_assoc, skip_blank known, first, skip_visible seen]
    rw [readSequence, front]
    simp only [apart, if_false]
    exact whole

end Complete

/-- This is what the reader makes of a phrase. -/
def ReadAs (text : Bytes) : Phrase → Prop
  | .value value => ∀ depth rest, text.length ≤ depth → Without isNumberByte rest →
      readValue depth (text ++ rest) = some (value, rest)
  | .elements values =>
      ItemsRead (fun depth text => readValue depth (skip text)) 93 text values
  | .members members => ItemsRead (fun depth => readPair (readValue depth)) 125 text members

/-- Blanks delimit a value. -/
theorem without_delimiter {blank : Bytes} (known : Blank blank) {byte : UInt8}
    (delimits : isNumberByte byte = false) (rest : Bytes) :
    Without isNumberByte (blank ++ byte :: rest) := by
  cases blank with
  | nil => exact fun first same => by cases same; exact delimits
  | cons first blank =>
      intro head same
      obtain rfl : first = head := Option.some.inj same
      have seen := known first List.mem_cons_self
      simp only [isBlank, decide_eq_true_eq] at seen
      rcases seen with rfl | rfl | rfl | rfl <;> rfl

/-- A padded value is read as an item. -/
theorem itemReads_value {padded text : Bytes} {value : Json} (shape : Padded padded text)
    (denotes : Denotes text (.value value)) (known : ReadAs text (.value value)) :
    ItemReads (fun depth text => readValue depth (skip text)) padded value := by
  obtain ⟨before, after, front, back, rfl⟩ := shape
  intro depth byte rest deep delimits visible
  obtain ⟨first, more, rfl, seen, _⟩ := value_starts denotes
  simp only [List.length_append] at deep
  refine ⟨after ++ byte :: rest, ?_, ?_⟩
  · have read := known depth (after ++ byte :: rest) (by omega)
      (without_delimiter back delimits rest)
    simpa [skip_blank front, skip_visible seen] using read
  · rw [skip_blank back, skip_visible visible]

theorem opens_padded {padded text : Bytes} (shape : Padded padded text) {close : UInt8}
    (starts : Starts close text) : Opens close padded := by
  obtain ⟨before, after, front, _, rfl⟩ := shape
  exact ⟨before, text ++ after, front, starts_append starts after, List.append_assoc _ _ _⟩

/-- A padded pair is read as an item. -/
theorem itemReads_pair {name body key padded text : Bytes} {value : Json}
    (named : Padded name (34 :: body ++ [34])) (known : Characters body key)
    (shape : Padded padded text) (denotes : Denotes text (.value value))
    (read : ReadAs text (.value value)) :
    ItemReads (fun depth => readPair (readValue depth)) (name ++ 58 :: padded) (key, value) := by
  obtain ⟨before, after, front, back, rfl⟩ := named
  intro depth byte rest deep delimits visible
  simp only [List.length_append, List.length_cons] at deep
  obtain ⟨last, found, next⟩ :=
    itemReads_value shape denotes read depth byte rest (by omega) delimits visible
  refine ⟨last, ?_, next⟩
  obtain ⟨pieces, spelled, decoded⟩ :=
    readPieces_characters known (after ++ 58 :: (padded ++ byte :: rest))
  have quoted : skip (before ++ (34 :: body ++ [34]) ++ after ++ 58 :: padded ++ byte :: rest) =
      34 :: (body ++ 34 :: (after ++ 58 :: (padded ++ byte :: rest))) := by
    simp only [List.append_assoc, List.cons_append, List.nil_append]
    rw [skip_blank front, skip_visible (by decide)]
  have colon : skip (after ++ 58 :: (padded ++ byte :: rest)) = 58 :: (padded ++ byte :: rest) := by
    rw [skip_blank back, skip_visible (by decide)]
  simp only [readPair, quoted, spelled, Option.bind_some, colon, found, Option.map_some, decoded]

theorem opens_pair {name body : Bytes} (named : Padded name (34 :: body ++ [34]))
    (rest : Bytes) : Opens 125 (name ++ rest) :=
  (opens_padded named ⟨34, _, rfl, by decide, by decide⟩).append rest

/-- A text with another first byte does not begin with the word. -/
theorem isPrefixOf_apart {first byte : UInt8} {word text : Bytes} (apart : byte ≠ first) :
    (first :: word).isPrefixOf (byte :: text) = false := by
  simp [List.isPrefixOf, apart.symm]

theorem readAs_number {text : Bytes} (known : Number text) :
    ReadAs text (.value (.number text)) := by
  intro depth rest deep ends
  obtain ⟨byte, more, rfl, first⟩ := number_first known
  have read := readNumber_number known ends
  have apart : byte ≠ 34 ∧ byte ≠ 91 ∧ byte ≠ 123 ∧ byte ≠ 110 ∧ byte ≠ 116 ∧ byte ≠ 102 := by
    obtain rfl | digit := first
    · decide
    · have others := digit_first digit
      tauto
  cases depth with
  | zero => simp at deep
  | succ depth =>
      rw [List.cons_append] at read ⊢
      rw [readValue.eq_def]
      split
      case h_1 same => cases same
      case h_2 same => exact absurd (List.cons.inj same).1 apart.1
      case h_3 same => exact absurd (List.cons.inj same).1 apart.2.1
      case h_4 same => exact absurd (List.cons.inj same).1 apart.2.2.1
      case h_5 =>
        have noNull : (ascii "null").isPrefixOf (byte :: (more ++ rest)) = false :=
          isPrefixOf_apart apart.2.2.2.1
        have noTrue : (ascii "true").isPrefixOf (byte :: (more ++ rest)) = false :=
          isPrefixOf_apart apart.2.2.2.2.1
        have noFalse : (ascii "false").isPrefixOf (byte :: (more ++ rest)) = false :=
          isPrefixOf_apart apart.2.2.2.2.2
        have none : readLiteral (byte :: (more ++ rest)) = none := by
          simp only [readLiteral, noNull, noTrue, noFalse, Bool.false_eq_true, if_false]
        rw [none, Option.none_or, read]

/-- Every phrase is read as what it denotes. -/
theorem readAs_denotes {text : Bytes} {phrase : Phrase} (known : Denotes text phrase) :
    ReadAs text phrase := by
  induction known with
  | null =>
      intro depth rest deep _
      cases depth with
      | zero => cases deep
      | succ depth => rfl
  | boolean value =>
      intro depth rest deep _
      cases depth with
      | zero => cases value <;> cases deep
      | succ depth => cases value <;> rfl
  | number known => exact readAs_number known
  | string known =>
      intro depth rest deep _
      cases depth with
      | zero => cases deep
      | succ depth =>
          obtain ⟨pieces, read, decoded⟩ := readPieces_characters known rest
          simp only [List.cons_append, List.append_assoc, List.nil_append, readValue, read,
            Option.map_some, decoded]
  | array _ read =>
      intro depth rest deep _
      cases depth with
      | zero => cases deep
      | succ depth =>
          simp only [List.length_append, List.length_cons, List.length_nil] at deep
          have sequence := readSequence_complete (by decide) read
            (show _ ≤ depth by omega) rest
          simp only [List.cons_append, List.append_assoc, List.nil_append, readValue, sequence,
            Option.map_some]
  | object _ read =>
      intro depth rest deep _
      cases depth with
      | zero => cases deep
      | succ depth =>
          simp only [List.length_append, List.length_cons, List.length_nil] at deep
          have sequence := readSequence_complete (by decide) read
            (show _ ≤ depth by omega) rest
          simp only [List.cons_append, List.append_assoc, List.nil_append, readValue, sequence,
            Option.map_some]
  | noElement blank => exact .inl ⟨rfl, blank⟩
  | noMember blank => exact .inl ⟨rfl, blank⟩
  | lastElement shape denotes read =>
      exact itemsRead_last (by decide) (by decide) (by decide)
        (itemReads_value shape denotes read) (opens_padded shape (value_starts denotes))
  | nextElement shape denotes _ read others =>
      exact itemsRead_next (itemReads_value shape denotes read)
        (opens_padded shape (value_starts denotes)) others
  | lastMember named key shape denotes read =>
      exact itemsRead_last (by decide) (by decide) (by decide)
        (itemReads_pair named key shape denotes read) (opens_pair named _)
  | nextMember named key shape denotes _ read others =>
      exact itemsRead_next (itemReads_pair named key shape denotes read) (opens_pair named _) others

section Sound
variable {A : Type} {item : Bytes → Option (A × Bytes)} {close : UInt8}

/-- The texts of sequences are made of the texts of items. -/
structure Sequences (Item : Bytes → A → Prop) (Items : Bytes → List A → Prop) : Prop where
  empty : ∀ blank, Blank blank → Items blank []
  last : ∀ used value blank, Item used value → Blank blank → Items (used ++ blank) [value]
  next : ∀ used value blank later second others, Item used value → Blank blank →
    Items later (second :: others) →
      Items (used ++ blank ++ 44 :: later) (value :: second :: others)

/-- The items that are read are items of the grammar. -/
theorem readItems_sound {Item : Bytes → A → Prop} {Items : Bytes → List A → Prop}
    (grammar : Sequences Item Items)
    (sound : ∀ text value rest, item text = some (value, rest) →
      ∃ used, text = used ++ rest ∧ Item used value)
    {count : Nat} {text rest : Bytes} {items : List A}
    (read : readItems item close count text = some (items, rest)) :
    items ≠ [] ∧ ∃ used, text = used ++ close :: rest ∧ Items used items := by
  induction count generalizing text items with
  | zero => cases read
  | succ count ih =>
      rw [readItems, Option.bind_eq_some_iff] at read
      obtain ⟨⟨first, after⟩, found, read⟩ := read
      obtain ⟨used, rfl, known⟩ := sound text first after found
      obtain ⟨blank, blanks, same⟩ := skip_cases after
      dsimp only at read
      split at read
      case h_1 => cases read
      case h_2 byte later stop =>
        rw [stop] at same
        split at read
        case isTrue comma =>
          subst comma
          obtain ⟨others, follow, rfl⟩ := behind_eq_some.mp read
          obtain ⟨nonempty, more, rfl, rest⟩ := ih follow
          cases others with
          | nil => exact absurd rfl nonempty
          | cons second others =>
              refine ⟨List.cons_ne_nil _ _, _, ?_,
                grammar.next used first blank more second others known blanks rest⟩
              simp [same]
        case isFalse =>
          rw [Option.ite_none_right_eq_some, Option.some.injEq, Prod.mk.injEq] at read
          obtain ⟨rfl, rfl, rfl⟩ := read
          refine ⟨List.cons_ne_nil _ _, _, ?_, grammar.last used first blank known blanks⟩
          simp [same]

/-- A sequence that is read is one of the grammar. -/
theorem readSequence_sound {Item : Bytes → A → Prop} {Items : Bytes → List A → Prop}
    (grammar : Sequences Item Items)
    (sound : ∀ text value rest, item text = some (value, rest) →
      ∃ used, text = used ++ rest ∧ Item used value)
    {text rest : Bytes} {items : List A}
    (read : readSequence item close text = some (items, rest)) :
    ∃ used, text = used ++ close :: rest ∧ Items used items := by
  obtain ⟨blank, blanks, same⟩ := skip_cases text
  unfold readSequence at read
  split at read
  case h_1 => cases read
  case h_2 byte after stop =>
    split at read
    case isTrue closed =>
      obtain ⟨rfl, rfl⟩ := Prod.mk.inj (Option.some.inj read)
      exact ⟨blank, by rw [← closed, ← stop, ← same], grammar.empty blank blanks⟩
    case isFalse => exact (readItems_sound grammar sound read).2

end Sound

/-- A literal that is read is one of the grammar. -/
theorem readLiteral_sound {text rest : Bytes} {value : Json}
    (read : readLiteral text = some (value, rest)) :
    ∃ used, text = used ++ rest ∧ Denotes used (.value value) := by
  have front : ∀ word : Bytes, word.isPrefixOf text = true → text = word ++ text.drop word.length :=
    fun word found => (List.prefix_iff_eq_append.mp (List.isPrefixOf_iff_prefix.mp found)).symm
  unfold readLiteral at read
  split at read
  case isTrue found =>
    obtain ⟨rfl, rfl⟩ := Prod.mk.inj (Option.some.inj read)
    exact ⟨_, front _ found, .null⟩
  case isFalse =>
    split at read
    case isTrue found =>
      obtain ⟨rfl, rfl⟩ := Prod.mk.inj (Option.some.inj read)
      exact ⟨_, front _ found, .boolean true⟩
    case isFalse =>
      rw [Option.ite_none_right_eq_some, Option.some.injEq, Prod.mk.injEq] at read
      obtain ⟨found, rfl, rfl⟩ := read
      exact ⟨_, front _ found, .boolean false⟩

/-- The text of an element is a value behind blanks. -/
def ElementText (text : Bytes) (value : Json) : Prop :=
  ∃ blank body, Blank blank ∧ text = blank ++ body ∧ Denotes body (.value value)

/-- The text of a member is a name, a colon and a value behind blanks. -/
def PairText (text : Bytes) (member : Bytes × Json) : Prop :=
  ∃ name body padded, Padded name (34 :: body ++ [34]) ∧ Characters body member.1 ∧
    ElementText padded member.2 ∧ text = name ++ 58 :: padded

theorem ElementText.padded {text blank : Bytes} {value : Json} (known : ElementText text value)
    (blanks : Blank blank) : ∃ body, Padded (text ++ blank) body ∧ Denotes body (.value value) := by
  obtain ⟨before, body, front, rfl, denotes⟩ := known
  exact ⟨body, ⟨before, blank, front, blanks, rfl⟩, denotes⟩

/-- An element that is read is one of the grammar. -/
theorem readElement_sound {depth : Nat}
    (sound : ∀ text value rest, readValue depth text = some (value, rest) →
      ∃ used, text = used ++ rest ∧ Denotes used (.value value))
    (text : Bytes) (value : Json) (rest : Bytes)
    (read : readValue depth (skip text) = some (value, rest)) :
    ∃ used, text = used ++ rest ∧ ElementText used value := by
  obtain ⟨blank, blanks, same⟩ := skip_cases text
  obtain ⟨used, next, denotes⟩ := sound _ _ _ read
  exact ⟨blank ++ used, by rw [same, next, List.append_assoc], blank, used, blanks, rfl, denotes⟩

/-- A pair that is read is one of the grammar. -/
theorem readPair_sound {depth : Nat}
    (sound : ∀ text value rest, readValue depth text = some (value, rest) →
      ∃ used, text = used ++ rest ∧ Denotes used (.value value))
    (text : Bytes) (member : Bytes × Json) (rest : Bytes)
    (read : readPair (readValue depth) text = some (member, rest)) :
    ∃ used, text = used ++ rest ∧ PairText used member := by
  obtain ⟨before, front, same⟩ := skip_cases text
  unfold readPair at read
  split at read
  case h_2 => cases read
  case h_1 quoted open_ =>
    rw [Option.bind_eq_some_iff] at read
    obtain ⟨⟨pieces, after⟩, spelled, read⟩ := read
    obtain ⟨body, rfl, known⟩ := characters_readPieces spelled
    obtain ⟨blank, blanks, rest_⟩ := skip_cases after
    dsimp only at read
    split at read
    case h_2 => cases read
    case h_1 valued colon =>
      rw [Option.map_eq_some_iff] at read
      obtain ⟨⟨value, later⟩, found, shown⟩ := read
      obtain ⟨rfl, rfl⟩ := Prod.mk.inj shown
      obtain ⟨used, rest, denotes⟩ := sound _ _ _ found
      obtain ⟨last, lasting, next⟩ := skip_cases valued
      refine ⟨before ++ (34 :: body ++ [34]) ++ blank ++ 58 :: (last ++ used), ?_, _, body, _,
        ⟨before, blank, front, blanks, rfl⟩, known, ⟨last, used, lasting, rfl, denotes⟩, rfl⟩
      rw [same, open_, rest_, colon, next, rest]
      simp

theorem elementSequences :
    Sequences ElementText fun text values => Denotes text (.elements values) where
  empty := fun _ blank => .noElement blank
  last := fun _ _ _ known blanks => by
    obtain ⟨body, shape, denotes⟩ := known.padded blanks
    exact .lastElement shape denotes
  next := fun _ _ _ _ _ _ known blanks rest => by
    obtain ⟨body, shape, denotes⟩ := known.padded blanks
    exact .nextElement shape denotes rest

theorem pairSequences : Sequences PairText fun text members => Denotes text (.members members) where
  empty := fun _ blank => .noMember blank
  last := fun used member blank known blanks => by
    obtain ⟨name, body, padded, named, key, value, rfl⟩ := known
    obtain ⟨text, shape, denotes⟩ := value.padded blanks
    rw [List.append_assoc, List.cons_append]
    exact .lastMember named key shape denotes
  next := fun used member blank later second others known blanks rest => by
    obtain ⟨name, body, padded, named, key, value, rfl⟩ := known
    obtain ⟨text, shape, denotes⟩ := value.padded blanks
    have whole := Denotes.nextMember named key shape denotes rest
    simpa using whole

/-- Whatever the reader accepts denotes the value that it returns. -/
theorem readValue_sound {depth : Nat} (text : Bytes) (value : Json) (rest : Bytes)
    (read : readValue depth text = some (value, rest)) :
    ∃ used, text = used ++ rest ∧ Denotes used (.value value) := by
  induction depth generalizing text value rest with
  | zero => cases read
  | succ depth ih =>
      unfold readValue at read
      split at read
      case h_1 impossible => cases impossible
      case h_2 =>
        rw [Option.map_eq_some_iff] at read
        obtain ⟨⟨pieces, after⟩, spelled, shown⟩ := read
        obtain ⟨rfl, rfl⟩ := Prod.mk.inj shown
        obtain ⟨body, rfl, known⟩ := characters_readPieces spelled
        exact ⟨34 :: body ++ [34], by simp, .string known⟩
      case h_3 same =>
        obtain rfl := Nat.succ.inj same
        rw [Option.map_eq_some_iff] at read
        obtain ⟨⟨values, after⟩, sequence, shown⟩ := read
        obtain ⟨rfl, rfl⟩ := Prod.mk.inj shown
        obtain ⟨body, rfl, known⟩ :=
          readSequence_sound elementSequences (readElement_sound ih) sequence
        exact ⟨91 :: body ++ [93], by simp, .array known⟩
      case h_4 same =>
        obtain rfl := Nat.succ.inj same
        rw [Option.map_eq_some_iff] at read
        obtain ⟨⟨members, after⟩, sequence, shown⟩ := read
        obtain ⟨rfl, rfl⟩ := Prod.mk.inj shown
        obtain ⟨body, rfl, known⟩ := readSequence_sound pairSequences (readPair_sound ih) sequence
        exact ⟨123 :: body ++ [125], by simp, .object known⟩
      case h_5 =>
        rw [Option.or_eq_some_iff] at read
        obtain read | ⟨_, read⟩ := read
        · exact readLiteral_sound read
        · exact readNumber_sound read

/-- The parser reads exactly the JSON texts, and each of them as what it denotes. -/
theorem parse_iff {text : Bytes} {value : Json} : parse text = some value ↔ Reads text value := by
  constructor
  · intro parsed
    rw [parse, Option.bind_eq_some_iff] at parsed
    obtain ⟨⟨found, rest⟩, read, parsed⟩ := parsed
    rw [Option.ite_none_right_eq_some, Option.some.injEq] at parsed
    obtain ⟨ended, rfl⟩ := parsed
    obtain ⟨blank, blanks, same⟩ := skip_cases text
    obtain ⟨after, afters, last⟩ := skip_cases rest
    obtain ⟨used, next, denotes⟩ := readValue_sound _ _ _ read
    refine ⟨used, ⟨blank, after, blanks, afters, ?_⟩, denotes⟩
    rw [same, next, last, ended, List.append_nil, List.append_assoc]
  · rintro ⟨body, ⟨before, after, front, back, rfl⟩, denotes⟩
    obtain ⟨byte, more, rfl, visible, _⟩ := value_starts denotes
    have ends : Without isNumberByte after := by
      have delimited := without_delimiter back (show isNumberByte 44 = false from rfl) []
      intro byte first
      exact delimited byte (by cases after <;> simp_all)
    have deep : (byte :: more).length ≤ (before ++ byte :: more ++ after).length := by
      simp only [List.length_append]
      omega
    have read := readAs_denotes denotes _ after deep ends
    have none : skip after = [] := by
      have := skip_blank back []
      rwa [List.append_nil] at this
    rw [parse, List.append_assoc, skip_blank front, List.cons_append, skip_visible visible]
    rw [List.append_assoc] at read
    rw [← List.cons_append, read, Option.bind_some]
    exact if_pos none

end LMonitor.Library.Json
