import LMonitor.Library.Json

namespace LMonitor.Library.Json

/-- The sign of an exponent is optional. -/
def exponentDigits : Bytes → Bytes
  | 43 :: digits => digits
  | 45 :: digits => digits
  | digits => digits

def isExponent : Bytes → Bool
  | [] => true
  | e :: text => decide (e = 101 ∨ e = 69) && decide (Digits (exponentDigits text))

def isFractional : Bytes → Bool
  | 46 :: text => text.takeWhile isDigit ≠ [] && isExponent (text.dropWhile isDigit)
  | text => isExponent text

def isUnsigned (text : Bytes) : Bool :=
  decide (Integer (text.takeWhile isDigit)) && isFractional (text.dropWhile isDigit)

def isNumber : Bytes → Bool
  | 45 :: text => isUnsigned text
  | text => isUnsigned text

/-- The token of a number ends before the first byte that no number has. -/
def isNumberByte (byte : UInt8) : Bool :=
  isDigit byte || decide (byte = 43 ∨ byte = 45 ∨ byte = 46 ∨ byte = 69 ∨ byte = 101)

def readNumber (text : Bytes) : Option (Json × Bytes) :=
  if isNumber (text.takeWhile isNumberByte) then
    some (.number (text.takeWhile isNumberByte), text.dropWhile isNumberByte)
  else none

/-- The text starts with no byte of this kind. -/
def Without (kind : UInt8 → Bool) (text : Bytes) : Prop := ∀ byte ∈ text.head?, kind byte = false

/-- A run of one kind of bytes ends where no byte of the kind follows. -/
theorem takeWhile_run {kind : UInt8 → Bool} {run rest : Bytes}
    (inside : ∀ byte ∈ run, kind byte = true) (ends : Without kind rest) :
    (run ++ rest).takeWhile kind = run ∧ (run ++ rest).dropWhile kind = rest := by
  have stop : rest.takeWhile kind = [] ∧ rest.dropWhile kind = rest := by
    cases rest with
    | nil => exact ⟨rfl, rfl⟩
    | cons byte rest =>
        have first : kind byte = false := ends byte rfl
        simp [first]
  rw [List.takeWhile_append_of_pos inside, List.dropWhile_append_of_pos inside, stop.1, stop.2,
    List.append_nil]
  exact ⟨rfl, rfl⟩

theorem isExponent_iff (text : Bytes) : isExponent text = true ↔ Exponent text := by
  cases text with
  | nil => simp [isExponent, Exponent]
  | cons e text =>
      simp only [isExponent, Bool.and_eq_true, decide_eq_true_eq, Exponent, List.cons_ne_nil,
        false_or]
      constructor
      · rintro ⟨letter, digits⟩
        unfold exponentDigits at digits
        split at digits
        · exact ⟨e, [43], _, letter, .inr (.inl rfl), digits, rfl⟩
        · exact ⟨e, [45], _, letter, .inr (.inr rfl), digits, rfl⟩
        · exact ⟨e, [], _, letter, .inl rfl, digits, rfl⟩
      · rintro ⟨f, sign, digits, letter, signed, known, same⟩
        simp only [List.cons_append, List.cons.injEq] at same
        obtain ⟨rfl, rfl⟩ := same
        refine ⟨letter, ?_⟩
        obtain rfl | rfl | rfl := signed
        · cases digits with
          | nil => exact absurd rfl known.1
          | cons byte digits =>
              have digit := known.2 byte List.mem_cons_self
              have plain : exponentDigits (byte :: digits) = byte :: digits := by
                unfold exponentDigits
                split
                · rename_i found
                  obtain ⟨rfl, _⟩ := List.cons.inj found
                  exact absurd digit (by decide)
                · rename_i found
                  obtain ⟨rfl, _⟩ := List.cons.inj found
                  exact absurd digit (by decide)
                · rfl
              rw [List.nil_append, plain]
              exact known
        · exact known
        · exact known

/-- An exponent begins with neither a digit nor a point. -/
theorem exponent_first {text : Bytes} (known : Exponent text) :
    Without isDigit text ∧ text.head? ≠ some 46 := by
  obtain rfl | ⟨e, sign, digits, letter, _, _, rfl⟩ := known
  · simp [Without]
  · obtain rfl | rfl := letter
    · exact ⟨fun byte first => by cases first; rfl, by simp⟩
    · exact ⟨fun byte first => by cases first; rfl, by simp⟩

theorem isFractional_iff (text : Bytes) : isFractional text = true ↔
    ∃ fraction exponent, Fraction fraction ∧ Exponent exponent ∧ text = fraction ++ exponent := by
  unfold isFractional
  split
  case h_1 text =>
    simp only [Bool.and_eq_true, decide_eq_true_eq, isExponent_iff]
    constructor
    · rintro ⟨digits, exponent⟩
      refine ⟨46 :: text.takeWhile isDigit, text.dropWhile isDigit, ?_, exponent, ?_⟩
      · exact .inr ⟨_, ⟨digits, fun byte => List.mem_takeWhile_imp⟩, rfl⟩
      · rw [List.cons_append, List.takeWhile_append_dropWhile]
    · rintro ⟨fraction, exponent, fractional, known, same⟩
      obtain rfl | ⟨digits, run, rfl⟩ := fractional
      · exact absurd (congrArg List.head? same.symm) (exponent_first known).2
      · simp only [List.cons_append, List.cons.injEq, true_and] at same
        subst same
        obtain ⟨taken, dropped⟩ := takeWhile_run run.2 (exponent_first known).1
        rw [taken, dropped]
        exact ⟨run.1, known⟩
  case h_2 other =>
    rw [isExponent_iff]
    constructor
    · exact fun known => ⟨[], text, .inl rfl, known, rfl⟩
    · rintro ⟨fraction, exponent, fractional, known, rfl⟩
      obtain rfl | ⟨digits, _, rfl⟩ := fractional
      · exact known
      · exact absurd rfl (other (digits ++ exponent))

/-- The test for an unsigned number is that of the grammar. -/
theorem isUnsigned_iff (text : Bytes) : isUnsigned text = true ↔
    ∃ whole fraction exponent, Integer whole ∧ Fraction fraction ∧ Exponent exponent ∧
      text = whole ++ fraction ++ exponent := by
  rw [isUnsigned, Bool.and_eq_true, decide_eq_true_eq, isFractional_iff]
  constructor
  · rintro ⟨integer, fraction, exponent, fractional, known, rest⟩
    exact ⟨_, fraction, exponent, integer, fractional, known, by
      rw [List.append_assoc, ← rest, List.takeWhile_append_dropWhile]⟩
  · rintro ⟨whole, fraction, exponent, integer, fractional, known, rfl⟩
    have ends : Without isDigit (fraction ++ exponent) := by
      obtain rfl | ⟨digits, _, rfl⟩ := fractional
      · exact (exponent_first known).1
      · exact fun byte first => by cases first; rfl
    obtain ⟨taken, dropped⟩ := takeWhile_run integer.1.2 ends
    rw [List.append_assoc, taken, dropped]
    exact ⟨integer, fraction, exponent, fractional, known, rfl⟩

/-- The test decides the grammar of numbers. -/
theorem isNumber_iff (text : Bytes) : isNumber text = true ↔ Number text := by
  unfold isNumber
  split
  case h_1 text =>
    rw [isUnsigned_iff]
    constructor
    · rintro ⟨whole, fraction, exponent, integer, fractional, known, rfl⟩
      exact ⟨[45], whole, fraction, exponent, .inr rfl, integer, fractional, known, rfl⟩
    · rintro ⟨sign, whole, fraction, exponent, signed, integer, fractional, known, same⟩
      obtain rfl | rfl := signed
      · cases whole with
        | nil => exact absurd rfl integer.1.1
        | cons byte whole =>
            obtain ⟨rfl, _⟩ := List.cons.inj same
            exact absurd (integer.1.2 45 List.mem_cons_self) (by decide)
      · exact ⟨whole, fraction, exponent, integer, fractional, known, (List.cons.inj same).2⟩
  case h_2 other =>
    rw [isUnsigned_iff]
    constructor
    · rintro ⟨whole, fraction, exponent, integer, fractional, known, rfl⟩
      exact ⟨[], whole, fraction, exponent, .inl rfl, integer, fractional, known, rfl⟩
    · rintro ⟨sign, whole, fraction, exponent, signed, integer, fractional, known, rfl⟩
      obtain rfl | rfl := signed
      · exact ⟨whole, fraction, exponent, integer, fractional, known, rfl⟩
      · exact absurd rfl (other (whole ++ fraction ++ exponent))

theorem isNumberByte_isDigit {byte : UInt8} (digit : isDigit byte = true) :
    isNumberByte byte = true := by
  rw [isNumberByte, digit, Bool.true_or]

theorem isNumberByte_number {text : Bytes} (known : Number text) :
    ∀ byte ∈ text, isNumberByte byte = true := by
  obtain ⟨sign, whole, fraction, exponent, signed, integer, fractional, scaled, rfl⟩ := known
  intro byte member
  simp only [List.mem_append] at member
  obtain ((inSign | inWhole) | inFraction) | inExponent := member
  · obtain rfl | rfl := signed
    · cases inSign
    · rw [List.mem_singleton.mp inSign]
      rfl
  · exact isNumberByte_isDigit (integer.1.2 byte inWhole)
  · obtain rfl | ⟨digits, run, rfl⟩ := fractional
    · cases inFraction
    · obtain rfl | inDigits := List.mem_cons.mp inFraction
      · rfl
      · exact isNumberByte_isDigit (run.2 byte inDigits)
  · obtain rfl | ⟨e, sign, digits, letter, marked, run, rfl⟩ := scaled
    · cases inExponent
    · simp only [List.cons_append, List.mem_cons, List.mem_append] at inExponent
      obtain rfl | inSign | inDigits := inExponent
      · obtain rfl | rfl := letter <;> rfl
      · obtain rfl | rfl | rfl := marked
        · cases inSign
        · rw [List.mem_singleton.mp inSign]
          rfl
        · rw [List.mem_singleton.mp inSign]
          rfl
      · exact isNumberByte_isDigit (run.2 byte inDigits)

/-- A number is read up to the next delimiter. -/
theorem readNumber_number {text rest : Bytes} (known : Number text)
    (ends : Without isNumberByte rest) :
    readNumber (text ++ rest) = some (.number text, rest) := by
  obtain ⟨taken, dropped⟩ := takeWhile_run (isNumberByte_number known) ends
  rw [readNumber, taken, dropped, if_pos ((isNumber_iff text).mpr known)]

/-- A number that is read is one of the grammar. -/
theorem readNumber_sound {text rest : Bytes} {value : Json}
    (read : readNumber text = some (value, rest)) :
    ∃ used, text = used ++ rest ∧ Denotes used (.value value) := by
  rw [readNumber, Option.ite_none_right_eq_some, Option.some.injEq, Prod.mk.injEq] at read
  obtain ⟨known, rfl, rfl⟩ := read
  exact ⟨_, List.takeWhile_append_dropWhile.symm, .number ((isNumber_iff _).mp known)⟩

/-- The body of a string is made of bytes and of code units. -/
inductive Piece where
  | byte (value : UInt8)
  | unit (value : Nat)

/-- What was read stands behind its first item. -/
def behind {A : Type} (first : A) (read : Option (List A × Bytes)) : Option (List A × Bytes) :=
  read.map fun (items, text) => (first :: items, text)

@[simp] theorem behind_eq_some {A : Type} {first : A} {read : Option (List A × Bytes)}
    {items : List A} {text : Bytes} : behind first read = some (items, text) ↔
      ∃ others, read = some (others, text) ∧ items = first :: others := by
  rw [behind, Option.map_eq_some_iff]
  constructor
  · rintro ⟨⟨others, rest⟩, known, same⟩
    obtain ⟨rfl, rfl⟩ := Prod.mk.inj same
    exact ⟨others, known, rfl⟩
  · rintro ⟨others, known, rfl⟩
    exact ⟨_, known, rfl⟩

/-- A body is read up to its quotation mark. -/
def readPieces : Bytes → Option (List Piece × Bytes)
  | [] => none
  | 34 :: text => some ([], text)
  | 92 :: 117 :: a :: b :: c :: d :: text =>
      (codeUnit [a, b, c, d]).bind fun unit => behind (.unit unit) (readPieces text)
  | 92 :: code :: text => (shortEscape code).bind fun byte => behind (.byte byte) (readPieces text)
  | byte :: text => if Unescaped byte then behind (.byte byte) (readPieces text) else none

instance : DecidablePred isHigh := fun _ => inferInstanceAs (Decidable (_ ∧ _))

instance : DecidablePred isLow := fun _ => inferInstanceAs (Decidable (_ ∧ _))

/-- A surrogate without its partner stands for U+FFFD. -/
def single (unit : Nat) : Bytes := if isHigh unit ∨ isLow unit then utf8 0xFFFD else utf8 unit

def decode : List Piece → Bytes
  | [] => []
  | .byte value :: pieces => value :: decode pieces
  | .unit high :: .unit low :: pieces =>
      if isHigh high ∧ isLow low then
        utf8 (0x10000 + 0x400 * (high - 0xD800) + (low - 0xDC00)) ++ decode pieces
      else single high ++ decode (.unit low :: pieces)
  | .unit unit :: pieces => single unit ++ decode pieces

/-- The text spells a piece with or without an escape. -/
inductive Spells : Bytes → Piece → Prop where
  | plain {byte : UInt8} : Unescaped byte → Spells [byte] (.byte byte)
  | short {code byte : UInt8} : shortEscape code = some byte → Spells [92, code] (.byte byte)
  | unit {digits : Bytes} {unit : Nat} : codeUnit digits = some unit →
      Spells (92 :: 117 :: digits) (.unit unit)

theorem codeUnit_digits {digits : Bytes} {unit : Nat} (found : codeUnit digits = some unit) :
    ∃ a b c d, digits = [a, b, c, d] := by
  unfold codeUnit at found
  split at found
  · exact ⟨_, _, _, _, rfl⟩
  · cases found

theorem readPieces_plain {byte : UInt8} (plain : Unescaped byte) (text : Bytes) :
    readPieces (byte :: text) = behind (.byte byte) (readPieces text) := by
  rw [readPieces.eq_def]
  split
  case h_1 same => cases same
  case h_2 same =>
    obtain ⟨rfl, _⟩ := List.cons.inj same
    exact absurd rfl plain.2.1
  case h_3 same =>
    obtain ⟨rfl, _⟩ := List.cons.inj same
    exact absurd rfl plain.2.2
  case h_4 same =>
    obtain ⟨rfl, _⟩ := List.cons.inj same
    exact absurd rfl plain.2.2
  case h_5 same =>
    obtain ⟨rfl, rfl⟩ := List.cons.inj same
    exact if_pos plain

theorem readPieces_short {code byte : UInt8} (found : shortEscape code = some byte)
    (text : Bytes) : readPieces (92 :: code :: text) = behind (.byte byte) (readPieces text) := by
  rw [readPieces.eq_def]
  split
  case h_1 same => cases same
  case h_2 same => cases same
  case h_3 same =>
    simp only [List.cons.injEq, true_and] at same
    obtain ⟨rfl, _⟩ := same
    cases found
  case h_4 same =>
    simp only [List.cons.injEq, true_and] at same
    obtain ⟨rfl, rfl⟩ := same
    rw [found, Option.bind_some]
  case h_5 other same =>
    obtain ⟨rfl, rfl⟩ := List.cons.inj same
    exact absurd rfl (other code text rfl)

theorem readPieces_unit {digits : Bytes} {unit : Nat} (found : codeUnit digits = some unit)
    (text : Bytes) :
    readPieces (92 :: 117 :: digits ++ text) = behind (.unit unit) (readPieces text) := by
  obtain ⟨a, b, c, d, rfl⟩ := codeUnit_digits found
  show readPieces (92 :: 117 :: a :: b :: c :: d :: text) = _
  rw [readPieces, found, Option.bind_some]

/-- A spelled piece is read in front of the others. -/
theorem readPieces_spelled {text : Bytes} {piece : Piece} (spelled : Spells text piece)
    (rest : Bytes) : readPieces (text ++ rest) = behind piece (readPieces rest) := by
  cases spelled with
  | plain known => exact readPieces_plain known rest
  | short found => exact readPieces_short found rest
  | unit found => exact readPieces_unit found rest

/-- Pieces are read as they are spelled. -/
theorem readPieces_complete {texts : List Bytes} {pieces : List Piece}
    (spelled : List.Forall₂ Spells texts pieces) (rest : Bytes) :
    readPieces (texts.flatten ++ 34 :: rest) = some (pieces, rest) := by
  induction spelled with
  | nil => rfl
  | cons first _ ih =>
      rw [List.flatten_cons, List.append_assoc, readPieces_spelled first, ih]
      rfl

/-- The pieces that are read are spelled in the text. -/
theorem readPieces_sound {text rest : Bytes} {pieces : List Piece}
    (read : readPieces text = some (pieces, rest)) :
    ∃ texts, text = texts.flatten ++ 34 :: rest ∧ List.Forall₂ Spells texts pieces := by
  fun_induction readPieces text generalizing pieces with
  | case1 => cases read
  | case2 text =>
      obtain ⟨rfl, rfl⟩ := Prod.mk.inj (Option.some.inj read)
      exact ⟨[], rfl, .nil⟩
  | case3 a b c d text ih =>
      simp only [Option.bind_eq_some_iff, behind_eq_some] at read
      obtain ⟨unit, found, others, next, rfl⟩ := read
      obtain ⟨texts, rfl, spelled⟩ := ih next
      exact ⟨_ :: texts, rfl, .cons (.unit found) spelled⟩
  | case4 code text _ ih =>
      simp only [Option.bind_eq_some_iff, behind_eq_some] at read
      obtain ⟨byte, found, others, next, rfl⟩ := read
      obtain ⟨texts, rfl, spelled⟩ := ih next
      exact ⟨_ :: texts, rfl, .cons (.short found) spelled⟩
  | case5 byte text _ _ _ plain ih =>
      obtain ⟨others, next, rfl⟩ := behind_eq_some.mp read
      obtain ⟨texts, rfl, spelled⟩ := ih next
      exact ⟨_ :: texts, rfl, .cons (.plain plain) spelled⟩
  | case6 => cases read

/-- A unit that does not begin a pair is decoded alone. -/
theorem decode_single {unit : Nat} {pieces : List Piece}
    (alone : isHigh unit → ∀ low more, pieces = .unit low :: more → ¬ isLow low) :
    decode (.unit unit :: pieces) = single unit ++ decode pieces := by
  rw [decode.eq_def]
  split
  case h_1 same => cases same
  case h_2 same => cases same
  case h_3 high low more same =>
    obtain ⟨head, rfl⟩ := List.cons.inj same
    cases head
    exact if_neg fun pair => alone pair.1 low more rfl pair.2
  case h_4 same =>
    obtain ⟨head, rfl⟩ := List.cons.inj same
    cases head
    rfl

/-- Two surrogates are decoded together. -/
theorem decode_pair {high low : Nat} (isHigh_ : isHigh high) (isLow_ : isLow low)
    (pieces : List Piece) : decode (.unit high :: .unit low :: pieces) =
      utf8 (0x10000 + 0x400 * (high - 0xD800) + (low - 0xDC00)) ++ decode pieces := by
  rw [decode, if_pos ⟨isHigh_, isLow_⟩]

/-- The spelling of a unit shows its digits. -/
theorem spells_unit {text : Bytes} {unit : Nat} (spelled : Spells text (.unit unit)) :
    ∃ digits, codeUnit digits = some unit ∧ text = 92 :: 117 :: digits := by
  cases spelled with
  | unit found => exact ⟨_, found, rfl⟩

/-- Every body has pieces that spell it. -/
theorem characters_spelled {body text : Bytes} (known : Characters body text) :
    ∃ texts pieces, body = texts.flatten ∧ List.Forall₂ Spells texts pieces ∧
      decode pieces = text := by
  induction known with
  | nil => exact ⟨[], [], rfl, .nil, rfl⟩
  | plain unescaped _ ih =>
      obtain ⟨texts, pieces, rfl, spelled, rfl⟩ := ih
      exact ⟨_ :: texts, _, rfl, .cons (.plain unescaped) spelled, rfl⟩
  | short found _ ih =>
      obtain ⟨texts, pieces, rfl, spelled, rfl⟩ := ih
      exact ⟨_ :: texts, _, rfl, .cons (.short found) spelled, rfl⟩
  | unit found notHigh notLow _ ih =>
      obtain ⟨texts, pieces, rfl, spelled, rfl⟩ := ih
      refine ⟨_ :: texts, _, rfl, .cons (.unit found) spelled, ?_⟩
      rw [decode_single fun high => absurd high notHigh, single, if_neg (by simp [notHigh, notLow])]
  | pair first high second low _ ih =>
      obtain ⟨texts, pieces, rfl, spelled, rfl⟩ := ih
      refine ⟨_ :: _ :: texts, _, ?_, .cons (.unit first) (.cons (.unit second) spelled),
        decode_pair high low pieces⟩
      simp
  | lone found surrogate _ ih =>
      obtain ⟨texts, pieces, rfl, spelled, rfl⟩ := ih
      refine ⟨_ :: texts, _, rfl, .cons (.unit found) spelled, ?_⟩
      rw [decode_single, single, if_pos (by tauto)]
      rintro high low more rfl isLow_
      obtain lone | ⟨_, notFollowed⟩ := surrogate
      · simp only [isHigh, isLow] at high lone
        omega
      · cases spelled with
        | cons first others =>
            obtain ⟨digits, second, rfl⟩ := spells_unit first
            exact notFollowed digits low _ second isLow_ rfl

/-- A unit that stands alone is a character or a lone surrogate. -/
theorem characters_single {digits body text : Bytes} {unit : Nat}
    (found : codeUnit digits = some unit)
    (alone : isHigh unit → ∀ second low rest, codeUnit second = some low → isLow low →
      body ≠ 92 :: 117 :: second ++ rest) (known : Characters body text) :
    Characters (92 :: 117 :: digits ++ body) (single unit ++ text) := by
  unfold single
  split
  case isTrue surrogate =>
    apply Characters.lone found _ known
    by_cases high : isHigh unit
    · exact .inr ⟨high, alone high⟩
    · exact .inl (surrogate.resolve_left high)
  case isFalse ordinary =>
    exact .unit found (fun high => ordinary (.inl high)) (fun low => ordinary (.inr low)) known

/-- An escaped unit at the front is the first piece. -/
theorem spelled_unit {texts : List Bytes} {pieces : List Piece} {digits rest : Bytes} {unit : Nat}
    (spelled : List.Forall₂ Spells texts pieces) (found : codeUnit digits = some unit)
    (front : texts.flatten = 92 :: 117 :: digits ++ rest) :
    ∃ more, pieces = .unit unit :: more := by
  have read := readPieces_complete spelled []
  rw [front, List.append_assoc, readPieces_unit found] at read
  obtain ⟨more, _, same⟩ := behind_eq_some.mp read
  exact ⟨more, same⟩

/-- Spelled pieces are the body of a string. -/
theorem spelled_characters {texts : List Bytes} {pieces : List Piece}
    (spelled : List.Forall₂ Spells texts pieces) :
    Characters texts.flatten (decode pieces) := by
  fun_induction decode pieces generalizing texts with
  | case1 =>
      cases spelled
      exact .nil
  | case2 value pieces ih =>
      cases spelled with
      | cons first others =>
          cases first with
          | plain unescaped => exact .plain unescaped (ih others)
          | short found => exact .short found (ih others)
  | case3 high low pieces pair ih =>
      cases spelled with
      | cons first others =>
          cases others with
          | cons second others =>
              obtain ⟨digits, found, rfl⟩ := spells_unit first
              obtain ⟨more, next, rfl⟩ := spells_unit second
              have whole := Characters.pair found pair.1 next pair.2 (ih others)
              simpa using whole
  | case4 high low pieces notPair ih =>
      cases spelled with
      | cons first others =>
          obtain ⟨digits, found, rfl⟩ := spells_unit first
          apply characters_single found _ (ih others)
          intro isHigh_ second later rest next isLow_ front
          obtain ⟨more, same⟩ := spelled_unit others next front
          cases same
          exact notPair ⟨isHigh_, isLow_⟩
  | case5 unit pieces notPair ih =>
      cases spelled with
      | cons first others =>
          obtain ⟨digits, found, rfl⟩ := spells_unit first
          apply characters_single found _ (ih others)
          intro _ second low rest next _ front
          obtain ⟨more, rfl⟩ := spelled_unit others next front
          exact notPair low more rfl

/-- A string is read as the text that it denotes. -/
theorem readPieces_characters {body text : Bytes} (known : Characters body text)
    (rest : Bytes) : ∃ pieces, readPieces (body ++ 34 :: rest) = some (pieces, rest) ∧
      decode pieces = text := by
  obtain ⟨texts, pieces, rfl, spelled, decoded⟩ := characters_spelled known
  exact ⟨pieces, readPieces_complete spelled rest, decoded⟩

/-- The pieces that are read are the body of a string. -/
theorem characters_readPieces {text rest : Bytes} {pieces : List Piece}
    (read : readPieces text = some (pieces, rest)) :
    ∃ body, text = body ++ 34 :: rest ∧ Characters body (decode pieces) := by
  obtain ⟨texts, rfl, spelled⟩ := readPieces_sound read
  exact ⟨_, rfl, spelled_characters spelled⟩

end LMonitor.Library.Json
