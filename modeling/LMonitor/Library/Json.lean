import LMonitor.Library.Decimal

namespace LMonitor.Library

/-- A JSON value keeps the text of a number and the decoded bytes of a string. -/
inductive Json where
  | null
  | boolean (value : Bool)
  | number (text : Bytes)
  | string (text : Bytes)
  | array (values : List Json)
  | object (members : List (Bytes × Json))

namespace Json

/-- These bytes are the insignificant whitespace between tokens. -/
def isBlank (byte : UInt8) : Bool := byte = 32 ∨ byte = 9 ∨ byte = 10 ∨ byte = 13

def Blank (text : Bytes) : Prop := ∀ byte ∈ text, isBlank byte = true

/-- Whitespace may stand on both sides of a token. -/
def Padded (padded text : Bytes) : Prop :=
  ∃ before after, Blank before ∧ Blank after ∧ padded = before ++ text ++ after

/-- A string contains all bytes from 32 on except the quotation mark and the backslash. -/
def Unescaped (byte : UInt8) : Prop := 32 ≤ byte ∧ byte ≠ 34 ∧ byte ≠ 92

instance : DecidablePred Unescaped := fun _ => inferInstanceAs (Decidable (_ ∧ _))

/-- A plain text needs no escape. -/
def Plain (text : Bytes) : Prop := ∀ byte ∈ text, Unescaped byte

instance : DecidablePred Plain := List.decidableBAll Unescaped

/-- A short escape is a backslash with one of these bytes. -/
def shortEscape : UInt8 → Option UInt8
  | 34 => some 34
  | 92 => some 92
  | 47 => some 47
  | 98 => some 8
  | 102 => some 12
  | 110 => some 10
  | 114 => some 13
  | 116 => some 9
  | _ => none

def hexDigit (byte : UInt8) : Option Nat :=
  if 48 ≤ byte ∧ byte ≤ 57 then some (byte.toNat - 48)
  else if 65 ≤ byte ∧ byte ≤ 70 then some (byte.toNat - 55)
  else if 97 ≤ byte ∧ byte ≤ 102 then some (byte.toNat - 87)
  else none

/-- Four hexadecimal digits give one code unit. -/
def codeUnit : Bytes → Option Nat
  | [a, b, c, d] => do
      let a ← hexDigit a
      let b ← hexDigit b
      let c ← hexDigit c
      let d ← hexDigit d
      some (4096 * a + 256 * b + 16 * c + d)
  | _ => none

def isHigh (unit : Nat) : Prop := 0xD800 ≤ unit ∧ unit < 0xDC00

def isLow (unit : Nat) : Prop := 0xDC00 ≤ unit ∧ unit < 0xE000

def utf8 (codePoint : Nat) : Bytes :=
  if codePoint < 0x80 then [codePoint.toUInt8]
  else
    let tail (weight : Nat) : UInt8 := (0x80 + codePoint / weight % 64).toUInt8
    if codePoint < 0x800 then [(0xC0 + codePoint / 64).toUInt8, tail 1]
    else if codePoint < 0x10000 then [(0xE0 + codePoint / 4096).toUInt8, tail 64, tail 1]
    else [(0xF0 + codePoint / 262144).toUInt8, tail 4096, tail 64, tail 1]

/-- The body of a string denotes the decoded bytes, and a lone surrogate stands for U+FFFD. -/
inductive Characters : Bytes → Bytes → Prop where
  | nil : Characters [] []
  | plain {byte : UInt8} {body text : Bytes} : Unescaped byte → Characters body text →
      Characters (byte :: body) (byte :: text)
  | short {code byte : UInt8} {body text : Bytes} : shortEscape code = some byte →
      Characters body text → Characters (92 :: code :: body) (byte :: text)
  | unit {digits body text : Bytes} {unit : Nat} : codeUnit digits = some unit →
      ¬ isHigh unit → ¬ isLow unit → Characters body text →
      Characters (92 :: 117 :: digits ++ body) (utf8 unit ++ text)
  | pair {first second body text : Bytes} {high low : Nat} : codeUnit first = some high →
      isHigh high → codeUnit second = some low → isLow low → Characters body text →
      Characters (92 :: 117 :: first ++ 92 :: 117 :: second ++ body)
        (utf8 (0x10000 + 0x400 * (high - 0xD800) + (low - 0xDC00)) ++ text)
  | lone {digits body text : Bytes} {unit : Nat} : codeUnit digits = some unit →
      isLow unit ∨ isHigh unit ∧ (∀ second low rest, codeUnit second = some low → isLow low →
        body ≠ 92 :: 117 :: second ++ rest) →
      Characters body text → Characters (92 :: 117 :: digits ++ body) (utf8 0xFFFD ++ text)

/-- A nonempty sequence of digits is needed after a point and in an exponent. -/
def Digits (text : Bytes) : Prop := text ≠ [] ∧ ∀ byte ∈ text, isDigit byte = true

instance : DecidablePred Digits := fun text =>
  have := List.decidableBAll (fun byte => isDigit byte = true) text
  inferInstanceAs (Decidable (_ ∧ _))

/-- The integer part of a number has no leading zero. -/
def Integer (text : Bytes) : Prop := Digits text ∧ (text.head? = some 48 → text = [48])

instance : DecidablePred Integer := fun _ => inferInstanceAs (Decidable (_ ∧ _))

def Fraction (text : Bytes) : Prop := text = [] ∨ ∃ digits, Digits digits ∧ text = 46 :: digits

def Exponent (text : Bytes) : Prop :=
  text = [] ∨ ∃ e sign digits, (e = 101 ∨ e = 69) ∧ (sign = [] ∨ sign = [43] ∨ sign = [45]) ∧
    Digits digits ∧ text = e :: sign ++ digits

def Number (text : Bytes) : Prop :=
  ∃ sign whole fraction exponent, (sign = [] ∨ sign = [45]) ∧ Integer whole ∧
    Fraction fraction ∧ Exponent exponent ∧ text = sign ++ whole ++ fraction ++ exponent

/-- The grammar has phrases of three sorts. -/
inductive Phrase where
  | value (value : Json)
  | elements (values : List Json)
  | members (members : List (Bytes × Json))

/-- The text is a phrase of RFC 8259, where bytes from 128 on are opaque string characters. -/
inductive Denotes : Bytes → Phrase → Prop where
  | null : Denotes (ascii "null") (.value .null)
  | boolean (value : Bool) :
      Denotes (ascii (if value then "true" else "false")) (.value (.boolean value))
  | number {text : Bytes} : Number text → Denotes text (.value (.number text))
  | string {body text : Bytes} : Characters body text →
      Denotes (34 :: body ++ [34]) (.value (.string text))
  | array {body : Bytes} {values : List Json} : Denotes body (.elements values) →
      Denotes (91 :: body ++ [93]) (.value (.array values))
  | object {body : Bytes} {members : List (Bytes × Json)} : Denotes body (.members members) →
      Denotes (123 :: body ++ [125]) (.value (.object members))
  | noElement {blank : Bytes} : Blank blank → Denotes blank (.elements [])
  | lastElement {padded text : Bytes} {value : Json} : Padded padded text →
      Denotes text (.value value) → Denotes padded (.elements [value])
  | nextElement {padded text rest : Bytes} {value second : Json} {values : List Json} :
      Padded padded text → Denotes text (.value value) →
      Denotes rest (.elements (second :: values)) →
      Denotes (padded ++ 44 :: rest) (.elements (value :: second :: values))
  | noMember {blank : Bytes} : Blank blank → Denotes blank (.members [])
  | lastMember {name body key padded text : Bytes} {value : Json} :
      Padded name (34 :: body ++ [34]) → Characters body key → Padded padded text →
      Denotes text (.value value) → Denotes (name ++ 58 :: padded) (.members [(key, value)])
  | nextMember {name body key padded text rest : Bytes} {value : Json} {second : Bytes × Json}
      {members : List (Bytes × Json)} :
      Padded name (34 :: body ++ [34]) → Characters body key → Padded padded text →
      Denotes text (.value value) → Denotes rest (.members (second :: members)) →
      Denotes (name ++ 58 :: padded ++ 44 :: rest) (.members ((key, value) :: second :: members))

/-- A JSON text is one value between blanks. -/
def Reads (text : Bytes) (value : Json) : Prop :=
  ∃ body, Padded text body ∧ Denotes body (.value value)

theorem padded_self (text : Bytes) : Padded text text :=
  ⟨[], [], by simp [Blank], by simp [Blank], by simp⟩

theorem reads_of_denotes {text : Bytes} {value : Json} (known : Denotes text (.value value)) :
    Reads text value :=
  ⟨text, padded_self text, known⟩

/-- A byte is visible if it is a blank or not a control character. -/
def Visible (byte : UInt8) : Prop := 32 ≤ byte ∨ byte = 9 ∨ byte = 10 ∨ byte = 13

instance : DecidablePred Visible := fun _ => inferInstanceAs (Decidable (_ ∨ _))

/-- All bytes of the text are visible. -/
def AllVisible (text : Bytes) : Prop := ∀ byte ∈ text, Visible byte

instance : DecidablePred AllVisible := List.decidableBAll Visible

@[simp] theorem allVisible_nil : AllVisible [] := fun _ member => absurd member List.not_mem_nil

@[simp] theorem allVisible_cons (byte : UInt8) (text : Bytes) :
    AllVisible (byte :: text) ↔ Visible byte ∧ AllVisible text := List.forall_mem_cons

@[simp] theorem allVisible_append (first second : Bytes) :
    AllVisible (first ++ second) ↔ AllVisible first ∧ AllVisible second := List.forall_mem_append

theorem allVisible_flatten (texts : List Bytes) :
    AllVisible texts.flatten ↔ ∀ text ∈ texts, AllVisible text := by
  simp only [AllVisible, List.mem_flatten, forall_exists_index, and_imp]
  exact ⟨fun known text member byte inText => known byte text member inText,
    fun known byte text member inText => known text member byte inText⟩

theorem blank_visible {text : Bytes} (blank : Blank text) : AllVisible text := by
  intro byte member
  have known := blank byte member
  simp only [isBlank, decide_eq_true_eq] at known
  rcases known with rfl | rest
  · decide
  · exact .inr rest

theorem padded_visible {padded text : Bytes} (shape : Padded padded text)
    (known : AllVisible text) : AllVisible padded := by
  obtain ⟨before, after, front, back, rfl⟩ := shape
  simp [known, blank_visible front, blank_visible back]

/-- A byte above a visible bound is visible. -/
theorem visible_of_le {bound byte : UInt8} (le : bound ≤ byte) (known : 32 ≤ bound) :
    Visible byte := .inl (UInt8.le_trans known le)

theorem hexDigit_visible {byte : UInt8} {value : Nat} (found : hexDigit byte = some value) :
    Visible byte := by
  simp only [hexDigit] at found
  split at found
  · rename_i range
    exact visible_of_le range.1 (by decide)
  · split at found
    · rename_i range
      exact visible_of_le range.1 (by decide)
    · split at found
      · rename_i range
        exact visible_of_le range.1 (by decide)
      · cases found

theorem codeUnit_visible {digits : Bytes} {unit : Nat} (found : codeUnit digits = some unit) :
    AllVisible digits := by
  unfold codeUnit at found
  split at found
  · simp only [bind, Option.bind_eq_some_iff] at found
    obtain ⟨_, first, _, second, _, third, _, fourth, _⟩ := found
    simp [hexDigit_visible first, hexDigit_visible second, hexDigit_visible third,
      hexDigit_visible fourth]
  · cases found

theorem shortEscape_visible {code byte : UInt8} (found : shortEscape code = some byte) :
    Visible code := by
  unfold shortEscape at found
  split at found
  all_goals first | decide | cases found

theorem characters_visible {body text : Bytes} (known : Characters body text) :
    AllVisible body := by
  have backslash : Visible 92 := by decide
  have letter : Visible 117 := by decide
  induction known with
  | nil => simp
  | plain unescaped _ ih => exact (allVisible_cons _ _).mpr ⟨.inl unescaped.1, ih⟩
  | short found _ ih => simp [backslash, shortEscape_visible found, ih]
  | unit found _ _ _ ih | lone found _ _ ih =>
      simp [backslash, letter, codeUnit_visible found, ih]
  | pair first _ second _ _ ih =>
      simp [backslash, letter, codeUnit_visible first, codeUnit_visible second, ih]

theorem digits_visible {text : Bytes} (known : Digits text) : AllVisible text := by
  intro byte member
  have range := known.2 byte member
  simp only [isDigit, decide_eq_true_eq] at range
  exact visible_of_le range.1 (by decide)

theorem number_visible {text : Bytes} (known : Number text) : AllVisible text := by
  obtain ⟨sign, whole, fraction, exponent, signed, integer, fractional, scaled, rfl⟩ := known
  have front : AllVisible sign := by
    rcases signed with rfl | rfl <;> simp [show Visible 45 by decide]
  have middle : AllVisible fraction := by
    rcases fractional with rfl | ⟨digits, known, rfl⟩
    · simp
    · simp [show Visible 46 by decide, digits_visible known]
  have back : AllVisible exponent := by
    rcases scaled with rfl | ⟨e, sign, digits, letter, signed, known, rfl⟩
    · simp
    · have named : Visible e := by rcases letter with rfl | rfl <;> decide
      have marked : AllVisible sign := by
        rcases signed with rfl | rfl | rfl <;>
          simp [show Visible 43 by decide, show Visible 45 by decide]
      simp [named, marked, digits_visible known]
  simp [front, digits_visible integer.1, middle, back]

/-- No phrase has a control character other than a blank. -/
theorem denotes_visible {text : Bytes} {phrase : Phrase} (known : Denotes text phrase) :
    AllVisible text := by
  have quote : Visible 34 := by decide
  have punctuation :
      Visible 91 ∧ Visible 93 ∧ Visible 123 ∧ Visible 125 ∧ Visible 44 ∧ Visible 58 := by
    decide
  induction known with
  | null => decide
  | boolean value => cases value <;> decide
  | number known => exact number_visible known
  | string known => simp [quote, characters_visible known]
  | array _ ih | object _ ih => simp [punctuation, ih]
  | noElement blank | noMember blank => exact blank_visible blank
  | lastElement shape _ ih => exact padded_visible shape ih
  | nextElement shape _ _ first rest => simp [padded_visible shape first, punctuation, rest]
  | lastMember name key shape _ ih =>
      have named := padded_visible name (by simp [quote, characters_visible key])
      simp [named, punctuation, padded_visible shape ih]
  | nextMember name key shape _ _ first rest =>
      have named := padded_visible name (by simp [quote, characters_visible key])
      simp [named, punctuation, padded_visible shape first, rest]

/-- A JSON text has no control character other than a blank. -/
theorem reads_visible {text : Bytes} {value : Json} (known : Reads text value) :
    AllVisible text := by
  obtain ⟨body, shape, denotes⟩ := known
  exact padded_visible shape (denotes_visible denotes)

/-- These are the texts with a comma between two neighbours. -/
def commaSeparated : List Bytes → Bytes
  | [] => []
  | [text] => text
  | text :: second :: texts => text ++ 44 :: commaSeparated (second :: texts)

def arrayText (values : List Bytes) : Bytes := 91 :: commaSeparated values ++ [93]

def stringText (body : Bytes) : Bytes := 34 :: body ++ [34]

def memberText (member : Bytes × Bytes) : Bytes := stringText member.1 ++ 58 :: member.2

def objectText (members : List (Bytes × Bytes)) : Bytes :=
  123 :: commaSeparated (members.map memberText) ++ [125]

/-- An array of values is written value by value. -/
theorem denotes_arrayText {A : Type} (write : A → Bytes) (view : A → Json) (items : List A)
    (known : ∀ item ∈ items, Denotes (write item) (.value (view item))) :
    Denotes (arrayText (items.map write)) (.value (.array (items.map view))) := by
  apply Denotes.array
  induction items with
  | nil => exact .noElement (by simp [Blank, commaSeparated])
  | cons item items ih =>
      have first := known item (by simp)
      have rest := ih fun later member => known later (by simp [member])
      cases items with
      | nil => exact .lastElement (padded_self _) first
      | cons second items => exact .nextElement (padded_self _) first rest

/-- A key without escapes stands for itself. -/
theorem characters_plain {text : Bytes} (plain : Plain text) :
    Characters text text := by
  induction text with
  | nil => exact .nil
  | cons byte text ih =>
      obtain ⟨first, rest⟩ := List.forall_mem_cons.mp plain
      exact .plain first (ih rest)

/-- The two texts of a member denote its key and its value. -/
structure MemberDenotes (texts : Bytes × Bytes) (member : Bytes × Json) : Prop where
  key : Characters texts.1 member.1
  value : Denotes texts.2 (.value member.2)

/-- An object is written member by member. -/
theorem denotes_objectText {texts : List (Bytes × Bytes)} {members : List (Bytes × Json)}
    (known : List.Forall₂ MemberDenotes texts members) :
    Denotes (objectText texts) (.value (.object members)) := by
  apply Denotes.object
  induction known with
  | nil => exact .noMember (by simp [Blank, commaSeparated])
  | cons first others rest =>
      cases others with
      | nil => exact .lastMember (padded_self _) first.key (padded_self _) first.value
      | cons second others =>
          have whole :=
            Denotes.nextMember (padded_self _) first.key (padded_self _) first.value rest
          simpa [commaSeparated, memberText, stringText] using whole

end Json
end LMonitor.Library
