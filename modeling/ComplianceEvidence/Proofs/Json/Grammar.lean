import ComplianceEvidence.Json.Token
import ComplianceEvidence.Ordered.Table

/-!
Contract: the grammar of JSON texts, as a relation between values and the texts that spell them.

Owns: how a value of any form may be spelled, with any gaps around its parts, and what of a value
does not depend on its spelling: how deep it is nested and what it is as a table of tables.

A value stands for the content of a text as it was written: an object has its members in the order
of the text and may have several with one key. A number is spelled by a text of the grammar from
which the number can be made, and a lone surrogate spells no character, so texts with numbers out
of range or with lone surrogates spell no value.
-/

set_option autoImplicit false

namespace ComplianceEvidence.Json

/-! ## Gaps -/

def IsGap (text : List Char) : Prop :=
  ∀ character ∈ text, isGap character = true

theorem isGap_nil : IsGap [] := by
  intro character member
  cases member

/-- A text of a kind with gaps around it. -/
def Padded (kind : List Char → Prop) (text : List Char) : Prop :=
  ∃ before body after, IsGap before ∧ kind body ∧ IsGap after ∧ text = before ++ body ++ after

/-! ## Texts -/

/-- How one character may stand between the quotes. -/
inductive SpellsCharacter : List Char → Char → Prop
  | plain {character : Char} (shown : 0x20 ≤ character.toNat) (notQuote : character ≠ '"')
      (notBackslash : character ≠ '\\') : SpellsCharacter [character] character
  | letter {letter character : Char} (escape : simpleEscape? letter = some character) :
      SpellsCharacter ['\\', letter] character
  | numbered {first second third fourth : Char} {unit : Nat}
      (number : hexQuad? first second third fourth = some unit)
      (notHigh : isHighSurrogate unit = false) (notLow : isLowSurrogate unit = false) :
      SpellsCharacter ['\\', 'u', first, second, third, fourth] (Char.ofNat unit)
  | pair {first second third fourth fifth sixth seventh eighth : Char} {high low : Nat}
      (highNumber : hexQuad? first second third fourth = some high)
      (lowNumber : hexQuad? fifth sixth seventh eighth = some low)
      (isHigh : isHighSurrogate high = true) (isLow : isLowSurrogate low = true) :
      SpellsCharacter
        ['\\', 'u', first, second, third, fourth, '\\', 'u', fifth, sixth, seventh, eighth]
        (surrogatePair high low)

inductive SpellsText : List Char → List Char → Prop
  | nil : SpellsText [] []
  | cons {spelling rest : List Char} {character : Char} {text : List Char}
      (first : SpellsCharacter spelling character) (others : SpellsText rest text) :
      SpellsText (spelling ++ rest) (character :: text)

def IsQuoted (content : String) (text : List Char) : Prop :=
  ∃ body, SpellsText body content.toList ∧ text = '"' :: (body ++ ['"'])

/-! ## Numbers -/

def AllDigits (text : List Char) : Prop :=
  ∀ character ∈ text, character.isDigit = true

/-- A zero alone, or digits that do not start with one. -/
inductive IsWhole : List Char → Prop
  | zero : IsWhole ['0']
  | digits {head : Char} {tail : List Char} (isDigit : head.isDigit = true) (notZero : head ≠ '0')
      (more : AllDigits tail) : IsWhole (head :: tail)

inductive IsFraction : List Char → Prop
  | none : IsFraction []
  | some {digits : List Char} (notEmpty : digits ≠ []) (all : AllDigits digits) :
      IsFraction ('.' :: digits)

inductive IsExponent : List Char → Prop
  | none : IsExponent []
  | some {mark : Char} {sign digits : List Char} (isMark : mark = 'e' ∨ mark = 'E')
      (isSign : sign = [] ∨ sign = ['+'] ∨ sign = ['-']) (notEmpty : digits ≠ [])
      (all : AllDigits digits) : IsExponent (mark :: (sign ++ digits))

def IsNumber (text : List Char) : Prop :=
  ∃ sign whole fraction exponent, (sign = [] ∨ sign = ['-']) ∧ IsWhole whole ∧
    IsFraction fraction ∧ IsExponent exponent ∧ text = sign ++ (whole ++ (fraction ++ exponent))

/-- A text of the grammar of numbers from which a number can be made. -/
def SpellsNumber (numeral : Numeral) (text : List Char) : Prop :=
  IsNumber text ∧ readNumber text = .ok (numeral, [])

/-! ## Values -/

mutual

/-- The texts that spell a value, from its first character to its last. -/
def Value.Spelled : Value → List Char → Prop
  | .null, text => text = ['n', 'u', 'l', 'l']
  | .boolean true, text => text = ['t', 'r', 'u', 'e']
  | .boolean false, text => text = ['f', 'a', 'l', 's', 'e']
  | .integer value, text => SpellsNumber (.integer value) text
  | .double value, text => SpellsNumber (.double value) text
  | .text content, text => IsQuoted content text
  | .list items, text => ∃ inner, SpelledItems items inner ∧ text = '[' :: (inner ++ [']'])
  | .object members, text =>
      ∃ inner, SpelledMembers members inner ∧ text = '\x7b' :: (inner ++ ['\x7d'])

/-- What stands between the brackets of a list. -/
def SpelledItems : List Value → List Char → Prop
  | [], text => IsGap text
  | [last], text => Padded last.Spelled text
  | head :: tail, text =>
      ∃ first others, Padded head.Spelled first ∧ SpelledItems tail others ∧
        text = first ++ ',' :: others

/-- What stands between the braces of an object. -/
def SpelledMembers : List (String × Value) → List Char → Prop
  | [], text => IsGap text
  | [(key, last)], text =>
      ∃ name value, Padded (IsQuoted key) name ∧ Padded last.Spelled value ∧
        text = name ++ ':' :: value
  | (key, head) :: tail, text =>
      ∃ name first others, Padded (IsQuoted key) name ∧ Padded head.Spelled first ∧
        SpelledMembers tail others ∧ text = name ++ ':' :: (first ++ ',' :: others)

end

/-! ## What does not depend on the spelling -/

mutual

/-- How many lists and objects stand around each other at the deepest place. -/
def Value.nesting : Value → Nat
  | .list items => nestingOfItems items + 1
  | .object members => nestingOfMembers members + 1
  | .null | .boolean _ | .integer _ | .double _ | .text _ => 0

def nestingOfItems : List Value → Nat
  | [] => 0
  | head :: tail => max head.nesting (nestingOfItems tail)

def nestingOfMembers : List (String × Value) → Nat
  | [] => 0
  | (_, head) :: tail => max head.nesting (nestingOfMembers tail)

end

mutual

/-- The value with every object as a table: its keys ascend, and of several members with one key
the last one counts. -/
def Value.tabled : Value → Value
  | .list items => .list (tabledItems items)
  | .object members => .object (Ordered.Table.ofList (tabledMembers members)).entries
  | .null => .null
  | .boolean value => .boolean value
  | .integer value => .integer value
  | .double value => .double value
  | .text content => .text content

def tabledItems : List Value → List Value
  | [] => []
  | head :: tail => head.tabled :: tabledItems tail

def tabledMembers : List (String × Value) → List (String × Value)
  | [] => []
  | (key, head) :: tail => (key, head.tabled) :: tabledMembers tail

end

end ComplianceEvidence.Json
