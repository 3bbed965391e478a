import ComplianceEvidence.Yaml.Node
import ComplianceEvidence.Number.Layout
import ComplianceEvidence.Text.Quoted

/-!
Contract: what the content of a scalar means besides its text.

Owns: the spellings of null, of truth values and of numbers, the tags that ask for one of them, and
how diagnostics name the value found.

Digits behind a leading zero are a text, never a number.
-/

set_option autoImplicit false

namespace ComplianceEvidence.Yaml

/-! ## Spellings -/

def isNullText (content : String) : Bool :=
  ["null", "Null", "NULL", "~"].contains content

def truth? (content : String) : Option Bool :=
  if ["true", "True", "TRUE"].contains content then some true
  else if ["false", "False", "FALSE"].contains content then some false
  else none

def digit? (base : Nat) (character : Char) : Option Nat :=
  (hexDigit? character).filter fun value => value < base

def digits? (base : Nat) (text : List Char) : Option Nat :=
  if text.isEmpty then none
  else
    text.foldl
      (fun value character => do return (← value) * base + (← digit? base character)) (some 0)

/-- Digits behind a zero, without a sign. -/
def hasLeadingZero : List Char → Bool
  | '0' :: second :: rest => (second :: rest).all Char.isDigit
  | _ => false

/-- A number without its sign, in base ten or behind the mark of another base. -/
def magnitude? : List Char → Option Nat
  | '0' :: 'x' :: rest => digits? 16 rest
  | '0' :: 'o' :: rest => digits? 8 rest
  | '0' :: 'b' :: rest => digits? 2 rest
  | text => if hasLeadingZero text then none else digits? 10 text

/-- A number that is not below zero, with or without a plus sign. -/
def natural? (text : List Char) : Option Nat :=
  match text with
  | '+' :: rest => magnitude? rest
  | _ => magnitude? text

/-- The magnitude of a number with a minus sign. -/
def negative? (text : List Char) : Option Nat :=
  match text with
  | '-' :: rest => magnitude? rest
  | _ => none

/-- An exponent and nothing behind it; no exponent is zero. -/
def exponent? : List Char → Option Int
  | [] => some 0
  | head :: tail =>
      if head = 'e' || head = 'E' then
        match tail with
        | '-' :: rest => (digits? 10 rest).map fun value => -(value : Int)
        | '+' :: rest => (digits? 10 rest).map fun value => (value : Int)
        | _ => (digits? 10 tail).map fun value => (value : Int)
      else none

/-- A decimal number without its sign; the point may stand at either end, but not alone. -/
def decimal? (negative : Bool) (text : List Char) : Option Binary64 := do
  let whole := text.takeWhile Char.isDigit
  let behind := text.drop whole.length
  let (fraction, rest) :=
    match behind with
    | '.' :: tail =>
        let fraction := tail.takeWhile Char.isDigit
        (fraction, tail.drop fraction.length)
    | _ => ([], behind)
  let significand ← digits? 10 (whole ++ fraction)
  let exponent ← exponent? rest
  return Binary64.ofDecimal negative significand (exponent - fraction.length)

def infinity (negative : Bool) : Binary64 :=
  Binary64.ofMagnitudeBits negative Binary64.infinityBits

def notANumber : Binary64 :=
  Binary64.ofMagnitudeBits false (Binary64.infinityBits + Number.twoTo 51)

/-- A number with a point or an exponent, an infinity or no number. A number too large for a double
is a text. -/
def double? (content : String) : Option Binary64 :=
  if [".inf", ".Inf", ".INF", "+.inf", "+.Inf", "+.INF"].contains content then
    some (infinity false)
  else if ["-.inf", "-.Inf", "-.INF"].contains content then some (infinity true)
  else if [".nan", ".NaN", ".NAN"].contains content then some notANumber
  else
    let value :=
      match content.toList with
      | '+' :: rest => decimal? false rest
      | '-' :: rest => decimal? true rest
      | text => decimal? false text
    value.filter fun double => !double.isInfinite

/-! ## Values found -/

inductive Found where
  | null
  | boolean (value : Bool)
  | integer (value : Int)
  | double (value : Binary64)
  | text (value : String)
  | sequence
  | mapping
deriving DecidableEq, Repr

/-- The remark behind an integer that no word of 64 bits holds. -/
def widthRemark (value : Int) : String :=
  if value < -(Number.signedLimit : Int) then " as i128"
  else if (Number.wordLimit : Int) ≤ value then " as u128"
  else ""

def Found.description : Found → String
  | .null => "unit value"
  | .boolean value => "boolean `" ++ (if value then "true" else "false") ++ "`"
  | .integer value => "integer `" ++ Number.wholeText value ++ "`" ++ widthRemark value
  | .double value => "floating point `" ++ Number.anyDoubleText value ++ "`"
  | .text value => "string " ++ Text.quoted value
  | .sequence => "sequence"
  | .mapping => "map"

/-- The integer that a content spells, if it fits into a word of 128 bits. -/
def integer? (content : String) : Option Int :=
  let text := content.toList
  match (natural? text).filter fun value => value < Number.twoTo 128 with
  | some value => some value
  | none => ((negative? text).filter fun value => value ≤ Number.twoTo 127).map fun value => -(value : Int)

/-- Digits behind a zero, with or without a sign. -/
def isZeroPadded (content : String) : Bool :=
  match content.toList with
  | '+' :: rest => hasLeadingZero rest
  | '-' :: rest => hasLeadingZero rest
  | text => hasLeadingZero text

/-- What a content means that has neither quotes nor a tag. -/
def Found.ofPlain (content : String) : Found :=
  if content.isEmpty || isNullText content then .null
  else
    match truth? content, integer? content with
    | some value, _ => .boolean value
    | none, some value => .integer value
    | none, none =>
        match if isZeroPadded content then none else double? content with
        | some value => .double value
        | none => .text content

/-- What a tag asks of the content of a scalar. -/
inductive Demand where
  | boolean
  | integer
  | double
  | null
deriving DecidableEq, Repr

namespace Demand

/-- The tags that ask for a form. -/
def ofTag? (tag : String) : Option Demand :=
  [("tag:yaml.org,2002:bool", boolean), ("tag:yaml.org,2002:int", integer),
    ("tag:yaml.org,2002:float", double), ("tag:yaml.org,2002:null", null)].lookup tag

def description : Demand → String
  | boolean => "a boolean"
  | integer => "an integer"
  | double => "a float"
  | null => "null"

/-- The value of the form that a content spells. -/
def found? (content : String) : Demand → Option Found
  | boolean => (truth? content).map .boolean
  | integer => (integer? content).map .integer
  | double => (double? content).map .double
  | null => if isNullText content then some .null else none

end Demand

end ComplianceEvidence.Yaml
