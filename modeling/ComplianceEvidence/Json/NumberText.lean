import ComplianceEvidence.Json.Value
import ComplianceEvidence.Json.Fault

/-!
Contract: the numbers of a JSON text.

Owns: the value of a number and the end of a number whose value is not asked for.

A whole number in the range of a 64-bit word is kept exactly. Every other number becomes a double:
as many leading digits as fit into 64 bits are multiplied or divided by a power of ten, with one
rounding for each step, so that long numbers may miss the nearest double by a little.
-/

set_option autoImplicit false

namespace ComplianceEvidence.Json

inductive Numeral where
  | integer (value : Integer)
  | double (value : Binary64)
deriving DecidableEq, Repr

def Numeral.toValue : Numeral → Value
  | .integer value => .integer value
  | .double value => .double value

def Numeral.found : Numeral → Found
  | .integer value => .integer value.value
  | .double value => .double value

def digitOf (character : Char) : Nat :=
  character.toNat - '0'.toNat

def startsWithDigit : List Char → Bool
  | [] => false
  | head :: _ => head.isDigit

def dropDigits (text : List Char) : List Char :=
  text.dropWhile Char.isDigit

def significandLimit : Nat := Number.wordLimit

def exponentLimit : Nat := 0x80000000

/-- The greatest power of ten that is a double. -/
def greatestPower : Nat := 308

/-- A significand times a power of ten, rounded at each step; none beyond the largest double. -/
def scale (value : Binary64) (exponent : Int) : Option Binary64 :=
  if 0 ≤ exponent then
    if exponent ≤ greatestPower then
      let scaled := value.times (Binary64.powerOfTen exponent.toNat)
      if scaled.isInfinite then none else some scaled
    else if value.isZero then some value
    else none
  else if -(greatestPower : Int) ≤ exponent then
    some (value.dividedBy (Binary64.powerOfTen (-exponent).toNat))
  else if value.isZero then some value
  else scale (value.dividedBy (Binary64.powerOfTen greatestPower)) (exponent + greatestPower)
termination_by (-exponent).toNat
decreasing_by simp only [greatestPower] at *; omega

/-- The double of a sign, a significand and an exponent, read up to `rest`. -/
def finishDouble (negative : Bool) (significand : Nat) (exponent : Int) (rest : List Char) :
    Except Fault (Numeral × List Char) :=
  match scale (Binary64.ofNat significand) exponent with
  | none => .error ⟨.numberTooLarge, before rest⟩
  | some magnitude =>
      .ok (.double (if negative then magnitude.negate else magnitude), rest)

def readExponentDigits (negative : Bool) (significand : Nat) (start : Int) (falling : Bool)
    (exponent : Nat) : List Char → Except Fault (Numeral × List Char)
  | head :: tail =>
      if head.isDigit then
        let next := exponent * 10 + digitOf head
        if exponentLimit ≤ next then
          if significand ≠ 0 && !falling then .error ⟨.numberTooLarge, before tail⟩
          else
            .ok (.double (Binary64.ofMagnitudeBits negative 0), dropDigits tail)
        else readExponentDigits negative significand start falling next tail
      else
        finishDouble negative significand (if falling then start - exponent else start + exponent)
          (head :: tail)
  | [] =>
      finishDouble negative significand (if falling then start - exponent else start + exponent) []

def readExponent (negative : Bool) (significand : Nat) (start : Int) (text : List Char) :
    Except Fault (Numeral × List Char) :=
  let (falling, unsigned) :=
    match text with
    | '+' :: rest => (false, rest)
    | '-' :: rest => (true, rest)
    | _ => (false, text)
  match unsigned with
  | [] => .error ⟨.endInValue, before []⟩
  | head :: tail =>
      if head.isDigit then
        readExponentDigits negative significand start falling (digitOf head) tail
      else .error ⟨.badNumber, behindFirst unsigned⟩

/-- What follows the last digit of a number that is a double. -/
def readDoubleEnd (negative : Bool) (significand : Nat) (exponent : Int) (text : List Char) :
    Except Fault (Numeral × List Char) :=
  match text with
  | 'e' :: rest => readExponent negative significand exponent rest
  | 'E' :: rest => readExponent negative significand exponent rest
  | _ => finishDouble negative significand exponent text

/-- The digits behind the point, `count` of them read; digits that no longer fit are dropped. -/
def readFraction (negative : Bool) (significand : Nat) (exponent : Int) (count : Nat) :
    List Char → Except Fault (Numeral × List Char)
  | head :: tail =>
      if head.isDigit then
        let next := significand * 10 + digitOf head
        if significandLimit ≤ next then
          readDoubleEnd negative significand (exponent - count) (dropDigits tail)
        else readFraction negative next exponent (count + 1) tail
      else if count = 0 then .error ⟨.badNumber, behindFirst (head :: tail)⟩
      else readDoubleEnd negative significand (exponent - count) (head :: tail)
  | [] =>
      if count = 0 then .error ⟨.endInValue, before []⟩
      else finishDouble negative significand (exponent - count) []

/-- What follows a significand that is full: each further digit counts as a power of ten. -/
def readLongInteger (negative : Bool) (significand count : Nat) :
    List Char → Except Fault (Numeral × List Char)
  | head :: tail =>
      if head.isDigit then readLongInteger negative significand (count + 1) tail
      else if head = '.' then readFraction negative significand count 0 tail
      else readDoubleEnd negative significand count (head :: tail)
  | [] => finishDouble negative significand count []

/-- The whole number of a sign and a significand; minus zero and what is out of range are
doubles. -/
def wholeNumeral (negative : Bool) (significand : Nat) : Numeral :=
  if negative && significand = 0 then .double (Binary64.ofMagnitudeBits true 0)
  else
    match Integer.ofInt? (if negative then -(significand : Int) else significand) with
    | some value => .integer value
    | none => .double (Binary64.ofRatio negative significand 1)

/-- What follows the digits of a significand that fits. -/
def readIntegerEnd (negative : Bool) (significand : Nat) (text : List Char) :
    Except Fault (Numeral × List Char) :=
  match text with
  | '.' :: rest => readFraction negative significand 0 0 rest
  | 'e' :: rest => readExponent negative significand 0 rest
  | 'E' :: rest => readExponent negative significand 0 rest
  | _ => .ok (wholeNumeral negative significand, text)

def readIntegerDigits (negative : Bool) (significand : Nat) :
    List Char → Except Fault (Numeral × List Char)
  | head :: tail =>
      if head.isDigit then
        let next := significand * 10 + digitOf head
        if significandLimit ≤ next then readLongInteger negative significand 0 (head :: tail)
        else readIntegerDigits negative next tail
      else readIntegerEnd negative significand (head :: tail)
  | [] => .ok (wholeNumeral negative significand, [])

def readMagnitude (negative : Bool) : List Char → Except Fault (Numeral × List Char)
  | [] => .error ⟨.endInValue, before []⟩
  | head :: tail =>
      if head = '0' then
        if startsWithDigit tail then .error ⟨.badNumber, behindFirst tail⟩
        else readIntegerEnd negative 0 tail
      else if head.isDigit then readIntegerDigits negative (digitOf head) tail
      else .error ⟨.badNumber, behindFirst (head :: tail)⟩

/-- The number at the start of a text, and what follows it. -/
def readNumber (text : List Char) : Except Fault (Numeral × List Char) :=
  match text with
  | '-' :: rest => readMagnitude true rest
  | _ => readMagnitude false text

/-! ## Numbers that are passed over -/

def skipExponent (text : List Char) : Except Fault (List Char) :=
  let unsigned :=
    match text with
    | '+' :: rest => rest
    | '-' :: rest => rest
    | _ => text
  if startsWithDigit unsigned then .ok (dropDigits unsigned)
  else .error ⟨.badNumber, behindFirst unsigned⟩

/-- What follows the digits before the point. -/
def skipNumberEnd (text : List Char) : Except Fault (List Char) :=
  match text with
  | '.' :: rest =>
      if startsWithDigit rest then
        match dropDigits rest with
        | 'e' :: more => skipExponent more
        | 'E' :: more => skipExponent more
        | more => .ok more
      else .error ⟨.badNumber, behindFirst rest⟩
  | 'e' :: rest => skipExponent rest
  | 'E' :: rest => skipExponent rest
  | _ => .ok text

/-- What follows the number at the start of a text, whatever its size. -/
def skipNumber (text : List Char) : Except Fault (List Char) :=
  let unsigned :=
    match text with
    | '-' :: rest => rest
    | _ => text
  match unsigned with
  | '0' :: rest =>
      if startsWithDigit rest then .error ⟨.badNumber, behindFirst rest⟩
      else skipNumberEnd rest
  | _ =>
      if startsWithDigit unsigned then skipNumberEnd (dropDigits unsigned)
      else .error ⟨.badNumber, behindFirst unsigned⟩

end ComplianceEvidence.Json
