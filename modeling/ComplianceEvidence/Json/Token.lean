import ComplianceEvidence.Json.NumberText
import ComplianceEvidence.Json.QuotedText

/-!
Contract: a JSON text cut into tokens.

Owns: the tokens with the text that remains before and behind each, and the cut. Tokens are told
apart without asking for values: a number may be out of range and a quoted text may hold a lone
surrogate. A token that has no end is the last one and carries what is wrong with it.
-/

set_option autoImplicit false

namespace ComplianceEvidence.Json

/-- What is wrong with a text at one place, for a reader that asks for the value there and for a
reader that passes over it. -/
structure Flaw where
  read : Fault
  passed : Fault
deriving DecidableEq, Repr

def Flaw.same (cause : Cause) (place : Place) : Flaw :=
  ⟨⟨cause, place⟩, ⟨cause, place⟩⟩

/-- A value without parts; a number and a text are read from where they stand. -/
inductive Scalar where
  | null
  | boolean (value : Bool)
  | number
  | text (body : List Char)
deriving DecidableEq, Repr

inductive Lexeme where
  | scalar (value : Scalar)
  | openList
  | closeList
  | openObject
  | closeObject
  | colon
  | comma
  | broken (flaw : Flaw)
  | stray
deriving DecidableEq, Repr

structure Token where
  start : List Char
  lexeme : Lexeme
  after : List Char
deriving DecidableEq, Repr

def isGap (character : Char) : Bool :=
  character = ' ' || character = '\n' || character = '\t' || character = '\r'

def skipGap (text : List Char) : List Char :=
  text.dropWhile isGap

/-- The remaining letters of a word, and what follows them. -/
def readWord : List Char → List Char → Except Fault (List Char)
  | [], text => .ok text
  | _ :: _, [] => .error ⟨.endInValue, before []⟩
  | letter :: letters, head :: tail =>
      if head = letter then readWord letters tail
      else .error ⟨.expectedWord, behindFirst (head :: tail)⟩

/-- The token that the outcome of passing over it makes. -/
def tokenOf (start : List Char) (lexeme : Lexeme) (read : Option Fault) :
    Except Fault (List Char) → Token
  | .ok after => ⟨start, lexeme, after⟩
  | .error passed => ⟨start, .broken ⟨read.getD passed, passed⟩, []⟩

def faultOf {α : Type} : Except Fault α → Option Fault
  | .ok _ => none
  | .error fault => some fault

/-- The first token of a text that starts with no gap. -/
def firstToken (head : Char) (tail : List Char) : Token :=
  let start := head :: tail
  if head = '\x7b' then ⟨start, .openObject, tail⟩
  else if head = '\x7d' then ⟨start, .closeObject, tail⟩
  else if head = '[' then ⟨start, .openList, tail⟩
  else if head = ']' then ⟨start, .closeList, tail⟩
  else if head = ':' then ⟨start, .colon, tail⟩
  else if head = ',' then ⟨start, .comma, tail⟩
  else if head = '"' then tokenOf start (.scalar (.text tail)) (faultOf (readText tail)) (skipText tail)
  else if head = '-' || head.isDigit then
    tokenOf start (.scalar .number) (faultOf (readNumber start)) (skipNumber start)
  else if head = 'n' then
    tokenOf start (.scalar .null) none (readWord ['u', 'l', 'l'] tail)
  else if head = 't' then
    tokenOf start (.scalar (.boolean true)) none (readWord ['r', 'u', 'e'] tail)
  else if head = 'f' then
    tokenOf start (.scalar (.boolean false)) none (readWord ['a', 'l', 's', 'e'] tail)
  else ⟨start, .stray, tail⟩

def tokens (text : List Char) : List Token :=
  match _skipped : skipGap text with
  | [] => []
  | head :: tail =>
      let token := firstToken head tail
      if _shorter : token.after.length < text.length then token :: tokens token.after
      else [token]
termination_by text.length

end ComplianceEvidence.Json
