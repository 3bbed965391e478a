/-!
Contract: reading bytes as UTF-8, with the place of the first byte that cannot be read.

Owns: the decoder and the two ways in which it fails. A malformed sequence is as long as its
longest part that some character begins with; a sequence cut off by the end is incomplete.
-/

set_option autoImplicit false

namespace ComplianceEvidence.Text.Utf8

/-- Why bytes are no UTF-8 text; `index` counts the bytes before the sequence. -/
inductive Fault where
  | malformed (length index : Nat)
  | incomplete (index : Nat)
deriving DecidableEq, Repr

def Fault.message : Fault → String
  | .malformed length index =>
      s!"invalid utf-8 sequence of {length} bytes from index {index}"
  | .incomplete index => s!"incomplete utf-8 byte sequence from index {index}"

def isContinuation (byte : UInt8) : Bool :=
  0x80 ≤ byte && byte ≤ 0xBF

def sequenceLength (first : UInt8) : Option Nat :=
  if first < 0x80 then some 1
  else if 0xC2 ≤ first && first ≤ 0xDF then some 2
  else if 0xE0 ≤ first && first ≤ 0xEF then some 3
  else if 0xF0 ≤ first && first ≤ 0xF4 then some 4
  else none

/-- The second bytes a first byte allows: no overlong form, no surrogate, nothing above U+10FFFF. -/
def allowsSecond (first second : UInt8) : Bool :=
  if first = 0xE0 then 0xA0 ≤ second && second ≤ 0xBF
  else if first = 0xED then 0x80 ≤ second && second ≤ 0x9F
  else if first = 0xF0 then 0x90 ≤ second && second ≤ 0xBF
  else if first = 0xF4 then 0x80 ≤ second && second ≤ 0x8F
  else isContinuation second

def payload (byte : UInt8) : Nat :=
  byte.toNat % 64

def pair (first second : UInt8) : Char :=
  Char.ofNat (first.toNat % 32 * 64 + payload second)

def triple (first second third : UInt8) : Char :=
  Char.ofNat (first.toNat % 16 * 4096 + payload second * 64 + payload third)

def quadruple (first second third fourth : UInt8) : Char :=
  Char.ofNat (first.toNat % 8 * 262144 + payload second * 4096 + payload third * 64 +
    payload fourth)

/-- Reads bytes that stand after `index` others. -/
def decodeFrom (index : Nat) : List UInt8 → Except Fault (List Char)
  | [] => .ok []
  | first :: afterFirst =>
      match sequenceLength first with
      | none => .error (.malformed 1 index)
      | some 1 => (decodeFrom (index + 1) afterFirst).map (Char.ofNat first.toNat :: ·)
      | some length =>
          match afterFirst with
          | [] => .error (.incomplete index)
          | second :: afterSecond =>
              if !allowsSecond first second then .error (.malformed 1 index)
              else if length = 2 then
                (decodeFrom (index + 2) afterSecond).map (pair first second :: ·)
              else
                match afterSecond with
                | [] => .error (.incomplete index)
                | third :: afterThird =>
                    if !isContinuation third then .error (.malformed 2 index)
                    else if length = 3 then
                      (decodeFrom (index + 3) afterThird).map (triple first second third :: ·)
                    else
                      match afterThird with
                      | [] => .error (.incomplete index)
                      | fourth :: afterFourth =>
                          if !isContinuation fourth then .error (.malformed 3 index)
                          else
                            (decodeFrom (index + 4) afterFourth).map
                              (quadruple first second third fourth :: ·)

/-- The characters of a byte sequence, or its first fault. -/
def decode (bytes : List UInt8) : Except Fault (List Char) :=
  decodeFrom 0 bytes

def encode (text : String) : List UInt8 :=
  text.toUTF8.toList

end ComplianceEvidence.Text.Utf8
