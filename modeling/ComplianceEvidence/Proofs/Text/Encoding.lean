import ComplianceEvidence.Proofs.Attempt
import ComplianceEvidence.Text.Utf8
import Mathlib.Data.List.Basic

/-!
Contract: the decoder reads exactly the bytes of texts, and bytes are ordered as texts are.

Owns: the bytes of one character by the size of its number, the round trip of the decoder in both
directions, and the agreement of the two orders.

Does not own: the faults of the decoder and their wording.
-/

set_option autoImplicit false

namespace ComplianceEvidence.Text.Utf8

/-! ## The bytes of a text -/

private theorem toList_loop (bytes : ByteArray) (index : Nat) (reversed : List UInt8) :
    ByteArray.toList.loop bytes index reversed =
      reversed.reverse ++ bytes.data.toList.drop index := by
  fun_induction ByteArray.toList.loop bytes index reversed with
  | case1 index reversed inside inductionHypothesis =>
      have bound : index < bytes.data.toList.length := by simpa using inside
      have present : bytes.get! index = bytes.data.toList[index] := by
        have inArray : index < bytes.data.size := by simpa using inside
        simp [ByteArray.get!, getElem!_pos bytes.data index inArray]
      rw [inductionHypothesis, List.drop_eq_getElem_cons bound, present]
      simp
  | case2 index reversed outside =>
      have beyond : bytes.data.toList.length ≤ index := by
        simpa using Nat.le_of_not_lt outside
      rw [List.drop_eq_nil_of_le beyond, List.append_nil]

/-- The bytes of a text are those of its characters in order. -/
theorem encode_eq_flatMap (text : String) :
    encode text = text.toList.flatMap String.utf8EncodeChar := by
  have asArray : text.toUTF8 = (text.toList.flatMap String.utf8EncodeChar).toByteArray := by
    rw [String.toUTF8_eq_toByteArray, ← String.utf8Encode_toList]
    rfl
  rw [encode, asArray, ByteArray.toList, toList_loop]
  simp

@[simp] theorem encode_ofList (characters : List Char) :
    encode (String.ofList characters) = characters.flatMap String.utf8EncodeChar := by
  simp [encode_eq_flatMap]

/-! ## The bytes of a character -/

theorem toNat_lt (character : Char) : character.toNat < 0x110000 := by
  have valid : character.toNat < 0xD800 ∨ 0xDFFF < character.toNat ∧
      character.toNat < 0x110000 := character.valid
  omega

/-- A character has one, two, three or four bytes, by the size of its number. -/
theorem size_cases (character : Char) :
    character.toNat < 0x80 ∨ (0x80 ≤ character.toNat ∧ character.toNat < 0x800) ∨
      (0x800 ≤ character.toNat ∧ character.toNat < 0x10000) ∨ 0x10000 ≤ character.toNat := by
  omega

section Character

variable {character : Char}

theorem encodeChar_one (below : character.toNat < 0x80) :
    String.utf8EncodeChar character = [UInt8.ofNat character.toNat] := by
  have bound : character.val.toNat ≤ 0x7F := Nat.le_of_lt_succ below
  simp only [String.utf8EncodeChar, bound, ↓reduceIte]
  rfl

theorem encodeChar_two (above : 0x80 ≤ character.toNat) (below : character.toNat < 0x800) :
    String.utf8EncodeChar character =
      [UInt8.ofNat (character.toNat / 64 + 0xC0), UInt8.ofNat (character.toNat % 64 + 0x80)] := by
  have notOne : ¬ character.val.toNat ≤ 0x7F := Nat.not_le.2 above
  have bound : character.val.toNat ≤ 0x7FF := Nat.le_of_lt_succ below
  have high : character.toNat / 64 % 0x20 = character.toNat / 64 := by omega
  simp only [String.utf8EncodeChar, notOne, bound, ↓reduceIte]
  change [UInt8.ofNat (character.toNat / 64 % 0x20 + 0xC0), _] = _
  rw [high]
  rfl

theorem encodeChar_three (above : 0x800 ≤ character.toNat) (below : character.toNat < 0x10000) :
    String.utf8EncodeChar character =
      [UInt8.ofNat (character.toNat / 4096 + 0xE0),
        UInt8.ofNat (character.toNat / 64 % 64 + 0x80),
        UInt8.ofNat (character.toNat % 64 + 0x80)] := by
  have notOne : ¬ character.val.toNat ≤ 0x7F :=
    Nat.not_le.2 (Nat.lt_of_lt_of_le (by decide : 0x7F < 0x800) above)
  have notTwo : ¬ character.val.toNat ≤ 0x7FF := Nat.not_le.2 above
  have bound : character.val.toNat ≤ 0xFFFF := Nat.le_of_lt_succ below
  have high : character.toNat / 4096 % 0x10 = character.toNat / 4096 := by omega
  simp only [String.utf8EncodeChar, notOne, notTwo, bound, ↓reduceIte]
  change [UInt8.ofNat (character.toNat / 4096 % 0x10 + 0xE0), _, _] = _
  rw [high]
  rfl

theorem encodeChar_four (above : 0x10000 ≤ character.toNat) :
    String.utf8EncodeChar character =
      [UInt8.ofNat (character.toNat / 262144 + 0xF0),
        UInt8.ofNat (character.toNat / 4096 % 64 + 0x80),
        UInt8.ofNat (character.toNat / 64 % 64 + 0x80),
        UInt8.ofNat (character.toNat % 64 + 0x80)] := by
  have limit := toNat_lt character
  have notOne : ¬ character.val.toNat ≤ 0x7F :=
    Nat.not_le.2 (Nat.lt_of_lt_of_le (by decide : 0x7F < 0x10000) above)
  have notTwo : ¬ character.val.toNat ≤ 0x7FF :=
    Nat.not_le.2 (Nat.lt_of_lt_of_le (by decide : 0x7FF < 0x10000) above)
  have notThree : ¬ character.val.toNat ≤ 0xFFFF := Nat.not_le.2 above
  have high : character.toNat / 262144 % 0x08 = character.toNat / 262144 := by omega
  simp only [String.utf8EncodeChar, notOne, notTwo, notThree, ↓reduceIte]
  change [UInt8.ofNat (character.toNat / 262144 % 0x08 + 0xF0), _, _, _] = _
  rw [high]
  rfl

/-- The bytes of a character outside ASCII are above ASCII. -/
theorem le_of_mem_encodeChar (above : 0x80 ≤ character.toNat) {byte : UInt8}
    (member : byte ∈ String.utf8EncodeChar character) : 0x80 ≤ byte.toNat := by
  have limit := toNat_lt character
  rcases size_cases character with one | ⟨_, two⟩ | ⟨three, below⟩ | four
  · omega
  · rw [encodeChar_two above two] at member
    simp only [List.mem_cons, List.not_mem_nil, or_false] at member
    rcases member with rfl | rfl <;> rw [UInt8.toNat_ofNat'] <;> omega
  · rw [encodeChar_three three below] at member
    simp only [List.mem_cons, List.not_mem_nil, or_false] at member
    rcases member with rfl | rfl | rfl <;> rw [UInt8.toNat_ofNat'] <;> omega
  · rw [encodeChar_four four] at member
    simp only [List.mem_cons, List.not_mem_nil, or_false] at member
    rcases member with rfl | rfl | rfl | rfl <;> rw [UInt8.toNat_ofNat'] <;> omega

end Character

/-! ## Steps of the decoder -/

section Step

variable {first second third fourth : UInt8}

theorem sequenceLength_eq (first : UInt8) :
    sequenceLength first =
      if first.toNat < 0x80 then some 1
      else if 0xC2 ≤ first.toNat ∧ first.toNat ≤ 0xDF then some 2
      else if 0xE0 ≤ first.toNat ∧ first.toNat ≤ 0xEF then some 3
      else if 0xF0 ≤ first.toNat ∧ first.toNat ≤ 0xF4 then some 4
      else none := by
  simp [sequenceLength, UInt8.lt_iff_toNat_lt, UInt8.le_iff_toNat_le]

theorem isContinuation_iff {byte : UInt8} :
    isContinuation byte = true ↔ 0x80 ≤ byte.toNat ∧ byte.toNat ≤ 0xBF := by
  simp [isContinuation, UInt8.le_iff_toNat_le]

theorem allowsSecond_iff :
    allowsSecond first second = true ↔
      0x80 ≤ second.toNat ∧ second.toNat ≤ 0xBF ∧
        (first.toNat = 0xE0 → 0xA0 ≤ second.toNat) ∧
        (first.toNat = 0xED → second.toNat ≤ 0x9F) ∧
        (first.toNat = 0xF0 → 0x90 ≤ second.toNat) ∧
        (first.toNat = 0xF4 → second.toNat ≤ 0x8F) := by
  have same (number : UInt8) : first = number ↔ first.toNat = number.toNat :=
    UInt8.toNat_inj.symm
  simp only [allowsSecond, same, UInt8.reduceToNat]
  split
  · simp only [Bool.and_eq_true, decide_eq_true_eq, UInt8.le_iff_toNat_le, UInt8.reduceToNat]
    omega
  · split
    · simp only [Bool.and_eq_true, decide_eq_true_eq, UInt8.le_iff_toNat_le, UInt8.reduceToNat]
      omega
    · split
      · simp only [Bool.and_eq_true, decide_eq_true_eq, UInt8.le_iff_toNat_le, UInt8.reduceToNat]
        omega
      · split
        · simp only [Bool.and_eq_true, decide_eq_true_eq, UInt8.le_iff_toNat_le,
            UInt8.reduceToNat]
          omega
        · rw [isContinuation_iff]
          omega

theorem decodeFrom_one (index : Nat) (rest : List UInt8) (length : sequenceLength first = some 1) :
    decodeFrom index (first :: rest) =
      (decodeFrom (index + 1) rest).map (Char.ofNat first.toNat :: ·) := by
  simp [decodeFrom, length]

theorem decodeFrom_two (index : Nat) (rest : List UInt8) (length : sequenceLength first = some 2)
    (allowed : allowsSecond first second = true) :
    decodeFrom index (first :: second :: rest) =
      (decodeFrom (index + 2) rest).map (pair first second :: ·) := by
  simp [decodeFrom, length, allowed]

theorem decodeFrom_three (index : Nat) (rest : List UInt8)
    (length : sequenceLength first = some 3) (allowed : allowsSecond first second = true)
    (continued : isContinuation third = true) :
    decodeFrom index (first :: second :: third :: rest) =
      (decodeFrom (index + 3) rest).map (triple first second third :: ·) := by
  simp [decodeFrom, length, allowed, continued]

theorem decodeFrom_four (index : Nat) (rest : List UInt8)
    (length : sequenceLength first = some 4) (allowed : allowsSecond first second = true)
    (continued : isContinuation third = true) (ended : isContinuation fourth = true) :
    decodeFrom index (first :: second :: third :: fourth :: rest) =
      (decodeFrom (index + 4) rest).map (quadruple first second third fourth :: ·) := by
  simp [decodeFrom, length, allowed, continued, ended]

theorem pair_eq (character : Char)
    (number : first.toNat % 32 * 64 + second.toNat % 64 = character.toNat) :
    pair first second = character := by
  rw [pair, payload, number, Char.ofNat_toNat]

theorem triple_eq (character : Char)
    (number : first.toNat % 16 * 4096 + second.toNat % 64 * 64 + third.toNat % 64 =
      character.toNat) :
    triple first second third = character := by
  rw [triple, payload, payload, number, Char.ofNat_toNat]

theorem quadruple_eq (character : Char)
    (number : first.toNat % 8 * 262144 + second.toNat % 64 * 4096 + third.toNat % 64 * 64 +
      fourth.toNat % 64 = character.toNat) :
    quadruple first second third fourth = character := by
  rw [quadruple, payload, payload, payload, number, Char.ofNat_toNat]

end Step

/-! ## Decoding what was encoded -/

/-- The decoder takes the bytes of one character off the front. -/
theorem decodeFrom_encodeChar (index : Nat) (character : Char) (rest : List UInt8) :
    decodeFrom index (String.utf8EncodeChar character ++ rest) =
      (decodeFrom (index + (String.utf8EncodeChar character).length) rest).map
        (character :: ·) := by
  have limit := toNat_lt character
  have valid : character.toNat < 0xD800 ∨ 0xDFFF < character.toNat ∧
      character.toNat < 0x110000 := character.valid
  rcases size_cases character with one | ⟨above, two⟩ | ⟨above, three⟩ | four
  · rw [encodeChar_one one, List.singleton_append, decodeFrom_one]
    · rw [UInt8.toNat_ofNat', Nat.mod_eq_of_lt (by omega), Char.ofNat_toNat]
      rfl
    · rw [sequenceLength_eq, UInt8.toNat_ofNat', if_pos (by omega)]
  · rw [encodeChar_two above two, List.cons_append, List.singleton_append, decodeFrom_two]
    · rw [pair_eq character (by
        rw [UInt8.toNat_ofNat', UInt8.toNat_ofNat']
        omega)]
      rfl
    · rw [sequenceLength_eq, UInt8.toNat_ofNat', if_neg (by omega), if_pos (by omega)]
    · rw [allowsSecond_iff, UInt8.toNat_ofNat', UInt8.toNat_ofNat']
      omega
  · rw [encodeChar_three above three, List.cons_append, List.cons_append, List.singleton_append,
      decodeFrom_three]
    · rw [triple_eq character (by
        rw [UInt8.toNat_ofNat', UInt8.toNat_ofNat', UInt8.toNat_ofNat']
        omega)]
      rfl
    · rw [sequenceLength_eq, UInt8.toNat_ofNat', if_neg (by omega), if_neg (by omega),
        if_pos (by omega)]
    · rw [allowsSecond_iff, UInt8.toNat_ofNat', UInt8.toNat_ofNat']
      omega
    · rw [isContinuation_iff, UInt8.toNat_ofNat']
      omega
  · rw [encodeChar_four four, List.cons_append, List.cons_append, List.cons_append,
      List.singleton_append, decodeFrom_four]
    · rw [quadruple_eq character (by
        rw [UInt8.toNat_ofNat', UInt8.toNat_ofNat', UInt8.toNat_ofNat', UInt8.toNat_ofNat']
        omega)]
      rfl
    · rw [sequenceLength_eq, UInt8.toNat_ofNat', if_neg (by omega), if_neg (by omega),
        if_neg (by omega), if_pos (by omega)]
    · rw [allowsSecond_iff, UInt8.toNat_ofNat', UInt8.toNat_ofNat']
      omega
    · rw [isContinuation_iff, UInt8.toNat_ofNat']
      omega
    · rw [isContinuation_iff, UInt8.toNat_ofNat']
      omega

/-- Every text is read from its bytes. -/
theorem decodeFrom_flatMap (index : Nat) (text : List Char) :
    decodeFrom index (text.flatMap String.utf8EncodeChar) = .ok text := by
  induction text generalizing index with
  | nil => rfl
  | cons head tail inductionHypothesis =>
      rw [List.flatMap_cons, decodeFrom_encodeChar, inductionHypothesis]
      rfl

/-! ## Encoding what was decoded -/

theorem toNat_ofNat_of_valid {number : Nat} (valid : number.isValidChar) :
    (Char.ofNat number).toNat = number := by
  rw [Char.ofNat, dif_pos valid]
  rfl

theorem ofNat_eq_of_toNat (byte : UInt8) {number : Nat} (same : number = byte.toNat) :
    UInt8.ofNat number = byte := by
  rw [same, UInt8.ofNat_toNat]

section Sequence

variable {first second third fourth : UInt8}

theorem encodeChar_single (length : sequenceLength first = some 1) :
    String.utf8EncodeChar (Char.ofNat first.toNat) = [first] := by
  have ascii : first.toNat < 0x80 := by
    rw [sequenceLength_eq] at length
    grind
  have number : (Char.ofNat first.toNat).toNat = first.toNat :=
    toNat_ofNat_of_valid (.inl (by omega))
  rw [encodeChar_one (by omega), number, UInt8.ofNat_toNat]

theorem encodeChar_pair (length : sequenceLength first = some 2)
    (allowed : allowsSecond first second = true) :
    String.utf8EncodeChar (pair first second) = [first, second] := by
  have range : 0xC2 ≤ first.toNat ∧ first.toNat ≤ 0xDF := by
    rw [sequenceLength_eq] at length
    grind
  have continued := allowsSecond_iff.1 allowed
  have number : (pair first second).toNat = first.toNat % 32 * 64 + second.toNat % 64 :=
    toNat_ofNat_of_valid (.inl (by rw [payload]; omega))
  rw [encodeChar_two (by omega) (by omega), number,
    ofNat_eq_of_toNat first (by omega), ofNat_eq_of_toNat second (by omega)]

theorem encodeChar_triple (length : sequenceLength first = some 3)
    (allowed : allowsSecond first second = true) (continued : isContinuation third = true) :
    String.utf8EncodeChar (triple first second third) = [first, second, third] := by
  have range : 0xE0 ≤ first.toNat ∧ first.toNat ≤ 0xEF := by
    rw [sequenceLength_eq] at length
    grind
  have allowedRange := allowsSecond_iff.1 allowed
  have thirdRange := isContinuation_iff.1 continued
  have number : (triple first second third).toNat =
      first.toNat % 16 * 4096 + second.toNat % 64 * 64 + third.toNat % 64 :=
    toNat_ofNat_of_valid (by rw [payload, payload, Nat.isValidChar]; omega)
  rw [encodeChar_three (by omega) (by omega), number,
    ofNat_eq_of_toNat first (by omega), ofNat_eq_of_toNat second (by omega),
    ofNat_eq_of_toNat third (by omega)]

theorem encodeChar_quadruple (length : sequenceLength first = some 4)
    (allowed : allowsSecond first second = true) (continued : isContinuation third = true)
    (ended : isContinuation fourth = true) :
    String.utf8EncodeChar (quadruple first second third fourth) =
      [first, second, third, fourth] := by
  have range : 0xF0 ≤ first.toNat ∧ first.toNat ≤ 0xF4 := by
    rw [sequenceLength_eq] at length
    grind
  have allowedRange := allowsSecond_iff.1 allowed
  have thirdRange := isContinuation_iff.1 continued
  have fourthRange := isContinuation_iff.1 ended
  have number : (quadruple first second third fourth).toNat =
      first.toNat % 8 * 262144 + second.toNat % 64 * 4096 + third.toNat % 64 * 64 +
        fourth.toNat % 64 :=
    toNat_ofNat_of_valid (by rw [payload, payload, payload, Nat.isValidChar]; omega)
  rw [encodeChar_four (by omega), number,
    ofNat_eq_of_toNat first (by omega), ofNat_eq_of_toNat second (by omega),
    ofNat_eq_of_toNat third (by omega), ofNat_eq_of_toNat fourth (by omega)]

end Sequence

/-- What the decoder reads has exactly the bytes that were read. -/
theorem flatMap_of_decodeFrom {index : Nat} {bytes : List UInt8} {text : List Char}
    (decoded : decodeFrom index bytes = .ok text) :
    text.flatMap String.utf8EncodeChar = bytes := by
  fun_induction decodeFrom index bytes generalizing text with
  | case1 =>
      obtain rfl : text = [] := by simpa using decoded.symm
      rfl
  | case3 index first rest length inductionHypothesis =>
      obtain ⟨tail, decodedTail, rfl⟩ := Attempt.map_eq_ok_iff.1 decoded
      rw [List.flatMap_cons, encodeChar_single length, inductionHypothesis decodedTail]
      rfl
  | case6 index first second rest allowed _ length inductionHypothesis =>
      obtain ⟨tail, decodedTail, rfl⟩ := Attempt.map_eq_ok_iff.1 decoded
      rw [List.flatMap_cons, encodeChar_pair length (by simpa using allowed),
        inductionHypothesis decodedTail]
      rfl
  | case9 index first second allowed third rest continued _ length _ inductionHypothesis =>
      obtain ⟨tail, decodedTail, rfl⟩ := Attempt.map_eq_ok_iff.1 decoded
      rw [List.flatMap_cons,
        encodeChar_triple length (by simpa using allowed) (by simpa using continued),
        inductionHypothesis decodedTail]
      rfl
  | case12 index first size notOne length second allowed notTwo third continued notThree fourth
      rest ended inductionHypothesis =>
      obtain ⟨tail, decodedTail, rfl⟩ := Attempt.map_eq_ok_iff.1 decoded
      have isFour : size = 4 := by
        rw [sequenceLength_eq] at length
        grind
      rw [isFour] at length
      rw [List.flatMap_cons,
        encodeChar_quadruple length (by simpa using allowed) (by simpa using continued)
          (by simpa using ended),
        inductionHypothesis decodedTail]
      rfl
  | case2 => simp at decoded
  | case4 => simp at decoded
  | case5 => simp at decoded
  | case7 => simp at decoded
  | case8 => simp at decoded
  | case10 => simp at decoded
  | case11 => simp at decoded

/-- Bytes are read as a text if and only if they are the bytes of that text. -/
theorem decode_eq_ok_iff {bytes : List UInt8} {text : List Char} :
    decode bytes = .ok text ↔ bytes = encode (String.ofList text) := by
  rw [encode_ofList]
  constructor
  · intro decoded
    exact (flatMap_of_decodeFrom decoded).symm
  · rintro rfl
    exact decodeFrom_flatMap 0 text

/-! ## The order of bytes -/

/-- The first byte tells how many there are. -/
theorem encodeChar_eq_cons (character : Char) :
    ∃ lead tail, String.utf8EncodeChar character = lead :: tail ∧
      (character.toNat < 0x80 ↔ lead.toNat < 0x80) ∧
      (character.toNat < 0x800 ↔ lead.toNat < 0xE0) ∧
      (character.toNat < 0x10000 ↔ lead.toNat < 0xF0) := by
  have limit := toNat_lt character
  rcases size_cases character with one | ⟨above, two⟩ | ⟨above, three⟩ | four
  · refine ⟨_, _, encodeChar_one one, ?_⟩
    rw [UInt8.toNat_ofNat']
    omega
  · refine ⟨_, _, encodeChar_two above two, ?_⟩
    rw [UInt8.toNat_ofNat']
    omega
  · refine ⟨_, _, encodeChar_three above three, ?_⟩
    rw [UInt8.toNat_ofNat']
    omega
  · refine ⟨_, _, encodeChar_four four, ?_⟩
    rw [UInt8.toNat_ofNat']
    omega

section Order

variable {left right : Char} (leftRest rightRest : List UInt8)

/-- Between the sizes the first byte decides. -/
theorem encodeChar_append_lt_of_size
    (larger : (left.toNat < 0x80 ∧ 0x80 ≤ right.toNat) ∨
      (left.toNat < 0x800 ∧ 0x800 ≤ right.toNat) ∨
      (left.toNat < 0x10000 ∧ 0x10000 ≤ right.toNat)) :
    String.utf8EncodeChar left ++ leftRest < String.utf8EncodeChar right ++ rightRest := by
  obtain ⟨leftLead, leftTail, leftBytes, leftOne, leftTwo, leftThree⟩ := encodeChar_eq_cons left
  obtain ⟨rightLead, rightTail, rightBytes, rightOne, rightTwo, rightThree⟩ :=
    encodeChar_eq_cons right
  have leadLess : leftLead < rightLead := by
    rw [UInt8.lt_iff_toNat_lt]
    omega
  rw [leftBytes, rightBytes, List.cons_append, List.cons_append]
  exact List.cons_lt_cons_iff.2 (.inl leadLess)

/-- The bytes of a smaller character come first, whatever follows. -/
theorem encodeChar_append_lt (less : left < right) :
    String.utf8EncodeChar left ++ leftRest < String.utf8EncodeChar right ++ rightRest := by
  have smaller : left.toNat < right.toNat := less
  have limit := toNat_lt right
  -- Within a size the bytes are the digits of the number, the highest first.
  rcases size_cases left with one | ⟨above, two⟩ | ⟨above, three⟩ | four
  · by_cases rightOne : right.toNat < 0x80
    · rw [encodeChar_one one, encodeChar_one rightOne]
      simp only [List.cons_append, List.cons_lt_cons_iff, UInt8.lt_iff_toNat_lt,
        ← UInt8.toNat_inj, UInt8.toNat_ofNat']
      omega
    · apply encodeChar_append_lt_of_size
      omega
  · by_cases rightTwo : right.toNat < 0x800
    · rw [encodeChar_two above two, encodeChar_two (by omega) rightTwo]
      simp only [List.cons_append, List.cons_lt_cons_iff, UInt8.lt_iff_toNat_lt,
        ← UInt8.toNat_inj, UInt8.toNat_ofNat']
      omega
    · apply encodeChar_append_lt_of_size
      omega
  · by_cases rightThree : right.toNat < 0x10000
    · rw [encodeChar_three above three, encodeChar_three (by omega) rightThree]
      simp only [List.cons_append, List.cons_lt_cons_iff, UInt8.lt_iff_toNat_lt,
        ← UInt8.toNat_inj, UInt8.toNat_ofNat']
      omega
    · apply encodeChar_append_lt_of_size
      omega
  · have rightFour : 0x10000 ≤ right.toNat := by omega
    have lower (number : Nat) : (number % 64 + 0x80) % 2 ^ 8 = number % 64 + 0x80 := by omega
    have leftLead : (left.toNat / 262144 + 0xF0) % 2 ^ 8 = left.toNat / 262144 + 0xF0 := by
      omega
    have rightLead : (right.toNat / 262144 + 0xF0) % 2 ^ 8 = right.toNat / 262144 + 0xF0 := by
      omega
    rw [encodeChar_four four, encodeChar_four rightFour]
    simp only [List.cons_append, List.cons_lt_cons_iff, UInt8.lt_iff_toNat_lt,
      ← UInt8.toNat_inj, UInt8.toNat_ofNat', lower, leftLead, rightLead]
    omega

end Order

theorem flatMap_lt_of_lt {left right : List Char} (less : left < right) :
    left.flatMap String.utf8EncodeChar < right.flatMap String.utf8EncodeChar := by
  induction left generalizing right with
  | nil =>
      cases right with
      | nil => exact absurd less (List.lt_irrefl [])
      | cons head tail =>
          rw [List.flatMap_nil, List.flatMap_cons]
          have notEmpty : String.utf8EncodeChar head ≠ [] := String.utf8EncodeChar_ne_nil
          obtain ⟨first, more, bytes⟩ := List.exists_cons_of_ne_nil notEmpty
          rw [bytes, List.cons_append]
          exact List.nil_lt_cons _ _
  | cons leftHead leftTail inductionHypothesis =>
      cases right with
      | nil => exact absurd less (List.not_lt_nil _)
      | cons rightHead rightTail =>
          rw [List.flatMap_cons, List.flatMap_cons]
          rcases List.cons_lt_cons_iff.1 less with headLess | ⟨rfl, tailLess⟩
          · exact encodeChar_append_lt _ _ headLess
          · exact List.append_left_lt (inductionHypothesis tailLess)

/-- Texts are in the order of their bytes. -/
theorem encode_lt_encode_iff {left right : String} :
    encode left < encode right ↔ left < right := by
  have ascends {first second : String} (less : first < second) :
      encode first < encode second := by
    rw [encode_eq_flatMap, encode_eq_flatMap]
    exact flatMap_lt_of_lt less
  constructor
  · intro less
    rcases Decidable.em (left < right) with result | notLess
    · exact result
    · by_cases greater : right < left
      · exact absurd (ascends greater) (List.lt_asymm less)
      · have same : left = right :=
          String.le_antisymm (String.not_lt.1 greater) (String.not_lt.1 notLess)
        exact absurd (same ▸ less) (List.lt_irrefl _)
  · exact ascends

theorem encode_le_encode_iff {left right : String} :
    encode left ≤ encode right ↔ left ≤ right := by
  rw [← List.not_lt, ← String.not_lt, encode_lt_encode_iff]

/-- Texts that ascend do so by their bytes. -/
theorem encode_ascending {texts : List String} (ascending : texts.Pairwise (· < ·)) :
    texts.Pairwise fun left right => encode left < encode right :=
  ascending.imp encode_lt_encode_iff.2

/-- A text with no control character has no control byte. -/
theorem le_of_mem_encode {text : String} {least : Nat} (ascii : least ≤ 0x80)
    (above : ∀ character ∈ text.toList, least ≤ character.toNat) {byte : UInt8}
    (member : byte ∈ encode text) : least ≤ byte.toNat := by
  rw [encode_eq_flatMap, List.mem_flatMap] at member
  obtain ⟨character, inText, inCharacter⟩ := member
  rcases Nat.lt_or_ge character.toNat 0x80 with small | large
  · rw [encodeChar_one small, List.mem_singleton] at inCharacter
    rw [inCharacter, UInt8.toNat_ofNat', Nat.mod_eq_of_lt (by omega)]
    exact above character inText
  · exact Nat.le_trans ascii (le_of_mem_encodeChar large inCharacter)

end ComplianceEvidence.Text.Utf8
