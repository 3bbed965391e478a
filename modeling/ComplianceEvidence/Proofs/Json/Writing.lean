import ComplianceEvidence.Json.QuotedText
import ComplianceEvidence.Proofs.Text.Plain

/-!
Contract: the written text of a JSON value is plain, whatever its texts and keys hold.

Owns: the three ways in which a character is written, and the characters that are written for a
text, a number and a value of any form.
-/

set_option autoImplicit false

namespace ComplianceEvidence.Json

open Text (Plain)

/-- A character is written with a letter behind a backslash, by its number, or as it is. -/
theorem escaped_cases (character : Char) :
    (∃ letter, simpleEscape? letter = some character ∧ escaped character = ['\\', letter]) ∨
    (character.toNat < 0x20 ∧ escaped character =
      ['\\', 'u', '0', '0', hexDigit (character.toNat / 16), hexDigit (character.toNat % 16)]) ∨
    (0x20 ≤ character.toNat ∧ character ≠ '"' ∧ character ≠ '\\' ∧
      escaped character = [character]) := by
  have named {number : Nat} (same : character.toNat = number) :
      character = Char.ofNat number := by
    rw [← same, Char.ofNat_toNat]
  unfold escaped
  split
  · rename_i same
    exact .inl ⟨'"', by rw [same]; rfl, rfl⟩
  split
  · rename_i same
    exact .inl ⟨'\\', by rw [same]; rfl, rfl⟩
  split
  · rename_i same
    exact .inl ⟨'n', by rw [same]; rfl, rfl⟩
  split
  · rename_i same
    exact .inl ⟨'r', by rw [same]; rfl, rfl⟩
  split
  · rename_i same
    exact .inl ⟨'t', by rw [same]; rfl, rfl⟩
  split
  · rename_i same
    exact .inl ⟨'b', by rw [named same]; rfl, rfl⟩
  split
  · rename_i same
    exact .inl ⟨'f', by rw [named same]; rfl, rfl⟩
  split
  · rename_i control
    exact .inr (.inl ⟨control, rfl⟩)
  · rename_i notQuote notBackslash _ _ _ _ _ shown
    exact .inr (.inr ⟨Nat.le_of_not_lt shown, notQuote, notBackslash, rfl⟩)

theorem plain_letter {letter character : Char} (escape : simpleEscape? letter = some character) :
    0x20 ≤ letter.toNat := by
  unfold simpleEscape? at escape
  split at escape
  case h_9 => cases escape
  all_goals decide

theorem plain_escaped (character : Char) : Plain (escaped character) := by
  rcases escaped_cases character with
    ⟨letter, escape, written⟩ | ⟨-, written⟩ | ⟨shown, _, _, written⟩
  · rw [written, Text.plain_cons, Text.plain_cons]
    exact ⟨by decide, plain_letter escape, Text.plain_nil⟩
  · have high := Number.plain_digitChar (character.toNat / 16)
    have low := Number.plain_digitChar (character.toNat % 16)
    rw [written]
    simp only [Text.plain_cons, hexDigit]
    exact ⟨by decide, by decide, by decide, by decide, high, low, Text.plain_nil⟩
  · rw [written, Text.plain_cons]
    exact ⟨shown, Text.plain_nil⟩

theorem plain_textChars (text : String) : Plain (textChars text) := by
  unfold textChars
  rw [Text.plain_append, Text.plain_cons]
  exact ⟨⟨by decide, Plain.flatMap plain_escaped⟩, by decide⟩

mutual

theorem Value.plain_chars : ∀ value : Value, Plain value.chars
  | .null => by decide
  | .boolean true => by decide
  | .boolean false => by decide
  | .integer value => Number.plain_wholeText value.value
  | .double value => Number.plain_doubleText Number.compact value
  | .text value => plain_textChars value
  | .list items => Text.plain_cons.2 ⟨by decide, plain_itemChars items⟩
  | .object members => Text.plain_cons.2 ⟨by decide, plain_memberChars members⟩

theorem plain_itemChars : ∀ items : List Value, Plain (itemChars items)
  | [] => by decide
  | [last] => by
      rw [itemChars, Text.plain_append]
      exact ⟨last.plain_chars, by decide⟩
  | head :: next :: tail => by
      rw [itemChars, Text.plain_append, Text.plain_cons]
      · exact ⟨head.plain_chars, by decide, plain_itemChars (next :: tail)⟩
      · simp

theorem plain_memberChars : ∀ members : List (String × Value), Plain (memberChars members)
  | [] => by decide
  | [(key, last)] => by
      rw [memberChars, Text.plain_append, Text.plain_cons, Text.plain_append]
      exact ⟨plain_textChars key, by decide, last.plain_chars, by decide⟩
  | (key, head) :: next :: tail => by
      rw [memberChars, Text.plain_append, Text.plain_cons, Text.plain_append, Text.plain_cons]
      · exact ⟨plain_textChars key, by decide, head.plain_chars, by decide,
          plain_memberChars (next :: tail)⟩
      · simp

end

/-- The written text of a value is one line without controls. -/
theorem Value.plain_render (value : Value) : Plain value.render.toList := by
  rw [render, String.toList_ofList]
  exact value.plain_chars

end ComplianceEvidence.Json
