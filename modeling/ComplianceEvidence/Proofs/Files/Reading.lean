import ComplianceEvidence.Files.Reading
import ComplianceEvidence.Proofs.Attempt
import ComplianceEvidence.Proofs.Text.Encoding

/-!
Contract: a path gives a text exactly if it leads to a file with the bytes of the text.

Owns: files with text in terms of the encoding, and the reasons why a path gives no text.
-/

set_option autoImplicit false

namespace ComplianceEvidence.Files

open Text.Utf8 (encode decode)

variable {files : Files} {path text : String} {content : List UInt8} {fault : Fault}

theorem Node.bytes_eq_ok_iff {node : Node} : node.bytes = .ok content ↔ node = .file content := by
  cases node <;> simp [Node.bytes]

/-- Bytes that are the encoding of no text. -/
def NotText (content : List UInt8) : Prop :=
  ∀ text, content ≠ encode text

theorem textOf_encode (text : String) : textOf (encode text) = .ok text := by
  have decoded : decode (encode text) = .ok text.toList := by
    rw [Text.Utf8.decode_eq_ok_iff, String.ofList_toList]
  rw [textOf, decoded]
  exact congrArg Except.ok String.ofList_toList

theorem textOf_eq_ok_iff : textOf content = .ok text ↔ content = encode text := by
  constructor
  · intro read
    unfold textOf at read
    split at read
    · rename_i characters decoded
      obtain rfl := Except.ok.inj read
      exact Text.Utf8.decode_eq_ok_iff.1 decoded
    · cases read
  · rintro rfl
    exact textOf_encode text

theorem textOf_eq_error_iff :
    textOf content = .error fault ↔ NotText content ∧ fault = .notUtf8 := by
  cases read : textOf content with
  | ok text =>
      refine iff_of_false nofun ?_
      rintro ⟨notText, -⟩
      exact notText text (textOf_eq_ok_iff.1 read)
  | error reason =>
      have notText : NotText content := by
        intro text isEncoding
        rw [textOf_eq_ok_iff.2 isEncoding] at read
        cases read
      have isNotUtf8 : reason = .notUtf8 := by
        unfold textOf at read
        split at read
        · cases read
        · exact (Except.error.inj read).symm
      rw [isNotUtf8, Except.error.injEq]
      exact ⟨fun same => ⟨notText, same.symm⟩, fun both => both.2.symm⟩

theorem readText_eq_ok_iff :
    files.readText path = .ok text ↔ files.node path = .ok (.file (encode text)) := by
  rw [readText, Attempt.bind_eq_ok_iff]
  simp only [Attempt.bind_eq_ok_iff, Node.bytes_eq_ok_iff, textOf_eq_ok_iff]
  constructor
  · rintro ⟨node, leads, content, rfl, rfl⟩
    exact leads
  · intro leads
    exact ⟨_, leads, _, rfl, rfl⟩

/-- Why a path gives no text: it leads nowhere, to a directory, to a link without an end, or to a
file with other bytes than those of a text. -/
inductive Unreadable (files : Files) (path : String) : Fault → Prop where
  | nowhere {fault : Fault} (leads : files.node path = .error fault) : Unreadable files path fault
  | directory {entries : List (String × Node)}
      (leads : files.node path = .ok (.directory entries)) : Unreadable files path .isADirectory
  | link {target : String} (leads : files.node path = .ok (.link target)) :
      Unreadable files path .absent
  | notText {content : List UInt8} (leads : files.node path = .ok (.file content))
      (notText : NotText content) : Unreadable files path .notUtf8

theorem readText_eq_error_iff :
    files.readText path = .error fault ↔ Unreadable files path fault := by
  constructor
  · intro failed
    unfold readText at failed
    rcases Attempt.bind_eq_error_iff.1 failed with nowhere | ⟨node, leads, failed⟩
    · exact .nowhere nowhere
    rcases Attempt.bind_eq_error_iff.1 failed with noBytes | ⟨content, bytes, noText⟩
    · cases node with
      | file content => cases noBytes
      | directory entries =>
          obtain rfl := Except.error.inj noBytes
          exact .directory leads
      | link target =>
          obtain rfl := Except.error.inj noBytes
          exact .link leads
    · obtain rfl := Node.bytes_eq_ok_iff.1 bytes
      obtain ⟨notText, rfl⟩ := textOf_eq_error_iff.1 noText
      exact .notText leads notText
  · intro unreadable
    cases unreadable with
    | nowhere leads => rw [readText, leads]; rfl
    | directory leads => rw [readText, leads]; rfl
    | link leads => rw [readText, leads]; rfl
    | notText leads notText =>
        rw [readText, leads]
        exact textOf_eq_error_iff.2 ⟨notText, rfl⟩

end ComplianceEvidence.Files
