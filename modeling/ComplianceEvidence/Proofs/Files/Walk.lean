import Mathlib.Data.List.Sort
import ComplianceEvidence.Files.Reading
import ComplianceEvidence.Proofs.Ordered.Keys
import ComplianceEvidence.Proofs.Text.Encoding

/-!
Contract: a walk comes to every file below a directory, once, and in the order of the names on the
way.

Owns: the files that a node holds, told without a walk, the order of files name by name, and the
extension of a file name. Names on the way lead through directories only, so nothing behind a link
is held.
-/

set_option autoImplicit false

namespace ComplianceEvidence.Files

open Text.Utf8 (encode)

/-- Names lead from a node to a file with some content. No names lead on from a link. -/
inductive Node.Holds : Node → List String → List UInt8 → Prop where
  | here (content : List UInt8) : Holds (.file content) [] content
  | inside {entries : List (String × Node)} {name : String} {next : Node} {names : List String}
      {content : List UInt8} (present : entries.lookup name = some next)
      (holds : Holds next names content) : Holds (.directory entries) (name :: names) content

/-- One file comes before another one: the first names that differ decide, by their bytes. -/
def Listed.Precedes (file other : Listed) : Prop :=
  List.Lex (fun left right => encode left < encode right) file.names other.names

/-! ## Order -/

namespace Listed.Precedes

variable {file other : Listed}

theorem iff_lt : Precedes file other ↔ file.names < other.names := by
  simp only [Precedes, Text.Utf8.encode_lt_encode_iff]
  rfl

theorem asymm (before : Precedes file other) : ¬ Precedes other file := by
  rw [iff_lt] at before ⊢
  exact List.lt_asymm before

instance : Std.Asymm Precedes := ⟨fun _ _ => asymm⟩

theorem irrefl : ¬ Precedes file file :=
  irrefl_of Precedes file

/-- Files of one directory are compared by what follows, files of two by the directories. -/
theorem below_iff {name otherName : String} :
    Precedes (file.below name) (other.below otherName) ↔
      name < otherName ∨ name = otherName ∧ Precedes file other := by
  simp only [iff_lt, below, List.cons_lt_cons_iff]

end Listed.Precedes

/-! ## Walks -/

section Walks

variable {entries : List (String × Node)} {name : String} {listed : List Listed}

theorem entryFiles_ascending (entries : List (String × Node)) :
    Ordered.Ascending (entryFiles entries) := by
  induction entries with
  | nil => exact Ordered.ascending_nil
  | cons head tail inductionHypothesis =>
      rw [entryFiles]
      exact inductionHypothesis.insert head.1 head.2.files

/-- The files of an entry are those of the node that look-up finds. -/
theorem find?_entryFiles :
    Ordered.find? name (entryFiles entries) = (entries.lookup name).map Node.files := by
  induction entries with
  | nil => rfl
  | cons head tail inductionHypothesis =>
      obtain ⟨current, node⟩ := head
      rw [entryFiles, List.lookup_cons]
      by_cases same : name = current
      · subst same
        rw [Ordered.insert, Ordered.find?_alter_self (entryFiles_ascending tail), beq_self_eq_true]
        rfl
      · rw [Ordered.insert, Ordered.find?_alter_of_ne same, inductionHypothesis,
          beq_eq_false_iff_ne.2 same]

theorem mem_entryFiles_iff :
    (name, listed) ∈ entryFiles entries ↔
      ∃ node, entries.lookup name = some node ∧ node.files = listed := by
  let table : Ordered.Table (List Listed) := ⟨entryFiles entries, entryFiles_ascending entries⟩
  have found : (name, listed) ∈ table.entries ↔ table.find? name = some listed :=
    Ordered.Table.find?_eq_some_iff_mem.symm
  rw [← Option.map_eq_some_iff, ← find?_entryFiles]
  exact found

theorem mem_files_directory_iff {file : Listed} :
    file ∈ (Node.directory entries).files ↔
      ∃ name next inner, entries.lookup name = some next ∧ inner ∈ next.files ∧
        inner.below name = file := by
  rw [Node.files, List.mem_flatMap]
  constructor
  · rintro ⟨⟨name, listed⟩, member, mapped⟩
    obtain ⟨next, present, rfl⟩ := mem_entryFiles_iff.1 member
    obtain ⟨inner, innerMember, rfl⟩ := List.mem_map.1 mapped
    exact ⟨name, next, inner, present, innerMember, rfl⟩
  · rintro ⟨name, next, inner, present, innerMember, rfl⟩
    exact ⟨(name, next.files), mem_entryFiles_iff.2 ⟨next, present, rfl⟩,
      List.mem_map_of_mem innerMember⟩

/-- By induction on the names: each of them is used up by one directory. -/
theorem holds_of_mem_files {node : Node} {names : List String} {content : List UInt8}
    (member : ⟨names, content⟩ ∈ node.files) : node.Holds names content := by
  induction names generalizing node with
  | nil =>
      cases node with
      | file content =>
          rw [Node.files, List.mem_singleton] at member
          cases member
          exact .here content
      | link target => cases member
      | directory entries =>
          obtain ⟨name, next, inner, -, -, same⟩ := mem_files_directory_iff.1 member
          cases same
  | cons name names inductionHypothesis =>
      cases node with
      | file content =>
          rw [Node.files, List.mem_singleton] at member
          cases member
      | link target => cases member
      | directory entries =>
          obtain ⟨_, next, inner, present, innerMember, same⟩ := mem_files_directory_iff.1 member
          cases same
          exact .inside present (inductionHypothesis innerMember)

theorem mem_files_of_holds {node : Node} {names : List String} {content : List UInt8}
    (holds : node.Holds names content) : ⟨names, content⟩ ∈ node.files := by
  induction holds with
  | here content => exact List.mem_singleton_self _
  | inside present _ inductionHypothesis =>
      exact mem_files_directory_iff.2 ⟨_, _, _, present, inductionHypothesis, rfl⟩

/-- A walk lists the files that are held, and no others. -/
theorem mem_files_iff {node : Node} {file : Listed} :
    file ∈ node.files ↔ node.Holds file.names file.content :=
  ⟨holds_of_mem_files, mem_files_of_holds⟩

mutual

/-- A walk lists files in their order. -/
theorem files_pairwise_precedes : (node : Node) → node.files.Pairwise Listed.Precedes
  | .file content => List.pairwise_singleton _ _
  | .link _ => .nil
  | .directory entries => by
      -- Files of one entry share its name; between entries the names ascend.
      rw [Node.files, List.pairwise_flatMap]
      constructor
      · intro entry member
        rw [List.pairwise_map]
        refine (entryFiles_pairwise_precedes entries entry member).imp ?_
        intro file other before
        exact Listed.Precedes.below_iff.2 (.inr ⟨rfl, before⟩)
      · refine (entryFiles_ascending entries).imp ?_
        intro entry other before file member otherFile otherMember
        obtain ⟨inner, -, rfl⟩ := List.mem_map.1 member
        obtain ⟨otherInner, -, rfl⟩ := List.mem_map.1 otherMember
        exact Listed.Precedes.below_iff.2 (.inl before)

theorem entryFiles_pairwise_precedes :
    (entries : List (String × Node)) → ∀ entry ∈ entryFiles entries,
      entry.2.Pairwise Listed.Precedes
  | [], entry, member => by cases member
  | (name, node) :: rest, entry, member => by
      rw [entryFiles] at member
      rcases Ordered.mem_insert member with rfl | inRest
      · exact files_pairwise_precedes node
      · exact entryFiles_pairwise_precedes rest entry inRest

end

end Walks

/-! ## Extensions -/

/-- Characters up to the first point, and the rest. -/
theorem takeWhile_point {last : List Char} (noPoint : '.' ∉ last) (before : List Char) :
    (last ++ '.' :: before).takeWhile (fun character => character ≠ '.') = last := by
  rw [List.takeWhile_append_of_pos, List.takeWhile_cons_of_neg, List.append_nil]
  · simp
  · intro character member
    rw [decide_eq_true_iff]
    rintro rfl
    exact noPoint member

/-- A file name with an extension has a point before it, and something before the point. -/
theorem extension?_eq_some_iff {name extension : String} :
    extension? name = some extension ↔
      '.' ∉ extension.toList ∧ ∃ stem, stem ≠ "" ∧ name = stem ++ "." ++ extension := by
  simp only [extension?]
  constructor
  · intro found
    -- Reversed, a name starts with its extension, as far as there is no point.
    have isPrefix := List.takeWhile_prefix (fun character => decide (character ≠ '.'))
      (l := name.toList.reverse)
    have noPoint : '.' ∉ name.toList.reverse.takeWhile fun character => character ≠ '.' := by
      intro member
      simpa using List.all_eq_true.1 List.all_takeWhile '.' member
    generalize name.toList.reverse.takeWhile (fun character => character ≠ '.') = last
      at found isPrefix noPoint
    split at found
    · rename_i before isRest
      split at found
      · cases found
      · rename_i notEmpty
        obtain rfl := Option.some.inj found
        have whole : name.toList.reverse = last ++ '.' :: before := by
          rw [← List.take_append_drop last.length name.toList.reverse, isRest,
            ← List.prefix_iff_eq_take.1 isPrefix]
        refine ⟨by simpa using noPoint, String.ofList before.reverse, ?_, ?_⟩
        · simpa using notEmpty
        · apply String.toList_injective
          rw [← List.reverse_reverse name.toList, whole]
          simp
    · cases found
  · rintro ⟨noPoint, stem, notEmpty, rfl⟩
    have reversed : (stem ++ "." ++ extension).toList.reverse =
        extension.toList.reverse ++ '.' :: stem.toList.reverse := by
      simp
    have noPointReversed : '.' ∉ extension.toList.reverse := by simpa using noPoint
    have isLast := takeWhile_point noPointReversed stem.toList.reverse
    have someCharacters : stem.toList.reverse.isEmpty = false := by
      simpa using notEmpty
    simp only [reversed, isLast, List.drop_left, someCharacters, List.reverse_reverse,
      String.ofList_toList]
    rfl

end ComplianceEvidence.Files
