import ComplianceEvidence.Proofs.Loading.Plans

/-!
Contract: loading reads every plan file below a directory, once, and in the order of the files.

Owns: the reasons why loading fails, what is noted of each file that is read, and that plan files
are all that counts. Whatever other files are below the directory, and wherever links there lead, it
is all the same to loading. The first file at fault gives the failure.
-/

set_option autoImplicit false

namespace ComplianceEvidence

open Text.Utf8 (encode)

/-- Reading gets as far as a plan file: those that precede it all have documents. -/
structure Files.Node.Reaches (node : Files.Node) (file : Files.Listed) : Prop where
  holds : node.HoldsPlans file
  first : ∀ earlier, node.HoldsPlans earlier → earlier.Precedes file →
    ∃ document, PlanDocument.Stands earlier.content document

/-- Why plans cannot be loaded from a directory. -/
inductive Plan.Refused (files : Files) (directory : String) : Category → Failure → Prop where
  | absent {fault : Files.Fault} (leads : files.node directory = .error fault) :
      Refused files directory .configuration (.plansAbsent directory)
  | notInDirectory {node : Files.Node} (leads : files.node directory = .ok node)
      (noDirectory : ∀ entries, node ≠ .directory entries) :
      Refused files directory .configuration (.plansNotInDirectory directory)
  | notText {entries : List (String × Files.Node)} {file : Files.Listed}
      (leads : files.node directory = .ok (.directory entries))
      (reached : (Files.Node.directory entries).Reaches file)
      (notText : Files.NotText file.content) :
      Refused files directory .files (.file .notUtf8)
  | malformed {entries : List (String × Files.Node)} {file : Files.Listed} {text : String}
      {fault : Yaml.Fault} (leads : files.node directory = .ok (.directory entries))
      (reached : (Files.Node.directory entries).Reaches file)
      (isText : file.content = encode text) (malformed : PlanDocument.ofText text = .error fault) :
      Refused files directory .plan (.planMalformed (file.path directory) fault)

/-! ## Plan files -/

namespace Files

/-- Reading gets as far as a file in the list if those before it have documents. -/
theorem reaches_iff {node : Node} {file : Listed} :
    node.Reaches file ↔
      ∃ before after, node.files.filter Listed.holdsPlans = before ++ file :: after ∧
        ∀ earlier ∈ before, ∃ document, PlanDocument.Stands earlier.content document := by
  have inOrder := planFiles_pairwise_precedes node
  constructor
  · rintro ⟨holds, first⟩
    obtain ⟨before, after, isSplit⟩ := List.append_of_mem (mem_planFiles_iff.2 holds)
    refine ⟨before, after, isSplit, fun earlier member => ?_⟩
    have held : node.HoldsPlans earlier := by
      rw [← mem_planFiles_iff, isSplit]
      exact List.mem_append_left _ member
    rw [isSplit, List.pairwise_append] at inOrder
    exact first earlier held (inOrder.2.2 earlier member file List.mem_cons_self)
  · rintro ⟨before, after, isSplit, first⟩
    refine ⟨?_, fun earlier held precedes => first earlier ?_⟩
    · rw [← mem_planFiles_iff, isSplit]
      exact List.mem_append_right _ List.mem_cons_self
    · -- What precedes the file can stand neither in its place nor behind it.
      rw [← mem_planFiles_iff, isSplit] at held
      rw [isSplit, List.pairwise_append] at inOrder
      have above := (List.pairwise_cons.1 inOrder.2.1).1
      rcases List.mem_append.1 held with isBefore | isBehind
      · exact isBefore
      · rcases List.mem_cons.1 isBehind with rfl | isAfter
        · exact absurd precedes Listed.Precedes.irrefl
        · exact absurd (above earlier isAfter) precedes.asymm

end Files

/-! ## Documents -/

section Documents

variable {path : String} {content : List UInt8} {document : PlanDocument} {failure : Failure}

theorem PlanDocument.ofContent_eq_error_iff :
    PlanDocument.ofContent path content = .error failure ↔
      Files.NotText content ∧ failure = .file .notUtf8 ∨
        ∃ text fault, content = encode text ∧ PlanDocument.ofText text = .error fault ∧
          failure = .planMalformed path fault := by
  unfold PlanDocument.ofContent
  cases read : Files.textOf content with
  | error fault =>
      obtain ⟨notText, rfl⟩ := Files.textOf_eq_error_iff.1 read
      constructor
      · rintro ⟨⟩
        exact .inl ⟨notText, rfl⟩
      · rintro (⟨-, rfl⟩ | ⟨text, fault, isText, -⟩)
        · rfl
        · exact absurd isText (notText text)
  | ok text =>
      have isText := Files.textOf_eq_ok_iff.1 read
      rw [Attempt.mapError_eq_error_iff]
      constructor
      · rintro ⟨fault, malformed, rfl⟩
        exact .inr ⟨text, fault, isText, malformed, rfl⟩
      · rintro (⟨notText, -⟩ | ⟨other, fault, isOther, malformed, rfl⟩)
        · exact absurd isText (notText text)
        · rw [isOther, Files.textOf_encode] at read
          obtain rfl := Except.ok.inj read
          exact ⟨fault, malformed, rfl⟩

end Documents

/-! ## Loading -/

namespace Plan

variable {files : Files} {directory : String} {listed : List Files.Listed}
  {documents : List PlanDocument} {failure : Failure}

/-- There is a list of documents if there is a document for each file. -/
theorem exists_documents_iff :
    (∃ documents, List.Forall₂ (fun file document => PlanDocument.Stands file.content document)
        listed documents) ↔
      ∀ file ∈ listed, ∃ document, PlanDocument.Stands file.content document := by
  induction listed with
  | nil => simp
  | cons head tail inductionHypothesis =>
      rw [List.forall_mem_cons, ← inductionHypothesis]
      constructor
      · rintro ⟨_, stands⟩
        cases stands with
        | cons stands others => exact ⟨⟨_, stands⟩, _, others⟩
      · rintro ⟨⟨document, stands⟩, documents, others⟩
        exact ⟨document :: documents, .cons stands others⟩

/-- Every file is read once, and its document is noted. -/
theorem readAll_of_stands
    (stands : List.Forall₂ (fun file document => PlanDocument.Stands file.content document)
      listed documents) :
    readAll directory listed =
      ⟨List.zipWith
          (fun file document => .planFileRead (file.path directory) document.plans.length)
          listed documents,
        .ok (documents.flatMap PlanDocument.plans)⟩ := by
  induction stands with
  | nil => rfl
  | @cons file document listed documents stands _ inductionHypothesis =>
      have read : PlanDocument.ofContent (file.path directory) file.content = .ok document :=
        PlanDocument.ofContent_eq_ok_iff.2 stands
      rw [readAll, read, inductionHypothesis]
      simp [bind, Report.bind, Report.ofExcept, Report.note, pure, Report.ok]

/-- Reading ends at a file that cannot be read, behind files that can. -/
theorem readAll_eq_error_iff :
    (readAll directory listed).outcome = .error failure ↔
      ∃ before file after, listed = before ++ file :: after ∧
        (∀ earlier ∈ before, ∃ document, PlanDocument.Stands earlier.content document) ∧
        PlanDocument.ofContent (file.path directory) file.content = .error failure := by
  induction listed with
  | nil =>
      rw [readAll, Report.outcome_pure]
      refine iff_of_false (by simp) ?_
      rintro ⟨before, file, after, isNil, -⟩
      simp at isNil
  | cons head tail inductionHypothesis =>
      rw [readAll, Report.ofExcept_bind_eq_error_iff, Attempt.exists_first_cons_iff]
      simp only [Report.note_bind_outcome, Report.bind_eq_error_iff, Report.outcome_pure,
        reduceCtorEq, and_false, exists_false, or_false, inductionHypothesis,
        PlanDocument.ofContent_eq_ok_iff, exists_and_right]

theorem load_of_directory {entries : List (String × Files.Node)}
    (leads : files.node directory = .ok (.directory entries)) :
    load files directory =
      readAll directory
        ((Files.Node.directory entries).files.filter Files.Listed.holdsPlans) := by
  rw [load, leads]

/-- Loading fails for the reasons there are. -/
theorem load_eq_error_iff :
    (load files directory).outcome = .error failure ↔
      Refused files directory failure.category failure := by
  constructor
  · intro failed
    unfold load at failed
    split at failed
    · rename_i fault leads
      obtain rfl := Except.error.inj failed
      exact .absent leads
    · rename_i entries leads
      obtain ⟨before, file, after, isSplit, first, failed⟩ := readAll_eq_error_iff.1 failed
      have reached := Files.reaches_iff.2 ⟨before, after, isSplit, first⟩
      rcases PlanDocument.ofContent_eq_error_iff.1 failed with
        ⟨notText, rfl⟩ | ⟨text, fault, isText, malformed, rfl⟩
      · exact .notText leads reached notText
      · exact .malformed leads reached isText malformed
    · rename_i node noDirectory leads
      obtain rfl := Except.error.inj failed
      exact .notInDirectory leads fun entries isDirectory => noDirectory entries isDirectory
  · intro refused
    generalize isCategory : failure.category = category at refused
    cases refused with
    | absent leads => rw [load, leads]; rfl
    | @notInDirectory node leads noDirectory =>
        cases node with
        | directory entries => exact absurd rfl (noDirectory entries)
        | file content => rw [load, leads]; rfl
        | link target => rw [load, leads]; rfl
    | notText leads reached notText =>
        obtain ⟨before, after, isSplit, first⟩ := Files.reaches_iff.1 reached
        rw [load_of_directory leads, readAll_eq_error_iff]
        exact ⟨before, _, after, isSplit, first,
          PlanDocument.ofContent_eq_error_iff.2 (.inl ⟨notText, rfl⟩)⟩
    | malformed leads reached isText malformed =>
        obtain ⟨before, after, isSplit, first⟩ := Files.reaches_iff.1 reached
        rw [load_of_directory leads, readAll_eq_error_iff]
        exact ⟨before, _, after, isSplit, first,
          PlanDocument.ofContent_eq_error_iff.2 (.inr ⟨_, _, isText, malformed, rfl⟩)⟩

/-- Loading succeeds if the path leads to a directory and each plan file below it has a document.
Then the plans are those of the documents, file by file in ascending order, and each file is read
once. Else the directory or the first file at fault gives the failure. Directories with the same
plan files are loaded with the same report, whatever else is in them. -/
theorem load_in_order (files : Files) (directory : String) :
    ((∃ plans, (load files directory).outcome = .ok plans) ↔
        ∃ entries, files.node directory = .ok (.directory entries) ∧
          ∀ file, (Files.Node.directory entries).HoldsPlans file →
            ∃ document, PlanDocument.Stands file.content document) ∧
      (∀ plans, (load files directory).outcome = .ok plans →
        ∃ entries listed documents, files.node directory = .ok (.directory entries) ∧
          (∀ file, file ∈ listed ↔ (Files.Node.directory entries).HoldsPlans file) ∧
          listed.Pairwise Files.Listed.Precedes ∧
          List.Forall₂ (fun file document => PlanDocument.Stands file.content document)
            listed documents ∧
          plans = documents.flatMap PlanDocument.plans ∧
          (load files directory).events =
            List.zipWith
              (fun file document => .planFileRead (file.path directory) document.plans.length)
              listed documents) ∧
      (∀ failure, (load files directory).outcome = .error failure ↔
        Refused files directory failure.category failure) ∧
      ∀ (others : Files) (entries otherEntries : List (String × Files.Node)),
        files.node directory = .ok (.directory entries) →
        others.node directory = .ok (.directory otherEntries) →
        (∀ file, (Files.Node.directory entries).HoldsPlans file ↔
          (Files.Node.directory otherEntries).HoldsPlans file) →
        load others directory = load files directory := by
  refine ⟨?_, ?_, fun failure => load_eq_error_iff, ?_⟩
  · simp only [← Files.mem_planFiles_iff, ← exists_documents_iff]
    constructor
    · rintro ⟨plans, success⟩
      have below := load_eq_ok_iff.1 success
      have ⟨entries, _, _, leads, _⟩ := below
      obtain ⟨documents, stands, -⟩ := (below_iff_of_directory leads).1 below
      exact ⟨entries, leads, documents, stands⟩
    · rintro ⟨entries, leads, documents, stands⟩
      rw [load_of_directory leads, readAll_of_stands stands]
      exact ⟨_, rfl⟩
  · intro plans success
    obtain ⟨entries, listed, documents, leads, held, inOrder, stands, rfl⟩ :=
      load_eq_ok_iff.1 success
    refine ⟨entries, listed, documents, leads, held, inOrder, stands, rfl, ?_⟩
    rw [load_of_directory leads, ← Files.eq_planFiles_iff.2 ⟨held, inOrder⟩,
      readAll_of_stands stands]
  · intro others entries otherEntries leads otherLeads same
    have sameFiles :
        (Files.Node.directory otherEntries).files.filter Files.Listed.holdsPlans =
          (Files.Node.directory entries).files.filter Files.Listed.holdsPlans := by
      apply Files.eq_planFiles_iff.2
      refine ⟨fun file => ?_, Files.planFiles_pairwise_precedes _⟩
      rw [Files.mem_planFiles_iff, same]
    rw [load_of_directory leads, load_of_directory otherLeads, sameFiles]

def firstText : String := "plans: [{control: {entry-id: first}}]"

def secondText : String := "plans: [{control: {entry-id: second}}]"

/-- Two plan files whose paths ascend name by name, but not as texts. -/
def plainEntries : List (String × Files.Node) :=
  [("a-b", .directory [("x.yaml", .file (encode secondText))]),
    ("a", .directory [("x.yaml", .file (encode firstText))])]

/-- The same plan files, with a link and with files that hold no plans. -/
def mixedEntries : List (String × Files.Node) :=
  [(".yaml", .file [0xFF]), ("b.yml", .link "a/x.yaml"), ("c.yaml", .directory [("y", .file [])])]
    ++ plainEntries

/-- A file that is no text, before one that is no document. -/
def faultyEntries : List (String × Files.Node) :=
  [("b.yml", .file (encode "plans: 1")), ("a.yaml", .file [0xFF])]

/-- A directory that a link leads to. -/
def linkedFiles (entries : List (String × Files.Node)) : Files :=
  .ofTree ⟨.directory [("p", .link "d"), ("d", .directory entries)], []⟩

theorem node_linkedFiles (entries : List (String × Files.Node)) :
    (linkedFiles entries).node "p" = .ok (.directory entries) ∧
      (linkedFiles entries).node "q" = .error .absent := by
  have parts : Files.components "p" = ["p"] ∧ Files.components "q" = ["q"] ∧
      Files.components "d" = ["d"] := by
    decide +kernel
  have sizes : "p".utf8ByteSize = 1 ∧ "q".utf8ByteSize = 1 ∧ "d".utf8ByteSize = 1 := by decide
  constructor <;>
    simp [linkedFiles, Files.ofTree, Files.Tree.resolve, Files.Tree.arrive, Files.Tree.start,
      Files.Place.follow, Files.Place.enter, Files.descend, Files.isAbsolute, Files.linkLimit,
      Files.pathLimit, Files.nameLimit, List.lookup_cons, parts, sizes]

theorem load_linkedFiles :
    (∃ plans, (load (linkedFiles plainEntries) "p").outcome = .ok plans) ∧
      load (linkedFiles mixedEntries) "p" = load (linkedFiles plainEntries) "p" ∧
      (load (linkedFiles faultyEntries) "p").outcome = .error (.file .notUtf8) ∧
      (load (linkedFiles plainEntries) "q").outcome = .error (.plansAbsent "q") := by
  have leads (entries : List (String × Files.Node)) := (node_linkedFiles entries).1
  have plain : (Files.Node.directory plainEntries).files.filter Files.Listed.holdsPlans =
      [⟨["a", "x.yaml"], encode firstText⟩, ⟨["a-b", "x.yaml"], encode secondText⟩] := by
    decide +kernel
  have mixed : (Files.Node.directory mixedEntries).files.filter Files.Listed.holdsPlans =
      (Files.Node.directory plainEntries).files.filter Files.Listed.holdsPlans := by
    decide +kernel
  have faulty : (Files.Node.directory faultyEntries).files.filter Files.Listed.holdsPlans =
      ⟨["a.yaml"], [0xFF]⟩ :: [⟨["b.yml"], encode "plans: 1"⟩] := by
    decide +kernel
  have first : PlanDocument.ofText firstText =
      .ok { plans := [{ control := { entryId := "first" } }] } := by
    rfl
  have second : PlanDocument.ofText secondText =
      .ok { plans := [{ control := { entryId := "second" } }] } := by
    rfl
  have reached : (Files.Node.directory faultyEntries).Reaches ⟨["a.yaml"], [0xFF]⟩ :=
    Files.reaches_iff.2 ⟨[], _, faulty, nofun⟩
  have notText : Files.NotText [0xFF] := by
    have notRead : Files.textOf [0xFF] = .error .notUtf8 := by rfl
    exact (Files.textOf_eq_error_iff.1 notRead).1
  obtain ⟨loads, -, -, sameReport⟩ := load_in_order (linkedFiles plainEntries) "p"
  refine ⟨loads.2 ⟨_, leads _, ?_⟩, sameReport _ _ _ (leads _) (leads mixedEntries) ?_,
    ((load_in_order _ _).2.2.1 _).2 (.notText (leads _) reached notText),
    ((load_in_order _ _).2.2.1 _).2 (.absent (node_linkedFiles _).2)⟩
  · simp only [← Files.mem_planFiles_iff, plain, List.forall_mem_cons]
    exact ⟨⟨_, _, rfl, first⟩, ⟨_, _, rfl, second⟩, nofun⟩
  · intro file
    rw [← Files.mem_planFiles_iff, ← Files.mem_planFiles_iff, mixed]

end Plan

end ComplianceEvidence
