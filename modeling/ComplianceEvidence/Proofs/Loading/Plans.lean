import Mathlib.Data.List.Forall2
import Mathlib.Data.List.Induction
import Mathlib.Data.List.Sort
import ComplianceEvidence.Loading.Plans
import ComplianceEvidence.Proofs.Files.Reading
import ComplianceEvidence.Proofs.Files.Walk
import ComplianceEvidence.Proofs.Journal.Report

/-!
Contract: a loaded mapper has the plans of the files below its directory.

Owns: which files hold plans, what a file must be to be read as a document, the plans below a
directory, told without a walk and without reading one file after the other, and look-up in the
store that plans are distributed to.
-/

set_option autoImplicit false

namespace ComplianceEvidence

open Text.Utf8 (encode)

/-- The last name on the way to a file has an extension for plans, and something before it. -/
def Files.NamesPlans (names : List String) : Prop :=
  ∃ way stem, stem ≠ "" ∧ (names = way ++ [stem ++ ".yaml"] ∨ names = way ++ [stem ++ ".yml"])

def Files.Node.HoldsPlans (node : Files.Node) (file : Files.Listed) : Prop :=
  node.Holds file.names file.content ∧ Files.NamesPlans file.names

/-- The content of a file is the text of a document. -/
def PlanDocument.Stands (content : List UInt8) (document : PlanDocument) : Prop :=
  ∃ text, content = encode text ∧ PlanDocument.ofText text = .ok document

/-- The plans below a directory. Each file with plans is the text of a document, and the plans of the
documents come in the order of the files. -/
def Plan.Below (files : Files) (directory : String) (plans : List Plan) : Prop :=
  ∃ entries listed documents, files.node directory = .ok (.directory entries) ∧
    (∀ file, file ∈ listed ↔ (Files.Node.directory entries).HoldsPlans file) ∧
    listed.Pairwise Files.Listed.Precedes ∧
    List.Forall₂ (fun file document => PlanDocument.Stands file.content document)
      listed documents ∧
    plans = documents.flatMap PlanDocument.plans

/-! ## Plan files -/

namespace Files

theorem any_planExtensions_iff {name : String} :
    (extension? name).any planExtensions.contains = true ↔
      ∃ stem, stem ≠ "" ∧ (name = stem ++ ".yaml" ∨ name = stem ++ ".yml") := by
  have yaml (stem : String) : stem ++ "." ++ "yaml" = stem ++ ".yaml" := String.append_assoc ..
  have yml (stem : String) : stem ++ "." ++ "yml" = stem ++ ".yml" := String.append_assoc ..
  simp only [Option.any_eq_true, planExtensions, List.contains_iff_mem, List.mem_cons,
    List.not_mem_nil, or_false, extension?_eq_some_iff]
  constructor
  · rintro ⟨extension, ⟨-, stem, notEmpty, rfl⟩, rfl | rfl⟩
    · exact ⟨stem, notEmpty, .inl (yaml stem)⟩
    · exact ⟨stem, notEmpty, .inr (yml stem)⟩
  · rintro ⟨stem, notEmpty, rfl | rfl⟩
    · exact ⟨"yaml", ⟨by decide, stem, notEmpty, (yaml stem).symm⟩, .inl rfl⟩
    · exact ⟨"yml", ⟨by decide, stem, notEmpty, (yml stem).symm⟩, .inr rfl⟩

theorem Listed.holdsPlans_iff {file : Listed} :
    file.holdsPlans = true ↔ NamesPlans file.names := by
  rw [Listed.holdsPlans, any_planExtensions_iff, Listed.fileName, NamesPlans]
  rcases List.eq_nil_or_concat file.names with isEmpty | ⟨way, last, isConcat⟩
  · rw [isEmpty]
    simp [eq_comm (a := "")]
  · rw [isConcat, List.concat_eq_append, List.getLast?_concat, Option.getD_some]
    constructor
    · rintro ⟨stem, notEmpty, hasExtension⟩
      exact ⟨way, stem, notEmpty, by simpa using hasExtension⟩
    · rintro ⟨_, stem, notEmpty, hasExtension⟩
      simp only [List.append_singleton_inj] at hasExtension
      exact ⟨stem, notEmpty, hasExtension.imp And.right And.right⟩

theorem mem_planFiles_iff {node : Node} {file : Listed} :
    file ∈ node.files.filter Listed.holdsPlans ↔ node.HoldsPlans file := by
  rw [List.mem_filter, mem_files_iff, Listed.holdsPlans_iff]
  rfl

theorem planFiles_pairwise_precedes (node : Node) :
    (node.files.filter Listed.holdsPlans).Pairwise Listed.Precedes :=
  (files_pairwise_precedes node).filter _

/-- A walk lists the plan files in their order, and there is one list of them in this order. -/
theorem eq_planFiles_iff {node : Node} {listed : List Listed} :
    listed = node.files.filter Listed.holdsPlans ↔
      (∀ file, file ∈ listed ↔ node.HoldsPlans file) ∧ listed.Pairwise Listed.Precedes := by
  constructor
  · rintro rfl
    exact ⟨fun _ => mem_planFiles_iff, planFiles_pairwise_precedes node⟩
  · rintro ⟨held, inOrder⟩
    apply List.Pairwise.eq_of_mem_iff inOrder (planFiles_pairwise_precedes node)
    intro file
    rw [held, mem_planFiles_iff]

end Files

/-! ## Loading -/

theorem PlanDocument.ofContent_eq_ok_iff {path : String} {content : List UInt8}
    {document : PlanDocument} :
    PlanDocument.ofContent path content = .ok document ↔ PlanDocument.Stands content document := by
  unfold PlanDocument.ofContent PlanDocument.Stands
  simp only [← Files.textOf_eq_ok_iff]
  cases read : Files.textOf content with
  | error fault => simp
  | ok text => rw [Attempt.mapError_eq_ok_iff]; simp

namespace Plan

variable {files : Files} {directory : String} {plans : List Plan}

theorem readAll_cons_eq_ok_iff {file : Files.Listed} {rest : List Files.Listed} :
    (readAll directory (file :: rest)).outcome = .ok plans ↔
      ∃ document others, PlanDocument.Stands file.content document ∧
        (readAll directory rest).outcome = .ok others ∧ document.plans ++ others = plans := by
  rw [readAll, Report.ofExcept_bind_eq_ok_iff]
  simp only [Report.note_bind_outcome, Report.bind_eq_ok_iff, Report.outcome_pure,
    Except.ok.injEq, exists_and_left, PlanDocument.ofContent_eq_ok_iff]

theorem readAll_eq_ok_iff {listed : List Files.Listed} :
    (readAll directory listed).outcome = .ok plans ↔
      ∃ documents,
        List.Forall₂ (fun file document => PlanDocument.Stands file.content document)
          listed documents ∧
        plans = documents.flatMap PlanDocument.plans := by
  induction listed generalizing plans with
  | nil =>
      rw [readAll, Report.outcome_pure]
      simp [eq_comm]
  | cons head tail inductionHypothesis =>
      rw [readAll_cons_eq_ok_iff]
      constructor
      · intro split
        rcases split with ⟨document, others, read, readRest, rfl⟩
        obtain ⟨documents, each, rfl⟩ := inductionHypothesis.1 readRest
        exact ⟨document :: documents, .cons read each, by simp⟩
      · intro found
        rcases found with ⟨documents, each, rfl⟩
        cases each with
        | cons read each =>
            exact ⟨_, _, read, inductionHypothesis.2 ⟨_, each, rfl⟩, by simp⟩

/-- The plans below a directory are those of the documents that a walk comes to. -/
theorem below_iff_of_directory {entries : List (String × Files.Node)}
    (leads : files.node directory = .ok (.directory entries)) :
    Below files directory plans ↔
      ∃ documents,
        List.Forall₂ (fun file document => PlanDocument.Stands file.content document)
          ((Files.Node.directory entries).files.filter Files.Listed.holdsPlans) documents ∧
        plans = documents.flatMap PlanDocument.plans := by
  constructor
  · rintro ⟨others, listed, documents, leadsAgain, held, inOrder, stands, rfl⟩
    rw [leads] at leadsAgain
    cases leadsAgain
    rw [Files.eq_planFiles_iff.2 ⟨held, inOrder⟩] at stands
    exact ⟨documents, stands, rfl⟩
  · rintro ⟨documents, stands, rfl⟩
    obtain ⟨held, inOrder⟩ := Files.eq_planFiles_iff.1 rfl
    exact ⟨entries, _, documents, leads, held, inOrder, stands, rfl⟩

/-- Loading succeeds with the plans below a directory. -/
theorem load_eq_ok_iff :
    (load files directory).outcome = .ok plans ↔ Below files directory plans := by
  unfold load
  split
  · rename_i fault absent
    refine iff_of_false (by simp [Report.fail]) ?_
    intro below
    rcases below with ⟨entries, _, _, present, -⟩
    rw [absent] at present
    cases present
  · rename_i entries present
    rw [readAll_eq_ok_iff, below_iff_of_directory present]
  · rename_i node notDirectory present
    refine iff_of_false (by simp [Report.fail]) ?_
    intro below
    rcases below with ⟨entries, _, _, presentAgain, -⟩
    rw [present] at presentAgain
    exact notDirectory entries (Except.ok.inj presentAgain)

/-- There is one list of plans below a directory. -/
theorem Below.unique {others : List Plan} (first : Below files directory plans)
    (second : Below files directory others) : plans = others := by
  rw [← load_eq_ok_iff] at first second
  rw [first] at second
  exact Except.ok.inj second

/-! ## Stores -/

theorem store_append_singleton (plan : Plan) :
    store (plans ++ [plan]) = (store plans).append plan.catalogId [plan] := by
  simp [store]

/-- What is stored where there is something to store, and nothing elsewhere, is the whole. -/
theorem getD_eq_of_some_iff {found : Option (List Plan)} {group : List Plan}
    (some_iff : ∀ {stored}, found = some stored ↔ stored ≠ [] ∧ stored = group) :
    found.getD [] = group := by
  cases found with
  | none =>
      by_contra differ
      have stands := some_iff.2 ⟨Ne.symm differ, rfl⟩
      cases stands
  | some stored => exact (some_iff.1 rfl).2

/-- A store has the plans with an id in their order, if there are any. -/
theorem find?_store_eq_some_iff {catalogId : String} {stored : List Plan} :
    (store plans).find? catalogId = some stored ↔
      stored ≠ [] ∧ stored = plans.filter fun plan => plan.catalogId = catalogId := by
  induction plans using List.reverseRecOn generalizing stored with
  | nil => simp [store]
  | append_singleton front final inductionHypothesis =>
      rw [store_append_singleton, PlanStore.append]
      by_cases same : catalogId = final.catalogId
      · subst same
        have present : ((store front).find? final.catalogId).getD [] =
            front.filter fun plan => plan.catalogId = final.catalogId :=
          getD_eq_of_some_iff inductionHypothesis
        rw [Ordered.Table.find?_alter_self, present, List.filter_append]
        constructor
        · rintro ⟨rfl⟩
          simp
        · rintro ⟨-, rfl⟩
          simp
      · rw [Ordered.Table.find?_alter_of_ne _ same, inductionHypothesis, List.filter_append,
          List.filter_cons_of_neg (by simpa using Ne.symm same), List.filter_nil, List.append_nil]

end Plan

namespace Mapper

variable {files : Files} {mapperId directory : String} {mapper : Mapper}

/-- Loading succeeds with the mapper for the plans below a directory. -/
theorem load_eq_ok_iff :
    (load files mapperId directory).outcome = .ok mapper ↔
      ∃ plans, Plan.Below files directory plans ∧ ofPlans mapperId plans = mapper := by
  rw [load, Report.bind_eq_ok_iff]
  refine exists_congr fun plans => ?_
  rw [Plan.load_eq_ok_iff, Except.ok.injEq]

/-- Under the id of a catalog, a mapper has those of its plans that are about the catalog. -/
theorem find?_ofPlans_eq_some_iff {plans : List Plan} {catalogId : String}
    (hasId : catalogId ≠ "") {stored : List Plan} :
    (ofPlans mapperId plans).plans.find? catalogId = some stored ↔
      stored ≠ [] ∧ stored = plans.filter fun plan => plan.catalogId = catalogId := by
  have sameFilter :
      (plans.filter fun plan => plan.catalogId ≠ "").filter
          (fun plan => plan.catalogId = catalogId) =
        plans.filter fun plan => plan.catalogId = catalogId := by
    rw [List.filter_filter]
    refine List.filter_congr fun plan _ => ?_
    by_cases same : plan.catalogId = catalogId <;> simp [same, hasId]
  rw [ofPlans, Plan.find?_store_eq_some_iff, sameFilter]

end Mapper

end ComplianceEvidence
