import Mathlib.Data.List.Forall2
import Mathlib.Data.List.Perm.Basic
import ComplianceEvidence.Proofs.Loading.Catalogs

/-!
Contract: which paths make a scope, and which of them is at fault if they do not.

Owns: paths that can be admitted together, the reasons to refuse one behind others, and loading in
terms of both. Loading takes all catalogs or none: the catalogs of all paths are in the scope,
whatever the order of the paths, or else the first path at fault gives the failure.
-/

set_option autoImplicit false

namespace ComplianceEvidence

open Text.Utf8 (encode)

/-- Paths that make a scope of the catalogs that they lead to. -/
structure Scope.Admissible (files : Files) (paths : List String) (catalogs : List Catalog) :
    Prop where
  declared : List.Forall₂ files.Declares paths catalogs
  named : ∀ catalog ∈ catalogs, catalog.id ≠ ""
  distinct : (catalogs.map Catalog.id).Nodup

/-- Why a path is refused behind others with known catalogs. A reason excludes those before it. -/
inductive Scope.Refuses (files : Files) (known : List Catalog) (path : String) :
    Category → Failure → Prop where
  | unreadable {fault : Files.Fault} (unreadable : files.Unreadable path fault) :
      Refuses files known path .files (.file fault)
  | malformed {text : String} {fault : Yaml.Fault}
      (leads : files.node path = .ok (.file (encode text)))
      (malformed : Catalog.ofText text = .error fault) :
      Refuses files known path .catalog (.catalogMalformed path fault)
  | withoutId {catalog : Catalog} (declared : files.Declares path catalog)
      (withoutId : catalog.id = "") :
      Refuses files known path .catalog (.catalogWithoutId path)
  | repeated {catalog : Catalog} (declared : files.Declares path catalog)
      (named : catalog.id ≠ "") (isKnown : ∃ earlier ∈ known, earlier.id = catalog.id) :
      Refuses files known path .configuration (.catalogRepeated catalog.id path)

/-- Paths can be admitted together, and one behind them is refused. -/
def Scope.Stops (files : Files) (before : List String) (path : String) (failure : Failure) : Prop :=
  ∃ known, Admissible files before known ∧ Refuses files known path failure.category failure

section Reading

variable {files : Files} {path : String} {failure : Failure}

theorem Catalog.ofFile_eq_error_iff :
    Catalog.ofFile files path = .error failure ↔
      (∃ fault, files.Unreadable path fault ∧ failure = .file fault) ∨
        ∃ text fault, files.node path = .ok (.file (encode text)) ∧
          Catalog.ofText text = .error fault ∧ failure = .catalogMalformed path fault := by
  unfold Catalog.ofFile
  simp only [← Files.readText_eq_error_iff, ← Files.readText_eq_ok_iff]
  cases read : files.readText path with
  | error fault => simp [eq_comm]
  | ok text =>
      rw [Attempt.mapError_eq_error_iff]
      simp [eq_comm (a := failure)]

end Reading

/-! ## Admission -/

/-- Paths in another order are admitted with their catalogs in another order. -/
theorem Scope.Admissible.perm {files : Files} {paths permuted : List String}
    {catalogs : List Catalog} (admissible : Admissible files paths catalogs)
    (permutation : permuted.Perm paths) :
    ∃ reordered, Admissible files permuted reordered ∧ reordered.Perm catalogs := by
  obtain ⟨declared, named, distinct⟩ := admissible
  obtain ⟨reordered, declaredToo, sameCatalogs⟩ := List.perm_comp_forall₂ permutation declared
  refine ⟨reordered, ⟨declaredToo, ?_, ?_⟩, sameCatalogs⟩
  · intro catalog member
    exact named catalog (sameCatalogs.mem_iff.1 member)
  · exact (sameCatalogs.map Catalog.id).nodup_iff.2 distinct

namespace Scope

variable {files : Files} {paths : List String} {scope loaded : Scope} {known : List Catalog}
  {path : String} {failure : Failure}

/-- A scope of known catalogs refuses a path for the reasons there are. -/
theorem readCatalog_eq_error_iff :
    (ofList known).readCatalog files path = .error failure ↔
      Refuses files known path failure.category failure := by
  rw [readCatalog, Attempt.bind_eq_error_iff, Catalog.ofFile_eq_error_iff]
  simp only [Catalog.ofFile_eq_ok_iff]
  constructor
  · rintro ((⟨fault, unreadable, rfl⟩ | ⟨text, fault, leads, malformed, rfl⟩) |
      ⟨catalog, declared, rejected⟩)
    · exact .unreadable unreadable
    · exact .malformed leads malformed
    · split at rejected
      · rename_i withoutId
        obtain rfl := Except.error.inj rejected
        exact .withoutId declared withoutId
      · rename_i named
        split at rejected
        · rename_i isKnown
          obtain rfl := Except.error.inj rejected
          exact .repeated declared named (contains_ofList_iff.1 isKnown)
        · cases rejected
  · intro refused
    generalize failure.category = category at refused
    cases refused with
    | unreadable unreadable => exact .inl (.inl ⟨_, unreadable, rfl⟩)
    | malformed leads malformed => exact .inl (.inr ⟨_, _, leads, malformed, rfl⟩)
    | withoutId declared withoutId =>
        refine .inr ⟨_, declared, ?_⟩
        rw [if_pos withoutId]
    | repeated declared named isKnown =>
        refine .inr ⟨_, declared, ?_⟩
        rw [if_neg named, if_pos (contains_ofList_iff.2 isKnown)]

/-- Loading on behind known catalogs takes in the catalogs of all paths. -/
theorem loadInto_eq_ok_iff (distinct : (known.map Catalog.id).Nodup) :
    (loadInto files (ofList known) paths).outcome = .ok loaded ↔
      ∃ catalogs, List.Forall₂ files.Declares paths catalogs ∧
        (∀ catalog ∈ catalogs, catalog.id ≠ "") ∧
        ((known ++ catalogs).map Catalog.id).Nodup ∧ loaded = ofList (known ++ catalogs) := by
  induction paths generalizing known with
  | nil =>
      rw [loadInto, Report.outcome_pure, Except.ok.injEq]
      constructor
      · rintro rfl
        exact ⟨[], .nil, by simp, by rwa [List.append_nil], by rw [List.append_nil]⟩
      · rintro ⟨catalogs, declared, -, -, rfl⟩
        cases declared
        rw [List.append_nil]
  | cons head tail inductionHypothesis =>
      rw [loadInto_cons_eq_ok_iff]
      constructor
      · rintro ⟨catalog, accepted, rest⟩
        obtain ⟨fileRead, hasId, unknown⟩ := readCatalog_eq_ok_iff.1 accepted
        -- The rest is loaded behind one known catalog more.
        have grown := distinct_append_singleton_iff.2 ⟨distinct, unknown⟩
        rw [← ofList_append_singleton] at rest
        obtain ⟨catalogs, declared, named, allDistinct, rfl⟩ :=
          (inductionHypothesis grown).1 rest
        rw [List.append_assoc, List.singleton_append] at allDistinct ⊢
        exact ⟨catalog :: catalogs, .cons (Catalog.ofFile_eq_ok_iff.1 fileRead) declared,
          List.forall_mem_cons.2 ⟨hasId, named⟩, allDistinct, rfl⟩
      · rintro ⟨_, declared, named, allDistinct, rfl⟩
        cases declared with
        | @cons _ catalog _ catalogs declares declared =>
            rw [List.append_cons] at allDistinct
            have grown : ((known ++ [catalog]).map Catalog.id).Nodup := by
              rw [List.map_append] at allDistinct
              exact (List.nodup_append.1 allDistinct).1
            obtain ⟨-, unknown⟩ := distinct_append_singleton_iff.1 grown
            obtain ⟨hasId, named⟩ := List.forall_mem_cons.1 named
            refine ⟨catalog, readCatalog_eq_ok_iff.2
              ⟨Catalog.ofFile_eq_ok_iff.2 declares, hasId, unknown⟩, ?_⟩
            rw [← ofList_append_singleton]
            exact (inductionHypothesis grown).2 ⟨catalogs, declared, named, allDistinct,
              congrArg ofList (List.append_cons known catalog catalogs)⟩

/-- Loading succeeds with the catalogs of paths that can be admitted together. -/
theorem load_eq_ok_iff :
    (load files paths).outcome = .ok loaded ↔
      ∃ catalogs, Admissible files paths catalogs ∧ loaded = ofList catalogs := by
  have distinct : (([] : List Catalog).map Catalog.id).Nodup := List.nodup_nil
  refine (loadInto_eq_ok_iff distinct).trans ?_
  refine exists_congr fun catalogs => ?_
  rw [List.nil_append]
  constructor
  · rintro ⟨declared, named, distinct, isList⟩
    exact ⟨⟨declared, named, distinct⟩, isList⟩
  · rintro ⟨⟨declared, named, distinct⟩, isList⟩
    exact ⟨declared, named, distinct, isList⟩

/-- Loading ends at a path that the scope of the paths before it does not take in. -/
theorem loadInto_eq_error_iff :
    (loadInto files scope paths).outcome = .error failure ↔
      ∃ before path after reached, paths = before ++ path :: after ∧
        (loadInto files scope before).outcome = .ok reached ∧
        reached.readCatalog files path = .error failure := by
  induction paths generalizing scope with
  | nil =>
      rw [loadInto, Report.outcome_pure]
      refine iff_of_false (by simp) ?_
      rintro ⟨before, path, after, -, isNil, -⟩
      simp at isNil
  | cons head tail inductionHypothesis =>
      rw [loadInto, Report.ofExcept_bind_eq_error_iff]
      simp only [Report.note_bind_outcome, inductionHypothesis]
      constructor
      · rintro (refused | ⟨catalog, accepted, refusedLater⟩)
        · exact ⟨[], head, tail, scope, rfl, rfl, refused⟩
        · obtain ⟨before, path, after, reached, rfl, admitted, refused⟩ := refusedLater
          exact ⟨head :: before, path, after, reached, rfl,
            loadInto_cons_eq_ok_iff.2 ⟨catalog, accepted, admitted⟩, refused⟩
      · rintro ⟨before, path, after, reached, isSplit, admitted, refused⟩
        cases before with
        | nil =>
            obtain ⟨rfl, rfl⟩ := List.cons.inj isSplit
            obtain rfl : scope = reached := Except.ok.inj admitted
            exact .inl refused
        | cons first before =>
            obtain ⟨rfl, rfl⟩ := List.cons.inj isSplit
            obtain ⟨catalog, accepted, rest⟩ := loadInto_cons_eq_ok_iff.1 admitted
            exact .inr ⟨catalog, accepted, before, path, after, reached, rfl, rest, refused⟩

/-- Loading fails with the failure of the first path that is refused. -/
theorem load_eq_error_iff :
    (load files paths).outcome = .error failure ↔
      ∃ before path after, paths = before ++ path :: after ∧ Stops files before path failure := by
  refine loadInto_eq_error_iff.trans ?_
  refine exists_congr fun before => exists_congr fun path => exists_congr fun after => ?_
  constructor
  · rintro ⟨reached, isSplit, admitted, refused⟩
    obtain ⟨known, admissible, rfl⟩ := load_eq_ok_iff.1 admitted
    exact ⟨isSplit, known, admissible, readCatalog_eq_error_iff.1 refused⟩
  · rintro ⟨isSplit, known, admissible, refuses⟩
    exact ⟨ofList known, isSplit, load_eq_ok_iff.2 ⟨known, admissible, rfl⟩,
      readCatalog_eq_error_iff.2 refuses⟩

/-! ## Other files, other paths -/

/-- Loading reads no other paths than those that are given. -/
theorem loadInto_congr {others : Files}
    (agree : ∀ path ∈ paths, others.node path = files.node path) :
    loadInto others scope paths = loadInto files scope paths := by
  induction paths generalizing scope with
  | nil => rfl
  | cons head tail inductionHypothesis =>
      obtain ⟨agreeHead, agreeTail⟩ := List.forall_mem_cons.1 agree
      have sameText : others.readText head = files.readText head := by
        rw [Files.readText, agreeHead, Files.readText]
      simp only [loadInto, readCatalog, Catalog.ofFile, sameText, inductionHypothesis agreeTail]

/-- The first failure stands, whatever paths follow. -/
theorem load_append_of_error (later : List String)
    (failed : (load files paths).outcome = .error failure) :
    (load files (paths ++ later)).outcome = .error failure := by
  obtain ⟨before, path, after, rfl, stops⟩ := load_eq_error_iff.1 failed
  exact load_eq_error_iff.2 ⟨before, path, after ++ later, by simp, stops⟩

/-- All paths are taken in or none. They are if they can be admitted together, and then the scope
has as many catalogs as there are paths, each under its own id, for any order of the paths. Else the
failure is that of the first path refused behind those before it, and what follows has no part in
it. -/
theorem load_all_or_none (files : Files) (paths : List String) :
    ((∃ loaded, (load files paths).outcome = .ok loaded) ↔
        ∃ catalogs, Admissible files paths catalogs) ∧
      (∀ loaded, (load files paths).outcome = .ok loaded →
        loaded.size = paths.length ∧
        (∀ id catalog, loaded.find? id = some catalog ↔
          catalog.id = id ∧ ∃ path ∈ paths, files.Declares path catalog) ∧
        ∀ permuted : List String, permuted.Perm paths →
          (load files permuted).outcome = .ok loaded) ∧
      (∀ failure, (load files paths).outcome = .error failure ↔
        ∃ before path after, paths = before ++ path :: after ∧
          Stops files before path failure) ∧
      ∀ before path failure, Stops files before path failure →
        ∀ (others : Files) (later : List String),
          (∀ read ∈ before ++ [path], others.node read = files.node read) →
            (load others (before ++ path :: later)).outcome = .error failure := by
  refine ⟨?_, ?_, fun failure => load_eq_error_iff, ?_⟩
  · simp only [load_eq_ok_iff]
    constructor
    · rintro ⟨_, catalogs, admissible, -⟩
      exact ⟨catalogs, admissible⟩
    · rintro ⟨catalogs, admissible⟩
      exact ⟨_, catalogs, admissible, rfl⟩
  · intro loaded success
    obtain ⟨catalogs, admissible, rfl⟩ := load_eq_ok_iff.1 success
    refine ⟨?_, ?_, ?_⟩
    · rw [size_ofList admissible.distinct, admissible.declared.length_eq]
    · intro id catalog
      rw [find?_load success]
      constructor
      · rintro ⟨path, member, declared, sameId⟩
        exact ⟨sameId, path, member, declared⟩
      · rintro ⟨sameId, path, member, declared⟩
        exact ⟨path, member, declared, sameId⟩
    · intro permuted permutation
      obtain ⟨reordered, permutedAdmissible, sameCatalogs⟩ := admissible.perm permutation
      exact load_eq_ok_iff.2 ⟨reordered, permutedAdmissible,
        (ofList_perm admissible.distinct sameCatalogs).symm⟩
  · intro before path failure stops others later agree
    -- The paths up to the one refused are all that was read, and the other files agree on them.
    have failed : (load files (before ++ [path])).outcome = .error failure :=
      load_eq_error_iff.2 ⟨before, path, [], rfl, stops⟩
    have failedToo : (load others (before ++ [path])).outcome = .error failure := by
      rw [load, loadInto_congr agree]
      exact failed
    rw [List.append_cons]
    exact load_append_of_error later failedToo

/-- Two catalogs, the first of them in two files. -/
def sampleFiles : Files where
  node path :=
    if path = "base" ∨ path = "again" then .ok (.file (encode "metadata: {id: base}"))
    else if path = "more" then .ok (.file (encode "metadata: {id: more}"))
    else .error .absent

theorem load_sampleFiles :
    (∃ loaded, (load sampleFiles ["base", "more"]).outcome = .ok loaded ∧
      (load sampleFiles ["more", "base"]).outcome = .ok loaded ∧
      loaded.size = 2 ∧ loaded.find? "more" = some { id := "more" }) ∧
      (load sampleFiles ["base", "more", "again", "lost"]).outcome =
        .error (.catalogRepeated "base" "again") := by
  have base : Catalog.ofText "metadata: {id: base}" = .ok { id := "base" } := by rfl
  have more : Catalog.ofText "metadata: {id: more}" = .ok { id := "more" } := by rfl
  have declaresBase : sampleFiles.Declares "base" { id := "base" } := ⟨_, rfl, base⟩
  have declaresMore : sampleFiles.Declares "more" { id := "more" } := ⟨_, rfl, more⟩
  have declaresAgain : sampleFiles.Declares "again" { id := "base" } := ⟨_, rfl, base⟩
  have admissible : Admissible sampleFiles ["base", "more"] [{ id := "base" }, { id := "more" }] :=
    ⟨.cons declaresBase (.cons declaresMore .nil), by simp, by simp⟩
  have stops : Stops sampleFiles ["base", "more"] "again" (.catalogRepeated "base" "again") :=
    ⟨_, admissible, .repeated declaresAgain (by simp) ⟨_, List.mem_cons_self, rfl⟩⟩
  obtain ⟨loads, all, -, first⟩ := load_all_or_none sampleFiles ["base", "more"]
  obtain ⟨loaded, success⟩ := loads.2 ⟨_, admissible⟩
  obtain ⟨size, found, anyOrder⟩ := all loaded success
  exact ⟨⟨loaded, success, anyOrder _ (.swap _ _ _), size,
    (found _ _).2 ⟨rfl, "more", by simp, declaresMore⟩⟩,
    first _ _ _ stops sampleFiles ["lost"] fun _ _ => rfl⟩

end Scope

end ComplianceEvidence
