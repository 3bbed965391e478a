import ComplianceEvidence.Evidence.Record
import ComplianceEvidence.Proofs.Json.SpelledRecord

/-!
Contract: what describes a subject or evidence.

Owns: the names of the fields, the descriptions by the values that are given to the fields, and what
may be given to the fields of evidence.

A description does not mention the text: neither the order of the members, nor the names that were
chosen for the fields, nor members that name no field can change it.
-/

set_option autoImplicit false

namespace ComplianceEvidence

open Json (Value)
open Json.Shape (Chosen Gives MembersGive exists_chosen_iff)

def IsText (value : Value) (content : String) : Prop :=
  value = .text content

/-! ## Subjects -/

namespace Subject

/-- The names under which members are given to the fields. -/
inductive Names : String → Field → Prop where
  | id : Names "id" .id
  | name : Names "name" .name
  | kind : Names "type" .kind
  | environment : Names "environment" .environment

/-- What is given to the fields of a subject, each of them at most once: texts or null. -/
structure DescribedBy (given : List (Field × Value)) (subject : Subject) : Prop where
  once : (given.map Prod.fst).Nodup
  id : Chosen given .id IsText subject.id
  name : Chosen given .name IsText subject.name
  kind : Chosen given .kind IsText subject.kind
  environment : Chosen given .environment IsText subject.environment

/-- A value that describes a subject, as an object or as a list. -/
def Described (value : Value) (subject : Subject) : Prop :=
  ∃ given, Gives Names [.id, .name, .kind, .environment] value given ∧ DescribedBy given subject

theorem Field.named?_eq_some_iff {key : String} {field : Field} :
    named? key = some field ↔ Names key field := by
  constructor
  · intro named
    have isLabel : field.label = key := by simpa using List.find?_some named
    subst isLabel
    cases field <;> constructor
  · intro isName
    cases isName <;> rfl

theorem gives_iff {value : Value} {given : List (Field × Value)} :
    Gives Names shape.order value given ↔ shape.gives? value = some given :=
  shape.gives_iff Field.named?_eq_some_iff

end Subject

/-! ## Evidence -/

namespace Evidence

/-- The names under which members are given to the fields. The engine has two names, and the
decision has three. -/
inductive Names : String → Field → Prop where
  | id : Names "id" .id
  | engineName : Names "policyEngineName" .engineName
  | source : Names "source" .engineName
  | engineVersion : Names "policyEngineVersion" .engineVersion
  | ruleId : Names "policyRuleId" .ruleId
  | ruleName : Names "policyRuleName" .ruleName
  | ruleUri : Names "policyRuleUri" .ruleUri
  | evaluationStatus : Names "policyEvaluationStatus" .decision
  | decision : Names "decision" .decision
  | status : Names "evaluationStatus" .decision
  | message : Names "policyEvaluationMessage" .message
  | timestamp : Names "timestamp" .timestamp
  | subject : Names "subject" .subject
  | details : Names "details" .details

/-- What is given to the fields of evidence, each of them at most once. -/
structure DescribedBy (given : List (Field × Value)) (evidence : Evidence) : Prop where
  once : (given.map Prod.fst).Nodup
  id : Chosen given .id IsText evidence.id
  engineName : (.engineName, .text evidence.engineName) ∈ given
  engineVersion : Chosen given .engineVersion IsText evidence.engineVersion
  ruleId : (.ruleId, .text evidence.ruleId) ∈ given
  ruleName : Chosen given .ruleName IsText evidence.ruleName
  ruleUri : Chosen given .ruleUri IsText evidence.ruleUri
  decision : ∃ text, (.decision, .text text) ∈ given ∧ Decision.ofText text = evidence.decision
  message : Chosen given .message IsText evidence.message
  timestamp : ∃ text, (.timestamp, .text text) ∈ given ∧
    Time.Instant.ofText text.toList = .ok evidence.timestamp
  subject : Chosen given .subject Subject.Described evidence.subject
  details : Chosen given .details (fun value details => value.tabled = details) evidence.details

/-- A value that describes evidence, as an object or as a list. -/
def Described (value : Value) (evidence : Evidence) : Prop :=
  ∃ given,
    Gives Names
        [.id, .engineName, .engineVersion, .ruleId, .ruleName, .ruleUri, .decision, .message,
          .timestamp, .subject, .details]
        value given ∧
      DescribedBy given evidence

/-- What may be given to the fields of evidence. -/
structure Acceptable (given : List (Field × Value)) : Prop where
  once : (given.map Prod.fst).Nodup
  engineName : ∃ text, (.engineName, .text text) ∈ given
  ruleId : ∃ text, (.ruleId, .text text) ∈ given
  decision : ∃ text, (.decision, .text text) ∈ given
  timestamp : ∃ text instant, (.timestamp, .text text) ∈ given ∧
    Time.Instant.ofText text.toList = .ok instant
  optionalText : ∀ field ∈ [Field.id, .engineVersion, .ruleName, .ruleUri, .message],
    ∀ value, (field, value) ∈ given → value = .null ∨ ∃ text, value = .text text
  subject : ∀ value, (.subject, value) ∈ given →
    value = .null ∨ ∃ subject, Subject.Described value subject

/-- Evidence is described by what is given to its fields exactly if that may be given. -/
theorem exists_describedBy_iff {given : List (Field × Value)} :
    (∃ evidence, DescribedBy given evidence) ↔ Acceptable given := by
  constructor
  · rintro ⟨evidence, described⟩
    have once := described.once
    have meaningful {α : Type} {field : Field} {means : Value → α → Prop} {result : Option α}
        (chosen : Chosen given field means result) := (exists_chosen_iff once).1 ⟨result, chosen⟩
    obtain ⟨decision, decisionGiven, -⟩ := described.decision
    obtain ⟨timestamp, timestampGiven, isInstant⟩ := described.timestamp
    refine ⟨once, ⟨_, described.engineName⟩, ⟨_, described.ruleId⟩, ⟨_, decisionGiven⟩,
      ⟨_, _, timestampGiven, isInstant⟩, ?_, meaningful described.subject⟩
    intro field optional
    simp only [List.mem_cons, List.not_mem_nil, or_false] at optional
    rcases optional with rfl | rfl | rfl | rfl | rfl
    · exact meaningful described.id
    · exact meaningful described.engineVersion
    · exact meaningful described.ruleName
    · exact meaningful described.ruleUri
    · exact meaningful described.message
  · intro acceptable
    have once := acceptable.once
    have text (field : Field)
        (optional : field ∈ [Field.id, .engineVersion, .ruleName, .ruleUri, .message]) :
        ∃ result, Chosen given field IsText result :=
      (exists_chosen_iff once).2 (acceptable.optionalText field optional)
    obtain ⟨id, idChosen⟩ := text .id (by simp)
    obtain ⟨engineName, engineNameGiven⟩ := acceptable.engineName
    obtain ⟨engineVersion, engineVersionChosen⟩ := text .engineVersion (by simp)
    obtain ⟨ruleId, ruleIdGiven⟩ := acceptable.ruleId
    obtain ⟨ruleName, ruleNameChosen⟩ := text .ruleName (by simp)
    obtain ⟨ruleUri, ruleUriChosen⟩ := text .ruleUri (by simp)
    obtain ⟨decision, decisionGiven⟩ := acceptable.decision
    obtain ⟨message, messageChosen⟩ := text .message (by simp)
    obtain ⟨timestamp, instant, timestampGiven, isInstant⟩ := acceptable.timestamp
    obtain ⟨subject, subjectChosen⟩ := (exists_chosen_iff once).2 acceptable.subject
    obtain ⟨details, detailsChosen⟩ : ∃ details,
        Chosen given .details (fun value details => value.tabled = details) details :=
      (exists_chosen_iff once).2 fun value _ => .inr ⟨value.tabled, rfl⟩
    exact ⟨⟨id, engineName, engineVersion, ruleId, ruleName, ruleUri, Decision.ofText decision,
        message, instant, subject, details⟩,
      ⟨once, idChosen, engineNameGiven, engineVersionChosen, ruleIdGiven, ruleNameChosen,
        ruleUriChosen, ⟨decision, decisionGiven, rfl⟩, messageChosen,
        ⟨timestamp, timestampGiven, isInstant⟩, subjectChosen, detailsChosen⟩⟩

/-- A description only asks what is given. -/
theorem DescribedBy.perm {given other : List (Field × Value)} {evidence : Evidence}
    (same : given.Perm other) (described : DescribedBy given evidence) :
    DescribedBy other evidence := by
  have chosen {α : Type} {field : Field} {means : Value → α → Prop} {result : Option α}
      (chosen : Chosen given field means result) : Chosen other field means result :=
    chosen.of_mem_iff fun _ => same.mem_iff
  obtain ⟨decision, decisionGiven, isDecision⟩ := described.decision
  obtain ⟨timestamp, timestampGiven, isInstant⟩ := described.timestamp
  exact
    { once := (same.map Prod.fst).nodup described.once
      id := chosen described.id
      engineName := same.mem_iff.1 described.engineName
      engineVersion := chosen described.engineVersion
      ruleId := same.mem_iff.1 described.ruleId
      ruleName := chosen described.ruleName
      ruleUri := chosen described.ruleUri
      decision := ⟨decision, same.mem_iff.1 decisionGiven, isDecision⟩
      message := chosen described.message
      timestamp := ⟨timestamp, same.mem_iff.1 timestampGiven, isInstant⟩
      subject := chosen described.subject
      details := chosen described.details }

/-! ## Names -/

/-- A field is named by its label and by its aliases, and no two fields share a name. -/
theorem Field.named?_eq_some_iff {key : String} {field : Field} :
    named? key = some field ↔ Names key field := by
  constructor
  · intro named
    have isName : key ∈ field.label :: field.aliases := by simpa using List.find?_some named
    cases field with
    | engineName =>
        rcases List.mem_cons.1 isName with rfl | isAlias
        · exact .engineName
        · obtain rfl := List.mem_singleton.1 isAlias
          exact .source
    | decision =>
        simp only [label, aliases, List.mem_cons, List.not_mem_nil, or_false] at isName
        rcases isName with rfl | rfl | rfl
        · exact .evaluationStatus
        · exact .decision
        · exact .status
    | id | engineVersion | ruleId | ruleName | ruleUri | message | timestamp | subject | details =>
        obtain rfl := List.mem_singleton.1 isName
        constructor
  · intro isName
    cases isName <;> rfl

theorem gives_iff {value : Value} {given : List (Field × Value)} :
    Gives Names shape.order value given ↔ shape.gives? value = some given :=
  shape.gives_iff Field.named?_eq_some_iff

theorem membersGive_iff {members : List (String × Value)} {given : List (Field × Value)} :
    MembersGive Names members given ↔ shape.naming members = given :=
  shape.membersGive_iff Field.named?_eq_some_iff

theorem described_object_iff {members : List (String × Value)} {given : List (Field × Value)}
    (gives : MembersGive Names members given) {evidence : Evidence} :
    Described (.object members) evidence ↔ DescribedBy given evidence := by
  constructor
  · rintro ⟨other, otherGives, described⟩
    cases otherGives with
    | object otherGives =>
        rw [membersGive_iff] at gives otherGives
        rwa [← gives, otherGives]
  · intro described
    exact ⟨given, .object gives, described⟩

end Evidence

end ComplianceEvidence
