import ComplianceEvidence.Proofs.Evidence.Description
import ComplianceEvidence.Proofs.Json.Canonical

/-!
Contract: evidence is read from exactly the texts whose values describe it.

Owns: the laws of the two shapes that evidence is read with, and the grammar of evidence as the
texts from which it is read.
-/

set_option autoImplicit false

namespace ComplianceEvidence

open Json (Node Optionally Padded Value)
open Json.Shape (Chosen Holds MembersGive chosen_iff)

/-! ## Subjects -/

namespace Subject

def reading : shape.Reading where
  Content := fun _ => Option String
  Means := fun _ => Optionally IsText
  slot field draft :=
    match field with
    | .id => draft.id
    | .name => draft.name
    | .kind => draft.kind
    | .environment => draft.environment
  fill field content draft :=
    match field with
    | .id => { draft with id := some content }
    | .name => { draft with name := some content }
    | .kind => { draft with kind := some content }
    | .environment => { draft with environment := some content }
  order_nodup := by decide
  slot_blank field := by cases field <;> rfl
  isFilled_eq field draft := by cases field <;> rfl
  slot_fill_self field content draft := by cases field <;> rfl
  slot_fill_of_ne {field other} content draft different := by
    cases field <;> cases other <;> first | rfl | exact absurd rfl different
  eq_of_slots {left right} same := by
    obtain ⟨id, name, kind, environment⟩ := left
    obtain rfl : id = right.id := same .id
    obtain rfl : name = right.name := same .name
    obtain rfl : kind = right.kind := same .kind
    obtain rfl : environment = right.environment := same .environment
    rfl
  isSome_of_finish required _ := by cases required
  read_eq_ok_iff {field depth value rest node draft next} shown _ := by
    have reads (content : Option String) :
        Json.readOptional Json.readString node = .ok content ↔ Optionally IsText value content :=
      Json.readOptional_eq_ok_iff shown fun _ => Json.readString_eq_ok_iff shown
    exact Attempt.bind_eq_ok_iff.trans
      (exists_congr fun content => and_congr (reads content) Attempt.pure_eq_ok_iff)

theorem described_iff {value : Value} {subject : Subject} :
    reading.Described value subject ↔ Described value subject := by
  constructor
  · rintro ⟨given, draft, gives, describes, ⟨⟩⟩
    have chosen (field : Field) := chosen_iff.2 ⟨_, describes.holds field, rfl⟩
    exact ⟨given, gives_iff.2 gives,
      ⟨describes.once, chosen .id, chosen .name, chosen .kind, chosen .environment⟩⟩
  · rintro ⟨given, gives, described⟩
    obtain ⟨id, idHolds, idJoin⟩ := chosen_iff.1 described.id
    obtain ⟨name, nameHolds, nameJoin⟩ := chosen_iff.1 described.name
    obtain ⟨kind, kindHolds, kindJoin⟩ := chosen_iff.1 described.kind
    obtain ⟨environment, environmentHolds, environmentJoin⟩ := chosen_iff.1 described.environment
    refine ⟨given, ⟨id, name, kind, environment⟩, gives_iff.1 gives, ⟨described.once, ?_⟩, ?_⟩
    · intro field
      cases field with
      | id => exact idHolds
      | name => exact nameHolds
      | kind => exact kindHolds
      | environment => exact environmentHolds
    · show Except.ok (Subject.mk id.join name.join kind.join environment.join) = .ok subject
      rw [idJoin, nameJoin, kindJoin, environmentJoin]

theorem readNode_eq_ok_iff {depth : Nat} {value : Value} {rest : List Char} {node : Node}
    (shown : value.Shown rest node) (room : value.nesting < depth) (subject : Subject) :
    shape.readNode depth node = .ok subject ↔ Described value subject :=
  (reading.readNode_eq_ok_iff shown room subject).trans described_iff

end Subject

/-! ## Evidence -/

namespace Evidence

def Field.Content : Field → Type
  | engineName | ruleId => String
  | decision => Decision
  | timestamp => Time.Instant
  | subject => Option Subject
  | details => Option Value
  | id | engineVersion | ruleName | ruleUri | message => Option String

def Field.Means : (field : Field) → Value → field.Content → Prop
  | engineName => IsText
  | ruleId => IsText
  | decision => fun value decision => ∃ text, value = .text text ∧ Decision.ofText text = decision
  | timestamp => fun value instant =>
      ∃ text, value = .text text ∧ Time.Instant.ofText text.toList = .ok instant
  | subject => Optionally Subject.Described
  | details => Optionally fun value details => value.tabled = details
  | id => Optionally IsText
  | engineVersion => Optionally IsText
  | ruleName => Optionally IsText
  | ruleUri => Optionally IsText
  | message => Optionally IsText

def Draft.slot (draft : Draft) : (field : Field) → Option field.Content
  | .id => draft.id
  | .engineName => draft.engineName
  | .engineVersion => draft.engineVersion
  | .ruleId => draft.ruleId
  | .ruleName => draft.ruleName
  | .ruleUri => draft.ruleUri
  | .decision => draft.decision
  | .message => draft.message
  | .timestamp => draft.timestamp
  | .subject => draft.subject
  | .details => draft.details

def Draft.fill (draft : Draft) : (field : Field) → field.Content → Draft
  | .id, content => { draft with id := some content }
  | .engineName, content => { draft with engineName := some content }
  | .engineVersion, content => { draft with engineVersion := some content }
  | .ruleId, content => { draft with ruleId := some content }
  | .ruleName, content => { draft with ruleName := some content }
  | .ruleUri, content => { draft with ruleUri := some content }
  | .decision, content => { draft with decision := some content }
  | .message, content => { draft with message := some content }
  | .timestamp, content => { draft with timestamp := some content }
  | .subject, content => { draft with subject := some content }
  | .details, content => { draft with details := some content }

/-- Drafts that hold the same for every field are the same. -/
theorem Draft.eq_of_slots {left right : Draft}
    (same : ∀ field, left.slot field = right.slot field) : left = right := by
  obtain ⟨⟩ := left
  obtain ⟨⟩ := right
  congr
  · exact same .id
  · exact same .engineName
  · exact same .engineVersion
  · exact same .ruleId
  · exact same .ruleName
  · exact same .ruleUri
  · exact same .decision
  · exact same .message
  · exact same .timestamp
  · exact same .subject
  · exact same .details

theorem Draft.finish_eq_ok_iff {draft : Draft} {evidence : Evidence} :
    draft.finish = .ok evidence ↔
      draft.id.join = evidence.id ∧ draft.engineName = some evidence.engineName ∧
      draft.engineVersion.join = evidence.engineVersion ∧ draft.ruleId = some evidence.ruleId ∧
      draft.ruleName.join = evidence.ruleName ∧ draft.ruleUri.join = evidence.ruleUri ∧
      draft.decision = some evidence.decision ∧ draft.message.join = evidence.message ∧
      draft.timestamp = some evidence.timestamp ∧ draft.subject.join = evidence.subject ∧
      draft.details.join = evidence.details := by
  obtain ⟨id, engineName, engineVersion, ruleId, ruleName, ruleUri, decision, message, timestamp,
    subject, details⟩ := draft
  obtain ⟨⟩ := evidence
  cases engineName with
  | none => simp [Draft.finish]
  | some engineName =>
      cases ruleId with
      | none => simp [Draft.finish]
      | some ruleId =>
          cases decision with
          | none => simp [Draft.finish]
          | some decision =>
              cases timestamp with
              | none => simp [Draft.finish]
              | some timestamp => simp [Draft.finish]

theorem Draft.read_eq_ok_iff {field : Field} {depth : Nat} {value : Value} {rest : List Char}
    {node : Node} {draft next : Draft} (shown : value.Shown rest node)
    (room : value.nesting < depth) :
    Draft.read field depth node draft = .ok next ↔
      ∃ content, field.Means value content ∧ draft.fill field content = next := by
  have text (content : String) : Json.readString node = .ok content ↔ IsText value content :=
    Json.readString_eq_ok_iff shown
  have optionalText (content : Option String) :
      readOptionalText node = .ok content ↔ Optionally IsText value content :=
    Json.readOptional_eq_ok_iff shown text
  cases field with
  | id | engineVersion | ruleName | ruleUri | message =>
      exact Attempt.map_eq_ok_iff_of optionalText
  | engineName | ruleId => exact Attempt.map_eq_ok_iff_of text
  | decision => exact Attempt.map_eq_ok_iff_of fun _ => Attempt.map_eq_ok_iff_of text
  | timestamp =>
      have instant (content : Time.Instant) :
          readTimestamp node = .ok content ↔ Field.timestamp.Means value content := by
        rw [readTimestamp, Json.readTextAs_eq_ok_iff shown]
        simp only [Attempt.mapError_eq_ok_iff, Field.Means]
      exact Attempt.map_eq_ok_iff_of instant
  | subject =>
      have subject (content : Option Subject) :
          Json.readOptional (Subject.shape.readNode depth) node = .ok content ↔
            Optionally Subject.Described value content :=
        Json.readOptional_eq_ok_iff shown (Subject.readNode_eq_ok_iff shown room)
      exact Attempt.map_eq_ok_iff_of subject
  | details =>
      have details (content : Option Value) :
          Json.readOptional (Node.readValue depth) node = .ok content ↔
            Optionally (fun value details => value.tabled = details) value content := by
        apply Json.readOptional_eq_ok_iff shown
        intro inside
        rw [value.readValue_shown shown room, Except.ok.injEq]
      exact Attempt.map_eq_ok_iff_of details

def reading : shape.Reading where
  Content := Field.Content
  Means := Field.Means
  slot field draft := draft.slot field
  fill field content draft := draft.fill field content
  order_nodup := by decide
  slot_blank field := by cases field <;> rfl
  isFilled_eq field draft := by cases field <;> rfl
  slot_fill_self field content draft := by cases field <;> rfl
  slot_fill_of_ne {field other} content draft different := by
    cases field <;> cases other <;> first | rfl | exact absurd rfl different
  eq_of_slots := Draft.eq_of_slots
  isSome_of_finish {field draft evidence} required finished := by
    obtain ⟨-, engineName, -, ruleId, -, -, decision, -, timestamp, -, -⟩ :=
      Draft.finish_eq_ok_iff.1 finished
    cases field with
    | engineName => exact Option.isSome_of_eq_some engineName
    | ruleId => exact Option.isSome_of_eq_some ruleId
    | decision => exact Option.isSome_of_eq_some decision
    | timestamp => exact Option.isSome_of_eq_some timestamp
    | id | engineVersion | ruleName | ruleUri | message | subject | details => cases required
  read_eq_ok_iff := Draft.read_eq_ok_iff

theorem described_iff {value : Value} {evidence : Evidence} :
    reading.Described value evidence ↔ Described value evidence := by
  constructor
  · rintro ⟨given, draft, gives, describes, finished⟩
    obtain ⟨id, engineName, engineVersion, ruleId, ruleName, ruleUri, decision, message, timestamp,
      subject, details⟩ := Draft.finish_eq_ok_iff.1 finished
    have chosen {α : Type} {field : Field} {means : Value → α → Prop} {slot : Option (Option α)}
        {result : Option α} (holds : Holds given field (Optionally means) slot)
        (joined : slot.join = result) : Chosen given field means result :=
      chosen_iff.2 ⟨slot, holds, joined⟩
    have required (field : Field) (content : field.Content)
        (filled : draft.slot field = some content) :
        ∃ value, (field, value) ∈ given ∧ field.Means value content := by
      have holds := describes.holds field
      rw [show reading.slot field draft = some content from filled] at holds
      exact holds
    obtain ⟨_, engineNameGiven, rfl⟩ := required .engineName _ engineName
    obtain ⟨_, ruleIdGiven, rfl⟩ := required .ruleId _ ruleId
    obtain ⟨_, decisionGiven, decisionText, rfl, isDecision⟩ := required .decision _ decision
    obtain ⟨_, timestampGiven, timestampText, rfl, isInstant⟩ := required .timestamp _ timestamp
    exact ⟨given, gives_iff.2 gives, describes.once, chosen (describes.holds .id) id,
      engineNameGiven, chosen (describes.holds .engineVersion) engineVersion, ruleIdGiven,
      chosen (describes.holds .ruleName) ruleName, chosen (describes.holds .ruleUri) ruleUri,
      ⟨decisionText, decisionGiven, isDecision⟩, chosen (describes.holds .message) message,
      ⟨timestampText, timestampGiven, isInstant⟩, chosen (describes.holds .subject) subject,
      chosen (describes.holds .details) details⟩
  · rintro ⟨given, gives, described⟩
    obtain ⟨id, idHolds, idJoin⟩ := chosen_iff.1 described.id
    obtain ⟨engineVersion, engineVersionHolds, engineVersionJoin⟩ :=
      chosen_iff.1 described.engineVersion
    obtain ⟨ruleName, ruleNameHolds, ruleNameJoin⟩ := chosen_iff.1 described.ruleName
    obtain ⟨ruleUri, ruleUriHolds, ruleUriJoin⟩ := chosen_iff.1 described.ruleUri
    obtain ⟨decisionText, decisionGiven, isDecision⟩ := described.decision
    obtain ⟨message, messageHolds, messageJoin⟩ := chosen_iff.1 described.message
    obtain ⟨timestampText, timestampGiven, isInstant⟩ := described.timestamp
    obtain ⟨subject, subjectHolds, subjectJoin⟩ := chosen_iff.1 described.subject
    obtain ⟨details, detailsHolds, detailsJoin⟩ := chosen_iff.1 described.details
    let draft : Draft :=
      ⟨id, some evidence.engineName, engineVersion, some evidence.ruleId, ruleName, ruleUri,
        some evidence.decision, message, some evidence.timestamp, subject, details⟩
    have finished : draft.finish = .ok evidence :=
      Draft.finish_eq_ok_iff.2 ⟨idJoin, rfl, engineVersionJoin, rfl, ruleNameJoin, ruleUriJoin, rfl,
        messageJoin, rfl, subjectJoin, detailsJoin⟩
    refine ⟨given, draft, gives_iff.1 gives, ⟨described.once, ?_⟩, finished⟩
    intro field
    cases field with
    | id => exact idHolds
    | engineName => exact ⟨_, described.engineName, rfl⟩
    | engineVersion => exact engineVersionHolds
    | ruleId => exact ⟨_, described.ruleId, rfl⟩
    | ruleName => exact ruleNameHolds
    | ruleUri => exact ruleUriHolds
    | decision => exact ⟨_, decisionGiven, decisionText, rfl, isDecision⟩
    | message => exact messageHolds
    | timestamp => exact ⟨_, timestampGiven, timestampText, rfl, isInstant⟩
    | subject => exact subjectHolds
    | details => exact detailsHolds

theorem read_eq_ok_iff {depth : Nat} {value : Value} {rest : List Char} {node : Node}
    (shown : value.Shown rest node) (room : value.nesting < depth) (evidence : Evidence) :
    read depth node = .ok evidence ↔ Described value evidence :=
  (reading.readNode_eq_ok_iff shown room evidence).trans described_iff

/-! ## Texts -/

/-- Evidence is read from any spelling of a value that is not nested too deeply, if and only if the
value describes the evidence. -/
theorem ofText_eq_ok_iff {text : String} {value : Value}
    (spelled : Padded value.Spelled text.toList) (room : value.nesting < Json.nestingLimit)
    (evidence : Evidence) : ofText text = .ok evidence ↔ Described value evidence :=
  (reading.readDocument_eq_ok_iff spelled room evidence).trans described_iff

/-- Members give their values to the fields whose names they have. Evidence is read from an object
exactly if what its members give may be given to the fields, and it is then the evidence that this
describes. An object that gives the same to the fields is read in the same way, whatever the order
and the names of its members and whatever other members it has. -/
theorem ofText_object {text : String} {members : List (String × Value)}
    (spelled : Padded (Value.object members).Spelled text.toList)
    (room : (Value.object members).nesting < Json.nestingLimit) :
    ∃ given, MembersGive Names members given ∧
      ((∃ evidence, ofText text = .ok evidence) ↔ Acceptable given) ∧
      (∀ evidence, ofText text = .ok evidence ↔ DescribedBy given evidence) ∧
      ∀ (other : String) (otherMembers : List (String × Value)) (otherGiven : List (Field × Value)),
        Padded (Value.object otherMembers).Spelled other.toList →
        (Value.object otherMembers).nesting < Json.nestingLimit →
        MembersGive Names otherMembers otherGiven → otherGiven.Perm given →
          ∀ evidence, ofText other = .ok evidence ↔ ofText text = .ok evidence := by
  have gives : MembersGive Names members (shape.naming members) := membersGive_iff.2 rfl
  have reads (evidence : Evidence) :
      ofText text = .ok evidence ↔ DescribedBy (shape.naming members) evidence :=
    (ofText_eq_ok_iff spelled room evidence).trans (described_object_iff gives)
  refine ⟨_, gives, ?_, reads, ?_⟩
  · simp only [reads]
    exact exists_describedBy_iff
  · intro other otherMembers otherGiven otherSpelled otherRoom otherGives same evidence
    rw [reads, ofText_eq_ok_iff otherSpelled otherRoom, described_object_iff otherGives]
    exact ⟨DescribedBy.perm same, DescribedBy.perm same.symm⟩

/-- Aliases, a member that names no field, an offset, a subject without a name, and details with a
key that comes twice. -/
def sampleMembers : List (String × Value) :=
  [("source", .text "engine"),
    ("labels", .list [.null, .object [("a", .boolean true), ("a", .boolean false)]]),
    ("decision", .text "SUCCESS"),
    ("policyRuleId", .text "rule"),
    ("subject", .object [("type", .text "host"), ("name", .null)]),
    ("timestamp", .text "2026-01-01T02:00:00+02:00"),
    ("details", .object [("b", .null), ("a", .list []), ("b", .boolean true)])]

def sampleGiven : List (Field × Value) :=
  [(.engineName, .text "engine"), (.decision, .text "SUCCESS"), (.ruleId, .text "rule"),
    (.subject, .object [("type", .text "host"), ("name", .null)]),
    (.timestamp, .text "2026-01-01T02:00:00+02:00"),
    (.details, .object [("b", .null), ("a", .list []), ("b", .boolean true)])]

/-- The members as they are written, with gaps around them. -/
def sampleText : String :=
  String.ofList (' ' :: ((Value.object sampleMembers).chars ++ ['\n']))

def readSample : Evidence :=
  { Evidence.minimal "engine" "rule" .passed ⟨⟨2026, 1, 1⟩, 0, 0, 0, 0⟩ with
    subject := some ⟨none, none, some "host", none⟩
    details := some (.object [("a", .list []), ("b", .boolean true)]) }

theorem exact_sampleMembers : (Value.object sampleMembers).Exact := by
  simp [sampleMembers, Value.Exact, Json.ExactMembers, Json.ExactItems]

theorem spelled_sampleText : Padded (Value.object sampleMembers).Spelled sampleText.toList := by
  refine ⟨[' '], _, ['\n'], by simp [Json.IsGap, Json.isGap],
    Value.spelled_chars _ exact_sampleMembers, by simp [Json.IsGap, Json.isGap], ?_⟩
  rw [sampleText, String.toList_ofList]
  rfl

theorem membersGive_sampleMembers : MembersGive Names sampleMembers sampleGiven :=
  membersGive_iff.2 rfl

theorem describedBy_readSample : DescribedBy sampleGiven readSample := by
  have subject : Subject.Described (.object [("type", .text "host"), ("name", .null)])
      ⟨none, none, some "host", none⟩ := by
    refine ⟨_, .object (.named .kind (.named .name .nil)), ?_⟩
    exact
      { once := by decide
        id := .absent (by simp)
        name := .null (by simp)
        kind := .present (by simp) (by simp) rfl
        environment := .absent (by simp) }
  have details :
      (Value.object [("b", .null), ("a", .list []), ("b", .boolean true)]).tabled =
        .object [("a", .list []), ("b", .boolean true)] := rfl
  exact
    { once := by decide
      id := .absent (by simp [sampleGiven])
      engineName := by simp [sampleGiven, readSample, minimal]
      engineVersion := .absent (by simp [sampleGiven])
      ruleId := by simp [sampleGiven, readSample, minimal]
      ruleName := .absent (by simp [sampleGiven])
      ruleUri := .absent (by simp [sampleGiven])
      decision := ⟨"SUCCESS", by simp [sampleGiven], by decide⟩
      message := .absent (by simp [sampleGiven])
      timestamp := ⟨"2026-01-01T02:00:00+02:00", by simp [sampleGiven], by decide +kernel⟩
      subject := .present (by simp [sampleGiven]) (by simp) subject
      details := .present (by simp [sampleGiven]) (by simp) details }

theorem described_sampleMembers : Described (.object sampleMembers) readSample :=
  (described_object_iff membersGive_sampleMembers).2 describedBy_readSample

theorem ofText_sampleText :
    (Value.object sampleMembers).nesting < Json.nestingLimit ∧
      ofText sampleText = .ok readSample := by
  have room : (Value.object sampleMembers).nesting < Json.nestingLimit := by decide
  obtain ⟨given, gives, -, reads, -⟩ := ofText_object spelled_sampleText room
  have sameGiven : given = sampleGiven := by
    rw [← membersGive_iff.1 gives, membersGive_iff.1 membersGive_sampleMembers]
  exact ⟨room, (reads readSample).2 (sameGiven ▸ describedBy_readSample)⟩

end Evidence

end ComplianceEvidence
