import ComplianceEvidence.Proofs.Evidence.Grammar
import ComplianceEvidence.Proofs.Time.RoundTrip

/-!
Contract: evidence that was read is written so that it is read back as it was.

Owns: what holds of evidence that was read from any text; the members that are written for a
subject, for evidence and for a request, as values given to the fields; and the stability of the
written form.

Doubles are left out: whether a written double is read back as it was is a property of the reader
and the writer of doubles.
-/

set_option autoImplicit false

namespace ComplianceEvidence

open Json (Node Optionally Value spelled_render)
open Json.Shape (filterMap_cons_eq_append forall_written join_map_some rel_optional)

/-! ## Evidence that was read -/

namespace Evidence

/-- What holds of evidence that was read, with as much nesting left for its details. -/
structure Settled (limit : Nat) (evidence : Evidence) : Prop where
  timestamp : evidence.timestamp.Proper
  details : ∀ details, evidence.details = some details →
    details ≠ .null ∧ details.Canonical limit

/-- The same of a draft, as far as it is filled. -/
structure Draft.Settled (limit : Nat) (draft : Draft) : Prop where
  timestamp : ∀ instant, draft.timestamp = some instant → instant.Proper
  details : ∀ details, draft.details = some (some details) →
    details ≠ .null ∧ details.Canonical limit

theorem Draft.Settled.read {limit : Nat} (room : 0 < limit) {field : Field} {node : Node}
    {draft next : Draft} (settled : draft.Settled limit)
    (read : Draft.read field limit node draft = .ok next) : next.Settled limit := by
  cases field with
  | timestamp =>
      obtain ⟨instant, readInstant, rfl⟩ := Attempt.map_eq_ok_iff.1 read
      refine ⟨?_, settled.details⟩
      rintro _ ⟨⟩
      obtain ⟨text, isInstant⟩ := Json.check_of_readTextAs readInstant
      exact Time.Instant.proper_of_ofText (Attempt.mapError_eq_ok_iff.1 isInstant)
  | details =>
      obtain ⟨content, readContent, rfl⟩ := Attempt.map_eq_ok_iff.1 read
      refine ⟨settled.timestamp, ?_⟩
      rintro details ⟨⟩
      obtain ⟨readDetails, notNull⟩ := Json.read_of_readOptional readContent
      refine ⟨?_, node.canonical_of_readValue room readDetails⟩
      rintro rfl
      obtain ⟨start, after, isNull⟩ := Json.eq_null_of_readValue readDetails
      exact notNull start after isNull
  | id | engineName | engineVersion | ruleId | ruleName | ruleUri | decision | message | subject =>
      obtain ⟨content, -, rfl⟩ := Attempt.map_eq_ok_iff.1 read
      exact ⟨settled.timestamp, settled.details⟩

theorem settled_of_read {depth : Nat} {node : Node} {evidence : Evidence}
    (read : Evidence.read depth node = .ok evidence) : evidence.Settled (depth - 1) := by
  have blank : Draft.Settled (depth - 1) {} := ⟨by simp, by simp⟩
  obtain ⟨draft, settled, finished⟩ :=
    Json.Shape.holds_of_readNode blank
      (fun room {_ _ _ _} settled read => settled.read (Nat.sub_pos_of_lt room) read) read
  obtain ⟨-, -, -, -, -, -, -, -, timestamp, -, details⟩ := Draft.finish_eq_ok_iff.1 finished
  refine ⟨settled.timestamp _ timestamp, ?_⟩
  intro inside present
  rw [← details] at present
  exact settled.details inside (Option.join_eq_some_iff.1 present)

end Evidence

/-! ## Written members -/

namespace Subject

/-- What is written for a field. -/
def member (subject : Subject) : Field → Option Value
  | .id => subject.id.map .text
  | .name => subject.name.map .text
  | .kind => subject.kind.map .text
  | .environment => subject.environment.map .text

theorem toJson_eq_written (subject : Subject) :
    subject.toJson = .object (shape.written subject.member) := by
  simp only [toJson, Json.optionalText, Json.Shape.optionalMember_eq, Json.Shape.written, shape,
    Field.all, filterMap_cons_eq_append, List.filterMap_nil, List.append_assoc, List.append_nil]
  rfl

theorem eq_text_of_member {subject : Subject} {field : Field} {value : Value}
    (present : subject.member field = some value) : ∃ text, value = .text text := by
  cases field with
  | id | name | kind | environment =>
      obtain ⟨text, -, rfl⟩ := Option.map_eq_some_iff.1 present
      exact ⟨text, rfl⟩

theorem described_toJson (subject : Subject) : Described subject.toJson subject := by
  rw [← described_iff, toJson_eq_written]
  apply reading.described_written (fun field => by cases field <;> rfl)
    (fun field => by cases field <;> decide)
    ⟨subject.id.map some, subject.name.map some, subject.kind.map some,
      subject.environment.map some⟩
  · intro field
    cases field with
    | id | name | kind | environment => exact rel_optional .text _ fun _ _ => ⟨by simp, rfl⟩
  · show Except.ok (Subject.mk _ _ _ _) = .ok subject
    simp only [join_map_some]

theorem exact_toJson (subject : Subject) : subject.toJson.Exact := by
  rw [toJson_eq_written]
  apply Json.exactMembers_iff.2
  apply forall_written Value.Exact
  intro field value present
  obtain ⟨text, rfl⟩ := eq_text_of_member present
  trivial

theorem nesting_toJson (subject : Subject) : subject.toJson.nesting ≤ 1 := by
  rw [toJson_eq_written, Value.nesting]
  apply Json.nestingOfMembers_lt Nat.one_pos
  apply forall_written fun value => value.nesting < 1
  intro field value present
  obtain ⟨text, rfl⟩ := eq_text_of_member present
  exact Nat.one_pos

end Subject

namespace Evidence

/-- What is written for a field. -/
def member (evidence : Evidence) : Field → Option Value
  | .id => evidence.id.map .text
  | .engineName => some (.text evidence.engineName)
  | .engineVersion => evidence.engineVersion.map .text
  | .ruleId => some (.text evidence.ruleId)
  | .ruleName => evidence.ruleName.map .text
  | .ruleUri => evidence.ruleUri.map .text
  | .decision => some (.text evidence.decision.text)
  | .message => evidence.message.map .text
  | .timestamp => some (.text evidence.timestamp.render)
  | .subject => evidence.subject.map Subject.toJson
  | .details => evidence.details

theorem toJson_eq_written (evidence : Evidence) :
    evidence.toJson = .object (shape.written evidence.member) := by
  have details : Json.optionalMember "details" (fun details => details) evidence.details =
      (evidence.details.map fun value => ("details", value)).toList := by
    rw [Json.Shape.optionalMember_eq, Option.map_id']
  simp only [toJson, Json.optionalText, details, Json.Shape.optionalMember_eq, Json.Shape.written,
    shape, Field.all, filterMap_cons_eq_append, List.filterMap_nil, List.append_assoc,
    List.append_nil]
  rfl

/-- Each member is a text, the subject or the details. -/
theorem member_cases {evidence : Evidence} {field : Field} {value : Value}
    (present : evidence.member field = some value) :
    (∃ text, value = .text text) ∨ (∃ subject : Subject, value = subject.toJson) ∨
      evidence.details = some value := by
  cases field with
  | engineName | ruleId | decision | timestamp => exact .inl ⟨_, (Option.some.inj present).symm⟩
  | id | engineVersion | ruleName | ruleUri | message =>
      obtain ⟨text, -, isText⟩ := Option.map_eq_some_iff.1 present
      exact .inl ⟨text, isText.symm⟩
  | subject =>
      obtain ⟨subject, -, isSubject⟩ := Option.map_eq_some_iff.1 present
      exact .inr (.inl ⟨subject, isSubject.symm⟩)
  | details => exact .inr (.inr present)

/-- The draft that is full with evidence. -/
def full (evidence : Evidence) : Draft where
  id := evidence.id.map some
  engineName := some evidence.engineName
  engineVersion := evidence.engineVersion.map some
  ruleId := some evidence.ruleId
  ruleName := evidence.ruleName.map some
  ruleUri := evidence.ruleUri.map some
  decision := some evidence.decision
  message := evidence.message.map some
  timestamp := some evidence.timestamp
  subject := evidence.subject.map some
  details := evidence.details.map some

theorem finish_full (evidence : Evidence) : evidence.full.finish = .ok evidence := by
  simp [Draft.finish_eq_ok_iff, full, join_map_some]

theorem described_toJson {limit : Nat} {evidence : Evidence} (settled : evidence.Settled limit) :
    Described evidence.toJson evidence := by
  rw [← described_iff, toJson_eq_written]
  apply reading.described_written (fun field => by cases field <;> rfl)
    (fun field => by cases field <;> decide)
    evidence.full
  · intro field
    cases field with
    | id | engineVersion | ruleName | ruleUri | message =>
        exact rel_optional .text _ fun _ _ => ⟨by simp, rfl⟩
    | engineName | ruleId => exact .some rfl
    | decision => exact .some ⟨_, rfl, evidence.decision.ofText_text⟩
    | timestamp =>
        refine .some ⟨_, rfl, ?_⟩
        rw [Time.Instant.render, String.toList_ofList]
        exact Time.Instant.ofText_chars settled.timestamp
    | subject =>
        exact rel_optional Subject.toJson _ fun subject _ =>
          ⟨by simp [Subject.toJson], subject.described_toJson⟩
    | details =>
        have meant : ∀ details, evidence.details = some details →
            details ≠ .null ∧ details.tabled = details := by
          intro details present
          obtain ⟨notNull, canonical⟩ := settled.details details present
          exact ⟨notNull, canonical.tabled_eq⟩
        have related := rel_optional (fun details => details) evidence.details meant
        rwa [Option.map_id'] at related
  · exact evidence.finish_full

theorem exact_toJson {evidence : Evidence}
    (exact : ∀ details, evidence.details = some details → details.Exact) :
    evidence.toJson.Exact := by
  rw [toJson_eq_written]
  apply Json.exactMembers_iff.2
  apply forall_written Value.Exact
  intro field value present
  rcases member_cases present with ⟨text, rfl⟩ | ⟨subject, rfl⟩ | isDetails
  · trivial
  · exact subject.exact_toJson
  · exact exact value isDetails

theorem nesting_toJson {limit : Nat} (room : 1 < limit) {evidence : Evidence}
    (settled : evidence.Settled limit) : evidence.toJson.nesting ≤ limit := by
  rw [toJson_eq_written, Value.nesting]
  apply Json.nestingOfMembers_lt (Nat.lt_of_succ_lt room)
  apply forall_written fun value => value.nesting < limit
  intro field value present
  rcases member_cases present with ⟨text, rfl⟩ | ⟨subject, rfl⟩ | isDetails
  · exact Nat.lt_of_succ_lt room
  · exact Nat.lt_of_le_of_lt subject.nesting_toJson room
  · exact (settled.details value isDetails).2.nesting_lt

end Evidence

/-! ## Requests -/

namespace Request

def reading : shape.Reading where
  Content := fun _ => Evidence
  Means := fun _ => Evidence.Described
  slot _ draft := draft
  fill _ evidence _ := some evidence
  order_nodup := by decide
  slot_blank _ := rfl
  isFilled_eq _ _ := rfl
  slot_fill_self _ _ _ := rfl
  slot_fill_of_ne _ _ different := absurd rfl different
  eq_of_slots same := same .evidence
  isSome_of_finish {field draft request} _ finished := by
    cases draft with
    | none => cases finished
    | some evidence => rfl
  read_eq_ok_iff shown room :=
    Attempt.map_eq_ok_iff_of (Evidence.read_eq_ok_iff shown room)

theorem described_of_evidence {value : Value} {evidence : Evidence}
    (described : Evidence.Described value evidence) :
    reading.Described (.object [("evidence", value)]) ⟨evidence⟩ := by
  refine ⟨[(.evidence, value)], some evidence, rfl, ⟨List.nodup_singleton _, ?_⟩, rfl⟩
  intro field
  exact ⟨value, List.mem_singleton.2 rfl, described⟩

theorem settled_of_readNode {depth : Nat} {node : Node} {request : Request}
    (read : shape.readNode depth node = .ok request) :
    request.evidence.Settled (depth - 1 - 1) := by
  let holds (draft : Option Evidence) : Prop :=
    ∀ evidence, draft = some evidence → evidence.Settled (depth - 1 - 1)
  have blank : holds none := by
    intro evidence impossible
    cases impossible
  have step {field : Field} {node : Node} {draft next : Option Evidence}
      (read : shape.read field (depth - 1) node draft = .ok next) : holds next := by
    obtain ⟨evidence, readEvidence, rfl⟩ := Attempt.map_eq_ok_iff.1 read
    rintro _ ⟨⟩
    exact Evidence.settled_of_read readEvidence
  obtain ⟨draft, settled, finished⟩ :=
    Json.Shape.holds_of_readNode blank (fun _ {_ _ _ _} _ read => step read) read
  cases draft with
  | none => cases finished
  | some evidence =>
      cases finished
      exact settled evidence rfl

end Request

/-! ## Stability -/

/-- Evidence without doubles, which only its details could hold. -/
def Evidence.Exact (evidence : Evidence) : Prop :=
  ∀ details, evidence.details = some details → details.Exact

theorem Evidence.ofText_render {evidence : Evidence}
    (settled : evidence.Settled (Json.nestingLimit - 1)) (exact : evidence.Exact) :
    ofText evidence.toJson.render = .ok evidence := by
  have nested := nesting_toJson (by decide) settled
  have room : evidence.toJson.nesting < Json.nestingLimit := Nat.lt_succ_of_le nested
  rw [ofText_eq_ok_iff (spelled_render (exact_toJson exact)) room]
  exact described_toJson settled

theorem Request.ofText_render {request : Request}
    (settled : request.evidence.Settled (Json.nestingLimit - 1 - 1))
    (exact : request.evidence.Exact) : ofText request.toJson.render = .ok request := by
  have nested := Evidence.nesting_toJson (by decide) settled
  have room : request.toJson.nesting < Json.nestingLimit := by
    have limit : Json.nestingLimit = 128 := rfl
    show max request.evidence.toJson.nesting 0 + 1 < Json.nestingLimit
    omega
  have exactRequest : request.toJson.Exact := ⟨Evidence.exact_toJson exact, trivial⟩
  exact (reading.readDocument_eq_ok_iff (spelled_render exactRequest) room request).2
    (described_of_evidence (Evidence.described_toJson settled))

/-- Whatever text evidence or a request was read from, its written text is read as the same record
again, and that record is written as the same text. -/
theorem written_stable :
    (∀ text evidence, Evidence.ofText text = .ok evidence → evidence.Exact →
      ∃ again, Evidence.ofText evidence.toJson.render = .ok again ∧ again = evidence ∧
        again.toJson.render = evidence.toJson.render) ∧
    (∀ text request, Request.ofText text = .ok request → request.evidence.Exact →
      ∃ again, Request.ofText request.toJson.render = .ok again ∧ again = request ∧
        again.toJson.render = request.toJson.render) := by
  constructor
  · intro text evidence success exact
    have settled := Evidence.settled_of_read (Json.read_of_readDocument success)
    exact ⟨evidence, Evidence.ofText_render settled exact, rfl, rfl⟩
  · intro text request success exact
    have settled := Request.settled_of_readNode (Json.read_of_readDocument success)
    exact ⟨request, Request.ofText_render settled exact, rfl, rfl⟩

/-- A request for the sample, written with aliases and in another order. -/
def Request.sampleValue : Value :=
  .object [("evidence", .object Evidence.sampleMembers)]

theorem written_stable_sample :
    (∃ again, Evidence.ofText Evidence.readSample.toJson.render = .ok again ∧
      again = Evidence.readSample ∧
      again.toJson.render = Evidence.readSample.toJson.render) ∧
    (∃ again, Request.ofText (Request.mk Evidence.readSample).toJson.render = .ok again ∧
      again = ⟨Evidence.readSample⟩ ∧
      again.toJson.render = (Request.mk Evidence.readSample).toJson.render) := by
  have evidenceRead : Evidence.ofText Evidence.sampleText = .ok Evidence.readSample :=
    (Evidence.ofText_eq_ok_iff Evidence.spelled_sampleText (by decide) _).2
      Evidence.described_sampleMembers
  have requestExact : Request.sampleValue.Exact := ⟨Evidence.exact_sampleMembers, trivial⟩
  have requestRead : Request.ofText Request.sampleValue.render = .ok ⟨Evidence.readSample⟩ :=
    (Request.reading.readDocument_eq_ok_iff (spelled_render requestExact) (by decide) _).2
      (Request.described_of_evidence Evidence.described_sampleMembers)
  have exact : Evidence.readSample.Exact := by
    rintro _ ⟨⟩
    exact ⟨trivial, trivial, trivial⟩
  exact ⟨written_stable.1 Evidence.sampleText _ evidenceRead exact,
    written_stable.2 Request.sampleValue.render _ requestRead exact⟩

end ComplianceEvidence
