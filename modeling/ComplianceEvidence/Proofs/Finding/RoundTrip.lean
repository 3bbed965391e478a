import ComplianceEvidence.Finding.Basic
import ComplianceEvidence.Proofs.Json.WrittenRecord

/-!
Contract: a written response is read back as it was.

Owns: the way of each record's draft through the members that are written for the record. A missing
remedy is not written, and the draft keeps no place for it.
-/

set_option autoImplicit false

namespace ComplianceEvidence

open Json.Shape (Takes)

/-! ## Parts -/

theorem Verdict.readVariant_toJson (verdict : Verdict) (depth : Nat) (rest : List Char) :
    Json.readVariant Verdict.variants depth (verdict.toJson.node rest) = .ok verdict :=
  Json.readVariant_node verdict.named?_text depth rest

theorem Outcome.readVariant_toJson (outcome : Outcome) (depth : Nat) (rest : List Char) :
    Json.readVariant Outcome.variants depth (outcome.toJson.node rest) = .ok outcome :=
  Json.readVariant_node outcome.named?_text depth rest

namespace ControlContext

/-- The draft of a control when the texts that are always written have been read. -/
def textsDraft (control : ControlContext) : Draft where
  id := some control.id
  catalogId := some control.catalogId
  category := some control.category

theorem takes_remediation (control : ControlContext) (depth : Nat) :
    Takes shape depth control.textsDraft
      (Json.optionalText "remediationDescription" control.remediation)
      { control.textsDraft with remediation := control.remediation.map some } := by
  cases control.remediation with
  | none => exact .nil control.textsDraft
  | some remedy =>
      apply Takes.cons .remediation (by decide) rfl _ (.nil _)
      intro behind
      show (Json.readOptional Json.readString _).map _ = _
      rw [Json.readOptional_node _ (by simp), Json.readString_node]
      rfl

theorem finish_draft (control : ControlContext) :
    shape.finish { control.textsDraft with remediation := control.remediation.map some } =
      .ok control := by
  obtain ⟨id, catalogId, category, remediation⟩ := control
  cases remediation with
  | none => rfl
  | some remedy => rfl

theorem readNode_toJson {depth : Nat} (room : 1 < depth) (control : ControlContext)
    (rest : List Char) : shape.readNode depth (control.toJson.node rest) = .ok control := by
  apply Json.Shape.readNode_object _ room _ control.finish_draft
  apply Takes.cons .id (by decide) rfl
  · intro behind
    exact congrArg (Except.map _) (Json.readString_node control.id behind)
  apply Takes.cons .catalogId (by decide) rfl
  · intro behind
    exact congrArg (Except.map _) (Json.readString_node control.catalogId behind)
  apply Takes.cons .category (by decide) rfl
  · intro behind
    exact congrArg (Except.map _) (Json.readString_node control.category behind)
  exact control.takes_remediation (depth - 1)

theorem exact_toJson (control : ControlContext) : control.toJson.Exact := by
  unfold toJson
  cases control.remediation with
  | none => exact ⟨trivial, trivial, trivial, trivial⟩
  | some remedy => exact ⟨trivial, trivial, trivial, trivial, trivial⟩

end ControlContext

theorem Frameworks.readNode_toJson {depth : Nat} (room : 2 < depth) (frameworks : Frameworks)
    (rest : List Char) :
    Frameworks.shape.readNode depth (frameworks.toJson.node rest) = .ok frameworks := by
  have deeper : 1 < depth - 1 := Nat.lt_sub_of_add_lt room
  have requirements (draft : Draft) (values : List String) (behind : List Char) :
      shape.read .requirements (depth - 1) ((Json.texts values).node behind) draft =
        .ok { draft with requirements := some values } := by
    show Draft.read .requirements (depth - 1) _ draft = _
    rw [Draft.read, Json.readStrings_texts deeper]
    rfl
  have standards (draft : Draft) (values : List String) (behind : List Char) :
      shape.read .standards (depth - 1) ((Json.texts values).node behind) draft =
        .ok { draft with standards := some values } := by
    show Draft.read .standards (depth - 1) _ draft = _
    rw [Draft.read, Json.readStrings_texts deeper]
    rfl
  let draft : Draft :=
    { requirements := some frameworks.requirements, standards := some frameworks.standards }
  apply Json.Shape.readNode_object draft (Nat.lt_of_succ_lt room)
  · apply Takes.cons .requirements (by decide) rfl (requirements _ _)
    exact Takes.cons .standards (by decide) rfl (standards _ _) (.nil _)
  · rfl

/-! ## The whole -/

theorem Finding.readNode_toJson {depth : Nat} (room : 3 < depth) (finding : Finding)
    (rest : List Char) : Finding.shape.readNode depth (finding.toJson.node rest) = .ok finding := by
  have deeper : 2 < depth - 1 := Nat.lt_sub_of_add_lt room
  let draft : Draft :=
    { verdict := some finding.verdict
      control := some finding.control
      frameworks := some finding.frameworks
      outcome := some finding.outcome }
  apply Json.Shape.readNode_object draft (Nat.lt_of_le_of_lt (by decide) room)
  · apply Takes.cons .verdict (by decide) rfl
    · intro behind
      exact congrArg (Except.map _) (finding.verdict.readVariant_toJson _ behind)
    apply Takes.cons .control (by decide) rfl
    · intro behind
      have room : 1 < depth - 1 := Nat.lt_of_succ_lt deeper
      exact congrArg (Except.map _) (finding.control.readNode_toJson room behind)
    apply Takes.cons .frameworks (by decide) rfl
    · intro behind
      exact congrArg (Except.map _) (finding.frameworks.readNode_toJson deeper behind)
    apply Takes.cons .outcome (by decide) rfl _ (.nil _)
    intro behind
    exact congrArg (Except.map _) (finding.outcome.readVariant_toJson _ behind)
  · rfl

namespace Response

theorem readNode_toJson {depth : Nat} (room : 4 < depth) (response : Response)
    (rest : List Char) :
    Response.shape.readNode depth (response.toJson.node rest) = .ok response := by
  have deeper : 3 < depth - 1 := Nat.lt_sub_of_add_lt room
  apply Json.Shape.readNode_object (some response.finding) (Nat.lt_of_le_of_lt (by decide) room)
  · apply Takes.cons .finding (by decide) rfl _ (.nil _)
    intro behind
    exact congrArg (Except.map _) (response.finding.readNode_toJson deeper behind)
  · rfl

/-- No response holds a number, so none of its values is a double. -/
theorem exact_toJson (response : Response) : response.toJson.Exact := by
  have control : response.finding.control.toJson.Exact :=
    response.finding.control.exact_toJson
  have requirements := Json.exact_texts response.finding.frameworks.requirements
  have standards := Json.exact_texts response.finding.frameworks.standards
  exact ⟨⟨trivial, control, ⟨requirements, standards, trivial⟩, trivial, trivial⟩, trivial⟩

/-- The text that is written for a response is read as that response. -/
theorem ofText_render (response : Response) :
    Response.ofText response.toJson.render = .ok response :=
  Json.readDocument_render response.exact_toJson (response.readNode_toJson (by decide) [])

end Response

end ComplianceEvidence
