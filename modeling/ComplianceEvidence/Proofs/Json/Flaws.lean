import ComplianceEvidence.Json.Node
import ComplianceEvidence.Proofs.Attempt

/-!
Contract: what is wrong with the form of a JSON text is told in fixed words.

Owns: the causes that quote nothing, and the proofs that cutting a text into tokens and growing a
tree from them meets no other causes.

Does not own: the complaints of readers that expect something else than what stands there.
-/

set_option autoImplicit false

namespace ComplianceEvidence.Json

open Attempt (FailsOnly)

/-- A cause whose wording depends on nothing. -/
def Cause.isFixed : Cause → Bool
  | .wrongType _ _ | .wrongValue _ _ | .wrongCount _ _ => false
  | .missingField _ | .duplicateField _ | .unknownVariant _ _ | .rejected _ => false
  | _ => true

def Fault.Fixed (fault : Fault) : Prop :=
  fault.cause.isFixed = true

/-- Both readers of a flaw are told in fixed words. -/
def Flaw.Fixed (flaw : Flaw) : Prop :=
  flaw.read.Fixed ∧ flaw.passed.Fixed

theorem Flaw.fixed_same {cause : Cause} (fixed : cause.isFixed = true) (place : Place) :
    (Flaw.same cause place).Fixed :=
  ⟨fixed, fixed⟩

/-! ## Texts and words -/

theorem hexFault_fixed (digits : List Char) : (hexFault digits).Fixed := by
  unfold hexFault
  split
  · rfl
  · rfl

theorem prepend_fixed {character : Char} {read : Except Fault (List Char × List Char)}
    (fixed : FailsOnly Fault.Fixed read) : FailsOnly Fault.Fixed (prepend character read) :=
  fixed.map

theorem readText_fixed (text : List Char) : FailsOnly Fault.Fixed (readText text) := by
  fun_induction readText text
  all_goals first
    | exact FailsOnly.ok _
    | exact FailsOnly.error_iff.2 rfl
    | exact FailsOnly.error_iff.2 (hexFault_fixed _)
    | (apply prepend_fixed; assumption)

theorem skipText_fixed (text : List Char) : FailsOnly Fault.Fixed (skipText text) := by
  fun_induction skipText text
  all_goals first
    | exact FailsOnly.ok _
    | exact FailsOnly.error_iff.2 rfl
    | exact FailsOnly.error_iff.2 (hexFault_fixed _)
    | assumption

theorem readWord_fixed (letters text : List Char) :
    FailsOnly Fault.Fixed (readWord letters text) := by
  fun_induction readWord letters text
  all_goals first
    | exact FailsOnly.ok _
    | exact FailsOnly.error_iff.2 rfl
    | assumption

/-! ## Numbers -/

section Numbers

variable (negative falling : Bool) (significand count digits : Nat) (exponent : Int)
  (text : List Char)

theorem finishDouble_fixed :
    FailsOnly Fault.Fixed (finishDouble negative significand exponent text) := by
  unfold finishDouble
  split
  · exact FailsOnly.error_iff.2 rfl
  · exact FailsOnly.ok _

theorem readExponentDigits_fixed :
    FailsOnly Fault.Fixed
      (readExponentDigits negative significand exponent falling digits text) := by
  fun_induction readExponentDigits negative significand exponent falling digits text
  all_goals first
    | exact FailsOnly.ok _
    | exact FailsOnly.error_iff.2 rfl
    | exact finishDouble_fixed _ _ _ _
    | assumption

theorem readExponent_fixed :
    FailsOnly Fault.Fixed (readExponent negative significand exponent text) := by
  fun_cases readExponent negative significand exponent text
  all_goals first
    | exact FailsOnly.error_iff.2 rfl
    | exact readExponentDigits_fixed _ _ _ _ _ _

theorem readDoubleEnd_fixed :
    FailsOnly Fault.Fixed (readDoubleEnd negative significand exponent text) := by
  unfold readDoubleEnd
  split
  · exact readExponent_fixed _ _ _ _
  · exact readExponent_fixed _ _ _ _
  · exact finishDouble_fixed _ _ _ _

theorem readFraction_fixed :
    FailsOnly Fault.Fixed (readFraction negative significand exponent count text) := by
  fun_induction readFraction negative significand exponent count text
  all_goals first
    | exact FailsOnly.error_iff.2 rfl
    | exact readDoubleEnd_fixed _ _ _ _
    | exact finishDouble_fixed _ _ _ _
    | assumption

theorem readLongInteger_fixed :
    FailsOnly Fault.Fixed (readLongInteger negative significand count text) := by
  fun_induction readLongInteger negative significand count text
  all_goals first
    | exact readFraction_fixed _ _ _ _ _
    | exact readDoubleEnd_fixed _ _ _ _
    | exact finishDouble_fixed _ _ _ _
    | assumption

theorem readIntegerEnd_fixed :
    FailsOnly Fault.Fixed (readIntegerEnd negative significand text) := by
  unfold readIntegerEnd
  split
  · exact readFraction_fixed _ _ _ _ _
  · exact readExponent_fixed _ _ _ _
  · exact readExponent_fixed _ _ _ _
  · exact FailsOnly.ok _

theorem readIntegerDigits_fixed :
    FailsOnly Fault.Fixed (readIntegerDigits negative significand text) := by
  fun_induction readIntegerDigits negative significand text
  all_goals first
    | exact FailsOnly.ok _
    | exact readLongInteger_fixed _ _ _ _
    | exact readIntegerEnd_fixed _ _ _
    | assumption

theorem readMagnitude_fixed : FailsOnly Fault.Fixed (readMagnitude negative text) := by
  fun_cases readMagnitude negative text
  all_goals first
    | exact FailsOnly.error_iff.2 rfl
    | exact readIntegerEnd_fixed _ _ _
    | exact readIntegerDigits_fixed _ _ _

theorem readNumber_fixed : FailsOnly Fault.Fixed (readNumber text) := by
  unfold readNumber
  split
  · exact readMagnitude_fixed _ _
  · exact readMagnitude_fixed _ _

theorem skipExponent_fixed : FailsOnly Fault.Fixed (skipExponent text) := by
  fun_cases skipExponent text
  all_goals first
    | exact FailsOnly.ok _
    | exact FailsOnly.error_iff.2 rfl

theorem skipNumberEnd_fixed : FailsOnly Fault.Fixed (skipNumberEnd text) := by
  fun_cases skipNumberEnd text
  all_goals first
    | exact FailsOnly.ok _
    | exact FailsOnly.error_iff.2 rfl
    | exact skipExponent_fixed _

theorem skipNumber_fixed : FailsOnly Fault.Fixed (skipNumber text) := by
  fun_cases skipNumber text
  all_goals first
    | exact FailsOnly.error_iff.2 rfl
    | exact skipNumberEnd_fixed _

end Numbers

/-! ## Tokens -/

/-- What is wrong with a token, if anything, is told in fixed words. -/
def Token.Fixed (token : Token) : Prop :=
  ∀ flaw, token.lexeme = .broken flaw → flaw.Fixed

theorem tokenOf_fixed {start : List Char} {lexeme : Lexeme} {α : Type} {read : Except Fault α}
    {passed : Except Fault (List Char)} (sound : ∀ flaw, lexeme ≠ .broken flaw)
    (readFixed : FailsOnly Fault.Fixed read) (passedFixed : FailsOnly Fault.Fixed passed) :
    (tokenOf start lexeme (faultOf read) passed).Fixed := by
  intro flaw broken
  cases passed with
  | ok after => exact absurd broken (sound flaw)
  | error fault =>
      have fixed := passedFixed fault rfl
      cases read with
      | ok value =>
          obtain rfl := Lexeme.broken.inj broken
          exact ⟨fixed, fixed⟩
      | error reason =>
          obtain rfl := Lexeme.broken.inj broken
          exact ⟨readFixed reason rfl, fixed⟩

theorem Token.fixed_of_ne {start after : List Char} {lexeme : Lexeme}
    (sound : ∀ flaw, lexeme ≠ .broken flaw) : (Token.mk start lexeme after).Fixed := by
  intro flaw broken
  exact absurd broken (sound flaw)

theorem wordToken_fixed (start letters tail : List Char) (value : Scalar) :
    (tokenOf start (.scalar value) none (readWord letters tail)).Fixed := by
  have nothing : FailsOnly Fault.Fixed (.ok () : Except Fault Unit) := FailsOnly.ok ()
  exact tokenOf_fixed (by simp) nothing (readWord_fixed letters tail)

theorem firstToken_fixed (head : Char) (tail : List Char) : (firstToken head tail).Fixed := by
  fun_cases firstToken head tail
  all_goals first
    | exact tokenOf_fixed (by simp) (readText_fixed _) (skipText_fixed _)
    | exact tokenOf_fixed (by simp) (readNumber_fixed _) (skipNumber_fixed _)
    | exact wordToken_fixed _ _ _ _
    | exact Token.fixed_of_ne (by simp)

theorem tokens_fixed (text : List Char) : ∀ token ∈ tokens text, token.Fixed := by
  fun_induction tokens text with
  | case1 => simp
  | case2 text head tail skipped token shorter inductionHypothesis =>
      rw [List.forall_mem_cons]
      exact ⟨firstToken_fixed head tail, inductionHypothesis⟩
  | case3 text head tail skipped token =>
      rw [List.forall_mem_singleton]
      exact firstToken_fixed head tail

/-! ## Trees -/

def Ending.Fixed (ending : Ending) : Prop :=
  ∀ flaw, ending = .broken flaw → flaw.Fixed

/-- A tree in which everything that is wrong is told in fixed words. -/
inductive Node.Fixed : Node → Prop where
  | scalar (start : List Char) (value : Scalar) (after : List Char) :
      Fixed (.scalar start value after)
  | list {start : List Char} {items : List Node} {ending : Ending}
      (each : ∀ item ∈ items, Fixed item) (ended : ending.Fixed) :
      Fixed (.list start items ending)
  | object {start : List Char} {members : List (Key × Node)} {ending : Ending}
      (each : ∀ member ∈ members, Fixed member.2) (ended : ending.Fixed) :
      Fixed (.object start members ending)
  | malformed {start : List Char} {flaw : Flaw} (fixed : flaw.Fixed) :
      Fixed (.malformed start flaw)
  | broken {flaw : Flaw} (fixed : flaw.Fixed) : Fixed (.broken flaw)

def Frame.Fixed : Frame → Prop
  | .list _ items => ∀ item ∈ items, item.Fixed
  | .object _ members _ => ∀ member ∈ members, member.2.Fixed

def Stage.Fixed : Stage → Prop
  | .item _ items | .afterItem _ items => ∀ item ∈ items, item.Fixed
  | .key _ members | .colon _ members _ | .afterMember _ members =>
      ∀ member ∈ members, member.2.Fixed
  | .value | .firstItem _ | .firstKey _ => True

/-- What one token makes of a tree that grows. -/
def Growth.Fixed : Node ⊕ (Stage × List Frame) → Prop
  | .inl node => node.Fixed
  | .inr (stage, frames) => stage.Fixed ∧ ∀ frame ∈ frames, frame.Fixed

theorem Ending.fixed_closed (after : List Char) : (Ending.closed after).Fixed := by
  intro flaw broken
  cases broken

theorem Ending.fixed_broken {flaw : Flaw} (fixed : flaw.Fixed) : (Ending.broken flaw).Fixed := by
  intro other same
  cases same
  exact fixed

section Growing

variable {flaw : Flaw} {node : Node} {frames : List Frame} {token : Token} {start : List Char}
  {items : List Node} {members : List (Key × Node)} {stage : Stage}

theorem items_fixed_reverse (each : ∀ item ∈ items, item.Fixed) :
    ∀ item ∈ items.reverse, item.Fixed := by
  simpa using each

theorem members_fixed_reverse (each : ∀ member ∈ members, member.2.Fixed) :
    ∀ member ∈ members.reverse, member.2.Fixed := by
  intro member inside
  exact each member (List.mem_reverse.1 inside)

theorem waiting_cons {innermost : Frame} (fixed : innermost.Fixed)
    (waiting : ∀ frame ∈ frames, frame.Fixed) : ∀ frame ∈ innermost :: frames, frame.Fixed :=
  List.forall_mem_cons.2 ⟨fixed, waiting⟩

theorem collapse_fixed (fixed : flaw.Fixed) (whole : node.Fixed)
    (waiting : ∀ frame ∈ frames, frame.Fixed) : (collapse flaw node frames).Fixed := by
  induction frames generalizing node with
  | nil => exact whole
  | cons head tail inductionHypothesis =>
      obtain ⟨headFixed, tailFixed⟩ := List.forall_mem_cons.1 waiting
      have ended := Ending.fixed_broken fixed
      cases head with
      | list start items =>
          have each := List.forall_mem_cons.2 ⟨whole, headFixed⟩
          exact inductionHypothesis (.list (items_fixed_reverse each) ended) tailFixed
      | object start members key =>
          have each : ∀ member ∈ (key, node) :: members, member.2.Fixed :=
            List.forall_mem_cons.2 ⟨whole, headFixed⟩
          exact inductionHypothesis (.object (members_fixed_reverse each) ended) tailFixed

theorem place_fixed (whole : node.Fixed) (waiting : ∀ frame ∈ frames, frame.Fixed) :
    Growth.Fixed (place node frames) := by
  cases frames with
  | nil => exact whole
  | cons head tail =>
      obtain ⟨headFixed, tailFixed⟩ := List.forall_mem_cons.1 waiting
      cases head with
      | list start items => exact ⟨List.forall_mem_cons.2 ⟨whole, headFixed⟩, tailFixed⟩
      | object start members key => exact ⟨List.forall_mem_cons.2 ⟨whole, headFixed⟩, tailFixed⟩

theorem breakList_fixed (fixed : flaw.Fixed) (each : ∀ item ∈ items, item.Fixed)
    (waiting : ∀ frame ∈ frames, frame.Fixed) :
    Growth.Fixed (breakList start items flaw frames) :=
  collapse_fixed fixed (.list (items_fixed_reverse each) (Ending.fixed_broken fixed)) waiting

theorem breakObject_fixed (fixed : flaw.Fixed) (each : ∀ member ∈ members, member.2.Fixed)
    (waiting : ∀ frame ∈ frames, frame.Fixed) :
    Growth.Fixed (breakObject start members flaw frames) :=
  collapse_fixed fixed (.object (members_fixed_reverse each) (Ending.fixed_broken fixed)) waiting

theorem startValue_fixed {read : Cause} (fixed : token.Fixed) (readFixed : read.isFixed = true)
    (waiting : ∀ frame ∈ frames, frame.Fixed) :
    Growth.Fixed (startValue token read frames) := by
  unfold startValue
  split
  · exact place_fixed (.scalar _ _ _) waiting
  · exact ⟨trivial, waiting⟩
  · exact ⟨trivial, waiting⟩
  · rename_i flaw broken
    have flawFixed := fixed flaw broken
    exact collapse_fixed flawFixed (.malformed flawFixed) waiting
  · have flawFixed : Flaw.Fixed ⟨⟨read, behindFirst token.start⟩,
        ⟨.expectedValue, behindFirst token.start⟩⟩ := ⟨readFixed, rfl⟩
    exact collapse_fixed flawFixed (.broken flawFixed) waiting

theorem startKey_fixed {read : Cause} (fixed : token.Fixed) (readFixed : read.isFixed = true)
    (each : ∀ member ∈ members, member.2.Fixed) (waiting : ∀ frame ∈ frames, frame.Fixed) :
    Growth.Fixed (startKey token start members read frames) := by
  unfold startKey
  split
  · exact ⟨each, waiting⟩
  · apply breakObject_fixed _ each waiting
    split
    · rename_i broken _
      exact fixed _ broken
    · exact ⟨readFixed, rfl⟩

/-- One token more keeps what is wrong with the tree in fixed words. -/
theorem step_fixed (fixed : token.Fixed) (stageFixed : stage.Fixed)
    (waiting : ∀ frame ∈ frames, frame.Fixed) : Growth.Fixed (step token stage frames) := by
  cases stage with
  | value => exact startValue_fixed fixed rfl waiting
  | firstItem start =>
      have noItems : (Frame.list start []).Fixed := List.forall_mem_nil _
      rw [step]
      split
      · exact place_fixed (.list (List.forall_mem_nil _) (Ending.fixed_closed _)) waiting
      · exact startValue_fixed fixed rfl (waiting_cons noItems waiting)
  | item start items =>
      have frameFixed : (Frame.list start items).Fixed := stageFixed
      apply startValue_fixed fixed _ (waiting_cons frameFixed waiting)
      split
      · rfl
      · rfl
  | afterItem start items =>
      rw [step]
      split
      · exact place_fixed (.list (items_fixed_reverse stageFixed) (Ending.fixed_closed _)) waiting
      · split
        · exact ⟨stageFixed, waiting⟩
        · exact breakList_fixed (Flaw.fixed_same rfl _) stageFixed waiting
  | firstKey start =>
      rw [step]
      split
      · exact place_fixed (.object (List.forall_mem_nil _) (Ending.fixed_closed _)) waiting
      · exact startKey_fixed fixed rfl (List.forall_mem_nil _) waiting
  | key start members =>
      apply startKey_fixed fixed _ stageFixed waiting
      split
      · rfl
      · rfl
  | colon start members key =>
      have frameFixed : (Frame.object start members key).Fixed := stageFixed
      have waitingToo := waiting_cons frameFixed waiting
      rw [step]
      split
      · exact ⟨trivial, waitingToo⟩
      · have flawFixed : (Flaw.same .expectedColon (behindFirst token.start)).Fixed :=
          Flaw.fixed_same rfl _
        exact collapse_fixed flawFixed (.broken flawFixed) waitingToo
  | afterMember start members =>
      rw [step]
      split
      · exact place_fixed (.object (members_fixed_reverse stageFixed) (Ending.fixed_closed _))
          waiting
      · split
        · exact ⟨stageFixed, waiting⟩
        · exact breakObject_fixed (Flaw.fixed_same rfl _) stageFixed waiting

theorem breakOff_fixed (stageFixed : stage.Fixed) (waiting : ∀ frame ∈ frames, frame.Fixed) :
    (breakOff stage frames).Fixed := by
  have same {cause : Cause} (fixed : cause.isFixed = true) :
      (Flaw.same cause (before [])).Fixed := Flaw.fixed_same fixed _
  cases stage with
  | value => exact collapse_fixed (same rfl) (.broken (same rfl)) waiting
  | firstItem start => exact breakList_fixed (same rfl) (List.forall_mem_nil _) waiting
  | item start items =>
      have frameFixed : (Frame.list start items).Fixed := stageFixed
      exact collapse_fixed (same rfl) (.broken (same rfl)) (waiting_cons frameFixed waiting)
  | afterItem start items => exact breakList_fixed (same rfl) stageFixed waiting
  | firstKey start => exact breakObject_fixed (same rfl) (List.forall_mem_nil _) waiting
  | key start members =>
      have fixed : Flaw.Fixed ⟨⟨.endInValue, before []⟩, ⟨.endInObject, before []⟩⟩ := ⟨rfl, rfl⟩
      exact breakObject_fixed fixed stageFixed waiting
  | colon start members key =>
      have frameFixed : (Frame.object start members key).Fixed := stageFixed
      exact collapse_fixed (same rfl) (.broken (same rfl)) (waiting_cons frameFixed waiting)
  | afterMember start members => exact breakObject_fixed (same rfl) stageFixed waiting

/-- A whole run of tokens keeps what is wrong with the tree in fixed words. -/
theorem grow_fixed {cut : List Token} (each : ∀ token ∈ cut, token.Fixed)
    (stageFixed : stage.Fixed) (waiting : ∀ frame ∈ frames, frame.Fixed) :
    (grow stage frames cut).Fixed := by
  induction cut generalizing stage frames with
  | nil => exact breakOff_fixed stageFixed waiting
  | cons head tail inductionHypothesis =>
      obtain ⟨headFixed, tailFixed⟩ := List.forall_mem_cons.1 each
      have grown := step_fixed headFixed stageFixed waiting
      unfold grow
      split
      · rename_i node final
        rw [final] at grown
        exact grown
      · rename_i next more goesOn
        rw [goesOn] at grown
        exact inductionHypothesis tailFixed grown.1 grown.2

end Growing

theorem Node.ofText_fixed (text : List Char) : (Node.ofText text).Fixed :=
  grow_fixed (tokens_fixed text) trivial (List.forall_mem_nil _)

end ComplianceEvidence.Json
