/-!
Contract: association lists in strictly ascending key order.

Owns: look-up, insertion with replacement, and update on plain lists, with the law of each
operation through look-up and the fact that insertion keeps the order.

Keys are compared by code points, which is the order of their UTF-8 bytes.
-/

set_option autoImplicit false

namespace ComplianceEvidence.Ordered

variable {α : Type}

def Ascending (entries : List (String × α)) : Prop :=
  entries.Pairwise fun left right => left.1 < right.1

def find? (key : String) : List (String × α) → Option α
  | [] => none
  | (current, value) :: rest => if key = current then some value else find? key rest

/-- Puts the value that `change` makes of the present one at a key. -/
def alter (key : String) (change : Option α → α) : List (String × α) → List (String × α)
  | [] => [(key, change none)]
  | (current, value) :: rest =>
      if key < current then (key, change none) :: (current, value) :: rest
      else if key = current then (key, change (some value)) :: rest
      else (current, value) :: alter key change rest

/-- Puts a value at a key, in the place of any other. -/
def insert (key : String) (value : α) (entries : List (String × α)) : List (String × α) :=
  alter key (fun _ => value) entries

/-- Puts a value at a key, and gives the one that it takes the place of. -/
def exchange (key : String) (value : α) :
    List (String × α) → Option α × List (String × α)
  | [] => (none, [(key, value)])
  | (current, present) :: rest =>
      if key < current then (none, (key, value) :: (current, present) :: rest)
      else if key = current then (some present, (key, value) :: rest)
      else
        let (replaced, others) := exchange key value rest
        (replaced, (current, present) :: others)

theorem ascending_nil : Ascending ([] : List (String × α)) := List.Pairwise.nil

theorem key_mem_alter {key : String} {change : Option α → α} {entries : List (String × α)}
    {entry : String × α} (member : entry ∈ alter key change entries) :
    entry.1 = key ∨ ∃ other ∈ entries, other.1 = entry.1 := by
  induction entries with
  | nil => simp_all [alter]
  | cons head tail inductionHypothesis =>
      simp only [alter] at member
      split at member
      · rcases List.mem_cons.1 member with equal | inside
        · exact .inl (by simp [equal])
        · exact .inr ⟨entry, inside, rfl⟩
      · split at member
        · rcases List.mem_cons.1 member with equal | inside
          · exact .inl (by simp [equal])
          · exact .inr ⟨entry, List.mem_cons_of_mem _ inside, rfl⟩
        · rcases List.mem_cons.1 member with equal | inside
          · exact .inr ⟨head, by simp, by simp [equal]⟩
          · rcases inductionHypothesis inside with atKey | ⟨other, otherMember, sameKey⟩
            · exact .inl atKey
            · exact .inr ⟨other, List.mem_cons_of_mem _ otherMember, sameKey⟩

theorem Ascending.alter {entries : List (String × α)} (ascending : Ascending entries)
    (key : String) (change : Option α → α) : Ascending (Ordered.alter key change entries) := by
  induction entries with
  | nil => exact List.pairwise_singleton _ _
  | cons head tail inductionHypothesis =>
      obtain ⟨current, value⟩ := head
      have tailAbove := List.pairwise_cons.1 ascending
      simp only [Ordered.alter]
      split
      · rename_i less
        refine List.pairwise_cons.2 ⟨?_, ascending⟩
        intro entry member
        rcases List.mem_cons.1 member with equal | inside
        · simpa [equal] using less
        · exact String.lt_trans less (tailAbove.1 entry inside)
      · split
        · rename_i equal
          exact List.pairwise_cons.2 ⟨by simpa [equal] using tailAbove.1, tailAbove.2⟩
        · rename_i notLess notEqual
          have above : current < key := Decidable.by_contra fun notAbove =>
            notEqual (String.le_antisymm (String.not_lt.1 notAbove) (String.not_lt.1 notLess))
          refine List.pairwise_cons.2 ⟨?_, inductionHypothesis tailAbove.2⟩
          intro entry member
          rcases key_mem_alter member with atKey | ⟨other, otherMember, sameKey⟩
          · simpa [atKey] using above
          · simpa [← sameKey] using tailAbove.1 other otherMember

theorem Ascending.insert {entries : List (String × α)} (ascending : Ascending entries)
    (key : String) (value : α) : Ascending (Ordered.insert key value entries) :=
  ascending.alter key _

/-- A key below all others is not there. -/
theorem find?_eq_none_of_above {key : String} {entries : List (String × α)}
    (above : ∀ entry ∈ entries, key < entry.1) : find? key entries = none := by
  induction entries with
  | nil => rfl
  | cons head tail inductionHypothesis =>
      obtain ⟨headAbove, tailAbove⟩ := List.forall_mem_cons.1 above
      have notHead : key ≠ head.1 := fun equal => String.lt_irrefl _ (equal ▸ headAbove)
      rw [find?, if_neg notHead]
      exact inductionHypothesis tailAbove

theorem find?_eq_none_of_lt_head {key current : String} {value : α} {tail : List (String × α)}
    (ascending : Ascending ((current, value) :: tail)) (less : key < current) :
    find? key ((current, value) :: tail) = none := by
  apply find?_eq_none_of_above
  refine List.forall_mem_cons.2 ⟨less, ?_⟩
  intro entry member
  exact String.lt_trans less ((List.pairwise_cons.1 ascending).1 entry member)

theorem find?_alter_self {entries : List (String × α)} (ascending : Ascending entries)
    (key : String) (change : Option α → α) :
    find? key (alter key change entries) = some (change (find? key entries)) := by
  induction entries with
  | nil => simp [alter, find?]
  | cons head tail inductionHypothesis =>
      obtain ⟨current, value⟩ := head
      have tailAbove := List.pairwise_cons.1 ascending
      simp only [alter]
      split
      · rename_i less
        rw [find?_eq_none_of_lt_head ascending less]
        simp [find?]
      · split
        · rename_i equal
          simp [find?, equal]
        · rename_i notEqual
          simp only [find?, notEqual, ↓reduceIte]
          exact inductionHypothesis tailAbove.2

theorem find?_alter_of_ne {key other : String} (different : other ≠ key)
    (change : Option α → α) (entries : List (String × α)) :
    find? other (alter key change entries) = find? other entries := by
  induction entries with
  | nil => simp [alter, find?, different]
  | cons head tail inductionHypothesis =>
      obtain ⟨current, value⟩ := head
      simp only [alter]
      split
      · simp [find?, different]
      · split
        · rename_i equal
          subst equal
          simp [find?, different]
        · simp [find?, inductionHypothesis]

/-- An exchange gives what look-up finds, and leaves what insertion leaves. -/
theorem exchange_eq {entries : List (String × α)} (ascending : Ascending entries) (key : String)
    (value : α) : exchange key value entries = (find? key entries, insert key value entries) := by
  induction entries with
  | nil => rfl
  | cons head tail inductionHypothesis =>
      obtain ⟨current, present⟩ := head
      simp only [exchange, insert, alter]
      split
      · rename_i less
        rw [find?_eq_none_of_lt_head ascending less]
      · split
        · rename_i equal
          rw [find?, if_pos equal]
        · rename_i different
          rw [inductionHypothesis ascending.of_cons, find?, if_neg different]
          rfl

theorem Ascending.exchange {entries : List (String × α)} (ascending : Ascending entries)
    (key : String) (value : α) : Ascending (Ordered.exchange key value entries).2 := by
  rw [exchange_eq ascending]
  exact ascending.insert key value

end ComplianceEvidence.Ordered
