import ComplianceEvidence.Ordered.Table
import Mathlib.Data.List.Induction

/-!
Contract: the last item of a list with a property, and tables in which the last value for a key
counts.

Owns: the relation between a list and its last item with a property, its laws along the
constructions of lists, and look-up in a table that was made of a list or of items with keys.

Does not own: what the items are and why the last one counts.
-/

set_option autoImplicit false

namespace ComplianceEvidence

variable {α β γ : Type}

/-- The last item of a list with a property: it has the property, and nothing behind it has. -/
def IsLast (holds : α → Prop) (items : List α) (item : α) : Prop :=
  ∃ before after, items = before ++ item :: after ∧ holds item ∧ ∀ other ∈ after, ¬ holds other

namespace IsLast

variable {holds : α → Prop} {items : List α} {item : α}

theorem property (last : IsLast holds items item) : holds item := by
  obtain ⟨_, _, _, property, _⟩ := last
  exact property

theorem mem (last : IsLast holds items item) : item ∈ items := by
  obtain ⟨before, after, split, _, _⟩ := last
  simp [split]

@[simp] theorem not_nil : ¬ IsLast holds [] item := by
  intro isLast
  rcases isLast with ⟨before, after, split, _⟩
  simp at split

/-- What stands at the end decides, if it has the property. -/
theorem append_singleton_iff {final : α} :
    IsLast holds (items ++ [final]) item ↔
      (holds final ∧ item = final) ∨ (¬ holds final ∧ IsLast holds items item) := by
  constructor
  · intro isLast
    rcases isLast with ⟨before, after, split, property, silent⟩
    rcases List.eq_nil_or_concat after with rfl | ⟨between, last, rfl⟩
    · obtain ⟨rfl, rfl⟩ : items = before ∧ final = item := by
        simpa using List.append_inj' split rfl
      exact .inl ⟨property, rfl⟩
    · have regrouped : items ++ [final] = (before ++ item :: between) ++ [last] := by
        simpa using split
      obtain ⟨rfl, rfl⟩ : items = before ++ item :: between ∧ final = last := by
        simpa using List.append_inj' regrouped rfl
      refine .inr ⟨silent final (by simp), before, between, rfl, property, ?_⟩
      intro other member
      exact silent other (by simp [member])
  · intro either
    rcases either with ⟨property, rfl⟩ | ⟨missed, before, after, rfl, property, silent⟩
    · exact ⟨items, [], rfl, property, by simp⟩
    · refine ⟨before, after ++ [final], by simp, property, ?_⟩
      intro other member
      rcases List.mem_append.1 member with inside | atEnd
      · exact silent other inside
      · rwa [List.mem_singleton.1 atEnd]

/-- What stands at the front decides only where nothing behind it has the property. -/
theorem cons_iff {head : α} :
    IsLast holds (head :: items) item ↔
      IsLast holds items item ∨ (holds head ∧ item = head ∧ ∀ other ∈ items, ¬ holds other) := by
  constructor
  · intro isLast
    rcases isLast with ⟨before, after, split, property, silent⟩
    cases before with
    | nil =>
        obtain ⟨rfl, rfl⟩ := List.cons.inj split
        exact .inr ⟨property, rfl, silent⟩
    | cons first between =>
        obtain ⟨rfl, rfl⟩ := List.cons.inj split
        exact .inl ⟨between, after, rfl, property, silent⟩
  · intro either
    rcases either with ⟨before, after, rfl, property, silent⟩ | ⟨property, rfl, silent⟩
    · exact ⟨head :: before, after, rfl, property, silent⟩
    · exact ⟨[], items, rfl, property, silent⟩

/-- Of two lists, the front one decides only where nothing in the other one has the property. -/
theorem append_iff {front back : List α} :
    IsLast holds (front ++ back) item ↔
      IsLast holds back item ∨ ((∀ other ∈ back, ¬ holds other) ∧ IsLast holds front item) := by
  induction back using List.reverseRecOn with
  | nil => simp
  | append_singleton back final inductionHypothesis =>
      rw [← List.append_assoc, append_singleton_iff, append_singleton_iff, inductionHypothesis,
        List.forall_mem_append, List.forall_mem_singleton]
      tauto

/-- A list has at most one last item with a property. -/
theorem unique {other : α} (first : IsLast holds items item) (second : IsLast holds items other) :
    item = other := by
  induction items using List.reverseRecOn with
  | nil => exact absurd first not_nil
  | append_singleton front final inductionHypothesis =>
      rcases append_singleton_iff.1 first with ⟨_, rfl⟩ | ⟨missed, earlier⟩
      · rcases append_singleton_iff.1 second with ⟨_, rfl⟩ | ⟨missed, _⟩
        · rfl
        · exact absurd first.property missed
      · rcases append_singleton_iff.1 second with ⟨property, _⟩ | ⟨_, also⟩
        · exact absurd property missed
        · exact inductionHypothesis earlier also

/-- There is a last item with a property as soon as there is any. -/
theorem exists_iff : (∃ item, IsLast holds items item) ↔ ∃ item ∈ items, holds item := by
  constructor
  · intro found
    rcases found with ⟨item, last⟩
    exact ⟨item, last.mem, last.property⟩
  · intro found
    rcases found with ⟨item, member, property⟩
    induction items using List.reverseRecOn with
    | nil => simp at member
    | append_singleton front final inductionHypothesis =>
        by_cases decided : holds final
        · exact ⟨final, append_singleton_iff.2 (.inl ⟨decided, rfl⟩)⟩
        · have inFront : item ∈ front := by
            rcases List.mem_append.1 member with inside | atEnd
            · exact inside
            · rw [List.mem_singleton.1 atEnd] at property
              exact absurd property decided
          obtain ⟨found, last⟩ := inductionHypothesis inFront
          exact ⟨found, append_singleton_iff.2 (.inr ⟨decided, last⟩)⟩

/-- The last image with a property is the image of the last item that leads to one. -/
theorem map_iff {image : α → β} {holds : β → Prop} {result : β} :
    IsLast holds (items.map image) result ↔
      ∃ item, IsLast (fun item => holds (image item)) items item ∧ image item = result := by
  induction items using List.reverseRecOn with
  | nil => simp
  | append_singleton front final inductionHypothesis =>
      rw [List.map_append, List.map_singleton, append_singleton_iff, inductionHypothesis]
      constructor
      · intro either
        rcases either with ⟨property, rfl⟩ | ⟨missed, item, last, rfl⟩
        · exact ⟨final, append_singleton_iff.2 (.inl ⟨property, rfl⟩), rfl⟩
        · exact ⟨item, append_singleton_iff.2 (.inr ⟨missed, last⟩), rfl⟩
      · intro found
        rcases found with ⟨item, last, rfl⟩
        rcases append_singleton_iff.1 last with ⟨property, rfl⟩ | ⟨missed, earlier⟩
        · exact .inl ⟨property, rfl⟩
        · exact .inr ⟨missed, item, earlier, rfl⟩

/-- Of parts that are put together, the last one that has the property at all decides. -/
theorem flatMap_iff {parts : α → List β} {holds : β → Prop} {result : β} :
    IsLast holds (items.flatMap parts) result ↔
      ∃ item, IsLast (fun item => ∃ part ∈ parts item, holds part) items item ∧
        IsLast holds (parts item) result := by
  induction items using List.reverseRecOn with
  | nil => simp
  | append_singleton front final inductionHypothesis =>
      rw [List.flatMap_append, List.flatMap_singleton, append_iff, inductionHypothesis]
      constructor
      · intro either
        rcases either with inFinal | ⟨silent, item, last, inItem⟩
        · have decides : ∃ part ∈ parts final, holds part := ⟨_, inFinal.mem, inFinal.property⟩
          exact ⟨final, append_singleton_iff.2 (.inl ⟨decides, rfl⟩), inFinal⟩
        · have silentFinal : ¬ ∃ part ∈ parts final, holds part := by
            intro found
            rcases found with ⟨part, member, property⟩
            exact silent part member property
          exact ⟨item, append_singleton_iff.2 (.inr ⟨silentFinal, last⟩), inItem⟩
      · intro found
        rcases found with ⟨item, last, inItem⟩
        rcases append_singleton_iff.1 last with ⟨_, rfl⟩ | ⟨silent, earlier⟩
        · exact .inl inItem
        · exact .inr ⟨fun part member property => silent ⟨part, member, property⟩,
            item, earlier, inItem⟩

/-- The same for parts that are taken together with what they are part of. -/
theorem flatMap_map_iff {parts : α → List β} {pair : α → β → γ} {holds : γ → Prop} {result : γ} :
    IsLast holds (items.flatMap fun item => (parts item).map (pair item)) result ↔
      ∃ item part, IsLast (fun item => ∃ part ∈ parts item, holds (pair item part)) items item ∧
        IsLast (fun part => holds (pair item part)) (parts item) part ∧
        pair item part = result := by
  have inParts (item : α) :
      (∃ whole ∈ (parts item).map (pair item), holds whole) ↔
        ∃ part ∈ parts item, holds (pair item part) := by simp
  simp only [flatMap_iff, map_iff, inParts, exists_and_left]

/-- An item in front of one with the same key is not the last one with it. -/
theorem cons_iff_of_replaced {key : α → β} {value : β} {head : α}
    (replaced : ∃ other ∈ items, key other = key head) :
    IsLast (fun item => key item = value) (head :: items) item ↔
      IsLast (fun item => key item = value) items item := by
  rw [cons_iff]
  apply or_iff_left
  rintro ⟨rfl, -, silent⟩
  obtain ⟨other, later, same⟩ := replaced
  exact silent other later same

/-- Where no two items have the same key, each item is the last one with its key. -/
theorem iff_mem_of_distinct {key : α → β} {value : β} (distinct : (items.map key).Nodup) :
    IsLast (fun item => key item = value) items item ↔ item ∈ items ∧ key item = value := by
  constructor
  · intro last
    exact ⟨last.mem, last.property⟩
  · rintro ⟨member, rfl⟩
    obtain ⟨before, after, rfl⟩ := List.append_of_mem member
    refine ⟨before, after, rfl, rfl, ?_⟩
    intro other later same
    rw [List.map_append, List.map_cons, List.nodup_append, List.nodup_cons] at distinct
    exact distinct.2.1.1 (same ▸ List.mem_map_of_mem later)

/-- So the order of the items does not matter. -/
theorem iff_of_perm {key : α → β} {value : β} {permuted : List α}
    (distinct : (items.map key).Nodup) (permutation : permuted.Perm items) :
    IsLast (fun item => key item = value) permuted item ↔
      IsLast (fun item => key item = value) items item := by
  have permutedDistinct : (permuted.map key).Nodup :=
    (permutation.map key).nodup_iff.2 distinct
  rw [iff_mem_of_distinct permutedDistinct, iff_mem_of_distinct distinct, permutation.mem_iff]

/-- The last item with a property is the one that a scan from the end meets first. -/
theorem iff_findRev? [DecidablePred holds] :
    IsLast holds items item ↔ (items.findRev? fun item => holds item) = some item := by
  rw [List.findRev?_eq_find?_reverse]
  induction items using List.reverseRecOn with
  | nil => simp
  | append_singleton front final inductionHypothesis =>
      rw [append_singleton_iff, inductionHypothesis, List.reverse_append, List.reverse_singleton,
        List.singleton_append, List.find?_cons]
      by_cases decided : holds final
      · simp [decided, eq_comm]
      · simp [decided]

end IsLast

/-! ## Tables made of lists -/

namespace Ordered.Table

theorem ofList_append_singleton (entries : List (String × α)) (entry : String × α) :
    ofList (entries ++ [entry]) = (ofList entries).insert entry.1 entry.2 := by
  simp [ofList]

/-- A table that was made of a list has the last value for each key. -/
theorem find?_ofList_eq_some_iff {entries : List (String × α)} {key : String} {value : α} :
    (ofList entries).find? key = some value ↔
      IsLast (fun entry => entry.1 = key) entries (key, value) := by
  induction entries using List.reverseRecOn with
  | nil => simp [ofList]
  | append_singleton front final inductionHypothesis =>
      obtain ⟨current, present⟩ := final
      rw [ofList_append_singleton, find?_insert, IsLast.append_singleton_iff]
      by_cases same : key = current
      · subst same
        simp [eq_comm]
      · have other : current ≠ key := fun equal => same equal.symm
        simp [same, other, inductionHypothesis]

/-- It has none for a key that no entry has. -/
theorem find?_ofList_eq_none_iff {entries : List (String × α)} {key : String} :
    (ofList entries).find? key = none ↔ ∀ entry ∈ entries, entry.1 ≠ key := by
  rw [Option.eq_none_iff_forall_ne_some]
  constructor
  · intro absent entry member sameKey
    have present : ∃ entry, IsLast (fun entry => entry.1 = key) entries entry :=
      IsLast.exists_iff.2 ⟨entry, member, sameKey⟩
    obtain ⟨⟨current, value⟩, last⟩ := present
    obtain rfl : current = key := last.property
    exact absent value (find?_ofList_eq_some_iff.2 last)
  · intro different value found
    have last := find?_ofList_eq_some_iff.1 found
    exact different _ last.mem last.property

/-! ## Tables made of items -/

section Items

variable {items : List β} {key : β → String} {value : β → α} {sought : String}

/-- A table that was made of items has the value of the last item with a key. -/
theorem find?_ofList_map_eq_some_iff {result : α} :
    (ofList (items.map fun item => (key item, value item))).find? sought = some result ↔
      ∃ item, IsLast (fun item => key item = sought) items item ∧ value item = result := by
  rw [find?_ofList_eq_some_iff, IsLast.map_iff]
  refine exists_congr fun item => and_congr_right fun last => ?_
  have sameKey : key item = sought := last.property
  rw [Prod.mk.injEq, and_iff_right sameKey]

theorem find?_ofList_map_eq_none_iff :
    (ofList (items.map fun item => (key item, value item))).find? sought = none ↔
      ∀ item ∈ items, key item ≠ sought := by
  rw [find?_ofList_eq_none_iff, List.forall_mem_map]

/-- Look-up is a scan of the items from their end. -/
theorem find?_ofList_map :
    (ofList (items.map fun item => (key item, value item))).find? sought =
      (items.findRev? fun item => key item = sought).map value := by
  ext result
  rw [find?_ofList_map_eq_some_iff, Option.map_eq_some_iff]
  simp only [IsLast.iff_findRev?]

end Items

end Ordered.Table

end ComplianceEvidence
