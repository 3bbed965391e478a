import Mathlib.Data.List.Dedup
import Mathlib.Data.List.Sort
import ComplianceEvidence.Proofs.Ordered.Last

/-!
Contract: the entries of a table are what look-up finds in it.

Owns: membership of an entry in terms of look-up, tables that are the same because look-up finds the
same, the keys and the size of a table that was made of a list, a table made again from its entries,
and the entries up to a key. That keys ascend is what makes entries and look-up agree, and what puts
the entries up to a key before the others.
-/

set_option autoImplicit false

namespace ComplianceEvidence.Ordered

variable {α : Type}

theorem find?_eq_some_of_mem {entries : List (String × α)} (ascending : Ascending entries)
    {key : String} {value : α} (member : (key, value) ∈ entries) :
    find? key entries = some value := by
  induction entries with
  | nil => simp at member
  | cons head tail inductionHypothesis =>
      obtain ⟨current, present⟩ := head
      have tailAbove := List.pairwise_cons.1 ascending
      rcases List.mem_cons.1 member with same | inside
      · obtain ⟨rfl, rfl⟩ := Prod.mk.inj same
        simp [find?]
      · have above : current < key := tailAbove.1 _ inside
        have different : key ≠ current := fun same => String.lt_irrefl _ (same ▸ above)
        rw [find?, if_neg different]
        exact inductionHypothesis tailAbove.2 inside

theorem Table.find?_eq_some_iff_mem {table : Table α} {key : String} {value : α} :
    table.find? key = some value ↔ (key, value) ∈ table.entries :=
  ⟨mem_of_find?, find?_eq_some_of_mem table.ascending⟩

theorem Table.mem_keys_iff {table : Table α} {key : String} :
    key ∈ table.keys ↔ ∃ value, table.find? key = some value := by
  simp only [keys, Table.find?_eq_some_iff_mem]
  simp

/-- Ascending lists with the same entries are the same. -/
theorem Ascending.eq_of_mem_iff {left right : List (String × α)} (leftAscending : Ascending left)
    (rightAscending : Ascending right) (same : ∀ entry, entry ∈ left ↔ entry ∈ right) :
    left = right := by
  have irreflexive : Std.Irrefl fun left right : String × α => left.1 < right.1 :=
    ⟨fun _ => String.lt_irrefl _⟩
  have asymmetric : Std.Asymm fun left right : String × α => left.1 < right.1 :=
    ⟨fun _ _ below above => String.lt_irrefl _ (String.lt_trans below above)⟩
  exact List.Pairwise.eq_of_mem_iff leftAscending rightAscending same

/-- Tables in which look-up finds the same are the same. -/
theorem Table.eq_of_find? {table other : Table α}
    (same : ∀ key value, table.find? key = some value ↔ other.find? key = some value) :
    table = other := by
  have sameEntries : table.entries = other.entries := by
    apply table.ascending.eq_of_mem_iff other.ascending
    rintro ⟨key, value⟩
    rw [← Table.find?_eq_some_iff_mem, ← Table.find?_eq_some_iff_mem, same]
  cases table
  cases other
  cases sameEntries
  rfl

theorem Table.keys_nodup (table : Table α) : table.keys.Nodup := by
  refine table.keys_ascending.imp ?_
  intro left right below same
  exact String.lt_irrefl right (same ▸ below)

theorem Table.mem_keys_ofList_iff {entries : List (String × α)} {key : String} :
    key ∈ (ofList entries).keys ↔ key ∈ entries.map Prod.fst := by
  rw [mem_keys_iff, ← Option.isSome_iff_exists, Option.isSome_iff_ne_none, Ne,
    find?_ofList_eq_none_iff]
  simp

/-- A key is counted once, however often it was given. -/
theorem Table.size_ofList (entries : List (String × α)) :
    (ofList entries).size = (entries.map Prod.fst).dedup.length := by
  have sameKeys : (ofList entries).keys.Perm (entries.map Prod.fst).dedup := by
    rw [List.perm_ext_iff_of_nodup (keys_nodup _) (List.nodup_dedup _)]
    intro key
    rw [mem_keys_ofList_iff, List.mem_dedup]
  calc
    (ofList entries).size = (ofList entries).keys.length := (List.length_map _).symm
    _ = (entries.map Prod.fst).dedup.length := sameKeys.length_eq

theorem Table.isEmpty_ofList_iff {entries : List (String × α)} :
    (ofList entries).isEmpty = true ↔ entries = [] := by
  have noKeys : (ofList entries).isEmpty = true ↔ (ofList entries).size = 0 :=
    List.isEmpty_iff_length_eq_zero
  rw [noKeys, size_ofList, List.length_eq_zero_iff, List.dedup_eq_nil, List.map_eq_nil_iff]

theorem mem_insert {key : String} {value : α} {entries : List (String × α)} {entry : String × α}
    (member : entry ∈ insert key value entries) : entry = (key, value) ∨ entry ∈ entries := by
  induction entries with
  | nil => exact .inl (List.mem_singleton.1 member)
  | cons head tail inductionHypothesis =>
      simp only [insert, alter] at member inductionHypothesis
      split at member
      · exact List.mem_cons.1 member
      · split at member
        · exact (List.mem_cons.1 member).imp_right (List.mem_cons_of_mem _)
        · rcases List.mem_cons.1 member with same | inside
          · exact .inr (same ▸ List.mem_cons_self)
          · exact (inductionHypothesis inside).imp_right (List.mem_cons_of_mem _)

theorem isLast_of_mem {entries : List (String × α)} (ascending : Ascending entries) {key : String}
    {value : α} (member : (key, value) ∈ entries) :
    IsLast (fun entry => entry.1 = key) entries (key, value) := by
  obtain ⟨before, after, rfl⟩ := List.append_of_mem member
  have above := (List.pairwise_cons.1 (List.pairwise_append.1 ascending).2.1).1
  refine ⟨before, after, rfl, rfl, ?_⟩
  intro other later same
  exact String.lt_irrefl key (same ▸ above other later)

/-- A table is made again of its own entries. -/
theorem Table.ofList_entries (table : Table α) :
    (ofList table.entries).entries = table.entries := by
  apply (ofList table.entries).ascending.eq_of_mem_iff table.ascending
  rintro ⟨key, value⟩
  rw [← Table.find?_eq_some_iff_mem, find?_ofList_eq_some_iff]
  exact ⟨IsLast.mem, isLast_of_mem table.ascending⟩

/-! ## Entries up to a key -/

def upTo (bound : String) (entries : List (String × α)) : List (String × α) :=
  entries.filter fun entry => entry.1 ≤ bound

def above (bound : String) (entries : List (String × α)) : List (String × α) :=
  entries.filter fun entry => bound < entry.1

theorem upTo_append_above {entries : List (String × α)} (ascending : Ascending entries)
    (bound : String) : upTo bound entries ++ above bound entries = entries := by
  induction entries with
  | nil => rfl
  | cons head tail inductionHypothesis =>
      obtain ⟨headBelow, tailAscending⟩ := List.pairwise_cons.1 ascending
      by_cases reached : head.1 ≤ bound
      · have notAbove : ¬ decide (bound < head.1) = true := by
          rw [decide_eq_true_iff]
          exact String.not_lt.2 reached
        have kept : upTo bound (head :: tail) = head :: upTo bound tail :=
          List.filter_cons_of_pos (decide_eq_true reached)
        have dropped : above bound (head :: tail) = above bound tail :=
          List.filter_cons_of_neg notAbove
        rw [kept, dropped, List.cons_append, inductionHypothesis tailAscending]
      · have passed : bound < head.1 := String.not_le.1 reached
        have further : ∀ entry ∈ head :: tail, bound < entry.1 :=
          List.forall_mem_cons.2 ⟨passed, fun entry member =>
            String.lt_trans passed (headBelow entry member)⟩
        have none : upTo bound (head :: tail) = [] := by
          rw [upTo, List.filter_eq_nil_iff]
          intro entry member
          rw [decide_eq_true_iff]
          exact String.not_le.2 (further entry member)
        have all : above bound (head :: tail) = head :: tail := by
          rw [above, List.filter_eq_self]
          intro entry member
          exact decide_eq_true (further entry member)
        rw [none, all, List.nil_append]

/-- Tables that agree on the keys up to a bound have the same entries up to it. -/
theorem Table.upTo_congr {table other : Table α} {bound : String}
    (agree : ∀ key ≤ bound, table.find? key = other.find? key) :
    upTo bound table.entries = upTo bound other.entries := by
  apply Ascending.eq_of_mem_iff (table.ascending.filter _) (other.ascending.filter _)
  rintro ⟨key, value⟩
  simp only [List.mem_filter, decide_eq_true_eq]
  apply and_congr_left
  intro reached
  rw [← Table.find?_eq_some_iff_mem, ← Table.find?_eq_some_iff_mem, agree key reached]

end ComplianceEvidence.Ordered
