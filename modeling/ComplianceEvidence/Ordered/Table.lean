import ComplianceEvidence.Ordered.Entries

/-!
Contract: tables with one value for each key, in ascending key order.

Owns: the table type, whose order is part of it, and the law of each operation through look-up.
-/

set_option autoImplicit false

namespace ComplianceEvidence.Ordered

structure Table (α : Type) where
  entries : List (String × α)
  ascending : Ascending entries

namespace Table

variable {α : Type}

def empty : Table α := ⟨[], ascending_nil⟩

instance : Inhabited (Table α) := ⟨empty⟩

def find? (table : Table α) (key : String) : Option α :=
  Ordered.find? key table.entries

def contains (table : Table α) (key : String) : Bool :=
  (table.find? key).isSome

def alter (table : Table α) (key : String) (change : Option α → α) : Table α :=
  ⟨Ordered.alter key change table.entries, table.ascending.alter key change⟩

def insert (table : Table α) (key : String) (value : α) : Table α :=
  table.alter key fun _ => value

/-- Puts a value at a key, and gives the one that it takes the place of. -/
def exchange (table : Table α) (key : String) (value : α) : Option α × Table α :=
  let exchanged := Ordered.exchange key value table.entries
  (exchanged.1, ⟨exchanged.2, table.ascending.exchange key value⟩)

/-- The table of a list in which the last value for a key counts. -/
def ofList (entries : List (String × α)) : Table α :=
  entries.foldl (fun table entry => table.insert entry.1 entry.2) empty

def keys (table : Table α) : List String :=
  table.entries.map Prod.fst

def values (table : Table α) : List α :=
  table.entries.map Prod.snd

def size (table : Table α) : Nat :=
  table.entries.length

def isEmpty (table : Table α) : Bool :=
  table.entries.isEmpty

/-! ## Laws -/

@[simp] theorem find?_empty (key : String) : (empty : Table α).find? key = none := rfl

@[simp] theorem find?_alter_self (table : Table α) (key : String) (change : Option α → α) :
    (table.alter key change).find? key = some (change (table.find? key)) :=
  Ordered.find?_alter_self table.ascending key change

theorem find?_alter_of_ne (table : Table α) {key other : String} (different : other ≠ key)
    (change : Option α → α) : (table.alter key change).find? other = table.find? other :=
  Ordered.find?_alter_of_ne different change table.entries

@[simp] theorem find?_insert_self (table : Table α) (key : String) (value : α) :
    (table.insert key value).find? key = some value :=
  table.find?_alter_self key _

theorem find?_insert_of_ne (table : Table α) {key other : String} (different : other ≠ key)
    (value : α) : (table.insert key value).find? other = table.find? other :=
  table.find?_alter_of_ne different _

theorem find?_insert (table : Table α) (key other : String) (value : α) :
    (table.insert key value).find? other =
      if other = key then some value else table.find? other := by
  split
  · rename_i equal
    rw [equal, find?_insert_self]
  · rename_i different
    exact table.find?_insert_of_ne different value

theorem exchange_eq (table : Table α) (key : String) (value : α) :
    table.exchange key value = (table.find? key, table.insert key value) := by
  simp only [exchange, Ordered.exchange_eq table.ascending]
  rfl

/-- Keys ascend strictly, so none comes twice. -/
theorem keys_ascending (table : Table α) : table.keys.Pairwise (· < ·) :=
  List.pairwise_map.2 table.ascending

theorem mem_of_find? {table : Table α} {key : String} {value : α}
    (found : table.find? key = some value) : (key, value) ∈ table.entries := by
  obtain ⟨entries, _⟩ := table
  simp only [find?] at found
  induction entries with
  | nil => simp [Ordered.find?] at found
  | cons head tail inductionHypothesis =>
      obtain ⟨current, present⟩ := head
      simp only [Ordered.find?] at found
      split at found
      · rename_i equal
        simp_all
      · rename_i ascending _
        exact List.mem_cons_of_mem _ (inductionHypothesis ascending.of_cons found)

end Table

end ComplianceEvidence.Ordered
