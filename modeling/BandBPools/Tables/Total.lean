import Mathlib.Algebra.GroupWithZero.Nat
import Mathlib.Data.List.AList

/-!
# The total weight of a table

A table holds values under keys, and every value weighs something.  An entry
that is erased takes its weight out of the total, and an entry that is inserted
adds at most its own.
-/

namespace BandBPools.Tables

variable {Key Value : Type} [DecidableEq Key]

/-- The sum of the weights of all values. -/
def total (weight : Value → Nat) (table : AList fun _ : Key => Value) : Nat :=
  (table.entries.map fun entry => weight entry.2).sum

variable (weight : Value → Nat)

/-- An erased entry takes its weight with it. -/
theorem total_erase {table : AList fun _ : Key => Value} {key : Key}
    {value : Value} (found : table.lookup key = some value) :
    total weight (table.erase key) + weight value = total weight table := by
  have member := List.of_mem_dlookup found
  rcases List.exists_of_kerase (List.mem_keys_of_mem member) with
    ⟨held, before, after, -, split, erased⟩
  have same : held = value := by
    have first : Sigma.mk key held ∈ table.entries := by
      rw [split]
      simp
    exact List.NodupKeys.eq_of_mk_mem table.nodupKeys first member
  subst held
  change ((List.kerase key table.entries).map _).sum + _ =
    (table.entries.map _).sum
  rw [erased, split]
  simp only [List.map_append, List.map_cons, List.sum_append,
    List.sum_cons]
  omega

theorem erase_of_lookup_eq_none {table : AList fun _ : Key => Value}
    {key : Key} (absent : table.lookup key = none) :
    table.erase key = table := by
  apply AList.ext
  exact List.kerase_of_notMem_keys (AList.lookup_eq_none.mp absent)

theorem total_erase_le (table : AList fun _ : Key => Value) (key : Key) :
    total weight (table.erase key) ≤ total weight table := by
  cases found : table.lookup key with
  | none => rw [erase_of_lookup_eq_none found]
  | some value =>
      have taken := total_erase weight found
      omega

theorem total_insert_eq (table : AList fun _ : Key => Value) (key : Key)
    (value : Value) :
    total weight (table.insert key value) =
      weight value + total weight (table.erase key) := by
  change ((List.kinsert key value table.entries).map _).sum = _
  rw [List.kinsert_def, List.map_cons, List.sum_cons]
  rfl

/-- An inserted entry adds at most its weight. -/
theorem total_insert_le (table : AList fun _ : Key => Value) (key : Key)
    (value : Value) :
    total weight (table.insert key value) ≤
      total weight table + weight value := by
  have erased := total_erase_le weight table key
  rw [total_insert_eq]
  omega

/-- An entry under a new key adds its weight. -/
theorem total_insert_of_none {table : AList fun _ : Key => Value}
    {key : Key} (absent : table.lookup key = none) (value : Value) :
    total weight (table.insert key value) =
      total weight table + weight value := by
  rw [total_insert_eq, erase_of_lookup_eq_none absent, Nat.add_comm]

/-- An entry that is replaced changes the total by the difference. -/
theorem total_insert {table : AList fun _ : Key => Value} {key : Key}
    {old : Value} (found : table.lookup key = some old) (value : Value) :
    total weight (table.insert key value) + weight old =
      total weight table + weight value := by
  have erased := total_erase weight found
  rw [total_insert_eq]
  omega

end BandBPools.Tables
