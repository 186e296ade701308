import ReportIndex.Proofs.Lookup
import ReportIndex.Toml.Basic

/-!
Contract: tables that differ at one key.

Owns:
- a table without the entry at a key, and with another value there;
- tables that have a value at a key and are otherwise the same;
- what is found in such tables at other keys.

Does not own: what the keys of a table are for.
-/

namespace ReportIndex.Toml

namespace Table

/-- A table without the entries at a key. -/
def without (entries : Table) (key : String) : Table :=
  entries.filter (·.1 != key)

/-- A table with another value at a key that is there. -/
def replace (entries : Table) (key : String) (value : Value) : Table :=
  entries.map fun entry => (entry.1, if entry.1 = key then value else entry.2)

variable (entries : Table) (key : String)

@[simp]
theorem lookup_without_self : (entries.without key).lookup key = none :=
  lookup_filter_self entries key

theorem lookup_without_of_ne
    {other : String}
    (different : other ≠ key) :
    (entries.without key).lookup other = entries.lookup other :=
  lookup_filter_ne entries different

theorem mem_without (entry : String × Value) :
    entry ∈ entries.without key ↔ entry ∈ entries ∧ entry.1 ≠ key := by
  simp [without]

variable (value : Value)

theorem lookup_replace_self
    {old : Value}
    (present : entries.lookup key = some old) :
    (entries.replace key value).lookup key = some value := by
  have found := lookup_map_value (fun name old => if name = key then value else old) entries key
  rw [present, Option.map_some, if_pos rfl] at found
  exact found

theorem without_replace : (entries.replace key value).without key = entries.without key := by
  induction entries with
  | nil => rfl
  | cons first rest inductionHypothesis =>
      rw [replace, without, without] at inductionHypothesis ⊢
      rw [List.map_cons, List.filter_cons, List.filter_cons, inductionHypothesis]
      by_cases same : first.1 = key <;> simp [same]

/-- Tables that agree but at a key. -/
theorem lookup_eq_of_without_eq
    {entries other : Table}
    {key name : String}
    (same : other.without key = entries.without key)
    (different : name ≠ key) :
    other.lookup name = entries.lookup name := by
  rw [← lookup_without_of_ne other key different, same, lookup_without_of_ne entries key different]

end Table

/-- The second table has `value` at `key`, in place of what the first one has there, or
as a further entry anywhere. -/
inductive Sets (key : String) (value : Value) : Table → Table → Prop where
  | added
      {front : Table}
      (absent : front.lookup key = none)
      (back : Table) :
      Sets key value (front ++ back) (front ++ (key, value) :: back)
  | replaced
      {front : Table}
      (absent : front.lookup key = none)
      (old : Value)
      (back : Table) :
      Sets key value (front ++ (key, old) :: back) (front ++ (key, value) :: back)

namespace Sets

variable {key : String} {value : Value} {earlier later : Table}

/-- The only entry of a table. -/
theorem alone (key : String) (value : Value) : Sets key value [] [(key, value)] :=
  @added key value [] rfl []

variable (sets : Sets key value earlier later)

include sets

theorem lookup_self : later.lookup key = some value := by
  cases sets with
  | added absent back => simp [List.lookup_append, absent]
  | replaced absent old back => simp [List.lookup_append, absent]

theorem without_eq : Table.without later key = Table.without earlier key := by
  cases sets <;> simp [Table.without]

theorem lookup_of_ne
    {other : String}
    (different : other ≠ key) :
    later.lookup other = earlier.lookup other :=
  Table.lookup_eq_of_without_eq sets.without_eq different

end Sets

end ReportIndex.Toml
