import TypedSql.Proofs.Query.Leaves

/-!
# The columns a source exposes

**Theorem (`Source.exposed`).** Every column of a source belongs to a leaf of the source: a table
declares it, or it carries the identity and the name of a view or an alias, or the identity of a
query, which has no name.

**Theorem (`mem_nameEntries`).** The name of a result column is that of its entry, with a number
behind it at most.
-/

namespace TypedSql

/-- The column belongs to the set that the leaf stands for. -/
def Leaf.Exposes : Leaf → ColumnRef → Prop
  | .table t, c => c ∈ t.columns
  | .named id name, c => c.key.set = id ∧ c.qualifier = name
  | .anonymous id, c => c.key.set = id ∧ c.qualifier = ""
  | _, _ => False

theorem Relation.exposed {r : Relation} {c : ColumnRef} (h : c ∈ r.columns) :
    ∃ l ∈ r.leaves, l.Exposes c := by
  cases r with
  | table t => exact ⟨.table t, List.mem_singleton_self _, h⟩
  | view id name q =>
    obtain ⟨result, -, rfl⟩ := List.mem_map.1 h
    exact ⟨.named id name, List.mem_cons_self, rfl, rfl⟩
  | subquery id q =>
    obtain ⟨result, -, rfl⟩ := List.mem_map.1 h
    exact ⟨.anonymous id, List.mem_cons_self, rfl, rfl⟩

theorem Source.exposed {c : ColumnRef} :
    (s : Source) → c ∈ s.columns → ∃ l ∈ s.leaves, l.Exposes c
  | .relation r, h => r.exposed h
  | .alias id name r, h => by
    obtain ⟨original, -, rfl⟩ := List.mem_map.1 h
    exact ⟨.named id name, List.mem_cons_self, rfl, rfl⟩
  | .join kind lhs rhs on, h => by
    rcases List.mem_append.1 h with left | right
    · obtain ⟨l, hl, exposes⟩ := lhs.exposed left
      exact ⟨l, by simp [Source.leaves, hl], exposes⟩
    · obtain ⟨l, hl, exposes⟩ := rhs.exposed right
      exact ⟨l, by simp [Source.leaves, hl], exposes⟩

/-! ## Names of result columns -/

/-- The name before it is made unique. -/
def ResultEntry.name : ResultEntry → String
  | .column c => c.name
  | .labelled key _ => key.name

/-- The name is that of the entry, with a number behind it at most. -/
def NamedEntry.Named (e : NamedEntry) : Prop :=
  e.name = e.entry.name ∨ ∃ n : Nat, e.name = e.entry.name ++ "_" ++ toString n

theorem freshName_eq (taken : List String) (name : String) :
    freshName taken name = name ∨ ∃ n : Nat, freshName taken name = name ++ "_" ++ toString n := by
  unfold freshName
  dsimp only
  split
  · next n _ => exact .inr ⟨n + 1, rfl⟩
  · exact .inl rfl

theorem mem_nameEntries {taken : List String} {entries : List ResultEntry} {e : NamedEntry}
    (h : e ∈ nameEntries taken entries) : e.entry ∈ entries ∧ e.Named := by
  induction entries generalizing taken with
  | nil => cases h
  | cons entry rest ih =>
    cases entry with
    | labelled key type =>
      rcases List.mem_cons.1 h with rfl | later
      · exact ⟨List.mem_cons_self, .inl rfl⟩
      · exact (ih later).imp_left (List.mem_cons_of_mem _)
    | column c =>
      rcases List.mem_cons.1 h with rfl | later
      · refine ⟨List.mem_cons_self, ?_⟩
        by_cases clash : taken.contains c.name
        · rw [NamedEntry.Named, if_pos clash]
          exact freshName_eq taken c.name
        · exact .inl (if_neg clash)
      · exact (ih later).imp_left (List.mem_cons_of_mem _)

end TypedSql
