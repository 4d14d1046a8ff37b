import TypedSql.Proofs.Query.Exposed
import TypedSql.Proofs.Schema.Built

/-!
# The names in a statement

**Theorem (`Leaf.Built.plain`).** In a statement made from tables that were built, and from aliases,
views and queries of such tables, every name is valid.

**Theorem (`Source.columns_valid`).** A source whose leaves have valid names exposes columns with
valid names, those numbered by a select list included.
-/

namespace TypedSql

/-! ## Valid names -/

theorem isNameRest_of_isNameStart {c : Char} (h : isNameStart c = true) : isNameRest c = true := by
  unfold isNameStart at h
  unfold isNameRest
  rcases Bool.or_eq_true_iff.1 h with letter | underscore
  · rw [letter]
    rfl
  · rw [underscore, Bool.or_true]

theorem isNameRest_of_isValidName {n : String} (h : isValidName n = true) :
    ∀ c ∈ n.toList, isNameRest c = true := by
  unfold isValidName at h
  split at h
  · cases h
  · next start rest chars =>
    rw [Bool.and_eq_true, List.all_eq_true] at h
    rw [chars]
    exact List.forall_mem_cons.2 ⟨isNameRest_of_isNameStart h.1, h.2⟩

theorem isValidName_append {n s : String} (hn : isValidName n = true)
    (hs : ∀ c ∈ s.toList, isNameRest c = true) : isValidName (n ++ s) = true := by
  unfold isValidName at hn ⊢
  rw [String.toList_append]
  split at hn
  · cases hn
  · next start rest chars =>
    rw [Bool.and_eq_true] at hn
    rw [chars, List.cons_append]
    simp only [List.all_append, hn.1, hn.2, Bool.true_and]
    exact List.all_eq_true.2 hs

theorem isAsciiDigit_of_mem_toString {n : Nat} {c : Char} (h : c ∈ (toString n).toList) :
    Text.isAsciiDigit c = true := by
  rw [Nat.toString_eq_repr, Nat.toList_repr] at h
  have digit := Nat.isDigit_of_mem_toDigits (by decide) (by decide) h
  simpa [Char.isDigit, Text.isAsciiDigit, Char.le_def] using digit

theorem isValidName_numbered {s : String} (h : isValidName s = true) (n : Nat) :
    isValidName (s ++ "_" ++ toString n) = true := by
  have underscore : isValidName (s ++ "_") = true := by
    refine isValidName_append h fun c hc => ?_
    rw [show c = '_' from List.mem_singleton.1 hc]
    rfl
  refine isValidName_append underscore fun c hc => ?_
  rw [isNameRest, isAsciiDigit_of_mem_toString hc, Bool.or_true, Bool.true_or]

theorem NamedEntry.Named.valid {e : NamedEntry} (named : e.Named)
    (h : isValidName e.entry.name = true) : isValidName e.name = true := by
  rcases named with own | ⟨n, numbered⟩
  · rw [own]
    exact h
  · rw [numbered]
    exact isValidName_numbered h n

/-! ## Plain leaves -/

/-- The name and the qualifier are valid, except that the columns of a query have no qualifier. -/
structure ColumnRef.Plain (c : ColumnRef) : Prop where
  name : isValidName c.name = true
  qualifier : c.qualifier = "" ∨ isValidName c.qualifier = true

/-- Every name the leaf brings along is valid. -/
def Leaf.Plain : Leaf → Prop
  | .column c => c.Plain
  | .label n => isValidName n = true
  | .castType type => isValidName type = true
  | .table t => isValidName t.name = true ∧ ∀ c ∈ t.columns, c.Plain
  | .named _ n => isValidName n = true
  | .bind _ | .anonymous _ => True

theorem ResultEntry.valid_of_items {items : List ResultItem}
    (h : ∀ l ∈ itemLeaves items, l.Plain) :
    ∀ e ∈ items.map ResultItem.entry, isValidName e.name = true := by
  induction items with
  | nil => exact List.forall_mem_nil _
  | cons item items ih =>
      cases item with
      | column c =>
          rw [itemLeaves, List.forall_mem_cons] at h
          exact List.forall_mem_cons.2 ⟨h.1.name, ih h.2⟩
      | labelled key e type =>
          rw [itemLeaves, List.cons_append, List.forall_mem_cons, List.forall_mem_append] at h
          exact List.forall_mem_cons.2 ⟨h.1, ih h.2.2⟩

theorem valid_resultColumns {entries : List ResultEntry}
    (h : ∀ e ∈ entries, isValidName e.name = true) :
    ∀ c ∈ resultColumns entries, isValidName c.name = true := by
  intro c hc
  obtain ⟨e, he, rfl⟩ := List.mem_map.1 hc
  obtain ⟨entry, named⟩ := mem_nameEntries he
  have valid := named.valid (h _ entry)
  unfold NamedEntry.resultColumn
  split <;> exact valid

mutual

theorem Select.entries_valid :
    (q : Select) → (∀ l ∈ q.leaves, l.Plain) → ∀ e ∈ q.entries, isValidName e.name = true
  | ⟨source, distinct, items, filter, groupBy, having, orderBy, limit, offset, errors⟩, h => by
    simp only [Select.leaves, List.forall_mem_append] at h
    cases items with
    | nil =>
        cases source with
        | none => exact List.forall_mem_nil _
        | some s =>
            intro e he
            obtain ⟨c, hc, rfl⟩ := List.mem_map.1 he
            exact s.columns_valid h.1.1.1.1.1.1.1 c hc
    | cons item items => exact ResultEntry.valid_of_items h.1.1.1.1.1.1.2

theorem Query.entries_valid :
    (q : Query) → (∀ l ∈ q.leaves, l.Plain) → ∀ e ∈ q.entries, isValidName e.name = true
  | .select q, h => q.entries_valid h
  | .compound ⟨first, branches, orderBy, limit, offset, errors⟩, h => by
    simp only [Query.leaves, List.forall_mem_append] at h
    exact first.entries_valid h.1.1.1

theorem Relation.columns_valid :
    (r : Relation) → (∀ l ∈ r.leaves, l.Plain) → ∀ c ∈ r.columns, isValidName c.name = true
  | .table t, h => by
    have table : isValidName t.name = true ∧ ∀ c ∈ t.columns, c.Plain :=
      h _ (List.mem_singleton_self _)
    exact fun c hc => (table.2 c hc).name
  | .view id name q, h => by
    rw [Relation.leaves, List.forall_mem_cons] at h
    intro c hc
    obtain ⟨result, hr, rfl⟩ := List.mem_map.1 hc
    exact valid_resultColumns (q.entries_valid h.2) result hr
  | .subquery id q, h => by
    rw [Relation.leaves, List.forall_mem_cons] at h
    intro c hc
    obtain ⟨result, hr, rfl⟩ := List.mem_map.1 hc
    exact valid_resultColumns (q.entries_valid h.2) result hr

theorem Source.columns_valid :
    (s : Source) → (∀ l ∈ s.leaves, l.Plain) → ∀ c ∈ s.columns, isValidName c.name = true
  | .relation r, h => r.columns_valid h
  | .alias id name r, h => by
    rw [Source.leaves, List.forall_mem_cons] at h
    intro c hc
    obtain ⟨original, ho, rfl⟩ := List.mem_map.1 hc
    exact r.columns_valid h.2 original ho
  | .join kind lhs rhs on, h => by
    simp only [Source.leaves, List.forall_mem_append] at h
    intro c hc
    rcases List.mem_append.1 hc with left | right
    · exact lhs.columns_valid h.1.1 c left
    · exact rhs.columns_valid h.1.2 c right

end

/-- The columns of a source with plain leaves are plain. -/
theorem Source.columns_plain {s : Source} (h : ∀ l ∈ s.leaves, l.Plain) :
    ∀ c ∈ s.columns, c.Plain := by
  intro c hc
  refine ⟨s.columns_valid h c hc, ?_⟩
  obtain ⟨l, hl, exposes⟩ := s.exposed hc
  have plain := h l hl
  cases l with
  | table t => exact (plain.2 c exposes).qualifier
  | named id name =>
      rw [exposes.2]
      exact .inr plain
  | anonymous id => exact .inl exposes.2
  | column _ => cases exposes
  | label _ => cases exposes
  | bind _ => cases exposes
  | castType _ => cases exposes

/-! ## Leaves that were built -/

/-- The leaf is made from tables that were built and from sets of columns derived from them. -/
inductive Leaf.Built : Leaf → Prop
  | table {t : Table} : t.Built → Built (.table t)
  /-- A view or an alias. -/
  | named {id : SetId} {name : String} : validateName name = .ok () → Built (.named id name)
  | anonymous (id : SetId) : Built (.anonymous id)
  /-- A column of a source that is made from built tables. -/
  | column {s : Source} {c : ColumnRef} :
      (∀ l ∈ s.leaves, Built l) → c ∈ s.columns → Built (.column c)
  | label {name : String} : validateName name = .ok () → Built (.label name)
  | bind (p : Placeholder) : Built (.bind p)
  | castType {t : ValueType} (kind : Kind t) : Built (.castType kind.declaredType)

theorem isValidName_declaredType {t : ValueType} (kind : Kind t) :
    isValidName kind.declaredType = true := by
  have stored : ∀ c : StorageClass, isValidName c.sql = true := by
    intro c
    cases c <;> decide
  unfold Kind.declaredType
  split
  case h_6 => exact stored _
  all_goals decide

theorem Leaf.Built.plain {l : Leaf} (h : l.Built) : l.Plain := by
  induction h with
  | table built =>
      refine ⟨built.valid, fun c hc => ?_⟩
      have own := built.column c hc
      exact ⟨own.valid, .inr (own.qualifier ▸ built.valid)⟩
  | named valid => exact validateName_eq_ok_iff.1 valid
  | anonymous id => trivial
  | column _ hc ih => exact Source.columns_plain ih _ hc
  | label valid => exact validateName_eq_ok_iff.1 valid
  | bind p => trivial
  | castType kind => exact isValidName_declaredType kind

theorem Leaf.built_of_mem_columns {t : Table} (h : t.Built) {c : ColumnRef} (hc : c ∈ t.columns) :
    (Leaf.column c).Built := by
  refine .column (s := .relation (.table t)) ?_ hc
  intro l hl
  rw [List.mem_singleton.1 hl]
  exact .table h

/-- Every leaf of the statement was built. -/
def Statement.Built (s : Statement) : Prop := ∀ l ∈ s.leaves, l.Built

end TypedSql
