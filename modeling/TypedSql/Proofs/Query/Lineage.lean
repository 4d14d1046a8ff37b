import Mathlib.Data.List.Forall2
import TypedSql.Proofs.Query.Exposed
import TypedSql.Proofs.Query.Labels
import TypedSql.Proofs.Schema.Built

/-!
# What columns are copied from

**Theorem (`Source.copied`).** A column of an alias, a view or a query is a copy of the column or
label at the same place of what the source is made from: its origins are the identity of the
original followed by the origins of the original, and its type is the original's. A column of a
table has no origins.

The copies are made in three ways, for aliases, for select lists and for the columns of a query.
Entries of select lists stand for the originals in all of them, since an entry is a column or a
label.
-/

namespace TypedSql

/-! ## Originals -/

namespace ResultEntry

def key : ResultEntry → ColumnKey
  | .column c => c.key
  | .labelled key _ => key

def type : ResultEntry → AnyDescriptor
  | .column c => c.type
  | .labelled _ type => type

/-- What the column was copied from; a label is no copy. -/
def origins : ResultEntry → List ColumnKey
  | .column c => c.origins
  | .labelled _ _ => []

/-- The identity of the entry, then its origins. -/
def ancestry (e : ResultEntry) : List ColumnKey := e.key :: e.origins

end ResultEntry

/-- The column is a copy of the original, or of nothing. -/
def ColumnRef.CopyOf (c : ColumnRef) : Option ResultEntry → Prop
  | none => c.origins = []
  | some e => c.origins = e.ancestry ∧ c.type = e.type

/-- What the columns of a relation are copied from, in their order. -/
def Relation.originals : Relation → List (Option ResultEntry)
  | .table t => t.columns.map fun _ => none
  | .view _ _ q => q.entries.map some
  | .subquery _ q => q.entries.map some

/-- What the columns of a source are copied from, in their order. -/
def Source.originals : Source → List (Option ResultEntry)
  | .relation r => r.originals
  | .alias _ _ r => r.columns.map fun c => some (.column c)
  | .join _ lhs rhs _ => lhs.originals ++ rhs.originals

/-! ## Tables -/

namespace TableDraft

variable {d d' : TableDraft}

theorem origins_of_add {t : ValueType} {spec : ColumnSpec t} {c : Column t}
    (h : d.add spec = .ok (c, d')) : c.ref.origins = [] := by
  unfold add at h
  cases mistake : spec.error with
  | some e =>
    rw [mistake] at h
    cases h
  | none =>
    rw [mistake] at h
    obtain ⟨⟨⟩, -, h⟩ := exists_of_bind_eq_ok h
    obtain ⟨default, -, h⟩ := exists_of_bind_eq_ok h
    cases h
    rfl

theorem origins_of_addComposite {α : Type} {name : String} {kind : CompositeKind α}
    {nullable : Bool} {c : CompositeColumn α}
    (h : d.addComposite name kind nullable = .ok (c, d')) :
    ∀ part ∈ c.parts, part.origins = [] := by
  unfold addComposite at h
  obtain ⟨⟨⟩, -, h⟩ := exists_of_bind_eq_ok h
  cases h
  exact List.forall_mem_map.2 fun _ _ => rfl

theorem Defined.origins (h : d.Defined) : ∀ c ∈ d.columns, c.origins = [] := by
  induction h with
  | start id name => exact List.forall_mem_nil _
  | add _ added ih =>
    rw [(add_eq_ok added).1, List.forall_mem_append]
    exact ⟨ih, List.forall_mem_singleton.2 (origins_of_add added)⟩
  | addComposite _ added ih =>
    rw [(addComposite_eq_ok added).1, List.forall_mem_append]
    exact ⟨ih, origins_of_addComposite added⟩

end TableDraft

/-- A table declares its columns itself. -/
theorem Table.Built.origins {t : Table} (h : t.Built) : ∀ c ∈ t.columns, c.origins = [] := by
  obtain ⟨d, defined, built⟩ := h
  rw [(TableDraft.build_eq_ok built).2]
  exact defined.origins

/-! ## Copies -/

theorem copied_results (entries : List ResultEntry) (id : SetId) (qualifier : String) :
    List.Forall₂ ColumnRef.CopyOf
      ((resultColumns entries).map (·.toColumn id qualifier)) (entries.map some) := by
  have each (taken : List String) : List.Forall₂ ColumnRef.CopyOf
      (((nameEntries taken entries).map NamedEntry.resultColumn).map (·.toColumn id qualifier))
      (entries.map some) := by
    induction entries generalizing taken with
    | nil => exact .nil
    | cons entry rest ih =>
      cases entry with
      | column c => exact .cons ⟨rfl, rfl⟩ (ih _)
      | labelled key type => exact .cons ⟨rfl, rfl⟩ (ih _)
  exact each []

theorem copied_alias (columns : List ColumnRef) (id : SetId) (name : String) :
    List.Forall₂ ColumnRef.CopyOf (columns.map (·.copy id name))
      (columns.map fun c => some (.column c)) := by
  rw [List.forall₂_map_left_iff, List.forall₂_map_right_iff, List.forall₂_same]
  exact fun c _ => ⟨rfl, rfl⟩

/-- The tables whose columns the source exposes as they are. -/
def Source.tables : Source → List Table
  | .relation (.table t) => [t]
  | .relation _ | .alias .. => []
  | .join _ lhs rhs _ => lhs.tables ++ rhs.tables

/-- **Every column of a source is a copy of its original.** -/
theorem Source.copied : (s : Source) → (∀ t ∈ s.tables, t.Built) →
    List.Forall₂ ColumnRef.CopyOf s.columns s.originals
  | .relation (.table t), built => by
    have own := (built t (List.mem_singleton_self _)).origins
    change List.Forall₂ ColumnRef.CopyOf t.columns (t.columns.map fun _ => none)
    rw [List.forall₂_map_right_iff, List.forall₂_same]
    exact own
  | .relation (.view id name q), _ => copied_results q.entries id name
  | .relation (.subquery id q), _ => copied_results q.entries id ""
  | .alias id name r, _ => copied_alias r.columns id name
  | .join kind lhs rhs on, built => by
    rw [tables, List.forall_mem_append] at built
    exact List.rel_append (lhs.copied built.1) (rhs.copied built.2)

end TypedSql
