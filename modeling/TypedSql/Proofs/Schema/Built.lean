import TypedSql.Schema.Table

/-!
# Tables that were built

**Theorem (`Table.Built.column`).** Every column of a table that was built has a valid name, and
carries the identity and the name of the table.

**Theorem (`Table.Built.primaryKey_eq`).** A column that shares its name with a column of the
primary key is one itself.

A draft may be given up at any step, since a step that fails leaves no draft behind; the invariant
is about the drafts that the steps lead to.
-/

namespace TypedSql

/-- A computation that succeeds has succeeded in its first step. -/
theorem exists_of_bind_eq_ok {ε α β : Type} {first : Except ε α} {next : α → Except ε β} {b : β}
    (h : (first >>= next) = .ok b) : ∃ a, first = .ok a ∧ next a = .ok b :=
  match first, h with
  | .ok a, h => ⟨a, rfl, h⟩

/-- The column is one of the draft's own, with a valid name. -/
structure ColumnRef.OwnedBy (c : ColumnRef) (id : SetId) (name : String) : Prop where
  valid : isValidName c.name = true
  set : c.key.set = id
  qualifier : c.qualifier = name

namespace TableDraft

/-- The drafts that steps of definition lead to. -/
inductive Defined : TableDraft → Prop
  | start (id : SetId) (name : String) : Defined { id, name }
  | add {d d' : TableDraft} {t : ValueType} {spec : ColumnSpec t} {c : Column t} :
      Defined d → d.add spec = .ok (c, d') → Defined d'
  | addComposite {d d' : TableDraft} {α : Type} {name : String} {kind : CompositeKind α}
      {nullable : Bool} {c : CompositeColumn α} :
      Defined d → d.addComposite name kind nullable = .ok (c, d') → Defined d'

theorem valid_of_checkName {d : TableDraft} {name : String} (h : d.checkName name = .ok ()) :
    isValidName name = true := by
  obtain ⟨⟨⟩, valid, -⟩ := exists_of_bind_eq_ok h
  exact validateName_eq_ok_iff.1 valid

/-- The name of a new column is not taken. -/
theorem ne_of_checkName {d : TableDraft} {name : String} (h : d.checkName name = .ok ()) :
    ∀ c ∈ d.columns, c.name ≠ name := by
  obtain ⟨⟨⟩, -, free⟩ := exists_of_bind_eq_ok h
  intro c hc same
  have taken : (d.columns.any (Text.sameName ·.name name)) = true :=
    List.any_eq_true.2 ⟨c, hc, same ▸ Text.sameName_refl _⟩
  rw [taken] at free
  cases free

theorem newColumn_ownedBy {d : TableDraft} {name : String} (h : isValidName name = true)
    (type : AnyDescriptor) (constraints : Constraints) :
    (d.newColumn name type constraints).OwnedBy d.id d.name :=
  ⟨h, rfl, rfl⟩

/-- Which column is added to a draft, and under which conditions. -/
theorem add_eq_newColumn {d d' : TableDraft} {t : ValueType} {spec : ColumnSpec t} {c : Column t}
    (h : d.add spec = .ok (c, d')) :
    d.checkName spec.name = .ok () ∧ d' = { d with columns := d.columns ++ [c.ref] }
      ∧ ∃ default, spec.storedDefault = .ok default
        ∧ c.ref
          = d.newColumn spec.name spec.descriptor.erase { spec.constraints with default } := by
  unfold add at h
  cases mistake : spec.error with
  | some e =>
      rw [mistake] at h
      cases h
  | none =>
      rw [mistake] at h
      obtain ⟨⟨⟩, checked, h⟩ := exists_of_bind_eq_ok h
      obtain ⟨default, stored, h⟩ := exists_of_bind_eq_ok h
      injection h with h
      injection h with hc hd
      subst hc hd
      exact ⟨checked, rfl, default, stored, rfl⟩

/-- A column with a mistake is not added. -/
theorem faultless_of_add {d d' : TableDraft} {t : ValueType} {spec : ColumnSpec t} {c : Column t}
    (h : d.add spec = .ok (c, d')) : spec.error = none := by
  cases mistake : spec.error with
  | none => rfl
  | some e =>
    rw [add, mistake] at h
    cases h

/-- What adding a column does to a draft. -/
theorem add_eq_ok {d d' : TableDraft} {t : ValueType} {spec : ColumnSpec t} {c : Column t}
    (h : d.add spec = .ok (c, d')) :
    d' = { d with columns := d.columns ++ [c.ref] } ∧ c.ref.OwnedBy d.id d.name := by
  obtain ⟨checked, rest, default, -, ref⟩ := add_eq_newColumn h
  refine ⟨rest, ?_⟩
  rw [ref]
  exact newColumn_ownedBy (valid_of_checkName checked) _ _

/-- A column without a mistake is added. -/
theorem add_of_checkName {d : TableDraft} {t : ValueType} {spec : ColumnSpec t}
    (faultless : spec.error = none) (checked : d.checkName spec.name = .ok ())
    {default : Option StorageValue} (stored : spec.storedDefault = .ok default) :
    let ref := d.newColumn spec.name spec.descriptor.erase { spec.constraints with default }
    d.add spec = .ok (⟨ref, spec.descriptor⟩, { d with columns := d.columns ++ [ref] }) := by
  unfold add
  rw [faultless, checked, stored]
  rfl

theorem checkName_of_forM {d : TableDraft} {named : List (String × AnyDescriptor)}
    (h : named.forM (fun (part, _) => d.checkName part) = .ok ()) :
    ∀ p ∈ named, d.checkName p.1 = .ok () := by
  induction named with
  | nil => exact List.forall_mem_nil _
  | cons p rest ih =>
      obtain ⟨⟨⟩, checked, h⟩ := exists_of_bind_eq_ok h
      exact List.forall_mem_cons.2 ⟨checked, ih h⟩

/-- Which columns are added to a draft for a composite column. -/
theorem addComposite_eq_newColumn {d d' : TableDraft} {α : Type} {name : String}
    {kind : CompositeKind α} {nullable : Bool} {c : CompositeColumn α}
    (h : d.addComposite name kind nullable = .ok (c, d')) :
    d' = { d with columns := d.columns ++ c.parts }
      ∧ ∀ part ∈ c.parts, d.checkName part.name = .ok ()
        ∧ part = d.newColumn part.name part.type {} := by
  unfold addComposite at h
  obtain ⟨⟨⟩, checked, h⟩ := exists_of_bind_eq_ok h
  injection h with h
  injection h with hc hd
  subst hc hd
  refine ⟨rfl, ?_⟩
  intro part hpart
  obtain ⟨p, hp, rfl⟩ := List.mem_map.1 hpart
  exact ⟨checkName_of_forM checked p hp, rfl⟩

/-- What adding a composite column does to a draft. -/
theorem addComposite_eq_ok {d d' : TableDraft} {α : Type} {name : String}
    {kind : CompositeKind α} {nullable : Bool} {c : CompositeColumn α}
    (h : d.addComposite name kind nullable = .ok (c, d')) :
    d' = { d with columns := d.columns ++ c.parts }
      ∧ ∀ part ∈ c.parts, part.OwnedBy d.id d.name := by
  obtain ⟨rest, new⟩ := addComposite_eq_newColumn h
  refine ⟨rest, ?_⟩
  intro part hpart
  obtain ⟨checked, shape⟩ := new part hpart
  rw [shape]
  exact newColumn_ownedBy (valid_of_checkName checked) _ _

/-- Every column of a draft is its own. -/
theorem Defined.column {d : TableDraft} (h : d.Defined) :
    ∀ c ∈ d.columns, c.OwnedBy d.id d.name := by
  induction h with
  | start id name => exact List.forall_mem_nil _
  | add _ h ih =>
      obtain ⟨rfl, own⟩ := add_eq_ok h
      intro c hc
      rcases List.mem_append.1 hc with old | new
      · exact ih c old
      · rw [List.mem_singleton.1 new]
        exact own
  | addComposite _ h ih =>
      obtain ⟨rfl, own⟩ := addComposite_eq_ok h
      intro c hc
      rcases List.mem_append.1 hc with old | new
      · exact ih c old
      · exact own c new

/-- Columns of one name belong to the primary key together. Parts of a composite column may share
a name, but are no part of a key. -/
theorem Defined.primaryKey_eq {d : TableDraft} (h : d.Defined) :
    ∀ a ∈ d.columns, ∀ b ∈ d.columns, a.name = b.name →
      a.constraints.primaryKey = b.constraints.primaryKey := by
  -- Columns added in one step have names not taken before, and agree with each other.
  have extend {d : TableDraft} {new : List ColumnRef}
      (old : ∀ a ∈ d.columns, ∀ b ∈ d.columns, a.name = b.name →
        a.constraints.primaryKey = b.constraints.primaryKey)
      (checked : ∀ c ∈ new, d.checkName c.name = .ok ())
      (alike : ∀ a ∈ new, ∀ b ∈ new, a.constraints.primaryKey = b.constraints.primaryKey) :
      ∀ a ∈ d.columns ++ new, ∀ b ∈ d.columns ++ new, a.name = b.name →
        a.constraints.primaryKey = b.constraints.primaryKey := by
    intro a ha b hb same
    rcases List.mem_append.1 ha with ha | ha <;> rcases List.mem_append.1 hb with hb | hb
    · exact old a ha b hb same
    · exact absurd same (ne_of_checkName (checked b hb) a ha)
    · exact absurd same.symm (ne_of_checkName (checked a ha) b hb)
    · exact alike a ha b hb
  induction h with
  | start id name => exact List.forall_mem_nil _
  | add _ h ih =>
      obtain ⟨checked, rfl, default, -, ref⟩ := add_eq_newColumn h
      refine extend ih (List.forall_mem_singleton.2 ?_) ?_
      · rw [ref]
        exact checked
      · intro a ha b hb
        rw [List.mem_singleton.1 ha, List.mem_singleton.1 hb]
  | addComposite _ h ih =>
      obtain ⟨rfl, new⟩ := addComposite_eq_newColumn h
      refine extend ih (fun c hc => (new c hc).1) ?_
      intro a ha b hb
      rw [(new a ha).2, (new b hb).2]
      rfl

theorem build_eq_ok {d : TableDraft} {t : Table} (h : d.build = .ok t) :
    isValidName d.name = true ∧ t = ⟨d.id, d.name, d.columns⟩ := by
  obtain ⟨⟨⟩, valid, h⟩ := exists_of_bind_eq_ok h
  refine ⟨validateName_eq_ok_iff.1 valid, ?_⟩
  split at h
  · cases h
  · injection h with h
    exact h.symm

theorem columns_ne_nil_of_build {d : TableDraft} {t : Table} (h : d.build = .ok t) :
    d.columns ≠ [] := by
  obtain ⟨⟨⟩, -, h⟩ := exists_of_bind_eq_ok h
  intro empty
  rw [empty] at h
  cases h

end TableDraft

namespace Table

/-- The table was built from a draft. -/
def Built (t : Table) : Prop := ∃ d : TableDraft, d.Defined ∧ d.build = .ok t

theorem Built.valid {t : Table} (h : t.Built) : isValidName t.name = true := by
  obtain ⟨d, -, built⟩ := h
  obtain ⟨valid, rfl⟩ := TableDraft.build_eq_ok built
  exact valid

theorem Built.column {t : Table} (h : t.Built) : ∀ c ∈ t.columns, c.OwnedBy t.id t.name := by
  obtain ⟨d, defined, built⟩ := h
  obtain ⟨-, rfl⟩ := TableDraft.build_eq_ok built
  exact defined.column

theorem Built.columns_ne_nil {t : Table} (h : t.Built) : t.columns ≠ [] := by
  obtain ⟨d, -, built⟩ := h
  obtain ⟨-, rfl⟩ := TableDraft.build_eq_ok built
  exact TableDraft.columns_ne_nil_of_build built

theorem Built.primaryKey_eq {t : Table} (h : t.Built) :
    ∀ a ∈ t.columns, ∀ b ∈ t.columns, a.name = b.name →
      a.constraints.primaryKey = b.constraints.primaryKey := by
  obtain ⟨d, defined, built⟩ := h
  obtain ⟨-, rfl⟩ := TableDraft.build_eq_ok built
  exact defined.primaryKey_eq

/-! ### Tables of one column -/

/-- A nullable column of whole numbers. -/
def wholeColumn (id : SetId) (name column : String) : ColumnRef where
  key := ⟨id, column⟩
  qualifier := name
  type := (⟨.int64, true⟩ : Descriptor .int64).erase

/-- The table with that column only. -/
def single (id : SetId) (name column : String) : Table := ⟨id, name, [wholeColumn id name column]⟩

theorem single_built (id : SetId) {name column : String} (hn : isValidName name = true)
    (hc : isValidName column = true) : (single id name column).Built := by
  let spec : ColumnSpec .int64 := { name := column, kind := .int64 }
  have checked : TableDraft.checkName ⟨id, name, []⟩ spec.name = .ok () := by
    rw [TableDraft.checkName, validateName_eq_ok_iff.2 hc]
    rfl
  have added := TableDraft.add_of_checkName rfl checked rfl
  refine ⟨_, .add (.start id name) added, ?_⟩
  rw [TableDraft.build, validateName_eq_ok_iff.2 hn]
  rfl

end Table
end TypedSql
