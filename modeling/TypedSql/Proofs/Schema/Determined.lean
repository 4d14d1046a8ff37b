import Mathlib.Data.List.Forall2
import TypedSql.Proofs.Schema.Unambiguous

/-!
# What a table definition determines

**Theorem (`Crafted.createSql_eq_iff`).** Tables have one text of their definitions exactly if they
have one name and the same columns, in the same order, as far as a definition goes.

What a definition leaves open is the value type behind a declared type, the value behind a literal,
whether a column that is the whole primary key may be NULL, and whether any other column counts up.

The clauses of a column tell which constraints it has; whether it belongs to the primary key is told
by the names of the key, for no two columns of a table have one name if either is part of its key.
-/

namespace TypedSql

/-! ## Columns by their clauses -/

/-- What a reference says, the identity of the table apart. -/
def ForeignKey.wording (fk : ForeignKey) :
    String × String × Option ForeignKeyAction × Option ForeignKeyAction :=
  (fk.table, fk.column, fk.onDelete, fk.onUpdate)

theorem ForeignKey.clauses_congr {fk fk' : ForeignKey} (h : fk.wording = fk'.wording) :
    fk.clauses = fk'.clauses := by
  simp only [wording, Prod.mk.injEq] at h
  simp only [clauses, h]

theorem ForeignKey.mem_clauses {fk : ForeignKey} {x : Clause} :
    x ∈ fk.clauses ↔ x = .references fk.table fk.column
      ∨ (∃ a, fk.onDelete = some a ∧ x = .onDelete a)
      ∨ ∃ a, fk.onUpdate = some a ∧ x = .onUpdate a := by
  simp only [clauses, List.mem_cons, List.mem_append, Option.mem_toList, Option.map_eq_some_iff,
    eq_comm]

namespace ColumnRef

/-- The columns are defined alike. What a definition does not say is left out: whether the whole
primary key may be NULL, and whether any other column counts up. -/
structure SameDefinition (soleKey : Bool) (c c' : ColumnRef) : Prop where
  name : c.name = c'.name
  type : c.type.declaredType = c'.type.declaredType
  primaryKey : c.constraints.primaryKey = c'.constraints.primaryKey
  nullable : c.isSoleKey soleKey = false → c.type.nullable = c'.type.nullable
  unique : c.constraints.unique = c'.constraints.unique
  default : c.constraints.default.map StorageValue.literal
    = c'.constraints.default.map StorageValue.literal
  foreignKey : c.constraints.foreignKey.map ForeignKey.wording
    = c'.constraints.foreignKey.map ForeignKey.wording
  autoIncrement : c.isSoleKey soleKey = true →
    c.constraints.autoIncrement = c'.constraints.autoIncrement

variable {c c' : ColumnRef} {soleKey : Bool}

theorem mem_keyClauses {x : Clause} :
    x ∈ c.keyClauses soleKey
      ↔ (c.isSoleKey soleKey = true ∧ x = .primaryKey)
        ∨ (c.isSoleKey soleKey = true ∧ c.constraints.autoIncrement = true ∧ x = .autoIncrement)
        ∨ (c.isSoleKey soleKey = false ∧ c.type.nullable = false ∧ x = .notNull) := by
  rw [keyClauses]
  cases c.isSoleKey soleKey <;> cases c.type.nullable <;> cases c.constraints.autoIncrement <;>
    simp

/-- What each clause says of the column. -/
theorem mem_clauses {x : Clause} :
    x ∈ c.clauses soleKey ↔ x ∈ c.keyClauses soleKey
      ∨ (c.constraints.unique = true ∧ x = .unique)
      ∨ (∃ v, c.constraints.default = some v ∧ x = .default v.literal)
      ∨ ∃ fk, c.constraints.foreignKey = some fk ∧ x ∈ fk.clauses := by
  simp only [clauses, List.mem_append, or_assoc]
  refine or_congr_right (or_congr ?_ (or_congr ?_ ?_))
  · cases c.constraints.unique <;> simp
  · cases c.constraints.default <;> simp
  · cases c.constraints.foreignKey <;> simp

theorem primaryKey_mem_clauses :
    .primaryKey ∈ c.clauses soleKey ↔ c.isSoleKey soleKey = true := by
  simp [mem_clauses, mem_keyClauses, ForeignKey.mem_clauses]

theorem autoIncrement_mem_clauses :
    .autoIncrement ∈ c.clauses soleKey
      ↔ c.isSoleKey soleKey = true ∧ c.constraints.autoIncrement = true := by
  simp [mem_clauses, mem_keyClauses, ForeignKey.mem_clauses]

theorem notNull_mem_clauses :
    .notNull ∈ c.clauses soleKey ↔ c.isSoleKey soleKey = false ∧ c.type.nullable = false := by
  simp [mem_clauses, mem_keyClauses, ForeignKey.mem_clauses]

theorem unique_mem_clauses :
    .unique ∈ c.clauses soleKey ↔ c.constraints.unique = true := by
  simp [mem_clauses, mem_keyClauses, ForeignKey.mem_clauses]

theorem default_mem_clauses {l : String} :
    .default l ∈ c.clauses soleKey
      ↔ ∃ v, c.constraints.default = some v ∧ l = v.literal := by
  simp [mem_clauses, mem_keyClauses, ForeignKey.mem_clauses]

theorem references_mem_clauses {table column : String} :
    .references table column ∈ c.clauses soleKey
      ↔ ∃ fk, c.constraints.foreignKey = some fk ∧ table = fk.table ∧ column = fk.column := by
  simp [mem_clauses, mem_keyClauses, ForeignKey.mem_clauses]

theorem onDelete_mem_clauses {action : ForeignKeyAction} :
    .onDelete action ∈ c.clauses soleKey
      ↔ ∃ fk, c.constraints.foreignKey = some fk ∧ fk.onDelete = some action := by
  simp [mem_clauses, mem_keyClauses, ForeignKey.mem_clauses]

theorem onUpdate_mem_clauses {action : ForeignKeyAction} :
    .onUpdate action ∈ c.clauses soleKey
      ↔ ∃ fk, c.constraints.foreignKey = some fk ∧ fk.onUpdate = some action := by
  simp [mem_clauses, mem_keyClauses, ForeignKey.mem_clauses]

/-- Columns that are defined alike have the same clauses. -/
theorem SameDefinition.clauses_eq (h : SameDefinition soleKey c c') :
    c.clauses soleKey = c'.clauses soleKey := by
  have sole : c.isSoleKey soleKey = c'.isSoleKey soleKey := by
    rw [isSoleKey, isSoleKey, h.primaryKey]
  have key : c.keyClauses soleKey = c'.keyClauses soleKey := by
    rw [keyClauses, keyClauses, ← sole]
    split
    next alone => rw [h.autoIncrement alone]
    next other => rw [h.nullable (Bool.eq_false_iff.2 other)]
  have default : c.constraints.default.map (fun v => Clause.default v.literal)
      = c'.constraints.default.map fun v => Clause.default v.literal := by
    have literals := congrArg (Option.map Clause.default) h.default
    rwa [Option.map_map, Option.map_map] at literals
  have foreignKey : c.constraints.foreignKey.map ForeignKey.clauses
      = c'.constraints.foreignKey.map ForeignKey.clauses := by
    have wordings := h.foreignKey
    cases found : c.constraints.foreignKey with
    | none =>
      rw [found, Option.map_none, eq_comm, Option.map_eq_none_iff] at wordings
      rw [wordings]
    | some fk =>
      rw [found, Option.map_some, eq_comm, Option.map_eq_some_iff] at wordings
      obtain ⟨fk', found', wording⟩ := wordings
      rw [found']
      exact congrArg some (ForeignKey.clauses_congr wording.symm)
  rw [clauses, clauses, key, h.unique, default, foreignKey]

section

variable (told : ∀ x, x ∈ c.clauses soleKey ↔ x ∈ c'.clauses soleKey)
include told

theorem default_eq_of_clauses :
    c.constraints.default.map StorageValue.literal
      = c'.constraints.default.map StorageValue.literal := by
  ext l
  have default := told (.default l)
  rw [default_mem_clauses, default_mem_clauses] at default
  simpa only [Option.map_eq_some_iff, eq_comm] using default

theorem foreignKey_eq_none_of_clauses (h : c.constraints.foreignKey = none) :
    c'.constraints.foreignKey = none := by
  by_contra present
  obtain ⟨fk', found'⟩ := Option.ne_none_iff_exists'.1 present
  obtain ⟨fk, found, -⟩ := references_mem_clauses.1
    ((told _).2 (references_mem_clauses.2 ⟨fk', found', rfl, rfl⟩))
  rw [h] at found
  cases found

theorem foreignKey_eq_of_clauses :
    c.constraints.foreignKey.map ForeignKey.wording
      = c'.constraints.foreignKey.map ForeignKey.wording := by
  cases found : c.constraints.foreignKey with
  | none => rw [foreignKey_eq_none_of_clauses told found]
  | some fk =>
    obtain ⟨fk', found', table, column⟩ := references_mem_clauses.1
      ((told _).1 (references_mem_clauses.2 ⟨fk, found, rfl, rfl⟩))
    have onDelete : fk.onDelete = fk'.onDelete := by
      ext action
      have clause := told (.onDelete action)
      rw [onDelete_mem_clauses, onDelete_mem_clauses, found, found'] at clause
      simpa using clause
    have onUpdate : fk.onUpdate = fk'.onUpdate := by
      ext action
      have clause := told (.onUpdate action)
      rw [onUpdate_mem_clauses, onUpdate_mem_clauses, found, found'] at clause
      simpa using clause
    rw [found', Option.map_some, Option.map_some, ForeignKey.wording, ForeignKey.wording, table,
      column, onDelete, onUpdate]

end

/-- The entry of a column, and whether the column belongs to the primary key, are what its
definition says. -/
theorem sameDefinition_iff :
    SameDefinition soleKey c c' ↔ c.entry soleKey = c'.entry soleKey
      ∧ c.constraints.primaryKey = c'.constraints.primaryKey := by
  constructor
  · intro h
    exact ⟨by rw [entry, entry, h.name, h.type, h.clauses_eq], h.primaryKey⟩
  · rintro ⟨same, key⟩
    injection same with name type clauses
    have told (x : Clause) : x ∈ c.clauses soleKey ↔ x ∈ c'.clauses soleKey := by rw [clauses]
    have sole : c.isSoleKey soleKey = c'.isSoleKey soleKey := by
      rw [isSoleKey, isSoleKey, key]
    have autoIncrement := told .autoIncrement
    have notNull := told .notNull
    have unique := told .unique
    rw [autoIncrement_mem_clauses, autoIncrement_mem_clauses, ← sole] at autoIncrement
    rw [notNull_mem_clauses, notNull_mem_clauses, ← sole] at notNull
    rw [unique_mem_clauses, unique_mem_clauses] at unique
    exact
      { name := name
        type := type
        primaryKey := key
        nullable := fun other => by simpa [other] using notNull
        unique := Bool.eq_iff_iff.2 unique
        default := default_eq_of_clauses told
        foreignKey := foreignKey_eq_of_clauses told
        autoIncrement := fun alone => Bool.eq_iff_iff.2 (by simpa [alone] using autoIncrement) }

end ColumnRef

/-! ## Tables by their entries -/

namespace Entry

def isColumn : Entry → Bool
  | .column .. => true
  | .primaryKey _ => false

/-- The names of the key. -/
def keyNames : Entry → List String
  | .column .. => []
  | .primaryKey names => names

/-- The column is the whole primary key. -/
def isSoleKey : Entry → Bool
  | .column _ _ clauses => clauses.contains .primaryKey
  | .primaryKey _ => false

/-- The column belongs to the primary key, whose names are known if it has an entry of its own. -/
def isKey (names : List String) : Entry → Bool
  | .column name type clauses =>
    isSoleKey (.column name type clauses) || names.contains name
  | .primaryKey _ => false

end Entry

theorem ColumnRef.isSoleKey_entry (c : ColumnRef) (soleKey : Bool) :
    (c.entry soleKey).isSoleKey = c.isSoleKey soleKey := by
  rw [Bool.eq_iff_iff, ← primaryKey_mem_clauses]
  exact List.contains_iff_mem

namespace Table

variable {t u : Table}

theorem mem_primaryKey {c : ColumnRef} :
    c ∈ t.primaryKey ↔ c ∈ t.columns ∧ c.constraints.primaryKey = true :=
  List.mem_filter

theorem filter_entries : t.entries.filter Entry.isColumn = t.columns.map (·.entry t.soleKey) := by
  have columns : (t.columns.map (·.entry t.soleKey)).filter Entry.isColumn
      = t.columns.map (·.entry t.soleKey) := by
    refine List.filter_eq_self.2 fun e he => ?_
    obtain ⟨c, -, rfl⟩ := List.mem_map.1 he
    rfl
  rw [entries, List.filter_append, columns]
  split <;> exact List.append_nil _

theorem keyNames_entries : t.entries.flatMap Entry.keyNames = t.keyNames := by
  have columns : (t.columns.map (·.entry t.soleKey)).flatMap Entry.keyNames = [] := by
    refine List.flatMap_eq_nil_iff.2 fun e he => ?_
    obtain ⟨c, -, rfl⟩ := List.mem_map.1 he
    rfl
  rw [entries, List.flatMap_append, columns, List.nil_append]
  split
  next empty => exact (List.isEmpty_iff.1 empty).symm
  next => exact List.flatMap_singleton ..

theorem any_isSoleKey : t.entries.any Entry.isSoleKey = t.soleKey := by
  rw [Bool.eq_iff_iff, List.any_eq_true]
  constructor
  · rintro ⟨e, he, sole⟩
    rcases List.mem_append.1 he with column | key
    · obtain ⟨c, -, rfl⟩ := List.mem_map.1 column
      rw [ColumnRef.isSoleKey_entry, ColumnRef.isSoleKey, Bool.and_eq_true] at sole
      exact sole.1
    · split at key
      · cases key
      · rw [List.mem_singleton.1 key] at sole
        cases sole
  · intro sole
    obtain ⟨c, only⟩ := List.length_eq_one_iff.1 (beq_iff_eq.1 sole)
    obtain ⟨hc, key⟩ := mem_primaryKey.1 (only ▸ List.mem_singleton_self c)
    refine ⟨c.entry t.soleKey, List.mem_append_left _ (List.mem_map_of_mem hc), ?_⟩
    rw [ColumnRef.isSoleKey_entry, ColumnRef.isSoleKey, sole, key]
    rfl

/-- A column belongs to the key if it is the whole key or one of the names of the key is its. -/
theorem isKey_entry (h : t.Built) {c : ColumnRef} (hc : c ∈ t.columns) :
    (c.entry t.soleKey).isKey t.keyNames = c.constraints.primaryKey := by
  have shape : (c.entry t.soleKey).isKey t.keyNames
      = (c.isSoleKey t.soleKey || t.keyNames.contains c.name) := by
    rw [← c.isSoleKey_entry]
    rfl
  rw [shape, ColumnRef.isSoleKey, keyNames]
  cases t.soleKey with
  | true => exact Bool.or_false _
  | false =>
    rw [Bool.false_and, Bool.false_or, if_neg Bool.false_ne_true, Bool.eq_iff_iff,
      List.contains_iff_mem, List.mem_map]
    constructor
    · rintro ⟨a, ha, same⟩
      obtain ⟨ha, key⟩ := mem_primaryKey.1 ha
      rw [← h.primaryKey_eq a ha c hc same]
      exact key
    · intro key
      exact ⟨c, mem_primaryKey.2 ⟨hc, key⟩, rfl⟩

/-- **The entries of a table determine how its columns are defined.** -/
theorem sameDefinition_of_entries_eq (ht : t.Built) (hu : u.Built) (same : t.entries = u.entries) :
    List.Forall₂ (ColumnRef.SameDefinition t.soleKey) t.columns u.columns := by
  have sole : t.soleKey = u.soleKey := by
    rw [← any_isSoleKey, same, any_isSoleKey]
  have names : t.keyNames = u.keyNames := by
    rw [← keyNames_entries, same, keyNames_entries]
  have columns : t.columns.map (·.entry t.soleKey) = u.columns.map (·.entry u.soleKey) := by
    rw [← filter_entries, same, filter_entries]
  -- Entry and key membership together are a function of the entry, so they can be compared at once.
  have definitions {t : Table} (h : t.Built) :
      t.columns.map (fun c => (c.entry t.soleKey, c.constraints.primaryKey))
        = (t.columns.map (·.entry t.soleKey)).map fun e => (e, e.isKey t.keyNames) := by
    rw [List.map_map]
    exact List.map_congr_left fun c hc => congrArg (Prod.mk _) (isKey_entry h hc).symm
  have paired : t.columns.map (fun c => (c.entry t.soleKey, c.constraints.primaryKey))
      = u.columns.map fun c => (c.entry t.soleKey, c.constraints.primaryKey) := by
    rw [definitions ht, columns, names, ← definitions hu, sole]
  rw [← List.forall₂_eq_eq_eq, List.forall₂_map_left_iff, List.forall₂_map_right_iff] at paired
  exact paired.imp fun c c' h => ColumnRef.sameDefinition_iff.2 (Prod.mk.injEq .. ▸ h)

theorem names_primaryKey {soleKey : Bool} {cs cs' : List ColumnRef}
    (h : List.Forall₂ (ColumnRef.SameDefinition soleKey) cs cs') :
    (cs.filter (·.constraints.primaryKey)).map ColumnRef.name
      = (cs'.filter (·.constraints.primaryKey)).map ColumnRef.name := by
  induction h with
  | nil => rfl
  | @cons c c' cs cs' same _ ih =>
    rw [List.filter_cons, List.filter_cons, ← same.primaryKey]
    split
    · rw [List.map_cons, List.map_cons, same.name, ih]
    · exact ih

/-- How the columns are defined determines the entries. -/
theorem entries_eq_of_sameDefinition
    (h : List.Forall₂ (ColumnRef.SameDefinition t.soleKey) t.columns u.columns) :
    t.entries = u.entries := by
  have key : t.primaryKey.map ColumnRef.name = u.primaryKey.map ColumnRef.name :=
    names_primaryKey h
  have sole : t.soleKey = u.soleKey := by
    have length := congrArg List.length key
    rw [List.length_map, List.length_map] at length
    rw [soleKey, soleKey, length]
  have names : t.keyNames = u.keyNames := by
    rw [keyNames, keyNames, sole, key]
  have columns : t.columns.map (·.entry t.soleKey) = u.columns.map (·.entry u.soleKey) := by
    rw [← sole, ← List.forall₂_eq_eq_eq, List.forall₂_map_left_iff, List.forall₂_map_right_iff]
    exact h.imp fun c c' same => (ColumnRef.sameDefinition_iff.1 same).1
  rw [entries, entries, columns, names]

end Table

/-! ## Tables that were built -/

theorem ColumnRef.sound_clauses {c : ColumnRef} (valid : ∀ fk, c.constraints.foreignKey = some fk →
    ∀ n, fk.Names n → isValidName n = true) (soleKey : Bool) :
    ∀ x ∈ c.clauses soleKey, x.Sound := by
  intro x hx
  rcases mem_clauses.1 hx with key | ⟨-, rfl⟩ | ⟨v, -, rfl⟩ | ⟨fk, found, hx⟩
  · rcases mem_keyClauses.1 key with ⟨-, rfl⟩ | ⟨-, -, rfl⟩ | ⟨-, -, rfl⟩ <;> trivial
  · trivial
  · exact ⟨v, rfl⟩
  · rcases ForeignKey.mem_clauses.1 hx with rfl | ⟨a, -, rfl⟩ | ⟨a, -, rfl⟩
    · exact ⟨valid fk found _ (.inl rfl), valid fk found _ (.inr rfl)⟩
    · trivial
    · trivial

namespace Table

variable {t u : Table}

/-- The parts of the definition of a table that was built can be read back, if the names it refers
to are valid. -/
theorem Built.sound (h : t.Built) (valid : ∀ n ∈ t.identifiers, isValidName n = true) :
    t.Sound where
  name := h.valid
  nonempty := by
    have columns := h.columns_ne_nil
    intro none
    rw [entries, List.append_eq_nil_iff, List.map_eq_nil_iff] at none
    exact columns none.1
  entries := by
    intro e he
    rcases List.mem_append.1 he with column | key
    · obtain ⟨c, hc, rfl⟩ := List.mem_map.1 column
      refine ⟨(h.column c hc).valid, ⟨_, c.type.descriptor.kind, rfl⟩, ?_⟩
      refine c.sound_clauses (fun fk found n hn => ?_) t.soleKey
      exact valid n (mem_identifiers.2 (.inr ⟨c, hc, .inr ⟨fk, found, hn⟩⟩))
    · split at key
      · cases key
      next nonempty =>
        rw [List.mem_singleton.1 key]
        refine ⟨fun none => nonempty (List.isEmpty_iff.2 none), fun n hn => ?_⟩
        obtain ⟨c, hc, rfl⟩ := mem_columns_of_mem_keyNames hn
        exact (h.column c hc).valid

/-- Tables with valid names have one text of their definitions exactly if they are defined alike. -/
theorem Built.sameText_iff {d : Dialect} (hd : d.Delimits) (ht : t.Built)
    (hu : u.Built) (valid : ∀ n ∈ t.identifiers, isValidName n = true)
    (valid' : ∀ n ∈ u.identifiers, isValidName n = true) :
    t.createSql d = u.createSql d ↔ t.name = u.name
      ∧ List.Forall₂ (ColumnRef.SameDefinition t.soleKey) t.columns u.columns := by
  constructor
  · intro same
    obtain ⟨name, entries⟩ :=
      entries_eq_of_createSql_eq hd (ht.sound valid) (hu.sound valid') same
    exact ⟨name, sameDefinition_of_entries_eq ht hu entries⟩
  · rintro ⟨name, columns⟩
    rw [t.createSql_eq_sqlText, u.createSql_eq_sqlText, pieces, pieces, name,
      entries_eq_of_sameDefinition columns]

end Table

/-- **The text of a table definition determines what is defined, and is determined by it.** Names
referred to are asked to be valid, since nobody looks at them; other names are. -/
theorem Crafted.createSql_eq_iff {d : Dialect} (hd : d.Delimits)
    {started started' : List (SetId × String)} {handles handles' : List ColumnRef}
    {drafts drafts' : List TableDraft} {tables tables' : List Table}
    (h : Crafted started handles drafts tables) (h' : Crafted started' handles' drafts' tables')
    {t u : Table} (ht : t ∈ tables) (hu : u ∈ tables')
    (valid : ∀ c ∈ t.columns, ∀ fk, c.constraints.foreignKey = some fk →
      isValidName fk.table = true)
    (valid' : ∀ c ∈ u.columns, ∀ fk, c.constraints.foreignKey = some fk →
      isValidName fk.table = true) :
    t.createSql d = u.createSql d ↔ t.name = u.name
      ∧ List.Forall₂ (ColumnRef.SameDefinition t.soleKey) t.columns u.columns :=
  Table.Built.sameText_iff hd (h.built t ht) (h'.built u hu)
    (h.identifiers_valid ht valid) (h'.identifiers_valid hu valid')

/-! ### Tables that differ -/

namespace Crafted

def songKey (nullable : Bool) : Column .int64 where
  ref :=
    { key := ⟨⟨1⟩, "id"⟩
      qualifier := "song"
      type := (⟨.int64, nullable⟩ : Descriptor .int64).erase
      constraints := { primaryKey := true } }
  descriptor := ⟨.int64, nullable⟩

/-- A table of one column, its key, which may be NULL or not. -/
def song (nullable : Bool) : Table := ⟨⟨1⟩, "song", [(songKey nullable).ref]⟩

theorem of_song (nullable : Bool) :
    Crafted [(⟨1⟩, "song")] [(songKey nullable).ref] [] [song nullable] := by
  let spec : ColumnSpec .int64 := { name := "id", kind := .int64 }
  let mods : List (ColumnModifier .int64) := .primaryKey :: if nullable then [.nullable] else []
  let begun : TableDraft := ⟨⟨1⟩, "song", []⟩
  have free : begun.checkName "id" = .ok () := rfl
  have added : begun.add (mods.foldl ColumnSpec.apply spec)
      = .ok (songKey nullable, ⟨⟨1⟩, "song", [(songKey nullable).ref]⟩) := by
    cases nullable <;> exact TableDraft.add_of_checkName rfl free rfl
  have uses : ∀ m ∈ mods, m.Uses [] := by
    cases nullable <;> simp [mods, ColumnModifier.Uses]
  have complete : Crafted [(⟨1⟩, "song")] [(songKey nullable).ref]
      ([] ++ [⟨⟨1⟩, "song", [(songKey nullable).ref]⟩]) [] :=
    .add (.draft "song" .start (List.forall_mem_nil _)) uses added
  have valid : validateName "song" = .ok () := rfl
  refine .build complete ?_
  rw [TableDraft.build, valid]
  rfl

/-- A reference to another table shows; that the key may be NULL does not. -/
theorem createSql_referring_ne_and_song_eq :
    (referring "artist").createSql .generic ≠ (referring "label").createSql .generic
      ∧ (song true).createSql .generic = (song false).createSql .generic := by
  have referred {name : String} (h : isValidName name = true) : ∀ c ∈ (referring name).columns,
      ∀ fk, c.constraints.foreignKey = some fk → isValidName fk.table = true := by
    refine List.forall_mem_cons.2 ⟨nofun, List.forall_mem_singleton.2 fun fk found => ?_⟩
    cases found
    exact h
  have unreferred (nullable : Bool) : ∀ c ∈ (song nullable).columns,
      ∀ fk, c.constraints.foreignKey = some fk → isValidName fk.table = true :=
    List.forall_mem_singleton.2 nofun
  have delimits : Dialect.generic.Delimits := ⟨fun _ => rfl, rfl⟩
  constructor
  · intro same
    obtain ⟨-, columns⟩ := (createSql_eq_iff delimits (of_referring "artist")
      (of_referring "label") List.mem_cons_self List.mem_cons_self (referred rfl)
      (referred rfl)).1 same
    cases columns with
    | cons _ columns =>
      cases columns with
      | cons artist _ => exact absurd artist.foreignKey (by decide)
  · refine (createSql_eq_iff delimits (of_song true) (of_song false) List.mem_cons_self
      List.mem_cons_self (unreferred true) (unreferred false)).2 ⟨rfl, .cons ?_ .nil⟩
    exact ⟨rfl, rfl, rfl, nofun, rfl, rfl, rfl, fun _ => rfl⟩

end Crafted
end TypedSql
