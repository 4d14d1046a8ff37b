import TypedSql.Proofs.Schema.Built
import TypedSql.Proofs.Schema.Entries

/-!
# Names in table definitions

Several drafts may be open at a time. A column added to a draft can be used at once, before anyone
has looked at the name of the draft: the name is checked when the table is built, and that may fail
or never happen. Other tables may refer to the column all the same.

**Theorem (`Crafted.identifiers_valid_iff`).** The names in the definition of a table that was built
are valid exactly if the drafts it refers to have valid names. Any name that is not valid is that of
a table referred to which was never built.

The invariant is about the columns handed out so far, those of drafts and tables included: a column
has a valid name, is qualified by the name of the draft that began with its identity, and refers to
a column of which the same holds.
-/

namespace TypedSql

/-! ## The names of a definition -/

def Piece.name? : Piece → Option String
  | .name n => some n
  | _ => none

/-- The names among the pieces. -/
def Piece.names (ps : List Piece) : List String := ps.filterMap Piece.name?

theorem Piece.names_append (ps qs : List Piece) :
    Piece.names (ps ++ qs) = Piece.names ps ++ Piece.names qs :=
  List.filterMap_append

theorem Piece.names_separated (s : String) (pss : List (List Piece)) :
    Piece.names (Piece.separated s pss) = pss.flatMap Piece.names := by
  induction pss with
  | nil => rfl
  | cons ps pss ih =>
    cases pss with
    | nil => rw [separated, List.flatMap_singleton]
    | cons qs pss =>
      rw [separated, Piece.names_append, List.flatMap_cons, ← ih]
      · rfl
      · exact List.cons_ne_nil qs pss

/-- The names that the definition of a table writes. -/
def Table.identifiers (t : Table) : List String := Piece.names t.pieces

/-- The name is that of the table referred to, or that of the column. -/
def ForeignKey.Names (fk : ForeignKey) (n : String) : Prop := n = fk.table ∨ n = fk.column

theorem ForeignKey.mem_names_clauses {fk : ForeignKey} {n : String} :
    n ∈ Piece.names (fk.clauses.flatMap Clause.pieces) ↔ fk.Names n := by
  obtain ⟨id, table, column, onDelete, onUpdate⟩ := fk
  cases onDelete <;> cases onUpdate <;>
    simp [clauses, Clause.pieces, Piece.names, Piece.name?, Names, eq_comm]

theorem ColumnRef.mem_names_entry {c : ColumnRef} {soleKey : Bool} {n : String} :
    n ∈ Piece.names (c.entry soleKey).pieces
      ↔ n = c.name ∨ ∃ fk, c.constraints.foreignKey = some fk ∧ fk.Names n := by
  have key : Piece.names ((c.keyClauses soleKey).flatMap Clause.pieces) = [] := by
    rw [keyClauses]
    cases c.isSoleKey soleKey <;> cases c.constraints.autoIncrement <;>
      cases c.type.nullable <;> rfl
  have unique : Piece.names ((if c.constraints.unique then [.unique] else []).flatMap
      Clause.pieces) = [] := by
    cases c.constraints.unique <;> rfl
  have default : Piece.names ((c.constraints.default.map fun v =>
      Clause.default v.literal).toList.flatMap Clause.pieces) = [] := by
    cases c.constraints.default <;> rfl
  have name : Piece.names (c.entry soleKey).pieces
      = c.name :: Piece.names ((c.clauses soleKey).flatMap Clause.pieces) := rfl
  rw [name, List.mem_cons, clauses, List.flatMap_append, List.flatMap_append, List.flatMap_append,
    Piece.names_append, Piece.names_append, Piece.names_append, key, unique, default,
    List.nil_append, List.nil_append, List.nil_append]
  refine or_congr_right ?_
  cases c.constraints.foreignKey with
  | none => simp [Piece.names]
  | some fk => simpa using fk.mem_names_clauses

theorem Entry.mem_names_primaryKey {names : List String} {n : String} :
    n ∈ Piece.names (Entry.primaryKey names).pieces ↔ n ∈ names := by
  have shape : Piece.names (Entry.primaryKey names).pieces
      = Piece.names (Piece.separated ", " (names.map fun name => [.name name])) ++ [] := by
    rw [pieces, List.cons_append]
    exact Piece.names_append _ _
  rw [shape, List.append_nil, Piece.names_separated, List.flatMap_map]
  simp [Piece.names, Piece.name?]

theorem Table.mem_columns_of_mem_keyNames {t : Table} {n : String} (hn : n ∈ t.keyNames) :
    ∃ c ∈ t.columns, n = c.name := by
  rw [keyNames] at hn
  split at hn
  · cases hn
  · obtain ⟨c, hc, rfl⟩ := List.mem_map.1 hn
    exact ⟨c, (List.mem_filter.1 hc).1, rfl⟩

theorem Table.mem_identifiers {t : Table} {n : String} :
    n ∈ t.identifiers ↔ n = t.name ∨ ∃ c ∈ t.columns,
      n = c.name ∨ ∃ fk, c.constraints.foreignKey = some fk ∧ fk.Names n := by
  have names : t.identifiers
      = t.name :: (Piece.names (Piece.separated ", " (t.entries.map Entry.pieces)) ++ []) := by
    rw [identifiers, pieces, List.cons_append, List.cons_append, List.cons_append]
    exact congrArg (t.name :: ·) (Piece.names_append _ _)
  rw [names, List.append_nil, List.mem_cons, Piece.names_separated, List.flatMap_map]
  refine or_congr_right ?_
  simp only [List.mem_flatMap, entries, List.mem_append, List.mem_map]
  constructor
  · rintro ⟨e, ⟨c, hc, rfl⟩ | he, hn⟩
    · exact ⟨c, hc, ColumnRef.mem_names_entry.1 hn⟩
    · split at he
      · cases he
      · rw [List.mem_singleton.1 he] at hn
        obtain ⟨c, hc, rfl⟩ := mem_columns_of_mem_keyNames (Entry.mem_names_primaryKey.1 hn)
        exact ⟨c, hc, .inl rfl⟩
  · rintro ⟨c, hc, hn⟩
    exact ⟨_, .inl ⟨c, hc, rfl⟩, ColumnRef.mem_names_entry.2 hn⟩

/-! ## Definitions with handles -/

/-- The foreign key is to a draft that was begun, by the name it was begun with, and to a column of
a valid name. -/
structure ForeignKey.Known (started : List (SetId × String)) (fk : ForeignKey) : Prop where
  table : (fk.tableId, fk.table) ∈ started
  column : isValidName fk.column = true

/-- The column is one of a draft that was begun, and so is what it refers to. -/
structure ColumnRef.Known (started : List (SetId × String)) (c : ColumnRef) : Prop where
  owner : (c.key.set, c.qualifier) ∈ started
  name : isValidName c.name = true
  foreignKey : ∀ fk, c.constraints.foreignKey = some fk → fk.Known started

theorem ColumnRef.Known.cons {started : List (SetId × String)} {c : ColumnRef}
    (h : c.Known started) (p : SetId × String) : c.Known (p :: started) where
  owner := List.mem_cons_of_mem _ h.owner
  name := h.name
  foreignKey fk found :=
    ⟨List.mem_cons_of_mem _ (h.foreignKey fk found).table, (h.foreignKey fk found).column⟩

/-- The step refers to nothing, to a column handed out, or to something that no table declares. -/
def ColumnModifier.Uses {t : ValueType} (handles : List ColumnRef) : ColumnModifier t → Prop
  | .references target => target ∈ handles ∨ target.isTableColumn = false
  | _ => True

namespace ColumnSpec

variable {t : ValueType} {started : List (SetId × String)} {handles : List ColumnRef}

/-- What the column refers to so far is known. -/
def Refers (started : List (SetId × String)) (s : ColumnSpec t) : Prop :=
  ∀ fk, s.constraints.foreignKey = some fk → fk.Known started

theorem refers_new (started : List (SetId × String)) (name : String) (kind : Kind t) :
    ({ name, kind } : ColumnSpec t).Refers started :=
  nofun

theorem Refers.updateForeignKey {s : ColumnSpec t} (h : s.Refers started)
    {f : ForeignKey → ForeignKey} (keeps : ∀ fk, fk.Known started → (f fk).Known started) :
    (s.updateForeignKey f).Refers started := by
  intro fk found
  obtain ⟨old, wasFound, rfl⟩ := Option.map_eq_some_iff.1 found
  exact keeps old (h old wasFound)

theorem Refers.apply (known : ∀ c ∈ handles, c.Known started) {s : ColumnSpec t}
    (h : s.Refers started) {m : ColumnModifier t} (uses : m.Uses handles) :
    (s.apply m).Refers started := by
  cases m with
  | notNull | nullable | primaryKey | unique | autoIncrement | default => exact h
  | references target =>
    rw [ColumnSpec.apply]
    split
    next isTable =>
      rcases uses with given | other
      · intro fk found
        cases found
        exact ⟨(known target given).owner, (known target given).name⟩
      · rw [isTable] at other
        cases other
    next => exact h
  | onDelete action => exact h.updateForeignKey fun fk known => ⟨known.table, known.column⟩
  | onUpdate action => exact h.updateForeignKey fun fk known => ⟨known.table, known.column⟩

theorem Refers.foldl (known : ∀ c ∈ handles, c.Known started) {mods : List (ColumnModifier t)}
    (uses : ∀ m ∈ mods, m.Uses handles) {s : ColumnSpec t} (h : s.Refers started) :
    (mods.foldl ColumnSpec.apply s).Refers started := by
  induction mods generalizing s with
  | nil => exact h
  | cons m mods ih =>
    rw [List.forall_mem_cons] at uses
    exact ih uses.2 (h.apply known uses.1)

end ColumnSpec

/-- Drafts are begun in any number and in any order, each with an identity of its own and a name
that nobody looks at. Adding to a draft hands out columns, which columns of any draft can refer to
from then on, whatever becomes of the draft they were added to. -/
inductive Crafted :
    List (SetId × String) → List ColumnRef → List TableDraft → List Table → Prop
  | start : Crafted [] [] [] []
  | draft {started : List (SetId × String)} {handles : List ColumnRef} {drafts : List TableDraft}
    {tables : List Table} {id : SetId} (name : String) :
    Crafted started handles drafts tables → (∀ p ∈ started, p.1 ≠ id) →
      Crafted ((id, name) :: started) handles ({ id, name } :: drafts) tables
  | add {started : List (SetId × String)} {handles : List ColumnRef}
    {front back : List TableDraft} {d d' : TableDraft} {tables : List Table} {t : ValueType}
    {name : String} {kind : Kind t} {mods : List (ColumnModifier t)} {c : Column t} :
    Crafted started handles (front ++ d :: back) tables → (∀ m ∈ mods, m.Uses handles) →
      d.add (mods.foldl ColumnSpec.apply { name, kind }) = .ok (c, d') →
        Crafted started (c.ref :: handles) (front ++ d' :: back) tables
  | addComposite {started : List (SetId × String)} {handles : List ColumnRef}
    {front back : List TableDraft} {d d' : TableDraft} {tables : List Table} {α : Type}
    {name : String} {kind : CompositeKind α} {nullable : Bool} {c : CompositeColumn α} :
    Crafted started handles (front ++ d :: back) tables →
      d.addComposite name kind nullable = .ok (c, d') →
        Crafted started (c.parts ++ handles) (front ++ d' :: back) tables
  | giveUp {started : List (SetId × String)} {handles : List ColumnRef}
    {front back : List TableDraft} {d : TableDraft} {tables : List Table} :
    Crafted started handles (front ++ d :: back) tables →
      Crafted started handles (front ++ back) tables
  | build {started : List (SetId × String)} {handles : List ColumnRef}
    {front back : List TableDraft} {d : TableDraft} {t : Table} {tables : List Table} :
    Crafted started handles (front ++ d :: back) tables → d.build = .ok t →
      Crafted started handles (front ++ back) (t :: tables)

namespace Crafted

variable {started : List (SetId × String)} {handles : List ColumnRef} {drafts : List TableDraft}
variable {tables : List Table}

/-- One draft among others, by itself in front. -/
theorem forall_mem_middle {P : TableDraft → Prop} {front back : List TableDraft} {d : TableDraft} :
    (∀ x ∈ front ++ d :: back, P x) ↔ P d ∧ ∀ x ∈ front ++ back, P x := by
  rw [List.forall_mem_append, List.forall_mem_cons, List.forall_mem_append]
  exact and_left_comm

/-- The drafts are drafts that steps of definition lead to. -/
theorem defined (h : Crafted started handles drafts tables) : ∀ d ∈ drafts, d.Defined := by
  induction h with
  | start => exact List.forall_mem_nil _
  | draft name _ _ ih => exact List.forall_mem_cons.2 ⟨.start _ name, ih⟩
  | add _ _ added ih =>
    obtain ⟨here, others⟩ := forall_mem_middle.1 ih
    exact forall_mem_middle.2 ⟨.add here added, others⟩
  | addComposite _ added ih =>
    obtain ⟨here, others⟩ := forall_mem_middle.1 ih
    exact forall_mem_middle.2 ⟨.addComposite here added, others⟩
  | giveUp _ ih | build _ _ ih => exact (forall_mem_middle.1 ih).2

theorem built (h : Crafted started handles drafts tables) : ∀ t ∈ tables, t.Built := by
  induction h with
  | start => exact List.forall_mem_nil _
  | draft _ _ _ ih | add _ _ _ ih | addComposite _ _ ih | giveUp _ ih => exact ih
  | build h built ih =>
    exact List.forall_mem_cons.2 ⟨⟨_, (forall_mem_middle.1 h.defined).1, built⟩, ih⟩

/-- No two drafts are begun with one identity. -/
theorem name_eq (h : Crafted started handles drafts tables) :
    ∀ p ∈ started, ∀ q ∈ started, p.1 = q.1 → p.2 = q.2 := by
  induction h with
  | start => exact List.forall_mem_nil _
  | draft name _ fresh ih =>
    intro p hp q hq same
    rcases List.mem_cons.1 hp with rfl | hp <;> rcases List.mem_cons.1 hq with rfl | hq
    · rfl
    · exact absurd same.symm (fresh q hq)
    · exact absurd same (fresh p hp)
    · exact ih p hp q hq same
  | add _ _ _ ih | addComposite _ _ ih | giveUp _ ih | build _ _ ih => exact ih

/-- The drafts, the tables and the columns handed out belong to drafts that were begun. -/
structure Traced (started : List (SetId × String)) (handles : List ColumnRef)
    (drafts : List TableDraft) (tables : List Table) : Prop where
  handle : ∀ c ∈ handles, c.Known started
  draft : ∀ d ∈ drafts, (d.id, d.name) ∈ started ∧ ∀ c ∈ d.columns, c ∈ handles
  table : ∀ t ∈ tables, (t.id, t.name) ∈ started ∧ ∀ c ∈ t.columns, c ∈ handles

namespace Traced

theorem more (h : Traced started handles drafts tables) {new : List ColumnRef}
    (known : ∀ c ∈ new, c.Known started) : Traced started (new ++ handles) drafts tables where
  handle := List.forall_mem_append.2 ⟨known, h.handle⟩
  draft d hd := ⟨(h.draft d hd).1, fun c hc => List.mem_append_right _ ((h.draft d hd).2 c hc)⟩
  table t ht := ⟨(h.table t ht).1, fun c hc => List.mem_append_right _ ((h.table t ht).2 c hc)⟩

variable {front back : List TableDraft} {d : TableDraft}

theorem middle (h : Traced started handles (front ++ d :: back) tables) :
    (d.id, d.name) ∈ started ∧ ∀ c ∈ d.columns, c ∈ handles :=
  (forall_mem_middle.1 h.draft).1

/-- The draft in the middle has been continued. -/
theorem replace (h : Traced started handles (front ++ d :: back) tables) {columns : List ColumnRef}
    (given : ∀ c ∈ columns, c ∈ handles) :
    Traced started handles (front ++ { d with columns } :: back) tables where
  handle := h.handle
  draft := forall_mem_middle.2 ⟨⟨h.middle.1, given⟩, (forall_mem_middle.1 h.draft).2⟩
  table := h.table

theorem remove (h : Traced started handles (front ++ d :: back) tables) :
    Traced started handles (front ++ back) tables where
  handle := h.handle
  draft := (forall_mem_middle.1 h.draft).2
  table := h.table

/-- Columns are handed out when they are added to the draft in the middle. -/
theorem extend (h : Traced started handles (front ++ d :: back) tables) {new : List ColumnRef}
    (known : ∀ c ∈ new, c.Known started) :
    Traced started (new ++ handles)
      (front ++ { d with columns := d.columns ++ new } :: back) tables := by
  have traced := h.more known
  exact traced.replace
    (List.forall_mem_append.2 ⟨traced.middle.2, fun c hc => List.mem_append_left _ hc⟩)

end Traced

/-- Everything there is belongs to drafts that were begun. -/
theorem traced (h : Crafted started handles drafts tables) :
    Traced started handles drafts tables := by
  induction h with
  | start => exact ⟨List.forall_mem_nil _, List.forall_mem_nil _, List.forall_mem_nil _⟩
  | draft name _ _ ih =>
    refine ⟨fun c hc => (ih.handle c hc).cons _, ?_, ?_⟩
    · refine List.forall_mem_cons.2 ⟨⟨List.mem_cons_self, List.forall_mem_nil _⟩, ?_⟩
      exact fun d hd => ⟨List.mem_cons_of_mem _ (ih.draft d hd).1, (ih.draft d hd).2⟩
    · exact fun t ht => ⟨List.mem_cons_of_mem _ (ih.table t ht).1, (ih.table t ht).2⟩
  | @add started _ _ _ _ _ _ _ name kind _ _ _ uses added ih =>
    -- The only step that can refer to anything, and only to what was handed out before it.
    obtain ⟨-, own⟩ := TableDraft.add_eq_ok added
    obtain ⟨-, rfl, default, -, ref⟩ := TableDraft.add_eq_newColumn added
    have refers := (ColumnSpec.refers_new started name kind).foldl ih.handle uses
    refine ih.extend (List.forall_mem_singleton.2 ⟨?_, own.valid, ?_⟩)
    · rw [own.set, own.qualifier]
      exact ih.middle.1
    · rw [ref]
      exact refers
  | addComposite _ added ih =>
    obtain ⟨-, own⟩ := TableDraft.addComposite_eq_ok added
    obtain ⟨rfl, new⟩ := TableDraft.addComposite_eq_newColumn added
    refine ih.extend fun part hpart => ⟨?_, (own part hpart).valid, ?_⟩
    · rw [(own part hpart).set, (own part hpart).qualifier]
      exact ih.middle.1
    · rw [(new part hpart).2]
      exact nofun
  | giveUp _ ih => exact ih.remove
  | build _ built ih =>
    obtain ⟨-, rfl⟩ := TableDraft.build_eq_ok built
    exact ⟨ih.handle, ih.remove.draft, List.forall_mem_cons.2 ⟨ih.middle, ih.table⟩⟩

/-- A foreign key of a table that was built is known. -/
theorem foreignKey (h : Crafted started handles drafts tables) {t : Table} (ht : t ∈ tables)
    {c : ColumnRef} (hc : c ∈ t.columns) {fk : ForeignKey}
    (found : c.constraints.foreignKey = some fk) : fk.Known started :=
  (h.traced.handle c ((h.traced.table t ht).2 c hc)).foreignKey fk found

/-- A reference to a table that was built is by a valid name. -/
theorem valid_of_id_eq (h : Crafted started handles drafts tables) {u : Table} (hu : u ∈ tables)
    {fk : ForeignKey} (known : fk.Known started) (same : u.id = fk.tableId) :
    isValidName fk.table = true := by
  have named : u.name = fk.table := h.name_eq _ (h.traced.table u hu).1 _ known.table same
  exact named ▸ (h.built u hu).valid

/-- A name that is not valid can only be that of a table referred to. -/
theorem valid_or_referenced (h : Crafted started handles drafts tables) {t : Table}
    (ht : t ∈ tables) {n : String} (hn : n ∈ t.identifiers) :
    isValidName n = true
      ∨ ∃ c ∈ t.columns, ∃ fk, c.constraints.foreignKey = some fk ∧ n = fk.table := by
  rcases Table.mem_identifiers.1 hn with rfl | ⟨c, hc, rfl | ⟨fk, found, rfl | rfl⟩⟩
  · exact .inl (h.built t ht).valid
  · exact .inl ((h.built t ht).column c hc).valid
  · exact .inr ⟨c, hc, fk, found, rfl⟩
  · exact .inl (h.foreignKey ht hc found).column

/-- The names in a definition are valid if the names it refers to are. -/
theorem identifiers_valid (h : Crafted started handles drafts tables) {t : Table} (ht : t ∈ tables)
    (valid : ∀ c ∈ t.columns, ∀ fk, c.constraints.foreignKey = some fk →
      isValidName fk.table = true) :
    ∀ n ∈ t.identifiers, isValidName n = true := by
  intro n hn
  rcases h.valid_or_referenced ht hn with plain | ⟨c, hc, fk, found, rfl⟩
  · exact plain
  · exact valid c hc fk found

/-- **The names in the definition of a table that was built are valid exactly if the drafts it
refers to have valid names, and a name that is not valid is that of a table never built.** -/
theorem identifiers_valid_iff (h : Crafted started handles drafts tables) {t : Table}
    (ht : t ∈ tables) :
    (∀ d, t.createSql d = Piece.sqlText d t.pieces)
      ∧ ((∀ n ∈ t.identifiers, isValidName n = true)
        ↔ ∀ p ∈ started, p.1 ∈ t.references → isValidName p.2 = true)
      ∧ ∀ n ∈ t.identifiers, isValidName n = false →
        ∃ c ∈ t.columns, ∃ fk, c.constraints.foreignKey = some fk ∧ n = fk.table
          ∧ ∀ u ∈ tables, u.id ≠ fk.tableId := by
  refine ⟨t.createSql_eq_sqlText, ⟨?_, ?_⟩, ?_⟩
  · intro valid p hp referred
    obtain ⟨-, c, hc, fk, found, same⟩ := Table.mem_references.1 referred
    have named : fk.table = p.2 := h.name_eq _ (h.foreignKey ht hc found).table p hp same
    rw [← named]
    exact valid _ (Table.mem_identifiers.2 (.inr ⟨c, hc, .inr ⟨fk, found, .inl rfl⟩⟩))
  · intro valid
    refine h.identifiers_valid ht fun c hc fk found => ?_
    have known := h.foreignKey ht hc found
    by_cases own : fk.tableId = t.id
    · exact h.valid_of_id_eq ht known own.symm
    · exact valid _ known.table (Table.mem_references.2 ⟨own, c, hc, fk, found, rfl⟩)
  · intro n hn invalid
    rcases h.valid_or_referenced ht hn with valid | ⟨c, hc, fk, found, rfl⟩
    · rw [valid] at invalid
      cases invalid
    · refine ⟨c, hc, fk, found, rfl, fun u hu same => ?_⟩
      rw [h.valid_of_id_eq hu (h.foreignKey ht hc found) same] at invalid
      cases invalid

/-! ### A table that refers to a draft -/

/-- A draft of one column, of any name. -/
def target (name : String) : TableDraft where
  id := ⟨1⟩
  name := name
  columns := [Table.wholeColumn ⟨1⟩ name "id"]

/-- A table whose second column refers to the column of that draft. -/
def referring (name : String) : Table where
  id := ⟨2⟩
  name := "album"
  columns :=
    [Table.wholeColumn ⟨2⟩ "album" "id",
      { Table.wholeColumn ⟨2⟩ "album" "artist" with
        constraints := { foreignKey := some { tableId := ⟨1⟩, table := name, column := "id" } } }]

/-- The table can be built while the draft is open. -/
theorem of_referring (name : String) :
    Crafted [(⟨2⟩, "album"), (⟨1⟩, name)]
      ((referring name).columns.reverse ++ (target name).columns) [target name]
      [referring name] := by
  let whole (column : String) : ColumnSpec .int64 := { name := column, kind := .int64 }
  let mods : List (ColumnModifier .int64) := [.references (Table.wholeColumn ⟨1⟩ name "id")]
  let album : TableDraft := ⟨⟨2⟩, "album", []⟩
  let kept : TableDraft := ⟨⟨2⟩, "album", [Table.wholeColumn ⟨2⟩ "album" "id"]⟩
  have key_free : TableDraft.checkName ⟨⟨1⟩, name, []⟩ "id" = .ok () := rfl
  have id_free : album.checkName "id" = .ok () := rfl
  have artist_free : kept.checkName "artist" = .ok () := rfl
  have key_added : TableDraft.add ⟨⟨1⟩, name, []⟩ ([].foldl ColumnSpec.apply (whole "id"))
      = .ok (_, target name) := TableDraft.add_of_checkName rfl key_free rfl
  have id_added : album.add ([].foldl ColumnSpec.apply (whole "id")) = .ok (_, kept) :=
    TableDraft.add_of_checkName rfl id_free rfl
  have artist_added : kept.add (mods.foldl ColumnSpec.apply (whole "artist"))
      = .ok (_, ⟨⟨2⟩, "album", (referring name).columns⟩) :=
    TableDraft.add_of_checkName rfl artist_free rfl
  have key : Crafted [(⟨1⟩, name)] (target name).columns ([] ++ [target name]) [] :=
    .add (.draft name .start (List.forall_mem_nil _)) (List.forall_mem_nil _) key_added
  have begun : Crafted [(⟨2⟩, "album"), (⟨1⟩, name)] (target name).columns
      ([] ++ album :: [target name]) [] :=
    .draft "album" key (List.forall_mem_singleton.2 nofun)
  have uses : ∀ m ∈ mods, m.Uses (kept.columns ++ (target name).columns) :=
    List.forall_mem_singleton.2 (.inl (List.mem_cons_of_mem _ List.mem_cons_self))
  have complete : Crafted [(⟨2⟩, "album"), (⟨1⟩, name)]
      ((referring name).columns.reverse ++ (target name).columns)
      ([] ++ ⟨⟨2⟩, "album", (referring name).columns⟩ :: [target name]) [] :=
    .add (.add begun (List.forall_mem_nil _) id_added) uses artist_added
  have valid : validateName "album" = .ok () := rfl
  refine .build complete ?_
  rw [TableDraft.build, valid]
  rfl

/-- A reference to a draft of a valid name, built or not. -/
theorem identifiers_valid_of_artist :
    (∀ n ∈ (referring "artist").identifiers, isValidName n = true)
      ∧ Piece.sqlText .generic (referring "artist").pieces
        = "CREATE TABLE IF NOT EXISTS album (id INTEGER, "
          ++ "artist INTEGER REFERENCES artist (id))" := by
  obtain ⟨text, valid, -⟩ :=
    identifiers_valid_iff (of_referring "artist") (t := referring "artist") List.mem_cons_self
  refine ⟨valid.2 ?_, (text _).symm.trans (by decide)⟩
  intro p hp _
  rcases List.mem_cons.1 hp with rfl | hp
  · rfl
  · rw [List.mem_singleton.1 hp]
    rfl

/-- What no table can be called. -/
def unclosed : String := "x (id)); DROP TABLE y; --"

/-- **A name that fails its check is written by a table that refers to it.** The draft of that name
cannot be built, the table can, and its definition is more than one statement. -/
theorem unchecked_name_written :
    Crafted [(⟨2⟩, "album"), (⟨1⟩, unclosed)]
        ((referring unclosed).columns.reverse ++ (target unclosed).columns) [target unclosed]
        [referring unclosed]
      ∧ (target unclosed).build = .error (.invalidIdentifier unclosed)
      ∧ unclosed ∈ (referring unclosed).identifiers ∧ isValidName unclosed = false
      ∧ (referring unclosed).createSql .generic
        = "CREATE TABLE IF NOT EXISTS album (id INTEGER, artist INTEGER REFERENCES "
          ++ unclosed ++ " (id))" := by
  refine ⟨of_referring _, rfl, ?_, rfl, ?_⟩
  · exact Table.mem_identifiers.2 (.inr ⟨_, List.mem_cons_of_mem _ List.mem_cons_self,
      .inr ⟨_, rfl, .inl rfl⟩⟩)
  · decide

end Crafted
end TypedSql
