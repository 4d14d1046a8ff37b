import TypedSql.Proofs.Query.Naming
import TypedSql.Proofs.Render.Builds
import TypedSql.Proofs.Render.Pooling

/-!
# The select list and the result columns

**Theorem (`Select.list_describes_columns`).** The text of a query that was built has one entry for
each result column, in the same order. The result column carries what is known of the column or
projection written there, under the name SQL gives to the entry; and no two share a name. Names are
given by the rule, whether the query is built or not, and a label that repeats one is the mistake
reported when nothing else is wrong.

Rendering and the result columns go through the select list on their own, each with the names given
before. What holds of the first entry of both (`listed_cons`) is carried to all of them by an
induction over the items, with those names generalized.
-/

namespace TypedSql

/-! ## Entries of the text -/

/-- A column as it is written, with its qualifier if there is one. -/
def ColumnRef.reference (d : Dialect) (c : ColumnRef) : String :=
  if c.qualifier.isEmpty then d.spell c.name else d.spell c.qualifier ++ "." ++ d.spell c.name

/-- What an entry of the text and a result column have to do with an item selected. The result
column has the name behind `AS`, and without one the name of the column written. -/
inductive Listed (d : Dialect) (scopes : List Scope) :
    ResultItem → String → ResultColumn → Prop where
  | bare (c : ColumnRef) :
    Listed d scopes (.column c) (c.reference d) ⟨c.name, c.type, c.key, c.origins⟩
  | renamed (c : ColumnRef) (name : String) (differs : name ≠ c.name) :
    Listed d scopes (.column c) (c.reference d ++ (" AS " ++ d.spell name))
      ⟨name, c.type, c.key, c.origins⟩
  | labelled (key : ColumnKey) (e : Expr) (type : AnyDescriptor) :
    Listed d scopes (.labelled key e type)
      (Piece.sqlText d (e.pieces scopes) ++ (" AS " ++ d.spell key.name)) ⟨key.name, type, key, []⟩

/-- The items of the select list; without any, the columns of the source. -/
def listedItems (source : Level) (items : List ResultItem) : List ResultItem :=
  match items with
  | [] => (Scope.ofSource source).columns.map .column
  | items => items

namespace Select

def listed (q : Select) : List ResultItem := listedItems q.source q.items

/-- What is written behind the select list. -/
def clauses (q : Select) : List Piece :=
  let scopes := [Scope.ofSource q.source]
  fromPieces scopes q.source
    ++ conditionPieces " WHERE " scopes q.filter
    ++ clausePieces " GROUP BY " (listPieces scopes q.groupBy)
    ++ conditionPieces " HAVING " scopes q.having
    ++ clausePieces " ORDER BY " (sortPieces scopes q.orderBy)
    ++ limitPieces q.limit q.offset

/-- The select list of the text is these entries. There is one result column for each of them, in
the same order, and the two are about the same item. No two result columns share a name. -/
structure Described (q : Select) (d : Dialect) (seed : Seed) (texts : List String) : Prop where
  text : seed.sql = (if q.distinct then "SELECT DISTINCT " else "SELECT ")
    ++ String.intercalate ", " texts ++ Piece.sqlText d q.clauses
  columns : seed.columns = q.resultColumns
  length_texts : texts.length = q.listed.length
  length_columns : seed.columns.length = q.listed.length
  listed (k : Nat) (item : ResultItem) (text : String) (column : ResultColumn) :
    q.listed[k]? = some item → texts[k]? = some text → seed.columns[k]? = some column →
      Listed d [Scope.ofSource q.source] item text column
  names : (seed.columns.map ResultColumn.name).Nodup

/-- The label of an entry is the name given to an earlier one. -/
def Repeats (q : Select) (name : String) : Prop :=
  ∃ (i : Nat) (key : ColumnKey) (type : AnyDescriptor),
    q.entries[i]? = some (.labelled key type) ∧ key.name = name
      ∧ ∃ c ∈ q.resultColumns.take i, c.name = name

/-- Nothing is wrong but perhaps the names of the result. -/
def OtherwiseFaultless (q : Select) : Prop :=
  q.errors = [] ∧ q.entries ≠ []
    ∧ ∀ m ∈ (Node.select [] q).children, ∀ n, m.Reaches n → n.Faultless

end Select

variable {d : Dialect} {scopes : List Scope}

def ResultItem.pieces (scopes : List Scope) : ResultItem → List Piece
  | .column c => Piece.qualified c.qualifier c.name
  | .labelled _ e _ => e.pieces scopes

theorem sqlText_reference (c : ColumnRef) :
    Piece.sqlText d (Piece.qualified c.qualifier c.name) = c.reference d := by
  unfold Piece.qualified ColumnRef.reference
  split
  · rw [Piece.sqlText_singleton]
    rfl
  · rw [Piece.sqlText_cons, Piece.sqlText_cons, Piece.sqlText_singleton, String.append_assoc]
    rfl

theorem itemPieces_eq (items : List ResultItem) :
    itemPieces scopes items = items.map (ResultItem.pieces scopes) := by
  induction items with
  | nil => rfl
  | cons item items ih => cases item <;> exact congrArg _ ih

theorem listedEntries_eq (source : Level) (items : List ResultItem) :
    listedEntries source items = (listedItems source items).map ResultItem.entry := by
  cases items with
  | nil =>
    rw [listedEntries, listedItems, List.map_map]
    rfl
  | cons item items => rfl

theorem listedPieces_eq (source : Level) (items : List ResultItem) :
    listedPieces source items (itemPieces scopes items)
      = (listedItems source items).map (ResultItem.pieces scopes) := by
  cases items with
  | nil =>
    rw [listedPieces, listedItems, List.map_map]
    rfl
  | cons item items => exact itemPieces_eq _

/-! ## Entry by entry -/

/-- The texts of the entries of a select list, behind the names that are taken. -/
def entryTexts (d : Dialect) (scopes : List Scope) (taken : List String)
    (items : List ResultItem) : List String :=
  (selectList taken ((nameEntries taken (items.map ResultItem.entry)).zip
    (items.map (ResultItem.pieces scopes)))).map (Piece.sqlText d)

/-- What is written behind an entry. -/
def NamedEntry.label (d : Dialect) (e : NamedEntry) : String :=
  match e.entry with
  | .labelled .. => " AS " ++ d.spell e.name
  | .column _ => if e.renamed then " AS " ++ d.spell e.name else ""

theorem map_selectList_cons (seen : List String) (e : NamedEntry) (ps : List Piece)
    (rest : List (NamedEntry × List Piece)) :
    (selectList seen ((e, ps) :: rest)).map (Piece.sqlText d)
      = (Piece.sqlText d ps ++ e.label d)
        :: (selectList (e.name :: seen) rest).map (Piece.sqlText d) := by
  have label : Piece.sqlText d [.text " AS ", .name e.name] = " AS " ++ d.spell e.name := by
    rw [Piece.sqlText_cons, Piece.sqlText_singleton]
    rfl
  have silent : Piece.sqlText d (if seen.contains e.name then
      [Piece.fault (.duplicateColumn "result" e.name)] else []) = "" := by
    split
    · exact sqlText_faults [_]
    · rfl
  rw [selectList, List.map_cons, Piece.sqlText_append, Piece.sqlText_append, silent,
    String.empty_append, NamedEntry.label]
  obtain ⟨entry, name, renamed⟩ := e
  cases entry with
  | labelled key type => rw [label]
  | column c =>
    cases renamed with
    | true => exact congrArg (fun behind => (_ ++ behind) :: _) label
    | false => rfl

/-- The first entry of the text and the first result column, with what is behind them. -/
theorem listed_cons (d : Dialect) (scopes : List Scope) (taken : List String) (item : ResultItem)
    (items : List ResultItem) :
    ∃ (text : String) (column : ResultColumn),
      Listed d scopes item text column
      ∧ entryTexts d scopes taken (item :: items)
        = text :: entryTexts d scopes (column.name :: taken) items
      ∧ (nameEntries taken ((item :: items).map ResultItem.entry)).map NamedEntry.resultColumn
        = column :: (nameEntries (column.name :: taken) (items.map ResultItem.entry)).map
          NamedEntry.resultColumn := by
  cases item with
  | labelled key e type =>
    exact ⟨_, _, .labelled key e type, map_selectList_cons _ _ _ _, rfl⟩
  | column c =>
    have first (e : NamedEntry) (rest : List (NamedEntry × List Piece)) :
        (selectList taken ((e, ResultItem.pieces scopes (.column c)) :: rest)).map (Piece.sqlText d)
          = (c.reference d ++ e.label d)
            :: (selectList (e.name :: taken) rest).map (Piece.sqlText d) := by
      rw [map_selectList_cons, ResultItem.pieces, sqlText_reference]
    by_cases clash : c.name ∈ taken
    · have fresh : freshName taken c.name ≠ c.name :=
        fun same => freshName_not_mem taken c.name (same.symm ▸ clash)
      refine ⟨_, _, .renamed c _ fresh, ?_, ?_⟩
      · rw [entryTexts, List.map_cons, List.map_cons, ResultItem.entry, nameEntries_of_mem clash]
        exact first _ _
      · rw [List.map_cons, ResultItem.entry, nameEntries_of_mem clash]
        rfl
    · refine ⟨_, _, .bare c, ?_, ?_⟩
      · rw [entryTexts, List.map_cons, List.map_cons, ResultItem.entry,
          nameEntries_of_not_mem clash, List.zip_cons_cons, first]
        exact congrArg (· :: _) String.append_empty
      · rw [List.map_cons, ResultItem.entry, nameEntries_of_not_mem clash]
        rfl

theorem length_entryTexts (taken : List String) (items : List ResultItem) :
    (entryTexts d scopes taken items).length = items.length := by
  induction items generalizing taken with
  | nil => rfl
  | cons item items ih =>
    obtain ⟨text, column, -, texts, -⟩ := listed_cons d scopes taken item items
    rw [texts, List.length_cons, ih, List.length_cons]

theorem listed_getElem? (taken : List String) (items : List ResultItem) {k : Nat}
    {item : ResultItem} {text : String} {column : ResultColumn} (hi : items[k]? = some item)
    (ht : (entryTexts d scopes taken items)[k]? = some text)
    (hc : ((nameEntries taken (items.map ResultItem.entry)).map NamedEntry.resultColumn)[k]?
      = some column) :
    Listed d scopes item text column := by
  induction items generalizing taken k with
  | nil => cases hi
  | cons first items ih =>
    obtain ⟨text', column', listed, texts, columns⟩ := listed_cons d scopes taken first items
    rw [texts] at ht
    rw [columns] at hc
    cases k with
    | zero =>
      cases hi
      cases ht
      cases hc
      exact listed
    | succ k => exact ih _ hi ht hc

namespace Select

theorem sqlText_pieces (q : Select) :
    Piece.sqlText d (q.pieces [])
      = (if q.distinct then "SELECT DISTINCT " else "SELECT ")
        ++ String.intercalate ", " (entryTexts d [Scope.ofSource q.source] [] q.listed)
        ++ Piece.sqlText d q.clauses := by
  obtain ⟨source, distinct, items, filter, groupBy, having, orderBy, l, o, errors⟩ := q
  have nothing : Piece.sqlText d (if (listedEntries source items).isEmpty then
      [.fault .noResultColumns] else []) = "" := by
    split
    · exact sqlText_faults [_]
    · rfl
  have entries : Piece.sqlText d (Piece.separated ", " (selectList []
        ((nameEntries [] (listedEntries source items)).zip
          (listedPieces source items (itemPieces [Scope.ofSource source] items)))))
      = String.intercalate ", "
        (entryTexts d [Scope.ofSource source] [] (listedItems source items)) := by
    rw [Piece.sqlText_separated, listedEntries_eq, listedPieces_eq]
    rfl
  rw [Select.pieces_eq]
  simp only [Piece.sqlText_append, Piece.sqlText_cons, sqlText_faults, nothing, entries, clauses,
    String.empty_append, String.append_empty, listed, Piece.sql, String.append_assoc]

theorem resultColumns_eq (q : Select) :
    q.resultColumns
      = (nameEntries [] (q.listed.map ResultItem.entry)).map NamedEntry.resultColumn := by
  rw [resultColumns, entries_eq_listedEntries, listedEntries_eq]
  rfl

/-- **The result columns are those of the text.** -/
theorem described {q : Select} {p p' : Pool} {n : Nat} {seed : Seed} (h : p.Reached n)
    (built : (Statement.query (.select q)).buildWith p d = (.ok seed, p')) :
    q.Described d seed (entryTexts d [Scope.ofSource q.source] [] q.listed) := by
  obtain ⟨-, text, -, columns⟩ := Statement.sql_eq h.clean built
  have selected : seed.columns
      = (nameEntries [] (q.listed.map ResultItem.entry)).map NamedEntry.resultColumn :=
    columns.trans q.resultColumns_eq
  exact {
    text := text.trans q.sqlText_pieces
    columns
    length_texts := length_entryTexts _ _
    length_columns := by rw [selected, List.length_map, length_nameEntries, List.length_map]
    listed := fun k item text column hi ht hc => listed_getElem? [] q.listed hi ht (selected ▸ hc)
    names := by
      rw [columns]
      exact (map_name_resultColumns q.entries).symm ▸ (Query.unrepeated_of_built built).nodup.1 }

end Select

/-! ## Labels that repeat a name -/

/-- A mistake among the names is a label that repeats one. -/
theorem clear_or_repeats (taken : List String) (entries : List ResultEntry) :
    ∀ x ∈ (selectListParts taken ((nameEntries taken entries).map fun e => (e, []))).flatten,
      x.Clear ∨ ∃ (i : Nat) (key : ColumnKey) (type : AnyDescriptor),
        entries[i]? = some (.labelled key type) ∧ x = .mistake (.duplicateColumn "result" key.name)
          ∧ (key.name ∈ taken ∨ ∃ e ∈ (nameEntries taken entries).take i, e.name = key.name) := by
  induction entries generalizing taken with
  | nil => exact List.forall_mem_nil _
  | cons entry rest ih =>
    obtain ⟨e, named, fresh, kept⟩ := nameEntries_cons taken entry rest
    rw [named, List.map_cons, selectListParts, List.flatten_cons, List.append_nil]
    simp only [List.forall_mem_append]
    refine ⟨⟨?_, ?_⟩, fun x hx => (ih _ x hx).imp_right ?_⟩
    · split
      · next again =>
        refine List.forall_mem_singleton.2 (.inr ?_)
        have mem : e.name ∈ taken := List.contains_iff_mem.1 again
        cases entry with
        | column c => exact absurd mem (fresh c rfl)
        | labelled key type =>
          rw [kept key type rfl] at mem ⊢
          exact ⟨0, key, type, rfl, rfl, .inl mem⟩
      · exact List.forall_mem_nil _
    · split
      · exact List.forall_mem_singleton.2 (.inl trivial)
      · split
        · exact List.forall_mem_singleton.2 (.inl trivial)
        · exact List.forall_mem_nil _
    · rintro ⟨i, key, type, found, mistake, earlier⟩
      refine ⟨i + 1, key, type, found, mistake, ?_⟩
      rw [List.take_succ_cons, List.exists_mem_cons_iff]
      rcases earlier with again | later
      · rcases List.mem_cons.1 again with same | mem
        · exact .inr (.inl same.symm)
        · exact .inl mem
      · exact .inr (.inr later)

/-- Where the parts are clear but for some mistakes, the pieces are faultless but for these. -/
theorem Written.faultless_or {Q : SchemaError → Prop} {xs : List Part} {ps : List Piece}
    (h : Written xs ps) (clear : ∀ x ∈ xs, x.Clear ∨ ∃ e, Q e ∧ x = .mistake e) :
    ∀ piece ∈ ps, piece.Faultless ∨ ∃ e, Q e ∧ piece = .fault e := by
  have all {xs : List Part} {ps : List Piece} (h : Written xs ps) (none : ∀ e, .mistake e ∉ xs)
      (clear : ∀ x ∈ xs, x.Clear ∨ ∃ e, Q e ∧ x = .mistake e) :
      ∀ piece ∈ ps, piece.Faultless ∨ ∃ e, Q e ∧ piece = .fault e := by
    refine fun piece mem => .inl (h.faultless_iff.2 (fun x hx => ?_) piece mem)
    refine (clear x hx).resolve_right ?_
    rintro ⟨e, -, rfl⟩
    exact none e hx
  induction h with
  | append _ _ ih₁ ih₂ =>
    rw [List.forall_mem_append] at clear
    exact List.forall_mem_append.2 ⟨ih₁ clear.1, ih₂ clear.2⟩
  | nested _ ih =>
    refine List.forall_mem_cons.2 ⟨.inl trivial, List.forall_mem_append.2 ⟨ih clear, ?_⟩⟩
    exact List.forall_mem_singleton.2 (.inl trivial)
  | mistake e =>
    rcases clear _ (List.mem_singleton_self _) with none | ⟨e', he, same⟩
    · exact none.elim
    · cases same
      exact List.forall_mem_singleton.2 (.inr ⟨e, he, rfl⟩)
  | nil => exact all .nil (by simp) clear
  | text quiet => exact all (.text quiet) (by simp) clear
  | column levels c => exact all (.column levels c) (by simp) clear
  | selected c => exact all (.selected c) (by simp) clear
  | resultName e => exact all (.resultName e) (by simp) clear
  | name n => exact all (.name n) (by simp) clear
  | bind p => exact all (.bind p) (by simp) clear
  | castType type => exact all (.castType type) (by simp) clear

theorem Piece.mem_faultsFrom {Q : SchemaError → Prop} {ps : List Piece} {i : Nat}
    (h : ∀ piece ∈ ps, piece.Faultless ∨ ∃ e, Q e ∧ piece = .fault e) :
    ∀ f ∈ faultsFrom i ps, ∃ e, Q e ∧ f = .schema e := by
  induction ps generalizing i with
  | nil => exact List.forall_mem_nil _
  | cons piece ps ih =>
    rw [List.forall_mem_cons] at h
    cases piece with
    | fault e =>
      rcases h.1 with none | ⟨e', he, same⟩
      · exact none.elim
      · cases same
        exact List.forall_mem_cons.2 ⟨⟨e, he, rfl⟩, ih h.2⟩
    | slot p =>
      have storable : p.Storable := h.1.resolve_right (by simp)
      obtain ⟨v, stored⟩ := Placeholder.presetValue_eq_ok_iff.2 storable
      rw [faultsFrom, stored]
      exact ih h.2
    | text s => exact ih h.2
    | name n => exact ih h.2
    | enter => exact ih h.2
    | leave => exact ih h.2

theorem Statement.fst_buildWith_eq_schema_iff {s : Statement} {p : Pool} {e : SchemaError} :
    (s.buildWith p d).1 = .error (.schema e)
      ↔ (Piece.faults s.pieces).head? = some (.schema e) := by
  rw [s.buildWith_eq]
  unfold Seed.ofPieces
  split
  · next none => simp [none]
  · next first => simp [first]
  · next first => simp [first]

namespace Select

variable {q : Select}

theorem not_labelsNew_iff : ¬ q.LabelsNew ↔ ∃ name, q.Repeats name := by
  simp only [LabelsNew, Repeats]
  push Not
  constructor
  · rintro ⟨i, key, type, found, c, hc, same⟩
    exact ⟨key.name, i, key, type, found, rfl, c, hc, same⟩
  · rintro ⟨-, i, key, type, found, rfl, c, hc, same⟩
    exact ⟨i, key, type, found, c, hc, same⟩

/-- Where nothing else is wrong, the only mistakes are labels that repeat a name. -/
theorem OtherwiseFaultless.clear_or (h : q.OtherwiseFaultless) :
    ∀ x ∈ q.parts [], x.Clear ∨ ∃ e,
      (∃ name, q.Repeats name ∧ e = .duplicateColumn "result" name) ∧ x = .mistake e := by
  obtain ⟨errors, some_entry, children⟩ := h
  refine (Node.select [] q).forall_parts.2 ⟨?_, fun m child x hx => .inl ?_⟩
  · simp only [Node.own, own, errors, List.map_nil, List.nil_append, List.forall_mem_append]
    refine ⟨⟨?_, fun x hx => ?_⟩, fun x hx => .inl (clear_flatten.2 (clear_listed _ _) x hx)⟩
    · rw [if_neg (fun none => some_entry (List.isEmpty_iff.1 none))]
      exact List.forall_mem_nil _
    · refine (clear_or_repeats [] q.entries x hx).imp_right ?_
      rintro ⟨i, key, type, found, mistake, earlier⟩
      obtain ⟨e, he, same⟩ := earlier.resolve_left List.not_mem_nil
      refine ⟨_, ⟨key.name, ⟨i, key, type, found, rfl, e.resultColumn, ?_, ?_⟩, rfl⟩, mistake⟩
      · rw [resultColumns, TypedSql.resultColumns, ← List.map_take]
        exact List.mem_map_of_mem he
      · rw [resultColumn_name, same]
  · exact m.clear_iff.2 (children m child) x hx

theorem OtherwiseFaultless.mem_faults (h : q.OtherwiseFaultless) :
    ∀ f ∈ Piece.faults (q.pieces []),
      ∃ name, q.Repeats name ∧ f = .schema (.duplicateColumn "result" name) := by
  intro f hf
  obtain ⟨e, ⟨name, repeats, rfl⟩, rfl⟩ :=
    Piece.mem_faultsFrom ((q.written []).faultless_or h.clear_or) f hf
  exact ⟨name, repeats, rfl⟩

theorem faults_ne_nil_of_repeats {name : String} (h : q.Repeats name) :
    Piece.faults (q.pieces []) ≠ [] := by
  intro none
  have done := Statement.buildWith_eq_ok (s := .query (.select q)) (p := .new {}) (d := .generic)
    none
  exact not_labelsNew_iff.2 ⟨name, h⟩ (q.labelsNew_iff.2 (Query.unrepeated_of_built done))

/-- **The select list of the text and the result columns describe one result**, named by the rule.
-/
theorem list_describes_columns (q : Select) :
    (∀ (p p' : Pool) (n : Nat) (d : Dialect) (seed : Seed), p.Reached n →
        (Statement.query (.select q)).buildWith p d = (.ok seed, p') →
          ∃ texts, q.Described d seed texts)
      ∧ NamesGiven (· == ·) [] q.entries (q.resultColumns.map ResultColumn.name)
      ∧ ((∃ name, q.Repeats name) → ∀ (p : Pool) (d : Dialect),
        ∃ e, ((Statement.query (.select q)).buildWith p d).1 = .error e)
      ∧ (q.OtherwiseFaultless → ∀ (p : Pool) (d : Dialect),
        ((∃ name, ((Statement.query (.select q)).buildWith p d).1
            = .error (.schema (.duplicateColumn "result" name))) ↔ ∃ name, q.Repeats name)
          ∧ ∀ name, ((Statement.query (.select q)).buildWith p d).1
            = .error (.schema (.duplicateColumn "result" name)) → q.Repeats name) := by
  refine ⟨fun p p' n d seed h built => ⟨_, described h built⟩, ?_, ?_, ?_⟩
  · exact (map_name_resultColumns q.entries).symm ▸ namesGiven_nameEntries [] q.entries
  · rintro ⟨name, repeats⟩ p d
    cases build : ((Statement.query (.select q)).buildWith p d).1 with
    | error e => exact ⟨e, rfl⟩
    | ok seed =>
      have done := Statement.ofPieces_eq_of_buildWith (Prod.ext build rfl)
      exact absurd (Seed.ofPieces_eq_ok done).1 (faults_ne_nil_of_repeats repeats)
  · intro only p d
    simp only [Statement.fst_buildWith_eq_schema_iff]
    have repeated : ∀ name, (Piece.faults (q.pieces [])).head?
        = some (.schema (.duplicateColumn "result" name)) → q.Repeats name := by
      intro name first
      obtain ⟨name', repeats, same⟩ := only.mem_faults _ (List.mem_of_head? first)
      cases same
      exact repeats
    refine ⟨⟨fun ⟨name, first⟩ => ⟨name, repeated name first⟩, ?_⟩, repeated⟩
    rintro ⟨name, repeats⟩
    obtain ⟨fault, rest, split⟩ := List.exists_cons_of_ne_nil (faults_ne_nil_of_repeats repeats)
    obtain ⟨first, -, rfl⟩ := only.mem_faults fault (split ▸ List.mem_cons_self)
    exact ⟨first, congrArg List.head? split⟩

/-! ### People and pets -/

/-- All people beside all pets. -/
def peopleAndPets : Select :=
  { Select.empty with
    source := some (.join .cross (.relation (.table peopleTable)) (.relation (.table petsTable))
      none) }

/-- People, and their number under the name of a column. -/
def numberOfPeople : Select :=
  { Select.empty with
    source := some (.relation (.table peopleTable))
    items := [.column peopleId, .labelled ⟨⟨7⟩, "id"⟩ .countRows peopleId.type] }

theorem list_describes_columns_of_people :
    (∃ seed, (∃ texts, peopleAndPets.Described .generic seed texts)
        ∧ seed.sql = "SELECT Person.id, Pet.id AS id_1 FROM Person CROSS JOIN Pet"
        ∧ seed.columns.map ResultColumn.name = ["id", "id_1"])
      ∧ (∃ e, ((Statement.query (.select numberOfPeople)).buildWith (.new {}) .generic).1
        = .error e)
      ∧ ∃ name, ((Statement.query (.select numberOfPeople)).buildWith (.new {}) .generic).1
        = .error (.schema (.duplicateColumn "result" name)) := by
  have built := Statement.buildWith_eq_ok (s := .query (.select peopleAndPets)) (p := .new {})
    (d := .generic) (by decide)
  have repeats : ∃ name, numberOfPeople.Repeats name :=
    ⟨"id", 1, ⟨⟨7⟩, "id"⟩, peopleId.type, rfl, rfl, _, List.mem_cons_self, rfl⟩
  have only : numberOfPeople.OtherwiseFaultless := by
    refine ⟨rfl, by simp [numberOfPeople, entries], fun m child => m.clear_iff.1 ?_⟩
    have inside : m = .source [numberOfPeople.source] (.relation (.table peopleTable))
        ∨ m = .expr [numberOfPeople.source] .countRows := by
      simpa [Node.children, exprs, bounds, numberOfPeople, Select.empty, ResultItem.expr?, eq_comm]
        using child
    rcases inside with rfl | rfl
    · exact clear_singleton.2 trivial
    · exact clear_nil
  have described := (list_describes_columns peopleAndPets).1 _ _ _ _ _ (.new _) built
  obtain ⟨-, -, refused, reported⟩ := list_describes_columns numberOfPeople
  exact ⟨⟨_, described, by decide, by decide⟩, refused repeats _ _, (reported only _ _).1.2 repeats⟩

end Select
end TypedSql
