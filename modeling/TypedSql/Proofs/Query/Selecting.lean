import TypedSql.Proofs.Render.Builds

/-!
# Columns selected before and after their source

A query is what a sequence of calls makes of the empty one, and the calls may come in any order. A
column selected directly is looked up once, in the source of that moment; the source may be replaced
afterwards, and the column is not looked up again.

**Theorem (`Select.sourceLaw_iff`).** The mistakes that building finds first are those of the
columns refused at their moment, in the order of the calls. Columns are refused just if the source
read from in the end lacks them, and whatever is selected belongs to that source, exactly if the
last source has what the source of the moment had.

* **Step (`run_errors`, `mem_run_items`).** What one call adds to the mistakes and the select list
  depends on the source it meets and nothing else.
* **Run (`foldl_errors`, `mem_foldl_items`).** Over a sequence the additions are put together, each
  with the source of its moment.

Naming the source first makes the law hold (`Select.sourceLaw_of_source_first`).
-/

namespace TypedSql

/-- The source of a query has the column. -/
def Level.holds (l : Level) (c : ColumnRef) : Bool := containsKey (Scope.ofSource l).columns c.key

namespace Select

/-- A call on a query under construction. -/
inductive Call where
  | fromSource (s : Source)
  | column {t : ValueType} (c : Column t)
  | composite {α : Type} (c : CompositeColumn α)
  | allColumns
  | project {t : ValueType} (p : Projection t)
  | selectDistinct
  | andWhere (p : Predicate)
  | andHaving (p : Predicate)
  | addGroup {t : ValueType} (o : Operand t) (k : Kind t)
  | addOrder {t : ValueType} (o : Operand t) (k : Kind t) (order : SortOrder)
  | withLimit (p : Placeholder)
  | withOffset (p : Placeholder)

/-- The query after a call. -/
def run (q : Select) : Call → Select
  | .fromSource s => q.fromSource s
  | .column c => q.column c
  | .composite c => q.composite c
  | .allColumns => q.allColumns
  | .project p => q.project p
  | .selectDistinct => q.selectDistinct
  | .andWhere p => q.andWhere p
  | .andHaving p => q.andHaving p
  | .addGroup o k => q.addGroup o k
  | .addOrder o k order => q.addOrder o k order
  | .withLimit p => q.withLimit p
  | .withOffset p => q.withOffset p

def ofCalls (calls : List Call) : Select := calls.foldl run .empty

/-- A column selected directly, and the source it is looked up in. -/
structure Pick where
  level : Level
  column : ColumnRef

/-- The mistake, if the source lacks the column. -/
def Pick.mistake? (p : Pick) : Option SchemaError :=
  if p.level.holds p.column then none
  else some (.columnNotInSet p.column.display (Scope.ofSource p.level).name)

/-! ## What a call does -/

namespace Call

/-- The source after a call. -/
def level (l : Level) : Call → Level
  | .fromSource s => some s
  | _ => l

/-- The columns a call selects directly. -/
def picks (l : Level) : Call → List Pick
  | .column c => [⟨l, c.ref⟩]
  | .composite c => c.parts.map (⟨l, ·⟩)
  | _ => []

/-- The columns a call selects with all others of the source. -/
def swept (l : Level) : Call → List ColumnRef
  | .allColumns => (Scope.ofSource l).columns
  | _ => []

end Call

/-- All columns selected directly, each with the source of its moment. -/
def picks (l : Level) : List Call → List Pick
  | [] => []
  | call :: rest => call.picks l ++ picks (call.level l) rest

/-- All columns selected with a whole source. -/
def swept (l : Level) : List Call → List ColumnRef
  | [] => []
  | call :: rest => call.swept l ++ swept (call.level l) rest

variable {q : Select} {call : Call} {calls : List Call} {c : ColumnRef}

theorem mem_items_of_pick (p : Pick) :
    ResultItem.column c ∈ (if p.level.holds p.column then [ResultItem.column p.column] else [])
      ↔ p.column = c ∧ p.level.holds c = true := by
  by_cases held : p.level.holds p.column = true
  · rw [if_pos held, List.mem_singleton, ResultItem.column.injEq]
    exact ⟨fun same => ⟨same.symm, same ▸ held⟩, fun found => found.1.symm⟩
  · rw [if_neg held]
    refine iff_of_false List.not_mem_nil ?_
    rintro ⟨rfl, found⟩
    exact held found

/-- Selecting a column leaves it in the select list or a mistake behind. -/
theorem columnRef_eq (q : Select) (c : ColumnRef) :
    q.columnRef c = { q with
      items := q.items ++ if Level.holds q.source c then [.column c] else []
      errors := q.errors ++ (Pick.mk q.source c).mistake?.toList } := by
  have level : (q.source.map (·.contains c.key)).getD false = Level.holds q.source c := by
    cases q.source <;> rfl
  have name : q.sourceName = (Scope.ofSource q.source).name := by
    unfold sourceName
    cases q.source <;> rfl
  unfold columnRef Pick.mistake?
  rw [level, name]
  by_cases held : Level.holds q.source c = true
  · simp [held]
  · simp [held]

theorem foldl_columnRef (q : Select) (parts : List ColumnRef) :
    parts.foldl columnRef q = { q with
      items := q.items ++ (parts.filter (Level.holds q.source ·)).map .column
      errors := q.errors ++ (parts.map (Pick.mk q.source)).filterMap Pick.mistake? } := by
  induction parts generalizing q with
  | nil =>
    cases q
    simp
  | cons part parts ih =>
    rw [List.foldl_cons, ih, columnRef_eq]
    by_cases held : Level.holds q.source part = true
    · simp [held, Pick.mistake?]
    · simp [held, Pick.mistake?]

theorem allColumns_eq (q : Select) :
    q.allColumns = { q with
      items := q.items ++ (Scope.ofSource q.source).columns.map .column } := by
  unfold allColumns
  obtain ⟨_ | s, _⟩ := q
  · simp [Scope.ofSource]
  · rfl

theorem run_source (q : Select) (call : Call) : (q.run call).source = call.level q.source := by
  cases call with
  | column c => simp only [run, column, columnRef_eq, Call.level]
  | composite c => simp only [run, composite, foldl_columnRef, Call.level]
  | allColumns => simp only [run, allColumns_eq, Call.level]
  | _ => rfl

/-- The mistakes a call adds. -/
theorem run_errors (q : Select) (call : Call) :
    (q.run call).errors = q.errors ++ (call.picks q.source).filterMap Pick.mistake? := by
  cases call with
  | column c =>
    simp only [run, column, columnRef_eq, Call.picks, List.filterMap_cons, List.filterMap_nil]
    cases (Pick.mk q.source c.ref).mistake? <;> rfl
  | composite c => simp only [run, composite, foldl_columnRef, Call.picks]
  | allColumns => simp [run, allColumns_eq, Call.picks]
  | _ => simp [run, Call.picks, fromSource, project, selectDistinct, andWhere, andHaving, addGroup,
      addOrder, withLimit, withOffset]

/-- The columns a call adds to the select list. -/
theorem mem_run_items (q : Select) (call : Call) :
    .column c ∈ (q.run call).items ↔ .column c ∈ q.items
      ∨ (∃ p ∈ call.picks q.source, p.column = c ∧ p.level.holds c = true)
      ∨ c ∈ call.swept q.source := by
  cases call with
  | column picked =>
    simp only [run, column, columnRef_eq, Call.picks, Call.swept, List.mem_append,
      List.mem_singleton, exists_eq_left, List.not_mem_nil, or_false]
    exact or_congr_right (mem_items_of_pick ⟨q.source, picked.ref⟩)
  | composite picked =>
    simp [run, composite, foldl_columnRef, Call.picks, Call.swept, and_comm]
  | allColumns => simp [run, allColumns_eq, Call.picks, Call.swept]
  | _ => simp [run, Call.picks, Call.swept, fromSource, project, selectDistinct, andWhere,
      andHaving, addGroup, addOrder, withLimit, withOffset]

/-! ## What a sequence of calls does -/

theorem foldl_source (q : Select) (calls : List Call) :
    (calls.foldl run q).source = calls.foldl Call.level q.source := by
  induction calls generalizing q with
  | nil => rfl
  | cons call calls ih => rw [List.foldl_cons, ih, run_source, List.foldl_cons]

theorem foldl_errors (q : Select) (calls : List Call) :
    (calls.foldl run q).errors = q.errors ++ (picks q.source calls).filterMap Pick.mistake? := by
  induction calls generalizing q with
  | nil => simp [picks]
  | cons call calls ih =>
    rw [List.foldl_cons, ih, run_errors, run_source, picks, List.filterMap_append,
      List.append_assoc]

theorem mem_foldl_items (q : Select) (calls : List Call) :
    .column c ∈ (calls.foldl run q).items ↔ .column c ∈ q.items
      ∨ (∃ p ∈ picks q.source calls, p.column = c ∧ p.level.holds c = true)
      ∨ c ∈ swept q.source calls := by
  induction calls generalizing q with
  | nil => simp [picks, swept]
  | cons call calls ih =>
    rw [List.foldl_cons, ih, mem_run_items, run_source, picks, swept]
    simp only [List.mem_append, or_and_right, exists_or]
    simp only [or_assoc, or_left_comm (b := c ∈ _)]

theorem errors_ofCalls (calls : List Call) :
    (ofCalls calls).errors = (picks none calls).filterMap Pick.mistake? :=
  foldl_errors .empty calls

theorem mem_items_ofCalls :
    .column c ∈ (ofCalls calls).items ↔
      (∃ p ∈ picks none calls, p.column = c ∧ p.level.holds c = true) ∨ c ∈ swept none calls := by
  refine (mem_foldl_items .empty calls).trans (or_iff_right ?_)
  exact List.not_mem_nil

theorem faultsFrom_errors (errors : List SchemaError) (ps : List Piece) (i : Nat) :
    Piece.faultsFrom i (errors.map .fault ++ ps)
      = errors.map .schema ++ Piece.faultsFrom i ps := by
  induction errors with
  | nil => rfl
  | cons e errors ih => exact congrArg (Fault.schema e :: ·) ih

/-- The mistakes of a query come before all others. -/
theorem faults_eq (q : Select) :
    ∃ rest, Piece.faults (Statement.query (.select q)).pieces = q.errors.map .schema ++ rest := by
  obtain ⟨source, distinct, items, filter, groupBy, having, orderBy, l, o, errors⟩ := q
  rw [Statement.pieces, Query.pieces, Select.pieces_eq]
  simp only [List.append_assoc, List.cons_append]
  exact ⟨_, faultsFrom_errors errors _ 0⟩

/-- Building a query reports its first mistake. -/
theorem buildWith_of_errors {e : SchemaError} (h : q.errors.head? = some e) (p : Pool)
    (d : Dialect) :
    ((Statement.query (.select q)).buildWith p d).1 = .error (.schema e) := by
  obtain ⟨others, split⟩ := List.head?_eq_some_iff.1 h
  obtain ⟨rest, faults⟩ := q.faults_eq
  rw [split, List.map_cons, List.cons_append] at faults
  simp only [Statement.buildWith_eq, Seed.ofPieces, faults]

theorem mem_entries_iff (q : Select) : .column c ∈ q.entries ↔
    (q.items = [] ∧ c ∈ (Scope.ofSource q.source).columns) ∨ .column c ∈ q.items := by
  obtain ⟨source, distinct, items, filter, groupBy, having, orderBy, l, o, errors⟩ := q
  cases items with
  | nil =>
    cases source with
    | none => simp [entries, Scope.ofSource]
    | some s => simp [entries, Scope.ofSource]
  | cons item items =>
    simp only [entries, List.mem_map, reduceCtorEq, false_and, false_or]
    constructor
    · rintro ⟨own, mem, same⟩
      cases own with
      | column c' => cases same; exact mem
      | labelled => cases same
    · exact fun mem => ⟨_, mem, rfl⟩

theorem holds_of_mem {l : Level} (h : c ∈ (Scope.ofSource l).columns) : l.holds c = true :=
  List.any_eq_true.2 ⟨c, h, beq_self_eq_true _⟩

theorem Pick.mistake?_isSome_iff (p : Pick) :
    p.mistake?.isSome = true ↔ p.level.holds p.column = false := by
  unfold mistake?
  by_cases held : p.level.holds p.column = true <;> simp [held]

/-! ## The law of the source -/

/-- The query is built, with any pool and in any dialect. -/
def Builds (q : Select) : Prop :=
  ∃ p d seed p', (Statement.query (.select q)).buildWith p d = (.ok seed, p')

theorem builds_iff : q.Builds ↔ Piece.faults (Statement.query (.select q)).pieces = [] := by
  constructor
  · rintro ⟨p, d, built⟩
    exact Statement.builds_iff_faults_eq_nil.1 built
  · exact fun none => ⟨.new {}, .generic, Statement.builds_iff_faults_eq_nil.2 none⟩

/-- Result columns belong to the source that the query reads from in the end. -/
structure SourceLaw (calls : List Call) : Prop where
  /-- A column selected directly is a mistake just if that source lacks it. -/
  refused : ∀ p ∈ picks none calls,
    p.mistake?.isSome = true ↔ Level.holds (ofCalls calls).source p.column = false
  /-- A query that is built selects no columns but those of that source. -/
  contained : (ofCalls calls).Builds → ∀ c, .column c ∈ (ofCalls calls).entries →
    Level.holds (ofCalls calls).source c = true

/-- The last source has what the sources of the moment had. -/
structure Settled (calls : List Call) : Prop where
  picks : ∀ p ∈ picks none calls,
    Level.holds (ofCalls calls).source p.column = p.level.holds p.column
  swept : (ofCalls calls).Builds → ∀ c ∈ swept none calls,
    Level.holds (ofCalls calls).source c = true

theorem sourceLaw_of_settled (h : Settled calls) : SourceLaw calls where
  refused p hp := by rw [h.picks p hp, p.mistake?_isSome_iff]
  contained built c hc := by
    rcases (mem_entries_iff _).1 hc with ⟨-, whole⟩ | listed
    · exact holds_of_mem whole
    · rcases mem_items_ofCalls.1 listed with ⟨p, hp, rfl, held⟩ | hs
      · rw [h.picks p hp, held]
      · exact h.swept built c hs

theorem settled_of_sourceLaw (h : SourceLaw calls) : Settled calls where
  picks p hp := by
    have refused := h.refused p hp
    rw [p.mistake?_isSome_iff] at refused
    rw [Bool.eq_iff_iff, ← not_iff_not, Bool.not_eq_true, Bool.not_eq_true]
    exact refused.symm
  swept built c hc :=
    h.contained built c ((mem_entries_iff _).2 (.inr (mem_items_ofCalls.2 (.inr hc))))

/-- **A column is refused by the source of its moment; that is the source the query reads from in
the end exactly if the last source has what the sources of the moment had.** -/
theorem sourceLaw_iff (calls : List Call) :
    (∃ rest, Piece.faults (Statement.query (.select (ofCalls calls))).pieces
        = ((picks none calls).filterMap Pick.mistake?).map .schema ++ rest)
      ∧ (∀ e, ((picks none calls).filterMap Pick.mistake?).head? = some e → ∀ p d,
        ((Statement.query (.select (ofCalls calls))).buildWith p d).1 = .error (.schema e))
      ∧ (SourceLaw calls ↔ Settled calls) := by
  rw [← errors_ofCalls]
  refine ⟨(ofCalls calls).faults_eq, ?_, settled_of_sourceLaw, sourceLaw_of_settled⟩
  exact fun e first p d => buildWith_of_errors first p d

/-! ### The source named first -/

theorem picks_of_kept {l : Level} (kept : ∀ call ∈ calls, call.level l = l) :
    (∀ p ∈ picks l calls, p.level = l)
      ∧ (∀ c ∈ swept l calls, c ∈ (Scope.ofSource l).columns) ∧ calls.foldl Call.level l = l := by
  induction calls with
  | nil => exact ⟨List.forall_mem_nil _, List.forall_mem_nil _, rfl⟩
  | cons call calls ih =>
    obtain ⟨first, rest⟩ := List.forall_mem_cons.1 kept
    obtain ⟨hp, hs, hl⟩ := ih rest
    rw [picks, swept, List.foldl_cons, first]
    refine ⟨List.forall_mem_append.2 ⟨?_, hp⟩, List.forall_mem_append.2 ⟨?_, hs⟩, hl⟩
    · cases call <;> simp [Call.picks]
    · cases call <;> simp [Call.swept]

/-- A source that stays where it was put before any column was selected is the one they belong
to. -/
theorem sourceLaw_of_source_first (s : Source)
    (kept : ∀ call ∈ calls, call.level (some s) = some s) :
    SourceLaw (.fromSource s :: calls) := by
  obtain ⟨hp, hs, hl⟩ := picks_of_kept kept
  have last : (ofCalls (.fromSource s :: calls)).source = some s := by
    rw [ofCalls, foldl_source]
    exact hl
  refine sourceLaw_of_settled ⟨fun p mem => ?_, fun _ c mem => ?_⟩
  · rw [last, hp p mem]
  · rw [last]
    exact holds_of_mem (hs c mem)

/-! ### A source that is replaced -/

def catsTable : Table := .single ⟨1⟩ "Cat" "name"

def dogsTable : Table := .single ⟨2⟩ "Dog" "name"

def catName : Column .int64 := ⟨Table.wholeColumn ⟨1⟩ "Cat" "name", ⟨.int64, true⟩⟩

/-- The name of cats is selected from cats, who give way to dogs. -/
def replaced : List Call :=
  [.fromSource (.relation (.table catsTable)), .column catName,
    .fromSource (.relation (.table dogsTable))]

/-- The query is built, and reads a column from a table that does not have it. -/
theorem replaced_selects_stale_column :
    (ofCalls replaced).Builds
      ∧ Piece.sqlText .generic (Statement.query (.select (ofCalls replaced))).pieces
        = "SELECT Cat.name FROM Dog"
      ∧ ¬ SourceLaw replaced := by
  have built : (ofCalls replaced).Builds := builds_iff.2 (by decide)
  refine ⟨built, by decide, fun law => ?_⟩
  have stale : Level.holds (ofCalls replaced).source catName.ref = false := by decide
  have held := law.contained built catName.ref
    ((mem_entries_iff _).2 (.inr (List.mem_singleton.2 rfl)))
  rw [stale] at held
  cases held

end Select
end TypedSql
