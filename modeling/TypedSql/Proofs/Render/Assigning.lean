import Mathlib.Data.List.Induction
import Mathlib.Data.List.Nodup
import TypedSql.Proofs.Render.Builds
import TypedSql.Proofs.Render.Placeholders

/-!
# Every assignment of an INSERT and an UPDATE

The calls on a statement give expressions to columns, one after another; a composite column gives
one to each of its components. A column that is not one of the table's, or that has been given
something already, is refused, and the calls go on.

**Theorem (`Assignments.every_call_accounted`).** An INSERT or UPDATE is built exactly if no column
was refused and every expression can be written. It then names the columns in the order of the calls
and gives each the expression of its own call, and nothing else; an INSERT of no columns is one of
default values. If a column was refused, the first one is the mistake that is reported, whatever
came behind it.

* **Step (`give_eq`).** A call either appends one pair or notes one mistake.
* **Run (`giveAll_of_accepted`, `errors_giveAll`).** As long as all are accepted the pairs are those
  given; a mistake once noted stays, in front of all later ones.

Nothing changes if columns and expressions are kept in two lists (`split_giveAll`): a call that is
refused leaves both as they are.
-/

namespace TypedSql

/-! ## Giving -/

namespace Assignments

/-- A column and the expression that a call gives it. -/
abbrev Gift := ColumnRef × Expr

/-- Why a column is refused behind other gifts. -/
def mistake? (table : Table) (earlier : List Gift) (c : ColumnRef) : Option SchemaError :=
  if !containsKey table.columns c.key then some (.columnNotInSet c.display table.name)
  else if earlier.any (·.1.key == c.key) then some (.duplicateColumn table.name c.name)
  else none

/-- All are columns of the table, and no two the same. -/
structure Accepted (table : Table) (gifts : List Gift) : Prop where
  own : ∀ g ∈ gifts, containsKey table.columns g.1.key = true
  once : (gifts.map fun g => g.1.key).Nodup

/-- The gifts one after another. -/
def giveAll (table : Table) (gifts : List Gift) (a : Assignments) : Assignments :=
  gifts.foldl (fun a g => a.give table g.1 g.2) a

variable {table : Table} {gifts front : List Gift} {g : Gift}

/-- What one call does. -/
theorem give_eq (a : Assignments) (table : Table) (c : ColumnRef) (e : Expr) :
    a.give table c e = match mistake? table a.pairs c with
      | some m => { a with errors := a.errors ++ [m] }
      | none => { a with pairs := a.pairs ++ [(c, e)] } := by
  unfold give mistake?
  split
  · rfl
  · split <;> rfl

theorem mistake?_eq_none_iff {c : ColumnRef} :
    mistake? table front c = none
      ↔ containsKey table.columns c.key = true ∧ c.key ∉ front.map fun g => g.1.key := by
  have taken : front.any (·.1.key == c.key) = true ↔ c.key ∈ front.map fun g => g.1.key := by
    simp [List.any_eq_true, List.mem_map]
  rw [← taken]
  unfold mistake?
  cases containsKey table.columns c.key <;> cases front.any (·.1.key == c.key) <;> simp

theorem accepted_nil : Accepted table [] := ⟨List.forall_mem_nil _, List.nodup_nil⟩

/-- One gift more is accepted if it is no mistake. -/
theorem accepted_concat_iff :
    Accepted table (front ++ [g]) ↔ Accepted table front ∧ mistake? table front g.1 = none := by
  rw [mistake?_eq_none_iff]
  constructor
  · rintro ⟨own, once⟩
    rw [List.map_append, List.map_singleton, ← List.concat_eq_append,
      List.nodup_concat] at once
    obtain ⟨before, here⟩ := List.forall_mem_append.1 own
    exact ⟨⟨before, once.2⟩, here g List.mem_cons_self, once.1⟩
  · rintro ⟨⟨own, once⟩, here, fresh⟩
    refine ⟨List.forall_mem_append.2 ⟨own, List.forall_mem_singleton.2 here⟩, ?_⟩
    rw [List.map_append, List.map_singleton, ← List.concat_eq_append, List.nodup_concat]
    exact ⟨fresh, once⟩

/-- Gifts are all accepted, or there is a first one that is not. -/
theorem accepted_or_mistake (table : Table) (gifts : List Gift) :
    Accepted table gifts ∨ ∃ front g back m, gifts = front ++ g :: back
      ∧ Accepted table front ∧ mistake? table front g.1 = some m := by
  induction gifts using List.reverseRecOn with
  | nil => exact .inl accepted_nil
  | append_singleton gifts g ih =>
    rcases ih with accepted | ⟨front, g', back, m, rfl, accepted, mistake⟩
    · cases h : mistake? table gifts g.1 with
      | none => exact .inl (accepted_concat_iff.2 ⟨accepted, h⟩)
      | some m => exact .inr ⟨gifts, g, [], m, rfl, accepted, h⟩
    · exact .inr ⟨front, g', back ++ [g], m, by simp, accepted, mistake⟩

/-- Gifts that are accepted are what there is. -/
theorem giveAll_of_accepted (accepted : Accepted table gifts) :
    giveAll table gifts {} = ⟨gifts, []⟩ := by
  induction gifts using List.reverseRecOn with
  | nil => rfl
  | append_singleton gifts g ih =>
    obtain ⟨before, none⟩ := accepted_concat_iff.1 accepted
    have given := ih before
    unfold giveAll at given ⊢
    rw [List.foldl_append, given, List.foldl_cons, List.foldl_nil, give_eq, none]

/-- Mistakes are only added to. -/
theorem errors_giveAll (table : Table) (gifts : List Gift) (a : Assignments) :
    ∃ more, (giveAll table gifts a).errors = a.errors ++ more := by
  induction gifts generalizing a with
  | nil => exact ⟨[], (List.append_nil _).symm⟩
  | cons g gifts ih =>
    obtain ⟨more, rest⟩ := ih (a.give table g.1 g.2)
    have first : ∃ noted, (a.give table g.1 g.2).errors = a.errors ++ noted := by
      rw [give_eq]
      cases mistake? table a.pairs g.1 with
      | none => exact ⟨[], (List.append_nil _).symm⟩
      | some m => exact ⟨[m], rfl⟩
    obtain ⟨noted, first⟩ := first
    exact ⟨noted ++ more, by rw [← List.append_assoc, ← first]; exact rest⟩

/-- The first mistake comes first. -/
theorem errors_of_mistake {m : SchemaError} (back : List Gift) (accepted : Accepted table front)
    (mistake : mistake? table front g.1 = some m) :
    ∃ more, (giveAll table (front ++ g :: back) {}).errors = m :: more := by
  have given := giveAll_of_accepted accepted
  obtain ⟨more, rest⟩ := errors_giveAll table back ⟨front, [m]⟩
  refine ⟨more, ?_⟩
  unfold giveAll at given rest ⊢
  rw [List.foldl_append, given, List.foldl_cons, give_eq, mistake]
  exact rest

theorem errors_giveAll_eq_nil_iff :
    (giveAll table gifts {}).errors = [] ↔ Accepted table gifts := by
  constructor
  · intro none
    rcases accepted_or_mistake table gifts with accepted | ⟨front, g, back, m, rfl, accepted, h⟩
    · exact accepted
    · obtain ⟨more, some⟩ := errors_of_mistake back accepted h
      rw [some] at none
      cases none
  · intro accepted
    rw [giveAll_of_accepted accepted]

/-! ### Two lists -/

/-- Columns and expressions apart, each list to be read along with the other. -/
structure Split where
  columns : List ColumnRef := []
  values : List Expr := []
  errors : List SchemaError := []

/-- Appends to both lists, or to the mistakes. -/
def Split.push (s : Split) (table : Table) (c : ColumnRef) (e : Expr) : Split :=
  if !containsKey table.columns c.key then
    { s with errors := s.errors ++ [.columnNotInSet c.display table.name] }
  else if s.columns.any (·.key == c.key) then
    { s with errors := s.errors ++ [.duplicateColumn table.name c.name] }
  else { s with columns := s.columns ++ [c], values := s.values ++ [e] }

def split (a : Assignments) : Split := ⟨a.pairs.map Prod.fst, a.pairs.map Prod.snd, a.errors⟩

theorem split_give (a : Assignments) (table : Table) (c : ColumnRef) (e : Expr) :
    (a.give table c e).split = a.split.push table c e := by
  have taken : (a.pairs.map Prod.fst).any (·.key == c.key) = a.pairs.any (·.1.key == c.key) :=
    List.any_map
  unfold give Split.push
  simp only [split, taken]
  split
  · rfl
  · split
    · rfl
    · simp only [List.map_append, List.map_cons, List.map_nil]

/-- The two lists of any sequence of gifts are those of the pairs. -/
theorem split_giveAll (table : Table) (gifts : List Gift) (a : Assignments) :
    (giveAll table gifts a).split = gifts.foldl (fun s g => s.push table g.1 g.2) a.split := by
  induction gifts generalizing a with
  | nil => rfl
  | cons g gifts ih =>
    rw [List.foldl_cons, ← split_give]
    exact ih _

end Assignments

/-! ## Pieces behind mistakes -/

namespace Piece

theorem faultless_separated {s : String} {pss : List (List Piece)} :
    (∀ p ∈ separated s pss, p.Faultless) ↔ ∀ ps ∈ pss, ∀ p ∈ ps, p.Faultless := by
  induction pss with
  | nil => exact iff_of_true (List.forall_mem_nil _) (List.forall_mem_nil _)
  | cons ps pss ih =>
    cases pss with
    | nil => rw [separated, List.forall_mem_singleton]
    | cons qs pss =>
      rw [separated, List.forall_mem_append, List.forall_mem_cons, ih,
        List.forall_mem_cons (l := qs :: pss)]
      · exact and_congr_right' (and_iff_right trivial)
      · exact List.cons_ne_nil qs pss

theorem slots_separated (s : String) (pss : List (List Piece)) :
    slots (separated s pss) = pss.flatMap slots := by
  induction pss with
  | nil => rfl
  | cons ps pss ih =>
    cases pss with
    | nil => rw [separated, List.flatMap_singleton]
    | cons qs pss =>
      rw [separated, slots_append, List.flatMap_cons, ← ih]
      · rfl
      · exact List.cons_ne_nil qs pss

end Piece

namespace Statement

variable {s : Statement} {es : List SchemaError} {rest : List Piece}

/-- A statement that notes its mistakes in front is built if there are none, there or behind. -/
theorem builds_iff_of_pieces (shape : s.pieces = es.map Piece.fault ++ rest) (p : Pool)
    (d : Dialect) :
    (∃ seed p', s.buildWith p d = (.ok seed, p')) ↔ es = [] ∧ ∀ x ∈ rest, x.Faultless := by
  have noted : (∀ x ∈ es.map Piece.fault, x.Faultless) ↔ es = [] := by
    cases es with
    | nil => exact iff_of_true (List.forall_mem_nil _) rfl
    | cons e es => exact iff_of_false (fun h => h _ List.mem_cons_self) (List.cons_ne_nil _ _)
  rw [builds_iff_faults_eq_nil, Piece.faults, Piece.faultsFrom_eq_nil_iff, shape,
    List.forall_mem_append, noted]

/-- The first mistake noted is the one reported. -/
theorem buildWith_of_mistake {e : SchemaError} (shape : s.pieces = es.map Piece.fault ++ rest)
    (first : ∃ more, es = e :: more) (p : Pool) (d : Dialect) :
    (s.buildWith p d).1 = .error (.schema e) := by
  obtain ⟨more, rfl⟩ := first
  rw [buildWith_eq, shape]
  rfl

end Statement
open Assignments

/-! ## INSERT -/

namespace Insert

/-- What a call gives. A composite column gives its parts one by one. -/
def Call.gifts : Call → List Gift
  | .set c o => [(c.ref, o.toExpr c.descriptor)]
  | .setBlank c => [(c.ref, .bind (.blank c.descriptor.erase))]
  | .setComposite c v => (c.parts.zip (c.presets v)).map fun (part, p) => (part, .bind p)
  | .onConflict _ => []

variable {table : Table} {calls : List Call} {i : Insert}

theorem table_run (i : Insert) (call : Call) : (i.run call).table = i.table := by
  cases call with
  | setComposite c v =>
    simp only [run, setComposite]
    generalize c.parts.zip (c.presets v) = given
    induction given generalizing i with
    | nil => rfl
    | cons pair rest ih => exact ih _
  | _ => rfl

/-- A call gives all it has to give. -/
theorem values_run (i : Insert) (call : Call) :
    (i.run call).values = giveAll i.table call.gifts i.values := by
  cases call with
  | setComposite c v =>
    simp only [run, setComposite, Call.gifts]
    generalize c.parts.zip (c.presets v) = given
    induction given generalizing i with
    | nil => rfl
    | cons pair rest ih => exact ih _
  | _ => rfl

theorem values_foldl_run (calls : List Call) (i : Insert) :
    (calls.foldl run i).table = i.table
      ∧ (calls.foldl run i).values = giveAll i.table (calls.flatMap Call.gifts) i.values := by
  induction calls generalizing i with
  | nil => exact ⟨rfl, rfl⟩
  | cons call rest ih =>
    obtain ⟨table, values⟩ := ih (i.run call)
    refine ⟨table.trans (table_run i call), ?_⟩
    rw [List.foldl_cons, values, table_run, values_run, List.flatMap_cons]
    simp only [giveAll, List.foldl_append]

theorem table_ofCalls (table : Table) (calls : List Call) :
    (ofCalls table calls).table = table := (values_foldl_run calls { table }).1

theorem values_ofCalls (table : Table) (calls : List Call) :
    (ofCalls table calls).values = giveAll table (calls.flatMap Call.gifts) {} :=
  (values_foldl_run calls { table }).2

/-- The words in front of the table. -/
def verb : Option Conflict → String
  | none => "INSERT INTO "
  | some .replace => "INSERT OR REPLACE INTO "
  | some .ignore => "INSERT OR IGNORE INTO "

/-- The names of the columns, and behind them their values. -/
def givenPieces (gifts : List Gift) : List Piece :=
  [.text " ("] ++ Piece.separated ", " (gifts.map fun g => [.name g.1.name])
    ++ ([.text ") VALUES ("] ++ Piece.separated ", " (gifts.map fun g => g.2.pieces []))
    ++ [.text ")"]

/-- The row of an INSERT. -/
def rowPieces : List Gift → List Piece
  | [] => [.text " DEFAULT VALUES"]
  | g :: gifts => givenPieces (g :: gifts)

theorem pieces_eq (i : Insert) :
    i.pieces = i.values.errors.map Piece.fault
      ++ ([.text (verb i.conflict), .name i.table.name] ++ rowPieces i.values.pairs) := by
  obtain ⟨table, conflict, pairs, errors⟩ := i
  rcases conflict with _ | _ | _ <;> cases pairs <;> rfl

theorem faultless_givenPieces_iff {gifts : List Gift} :
    (∀ x ∈ givenPieces gifts, x.Faultless) ↔ ∀ g ∈ gifts, ∀ x ∈ g.2.pieces [], x.Faultless := by
  have names : ∀ x ∈ Piece.separated ", " (gifts.map fun g => [.name g.1.name]), x.Faultless := by
    rw [Piece.faultless_separated, List.forall_mem_map]
    exact fun g _ => List.forall_mem_singleton.2 trivial
  have values : (∀ x ∈ Piece.separated ", " (gifts.map fun g => g.2.pieces []), x.Faultless)
      ↔ ∀ g ∈ gifts, ∀ x ∈ g.2.pieces [], x.Faultless :=
    Piece.faultless_separated.trans List.forall_mem_map
  have text (s : String) : ∀ x ∈ [Piece.text s], x.Faultless :=
    List.forall_mem_singleton.2 trivial
  simp only [givenPieces, List.forall_mem_append]
  exact ⟨fun h => values.1 h.1.2.2, fun h => ⟨⟨⟨text _, names⟩, text _, values.2 h⟩, text _⟩⟩

/-- The text of the names and the values. -/
def givenText (d : Dialect) (gifts : List Gift) : String :=
  " (" ++ ", ".intercalate (gifts.map fun g => d.spell g.1.name)
    ++ (") VALUES ("
      ++ ", ".intercalate (gifts.map fun g => Piece.sqlText d (g.2.pieces [])))
    ++ ")"

/-- The text of the row. -/
def rowText (d : Dialect) : List Gift → String
  | [] => " DEFAULT VALUES"
  | g :: gifts => givenText d (g :: gifts)

theorem sqlText_givenPieces (d : Dialect) (gifts : List Gift) :
    Piece.sqlText d (givenPieces gifts) = givenText d gifts := by
  have names : (gifts.map fun g : Gift => [Piece.name g.1.name]).map (Piece.sqlText d)
      = gifts.map fun g => d.spell g.1.name := by
    rw [List.map_map]
    exact List.map_congr_left fun g _ => Piece.sqlText_singleton _
  have values : (gifts.map fun g : Gift => g.2.pieces []).map (Piece.sqlText d)
      = gifts.map fun g => Piece.sqlText d (g.2.pieces []) := List.map_map
  simp only [givenPieces, givenText, Piece.sqlText_append, Piece.sqlText_singleton,
    Piece.sqlText_separated, names, values, Piece.sql]

theorem slots_givenPieces (gifts : List Gift) :
    Piece.slots (givenPieces gifts) = gifts.flatMap fun g => Piece.slots (g.2.pieces []) := by
  have names : Piece.slots (Piece.separated ", " (gifts.map fun g => [.name g.1.name])) = [] := by
    rw [Piece.slots_separated, List.flatMap_map]
    exact List.flatMap_eq_nil_iff.2 fun g _ => rfl
  have values : Piece.slots (Piece.separated ", " (gifts.map fun g => g.2.pieces []))
      = gifts.flatMap fun g => Piece.slots (g.2.pieces []) := by
    rw [Piece.slots_separated, List.flatMap_map]
  have text (s : String) : Piece.slots [.text s] = [] := rfl
  simp only [givenPieces, Piece.slots_append, names, values, text, List.append_nil,
    List.nil_append]

theorem faultless_rowPieces_iff {gifts : List Gift} :
    (∀ x ∈ rowPieces gifts, x.Faultless) ↔ ∀ g ∈ gifts, ∀ x ∈ g.2.pieces [], x.Faultless := by
  cases gifts with
  | nil => exact iff_of_true (List.forall_mem_singleton.2 trivial) (List.forall_mem_nil _)
  | cons g gifts => exact faultless_givenPieces_iff

theorem sqlText_rowPieces (d : Dialect) (gifts : List Gift) :
    Piece.sqlText d (rowPieces gifts) = rowText d gifts := by
  cases gifts with
  | nil => exact Piece.sqlText_singleton _
  | cons g gifts => exact sqlText_givenPieces d _

theorem slots_rowPieces (gifts : List Gift) :
    Piece.slots (rowPieces gifts) = gifts.flatMap fun g => Piece.slots (g.2.pieces []) := by
  cases gifts with
  | nil => rfl
  | cons g gifts => exact slots_givenPieces _

/-- What is given by a sequence of calls. -/
def gifts (calls : List Call) : List Gift := calls.flatMap Call.gifts

/-- An INSERT put together by calls accounts for every one of them. -/
structure Accounted (table : Table) (calls : List Call) (p : Pool) (d : Dialect) : Prop where
  builds : (∃ seed p', (Statement.insert (ofCalls table calls)).buildWith p d = (.ok seed, p'))
    ↔ Accepted table (gifts calls) ∧ ∀ g ∈ gifts calls, ∀ x ∈ g.2.pieces [], x.Faultless
  written : ∀ seed p', (Statement.insert (ofCalls table calls)).buildWith p d = (.ok seed, p') →
    (ofCalls table calls).values = ⟨gifts calls, []⟩
      ∧ seed.sql
        = verb (ofCalls table calls).conflict ++ d.spell table.name ++ rowText d (gifts calls)
      ∧ seed.params
        = ((gifts calls).flatMap fun g => Piece.slots (g.2.pieces [])).map Placeholder.slot
  lists : (gifts calls).foldl (fun s g => Split.push s table g.1 g.2) {}
    = (ofCalls table calls).values.split
  refused : ∀ front g back m, gifts calls = front ++ g :: back → Accepted table front →
    mistake? table front g.1 = some m →
      ((Statement.insert (ofCalls table calls)).buildWith p d).1 = .error (.schema m)

theorem accounted (table : Table) (calls : List Call) {p : Pool} (hp : p.Clean) (d : Dialect) :
    Accounted table calls p d := by
  have values : (ofCalls table calls).values = giveAll table (gifts calls) {} :=
    values_ofCalls table calls
  have shape : (Statement.insert (ofCalls table calls)).pieces = _ := pieces_eq _
  have builds : (∃ seed p', (Statement.insert (ofCalls table calls)).buildWith p d = (.ok seed, p'))
      ↔ Accepted table (gifts calls) ∧ ∀ g ∈ gifts calls, ∀ x ∈ g.2.pieces [], x.Faultless := by
    rw [Statement.builds_iff_of_pieces shape, values, errors_giveAll_eq_nil_iff]
    refine and_congr_right fun accepted => ?_
    rw [giveAll_of_accepted accepted, List.forall_mem_append, faultless_rowPieces_iff]
    exact and_iff_right (List.forall_mem_cons.2 ⟨trivial, List.forall_mem_singleton.2 trivial⟩)
  refine ⟨builds, ?_, ?_, ?_⟩
  · intro seed p' built
    have kept := values.trans (giveAll_of_accepted (builds.1 ⟨seed, p', built⟩).1)
    obtain ⟨-, sql, params, -⟩ := Statement.sql_eq hp built
    rw [shape, kept, List.map_nil, List.nil_append] at sql params
    refine ⟨kept, ?_, ?_⟩
    · rw [sql, Piece.sqlText_append, sqlText_rowPieces, Piece.sqlText_cons,
        Piece.sqlText_singleton, table_ofCalls]
      rfl
    · rw [params, Piece.slots_append, slots_rowPieces]
      rfl
  · rw [values, split_giveAll]
    rfl
  · intro front g back m given accepted mistake
    have first := errors_of_mistake back accepted mistake
    rw [← given, ← values] at first
    exact Statement.buildWith_of_mistake shape first p d

end Insert
/-! ## UPDATE -/

namespace Update

/-- What a call gives; a condition gives nothing. -/
def Call.gifts : Call → List Gift
  | .set c o => [(c.ref, o.toExpr c.descriptor)]
  | .andWhere _ => []

variable {t : ValueType}

/-- What is given by the first assignment and the calls behind it. -/
def gifts (c : Column t) (o : Operand t) (calls : List Call) : List Gift :=
  (c.ref, o.toExpr c.descriptor) :: calls.flatMap Call.gifts

theorem foldl_run (calls : List Call) (u : Update) :
    (calls.foldl run u).table = u.table
      ∧ (calls.foldl run u).assignments
        = giveAll u.table (calls.flatMap Call.gifts) u.assignments := by
  induction calls generalizing u with
  | nil => exact ⟨rfl, rfl⟩
  | cons call rest ih =>
    obtain ⟨table, assignments⟩ := ih (u.run call)
    cases call with
    | set c o => exact ⟨table, assignments⟩
    | andWhere p => exact ⟨table, assignments⟩

theorem ofCalls_eq (table : Table) (before : List Predicate) (c : Column t) (o : Operand t)
    (calls : List Call) :
    (ofCalls table before c o calls).table = table
      ∧ (ofCalls table before c o calls).assignments = giveAll table (gifts c o calls) {} := by
  have drafted : (before.foldl UpdateDraft.andWhere { table }).table = table := by
    induction before using List.reverseRecOn with
    | nil => rfl
    | append_singleton before p ih =>
      rw [List.foldl_append]
      exact ih
  have ran := foldl_run calls ((before.foldl UpdateDraft.andWhere { table }).set c o)
  unfold ofCalls
  rw [ran.1, ran.2]
  simp only [UpdateDraft.set, drafted, true_and]
  rfl

/-- The assignments one by one. -/
def setPieces (table : Table) (gifts : List Gift) : List Piece :=
  Piece.separated ", "
    (gifts.map fun g => .name g.1.name :: .text " = " :: g.2.pieces [table.scope])

/-- The condition of the rows. -/
def wherePieces (u : Update) : List Piece := conditionPieces " WHERE " [u.table.scope] u.filter

theorem pieces_eq (u : Update) :
    u.pieces = u.assignments.errors.map Piece.fault
      ++ ([.text "UPDATE ", .name u.table.name, .text " SET "]
        ++ setPieces u.table u.assignments.pairs ++ u.wherePieces) := by
  unfold pieces setPieces wherePieces
  simp only [List.append_assoc, List.cons_append, List.nil_append]

theorem faultless_setPieces_iff {table : Table} {gifts : List Gift} :
    (∀ x ∈ setPieces table gifts, x.Faultless)
      ↔ ∀ g ∈ gifts, ∀ x ∈ g.2.pieces [table.scope], x.Faultless := by
  rw [setPieces, Piece.faultless_separated, List.forall_mem_map]
  refine forall₂_congr fun g _ => ?_
  rw [List.forall_mem_cons, List.forall_mem_cons]
  exact (and_iff_right trivial).trans (and_iff_right trivial)

/-- The text of the assignments. -/
def setText (d : Dialect) (table : Table) (gifts : List Gift) : String :=
  ", ".intercalate (gifts.map fun g =>
    d.spell g.1.name ++ (" = " ++ Piece.sqlText d (g.2.pieces [table.scope])))

theorem sqlText_setPieces (d : Dialect) (table : Table) (gifts : List Gift) :
    Piece.sqlText d (setPieces table gifts) = setText d table gifts := by
  rw [setPieces, Piece.sqlText_separated, List.map_map, setText]
  refine congrArg _ (List.map_congr_left fun g _ => ?_)
  simp only [Function.comp_apply, Piece.sqlText_cons]
  rfl

theorem slots_setPieces (table : Table) (gifts : List Gift) :
    Piece.slots (setPieces table gifts)
      = gifts.flatMap fun g => Piece.slots (g.2.pieces [table.scope]) := by
  rw [setPieces, Piece.slots_separated, List.flatMap_map]
  rfl

/-- An UPDATE put together by calls accounts for every one of them: for conditions, a first
assignment, and more of both. -/
structure Accounted (table : Table) (before : List Predicate) (c : Column t) (o : Operand t)
    (calls : List Call) (p : Pool) (d : Dialect) : Prop where
  builds : (∃ seed p',
      (Statement.update (ofCalls table before c o calls)).buildWith p d = (.ok seed, p'))
    ↔ Accepted table (gifts c o calls)
      ∧ (∀ g ∈ gifts c o calls, ∀ x ∈ g.2.pieces [table.scope], x.Faultless)
      ∧ ∀ x ∈ (ofCalls table before c o calls).wherePieces, x.Faultless
  written : ∀ seed p',
    (Statement.update (ofCalls table before c o calls)).buildWith p d = (.ok seed, p') →
      (ofCalls table before c o calls).assignments = ⟨gifts c o calls, []⟩
        ∧ seed.sql
          = "UPDATE " ++ d.spell table.name ++ " SET " ++ setText d table (gifts c o calls)
            ++ Piece.sqlText d (ofCalls table before c o calls).wherePieces
        ∧ seed.params
          = ((gifts c o calls).flatMap (fun g => Piece.slots (g.2.pieces [table.scope]))
            ++ Piece.slots (ofCalls table before c o calls).wherePieces).map Placeholder.slot
  refused : ∀ front g back m, gifts c o calls = front ++ g :: back → Accepted table front →
    mistake? table front g.1 = some m →
      ((Statement.update (ofCalls table before c o calls)).buildWith p d).1 = .error (.schema m)

theorem accounted (table : Table) (before : List Predicate) (c : Column t) (o : Operand t)
    (calls : List Call) {p : Pool} (hp : p.Clean) (d : Dialect) :
    Accounted table before c o calls p d := by
  obtain ⟨same, given⟩ := ofCalls_eq table before c o calls
  have shape : (Statement.update (ofCalls table before c o calls)).pieces = _ := pieces_eq _
  rw [same] at shape
  have words : ∀ x ∈ [Piece.text "UPDATE ", .name table.name, .text " SET "], x.Faultless := by
    simp [Piece.Faultless]
  have builds : (∃ seed p',
        (Statement.update (ofCalls table before c o calls)).buildWith p d = (.ok seed, p'))
      ↔ Accepted table (gifts c o calls)
        ∧ (∀ g ∈ gifts c o calls, ∀ x ∈ g.2.pieces [table.scope], x.Faultless)
        ∧ ∀ x ∈ (ofCalls table before c o calls).wherePieces, x.Faultless := by
    rw [Statement.builds_iff_of_pieces shape, given, errors_giveAll_eq_nil_iff]
    refine and_congr_right fun accepted => ?_
    rw [giveAll_of_accepted accepted, List.forall_mem_append, List.forall_mem_append,
      faultless_setPieces_iff, and_assoc]
    exact and_iff_right words
  refine ⟨builds, ?_, ?_⟩
  · intro seed p' built
    have kept := given.trans (giveAll_of_accepted (builds.1 ⟨seed, p', built⟩).1)
    obtain ⟨-, sql, params, -⟩ := Statement.sql_eq hp built
    rw [shape, kept, List.map_nil, List.nil_append] at sql params
    refine ⟨kept, ?_, ?_⟩
    · rw [sql, Piece.sqlText_append, Piece.sqlText_append, sqlText_setPieces, Piece.sqlText_cons,
        Piece.sqlText_cons, Piece.sqlText_singleton, ← String.append_assoc]
      rfl
    · rw [params, Piece.slots_append, Piece.slots_append, slots_setPieces]
      rfl
  · intro front g back m split accepted mistake
    have first := errors_of_mistake back accepted mistake
    rw [← split, ← given] at first
    exact Statement.buildWith_of_mistake shape first p d

end Update

/-- **Calls on an INSERT and on an UPDATE are accounted for, every one of them.** -/
theorem Assignments.every_call_accounted (table : Table) (rows : List Insert.Call) {t : ValueType}
    (before : List Predicate) (c : Column t) (o : Operand t) (calls : List Update.Call) {p : Pool}
    (hp : p.Clean) (d : Dialect) :
    Insert.Accounted table rows p d ∧ Update.Accounted table before c o calls p d :=
  ⟨Insert.accounted table rows hp d, Update.accounted table before c o calls hp d⟩

namespace Assignments

/-- A table of two columns of whole numbers. -/
def track : Table :=
  ⟨⟨1⟩, "Track", [Table.wholeColumn ⟨1⟩ "Track" "id", Table.wholeColumn ⟨1⟩ "Track" "size"]⟩

def trackColumn (name : String) : Column .int64 :=
  ⟨Table.wholeColumn ⟨1⟩ "Track" name, ⟨.int64, true⟩⟩

/-- A row of two columns, and an UPDATE that assigns to one of them twice. -/
theorem every_call_accounted_of_track :
    (Pool.new {}).Clean
      ∧ (∃ seed p',
        (Statement.insert (Insert.ofCalls track
          [.set (trackColumn "size") (.value (some 7)), .setBlank (trackColumn "id")])).buildWith
            (.new {}) .generic = (.ok seed, p')
          ∧ seed.sql = "INSERT INTO Track (size, id) VALUES (?, ?)")
      ∧ ((Statement.update (Update.ofCalls track [] (trackColumn "size") (.value (some 3))
          [.set (trackColumn "id") (.value none),
            .set (trackColumn "size") (.value (some 4))])).buildWith (.new {}) .generic).1
        = .error (.schema (.duplicateColumn "Track" "size")) := by
  have clean : (Pool.new {}).Clean := Pool.clean_new {}
  obtain ⟨inserted, updated⟩ := every_call_accounted track
    [.set (trackColumn "size") (.value (some 7)), .setBlank (trackColumn "id")]
    [] (trackColumn "size") (.value (some 3))
    [.set (trackColumn "id") (.value none), .set (trackColumn "size") (.value (some 4))]
    clean .generic
  obtain ⟨seed, p', built⟩ : ∃ seed p',
      (Statement.insert (Insert.ofCalls track
        [.set (trackColumn "size") (.value (some 7)), .setBlank (trackColumn "id")])).buildWith
          (.new {}) .generic = (.ok seed, p') :=
    Statement.builds_iff_faults_eq_nil.2 (by decide)
  have text := (inserted.written seed p' built).2.1
  have once : Accepted track
      [((trackColumn "size").ref, Operand.toExpr (.value (some 3)) ⟨.int64, true⟩),
        ((trackColumn "id").ref, Operand.toExpr (.value none) ⟨.int64, true⟩)] :=
    ⟨by decide, by decide⟩
  have again := updated.refused _ (_, Operand.toExpr (.value (some 4)) ⟨.int64, true⟩) [] _ rfl
    once rfl
  exact ⟨clean, ⟨seed, p', built, text.trans (by decide)⟩, again⟩

end Assignments
end TypedSql
