import TypedSql.Proofs.Grammar.Conditions
import TypedSql.Proofs.Query.Flattening
import TypedSql.Proofs.Render.Assigning

/-!
# How predicates are grouped

A sequence of predicates is put together two at a time, or in lists, in any nesting. A condition of
a query, an UPDATE or a DELETE may also be passed piece by piece, in several calls.

**Theorem (`Predicate.grouping_irrelevant`).** None of this shows. Whatever the grouping, the
predicates become one tree, the row of the operands of all of them; so statements that differ in the
grouping of their conditions are the same.

It all rests on one equation (`Expr.row_rows`): a row of rows is the row of everything in them.
Operands that are rows of the operator themselves, the empty one among them, dissolve on the way. A
single predicate is not put into a row, so pieces may not be empty, and groupings never are
(`Grouping.predicates_ne_nil`).
-/

namespace TypedSql

/-! ## Rows -/

namespace Expr

/-- The operands of the expressions in one row; a single expression stands for itself. -/
def row (op : LogicalOp) : List Expr → Expr
  | [e] => e
  | es => .logical op (es.flatMap (operandsOf op))

theorem row_of_two {op : LogicalOp} {es : List Expr} (two : 2 ≤ es.length) :
    row op es = .logical op (es.flatMap (operandsOf op)) := by
  match es with
  | [] | _ :: _ :: _ => rfl
  | [e] => simp at two

theorem combine_eq_row (op : LogicalOp) (lhs rhs : Expr) :
    combine op lhs rhs = row op [lhs, rhs] := by
  have two : 2 ≤ [lhs, rhs].length := Nat.le_refl 2
  rw [row_of_two two, combine, List.flatMap_cons, List.flatMap_singleton]

/-- The operands of a row are those of its members. -/
theorem operandsOf_row (op : LogicalOp) (es : List Expr) :
    (row op es).operandsOf op = es.flatMap (operandsOf op) := by
  match es with
  | [] | _ :: _ :: _ => exact operandsOf_logical op _
  | [e] => exact (List.flatMap_singleton _ e).symm

/-- **A row of rows is the row of everything in them.** -/
theorem row_rows {α : Type*} {op : LogicalOp} {xs : List α} {f : α → List Expr}
    (filled : ∀ x ∈ xs, f x ≠ []) :
    row op (xs.map fun x => row op (f x)) = row op (xs.flatMap f) := by
  match xs with
  | [] => rfl
  | [x] =>
    rw [List.flatMap_singleton]
    rfl
  | x :: y :: rest =>
    have first := List.length_pos_iff.2 (filled x List.mem_cons_self)
    have second := List.length_pos_iff.2 (filled y (List.mem_cons_of_mem _ List.mem_cons_self))
    have two : 2 ≤ ((x :: y :: rest).flatMap f).length := by
      simp only [List.flatMap_cons, List.length_append]
      omega
    rw [row_of_two two, row_of_two (by simp), List.flatMap_map, List.flatMap_assoc]
    simp only [operandsOf_row]

end Expr

namespace Predicate

theorem expr_fold (op : LogicalOp) (ps : List Predicate) :
    (fold op ps).expr = .row op (ps.map expr) := by
  match ps with
  | [] | [_] => rfl
  | p :: q :: ps =>
    rw [fold_of_two, Expr.row_of_two (by simp), List.flatMap_map]

/-- Two predicates under the operator. -/
def pair (op : LogicalOp) (p q : Predicate) : Predicate :=
  match op with
  | .and => p.and q
  | .or => p.or q

/-- Any number of predicates under the operator. -/
def list (op : LogicalOp) (ps : List Predicate) : Predicate :=
  match op with
  | .and => .all ps
  | .or => .any ps

theorem expr_pair (op : LogicalOp) (p q : Predicate) :
    (pair op p q).expr = .row op [p.expr, q.expr] := by
  cases op <;> exact Expr.combine_eq_row _ _ _

theorem expr_list (op : LogicalOp) (ps : List Predicate) :
    (list op ps).expr = .row op (ps.map expr) := by
  cases op <;> exact expr_fold _ _

end Predicate

/-! ## Groupings -/

/-- Predicates put together in their order. -/
inductive Grouping where
  | single (p : Predicate)
  | pair (lhs rhs : Grouping)
  | list (first : Grouping) (rest : List Grouping)

mutual

/-- The predicates that are put together. -/
def Grouping.predicates : Grouping → List Predicate
  | .single p => [p]
  | .pair lhs rhs => lhs.predicates ++ rhs.predicates
  | .list first rest => first.predicates ++ listPredicates rest

def listPredicates : List Grouping → List Predicate
  | [] => []
  | g :: rest => g.predicates ++ listPredicates rest

end

mutual

/-- What they are put together to. -/
def Grouping.joined (op : LogicalOp) : Grouping → Predicate
  | .single p => p
  | .pair lhs rhs => .pair op (lhs.joined op) (rhs.joined op)
  | .list first rest => .list op (first.joined op :: listJoined op rest)

def listJoined (op : LogicalOp) : List Grouping → List Predicate
  | [] => []
  | g :: rest => g.joined op :: listJoined op rest

end

theorem listPredicates_eq_flatMap (gs : List Grouping) :
    listPredicates gs = gs.flatMap Grouping.predicates := by
  induction gs with
  | nil => rfl
  | cons g rest ih => rw [listPredicates, ih, List.flatMap_cons]

namespace Grouping

/-- The expressions of the predicates. -/
def exprs (g : Grouping) : List Expr := g.predicates.map Predicate.expr

theorem predicates_ne_nil (g : Grouping) : g.predicates ≠ [] := by
  match g with
  | single p => exact List.cons_ne_nil _ _
  | pair lhs rhs => exact List.append_ne_nil_of_left_ne_nil lhs.predicates_ne_nil _
  | list first rest => exact List.append_ne_nil_of_left_ne_nil first.predicates_ne_nil _

theorem exprs_ne_nil (g : Grouping) : g.exprs ≠ [] :=
  fun none => g.predicates_ne_nil (List.map_eq_nil_iff.1 none)

theorem row_exprs (op : LogicalOp) (gs : List Grouping) :
    Expr.row op (gs.map fun g => .row op g.exprs)
      = .row op ((gs.flatMap predicates).map Predicate.expr) := by
  rw [Expr.row_rows fun g _ => g.exprs_ne_nil, List.map_flatMap]
  rfl

end Grouping

mutual

/-- **However predicates are grouped, the tree is the row of all of them.** -/
theorem Grouping.expr_joined (op : LogicalOp) :
    (g : Grouping) → (g.joined op).expr = .row op g.exprs
  | .single p => rfl
  | .pair lhs rhs => by
    have rows := Grouping.row_exprs op [lhs, rhs]
    rw [List.flatMap_cons, List.flatMap_singleton] at rows
    rw [Grouping.joined, Predicate.expr_pair, lhs.expr_joined op, rhs.expr_joined op]
    exact rows
  | .list first rest => by
    have rows := Grouping.row_exprs op (first :: rest)
    rw [List.flatMap_cons, ← listPredicates_eq_flatMap] at rows
    rw [Grouping.joined, Predicate.expr_list, List.map_cons, first.expr_joined op,
      expr_listJoined op rest]
    exact rows

theorem expr_listJoined (op : LogicalOp) :
    (gs : List Grouping) →
      (listJoined op gs).map Predicate.expr = gs.map fun g => .row op g.exprs
  | [] => rfl
  | g :: rest => by
    rw [listJoined, List.map_cons, g.expr_joined op, expr_listJoined op rest, List.map_cons]

end

/-! ## Conditions passed in pieces -/

/-- The sequence is passed in pieces, each of them a conjunction of consecutive predicates. -/
def InPieces (ps passed : List Predicate) : Prop :=
  ∃ gs : List Grouping, gs.flatMap Grouping.predicates = ps
    ∧ passed = gs.map (Grouping.joined .and)

theorem foldl_addCondition_some (e : Expr) (ps : List Predicate) :
    ps.foldl addCondition (some e) = some (ps.foldl (fun e q => .combine .and e q.expr) e) := by
  induction ps generalizing e with
  | nil => rfl
  | cons p ps ih => exact ih _

/-- Predicates passed one after another make the row of all of them. -/
theorem foldl_addCondition (p : Predicate) (ps : List Predicate) :
    (p :: ps).foldl addCondition none = some (.row .and ((p :: ps).map Predicate.expr)) := by
  rw [List.foldl_cons, addCondition, Expr.andAlso, foldl_addCondition_some, ← Predicate.expr_fold,
    Predicate.fold]

namespace InPieces

variable {ps passed passed' : List Predicate}

/-- The condition is the same for all ways to cut the sequence into pieces. -/
theorem condition_eq {p : Predicate} (h : InPieces (p :: ps) passed) :
    passed.foldl addCondition none = some (.row .and ((p :: ps).map Predicate.expr)) := by
  obtain ⟨gs, pieces, rfl⟩ := h
  cases gs with
  | nil => cases pieces
  | cons g gs =>
    have rows : ((g :: gs).map (Grouping.joined .and)).map Predicate.expr
        = (g :: gs).map fun g => .row .and g.exprs := by
      rw [List.map_map]
      exact List.map_congr_left fun g _ => g.expr_joined .and
    rw [List.map_cons, foldl_addCondition, ← List.map_cons, rows, Grouping.row_exprs, pieces]

theorem passed_eq_nil (h : InPieces [] passed) : passed = [] := by
  obtain ⟨gs, pieces, rfl⟩ := h
  cases gs with
  | nil => rfl
  | cons g gs => exact absurd (List.append_eq_nil_iff.1 pieces).1 g.predicates_ne_nil

theorem foldl_eq (h : InPieces ps passed) (h' : InPieces ps passed') :
    passed.foldl addCondition none = passed'.foldl addCondition none := by
  cases ps with
  | nil => rw [h.passed_eq_nil, h'.passed_eq_nil]
  | cons p ps => rw [h.condition_eq, h'.condition_eq]

end InPieces

/-! ## Statements -/

namespace Select

/-- The call adds a condition. -/
def Call.isCondition : Call → Bool
  | .andWhere _ | .andHaving _ => true
  | _ => false

/-- The query without its conditions. -/
def bare (q : Select) : Select := { q with filter := none, having := none }

theorem eq_of_bare {q q' : Select} (bare : q.bare = q'.bare) (filter : q.filter = q'.filter)
    (having : q.having = q'.having) : q = q' := by
  cases q
  cases q'
  simp_all [Select.bare]

/-- A call that adds no condition does not look at those there are. -/
theorem bare_run (q : Select) (call : Call) :
    (q.run call).bare = if call.isCondition then q.bare else q.bare.run call := by
  cases call with
  | column c => simp [run, column, columnRef_eq, bare, Call.isCondition]
  | composite c => simp [run, composite, foldl_columnRef, bare, Call.isCondition]
  | allColumns => simp [run, allColumns_eq, bare, Call.isCondition]
  | _ => rfl

theorem bare_foldl (calls : List Call) (q : Select) :
    (calls.foldl run q).bare = (calls.filter (!·.isCondition)).foldl run q.bare := by
  induction calls generalizing q with
  | nil => rfl
  | cons call calls ih =>
    rw [List.foldl_cons, ih, bare_run, List.filter_cons]
    cases call.isCondition <;> rfl

/-- The calls differ in nothing but the grouping of the conditions for rows and for groups, and in
where these stand among the other calls. -/
structure Regrouped (calls calls' : List Call) : Prop where
  others : calls.filter (!·.isCondition) = calls'.filter (!·.isCondition)
  wheres : ∃ ps, InPieces ps (calls.filterMap Call.where?)
    ∧ InPieces ps (calls'.filterMap Call.where?)
  havings : ∃ ps, InPieces ps (calls.filterMap Call.having?)
    ∧ InPieces ps (calls'.filterMap Call.having?)

theorem Regrouped.eq {calls calls' : List Call} (h : Regrouped calls calls') :
    ofCalls calls = ofCalls calls' := by
  obtain ⟨_, wheres, wheres'⟩ := h.wheres
  obtain ⟨_, havings, havings'⟩ := h.havings
  refine eq_of_bare ?_ ?_ ?_
  · rw [ofCalls, ofCalls, bare_foldl, bare_foldl, h.others]
  · rw [filter_ofCalls, filter_ofCalls, wheres.foldl_eq wheres']
  · rw [having_ofCalls, having_ofCalls, havings.foldl_eq havings']

end Select

namespace Update

variable {t t' : ValueType} {c : Column t} {c' : Column t'} {o : Operand t} {o' : Operand t'}

theorem eq_of_fields {u u' : Update} (table : u.table = u'.table)
    (assignments : u.assignments = u'.assignments) (filter : u.filter = u'.filter) : u = u' := by
  cases u
  cases u'
  simp_all

/-- The conditions before and behind the first assignment, and among the others, are cut from one
sequence. -/
theorem eq_of_pieces {table : Table} {before before' ps : List Predicate} {calls calls' : List Call}
    (same : gifts c o calls = gifts c' o' calls')
    (h : InPieces ps (before ++ calls.filterMap Call.where?))
    (h' : InPieces ps (before' ++ calls'.filterMap Call.where?)) :
    ofCalls table before c o calls = ofCalls table before' c' o' calls' := by
  obtain ⟨table_eq, given⟩ := ofCalls_eq table before c o calls
  obtain ⟨table_eq', given'⟩ := ofCalls_eq table before' c' o' calls'
  refine eq_of_fields (table_eq.trans table_eq'.symm) ?_ ?_
  · rw [given, given', same]
  · rw [filter_ofCalls, filter_ofCalls, h.foldl_eq h']

end Update

namespace Delete

theorem with_eq (d : Delete) (ps : List Predicate) :
    d.with ps = { d with filter := ps.foldl addCondition d.filter } := by
  induction ps generalizing d with
  | nil => rfl
  | cons p ps ih => exact ih _

theorem with_rowsWhere (table : Table) (p : Predicate) (ps : List Predicate) :
    (rowsWhere table p).with ps = (allRows table).with (p :: ps) := rfl

theorem eq_of_pieces {table : Table} {ps passed passed' : List Predicate}
    (h : InPieces ps passed) (h' : InPieces ps passed') :
    (allRows table).with passed = (allRows table).with passed' := by
  rw [with_eq, with_eq]
  exact congrArg (Delete.mk table) (h.foldl_eq h')

end Delete

/-! ## The tree of a sequence of predicates -/

namespace Predicate

/-- All ways to put the predicates together lead to one tree, for AND and for OR. -/
structure OneTree (ps : List Predicate) : Prop where
  grouped : ∀ op (g : Grouping), g.predicates = ps → g.joined op = ⟨.row op (ps.map expr)⟩
  all : Predicate.all ps = ⟨.row .and (ps.map expr)⟩
  any : Predicate.any ps = ⟨.row .or (ps.map expr)⟩
  selectWhere : ∀ calls, InPieces ps (calls.filterMap Select.Call.where?) →
    (Select.ofCalls calls).filter = some (.row .and (ps.map expr))
  selectHaving : ∀ calls, InPieces ps (calls.filterMap Select.Call.having?) →
    (Select.ofCalls calls).having = some (.row .and (ps.map expr))
  updateWhere : ∀ {t : ValueType} (table : Table) (before : List Predicate) (c : Column t)
    (o : Operand t) (calls : List Update.Call),
    InPieces ps (before ++ calls.filterMap Update.Call.where?) →
      (Update.ofCalls table before c o calls).filter = some (.row .and (ps.map expr))
  deleteWhere : ∀ (table : Table) (p : Predicate) (qs : List Predicate), InPieces ps (p :: qs) →
    ((Delete.rowsWhere table p).with qs).filter = some (.row .and (ps.map expr))
  deleteAll : ∀ (table : Table) (qs : List Predicate), InPieces ps qs →
    ((Delete.allRows table).with qs).filter = some (.row .and (ps.map expr))

theorem oneTree (p : Predicate) (ps : List Predicate) : OneTree (p :: ps) where
  grouped op g predicates := by
    rw [← predicates]
    exact congrArg Predicate.mk (g.expr_joined op)
  all := congrArg Predicate.mk (expr_fold .and (p :: ps))
  any := congrArg Predicate.mk (expr_fold .or (p :: ps))
  selectWhere calls pieces := by rw [Select.filter_ofCalls, pieces.condition_eq]
  selectHaving calls pieces := by rw [Select.having_ofCalls, pieces.condition_eq]
  updateWhere table before c o calls pieces := by rw [Update.filter_ofCalls, pieces.condition_eq]
  deleteWhere table q qs pieces := by
    rw [Delete.with_rowsWhere, Delete.filter_with]
    exact pieces.condition_eq
  deleteAll table qs pieces := by
    rw [Delete.filter_with]
    exact pieces.condition_eq

/-- **The grouping of predicates shows neither in their tree nor in the statement**, hence not in
its text, its slots or their positions. -/
theorem grouping_irrelevant :
    (∀ p ps, OneTree (p :: ps))
      ∧ (∀ calls calls', Select.Regrouped calls calls' →
        Select.ofCalls calls = Select.ofCalls calls')
      ∧ (∀ {t t' : ValueType} (table : Table) (ps before before' : List Predicate)
        (c : Column t) (c' : Column t') (o : Operand t) (o' : Operand t')
        (calls calls' : List Update.Call),
        Update.gifts c o calls = Update.gifts c' o' calls' →
        InPieces ps (before ++ calls.filterMap Update.Call.where?) →
        InPieces ps (before' ++ calls'.filterMap Update.Call.where?) →
        Update.ofCalls table before c o calls = Update.ofCalls table before' c' o' calls')
      ∧ (∀ (table : Table) (ps passed passed' : List Predicate),
        InPieces ps passed → InPieces ps passed' →
        (Delete.allRows table).with passed = (Delete.allRows table).with passed')
      ∧ ∀ (table : Table) (p : Predicate) (ps : List Predicate),
        (Delete.rowsWhere table p).with ps = (Delete.allRows table).with (p :: ps) :=
  ⟨oneTree, fun _ _ h => h.eq, fun _ _ _ _ _ _ _ _ _ _ same h h' => Update.eq_of_pieces same h h',
    fun _ _ _ _ h h' => Delete.eq_of_pieces h h', Delete.with_rowsWhere⟩

/-! ### A sequence cut in two ways -/

/-- A column of the track has no value. -/
def untold (name : String) : Predicate :=
  (Assignments.trackColumn name).toExpression.isNull false

/-- A disjunction, the empty conjunction and a conjunction. -/
def aboutTracks : List Predicate :=
  [(untold "id").or (untold "size"), .all [], (untold "id").and (untold "size")]

/-- One predicate at a time. -/
def oneByOne : List Grouping := aboutTracks.map .single

/-- The first one, and the others together. -/
def firstAndOthers : List Grouping :=
  [.single ((untold "id").or (untold "size")),
    .pair (.single (.all [])) (.single ((untold "id").and (untold "size")))]

theorem grouping_irrelevant_of_track :
    (Predicate.all aboutTracks).expr = .logical .and
        [.logical .or [(untold "id").expr, (untold "size").expr],
          (untold "id").expr, (untold "size").expr]
      ∧ (Grouping.list (.single ((untold "id").or (untold "size")))
          [.pair (.single (.all [])) (.single ((untold "id").and (untold "size")))]).joined .and
        = .all aboutTracks
      ∧ Update.ofCalls Assignments.track (oneByOne.map (Grouping.joined .and))
          (Assignments.trackColumn "size") (.value none) []
        = Update.ofCalls Assignments.track [] (Assignments.trackColumn "size") (.value none)
          ((firstAndOthers.map (Grouping.joined .and)).map .andWhere)
      ∧ (Delete.allRows Assignments.track).with (oneByOne.map (Grouping.joined .and))
        = (Delete.allRows Assignments.track).with (firstAndOthers.map (Grouping.joined .and))
      ∧ Select.ofCalls ((oneByOne.map (Grouping.joined .and)).map .andWhere
          ++ [.fromSource (.relation (.table Assignments.track)), .allColumns])
        = Select.ofCalls ([.fromSource (.relation (.table Assignments.track)), .allColumns]
          ++ (firstAndOthers.map (Grouping.joined .and)).map .andWhere) := by
  obtain ⟨trees, selects, updates, deletes, -⟩ := grouping_irrelevant
  have tree :=
    trees ((untold "id").or (untold "size")) [.all [], (untold "id").and (untold "size")]
  refine ⟨congrArg expr tree.all, ?_, ?_, ?_, ?_⟩
  · exact (tree.grouped .and _ rfl).trans tree.all.symm
  · exact updates _ aboutTracks _ _ _ _ _ _ _ _ rfl ⟨oneByOne, rfl, rfl⟩
      ⟨firstAndOthers, rfl, rfl⟩
  · exact deletes _ aboutTracks _ _ ⟨oneByOne, rfl, rfl⟩ ⟨firstAndOthers, rfl, rfl⟩
  · exact selects _ _ ⟨rfl, ⟨aboutTracks, ⟨oneByOne, rfl, rfl⟩, ⟨firstAndOthers, rfl, rfl⟩⟩,
      ⟨[], ⟨[], rfl, rfl⟩, ⟨[], rfl, rfl⟩⟩⟩

end Predicate

end TypedSql
