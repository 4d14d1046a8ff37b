import TypedSql.Proofs.Outline.Statement

/-!
# Two runs of the same calls

A statement is put together by a sequence of calls. Two runs make the same calls if they call the
same functions in the same order, on the same tables, columns, tokens and names, and hand on what
the earlier calls gave them; only plain values may differ. The relation has one constructor for each
call, and none for anything else.

A list is passed member by member, so that the lists of two runs are of equal length. A call that
may fail is related where both runs succeed.

**Theorem (`SameCalls.outline_eq`).** What the same calls give has the same outline. The induction
is on the calls: each one commutes with taking outlines.
-/

namespace TypedSql

/-- The forms of what calls take and give. -/
inductive Form where
  | column (t : ValueType)
  | param (t : ValueType)
  | target (t : ValueType)
  | projection (t : ValueType)
  | expression (t : ValueType)
  | operand (t : ValueType)
  | operands (t : ValueType)
  | predicate
  | predicates
  | source
  | placeholder
  | select
  | compound
  | query
  | insert
  | updateDraft
  | update
  | delete
  | statement

namespace Form

abbrev Thing : Form → Type
  | .column t => Column t
  | .param t => Param t
  | .target t => Target t
  | .projection t => Projection t
  | .expression t => Expression t
  | .operand t => Operand t
  | .operands t => List (Operand t)
  | .predicate => Predicate
  | .predicates => List Predicate
  | .source => Source
  | .placeholder => Placeholder
  | .select => Select
  | .compound => Compound
  | .query => Query
  | .insert => Insert
  | .updateDraft => UpdateDraft
  | .update => Update
  | .delete => Delete
  | .statement => Statement

def outline : (f : Form) → f.Thing → f.Thing
  | .column _ => Column.outline
  | .param _ => Param.outline
  | .target _ => Target.outline
  | .projection _ => Projection.outline
  | .expression _ => Expression.outline
  | .operand _ => Operand.outline
  | .operands _ => List.map Operand.outline
  | .predicate => Predicate.outline
  | .predicates => List.map Predicate.outline
  | .source => Source.outline
  | .placeholder => Placeholder.outline
  | .select => Select.outline
  | .compound => Compound.outline
  | .query => Query.outline
  | .insert => Insert.outline
  | .updateDraft => UpdateDraft.outline
  | .update => Update.outline
  | .delete => Delete.outline
  | .statement => Statement.outline

end Form

/-- Two runs give these by the same calls, whatever plain values they pass. -/
inductive SameCalls : (f : Form) → f.Thing → f.Thing → Prop where
  -- Handles that both runs share.
  | column {t : ValueType} (c : Column t) : SameCalls (.column t) c c
  | param {t : ValueType} (p : Param t) : SameCalls (.param t) p p
  | table (t : Table) : SameCalls .source (.relation (.table t)) (.relation (.table t))
  -- Plain values.
  | value {t : ValueType} (v v' : Option t.Value) :
    SameCalls (.operand t) (.value v) (.value v')
  | rowCount (n n' : Int64) : SameCalls .placeholder (rowCount n) (rowCount n')
  | compositeEq {α : Type} (c : CompositeColumn α) (v v' : α) :
    SameCalls .predicate (c.eq v) (c.eq v')
  -- Columns, tokens and labels.
  | resolve {t : ValueType} {s s' : Source} {x x' : Target t} {c c' : Column t} :
    SameCalls .source s s' → SameCalls (.target t) x x' → s.resolve x = .ok c →
      s'.resolve x' = .ok c' → SameCalls (.column t) c c'
  | columnParam {t : ValueType} {c c' : Column t} (id : ParamId) :
    SameCalls (.column t) c c' → SameCalls (.param t) (c.param id) (c'.param id)
  | columnTarget {t : ValueType} {c c' : Column t} :
    SameCalls (.column t) c c' → SameCalls (.target t) c.target c'.target
  | projectionTarget {t : ValueType} {p p' : Projection t} :
    SameCalls (.projection t) p p' → SameCalls (.target t) p.target p'.target
  | label {t : ValueType} {e e' : Expression t} {p p' : Projection t} (id : SetId)
    (name : String) : SameCalls (.expression t) e e' → Projection.label id name e = .ok p →
      Projection.label id name e' = .ok p' → SameCalls (.projection t) p p'
  | token {t : ValueType} {p p' : Param t} :
    SameCalls (.param t) p p' → SameCalls .placeholder p.placeholder p'.placeholder
  -- Expressions.
  | ofColumn {t : ValueType} {c c' : Column t} :
    SameCalls (.column t) c c' → SameCalls (.expression t) c.toExpression c'.toExpression
  | ofParam {t : ValueType} {p p' : Param t} :
    SameCalls (.param t) p p' → SameCalls (.expression t) p.toExpression p'.toExpression
  | ofProjection {t : ValueType} {p p' : Projection t} :
    SameCalls (.projection t) p p' → SameCalls (.expression t) p.toExpression p'.toExpression
  | ofExpression {t : ValueType} {e e' : Expression t} :
    SameCalls (.expression t) e e' →
      SameCalls (.operand t) (.ofExpression e) (.ofExpression e')
  | binary {t : ValueType} {e e' : Expression t} {o o' : Operand t} (op : BinaryOp) :
    SameCalls (.expression t) e e' → SameCalls (.operand t) o o' →
      SameCalls (.expression t) (e.binary op o) (e'.binary op o')
  | countAll : SameCalls (.expression .int64) .countAll .countAll
  | count {t : ValueType} {e e' : Expression t} (distinct : Bool) :
    SameCalls (.expression t) e e' →
      SameCalls (.expression .int64) (e.count distinct) (e'.count distinct)
  | aggregate {t : ValueType} {e e' : Expression t} (f : SqlFunction) :
    SameCalls (.expression t) e e' →
      SameCalls (.expression t) (.aggregate f e) (.aggregate f e')
  | avg {t : ValueType} {e e' : Expression t} :
    SameCalls (.expression t) e e' → SameCalls (.expression .float64) e.avg e'.avg
  | mapped {t : ValueType} {e e' : Expression t} (f : SqlFunction) :
    SameCalls (.expression t) e e' → SameCalls (.expression t) (.mapped f e) (.mapped f e')
  | length {e e' : Expression .text} :
    SameCalls (.expression .text) e e' → SameCalls (.expression .int64) e.length e'.length
  | coalesce {t : ValueType} {e e' : Expression t} {o o' : Operand t} :
    SameCalls (.expression t) e e' → SameCalls (.operand t) o o' →
      SameCalls (.expression t) (e.coalesce o) (e'.coalesce o')
  | cast {t u : ValueType} {e e' : Expression t} (k : Kind u) :
    SameCalls (.expression t) e e' → SameCalls (.expression u) (e.cast k) (e'.cast k)
  | scalar {t : ValueType} {q q' : Select} {x x' : Target t} :
    SameCalls .select q q' → SameCalls (.target t) x x' →
      SameCalls (.expression t) (.scalar q x.descriptor) (.scalar q' x'.descriptor)
  | noOperand {t : ValueType} : SameCalls (.operands t) [] []
  | moreOperands {t : ValueType} {o o' : Operand t} {os os' : List (Operand t)} :
    SameCalls (.operand t) o o' → SameCalls (.operands t) os os' →
      SameCalls (.operands t) (o :: os) (o' :: os')
  -- Conditions.
  | compare {t : ValueType} {e e' : Expression t} {o o' : Operand t} (op : CompareOp) :
    SameCalls (.expression t) e e' → SameCalls (.operand t) o o' →
      SameCalls .predicate (e.compare op o) (e'.compare op o')
  | isNull {t : ValueType} {e e' : Expression t} (negated : Bool) :
    SameCalls (.expression t) e e' → SameCalls .predicate (e.isNull negated) (e'.isNull negated)
  | between {t : ValueType} {e e' : Expression t} {low low' high high' : Operand t}
    (negated : Bool) : SameCalls (.expression t) e e' → SameCalls (.operand t) low low' →
      SameCalls (.operand t) high high' →
      SameCalls .predicate (e.between negated low high) (e'.between negated low' high')
  | inList {t : ValueType} {e e' : Expression t} {os os' : List (Operand t)} (negated : Bool) :
    SameCalls (.expression t) e e' → SameCalls (.operands t) os os' →
      SameCalls .predicate (e.inList negated os) (e'.inList negated os')
  | inQuery {t : ValueType} {e e' : Expression t} {q q' : Select} (negated : Bool) :
    SameCalls (.expression t) e e' → SameCalls .select q q' →
      SameCalls .predicate (e.inQuery negated q) (e'.inQuery negated q')
  | like {e e' : Expression .text} {o o' : Operand .text} (negated : Bool) :
    SameCalls (.expression .text) e e' → SameCalls (.operand .text) o o' →
      SameCalls .predicate (e.like negated o) (e'.like negated o')
  | likeEscape {e e' : Expression .text} {o o' : Operand .text} (escape escape' : Char) :
    SameCalls (.expression .text) e e' → SameCalls (.operand .text) o o' →
      SameCalls .predicate (e.likeEscape o escape) (e'.likeEscape o' escape')
  | toPredicate {e e' : Expression .bool} :
    SameCalls (.expression .bool) e e' → SameCalls .predicate e.toPredicate e'.toPredicate
  | existsIn {q q' : Select} (negated : Bool) :
    SameCalls .select q q' → SameCalls .predicate (.existsIn negated q) (.existsIn negated q')
  | compositeIsNull {α : Type} (c : CompositeColumn α) : SameCalls .predicate c.isNull c.isNull
  | and {p p' r r' : Predicate} : SameCalls .predicate p p' → SameCalls .predicate r r' →
      SameCalls .predicate (p.and r) (p'.and r')
  | or {p p' r r' : Predicate} : SameCalls .predicate p p' → SameCalls .predicate r r' →
      SameCalls .predicate (p.or r) (p'.or r')
  | not {p p' : Predicate} : SameCalls .predicate p p' → SameCalls .predicate p.not p'.not
  | noPredicate : SameCalls .predicates [] []
  | morePredicates {p p' : Predicate} {ps ps' : List Predicate} :
    SameCalls .predicate p p' → SameCalls .predicates ps ps' →
      SameCalls .predicates (p :: ps) (p' :: ps')
  | all {ps ps' : List Predicate} :
    SameCalls .predicates ps ps' → SameCalls .predicate (.all ps) (.all ps')
  | any {ps ps' : List Predicate} :
    SameCalls .predicates ps ps' → SameCalls .predicate (.any ps) (.any ps')
  -- Sources.
  | rename {s s' r r' : Source} (id : SetId) (name : String) :
    SameCalls .source s s' → s.rename id name = .ok r → s'.rename id name = .ok r' →
      SameCalls .source r r'
  | joinOn {l l' r r' : Source} {p p' : Predicate} (kind : JoinKind) :
    SameCalls .source l l' → SameCalls .source r r' → SameCalls .predicate p p' →
      SameCalls .source (.join kind l r (some p.expr)) (.join kind l' r' (some p'.expr))
  | join {l l' r r' : Source} (kind : JoinKind) :
    SameCalls .source l l' → SameCalls .source r r' →
      SameCalls .source (.join kind l r none) (.join kind l' r' none)
  | naturalJoin {l l' r r' : Source} :
    SameCalls .source l l' → SameCalls .source r r' →
      SameCalls .source (l.naturalJoin r) (l'.naturalJoin r')
  | view {q q' : Select} {r r' : Relation} (id : SetId) (name : String) :
    SameCalls .select q q' → Relation.defineView id name q = .ok r →
      Relation.defineView id name q' = .ok r' → SameCalls .source (.relation r) (.relation r')
  | ofQuery {q q' : Query} (id : SetId) :
    SameCalls .query q q' → SameCalls .source (.ofQuery id q) (.ofQuery id q')
  -- Queries.
  | empty : SameCalls .select .empty .empty
  | fromSource {q q' : Select} {s s' : Source} : SameCalls .select q q' →
      SameCalls .source s s' → SameCalls .select (q.fromSource s) (q'.fromSource s')
  | selectColumn {t : ValueType} {q q' : Select} {c c' : Column t} : SameCalls .select q q' →
      SameCalls (.column t) c c' → SameCalls .select (q.column c) (q'.column c')
  | composite {α : Type} {q q' : Select} (c : CompositeColumn α) :
    SameCalls .select q q' → SameCalls .select (q.composite c) (q'.composite c)
  | allColumns {q q' : Select} :
    SameCalls .select q q' → SameCalls .select q.allColumns q'.allColumns
  | project {t : ValueType} {q q' : Select} {p p' : Projection t} : SameCalls .select q q' →
      SameCalls (.projection t) p p' → SameCalls .select (q.project p) (q'.project p')
  | selectDistinct {q q' : Select} :
    SameCalls .select q q' → SameCalls .select q.selectDistinct q'.selectDistinct
  | andWhere {q q' : Select} {p p' : Predicate} : SameCalls .select q q' →
      SameCalls .predicate p p' → SameCalls .select (q.andWhere p) (q'.andWhere p')
  | andHaving {q q' : Select} {p p' : Predicate} : SameCalls .select q q' →
      SameCalls .predicate p p' → SameCalls .select (q.andHaving p) (q'.andHaving p')
  | addGroup {t : ValueType} {q q' : Select} {o o' : Operand t} (k : Kind t) :
    SameCalls .select q q' → SameCalls (.operand t) o o' →
      SameCalls .select (q.addGroup o k) (q'.addGroup o' k)
  | addOrder {t : ValueType} {q q' : Select} {o o' : Operand t} (k : Kind t)
    (order : SortOrder) : SameCalls .select q q' → SameCalls (.operand t) o o' →
      SameCalls .select (q.addOrder o k order) (q'.addOrder o' k order)
  | limit {q q' : Select} {p p' : Placeholder} : SameCalls .select q q' →
      SameCalls .placeholder p p' → SameCalls .select (q.withLimit p) (q'.withLimit p')
  | offset {q q' : Select} {p p' : Placeholder} : SameCalls .select q q' →
      SameCalls .placeholder p p' → SameCalls .select (q.withOffset p) (q'.withOffset p')
  | combine {q q' r r' : Select} (operator : SetOperator) :
    SameCalls .select q q' → SameCalls .select r r' →
      SameCalls .compound (q.combine operator r) (q'.combine operator r')
  | addBranch {q q' : Compound} {r r' : Select} (operator : SetOperator) :
    SameCalls .compound q q' → SameCalls .select r r' →
      SameCalls .compound (q.addBranch operator r) (q'.addBranch operator r')
  | compoundOrder {t : ValueType} {q q' : Compound} {x x' : Target t} (order : SortOrder) :
    SameCalls .compound q q' → SameCalls (.target t) x x' →
      SameCalls .compound (q.addOrder x order) (q'.addOrder x' order)
  | compoundLimit {q q' : Compound} {p p' : Placeholder} : SameCalls .compound q q' →
      SameCalls .placeholder p p' → SameCalls .compound (q.withLimit p) (q'.withLimit p')
  | compoundOffset {q q' : Compound} {p p' : Placeholder} : SameCalls .compound q q' →
      SameCalls .placeholder p p' → SameCalls .compound (q.withOffset p) (q'.withOffset p')
  | ofSelect {q q' : Select} :
    SameCalls .select q q' → SameCalls .query (.select q) (.select q')
  | ofCompound {q q' : Compound} :
    SameCalls .compound q q' → SameCalls .query (.compound q) (.compound q')
  -- Changes.
  | insertInto (t : Table) : SameCalls .insert { table := t } { table := t }
  | insertSet {t : ValueType} {i i' : Insert} {c c' : Column t} {o o' : Operand t} :
    SameCalls .insert i i' → SameCalls (.column t) c c' → SameCalls (.operand t) o o' →
      SameCalls .insert (i.set c o) (i'.set c' o')
  | insertBlank {t : ValueType} {i i' : Insert} {c c' : Column t} :
    SameCalls .insert i i' → SameCalls (.column t) c c' →
      SameCalls .insert (i.setBlank c) (i'.setBlank c')
  | insertComposite {α : Type} {i i' : Insert} (c : CompositeColumn α) (v v' : α) :
    SameCalls .insert i i' → SameCalls .insert (i.setComposite c v) (i'.setComposite c v')
  | onConflict {i i' : Insert} (conflict : Conflict) :
    SameCalls .insert i i' → SameCalls .insert (i.onConflict conflict) (i'.onConflict conflict)
  | updateOf (t : Table) : SameCalls .updateDraft { table := t } { table := t }
  | draftWhere {u u' : UpdateDraft} {p p' : Predicate} : SameCalls .updateDraft u u' →
      SameCalls .predicate p p' → SameCalls .updateDraft (u.andWhere p) (u'.andWhere p')
  | draftSet {t : ValueType} {u u' : UpdateDraft} {c c' : Column t} {o o' : Operand t} :
    SameCalls .updateDraft u u' → SameCalls (.column t) c c' → SameCalls (.operand t) o o' →
      SameCalls .update (u.set c o) (u'.set c' o')
  | updateWhere {u u' : Update} {p p' : Predicate} : SameCalls .update u u' →
      SameCalls .predicate p p' → SameCalls .update (u.andWhere p) (u'.andWhere p')
  | updateSet {t : ValueType} {u u' : Update} {c c' : Column t} {o o' : Operand t} :
    SameCalls .update u u' → SameCalls (.column t) c c' → SameCalls (.operand t) o o' →
      SameCalls .update (u.set c o) (u'.set c' o')
  | deleteAll (t : Table) : SameCalls .delete (.allRows t) (.allRows t)
  | deleteWhere {p p' : Predicate} (t : Table) :
    SameCalls .predicate p p' → SameCalls .delete (.rowsWhere t p) (.rowsWhere t p')
  | deleteAndWhere {d d' : Delete} {p p' : Predicate} : SameCalls .delete d d' →
      SameCalls .predicate p p' → SameCalls .delete (d.andWhere p) (d'.andWhere p')
  -- Statements.
  | query {q q' : Query} : SameCalls .query q q' → SameCalls .statement (.query q) (.query q')
  | insert {i i' : Insert} :
    SameCalls .insert i i' → SameCalls .statement (.insert i) (.insert i')
  | update {u u' : Update} :
    SameCalls .update u u' → SameCalls .statement (.update u) (.update u')
  | delete {d d' : Delete} :
    SameCalls .delete d d' → SameCalls .statement (.delete d) (.delete d')

namespace SameCalls

/-- Calls that may fail: what both runs were given has one outline if the outcomes have. -/
theorem eq_of_map_eq {ε α β : Type} {f : α → β} {r r' : Except ε α} {x x' : α}
    (same : r.map f = r'.map f) (h : r = .ok x) (h' : r' = .ok x') : f x = f x' := by
  subst h h'
  exact Except.ok.inj same

/-- **What the same calls give has the same outline.** -/
theorem outline_eq {f : Form} {x y : f.Thing} (h : SameCalls f x y) :
    f.outline x = f.outline y := by
  induction h with
  | column | param | table | value | rowCount | countAll | noOperand | noPredicate | empty
  | insertInto | updateOf | deleteAll | compositeIsNull => rfl
  | compositeEq c v v' => exact (c.eq_outline v).trans (c.eq_outline v').symm
  -- Calls that may fail.
  | resolve _ _ found found' ihs ihx =>
    have same := congrArg₂ Source.resolve ihs ihx
    exact eq_of_map_eq ((Source.resolve_outline _ _).trans
      (same.trans (Source.resolve_outline _ _).symm)) found found'
  | label id name _ labelled labelled' ih =>
    have same := congrArg (Projection.label id name) ih
    exact eq_of_map_eq ((Projection.label_outline id name _).trans
      (same.trans (Projection.label_outline id name _).symm)) labelled labelled'
  | rename id name _ renamed renamed' ih =>
    have same := congrArg (Source.rename · id name) ih
    exact eq_of_map_eq ((Source.rename_outline _ id name).trans
      (same.trans (Source.rename_outline _ id name).symm)) renamed renamed'
  | view id name _ defined defined' ih =>
    refine congrArg Source.relation ?_
    rw [Relation.defineView_outline defined, Relation.defineView_outline defined']
    exact congrArg (Relation.view id name) ih
  -- Typed handles and expressions.
  | columnParam | columnTarget | projectionTarget | token | ofColumn | ofParam | ofProjection
  | ofExpression | binary | count | aggregate | avg | mapped | length | coalesce | cast
  | moreOperands =>
    simp_all only [Form.outline, Column.param_outline, Column.target_outline,
      Projection.target_outline, Param.placeholder_outline, Column.toExpression_outline,
      Param.toExpression_outline, Projection.toExpression_outline, Operand.ofExpression_outline,
      Expression.binary_outline, Expression.count_outline, Expression.aggregate_outline,
      Expression.avg_outline, Expression.mapped_outline, Expression.length_outline,
      Expression.coalesce_outline, Expression.cast_outline, List.map_cons]
  | scalar _ _ ihq ihx =>
    exact congrArg₂ Expression.scalar ihq (congrArg Target.descriptor ihx)
  -- Conditions.
  | compare | isNull | between | inList | inQuery | like | likeEscape | toPredicate | existsIn
  | and | or | not | morePredicates | all | any =>
    simp_all only [Form.outline, Expression.compare_outline, Expression.isNull_outline,
      Expression.between_outline, Expression.inList_outline, Expression.inQuery_outline,
      Expression.like_outline, Expression.likeEscape_outline, Expression.toPredicate_outline,
      Predicate.existsIn_outline, Predicate.and_outline, Predicate.or_outline,
      Predicate.not_outline, Predicate.all_outline, Predicate.any_outline, List.map_cons]
  -- Sources.
  | joinOn kind _ _ _ ihl ihr ihp =>
    simp only [Form.outline, Source.outline, optionOutline] at ihl ihr ⊢
    rw [ihl, ihr]
    exact congrArg (fun p : Predicate => Source.join kind _ _ (some p.expr)) ihp
  | join | naturalJoin | ofQuery =>
    simp_all only [Form.outline, Source.outline, Source.naturalJoin_outline,
      Source.ofQuery_outline]
  -- Queries.
  | fromSource | selectColumn | composite | allColumns | project | selectDistinct | andWhere
  | andHaving | addGroup | addOrder | limit | offset =>
    simp_all only [Form.outline, Select.fromSource_outline, Select.column_outline,
      Select.composite_outline, Select.allColumns_outline, Select.project_outline,
      Select.selectDistinct_outline, Select.andWhere_outline, Select.andHaving_outline,
      Select.addGroup_outline, Select.addOrder_outline, Select.withLimit_outline,
      Select.withOffset_outline]
  | combine | addBranch | compoundOrder | compoundLimit | compoundOffset | ofSelect | ofCompound =>
    simp_all only [Form.outline, Select.combine_outline, Compound.addBranch_outline,
      Compound.addOrder_outline, Compound.withLimit_outline, Compound.withOffset_outline,
      Query.outline]
  -- Changes.
  | insertSet | insertBlank | insertComposite | onConflict =>
    simp_all only [Form.outline, Insert.set_outline, Insert.setBlank_outline,
      Insert.setComposite_outline, Insert.onConflict_outline]
  | draftWhere | draftSet | updateWhere | updateSet =>
    simp_all only [Form.outline, UpdateDraft.andWhere_outline, UpdateDraft.set_outline,
      Update.andWhere_outline, Update.set_outline]
  | deleteWhere | deleteAndWhere =>
    simp_all only [Form.outline, Delete.rowsWhere_outline, Delete.andWhere_outline]
  | query | insert | update | delete => simp_all only [Form.outline, Statement.outline]

end SameCalls

end TypedSql
