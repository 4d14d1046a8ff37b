import TypedSql.Proofs.Outline.Pieces
import TypedSql.Proofs.Run.Lookup

/-!
# Building in outline

Every call by which expressions, conditions, queries and changes are put together commutes with
taking outlines: the outline of the result is what the call makes of the outlines of its arguments.
A plain value has the same outline as every other one, so that nothing depends on it.

One lemma for each call, in the order of the modules that define the calls.
-/

namespace TypedSql

variable {t u : ValueType}

/-! ## Typed handles -/

def Descriptor.outline (d : Descriptor t) : Descriptor t := d.withNullable true

@[simp] theorem Descriptor.erase_outline (d : Descriptor t) : d.outline.erase = d.erase.outline :=
  rfl

@[simp] theorem Descriptor.outline_withNullable (d : Descriptor t) (nullable : Bool) :
    (d.withNullable nullable).outline = d.outline := rfl

def Column.outline (c : Column t) : Column t := ⟨c.ref.outline, c.descriptor.outline⟩

def Param.outline (p : Param t) : Param t := ⟨p.id, p.descriptor.outline⟩

def Target.outline (x : Target t) : Target t := { x with descriptor := x.descriptor.outline }

def Projection.outline (p : Projection t) : Projection t :=
  ⟨p.key, p.expr.outline, p.descriptor.outline⟩

def Expression.outline (e : Expression t) : Expression t := ⟨e.expr.outline, e.descriptor.outline⟩

/-- Plain values have one outline, that of NULL. -/
def Operand.outline : Operand t → Operand t
  | .expr e _ => .expr e.outline true
  | .value _ => .null

def Predicate.outline (p : Predicate) : Predicate := ⟨p.expr.outline⟩

theorem Column.target_outline (c : Column t) : c.target.outline = c.outline.target := rfl

theorem Column.toExpression_outline (c : Column t) :
    c.toExpression.outline = c.outline.toExpression := rfl

theorem Column.param_outline (c : Column t) (id : ParamId) :
    (c.param id).outline = c.outline.param id := rfl

theorem Param.toExpression_outline (p : Param t) :
    p.toExpression.outline = p.outline.toExpression := rfl

theorem Param.placeholder_outline (p : Param t) : p.placeholder.outline = p.outline.placeholder :=
  rfl

namespace Projection

theorem label_outline (id : SetId) (name : String) (e : Expression t) :
    (label id name e).map outline = label id name e.outline := by
  simp only [label]
  cases validateName name <;> rfl

theorem target_outline (p : Projection t) : p.target.outline = p.outline.target := rfl

theorem toExpression_outline (p : Projection t) :
    p.toExpression.outline = p.outline.toExpression := rfl

end Projection

namespace Operand

theorem ofExpression_outline (e : Expression t) :
    (ofExpression e).outline = ofExpression e.outline := rfl

@[simp] theorem toExpr_outline (o : Operand t) (d : Descriptor t) :
    (o.toExpr d).outline = o.outline.toExpr d.outline := by
  cases o <;> rfl

@[simp] theorem toLoneExpr_outline (o : Operand t) (k : Kind t) :
    (o.toLoneExpr k).outline = o.outline.toLoneExpr k := o.toExpr_outline _

theorem map_toExpr_outline (os : List (Operand t)) (d : Descriptor t) :
    (os.map (·.toExpr d)).map Expr.outline = (os.map outline).map (·.toExpr d.outline) := by
  simp only [List.map_map]
  exact List.map_congr_left fun o _ => o.toExpr_outline d

end Operand

/-! ## Expressions -/

namespace Expression

theorem binary_outline (op : BinaryOp) (e : Expression t) (o : Operand t) :
    (binary op e o).outline = binary op e.outline o.outline := by
  simp only [binary, outline, Expr.outline, Operand.toExpr_outline]
  rfl

/-- The outline has forgotten that a count is never NULL. -/
theorem count_outline (e : Expression t) (distinct : Bool) :
    (count e distinct).outline = ⟨(count e.outline distinct).expr, whole true⟩ := rfl

theorem aggregate_outline (f : SqlFunction) (e : Expression t) :
    (aggregate f e).outline = aggregate f e.outline := rfl

theorem avg_outline (e : Expression t) : (avg e).outline = avg e.outline := rfl

theorem mapped_outline (f : SqlFunction) (e : Expression t) :
    (mapped f e).outline = mapped f e.outline := rfl

theorem length_outline (e : Expression .text) : (length e).outline = length e.outline := rfl

theorem coalesce_outline (e : Expression t) (o : Operand t) :
    (coalesce e o).outline = coalesce e.outline o.outline := by
  cases o <;> rfl

theorem cast_outline (e : Expression t) (k : Kind u) : (cast e k).outline = cast e.outline k := rfl

end Expression

/-! ## Conditions -/

namespace Expr

theorem operandsOf_outline (op : LogicalOp) (e : Expr) :
    (e.operandsOf op).map outline = e.outline.operandsOf op := by
  cases e with
  | logical inner operands =>
    simp only [operandsOf, outline, listOutline_eq]
    split <;> simp only [List.map_cons, List.map_nil, outline, listOutline_eq]
  | _ => rfl

theorem combine_outline (op : LogicalOp) (lhs rhs : Expr) :
    (combine op lhs rhs).outline = combine op lhs.outline rhs.outline := by
  simp only [combine, outline, listOutline_eq, List.map_append, operandsOf_outline]

theorem negate_outline (e : Expr) : e.negate.outline = e.outline.negate := by
  cases e <;> rfl

theorem andAlso_outline (filter : Option Expr) (e : Expr) :
    (andAlso filter e).outline = andAlso (filter.map outline) e.outline := by
  cases filter with
  | none => rfl
  | some f => exact combine_outline .and f e

end Expr

namespace Predicate

theorem and_outline (p q : Predicate) : (p.and q).outline = p.outline.and q.outline :=
  congrArg mk (Expr.combine_outline .and p.expr q.expr)

theorem or_outline (p q : Predicate) : (p.or q).outline = p.outline.or q.outline :=
  congrArg mk (Expr.combine_outline .or p.expr q.expr)

theorem not_outline (p : Predicate) : p.not.outline = p.outline.not :=
  congrArg mk p.expr.negate_outline

theorem fold_outline (op : LogicalOp) (ps : List Predicate) :
    (fold op ps).outline = fold op (ps.map outline) := by
  cases ps with
  | nil => rfl
  | cons p rest =>
    refine congrArg mk ?_
    show (rest.foldl (fun e q => Expr.combine op e q.expr) p.expr).outline
      = (rest.map outline).foldl (fun e q => Expr.combine op e q.expr) p.expr.outline
    generalize p.expr = e
    induction rest generalizing e with
    | nil => rfl
    | cons q rest ih =>
      rw [List.foldl_cons, ih, Expr.combine_outline]
      rfl

theorem all_outline (ps : List Predicate) : (all ps).outline = all (ps.map outline) :=
  fold_outline .and ps

theorem any_outline (ps : List Predicate) : (any ps).outline = any (ps.map outline) :=
  fold_outline .or ps

theorem existsIn_outline (negated : Bool) (q : Select) :
    (existsIn negated q).outline = existsIn negated q.outline := rfl

end Predicate

namespace Expression

theorem compare_outline (op : CompareOp) (e : Expression t) (o : Operand t) :
    (compare op e o).outline = compare op e.outline o.outline := by
  simp only [compare, Predicate.outline, Expr.outline, Operand.toExpr_outline, outline]

theorem isNull_outline (e : Expression t) (negated : Bool) :
    (e.isNull negated).outline = e.outline.isNull negated := rfl

theorem between_outline (e : Expression t) (negated : Bool) (low high : Operand t) :
    (e.between negated low high).outline = e.outline.between negated low.outline high.outline := by
  simp only [between, Predicate.outline, Expr.outline, Operand.toExpr_outline, outline]

theorem inList_outline (e : Expression t) (negated : Bool) (items : List (Operand t)) :
    (e.inList negated items).outline = e.outline.inList negated (items.map Operand.outline) := by
  simp only [inList, Predicate.outline, Expr.outline, listOutline_eq,
    Operand.map_toExpr_outline, outline]

theorem inQuery_outline (e : Expression t) (negated : Bool) (q : Select) :
    (e.inQuery negated q).outline = e.outline.inQuery negated q.outline := rfl

theorem like_outline (e : Expression .text) (negated : Bool) (pattern : Operand .text) :
    (e.like negated pattern).outline = e.outline.like negated pattern.outline := by
  simp only [like, Predicate.outline, Expr.outline, Operand.toExpr_outline, optionOutline,
    outline]

/-- The escape character is a plain value too. -/
theorem likeEscape_outline (e : Expression .text) (pattern : Operand .text) (escape : Char) :
    (e.likeEscape pattern escape).outline
      = ⟨.like false e.outline.expr (pattern.outline.toExpr e.outline.descriptor)
          (some (Operand.null.toExpr e.outline.descriptor))⟩ := by
  simp only [likeEscape, Predicate.outline, Expr.outline, Operand.toExpr_outline, optionOutline,
    outline]
  rfl

theorem toPredicate_outline (e : Expression .bool) :
    e.toPredicate.outline = e.outline.toPredicate := rfl

end Expression

namespace CompositeColumn

variable {α : Type}

/-- The components of a value are plain values. -/
theorem presets_outline (c : CompositeColumn α) (value : α) :
    (c.presets value).map Placeholder.outline
      = c.parts.map fun part => .preset part.type.outline (.ok .null) := by
  refine List.ext_getElem (by simp [presets]) fun i _ _ => ?_
  simp [presets, Placeholder.outline]

theorem eq_outline (c : CompositeColumn α) (value : α) :
    (c.eq value).outline
      = .all (c.parts.zipWith (fun part p => ⟨.compare .eq (.column part.outline) (.bind p)⟩)
          (c.parts.map fun part => .preset part.type.outline (.ok .null))) := by
  rw [eq, Predicate.all_outline, List.map_zipWith, ← c.presets_outline value,
    List.zipWith_map_right]
  rfl

end CompositeColumn

/-! ## Sources -/

namespace Source

theorem resolve_outline (s : Source) (x : Target t) :
    (s.resolve x).map Column.outline = s.outline.resolve x.outline := by
  have key : x.outline.key = x.key := rfl
  simp only [resolve, key, s.find?_outline, s.name_outline]
  cases s.find? x.key <;> rfl

theorem rename_outline (s : Source) (id : SetId) (name : String) :
    (s.rename id name).map outline = s.outline.rename id name := by
  simp only [rename]
  cases validateName name with
  | error e => rfl
  | ok u =>
    rcases s with r | ⟨_, _, r⟩ | ⟨kind, lhs, rhs, on⟩
    · rfl
    · rfl
    · simp only [outline, Source.name, lhs.name_outline, rhs.name_outline]
      rfl

theorem sharedColumns_outline (lhs rhs : Source) :
    sharedColumns lhs.outline rhs.outline
      = (sharedColumns lhs rhs).map fun (l, r) => (l.outline, r.outline) := by
  simp only [sharedColumns, lhs.columns_outline, rhs.columns_outline, List.filterMap_map,
    List.map_filterMap]
  refine congrArg (List.filterMap · lhs.columns) (funext fun l => ?_)
  simp only [Function.comp_apply, List.find?_map, Option.map_map]
  rfl

theorem naturalJoin_outline (lhs rhs : Source) :
    (naturalJoin lhs rhs).outline = naturalJoin lhs.outline rhs.outline := by
  simp only [naturalJoin, sharedColumns_outline]
  cases sharedColumns lhs rhs with
  | nil => rfl
  | cons pair rest =>
    have equalities : ∀ ps,
        (Predicate.all ps).expr.outline = (Predicate.all (ps.map .outline)).expr :=
      fun ps => congrArg Predicate.expr (Predicate.all_outline ps)
    simp only [List.map_cons, outline, optionOutline, equalities, List.map_map]
    rfl

theorem ofQuery_outline (id : SetId) (q : Query) : (ofQuery id q).outline = ofQuery id q.outline :=
  rfl

end Source

theorem Relation.defineView_outline {id : SetId} {name : String} {q : Select} {r : Relation}
    (h : Relation.defineView id name q = .ok r) : r.outline = .view id name q.outline := by
  rw [defineView_eq_ok h]
  rfl

/-! ## Queries -/

namespace Select

theorem fromSource_outline (q : Select) (s : Source) :
    (q.fromSource s).outline = q.outline.fromSource s.outline := by
  simp only [fromSource, outline_eq, Option.map_some]

theorem sourceName_outline (q : Select) : q.outline.sourceName = q.sourceName := by
  obtain ⟨source, distinct, items, filter, groupBy, having, orderBy, limit, offset, errors⟩ := q
  cases source with
  | none => rfl
  | some s => exact s.name_outline

theorem columnRef_outline (q : Select) (c : ColumnRef) :
    (q.columnRef c).outline = q.outline.columnRef c.outline := by
  have contained : (q.outline.source.map (·.contains c.outline.key)).getD false
      = (q.source.map (·.contains c.key)).getD false := by
    rw [q.outline_eq]
    cases q.source with
    | none => rfl
    | some s => exact s.contains_outline c.key
  simp only [columnRef, contained, sourceName_outline, ColumnRef.display_outline]
  split <;> simp [outline_eq, ResultItem.outline]

theorem column_outline (q : Select) (c : Column t) :
    (q.column c).outline = q.outline.column c.outline := q.columnRef_outline c.ref

theorem composite_outline {α : Type} (q : Select) (c : CompositeColumn α) :
    (q.composite c).outline = (c.parts.map ColumnRef.outline).foldl columnRef q.outline := by
  simp only [composite]
  generalize c.parts = parts
  induction parts generalizing q with
  | nil => rfl
  | cons part rest ih => rw [List.foldl_cons, ih, columnRef_outline, List.map_cons, List.foldl_cons]

theorem allColumns_outline (q : Select) : q.allColumns.outline = q.outline.allColumns := by
  obtain ⟨source, distinct, items, filter, groupBy, having, orderBy, limit, offset, errors⟩ := q
  cases source with
  | none => rfl
  | some s =>
    simp only [allColumns, outline_eq, Option.map_some, s.columns_outline, List.map_append,
      List.map_map]
    rfl

theorem project_outline (q : Select) (p : Projection t) :
    (q.project p).outline = q.outline.project p.outline := by
  simp only [project, outline_eq, List.map_append]
  rfl

theorem selectDistinct_outline (q : Select) :
    q.selectDistinct.outline = q.outline.selectDistinct := by
  simp only [selectDistinct, outline_eq]

theorem andWhere_outline (q : Select) (p : Predicate) :
    (q.andWhere p).outline = q.outline.andWhere p.outline := by
  simp only [andWhere, outline_eq, Option.map_some, Expr.andAlso_outline, Predicate.outline]

theorem andHaving_outline (q : Select) (p : Predicate) :
    (q.andHaving p).outline = q.outline.andHaving p.outline := by
  simp only [andHaving, outline_eq, Option.map_some, Expr.andAlso_outline, Predicate.outline]

theorem addGroup_outline (q : Select) (o : Operand t) (k : Kind t) :
    (q.addGroup o k).outline = q.outline.addGroup o.outline k := by
  simp only [addGroup, outline_eq, List.map_append, List.map_cons, List.map_nil,
    Operand.toLoneExpr_outline]

theorem addOrder_outline (q : Select) (o : Operand t) (k : Kind t) (order : SortOrder) :
    (q.addOrder o k order).outline = q.outline.addOrder o.outline k order := by
  simp only [addOrder, outline_eq, List.map_append, List.map_cons, List.map_nil,
    SortTerm.outline, Operand.toLoneExpr_outline]

theorem withLimit_outline (q : Select) (p : Placeholder) :
    (q.withLimit p).outline = q.outline.withLimit p.outline := by
  simp only [withLimit, outline_eq, Option.map_some]

theorem withOffset_outline (q : Select) (p : Placeholder) :
    (q.withOffset p).outline = q.outline.withOffset p.outline := by
  simp only [withOffset, outline_eq, Option.map_some]

theorem combine_outline (q : Select) (operator : SetOperator) (other : Select) :
    (q.combine operator other).outline = q.outline.combine operator other.outline := rfl

end Select

namespace Compound

theorem addBranch_outline (q : Compound) (operator : SetOperator) (other : Select) :
    (q.addBranch operator other).outline = q.outline.addBranch operator other.outline := by
  simp only [addBranch, outline_eq, List.map_append, List.map_cons, List.map_nil, Branch.outline]

theorem addOrder_outline (q : Compound) (x : Target t) (order : SortOrder) :
    (q.addOrder x order).outline = q.outline.addOrder x.outline order := by
  have position : resultIndex? q.outline.resultColumns x.outline.key
      = resultIndex? q.resultColumns x.key := by
    rw [q.resultColumns_outline]
    exact resultIndex?_outline _ _
  simp only [addOrder, position]
  cases resultIndex? q.resultColumns x.key <;> simp [outline_eq, Target.outline]

theorem withLimit_outline (q : Compound) (p : Placeholder) :
    (q.withLimit p).outline = q.outline.withLimit p.outline := by
  simp only [withLimit, outline_eq, Option.map_some]

theorem withOffset_outline (q : Compound) (p : Placeholder) :
    (q.withOffset p).outline = q.outline.withOffset p.outline := by
  simp only [withOffset, outline_eq, Option.map_some]

end Compound

end TypedSql
