import TypedSql.Proofs.Outline.Columns
import TypedSql.Proofs.Render.Pieces
import TypedSql.Proofs.Render.Written

/-!
# Rendering in outline

**Theorem (`Expr.pieces_outline`, `Query.pieces_outline`).** The pieces of an outline are the
outlines of the pieces: rendering looks at no value. Where parentheses stand, how a result column is
called and which columns are out of scope is the same for every tree with that outline.

The text of pieces is that of their outlines, so that it is a function of the outline of the tree.
-/

namespace TypedSql

/-! ## Pieces -/

def Piece.outline : Piece → Piece
  | .slot p => .slot p.outline
  | p => p

theorem Piece.outline_eq_subst : Piece.outline = Piece.subst Placeholder.outline := by
  funext p
  cases p <;> rfl

/-- Values leave no trace in the text. -/
theorem Piece.sqlText_outline (d : Dialect) (ps : List Piece) :
    Piece.sqlText d (ps.map Piece.outline) = Piece.sqlText d ps := by
  rw [outline_eq_subst, sqlText_subst]

theorem Piece.slots_outline (ps : List Piece) :
    Piece.slots (ps.map Piece.outline) = (Piece.slots ps).map Placeholder.outline := by
  rw [outline_eq_subst, slots_subst]

theorem Piece.map_outline_fault (errors : List SchemaError) :
    (errors.map Piece.fault).map Piece.outline = errors.map Piece.fault := by
  rw [outline_eq_subst, map_subst_fault]

/-! ### Composition -/

theorem Piece.separated_outline (s : String) (pss : List (List Piece)) :
    Piece.separated s (pss.map (·.map Piece.outline))
      = (Piece.separated s pss).map Piece.outline := by
  rw [outline_eq_subst, separated_subst]

theorem Piece.guarded_outline (needed : Bool) (ps : List Piece) :
    Piece.guarded needed (ps.map Piece.outline) = (Piece.guarded needed ps).map Piece.outline := by
  rw [outline_eq_subst, guarded_subst]

theorem Piece.nested_outline (ps : List Piece) :
    Piece.nested (ps.map Piece.outline) = (Piece.nested ps).map Piece.outline := by
  rw [outline_eq_subst, nested_subst]

theorem Piece.qualified_outline (qualifier name : String) :
    (Piece.qualified qualifier name).map Piece.outline = Piece.qualified qualifier name := by
  rw [outline_eq_subst, qualified_subst]

theorem clausePieces_outline (k : String) (pss : List (List Piece)) :
    clausePieces k (pss.map (·.map Piece.outline)) = (clausePieces k pss).map Piece.outline := by
  rw [Piece.outline_eq_subst, clausePieces_subst]

theorem limitPieces_outline (limit offset : Option Placeholder) :
    limitPieces (limit.map Placeholder.outline) (offset.map Placeholder.outline)
      = (limitPieces limit offset).map Piece.outline := by
  rw [Piece.outline_eq_subst, limitPieces_subst]

theorem selectList_outline (seen : List String) (entries : List (NamedEntry × List Piece)) :
    selectList seen (entries.map fun (e, ps) => (e.outline, ps.map Piece.outline))
      = (selectList seen entries).map (·.map Piece.outline) := by
  induction entries generalizing seen with
  | nil => rfl
  | cons pair rest ih =>
    obtain ⟨⟨entry, name, renamed⟩, ps⟩ := pair
    have repeated : ∀ known : Bool,
        (if known then [Piece.fault (.duplicateColumn "result" name)] else []).map Piece.outline
          = if known then [Piece.fault (.duplicateColumn "result" name)] else [] := by
      rintro (_ | _) <;> rfl
    simp only [List.map_cons, selectList, List.map_append, ← ih, repeated]
    refine List.cons_eq_cons.2 ⟨congrArg _ ?_, rfl⟩
    cases entry with
    | labelled key type => rfl
    | column c => cases renamed <;> rfl

/-! ## Scopes -/

def Scope.outline (s : Scope) : Scope := { s with columns := s.columns.map ColumnRef.outline }

theorem Scope.ofSource_outline (source : Option Source) :
    Scope.ofSource (source.map Source.outline) = (Scope.ofSource source).outline := by
  cases source with
  | none => rfl
  | some s =>
    simp only [Option.map_some, Scope.ofSource, s.name_outline, s.columns_outline, Scope.outline]

/-- A column is in the same scopes. -/
theorem scopeFaults_outline (scopes : List Scope) (c : ColumnRef) :
    scopeFaults (scopes.map Scope.outline) c.outline
      = (scopeFaults scopes c).map Piece.outline := by
  cases scopes with
  | nil => rfl
  | cons innermost rest =>
    have seen : ((innermost :: rest).map Scope.outline).any
          (fun s => containsKey s.columns c.outline.key)
        = (innermost :: rest).any fun s => containsKey s.columns c.key := by
      simp only [List.any_map, ColumnRef.key_outline]
      exact congrArg (List.any _) (funext fun s => containsKey_outline s.columns c.key)
    rw [List.map_cons] at seen
    simp only [List.map_cons, scopeFaults, seen]
    split <;> rfl

/-! ## Expressions and queries -/

namespace Expr

@[simp] theorem precedence_outline (e : Expr) : e.outline.precedence = e.precedence := by
  cases e with
  | logical op operands => cases op <;> rfl
  | existsIn negated query => cases negated <;> rfl
  | _ => rfl

@[simp] theorem isOtherLogical_outline (op : LogicalOp) (e : Expr) :
    e.outline.isOtherLogical op = e.isOtherLogical op := by
  cases e <;> rfl

end Expr

theorem sourceParts_outline (columns : List ColumnRef) :
    sourceParts (columns.map ColumnRef.outline)
      = (sourceParts columns).map (·.map Piece.outline) := by
  simp only [sourceParts, List.map_map]
  refine List.map_congr_left fun c _ => ?_
  exact (Piece.qualified_outline c.qualifier c.name).symm

theorem listedEntries_outline (source : Option Source) (items : List ResultItem) :
    listedEntries (sourceOutline source) (itemOutline items)
      = (listedEntries source items).map ResultEntry.outline := by
  rw [sourceOutline_eq, itemOutline_eq]
  cases items with
  | nil =>
    simp only [List.map_nil, listedEntries, Scope.ofSource_outline, Scope.outline, List.map_map]
    rfl
  | cons item rest =>
    simp only [List.map_cons, listedEntries, ResultItem.entry_outline, List.map_map]
    refine List.cons_eq_cons.2 ⟨rfl, List.map_congr_left fun item _ => item.entry_outline⟩

theorem listedPieces_outline (source : Option Source) (items : List ResultItem)
    (pss : List (List Piece)) :
    listedPieces (sourceOutline source) (itemOutline items) (pss.map (·.map Piece.outline))
      = (listedPieces source items pss).map (·.map Piece.outline) := by
  rw [sourceOutline_eq, itemOutline_eq]
  cases items with
  | nil => simp only [List.map_nil, listedPieces, Scope.ofSource_outline, Scope.outline,
      sourceParts_outline]
  | cons item rest => rfl

/-- The select list, with the names given to its entries. -/
theorem entryPieces_outline (source : Option Source) (items : List ResultItem)
    (pss : List (List Piece)) :
    Piece.separated ", " (selectList []
        ((nameEntries [] (listedEntries (sourceOutline source) (itemOutline items))).zip
          (listedPieces (sourceOutline source) (itemOutline items)
            (pss.map (·.map Piece.outline)))))
      = (Piece.separated ", " (selectList []
        ((nameEntries [] (listedEntries source items)).zip
          (listedPieces source items pss)))).map Piece.outline := by
  rw [listedEntries_outline, listedPieces_outline, nameEntries_outline, List.zip_map,
    ← Piece.separated_outline, ← selectList_outline]
  rfl

mutual

theorem Expr.pieces_outline (scopes : List Scope) :
    (e : Expr) → e.outline.pieces (scopes.map Scope.outline) = (e.pieces scopes).map Piece.outline
  | .column c => by
    simp only [Expr.outline, Expr.pieces, scopeFaults_outline, List.map_append,
      Piece.qualified_outline, ColumnRef.qualifier_outline, ColumnRef.name_outline]
  | .label name => rfl
  | .bind p => rfl
  | .countRows => rfl
  | .compare op lhs rhs | .binary op lhs rhs => by
    simp only [Expr.outline, Expr.pieces, Expr.precedence_outline, lhs.pieces_outline scopes,
      rhs.pieces_outline scopes, Piece.guarded_outline, List.map_append, List.map_cons]
    rfl
  | .like negated e pattern escape => by
    simp only [Expr.outline, Expr.pieces, Expr.precedence_outline, e.pieces_outline scopes,
      pattern.pieces_outline scopes, escapePieces_outline scopes escape, Piece.guarded_outline,
      List.map_append, List.map_cons]
    rfl
  | .isNull negated e => by
    simp only [Expr.outline, Expr.pieces, Expr.precedence_outline, e.pieces_outline scopes,
      Piece.guarded_outline, List.map_append]
    rfl
  | .between negated e low high => by
    simp only [Expr.outline, Expr.pieces, Expr.precedence_outline, e.pieces_outline scopes,
      low.pieces_outline scopes, high.pieces_outline scopes, Piece.guarded_outline,
      List.map_append, List.map_cons]
    rfl
  | .inList negated e [] => rfl
  | .inList negated e (item :: items) => by
    have list : Piece.separated ", " (item.outline.pieces (scopes.map Scope.outline)
          :: listPieces (scopes.map Scope.outline) (listOutline items))
        = (Piece.separated ", " (item.pieces scopes :: listPieces scopes items)).map
          Piece.outline := by
      rw [item.pieces_outline scopes, listPieces_outline scopes items, ← List.map_cons,
        Piece.separated_outline]
    simp only [Expr.outline, listOutline, Expr.pieces, Expr.precedence_outline,
      e.pieces_outline scopes, list, Piece.guarded_outline, List.map_append, List.map_cons]
    rfl
  | .inQuery negated e query => by
    simp only [Expr.outline, Expr.pieces, Expr.precedence_outline, e.pieces_outline scopes,
      query.pieces_outline scopes, Piece.guarded_outline, Piece.nested_outline, List.map_append,
      List.map_cons]
    rfl
  | .existsIn negated query => by
    simp only [Expr.outline, Expr.pieces, query.pieces_outline scopes, Piece.nested_outline,
      List.map_cons]
    rfl
  | .logical op [] => rfl
  | .logical op (e :: operands) => by
    have list : Piece.guarded (e.isOtherLogical op) ((e.pieces scopes).map Piece.outline)
          :: logicalPieces op (scopes.map Scope.outline) (listOutline operands)
        = (Piece.guarded (e.isOtherLogical op) (e.pieces scopes)
          :: logicalPieces op scopes operands).map (·.map Piece.outline) := by
      rw [Piece.guarded_outline, logicalPieces_outline op scopes operands, List.map_cons]
    simp only [Expr.outline, listOutline, Expr.pieces, Expr.isOtherLogical_outline,
      e.pieces_outline scopes, list, Piece.separated_outline]
  | .not e => by
    simp only [Expr.outline, Expr.pieces, Expr.precedence_outline, e.pieces_outline scopes,
      Piece.guarded_outline, List.map_cons]
    rfl
  | .call f distinct args => by
    simp only [Expr.outline, Expr.pieces, listPieces_outline scopes args,
      Piece.separated_outline, List.cons_append, List.map_cons, List.map_append]
    rfl
  | .cast e type => by
    simp only [Expr.outline, Expr.pieces, e.pieces_outline scopes, List.cons_append,
      List.map_cons, List.map_append]
    rfl
  | .scalar query => by
    simp only [Expr.outline, Expr.pieces, query.pieces_outline scopes, Piece.nested_outline]

theorem listPieces_outline (scopes : List Scope) :
    (es : List Expr) → listPieces (scopes.map Scope.outline) (listOutline es)
      = (listPieces scopes es).map (·.map Piece.outline)
  | [] => rfl
  | e :: rest => by
    simp only [listOutline, listPieces, e.pieces_outline scopes, listPieces_outline scopes rest,
      List.map_cons]

theorem logicalPieces_outline (op : LogicalOp) (scopes : List Scope) :
    (es : List Expr) → logicalPieces op (scopes.map Scope.outline) (listOutline es)
      = (logicalPieces op scopes es).map (·.map Piece.outline)
  | [] => rfl
  | e :: rest => by
    simp only [listOutline, logicalPieces, Expr.isOtherLogical_outline, e.pieces_outline scopes,
      Piece.guarded_outline, logicalPieces_outline op scopes rest, List.map_cons]

theorem escapePieces_outline (scopes : List Scope) :
    (e : Option Expr) → escapePieces (scopes.map Scope.outline) (optionOutline e)
      = (escapePieces scopes e).map Piece.outline
  | none => rfl
  | some e => by
    simp only [optionOutline, escapePieces, Expr.precedence_outline, e.pieces_outline scopes,
      Piece.guarded_outline, List.map_cons]
    rfl

theorem conditionPieces_outline (k : String) (scopes : List Scope) :
    (e : Option Expr) → conditionPieces k (scopes.map Scope.outline) (optionOutline e)
      = (conditionPieces k scopes e).map Piece.outline
  | none => rfl
  | some e => by
    simp only [optionOutline, conditionPieces, e.pieces_outline scopes, List.map_cons]
    rfl

theorem itemPieces_outline (scopes : List Scope) :
    (items : List ResultItem) → itemPieces (scopes.map Scope.outline) (itemOutline items)
      = (itemPieces scopes items).map (·.map Piece.outline)
  | [] => rfl
  | .column c :: rest => by
    simp only [itemOutline, itemPieces, itemPieces_outline scopes rest, List.map_cons,
      Piece.qualified_outline, ColumnRef.qualifier_outline, ColumnRef.name_outline]
  | .labelled _ e _ :: rest => by
    simp only [itemOutline, itemPieces, e.pieces_outline scopes, itemPieces_outline scopes rest,
      List.map_cons]

theorem sortPieces_outline (scopes : List Scope) :
    (terms : List SortTerm) → sortPieces (scopes.map Scope.outline) (sortOutline terms)
      = (sortPieces scopes terms).map (·.map Piece.outline)
  | [] => rfl
  | ⟨e, order⟩ :: rest => by
    simp only [sortOutline, sortPieces, e.pieces_outline scopes, sortPieces_outline scopes rest,
      List.map_cons, List.map_append]
    rfl

theorem Select.pieces_outline (outer : List Scope) :
    (q : Select) →
      q.outline.pieces (outer.map Scope.outline) = (q.pieces outer).map Piece.outline
  | ⟨source, distinct, items, filter, groupBy, having, orderBy, limit, offset, errors⟩ => by
    have scopes : Scope.ofSource (sourceOutline source) :: outer.map Scope.outline
        = (Scope.ofSource source :: outer).map Scope.outline := by
      rw [sourceOutline_eq, Scope.ofSource_outline, List.map_cons]
    have listed := entryPieces_outline source items (itemPieces (.ofSource source :: outer) items)
    rw [← itemPieces_outline _ items] at listed
    have empty : (listedEntries (sourceOutline source) (itemOutline items)).isEmpty
        = (listedEntries source items).isEmpty := by
      rw [listedEntries_outline, List.isEmpty_map]
    have nothing : ∀ none : Bool,
        (if none then [Piece.fault .noResultColumns] else []).map Piece.outline
          = if none then [Piece.fault .noResultColumns] else [] := by
      rintro (_ | _) <;> rfl
    rw [Select.outline, Select.pieces_eq, Select.pieces_eq, scopes, listed, empty,
      fromPieces_outline _ source, conditionPieces_outline " WHERE " _ filter,
      listPieces_outline _ groupBy, clausePieces_outline,
      conditionPieces_outline " HAVING " _ having, sortPieces_outline _ orderBy,
      clausePieces_outline, limitPieces_outline]
    simp only [List.map_append, List.map_cons, Piece.map_outline_fault, nothing]
    rfl

theorem fromPieces_outline (scopes : List Scope) :
    (s : Option Source) → fromPieces (scopes.map Scope.outline) (sourceOutline s)
      = (fromPieces scopes s).map Piece.outline
  | none => rfl
  | some s => by
    simp only [sourceOutline, fromPieces, s.pieces_outline scopes, List.map_cons]
    rfl

theorem branchPieces_outline (scopes : List Scope) :
    (branches : List Branch) →
      branchPieces (scopes.map Scope.outline) (branchOutline branches)
        = (branchPieces scopes branches).map Piece.outline
  | [] => rfl
  | ⟨operator, query⟩ :: rest => by
    simp only [branchOutline, branchPieces, query.pieces_outline scopes,
      branchPieces_outline scopes rest, List.map_cons, List.map_append]
    rfl

theorem Query.pieces_outline (scopes : List Scope) :
    (q : Query) → q.outline.pieces (scopes.map Scope.outline) = (q.pieces scopes).map Piece.outline
  | .select q => q.pieces_outline scopes
  | .compound ⟨first, branches, orderBy, limit, offset, errors⟩ => by
    have positions : (clausePieces " ORDER BY " (orderBy.map fun (i, order) =>
          [Piece.text (toString (i + 1) ++ order.sql)])).map Piece.outline
        = clausePieces " ORDER BY " (orderBy.map fun (i, order) =>
          [.text (toString (i + 1) ++ order.sql)]) := by
      rw [← clausePieces_outline, List.map_map]
      rfl
    simp only [Query.outline, Compound.outline, Query.pieces, first.pieces_outline scopes,
      branchPieces_outline scopes branches, limitPieces_outline, List.map_append, positions,
      Piece.map_outline_fault]

theorem Relation.pieces_outline (scopes : List Scope) :
    (r : Relation) →
      r.outline.pieces (scopes.map Scope.outline) = (r.pieces scopes).map Piece.outline
  | .table t => rfl
  | .view _ name _ => rfl
  | .subquery _ query => by
    simp only [Relation.outline, Relation.pieces, query.pieces_outline scopes,
      Piece.nested_outline]

theorem Source.pieces_outline (scopes : List Scope) :
    (s : Source) → s.outline.pieces (scopes.map Scope.outline) = (s.pieces scopes).map Piece.outline
  | .relation r => r.pieces_outline scopes
  | .alias _ name r => by
    simp only [Source.outline, Source.pieces, r.pieces_outline scopes, List.map_append]
    rfl
  | .join kind lhs rhs on => by
    simp only [Source.outline, Source.pieces, joinErrors_outline, lhs.pieces_outline scopes,
      rhs.pieces_outline scopes, rhs.isJoin_outline, Piece.guarded_outline,
      conditionPieces_outline " ON " scopes on, List.map_append, List.map_cons,
      Piece.map_outline_fault]
    rfl

end

end TypedSql
