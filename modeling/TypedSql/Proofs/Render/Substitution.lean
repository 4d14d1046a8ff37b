import TypedSql.Proofs.Query.Substitution
import TypedSql.Proofs.Render.Pieces
import TypedSql.Proofs.Render.Written

/-!
# Rendering other placeholders in the same places

**Theorem (`Statement.pieces_subst`).** The pieces of a statement with its placeholders substituted
are its pieces with the slots substituted: rendering hands placeholders on and asks nothing of them.
Where parentheses stand, how result columns are called and which mistakes there are does not depend
on what is bound.
-/

namespace TypedSql

section

variable (σ : Placeholder → Placeholder)

/-! ## Expressions and queries -/

theorem Scope.ofSource_subst (source : Option Source) :
    Scope.ofSource (source.map (Source.subst σ)) = Scope.ofSource source := by
  cases source with
  | none => rfl
  | some s => simp only [Option.map_some, Scope.ofSource, s.name_subst, s.columns_subst]

@[simp] theorem Expr.precedence_subst (e : Expr) : (e.subst σ).precedence = e.precedence := by
  cases e with
  | logical op operands => cases op <;> rfl
  | existsIn negated query => cases negated <;> rfl
  | _ => rfl

@[simp] theorem Expr.isOtherLogical_subst (op : LogicalOp) (e : Expr) :
    (e.subst σ).isOtherLogical op = e.isOtherLogical op := by
  cases e <;> rfl

theorem listedEntries_subst (source : Option Source) (items : List ResultItem) :
    listedEntries (sourceSubst σ source) (itemSubst σ items) = listedEntries source items := by
  rw [sourceSubst_eq, itemSubst_eq]
  cases items with
  | nil => simp only [List.map_nil, listedEntries, Scope.ofSource_subst]
  | cons item rest =>
    simp only [List.map_cons, listedEntries, ResultItem.entry_subst, List.map_map]
    exact List.cons_eq_cons.2 ⟨rfl, List.map_congr_left fun item _ => item.entry_subst σ⟩

theorem sourceParts_subst (columns : List ColumnRef) :
    (sourceParts columns).map (·.map (Piece.subst σ)) = sourceParts columns := by
  simp only [sourceParts, List.map_map]
  exact List.map_congr_left fun c _ => Piece.qualified_subst σ c.qualifier c.name

theorem listedPieces_subst (source : Option Source) (items : List ResultItem)
    (pss : List (List Piece)) :
    listedPieces (sourceSubst σ source) (itemSubst σ items) (pss.map (·.map (Piece.subst σ)))
      = (listedPieces source items pss).map (·.map (Piece.subst σ)) := by
  rw [sourceSubst_eq, itemSubst_eq]
  cases items with
  | nil => simp only [List.map_nil, listedPieces, Scope.ofSource_subst, sourceParts_subst]
  | cons item rest => rfl

/-- The select list, with the names given to its entries. -/
theorem entryPieces_subst (source : Option Source) (items : List ResultItem)
    (pss : List (List Piece)) :
    Piece.separated ", " (selectList []
        ((nameEntries [] (listedEntries (sourceSubst σ source) (itemSubst σ items))).zip
          (listedPieces (sourceSubst σ source) (itemSubst σ items)
            (pss.map (·.map (Piece.subst σ))))))
      = (Piece.separated ", " (selectList []
        ((nameEntries [] (listedEntries source items)).zip
          (listedPieces source items pss)))).map (Piece.subst σ) := by
  rw [listedEntries_subst, listedPieces_subst, List.zip_map_right, selectList_subst,
    Piece.separated_subst]

mutual

theorem Expr.pieces_subst (scopes : List Scope) :
    (e : Expr) → (e.subst σ).pieces scopes = (e.pieces scopes).map (Piece.subst σ)
  | .column c => by
    simp only [Expr.subst, Expr.pieces, List.map_append, scopeFaults_subst, Piece.qualified_subst]
  | .label name => rfl
  | .bind p => rfl
  | .countRows => rfl
  | .compare op lhs rhs | .binary op lhs rhs => by
    simp only [Expr.subst, Expr.pieces, Expr.precedence_subst, lhs.pieces_subst scopes,
      rhs.pieces_subst scopes, Piece.guarded_subst, List.map_append, List.map_cons]
    rfl
  | .like negated e pattern escape => by
    simp only [Expr.subst, Expr.pieces, Expr.precedence_subst, e.pieces_subst scopes,
      pattern.pieces_subst scopes, escapePieces_subst scopes escape, Piece.guarded_subst,
      List.map_append, List.map_cons]
    rfl
  | .isNull negated e => by
    simp only [Expr.subst, Expr.pieces, Expr.precedence_subst, e.pieces_subst scopes,
      Piece.guarded_subst, List.map_append]
    rfl
  | .between negated e low high => by
    simp only [Expr.subst, Expr.pieces, Expr.precedence_subst, e.pieces_subst scopes,
      low.pieces_subst scopes, high.pieces_subst scopes, Piece.guarded_subst, List.map_append,
      List.map_cons]
    rfl
  | .inList negated e [] => rfl
  | .inList negated e (item :: items) => by
    have list : Piece.separated ", " ((item.subst σ).pieces scopes
          :: listPieces scopes (listSubst σ items))
        = (Piece.separated ", " (item.pieces scopes :: listPieces scopes items)).map
          (Piece.subst σ) := by
      rw [item.pieces_subst scopes, listPieces_subst scopes items, ← List.map_cons,
        Piece.separated_subst]
    simp only [Expr.subst, listSubst, Expr.pieces, Expr.precedence_subst, e.pieces_subst scopes,
      list, Piece.guarded_subst, List.map_append, List.map_cons]
    rfl
  | .inQuery negated e query => by
    simp only [Expr.subst, Expr.pieces, Expr.precedence_subst, e.pieces_subst scopes,
      query.pieces_subst scopes, Piece.guarded_subst, Piece.nested_subst, List.map_append,
      List.map_cons]
    rfl
  | .existsIn negated query => by
    simp only [Expr.subst, Expr.pieces, query.pieces_subst scopes, Piece.nested_subst,
      List.map_cons]
    rfl
  | .logical op [] => rfl
  | .logical op (e :: operands) => by
    have list : Piece.guarded (e.isOtherLogical op) ((e.pieces scopes).map (Piece.subst σ))
          :: logicalPieces op scopes (listSubst σ operands)
        = (Piece.guarded (e.isOtherLogical op) (e.pieces scopes)
          :: logicalPieces op scopes operands).map (·.map (Piece.subst σ)) := by
      rw [Piece.guarded_subst, logicalPieces_subst op scopes operands, List.map_cons]
    simp only [Expr.subst, listSubst, Expr.pieces, Expr.isOtherLogical_subst,
      e.pieces_subst scopes, list, Piece.separated_subst]
  | .not e => by
    simp only [Expr.subst, Expr.pieces, Expr.precedence_subst, e.pieces_subst scopes,
      Piece.guarded_subst, List.map_cons]
    rfl
  | .call f distinct args => by
    simp only [Expr.subst, Expr.pieces, listPieces_subst scopes args, Piece.separated_subst,
      List.cons_append, List.map_cons, List.map_append]
    rfl
  | .cast e type => by
    simp only [Expr.subst, Expr.pieces, e.pieces_subst scopes, List.cons_append, List.map_cons,
      List.map_append]
    rfl
  | .scalar query => by
    simp only [Expr.subst, Expr.pieces, query.pieces_subst scopes, Piece.nested_subst]

theorem listPieces_subst (scopes : List Scope) :
    (es : List Expr) → listPieces scopes (listSubst σ es)
      = (listPieces scopes es).map (·.map (Piece.subst σ))
  | [] => rfl
  | e :: rest => by
    simp only [listSubst, listPieces, e.pieces_subst scopes, listPieces_subst scopes rest,
      List.map_cons]

theorem logicalPieces_subst (op : LogicalOp) (scopes : List Scope) :
    (es : List Expr) → logicalPieces op scopes (listSubst σ es)
      = (logicalPieces op scopes es).map (·.map (Piece.subst σ))
  | [] => rfl
  | e :: rest => by
    simp only [listSubst, logicalPieces, Expr.isOtherLogical_subst, e.pieces_subst scopes,
      Piece.guarded_subst, logicalPieces_subst op scopes rest, List.map_cons]

theorem escapePieces_subst (scopes : List Scope) :
    (e : Option Expr) → escapePieces scopes (optionSubst σ e)
      = (escapePieces scopes e).map (Piece.subst σ)
  | none => rfl
  | some e => by
    simp only [optionSubst, escapePieces, Expr.precedence_subst, e.pieces_subst scopes,
      Piece.guarded_subst, List.map_cons]
    rfl

theorem conditionPieces_subst (k : String) (scopes : List Scope) :
    (e : Option Expr) → conditionPieces k scopes (optionSubst σ e)
      = (conditionPieces k scopes e).map (Piece.subst σ)
  | none => rfl
  | some e => by
    simp only [optionSubst, conditionPieces, e.pieces_subst scopes, List.map_cons]
    rfl

theorem itemPieces_subst (scopes : List Scope) :
    (items : List ResultItem) → itemPieces scopes (itemSubst σ items)
      = (itemPieces scopes items).map (·.map (Piece.subst σ))
  | [] => rfl
  | .column c :: rest => by
    simp only [itemSubst, itemPieces, itemPieces_subst scopes rest, List.map_cons,
      Piece.qualified_subst]
  | .labelled _ e _ :: rest => by
    simp only [itemSubst, itemPieces, e.pieces_subst scopes, itemPieces_subst scopes rest,
      List.map_cons]

theorem sortPieces_subst (scopes : List Scope) :
    (terms : List SortTerm) → sortPieces scopes (sortSubst σ terms)
      = (sortPieces scopes terms).map (·.map (Piece.subst σ))
  | [] => rfl
  | ⟨e, order⟩ :: rest => by
    simp only [sortSubst, sortPieces, e.pieces_subst scopes, sortPieces_subst scopes rest,
      List.map_cons, List.map_append]
    rfl

theorem Select.pieces_subst (outer : List Scope) :
    (q : Select) → (q.subst σ).pieces outer = (q.pieces outer).map (Piece.subst σ)
  | ⟨source, distinct, items, filter, groupBy, having, orderBy, limit, offset, errors⟩ => by
    have scope : Scope.ofSource (sourceSubst σ source) = Scope.ofSource source := by
      rw [sourceSubst_eq, Scope.ofSource_subst]
    have listed := entryPieces_subst σ source items (itemPieces (.ofSource source :: outer) items)
    rw [← itemPieces_subst _ items] at listed
    have nothing : ∀ none : Bool,
        (if none then [Piece.fault .noResultColumns] else []).map (Piece.subst σ)
          = if none then [Piece.fault .noResultColumns] else [] := by
      rintro (_ | _) <;> rfl
    rw [Select.subst, Select.pieces_eq, Select.pieces_eq, scope, listed, listedEntries_subst,
      fromPieces_subst _ source, conditionPieces_subst " WHERE " _ filter,
      listPieces_subst _ groupBy, clausePieces_subst, conditionPieces_subst " HAVING " _ having,
      sortPieces_subst _ orderBy, clausePieces_subst, limitPieces_subst]
    simp only [List.map_append, List.map_cons, Piece.map_subst_fault, nothing]
    rfl

theorem fromPieces_subst (scopes : List Scope) :
    (s : Option Source) → fromPieces scopes (sourceSubst σ s)
      = (fromPieces scopes s).map (Piece.subst σ)
  | none => rfl
  | some s => by
    simp only [sourceSubst, fromPieces, s.pieces_subst scopes, List.map_cons]
    rfl

theorem branchPieces_subst (scopes : List Scope) :
    (branches : List Branch) → branchPieces scopes (branchSubst σ branches)
      = (branchPieces scopes branches).map (Piece.subst σ)
  | [] => rfl
  | ⟨operator, query⟩ :: rest => by
    simp only [branchSubst, branchPieces, query.pieces_subst scopes, branchPieces_subst scopes rest,
      List.map_cons, List.map_append]
    rfl

theorem Query.pieces_subst (scopes : List Scope) :
    (q : Query) → (q.subst σ).pieces scopes = (q.pieces scopes).map (Piece.subst σ)
  | .select q => q.pieces_subst scopes
  | .compound ⟨first, branches, orderBy, limit, offset, errors⟩ => by
    have positions : (clausePieces " ORDER BY " (orderBy.map fun (i, order) =>
          [Piece.text (toString (i + 1) ++ order.sql)])).map (Piece.subst σ)
        = clausePieces " ORDER BY " (orderBy.map fun (i, order) =>
          [.text (toString (i + 1) ++ order.sql)]) := by
      rw [← clausePieces_subst, List.map_map]
      rfl
    simp only [Query.subst, Query.pieces, first.pieces_subst scopes,
      branchPieces_subst scopes branches, limitPieces_subst, List.map_append, positions,
      Piece.map_subst_fault]

theorem Relation.pieces_subst (scopes : List Scope) :
    (r : Relation) → (r.subst σ).pieces scopes = (r.pieces scopes).map (Piece.subst σ)
  | .table t => rfl
  | .view _ name _ => rfl
  | .subquery _ query => by
    simp only [Relation.subst, Relation.pieces, query.pieces_subst scopes, Piece.nested_subst]

theorem Source.pieces_subst (scopes : List Scope) :
    (s : Source) → (s.subst σ).pieces scopes = (s.pieces scopes).map (Piece.subst σ)
  | .relation r => r.pieces_subst scopes
  | .alias _ name r => by
    simp only [Source.subst, Source.pieces, r.pieces_subst scopes, List.map_append]
    rfl
  | .join kind lhs rhs on => by
    simp only [Source.subst, Source.pieces, joinErrors_subst, lhs.pieces_subst scopes,
      rhs.pieces_subst scopes, rhs.isJoin_subst, Piece.guarded_subst,
      conditionPieces_subst " ON " scopes on, List.map_append, List.map_cons,
      Piece.map_subst_fault]
    rfl

end

/-! ## Statements -/

/-- What is written for each assignment, where writing hands placeholders on. -/
theorem Assignments.map_subst (a : Assignments) {f : ColumnRef × Expr → List Piece}
    (commutes : ∀ pair, f (pair.1, pair.2.subst σ) = (f pair).map (Piece.subst σ)) :
    (a.subst σ).pairs.map f = (a.pairs.map f).map (·.map (Piece.subst σ)) := by
  simp only [subst, List.map_map]
  exact List.map_congr_left fun pair _ => commutes pair

theorem Insert.pieces_subst (i : Insert) :
    (i.subst σ).pieces = i.pieces.map (Piece.subst σ) := by
  have given : (i.subst σ).values = i.values.subst σ := rfl
  have empty : (i.values.subst σ).pairs.isEmpty = i.values.pairs.isEmpty := by
    simp only [Assignments.subst, List.isEmpty_map]
  simp only [Insert.pieces, given, empty, List.map_append, List.map_cons]
  refine congrArg₂ (· ++ ·) (Piece.map_subst_fault σ _).symm (congrArg (_ :: _ :: ·) ?_)
  cases i.values.pairs.isEmpty with
  | true => rfl
  | false =>
    simp only [Bool.false_eq_true, if_false, List.map_append, List.map_cons]
    rw [Assignments.map_subst, Assignments.map_subst, Piece.separated_subst, Piece.separated_subst]
    · rfl
    · exact fun pair => pair.2.pieces_subst σ []
    · exact fun pair => rfl

theorem Update.pieces_subst (u : Update) :
    (u.subst σ).pieces = u.pieces.map (Piece.subst σ) := by
  have given : (u.subst σ).assignments = u.assignments.subst σ := rfl
  have table : (u.subst σ).table = u.table := rfl
  have filter := conditionPieces_subst σ " WHERE " [u.table.scope] u.filter
  rw [optionSubst_eq] at filter
  simp only [Update.pieces, given, table, List.map_append, List.map_cons]
  rw [Assignments.map_subst, Piece.separated_subst]
  · refine congrArg₂ (· ++ ·) (congrArg₂ (· ++ ·) ?_ rfl) filter
    exact (Piece.map_subst_fault σ _).symm
  · intro pair
    exact congrArg (Piece.name pair.1.name :: Piece.text " = " :: ·) (pair.2.pieces_subst σ _)

theorem Delete.pieces_subst (d : Delete) :
    (d.subst σ).pieces = d.pieces.map (Piece.subst σ) := by
  have filter := conditionPieces_subst σ " WHERE " [d.table.scope] d.filter
  rw [optionSubst_eq] at filter
  exact congrArg (Piece.text "DELETE FROM " :: Piece.name d.table.name :: ·) filter

/-- **Rendering hands placeholders on.** -/
theorem Statement.pieces_subst (s : Statement) :
    (s.subst σ).pieces = s.pieces.map (Piece.subst σ) := by
  cases s with
  | query q => exact q.pieces_subst σ []
  | insert i => exact i.pieces_subst σ
  | update u => exact u.pieces_subst σ
  | delete d => exact d.pieces_subst σ

end

end TypedSql
