import TypedSql.Proofs.Outline.Building

/-!
# Changes in outline

Calls that put an INSERT, an UPDATE or a DELETE together commute with taking outlines, as those for
queries do.

**Theorem (`Statement.pieces_outline`).** The pieces of a statement's outline are the outlines of
its pieces.
-/

namespace TypedSql

variable {t : ValueType}

/-! ## Changes -/

namespace Assignments

def outline (a : Assignments) : Assignments where
  pairs := a.pairs.map fun (c, e) => (c.outline, e.outline)
  errors := a.errors

theorem give_outline (a : Assignments) (table : Table) (c : ColumnRef) (e : Expr) :
    (a.give table c e).outline = a.outline.give table.outline c.outline e.outline := by
  have given : a.outline.pairs.any (·.1.key == c.key) = a.pairs.any (·.1.key == c.key) := by
    simp only [outline, List.any_map]
    rfl
  have owned : containsKey table.outline.columns c.key = containsKey table.columns c.key :=
    containsKey_outline table.columns c.key
  have name : table.outline.name = table.name := rfl
  simp only [give, ColumnRef.key_outline, ColumnRef.display_outline, ColumnRef.name_outline, given,
    owned, name]
  split
  · rfl
  · split
    · rfl
    · simp only [outline, List.map_append, List.map_cons, List.map_nil]

theorem touched_outline (a : Assignments) : a.outline.touched = a.touched := by
  simp [touched, outline]

end Assignments

namespace Insert

def outline (i : Insert) : Insert :=
  { i with table := i.table.outline, values := i.values.outline }

theorem give_outline (i : Insert) (c : ColumnRef) (e : Expr) :
    (i.give c e).outline = i.outline.give c.outline e.outline := by
  simp only [give, outline, Assignments.give_outline]

theorem set_outline (i : Insert) (c : Column t) (o : Operand t) :
    (i.set c o).outline = i.outline.set c.outline o.outline := by
  rw [set, give_outline, Operand.toExpr_outline]
  rfl

theorem setBlank_outline (i : Insert) (c : Column t) :
    (i.setBlank c).outline = i.outline.setBlank c.outline := i.give_outline c.ref _

theorem setComposite_outline {α : Type} (i : Insert) (c : CompositeColumn α) (value : α) :
    (i.setComposite c value).outline
      = (c.parts.zip (c.parts.map fun part => .preset part.type.outline (.ok .null))).foldl
          (fun i (part, p) => i.give part.outline (.bind p)) i.outline := by
  rw [setComposite, ← c.presets_outline value]
  generalize c.presets value = presets
  generalize c.parts = parts
  induction parts generalizing i presets with
  | nil => rfl
  | cons part rest ih =>
    cases presets with
    | nil => rfl
    | cons p presets =>
      simp only [List.map_cons, List.zip_cons_cons, List.foldl_cons, ih, give_outline]
      rfl

theorem onConflict_outline (i : Insert) (conflict : Conflict) :
    (i.onConflict conflict).outline = i.outline.onConflict conflict := rfl

end Insert

namespace Update

def outline (u : Update) : Update where
  table := u.table.outline
  assignments := u.assignments.outline
  filter := u.filter.map Expr.outline
  touched := (u.assignments.touched_outline).trans u.touched

theorem andWhere_outline (u : Update) (p : Predicate) :
    (u.andWhere p).outline = u.outline.andWhere p.outline := by
  simp only [andWhere, outline, Option.map_some, Expr.andAlso_outline, Predicate.outline]

theorem set_outline (u : Update) (c : Column t) (o : Operand t) :
    (u.set c o).outline = u.outline.set c.outline o.outline := by
  simp only [set, outline, Assignments.give_outline, Operand.toExpr_outline]
  rfl

end Update

namespace UpdateDraft

def outline (u : UpdateDraft) : UpdateDraft :=
  ⟨u.table.outline, u.filter.map Expr.outline⟩

theorem andWhere_outline (u : UpdateDraft) (p : Predicate) :
    (u.andWhere p).outline = u.outline.andWhere p.outline := by
  simp only [andWhere, outline, Option.map_some, Expr.andAlso_outline, Predicate.outline]

theorem set_outline (u : UpdateDraft) (c : Column t) (o : Operand t) :
    (u.set c o).outline = u.outline.set c.outline o.outline := by
  simp only [set, outline, Update.outline, Assignments.give_outline, Operand.toExpr_outline]
  rfl

end UpdateDraft

namespace Delete

def outline (d : Delete) : Delete := ⟨d.table.outline, d.filter.map Expr.outline⟩

theorem rowsWhere_outline (table : Table) (p : Predicate) :
    (rowsWhere table p).outline = rowsWhere table.outline p.outline := rfl

theorem andWhere_outline (d : Delete) (p : Predicate) :
    (d.andWhere p).outline = d.outline.andWhere p.outline := by
  simp only [andWhere, outline, Option.map_some, Expr.andAlso_outline, Predicate.outline]

end Delete

/-! ## Statements -/

namespace Statement

def outline : Statement → Statement
  | .query q => .query q.outline
  | .insert i => .insert i.outline
  | .update u => .update u.outline
  | .delete d => .delete d.outline

theorem resultColumns_outline (s : Statement) :
    s.outline.resultColumns = s.resultColumns.map ResultColumn.outline := by
  cases s with
  | query q => exact q.resultColumns_outline
  | _ => rfl

end Statement

/-! ## Rendering -/

theorem Table.scope_outline (t : Table) : t.outline.scope = t.scope.outline := rfl

theorem Insert.pieces_outline (i : Insert) : i.outline.pieces = i.pieces.map Piece.outline := by
  have names : i.outline.values.pairs.map (fun (c, _) => [Piece.name c.name])
      = (i.values.pairs.map fun (c, _) => [Piece.name c.name]).map (·.map Piece.outline) := by
    simp only [Insert.outline, Assignments.outline, List.map_map]
    rfl
  have values : i.outline.values.pairs.map (fun (_, e) => e.pieces [])
      = (i.values.pairs.map fun (_, e) => e.pieces []).map (·.map Piece.outline) := by
    simp only [Insert.outline, Assignments.outline, List.map_map]
    exact List.map_congr_left fun (_, e) _ => e.pieces_outline []
  have empty : i.outline.values.pairs.isEmpty = i.values.pairs.isEmpty := by
    simp only [Insert.outline, Assignments.outline, List.isEmpty_map]
  simp only [Insert.pieces, names, values, empty, Piece.separated_outline, List.map_append,
    List.map_cons, Piece.map_outline_fault]
  cases i.values.pairs.isEmpty with
  | true => rfl
  | false =>
    simp only [Bool.false_eq_true, if_false, List.map_append, List.map_cons]
    rfl

theorem Update.pieces_outline (u : Update) : u.outline.pieces = u.pieces.map Piece.outline := by
  have changes : u.outline.assignments.pairs.map
        (fun (c, e) => Piece.name c.name :: .text " = " :: e.pieces [u.outline.table.scope])
      = (u.assignments.pairs.map
        fun (c, e) => Piece.name c.name :: .text " = " :: e.pieces [u.table.scope]).map
          (·.map Piece.outline) := by
    simp only [Update.outline, Assignments.outline, List.map_map, Table.scope_outline]
    refine List.map_congr_left fun (c, e) _ => ?_
    exact congrArg (Piece.name c.name :: Piece.text " = " :: ·) (e.pieces_outline [u.table.scope])
  have filter := conditionPieces_outline " WHERE " [u.table.scope] u.filter
  rw [optionOutline_eq] at filter
  simp only [Update.pieces, changes, Piece.separated_outline, List.map_append, List.map_cons]
  refine congrArg₂ (· ++ ·) (congrArg₂ (· ++ ·) ?_ rfl) filter
  exact (Piece.map_outline_fault _).symm

theorem Delete.pieces_outline (d : Delete) : d.outline.pieces = d.pieces.map Piece.outline := by
  have filter := conditionPieces_outline " WHERE " [d.table.scope] d.filter
  rw [optionOutline_eq] at filter
  exact congrArg (Piece.text "DELETE FROM " :: Piece.name d.table.name :: ·) filter

/-- **The pieces of an outline are the outlines of the pieces.** -/
theorem Statement.pieces_outline (s : Statement) :
    s.outline.pieces = s.pieces.map Piece.outline := by
  cases s with
  | query q => exact q.pieces_outline []
  | insert i => exact i.pieces_outline
  | update u => exact u.pieces_outline
  | delete d => exact d.pieces_outline

end TypedSql
