import Mathlib.Data.List.Forall2
import TypedSql.Proofs.Render.Positions
import TypedSql.Proofs.Render.StatementPieces

/-!
# Rendering performs the pieces

**Theorem (`Statement.performs`).** Whatever the dialect and the builders, rendering a statement
makes one call for each of its pieces, in order: texts and names are written, placeholders
registered, mistakes kept.

`Performs body scopes ps` says so of any part of a statement that stands inside those scopes. The
calls a part makes depend on the scopes, which the part leaves as it found them, and on nothing
else of the state. There is one lemma for each way to put parts together, and one case for each
constructor of the syntax.
-/

namespace TypedSql

/-! ## The call behind a piece -/

namespace Rendering

/-- What the call behind a piece does to the state. -/
def perform (r : Rendering) : Piece → Rendering
  | .text s => r.write s
  | .name n => r.write (r.dialect.spell n)
  | .slot p => (r.register p).write r.dialect.placeholder
  | .fault e => r.defer (.schema e)
  | .enter => r.enter
  | .leave => r.leave

def performAll (r : Rendering) (ps : List Piece) : Rendering := ps.foldl perform r

theorem performAll_append (r : Rendering) (ps qs : List Piece) :
    r.performAll (ps ++ qs) = (r.performAll ps).performAll qs := List.foldl_append

theorem scopes_perform (r : Rendering) (p : Piece) : (r.perform p).scopes = r.scopes := by
  cases p with
  | slot p =>
    simp only [perform, write, register]
    split <;> rfl
  | _ => rfl

theorem scopes_performAll (r : Rendering) (ps : List Piece) :
    (r.performAll ps).scopes = r.scopes := by
  induction ps generalizing r with
  | nil => rfl
  | cons p ps ih => exact (ih _).trans (r.scopes_perform p)

/-- Scopes play no part in the call behind a piece. -/
theorem perform_scopes (r : Rendering) (scopes : List Scope) (p : Piece) :
    { r with scopes }.perform p = { r.perform p with scopes } := by
  cases p with
  | slot p =>
    simp only [perform, write, register]
    split <;> rfl
  | _ => rfl

theorem performAll_scopes (r : Rendering) (scopes : List Scope) (ps : List Piece) :
    { r with scopes }.performAll ps = { r.performAll ps with scopes } := by
  induction ps generalizing r with
  | nil => rfl
  | cons p ps ih =>
    rw [performAll, List.foldl_cons, perform_scopes]
    exact ih _

end Rendering

/-! ## Parts of a statement -/

/-- Inside the scopes, the part performs the pieces. -/
def Render.Performs (body : Render) (scopes : List Scope) (ps : List Piece) : Prop :=
  ∀ r : Rendering, r.scopes = scopes → body.run r = ((), r.performAll ps)

namespace Render.Performs

variable {scopes : List Scope} {body rest : Render} {ps qs : List Piece}

theorem nil : Performs (pure ()) scopes [] := fun _ _ => rfl

/-- One part after the other. -/
theorem append (h : body.Performs scopes ps) (h' : rest.Performs scopes qs) :
    Performs (do body; rest) scopes (ps ++ qs) := by
  intro r hr
  rw [StateT.run_bind, h r hr]
  exact (h' _ ((r.scopes_performAll ps).trans hr)).trans (by rw [r.performAll_append])

theorem text (s : String) : (Render.text s).Performs scopes [.text s] := fun _ _ => rfl

theorem name (n : String) : (Render.identifier n).Performs scopes [.name n] := fun _ _ => rfl

theorem slot (p : Placeholder) : (Render.placeholder p).Performs scopes [.slot p] := fun _ _ => rfl

theorem fault (e : SchemaError) : (Render.defer e).Performs scopes [.fault e] := fun _ _ => rfl

theorem cons_text (s : String) (h : rest.Performs scopes qs) :
    Performs (do Render.text s; rest) scopes (.text s :: qs) :=
  (Performs.text s).append h

theorem cons_name (n : String) (h : rest.Performs scopes qs) :
    Performs (do Render.identifier n; rest) scopes (.name n :: qs) :=
  (Performs.name n).append h

theorem cons_slot (p : Placeholder) (h : rest.Performs scopes qs) :
    Performs (do Render.placeholder p; rest) scopes (.slot p :: qs) :=
  (Performs.slot p).append h

theorem faults (es : List SchemaError) :
    (Render.deferAll es).Performs scopes (es.map Piece.fault) := by
  induction es with
  | nil => exact .nil
  | cons e es ih => exact (Performs.fault e).append ih

theorem qualified (qualifier name : String) :
    (Render.qualified qualifier name).Performs scopes (Piece.qualified qualifier name) := by
  unfold Render.qualified Piece.qualified
  split
  · exact .name name
  · exact .cons_name qualifier (.cons_text "." (.name name))

/-- Whether a column is visible is seen from the scopes. -/
theorem checkScope (c : ColumnRef) :
    (Render.checkScope c).Performs scopes (scopeFaults scopes c) := by
  rintro ⟨dialect, writer, params, positions, deferred, scopes⟩ rfl
  unfold scopeFaults
  cases scopes with
  | nil => rfl
  | cons innermost outer =>
    let r : Rendering := ⟨dialect, writer, params, positions, deferred, innermost :: outer⟩
    have known : (Render.checkScope c).run r
        = (if (innermost :: outer).any fun s => containsKey s.columns c.key then pure ()
          else Render.defer (.columnNotInSet c.display innermost.name) : Render).run r := rfl
    refine known.trans ?_
    dsimp only
    split <;> rfl

theorem nested (h : body.Performs scopes ps) :
    (Render.nested body).Performs scopes (Piece.nested ps) :=
  have enter : Performs (modify (·.enter)) scopes [.enter] := fun _ _ => rfl
  have leave : Performs (modify (·.leave)) scopes [.leave] := fun _ _ => rfl
  enter.append (h.append leave)

/-- The scope of a query is gone when the query ends. -/
theorem within {s : Scope} (h : body.Performs (s :: scopes) ps) :
    (Render.within s body).Performs scopes ps := by
  intro r hr
  have inside : body.run (r.enterScope s) = ((), (r.enterScope s).performAll ps) :=
    h _ (congrArg (s :: ·) hr)
  have outside : ((r.enterScope s).performAll ps).leaveScope = r.performAll ps := by
    rw [Rendering.enterScope, r.performAll_scopes]
    change { r.performAll ps with scopes := r.scopes } = _
    rw [← r.scopes_performAll ps]
  have steps : (Render.within s body).run r
      = ((), (body.run (r.enterScope s)).2.leaveScope) := rfl
  rw [steps, inside, outside]

theorem guarded (needed : Bool) (h : body.Performs scopes ps) :
    (Render.guarded needed body).Performs scopes (Piece.guarded needed ps) := by
  cases needed with
  | false => exact h
  | true => exact .cons_text "(" (h.append (.text ")"))

/-- Parts that perform rows of pieces one by one, with a separator between them. -/
theorem separated (separator : String) {bodies : List Render} {pss : List (List Piece)}
    (h : List.Forall₂ (Performs · scopes ·) bodies pss) :
    (Render.separated separator bodies).Performs scopes (Piece.separated separator pss) := by
  induction h with
  | nil => exact .nil
  | cons first others ih =>
    cases others with
    | nil => exact first
    | cons _ _ => exact first.append (.cons_text separator ih)

theorem clause (keyword : String) {bodies : List Render} {pss : List (List Piece)}
    (h : List.Forall₂ (Performs · scopes ·) bodies pss) :
    (Render.clause keyword bodies).Performs scopes (clausePieces keyword pss) := by
  cases h with
  | nil => exact .nil
  | cons first others => exact .cons_text keyword (separated ", " (.cons first others))

theorem limit (l o : Option Placeholder) :
    (renderLimit l o).Performs scopes (limitPieces l o) := by
  cases l with
  | none =>
    cases o with
    | none => exact .nil
    | some o => exact .cons_text _ (.slot o)
  | some l =>
    cases o with
    | none => exact .cons_text _ (.slot l)
    | some o => exact .cons_text _ (.cons_slot l (.cons_text _ (.slot o)))

/-! ## Select lists -/

theorem repeated (seen : List String) (e : NamedEntry) :
    (checkRepeated seen e).Performs scopes
      (if seen.contains e.name then [.fault (.duplicateColumn "result" e.name)] else []) := by
  unfold checkRepeated
  split
  · exact .fault _
  · exact .nil

theorem label (e : NamedEntry) :
    (renderLabel e).Performs scopes
      (match e.entry with
      | .labelled .. => [.text " AS ", .name e.name]
      | .column _ => if e.renamed then [.text " AS ", .name e.name] else []) := by
  have label : Performs (do Render.text " AS "; Render.identifier e.name) scopes
      [.text " AS ", .name e.name] := .cons_text _ (.name _)
  unfold renderLabel
  cases e.entry with
  | labelled key type => exact label
  | column c =>
    cases e.renamed with
    | false => exact .nil
    | true => exact label

theorem listed (entries : List NamedEntry) {bodies : List Render} {pss : List (List Piece)}
    (h : List.Forall₂ (Performs · scopes ·) bodies pss) (seen : List String) :
    List.Forall₂ (Performs · scopes ·) (renderListed seen (entries.zip bodies))
      (selectList seen (entries.zip pss)) := by
  induction entries generalizing bodies pss seen with
  | nil => exact .nil
  | cons e entries ih =>
    cases h with
    | nil => exact .nil
    | cons first others =>
      refine .cons ?_ (ih others _)
      rw [List.append_assoc]
      exact (Performs.repeated seen e).append (first.append (.label e))

theorem columns (cs : List ColumnRef) :
    List.Forall₂ (Performs · scopes ·) (renderColumns cs) (sourceParts cs) := by
  refine List.forall₂_map_left_iff.2 (List.forall₂_map_right_iff.2 ?_)
  exact List.forall₂_same.2 fun c _ => .qualified _ _

/-- A query whose clauses from FROM on perform `qs`. -/
theorem query {outer : List Scope} {scope : Scope} (errors : List SchemaError) (distinct : Bool)
    (entries : List ResultEntry) {bodies : List Render} {pss : List (List Piece)}
    (parts : List.Forall₂ (Performs · (scope :: outer) ·) bodies pss)
    (tail : rest.Performs (scope :: outer) qs) :
    Performs
      (do
        Render.deferAll errors
        Render.within scope do
          Render.text (if distinct then "SELECT DISTINCT " else "SELECT ")
          Render.deferAll (if entries.isEmpty then [.noResultColumns] else [])
          Render.separated ", " (renderListed [] ((nameEntries [] entries).zip bodies))
          rest)
      outer
      (errors.map Piece.fault
        ++ (.text (if distinct then "SELECT DISTINCT " else "SELECT ")
        :: ((if entries.isEmpty then [.fault .noResultColumns] else [])
        ++ (Piece.separated ", " (selectList [] ((nameEntries [] entries).zip pss)) ++ qs)))) := by
  have nothing : (Render.deferAll (if entries.isEmpty then [.noResultColumns] else [])).Performs
      (scope :: outer) (if entries.isEmpty then [.fault .noResultColumns] else []) := by
    split
    · exact .faults [.noResultColumns]
    · exact .nil
  exact (Performs.faults errors).append <| .within <| .cons_text _ <| nothing.append <|
    (Performs.separated _ (Performs.listed _ parts [])).append tail

/-- The positions a compound query is sorted by. -/
theorem order (orderBy : List (Nat × SortOrder)) :
    List.Forall₂ (Performs · scopes ·)
      (orderBy.map fun term => Render.text (toString (term.1 + 1) ++ term.2.sql))
      (orderBy.map fun term => [.text (toString (term.1 + 1) ++ term.2.sql)]) := by
  refine List.forall₂_map_left_iff.2 (List.forall₂_map_right_iff.2 ?_)
  exact List.forall₂_same.2 fun _ _ => .text _

end Render.Performs

/-! ## Expressions and queries -/

open Render (Performs)

mutual

theorem Expr.performs (scopes : List Scope) :
    (e : Expr) → e.render.Performs scopes (e.pieces scopes)
  | .column c => (Performs.checkScope c).append (.qualified _ _)
  | .label name => .name name
  | .bind p => .slot p
  | .compare op lhs rhs =>
    (lhs.performs scopes |>.guarded _).append (.cons_text _ (rhs.performs scopes |>.guarded _))
  | .like negated e pattern escape => by
    have tail := (pattern.performs scopes |>.guarded (pattern.precedence ≤ predicateLevel)).append
      (performs_escape scopes escape)
    rw [Expr.render, Expr.pieces, List.append_assoc]
    exact (e.performs scopes |>.guarded _).append (.cons_text _ tail)
  | .isNull negated e => (e.performs scopes |>.guarded _).append (.text _)
  | .between negated e low high => by
    have bounds := (low.performs scopes |>.guarded (low.precedence ≤ predicateLevel)).append
      (.cons_text " AND "
        (high.performs scopes |>.guarded (high.precedence ≤ predicateLevel)))
    rw [Expr.render, Expr.pieces, List.append_assoc]
    exact (e.performs scopes |>.guarded _).append (.cons_text _ bounds)
  | .inList negated _ [] => .text _
  | .inList negated e (item :: items) => by
    have list := (Performs.separated ", "
      (.cons (item.performs scopes) (performs_each scopes items))).append (.text ")")
    rw [Expr.render, Expr.pieces, List.append_assoc]
    exact (e.performs scopes |>.guarded _).append (.cons_text _ list)
  | .inQuery negated e query =>
    (e.performs scopes |>.guarded _).append (.cons_text _ (query.performs scopes).nested)
  | .existsIn negated query => .cons_text _ (query.performs scopes).nested
  | .logical op [] => .text _
  | .logical op (e :: operands) =>
    .separated _ (.cons (e.performs scopes |>.guarded _) (performs_operands op scopes operands))
  | .not e => .cons_text _ (e.performs scopes |>.guarded _)
  | .binary op lhs rhs =>
    (lhs.performs scopes |>.guarded _).append (.cons_text _ (rhs.performs scopes |>.guarded _))
  | .call f distinct args =>
    .cons_text _ ((Performs.separated ", " (performs_each scopes args)).append (.text ")"))
  | .countRows => .text _
  | .cast e type => .cons_text _ ((e.performs scopes).append (.text _))
  | .scalar query => (query.performs scopes).nested

theorem performs_each (scopes : List Scope) :
    (es : List Expr) →
      List.Forall₂ (Performs · scopes ·) (renderEach es) (listPieces scopes es)
  | [] => .nil
  | e :: rest => .cons (e.performs scopes) (performs_each scopes rest)

theorem performs_operands (op : LogicalOp) (scopes : List Scope) :
    (es : List Expr) →
      List.Forall₂ (Performs · scopes ·) (renderOperands op es) (logicalPieces op scopes es)
  | [] => .nil
  | e :: rest => .cons (e.performs scopes |>.guarded _) (performs_operands op scopes rest)

theorem performs_escape (scopes : List Scope) :
    (escape : Option Expr) → (renderEscape escape).Performs scopes (escapePieces scopes escape)
  | none => .nil
  | some e => .cons_text _ (e.performs scopes |>.guarded _)

theorem performs_condition (keyword : String) (scopes : List Scope) :
    (e : Option Expr) →
      (renderCondition keyword e).Performs scopes (conditionPieces keyword scopes e)
  | none => .nil
  | some e => .cons_text _ (e.performs scopes)

theorem performs_items (scopes : List Scope) :
    (items : List ResultItem) →
      List.Forall₂ (Performs · scopes ·) (renderItems items) (itemPieces scopes items)
  | [] => .nil
  | .column _ :: rest => .cons (.qualified _ _) (performs_items scopes rest)
  | .labelled _ e _ :: rest => .cons (e.performs scopes) (performs_items scopes rest)

theorem performs_sort (scopes : List Scope) :
    (terms : List SortTerm) →
      List.Forall₂ (Performs · scopes ·) (renderSort terms) (sortPieces scopes terms)
  | [] => .nil
  | ⟨e, _⟩ :: rest => .cons ((e.performs scopes).append (.text _)) (performs_sort scopes rest)

theorem Select.performs (outer : List Scope) :
    (q : Select) → q.render.Performs outer (q.pieces outer)
  | ⟨source, distinct, items, filter, groupBy, having, orderBy, limit, offset, errors⟩ => by
    have tail := (performs_from (.ofSource source :: outer) source).append <|
      (performs_condition " WHERE " (.ofSource source :: outer) filter).append <|
      (Performs.clause " GROUP BY " (performs_each (.ofSource source :: outer) groupBy)).append <|
      (performs_condition " HAVING " (.ofSource source :: outer) having).append <|
      (Performs.clause " ORDER BY " (performs_sort (.ofSource source :: outer) orderBy)).append
        (.limit limit offset)
    cases items with
    | nil =>
      simp only [Select.pieces, List.append_assoc, List.cons_append]
      exact Performs.query errors distinct _ (Performs.columns _) tail
    | cons item items =>
      simp only [Select.pieces, List.append_assoc, List.cons_append]
      exact Performs.query errors distinct _
        (performs_items (.ofSource source :: outer) (item :: items)) tail

theorem performs_from (scopes : List Scope) :
    (s : Option Source) → (renderFrom s).Performs scopes (fromPieces scopes s)
  | none => .nil
  | some s => .cons_text _ (s.performs scopes)

theorem performs_branches (scopes : List Scope) :
    (branches : List Branch) →
      (renderBranches branches).Performs scopes (branchPieces scopes branches)
  | [] => .nil
  | ⟨_, query⟩ :: rest =>
    .cons_text _ ((query.performs scopes).append (performs_branches scopes rest))

theorem Query.performs (scopes : List Scope) :
    (q : Query) → q.render.Performs scopes (q.pieces scopes)
  | .select q => q.performs scopes
  | .compound ⟨first, branches, orderBy, limit, offset, errors⟩ => by
    rw [Query.render, Query.pieces]
    simp only [List.append_assoc]
    exact (Performs.faults errors).append <| (first.performs scopes).append <|
      (performs_branches scopes branches).append <|
      (Performs.clause _ (Performs.order orderBy)).append (.limit limit offset)

theorem Relation.performs (scopes : List Scope) :
    (r : Relation) → r.render.Performs scopes (r.pieces scopes)
  | .table t => .name t.name
  | .view _ name _ => .name name
  | .subquery _ query => (query.performs scopes).nested

theorem Source.performs (scopes : List Scope) :
    (s : Source) → s.render.Performs scopes (s.pieces scopes)
  | .relation r => r.performs scopes
  | .alias _ name r => (r.performs scopes).append (.cons_text _ (.name name))
  | .join kind lhs rhs on => by
    rw [Source.render, Source.pieces]
    simp only [List.append_assoc, List.cons_append]
    exact (Performs.faults _).append <| (lhs.performs scopes).append <| .cons_text _ <|
      (rhs.performs scopes |>.guarded _).append (performs_condition _ scopes on)

end

/-! ## Statements -/

/-- Parts made from the assignments one by one. -/
theorem Assignments.performs (a : Assignments) {scopes : List Scope}
    {body : ColumnRef × Expr → Render} {pieces : ColumnRef × Expr → List Piece}
    (h : ∀ pair, (body pair).Performs scopes (pieces pair)) :
    List.Forall₂ (Performs · scopes ·) (a.pairs.map body) (a.pairs.map pieces) := by
  refine List.forall₂_map_left_iff.2 (List.forall₂_map_right_iff.2 ?_)
  exact List.forall₂_same.2 fun pair _ => h pair

theorem Insert.performs (i : Insert) : i.render.Performs [] i.pieces := by
  have names : List.Forall₂ (Performs · [] ·)
      (i.values.pairs.map fun pair => Render.identifier pair.1.name)
      (i.values.pairs.map fun pair => [.name pair.1.name]) := i.values.performs fun _ => .name _
  have values : List.Forall₂ (Performs · [] ·) (i.values.pairs.map fun pair => pair.2.render)
      (i.values.pairs.map fun pair => pair.2.pieces []) :=
    i.values.performs fun pair => pair.2.performs []
  refine (Performs.faults _).append (.cons_text _ (.cons_name _ ?_))
  split
  · exact .text _
  · rw [List.append_assoc]
    exact .cons_text _ <| (Performs.separated ", " names).append <| .cons_text _ <|
      (Performs.separated ", " values).append (.text ")")

theorem Update.performs (u : Update) : u.render.Performs [] u.pieces := by
  have changes : List.Forall₂ (Performs · [u.table.scope] ·)
      (u.assignments.pairs.map fun pair => do
        Render.identifier pair.1.name
        Render.text " = "
        pair.2.render)
      (u.assignments.pairs.map fun pair =>
        .name pair.1.name :: .text " = " :: pair.2.pieces [u.table.scope]) :=
    u.assignments.performs fun pair => .cons_name _ (.cons_text _ (pair.2.performs _))
  simp only [Update.pieces, List.append_assoc, List.cons_append]
  exact (Performs.faults _).append <| .within <| .cons_text _ <| .cons_name _ <| .cons_text _ <|
    (Performs.separated _ changes).append (performs_condition _ _ _)

theorem Delete.performs (d : Delete) : d.render.Performs [] d.pieces :=
  .within <| .cons_text _ <| .cons_name _ <| performs_condition _ _ _

/-- **Rendering a statement performs its pieces.** -/
theorem Statement.performs (s : Statement) : s.render.Performs [] s.pieces := by
  cases s with
  | query q => exact q.performs []
  | insert i => exact i.performs
  | update u => exact u.performs
  | delete d => exact d.performs

/-! ## What performing leaves behind -/

/-- What a piece does to the builders. -/
def Writer.piece (d : Dialect) (w : Writer) : Piece → Writer
  | .enter => w.enter
  | .leave => w.leave
  | .fault _ => w
  | p => w.push (p.sql d)

namespace Piece

theorem slots_append (ps qs : List Piece) : slots (ps ++ qs) = slots ps ++ slots qs :=
  List.filterMap_append

theorem slots_cons (p : Piece) (ps : List Piece) : slots (p :: ps) = slots [p] ++ slots ps :=
  slots_append [p] ps

theorem faultsFrom_cons (i : Nat) (p : Piece) (ps : List Piece) :
    faultsFrom i (p :: ps) = faultsFrom i [p] ++ faultsFrom (i + (slots [p]).length) ps := by
  cases p with
  | slot p =>
    simp only [faultsFrom]
    split <;> rfl
  | _ => rfl

end Piece

namespace Rendering

/-- A placeholder gets the slot that is its own, whatever the state. -/
theorem register_eq (r : Rendering) (p : Placeholder) :
    r.register p
      = { r with
          params := r.params ++ [p.slot]
          positions := r.positions.record p.slot r.params.length
          deferred := r.deferred ++ Piece.faultsFrom r.params.length [.slot p] } := by
  unfold register Placeholder.slot
  simp only [Piece.faultsFrom]
  cases p.presetValue with
  | ok value => simp [addSlot, Except.toOption]
  | error e => rfl

/-- All that the call behind a piece changes. -/
theorem perform_eq (r : Rendering) (p : Piece) :
    r.perform p
      = { r with
          writer := r.writer.piece r.dialect p
          params := r.params ++ (Piece.slots [p]).map Placeholder.slot
          positions :=
            r.positions.recordAll r.params.length ((Piece.slots [p]).map Placeholder.slot)
          deferred := r.deferred ++ Piece.faultsFrom r.params.length [p] } := by
  cases p with
  | slot p => exact congrArg (write · r.dialect.placeholder) (r.register_eq p)
  | fault e =>
    simp [perform, defer, Writer.piece, Piece.slots, Piece.slot?, List.filterMap_cons,
      Piece.faultsFrom, Positions.recordAll]
  | _ =>
    simp [perform, write, enter, leave, Writer.piece, Piece.slots, Piece.slot?,
      List.filterMap_cons, Piece.faultsFrom, Positions.recordAll, Piece.sql]

theorem performAll_eq (r : Rendering) (ps : List Piece) :
    r.performAll ps
      = { r with
          writer := ps.foldl (Writer.piece r.dialect) r.writer
          params := r.params ++ (Piece.slots ps).map Placeholder.slot
          positions :=
            r.positions.recordAll r.params.length ((Piece.slots ps).map Placeholder.slot)
          deferred := r.deferred ++ Piece.faultsFrom r.params.length ps } := by
  induction ps generalizing r with
  | nil => simp [performAll, Piece.slots, Piece.faultsFrom, Positions.recordAll]
  | cons p ps ih =>
    have first : r.performAll (p :: ps) = (r.perform p).performAll ps := rfl
    rw [first, ih, perform_eq, Piece.slots_cons p ps, Piece.faultsFrom_cons _ p ps,
      List.map_append, Positions.recordAll_append]
    simp

end Rendering
end TypedSql
