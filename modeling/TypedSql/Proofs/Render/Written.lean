import Mathlib.Data.List.Forall2
import TypedSql.Proofs.Query.Names
import TypedSql.Proofs.Render.Parts

/-!
# Rendering writes the parts in order

**Theorem (`Statement.written`).** The pieces of a statement are its parts in order, with nothing
but keywords, operators and punctuation between them.

`Written xs ps` says so of any row of parts and any row of pieces. It is the one fact about
rendering that is proved by going through the clauses of SQL; what else holds of every rendered
statement is derived from it, by an induction with one case for each kind of part.
-/

namespace TypedSql

/-- The characters of keywords, operators and punctuation, and those of plain names. -/
def isSqlChar (c : Char) : Bool := isNameRest c || " (),.=<>+-*/%|".toList.contains c

/-- The text consists of keywords, operators and punctuation. -/
def Quiet (s : String) : Prop := s.toList.all isSqlChar = true

instance : DecidablePred Quiet := fun s => inferInstanceAs (Decidable (s.toList.all _ = true))

theorem Quiet.append {s t : String} (hs : Quiet s) (ht : Quiet t) : Quiet (s ++ t) := by
  unfold Quiet at *
  rw [String.toList_append, List.all_append, hs, ht]
  rfl

/-- The pieces write the parts in order. -/
inductive Written : List Part → List Piece → Prop where
  | nil : Written [] []
  | append {xs ys : List Part} {ps qs : List Piece} :
      Written xs ps → Written ys qs → Written (xs ++ ys) (ps ++ qs)
  | text {s : String} : Quiet s → Written [] [.text s]
  | column (levels : List Level) (c : ColumnRef) :
      Written [.column levels c]
        (scopeFaults (levels.map Scope.ofSource) c ++ Piece.qualified c.qualifier c.name)
  | selected (c : ColumnRef) : Written [.selected c] (Piece.qualified c.qualifier c.name)
  | resultName (e : NamedEntry) : Written [.resultName e] [.name e.name]
  | name (n : String) : Written [.name n] [.name n]
  | bind (p : Placeholder) : Written [.bind p] [.slot p]
  | castType (type : String) : Written [.castType type] [.text (" AS " ++ type ++ ")")]
  | mistake (e : SchemaError) : Written [.mistake e] [.fault e]
  | nested {xs : List Part} {ps : List Piece} : Written xs ps → Written xs (Piece.nested ps)

/-- The pieces of the entries; without any entry, those of the columns of the source. -/
def listedPieces (source : Level) (items : List ResultItem) (pieces : List (List Piece)) :
    List (List Piece) :=
  match items with
  | [] => sourceParts (Scope.ofSource source).columns
  | _ :: _ => pieces

namespace Written

variable {xs ys : List Part} {ps qs : List Piece}

/-! ## Composition -/

theorem cons_text {s : String} (hs : Quiet s) (h : Written xs ps) :
    Written xs (.text s :: ps) :=
  (Written.text hs).append h

theorem snoc_text {s : String} (h : Written xs ps) (hs : Quiet s) :
    Written xs (ps ++ [.text s]) := by
  simpa using h.append (.text hs)

theorem guarded (needed : Bool) (h : Written xs ps) : Written xs (Piece.guarded needed ps) := by
  cases needed with
  | false => exact h
  | true => exact (h.cons_text (by decide)).snoc_text (by decide)

theorem mistakes (es : List SchemaError) :
    Written (es.map Part.mistake) (es.map Piece.fault) := by
  induction es with
  | nil => exact .nil
  | cons e es ih => exact (Written.mistake e).append ih

/-- Rows that write rows of parts one by one, with a separator between them. -/
theorem separated {s : String} (hs : Quiet s) {xss : List (List Part)} {pss : List (List Piece)}
    (h : List.Forall₂ Written xss pss) : Written xss.flatten (Piece.separated s pss) := by
  induction h with
  | nil => exact .nil
  | @cons xs ps xss pss hx h ih =>
      cases pss with
      | nil =>
          cases h
          simpa [Piece.separated] using hx
      | cons qs pss => exact hx.append (ih.cons_text hs)

theorem clause {k : String} (hk : Quiet k) {xss : List (List Part)} {pss : List (List Piece)}
    (h : List.Forall₂ Written xss pss) : Written xss.flatten (clausePieces k pss) := by
  cases pss with
  | nil =>
      cases h
      exact .nil
  | cons ps pss => exact (separated (by decide) h).cons_text hk

theorem limit (l o : Option Placeholder) :
    Written (placeholderParts l ++ placeholderParts o) (limitPieces l o) := by
  cases l with
  | none =>
      cases o with
      | none => exact .nil
      | some o => exact (Written.bind o).cons_text (by decide)
  | some l =>
      cases o with
      | none => exact (Written.bind l).cons_text (by decide)
      | some o =>
          have offset : Written [.bind o] [.text " OFFSET ", .slot o] :=
            (Written.bind o).cons_text (by decide)
          exact ((Written.bind l).append offset).cons_text (by decide)

/-- The names behind `AS`, and the mistakes of names that occur again. -/
theorem selectList (entries : List NamedEntry) {xss : List (List Part)}
    {pss : List (List Piece)} (h : List.Forall₂ Written xss pss) (seen : List String) :
    List.Forall₂ Written (selectListParts seen (entries.zip xss))
      (TypedSql.selectList seen (entries.zip pss)) := by
  induction entries generalizing xss pss seen with
  | nil => exact .nil
  | cons e entries ih =>
      cases h with
      | nil => exact .nil
      | cons hx h =>
          have label : Written [.resultName e] [.text " AS ", .name e.name] :=
            (Written.resultName e).cons_text (by decide)
          refine .cons ((Written.append ?_ hx).append ?_) (ih h _)
          · split
            · exact .mistake _
            · exact .nil
          · cases e.entry with
            | labelled key type => exact label
            | column c =>
                cases e.renamed with
                | true => exact label
                | false => exact .nil

theorem listed (source : Level) (items : List ResultItem) {xss : List (List Part)}
    {pss : List (List Piece)} (h : List.Forall₂ Written xss pss) :
    List.Forall₂ Written (listedParts source items xss) (listedPieces source items pss) := by
  cases items with
  | nil =>
      refine List.forall₂_map_left_iff.2 (List.forall₂_map_right_iff.2 ?_)
      exact List.forall₂_same.2 fun c _ => .selected c
  | cons item items => exact h

/-- The first two clauses of a query. -/
theorem start (source : Level) (distinct : Bool) (errors : List SchemaError)
    (items : List ResultItem) {xss : List (List Part)} {pss : List (List Piece)}
    (h : List.Forall₂ Written xss pss) :
    Written
      (errors.map Part.mistake
        ++ (if (listedEntries source items).isEmpty then [.mistake .noResultColumns] else [])
        ++ (selectListParts [] ((nameEntries [] (listedEntries source items)).zip
          (listedParts source items xss))).flatten)
      (errors.map Piece.fault
        ++ .text (if distinct then "SELECT DISTINCT " else "SELECT ")
        :: (if (listedEntries source items).isEmpty then [.fault .noResultColumns] else [])
        ++ Piece.separated ", " (TypedSql.selectList []
          ((nameEntries [] (listedEntries source items)).zip
            (listedPieces source items pss)))) := by
  have nothing : Written
      (if (listedEntries source items).isEmpty then [.mistake .noResultColumns] else [])
      (if (listedEntries source items).isEmpty then [.fault .noResultColumns] else []) := by
    split
    · exact .mistake _
    · exact .nil
  have keyword : Quiet (if distinct then "SELECT DISTINCT " else "SELECT ") := by
    cases distinct <;> decide
  refine ((mistakes errors).append (nothing.cons_text keyword)).append ?_
  exact separated (by decide) (selectList _ (listed source items h) [])

end Written

/-! ## Nested queries -/

/-- A piece that neither starts nor ends a nested query. -/
def Piece.isLevel : Piece → Bool
  | .enter | .leave => false
  | _ => true

/-- Nested queries start and end in pairs. -/
inductive Balanced : List Piece → Prop where
  | level {ps : List Piece} : ps.all Piece.isLevel = true → Balanced ps
  | append {ps qs : List Piece} : Balanced ps → Balanced qs → Balanced (ps ++ qs)
  | nested {ps : List Piece} : Balanced ps → Balanced (Piece.nested ps)

theorem Piece.isLevel_qualified (qualifier name : String) :
    (Piece.qualified qualifier name).all Piece.isLevel = true := by
  unfold Piece.qualified
  split <;> rfl

theorem Piece.isLevel_scopeFaults (scopes : List Scope) (c : ColumnRef) :
    (scopeFaults scopes c).all Piece.isLevel = true := by
  unfold scopeFaults
  split
  · rfl
  · split <;> rfl

theorem Written.balanced {xs : List Part} {ps : List Piece} (h : Written xs ps) :
    Balanced ps := by
  induction h with
  | nil => exact .level rfl
  | append _ _ ih₁ ih₂ => exact .append ih₁ ih₂
  | text _ => exact .level rfl
  | column levels c =>
      exact .append (.level (Piece.isLevel_scopeFaults _ c))
        (.level (Piece.isLevel_qualified _ _))
  | selected c => exact .level (Piece.isLevel_qualified _ _)
  | resultName e => exact .level rfl
  | name n => exact .level rfl
  | bind p => exact .level rfl
  | castType type => exact .level rfl
  | mistake e => exact .level rfl
  | nested _ ih => exact .nested ih

/-! ## The texts that vary -/

theorem quiet_compare (op : CompareOp) : Quiet (" " ++ op.sql ++ " ") := by
  cases op <;> decide

theorem quiet_binary (op : BinaryOp) : Quiet (" " ++ op.sql ++ " ") := by
  cases op <;> decide

theorem quiet_negatable (negated : Bool) {word : String} (h : Quiet word) :
    Quiet (negatable negated word) := by
  refine Quiet.append ?_ h
  cases negated <;> decide

theorem quiet_separator (op : LogicalOp) : Quiet op.separator := by
  cases op <;> decide

theorem quiet_call (f : SqlFunction) (distinct : Bool) :
    Quiet (f.sql ++ "(" ++ if distinct then "DISTINCT " else "") := by
  cases f <;> cases distinct <;> decide

theorem quiet_joinKind (kind : JoinKind) : Quiet (" " ++ kind.sql ++ " ") := by
  cases kind <;> decide

theorem quiet_setOperator (op : SetOperator) : Quiet (" " ++ op.sql ++ " ") := by
  cases op <;> decide

theorem quiet_sortOrder (order : SortOrder) : Quiet order.sql := by
  cases order <;> decide

theorem quiet_toString (n : Nat) : Quiet (toString n) := by
  refine List.all_eq_true.2 fun c hc => ?_
  simp [isSqlChar, isNameRest, isAsciiDigit_of_mem_toString hc]

theorem quiet_position (i : Nat) (order : SortOrder) : Quiet (toString (i + 1) ++ order.sql) :=
  (quiet_toString _).append (quiet_sortOrder order)

/-! ## Expressions and queries -/

theorem Select.pieces_eq (outer : List Scope) (source : Level) (distinct : Bool)
    (items : List ResultItem) (filter : Option Expr) (groupBy : List Expr)
    (having : Option Expr) (orderBy : List SortTerm) (l o : Option Placeholder)
    (errors : List SchemaError) :
    Select.pieces outer ⟨source, distinct, items, filter, groupBy, having, orderBy, l, o, errors⟩
      = errors.map Piece.fault
        ++ .text (if distinct then "SELECT DISTINCT " else "SELECT ")
        :: (if (listedEntries source items).isEmpty then [.fault .noResultColumns] else [])
        ++ Piece.separated ", " (selectList [] ((nameEntries [] (listedEntries source items)).zip
          (listedPieces source items (itemPieces (.ofSource source :: outer) items))))
        ++ fromPieces (.ofSource source :: outer) source
        ++ conditionPieces " WHERE " (.ofSource source :: outer) filter
        ++ clausePieces " GROUP BY " (listPieces (.ofSource source :: outer) groupBy)
        ++ conditionPieces " HAVING " (.ofSource source :: outer) having
        ++ clausePieces " ORDER BY " (sortPieces (.ofSource source :: outer) orderBy)
        ++ limitPieces l o := by
  cases items <;> rfl

theorem written_positions (orderBy : List (Nat × SortOrder)) :
    Written [] (clausePieces " ORDER BY "
      (orderBy.map fun (i, order) => [.text (toString (i + 1) ++ order.sql)])) := by
  have positions : List.Forall₂ Written (orderBy.map fun _ => [])
      (orderBy.map fun (i, order) => [.text (toString (i + 1) ++ order.sql)]) := by
    refine List.forall₂_map_left_iff.2 (List.forall₂_map_right_iff.2 ?_)
    exact List.forall₂_same.2 fun (i, order) _ => .text (quiet_position i order)
  have nothing : (orderBy.map fun _ => ([] : List Part)).flatten = [] := by simp
  exact nothing ▸ Written.clause (by decide) positions

mutual

theorem Expr.written (levels : List Level) :
    (e : Expr) → Written (e.parts levels) (e.pieces (levels.map Scope.ofSource))
  | .column c => .column levels c
  | .label name => .name name
  | .bind p => .bind p
  | .countRows => .text (by decide)
  | .compare op lhs rhs =>
    (lhs.written levels |>.guarded _).append
      ((rhs.written levels |>.guarded _).cons_text (quiet_compare op))
  | .like negated e pattern escape => by
    have tail := (pattern.written levels |>.guarded (pattern.precedence ≤ predicateLevel)).append
      (written_escape levels escape)
    simp only [Expr.parts, Expr.pieces, List.append_assoc]
    exact (e.written levels |>.guarded _).append
      (tail.cons_text (quiet_negatable negated (by decide)))
  | .isNull negated e => by
    refine (e.written levels |>.guarded _).snoc_text ?_
    cases negated <;> decide
  | .between negated e low high => by
    have bounds := (low.written levels |>.guarded (low.precedence ≤ predicateLevel)).append
      ((high.written levels |>.guarded (high.precedence ≤ predicateLevel)).cons_text
        (s := " AND ") (by decide))
    simp only [Expr.parts, Expr.pieces, List.append_assoc]
    exact (e.written levels |>.guarded _).append
      (bounds.cons_text (quiet_negatable negated (by decide)))
  | .inList negated e [] => .text (by cases negated <;> decide)
  | .inList negated e (item :: items) => by
    have list := Written.separated (s := ", ") (by decide)
      (.cons (item.written levels) (written_list levels items))
    simp only [Expr.parts, Expr.pieces, List.append_assoc]
    exact (e.written levels |>.guarded _).append
      ((list.snoc_text (by decide)).cons_text (quiet_negatable negated (by decide)))
  | .inQuery negated e query =>
    (e.written levels |>.guarded _).append
      ((query.written levels).nested.cons_text (quiet_negatable negated (by decide)))
  | .existsIn negated query =>
    (query.written levels).nested.cons_text (by cases negated <;> decide)
  | .logical op [] => .text (by cases op <;> decide)
  | .logical op (e :: operands) =>
    .separated (quiet_separator op)
      (.cons (e.written levels |>.guarded _) (written_operands op levels operands))
  | .not e => (e.written levels |>.guarded _).cons_text (by decide)
  | .binary op lhs rhs =>
    (lhs.written levels |>.guarded _).append
      ((rhs.written levels |>.guarded _).cons_text (quiet_binary op))
  | .call f distinct args =>
    (Written.separated (by decide) (written_list levels args)).snoc_text (by decide)
      |>.cons_text (quiet_call f distinct)
  | .cast e type =>
    ((e.written levels).append (.castType type)).cons_text (by decide)
  | .scalar query => (query.written levels).nested

theorem written_list (levels : List Level) :
    (es : List Expr) →
      List.Forall₂ Written (listParts levels es) (listPieces (levels.map Scope.ofSource) es)
  | [] => .nil
  | e :: rest => .cons (e.written levels) (written_list levels rest)

theorem written_operands (op : LogicalOp) (levels : List Level) :
    (es : List Expr) →
      List.Forall₂ Written (listParts levels es) (logicalPieces op (levels.map Scope.ofSource) es)
  | [] => .nil
  | e :: rest => .cons (e.written levels |>.guarded _) (written_operands op levels rest)

theorem written_escape (levels : List Level) :
    (escape : Option Expr) →
      Written (optionParts levels escape) (escapePieces (levels.map Scope.ofSource) escape)
  | none => .nil
  | some e => (e.written levels |>.guarded _).cons_text (by decide)

theorem written_condition {k : String} (hk : Quiet k) (levels : List Level) :
    (e : Option Expr) →
      Written (optionParts levels e) (conditionPieces k (levels.map Scope.ofSource) e)
  | none => .nil
  | some e => (e.written levels).cons_text hk

theorem written_items (levels : List Level) :
    (items : List ResultItem) →
      List.Forall₂ Written (itemParts levels items)
        (itemPieces (levels.map Scope.ofSource) items)
  | [] => .nil
  | .column c :: rest => .cons (.selected c) (written_items levels rest)
  | .labelled _ e _ :: rest => .cons (e.written levels) (written_items levels rest)

theorem written_sort (levels : List Level) :
    (terms : List SortTerm) →
      List.Forall₂ Written (sortParts levels terms)
        (sortPieces (levels.map Scope.ofSource) terms)
  | [] => .nil
  | ⟨e, order⟩ :: rest =>
    .cons ((e.written levels).snoc_text (quiet_sortOrder order)) (written_sort levels rest)

theorem Select.written (outer : List Level) :
    (q : Select) → Written (q.parts outer) (q.pieces (outer.map Scope.ofSource))
  | ⟨source, distinct, items, filter, groupBy, having, orderBy, limit, offset, errors⟩ => by
    have entries := Written.start source distinct errors items
      (written_items (source :: outer) items)
    have grouped := ((entries.append (written_from (source :: outer) source)).append
      (written_condition (k := " WHERE ") (by decide) (source :: outer) filter)).append
      (.clause (k := " GROUP BY ") (by decide) (written_list (source :: outer) groupBy))
    have sorted := (grouped.append
      (written_condition (k := " HAVING ") (by decide) (source :: outer) having)).append
      (.clause (k := " ORDER BY ") (by decide) (written_sort (source :: outer) orderBy))
    have all := sorted.append (.limit limit offset)
    rw [← List.append_assoc] at all
    rw [Select.pieces_eq]
    exact all

theorem written_from (levels : List Level) :
    (s : Level) → Written (fromParts levels s) (fromPieces (levels.map Scope.ofSource) s)
  | none => .nil
  | some s => (s.written levels).cons_text (by decide)

theorem written_branches (levels : List Level) :
    (branches : List Branch) →
      Written (branchParts levels branches) (branchPieces (levels.map Scope.ofSource) branches)
  | [] => .nil
  | ⟨operator, query⟩ :: rest =>
    ((query.written levels).append (written_branches levels rest)).cons_text
      (quiet_setOperator operator)

theorem Query.written (levels : List Level) :
    (q : Query) → Written (q.parts levels) (q.pieces (levels.map Scope.ofSource))
  | .select q => q.written levels
  | .compound ⟨first, branches, orderBy, limit, offset, errors⟩ => by
    have queries := ((Written.mistakes errors).append (first.written levels)).append
      (written_branches levels branches)
    have all := (queries.append (written_positions orderBy)).append (.limit limit offset)
    rw [List.append_nil, ← List.append_assoc] at all
    exact all

theorem Relation.written (levels : List Level) :
    (r : Relation) → Written (r.parts levels) (r.pieces (levels.map Scope.ofSource))
  | .table t => .name t.name
  | .view _ name _ => .name name
  | .subquery _ query => (query.written levels).nested

theorem Source.written (levels : List Level) :
    (s : Source) → Written (s.parts levels) (s.pieces (levels.map Scope.ofSource))
  | .relation r => r.written levels
  | .alias _ name r => (r.written levels).append ((Written.name name).cons_text (by decide))
  | .join kind lhs rhs on =>
    (((Written.mistakes _).append (lhs.written levels)).append
      ((rhs.written levels |>.guarded _).cons_text (quiet_joinKind kind))).append
      (written_condition (by decide) levels on)

end

/-! ## Statements -/

theorem Assignments.written_names (a : Assignments) :
    List.Forall₂ Written (a.pairs.map fun (c, _) => [Part.name c.name])
      (a.pairs.map fun (c, _) => [Piece.name c.name]) := by
  refine List.forall₂_map_left_iff.2 (List.forall₂_map_right_iff.2 ?_)
  exact List.forall₂_same.2 fun (c, _) _ => .name c.name

theorem Assignments.written_values (a : Assignments) :
    List.Forall₂ Written (a.pairs.map fun (_, e) => e.parts [])
      (a.pairs.map fun (_, e) => e.pieces []) := by
  refine List.forall₂_map_left_iff.2 (List.forall₂_map_right_iff.2 ?_)
  exact List.forall₂_same.2 fun (_, e) _ => e.written []

theorem Assignments.written_changes (a : Assignments) (t : Table) :
    List.Forall₂ Written (a.pairs.map fun (c, e) => .name c.name :: e.parts [t.level])
      (a.pairs.map fun (c, e) => .name c.name :: .text " = " :: e.pieces [t.scope]) := by
  refine List.forall₂_map_left_iff.2 (List.forall₂_map_right_iff.2 ?_)
  refine List.forall₂_same.2 fun (c, e) _ => ?_
  exact (Written.name c.name).append ((e.written [t.level]).cons_text (by decide))

theorem Assignments.written_row (a : Assignments) :
    Written
      ((a.pairs.map fun (c, _) => Part.name c.name) ++ a.pairs.flatMap fun (_, e) => e.parts [])
      (if a.pairs.isEmpty then [Piece.text " DEFAULT VALUES"]
      else
        .text " (" :: Piece.separated ", " (a.pairs.map fun (c, _) => [.name c.name])
          ++ .text ") VALUES ("
          :: Piece.separated ", " (a.pairs.map fun (_, e) => e.pieces [])
          ++ [.text ")"]) := by
  split
  · next none =>
    rw [List.isEmpty_iff.1 none]
    exact .text (by decide)
  · have names := Written.separated (s := ", ") (by decide) a.written_names
    have values := Written.separated (s := ", ") (by decide) a.written_values
    have row := (names.cons_text (s := " (") (by decide)).append
      ((values.snoc_text (s := ")") (by decide)).cons_text (s := ") VALUES (") (by decide))
    rw [← List.flatMap_def, ← List.flatMap_def, ← List.map_eq_flatMap] at row
    simpa using row

theorem Insert.written (i : Insert) : Written i.parts i.pieces := by
  have row := (Written.name i.table.name).append i.values.written_row
  rw [Insert.parts, List.append_assoc]
  refine (Written.mistakes _).append (row.cons_text ?_)
  cases i.conflict with
  | none => decide
  | some conflict => cases conflict <;> decide

theorem Update.written (u : Update) : Written u.parts u.pieces := by
  have changes := Written.separated (s := ", ") (by decide)
    (u.assignments.written_changes u.table)
  have filter := written_condition (k := " WHERE ") (by decide) [u.table.level] u.filter
  have table := (Written.name u.table.name).append (changes.cons_text (s := " SET ") (by decide))
  have all := ((Written.mistakes u.assignments.errors).append
    (table.cons_text (s := "UPDATE ") (by decide))).append filter
  exact all

theorem Delete.written (d : Delete) : Written d.parts d.pieces := by
  have filter := written_condition (k := " WHERE ") (by decide) [d.table.level] d.filter
  exact ((Written.name d.table.name).append filter).cons_text (by decide)

/-- The pieces of a statement write its parts in order. -/
theorem Statement.written (s : Statement) : Written s.parts s.pieces := by
  cases s with
  | query q => exact q.written []
  | insert i => exact i.written
  | update u => exact u.written
  | delete d => exact d.written

end TypedSql
