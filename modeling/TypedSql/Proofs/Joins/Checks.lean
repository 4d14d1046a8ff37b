import TypedSql.Proofs.Render.Builds

/-!
# The columns of a join condition

Two walks go through a join condition. One lists its columns, nested queries left out, when the join
is put together; those that neither side has are refused. The other renders the condition, and looks
up every column it writes in the query levels around.

**Theorem (`joinConditions_checked`).** Outside nested queries the walks agree. Rendering looks up
the columns listed, in the same order, all but those of what empty lists are searched for, which is
not written. So a join that refused nothing is rendered without a column being refused in its
condition, in every query whose source holds the join. A column that neither side has makes the
build fail of every statement in which such a query is written.

* **Walks (`Expr.splits`, `Expr.checks`).** One case for each constructor, over a relation that says
  how rows of columns and of pieces are put together.
* **Depth (`Piece.outside_skip`).** Nested queries start and end in pairs, so what is outside them
  can be told from the pieces.

A query in what an empty list is searched for is not written, nor is the one behind a view; the
build does not look at their joins.
-/

namespace TypedSql

/-! ## Pieces outside nested queries -/

namespace Piece

def isFault : Piece → Bool
  | .fault _ => true
  | _ => false

/-- The pieces outside nested queries, when so many of these have been entered before. -/
def outside : Nat → List Piece → List Piece
  | _, [] => []
  | depth, .enter :: ps => outside (depth + 1) ps
  | depth, .leave :: ps => outside (depth - 1) ps
  | 0, p :: ps => p :: outside 0 ps
  | depth + 1, _ :: ps => outside (depth + 1) ps

/-- The mistakes outside nested queries. -/
def directFaults (ps : List Piece) : List Piece := (outside 0 ps).filter isFault

variable {ps : List Piece}

theorem nested_append (ps qs : List Piece) :
    nested ps ++ qs = .enter :: (ps ++ .leave :: qs) := by
  simp [nested]

/-- Inside a nested query everything is passed over, up to where the query ends. -/
theorem outside_skip (h : Balanced ps) (depth : Nat) (qs : List Piece) :
    outside (depth + 1) (ps ++ qs) = outside (depth + 1) qs := by
  induction h generalizing depth qs with
  | @level ps level =>
    induction ps with
    | nil => rfl
    | cons p ps ih =>
      rw [List.all_cons, Bool.and_eq_true] at level
      obtain ⟨here, rest⟩ := level
      cases p with
      | enter | leave => cases here
      | _ => exact ih rest
  | append _ _ ih₁ ih₂ => rw [List.append_assoc, ih₁, ih₂]
  | @nested ps _ ih =>
    rw [nested_append, outside, ih]
    rfl

theorem outside_nested (h : Balanced ps) (qs : List Piece) :
    outside 0 (nested ps ++ qs) = outside 0 qs := by
  rw [nested_append, outside, outside_skip h]
  rfl

theorem outside_nested_eq_nil (h : Balanced ps) : outside 0 (nested ps) = [] := by
  have alone := outside_nested h []
  rw [List.append_nil] at alone
  exact alone

theorem outside_of_level (level : ps.all isLevel = true) (qs : List Piece) :
    outside 0 (ps ++ qs) = ps ++ outside 0 qs := by
  induction ps with
  | nil => rfl
  | cons p ps ih =>
    rw [List.all_cons, Bool.and_eq_true] at level
    obtain ⟨here, rest⟩ := level
    cases p with
    | enter | leave => cases here
    | _ => exact congrArg _ (ih rest)

theorem outside_eq_self (level : ps.all isLevel = true) : outside 0 ps = ps := by
  have alone := outside_of_level level []
  rw [List.append_nil, outside, List.append_nil] at alone
  exact alone

theorem outside_append (h : Balanced ps) (qs : List Piece) :
    outside 0 (ps ++ qs) = outside 0 ps ++ outside 0 qs := by
  induction h generalizing qs with
  | level level => rw [outside_of_level level, outside_eq_self level]
  | append _ _ ih₁ ih₂ => rw [List.append_assoc, ih₁, ih₂, ih₁, List.append_assoc]
  | nested balanced _ =>
    rw [outside_nested balanced, outside_nested_eq_nil balanced, List.nil_append]

theorem directFaults_append (h : Balanced ps) (qs : List Piece) :
    directFaults (ps ++ qs) = directFaults ps ++ directFaults qs := by
  rw [directFaults, outside_append h, List.filter_append]
  rfl

theorem directFaults_of_level (level : ps.all isLevel = true) :
    directFaults ps = ps.filter isFault := by
  rw [directFaults, outside_eq_self level]

theorem directFaults_nested (h : Balanced ps) : directFaults (nested ps) = [] := by
  rw [directFaults, outside_nested_eq_nil h, List.filter_nil]

theorem infix_guarded (needed : Bool) (ps : List Piece) : ps <:+: guarded needed ps := by
  cases needed with
  | false => exact List.infix_rfl
  | true => exact List.infix_append [.text "("] ps [.text ")"]

end Piece

/-! ## The columns that are written -/

mutual

/-- The columns written outside nested queries, in the order of the text. -/
def Expr.checked : Expr → List ColumnRef
  | .column c => [c]
  | .label _ | .bind _ | .countRows | .existsIn _ _ | .scalar _ => []
  | .compare _ lhs rhs | .binary _ lhs rhs => lhs.checked ++ rhs.checked
  | .like _ e pattern escape => e.checked ++ pattern.checked ++ optionChecked escape
  | .isNull _ e | .inQuery _ e _ | .not e | .cast e _ => e.checked
  | .between _ e low high => e.checked ++ low.checked ++ high.checked
  | .inList _ _ [] => []
  | .inList _ e (item :: items) => e.checked ++ (item.checked ++ listChecked items)
  | .logical _ operands => listChecked operands
  | .call _ _ args => listChecked args

def optionChecked : Option Expr → List ColumnRef
  | none => []
  | some e => e.checked

def listChecked : List Expr → List ColumnRef
  | [] => []
  | e :: rest => e.checked ++ listChecked rest

end

mutual

/-- What empty lists are searched for, outside nested queries. -/
def Expr.sought : Expr → List Expr
  | .column _ | .label _ | .bind _ | .countRows | .existsIn _ _ | .scalar _ => []
  | .compare _ lhs rhs | .binary _ lhs rhs => lhs.sought ++ rhs.sought
  | .like _ e pattern escape => e.sought ++ pattern.sought ++ optionSought escape
  | .isNull _ e | .inQuery _ e _ | .not e | .cast e _ => e.sought
  | .between _ e low high => e.sought ++ low.sought ++ high.sought
  | .inList _ e [] => [e]
  | .inList _ e (item :: items) => e.sought ++ (item.sought ++ listSought items)
  | .logical _ operands => listSought operands
  | .call _ _ args => listSought args

def optionSought : Option Expr → List Expr
  | none => []
  | some e => e.sought

def listSought : List Expr → List Expr
  | [] => []
  | e :: rest => e.sought ++ listSought rest

end

/-- The columns are those checked, among them the ones of what empty lists are searched for. -/
structure Splits (columns checked : List ColumnRef) (sought : List Expr) : Prop where
  inOrder : checked.Sublist columns
  besides : columns.Perm (checked ++ sought.flatMap Expr.columns)

namespace Splits

theorem nil : Splits [] [] [] := ⟨.slnil, .nil⟩

theorem column (c : ColumnRef) : Splits [c] [c] [] := ⟨.refl _, .refl _⟩

theorem empty (e : Expr) : Splits e.columns [] [e] := by
  refine ⟨List.nil_sublist _, ?_⟩
  rw [List.nil_append, List.flatMap_singleton]

theorem append {as bs cs ds : List ColumnRef} {es fs : List Expr} (h : Splits as cs es)
    (h' : Splits bs ds fs) : Splits (as ++ bs) (cs ++ ds) (es ++ fs) := by
  refine ⟨h.inOrder.append h'.inOrder, (h.besides.append h'.besides).trans ?_⟩
  rw [List.flatMap_append, List.append_assoc, List.append_assoc]
  refine List.Perm.append_left cs ?_
  rw [← List.append_assoc, ← List.append_assoc]
  exact List.perm_append_comm.append_right _

end Splits

mutual

/-- **The columns listed are those written and those of what empty lists are searched for.** -/
theorem Expr.splits : (e : Expr) → Splits e.columns e.checked e.sought
  | .column c => .column c
  | .label _ | .bind _ | .countRows | .existsIn _ _ | .scalar _ => .nil
  | .compare _ lhs rhs | .binary _ lhs rhs => lhs.splits.append rhs.splits
  | .like _ e pattern escape => (e.splits.append pattern.splits).append (splits_option escape)
  | .isNull _ e | .inQuery _ e _ | .not e | .cast e _ => e.splits
  | .between _ e low high => (e.splits.append low.splits).append high.splits
  | .inList _ e [] => by
    rw [Expr.columns, listColumns, List.append_nil]
    exact .empty e
  | .inList _ e (item :: items) => e.splits.append (item.splits.append (splits_list items))
  | .logical _ operands => splits_list operands
  | .call _ _ args => splits_list args

theorem splits_option :
    (e : Option Expr) → Splits (optionColumns e) (optionChecked e) (optionSought e)
  | none => .nil
  | some e => e.splits

theorem splits_list :
    (es : List Expr) → Splits (listColumns es) (listChecked es) (listSought es)
  | [] => .nil
  | e :: rest => e.splits.append (splits_list rest)

end

/-! ## The columns that are looked up -/

theorem filter_scopeFaults (scopes : List Scope) (c : ColumnRef) :
    (scopeFaults scopes c).filter Piece.isFault = scopeFaults scopes c := by
  unfold scopeFaults
  split
  · rfl
  · split <;> rfl

theorem filter_qualified (qualifier name : String) :
    (Piece.qualified qualifier name).filter Piece.isFault = [] := by
  unfold Piece.qualified
  split <;> rfl

/-- Outside nested queries the pieces report the columns that are in no scope, in their order, and
nothing else. -/
structure Checks (scopes : List Scope) (cs : List ColumnRef) (ps : List Piece) : Prop where
  balanced : Balanced ps
  faults : Piece.directFaults ps = cs.flatMap (scopeFaults scopes)

namespace Checks

variable {scopes : List Scope} {cs ds : List ColumnRef} {ps qs : List Piece}

theorem nil : Checks scopes [] [] := ⟨.level rfl, rfl⟩

theorem text (s : String) : Checks scopes [] [.text s] := ⟨.level rfl, rfl⟩

theorem name (n : String) : Checks scopes [] [.name n] := ⟨.level rfl, rfl⟩

theorem slot (p : Placeholder) : Checks scopes [] [.slot p] := ⟨.level rfl, rfl⟩

theorem append (h : Checks scopes cs ps) (h' : Checks scopes ds qs) :
    Checks scopes (cs ++ ds) (ps ++ qs) := by
  refine ⟨.append h.balanced h'.balanced, ?_⟩
  rw [Piece.directFaults_append h.balanced, h.faults, h'.faults, List.flatMap_append]

theorem cons_text {s : String} (h : Checks scopes cs ps) : Checks scopes cs (.text s :: ps) :=
  (text s).append h

/-- Pieces behind the columns. -/
theorem append_quiet (h : Checks scopes cs ps) (h' : Checks scopes [] qs) :
    Checks scopes cs (ps ++ qs) := by
  have both := h.append h'
  rw [List.append_nil] at both
  exact both

theorem snoc_text {s : String} (h : Checks scopes cs ps) : Checks scopes cs (ps ++ [.text s]) :=
  h.append_quiet (text s)

theorem guarded (needed : Bool) (h : Checks scopes cs ps) :
    Checks scopes cs (Piece.guarded needed ps) := by
  cases needed with
  | false => exact h
  | true => exact h.cons_text.snoc_text

theorem nested (h : Balanced ps) : Checks scopes [] (Piece.nested ps) :=
  ⟨.nested h, Piece.directFaults_nested h⟩

theorem column (c : ColumnRef) :
    Checks scopes [c] (scopeFaults scopes c ++ Piece.qualified c.qualifier c.name) := by
  have written := Piece.isLevel_qualified c.qualifier c.name
  have looked := Piece.isLevel_scopeFaults scopes c
  refine ⟨.append (.level looked) (.level written), ?_⟩
  rw [Piece.directFaults_append (.level looked), Piece.directFaults_of_level looked,
    Piece.directFaults_of_level written, filter_scopeFaults, filter_qualified, List.append_nil,
    List.flatMap_singleton]

/-- Expressions written one by one, with a separator between them. -/
theorem separated {s : String} {es : List Expr} {pss : List (List Piece)}
    (h : List.Forall₂ (fun e ps => Checks scopes e.checked ps) es pss) :
    Checks scopes (listChecked es) (Piece.separated s pss) := by
  induction h with
  | nil => exact .nil
  | @cons e ps es pss first h ih =>
    cases pss with
    | nil =>
      cases h
      rw [listChecked, listChecked, List.append_nil]
      exact first
    | cons qs pss => exact first.append ih.cons_text

end Checks

mutual

/-- **Rendering looks up the columns written, one after another, and reports nothing else.** -/
theorem Expr.checks (levels : List Level) :
    (e : Expr) →
      Checks (levels.map Scope.ofSource) e.checked (e.pieces (levels.map Scope.ofSource))
  | .column c => .column c
  | .label name => .name name
  | .bind p => .slot p
  | .countRows => .text _
  | .compare _ lhs rhs =>
    ((lhs.checks levels).guarded _).append ((rhs.checks levels).guarded _).cons_text
  | .like _ e pattern escape =>
    (((e.checks levels).guarded _).append ((pattern.checks levels).guarded _).cons_text).append
      (checks_escape levels escape)
  | .isNull _ e => ((e.checks levels).guarded _).snoc_text
  | .between _ e low high =>
    (((e.checks levels).guarded _).append ((low.checks levels).guarded _).cons_text).append
      ((high.checks levels).guarded _).cons_text
  | .inList _ _ [] => .text _
  | .inList _ e (item :: items) =>
    ((e.checks levels).guarded _).append
      (Checks.separated (.cons (item.checks levels) (checks_list levels items))).cons_text
      |>.snoc_text
  | .inQuery _ e query =>
    ((e.checks levels).guarded _).append_quiet
      (Checks.nested (query.written levels).balanced).cons_text
  | .existsIn _ query => (Checks.nested (query.written levels).balanced).cons_text
  | .logical _ [] => .text _
  | .logical op (e :: operands) =>
    .separated (.cons ((e.checks levels).guarded _) (checks_operands op levels operands))
  | .not e => ((e.checks levels).guarded _).cons_text
  | .binary _ lhs rhs =>
    ((lhs.checks levels).guarded _).append ((rhs.checks levels).guarded _).cons_text
  | .call _ _ args => (Checks.separated (checks_list levels args)).cons_text.snoc_text
  | .cast e _ => (e.checks levels).cons_text.snoc_text
  | .scalar query => .nested (query.written levels).balanced

theorem checks_list (levels : List Level) :
    (es : List Expr) →
      List.Forall₂ (fun e => Checks (levels.map Scope.ofSource) e.checked) es
        (listPieces (levels.map Scope.ofSource) es)
  | [] => .nil
  | e :: rest => .cons (e.checks levels) (checks_list levels rest)

theorem checks_operands (op : LogicalOp) (levels : List Level) :
    (es : List Expr) →
      List.Forall₂ (fun e => Checks (levels.map Scope.ofSource) e.checked) es
        (logicalPieces op (levels.map Scope.ofSource) es)
  | [] => .nil
  | e :: rest => .cons ((e.checks levels).guarded _) (checks_operands op levels rest)

theorem checks_escape (levels : List Level) :
    (escape : Option Expr) →
      Checks (levels.map Scope.ofSource) (optionChecked escape)
        (escapePieces (levels.map Scope.ofSource) escape)
  | none => .nil
  | some e => ((e.checks levels).guarded _).cons_text

end

/-- Where no level has any column, all that are written are reported. -/
theorem Expr.directFaults_of_no_source (e : Expr) :
    Piece.directFaults (e.pieces [Scope.ofSource none])
      = e.checked.map fun c => .fault (.columnNotInSet c.display "no source") :=
  (e.checks [none]).faults.trans List.map_eq_flatMap.symm

theorem checks_condition (keyword : String) (levels : List Level) (e : Option Expr) :
    Checks (levels.map Scope.ofSource) (optionChecked e)
      (conditionPieces keyword (levels.map Scope.ofSource) e) := by
  cases e with
  | none => exact .nil
  | some e => exact (e.checks levels).cons_text

/-! ## Joins in a source -/

namespace Source

/-- The source is this one, or joins sources of which one holds it. -/
inductive Holds (part : Source) : Source → Prop where
  | self : Holds part part
  | left {lhs : Source} (kind : JoinKind) (rhs : Source) (on : Option Expr) :
    Holds part lhs → Holds part (.join kind lhs rhs on)
  | right {rhs : Source} (kind : JoinKind) (lhs : Source) (on : Option Expr) :
    Holds part rhs → Holds part (.join kind lhs rhs on)

variable {part whole : Source}

theorem Holds.columns_subset (h : Holds part whole) : part.columns ⊆ whole.columns := by
  induction h with
  | self => exact List.Subset.refl _
  | left _ _ _ _ ih => exact List.subset_append_of_subset_left _ ih
  | right _ _ _ _ ih => exact List.subset_append_of_subset_right _ ih

/-- What is held is written as it is. -/
theorem Holds.pieces_infix (h : Holds part whole) (scopes : List Scope) :
    part.pieces scopes <:+: whole.pieces scopes := by
  induction h with
  | self => exact List.infix_rfl
  | left kind rhs on _ ih =>
    exact List.infix_append_of_infix_left
      (List.infix_append_of_infix_left (List.infix_append_of_infix_right ih))
  | @right rhs kind lhs on _ ih =>
    have side := ih.trans (Piece.infix_guarded rhs.isJoin _)
    exact List.infix_append_of_infix_left
      (List.infix_append_of_infix_right (List.infix_cons side))

theorem condition_infix (kind : JoinKind) (lhs rhs : Source) (on : Option Expr)
    (scopes : List Scope) :
    conditionPieces " ON " scopes on <:+: (join kind lhs rhs on).pieces scopes :=
  List.infix_append_right

/-- Rendering comes to what is held. -/
theorem Holds.reaches (h : Holds part whole) (levels : List Level) :
    (Node.source levels whole).Reaches (.source levels part) := by
  induction h with
  | self => exact .refl
  | left _ _ _ _ ih => exact .head List.mem_cons_self ih
  | right _ _ _ _ ih => exact .head (List.mem_cons_of_mem _ List.mem_cons_self) ih

end Source

theorem Select.source_infix {q : Select} {s : Source} (reads : q.source = some s)
    (outer : List Scope) :
    s.pieces (Scope.ofSource q.source :: outer) <:+: q.pieces outer := by
  obtain ⟨source, distinct, items, filter, groupBy, having, orderBy, l, o, errors⟩ := q
  cases reads
  rw [Select.pieces_eq]
  -- Five clauses follow.
  iterate 5 refine List.infix_append_of_infix_left ?_
  exact List.infix_append_of_infix_right (List.infix_cons List.infix_rfl)

/-! ## Columns that one of the sides has -/

theorem joinErrors_eq_nil_iff {lhs rhs : Source} {kind : JoinKind} {on : Option Expr} :
    joinErrors lhs rhs kind on = []
      ↔ ∀ c ∈ optionColumns on, containsKey (lhs.columns ++ rhs.columns) c.key = true := by
  rw [joinErrors, List.map_eq_nil_iff, List.filter_eq_nil_iff]
  simp

theorem containsKey_of_subset {cs ds : List ColumnRef} (h : cs ⊆ ds) {key : ColumnKey}
    (found : containsKey cs key = true) : containsKey ds key = true := by
  obtain ⟨c, hc, same⟩ := List.any_eq_true.1 found
  exact List.any_eq_true.2 ⟨c, h hc, same⟩

theorem scopeFaults_of_contained {levels : List Level} {s : Source} (home : some s ∈ levels)
    {c : ColumnRef} (has : containsKey s.columns c.key = true) :
    scopeFaults (levels.map Scope.ofSource) c = [] := by
  cases levels with
  | nil => rfl
  | cons innermost outer =>
    exact if_pos (List.any_eq_true.2 ⟨_, List.mem_map_of_mem home, has⟩)

/-- **The condition of a join that refused nothing is accepted**, where a query reads from a source
that holds the join. -/
theorem Select.condition_accepted {q : Select} {s lhs rhs : Source} {kind : JoinKind}
    {on : Option Expr} (reads : q.source = some s) (holds : Source.Holds (.join kind lhs rhs on) s)
    (accepted : joinErrors lhs rhs kind on = []) (outer : List Level) :
    conditionPieces " ON " ((q.source :: outer).map Scope.ofSource) on
        <:+: q.pieces (outer.map Scope.ofSource)
      ∧ Piece.directFaults (conditionPieces " ON " ((q.source :: outer).map Scope.ofSource) on)
        = [] := by
  constructor
  · exact ((Source.condition_infix kind lhs rhs on _).trans (holds.pieces_infix _)).trans
      (q.source_infix reads _)
  · rw [(checks_condition " ON " (q.source :: outer) on).faults, List.flatMap_eq_nil_iff]
    intro c hc
    have listed := (splits_option on).inOrder.subset hc
    have sided := joinErrors_eq_nil_iff.1 accepted c listed
    exact scopeFaults_of_contained (reads ▸ List.mem_cons_self)
      (containsKey_of_subset holds.columns_subset sided)

/-! ## Columns that neither side has -/

theorem Written.fault_mem {xs : List Part} {ps : List Piece} (h : Written xs ps) {e : SchemaError}
    (he : .mistake e ∈ xs) : .fault e ∈ ps := by
  induction h with
  | append _ _ ih₁ ih₂ =>
    exact List.mem_append.2 ((List.mem_append.1 he).imp ih₁ ih₂)
  | mistake e' =>
    cases List.mem_singleton.1 he
    exact List.mem_singleton_self _
  | nested _ ih => exact List.mem_cons_of_mem _ (List.mem_append_left _ (ih he))
  | nil | text => cases he
  | column | selected | resultName | name | bind | castType => cases List.mem_singleton.1 he

theorem mem_optionParts {levels : List Level} {e : Option Expr} {f : Expr} (hf : f ∈ e.toList)
    {x : Part} (hx : x ∈ f.parts levels) : x ∈ optionParts levels e :=
  (forall_optionParts (P := (· ∈ optionParts levels e))).1 (fun _ h => h) f hf x hx

namespace Statement

variable {s : Statement}

theorem mem_parts_of_root {root : Node} (h : root ∈ s.roots) {x : Part} (hx : x ∈ root.parts) :
    x ∈ s.parts := by
  cases s with
  | query q =>
    cases List.mem_singleton.1 h
    exact hx
  | insert i =>
    obtain ⟨pair, hp, rfl⟩ := List.mem_map.1 h
    exact List.mem_append_right _ (List.mem_flatMap.2 ⟨pair, hp, hx⟩)
  | update u =>
    rcases List.mem_append.1 h with value | filter
    · obtain ⟨pair, hp, rfl⟩ := List.mem_map.1 value
      refine List.mem_append_left _ (List.mem_append_right _ (List.mem_cons_of_mem _ ?_))
      exact List.mem_flatMap.2 ⟨pair, hp, List.mem_cons_of_mem _ hx⟩
    · obtain ⟨e, he, rfl⟩ := List.mem_map.1 filter
      exact List.mem_append_right _ (mem_optionParts he hx)
  | delete d =>
    obtain ⟨e, he, rfl⟩ := List.mem_map.1 h
    exact List.mem_cons_of_mem _ (mem_optionParts he hx)

/-- What a node reached writes by itself is written for the statement. -/
theorem mem_parts_of_reached {n : Node} (reached : s.Reaches n) {x : Part} (own : x ∈ n.own) :
    x ∈ s.parts := by
  obtain ⟨root, hroot, path⟩ := reached
  exact mem_parts_of_root hroot (Node.mem_parts_iff.2 ⟨n, path, own⟩)

theorem refused_of_fault {e : SchemaError} (h : .fault e ∈ s.pieces) (p : Pool) (d : Dialect) :
    ∃ e' p', s.buildWith p d = (.error e', p') := by
  rcases built : s.buildWith p d with ⟨_ | seed, p'⟩
  · exact ⟨_, _, rfl⟩
  · have none := builds_iff_faults_eq_nil.1 ⟨seed, p', built⟩
    exact (Piece.faultsFrom_eq_nil_iff.1 none _ h).elim

/-- **A column that neither side has is refused wherever the join is written.** -/
theorem refused_of_join {levels : List Level} {lhs rhs : Source} {kind : JoinKind}
    {on : Option Expr} (reached : s.Reaches (.source levels (.join kind lhs rhs on)))
    {c : ColumnRef} (hc : c ∈ optionColumns on)
    (alien : containsKey (lhs.columns ++ rhs.columns) c.key = false) :
    .fault (.columnNotInSet c.display (Source.join kind lhs rhs none).name) ∈ s.pieces
      ∧ ∀ p d, ∃ e p', s.buildWith p d = (.error e, p') := by
  have noted : .columnNotInSet c.display (Source.join kind lhs rhs none).name
      ∈ joinErrors lhs rhs kind on :=
    List.mem_map.2 ⟨c, List.mem_filter.2 ⟨hc, by simp [alien]⟩, rfl⟩
  have written := s.written.fault_mem (mem_parts_of_reached reached (List.mem_map_of_mem noted))
  exact ⟨written, refused_of_fault written⟩

/-- What the source of a query holds is reached with the query. -/
theorem reaches_of_holds {outer : List Level} {q : Select} (reached : s.Reaches (.select outer q))
    {part whole : Source} (reads : q.source = some whole) (holds : Source.Holds part whole) :
    s.Reaches (.source (q.source :: outer) part) := by
  obtain ⟨root, hroot, path⟩ := reached
  have source : Node.source (q.source :: outer) whole ∈ (Node.select outer q).children := by
    simp [Node.children, reads]
  exact ⟨root, hroot, (path.tail source).trans (holds.reaches _)⟩

end Statement

/-- **The two walks through a join condition agree**, and so its columns are those of the two sides,
or the build fails. -/
theorem joinConditions_checked :
    (∀ e : Expr, e.checked.Sublist e.columns
        ∧ e.columns.Perm (e.checked ++ e.sought.flatMap Expr.columns)
        ∧ ∀ levels : List Level,
          Piece.directFaults (e.pieces (levels.map Scope.ofSource))
            = e.checked.flatMap (scopeFaults (levels.map Scope.ofSource)))
      ∧ ∀ (q : Select) (s lhs rhs : Source) (kind : JoinKind) (on : Option Expr),
        q.source = some s → Source.Holds (.join kind lhs rhs on) s →
        (joinErrors lhs rhs kind on = [] → ∀ outer : List Level,
            conditionPieces " ON " ((q.source :: outer).map Scope.ofSource) on
                <:+: q.pieces (outer.map Scope.ofSource)
              ∧ Piece.directFaults
                (conditionPieces " ON " ((q.source :: outer).map Scope.ofSource) on) = [])
          ∧ ∀ c ∈ optionColumns on, containsKey (lhs.columns ++ rhs.columns) c.key = false →
            ∀ (stmt : Statement) (outer : List Level), stmt.Reaches (.select outer q) →
              .fault (.columnNotInSet c.display (Source.join kind lhs rhs none).name) ∈ stmt.pieces
                ∧ ∀ p d, ∃ e p', stmt.buildWith p d = (.error e, p') := by
  refine ⟨fun e => ⟨e.splits.inOrder, e.splits.besides, fun levels => (e.checks levels).faults⟩, ?_⟩
  intro q s lhs rhs kind on reads holds
  refine ⟨fun accepted outer => Select.condition_accepted reads holds accepted outer, ?_⟩
  intro c hc alien stmt outer reached
  exact Statement.refused_of_join (Statement.reaches_of_holds reached reads holds) hc alien

/-! ### People joined with pets -/

/-- A column of a table that is not joined. -/
def shopId : ColumnRef := Table.wholeColumn ⟨3⟩ "Shop" "id"

/-- The person is known, or there is a shop among none. -/
def knownOrSold : Expr :=
  .logical .or [.isNull true (.column peopleId), .inList false (.column shopId) []]

def peopleJoined (on : Expr) : Source :=
  .join .left (.relation (.table peopleTable)) (.relation (.table petsTable)) (some on)

def readingFrom (s : Source) : Select := { Select.empty with source := some s }

/-- The condition on people is accepted; the shop is refused, although it is not written. -/
theorem joinConditions_checked_of_people :
    knownOrSold.columns = [peopleId, shopId]
      ∧ knownOrSold.checked = [peopleId]
      ∧ knownOrSold.checked.Sublist knownOrSold.columns
      ∧ Piece.directFaults (conditionPieces " ON "
        [Scope.ofSource (some (peopleJoined (.isNull true (.column peopleId))))]
        (some (.isNull true (.column peopleId)))) = []
      ∧ ∀ p d, ∃ e p',
        (Statement.query (.select (readingFrom (peopleJoined knownOrSold)))).buildWith p d
          = (.error e, p') := by
  obtain ⟨walks, joins⟩ := joinConditions_checked
  have known := (joins (readingFrom (peopleJoined (.isNull true (.column peopleId)))) _ _ _ _ _ rfl
    .self).1 (by decide) []
  have reached : (Statement.query (.select (readingFrom (peopleJoined knownOrSold)))).Reaches
      (.select [] (readingFrom (peopleJoined knownOrSold))) :=
    ⟨_, List.mem_singleton_self _, .single (List.mem_singleton_self _)⟩
  have refused := (joins (readingFrom (peopleJoined knownOrSold)) _ _ _ _ _ rfl .self).2 shopId
    (List.mem_cons_of_mem _ List.mem_cons_self) (by decide) _ [] reached
  exact ⟨rfl, rfl, (walks knownOrSold).1, known.2, refused.2⟩

end TypedSql
