import TypedSql.Proofs.Compound.Words

/-!
# Compound queries are read back

**Theorem (`Compound.read_eq_tree_iff_bare`).** SQL takes the text of a compound query for the query
itself exactly if none of its queries has ORDER BY, LIMIT or OFFSET of its own. Those of any query
but the last one make the text ungrammatical. Those of the last one are taken for clauses of the
whole.

Queries are written behind one another without parentheses, so that their endings are only told
apart by where they stand.
-/

namespace TypedSql

open Lexeme

variable {d : Dialect}

/-- The query, restricted by its own ending. -/
def Select.tree (d : Dialect) (q : Select) : QueryTree :=
  (QueryTree.body (q.bodyWords d)).restrict (q.endingWords d)

/-- The query with one more behind a set operator. -/
def QueryTree.add (t : Select → QueryTree) (acc : QueryTree) (b : Branch) : QueryTree :=
  .combined b.operator acc (t b.query)

/-- Each query is restricted by its own ending, and all of them together by that of the compound. -/
def Compound.tree (d : Dialect) (q : Compound) : QueryTree :=
  (q.branches.foldl (QueryTree.add (Select.tree d)) (q.first.tree d)).restrict (q.endingWords d)

def Select.bareTree (d : Dialect) (q : Select) : QueryTree := .body (q.bodyWords d)

/-- The queries without their endings. -/
def Compound.bareTree (d : Dialect) (q : Compound) : QueryTree :=
  q.branches.foldl (QueryTree.add (Select.bareTree d)) (q.first.bareTree d)

/-- The ending of the last query, if none in front of it has one. -/
def lastEnding? : List Lexeme → List (List Lexeme) → Option (List Lexeme)
  | ending, [] => some ending
  | [], next :: rest => lastEnding? next rest
  | _ :: _, _ :: _ => none

/-- What is written behind the last query, if no other one has an ending. -/
def Compound.lastWords? (d : Dialect) (q : Compound) : Option (List Lexeme) :=
  (lastEnding? (q.first.endingWords d) (q.branches.map (·.query.endingWords d))).map
    (· ++ q.endingWords d)

theorem lastEnding?_eq_some_nil_iff {ending : List Lexeme} {rest : List (List Lexeme)} :
    lastEnding? ending rest = some [] ↔ ∀ e ∈ ending :: rest, e = [] := by
  induction rest generalizing ending with
  | nil => simp [lastEnding?]
  | cons next rest ih =>
    cases ending with
    | nil => simp [lastEnding?, ih]
    | cons l ls => simp [lastEnding?]

theorem eq_of_lastEnding?_concat {ending last e : List Lexeme} {rest : List (List Lexeme)}
    (h : lastEnding? ending (rest ++ [e]) = some last) : last = e := by
  induction rest generalizing ending with
  | nil =>
    cases ending with
    | nil => exact (Option.some.inj h).symm
    | cons l ls => cases h
  | cons next rest ih =>
    cases ending with
    | nil => exact ih h
    | cons l ls => cases h

/-! ## Reading -/

section

variable (hd : d.Readable)

include hd

theorem readBody?_query {q : Select} (h : ∀ l ∈ q.leaves, l.Plain) {ms : List Lexeme}
    (begun : Begun isClauseWord ms) :
    readBody? (q.bodyWords d ++ (q.endingWords d ++ ms))
      = some (q.bodyWords d, q.endingWords d ++ ms) := by
  have body := (q.divided hd [] h).body.mono isClauseWord_of_not_isEndWord
  exact readBody?_append body.calm (q.isBody_bodyWords hd) ((q.begun_endingWords hd).append begun)

/-- **The branches are read one by one.** `ending` is the ending of the query in front. -/
theorem readRest?_branches (q : Compound) {branches : List Branch}
    (h : ∀ l ∈ branchLeaves branches, l.Plain) (t : QueryTree) (ending : List Lexeme) :
    readRest? t (ending ++ (segments isSetWord 0 (q.wordsFrom d branches)).1)
        (segments isSetWord 0 (q.wordsFrom d branches)).2
      = (lastEnding? ending (branches.map (·.query.endingWords d))).bind fun last =>
        if inOrder (last ++ q.endingWords d) then
          some ((branches.foldl (QueryTree.add (Select.bareTree d)) t).restrict
            (last ++ q.endingWords d))
        else none := by
  -- What a query is followed by is known when the next set operator is reached, so that the ending
  -- of the query in front goes along the induction.
  induction branches generalizing t ending with
  | nil =>
    rw [segments_ending hd]
    rfl
  | cons b rest ih =>
    obtain ⟨l, more, row, operator⟩ := segments_branch hd q b h
    rw [branchLeaves_cons, List.forall_mem_append] at h
    have select := b.query.isBody_bodyWords hd
    rw [row, List.append_nil, readRest?]
    cases ending with
    | nil =>
      rw [if_pos rfl, operator _ (isBody_append select _)]
      simp only [Option.bind_eq_bind, Option.bind_some,
        readBody?_query hd h.1 (begun_segments hd q h.2)]
      exact ih h.2 _ _
    | cons l ls => rfl

/-- What a compound query is read as. -/
theorem readCompound?_words (q : Compound) (h : ∀ l ∈ (Query.compound q).leaves, l.Plain) :
    readCompound? (words d ((Query.compound q).pieces []))
      = (q.lastWords? d).bind fun ending =>
        if inOrder ending then some ((q.bareTree d).restrict ending) else none := by
  have parts : (∀ l ∈ q.first.leaves, l.Plain) ∧ ∀ l ∈ branchLeaves q.branches, l.Plain := by
    obtain ⟨first, branches, orderBy, limit, offset, errors⟩ := q
    simp only [Query.leaves, List.forall_mem_append] at h
    exact h.1.1
  have row : words d ((Query.compound q).pieces [])
      = q.first.bodyWords d ++ (q.first.endingWords d ++ q.wordsFrom d q.branches) := by
    rw [Compound.pieces_ending, words_silent (sqlText_faults q.errors), List.append_assoc]
    exact words_query hd parts.1 (loose_branches hd q parts.2)
  have divided := q.first.divided hd [] parts.1
  have body : Calm isSetWord (q.first.bodyWords d) :=
    (divided.body.mono isSetWord_of_not_isEndWord).calm
  have ending : Calm isSetWord (q.first.endingWords d) := divided.ending.calm
  rw [row, readCompound?, body.segments, ending.segments]
  simp only [Option.bind_eq_bind, Option.bind_some,
    readBody?_query hd parts.1 (begun_segments hd q parts.2), Compound.lastWords?,
    Option.bind_map]
  exact readRest?_branches hd q parts.2 _ _

end

/-! ## Trees -/

theorem Select.tree_of_bare {q : Select} (h : q.endingWords d = []) : q.tree d = q.bareTree d := by
  rw [Select.tree, h]
  rfl

theorem Compound.tree_of_bare {q : Compound}
    (h : ∀ e ∈ q.first.endingWords d :: q.branches.map (·.query.endingWords d), e = []) :
    q.tree d = (q.bareTree d).restrict (q.endingWords d) := by
  rw [List.forall_mem_cons] at h
  have branches : ∀ acc, ∀ b ∈ q.branches,
      QueryTree.add (Select.tree d) acc b = QueryTree.add (Select.bareTree d) acc b := by
    intro acc b hb
    rw [QueryTree.add, QueryTree.add, Select.tree_of_bare (h.2 _ (List.mem_map_of_mem hb))]
  rw [Compound.tree, Select.tree_of_bare h.1, List.foldl_ext _ _ _ branches]
  rfl

/-- With an ending behind the last query, the whole is taken to be restricted, not that query. -/
theorem restrict_ne_tree {q : Compound} (several : q.branches ≠ []) {l : Lexeme}
    {ls : List Lexeme}
    (h : lastEnding? (q.first.endingWords d) (q.branches.map (·.query.endingWords d))
      = some (l :: ls)) :
    (q.bareTree d).restrict (l :: ls ++ q.endingWords d) ≠ q.tree d := by
  obtain ⟨front, b, branches⟩ := (List.eq_nil_or_concat q.branches).resolve_left several
  rw [List.concat_eq_append] at branches
  rw [branches, List.map_append, List.map_singleton] at h
  have last : b.query.tree d = .restricted (b.query.bareTree d) (l :: ls) := by
    rw [Select.tree, ← eq_of_lastEnding?_concat h]
    rfl
  rw [Compound.tree, Compound.bareTree, branches, List.foldl_append, List.foldl_append,
    List.foldl_cons, List.foldl_cons, List.foldl_nil, List.foldl_nil, QueryTree.add, QueryTree.add,
    last]
  -- The two trees have the last query at the same place, restricted in one of them only.
  intro same
  cases own : q.endingWords d with
  | nil =>
    rw [own] at same
    cases same
  | cons o os =>
    rw [own] at same
    injection same with bodies
    injection bodies with _ _ inner
    cases inner

/-! ## Builds -/

/-- The last query's own LIMIT and that of the compound leave the same text, and the same seed. -/
theorem buildWith_limit_eq (a b : Select) (op : SetOperator) (n : Placeholder)
    (limit : b.limit = none) (offset : b.offset = none) (p : Pool) (d : Dialect) :
    (Statement.query (.compound (a.combine op (b.withLimit n)))).buildWith p d
      = (Statement.query (.compound ((a.combine op b).withLimit n))).buildWith p d := by
  obtain ⟨source, distinct, items, filter, groupBy, having, orderBy, l, o, errors⟩ := b
  subst limit offset
  have pieces : (Query.compound (a.combine op (Select.withLimit
        ⟨source, distinct, items, filter, groupBy, having, orderBy, none, none, errors⟩
          n))).pieces []
      = (Query.compound ((a.combine op
        ⟨source, distinct, items, filter, groupBy, having, orderBy, none, none, errors⟩).withLimit
          n)).pieces [] := by
    simp only [Select.combine, Select.withLimit, Compound.withLimit, Query.pieces, branchPieces,
      Select.pieces_eq, limitPieces, clausePieces, List.map_nil, List.append_nil, List.append_assoc,
      List.cons_append]
  simp only [Statement.buildWith_eq, Statement.pieces, pieces]
  rfl

/-- **Compound queries are read back exactly if their queries have no endings.** A compound query
has branches. What the text is read as otherwise is said by the second part, and the third one
moves a LIMIT. -/
theorem Compound.read_eq_tree_iff_bare {q : Compound}
    (built : (Statement.query (.compound q)).Built) (several : q.branches ≠ [])
    (hd : d.Readable) {p p' : Pool} (hp : p.Clean) {seed : Seed}
    (h : (Statement.query (.compound q)).buildWith p d = (.ok seed, p')) :
    (readQuery? d.quote seed.sql = some (q.tree d) ↔ ∀ s ∈ q.queries, s.isBare = true)
      ∧ readQuery? d.quote seed.sql
        = ((q.lastWords? d).bind fun ending =>
          if inOrder ending then some ((q.bareTree d).restrict ending) else none)
      ∧ ∀ (a b : Select) (op : SetOperator) (n : Placeholder), b.limit = none → b.offset = none →
        (Statement.query (.compound (a.combine op (b.withLimit n)))).buildWith p d
          = (Statement.query (.compound ((a.combine op b).withLimit n))).buildWith p d := by
  have read : readQuery? d.quote seed.sql
      = ((q.lastWords? d).bind fun ending =>
        if inOrder ending then some ((q.bareTree d).restrict ending) else none) := by
    obtain ⟨-, sql, -, -⟩ := Statement.sql_eq hp h
    rw [readQuery?, sql]
    exact readCompound?_words hd q fun l hl => (built l hl).plain
  refine ⟨?_, read, fun a b op n limit offset => buildWith_limit_eq a b op n limit offset p d⟩
  have bare : (∀ s ∈ q.queries, s.isBare = true)
      ↔ ∀ e ∈ q.first.endingWords d :: q.branches.map (·.query.endingWords d), e = [] := by
    simp only [Compound.queries, List.forall_mem_cons, List.forall_mem_map,
      Select.endingWords_eq_nil_iff hd]
  rw [bare, read]
  constructor
  · intro own
    cases last : lastEnding? (q.first.endingWords d) (q.branches.map (·.query.endingWords d)) with
    | none => simp [Compound.lastWords?, last] at own
    | some ending =>
      cases ending with
      | nil => exact lastEnding?_eq_some_nil_iff.1 last
      | cons l ls =>
        rw [Compound.lastWords?, last, Option.map_some, Option.bind_some] at own
        split at own
        · exact absurd (Option.some.inj own) (restrict_ne_tree several last)
        · cases own
  · intro none
    rw [Compound.lastWords?, lastEnding?_eq_some_nil_iff.2 none, Option.map_some, Option.bind_some,
      List.nil_append, if_pos (q.inOrder_endingWords hd), Compound.tree_of_bare none]

/-! ### Artists and labels -/

def artistTable : Table := .single ⟨1⟩ "Artist" "id"

def labelTable : Table := .single ⟨2⟩ "Label" "id"

def allArtists : Select := Select.empty.fromSource (.relation (.table artistTable))

def allLabels : Select := Select.empty.fromSource (.relation (.table labelTable))

/-- Three rows of both. -/
def threeOfBoth : Compound := (allArtists.combine .unionAll allLabels).withLimit (rowCount 3)

/-- All artists and three labels. -/
def threeLabels : Compound := allArtists.combine .unionAll (allLabels.withLimit (rowCount 3))

theorem threeOfBoth_built : (Statement.query (.compound threeOfBoth)).Built := by
  have artists : (Leaf.table artistTable).Built :=
    .table (Table.single_built ⟨1⟩ (by decide) (by decide))
  have labels : (Leaf.table labelTable).Built :=
    .table (Table.single_built ⟨2⟩ (by decide) (by decide))
  have leaves : (Statement.query (.compound threeOfBoth)).leaves
      = [.table artistTable, .table labelTable, .bind (rowCount 3)] := rfl
  simp only [Statement.Built, leaves, List.forall_mem_cons]
  exact ⟨artists, labels, .bind _, List.forall_mem_nil _⟩

theorem read_eq_tree_of_threeOfBoth :
    ∃ seed p', (Statement.query (.compound threeOfBoth)).buildWith (.new {}) .generic
        = (.ok seed, p')
      ∧ seed.sql = "SELECT Artist.id FROM Artist UNION ALL SELECT Label.id FROM Label LIMIT ?"
      ∧ readQuery? '"' seed.sql = some (threeOfBoth.tree .generic) := by
  have faults : Piece.faults (Statement.query (.compound threeOfBoth)).pieces = [] := by decide
  have built := Statement.buildWith_eq_ok (p := .new {}) (d := .generic) faults
  refine ⟨_, _, built, by decide, ?_⟩
  exact (Compound.read_eq_tree_iff_bare threeOfBoth_built (List.cons_ne_nil _ _)
    Dialect.readable_generic (Pool.clean_new {}) built).1.2 (by decide)

/-- Three labels and all artists are taken for three rows of both. -/
theorem threeLabels_read_as_threeOfBoth :
    ∃ seed, (Statement.query (.compound threeLabels)).build = .ok seed
      ∧ (Statement.query (.compound threeOfBoth)).build = .ok seed
      ∧ seed.sql = "SELECT Artist.id FROM Artist UNION ALL SELECT Label.id FROM Label LIMIT ?"
      ∧ readQuery? '"' seed.sql = some (threeOfBoth.tree .generic)
      ∧ readQuery? '"' seed.sql ≠ some (threeLabels.tree .generic) := by
  have faults : Piece.faults (Statement.query (.compound threeOfBoth)).pieces = [] := by decide
  have built := congrArg Prod.fst
    (Statement.buildWith_eq_ok (p := .new {}) (d := .generic) faults)
  have moved := congrArg Prod.fst <|
    buildWith_limit_eq allArtists allLabels .unionAll (rowCount 3) rfl rfl (.new {}) .generic
  refine ⟨_, moved.trans built, built, ?_, ?_, ?_⟩
  all_goals decide

end TypedSql
