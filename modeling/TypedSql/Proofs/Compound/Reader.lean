import TypedSql.Proofs.Compound.Bodies

/-!
# Reading compound queries

The compound grammar of SQL. Queries stand behind one another with set operators between them and
are combined from left to right. Each begins with SELECT. Behind the last one, and there only, ORDER
BY, LIMIT and OFFSET may stand, in this order; they restrict the whole.

What is inside a body or behind a clause word is not looked into, except that a reader has to know
which words are in parentheses.

**Theorem (`readBody?_append`).** Where an ending begins is found by its first word, provided that
the body has no such word on its surface.
-/

namespace TypedSql

open Lexeme

/-- What a text is taken for. -/
inductive QueryTree where
  /-- A query without ORDER BY, LIMIT and OFFSET. -/
  | body (ls : List Lexeme)
  | combined (op : SetOperator) (lhs rhs : QueryTree)
  /-- What ORDER BY, LIMIT and OFFSET leave of the rows. -/
  | restricted (q : QueryTree) (ending : List Lexeme)
deriving DecidableEq

/-- The tree with the ending behind it, if there is one. -/
def QueryTree.restrict (t : QueryTree) : List Lexeme → QueryTree
  | [] => t
  | l :: ls => .restricted t (l :: ls)

/-! ## Segments -/

/-- The lexemes in front of the first word at which the reader stops, and every such word with the
lexemes behind it. -/
def segments (stop : Lexeme → Bool) :
    (depth : Nat) → List Lexeme → List Lexeme × List (Lexeme × List Lexeme)
  | _, [] => ([], [])
  | 0, l :: ls =>
    let rest := segments stop (l.depth 0) ls
    if stop l then ([], (l, rest.1) :: rest.2) else (l :: rest.1, rest.2)
  | depth + 1, l :: ls =>
    let rest := segments stop (l.depth (depth + 1)) ls
    (l :: rest.1, rest.2)

/-- The segments put together again. -/
def joined (segments : List (Lexeme × List Lexeme)) : List Lexeme :=
  segments.flatMap fun (l, ls) => l :: ls

variable {stop : Lexeme → Bool} {ls ms : List Lexeme}

theorem segments_joined (depth : Nat) (ls : List Lexeme) :
    (segments stop depth ls).1 ++ joined (segments stop depth ls).2 = ls := by
  induction ls generalizing depth with
  | nil => cases depth <;> rfl
  | cons l ls ih =>
    cases depth with
    | zero =>
      rw [segments]
      split
      · exact congrArg (l :: ·) (ih _)
      · exact congrArg (l :: ·) (ih _)
    | succ depth => exact congrArg (l :: ·) (ih _)

theorem segments_append {depth : Nat} (free : ∀ l ∈ surface depth ls, stop l = false)
    (ms : List Lexeme) :
    segments stop depth (ls ++ ms)
      = (ls ++ (segments stop (depthAfter depth ls) ms).1,
        (segments stop (depthAfter depth ls) ms).2) := by
  induction ls generalizing depth with
  | nil => rfl
  | cons l ls ih =>
    cases depth with
    | zero =>
      have both := List.forall_mem_cons.1 free
      rw [List.cons_append, segments, ih both.2, both.1]
      rfl
    | succ depth =>
      rw [List.cons_append, segments, ih free]
      rfl

/-- Calm lexemes stand in front of the first stop. -/
theorem Calm.segments (h : Calm stop ls) (ms : List Lexeme) :
    segments stop 0 (ls ++ ms) = (ls ++ (segments stop 0 ms).1, (segments stop 0 ms).2) := by
  rw [segments_append h.free, h.depth]

/-- The lexemes are none or begin with a stop. -/
def Begun (stop : Lexeme → Bool) (ls : List Lexeme) : Prop :=
  ∀ l, ls.head? = some l → stop l = true

theorem Begun.append (hl : Begun stop ls) (hm : Begun stop ms) : Begun stop (ls ++ ms) := by
  cases ls with
  | nil => exact hm
  | cons l ls => exact hl

theorem Begun.segments (h : Begun stop ls) : (segments stop 0 ls).1 = [] := by
  cases ls with
  | nil => rfl
  | cons l ls => rw [TypedSql.segments, h l rfl, if_pos rfl]

/-! ## The grammar -/

/-- The set operator that the word begins, and the query behind it. -/
def setOperator? : Lexeme → List Lexeme → Option (SetOperator × List Lexeme)
  | .word w, ls =>
    if Text.sameName "UNION" w then
      match ls with
      | .word v :: rest =>
        if Text.sameName "ALL" v then some (.unionAll, rest) else some (.union, ls)
      | _ => some (.union, ls)
    else if Text.sameName "INTERSECT" w then some (.intersect, ls)
    else if Text.sameName "EXCEPT" w then some (.except, ls)
    else none
  | _, _ => none

/-- The lexemes begin with SELECT. -/
def isBody : List Lexeme → Bool
  | .word w :: _ => Text.sameName "SELECT" w
  | _ => false

/-- The body of a query and what is behind it. -/
def readBody? (ls : List Lexeme) : Option (List Lexeme × List Lexeme) :=
  let (body, clauses) := segments isClauseWord 0 ls
  if isBody body then some (body, joined clauses) else none

/-- The place of a clause word among the others. -/
def clausePlace : Lexeme → Nat
  | .word w => clauseWords.findIdx (Text.sameName · w)
  | _ => clauseWords.length

/-- The places of the clauses on the surface. -/
def places (ls : List Lexeme) : List Nat := ((surface 0 ls).filter isClauseWord).map clausePlace

/-- ORDER BY, LIMIT and OFFSET are in this order. -/
def inOrder (ls : List Lexeme) : Bool := decide ((places ls).Pairwise (· < ·))

/-- Adds one query after the other; `ending` is what has been read behind the last one. -/
def readRest? (t : QueryTree) (ending : List Lexeme) :
    List (Lexeme × List Lexeme) → Option QueryTree
  | [] => if inOrder ending then some (t.restrict ending) else none
  | (l, ls) :: rest =>
    if ending = [] then do
      let (op, query) ← setOperator? l ls
      let (body, ending) ← readBody? query
      readRest? (.combined op t (.body body)) ending rest
    else none

def readCompound? (ls : List Lexeme) : Option QueryTree := do
  let (first, rest) := segments isSetWord 0 ls
  let (body, ending) ← readBody? first
  readRest? (.body body) ending rest

/-- What SQL takes a text for, whose names are quoted by `q`. -/
def readQuery? (q : Char) (sql : String) : Option QueryTree := readCompound? (lexemes q sql.toList)

theorem readBody?_append (body : Calm isClauseWord ls) (select : isBody ls = true)
    (ending : Begun isClauseWord ms) : readBody? (ls ++ ms) = some (ls, ms) := by
  have first := ending.segments
  have whole : (segments isClauseWord 0 ms).1 ++ joined (segments isClauseWord 0 ms).2 = ms :=
    segments_joined 0 ms
  rw [first, List.nil_append] at whole
  simp only [readBody?, body.segments, first, List.append_nil, whole, select, if_true]

theorem Calm.places_append (h : Calm stop ls) (ms : List Lexeme) :
    places (ls ++ ms) = places ls ++ places ms := by
  rw [places, surface_append, h.depth, List.filter_append, List.map_append]
  rfl

theorem Calm.places_eq_nil (h : Calm isEndWord ls) : places ls = [] := by
  have none : (surface 0 ls).filter isClauseWord = [] := by
    refine List.filter_eq_nil_iff.2 fun l hl => ?_
    rw [isClauseWord_of_not_isEndWord l (h.free l hl)]
    exact Bool.false_ne_true
  rw [places, none]
  rfl

end TypedSql
