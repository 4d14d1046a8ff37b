import TypedSql.Proofs.Compound.Reader

/-!
# Reading sources

The join grammar of SQL. Operands stand behind one another with INNER JOIN, LEFT JOIN or CROSS JOIN
between them, and are joined from left to right. A condition behind ON belongs to the operand in
front of it. An operand is a name or a query in parentheses, perhaps under another name, or joined
operands in parentheses.

What is inside a query or a condition is not looked into, except that a reader has to know which
words are in parentheses.

**Theorem (`readChain?_append_join`).** A join at the end joins everything in front of it with its
own operand.

**Theorem (`closeBracket?_append`).** Between parentheses, calm lexemes are found again.
-/

namespace TypedSql

open Lexeme

/-- What the text of a source is taken for. -/
inductive FromTree where
  /-- A table or a view, under another name if there is one. -/
  | named (name : String) (called : Option String)
  | query (body : List Lexeme) (called : Option String)
  | join (kind : JoinKind) (lhs rhs : FromTree) (on : Option (List Lexeme))
deriving DecidableEq

/-! ## Words -/

/-- The words that begin a join. -/
def joinWords : List String := ["INNER", "LEFT", "CROSS"]

def isJoinWord : Lexeme → Bool := Lexeme.isWordOf joinWords

def isOn : Lexeme → Bool := Lexeme.isWordOf ["ON"]

/-- The join that the word begins. -/
def joinKind? : Lexeme → Option JoinKind
  | .word w =>
    if Text.sameName "INNER" w then some .inner
    else if Text.sameName "LEFT" w then some .left
    else if Text.sameName "CROSS" w then some .cross
    else none
  | _ => none

/-- The name that is quoted or a word other than a keyword. -/
def Lexeme.name? : Lexeme → Option String
  | .quoted n => some n
  | .word w => if TypedSql.isWordOf reservedWords w then none else some w
  | .sign _ => none

/-! ## Parentheses -/

/-- Splits at the parenthesis that closes the last of `depth` open ones. -/
def closeBracket? (depth : Nat) : List Lexeme → Option (List Lexeme × List Lexeme)
  | [] => none
  | l :: ls =>
    if l.depth depth = 0 then some ([], ls)
    else (closeBracket? (l.depth depth) ls).map fun (inside, behind) => (l :: inside, behind)

variable {stop : Lexeme → Bool} {ls ms : List Lexeme}

theorem surface_zero_eq_nil (h : surface 0 ls = []) : ls = [] := by
  cases ls with
  | nil => rfl
  | cons l ls => cases h

/-- Lexemes in parentheses are passed over. -/
theorem closeBracket?_inside {depth behind : Nat} (inside : surface (depth + 1) ls = [])
    (level : depthAfter (depth + 1) ls = behind + 1) (ms : List Lexeme) :
    closeBracket? (depth + 1) (ls ++ ms)
      = (closeBracket? (behind + 1) ms).map fun (own, rest) => (ls ++ own, rest) := by
  induction ls generalizing depth with
  | nil =>
    cases level
    simp
  | cons l ls ih =>
    cases next : l.depth (depth + 1) with
    | zero =>
      -- Closed here, the parentheses could not be open behind the lexemes.
      have last : ls = [] := surface_zero_eq_nil (next ▸ inside)
      rw [last, depthAfter, List.foldl_cons, next] at level
      cases level
    | succ deeper =>
      have below : surface (deeper + 1) ls = [] := next ▸ inside
      have rest : depthAfter (deeper + 1) ls = behind + 1 := next ▸ level
      rw [List.cons_append, closeBracket?, next, if_neg (Nat.succ_ne_zero _), ih below rest,
        Option.map_map]
      rfl

theorem closeBracket?_append (h : Calm stop ls) (ms : List Lexeme) :
    closeBracket? 1 (ls ++ .sign ')' :: ms) = some (ls, ms) := by
  rw [closeBracket?_inside (h.inside 0) (h.depth 1), closeBracket?]
  simp [Lexeme.depth]

/-! ## The grammar -/

/-- What an operand is called: nothing is said, or a name stands there, perhaps behind AS. -/
def called? : List Lexeme → Option (Option String)
  | [] => some none
  | [l] => l.name?.map some
  | [.word w, l] => if Text.sameName "AS" w then l.name?.map some else none
  | _ => none

/-- Reads an operand; `inner` reads joined operands in parentheses. -/
def readOperand? (inner : List Lexeme → Option FromTree) : List Lexeme → Option FromTree
  | [] => none
  | .sign '(' :: ls =>
    (closeBracket? 1 ls).bind fun (inside, behind) =>
      if isBody inside then (called? behind).map (.query inside)
      else if behind = [] then inner inside
      else none
  | l :: ls => l.name?.bind fun name => (called? ls).map (.named name)

/-- The condition, if there is one and no more. -/
def condition? : List (Lexeme × List Lexeme) → Option (Option (List Lexeme))
  | [] => some none
  | [(_, ls)] => some (some ls)
  | _ => none

/-- Joins what is in front with one more operand. -/
def readJoin? (operand : List Lexeme → Option FromTree) (lhs : FromTree) :
    Lexeme × List Lexeme → Option FromTree
  | (l, .word w :: ls) =>
    if Text.sameName "JOIN" w then do
      let kind ← joinKind? l
      let (first, conditions) := segments isOn 0 ls
      let rhs ← operand first
      let on ← condition? conditions
      pure (.join kind lhs rhs on)
    else none
  | _ => none

def readChain? (operand : List Lexeme → Option FromTree) (ls : List Lexeme) : Option FromTree :=
  let (first, joins) := segments isJoinWord 0 ls
  (operand first).bind fun lhs => joins.foldlM (readJoin? operand) lhs

/-- Reads a source with up to `n` levels, each in the parentheses of the one above it. -/
def readFrom? : (n : Nat) → List Lexeme → Option FromTree
  | 0 => fun _ => none
  | n + 1 => readChain? (readOperand? (readFrom? n))

/-- What SQL takes the text of a source for, whose names are quoted by `q`. -/
def readSource? (q : Char) (sql : String) : Option FromTree :=
  let ls := lexemes q sql.toList
  readFrom? (ls.length + 1) ls

/-! ## Segments -/

theorem segments_of_calm (h : Calm stop ls) : segments stop 0 ls = (ls, []) := by
  have row := h.segments []
  rw [List.append_nil] at row
  simp [row, segments]

theorem segments_cons_of_calm {w : String} (begins : stop (.word w) = true) (h : Calm stop ms) :
    segments stop 0 (.word w :: ms) = ([], [(.word w, ms)]) := by
  have word : (Lexeme.word w).depth 0 = 0 := rfl
  rw [segments, word, begins, if_pos rfl, segments_of_calm h]

/-- A segment at the end is one more segment. -/
theorem segments_append_word {depth : Nat} {w : String} (level : depthAfter depth ls = 0)
    (begins : stop (.word w) = true) (h : Calm stop ms) :
    segments stop depth (ls ++ .word w :: ms)
      = ((segments stop depth ls).1, (segments stop depth ls).2 ++ [(.word w, ms)]) := by
  induction ls generalizing depth with
  | nil =>
    cases level
    exact segments_cons_of_calm begins h
  | cons l ls ih =>
    have row := ih level
    cases depth with
    | zero =>
      rw [List.cons_append, segments, row, segments]
      split <;> rfl
    | succ depth => rw [List.cons_append, segments, row, segments]

/-! ## Chains -/

variable {operand : List Lexeme → Option FromTree}

/-- Without joins, a chain is its operand. -/
theorem readChain?_of_calm (h : Calm isJoinWord ls) : readChain? operand ls = operand ls := by
  simp [readChain?, segments_of_calm h]

/-- **Joins are read from left to right.** -/
theorem readChain?_append_join {w : String} (balanced : depthAfter 0 ls = 0)
    (begins : isJoinWord (.word w) = true) (h : Calm isJoinWord ms) :
    readChain? operand (ls ++ .word w :: ms)
      = (readChain? operand ls).bind fun lhs => readJoin? operand lhs (.word w, ms) := by
  rw [readChain?, readChain?, segments_append_word balanced begins h]
  simp [List.foldlM_append, Option.bind_assoc]

end TypedSql
