import TypedSql.Proofs.Render.Written

/-!
# Tokens

The text of an expression with its atoms taken as tokens: names, placeholders and the bounds of
nested queries. The characters between them are split into words and operators, wherever the pieces
begin and end that they were written by.

**Theorem (`tokens_infix`).** A keyword or operator between spaces stands by itself, so that the
tokens in front of it, its own and those behind it are found separately.
-/

namespace TypedSql

inductive Token where
  /-- A keyword, an operator, a type, a parenthesis or a comma. -/
  | word (s : String)
  | name (n : String)
  | mark (p : Placeholder)
  /-- The start of a nested query. -/
  | enter
  /-- The end of a nested query. -/
  | leave

/-- What a text consists of. -/
inductive Symbol where
  | char (c : Char)
  | atom (t : Token)

def Piece.symbols : Piece → List Symbol
  | .text s => s.toList.map .char
  | .name n => [.atom (.name n)]
  | .slot p => [.atom (.mark p)]
  | .fault _ => []
  | .enter => [.atom .enter]
  | .leave => [.atom .leave]

/-- The symbols of a row of pieces. -/
def symbols (ps : List Piece) : List Symbol := ps.flatMap Piece.symbols

theorem symbols_append (ps qs : List Piece) : symbols (ps ++ qs) = symbols ps ++ symbols qs :=
  List.flatMap_append

theorem symbols_cons (p : Piece) (ps : List Piece) :
    symbols (p :: ps) = p.symbols ++ symbols ps :=
  List.flatMap_cons

/-- What a token looks like in the text. -/
def Token.spelling (d : Dialect) : Token → String
  | .word s => s
  | .name n => d.spell n
  | .mark _ => d.placeholder
  | .enter => "("
  | .leave => ")"

def Symbol.spelling (d : Dialect) : Symbol → List Char
  | .char c => [c]
  | .atom t => (t.spelling d).toList

/-- The text is that of its symbols. -/
theorem toList_sqlText (d : Dialect) (ps : List Piece) :
    (Piece.sqlText d ps).toList = (symbols ps).flatMap (Symbol.spelling d) := by
  have piece : ∀ p : Piece, (p.sql d).toList = p.symbols.flatMap (Symbol.spelling d) := by
    intro p
    cases p <;>
      simp [Piece.sql, Piece.symbols, Symbol.spelling, Token.spelling, List.flatMap_map]
  induction ps with
  | nil => rfl
  | cons p ps ih =>
      rw [symbols_cons, List.flatMap_append, ← piece, ← ih]
      simp [Piece.sqlText]

/-! ## Splitting text -/

/-- The second character continues the token that ends with the first. -/
def joins (a b : Char) : Bool :=
  (isNameRest a && isNameRest b)
    || [('<', '='), ('<', '>'), ('>', '='), ('|', '|')].contains (a, b)

/-- The token of the characters read so far, the last one first. -/
def pendingToken : List Char → List Token
  | [] => []
  | cs => [.word (String.ofList cs.reverse)]

@[simp] theorem pendingToken_nil : pendingToken [] = [] := rfl

/-- The tokens of symbols; `pending` are the characters of a token that may go on. -/
def lexFrom (pending : List Char) : List Symbol → List Token
  | [] => pendingToken pending
  | .atom t :: rest => pendingToken pending ++ t :: lexFrom [] rest
  | .char c :: rest =>
    if c = ' ' then pendingToken pending ++ lexFrom [] rest
    else if pending.head?.any (joins · c) then lexFrom (c :: pending) rest
    else pendingToken pending ++ lexFrom [c] rest

/-- The tokens of a row of pieces. -/
def tokens (ps : List Piece) : List Token := lexFrom [] (symbols ps)

/-- The tokens of a text by itself. -/
def lex (s : String) : List Token := tokens [.text s]

/-! ## Boundaries -/

/-- No token in front of the symbols goes on in them. -/
def Fresh (ys : List Symbol) : Prop :=
  ∀ pending, lexFrom pending ys = pendingToken pending ++ lexFrom [] ys

theorem lexFrom_append {ys : List Symbol} (h : Fresh ys) (pending : List Char)
    (xs : List Symbol) : lexFrom pending (xs ++ ys) = lexFrom pending xs ++ lexFrom [] ys := by
  induction xs generalizing pending with
  | nil => exact h pending
  | cons x xs ih =>
      cases x with
      | atom t => simp [lexFrom, ih]
      | char c =>
          rw [List.cons_append, lexFrom, lexFrom]
          split
          · rw [ih, List.append_assoc]
          · split
            · exact ih _
            · rw [ih, List.append_assoc]

theorem fresh_atom (t : Token) (ys : List Symbol) : Fresh (.atom t :: ys) := fun _ => rfl

/-- The character is a token by itself, or none. -/
def isSeparate (c : Char) : Bool := [' ', '(', ')', ','].contains c

theorem joins_of_isSeparate {c : Char} (h : isSeparate c = true) (p : Char) :
    joins p c = false ∧ joins c p = false := by
  simp only [isSeparate, List.contains_iff_mem, List.mem_cons, List.not_mem_nil, or_false] at h
  have symbol : isNameRest c = false := by
    rcases h with rfl | rfl | rfl | rfl <;> rfl
  rcases h with rfl | rfl | rfl | rfl <;> simp [joins, symbol]

theorem fresh_char {c : Char} (h : isSeparate c = true) (ys : List Symbol) :
    Fresh (.char c :: ys) := by
  intro pending
  have apart : ∀ cs : List Char, cs.head?.any (joins · c) = false := by
    intro cs
    cases cs with
    | nil => rfl
    | cons p cs => exact (joins_of_isSeparate h p).1
  by_cases blank : c = ' '
  · simp [lexFrom, blank]
  · simp [lexFrom, blank, apart]

/-- Behind a separate character, a new token begins. -/
theorem lexFrom_separate {c : Char} (h : isSeparate c = true) (ys : List Symbol) :
    lexFrom [] (.char c :: ys) = lexFrom [] [.char c] ++ lexFrom [] ys := by
  have apart : ∀ p : Char, joins c p = false := fun p => (joins_of_isSeparate h p).2
  by_cases blank : c = ' '
  · simp [lexFrom, blank]
  · cases ys with
    | nil => simp [lexFrom]
    | cons y ys =>
        cases y with
        | atom t => simp [lexFrom, blank]
        | char b => by_cases space : b = ' ' <;> simp [lexFrom, blank, space, apart]

/-- The text begins with a separate character. -/
def beginsApart (s : String) : Bool := s.toList.head?.any isSeparate

/-- The text ends with a separate character. -/
def endsApart (s : String) : Bool := s.toList.getLast?.any isSeparate

/-- A text that begins with a separate character ends the tokens in front of it. -/
theorem tokens_append_text {s : String} (h : beginsApart s = true) (ps qs : List Piece) :
    tokens (ps ++ .text s :: qs) = tokens ps ++ tokens (.text s :: qs) := by
  unfold beginsApart at h
  obtain ⟨c, first, separate⟩ := (Option.any_eq_true ..).1 h
  obtain ⟨cs, chars⟩ := List.head?_eq_some_iff.1 first
  rw [tokens, symbols_append, lexFrom_append, tokens, tokens]
  rw [symbols_cons, Piece.symbols, chars]
  exact fresh_char separate _

/-- Behind a text that ends with a separate character, a new token begins. -/
theorem tokens_cons_text {s : String} (h : endsApart s = true) (ps : List Piece) :
    tokens (.text s :: ps) = lex s ++ tokens ps := by
  unfold endsApart at h
  obtain ⟨c, last, separate⟩ := (Option.any_eq_true ..).1 h
  obtain ⟨cs, chars⟩ := List.getLast?_eq_some_iff.1 last
  have row : ∀ ys, lexFrom [] (s.toList.map .char ++ ys)
      = lexFrom [] (cs.map .char) ++ (lexFrom [] [.char c] ++ lexFrom [] ys) := by
    intro ys
    rw [chars, List.map_append, List.map_singleton, List.append_assoc, List.singleton_append,
      lexFrom_append (fresh_char separate ys), lexFrom_separate separate]
  rw [lex, tokens, tokens, tokens, symbols_cons, symbols_cons, Piece.symbols, row, row]
  simp [symbols, lexFrom]

theorem tokens_infix {s : String} (hb : beginsApart s = true) (he : endsApart s = true)
    (ps qs : List Piece) : tokens (ps ++ .text s :: qs) = tokens ps ++ (lex s ++ tokens qs) := by
  rw [tokens_append_text hb, tokens_cons_text he]

end TypedSql
