import TypedSql.Proofs.Grammar.Keyword
import TypedSql.Proofs.Grammar.Nesting

/-!
# Reading expressions

A parser of SQL expressions by recursive descent, one function for each strength of operators: OR
binds least, then AND, NOT, the predicates, of which an expression has one at most, sums, products
and concatenation. Binary operators associate to the left.

The functions take the reader of what stands between parentheses as an argument. Between
parentheses, every expression may stand; `expr` bounds how many of them can be open at once.
-/

namespace TypedSql

/-- What an expression is read as. -/
inductive Tree where
  | reference (qualifier : Option String) (name : String)
  | mark (p : Placeholder)
  | truth (value : Bool)
  | compare (op : CompareOp) (lhs rhs : Tree)
  | like (negated : Bool) (t pattern : Tree) (escape : Option Tree)
  | isNull (negated : Bool) (t : Tree)
  | between (negated : Bool) (t low high : Tree)
  | inList (negated : Bool) (t : Tree) (items : List Tree)
  | inQuery (negated : Bool) (t : Tree) (body : List Token)
  | existsIn (body : List Token)
  | logical (op : LogicalOp) (lhs rhs : Tree)
  | not (t : Tree)
  | binary (op : BinaryOp) (lhs rhs : Tree)
  | call (f : SqlFunction) (distinct : Bool) (args : List Tree)
  | countRows
  | cast (t : Tree) (type : String)
  | scalar (body : List Token)

/-- Reads something from the front of a row of tokens. -/
abbrev Parser (α : Type) := List Token → Option (α × List Token)

/-! ## Operators -/

/-- How tightly a token binds what is in front of it; what ends an expression does not bind. -/
def Token.strength : Token → Nat
  | .word s =>
    if s = "OR" then 1
    else if s = "AND" then 2
    else if ["IS", "NOT", "LIKE", "ESCAPE", "BETWEEN", "IN"].contains s
      || (CompareOp.ofSql? s).isSome then predicateLevel
    else
      match BinaryOp.ofSql? s with
      | some op => op.precedence
      | none => if s = "." then 8 else 0
  | _ => 0

/-- How tightly the first token binds. -/
def strength : List Token → Nat
  | [] => 0
  | t :: _ => t.strength

/-- The connective, if the word is its. -/
def logical? (op : LogicalOp) (s : String) : Option (Tree → Tree → Tree) :=
  if s = op.word then some (.logical op) else none

/-- The operator of that strength, if the word is one. -/
def binary? (level : Nat) (s : String) : Option (Tree → Tree → Tree) :=
  (BinaryOp.ofSql? s).bind fun op => if op.precedence = level then some (.binary op) else none

/-- One more member of a list. -/
def comma? (s : String) : Option (List Tree → Tree → List Tree) :=
  if s = "," then some fun ts t => ts ++ [t] else none

namespace Parser

/-! ## Steps -/

/-- Passes over a word. -/
def expect (s : String) : List Token → Option (List Token)
  | .word w :: rest => if w = s then some rest else none
  | _ => none

/-- Passes over a word that may be there. -/
def skip (s : String) (ts : List Token) : Bool × List Token :=
  match expect s ts with
  | some rest => (true, rest)
  | none => (false, ts)

/-- Goes on from left to right as long as there are operators. -/
def chain {α : Type} (op? : String → Option (α → Tree → α)) (operand : Parser Tree) (a : α) :
    Parser α
  | .word s :: rest =>
    match op? s with
    | none => some (a, .word s :: rest)
    | some f =>
      match operand rest with
      | none => none
      | some (t, rest') =>
        if rest'.length ≤ rest.length then chain op? operand (f a t) rest' else none
  | ts => some (a, ts)
termination_by ts => ts.length

/-- Operands with operators of one strength between them. -/
def chained (op? : String → Option (Tree → Tree → Tree)) (operand : Parser Tree) : Parser Tree :=
  fun ts => do
    let (t, rest) ← operand ts
    chain op? operand t rest

/-- The body of a nested query. -/
def query : Parser (List Token)
  | .enter :: rest => splitQuery 0 rest
  | _ => none

variable (inner : Parser Tree)

/-- Expressions with commas between them, up to the closing parenthesis. -/
def arguments : Parser (List Tree) := fun ts =>
  match expect ")" ts with
  | some rest => some ([], rest)
  | none => do
    let (t, rest) ← inner ts
    let (args, rest) ← chain comma? inner [t] rest
    let rest ← expect ")" rest
    some (args, rest)

/-! ## Atoms -/

/-- A name with another one in front of it or without. -/
def reference (n : String) (rest : List Token) : Option (Tree × List Token) :=
  match rest with
  | .word s :: .name m :: rest' =>
    if s = "." then some (.reference (some n) m, rest') else some (.reference none n, rest)
  | _ => some (.reference none n, rest)

/-- The arguments of a function; those of COUNT may be a star. -/
def call (f : SqlFunction) (rest : List Token) : Option (Tree × List Token) := do
  let rest ← expect "(" rest
  match skip "*" rest with
  | (true, rest) =>
    let rest ← expect ")" rest
    if f = .count then some (.countRows, rest) else none
  | (false, rest) =>
    let (distinct, rest) := skip "DISTINCT" rest
    let (args, rest) ← arguments inner rest
    some (.call f distinct args, rest)

def castTo (rest : List Token) : Option (Tree × List Token) := do
  let rest ← expect "(" rest
  let (t, rest) ← inner rest
  let rest ← expect "AS" rest
  match rest with
  | .word type :: rest => (expect ")" rest).map fun rest => (.cast t type, rest)
  | _ => none

def parenthesised (rest : List Token) : Option (Tree × List Token) := do
  let (t, rest) ← inner rest
  (expect ")" rest).map fun rest => (t, rest)

/-- An atom that begins with a word. -/
def keyword (s : String) (rest : List Token) : Option (Tree × List Token) :=
  if s = "(" then parenthesised inner rest
  else if s = "TRUE" then some (.truth true, rest)
  else if s = "FALSE" then some (.truth false, rest)
  else if s = "EXISTS" then (query rest).map fun (body, rest) => (.existsIn body, rest)
  else if s = "CAST" then castTo inner rest
  else (SqlFunction.ofSql? s).bind fun f => call inner f rest

def primary : Parser Tree
  | .name n :: rest => reference n rest
  | .mark p :: rest => some (.mark p, rest)
  | .word s :: rest => keyword inner s rest
  | ts => (query ts).map fun (body, rest) => (.scalar body, rest)

/-! ## Levels -/

def concatenation : Parser Tree := chained (binary? 7) (primary inner)

def product : Parser Tree := chained (binary? 6) (concatenation inner)

def sum : Parser Tree := chained (binary? 5) (product inner)

def like (negated : Bool) (t : Tree) (rest : List Token) : Option (Tree × List Token) := do
  let (pattern, rest) ← sum inner rest
  match expect "ESCAPE" rest with
  | some rest => (sum inner rest).map fun (escape, rest) =>
    (.like negated t pattern (some escape), rest)
  | none => some (.like negated t pattern none, rest)

def between (negated : Bool) (t : Tree) (rest : List Token) : Option (Tree × List Token) := do
  let (low, rest) ← sum inner rest
  let rest ← expect "AND" rest
  (sum inner rest).map fun (high, rest) => (.between negated t low high, rest)

def membership (negated : Bool) (t : Tree) (rest : List Token) : Option (Tree × List Token) :=
  match expect "(" rest with
  | some rest => (arguments inner rest).map fun (items, rest) => (.inList negated t items, rest)
  | none => (query rest).map fun (body, rest) => (.inQuery negated t body, rest)

/-- A predicate behind its operand, from the word that names it. -/
def test (negated : Bool) (t : Tree) : Parser Tree
  | .word s :: rest =>
    if s = "LIKE" then like inner negated t rest
    else if s = "BETWEEN" then between inner negated t rest
    else if s = "IN" then membership inner negated t rest
    else none
  | _ => none

/-- A comparison or another predicate behind its operand. -/
def suffix (t : Tree) : Parser Tree
  | .word s :: rest =>
    match CompareOp.ofSql? s with
    | some op => (sum inner rest).map fun (u, rest) => (.compare op t u, rest)
    | none =>
      if s = "IS" then
        let (negated, rest) := skip "NOT" rest
        (expect "NULL" rest).map fun rest => (.isNull negated t, rest)
      else
        let (negated, rest) := skip "NOT" (.word s :: rest)
        test inner negated t rest
  | _ => none

/-- An operand with one predicate at most. -/
def predicate : Parser Tree := fun ts => do
  let (t, rest) ← sum inner ts
  if strength rest = predicateLevel then suffix inner t rest else some (t, rest)

def inversion : Parser Tree
  | .word s :: rest =>
    if s = "NOT" then (inversion rest).map fun (t, rest) => (.not t, rest)
    else predicate inner (.word s :: rest)
  | ts => predicate inner ts

def conjunction : Parser Tree := chained (logical? .and) (inversion inner)

def disjunction : Parser Tree := chained (logical? .or) (conjunction inner)

/-- Any expression with fewer than `depth` open parentheses at once. -/
def expr : (depth : Nat) → Parser Tree
  | 0 => fun _ => none
  | depth + 1 => disjunction (expr depth)

end Parser

/-- Reads an expression and nothing else. No more parentheses can be open than there are tokens. -/
def parse (ts : List Token) : Option Tree :=
  match Parser.expr (ts.length + 1) ts with
  | some (t, []) => some t
  | _ => none

end TypedSql
