import TypedSql.Proofs.Grammar.Reading

/-!
# Reading the text of one node

For every kind of expression, its text is read at the level of its operator if the texts of its
operands are read at the levels they are written for. Each theorem is about one level of the parser
and takes what the levels below it do as given.
-/

namespace TypedSql

open TypedSql.Parser

variable {inner : Parser Tree} {ts us vs : List Token} {t u v : Tree}

/-! ## Steps -/

theorem expect_word (s : String) (rest : List Token) : expect s (.word s :: rest) = some rest :=
  if_pos rfl

/-- A word that binds more tightly than what follows is not there. -/
theorem expect_of_strength {s : String} {rest : List Token}
    (h : strength rest < Token.strength (.word s)) : expect s rest = none := by
  unfold expect
  split
  · next w rest' =>
    refine if_neg fun same => ?_
    subst same
    exact absurd h (Nat.lt_irrefl _)
  · rfl

/-- A word that begins no expression is not there where one is read. -/
theorem expect_of_read {s : String} (closed : ∀ rest, inner (.word s :: rest) = none)
    {ts : List Token} {x : Tree × List Token} (read : inner ts = some x) :
    expect s ts = none := by
  unfold expect
  split
  · next w rest =>
    refine if_neg fun same => ?_
    subst same
    rw [closed] at read
    cases read
  · rfl

/-! ## Lists -/

/-- A member of a list ends where the next comma or the closing parenthesis stands. -/
theorem strength_members (pss : List (List Piece)) (rest : List Token) :
    strength ((pss.flatMap fun qs => lex ", " ++ tokens qs) ++ .word ")" :: rest) < 1 := by
  cases pss with
  | nil => exact Nat.one_pos
  | cons qs pss => exact Nat.one_pos

/-- Members behind commas are read and added to those in front. -/
theorem chain_members {pss : List (List Piece)} {ts : List Tree}
    (h : List.Forall₂ (fun ps t => Reads inner 1 (tokens ps) t) pss ts) (acc : List Tree)
    (rest : List Token) :
    chain comma? inner acc ((pss.flatMap fun qs => lex ", " ++ tokens qs) ++ .word ")" :: rest)
      = some (acc ++ ts, .word ")" :: rest) := by
  induction h generalizing acc with
  | nil =>
      rw [List.append_nil]
      rw [List.flatMap_nil, List.nil_append, chain]
      rfl
  | @cons ps t pss ts hp h ih =>
      have comma : lex ", " = [.word ","] := rfl
      have found : comma? "," = some fun ts t => ts ++ [t] := rfl
      rw [List.flatMap_cons, comma, List.append_assoc, List.append_assoc, List.singleton_append,
        ← comma, chain_step found (hp _ (strength_members pss rest)), ih, List.append_assoc]
      rfl

theorem reads_arguments {pss : List (List Piece)} {ts : List Tree}
    (closed : ∀ rest, inner (.word ")" :: rest) = none)
    (h : List.Forall₂ (fun ps t => Reads inner 1 (tokens ps) t) pss ts) (rest : List Token) :
    arguments inner (tokens (Piece.separated ", " pss) ++ .word ")" :: rest)
      = some (ts, rest) := by
  cases h with
  | nil => rfl
  | @cons ps t pss ts hp h =>
      have first := hp _ (strength_members pss rest)
      rw [tokens_separated rfl rfl, List.append_assoc, arguments, expect_of_read closed first]
      dsimp only
      rw [first]
      simp only [Option.bind_eq_bind, Option.bind_some, chain_members h, expect_word]
      rfl

/-- A word that begins no expression is not the first of a list. -/
theorem expect_arguments {s : String} (closed : ∀ rest, inner (.word s :: rest) = none)
    (other : s ≠ ")") {pss : List (List Piece)} {ts : List Tree}
    (h : List.Forall₂ (fun ps t => Reads inner 1 (tokens ps) t) pss ts) (rest : List Token) :
    expect s (tokens (Piece.separated ", " pss) ++ .word ")" :: rest) = none := by
  cases h with
  | nil => exact if_neg other.symm
  | @cons ps t pss ts hp h =>
      rw [tokens_separated rfl rfl, List.append_assoc]
      exact expect_of_read closed (hp _ (strength_members pss rest))

/-! ## Atoms -/

theorem reads_reference (qualifier name : String) :
    Reads (primary inner) 8 (tokens (Piece.qualified qualifier name))
      (.reference (if qualifier.isEmpty then none else some qualifier) name) := by
  intro rest hr
  unfold Piece.qualified
  split
  · change reference name rest = _
    unfold reference
    split
    · next s m rest' =>
      refine if_neg fun dot => ?_
      subst dot
      exact absurd hr (Nat.lt_irrefl 8)
    · rfl
  · rfl

theorem reads_label (name : String) : Reads (primary inner) 8 [.name name] (.reference none name) :=
  reads_reference "" name

theorem reads_mark (p : Placeholder) : Reads (primary inner) 8 [.mark p] (.mark p) :=
  fun _ _ => rfl

theorem reads_truth (value : Bool) :
    Reads (primary inner) 8 [.word (if value then "TRUE" else "FALSE")] (.truth value) := by
  intro rest _
  cases value <;> rfl

theorem reads_parenthesised (h : Reads inner 1 ts t) :
    Reads (primary inner) 8 (.word "(" :: (ts ++ [.word ")"])) t := by
  intro rest _
  have read := h (.word ")" :: rest) Nat.one_pos
  change parenthesised inner (ts ++ [.word ")"] ++ rest) = _
  rw [List.append_assoc, List.singleton_append, parenthesised, read]
  rfl

theorem reads_countRows : Reads (primary inner) 8
    [.word "COUNT", .word "(", .word "*", .word ")"] .countRows :=
  fun _ _ => rfl

theorem reads_cast (type : String) (h : Reads inner 1 ts t) :
    Reads (primary inner) 8
      (.word "CAST" :: .word "(" :: (ts ++ [.word "AS", .word type, .word ")"]))
      (.cast t type) := by
  intro rest _
  have read := h (.word "AS" :: .word type :: .word ")" :: rest) Nat.one_pos
  change castTo inner (.word "(" :: (ts ++ [.word "AS", .word type, .word ")"] ++ rest)) = _
  rw [List.append_assoc, castTo, expect_word]
  dsimp only [Option.bind_eq_bind, Option.bind_some]
  rw [List.cons_append, List.cons_append, List.singleton_append, read]
  rfl

theorem SqlFunction.ofSql?_sql (f : SqlFunction) : SqlFunction.ofSql? f.sql = some f := by
  cases f <;> rfl

/-- A function name begins the call of the function and nothing else. -/
theorem keyword_sql (f : SqlFunction) (rest : List Token) :
    keyword inner f.sql rest = call inner f rest := by
  have other : ∀ s ∈ ["(", "TRUE", "FALSE", "EXISTS", "CAST"], f.sql ≠ s := by
    cases f <;> decide
  simp only [List.forall_mem_cons] at other
  obtain ⟨h₁, h₂, h₃, h₄, h₅, -⟩ := other
  rw [keyword, if_neg h₁, if_neg h₂, if_neg h₃, if_neg h₄, if_neg h₅, f.ofSql?_sql]
  rfl

theorem reads_call (f : SqlFunction) (distinct : Bool) {pss : List (List Piece)} {ts : List Tree}
    (closed : ∀ s, Closes s → s ≠ "NOT" → ∀ rest, inner (.word s :: rest) = none)
    (h : List.Forall₂ (fun ps t => Reads inner 1 (tokens ps) t) pss ts) :
    Reads (primary inner) 8
      (.word f.sql :: .word "(" :: (distinction distinct
        ++ (tokens (Piece.separated ", " pss) ++ [.word ")"])))
      (.call f distinct ts) := by
  intro rest _
  have read := reads_arguments (closed ")" (by decide) (by decide)) h rest
  have star := expect_arguments (closed "*" (by decide) (by decide)) (by decide) h rest
  have word := expect_arguments (closed "DISTINCT" (by decide) (by decide)) (by decide) h rest
  change keyword inner f.sql (.word "(" :: (distinction distinct
    ++ (tokens (Piece.separated ", " pss) ++ [.word ")"]) ++ rest)) = _
  rw [keyword_sql, call, expect_word, List.append_assoc, List.append_assoc,
    List.singleton_append]
  dsimp only [Option.bind_eq_bind, Option.bind_some]
  cases distinct with
  | false =>
      rw [distinction, if_neg Bool.false_ne_true, List.nil_append, skip, star]
      dsimp only
      rw [skip, word]
      dsimp only
      rw [read]
      rfl
  | true =>
      have first : skip "*" (distinction true
          ++ (tokens (Piece.separated ", " pss) ++ .word ")" :: rest))
          = (false, .word "DISTINCT" :: (tokens (Piece.separated ", " pss)
            ++ .word ")" :: rest)) := rfl
      rw [first]
      dsimp only
      rw [skip, expect_word]
      dsimp only
      rw [read]
      rfl

/-! ## Nested queries -/

theorem query_nested {ps : List Piece} (h : Balanced ps) (rest : List Token) :
    query (tokens (Piece.nested ps) ++ rest) = some (tokens ps, rest) := by
  rw [tokens_nested, List.cons_append, List.append_assoc]
  exact h.splitQuery_leave rest

theorem reads_scalar {ps : List Piece} (h : Balanced ps) :
    Reads (primary inner) 8 (tokens (Piece.nested ps)) (.scalar (tokens ps)) := by
  intro rest _
  have read := query_nested h rest
  rw [tokens_nested, List.cons_append] at read ⊢
  rw [primary, read]
  · rfl
  -- The row begins with the start of a query, so that no other kind of atom is read.
  all_goals
    intro x rest same
    cases same

theorem reads_existsIn {ps : List Piece} (h : Balanced ps) :
    Reads (primary inner) 8 (.word "EXISTS" :: tokens (Piece.nested ps))
      (.existsIn (tokens ps)) := by
  intro rest _
  change (query (tokens (Piece.nested ps) ++ rest)).map _ = _
  rw [query_nested h]
  rfl

end TypedSql
