import TypedSql.Proofs.Grammar.Nodes

/-!
# Reading predicates and operators

The texts of predicates, of NOT and of binary operators are read at their levels if their operands
are. Predicates and comparisons take sums on every side, so that none of them is read as an operand
of another one; the right operand of a binary operator is read one level tighter than the left.
-/

namespace TypedSql

open TypedSql.Parser

variable {inner : Parser Tree} {ts us vs : List Token} {t u v : Tree}

/-! ## Predicates -/

/-- Behind its operand, a predicate is read from its first word on. -/
theorem predicate_eq_suffix (operand : Reads (sum inner) 5 ts t) {rest : List Token}
    (word : strength rest = predicateLevel) :
    predicate inner (ts ++ rest) = suffix inner t rest := by
  have weaker : strength rest < 5 := by
    rw [word]
    decide
  rw [predicate, operand rest weaker]
  exact if_pos word

theorem reads_compare (op : CompareOp) (left : Reads (sum inner) 5 ts t)
    (right : Reads (sum inner) 5 us u) :
    Reads (predicate inner) 4 (ts ++ .word op.sql :: us) (.compare op t u) := by
  intro rest hr
  have word : strength (.word op.sql :: (us ++ rest)) = predicateLevel := by
    cases op <;> rfl
  have found : CompareOp.ofSql? op.sql = some op := by
    cases op <;> rfl
  rw [List.append_assoc, List.cons_append, predicate_eq_suffix left word, suffix, found]
  dsimp only
  rw [right rest (Nat.lt_succ_of_lt hr)]
  rfl

theorem reads_isNull (negated : Bool) (operand : Reads (sum inner) 5 ts t) :
    Reads (predicate inner) 4 (ts ++ .word "IS" :: negation negated ++ [.word "NULL"])
      (.isNull negated t) := by
  intro rest _
  have word : strength (.word "IS" :: (negation negated ++ .word "NULL" :: rest))
      = predicateLevel := rfl
  have row : ts ++ .word "IS" :: negation negated ++ [.word "NULL"] ++ rest
      = ts ++ .word "IS" :: (negation negated ++ .word "NULL" :: rest) := by
    simp
  rw [row, predicate_eq_suffix operand word]
  cases negated <;> rfl

/-- Behind its operand and NOT, a predicate is read from its keyword on. -/
theorem reads_test {s : String} (keyword : s ∈ ["LIKE", "BETWEEN", "IN"]) (negated : Bool)
    (operand : Reads (sum inner) 5 ts t)
    (h : ∀ rest, strength rest < 4 →
      test inner negated t (.word s :: (us ++ rest)) = some (u, rest)) :
    Reads (predicate inner) 4 (ts ++ negation negated ++ .word s :: us) u := by
  intro rest hr
  have read := h rest hr
  have row : ts ++ negation negated ++ .word s :: us ++ rest
      = ts ++ (negation negated ++ .word s :: (us ++ rest)) := by
    simp
  have facts : strength (negation negated ++ .word s :: (us ++ rest)) = predicateLevel
      ∧ suffix inner t (negation negated ++ .word s :: (us ++ rest))
        = test inner negated t (.word s :: (us ++ rest)) := by
    simp only [List.mem_cons, List.not_mem_nil, or_false] at keyword
    rcases keyword with rfl | rfl | rfl <;> cases negated <;> exact ⟨rfl, rfl⟩
  rw [row, predicate_eq_suffix operand facts.1, facts.2, read]

theorem reads_like (negated : Bool) (operand : Reads (sum inner) 5 ts t)
    (pattern : Reads (sum inner) 5 us u) :
    Reads (predicate inner) 4 (ts ++ negation negated ++ .word "LIKE" :: us)
      (.like negated t u none) := by
  refine reads_test (by decide) negated operand fun rest hr => ?_
  have none : expect "ESCAPE" rest = none := expect_of_strength hr
  change like inner negated t (us ++ rest) = _
  rw [like, pattern rest (Nat.lt_succ_of_lt hr)]
  dsimp only [Option.bind_eq_bind, Option.bind_some]
  rw [none]

theorem reads_likeEscape (negated : Bool) (operand : Reads (sum inner) 5 ts t)
    (pattern : Reads (sum inner) 5 us u) (escape : Reads (sum inner) 5 vs v) :
    Reads (predicate inner) 4
      (ts ++ negation negated ++ .word "LIKE" :: (us ++ .word "ESCAPE" :: vs))
      (.like negated t u (some v)) := by
  refine reads_test (by decide) negated operand fun rest hr => ?_
  have word : Token.strength (.word "ESCAPE") < 5 := by decide
  have escaped := pattern (.word "ESCAPE" :: (vs ++ rest)) word
  change like inner negated t (us ++ .word "ESCAPE" :: vs ++ rest) = _
  rw [List.append_assoc, List.cons_append, like, escaped]
  dsimp only [Option.bind_eq_bind, Option.bind_some]
  rw [expect_word]
  dsimp only
  rw [escape rest (Nat.lt_succ_of_lt hr)]
  rfl

theorem reads_between (negated : Bool) (operand : Reads (sum inner) 5 ts t)
    (low : Reads (sum inner) 5 us u) (high : Reads (sum inner) 5 vs v) :
    Reads (predicate inner) 4
      (ts ++ negation negated ++ .word "BETWEEN" :: (us ++ .word "AND" :: vs))
      (.between negated t u v) := by
  refine reads_test (by decide) negated operand fun rest hr => ?_
  have word : Token.strength (.word "AND") < 5 := by decide
  have bounded := low (.word "AND" :: (vs ++ rest)) word
  change between inner negated t (us ++ .word "AND" :: vs ++ rest) = _
  rw [List.append_assoc, List.cons_append, between, bounded]
  dsimp only [Option.bind_eq_bind, Option.bind_some]
  rw [expect_word]
  dsimp only [Option.bind_eq_bind, Option.bind_some]
  rw [high rest (Nat.lt_succ_of_lt hr)]
  rfl

theorem reads_inList (negated : Bool) (operand : Reads (sum inner) 5 ts t)
    {pss : List (List Piece)} {items : List Tree}
    (closed : ∀ rest, inner (.word ")" :: rest) = none)
    (h : List.Forall₂ (fun ps t => Reads inner 1 (tokens ps) t) pss items) :
    Reads (predicate inner) 4
      (ts ++ negation negated ++ .word "IN"
        :: (.word "(" :: (tokens (Piece.separated ", " pss) ++ [.word ")"])))
      (.inList negated t items) := by
  refine reads_test (by decide) negated operand fun rest _ => ?_
  change membership inner negated t
    (.word "(" :: (tokens (Piece.separated ", " pss) ++ [.word ")"] ++ rest)) = _
  rw [List.append_assoc, List.singleton_append, membership, expect_word]
  dsimp only
  rw [reads_arguments closed h]
  rfl

theorem reads_inQuery (negated : Bool) (operand : Reads (sum inner) 5 ts t)
    {ps : List Piece} (h : Balanced ps) :
    Reads (predicate inner) 4
      (ts ++ negation negated ++ .word "IN" :: tokens (Piece.nested ps))
      (.inQuery negated t (tokens ps)) := by
  refine reads_test (by decide) negated operand fun rest _ => ?_
  have none : expect "(" (tokens (Piece.nested ps) ++ rest) = none := by
    rw [tokens_nested]
    rfl
  change membership inner negated t (tokens (Piece.nested ps) ++ rest) = _
  rw [membership, none]
  dsimp only
  rw [query_nested h]
  rfl

/-! ## NOT -/

theorem reads_not (h : ReadsAt inner 3 ts t) :
    ReadsAt inner 3 (.word "NOT" :: ts) (.not t) := by
  intro rest hr
  have read : inversion inner (ts ++ rest) = some (t, rest) := h rest hr
  rw [List.cons_append, inversion, if_pos rfl, read]
  rfl

/-! ## Binary operators -/

theorem binary?_sql (op : BinaryOp) : binary? op.precedence op.sql = some (.binary op) := by
  cases op <;> rfl

/-- A binary operator takes operands of its own strength on the left and of tighter ones on the
right. -/
theorem reads_binary (op : BinaryOp) (left : ReadsAt inner op.precedence ts t)
    (right : ReadsAt inner (op.precedence + 1) us u) :
    ReadsAt inner op.precedence (ts ++ .word op.sql :: us) (.binary op t u) := by
  have found := binary?_sql op
  have product : ReadsAt inner 6 us u → Reads (product inner) 6 us u :=
    fun h => Opens.reads (fun _ _ => binary?_strength) h
  have concatenation : ReadsAt inner 7 us u → Reads (concatenation inner) 7 us u :=
    fun h => Opens.reads (fun _ _ => binary?_strength) h
  cases op with
  | add => exact Opens.step found (fun _ _ => binary?_strength) left (product right)
  | sub => exact Opens.step found (fun _ _ => binary?_strength) left (product right)
  | mul => exact Opens.step found (fun _ _ => binary?_strength) left (concatenation right)
  | div => exact Opens.step found (fun _ _ => binary?_strength) left (concatenation right)
  | rem => exact Opens.step found (fun _ _ => binary?_strength) left (concatenation right)
  | concat => exact Opens.step found (fun _ _ => binary?_strength) left right

end TypedSql
