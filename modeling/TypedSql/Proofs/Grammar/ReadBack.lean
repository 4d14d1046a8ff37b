import TypedSql.Proofs.Grammar.Operators

/-!
# Parentheses and chains

What is written for an operand is read where the operand stands: as it is, if it binds tightly
enough, and between parentheses otherwise.

AND and OR take any number of operands. A conjunction inside a conjunction has no parentheses, so
that its text is not read as one operand: its operands are added, one by one, to what is in front.
`Extended` says what a text adds.
-/

namespace TypedSql

open TypedSql.Parser

variable {p l : Nat} {ts us : List Token} {t : Tree}

/-! ## Levels and parentheses -/

/-- The tokens are read at the level, if as many parentheses may be open as there are tokens. -/
def ReadBack (p : Nat) (ts : List Token) (t : Tree) : Prop :=
  ∀ n, ts.length ≤ n → ReadsAt (expr n) p ts t

theorem ReadBack.mono (h : ReadBack p ts t) (le : l ≤ p) : ReadBack l ts t :=
  fun n hn => (h n hn).mono le

/-- Between parentheses, tokens of any level are read. -/
theorem ReadBack.inner (h : ReadBack p ts t) (hp : 1 ≤ p) {n : Nat} (hn : ts.length < n) :
    Reads (expr n) 1 ts t := by
  cases n with
  | zero => exact absurd hn (Nat.not_lt_zero _)
  | succ n => exact ReadsAt.disjunction ((h n (by omega)).mono hp)

theorem ReadBack.guarded {needed : Bool} {ps : List Piece} (h : ReadBack p (tokens ps) t)
    (hp : 1 ≤ p) (hl : l ≤ atomLevel) (tight : needed = false → l ≤ p) :
    ReadBack l (tokens (Piece.guarded needed ps)) t := by
  cases needed with
  | false => exact h.mono (tight rfl)
  | true =>
      have row : tokens (Piece.guarded true ps) = .word "(" :: (tokens ps ++ [.word ")"]) :=
        tokens_parenthesised ps
      intro n hn
      rw [row] at hn ⊢
      rw [List.length_cons, List.length_append] at hn
      have inside : Reads (expr n) 1 (tokens ps) t := h.inner hp (by omega)
      have atom : ReadsAt (expr n) atomLevel (.word "(" :: (tokens ps ++ [.word ")"])) t :=
        reads_parenthesised inside
      exact atom.mono hl

/-- An operand of a predicate is read as a sum. -/
theorem ReadBack.operand {ps : List Piece} (h : ReadBack p (tokens ps) t) (hp : 1 ≤ p) :
    ReadBack 5 (tokens (Piece.guarded (p ≤ predicateLevel) ps)) t := by
  refine h.guarded hp (by decide) fun loose => ?_
  have tight := of_decide_eq_false loose
  unfold predicateLevel at tight
  omega

/-- A member of a list is no longer than the list. -/
theorem length_separated_le {ps : List Piece} {pss : List (List Piece)} (h : ps ∈ pss) :
    (tokens ps).length ≤ (tokens (Piece.separated ", " pss)).length := by
  induction pss with
  | nil => cases h
  | cons qs pss ih =>
      cases pss with
      | nil =>
          rw [List.mem_singleton.1 h]
          exact Nat.le_refl _
      | cons rs pss =>
          rw [Piece.separated, tokens_infix rfl rfl, List.length_append, List.length_append]
          · rcases List.mem_cons.1 h with rfl | later
            · omega
            · have inside := ih later
              omega
          · exact List.cons_ne_nil _ _

/-- Members of a list between parentheses are read one by one. -/
theorem ReadBack.members {pss : List (List Piece)} {ts : List Tree}
    (h : List.Forall₂ (fun ps t => ReadBack 1 (tokens ps) t) pss ts) {n : Nat}
    (hn : (tokens (Piece.separated ", " pss)).length < n) :
    List.Forall₂ (fun ps t => Reads (expr n) 1 (tokens ps) t) pss ts := by
  refine List.forall₂_iff_get.2 ⟨h.length_eq, fun i hi hj => ?_⟩
  have shorter := length_separated_le (List.get_mem pss ⟨i, hi⟩)
  exact (h.get hi hj).inner (Nat.le_refl 1) (Nat.lt_of_le_of_lt shorter hn)

/-! ## Operands of AND and OR -/

def LogicalOp.level : LogicalOp → Nat
  | .or => 1
  | .and => 2

/-- What the operands of the connective are read by. -/
def LogicalOp.operand (op : LogicalOp) (inner : Parser Tree) : Parser Tree :=
  match op with
  | .or => conjunction inner
  | .and => inversion inner

theorem readsAt_level (op : LogicalOp) (inner : Parser Tree) :
    ReadsAt inner op.level ts t = Opens (logical? op) (op.operand inner) op.level ts t := by
  cases op <;> rfl

theorem reads_operand {op : LogicalOp} {inner : Parser Tree}
    (h : ReadsAt inner (op.level + 1) ts t) : Reads (op.operand inner) (op.level + 1) ts t := by
  cases op with
  | or => exact Opens.reads (fun _ _ => logical?_strength) h
  | and => exact h

theorem strength_word (op : LogicalOp) : Token.strength (.word op.word) = op.level := by
  cases op <;> rfl

/-- Behind an operand that has been read, the tokens add to it what `g` says. -/
def Extended (op : LogicalOp) (ts : List Token) (g : Tree → Tree) : Prop :=
  ∀ n, ts.length ≤ n → ∀ (acc : Tree) (rest : List Token), strength rest < op.level + 1 →
    chain (logical? op) (op.operand (expr n)) acc (ts ++ rest)
      = chain (logical? op) (op.operand (expr n)) (g acc) rest

/-- A tighter operand behind the connective. -/
theorem ReadBack.extended {op : LogicalOp} (h : ReadBack (op.level + 1) ts t) :
    Extended op (.word op.word :: ts) fun acc => .logical op acc t := by
  intro n hn acc rest hr
  rw [List.length_cons] at hn
  have read := reads_operand (h n (by omega)) rest hr
  rw [List.cons_append]
  exact chain_step (if_pos rfl) read acc

/-- What follows an operand begins with the connective, or is what follows the chain. -/
theorem strength_append {op : LogicalOp} {pss : List (List Piece)} {rest : List Token}
    (hr : strength rest < op.level + 1) :
    strength ((pss.flatMap fun qs => lex op.separator ++ tokens qs) ++ rest) < op.level + 1 := by
  cases pss with
  | nil => exact hr
  | cons qs pss =>
      rw [List.flatMap_cons, lex_separator]
      change Token.strength (.word op.word) < _
      rw [strength_word]
      exact Nat.lt_succ_self _

theorem Extended.append {op : LogicalOp} {pss : List (List Piece)} {f g : Tree → Tree}
    (first : Extended op ts f)
    (second : Extended op (pss.flatMap fun qs => lex op.separator ++ tokens qs) g) :
    Extended op (ts ++ pss.flatMap fun qs => lex op.separator ++ tokens qs) (g ∘ f) := by
  intro n hn acc rest hr
  rw [List.length_append] at hn
  rw [List.append_assoc, first n (by omega) _ _ (strength_append hr), second n (by omega) _ _ hr]
  rfl

/-- The first operand and those behind it make the chain. -/
theorem ReadBack.chain {op : LogicalOp} {pss : List (List Piece)} {g : Tree → Tree}
    (first : ReadBack op.level ts t)
    (rest : Extended op (pss.flatMap fun qs => lex op.separator ++ tokens qs) g) :
    ReadBack op.level (ts ++ pss.flatMap fun qs => lex op.separator ++ tokens qs) (g t) := by
  intro n hn
  rw [List.length_append] at hn
  have opens := first n (by omega)
  rw [readsAt_level] at opens ⊢
  intro following hf
  rw [List.append_assoc, opens _ (strength_append hf), rest n (by omega) _ _ hf]

end TypedSql
