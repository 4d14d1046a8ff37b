import TypedSql.Proofs.Grammar.Parser

/-!
# Reading one level at a time

Tokens that a level of the parser reads are read by every looser level too, as long as what follows
does not bind tightly enough to go on.

**Theorem (`ReadsAt.mono`).** What is read as an operand of one strength is read as an operand of
any lower strength.

A level of binary operators may stop in the middle: what it has read so far is the left operand of
the operators to come. That it has come so far is what `Opens` says, and what carries the reading
across operators of one strength.
-/

namespace TypedSql

open TypedSql.Parser

/-! ## Strengths -/

theorem logical?_strength {op : LogicalOp} {s : String} {f : Tree → Tree → Tree}
    (h : logical? op s = some f) : Token.strength (.word s) = match op with
      | .or => 1
      | .and => 2 := by
  unfold logical? at h
  split at h
  · next same =>
    subst same
    cases op <;> rfl
  · cases h

theorem BinaryOp.sql_of_ofSql? {s : String} {op : BinaryOp} (h : BinaryOp.ofSql? s = some op) :
    s = op.sql := by
  have found := List.find?_some h
  exact (beq_iff_eq.1 found).symm

theorem binary?_strength {level : Nat} {s : String} {f : Tree → Tree → Tree}
    (h : binary? level s = some f) : Token.strength (.word s) = level := by
  obtain ⟨op, found, h⟩ := Option.bind_eq_some_iff.1 h
  split at h
  · next same =>
    rw [BinaryOp.sql_of_ofSql? found, ← same]
    cases op <;> rfl
  · cases h

/-! ## Chains -/

section

variable {α : Type} {op? : String → Option (α → Tree → α)} {operand : Parser Tree}

/-- A token that is no operator of the chain ends it. -/
theorem chain_stop {l : Nat} (strengths : ∀ s f, op? s = some f → Token.strength (.word s) = l)
    {rest : List Token} (h : strength rest < l) (a : α) :
    chain op? operand a rest = some (a, rest) := by
  cases rest with
  | nil =>
      rw [chain]
      intro s rest same
      cases same
  | cons t rest =>
      cases t with
      | word s =>
          have none : op? s = none := by
            refine Option.eq_none_iff_forall_ne_some.2 fun f found => ?_
            exact absurd (strengths s f found) (Nat.ne_of_lt h)
          rw [chain, none]
      | name n =>
          rw [chain]
          intro s rest same
          cases same
      | mark p =>
          rw [chain]
          intro s rest same
          cases same
      | enter =>
          rw [chain]
          intro s rest same
          cases same
      | leave =>
          rw [chain]
          intro s rest same
          cases same

/-- An operator and its right operand are read, and the chain goes on. -/
theorem chain_step {s : String} {f : α → Tree → α} (found : op? s = some f) {ts rest : List Token}
    {t : Tree} (h : operand (ts ++ rest) = some (t, rest)) (a : α) :
    chain op? operand a (.word s :: (ts ++ rest)) = chain op? operand (f a t) rest := by
  have shorter : rest.length ≤ (ts ++ rest).length := by simp
  rw [chain, found, h]
  exact if_pos shorter

end

/-! ## Reading and opening -/

/-- The parser reads the tokens in front of anything that binds less than `l`. -/
def Reads (parser : Parser Tree) (l : Nat) (ts : List Token) (t : Tree) : Prop :=
  ∀ rest, strength rest < l → parser (ts ++ rest) = some (t, rest)

/-- The tokens are read as the beginning of a chain, which goes on behind them. -/
def Opens (op? : String → Option (Tree → Tree → Tree)) (operand : Parser Tree) (l : Nat)
    (ts : List Token) (t : Tree) : Prop :=
  ∀ rest, strength rest < l + 1 →
    chained op? operand (ts ++ rest) = chain op? operand t rest

variable {op? : String → Option (Tree → Tree → Tree)} {operand inner : Parser Tree} {l : Nat}
  {ts us : List Token} {t u : Tree}

theorem Reads.opens (h : Reads operand (l + 1) ts t) : Opens op? operand l ts t := by
  intro rest hr
  rw [chained, h rest hr]
  rfl

theorem Opens.reads (strengths : ∀ s f, op? s = some f → Token.strength (.word s) = l)
    (h : Opens op? operand l ts t) : Reads (chained op? operand) l ts t := by
  intro rest hr
  rw [h rest (Nat.lt_succ_of_lt hr), chain_stop strengths hr]

/-- One more operator of the chain. -/
theorem Opens.step {s : String} {f : Tree → Tree → Tree} (found : op? s = some f)
    (strengths : ∀ s f, op? s = some f → Token.strength (.word s) = l)
    (left : Opens op? operand l ts t) (right : Reads operand (l + 1) us u) :
    Opens op? operand l (ts ++ .word s :: us) (f t u) := by
  intro rest hr
  have here : strength (.word s :: (us ++ rest)) < l + 1 := by
    rw [strength, strengths s f found]
    exact Nat.lt_succ_self l
  rw [List.append_assoc, List.cons_append, left _ here, chain_step found (right rest hr)]

/-! ## Words that begin no expression -/

theorem chained_eq_none (h : operand ts = none) : chained op? operand ts = none := by
  rw [chained, h]
  rfl

theorem predicate_eq_none (h : primary inner ts = none) : predicate inner ts = none := by
  have sum : sum inner ts = none := chained_eq_none (chained_eq_none (chained_eq_none h))
  rw [predicate, sum]
  rfl

/-- The word is none that an atom begins with. -/
def Closes (s : String) : Prop :=
  s ∉ ["(", "TRUE", "FALSE", "EXISTS", "CAST"] ∧ SqlFunction.ofSql? s = none

instance (s : String) : Decidable (Closes s) := inferInstanceAs (Decidable (_ ∧ _))

theorem Closes.primary {s : String} (h : Closes s) (rest : List Token) :
    primary inner (.word s :: rest) = none := by
  obtain ⟨word, function⟩ := h
  simp only [List.mem_cons, List.not_mem_nil, or_false, not_or] at word
  simp [Parser.primary, keyword, word, function]

theorem Closes.expr {s : String} (h : Closes s) (other : s ≠ "NOT") (n : Nat)
    (rest : List Token) : Parser.expr n (.word s :: rest) = none := by
  cases n with
  | zero => rfl
  | succ n =>
      have inversion : inversion (Parser.expr n) (.word s :: rest) = none := by
        rw [inversion, if_neg other]
        exact predicate_eq_none (h.primary rest)
      exact chained_eq_none (chained_eq_none inversion)

/-! ## Levels -/

theorem Reads.predicate (h : Reads (sum inner) 5 ts t) : Reads (predicate inner) 4 ts t := by
  intro rest hr
  rw [Parser.predicate, h rest (Nat.lt_succ_of_lt hr)]
  exact if_neg (Nat.ne_of_lt hr)

theorem Reads.inversion (h : Reads (Parser.predicate inner) 4 ts t) :
    Reads (inversion inner) 3 ts t := by
  intro rest hr
  have read := h rest (Nat.lt_succ_of_lt hr)
  generalize ts ++ rest = all at read
  unfold Parser.inversion
  split
  · next s rest' =>
    split
    · next negated =>
      subst negated
      rw [predicate_eq_none (Closes.primary (by decide) rest')] at read
      cases read
    · exact read
  · exact read

/-- The tokens are read as an operand of the strength: by a chain as its beginning, elsewhere as a
whole. -/
def ReadsAt (inner : Parser Tree) : Nat → List Token → Tree → Prop
  | 0 | 1 => Opens (logical? .or) (conjunction inner) 1
  | 2 => Opens (logical? .and) (inversion inner) 2
  | 3 => Reads (inversion inner) 3
  | 4 => Reads (predicate inner) 4
  | 5 => Opens (binary? 5) (product inner) 5
  | 6 => Opens (binary? 6) (concatenation inner) 6
  | 7 => Opens (binary? 7) (primary inner) 7
  | _ => Reads (primary inner) 8

theorem ReadsAt.sum (h : ReadsAt inner 5 ts t) : Reads (sum inner) 5 ts t :=
  Opens.reads (fun _ _ => binary?_strength) h

theorem ReadsAt.disjunction (h : ReadsAt inner 1 ts t) : Reads (disjunction inner) 1 ts t :=
  Opens.reads (fun _ _ => logical?_strength) h

/-- What a level reads, the next looser one reads. -/
theorem ReadsAt.step (h : ReadsAt inner (l + 1) ts t) : ReadsAt inner l ts t := by
  match l with
  | 0 => exact h
  | 1 =>
      have conjunction : Reads (conjunction inner) 2 ts t :=
        Opens.reads (fun _ _ => logical?_strength) h
      exact conjunction.opens
  | 2 => exact Reads.opens h
  | 3 => exact Reads.inversion h
  | 4 => exact Reads.predicate (ReadsAt.sum h)
  | 5 =>
      have product : Reads (product inner) 6 ts t := Opens.reads (fun _ _ => binary?_strength) h
      exact product.opens
  | 6 =>
      have concatenation : Reads (concatenation inner) 7 ts t :=
        Opens.reads (fun _ _ => binary?_strength) h
      exact concatenation.opens
  | 7 => exact Reads.opens h
  | l + 8 => exact h

/-- What is read at a level is read at every looser one. -/
theorem ReadsAt.mono {p : Nat} (h : ReadsAt inner p ts t) (le : l ≤ p) : ReadsAt inner l ts t := by
  induction p with
  | zero =>
      obtain rfl : l = 0 := by omega
      exact h
  | succ p ih =>
      rcases Nat.lt_or_eq_of_le le with lt | rfl
      · exact ih h.step (by omega)
      · exact h

end TypedSql
