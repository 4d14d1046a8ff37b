import TypedSql.Proofs.Compound.Words
import TypedSql.Proofs.Joins.Reader

/-!
# Sources are read back

**Theorem (`Source.text_determines_tree`).** SQL takes the text of a source for the source itself:
the same tables, views and queries in the same order under the same names, the same joins nested in
the same way, and at each join its own condition. So no two sources that differ in this share a
text.

A join is written behind the text of its left operand, however that is built up, and what SQL makes
of the longer text is a join with what it made of the shorter one. A join on the right stands in
parentheses. No keyword of joins is on the surface of a condition or of an operand.
-/

namespace TypedSql

open Lexeme

variable {d : Dialect} {inner : List Lexeme → Option FromTree}

/-! ## Trees -/

/-- A relation under its own name or the one it is called. -/
def Relation.tree (d : Dialect) (scopes : List Scope) (called : Option String) :
    Relation → FromTree
  | .table t => .named t.name called
  | .view _ name _ => .named name called
  | .subquery _ q => .query (words d (q.pieces scopes)) called

def Source.tree (d : Dialect) (scopes : List Scope) : Source → FromTree
  | .relation r => r.tree d scopes none
  | .alias _ name r => r.tree d scopes (some name)
  | .join kind lhs rhs on =>
    .join kind (lhs.tree d scopes) (rhs.tree d scopes)
      (on.map fun e => words d (e.pieces scopes))

/-! ## Names -/

/-- A name as it is read. -/
def nameLexeme (d : Dialect) (n : String) : Lexeme := if d.isReserved n then .quoted n else .word n

/-- What names an operand anew. -/
def calledPieces : Option String → List Piece
  | none => []
  | some n => [.text " AS ", .name n]

def calledWords (d : Dialect) : Option String → List Lexeme
  | none => []
  | some n => [.word "AS", nameLexeme d n]

/-! ## What is read -/

/-- The words that end an operand or a condition. -/
def borderWords : List String := "ON" :: joinWords

/-- The pieces are read as one operand. -/
structure IsOperand (d : Dialect) (inner : List Lexeme → Option FromTree) (ps : List Piece)
    (t : FromTree) : Prop extends SetOff d (Lexeme.isWordOf borderWords) ps where
  read : readOperand? inner (words d ps) = some t

/-- An operand by itself is a chain. -/
theorem IsOperand.readChain?_eq {ps : List Piece} {t : FromTree} (h : IsOperand d inner ps t) :
    readChain? (readOperand? inner) (words d ps) = some t := by
  rw [readChain?_of_calm (h.calm.mono fun l => l.isWordOf_mono (by decide)), h.read]

/-- The first word of a join. -/
def JoinKind.word : JoinKind → String
  | .inner => "INNER"
  | .left => "LEFT"
  | .cross => "CROSS"

def conditionWords (d : Dialect) (scopes : List Scope) : Option Expr → List Lexeme
  | none => []
  | some e => .word "ON" :: words d (e.pieces scopes)

section

variable (hd : d.Conforming)

include hd

theorem name?_nameLexeme (n : String) : (nameLexeme d n).name? = some n := by
  unfold nameLexeme
  split
  · rfl
  · next unreserved =>
    have other : TypedSql.isWordOf reservedWords n = false :=
      Bool.eq_false_iff.2 fun known => unreserved (hd.reserved n known)
    rw [Lexeme.name?, other]
    rfl

theorem called?_calledWords (called : Option String) :
    called? (calledWords d called) = some called := by
  cases called with
  | none => rfl
  | some n => simp [calledWords, called?, Text.sameName_refl, name?_nameLexeme hd]

theorem isBody_nameLexeme (n : String) (ms : List Lexeme) :
    isBody (nameLexeme d n :: ms) = false := by
  unfold nameLexeme
  split
  · rfl
  · next unreserved =>
    refine Bool.eq_false_iff.2 fun select => unreserved (hd.reserved n ?_)
    exact List.any_eq_true.2 ⟨"SELECT", by decide, select⟩

theorem words_calledPieces {called : Option String} (h : ∀ n ∈ called, isValidName n = true) :
    words d (calledPieces called) = calledWords d called := by
  cases called with
  | none => rfl
  | some n =>
    rw [calledPieces, words_cons_text hd.readable (by decide) (by decide),
      words_name hd.readable (h n rfl)]
    rfl

omit hd in
theorem loose_calledPieces (called : Option String) : Loose d (calledPieces called) := by
  cases called with
  | none => exact fun _ apart => apart
  | some n => exact .cons_text (by decide) _

/-! ## Operands -/

theorem readOperand?_named (n : String) (called : Option String) :
    readOperand? inner (nameLexeme d n :: calledWords d called) = some (.named n called) := by
  have name := name?_nameLexeme hd n
  have behind := called?_calledWords hd called
  unfold nameLexeme at name ⊢
  split
  · simp [readOperand?, Lexeme.name?, behind]
  · next unreserved =>
    rw [if_neg unreserved] at name
    simp [readOperand?, name, behind]

theorem readOperand?_query {ls : List Lexeme} {stop : Lexeme → Bool} (calm : Calm stop ls)
    (select : isBody ls = true) (called : Option String) :
    readOperand? inner (.sign '(' :: (ls ++ .sign ')' :: calledWords d called))
      = some (.query ls called) := by
  rw [readOperand?, closeBracket?_append calm]
  simp [select, called?_calledWords hd called]

omit hd in
/-- What does not begin with SELECT is read as joined operands. -/
theorem readOperand?_inner {ls : List Lexeme} {stop : Lexeme → Bool} (calm : Calm stop ls)
    (other : isBody ls = false) :
    readOperand? inner (.sign '(' :: (ls ++ [.sign ')'])) = inner ls := by
  rw [readOperand?, closeBracket?_append calm]
  simp [other]

/-- A relation is written as a name or as a query in parentheses. -/
theorem Relation.words_cases (scopes : List Scope) {r : Relation} (h : ∀ l ∈ r.leaves, l.Plain) :
    (∃ n, words d (r.pieces scopes) = [nameLexeme d n]
        ∧ ∀ called, r.tree d scopes called = .named n called)
      ∨ ∃ ls, words d (r.pieces scopes) = .sign '(' :: (ls ++ [.sign ')'])
        ∧ Calm (fun _ => false) ls ∧ isBody ls = true
        ∧ ∀ called, r.tree d scopes called = .query ls called := by
  cases r with
  | table t =>
    have valid : isValidName t.name = true := (h (.table t) (List.mem_singleton_self _)).1
    exact .inl ⟨t.name, words_name hd.readable valid, fun _ => rfl⟩
  | view id name q =>
    have valid : isValidName name = true := h (.named id name) List.mem_cons_self
    exact .inl ⟨name, words_name hd.readable valid, fun _ => rfl⟩
  | subquery id q =>
    have query := q.setOff hd.readable scopes fun l hl => h l (List.mem_cons_of_mem _ hl)
    exact .inr ⟨words d (q.pieces scopes), words_nested hd.readable query.isolated, query.calm,
      q.isBody_words hd.readable scopes, fun _ => rfl⟩

theorem Relation.readOperand?_words (scopes : List Scope) {r : Relation}
    (h : ∀ l ∈ r.leaves, l.Plain) (called : Option String) :
    readOperand? inner (words d (r.pieces scopes) ++ calledWords d called)
      = some (r.tree d scopes called) := by
  rcases r.words_cases hd scopes h with ⟨n, row, tree⟩ | ⟨ls, row, calm, select, tree⟩
  · rw [row, tree]
    exact readOperand?_named hd n called
  · rw [row, tree, List.cons_append, List.append_assoc]
    exact readOperand?_query hd calm select called

theorem Relation.isBody_words (scopes : List Scope) {r : Relation}
    (h : ∀ l ∈ r.leaves, l.Plain) (ms : List Lexeme) :
    isBody (words d (r.pieces scopes) ++ ms) = false := by
  rcases r.words_cases hd scopes h with ⟨n, row, -⟩ | ⟨ls, row, -⟩
  · rw [row]
    exact isBody_nameLexeme hd n ms
  · rw [row]
    rfl

/-- A relation with the name behind it is an operand. -/
theorem Relation.isOperand (scopes : List Scope) {r : Relation} {called : Option String}
    (h : ∀ l ∈ r.leaves, l.Plain) (valid : ∀ n ∈ called, isValidName n = true) :
    IsOperand d inner (r.pieces scopes ++ calledPieces called) (r.tree d scopes called) := by
  have spares : d.Spares (Lexeme.isWordOf borderWords) := hd.spares (by decide) (by decide)
  have own := r.setOff hd.readable spares scopes h
  refine ⟨own.append ?_, ?_⟩
  · cases called with
    | none => exact .nil
    | some n => exact .cons_text hd.readable (by decide) (.name hd.readable spares (valid n rfl))
  · rw [own.isolated.words_append (loose_calledPieces called), words_calledPieces hd valid]
    exact r.readOperand?_words hd scopes h called

/-- A source other than a join is an operand as it stands. -/
theorem Source.isOperand (scopes : List Scope) :
    {s : Source} → s.isJoin = false → (∀ l ∈ s.leaves, l.Plain) →
      IsOperand d inner (s.pieces scopes) (s.tree d scopes)
  | .relation r, _, h => by
    have own : IsOperand d inner (r.pieces scopes ++ calledPieces none) (r.tree d scopes none) :=
      r.isOperand hd scopes h nofun
    rwa [calledPieces, List.append_nil] at own
  | .alias id name r, _, h => by
    rw [Source.leaves, List.forall_mem_cons] at h
    have valid : ∀ n ∈ some name, isValidName n = true := by
      rintro n ⟨⟩
      exact h.1
    exact r.isOperand hd scopes h.2 valid

/-! ## Joins -/

omit hd in
theorem JoinKind.words_eq (kind : JoinKind) :
    lexemes '"' (" " ++ kind.sql ++ " ").toList = [.word kind.word, .word "JOIN"]
      ∧ isJoinWord (.word kind.word) = true ∧ joinKind? (.word kind.word) = some kind := by
  cases kind <;> decide

/-- The words of a join are those of its left operand, and what is added to them. -/
theorem Source.words_join (scopes : List Scope) {kind : JoinKind} {lhs rhs : Source}
    {on : Option Expr} (h : ∀ l ∈ (Source.join kind lhs rhs on).leaves, l.Plain) :
    words d ((Source.join kind lhs rhs on).pieces scopes)
      = words d (lhs.pieces scopes) ++ .word kind.word :: .word "JOIN"
        :: (words d (Piece.guarded rhs.isJoin (rhs.pieces scopes))
          ++ conditionWords d scopes on) := by
  simp only [Source.leaves, List.forall_mem_append] at h
  have left := (lhs.setOff hd.readable scopes h.1.1).isolated
  have right := (rhs.setOff hd.readable scopes h.1.2).guarded hd.readable rfl rhs.isJoin
  have loose : Loose d (conditionPieces " ON " scopes on) :=
    (condition_tail hd.readable hd.readable.spares (by decide) scopes on h.2).loose
  have condition : words d (conditionPieces " ON " scopes on) = conditionWords d scopes on := by
    cases on with
    | none => rfl
    | some e => exact words_cons_text hd.readable (by decide) (by decide) _
  rw [Source.pieces, List.append_assoc, List.append_assoc,
    words_silent (sqlText_faults (joinErrors lhs rhs kind on)), left.words_append, List.cons_append,
    words_cons_text hd.readable (quiet_joinKind kind) (by cases kind <;> decide), kind.words_eq.1,
    right.isolated.words_append loose, condition]
  · rfl
  · exact .cons_text (by cases kind <;> decide) _

/-- The words behind an operand hold no further join. -/
theorem calm_conditionWords {stop : Lexeme → Bool} (hs : d.Spares stop)
    (free : stop (.word "ON") = false) (scopes : List Scope) {on : Option Expr}
    (h : ∀ l ∈ optionLeaves on, l.Plain) : Calm stop (conditionWords d scopes on) := by
  cases on with
  | none => exact .nil
  | some e =>
    have keyword : Calm stop [.word "ON"] :=
      calm_of_isFlat rfl (List.forall_mem_singleton.2 free)
    exact keyword.append (e.setOff hd.readable hs scopes h).calm

/-- The condition is told apart from the operand in front of it. -/
theorem segments_conditionWords (scopes : List Scope) {ls : List Lexeme} (calm : Calm isOn ls)
    {on : Option Expr} (h : ∀ l ∈ optionLeaves on, l.Plain) :
    ∃ conditions, segments isOn 0 (ls ++ conditionWords d scopes on) = (ls, conditions)
      ∧ condition? conditions = some (on.map fun e => words d (e.pieces scopes)) := by
  rw [calm.segments]
  cases on with
  | none => exact ⟨[], by simp [conditionWords, segments], rfl⟩
  | some e =>
    have spares : d.Spares isOn := hd.spares (by decide) (by decide)
    have begins : isOn (.word "ON") = true := by decide
    have own := segments_cons_of_calm begins (e.setOff hd.readable spares scopes h).calm
    refine ⟨[(.word "ON", words d (e.pieces scopes))], ?_, rfl⟩
    rw [conditionWords, own, List.append_nil]

/-- One more operand is joined under the condition behind it. -/
theorem readJoin?_words {operand : List Lexeme → Option FromTree} (scopes : List Scope)
    {ls : List Lexeme} {rhs : FromTree}
    (calm : Calm isOn ls) (read : operand ls = some rhs) {on : Option Expr}
    (h : ∀ l ∈ optionLeaves on, l.Plain) (kind : JoinKind) (lhs : FromTree) :
    readJoin? operand lhs
        (.word kind.word, .word "JOIN" :: (ls ++ conditionWords d scopes on))
      = some (.join kind lhs rhs (on.map fun e => words d (e.pieces scopes))) := by
  obtain ⟨conditions, row, condition⟩ := segments_conditionWords hd scopes calm h
  simp [readJoin?, Text.sameName_refl, kind.words_eq.2.2, row, read, condition]

/-! ## Sources -/

/-- No source begins with SELECT. -/
theorem Source.isBody_words (scopes : List Scope) :
    (s : Source) → (∀ l ∈ s.leaves, l.Plain) →
      ∀ ms, isBody (words d (s.pieces scopes) ++ ms) = false
  | .relation r, h, ms => r.isBody_words hd scopes h ms
  | .alias id name r, h, ms => by
    rw [Source.leaves, List.forall_mem_cons] at h
    have own := (r.setOff hd.readable hd.readable.spares scopes h.2).isolated
    have row := own.words_append (loose_calledPieces (some name))
    rw [calledPieces] at row
    rw [Source.pieces, row, List.append_assoc]
    exact r.isBody_words hd scopes h.2 _
  | .join kind lhs rhs on, h, ms => by
    rw [Source.words_join hd scopes h, List.append_assoc]
    simp only [Source.leaves, List.forall_mem_append] at h
    exact lhs.isBody_words scopes h.1.1 _

/-- A join in parentheses is an operand if the joins inside are read back. -/
theorem Source.isOperand_guarded (scopes : List Scope) {s : Source} (h : ∀ l ∈ s.leaves, l.Plain)
    (read : s.isJoin = true → inner (words d (s.pieces scopes)) = some (s.tree d scopes)) :
    IsOperand d inner (Piece.guarded s.isJoin (s.pieces scopes)) (s.tree d scopes) := by
  cases shape : s.isJoin with
  | false => exact s.isOperand hd scopes shape h
  | true =>
    have own := s.setOff hd.readable scopes h
    refine ⟨own.parenthesised hd.readable (by decide), ?_⟩
    have other := s.isBody_words hd scopes h []
    rw [List.append_nil] at other
    rw [Piece.guarded, if_pos rfl, words_parenthesised hd.readable own.isolated,
      readOperand?_inner own.calm other, read shape]

/-- A join has more words than its operands, with or without parentheses. -/
theorem Source.length_words_join (scopes : List Scope) {kind : JoinKind} {lhs rhs : Source}
    {on : Option Expr} (h : ∀ l ∈ (Source.join kind lhs rhs on).leaves, l.Plain) :
    (words d (lhs.pieces scopes)).length + (words d (rhs.pieces scopes)).length
      < (words d ((Source.join kind lhs rhs on).pieces scopes)).length := by
  have row := congrArg List.length (Source.words_join hd scopes h)
  simp only [Source.leaves, List.forall_mem_append] at h
  have bracket := words_parenthesised hd.readable (rhs.setOff hd.readable scopes h.1.2).isolated
  have right : (words d (rhs.pieces scopes)).length
      ≤ (words d (Piece.guarded rhs.isJoin (rhs.pieces scopes))).length := by
    unfold Piece.guarded
    split
    · rw [bracket, List.length_cons, List.length_append]
      omega
    · exact Nat.le_refl _
  simp only [List.length_append, List.length_cons] at row
  omega

/-- A join is read behind its left operand, which is read as if it stood alone. -/
theorem Source.readChain?_join (scopes : List Scope) {kind : JoinKind} {lhs rhs : Source}
    {on : Option Expr} (h : ∀ l ∈ (Source.join kind lhs rhs on).leaves, l.Plain)
    (left : readChain? (readOperand? inner) (words d (lhs.pieces scopes))
      = some (lhs.tree d scopes))
    (right : IsOperand d inner (Piece.guarded rhs.isJoin (rhs.pieces scopes))
      (rhs.tree d scopes)) :
    readChain? (readOperand? inner) (words d ((Source.join kind lhs rhs on).pieces scopes))
      = some ((Source.join kind lhs rhs on).tree d scopes) := by
  rw [Source.words_join hd scopes h]
  simp only [Source.leaves, List.forall_mem_append] at h
  have balanced := (lhs.setOff hd.readable scopes h.1.1).calm.depth 0
  have keyword : Calm isJoinWord [.word "JOIN"] := ⟨fun _ => rfl, fun _ => rfl, by decide⟩
  have behind : Calm isJoinWord (words d (Piece.guarded rhs.isJoin (rhs.pieces scopes))
      ++ conditionWords d scopes on) :=
    (right.calm.mono fun l => l.isWordOf_mono (by decide)).append
      (calm_conditionWords hd (hd.spares (by decide) (by decide)) (by decide) scopes h.2)
  refine (readChain?_append_join balanced kind.words_eq.2.1 (keyword.append behind)).trans ?_
  rw [left]
  exact readJoin?_words hd scopes (right.calm.mono fun l => l.isWordOf_mono (by decide)) right.read
    h.2 kind _

/-- **Sources are read back**, if the reader follows as many levels as there are words. -/
theorem Source.readFrom?_words (scopes : List Scope) :
    (s : Source) → (∀ l ∈ s.leaves, l.Plain) → ∀ n, (words d (s.pieces scopes)).length < n →
      readFrom? n (words d (s.pieces scopes)) = some (s.tree d scopes)
  | _, _, 0, short => absurd short (Nat.not_lt_zero _)
  | .relation r, h, n + 1, _ =>
    (Source.isOperand hd scopes (s := .relation r) rfl h).readChain?_eq
  | .alias id name r, h, n + 1, _ =>
    (Source.isOperand hd scopes (s := .alias id name r) rfl h).readChain?_eq
  | .join kind lhs rhs on, h, n + 1, short => by
    have longer := Source.length_words_join hd scopes h
    have parts := h
    simp only [Source.leaves, List.forall_mem_append] at parts
    refine Source.readChain?_join hd scopes h ?_ ?_
    · exact lhs.readFrom?_words scopes parts.1.1 (n + 1) (by omega)
    · exact rhs.isOperand_guarded hd scopes parts.1.2 fun _ =>
        rhs.readFrom?_words scopes parts.1.2 n (by omega)

end

/-- **The text of a source determines its tree.** -/
theorem Source.text_determines_tree {s : Source} (built : ∀ l ∈ s.leaves, l.Built)
    (hd : d.Conforming) (scopes : List Scope) :
    readSource? d.quote (Piece.sqlText d (s.pieces scopes)) = some (s.tree d scopes)
      ∧ ∀ (s' : Source) (scopes' : List Scope), (∀ l ∈ s'.leaves, l.Built) →
        Piece.sqlText d (s'.pieces scopes') = Piece.sqlText d (s.pieces scopes) →
        s'.tree d scopes' = s.tree d scopes := by
  have read : ∀ (s : Source) (scopes : List Scope), (∀ l ∈ s.leaves, l.Built) →
      readSource? d.quote (Piece.sqlText d (s.pieces scopes)) = some (s.tree d scopes) :=
    fun s scopes built =>
      s.readFrom?_words hd scopes (fun l hl => (built l hl).plain) _ (Nat.lt_succ_self _)
  refine ⟨read s scopes built, fun s' scopes' built' same => ?_⟩
  have other := read s' scopes' built'
  rw [same, read s scopes built] at other
  exact (Option.some.inj other).symm

/-! ### Orders of customers -/

def orderTable : Table := .single ⟨1⟩ "Order" "id"

def customerTable : Table := .single ⟨2⟩ "Customer" "id"

def orderId : ColumnRef := Table.wholeColumn ⟨1⟩ "Order" "id"

def customerId : ColumnRef := Table.wholeColumn ⟨2⟩ "Customer" "id"

/-- All orders, with those customers who were referred, and each with all customers once more. -/
def referredOrders : Source :=
  let referred : Source := .join .inner (.relation (.table customerTable))
    (.alias ⟨3⟩ "Referrer" (.table customerTable)) (some (.isNull true (.column customerId)))
  let ordered : Source := .join .left (.relation (.table orderTable)) referred
    (some (.compare .eq (.column orderId) (.column customerId)))
  .join .cross ordered (.alias ⟨5⟩ "Other" (.subquery ⟨4⟩ (.select { Select.empty with
    source := some (.relation (.table customerTable)) }))) none

theorem referredOrders_built : ∀ l ∈ referredOrders.leaves, l.Built := by
  have orders : orderTable.Built := Table.single_built ⟨1⟩ (by decide) (by decide)
  have customers : customerTable.Built := Table.single_built ⟨2⟩ (by decide) (by decide)
  have named : ∀ id, (Leaf.named id "Referrer").Built ∧ (Leaf.named id "Other").Built := fun id =>
    ⟨.named (validateName_eq_ok_iff.2 (by decide)), .named (validateName_eq_ok_iff.2 (by decide))⟩
  have orderColumn : (Leaf.column orderId).Built :=
    Leaf.built_of_mem_columns orders (List.mem_singleton_self _)
  have customerColumn : (Leaf.column customerId).Built :=
    Leaf.built_of_mem_columns customers (List.mem_singleton_self _)
  have leaves : referredOrders.leaves
      = [.table orderTable, .table customerTable, .named ⟨3⟩ "Referrer", .table customerTable,
        .column customerId, .column orderId, .column customerId, .named ⟨5⟩ "Other",
        .anonymous ⟨4⟩, .table customerTable] := rfl
  simp only [leaves, List.forall_mem_cons]
  exact ⟨.table orders, .table customers, (named _).1, .table customers, customerColumn,
    orderColumn, customerColumn, (named _).2, .anonymous _, .table customers,
    List.forall_mem_nil _⟩

theorem text_determines_tree_of_referredOrders :
    Piece.sqlText .generic (referredOrders.pieces [])
        = "\"Order\" LEFT JOIN (Customer INNER JOIN Customer AS Referrer "
          ++ "ON Customer.id IS NOT NULL) ON \"Order\".id = Customer.id "
          ++ "CROSS JOIN (SELECT Customer.id FROM Customer) AS Other"
      ∧ readSource? '"' (Piece.sqlText .generic (referredOrders.pieces []))
        = some (referredOrders.tree .generic []) := by
  refine ⟨by decide +kernel, ?_⟩
  exact (Source.text_determines_tree referredOrders_built Dialect.conforming_generic []).1

end TypedSql
