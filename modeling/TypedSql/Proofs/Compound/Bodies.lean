import TypedSql.Proofs.Compound.SetOff

/-!
# Bodies and endings of queries

A query is its body, which SELECT begins, with ORDER BY, LIMIT and OFFSET behind it.

**Theorem (`Select.divided`).** A reader finds nothing on the surface of a body that could end it:
no set operator and none of ORDER, LIMIT and OFFSET. On the surface of the ending there is no set
operator.

The induction goes through expressions, queries and sources like rendering does. Queries inside
others always stand between parentheses, so that nothing need be known of their surface. What is
said of expressions holds of every reader who passes over them, whatever the reader is after.
-/

namespace TypedSql

open Lexeme

/-- The query without ORDER BY, LIMIT and OFFSET. -/
def Select.body (q : Select) : Select := { q with orderBy := [], limit := none, offset := none }

/-- ORDER BY, LIMIT and OFFSET. -/
def Select.ending (outer : List Scope) (q : Select) : List Piece :=
  clausePieces " ORDER BY " (sortPieces (.ofSource q.source :: outer) q.orderBy)
    ++ limitPieces q.limit q.offset

/-- The terms of the ORDER BY of a compound query, which are positions. -/
def positionPieces (terms : List (Nat × SortOrder)) : List (List Piece) :=
  terms.map fun (i, order) => [.text (toString (i + 1) ++ order.sql)]

/-- ORDER BY, LIMIT and OFFSET of the whole. -/
def Compound.ending (q : Compound) : List Piece :=
  clausePieces " ORDER BY " (positionPieces q.orderBy) ++ limitPieces q.limit q.offset

theorem Select.pieces_body (outer : List Scope) (q : Select) :
    q.pieces outer = q.body.pieces outer ++ q.ending outer := by
  obtain ⟨source, distinct, items, filter, groupBy, having, orderBy, limit, offset, errors⟩ := q
  simp only [Select.body, Select.ending, Select.pieces_eq, sortPieces, clausePieces, limitPieces,
    List.append_assoc, List.append_nil]

theorem Compound.pieces_ending (scopes : List Scope) (q : Compound) :
    (Query.compound q).pieces scopes
      = q.errors.map Piece.fault
        ++ (q.first.pieces scopes ++ branchPieces scopes q.branches ++ q.ending) := by
  obtain ⟨first, branches, orderBy, limit, offset, errors⟩ := q
  simp only [Query.pieces, Compound.ending, positionPieces, List.append_assoc]

variable {d : Dialect} {stop : Lexeme → Bool}

/-! ## The texts that vary -/

theorem opening_call (f : SqlFunction) (distinct : Bool) :
    Opening isForeign
      (lexemes '"' (f.sql ++ "(" ++ if distinct then "DISTINCT " else "").toList) := by
  cases f <;> cases distinct <;> exact ⟨fun _ => rfl, fun _ => rfl, by decide⟩

theorem opening_cast : Opening isForeign (lexemes '"' "CAST(".toList) :=
  ⟨fun _ => rfl, fun _ => rfl, by decide⟩

theorem calm_countRows : Calm isForeign (lexemes '"' "COUNT(*)".toList) :=
  ⟨fun _ => rfl, fun _ => rfl, by decide⟩

theorem opening_inList (negated : Bool) :
    Opening isForeign
      (lexemes '"' ((if negated then " NOT " else " ") ++ "IN (").toList) := by
  cases negated <;> exact ⟨fun _ => rfl, fun _ => rfl, by decide⟩

theorem closing_bracket : Closing (lexemes '"' ")".toList) := ⟨fun _ => rfl, fun _ => rfl⟩

theorem quiet_castType {type : String} (h : isValidName type = true) :
    Quiet (" AS " ++ type ++ ")") := by
  refine Quiet.append (.append (by decide) ?_) (by decide)
  refine List.all_eq_true.2 fun c hc => ?_
  rw [isSqlChar, isNameRest_of_isValidName h c hc, Bool.true_or]

theorem beginsOff_castType (type : String) : beginsOff (" AS " ++ type ++ ")") = true :=
  beginsOff_append (beginsOff_append rfl type) ")"

/-- The type behind AS is one word. -/
theorem closing_castType {type : String} (h : isValidName type = true) :
    Closing (lexemes '"' (" AS " ++ type ++ ")").toList) := by
  have nonempty : type ≠ "" := by
    rintro rfl
    cases h
  have text : (" AS " ++ type ++ ")").toList = " AS ".toList ++ (type.toList ++ [')']) := by simp
  have row : lexemes '"' (" AS " ++ type ++ ")").toList
      = [.word "AS", .word type] ++ [.sign ')'] := by
    rw [text, lexemes_append_of_getLast (c := ' ') rfl rfl (by decide),
      lexemes_word nonempty (isNameRest_of_isValidName h) (apart_cons rfl [])]
    rfl
  have calm : Calm (fun _ => false) [.word "AS", .word type] :=
    ⟨fun _ => rfl, fun _ => rfl, fun _ _ => rfl⟩
  exact row ▸ .of_calm calm

/-! ## Select lists -/

theorem valid_listed {source : Level} {items : List ResultItem}
    (hs : ∀ l ∈ fromLeaves source, l.Plain) (hi : ∀ l ∈ itemLeaves items, l.Plain) :
    ∀ e ∈ nameEntries [] (listedEntries source items), isValidName e.name = true := by
  intro e he
  obtain ⟨entry, named⟩ := mem_nameEntries he
  refine named.valid ?_
  cases items with
  | cons item items => exact ResultEntry.valid_of_items hi _ entry
  | nil =>
    obtain ⟨c, hc, own⟩ := List.mem_map.1 entry
    cases source with
    | none => cases hc
    | some s =>
      rw [← own]
      exact s.columns_valid hs c hc

section

variable (hd : d.Readable)

include hd

theorem Tail.sortOrder (order : SortOrder) : Tail d isSetWord [.text order.sql] := by
  cases order with
  | asc => exact ⟨.text hd (by decide), fun rest apart => apart⟩
  | desc => exact ⟨.text hd (by decide), .cons_text (by decide) []⟩

theorem SetOff.column (hs : d.Spares stop) (scopes : List Scope) {c : ColumnRef} (h : c.Plain) :
    SetOff d stop (scopeFaults scopes c ++ Piece.qualified c.qualifier c.name) :=
  (SetOff.qualified hd hs h.qualifier h.name).silent (sqlText_scopeFaults scopes c)

theorem SetOff.selectList {entries : List (NamedEntry × List Piece)} (seen : List String)
    (named : ∀ e ∈ entries, isValidName e.1.name = true)
    (h : ∀ e ∈ entries, SetOff d isEndWord e.2) :
    ∀ ps ∈ TypedSql.selectList seen entries, SetOff d isEndWord ps := by
  induction entries generalizing seen with
  | nil => exact List.forall_mem_nil _
  | cons first rest ih =>
    obtain ⟨e, qs⟩ := first
    rw [List.forall_mem_cons] at named h
    have label : Tail d isEndWord [.text " AS ", .name e.name] :=
      .cons_text hd (by decide) (.name hd hd.spares named.1)
    refine List.forall_mem_cons.2 ⟨?_, ih _ named.2 h.2⟩
    rw [List.append_assoc]
    refine SetOff.silent (h.1.append ?_) ?_
    · cases e.entry with
      | labelled key type => exact label
      | column c =>
        cases e.renamed with
        | true => exact label
        | false => exact .nil
    · split <;> rfl

theorem SetOff.listed {source : Level} {items : List ResultItem} {pss : List (List Piece)}
    (hs : ∀ l ∈ fromLeaves source, l.Plain) (h : ∀ ps ∈ pss, SetOff d isEndWord ps) :
    ∀ ps ∈ listedPieces source items pss, SetOff d isEndWord ps := by
  cases items with
  | cons item items => exact h
  | nil =>
    intro ps hps
    obtain ⟨c, hc, rfl⟩ := List.mem_map.1 hps
    cases source with
    | none => cases hc
    | some s =>
      have plain := Source.columns_plain hs c hc
      exact .qualified hd hd.spares plain.qualifier plain.name

/-- SELECT with the select list. -/
theorem SetOff.start {source : Level} {items : List ResultItem} {pss : List (List Piece)}
    (hs : ∀ l ∈ fromLeaves source, l.Plain) (hi : ∀ l ∈ itemLeaves items, l.Plain)
    (h : ∀ ps ∈ pss, SetOff d isEndWord ps) (distinct : Bool) (errors : List SchemaError) :
    SetOff d isEndWord
      (errors.map Piece.fault
        ++ .text (if distinct then "SELECT DISTINCT " else "SELECT ")
        :: (if (listedEntries source items).isEmpty then [.fault .noResultColumns] else [])
        ++ Piece.separated ", " (TypedSql.selectList []
          ((nameEntries [] (listedEntries source items)).zip
            (listedPieces source items pss)))) := by
  have list : SetOff d isEndWord (Piece.separated ", " (TypedSql.selectList []
      ((nameEntries [] (listedEntries source items)).zip (listedPieces source items pss)))) := by
    refine .separated hd (by decide) (.selectList hd [] ?_ ?_)
    · exact fun e he => valid_listed hs hi _ (List.of_mem_zip he).1
    · exact fun e he => SetOff.listed hd hs h _ (List.of_mem_zip he).2
  have nothing : Piece.sqlText d
      (if (listedEntries source items).isEmpty then [.fault .noResultColumns] else []) = "" := by
    split <;> rfl
  rw [List.append_assoc]
  refine SetOff.silent (.cons_text hd ?_ ?_ (list.silent nothing)) (sqlText_faults errors)
  all_goals cases distinct <;> decide

end

/-! ## Positions -/

theorem isAsciiDigit_asciiLower {c : Char} (h : Text.isAsciiDigit c = true) :
    Text.isAsciiDigit (Text.asciiLower c) = true := by
  have low : ¬ ('A' ≤ c ∧ c ≤ 'Z') := by
    simp only [Text.isAsciiDigit, Bool.and_eq_true, decide_eq_true_eq] at h
    exact fun upper => absurd (Char.le_trans upper.1 h.2) (by decide)
  rw [Text.asciiLower, if_neg low]
  exact h

/-- No number is a word with letters. -/
theorem isWordOf_toString {words : List String}
    (letters : (words.all fun w => !(Text.folded w).all Text.isAsciiDigit) = true) (n : Nat) :
    TypedSql.isWordOf words (toString n) = false := by
  refine Bool.eq_false_iff.2 fun found => ?_
  obtain ⟨w, hw, same⟩ := List.any_eq_true.1 found
  have digits : (Text.folded (toString n)).all Text.isAsciiDigit = true := by
    refine List.all_eq_true.2 fun c hc => ?_
    obtain ⟨c', hc', rfl⟩ := List.mem_map.1 hc
    exact isAsciiDigit_asciiLower (isAsciiDigit_of_mem_toString hc')
  have other := List.all_eq_true.1 letters w hw
  rw [Text.sameName_iff.1 same, digits] at other
  cases other

theorem isEndWord_toString (n : Nat) : isEndWord (.word (toString n)) = false :=
  Bool.or_eq_false_iff.2 ⟨isWordOf_toString (by decide) n, isWordOf_toString (by decide) n⟩

theorem lexemes_toString (n : Nat) {cs : List Char} (apart : Apart cs) :
    lexemes '"' ((toString n).toList ++ cs) = .word (toString n) :: lexemes '"' cs := by
  refine lexemes_word (fun none => ?_) (fun c hc => ?_) apart
  · have digits : Nat.toDigits 10 n = [] := by
      rw [← Nat.toList_repr, ← Nat.toString_eq_repr, none]
      rfl
    exact Nat.toDigits_ne_nil digits
  · rw [isNameRest, isAsciiDigit_of_mem_toString hc, Bool.or_true, Bool.true_or]

theorem SetOff.position (hd : d.Readable) (i : Nat) (order : SortOrder) :
    SetOff d isEndWord [.text (toString (i + 1) ++ order.sql)] := by
  refine .quiet hd (quiet_position i order) ?_
  have apart : Apart order.sql.toList := by
    cases order with
    | asc => exact apart_nil
    | desc => exact apart_cons rfl _
  have number : Calm isEndWord [.word (toString (i + 1))] :=
    calm_of_isFlat rfl (List.forall_mem_singleton.2 (isEndWord_toString _))
  rw [String.toList_append, lexemes_toString _ apart]
  refine number.append ?_
  cases order with
  | asc => exact .nil
  | desc => exact calm_of_isFlat (by decide) (by decide)

theorem position_setOff (hd : d.Readable) (terms : List (Nat × SortOrder)) :
    ∀ ps ∈ positionPieces terms, SetOff d isEndWord ps := by
  intro ps hps
  obtain ⟨⟨i, order⟩, -, rfl⟩ := List.mem_map.1 hps
  exact .position hd i order

theorem Compound.ending_tail (hd : d.Readable) (q : Compound) : Tail d isSetWord q.ending :=
  (Tail.clause hd (by decide) (by decide) fun ps hps =>
    (position_setOff hd q.orderBy ps hps).mono isSetWord_of_not_isEndWord).append (.limit hd _ _)

/-! ## The two parts of a query -/

/-- Nothing on the surface of the body ends it, and no set operator is on that of the ending. -/
structure Select.Divided (d : Dialect) (outer : List Scope) (q : Select) : Prop where
  body : SetOff d isEndWord (q.body.pieces outer)
  ending : Tail d isSetWord (q.ending outer)

theorem Select.Divided.whole {outer : List Scope} {q : Select} (h : q.Divided d outer) :
    SetOff d isSetWord (q.pieces outer) := by
  rw [Select.pieces_body]
  exact (h.body.mono isSetWord_of_not_isEndWord).append h.ending

/-! ## Expressions and queries -/

mutual

theorem Expr.setOff (hd : d.Readable) {stop : Lexeme → Bool} (hs : d.Spares stop)
    (scopes : List Scope) :
    (e : Expr) → (∀ l ∈ e.leaves, l.Plain) → SetOff d stop (e.pieces scopes)
  | .column c, h => .column hd hs scopes (h _ (List.mem_singleton_self _))
  | .label name, h => .name hd hs (h _ (List.mem_singleton_self _))
  | .bind p, _ => .slot hd hs p
  | .countRows, _ => .quiet hd (by decide) (calm_countRows.mono hs.expression)
  | .compare op lhs rhs, h => by
    rw [Expr.leaves, List.forall_mem_append] at h
    exact (lhs.setOff hd hs scopes h.1 |>.operand hd hs _).append
      (.keyword hd hs (by cases op <;> decide) (rhs.setOff hd hs scopes h.2 |>.operand hd hs _))
  | .binary op lhs rhs, h => by
    rw [Expr.leaves, List.forall_mem_append] at h
    exact (lhs.setOff hd hs scopes h.1 |>.operand hd hs _).append
      (.keyword hd hs (by cases op <;> decide) (rhs.setOff hd hs scopes h.2 |>.operand hd hs _))
  | .like negated e pattern escape, h => by
    simp only [Expr.leaves, List.forall_mem_append] at h
    have operands := (pattern.setOff hd hs scopes h.1.2 |>.operand hd hs
      (pattern.precedence ≤ predicateLevel)).append (escape_tail hd hs scopes escape h.2)
    simp only [Expr.pieces, List.append_assoc]
    exact (e.setOff hd hs scopes h.1.1 |>.operand hd hs _).append
      (.keyword hd hs (by cases negated <;> decide) operands)
  | .isNull negated e, h => by
    rw [Expr.leaves] at h
    exact (e.setOff hd hs scopes h |>.operand hd hs _).append
      ⟨.text hd (hs.plain (by cases negated <;> decide)),
        .cons_text (by cases negated <;> decide) []⟩
  | .not e, h => by
    rw [Expr.leaves] at h
    exact .cons_text hd (hs.plain (by decide)) (by decide)
      (e.setOff hd hs scopes h |>.operand hd hs _)
  | .cast e type, h => by
    rw [Expr.leaves, List.forall_mem_append, List.forall_mem_singleton] at h
    exact .bracket hd (by decide) (by decide) (opening_cast.mono hs.expression)
      (e.setOff hd hs scopes h.1) (quiet_castType h.2) (beginsOff_castType type)
      (closing_castType h.2)
  | .between negated e low high, h => by
    simp only [Expr.leaves, List.forall_mem_append] at h
    have bounds := (low.setOff hd hs scopes h.1.2 |>.operand hd hs
      (low.precedence ≤ predicateLevel)).append (.keyword hd hs (s := " AND ") (by decide)
        (high.setOff hd hs scopes h.2 |>.operand hd hs (high.precedence ≤ predicateLevel)))
    simp only [Expr.pieces, List.append_assoc]
    exact (e.setOff hd hs scopes h.1.1 |>.operand hd hs _).append
      (.keyword hd hs (by cases negated <;> decide) bounds)
  | .inList negated e [], _ => .text hd (hs.plain (by cases negated <;> decide))
  | .inList negated e (item :: items), h => by
    rw [Expr.leaves, List.forall_mem_append, listLeaves, List.forall_mem_append] at h
    have list := SetOff.separated hd (s := ", ") (hs.between (by decide))
      (List.forall_mem_cons.2
        ⟨item.setOff hd hs scopes h.2.1, list_setOff hd hs scopes items h.2.2⟩)
    -- The list is between the parentheses of two texts, with the operand in front of the first.
    have bracket := list.bracket hd (quiet_negatable negated (by decide))
      (by cases negated <;> decide) ((opening_inList negated).mono hs.expression) (by decide)
      (by decide) closing_bracket
    simp only [Expr.pieces, List.append_assoc]
    exact (e.setOff hd hs scopes h.1 |>.operand hd hs _).append
      ⟨bracket, .cons_text (by cases negated <;> decide) _⟩
  | .inQuery negated e query, h => by
    rw [Expr.leaves, List.forall_mem_append] at h
    exact (e.setOff hd hs scopes h.1 |>.operand hd hs _).append
      (.keyword hd hs (by cases negated <;> decide)
        ((query.divided hd scopes h.2).whole.nested hd hs.bracket))
  | .existsIn negated query, h => by
    rw [Expr.leaves] at h
    exact .cons_text hd (hs.plain (by cases negated <;> decide)) (by cases negated <;> decide)
      ((query.divided hd scopes h).whole.nested hd hs.bracket)
  | .scalar query, h => (query.divided hd scopes h).whole.nested hd hs.bracket
  | .logical op [], _ => .text hd (hs.plain (by cases op <;> decide))
  | .logical op (e :: operands), h => by
    rw [Expr.leaves, listLeaves, List.forall_mem_append] at h
    exact .separated hd (hs.between (by cases op <;> decide)) (List.forall_mem_cons.2
      ⟨e.setOff hd hs scopes h.1 |>.operand hd hs _,
        operand_setOff hd hs op scopes operands h.2⟩)
  | .call f distinct args, h => by
    rw [Expr.leaves] at h
    have list := SetOff.separated hd (s := ", ") (hs.between (by decide))
      (list_setOff hd hs scopes args h)
    exact list.bracket hd (quiet_call f distinct) (by cases f <;> cases distinct <;> decide)
      ((opening_call f distinct).mono hs.expression) (by decide) (by decide) closing_bracket

theorem list_setOff (hd : d.Readable) {stop : Lexeme → Bool} (hs : d.Spares stop)
    (scopes : List Scope) :
    (es : List Expr) → (∀ l ∈ listLeaves es, l.Plain) →
      ∀ ps ∈ listPieces scopes es, SetOff d stop ps
  | [], _ => List.forall_mem_nil _
  | e :: es, h => by
    rw [listLeaves, List.forall_mem_append] at h
    exact List.forall_mem_cons.2 ⟨e.setOff hd hs scopes h.1, list_setOff hd hs scopes es h.2⟩

theorem operand_setOff (hd : d.Readable) {stop : Lexeme → Bool} (hs : d.Spares stop)
    (op : LogicalOp) (scopes : List Scope) :
    (es : List Expr) → (∀ l ∈ listLeaves es, l.Plain) →
      ∀ ps ∈ logicalPieces op scopes es, SetOff d stop ps
  | [], _ => List.forall_mem_nil _
  | e :: es, h => by
    rw [listLeaves, List.forall_mem_append] at h
    exact List.forall_mem_cons.2
      ⟨e.setOff hd hs scopes h.1 |>.operand hd hs _, operand_setOff hd hs op scopes es h.2⟩

theorem escape_tail (hd : d.Readable) {stop : Lexeme → Bool} (hs : d.Spares stop)
    (scopes : List Scope) :
    (escape : Option Expr) → (∀ l ∈ optionLeaves escape, l.Plain) →
      Tail d stop (escapePieces scopes escape)
  | none, _ => .nil
  | some e, h => .keyword hd hs (by decide) (e.setOff hd hs scopes h |>.operand hd hs _)

theorem condition_tail (hd : d.Readable) {stop : Lexeme → Bool} (hs : d.Spares stop) {k : String}
    (hk : isInfix stop k = true) (scopes : List Scope) :
    (e : Option Expr) → (∀ l ∈ optionLeaves e, l.Plain) →
      Tail d stop (conditionPieces k scopes e)
  | none, _ => .nil
  | some e, h => .cons_text hd hk (e.setOff hd hs scopes h)

theorem item_setOff (hd : d.Readable) (scopes : List Scope) :
    (items : List ResultItem) → (∀ l ∈ itemLeaves items, l.Plain) →
      ∀ ps ∈ itemPieces scopes items, SetOff d isEndWord ps
  | [], _ => List.forall_mem_nil _
  | .column c :: rest, h => by
    rw [itemLeaves, List.forall_mem_cons] at h
    exact List.forall_mem_cons.2
      ⟨.qualified hd hd.spares h.1.qualifier h.1.name, item_setOff hd scopes rest h.2⟩
  | .labelled key e type :: rest, h => by
    rw [itemLeaves, List.cons_append, List.forall_mem_cons, List.forall_mem_append] at h
    exact List.forall_mem_cons.2
      ⟨e.setOff hd hd.spares scopes h.2.1, item_setOff hd scopes rest h.2.2⟩

theorem sort_setOff (hd : d.Readable) (scopes : List Scope) :
    (terms : List SortTerm) → (∀ l ∈ sortLeaves terms, l.Plain) →
      ∀ ps ∈ sortPieces scopes terms, SetOff d isSetWord ps
  | [], _ => List.forall_mem_nil _
  | ⟨e, order⟩ :: rest, h => by
    rw [sortLeaves, List.forall_mem_append] at h
    have term := (e.setOff hd hd.spares scopes h.1).mono isSetWord_of_not_isEndWord
    exact List.forall_mem_cons.2
      ⟨term.append (.sortOrder hd order), sort_setOff hd scopes rest h.2⟩

theorem Select.divided (hd : d.Readable) (outer : List Scope) :
    (q : Select) → (∀ l ∈ q.leaves, l.Plain) → q.Divided d outer
  | ⟨source, distinct, items, filter, groupBy, having, orderBy, limit, offset, errors⟩, h => by
    simp only [Select.leaves, List.forall_mem_append] at h
    obtain ⟨⟨⟨⟨⟨⟨⟨hs, hi⟩, hf⟩, hg⟩, hh⟩, ho⟩, -⟩, -⟩ := h
    have list := SetOff.start hd hs hi
      (item_setOff hd (.ofSource source :: outer) items hi) distinct errors
    have filtered := (list.append (from_tail hd (.ofSource source :: outer) source hs)).append
      (condition_tail hd hd.spares (k := " WHERE ") (by decide) (.ofSource source :: outer)
        filter hf)
    have grouped := (filtered.append (.clause hd (k := " GROUP BY ") (by decide) (by decide)
      (list_setOff hd hd.spares (.ofSource source :: outer) groupBy hg))).append
      (condition_tail hd hd.spares (k := " HAVING ") (by decide) (.ofSource source :: outer)
        having hh)
    constructor
    · simp only [Select.body, Select.pieces_eq, sortPieces, clausePieces, limitPieces,
        List.append_nil]
      exact grouped
    · exact (Tail.clause hd (by decide) (by decide)
        (sort_setOff hd (.ofSource source :: outer) orderBy ho)).append (.limit hd limit offset)

theorem from_tail (hd : d.Readable) (scopes : List Scope) :
    (s : Level) → (∀ l ∈ fromLeaves s, l.Plain) → Tail d isEndWord (fromPieces scopes s)
  | none, _ => .nil
  | some s, h => .cons_text hd (by decide) (s.setOff hd scopes h)

theorem branch_tail (hd : d.Readable) (scopes : List Scope) :
    (branches : List Branch) → (∀ l ∈ branchLeaves branches, l.Plain) →
      Tail d (fun _ => false) (branchPieces scopes branches)
  | [], _ => .nil
  | ⟨operator, query⟩ :: rest, h => by
    rw [branchLeaves, List.forall_mem_append] at h
    have first : SetOff d (fun _ => false) (query.pieces scopes) :=
      (query.divided hd scopes h.1).whole.mono fun _ _ => rfl
    exact .cons_text hd (by cases operator <;> decide)
      (first.append (branch_tail hd scopes rest h.2))

theorem Query.setOff (hd : d.Readable) (scopes : List Scope) :
    (q : Query) → (∀ l ∈ q.leaves, l.Plain) → SetOff d (fun _ => false) (q.pieces scopes)
  | .select q, h => (q.divided hd scopes h).whole.mono fun _ _ => rfl
  | .compound ⟨first, branches, orderBy, limit, offset, errors⟩, h => by
    simp only [Query.leaves, List.forall_mem_append] at h
    have start : SetOff d (fun _ => false) (first.pieces scopes) :=
      (first.divided hd scopes h.1.1.1).whole.mono fun _ _ => rfl
    have ending := Compound.ending_tail hd ⟨first, branches, orderBy, limit, offset, errors⟩
    rw [Compound.pieces_ending]
    refine ((start.append (branch_tail hd scopes branches h.1.1.2)).append ?_).silent
      (sqlText_faults errors)
    exact ⟨ending.mono fun _ _ => rfl, ending.loose⟩

theorem Relation.setOff (hd : d.Readable) {stop : Lexeme → Bool} (hs : d.Spares stop)
    (scopes : List Scope) :
    (r : Relation) → (∀ l ∈ r.leaves, l.Plain) → SetOff d stop (r.pieces scopes)
  | .table t, h => .name hd hs (h (.table t) (List.mem_singleton_self _)).1
  | .view id name _, h => .name hd hs (h (.named id name) List.mem_cons_self)
  | .subquery _ query, h =>
    (query.setOff hd scopes fun l hl => h l (List.mem_cons_of_mem _ hl)).nested hd hs.bracket

theorem Source.setOff (hd : d.Readable) (scopes : List Scope) :
    (s : Source) → (∀ l ∈ s.leaves, l.Plain) → SetOff d isEndWord (s.pieces scopes)
  | .relation r, h => r.setOff hd hd.spares scopes h
  | .alias id name r, h => by
    rw [Source.leaves, List.forall_mem_cons] at h
    exact (r.setOff hd hd.spares scopes h.2).append
      (.cons_text hd (by decide) (.name hd hd.spares h.1))
  | .join kind lhs rhs on, h => by
    simp only [Source.leaves, List.forall_mem_append] at h
    have joined := (lhs.setOff hd scopes h.1.1).append (.cons_text hd (s := " " ++ kind.sql ++ " ")
      (by cases kind <;> decide) (rhs.setOff hd scopes h.1.2 |>.guarded hd rfl rhs.isJoin))
    have all := joined.append (condition_tail hd hd.spares (k := " ON ") (by decide) scopes on h.2)
    simp only [Source.pieces, List.append_assoc] at all ⊢
    exact all.silent (sqlText_faults _)

end

end TypedSql
