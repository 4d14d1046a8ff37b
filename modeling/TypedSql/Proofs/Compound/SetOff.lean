import TypedSql.Proofs.Compound.Lexeme
import TypedSql.Proofs.Render.Text

/-!
# Pieces set off from one another

The words of rendered pieces are read piece by piece. Where a word ends, the next piece begins with
a blank, a parenthesis, a comma or a dot.

`SetOff` says that pieces are read by themselves and that nothing a reader stops at is on their
surface; a `Tail` may in addition stand behind anything. Both compose along `++`, so that the
clauses of SQL are gone through without looking at characters again.

What a reader stops at depends on what is read: the words that end a query, or those that join
sources. `Dialect.Spares` says that none of them is a name or a placeholder as the dialect writes
it, nor a keyword of expressions.
-/

namespace TypedSql

/-! ## Keywords -/

/-- The words that combine queries. -/
def setWords : List String := ["UNION", "INTERSECT", "EXCEPT"]

/-- The words that begin what a query ends with. -/
def clauseWords : List String := ["ORDER", "LIMIT", "OFFSET"]

namespace Lexeme

def isWordOf (words : List String) : Lexeme → Bool
  | .word w => TypedSql.isWordOf words w
  | _ => false

def isSetWord : Lexeme → Bool := isWordOf setWords

def isClauseWord : Lexeme → Bool := isWordOf clauseWords

/-- The word ends the body of a query. -/
def isEndWord (l : Lexeme) : Bool := l.isSetWord || l.isClauseWord

theorem isSetWord_of_not_isEndWord (l : Lexeme) (h : l.isEndWord = false) :
    l.isSetWord = false :=
  (Bool.or_eq_false_iff.1 h).1

theorem isClauseWord_of_not_isEndWord (l : Lexeme) (h : l.isEndWord = false) :
    l.isClauseWord = false :=
  (Bool.or_eq_false_iff.1 h).2

end Lexeme

open Lexeme

/-- Whoever knows how the dialect quotes names can read what it writes. -/
structure Dialect.Readable (d : Dialect) : Prop where
  quotes : d.Quotes
  /-- The quote stands in no name and no keyword. -/
  quote : isSqlChar d.quote = false
  unquoted : d.quote ∉ d.placeholder.toList
  flat : isFlat (lexemes d.quote d.placeholder.toList) = true
  unended : ∀ l ∈ lexemes d.quote d.placeholder.toList, l.isEndWord = false
  /-- Names like the words that end a query are quoted. -/
  reserved : ∀ n, (Lexeme.word n).isEndWord = true → d.isReserved n = true

/-- Words of a list are words of a longer one. -/
theorem isWordOf_mono {words more : List String} (h : words ⊆ more) {n : String}
    (hn : isWordOf words n = true) : isWordOf more n = true := by
  obtain ⟨w, mem, same⟩ := List.any_eq_true.1 hn
  exact List.any_eq_true.2 ⟨w, h mem, same⟩

theorem Lexeme.isWordOf_mono {words more : List String} (h : words ⊆ more) (l : Lexeme)
    (other : l.isWordOf more = false) : l.isWordOf words = false := by
  cases l with
  | word w =>
    exact Bool.eq_false_iff.2 fun found =>
      Bool.eq_false_iff.1 other (TypedSql.isWordOf_mono h found)
  | quoted n => rfl
  | sign c => rfl

theorem isReserved_of_isEndWord {n : String} (h : (Lexeme.word n).isEndWord = true) :
    isWordOf reservedWords n = true := by
  rcases Bool.or_eq_true_iff.1 h with combining | closing
  · exact isWordOf_mono (by decide) combining
  · exact isWordOf_mono (by decide) closing

/-- The dialect quotes every keyword of standard SQL, and no keyword is in its placeholder. -/
structure Dialect.Conforming (d : Dialect) : Prop where
  quotes : d.Quotes
  quote : isSqlChar d.quote = false
  unquoted : d.quote ∉ d.placeholder.toList
  flat : isFlat (lexemes d.quote d.placeholder.toList) = true
  slot : ∀ l ∈ lexemes d.quote d.placeholder.toList, l.isWordOf reservedWords = false
  reserved : ∀ n, isWordOf reservedWords n = true → d.isReserved n = true

theorem Dialect.Conforming.readable {d : Dialect} (hd : d.Conforming) : d.Readable where
  quotes := hd.quotes
  quote := hd.quote
  unquoted := hd.unquoted
  flat := hd.flat
  unended l hl := Bool.or_eq_false_iff.2
    ⟨l.isWordOf_mono (by decide) (hd.slot l hl), l.isWordOf_mono (by decide) (hd.slot l hl)⟩
  reserved n ends := hd.reserved n (isReserved_of_isEndWord ends)

theorem Dialect.conforming_generic : Dialect.generic.Conforming :=
  ⟨fun _ => rfl, by decide, by decide, by decide, by decide, fun _ h => h⟩

/-- Names between bars are not told apart from concatenation; all other dialects can be read. -/
theorem Dialect.conforming_of_named? {name : String} {d : Dialect}
    (h : Dialect.named? name = some d) (bars : d.quote ≠ '|') : d.Conforming := by
  have known := List.mem_of_find?_eq_some h
  simp only [List.mem_cons, List.not_mem_nil, or_false] at known
  rcases known with rfl | rfl | rfl | rfl
  · exact conforming_generic
  · exact ⟨fun _ => rfl, by decide, by decide, by decide, by decide,
      fun _ h => Bool.or_eq_true_iff.2 (.inl h)⟩
  · exact ⟨fun _ => rfl, by decide, by decide, by decide, by decide, fun _ h => h⟩
  · exact absurd rfl bars

theorem Dialect.readable_generic : Dialect.generic.Readable := conforming_generic.readable

theorem Dialect.readable_of_named? {name : String} {d : Dialect}
    (h : Dialect.named? name = some d) (bars : d.quote ≠ '|') : d.Readable :=
  (conforming_of_named? h bars).readable

/-! ## Readers who pass over expressions -/

/-- The keywords of expressions, but for those that only stand in parentheses. -/
def expressionWords : List String :=
  ["AND", "OR", "NOT", "TRUE", "FALSE", "IS", "NULL", "LIKE", "ESCAPE", "BETWEEN", "IN", "EXISTS",
    "CAST", "COUNT", "SUM", "AVG", "MIN", "MAX", "ABS", "LOWER", "UPPER", "LENGTH", "COALESCE"]

/-- The lexeme is neither a sign nor a keyword of expressions. -/
def Lexeme.isForeign : Lexeme → Bool
  | .word w => !expressionWords.contains w
  | .quoted _ => true
  | .sign _ => false

/-- The reader stops at nothing that the dialect writes on the surface of an expression. -/
structure Dialect.Spares (d : Dialect) (stop : Lexeme → Bool) : Prop where
  expression : ∀ l : Lexeme, l.isForeign = false → stop l = false
  quoted : ∀ n, stop (.quoted n) = false
  name : ∀ n, d.isReserved n = false → stop (.word n) = false
  slot : ∀ l ∈ lexemes d.quote d.placeholder.toList, stop l = false

variable {d : Dialect} {stop : Lexeme → Bool} {ps qs : List Piece} {s t : String}

theorem Dialect.Spares.bracket (hs : d.Spares stop) : stop (.sign '(') = false :=
  hs.expression _ rfl

/-- Keywords of expressions are none of the words. -/
theorem isWordOf_of_not_isForeign {ws : List String}
    (apart : ∀ w ∈ expressionWords, TypedSql.isWordOf ws w = false) (l : Lexeme)
    (h : l.isForeign = false) : l.isWordOf ws = false := by
  cases l with
  | word w =>
    simp only [isForeign, Bool.not_eq_false', List.contains_iff_mem] at h
    exact apart w h
  | quoted n => rfl
  | sign c => rfl

theorem Dialect.Readable.spares (hd : d.Readable) : d.Spares isEndWord where
  expression l h := Bool.or_eq_false_iff.2
    ⟨isWordOf_of_not_isForeign (by decide) l h, isWordOf_of_not_isForeign (by decide) l h⟩
  quoted _ := rfl
  name n unreserved := Bool.eq_false_iff.2 fun ends =>
    Bool.eq_false_iff.1 unreserved (hd.reserved n ends)
  slot := hd.unended

/-- A reader of keywords passes over expressions, if it is after none of theirs. -/
theorem Dialect.Conforming.spares (hd : d.Conforming) {ws : List String}
    (known : ws ⊆ reservedWords)
    (apart : ∀ w ∈ expressionWords, TypedSql.isWordOf ws w = false) :
    d.Spares (Lexeme.isWordOf ws) where
  expression := isWordOf_of_not_isForeign apart
  quoted _ := rfl
  name n unreserved := Bool.eq_false_iff.2 fun found =>
    Bool.eq_false_iff.1 unreserved (hd.reserved n (TypedSql.isWordOf_mono known found))
  slot l hl := l.isWordOf_mono known (hd.slot l hl)

/-! ## The words of a row of pieces -/

/-- The lexemes of the text of the pieces. -/
def words (d : Dialect) (ps : List Piece) : List Lexeme :=
  lexemes d.quote (Piece.sqlText d ps).toList

/-- The pieces are read by themselves if no word goes on behind them. -/
def Isolated (d : Dialect) (ps : List Piece) : Prop :=
  ∀ rest, Apart rest →
    lexemes d.quote ((Piece.sqlText d ps).toList ++ rest) = words d ps ++ lexemes d.quote rest

/-- No word goes on in the pieces. -/
def Loose (d : Dialect) (ps : List Piece) : Prop :=
  ∀ rest, Apart rest → Apart ((Piece.sqlText d ps).toList ++ rest)

/-- The pieces are read by themselves, and nothing a reader stops at is on their surface. -/
structure SetOff (d : Dialect) (stop : Lexeme → Bool) (ps : List Piece) : Prop where
  isolated : Isolated d ps
  calm : Calm stop (words d ps)

/-- The pieces are read by themselves wherever they stand. -/
structure Tail (d : Dialect) (stop : Lexeme → Bool) (ps : List Piece) : Prop
    extends SetOff d stop ps where
  loose : Loose d ps

/-- The text is made of words and signs, without parentheses and stops. -/
def isPlain (stop : Lexeme → Bool) (s : String) : Bool :=
  s.toList.all isSqlChar
    && isFlat (lexemes '"' s.toList)
    && (lexemes '"' s.toList).all fun l => !stop l

/-- The text begins with no character of a word. -/
def beginsOff (s : String) : Bool := s.toList.head?.any fun c => !isNameRest c

/-- The text ends with no character of a word. -/
def endsOff (s : String) : Bool := s.toList.getLast?.any fun c => !isNameRest c

/-- The text can stand between any two pieces. -/
def isInfix (stop : Lexeme → Bool) (s : String) : Bool :=
  isPlain stop s && beginsOff s && endsOff s

theorem toList_sqlText_append (ps qs : List Piece) (rest : List Char) :
    (Piece.sqlText d (ps ++ qs)).toList ++ rest
      = (Piece.sqlText d ps).toList ++ ((Piece.sqlText d qs).toList ++ rest) := by
  rw [Piece.sqlText_append, String.toList_append, List.append_assoc]

theorem toList_sqlText_cons (s : String) (ps : List Piece) :
    (Piece.sqlText d (.text s :: ps)).toList = s.toList ++ (Piece.sqlText d ps).toList := by
  rw [Piece.sqlText_cons, String.toList_append, Piece.sql]

theorem toList_sqlText_text (s : String) :
    (Piece.sqlText d [.text s]).toList = s.toList := by
  simp [Piece.sqlText, Piece.sql]

/-! ## Composition -/

theorem Loose.append (hp : Loose d ps) (hq : Loose d qs) : Loose d (ps ++ qs) := by
  intro rest h
  rw [toList_sqlText_append]
  exact hp _ (hq rest h)

theorem Isolated.words_append (hp : Isolated d ps) (hq : Loose d qs) :
    words d (ps ++ qs) = words d ps ++ words d qs := by
  have split := hp _ (hq [] apart_nil)
  rwa [← toList_sqlText_append, List.append_nil, List.append_nil] at split

theorem Isolated.append (hp : Isolated d ps) (hq : Isolated d qs) (loose : Loose d qs) :
    Isolated d (ps ++ qs) := by
  intro rest h
  rw [toList_sqlText_append, hp _ (loose rest h), hq rest h, hp.words_append loose,
    List.append_assoc]

theorem SetOff.nil : SetOff d stop [] := ⟨fun _ _ => rfl, .nil⟩

theorem Tail.nil : Tail d stop [] := ⟨.nil, fun _ h => h⟩

theorem SetOff.append (hp : SetOff d stop ps) (hq : Tail d stop qs) : SetOff d stop (ps ++ qs) where
  isolated := hp.isolated.append hq.isolated hq.loose
  calm := by
    rw [hp.isolated.words_append hq.loose]
    exact hp.calm.append hq.calm

theorem Tail.append (hp : Tail d stop ps) (hq : Tail d stop qs) : Tail d stop (ps ++ qs) :=
  ⟨hp.toSetOff.append hq, hp.loose.append hq.loose⟩

theorem SetOff.mono {stop' : Lexeme → Bool} (h : SetOff d stop ps)
    (le : ∀ l, stop l = false → stop' l = false) : SetOff d stop' ps :=
  ⟨h.isolated, h.calm.mono le⟩

theorem words_silent {fs : List Piece} (none : Piece.sqlText d fs = "") (ps : List Piece) :
    words d (fs ++ ps) = words d ps := by
  rw [words, words, Piece.sqlText_append, none, String.empty_append]

/-- Mistakes leave no text. -/
theorem SetOff.silent {fs : List Piece} (h : SetOff d stop ps)
    (none : Piece.sqlText d fs = "") : SetOff d stop (fs ++ ps) := by
  have text : Piece.sqlText d (fs ++ ps) = Piece.sqlText d ps := by
    rw [Piece.sqlText_append, none, String.empty_append]
  constructor
  · simpa only [Isolated, words, text] using h.isolated
  · simpa only [words, text] using h.calm

theorem sqlText_scopeFaults (scopes : List Scope) (c : ColumnRef) :
    Piece.sqlText d (scopeFaults scopes c) = "" := by
  unfold scopeFaults
  split
  · rfl
  · split <;> rfl

/-! ## Texts -/

section Texts

theorem apart_of_beginsOff (h : beginsOff s = true) (rest : List Char) :
    Apart (s.toList ++ rest) := by
  obtain ⟨c, first, other⟩ := (Option.any_eq_true ..).1 h
  obtain ⟨cs, chars⟩ := List.head?_eq_some_iff.1 first
  rw [chars, List.cons_append]
  exact apart_cons (Bool.not_eq_true' _ ▸ other) _

theorem beginsOff_append (h : beginsOff s = true) (t : String) : beginsOff (s ++ t) = true := by
  obtain ⟨c, first, other⟩ := (Option.any_eq_true ..).1 h
  obtain ⟨cs, chars⟩ := List.head?_eq_some_iff.1 first
  rw [beginsOff, String.toList_append, chars]
  exact other

theorem Loose.cons_text (h : beginsOff s = true) (ps : List Piece) : Loose d (.text s :: ps) := by
  intro rest _
  rw [toList_sqlText_cons, List.append_assoc]
  exact apart_of_beginsOff h _

theorem quiet_of_isPlain (h : isPlain stop s = true) :
    Quiet s ∧ Calm stop (lexemes '"' s.toList) := by
  simp only [isPlain, Bool.and_eq_true] at h
  refine ⟨h.1.1, calm_of_isFlat h.1.2 fun l hl => ?_⟩
  simpa using List.all_eq_true.1 h.2 l hl

theorem isPlain_mono {stop' : Lexeme → Bool} (le : ∀ l, stop l = false → stop' l = false)
    (h : isPlain stop s = true) : isPlain stop' s = true := by
  simp only [isPlain, Bool.and_eq_true, List.all_eq_true, Bool.not_eq_true'] at h ⊢
  exact ⟨h.1, fun l hl => le l (h.2 l hl)⟩

theorem isInfix_mono {stop' : Lexeme → Bool} (le : ∀ l, stop l = false → stop' l = false)
    (h : isInfix stop s = true) : isInfix stop' s = true := by
  simp only [isInfix, Bool.and_eq_true] at h ⊢
  exact ⟨⟨isPlain_mono le h.1.1, h.1.2⟩, h.2⟩

variable (hd : d.Readable)

include hd

theorem Quiet.unquoted (h : Quiet s) : d.quote ∉ s.toList := by
  intro mem
  have char := List.all_eq_true.1 h _ mem
  rw [hd.quote] at char
  cases char

/-- A text without names is read alike in every dialect. -/
theorem Quiet.lexemes_eq (h : Quiet s) : lexemes d.quote s.toList = lexemes '"' s.toList := by
  refine lexemesFrom_congr (h.unquoted hd) ?_ []
  exact h.unquoted Dialect.readable_generic

theorem words_text (h : Quiet s) : words d [.text s] = lexemes '"' s.toList := by
  rw [words, toList_sqlText_text, h.lexemes_eq hd]

theorem Isolated.text (h : Quiet s) : Isolated d [.text s] := by
  intro rest apart
  rw [words, toList_sqlText_text]
  exact lexemesFrom_append (h.unquoted hd) apart []

/-- Behind a text that ends no word, a new one begins. -/
theorem lexemes_cons_text (h : Quiet s) (he : endsOff s = true) (cs : List Char) :
    lexemes d.quote (s.toList ++ cs) = lexemes '"' s.toList ++ lexemes d.quote cs := by
  obtain ⟨c, last, other⟩ := (Option.any_eq_true ..).1 he
  rw [lexemes_append_of_getLast last (Bool.not_eq_true' _ ▸ other) (h.unquoted hd), h.lexemes_eq hd]

theorem words_cons_text (h : Quiet s) (he : endsOff s = true) (ps : List Piece) :
    words d (.text s :: ps) = lexemes '"' s.toList ++ words d ps := by
  rw [words, toList_sqlText_cons, lexemes_cons_text hd h he]
  rfl

theorem Isolated.cons_text (h : Quiet s) (he : endsOff s = true) (hp : Isolated d ps) :
    Isolated d (.text s :: ps) := by
  intro rest apart
  rw [words_cons_text hd h he, toList_sqlText_cons, List.append_assoc, lexemes_cons_text hd h he,
    hp rest apart, List.append_assoc]

theorem SetOff.quiet (h : Quiet s) (calm : Calm stop (lexemes '"' s.toList)) :
    SetOff d stop [.text s] :=
  ⟨.text hd h, words_text hd h ▸ calm⟩

theorem SetOff.text (h : isPlain stop s = true) : SetOff d stop [.text s] :=
  .quiet hd (quiet_of_isPlain h).1 (quiet_of_isPlain h).2

theorem SetOff.cons_text (h : isPlain stop s = true) (he : endsOff s = true)
    (hp : SetOff d stop ps) : SetOff d stop (.text s :: ps) := by
  obtain ⟨quiet, calm⟩ := quiet_of_isPlain h
  refine ⟨.cons_text hd quiet he hp.isolated, ?_⟩
  rw [words_cons_text hd quiet he]
  exact calm.append hp.calm

/-- A keyword between blanks, and what follows it. -/
theorem Tail.cons_text (h : isInfix stop s = true) (hp : SetOff d stop ps) :
    Tail d stop (.text s :: ps) := by
  simp only [isInfix, Bool.and_eq_true] at h
  exact ⟨.cons_text hd h.1.1 h.2 hp, .cons_text h.1.2 ps⟩

/-- Between parentheses, anything a reader stops at is passed over. -/
theorem SetOff.bracket {stop' : Lexeme → Bool} (hs : Quiet s) (he : endsOff s = true)
    (ho : Opening stop (lexemes '"' s.toList)) (hp : SetOff d stop' ps) (ht : Quiet t)
    (hb : beginsOff t = true) (hc : Closing (lexemes '"' t.toList)) :
    SetOff d stop (.text s :: (ps ++ [.text t])) := by
  -- The parts by themselves are not calm, so that only their words are put together.
  have loose : Loose d [.text t] := .cons_text hb []
  have inner : Isolated d (ps ++ [.text t]) := hp.isolated.append (.text hd ht) loose
  refine ⟨.cons_text hd hs he inner, ?_⟩
  rw [words_cons_text hd hs he, hp.isolated.words_append loose, words_text hd ht]
  exact .bracket ho hp.calm hc

theorem SetOff.parenthesised {stop' : Lexeme → Bool} (free : stop (.sign '(') = false)
    (hp : SetOff d stop' ps) : SetOff d stop (Piece.parenthesised ps) := by
  refine .bracket hd (by decide) (by decide) ⟨fun _ => rfl, fun _ => rfl, ?_⟩ hp (by decide)
    (by decide) ⟨fun _ => rfl, fun _ => rfl⟩
  exact List.forall_mem_singleton.2 free

theorem SetOff.guarded (free : stop (.sign '(') = false) (needed : Bool)
    (hp : SetOff d stop ps) : SetOff d stop (Piece.guarded needed ps) := by
  cases needed with
  | false => exact hp
  | true => exact hp.parenthesised hd free

omit hd in
theorem sqlText_nested (ps : List Piece) :
    Piece.sqlText d (Piece.nested ps) = Piece.sqlText d (Piece.parenthesised ps) := by
  simp [Piece.nested, Piece.parenthesised, Piece.sqlText, Piece.sql]

/-- A nested query is read like anything else between parentheses. -/
theorem SetOff.nested {stop' : Lexeme → Bool} (free : stop (.sign '(') = false)
    (hp : SetOff d stop' ps) : SetOff d stop (Piece.nested ps) := by
  obtain ⟨isolated, calm⟩ := hp.parenthesised hd free
  constructor
  · simpa only [Isolated, words, sqlText_nested] using isolated
  · simpa only [words, sqlText_nested] using calm

theorem words_parenthesised (hp : Isolated d ps) :
    words d (Piece.parenthesised ps) = .sign '(' :: (words d ps ++ [.sign ')']) := by
  have loose : Loose d [.text ")"] := .cons_text (by decide) []
  rw [Piece.parenthesised, List.cons_append, words_cons_text hd (by decide) (by decide),
    hp.words_append loose, words_text hd (by decide)]
  rfl

theorem words_nested (hp : Isolated d ps) :
    words d (Piece.nested ps) = .sign '(' :: (words d ps ++ [.sign ')']) := by
  rw [words, sqlText_nested]
  exact words_parenthesised hd hp

/-! ## Names and placeholders -/

theorem isNameRest_quote : isNameRest d.quote = false := by
  have other := hd.quote
  rw [isSqlChar, Bool.or_eq_false_iff] at other
  exact other.1

theorem lexemes_name {n : String} (h : isValidName n = true) (rest : List Char)
    (apart : Apart rest) :
    lexemes d.quote ((d.spell n).toList ++ rest)
      = (if d.isReserved n then .quoted n else .word n) :: lexemes d.quote rest := by
  have chars := isNameRest_of_isValidName h
  rw [hd.quotes, quotedIf]
  split
  · have unquoted : d.quote ∉ n.toList := by
      intro mem
      have char := chars _ mem
      rw [isNameRest_quote hd] at char
      cases char
    have text : (d.quote.toString ++ n ++ d.quote.toString).toList ++ rest
        = d.quote :: (n.toList ++ d.quote :: rest) := by simp
    have first : ∀ cs, lexemes d.quote (d.quote :: cs) = lexemesFrom d.quote (.inside []) cs := by
      intro cs
      simp [lexemes, lexemesFrom, isNameRest_quote hd, pendingWord]
    rw [text, first, lexemesFrom_quoted unquoted]
    simp
  · have nonempty : n ≠ "" := by
      rintro rfl
      cases h
    exact lexemes_word nonempty chars apart

omit hd in
theorem Dialect.Spares.plain (hs : d.Spares stop) (h : isPlain isForeign s = true) :
    isPlain stop s = true :=
  isPlain_mono hs.expression h

omit hd in
theorem Dialect.Spares.between (hs : d.Spares stop) (h : isInfix isForeign s = true) :
    isInfix stop s = true :=
  isInfix_mono hs.expression h

/-- A keyword of expressions between blanks, and what follows it. -/
theorem Tail.keyword (hs : d.Spares stop) (h : isInfix isForeign s = true)
    (hp : SetOff d stop ps) : Tail d stop (.text s :: ps) :=
  .cons_text hd (hs.between h) hp

theorem SetOff.operand (hs : d.Spares stop) (needed : Bool) (hp : SetOff d stop ps) :
    SetOff d stop (Piece.guarded needed ps) :=
  hp.guarded hd hs.bracket needed

theorem words_name {n : String} (h : isValidName n = true) :
    words d [.name n] = [if d.isReserved n then .quoted n else .word n] := by
  have alone := lexemes_name hd h [] apart_nil
  rw [List.append_nil] at alone
  rw [words, Piece.sqlText_singleton, Piece.sql, alone]
  rfl

theorem SetOff.name (hs : d.Spares stop) {n : String} (h : isValidName n = true) :
    SetOff d stop [.name n] := by
  constructor
  · intro rest apart
    rw [words_name hd h, Piece.sqlText_singleton, Piece.sql]
    exact lexemes_name hd h rest apart
  · rw [words_name hd h]
    refine calm_of_isFlat (by split <;> rfl) (List.forall_mem_singleton.2 ?_)
    split
    · exact hs.quoted n
    · next unreserved => exact hs.name n (Bool.eq_false_iff.2 unreserved)

theorem SetOff.slot (hs : d.Spares stop) (p : Placeholder) : SetOff d stop [.slot p] := by
  have text : (Piece.sqlText d [.slot p]).toList = d.placeholder.toList := by
    rw [Piece.sqlText_singleton, Piece.sql]
  constructor
  · intro rest apart
    rw [words, text]
    exact lexemesFrom_append hd.unquoted apart []
  · rw [words, text]
    exact calm_of_isFlat hd.flat hs.slot

theorem SetOff.qualified (hs : d.Spares stop) {qualifier n : String}
    (hq : qualifier = "" ∨ isValidName qualifier = true) (hn : isValidName n = true) :
    SetOff d stop (Piece.qualified qualifier n) := by
  unfold Piece.qualified
  split
  · exact .name hd hs hn
  · next filled =>
    have valid : isValidName qualifier = true := by
      rcases hq with rfl | valid
      · exact absurd rfl filled
      · exact valid
    exact (SetOff.name hd hs valid).append
      (.keyword hd hs (by decide) (.name hd hs hn))

/-! ## Rows and clauses -/

theorem SetOff.separated (hs : isInfix stop s = true) {pss : List (List Piece)}
    (h : ∀ ps ∈ pss, SetOff d stop ps) : SetOff d stop (Piece.separated s pss) := by
  induction pss with
  | nil => exact .nil
  | cons ps pss ih =>
    rw [List.forall_mem_cons] at h
    cases pss with
    | nil => exact h.1
    | cons qs pss => exact h.1.append (.cons_text hd hs (ih h.2))

theorem Tail.clause {k : String} (hk : isInfix stop k = true) (comma : isInfix stop ", " = true)
    {pss : List (List Piece)} (h : ∀ ps ∈ pss, SetOff d stop ps) :
    Tail d stop (clausePieces k pss) := by
  cases pss with
  | nil => exact .nil
  | cons ps pss =>
    exact .cons_text hd hk (.separated hd comma h)

theorem Tail.limit (l o : Option Placeholder) : Tail d isSetWord (limitPieces l o) := by
  have slot : ∀ p : Placeholder, SetOff d isSetWord [.slot p] :=
    fun p => (SetOff.slot hd hd.spares p).mono isSetWord_of_not_isEndWord
  cases l with
  | none =>
    cases o with
    | none => exact .nil
    | some o => exact .cons_text hd (by decide) (slot o)
  | some l =>
    cases o with
    | none => exact .cons_text hd (by decide) (slot l)
    | some o =>
      have offset : Tail d isSetWord [.text " OFFSET ", .slot o] :=
        .cons_text hd (by decide) (slot o)
      exact .cons_text hd (by decide) ((slot l).append offset)

end Texts

end TypedSql
