import TypedSql.Proofs.Schema.Crafting
import TypedSql.Proofs.Schema.Literals

/-!
# Entries from the text of a table definition

**Theorem (`Table.entries_eq_of_createSql_eq`).** Two tables with one text of their definitions, in
whatever dialect that quotes names, have the same name and the same entries.

Every part of a definition is delimited: clauses begin with words of their own, and a row of clauses
ends where no space follows; a column is told from the entry of a primary key by its type, even
where it is called PRIMARY and stands without quotes. Of the dialect it is enough that it
quotes names, and that no character of a name is its quote.
-/

namespace TypedSql

variable {d : Dialect}

/-! ## Clauses -/

/-- The words a clause begins with. -/
inductive ClauseLead where
  | primaryKey
  | autoIncrement
  | notNull
  | unique
  | default
  | references
  | onDelete
  | onUpdate
deriving DecidableEq

def ClauseLead.text : ClauseLead → String
  | .primaryKey => " PRIMARY KEY"
  | .autoIncrement => " AUTOINCREMENT"
  | .notNull => " NOT NULL"
  | .unique => " UNIQUE"
  | .default => " DEFAULT "
  | .references => " REFERENCES "
  | .onDelete => " ON DELETE "
  | .onUpdate => " ON UPDATE "

theorem ClauseLead.text_append_inj {l l' : ClauseLead} {r r' : List Char}
    (h : l.text.toList ++ r = l'.text.toList ++ r') : l = l' ∧ r = r' := by
  have free : ∀ l l' : ClauseLead, l.text.toList <+: l'.text.toList → l = l' := by
    intro l l'
    cases l <;> cases l' <;> decide
  exact append_inj_of_prefixFree free h

theorem ForeignKeyAction.sql_append_inj {a a' : ForeignKeyAction} {r r' : List Char}
    (h : a.sql.toList ++ r = a'.sql.toList ++ r') : a = a' ∧ r = r' := by
  have free : ∀ a a' : ForeignKeyAction, a.sql.toList <+: a'.sql.toList → a = a' := by
    intro a a'
    cases a <;> cases a' <;> decide
  exact append_inj_of_prefixFree free h

namespace Clause

def lead : Clause → ClauseLead
  | .primaryKey => .primaryKey
  | .autoIncrement => .autoIncrement
  | .notNull => .notNull
  | .unique => .unique
  | .default _ => .default
  | .references _ _ => .references
  | .onDelete _ => .onDelete
  | .onUpdate _ => .onUpdate

/-- What stands behind the words. -/
def content : Clause → List Piece
  | .default literal => [.text literal]
  | .references table column => [.name table, .text " (", .name column, .text ")"]
  | .onDelete action | .onUpdate action => [.text action.sql]
  | _ => []

theorem chars_pieces (c : Clause) :
    Piece.chars d c.pieces = c.lead.text.toList ++ Piece.chars d c.content := by
  have shape : c.pieces = .text c.lead.text :: c.content := by cases c <;> rfl
  rw [shape, Piece.chars_text]

theorem head_chars (c : Clause) : (Piece.chars d c.pieces).head? = some ' ' := by
  have space : c.lead.text.toList.head? = some ' ' := by cases c.lead <;> rfl
  rw [chars_pieces, List.head?_append, space]
  rfl

/-- The names are valid, and a default is the literal of a value. -/
def Sound : Clause → Prop
  | .default literal => ∃ v : StorageValue, literal = v.literal
  | .references table column => isValidName table = true ∧ isValidName column = true
  | _ => True

/-- Two clauses that begin alike. -/
theorem content_append_inj (hd : d.Delimits) :
    (c c' : Clause) → c.lead = c'.lead → c.Sound → c'.Sound → {r r' : List Char} →
      Begins [' ', ',', ')'] r → Begins [' ', ',', ')'] r' →
        Piece.chars d c.content ++ r = Piece.chars d c'.content ++ r' → c = c' ∧ r = r'
  | .primaryKey, .primaryKey, _, _, _, _, _, _, _, h => ⟨rfl, h⟩
  | .autoIncrement, .autoIncrement, _, _, _, _, _, _, _, h => ⟨rfl, h⟩
  | .notNull, .notNull, _, _, _, _, _, _, _, h => ⟨rfl, h⟩
  | .unique, .unique, _, _, _, _, _, _, _, h => ⟨rfl, h⟩
  | .default l, .default l', _, sound, sound', r, r', hr, hr', h => by
    rw [content, content, Piece.chars_singleton, Piece.chars_singleton] at h
    obtain ⟨rfl, rest⟩ := StorageValue.delimited_literal sound sound' hr hr' h
    exact ⟨rfl, rest⟩
  | .references t c, .references t' c', _, sound, sound', r, r', hr, hr', h => by
    have bracket (rest : List Char) : Apart (" (".toList ++ rest) := apart_cons rfl _
    have closing (rest : List Char) : Apart (")".toList ++ rest) := apart_cons rfl _
    simp only [content, Piece.chars_name, Piece.chars_text, Piece.chars_nil, List.append_nil,
      List.append_assoc] at h
    obtain ⟨rfl, behindTable⟩ :=
      Dialect.delimited_spell hd sound.1 sound'.1 (bracket _) (bracket _) h
    obtain ⟨rfl, behindColumn⟩ := Dialect.delimited_spell hd sound.2 sound'.2 (closing _)
      (closing _) (List.append_cancel_left behindTable)
    exact ⟨rfl, List.append_cancel_left behindColumn⟩
  | .onDelete a, .onDelete a', _, _, _, r, r', _, _, h => by
    rw [content, content, Piece.chars_singleton, Piece.chars_singleton] at h
    obtain ⟨rfl, rest⟩ := ForeignKeyAction.sql_append_inj h
    exact ⟨rfl, rest⟩
  | .onUpdate a, .onUpdate a', _, _, _, r, r', _, _, h => by
    rw [content, content, Piece.chars_singleton, Piece.chars_singleton] at h
    obtain ⟨rfl, rest⟩ := ForeignKeyAction.sql_append_inj h
    exact ⟨rfl, rest⟩

/-- A clause is read back. -/
theorem delimited_pieces (hd : d.Delimits) :
    Delimited Sound (Begins [' ', ',', ')']) fun c => Piece.chars d c.pieces := by
  intro c c' sound sound' r r' hr hr' h
  simp only [chars_pieces, List.append_assoc] at h
  obtain ⟨same, h⟩ := ClauseLead.text_append_inj h
  exact content_append_inj hd c c' same sound sound' hr hr' h

/-- The clauses of a column are read back. -/
theorem delimited_clauses (hd : d.Delimits) :
    Delimited (fun cs : List Clause => ∀ c ∈ cs, c.Sound) (Begins [',', ')'])
      fun cs => cs.flatMap fun c => Piece.chars d c.pieces :=
  (delimited_pieces hd).flatMap head_chars (by decide)

end Clause

/-! ## Entries -/

namespace Entry

/-- The names are valid, the type is one of a kind, and a primary key has a column. -/
def Sound : Entry → Prop
  | .column name type clauses =>
    isValidName name = true ∧ (∃ (t : ValueType) (kind : Kind t), type = kind.declaredType)
      ∧ ∀ c ∈ clauses, c.Sound
  | .primaryKey names => names ≠ [] ∧ ∀ n ∈ names, isValidName n = true

theorem chars_column (name type : String) (clauses : List Clause) :
    Piece.chars d (pieces (.column name type clauses))
      = (d.spell name).toList
        ++ ' ' :: (type.toList ++ clauses.flatMap fun c => Piece.chars d c.pieces) := by
  rw [pieces, Piece.chars_name, Piece.chars_text, Piece.chars_text, Piece.chars_flatMap]
  rfl

theorem chars_primaryKey (names : List String) :
    Piece.chars d (pieces (.primaryKey names))
      = "PRIMARY KEY (".toList
        ++ (Piece.chars d (Piece.separated ", " (names.map fun n => [.name n])) ++ [')']) := by
  have closing : Piece.chars d [.text ")"] = [')'] := Piece.chars_singleton ")"
  rw [pieces, List.cons_append, Piece.chars_text, Piece.chars_append, closing]

theorem declaredType_ne_key {t : ValueType} (kind : Kind t) : kind.declaredType ≠ "KEY" := by
  have stored : ∀ c : StorageClass, c.sql ≠ "KEY" := by
    intro c
    cases c <;> decide
  unfold Kind.declaredType
  split
  case h_6 => exact stored _
  all_goals decide

/-- What stands behind the type of a column. -/
theorem apart_clauses (clauses : List Clause) {r : List Char} (hr : Begins [',', ')'] r) :
    Apart (clauses.flatMap (fun c => Piece.chars d c.pieces) ++ r) :=
  (begins_flatMap Clause.head_chars clauses hr).stops rfl

/-- A column is not taken for the entry of a primary key: no type is called KEY. -/
theorem column_ne_primaryKey (hd : d.Delimits) {name type : String}
    {clauses : List Clause} (sound : Sound (.column name type clauses)) {r rest : List Char}
    (hr : Begins [',', ')'] r) :
    Piece.chars d (pieces (.column name type clauses)) ++ r ≠ "PRIMARY KEY (".toList ++ rest := by
  obtain ⟨valid, ⟨t, kind, rfl⟩, -⟩ := sound
  have words : "PRIMARY KEY (".toList ++ rest
      = "PRIMARY".toList ++ ' ' :: ("KEY".toList ++ " (".toList ++ rest) := rfl
  have primary : isValidName "PRIMARY" = true := rfl
  have key : isValidName "KEY" = true := rfl
  simp only [words, chars_column, List.append_assoc, List.cons_append]
  intro same
  -- A column may be called PRIMARY and stand without quotes; then its type decides.
  cases reserved : d.isReserved name with
  | true =>
    rw [Dialect.toList_spell_of_reserved hd.quotes reserved] at same
    exact Dialect.quote_ne_name hd.sign primary same
  | false =>
    rw [Dialect.toList_spell_of_free hd.quotes reserved] at same
    obtain ⟨-, behindName⟩ :=
      delimited_word valid primary (apart_cons rfl _) (apart_cons rfl _) same
    injection behindName with _ behindName
    obtain ⟨type, -⟩ := delimited_word (isValidName_declaredType kind) key (apart_clauses _ hr)
      (apart_cons rfl _) behindName
    exact declaredType_ne_key kind type

theorem column_append_inj (hd : d.Delimits) {name type name' type' : String}
    {clauses clauses' : List Clause} (sound : Sound (.column name type clauses))
    (sound' : Sound (.column name' type' clauses')) {r r' : List Char}
    (hr : Begins [',', ')'] r) (hr' : Begins [',', ')'] r')
    (h : Piece.chars d (pieces (.column name type clauses)) ++ r
      = Piece.chars d (pieces (.column name' type' clauses')) ++ r') :
    Entry.column name type clauses = .column name' type' clauses' ∧ r = r' := by
  obtain ⟨valid, ⟨t, kind, rfl⟩, sound⟩ := sound
  obtain ⟨valid', ⟨t', kind', rfl⟩, sound'⟩ := sound'
  simp only [chars_column, List.append_assoc, List.cons_append] at h
  obtain ⟨rfl, behindName⟩ :=
    Dialect.delimited_spell hd valid valid' (apart_cons rfl _) (apart_cons rfl _) h
  injection behindName with _ behindName
  obtain ⟨type, behindType⟩ := delimited_word (isValidName_declaredType kind)
    (isValidName_declaredType kind') (apart_clauses _ hr) (apart_clauses _ hr') behindName
  obtain ⟨rfl, rest⟩ := Clause.delimited_clauses hd sound sound' hr hr' behindType
  exact ⟨by rw [type], rest⟩

theorem primaryKey_append_inj (hd : d.Delimits) {names names' : List String}
    (sound : Sound (.primaryKey names)) (sound' : Sound (.primaryKey names')) {r r' : List Char}
    (h : Piece.chars d (pieces (.primaryKey names)) ++ r
      = Piece.chars d (pieces (.primaryKey names')) ++ r') :
    Entry.primaryKey names = .primaryKey names' ∧ r = r' := by
  have name : Delimited (fun n : String => isValidName n = true) (Begins [',', ')'])
      fun n => Piece.chars d [.name n] := by
    intro n n' valid valid' s s' hs hs' same
    simp only [Piece.chars_name, Piece.chars_nil, List.append_nil] at same
    exact Dialect.delimited_spell hd valid valid' (hs.stops rfl) (hs'.stops rfl)
      same
  have closing (s : List Char) : Begins [')'] (')' :: s) := begins_cons List.mem_cons_self s
  rw [chars_primaryKey, chars_primaryKey, List.append_assoc, List.append_assoc, List.append_assoc,
    List.append_assoc] at h
  obtain ⟨rfl, rest⟩ := name.separated (by decide) sound sound' (closing r) (closing r')
    (List.append_cancel_left h)
  injection rest with _ rest
  exact ⟨rfl, rest⟩

/-- An entry is read back. -/
theorem delimited_pieces (hd : d.Delimits) :
    Delimited Sound (Begins [',', ')']) fun e => Piece.chars d e.pieces := by
  intro e e' sound sound' r r' hr hr' h
  cases e with
  | column name type clauses =>
    cases e' with
    | column name' type' clauses' => exact column_append_inj hd sound sound' hr hr' h
    | primaryKey names =>
      simp only [chars_primaryKey, List.append_assoc] at h
      exact absurd h (column_ne_primaryKey hd sound hr)
  | primaryKey names =>
    cases e' with
    | column name type clauses =>
      simp only [chars_primaryKey, List.append_assoc] at h
      exact absurd h.symm (column_ne_primaryKey hd sound' hr')
    | primaryKey names' => exact primaryKey_append_inj hd sound sound' h

end Entry

/-! ## Tables -/

namespace Table

/-- The parts of the definition are such as can be read back. -/
structure Sound (t : Table) : Prop where
  name : isValidName t.name = true
  nonempty : t.entries ≠ []
  entries : ∀ e ∈ t.entries, e.Sound

theorem chars_pieces (t : Table) :
    Piece.chars d t.pieces
      = "CREATE TABLE IF NOT EXISTS ".toList ++ ((d.spell t.name).toList ++ (" (".toList
        ++ (Piece.chars d (Piece.separated ", " (t.entries.map Entry.pieces)) ++ [')']))) := by
  have closing : Piece.chars d [.text ")"] = [')'] := Piece.chars_singleton ")"
  rw [pieces, List.cons_append, List.cons_append, List.cons_append, Piece.chars_text,
    Piece.chars_name, Piece.chars_text, Piece.chars_append, closing]

/-- **The text of a definition determines its entries.** -/
theorem entries_eq_of_createSql_eq (hd : d.Delimits) {t u : Table}
    (ht : t.Sound) (hu : u.Sound) (same : t.createSql d = u.createSql d) :
    t.name = u.name ∧ t.entries = u.entries := by
  have chars : Piece.chars d t.pieces = Piece.chars d u.pieces := by
    rw [t.createSql_eq_sqlText, u.createSql_eq_sqlText] at same
    exact congrArg String.toList same
  have bracket (rest : List Char) : Apart (" (".toList ++ rest) := apart_cons rfl _
  have closing : Begins [')'] [')'] := begins_cons List.mem_cons_self []
  rw [chars_pieces, chars_pieces] at chars
  obtain ⟨name, behindName⟩ := Dialect.delimited_spell hd ht.name hu.name (bracket _)
    (bracket _) (List.append_cancel_left chars)
  obtain ⟨entries, -⟩ := (Entry.delimited_pieces hd).separated (by decide)
    ⟨ht.nonempty, ht.entries⟩ ⟨hu.nonempty, hu.entries⟩ closing closing
    (List.append_cancel_left behindName)
  exact ⟨name, entries⟩

end Table
end TypedSql
