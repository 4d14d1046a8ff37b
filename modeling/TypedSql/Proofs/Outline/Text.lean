import TypedSql.Proofs.Outline.Calls

/-!
# Values never reach the text

**Theorem (`SameCalls.same_text`).** Two statements put together by the same calls, with whatever
plain values, are written by the same text. The text is shown by the seed, or by the error of a
value that cannot be stored; without a mistake in putting the statements together, both builds show
it. Where both give a seed, the slots agree in number, kind, storage class and token, and the result
columns in their names.

The text and all that is compared of a seed is read off the outline of the statement, which the
calls determine.
-/

namespace TypedSql

/-! ## What a build shows -/

/-- The text a build shows: that of the seed, or of the statement whose value was rejected. -/
def shownText : Except Error Seed → Option String
  | .ok seed => some seed.sql
  | .error (.bind _ _ sql _) => some sql
  | .error _ => none

/-- What two slots have to agree in, whatever their presets and nullability. -/
def Slot.signature (x : Slot) : String × StorageClass × Option ParamId :=
  (x.type.name, x.type.storageClass, x.param)

theorem eq_of_shownText_ofPieces {sql text : String} {ps : List Piece}
    {columns : List ResultColumn} (h : shownText (Seed.ofPieces sql ps columns) = some text) :
    text = sql := by
  unfold Seed.ofPieces at h
  split at h <;> cases h <;> rfl

/-- The first mistake in putting a statement together does not depend on values. -/
theorem Piece.schemaError?_outline (ps : List Piece) :
    Piece.schemaError? (ps.map Piece.outline) = Piece.schemaError? ps := by
  simp only [schemaError?, faults]
  generalize 0 = index
  induction ps generalizing index with
  | nil => rfl
  | cons p rest ih =>
    cases p with
    | fault e => rfl
    | slot p =>
      have stored : ∃ v, p.outline.presetValue = .ok v := by
        cases p <;> exact ⟨_, rfl⟩
      obtain ⟨v, stored⟩ := stored
      simp only [List.map_cons, outline, faultsFrom, stored, ih]
      cases p.presetValue <;> rfl
    | text s => exact ih index
    | name n => exact ih index
    | enter => exact ih index
    | leave => exact ih index

/-- Without such a mistake, a build shows the text. -/
theorem shownText_ofPieces {ps : List Piece} (h : Piece.schemaError? ps = none) (sql : String)
    (columns : List ResultColumn) : shownText (Seed.ofPieces sql ps columns) = some sql := by
  unfold Seed.ofPieces
  split
  · rfl
  · next e rest faults =>
    simp [Piece.schemaError?, faults] at h
  · rfl

theorem Placeholder.slot_signature_outline (p : Placeholder) :
    p.outline.slot.signature = p.slot.signature := by
  simp [Slot.signature, Placeholder.slot]

/-! ## Two runs -/

/-- **Values never reach the text.** -/
theorem SameCalls.same_text {s s' : Statement} (h : SameCalls .statement s s') {p p' : Pool}
    (hp : p.Clean) (hp' : p'.Clean) (d : Dialect) :
    (∀ text text', shownText (s.buildWith p d).1 = some text →
        shownText (s'.buildWith p' d).1 = some text' → text = text')
      ∧ (Piece.schemaError? s.pieces = none → ∃ text,
        shownText (s.buildWith p d).1 = some text ∧ shownText (s'.buildWith p' d).1 = some text)
      ∧ ∀ seed seed' q q', s.buildWith p d = (.ok seed, q) →
        s'.buildWith p' d = (.ok seed', q') →
        seed.params.map Slot.signature = seed'.params.map Slot.signature
          ∧ seed.columns.map ResultColumn.name = seed'.columns.map ResultColumn.name := by
  have outline : s.outline = s'.outline := h.outline_eq
  have pieces : s.pieces.map Piece.outline = s'.pieces.map Piece.outline := by
    rw [← s.pieces_outline, ← s'.pieces_outline, outline]
  have text : (p.write d s.pieces).1 = (p'.write d s'.pieces).1 := by
    rw [Statement.write_eq hp, Statement.write_eq hp', ← Piece.sqlText_outline d s.pieces, pieces,
      Piece.sqlText_outline]
  have mistakes : Piece.schemaError? s.pieces = Piece.schemaError? s'.pieces := by
    rw [← Piece.schemaError?_outline s.pieces, pieces, Piece.schemaError?_outline]
  refine ⟨fun t t' shown shown' => ?_, fun none => ?_, fun seed seed' q q' built built' => ?_⟩
  · rw [s.buildWith_eq] at shown
    rw [s'.buildWith_eq] at shown'
    exact (eq_of_shownText_ofPieces shown).trans
      (text.trans (eq_of_shownText_ofPieces shown').symm)
  · rw [s.buildWith_eq, s'.buildWith_eq]
    exact ⟨_, shownText_ofPieces none _ _,
      (shownText_ofPieces (mistakes ▸ none) _ _).trans (congrArg some text.symm)⟩
  · obtain ⟨-, -, slots, columns⟩ := Statement.sql_eq hp built
    obtain ⟨-, -, slots', columns'⟩ := Statement.sql_eq hp' built'
    have same : (Piece.slots s.pieces).map Placeholder.outline
        = (Piece.slots s'.pieces).map Placeholder.outline := by
      rw [← Piece.slots_outline, pieces, Piece.slots_outline]
    have signature : ∀ ps : List Placeholder, (ps.map Placeholder.slot).map Slot.signature
        = (ps.map Placeholder.outline).map fun p => p.slot.signature := by
      intro ps
      simp only [List.map_map]
      exact List.map_congr_left fun p _ => p.slot_signature_outline.symm
    have names : ∀ s : Statement, s.resultColumns.map ResultColumn.name
        = s.outline.resultColumns.map ResultColumn.name := by
      intro s
      rw [s.resultColumns_outline, List.map_map]
      rfl
    rw [slots, slots', columns, columns', signature, signature, same, names, names s', outline]
    exact ⟨rfl, rfl⟩

/-! ### Authors by name -/

def authorTable : Table where
  id := ⟨1⟩
  name := "Author"
  columns := [⟨⟨⟨1⟩, "name"⟩, "Author", ⟨_, ⟨.text, false⟩⟩, {}, []⟩]

/-- A name is not NULL. -/
def authorName : Column .text :=
  ⟨⟨⟨⟨1⟩, "name"⟩, "Author", ⟨_, ⟨.text, false⟩⟩, {}, []⟩, ⟨.text, false⟩⟩

/-- At most `n` authors of one name that matches a pattern. -/
def authorsNamed (name : Option String) (pattern : String) (escape : Char) (n : Int64) :
    Statement :=
  let named := authorName.toExpression.compare .eq (.value name)
  let matching := authorName.toExpression.likeEscape (.value (some pattern)) escape
  let authors := (Select.empty.fromSource (.relation (.table authorTable))).column authorName
  .query (.select ((authors.andWhere (named.and matching)).withLimit (rowCount n)))

theorem sameCalls_authorsNamed (name name' : Option String) (pattern pattern' : String)
    (escape escape' : Char) (n n' : Int64) :
    SameCalls .statement (authorsNamed name pattern escape n)
      (authorsNamed name' pattern' escape' n') := by
  have column := SameCalls.ofColumn (.column authorName)
  have authors := SameCalls.selectColumn (.fromSource .empty (.table authorTable))
    (.column authorName)
  exact .query (.ofSelect (.limit (.andWhere authors (.and (.compare .eq column (.value _ _))
    (.likeEscape _ _ column (.value _ _)))) (.rowCount _ _)))

/-- A hostile name is stored, NULL is rejected; the text is the same. -/
theorem same_text_of_authorsNamed :
    ∃ text, shownText (authorsNamed (some "x' OR ''='") "50!%" '!' 10).build = some text
      ∧ shownText (authorsNamed none "%" '~' (-1)).build = some text
      ∧ text = "SELECT Author.name FROM Author WHERE Author.name = ? "
        ++ "AND Author.name LIKE ? ESCAPE ? LIMIT ?"
      ∧ (authorsNamed (some "x' OR ''='") "50!%" '!' 10).build.toOption.isSome = true
      ∧ (authorsNamed none "%" '~' (-1)).build.toOption.isSome = false := by
  obtain ⟨-, shown, -⟩ := (sameCalls_authorsNamed (some "x' OR ''='") none "50!%" "%" '!' '~' 10
    (-1)).same_text (Pool.clean_new {}) (Pool.clean_new {}) .generic
  obtain ⟨text, first, second⟩ := shown (by decide)
  refine ⟨text, first, second, ?_, by decide, by decide⟩
  have written : shownText (authorsNamed (some "x' OR ''='") "50!%" '!' 10).build
      = some ("SELECT Author.name FROM Author WHERE Author.name = ? "
        ++ "AND Author.name LIKE ? ESCAPE ? LIMIT ?") := by decide
  exact Option.some.inj (first.symm.trans written)

end TypedSql
