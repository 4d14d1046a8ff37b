import TypedSql.Proofs.Render.Provenance
import TypedSql.Proofs.Render.Text

/-!
# Placeholders in the text

**Theorem (`Statement.placeholders_in_order`).** Where a statement made from built tables is built
for a dialect that marks parameters with a character of their own, the marks found in the text from
left to right are those of the placeholders of the statement, in the order of the clauses, and the
slots of the seed are theirs. The positions of a token are those of the slots that carry it.

The marks are searched for in the text alone. That no keyword and no name can be taken for a mark is
where the validity of names comes in.
-/

namespace TypedSql

/-! ## Searching a text -/

/-- The positions in the text, counted from `i`, at which the mark occurs. The search goes on behind
an occurrence, so that the next `skip` characters are passed over. -/
def occurrencesFrom (mark : List Char) : (skip i : Nat) → List Char → List Nat
  | _, _, [] => []
  | skip + 1, i, _ :: rest => occurrencesFrom mark skip (i + 1) rest
  | 0, i, c :: rest =>
    if mark.isPrefixOf (c :: rest) then
      i :: occurrencesFrom mark (mark.length - 1) (i + 1) rest
    else occurrencesFrom mark 0 (i + 1) rest

/-- The positions at which the mark occurs, from left to right. -/
def occurrences (mark text : String) : List Nat := occurrencesFrom mark.toList 0 0 text.toList

theorem occurrencesFrom_skip (mark : List Char) (i : Nat) (skipped rest : List Char) :
    occurrencesFrom mark skipped.length i (skipped ++ rest)
      = occurrencesFrom mark 0 (i + skipped.length) rest := by
  induction skipped generalizing i with
  | nil => rfl
  | cons c skipped ih =>
      rw [List.length_cons, List.cons_append, occurrencesFrom, ih]
      congr 1
      omega

/-- Text without the first character of the mark is passed over. -/
theorem occurrencesFrom_unmarked {first : Char} {tail : List Char} (i : Nat)
    {text : List Char} (h : first ∉ text) (rest : List Char) :
    occurrencesFrom (first :: tail) 0 i (text ++ rest)
      = occurrencesFrom (first :: tail) 0 (i + text.length) rest := by
  induction text generalizing i with
  | nil => rfl
  | cons c text ih =>
      rw [List.mem_cons, not_or] at h
      have differs : ¬ (first :: tail).isPrefixOf (c :: (text ++ rest)) = true := by
        simp [h.1]
      rw [List.cons_append, occurrencesFrom, if_neg differs, ih _ h.2, List.length_cons]
      congr 1
      omega

/-- The mark itself is found, and the search goes on behind it. -/
theorem occurrencesFrom_mark (first : Char) (tail : List Char) (i : Nat) (rest : List Char) :
    occurrencesFrom (first :: tail) 0 i (first :: tail ++ rest)
      = i :: occurrencesFrom (first :: tail) 0 (i + (first :: tail).length) rest := by
  have found : (first :: tail).isPrefixOf (first :: (tail ++ rest)) = true := by
    simp
  rw [List.cons_append, occurrencesFrom, if_pos found, List.length_cons, Nat.add_sub_cancel,
    occurrencesFrom_skip]
  congr 2
  omega

/-! ## Marks of pieces -/

/-- The placeholders of a row of pieces, each with the position of its mark in the text. -/
def Piece.marks (d : Dialect) (i : Nat) : List Piece → List (Nat × Placeholder)
  | [] => []
  | .slot p :: rest => (i, p) :: marks d (i + d.placeholder.toList.length) rest
  | p :: rest => marks d (i + (p.sql d).toList.length) rest

theorem Piece.marks_snd (d : Dialect) (i : Nat) (ps : List Piece) :
    (Piece.marks d i ps).map Prod.snd = Piece.slots ps := by
  induction ps generalizing i with
  | nil => rfl
  | cons p ps ih =>
      cases p with
      | slot p => exact congrArg (p :: ·) (ih _)
      | text s => exact ih _
      | name n => exact ih _
      | fault e => exact ih _
      | enter => exact ih _
      | leave => exact ih _

/-- Only placeholders contain the character. -/
def Piece.Unmarked (d : Dialect) (first : Char) : Piece → Prop
  | .slot _ => True
  | p => first ∉ (p.sql d).toList

/-- In the text of a row of pieces, exactly the marks of its placeholders are found. -/
theorem Piece.occurrencesFrom_sqlText {d : Dialect} {first : Char} {tail : List Char}
    (hd : d.placeholder.toList = first :: tail) {ps : List Piece}
    (h : ∀ p ∈ ps, p.Unmarked d first) (i : Nat) :
    occurrencesFrom (first :: tail) 0 i (Piece.sqlText d ps).toList
      = (Piece.marks d i ps).map Prod.fst := by
  induction ps generalizing i with
  | nil => rfl
  | cons p ps ih =>
      rw [List.forall_mem_cons] at h
      have passed : first ∉ (p.sql d).toList →
          occurrencesFrom (first :: tail) 0 i ((p.sql d).toList ++ (Piece.sqlText d ps).toList)
            = (Piece.marks d (i + (p.sql d).toList.length) ps).map Prod.fst := by
        intro unmarked
        rw [occurrencesFrom_unmarked i unmarked, ih h.2]
      rw [Piece.sqlText_cons, String.toList_append]
      cases p with
      | slot p =>
          rw [Piece.sql, hd, occurrencesFrom_mark, ih h.2, ← hd]
          rfl
      | text s => exact passed h.1
      | name n => exact passed h.1
      | fault e => exact passed h.1
      | enter => exact passed h.1
      | leave => exact passed h.1

/-! ## Statements -/

/-- The placeholder of a part. -/
def Part.bind? : Part → Option Placeholder
  | .bind p => some p
  | _ => none

/-- The placeholders of a statement in the order of its clauses. -/
def Statement.binds (s : Statement) : List Placeholder := s.parts.filterMap Part.bind?

theorem slots_scopeFaults (scopes : List Scope) (c : ColumnRef) :
    Piece.slots (scopeFaults scopes c) = [] := by
  unfold scopeFaults
  split
  · rfl
  · split <;> rfl

theorem slots_qualified (qualifier name : String) :
    Piece.slots (Piece.qualified qualifier name) = [] := by
  unfold Piece.qualified
  split <;> rfl

/-- Pieces that write parts have the placeholders of the parts, in their order. -/
theorem Written.slots_eq {xs : List Part} {ps : List Piece} (h : Written xs ps) :
    Piece.slots ps = xs.filterMap Part.bind? := by
  induction h with
  | nil => rfl
  | append _ _ ih₁ ih₂ => rw [Piece.slots_append, List.filterMap_append, ih₁, ih₂]
  | text _ => rfl
  | column levels c =>
      rw [Piece.slots_append, slots_scopeFaults, slots_qualified]
      rfl
  | selected c => exact slots_qualified _ _
  | resultName e => rfl
  | name n => rfl
  | bind p => rfl
  | castType type => rfl
  | mistake e => rfl
  | @nested xs ps _ ih =>
      have inside : Piece.slots (Piece.nested ps) = Piece.slots ps := by
        change Piece.slots ([.enter] ++ ps ++ [.leave]) = _
        rw [Piece.slots_append, Piece.slots_append]
        exact List.append_nil _
      rw [inside, ih]

/-! ## Parts with valid names -/

/-- Every name in the part is valid. -/
def Part.Plain : Part → Prop
  | .column _ c | .selected c => c.Plain
  | .resultName e => isValidName e.name = true
  | .name n => isValidName n = true
  | .castType type => isValidName type = true
  | .bind _ | .mistake _ => True

theorem Available.plain {c : ColumnRef} (h : Available Leaf.Plain c) : c.Plain := by
  rcases h with leaf | ⟨s, plain, exposed⟩
  · exact leaf
  · exact Source.columns_plain plain c exposed

theorem Part.Within.plain {R : List Level → Prop} {x : Part} (h : x.Within Leaf.Plain R) :
    x.Plain := by
  cases x with
  | column levels c => exact h.1
  | selected c => exact Available.plain h
  | resultName e =>
      obtain ⟨entry, name, renamed⟩ := e
      refine h.2.valid ?_
      cases entry with
      | column c => exact (Available.plain h.1).name
      | labelled key type => exact h.1
  | name n =>
      obtain ⟨l, plain, carries⟩ := h
      cases l with
      | column c => exact carries ▸ plain.name
      | label m => exact carries ▸ plain
      | table t => exact carries ▸ plain.1
      | named id m => exact carries ▸ plain
      | bind p => cases carries
      | castType type => cases carries
      | anonymous id => cases carries
  | bind p => trivial
  | castType type => exact h
  | mistake e => trivial

/-- The parts of a statement made from built tables have valid names. -/
theorem Statement.Built.plain {s : Statement} (h : s.Built) : ∀ x ∈ s.parts, x.Plain := by
  have leaves : ∀ l ∈ s.leaves, l.Plain := fun l hl => (h l hl).plain
  have within : ∀ x ∈ s.parts, x.Within Leaf.Plain fun _ => True :=
    s.within (fun _ _ _ _ => trivial) leaves (fun _ _ => trivial)
  exact fun x hx => (within x hx).plain

/-! ## Dialects whose marks are distinct -/

/-- The character begins the mark of a parameter, and has no other use in generated text. -/
structure Dialect.Distinguishes (d : Dialect) (first : Char) : Prop where
  quotes : d.Quotes
  mark : ∃ tail, d.placeholder.toList = first :: tail
  sql : isSqlChar first = false
  quote : first ≠ d.quote

variable {d : Dialect} {first : Char}

theorem Dialect.Distinguishes.not_mem (hd : d.Distinguishes first) {s : String} (h : Quiet s) :
    first ∉ s.toList := by
  intro mem
  have used := List.all_eq_true.1 h first mem
  rw [hd.sql] at used
  cases used

theorem quiet_of_isValidName {n : String} (h : isValidName n = true) : Quiet n := by
  refine List.all_eq_true.2 fun c hc => ?_
  rw [isSqlChar, isNameRest_of_isValidName h c hc, Bool.true_or]

theorem Dialect.Distinguishes.not_mem_spell (hd : d.Distinguishes first) {n : String}
    (h : isValidName n = true) : first ∉ (d.spell n).toList := by
  have name : first ∉ n.toList := hd.not_mem (quiet_of_isValidName h)
  rw [hd.quotes, quotedIf]
  split
  · simp [name, hd.quote]
  · exact name

theorem Dialect.Distinguishes.qualified (hd : d.Distinguishes first) {c : ColumnRef}
    (h : c.Plain) : ∀ p ∈ Piece.qualified c.qualifier c.name, p.Unmarked d first := by
  unfold Piece.qualified
  split
  · exact List.forall_mem_singleton.2 (hd.not_mem_spell h.name)
  · next qualifier =>
    have named : isValidName c.qualifier = true := by
      rcases h.qualifier with none | valid
      · rw [none] at qualifier
        exact absurd rfl qualifier
      · exact valid
    refine List.forall_mem_cons.2 ⟨hd.not_mem_spell named, ?_⟩
    refine List.forall_mem_cons.2 ⟨hd.not_mem (s := ".") (by decide), ?_⟩
    exact List.forall_mem_singleton.2 (hd.not_mem_spell h.name)

theorem Dialect.Distinguishes.scopeFaults (hd : d.Distinguishes first) (scopes : List Scope)
    (c : ColumnRef) : ∀ p ∈ scopeFaults scopes c, p.Unmarked d first := by
  have fault (e : SchemaError) : (Piece.fault e).Unmarked d first := hd.not_mem (s := "") rfl
  unfold TypedSql.scopeFaults
  split
  · exact List.forall_mem_nil _
  · split
    · exact List.forall_mem_nil _
    · exact List.forall_mem_singleton.2 (fault _)

/-- Keywords, punctuation and valid names leave the character to the placeholders. -/
theorem Written.unmarked (hd : d.Distinguishes first) {xs : List Part} {ps : List Piece}
    (h : Written xs ps) (plain : ∀ x ∈ xs, x.Plain) : ∀ p ∈ ps, p.Unmarked d first := by
  induction h with
  | nil => exact List.forall_mem_nil _
  | append _ _ ih₁ ih₂ =>
      rw [List.forall_mem_append] at plain
      exact List.forall_mem_append.2 ⟨ih₁ plain.1, ih₂ plain.2⟩
  | text quiet => exact List.forall_mem_singleton.2 (hd.not_mem quiet)
  | column levels c =>
      have column : c.Plain := plain _ (List.mem_singleton_self _)
      exact List.forall_mem_append.2 ⟨hd.scopeFaults _ c, hd.qualified column⟩
  | selected c => exact hd.qualified (c := c) (plain _ (List.mem_singleton_self _))
  | resultName e =>
      have name : isValidName e.name = true := plain _ (List.mem_singleton_self _)
      exact List.forall_mem_singleton.2 (hd.not_mem_spell name)
  | name n =>
      have name : isValidName n = true := plain _ (List.mem_singleton_self _)
      exact List.forall_mem_singleton.2 (hd.not_mem_spell name)
  | bind p => exact List.forall_mem_singleton.2 trivial
  | castType type =>
      have name : isValidName type = true := plain _ (List.mem_singleton_self _)
      have quiet : Quiet (" AS " ++ type ++ ")") :=
        (Quiet.append (by decide) (quiet_of_isValidName name)).append (by decide)
      exact List.forall_mem_singleton.2 (hd.not_mem quiet)
  | mistake e => exact List.forall_mem_singleton.2 (hd.not_mem (s := "") rfl)
  | nested _ ih =>
      have enter : Piece.enter.Unmarked d first := hd.not_mem (s := "(") (by decide)
      have leave : Piece.leave.Unmarked d first := hd.not_mem (s := ")") (by decide)
      refine List.forall_mem_cons.2 ⟨enter, List.forall_mem_append.2 ⟨ih plain, ?_⟩⟩
      exact List.forall_mem_singleton.2 leave

/-! ## The contract of a seed -/

/-- The marks in the text of a seed, from left to right, stand for the placeholders of the statement
in the order of its clauses, and so do the slots; the positions stored for a token are those of the
slots that carry it. -/
theorem Statement.placeholders_in_order {s : Statement} {p p' : Pool} {seed : Seed}
    (built : s.Built) (hp : p.Clean) (hd : d.Distinguishes first)
    (h : s.buildWith p d = (.ok seed, p')) :
    occurrences d.placeholder seed.sql = (Piece.marks d 0 s.pieces).map Prod.fst
      ∧ (Piece.marks d 0 s.pieces).map Prod.snd = s.binds
      ∧ seed.params = s.binds.map Placeholder.slot
      ∧ ∀ id : ParamId, (seed.positions id).Pairwise (· < ·)
        ∧ (∀ i, i ∈ seed.positions id ↔
          ∃ slot, seed.params[i]? = some slot ∧ slot.param = some id)
        ∧ (seed.positions id = [] ↔ ∀ p ∈ s.binds, p.id? ≠ some id) := by
  obtain ⟨-, text, params, -⟩ := Statement.sql_eq hp h
  have indexed := Statement.indexed_of_buildWith h
  obtain ⟨tail, mark⟩ := hd.mark
  have slots : Piece.slots s.pieces = s.binds := s.written.slots_eq
  rw [slots] at params
  have unmarked := s.written.unmarked hd built.plain
  refine ⟨?_, ?_, params, fun id =>
    ⟨indexed.pairwise_positions id, fun i => indexed.mem_positions, ?_⟩⟩
  · rw [occurrences, text, mark]
    exact Piece.occurrencesFrom_sqlText mark unmarked 0
  · rw [Piece.marks_snd, slots]
  · rw [indexed.positions_eq_nil_iff, params, List.forall_mem_map]
    rfl

/-! ### A token written twice -/

def petTable : Table := .single ⟨1⟩ "pet" "id"

def petId : ColumnRef := Table.wholeColumn ⟨1⟩ "pet" "id"

/-- Compares the column with a token. -/
def petFilter (op : CompareOp) : Expr :=
  .compare op (.column petId) (.bind (.token ⟨7⟩ petId.type))

def petQuery (filter : Expr) : Select :=
  { Select.empty with
    source := some (.relation (.table petTable))
    items := [.column petId]
    filter := some filter }

/-- A query with the token outside and inside a nested query. -/
def petStatement : Statement :=
  .query (.select (petQuery
    (.logical .and [petFilter .lt, .inQuery false (.column petId) (petQuery (petFilter .eq))])))

theorem petStatement_built : petStatement.Built := by
  have built : petTable.Built := Table.single_built ⟨1⟩ (by decide) (by decide)
  have table : (Leaf.table petTable).Built := .table built
  have column : (Leaf.column petId).Built :=
    Leaf.built_of_mem_columns built (List.mem_singleton_self _)
  have token : (Leaf.bind (.token ⟨7⟩ petId.type)).Built := .bind _
  simp [Statement.Built, petStatement, petQuery, petFilter, Statement.leaves, Query.leaves,
    Select.leaves, fromLeaves, Source.leaves, Relation.leaves, itemLeaves, optionLeaves,
    Expr.leaves, listLeaves, sortLeaves, placeholderLeaves, Select.empty, table, column, token]

theorem generic_distinguishes : Dialect.generic.Distinguishes '?' where
  quotes := fun _ => rfl
  mark := ⟨[], by decide⟩
  sql := by decide
  quote := by decide

theorem placeholders_in_order_of_pets :
    ∃ (seed : Seed) (p' : Pool), petStatement.buildWith (.new {}) .generic = (.ok seed, p')
      ∧ seed.sql = "SELECT pet.id FROM pet WHERE pet.id < ? AND pet.id IN "
        ++ "(SELECT pet.id FROM pet WHERE pet.id = ?)"
      ∧ occurrences "?" seed.sql = [38, 93]
      ∧ seed.params = petStatement.binds.map Placeholder.slot
      ∧ seed.positions ⟨7⟩ = [0, 1] := by
  have done := petStatement.buildWith_eq_ok (p := .new {}) (d := .generic) (by decide)
  obtain ⟨marks, -, params, -⟩ := Statement.placeholders_in_order petStatement_built
    (Pool.clean_new {}) generic_distinguishes done
  refine ⟨_, _, done, by decide, marks.trans (by decide), params, by decide⟩

end TypedSql
