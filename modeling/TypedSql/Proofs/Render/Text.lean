import TypedSql.Proofs.Render.Performed
import TypedSql.Proofs.Render.Written

/-!
# The text of a statement

**Theorem (`Statement.buildWith_eq`).** Building a statement reads the seed, or the first mistake,
off its pieces, and writes them with the builders of the pool.

**Theorem (`Statement.sql_eq`).** A statement that was built has the text of its pieces, in
whichever builders the nested queries were written.

Nested queries are written apart and copied into the enclosing text when they end. The invariant
says what a row of pieces does to the builders if nested queries start and end in it in pairs: the
innermost builder gains the text of the row, those below stay as they are.
-/

namespace TypedSql

variable {d : Dialect}

/-! ## Clean pools -/

/-- Every idle builder is empty. -/
def Pool.Clean (p : Pool) : Prop := ∀ b ∈ p.idle, b.text = ""

theorem Pool.clean_new (config : PoolConfig) : (Pool.new config).Clean := List.forall_mem_nil _

theorem Pool.text_acquire {p : Pool} (h : p.Clean) : p.acquire.1.builder.text = "" := by
  obtain ⟨config, idle, hits, misses, contended, dropped⟩ := p
  cases idle with
  | nil => rfl
  | cons b rest => exact h b List.mem_cons_self

theorem Pool.clean_acquire {p : Pool} (h : p.Clean) : p.acquire.2.Clean := by
  obtain ⟨config, idle, hits, misses, contended, dropped⟩ := p
  cases idle with
  | nil => exact h
  | cons b rest => exact fun b hb => h b (List.mem_cons_of_mem _ hb)

theorem Pool.clean_release {p : Pool} (h : p.Clean) (b : Builder) : (p.release b).Clean := by
  unfold Pool.release
  split
  · exact h
  · split
    · intro b' hb'
      rcases List.mem_cons.1 hb' with rfl | old
      · rfl
      · exact h b' old
    · exact h

/-! ## Texts of pieces -/

theorem Piece.sqlText_append (ps qs : List Piece) :
    Piece.sqlText d (ps ++ qs) = Piece.sqlText d ps ++ Piece.sqlText d qs := by
  simp [Piece.sqlText]

theorem Piece.sqlText_cons (p : Piece) (ps : List Piece) :
    Piece.sqlText d (p :: ps) = p.sql d ++ Piece.sqlText d ps := by
  simp [Piece.sqlText]

theorem Piece.sqlText_singleton (p : Piece) : Piece.sqlText d [p] = p.sql d :=
  (Piece.sqlText_cons p []).trans String.append_empty

theorem Piece.sqlText_separated (s : String) (pss : List (List Piece)) :
    Piece.sqlText d (Piece.separated s pss) = s.intercalate (pss.map (Piece.sqlText d)) := by
  induction pss with
  | nil => rfl
  | cons ps pss ih =>
    cases pss with
    | nil => rw [separated, List.map_cons, List.map_nil, String.intercalate_singleton]
    | cons qs pss =>
      rw [separated, Piece.sqlText_append, Piece.sqlText_cons, ih, List.map_cons, List.map_cons,
        List.map_cons, String.intercalate_cons_cons, String.append_assoc]
      · rfl
      · exact List.cons_ne_nil qs pss

theorem sqlText_faults (es : List SchemaError) : Piece.sqlText d (es.map Piece.fault) = "" := by
  induction es with
  | nil => rfl
  | cons e es ih =>
    rw [List.map_cons, Piece.sqlText_cons, ih]
    rfl

/-! ## Writing -/

/-- The innermost builder has gained the text; the pool is clean. -/
structure Writer.Gains (w : Writer) (s : String) (w' : Writer) : Prop where
  text : w'.top.text = w.top.text ++ s
  below : w'.below = w.below
  clean : w'.pool.Clean

theorem Writer.Gains.trans {w w' w'' : Writer} {s t : String} (first : w.Gains s w')
    (second : w'.Gains t w'') : w.Gains (s ++ t) w'' where
  text := by rw [second.text, first.text, String.append_assoc]
  below := second.below.trans first.below
  clean := second.clean

theorem Writer.gains_piece {w : Writer} (hw : w.pool.Clean) {p : Piece} (hp : p.isLevel = true) :
    w.Gains (p.sql d) (w.piece d p) := by
  cases p with
  | enter => cases hp
  | leave => cases hp
  | text s => exact ⟨rfl, rfl, hw⟩
  | name n => exact ⟨rfl, rfl, hw⟩
  | slot p => exact ⟨rfl, rfl, hw⟩
  | fault e => exact ⟨String.append_empty.symm, rfl, hw⟩

theorem Writer.gains_level {w : Writer} (hw : w.pool.Clean) {ps : List Piece}
    (hp : ps.all Piece.isLevel = true) :
    w.Gains (Piece.sqlText d ps) (ps.foldl (Writer.piece d) w) := by
  induction ps generalizing w with
  | nil => exact ⟨String.append_empty.symm, rfl, hw⟩
  | cons p ps ih =>
      rw [List.all_cons, Bool.and_eq_true] at hp
      have first := gains_piece (d := d) hw hp.1
      rw [Piece.sqlText_cons, List.foldl_cons]
      exact first.trans (ih first.clean hp.2)

/-- A nested query is written into a builder of its own and copied. -/
theorem Writer.gains_nested {ps : List Piece}
    (inner : ∀ w : Writer, w.pool.Clean →
      w.Gains (Piece.sqlText d ps) (ps.foldl (Writer.piece d) w))
    {w : Writer} (hw : w.pool.Clean) :
    w.Gains (Piece.sqlText d (Piece.nested ps)) ((Piece.nested ps).foldl (Writer.piece d) w) := by
  have inside := inner w.enter (Pool.clean_acquire hw)
  have empty : w.enter.top.text = "" := Pool.text_acquire hw
  have written : (Piece.nested ps).foldl (Writer.piece d) w
      = (ps.foldl (Writer.piece d) w.enter).leave := by
    simp [Piece.nested, Writer.piece]
  have text : Piece.sqlText d (Piece.nested ps) = "(" ++ Piece.sqlText d ps ++ ")" := by
    simp [Piece.sqlText, Piece.nested, Piece.sql, String.append_assoc]
  rw [written, text, Writer.leave, inside.below]
  refine ⟨?_, rfl, Pool.clean_release inside.clean _⟩
  change w.top.text ++ "(" ++ (ps.foldl (Writer.piece d) w.enter).top.text ++ ")" = _
  rw [inside.text, empty, String.empty_append]
  simp only [String.append_assoc]

/-- Pieces add their text to the innermost builder. -/
theorem Balanced.gains {ps : List Piece} (h : Balanced ps) (w : Writer) (hw : w.pool.Clean) :
    w.Gains (Piece.sqlText d ps) (ps.foldl (Writer.piece d) w) := by
  induction h generalizing w with
  | level hp => exact Writer.gains_level hw hp
  | append _ _ ih₁ ih₂ =>
      rw [Piece.sqlText_append, List.foldl_append]
      exact (ih₁ w hw).trans (ih₂ _ (ih₁ w hw).clean)
  | nested _ ih => exact Writer.gains_nested ih hw

/-! ## Builds -/

/-- The text of a row of pieces, and the pool it was written with. -/
def Pool.write (p : Pool) (d : Dialect) (ps : List Piece) : String × Pool :=
  let w := ps.foldl (Writer.piece d) (.start p)
  (w.top.text, w.finish)

/-- The seed of pieces with that text, or their first mistake. -/
def Seed.ofPieces (sql : String) (ps : List Piece) (columns : List ResultColumn) :
    Except Error Seed :=
  match Piece.faults ps with
  | [] => .ok (.ofSlots sql ((Piece.slots ps).map Placeholder.slot) columns)
  | .schema e :: _ => .error (.schema e)
  | .preset index type e :: _ => .error (.bind index type.name sql e)

variable {p p' : Pool} {s : Statement}

/-- What a clean pool hands out is empty, so that the text is that of the pieces. -/
theorem Balanced.text_write {ps : List Piece} (h : Balanced ps) (hp : p.Clean) :
    (p.write d ps).1 = Piece.sqlText d ps := by
  have gains := h.gains (d := d) (.start p) (Pool.clean_acquire hp)
  have empty : (Writer.start p).top.text = "" := Pool.text_acquire hp
  rw [Pool.write, gains.text, empty, String.empty_append]

/-- The state in which rendering leaves the statement. -/
theorem Statement.run_render (s : Statement) (p : Pool) (d : Dialect) :
    (s.render.run (.start p d)).2
      = { dialect := d
          writer := s.pieces.foldl (Writer.piece d) (.start p)
          params := (Piece.slots s.pieces).map Placeholder.slot
          positions := .ofSlots ((Piece.slots s.pieces).map Placeholder.slot)
          deferred := Piece.faults s.pieces } := by
  rw [s.performs _ rfl, Rendering.performAll_eq]
  rfl

theorem Statement.buildWith_eq (s : Statement) (p : Pool) (d : Dialect) :
    s.buildWith p d
      = (Seed.ofPieces (p.write d s.pieces).1 s.pieces s.resultColumns,
          (p.write d s.pieces).2) := by
  rw [Statement.buildWith, s.run_render]
  rfl

theorem Statement.write_eq (hp : p.Clean) :
    (p.write d s.pieces).1 = Piece.sqlText d s.pieces :=
  s.written.balanced.text_write hp

theorem Seed.ofPieces_eq_ok {sql : String} {ps : List Piece} {columns : List ResultColumn}
    {seed : Seed} (h : Seed.ofPieces sql ps columns = .ok seed) :
    Piece.faults ps = []
      ∧ seed = .ofSlots sql ((Piece.slots ps).map Placeholder.slot) columns := by
  unfold Seed.ofPieces at h
  split at h
  · next none =>
    injection h with h
    exact ⟨none, h.symm⟩
  · cases h
  · cases h

theorem Statement.ofPieces_eq_of_buildWith {seed : Seed} (h : s.buildWith p d = (.ok seed, p')) :
    Seed.ofPieces (p.write d s.pieces).1 s.pieces s.resultColumns = .ok seed := by
  rw [s.buildWith_eq] at h
  exact congrArg Prod.fst h

/-- The text of a statement that was built is that of its pieces, which hold no mistake. -/
theorem Statement.sql_eq (hp : p.Clean) {seed : Seed} (h : s.buildWith p d = (.ok seed, p')) :
    Piece.faults s.pieces = [] ∧ seed.sql = Piece.sqlText d s.pieces
      ∧ seed.params = (Piece.slots s.pieces).map Placeholder.slot
      ∧ seed.columns = s.resultColumns := by
  obtain ⟨faults, rfl⟩ := Seed.ofPieces_eq_ok (ofPieces_eq_of_buildWith h)
  exact ⟨faults, s.write_eq hp, rfl, rfl⟩

/-- The positions stored in a seed that was built are those of its slots. -/
theorem Statement.indexed_of_buildWith {seed : Seed} (h : s.buildWith p d = (.ok seed, p')) :
    seed.Indexed := by
  obtain ⟨-, rfl⟩ := Seed.ofPieces_eq_ok (ofPieces_eq_of_buildWith h)
  exact Seed.indexed_ofSlots _ _ _

theorem Statement.params_of_buildWith {seed : Seed} (h : s.buildWith p d = (.ok seed, p')) :
    seed.params = (Piece.slots s.pieces).map Placeholder.slot := by
  obtain ⟨-, rfl⟩ := Seed.ofPieces_eq_ok (ofPieces_eq_of_buildWith h)
  rfl

theorem Statement.columns_of_buildWith {seed : Seed} (h : s.buildWith p d = (.ok seed, p')) :
    seed.columns = s.resultColumns := by
  obtain ⟨-, rfl⟩ := Seed.ofPieces_eq_ok (ofPieces_eq_of_buildWith h)
  rfl

/-- A statement without mistakes is built. -/
theorem Statement.buildWith_eq_ok (faults : Piece.faults s.pieces = []) :
    s.buildWith p d
      = (.ok (.ofSlots (p.write d s.pieces).1 ((Piece.slots s.pieces).map Placeholder.slot)
          s.resultColumns), (p.write d s.pieces).2) := by
  simp only [s.buildWith_eq, Seed.ofPieces, faults]

end TypedSql
