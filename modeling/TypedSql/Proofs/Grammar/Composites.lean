import TypedSql.Proofs.Grammar.Conditions
import TypedSql.Proofs.Render.Builds

/-!
# Values of composite columns and the rows they are in

**Theorem (`CompositeColumn.equals_itself_unless_null`).** A row that was inserted with a value of a
composite column satisfies the condition that the column equals the value, if none of the components
is NULL, and does not satisfy it if one is. Of reals that are no numbers nothing is said.

Writing and comparing use the same placeholders, one for each component, and a component missing
from the split value is NULL in both. So each comparison has the same value on both sides
(`CompositeColumn.truth_eq`), which is true of every value but NULL.
-/

namespace TypedSql

/-! ## What an INSERT gives -/

namespace Assignments

variable {a a' a'' : Assignments} {table : Table} {c : ColumnRef} {e : Expr}

/-- More is given, and no mistake forgotten. -/
structure Within (a a' : Assignments) : Prop where
  pairs : ∀ pair ∈ a.pairs, pair ∈ a'.pairs
  errors : a'.errors = [] → a.errors = []

theorem Within.refl (a : Assignments) : a.Within a := ⟨fun _ mem => mem, id⟩

theorem Within.trans (h : a.Within a') (h' : a'.Within a'') : a.Within a'' where
  pairs pair mem := h'.pairs pair (h.pairs pair mem)
  errors none := h.errors (h'.errors none)

theorem within_give : a.Within (a.give table c e) := by
  have mistake (e : SchemaError) : a.errors ++ [e] ≠ [] := List.concat_ne_nil _ _
  unfold give
  split
  · exact ⟨fun _ mem => mem, fun none => absurd none (mistake _)⟩
  · split
    · exact ⟨fun _ mem => mem, fun none => absurd none (mistake _)⟩
    · exact ⟨fun _ mem => List.mem_append_left _ mem, id⟩

/-- Without a mistake the column has been given the expression. -/
theorem mem_pairs_give (none : (a.give table c e).errors = []) :
    (c, e) ∈ (a.give table c e).pairs := by
  unfold give at none ⊢
  split
  case isTrue unknown =>
    rw [if_pos unknown] at none
    exact absurd none (List.concat_ne_nil _ _)
  case isFalse known =>
    rw [if_neg known] at none
    split
    case isTrue taken =>
      rw [if_pos taken] at none
      exact absurd none (List.concat_ne_nil _ _)
    case isFalse => exact List.mem_append_right _ (List.mem_singleton_self _)

end Assignments

namespace Insert

variable {i : Insert} {α : Type} {c : CompositeColumn α} {v : α}

theorem within_foldl_give (given : List (ColumnRef × Placeholder)) (i : Insert) :
    i.values.Within
      (given.foldl (fun i (part, p) => i.give part (.bind p)) i).values := by
  induction given generalizing i with
  | nil => exact .refl _
  | cons pair rest ih =>
    have first : i.values.Within (i.give pair.1 (.bind pair.2)).values := Assignments.within_give
    exact first.trans (ih _)

theorem within_run (i : Insert) (call : Call) : i.values.Within (i.run call).values := by
  cases call with
  | set c o => exact Assignments.within_give
  | setBlank c => exact Assignments.within_give
  | setComposite c v => exact within_foldl_give _ i
  | onConflict conflict => exact .refl _

theorem within_foldl_run (calls : List Call) (i : Insert) :
    i.values.Within (calls.foldl run i).values := by
  induction calls generalizing i with
  | nil => exact .refl _
  | cons call rest ih => exact (i.within_run call).trans (ih _)

/-- Without a mistake every component has been given its placeholder. -/
theorem mem_pairs_setComposite (none : (i.setComposite c v).values.errors = [])
    {part : ColumnRef} {p : Placeholder} (h : (part, p) ∈ c.parts.zip (c.presets v)) :
    (part, .bind p) ∈ (i.setComposite c v).values.pairs := by
  unfold setComposite at none ⊢
  obtain ⟨before, behind, split⟩ := List.append_of_mem h
  rw [split, List.foldl_append, List.foldl_cons] at none ⊢
  have rest := within_foldl_give behind
    ((before.foldl (fun i (part, p) => i.give part (.bind p)) i).give part (.bind p))
  exact rest.pairs _ (Assignments.mem_pairs_give (rest.errors none))

/-- A composite value given by any of the calls is in the row. -/
theorem mem_pairs_ofCalls {table : Table} {calls : List Call}
    (none : (ofCalls table calls).values.errors = []) (called : .setComposite c v ∈ calls)
    {part : ColumnRef} {p : Placeholder} (h : (part, p) ∈ c.parts.zip (c.presets v)) :
    (part, .bind p) ∈ (ofCalls table calls).values.pairs := by
  unfold ofCalls at none ⊢
  obtain ⟨before, behind, split⟩ := List.append_of_mem called
  rw [split, List.foldl_append, List.foldl_cons] at none ⊢
  have rest := within_foldl_run behind ((before.foldl run { table }).setComposite c v)
  exact rest.pairs _ (mem_pairs_setComposite (rest.errors none) h)

/-- An INSERT that is built was put together without mistakes. -/
theorem errors_of_built {p p' : Pool} {d : Dialect} {seed : Seed}
    (built : (Statement.insert i).buildWith p d = (.ok seed, p')) : i.values.errors = [] := by
  have faults := (Seed.ofPieces_eq_ok (Statement.ofPieces_eq_of_buildWith built)).1
  rw [Piece.faults, Piece.faultsFrom_eq_nil_iff] at faults
  refine List.eq_nil_iff_forall_not_mem.2 fun e he => ?_
  exact faults (.fault e) (List.mem_append_left _ (List.mem_map_of_mem he))

end Insert

/-! ## Rows and what they are compared with -/

/-- The value is a real that is no number. -/
def StorageValue.isNaN : StorageValue → Bool
  | .real x => x.isNaN
  | _ => false

namespace Interpretation

/-- Equality as in SQL: unknown beside NULL, and true of a value and itself. Of what is no number
nothing is said. -/
structure SqlEquality (I : Interpretation StorageValue) : Prop where
  null : ∀ v w, v.isNull = true ∨ w.isNull = true → I.compare .eq v w = none
  self : ∀ v, v.isNull = false → v.isNaN = false → I.compare .eq v v = some true

/-- Columns have the values of the row that the INSERT adds. -/
structure Reads (I : Interpretation StorageValue) (i : Insert) : Prop where
  mark : ∀ type v, I.mark (.preset type (.ok v)) = v
  given : ∀ pair ∈ i.values.pairs,
    I.reference pair.1.written pair.1.name = pair.2.eval I []

end Interpretation

namespace CompositeColumn

variable {α : Type} {c : CompositeColumn α} {v : α} {vs : List StorageValue}

/-- The stored components of a value that is split like this. -/
def stored (c : CompositeColumn α) (vs : List StorageValue) : List StorageValue :=
  c.parts.mapIdx fun i _ => vs[i]?.getD .null

theorem length_presets (c : CompositeColumn α) (v : α) :
    (c.presets v).length = c.parts.length := List.length_mapIdx

theorem getElem_presets (split : c.kind.split v = .ok vs) {k : Nat}
    (h : k < (c.presets v).length) (inside : k < c.parts.length) :
    (c.presets v)[k] = .preset c.parts[k].type (.ok (vs[k]?.getD .null)) := by
  simp only [presets, split, List.getElem_mapIdx]
  rfl

/-- A row with the value compares every component with itself. -/
theorem truth_eq {I : Interpretation StorageValue} (split : c.kind.split v = .ok vs)
    (mark : ∀ type w, I.mark (.preset type (.ok w)) = w)
    (row : ∀ part p, (part, p) ∈ c.parts.zip (c.presets v) →
      I.reference part.written part.name = I.mark p) (scopes : List Scope) :
    (c.eq v).truth I scopes
      = LogicalOp.and.joined ((c.stored vs).map fun w => I.compare .eq w w) := by
  rw [eq, Predicate.all, Predicate.truth_fold]
  have length := c.length_presets v
  refine congrArg _ (List.ext_getElem (by simp [stored, length]) fun k _ inside => ?_)
  have hk : k < c.parts.length := by simpa [stored] using inside
  have hp : k < (c.presets v).length := length.symm ▸ hk
  have preset := getElem_presets split hp hk
  have pair : (c.parts[k], (c.presets v)[k]) ∈ c.parts.zip (c.presets v) :=
    List.mem_iff_getElem.2 ⟨k, by simpa [length] using hk, List.getElem_zip⟩
  have value := row _ _ pair
  rw [preset, mark] at value
  simp only [List.getElem_map, List.getElem_zipWith, preset, stored, List.getElem_mapIdx]
  rw [Predicate.truth, Expr.truth, Expr.eval, Expr.truth_test, Expr.eval, Expr.eval, value, mark]
  rfl

section Inserted

variable {table : Table} {calls : List Insert.Call} {p p' : Pool} {d : Dialect} {seed : Seed}
  {I : Interpretation StorageValue}

theorem truth_eq_of_inserted (called : .setComposite c v ∈ calls)
    (split : c.kind.split v = .ok vs)
    (built : (Statement.insert (.ofCalls table calls)).buildWith p d = (.ok seed, p'))
    (row : I.Reads (.ofCalls table calls)) (scopes : List Scope) :
    (c.eq v).truth I scopes
      = LogicalOp.and.joined ((c.stored vs).map fun w => I.compare .eq w w) :=
  truth_eq split row.mark (fun _ _ mem => row.given _
    (Insert.mem_pairs_ofCalls (Insert.errors_of_built built) called mem)) scopes

theorem joined_self (sql : I.SqlEquality) {ws : List StorageValue}
    (ordinary : ∀ w ∈ ws, w.isNull = false ∧ w.isNaN = false) :
    LogicalOp.and.joined (ws.map fun w => I.compare .eq w w) = some true :=
  (LogicalOp.and.joined_eq_neutral_iff _).2 <| List.forall_mem_map.2 fun w hw =>
    sql.self w (ordinary w hw).1 (ordinary w hw).2

/-- **A row inserted with a value is found by the value if no component is NULL, and is not if one
is.** -/
theorem equals_itself_unless_null (called : .setComposite c v ∈ calls)
    (split : c.kind.split v = .ok vs)
    (built : (Statement.insert (.ofCalls table calls)).buildWith p d = (.ok seed, p'))
    (sql : I.SqlEquality) (row : I.Reads (.ofCalls table calls)) (scopes : List Scope) :
    ((∀ w ∈ c.stored vs, w.isNull = false ∧ w.isNaN = false) →
      (c.eq v).truth I scopes = some true)
    ∧ ((∃ w ∈ c.stored vs, w.isNull = true) → (c.eq v).truth I scopes ≠ some true) := by
  rw [truth_eq_of_inserted called split built row]
  refine ⟨joined_self sql, ?_⟩
  rintro ⟨w, hw, null⟩ found
  have known := List.forall_mem_map.1 ((LogicalOp.and.joined_eq_neutral_iff _).1 found) w hw
  rw [sql.null w w (.inl null)] at known
  cases known

/-- A timestamp with an offset has no component that is NULL. -/
theorem offsetTimestamp_equals_itself [lib : Libraries]
    {c : CompositeColumn lib.calendar.OffsetInstant} {v : lib.calendar.OffsetInstant}
    (kind : c.kind = .offsetTimestamp) (two : c.parts.length = 2)
    (called : .setComposite c v ∈ calls)
    (built : (Statement.insert (.ofCalls table calls)).buildWith p d = (.ok seed, p'))
    (sql : I.SqlEquality) (row : I.Reads (.ofCalls table calls)) (scopes : List Scope) :
    (c.eq v).truth I scopes = some true := by
  have split : c.kind.split v
      = .ok [.integer (lib.calendar.millis v),
        .integer (lib.calendar.eastSeconds (lib.calendar.offset v)).toInt64] :=
    congrArg (CompositeKind.split · v) kind
  rw [truth_eq_of_inserted called split built row]
  refine joined_self sql fun w hw => ?_
  obtain ⟨k, hk, rfl⟩ := List.mem_mapIdx.1 hw
  rw [two] at hk
  match k with
  | 0 | 1 => exact ⟨rfl, rfl⟩

end Inserted

/-! ### Ranges of whole numbers -/

/-- A range in a column of its own table. -/
def rangeColumn : CompositeColumn CompositeKind.Span where
  kind := .span
  name := "s"
  nullable := true
  parts :=
    let type := (⟨.int64, true⟩ : Descriptor .int64).erase
    [{ key := ⟨⟨1⟩, "s_lo"⟩, qualifier := "T", type },
      { key := ⟨⟨1⟩, "s_hi"⟩, qualifier := "T", type }]

def rangeTable : Table := ⟨⟨1⟩, "T", rangeColumn.parts⟩

example : (TableDraft.mk ⟨1⟩ "T" []).addComposite "s" .span true
    = .ok (rangeColumn, ⟨⟨1⟩, "T", rangeColumn.parts⟩) := rfl

/-- The INSERT of a range. -/
def rangeInsert (v : CompositeKind.Span) : Insert :=
  .ofCalls rangeTable [.setComposite rangeColumn v]

open Classical in
/-- A row that holds a range; values are equal if they are the same. -/
noncomputable def rangeRow (low high : StorageValue) : Interpretation StorageValue where
  truth
    | .integer n => some (n != 0)
    | _ => none
  ofTruth
    | none => .null
    | some b => .integer (if b then 1 else 0)
  truth_ofTruth := by rintro (_ | _ | _) <;> rfl
  reference _ name := if name = "s_lo" then low else if name = "s_hi" then high else .null
  mark
    | .preset _ (.ok v) => v
    | _ => .null
  scalar _ := .null
  existsIn _ := none
  compare op v w :=
    if v.isNull || w.isNull then none
    else match op with
      | .eq => some (decide (v = w))
      | .ne => some (decide (v ≠ w))
      | _ => none
  like _ _ _ := none
  isNull v := some v.isNull
  between _ _ _ := none
  inQuery _ _ := none
  binary _ _ _ := .null
  call _ _ _ := .null
  countRows := .null
  cast v _ := v

theorem sqlEquality_rangeRow (low high : StorageValue) : (rangeRow low high).SqlEquality where
  null v w null := if_pos (Bool.or_eq_true_iff.2 null)
  self v ordinary _ := by
    have compared : (v.isNull || v.isNull) = false := by rw [ordinary]; rfl
    simp only [rangeRow, compared, Bool.false_eq_true, if_false, decide_true]

theorem reads_rangeRow {v : CompositeKind.Span} {low high : StorageValue}
    (pairs : (rangeInsert v).values.pairs
      = rangeColumn.parts.zipWith (fun part w => (part, .bind (.preset part.type (.ok w))))
        [low, high]) :
    (rangeRow low high).Reads (rangeInsert v) where
  mark _ _ := rfl
  given pair mem := by
    rw [pairs] at mem
    rcases mem with _ | ⟨_, _ | ⟨_, ⟨⟩⟩⟩
    · rfl
    · rfl

/-- The range of one and three is found in its row. -/
theorem equals_itself_unless_null_of_range :
    ∃ seed p', (Statement.insert (rangeInsert ⟨1, 3⟩)).buildWith (.new {}) .generic = (.ok seed, p')
      ∧ seed.params.map Slot.preset = [some (.integer 1), some (.integer 3)]
      ∧ (rangeColumn.eq ⟨1, 3⟩).truth (rangeRow (.integer 1) (.integer 3)) [] = some true := by
  have built := (Statement.insert (rangeInsert ⟨1, 3⟩)).buildWith_eq_ok (p := .new {})
    (d := .generic) rfl
  have split : rangeColumn.kind.split ⟨1, 3⟩ = .ok [.integer 1, .integer 3] := rfl
  refine ⟨_, _, built, rfl, ?_⟩
  refine (equals_itself_unless_null (List.mem_singleton_self _) split built
    (sqlEquality_rangeRow _ _) (reads_rangeRow rfl) []).1 ?_
  decide

/-- A range of one number has no end, and no row with it is found by it. -/
theorem range_of_one_number_not_found :
    ∃ seed p', (Statement.insert (rangeInsert ⟨3, 3⟩)).buildWith (.new {}) .generic = (.ok seed, p')
      ∧ seed.params.map Slot.preset = [some (.integer 3), some .null]
      ∧ (∃ I : Interpretation StorageValue, I.SqlEquality ∧ I.Reads (rangeInsert ⟨3, 3⟩))
      ∧ ∀ I : Interpretation StorageValue, I.SqlEquality → I.Reads (rangeInsert ⟨3, 3⟩) →
        (rangeColumn.eq ⟨3, 3⟩).truth I [] = none := by
  have built := (Statement.insert (rangeInsert ⟨3, 3⟩)).buildWith_eq_ok (p := .new {})
    (d := .generic) rfl
  have split : rangeColumn.kind.split ⟨3, 3⟩ = .ok [.integer 3] := rfl
  refine ⟨_, _, built, rfl, ⟨_, sqlEquality_rangeRow _ _, reads_rangeRow rfl⟩, fun I sql row => ?_⟩
  rw [truth_eq_of_inserted (List.mem_singleton_self _) split built row]
  change LogicalOp.and.joined
    [I.compare .eq (.integer 3) (.integer 3), I.compare .eq .null .null] = _
  rw [sql.self _ rfl rfl, sql.null _ _ (.inl rfl)]
  rfl

end CompositeColumn

end TypedSql
