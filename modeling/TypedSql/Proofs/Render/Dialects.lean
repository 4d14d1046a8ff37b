import TypedSql.Proofs.Render.Builds
import TypedSql.Proofs.Render.Pooling
import TypedSql.Proofs.Run.Lookup

/-!
# One statement in several dialects

**Theorem (`dialect_changes_spelling_only`).** Built for two dialects, a statement gives the same
slots and result columns, or fails with the same error. The two texts are spellings of one row of
pieces.

Two runs of the renderer that differ in dialect and builders are compared call by call. The
relation between their states, `Rendering.Twin`, leaves out what a dialect may change, and every
call keeps it.

So a view, which is checked once and written in any dialect later, is written as its query is built.
It is refused exactly if its name is invalid, or something rendering reaches in its query is
misconfigured or a placeholder (`Relation.defineView_eq_error_iff`).
-/

namespace TypedSql

/-! ## Two runs -/

/-- What two runs have in common, in whatever dialects and builders their texts are written. -/
structure Rendering.Twin (r r' : Rendering) : Prop where
  params : r.params = r'.params
  positions : r.positions = r'.positions
  deferred : r.deferred = r'.deferred
  scopes : r.scopes = r'.scopes

namespace Rendering.Twin

variable {r r' : Rendering}

theorem start (p p' : Pool) (d d' : Dialect) :
    (Rendering.start p d).Twin (.start p' d') :=
  ⟨rfl, rfl, rfl, rfl⟩

/-- Writing looks at the dialect and changes nothing but the text. -/
theorem write (h : r.Twin r') (s s' : String) : (r.write s).Twin (r'.write s') :=
  ⟨h.params, h.positions, h.deferred, h.scopes⟩

theorem defer (h : r.Twin r') (f : Fault) : (r.defer f).Twin (r'.defer f) :=
  ⟨h.params, h.positions, congrArg (· ++ [f]) h.deferred, h.scopes⟩

theorem addSlot (h : r.Twin r') (s : Slot) : (r.addSlot s).Twin (r'.addSlot s) where
  params := congrArg (· ++ [s]) h.params
  positions := by rw [Rendering.addSlot, Rendering.addSlot, h.params, h.positions]
  deferred := h.deferred
  scopes := h.scopes

/-- Whether a preset value can be stored is seen from the placeholder. -/
theorem register (h : r.Twin r') (p : Placeholder) : (r.register p).Twin (r'.register p) := by
  unfold Rendering.register
  split
  · exact h.addSlot _
  · rw [h.params]
    exact (h.defer _).addSlot _

theorem perform (h : r.Twin r') (p : Piece) : (r.perform p).Twin (r'.perform p) := by
  cases p with
  | text s => exact h.write s s
  | name n => exact h.write _ _
  | slot p => exact (h.register p).write _ _
  | fault e => exact h.defer _
  | enter => exact ⟨h.params, h.positions, h.deferred, h.scopes⟩
  | leave => exact ⟨h.params, h.positions, h.deferred, h.scopes⟩

theorem performAll (h : r.Twin r') (ps : List Piece) :
    (r.performAll ps).Twin (r'.performAll ps) := by
  induction ps generalizing r r' with
  | nil => exact h
  | cons p ps ih => exact ih (h.perform p)

end Rendering.Twin

/-- The calls a part makes depend on nothing in which twins differ, so that it leaves twins. -/
theorem Render.Performs.twin {body : Render} {scopes : List Scope} {ps : List Piece}
    (h : body.Performs scopes ps) {r r' : Rendering} (twin : r.Twin r') (hr : r.scopes = scopes) :
    (body.run r).2.Twin (body.run r').2 := by
  rw [h r hr, h r' (twin.scopes.symm.trans hr)]
  exact twin.performAll ps

theorem Statement.twin_render (s : Statement) (p p' : Pool) (d d' : Dialect) :
    (s.render.run (.start p d)).2.Twin (s.render.run (.start p' d')).2 :=
  s.performs.twin (.start p p' d d') rfl

/-! ## Two builds -/

/-- The error, about another text of the statement. -/
def Error.withSql (sql : String) : Error → Error
  | .schema cause => .schema cause
  | .conversion cause => .conversion cause
  | .bind index type _ cause => .bind index type sql cause
  | .parameterIndex index count _ => .parameterIndex index count sql
  | .unknownParameter _ => .unknownParameter sql
  | .seedMismatch _ found => .seedMismatch sql found
  | .unbound index _ => .unbound index sql
  | .decode column _ cause => .decode column sql cause
  | .notInResult column _ => .notInResult column sql
  | .engine cause => .engine cause
  | .execution _ arguments cause => .execution sql arguments cause

/-- The results of building the statement for two dialects differ in the spelling of its pieces. -/
inductive Alike (s : Statement) (d d' : Dialect) :
    Except Error Seed → Except Error Seed → Prop where
  | built {a b : Seed} (text : a.sql = Piece.sqlText d s.pieces)
      (text' : b.sql = Piece.sqlText d' s.pieces) (params : a.params = b.params)
      (positions : ∀ id, a.positions id = b.positions id) (columns : a.columns = b.columns) :
      Alike s d d' (.ok a) (.ok b)
  | failed {e e' : Error} (text : e = e.withSql (Piece.sqlText d s.pieces))
      (same : e' = e.withSql (Piece.sqlText d' s.pieces)) :
      Alike s d d' (.error e) (.error e')

variable {s : Statement} {d d' : Dialect} {p p' : Pool} {n n' : Nat}

/-- Runs that are twins end in seeds, or in errors, that are alike. -/
theorem Rendering.Twin.alike {r r' : Rendering} (h : r.Twin r')
    (text : r.writer.top.text = Piece.sqlText d s.pieces)
    (text' : r'.writer.top.text = Piece.sqlText d' s.pieces) (columns : List ResultColumn) :
    Alike s d d' (r.intoSeed columns) (r'.intoSeed columns) := by
  unfold intoSeed
  rw [← h.deferred, text, text']
  split
  · exact .built rfl rfl h.params (fun id => congrArg (Positions.get · id) h.positions) rfl
  · exact .failed rfl rfl
  · exact .failed rfl rfl

theorem Statement.text_render (s : Statement) (h : p.Clean) (d : Dialect) :
    (s.render.run (.start p d)).2.writer.top.text = Piece.sqlText d s.pieces := by
  rw [s.run_render]
  exact s.write_eq h

/-- Two runs of the renderer, one for each dialect, are twins to the end. -/
theorem Statement.alike (h : p.Reached n) (h' : p'.Reached n') :
    Alike s d d' (s.buildWith p d).1 (s.buildWith p' d').1 :=
  (s.twin_render p p' d d').alike (s.text_render h.clean d) (s.text_render h'.clean d')
    s.resultColumns

/-! ## Misconfigured nodes and placeholders -/

namespace Piece

theorem findSome?_faultsFrom_eq_none_iff {ps : List Piece} {i : Nat} :
    ((faultsFrom i ps).findSome? fun
      | .schema e => some e
      | .preset .. => none) = none ↔ ∀ e, .fault e ∉ ps := by
  induction ps generalizing i with
  | nil => exact iff_of_true rfl fun e => List.not_mem_nil
  | cons p ps ih =>
    cases p with
    | fault e => exact iff_of_false (fun none => nomatch none) fun none => none e List.mem_cons_self
    | slot p =>
      rw [faultsFrom]
      split
      · simpa using ih
      · simpa using ih
    | text s => simpa [faultsFrom] using ih
    | name n => simpa [faultsFrom] using ih
    | enter => simpa [faultsFrom] using ih
    | leave => simpa [faultsFrom] using ih

theorem schemaError?_eq_none_iff {ps : List Piece} :
    schemaError? ps = none ↔ ∀ e, .fault e ∉ ps :=
  findSome?_faultsFrom_eq_none_iff

theorem slots_eq_nil_iff {ps : List Piece} : slots ps = [] ↔ ∀ p, .slot p ∉ ps := by
  rw [slots, List.filterMap_eq_nil_iff]
  constructor
  · intro none p mem
    cases none _ mem
  · intro none piece mem
    cases piece with
    | slot p => exact absurd mem (none p)
    | _ => rfl

/-- Without placeholders, only the mistakes of configuration count. -/
theorem faultless_iff_of_slots {ps : List Piece} (none : slots ps = []) :
    (∀ p ∈ ps, p.Faultless) ↔ ∀ e, .fault e ∉ ps := by
  constructor
  · exact fun h e mem => h _ mem
  · intro h piece mem
    cases piece with
    | fault e => exact h e mem
    | slot p => exact absurd mem (slots_eq_nil_iff.1 none p)
    | _ => trivial

end Piece

namespace Node

/-- Something is wrong with the node itself, which is no placeholder. -/
def Misconfigured (n : Node) : Prop := (∀ p, n ≠ .bind p) ∧ ¬ n.Faultless

end Node

theorem Select.slots_eq_nil_iff (q : Select) :
    Piece.slots (q.pieces []) = [] ↔ ∀ p, ¬ (Node.select [] q).Reaches (.bind p) := by
  have written : Piece.slots (q.pieces []) = (q.parts []).filterMap Part.bind? :=
    (q.written []).slots_eq
  simp only [← Node.bind_mem_parts_iff]
  rw [written, List.filterMap_eq_nil_iff]
  constructor
  · intro none p mem
    cases none _ mem
  · intro none x mem
    cases x with
    | bind p => exact absurd mem (none p)
    | _ => rfl

theorem Select.fault_iff (q : Select) (none : ∀ p, ¬ (Node.select [] q).Reaches (.bind p)) :
    (∀ e, .fault e ∉ q.pieces [])
      ↔ ∀ n, (Node.select [] q).Reaches n → ¬ n.Misconfigured := by
  rw [← Piece.faultless_iff_of_slots (q.slots_eq_nil_iff.2 none)]
  refine (q.written []).faultless_iff.trans ((Node.select [] q).clear_iff.trans ?_)
  refine forall₂_congr fun n reached => ?_
  have other : ∀ p, n ≠ .bind p := fun p same => none p (same ▸ reached)
  rw [Node.Misconfigured, and_iff_right other, not_not]

/-! ## Views -/

namespace Relation

variable {id : SetId} {name : String} {q : Select}

theorem defineView_eq (id : SetId) (name : String) (q : Select) :
    defineView id name q
      = match validateName name, Piece.schemaError? (q.pieces []),
          (Piece.slots (q.pieces [])).length with
        | .error e, _, _ => .error e
        | .ok _, some e, _ => .error e
        | .ok _, none, 0 => .ok (.view id name q)
        | .ok _, none, n + 1 =>
          .error (.invalidView name ("body binds " ++ toString (n + 1) ++ " parameter(s)")) := by
  have done := (Statement.query (.select q)).run_render (.new {}) .generic
  have mistake : (q.render.run (.start (.new {}) .generic)).2.schemaError?
      = Piece.schemaError? (q.pieces []) := congrArg Rendering.schemaError? done
  have slots : (q.render.run (.start (.new {}) .generic)).2.params.length
      = (Piece.slots (q.pieces [])).length :=
    (congrArg (·.params.length) done).trans (List.length_map _)
  dsimp only [defineView]
  rw [mistake, slots]
  cases validateName name with
  | error e => rfl
  | ok u =>
    cases Piece.schemaError? (q.pieces []) with
    | some e => rfl
    | none => cases (Piece.slots (q.pieces [])).length <;> rfl

theorem defineView_eq_ok_iff :
    (∃ r, defineView id name q = .ok r)
      ↔ isValidName name = true ∧ (∀ e, .fault e ∉ q.pieces [])
        ∧ Piece.slots (q.pieces []) = [] := by
  rw [← validateName_eq_ok_iff, ← Piece.schemaError?_eq_none_iff, ← List.length_eq_zero_iff,
    defineView_eq]
  split
  · next e refused => simp [refused]
  · next e _ found => simp [found]
  · next accepted found none => simp [accepted, found, none]
  · next n _ _ some => simp [some]

/-- **Why a view is refused.** -/
theorem defineView_eq_error_iff :
    (∃ e, defineView id name q = .error e)
      ↔ isValidName name = false
        ∨ (∃ n, (Node.select [] q).Reaches n ∧ n.Misconfigured)
        ∨ ∃ p, (Node.select [] q).Reaches (.bind p) := by
  have refused : (∃ e, defineView id name q = .error e) ↔ ¬ ∃ r, defineView id name q = .ok r := by
    cases defineView id name q with
    | error e => exact iff_of_true ⟨e, rfl⟩ fun ⟨r, h⟩ => nomatch h
    | ok r => exact iff_of_false (fun ⟨e, h⟩ => nomatch h) fun none => none ⟨r, rfl⟩
  rw [refused, defineView_eq_ok_iff, ← Bool.not_eq_true]
  by_cases bound : ∃ p, (Node.select [] q).Reaches (.bind p)
  · refine iff_of_true (fun h => ?_) (.inr (.inr bound))
    obtain ⟨p, reached⟩ := bound
    exact q.slots_eq_nil_iff.1 h.2.2 p reached
  · have none := not_exists.1 bound
    rw [q.fault_iff none, and_iff_left (q.slots_eq_nil_iff.2 none), or_iff_left bound, not_and_or]
    exact or_congr_right (by simp)

/-- The query of a view is written as it is anywhere else. -/
theorem createViewSql_eq_sqlText (d : Dialect) (name : String) (q : Select) :
    createViewSql d name q
      = "CREATE VIEW IF NOT EXISTS " ++ d.spell name ++ " AS "
        ++ Piece.sqlText d (q.pieces []) := by
  have performs : (renderView name q).Performs []
      ([.text "CREATE VIEW IF NOT EXISTS ", .name name, .text " AS "] ++ q.pieces []) :=
    .cons_text _ <| .cons_name _ <| .cons_text _ (q.performs [])
  have balanced : Balanced
      ([.text "CREATE VIEW IF NOT EXISTS ", .name name, .text " AS "] ++ q.pieces []) :=
    .append (.level rfl) (q.written []).balanced
  have text := balanced.text_write (d := d) (Pool.clean_new {})
  rw [createViewSql, performs _ rfl, Rendering.performAll_eq]
  refine text.trans ?_
  simp [Piece.sqlText, Piece.sql, String.append_assoc]

/-- A view that was accepted is written as its query is built, in every dialect. -/
theorem createViewSql_eq {r : Relation} (defined : defineView id name q = .ok r)
    (h : p.Reached n) (d : Dialect) :
    ∃ seed, ((Statement.query (.select q)).buildWith p d).1 = .ok seed ∧ seed.params = []
      ∧ createViewSql d name q
        = "CREATE VIEW IF NOT EXISTS " ++ d.spell name ++ " AS " ++ seed.sql := by
  obtain ⟨-, right, none⟩ := defineView_eq_ok_iff.1 ⟨r, defined⟩
  have faults : Piece.faults (Statement.query (.select q)).pieces = [] :=
    Piece.faultsFrom_eq_nil_iff.2 ((Piece.faultless_iff_of_slots none).2 right)
  have done := Statement.buildWith_eq_ok (p := p) (d := d) faults
  obtain ⟨-, text, params, -⟩ := Statement.sql_eq h.clean done
  refine ⟨_, congrArg Prod.fst done, ?_, ?_⟩
  · rw [params]
    exact List.map_eq_nil_iff.2 none
  · rw [text]
    exact createViewSql_eq_sqlText d name q

end Relation

/-- **The dialect changes the spelling only**: two builds of a statement are alike. A view, which
was checked for one dialect, is written for any other as its query is built for that, with no slots;
and it was refused exactly if its name is invalid, its query is misconfigured, or a placeholder is
written in it. -/
theorem dialect_changes_spelling_only :
    (∀ (s : Statement) (d d' : Dialect) (p p' : Pool) (n n' : Nat), p.Reached n → p'.Reached n' →
        Alike s d d' (s.buildWith p d).1 (s.buildWith p' d').1)
      ∧ ∀ (id : SetId) (name : String) (q : Select),
        (∀ r, Relation.defineView id name q = .ok r →
          r = .view id name q ∧ ∀ (d : Dialect) (p : Pool) (n : Nat), p.Reached n →
            ∃ seed, ((Statement.query (.select q)).buildWith p d).1 = .ok seed ∧ seed.params = []
              ∧ createViewSql d name q
                = "CREATE VIEW IF NOT EXISTS " ++ d.spell name ++ " AS " ++ seed.sql)
        ∧ ((∃ e, Relation.defineView id name q = .error e)
          ↔ isValidName name = false
            ∨ (∃ n, (Node.select [] q).Reaches n ∧ n.Misconfigured)
            ∨ ∃ p, (Node.select [] q).Reaches (.bind p)) := by
  refine ⟨fun s d d' p p' n n' h h' => Statement.alike h h', fun id name q => ⟨?_, ?_⟩⟩
  · intro r defined
    refine ⟨defineView_eq_ok defined, fun d p n h => ?_⟩
    exact Relation.createViewSql_eq defined h d
  · exact Relation.defineView_eq_error_iff

/-! ### All pets, and the pets before one of them -/

/-- A query that binds nothing. -/
def allPets : Select :=
  { Select.empty with
    source := some (.relation (.table petTable))
    items := [.column petId] }

theorem dialect_changes_spelling_only_of_pets :
    Alike petStatement .generic .quoteAll (petStatement.buildWith (.new {}) .generic).1
        (petStatement.buildWith (.new {}) .quoteAll).1
      ∧ Relation.defineView ⟨9⟩ "pets" allPets = .ok (.view ⟨9⟩ "pets" allPets)
      ∧ (∃ seed, ((Statement.query (.select allPets)).buildWith (.new {}) .quoteAll).1 = .ok seed
        ∧ seed.params = []
        ∧ createViewSql .quoteAll "pets" allPets
          = "CREATE VIEW IF NOT EXISTS " ++ Dialect.quoteAll.spell "pets" ++ " AS " ++ seed.sql)
      ∧ createViewSql .quoteAll "pets" allPets
        = "CREATE VIEW IF NOT EXISTS |pets| AS SELECT |pet|.|id| FROM |pet|"
      ∧ ∃ e, Relation.defineView ⟨9⟩ "pets" (petQuery (petFilter .lt)) = .error e := by
  obtain ⟨alike, views⟩ := dialect_changes_spelling_only
  have fresh : (Pool.new {}).Reached 0 := .new _
  have defined : Relation.defineView ⟨9⟩ "pets" allPets = .ok (.view ⟨9⟩ "pets" allPets) := rfl
  refine ⟨alike _ _ _ _ _ _ _ fresh fresh, defined, ?_, by decide, ?_⟩
  · exact ((views _ _ _).1 _ defined).2 _ _ _ fresh
  · -- The condition compares with a token.
    refine (views _ _ _).2.2 (.inr (.inr ⟨.token ⟨7⟩ petId.type, ?_⟩))
    have condition : Node.expr [some (.relation (.table petTable))] (petFilter .lt)
        ∈ (Node.select [] (petQuery (petFilter .lt))).children := by
      simp [Node.children, Select.exprs, petQuery, Select.empty]
    have operand : Node.expr [some (.relation (.table petTable))] (.bind (.token ⟨7⟩ petId.type))
        ∈ (Node.expr [some (.relation (.table petTable))] (petFilter .lt)).children := by
      simp [Node.children, petFilter, Expr.operands]
    exact .head condition (.head operand (.single (List.mem_singleton_self _)))

end TypedSql
