import TypedSql.Proofs.Render.Clear
import TypedSql.Proofs.Render.References

/-!
# Which statements are built

**Theorem (`Statement.builds_iff_faultless`).** A query, an UPDATE or a DELETE is built exactly if
it is faultless: nothing that rendering reaches, at any depth, is missed by the checks, and nothing
is refused for another reason.

The pieces of a statement write its parts, so the mistakes among the pieces are those of the parts
(`Written.faultless_iff`), and the parts are clear node by node (`Node.clear_iff`).
-/

namespace TypedSql

/-! ## Pieces without mistakes -/

theorem AnyDescriptor.acceptEncoded_eq_ok_iff {d : AnyDescriptor} {v : StorageValue} :
    (∃ w, d.acceptEncoded v = .ok w) ↔ (v.isNull = true → d.nullable = true) := by
  constructor
  · rintro ⟨w, h⟩
    exact (acceptEncoded_eq_ok h).2
  · intro nullable
    refine ⟨v, if_neg fun refused => ?_⟩
    rw [Bool.and_eq_true, Bool.not_eq_true'] at refused
    rw [nullable refused.1] at refused
    exact Bool.noConfusion refused.2

theorem Placeholder.presetValue_eq_ok_iff {p : Placeholder} :
    (∃ v, p.presetValue = .ok v) ↔ p.Storable := by
  cases p with
  | token id type => exact iff_of_true ⟨none, rfl⟩ trivial
  | blank type => exact iff_of_true ⟨none, rfl⟩ trivial
  | preset type value =>
    cases value with
    | error e => exact iff_of_false (fun ⟨v, h⟩ => by cases h) fun ⟨v, h, _⟩ => by cases h
    | ok w =>
      have stored : (∃ v, Placeholder.presetValue (.preset type (.ok w)) = .ok v)
          ↔ ∃ v, type.acceptEncoded w = .ok v := by
        change (∃ v, (type.acceptEncoded w).map some = .ok v) ↔ _
        cases type.acceptEncoded w with
        | error e => exact iff_of_false (fun ⟨v, h⟩ => by cases h) fun ⟨v, h⟩ => by cases h
        | ok v => exact iff_of_true ⟨some v, rfl⟩ ⟨v, rfl⟩
      rw [stored, AnyDescriptor.acceptEncoded_eq_ok_iff]
      constructor
      · exact fun accepted => ⟨w, rfl, accepted⟩
      · rintro ⟨v, ⟨⟩, accepted⟩
        exact accepted

namespace Piece

/-- The piece is no mistake, and its preset value can be stored. -/
def Faultless : Piece → Prop
  | .fault _ => False
  | .slot p => p.Storable
  | .text _ | .name _ | .enter | .leave => True

theorem faultsFrom_eq_nil_iff {ps : List Piece} {i : Nat} :
    faultsFrom i ps = [] ↔ ∀ p ∈ ps, p.Faultless := by
  induction ps generalizing i with
  | nil => exact iff_of_true rfl (List.forall_mem_nil _)
  | cons p ps ih =>
    rw [List.forall_mem_cons]
    cases p with
    | fault e => exact iff_of_false (List.cons_ne_nil _ _) fun h => h.1
    | slot p =>
      rw [faultsFrom, Faultless, ← Placeholder.presetValue_eq_ok_iff]
      split
      · next v h => exact ih.trans (and_iff_right ⟨v, h⟩).symm
      · next e h =>
        refine iff_of_false (List.cons_ne_nil _ _) ?_
        rintro ⟨⟨v, stored⟩, -⟩
        rw [h] at stored
        cases stored
    | text s => exact ih.trans (and_iff_right trivial).symm
    | name n => exact ih.trans (and_iff_right trivial).symm
    | enter => exact ih.trans (and_iff_right trivial).symm
    | leave => exact ih.trans (and_iff_right trivial).symm

theorem faultless_qualified (qualifier name : String) :
    ∀ p ∈ qualified qualifier name, p.Faultless := by
  unfold qualified
  split
  · exact List.forall_mem_singleton.2 trivial
  · simp [Faultless]

end Piece

theorem any_containsKey_iff {levels : List Level} {c : ColumnRef} :
    ((levels.map Scope.ofSource).any fun s => containsKey s.columns c.key) = true
      ↔ Visible levels c := by
  rw [List.any_map, List.any_eq_true]
  constructor
  · rintro ⟨l, hl, found⟩
    cases l with
    | none => cases found
    | some s =>
      obtain ⟨own, hown, same⟩ := List.any_eq_true.1 found
      exact ⟨s, hl, own, hown, beq_iff_eq.1 same⟩
  · rintro ⟨s, hs, own, hown, same⟩
    exact ⟨some s, hs, List.any_eq_true.2 ⟨own, hown, beq_iff_eq.2 same⟩⟩

/-- The check of the levels around a column finds a mistake exactly if none of them has it. -/
theorem faultless_scopeFaults_iff {levels : List Level} {c : ColumnRef} :
    (∀ p ∈ scopeFaults (levels.map Scope.ofSource) c, p.Faultless)
      ↔ levels = [] ∨ Visible levels c := by
  cases levels with
  | nil => exact iff_of_true (List.forall_mem_nil _) (.inl rfl)
  | cons innermost outer =>
    rw [← any_containsKey_iff, or_iff_right (List.cons_ne_nil _ _)]
    simp only [List.map_cons, scopeFaults]
    split
    · next found => exact iff_of_true (List.forall_mem_nil _) found
    · next hidden => exact iff_of_false (fun h => h _ List.mem_cons_self) hidden

/-- **The mistakes among the pieces are those of the parts.** -/
theorem Written.faultless_iff {xs : List Part} {ps : List Piece} (h : Written xs ps) :
    (∀ p ∈ ps, p.Faultless) ↔ Clear xs := by
  induction h with
  | nil => exact iff_of_true (List.forall_mem_nil _) clear_nil
  | append _ _ ih₁ ih₂ => rw [List.forall_mem_append, clear_append, ih₁, ih₂]
  | text _ => exact iff_of_true (List.forall_mem_singleton.2 trivial) clear_nil
  | column levels c =>
    rw [List.forall_mem_append, faultless_scopeFaults_iff,
      and_iff_left (Piece.faultless_qualified _ _), clear_singleton, Part.Clear]
  | selected c => exact iff_of_true (Piece.faultless_qualified _ _) (clear_singleton.2 trivial)
  | resultName | name | bind | castType | mistake =>
    rw [List.forall_mem_singleton, clear_singleton]
    rfl
  | nested _ ih =>
    rw [Piece.nested, List.cons_append, List.forall_mem_cons, List.forall_mem_append, ih]
    exact (and_iff_right trivial).trans (and_iff_left (List.forall_mem_singleton.2 trivial))

/-! ## Statements -/

namespace Statement

variable {s : Statement}

theorem clear_parts (change : ∀ i, s ≠ .insert i) :
    Clear s.parts
      ↔ (∀ u, s = .update u → u.assignments.errors = []) ∧ ∀ root ∈ s.roots, Clear root.parts := by
  cases s with
  | query q =>
    rw [roots, List.forall_mem_singleton]
    exact (and_iff_right fun u h => by cases h).symm
  | insert i => exact absurd rfl (change i)
  | update u =>
    have noted : (∀ u', update u = .update u' → u'.assignments.errors = [])
        ↔ u.assignments.errors = [] :=
      ⟨fun h => h u rfl, fun h u' same => by cases same; exact h⟩
    have changes : (∀ pair ∈ u.assignments.pairs,
          Clear (.name pair.1.name :: pair.2.parts [u.table.level]))
        ↔ ∀ pair ∈ u.assignments.pairs, Clear (pair.2.parts [u.table.level]) :=
      forall₂_congr fun pair _ => clear_cons.trans (and_iff_right trivial)
    rw [noted, roots, List.forall_mem_append, List.forall_mem_map, List.forall_mem_map, parts,
      Update.parts, clear_append, clear_append, clear_mistakes, clear_cons, clear_optionParts,
      List.flatMap_def, clear_flatten, List.forall_mem_map, and_assoc]
    exact and_congr_right' (and_congr_left' ((and_iff_right trivial).trans changes))
  | delete d =>
    rw [roots, List.forall_mem_map, parts, Delete.parts, clear_cons, clear_optionParts]
    exact (and_iff_right trivial).trans (and_iff_right fun u h => by cases h).symm

theorem clear_iff_faultless (change : ∀ i, s ≠ .insert i) : Clear s.parts ↔ s.Faultless := by
  rw [clear_parts change, faultless_iff change, clear_roots_iff]

theorem builds_iff_faults_eq_nil {p : Pool} {d : Dialect} :
    (∃ seed p', s.buildWith p d = (.ok seed, p')) ↔ Piece.faults s.pieces = [] := by
  constructor
  · rintro ⟨seed, p', done⟩
    exact (Seed.ofPieces_eq_ok (ofPieces_eq_of_buildWith done)).1
  · intro none
    exact ⟨_, _, buildWith_eq_ok none⟩

theorem faultless_of_built (change : ∀ i, s ≠ .insert i) {p p' : Pool} {d : Dialect}
    {seed : Seed} (built : s.buildWith p d = (.ok seed, p')) : s.Faultless := by
  have none := builds_iff_faults_eq_nil.1 ⟨seed, p', built⟩
  exact (clear_iff_faultless change).1
    (s.written.faultless_iff.1 (Piece.faultsFrom_eq_nil_iff.1 none))

/-- **A statement is built exactly if nothing reached by rendering has a mistake.** -/
theorem builds_iff_faultless (change : ∀ i, s ≠ .insert i) (p : Pool) (d : Dialect) :
    (∃ seed p', s.buildWith p d = (.ok seed, p')) ↔ s.Faultless := by
  rw [builds_iff_faults_eq_nil, Piece.faults, Piece.faultsFrom_eq_nil_iff, s.written.faultless_iff,
    clear_iff_faultless change]

end Statement

/-- A query that is built repeats no name: that is a mistake of its select list, or of that of the
first query combined. -/
theorem Query.unrepeated_of_built {q : Query} {p p' : Pool} {d : Dialect} {seed : Seed}
    (built : (Statement.query q).buildWith p d = (.ok seed, p')) :
    Unrepeated [] (nameEntries [] q.entries) := by
  have change : ∀ i, Statement.query q ≠ .insert i := fun i same => by cases same
  have faultless := Statement.faultless_of_built change built
  have labelsNew {r : Select} (mem : Node.select [] r ∈ (Node.query [] q).children) :
      r.LabelsNew :=
    (faultless.select [] r ⟨_, List.mem_singleton_self _, .single mem⟩).2.2
  cases q with
  | select r => exact r.labelsNew_iff.1 (labelsNew (List.mem_singleton_self _))
  | compound c =>
    obtain ⟨first, branches, orderBy, l, o, errors⟩ := c
    exact first.labelsNew_iff.1 (labelsNew List.mem_cons_self)

/-- Pets, under a condition on the column of people, with no query of people around. -/
def uncorrelated : Statement :=
  .query (.select { Select.empty with
    source := some (.relation (.table petsTable))
    filter := some (.isNull false (.column peopleId)) })

/-- The condition is let through inside a query of people, and refused by itself. -/
theorem builds_iff_faultless_of_pets :
    (correlated (.relation (.table petsTable))).Faultless ∧ ¬uncorrelated.Faultless := by
  have change : ∀ q i, Statement.query q ≠ .insert i := fun q i same => by cases same
  constructor
  · exact (Statement.builds_iff_faultless (change _) (.new {}) .generic).1
      (Statement.builds_iff_faults_eq_nil.2 (by decide))
  · intro faultless
    have built := (Statement.builds_iff_faultless (change _) (.new {}) .generic).2 faultless
    have refused : Piece.faults uncorrelated.pieces ≠ [] := by decide
    exact refused (Statement.builds_iff_faults_eq_nil.1 built)

end TypedSql
