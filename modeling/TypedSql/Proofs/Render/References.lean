import TypedSql.Proofs.Render.Provenance
import TypedSql.Proofs.Render.Text

/-!
# What the references of a statement denote

**Theorem (`Statement.reference_kept_iff`).** In a query, an UPDATE or a DELETE that was built,
every column of an expression belongs to a query level around it. Its written name denotes it, and
nothing else, exactly if no level inside that one takes the name and the level has the name once.

The build checks identities, while the text carries names. The condition is what has to hold for the
names to lead to the same columns.
-/

namespace TypedSql

/-! ## Levels that passed the check -/

theorem not_mem_of_faultsFrom {ps : List Piece} {i : Nat} (h : Piece.faultsFrom i ps = [])
    (e : SchemaError) : Piece.fault e ∉ ps := by
  induction ps generalizing i with
  | nil => exact List.not_mem_nil
  | cons p ps ih =>
      intro he
      cases p with
      | fault e' => cases h
      | slot q =>
          rw [Piece.faultsFrom] at h
          split at h
          · exact ih h (List.mem_of_ne_of_mem (by simp) he)
          · cases h
      | text s => exact ih h (List.mem_of_ne_of_mem (by simp) he)
      | name n => exact ih h (List.mem_of_ne_of_mem (by simp) he)
      | enter => exact ih h (List.mem_of_ne_of_mem (by simp) he)
      | leave => exact ih h (List.mem_of_ne_of_mem (by simp) he)

/-- In pieces without mistakes every column has passed the check of its levels. -/
theorem Written.scopeFaults_eq_nil {xs : List Part} {ps : List Piece} (h : Written xs ps)
    (faultless : ∀ e, Piece.fault e ∉ ps) {levels : List Level} {c : ColumnRef}
    (hc : .column levels c ∈ xs) : scopeFaults (levels.map Scope.ofSource) c = [] := by
  induction h with
  | append _ _ ih₁ ih₂ =>
      rcases List.mem_append.1 hc with first | second
      · exact ih₁ (fun e he => faultless e (List.mem_append_left _ he)) first
      · exact ih₂ (fun e he => faultless e (List.mem_append_right _ he)) second
  | column levels' c' =>
      obtain ⟨rfl, rfl⟩ := Part.column.inj (List.mem_singleton.1 hc)
      unfold scopeFaults at faultless ⊢
      split at faultless
      · rfl
      · split at faultless
        · next passed => rw [if_pos passed]
        · exact absurd (List.mem_append_left _ (List.mem_singleton_self _)) (faultless _)
  | nested _ ih =>
      refine ih (fun e he => faultless e ?_) hc
      exact List.mem_cons_of_mem _ (List.mem_append_left _ he)
  | nil => cases hc
  | text _ => cases hc
  | selected _ => cases List.mem_singleton.1 hc
  | resultName _ => cases List.mem_singleton.1 hc
  | name _ => cases List.mem_singleton.1 hc
  | bind _ => cases List.mem_singleton.1 hc
  | castType _ => cases List.mem_singleton.1 hc
  | mistake _ => cases List.mem_singleton.1 hc

/-- A column that passed belongs to one of the levels; the innermost of them is its own. -/
theorem exists_home {levels : List Level} (some_level : levels ≠ []) {c : ColumnRef}
    (passed : scopeFaults (levels.map Scope.ofSource) c = []) :
    ∃ (inner : List Level) (s : Source) (outer : List Level), levels = inner ++ some s :: outer
      ∧ s.contains c.key = true
      ∧ ∀ nearer, some nearer ∈ inner → nearer.contains c.key = false := by
  have visible : ∃ l ∈ levels, containsKey (Scope.ofSource l).columns c.key = true := by
    cases levels with
    | nil => exact absurd rfl some_level
    | cons innermost rest =>
        unfold scopeFaults at passed
        rw [List.map_cons] at passed
        dsimp only at passed
        split at passed
        · next any =>
          rw [← List.map_cons, List.any_map] at any
          exact List.any_eq_true.1 any
        · cases passed
  obtain ⟨l, found⟩ := Option.isSome_iff_exists.1 (List.find?_isSome.2 visible)
  obtain ⟨contains, inner, outer, split, before⟩ := List.find?_eq_some_iff_append.1 found
  cases l with
  | none => cases contains
  | some s =>
      refine ⟨inner, s, outer, split, contains, fun nearer hn => ?_⟩
      have hidden := before _ hn
      rw [Bool.not_eq_true'] at hidden
      exact hidden

/-! ## References -/

/-- What a reference to a column denotes in the text, and what it was made from. The level it
belongs to is the innermost one whose source has the column. -/
def KeptIff (same : String → String → Bool) (levels : List Level) (c : ColumnRef) : Prop :=
  ∃ (inner : List Level) (s : Source) (outer : List Level), levels = inner ++ some s :: outer
    ∧ s.contains c.key = true
    ∧ (∀ nearer, some nearer ∈ inner → nearer.contains c.key = false)
    ∧ ((denoted same levels c.qualifier c.name).map ColumnRef.key = [c.key]
      ↔ (∀ l ∈ inner, l.any (Source.takes same c.qualifier c.name) = false)
        ∧ (s.denoted same c.qualifier c.name).length = 1)

/-- Every column of an expression belongs to a level around it, and keeps its identity in the text
exactly if no level inside takes its written name and its own level has the name once. -/
theorem Statement.reference_kept_iff {same : String → String → Bool} (refl : ∀ n, same n n = true)
    {owner : SetId → String} {s : Statement} (built : s.Built)
    (owned : ∀ l ∈ s.leaves, l.Owned owner) (change : ∀ i, s ≠ .insert i)
    {p p' : Pool} {d : Dialect} {seed : Seed} (h : s.buildWith p d = (.ok seed, p'))
    {levels : List Level} {c : ColumnRef} (hc : .column levels c ∈ s.parts) :
    KeptIff same levels c := by
  let P : Leaf → Prop := fun l => l.Built ∧ l.Owned owner
  let R : List Level → Prop := fun levels => levels ≠ [] ∧ ∀ l ∈ levels, ∀ x ∈ fromLeaves l, P x
  have extend : Extends P R := by
    intro source outer hs ho
    refine ⟨List.cons_ne_nil _ _, List.forall_mem_cons.2 ⟨hs, ?_⟩⟩
    rcases ho with rfl | outside
    · exact List.forall_mem_nil _
    · exact outside.2
  have leaves : ∀ l ∈ s.leaves, P l := fun l hl => ⟨built l hl, owned l hl⟩
  have within := s.within extend leaves (fun i hi => absurd hi (change i)) _ hc
  obtain ⟨⟨-, own⟩, some_level, around⟩ := within
  obtain ⟨faults, -⟩ := Seed.ofPieces_eq_ok (ofPieces_eq_of_buildWith h)
  have passed := s.written.scopeFaults_eq_nil (not_mem_of_faultsFrom faults) hc
  obtain ⟨inner, home, outer, rfl, contains, nearest⟩ := exists_home some_level passed
  have home_leaves : ∀ l ∈ home.leaves, P l := around (some home) (by simp)
  exact ⟨inner, home, outer, rfl, contains, nearest,
    denoted_iff refl home_leaves own contains nearest⟩

/-! ### Queries inside a query of people -/

def peopleTable : Table := .single ⟨1⟩ "Person" "id"

def peopleId : ColumnRef := Table.wholeColumn ⟨1⟩ "Person" "id"

def petsTable : Table := .single ⟨2⟩ "Pet" "id"

/-- The table of pets, called by the name of the table of people. -/
def disguisedPets : Source := .alias ⟨3⟩ "Person" (.table petsTable)

/-- People for whom the source has a row; the condition inside is on the column of people. -/
def correlated (inner : Source) : Statement :=
  .query (.select { Select.empty with
    source := some (.relation (.table peopleTable))
    filter := some (.existsIn false { Select.empty with
      source := some inner
      filter := some (.isNull false (.column peopleId)) }) })

/-- The levels around the condition. -/
def correlatedLevels (inner : Source) : List Level :=
  [some inner, some (.relation (.table peopleTable))]

theorem peopleTable_built : peopleTable.Built :=
  Table.single_built ⟨1⟩ (by decide) (by decide)

theorem petsTable_built : petsTable.Built := Table.single_built ⟨2⟩ (by decide) (by decide)

theorem correlated_built {inner : Source} (h : ∀ l ∈ inner.leaves, l.Built) :
    (correlated inner).Built := by
  have people : (Leaf.table peopleTable).Built := .table peopleTable_built
  have column : (Leaf.column peopleId).Built :=
    Leaf.built_of_mem_columns peopleTable_built (List.mem_singleton_self _)
  intro l hl
  simp only [correlated, Statement.leaves, Query.leaves, Select.leaves, Select.empty, fromLeaves,
    Source.leaves, Relation.leaves, itemLeaves, optionLeaves, Expr.leaves, listLeaves, sortLeaves,
    placeholderLeaves, List.append_nil, List.mem_append, List.mem_singleton] at hl
  rcases hl with rfl | inside | rfl
  · exact people
  · exact h l inside
  · exact column

theorem mem_parts_correlated (inner : Source) :
    .column (correlatedLevels inner) peopleId ∈ (correlated inner).parts := by
  simp [correlated, correlatedLevels, Statement.parts, Query.parts, Select.parts, Select.empty,
    optionParts, Expr.parts]

theorem reference_kept_among_pets :
    ((correlated (.relation (.table petsTable))).build.toOption.map Seed.sql)
        = some ("SELECT Person.id FROM Person WHERE EXISTS "
          ++ "(SELECT Pet.id FROM Pet WHERE Person.id IS NULL)")
      ∧ KeptIff Text.sameName (correlatedLevels (.relation (.table petsTable))) peopleId
      ∧ (denoted Text.sameName (correlatedLevels (.relation (.table petsTable)))
        peopleId.qualifier peopleId.name).map ColumnRef.key = [peopleId.key] := by
  have built : (correlated (.relation (.table petsTable))).Built := by
    refine correlated_built fun l hl => ?_
    rw [List.mem_singleton.1 hl]
    exact .table petsTable_built
  have change : ∀ i, correlated (.relation (.table petsTable)) ≠ .insert i := by
    intro i same
    cases same
  have owned : ∀ l ∈ (correlated (.relation (.table petsTable))).leaves,
      l.Owned fun id => if id = ⟨1⟩ then "Person" else "Pet" := by
    simp [correlated, Statement.leaves, Query.leaves, Select.leaves, Select.empty, fromLeaves,
      Source.leaves, Relation.leaves, itemLeaves, optionLeaves, Expr.leaves, listLeaves,
      sortLeaves, placeholderLeaves, Leaf.Owned, peopleTable, petsTable, peopleId, Table.single,
      Table.wholeColumn]
  refine ⟨by decide, Statement.reference_kept_iff Text.sameName_refl built owned change
    (Statement.buildWith_eq_ok (p := .new {}) (d := .generic) (by decide))
    (mem_parts_correlated _), by decide⟩

/-- The name of an alias inside takes a reference to a table outside. -/
theorem reference_taken_by_alias :
    (correlated disguisedPets).Built
      ∧ ((correlated disguisedPets).build.toOption.map Seed.sql)
        = some ("SELECT Person.id FROM Person WHERE EXISTS "
          ++ "(SELECT Person.id FROM Pet AS Person WHERE Person.id IS NULL)")
      ∧ .column (correlatedLevels disguisedPets) peopleId ∈ (correlated disguisedPets).parts
      ∧ (denoted (· == ·) (correlatedLevels disguisedPets) peopleId.qualifier
        peopleId.name).map ColumnRef.key ≠ [peopleId.key] := by
  refine ⟨correlated_built fun l hl => ?_, by decide, mem_parts_correlated _, by decide⟩
  simp only [disguisedPets, Source.leaves, Relation.leaves, List.mem_cons, List.not_mem_nil,
    or_false] at hl
  rcases hl with rfl | rfl
  · exact .named (validateName_eq_ok_iff.2 (by decide))
  · exact .table petsTable_built

end TypedSql
