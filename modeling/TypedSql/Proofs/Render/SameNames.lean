import TypedSql.Proofs.Render.SelectList

/-!
# Result columns whose names differ in case

SQL compares names without regard to case. Result columns are named by exact comparison, so that two
of them can differ in case alone; and then the columns of a subquery or a view are not told apart.

**Theorem (`Select.denoted_iff_apart`).** The names of a query that was built are distinct. Every
column of a subquery or a view of it is denoted by its own name, and by nothing else, exactly if no
two of the names are the same without regard to case. That is so exactly if the names would have
been given, and the labels been let through, had they been compared in that way.
-/

namespace TypedSql

variable {same : String → String → Bool}

/-- Every column is alone under its name exactly if no two names are the same. -/
theorem filter_eq_singleton_iff (refl : ∀ n, same n n = true)
    (comm : ∀ m n, same m n = same n m) (cs : List ColumnRef) :
    (∀ c ∈ cs, (cs.filter fun x => same x.name c.name) = [c])
      ↔ cs.Pairwise fun b c => same b.name c.name = false := by
  constructor
  · intro alone
    refine List.pairwise_iff_forall_sublist.2 fun {b c} pair => ?_
    by_contra both
    rw [Bool.not_eq_false] at both
    have kept := pair.filter fun x => same x.name c.name
    simp only [List.filter_cons, both, refl, if_true] at kept
    rw [alone c (pair.subset (by simp))] at kept
    exact absurd kept.length_le (by simp)
  · intro apart
    induction cs with
    | nil => exact List.forall_mem_nil _
    | cons b cs ih =>
      obtain ⟨first, later⟩ := List.pairwise_cons.1 apart
      refine List.forall_mem_cons.2 ⟨?_, fun c hc => ?_⟩
      · have others : (cs.filter fun x => same x.name b.name) = [] := by
          refine List.filter_eq_nil_iff.2 fun c hc => ?_
          rw [comm, first c hc]
          exact Bool.false_ne_true
        rw [List.filter_cons, if_pos (refl _), others]
      · rw [List.filter_cons, if_neg (by rw [first c hc]; exact Bool.false_ne_true), ih later c hc]

/-- In a set of its own, a column's written name is looked up among the columns of the set. -/
theorem Relation.denoted_eq {r : Relation} {c : ColumnRef} (refl : ∀ n, same n n = true)
    (named : c.qualifier = "" ∨ r.exposedName? = some c.qualifier) :
    (Source.relation r).denoted same c.qualifier c.name
      = r.columns.filter fun x => same x.name c.name := by
  have all : (Source.relation r).qualifiedColumns same c.qualifier = r.columns := by
    unfold Source.qualifiedColumns
    split
    · rfl
    · next qualified =>
      have name := named.resolve_left fun none => qualified (by rw [none]; rfl)
      simp [Source.exposures, name, refl]
  rw [Source.denoted, all]

/-- The set is a subquery or a view of the query. -/
def Relation.Derives (q : Select) : Relation → Prop
  | .table _ => False
  | .view _ _ r => r = q
  | .subquery _ r => r = .select q

theorem Relation.Derives.columns_eq {r : Relation} {q : Select} (h : r.Derives q) :
    ∃ id qualifier, r.columns = q.resultColumns.map (·.toColumn id qualifier)
      ∧ (qualifier = "" ∨ r.exposedName? = some qualifier) := by
  cases r with
  | table t => exact h.elim
  | view id name r =>
    cases h
    exact ⟨id, name, rfl, .inr rfl⟩
  | subquery id r =>
    cases h
    exact ⟨id, "", rfl, .inl rfl⟩

theorem Relation.Derives.denoted_iff {r : Relation} {q : Select} (h : r.Derives q)
    (refl : ∀ n, same n n = true) (comm : ∀ m n, same m n = same n m) :
    (∀ c ∈ r.columns, (Source.relation r).denoted same c.qualifier c.name = [c])
      ↔ (q.resultColumns.map ResultColumn.name).Pairwise fun m n => same m n = false := by
  obtain ⟨id, qualifier, columns, named⟩ := h.columns_eq
  have own : ∀ c ∈ r.columns, (Source.relation r).denoted same c.qualifier c.name
      = r.columns.filter fun x => same x.name c.name := by
    intro c hc
    rw [columns] at hc
    obtain ⟨result, -, rfl⟩ := List.mem_map.1 hc
    exact r.denoted_eq refl named
  have alone := filter_eq_singleton_iff refl comm r.columns
  rw [columns, List.pairwise_map] at alone
  rw [List.pairwise_map]
  refine Iff.trans ?_ (columns ▸ alone)
  exact forall₂_congr fun c hc => by rw [own c (columns ▸ hc), columns]

namespace Select

/-- **The columns of a subquery or a view are told apart exactly if no two names are the same**
without regard to case. -/
theorem denoted_iff_apart {q : Select} {p p' : Pool} {d : Dialect} {seed : Seed}
    (built : (Statement.query (.select q)).buildWith p d = (.ok seed, p')) :
    (seed.columns.map ResultColumn.name).Nodup
      ∧ (∀ r : Relation, r.Derives q →
        ((∀ c ∈ r.columns, (Source.relation r).denoted Text.sameName c.qualifier c.name = [c])
          ↔ (seed.columns.map ResultColumn.name).Pairwise fun m n => Text.sameName m n = false))
      ∧ ((seed.columns.map ResultColumn.name).Pairwise (fun m n => Text.sameName m n = false)
        ↔ NamesGiven Text.sameName [] q.entries (seed.columns.map ResultColumn.name)
          ∧ LabelsApart Text.sameName [] q.entries (seed.columns.map ResultColumn.name)) := by
  have columns : seed.columns = q.resultColumns := Statement.columns_of_buildWith built
  rw [columns]
  have names : q.resultColumns.map ResultColumn.name
      = (nameEntries [] q.entries).map NamedEntry.name := map_name_resultColumns q.entries
  have given := namesGiven_nameEntries [] q.entries
  rw [← names] at given
  refine ⟨?_, fun r h => h.denoted_iff Text.sameName_refl Text.sameName_comm, ?_⟩
  · exact names.symm ▸ (Query.unrepeated_of_built built).nodup.1
  · refine Iff.trans ?_ (given.apart_iff Text.sameName_refl)
    rw [namesApart_iff]
    refine (and_iff_right fun n _ taken => ?_).symm
    obtain ⟨m, none, -⟩ := taken
    cases none

/-! ### Columns of two tables -/

theorem denoted_iff_apart_of_people :
    ∃ seed, (Statement.query (.select peopleAndPets)).build = .ok seed
      ∧ (seed.columns.map ResultColumn.name).Pairwise (fun m n => Text.sameName m n = false)
      ∧ ∀ c ∈ (Relation.subquery ⟨3⟩ (.select peopleAndPets)).columns,
        (Source.relation (.subquery ⟨3⟩ (.select peopleAndPets))).denoted Text.sameName
          c.qualifier c.name = [c] := by
  have built := Statement.buildWith_eq_ok (s := .query (.select peopleAndPets)) (p := .new {})
    (d := .generic) (by decide)
  refine ⟨_, congrArg Prod.fst built, by decide, ?_⟩
  exact ((denoted_iff_apart built).2.1 (.subquery ⟨3⟩ (.select peopleAndPets)) rfl).2 (by decide)

/-- The columns `a` of one table and `A` of another. -/
def lettersInBothCases : Select :=
  { Select.empty with
    source := some (.join .cross (.relation (.table (.single ⟨1⟩ "T" "a")))
      (.relation (.table (.single ⟨2⟩ "U" "A"))) none) }

/-- In a subquery of both, either name denotes both columns. -/
theorem letters_share_a_name :
    ∃ seed, (Statement.query (.select lettersInBothCases)).build = .ok seed
      ∧ seed.columns.map ResultColumn.name = ["a", "A"]
      ∧ Text.sameName "a" "A" = true
      ∧ ((Source.relation (.subquery ⟨3⟩ (.select lettersInBothCases))).denoted Text.sameName
          "" "A").map ColumnRef.name = ["a", "A"] := by
  have built := Statement.buildWith_eq_ok (s := .query (.select lettersInBothCases)) (p := .new {})
    (d := .generic) (by decide)
  exact ⟨_, congrArg Prod.fst built, by decide, by decide, by decide⟩

end Select
end TypedSql
