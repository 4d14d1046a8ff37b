import TypedSql.Proofs.Render.Builds

/-!
# What the values of a new row refer to

No query is around the values of an INSERT. In a query nested in a value, a column is looked up in
the queries around it like anywhere else. A bare column has no level to be looked up in, and passes.

**Theorem (`Insert.builds_iff`).** An INSERT is built exactly if no mistake was noted and every node
reached from its values is faultless. To a bare column this asks nothing, so that any column of any
table is as good as a placeholder.

**Theorem (`Insert.inScope_iff_no_bare`).** In an INSERT that was built, every column in a nested
query belongs to a query around it. All columns do exactly if none of them is bare.
-/

namespace TypedSql

namespace Insert

variable {i : Insert}

/-- Every column reached in the values belongs to a query around it. -/
def InScope (i : Insert) : Prop :=
  ∀ levels c, (Statement.insert i).Reaches (.expr levels (.column c)) → Visible levels c

/-- The column is in a value, and no query is around it. -/
def Bare (i : Insert) (c : ColumnRef) : Prop := (Statement.insert i).Reaches (.expr [] (.column c))

/-! ## Which INSERTs are built -/

theorem clear_parts (i : Insert) :
    Clear i.parts ↔
      i.values.errors = [] ∧ ∀ root ∈ (Statement.insert i).roots, Clear root.parts := by
  have names : Clear (i.values.pairs.map fun pair => Part.name pair.1.name) :=
    List.forall_mem_map.2 fun _ _ => trivial
  rw [parts, clear_append, clear_append, clear_mistakes, clear_cons, List.flatMap_def,
    clear_flatten, List.forall_mem_map, Statement.roots, List.forall_mem_map, and_assoc]
  exact and_congr_right' (and_iff_right ⟨trivial, names⟩)

theorem clear_iff (i : Insert) :
    Clear i.parts
      ↔ i.values.errors = [] ∧ ∀ n, (Statement.insert i).Reaches n → n.Faultless := by
  rw [clear_parts, Statement.clear_roots_iff]

theorem builds_iff_clear {p : Pool} {d : Dialect} :
    (∃ seed p', (Statement.insert i).buildWith p d = (.ok seed, p')) ↔ Clear i.parts := by
  rw [Statement.builds_iff_faults_eq_nil, Piece.faults, Piece.faultsFrom_eq_nil_iff]
  exact (Statement.insert i).written.faultless_iff

theorem builds_iff {p : Pool} {d : Dialect} :
    (∃ seed p', (Statement.insert i).buildWith p d = (.ok seed, p'))
      ↔ i.values.errors = [] ∧ ∀ n, (Statement.insert i).Reaches n → n.Faultless :=
  builds_iff_clear.trans i.clear_iff

/-- A value is asked for nothing but its own parts. -/
theorem clear_give (i : Insert) (target : ColumnRef) {e f : Expr}
    (h : Clear (e.parts []) ↔ Clear (f.parts [])) :
    Clear (i.give target e).parts ↔ Clear (i.give target f).parts := by
  simp only [clear_parts, give, Assignments.give]
  split
  · rfl
  · split
    · rfl
    · simp only [Statement.roots, List.map_append, List.forall_mem_append, List.map_cons,
        List.map_nil, List.forall_mem_singleton]
      exact and_congr_right' (and_congr_right' h)

/-! ## Columns in and out of scope -/

theorem not_visible_nil (c : ColumnRef) : ¬ Visible [] c := by
  rintro ⟨s, hs, -⟩
  cases hs

theorem visible_of_reached (faultless : ∀ n, (Statement.insert i).Reaches n → n.Faultless)
    {levels : List Level} {c : ColumnRef}
    (reached : (Statement.insert i).Reaches (.expr levels (.column c))) (nested : levels ≠ []) :
    Visible levels c :=
  Or.resolve_left (faultless _ reached) nested

/-- **A new row refers to nothing out of scope exactly if none of its columns is bare.** A bare
column is let through like a placeholder. -/
theorem inScope_iff_no_bare (i : Insert) (p : Pool) (d : Dialect) :
    ((∃ seed p', (Statement.insert i).buildWith p d = (.ok seed, p'))
        ↔ i.values.errors = [] ∧ ∀ n, (Statement.insert i).Reaches n → n.Faultless)
      ∧ (∀ target c type,
        (∃ seed p', (Statement.insert (i.give target (.column c))).buildWith p d = (.ok seed, p'))
          ↔ ∃ seed p', (Statement.insert (i.give target (.bind (.blank type)))).buildWith p d
            = (.ok seed, p'))
      ∧ ((∃ seed p', (Statement.insert i).buildWith p d = (.ok seed, p')) →
        (∀ levels c, (Statement.insert i).Reaches (.expr levels (.column c)) → levels ≠ [] →
          Visible levels c)
        ∧ (i.InScope ↔ ∀ c, ¬ i.Bare c)) := by
  refine ⟨builds_iff, fun target c type => ?_, fun built => ?_⟩
  · rw [builds_iff_clear, builds_iff_clear]
    refine i.clear_give target ?_
    rw [Expr.parts, Expr.parts, clear_singleton, clear_singleton]
    exact iff_of_true (.inl rfl) trivial
  · have faultless := (builds_iff.1 built).2
    refine ⟨fun levels c reached nested => visible_of_reached faultless reached nested, ?_, ?_⟩
    · exact fun inScope c bare => not_visible_nil c (inScope [] c bare)
    · intro none levels c reached
      refine visible_of_reached faultless reached ?_
      rintro rfl
      exact none c reached

/-! ### Pets numbered after people -/

def petId : Column .int64 := ⟨Table.wholeColumn ⟨2⟩ "Pet" "id", ⟨.int64, true⟩⟩

/-- A new pet with the value as its number. -/
def newPet (e : Expr) : Insert := ({ table := petsTable } : Insert).set petId (.expr e true)

/-- The number of a person who has none. -/
def unnumbered : Expr :=
  .scalar { Select.empty with
    source := some (.relation (.table peopleTable))
    filter := some (.isNull false (.column peopleId)) }

theorem roots_newPet (e : Expr) : (Statement.insert (newPet e)).roots = [.expr [] e] := rfl

theorem inScope_of_unnumbered :
    (∃ seed p', (Statement.insert (newPet unnumbered)).buildWith (.new {}) .generic
        = (.ok seed, p'))
      ∧ (newPet unnumbered).InScope := by
  have built : ∃ seed p', (Statement.insert (newPet unnumbered)).buildWith (.new {}) .generic
      = (.ok seed, p') := Statement.builds_iff_faults_eq_nil.2 (by decide)
  refine ⟨built, ((inScope_iff_no_bare _ _ _).2.2 built).2.2 ?_⟩
  rintro c ⟨root, mem, path⟩
  rw [roots_newPet, List.mem_singleton] at mem
  subst mem
  rcases Relation.ReflTransGen.cases_head path with same | ⟨n, child, rest⟩
  · cases same
  · -- The only way on is into the query, and inside it there is a level around every column.
    have query : n.Inside := by
      rw [List.mem_singleton.1 child]
      trivial
    exact Node.Reaches.inside rest query rfl

/-- A pet gets the number of a person no query reads. -/
theorem bare_column_accepted :
    ∃ seed, (Statement.insert (newPet (.column peopleId))).build = .ok seed
      ∧ seed.sql = "INSERT INTO Pet (id) VALUES (Person.id)"
      ∧ (newPet (.column peopleId)).Bare peopleId ∧ ¬ (newPet (.column peopleId)).InScope := by
  have bare : (newPet (.column peopleId)).Bare peopleId :=
    ⟨_, List.mem_singleton_self _, .refl⟩
  refine ⟨_, rfl, by decide, bare, fun inScope => ?_⟩
  exact not_visible_nil peopleId (inScope [] peopleId bare)

end Insert
end TypedSql
