import TypedSql.Proofs.Render.Text
import TypedSql.Run.ResultRow

/-!
# Which result column a handle stands for

**Theorem (`Select.lookups`).** Rows and ORDER BY of a compound query take the first result column
with the identity of the handle. A view or a subquery takes the first one with that identity in its
lineage, which is another column exactly if an earlier one was copied from it.

A set derived from a query gives its columns an identity of their own. What they were copied from
is all that is left to search, and there the identity of a selected column counts no more than that
of what it was copied from.
-/

namespace TypedSql

variable {t : ValueType}

/-! ## First positions -/

theorem lt_of_findIdx? {cs : List ResultColumn} {p : ResultColumn → Bool} {i : Nat}
    (h : cs.findIdx? p = some i) : i < cs.length :=
  (List.findIdx?_eq_some_iff_getElem.1 h).choose

/-- What is found by a weaker condition is not found later. -/
theorem exists_findIdx?_le {cs : List ResultColumn} {p q : ResultColumn → Bool}
    (weaker : ∀ c, p c = true → q c = true) {i : Nat} (h : cs.findIdx? p = some i) :
    ∃ j ≤ i, cs.findIdx? q = some j := by
  obtain ⟨hi, found, -⟩ := List.findIdx?_eq_some_iff_getElem.1 h
  cases hq : cs.findIdx? q with
  | none =>
      have never := List.findIdx?_eq_none_iff.1 hq cs[i] (List.getElem_mem hi)
      rw [weaker _ found] at never
      cases never
  | some j =>
      refine ⟨j, ?_, rfl⟩
      obtain ⟨hj, -, before⟩ := List.findIdx?_eq_some_iff_getElem.1 hq
      refine Nat.le_of_not_lt fun later => ?_
      exact before i later (weaker _ found)

theorem find?_eq_of_findIdx? {cs : List ResultColumn} {p : ResultColumn → Bool} {j : Nat}
    (h : cs.findIdx? p = some j) : cs.find? p = some (cs.get ⟨j, lt_of_findIdx? h⟩) := by
  obtain ⟨hj, found, before⟩ := List.findIdx?_eq_some_iff_getElem.1 h
  exact List.find?_eq_some_iff_getElem.2 ⟨found, j, hj, rfl, fun k hk => by simpa using before k hk⟩

/-! ## Identity and lineage -/

theorem ResultColumn.derivesFrom_self {c : ResultColumn} {key : ColumnKey}
    (h : (c.key == key) = true) : c.derivesFrom key = true := by
  rw [derivesFrom, h, Bool.true_or]

/-- A selected column is looked up by its identity alone. -/
theorem resultIndex?_eq {cs : List ResultColumn} {key : ColumnKey} {i : Nat}
    (h : cs.findIdx? (·.key == key) = some i) : resultIndex? cs key = some i := by
  rw [resultIndex?, h]
  rfl

/-- The columns of a derived set are looked up by their lineage alone. -/
theorem findColumn?_derived (cs : List ResultColumn) {id : SetId} (qualifier : String)
    {key : ColumnKey} (fresh : id ≠ key.set) :
    findColumn? (cs.map (·.toColumn id qualifier)) key
      = (cs.find? (·.derivesFrom key)).map (·.toColumn id qualifier) := by
  have other : ∀ c : ResultColumn, ((c.toColumn id qualifier).key == key) = false := by
    intro c
    refine beq_false_of_ne fun same => fresh ?_
    rw [← same]
    rfl
  have lineage : ∀ c : ResultColumn,
      (c.toColumn id qualifier).derivesFrom key = c.derivesFrom key := by
    intro c
    rw [ColumnRef.derivesFrom, other, Bool.false_or]
    simp only [ResultColumn.toColumn, ResultColumn.derivesFrom, List.contains_cons]
    rw [Bool.beq_comm]
  have none : (cs.map (·.toColumn id qualifier)).find? (·.key == key) = none := by
    rw [List.find?_eq_none]
    intro c hc
    obtain ⟨result, -, rfl⟩ := List.mem_map.1 hc
    simp [other]
  rw [findColumn?, none, List.find?_map]
  simp only [Function.comp_def, lineage]
  rfl

/-- The column of a derived set. -/
theorem resolve_derived {r : Relation} {cs : List ResultColumn} {id : SetId} {qualifier : String}
    (columns : r.columns = cs.map (·.toColumn id qualifier)) {target : Target t}
    (fresh : id ≠ target.key.set) {j : Nat}
    (h : cs.findIdx? (·.derivesFrom target.key) = some j) :
    (Source.relation r).resolve target
      = .ok ⟨(cs.get ⟨j, lt_of_findIdx? h⟩).toColumn id qualifier, target.descriptor⟩ := by
  have found : (Source.relation r).find? target.key
      = some ((cs.get ⟨j, lt_of_findIdx? h⟩).toColumn id qualifier) := by
    rw [Source.find?, Source.columns, columns, findColumn?_derived cs qualifier fresh,
      find?_eq_of_findIdx? h]
    rfl
  rw [Source.resolve, found]

/-- The lineage leads to the column itself unless an earlier column was copied from it. -/
theorem derives_first_iff {cs : List ResultColumn} {key : ColumnKey} {i j : Nat}
    (hi : cs.findIdx? (·.key == key) = some i) (hj : cs.findIdx? (·.derivesFrom key) = some j) :
    j = i ↔ ∀ c ∈ cs.take i, key ∉ c.lineage := by
  obtain ⟨lti, isKey, notKey⟩ := List.findIdx?_eq_some_iff_getElem.1 hi
  obtain ⟨ltj, derives, notDerived⟩ := List.findIdx?_eq_some_iff_getElem.1 hj
  constructor
  · rintro rfl c hc copied
    obtain ⟨k, hk, rfl⟩ := List.mem_take_iff_getElem.1 hc
    refine notDerived k (by omega) ?_
    rw [ResultColumn.derivesFrom, List.contains_iff_mem.2 copied, Bool.or_true]
  · intro originals
    obtain ⟨j', le, hj'⟩ := exists_findIdx?_le (fun c => c.derivesFrom_self) hi
    have same : j' = j := Option.some.inj (hj'.symm.trans hj)
    subst same
    refine Nat.le_antisymm le (Nat.le_of_not_lt fun earlier => ?_)
    have copied : key ∈ cs[j'].lineage := by
      rw [ResultColumn.derivesFrom, Bool.or_eq_true] at derives
      rcases derives with own | lineage
      · exact absurd own (notKey j' earlier)
      · exact List.contains_iff_mem.1 lineage
    refine originals _ ?_ copied
    exact List.mem_take_iff_getElem.2 ⟨j', by omega, rfl⟩

theorem defineView_eq_ok {id : SetId} {name : String} {q : Select} {r : Relation}
    (h : Relation.defineView id name q = .ok r) : r = .view id name q := by
  unfold Relation.defineView at h
  obtain ⟨⟨⟩, -, h⟩ := exists_of_bind_eq_ok h
  dsimp only at h
  split at h
  · cases h
  · split at h
    · cases h
    · injection h with h
      exact h.symm

/-! ## The three lookups -/

/-- Let the handle be selected first at position `i`. Rows are read at `i`, and a compound query is
sorted by `i`. A subquery or a view takes a column at some `j` not behind `i`, which is the one at
`i` exactly if no column in front of `i` was copied from the handle, and exactly then the handle is
what its column was copied from at last. -/
theorem Select.lookups (q : Select) (target : Target t) {i : Nat}
    (hi : q.resultColumns.findIdx? (·.key == target.key) = some i) :
    (∀ (p p' : Pool) (d : Dialect) (seed : Seed) (row : Row),
        (Statement.query (.select q)).buildWith p d = (.ok seed, p') →
        (ResultRow.mk row seed).get target = (ResultRow.mk row seed).getAt i target.descriptor)
      ∧ (∀ (c : Compound) (order : SortOrder), c.first = q →
        c.addOrder target order = { c with orderBy := c.orderBy ++ [(i, order)] })
      ∧ ∃ j ≤ i, ∃ c, q.resultColumns[j]? = some c
        ∧ (∀ id ≠ target.key.set,
          (Source.ofQuery id (.select q)).resolve target
            = .ok ⟨c.toColumn id "", target.descriptor⟩)
        ∧ (∀ id ≠ target.key.set, ∀ (name : String) (r : Relation),
          Relation.defineView id name q = .ok r →
          (Source.relation r).resolve target = .ok ⟨c.toColumn id name, target.descriptor⟩)
        ∧ (j = i ↔ ∀ c ∈ q.resultColumns.take i, target.key ∉ c.lineage)
        ∧ (c.key = target.key ↔ j = i) := by
  refine ⟨?_, ?_, ?_⟩
  · intro p p' d seed row built
    have columns : seed.columns = q.resultColumns := Statement.columns_of_buildWith built
    have located : resultIndex? seed.columns target.key = some i := columns ▸ resultIndex?_eq hi
    simp only [ResultRow.get, ResultRow.locate, located]
    rfl
  · rintro c order rfl
    have located : resultIndex? c.resultColumns target.key = some i := resultIndex?_eq hi
    rw [Compound.addOrder, located]
  · obtain ⟨j, le, hj⟩ := exists_findIdx?_le (fun c => c.derivesFrom_self) hi
    obtain ⟨lti, isKey, notKey⟩ := List.findIdx?_eq_some_iff_getElem.1 hi
    have ltj : j < q.resultColumns.length := lt_of_findIdx? hj
    refine ⟨j, le, q.resultColumns[j], List.getElem?_eq_getElem ltj, ?_, ?_,
      derives_first_iff hi hj, ?_⟩
    · intro id fresh
      exact resolve_derived rfl fresh hj
    · intro id fresh name r defined
      rw [defineView_eq_ok defined]
      exact resolve_derived rfl fresh hj
    · constructor
      · intro own
        refine Nat.le_antisymm le (Nat.le_of_not_lt fun earlier => notKey j earlier ?_)
        exact beq_iff_eq.2 own
      · rintro rfl
        exact beq_iff_eq.1 isKey

/-! ### A table joined to its alias -/

def personTable : Table := .single ⟨1⟩ "Person" "id"

def personId : Column .int64 := ⟨Table.wholeColumn ⟨1⟩ "Person" "id", ⟨.int64, true⟩⟩

/-- Selects the alias's copy of the column in front of the column itself. -/
def selfJoin : Select :=
  { Select.empty with
    source := some (.join .cross (.alias ⟨2⟩ "p" (.table personTable))
      (.relation (.table personTable)) none)
    items := [.column (personId.ref.copy ⟨2⟩ "p"), .column personId.ref] }

theorem lookups_of_self_join :
    selfJoin.resultColumns.findIdx? (·.key == personId.target.key) = some 1
      ∧ (∀ (c : Compound) (order : SortOrder), c.first = selfJoin →
        c.addOrder personId.target order = { c with orderBy := c.orderBy ++ [(1, order)] })
      ∧ ∃ j ≤ 1, ∃ c, selfJoin.resultColumns[j]? = some c
        ∧ (Source.ofQuery ⟨3⟩ (.select selfJoin)).resolve personId.target
          = .ok ⟨c.toColumn ⟨3⟩ "", personId.descriptor⟩
        ∧ (j = 1 ↔ ∀ c ∈ selfJoin.resultColumns.take 1, personId.ref.key ∉ c.lineage) := by
  have selected : selfJoin.resultColumns.findIdx? (·.key == personId.target.key) = some 1 := by
    decide
  obtain ⟨-, sorted, j, le, c, found, subquery, -, earlier, -⟩ :=
    selfJoin.lookups personId.target selected
  exact ⟨selected, sorted, j, le, c, found, subquery ⟨3⟩ (by decide), earlier⟩

/-- The row is read at the column itself, the subquery gives the alias's copy. -/
theorem self_join_takes_the_copy :
    resultIndex? selfJoin.resultColumns personId.target.key = some 1
      ∧ selfJoin.resultColumns[1]?.map ResultColumn.name = some "id_1"
      ∧ ((Source.ofQuery ⟨3⟩ (.select selfJoin)).resolve personId.target).toOption.map
        (fun c => (c.ref.name, c.ref.origins.head?)) = some ("id", some ⟨⟨2⟩, "id"⟩) := by
  decide

end TypedSql
