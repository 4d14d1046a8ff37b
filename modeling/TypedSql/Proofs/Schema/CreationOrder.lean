import TypedSql.Proofs.Schema.Declared
import TypedSql.Proofs.Schema.Placing

/-!
# The order of creation is one

**Theorem (`creationOrder_correct`).** For every list of declared tables:

* the error is a repeated name just if two of the tables have one name, case aside;
* with no repeated name there is an order just if the references among the listed tables have no
  circle, and then it has each table once, with the tables it refers to in front of it;
* in every state of the loop that keeps counters of the references left, no counter is negative,
  and where the loop ends it has placed the tables in that order.

References are between tables here and between positions in placing. Since a table is determined by
its identity, `Refers.edge` and `refers_of_edge` carry a path of one kind over to the other.
-/

namespace TypedSql

namespace CreationOrder

variable {tables : List Table} {t u : Table} {i j : Nat}

/-! ## Repeated names -/

/-- Two of the tables have one name, case aside. -/
def Repeats (tables : List Table) : Prop :=
  ∃ (i j : Nat) (t u : Table), i < j ∧ tables[i]? = some t ∧ tables[j]? = some u
    ∧ Text.sameName t.name u.name = true

theorem not_repeats_iff :
    ¬ Repeats tables ↔ tables.Pairwise fun t u => ¬ Text.sameName t.name u.name = true := by
  rw [List.pairwise_iff_getElem]
  constructor
  · intro none i j hi hj before same
    exact none ⟨i, j, tables[i], tables[j], before, List.getElem?_eq_getElem hi,
      List.getElem?_eq_getElem hj, same⟩
  · rintro distinct ⟨i, j, t, u, before, ht, hu, same⟩
    obtain ⟨hi, rfl⟩ := List.getElem?_eq_some_iff.1 ht
    obtain ⟨hj, rfl⟩ := List.getElem?_eq_some_iff.1 hu
    exact distinct i j hi hj before same

theorem duplicate?_go_eq_none_iff (earlier rest : List Table) :
    duplicate?.go earlier rest = none ↔
      (∀ t ∈ rest, ∀ e ∈ earlier, ¬ Text.sameName e.name t.name = true)
        ∧ rest.Pairwise fun t u => ¬ Text.sameName t.name u.name = true := by
  induction rest generalizing earlier with
  | nil => simp [duplicate?.go]
  | cons t rest ih =>
    unfold duplicate?.go
    by_cases taken : (earlier.any (Text.sameName ·.name t.name)) = true
    · obtain ⟨e, he, same⟩ := List.any_eq_true.1 taken
      rw [if_pos taken]
      refine iff_of_false (by simp) fun ⟨distinct, _⟩ => ?_
      exact distinct t List.mem_cons_self e he same
    · have free : ∀ e ∈ earlier, ¬ Text.sameName e.name t.name = true :=
        fun e he same => taken (List.any_eq_true.2 ⟨e, he, same⟩)
      rw [if_neg taken, ih, List.pairwise_cons]
      constructor
      · rintro ⟨apart, distinct⟩
        refine ⟨List.forall_mem_cons.2 ⟨free, fun u hu e he => ?_⟩, fun u hu => ?_, distinct⟩
        · exact apart u hu e (List.mem_cons_of_mem _ he)
        · exact apart u hu t List.mem_cons_self
      · rintro ⟨apart, first, distinct⟩
        refine ⟨fun u hu => List.forall_mem_cons.2 ⟨first u hu, ?_⟩, distinct⟩
        exact apart u (List.mem_cons_of_mem _ hu)

theorem duplicate?_eq_none_iff : duplicate? tables = none ↔ ¬ Repeats tables := by
  rw [not_repeats_iff, duplicate?, duplicate?_go_eq_none_iff]
  simp

/-- Tables without a repeated name are listed once each. -/
theorem nodup_of_not_repeats (h : ¬ Repeats tables) : tables.Nodup := by
  refine (not_repeats_iff.1 h).imp fun {t u} apart same => apart ?_
  rw [same]
  exact Text.sameName_refl u.name

/-! ## References among the listed tables -/

/-- One listed table has a foreign key to another one that is listed. -/
structure Refers (tables : List Table) (t u : Table) : Prop where
  mem : t ∈ tables
  mem_right : u ∈ tables
  other : u.id ≠ t.id
  foreignKey : ∃ c ∈ t.columns, ∃ fk, c.constraints.foreignKey = some fk ∧ fk.tableId = u.id

theorem Refers.reference (h : Refers tables t u) : u.id ∈ t.references :=
  Table.mem_references.2 ⟨h.other, h.foreignKey⟩

/-- Listed tables are determined by their identities. -/
def Unique (tables : List Table) : Prop := ∀ t ∈ tables, ∀ u ∈ tables, t.id = u.id → t = u

theorem Unique.of_declared {drafts : List TableDraft} {declared : List Table} {s : Supply}
    (h : Declared drafts declared s) (listed : ∀ t ∈ tables, t ∈ declared) : Unique tables :=
  fun t ht u hu same => h.eq_of_id_eq t (listed t ht) u (listed u hu) same

theorem refers_of_edge (edge : Edge tables i j) (ht : tables[i]? = some t)
    (hu : tables[j]? = some u) : Refers tables t u := by
  obtain ⟨t', ht', id, reference, found⟩ := edge_iff.1 edge
  obtain ⟨u', hu', rfl⟩ := of_position?_eq_some found
  obtain rfl : t' = t := Option.some.inj (ht'.symm.trans ht)
  obtain rfl : u' = u := Option.some.inj (hu'.symm.trans hu)
  obtain ⟨other, foreignKey⟩ := Table.mem_references.1 reference
  exact ⟨List.mem_of_getElem? ht, List.mem_of_getElem? hu, other, foreignKey⟩

/-- The position of a listed table. -/
def positionOf (tables : List Table) (t : Table) : Nat := (position? tables t.id).getD 0

theorem position?_eq (ht : t ∈ tables) : position? tables t.id = some (positionOf tables t) := by
  obtain ⟨i, found⟩ := exists_position?_eq_some ht
  rw [positionOf, found, Option.getD_some]

theorem Unique.getElem?_positionOf (unique : Unique tables) (ht : t ∈ tables) :
    tables[positionOf tables t]? = some t := by
  obtain ⟨t', ht', same⟩ := of_position?_eq_some (position?_eq ht)
  rw [ht', unique t' (List.mem_of_getElem? ht') t ht same]

theorem Refers.edge (unique : Unique tables) (h : Refers tables t u) :
    Edge tables (positionOf tables t) (positionOf tables u) :=
  edge_iff.2
    ⟨t, unique.getElem?_positionOf h.mem, u.id, h.reference, position?_eq h.mem_right⟩

theorem refers_of_path (path : Relation.TransGen (Edge tables) i j) (ht : tables[i]? = some t)
    (hu : tables[j]? = some u) : Relation.TransGen (Refers tables) t u := by
  induction path generalizing u with
  | single edge => exact .single (refers_of_edge edge ht hu)
  | tail _ edge ih =>
    obtain ⟨v, hv, -⟩ := edge_iff.1 edge
    exact .tail (ih hv) (refers_of_edge edge hv hu)

/-- Tables lie on a circle just if positions do. -/
theorem Unique.acyclic_iff (unique : Unique tables) :
    (∀ i, ¬ Relation.TransGen (Edge tables) i i)
      ↔ ∀ t, ¬ Relation.TransGen (Refers tables) t t := by
  constructor
  · intro acyclic t circle
    exact acyclic (positionOf tables t)
      (Relation.TransGen.lift (positionOf tables) (fun _ _ refers => refers.edge unique) _ _ circle)
  · intro acyclic i circle
    obtain ⟨j, edge, -⟩ := Relation.TransGen.head'_iff.1 circle
    obtain ⟨t, ht, -⟩ := edge_iff.1 edge
    exact acyclic t (refers_of_path circle ht ht)

/-! ## The order -/

/-- The listed tables, each behind the tables it refers to. -/
structure Ordered (tables order : List Table) : Prop where
  perm : order.Perm tables
  front : ∀ before t behind, order = before ++ t :: behind →
    ∀ u, Refers tables t u → u ∈ before

/-- The tables at all positions are the tables. -/
theorem filterMap_getElem?_range (tables : List Table) :
    (List.range tables.length).filterMap (tables[·]?) = tables := by
  induction tables with
  | nil => rfl
  | cons t tables ih =>
    rw [List.length_cons, List.range_succ_eq_map, List.filterMap_cons_some (by rfl),
      List.filterMap_map]
    exact congrArg (t :: ·) ih

theorem Placed.ordered {placed : List Nat} (h : Placed tables placed) (unique : Unique tables)
    (nodup : tables.Nodup) (full : placed.length = tables.length) :
    Ordered tables (placed.filterMap (tables[·]?)) := by
  have perm : placed.Perm (List.range tables.length) :=
    h.subperm_range.perm_of_length_le (by simp [full])
  refine ⟨?_, fun before t behind split u refers => ?_⟩
  · have tablesPerm := perm.filterMap (tables[·]?)
    rwa [filterMap_getElem?_range] at tablesPerm
  · -- the position of `t` splits the placed positions where `t` splits the tables
    obtain ⟨front, rest, rfl, rfl, hrest⟩ := List.filterMap_eq_append_iff.1 split
    obtain ⟨skipped, i, back, rfl, empty, ht, -⟩ := List.filterMap_eq_cons_iff.1 hrest
    have hu := unique.getElem?_positionOf refers.mem_right
    have same : i = positionOf tables t := by
      obtain ⟨_, at_i⟩ := List.getElem?_eq_some_iff.1 ht
      obtain ⟨_, at_t⟩ := List.getElem?_eq_some_iff.1 (unique.getElem?_positionOf refers.mem)
      exact nodup.getElem_inj_iff.1 (at_i.trans at_t.symm)
    have edge : Edge tables i (positionOf tables u) := same ▸ refers.edge unique
    rcases List.mem_append.1 (h.front (front ++ skipped) i back (by simp) _ edge) with hb | hs
    · exact List.mem_filterMap.2 ⟨_, hb, hu⟩
    · rw [empty _ hs] at hu
      cases hu

end CreationOrder

open CreationOrder

variable {tables declared order : List Table} {drafts : List TableDraft} {s : Supply}

theorem creationOrder_eq_duplicateTable_iff :
    (∃ name, creationOrder tables = .error (.duplicateTable name)) ↔ Repeats tables := by
  unfold creationOrder
  cases found : duplicate? tables with
  | none =>
    refine iff_of_false ?_ (duplicate?_eq_none_iff.1 found)
    rintro ⟨name, failed⟩
    dsimp only at failed
    split_ifs at failed
    cases failed
  | some t =>
    refine iff_of_true ⟨t.name, rfl⟩ ?_
    by_contra distinct
    rw [duplicate?_eq_none_iff.2 distinct] at found
    cases found

/-- Without a repeated name there is an order where placing gets to every table. -/
theorem creationOrder_eq_ok_iff (distinct : ¬ Repeats tables) :
    creationOrder tables = .ok order ↔ (place tables [] tables.length).length = tables.length
      ∧ order = (place tables [] tables.length).filterMap (tables[·]?) := by
  unfold creationOrder
  rw [duplicate?_eq_none_iff.2 distinct]
  dsimp only
  split_ifs with full
  · rw [Except.ok.injEq]
    exact ⟨fun same => ⟨full, same.symm⟩, fun ⟨_, same⟩ => same.symm⟩
  · exact iff_of_false (by simp) fun ⟨all, _⟩ => full all

/-- **The order of creation is a topological order of the references, and there is one where there
can be one; the counters of a loop that finds it stay at zero or above.** -/
theorem creationOrder_correct (h : Declared drafts declared s)
    (listed : ∀ t ∈ tables, t ∈ declared) :
    ((∃ name, creationOrder tables = .error (.duplicateTable name)) ↔ Repeats tables)
      ∧ (¬ Repeats tables →
        ((∃ order, creationOrder tables = .ok order) ↔ ∀ t, ¬ Relation.TransGen (Refers tables) t t)
          ∧ ∀ order, creationOrder tables = .ok order → Ordered tables order)
      ∧ ∀ loop, Loop.Reached tables loop →
        (∀ i, 0 ≤ loop.left i)
          ∧ (loop.next tables = none → loop.order = place tables [] tables.length) := by
  have unique : Unique tables := .of_declared h listed
  have placed : Placed tables (place tables [] tables.length) := placed_place .nil _
  have stuck : next? tables (place tables [] tables.length) = none := next?_place .nil (by simp)
  refine ⟨creationOrder_eq_duplicateTable_iff, fun distinct => ⟨?_, ?_⟩, fun loop reached => ?_⟩
  · rw [← unique.acyclic_iff, ← placed.full_iff stuck]
    constructor
    · rintro ⟨order, found⟩
      exact ((creationOrder_eq_ok_iff distinct).1 found).1
    · intro full
      exact ⟨_, (creationOrder_eq_ok_iff distinct).2 ⟨full, rfl⟩⟩
  · intro order found
    obtain ⟨full, rfl⟩ := (creationOrder_eq_ok_iff distinct).1 found
    exact placed.ordered unique (nodup_of_not_repeats distinct) full
  · exact ⟨reached.left_nonneg, reached.order_eq⟩

/-! ### A shelf -/

/-- A table with one column, which may refer to another table. -/
def pointing (id : SetId) (name column : String) (target : Option ForeignKey) : Table :=
  ⟨id, name, [{ Table.wholeColumn id name column with constraints.foreignKey := target }]⟩

theorem Declared.pointing (h : Declared drafts declared s) {name column : String}
    (hn : isValidName name = true) (hc : isValidName column = true) (target : Option ForeignKey) :
    Declared drafts (pointing s.set.1 name column target :: declared) s.set.2 := by
  have added : TableDraft.add ⟨s.set.1, name, []⟩
        (⟨column, .int64, true, { foreignKey := target }, none, none⟩ : ColumnSpec .int64)
      = .ok (⟨{ Table.wholeColumn s.set.1 name column with constraints.foreignKey := target },
          ⟨.int64, true⟩⟩,
        ⟨s.set.1, name, (TypedSql.pointing s.set.1 name column target).columns⟩) := by
    unfold TableDraft.add TableDraft.checkName
    rw [validateName_eq_ok_iff.2 hc]
    rfl
  have opened : Declared ([] ++ ⟨s.set.1, name, []⟩ :: drafts) declared s.set.2 := .draft name h
  refine .build (.add opened added) ?_
  rw [TableDraft.build, validateName_eq_ok_iff.2 hn]
  rfl

def authors : Table := pointing ⟨1⟩ "Author" "id" none

/-- Books refer to authors. -/
def books : Table :=
  pointing ⟨2⟩ "Book" "author" (some { tableId := ⟨1⟩, table := "Author", column := "id" })

theorem declared_shelf : Declared [] [books, authors] ⟨3⟩ :=
  .pointing (.pointing .start (by decide) (by decide) _) (by decide) (by decide) _

theorem creationOrder_shelf : creationOrder [books, authors] = .ok [authors, books] := by rfl

/-- Books are declared in front of authors and created behind them. -/
theorem creationOrder_correct_of_shelf :
    Declared [] [books, authors] ⟨3⟩ ∧ Ordered [books, authors] [authors, books]
      ∧ ∀ t, ¬ Relation.TransGen (Refers [books, authors]) t t := by
  have listed : ∀ t ∈ [books, authors], t ∈ [books, authors] := fun _ h => h
  have correct := creationOrder_correct declared_shelf listed
  have distinct : ¬ Repeats [books, authors] := duplicate?_eq_none_iff.1 rfl
  exact ⟨declared_shelf, (correct.2.1 distinct).2 _ creationOrder_shelf,
    (correct.2.1 distinct).1.1 ⟨_, creationOrder_shelf⟩⟩

end TypedSql
