import TypedSql.Proofs.Query.Exposed
import TypedSql.Proofs.Render.Parts

/-!
# What the parts are made of

**Theorem (`Statement.within`).** If every leaf of a statement has a property, every part of it is
made of leaves that have it.

A column that a source exposes need not be a leaf of the statement itself, since the query it comes
from may select all columns; it is then traced to the leaves of its source. What is to hold of the
query levels around a column is given by a second property, which a query passes on to what is
inside.
-/

namespace TypedSql

/-- A leaf with the property, or exposed by a source all of whose leaves have it. -/
def Available (P : Leaf → Prop) (c : ColumnRef) : Prop :=
  P (.column c) ∨ ∃ s : Source, (∀ l ∈ s.leaves, P l) ∧ c ∈ s.columns

def ResultEntry.Available (P : Leaf → Prop) : ResultEntry → Prop
  | .column c => TypedSql.Available P c
  | .labelled key _ => P (.label key.name)

/-- The name is written for the leaf. -/
def Leaf.Carries : Leaf → String → Prop
  | .column c, n => n = c.name
  | .label m, n => n = m
  | .table t, n => n = t.name
  | .named _ m, n => n = m
  | _, _ => False

/-- The part is made of leaves with the property `P`, and the levels around it have `R`. -/
def Part.Within (P : Leaf → Prop) (R : List Level → Prop) : Part → Prop
  | .column levels c => P (.column c) ∧ R levels
  | .selected c => Available P c
  | .resultName e => e.entry.Available P ∧ e.Named
  | .name n => ∃ l, P l ∧ l.Carries n
  | .bind p => P (.bind p)
  | .castType type => P (.castType type)
  | .mistake _ => True

variable {P : Leaf → Prop} {R : List Level → Prop}

/-- The property of levels is passed on from the outside to the inside. -/
def Extends (P : Leaf → Prop) (R : List Level → Prop) : Prop :=
  ∀ (source : Level) (outer : List Level),
    (∀ l ∈ fromLeaves source, P l) → outer = [] ∨ R outer → R (source :: outer)

/-- The level of a statement that changes a table. -/
theorem Extends.table (extend : Extends P R) {t : Table} (h : P (.table t)) : R [t.level] := by
  refine extend _ _ ?_ (.inl rfl)
  simpa [fromLeaves, Table.level, Source.leaves, Relation.leaves] using h

/-! ## Select lists -/

theorem mistakes_within (es : List SchemaError) : ∀ x ∈ es.map Part.mistake, x.Within P R := by
  intro x hx
  obtain ⟨e, -, rfl⟩ := List.mem_map.1 hx
  trivial

theorem placeholder_within (p : Option Placeholder) (h : ∀ l ∈ placeholderLeaves p, P l) :
    ∀ x ∈ placeholderParts p, x.Within P R := by
  cases p with
  | none => exact List.forall_mem_nil _
  | some p =>
      intro x hx
      rw [List.mem_singleton.1 hx]
      exact h _ (List.mem_singleton_self _)

/-- The columns of a source, where nothing else is listed. -/
theorem source_available (source : Level) (h : ∀ l ∈ fromLeaves source, P l) {c : ColumnRef}
    (hc : c ∈ (Scope.ofSource source).columns) : Available P c := by
  cases source with
  | none => cases hc
  | some s => exact .inr ⟨s, h, hc⟩

theorem item_available (items : List ResultItem) (h : ∀ l ∈ itemLeaves items, P l) :
    ∀ e ∈ items.map ResultItem.entry, e.Available P := by
  induction items with
  | nil => exact List.forall_mem_nil _
  | cons item items ih =>
      intro e he
      cases item with
      | column c =>
          rcases List.mem_cons.1 he with rfl | later
          · exact .inl (h _ List.mem_cons_self)
          · exact ih (fun l hl => h l (List.mem_cons_of_mem _ hl)) e later
      | labelled key expr type =>
          rcases List.mem_cons.1 he with rfl | later
          · exact h _ List.mem_cons_self
          · refine ih (fun l hl => h l ?_) e later
            exact List.mem_cons_of_mem _ (List.mem_append_right _ hl)

theorem listed_available (source : Level) (items : List ResultItem)
    (hs : ∀ l ∈ fromLeaves source, P l) (hi : ∀ l ∈ itemLeaves items, P l) :
    ∀ e ∈ listedEntries source items, e.Available P := by
  cases items with
  | nil =>
      intro e he
      obtain ⟨c, hc, rfl⟩ := List.mem_map.1 he
      exact source_available source hs hc
  | cons item items => exact item_available _ hi

theorem listed_within (source : Level) (items : List ResultItem) (xss : List (List Part))
    (hs : ∀ l ∈ fromLeaves source, P l) (h : ∀ xs ∈ xss, ∀ x ∈ xs, x.Within P R) :
    ∀ xs ∈ listedParts source items xss, ∀ x ∈ xs, x.Within P R := by
  cases items with
  | nil =>
      intro xs hxs x hx
      obtain ⟨c, hc, rfl⟩ := List.mem_map.1 hxs
      rw [List.mem_singleton.1 hx]
      exact source_available source hs hc
  | cons item items => exact h

theorem selectList_within {entries : List (NamedEntry × List Part)} (seen : List String)
    (he : ∀ e ∈ entries, e.1.entry.Available P ∧ e.1.Named)
    (hx : ∀ e ∈ entries, ∀ x ∈ e.2, x.Within P R) :
    ∀ xs ∈ selectListParts seen entries, ∀ x ∈ xs, x.Within P R := by
  induction entries generalizing seen with
  | nil => exact List.forall_mem_nil _
  | cons first rest ih =>
      obtain ⟨e, ys⟩ := first
      have label : (Part.resultName e).Within P R := he _ List.mem_cons_self
      intro xs hxs x hmem
      rcases List.mem_cons.1 hxs with rfl | later
      · rcases List.mem_append.1 hmem with front | back
        · rcases List.mem_append.1 front with repeated | inside
          · split at repeated
            · rw [List.mem_singleton.1 repeated]
              trivial
            · cases repeated
          · exact hx _ List.mem_cons_self x inside
        · split at back
          · rw [List.mem_singleton.1 back]
            exact label
          · split at back
            · rw [List.mem_singleton.1 back]
              exact label
            · cases back
      · exact ih _ (fun e h => he e (List.mem_cons_of_mem _ h))
          (fun e h => hx e (List.mem_cons_of_mem _ h)) xs later x hmem

/-- The entries of a select list with their names, from their parts one by one. -/
theorem entries_within (source : Level) (items : List ResultItem) (xss : List (List Part))
    (hs : ∀ l ∈ fromLeaves source, P l) (hi : ∀ l ∈ itemLeaves items, P l)
    (h : ∀ xs ∈ xss, ∀ x ∈ xs, x.Within P R) :
    ∀ x ∈ (selectListParts [] ((nameEntries [] (listedEntries source items)).zip
      (listedParts source items xss))).flatten, x.Within P R := by
  intro x hx
  obtain ⟨xs, hxs, hmem⟩ := List.mem_flatten.1 hx
  refine selectList_within [] ?_ ?_ xs hxs x hmem
  · intro e he
    obtain ⟨entry, named⟩ := mem_nameEntries (List.of_mem_zip he).1
    exact ⟨listed_available source items hs hi _ entry, named⟩
  · intro e he
    exact listed_within source items xss hs h _ (List.of_mem_zip he).2

/-! ## Expressions and queries -/

theorem flatten_within {xss : List (List Part)} (h : ∀ xs ∈ xss, ∀ x ∈ xs, x.Within P R) :
    ∀ x ∈ xss.flatten, x.Within P R := by
  intro x hx
  obtain ⟨xs, hxs, hmem⟩ := List.mem_flatten.1 hx
  exact h xs hxs x hmem

section

variable (extend : Extends P R)
include extend

-- All of the block needs the assumption, though not every member by itself.
set_option linter.unusedSectionVars false

mutual

theorem Expr.within {levels : List Level} (hR : R levels) :
    (e : Expr) → (∀ l ∈ e.leaves, P l) → ∀ x ∈ e.parts levels, x.Within P R
  | .column c, h => by
    rw [Expr.parts, List.forall_mem_singleton]
    exact ⟨h _ (List.mem_singleton_self _), hR⟩
  | .label name, h => by
    rw [Expr.parts, List.forall_mem_singleton]
    exact ⟨.label name, h _ (List.mem_singleton_self _), rfl⟩
  | .bind p, h => by
    rw [Expr.parts, List.forall_mem_singleton]
    exact h _ (List.mem_singleton_self _)
  | .countRows, _ => List.forall_mem_nil _
  | .compare op lhs rhs, h => by
    rw [Expr.leaves, List.forall_mem_append] at h
    rw [Expr.parts, List.forall_mem_append]
    exact ⟨lhs.within hR h.1, rhs.within hR h.2⟩
  | .binary op lhs rhs, h => by
    rw [Expr.leaves, List.forall_mem_append] at h
    rw [Expr.parts, List.forall_mem_append]
    exact ⟨lhs.within hR h.1, rhs.within hR h.2⟩
  | .like negated e pattern escape, h => by
    rw [Expr.leaves, List.forall_mem_append, List.forall_mem_append] at h
    rw [Expr.parts, List.forall_mem_append, List.forall_mem_append]
    exact ⟨⟨e.within hR h.1.1, pattern.within hR h.1.2⟩, option_within hR escape h.2⟩
  | .isNull negated e, h => e.within hR h
  | .not e, h => e.within hR h
  | .cast e type, h => by
    rw [Expr.leaves, List.forall_mem_append] at h
    rw [Expr.parts, List.forall_mem_append]
    refine ⟨e.within hR h.1, ?_⟩
    rw [List.forall_mem_singleton] at h ⊢
    exact h.2
  | .between negated e low high, h => by
    rw [Expr.leaves, List.forall_mem_append, List.forall_mem_append] at h
    rw [Expr.parts, List.forall_mem_append, List.forall_mem_append]
    exact ⟨⟨e.within hR h.1.1, low.within hR h.1.2⟩, high.within hR h.2⟩
  | .inList negated e [], _ => List.forall_mem_nil _
  | .inList negated e (item :: items), h => by
    rw [Expr.leaves, listLeaves, List.forall_mem_append, List.forall_mem_append] at h
    rw [Expr.parts, List.forall_mem_append, List.forall_mem_append]
    exact ⟨⟨e.within hR h.1, item.within hR h.2.1⟩, flatten_within (list_within hR items h.2.2)⟩
  | .inQuery negated e query, h => by
    rw [Expr.leaves, List.forall_mem_append] at h
    rw [Expr.parts, List.forall_mem_append]
    exact ⟨e.within hR h.1, query.within (.inr hR) h.2⟩
  | .existsIn negated query, h => query.within (.inr hR) h
  | .scalar query, h => query.within (.inr hR) h
  | .logical op operands, h => flatten_within (list_within hR operands h)
  | .call f distinct args, h => flatten_within (list_within hR args h)

theorem option_within {levels : List Level} (hR : R levels) :
    (e : Option Expr) → (∀ l ∈ optionLeaves e, P l) → ∀ x ∈ optionParts levels e, x.Within P R
  | none, _ => List.forall_mem_nil _
  | some e, h => e.within hR h

theorem list_within {levels : List Level} (hR : R levels) :
    (es : List Expr) → (∀ l ∈ listLeaves es, P l) →
      ∀ xs ∈ listParts levels es, ∀ x ∈ xs, x.Within P R
  | [], _ => List.forall_mem_nil _
  | e :: rest, h => by
    rw [listLeaves, List.forall_mem_append] at h
    exact List.forall_mem_cons.2 ⟨e.within hR h.1, list_within hR rest h.2⟩

theorem item_within {levels : List Level} (hR : R levels) :
    (items : List ResultItem) → (∀ l ∈ itemLeaves items, P l) →
      ∀ xs ∈ itemParts levels items, ∀ x ∈ xs, x.Within P R
  | [], _ => List.forall_mem_nil _
  | .column c :: rest, h => by
    rw [itemLeaves, List.forall_mem_cons] at h
    rw [itemParts, List.forall_mem_cons, List.forall_mem_singleton]
    exact ⟨.inl h.1, item_within hR rest h.2⟩
  | .labelled key e type :: rest, h => by
    rw [itemLeaves, List.cons_append, List.forall_mem_cons, List.forall_mem_append] at h
    rw [itemParts, List.forall_mem_cons]
    exact ⟨e.within hR h.2.1, item_within hR rest h.2.2⟩

theorem sort_within {levels : List Level} (hR : R levels) :
    (terms : List SortTerm) → (∀ l ∈ sortLeaves terms, P l) →
      ∀ xs ∈ sortParts levels terms, ∀ x ∈ xs, x.Within P R
  | [], _ => List.forall_mem_nil _
  | ⟨e, order⟩ :: rest, h => by
    rw [sortLeaves, List.forall_mem_append] at h
    exact List.forall_mem_cons.2 ⟨e.within hR h.1, sort_within hR rest h.2⟩

theorem Select.within {outer : List Level} (hR : outer = [] ∨ R outer) :
    (q : Select) → (∀ l ∈ q.leaves, P l) → ∀ x ∈ q.parts outer, x.Within P R
  | ⟨source, distinct, items, filter, groupBy, having, orderBy, limit, offset, errors⟩, h => by
    simp only [Select.leaves, List.forall_mem_append] at h
    obtain ⟨⟨⟨⟨⟨⟨⟨hs, hi⟩, hf⟩, hg⟩, hh⟩, ho⟩, hl⟩, hoff⟩ := h
    have inside : R (source :: outer) := extend source outer hs hR
    have nothing : ∀ x ∈ (if (listedEntries source items).isEmpty then
        [Part.mistake .noResultColumns] else []), x.Within P R := by
      split
      · rw [List.forall_mem_singleton]
        trivial
      · exact List.forall_mem_nil _
    simp only [Select.parts, List.forall_mem_append]
    refine ⟨⟨⟨⟨⟨⟨⟨⟨⟨mistakes_within errors, nothing⟩, ?_⟩, from_within inside source hs⟩,
      option_within inside filter hf⟩, flatten_within (list_within inside groupBy hg)⟩,
      option_within inside having hh⟩, flatten_within (sort_within inside orderBy ho)⟩,
      placeholder_within limit hl⟩, placeholder_within offset hoff⟩
    exact entries_within source items _ hs hi (item_within inside items hi)

theorem from_within {levels : List Level} (hR : R levels) :
    (s : Level) → (∀ l ∈ fromLeaves s, P l) → ∀ x ∈ fromParts levels s, x.Within P R
  | none, _ => List.forall_mem_nil _
  | some s, h => s.within hR h

theorem branch_within {levels : List Level} (hR : levels = [] ∨ R levels) :
    (branches : List Branch) → (∀ l ∈ branchLeaves branches, P l) →
      ∀ x ∈ branchParts levels branches, x.Within P R
  | [], _ => List.forall_mem_nil _
  | ⟨operator, query⟩ :: rest, h => by
    rw [branchLeaves, List.forall_mem_append] at h
    rw [branchParts, List.forall_mem_append]
    exact ⟨query.within hR h.1, branch_within hR rest h.2⟩

theorem Query.within {levels : List Level} (hR : levels = [] ∨ R levels) :
    (q : Query) → (∀ l ∈ q.leaves, P l) → ∀ x ∈ q.parts levels, x.Within P R
  | .select q, h => q.within hR h
  | .compound ⟨first, branches, orderBy, limit, offset, errors⟩, h => by
    simp only [Query.leaves, List.forall_mem_append] at h
    simp only [Query.parts, List.forall_mem_append]
    exact ⟨⟨⟨⟨mistakes_within errors, first.within hR h.1.1.1⟩,
      branch_within hR branches h.1.1.2⟩, placeholder_within limit h.1.2⟩,
      placeholder_within offset h.2⟩

theorem Relation.within {levels : List Level} (hR : R levels) :
    (r : Relation) → (∀ l ∈ r.leaves, P l) → ∀ x ∈ r.parts levels, x.Within P R
  | .table t, h => by
    rw [Relation.parts, List.forall_mem_singleton]
    exact ⟨.table t, h _ (List.mem_singleton_self _), rfl⟩
  | .view id name query, h => by
    rw [Relation.parts, List.forall_mem_singleton]
    exact ⟨.named id name, h _ List.mem_cons_self, rfl⟩
  | .subquery id query, h => query.within (.inr hR) fun l hl => h l (List.mem_cons_of_mem _ hl)

theorem Source.within {levels : List Level} (hR : R levels) :
    (s : Source) → (∀ l ∈ s.leaves, P l) → ∀ x ∈ s.parts levels, x.Within P R
  | .relation r, h => r.within hR h
  | .alias id name r, h => by
    rw [Source.leaves, List.forall_mem_cons] at h
    rw [Source.parts, List.forall_mem_append, List.forall_mem_singleton]
    exact ⟨r.within hR h.2, .named id name, h.1, rfl⟩
  | .join kind lhs rhs on, h => by
    simp only [Source.leaves, List.forall_mem_append] at h
    simp only [Source.parts, List.forall_mem_append]
    exact ⟨⟨⟨mistakes_within _, lhs.within hR h.1.1⟩, rhs.within hR h.1.2⟩,
      option_within hR on h.2⟩

end

end

/-! ## Statements -/

theorem assignments_within {levels : List Level} (extend : Extends P R) (hR : R levels)
    (a : Assignments) (h : ∀ l ∈ a.leaves, P l) :
    (∀ x ∈ a.pairs.map fun (c, _) => Part.name c.name, x.Within P R)
      ∧ ∀ p ∈ a.pairs, ∀ x ∈ p.2.parts levels, x.Within P R := by
  have each : ∀ p ∈ a.pairs, P (.column p.1) ∧ ∀ l ∈ p.2.leaves, P l := by
    intro p hp
    have inside : ∀ l ∈ Leaf.column p.1 :: p.2.leaves, P l :=
      fun l hl => h l (List.mem_flatMap.2 ⟨p, hp, hl⟩)
    exact List.forall_mem_cons.1 inside
  constructor
  · intro x hx
    obtain ⟨p, hp, rfl⟩ := List.mem_map.1 hx
    exact ⟨.column p.1, (each p hp).1, rfl⟩
  · intro p hp
    exact p.2.within extend hR (each p hp).2

/-- Every part of a statement is made of the statement's leaves. The values of an INSERT stand in
no query, so that the property of levels has to hold without any. -/
theorem Statement.within (extend : Extends P R) (s : Statement) (hs : ∀ l ∈ s.leaves, P l)
    (hi : ∀ i, s = .insert i → R []) : ∀ x ∈ s.parts, x.Within P R := by
  cases s with
  | query q => exact q.within extend (.inl rfl) hs
  | insert i =>
      simp only [Statement.leaves, List.forall_mem_cons] at hs
      obtain ⟨names, values⟩ := assignments_within extend (hi i rfl) i.values hs.2
      simp only [Statement.parts, Insert.parts, List.forall_mem_append, List.forall_mem_cons,
        List.forall_mem_flatMap]
      exact ⟨⟨mistakes_within _, ⟨.table i.table, hs.1, rfl⟩, names⟩, values⟩
  | update u =>
      simp only [Statement.leaves, List.cons_append, List.forall_mem_cons,
        List.forall_mem_append] at hs
      have inside : R [u.table.level] := extend.table hs.1
      obtain ⟨names, values⟩ := assignments_within extend inside u.assignments hs.2.1
      simp only [Statement.parts, Update.parts, List.forall_mem_append, List.forall_mem_cons,
        List.forall_mem_flatMap]
      refine ⟨⟨mistakes_within _, ⟨.table u.table, hs.1, rfl⟩, ?_⟩,
        option_within extend inside u.filter hs.2.2⟩
      intro p hp
      exact ⟨names _ (List.mem_map_of_mem hp), values p hp⟩
  | delete d =>
      simp only [Statement.leaves, List.forall_mem_cons] at hs
      have inside : R [d.table.level] := extend.table hs.1
      simp only [Statement.parts, Delete.parts, List.forall_mem_cons]
      exact ⟨⟨.table d.table, hs.1, rfl⟩, option_within extend inside d.filter hs.2⟩

end TypedSql
