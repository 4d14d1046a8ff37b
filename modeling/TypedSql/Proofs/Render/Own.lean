import TypedSql.Proofs.Query.Labels
import TypedSql.Proofs.Render.Reached

/-!
# What a node writes by itself

**Theorem (`Node.mem_parts_iff`).** The parts written for a node are those which the nodes reached
from it write by themselves.

One step (`Node.forall_parts`) says it of the node and the nodes directly inside, with one lemma for
each clause that is a row of parts. The theorem follows by an induction along the way down to a
node in the one direction and on the size of the tree in the other.

**Theorem (`Node.bind_mem_parts_iff`).** So a placeholder is written for a node exactly if it is
reached: no other node writes one by itself.
-/

namespace TypedSql

variable {P : Part → Prop} {levels outer : List Level}

/-! ## Rows of parts -/

theorem forall_optionParts {e : Option Expr} :
    (∀ x ∈ optionParts levels e, P x) ↔ ∀ f ∈ e.toList, ∀ x ∈ f.parts levels, P x := by
  cases e with
  | none => exact iff_of_true (List.forall_mem_nil _) (List.forall_mem_nil _)
  | some f => rw [optionParts, Option.toList_some, List.forall_mem_singleton]

theorem forall_fromParts {s : Level} :
    (∀ x ∈ fromParts levels s, P x) ↔ ∀ t ∈ s.toList, ∀ x ∈ t.parts levels, P x := by
  cases s with
  | none => exact iff_of_true (List.forall_mem_nil _) (List.forall_mem_nil _)
  | some s => rw [fromParts, Option.toList_some, List.forall_mem_singleton]

theorem forall_listParts {es : List Expr} :
    (∀ x ∈ (listParts levels es).flatten, P x) ↔ ∀ e ∈ es, ∀ x ∈ e.parts levels, P x := by
  induction es with
  | nil => exact iff_of_true (List.forall_mem_nil _) (List.forall_mem_nil _)
  | cons e es ih =>
    rw [listParts, List.flatten_cons, List.forall_mem_append, ih, List.forall_mem_cons]

theorem forall_sortParts {ts : List SortTerm} :
    (∀ x ∈ (sortParts levels ts).flatten, P x)
      ↔ ∀ e ∈ ts.map SortTerm.e, ∀ x ∈ e.parts levels, P x := by
  induction ts with
  | nil => exact iff_of_true (List.forall_mem_nil _) (List.forall_mem_nil _)
  | cons t ts ih =>
    obtain ⟨e, order⟩ := t
    rw [sortParts, List.flatten_cons, List.forall_mem_append, ih, List.map_cons,
      List.forall_mem_cons]

theorem forall_branchParts {bs : List Branch} :
    (∀ x ∈ branchParts levels bs, P x)
      ↔ ∀ q ∈ bs.map Branch.query, ∀ x ∈ q.parts levels, P x := by
  induction bs with
  | nil => exact iff_of_true (List.forall_mem_nil _) (List.forall_mem_nil _)
  | cons b bs ih =>
    obtain ⟨operator, query⟩ := b
    rw [branchParts, List.forall_mem_append, ih, List.map_cons, List.forall_mem_cons]

theorem forall_placeholderParts {p : Option Placeholder} :
    (∀ x ∈ placeholderParts p, P x) ↔ ∀ q ∈ p.toList, P (.bind q) := by
  cases p with
  | none => exact iff_of_true (List.forall_mem_nil _) (List.forall_mem_nil _)
  | some p => rw [placeholderParts, List.forall_mem_singleton, Option.toList_some,
      List.forall_mem_singleton]

theorem forall_flatten {xss : List (List Part)} :
    (∀ x ∈ xss.flatten, P x) ↔ ∀ xs ∈ xss, ∀ x ∈ xs, P x := by
  simp only [List.mem_flatten]
  exact ⟨fun h xs hxs x hx => h x ⟨xs, hxs, hx⟩, fun h x ⟨xs, hxs, hx⟩ => h xs hxs x hx⟩

/-! ## Select lists -/

/-- A column is selected as it is; what a projection writes is written for its expression. -/
def ResultItem.own : ResultItem → List Part
  | .column c => [.selected c]
  | .labelled .. => []

theorem forall_itemParts {items : List ResultItem} :
    (∀ xs ∈ itemParts levels items, ∀ x ∈ xs, P x)
      ↔ (∀ xs ∈ items.map ResultItem.own, ∀ x ∈ xs, P x)
        ∧ ∀ e ∈ items.filterMap ResultItem.expr?, ∀ x ∈ e.parts levels, P x := by
  induction items with
  | nil => exact iff_of_true (List.forall_mem_nil _) ⟨List.forall_mem_nil _, List.forall_mem_nil _⟩
  | cons item items ih =>
    cases item with
    | column c =>
      have columns : (∀ xs ∈ (ResultItem.column c :: items).map ResultItem.own, ∀ x ∈ xs, P x)
          ↔ (∀ x ∈ [Part.selected c], P x)
            ∧ ∀ xs ∈ items.map ResultItem.own, ∀ x ∈ xs, P x := List.forall_mem_cons
      rw [itemParts, List.forall_mem_cons, ih, List.filterMap_cons_none rfl, columns, and_assoc]
    | labelled key e type =>
      have some_expr : (ResultItem.labelled key e type).expr? = some e := rfl
      have nothing : ∀ x ∈ (ResultItem.labelled key e type).own, P x := List.forall_mem_nil _
      rw [itemParts, List.forall_mem_cons, ih, List.filterMap_cons_some some_expr, List.map_cons,
        List.forall_mem_cons, List.forall_mem_cons, and_iff_right nothing]
      exact and_left_comm

theorem entries_eq_listedEntries (q : Select) : q.entries = listedEntries q.source q.items := by
  obtain ⟨source, distinct, items, filter, groupBy, having, orderBy, limit, offset, errors⟩ := q
  cases items with
  | nil => cases source <;> rfl
  | cons item items => rfl

theorem length_itemParts (items : List ResultItem) :
    (itemParts levels items).length = items.length := by
  induction items with
  | nil => rfl
  | cons item items ih => cases item <;> exact congrArg Nat.succ ih

theorem length_listedParts (source : Level) {items : List ResultItem} {xss : List (List Part)}
    (same : xss.length = items.length) :
    (listedParts source items xss).length = (listedEntries source items).length := by
  cases items with
  | nil => simp [listedParts, listedEntries]
  | cons item items => simpa [listedParts, listedEntries] using same

theorem forall_listedParts {source : Level} {items : List ResultItem} :
    (∀ xs ∈ listedParts source items (itemParts levels items), ∀ x ∈ xs, P x)
      ↔ (∀ xs ∈ listedParts source items (items.map ResultItem.own), ∀ x ∈ xs, P x)
        ∧ ∀ e ∈ items.filterMap ResultItem.expr?, ∀ x ∈ e.parts levels, P x := by
  cases items with
  | nil => exact (and_iff_left (List.forall_mem_nil _)).symm
  | cons item items => exact forall_itemParts

/-- The names and the mistakes of a select list do not depend on what the names are given to. -/
theorem forall_selectListParts {entries : List NamedEntry} {xss : List (List Part)}
    (same : entries.length = xss.length) (seen : List String) :
    (∀ x ∈ (selectListParts seen (entries.zip xss)).flatten, P x)
      ↔ (∀ x ∈ (selectListParts seen (entries.map fun e => (e, []))).flatten, P x)
        ∧ ∀ xs ∈ xss, ∀ x ∈ xs, P x := by
  induction entries generalizing xss seen with
  | nil =>
    rw [List.length_eq_zero_iff.1 same.symm]
    exact (and_iff_left (List.forall_mem_nil _)).symm
  | cons e entries ih =>
    cases xss with
    | nil => cases same
    | cons xs xss =>
      rw [List.zip_cons_cons, List.map_cons, selectListParts, selectListParts]
      simp only [List.flatten_cons, List.forall_mem_append, List.forall_mem_cons,
        ih (Nat.succ.inj same), List.append_nil]
      tauto

namespace Select

/-- The mistakes, the names and the columns of a select list. -/
def own (q : Select) : List Part :=
  q.errors.map Part.mistake
    ++ (if q.entries.isEmpty then [.mistake .noResultColumns] else [])
    ++ (selectListParts [] ((nameEntries [] q.entries).map fun e => (e, []))).flatten
    ++ (listedParts q.source q.items (q.items.map ResultItem.own)).flatten

theorem forall_list (q : Select) (levels : List Level) :
    (∀ x ∈ (selectListParts [] ((nameEntries [] (listedEntries q.source q.items)).zip
        (listedParts q.source q.items (itemParts levels q.items)))).flatten, P x)
      ↔ ((∀ x ∈ (selectListParts [] ((nameEntries [] q.entries).map fun e => (e, []))).flatten, P x)
          ∧ ∀ x ∈ (listedParts q.source q.items (q.items.map ResultItem.own)).flatten, P x)
        ∧ ∀ e ∈ q.items.filterMap ResultItem.expr?, ∀ x ∈ e.parts levels, P x := by
  have same : (nameEntries [] (listedEntries q.source q.items)).length
      = (listedParts q.source q.items (itemParts levels q.items)).length := by
    rw [length_nameEntries, length_listedParts _ (length_itemParts _)]
  rw [forall_selectListParts same, forall_listedParts, entries_eq_listedEntries, and_assoc]
  exact and_congr_right' (and_congr_left' forall_flatten.symm)

end Select

/-! ## One step -/

/-- The part an expression is by itself, without its operands. -/
def Expr.own (levels : List Level) : Expr → List Part
  | .column c => [.column levels c]
  | .label name => [.name name]
  | .cast _ type => [.castType type]
  | _ => []

theorem Expr.forall_parts (levels : List Level) (e : Expr) :
    (∀ x ∈ e.parts levels, P x)
      ↔ (∀ x ∈ e.own levels, P x) ∧ (∀ f ∈ e.operands, ∀ x ∈ f.parts levels, P x)
        ∧ (∀ q ∈ e.query?.toList, ∀ x ∈ q.parts levels, P x)
        ∧ ∀ p ∈ e.placeholder?.toList, P (.bind p) := by
  cases e with
  -- Without items nothing is written, not even what is looked for.
  | inList negated e items =>
    cases items with
    | nil => simp [parts, own, operands, query?, placeholder?]
    | cons item items =>
      simp [parts, own, operands, query?, placeholder?, forall_listParts, List.forall_mem_append,
        -List.mem_append, -List.mem_flatten]
  | cast e type =>
    simp only [parts, own, operands, query?, placeholder?, List.forall_mem_append]
    simp [and_comm]
  | _ =>
    simp [parts, own, operands, query?, placeholder?, forall_listParts, forall_optionParts,
      List.forall_mem_append, -List.mem_append, -List.mem_flatten]

theorem Select.forall_parts (outer : List Level) (q : Select) :
    (∀ x ∈ q.parts outer, P x)
      ↔ (∀ x ∈ q.own, P x)
        ∧ (∀ s ∈ q.source.toList, ∀ x ∈ s.parts (q.source :: outer), P x)
        ∧ (∀ e ∈ q.exprs, ∀ x ∈ e.parts (q.source :: outer), P x)
        ∧ ∀ p ∈ q.bounds, P (.bind p) := by
  have list := q.forall_list (P := P) (q.source :: outer)
  have entries := entries_eq_listedEntries q
  obtain ⟨source, distinct, items, filter, groupBy, having, orderBy, limit, offset, errors⟩ := q
  simp only [parts, own, exprs, bounds, List.forall_mem_append, forall_fromParts,
    forall_optionParts, forall_listParts, forall_sortParts, forall_placeholderParts, list,
    entries]
  tauto

theorem Compound.forall_parts (outer : List Level) (q : Compound) :
    (∀ x ∈ (Query.compound q).parts outer, P x)
      ↔ (∀ x ∈ q.errors.map Part.mistake, P x) ∧ (∀ t ∈ q.queries, ∀ x ∈ t.parts outer, P x)
        ∧ ∀ p ∈ q.bounds, P (.bind p) := by
  obtain ⟨first, branches, orderBy, limit, offset, errors⟩ := q
  simp only [Query.parts, queries, bounds, List.forall_mem_append, forall_branchParts,
    forall_placeholderParts, List.forall_mem_cons, and_assoc]

theorem Source.forall_parts_join (levels : List Level) (kind : JoinKind) (lhs rhs : Source)
    (on : Option Expr) :
    (∀ x ∈ (Source.join kind lhs rhs on).parts levels, P x)
      ↔ (∀ x ∈ (joinErrors lhs rhs kind on).map Part.mistake, P x)
        ∧ (∀ x ∈ lhs.parts levels, P x) ∧ (∀ x ∈ rhs.parts levels, P x)
        ∧ ∀ e ∈ on.toList, ∀ x ∈ e.parts levels, P x := by
  simp only [parts, List.forall_mem_append, forall_optionParts, and_assoc]

namespace Node

/-- What is written for the node. -/
def parts : Node → List Part
  | .expr levels e => e.parts levels
  | .bind p => [.bind p]
  | .select outer q => q.parts outer
  | .query outer q => q.parts outer
  | .source levels s => s.parts levels

/-- What the node writes by itself. -/
def own : Node → List Part
  | .expr levels e => e.own levels
  | .bind p => [.bind p]
  | .select _ q => q.own
  | .query _ (.select _) => []
  | .query _ (.compound q) => q.errors.map Part.mistake
  | .source _ (.relation (.table t)) => [.name t.name]
  | .source _ (.relation (.view _ name _)) => [.name name]
  | .source _ (.relation (.subquery _ _)) => []
  | .source _ (.alias _ name _) => [.name name]
  | .source _ (.join kind lhs rhs on) => (joinErrors lhs rhs kind on).map Part.mistake

/-- **One step down.** The parts of a node are its own and those of the nodes directly inside. -/
theorem forall_parts (n : Node) :
    (∀ x ∈ n.parts, P x) ↔ (∀ x ∈ n.own, P x) ∧ ∀ m ∈ n.children, ∀ x ∈ m.parts, P x := by
  have bind : ∀ p, (∀ x ∈ (Node.bind p).parts, P x) ↔ P (.bind p) :=
    fun p => List.forall_mem_singleton
  have nothing : ∀ x ∈ ([] : List Part), P x := List.forall_mem_nil _
  cases n with
  | expr levels e =>
    simp only [children, List.forall_mem_append, List.forall_mem_map, bind, and_assoc]
    exact e.forall_parts levels
  | bind p => exact (and_iff_left (List.forall_mem_nil _)).symm
  | select outer q =>
    simp only [children, List.forall_mem_append, List.forall_mem_map, bind, and_assoc]
    exact q.forall_parts outer
  | query outer q =>
    cases q with
    | select q =>
      rw [children, List.forall_mem_singleton]
      exact (and_iff_right nothing).symm
    | compound q =>
      simp only [children, List.forall_mem_append, List.forall_mem_map, bind]
      exact q.forall_parts outer
  | source levels s =>
    cases s with
    | relation r =>
      cases r with
      | table t => exact (and_iff_left (List.forall_mem_nil _)).symm
      | view id name q => exact (and_iff_left (List.forall_mem_nil _)).symm
      | subquery id q =>
        rw [children, List.forall_mem_singleton]
        exact (and_iff_right nothing).symm
    | «alias» id name r =>
      rw [children, List.forall_mem_singleton]
      exact List.forall_mem_append.trans and_comm
    | join kind lhs rhs on =>
      simp only [children, List.forall_mem_cons, List.forall_mem_map]
      exact Source.forall_parts_join levels kind lhs rhs on

/-! ## All the way down -/

theorem forall_parts_of_reached (n : Node) (h : ∀ m, n.Reaches m → ∀ x ∈ m.own, P x) :
    ∀ x ∈ n.parts, P x :=
  n.forall_parts.2 ⟨h n .refl, fun m child =>
    m.forall_parts_of_reached fun k reached => h k (.head child reached)⟩
termination_by n.size
decreasing_by exact size_lt_of_mem_children child

/-- **The parts of a node are what the nodes reached from it write by themselves.** -/
theorem mem_parts_iff {n : Node} {x : Part} :
    x ∈ n.parts ↔ ∃ m, n.Reaches m ∧ x ∈ m.own := by
  constructor
  · intro mem
    by_contra none
    refine n.forall_parts_of_reached (P := (· ≠ x)) (fun m reached y own same => ?_) x mem rfl
    exact none ⟨m, reached, same ▸ own⟩
  · rintro ⟨m, reached, own⟩
    induction reached using Relation.ReflTransGen.head_induction_on with
    | refl => exact (forall_parts (P := (· ∈ m.parts)) m).1 (fun x hx => hx) |>.1 x own
    | @head n k child _ ih =>
      exact ((forall_parts (P := (· ∈ n.parts)) n).1 (fun x hx => hx)).2 k child x ih

/-! ## Placeholders -/

theorem bind_not_mem_names (p : Placeholder) (entries : List NamedEntry) (seen : List String) :
    Part.bind p ∉ (selectListParts seen (entries.map fun e => (e, []))).flatten := by
  induction entries generalizing seen with
  | nil => exact List.not_mem_nil
  | cons e entries ih =>
    have repeated : Part.bind p ∉ (if seen.contains e.name then
        [Part.mistake (.duplicateColumn "result" e.name)] else []) := by
      split <;> simp
    rw [List.map_cons, selectListParts, List.flatten_cons, List.mem_append, not_or,
      List.append_nil, List.mem_append, not_or]
    refine ⟨⟨repeated, ?_⟩, ih _⟩
    split
    · simp
    · split <;> simp

theorem bind_not_mem_listed (p : Placeholder) (source : Level) (items : List ResultItem) :
    Part.bind p ∉ (listedParts source items (items.map ResultItem.own)).flatten := by
  cases items with
  | nil => simp [listedParts]
  | cons item items =>
    rw [listedParts, List.mem_flatten]
    rintro ⟨xs, hxs, mem⟩
    obtain ⟨item, -, rfl⟩ := List.mem_map.1 hxs
    cases item with
    | column c => cases List.mem_singleton.1 mem
    | labelled key e type => cases mem

theorem bind_mem_own {n : Node} {p : Placeholder} : Part.bind p ∈ n.own ↔ n = .bind p := by
  cases n with
  | expr levels e => cases e <;> simp [own, Expr.own]
  | bind q => simp [own, eq_comm]
  | select outer q =>
    have names := bind_not_mem_names p (nameEntries [] q.entries) []
    have listed := bind_not_mem_listed p q.source q.items
    refine iff_of_false ?_ fun same => by cases same
    rw [own, Select.own, List.mem_append, List.mem_append, List.mem_append]
    rintro (((mistake | nothing) | name) | column)
    · simp at mistake
    · split at nothing <;> simp at nothing
    · exact names name
    · exact listed column
  | query outer q => cases q <;> simp [own]
  | source levels s =>
    cases s with
    | relation r => cases r <;> simp [own]
    | «alias» id name r => simp [own]
    | join kind lhs rhs on => simp [own]

/-- **A placeholder is written exactly if rendering reaches it.** -/
theorem bind_mem_parts_iff {n : Node} {p : Placeholder} :
    Part.bind p ∈ n.parts ↔ n.Reaches (.bind p) := by
  simp [mem_parts_iff, bind_mem_own]

end Node
end TypedSql
