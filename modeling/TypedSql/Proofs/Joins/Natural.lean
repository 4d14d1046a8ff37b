import TypedSql.Proofs.Grammar.Conditions
import TypedSql.Proofs.Query.Flattening
import TypedSql.Query.Building

/-!
# Natural joins

**Theorem (`Source.naturalJoin_equates_shared`).** The natural join of two sources is a cross join
if no name stands on both sides. Otherwise it is an inner join on the equality of each left column
whose name stands on the right with the first right column of that name, in the order of the left
columns, and on nothing else. Either way its condition mentions columns of the two sides only, and
its columns are those of the left side and then those of the right.

Either side may have a name several times. A left column is paired whether or not another one has
its name; a right column behind another of its name is never paired.
-/

namespace TypedSql

universe u

/-- The equality of two columns. -/
def Expr.equality (pair : ColumnRef × ColumnRef) : Expr :=
  .compare .eq (.column pair.1) (.column pair.2)

/-! ## Columns of a chain -/

theorem mem_listColumns {c : ColumnRef} {es : List Expr} :
    c ∈ listColumns es ↔ ∃ e ∈ es, c ∈ e.columns := by
  induction es with
  | nil => simp [listColumns]
  | cons e es ih => rw [listColumns, List.mem_append, ih, List.exists_mem_cons_iff]

theorem Expr.mem_columns_chain {c : ColumnRef} {op : LogicalOp} {es : List Expr} :
    c ∈ (chain op es).columns ↔ ∃ e ∈ es, c ∈ e.columns := by
  unfold chain
  split
  · next e => simp
  · rw [columns, mem_listColumns]

theorem Expr.mem_columns_equality {c : ColumnRef} {pair : ColumnRef × ColumnRef} :
    c ∈ (equality pair).columns ↔ c = pair.1 ∨ c = pair.2 := by
  simp [equality, columns]

namespace Source

/-- Both sides have a column of the name. -/
def Shares (lhs rhs : Source) (name : String) : Prop :=
  (∃ l ∈ lhs.columns, l.name = name) ∧ ∃ r ∈ rhs.columns, r.name = name

/-- The pairs go through the left columns whose name the right side has. -/
structure Pairing (lhs rhs : Source) (pairs : List (ColumnRef × ColumnRef)) : Prop where
  lefts : pairs.map Prod.fst
    = lhs.columns.filter fun l => rhs.columns.any fun r => r.name == l.name
  /-- A left column is paired with the first right column of its name. -/
  first : ∀ l r, (l, r) ∈ pairs → r.name = l.name
    ∧ ∃ before after, rhs.columns = before ++ r :: after ∧ ∀ c ∈ before, c.name ≠ l.name

variable {lhs rhs : Source}

/-! ## The pairs -/

theorem sharedColumns_eq_nil_iff :
    sharedColumns lhs rhs = [] ↔ ∀ name, ¬ Shares lhs rhs name := by
  simp only [sharedColumns, List.filterMap_eq_nil_iff, Option.map_eq_none_iff, List.find?_eq_none,
    beq_iff_eq]
  constructor
  · rintro apart name ⟨⟨l, hl, rfl⟩, r, hr, same⟩
    exact apart l hl r hr same
  · exact fun apart l hl r hr same => apart l.name ⟨⟨l, hl, rfl⟩, r, hr, same⟩

theorem mem_sharedColumns {l r : ColumnRef} (h : (l, r) ∈ sharedColumns lhs rhs) :
    l ∈ lhs.columns ∧ rhs.columns.find? (·.name == l.name) = some r := by
  obtain ⟨l', hl, found⟩ := List.mem_filterMap.1 h
  obtain ⟨r', found, same⟩ := Option.map_eq_some_iff.1 found
  cases same
  exact ⟨hl, found⟩

theorem pairing_sharedColumns (lhs rhs : Source) : Pairing lhs rhs (sharedColumns lhs rhs) where
  lefts := by
    rw [sharedColumns, List.map_filterMap, ← List.filterMap_eq_filter]
    refine List.filterMap_congr fun l _ => ?_
    rw [Option.map_map, Option.guard, ← List.isSome_find?]
    cases rhs.columns.find? (·.name == l.name) <;> rfl
  first l r h := by
    obtain ⟨same, before, after, split, earlier⟩ :=
      List.find?_eq_some_iff_append.1 (mem_sharedColumns h).2
    refine ⟨beq_iff_eq.1 same, before, after, split, fun c hc => ?_⟩
    simpa using earlier c hc

/-! ## The join -/

theorem naturalJoin_of_nil (apart : sharedColumns lhs rhs = []) :
    naturalJoin lhs rhs = .join .cross lhs rhs none := by
  rw [naturalJoin, apart]

theorem naturalJoin_of_ne_nil (shared : sharedColumns lhs rhs ≠ []) :
    naturalJoin lhs rhs = .join .inner lhs rhs
      (some (Predicate.all ((sharedColumns lhs rhs).map fun pair => ⟨.equality pair⟩)).expr) := by
  unfold naturalJoin
  split
  · next apart => exact absurd apart shared
  · rfl

theorem naturalJoin_eq_cross_iff :
    naturalJoin lhs rhs = .join .cross lhs rhs none ↔ ∀ name, ¬ Shares lhs rhs name := by
  rw [← sharedColumns_eq_nil_iff]
  refine ⟨fun cross => ?_, naturalJoin_of_nil⟩
  by_contra shared
  rw [naturalJoin_of_ne_nil shared] at cross
  cases cross

/-- The condition is the row of the equalities. -/
theorem expr_all_equalities (pairs : List (ColumnRef × ColumnRef)) :
    (Predicate.all (pairs.map fun pair => ⟨.equality pair⟩)).expr
      = .chain .and (pairs.map Expr.equality) := by
  have single : ∀ p ∈ pairs.map fun pair => Predicate.mk (.equality pair),
      p.expr.operandsOf .and = [p.expr] := by
    rw [List.forall_mem_map]
    exact fun _ _ => rfl
  rw [Predicate.all, Predicate.fold_of_single single, List.map_map]
  rfl

theorem truth_all_equalities {V : Type u} (I : Interpretation V) (scopes : List Scope)
    (pairs : List (ColumnRef × ColumnRef)) :
    (Predicate.all (pairs.map fun pair => ⟨.equality pair⟩)).expr.truth I scopes
      = LogicalOp.and.joined (pairs.map fun (l, r) =>
          I.compare .eq (I.reference l.written l.name) (I.reference r.written r.name)) := by
  have equal (pair : ColumnRef × ColumnRef) :
      (Predicate.mk (.equality pair)).truth I scopes
        = I.compare .eq (I.reference pair.1.written pair.1.name)
          (I.reference pair.2.written pair.2.name) := by
    simp only [Predicate.truth, Expr.truth, Expr.equality, Expr.eval]
    exact Expr.truth_test I false _
  have joined := Predicate.truth_fold I scopes .and
    (pairs.map fun pair => Predicate.mk (.equality pair))
  rw [List.map_map] at joined
  exact joined.trans (congrArg _ (List.map_congr_left fun pair _ => equal pair))

/-- A condition on columns of the two sides is accepted. -/
theorem joinErrors_eq_nil {kind : JoinKind} {on : Option Expr}
    (known : ∀ c ∈ optionColumns on, c ∈ lhs.columns ++ rhs.columns) :
    joinErrors lhs rhs kind on = [] := by
  rw [joinErrors, List.map_eq_nil_iff, List.filter_eq_nil_iff]
  intro c hc
  have contained : containsKey (lhs.columns ++ rhs.columns) c.key = true :=
    List.any_eq_true.2 ⟨c, known c hc, beq_self_eq_true c.key⟩
  simp [contained]

theorem joinErrors_equalities (lhs rhs : Source) (kind : JoinKind) :
    joinErrors lhs rhs kind (some (.chain .and ((sharedColumns lhs rhs).map Expr.equality)))
      = [] := by
  refine joinErrors_eq_nil fun c hc => ?_
  obtain ⟨e, he, hc⟩ := Expr.mem_columns_chain.1 hc
  obtain ⟨⟨l, r⟩, pair, rfl⟩ := List.mem_map.1 he
  obtain ⟨left, found⟩ := mem_sharedColumns pair
  rcases Expr.mem_columns_equality.1 hc with rfl | rfl
  · exact List.mem_append_left _ left
  · exact List.mem_append_right _ (List.mem_of_find?_eq_some found)

/-- **A natural join equates the shared names, and nothing else.** -/
theorem naturalJoin_equates_shared (lhs rhs : Source) :
    (naturalJoin lhs rhs = .join .cross lhs rhs none ↔ ∀ name, ¬ Shares lhs rhs name)
      ∧ ((∃ name, Shares lhs rhs name) → ∃ pairs on,
        naturalJoin lhs rhs = .join .inner lhs rhs (some on)
          ∧ Pairing lhs rhs pairs
          ∧ on = .chain .and (pairs.map Expr.equality)
          ∧ ∀ (V : Type u) (I : Interpretation V) (scopes : List Scope),
            on.truth I scopes = LogicalOp.and.joined (pairs.map fun (l, r) =>
              I.compare .eq (I.reference l.written l.name) (I.reference r.written r.name)))
      ∧ (∃ kind on, naturalJoin lhs rhs = .join kind lhs rhs on
        ∧ joinErrors lhs rhs kind on = [])
      ∧ (naturalJoin lhs rhs).columns = lhs.columns ++ rhs.columns := by
  refine ⟨naturalJoin_eq_cross_iff, ?_, ?_⟩
  · rintro ⟨name, shares⟩
    have shared : sharedColumns lhs rhs ≠ [] :=
      fun apart => sharedColumns_eq_nil_iff.1 apart name shares
    exact ⟨_, _, naturalJoin_of_ne_nil shared, pairing_sharedColumns lhs rhs,
      expr_all_equalities _, fun V I scopes => truth_all_equalities I scopes _⟩
  · by_cases shared : sharedColumns lhs rhs = []
    · rw [naturalJoin_of_nil shared]
      exact ⟨⟨.cross, none, rfl, joinErrors_eq_nil (List.forall_mem_nil _)⟩, rfl⟩
    · rw [naturalJoin_of_ne_nil shared, expr_all_equalities]
      exact ⟨⟨.inner, _, rfl, joinErrors_equalities lhs rhs .inner⟩, rfl⟩

/-! ### A name on both sides twice -/

def catsAndDogs : Source :=
  .join .cross (.relation (.table Select.catsTable)) (.relation (.table Select.dogsTable)) none

def kittensAndPuppies : Source :=
  .join .cross (.alias ⟨3⟩ "Kitten" (.table Select.catsTable))
    (.alias ⟨4⟩ "Puppy" (.table Select.dogsTable)) none

theorem naturalJoin_equates_shared_of_names :
    (catsAndDogs.columns.map ColumnRef.display, kittensAndPuppies.columns.map ColumnRef.display)
        = (["Cat.name", "Dog.name"], ["Kitten.name", "Puppy.name"])
      ∧ Shares catsAndDogs kittensAndPuppies "name"
      ∧ ∃ pairs on, naturalJoin catsAndDogs kittensAndPuppies
          = .join .inner catsAndDogs kittensAndPuppies (some on)
        ∧ Pairing catsAndDogs kittensAndPuppies pairs
        ∧ on = .chain .and (pairs.map Expr.equality) := by
  have shares : Shares catsAndDogs kittensAndPuppies "name" :=
    ⟨⟨_, List.mem_cons_self, rfl⟩, _, List.mem_cons_self, rfl⟩
  obtain ⟨pairs, on, join, pairing, row, -⟩ :=
    (naturalJoin_equates_shared.{0} catsAndDogs kittensAndPuppies).2.1 ⟨"name", shares⟩
  exact ⟨by decide, shares, pairs, on, join, pairing, row⟩

/-- Both left columns are compared with the first right one. -/
example : (sharedColumns catsAndDogs kittensAndPuppies).map (fun (l, r) => (l.display, r.display))
    = [("Cat.name", "Kitten.name"), ("Dog.name", "Kitten.name")] := by decide

end Source
end TypedSql
