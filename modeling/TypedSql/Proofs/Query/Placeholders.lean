import TypedSql.Proofs.Query.Assembled

/-!
# The placeholders of what was put together

**Theorem (`Assembled.sound`).** Every placeholder of what calls put together is a token that was
handed out, a blank, or a preset value that is NULL or of the storage class of its descriptor.

The calls move leaves about and add placeholders in few places: a token, a plain value encoded under
a descriptor, a count of rows, and the parts of a composite value.
-/

namespace TypedSql

/-! ## Leaves of combined expressions -/

theorem itemLeaves_append (is js : List ResultItem) :
    itemLeaves (is ++ js) = itemLeaves is ++ itemLeaves js := by
  induction is with
  | nil => rfl
  | cons i is ih =>
    cases i with
    | column c => rw [List.cons_append, itemLeaves, ih, itemLeaves, List.cons_append]
    | labelled key e type =>
      rw [List.cons_append, itemLeaves, ih, itemLeaves, List.append_assoc]

theorem sortLeaves_append (ts us : List SortTerm) :
    sortLeaves (ts ++ us) = sortLeaves ts ++ sortLeaves us := by
  induction ts with
  | nil => rfl
  | cons t ts ih =>
    obtain ⟨e, order⟩ := t
    rw [List.cons_append, sortLeaves, ih, sortLeaves, List.append_assoc]

theorem branchLeaves_append (bs cs : List Branch) :
    branchLeaves (bs ++ cs) = branchLeaves bs ++ branchLeaves cs := by
  induction bs with
  | nil => rfl
  | cons b bs ih =>
    obtain ⟨operator, query⟩ := b
    rw [List.cons_append, branchLeaves, ih, branchLeaves, List.append_assoc]

theorem listLeaves_eq_flatMap (es : List Expr) : listLeaves es = es.flatMap Expr.leaves := by
  induction es with
  | nil => rfl
  | cons e es ih => rw [listLeaves, ih, List.flatMap_cons]

theorem listLeaves_append (es fs : List Expr) :
    listLeaves (es ++ fs) = listLeaves es ++ listLeaves fs := by
  simp only [listLeaves_eq_flatMap, List.flatMap_append]

namespace Expr

theorem listLeaves_operandsOf (op : LogicalOp) (e : Expr) :
    listLeaves (e.operandsOf op) = e.leaves := by
  have alone : ∀ e : Expr, listLeaves [e] = e.leaves := fun e => List.append_nil _
  cases e with
  | logical inner operands =>
    rw [operandsOf]
    split
    · rfl
    · exact alone _
  | _ => exact alone _

theorem leaves_combine (op : LogicalOp) (lhs rhs : Expr) :
    (combine op lhs rhs).leaves = lhs.leaves ++ rhs.leaves := by
  rw [combine, leaves, listLeaves_append, listLeaves_operandsOf, listLeaves_operandsOf]

theorem leaves_negate (e : Expr) : e.negate.leaves = e.leaves := by
  cases e <;> rfl

theorem leaves_andAlso (filter : Option Expr) (e : Expr) :
    (andAlso filter e).leaves = optionLeaves filter ++ e.leaves := by
  cases filter with
  | none => rfl
  | some f => exact leaves_combine .and f e

end Expr

theorem Predicate.leaves_fold (op : LogicalOp) (ps : List Predicate) :
    (fold op ps).expr.leaves = ps.flatMap (·.expr.leaves) := by
  have folded : ∀ (qs : List Predicate) (e : Expr),
      (qs.foldl (fun e q => Expr.combine op e q.expr) e).leaves
        = e.leaves ++ qs.flatMap (·.expr.leaves) := by
    intro qs
    induction qs with
    | nil => exact fun e => (List.append_nil _).symm
    | cons q qs ih =>
      intro e
      rw [List.foldl_cons, ih, Expr.leaves_combine, List.flatMap_cons, List.append_assoc]
  cases ps with
  | nil => rfl
  | cons p ps => exact folded ps p.expr

theorem Select.leaves_eq (q : Select) :
    q.leaves = fromLeaves q.source ++ itemLeaves q.items ++ optionLeaves q.filter
      ++ listLeaves q.groupBy ++ optionLeaves q.having ++ sortLeaves q.orderBy
      ++ placeholderLeaves q.limit ++ placeholderLeaves q.offset := by
  cases q
  rfl

theorem Compound.leaves_eq (q : Compound) :
    (Query.compound q).leaves = q.first.leaves ++ branchLeaves q.branches
      ++ placeholderLeaves q.limit ++ placeholderLeaves q.offset := by
  cases q
  rfl

/-! ## Sound leaves -/

/-- The placeholder is a token handed out, a blank, or a value that fits. -/
def Placeholder.Sound (tokens : List AnyParam) : Placeholder → Prop
  | .token id type => ⟨id, type⟩ ∈ tokens
  | .blank _ => True
  | .preset type value => ∀ v, value = .ok v → type.Fits v

def Leaf.Sound (tokens : List AnyParam) : Leaf → Prop
  | .bind p => p.Sound tokens
  | _ => True

/-- All of the leaves are sound. -/
def Sound (tokens : List AnyParam) (ls : List Leaf) : Prop := ∀ l ∈ ls, l.Sound tokens

/-- A plain value becomes a leaf where it is used. -/
def Operand.leaves {t : ValueType} : Operand t → List Leaf
  | .expr e _ => e.leaves
  | .value _ => []

namespace Form

/-- The leaves of what calls take and give. -/
def leaves : (f : Form) → f.Thing → List Leaf
  | .column _, _ => []
  | .param _, p => [.bind p.placeholder]
  | .target _, _ => []
  | .projection _, p => p.expr.leaves
  | .expression _, e => e.expr.leaves
  | .operand _, o => o.leaves
  | .operands _, os => os.flatMap Operand.leaves
  | .predicate, p => p.expr.leaves
  | .predicates, ps => ps.flatMap (·.expr.leaves)
  | .source, s => s.leaves
  | .placeholder, p => [.bind p]
  | .select, q => q.leaves
  | .compound, q => (Query.compound q).leaves
  | .query, q => q.leaves
  | .insert, i => i.values.leaves
  | .updateDraft, u => optionLeaves u.filter
  | .update, u => u.assignments.leaves ++ optionLeaves u.filter
  | .delete, d => optionLeaves d.filter
  | .statement, s => s.leaves

end Form

/-! ## Values that fit -/

theorem Descriptor.fits_of_bindValue {t : ValueType} {d : Descriptor t} {v : Option t.Value}
    {w : StorageValue} (h : d.bindValue v = .ok w) : d.erase.Fits w := by
  cases v with
  | none =>
    rw [bindValue] at h
    split at h
    · cases h
      exact .inl rfl
    · cases h
  | some v => exact .inr (Kind.storageClass?_of_encode h)

variable {tokens : List AnyParam}

theorem sound_nil : Sound tokens [] := List.forall_mem_nil _

theorem sound_append {ls ms : List Leaf} :
    Sound tokens (ls ++ ms) ↔ Sound tokens ls ∧ Sound tokens ms := List.forall_mem_append

theorem sound_cons {l : Leaf} {ls : List Leaf} :
    Sound tokens (l :: ls) ↔ l.Sound tokens ∧ Sound tokens ls := List.forall_mem_cons

theorem sound_flatMap {α : Type} {xs : List α} {f : α → List Leaf} :
    Sound tokens (xs.flatMap f) ↔ ∀ x ∈ xs, Sound tokens (f x) := by
  simp only [Sound, List.mem_flatMap]
  exact ⟨fun h x hx l hl => h l ⟨x, hx, hl⟩, fun h l ⟨x, hx, hl⟩ => h x hx l hl⟩

/-- A plain value is encoded under the descriptor it is stored as. -/
theorem Operand.sound_toExpr {t : ValueType} {o : Operand t} (h : Sound tokens o.leaves)
    (d : Descriptor t) : Sound tokens (o.toExpr d).leaves := by
  cases o with
  | expr e nullable => exact h
  | value v => exact List.forall_mem_singleton.2 fun _ => Descriptor.fits_of_bindValue

/-- The parts of a composite value fit their columns. -/
theorem CompositeColumn.sound_presets {α : Type} {c : CompositeColumn α} {v : α}
    (h : c.SplitsInto v) : ∀ p ∈ c.presets v, p.Sound tokens := by
  intro p hp
  rw [presets, List.mem_mapIdx] at hp
  obtain ⟨i, hi, rfl⟩ := hp
  intro w hw
  obtain ⟨vs, split, part⟩ : ∃ vs, c.kind.split v = .ok vs ∧ vs[i]?.getD .null = w := by
    cases split : c.kind.split v with
    | error e =>
      rw [split] at hw
      cases hw
    | ok vs =>
      rw [split] at hw
      exact ⟨vs, rfl, Except.ok.inj hw⟩
  cases found : vs[i]? with
  | none =>
    rw [found] at part
    exact .inl (part ▸ rfl)
  | some x =>
    rw [found] at part
    have pair : (c.parts[i], x) ∈ c.parts.zip vs := by
      refine List.mem_of_getElem? (i := i) ?_
      rw [List.getElem?_zip_eq_some]
      exact ⟨List.getElem?_eq_getElem hi, found⟩
    exact part ▸ h vs split _ pair

/-! ## Queries and changes grow -/

theorem sound_columns (cs : List ColumnRef) :
    Sound tokens (itemLeaves (cs.map ResultItem.column)) := by
  induction cs with
  | nil => exact sound_nil
  | cons c cs ih => exact sound_cons.2 ⟨trivial, ih⟩

/-- Selecting a column adds no placeholder. -/
theorem Select.sound_columnRef {q : Select} (h : Sound tokens q.leaves) (c : ColumnRef) :
    Sound tokens (q.columnRef c).leaves := by
  rw [columnRef]
  split
  · simp only [leaves_eq, sound_append, itemLeaves_append] at h ⊢
    exact ⟨⟨⟨⟨⟨⟨⟨h.1.1.1.1.1.1.1, h.1.1.1.1.1.1.2, sound_columns [c]⟩, h.1.1.1.1.1.2⟩,
      h.1.1.1.1.2⟩, h.1.1.1.2⟩, h.1.1.2⟩, h.1.2⟩, h.2⟩
  · rw [leaves_eq] at h ⊢
    exact h

theorem Select.sound_composite {α : Type} {q : Select} (h : Sound tokens q.leaves)
    (c : CompositeColumn α) : Sound tokens (q.composite c).leaves := by
  rw [composite]
  induction c.parts generalizing q with
  | nil => exact h
  | cons part parts ih => exact ih (sound_columnRef h part)

/-- What a column is given joins the leaves, unless a mistake is noted. -/
theorem Assignments.sound_give {a : Assignments} (h : Sound tokens a.leaves) (t : Table)
    (c : ColumnRef) {e : Expr} (he : Sound tokens e.leaves) :
    Sound tokens (a.give t c e).leaves := by
  rw [give]
  split
  · exact h
  · split
    · exact h
    · simp only [leaves, List.flatMap_append, List.flatMap_singleton, sound_append, sound_cons]
      exact ⟨h, trivial, he⟩

theorem Insert.sound_setComposite {α : Type} {i : Insert} (h : Sound tokens i.values.leaves)
    {c : CompositeColumn α} {v : α} (split : c.SplitsInto v) :
    Sound tokens (i.setComposite c v).values.leaves := by
  have presets : ∀ p ∈ c.parts.zip (c.presets v), p.2.Sound tokens :=
    fun p hp => CompositeColumn.sound_presets split p.2 (List.of_mem_zip hp).2
  rw [setComposite]
  generalize c.parts.zip (c.presets v) = pairs at presets
  induction pairs generalizing i with
  | nil => exact h
  | cons pair pairs ih =>
    rw [List.forall_mem_cons] at presets
    refine ih (Assignments.sound_give h i.table pair.1 ?_) presets.2
    exact List.forall_mem_singleton.2 presets.1

namespace Source

theorem sound_rename {s r : Source} {id : SetId} {name : String} (h : s.rename id name = .ok r)
    (hs : Sound tokens s.leaves) : Sound tokens r.leaves := by
  obtain ⟨⟨⟩, -, h⟩ := exists_of_bind_eq_ok h
  cases s with
  | relation r' =>
    cases h
    exact sound_cons.2 ⟨trivial, hs⟩
  | _ => cases h

theorem sound_naturalJoin {l r : Source} (hl : Sound tokens l.leaves)
    (hr : Sound tokens r.leaves) : Sound tokens (l.naturalJoin r).leaves := by
  rw [naturalJoin]
  split
  · exact sound_append.2 ⟨sound_append.2 ⟨hl, hr⟩, sound_nil⟩
  · refine sound_append.2 ⟨sound_append.2 ⟨hl, hr⟩, ?_⟩
    rw [optionLeaves, Predicate.all, Predicate.leaves_fold, sound_flatMap]
    intro p hp
    obtain ⟨pair, -, rfl⟩ := List.mem_map.1 hp
    exact sound_cons.2 ⟨trivial, sound_cons.2 ⟨trivial, sound_nil⟩⟩

end Source

/-! ## Calls -/

/-- **Placeholders of what calls put together are tokens handed out, blanks or values that fit.** -/
theorem Assembled.sound {f : Form} {x : f.Thing} (h : Assembled tokens f x) :
    Sound tokens (f.leaves x) := by
  induction h with
  -- Without placeholders, or with those of what was given.
  | column | table | value | resolve | columnTarget | projectionTarget | ofColumn | ofProjection
  | countAll | noOperand | noPredicate | empty | insertInto | updateOf | deleteAll =>
    simp [Form.leaves, Sound, Leaf.Sound, Source.leaves, Relation.leaves, Column.toExpression,
      Projection.toExpression, Expression.countAll, Expr.leaves, Operand.leaves, Select.empty,
      Select.leaves, fromLeaves, itemLeaves, optionLeaves, listLeaves, sortLeaves,
      placeholderLeaves, Assignments.leaves, Delete.allRows]
  | ofParam _ ih | token _ ih | ofExpression _ ih | toPredicate _ ih | ofSelect _ ih
  | ofCompound _ ih | onConflict _ _ ih | query _ ih => exact ih
  -- Tokens and plain values.
  | param handedOut => exact List.forall_mem_singleton.2 handedOut
  | rowCount n =>
    refine List.forall_mem_singleton.2 fun v hv => .inr ?_
    cases hv
    rfl
  | @compositeEq α c v split =>
    have presets : ∀ p ∈ c.presets v, p.Sound tokens := CompositeColumn.sound_presets split
    rw [Form.leaves, CompositeColumn.eq, Predicate.all, Predicate.leaves_fold, sound_flatMap]
    intro p hp
    rw [← List.map_uncurry_zip_eq_zipWith] at hp
    obtain ⟨⟨part, preset⟩, pair, rfl⟩ := List.mem_map.1 hp
    exact sound_cons.2 ⟨trivial, sound_cons.2 ⟨presets preset (List.of_mem_zip pair).2, sound_nil⟩⟩
  | label id name _ labelled ih =>
    obtain ⟨⟨⟩, -, h⟩ := exists_of_bind_eq_ok labelled
    cases h
    exact ih
  -- Expressions.
  | binary | count | aggregate | avg | mapped | length | coalesce | cast | scalar
  | moreOperands =>
    simp_all only [Form.leaves, Expression.binary, Expression.count, Expression.aggregate,
      Expression.avg, Expression.mapped, Expression.length, Expression.coalesce, Expression.cast,
      Expression.scalar, Expr.leaves, listLeaves, List.flatMap_cons, sound_append, sound_cons,
      sound_nil, Operand.sound_toExpr, Leaf.Sound, and_self]
  -- Conditions.
  | compare | isNull | between | inQuery | like | existsIn | morePredicates | and | or | not | all
  | any =>
    simp_all only [Form.leaves, Expression.compare, Expression.isNull, Expression.between,
      Expression.inQuery, Expression.like, Predicate.existsIn, Predicate.and, Predicate.or,
      Predicate.not, Predicate.all, Predicate.any, Expr.leaves, optionLeaves, List.flatMap_cons,
      sound_append, sound_nil, Operand.sound_toExpr, Expr.leaves_combine, Expr.leaves_negate,
      Predicate.leaves_fold, and_self]
  | inList negated _ _ ihe ihos =>
    refine sound_append.2 ⟨ihe, ?_⟩
    rw [listLeaves_eq_flatMap, List.flatMap_map, sound_flatMap]
    rw [Form.leaves, sound_flatMap] at ihos
    exact fun o ho => Operand.sound_toExpr (ihos o ho) _
  | likeEscape escape _ _ ihe iho =>
    have character : Sound tokens (Operand.value (t := .text) (some escape.toString)).leaves :=
      sound_nil
    exact sound_append.2 ⟨sound_append.2 ⟨ihe, Operand.sound_toExpr iho _⟩,
      Operand.sound_toExpr character _⟩
  | compositeIsNull c =>
    rw [Form.leaves, CompositeColumn.isNull, Predicate.all, Predicate.leaves_fold, sound_flatMap]
    intro p hp
    obtain ⟨part, -, rfl⟩ := List.mem_map.1 hp
    exact sound_cons.2 ⟨trivial, sound_nil⟩
  -- Sources.
  | rename id name _ renamed ih => exact Source.sound_rename renamed ih
  | naturalJoin _ _ ihl ihr => exact Source.sound_naturalJoin ihl ihr
  | view id name _ defined ih =>
    rw [defineView_eq_ok defined]
    exact sound_cons.2 ⟨trivial, ih⟩
  | ofQuery id _ ih => exact sound_cons.2 ⟨trivial, ih⟩
  | joinOn | join =>
    simp_all only [Form.leaves, Source.leaves, optionLeaves, sound_append, sound_nil, and_self]
  -- Queries.
  | selectColumn _ _ ihq => exact Select.sound_columnRef ihq _
  | composite c _ ihq => exact Select.sound_composite ihq c
  | @allColumns q _ ih =>
    rw [Form.leaves, Select.allColumns]
    split
    · simp_all only [Form.leaves, Select.leaves_eq, itemLeaves_append, sound_append, sound_columns,
        and_self]
    · exact ih
  | fromSource | project | selectDistinct | andWhere | andHaving | addGroup | addOrder | limit
  | offset =>
    simp_all only [Form.leaves, Select.leaves_eq, Select.fromSource, Select.project,
      Select.selectDistinct, Select.andWhere, Select.andHaving, Select.addGroup, Select.addOrder,
      Select.withLimit, Select.withOffset, fromLeaves, itemLeaves, optionLeaves, listLeaves,
      sortLeaves, placeholderLeaves, itemLeaves_append, listLeaves_append, sortLeaves_append,
      Expr.leaves_andAlso, Operand.sound_toExpr, Operand.toLoneExpr, sound_append, sound_cons,
      sound_nil, Leaf.Sound, and_self]
  | combine | addBranch | compoundLimit | compoundOffset =>
    simp_all only [Form.leaves, Compound.leaves_eq, Select.combine, Compound.addBranch,
      Compound.withLimit, Compound.withOffset, branchLeaves, branchLeaves_append,
      placeholderLeaves, sound_append, sound_nil, and_self]
  | @compoundOrder _ q x order _ _ ihq _ =>
    rw [Form.leaves, Compound.leaves_eq] at ihq ⊢
    rw [Compound.addOrder]
    split <;> exact ihq
  -- Changes.
  | insertSet _ _ _ ihi _ iho => exact Assignments.sound_give ihi _ _ (Operand.sound_toExpr iho _)
  | insertBlank _ _ ihi =>
    exact Assignments.sound_give ihi _ _ (List.forall_mem_singleton.2 trivial)
  | insertComposite _ split ih => exact Insert.sound_setComposite ih split
  | draftSet _ _ _ ihu _ iho =>
    refine sound_append.2 ⟨?_, ihu⟩
    exact Assignments.sound_give sound_nil _ _ (Operand.sound_toExpr iho _)
  | updateSet _ _ _ ihu _ iho =>
    obtain ⟨given, filter⟩ := sound_append.1 ihu
    exact sound_append.2
      ⟨Assignments.sound_give given _ _ (Operand.sound_toExpr iho _), filter⟩
  | draftWhere | updateWhere | deleteWhere | deleteAndWhere =>
    simp_all only [Form.leaves, UpdateDraft.andWhere, Update.andWhere, Delete.rowsWhere,
      Delete.andWhere, optionLeaves, Expr.leaves_andAlso, sound_append, and_self]
  | insert _ ih | update _ ih | delete _ ih => exact sound_cons.2 ⟨trivial, ih⟩

end TypedSql
